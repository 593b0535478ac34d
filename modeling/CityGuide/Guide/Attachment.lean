import CityGuide.Invalid
import CityGuide.Json.Scalar
import CityGuide.Store.Program

namespace CityGuide

open Json.Decode Json.Shape

inductive AttachmentOwner where
  | business
  | review
  deriving DecidableEq, Repr

namespace AttachmentOwner

def table : AttachmentOwner → String
  | business => "business_attachments"
  | review => "review_attachments"

def ownerColumn : AttachmentOwner → String
  | business => "business_id"
  | review => "review_id"

def aggregate (a : String) : String :=
  "COALESCE(JSON_AGG(JSON_BUILD_OBJECT('id', " ++ a ++ ".id, 'filepath', " ++ a ++
    ".filepath, 'content_type', " ++ a ++ ".content_type, 'created_at', " ++ a ++
    ".created_at) ORDER BY " ++ a ++ ".created_at) FILTER (WHERE " ++ a ++ ".id IS NOT NULL), '[]')"

end AttachmentOwner

structure Attachment where
  id : Uuid
  filepath : String
  contentType : String
  createdAt : Time.Instant
  deriving DecidableEq, Repr

namespace Attachment

def toJson (a : Attachment) : Json :=
  .record [("id", .uuid a.id), ("filepath", .text a.filepath),
    ("content_type", .text a.contentType), ("created_at", .time a.createdAt)]

def decode : Json.Decoder Attachment :=
  (Attachment.mk <$> required "id" uuid <*> required "filepath" text
    <*> required "content_type" text <*> required "created_at" instant).decode

structure Input where
  filepath : String
  contentType : String
  deriving DecidableEq, Repr

namespace Input

def decode : Json.Decoder Input :=
  (Input.mk <$> required "filepath" text <*> required "content_type" text).decode

def maxPathBytes : Nat := 1024

def validate (a : Input) : Valid := do
  requireThat (!Text.isBlankText a.filepath) .noPath
  requireThat (a.filepath.utf8ByteSize ≤ maxPathBytes) .longPath
  requireThat (a.contentType.toList.contains '/') (.contentType a.contentType)

def row (ownerId id : Uuid) (a : Input) : List Sql.Value :=
  [.uuid id, .text (Text.trim a.filepath), .text (Text.trim a.contentType), .uuid ownerId]

end Input

def validateAll : List Input → Valid
  | [] => .ok ()
  | a :: more => do
      a.validate
      validateAll more

open Store

def clear (owner : AttachmentOwner) (ownerId : Uuid) : Sql.Statement :=
  .delete .quoted owner.table [(owner.ownerColumn, .uuid ownerId)]

def insertion (owner : AttachmentOwner) (rows : List (List Sql.Value)) : Sql.Statement :=
  .insertAll owner.table ["id", "filepath", "content_type", owner.ownerColumn] rows

def freshRows {ε : Type} (ownerId : Uuid) : List Input → Action ε (List (List Sql.Value))
  | [] => pure []
  | a :: more => do
      let id ← Action.newId
      let rows ← freshRows ownerId more
      pure (a.row ownerId id :: rows)

def replace (owner : AttachmentOwner) (ownerId : Uuid) (inputs : List Input) :
    Action Failure Unit := do
  let _ ← Action.run (clear owner ownerId)
  if inputs.isEmpty then pure ()
  else do
    let rows ← freshRows ownerId inputs
    let _ ← Action.run (insertion owner rows)
    pure ()

end Attachment

end CityGuide
