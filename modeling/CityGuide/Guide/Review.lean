import CityGuide.Guide.Details
import CityGuide.Store.Listing

namespace CityGuide

open Json.Decode Json.Shape Store

structure Review where
  id : Uuid
  businessId : Uuid
  userId : Uuid
  rating : Int
  comment : String
  createdAt : Time.Instant
  updatedAt : Time.Instant
  deriving DecidableEq, Repr

namespace Review

def table : String := "reviews"

def source : Listing.Source where
  table := table
  called? := some "r"
  joins := []
  columns := [⟨"comment", .text, none⟩, ⟨"business_id", .uuid, none⟩, ⟨"user_id", .uuid, none⟩,
    ⟨"rating", .integer, none⟩, ⟨"created_at", .timestamp, none⟩, ⟨"updated_at", .timestamp, none⟩]

def members (r : Review) : List (String × Json) :=
  [("id", .uuid r.id), ("business_id", .uuid r.businessId), ("user_id", .uuid r.userId),
    ("rating", .int r.rating), ("comment", .text r.comment), ("created_at", .time r.createdAt),
    ("updated_at", .time r.updatedAt)]

def ofRow (r : Row) : Option Review := do
  some {
    id := ← r.get "id" Row.uuid
    businessId := ← r.get "business_id" Row.uuid
    userId := ← r.get "user_id" Row.uuid
    rating := ← r.get "rating" Row.int4
    comment := ← r.get "comment" Row.text
    createdAt := ← r.get "created_at" Row.timestamp
    updatedAt := ← r.get "updated_at" Row.timestamp }

structure Details where
  review : Review
  attachments : List Attachment

namespace Details

def toJson (d : Details) : Json :=
  .record (d.review.members ++ [("attachments", Json.many Attachment.toJson d.attachments)])

def ofRow (r : Row) : Option Details := do
  some ⟨← Review.ofRow r, ← r.get "attachments" (Row.json (list Attachment.decode))⟩

end Details

def detailed : Sql.Select := AttachmentOwner.review.detailed source "ra"

def minRating : Int := 1

def maxRating : Int := 5

def validateRating (n : Int) : Valid := requireThat (minRating ≤ n && n ≤ maxRating) .rating

structure Draft where
  businessId : Uuid
  rating : Int
  comment : String
  attachments : List Attachment.Input

namespace Draft

def decode : Json.Decoder Draft :=
  (Draft.mk <$> required "business_id" uuid <*> required "rating" (signedWord 32)
    <*> defaulted "comment" "" text
    <*> defaulted "attachments" [] (list Attachment.Input.decode)).decode

def validate (d : Draft) : Valid := do
  validateRating d.rating
  Attachment.validateAll d.attachments

def row (id userId : Uuid) (d : Draft) : List Sql.Assignment :=
  [("id", .uuid id), ("business_id", .uuid d.businessId), ("user_id", .uuid userId),
    ("rating", .int4 d.rating), ("comment", .text (Text.trim d.comment))]

end Draft

structure Change where
  rating : Option Int
  comment : Option String
  attachments : Option (List Attachment.Input)

namespace Change

def decode : Json.Decoder Change :=
  (Change.mk <$> optional "rating" (signedWord 32) <*> optional "comment" text
    <*> optional "attachments" (list Attachment.Input.decode)).decode

def validate (c : Change) : Valid := do
  given c.rating validateRating
  given c.attachments Attachment.validateAll

def assignments (c : Change) : List Sql.Assignment :=
  Sql.present [("rating", c.rating.map .int4),
    ("comment", c.comment.map fun s => .text (Text.trim s))]

end Change

def find (id : Uuid) : Action Failure (Option Review) := Action.optional (.find table id) ofRow

def findDetails (id : Uuid) : Action Failure (Option Details) :=
  Action.optional (.select (detailed.byId id)) Details.ofRow

def create (userId : Uuid) (d : Draft) : Action Failure Details := do
  let id ← Action.newId
  let _ ← Action.transaction do
    let _ ← Action.run (.insert table (d.row id userId) .nothing)
    Attachment.replace .review id d.attachments
    pure (some ())
  match ← findDetails id with
  | some details => pure details
  | none => throw .noRow

def update (id : Uuid) (c : Change) : Action Failure (Option Details) := do
  let updated ← Action.transaction do
    match ← Action.optional (.update table c.assignments id) ofRow with
    | none => pure none
    | some r => do
        match c.attachments with
        | none => pure (some r)
        | some inputs => do
            Attachment.replace .review id inputs
            pure (some r)
  match updated with
  | none => pure none
  | some _ => findDetails id

def delete (id : Uuid) : Action Failure Bool :=
  Action.touched (.delete .quoted table [("id", .uuid id)])

def list (r : Listing.Request) : Action ListFailure (Listing.Page Details) :=
  fetchPage source detailed Details.ofRow r

end Review

end CityGuide
