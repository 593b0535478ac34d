import CityGuide.Invalid
import CityGuide.Json.Scalar
import CityGuide.Store.Listing

namespace CityGuide

open Json.Decode Json.Shape Store

inductive NotificationStatus where
  | unread
  | read
  deriving DecidableEq, Repr

namespace NotificationStatus

def name : NotificationStatus → String
  | unread => "unread"
  | read => "read"

def ofName? : String → Option NotificationStatus
  | "unread" => some unread
  | "read" => some read
  | _ => none

def toJson (s : NotificationStatus) : Json := .text s.name

def decode : Json.Decoder NotificationStatus := choice ofName?

def unknownMessage (s : String) : String := "unknown notification status: " ++ s

end NotificationStatus

structure Notification where
  id : Uuid
  userId : Uuid
  senderId : Option Uuid
  message : String
  status : String
  createdAt : Time.Instant
  updatedAt : Time.Instant
  deriving DecidableEq, Repr

namespace Notification

def table : String := "notifications"

def source : Listing.Source where
  table := table
  called? := none
  joins := []
  columns := [⟨"message", .text, none⟩, ⟨"status", .text, none⟩, ⟨"user_id", .uuid, none⟩,
    ⟨"sender_id", .uuid, none⟩, ⟨"created_at", .timestamp, none⟩, ⟨"updated_at", .timestamp, none⟩]

def toJson (n : Notification) : Json :=
  .record [("id", .uuid n.id), ("user_id", .uuid n.userId), ("sender_id", .opt .uuid n.senderId),
    ("message", .text n.message), ("status", .text n.status), ("created_at", .time n.createdAt),
    ("updated_at", .time n.updatedAt)]

def ofRow (r : Row) : Option Notification := do
  some {
    id := ← r.get "id" Row.uuid
    userId := ← r.get "user_id" Row.uuid
    senderId := ← r.get "sender_id" (Row.nullable Row.uuid)
    message := ← r.get "message" Row.text
    status := ← r.get "status" Row.text
    createdAt := ← r.get "created_at" Row.timestamp
    updatedAt := ← r.get "updated_at" Row.timestamp }

structure Draft where
  userId : Uuid
  message : String
  deriving DecidableEq, Repr

namespace Draft

def decode : Json.Decoder Draft :=
  (Draft.mk <$> required "user_id" uuid <*> required "message" text).decode

def validate (d : Draft) : Valid := requireText "message" d.message

def row (id senderId : Uuid) (d : Draft) : List Sql.Assignment :=
  [("id", .uuid id), ("user_id", .uuid d.userId), ("sender_id", .uuid senderId),
    ("message", .text (Text.trim d.message))]

end Draft

structure Change where
  message : Option String
  status : Option NotificationStatus
  deriving DecidableEq, Repr

namespace Change

def decode : Json.Decoder Change :=
  (Change.mk <$> optional "message" text <*> optional "status" NotificationStatus.decode).decode

def validate (c : Change) : Valid := given c.message (requireText "message")

def assignments (c : Change) : List Sql.Assignment :=
  Sql.present [("message", c.message.map .text), ("status", c.status.map fun s => .text s.name)]

end Change

structure Mark where
  status : NotificationStatus
  ids : Option (List Uuid)
  deriving DecidableEq, Repr

namespace Mark

def decode : Json.Decoder Mark :=
  (Mark.mk <$> required "status" NotificationStatus.decode
    <*> defaulted "ids" none (opt (list uuid))).decode

def toJson (m : Mark) : Json :=
  .record [("status", m.status.toJson), ("ids", .opt (Json.many .uuid) m.ids)]

end Mark

def find (id : Uuid) : Action Failure (Option Notification) :=
  Action.optional (.find table id) ofRow

def create (senderId : Uuid) (d : Draft) : Action Failure Notification := do
  let id ← Action.newId
  Action.one (.insert table (d.row id senderId) .returning) ofRow

def update (id : Uuid) (c : Change) : Action Failure (Option Notification) :=
  Action.optional (.update table c.assignments id) ofRow

def mark (userId : Uuid) (m : Mark) : Action Failure Nat :=
  Action.affected (.markNotifications m.status.name userId m.ids)

def delete (id : Uuid) : Action Failure Bool :=
  Action.touched (.delete .quoted table [("id", .uuid id)])

def list (r : Listing.Request) : Action ListFailure (Listing.Page Notification) :=
  fetchPage source (source.select [.everything]) ofRow r

end Notification

end CityGuide
