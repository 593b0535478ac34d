import CityGuide.Invalid
import CityGuide.Json.Scalar
import CityGuide.Store.Listing

namespace CityGuide

open Json.Decode Json.Shape Store

structure Report where
  id : Uuid
  businessId : Uuid
  userId : Uuid
  reason : String
  createdAt : Time.Instant
  updatedAt : Time.Instant
  deriving DecidableEq, Repr

namespace Report

def table : String := "reports"

def source : Listing.Source where
  table := table
  called? := none
  joins := []
  columns := [⟨"reason", .text, none⟩, ⟨"business_id", .uuid, none⟩, ⟨"user_id", .uuid, none⟩,
    ⟨"created_at", .timestamp, none⟩, ⟨"updated_at", .timestamp, none⟩]

def toJson (r : Report) : Json :=
  .record [("id", .uuid r.id), ("business_id", .uuid r.businessId), ("user_id", .uuid r.userId),
    ("reason", .text r.reason), ("created_at", .time r.createdAt),
    ("updated_at", .time r.updatedAt)]

def ofRow (r : Row) : Option Report := do
  some {
    id := ← r.get "id" Row.uuid
    businessId := ← r.get "business_id" Row.uuid
    userId := ← r.get "user_id" Row.uuid
    reason := ← r.get "reason" Row.text
    createdAt := ← r.get "created_at" Row.timestamp
    updatedAt := ← r.get "updated_at" Row.timestamp }

structure Draft where
  businessId : Uuid
  reason : String

namespace Draft

def decode : Json.Decoder Draft :=
  (Draft.mk <$> required "business_id" uuid <*> required "reason" text).decode

def validate (d : Draft) : Valid := requireText "reason" d.reason

def row (id userId : Uuid) (d : Draft) : List Sql.Assignment :=
  [("id", .uuid id), ("business_id", .uuid d.businessId), ("user_id", .uuid userId),
    ("reason", .text (Text.trim d.reason))]

end Draft

structure Change where
  reason : Option String

namespace Change

def decode : Json.Decoder Change := (Change.mk <$> optional "reason" text).decode

def validate (c : Change) : Valid := given c.reason (requireText "reason")

def assignments (c : Change) : List Sql.Assignment :=
  Sql.present [("reason", c.reason.map fun s => .text (Text.trim s))]

end Change

def find (id : Uuid) : Action Failure (Option Report) := Action.optional (.find table id) ofRow

def create (userId : Uuid) (d : Draft) : Action Failure Report := do
  let id ← Action.newId
  Action.one (.insert table (d.row id userId) .returning) ofRow

def update (id : Uuid) (c : Change) : Action Failure (Option Report) :=
  Action.optional (.update table c.assignments id) ofRow

def delete (id : Uuid) : Action Failure Bool :=
  Action.touched (.delete .quoted table [("id", .uuid id)])

def list (r : Listing.Request) : Action ListFailure (Listing.Page Report) :=
  fetchPage source (source.select [.everything]) ofRow r

end Report

end CityGuide
