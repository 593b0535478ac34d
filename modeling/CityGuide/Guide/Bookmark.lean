import CityGuide.Json.Scalar
import CityGuide.Store.Listing

namespace CityGuide

open Json.Decode Json.Shape Store

structure Bookmark where
  id : Uuid
  userId : Uuid
  businessId : Uuid
  createdAt : Time.Instant
  updatedAt : Time.Instant
  deriving DecidableEq, Repr

namespace Bookmark

def table : String := "bookmarks"

def source : Listing.Source where
  table := table
  called? := none
  joins := []
  columns := [⟨"business_id", .uuid, none⟩, ⟨"user_id", .uuid, none⟩,
    ⟨"created_at", .timestamp, none⟩, ⟨"updated_at", .timestamp, none⟩]

def toJson (b : Bookmark) : Json :=
  .record [("id", .uuid b.id), ("user_id", .uuid b.userId), ("business_id", .uuid b.businessId),
    ("created_at", .time b.createdAt), ("updated_at", .time b.updatedAt)]

def ofRow (r : Row) : Option Bookmark := do
  some {
    id := ← r.get "id" Row.uuid
    userId := ← r.get "user_id" Row.uuid
    businessId := ← r.get "business_id" Row.uuid
    createdAt := ← r.get "created_at" Row.timestamp
    updatedAt := ← r.get "updated_at" Row.timestamp }

structure Draft where
  businessId : Uuid

namespace Draft

def decode : Json.Decoder Draft := (Draft.mk <$> required "business_id" uuid).decode

def row (id userId : Uuid) (d : Draft) : List Sql.Assignment :=
  [("id", .uuid id), ("user_id", .uuid userId), ("business_id", .uuid d.businessId)]

end Draft

structure Change where
  businessId : Option Uuid

namespace Change

def decode : Json.Decoder Change := (Change.mk <$> optional "business_id" uuid).decode

def assignments (c : Change) : List Sql.Assignment :=
  Sql.present [("business_id", c.businessId.map .uuid)]

end Change

def find (id : Uuid) : Action Failure (Option Bookmark) := Action.optional (.find table id) ofRow

def create (userId : Uuid) (d : Draft) : Action Failure Bookmark := do
  let id ← Action.newId
  Action.one (.insert table (d.row id userId) .returning) ofRow

def update (id : Uuid) (c : Change) : Action Failure (Option Bookmark) :=
  Action.optional (.update table c.assignments id) ofRow

def delete (id : Uuid) : Action Failure Bool :=
  Action.touched (.delete .quoted table [("id", .uuid id)])

def list (r : Listing.Request) : Action ListFailure (Listing.Page Bookmark) :=
  fetchPage source (source.select [.everything]) ofRow r

end Bookmark

end CityGuide
