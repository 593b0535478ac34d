import CityGuide.Json.Scalar
import CityGuide.Store.Listing

namespace CityGuide

open Json.Decode Json.Shape Store

structure Category where
  id : Uuid
  name : String
  createdAt : Time.Instant
  updatedAt : Time.Instant
  deriving DecidableEq, Repr

namespace Category

def table : String := "business_categories"

def source : Listing.Source where
  table := table
  called? := none
  joins := []
  columns := [⟨"name", .text, none⟩, ⟨"created_at", .timestamp, none⟩,
    ⟨"updated_at", .timestamp, none⟩]

def toJson (c : Category) : Json :=
  .record [("id", .uuid c.id), ("name", .text c.name), ("created_at", .time c.createdAt),
    ("updated_at", .time c.updatedAt)]

def ofRow (r : Row) : Option Category := do
  some ⟨← r.get "id" Row.uuid, ← r.get "name" Row.text, ← r.get "created_at" Row.timestamp,
    ← r.get "updated_at" Row.timestamp⟩

structure Draft where
  name : String

def Draft.decode : Json.Decoder Draft := (Draft.mk <$> required "name" text).decode

structure Change where
  name : Option String

def Change.decode : Json.Decoder Change := (Change.mk <$> optional "name" text).decode

def Change.assignments (c : Change) : List Sql.Assignment :=
  Sql.present [("name", c.name.map fun s => .text (Text.trim s))]

def find (id : Uuid) : Action Failure (Option Category) :=
  Action.optional (.find table id) ofRow

def create (d : Draft) : Action Failure Category := do
  let id ← Action.newId
  Action.one (.insert table [("id", .uuid id), ("name", .text (Text.trim d.name))] .returning) ofRow

def update (id : Uuid) (c : Change) : Action Failure (Option Category) :=
  Action.optional (.update table c.assignments id) ofRow

def delete (id : Uuid) : Action Failure Bool :=
  Action.touched (.delete .quoted table [("id", .uuid id)])

def list (r : Listing.Request) : Action ListFailure (Listing.Page Category) :=
  fetchPage source (source.select [.everything]) ofRow r

end Category

end CityGuide
