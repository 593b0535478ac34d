import CityGuide.Invalid
import CityGuide.Json.Scalar
import CityGuide.Store.Listing

namespace CityGuide

open Json.Decode Json.Shape Store

structure Promotion where
  id : Uuid
  businessId : Uuid
  userId : Uuid
  title : String
  description : String
  discountPercentage : Int
  startedAt : Time.Instant
  expiresAt : Time.Instant
  createdAt : Time.Instant
  deriving DecidableEq, Repr

namespace Promotion

def table : String := "promotions"

def source : Listing.Source where
  table := table
  called? := none
  joins := []
  columns := [⟨"title", .text, none⟩, ⟨"description", .text, none⟩, ⟨"business_id", .uuid, none⟩,
    ⟨"discount_percentage", .integer, none⟩, ⟨"started_at", .timestamp, none⟩,
    ⟨"expires_at", .timestamp, none⟩, ⟨"created_at", .timestamp, none⟩]

def toJson (p : Promotion) : Json :=
  .record [("id", .uuid p.id), ("business_id", .uuid p.businessId), ("user_id", .uuid p.userId),
    ("title", .text p.title), ("description", .text p.description),
    ("discount_percentage", .int p.discountPercentage), ("started_at", .time p.startedAt),
    ("expires_at", .time p.expiresAt), ("created_at", .time p.createdAt)]

def ofRow (r : Row) : Option Promotion := do
  some {
    id := ← r.get "id" Row.uuid
    businessId := ← r.get "business_id" Row.uuid
    userId := ← r.get "user_id" Row.uuid
    title := ← r.get "title" Row.text
    description := ← r.get "description" Row.text
    discountPercentage := ← r.get "discount_percentage" Row.int4
    startedAt := ← r.get "started_at" Row.timestamp
    expiresAt := ← r.get "expires_at" Row.timestamp
    createdAt := ← r.get "created_at" Row.timestamp }

structure Draft where
  businessId : Uuid
  title : String
  description : String
  discountPercentage : Int
  startedAt : Time.Instant
  expiresAt : Time.Instant
  deriving DecidableEq, Repr

namespace Draft

def decode : Json.Decoder Draft :=
  (Draft.mk <$> required "business_id" uuid <*> required "title" text
    <*> defaulted "description" "" text <*> required "discount_percentage" (signedWord 32)
    <*> required "started_at" instant <*> required "expires_at" instant).decode

def validate (d : Draft) : Valid := do
  requireText "title" d.title
  requireThat (0 ≤ d.discountPercentage && d.discountPercentage ≤ 100) .discount
  requireThat (d.startedAt < d.expiresAt) .expiry

def row (id userId : Uuid) (d : Draft) : List Sql.Assignment :=
  [("id", .uuid id), ("business_id", .uuid d.businessId), ("user_id", .uuid userId),
    ("title", .text (Text.trim d.title)), ("description", .text d.description),
    ("discount_percentage", .int4 d.discountPercentage), ("started_at", .timestamp d.startedAt),
    ("expires_at", .timestamp d.expiresAt)]

end Draft

def find (id : Uuid) : Action Failure (Option Promotion) := Action.optional (.find table id) ofRow

def create (userId : Uuid) (d : Draft) : Action Failure Promotion := do
  let id ← Action.newId
  Action.one (.insert table (d.row id userId) .returning) ofRow

def delete (id : Uuid) : Action Failure Bool :=
  Action.touched (.delete .quoted table [("id", .uuid id)])

def list (r : Listing.Request) : Action ListFailure (Listing.Page Promotion) :=
  fetchPage source (source.select [.everything]) ofRow r

end Promotion

end CityGuide
