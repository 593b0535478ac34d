import CityGuide.Invalid
import CityGuide.Json.Scalar
import CityGuide.Store.Listing

namespace CityGuide

open Json.Decode Json.Shape Store

structure Event where
  id : Uuid
  businessId : Uuid
  title : String
  description : String
  location : String
  startsAt : Time.Instant
  endsAt : Option Time.Instant
  createdAt : Time.Instant
  updatedAt : Time.Instant
  deriving DecidableEq, Repr

namespace Event

def table : String := "events"

def source : Listing.Source where
  table := table
  called? := none
  joins := []
  columns := [⟨"title", .text, none⟩, ⟨"description", .text, none⟩, ⟨"location", .text, none⟩,
    ⟨"business_id", .uuid, none⟩, ⟨"starts_at", .timestamp, none⟩, ⟨"ends_at", .timestamp, none⟩,
    ⟨"created_at", .timestamp, none⟩, ⟨"updated_at", .timestamp, none⟩]

def toJson (e : Event) : Json :=
  .record [("id", .uuid e.id), ("business_id", .uuid e.businessId), ("title", .text e.title),
    ("description", .text e.description), ("location", .text e.location),
    ("starts_at", .time e.startsAt), ("ends_at", .opt .time e.endsAt),
    ("created_at", .time e.createdAt), ("updated_at", .time e.updatedAt)]

def ofRow (r : Row) : Option Event := do
  some {
    id := ← r.get "id" Row.uuid
    businessId := ← r.get "business_id" Row.uuid
    title := ← r.get "title" Row.text
    description := ← r.get "description" Row.text
    location := ← r.get "location" Row.text
    startsAt := ← r.get "starts_at" Row.timestamp
    endsAt := ← r.get "ends_at" (Row.nullable Row.timestamp)
    createdAt := ← r.get "created_at" Row.timestamp
    updatedAt := ← r.get "updated_at" Row.timestamp }

def validateWindow (startsAt : Time.Instant) (endsAt : Option Time.Instant) : Valid :=
  given endsAt fun e => requireThat (!decide (e < startsAt)) .window

structure Draft where
  businessId : Uuid
  title : String
  description : String
  location : String
  startsAt : Time.Instant
  endsAt : Option Time.Instant
  deriving DecidableEq, Repr

namespace Draft

def decode : Json.Decoder Draft :=
  (Draft.mk <$> required "business_id" uuid <*> required "title" text
    <*> defaulted "description" "" text <*> defaulted "location" "" text
    <*> required "starts_at" instant <*> optional "ends_at" instant).decode

def validate (d : Draft) : Valid := do
  requireText "title" d.title
  validateWindow d.startsAt d.endsAt

def row (id : Uuid) (d : Draft) : List Sql.Assignment :=
  [("id", .uuid id), ("business_id", .uuid d.businessId), ("title", .text (Text.trim d.title)),
    ("description", .text d.description), ("location", .text d.location),
    ("starts_at", .timestamp d.startsAt), ("ends_at", .opt .timestamp .timestamp d.endsAt)]

end Draft

structure Change where
  title : Option String
  description : Option String
  location : Option String
  startsAt : Option Time.Instant
  endsAt : Option Time.Instant
  deriving DecidableEq, Repr

namespace Change

def decode : Json.Decoder Change :=
  (Change.mk <$> optional "title" text <*> optional "description" text <*> optional "location" text
    <*> optional "starts_at" instant <*> optional "ends_at" instant).decode

def validate (existing : Event) (c : Change) : Valid := do
  given c.title (requireText "title")
  validateWindow (c.startsAt.getD existing.startsAt) (c.endsAt <|> existing.endsAt)

def assignments (c : Change) : List Sql.Assignment :=
  Sql.present [("title", c.title.map fun s => .text (Text.trim s)),
    ("description", c.description.map .text), ("location", c.location.map .text),
    ("starts_at", c.startsAt.map .timestamp), ("ends_at", c.endsAt.map .timestamp)]

end Change

def find (id : Uuid) : Action Failure (Option Event) := Action.optional (.find table id) ofRow

def create (d : Draft) : Action Failure Event := do
  let id ← Action.newId
  Action.one (.insert table (d.row id) .returning) ofRow

def update (id : Uuid) (c : Change) : Action Failure (Option Event) :=
  Action.optional (.update table c.assignments id) ofRow

def delete (id : Uuid) : Action Failure Bool :=
  Action.touched (.delete .quoted table [("id", .uuid id)])

def list (r : Listing.Request) : Action ListFailure (Listing.Page Event) :=
  fetchPage source (source.select [.everything]) ofRow r

end Event

structure Participant where
  eventId : Uuid
  userId : Uuid
  fullName : String
  userName : String
  profilePicture : Option String
  joinedAt : Time.Instant
  deriving DecidableEq, Repr

namespace Participant

def table : String := "event_participants"

def source : Listing.Source where
  table := table
  called? := some "ep"
  joins := [⟨"users", "u", "id", ⟨"ep", "user_id"⟩⟩]
  columns := [⟨"event_id", .uuid, none⟩, ⟨"created_at", .timestamp, none⟩,
    ⟨"full_name", .text, some "u"⟩, ⟨"user_name", .text, some "u"⟩]

def fields : List Sql.Field :=
  [.column ⟨"ep", "event_id"⟩, .column ⟨"ep", "user_id"⟩, .column ⟨"u", "full_name"⟩,
    .column ⟨"u", "user_name"⟩, .column ⟨"u", "profile_picture"⟩,
    .named ⟨"ep", "created_at"⟩ "joined_at"]

def toJson (p : Participant) : Json :=
  .record [("event_id", .uuid p.eventId), ("user_id", .uuid p.userId),
    ("full_name", .text p.fullName), ("user_name", .text p.userName),
    ("profile_picture", .opt .text p.profilePicture), ("joined_at", .time p.joinedAt)]

def ofRow (r : Row) : Option Participant := do
  some {
    eventId := ← r.get "event_id" Row.uuid
    userId := ← r.get "user_id" Row.uuid
    fullName := ← r.get "full_name" Row.text
    userName := ← r.get "user_name" Row.text
    profilePicture := ← r.get "profile_picture" (Row.nullable Row.text)
    joinedAt := ← r.get "joined_at" Row.timestamp }

structure Request where
  eventId : Uuid
  userId : Option Uuid
  deriving DecidableEq, Repr

def Request.decode : Json.Decoder Request :=
  (Request.mk <$> required "event_id" uuid <*> optional "user_id" uuid).decode

def keys (eventId userId : Uuid) : List Sql.Assignment :=
  [("event_id", .uuid eventId), ("user_id", .uuid userId)]

def add (eventId userId : Uuid) : Action Failure Bool :=
  Action.touched (.insert table (keys eventId userId) (.keepExistingOn ["event_id", "user_id"]))

def remove (eventId userId : Uuid) : Action Failure Bool :=
  Action.touched (.delete .plain table (keys eventId userId))

def list (r : Listing.Request) : Action ListFailure (Listing.Page Participant) :=
  fetchPage source (source.select fields) ofRow r

end Participant

end CityGuide
