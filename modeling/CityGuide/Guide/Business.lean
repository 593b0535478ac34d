import CityGuide.Guide.Details
import CityGuide.Store.Listing

namespace CityGuide

open Json.Decode Json.Shape Store

structure ContactInfo where
  phone : Option String
  email : Option String
  website : Option String
  deriving DecidableEq, Repr

namespace ContactInfo

def none : ContactInfo := ⟨.none, .none, .none⟩

def toJson (c : ContactInfo) : Json :=
  .record [("phone", .opt .text c.phone), ("email", .opt .text c.email),
    ("website", .opt .text c.website)]

def decode : Json.Decoder ContactInfo :=
  (ContactInfo.mk <$> defaulted "phone" .none (opt text) <*> defaulted "email" .none (opt text)
    <*> defaulted "website" .none (opt text)).decode

end ContactInfo

structure Hours where
  monday : Option String
  tuesday : Option String
  wednesday : Option String
  thursday : Option String
  friday : Option String
  saturday : Option String
  sunday : Option String
  deriving DecidableEq, Repr

namespace Hours

def none : Hours := ⟨.none, .none, .none, .none, .none, .none, .none⟩

def toJson (h : Hours) : Json :=
  .record [("monday", .opt .text h.monday), ("tuesday", .opt .text h.tuesday),
    ("wednesday", .opt .text h.wednesday), ("thursday", .opt .text h.thursday),
    ("friday", .opt .text h.friday), ("saturday", .opt .text h.saturday),
    ("sunday", .opt .text h.sunday)]

def day (name : String) : Json.Shape (Option String) := defaulted name .none (opt text)

def decode : Json.Decoder Hours :=
  (Hours.mk <$> day "monday" <*> day "tuesday" <*> day "wednesday" <*> day "thursday"
    <*> day "friday" <*> day "saturday" <*> day "sunday").decode

end Hours

structure Business where
  id : Uuid
  name : String
  description : Option String
  categoryId : Uuid
  address : String
  latitude : Option Float
  longitude : Option Float
  contactInfo : ContactInfo
  hours : Hours
  ownerId : Uuid
  createdAt : Time.Instant
  updatedAt : Time.Instant

namespace Business

def table : String := "businesses"

def source : Listing.Source where
  table := table
  called? := some "b"
  joins := []
  columns := [⟨"name", .text, none⟩, ⟨"address", .text, none⟩, ⟨"description", .text, none⟩,
    ⟨"category_id", .uuid, none⟩, ⟨"owner_id", .uuid, none⟩, ⟨"created_at", .timestamp, none⟩,
    ⟨"updated_at", .timestamp, none⟩]

def members (b : Business) : List (String × Json) :=
  [("id", .uuid b.id), ("name", .text b.name), ("description", .opt .text b.description),
    ("category_id", .uuid b.categoryId), ("address", .text b.address),
    ("latitude", .opt .float b.latitude), ("longitude", .opt .float b.longitude),
    ("contact_info", b.contactInfo.toJson), ("hours_of_operation", b.hours.toJson),
    ("owner_id", .uuid b.ownerId), ("created_at", .time b.createdAt),
    ("updated_at", .time b.updatedAt)]

def ofRow (r : Row) : Option Business := do
  some {
    id := ← r.get "id" Row.uuid
    name := ← r.get "name" Row.text
    description := ← r.get "description" (Row.nullable Row.text)
    categoryId := ← r.get "category_id" Row.uuid
    address := ← r.get "address" Row.text
    latitude := ← r.get "latitude" (Row.nullable Row.float8)
    longitude := ← r.get "longitude" (Row.nullable Row.float8)
    contactInfo := ← r.get "contact_info" (Row.json ContactInfo.decode)
    hours := ← r.get "hours_of_operation" (Row.json Hours.decode)
    ownerId := ← r.get "owner_id" Row.uuid
    createdAt := ← r.get "created_at" Row.timestamp
    updatedAt := ← r.get "updated_at" Row.timestamp }

structure Details where
  business : Business
  attachments : List Attachment

namespace Details

def toJson (d : Details) : Json :=
  .record (d.business.members ++ [("attachments", Json.many Attachment.toJson d.attachments)])

def ofRow (r : Row) : Option Details := do
  some ⟨← Business.ofRow r, ← r.get "attachments" (Row.json (list Attachment.decode))⟩

end Details

def detailed : Sql.Select := AttachmentOwner.business.detailed source "ba"

structure Draft where
  name : String
  description : Option String
  categoryId : Uuid
  address : String
  latitude : Option Float
  longitude : Option Float
  contactInfo : ContactInfo
  hours : Hours
  ownerId : Option Uuid
  attachments : List Attachment.Input

def validateCoordinates (latitude longitude : Option Float) : Valid := do
  given latitude fun x => requireThat (-90 ≤ x && x ≤ 90) (.latitude x)
  given longitude fun x => requireThat (-180 ≤ x && x ≤ 180) (.longitude x)

namespace Draft

def decode : Json.Decoder Draft :=
  (Draft.mk <$> required "name" text <*> optional "description" text
    <*> required "category_id" uuid <*> defaulted "address" "" text
    <*> optional "latitude" float <*> optional "longitude" float
    <*> defaulted "contact_info" ContactInfo.none ContactInfo.decode
    <*> defaulted "hours_of_operation" Hours.none Hours.decode
    <*> optional "owner_id" uuid
    <*> defaulted "attachments" [] (list Attachment.Input.decode)).decode

def validate (d : Draft) : Valid := do
  requireText "name" d.name
  validateCoordinates d.latitude d.longitude
  Attachment.validateAll d.attachments

def row (id ownerId : Uuid) (d : Draft) : List Sql.Assignment :=
  [("id", .uuid id), ("name", .text (Text.trim d.name)),
    ("description", .opt .text .text d.description), ("category_id", .uuid d.categoryId),
    ("address", .text d.address), ("latitude", .opt .float8 .float8 d.latitude),
    ("longitude", .opt .float8 .float8 d.longitude), ("contact_info", .json d.contactInfo.toJson),
    ("hours_of_operation", .json d.hours.toJson), ("owner_id", .uuid ownerId)]

end Draft

structure Change where
  name : Option String
  description : Option String
  categoryId : Option Uuid
  address : Option String
  latitude : Option Float
  longitude : Option Float
  contactInfo : Option ContactInfo
  hours : Option Hours
  attachments : Option (List Attachment.Input)

namespace Change

def decode : Json.Decoder Change :=
  (Change.mk <$> optional "name" text <*> optional "description" text
    <*> optional "category_id" uuid <*> optional "address" text
    <*> optional "latitude" float <*> optional "longitude" float
    <*> optional "contact_info" ContactInfo.decode <*> optional "hours_of_operation" Hours.decode
    <*> optional "attachments" (list Attachment.Input.decode)).decode

def validate (c : Change) : Valid := do
  given c.name (requireText "name")
  validateCoordinates c.latitude c.longitude
  given c.attachments Attachment.validateAll

def assignments (c : Change) : List Sql.Assignment :=
  Sql.present [("name", c.name.map .text), ("description", c.description.map .text),
    ("category_id", c.categoryId.map .uuid), ("address", c.address.map .text),
    ("latitude", c.latitude.map .float8), ("longitude", c.longitude.map .float8),
    ("contact_info", c.contactInfo.map fun i => .json i.toJson),
    ("hours_of_operation", c.hours.map fun h => .json h.toJson)]

end Change

def find (id : Uuid) : Action Failure (Option Business) := Action.optional (.find table id) ofRow

def findDetails (id : Uuid) : Action Failure (Option Details) :=
  Action.optional (.select (detailed.byId id)) Details.ofRow

def create (ownerId : Uuid) (d : Draft) : Action Failure Details := do
  let id ← Action.newId
  let _ ← Action.transaction do
    let _ ← Action.run (.insert table (d.row id ownerId) .nothing)
    Attachment.replace .business id d.attachments
    pure (some ())
  match ← findDetails id with
  | some details => pure details
  | none => throw .noRow

def update (id : Uuid) (c : Change) : Action Failure (Option Details) := do
  let updated ← Action.transaction do
    match ← Action.optional (.update table c.assignments id) ofRow with
    | none => pure none
    | some b => do
        match c.attachments with
        | none => pure (some b)
        | some inputs => do
            Attachment.replace .business id inputs
            pure (some b)
  match updated with
  | none => pure none
  | some _ => findDetails id

def delete (id : Uuid) : Action Failure Bool :=
  Action.touched (.delete .quoted table [("id", .uuid id)])

def list (r : Listing.Request) : Action ListFailure (Listing.Page Details) :=
  fetchPage source detailed Details.ofRow r

end Business

end CityGuide
