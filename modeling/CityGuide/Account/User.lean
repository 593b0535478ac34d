import CityGuide.Account.UserType
import CityGuide.Invalid
import CityGuide.Json.Scalar
import CityGuide.Store.Listing

namespace CityGuide

open Json.Decode Json.Shape Store

structure User where
  id : Uuid
  fullName : String
  userName : String
  email : String
  passwordHash : String
  userType : UserType
  status : String
  profilePicture : Option String
  gender : Option String
  bio : Option String
  createdAt : Time.Instant
  updatedAt : Time.Instant
  deriving DecidableEq, Repr

namespace User

def table : String := "users"

def source : Listing.Source where
  table := table
  called? := none
  joins := []
  columns := [⟨"full_name", .text, none⟩, ⟨"user_name", .text, none⟩, ⟨"email", .text, none⟩,
    ⟨"user_type", .text, none⟩, ⟨"status", .text, none⟩, ⟨"created_at", .timestamp, none⟩,
    ⟨"updated_at", .timestamp, none⟩]

def toJson (u : User) : Json :=
  .record [("id", .uuid u.id), ("full_name", .text u.fullName), ("user_name", .text u.userName),
    ("email", .text u.email), ("user_type", u.userType.toJson), ("status", .text u.status),
    ("profile_picture", .opt .text u.profilePicture), ("gender", .opt .text u.gender),
    ("bio", .opt .text u.bio), ("created_at", .time u.createdAt), ("updated_at", .time u.updatedAt)]

def readType : Row.Reader UserType := fun c => (Row.text c).bind UserType.ofName?

def ofRow (r : Row) : Option User := do
  some {
    id := ← r.get "id" Row.uuid
    fullName := ← r.get "full_name" Row.text
    userName := ← r.get "user_name" Row.text
    email := ← r.get "email" Row.text
    passwordHash := ← r.get "password_hash" Row.text
    userType := ← r.get "user_type" readType
    status := ← r.get "status" Row.text
    profilePicture := ← r.get "profile_picture" (Row.nullable Row.text)
    gender := ← r.get "gender" (Row.nullable Row.text)
    bio := ← r.get "bio" (Row.nullable Row.text)
    createdAt := ← r.get "created_at" Row.timestamp
    updatedAt := ← r.get "updated_at" Row.timestamp }

def active : String := "active"

def blocked : String := "blocked"

def isActive (u : User) : Bool := u.status = active

def acceptsPassword (u : User) (password : String) : Bool := Password.verify u.passwordHash password

def validateUserName (s : String) : Valid :=
  requireThat (!s.isEmpty && !s.toList.any Text.isBlank) .userName

def isEmail (cs : List Char) : Bool :=
  match Text.cutOnce '@' cs with
  | some (_ :: _, domain) => domain.contains '.'
  | _ => false

def validateEmail (s : String) : Valid := requireThat (isEmail s.toList) (.email s)

def minPasswordLength : Nat := 8

def validatePassword (s : String) : Valid :=
  requireThat (minPasswordLength ≤ s.length) .shortPassword

structure Draft where
  fullName : String
  userName : String
  email : String
  password : String
  userType : Option UserType
  deriving DecidableEq, Repr

namespace Draft

def decode : Json.Decoder Draft :=
  (Draft.mk <$> required "full_name" text <*> required "user_name" text <*> required "email" text
    <*> required "password" text <*> defaulted "user_type" none (opt UserType.decode)).decode

def validate (d : Draft) : Valid := do
  requireText "full_name" d.fullName
  validateUserName d.userName
  validateEmail d.email
  validatePassword d.password

def trimmed (d : Draft) : Draft :=
  { d with
    fullName := Text.trim d.fullName
    userName := Text.trim d.userName
    email := Text.trim d.email }

end Draft

structure Change where
  fullName : Option String
  userName : Option String
  email : Option String
  password : Option String
  profilePicture : Option String
  gender : Option String
  bio : Option String
  userType : Option UserType
  status : Option String
  deriving DecidableEq, Repr

namespace Change

def decode : Json.Decoder Change :=
  (Change.mk <$> optional "full_name" text <*> optional "user_name" text <*> optional "email" text
    <*> optional "password" text <*> optional "profile_picture" text <*> optional "gender" text
    <*> optional "bio" text <*> optional "user_type" UserType.decode
    <*> optional "status" text).decode

def validate (c : Change) : Valid := do
  given c.userName validateUserName
  given c.email validateEmail
  given c.password validatePassword
  given c.status fun s => requireThat (s = active || s = blocked) .status

def changesPrivileges (c : Change) : Bool := c.userType.isSome || c.status.isSome

def revokesSessions (c : Change) : Bool := c.password.isSome || c.changesPrivileges

def assignments (c : Change) (passwordHash : Option String) : List Sql.Assignment :=
  Sql.present [("full_name", c.fullName.map .text), ("user_name", c.userName.map .text),
    ("email", c.email.map .text), ("password_hash", passwordHash.map .text),
    ("profile_picture", c.profilePicture.map .text), ("gender", c.gender.map .text),
    ("bio", c.bio.map .text), ("user_type", c.userType.map fun t => .text t.name),
    ("status", c.status.map .text)]

end Change

def find (id : Uuid) : Action Failure (Option User) := Action.optional (.find table id) ofRow

def findByEmail (email : String) : Action Failure (Option User) :=
  Action.optional (.findByEmail email) ofRow

def hashed {ε : Type} (password : String) : Action ε String := do
  let salt ← Action.newSalt
  pure (Password.hash salt password)

def create (d : Draft) : Action Failure User := do
  let id ← Action.newId
  let passwordHash ← hashed d.password
  Action.one (.insert table [("id", .uuid id), ("full_name", .text d.fullName),
    ("user_name", .text d.userName), ("email", .text d.email),
    ("password_hash", .text passwordHash),
    ("user_type", .text (d.userType.getD .user).name)] .returning) ofRow

def hashedIfGiven {ε : Type} : Option String → Action ε (Option String)
  | none => pure none
  | some password => do
      let passwordHash ← hashed password
      pure (some passwordHash)

def update (id : Uuid) (c : Change) : Action Failure (Option User) := do
  let passwordHash ← hashedIfGiven c.password
  Action.optional (.update table (c.assignments passwordHash) id) ofRow

def delete (id : Uuid) : Action Failure Bool :=
  Action.touched (.delete .quoted table [("id", .uuid id)])

def list (r : Listing.Request) : Action ListFailure (Listing.Page User) :=
  fetchPage source (source.select [.everything]) ofRow r

end User

end CityGuide
