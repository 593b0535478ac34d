import CityGuide.Account.User

namespace CityGuide

open Store

structure Session where
  id : Uuid
  userId : Uuid
  userAgent : Option String
  expiresAt : Time.Instant
  createdAt : Time.Instant
  deriving DecidableEq, Repr

namespace Session

def table : String := "sessions"

def ofRow (r : Row) : Option Session := do
  some ⟨← r.get "id" Row.uuid, ← r.get "user_id" Row.uuid,
    ← r.get "user_agent" (Row.nullable Row.text), ← r.get "expires_at" Row.timestamp,
    ← r.get "created_at" Row.timestamp⟩

def create (userId : Uuid) (userAgent : Option String) (expiresAt : Time.Instant) :
    Action Failure Session := do
  let id ← Action.newId
  Action.one (.insert table [("id", .uuid id), ("user_id", .uuid userId),
    ("user_agent", .opt .text .text userAgent), ("expires_at", .timestamp expiresAt)] .returning)
    ofRow

def activeUserType (sessionId userId : Uuid) : Action Failure (Option UserType) :=
  Action.optional (.activeSession sessionId userId) fun row => row.first User.readType

def delete (id : Uuid) : Action Failure Bool :=
  Action.touched (.delete .plain table [("id", .uuid id)])

def deleteForUser (userId : Uuid) : Action Failure Nat :=
  Action.affected (.delete .plain table [("user_id", .uuid userId)])

def purgeExpired : Action Failure Nat := Action.affected .purgeSessions

end Session

end CityGuide
