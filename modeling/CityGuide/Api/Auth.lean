import CityGuide.Account.Session
import CityGuide.Account.Token
import CityGuide.Api.Handling

namespace CityGuide.Api

open Store Handling
open Json.Decode Json.Shape

structure TokenPolicy where
  secret : Crypto.Bytes
  lifetime : UInt64

namespace Auth

structure Registration where
  fullName : String
  userName : String
  email : String
  password : String
  deriving DecidableEq, Repr

def Registration.decode : Json.Decoder Registration :=
  (Registration.mk <$> required "full_name" text <*> required "user_name" text
    <*> required "email" text <*> required "password" text).decode

def Registration.draft (r : Registration) : User.Draft :=
  User.Draft.trimmed ⟨r.fullName, r.userName, r.email, r.password, none⟩

structure Credentials where
  email : String
  password : String
  deriving DecidableEq, Repr

def Credentials.decode : Json.Decoder Credentials :=
  (Credentials.mk <$> required "email" text <*> required "password" text).decode

def register : Handler := fun r => do
  let registration ← read (r.body Registration.decode)
  let draft := registration.draft
  ofValid draft.validate
  let user ← ofStore (User.create draft)
  created user.toJson

def maxUserAgentBytes : Nat := 512

def userAgent (r : Http.Request) : Option String :=
  (r.headerText? "user-agent").map (Text.truncated maxUserAgentBytes)

def authenticated (c : Credentials) : Handling User := do
  match ← ofStore (User.findByEmail (Text.trim c.email)) with
  | some user => if user.acceptsPassword c.password then pure user else refuse .unauthorized
  | none => refuse .unauthorized

def login (policy : TokenPolicy) : Handler := fun r => do
  let credentials ← read (r.body Credentials.decode)
  let user ← authenticated credentials
  if user.isActive then do
    let now ← Action.now
    match Token.expiresAt policy.lifetime now with
    | none => Action.crash
    | some expiresAt => do
        let session ← ofStore (Session.create user.id (userAgent r.request) expiresAt)
        ok (Token.issue policy.secret user.id user.userType session.id now expiresAt).toJson
  else refuse (.forbidden "account is blocked")

def logout : Handler := fun r => do
  let caller ← read r.caller
  let _ ← ofStore (Session.delete caller.sessionId)
  ok (messageJson "logged out")

end Auth

end CityGuide.Api
