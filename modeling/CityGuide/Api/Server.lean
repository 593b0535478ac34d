import CityGuide.Api.Routes
import CityGuide.Http.Cors
import CityGuide.Store.Deadline

namespace CityGuide.Api

open Http (Request Response)
open Store

/-- The service as it is configured; the limit on the time of a request is in seconds. -/
structure Server where
  policy : TokenPolicy
  cors : Http.Cors
  timeLimit : UInt64

namespace Server

def ofConfig (c : Config) : Option Server :=
  (Http.Cors.ofOrigins c.origins).map fun cors =>
    ⟨⟨c.secretBytes, c.tokenLifetime⟩, cors, c.requestTimeout⟩

def refused (status : Nat) (why : String) : Response :=
  .json status (.record [("error", .text why)])

def invalidToken (why : String) : Response :=
  (refused 401 why).withHeader "www-authenticate" "Bearer error=\"invalid_token\""

def bearerLead : List Char := "Bearer ".toList

def bearer? (r : Request) : Option String :=
  (r.headerText? "authorization").bind fun s =>
    if s.toList.take bearerLead.length = bearerLead then
      some (Text.trim (String.ofList (s.toList.drop bearerLead.length)))
    else none

def identifiers? (c : Token.Claims) : Option (Uuid × Uuid) := do
  let userId ← Uuid.ofText? c.sub
  let sessionId ← Uuid.ofText? c.jti
  some (sessionId, userId)

def authenticate (s : Server) (token : String) : Action Response Caller := do
  let now ← Action.now
  match Token.verify s.policy.secret now token with
  | .error _ => throw (invalidToken "invalid token")
  | .ok claims =>
      match identifiers? claims with
      | none => throw (invalidToken "invalid token")
      | some (sessionId, userId) => do
          match ← Action.lift (ExceptT.run (Session.activeUserType sessionId userId)) with
          | .ok (some userType) => pure ⟨userId, userType, sessionId⟩
          | .ok none => throw (invalidToken "token has been revoked")
          | .error _ => throw (refused 503 "unable to verify token status")

def settled {α : Type} (f : α → Response) (p : Program (Except α Response)) : Program Response := do
  match ← p with
  | .ok response => pure response
  | .error e => pure (f e)

def respond (h : Handler) (r : Incoming) : Program Response :=
  settled Stop.response (ExceptT.run (h r))

def dispatch (s : Server) (r : Request) (caller? : Option Caller) : Program Response :=
  match routeOf s.policy r.target with
  | none => pure (Stop.response (.error .notFound))
  | some (route, name?) =>
      match route.handler? r.method with
      | some h => respond h ⟨r, caller?, name?⟩
      | none => pure (.bare 405)

def identified (s : Server) (r : Request) : Program Response :=
  match bearer? r with
  | none => s.dispatch r none
  | some token => do
      match ← ExceptT.run (s.authenticate token) with
      | .ok caller => s.dispatch r (some caller)
      | .error response => pure response

def shared (s : Server) (r : Request) : Program Response :=
  if r.method = .options then pure (s.cors.preflight r)
  else do
    let response ← s.identified r
    pure (s.cors.allowOrigin r response)

def finished (s : Server) (r : Request) (response : Response) : Response :=
  let response :=
    match routeOf s.policy r.target with
    | some (route, _) =>
        if (route.handler? r.method).isSome then response
        else response.withDefault "allow" route.allow
    | none => response
  if r.method = .head then { response with body := .empty } else response

def handle (s : Server) (r : Request) : Program Response := do
  let response ← s.shared r
  pure (s.finished r response)

def ticksPerSecond : Nat := 1000

def maxTicks (s : Server) : Nat := s.timeLimit.toNat * ticksPerSecond

def overdue : Response := .bare 408

-- The timer stands outside the sharing of origins, so that a late answer names none.
def answer (s : Server) (pace : Pace) (r : Request) : Program Response := do
  let response? ← (s.handle r).within s.maxTicks pace false 0
  pure (response?.getD overdue)

end Server

end CityGuide.Api
