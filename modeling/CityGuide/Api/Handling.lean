import CityGuide.Api.Guard
import CityGuide.Http.Message
import CityGuide.Http.MediaType
import CityGuide.Http.Target
import CityGuide.Invalid
import CityGuide.Listing.Params
import CityGuide.Store.Listing

namespace CityGuide.Api

open Store

inductive Stop where
  | error (e : Error)
  | unreadable (status : Nat)
  deriving DecidableEq, Repr

def Stop.response : Stop → Http.Response
  | error e => .json e.status e.body
  | unreadable status => .note status

abbrev Handling (α : Type) := Action Stop α

namespace Handling

variable {α : Type}

def ofResult (r : Result α) : Handling α := Action.ofExcept (r.mapError .error)

def refuse (e : Error) : Handling α := Action.ofExcept (.error (.error e))

def ofValid (v : Valid) : Handling Unit :=
  Action.ofExcept (v.mapError fun i => .error (.badRequest i.message))

def ofStore (a : Action Failure α) : Handling α := a.mapError fun f => .error (.ofFailure f)

def listError : ListFailure → Error
  | .unknown u => .query u
  | .store _ => .database

def ofList (a : Action ListFailure α) : Handling α := a.mapError fun f => .error (listError f)

def existing (a : Action Failure (Option α)) : Handling α := do
  ofResult (found (← ofStore a))

def removed (a : Action Failure Bool) : Handling Unit := do
  if ← ofStore a then pure () else refuse .notFound

end Handling

structure Incoming where
  request : Http.Request
  caller? : Option Caller
  name? : Option (List Char)

namespace Incoming

abbrev Reading (α : Type) := Except Stop α

def caller (r : Incoming) : Reading Caller :=
  match r.caller? with
  | some c => .ok c
  | none => .error (.error .unauthorized)

def id (r : Incoming) : Reading Uuid :=
  match ((r.name?.bind Http.segmentText?).bind Uuid.ofText?) with
  | some u => .ok u
  | none => .error (.unreadable 400)

def decoded {α : Type} (dec : Json.Decoder α) (text : String) : Reading α :=
  match Json.decodeText dec text with
  | .ok a => .ok a
  | .error .malformed => .error (.unreadable 400)
  | .error .mismatched => .error (.unreadable 422)

def body {α : Type} (r : Incoming) (dec : Json.Decoder α) : Reading α :=
  if ((r.request.headerText? "content-type").map Http.MediaType.isJson).getD false then
    match r.request.body with
    | .overlong => .error (.unreadable 413)
    | .whole text => decoded dec text
  else .error (.unreadable 415)

def pairs (r : Incoming) : List (String × String) :=
  Http.formPairs (Http.Target.ofString r.request.target).query

def value? (ps : List (String × String)) (name : String) : Option String :=
  (ps.find? (·.1 = name)).map (·.2)

def comesTwice (ps : List (String × String)) (name : String) : Bool :=
  1 < (ps.filter (·.1 = name)).length

def listNames : List String := ["page", "limit", "search", "sort"]

def query (r : Incoming) (names : List String) :
    Reading (Listing.Params × (String → Option String)) :=
  let ps := r.pairs
  if (listNames ++ names).any (comesTwice ps) then .error (.unreadable 400)
  else .ok (⟨value? ps "page", value? ps "limit", value? ps "search", value? ps "sort"⟩, value? ps)

end Incoming

def read {α : Type} (r : Incoming.Reading α) : Handling α := Action.ofExcept r

abbrev Handler := Incoming → Handling Http.Response

def deletedMessage (resource : String) : String := resource ++ " deleted successfully"

def messageJson (s : String) : Json := .record [("message", .text s)]

def deleted (resource : String) : Json := messageJson (deletedMessage resource)

def ok (j : Json) : Handling Http.Response := pure (.json 200 j)

def created (j : Json) : Handling Http.Response := pure (.json 201 j)

end CityGuide.Api
