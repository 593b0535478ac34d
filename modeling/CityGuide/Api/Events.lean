import CityGuide.Api.Handling
import CityGuide.Guide.Business
import CityGuide.Guide.Event

namespace CityGuide.Api.Events

open Store Handling

def requireOwner (caller : Caller) (businessId : Uuid) : Handling Unit := do
  let business ← existing (Business.find businessId)
  ofResult (caller.requireOwner business.ownerId)

def create : Handler := fun r => do
  let caller ← read r.caller
  let draft ← read (r.body Event.Draft.decode)
  ofResult (caller.require .manageEvents)
  ofValid draft.validate
  requireOwner caller draft.businessId
  let event ← ofStore (Event.create draft)
  created event.toJson

def list : Handler := fun r => do
  let (params, value) ← read (r.query ["business_id"])
  let request := (params.toRequest ["title", "description", "location"]).eq
    "business_id" ((value "business_id").getD "")
  let page ← ofList (Event.list request)
  ok (page.toJson Event.toJson)

def get : Handler := fun r => do
  let id ← read r.id
  let event ← existing (Event.find id)
  ok event.toJson

def owned (caller : Caller) (id : Uuid) : Handling Event := do
  let event ← existing (Event.find id)
  requireOwner caller event.businessId
  pure event

def update : Handler := fun r => do
  let caller ← read r.caller
  let id ← read r.id
  let change ← read (r.body Event.Change.decode)
  let event ← owned caller id
  ofValid (change.validate event)
  let updated ← existing (Event.update id change)
  ok updated.toJson

def delete : Handler := fun r => do
  let caller ← read r.caller
  let id ← read r.id
  let _ ← owned caller id
  removed (Event.delete id)
  ok (deleted "event")

def participant (caller : Caller) (requested : Option Uuid) : Result Uuid :=
  match requested with
  | none => .ok caller.userId
  | some userId =>
      if userId ≠ caller.userId && !caller.isAdmin then
        .error (.forbidden "cannot change another user's participation")
      else .ok userId

def addParticipant : Handler := fun r => do
  let caller ← read r.caller
  let body ← read (r.body Participant.Request.decode)
  ofResult (caller.require .joinEvents)
  let userId ← ofResult (participant caller body.userId)
  let _ ← existing (Event.find body.eventId)
  if ← ofStore (Participant.add body.eventId userId) then
    created (messageJson "participant added")
  else ok (messageJson "already participating")

def removeParticipant : Handler := fun r => do
  let caller ← read r.caller
  let body ← read (r.body Participant.Request.decode)
  let userId ← ofResult (participant caller body.userId)
  removed (Participant.remove body.eventId userId)
  ok (deleted "participant")

def listParticipants : Handler := fun r => do
  let id ← read r.id
  let (params, _) ← read (r.query [])
  let _ ← existing (Event.find id)
  let page ← ofList
    (Participant.list ((params.toRequest ["full_name", "user_name"]).eq "event_id" id.text))
  ok (page.toJson Participant.toJson)

end CityGuide.Api.Events
