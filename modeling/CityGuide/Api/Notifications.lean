import CityGuide.Api.Handling
import CityGuide.Social.Notification

namespace CityGuide.Api.Notifications

open Store Handling

def isSender (caller : Caller) (n : Notification) : Bool := n.senderId = some caller.userId

def requireParty (caller : Caller) (n : Notification) : Result Unit :=
  if caller.isAdmin || n.userId = caller.userId || isSender caller n then .ok ()
  else .error (.forbidden "not a party to this notification")

def create : Handler := fun r => do
  let caller ← read r.caller
  let draft ← read (r.body Notification.Draft.decode)
  ofResult (caller.require .sendNotifications)
  ofValid draft.validate
  let notification ← ofStore (Notification.create caller.userId draft)
  created notification.toJson

def list : Handler := fun r => do
  let caller ← read r.caller
  let (params, value) ← read (r.query ["status", "user_id"])
  let request := ((params.toRequest ["message"]).eq
    "user_id" ((caller.scope (value "user_id")).getD "")).eq "status" ((value "status").getD "")
  let page ← ofList (Notification.list request)
  ok (page.toJson Notification.toJson)

def mark : Handler := fun r => do
  let caller ← read r.caller
  let m ← read (r.body Notification.Mark.decode)
  let updated ← ofStore (Notification.mark caller.userId m)
  ok (.record [("updated", .int updated)])

def ofParty (caller : Caller) (id : Uuid) : Handling Notification := do
  let notification ← existing (Notification.find id)
  ofResult (requireParty caller notification)
  pure notification

def get : Handler := fun r => do
  let caller ← read r.caller
  let id ← read r.id
  let notification ← ofParty caller id
  ok notification.toJson

def requireAuthor (caller : Caller) (n : Notification) (c : Notification.Change) : Result Unit :=
  if c.message.isSome && !isSender caller n && !caller.isAdmin then
    .error (.forbidden "only the sender may change the message")
  else .ok ()

def update : Handler := fun r => do
  let caller ← read r.caller
  let id ← read r.id
  let change ← read (r.body Notification.Change.decode)
  let notification ← ofParty caller id
  ofResult (requireAuthor caller notification change)
  ofValid change.validate
  let updated ← existing (Notification.update id change)
  ok updated.toJson

def delete : Handler := fun r => do
  let caller ← read r.caller
  let id ← read r.id
  let _ ← ofParty caller id
  removed (Notification.delete id)
  ok (deleted "notification")

end CityGuide.Api.Notifications
