import CityGuide.Account.Session
import CityGuide.Api.Handling

namespace CityGuide.Api.Users

open Store Handling

def create : Handler := fun r => do
  let caller ← read r.caller
  let draft ← read (r.body User.Draft.decode)
  ofResult (caller.require .administerUsers)
  let draft := draft.trimmed
  ofValid draft.validate
  let user ← ofStore (User.create draft)
  created user.toJson

def list : Handler := fun r => do
  let caller ← read r.caller
  let (params, value) ← read (r.query ["user_type", "status"])
  ofResult (caller.require .administerUsers)
  let request := ((params.toRequest ["full_name", "user_name", "email"]).eq
    "user_type" ((value "user_type").getD "")).eq "status" ((value "status").getD "")
  let page ← ofList (User.list request)
  ok (page.toJson User.toJson)

def get : Handler := fun r => do
  let _ ← read r.caller
  let id ← read r.id
  let user ← existing (User.find id)
  ok user.toJson

def applyChange (caller : Caller) (id : Uuid) (change : User.Change) : Handling Http.Response := do
  ofResult (caller.requireOwner id)
  if change.changesPrivileges then ofResult (caller.require .administerUsers) else pure ()
  ofValid change.validate
  let user ← existing (User.update id change)
  if change.revokesSessions then do
    let _ ← ofStore (Session.deleteForUser id)
    ok user.toJson
  else ok user.toJson

def updateSelf : Handler := fun r => do
  let caller ← read r.caller
  let change ← read (r.body User.Change.decode)
  applyChange caller caller.userId change

def update : Handler := fun r => do
  let caller ← read r.caller
  let id ← read r.id
  let change ← read (r.body User.Change.decode)
  applyChange caller id change

def delete : Handler := fun r => do
  let caller ← read r.caller
  let id ← read r.id
  ofResult (caller.requireOwner id)
  removed (User.delete id)
  ok (deleted "user")

end CityGuide.Api.Users
