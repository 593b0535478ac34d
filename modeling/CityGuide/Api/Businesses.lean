import CityGuide.Api.Handling
import CityGuide.Guide.Business

namespace CityGuide.Api.Businesses

open Store Handling

def ownerFor (caller : Caller) (d : Business.Draft) : Uuid :=
  match d.ownerId with
  | some owner => if caller.isAdmin then owner else caller.userId
  | none => caller.userId

def create : Handler := fun r => do
  let caller ← read r.caller
  let draft ← read (r.body Business.Draft.decode)
  ofResult (caller.require .manageBusinesses)
  ofValid draft.validate
  let details ← ofStore (Business.create (ownerFor caller draft) draft)
  created details.toJson

def list : Handler := fun r => do
  let (params, value) ← read (r.query ["category_id", "owner_id"])
  let request := ((params.toRequest ["name", "address", "description"]).eq
    "category_id" ((value "category_id").getD "")).eq "owner_id" ((value "owner_id").getD "")
  let page ← ofList (Business.list request)
  ok (page.toJson Business.Details.toJson)

def get : Handler := fun r => do
  let id ← read r.id
  let details ← existing (Business.findDetails id)
  ok details.toJson

def owned (caller : Caller) (id : Uuid) : Handling Unit := do
  let business ← existing (Business.find id)
  ofResult (caller.requireOwner business.ownerId)

def update : Handler := fun r => do
  let caller ← read r.caller
  let id ← read r.id
  let change ← read (r.body Business.Change.decode)
  owned caller id
  ofValid change.validate
  let details ← existing (Business.update id change)
  ok details.toJson

def delete : Handler := fun r => do
  let caller ← read r.caller
  let id ← read r.id
  owned caller id
  removed (Business.delete id)
  ok (deleted "business")

end CityGuide.Api.Businesses
