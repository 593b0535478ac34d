import CityGuide.Api.Handling
import CityGuide.Guide.Review

namespace CityGuide.Api.Reviews

open Store Handling

def create : Handler := fun r => do
  let caller ← read r.caller
  let draft ← read (r.body Review.Draft.decode)
  ofResult (caller.require .writeReviews)
  ofValid draft.validate
  let details ← ofStore (Review.create caller.userId draft)
  created details.toJson

def list : Handler := fun r => do
  let (params, value) ← read (r.query ["business_id", "user_id"])
  let request := ((params.toRequest ["comment"]).eq
    "business_id" ((value "business_id").getD "")).eq "user_id" ((value "user_id").getD "")
  let page ← ofList (Review.list request)
  ok (page.toJson Review.Details.toJson)

def get : Handler := fun r => do
  let id ← read r.id
  let details ← existing (Review.findDetails id)
  ok details.toJson

def owned (caller : Caller) (id : Uuid) : Handling Unit := do
  let review ← existing (Review.find id)
  ofResult (caller.requireOwner review.userId)

def update : Handler := fun r => do
  let caller ← read r.caller
  let id ← read r.id
  let change ← read (r.body Review.Change.decode)
  owned caller id
  ofValid change.validate
  let details ← existing (Review.update id change)
  ok details.toJson

def delete : Handler := fun r => do
  let caller ← read r.caller
  let id ← read r.id
  owned caller id
  removed (Review.delete id)
  ok (deleted "review")

end CityGuide.Api.Reviews
