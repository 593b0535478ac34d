import CityGuide.Api.Handling
import CityGuide.Guide.Business
import CityGuide.Guide.Promotion

namespace CityGuide.Api.Promotions

open Store Handling

def create : Handler := fun r => do
  let caller ← read r.caller
  let draft ← read (r.body Promotion.Draft.decode)
  ofResult (caller.require .managePromotions)
  ofValid draft.validate
  let business ← existing (Business.find draft.businessId)
  ofResult (caller.requireOwner business.ownerId)
  let promotion ← ofStore (Promotion.create caller.userId draft)
  created promotion.toJson

def list : Handler := fun r => do
  let (params, value) ← read (r.query ["business_id"])
  let request := (params.toRequest ["title", "description"]).eq
    "business_id" ((value "business_id").getD "")
  let page ← ofList (Promotion.list request)
  ok (page.toJson Promotion.toJson)

def get : Handler := fun r => do
  let id ← read r.id
  let promotion ← existing (Promotion.find id)
  ok promotion.toJson

def delete : Handler := fun r => do
  let caller ← read r.caller
  let id ← read r.id
  let promotion ← existing (Promotion.find id)
  ofResult (caller.requireOwner promotion.userId)
  removed (Promotion.delete id)
  ok (deleted "promotion")

end CityGuide.Api.Promotions
