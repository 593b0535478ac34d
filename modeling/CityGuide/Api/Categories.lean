import CityGuide.Api.Handling
import CityGuide.Guide.Category

namespace CityGuide.Api.Categories

open Store Handling

def validateName (s : String) : Handling Unit := ofValid (requireText "name" s)

def create : Handler := fun r => do
  let caller ← read r.caller
  let draft ← read (r.body Category.Draft.decode)
  ofResult (caller.require .manageCategories)
  validateName draft.name
  let category ← ofStore (Category.create draft)
  created category.toJson

def list : Handler := fun r => do
  let (params, _) ← read (r.query [])
  let page ← ofList (Category.list (params.toRequest ["name"]))
  ok (page.toJson Category.toJson)

def get : Handler := fun r => do
  let id ← read r.id
  let category ← existing (Category.find id)
  ok category.toJson

def update : Handler := fun r => do
  let caller ← read r.caller
  let id ← read r.id
  let change ← read (r.body Category.Change.decode)
  ofResult (caller.require .manageCategories)
  ofValid (given change.name (requireText "name"))
  let category ← existing (Category.update id change)
  ok category.toJson

def delete : Handler := fun r => do
  let caller ← read r.caller
  let id ← read r.id
  ofResult (caller.require .manageCategories)
  removed (Category.delete id)
  ok (deleted "business category")

end CityGuide.Api.Categories
