import CityGuide.Api.Handling
import CityGuide.Guide.Bookmark

namespace CityGuide.Api.Bookmarks

open Store Handling

def create : Handler := fun r => do
  let caller ← read r.caller
  let draft ← read (r.body Bookmark.Draft.decode)
  ofResult (caller.require .bookmarkBusinesses)
  let bookmark ← ofStore (Bookmark.create caller.userId draft)
  created bookmark.toJson

def list : Handler := fun r => do
  let caller ← read r.caller
  let (params, value) ← read (r.query ["business_id", "user_id"])
  let request := ((params.toRequest []).eq
    "user_id" ((caller.scope (value "user_id")).getD "")).eq
    "business_id" ((value "business_id").getD "")
  let page ← ofList (Bookmark.list request)
  ok (page.toJson Bookmark.toJson)

def owned (caller : Caller) (id : Uuid) : Handling Bookmark := do
  let bookmark ← existing (Bookmark.find id)
  ofResult (caller.requireOwner bookmark.userId)
  pure bookmark

def get : Handler := fun r => do
  let caller ← read r.caller
  let id ← read r.id
  let bookmark ← owned caller id
  ok bookmark.toJson

def update : Handler := fun r => do
  let caller ← read r.caller
  let id ← read r.id
  let change ← read (r.body Bookmark.Change.decode)
  let _ ← owned caller id
  let bookmark ← existing (Bookmark.update id change)
  ok bookmark.toJson

def delete : Handler := fun r => do
  let caller ← read r.caller
  let id ← read r.id
  let _ ← owned caller id
  removed (Bookmark.delete id)
  ok (deleted "bookmark")

end CityGuide.Api.Bookmarks
