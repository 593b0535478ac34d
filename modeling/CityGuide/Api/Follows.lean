import CityGuide.Api.Handling
import CityGuide.Social.Follow

namespace CityGuide.Api.Follows

open Store Handling

def toggle : Handler := fun r => do
  let caller ← read r.caller
  let body ← read (r.body Follower.Request.decode)
  ofResult (caller.require .followUsers)
  if body.followingId = caller.userId then refuse (.badRequest "cannot follow yourself")
  else do
    let t ← ofStore (Follower.toggle caller.userId body.followingId)
    ok t.toJson

def followed (caller : Caller) (requested : Option String) : Incoming.Reading Uuid :=
  match requested with
  | none => .ok caller.userId
  | some s =>
      match Uuid.ofText? s with
      | some u => .ok u
      | none => .error (.unreadable 400)

def list : Handler := fun r => do
  let caller ← read r.caller
  let (params, value) ← read (r.query ["user_id"])
  let userId ← read (followed caller (value "user_id"))
  let page ← ofList (Follower.list
    ((params.toRequest ["user_name", "full_name"]).eq "following_id" userId.text))
  ok (page.toJson Follower.toJson)

end CityGuide.Api.Follows
