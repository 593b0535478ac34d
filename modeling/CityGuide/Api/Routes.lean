import CityGuide.Api.Auth
import CityGuide.Api.Bookmarks
import CityGuide.Api.Businesses
import CityGuide.Api.Categories
import CityGuide.Api.Events
import CityGuide.Api.Follows
import CityGuide.Api.Notifications
import CityGuide.Api.Promotions
import CityGuide.Api.Reports
import CityGuide.Api.Reviews
import CityGuide.Api.Users

namespace CityGuide.Api

open Http (Method)

inductive Segment where
  | fixed (s : String)
  | name
  deriving DecidableEq, Repr

structure Route where
  pattern : List Segment
  handlers : List (Method × Handler)

namespace Route

def matchSegments : List Segment → List (List Char) → Option (Option (List Char))
  | [], [] => some none
  | .fixed s :: pattern, segment :: more =>
      if segment = s.toList then matchSegments pattern more else none
  | .name :: pattern, segment :: more =>
      if segment.isEmpty then none
      else (matchSegments pattern more).map fun name? => name? <|> some segment
  | [], _ :: _ | _ :: _, [] => none

def handler? (route : Route) (m : Method) : Option Handler :=
  let served := if m = .head then .get else m
  (route.handlers.find? (·.1 = served)).map (·.2)

def allowNames : Method → List String
  | .get => ["GET", "HEAD"]
  | m => [m.name]

def allow (route : Route) : String :=
  ",".intercalate (route.handlers.flatMap fun (m, _) => allowNames m)

end Route

def path (segments : List String) (handlers : List (Method × Handler)) : Route :=
  ⟨segments.map .fixed, handlers⟩

def named (path after : List String) (handlers : List (Method × Handler)) : Route :=
  ⟨path.map .fixed ++ .name :: after.map .fixed, handlers⟩

def healthJson (status : String) (reached : Bool) : Json :=
  .record [("status", .text status), ("postgres", .bool reached)]

def health : Handler := fun _ => do
  let healthy ← Store.Action.lift (ExceptT.run (Store.Action.run .probe))
  match healthy with
  | .ok _ => pure (.json 200 (healthJson "healthy" true))
  | .error _ => pure (.json 503 (healthJson "unhealthy" false))

-- Fixed paths stand before the ones with a name.
def routes (policy : TokenPolicy) : List Route :=
  [path ["healthz"] [(.get, health)],
    path ["v1", "auth", "register"] [(.post, Auth.register)],
    path ["v1", "auth", "login"] [(.post, Auth.login policy)],
    path ["v1", "auth", "logout"] [(.post, Auth.logout)],
    path ["v1", "user"] [(.post, Users.create), (.put, Users.updateSelf)],
    path ["v1", "user", "list"] [(.get, Users.list)],
    named ["v1", "user"] [] [(.get, Users.get), (.put, Users.update), (.delete, Users.delete)],
    path ["v1", "business-category"] [(.post, Categories.create)],
    path ["v1", "business-category", "list"] [(.get, Categories.list)],
    named ["v1", "business-category"] []
      [(.get, Categories.get), (.put, Categories.update), (.delete, Categories.delete)],
    path ["v1", "business"] [(.post, Businesses.create)],
    path ["v1", "business", "list"] [(.get, Businesses.list)],
    named ["v1", "business"] []
      [(.get, Businesses.get), (.put, Businesses.update), (.delete, Businesses.delete)],
    path ["v1", "review"] [(.post, Reviews.create)],
    path ["v1", "review", "list"] [(.get, Reviews.list)],
    named ["v1", "review"] []
      [(.get, Reviews.get), (.put, Reviews.update), (.delete, Reviews.delete)],
    path ["v1", "report"] [(.post, Reports.create)],
    path ["v1", "report", "list"] [(.get, Reports.list)],
    named ["v1", "report"] []
      [(.get, Reports.get), (.put, Reports.update), (.delete, Reports.delete)],
    path ["v1", "notification"] [(.post, Notifications.create)],
    path ["v1", "notification", "list"] [(.get, Notifications.list)],
    path ["v1", "notification", "update-status"] [(.put, Notifications.mark)],
    named ["v1", "notification"] []
      [(.get, Notifications.get), (.put, Notifications.update), (.delete, Notifications.delete)],
    path ["v1", "event"] [(.post, Events.create)],
    path ["v1", "event", "list"] [(.get, Events.list)],
    path ["v1", "event", "add-participant"] [(.post, Events.addParticipant)],
    path ["v1", "event", "remove-participant"] [(.delete, Events.removeParticipant)],
    named ["v1", "event"] []
      [(.get, Events.get), (.put, Events.update), (.delete, Events.delete)],
    named ["v1", "event"] ["participants"] [(.get, Events.listParticipants)],
    path ["v1", "bookmark"] [(.post, Bookmarks.create)],
    path ["v1", "bookmark", "list"] [(.get, Bookmarks.list)],
    named ["v1", "bookmark"] []
      [(.get, Bookmarks.get), (.put, Bookmarks.update), (.delete, Bookmarks.delete)],
    path ["v1", "promotion"] [(.post, Promotions.create)],
    path ["v1", "promotion", "list"] [(.get, Promotions.list)],
    named ["v1", "promotion"] [] [(.get, Promotions.get), (.delete, Promotions.delete)],
    path ["v1", "follower"] [(.post, Follows.toggle)],
    path ["v1", "follower", "list"] [(.get, Follows.list)]]

def findRoute (rs : List Route) (segments : List (List Char)) :
    Option (Route × Option (List Char)) :=
  rs.findSome? fun route =>
    (Route.matchSegments route.pattern segments).map fun name? => (route, name?)

def routeOf (policy : TokenPolicy) (target : String) : Option (Route × Option (List Char)) :=
  (Http.Target.ofString target).segments?.bind (findRoute (routes policy))

end CityGuide.Api
