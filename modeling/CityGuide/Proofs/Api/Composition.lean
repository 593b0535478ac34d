import CityGuide.Proofs.Api.Guards
import CityGuide.Proofs.Api.Logins
import CityGuide.Proofs.Json.Overlooking
import CityGuide.Proofs.Store.Readings

namespace CityGuide.Api

open Http (Request Response)
open Json (Overlooks)
open Store Store.Action Handling

variable {personal : Prop} {α ε : Type}

def Stop.Proper (stop : Stop) : Prop :=
  ∀ status, stop = .unreadable status → status ∈ unreadableStatuses

theorem Stop.proper_error (e : Error) : Stop.Proper (.error e) := by
  intro status h
  simp at h

theorem Stop.proper_unreadable {stop : Stop}
    (h : ∃ status ∈ unreadableStatuses, stop = .unreadable status) : stop.Proper := by
  obtain ⟨status, hs, rfl⟩ := h
  intro other ho
  exact Stop.unreadable.inj ho ▸ hs

inductive Talks (personal : Prop) : Handling Response → Prop
  | answer {status : Nat} {j : Json} (h : status = 200 ∨ status = 201) :
      Talks personal (pure (.json status j))
  | stop {stop : Stop} (h : stop.Proper) : Talks personal (Action.ofExcept (.error stop))
  | gate {α : Type} {r : Except Stop α} {k : α → Handling Response}
      (hr : ∀ stop, r = .error stop → stop.Proper) (h : ∀ a, Talks personal (k a)) :
      Talks personal (Action.ofExcept r >>= k)
  | stored {α : Type} {a : Action Failure α} {k : α → Handling Response} (ha : Stores personal a)
      (h : ∀ x, Talks personal (k x)) : Talks personal (ofStore a >>= k)
  | listed {α : Type} {source : Listing.Source} {base : Sql.Select} {read : Row → Option α}
      {request : Listing.Request} {k : Listing.Page α → Handling Response}
      (hb : base.isCount = false) (hr : Selected personal base.table.name read)
      (h : ∀ page, Talks personal (k page)) :
      Talks personal (ofList (fetchPage source base read request) >>= k)
  | now {k : Time.Instant → Handling Response} (h : ∀ i, Talks personal (k i)) :
      Talks personal (Action.now >>= k)
  | crash : Talks personal Action.crash
  | probed (i : Incoming) : Talks personal (health i)

namespace Talks

theorem ok (j : Json) : Talks personal (Api.ok j) := .answer (.inl rfl)

theorem created (j : Json) : Talks personal (Api.created j) := .answer (.inr rfl)

theorem refuse (e : Error) : Talks personal (Handling.refuse e) := .stop (Stop.proper_error e)

theorem check {r : Except ε α} {f : ε → Error} {k : α → Handling Response}
    (h : ∀ a, Talks personal (k a)) :
    Talks personal (Action.ofExcept (r.mapError fun e => .error (f e)) >>= k) := by
  refine .gate (fun stop hstop => ?_) h
  cases r with
  | error e => exact Except.error.inj hstop ▸ Stop.proper_error _
  | ok a => simp [Except.mapError] at hstop

theorem existing {a : Action Failure (Option α)} {k : α → Handling Response}
    (ha : Stores personal a) (h : ∀ x, Talks personal (k x)) :
    Talks personal (Handling.existing a >>= k) := by
  rw [Handling.existing, bind_assoc]
  exact .stored ha fun _ => .check h

theorem found {table : String} {id : Uuid} {read : Row → Option α} {k : α → Handling Response}
    (hr : Record personal table read) (h : ∀ x, Talks personal (k x)) :
    Talks personal (Handling.existing (Action.optional (.find table id) read) >>= k) :=
  .existing (.find hr) h

theorem removed {st : Sql.Statement} {k : Unit → Handling Response} (hp : st.isPlain = true)
    (h : Talks personal (k ())) : Talks personal (Handling.removed (Action.touched st) >>= k) := by
  rw [Handling.removed, bind_assoc]
  refine .stored (.touched hp) fun removed => ?_
  cases removed with
  | false => exact .refuse .notFound
  | true => exact h

theorem page {source : Listing.Source} {base : Sql.Select} {read : Row → Option α}
    {request : Listing.Request} {f : Listing.Page α → Json} (hb : base.isCount = false)
    (hr : Selected personal base.table.name read) :
    Talks personal (ofList (fetchPage source base read request) >>= fun page => Api.ok (f page)) :=
  .listed hb hr fun _ => .ok _

end Talks

inductive Serves (personal : Prop) : Handler → Prop
  | caller {k : Caller → Handler} (h : ∀ c, Serves personal (k c)) :
      Serves personal fun i => read i.caller >>= fun c => k c i
  | id {k : Uuid → Handler} (h : ∀ id, Serves personal (k id)) :
      Serves personal fun i => read i.id >>= fun id => k id i
  | body {α : Type} {dec : Json.Decoder α} {k : α → Handler} (hd : personal ∨ Overlooks "password" dec)
      (h : ∀ a, Serves personal (k a)) : Serves personal fun i => read (i.body dec) >>= fun a => k a i
  | query {names : List String} {k : Listing.Params × (String → Option String) → Handler}
      (h : ∀ q, Serves personal (k q)) :
      Serves personal fun i => read (i.query names) >>= fun q => k q i
  | agent {k : Option String → Handler} (h : ∀ agent?, Serves personal (k agent?)) :
      Serves personal fun i => k (Auth.userAgent i.request) i
  | talk {a : Handling Response} (h : Talks personal a) : Serves personal fun _ => a

theorem Serves.shape {s : Json.Shape α} [s.Regular] {k : α → Handler}
    (hs : "password" ∉ s.names) (h : ∀ a, Serves personal (k a)) :
    Serves personal fun i => read (i.body s.decode) >>= fun a => k a i :=
  .body (.inr (Json.Shape.overlooks_of_names hs)) h

namespace Incoming

theorem caller_proper {i : Incoming} {stop : Stop} (h : i.caller = .error stop) : stop.Proper := by
  cases hc : i.caller? with
  | none =>
    simp only [caller, hc, Except.error.injEq] at h
    exact h ▸ Stop.proper_error _
  | some c => simp [caller, hc] at h

theorem query_proper {i : Incoming} {names : List String} {stop : Stop}
    (h : i.query names = .error stop) : stop.Proper := by
  simp only [query] at h
  split at h
  · exact Stop.proper_unreadable ⟨400, by decide, (Except.error.inj h).symm⟩
  · simp at h

structure Same (personal : Prop) (i i' : Incoming) : Prop where
  caller : i.caller? = i'.caller?
  name : i.name? = i'.name?
  target : i.request.target = i'.request.target
  agent : i.request.headerText? "user-agent" = i'.request.headerText? "user-agent"
  body : ∀ {α : Type} (dec : Json.Decoder α), personal ∨ Overlooks "password" dec →
    i.body dec = i'.body dec

end Incoming

theorem Serves.talks {h : Handler} (hh : Serves personal h) (i : Incoming) :
    Talks personal (h i) := by
  induction hh with
  | caller _ ih => exact .gate (fun _ => Incoming.caller_proper) ih
  | id _ ih => exact .gate (fun _ he => Stop.proper_unreadable (Incoming.id_error he)) ih
  | body _ _ ih => exact .gate (fun _ he => Stop.proper_unreadable (Incoming.body_error he)) ih
  | query _ ih => exact .gate (fun _ => Incoming.query_proper) ih
  | agent _ ih => exact ih _
  | talk ha => exact ha

theorem Serves.congr {h : Handler} (hh : Serves personal h) {i i' : Incoming}
    (hs : Incoming.Same personal i i') : h i = h i' := by
  induction hh with
  | caller _ ih =>
    have hread : i.caller = i'.caller := by rw [Incoming.caller, Incoming.caller, hs.caller]
    simp only [hread, ih]
  | id _ ih =>
    have hread : i.id = i'.id := by rw [Incoming.id, Incoming.id, hs.name]
    simp only [hread, ih]
  | body hd _ ih => simp only [hs.body _ hd, ih]
  | query _ ih =>
    have hpairs : i.pairs = i'.pairs := by rw [Incoming.pairs, Incoming.pairs, hs.target]
    have hread (names : List String) : i.query names = i'.query names := by
      rw [Incoming.query, Incoming.query, hpairs]
    simp only [hread, ih]
  | agent _ ih =>
    have hread : Auth.userAgent i.request = Auth.userAgent i'.request := by
      rw [Auth.userAgent, Auth.userAgent, hs.agent]
    simp only [hread, ih]
  | talk _ => rfl

theorem health_serves : Serves personal health :=
  .talk (a := health ⟨⟨.get, "/healthz", [], ""⟩, none, none⟩) (.probed _)

namespace Auth

theorem register_serves (h : personal) : Serves personal register :=
  .body (.inl h) fun _ => .talk (.check fun _ => .stored (User.create_stores h _) fun _ => .created _)

def admitted (policy : TokenPolicy) (c : Credentials) (agent? : Option String) :
    Handling Response := do
  let user ← authenticated c
  if user.isActive then do
    let now ← Action.now
    match Token.expiresAt policy.lifetime now with
    | none => Action.crash
    | some expiresAt => do
        let session ← ofStore (Session.create user.id agent? expiresAt)
        ok (Token.issue policy.secret user.id user.userType session.id now expiresAt).toJson
  else refuse (.forbidden "account is blocked")

theorem accepted_proper {c : Credentials} {found : Option User} {stop : Stop}
    (h : accepted c found = .error stop) : stop.Proper := by
  cases found with
  | none => exact Except.error.inj h ▸ Stop.proper_error _
  | some user =>
    rw [accepted] at h
    split at h
    · simp at h
    · exact Except.error.inj h ▸ Stop.proper_error _

theorem admitted_talks (h : personal) (policy : TokenPolicy) (c : Credentials)
    (agent? : Option String) : Talks personal (admitted policy c agent?) := by
  rw [admitted, authenticated_eq, bind_assoc]
  refine .stored (.asks (.optional rfl (.byEmail h))) fun found => .gate (fun _ => accepted_proper) ?_
  intro user
  split
  · refine .now fun now => ?_
    split
    · exact .crash
    · exact .stored (.insert .session) fun _ => .ok _
  · exact .refuse _

theorem login_serves (h : personal) (policy : TokenPolicy) : Serves personal (login policy) :=
  .body (.inl h) fun c => .agent (k := fun agent? _ => admitted policy c agent?) fun agent? =>
    .talk (admitted_talks h policy c agent?)

theorem logout_serves : Serves personal logout :=
  .caller fun _ => .talk (.stored (.touched rfl) fun _ => .ok _)

end Auth

namespace Users

theorem create_serves (h : personal) : Serves personal create :=
  .caller fun _ => .body (.inl h) fun _ => .talk <| .check fun _ => .check fun _ =>
    .stored (User.create_stores h _) fun _ => .created _

theorem list_serves (h : personal) : Serves personal list :=
  .caller fun _ => .query fun _ => .talk <| .check fun _ => .page rfl (.user h)

theorem get_serves (h : personal) : Serves personal get :=
  .caller fun _ => .id fun _ => .talk <| .found (.user h) fun _ => .ok _

theorem applyChange_talks (h : personal) (c : Caller) (id : Uuid) (change : User.Change) :
    Talks personal (applyChange c id change) := by
  have hrest : Talks personal (do
      ofValid change.validate
      let user ← existing (User.update id change)
      if change.revokesSessions then do
        let _ ← ofStore (Session.deleteForUser id)
        ok user.toJson
      else ok user.toJson) := by
    refine .check fun _ => .existing (User.update_stores h id change) fun user => ?_
    split
    · exact .stored (.affected rfl) fun _ => .ok _
    · exact .ok _
  refine .check fun _ => ?_
  by_cases hprivileges : change.changesPrivileges = true
  · simp only [if_pos hprivileges]
    exact .check fun _ => hrest
  · simp only [if_neg hprivileges]
    exact hrest

theorem updateSelf_serves (h : personal) : Serves personal updateSelf :=
  .caller fun _ => .body (.inl h) fun _ => .talk (applyChange_talks h ..)

theorem update_serves (h : personal) : Serves personal update :=
  .caller fun _ => .id fun _ => .body (.inl h) fun _ => .talk (applyChange_talks h ..)

theorem delete_serves : Serves personal delete :=
  .caller fun _ => .id fun _ => .talk <| .check fun _ => .removed rfl (.ok _)

end Users

namespace Categories

theorem create_serves : Serves personal create :=
  .caller fun _ => .shape (by simp) fun _ => .talk <| .check fun _ => .check fun _ =>
    .stored (.insert .category) fun _ => .created _

theorem list_serves : Serves personal list :=
  .query fun _ => .talk (.page rfl .category)

theorem get_serves : Serves personal get :=
  .id fun _ => .talk (.found .category fun _ => .ok _)

theorem update_serves : Serves personal update :=
  .caller fun _ => .id fun _ => .shape (by simp) fun _ => .talk <| .check fun _ => .check fun _ =>
    .existing (.update .category) fun _ => .ok _

theorem delete_serves : Serves personal delete :=
  .caller fun _ => .id fun _ => .talk <| .check fun _ => .removed rfl (.ok _)

end Categories

namespace Businesses

theorem owned_talks {c : Caller} {id : Uuid} {k : Unit → Handling Response}
    (h : Talks personal (k ())) : Talks personal (owned c id >>= k) := by
  rw [owned, bind_assoc]
  exact .found .business fun _ => .check fun _ => h

theorem create_serves : Serves personal create :=
  .caller fun _ => .shape (by simp) fun _ => .talk <| .check fun _ => .check fun _ =>
    .stored (Business.create_stores ..) fun _ => .created _

theorem list_serves : Serves personal list :=
  .query fun _ => .talk (.page rfl .business)

theorem get_serves : Serves personal get :=
  .id fun _ => .talk (.existing (Business.findDetails_stores _) fun _ => .ok _)

theorem update_serves : Serves personal update :=
  .caller fun _ => .id fun _ => .shape (by simp) fun _ => .talk <| owned_talks <| .check fun _ =>
    .existing (Business.update_stores ..) fun _ => .ok _

theorem delete_serves : Serves personal delete :=
  .caller fun _ => .id fun _ => .talk <| owned_talks <| .removed rfl (.ok _)

end Businesses

namespace Reviews

theorem owned_talks {c : Caller} {id : Uuid} {k : Unit → Handling Response}
    (h : Talks personal (k ())) : Talks personal (owned c id >>= k) := by
  rw [owned, bind_assoc]
  exact .found .review fun _ => .check fun _ => h

theorem create_serves : Serves personal create :=
  .caller fun _ => .shape (by simp) fun _ => .talk <| .check fun _ => .check fun _ =>
    .stored (Review.create_stores ..) fun _ => .created _

theorem list_serves : Serves personal list :=
  .query fun _ => .talk (.page rfl .review)

theorem get_serves : Serves personal get :=
  .id fun _ => .talk (.existing (Review.findDetails_stores _) fun _ => .ok _)

theorem update_serves : Serves personal update :=
  .caller fun _ => .id fun _ => .shape (by simp) fun _ => .talk <| owned_talks <| .check fun _ =>
    .existing (Review.update_stores ..) fun _ => .ok _

theorem delete_serves : Serves personal delete :=
  .caller fun _ => .id fun _ => .talk <| owned_talks <| .removed rfl (.ok _)

end Reviews

namespace Reports

theorem owned_talks {c : Caller} {id : Uuid} {k : Report → Handling Response}
    (h : ∀ report, Talks personal (k report)) : Talks personal (owned c id >>= k) := by
  simp only [owned, bind_assoc, pure_bind]
  exact .found .report fun report => .check fun _ => h report

theorem create_serves : Serves personal create :=
  .caller fun _ => .shape (by simp) fun _ => .talk <| .check fun _ => .check fun _ =>
    .stored (.insert .report) fun _ => .created _

theorem list_serves : Serves personal list :=
  .caller fun _ => .query fun _ => .talk (.page rfl .report)

theorem get_serves : Serves personal get :=
  .caller fun _ => .id fun _ => .talk (owned_talks fun _ => .ok _)

theorem update_serves : Serves personal update :=
  .caller fun _ => .id fun _ => .shape (by simp) fun _ => .talk <| owned_talks fun _ =>
    .check fun _ => .existing (.update .report) fun _ => .ok _

theorem delete_serves : Serves personal delete :=
  .caller fun _ => .id fun _ => .talk <| owned_talks fun _ => .removed rfl (.ok _)

end Reports

namespace Notifications

theorem ofParty_talks {c : Caller} {id : Uuid} {k : Notification → Handling Response}
    (h : ∀ n, Talks personal (k n)) : Talks personal (ofParty c id >>= k) := by
  simp only [ofParty, bind_assoc, pure_bind]
  exact .found .notification fun n => .check fun _ => h n

theorem create_serves : Serves personal create :=
  .caller fun _ => .shape (by simp) fun _ => .talk <| .check fun _ => .check fun _ =>
    .stored (.insert .notification) fun _ => .created _

theorem list_serves : Serves personal list :=
  .caller fun _ => .query fun _ => .talk (.page rfl .notification)

theorem mark_serves : Serves personal mark :=
  .caller fun _ => .shape (by simp) fun _ => .talk (.stored (.affected rfl) fun _ => .ok _)

theorem get_serves : Serves personal get :=
  .caller fun _ => .id fun _ => .talk (ofParty_talks fun _ => .ok _)

theorem update_serves : Serves personal update :=
  .caller fun _ => .id fun _ => .shape (by simp) fun _ => .talk <| ofParty_talks fun _ =>
    .check fun _ => .check fun _ => .existing (.update .notification) fun _ => .ok _

theorem delete_serves : Serves personal delete :=
  .caller fun _ => .id fun _ => .talk <| ofParty_talks fun _ => .removed rfl (.ok _)

end Notifications

namespace Events

theorem requireOwner_talks {c : Caller} {id : Uuid} {k : Unit → Handling Response}
    (h : Talks personal (k ())) : Talks personal (requireOwner c id >>= k) := by
  rw [requireOwner, bind_assoc]
  exact .found .business fun _ => .check fun _ => h

theorem owned_talks {c : Caller} {id : Uuid} {k : Event → Handling Response}
    (h : ∀ event, Talks personal (k event)) : Talks personal (owned c id >>= k) := by
  simp only [owned, bind_assoc, pure_bind]
  exact .found .event fun event => requireOwner_talks (h event)

theorem create_serves : Serves personal create :=
  .caller fun _ => .shape (by simp) fun _ => .talk <| .check fun _ => .check fun _ =>
    requireOwner_talks <| .stored (.insert .event) fun _ => .created _

theorem list_serves : Serves personal list :=
  .query fun _ => .talk (.page rfl .event)

theorem get_serves : Serves personal get :=
  .id fun _ => .talk (.found .event fun _ => .ok _)

theorem update_serves : Serves personal update :=
  .caller fun _ => .id fun _ => .shape (by simp) fun _ => .talk <| owned_talks fun _ =>
    .check fun _ => .existing (.update .event) fun _ => .ok _

theorem delete_serves : Serves personal delete :=
  .caller fun _ => .id fun _ => .talk <| owned_talks fun _ => .removed rfl (.ok _)

theorem addParticipant_serves : Serves personal addParticipant := by
  refine .caller fun _ => .shape (by simp) fun _ => .talk <| .check fun _ => .check fun _ =>
    .found .event fun _ => .stored (.touched rfl) fun added => ?_
  cases added with
  | true => exact .created _
  | false => exact .ok _

theorem removeParticipant_serves : Serves personal removeParticipant :=
  .caller fun _ => .shape (by simp) fun _ => .talk <| .check fun _ => .removed rfl (.ok _)

theorem listParticipants_serves : Serves personal listParticipants :=
  .id fun _ => .query fun _ => .talk <| .found .event fun _ => .page rfl .participant

end Events

namespace Bookmarks

theorem owned_talks {c : Caller} {id : Uuid} {k : Bookmark → Handling Response}
    (h : ∀ bookmark, Talks personal (k bookmark)) : Talks personal (owned c id >>= k) := by
  simp only [owned, bind_assoc, pure_bind]
  exact .found .bookmark fun bookmark => .check fun _ => h bookmark

theorem create_serves : Serves personal create :=
  .caller fun _ => .shape (by simp) fun _ => .talk <| .check fun _ =>
    .stored (.insert .bookmark) fun _ => .created _

theorem list_serves : Serves personal list :=
  .caller fun _ => .query fun _ => .talk (.page rfl .bookmark)

theorem get_serves : Serves personal get :=
  .caller fun _ => .id fun _ => .talk (owned_talks fun _ => .ok _)

theorem update_serves : Serves personal update :=
  .caller fun _ => .id fun _ => .shape (by simp) fun _ => .talk <| owned_talks fun _ =>
    .existing (.update .bookmark) fun _ => .ok _

theorem delete_serves : Serves personal delete :=
  .caller fun _ => .id fun _ => .talk <| owned_talks fun _ => .removed rfl (.ok _)

end Bookmarks

namespace Promotions

theorem create_serves : Serves personal create :=
  .caller fun _ => .shape (by simp) fun _ => .talk <| .check fun _ => .check fun _ =>
    .found .business fun _ => .check fun _ => .stored (.insert .promotion) fun _ => .created _

theorem list_serves : Serves personal list :=
  .query fun _ => .talk (.page rfl .promotion)

theorem get_serves : Serves personal get :=
  .id fun _ => .talk (.found .promotion fun _ => .ok _)

theorem delete_serves : Serves personal delete :=
  .caller fun _ => .id fun _ => .talk <| .found .promotion fun _ => .check fun _ =>
    .removed rfl (.ok _)

end Promotions

namespace Follows

theorem followed_proper {c : Caller} {requested : Option String} {stop : Stop}
    (h : followed c requested = .error stop) : stop.Proper := by
  simp only [followed] at h
  split at h
  · simp at h
  · split at h
    · simp at h
    · exact Stop.proper_unreadable ⟨400, by decide, (Except.error.inj h).symm⟩

theorem toggle_serves : Serves personal toggle := by
  refine .caller fun _ => .shape (by simp) fun _ => .talk <| .check fun _ => ?_
  split
  · exact .refuse _
  · exact .stored (Follower.toggle_stores ..) fun _ => .ok _

theorem list_serves : Serves personal list :=
  .caller fun _ => .query fun _ => .talk <| .gate (fun _ => followed_proper) fun _ =>
    .page rfl .follower

end Follows

def personalEndpoints : List Endpoint :=
  [.fixed .post ["v1", "auth", "register"], .fixed .post ["v1", "auth", "login"],
    .fixed .post ["v1", "user"], .fixed .put ["v1", "user"], .fixed .get ["v1", "user", "list"],
    .named .get ["v1", "user"], .named .put ["v1", "user"]]

theorem endpoints_serve {policy : TokenPolicy} {e : Endpoint} {h : Handler}
    (hh : (e, h) ∈ endpoints policy) (hp : e ∈ personalEndpoints → personal) :
    Serves personal h := by
  have hall : ∀ x ∈ endpoints policy, (x.1 ∈ personalEndpoints → personal) →
      Serves personal x.2 := by
    simp only [endpoints, Route.endpoints, routes, path, named, List.flatMap_cons, List.flatMap_nil,
      List.map_cons, List.map_nil, List.cons_append, List.nil_append, List.append_nil,
      List.forall_mem_cons, List.not_mem_nil, false_imp_iff, implies_true, and_true]
    exact ⟨fun _ => health_serves, fun h => Auth.register_serves (h (by decide)),
      fun h => Auth.login_serves (h (by decide)) _, fun _ => Auth.logout_serves,
      fun h => Users.create_serves (h (by decide)),
      fun h => Users.updateSelf_serves (h (by decide)),
      fun h => Users.list_serves (h (by decide)), fun h => Users.get_serves (h (by decide)),
      fun h => Users.update_serves (h (by decide)), fun _ => Users.delete_serves,
      fun _ => Categories.create_serves, fun _ => Categories.list_serves,
      fun _ => Categories.get_serves, fun _ => Categories.update_serves,
      fun _ => Categories.delete_serves, fun _ => Businesses.create_serves,
      fun _ => Businesses.list_serves, fun _ => Businesses.get_serves,
      fun _ => Businesses.update_serves, fun _ => Businesses.delete_serves,
      fun _ => Reviews.create_serves, fun _ => Reviews.list_serves,
      fun _ => Reviews.get_serves, fun _ => Reviews.update_serves,
      fun _ => Reviews.delete_serves, fun _ => Reports.create_serves,
      fun _ => Reports.list_serves, fun _ => Reports.get_serves,
      fun _ => Reports.update_serves, fun _ => Reports.delete_serves,
      fun _ => Notifications.create_serves, fun _ => Notifications.list_serves,
      fun _ => Notifications.mark_serves, fun _ => Notifications.get_serves,
      fun _ => Notifications.update_serves, fun _ => Notifications.delete_serves,
      fun _ => Events.create_serves, fun _ => Events.list_serves,
      fun _ => Events.addParticipant_serves, fun _ => Events.removeParticipant_serves,
      fun _ => Events.get_serves, fun _ => Events.update_serves, fun _ => Events.delete_serves,
      fun _ => Events.listParticipants_serves, fun _ => Bookmarks.create_serves,
      fun _ => Bookmarks.list_serves, fun _ => Bookmarks.get_serves,
      fun _ => Bookmarks.update_serves, fun _ => Bookmarks.delete_serves,
      fun _ => Promotions.create_serves, fun _ => Promotions.list_serves,
      fun _ => Promotions.get_serves, fun _ => Promotions.delete_serves,
      fun _ => Follows.toggle_serves, fun _ => Follows.list_serves⟩
  exact hall _ hh hp

end CityGuide.Api
