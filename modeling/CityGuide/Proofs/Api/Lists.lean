import CityGuide.Proofs.Api.Ownership
import CityGuide.Proofs.Api.SignedRequests
import CityGuide.Proofs.Listing.Paging
import CityGuide.Proofs.Listing.Refusals
import CityGuide.Proofs.Store.Pages

namespace CityGuide.Api

open Http (Response)
open Listing (Filter Params Request Source)
open Store Handling

structure Inquiry where
  source : Source
  base : Sql.Select
  searched : List String
  held : List (String × String)

namespace Inquiry

variable {α : Type} {q : Inquiry} {p : Params} {read : Row → Option α} {encode : α → Json}
  {t : List Step} {o? : Option (Except Stop Response)}

def request (q : Inquiry) (p : Params) : Request :=
  q.held.foldl (fun r x => r.eq x.1 x.2) (p.toRequest q.searched)

theorem foldl_eq (held : List (String × String)) (r : Request) :
    held.foldl (fun r x => r.eq x.1 x.2) r =
      { r with filters := r.filters ++ held.map fun x => Filter.eq x.1 x.2 } := by
  induction held generalizing r with
  | nil => simp
  | cons x held ih =>
    rw [List.foldl_cons, ih, Request.eq, Request.filter, List.append_assoc]
    rfl

theorem request_eq (q : Inquiry) (p : Params) :
    q.request p =
      { p.request with
        filters := q.searched.map (Filter.search · p.term) ++
          q.held.map fun x => Filter.eq x.1 x.2
        order := p.sortOrder Params.newestFirst } := foldl_eq ..

theorem request_bounded (q : Inquiry) (p : Params) : (q.request p).Bounded := by
  have h : (p.request).Bounded := (Request.Fresh.params p).bounded
  rw [request_eq]
  exact ⟨h.page, h.limit_pos, h.limit_le⟩

def page (q : Inquiry) (read : Row → Option α) (encode : α → Json) (p : Params) :
    Handling Response := do
  let page ← ofList (fetchPage q.source q.base read (q.request p))
  ok (page.toJson encode)

theorem page_of_unknown {u : Listing.Unknown}
    (h : q.source.compile q.base (q.request p) = .error u) :
    q.page read encode p = Action.ofExcept (.error (.error (.query u))) := by
  rw [page, fetchPage, h]
  rfl

def answer (encode : α → Json) : Except ListFailure (Listing.Page α) → Except Stop Response
  | .ok page => .ok (.json 200 (page.toJson encode))
  | .error f => .error (.error (listError f))

theorem runs_page {compiled : Listing.Compiled}
    (h : q.source.compile q.base (q.request p) = .ok compiled) :
    (q.page read encode p).Runs t o? ↔
      ∃ o, o? = some (answer encode o) ∧ Paged read compiled t o := by
  refine Action.runs_bind_ofExcept.trans ?_
  simp only [ofList, Action.runs_mapError, runs_fetchPage h]
  constructor
  · rintro ⟨_, ⟨_, ⟨o, rfl, ho⟩, rfl⟩, rfl⟩
    exact ⟨o, by cases o <;> rfl, ho⟩
  · rintro ⟨o, rfl, ho⟩
    exact ⟨_, ⟨_, ⟨o, rfl, ho⟩, rfl⟩, by cases o <;> rfl⟩

structure Within (q : Inquiry) : Prop where
  searched : ∀ name ∈ q.searched, q.source.Allows name
  held : ∀ x ∈ q.held, q.source.Allows x.1
  created : q.source.Allows "created_at"

theorem Within.serves (h : q.Within) : ∀ f ∈ (q.request p).filters, q.source.Serves f := by
  intro f hf _
  rw [request_eq] at hf
  rcases List.mem_append.mp hf with hf | hf
  · obtain ⟨name, hname, rfl⟩ := List.mem_map.mp hf
    exact h.searched name hname
  · obtain ⟨x, hx, rfl⟩ := List.mem_map.mp hf
    exact h.held x hx

end Inquiry

theorem sortOrder_refused {source : Source} (p : Params) (h : source.Allows "created_at") :
    (∃ k ∈ p.sortOrder Params.newestFirst, ¬source.Allows k.column) ↔
      ∃ item ∈ Params.sortItems (p.sort.getD ""), ¬source.Allows (Params.orderKey item).column := by
  rw [Params.sortOrder]
  cases Params.sortItems (p.sort.getD "") with
  | nil => simpa [Params.newestFirst, Listing.OrderKey.desc] using h
  | cons item items => simp

inductive Lists (i : Incoming) (p : Params) : Endpoint → List Step → Inquiry → Prop
  | users {c : Caller} {value : String → Option String} (caller : i.caller = .ok c)
      (permitted : c.require .administerUsers = .ok ())
      (query : i.query ["user_type", "status"] = .ok (p, value)) :
      Lists i p (.fixed .get ["v1", "user", "list"]) []
        ⟨User.source, User.source.select [.everything], ["full_name", "user_name", "email"],
          [("user_type", (value "user_type").getD ""), ("status", (value "status").getD "")]⟩
  | categories {value : String → Option String} (query : i.query [] = .ok (p, value)) :
      Lists i p (.fixed .get ["v1", "business-category", "list"]) []
        ⟨Category.source, Category.source.select [.everything], ["name"], []⟩
  | businesses {value : String → Option String}
      (query : i.query ["category_id", "owner_id"] = .ok (p, value)) :
      Lists i p (.fixed .get ["v1", "business", "list"]) []
        ⟨Business.source, Business.detailed, ["name", "address", "description"],
          [("category_id", (value "category_id").getD ""),
            ("owner_id", (value "owner_id").getD "")]⟩
  | reviews {value : String → Option String}
      (query : i.query ["business_id", "user_id"] = .ok (p, value)) :
      Lists i p (.fixed .get ["v1", "review", "list"]) []
        ⟨Review.source, Review.detailed, ["comment"],
          [("business_id", (value "business_id").getD ""), ("user_id", (value "user_id").getD "")]⟩
  | reports {c : Caller} {value : String → Option String} (caller : i.caller = .ok c)
      (query : i.query ["business_id", "user_id"] = .ok (p, value)) :
      Lists i p (.fixed .get ["v1", "report", "list"]) []
        ⟨Report.source, Report.source.select [.everything], ["reason"],
          [("business_id", (value "business_id").getD ""),
            ("user_id", (Reports.scope c (value "user_id")).getD "")]⟩
  | notifications {c : Caller} {value : String → Option String} (caller : i.caller = .ok c)
      (query : i.query ["status", "user_id"] = .ok (p, value)) :
      Lists i p (.fixed .get ["v1", "notification", "list"]) []
        ⟨Notification.source, Notification.source.select [.everything], ["message"],
          [("user_id", (c.scope (value "user_id")).getD ""),
            ("status", (value "status").getD "")]⟩
  | events {value : String → Option String} (query : i.query ["business_id"] = .ok (p, value)) :
      Lists i p (.fixed .get ["v1", "event", "list"]) []
        ⟨Event.source, Event.source.select [.everything], ["title", "description", "location"],
          [("business_id", (value "business_id").getD "")]⟩
  | participants {id : Uuid} {value : String → Option String} {reply : Reply} {event : Event}
      (name : i.id = .ok id) (query : i.query [] = .ok (p, value))
      (found : reply.bind (Action.firstRow Event.ofRow) = .ok (some event)) :
      Lists i p ⟨.get, [.fixed "v1", .fixed "event", .name, .fixed "participants"]⟩
        [.asked (.run (.find Event.table id)) reply]
        ⟨Participant.source, Participant.source.select Participant.fields,
          ["full_name", "user_name"], [("event_id", id.text)]⟩
  | bookmarks {c : Caller} {value : String → Option String} (caller : i.caller = .ok c)
      (query : i.query ["business_id", "user_id"] = .ok (p, value)) :
      Lists i p (.fixed .get ["v1", "bookmark", "list"]) []
        ⟨Bookmark.source, Bookmark.source.select [.everything], [],
          [("user_id", (c.scope (value "user_id")).getD ""),
            ("business_id", (value "business_id").getD "")]⟩
  | promotions {value : String → Option String} (query : i.query ["business_id"] = .ok (p, value)) :
      Lists i p (.fixed .get ["v1", "promotion", "list"]) []
        ⟨Promotion.source, Promotion.source.select [.everything], ["title", "description"],
          [("business_id", (value "business_id").getD "")]⟩
  | followers {c : Caller} {id : Uuid} {value : String → Option String} (caller : i.caller = .ok c)
      (query : i.query ["user_id"] = .ok (p, value))
      (followed : Follows.followed c (value "user_id") = .ok id) :
      Lists i p (.fixed .get ["v1", "follower", "list"]) []
        ⟨Follower.source, Follower.source.select Follower.fields, ["user_name", "full_name"],
          [("following_id", id.text)]⟩

namespace Lists

variable {i : Incoming} {p : Params} {e : Endpoint} {looks : List Step} {q : Inquiry}

theorem within (h : Lists i p e looks q) : q.Within := by
  cases h <;> constructor <;>
    simp [Source.Allows, User.source, Category.source, Business.source, Review.source,
      Report.source, Notification.source, Event.source, Participant.source, Bookmark.source,
      Promotion.source, Follower.source]

theorem runs_look_bind {α β : Type} {table : String} {id : Uuid} {read : Row → Option α} {a : α}
    {reply : Reply} {k : α → Handling β} {t : List Step} {o? : Option (Except Stop β)}
    (h : reply.bind (Action.firstRow read) = .ok (some a)) :
    Action.Runs (existing (Action.optional (.find table id) read) >>= k)
      (.asked (.run (.find table id)) reply :: t) o? ↔ (k a).Runs t o? := by
  simp only [Action.runs_bind, runs_look]
  constructor
  · rintro (⟨_, w, x, hsplit, ⟨reply', rfl, hx⟩, hw⟩ | ⟨_, ⟨reply', hsplit, he⟩, -⟩ |
      ⟨⟨_, -, hn⟩, -⟩)
    · obtain ⟨hreply, rfl⟩ : reply = reply' ∧ t = w := by simpa using hsplit
      obtain rfl : x = a := by simpa [← hreply, h, existed] using hx
      exact hw
    · obtain ⟨hreply, rfl⟩ : reply = reply' ∧ t = [] := by simpa using hsplit
      simp [← hreply, h, existed] at he
    · simp at hn
  · intro hk
    exact .inl ⟨[_], t, a, rfl, ⟨reply, rfl, by rw [h, existed]⟩, hk⟩

theorem handled (h : Lists i p e looks q) (policy : TokenPolicy) :
    ∃ handler : Handler, (e, handler) ∈ endpoints policy ∧
      ∃ (α : Type) (read : Row → Option α) (encode : α → Json), ∀ t o?,
        (handler i).Runs (looks ++ t) o? ↔ (q.page read encode p).Runs t o? := by
  cases h with
  | users hc hp hq =>
    refine ⟨Users.list, ?_, User, User.ofRow, User.toJson, fun t o? => ?_⟩
    · simp [endpoints, Route.endpoints, routes, path, named, Endpoint.fixed]
    · simp only [Users.list, Api.read, hc, hq, ofResult, hp, Except.mapError,
        Action.ofExcept_ok_bind]
      rfl
  | categories hq =>
    refine ⟨Categories.list, ?_, Category, Category.ofRow, Category.toJson, fun t o? => ?_⟩
    · simp [endpoints, Route.endpoints, routes, path, named, Endpoint.fixed]
    · simp only [Categories.list, Api.read, hq, Action.ofExcept_ok_bind]
      rfl
  | businesses hq =>
    refine ⟨Businesses.list, ?_, Business.Details, Business.Details.ofRow, Business.Details.toJson,
      fun t o? => ?_⟩
    · simp [endpoints, Route.endpoints, routes, path, named, Endpoint.fixed]
    · simp only [Businesses.list, Api.read, hq, Action.ofExcept_ok_bind]
      rfl
  | reviews hq =>
    refine ⟨Reviews.list, ?_, Review.Details, Review.Details.ofRow, Review.Details.toJson,
      fun t o? => ?_⟩
    · simp [endpoints, Route.endpoints, routes, path, named, Endpoint.fixed]
    · simp only [Reviews.list, Api.read, hq, Action.ofExcept_ok_bind]
      rfl
  | reports hc hq =>
    refine ⟨Reports.list, ?_, Report, Report.ofRow, Report.toJson, fun t o? => ?_⟩
    · simp [endpoints, Route.endpoints, routes, path, named, Endpoint.fixed]
    · simp only [Reports.list, Api.read, hc, hq, Action.ofExcept_ok_bind]
      rfl
  | notifications hc hq =>
    refine ⟨Notifications.list, ?_, Notification, Notification.ofRow, Notification.toJson,
      fun t o? => ?_⟩
    · simp [endpoints, Route.endpoints, routes, path, named, Endpoint.fixed]
    · simp only [Notifications.list, Api.read, hc, hq, Action.ofExcept_ok_bind]
      rfl
  | events hq =>
    refine ⟨Events.list, ?_, Event, Event.ofRow, Event.toJson, fun t o? => ?_⟩
    · simp [endpoints, Route.endpoints, routes, path, named, Endpoint.fixed]
    · simp only [Events.list, Api.read, hq, Action.ofExcept_ok_bind]
      rfl
  | participants hn hq hf =>
    refine ⟨Events.listParticipants, ?_, Participant, Participant.ofRow, Participant.toJson,
      fun t o? => ?_⟩
    · simp [endpoints, Route.endpoints, routes, path, named]
    · simp only [Events.listParticipants, Api.read, hn, hq, Action.ofExcept_ok_bind, Event.find]
      exact runs_look_bind hf
  | bookmarks hc hq =>
    refine ⟨Bookmarks.list, ?_, Bookmark, Bookmark.ofRow, Bookmark.toJson, fun t o? => ?_⟩
    · simp [endpoints, Route.endpoints, routes, path, named, Endpoint.fixed]
    · simp only [Bookmarks.list, Api.read, hc, hq, Action.ofExcept_ok_bind]
      rfl
  | promotions hq =>
    refine ⟨Promotions.list, ?_, Promotion, Promotion.ofRow, Promotion.toJson, fun t o? => ?_⟩
    · simp [endpoints, Route.endpoints, routes, path, named, Endpoint.fixed]
    · simp only [Promotions.list, Api.read, hq, Action.ofExcept_ok_bind]
      rfl
  | followers hc hq hf =>
    refine ⟨Follows.list, ?_, Follower, Follower.ofRow, Follower.toJson, fun t o? => ?_⟩
    · simp [endpoints, Route.endpoints, routes, path, named, Endpoint.fixed]
    · simp only [Follows.list, Api.read, hc, hq, hf, Action.ofExcept_ok_bind]
      rfl

end Lists

namespace Server

variable {s : Server} {r : Http.Request} {e : Endpoint} {name? : Option (List Char)}
  {lead rest : List Step} {c? : Option Caller}

theorem Authentication.unique {token : String} {t t' u u' : List Step}
    {o o' : Except Response Caller} (h : Authentication s token t o)
    (h' : Authentication s token t' o') (ht : t ++ u = t' ++ u') : o = o' ∧ u = u' := by
  cases h with
  | unnamed hn =>
    cases h' with
    | unnamed => exact ⟨rfl, by simpa using (List.cons.inj ht).2⟩
    | looked reply hn' =>
      simp only [List.cons_append, List.cons.injEq, Step.readClock.injEq] at ht
      simp [ht.1 ▸ hn] at hn'
  | looked reply hn =>
    cases h' with
    | unnamed hn' =>
      simp only [List.cons_append, List.cons.injEq, Step.readClock.injEq] at ht
      simp [ht.1, hn'] at hn
    | looked reply' hn' =>
      simp only [List.cons_append, List.nil_append, List.cons.injEq, Step.asked.injEq,
        Command.run.injEq, Sql.Statement.activeSession.injEq] at ht
      obtain ⟨-, ⟨⟨rfl, rfl⟩, rfl⟩, rfl⟩ := ht
      exact ⟨rfl, rfl⟩

theorem Introduces.answers {w? : Option Response} (hlead : s.Introduces r lead c?)
    (hm : r.method ≠ .options) (h : s.Answers r (lead ++ rest) w?) :
    (s.dispatch r c?).Runs rest w? := by
  cases c? with
  | none =>
    cases hlead with
    | nobody hb =>
      cases h with
      | preflight ho => exact absurd ho hm
      | anonymous _ _ hd => exact hd
      | turnedAway _ hb' | known _ hb' => simp [hb] at hb'
  | some c =>
    obtain ⟨token, hb, ha⟩ := hlead.authentication
    generalize ht : lead ++ rest = t at h
    cases h with
    | preflight ho => exact absurd ho hm
    | anonymous _ hb' => simp [hb] at hb'
    | turnedAway _ hb' ha' =>
      obtain rfl := Option.some.inj (hb.symm.trans hb')
      simpa using (ha.unique ha' (ht.trans (List.append_nil _).symm)).1
    | known _ hb' ha' hd =>
      obtain rfl := Option.some.inj (hb.symm.trans hb')
      obtain ⟨hcaller, rfl⟩ := ha.unique ha' ht
      exact Except.ok.inj hcaller ▸ hd

theorem Reaches.runs_iff {h : Handler} {v? : Option Response} (hr : s.Reaches r e name?)
    (hh : (e, h) ∈ endpoints s.policy) (hlead : s.Introduces r lead c?) :
    (s.handle r).Runs (lead ++ rest) v? ↔
      ∃ o?, (h ⟨r, c?, name?⟩).Runs rest o? ∧
        v? = o?.map fun o => s.outer r (settle Stop.response o) := by
  constructor
  · intro ht
    obtain ⟨w?, hw, rfl⟩ := runs_handle.mp ht
    have hd := hlead.answers hr.not_options hw
    rw [hr.dispatch_eq hh] at hd
    obtain ⟨o?, ho, rfl⟩ := runs_respond.mp hd
    exact ⟨o?, ho, by rw [Option.map_map]; rfl⟩
  · rintro ⟨o?, ho, rfl⟩
    cases c? with
    | none =>
      cases hlead with
      | nobody hb => exact hr.runs_of_nobody hh hb ho
    | some c => exact hr.runs_of_caller hh hlead ho

end Server

end CityGuide.Api
