import CityGuide.Proofs.Api.Authentication
import CityGuide.Proofs.Api.Guards
import CityGuide.Proofs.Api.SignedRequests
import CityGuide.Proofs.Listing.Conjuncts
import CityGuide.Proofs.Sql.Where
import CityGuide.Proofs.Store.Entities
import CityGuide.Proofs.Uuid

namespace CityGuide.Api

open Store Handling
open Listing (Filter Source Request)

structure OwnRows (table : String) (self : Uuid) (sel : Sql.Select) : Prop where
  source : sel.table = ⟨table, none⟩ ∧ sel.joins = []
  demands : sel.Demands ⟨table, "user_id"⟩ (.uuid self)
  rows : ∀ m ρ, sel.condition.Holds m ρ → ρ ⟨table, "user_id"⟩ = some (.uuid self)

theorem ownRows_of_mem {table : String} {self : Uuid} {sel : Sql.Select}
    (hs : sel.table = ⟨table, none⟩ ∧ sel.joins = [])
    (h : [.equals ⟨table, "user_id"⟩ (.uuid self)] ∈ sel.condition) : OwnRows table self sel where
  source := hs
  demands := Sql.Select.demands_of_mem h
  rows _ _ hholds := by
    obtain ⟨v, hv, hequal⟩ := hholds.alone h
    rw [hv, Sql.Value.compared_eq_uuid.mp hequal]

def SeesOwnRows (table : String) (self : Uuid) (c : Command) : Prop :=
  ∃ sel, c = .run (.select sel) ∧ OwnRows table self sel

theorem fetchPage_ownRows {α : Type} {source : Source} {self : Uuid} {read : Row → Option α}
    {req : Request} (hcalled : source.called? = none) (hjoins : source.joins = [])
    (hcolumn : source.column? "user_id" = some ⟨"user_id", .uuid, none⟩)
    (hf : Filter.eq "user_id" self.text ∈ req.filters) :
    Action.Sends (SeesOwnRows source.table self)
      (fetchPage source (source.select [.everything]) read req) := by
  refine fetchPage_sends fun compiled hcompiled => ?_
  have hequality : source.equality ⟨"user_id", .uuid, none⟩ self.text =
      .equals ⟨source.table, "user_id"⟩ (.uuid self) := by
    simp [Source.equality, Listing.ColumnKind.value?, Uuid.ofText?_text, Source.reference,
      Source.qualifier, hcalled]
  have hmem := Source.equality_mem_condition hcompiled hf rfl (Uuid.text_isEmpty self) hcolumn
  rw [show (Filter.eq "user_id" self.text).value = self.text from rfl, hequality] at hmem
  obtain ⟨_, _, -, -, rfl⟩ := Source.compile_eq_ok.mp hcompiled
  constructor
  · refine ⟨_, rfl, ownRows_of_mem ?_ hmem.1⟩
    simp [Source.select, Source.innerJoins, hcalled, hjoins]
  · refine ⟨_, rfl, ownRows_of_mem ?_ hmem.2⟩
    simp [Source.countOf, Source.select, Source.innerJoins, hcalled, hjoins]

variable {i : Incoming} {c : Caller}

theorem Notifications.list_ownRows (hc : i.caller = .ok c) (hn : c.userType ≠ .admin) :
    Action.Sends (SeesOwnRows Notification.table c.userId) (list i) := by
  refine .gate fun d hd => .gate fun _ _ => .bind (.mapError ?_) fun _ => .pure _
  obtain rfl := Except.ok.inj (hc.symm.trans hd)
  refine fetchPage_ownRows rfl rfl rfl (Request.mem_filters_eq ?_)
  rw [Caller.scope_eq hn]
  exact Request.eq_mem_filters ..

theorem Bookmarks.list_ownRows (hc : i.caller = .ok c) (hn : c.userType ≠ .admin) :
    Action.Sends (SeesOwnRows Bookmark.table c.userId) (list i) := by
  refine .gate fun d hd => .gate fun _ _ => .bind (.mapError ?_) fun _ => .pure _
  obtain rfl := Except.ok.inj (hc.symm.trans hd)
  refine fetchPage_ownRows rfl rfl rfl (Request.mem_filters_eq ?_)
  rw [Caller.scope_eq hn]
  exact Request.eq_mem_filters ..

theorem Reports.list_ownRows (hc : i.caller = .ok c) (hn : c.userType ≠ .admin) :
    Action.Sends (SeesOwnRows Report.table c.userId) (list i) := by
  refine .gate fun d hd => .gate fun _ _ => .bind (.mapError ?_) fun _ => .pure _
  obtain rfl := Except.ok.inj (hc.symm.trans hd)
  refine fetchPage_ownRows rfl rfl rfl ?_
  rw [Reports.scope_eq hn]
  exact Request.eq_mem_filters ..

def privateLists : List (Endpoint × String) :=
  [(.fixed .get ["v1", "notification", "list"], Notification.table),
    (.fixed .get ["v1", "bookmark", "list"], Bookmark.table),
    (.fixed .get ["v1", "report", "list"], Report.table)]

theorem Server.private_lists_scoped {s : Server} {r : Http.Request} {e : Endpoint} {table : String}
    {name? : Option (List Char)} {t : List Step} {v? : Option Http.Response} {c : Caller}
    (he : (e, table) ∈ privateLists) (hr : s.Reaches r e name?) (ht : (s.handle r).Runs t v?)
    (hc : caller? t = some c) (hn : c.userType ≠ .admin) :
    ∀ x ∈ exchanges t, (∃ sessionId userId, x.1 = .run (.activeSession sessionId userId)) ∨
      ∃ sel, x.1 = .run (.select sel) ∧ OwnRows table c.userId sel := by
  intro x hx
  simp only [privateLists, List.mem_cons, Prod.mk.injEq, List.not_mem_nil, or_false] at he
  rcases he with ⟨rfl, rfl⟩ | ⟨rfl, rfl⟩ | ⟨rfl, rfl⟩
  · refine hr.sends_of_caller ?_ ?_ ht hc (Notifications.list_ownRows rfl hn) hx
    · simp [endpoints, Route.endpoints, routes, path, named, Endpoint.fixed]
    · simp [openEndpoints, Endpoint.fixed, Endpoint.named]
  · refine hr.sends_of_caller ?_ ?_ ht hc (Bookmarks.list_ownRows rfl hn) hx
    · simp [endpoints, Route.endpoints, routes, path, named, Endpoint.fixed]
    · simp [openEndpoints, Endpoint.fixed, Endpoint.named]
  · refine hr.sends_of_caller ?_ ?_ ht hc (Reports.list_ownRows rfl hn) hx
    · simp [endpoints, Route.endpoints, routes, path, named, Endpoint.fixed]
    · simp [openEndpoints, Endpoint.fixed, Endpoint.named]

namespace Server

def prying : Http.Request :=
  carrying [] visitorClaims
    ⟨.get, "/v1/bookmark/list?user_id=11111111-1111-1111-1111-111111111111", [], ""⟩

theorem prying_reaches (s : Server) :
    s.Reaches prying (.fixed .get ["v1", "bookmark", "list"]) none :=
  ⟨Bookmarks.list, by
    simp [prying, carrying, serving?, routeOf, Http.Target.ofString, Text.cutOnce,
      Http.Target.segments?, Text.splitOn, findRoute, routes, path, named, Route.matchSegments,
      Route.handler?, served, Endpoint.fixed]⟩

def isSelect : Command → Bool
  | .run (.select _) => true
  | _ => false

def pryingRun : List Step :=
  Program.traceOn (ExceptT.run (Bookmarks.list ⟨prying, some (visitor .user), none⟩)) (.offline "")

theorem pryingRun_selects : ∃ x ∈ exchanges pryingRun, isSelect x.1 = true := by
  decide +kernel

theorem prying_sees_own :
    (∃ x ∈ exchanges pryingRun, isSelect x.1 = true) ∧
      ∀ x ∈ exchanges (visitorLead .user ++ pryingRun),
        (∃ sessionId userId, x.1 = .run (.activeSession sessionId userId)) ∨
          ∃ sel, x.1 = .run (.select sel) ∧ OwnRows "bookmarks" .nil sel := by
  have he : (Endpoint.fixed .get ["v1", "bookmark", "list"], "bookmarks") ∈ privateLists := by
    simp [privateLists, Bookmark.table]
  have hh : (Endpoint.fixed .get ["v1", "bookmark", "list"], Bookmarks.list) ∈
      endpoints ⟨[], 0⟩ := by
    simp [endpoints, Route.endpoints, routes, path, named, Endpoint.fixed]
  have hr := prying_reaches ⟨⟨[], 0⟩, .anyone, 30⟩
  have hlead : Introduces ⟨⟨[], 0⟩, .anyone, 30⟩ prying (visitorLead .user) (some (visitor .user)) :=
    introduces_visitor ..
  have ht := hr.runs_of_caller hh hlead (Program.runs_traceOn _ (.offline ""))
  exact ⟨pryingRun_selects, private_lists_scoped he hr ht hlead.caller? (by decide)⟩

end Server

end CityGuide.Api
