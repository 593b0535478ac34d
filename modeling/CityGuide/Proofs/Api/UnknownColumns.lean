import CityGuide.Proofs.Api.Lists

namespace CityGuide.Api

open Http (Response)
open Listing (Params Source)
open Store Handling

namespace Lists

variable {i : Incoming} {p : Params} {e : Endpoint} {looks : List Step} {q : Inquiry}

theorem no_select (h : Lists i p e looks q) :
    ∀ x ∈ exchanges looks, ∀ sel, x.1 ≠ .run (.select sel) := by
  cases h <;> simp

theorem not_filterColumn (h : Lists i p e looks q) (table column : String) :
    q.source.compile q.base (q.request p) ≠ .error (.filterColumn table column) := by
  intro hu
  cases Source.compile_eq_error.mp hu with
  | filter hf =>
    obtain ⟨f, hmem, hbad⟩ := Listing.First.exists_iff.mp ⟨_, hf⟩
    exact hbad (h.within.serves f hmem)

theorem unknown_iff (h : Lists i p e looks q) :
    (∃ u, q.source.compile q.base (q.request p) = .error u) ↔
      ∃ item ∈ Params.sortItems (p.sort.getD ""),
        ¬q.source.Allows (Params.orderKey item).column := by
  have horder : (q.request p).order = p.sortOrder Params.newestFirst :=
    congrArg Listing.Request.order (q.request_eq p)
  have hserved : ¬∃ f ∈ (q.request p).filters, f.Asks ∧ ¬q.source.Allows f.column := by
    rintro ⟨f, hf, hasks, hbad⟩
    exact hbad (h.within.serves f hf hasks)
  simp only [Source.compile_eq_error]
  rw [Source.refused_iff, or_iff_right hserved, horder, sortOrder_refused p h.within.created]

end Lists

theorem Server.Introduces.no_select {s : Server} {r : Http.Request} {lead : List Step}
    {c? : Option Caller} (h : s.Introduces r lead c?) :
    ∀ x ∈ exchanges lead, ∀ sel, x.1 ≠ .run (.select sel) := by
  intro x hx sel
  obtain ⟨_, _, hlook⟩ := h.sends x hx
  simp [hlook]

namespace Server

theorem unknown_names_refused :
    (∀ (source : Source) (base : Sql.Select) (request : Listing.Request),
      (∀ u, source.compile base request = .error u ↔ source.Refuses request u) ∧
      ((∃ u, source.compile base request = .error u) ↔
        (∃ f ∈ request.filters, f.Asks ∧ ¬source.Allows f.column) ∨
          ∃ k ∈ request.order, ¬source.Allows k.column)) ∧
    ∀ {s : Server} {r : Http.Request} {e : Endpoint} {name? : Option (List Char)}
      {lead looks rest : List Step} {c? : Option Caller} {p : Params} {q : Inquiry}
      {v? : Option Response},
      s.Reaches r e name? → s.Introduces r lead c? → Lists ⟨r, c?, name?⟩ p e looks q →
      (s.handle r).Runs (lead ++ (looks ++ rest)) v? →
      (∀ table column,
        q.source.compile q.base (q.request p) ≠ .error (.filterColumn table column)) ∧
      ((∃ response, v? = some response ∧ response.status = 400 ∧
          ∀ x ∈ exchanges (lead ++ (looks ++ rest)), ∀ sel, x.1 ≠ .run (.select sel)) ↔
        ∃ item ∈ Params.sortItems (p.sort.getD ""),
          ¬q.source.Allows (Params.orderKey item).column) := by
  refine ⟨fun source base request => ⟨fun u => Source.compile_eq_error, ?_⟩, ?_⟩
  · simp only [Source.compile_eq_error]
    exact Source.refused_iff
  intro s r e name? lead looks rest c? p q v? hr hlead hq ht
  refine ⟨hq.not_filterColumn, ?_⟩
  rw [← hq.unknown_iff]
  obtain ⟨handler, hmem, α, read, encode, hpage⟩ := hq.handled s.policy
  obtain ⟨o?, ho, rfl⟩ := (hr.runs_iff hmem hlead).mp ht
  rw [hpage] at ho
  cases hcompiled : q.source.compile q.base (q.request p) with
  | error u =>
    rw [Inquiry.page_of_unknown hcompiled, Action.runs_ofExcept] at ho
    obtain ⟨rfl, rfl⟩ := ho
    refine iff_of_true ⟨_, rfl, outer_status _, fun x hx => ?_⟩ ⟨u, rfl⟩
    rw [List.append_nil, exchanges_append] at hx
    rcases List.mem_append.mp hx with hx | hx
    · exact hlead.no_select x hx
    · exact hq.no_select x hx
  | ok compiled =>
    obtain ⟨o, -, hpaged⟩ := (Inquiry.runs_page hcompiled).mp ho
    have hsent : ∃ reply, (.run (.select compiled.fetch), reply) ∈ exchanges rest := by
      cases hpaged with
      | failed | counted => exact ⟨_, List.mem_cons_self ..⟩
    obtain ⟨reply, hsent⟩ := hsent
    refine iff_of_false ?_ (by simp)
    rintro ⟨-, -, -, hnone⟩
    exact hnone (.run (.select compiled.fetch), reply) (by simp [hsent]) _ rfl

def misordered : Http.Request :=
  ⟨.get, "/v1/event/00000000-0000-0000-0000-000000000000/participants?sort=full_name,-password", [],
    ""⟩

def misorderedIncoming : Incoming :=
  ⟨misordered, none, some "00000000-0000-0000-0000-000000000000".toList⟩

theorem misordered_reaches (s : Server) :
    s.Reaches misordered ⟨.get, [.fixed "v1", .fixed "event", .name, .fixed "participants"]⟩
      misorderedIncoming.name? :=
  ⟨Events.listParticipants, by
    simp [misordered, misorderedIncoming, serving?, routeOf, Http.Target.ofString, Text.cutOnce,
      Http.Target.segments?, Text.splitOn, findRoute, routes, path, named, Route.matchSegments,
      Route.handler?, served]⟩

def fairReply : Reply :=
  .ok ⟨[[("id", .uuid .nil), ("business_id", .uuid .nil), ("title", .text "Fair"),
    ("description", .text ""), ("location", .text ""), ("starts_at", .timestamp ⟨0, 0⟩),
    ("ends_at", .null), ("created_at", .timestamp ⟨0, 0⟩), ("updated_at", .timestamp ⟨0, 0⟩)]], 1⟩

def misorderedParams : Params := ⟨none, none, none, some "full_name,-password"⟩

def ofEvent (id : Uuid) : Inquiry :=
  ⟨Participant.source, Participant.source.select Participant.fields, ["full_name", "user_name"],
    [("event_id", id.text)]⟩

theorem misordered_lists :
    Lists misorderedIncoming misorderedParams
      ⟨.get, [.fixed "v1", .fixed "event", .name, .fixed "participants"]⟩
      [.asked (.run (.find Event.table .nil)) fairReply] (ofEvent .nil) := by
  have hpairs : misorderedIncoming.pairs = [("sort", "full_name,-password")] := by decide +kernel
  have hid : misorderedIncoming.id = .ok .nil := by
    have hname : (misorderedIncoming.name?.bind Http.segmentText?).bind Uuid.ofText? =
        some .nil := by
      decide +kernel
    rw [Incoming.id, hname]
  have hquery : misorderedIncoming.query [] =
      .ok (misorderedParams, Incoming.value? misorderedIncoming.pairs) := by
    simp [Incoming.query, hpairs, Incoming.listNames, Incoming.comesTwice, Incoming.value?,
      misorderedParams]
  exact .participants hid hquery rfl

theorem misordered_refused :
    ∃ response, ((⟨⟨[], 0⟩, .anyone, 30⟩ : Server).handle misordered).Runs
        [.asked (.run (.find Event.table .nil)) fairReply] (some response) ∧
      response.status = 400 := by
  have hr := misordered_reaches ⟨⟨[], 0⟩, .anyone, 30⟩
  have hlead : Introduces ⟨⟨[], 0⟩, .anyone, 30⟩ misordered [] none := .nobody rfl
  have hsecret : ∃ item ∈ Params.sortItems (misorderedParams.sort.getD ""),
      ¬(ofEvent .nil).source.Allows (Params.orderKey item).column :=
    ⟨"-password".toList, by decide +kernel, by simp [Source.Allows, ofEvent, Participant.source,
      Params.orderKey, Listing.OrderKey.desc]⟩
  obtain ⟨u, hunknown⟩ := misordered_lists.unknown_iff.mpr hsecret
  obtain ⟨handler, hmem, α, read, encode, hpage⟩ := misordered_lists.handled ⟨[], 0⟩
  have ho := (hpage [] (some (.error (.error (.query u))))).mpr (by
    rw [Inquiry.page_of_unknown hunknown, Action.runs_ofExcept]
    exact ⟨rfl, rfl⟩)
  have ht := (hr.runs_iff hmem hlead).mpr ⟨_, ho, rfl⟩
  obtain ⟨-, hstatus⟩ := unknown_names_refused.2 hr hlead misordered_lists ht
  obtain ⟨response, hsome, hstatus, -⟩ := hstatus.mpr hsecret
  exact ⟨response, hsome ▸ ht, hstatus⟩

end Server

end CityGuide.Api
