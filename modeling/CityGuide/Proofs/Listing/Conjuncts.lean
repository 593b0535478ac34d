import CityGuide.Listing.Params
import CityGuide.Listing.Source

namespace CityGuide.Listing

open Sql

namespace Request

theorem eq_mem_filters (r : Request) (column value : String) :
    Filter.eq column value ∈ (r.eq column value).filters := by
  simp [eq, filter]

theorem mem_filters_eq {r : Request} {f : Filter} {column value : String} (h : f ∈ r.filters) :
    f ∈ (r.eq column value).filters := by
  simp [eq, filter, h]

end Request

namespace Source

variable {s : Source} {f : Filter} {c : ListColumn} {fs : List Filter}
  {resolved : List (Filter × ListColumn)}

theorem resolve_cons_eq_ok :
    s.resolve (f :: fs) = .ok resolved ↔
      (f.isSkipped = true ∧ s.resolve fs = .ok resolved) ∨
        f.isSkipped = false ∧ ∃ c rest, s.column? f.column = some c ∧ s.resolve fs = .ok rest ∧
          resolved = (f, c) :: rest := by
  rw [resolve]
  cases f.isSkipped with
  | true => simp
  | false =>
    cases hc : s.column? f.column <;> cases hr : s.resolve fs <;>
      simp [Except.map, eq_comm]

theorem resolve_ok_iff :
    (∃ resolved, s.resolve fs = .ok resolved) ↔
      ∀ f ∈ fs, f.isSkipped = false → ∃ c, s.column? f.column = some c := by
  induction fs with
  | nil => simp [resolve]
  | cons f fs ih =>
    simp only [resolve_cons_eq_ok, List.forall_mem_cons, ← ih]
    cases f.isSkipped with
    | true => simp
    | false =>
      simp only [Bool.false_eq_true, false_and, true_and, false_or, forall_const]
      constructor
      · rintro ⟨_, c, rest, hc, hrest, -⟩
        exact ⟨⟨c, hc⟩, rest, hrest⟩
      · rintro ⟨⟨c, hc⟩, rest, hrest⟩
        exact ⟨_, c, rest, hc, hrest, rfl⟩

theorem mem_resolve (h : s.resolve fs = .ok resolved) :
    (f, c) ∈ resolved ↔ f ∈ fs ∧ f.isSkipped = false ∧ s.column? f.column = some c := by
  induction fs generalizing resolved with
  | nil =>
    obtain rfl := Except.ok.inj h
    simp
  | cons g gs ih =>
    rcases resolve_cons_eq_ok.mp h with ⟨hg, h⟩ | ⟨hg, d, rest, hd, hrest, rfl⟩
    · rw [ih h, List.mem_cons]
      refine and_congr_left fun hf => (or_iff_right ?_).symm
      rintro rfl
      simp [hg] at hf
    · rw [List.mem_cons, Prod.mk.injEq, ih hrest, List.mem_cons]
      constructor
      · rintro (⟨rfl, rfl⟩ | ⟨hf, hasked⟩)
        · exact ⟨.inl rfl, hg, hd⟩
        · exact ⟨.inr hf, hasked⟩
      · rintro ⟨rfl | hf, hasked⟩
        · exact .inl ⟨rfl, Option.some.inj (hasked.2.symm.trans hd)⟩
        · exact .inr ⟨hf, hasked⟩

theorem conjuncts_eq_cons {rest : List (Filter × ListColumn)} (hk : f.kind = .eq) :
    s.conjuncts ((f, c) :: rest) = [s.equality c f.value] :: s.conjuncts rest := by
  rw [conjuncts, hk]

theorem conjuncts_search_cons {rest : List (Filter × ListColumn)} (hk : f.kind = .search) :
    s.conjuncts ((f, c) :: rest) =
      (s.searching c f.value ::
        (alternatives f.value rest).map fun x => s.searching x.2 x.1.value) ::
      s.conjuncts (others f.value rest) := by
  rw [conjuncts, hk]

theorem equality_mem_conjuncts (h : (f, c) ∈ resolved) (hk : f.kind = .eq) :
    [s.equality c f.value] ∈ s.conjuncts resolved := by
  fun_induction conjuncts s resolved with
  | case1 => simp at h
  | case2 g d rest hg ih =>
    rcases List.mem_cons.mp h with heq | h
    · obtain ⟨rfl, rfl⟩ := Prod.mk.inj heq
      exact List.mem_cons_self ..
    · exact List.mem_cons_of_mem _ (ih h)
  | case3 g d rest hg ih =>
    rcases List.mem_cons.mp h with heq | h
    · obtain ⟨rfl, -⟩ := Prod.mk.inj heq
      simp [hk] at hg
    · refine List.mem_cons_of_mem _ (ih (List.mem_filter.mpr ⟨h, ?_⟩))
      simp [sameSearch, hk]

theorem conjuncts_eq_nil : s.conjuncts resolved = [] ↔ resolved = [] := by
  fun_cases conjuncts s resolved <;> simp

theorem predicate_eq_ok {p : Predicate} :
    s.predicate fs = .ok p ↔
      ∃ resolved, s.resolve fs = .ok resolved ∧ s.conjuncts resolved = p := by
  cases h : s.resolve fs <;> simp [predicate, h, Except.map]

theorem predicate_ok_iff :
    (∃ p, s.predicate fs = .ok p) ↔
      ∀ f ∈ fs, f.isSkipped = false → ∃ c, s.column? f.column = some c := by
  rw [← resolve_ok_iff]
  constructor
  · rintro ⟨p, h⟩
    obtain ⟨resolved, hresolved, -⟩ := predicate_eq_ok.mp h
    exact ⟨resolved, hresolved⟩
  · rintro ⟨resolved, hresolved⟩
    exact ⟨_, predicate_eq_ok.mpr ⟨resolved, hresolved, rfl⟩⟩

theorem compile_eq_ok {base : Select} {r : Request} {compiled : Compiled} :
    s.compile base r = .ok compiled ↔
      ∃ p order, s.predicate r.filters = .ok p ∧ s.sorts r.order = .ok order ∧
        compiled =
          ⟨{ base with condition := p, order := order, window := some r.window }, s.countOf p⟩ := by
  cases hp : s.predicate r.filters <;> cases ho : s.sorts r.order <;>
    simp [compile, hp, ho, Bind.bind, Except.bind, eq_comm]

theorem equality_mem_condition {base : Select} {r : Request} {compiled : Compiled}
    (h : s.compile base r = .ok compiled) (hf : f ∈ r.filters) (hk : f.kind = .eq)
    (hv : f.value.isEmpty = false) (hc : s.column? f.column = some c) :
    [s.equality c f.value] ∈ compiled.fetch.condition ∧
      [s.equality c f.value] ∈ compiled.count.condition := by
  obtain ⟨p, order, hp, -, rfl⟩ := compile_eq_ok.mp h
  obtain ⟨resolved, hresolved, rfl⟩ := predicate_eq_ok.mp hp
  have hskip : f.isSkipped = false := by simp [Filter.isSkipped, Filter.isEmpty, hv, hk]
  have hmem := (mem_resolve hresolved).mpr ⟨hf, hskip, hc⟩
  exact ⟨equality_mem_conjuncts hmem hk, equality_mem_conjuncts hmem hk⟩

end Source

end CityGuide.Listing
