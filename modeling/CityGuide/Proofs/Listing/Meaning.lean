import CityGuide.Guide.Business
import CityGuide.Proofs.Listing.Conjuncts
import CityGuide.Proofs.Sql.Where
import Mathlib.Data.List.Basic

namespace CityGuide.Listing

open Sql

variable {s : Source} {f : Filter} {c : ListColumn} {fs gs : List Filter}
  {resolved rest : List (Filter × ListColumn)} {m : Matching} {ρ : Record} {p : Predicate}

inductive Denotes : ColumnKind → String → Value → Prop
  | text {t : String} (h : '\x00' ∉ t.toList) : Denotes .text t (.text t)
  | uuid {t : String} {u : Uuid} (h : Uuid.ofText? t = some u) : Denotes .uuid t (.uuid u)
  | integer {t : String} {n : Int} (h : Text.signed? 64 t.toList = some n) :
      Denotes .integer t (.int8 n)
  | timestamp {t : String} {i : Time.Instant} (h : Time.Rfc3339.read? .exact t = some i) :
      Denotes .timestamp t (.timestamp i)

theorem toNat_eq_zero_iff {x : Char} : x.toNat = 0 ↔ x = '\x00' := by
  constructor
  · intro h
    exact Char.ext (UInt32.toNat_inj.mp h)
  · rintro rfl
    rfl

theorem ColumnKind.value?_eq_some {kind : ColumnKind} {t : String} {v : Value} :
    kind.value? t = some v ↔ Denotes kind t v := by
  constructor
  · intro h
    cases kind with
    | text =>
      simp only [value?, List.any_eq_true, decide_eq_true_eq, toNat_eq_zero_iff] at h
      split at h
      · simp at h
      · rename_i hnul
        obtain rfl := Option.some.inj h
        exact .text fun hx => hnul ⟨_, hx, rfl⟩
    | uuid =>
      obtain ⟨u, hu, rfl⟩ := Option.map_eq_some_iff.mp h
      exact .uuid hu
    | integer =>
      obtain ⟨n, hn, rfl⟩ := Option.map_eq_some_iff.mp h
      exact .integer hn
    | timestamp =>
      obtain ⟨i, hi, rfl⟩ := Option.map_eq_some_iff.mp h
      exact .timestamp hi
  · rintro (h | h | h | h)
    · simpa [value?, toNat_eq_zero_iff] using h
    · simp [value?, h]
    · simp [value?, h]
    · simp [value?, h]

namespace Filter

theorem isSkipped_eq_true :
    f.isSkipped = true ↔
      f.value = "" ∨ f.kind = .search ∧ ∀ x ∈ f.value.toList, x = '\x00' := by
  simp [isSkipped, isEmpty, String.isEmpty_iff, toNat_eq_zero_iff]

theorem asked_of_eq (hk : f.kind = .eq) : f.isSkipped = false ↔ f.value ≠ "" := by
  rw [← Bool.not_eq_true, isSkipped_eq_true]
  simp [hk]

theorem asked_of_search (hk : f.kind = .search) :
    f.isSkipped = false ↔ ∃ x ∈ f.value.toList, x ≠ '\x00' := by
  have hempty : f.value = "" → ∀ x ∈ f.value.toList, x = '\x00' := by
    intro h
    simp [h]
  rw [← Bool.not_eq_true, isSkipped_eq_true, or_iff_right_of_imp fun h => ⟨hk, hempty h⟩]
  simp [hk]

end Filter

namespace Source

theorem sameSearch_eq_true {value : String} {x : Filter × ListColumn} :
    sameSearch value x = true ↔ x.1.kind = .search ∧ x.1.value = value := by
  simp [sameSearch]

theorem mem_others {value : String} {x : Filter × ListColumn} :
    x ∈ others value rest ↔ x ∈ rest ∧ ¬(x.1.kind = .search ∧ x.1.value = value) := by
  simp [others, ← sameSearch_eq_true]

theorem alternatives_cons_same (hk : f.kind = .search) :
    alternatives f.value ((f, c) :: rest) = (f, c) :: alternatives f.value rest := by
  rw [alternatives, List.filter_cons_of_pos (by simp [sameSearch, hk]), alternatives]

theorem alternatives_cons_other {value : String} (hv : f.value ≠ value) :
    alternatives value ((f, c) :: rest) = alternatives value rest := by
  rw [alternatives, List.filter_cons_of_neg (by simp [sameSearch, hv]), alternatives]

theorem alternatives_others {value other : String} (hv : value ≠ other) :
    alternatives value (others other rest) = alternatives value rest := by
  rw [alternatives, others, List.filter_filter, alternatives]
  refine List.filter_congr fun x _ => ?_
  rw [Bool.and_eq_left_iff_imp]
  intro h
  simp [sameSearch, (sameSearch_eq_true.mp h).2, hv]

structure Demanded (s : Source) (m : Matching) (ρ : Record)
    (resolved : List (Filter × ListColumn)) : Prop where
  equal : ∀ x ∈ resolved, x.1.kind = .eq → (s.equality x.2 x.1.value).Holds m ρ
  found : ∀ x ∈ resolved, x.1.kind = .search →
    ∃ y ∈ alternatives x.1.value resolved, (s.searching y.2 y.1.value).Holds m ρ

theorem demanded_nil : s.Demanded m ρ [] := ⟨by simp, by simp⟩

theorem demanded_eq_cons (hk : f.kind = .eq) :
    s.Demanded m ρ ((f, c) :: rest) ↔
      (s.equality c f.value).Holds m ρ ∧ s.Demanded m ρ rest := by
  have hsame : ∀ value, alternatives value ((f, c) :: rest) = alternatives value rest := by
    intro value
    simp [alternatives, sameSearch, hk]
  constructor
  · rintro ⟨hequal, hfound⟩
    refine ⟨hequal _ (List.mem_cons_self ..) hk, ?_, ?_⟩
    · intro x hx
      exact hequal x (List.mem_cons_of_mem _ hx)
    · intro x hx hs
      have halternative := hfound x (List.mem_cons_of_mem _ hx) hs
      rwa [hsame] at halternative
  · rintro ⟨hf, hequal, hfound⟩
    constructor
    · exact List.forall_mem_cons.mpr ⟨fun _ => hf, hequal⟩
    · simp only [hsame]
      exact List.forall_mem_cons.mpr ⟨fun hs => by simp [hk] at hs, hfound⟩

theorem demanded_search_cons (hk : f.kind = .search) :
    s.Demanded m ρ ((f, c) :: rest) ↔
      (∃ y ∈ (f, c) :: alternatives f.value rest, (s.searching y.2 y.1.value).Holds m ρ) ∧
        s.Demanded m ρ (others f.value rest) := by
  constructor
  · rintro ⟨hequal, hfound⟩
    refine ⟨?_, ?_, ?_⟩
    · rw [← alternatives_cons_same hk]
      exact hfound _ (List.mem_cons_self ..) hk
    · intro x hx
      exact hequal x (List.mem_cons_of_mem _ (mem_others.mp hx).1)
    · intro x hx hs
      obtain ⟨hrest, hother⟩ := mem_others.mp hx
      have hne : x.1.value ≠ f.value := fun h => hother ⟨hs, h⟩
      rw [alternatives_others hne, ← alternatives_cons_other (c := c) hne.symm]
      exact hfound x (List.mem_cons_of_mem _ hrest) hs
  · rintro ⟨hf, hequal, hfound⟩
    constructor
    · refine List.forall_mem_cons.mpr ⟨fun he => by simp [hk] at he, fun x hx he => ?_⟩
      exact hequal x (mem_others.mpr ⟨hx, fun h => by simp [he] at h⟩) he
    · refine List.forall_mem_cons.mpr ⟨fun _ => ?_, fun x hx hs => ?_⟩
      · rwa [alternatives_cons_same hk]
      · by_cases hsame : x.1.value = f.value
        · rwa [hsame, alternatives_cons_same hk]
        · rw [alternatives_cons_other (Ne.symm hsame), ← alternatives_others hsame]
          exact hfound x (mem_others.mpr ⟨hx, fun h => hsame h.2⟩) hs

theorem conjuncts_holds : (s.conjuncts resolved).Holds m ρ ↔ s.Demanded m ρ resolved := by
  fun_induction conjuncts s resolved with
  | case1 => simp [Predicate.Holds, demanded_nil]
  | case2 f c rest hk ih =>
    rw [demanded_eq_cons hk, ← ih, Predicate.Holds, List.forall_mem_cons]
    simp only [List.mem_singleton, exists_eq_left, Predicate.Holds]
  | case3 f c rest hk ih =>
    rw [demanded_search_cons hk, ← ih, Predicate.Holds, List.forall_mem_cons]
    simp only [List.exists_mem_cons_iff, List.mem_map, exists_exists_and_eq_and, Predicate.Holds]

def Equal (s : Source) (ρ : Record) (f : Filter) : Prop :=
  ∃ c v w, s.column? f.column = some c ∧ Denotes c.kind f.value v ∧
    ρ (s.reference c) = some w ∧ w.compared = v.compared

def Found (s : Source) (m : Matching) (ρ : Record) (f : Filter) : Prop :=
  ∃ c v, s.column? f.column = some c ∧ ρ (s.reference c) = some v ∧
    m (c.kind ≠ .text) v (String.ofList (likePattern f.value.toList))

/-- A row passes every equality and, for each searched value, one of its searches. An equality
with the empty text and a search for nothing but NULs ask for nothing. -/
structure Admits (s : Source) (m : Matching) (ρ : Record) (fs : List Filter) : Prop where
  equal : ∀ f ∈ fs, f.kind = .eq → f.value ≠ "" → s.Equal ρ f
  found : ∀ v : String, (∃ x ∈ v.toList, x ≠ '\x00') →
    (∃ f ∈ fs, f.kind = .search ∧ f.value = v) →
    ∃ f ∈ fs, f.kind = .search ∧ f.value = v ∧ s.Found m ρ f

theorem equality_holds {value : String} :
    (s.equality c value).Holds m ρ ↔
      ∃ v w, Denotes c.kind value v ∧ ρ (s.reference c) = some w ∧
        w.compared = v.compared := by
  rw [equality]
  cases hv : c.kind.value? value with
  | none => simp [Term.Holds, ← ColumnKind.value?_eq_some, hv]
  | some v => simp [Term.Holds, ← ColumnKind.value?_eq_some, hv]

theorem found_of_holds (hc : s.column? f.column = some c)
    (h : (s.searching c f.value).Holds m ρ) : s.Found m ρ f := by
  obtain ⟨v, hv, hlike⟩ := h
  exact ⟨c, v, hc, hv, by simpa using hlike⟩

theorem Found.holds (h : s.Found m ρ f) (hc : s.column? f.column = some c) :
    (s.searching c f.value).Holds m ρ := by
  obtain ⟨d, v, hd, hv, hlike⟩ := h
  obtain rfl := Option.some.inj (hc.symm.trans hd)
  exact ⟨v, hv, by simpa using hlike⟩

theorem Demanded.admits (hd : s.Demanded m ρ resolved) (h : s.resolve fs = .ok resolved) :
    s.Admits m ρ fs := by
  have hcolumn := resolve_ok_iff.mp ⟨_, h⟩
  constructor
  · intro f hf hk hv
    have hasked : f.isSkipped = false := (Filter.asked_of_eq hk).mpr hv
    obtain ⟨c, hc⟩ := hcolumn f hf hasked
    have hmem := (mem_resolve h).mpr ⟨hf, hasked, hc⟩
    obtain ⟨v, w, hdenotes, hrow, hequal⟩ := equality_holds.mp (hd.equal _ hmem hk)
    exact ⟨c, v, w, hc, hdenotes, hrow, hequal⟩
  · rintro v hv ⟨f, hf, hk, rfl⟩
    have hasked : f.isSkipped = false := (Filter.asked_of_search hk).mpr hv
    obtain ⟨c, hc⟩ := hcolumn f hf hasked
    obtain ⟨⟨g, d⟩, hg, hlike⟩ := hd.found _ ((mem_resolve h).mpr ⟨hf, hasked, hc⟩) hk
    obtain ⟨hmem, hsame⟩ := List.mem_filter.mp hg
    obtain ⟨hgs, -, hcolumn⟩ := (mem_resolve h).mp hmem
    obtain ⟨hgk, hgv⟩ := sameSearch_eq_true.mp hsame
    exact ⟨g, hgs, hgk, hgv, found_of_holds hcolumn hlike⟩

theorem Admits.demanded (ha : s.Admits m ρ fs) (h : s.resolve fs = .ok resolved) :
    s.Demanded m ρ resolved := by
  constructor
  · rintro ⟨f, c⟩ hmem hk
    obtain ⟨hf, hasked, hc⟩ := (mem_resolve h).mp hmem
    obtain ⟨d, v, w, hd, hdenotes, hrow, hequal⟩ :=
      ha.equal f hf hk ((Filter.asked_of_eq hk).mp hasked)
    obtain rfl := Option.some.inj (hc.symm.trans hd)
    exact equality_holds.mpr ⟨v, w, hdenotes, hrow, hequal⟩
  · rintro ⟨f, c⟩ hmem hk
    obtain ⟨hf, hasked, hc⟩ := (mem_resolve h).mp hmem
    have hv := (Filter.asked_of_search hk).mp hasked
    obtain ⟨g, hg, hgk, hgv, hfound⟩ := ha.found f.value hv ⟨f, hf, hk, rfl⟩
    have hgasked : g.isSkipped = false := (Filter.asked_of_search hgk).mpr (hgv ▸ hv)
    obtain ⟨d, hd⟩ := resolve_ok_iff.mp ⟨_, h⟩ g hg hgasked
    have hgmem := (mem_resolve h).mpr ⟨hg, hgasked, hd⟩
    exact ⟨(g, d), List.mem_filter.mpr ⟨hgmem, sameSearch_eq_true.mpr ⟨hgk, hgv⟩⟩,
      hfound.holds hd⟩

theorem predicate_holds (h : s.predicate fs = .ok p) : p.Holds m ρ ↔ s.Admits m ρ fs := by
  obtain ⟨resolved, hresolved, rfl⟩ := predicate_eq_ok.mp h
  rw [conjuncts_holds]
  exact ⟨(·.admits hresolved), (·.demanded hresolved)⟩

theorem predicate_eq_nil (h : s.predicate fs = .ok p) :
    p = [] ↔ ∀ f ∈ fs, f.isSkipped = true := by
  obtain ⟨resolved, hresolved, rfl⟩ := predicate_eq_ok.mp h
  rw [conjuncts_eq_nil]
  constructor
  · rintro rfl f hf
    by_contra hs
    have hasked : f.isSkipped = false := Bool.eq_false_iff.mpr hs
    obtain ⟨c, hc⟩ := resolve_ok_iff.mp ⟨_, hresolved⟩ f hf hasked
    have hmem := (mem_resolve hresolved).mpr ⟨hf, hasked, hc⟩
    simp at hmem
  · intro hall
    refine List.eq_nil_iff_forall_not_mem.mpr ?_
    rintro ⟨f, c⟩ hmem
    obtain ⟨hf, hasked, -⟩ := (mem_resolve hresolved).mp hmem
    simp [hall f hf] at hasked

theorem Admits.perm (h : s.Admits m ρ fs) (hp : fs.Perm gs) : s.Admits m ρ gs := by
  constructor
  · intro f hf
    exact h.equal f (hp.mem_iff.mpr hf)
  · simpa only [hp.mem_iff] using h.found

theorem mem_insert_iff {before after : List Filter} {g : Filter} :
    g ∈ before ++ f :: after ↔ g = f ∨ g ∈ before ++ after := by
  simp only [List.mem_append, List.mem_cons]
  tauto

theorem Admits.without_eq {before after : List Filter} (h : s.Admits m ρ (before ++ f :: after))
    (hk : f.kind = .eq) : s.Admits m ρ (before ++ after) := by
  constructor
  · intro g hg
    exact h.equal g (mem_insert_iff.mpr (.inr hg))
  · rintro v hv ⟨g, hg, hgk, hgv⟩
    obtain ⟨d, hd, hdk, hfound⟩ := h.found v hv ⟨g, mem_insert_iff.mpr (.inr hg), hgk, hgv⟩
    rcases mem_insert_iff.mp hd with rfl | hd
    · simp [hk] at hdk
    · exact ⟨d, hd, hdk, hfound⟩

theorem rows_of_predicate (h : s.predicate fs = .ok p) :
    (∀ m ρ, p.Holds m ρ ↔ s.Admits m ρ fs) ∧
      (p.isEmpty = true ↔
        ∀ f ∈ fs, f.value = "" ∨ f.kind = .search ∧ ∀ x ∈ f.value.toList, x = '\x00') ∧
      (∀ gs, fs.Perm gs → ∃ q, s.predicate gs = .ok q ∧ ∀ m ρ, q.Holds m ρ ↔ p.Holds m ρ) ∧
      ∀ before f after, fs = before ++ f :: after → f.kind = .eq →
        ∃ q, s.predicate (before ++ after) = .ok q ∧ ∀ m ρ, p.Holds m ρ → q.Holds m ρ := by
  have hknown := predicate_ok_iff.mp ⟨p, h⟩
  refine ⟨fun m ρ => predicate_holds h, ?_, ?_, ?_⟩
  · rw [List.isEmpty_iff, predicate_eq_nil h]
    simp only [Filter.isSkipped_eq_true]
  · intro gs hperm
    obtain ⟨q, hq⟩ := predicate_ok_iff.mpr fun f hf => hknown f (hperm.mem_iff.mpr hf)
    refine ⟨q, hq, fun m ρ => ?_⟩
    rw [predicate_holds hq, predicate_holds h]
    exact ⟨(·.perm hperm.symm), (·.perm hperm)⟩
  · rintro before f after rfl hk
    obtain ⟨q, hq⟩ := predicate_ok_iff.mpr fun g hg => hknown g (mem_insert_iff.mpr (.inr hg))
    refine ⟨q, hq, fun m ρ hp => ?_⟩
    exact (predicate_holds hq).mpr (((predicate_holds h).mp hp).without_eq hk)

def interleaved : List Filter :=
  [.search "name" "pizza", .eq "owner_id" "", .search "address" "main",
    .eq "category_id" "none at all", .search "description" "pizza"]

def interleavedPredicate : Predicate :=
  [[.like ⟨"b", "name"⟩ false "%pizza%", .like ⟨"b", "description"⟩ false "%pizza%"],
    [.like ⟨"b", "address"⟩ false "%main%"], [.never]]

theorem interleaved_ok : Business.source.predicate interleaved = .ok interleavedPredicate := by
  have hresolve : Business.source.resolve interleaved =
      .ok [(.search "name" "pizza", ⟨"name", .text, none⟩),
        (.search "address" "main", ⟨"address", .text, none⟩),
        (.eq "category_id" "none at all", ⟨"category_id", .uuid, none⟩),
        (.search "description" "pizza", ⟨"description", .text, none⟩)] := rfl
  have hunread : Uuid.ofText? "none at all" = none := by decide +kernel
  rw [predicate, hresolve]
  simp [Except.map, conjuncts, interleavedPredicate, Filter.search, Filter.eq, alternatives, others,
    sameSearch, equality, ColumnKind.value?, hunread, searching, reference, qualifier,
    Business.source, likePattern, withoutNul, likeEscaped]

theorem rows_of_interleaved :
    Business.source.predicate interleaved = .ok interleavedPredicate ∧
      ∀ m ρ, interleavedPredicate.Holds m ρ ↔ Business.source.Admits m ρ interleaved :=
  ⟨interleaved_ok, (rows_of_predicate interleaved_ok).1⟩

end Source

end CityGuide.Listing
