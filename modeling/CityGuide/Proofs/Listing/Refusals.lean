import CityGuide.Proofs.Listing.Meaning

namespace CityGuide.Listing

open Sql

inductive First {α : Type} (Good : α → Prop) : List α → α → Prop
  | here {x : α} {xs : List α} (h : ¬Good x) : First Good (x :: xs) x
  | later {x y : α} {xs : List α} (hy : Good y) (h : First Good xs x) : First Good (y :: xs) x

namespace First

variable {α : Type} {Good : α → Prop} {x y : α} {xs : List α}

theorem not_nil : ¬First Good [] x := nofun

theorem cons_of_good (hy : Good y) : First Good (y :: xs) x ↔ First Good xs x := by
  constructor
  · intro h
    cases h with
    | here h => exact absurd hy h
    | later _ h => exact h
  · exact .later hy

theorem cons_of_bad (hy : ¬Good y) : First Good (y :: xs) x ↔ x = y := by
  constructor
  · intro h
    cases h with
    | here => rfl
    | later h => exact absurd h hy
  · rintro rfl
    exact .here hy

theorem exists_iff : (∃ x, First Good xs x) ↔ ∃ x ∈ xs, ¬Good x := by
  induction xs with
  | nil => simp [not_nil]
  | cons y ys ih =>
    by_cases hy : Good y
    · simp [cons_of_good hy, ih, hy]
    · simp [cons_of_bad hy, hy]

end First

def Filter.Asks (f : Filter) : Prop :=
  f.value ≠ "" ∧ ¬(f.kind = .search ∧ ∀ x ∈ f.value.toList, x = '\x00')

theorem Filter.asks_iff {f : Filter} : f.Asks ↔ f.isSkipped = false := by
  rw [Asks, ← not_or, ← isSkipped_eq_true, Bool.not_eq_true]

namespace Source

variable {s : Source} {f : Filter} {fs : List Filter} {ks : List OrderKey} {name : String}
  {u : Unknown}

def Allows (s : Source) (name : String) : Prop := ∃ c ∈ s.columns, c.name = name

def Serves (s : Source) (f : Filter) : Prop := f.Asks → s.Allows f.column

def SortsBy (s : Source) (k : OrderKey) : Prop := s.Allows k.column

inductive Refuses (s : Source) (r : Request) : Unknown → Prop
  | filter {f : Filter} (h : First s.Serves r.filters f) :
      Refuses s r (.filterColumn s.table f.column)
  | sort {k : OrderKey} (hf : ∀ f ∈ r.filters, s.Serves f) (h : First s.SortsBy r.order k) :
      Refuses s r (.sortColumn s.table k.column)

theorem column?_eq_none : s.column? name = none ↔ ¬s.Allows name := by
  simp [column?, Allows]

theorem allows_iff : s.Allows name ↔ ∃ c, s.column? name = some c := by
  rw [← Option.isSome_iff_exists, Option.isSome_iff_ne_none, Ne, column?_eq_none, not_not]

theorem serves_iff :
    s.Serves f ↔ (f.isSkipped = false → ∃ c, s.column? f.column = some c) := by
  rw [Serves, Filter.asks_iff, allows_iff]

theorem resolve_eq_error :
    s.resolve fs = .error u ↔
      ∃ f, First s.Serves fs f ∧ u = .filterColumn s.table f.column := by
  induction fs with
  | nil => simp [resolve, First.not_nil]
  | cons f fs ih =>
    rw [resolve]
    cases hs : f.isSkipped with
    | true =>
      have hgood : s.Serves f := serves_iff.mpr fun h => by simp [hs] at h
      simp [First.cons_of_good hgood, ih]
    | false =>
      cases hc : s.column? f.column with
      | none =>
        have hbad : ¬s.Serves f := fun h => by
          obtain ⟨c, hsome⟩ := serves_iff.mp h hs
          simp [hc] at hsome
        simp [First.cons_of_bad hbad, eq_comm]
      | some c =>
        have hgood : s.Serves f := serves_iff.mpr fun _ => ⟨c, hc⟩
        simp only [Bool.false_eq_true, if_false, First.cons_of_good hgood, ← ih]
        cases s.resolve fs <;> simp [Except.map]

theorem predicate_eq_error :
    s.predicate fs = .error u ↔
      ∃ f, First s.Serves fs f ∧ u = .filterColumn s.table f.column := by
  rw [← resolve_eq_error, predicate]
  cases s.resolve fs <;> simp [Except.map]

theorem sorts_eq_error :
    s.sorts ks = .error u ↔
      ∃ k, First s.SortsBy ks k ∧ u = .sortColumn s.table k.column := by
  induction ks with
  | nil => simp [sorts, First.not_nil, pure, Except.pure]
  | cons k ks ih =>
    rw [sorts, List.mapM_cons, ← sorts]
    cases hc : s.column? k.column with
    | none =>
      have hbad : ¬s.SortsBy k := column?_eq_none.mp hc
      simp [First.cons_of_bad hbad, eq_comm, Bind.bind, Except.bind]
    | some c =>
      have hgood : s.SortsBy k := allows_iff.mpr ⟨c, hc⟩
      simp only [First.cons_of_good hgood, ← ih]
      cases s.sorts ks <;> simp [Bind.bind, Except.bind, pure, Except.pure]

theorem predicate_ok_of_serves (h : ∀ f ∈ fs, s.Serves f) : ∃ p, s.predicate fs = .ok p :=
  predicate_ok_iff.mpr fun f hf => serves_iff.mp (h f hf)

theorem serves_of_predicate_ok {p : Predicate} (h : s.predicate fs = .ok p) :
    ∀ f ∈ fs, s.Serves f :=
  fun f hf => serves_iff.mpr (predicate_ok_iff.mp ⟨p, h⟩ f hf)

theorem compile_error_cases {base : Select} {r : Request} :
    s.compile base r = .error u ↔
      s.predicate r.filters = .error u ∨
        (∃ p, s.predicate r.filters = .ok p) ∧ s.sorts r.order = .error u := by
  cases hp : s.predicate r.filters <;> cases ho : s.sorts r.order <;>
    simp [compile, hp, ho, Bind.bind, Except.bind]

theorem compile_eq_error {base : Select} {r : Request} :
    s.compile base r = .error u ↔ s.Refuses r u := by
  rw [compile_error_cases, predicate_eq_error, sorts_eq_error]
  constructor
  · rintro (⟨f, hf, rfl⟩ | ⟨⟨p, hp⟩, k, hk, rfl⟩)
    · exact .filter hf
    · exact .sort (serves_of_predicate_ok hp) hk
  · intro h
    cases h with
    | filter hf => exact .inl ⟨_, hf, rfl⟩
    | sort hf hk => exact .inr ⟨predicate_ok_of_serves hf, _, hk, rfl⟩

theorem refused_iff {r : Request} :
    (∃ u, s.Refuses r u) ↔
      (∃ f ∈ r.filters, f.Asks ∧ ¬s.Allows f.column) ∨ ∃ k ∈ r.order, ¬s.Allows k.column := by
  have hfilters : (∃ f ∈ r.filters, f.Asks ∧ ¬s.Allows f.column) ↔
      ∃ f, First s.Serves r.filters f := by
    simp only [First.exists_iff, Serves, Classical.not_imp]
  have horder : (∃ k ∈ r.order, ¬s.Allows k.column) ↔ ∃ k, First s.SortsBy r.order k :=
    First.exists_iff.symm
  rw [hfilters, horder]
  constructor
  · rintro ⟨_, ⟨hf⟩ | ⟨-, hk⟩⟩
    · exact .inl ⟨_, hf⟩
    · exact .inr ⟨_, hk⟩
  · rintro (⟨f, hf⟩ | ⟨k, hk⟩)
    · exact ⟨_, .filter hf⟩
    · by_cases hserved : ∀ f ∈ r.filters, s.Serves f
      · exact ⟨_, .sort hserved hk⟩
      · have hbad : ∃ f ∈ r.filters, ¬s.Serves f := by simpa using hserved
        obtain ⟨f, hf⟩ := First.exists_iff.mpr hbad
        exact ⟨_, .filter hf⟩

end Source

end CityGuide.Listing
