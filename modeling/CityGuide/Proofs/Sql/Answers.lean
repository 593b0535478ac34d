import CityGuide.Proofs.Sql.Where

namespace CityGuide.Sql

abbrev Tuple := String → Option Value

abbrev Database := String → List Tuple

namespace Record

def empty : Record := fun _ => none

def beside (ρ : Record) (qualifier : String) (t : Tuple) : Record :=
  fun c => if c.qualifier = qualifier then t c.name else ρ c

variable {ρ : Record} {qualifier : String} {t : Tuple} {c : Column}

theorem beside_own (name : String) : ρ.beside qualifier t ⟨qualifier, name⟩ = t name := if_pos rfl

theorem beside_of_ne (h : c.qualifier ≠ qualifier) : ρ.beside qualifier t c = ρ c := if_neg h

end Record

def Table.records (db : Database) (t : Table) : List Record :=
  (db t.name).map (Record.empty.beside t.qualifier)

namespace Join

variable {db : Database} {j : Join} {ρ σ : Record}

open Classical in
-- The record with each row of the joined table that meets it; absent values are equal to none.
noncomputable def met (db : Database) (j : Join) (ρ : Record) : List Record :=
  ((db j.table.name).map (ρ.beside j.table.qualifier)).filter
    fun σ => ∃ v w, σ j.column = some v ∧ σ j.equals = some w ∧ v.compared = w.compared

noncomputable def extend (db : Database) (j : Join) (ρ : Record) : List Record :=
  match j.kind, j.met db ρ with
  | .left, [] => [ρ.beside j.table.qualifier fun _ => none]
  | _, σs => σs

theorem length_extend (h : j.kind = .left) : (j.extend db ρ).length = max 1 (j.met db ρ).length := by
  rw [extend, h]
  cases j.met db ρ <;> simp

theorem extend_ne_nil (h : j.kind = .left) : j.extend db ρ ≠ [] := by
  refine List.ne_nil_of_length_pos ?_
  rw [length_extend h]
  exact Nat.lt_of_lt_of_le Nat.zero_lt_one (Nat.le_max_left ..)

theorem extend_elsewhere {c : Column} (hσ : σ ∈ j.extend db ρ)
    (hc : c.qualifier ≠ j.table.qualifier) : σ c = ρ c := by
  have hmet : ∀ σ ∈ j.met db ρ, σ c = ρ c := by
    intro σ hσ
    obtain ⟨t, -, rfl⟩ := List.mem_map.mp (List.mem_filter.mp hσ).1
    exact Record.beside_of_ne hc
  rw [extend] at hσ
  split at hσ
  · obtain rfl := List.mem_singleton.mp hσ
    exact Record.beside_of_ne hc
  · exact hmet σ hσ

noncomputable def extendAll (db : Database) (js : List Join) (ρs : List Record) : List Record :=
  js.foldl (fun ρs j => ρs.flatMap (j.extend db)) ρs

theorem extendAll_append (js ks : List Join) (ρs : List Record) :
    extendAll db (js ++ ks) ρs = extendAll db ks (extendAll db js ρs) := List.foldl_append ..

end Join

section Groups

variable {κ ι : Type} [DecidableEq κ] {key : Record → κ} {ρ : Record} {ρs σs : List Record}

def alike (key : Record → κ) (ρ : Record) (ρs : List Record) : List Record :=
  ρs.filter fun σ => key σ = key ρ

def unlike (key : Record → κ) (ρ : Record) (ρs : List Record) : List Record :=
  ρs.filter fun σ => key σ ≠ key ρ

def grouped (key : Record → κ) : List Record → List (List Record)
  | [] => []
  | ρ :: ρs => (ρ :: alike key ρ ρs) :: grouped key (unlike key ρ ρs)
termination_by ρs => ρs.length
decreasing_by exact Nat.lt_succ_of_le (List.length_filter_le _ _)

theorem alike_append (h : ∀ σ ∈ ρs, key σ = key ρ) (h' : ∀ σ ∈ σs, key σ ≠ key ρ) :
    alike key ρ (ρs ++ σs) = ρs := by
  rw [alike, List.filter_append, List.filter_eq_self.mpr (by simpa using h),
    List.filter_eq_nil_iff.mpr (by simpa using h'), List.append_nil]

theorem unlike_append (h : ∀ σ ∈ ρs, key σ = key ρ) (h' : ∀ σ ∈ σs, key σ ≠ key ρ) :
    unlike key ρ (ρs ++ σs) = σs := by
  rw [unlike, List.filter_append, List.filter_eq_nil_iff.mpr (by simpa using h),
    List.filter_eq_self.mpr (by simpa using h'), List.nil_append]

theorem grouped_flatMap {run : ι → List Record} {k : ι → κ} {xs : List ι}
    (hne : ∀ x ∈ xs, run x ≠ []) (hk : ∀ x ∈ xs, ∀ ρ ∈ run x, key ρ = k x)
    (hd : xs.Pairwise fun x y => k x ≠ k y) : grouped key (xs.flatMap run) = xs.map run := by
  induction xs with
  | nil => rw [List.flatMap_nil, grouped, List.map_nil]
  | cons x xs ih =>
    obtain ⟨hx, hxs⟩ := List.forall_mem_cons.mp hne
    obtain ⟨hkx, hkxs⟩ := List.forall_mem_cons.mp hk
    obtain ⟨hdx, hdxs⟩ := List.pairwise_cons.mp hd
    obtain ⟨ρ, ρs, hrun⟩ := List.exists_cons_of_ne_nil hx
    obtain ⟨hρ, hρs⟩ := List.forall_mem_cons.mp (hrun ▸ hkx)
    have hown : ∀ σ ∈ ρs, key σ = key ρ := fun σ hσ => (hρs σ hσ).trans hρ.symm
    have hlater : ∀ σ ∈ xs.flatMap run, key σ ≠ key ρ := by
      intro σ hσ
      obtain ⟨y, hy, hσ⟩ := List.mem_flatMap.mp hσ
      rw [hkxs y hy σ hσ, hρ]
      exact (hdx y hy).symm
    rw [List.flatMap_cons, hrun, List.cons_append, grouped, alike_append hown hlater,
      unlike_append hown hlater, ih hxs hkxs hdxs, List.map_cons, hrun]

theorem filter_flatMap_of_constant {passes : Record → Bool} {first : ι → Bool}
    {run : ι → List Record} {xs : List ι} (h : ∀ x ∈ xs, ∀ ρ ∈ run x, passes ρ = first x) :
    (xs.flatMap run).filter passes = (xs.filter first).flatMap run := by
  induction xs with
  | nil => rfl
  | cons x xs ih =>
    obtain ⟨hx, hxs⟩ := List.forall_mem_cons.mp h
    rw [List.flatMap_cons, List.filter_append, ih hxs]
    cases hfirst : first x with
    | true =>
      rw [List.filter_cons_of_pos hfirst, List.flatMap_cons,
        List.filter_eq_self.mpr fun ρ hρ => (hx ρ hρ).trans hfirst]
    | false =>
      rw [List.filter_cons_of_neg (by simp [hfirst]), List.filter_eq_nil_iff.mpr, List.nil_append]
      exact fun ρ hρ => by simp [hx ρ hρ, hfirst]

end Groups

def Field.gathers : Field → Bool
  | count | raw _ _ => true
  | everything | allOf _ | column _ | named _ _ => false

namespace Select

variable (db : Database) (m : Matching) (s : Select)

open Classical in
noncomputable def admitted : List Record :=
  (Join.extendAll db s.joins (s.table.records db)).filter fun ρ => s.condition.Holds m ρ

open Classical in
/-- The rows that a statement answers, before they are put in order and cut to a window, each with
the records it is made from. -/
noncomputable def results : List (List Record) :=
  if s.groups ≠ [] then grouped (fun ρ => s.groups.map ρ) (s.admitted db m)
  else if s.fields.any Field.gathers then [s.admitted db m]
  else (s.admitted db m).map fun ρ => [ρ]

noncomputable def counts : List Nat := (s.results db m).map List.length

variable {db m s}

open Classical in
theorem results_grouped (hg : s.groups ≠ []) :
    s.results db m = grouped (fun ρ => s.groups.map ρ) (s.admitted db m) := if_pos hg

theorem results_single (hg : s.groups = []) (hf : s.fields.any Field.gathers = true) :
    s.results db m = [s.admitted db m] := by
  rw [results, if_neg (not_not_intro hg), if_pos hf]

theorem results_each (hg : s.groups = []) (hf : s.fields.any Field.gathers = false) :
    s.results db m = (s.admitted db m).map fun ρ => [ρ] := by
  rw [results, if_neg (not_not_intro hg), if_neg (by simp [hf])]

end Select

end CityGuide.Sql
