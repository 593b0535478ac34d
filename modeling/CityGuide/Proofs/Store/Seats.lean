import CityGuide.Proofs.Store.Segments

namespace CityGuide.Store

/-- The place for the row of a table that has the given keys; a unique index keeps a second one
out. -/
structure Seat where
  table : String
  keys : List Sql.Assignment

namespace Seat

section

variable (s : Seat)

def removal : Sql.Statement := .delete .plain s.table s.keys

def addition : Sql.Statement := .insert s.table s.keys .keepExisting

def rows (T : Tables) : Set Row := {row | row ∈ T s.table ∧ row.Holds s.keys}

def lost (d : Delta) : Set Row := {row | row ∈ d.gone s.table ∧ row.Holds s.keys}

def gained (d : Delta) : Set Row := {row | row ∈ d.come s.table ∧ row.Holds s.keys}

def Idle (d : Delta) : Prop := s.lost d = ∅ ∧ s.gained d = ∅

def filling (new : Row) : Delta := ⟨fun _ => ∅, only s.table {new}⟩

end

variable {s : Seat} {T : Tables} {d : Delta} {a : Answer} {new : Row}

theorem rows_on (s : Seat) (d : Delta) (T : Tables) :
    s.rows (d.on T) = (s.rows T \ s.lost d) ∪ s.gained d := by
  ext row
  simp only [rows, lost, gained, Set.mem_ofPred_eq, Delta.mem_on, Set.mem_union, Set.mem_sdiff]
  tauto

theorem idle_none (s : Seat) : s.Idle .none := by
  simp [Idle, lost, gained, Delta.none]

theorem rows_foldl {held : List Delta} (h : ∀ d ∈ held, s.Idle d) (T : Tables) :
    s.rows (held.foldl (fun T d => d.on T) T) = s.rows T := by
  induction held generalizing T with
  | nil => rfl
  | cons d held ih =>
    obtain ⟨⟨hlost, hgained⟩, hrest⟩ := List.forall_mem_cons.mp h
    rw [List.foldl_cons, ih hrest, rows_on, hlost, hgained, Set.sdiff_empty, Set.union_empty]

theorem parts_filling (h : new.Holds s.keys) :
    s.lost (s.filling new) = ∅ ∧ s.gained (s.filling new) = {new} := by
  constructor
  · simp [lost, filling]
  · ext row
    simp only [gained, filling, mem_only, Set.mem_ofPred_eq, Set.mem_singleton_iff, true_and,
      and_iff_left_iff_imp]
    rintro rfl
    exact h

theorem parts_removal (he : Executes T s.removal a d) : s.lost d = s.rows T ∧ s.gained d = ∅ := by
  cases he with
  | delete h =>
    constructor
    · ext row
      simp [lost, rows]
    · refine Set.eq_empty_of_forall_notMem fun row hrow => ?_
      obtain ⟨htable, hcleared⟩ := mem_only.mp hrow.1
      exact absurd (htable.symm.trans (h row hcleared).1) (by decide)

end Seat

variable {κ : Type} [DecidableEq κ]

namespace Seat

section

variable (s : Seat)

def Takes (w : World κ) (k : κ) : Prop :=
  ∃ held, w.phase k = .within held ∧ ∃ d ∈ held, (s.lost d).Nonempty

def Puts (w : World κ) (k : κ) : Prop :=
  ∃ held, w.phase k = .within held ∧ ∃ d ∈ held, (s.gained d).Nonempty

/-- A step under READ COMMITTED. A removal waits for a conversation that is taking out the row that
it sees, an addition for every conversation that has a change of the seat to commit; an addition
that finds a row does nothing and holds on to nothing. -/
inductive Moves (k : κ) (w : World κ) : Step → World κ → Prop
  | removed {a : Answer} {d : Delta} {held : List Delta} (hp : w.phase k = .within held)
      (hfree : (s.rows (w.view k)).Nonempty → ∀ j, j ≠ k → ¬s.Takes w j)
      (he : Executes (w.view k) s.removal a d)
      (ha : 0 < a.affected ↔ (s.rows (w.view k)).Nonempty) :
      Moves k w (.asked (.run s.removal) (.ok a)) (w.enter k (.within (held ++ [d])))
  | added {a : Answer} {new : Row} {held : List Delta} (hp : w.phase k = .within held)
      (hfree : ∀ j, j ≠ k → ¬s.Takes w j ∧ ¬s.Puts w j) (hnone : s.rows (w.view k) = ∅)
      (hnew : new.Holds s.keys) (hrows : a.rows = []) (ha : 0 < a.affected) :
      Moves k w (.asked (.run s.addition) (.ok a)) (w.enter k (.within (held ++ [s.filling new])))
  | found {a : Answer} {held : List Delta} (hp : w.phase k = .within held)
      (hfree : ∀ j, j ≠ k → ¬s.Takes w j ∧ ¬s.Puts w j) (hsome : (s.rows (w.view k)).Nonempty)
      (ha : a.affected = 0) :
      Moves k w (.asked (.run s.addition) (.ok a)) (w.enter k (.within (held ++ [.none])))
  | other {x : Step} {w' : World κ} (hremoval : ∀ a, x ≠ .asked (.run s.removal) (.ok a))
      (haddition : ∀ a, x ≠ .asked (.run s.addition) (.ok a)) (hm : w.Moves k x w') :
      Moves k w x w'

inductive Unfolds (w : World κ) : List (κ × Step) → World κ → Prop
  | start : Unfolds w [] w
  | step {past : List (κ × Step)} {w' w'' : World κ} {k : κ} {x : Step} (h : Unfolds w past w')
      (hm : s.Moves k w' x w'') : Unfolds w (past ++ [(k, x)]) w''

end

variable {s : Seat} {w w' : World κ} {k : κ} {x : Step} {past : List (κ × Step)}

theorem Moves.moves (h : s.Moves k w x w') : w.Moves k x w' := by
  cases h with
  | removed hp _ he => exact .held hp he
  | added hp _ _ hnew hrows => exact .held hp (.insert hnew (by rw [hrows]; rfl))
  | found hp => exact .held hp (.kept rfl)
  | other _ _ hm => exact hm

theorem Moves.of_removal {a : Answer} (h : s.Moves k w (.asked (.run s.removal) (.ok a)) w') :
    ∃ held d, w.phase k = .within held ∧ w' = w.enter k (.within (held ++ [d])) ∧
      ((s.rows (w.view k)).Nonempty → ∀ j, j ≠ k → ¬s.Takes w j) ∧
      s.lost d = s.rows (w.view k) ∧ s.gained d = ∅ ∧
      (0 < a.affected ↔ (s.rows (w.view k)).Nonempty) := by
  generalize hx : Step.asked (.run s.removal) (.ok a) = x at h
  cases h with
  | removed hp hfree he ha =>
    obtain ⟨hlost, hgained⟩ := parts_removal he
    obtain rfl := Except.ok.inj (Step.asked.inj hx).2
    exact ⟨_, _, hp, rfl, hfree, hlost, hgained, ha⟩
  | added | found => simp [removal, addition] at hx
  | other hremoval => exact absurd hx.symm (hremoval a)

theorem Moves.of_addition {a : Answer} (h : s.Moves k w (.asked (.run s.addition) (.ok a)) w') :
    ∃ held d, w.phase k = .within held ∧ w' = w.enter k (.within (held ++ [d])) ∧
      (∀ j, j ≠ k → ¬s.Takes w j ∧ ¬s.Puts w j) ∧
      ((∃ new, d = s.filling new ∧ new.Holds s.keys ∧ s.rows (w.view k) = ∅ ∧ 0 < a.affected) ∨
        d = .none ∧ (s.rows (w.view k)).Nonempty ∧ a.affected = 0) := by
  generalize hx : Step.asked (.run s.addition) (.ok a) = x at h
  cases h with
  | removed => simp [removal, addition] at hx
  | added hp hfree hnone hnew _ ha =>
    obtain rfl := Except.ok.inj (Step.asked.inj hx).2
    exact ⟨_, _, hp, rfl, hfree, .inl ⟨_, rfl, hnew, hnone, ha⟩⟩
  | found hp hfree hsome ha =>
    obtain rfl := Except.ok.inj (Step.asked.inj hx).2
    exact ⟨_, _, hp, rfl, hfree, .inr ⟨rfl, hsome, ha⟩⟩
  | other _ haddition => exact absurd hx.symm (haddition a)

theorem Unfolds.unfolds (h : s.Unfolds w past w') : w.Unfolds past w' := by
  induction h with
  | start => exact .start
  | step _ hm ih => exact .step ih hm.moves

theorem Unfolds.before {after : List (κ × Step)} (h : s.Unfolds w (past ++ after) w') :
    ∃ mid, s.Unfolds w past mid := by
  generalize hpast : past ++ after = hist at h
  induction h generalizing after with
  | start =>
    obtain ⟨rfl, rfl⟩ := List.append_eq_nil_iff.mp hpast
    exact ⟨w, .start⟩
  | step h hm ih =>
    rcases List.eq_nil_or_concat after with rfl | ⟨after, y, rfl⟩
    · rw [List.append_nil] at hpast
      exact ⟨_, hpast.symm ▸ Unfolds.step h hm⟩
    · rw [List.concat_eq_append, ← List.append_assoc] at hpast
      exact ih (List.append_inj' hpast rfl).1

end Seat

end CityGuide.Store
