import CityGuide.Store.Deadline
import CityGuide.Proofs.Store.Runs

namespace CityGuide.Store

variable {α : Type} {limit n : Nat} {pace : Pace} {held : Bool} {x : Step} {t u undo : List Step}

def InTime (limit : Nat) (pace : Pace) (n : Nat) (t : List Step) : Prop :=
  ∀ k ≤ t.length, pace (n + k) ≤ limit

theorem inTime_nil : InTime limit pace n [] ↔ pace n ≤ limit := by simp [InTime]

theorem inTime_cons :
    InTime limit pace n (x :: t) ↔ pace n ≤ limit ∧ InTime limit pace (n + 1) t := by
  constructor
  · intro h
    refine ⟨h 0 (Nat.zero_le _), ?_⟩
    intro k hk
    have hnext := h (k + 1) (Nat.succ_le_succ hk)
    rwa [Nat.add_right_comm, Nat.add_assoc]
  · rintro ⟨hn, h⟩ k hk
    cases k with
    | zero => exact hn
    | succ k =>
      have hnext := h k (Nat.le_of_succ_le_succ hk)
      rwa [Nat.add_right_comm, Nat.add_assoc] at hnext

def Step.holds (held : Bool) : Step → Bool
  | asked c r => c.holds held r
  | drewId _ | drewSalt _ | readClock _ => held

inductive RollsBack : Bool → List Step → Prop
  | nothing : RollsBack false []
  | rollback (r : Reply) : RollsBack true [.asked .rollback r]

namespace Program

variable {p q : Program α} {v? : Option (Option α)} {w? : Option α}

theorem exists_runs (p : Program α) : ∃ t w?, p.Runs t w? := by
  induction p with
  | done a => exact ⟨[], some a, .done a⟩
  | crash => exact ⟨[], none, .crash⟩
  | send c next ih =>
    obtain ⟨t, w?, h⟩ := ih (.ok ⟨[], 0⟩)
    exact ⟨_, w?, .send h⟩
  | freshId next ih =>
    obtain ⟨t, w?, h⟩ := ih .nil
    exact ⟨_, w?, .freshId h⟩
  | freshSalt next ih =>
    obtain ⟨t, w?, h⟩ := ih (Vector.replicate 16 0)
    exact ⟨_, w?, .freshSalt h⟩
  | clock next ih =>
    obtain ⟨t, w?, h⟩ := ih ⟨0, 0⟩
    exact ⟨_, w?, .clock h⟩

structure GivenUp (limit : Nat) (pace : Pace) (p : Program α) (held : Bool) (n : Nat)
    (u undo : List Step) : Prop where
  begins : ∃ w w?, p.Runs (u ++ w) w?
  before : ∀ k < u.length, pace (n + k) ≤ limit
  late : limit < pace (n + u.length)
  undone : RollsBack (u.foldl Step.holds held) undo

namespace GivenUp

theorem not_inTime (h : GivenUp limit pace p held n u undo) :
    ¬InTime limit pace n (u ++ undo) := by
  intro hin
  have hle := hin u.length (by simp)
  exact absurd h.late (Nat.not_lt.mpr hle)

theorem at_once (hlate : limit < pace n) (hu : RollsBack held undo) :
    GivenUp limit pace p held n [] undo :=
  ⟨p.exists_runs, fun _ hk => absurd hk (Nat.not_lt_zero _), hlate, hu⟩

theorem cons (hn : pace n ≤ limit) (hp : ∀ w w?, q.Runs w w? → p.Runs (x :: w) w?)
    (h : GivenUp limit pace q (x.holds held) (n + 1) u undo) :
    GivenUp limit pace p held n (x :: u) undo where
  begins := by
    obtain ⟨w, w?, hq⟩ := h.begins
    exact ⟨w, w?, hp _ _ hq⟩
  before k hk := by
    cases k with
    | zero => exact hn
    | succ k =>
      have hlt := h.before k (Nat.lt_of_succ_lt_succ hk)
      rwa [Nat.add_right_comm, Nat.add_assoc] at hlt
  late := by
    have hlate := h.late
    rwa [Nat.add_right_comm, Nat.add_assoc] at hlate
  undone := h.undone

end GivenUp

theorem runs_giveUp : (giveUp held : Program (Option α)).Runs t v? ↔
    v? = some none ∧ RollsBack held t := by
  cases held with
  | false =>
    rw [giveUp, if_neg Bool.false_ne_true, runs_done, and_comm, and_congr_right_iff]
    rintro -
    constructor
    · rintro rfl
      exact .nothing
    · rintro ⟨⟩
      rfl
  | true =>
    rw [giveUp, if_pos rfl, runs_send]
    constructor
    · rintro ⟨r, u, rfl, hu⟩
      obtain ⟨rfl, rfl⟩ := runs_done.mp hu
      exact ⟨rfl, .rollback r⟩
    · rintro ⟨rfl, hu⟩
      cases hu with
      | rollback r => exact ⟨r, [], rfl, .done _⟩

theorem runs_inTime {p : Program (Option α)} {ticks : Nat} :
    (inTime limit ticks held p).Runs t v? ↔
      (ticks ≤ limit ∧ p.Runs t v?) ∨ (limit < ticks ∧ v? = some none ∧ RollsBack held t) := by
  rw [inTime]
  split
  · next h => simp [h, Nat.not_lt.mpr h]
  · next h => simp [h, Nat.lt_of_not_le h, runs_giveUp]

/-- What a run with a limit is: a run of the program in time, or the beginning of one. -/
inductive Limited (limit : Nat) (pace : Pace) (p : Program α) (held : Bool) (n : Nat) :
    List Step → Option (Option α) → Prop
  | inTime {t : List Step} {w? : Option α} (hin : InTime limit pace n t) (h : p.Runs t w?) :
      Limited limit pace p held n t (w?.map some)
  | givenUp {u undo : List Step} (h : GivenUp limit pace p held n u undo) :
      Limited limit pace p held n (u ++ undo) (some none)

theorem Limited.cons (hn : pace n ≤ limit) (hp : ∀ w w?, q.Runs w w? → p.Runs (x :: w) w?)
    (h : Limited limit pace q (x.holds held) (n + 1) t v?) :
    Limited limit pace p held n (x :: t) v? := by
  cases h with
  | inTime hin h => exact .inTime (inTime_cons.mpr ⟨hn, hin⟩) (hp _ _ h)
  | givenUp h => exact .givenUp (h.cons hn hp)

theorem Limited.at_once (hlate : limit < pace n) (hu : RollsBack held t) :
    Limited limit pace p held n t (some none) := .givenUp (.at_once hlate hu)

theorem limited_of_runs (h : (p.within limit pace held n).Runs t v?) :
    Limited limit pace p held n t v? := by
  induction p generalizing held n t with
  | done a =>
    rcases runs_inTime.mp h with ⟨hn, h⟩ | ⟨hlate, rfl, hu⟩
    · obtain ⟨rfl, rfl⟩ := runs_done.mp h
      exact .inTime (inTime_nil.mpr hn) (.done a)
    · exact .at_once hlate hu
  | crash =>
    rcases runs_inTime.mp h with ⟨hn, h⟩ | ⟨hlate, rfl, hu⟩
    · obtain ⟨rfl, rfl⟩ := runs_crash.mp h
      exact .inTime (inTime_nil.mpr hn) .crash
    · exact .at_once hlate hu
  | send c next ih =>
    rcases runs_inTime.mp h with ⟨hn, h⟩ | ⟨hlate, rfl, hu⟩
    · obtain ⟨r, u, rfl, hu⟩ := runs_send.mp h
      exact (ih r hu).cons hn fun _ _ => .send
    · exact .at_once hlate hu
  | freshId next ih =>
    rcases runs_inTime.mp h with ⟨hn, h⟩ | ⟨hlate, rfl, hu⟩
    · obtain ⟨i, u, rfl, hu⟩ := runs_freshId.mp h
      exact (ih i hu).cons hn fun _ _ => .freshId
    · exact .at_once hlate hu
  | freshSalt next ih =>
    rcases runs_inTime.mp h with ⟨hn, h⟩ | ⟨hlate, rfl, hu⟩
    · obtain ⟨s, u, rfl, hu⟩ := runs_freshSalt.mp h
      exact (ih s hu).cons hn fun _ _ => .freshSalt
    · exact .at_once hlate hu
  | clock next ih =>
    rcases runs_inTime.mp h with ⟨hn, h⟩ | ⟨hlate, rfl, hu⟩
    · obtain ⟨i, u, rfl, hu⟩ := runs_clock.mp h
      exact (ih i hu).cons hn fun _ _ => .clock
    · exact .at_once hlate hu

theorem runs_within_of_inTime (h : p.Runs t w?) (hin : InTime limit pace n t) :
    (p.within limit pace held n).Runs t (w?.map some) := by
  induction h generalizing held n with
  | done a => exact runs_inTime.mpr (.inl ⟨inTime_nil.mp hin, .done _⟩)
  | crash => exact runs_inTime.mpr (.inl ⟨inTime_nil.mp hin, .crash⟩)
  | send _ ih =>
    obtain ⟨hn, hin⟩ := inTime_cons.mp hin
    exact runs_inTime.mpr (.inl ⟨hn, .send (ih hin)⟩)
  | freshId _ ih =>
    obtain ⟨hn, hin⟩ := inTime_cons.mp hin
    exact runs_inTime.mpr (.inl ⟨hn, .freshId (ih hin)⟩)
  | freshSalt _ ih =>
    obtain ⟨hn, hin⟩ := inTime_cons.mp hin
    exact runs_inTime.mpr (.inl ⟨hn, .freshSalt (ih hin)⟩)
  | clock _ ih =>
    obtain ⟨hn, hin⟩ := inTime_cons.mp hin
    exact runs_inTime.mpr (.inl ⟨hn, .clock (ih hin)⟩)

theorem GivenUp.tail (h : GivenUp limit pace p held n (x :: u) undo)
    (hq : ∃ w w?, q.Runs (u ++ w) w?) :
    pace n ≤ limit ∧ GivenUp limit pace q (x.holds held) (n + 1) u undo := by
  refine ⟨h.before 0 (Nat.zero_lt_succ _), hq, ?_, ?_, h.undone⟩
  · intro k hk
    have hlt := h.before (k + 1) (Nat.succ_lt_succ hk)
    rwa [Nat.add_right_comm, Nat.add_assoc]
  · have hlate := h.late
    rwa [Nat.add_right_comm, Nat.add_assoc]

theorem GivenUp.runs (h : GivenUp limit pace p held n u undo) :
    (p.within limit pace held n).Runs (u ++ undo) (some none) := by
  induction u generalizing p held n with
  | nil =>
    cases p <;> exact runs_inTime.mpr (.inr ⟨h.late, rfl, h.undone⟩)
  | cons x u ih =>
    obtain ⟨w, w?, hruns⟩ := h.begins
    cases hruns with
    | send hq =>
      obtain ⟨hn, hrest⟩ := h.tail ⟨w, w?, hq⟩
      exact runs_inTime.mpr (.inl ⟨hn, .send (ih hrest)⟩)
    | freshId hq =>
      obtain ⟨hn, hrest⟩ := h.tail ⟨w, w?, hq⟩
      exact runs_inTime.mpr (.inl ⟨hn, .freshId (ih hrest)⟩)
    | freshSalt hq =>
      obtain ⟨hn, hrest⟩ := h.tail ⟨w, w?, hq⟩
      exact runs_inTime.mpr (.inl ⟨hn, .freshSalt (ih hrest)⟩)
    | clock hq =>
      obtain ⟨hn, hrest⟩ := h.tail ⟨w, w?, hq⟩
      exact runs_inTime.mpr (.inl ⟨hn, .clock (ih hrest)⟩)

theorem runs_within : (p.within limit pace held n).Runs t v? ↔
    Limited limit pace p held n t v? := by
  constructor
  · exact limited_of_runs
  · rintro (⟨hin, h⟩ | h)
    · exact runs_within_of_inTime h hin
    · exact h.runs

end Program

end CityGuide.Store
