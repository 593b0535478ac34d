import CityGuide.Text.Digits
import Mathlib.Data.Nat.Digits.Defs

namespace CityGuide.Text

variable {cs : List Char} {n bound : Nat}

def valueOf (ds : List Nat) : Nat := Nat.ofDigits 10 ds.reverse

theorem valueOf_eq_foldl (ds : List Nat) : valueOf ds = ds.foldl (fun a d => 10 * a + d) 0 := by
  rw [valueOf, Nat.ofDigits_eq_foldr, List.foldr_reverse]
  congr 1
  funext a d
  exact Nat.add_comm _ _

theorem natFrom_eq_some_iff {acc : Nat} : natFrom acc cs = some n ↔
    ∃ ds : List Nat, (∀ d ∈ ds, d < 10) ∧ cs = ds.map digitChar ∧
      n = ds.foldl (fun a d => 10 * a + d) acc := by
  constructor
  · induction cs generalizing acc with
    | nil =>
      intro h
      exact ⟨[], by simp, rfl, (Option.some.inj h).symm⟩
    | cons c cs ih =>
      intro h
      obtain ⟨d, hd, hrest⟩ := Option.bind_eq_some_iff.mp h
      obtain ⟨ds, hds, rfl, rfl⟩ := ih hrest
      refine ⟨d :: ds, List.forall_mem_cons.mpr ⟨digit?_lt hd, hds⟩, ?_, rfl⟩
      rw [List.map_cons, ← eq_digitChar hd]
  · rintro ⟨ds, hds, rfl, rfl⟩
    induction ds generalizing acc with
    | nil => rfl
    | cons d ds ih =>
      obtain ⟨hd, hds⟩ := List.forall_mem_cons.mp hds
      rw [List.map_cons, natFrom, digit?_digitChar hd, Option.bind_some, ih hds, List.foldl_cons]

def Digits (cs : List Char) (n : Nat) : Prop :=
  ∃ ds : List Nat, ds ≠ [] ∧ (∀ d ∈ ds, d < 10) ∧ cs = ds.map digitChar ∧ n = valueOf ds

theorem nat?_eq_some_iff : nat? cs = some n ↔ Digits cs n := by
  constructor
  · intro h
    cases cs with
    | nil => cases h
    | cons c cs =>
      obtain ⟨ds, hds, hcs, hn⟩ := natFrom_eq_some_iff.mp h
      refine ⟨ds, ?_, hds, hcs, hn.trans (valueOf_eq_foldl ds).symm⟩
      rintro rfl
      cases hcs
  · rintro ⟨ds, hne, hds, rfl, rfl⟩
    have hread : natFrom 0 (ds.map digitChar) = some (valueOf ds) :=
      natFrom_eq_some_iff.mpr ⟨ds, hds, rfl, valueOf_eq_foldl ds⟩
    cases ds with
    | nil => exact absurd rfl hne
    | cons d ds => exact hread

inductive Numeral : List Char → Nat → Prop
  | plain {cs : List Char} {n : Nat} (h : Digits cs n) : Numeral cs n
  | plus {cs : List Char} {n : Nat} (h : Digits cs n) : Numeral ('+' :: cs) n

theorem not_digits_plus (cs : List Char) : ¬Digits ('+' :: cs) n := by
  rintro ⟨ds, -, -, hcs, -⟩
  cases ds with
  | nil => cases hcs
  | cons d ds =>
    have hdigit := isDigit_digitChar d
    rw [← (List.cons.inj hcs).1] at hdigit
    cases hdigit

theorem numeral_plus_iff : Numeral ('+' :: cs) n ↔ Digits cs n := by
  constructor
  · intro h
    cases h with
    | plain h => exact absurd h (not_digits_plus cs)
    | plus h => exact h
  · exact .plus

theorem numeral_plain_iff (hplus : ∀ r, cs ≠ '+' :: r) : Numeral cs n ↔ Digits cs n := by
  constructor
  · intro h
    cases h with
    | plain h => exact h
    | plus h => exact absurd rfl (hplus _)
  · exact .plain

theorem unsigned?_eq_some_iff : unsigned? bound cs = some n ↔ Numeral cs n ∧ n ≤ bound := by
  unfold unsigned?
  rw [Option.filter_eq_some_iff, nat?_eq_some_iff, decide_eq_true_iff]
  refine and_congr_left fun _ => ?_
  split
  · exact numeral_plus_iff.symm
  · next hplus => exact (numeral_plain_iff fun r hr => hplus r hr).symm

end CityGuide.Text
