import Mathlib.Data.List.Infix

namespace CityGuide.Sql

def isSpecial (c : Char) : Bool := c = '%' || c = '_' || c = '\\'

/-- How a text is held against a pattern: `%` stands for any run of characters and `_` for any one,
a backslash takes the character after it as it is, and all others stand for themselves. A backslash
at the end fits nothing. -/
inductive Like : List Char → List Char → Prop
  | nil : Like [] []
  | passed {p s : List Char} (h : Like p s) : Like ('%' :: p) s
  | further {c : Char} {p s : List Char} (h : Like ('%' :: p) s) : Like ('%' :: p) (c :: s)
  | any {c : Char} {p s : List Char} (h : Like p s) : Like ('_' :: p) (c :: s)
  | escaped {c : Char} {p s : List Char} (h : Like p s) : Like ('\\' :: c :: p) (c :: s)
  | same {c : Char} {p s : List Char} (hc : isSpecial c = false) (h : Like p s) :
      Like (c :: p) (c :: s)

inductive Whole : List Char → Prop
  | nil : Whole []
  | escaped (c : Char) {p : List Char} (h : Whole p) : Whole ('\\' :: c :: p)
  | cons {c : Char} {p : List Char} (hc : c ≠ '\\') (h : Whole p) : Whole (c :: p)

def likes : List Char → List Char → Bool
  | [], s => s.isEmpty
  | ['\\'], _ => false
  | '\\' :: c :: p, s => s.head? = some c && likes p s.tail
  | c :: p, s =>
      if c = '%' then s.tails.any fun t => likes p t
      else s.head?.any (fun d => c = '_' || c = d) && likes p s.tail

namespace Like

variable {c d : Char} {p s t : List Char}

theorem percent_iff : Like ('%' :: p) s ↔ ∃ t, t <:+ s ∧ Like p t := by
  constructor
  · intro h
    generalize hq : '%' :: p = q at h
    induction h with
    | nil => cases hq
    | @passed _ s h =>
      obtain rfl := (List.cons.inj hq).2
      exact ⟨s, List.suffix_rfl, h⟩
    | further _ ih =>
      obtain ⟨t, ht, hp⟩ := ih hq
      exact ⟨t, ht.trans (List.suffix_cons ..), hp⟩
    | any | escaped => simp at hq
    | same hc =>
      obtain rfl := (List.cons.inj hq).1
      simp [isSpecial] at hc
  · rintro ⟨t, ⟨l, rfl⟩, h⟩
    induction l with
    | nil => exact .passed h
    | cons c l ih => exact .further ih

theorem underscore_iff : Like ('_' :: p) s ↔ ∃ c t, s = c :: t ∧ Like p t := by
  constructor
  · intro h
    cases h with
    | any h => exact ⟨_, _, rfl, h⟩
    | same hc => simp [isSpecial] at hc
  · rintro ⟨c, t, rfl, h⟩
    exact .any h

theorem escaped_iff : Like ('\\' :: c :: p) s ↔ ∃ t, s = c :: t ∧ Like p t := by
  constructor
  · intro h
    cases h with
    | escaped h => exact ⟨_, rfl, h⟩
    | same hc => simp [isSpecial] at hc
  · rintro ⟨t, rfl, h⟩
    exact .escaped h

theorem same_iff (hc : isSpecial c = false) : Like (c :: p) s ↔ ∃ t, s = c :: t ∧ Like p t := by
  constructor
  · intro h
    cases h with
    | same _ h => exact ⟨_, rfl, h⟩
    | passed | further | any | escaped => simp [isSpecial] at hc
  · rintro ⟨t, rfl, h⟩
    exact .same hc h

theorem not_dangling : ¬Like ['\\'] s := by
  intro h
  cases h with
  | same hc => simp [isSpecial] at hc

end Like

theorem likes_iff {p s : List Char} : likes p s = true ↔ Like p s := by
  fun_induction likes p s with
  | case1 s =>
    rw [List.isEmpty_iff]
    constructor
    · rintro rfl
      exact .nil
    · rintro ⟨⟩
      rfl
  | case2 s => simp [Like.not_dangling]
  | case3 c p s ih =>
    rw [Like.escaped_iff, Bool.and_eq_true, ih]
    cases s with
    | nil => simp
    | cons d s => simp [eq_comm]
  | case4 p s _ _ ih => simp [Like.percent_iff, ih]
  | case5 c p s hend hescape hpercent ih =>
    have hbackslash : c ≠ '\\' := fun h => by
      cases p with
      | nil => exact hend h rfl
      | cons d p => exact hescape d p h rfl
    rw [Bool.and_eq_true, ih]
    by_cases hone : c = '_'
    · subst hone
      cases s <;> simp [Like.underscore_iff]
    · rw [Like.same_iff (by simp [isSpecial, hpercent, hone, hbackslash])]
      cases s <;> simp [hone, eq_comm]

instance (p s : List Char) : Decidable (Like p s) := decidable_of_iff _ likes_iff

example : Like "%50\\%%".toList "a 50% off".toList := by decide

end CityGuide.Sql
