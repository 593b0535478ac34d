import CityGuide.Text.Blank
import Mathlib.Data.List.TakeWhile

namespace CityGuide.Text

theorem isBlankText_iff {s : String} : isBlankText s = true ↔ ∀ c ∈ s.toList, isBlank c = true :=
  List.all_eq_true

theorem dropBlanks_append {l : List Char} (hl : ∀ c ∈ l, isBlank c = true) (cs : List Char) :
    dropBlanks (l ++ cs) = dropBlanks cs := List.dropWhile_append_of_pos hl

theorem trimChars_append {l cs r : List Char} (hl : ∀ c ∈ l, isBlank c = true)
    (hr : ∀ c ∈ r, isBlank c = true) : trimChars (l ++ cs ++ r) = trimChars cs := by
  have hback : dropBlanks (dropBlanks (cs ++ r)).reverse = dropBlanks (dropBlanks cs).reverse := by
    cases hcs : dropBlanks cs with
    | nil =>
      -- Nothing but blanks: they all go from the front.
      have hall : dropBlanks (cs ++ r) = [] := List.dropWhile_eq_nil_iff.mpr fun c hc =>
        (List.mem_append.mp hc).elim (List.dropWhile_eq_nil_iff.mp hcs c) (hr c)
      rw [hall]
    | cons c rest =>
      have hkept : dropBlanks (cs ++ r) = c :: rest ++ r := by
        rw [dropBlanks] at hcs ⊢
        rw [List.dropWhile_append, hcs, List.isEmpty_cons, if_neg Bool.false_ne_true]
      rw [hkept, List.reverse_append,
        dropBlanks_append fun x hx => hr x (List.mem_reverse.mp hx)]
  rw [trimChars, trimChars, List.append_assoc, dropBlanks_append hl, hback]

theorem exists_blanks_before (cs : List Char) :
    ∃ l, (∀ c ∈ l, isBlank c = true) ∧ cs = l ++ dropBlanks cs :=
  ⟨cs.takeWhile isBlank, fun _ => List.mem_takeWhile_imp, List.takeWhile_append_dropWhile.symm⟩

theorem exists_blanks_around (cs : List Char) :
    ∃ l r, (∀ c ∈ l, isBlank c = true) ∧ (∀ c ∈ r, isBlank c = true) ∧
      cs = l ++ trimChars cs ++ r := by
  obtain ⟨l, hl, hfront⟩ := exists_blanks_before cs
  obtain ⟨r, hr, hback⟩ := exists_blanks_before (dropBlanks cs).reverse
  refine ⟨l, r.reverse, hl, fun c hc => hr c (List.mem_reverse.mp hc), ?_⟩
  calc cs = l ++ (dropBlanks cs).reverse.reverse := by rw [List.reverse_reverse, ← hfront]
    _ = l ++ (r ++ dropBlanks (dropBlanks cs).reverse).reverse := by rw [← hback]
    _ = l ++ trimChars cs ++ r.reverse := by
      rw [List.reverse_append, trimChars, List.append_assoc]

theorem trim_append {l s r : String} (hl : isBlankText l = true) (hr : isBlankText r = true) :
    trim (l ++ s ++ r) = trim s := by
  rw [trim, trim, String.toList_append, String.toList_append,
    trimChars_append (isBlankText_iff.mp hl) (isBlankText_iff.mp hr)]

theorem trim_of_isBlankText {s : String} (h : isBlankText s = true) : trim s = "" := by
  simpa [trim, trimChars, dropBlanks] using trim_append (s := "") h (r := "") rfl

theorem exists_around_trim (s : String) :
    ∃ l r, isBlankText l = true ∧ isBlankText r = true ∧ s = l ++ trim s ++ r := by
  obtain ⟨l, r, hl, hr, hs⟩ := exists_blanks_around s.toList
  refine ⟨String.ofList l, String.ofList r, isBlankText_iff.mpr (by simpa using hl),
    isBlankText_iff.mpr (by simpa using hr), ?_⟩
  rw [← String.toList_inj]
  simpa using hs

@[simp] theorem trim_trim (s : String) : trim (trim s) = trim s := by
  obtain ⟨l, r, hl, hr, hs⟩ := exists_around_trim s
  exact (trim_append hl hr).symm.trans (congrArg trim hs.symm)

theorem trimChars_cons {c : Char} {cs : List Char} (hc : isBlank c = false)
    (h : trimChars cs = cs) : trimChars (c :: cs) = c :: cs := by
  have hback : dropBlanks cs.reverse = cs.reverse := by
    have hreverse : (trimChars cs).reverse = cs.reverse := congrArg List.reverse h
    rw [trimChars, List.reverse_reverse] at hreverse
    rw [← hreverse, dropBlanks_dropBlanks]
  have hkept : dropBlanks (cs.reverse ++ [c]) = cs.reverse ++ [c] := by
    cases hcs : cs.reverse with
    | nil => exact dropBlanks_of_head hc
    | cons d ds =>
      rw [hcs] at hback
      exact dropBlanks_of_head (head_dropBlanks hback)
  rw [trimChars, dropBlanks_of_head hc, List.reverse_cons, hkept]
  simp

theorem isEmpty_trim (s : String) : (trim s).isEmpty = isBlankText s := by
  cases h : isBlankText s with
  | true =>
    rw [trim_of_isBlankText h]
    rfl
  | false =>
    rw [Bool.eq_false_iff]
    intro hempty
    obtain ⟨l, r, hl, hr, hs⟩ := exists_around_trim s
    have hblank : isBlankText s = true := by
      rw [hs, String.isEmpty_iff.mp hempty, isBlankText_iff]
      intro c hc
      simp only [String.append_empty, String.toList_append, List.mem_append] at hc
      exact hc.elim (isBlankText_iff.mp hl c) (isBlankText_iff.mp hr c)
    rw [h] at hblank
    cases hblank

/-- How a store writes texts in small letters: blanks are no letters, so those around a text stay
and none comes up where there was none. -/
structure Lowering where
  lower : String → String
  around : ∀ {l r : String} (s : String), isBlankText l = true → isBlankText r = true →
    lower (l ++ s ++ r) = l ++ lower s ++ r
  trimmed : ∀ {s : String}, trim s = s → trim (lower s) = lower s

namespace Lowering

variable (m : Lowering) {s t : String}

def key (s : String) : String := m.lower (trim s)

@[simp] theorem key_trim (s : String) : m.key (trim s) = m.key s := by
  rw [key, key, trim_trim]

theorem trim_key (s : String) : trim (m.key s) = m.key s := m.trimmed (trim_trim s)

theorem exists_around_key (s : String) :
    ∃ l r, isBlankText l = true ∧ isBlankText r = true ∧ s = l ++ trim s ++ r ∧
      m.lower s = l ++ m.key s ++ r := by
  obtain ⟨l, r, hl, hr, hs⟩ := exists_around_trim s
  exact ⟨l, r, hl, hr, hs, (congrArg m.lower hs).trans (m.around (trim s) hl hr)⟩

theorem trim_lower (s : String) : trim (m.lower s) = m.key s := by
  obtain ⟨l, r, hl, hr, -, hlower⟩ := m.exists_around_key s
  rw [hlower, trim_append hl hr, trim_key]

theorem lower_eq_key_iff : m.lower s = m.key t ↔ trim s = s ∧ m.key s = m.key t := by
  constructor
  · intro h
    have hkey : m.key s = m.key t := by rw [← trim_lower, h, trim_key]
    obtain ⟨l, r, -, -, hs, hlower⟩ := m.exists_around_key s
    have hlength : (l ++ m.key s ++ r).length = (m.key s).length := by rw [← hlower, h, hkey]
    obtain ⟨rfl, rfl⟩ : l = "" ∧ r = "" := by
      simp only [String.length_append] at hlength
      rw [← String.length_eq_zero_iff, ← String.length_eq_zero_iff]
      omega
    exact ⟨by simpa using hs.symm, hkey⟩
  · rintro ⟨htrim, hkey⟩
    rw [← hkey, key, htrim]

end Lowering

theorem toLower_cases (c : Char) :
    c.toLower = c ∨ (65 ≤ c.toNat ∧ c.toNat ≤ 90 ∧ c.toLower.toNat = c.toNat + 32) := by
  by_cases h : c.val ≥ 'A'.val ∧ c.val ≤ 'Z'.val
  · have hn : 65 ≤ c.val.toNat ∧ c.val.toNat ≤ 90 := by
      simpa [UInt32.le_iff_toNat_le] using h
    have hlower : c.toLower.val = c.val + 32 := congrArg Char.val (dif_pos h)
    refine .inr ⟨hn.1, hn.2, ?_⟩
    change c.toLower.val.toNat = c.val.toNat + 32
    rw [hlower, UInt32.toNat_add]
    exact Nat.mod_eq_of_lt (show c.val.toNat + 32 < 2 ^ 32 by omega)
  · exact .inl (dif_neg h)

theorem isBlank_of_between {c : Char} (hlow : 65 ≤ c.toNat) (hhigh : c.toNat ≤ 122) :
    isBlank c = false := by
  rw [Bool.eq_false_iff]
  intro h
  simp only [isBlank, Bool.or_eq_true, Bool.and_eq_true, decide_eq_true_eq, beq_iff_eq] at h
  omega

theorem isBlank_toLower (c : Char) : isBlank c.toLower = isBlank c := by
  rcases toLower_cases c with h | ⟨hlow, hhigh, h⟩
  · rw [h]
  · rw [isBlank_of_between (by omega) (by omega), isBlank_of_between (by omega) (by omega)]

theorem toLower_of_isBlank {c : Char} (h : isBlank c = true) : c.toLower = c := by
  rcases toLower_cases c with heq | ⟨hlow, hhigh, -⟩
  · exact heq
  · simp [isBlank_of_between hlow (by omega)] at h

theorem dropBlanks_map_toLower (cs : List Char) :
    dropBlanks (cs.map Char.toLower) = (dropBlanks cs).map Char.toLower := by
  have hsame : isBlank ∘ Char.toLower = isBlank := funext isBlank_toLower
  rw [dropBlanks, List.dropWhile_map, hsame, dropBlanks]

theorem trimChars_map_toLower (cs : List Char) :
    trimChars (cs.map Char.toLower) = (trimChars cs).map Char.toLower := by
  simp only [trimChars, dropBlanks_map_toLower, ← List.map_reverse]

theorem map_toLower_of_isBlankText {s : String} (h : isBlankText s = true) :
    s.toList.map Char.toLower = s.toList :=
  (List.map_congr_left fun c hc => toLower_of_isBlank (isBlankText_iff.mp h c hc)).trans
    (List.map_id _)

def Lowering.ascii : Lowering where
  lower s := String.ofList (s.toList.map Char.toLower)
  around s hl hr := by
    rw [← String.toList_inj]
    simp [map_toLower_of_isBlankText hl, map_toLower_of_isBlankText hr]
  trimmed hs := by
    rw [← String.toList_inj, toList_trim] at hs
    rw [trim, String.toList_ofList, trimChars_map_toLower, hs]

end CityGuide.Text
