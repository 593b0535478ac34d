import CityGuide.Json.Document
import CityGuide.Json.Writer

namespace CityGuide.Json

open Text

def Stops (rest : List Char) : Prop := ∀ c r, rest = c :: r → c = ',' ∨ c = ']' ∨ c = '}'

theorem stops_nil : Stops [] := by
  intro c r h
  simp at h

theorem stops_cons {c : Char} {r : List Char} (h : c = ',' ∨ c = ']' ∨ c = '}') :
    Stops (c :: r) := by
  rintro _ _ ⟨rfl, rfl⟩
  exact h

theorem tokens_cons {c : Char} {cs : List Char} (h : isGap c = false) :
    tokens (c :: cs) = (tokenAt c cs).1 :: tokens (tokenAt c cs).2 := by
  have hdrop : (c :: cs).dropWhile isGap = c :: cs := by simp [h]
  rw [tokens]
  split
  · next heq => simp [hdrop] at heq
  · next d r heq =>
    obtain ⟨rfl, rfl⟩ := List.cons.inj (hdrop.symm.trans heq)
    rfl

inductive StandsFor : Piece → Char → Prop
  | char (c : Char) : StandsFor (.char c) c
  | unit {c : Char} (h : c.toNat < 32) : StandsFor (.unit c.toNat) c

theorem StandsFor.join_cons {p : Piece} {c : Char} (h : StandsFor p c) (ps : List Piece) :
    Piece.join (p :: ps) = (Piece.join ps).map (c :: ·) := by
  cases h with
  | char c => rfl
  | unit h =>
    have hhigh : Piece.isHigh c.toNat = false := by
      simp only [Piece.isHigh, Bool.and_eq_false_iff, decide_eq_false_iff_not]
      omega
    have hlow : Piece.isLow c.toNat = false := by
      simp only [Piece.isLow, Bool.and_eq_false_iff, decide_eq_false_iff_not]
      omega
    have hback : Char.ofNat c.toNat = c := Char.ofNat_toNat c
    rcases ps with _ | ⟨_ | _, ps⟩ <;> simp [Piece.join, hhigh, hlow, hback]

theorem hex4_low {n : Nat} (h : n < 32) :
    hex4 '0' '0' (hexChar (nibble (n / 16))) (hexChar (nibble n)) = some n := by
  have hzero : hexDigit? '0' = some 0 := by decide
  simp only [hex4, hzero, hexDigit?_hexChar, Option.bind_eq_bind, Option.bind_some, nibble,
    Option.some.injEq, Fin.val_zero]
  omega

theorem scanText_simple {c e : Char} (he : simpleEscape e = some c) (cs : List Char) :
    scanText ('\\' :: e :: cs) = (scanText cs).map fun (ps, rest) => (.char c :: ps, rest) := by
  have hu : e ≠ 'u' := by
    rintro rfl
    simp [simpleEscape] at he
  rw [scanText]
  · simp only [he, Option.bind_eq_bind, Option.bind_some]
    cases scanText cs <;> rfl
  · rintro a b c d rest h -
    exact hu h

theorem scanText_unit {a b c d : Char} {n : Nat} (h : hex4 a b c d = some n) (cs : List Char) :
    scanText ('\\' :: 'u' :: a :: b :: c :: d :: cs) =
      (scanText cs).map fun (ps, rest) => (.unit n :: ps, rest) := by
  rw [scanText, h, Option.bind_eq_bind, Option.bind_some]
  cases scanText cs <;> rfl

theorem scanText_plain {c : Char} (hq : c ≠ '"') (hb : c ≠ '\\') (hc : 32 ≤ c.toNat)
    (cs : List Char) :
    scanText (c :: cs) = (scanText cs).map fun (ps, rest) => (.char c :: ps, rest) := by
  rw [scanText]
  · rw [if_pos ⟨hc, hb⟩]
  all_goals simp [hq, hb]

theorem scanText_escaped (c : Char) :
    ∃ p, StandsFor p c ∧ ∀ cs, scanText (escaped c ++ cs) =
      (scanText cs).map fun (ps, rest) => (p :: ps, rest) := by
  have hnamed (e : Char) (he : simpleEscape e = some c) : ∃ p, StandsFor p c ∧
      ∀ cs, scanText (['\\', e] ++ cs) = (scanText cs).map fun (ps, rest) => (p :: ps, rest) :=
    ⟨.char c, .char c, scanText_simple he⟩
  have hcode (n : Nat) (h : c.toNat = n) : c = Char.ofNat n := by rw [← h, Char.ofNat_toNat]
  simp only [escaped]
  split
  · exact hnamed '"' (by simp [simpleEscape, *])
  split
  · exact hnamed '\\' (by simp [simpleEscape, *])
  split
  · exact hnamed 'n' (by simp [simpleEscape, *])
  split
  · exact hnamed 'r' (by simp [simpleEscape, *])
  split
  · exact hnamed 't' (by simp [simpleEscape, *])
  split
  · exact hnamed 'b' (by simp [simpleEscape, hcode 8 ‹_›])
  split
  · exact hnamed 'f' (by simp [simpleEscape, hcode 12 ‹_›])
  split
  · rename_i h
    exact ⟨.unit c.toNat, .unit h, scanText_unit (hex4_low h)⟩
  · exact ⟨.char c, .char c, scanText_plain ‹_› ‹_› (by omega)⟩

theorem scanText_quoted (cs rest : List Char) :
    ∃ ps, scanText (cs.flatMap escaped ++ '"' :: rest) = some (ps, rest) ∧
      Piece.join ps = some cs := by
  induction cs with
  | nil => exact ⟨[], rfl, rfl⟩
  | cons c cs ih =>
    obtain ⟨ps, hps, hjoin⟩ := ih
    obtain ⟨p, hp, hscan⟩ := scanText_escaped c
    refine ⟨p :: ps, ?_, ?_⟩
    · rw [List.flatMap_cons, List.append_assoc, hscan, hps, Option.map_some]
    · rw [hp.join_cons, hjoin, Option.map_some]

theorem tokens_quoted (s : String) (rest : List Char) :
    tokens (quoted s.toList ++ rest) = .text (some s) :: tokens rest := by
  obtain ⟨ps, hps, hjoin⟩ := scanText_quoted s.toList rest
  have hat : tokenAt '"' (s.toList.flatMap escaped ++ '"' :: rest) = (.text (some s), rest) := by
    change quotedToken _ = _
    simp [quotedToken, hps, textOf, hjoin]
  rw [quoted, List.cons_append, List.append_assoc, List.singleton_append,
    tokens_cons (by decide), hat]

section Numbers

variable {rest : List Char}

def places (n : Nat) : List Nat := if n < 10 then [n] else places (n / 10) ++ [n % 10]
termination_by n
decreasing_by omega

theorem decimal_eq (n : Nat) : decimal n = (places n).map digitChar := by
  fun_induction places n with
  | case1 n h => rw [decimal, if_pos h, List.map_singleton]
  | case2 n h ih => rw [decimal, if_neg h, ih, List.map_append, List.map_singleton]

theorem places_lt (n : Nat) : ∀ d ∈ places n, d < 10 := by
  fun_induction places n with
  | case1 n h => simpa using h
  | case2 n h ih =>
    intro d hd
    rcases List.mem_append.mp hd with hd | hd
    · exact ih d hd
    · rw [List.mem_singleton.mp hd]
      exact Nat.mod_lt n (by decide)

theorem ofDigits_places (n : Nat) : Numeral.ofDigits (places n) = n := by
  fun_induction places n with
  | case1 n h => simp [Numeral.ofDigits]
  | case2 n h ih =>
    rw [Numeral.ofDigits, List.foldl_append, ← Numeral.ofDigits, ih]
    simp only [List.foldl_cons, List.foldl_nil]
    omega

theorem places_head {n : Nat} (h : n ≠ 0) : ∃ d ds, places n = d :: ds ∧ d ≠ 0 := by
  fun_induction places n with
  | case1 n _ => exact ⟨n, [], rfl, h⟩
  | case2 n hn ih =>
    obtain ⟨d, ds, hds, hd⟩ := ih (by omega)
    exact ⟨d, ds ++ [n % 10], by rw [hds, List.cons_append], hd⟩

theorem digitsOf_of_stops (hr : Stops rest) : digitsOf rest = ([], rest) := by
  cases rest with
  | nil => rfl
  | cons c r =>
    have hc : digit? c = none := by
      rcases hr c r rfl with rfl | rfl | rfl <;> decide
    simp [digitsOf, hc]

theorem digitsOf_append {ds : List Nat} (hds : ∀ d ∈ ds, d < 10) (hr : Stops rest) :
    digitsOf (ds.map digitChar ++ rest) = (ds, rest) := by
  induction ds with
  | nil => exact digitsOf_of_stops hr
  | cons d ds ih =>
    obtain ⟨hd, hds⟩ := List.forall_mem_cons.mp hds
    simp only [List.map_cons, List.cons_append, digitsOf, digit?_digitChar hd, ih hds]

theorem wholePart_decimal (n : Nat) (hr : Stops rest) :
    wholePart (decimal n ++ rest) = some (places n, rest) := by
  have hread : digitsOf (decimal n ++ rest) = (places n, rest) := by
    rw [decimal_eq, digitsOf_append (places_lt n) hr]
  by_cases hn : n = 0
  · have hplaces : places n = [0] := by rw [hn, places, if_pos (by decide)]
    simp [wholePart, hread, hplaces]
  · obtain ⟨d, ds, hds, hd⟩ := places_head hn
    rw [hds] at hread ⊢
    rw [wholePart, hread]
    rcases d with _ | d
    · exact absurd rfl hd
    · rfl

theorem numeral_decimal (negative : Bool) (n : Nat) (hr : Stops rest) :
    numeral negative (decimal n ++ rest) = some (⟨negative, places n, none, none⟩, rest) := by
  have hfraction : fractionPart rest = some (none, rest) := by
    rcases rest with _ | ⟨c, r⟩
    · rfl
    · rcases hr c r rfl with rfl | rfl | rfl <;> rfl
  have hexponent : exponentPart rest = some (none, rest) := by
    rcases rest with _ | ⟨c, r⟩
    · rfl
    · rcases hr c r rfl with rfl | rfl | rfl <;> rfl
  simp [numeral, wholePart_decimal n hr, hfraction, hexponent]

def isWord (n : Int) : Prop := -(Nat.pow 2 63 : Nat) ≤ n ∧ n < (Nat.pow 2 64 : Nat)

theorem tokenAt_digit {c : Char} {cs : List Char} (h : isDigit c = true) :
    tokenAt c cs = numberToken false (c :: cs) := by
  have hother (d : Char) (hd : isDigit d = false) : c ≠ d := by
    rintro rfl
    simp [h] at hd
  rw [tokenAt.eq_12 c cs] <;> first | exact hother _ (by decide) | simp [h]

theorem tokens_int {n : Int} (hn : isWord n) (hr : Stops rest) :
    tokens (intChars n ++ rest) = .number (some (.int n)) :: tokens rest := by
  obtain ⟨hlow, hhigh⟩ := hn
  cases n with
  | ofNat n =>
    have hword : n < Nat.pow 2 64 := by exact Int.ofNat_lt.mp hhigh
    have hread : numberToken false (decimal n ++ rest) = (.number (some (.int n)), rest) := by
      simp [numberToken, numeral_decimal _ n hr, Numeral.value, Numeral.toInt?, ofDigits_places,
        hword]
    obtain ⟨c, cs, hcs⟩ := List.exists_cons_of_ne_nil (decimal_ne_nil n)
    have hdigit : isDigit c = true := isDigit_of_mem_decimal (n := n) (by rw [hcs]; simp)
    have hgap : isGap c = false := by
      have hother (d : Char) (hd : isDigit d = false) : c ≠ d := by
        rintro rfl
        simp [hdigit] at hd
      simp [isGap, hother ' ' (by decide), hother '\n' (by decide), hother '\t' (by decide),
        hother '\r' (by decide)]
    rw [intChars, hcs, List.cons_append, tokens_cons hgap, tokenAt_digit hdigit,
      ← List.cons_append, ← hcs, hread]
    rfl
  | negSucc n =>
    have hword : n + 1 ≤ Nat.pow 2 63 := by omega
    have hread : tokenAt '-' (decimal (n + 1) ++ rest) =
        (.number (some (.int (.negSucc n))), rest) := by
      change numberToken true _ = _
      simp [numberToken, numeral_decimal _ (n + 1) hr, Numeral.value, Numeral.toInt?,
        ofDigits_places, hword, Int.negSucc_eq]
    rw [intChars, List.cons_append, tokens_cons (by decide), hread]

end Numbers

end CityGuide.Json
