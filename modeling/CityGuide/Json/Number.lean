import CityGuide.Text.Digits

namespace CityGuide.Json

open Text

inductive Number where
  | int (n : Int)
  | float (x : Float)

structure Numeral where
  negative : Bool
  whole : List Nat
  fraction : Option (List Nat)
  exponent : Option Int

namespace Numeral

def ofDigits (ds : List Nat) : Nat := ds.foldl (fun n d => 10 * n + d) 0

-- Digits enter a 64-bit significand until the next one does not fit.
def fill (n : Nat) : List Nat → Nat × List Nat
  | [] => (n, [])
  | d :: ds => if 10 * n + d < Nat.pow 2 64 then fill (10 * n + d) ds else (n, d :: ds)

def powerOfTen (n : Nat) : Float := Float.ofScientific 1 false n

def overPower (x : Float) (n : Nat) : Float :=
  if n ≤ 308 then x / powerOfTen n
  else if x == 0 then x
  else overPower (x / powerOfTen 308) (n - 308)
termination_by n
decreasing_by omega

def timesPower (x : Float) (n : Nat) : Option Float :=
  if n ≤ 308 then
    let y := x * powerOfTen n
    if y.isInf then none else some y
  else if x == 0 then some x
  else none

def scaled (significand : Nat) (exponent : Int) : Option Float :=
  let x := significand.toUInt64.toFloat
  if exponent < 0 then some (overPower x exponent.natAbs) else timesPower x exponent.natAbs

def toFloat (n : Numeral) : Option Float :=
  let (significand, skipped) := fill 0 n.whole
  let digits := n.fraction.getD []
  let (significand, dropped) := fill significand digits
  let kept := digits.length - dropped.length
  let exponent := (skipped.length : Int) - kept + n.exponent.getD 0
  (scaled significand exponent).map fun x => if n.negative then -x else x

def toInt? (n : Numeral) : Option Int :=
  match n.fraction, n.exponent with
  | none, none =>
      let m := ofDigits n.whole
      if n.negative then (if 0 < m ∧ m ≤ Nat.pow 2 63 then some (-(m : Int)) else none)
      else if m < Nat.pow 2 64 then some m
      else none
  | _, _ => none

def value (n : Numeral) : Option Number :=
  match n.toInt? with
  | some i => some (.int i)
  | none => n.toFloat.map .float

end Numeral

def digitsOf : List Char → List Nat × List Char
  | [] => ([], [])
  | c :: cs =>
      match digit? c with
      | none => ([], c :: cs)
      | some d =>
          let (ds, rest) := digitsOf cs
          (d :: ds, rest)

theorem digitsOf_length (cs : List Char) : (digitsOf cs).2.length ≤ cs.length := by
  induction cs with
  | nil => simp [digitsOf]
  | cons c cs ih =>
      simp only [digitsOf]
      cases digit? c with
      | none => simp
      | some d => simp only [List.length_cons]; omega

def wholePart (cs : List Char) : Option (List Nat × List Char) :=
  match digitsOf cs with
  | ([], _) => none
  | (0 :: _ :: _, _) => none
  | (ds, rest) => some (ds, rest)

def fractionPart : List Char → Option (Option (List Nat) × List Char)
  | '.' :: cs =>
      match digitsOf cs with
      | ([], _) => none
      | (ds, rest) => some (some ds, rest)
  | cs => some (none, cs)

def exponentDigits (sign : Int) (cs : List Char) : Option (Option Int × List Char) :=
  match digitsOf cs with
  | ([], _) => none
  | (ds, rest) => some (some (sign * Numeral.ofDigits ds), rest)

def exponentPart : List Char → Option (Option Int × List Char)
  | 'e' :: '+' :: cs | 'E' :: '+' :: cs => exponentDigits 1 cs
  | 'e' :: '-' :: cs | 'E' :: '-' :: cs => exponentDigits (-1) cs
  | 'e' :: cs | 'E' :: cs => exponentDigits 1 cs
  | cs => some (none, cs)

def numeral (negative : Bool) (cs : List Char) : Option (Numeral × List Char) := do
  let (whole, rest) ← wholePart cs
  let (fraction, rest) ← fractionPart rest
  let (exponent, rest) ← exponentPart rest
  some (⟨negative, whole, fraction, exponent⟩, rest)

theorem wholePart_length {cs rest : List Char} {ds : List Nat}
    (h : wholePart cs = some (ds, rest)) : rest.length < cs.length := by
  cases cs with
  | nil => simp [wholePart, digitsOf] at h
  | cons c cs =>
      have hle := digitsOf_length cs
      simp only [wholePart, digitsOf] at h
      cases hd : digit? c with
      | none => simp [hd] at h
      | some d =>
          simp only [hd] at h
          split at h
          · simp at h
          · simp at h
          · simp_all only [Option.some.injEq, Prod.mk.injEq, List.length_cons]
            omega

theorem fractionPart_length {cs rest : List Char} {ds : Option (List Nat)}
    (h : fractionPart cs = some (ds, rest)) : rest.length ≤ cs.length := by
  revert h
  fun_cases fractionPart cs with
  | case1 | case3 => intro h; simp_all
  | case2 cs ds rest _ hd =>
      intro h
      have hle := digitsOf_length cs
      simp only [Option.some.injEq, Prod.mk.injEq] at h
      rw [hd, h.2] at hle
      simp only [List.length_cons] at hle ⊢
      omega

theorem exponentDigits_length {sign : Int} {cs rest : List Char} {e : Option Int}
    (h : exponentDigits sign cs = some (e, rest)) : rest.length ≤ cs.length := by
  have hle := digitsOf_length cs
  revert h
  fun_cases exponentDigits sign cs <;> intro h <;> simp_all

theorem exponentPart_length {cs rest : List Char} {e : Option Int}
    (h : exponentPart cs = some (e, rest)) : rest.length ≤ cs.length := by
  revert h
  fun_cases exponentPart cs with
  | case1 | case2 | case3 | case4 | case5 | case6 =>
      intro h
      have := exponentDigits_length h
      simp only [List.length_cons]
      omega
  | case7 => intro h; simp_all

theorem numeral_length {negative : Bool} {cs rest : List Char} {n : Numeral}
    (h : numeral negative cs = some (n, rest)) : rest.length < cs.length := by
  simp only [numeral, Option.bind_eq_bind, Option.bind_eq_some_iff] at h
  obtain ⟨a, ha, b, hb, c, hc, hr⟩ := h
  have h1 := wholePart_length ha
  have h2 := fractionPart_length hb
  have h3 := exponentPart_length hc
  simp only [Option.some.injEq, Prod.mk.injEq] at hr
  rw [← hr.2]
  omega

end CityGuide.Json
