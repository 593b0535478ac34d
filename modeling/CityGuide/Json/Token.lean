import CityGuide.Json.Number
import CityGuide.Text.Hex

namespace CityGuide.Json

open Text

inductive Piece where
  | char (c : Char)
  | unit (n : Nat)
  deriving DecidableEq

namespace Piece

def isHigh (n : Nat) : Bool := 0xD800 ≤ n && n < 0xDC00

def isLow (n : Nat) : Bool := 0xDC00 ≤ n && n < 0xE000

def pair (high low : Nat) : Char := Char.ofNat (0x10000 + (high - 0xD800) * 0x400 + (low - 0xDC00))

def join : List Piece → Option (List Char)
  | [] => some []
  | .char c :: ps => (join ps).map (c :: ·)
  | .unit m :: .unit n :: ps =>
      if isHigh m then (if isLow n then (join ps).map (pair m n :: ·) else none)
      else if isLow m then none
      else (join (.unit n :: ps)).map (Char.ofNat m :: ·)
  | .unit m :: ps =>
      if isHigh m || isLow m then none else (join ps).map (Char.ofNat m :: ·)

end Piece

/-- A text is absent when its escapes stand for none, a number when no double holds it. -/
inductive Token where
  | openList
  | closeList
  | openRecord
  | closeRecord
  | comma
  | colon
  | null
  | bool (b : Bool)
  | number (n : Option Number)
  | text (s : Option String)
  | bad

def hex4 (a b c d : Char) : Option Nat := do
  let a ← hexDigit? a
  let b ← hexDigit? b
  let c ← hexDigit? c
  let d ← hexDigit? d
  some (a.val * 4096 + b.val * 256 + c.val * 16 + d.val)

def simpleEscape : Char → Option Char
  | '"' => some '"'
  | '\\' => some '\\'
  | '/' => some '/'
  | 'b' => some (Char.ofNat 8)
  | 'f' => some (Char.ofNat 12)
  | 'n' => some '\n'
  | 'r' => some '\r'
  | 't' => some '\t'
  | _ => none

def scanText : List Char → Option (List Piece × List Char)
  | [] => none
  | '"' :: cs => some ([], cs)
  | '\\' :: 'u' :: a :: b :: c :: d :: cs => do
      let n ← hex4 a b c d
      let (ps, rest) ← scanText cs
      some (.unit n :: ps, rest)
  | '\\' :: c :: cs => do
      let c ← simpleEscape c
      let (ps, rest) ← scanText cs
      some (.char c :: ps, rest)
  | c :: cs =>
      if 32 ≤ c.toNat ∧ c ≠ '\\' then (scanText cs).map fun (ps, rest) => (.char c :: ps, rest)
      else none

theorem scanText_length {cs : List Char} {r : List Piece × List Char}
    (h : scanText cs = some r) : r.2.length < cs.length := by
  fun_induction scanText cs generalizing r with
  | case1 => simp at h
  | case2 cs =>
      simp only [Option.some.injEq] at h
      simp [← h]
  | case3 a b c d cs ih | case4 c cs _ ih =>
      simp only [Option.bind_eq_bind, Option.bind_eq_some_iff, Option.some.injEq] at h
      obtain ⟨_, _, qs, hs, he⟩ := h
      have := ih hs
      simp only [List.length_cons, ← he]
      omega
  | case5 c cs _ _ _ _ ih =>
      obtain ⟨qs, hs, he⟩ := Option.map_eq_some_iff.1 h
      have := ih hs
      simp only [List.length_cons, ← he]
      omega
  | case6 => simp at h

def isGap (c : Char) : Bool := c = ' ' || c = '\n' || c = '\t' || c = '\r'

def textOf (ps : List Piece) : Option String := (Piece.join ps).map String.ofList

def keyword (word : List Char) (t : Token) (cs : List Char) : Token × List Char :=
  if cs.take word.length = word then (t, cs.drop word.length) else (.bad, [])

def quotedToken (cs : List Char) : Token × List Char :=
  match scanText cs with
  | some (ps, rest) => (.text (textOf ps), rest)
  | none => (.bad, [])

def numberToken (negative : Bool) (cs : List Char) : Token × List Char :=
  match numeral negative cs with
  | some (n, rest) => (.number n.value, rest)
  | none => (.bad, [])

def tokenAt (c : Char) (cs : List Char) : Token × List Char :=
  match c with
  | '[' => (.openList, cs)
  | ']' => (.closeList, cs)
  | '{' => (.openRecord, cs)
  | '}' => (.closeRecord, cs)
  | ',' => (.comma, cs)
  | ':' => (.colon, cs)
  | 'n' => keyword ['u', 'l', 'l'] .null cs
  | 't' => keyword ['r', 'u', 'e'] (.bool true) cs
  | 'f' => keyword ['a', 'l', 's', 'e'] (.bool false) cs
  | '"' => quotedToken cs
  | '-' => numberToken true cs
  | c => if isDigit c then numberToken false (c :: cs) else (.bad, [])

theorem keyword_length (word : List Char) (t : Token) (cs : List Char) :
    (keyword word t cs).2.length ≤ cs.length := by
  simp only [keyword]
  split <;> simp

theorem quotedToken_length (cs : List Char) : (quotedToken cs).2.length ≤ cs.length := by
  simp only [quotedToken]
  split
  · next ps rest hs =>
      have := scanText_length hs
      simp only at this ⊢
      omega
  · simp

theorem numberToken_length (negative : Bool) {cs : List Char} (h : cs ≠ []) :
    (numberToken negative cs).2.length < cs.length := by
  simp only [numberToken]
  split
  · next hn => exact numeral_length hn
  · exact List.length_pos_iff.2 h

theorem numberToken_length_le (negative : Bool) (cs : List Char) :
    (numberToken negative cs).2.length ≤ cs.length := by
  cases cs with
  | nil => simp [numberToken, numeral, wholePart, digitsOf]
  | cons c cs => exact Nat.le_of_lt (numberToken_length negative (List.cons_ne_nil c cs))

theorem tokenAt_length (c : Char) (cs : List Char) : (tokenAt c cs).2.length ≤ cs.length := by
  fun_cases tokenAt c cs with
  | case7 | case8 | case9 => exact keyword_length _ _ _
  | case10 => exact quotedToken_length _
  | case11 => exact numberToken_length_le _ _
  | case12 =>
      have := numberToken_length false (List.cons_ne_nil c cs)
      simp only [List.length_cons] at this
      omega
  | _ => simp

theorem dropWhile_length (p : Char → Bool) (cs : List Char) :
    (cs.dropWhile p).length ≤ cs.length :=
  (List.dropWhile_sublist p).length_le

def tokens (cs : List Char) : List Token :=
  match _h : cs.dropWhile isGap with
  | [] => []
  | c :: r => (tokenAt c r).1 :: tokens (tokenAt c r).2
termination_by cs.length
decreasing_by
  have h1 := dropWhile_length isGap cs
  have h2 := tokenAt_length c r
  simp only [*, List.length_cons] at h1
  omega

end CityGuide.Json
