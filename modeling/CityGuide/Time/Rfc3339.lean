import CityGuide.Time.Instant
import CityGuide.Text.Blank
import CityGuide.Text.Digits

namespace CityGuide.Time.Rfc3339

open Text

/-- The exact form has full widths and nothing between its parts; the relaxed form admits blanks,
short numbers, signed years and the word UTC. -/
inductive Form
  | exact
  | relaxed
  deriving DecidableEq

abbrev Rest := List Char

def gap : Form → List Char → Rest
  | .exact, cs => cs
  | .relaxed, cs => dropBlanks cs

def digitsOf : Nat → List Char → List Char
  | 0, _ => []
  | _ + 1, [] => []
  | n + 1, c :: cs => if (digit? c).isSome then c :: digitsOf n cs else []

def numberOf (fewest most : Nat) (cs : List Char) : Option (Nat × Rest) :=
  let ds := digitsOf most cs
  if ds.length < fewest then none
  else (nat? ds).map fun n => (n, cs.drop ds.length)

def number : Form → Nat → List Char → Option (Nat × Rest)
  | .exact, width, cs => numberOf width width cs
  | .relaxed, width, cs => numberOf 1 width (dropBlanks cs)

def year : Form → List Char → Option (Int × Rest)
  | .exact, cs => (numberOf 4 4 cs).map fun (n, r) => ((n : Int), r)
  | .relaxed, cs =>
      match dropBlanks cs with
      | '-' :: r => (numberOf 1 r.length r).map fun (n, r) => (-(n : Int), r)
      | '+' :: r => (numberOf 1 r.length r).map fun (n, r) => ((n : Int), r)
      | r => (numberOf 1 4 r).map fun (n, r) => ((n : Int), r)

def mark (form : Form) (c : Char) (cs : List Char) : Option Rest :=
  match gap form cs with
  | x :: r => if x = c then some r else none
  | [] => none

def separator : List Char → Option Rest
  | 'T' :: r | 't' :: r | ' ' :: r => some r
  | _ => none

def fraction : List Char → Option (Nat × Rest)
  | '.' :: cs =>
      let ds := digitsOf 9 cs
      (nat? ds).map fun n =>
        (n * Nat.pow 10 (9 - ds.length), (cs.drop ds.length).dropWhile fun c => (digit? c).isSome)
  | cs => some (0, cs)

def sign? : List Char → Option (Int × Rest)
  | '+' :: r => some (1, r)
  | '-' :: r | '−' :: r => some (-1, r)
  | _ => none

def offsetMark : Form → List Char → Option Rest
  | .exact, ':' :: r => some r
  | .exact, _ => none
  | .relaxed, cs => some (cs.dropWhile fun c => c = ':' || isBlank c)

def offset (form : Form) : List Char → Option (Int × Rest)
  | 'Z' :: r | 'z' :: r => some (0, r)
  | cs => do
      let (s, r) ← sign? cs
      let (hours, r) ← numberOf 2 2 r
      let r ← offsetMark form r
      let (minutes, r) ← numberOf 2 2 r
      if minutes < 60 ∧ hours < 24 then some (s * (hours * 3600 + minutes * 60), r) else none

def zone : Form → List Char → Option (Int × Rest)
  | .exact, cs => offset .exact cs
  | .relaxed, cs =>
      let cs := dropBlanks cs
      if (cs.take 3).map Char.toLower = ['u', 't', 'c'] then some (0, cs.drop 3)
      else offset .relaxed cs

def ofLocal? (date : Date) (hour minute second nanos : Nat) (offset : Int) : Option Instant :=
  let instant : Instant :=
    ⟨date.toDays * 86400 + hour * 3600 + minute * 60 + min second 59 - offset,
      if second = 60 then nanos + 1000000000 else nanos⟩
  if hour < 24 ∧ minute < 60 ∧ second ≤ 60 ∧ date.isReal ∧
      -262143 ≤ date.year ∧ date.year ≤ 262142 ∧ instant.isRepresentable then some instant
  else none

def readChars (form : Form) (cs : List Char) : Option Instant := do
  let (y, r) ← year form cs
  let r ← mark form '-' r
  let (month, r) ← number form 2 r
  let r ← mark form '-' r
  let (day, r) ← number form 2 r
  let r ← separator r
  let (hour, r) ← number form 2 r
  let r ← mark form ':' r
  let (minute, r) ← number form 2 r
  let r ← mark form ':' r
  let (second, r) ← number form 2 r
  let (nanos, r) ← fraction r
  let (east, r) ← zone form r
  if gap form r = [] then ofLocal? ⟨y, month, day⟩ hour minute second nanos east else none

def read? (form : Form) (s : String) : Option Instant := readChars form s.toList

def yearChars (y : Int) : List Char :=
  if 0 ≤ y ∧ y ≤ 9999 then padded 4 y.toNat
  else (if y < 0 then '-' else '+') :: atLeast 4 y.natAbs

def fractionChars (nanos : Nat) : List Char :=
  if nanos = 0 then []
  else if nanos % 1000000 = 0 then '.' :: padded 3 (nanos / 1000000)
  else if nanos % 1000 = 0 then '.' :: padded 6 (nanos / 1000)
  else '.' :: padded 9 nanos

def writeWith (fractionChars : Nat → List Char) (i : Instant) : List Char :=
  let date := Date.ofDays i.day
  let second := i.secondOfDay.toNat
  let leap := if i.nanos ≥ 1000000000 then 1 else 0
  yearChars date.year ++ '-' :: padded 2 date.month ++ '-' :: padded 2 date.day ++
    'T' :: padded 2 (second / 3600) ++ ':' :: padded 2 (second / 60 % 60) ++
    ':' :: padded 2 (second % 60 + leap) ++ fractionChars (i.nanos % 1000000000) ++ ['Z']

def chars (i : Instant) : List Char := writeWith fractionChars i

def text (i : Instant) : String := String.ofList (chars i)

def microText (i : Instant) : String :=
  String.ofList (writeWith (fun nanos => '.' :: padded 6 (nanos / 1000)) i)

end CityGuide.Time.Rfc3339
