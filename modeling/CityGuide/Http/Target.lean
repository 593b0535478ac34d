import CityGuide.Text.Blank
import CityGuide.Text.Hex
import CityGuide.Text.Utf8

namespace CityGuide.Http

open Text
open Crypto (Bytes utf8)

def escapedByte? (a b : UInt8) : Option UInt8 := do
  let a ← hexDigit? (Char.ofNat a.toNat)
  let b ← hexDigit? (Char.ofNat b.toNat)
  some (UInt8.ofNat (a.val * 16 + b.val))

def percentDecoded : Bytes → Bytes
  | [] => []
  | [a] => [a]
  | [a, b] => [a, b]
  | p :: a :: b :: rest =>
      if p = 37 then
        match escapedByte? a b with
        | some x => x :: percentDecoded rest
        | none => p :: percentDecoded (a :: b :: rest)
      else p :: percentDecoded (a :: b :: rest)
termination_by bs => bs.length

structure Target where
  path : List Char
  query : List Char
  deriving DecidableEq, Repr

namespace Target

def ofString (s : String) : Target :=
  let cs := ((cutOnce '#' s.toList).map (·.1)).getD s.toList
  match cutOnce '?' cs with
  | some (path, query) => ⟨path, query⟩
  | none => ⟨cs, []⟩

def segments? (t : Target) : Option (List (List Char)) :=
  match t.path with
  | '/' :: rest => some (splitOn '/' rest)
  | _ => none

end Target

def segmentText? (cs : List Char) : Option String :=
  wellFormed? (percentDecoded (utf8 (String.ofList cs)))

-- A plus is a space in a query.
def formText (cs : List Char) : String :=
  lossy (percentDecoded ((utf8 (String.ofList cs)).map fun b => if b = 43 then 32 else b))

def formPair (cs : List Char) : String × String :=
  match cutOnce '=' cs with
  | some (name, value) => (formText name, formText value)
  | none => (formText cs, "")

def formPairs (query : List Char) : List (String × String) :=
  ((splitOn '&' query).filter fun item => !item.isEmpty).map formPair

end CityGuide.Http
