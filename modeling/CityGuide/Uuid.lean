import CityGuide.Text.Hex

namespace CityGuide

structure Uuid where
  digits : Vector (Fin 16) 32
  deriving DecidableEq, Inhabited, Repr

namespace Uuid

open Text

def nil : Uuid := ⟨Vector.replicate 32 (nibble 0)⟩

def ofDigits? (ds : List (Fin 16)) : Option Uuid :=
  if h : ds.toArray.size = 32 then some ⟨⟨ds.toArray, h⟩⟩ else none

def plain? (cs : List Char) : Option Uuid :=
  (cs.mapM hexDigit?).bind ofDigits?

def ungroup : List Nat → List Char → Option (List Char)
  | [], _ => none
  | [n], cs => if cs.length = n then some cs else none
  | n :: ns, cs =>
      match cs.drop n with
      | '-' :: rest => (ungroup ns rest).map (cs.take n ++ ·)
      | _ => none

def groups : List Nat := [8, 4, 4, 4, 12]

def hyphenated? (cs : List Char) : Option Uuid :=
  (ungroup groups cs).bind plain?

def braced? : List Char → Option Uuid
  | '{' :: cs => if cs.getLast? = some '}' then hyphenated? cs.dropLast else none
  | _ => none

def urnLead : List Char := "urn:uuid:".toList

def urn? (cs : List Char) : Option Uuid :=
  if (cs.take urnLead.length).map Char.toLower = urnLead then
    hyphenated? (cs.drop urnLead.length)
  else none

def ofText? (s : String) : Option Uuid :=
  let cs := s.toList
  plain? cs <|> hyphenated? cs <|> braced? cs <|> urn? cs

def chars (u : Uuid) : List Char :=
  let cs := u.digits.toList.map hexChar
  cs.take 8 ++ '-' :: ((cs.drop 8).take 4 ++ '-' :: ((cs.drop 12).take 4 ++
    '-' :: ((cs.drop 16).take 4 ++ '-' :: cs.drop 20)))

def text (u : Uuid) : String := String.ofList u.chars

instance : ToString Uuid := ⟨text⟩

end Uuid

end CityGuide
