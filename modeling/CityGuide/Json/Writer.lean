import CityGuide.Json.Value
import CityGuide.Decimal.Text
import CityGuide.Text.Hex

namespace CityGuide.Json

open Text

def escaped (c : Char) : List Char :=
  if c = '"' then ['\\', '"']
  else if c = '\\' then ['\\', '\\']
  else if c = '\n' then ['\\', 'n']
  else if c = '\r' then ['\\', 'r']
  else if c = '\t' then ['\\', 't']
  else if c.toNat = 8 then ['\\', 'b']
  else if c.toNat = 12 then ['\\', 'f']
  else if c.toNat < 32 then
    ['\\', 'u', '0', '0', hexChar (nibble (c.toNat / 16)), hexChar (nibble c.toNat)]
  else [c]

def quoted (cs : List Char) : List Char := '"' :: (cs.flatMap escaped ++ ['"'])

mutual

def chars : Json → List Char
  | .null => ['n', 'u', 'l', 'l']
  | .bool true => ['t', 'r', 'u', 'e']
  | .bool false => ['f', 'a', 'l', 's', 'e']
  | .int n => intChars n
  | .float x =>
      if x.isFinite then Decimal.signed x Decimal.compact else ['n', 'u', 'l', 'l']
  | .text s => quoted s.toList
  | .list [] => ['[', ']']
  | .list (j :: js) => '[' :: (chars j ++ itemChars js)
  | .record [] => ['{', '}']
  | .record (m :: ms) => '{' :: (memberChars m ++ moreChars ms)

def itemChars : List Json → List Char
  | [] => [']']
  | j :: js => ',' :: (chars j ++ itemChars js)

def memberChars : String × Json → List Char
  | (key, j) => quoted key.toList ++ ':' :: chars j

def moreChars : List (String × Json) → List Char
  | [] => ['}']
  | m :: ms => ',' :: (memberChars m ++ moreChars ms)

end

def write (j : Json) : String := String.ofList (chars j)

end CityGuide.Json
