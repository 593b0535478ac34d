import CityGuide.Decimal.Shortest

namespace CityGuide.Decimal

open Text

def zeros (n : Nat) : List Char := List.replicate n '0'

def point (d : Decimal) : Int := (decimal d.digits).length + d.exponent

def plain (d : Decimal) : List Char :=
  let ds := decimal d.digits
  let point := d.point
  if 0 ≤ d.exponent then ds ++ zeros d.exponent.toNat
  else if 0 < point then ds.take point.toNat ++ '.' :: ds.drop point.toNat
  else '0' :: '.' :: zeros (-point).toNat ++ ds

def compact (d : Decimal) : List Char :=
  let ds := decimal d.digits
  let point := d.point
  if 0 ≤ d.exponent ∧ point ≤ 16 then d.plain ++ ['.', '0']
  else if -5 < point ∧ point ≤ 16 then d.plain
  else
    let tail := if ds.length = 1 then [] else '.' :: ds.drop 1
    ds.take 1 ++ tail ++ 'e' :: intChars (point - 1)

def isNegative (x : Float) : Bool := x.toBits.toNat / Nat.pow 2 63 = 1

def ofFloat (x : Float) : Decimal :=
  shortest (Binary.ofBits (x.toBits.toNat % Nat.pow 2 63))

def signed (x : Float) (write : Decimal → List Char) : List Char :=
  let cs := write (ofFloat x)
  if isNegative x then '-' :: cs else cs

def plainText (x : Float) : String := String.ofList (signed x plain)

end CityGuide.Decimal
