import CityGuide.Text.Digits

namespace CityGuide

structure Decimal where
  digits : Nat
  exponent : Int
  deriving DecidableEq, Repr

namespace Decimal

/-- A finite positive double: `mantissa · 2 ^ exponent`. -/
structure Binary where
  mantissa : Nat
  exponent : Int
  deriving DecidableEq, Repr

namespace Binary

def ofBits (bits : Nat) : Binary :=
  let fraction : Nat := bits % Nat.pow 2 52
  let scale : Nat := bits / Nat.pow 2 52 % Nat.pow 2 11
  if scale = 0 then ⟨fraction, -1074⟩ else ⟨Nat.pow 2 52 + fraction, (scale : Int) - 1075⟩

-- The gap to the next smaller double is half as wide at a power of two.
def isNarrowBelow (b : Binary) : Bool := b.mantissa = Nat.pow 2 52 && b.exponent > -1074

def low (b : Binary) : Nat := 4 * b.mantissa - (if b.isNarrowBelow then 1 else 2)

def mid (b : Binary) : Nat := 4 * b.mantissa

def high (b : Binary) : Nat := 4 * b.mantissa + 2

-- The ends round to the double themselves when its mantissa is even.
def holds (b : Binary) (scaled unit : Nat) : Bool :=
  if b.mantissa % 2 = 0 then b.low * unit ≤ scaled && scaled ≤ b.high * unit
  else b.low * unit < scaled && scaled < b.high * unit

end Binary

def ratio (b : Binary) (unit : Int) : Nat × Nat :=
  let quarter := b.exponent - 2
  (Nat.pow 2 quarter.toNat * Nat.pow 10 (-unit).toNat,
    Nat.pow 2 (-quarter).toNat * Nat.pow 10 unit.toNat)

def onGrid (b : Binary) (unit : Int) : Option Decimal :=
  let (num, den) := ratio b unit
  let below := b.mid * num / den
  let twice := 2 * b.mid * num
  let fits := fun c => b.holds (c * den) num
  let near := if twice < (2 * below + 1) * den then below
    else if twice = (2 * below + 1) * den ∧ below % 2 = 0 then below
    else below + 1
  let far := if near = below then below + 1 else below
  if near > 0 ∧ fits near then some ⟨near, unit⟩
  else if far > 0 ∧ fits far then some ⟨far, unit⟩
  else none

def coarsestFrom (b : Binary) (unit : Int) : Nat → Decimal
  | 0 => ⟨b.mantissa, b.exponent⟩
  | n + 1 => (onGrid b unit).getD (coarsestFrom b (unit - 1) n)

-- An upper bound of the decimal exponent: 1234 / 4096 exceeds the logarithm of two.
def topUnit (b : Binary) : Int :=
  let bits : Int := (b.mantissa.log2 : Int) + 1 + b.exponent
  if bits > 0 then bits * 1234 / 4096 + 1 else bits * 1233 / 4096 + 1

def stripZeros (d : Decimal) : Nat → Decimal
  | 0 => d
  | n + 1 =>
      if d.digits % 10 = 0 ∧ d.digits ≠ 0 then stripZeros ⟨d.digits / 10, d.exponent + 1⟩ n else d

def shortest (b : Binary) : Decimal :=
  if b.mantissa = 0 then ⟨0, 0⟩ else stripZeros (coarsestFrom b (topUnit b) 25) 25

end Decimal

end CityGuide
