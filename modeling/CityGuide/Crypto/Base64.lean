import CityGuide.Crypto.Bytes

namespace CityGuide.Crypto.Base64

inductive Alphabet where
  | standard
  | url
  deriving DecidableEq, Repr

namespace Alphabet

def last : Alphabet → Char × Char
  | standard => ('+', '/')
  | url => ('-', '_')

def char (a : Alphabet) (n : Fin 64) : Char :=
  if n.val < 26 then Char.ofNat (65 + n.val)
  else if n.val < 52 then Char.ofNat (71 + n.val)
  else if n.val < 62 then Char.ofNat (n.val - 4)
  else if n.val = 62 then a.last.1
  else a.last.2

def digit? (a : Alphabet) (c : Char) : Option (Fin 64) :=
  if 'A' ≤ c ∧ c ≤ 'Z' then some (Fin.ofNat 64 (c.toNat - 65))
  else if 'a' ≤ c ∧ c ≤ 'z' then some (Fin.ofNat 64 (c.toNat - 71))
  else if '0' ≤ c ∧ c ≤ '9' then some (Fin.ofNat 64 (c.toNat + 4))
  else if c = a.last.1 then some 62
  else if c = a.last.2 then some 63
  else none

theorem digit?_char (a : Alphabet) (n : Fin 64) : a.digit? (a.char n) = some n := by
  revert n
  cases a <;> decide

end Alphabet

def sextet (n : Nat) : Fin 64 := Fin.ofNat 64 n

def digits : Bytes → List (Fin 64)
  | [] => []
  | [x] => [sextet (x.toNat / 4), sextet (x.toNat * 16)]
  | [x, y] => [sextet (x.toNat / 4), sextet (x.toNat * 16 + y.toNat / 16), sextet (y.toNat * 4)]
  | x :: y :: z :: rest =>
      sextet (x.toNat / 4) :: sextet (x.toNat * 16 + y.toNat / 16) ::
        sextet (y.toNat * 4 + z.toNat / 64) :: sextet z.toNat :: digits rest

def firstByte (a b : Fin 64) : UInt8 := UInt8.ofNat (a.val * 4 + b.val / 16)

def secondByte (b c : Fin 64) : UInt8 := UInt8.ofNat (b.val * 16 + c.val / 4)

def thirdByte (c d : Fin 64) : UInt8 := UInt8.ofNat (c.val * 64 + d.val)

-- The bits left over at the end must be zero.
def ofDigits : List (Fin 64) → Option Bytes
  | [] => some []
  | [_] => none
  | [a, b] => if b.val % 16 = 0 then some [firstByte a b] else none
  | [a, b, c] => if c.val % 4 = 0 then some [firstByte a b, secondByte b c] else none
  | a :: b :: c :: d :: rest =>
      (ofDigits rest).map fun bs => firstByte a b :: secondByte b c :: thirdByte c d :: bs

def encode (a : Alphabet) (bs : Bytes) : List Char := (digits bs).map a.char

def decode (a : Alphabet) (cs : List Char) : Option Bytes := (cs.mapM a.digit?).bind ofDigits

end CityGuide.Crypto.Base64
