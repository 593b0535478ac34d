import CityGuide.Crypto.Bytes

namespace CityGuide.Text

open Crypto (Bytes)

def following (lead : UInt8) : Nat :=
  if 0xC2 ≤ lead ∧ lead < 0xE0 then 1
  else if 0xE0 ≤ lead ∧ lead < 0xF0 then 2
  else if 0xF0 ≤ lead ∧ lead < 0xF5 then 3
  else 0

def isFollowing (b : UInt8) : Bool := 0x80 ≤ b && b < 0xC0

-- The second byte may not lead to a shorter form, a surrogate, or beyond the last character.
def isSecond (lead b : UInt8) : Bool :=
  isFollowing b && !(lead = 0xE0 && b < 0xA0) && !(lead = 0xED && 0xA0 ≤ b) &&
    !(lead = 0xF0 && b < 0x90) && !(lead = 0xF4 && 0x90 ≤ b)

def continuation (lead : UInt8) : Bytes → Bytes
  | [] => []
  | b :: rest =>
      if following lead ≠ 0 ∧ isSecond lead b then
        b :: (rest.take (following lead - 1)).takeWhile isFollowing
      else []

def leadBits (lead : UInt8) : Nat :=
  match following lead with
  | 1 => lead.toNat % 32
  | 2 => lead.toNat % 16
  | _ => lead.toNat % 8

def scalar (lead : UInt8) (more : Bytes) : Char :=
  Char.ofNat (more.foldl (fun n b => n * 64 + b.toNat % 64) (leadBits lead))

def utf8Chars (bs : Bytes) : List (Option Char) :=
  match bs with
  | [] => []
  | b :: rest =>
      if b < 0x80 then some (Char.ofNat b.toNat) :: utf8Chars rest
      else
        let more := continuation b rest
        let c := if more.length = following b ∧ more ≠ [] then some (scalar b more) else none
        c :: utf8Chars (rest.drop more.length)
termination_by bs.length
decreasing_by
  · simp
  · simp only [List.length_cons, List.length_drop]; omega

def wellFormed? (bs : Bytes) : Option String :=
  ((utf8Chars bs).mapM id).map String.ofList

def lossy (bs : Bytes) : String :=
  String.ofList ((utf8Chars bs).map fun c => c.getD (Char.ofNat 0xFFFD))

def isBoundary (bs : Bytes) (i : Nat) : Bool :=
  i = 0 ||
    match bs[i]? with
    | some b => !isFollowing b
    | none => i = bs.length

def backTo? (bs : Bytes) (i : Nat) : Option Nat :=
  if isBoundary bs i then some i
  else
    match i with
    | 0 => none
    | i + 1 => backTo? bs i

def before? (bs : Bytes) (i : Nat) : Option String :=
  if isBoundary bs i then some (lossy (bs.take i)) else none

def truncated? (most : Nat) (s : String) : Option String :=
  if s.utf8ByteSize ≤ most then some s
  else (backTo? (Crypto.utf8 s) most).bind (before? (Crypto.utf8 s))

theorem isBoundary_zero (bs : Bytes) : isBoundary bs 0 = true := rfl

theorem isBoundary_of_backTo? {bs : Bytes} {i j : Nat} (h : backTo? bs i = some j) :
    isBoundary bs j = true := by
  induction i with
  | zero =>
      rw [backTo?, if_pos (isBoundary_zero bs)] at h
      exact Option.some.inj h ▸ isBoundary_zero bs
  | succ i ih =>
      rw [backTo?] at h
      split at h
      · next hcut => exact Option.some.inj h ▸ hcut
      · exact ih h

theorem isSome_backTo? (bs : Bytes) (i : Nat) : (backTo? bs i).isSome = true := by
  induction i with
  | zero => rw [backTo?, if_pos (isBoundary_zero bs), Option.isSome_some]
  | succ i ih =>
      rw [backTo?]
      split
      · rfl
      · exact ih

theorem isSome_truncated? (most : Nat) (s : String) : (truncated? most s).isSome = true := by
  rw [truncated?]
  split
  · rfl
  · obtain ⟨i, hi⟩ := Option.isSome_iff_exists.mp (isSome_backTo? (Crypto.utf8 s) most)
    rw [hi, Option.bind_some, before?, if_pos (isBoundary_of_backTo? hi), Option.isSome_some]

def truncated (most : Nat) (s : String) : String :=
  (truncated? most s).get (isSome_truncated? most s)

end CityGuide.Text
