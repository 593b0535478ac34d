import CityGuide.Time.Calendar

namespace CityGuide.Time

/-- Seconds since 1970 and nanoseconds; a leap second keeps the second before it and counts its
nanoseconds from a thousand million. -/
structure Instant where
  seconds : Int
  nanos : Nat
  deriving DecidableEq, Repr, Inhabited

namespace Instant

def secondsPerDay : Int := 86400

def nanosPerSecond : Nat := 1000000000

def earliest : Int := (⟨-262143, 1, 1⟩ : Date).toDays * secondsPerDay

def latest : Int := (⟨262142, 12, 31⟩ : Date).toDays * secondsPerDay + 86399

def isRepresentable (i : Instant) : Bool := earliest ≤ i.seconds && i.seconds ≤ latest

def day (i : Instant) : Int := i.seconds / secondsPerDay

def secondOfDay (i : Instant) : Int := i.seconds % secondsPerDay

def isBefore (a b : Instant) : Bool :=
  a.seconds < b.seconds || (a.seconds = b.seconds && a.nanos < b.nanos)

instance : LT Instant := ⟨fun a b => a.isBefore b = true⟩

instance (a b : Instant) : Decidable (a < b) := inferInstanceAs (Decidable (_ = true))

theorem lt_iff {a b : Instant} :
    a < b ↔ a.seconds < b.seconds ∨ (a.seconds = b.seconds ∧ a.nanos < b.nanos) := by
  show a.isBefore b = true ↔ _
  simp [isBefore]

-- Whole seconds later; a leap second left behind counts as the second it follows.
def plusSeconds (i : Instant) (n : Nat) : Option Instant :=
  let nanos := if n > 0 ∧ i.nanos ≥ nanosPerSecond then i.nanos - nanosPerSecond else i.nanos
  let later : Instant := ⟨i.seconds + n, nanos⟩
  if later.isRepresentable then some later else none

-- A leap second is counted when it lies between the two times of day.
def leapBetween (a b : Instant) : Int :=
  if b.secondOfDay < a.secondOfDay then (if b.nanos ≥ nanosPerSecond then 1 else 0)
  else if a.secondOfDay < b.secondOfDay then (if a.nanos ≥ nanosPerSecond then -1 else 0)
  else 0

def nanosSince (a b : Instant) : Int :=
  (a.seconds - b.seconds + leapBetween a b) * nanosPerSecond + ((a.nanos : Int) - b.nanos)

def secondsSince (a b : Instant) : Int := (nanosSince a b).tdiv nanosPerSecond

def storeEpoch : Instant := ⟨946684800, 0⟩

/-- The store keeps microseconds; the digits beyond are cut toward its epoch. -/
def storeMicros (i : Instant) : Int := (nanosSince i storeEpoch).tdiv 1000

def ofStoreMicros (n : Int) : Instant :=
  ⟨storeEpoch.seconds + n / 1000000, (n % 1000000).toNat * 1000⟩

def stored (i : Instant) : Instant := ofStoreMicros i.storeMicros

theorem leapBetween_storeEpoch (i : Instant) : leapBetween i storeEpoch = 0 := by
  have hmidnight : storeEpoch.secondOfDay = 0 := by decide
  have hlate : ¬ i.secondOfDay < storeEpoch.secondOfDay := by
    rw [hmidnight]
    exact Int.not_lt.mpr (Int.emod_nonneg _ (by decide))
  have hwhole : ¬ storeEpoch.nanos ≥ nanosPerSecond := by decide
  rw [leapBetween, if_neg hwhole, if_neg hlate, ite_self]

end Instant

end CityGuide.Time
