import CityGuide.Store.Program

namespace CityGuide.Store

/-- How many ticks of the timer have passed, from the arrival of a request on, when it was last
looked at before each step. -/
abbrev Pace := Nat → Nat

def Command.holds (held : Bool) : Command → Reply → Bool
  | .begin, .ok _ => true
  | .commit, .ok _ | .rollback, _ => false
  | _, _ => held

namespace Program

variable {α : Type}

def giveUp (held : Bool) : Program (Option α) :=
  if held then send .rollback fun _ => done none else done none

def inTime (limit ticks : Nat) (held : Bool) (p : Program (Option α)) : Program (Option α) :=
  if ticks ≤ limit then p else giveUp held

def within (limit : Nat) (pace : Pace) : Program α → Bool → Nat → Program (Option α)
  | done a, held, n => inTime limit (pace n) held (done (some a))
  | send c next, held, n => inTime limit (pace n) held <|
      send c fun r => (next r).within limit pace (c.holds held r) (n + 1)
  | freshId next, held, n => inTime limit (pace n) held <|
      freshId fun u => (next u).within limit pace held (n + 1)
  | freshSalt next, held, n => inTime limit (pace n) held <|
      freshSalt fun s => (next s).within limit pace held (n + 1)
  | clock next, held, n => inTime limit (pace n) held <|
      clock fun i => (next i).within limit pace held (n + 1)
  | crash, held, n => inTime limit (pace n) held crash

end Program

end CityGuide.Store
