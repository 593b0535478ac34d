import CityGuide.Store.Program

namespace CityGuide.Store

/-- A store that answers by a script: each statement takes the next reply, whatever it asks. -/
structure Scripted where
  unreachable? : Option String
  beginFails? : Option String
  commitFails? : Option String
  replies : List Reply
  ids : Nat → Uuid
  drawn : Nat
  salt : Password.Salt
  now : Time.Instant

def exhausted : Failure := .refused "58000"

namespace Scripted

def offline (why : String) : Scripted where
  unreachable? := some why
  beginFails? := none
  commitFails? := none
  replies := []
  ids := fun _ => .nil
  drawn := 0
  salt := Vector.replicate 16 0
  now := ⟨0, 0⟩

def noRows : Answer := ⟨[], 0⟩

def refusedBy (why? : Option String) : Reply :=
  match why? with
  | some code => .error (.refused code)
  | none => .ok noRows

def answer (s : Scripted) : Command → Reply × Scripted
  | .connect =>
      match s.unreachable? with
      | some why => (.error (.unreachable why), s)
      | none => (.ok noRows, s)
  | .begin => (refusedBy s.beginFails?, s)
  | .commit => (refusedBy s.commitFails?, s)
  | .rollback | .script _ => (.ok noRows, s)
  | .run _ =>
      match s.replies with
      | [] => (.error exhausted, s)
      | r :: rs => (r, { s with replies := rs })

end Scripted

structure Run (α : Type) where
  value? : Option α
  sent : List Command
  store : Scripted

def Run.after {α : Type} (c : Command) (r : Run α) : Run α := { r with sent := c :: r.sent }

def Program.runOn {α : Type} : Program α → Scripted → Run α
  | .done a, s => ⟨some a, [], s⟩
  | .send c next, s => ((next (s.answer c).1).runOn (s.answer c).2).after c
  | .freshId next, s => (next (s.ids s.drawn)).runOn { s with drawn := s.drawn + 1 }
  | .freshSalt next, s => (next s.salt).runOn s
  | .clock next, s => (next s.now).runOn s
  | .crash, s => ⟨none, [], s⟩

end CityGuide.Store
