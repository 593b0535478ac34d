import CityGuide.Account.Password
import CityGuide.Sql.Statement
import CityGuide.Store.Failure
import CityGuide.Store.Row

namespace CityGuide.Store

structure Answer where
  rows : List Row
  affected : Nat

abbrev Reply := Except Failure Answer

inductive Command where
  | connect
  | begin
  | commit
  | rollback
  | run (s : Sql.Statement)
  | script (sql : String)

/-- What a program does: it sends commands and goes on with the replies, draws fresh identifiers
and salts, reads the clock, and ends with a value or breaks off. -/
inductive Program (α : Type) : Type where
  | done (a : α)
  | send (c : Command) (next : Reply → Program α)
  | freshId (next : Uuid → Program α)
  | freshSalt (next : Password.Salt → Program α)
  | clock (next : Time.Instant → Program α)
  | crash

namespace Program

variable {α β γ : Type}

def bind : Program α → (α → Program β) → Program β
  | done a, k => k a
  | send c next, k => send c fun r => (next r).bind k
  | freshId next, k => freshId fun u => (next u).bind k
  | freshSalt next, k => freshSalt fun s => (next s).bind k
  | clock next, k => clock fun i => (next i).bind k
  | crash, _ => crash

instance : Monad Program where
  pure := done
  bind := bind

theorem bind_done (p : Program α) : p.bind done = p := by
  induction p with
  | done a => rfl
  | send c next ih => simp only [bind, ih]
  | freshId next ih => simp only [bind, ih]
  | freshSalt next ih => simp only [bind, ih]
  | clock next ih => simp only [bind, ih]
  | crash => rfl

theorem bind_assoc (p : Program α) (f : α → Program β) (g : β → Program γ) :
    (p.bind f).bind g = p.bind fun a => (f a).bind g := by
  induction p with
  | done a => rfl
  | send c next ih => simp only [bind, ih]
  | freshId next ih => simp only [bind, ih]
  | freshSalt next ih => simp only [bind, ih]
  | clock next ih => simp only [bind, ih]
  | crash => rfl

instance : LawfulMonad Program :=
  LawfulMonad.mk' Program bind_done (fun _ _ => rfl) bind_assoc

end Program

abbrev Action (ε α : Type) := ExceptT ε Program α

namespace Action

variable {ε α β : Type}

def lift (p : Program α) : Action ε α := ExceptT.lift p

def newId : Action ε Uuid := lift (.freshId .done)

def newSalt : Action ε Password.Salt := lift (.freshSalt .done)

def now : Action ε Time.Instant := lift (.clock .done)

def crash : Action ε α := lift .crash

def ofExcept (r : Except ε α) : Action ε α := ExceptT.mk (.done r)

def send (c : Command) : Action Failure Answer := ExceptT.mk (.send c .done)

def run (s : Sql.Statement) : Action Failure Answer := send (.run s)

def mapError {ε' : Type} (f : ε → ε') (a : Action ε α) : Action ε' α :=
  ExceptT.mk ((ExceptT.run a).bind fun r => .done (r.mapError f))

def decoded (o : Option α) : Action Failure α :=
  match o with
  | some a => ofExcept (.ok a)
  | none => ofExcept (.error .undecodable)

def all (s : Sql.Statement) (read : Row → Option α) : Action Failure (List α) := do
  let answer ← run s
  decoded (answer.rows.mapM read)

def optional (s : Sql.Statement) (read : Row → Option α) : Action Failure (Option α) := do
  let answer ← run s
  match answer.rows with
  | [] => ofExcept (.ok none)
  | row :: _ => do
      let a ← decoded (read row)
      ofExcept (.ok (some a))

def one (s : Sql.Statement) (read : Row → Option α) : Action Failure α := do
  match ← optional s read with
  | some a => ofExcept (.ok a)
  | none => ofExcept (.error .noRow)

def affected (s : Sql.Statement) : Action Failure Nat := do
  let answer ← run s
  ofExcept (.ok answer.affected)

def touched (s : Sql.Statement) : Action Failure Bool := do
  let n ← affected s
  ofExcept (.ok (n > 0))

def abandon : Action Failure Unit := lift (.send .rollback fun _ => .done ())

-- Everything or nothing: a body that fails or finds no row leaves no trace, and neither does a
-- commit that fails.
def transaction (body : Action Failure (Option α)) : Action Failure (Option α) := do
  let _ ← send .begin
  match ← lift (ExceptT.run body) with
  | .error e => do
      abandon
      ofExcept (.error e)
  | .ok none => do
      abandon
      ofExcept (.ok none)
  | .ok (some a) => do
      match ← lift (ExceptT.run (send .commit)) with
      | .error e => do
          abandon
          ofExcept (.error e)
      | .ok _ => ofExcept (.ok (some a))

end Action

end CityGuide.Store
