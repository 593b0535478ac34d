import CityGuide.Operator.Task
import CityGuide.Store.Scripted

namespace CityGuide

def environment (names : List String) : IO Config.Environment := do
  let pairs ← names.mapM fun name => do
    let value ← IO.getEnv name
    pure (name, value)
  pure fun name => (pairs.find? (·.1 = name)).bind (·.2)

/-- This build speaks to no database, so that every task that needs one ends at the first step. -/
def noDatabase : String := "no database driver is built in"

def told (o : Operator.Outcome) : IO Unit :=
  match o with
  | .told w => IO.println w.text
  | .misused m => IO.eprintln ("error: " ++ m.message)
  | .failed f => IO.eprintln ("Error: " ++ f.message)
  | .finished | .listening _ _ => pure ()

end CityGuide

open CityGuide

def main (args : List String) : IO UInt32 := do
  let env ← environment (Operator.passwordVariable :: Config.variableNames)
  match ((Operator.call env args).runOn (Store.Scripted.offline noDatabase)).value? with
  | none => pure 101
  | some outcome => do
      told outcome
      pure (UInt32.ofNat outcome.exitCode)
