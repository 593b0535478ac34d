import CityGuide.Json.Document
import CityGuide.Uuid
import CityGuide.Time.Rfc3339

namespace CityGuide.Json

inductive Flaw where
  | malformed
  | mismatched
  deriving DecidableEq, Repr

abbrev Reading := Except Flaw

abbrev Decoder (α : Type) := Document → Reading α

namespace Decode

def misfit : Document → Flaw
  | .broken | .number none | .text none => .malformed
  | _ => .mismatched

mutual

def ignore : Document → Reading Unit
  | .broken => .error .malformed
  | .list items => ignoreItems items
  | .record members => ignoreMembers members
  | .null | .bool _ | .number _ | .text _ => .ok ()

def ignoreItems : List Document → Reading Unit
  | [] => .ok ()
  | d :: ds => do
      ignore d
      ignoreItems ds

def ignoreMembers : List (Option String × Document) → Reading Unit
  | [] => .ok ()
  | (_, d) :: ms => do
      ignore d
      ignoreMembers ms

end

def accept {α : Type} (o : Option α) : Reading α :=
  match o with
  | some a => .ok a
  | none => .error .mismatched

def text : Decoder String
  | .text (some s) => .ok s
  | d => .error (misfit d)

def bool : Decoder Bool
  | .bool b => .ok b
  | d => .error (misfit d)

def whole (low high : Int) : Decoder Int
  | .number (some (.int n)) => if low ≤ n ∧ n ≤ high then .ok n else .error .mismatched
  | d => .error (misfit d)

def word (bits : Nat) : Decoder Nat := fun d =>
  (whole 0 (Text.maxWord bits) d).map Int.toNat

def signedWord (bits : Nat) : Decoder Int :=
  whole (-(Text.maxWord (bits - 1) : Int) - 1) (Text.maxWord (bits - 1))

def ofWord (n : Int) : Float :=
  let x := n.natAbs.toUInt64.toFloat
  if n < 0 then -x else x

def float : Decoder Float
  | .number (some (.int n)) => .ok (ofWord n)
  | .number (some (.float x)) => .ok x
  | d => .error (misfit d)

def uuid : Decoder Uuid := fun d => text d >>= fun s => accept (Uuid.ofText? s)

def instant : Decoder Time.Instant := fun d =>
  text d >>= fun s => accept (Time.Rfc3339.read? .relaxed s)

def opt {α : Type} (dec : Decoder α) : Decoder (Option α)
  | .null => .ok none
  | d => (dec d).map some

def list {α : Type} (dec : Decoder α) : Decoder (List α)
  | .list items => items.mapM dec
  | d => .error (misfit d)

def choice {α : Type} (pick : String → Option α) : Decoder α
  | .text (some s) => accept (pick s)
  | .record ((some key, d) :: more) => do
      let a ← accept (pick key)
      match d, more with
      | .null, [] => .ok a
      | .null, _ => .error .malformed
      | d, _ => .error (misfit d)
  | .list _ | .null | .bool _ | .number _ | .text none | .record _ | .broken => .error .malformed

end Decode

inductive Absent (α : Type) where
  | refused
  | inRecord (a : α)
  | anywhere (a : α)

structure Shape (α : Type) where
  checks : List (String × (Document → Reading Unit))
  fromMembers : List (Option String × Document) → Reading α
  fromItems : List Document → Reading (α × List Document)

namespace Shape

variable {α β : Type}

def pure (a : α) : Shape α := ⟨[], fun _ => .ok a, fun ds => .ok (a, ds)⟩

def seq (f : Shape (α → β)) (x : Unit → Shape α) : Shape β where
  checks := f.checks ++ (x ()).checks
  fromMembers ms := do
    let g ← f.fromMembers ms
    let a ← (x ()).fromMembers ms
    .ok (g a)
  fromItems ds := do
    let (g, ds) ← f.fromItems ds
    let (a, ds) ← (x ()).fromItems ds
    .ok (g a, ds)

instance : Applicative Shape where
  pure := pure
  seq := seq

def field (key : String) (absent : Absent α) (dec : Decoder α) : Shape α where
  checks := [(key, fun d => (dec d).map fun _ => ())]
  fromMembers ms :=
    match ms.find? (·.1 = some key), absent with
    | some (_, d), _ => dec d
    | none, .refused => .error .mismatched
    | none, .inRecord a | none, .anywhere a => .ok a
  fromItems
    | d :: ds => (dec d).map fun a => (a, ds)
    | [] =>
        match absent with
        | .anywhere a => .ok (a, [])
        | _ => .error .mismatched

def required (key : String) (dec : Decoder α) : Shape α := field key .refused dec

def optional (key : String) (dec : Decoder α) : Shape (Option α) :=
  field key (.inRecord none) (Decode.opt dec)

def defaulted (key : String) (a : α) (dec : Decoder α) : Shape α := field key (.anywhere a) dec

def check (checks : List (String × (Document → Reading Unit))) :
    List String → List (Option String × Document) → Reading Unit
  | _, [] => .ok ()
  | _, (none, _) :: _ => .error .malformed
  | seen, (some key, d) :: ms =>
      match checks.find? (·.1 = key) with
      | none => do
          Decode.ignore d
          check checks seen ms
      | some (_, test) =>
          if seen.contains key then .error .mismatched
          else do
            test d
            check checks (key :: seen) ms

def decode (s : Shape α) : Decoder α
  | .record ms => do
      check s.checks [] ms
      s.fromMembers ms
  | .list ds => do
      let (a, rest) ← s.fromItems ds
      if rest.isEmpty then .ok a else .error .malformed
  | d => .error (Decode.misfit d)

end Shape

def decodeChars {α : Type} (dec : Decoder α) (cs : List Char) : Reading α := do
  let (d, ended) := Document.ofChars cs
  let a ← dec d
  if ended then .ok a else .error .malformed

def decodeText {α : Type} (dec : Decoder α) (s : String) : Reading α := decodeChars dec s.toList

def decodeValue? {α : Type} (dec : Decoder α) (j : Json) : Option α :=
  (dec (.ofValue j)).toOption

end CityGuide.Json
