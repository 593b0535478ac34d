import CityGuide.Json.Value
import CityGuide.Time.Instant
import CityGuide.Uuid

namespace CityGuide.Sql

inductive Kind where
  | uuid
  | uuids
  | text
  | int4
  | int8
  | float8
  | timestamp
  | json
  | word
  deriving DecidableEq, Repr

/-- A value bound to a statement; `word` is a row count or offset. -/
inductive Value where
  | uuid (u : Uuid)
  | uuids (us : List Uuid)
  | text (s : String)
  | int4 (n : Int)
  | int8 (n : Int)
  | float8 (x : Float)
  | timestamp (i : Time.Instant)
  | json (j : Json)
  | word (n : UInt64)
  | null (kind : Kind)

namespace Value

def kind : Value → Kind
  | uuid _ => .uuid
  | uuids _ => .uuids
  | text _ => .text
  | int4 _ => .int4
  | int8 _ => .int8
  | float8 _ => .float8
  | timestamp _ => .timestamp
  | json _ => .json
  | word _ => .word
  | null k => k

def opt {α : Type} (k : Kind) (f : α → Value) : Option α → Value
  | none => .null k
  | some a => f a

end Value

end CityGuide.Sql
