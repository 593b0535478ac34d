import CityGuide.Json.Decode

namespace CityGuide.Store

/-- A stored value of one column; `garbled` is one that its column's type does not admit. -/
inductive Cell where
  | null
  | uuid (u : Uuid)
  | text (s : String)
  | int4 (n : Int)
  | int8 (n : Int)
  | float8 (x : Float)
  | timestamp (i : Time.Instant)
  | json (j : Json)
  | garbled

abbrev Row := List (String × Cell)

namespace Row

abbrev Reader (α : Type) := Cell → Option α

def uuid : Reader Uuid
  | .uuid u => some u
  | _ => none

def text : Reader String
  | .text s => some s
  | _ => none

def int4 : Reader Int
  | .int4 n => some n
  | _ => none

def int8 : Reader Int
  | .int8 n => some n
  | _ => none

def float8 : Reader Float
  | .float8 x => some x
  | _ => none

def timestamp : Reader Time.Instant
  | .timestamp i => some i
  | _ => none

def json {α : Type} (dec : Json.Decoder α) : Reader α
  | .json j => Json.decodeValue? dec j
  | _ => none

def nullable {α : Type} (r : Reader α) : Reader (Option α)
  | .null => some none
  | c => (r c).map some

def get {α : Type} (row : Row) (column : String) (r : Reader α) : Option α :=
  (row.find? (·.1 = column)).bind fun (_, c) => r c

def first {α : Type} (row : Row) (r : Reader α) : Option α := row.head?.bind fun (_, c) => r c

end Row

end CityGuide.Store
