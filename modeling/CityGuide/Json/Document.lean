import CityGuide.Json.Token
import CityGuide.Json.Value

namespace CityGuide.Json

/-- A value as far as it can be read: `broken` stands where reading had to stop, so that nothing
follows it in reading order. -/
inductive Document where
  | null
  | bool (b : Bool)
  | number (n : Option Number)
  | text (s : Option String)
  | list (items : List Document)
  | record (members : List (Option String × Document))
  | broken
  deriving Inhabited

namespace Document

mutual

def ofValue : Json → Document
  | .null => .null
  | .bool b => .bool b
  | .int n => .number (some (.int n))
  | .float x => .number (some (.float x))
  | .text s => .text (some s)
  | .list items => .list (ofValues items)
  | .record members => .record (ofMembers members)

def ofValues : List Json → List Document
  | [] => []
  | j :: js => ofValue j :: ofValues js

def ofMembers : List (String × Json) → List (Option String × Document)
  | [] => []
  | (key, j) :: ms => (some key, ofValue j) :: ofMembers ms

end

mutual

def read : Nat → List Token → Document × List Token
  | 0, _ => (.broken, [])
  | _, [] => (.broken, [])
  | n + 1, t :: ts =>
      match t with
      | .null => (.null, ts)
      | .bool b => (.bool b, ts)
      | .number x => (.number x, ts)
      | .text s => (.text s, ts)
      | .openList =>
          match ts with
          | .closeList :: ts => (.list [], ts)
          | ts =>
              let (items, rest) := readItems n ts
              (.list items, rest)
      | .openRecord =>
          match ts with
          | .closeRecord :: ts => (.record [], ts)
          | ts =>
              let (members, rest) := readMembers n ts
              (.record members, rest)
      | .closeList | .closeRecord | .comma | .colon | .bad => (.broken, [])

def readItems : Nat → List Token → List Document × List Token
  | 0, _ => ([.broken], [])
  | n + 1, ts =>
      let (item, rest) := read n ts
      match rest with
      | .closeList :: rest => ([item], rest)
      | .comma :: rest =>
          let (items, rest) := readItems n rest
          (item :: items, rest)
      | _ => ([item, .broken], [])

def readMembers : Nat → List Token → List (Option String × Document) × List Token
  | 0, _ => ([(none, .broken)], [])
  | n + 1, .text key :: .colon :: ts =>
      let (value, rest) := read n ts
      match rest with
      | .closeRecord :: rest => ([(key, value)], rest)
      | .comma :: rest =>
          let (members, rest) := readMembers n rest
          ((key, value) :: members, rest)
      | _ => ([(key, value), (none, .broken)], [])
  | _, .text key :: _ => ([(key, .broken)], [])
  | _, _ => ([(none, .broken)], [])

end

-- Nesting takes two steps a level, a following item one.
def ofTokens (ts : List Token) : Document × List Token := read (2 * ts.length + 1) ts

def ofChars (cs : List Char) : Document × Bool :=
  let (d, rest) := ofTokens (tokens cs)
  (d, rest.isEmpty)

mutual

def toValue? : Document → Option Json
  | .null => some .null
  | .bool b => some (.bool b)
  | .number (some (.int n)) => some (.int n)
  | .number (some (.float x)) => some (.float x)
  | .text (some s) => some (.text s)
  | .list items => (toValues? items).map .list
  | .record members => (toMembers? members).map .record
  | .number none | .text none | .broken => none

def toValues? : List Document → Option (List Json)
  | [] => some []
  | d :: ds => do
      let j ← toValue? d
      let js ← toValues? ds
      some (j :: js)

def toMembers? : List (Option String × Document) → Option (List (String × Json))
  | [] => some []
  | (key, d) :: ms => do
      let key ← key
      let j ← toValue? d
      let ms ← toMembers? ms
      some (if ms.any (·.1 = key) then ms else (key, j) :: ms)

end

end Document

def parse? (s : String) : Option Json :=
  match Document.ofChars s.toList with
  | (d, true) => d.toValue?
  | _ => none

end CityGuide.Json
