namespace CityGuide

inductive Json where
  | null
  | bool (b : Bool)
  | int (n : Int)
  | float (x : Float)
  | text (s : String)
  | list (items : List Json)
  | record (members : List (String × Json))
  deriving Inhabited

namespace Json

def opt {α : Type} (encode : α → Json) : Option α → Json
  | none => .null
  | some a => encode a

def many {α : Type} (encode : α → Json) (xs : List α) : Json := .list (xs.map encode)

def member? (j : Json) (key : String) : Option Json :=
  match j with
  | .record members => (members.find? (·.1 = key)).map (·.2)
  | _ => none

end Json

end CityGuide
