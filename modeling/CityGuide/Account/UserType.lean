import CityGuide.Json.Decode

namespace CityGuide

inductive UserType where
  | admin
  | business
  | user
  deriving DecidableEq, Repr

namespace UserType

def name : UserType → String
  | admin => "admin"
  | business => "business"
  | user => "user"

def ofName? : String → Option UserType
  | "admin" => some admin
  | "business" => some business
  | "user" => some user
  | _ => none

def isAdmin (t : UserType) : Bool := t = admin

def toJson (t : UserType) : Json := .text t.name

def decode : Json.Decoder UserType := Json.Decode.choice ofName?

def unknownMessage (s : String) : String := "unknown user type '" ++ s ++ "'"

end UserType

end CityGuide
