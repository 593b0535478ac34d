import CityGuide.Decimal.Text
import CityGuide.Text.Blank

namespace CityGuide

inductive Invalid where
  | blank (field : String)
  | userName
  | email (s : String)
  | shortPassword
  | status
  | rating
  | latitude (x : Float)
  | longitude (x : Float)
  | discount
  | expiry
  | window
  | noPath
  | longPath
  | contentType (s : String)

namespace Invalid

def message : Invalid → String
  | blank field => field ++ " must not be empty"
  | userName => "user_name must be non-empty and contain no whitespace"
  | email s => "email '" ++ s ++ "' is not valid"
  | shortPassword => "password must be at least 8 characters"
  | status => "status must be 'active' or 'blocked'"
  | rating => "rating must be between 1 and 5"
  | latitude x => "latitude " ++ Decimal.plainText x ++ " out of range"
  | longitude x => "longitude " ++ Decimal.plainText x ++ " out of range"
  | discount => "discount_percentage must be between 0 and 100"
  | expiry => "expires_at must be after started_at"
  | window => "ends_at must not be before starts_at"
  | noPath => "attachment filepath is empty"
  | longPath => "attachment filepath exceeds 1024 bytes"
  | contentType s => "attachment content_type '" ++ s ++ "' is not a MIME type"

end Invalid

abbrev Valid := Except Invalid Unit

def requireThat (holds : Bool) (why : Invalid) : Valid :=
  if holds then .ok () else .error why

def given {α : Type} (o : Option α) (check : α → Valid) : Valid :=
  match o with
  | none => .ok ()
  | some a => check a

theorem requireThat_eq_ok {b : Bool} {why : Invalid} : requireThat b why = .ok () ↔ b = true := by
  cases b <;> simp [requireThat]

def requireText (field s : String) : Valid := requireThat (!Text.isBlankText s) (.blank field)

end CityGuide
