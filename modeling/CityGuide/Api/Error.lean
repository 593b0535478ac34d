import CityGuide.Json.Value
import CityGuide.Listing.Source
import CityGuide.Store.Failure

namespace CityGuide.Api

inductive Error where
  | internal
  | database
  | query (u : Listing.Unknown)
  | notFound
  | unauthorized
  | forbidden (why : String)
  | badRequest (why : String)
  | conflict (why : String)
  deriving DecidableEq, Repr

namespace Error

def status : Error → Nat
  | internal | database => 500
  | query _ | badRequest _ => 400
  | notFound => 404
  | unauthorized => 401
  | forbidden _ => 403
  | conflict _ => 409

def text : Error → String
  | internal => "internal server error"
  | database => "database error"
  | query u => u.message
  | notFound => "not found"
  | unauthorized => "unauthorized"
  | forbidden why => "forbidden: " ++ why
  | badRequest why => "bad request: " ++ why
  | conflict why => "conflict: " ++ why

def message : Error → String
  | database => internal.text
  | e => e.text

def body (e : Error) : Json := .record [("error", .text e.message)]

def ofFailure (f : Store.Failure) : Error :=
  match f.violation with
  | .unique => conflict "resource already exists"
  | .foreignKey => badRequest "invalid reference to a related resource"
  | .check => badRequest "value out of allowed range"
  | .other => internal

theorem message_of_status (e : Error) (h : e.status = 500) :
    e.message = "internal server error" := by
  cases e with
  | internal | database => rfl
  | query _ | notFound | unauthorized | forbidden _ | badRequest _ | conflict _ =>
      simp [status] at h

end Error

abbrev Result (α : Type) := Except Error α

def found {α : Type} (o : Option α) : Result α :=
  match o with
  | some a => .ok a
  | none => .error .notFound

end CityGuide.Api
