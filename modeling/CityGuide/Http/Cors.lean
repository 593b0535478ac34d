import CityGuide.Config
import CityGuide.Http.Message

namespace CityGuide.Http

inductive Cors where
  | anyone
  | only (origins : List String)
  deriving DecidableEq, Repr

namespace Cors

def isHeaderValue (s : String) : Bool :=
  s.toList.all fun c => (32 ≤ c.toNat && c.toNat ≠ 127) || c = '\t'

/-- A lone wildcard admits everyone. Of a list, what no header can hold is left out; a wildcard
among others is not allowed. -/
def ofOrigins (origins : List String) : Option Cors :=
  if origins = [Config.wildcard] then some .anyone
  else
    let usable := origins.filter isHeaderValue
    if usable.contains Config.wildcard then none else some (.only usable)

def allowedOrigin (c : Cors) (origin : Option String) : Option String :=
  match c with
  | anyone => some Config.wildcard
  | only origins => origin.filter origins.contains

def methods : String := "GET,POST,PUT,DELETE,OPTIONS"

def allowOrigin (c : Cors) (request : Request) (response : Response) : Response :=
  match c.allowedOrigin (request.header? "origin") with
  | some origin => response.withHeader "access-control-allow-origin" origin
  | none => response

def preflight (c : Cors) (request : Request) : Response :=
  ((c.allowOrigin request (.bare 200)).withHeader "access-control-allow-methods" methods).withHeader
    "access-control-allow-headers" Config.wildcard

end Cors

end CityGuide.Http
