import CityGuide.Json.Value

namespace CityGuide.Http

inductive Method where
  | get
  | head
  | post
  | put
  | delete
  | options
  | other (name : String)
  deriving DecidableEq, Repr

namespace Method

def ofName : String → Method
  | "GET" => get
  | "HEAD" => head
  | "POST" => post
  | "PUT" => put
  | "DELETE" => delete
  | "OPTIONS" => options
  | name => other name

def name : Method → String
  | get => "GET"
  | head => "HEAD"
  | post => "POST"
  | put => "PUT"
  | delete => "DELETE"
  | options => "OPTIONS"
  | other name => name

end Method

inductive Content where
  | whole (text : String)
  | overlong
  deriving DecidableEq, Repr

namespace Content

-- No route sets a limit of its own: this is what the web framework allows.
def maxBytes : Nat := 2097152

def ofText (text : String) : Content :=
  if text.utf8ByteSize ≤ maxBytes then whole text else overlong

instance : Coe String Content := ⟨whole⟩

end Content

structure Request where
  method : Method
  target : String
  headers : List (String × String)
  body : Content
  deriving DecidableEq, Repr

def isHeaderChar (c : Char) : Bool := (32 ≤ c.toNat && c.toNat < 127) || c = '\t'

namespace Request

def header? (r : Request) (name : String) : Option String :=
  (r.headers.find? (·.1 = name)).map (·.2)

def headerText? (r : Request) (name : String) : Option String :=
  (r.header? name).filter fun s => s.toList.all isHeaderChar

end Request

inductive Body where
  | empty
  | json (j : Json)
  | note

structure Response where
  status : Nat
  headers : List (String × String)
  body : Body

namespace Response

def json (status : Nat) (j : Json) : Response := ⟨status, [], .json j⟩

def note (status : Nat) : Response := ⟨status, [], .note⟩

def bare (status : Nat) : Response := ⟨status, [], .empty⟩

def header? (r : Response) (name : String) : Option String :=
  (r.headers.find? (·.1 = name)).map (·.2)

def withHeader (r : Response) (name value : String) : Response :=
  { r with headers := r.headers ++ [(name, value)] }

def withDefault (r : Response) (name value : String) : Response :=
  if (r.header? name).isSome then r else r.withHeader name value

end Response

end CityGuide.Http
