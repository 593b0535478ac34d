namespace CityGuide.Store

inductive Violation where
  | unique
  | foreignKey
  | check
  | other
  deriving DecidableEq, Repr

def Violation.ofCode : String → Violation
  | "23505" => unique
  | "23503" => foreignKey
  | "23514" => check
  | _ => other

inductive Failure where
  | refused (code : String)
  | noRow
  | undecodable
  | unreachable (why : String)
  deriving DecidableEq, Repr

namespace Failure

def violation : Failure → Violation
  | refused code => .ofCode code
  | noRow | undecodable | unreachable _ => .other

def messages : Failure → List String
  | refused code => ["error returned from database: " ++ code]
  | noRow => ["no rows returned by a query that expected to return at least one row"]
  | undecodable => ["error occurred while decoding a column"]
  | unreachable why => ["error communicating with database: " ++ why, why]

end Failure

structure Trouble where
  doing : List String
  failure : Failure
  deriving DecidableEq, Repr

namespace Trouble

def within (what : String) (t : Trouble) : Trouble := { t with doing := what :: t.doing }

def chain (t : Trouble) : List String := t.doing ++ t.failure.messages

def outermost (t : Trouble) : String := t.chain.headD ""

def text (t : Trouble) : String := ": ".intercalate t.chain

end Trouble

end CityGuide.Store
