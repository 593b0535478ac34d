import CityGuide.Text.Blank

namespace CityGuide.Http.MediaType

def isTokenChar (c : Char) : Bool :=
  ('a' ≤ c && c ≤ 'z') || ('A' ≤ c && c ≤ 'Z') || ('0' ≤ c && c ≤ '9') ||
    "!#$%&'*+-.^_|~".toList.contains c || c = Char.ofNat 96

def isQuotedChar (c : Char) : Bool := c = '\t' || (32 ≤ c.toNat && c.toNat ≠ 127)

def afterQuoted : List Char → Option (List Char)
  | [] => none
  | '"' :: rest =>
      match rest.dropWhile (· = ' ') with
      | [] => some []
      | ';' :: rest => some rest
      | _ => none
  | '\\' :: c :: rest => if isQuotedChar c then afterQuoted rest else none
  | c :: rest => if isQuotedChar c && c ≠ '\\' then afterQuoted rest else none

def afterToken (cs : List Char) : Option (List Char) :=
  match cs.takeWhile isTokenChar, cs.dropWhile isTokenChar with
  | _, [] => some []
  | _ :: _, ';' :: rest => some rest
  | _, _ => none

def afterValue : List Char → Option (List Char)
  | '"' :: '"' :: _ => none
  | '"' :: cs => afterQuoted cs
  | cs => afterToken cs

def afterParameter (cs : List Char) : Option (List Char) :=
  let cs := cs.dropWhile (· = ' ')
  match cs.takeWhile isTokenChar, cs.dropWhile isTokenChar with
  | _ :: _, '=' :: rest => afterValue rest
  | _, _ => none

def areParameters : Nat → List Char → Bool
  | _, [] => true
  | 0, _ => false
  | n + 1, cs =>
      match afterParameter cs with
      | some rest => areParameters n rest
      | none => false

def lower (cs : List Char) : List Char := cs.map Char.toLower

def isJsonSubtype (cs : List Char) : Bool :=
  match Text.cutLast '+' cs with
  | some (c :: base, built) => lower (c :: base) = "json".toList || lower built = "json".toList
  | _ => lower cs = "json".toList

def isJson (s : String) : Bool :=
  match Text.cutOnce '/' s.toList with
  | none => false
  | some (kind, rest) =>
      let subtype := rest.takeWhile isTokenChar
      lower kind = "application".toList && isJsonSubtype subtype &&
        match rest.dropWhile isTokenChar with
        | [] => true
        | ';' :: more => areParameters more.length more
        | _ => false

example : isJson "application/json" = true := by decide
example : isJson "Application/vnd.api+JSON; charset=utf-8" = true := by decide
example : isJson "text/json" = false := by decide
example : isJson "application/json; " = false := by decide

end CityGuide.Http.MediaType
