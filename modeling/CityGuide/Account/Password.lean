import CityGuide.Crypto.Argon2
import CityGuide.Crypto.Base64
import CityGuide.Text.Blank
import CityGuide.Text.Digits

namespace CityGuide.Password

open Crypto Text

structure Hash where
  params : Argon2.Params
  salt : Bytes
  tag : Bytes
  deriving DecidableEq, Repr

abbrev Salt := Vector UInt8 16

def isNameChar (c : Char) : Bool :=
  ('a' ≤ c && c ≤ 'z') || ('0' ≤ c && c ≤ '9') || c = '-'

def isValueChar (c : Char) : Bool :=
  ('a' ≤ c && c ≤ 'z') || ('A' ≤ c && c ≤ 'Z') || ('0' ≤ c && c ≤ '9') ||
    c = '/' || c = '+' || c = '.' || c = '-'

def isName (cs : List Char) : Bool := 1 ≤ cs.length && cs.length ≤ 32 && cs.all isNameChar

def isValue (cs : List Char) : Bool := cs.length ≤ 64 && cs.all isValueChar

def number? (cs : List Char) : Option Nat :=
  match cs with
  | '0' :: _ :: _ => none
  | cs => (nat? cs).filter (· ≤ maxWord 32)

def bytes? (fewest most : Nat) (cs : List Char) : Option Bytes :=
  (Base64.decode .standard cs).filter fun bs => fewest ≤ bs.length ∧ bs.length ≤ most

def pair? (cs : List Char) : Option (List Char × List Char) :=
  match splitOn '=' cs with
  | [name, value] => if isName name && isValue value then some (name, value) else none
  | _ => none

def pairs? (cs : List Char) : Option (List (List Char × List Char)) :=
  if cs.length ≤ 127 then (splitOn ',' cs).mapM pair? else none

def variant? (cs : List Char) : Option Argon2.Variant :=
  if cs = "argon2d".toList then some .d
  else if cs = "argon2i".toList then some .i
  else if cs = "argon2id".toList then some .id
  else none

def version? : Option Nat → Option Argon2.Version
  | none => some .v19
  | some 16 => some .v16
  | some 19 => some .v19
  | some _ => none

def setParam (p : Argon2.Params) (pair : List Char × List Char) : Option Argon2.Params :=
  match pair with
  | (['m'], value) => (number? value).map fun n => { p with memory := n }
  | (['t'], value) => (number? value).map fun n => { p with passes := n }
  | (['p'], value) => (number? value).map fun n => { p with lanes := n }
  | (name, value) =>
      if name = "keyid".toList then (bytes? 0 8 value).map fun _ => p
      else if name = "data".toList then
        (bytes? 0 32 value).map fun bs => { p with associated := bs }
      else none

def defaults (variant : Argon2.Variant) (version : Argon2.Version) : Argon2.Params :=
  ⟨variant, version, 19456, 2, 1, []⟩

def takeVersion : List (List Char) → Option (Option Nat × List (List Char))
  | ('v' :: '=' :: cs) :: fields =>
      if cs.contains ',' then some (none, ('v' :: '=' :: cs) :: fields)
      else if isValue cs then (number? cs).map fun n => (some n, fields)
      else none
  | fields => some (none, fields)

def takePairs : List (List Char) → Option (List (List Char × List Char) × List (List Char))
  | cs :: fields =>
      if cs.contains '=' then (pairs? cs).map fun ps => (ps, fields) else some ([], cs :: fields)
  | [] => some ([], [])

def salt? (cs : List Char) : Option Bytes :=
  if 4 ≤ cs.length ∧ isValue cs then bytes? 8 64 cs else none

def Hash.ofText? (s : String) : Option Hash :=
  match splitOn '$' s.toList with
  | [] :: name :: fields => do
      let variant ← variant? name
      let (number, fields) ← takeVersion fields
      let version ← version? number
      let (pairs, fields) ← takePairs fields
      match fields with
      | [salt, tag] => do
          let salt ← salt? salt
          let tag ← bytes? 10 64 tag
          let params ← pairs.foldlM setParam (defaults variant version)
          if params.areSound then some ⟨params, salt, tag⟩ else none
      | _ => none
  | _ => none

def Hash.accepts (h : Hash) (password : String) : Bool :=
  Argon2.hash h.params h.tag.length (utf8 password) h.salt = h.tag

def verify (stored password : String) : Bool :=
  match Hash.ofText? stored with
  | some h => h.accepts password
  | none => false

def hash (salt : Salt) (password : String) : String :=
  let params := defaults .id .v19
  let tag := Argon2.hash params 32 (utf8 password) salt.toList
  String.ofList ("$argon2id$v=19$m=19456,t=2,p=1$".toList ++
    Base64.encode .standard salt.toList ++ '$' :: Base64.encode .standard tag)

end CityGuide.Password
