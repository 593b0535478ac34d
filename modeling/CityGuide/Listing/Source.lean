import CityGuide.Listing.Filter
import CityGuide.Text.Blank
import CityGuide.Text.Digits
import CityGuide.Time.Rfc3339

namespace CityGuide.Listing

open Sql

inductive ColumnKind where
  | text
  | uuid
  | integer
  | timestamp
  deriving DecidableEq, Repr

structure ListColumn where
  name : String
  kind : ColumnKind
  qualifier? : Option String := none
  deriving DecidableEq, Repr

structure ListJoin where
  table : String
  called : String
  column : String
  references : Column
  deriving DecidableEq, Repr

structure Source where
  table : String
  called? : Option String
  joins : List ListJoin
  columns : List ListColumn
  deriving DecidableEq, Repr

inductive Unknown where
  | filterColumn (table column : String)
  | sortColumn (table column : String)
  deriving DecidableEq, Repr

def Unknown.message : Unknown → String
  | filterColumn table column => "unknown filter column '" ++ column ++ "' on " ++ table
  | sortColumn table column => "unknown sort column '" ++ column ++ "' on " ++ table

def ColumnKind.value? (kind : ColumnKind) (s : String) : Option Value :=
  match kind with
  | .text => if s.toList.any (·.toNat = 0) then none else some (.text s)
  | .uuid => (Uuid.ofText? s).map .uuid
  | .integer => (Text.signed? 64 s.toList).map .int8
  | .timestamp => (Time.Rfc3339.read? .exact s).map .timestamp

def likeEscaped (c : Char) : List Char :=
  if c = '\\' ∨ c = '%' ∨ c = '_' then ['\\', c] else [c]

def withoutNul (cs : List Char) : List Char := cs.filter (·.toNat ≠ 0)

def likePattern (value : List Char) : List Char :=
  '%' :: ((withoutNul value).flatMap likeEscaped ++ ['%'])

namespace Source

def qualifier (s : Source) : String := s.called?.getD s.table

def column? (s : Source) (name : String) : Option ListColumn :=
  s.columns.find? (·.name = name)

def reference (s : Source) (c : ListColumn) : Column := ⟨c.qualifier?.getD s.qualifier, c.name⟩

def equality (s : Source) (c : ListColumn) (value : String) : Term :=
  match c.kind.value? value with
  | some v => .equals (s.reference c) v
  | none => .never

def searching (s : Source) (c : ListColumn) (value : String) : Term :=
  .like (s.reference c) (c.kind ≠ .text) (String.ofList (likePattern value.toList))

def resolve (s : Source) : List Filter → Except Unknown (List (Filter × ListColumn))
  | [] => .ok []
  | f :: fs =>
      if f.isSkipped then resolve s fs
      else
        match s.column? f.column with
        | none => .error (.filterColumn s.table f.column)
        | some c => (resolve s fs).map ((f, c) :: ·)

def sameSearch (value : String) (f : Filter × ListColumn) : Bool :=
  f.1.kind = .search && f.1.value = value

def alternatives (value : String) (fs : List (Filter × ListColumn)) : List (Filter × ListColumn) :=
  fs.filter (sameSearch value)

def others (value : String) (fs : List (Filter × ListColumn)) : List (Filter × ListColumn) :=
  fs.filter fun f => !sameSearch value f

theorem others_length (value : String) (fs : List (Filter × ListColumn)) :
    (others value fs).length ≤ fs.length := List.length_filter_le _ fs

def conjuncts (s : Source) : List (Filter × ListColumn) → Predicate
  | [] => []
  | (f, c) :: fs =>
      match f.kind with
      | .eq => [s.equality c f.value] :: conjuncts s fs
      | .search =>
          (s.searching c f.value ::
            (alternatives f.value fs).map fun (g, d) => s.searching d g.value) ::
          conjuncts s (others f.value fs)
termination_by fs => fs.length
decreasing_by
  · exact Nat.lt_succ_self _
  · exact Nat.lt_succ_of_le (others_length _ _)

def predicate (s : Source) (fs : List Filter) : Except Unknown Predicate :=
  (s.resolve fs).map s.conjuncts

def sorts (s : Source) (keys : List OrderKey) : Except Unknown (List (Column × Direction)) :=
  keys.mapM fun k =>
    match s.column? k.column with
    | none => .error (.sortColumn s.table k.column)
    | some c => .ok (s.reference c, k.direction)

def innerJoins (s : Source) : List Join :=
  s.joins.map fun j => ⟨.inner, ⟨j.table, some j.called⟩, ⟨j.called, j.column⟩, j.references⟩

def select (s : Source) (fields : List Field) : Select where
  fields := fields
  table := ⟨s.table, s.called?⟩
  joins := s.innerJoins
  condition := []
  groups := []
  order := []
  window := none

def countOf (s : Source) (p : Predicate) : Select := { s.select [.count] with condition := p }

end Source

structure Compiled where
  fetch : Select
  count : Select

def Source.compile (s : Source) (base : Select) (r : Request) : Except Unknown Compiled := do
  let p ← s.predicate r.filters
  let order ← s.sorts r.order
  .ok {
    fetch := { base with condition := p, order := order, window := some r.window }
    count := s.countOf p }

end CityGuide.Listing
