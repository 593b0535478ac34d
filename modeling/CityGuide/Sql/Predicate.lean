import CityGuide.Sql.Part

namespace CityGuide.Sql

structure Column where
  qualifier : String
  name : String
  deriving DecidableEq, Repr

def Column.sql (c : Column) : String := quoteName c.qualifier ++ "." ++ quoteName c.name

inductive Term where
  | equals (column : Column) (value : Value)
  | like (column : Column) (cast : Bool) (pattern : String)
  | never

abbrev Predicate := List (List Term)

namespace Term

def parts : Term → List Part
  | equals c v => [.text (c.sql ++ " = "), .value v]
  | like c false pattern => [.text (c.sql ++ " ILIKE "), .value (.text pattern)]
  | like c true pattern =>
      [.text ("CAST(" ++ c.sql ++ " AS TEXT) ILIKE "), .value (.text pattern)]
  | never => [.text "FALSE"]

def beside (t : Term) : List Part :=
  match t with
  | equals _ _ => t.parts
  | _ => Part.enclosed t.parts

end Term

namespace Predicate

def anyOf (ts : List Term) : List Part := Part.joined " OR " (ts.map Term.beside)

def conjunct (ts : List Term) : List Part :=
  match ts with
  | [t] => t.beside
  | ts => Part.enclosed (anyOf ts)

def parts : Predicate → List Part
  | [[t]] => t.parts
  | [ts] => anyOf ts
  | p => Part.joined " AND " (p.map conjunct)

def clause (p : Predicate) : List Part :=
  if p.isEmpty then [] else .text " WHERE " :: parts p

end Predicate

end CityGuide.Sql
