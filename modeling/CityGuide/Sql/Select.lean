import CityGuide.Sql.Predicate

namespace CityGuide.Sql

inductive Field where
  | everything
  | allOf (qualifier : String)
  | column (c : Column)
  | named (c : Column) (name : String)
  | raw (sql name : String)
  | count

namespace Field

def sql : Field → String
  | everything => "*"
  | allOf q => quoteName q ++ ".*"
  | column c => c.sql
  | named c name => c.sql ++ " AS " ++ quoteName name
  | raw s name => s ++ " AS " ++ quoteName name
  | count => "COUNT(*)"

end Field

structure Table where
  name : String
  called? : Option String
  deriving DecidableEq, Repr

namespace Table

def sql (t : Table) : String :=
  match t.called? with
  | none => quoteName t.name
  | some a => quoteName t.name ++ " AS " ++ quoteName a

def qualifier (t : Table) : String := t.called?.getD t.name

end Table

inductive JoinKind where
  | inner
  | left
  deriving DecidableEq, Repr

structure Join where
  kind : JoinKind
  table : Table
  column : Column
  equals : Column
  deriving DecidableEq, Repr

namespace Join

def sql (j : Join) : String :=
  (match j.kind with | .inner => " INNER JOIN " | .left => " LEFT JOIN ") ++
    j.table.sql ++ " ON " ++ j.column.sql ++ " = " ++ j.equals.sql

end Join

inductive Direction where
  | asc
  | desc
  deriving DecidableEq, Repr

def Direction.sql : Direction → String
  | asc => "ASC"
  | desc => "DESC"

structure Window where
  limit : UInt64
  offset : UInt64
  deriving DecidableEq, Repr

structure Select where
  fields : List Field
  table : Table
  joins : List Join
  condition : Predicate
  groups : List Column
  order : List (Column × Direction)
  window : Option Window

namespace Select

def fieldParts (s : Select) : List Part :=
  [.text ("SELECT " ++ ", ".intercalate (s.fields.map Field.sql) ++ " FROM " ++ s.table.sql),
    .text (String.join (s.joins.map Join.sql))]

def groupParts (s : Select) : List Part :=
  if s.groups.isEmpty then []
  else [.text (" GROUP BY " ++ ", ".intercalate (s.groups.map Column.sql))]

def orderParts (s : Select) : List Part :=
  if s.order.isEmpty then []
  else [.text (" ORDER BY " ++
    ", ".intercalate (s.order.map fun (c, d) => c.sql ++ " " ++ d.sql))]

def windowParts (s : Select) : List Part :=
  match s.window with
  | none => []
  | some w => [.text " LIMIT ", .value (.word w.limit), .text " OFFSET ", .value (.word w.offset)]

def parts (s : Select) : List Part :=
  s.fieldParts ++ s.condition.clause ++ s.groupParts ++ s.orderParts ++ s.windowParts

end Select

end CityGuide.Sql
