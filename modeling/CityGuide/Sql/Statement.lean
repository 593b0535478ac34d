import CityGuide.Sql.Select

namespace CityGuide.Sql

inductive Naming where
  | plain
  | quoted
  deriving DecidableEq, Repr

def Naming.write : Naming → String → String
  | plain, s => s
  | quoted, s => quoteName s

inductive Ending where
  | nothing
  | returning
  | keepExisting
  | keepExistingOn (columns : List String)
  deriving DecidableEq, Repr

def Ending.sql : Ending → String
  | nothing => ""
  | returning => " RETURNING *"
  | keepExisting => " ON CONFLICT DO NOTHING"
  | keepExistingOn columns => " ON CONFLICT (" ++ ", ".intercalate columns ++ ") DO NOTHING"

abbrev Assignment := String × Value

def present (columns : List (String × Option Value)) : List Assignment :=
  columns.filterMap fun (column, v) => v.map fun v => (column, v)

inductive Statement where
  | select (s : Select)
  | find (table : String) (id : Uuid)
  | findByEmail (email : String)
  | activeSession (session user : Uuid)
  | probe
  | insert (table : String) (row : List Assignment) (ending : Ending)
  | insertAll (table : String) (columns : List String) (rows : List (List Value))
  | update (table : String) (changes : List Assignment) (id : Uuid)
  | markNotifications (status : String) (user : Uuid) (ids : Option (List Uuid))
  | delete (naming : Naming) (table : String) (keys : List Assignment)
  | purgeSessions

namespace Statement

def isWrite : Statement → Bool
  | select _ | find _ _ | findByEmail _ | activeSession _ _ | probe => false
  | insert _ _ _ | insertAll _ _ _ | update _ _ _ | markNotifications _ _ _ | delete _ _ _
  | purgeSessions => true

def tuple (vs : List Value) : List Part :=
  Part.enclosed (Part.joined ", " (vs.map fun v => [.value v]))

def setParts (changes : List Assignment) : List Part :=
  changes.flatMap fun (column, v) => [.text (quoteName column ++ " = "), .value v, .text ", "]

def keyParts (naming : Naming) (keys : List Assignment) : List Part :=
  Part.joined " AND " (keys.map fun (column, v) => [.text (naming.write column ++ " = "), .value v])

def parts : Statement → List Part
  | select s => s.parts
  | find table id => [.text ("SELECT * FROM " ++ table ++ " WHERE id = "), .value (.uuid id)]
  | findByEmail email =>
      [.text "SELECT * FROM users WHERE lower(email) = lower(", .value (.text email), .text ")"]
  | activeSession session user =>
      [.text "SELECT u.user_type FROM sessions s INNER JOIN users u ON u.id = s.user_id",
        .text " WHERE s.id = ",
        .value (.uuid session), .text " AND s.user_id = ", .value (.uuid user),
        .text " AND s.expires_at > now() AND u.status = 'active'"]
  | probe => [.text "SELECT 1"]
  | insert table row ending =>
      .text ("INSERT INTO " ++ table ++ " (" ++ ", ".intercalate (row.map (·.1)) ++ ") VALUES ") ::
        (tuple (row.map (·.2)) ++ [.text ending.sql])
  | insertAll table columns rows =>
      .text ("INSERT INTO " ++ quoteName table ++ " (" ++
        ", ".intercalate (columns.map quoteName) ++ ") VALUES ") ::
        Part.joined ", " (rows.map tuple)
  | update table changes id =>
      .text ("UPDATE " ++ quoteName table ++ " SET ") ::
        (setParts changes ++ [.text (quoteName "updated_at" ++ " = CURRENT_TIMESTAMP WHERE " ++
          quoteName "id" ++ " = "), .value (.uuid id), .text " RETURNING *"])
  | markNotifications status user ids =>
      [.text "UPDATE notifications SET status = ", .value (.text status),
        .text ", updated_at = now() WHERE user_id = ", .value (.uuid user),
        .text " AND status <> ", .again 1, .text " AND (", .value (.opt .uuids .uuids ids),
        .text "::uuid[] IS NULL OR id = ANY(", .again 3, .text "))"]
  | delete naming table keys =>
      .text ("DELETE FROM " ++ naming.write table ++ " WHERE ") :: keyParts naming keys
  | purgeSessions => [.text "DELETE FROM sessions WHERE expires_at <= now()"]

def prepared (s : Statement) : Prepared := Part.prepare s.parts

end Statement

end CityGuide.Sql
