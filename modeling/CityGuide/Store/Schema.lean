import CityGuide.Store.Program

namespace CityGuide.Store

inductive Check where
  | oneOf (column : String) (values : List String)
  | between (column : String) (low high : Int)
  | openOrNotBefore (last first : String)
  | after (later earlier : String)
  | apart (one other : String)
  deriving DecidableEq, Repr

def literal (s : String) : String := "'" ++ s ++ "'"

def listed (items : List String) : String := "(" ++ ", ".intercalate items ++ ")"

def Check.sql : Check → String
  | oneOf column values => "CHECK (" ++ column ++ " IN " ++ listed (values.map literal) ++ ")"
  | between column low high =>
      "CHECK (" ++ column ++ " BETWEEN " ++ toString low ++ " AND " ++ toString high ++ ")"
  | openOrNotBefore last first =>
      "CHECK (" ++ last ++ " IS NULL OR " ++ last ++ " >= " ++ first ++ ")"
  | after later earlier => "CHECK (" ++ later ++ " > " ++ earlier ++ ")"
  | apart one other => "CHECK (" ++ one ++ " <> " ++ other ++ ")"

inductive OnLoss where
  | kept
  | removed
  | cleared
  deriving DecidableEq, Repr

def OnLoss.sql : OnLoss → String
  | kept => ""
  | removed => " ON DELETE CASCADE"
  | cleared => " ON DELETE SET NULL"

inductive Clause where
  | primaryKey
  | required
  | unique
  | default (sql : String)
  | references (table : String) (onLoss : OnLoss)
  | check (c : Check)
  deriving DecidableEq, Repr

def Clause.sql : Clause → String
  | primaryKey => "PRIMARY KEY"
  | required => "NOT NULL"
  | unique => "UNIQUE"
  | default s => "DEFAULT " ++ s
  | references table onLoss => "REFERENCES " ++ table ++ " (id)" ++ onLoss.sql
  | check c => c.sql

structure ColumnPlan where
  name : String
  type : String
  clauses : List Clause
  deriving DecidableEq, Repr

def ColumnPlan.sql (c : ColumnPlan) : String :=
  " ".intercalate (c.name :: c.type :: c.clauses.map Clause.sql)

inductive TableRule where
  | primaryKey (columns : List String)
  | unique (columns : List String)
  | check (c : Check)
  deriving DecidableEq, Repr

def TableRule.sql : TableRule → String
  | primaryKey columns => "PRIMARY KEY " ++ listed columns
  | unique columns => "UNIQUE " ++ listed columns
  | check c => c.sql

structure TablePlan where
  name : String
  columns : List ColumnPlan
  rules : List TableRule
  indexed : List String
  deriving DecidableEq, Repr

namespace TablePlan

def creation (t : TablePlan) : String :=
  "CREATE TABLE " ++ t.name ++ " ( " ++
    ", ".intercalate (t.columns.map ColumnPlan.sql ++ t.rules.map TableRule.sql) ++ " );"

def index (t : TablePlan) (column : String) : String :=
  "CREATE INDEX idx_" ++ t.name ++ "_" ++ column ++ " ON " ++ t.name ++ " (" ++ column ++ ");"

def sql (t : TablePlan) : String := " ".intercalate (t.creation :: t.indexed.map t.index)

end TablePlan

namespace Schema

def id : ColumnPlan := ⟨"id", "UUID", [.primaryKey]⟩

def reference (name table : String) (onLoss : OnLoss) : ColumnPlan :=
  ⟨name, "UUID", [.required, .references table onLoss]⟩

def belongsTo (name table : String) : ColumnPlan := reference name table .removed

def text (name : String) : ColumnPlan := ⟨name, "TEXT", [.required]⟩

def freeText (name : String) : ColumnPlan := ⟨name, "TEXT", []⟩

def uniqueText (name : String) : ColumnPlan := ⟨name, "TEXT", [.required, .unique]⟩

def emptyText (name : String) : ColumnPlan := ⟨name, "TEXT", [.required, .default (literal "")]⟩

def oneOf (name first : String) (values : List String) : ColumnPlan :=
  ⟨name, "TEXT", [.required, .default (literal first), .check (.oneOf name values)]⟩

def number (name : String) (low high : Int) : ColumnPlan :=
  ⟨name, "INTEGER", [.required, .check (.between name low high)]⟩

def coordinate (name : String) : ColumnPlan := ⟨name, "DOUBLE PRECISION", []⟩

def emptyRecord (name : String) : ColumnPlan :=
  ⟨name, "JSONB", [.required, .default (literal "\x7b\x7d")]⟩

def time (name : String) : ColumnPlan := ⟨name, "TIMESTAMPTZ", [.required]⟩

def freeTime (name : String) : ColumnPlan := ⟨name, "TIMESTAMPTZ", []⟩

def stamp (name : String) : ColumnPlan := ⟨name, "TIMESTAMPTZ", [.required, .default "now()"]⟩

def stamps : List ColumnPlan := [stamp "created_at", stamp "updated_at"]

def users : TablePlan where
  name := "users"
  columns := [id, text "full_name", uniqueText "user_name", uniqueText "email",
    text "password_hash", oneOf "user_type" "user" ["admin", "business", "user"],
    oneOf "status" "active" ["active", "blocked"], freeText "profile_picture", freeText "gender",
    freeText "bio"] ++ stamps
  rules := []
  indexed := ["created_at"]

def sessions : TablePlan where
  name := "sessions"
  columns := [id, belongsTo "user_id" "users", freeText "user_agent", time "expires_at",
    stamp "created_at"]
  rules := []
  indexed := ["user_id"]

def categories : TablePlan where
  name := "business_categories"
  columns := [id, uniqueText "name"] ++ stamps
  rules := []
  indexed := []

def businesses : TablePlan where
  name := "businesses"
  columns := [id, text "name", freeText "description",
    reference "category_id" "business_categories" .kept, emptyText "address",
    coordinate "latitude", coordinate "longitude", emptyRecord "contact_info",
    emptyRecord "hours_of_operation", belongsTo "owner_id" "users"] ++ stamps
  rules := []
  indexed := ["category_id", "owner_id", "created_at"]

def attachments (name ownerColumn owners : String) : TablePlan where
  name := name
  columns := [id, belongsTo ownerColumn owners, text "filepath", text "content_type",
    stamp "created_at"]
  rules := []
  indexed := [ownerColumn]

def reviews : TablePlan where
  name := "reviews"
  columns := [id, belongsTo "business_id" "businesses", belongsTo "user_id" "users",
    number "rating" 1 5, emptyText "comment"] ++ stamps
  rules := []
  indexed := ["business_id", "user_id", "created_at"]

def reports : TablePlan where
  name := "reports"
  columns := [id, belongsTo "business_id" "businesses", belongsTo "user_id" "users",
    text "reason"] ++ stamps
  rules := []
  indexed := ["business_id"]

def notifications : TablePlan where
  name := "notifications"
  columns := [id, belongsTo "user_id" "users",
    ⟨"sender_id", "UUID", [.references "users" .cleared]⟩, text "message",
    oneOf "status" "unread" ["unread", "read"]] ++ stamps
  rules := []
  indexed := ["user_id"]

def events : TablePlan where
  name := "events"
  columns := [id, belongsTo "business_id" "businesses", text "title", emptyText "description",
    emptyText "location", time "starts_at", freeTime "ends_at"] ++ stamps
  rules := [.check (.openOrNotBefore "ends_at" "starts_at")]
  indexed := ["business_id"]

def participants : TablePlan where
  name := "event_participants"
  columns := [belongsTo "event_id" "events", belongsTo "user_id" "users", stamp "created_at"]
  rules := [.primaryKey ["event_id", "user_id"]]
  indexed := []

def bookmarks : TablePlan where
  name := "bookmarks"
  columns := [id, belongsTo "user_id" "users", belongsTo "business_id" "businesses"] ++ stamps
  rules := [.unique ["user_id", "business_id"]]
  indexed := []

def promotions : TablePlan where
  name := "promotions"
  columns := [id, belongsTo "business_id" "businesses", belongsTo "user_id" "users", text "title",
    emptyText "description", number "discount_percentage" 0 100, time "started_at",
    time "expires_at", stamp "created_at"]
  rules := [.check (.after "expires_at" "started_at")]
  indexed := ["business_id"]

def followers : TablePlan where
  name := "followers"
  columns := [belongsTo "follower_id" "users", belongsTo "following_id" "users",
    stamp "created_at"]
  rules := [.primaryKey ["follower_id", "following_id"],
    .check (.apart "follower_id" "following_id")]
  indexed := ["following_id"]

def scripts : List (List TablePlan) :=
  [[users, sessions],
    [categories, businesses, attachments "business_attachments" "business_id" "businesses"],
    [reviews, attachments "review_attachments" "review_id" "reviews", reports],
    [notifications, events, participants, bookmarks, promotions, followers]]

def scriptSql (tables : List TablePlan) : String := " ".intercalate (tables.map TablePlan.sql)

def sendAll : List (List TablePlan) → Action Failure Unit
  | [] => pure ()
  | tables :: more => do
      let _ ← Action.send (.script (scriptSql tables))
      sendAll more

def migrate : Action Trouble Unit :=
  Action.mapError (fun f => ⟨["failed to run migrations"], f⟩) (sendAll scripts)

end Schema

def openPool : Action Trouble Unit := do
  let _ ← Action.mapError (fun f => ⟨["failed to connect to PostgreSQL"], f⟩) (Action.send .connect)
  pure ()

def prepareStore : Action Trouble Unit := do
  Action.mapError (Trouble.within "failed to create database pool") openPool
  Action.mapError (Trouble.within "failed to run migrations") Schema.migrate

end CityGuide.Store
