import CityGuide.Account.Session
import CityGuide.Social.Notification
import Mathlib.Data.Set.Image

namespace CityGuide

open Sql (Assignment Ending Statement)

def Sql.Value.cell : Sql.Value → Store.Cell
  | uuid u => .uuid u
  | uuids _ => .garbled
  | text s => .text s
  | int4 n => .int4 n
  | int8 n => .int8 n
  | float8 x => .float8 x
  | timestamp i => .timestamp i.stored
  | json j => .json j
  | word n => .int8 n.toNat
  | null _ => .null

def Sql.Ending.keeps : Sql.Ending → Bool
  | nothing | returning => false
  | keepExisting | keepExistingOn _ => true

namespace Store

namespace Row

variable {row old new : Row} {column : String}

def cell? (row : Row) (column : String) : Option Cell := (row.find? (·.1 = column)).map (·.2)

theorem get_eq_bind {α : Type} (row : Row) (column : String) (r : Reader α) :
    row.get column r = (row.cell? column).bind r := by
  rw [get, cell?, Option.bind_map]
  rfl

theorem get_uuid {u : Uuid} : row.get column uuid = some u ↔ row.cell? column = some (.uuid u) := by
  rw [get_eq_bind]
  constructor
  · intro h
    obtain ⟨c, hc, hu⟩ := Option.bind_eq_some_iff.mp h
    rw [hc]
    cases c <;> simp [uuid] at hu
    rw [hu]
  · intro h
    rw [h]
    rfl

theorem get_text {s : String} :
    row.get column text = some s ↔ row.cell? column = some (.text s) := by
  rw [get_eq_bind]
  constructor
  · intro h
    obtain ⟨c, hc, hs⟩ := Option.bind_eq_some_iff.mp h
    rw [hc]
    cases c <;> simp [text] at hs
    rw [hs]
  · intro h
    rw [h]
    rfl

def Named (row : Row) (id : Uuid) : Prop := row.cell? "id" = some (.uuid id)

def Holds (row : Row) (assigned : List Assignment) : Prop :=
  ∀ a ∈ assigned, row.cell? a.1 = some a.2.cell

def Revises (changes : List Assignment) (old new : Row) : Prop :=
  new.Holds changes ∧
    ∀ column, column ∉ changes.map Prod.fst → column ≠ "updated_at" →
      new.cell? column = old.cell? column

theorem Named.unique {id id' : Uuid} (h : row.Named id) (h' : row.Named id') : id = id' := by
  have hcell := h.symm.trans h'
  simpa using hcell

end Row

abbrev Tables := String → Set Row

def only (table : String) (rows : Set Row) : Tables := Function.update (fun _ => ∅) table rows

theorem mem_only {table t : String} {rows : Set Row} {row : Row} :
    row ∈ only table rows t ↔ t = table ∧ row ∈ rows := by
  by_cases h : t = table
  · subst h
    simp [only]
  · simp [only, h]

structure Delta where
  gone : Tables
  come : Tables

namespace Delta

def none : Delta := ⟨fun _ => ∅, fun _ => ∅⟩

def on (d : Delta) (T : Tables) : Tables := fun table => (T table \ d.gone table) ∪ d.come table

theorem none_on (T : Tables) : none.on T = T := by
  funext table
  simp [none, on]

theorem mem_on {d : Delta} {T : Tables} {table : String} {row : Row} :
    row ∈ d.on T table ↔ (row ∈ T table ∧ row ∉ d.gone table) ∨ row ∈ d.come table := Iff.rfl

end Delta

/-- What a statement does to the tables that it sees when it succeeds with an answer. Lists say
nothing about the tables here; a removal may take the rows with it that refer to what it removes. -/
inductive Executes (T : Tables) : Statement → Answer → Delta → Prop
  | select (q : Sql.Select) (a : Answer) : Executes T (.select q) a .none
  | activeSession (session user : Uuid) (a : Answer) :
      Executes T (.activeSession session user) a .none
  | probe (a : Answer) : Executes T .probe a .none
  | find {table : String} {id : Uuid} {a : Answer}
      (h : ∀ row ∈ a.rows, row ∈ T table ∧ row.Named id) : Executes T (.find table id) a .none
  | findByEmail {email : String} {a : Answer} (h : ∀ row ∈ a.rows, row ∈ T User.table) :
      Executes T (.findByEmail email) a .none
  | insert {table : String} {row : List Assignment} {ending : Ending} {new : Row} {a : Answer}
      (h : new.Holds row) (ha : a.rows = if ending = .returning then [new] else []) :
      Executes T (.insert table row ending) a ⟨fun _ => ∅, only table {new}⟩
  | kept {table : String} {row : List Assignment} {ending : Ending} {a : Answer}
      (h : ending.keeps = true) : Executes T (.insert table row ending) a .none
  | insertAll {table : String} {columns : List String} {rows : List (List Sql.Value)}
      {a : Answer} {new : Set Row}
      (h : ∀ row ∈ new, ∃ values ∈ rows, row.Holds (columns.zip values)) :
      Executes T (.insertAll table columns rows) a ⟨fun _ => ∅, only table new⟩
  | update {table : String} {changes : List Assignment} {id : Uuid} {a : Answer}
      {revise : Row → Row}
      (h : ∀ row ∈ T table, row.Named id → row.Revises changes (revise row))
      (ha : ∀ row, row ∈ a.rows ↔ row ∈ revise '' {old | old ∈ T table ∧ old.Named id}) :
      Executes T (.update table changes id) a
        ⟨only table {old | old ∈ T table ∧ old.Named id},
          only table (revise '' {old | old ∈ T table ∧ old.Named id})⟩
  | markNotifications {status : String} {user : Uuid} {ids : Option (List Uuid)} {a : Answer}
      {marked : Set Row} {revise : Row → Row}
      (hm : ∀ row ∈ marked, row ∈ T Notification.table ∧
        row.cell? "user_id" = some (.uuid user))
      (h : ∀ row ∈ marked, row.Revises [("status", .text status)] (revise row)) :
      Executes T (.markNotifications status user ids) a
        ⟨only Notification.table marked, only Notification.table (revise '' marked)⟩
  | delete {naming : Sql.Naming} {table : String} {keys : List Assignment} {a : Answer}
      {lost : Tables} {cleared : Set Row}
      (h : ∀ row ∈ cleared, table = User.table ∧
        ∃ old ∈ T Notification.table, old.Revises [("sender_id", .null .uuid)] row) :
      Executes T (.delete naming table keys) a
        ⟨Function.update lost table {row | row ∈ T table ∧ row.Holds keys},
          only Notification.table cleared⟩
  | purgeSessions {a : Answer} {expired : Set Row} :
      Executes T .purgeSessions a ⟨only Session.table expired, fun _ => ∅⟩

inductive Inserts : Statement → String → List Assignment → Prop
  | one {table : String} {row : List Assignment} {ending : Ending} :
      Inserts (.insert table row ending) table row
  | each {table : String} {columns : List String} {rows : List (List Sql.Value)}
      {values : List Sql.Value} (h : values ∈ rows) :
      Inserts (.insertAll table columns rows) table (columns.zip values)

inductive Assigns : Statement → String → List Assignment → Prop
  | update {table : String} {changes : List Assignment} {id : Uuid} :
      Assigns (.update table changes id) table changes
  | mark {status : String} {user : Uuid} {ids : Option (List Uuid)} :
      Assigns (.markNotifications status user ids) Notification.table [("status", .text status)]
  | clear {naming : Sql.Naming} {keys : List Assignment} :
      Assigns (.delete naming User.table keys) Notification.table [("sender_id", .null .uuid)]

theorem Executes.come_cases {T : Tables} {st : Statement} {a : Answer} {d : Delta}
    (he : Executes T st a d) {table : String} {row : Row} (hrow : row ∈ d.come table) :
    (∃ assigned, Inserts st table assigned ∧ row.Holds assigned) ∨
      ∃ changes, Assigns st table changes ∧ ∃ old ∈ T table, old.Revises changes row := by
  cases he with
  | select | activeSession | probe | find | findByEmail | kept | purgeSessions =>
    exact absurd hrow (Set.notMem_empty row)
  | insert h =>
    obtain ⟨rfl, rfl⟩ := mem_only.mp hrow
    exact .inl ⟨_, .one, h⟩
  | insertAll h =>
    obtain ⟨rfl, hnew⟩ := mem_only.mp hrow
    obtain ⟨values, hvalues, hholds⟩ := h row hnew
    exact .inl ⟨_, .each hvalues, hholds⟩
  | update h =>
    obtain ⟨rfl, old, ⟨hold, hid⟩, rfl⟩ := mem_only.mp hrow
    exact .inr ⟨_, .update, old, hold, h old hold hid⟩
  | markNotifications hm h =>
    obtain ⟨rfl, old, hold, rfl⟩ := mem_only.mp hrow
    exact .inr ⟨_, .mark, old, (hm old hold).1, h old hold⟩
  | delete h =>
    obtain ⟨rfl, hcleared⟩ := mem_only.mp hrow
    obtain ⟨rfl, old, hold, hrevises⟩ := h row hcleared
    exact .inr ⟨_, .clear, old, hold, hrevises⟩

theorem Executes.find_rows {T : Tables} {table : String} {id : Uuid} {a : Answer} {d : Delta}
    (he : Executes T (.find table id) a d) : ∀ row ∈ a.rows, row ∈ T table ∧ row.Named id := by
  cases he with
  | find h => exact h

end Store

end CityGuide
