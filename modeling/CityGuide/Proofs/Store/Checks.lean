import CityGuide.Proofs.Store.Tables
import CityGuide.Proofs.Time.StoreClock
import CityGuide.Store.Schema

namespace CityGuide.Store

variable {row : Row}

namespace Check

/-- What a row makes of a condition: a cell that is null or not of the column's type leaves it
open, except where the condition itself asks for null. -/
def verdict? (row : Row) : Check → Option Bool
  | oneOf column values => (row.get column Row.text).map (decide <| · ∈ values)
  | between column low high =>
      (row.get column Row.int4).map fun n => decide (low ≤ n) && decide (n ≤ high)
  | openOrNotBefore last first => do
      match ← row.get last (Row.nullable Row.timestamp) with
      | none => some true
      | some l =>
          let f ← row.get first Row.timestamp
          some (!decide (l < f))
  | after later earlier => do
      let l ← row.get later Row.timestamp
      let e ← row.get earlier Row.timestamp
      some (decide (e < l))
  | apart one other => do
      let u ← row.get one Row.uuid
      let v ← row.get other Row.uuid
      some (decide (u ≠ v))

def Admits (c : Check) (row : Row) : Prop := c.verdict? row ≠ some false

instance (c : Check) (row : Row) : Decidable (c.Admits row) := inferInstanceAs (Decidable (_ ≠ _))

end Check

def Clause.check? : Clause → Option Check
  | check c => some c
  | _ => none

def TableRule.check? : TableRule → Option Check
  | check c => some c
  | _ => none

namespace TablePlan

def checks (t : TablePlan) : List Check :=
  t.columns.flatMap (fun c => c.clauses.filterMap Clause.check?) ++
    t.rules.filterMap TableRule.check?

def Admits (t : TablePlan) (row : Row) : Prop := ∀ c ∈ t.checks, c.Admits row

instance (t : TablePlan) (row : Row) : Decidable (t.Admits row) :=
  inferInstanceAs (Decidable (∀ c ∈ t.checks, c.Admits row))

end TablePlan

theorem Row.get_timestamp {column : String} {i : Time.Instant} :
    row.get column Row.timestamp = some i ↔ row.cell? column = some (.timestamp i) := by
  rw [Row.get_eq_bind]
  constructor
  · intro h
    obtain ⟨c, hc, hi⟩ := Option.bind_eq_some_iff.mp h
    rw [hc]
    cases c <;> simp [Row.timestamp] at hi
    rw [hi]
  · intro h
    rw [h]
    rfl

theorem Row.get_nullable_of_cell {α : Type} {column : String} {r : Row.Reader α} {c : Cell}
    (h : row.cell? column = some c) :
    row.get column (Row.nullable r) = Row.nullable r c := by
  rw [Row.get_eq_bind, h]
  rfl

namespace Check

variable {last first column : String} {l f : Time.Instant}

theorem admits_between {low high n : Int} (h : row.cell? column = some (.int4 n)) :
    (between column low high).Admits row ↔ low ≤ n ∧ n ≤ high := by
  have hn : row.get column Row.int4 = some n := by
    rw [Row.get_eq_bind, h]
    rfl
  simp [Admits, verdict?, hn]

theorem admits_after (hl : row.cell? last = some (.timestamp l))
    (hf : row.cell? first = some (.timestamp f)) : (after last first).Admits row ↔ f < l := by
  simp [Admits, verdict?, Row.get_timestamp.mpr hl, Row.get_timestamp.mpr hf]

theorem admits_openOrNotBefore_null (h : row.cell? last = some .null) :
    (openOrNotBefore last first).Admits row := by
  simp [Admits, verdict?, Row.get_nullable_of_cell h, Row.nullable]

theorem admits_openOrNotBefore (hl : row.cell? last = some (.timestamp l))
    (hf : row.cell? first = some (.timestamp f)) :
    (openOrNotBefore last first).Admits row ↔ ¬ l < f := by
  simp [Admits, verdict?, Row.get_nullable_of_cell hl, Row.nullable, Row.timestamp,
    Row.get_timestamp.mpr hf]

end Check

namespace Schema

theorem promotions_checks : promotions.checks =
    [.between "discount_percentage" 0 100, .after "expires_at" "started_at"] := by decide

theorem events_checks : events.checks = [.openOrNotBefore "ends_at" "starts_at"] := by decide

end Schema

end CityGuide.Store
