import CityGuide.Proofs.Sql.Where

namespace CityGuide.Sql

def Part.mark (k : Nat) : String := String.ofList (placeholder k)

theorem Part.toList_mark (k : Nat) : (mark k).toList = placeholder k := String.toList_ofList ..

def Predicate.text (p : Predicate) : String := String.ofList (Part.chars 0 p.clause)

theorem Predicate.text_nil : text [] = "" := rfl

theorem Predicate.text_of_ne_nil {p : Predicate} (h : p ≠ []) :
    ∃ asked, p.text = " WHERE " ++ asked := by
  refine ⟨String.ofList (Part.chars 0 p.parts), ?_⟩
  have hempty : p.isEmpty = false := List.isEmpty_eq_false_iff.mpr h
  rw [text, clause, hempty, if_neg Bool.false_ne_true, Part.chars, ← String.toList_inj]
  simp only [String.toList_append, String.toList_ofList]

namespace Select

variable (s : Select)

def rowsText : String := s.table.sql ++ String.join (s.joins.map Join.sql)

def groupText : String :=
  if s.groups.isEmpty then "" else " GROUP BY " ++ ", ".intercalate (s.groups.map Column.sql)

def orderText : String :=
  if s.order.isEmpty then ""
  else " ORDER BY " ++ ", ".intercalate (s.order.map fun (c, d) => c.sql ++ " " ++ d.sql)

def windowText (n : Nat) : String :=
  match s.window with
  | none => ""
  | some _ => " LIMIT " ++ Part.mark (n + 1) ++ " OFFSET " ++ Part.mark (n + 2)

def windowValues : List Value :=
  match s.window with
  | none => []
  | some w => [.word w.limit, .word w.offset]

theorem chars_fieldParts (n : Nat) :
    Part.chars n s.fieldParts = "SELECT ".toList ++
      (", ".intercalate (s.fields.map Field.sql)).toList ++ " FROM ".toList ++
        s.rowsText.toList := by
  simp only [fieldParts, Part.chars, rowsText, String.toList_append, List.append_assoc,
    List.append_nil]

theorem chars_groupParts (n : Nat) : Part.chars n s.groupParts = s.groupText.toList := by
  rw [groupParts, groupText]
  split
  · rfl
  · simp only [Part.chars, List.append_nil]

theorem values_groupParts : Part.values s.groupParts = [] := by
  rw [groupParts]
  split <;> rfl

theorem chars_orderParts (n : Nat) : Part.chars n s.orderParts = s.orderText.toList := by
  rw [orderParts, orderText]
  split
  · rfl
  · simp only [Part.chars, List.append_nil]

theorem values_orderParts : Part.values s.orderParts = [] := by
  rw [orderParts]
  split <;> rfl

theorem chars_windowParts (n : Nat) : Part.chars n s.windowParts = (s.windowText n).toList := by
  cases hw : s.window with
  | none => simp only [windowParts, windowText, hw, Part.chars, String.toList_empty]
  | some w =>
    simp only [windowParts, windowText, hw, Part.chars, String.toList_append, Part.toList_mark,
      List.append_assoc, List.append_nil]

theorem values_windowParts : Part.values s.windowParts = s.windowValues := by
  cases hw : s.window with
  | none | some w => simp only [windowParts, windowValues, hw, Part.values]

theorem sql_eq :
    (Statement.select s).prepared.sql =
      "SELECT " ++ ", ".intercalate (s.fields.map Field.sql) ++ " FROM " ++ s.rowsText ++
        s.condition.text ++ s.groupText ++ s.orderText ++
        s.windowText (Part.values s.condition.clause).length := by
  rw [prepared_eq, Part.prepare, ← String.toList_inj]
  simp only [String.toList_ofList, String.toList_append, Part.chars_append, chars_fieldParts,
    values_fieldParts, Predicate.text, chars_groupParts, values_groupParts, chars_orderParts,
    values_orderParts, chars_windowParts, List.length_nil, Nat.add_zero, Nat.zero_add,
    List.append_assoc]

theorem values_eq :
    (Statement.select s).prepared.values = Part.values s.condition.clause ++ s.windowValues := by
  rw [prepared_eq, Part.prepare]
  simp only [Part.values_append, values_fieldParts, values_groupParts, values_orderParts,
    values_windowParts, List.nil_append]

end Select

end CityGuide.Sql
