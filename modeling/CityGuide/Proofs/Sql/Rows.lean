import CityGuide.Proofs.Sql.Bound

namespace CityGuide.Sql

namespace Part

def rowMarks (n : Nat) : List (List Value) → List String
  | [] => []
  | row :: rows =>
      ("(" ++ ", ".intercalate (marks n row.length) ++ ")") :: rowMarks (n + row.length) rows

theorem texts_tuples (n : Nat) (rows : List (List Value)) :
    texts n (rows.map Statement.tuple) = (rowMarks n rows).map String.toList := by
  induction rows generalizing n with
  | nil => rfl
  | cons row rows ih =>
    rw [List.map_cons, texts, Statement.chars_tuple, Statement.values_tuple, ih, rowMarks,
      List.map_cons]

theorem values_tuples (rows : List (List Value)) :
    values (rows.map Statement.tuple).flatten = rows.flatten := by
  induction rows with
  | nil => rfl
  | cons row rows ih =>
    rw [List.map_cons, List.flatten_cons, values_append, Statement.values_tuple, ih,
      List.flatten_cons]

end Part

namespace Statement

theorem values_insertAll (table : String) (columns : List String) (rows : List (List Value)) :
    (insertAll table columns rows).prepared.values = rows.flatten := by
  simp [prepared, Part.prepare, parts, Part.values, Part.values_joined, Part.values_tuples]

theorem prepared_insertAll (table : String) (columns : List String) (rows : List (List Value)) :
    (insertAll table columns rows).prepared =
      ⟨"INSERT INTO " ++ quoteName table ++ " (" ++ ", ".intercalate (columns.map quoteName) ++
        ") VALUES " ++ ", ".intercalate (Part.rowMarks 0 rows), rows.flatten⟩ := by
  rw [← values_insertAll table columns, prepared, Part.prepare, Prepared.mk.injEq]
  refine ⟨?_, rfl⟩
  rw [← String.toList_inj]
  simp only [parts, Part.chars, Part.chars_joined, Part.texts_tuples, String.toList_ofList,
    String.toList_append, String.toList_intercalate, List.append_assoc]

end Statement

end CityGuide.Sql
