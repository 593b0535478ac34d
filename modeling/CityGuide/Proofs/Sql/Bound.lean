import CityGuide.Proofs.Sql.Rendering

namespace CityGuide.Sql

namespace Part

def marks (n count : Nat) : List String := (List.range' (n + 1) count).map mark

theorem values_each (vs : List Value) : values (vs.map fun v => [.value v]).flatten = vs := by
  induction vs with
  | nil => rfl
  | cons v vs ih => simpa [values] using ih

theorem texts_each (n : Nat) (vs : List Value) :
    texts n (vs.map fun v => [.value v]) = (marks n vs.length).map String.toList := by
  induction vs generalizing n with
  | nil => rfl
  | cons v vs ih =>
    have hrest := ih (n + 1)
    simp only [marks, List.map_map] at hrest ⊢
    simp [texts, chars, values, hrest, toList_mark, List.range'_succ]

theorem values_enclosed (ps : List Part) : values (enclosed ps) = values ps := by
  simp [enclosed, values, values_append]

theorem chars_enclosed (n : Nat) (ps : List Part) :
    chars n (enclosed ps) = "(".toList ++ chars n ps ++ ")".toList := by
  simp [enclosed, chars, chars_append]

end Part

theorem filter_present (column : String) (columns : List (String × Option Value)) :
    ((present columns).filter fun a => a.1 == column).map Prod.snd =
      (columns.filter fun a => a.1 == column).filterMap Prod.snd := by
  induction columns with
  | nil => rfl
  | cons c columns ih =>
    obtain ⟨name, v?⟩ := c
    rw [present] at ih
    by_cases hname : name = column <;> cases v? <;> simp [present, hname, ih]

namespace Statement

theorem values_tuple (vs : List Value) : Part.values (tuple vs) = vs := by
  rw [tuple, Part.values_enclosed, Part.values_joined, Part.values_each]

theorem chars_tuple (n : Nat) (vs : List Value) :
    Part.chars n (tuple vs) =
      ("(" ++ ", ".intercalate (Part.marks n vs.length) ++ ")").toList := by
  rw [tuple, Part.chars_enclosed, Part.chars_joined, Part.texts_each]
  simp only [String.toList_append, String.toList_intercalate]

theorem values_keyParts (naming : Naming) (keys : List Assignment) :
    Part.values (keyParts naming keys) = keys.map Prod.snd := by
  rw [keyParts, Part.values_joined]
  induction keys with
  | nil => rfl
  | cons key keys ih => simpa [Part.values] using ih

theorem chars_keyParts (n : Nat) (naming : Naming) (keys : List Assignment) :
    Part.chars n (keyParts naming keys) =
      (" AND ".intercalate ((keys.map Prod.fst).zipWith
        (fun column mark => naming.write column ++ " = " ++ mark)
        (Part.marks n keys.length))).toList := by
  rw [keyParts, Part.chars_joined, String.toList_intercalate]
  congr 1
  induction keys generalizing n with
  | nil => rfl
  | cons key keys ih =>
    have hrest := ih (n + 1)
    simp only [Part.marks] at hrest ⊢
    simp [Part.texts, Part.chars, Part.values, hrest, Part.toList_mark, List.range'_succ]

theorem prepared_insert (table : String) (row : List Assignment) (ending : Ending) :
    (insert table row ending).prepared =
      ⟨"INSERT INTO " ++ table ++ " (" ++ ", ".intercalate (row.map Prod.fst) ++ ") VALUES (" ++
        ", ".intercalate (Part.marks 0 row.length) ++ ")" ++ ending.sql, row.map Prod.snd⟩ := by
  rw [prepared, Part.prepare, Prepared.mk.injEq]
  constructor
  · rw [← String.toList_inj]
    simp [parts, Part.chars, Part.chars_append, chars_tuple]
  · simp [parts, Part.values, Part.values_append, values_tuple]

theorem prepared_delete (naming : Naming) (table : String) (keys : List Assignment) :
    (delete naming table keys).prepared =
      ⟨"DELETE FROM " ++ naming.write table ++ " WHERE " ++
        " AND ".intercalate ((keys.map Prod.fst).zipWith
          (fun column mark => naming.write column ++ " = " ++ mark)
          (Part.marks 0 keys.length)), keys.map Prod.snd⟩ := by
  rw [prepared, Part.prepare, Prepared.mk.injEq]
  constructor
  · rw [← String.toList_inj]
    simp [parts, Part.chars, chars_keyParts]
  · simp [parts, Part.values, values_keyParts]

theorem prepared_mark (status : String) (user : Uuid) (ids : Option (List Uuid)) :
    (markNotifications status user ids).prepared =
      ⟨"UPDATE notifications SET status = " ++ Part.mark 1 ++
        ", updated_at = now() WHERE user_id = " ++ Part.mark 2 ++ " AND status <> " ++
        Part.mark 1 ++ " AND (" ++ Part.mark 3 ++ "::uuid[] IS NULL OR id = ANY(" ++
        Part.mark 3 ++ "))", [.text status, .uuid user, .opt .uuids .uuids ids]⟩ := by
  rw [prepared, Part.prepare, Prepared.mk.injEq]
  refine ⟨String.toList_inj.mp ?_, rfl⟩
  simp only [String.toList_ofList, parts, Part.chars, String.toList_append, Part.toList_mark,
    List.append_assoc, List.append_nil]

def placed : Statement → List String
  | insert _ row _ => row.map Prod.fst
  | insertAll _ columns rows => rows.flatMap fun _ => columns
  | update _ changes _ => changes.map Prod.fst ++ ["id"]
  | markNotifications _ _ _ => ["status", "user_id", "id"]
  | delete _ _ keys => keys.map Prod.fst
  | select _ | find _ _ | findByEmail _ | activeSession _ _ | probe | purgeSessions => []

def boundAt (column : String) (st : Statement) : List Value :=
  ((st.placed.zip st.prepared.values).filter fun bound => bound.1 == column).map Prod.snd

theorem boundAt_insert (column table : String) (row : List Assignment) (ending : Ending) :
    boundAt column (insert table row ending) =
      (row.filter fun a => a.1 == column).map Prod.snd := by
  simp [boundAt, prepared_insert, placed, List.zip_map']

theorem boundAt_delete (column : String) (naming : Naming) (table : String)
    (keys : List Assignment) :
    boundAt column (delete naming table keys) =
      (keys.filter fun a => a.1 == column).map Prod.snd := by
  simp [boundAt, prepared_delete, placed, List.zip_map']

theorem values_setParts (changes : List Assignment) :
    Part.values (setParts changes) = changes.map Prod.snd := by
  induction changes with
  | nil => rfl
  | cons change changes ih =>
    rw [setParts] at ih
    simp [setParts, Part.values, ih]

theorem values_update (table : String) (changes : List Assignment) (id : Uuid) :
    (update table changes id).prepared.values = changes.map Prod.snd ++ [.uuid id] := by
  simp [prepared, Part.prepare, parts, Part.values, Part.values_append, values_setParts]

theorem chars_setParts (n : Nat) (changes : List Assignment) :
    Part.chars n (setParts changes) =
      (String.join ((changes.map Prod.fst).zipWith
        (fun column mark => quoteName column ++ " = " ++ mark ++ ", ")
        (Part.marks n changes.length))).toList := by
  induction changes generalizing n with
  | nil => rfl
  | cons change changes ih =>
    have hrest := ih (n + 1)
    simp only [Part.marks, setParts] at hrest ⊢
    simp [Part.chars, hrest, Part.toList_mark, List.range'_succ, String.join_cons]

theorem prepared_update (table : String) (changes : List Assignment) (id : Uuid) :
    (update table changes id).prepared =
      ⟨"UPDATE " ++ quoteName table ++ " SET " ++
        String.join ((changes.map Prod.fst).zipWith
          (fun column mark => quoteName column ++ " = " ++ mark ++ ", ")
          (Part.marks 0 changes.length)) ++
        quoteName "updated_at" ++ " = CURRENT_TIMESTAMP WHERE " ++ quoteName "id" ++ " = " ++
        Part.mark (changes.length + 1) ++ " RETURNING *", changes.map Prod.snd ++ [.uuid id]⟩ := by
  rw [← values_update table, prepared, Part.prepare, Prepared.mk.injEq]
  refine ⟨?_, rfl⟩
  rw [← String.toList_inj]
  simp [parts, Part.chars, Part.chars_append, chars_setParts, values_setParts, Part.toList_mark]

theorem boundAt_update (column table : String) (changes : List Assignment) (id : Uuid) :
    boundAt column (update table changes id) =
      ((changes ++ [("id", Value.uuid id)]).filter fun a => a.1 == column).map Prod.snd := by
  have hzip : (changes.map Prod.fst ++ ["id"]).zip (changes.map Prod.snd ++ [.uuid id]) =
      changes ++ [("id", .uuid id)] := by
    rw [List.zip_append (by simp), List.zip_map']
    simp
  rw [boundAt, values_update, placed, hzip]

theorem boundAt_eq_nil {column : String} {st : Statement} (h : column ∉ st.placed) :
    boundAt column st = [] := by
  rw [boundAt, List.map_eq_nil_iff, List.filter_eq_nil_iff]
  rintro ⟨placed, v⟩ hbound heq
  exact h (eq_of_beq heq ▸ (List.of_mem_zip hbound).1)

theorem boundAt_mark (status : String) (user : Uuid) (ids : Option (List Uuid)) :
    boundAt "user_id" (markNotifications status user ids) = [.uuid user] := by
  rw [boundAt, prepared_mark]
  rfl

end Statement

end CityGuide.Sql
