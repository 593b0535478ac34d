import CityGuide.Sql.Statement

namespace CityGuide.Sql

namespace Value

-- Both widths of integers are compared as numbers, and a time only as far as the store keeps it.
def compared : Value → Value
  | int4 n => int8 n
  | timestamp i => timestamp i.stored
  | v => v

theorem compared_eq_uuid {v : Value} {u : Uuid} : v.compared = uuid u ↔ v = uuid u := by
  cases v <;> simp [compared]

end Value

abbrev Record := Column → Option Value

abbrev Matching := Bool → Value → String → Prop

def Term.Holds (m : Matching) (ρ : Record) : Term → Prop
  | equals c v => ∃ w, ρ c = some w ∧ w.compared = v.compared
  | like c cast pattern => ∃ v, ρ c = some v ∧ m cast v pattern
  | never => False

def Predicate.Holds (m : Matching) (ρ : Record) (p : Predicate) : Prop :=
  ∀ ts ∈ p, ∃ t ∈ ts, t.Holds m ρ

theorem Predicate.Holds.alone {m : Matching} {ρ : Record} {p : Predicate} {t : Term}
    (h : p.Holds m ρ) (ht : [t] ∈ p) : t.Holds m ρ := by
  obtain ⟨u, hu, hholds⟩ := h _ ht
  rwa [List.mem_singleton.mp hu] at hholds

namespace Part

def texts (n : Nat) : List (List Part) → List (List Char)
  | [] => []
  | ps :: more => chars n ps :: texts (n + (values ps).length) more

theorem texts_append (n : Nat) (pss qss : List (List Part)) :
    texts n (pss ++ qss) = texts n pss ++ texts (n + (values pss.flatten).length) qss := by
  induction pss generalizing n with
  | nil => simp [texts, values]
  | cons ps more ih =>
    simp only [List.cons_append, texts, ih, List.flatten_cons, values_append, List.length_append,
      Nat.add_assoc]

theorem values_joined (separator : String) (pss : List (List Part)) :
    values (joined separator pss) = values pss.flatten := by
  induction pss with
  | nil => rfl
  | cons ps more ih =>
    cases more with
    | nil => simp [joined]
    | cons qs rest => simp only [joined, values_append, values, ih, List.flatten_cons]

theorem chars_joined (n : Nat) (separator : String) (pss : List (List Part)) :
    chars n (joined separator pss) = separator.toList.intercalate (texts n pss) := by
  induction pss generalizing n with
  | nil => rfl
  | cons ps more ih =>
    cases more with
    | nil => simp [joined, texts]
    | cons qs rest => simp [joined, texts, chars_append, chars, ih, List.intercalate_cons_cons]

end Part

namespace Predicate

theorem parts_of_mem {p : Predicate} {c : Column} {v : Value} (h : [.equals c v] ∈ p) :
    p.parts = Part.joined " AND " (p.map conjunct) := by
  match p, h with
  | [ts], h =>
    obtain rfl := List.mem_singleton.mp h
    rfl
  | ts :: us :: rest, _ => simp only [parts]

theorem clause_of_mem {p : Predicate} {c : Column} {v : Value} (h : [.equals c v] ∈ p) :
    p.clause = .text " WHERE " :: Part.joined " AND " (p.map conjunct) := by
  have hne : p.isEmpty = false := by
    cases p with
    | nil => simp at h
    | cons ts rest => rfl
  rw [clause, hne, parts_of_mem h]
  rfl

end Predicate

theorem values_equals (c : Column) (v : Value) : Part.values (Term.equals c v).parts = [v] := rfl

theorem chars_equals (n : Nat) (c : Column) (v : Value) :
    Part.chars n (Term.equals c v).parts = (c.sql ++ " = ").toList ++ Part.placeholder (n + 1) := by
  simp only [Term.parts, Part.chars, List.append_nil]

namespace Select

def Demands (s : Select) (c : Column) (v : Value) : Prop :=
  ∃ (before after : Predicate) (k : Nat),
    s.condition = before ++ [.equals c v] :: after ∧
      (Statement.select s).prepared.sql.toList =
        Part.chars 0 s.fieldParts ++ " WHERE ".toList ++
          " AND ".toList.intercalate (Part.texts 0 (before.map Predicate.conjunct) ++
            ((c.sql ++ " = ").toList ++ Part.placeholder (k + 1)) ::
              Part.texts (k + 1) (after.map Predicate.conjunct)) ++
          Part.chars (Part.values s.condition.clause).length
            (s.groupParts ++ s.orderParts ++ s.windowParts) ∧
      (Statement.select s).prepared.values[k]? = some v

theorem values_fieldParts (s : Select) : Part.values s.fieldParts = [] := rfl

theorem prepared_eq (s : Select) :
    (Statement.select s).prepared = Part.prepare (s.fieldParts ++ (s.condition.clause ++
      (s.groupParts ++ s.orderParts ++ s.windowParts))) := by
  simp only [Statement.prepared, Statement.parts, Select.parts, List.append_assoc]

theorem demands_of_mem {s : Select} {c : Column} {v : Value} (h : [.equals c v] ∈ s.condition) :
    s.Demands c v := by
  obtain ⟨before, after, hsplit⟩ := List.append_of_mem h
  have hclause := Predicate.clause_of_mem h
  have hconjuncts : s.condition.map Predicate.conjunct = before.map Predicate.conjunct ++
      (Term.equals c v).parts :: after.map Predicate.conjunct := by
    rw [hsplit, List.map_append, List.map_cons]
    rfl
  have hchars : Part.chars 0 s.condition.clause = " WHERE ".toList ++ " AND ".toList.intercalate
      (Part.texts 0 (s.condition.map Predicate.conjunct)) := by
    rw [hclause, Part.chars, Part.chars_joined]
  have hvalues : Part.values s.condition.clause =
      Part.values (s.condition.map Predicate.conjunct).flatten := by
    rw [hclause, Part.values, Part.values_joined]
  refine ⟨before, after, (Part.values (before.map Predicate.conjunct).flatten).length, hsplit,
    ?_, ?_⟩
  · rw [prepared_eq, Part.prepare, String.toList_ofList, Part.chars_append, values_fieldParts,
      List.length_nil, Nat.add_zero, Part.chars_append, Nat.zero_add, hchars, hconjuncts,
      Part.texts_append, Part.texts, chars_equals, values_equals, List.length_singleton,
      Nat.zero_add]
    simp only [List.append_assoc]
  · rw [prepared_eq, Part.prepare, Part.values_append, values_fieldParts, Part.values_append,
      hvalues, hconjuncts, List.flatten_append, List.flatten_cons, Part.values_append,
      Part.values_append, values_equals]
    simp

end Select

end CityGuide.Sql
