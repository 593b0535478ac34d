import CityGuide.Sql.Value
import CityGuide.Text.Digits

namespace CityGuide.Sql

/-- A piece of a statement: fixed text, a bound value, or a value bound before, by its number. -/
inductive Part where
  | text (s : String)
  | value (v : Value)
  | again (k : Nat)

structure Prepared where
  sql : String
  values : List Value

namespace Part

def placeholder (k : Nat) : List Char := '$' :: Text.decimal k

def chars (n : Nat) : List Part → List Char
  | [] => []
  | .text s :: ps => s.toList ++ chars n ps
  | .value _ :: ps => placeholder (n + 1) ++ chars (n + 1) ps
  | .again k :: ps => placeholder k ++ chars n ps

def values : List Part → List Value
  | [] => []
  | .value v :: ps => v :: values ps
  | .text _ :: ps | .again _ :: ps => values ps

theorem values_append (ps qs : List Part) : values (ps ++ qs) = values ps ++ values qs := by
  fun_induction values ps with
  | case1 => rfl
  | case2 v ps ih => simp [values, ih]
  | case3 s ps ih | case4 k ps ih => simp [values, ih]

theorem chars_append (n : Nat) (ps qs : List Part) :
    chars n (ps ++ qs) = chars n ps ++ chars (n + (values ps).length) qs := by
  fun_induction chars n ps with
  | case1 => simp [values]
  | case2 n s ps ih | case4 n k ps ih => simp [chars, values, ih]
  | case3 n v ps ih =>
      simp only [List.cons_append, chars, values, List.length_cons, ih, List.append_assoc]
      congr 3
      omega

def numbers (n : Nat) : List Part → List Nat
  | [] => []
  | .text _ :: ps => numbers n ps
  | .value _ :: ps => (n + 1) :: numbers (n + 1) ps
  | .again k :: ps => k :: numbers n ps

def WellNumbered (n : Nat) : List Part → Prop
  | [] => True
  | .text _ :: ps => WellNumbered n ps
  | .value _ :: ps => WellNumbered (n + 1) ps
  | .again k :: ps => 1 ≤ k ∧ k ≤ n ∧ WellNumbered n ps

def joined (separator : String) : List (List Part) → List Part
  | [] => []
  | [ps] => ps
  | ps :: more => ps ++ .text separator :: joined separator more

def enclosed (ps : List Part) : List Part := .text "(" :: (ps ++ [.text ")"])

def prepare (ps : List Part) : Prepared := ⟨String.ofList (chars 0 ps), values ps⟩

end Part

def quoteName (s : String) : String :=
  String.ofList ('"' :: (s.toList.flatMap (fun c => if c = '"' then ['"', '"'] else [c]) ++ ['"']))

end CityGuide.Sql
