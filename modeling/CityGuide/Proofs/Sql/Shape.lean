import CityGuide.Sql.Statement

namespace CityGuide.Sql

def Statement.Alike (a b : Statement) : Prop :=
  a.prepared.sql = b.prepared.sql ∧
    a.prepared.values.map Value.kind = b.prepared.values.map Value.kind

namespace Part

def blank : Part → Part
  | text s => .text s
  | value v => .value (.null v.kind)
  | again k => .again k

theorem chars_blank (n : Nat) (ps : List Part) : chars n (ps.map blank) = chars n ps := by
  fun_induction chars n ps with
  | case1 => rfl
  | case2 n s ps ih | case3 n v ps ih | case4 n k ps ih =>
    simp only [List.map_cons, blank, chars, ih]

theorem kinds_blank (ps : List Part) :
    (values (ps.map blank)).map Value.kind = (values ps).map Value.kind := by
  fun_induction values ps with
  | case1 => rfl
  | case2 v ps ih => simp only [List.map_cons, blank, values, Value.kind, ih]
  | case3 s ps ih | case4 k ps ih => simp only [List.map_cons, blank, values, ih]

theorem blank_joined (separator : String) (pss : List (List Part)) :
    (joined separator pss).map blank = joined separator (pss.map (List.map blank)) := by
  fun_induction joined separator pss with
  | case1 | case2 ps => rfl
  | case3 ps more hmore ih =>
    obtain ⟨qs, rest, rfl⟩ := List.exists_cons_of_ne_nil hmore
    simp only [List.map_append, List.map_cons, blank, joined] at ih ⊢
    rw [ih]

theorem blank_enclosed (ps : List Part) :
    (enclosed ps).map blank = enclosed (ps.map blank) := by
  simp only [enclosed, List.map_cons, List.map_append, List.map_nil, blank]

end Part

namespace Term

def blank : Term → Term
  | equals c v => .equals c (.null v.kind)
  | like c cast _ => .like c cast ""
  | never => .never

theorem parts_blank (t : Term) : t.blank.parts.map Part.blank = t.parts.map Part.blank := by
  cases t with
  | equals c v | never => rfl
  | like c cast pattern => cases cast <;> rfl

theorem beside_blank (t : Term) : t.blank.beside.map Part.blank = t.beside.map Part.blank := by
  cases t with
  | equals c v | never => rfl
  | like c cast pattern => cases cast <;> rfl

end Term

namespace Predicate

def blank (p : Predicate) : Predicate := p.map (List.map Term.blank)

theorem anyOf_blank (ts : List Term) :
    (anyOf (ts.map Term.blank)).map Part.blank = (anyOf ts).map Part.blank := by
  simp only [anyOf, Part.blank_joined, List.map_map]
  exact congrArg _ (List.map_congr_left fun t _ => t.beside_blank)

theorem conjunct_blank (ts : List Term) :
    (conjunct (ts.map Term.blank)).map Part.blank = (conjunct ts).map Part.blank := by
  match ts with
  | [t] => exact t.beside_blank
  | [] => rfl
  | t :: u :: rest =>
    have h := anyOf_blank (t :: u :: rest)
    simp only [List.map_cons, conjunct, Part.blank_enclosed] at h ⊢
    rw [h]

theorem parts_cons_cons (ts us : List Term) (more : Predicate) :
    parts (ts :: us :: more) = Part.joined " AND " ((ts :: us :: more).map conjunct) := by
  simp only [parts]

theorem parts_blank (p : Predicate) : p.blank.parts.map Part.blank = p.parts.map Part.blank := by
  match p with
  | [[t]] => exact t.parts_blank
  | [[]] => rfl
  | [t :: u :: rest] => exact anyOf_blank (t :: u :: rest)
  | [] => rfl
  | ts :: us :: more =>
    rw [blank, List.map_cons, List.map_cons, parts_cons_cons, parts_cons_cons, Part.blank_joined,
      Part.blank_joined, ← List.map_cons, ← List.map_cons, List.map_map, List.map_map, List.map_map]
    exact congrArg _ (List.map_congr_left fun ts _ => conjunct_blank ts)

theorem clause_blank (p : Predicate) :
    p.blank.clause.map Part.blank = p.clause.map Part.blank := by
  cases p with
  | nil => rfl
  | cons ts more =>
    have h := parts_blank (ts :: more)
    simp only [clause, blank, List.map_cons, List.isEmpty_cons, if_neg Bool.false_ne_true,
      Part.blank] at h ⊢
    rw [h]

end Predicate

namespace Select

def blank (s : Select) : Select :=
  { s with condition := s.condition.blank, window := s.window.map fun _ => ⟨0, 0⟩ }

theorem windowParts_blank (s : Select) :
    s.blank.windowParts.map Part.blank = s.windowParts.map Part.blank := by
  cases hw : s.window with
  | none | some w =>
    simp only [windowParts, blank, hw, Option.map, List.map, Part.blank, Value.kind]

theorem parts_blank (s : Select) : s.blank.parts.map Part.blank = s.parts.map Part.blank := by
  have hcondition : s.blank.condition.clause.map Part.blank = s.condition.clause.map Part.blank :=
    s.condition.clause_blank
  simp only [parts, List.map_append, hcondition, windowParts_blank]
  rfl

theorem alike_of_blank {s t : Select} (h : s.blank = t.blank) :
    (Statement.select s).Alike (.select t) := by
  have hparts : s.parts.map Part.blank = t.parts.map Part.blank := by
    rw [← parts_blank s, h, parts_blank]
  constructor
  · have hchars := Part.chars_blank 0 s.parts
    rw [hparts, Part.chars_blank] at hchars
    exact congrArg String.ofList hchars.symm
  · have hkinds := Part.kinds_blank s.parts
    rw [hparts, Part.kinds_blank] at hkinds
    exact hkinds.symm

end Select

end CityGuide.Sql
