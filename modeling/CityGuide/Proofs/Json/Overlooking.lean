import CityGuide.Json.Decode
import Mathlib.Data.List.Forall2

namespace CityGuide.Json

variable {α β : Type} {key : String} {V : String → String → Prop}

inductive MemberBut (key : String) (V : String → String → Prop) :
    Option String × Document → Option String × Document → Prop
  | same (m : Option String × Document) : MemberBut key V m m
  | texts {s s' : String} (h : V s s') :
      MemberBut key V (some key, .text (some s)) (some key, .text (some s'))

inductive DocumentBut (key : String) (place? : Option Nat) (V : String → String → Prop) :
    Document → Document → Prop
  | same (d : Document) : DocumentBut key place? V d d
  | record {ms ms' : List (Option String × Document)} (h : List.Forall₂ (MemberBut key V) ms ms') :
      DocumentBut key place? V (.record ms) (.record ms')
  | list {before after : List Document} {s s' : String} (hp : place? = some before.length)
      (h : V s s') : DocumentBut key place? V (.list (before ++ .text (some s) :: after))
        (.list (before ++ .text (some s') :: after))

def Overlooks (key : String) (dec : Decoder α) : Prop :=
  ∀ V d d', DocumentBut key none V d d' → dec d = dec d'

namespace Shape

def names (s : Shape α) : List String := s.checks.map (·.1)

@[simp] theorem names_pure (a : α) : (Pure.pure a : Shape α).names = [] := rfl

@[simp] theorem names_seq (f : Shape (α → β)) (x : Shape α) :
    (f <*> x).names = f.names ++ x.names := List.map_append

@[simp] theorem names_map (f : α → β) (x : Shape α) : (f <$> x).names = x.names := names_seq ..

@[simp] theorem names_required (name : String) (dec : Decoder α) :
    (required name dec).names = [name] := rfl

@[simp] theorem names_optional (name : String) (dec : Decoder α) :
    (optional name dec).names = [name] := rfl

@[simp] theorem names_defaulted (name : String) (a : α) (dec : Decoder α) :
    (defaulted name a dec).names = [name] := rfl

class Regular (s : Shape α) : Prop where
  members : ∀ {key V ms ms'}, key ∉ s.names → List.Forall₂ (MemberBut key V) ms ms' →
    s.fromMembers ms = s.fromMembers ms'

instance regular_pure (a : α) : Regular (Pure.pure a : Shape α) where
  members _ _ := rfl

instance regular_seq (f : Shape (α → β)) (x : Shape α) [hf : f.Regular] [hx : x.Regular] :
    Regular (f <*> x) where
  members {key V ms ms'} hn h := by
    rw [names_seq, List.mem_append, not_or] at hn
    change (f.fromMembers ms >>= fun g => _) = (f.fromMembers ms' >>= fun g => _)
    rw [hf.members hn.1 h, hx.members hn.2 h]

instance regular_map (f : α → β) (x : Shape α) [x.Regular] : Regular (f <$> x) :=
  regular_seq (Pure.pure f) x

theorem find?_memberBut {name : String} (hn : name ≠ key)
    {ms ms' : List (Option String × Document)} (h : List.Forall₂ (MemberBut key V) ms ms') :
    ms.find? (·.1 = some name) = ms'.find? (·.1 = some name) := by
  induction h with
  | nil => rfl
  | cons hm _ ih =>
    cases hm with
    | same m => rw [List.find?_cons, List.find?_cons, ih]
    | texts h => simp [hn.symm, ih]

theorem regular_field (name : String) (absent : Absent α) (dec : Decoder α) :
    Regular (field name absent dec) where
  members {key V ms ms'} hn h := by
    have hother : name ≠ key := fun heq => hn (heq ▸ List.mem_singleton_self _)
    simp only [field, find?_memberBut hother h]

instance regular_required (name : String) (dec : Decoder α) : Regular (required name dec) :=
  regular_field ..

instance regular_optional (name : String) (dec : Decoder α) : Regular (optional name dec) :=
  regular_field ..

instance regular_defaulted (name : String) (a : α) (dec : Decoder α) :
    Regular (defaulted name a dec) := regular_field ..

theorem check_memberBut {checks : List (String × (Document → Reading Unit))}
    (hc : ∀ c ∈ checks, c.1 = key → ∀ x, c.2 (.text (some x)) = .ok ()) {ms ms' : List (Option String × Document)}
    (h : List.Forall₂ (MemberBut key V) ms ms') (seen : List String) :
    check checks seen ms = check checks seen ms' := by
  induction h generalizing seen with
  | nil => rfl
  | @cons m m' ms ms' hm _ ih =>
    cases hm with
    | same m =>
      obtain ⟨_ | name, d⟩ := m
      · rfl
      · simp only [check, ih]
    | @texts x x' _ =>
      have htest : ∀ c ∈ checks.find? (·.1 = key), ∀ x, c.2 (.text (some x)) = .ok () :=
        fun c hfound => hc c (List.mem_of_find?_eq_some hfound)
          (by simpa using List.find?_some hfound)
      cases hfound : checks.find? (·.1 = key) with
      | none => simp only [check, hfound, Decode.ignore, ih]
      | some c => simp only [check, hfound, htest c hfound, ih]

theorem overlooks_of_names {s : Shape α} [hs : s.Regular] (h : key ∉ s.names) :
    Overlooks key s.decode := by
  intro V d d' hd
  cases hd with
  | same d => rfl
  | record hms =>
    have hchecks : ∀ c ∈ s.checks, c.1 = key → ∀ x, c.2 (.text (some x)) = .ok () :=
      fun c hc heq => absurd (heq ▸ List.mem_map_of_mem hc) h
    simp only [decode, check_memberBut hchecks hms, hs.members h hms]
  | list hp => simp at hp

end Shape

end CityGuide.Json
