import CityGuide.Proofs.Json.Overlooking
import CityGuide.Proofs.Outcomes

namespace CityGuide.Json

variable {α β : Type} {key name : String} {V : String → String → Prop}

inductive ItemsBut (V : String → String → Prop) : Option Nat → List Document → List Document → Prop
  | same (place? : Option Nat) (ds : List Document) : ItemsBut V place? ds ds
  | here {s s' : String} {ds : List Document} (h : V s s') :
      ItemsBut V (some 0) (.text (some s) :: ds) (.text (some s') :: ds)
  | later {n : Nat} {d : Document} {ds ds' : List Document} (h : ItemsBut V (some n) ds ds') :
      ItemsBut V (some (n + 1)) (d :: ds) (d :: ds')

theorem ItemsBut.of_append {before after : List Document} {s s' : String} (h : V s s') :
    ItemsBut V (some before.length) (before ++ .text (some s) :: after)
      (before ++ .text (some s') :: after) := by
  induction before with
  | nil => exact .here h
  | cons d before ih => exact .later ih

theorem ItemsBut.eq_of_none {ds ds' : List Document} (h : ItemsBut V none ds ds') : ds = ds' := by
  cases h
  rfl

inductive Texts (V : String → String → Prop) (w : String → α) : α → α → Prop
  | same (a : α) : Texts V w a a
  | texts {s s' : String} (h : V s s') : Texts V w (w s) (w s')

namespace Shape

structure Tracks (key : String) (V : String → String → Prop) (place? rest? : Option Nat)
    (R : α → α → Prop) (s : Shape α) : Prop where
  checks : ∀ c ∈ s.checks, c.1 = key → ∀ x, c.2 (.text (some x)) = .ok ()
  members : ∀ ms ms', List.Forall₂ (MemberBut key V) ms ms' →
    Outcomes Eq R (s.fromMembers ms) (s.fromMembers ms')
  items : ∀ ds ds', ItemsBut V place? ds ds' →
    Outcomes Eq (fun x x' => R x.1 x'.1 ∧ ItemsBut V rest? x.2 x'.2) (s.fromItems ds)
      (s.fromItems ds')

namespace Tracks

variable {place? mid? rest? : Option Nat} {R : α → α → Prop} {S : β → β → Prop} {n : Nat}

theorem pure {a : α} (h : R a a) : Tracks key V place? place? R (Pure.pure a : Shape α) where
  checks _ hc := absurd hc List.not_mem_nil
  members _ _ _ := .held h
  items _ _ hds := .held ⟨h, hds⟩

theorem seq {f : Shape (α → β)} {x : Shape α}
    (hf : Tracks key V place? mid? (fun g g' => ∀ a a', R a a' → S (g a) (g' a')) f)
    (hx : Tracks key V mid? rest? R x) : Tracks key V place? rest? S (f <*> x) where
  checks c hc := (List.mem_append.mp hc).elim (hf.checks c) (hx.checks c)
  members ms ms' h :=
    (hf.members ms ms' h).bind fun _ _ hg => (hx.members ms ms' h).bind fun _ _ ha =>
      .held (hg _ _ ha)
  items ds ds' h :=
    (hf.items ds ds' h).bind fun _ _ hg => (hx.items _ _ hg.2).bind fun _ _ ha =>
      .held ⟨hg.1 _ _ ha.1, ha.2⟩

theorem map {f : α → β} {x : Shape α} (hf : ∀ a a', R a a' → S (f a) (f a'))
    (hx : Tracks key V place? rest? R x) : Tracks key V place? rest? S (f <$> x) :=
  seq (pure hf) hx

theorem field_checks {absent : Absent α} {dec : Decoder α} (hn : name ≠ key) :
    ∀ c ∈ (field name absent dec).checks, c.1 = key → ∀ x, c.2 (.text (some x)) = .ok () := by
  intro c hc hkey
  obtain rfl := List.mem_singleton.mp hc
  exact absurd hkey hn

theorem field_members {absent : Absent α} {dec : Decoder α} (hn : name ≠ key)
    (ms ms' : List (Option String × Document)) (h : List.Forall₂ (MemberBut key V) ms ms') :
    Outcomes Eq Eq ((field name absent dec).fromMembers ms)
      ((field name absent dec).fromMembers ms') := by
  simp only [field, find?_memberBut hn h]
  exact .refl _

theorem before {absent : Absent α} {dec : Decoder α} (hn : name ≠ key) :
    Tracks key V (some (n + 1)) (some n) Eq (field name absent dec) where
  checks := field_checks hn
  members := field_members hn
  items ds ds' h := by
    cases h with
    | same _ ds =>
      cases (field name absent dec).fromItems ds with
      | error e => exact .failed rfl
      | ok x => exact .held ⟨rfl, .same ..⟩
    | @later _ d ds ds' h =>
      cases hd : dec d with
      | error e => simpa [field, hd, Except.map] using .failed rfl
      | ok a => simpa [field, hd, Except.map] using .held ⟨rfl, h⟩

theorem after {absent : Absent α} {dec : Decoder α} (hn : name ≠ key) :
    Tracks key V none none Eq (field name absent dec) where
  checks := field_checks hn
  members := field_members hn
  items ds ds' h := by
    obtain rfl := h.eq_of_none
    cases (field name absent dec).fromItems ds with
    | error e => exact .failed rfl
    | ok x => exact .held ⟨rfl, .same ..⟩

theorem find?_related {ms ms' : List (Option String × Document)}
    (h : List.Forall₂ (MemberBut key V) ms ms') :
    Option.Rel (MemberBut key V) (ms.find? (·.1 = some key)) (ms'.find? (·.1 = some key)) := by
  induction h with
  | nil => exact .none
  | @cons m m' ms ms' hm _ ih =>
    cases hm with
    | same =>
      by_cases hkey : m.1 = some key
      · simpa [hkey] using Option.Rel.some (MemberBut.same m)
      · simpa [hkey] using ih
    | texts h => simpa using Option.Rel.some (MemberBut.texts h)

theorem text {absent : Absent α} {dec : Decoder α} {w : String → α}
    (hdec : ∀ x, dec (.text (some x)) = .ok (w x)) :
    Tracks key V (some 0) none (Texts V w) (field key absent dec) where
  checks c hc _ x := by
    obtain rfl := List.mem_singleton.mp hc
    simp only [hdec, Except.map]
  members ms ms' h := by
    have hfound := find?_related h
    simp only [field]
    generalize ms.find? _ = found at hfound
    generalize ms'.find? _ = found' at hfound
    cases hfound with
    | none => cases absent <;> first | exact .failed rfl | exact .held (.same _)
    | @some m m' hm =>
      cases hm with
      | same => exact (Outcomes.refl (dec m.2)).mono fun a a' ha => ha ▸ Texts.same a
      | texts h =>
        simp only [hdec]
        exact .held (.texts h)
  items ds ds' h := by
    cases h with
    | same _ ds =>
      cases (field key absent dec).fromItems ds with
      | error e => exact .failed rfl
      | ok x => exact .held ⟨.same _, .same ..⟩
    | here h =>
      simp only [field, hdec, Except.map]
      exact .held ⟨.texts h, .same ..⟩

end Tracks

theorem Tracks.decode {place? : Option Nat} {R : α → α → Prop} {s : Shape α}
    (h : Tracks key V place? none R s) {d d' : Document} (hd : DocumentBut key place? V d d') :
    Outcomes Eq R (s.decode d) (s.decode d') := by
  have hitems {ds ds' : List Document} (hds : ItemsBut V place? ds ds') :
      Outcomes Eq R (s.decode (.list ds)) (s.decode (.list ds')) := by
    refine (h.items ds ds' hds).bind fun ⟨a, rest⟩ ⟨a', rest'⟩ hx => ?_
    obtain rfl : rest = rest' := hx.2.eq_of_none
    cases hrest : rest.isEmpty with
    | true => simpa [hrest] using Outcomes.held hx.1
    | false => simpa [hrest] using Outcomes.failed rfl
  have hmembers {ms ms' : List (Option String × Document)}
      (hms : List.Forall₂ (MemberBut key V) ms ms') :
      Outcomes Eq R (s.decode (.record ms)) (s.decode (.record ms')) := by
    simp only [Shape.decode, check_memberBut h.checks hms]
    exact (Outcomes.refl _).bind fun _ _ _ => h.members ms ms' hms
  cases hd with
  | same d =>
    cases d with
    | record ms => exact hmembers (List.forall₂_same.mpr fun m _ => .same m)
    | list ds => exact hitems (.same ..)
    | _ => exact .failed rfl
  | record hms => exact hmembers hms
  | list hp h => exact hitems (hp ▸ .of_append h)

end Shape

theorem decodeText_related {R : α → α → Prop} {dec : Decoder α} {text text' : String}
    {d d' : Document} {ended : Bool} (h : Document.ofChars text.toList = (d, ended))
    (h' : Document.ofChars text'.toList = (d', ended)) (hdec : Outcomes Eq R (dec d) (dec d')) :
    Outcomes Eq R (decodeText dec text) (decodeText dec text') := by
  simp only [decodeText, decodeChars, h, h']
  refine hdec.bind fun a a' ha => ?_
  cases ended with
  | true => exact .held ha
  | false => exact .failed rfl

end CityGuide.Json
