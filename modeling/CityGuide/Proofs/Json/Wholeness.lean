import CityGuide.Proofs.Json.Parts

namespace CityGuide.Json

open Decode

variable {α β : Type}

def Document.Whole (d : Document) : Prop := ignore d = .ok ()

namespace Document

theorem whole_list {ds : List Document} : (list ds).Whole ↔ ∀ d ∈ ds, d.Whole := by
  change ignoreItems ds = .ok () ↔ _
  induction ds with
  | nil => simp [ignoreItems]
  | cons d ds ih =>
    rw [ignoreItems, bind_eq_ok, List.forall_mem_cons, ih]
    exact ⟨fun ⟨_, hd, hds⟩ => ⟨hd, hds⟩, fun ⟨hd, hds⟩ => ⟨(), hd, hds⟩⟩

theorem whole_record {ms : List (Option String × Document)} :
    (record ms).Whole ↔ ∀ m ∈ ms, m.2.Whole := by
  change ignoreMembers ms = .ok () ↔ _
  induction ms with
  | nil => simp [ignoreMembers]
  | cons m ms ih =>
    obtain ⟨key, d⟩ := m
    rw [ignoreMembers, bind_eq_ok, List.forall_mem_cons, ih]
    exact ⟨fun ⟨_, hd, hms⟩ => ⟨hd, hms⟩, fun ⟨hd, hms⟩ => ⟨(), hd, hms⟩⟩

inductive Names (s : String) : Document → Prop
  | text : Names s (.text (some s))
  | key : Names s (.record [(some s, .null)])

theorem Names.whole {s : String} {d : Document} (h : d.Names s) : d.Whole := by
  cases h <;> rfl

end Document

namespace Decode

variable {d : Document}

theorem text_eq_ok {s : String} : text d = .ok s ↔ d = .text (some s) := by
  refine ⟨fun h => ?_, by rintro rfl; rfl⟩
  cases d with
  | text s? =>
    cases s? with
    | none => simp [text] at h
    | some s' => rw [Except.ok.inj h]
  | null | bool | number | list | record | broken => simp [text] at h

theorem eq_number_of_whole {low high n : Int} (h : whole low high d = .ok n) :
    d = .number (some (.int n)) := by
  cases d with
  | number n? =>
    cases n? with
    | none => simp [whole] at h
    | some n' =>
      cases n' with
      | float x => simp [whole] at h
      | int n' =>
        rw [whole] at h
        split at h
        · rw [Except.ok.inj h]
        · simp at h
  | null | bool | text | list | record | broken => simp [whole] at h

theorem accept_eq_ok {o : Option α} {a : α} : accept o = .ok a ↔ o = some a := by
  cases o <;> simp [accept]

theorem names_of_choice {pick : String → Option α} {a : α} (h : choice pick d = .ok a) :
    ∃ s, d.Names s ∧ pick s = some a := by
  cases d with
  | text s? =>
    cases s? with
    | none => simp [choice] at h
    | some s => exact ⟨s, .text, accept_eq_ok.mp h⟩
  | record ms =>
    match ms, h with
    | [], h | (none, _) :: _, h => simp [choice] at h
    | (some key, d) :: more, h =>
      obtain ⟨a', ha, h⟩ := bind_eq_ok.mp h
      cases d with
      | null =>
        cases more with
        | nil => exact ⟨key, .key, (accept_eq_ok.mp ha).trans (congrArg some (Except.ok.inj h))⟩
        | cons m more => simp at h
      | bool | number | text | list | record | broken => simp at h
  | null | bool | number | list | broken => simp [choice] at h

class Thorough (dec : Decoder α) : Prop where
  whole : ∀ {d a}, dec d = .ok a → d.Whole

instance thorough_text : Thorough text where
  whole h := text_eq_ok.mp h ▸ rfl

instance thorough_signedWord (bits : Nat) : Thorough (signedWord bits) where
  whole h := eq_number_of_whole h ▸ rfl

instance thorough_choice (pick : String → Option α) : Thorough (choice pick) where
  whole h := by
    obtain ⟨s, hs, -⟩ := names_of_choice h
    exact hs.whole

theorem of_map {x : Reading α} {f : α → β} {b : β} (h : x.map f = .ok b) : ∃ a, x = .ok a := by
  cases x with
  | error e => simp [Except.map] at h
  | ok a => exact ⟨a, rfl⟩

instance thorough_opt (dec : Decoder α) [hdec : Thorough dec] : Thorough (opt dec) where
  whole {d a} h := by
    cases hnull : d.isNull with
    | true =>
      cases d with
      | null => rfl
      | _ => simp [Document.isNull] at hnull
    | false =>
      rw [opt_of_given hnull] at h
      obtain ⟨a, ha⟩ := of_map h
      exact hdec.whole ha

instance thorough_list (dec : Decoder α) [hdec : Thorough dec] : Thorough (list dec) where
  whole {d as} h := by
    cases d with
    | list ds =>
      refine Document.whole_list.mpr ?_
      change ds.mapM dec = .ok as at h
      induction ds generalizing as with
      | nil => simp
      | cons d ds ih =>
        rw [List.mapM_cons] at h
        obtain ⟨a, ha, h⟩ := bind_eq_ok.mp h
        obtain ⟨as, has, -⟩ := bind_eq_ok.mp h
        exact List.forall_mem_cons.mpr ⟨hdec.whole ha, ih has⟩
    | null | bool | number | text | record | broken => simp [list] at h

end Decode

namespace Shape

class Thorough (s : Shape α) : Prop where
  checks : ∀ c ∈ s.checks, Decode.Thorough c.2
  items : ∀ {ds a rest}, s.fromItems ds = .ok (a, rest) → ∀ d ∈ ds, d ∈ rest ∨ d.Whole

theorem members_seq {f : Shape (α → β)} {x : Shape α} {ms : List (Option String × Document)}
    {b : β} : (f <*> x).fromMembers ms = .ok b ↔
      ∃ g a, f.fromMembers ms = .ok g ∧ x.fromMembers ms = .ok a ∧ g a = b := seq_eq_ok

theorem items_seq {f : Shape (α → β)} {x : Shape α} {ds rest : List Document} {b : β}
    (h : (f <*> x).fromItems ds = .ok (b, rest)) :
    ∃ g mid a, f.fromItems ds = .ok (g, mid) ∧ x.fromItems mid = .ok (a, rest) ∧ g a = b := by
  obtain ⟨⟨g, mid⟩, hg, h⟩ := bind_eq_ok.mp h
  obtain ⟨⟨a, rest'⟩, ha, h⟩ := bind_eq_ok.mp h
  obtain ⟨rfl, rfl⟩ := Prod.mk.inj (Except.ok.inj h)
  exact ⟨g, mid, a, hg, ha, rfl⟩

theorem members_required {key : String} {dec : Decoder α} {ms : List (Option String × Document)}
    {a : α} (h : (required key dec).fromMembers ms = .ok a) :
    ∃ d, ms.find? (·.1 = some key) = some (some key, d) ∧ dec d = .ok a := by
  simp only [required, field] at h
  cases hfind : ms.find? (·.1 = some key) with
  | none => simp [hfind] at h
  | some m =>
    obtain ⟨name, d⟩ := m
    obtain rfl : name = some key := by simpa using List.find?_some hfind
    exact ⟨d, rfl, by simpa only [hfind] using h⟩

theorem items_field {key : String} {absent : Absent α} {dec : Decoder α} {ds rest : List Document}
    {a : α} (h : (field key absent dec).fromItems ds = .ok (a, rest)) :
    (∃ d, ds = d :: rest ∧ dec d = .ok a) ∨ (∃ b, absent = .anywhere b) ∧ ds = [] ∧ rest = [] := by
  cases ds with
  | nil =>
    cases absent with
    | refused | inRecord => simp [field] at h
    | anywhere b => exact .inr ⟨⟨b, rfl⟩, rfl, (Prod.mk.inj (Except.ok.inj h)).2.symm⟩
  | cons d ds =>
    cases hd : dec d with
    | error e => simp [field, hd, Except.map] at h
    | ok a' =>
      simp only [field, hd, Except.map] at h
      obtain ⟨rfl, rfl⟩ := Prod.mk.inj (Except.ok.inj h)
      exact .inl ⟨d, rfl, hd⟩

class Takes (s : Shape α) (low high : outParam Nat) : Prop where
  least : ∀ {ds a rest}, s.fromItems ds = .ok (a, rest) → rest.length + low ≤ ds.length
  most : ∀ {ds a rest}, s.fromItems ds = .ok (a, rest) → ds.length ≤ rest.length + high

instance takes_pure (a : α) : Takes (Pure.pure a : Shape α) 0 0 where
  least h := by simp [(Prod.mk.inj (Except.ok.inj h)).2]
  most h := by simp [(Prod.mk.inj (Except.ok.inj h)).2]

instance takes_seq (f : Shape (α → β)) (x : Shape α) (low low' high high' : Nat)
    [hf : f.Takes low high] [hx : x.Takes low' high'] :
    Takes (f <*> x) (low + low') (high + high') where
  least h := by
    obtain ⟨g, mid, a, hg, ha, -⟩ := items_seq h
    have hfirst := hf.least hg
    have hsecond := hx.least ha
    omega
  most h := by
    obtain ⟨g, mid, a, hg, ha, -⟩ := items_seq h
    have hfirst := hf.most hg
    have hsecond := hx.most ha
    omega

instance takes_map (f : α → β) (x : Shape α) (low high : Nat) [x.Takes low high] :
    Takes (f <$> x) (0 + low) (0 + high) := takes_seq (Pure.pure f) x ..

instance takes_required (key : String) (dec : Decoder α) : Takes (required key dec) 1 1 where
  least h := by
    obtain ⟨d, rfl, -⟩ := (items_field h).resolve_right (by simp)
    exact Nat.le_refl _
  most h := by
    obtain ⟨d, rfl, -⟩ := (items_field h).resolve_right (by simp)
    exact Nat.le_refl _

instance takes_defaulted (key : String) (a : α) (dec : Decoder α) :
    Takes (defaulted key a dec) 0 1 where
  least h := by
    rcases items_field h with ⟨d, rfl, -⟩ | ⟨-, rfl, rfl⟩ <;> simp
  most h := by
    rcases items_field h with ⟨d, rfl, -⟩ | ⟨-, rfl, rfl⟩ <;> simp

instance thorough_pure (a : α) : Thorough (Pure.pure a : Shape α) where
  checks _ hc := absurd hc List.not_mem_nil
  items h _ hd := .inl ((Prod.mk.inj (Except.ok.inj h)).2 ▸ hd)

instance thorough_seq (f : Shape (α → β)) (x : Shape α) [hf : f.Thorough] [hx : x.Thorough] :
    Thorough (f <*> x) where
  checks c hc := (List.mem_append.mp hc).elim (hf.checks c) (hx.checks c)
  items {ds b rest} h d hd := by
    obtain ⟨g, mid, a, hg, ha, -⟩ := items_seq h
    rcases hf.items hg d hd with hmid | hwhole
    · exact hx.items ha d hmid
    · exact .inr hwhole

instance thorough_map (f : α → β) (x : Shape α) [x.Thorough] : Thorough (f <$> x) :=
  thorough_seq (Pure.pure f) x

theorem thorough_field (key : String) (absent : Absent α) (dec : Decoder α)
    [hdec : Decode.Thorough dec] : Thorough (field key absent dec) where
  checks c hc := by
    obtain rfl := List.mem_singleton.mp hc
    refine ⟨fun {d _} h => ?_⟩
    obtain ⟨a, ha⟩ := of_map h
    exact hdec.whole ha
  items {ds a rest} h d hd := by
    rcases items_field h with ⟨d', rfl, hd'⟩ | ⟨-, rfl, -⟩
    · rcases List.mem_cons.mp hd with rfl | hlater
      · exact .inr (hdec.whole hd')
      · exact .inl hlater
    · simp at hd

instance thorough_required (key : String) (dec : Decoder α) [Decode.Thorough dec] :
    Thorough (required key dec) := thorough_field ..

instance thorough_optional (key : String) (dec : Decoder α) [Decode.Thorough dec] :
    Thorough (optional key dec) := thorough_field ..

variable {checks : List (String × (Document → Reading Unit))} {seen : List String}
  {ms : List (Option String × Document)} {key : String}

theorem whole_of_check (hc : ∀ c ∈ checks, Decode.Thorough c.2)
    (h : check checks seen ms = .ok ()) : ∀ m ∈ ms, m.2.Whole := by
  fun_induction check checks seen ms with
  | case1 => simp
  | case2 => simp at h
  | case3 seen name d ms hnone ih =>
    obtain ⟨_, hd, h⟩ := bind_eq_ok.mp h
    exact List.forall_mem_cons.mpr ⟨hd, ih h⟩
  | case4 => simp at h
  | case5 seen name d ms found test hfind hnew ih =>
    obtain ⟨_, hd, h⟩ := bind_eq_ok.mp h
    have hthorough := hc _ (List.mem_of_find?_eq_some hfind)
    exact List.forall_mem_cons.mpr ⟨hthorough.whole hd, ih h⟩

theorem decode_record {s : Shape α} {a : α} (h : s.decode (.record ms) = .ok a) :
    check s.checks [] ms = .ok () ∧ s.fromMembers ms = .ok a := by
  obtain ⟨_, hcheck, h⟩ := bind_eq_ok.mp h
  exact ⟨hcheck, h⟩

theorem decode_list {s : Shape α} {ds : List Document} {a : α} (h : s.decode (.list ds) = .ok a) :
    s.fromItems ds = .ok (a, []) := by
  obtain ⟨⟨a', rest⟩, hitems, h⟩ := bind_eq_ok.mp h
  cases rest with
  | cons d rest => simp at h
  | nil =>
    obtain rfl := Except.ok.inj h
    exact hitems

theorem length_of_decode {s : Shape α} {low high : Nat} [hs : s.Takes low high]
    {ds : List Document} {a : α} (h : s.decode (.list ds) = .ok a) :
    low ≤ ds.length ∧ ds.length ≤ high := by
  have hleast := hs.least (decode_list h)
  have hmost := hs.most (decode_list h)
  simp only [List.length_nil, Nat.zero_add] at hleast hmost
  exact ⟨hleast, hmost⟩

instance thorough_decode (s : Shape α) [hs : s.Thorough] : Decode.Thorough s.decode where
  whole {d a} h := by
    cases d with
    | record ms =>
      obtain ⟨hcheck, -⟩ := decode_record h
      exact Document.whole_record.mpr (whole_of_check hs.checks hcheck)
    | list ds =>
      refine Document.whole_list.mpr fun d hd => ?_
      exact (hs.items (decode_list h) d hd).resolve_left List.not_mem_nil
    | null | bool | number | text | broken => simp [decode] at h

def Only (ms : List (Option String × Document)) (key : String) (d : Document) : Prop :=
  ms.filter (·.1 = some key) = [(some key, d)]

theorem Only.mem {d : Document} (h : Only ms key d) : (some key, d) ∈ ms :=
  List.mem_of_mem_filter (h ▸ List.mem_singleton_self _)

theorem count_of_check (hkey : key ∈ checks.map (·.1)) (h : check checks seen ms = .ok ()) :
    (ms.filter (·.1 = some key)).length + (if key ∈ seen then 1 else 0) ≤ 1 := by
  fun_induction check checks seen ms with
  | case1 seen =>
    split <;> simp
  | case2 => simp at h
  | case3 seen name d ms hnone ih =>
    obtain ⟨_, -, h⟩ := bind_eq_ok.mp h
    have hne : name ≠ key := by
      rintro rfl
      obtain ⟨c, hc, hname⟩ := List.mem_map.mp hkey
      exact List.find?_eq_none.mp hnone c hc (by simpa using hname)
    simpa [hne] using ih h
  | case4 => simp at h
  | case5 seen name d ms found test hfind hnew ih =>
    obtain ⟨_, -, h⟩ := bind_eq_ok.mp h
    have hlater := ih h
    have hfresh : name ∉ seen := by simpa using hnew
    by_cases heq : name = key
    · subst heq
      simp only [List.mem_cons, true_or, if_true] at hlater
      simpa [hfresh] using hlater
    · simpa [heq, Ne.symm heq] using hlater

theorem only_of_check (hkey : key ∈ checks.map (·.1)) (h : check checks [] ms = .ok ())
    {d : Document} (hd : ms.find? (·.1 = some key) = some (some key, d)) : Only ms key d := by
  have hcount := count_of_check hkey h
  rw [← List.head?_filter] at hd
  obtain ⟨more, hmore⟩ := List.head?_eq_some_iff.mp hd
  rw [hmore] at hcount
  have hnone : more = [] := by simpa using hcount
  rw [Only, hmore, hnone]

end Shape

structure Document.Spells (cs : List Char) (d : Document) : Prop where
  read : ofChars cs = (d, true)
  whole : d.Whole

end CityGuide.Json
