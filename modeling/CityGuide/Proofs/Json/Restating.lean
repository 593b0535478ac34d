import CityGuide.Json.Scalar
import CityGuide.Json.Writer
import CityGuide.Proofs.Json.Parts
import CityGuide.Proofs.Json.ReadBack
import CityGuide.Proofs.Time.ReadBack
import CityGuide.Proofs.Uuid
import Mathlib.Data.List.Nodup

namespace CityGuide.Json

variable {α β : Type}

/-- The second value says what the first one says: the members of a record come in any order with
others between them, or only their values come, as a list in the order of the members. -/
inductive Restates : Json → Json → Prop
  | refl (j : Json) : Restates j j
  | list {js js' : List Json} (hitems : List.Forall₂ Restates js js') :
      Restates (.list js) (.list js')
  | record {ms ms' more all : List (String × Json)} (hkeys : ms'.map (·.1) = ms.map (·.1))
      (hvalues : List.Forall₂ Restates (ms.map (·.2)) (ms'.map (·.2)))
      (hmore : ∀ m ∈ more, m.1 ∉ ms.map (·.1)) (hall : (ms' ++ more).Perm all) :
      Restates (.record ms) (.record all)
  | fields {ms : List (String × Json)} {js : List Json}
      (hvalues : List.Forall₂ Restates (ms.map (·.2)) js) : Restates (.record ms) (.list js)

theorem Restates.items {js : List Json} {j : Json} (h : Restates (.list js) j) :
    ∃ js', j = .list js' ∧ List.Forall₂ Restates js js' := by
  cases h with
  | refl => exact ⟨js, rfl, List.forall₂_same.mpr fun j _ => .refl j⟩
  | list hitems => exact ⟨_, rfl, hitems⟩

theorem Restates.of_text {s : String} {j : Json} (h : Restates (.text s) j) : j = .text s := by
  cases h
  rfl

theorem exists_right {R : α → β → Prop} {as : List α} {bs : List β} (h : List.Forall₂ R as bs)
    {a : α} (ha : a ∈ as) : ∃ b ∈ bs, R a b := by
  induction h with
  | nil => simp at ha
  | cons hab _ ih =>
    rcases List.mem_cons.mp ha with rfl | ha
    · exact ⟨_, List.mem_cons_self .., hab⟩
    · obtain ⟨b, hb, hab⟩ := ih ha
      exact ⟨b, List.mem_cons_of_mem _ hb, hab⟩

theorem exists_left {R : α → β → Prop} {as : List α} {bs : List β} (h : List.Forall₂ R as bs)
    {b : β} (hb : b ∈ bs) : ∃ a ∈ as, R a b := exists_right (R := flip R) h.flip hb

theorem exists_append {R : α → β → Prop} {as as' : List α} {bs : List β}
    (h : List.Forall₂ R (as ++ as') bs) :
    ∃ cs cs', bs = cs ++ cs' ∧ List.Forall₂ R as cs ∧ List.Forall₂ R as' cs' := by
  induction as generalizing bs with
  | nil => exact ⟨[], bs, rfl, .nil, h⟩
  | cons a as ih =>
    obtain ⟨b, bs, hab, hbs, rfl⟩ := List.forall₂_cons_left_iff.mp h
    obtain ⟨cs, cs', rfl, hcs, hcs'⟩ := ih hbs
    exact ⟨b :: cs, cs', rfl, .cons hab hcs, hcs'⟩

theorem forall₂_members {ms ms' : List (String × Json)} (hkeys : ms'.map (·.1) = ms.map (·.1))
    (hvalues : List.Forall₂ Restates (ms.map (·.2)) (ms'.map (·.2))) :
    List.Forall₂ (fun m m' => m'.1 = m.1 ∧ Restates m.2 m'.2) ms ms' := by
  induction ms generalizing ms' with
  | nil =>
    obtain rfl := List.map_eq_nil_iff.mp hkeys
    exact .nil
  | cons m ms ih =>
    cases ms' with
    | nil => simp at hkeys
    | cons m' ms' =>
      obtain ⟨hkey, hkeys⟩ := List.cons.inj hkeys
      obtain ⟨hvalue, hvalues⟩ := List.forall₂_cons.mp hvalues
      exact .cons ⟨hkey, hvalue⟩ (ih hkeys hvalues)

structure Holds (ms all : List (String × Json)) : Prop where
  given : ∀ m ∈ ms, ∃ j, Restates m.2 j ∧ (m.1, j) ∈ all
  fitting : ∀ m ∈ all, m.1 ∈ ms.map (·.1) → ∃ j, (m.1, j) ∈ ms ∧ Restates j m.2
  once : all.Pairwise fun m m' => m.1 = m'.1 → m.1 ∉ ms.map (·.1)

namespace Holds

variable {ms ms' extra all all' : List (String × Json)}

theorem same (hn : (ms.map (·.1)).Nodup) (hkeys : ms'.map (·.1) = ms.map (·.1))
    (hvalues : List.Forall₂ Restates (ms.map (·.2)) (ms'.map (·.2))) : Holds ms ms' := by
  have hboth := forall₂_members hkeys hvalues
  have honce : ms'.Pairwise fun m m' => m.1 ≠ m'.1 := by
    rw [← hkeys, List.nodup_iff_pairwise_ne, List.pairwise_map] at hn
    exact hn
  refine ⟨fun m hm => ?_, fun m' hm' _ => ?_, honce.imp fun hne heq => absurd heq hne⟩
  · obtain ⟨⟨key, j⟩, hmem, rfl, hj⟩ := exists_right hboth hm
    exact ⟨j, hj, hmem⟩
  · obtain ⟨⟨key, j⟩, hmem, hkey, hj⟩ := exists_left hboth hm'
    exact ⟨j, hkey ▸ hmem, hj⟩

theorem more (h : Holds ms ms') (hmore : ∀ m ∈ extra, m.1 ∉ ms.map (·.1)) :
    Holds ms (ms' ++ extra) where
  given m hm := by
    obtain ⟨j, hj, hmem⟩ := h.given m hm
    exact ⟨j, hj, List.mem_append_left _ hmem⟩
  fitting m hm hkey := by
    rcases List.mem_append.mp hm with hm | hm
    · exact h.fitting m hm hkey
    · exact absurd hkey (hmore m hm)
  once := by
    refine List.pairwise_append.mpr ⟨h.once, ?_, ?_⟩
    · exact List.pairwise_of_forall_mem_list fun m hm _ _ _ => hmore m hm
    · exact fun m _ m' hm' heq => heq ▸ hmore m' hm'

theorem perm (h : Holds ms all) (hp : all.Perm all') : Holds ms all' where
  given m hm := by
    obtain ⟨j, hj, hmem⟩ := h.given m hm
    exact ⟨j, hj, hp.mem_iff.mp hmem⟩
  fitting m hm hkey := h.fitting m (hp.mem_iff.mpr hm) hkey
  once := (hp.pairwise_iff fun {m m'} hm heq => heq ▸ hm heq.symm).mp h.once

end Holds

theorem Restates.members {ms : List (String × Json)} {j : Json} (hn : (ms.map (·.1)).Nodup)
    (h : Restates (.record ms) j) :
    (∃ all, j = .record all ∧ Holds ms all) ∨
      ∃ js, j = .list js ∧ List.Forall₂ Restates (ms.map (·.2)) js := by
  cases h with
  | refl =>
    exact .inl ⟨ms, rfl, .same hn rfl (List.forall₂_same.mpr fun j _ => .refl j)⟩
  | record hkeys hvalues hmore hall =>
    exact .inl ⟨_, rfl, ((Holds.same hn hkeys hvalues).more hmore).perm hall⟩
  | fields hvalues => exact .inr ⟨_, rfl, hvalues⟩

def ReadAs (dec : Decoder α) (j : Json) (a : α) : Prop :=
  ∀ j', Restates j j' → dec (.ofValue j') = .ok a

theorem Document.ofValues_append (js js' : List Json) :
    ofValues (js ++ js') = ofValues js ++ ofValues js' := by
  induction js with
  | nil => rfl
  | cons j js ih => rw [List.cons_append, ofValues, ofValues, ih, List.cons_append]

theorem isReal_of_instant {d : Document} {i : Time.Instant} (h : Decode.instant d = .ok i) :
    i.IsReal := by
  obtain ⟨s, -, h⟩ := bind_eq_ok.mp h
  cases hread : Time.Rfc3339.read? .relaxed s with
  | none => simp [hread, Decode.accept] at h
  | some i' =>
    obtain rfl : i' = i := by simpa [hread, Decode.accept] using h
    exact Time.Rfc3339.isReal_of_read? hread

namespace ReadAs

open Decode

theorem text (s : String) : ReadAs Decode.text (.text s) s := by
  intro j h
  obtain rfl := h.of_text
  rfl

theorem parsed {parse : String → Option α} {s : String} {a : α} (h : parse s = some a) :
    ReadAs (fun d => Decode.text d >>= fun s => accept (parse s)) (.text s) a := by
  intro j hj
  obtain rfl := hj.of_text
  change accept (parse s) = _
  rw [h, accept]

theorem uuid (u : Uuid) : ReadAs Decode.uuid (.uuid u) u := parsed (Uuid.ofText?_text u)

theorem instant {i : Time.Instant} (hi : i.IsReal) : ReadAs Decode.instant (.time i) i :=
  parsed (Time.Rfc3339.read?_text hi)

theorem choice {pick : String → Option α} {name : String} {a : α} (h : pick name = some a) :
    ReadAs (Decode.choice pick) (.text name) a := by
  intro j hj
  obtain rfl := hj.of_text
  change accept (pick name) = _
  rw [h, accept]

theorem opt {dec : Decoder α} {encode : α → Json} {o : Option α} (hnull : ∀ a, dec .null ≠ .ok a)
    (h : ∀ a ∈ o, ReadAs dec (encode a) a) : ReadAs (Decode.opt dec) (Json.opt encode o) o := by
  intro j hj
  cases o with
  | none =>
    cases hj
    rfl
  | some a =>
    have hread := h a rfl j hj
    have hgiven : (Document.ofValue j).isNull = false := by
      cases hd : Document.ofValue j with
      | null => exact absurd (hd ▸ hread) (hnull a)
      | _ => rfl
    rw [opt_of_given hgiven, hread, Except.map]

theorem many {dec : Decoder α} {encode : α → Json} {as : List α}
    (h : ∀ a ∈ as, ReadAs dec (encode a) a) : ReadAs (Decode.list dec) (Json.many encode as) as := by
  intro j hj
  obtain ⟨js, rfl, hjs⟩ := hj.items
  clear hj
  rw [Document.ofValue]
  change (Document.ofValues js).mapM dec = .ok as
  induction as generalizing js with
  | nil =>
    cases hjs
    rfl
  | cons a as ih =>
    rw [List.map_cons, List.forall₂_cons_left_iff] at hjs
    obtain ⟨i, is, hi, his, rfl⟩ := hjs
    obtain ⟨ha, has⟩ := List.forall_mem_cons.mp h
    rw [Document.ofValues, List.mapM_cons, ha i hi, ih has is his]
    rfl

end ReadAs

namespace Shape

structure Gives (s : Shape α) (ms : List (String × Json)) (a : α) : Prop where
  checks : List.Forall₂ (fun c m => c.1 = m.1 ∧ ReadAs c.2 m.2 ()) s.checks ms
  members : ∀ all : List (Option String × Document), (∀ m ∈ ms, ∃ j, Restates m.2 j ∧
    all.find? (·.1 = some m.1) = some (some m.1, .ofValue j)) → s.fromMembers all = .ok a
  items : ∀ js, List.Forall₂ Restates (ms.map (·.2)) js → ∀ rest,
    s.fromItems (Document.ofValues js ++ rest) = .ok (a, rest)

theorem find?_ofMembers {names : List String} {all : List (String × Json)} {key : String} {j : Json}
    (honce : all.Pairwise fun m m' => m.1 = m'.1 → m.1 ∉ names) (hkey : key ∈ names)
    (hmem : (key, j) ∈ all) :
    (Document.ofMembers all).find? (·.1 = some key) = some (some key, .ofValue j) := by
  induction all with
  | nil => simp at hmem
  | cons m all ih =>
    obtain ⟨first, i⟩ := m
    obtain ⟨hfirst, hrest⟩ := List.pairwise_cons.mp honce
    rw [Document.ofMembers]
    rcases List.mem_cons.mp hmem with heq | hlater
    · obtain ⟨rfl, rfl⟩ := Prod.mk.inj heq
      simp
    · have hne : first ≠ key := fun heq => hfirst _ hlater heq (heq ▸ hkey)
      rw [List.find?_cons_of_neg (by simp [hne]), ih hrest hlater]

mutual

theorem ignore_ofValue : ∀ j : Json, Decode.ignore (.ofValue j) = .ok ()
  | .null | .bool _ | .int _ | .float _ | .text _ => rfl
  | .list js => ignore_ofValues js
  | .record ms => ignore_ofMembers ms

theorem ignore_ofValues : ∀ js : List Json, Decode.ignoreItems (Document.ofValues js) = .ok ()
  | [] => rfl
  | j :: js => by
    rw [Document.ofValues, Decode.ignoreItems, ignore_ofValue j, ignore_ofValues js]
    rfl

theorem ignore_ofMembers : ∀ ms : List (String × Json),
    Decode.ignoreMembers (Document.ofMembers ms) = .ok ()
  | [] => rfl
  | (_, j) :: ms => by
    rw [Document.ofMembers, Decode.ignoreMembers, ignore_ofValue j, ignore_ofMembers ms]
    rfl

end

theorem check_ofMembers {checks : List (String × (Document → Reading Unit))} {seen : List String}
    {all : List (String × Json)}
    (honce : all.Pairwise fun m m' => m.1 = m'.1 → m.1 ∉ checks.map (·.1))
    (hseen : ∀ m ∈ all, m.1 ∈ checks.map (·.1) → m.1 ∉ seen)
    (htest : ∀ m ∈ all, ∀ c, checks.find? (·.1 = m.1) = some c → c.2 (.ofValue m.2) = .ok ()) :
    check checks seen (Document.ofMembers all) = .ok () := by
  induction all generalizing seen with
  | nil => rfl
  | cons m all ih =>
    obtain ⟨key, j⟩ := m
    obtain ⟨hfirst, hrest⟩ := List.pairwise_cons.mp honce
    obtain ⟨hfresh, hseen⟩ := List.forall_mem_cons.mp hseen
    obtain ⟨hfits, htest⟩ := List.forall_mem_cons.mp htest
    rw [Document.ofMembers, check]
    cases hfind : checks.find? (·.1 = key) with
    | none =>
      simp only [ignore_ofValue]
      exact ih hrest hseen htest
    | some c =>
      obtain ⟨name, test⟩ := c
      have hknown : key ∈ checks.map (·.1) := by
        have hname : name = key := by simpa using List.find?_some hfind
        exact hname ▸ List.mem_map_of_mem (List.mem_of_find?_eq_some hfind)
      have hnew : seen.contains key = false := by simpa using hfresh hknown
      have hok : test (.ofValue j) = .ok () := hfits _ hfind
      simp only [hnew, Bool.false_eq_true, if_false, hok]
      refine ih hrest (fun m hm hkey => ?_) htest
      have hne : m.1 ≠ key := fun heq => hfirst m hm heq.symm hknown
      simpa [hne] using hseen m hm hkey

namespace Gives

theorem pure (a : α) : (Pure.pure a : Shape α).Gives [] a where
  checks := .nil
  members _ _ := rfl
  items js hjs rest := by
    cases hjs
    rfl

theorem field {dec : Decoder α} {j : Json} {a : α} (h : ReadAs dec j a) (key : String)
    (absent : Absent α) : (Shape.field key absent dec).Gives [(key, j)] a where
  checks := by
    refine .cons ⟨rfl, fun j' hj' => ?_⟩ .nil
    simp only [h j' hj', Except.map]
  members all hall := by
    obtain ⟨j', hj', hfind⟩ := hall _ (List.mem_singleton_self _)
    simp only [Shape.field, hfind, h j' hj']
  items js hjs rest := by
    obtain ⟨j', js', hj', hjs', rfl⟩ := List.forall₂_cons_left_iff.mp hjs
    cases hjs'
    simp [Shape.field, Document.ofValues, h j' hj', Except.map]

theorem seq {f : Shape (α → β)} {x : Shape α} {ms ms' : List (String × Json)} {g : α → β} {a : α}
    (hf : f.Gives ms g) (hx : x.Gives ms' a) : (f <*> x).Gives (ms ++ ms') (g a) where
  checks := List.rel_append hf.checks hx.checks
  members all hall := by
    obtain ⟨hfirst, hsecond⟩ := List.forall_mem_append.mp hall
    change (do
      let g ← f.fromMembers all
      let a ← x.fromMembers all
      .ok (g a)) = _
    rw [hf.members all hfirst, hx.members all hsecond]
    rfl
  items js hjs rest := by
    rw [List.map_append] at hjs
    obtain ⟨js, js', rfl, hjs, hjs'⟩ := exists_append hjs
    change (f.fromItems _ >>= fun y => x.fromItems y.2 >>= fun z => .ok (y.1 z.1, z.2)) = _
    rw [Document.ofValues_append, List.append_assoc, hf.items js hjs]
    change (x.fromItems _ >>= fun z => .ok (g z.1, z.2)) = _
    rw [hx.items js' hjs']
    rfl

theorem map {g : α → β} {x : Shape α} {ms : List (String × Json)} {a : α} (hx : x.Gives ms a) :
    (g <$> x).Gives ms (g a) := seq (pure g) hx

theorem names_eq {s : Shape α} {ms : List (String × Json)} {a : α} (h : s.Gives ms a) :
    s.names = ms.map (·.1) := by
  rw [names, ← List.forall₂_eq_eq_eq, List.forall₂_map_left_iff, List.forall₂_map_right_iff]
  exact h.checks.imp fun _ _ hm => hm.1

theorem decode {s : Shape α} {ms : List (String × Json)} {a : α} (h : s.Gives ms a)
    (hn : s.names.Nodup) : ReadAs s.decode (.record ms) a := by
  intro j hj
  rw [h.names_eq] at hn
  rcases hj.members hn with ⟨all, rfl, hall⟩ | ⟨js, rfl, hjs⟩
  · have hcheck : check s.checks [] (Document.ofMembers all) = .ok () := by
      have honce := hall.once
      rw [← h.names_eq] at honce
      refine check_ofMembers honce (fun _ _ _ => List.not_mem_nil) fun m hm c hc => ?_
      obtain ⟨⟨key, i⟩, hi, rfl, hread⟩ := exists_right h.checks (List.mem_of_find?_eq_some hc)
      have hkey : c.1 = m.1 := by simpa using List.find?_some hc
      obtain ⟨i', hi', hrestates⟩ := hall.fitting m hm (hkey ▸ List.mem_map_of_mem hi)
      have hsame := List.inj_on_of_nodup_map hn hi hi' hkey
      obtain rfl : i = i' := (Prod.mk.inj hsame).2
      exact hread _ hrestates
    have hread : s.fromMembers (Document.ofMembers all) = .ok a := by
      refine h.members _ fun m hm => ?_
      obtain ⟨j, hj, hmem⟩ := hall.given m hm
      exact ⟨j, hj, find?_ofMembers hall.once (List.mem_map_of_mem hm) hmem⟩
    rw [Document.ofValue, Shape.decode, hcheck]
    exact hread
  · have hread := h.items js hjs []
    rw [List.append_nil] at hread
    rw [Document.ofValue, Shape.decode, hread]
    rfl

end Gives

theorem Reads.required (key : String) (dec : Decoder α)
    (hnull : dec .null = .error .mismatched) :
    (Shape.required key dec).Reads [key] fun part => dec (part key) where
  members ms := by
    simp only [Shape.required, Shape.field, memberOf]
    cases ms.find? (·.1 = some key) with
    | none => exact hnull.symm
    | some m => rfl
  items {ds a rest} h := by
    cases ds with
    | nil => simp [Shape.required, Shape.field] at h
    | cons d ds =>
      cases hd : dec d with
      | error e => simp [Shape.required, Shape.field, hd, Except.map] at h
      | ok a' =>
        simp only [Shape.required, Shape.field, hd, Except.map] at h
        obtain ⟨rfl, rfl⟩ := Prod.mk.inj (Except.ok.inj h)
        refine ⟨[d], rfl, rfl, fun part hpart => ?_⟩
        rwa [List.singleton_inj.mp hpart]

end Shape

theorem exactItems_map {encode : α → Json} (h : ∀ a, (encode a).Exact) (as : List α) :
    ExactItems (as.map encode) := by
  induction as with
  | nil => trivial
  | cons a as ih => exact ⟨h a, ih⟩

/-- Encoding and decoding undo each other: on the legal values, which are all that decoding can
give, and whether a value is handed over or its text. -/
structure Faithful (legal : α → Prop) (encode : α → Json) (decode : Decoder α) : Prop where
  exact : ∀ a, (encode a).Exact
  back : ∀ a, legal a → ∀ j, Restates (encode a) j →
    decodeValue? decode j = some a ∧ (j.Exact → decodeText decode j.write = .ok a)
  again : ∀ j a, decodeValue? decode j = some a →
    legal a ∧ decodeValue? decode (encode a) = some a
  text_again : ∀ s a, decodeText decode s = .ok a →
    legal a ∧ decodeText decode (encode a).write = .ok a

theorem Faithful.of_readAs {legal : α → Prop} {encode : α → Json} {decode : Decoder α}
    (hexact : ∀ a, (encode a).Exact) (hread : ∀ a, legal a → ReadAs decode (encode a) a)
    (hlegal : ∀ {d a}, decode d = .ok a → legal a) : Faithful legal encode decode := by
  have hvalue {a : α} (ha : legal a) {j : Json} (hj : Restates (encode a) j) :
      decodeValue? decode j = some a := by
    rw [decodeValue?, hread a ha j hj]
    rfl
  have htext {a : α} (ha : legal a) {j : Json} (hj : Restates (encode a) j) (hx : j.Exact) :
      decodeText decode j.write = .ok a := by
    rw [decodeText, write, String.toList_ofList, decodeChars_chars decode hx, hread a ha j hj]
  refine ⟨hexact, fun a ha j hj => ⟨hvalue ha hj, htext ha hj⟩, fun j a h => ?_, fun s a h => ?_⟩
  · rw [decodeValue?] at h
    cases hd : decode (.ofValue j) with
    | error e => simp [hd, Except.toOption] at h
    | ok a' =>
      obtain rfl : a' = a := by simpa [hd, Except.toOption] using h
      exact ⟨hlegal hd, hvalue (hlegal hd) (.refl _)⟩
  · obtain ⟨d, -, hd⟩ := decodeChars_eq_ok h
    exact ⟨hlegal hd, htext (hlegal hd) (.refl _) (hexact a)⟩

end CityGuide.Json
