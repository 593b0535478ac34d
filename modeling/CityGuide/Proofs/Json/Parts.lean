import CityGuide.Proofs.Json.Overlooking

namespace CityGuide.Json

variable {α β : Type}

theorem bind_eq_ok {ε : Type} {x : Except ε α} {k : α → Except ε β} {b : β} :
    x >>= k = .ok b ↔ ∃ a, x = .ok a ∧ k a = .ok b := by
  cases x <;> simp [Bind.bind, Except.bind]

theorem seq_eq_ok {f : Reading (α → β)} {x : Reading α} {b : β} :
    (do
      let g ← f
      let a ← x
      .ok (g a)) = .ok b ↔ ∃ g a, f = .ok g ∧ x = .ok a ∧ g a = b := by
  cases f <;> cases x <;> simp [Bind.bind, Except.bind]

theorem decodeChars_eq_ok {dec : Decoder α} {cs : List Char} {a : α}
    (h : decodeChars dec cs = .ok a) : ∃ d, Document.ofChars cs = (d, true) ∧ dec d = .ok a := by
  rw [decodeChars] at h
  generalize Document.ofChars cs = read at h
  obtain ⟨d, ended⟩ := read
  obtain ⟨b, hb, hended⟩ := bind_eq_ok.mp h
  cases ended with
  | true => exact ⟨d, rfl, hb.trans hended⟩
  | false => simp at hended

def memberOf (ms : List (Option String × Document)) (key : String) : Document :=
  ((ms.find? (·.1 = some key)).map (·.2)).getD .null

/-- What a document gives for one of the names: the member of a record, or the item that stands in
a list where the name stands among the names. Nothing is given as null is. -/
def Document.part (names : List String) : Document → String → Document
  | .record ms, key => memberOf ms key
  | .list ds, key => ((names.zip ds).lookup key).getD .null
  | _, _ => .null

def Document.isNull : Document → Bool
  | .null => true
  | _ => false

theorem Decode.opt_of_isNull {dec : Decoder α} {d : Document} (h : d.isNull = true) :
    opt dec d = .ok none := by
  cases d with
  | null => rfl
  | _ => simp [Document.isNull] at h

theorem Decode.opt_of_given {dec : Decoder α} {d : Document} (h : d.isNull = false) :
    opt dec d = (dec d).map some := by
  cases d with
  | null => simp [Document.isNull] at h
  | _ => rfl

theorem Document.map_part {names : List String} {ds : List Document} (hn : names.Nodup)
    (hl : ds.length = names.length) : names.map (Document.part names (.list ds)) = ds := by
  induction names generalizing ds with
  | nil => exact (List.length_eq_zero_iff.mp hl).symm
  | cons name names ih =>
    cases ds with
    | nil => simp at hl
    | cons d ds =>
      obtain ⟨hfirst, hrest⟩ := List.nodup_cons.mp hn
      have hlater : ∀ key ∈ names, Document.part (name :: names) (.list (d :: ds)) key =
          Document.part names (.list ds) key := by
        intro key hkey
        have hne : key ≠ name := fun h => hfirst (h ▸ hkey)
        simp [Document.part, List.lookup_cons, beq_false_of_ne hne]
      rw [List.map_cons, List.map_congr_left hlater, ih hrest (by simpa using hl)]
      simp [Document.part]

namespace Shape

structure Reads (s : Shape α) (names : List String) (get : (String → Document) → Reading α) :
    Prop where
  members : ∀ ms, s.fromMembers ms = get (memberOf ms)
  items : ∀ {ds a rest}, s.fromItems ds = .ok (a, rest) → ∃ items, ds = items ++ rest ∧
    items.length = names.length ∧ ∀ part, names.map part = items → get part = .ok a

namespace Reads

theorem pure (a : α) : (Pure.pure a : Shape α).Reads [] fun _ => .ok a where
  members _ := rfl
  items h := by
    obtain ⟨rfl, rfl⟩ := Prod.mk.inj (Except.ok.inj h)
    exact ⟨[], rfl, rfl, fun _ _ => rfl⟩

theorem seq {f : Shape (α → β)} {x : Shape α} {names names' : List String}
    {get : (String → Document) → Reading (α → β)} {get' : (String → Document) → Reading α}
    (hf : f.Reads names get) (hx : x.Reads names' get') :
    (f <*> x).Reads (names ++ names') fun part => do
      let g ← get part
      let a ← get' part
      .ok (g a) where
  members ms := by
    change (f.fromMembers ms >>= fun g => _) = _
    rw [hf.members, hx.members]
  items {ds b rest} h := by
    change (f.fromItems ds >>= fun y => x.fromItems y.2 >>= fun z => .ok (y.1 z.1, z.2)) = _ at h
    obtain ⟨⟨g, mid⟩, hg, h⟩ := bind_eq_ok.mp h
    obtain ⟨⟨a, rest'⟩, ha, h⟩ := bind_eq_ok.mp h
    obtain ⟨rfl, rfl⟩ := Prod.mk.inj (Except.ok.inj h)
    obtain ⟨items, rfl, hl, hget⟩ := hf.items hg
    obtain ⟨items', rfl, hl', hget'⟩ := hx.items ha
    refine ⟨items ++ items', by simp, by simp [hl, hl'], fun part hpart => ?_⟩
    rw [List.map_append] at hpart
    obtain ⟨hfirst, hsecond⟩ := List.append_inj hpart (by simp [hl])
    exact bind_eq_ok.mpr ⟨g, hget part hfirst, bind_eq_ok.mpr ⟨a, hget' part hsecond, rfl⟩⟩

theorem map {f : α → β} {x : Shape α} {names : List String}
    {get : (String → Document) → Reading α} (hx : x.Reads names get) :
    (f <$> x).Reads names fun part => get part >>= fun a => .ok (f a) :=
  seq (pure f) hx

theorem optional (key : String) (dec : Decoder α) :
    (Shape.optional key dec).Reads [key] fun part => Decode.opt dec (part key) where
  members ms := by
    simp only [Shape.optional, field, memberOf]
    cases ms.find? (·.1 = some key) <;> rfl
  items {ds o rest} h := by
    cases ds with
    | nil => simp [Shape.optional, field] at h
    | cons d ds =>
      cases hd : Decode.opt dec d with
      | error e => simp [Shape.optional, field, hd, Except.map] at h
      | ok o' =>
        simp only [Shape.optional, field, hd, Except.map] at h
        obtain ⟨rfl, rfl⟩ := Prod.mk.inj (Except.ok.inj h)
        refine ⟨[d], rfl, rfl, fun part hpart => ?_⟩
        rwa [List.singleton_inj.mp hpart]

theorem first (f : Option α → β) (key : String) (dec : Decoder α) :
    (f <$> Shape.optional key dec).Reads [key] fun part =>
      Decode.opt dec (part key) >>= fun o => .ok (f o) := map (optional key dec)

theorem field {f : Shape (Option α → β)} {names : List String}
    {get : (String → Document) → Reading (Option α → β)} (hf : f.Reads names get) (key : String)
    (dec : Decoder α) :
    (f <*> Shape.optional key dec).Reads (names ++ [key]) fun part => (do
      let g ← get part
      let o ← Decode.opt dec (part key)
      .ok (g o)) := seq hf (optional key dec)

theorem decode {s : Shape α} {names : List String} {get : (String → Document) → Reading α}
    (h : s.Reads names get) (hn : names.Nodup) {doc : Document} {a : α}
    (hd : s.decode doc = .ok a) : get (doc.part names) = .ok a := by
  cases doc with
  | record ms =>
    obtain ⟨-, -, hd⟩ := bind_eq_ok.mp hd
    rwa [h.members ms] at hd
  | list ds =>
    obtain ⟨⟨a', rest⟩, hi, hd⟩ := bind_eq_ok.mp hd
    cases rest with
    | cons d rest => simp at hd
    | nil =>
      obtain rfl := Except.ok.inj hd
      obtain ⟨items, rfl, hl, hget⟩ := h.items hi
      rw [List.append_nil]
      exact hget _ (Document.map_part hn hl)
  | null | bool | number | text | broken => simp [Shape.decode] at hd

end Reads

end Shape

end CityGuide.Json
