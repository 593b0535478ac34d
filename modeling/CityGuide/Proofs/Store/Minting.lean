import CityGuide.Proofs.Store.Entities
import Mathlib.Data.Set.Insert
import Mathlib.Data.Set.Lattice

namespace CityGuide

open Store

def ownerColumns : List (String × String) :=
  [(Business.table, "owner_id"), (Review.table, "user_id"), (Report.table, "user_id"),
    (Bookmark.table, "user_id"), (Promotion.table, "user_id")]

def keptColumns : List (String × String) := (Event.table, "business_id") :: ownerColumns

namespace Store

def Mints (c : Command) (id : Uuid) : Prop :=
  ∃ table row ending, c = .run (.insert table row ending) ∧ table ∈ keptColumns.map Prod.fst ∧
    ("id", .uuid id) ∈ row

def Mintless (c : Command) : Prop := ∀ id, ¬Mints c id

theorem mintless_of_not_insert {st : Sql.Statement}
    (h : ∀ table row ending, st ≠ .insert table row ending) : Mintless (.run st) := by
  rintro id ⟨table, row, ending, hc, -⟩
  exact h table row ending (Command.run.inj hc)

theorem mintless_of_not_run {c : Command} (h : ∀ st, c ≠ .run st) : Mintless c := by
  rintro id ⟨table, row, ending, rfl, -⟩
  exact h _ rfl

def Spends (D : Set Uuid) : List Step → Prop
  | [] => True
  | .drewId u :: t => Spends (insert u D) t
  | .asked c _ :: t => (∀ id, Mints c id → id ∈ D) ∧ Spends D t
  | .drewSalt _ :: t | .readClock _ :: t => Spends D t

def drawnIn (t : List Step) : Set Uuid := {u | .drewId u ∈ t}

theorem spends_append {D : Set Uuid} {t u : List Step} :
    Spends D (t ++ u) ↔ Spends D t ∧ Spends (D ∪ drawnIn t) u := by
  induction t generalizing D with
  | nil => simp [Spends, drawnIn]
  | cons x t ih =>
    cases x with
    | drewId v =>
      have hdrawn : insert v D ∪ drawnIn t = D ∪ drawnIn (.drewId v :: t) := by
        ext w
        simp [drawnIn]
        tauto
      simp only [List.cons_append, Spends, ih, hdrawn]
    | asked c r =>
      have hdrawn : drawnIn (.asked c r :: t) = drawnIn t := by simp [drawnIn]
      simp only [List.cons_append, Spends, ih, hdrawn, and_assoc]
    | drewSalt s =>
      have hdrawn : drawnIn (.drewSalt s :: t) = drawnIn t := by simp [drawnIn]
      simp only [List.cons_append, Spends, ih, hdrawn]
    | readClock i =>
      have hdrawn : drawnIn (.readClock i :: t) = drawnIn t := by simp [drawnIn]
      simp only [List.cons_append, Spends, ih, hdrawn]

theorem Spends.mono {D D' : Set Uuid} {t : List Step} (h : Spends D t) (hD : D ⊆ D') :
    Spends D' t := by
  induction t generalizing D D' with
  | nil => trivial
  | cons x t ih =>
    cases x with
    | drewId v => exact ih h (Set.insert_subset_insert hD)
    | asked c r => exact ⟨fun id hm => hD (h.1 id hm), ih h.2 hD⟩
    | drewSalt | readClock => exact ih h hD

theorem Spends.drawn {D : Set Uuid} {t : List Step} (h : Spends D t) {c : Command} {r : Reply}
    {id : Uuid} (hx : .asked c r ∈ t) (hm : Mints c id) : id ∈ D ∨ .drewId id ∈ t := by
  induction t generalizing D with
  | nil => simp at hx
  | cons x t ih =>
    cases x with
    | drewId v =>
      rcases ih h (by simpa using hx) with hid | hid
      · rcases Set.mem_insert_iff.mp hid with rfl | hid
        · exact .inr (.head _)
        · exact .inl hid
      · exact .inr (.tail _ hid)
    | asked c' r' =>
      rcases List.mem_cons.mp hx with heq | hx
      · obtain ⟨rfl, -⟩ := Step.asked.inj heq
        exact .inl (h.1 id hm)
      · exact (ih h.2 hx).imp_right (.tail _)
    | drewSalt | readClock => exact (ih h (by simpa using hx)).imp_right (.tail _)

theorem spends_of_mintless {D : Set Uuid} {t : List Step} (h : ∀ x ∈ exchanges t, Mintless x.1) :
    Spends D t := by
  induction t generalizing D with
  | nil => trivial
  | cons x t ih =>
    cases x with
    | asked c r =>
      obtain ⟨hc, ht⟩ := List.forall_mem_cons.mp h
      exact ⟨fun id hm => absurd hm (hc id), ih ht⟩
    | drewId | drewSalt | readClock => exact ih h

structure Sparing (D : Set Uuid) (t : List Step) : Prop where
  spends : Spends D t
  once : ∀ x ∈ exchanges t, ∀ y ∈ exchanges t, ∀ id id', Mints x.1 id → Mints y.1 id' → x.1 = y.1

theorem sparing_of_mintless {D : Set Uuid} {t : List Step} (h : ∀ x ∈ exchanges t, Mintless x.1) :
    Sparing D t :=
  ⟨spends_of_mintless h, fun x hx _ _ id _ hm => absurd hm (h x hx id)⟩

theorem Sparing.append_mintless {D : Set Uuid} {t u : List Step} (ht : Sparing D t)
    (hu : ∀ x ∈ exchanges u, Mintless x.1) : Sparing D (t ++ u) where
  spends := spends_append.mpr ⟨ht.spends, spends_of_mintless hu⟩
  once x hx y hy id id' hm hm' := by
    rw [exchanges_append] at hx hy
    have hmem : ∀ z ∈ exchanges t ++ exchanges u, ∀ id, Mints z.1 id → z ∈ exchanges t :=
      fun z hz id hm => (List.mem_append.mp hz).resolve_right fun hz => hu z hz id hm
    exact ht.once x (hmem x hx id hm) y (hmem y hy id' hm') id id' hm hm'

theorem Sparing.mintless_append {D : Set Uuid} {t u : List Step}
    (ht : ∀ x ∈ exchanges t, Mintless x.1) (hu : Sparing D u) : Sparing D (t ++ u) where
  spends := spends_append.mpr
    ⟨spends_of_mintless ht, hu.spends.mono Set.subset_union_left⟩
  once x hx y hy id id' hm hm' := by
    rw [exchanges_append] at hx hy
    have hmem : ∀ z ∈ exchanges t ++ exchanges u, ∀ id, Mints z.1 id → z ∈ exchanges u :=
      fun z hz id hm => (List.mem_append.mp hz).resolve_left fun hz => ht z hz id hm
    exact hu.once x (hmem x hx id hm) y (hmem y hy id' hm') id id' hm hm'

namespace Action

variable {ε ε' α β : Type} {D : Set Uuid}

def Thrifty (D : Set Uuid) (a : Action ε α) : Prop := ∀ t o?, a.Runs t o? → Sparing D t

namespace Thrifty

theorem of_sends {a : Action ε α} (h : Sends Mintless a) : Thrifty D a :=
  fun t o? ht => sparing_of_mintless (h t o? ht)

theorem bind_left {a : Action ε α} {k : α → Action ε β} (ha : Sends Mintless a)
    (hk : ∀ x, Thrifty D (k x)) : Thrifty D (a >>= k) := by
  intro t o? ht
  rcases runs_bind.mp ht with ⟨u, w, x, rfl, hu, hw⟩ | ⟨e, he, -⟩ | ⟨hn, -⟩
  · exact .mintless_append (ha u _ hu) (hk x w _ hw)
  · exact sparing_of_mintless (ha t _ he)
  · exact sparing_of_mintless (ha t _ hn)

theorem bind_right {a : Action ε α} {k : α → Action ε β} (ha : Thrifty D a)
    (hk : ∀ x, Sends Mintless (k x)) : Thrifty D (a >>= k) := by
  intro t o? ht
  rcases runs_bind.mp ht with ⟨u, w, x, rfl, hu, hw⟩ | ⟨e, he, -⟩ | ⟨hn, -⟩
  · exact (ha u _ hu).append_mintless (hk x w _ hw)
  · exact ha t _ he
  · exact ha t _ hn

theorem gate {r : Except ε α} {k : α → Action ε β} (h : ∀ a, Thrifty D (k a)) :
    Thrifty D (Action.ofExcept r >>= k) := bind_left (.ofExcept r) h

theorem mapError {f : ε → ε'} {a : Action ε α} (h : Thrifty D a) : Thrifty D (a.mapError f) := by
  intro t o? ht
  obtain ⟨v?, hv, -⟩ := runs_mapError.mp ht
  exact h t v? hv

theorem newId_bind {k : Uuid → Action ε β} (h : ∀ id, Thrifty (insert id D) (k id)) :
    Thrifty D (Action.newId >>= k) := by
  intro t o? ht
  change (Program.freshId fun id => ExceptT.run (k id)).Runs t o? at ht
  obtain ⟨id, u, rfl, hu⟩ := Program.runs_freshId.mp ht
  obtain ⟨hspends, honce⟩ := h id u o? hu
  exact ⟨hspends, honce⟩

theorem send {c : Command} (h : ∀ id, Mints c id → id ∈ D) : Thrifty D (Action.send c) := by
  intro t o? ht
  obtain ⟨r, rfl, -⟩ := runs_send.mp ht
  exact ⟨⟨h, trivial⟩, by simp⟩

theorem run {st : Sql.Statement} (h : ∀ id, Mints (.run st) id → id ∈ D) :
    Thrifty D (Action.run st) := send h

theorem one {st : Sql.Statement} {read : Row → Option α} (h : ∀ id, Mints (.run st) id → id ∈ D) :
    Thrifty D (Action.one st read) :=
  one_eq_ask st read ▸ bind_right (send h) fun _ => .ofExcept _

theorem transaction {body : Action Failure (Option α)} (h : Thrifty D body) :
    Thrifty D (Action.transaction body) := by
  have hplain : ∀ c, (∀ st, c ≠ .run st) → Mintless c := fun c => mintless_of_not_run
  refine bind_left (.send (hplain _ nofun)) fun _ => bind_right ?_ fun outcome => ?_
  · intro t o? ht
    obtain ⟨v?, hv, -⟩ := runs_lift.mp ht
    exact h t v? hv
  · rcases outcome with e | _ | a
    · exact .bind (.abandon (hplain _ nofun)) fun _ => .ofExcept _
    · exact .bind (.abandon (hplain _ nofun)) fun _ => .ofExcept _
    · refine .bind (.lift (Sends.send (hplain _ nofun))) fun committed => ?_
      cases committed with
      | error e => exact .bind (.abandon (hplain _ nofun)) fun _ => .ofExcept _
      | ok _ => exact .ofExcept _

end Thrifty

end Action

end Store

end CityGuide
