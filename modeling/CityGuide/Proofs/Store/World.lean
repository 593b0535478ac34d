import CityGuide.Proofs.Store.Runs
import CityGuide.Proofs.Store.Tables

namespace CityGuide.Store

inductive Phase where
  | free
  | within (held : List Delta)
  | broken

structure World (κ : Type) where
  tables : Tables
  phase : κ → Phase
  drawn : Set Uuid

variable {κ : Type}

inductive Version (T : Tables) (past : List (κ × Step)) : String → Row → Prop
  | initial {table : String} {row : Row} (h : row ∈ T table) : Version T past table row
  | inserted {table : String} {row : Row} {k : κ} {st : Sql.Statement} {a : Answer}
      {assigned : List Sql.Assignment} (hx : (k, .asked (.run st) (.ok a)) ∈ past)
      (hi : Inserts st table assigned) (hr : row.Holds assigned) : Version T past table row
  | revised {table : String} {old row : Row} {k : κ} {st : Sql.Statement} {a : Answer}
      {changes : List Sql.Assignment} (hx : (k, .asked (.run st) (.ok a)) ∈ past)
      (ha : Assigns st table changes) (hv : Version T past table old)
      (hr : old.Revises changes row) : Version T past table row

theorem Version.mono {T : Tables} {past past' : List (κ × Step)} {table : String} {row : Row}
    (h : Version T past table row) (hsub : past ⊆ past') : Version T past' table row := by
  induction h with
  | initial h => exact .initial h
  | inserted hx hi hr => exact .inserted (hsub hx) hi hr
  | revised hx ha _ hr ih => exact .revised (hsub hx) ha ih hr

theorem Executes.versions {T₀ T : Tables} {past : List (κ × Step)} {k : κ} {st : Sql.Statement}
    {a : Answer} {d : Delta} (he : Executes T st a d)
    (hT : ∀ table, ∀ row ∈ T table, Version T₀ past table row) :
    ∀ table, ∀ row ∈ d.come table,
      Version T₀ (past ++ [(k, .asked (.run st) (.ok a))]) table row := by
  intro table row hrow
  have hlast : (k, Step.asked (.run st) (.ok a)) ∈ past ++ [(k, .asked (.run st) (.ok a))] := by
    simp
  rcases he.come_cases hrow with ⟨assigned, hi, hr⟩ | ⟨changes, ha, old, hold, hr⟩
  · exact .inserted hlast hi hr
  · exact .revised hlast ha ((hT table old hold).mono (List.subset_append_left ..)) hr

theorem mem_foldl_on {T : Tables} {held : List Delta} {table : String} {row : Row}
    (h : row ∈ held.foldl (fun T d => d.on T) T table) :
    row ∈ T table ∨ ∃ d ∈ held, row ∈ d.come table := by
  induction held generalizing T with
  | nil => exact .inl h
  | cons d held ih =>
    rcases ih h with hrow | ⟨d', hd', hrow⟩
    · rcases Delta.mem_on.mp hrow with ⟨hrow, -⟩ | hrow
      · exact .inl hrow
      · exact .inr ⟨d, .head _, hrow⟩
    · exact .inr ⟨d', .tail _ hd', hrow⟩

namespace World

def view (w : World κ) (k : κ) : Tables :=
  match w.phase k with
  | .within held => held.foldl (fun T d => d.on T) w.tables
  | .free | .broken => w.tables

structure Known (T : Tables) (past : List (κ × Step)) (w : World κ) : Prop where
  tables : ∀ table, ∀ row ∈ w.tables table, Version T past table row
  held : ∀ k held, w.phase k = .within held →
    ∀ d ∈ held, ∀ table, ∀ row ∈ d.come table, Version T past table row

section

variable {T : Tables} {past : List (κ × Step)} {w : World κ}

theorem Known.view (h : Known T past w) (k : κ) :
    ∀ table, ∀ row ∈ w.view k table, Version T past table row := by
  intro table row hrow
  rw [World.view] at hrow
  cases hp : w.phase k with
  | within held =>
    rw [hp] at hrow
    rcases mem_foldl_on hrow with hrow | ⟨d, hd, hrow⟩
    · exact h.tables table row hrow
    · exact h.held k held hp d hd table row hrow
  | free | broken =>
    rw [hp] at hrow
    exact h.tables table row hrow

theorem Known.mono {past' : List (κ × Step)} (h : Known T past w) (hsub : past ⊆ past') :
    Known T past' w where
  tables table row hrow := (h.tables table row hrow).mono hsub
  held k held hp d hd table row hrow := (h.held k held hp d hd table row hrow).mono hsub

end

end World

variable [DecidableEq κ]

namespace World

def enter (w : World κ) (k : κ) (p : Phase) : World κ :=
  { w with phase := Function.update w.phase k p }

/-- One step of one conversation. A statement outside a transaction takes effect at once, one inside
when the transaction is committed; an identifier is never drawn twice. -/
inductive Moves (k : κ) (w : World κ) : Step → World κ → Prop
  | begun (a : Answer) (hp : w.phase k = .free) :
      Moves k w (.asked .begin (.ok a)) (w.enter k (.within []))
  | unbegun (f : Failure) : Moves k w (.asked .begin (.error f)) w
  | made {st : Sql.Statement} {a : Answer} {d : Delta} (hp : w.phase k = .free)
      (he : Executes w.tables st a d) :
      Moves k w (.asked (.run st) (.ok a)) { w with tables := d.on w.tables }
  | held {st : Sql.Statement} {a : Answer} {d : Delta} {held : List Delta}
      (hp : w.phase k = .within held) (he : Executes (w.view k) st a d) :
      Moves k w (.asked (.run st) (.ok a)) (w.enter k (.within (held ++ [d])))
  | refused (st : Sql.Statement) (f : Failure) (hp : w.phase k = .free) :
      Moves k w (.asked (.run st) (.error f)) w
  | spoiled (st : Sql.Statement) (f : Failure) (hp : w.phase k ≠ .free) :
      Moves k w (.asked (.run st) (.error f)) (w.enter k .broken)
  | committed {held : List Delta} (a : Answer) (hp : w.phase k = .within held) :
      Moves k w (.asked .commit (.ok a)) { w.enter k .free with tables := w.view k }
  | uncommitted (f : Failure) : Moves k w (.asked .commit (.error f)) (w.enter k .free)
  | undone (a : Answer) (hp : w.phase k = .broken) :
      Moves k w (.asked .commit (.ok a)) (w.enter k .free)
  | rolledBack (r : Reply) : Moves k w (.asked .rollback r) (w.enter k .free)
  | drewId (u : Uuid) (hu : u ∉ w.drawn) :
      Moves k w (.drewId u) { w with drawn := insert u w.drawn }
  | drewSalt (s : Password.Salt) : Moves k w (.drewSalt s) w
  | readClock (i : Time.Instant) : Moves k w (.readClock i) w

theorem Moves.looked {w : World κ} {k : κ} {st : Sql.Statement} {a : Answer}
    (hp : w.phase k = .free) (he : Executes w.tables st a .none) :
    w.Moves k (.asked (.run st) (.ok a)) w := by
  have hmade := Moves.made hp he
  rwa [Delta.none_on] at hmade

inductive Unfolds (w : World κ) : List (κ × Step) → World κ → Prop
  | start : Unfolds w [] w
  | step {past : List (κ × Step)} {w' w'' : World κ} {k : κ} {x : Step} (h : Unfolds w past w')
      (hm : w'.Moves k x w'') : Unfolds w (past ++ [(k, x)]) w''

end World

def own (k : κ) (past : List (κ × Step)) : List Step :=
  past.filterMap fun x => if x.1 = k then some x.2 else none

theorem own_append (k : κ) (past future : List (κ × Step)) :
    own k (past ++ future) = own k past ++ own k future := List.filterMap_append

theorem mem_own {k : κ} {past : List (κ × Step)} {x : Step} :
    x ∈ own k past ↔ (k, x) ∈ past := by
  simp only [own, List.mem_filterMap, Option.ite_none_right_eq_some, Option.some.injEq]
  constructor
  · rintro ⟨⟨k', x'⟩, hmem, rfl, rfl⟩
    exact hmem
  · intro hmem
    exact ⟨_, hmem, rfl, rfl⟩

namespace World

variable {T : Tables} {past : List (κ × Step)} {w w' : World κ} {k : κ} {x : Step}

theorem Known.enter (h : Known T past w) {p : Phase}
    (hp : ∀ held, p = .within held →
      ∀ d ∈ held, ∀ table, ∀ row ∈ d.come table, Version T past table row) :
    Known T past (w.enter k p) where
  tables := h.tables
  held j held hj := by
    by_cases hjk : j = k
    · subst hjk
      exact hp held (by simpa [World.enter] using hj)
    · exact h.held j held (by simpa [World.enter, hjk] using hj)

theorem Known.moves (h : Known T past w) (hm : w.Moves k x w') :
    Known T (past ++ [(k, x)]) w' := by
  have hpast := h.mono (List.subset_append_left past [(k, x)])
  cases hm with
  | unbegun | refused | drewSalt | readClock => exact hpast
  | drewId => exact ⟨hpast.tables, hpast.held⟩
  | begun => exact hpast.enter (by simp)
  | spoiled | uncommitted | undone | rolledBack => exact hpast.enter nofun
  | made hp he =>
    refine ⟨fun table row hrow => ?_, hpast.held⟩
    rcases Delta.mem_on.mp hrow with ⟨hrow, -⟩ | hrow
    · exact hpast.tables table row hrow
    · exact he.versions h.tables table row hrow
  | @held st a d held hp he =>
    refine hpast.enter fun held' heq d' hd' => ?_
    obtain rfl := Phase.within.inj heq
    rcases List.mem_append.mp hd' with hd' | hd'
    · exact hpast.held k held hp d' hd'
    · obtain rfl := List.mem_singleton.mp hd'
      exact he.versions (h.view k)
  | committed =>
    -- What takes effect now was held back before.
    have hfree := hpast.enter (k := k) (p := .free) nofun
    exact ⟨hpast.view k, hfree.held⟩

theorem Unfolds.known {w₀ : World κ} (hidle : ∀ k, w₀.phase k = .free) (h : w₀.Unfolds past w) :
    Known w₀.tables past w := by
  induction h with
  | start =>
    refine ⟨fun table row => .initial, fun k held hp => ?_⟩
    rw [hidle k] at hp
    contradiction
  | step _ hm ih => exact ih.moves hm

theorem Unfolds.found {w₀ : World κ} (hidle : ∀ k, w₀.phase k = .free) (h : w₀.Unfolds past w)
    {table : String} {id : Uuid} {a : Answer}
    (hx : (k, .asked (.run (.find table id)) (.ok a)) ∈ past) :
    ∀ row ∈ a.rows, Version w₀.tables past table row ∧ row.Named id := by
  intro row hrow
  induction h with
  | start => simp at hx
  | @step past w' w'' j y h hm ih =>
    rcases List.mem_append.mp hx with hx | hx
    · exact (ih hx).imp_left fun hv => hv.mono (List.subset_append_left ..)
    · obtain ⟨rfl, rfl⟩ := Prod.mk.inj (List.mem_singleton.mp hx)
      have hknown := h.known hidle
      have hsub := List.subset_append_left past [(k, Step.asked (.run (.find table id)) (.ok a))]
      cases hm with
      | made hp he =>
        obtain ⟨hmem, hid⟩ := he.find_rows row hrow
        exact ⟨(hknown.tables table row hmem).mono hsub, hid⟩
      | held hp he =>
        obtain ⟨hmem, hid⟩ := he.find_rows row hrow
        exact ⟨(hknown.view k table row hmem).mono hsub, hid⟩

theorem Unfolds.drawn_once {w₀ : World κ} (h : w₀.Unfolds past w) :
    w₀.drawn ⊆ w.drawn ∧ (∀ k u, (k, .drewId u) ∈ past → u ∈ w.drawn ∧ u ∉ w₀.drawn) ∧
      ∀ j k u, (j, .drewId u) ∈ past → (k, .drewId u) ∈ past → j = k := by
  induction h with
  | start => simp
  | @step past w' w'' i x h hm ih =>
    obtain ⟨hsub, hknown, honce⟩ := ih
    have hgrows : w'.drawn ⊆ w''.drawn := by
      cases hm with
      | drewId => exact Set.subset_insert ..
      | _ => exact fun _ hu => hu
    have hlast : ∀ u, x = .drewId u → u ∉ w'.drawn ∧ u ∈ w''.drawn := by
      rintro u rfl
      cases hm with
      | drewId _ hu => exact ⟨hu, Set.mem_insert ..⟩
    -- Either both drawings lie in the past, or the last step is one of them.
    refine ⟨hsub.trans hgrows, fun k u hx => ?_, fun j k u hj hk => ?_⟩
    · rcases List.mem_append.mp hx with hx | hx
      · exact ⟨hgrows (hknown k u hx).1, (hknown k u hx).2⟩
      · obtain ⟨-, rfl⟩ := Prod.mk.inj (List.mem_singleton.mp hx)
        obtain ⟨hnew, hu⟩ := hlast u rfl
        exact ⟨hu, fun h₀ => hnew (hsub h₀)⟩
    · rcases List.mem_append.mp hj with hjpast | hjlast <;>
        rcases List.mem_append.mp hk with hkpast | hklast
      · exact honce j k u hjpast hkpast
      · obtain ⟨-, rfl⟩ := Prod.mk.inj (List.mem_singleton.mp hklast)
        exact absurd (hknown j u hjpast).1 (hlast u rfl).1
      · obtain ⟨-, rfl⟩ := Prod.mk.inj (List.mem_singleton.mp hjlast)
        exact absurd (hknown k u hkpast).1 (hlast u rfl).1
      · obtain ⟨rfl, -⟩ := Prod.mk.inj (List.mem_singleton.mp hjlast)
        exact (Prod.mk.inj (List.mem_singleton.mp hklast)).1.symm

end World

end CityGuide.Store
