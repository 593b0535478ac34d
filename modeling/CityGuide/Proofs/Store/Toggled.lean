import CityGuide.Proofs.Store.Toggling
import Mathlib.Data.Fintype.Basic
import Mathlib.Data.List.Basic
import Mathlib.Data.List.Induction

namespace CityGuide.Store.Seat

variable {κ : Type} {s : Seat} {x : Step} {c : Stage} {past : List (κ × Step)} {k j : κ}

section

variable {took put took' put' : κ → Prop} {before between : List (κ × Step)} {a : Answer}

theorem snoc_eq_split {y : Step} {lead rest : List (κ × Step)}
    (h : between ++ [(k, x)] = lead ++ (j, y) :: rest) :
    (k = j ∧ x = y) ∨ ∃ rest', rest = rest' ++ [(k, x)] ∧ between = lead ++ (j, y) :: rest' := by
  rcases rest.eq_nil_or_concat with rfl | ⟨rest, last, rfl⟩
  · obtain ⟨-, hlast⟩ := List.append_inj' h rfl
    exact .inl (Prod.mk.inj (List.singleton_inj.mp hlast))
  · rw [List.concat_eq_append, ← List.cons_append, ← List.append_assoc] at h
    obtain ⟨hinit, hlast⟩ := List.append_inj' h rfl
    exact .inr ⟨rest, by rw [List.concat_eq_append, hlast], hinit⟩

def Uncommitted (past : List (κ × Step)) : Prop := ∀ k a, (k, .asked .commit (.ok a)) ∉ past

def Mended (took put : κ → Prop) (between : List (κ × Step)) : Prop :=
  ∀ lead j a rest, between = lead ++ (j, .asked .commit (.ok a)) :: rest → took j →
    ∃ i a', (i, .asked .commit (.ok a')) ∈ rest ∧ put i

theorem mended_nil : Mended took put [] := fun _ _ _ _ h => by simp at h

theorem Mended.mono (h : Mended took put between)
    (htook : ∀ j a, (j, .asked .commit (.ok a)) ∈ between → took' j → took j)
    (hput : ∀ j a, (j, .asked .commit (.ok a)) ∈ between → put j → put' j) :
    Mended took' put' between := by
  rintro lead j a rest rfl hj
  obtain ⟨i, a', hi, hputs⟩ := h lead j a rest rfl (htook j a (by simp) hj)
  exact ⟨i, a', hi, hput i a' (by simp [hi]) hputs⟩

theorem Mended.congr (htook : ∀ j a, (j, .asked .commit (.ok a)) ∈ between → (took' j ↔ took j))
    (hput : ∀ j a, (j, .asked .commit (.ok a)) ∈ between → (put' j ↔ put j)) :
    Mended took' put' between ↔ Mended took put between :=
  ⟨fun h => h.mono (fun j a hj => (htook j a hj).mpr) fun j a hj => (hput j a hj).mp,
    fun h => h.mono (fun j a hj => (htook j a hj).mp) fun j a hj => (hput j a hj).mpr⟩

theorem not_mended_snoc (hk : took k) :
    ¬Mended took put (between ++ [(k, .asked .commit (.ok a))]) := fun h => by
  obtain ⟨i, a', hi, -⟩ := h between k a [] rfl hk
  exact List.not_mem_nil hi

theorem mended_snoc (htook : ¬took k) (hput : put k) :
    Mended took put (between ++ [(k, .asked .commit (.ok a))]) := by
  intro lead j a' rest heq hj
  rcases snoc_eq_split heq with ⟨rfl, -⟩ | ⟨rest, rfl, -⟩
  · exact absurd hj htook
  · exact ⟨k, a, by simp, hput⟩

theorem mended_snoc_iff (hx : ∀ a, x = .asked .commit (.ok a) → ¬took k ∧ ¬put k) :
    Mended took put (between ++ [(k, x)]) ↔ Mended took put between := by
  constructor
  · rintro h lead j a rest rfl hj
    obtain ⟨i, a', hi, hputs⟩ := h lead j a (rest ++ [(k, x)]) (by simp) hj
    rcases List.mem_append.mp hi with hi | hi
    · exact ⟨i, a', hi, hputs⟩
    · obtain ⟨rfl, rfl⟩ := Prod.mk.inj (List.mem_singleton.mp hi)
      exact absurd hputs (hx a' rfl).2
  · intro h lead j a rest heq hj
    rcases snoc_eq_split heq with ⟨rfl, hcommit⟩ | ⟨rest, rfl, hinit⟩
    · exact absurd hj (hx a hcommit).1
    · obtain ⟨i, a', hi, hputs⟩ := h lead j a rest hinit hj
      exact ⟨i, a', List.mem_append_left _ hi, hputs⟩

end

def Removes (s : Seat) (past : List (κ × Step)) (k : κ) : Prop :=
  ∃ a, 0 < a.affected ∧ (k, .asked (.run s.removal) (.ok a)) ∈ past

def Adds (s : Seat) (past : List (κ × Step)) (k : κ) : Prop :=
  ∃ a, 0 < a.affected ∧ (k, .asked (.run s.addition) (.ok a)) ∈ past

def Apart (past : List (κ × Step)) : Prop :=
  ∀ lead k x mid y rest, past = lead ++ (k, x) :: (mid ++ (k, y) :: rest) → ∀ z ∈ mid, z.1 = k

theorem Apart.of_append {more : List (κ × Step)} (h : Apart (past ++ more)) : Apart past := by
  rintro lead k x mid y rest rfl
  exact h lead k x mid y (rest ++ more) (by simp)

variable [DecidableEq κ] {w₀ w w' : World κ} {stage : κ → Stage} {deed : Deed}

namespace Staged

variable {a : Answer}

theorem done_stays (h : s.Turn (stage k) x c) (hj : stage j = .done deed) :
    Function.update stage k c j = .done deed := by
  by_cases hjk : j = k
  · subst hjk
    rw [hj] at h
    cases h
  · rwa [Function.update_of_ne hjk]

theorem done_of_commit (h : s.Staged w₀ past w stage) (hx : (j, .asked .commit (.ok a)) ∈ past) :
    ∃ deed, stage j = .done deed := by
  induction h with
  | start => simp at hx
  | @step past w w' stage k x c h ht hm ih =>
    rcases List.mem_append.mp hx with hx | hx
    · obtain ⟨deed, hdeed⟩ := ih hx
      exact ⟨deed, done_stays ht hdeed⟩
    · obtain ⟨rfl, rfl⟩ := Prod.mk.inj (List.mem_singleton.mp hx)
      rw [Function.update_self]
      generalize stage j = b at ht
      cases ht with
      | unasked hx => exact absurd rfl (hx _ _)
      | committed deed => exact ⟨deed, rfl⟩

theorem mended_step (h : s.Staged w₀ past w stage) (hs : s.Standing w stage)
    (ht : s.Turn (stage k) x c) (hm : s.Moves k w x w') {before between : List (κ × Step)}
    (hpast : past = before ++ between)
    (hrows : (s.rows w.tables).Nonempty ↔
      Mended (stage · = .done .removed) (stage · = .done .added) between) :
    (s.rows w'.tables).Nonempty ↔
      Mended (Function.update stage k c · = .done .removed)
        (Function.update stage k c · = .done .added) (between ++ [(k, x)]) := by
  obtain ⟨-, hquiet, hdone⟩ := hs.step ht hm
  have hcongr : Mended (Function.update stage k c · = .done .removed)
      (Function.update stage k c · = .done .added) between ↔
      Mended (stage · = .done .removed) (stage · = .done .added) between := by
    have hsame (j : κ) (a : Answer) (hj : (j, .asked .commit (.ok a)) ∈ between) :
        Function.update stage k c j = stage j := by
      obtain ⟨deed, hdeed⟩ := h.done_of_commit (hpast ▸ List.mem_append_right before hj)
      rw [done_stays ht hdeed, hdeed]
    exact Mended.congr (fun j a hj => by rw [hsame j a hj]) fun j a hj => by rw [hsame j a hj]
  by_cases hc : ∃ deed, c = .done deed
  · obtain ⟨deed, rfl⟩ := hc
    obtain ⟨a, rfl⟩ : ∃ a, x = .asked .commit (.ok a) := by
      generalize stage k = b at ht
      cases ht with
      | committed deed a => exact ⟨a, rfl⟩
    cases hdone deed rfl with
    | removed _ hnone =>
      simp [hnone, not_mended_snoc]
    | added _ hsome =>
      simp [hsome, mended_snoc]
    | found hsame =>
      rw [hsame, hrows, ← hcongr, mended_snoc_iff fun _ _ => by simp]
  · have hother : ∀ deed, c ≠ .done deed := fun deed heq => hc ⟨deed, heq⟩
    rw [hquiet hother, hrows, ← hcongr, mended_snoc_iff fun _ _ => by simp [hother]]

theorem told (h : s.Staged w₀ past w stage) (hk : stage k = .done deed) :
    (s.Removes past k ↔ deed = .removed) ∧ (s.Adds past k ↔ deed = .added) := by
  obtain ⟨lead, did, hown, hdid, hlead⟩ := (h.course k).does rfl hk
  have hmem (st : Sql.Statement) (hst : st.isWrite = true) (a : Answer) :
      (k, .asked (.run st) (.ok a)) ∈ past ↔ .asked (.run st) (.ok a) ∈ did := by
    rw [← mem_own, hown, List.mem_append, or_iff_right]
    intro hlook
    exact absurd (hlead _ _ hlook) (by simp [hst])
  simp only [Removes, Adds, hmem s.removal rfl, hmem s.addition rfl]
  cases hdid <;> simp_all [removal, addition]

theorem since (h : s.Staged w₀ past w stage) (hidle : ∀ k, w₀.phase k = .free)
    (hsingle : (s.rows w₀.tables).Subsingleton) (hk : stage k = .acted .found) :
    ∃ before a between, past = before ++ (k, .asked (.run s.addition) (.ok a)) :: between ∧
      a.affected = 0 ∧ ((s.rows w.tables).Nonempty ↔
        Mended (stage · = .done .removed) (stage · = .done .added) between) := by
  induction h with
  | start => exact absurd hk (by simp)
  | @step past w w' stage j x c h ht hm ih =>
    have hs := h.standing hidle hsingle
    by_cases hjk : k = j
    · subst hjk
      rw [Function.update_self] at hk
      subst hk
      obtain ⟨a, ha, rfl⟩ : ∃ a, a.affected = 0 ∧ x = .asked (.run s.addition) (.ok a) := by
        generalize stage k = b at ht
        cases ht with
        | @found a ha => exact ⟨a, ha, rfl⟩
      have htables : w'.tables = w.tables := (hs.step ht hm).same (by simp)
      exact ⟨past, a, [], rfl, ha, iff_of_true (htables ▸ hs.finds ht hm) mended_nil⟩
    · rw [Function.update_of_ne hjk] at hk
      obtain ⟨before, a, between, rfl, ha, hrows⟩ := ih hk
      refine ⟨before, a, between ++ [(j, x)], by simp, ha, ?_⟩
      exact h.mended_step hs ht hm (List.append_cons ..) hrows

theorem of_snoc (h : s.Staged w₀ (past ++ [(k, x)]) w' stage) :
    ∃ w stage' c, s.Staged w₀ past w stage' ∧ s.Turn (stage' k) x c ∧ s.Moves k w x w' ∧
      stage = Function.update stage' k c := by
  generalize hpast : past ++ [(k, x)] = past' at h
  cases h with
  | start => simp at hpast
  | step h ht hm =>
    obtain ⟨rfl, hlast⟩ := List.append_inj' hpast rfl
    obtain ⟨rfl, rfl⟩ := Prod.mk.inj (List.singleton_inj.mp hlast)
    exact ⟨_, _, _, h, ht, hm, rfl⟩

theorem of_commit (h : s.Staged w₀ (past ++ [(k, .asked .commit (.ok a))]) w' stage)
    (hk : stage k = .done deed) :
    ∃ w stage', s.Staged w₀ past w stage' ∧ stage' k = .acted deed ∧
      s.Moves k w (.asked .commit (.ok a)) w' ∧ stage = Function.update stage' k (.done deed) := by
  obtain ⟨w, stage', c, h', ht, hm, rfl⟩ := h.of_snoc
  rw [Function.update_self] at hk
  subst hk
  refine ⟨w, stage', h', ?_, hm, rfl⟩
  generalize stage' k = b at ht
  cases ht with
  | committed => rfl

end Staged

/-- What there is to say of the row when a toggle has just been committed. One that found a row does
not hold on to it: it may be gone again by then. -/
inductive Ends (s : Seat) (past : List (κ × Step)) (w : World κ) (k : κ) : Deed → Prop
  | removed (h : s.rows w.tables = ∅) : Ends s past w k .removed
  | added (h : (s.rows w.tables).Nonempty) : Ends s past w k .added
  | found {before between : List (κ × Step)} {a : Answer}
      (hpast : past = before ++ (k, .asked (.run s.addition) (.ok a)) :: between)
      (ha : a.affected = 0)
      (h : (s.rows w.tables).Nonempty ↔ Mended (s.Removes past) (s.Adds past) between) :
      Ends s past w k .found

theorem Staged.ends {a : Answer} (h : s.Staged w₀ (past ++ [(k, .asked .commit (.ok a))]) w stage)
    (hidle : ∀ k, w₀.phase k = .free) (hsingle : (s.rows w₀.tables).Subsingleton)
    (hk : stage k = .done deed) : s.Ends past w k deed := by
  obtain ⟨w', stage', h', hacted, hm, rfl⟩ := h.of_commit hk
  have hs := h'.standing hidle hsingle
  have ht : s.Turn (stage' k) (.asked .commit (.ok a)) (.done deed) := by
    rw [hacted]
    exact .committed deed a
  cases (hs.step ht hm).leaves deed rfl with
  | removed _ hnone => exact .removed hnone
  | added _ hsome => exact .added hsome
  | found hsame =>
    obtain ⟨before, a', between, rfl, ha', hrows⟩ := h'.since hidle hsingle hacted
    refine .found rfl ha' (hsame ▸ hrows.trans (Mended.congr ?_ ?_))
    all_goals
      intro j z hj
      obtain ⟨deed', hdeed'⟩ := h'.done_of_commit (List.mem_append_right before (.tail _ hj))
      obtain ⟨hremoves, hadds⟩ := h'.told hdeed'
      simp only [hremoves, hadds, hdeed', Stage.done.injEq]

theorem Apart.last_spoke (h : Apart (past ++ [(k, x)])) (hk : own k past ≠ []) :
    ∀ z ∈ past.getLast?, z.1 = k := by
  obtain ⟨y, hy⟩ := List.exists_mem_of_ne_nil _ hk
  obtain ⟨lead, mid, rfl⟩ := List.append_of_mem (mem_own.mp hy)
  have hmid := h lead k y mid x [] (by simp)
  intro z hz
  rw [List.getLast?_append_cons] at hz
  rcases List.mem_cons.mp (List.mem_of_getLast? hz) with rfl | hz
  · rfl
  · exact hmid z hz

namespace Staged

variable {a : Answer}

theorem apart (h : s.Staged w₀ past w stage) (hidle : ∀ k, w₀.phase k = .free)
    (hsingle : (s.rows w₀.tables).Subsingleton) (hapart : Apart past) :
    (∀ k, stage k ≠ .acted .found ∧ stage k ≠ .done .found) ∧
      ∀ k, stage k = .missed → (∀ z ∈ past.getLast?, z.1 = k) → s.rows w.tables = ∅ := by
  induction h with
  | start => simp
  | @step past w w' stage j x c h ht hm ih =>
    have hs := h.standing hidle hsingle
    obtain ⟨hnever, hmissed⟩ := ih hapart.of_append
    have hfound : c ≠ .acted .found := by
      rintro rfl
      have hstage : stage j = .missed := by
        generalize stage j = b at ht
        cases ht with
        | found => rfl
      have hspoke : own j past ≠ [] := fun hnone => by
        have hcourse := hstage ▸ hnone ▸ h.course j
        cases hcourse
      have hrows := hs.finds ht hm
      rw [hmissed j hstage (hapart.last_spoke hspoke)] at hrows
      exact Set.not_nonempty_empty hrows
    have hdone : c ≠ .done .found := by
      rintro rfl
      generalize hstage : stage j = b at ht
      cases ht with
      | committed => exact (hnever j).1 hstage
    refine ⟨fun k => ?_, fun k hk hlast => ?_⟩
    · by_cases hkj : k = j
      · subst hkj
        rw [Function.update_self]
        exact ⟨hfound, hdone⟩
      · rw [Function.update_of_ne hkj]
        exact hnever k
    · obtain rfl : j = k := hlast (j, x) (by simp)
      rw [Function.update_self] at hk
      subst hk
      rw [(hs.step ht hm).same (by simp)]
      exact hs.misses ht hm

theorem quiet {mid : List (κ × Step)} (h : s.Staged w₀ (past ++ mid) w stage)
    (hidle : ∀ k, w₀.phase k = .free) (hsingle : (s.rows w₀.tables).Subsingleton)
    (hmid : Uncommitted mid) :
    ∃ w₁ stage₁, s.Staged w₀ past w₁ stage₁ ∧ w.tables = w₁.tables ∧
      ∀ j deed, stage₁ j = .done deed → stage j = .done deed := by
  induction mid using List.reverseRecOn generalizing w stage with
  | nil =>
    rw [List.append_nil] at h
    exact ⟨w, stage, h, rfl, fun _ _ hj => hj⟩
  | append_singleton mid last ih =>
    obtain ⟨k, x⟩ := last
    rw [← List.append_assoc] at h
    obtain ⟨w', stage', c, h', ht, hm, rfl⟩ := h.of_snoc
    obtain ⟨w₁, stage₁, h₁, htables, hstays⟩ :=
      ih h' fun j a hj => hmid j a (List.mem_append_left _ hj)
    have hnone : ∀ deed, c ≠ .done deed := by
      rintro deed rfl
      generalize stage' k = b at ht
      cases ht with
      | committed _ a => exact hmid k a (by simp)
    have hsame := ((h'.standing hidle hsingle).step ht hm).same hnone
    exact ⟨w₁, stage₁, h₁, hsame.trans htables, fun j deed hj => done_stays ht (hstays j deed hj)⟩

theorem turns (h : s.Staged w₀ (past ++ [(k, .asked .commit (.ok a))]) w' stage)
    (hidle : ∀ k, w₀.phase k = .free) (hsingle : (s.rows w₀.tables).Subsingleton)
    (hapart : Apart (past ++ [(k, .asked .commit (.ok a))])) (hk : stage k = .done deed) :
    ∃ w stage', s.Staged w₀ past w stage' ∧ (∀ j d, stage' j = .done d → stage j = .done d) ∧
      (deed.there = true ↔ s.rows w.tables = ∅) ∧
      (deed.there = true ↔ (s.rows w'.tables).Nonempty) := by
  have hfound := ((h.apart hidle hsingle hapart).1 k).2
  obtain ⟨w, stage', h', hacted, hm, rfl⟩ := h.of_commit hk
  have ht : s.Turn (stage' k) (.asked .commit (.ok a)) (.done deed) := by
    rw [hacted]
    exact .committed deed a
  refine ⟨w, stage', h', fun j d hj => done_stays ht hj, ?_⟩
  cases ((h'.standing hidle hsingle).step ht hm).leaves deed rfl with
  | removed hsome hnone => simp [Deed.there, hnone, hsome.ne_empty]
  | added hnone hsome => simp [Deed.there, hnone, hsome]
  | found => exact absurd hk hfound

theorem turns_first (h : s.Staged w₀ (past ++ [(k, .asked .commit (.ok a))]) w stage)
    (hidle : ∀ k, w₀.phase k = .free) (hsingle : (s.rows w₀.tables).Subsingleton)
    (hapart : Apart (past ++ [(k, .asked .commit (.ok a))])) (hpast : Uncommitted past)
    (hk : stage k = .done deed) : deed.there = true ↔ s.rows w₀.tables = ∅ := by
  obtain ⟨w', stage', h', -, hturned, -⟩ := h.turns hidle hsingle hapart hk
  rw [← List.nil_append past] at h'
  obtain ⟨w₁, stage₁, h₁, htables, -⟩ := h'.quiet hidle hsingle hpast
  generalize hnil : ([] : List (κ × Step)) = none at h₁
  cases h₁ with
  | start => rw [hturned, htables]
  | step => simp at hnil

theorem alternates {mid : List (κ × Step)} {z : Answer} {deed' : Deed}
    (h : s.Staged w₀ (past ++ (j, .asked .commit (.ok a)) :: mid ++ [(k, .asked .commit (.ok z))])
      w stage)
    (hidle : ∀ k, w₀.phase k = .free) (hsingle : (s.rows w₀.tables).Subsingleton)
    (hapart : Apart (past ++ (j, .asked .commit (.ok a)) :: mid ++ [(k, .asked .commit (.ok z))]))
    (hmid : Uncommitted mid) (hj : stage j = .done deed) (hk : stage k = .done deed') :
    deed'.there = !deed.there := by
  obtain ⟨w', stage', h', hstays', hturned, -⟩ := h.turns hidle hsingle hapart hk
  rw [List.append_cons past] at h' hapart
  obtain ⟨w₁, stage₁, h₁, htables, hstays⟩ := h'.quiet hidle hsingle hmid
  obtain ⟨d, hd⟩ := h₁.done_of_commit (List.mem_append_right _ (List.mem_singleton_self _))
  obtain rfl := Stage.done.inj (hj.symm.trans (hstays' j d (hstays j d hd)))
  obtain ⟨-, -, -, -, -, hrows⟩ :=
    h₁.turns hidle hsingle hapart.of_append.of_append hd
  rw [htables, ← Set.not_nonempty_iff_eq_empty, ← hrows] at hturned
  rw [Bool.eq_iff_iff, hturned, Bool.not_eq_true', Bool.not_eq_true]

end Staged

instance (c : Stage) : Decidable c.Pending :=
  match c with
  | .acted .removed | .acted .added => .isTrue trivial
  | .acted .found | .before | .begun | .missed | .done _ | .failed => .isFalse id

def Stage.next (s : Seat) (there : Bool) : Stage → Option (Step × Stage)
  | before => some (.asked .begin (.ok ⟨[], 0⟩), .begun)
  | begun => some (bif there then (.asked (.run s.removal) (.ok ⟨[], 1⟩), .acted .removed)
      else (.asked (.run s.removal) (.ok ⟨[], 0⟩), .missed))
  | missed => some (bif there then (.asked (.run s.addition) (.ok ⟨[], 0⟩), .acted .found)
      else (.asked (.run s.addition) (.ok ⟨[], 1⟩), .acted .added))
  | acted deed => some (.asked .commit (.ok ⟨[], 0⟩), .done deed)
  | done _ | failed => none

def Stage.leaves (there : Bool) : Stage → Bool
  | done .removed => false
  | done .added => true
  | done .found | before | begun | missed | acted _ | failed => there

theorem Stage.turn_of_next {b : Stage} {there : Bool} (h : b.next s there = some (x, c)) :
    s.Turn b x c := by
  cases b with
  | before =>
    obtain ⟨rfl, rfl⟩ := Prod.mk.inj (Option.some.inj h)
    exact .begun _
  | begun =>
    cases there <;> obtain ⟨rfl, rfl⟩ := Prod.mk.inj (Option.some.inj h)
    · exact .missed rfl
    · exact .removed Nat.one_pos
  | missed =>
    cases there <;> obtain ⟨rfl, rfl⟩ := Prod.mk.inj (Option.some.inj h)
    · exact .added Nat.one_pos
    · exact .found rfl
  | acted deed =>
    obtain ⟨rfl, rfl⟩ := Prod.mk.inj (Option.some.inj h)
    exact .committed deed _
  | done | failed => cases h

namespace Standing

variable {there : Bool}

theorem step_there (h : s.Standing w stage) (ht : s.Turn (stage k) x c) (hm : s.Moves k w x w')
    (hthere : there = true ↔ (s.rows w.tables).Nonempty) :
    c.leaves there = true ↔ (s.rows w'.tables).Nonempty := by
  obtain ⟨-, hquiet, hdone⟩ := h.step ht hm
  by_cases hc : ∃ deed, c = .done deed
  · obtain ⟨deed, rfl⟩ := hc
    cases hdone deed rfl with
    | removed _ hnone => simp [Stage.leaves, hnone]
    | added _ hsome => simp [Stage.leaves, hsome]
    | found hsame => simpa [Stage.leaves, hsame] using hthere
  · have hother : ∀ deed, c ≠ .done deed := fun deed heq => hc ⟨deed, heq⟩
    rw [hquiet hother]
    cases c with
    | done deed => exact absurd rfl (hother deed)
    | _ => exact hthere

theorem goes_on (h : s.Standing w stage) (hkeys : ∃ new : Row, new.Holds s.keys)
    (hthere : there = true ↔ (s.rows w.tables).Nonempty)
    (hfree : ∀ j, j ≠ k → ¬s.Takes w j ∧ ¬s.Puts w j)
    (hx : (stage k).next s there = some (x, c)) : ∃ w', s.Moves k w x w' := by
  have hstands := h.stands k
  generalize stage k = b at hx hstands
  generalize hp : w.phase k = p at hstands
  have hview : (∃ held, p = .within held ∧ ∀ d ∈ held, s.Idle d) →
      s.rows (w.view k) = s.rows w.tables := by
    rintro ⟨held, rfl, hidle⟩
    rw [World.view, hp]
    exact rows_foldl hidle _
  cases b with
  | before =>
    cases hstands
    obtain ⟨rfl, rfl⟩ := Prod.mk.inj (Option.some.inj hx)
    exact ⟨_, .other (by simp) (by simp) (.begun _ hp)⟩
  | begun =>
    cases hstands
    rw [← hview ⟨[], rfl, by simp⟩] at hthere
    have he (a : Answer) : Executes (w.view k) s.removal a
        ⟨Function.update (fun _ => ∅) s.table _, only Notification.table ∅⟩ := .delete (by simp)
    cases there <;> obtain ⟨rfl, rfl⟩ := Prod.mk.inj (Option.some.inj hx)
    all_goals
      exact ⟨_, .removed hp (fun _ j hj => (hfree j hj).1) (he _) (by simpa using hthere)⟩
  | missed =>
    obtain ⟨held, rfl, hidle⟩ : ∃ held, p = .within held ∧ ∀ d ∈ held, s.Idle d := by
      cases hstands with
      | missed hidle => exact ⟨_, rfl, hidle⟩
    rw [← hview ⟨held, rfl, hidle⟩] at hthere
    cases there <;> obtain ⟨rfl, rfl⟩ := Prod.mk.inj (Option.some.inj hx)
    · obtain ⟨new, hnew⟩ := hkeys
      have hnone := Set.not_nonempty_iff_eq_empty.mp fun hrows =>
        Bool.false_ne_true (hthere.mpr hrows)
      exact ⟨_, .added hp hfree hnone hnew rfl Nat.one_pos⟩
    · exact ⟨_, .found hp hfree (hthere.mp rfl) rfl⟩
  | acted deed =>
    obtain ⟨rfl, rfl⟩ := Prod.mk.inj (Option.some.inj hx)
    obtain ⟨held, rfl⟩ : ∃ held, p = .within held := by
      cases hstands with
      | removed | added | found => exact ⟨_, rfl⟩
    exact ⟨_, .other (by simp) (by simp) (.committed _ hp)⟩
  | done | failed => cases hx

end Standing

theorem Staged.stays (h : s.Staged w₀ past w stage) (ht : s.Turn (stage k) x (stage k))
    (hm : s.Moves k w x w) : s.Staged w₀ (past ++ [(k, x)]) w stage := by
  have hstep := h.step ht hm
  rwa [Function.update_eq_self] at hstep

theorem Staged.unfolds (h : s.Staged w₀ past w stage) : s.Unfolds w₀ past w := by
  induction h with
  | start => exact .start
  | step _ _ hm ih => exact .step ih hm

def play [Fintype κ] (s : Seat) (stage : κ → Stage) (there : Bool) :
    List κ → Option (List (κ × Step) × Bool)
  | [] => some ([], there)
  | k :: order =>
      if ∀ j, j ≠ k → ¬(stage j).Pending then do
        let (x, c) ← (stage k).next s there
        let (past, there) ← play s (Function.update stage k c) (c.leaves there) order
        some ((k, x) :: past, there)
      else none

theorem Staged.play [Fintype κ] {order : List κ} {more : List (κ × Step)} {there there' : Bool}
    (h : s.Staged w₀ past w stage) (hidle : ∀ k, w₀.phase k = .free)
    (hsingle : (s.rows w₀.tables).Subsingleton) (hkeys : ∃ new : Row, new.Holds s.keys)
    (hthere : there = true ↔ (s.rows w.tables).Nonempty)
    (hplay : s.play stage there order = some (more, there')) :
    ∃ w', s.Unfolds w₀ (past ++ more) w' ∧ (there' = true ↔ (s.rows w'.tables).Nonempty) := by
  induction order generalizing past w stage there more with
  | nil =>
    obtain ⟨rfl, rfl⟩ := Prod.mk.inj (Option.some.inj hplay)
    exact ⟨w, by simpa using h.unfolds, hthere⟩
  | cons k order ih =>
    rw [Seat.play] at hplay
    split at hplay
    · rename_i hquiet
      simp only [Option.bind_eq_bind, Option.bind_eq_some_iff, Option.some.injEq] at hplay
      obtain ⟨⟨x, c⟩, hx, ⟨rest, last⟩, hrest, heq⟩ := hplay
      obtain ⟨rfl, rfl⟩ := Prod.mk.inj heq
      have hs := h.standing hidle hsingle
      obtain ⟨w', hm⟩ :=
        hs.goes_on hkeys hthere (fun j hj => hs.free_of_not_pending (hquiet j hj)) hx
      have ht := Stage.turn_of_next hx
      rw [List.append_cons]
      exact ih (.step h ht hm) (hs.step_there ht hm hthere) hrest
    · cases hplay

end CityGuide.Store.Seat
