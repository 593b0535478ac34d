import CityGuide.Proofs.Store.Seats

namespace CityGuide.Store.Seat

inductive Deed where
  | removed
  | added
  | found
  deriving DecidableEq, Repr

def Deed.there : Deed → Bool
  | removed => false
  | added | found => true

inductive Deed.Leaves (before after : Set Row) : Deed → Prop
  | removed (hb : before.Nonempty) (ha : after = ∅) : Leaves before after .removed
  | added (hb : before = ∅) (ha : after.Nonempty) : Leaves before after .added
  | found (ha : after = before) : Leaves before after .found

inductive Stage where
  | before
  | begun
  | missed
  | acted (deed : Deed)
  | done (deed : Deed)
  | failed
  deriving DecidableEq, Repr

inductive Turn (s : Seat) : Stage → Step → Stage → Prop
  | unasked {x : Step} (hx : ∀ c r, x ≠ .asked c r) : Turn s .before x .before
  | look {st : Sql.Statement} (r : Reply) (h : st.isWrite = false) :
      Turn s .before (.asked (.run st) r) .before
  | unbegun (f : Failure) : Turn s .before (.asked .begin (.error f)) .failed
  | begun (a : Answer) : Turn s .before (.asked .begin (.ok a)) .begun
  | unremoved (f : Failure) : Turn s .begun (.asked (.run s.removal) (.error f)) .failed
  | removed {a : Answer} (ha : 0 < a.affected) :
      Turn s .begun (.asked (.run s.removal) (.ok a)) (.acted .removed)
  | missed {a : Answer} (ha : a.affected = 0) :
      Turn s .begun (.asked (.run s.removal) (.ok a)) .missed
  | unadded (f : Failure) : Turn s .missed (.asked (.run s.addition) (.error f)) .failed
  | added {a : Answer} (ha : 0 < a.affected) :
      Turn s .missed (.asked (.run s.addition) (.ok a)) (.acted .added)
  | found {a : Answer} (ha : a.affected = 0) :
      Turn s .missed (.asked (.run s.addition) (.ok a)) (.acted .found)
  | committed (deed : Deed) (a : Answer) :
      Turn s (.acted deed) (.asked .commit (.ok a)) (.done deed)
  | uncommitted (deed : Deed) (f : Failure) :
      Turn s (.acted deed) (.asked .commit (.error f)) .failed
  | rolledBack (r : Reply) : Turn s .failed (.asked .rollback r) .failed

variable {s : Seat} {c c' c'' : Stage} {x : Step} {t u : List Step}

theorem Turn.unique (h : s.Turn c x c') (h' : s.Turn c x c'') : c' = c'' := by
  cases h with
  | unasked hx =>
    cases h' with
    | unasked => rfl
    | _ => exact absurd rfl (hx _ _)
  | look | unbegun | begun =>
    cases h' with
    | unasked hx => exact absurd rfl (hx _ _)
    | _ => rfl
  | removed ha =>
    cases h' with
    | removed => rfl
    | missed ha' => omega
  | missed ha =>
    cases h' with
    | removed ha' => omega
    | missed => rfl
  | added ha =>
    cases h' with
    | added => rfl
    | found ha' => omega
  | found ha =>
    cases h' with
    | added ha' => omega
    | found => rfl
  | _ =>
    cases h'
    rfl

inductive Course (s : Seat) : Stage → List Step → Stage → Prop
  | nil (c : Stage) : Course s c [] c
  | cons {c c' c'' : Stage} {x : Step} {t : List Step} (hx : s.Turn c x c')
      (ht : Course s c' t c'') : Course s c (x :: t) c''

namespace Course

theorem append (h : s.Course c t c') (h' : s.Course c' u c'') : s.Course c (t ++ u) c'' := by
  induction h with
  | nil => exact h'
  | cons hx _ ih => exact .cons hx (ih h')

theorem split (h : s.Course c (t ++ u) c'') : ∃ c', s.Course c t c' ∧ s.Course c' u c'' := by
  induction t generalizing c with
  | nil => exact ⟨c, .nil c, h⟩
  | cons x t ih =>
    obtain _ | ⟨hx, ht⟩ := h
    obtain ⟨mid, ht, hu⟩ := ih ht
    exact ⟨mid, .cons hx ht, hu⟩

theorem unique (h : s.Course c t c') (h' : s.Course c t c'') : c' = c'' := by
  induction h with
  | nil =>
    cases h'
    rfl
  | cons hx _ ih =>
    obtain _ | ⟨hx', ht'⟩ := h'
    obtain rfl := hx.unique hx'
    exact ih ht'

theorem snoc (h : s.Course c t c') (hx : s.Turn c' x c'') : s.Course c (t ++ [x]) c'' :=
  h.append (.cons hx (.nil _))

theorem of_done {deed : Deed} (h : s.Course (.done deed) t c) : t = [] ∧ c = .done deed := by
  cases h with
  | nil => exact ⟨rfl, rfl⟩
  | cons hx => cases hx

theorem of_failed (h : s.Course c t c') (hc : c = .failed) : c' = .failed := by
  induction h with
  | nil => exact hc
  | cons hx _ ih =>
    subst hc
    cases hx with
    | rolledBack => exact ih rfl

end Course

inductive Does (s : Seat) : List Step → Deed → Prop
  | removed {a : Answer} (b z : Answer) (ha : 0 < a.affected) :
      Does s [.asked .begin (.ok b), .asked (.run s.removal) (.ok a), .asked .commit (.ok z)] .removed
  | added {a a' : Answer} (b z : Answer) (ha : a.affected = 0) (ha' : 0 < a'.affected) :
      Does s [.asked .begin (.ok b), .asked (.run s.removal) (.ok a),
        .asked (.run s.addition) (.ok a'), .asked .commit (.ok z)] .added
  | found {a a' : Answer} (b z : Answer) (ha : a.affected = 0) (ha' : a'.affected = 0) :
      Does s [.asked .begin (.ok b), .asked (.run s.removal) (.ok a),
        .asked (.run s.addition) (.ok a'), .asked .commit (.ok z)] .found

theorem Does.ends_in_commit {deed : Deed} (h : s.Does t deed) :
    ∃ inner z, t = inner ++ [.asked .commit (.ok z)] := by
  cases h with
  | removed _ z => exact ⟨[_, _], z, rfl⟩
  | added _ z | found _ z => exact ⟨[_, _, _], z, rfl⟩

theorem Course.of_acted {deed deed' : Deed} (h : s.Course (.acted deed) t (.done deed')) :
    deed' = deed ∧ ∃ a, t = [.asked .commit (.ok a)] := by
  obtain _ | ⟨hx, ht⟩ := h
  cases hx with
  | committed _ a =>
    obtain ⟨rfl, hdeed⟩ := ht.of_done
    exact ⟨Stage.done.inj hdeed, a, rfl⟩
  | uncommitted => exact absurd (ht.of_failed rfl) (by simp)

theorem Course.of_missed {deed : Deed} (h : s.Course .missed t (.done deed)) :
    ∃ a z, t = [.asked (.run s.addition) (.ok a), .asked .commit (.ok z)] ∧
      (0 < a.affected ∧ deed = .added ∨ a.affected = 0 ∧ deed = .found) := by
  obtain _ | ⟨hx, ht⟩ := h
  cases hx with
  | unadded => exact absurd (ht.of_failed rfl) (by simp)
  | @added a ha =>
    obtain ⟨rfl, z, rfl⟩ := ht.of_acted
    exact ⟨a, z, rfl, .inl ⟨ha, rfl⟩⟩
  | @found a ha =>
    obtain ⟨rfl, z, rfl⟩ := ht.of_acted
    exact ⟨a, z, rfl, .inr ⟨ha, rfl⟩⟩

theorem Course.of_begun {deed : Deed} (b : Answer) (h : s.Course .begun t (.done deed)) :
    s.Does (.asked .begin (.ok b) :: t) deed := by
  obtain _ | ⟨hx, ht⟩ := h
  cases hx with
  | unremoved => exact absurd (ht.of_failed rfl) (by simp)
  | removed ha =>
    obtain ⟨rfl, z, rfl⟩ := ht.of_acted
    exact .removed b z ha
  | missed ha =>
    obtain ⟨a', z, rfl, ⟨ha', rfl⟩ | ⟨ha', rfl⟩⟩ := ht.of_missed
    · exact .added b z ha ha'
    · exact .found b z ha ha'

theorem Course.does {deed : Deed} (h : s.Course c t c') (hc : c = .before) (hc' : c' = .done deed) :
    ∃ lead did, t = lead ++ did ∧ s.Does did deed ∧
      ∀ st r, .asked (.run st) r ∈ lead → st.isWrite = false := by
  induction h with
  | nil c =>
    rw [hc] at hc'
    exact absurd hc' (by simp)
  | @cons c mid c' x t hx ht ih =>
    subst hc hc'
    cases hx with
    | unasked hx =>
      obtain ⟨lead, did, rfl, hdid, hlead⟩ := ih rfl rfl
      refine ⟨x :: lead, did, rfl, hdid, fun st r hmem => ?_⟩
      rcases List.mem_cons.mp hmem with heq | hmem
      · exact absurd heq.symm (hx _ _)
      · exact hlead st r hmem
    | look r hl =>
      obtain ⟨lead, did, rfl, hdid, hlead⟩ := ih rfl rfl
      refine ⟨_ :: lead, did, rfl, hdid, fun st r hmem => ?_⟩
      rcases List.mem_cons.mp hmem with heq | hmem
      · obtain ⟨hst, -⟩ := Step.asked.inj heq
        exact Command.run.inj hst ▸ hl
      · exact hlead st r hmem
    | unbegun => exact absurd (ht.of_failed rfl) (by simp)
    | begun b => exact ⟨[], _, rfl, ht.of_begun b, by simp⟩

theorem Course.ends_in_commit {deed : Deed} (h : s.Course .before t c) (hc : c = .done deed) :
    ∃ lead z, t = lead ++ [.asked .commit (.ok z)] := by
  obtain ⟨lead, did, rfl, hdid, -⟩ := h.does rfl hc
  obtain ⟨inner, z, rfl⟩ := hdid.ends_in_commit
  exact ⟨lead ++ inner, z, (List.append_assoc ..).symm⟩

inductive Stands (s : Seat) (T : Tables) : Stage → Phase → Prop
  | before : Stands s T .before .free
  | begun : Stands s T .begun (.within [])
  | missed {held : List Delta} (hidle : ∀ d ∈ held, s.Idle d) : Stands s T .missed (.within held)
  | removed {d : Delta} (hlost : s.lost d = s.rows T) (hgained : s.gained d = ∅)
      (hrows : (s.rows T).Nonempty) : Stands s T (.acted .removed) (.within [d])
  | added {held : List Delta} {new : Row} (hidle : ∀ d ∈ held, s.Idle d) (hnew : new.Holds s.keys)
      (hrows : s.rows T = ∅) : Stands s T (.acted .added) (.within (held ++ [s.filling new]))
  | found {held : List Delta} (hidle : ∀ d ∈ held, s.Idle d) :
      Stands s T (.acted .found) (.within held)
  | done (deed : Deed) : Stands s T (.done deed) .free
  | failed {p : Phase} (hp : ∀ held, p ≠ .within held) : Stands s T .failed p

def Stage.Pending : Stage → Prop
  | acted .removed | acted .added => True
  | _ => False

namespace Stands

variable {T T' : Tables} {p : Phase} {c : Stage}

theorem congr (h : s.Stands T c p) (hT : s.rows T' = s.rows T) : s.Stands T' c p := by
  cases h with
  | before => exact .before
  | begun => exact .begun
  | missed hidle => exact .missed hidle
  | removed hlost hgained hrows => exact .removed (hT ▸ hlost) hgained (hT ▸ hrows)
  | added hidle hnew hrows => exact .added hidle hnew (hT ▸ hrows)
  | found hidle => exact .found hidle
  | done deed => exact .done deed
  | failed hp => exact .failed hp

theorem of_not_pending (h : s.Stands T c p) (hc : ¬c.Pending) : s.Stands T' c p := by
  cases h with
  | before => exact .before
  | begun => exact .begun
  | missed hidle => exact .missed hidle
  | removed | added => exact absurd trivial hc
  | found hidle => exact .found hidle
  | done deed => exact .done deed
  | failed hp => exact .failed hp

end Stands

variable {κ : Type} {w₀ w w' : World κ} {past : List (κ × Step)} {stage : κ → Stage} {k j : κ}
  {deed : Deed}

structure Standing (s : Seat) (w : World κ) (stage : κ → Stage) : Prop where
  stands : ∀ k, s.Stands w.tables (stage k) (w.phase k)
  single : (s.rows w.tables).Subsingleton
  alone : ∀ j k, (stage j).Pending → (stage k).Pending → j = k

namespace Standing

theorem free_of_before (h : s.Standing w stage) (hk : stage k = .before) : w.phase k = .free := by
  have hstands := h.stands k
  rw [hk] at hstands
  generalize w.phase k = p at hstands
  cases hstands
  rfl

theorem empty_of_begun (h : s.Standing w stage) (hk : stage k = .begun) :
    w.phase k = .within [] := by
  have hstands := h.stands k
  rw [hk] at hstands
  generalize w.phase k = p at hstands
  cases hstands
  rfl

theorem idle_of_missed (h : s.Standing w stage) (hk : stage k = .missed) :
    ∃ held, w.phase k = .within held ∧ ∀ d ∈ held, s.Idle d := by
  have hstands := h.stands k
  rw [hk] at hstands
  generalize w.phase k = p at hstands
  cases hstands with
  | missed hidle => exact ⟨_, rfl, hidle⟩

theorem takes (h : s.Standing w stage) (hk : stage k = .acted .removed) : s.Takes w k := by
  have hstands := h.stands k
  rw [hk] at hstands
  generalize hp : w.phase k = p at hstands
  cases hstands with
  | removed hlost _ hrows => exact ⟨_, hp, _, List.mem_singleton_self _, hlost ▸ hrows⟩

theorem puts (h : s.Standing w stage) (hk : stage k = .acted .added) : s.Puts w k := by
  have hstands := h.stands k
  rw [hk] at hstands
  generalize hp : w.phase k = p at hstands
  cases hstands with
  | added hidle hnew =>
    refine ⟨_, hp, _, List.mem_append_right _ (List.mem_singleton_self _), ?_⟩
    rw [(parts_filling hnew).2]
    exact Set.singleton_nonempty _

theorem not_pending (h : s.Standing w stage) (hfree : ¬s.Takes w j ∧ ¬s.Puts w j) :
    ¬(stage j).Pending := by
  intro hj
  cases hstage : stage j with
  | acted deed =>
    cases deed with
    | removed => exact hfree.1 (h.takes hstage)
    | added => exact hfree.2 (h.puts hstage)
    | found => simp [hstage, Stage.Pending] at hj
  | _ => simp [hstage, Stage.Pending] at hj

theorem free_of_not_pending (h : s.Standing w stage) (hj : ¬(stage j).Pending) :
    ¬s.Takes w j ∧ ¬s.Puts w j := by
  have hidle : ∀ held, w.phase j = .within held → ∀ d ∈ held, s.Idle d := by
    rintro held hp
    have hstands := h.stands j
    generalize stage j = b at hj hstands
    rw [hp] at hstands
    cases hstands with
    | begun => simp
    | missed hidle | found hidle => exact hidle
    | removed | added => exact absurd trivial hj
    | failed hbusy => exact absurd rfl (hbusy held)
  constructor
  · rintro ⟨held, hp, d, hd, hlost⟩
    exact Set.not_nonempty_empty ((hidle held hp d hd).1 ▸ hlost)
  · rintro ⟨held, hp, d, hd, hgained⟩
    exact Set.not_nonempty_empty ((hidle held hp d hd).2 ▸ hgained)

theorem not_puts (h : s.Standing w stage) (hrows : (s.rows w.tables).Nonempty)
    (hj : stage j = .acted .added) : False := by
  have hstands := h.stands j
  rw [hj] at hstands
  generalize w.phase j = p at hstands
  cases hstands with
  | added _ _ hnone => exact Set.not_nonempty_empty (hnone ▸ hrows)

theorem not_pending_of_row (h : s.Standing w stage) (hrows : (s.rows w.tables).Nonempty)
    (hfree : ¬s.Takes w j) : ¬(stage j).Pending := by
  intro hj
  cases hstage : stage j with
  | acted deed =>
    cases deed with
    | removed => exact hfree (h.takes hstage)
    | added => exact h.not_puts hrows hstage
    | found => simp [hstage, Stage.Pending] at hj
  | _ => simp [hstage, Stage.Pending] at hj

theorem leaves (h : s.Standing w stage) (hk : stage k = .acted deed) :
    deed.Leaves (s.rows w.tables) (s.rows (w.view k)) ∧ (s.rows (w.view k)).Subsingleton := by
  have hstands := h.stands k
  rw [hk] at hstands
  rw [World.view]
  generalize w.phase k = p at hstands
  cases hstands with
  | @removed d hlost hgained hrows =>
    have hnone : s.rows ([d].foldl (fun T d => d.on T) w.tables) = ∅ := by
      rw [List.foldl_cons, List.foldl_nil, rows_on, hlost, hgained, Set.sdiff_self,
        Set.union_empty]
    exact ⟨.removed hrows hnone, hnone ▸ Set.subsingleton_empty⟩
  | @added held new hidle hnew hrows =>
    obtain ⟨hlost, hgained⟩ := parts_filling hnew
    have hone : s.rows ((held ++ [s.filling new]).foldl (fun T d => d.on T) w.tables) = {new} := by
      rw [List.foldl_append, List.foldl_cons, List.foldl_nil, rows_on, hlost, hgained,
        rows_foldl hidle, hrows, Set.sdiff_empty, Set.empty_union]
    exact ⟨.added hrows (hone ▸ Set.singleton_nonempty _), hone ▸ Set.subsingleton_singleton⟩
  | found hidle =>
    rw [rows_foldl hidle]
    exact ⟨.found rfl, h.single⟩

theorem view_single (h : s.Standing w stage) (k : κ) :
    (s.rows (w.view k)).Subsingleton := by
  have hstands := h.stands k
  have hsingle := h.single
  generalize hstage : stage k = c at hstands
  generalize hp : w.phase k = p at hstands
  cases hstands with
  | removed | added | found => exact (h.leaves hstage).2
  | before | begun | done => rwa [World.view, hp]
  | missed hidle => rwa [World.view, hp, rows_foldl hidle]
  | failed hbusy =>
    cases p with
    | within held => exact absurd rfl (hbusy held)
    | free | broken => rwa [World.view, hp]

variable [DecidableEq κ] {p : Phase}

theorem entered (h : s.Standing w stage) {c : Stage} (ht : w'.tables = w.tables)
    (hphase : w'.phase = Function.update w.phase k p) (hp : s.Stands w.tables c p)
    (halone : c.Pending → ∀ j, j ≠ k → ¬(stage j).Pending) :
    s.Standing w' (Function.update stage k c) where
  stands j := by
    rw [ht, hphase]
    by_cases hjk : j = k
    · subst hjk
      rwa [Function.update_self, Function.update_self]
    · rw [Function.update_of_ne hjk, Function.update_of_ne hjk]
      exact h.stands j
  single := ht ▸ h.single
  alone i j hi hj := by
    by_cases hik : i = k <;> by_cases hjk : j = k
    · rw [hik, hjk]
    · subst hik
      rw [Function.update_self] at hi
      rw [Function.update_of_ne hjk] at hj
      exact absurd hj (halone hi j hjk)
    · subst hjk
      rw [Function.update_self] at hj
      rw [Function.update_of_ne hik] at hi
      exact absurd hi (halone hj i hik)
    · rw [Function.update_of_ne hik] at hi
      rw [Function.update_of_ne hjk] at hj
      exact h.alone i j hi hj

theorem committed (h : s.Standing w stage) (hk : stage k = .acted deed)
    (ht : w'.tables = w.view k) (hphase : w'.phase = Function.update w.phase k .free) :
    s.Standing w' (Function.update stage k (.done deed)) := by
  obtain ⟨hleaves, hsingle⟩ := h.leaves hk
  rw [← ht] at hleaves hsingle
  refine ⟨fun j => ?_, hsingle, fun i j hi hj => ?_⟩
  · rw [hphase]
    by_cases hjk : j = k
    · subst hjk
      rw [Function.update_self, Function.update_self]
      exact .done deed
    · rw [Function.update_of_ne hjk, Function.update_of_ne hjk]
      have hquiet : (stage k).Pending → ¬(stage j).Pending := fun hpending hj =>
        hjk (h.alone j k hj hpending)
      rw [hk] at hquiet
      cases hleaves with
      | removed | added => exact (h.stands j).of_not_pending (hquiet trivial)
      | found hsame => exact (h.stands j).congr hsame
  · have hother : ∀ i, (Function.update stage k (.done deed) i).Pending → (stage i).Pending := by
      intro i hi
      by_cases hik : i = k
      · subst hik
        simp [Stage.Pending] at hi
      · rwa [Function.update_of_ne hik] at hi
    exact h.alone i j (hother i hi) (hother j hj)

theorem unchanged (h : s.Standing w stage) (ht : w'.tables = w.tables)
    (hphase : w'.phase = w.phase) : s.Standing w' (Function.update stage k (stage k)) := by
  rw [Function.update_eq_self]
  exact ⟨fun k => by rw [ht, hphase]; exact h.stands k, ht ▸ h.single, h.alone⟩

end Standing

variable [DecidableEq κ]

structure Stepped (s : Seat) (w : World κ) (stage : κ → Stage) (k : κ) (c : Stage)
    (w' : World κ) : Prop where
  standing : s.Standing w' (Function.update stage k c)
  same : (∀ deed, c ≠ .done deed) → w'.tables = w.tables
  leaves : ∀ deed, c = .done deed → deed.Leaves (s.rows w.tables) (s.rows w'.tables)

theorem Stepped.of_same {c : Stage} (h : s.Standing w' (Function.update stage k c))
    (ht : w'.tables = w.tables) (hc : ∀ deed, c ≠ .done deed) : s.Stepped w stage k c w' :=
  ⟨h, fun _ => ht, fun deed heq => absurd heq (hc deed)⟩

namespace Standing

theorem step_look (h : s.Standing w stage) (hk : stage k = .before) {st : Sql.Statement}
    {r : Reply} (hl : st.isWrite = false) (hm : s.Moves k w (.asked (.run st) r) w') :
    s.Stepped w stage k .before w' := by
  have hp := h.free_of_before hk
  have hsame : w'.phase = w.phase ∧ w'.tables = w.tables := by
    cases r with
    | ok a =>
      obtain ⟨hphase, d, he, htables⟩ := hm.moves.ran hp
      rw [he.of_look hl, Delta.none_on] at htables
      exact ⟨hphase, htables⟩
    | error f =>
      cases hm.moves with
      | refused => exact ⟨rfl, rfl⟩
      | spoiled _ _ hbusy => exact absurd hp hbusy
  exact .of_same (hk ▸ h.unchanged hsame.2 hsame.1) hsame.2 (by simp)

theorem step_unbegun (h : s.Standing w stage) (hk : stage k = .before) {f : Failure}
    (hm : s.Moves k w (.asked .begin (.error f)) w') : s.Stepped w stage k .failed w' := by
  have hw : w' = w := by
    cases hm.moves
    rfl
  subst hw
  have hphase : w'.phase = Function.update w'.phase k .free := by
    rw [← h.free_of_before hk, Function.update_eq_self]
  exact .of_same (h.entered rfl hphase (.failed (by simp)) False.elim) rfl (by simp)

theorem step_begun (h : s.Standing w stage) {a : Answer}
    (hm : s.Moves k w (.asked .begin (.ok a)) w') : s.Stepped w stage k .begun w' := by
  cases hm.moves with
  | begun => exact .of_same (h.entered rfl rfl .begun False.elim) rfl (by simp)

theorem step_broken (h : s.Standing w stage) {st : Sql.Statement} {held : List Delta} {f : Failure}
    (hp : w.phase k = .within held) (hm : s.Moves k w (.asked (.run st) (.error f)) w') :
    s.Stepped w stage k .failed w' := by
  cases hm.moves with
  | refused _ _ hfree => simp [hp] at hfree
  | spoiled => exact .of_same (h.entered rfl rfl (.failed (by simp)) False.elim) rfl (by simp)

theorem step_removed (h : s.Standing w stage) (hk : stage k = .begun) {a : Answer}
    (ha : 0 < a.affected) (hm : s.Moves k w (.asked (.run s.removal) (.ok a)) w') :
    s.Stepped w stage k (.acted .removed) w' := by
  have hp := h.empty_of_begun hk
  obtain ⟨held, d, hheld, rfl, hfree, hlost, hgained, hsees⟩ := hm.of_removal
  obtain rfl := Phase.within.inj (hheld.symm.trans hp)
  have hview : w.view k = w.tables := by
    rw [World.view, hp]
    rfl
  rw [hview] at hfree hlost hsees
  have hrows := hsees.mp ha
  have halone : ∀ j, j ≠ k → ¬(stage j).Pending := fun j hjk =>
    h.not_pending_of_row hrows (hfree hrows j hjk)
  exact .of_same (h.entered rfl rfl (.removed hlost hgained hrows) fun _ => halone) rfl (by simp)

theorem step_missed (h : s.Standing w stage) (hk : stage k = .begun) {a : Answer}
    (ha : a.affected = 0) (hm : s.Moves k w (.asked (.run s.removal) (.ok a)) w') :
    s.Stepped w stage k .missed w' := by
  obtain ⟨held, d, hheld, rfl, -, hlost, hgained, hsees⟩ := hm.of_removal
  obtain rfl := Phase.within.inj (hheld.symm.trans (h.empty_of_begun hk))
  have hnone : s.rows (w.view k) = ∅ := by
    rw [← Set.not_nonempty_iff_eq_empty, ← hsees]
    omega
  have hidle : ∀ d' ∈ [d], s.Idle d' := by
    simp [Idle, hlost, hnone, hgained]
  exact .of_same (h.entered rfl rfl (.missed hidle) False.elim) rfl (by simp)

theorem step_added (h : s.Standing w stage) (hk : stage k = .missed) {a : Answer}
    (ha : 0 < a.affected) (hm : s.Moves k w (.asked (.run s.addition) (.ok a)) w') :
    s.Stepped w stage k (.acted .added) w' := by
  obtain ⟨held, hheld, hidle⟩ := h.idle_of_missed hk
  obtain ⟨held', d, hheld', rfl, hfree, hcases⟩ := hm.of_addition
  obtain rfl := Phase.within.inj (hheld.symm.trans hheld')
  have hview : s.rows (w.view k) = s.rows w.tables := by
    rw [World.view, hheld]
    exact rows_foldl hidle _
  rcases hcases with ⟨new, rfl, hnew, hnone, -⟩ | ⟨-, -, hnothing⟩
  · have halone : ∀ j, j ≠ k → ¬(stage j).Pending := fun j hjk => h.not_pending (hfree j hjk)
    have hrows : s.rows w.tables = ∅ := hview ▸ hnone
    exact .of_same (h.entered rfl rfl (.added hidle hnew hrows) fun _ => halone) rfl (by simp)
  · omega

theorem step_found (h : s.Standing w stage) (hk : stage k = .missed) {a : Answer}
    (ha : a.affected = 0) (hm : s.Moves k w (.asked (.run s.addition) (.ok a)) w') :
    s.Stepped w stage k (.acted .found) w' := by
  obtain ⟨held, hheld, hidle⟩ := h.idle_of_missed hk
  obtain ⟨held', d, hheld', rfl, -, hcases⟩ := hm.of_addition
  obtain rfl := Phase.within.inj (hheld.symm.trans hheld')
  rcases hcases with ⟨_, -, -, -, hput⟩ | ⟨rfl, -, -⟩
  · omega
  · have hidle' : ∀ d ∈ held ++ [Delta.none], s.Idle d := by
      rw [List.forall_mem_append]
      exact ⟨hidle, by simpa using s.idle_none⟩
    exact .of_same (h.entered rfl rfl (.found hidle') False.elim) rfl (by simp)

theorem step_committed (h : s.Standing w stage) (hk : stage k = .acted deed) {a : Answer}
    (hm : s.Moves k w (.asked .commit (.ok a)) w') : s.Stepped w stage k (.done deed) w' := by
  have hstands := h.stands k
  rw [hk] at hstands
  generalize hp : w.phase k = p at hstands
  cases hm.moves with
  | committed =>
    refine ⟨h.committed hk rfl rfl, fun hc => absurd rfl (hc deed), fun deed' heq => ?_⟩
    obtain rfl := Stage.done.inj heq
    exact (h.leaves hk).1
  | undone _ hbroken =>
    rw [hp] at hbroken
    subst hbroken
    cases hstands

theorem step_uncommitted (h : s.Standing w stage) {f : Failure}
    (hm : s.Moves k w (.asked .commit (.error f)) w') : s.Stepped w stage k .failed w' := by
  cases hm.moves with
  | uncommitted => exact .of_same (h.entered rfl rfl (.failed (by simp)) False.elim) rfl (by simp)

theorem step_rolledBack (h : s.Standing w stage) {r : Reply}
    (hm : s.Moves k w (.asked .rollback r) w') : s.Stepped w stage k .failed w' := by
  cases hm.moves with
  | rolledBack => exact .of_same (h.entered rfl rfl (.failed (by simp)) False.elim) rfl (by simp)

theorem step (h : s.Standing w stage) {c : Stage} (ht : s.Turn (stage k) x c)
    (hm : s.Moves k w x w') : s.Stepped w stage k c w' := by
  generalize hk : stage k = b at ht
  cases ht with
  | unasked hx =>
    obtain ⟨hphase, htables⟩ := hm.moves.unasked hx
    exact .of_same (hk ▸ h.unchanged htables hphase) htables (by simp)
  | look r hl => exact h.step_look hk hl hm
  | unbegun f => exact h.step_unbegun hk hm
  | begun a => exact h.step_begun hm
  | unremoved f => exact h.step_broken (h.empty_of_begun hk) hm
  | removed ha => exact h.step_removed hk ha hm
  | missed ha => exact h.step_missed hk ha hm
  | unadded f =>
    obtain ⟨held, hp, -⟩ := h.idle_of_missed hk
    exact h.step_broken hp hm
  | added ha => exact h.step_added hk ha hm
  | found ha => exact h.step_found hk ha hm
  | committed deed a => exact h.step_committed hk hm
  | uncommitted deed f => exact h.step_uncommitted hm
  | rolledBack r => exact h.step_rolledBack hm

theorem finds (h : s.Standing w stage) (ht : s.Turn (stage k) x (.acted .found))
    (hm : s.Moves k w x w') : (s.rows w.tables).Nonempty := by
  generalize hk : stage k = b at ht
  cases ht with
  | found ha =>
    obtain ⟨held, hp, hidle⟩ := h.idle_of_missed hk
    obtain ⟨_, d, -, -, -, ⟨_, -, -, -, hput⟩ | ⟨-, hsome, -⟩⟩ := hm.of_addition
    · omega
    · rwa [World.view, hp, rows_foldl hidle] at hsome

theorem misses (h : s.Standing w stage) (ht : s.Turn (stage k) x .missed)
    (hm : s.Moves k w x w') : s.rows w.tables = ∅ := by
  generalize hk : stage k = b at ht
  cases ht with
  | missed ha =>
    obtain ⟨held, d, -, -, -, -, -, hsees⟩ := hm.of_removal
    rw [World.view, h.empty_of_begun hk] at hsees
    exact Set.not_nonempty_iff_eq_empty.mp fun hrows => absurd (hsees.mpr hrows) (by omega)

end Standing

inductive Staged (s : Seat) (w₀ : World κ) : List (κ × Step) → World κ → (κ → Stage) → Prop
  | start : Staged s w₀ [] w₀ fun _ => .before
  | step {past : List (κ × Step)} {w w' : World κ} {stage : κ → Stage} {k : κ} {x : Step}
      {c : Stage} (h : Staged s w₀ past w stage) (ht : s.Turn (stage k) x c)
      (hm : s.Moves k w x w') :
      Staged s w₀ (past ++ [(k, x)]) w' (Function.update stage k c)

theorem Staged.course (h : s.Staged w₀ past w stage) (k : κ) :
    s.Course .before (own k past) (stage k) := by
  induction h with
  | start => exact .nil _
  | @step past w w' stage j x c _ ht _ ih =>
    rw [own_append]
    by_cases hjk : j = k
    · subst hjk
      have hlast : own j [(j, x)] = [x] := by simp [own]
      rw [hlast, Function.update_self]
      exact ih.snoc ht
    · have hlast : own k [(j, x)] = [] := by simp [own, hjk]
      rw [hlast, List.append_nil, Function.update_of_ne (Ne.symm hjk)]
      exact ih

theorem Unfolds.staged (h : s.Unfolds w₀ past w)
    (hcourse : ∀ k, ∃ c, s.Course .before (own k past) c) : ∃ stage, s.Staged w₀ past w stage := by
  induction h with
  | start => exact ⟨_, .start⟩
  | @step past w w' k x h hm ih =>
    have hparts (j : κ) : ∃ c c', s.Course .before (own j past) c ∧
        s.Course c (own j [(k, x)]) c' := by
      obtain ⟨c', hc'⟩ := hcourse j
      rw [own_append] at hc'
      obtain ⟨c, hc, hlast⟩ := hc'.split
      exact ⟨c, c', hc, hlast⟩
    obtain ⟨stage, hstaged⟩ := ih fun j => by
      obtain ⟨c, -, hc, -⟩ := hparts j
      exact ⟨c, hc⟩
    obtain ⟨c, c', hc, hlast⟩ := hparts k
    obtain rfl := (hstaged.course k).unique hc
    have hown : own k [(k, x)] = [x] := by simp [own]
    rw [hown] at hlast
    obtain _ | ⟨hx, -⟩ := hlast
    exact ⟨_, .step hstaged hx hm⟩

theorem Staged.standing (h : s.Staged w₀ past w stage) (hidle : ∀ k, w₀.phase k = .free)
    (hsingle : (s.rows w₀.tables).Subsingleton) : s.Standing w stage := by
  induction h with
  | start =>
    refine ⟨fun k => ?_, hsingle, fun _ _ hk => hk.elim⟩
    rw [hidle k]
    exact .before
  | step _ ht hm ih => exact (ih.step ht hm).standing

end CityGuide.Store.Seat
