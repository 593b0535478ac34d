import CityGuide.Proofs.Store.World

namespace CityGuide.Store

variable {κ : Type} [DecidableEq κ]

theorem own_eq_append_cons {k : κ} {past : List (κ × Step)} {t u : List Step} {x : Step}
    (h : own k past = t ++ x :: u) :
    ∃ before after, past = before ++ (k, x) :: after ∧ own k before = t ∧ own k after = u := by
  obtain ⟨before, rest, rfl, hbefore, hrest⟩ := List.filterMap_eq_append_iff.mp h
  obtain ⟨quiet, ⟨j, y⟩, after, rfl, hquiet, hsome, hafter⟩ := List.filterMap_eq_cons_iff.mp hrest
  obtain ⟨rfl, rfl⟩ : j = k ∧ y = x := by simpa using hsome
  refine ⟨before ++ quiet, after, by simp, ?_, hafter⟩
  have hnone : own j quiet = [] := List.filterMap_eq_nil_iff.mpr hquiet
  rw [own_append, hnone, List.append_nil]
  exact hbefore

namespace World

variable {w w' : World κ} {k : κ} {x : Step} {before after past : List (κ × Step)}

theorem Unfolds.split (h : w.Unfolds (before ++ after) w') :
    ∃ mid, w.Unfolds before mid ∧ mid.Unfolds after w' := by
  generalize hpast : before ++ after = past at h
  -- A history grows at its end, so it is the last step of the second part that is taken off.
  induction h generalizing after with
  | start =>
    obtain ⟨rfl, rfl⟩ := List.append_eq_nil_iff.mp hpast
    exact ⟨w, .start, .start⟩
  | @step past w' w'' k x h hm ih =>
    rcases List.eq_nil_or_concat after with rfl | ⟨after, y, rfl⟩
    · rw [List.append_nil] at hpast
      exact ⟨w'', hpast ▸ .step h hm, .start⟩
    · rw [List.concat_eq_append, ← List.append_assoc] at hpast
      obtain ⟨hpast, hlast⟩ := List.append_inj' hpast rfl
      obtain ⟨mid, hbefore, hafter⟩ := ih hpast
      obtain rfl := List.singleton_inj.mp hlast
      exact ⟨mid, hbefore, List.concat_eq_append ▸ .step hafter hm⟩

theorem Unfolds.of_nil (h : w.Unfolds [] w') : w' = w := by
  generalize hpast : [] = past at h
  cases h with
  | start => rfl
  | step => simp at hpast

theorem Unfolds.uncons (h : w.Unfolds ((k, x) :: after) w') :
    ∃ mid, w.Moves k x mid ∧ mid.Unfolds after w' := by
  have hsplit : w.Unfolds ([(k, x)] ++ after) w' := h
  obtain ⟨mid, hfirst, hafter⟩ := hsplit.split
  refine ⟨mid, ?_, hafter⟩
  generalize hpast : [(k, x)] = past at hfirst
  cases hfirst with
  | start => simp at hpast
  | step h hm =>
    obtain ⟨hnil, hlast⟩ := List.append_inj' ((List.nil_append _).trans hpast) rfl
    obtain ⟨rfl, rfl⟩ := Prod.mk.inj (List.singleton_inj.mp hlast)
    subst hnil
    exact h.of_nil ▸ hm

theorem Moves.ran {st : Sql.Statement} {a : Answer} (hp : w.phase k = .free)
    (hm : w.Moves k (.asked (.run st) (.ok a)) w') :
    w'.phase = w.phase ∧ ∃ d, Executes w.tables st a d ∧ w'.tables = d.on w.tables := by
  cases hm with
  | made _ he => exact ⟨rfl, _, he, rfl⟩
  | held hheld => simp [hp] at hheld

theorem Moves.unasked (hx : ∀ c r, x ≠ .asked c r) (hm : w.Moves k x w') :
    w'.phase = w.phase ∧ w'.tables = w.tables := by
  cases hm with
  | drewId | drewSalt | readClock => exact ⟨rfl, rfl⟩
  | _ => exact absurd rfl (hx _ _)

end World

theorem Executes.of_look {T : Tables} {st : Sql.Statement} {a : Answer} {d : Delta}
    (h : st.isWrite = false) (he : Executes T st a d) : d = .none := by
  cases he with
  | select | activeSession | probe | find | findByEmail | kept => rfl
  | _ => simp [Sql.Statement.isWrite] at h

end CityGuide.Store
