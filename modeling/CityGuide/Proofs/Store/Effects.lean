import CityGuide.Proofs.Store.Sends

namespace CityGuide.Store

abbrev Effect := Sql.Statement × Answer

inductive Standing where
  | outside
  | inside (held : List Effect)
  | spoiled

namespace Standing

-- A statement that fails spoils its transaction, whose commit then comes to nothing.
def next : Standing → Exchange → Standing
  | outside, (.begin, .ok _) => inside []
  | inside held, (.run st, .ok answer) => inside (held ++ [(st, answer)])
  | inside _, (.run _, .error _) => spoiled
  | inside _, (.commit, _) | inside _, (.rollback, _) => outside
  | spoiled, (.commit, _) | spoiled, (.rollback, _) => outside
  | standing, _ => standing

def made : Standing → Exchange → List Effect
  | outside, (.run st, .ok answer) => [(st, answer)]
  | inside held, (.commit, .ok _) => held
  | _, _ => []

end Standing

open Standing

def effectsFrom : Standing → List Exchange → List Effect
  | _, [] => []
  | standing, x :: xs => standing.made x ++ effectsFrom (standing.next x) xs

def effects (xs : List Exchange) : List Effect := effectsFrom .outside xs

theorem effectsFrom_append (standing : Standing) (xs ys : List Exchange) :
    effectsFrom standing (xs ++ ys) =
      effectsFrom standing xs ++ effectsFrom (xs.foldl next standing) ys := by
  induction xs generalizing standing with
  | nil => rfl
  | cons x xs ih =>
    simp only [List.cons_append, effectsFrom, ih, List.foldl_cons, List.append_assoc]

def Exchange.taken? : Exchange → Option Effect
  | (.run st, .ok answer) => some (st, answer)
  | _ => none

theorem Exchange.taken?_eq_some {x : Exchange} {st : Sql.Statement} {answer : Answer} :
    x.taken? = some (st, answer) ↔ x = (.run st, .ok answer) := by
  obtain ⟨c, r⟩ := x
  cases c <;> cases r <;> simp [taken?]

theorem made_outside (x : Exchange) : made .outside x = x.taken?.toList := by
  obtain ⟨c, r⟩ := x
  cases c <;> cases r <;> rfl

theorem next_outside {x : Exchange} (h : x.1 ≠ .begin) : next .outside x = .outside := by
  obtain ⟨c, r⟩ := x
  cases c with
  | «begin» => exact absurd rfl h
  | connect | commit | rollback | run | script => cases r <;> rfl

theorem effects_eq_filterMap {xs : List Exchange} (h : ∀ x ∈ xs, x.1 ≠ .begin) :
    effects xs = xs.filterMap Exchange.taken? := by
  induction xs with
  | nil => rfl
  | cons x xs ih =>
    obtain ⟨hx, hxs⟩ := List.forall_mem_cons.mp h
    rw [effects, effectsFrom, next_outside hx, made_outside, ← effects, ih hxs]
    cases hk : x.taken? <;> simp [hk]

theorem mem_effects {xs : List Exchange} (h : ∀ x ∈ xs, x.1 ≠ .begin) {st : Sql.Statement}
    {answer : Answer} : (st, answer) ∈ effects xs ↔ (.run st, .ok answer) ∈ xs := by
  rw [effects_eq_filterMap h, List.mem_filterMap]
  constructor
  · rintro ⟨x, hx, htaken⟩
    rwa [Exchange.taken?_eq_some.mp htaken] at hx
  · intro hx
    exact ⟨_, hx, rfl⟩

def Command.isRun : Command → Bool
  | run _ => true
  | connect | «begin» | commit | rollback | script _ => false

theorem effectsFrom_spoiled {xs : List Exchange} (h : ∀ x ∈ xs, x.1.isRun) :
    effectsFrom .spoiled xs = [] ∧ xs.foldl next .spoiled = .spoiled := by
  induction xs with
  | nil => exact ⟨rfl, rfl⟩
  | cons x xs ih =>
    obtain ⟨hx, hxs⟩ := List.forall_mem_cons.mp h
    obtain ⟨⟨st⟩, r⟩ := x <;> simp only [Command.isRun, reduceCtorEq] at hx
    exact ih hxs

theorem effectsFrom_inside {xs : List Exchange} (h : ∀ x ∈ xs, x.1.isRun) (held : List Effect) :
    effectsFrom (.inside held) xs = [] ∧
      (xs.foldl next (.inside held) = .spoiled ∨
        (∀ x ∈ xs, ∃ answer, x.2 = .ok answer) ∧
          xs.foldl next (.inside held) = .inside (held ++ xs.filterMap Exchange.taken?)) := by
  -- What is held back grows with each answer, until one statement fails.
  induction xs generalizing held with
  | nil => exact ⟨rfl, .inr ⟨by simp, by simp⟩⟩
  | cons x xs ih =>
    obtain ⟨hx, hxs⟩ := List.forall_mem_cons.mp h
    obtain ⟨c, r⟩ := x
    cases c with
    | run st =>
      cases r with
      | error f =>
        obtain ⟨hnone, hspoiled⟩ := effectsFrom_spoiled hxs
        exact ⟨hnone, .inl hspoiled⟩
      | ok answer =>
        obtain ⟨hnone, hspoiled | ⟨hall, hheld⟩⟩ := ih hxs (held ++ [(st, answer)])
        · exact ⟨hnone, .inl hspoiled⟩
        · refine ⟨hnone, .inr ⟨List.forall_mem_cons.mpr ⟨⟨answer, rfl⟩, hall⟩, ?_⟩⟩
          rw [List.foldl_cons, next, hheld, List.append_assoc]
          rfl
    | connect | «begin» | commit | rollback | script => simp [Command.isRun] at hx

theorem effects_between {xs : List Exchange} (h : ∀ x ∈ xs, x.1.isRun) (answer : Answer)
    (rest : List Exchange) : effects ((.begin, .ok answer) :: (xs ++ rest)) =
      effectsFrom (xs.foldl next (.inside [])) rest := by
  change effectsFrom (.inside []) (xs ++ rest) = _
  rw [effectsFrom_append, (effectsFrom_inside h []).1, List.nil_append]

theorem effectsFrom_rollback (standing : Standing) (reply : Reply) :
    effectsFrom standing [(.rollback, reply)] = [] := by
  cases standing <;> rfl

theorem effectsFrom_refused_commit (standing : Standing) (f : Failure) (reply : Reply) :
    effectsFrom standing [(.commit, .error f), (.rollback, reply)] = [] := by
  cases standing <;> rfl

theorem effectsFrom_commit (held : List Effect) (answer : Answer) :
    effectsFrom (.inside held) [(.commit, .ok answer)] = held := List.append_nil held

theorem effectsFrom_commit_spoiled (answer : Answer) :
    effectsFrom .spoiled [(.commit, .ok answer)] = [] := rfl

namespace Action

variable {α : Type} {t : List Step}

theorem runs_abandon {o? : Option (Except Failure Unit)} :
    abandon.Runs t o? ↔ ∃ r, t = [.asked .rollback r] ∧ o? = some (.ok ()) := by
  rw [abandon, runs_lift]
  simp only [Program.runs_send, Program.runs_done]
  constructor
  · rintro ⟨_, ⟨r, _, rfl, rfl, rfl⟩, rfl⟩
    exact ⟨r, rfl, rfl⟩
  · rintro ⟨r, rfl, rfl⟩
    exact ⟨_, ⟨r, [], rfl, rfl, rfl⟩, rfl⟩

inductive Transacted (body : Action Failure (Option α)) :
    List Step → Option (Except Failure (Option α)) → Prop
  | unbegun (f : Failure) : Transacted body [.asked .begin (.error f)] (some (.error f))
  | brokenOff {answer : Answer} {u : List Step} (hu : body.Runs u none) :
      Transacted body (.asked .begin (.ok answer) :: u) none
  | abandoned {answer : Answer} {u : List Step} {o : Except Failure (Option α)} (reply : Reply)
      (hu : body.Runs u (some o)) (ho : ∀ a, o ≠ .ok (some a)) :
      Transacted body (.asked .begin (.ok answer) :: u ++ [.asked .rollback reply]) (some o)
  | uncommitted {answer : Answer} {u : List Step} {a : α} (f : Failure) (reply : Reply)
      (hu : body.Runs u (some (.ok (some a)))) :
      Transacted body
        (.asked .begin (.ok answer) :: u ++ [.asked .commit (.error f), .asked .rollback reply])
        (some (.error f))
  | committed {answer answer' : Answer} {u : List Step} {a : α}
      (hu : body.Runs u (some (.ok (some a)))) :
      Transacted body (.asked .begin (.ok answer) :: u ++ [.asked .commit (.ok answer')])
        (some (.ok (some a)))

theorem runs_abandon_bind {r : Except Failure (Option α)}
    {o? : Option (Except Failure (Option α))}
    (h : Runs (abandon >>= fun _ => ofExcept r) t o?) :
    ∃ reply, t = [.asked .rollback reply] ∧ o? = some r := by
  obtain ⟨_, hv, rfl⟩ := runs_bind_ofExcept.mp h
  obtain ⟨reply, rfl, rfl⟩ := runs_abandon.mp hv
  exact ⟨reply, rfl, rfl⟩

theorem transacted_of_runs {body : Action Failure (Option α)}
    {o? : Option (Except Failure (Option α))} (ht : (transaction body).Runs t o?) :
    Transacted body t o? := by
  rcases runs_send_bind ht with ⟨f, rfl, rfl⟩ | ⟨answer, w, rfl, hw⟩
  · exact .unbegun f
  · rcases runs_attempt_bind.mp hw with ⟨u, w, o, rfl, hu, hw⟩ | ⟨hu, rfl⟩
    · rcases o with f | _ | a
      · obtain ⟨reply, rfl, rfl⟩ := runs_abandon_bind hw
        exact .abandoned reply hu (by simp)
      · obtain ⟨reply, rfl, rfl⟩ := runs_abandon_bind hw
        exact .abandoned reply hu (by simp)
      · obtain ⟨r, w, rfl, hafter⟩ := runs_attempt_send_bind hw
        cases r with
        | error f =>
          obtain ⟨reply, rfl, rfl⟩ := runs_abandon_bind hafter
          exact .uncommitted f reply hu
        | ok answer' =>
          obtain ⟨rfl, rfl⟩ := runs_ofExcept.mp hafter
          exact .committed hu
    · exact .brokenOff hu

theorem transaction_all_or_nothing {body : Action Failure (Option α)}
    {o? : Option (Except Failure (Option α))} (hbody : Sends (fun c => c.isRun) body)
    (ht : (transaction body).Runs t o?) :
    effects (exchanges t) = [] ∨
      ∃ a u, o? = some (.ok (some a)) ∧ body.Runs u (some (.ok (some a))) ∧
        (∀ x ∈ exchanges u, ∃ answer, x.2 = .ok answer) ∧
        effects (exchanges t) = (exchanges u).filterMap Exchange.taken? := by
  cases transacted_of_runs ht with
  | unbegun => exact .inl rfl
  | @brokenOff answer u hu =>
    have hsent := effects_between (hbody u _ hu) answer []
    rw [List.append_nil] at hsent
    exact .inl hsent
  | @abandoned answer u o reply hu =>
    have hsent := effects_between (hbody u _ hu) answer [(.rollback, reply)]
    rw [effectsFrom_rollback] at hsent
    exact .inl (by simpa using hsent)
  | @uncommitted answer u a f reply hu =>
    have hsent := effects_between (hbody u _ hu) answer [(.commit, .error f), (.rollback, reply)]
    rw [effectsFrom_refused_commit] at hsent
    exact .inl (by simpa using hsent)
  | @committed answer answer' u a hu =>
    have hsent := effects_between (hbody u _ hu) answer [(.commit, .ok answer')]
    rcases (effectsFrom_inside (hbody u _ hu) []).2 with hs | ⟨hall, hs⟩
    · rw [hs, effectsFrom_commit_spoiled] at hsent
      exact .inl (by simpa using hsent)
    · rw [hs, List.nil_append, effectsFrom_commit] at hsent
      exact .inr ⟨a, u, rfl, hu, hall, by simpa using hsent⟩

end Action

end CityGuide.Store
