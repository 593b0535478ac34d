import CityGuide.Proofs.Store.Effects

namespace CityGuide.Store

variable {α β : Type}

namespace Exchange

def Fails (x : Exchange) : Prop := ∃ f, x.2 = .error f

def Rowless (x : Exchange) : Prop :=
  ∃ table changes id answer, x = (.run (.update table changes id), .ok answer) ∧ answer.rows = []

def Looks (x : Exchange) : Prop := ∃ st : Sql.Statement, x.1 = .run st ∧ st.isWrite = false

def Writes (x : Exchange) : Prop := ∃ st : Sql.Statement, x.1 = .run st ∧ st.isWrite = true

theorem Looks.not_writes {x : Exchange} (h : x.Looks) : ¬x.Writes := by
  obtain ⟨st, hst, hl⟩ := h
  rintro ⟨st', hst', hw⟩
  obtain rfl := Command.run.inj (hst.symm.trans hst')
  simp [hl] at hw

theorem Looks.isRun {x : Exchange} (h : x.Looks) : x.1.isRun := by
  obtain ⟨st, hst, -⟩ := h
  rw [hst]
  rfl

theorem Writes.isRun {x : Exchange} (h : x.Writes) : x.1.isRun := by
  obtain ⟨st, hst, -⟩ := h
  rw [hst]
  rfl

theorem not_rowless {st : Sql.Statement} (h : ∀ table changes id, st ≠ .update table changes id)
    (reply : Reply) : ¬Rowless (.run st, reply) := by
  rintro ⟨table, changes, id, answer, hx, -⟩
  exact h table changes id (Command.run.inj (Prod.mk.inj hx).1)

end Exchange

open Exchange

namespace Action

structure Settled (xs : List Exchange) (o : Except Failure (Option α)) : Prop where
  runs : ∀ x ∈ xs, x.1.isRun
  fails : ∀ x ∈ xs, x.Fails → ∃ f, o = .error f
  rowless : (∃ x ∈ xs, x.Rowless) ↔ o = .ok none

theorem Settled.none_of_rowless {st : Sql.Statement} {answer : Answer}
    (h : Rowless (.run st, .ok answer)) :
    Settled [(.run st, .ok answer)] (.ok (none : Option α)) where
  runs := by simp [Command.isRun]
  fails := by simp [Fails]
  rowless := by simpa using h

theorem Settled.stopped {st : Sql.Statement} {reply : Reply} {f : Failure}
    (h : ¬Rowless (.run st, reply)) :
    Settled [(.run st, reply)] (.error f : Except Failure (Option α)) where
  runs := by simp [Command.isRun]
  fails := by simp
  rowless := by simpa using h

theorem Settled.cons {st : Sql.Statement} {answer : Answer} {xs : List Exchange}
    {o : Except Failure (Option α)} (hx : ¬Rowless (.run st, .ok answer)) (h : Settled xs o) :
    Settled ((.run st, .ok answer) :: xs) o where
  runs := List.forall_mem_cons.mpr ⟨rfl, h.runs⟩
  fails := List.forall_mem_cons.mpr ⟨by simp [Fails], h.fails⟩
  rowless := by
    rw [← h.rowless]
    simp [hx]

def Orderly (body : Action Failure (Option α)) : Prop :=
  ∀ t o?, body.Runs t o? → ∃ o, o? = some o ∧ Settled (exchanges t) o

namespace Orderly

theorem found (a : α) : Orderly (pure (some a)) := by
  intro t o? ht
  obtain ⟨rfl, rfl⟩ := runs_pure.mp ht
  exact ⟨_, rfl, ⟨by simp, by simp, by simp⟩⟩

theorem ask_bind {st : Sql.Statement} {use : Answer → Except Failure α}
    {k : α → Action Failure (Option β)}
    (hnone : ∀ answer, Rowless (.run st, .ok answer) → ∃ a, use answer = .ok a ∧ k a = pure none)
    (hsome : ∀ answer a, ¬Rowless (.run st, .ok answer) → use answer = .ok a → Orderly (k a)) :
    Orderly (ask st use >>= k) := by
  intro t o? ht
  rcases runs_bind.mp ht with ⟨_, w, a, rfl, hu, hw⟩ | ⟨f, hf, rfl⟩ | ⟨hn, -⟩
  · obtain ⟨_ | answer, rfl, hr⟩ := runs_ask.mp hu
    · simp [Except.bind] at hr
    · have ha : use answer = .ok a := (Option.some.inj hr).symm
      by_cases hrow : Rowless (.run st, .ok answer)
      · obtain ⟨a', ha', hk⟩ := hnone answer hrow
        obtain rfl := Except.ok.inj (ha'.symm.trans ha)
        rw [hk, runs_pure] at hw
        obtain ⟨rfl, rfl⟩ := hw
        exact ⟨_, rfl, .none_of_rowless hrow⟩
      · obtain ⟨o, rfl, ho⟩ := hsome answer a hrow ha w o? hw
        exact ⟨o, rfl, ho.cons hrow⟩
  · obtain ⟨reply, rfl, hr⟩ := runs_ask.mp hf
    refine ⟨_, rfl, .stopped fun hrow => ?_⟩
    obtain ⟨_, _, _, answer, hx, -⟩ := id hrow
    obtain ⟨-, rfl⟩ := Prod.mk.inj hx
    obtain ⟨a, ha, -⟩ := hnone answer hrow
    simp [Except.bind, ha] at hr
  · obtain ⟨_, -, hr⟩ := runs_ask.mp hn
    simp at hr

theorem plain_bind {st : Sql.Statement} {use : Answer → Except Failure α}
    {k : α → Action Failure (Option β)} (hst : ∀ table changes id, st ≠ .update table changes id)
    (h : ∀ a, Orderly (k a)) : Orderly (ask st use >>= k) :=
  ask_bind (fun _ hrow => absurd hrow (not_rowless hst _)) fun _ a _ _ => h a

theorem update_bind {table : String} {changes : List Sql.Assignment} {id : Uuid}
    {read : Row → Option α} {k : Option α → Action Failure (Option β)} (hnone : k none = pure none)
    (hsome : ∀ a, Orderly (k (some a))) :
    Orderly (optional (.update table changes id) read >>= k) := by
  rw [optional_eq_ask]
  refine ask_bind (fun answer hrow => ?_) fun answer o hrow ho => ?_
  · obtain ⟨_, _, _, _, hx, hrows⟩ := hrow
    obtain rfl := Except.ok.inj (Prod.mk.inj hx).2
    exact ⟨none, by simp [firstRow, hrows], hnone⟩
  · have hrows : answer.rows ≠ [] := fun h => hrow ⟨_, _, _, answer, rfl, h⟩
    rcases firstRow_of_row read hrows with ⟨a, ha⟩ | hf
    · obtain rfl := Except.ok.inj (ha.symm.trans ho)
      exact hsome a
    · simp [hf] at ho

theorem run_eq_ask (st : Sql.Statement) : Action.run st = ask st .ok := (bind_pure _).symm

theorem run_bind {st : Sql.Statement} {k : Answer → Action Failure (Option β)}
    (hst : ∀ table changes id, st ≠ .update table changes id) (h : ∀ a, Orderly (k a)) :
    Orderly (Action.run st >>= k) := run_eq_ask st ▸ plain_bind hst h

theorem touched_bind {st : Sql.Statement} {k : Bool → Action Failure (Option β)}
    (hst : ∀ table changes id, st ≠ .update table changes id) (h : ∀ a, Orderly (k a)) :
    Orderly (touched st >>= k) := touched_eq_ask st ▸ plain_bind hst h

theorem newId_bind {k : Uuid → Action Failure (Option β)} (h : ∀ id, Orderly (k id)) :
    Orderly (newId >>= k) := by
  intro t o? ht
  change (Program.freshId fun id => ExceptT.run (k id)).Runs t o? at ht
  obtain ⟨id, u, rfl, hu⟩ := Program.runs_freshId.mp ht
  exact h id u o? hu

end Orderly

end Action

end CityGuide.Store
