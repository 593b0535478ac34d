import CityGuide.Proofs.Store.Actions

namespace CityGuide.Store.Action

variable {ε ε' α β : Type} {S : Command → Prop}

def Sends (S : Command → Prop) (a : Action ε α) : Prop :=
  ∀ t o?, a.Runs t o? → ∀ x ∈ exchanges t, S x.1

namespace Sends

theorem of_silent {a : Action ε α} (h : ∀ t o?, a.Runs t o? → exchanges t = []) : Sends S a := by
  intro t o? ht x hx
  simp [h t o? ht] at hx

theorem ofExcept (r : Except ε α) : Sends S (ofExcept r) :=
  of_silent fun t o? ht => by simp [(runs_ofExcept.mp ht).1]

theorem pure (a : α) : Sends S (Pure.pure a : Action ε α) := ofExcept (.ok a)

theorem bind {a : Action ε α} {k : α → Action ε β} (ha : Sends S a) (hk : ∀ x, Sends S (k x)) :
    Sends S (a >>= k) := by
  intro t o? ht x hx
  rcases runs_bind.mp ht with ⟨u, w, y, rfl, hu, hw⟩ | ⟨e, he, -⟩ | ⟨hn, -⟩
  · rcases List.mem_append.mp (exchanges_append u w ▸ hx) with hx | hx
    · exact ha u _ hu x hx
    · exact hk y w _ hw x hx
  · exact ha t _ he x hx
  · exact ha t _ hn x hx

theorem gate {r : Except ε α} {k : α → Action ε β} (h : ∀ a, r = .ok a → Sends S (k a)) :
    Sends S (Action.ofExcept r >>= k) := by
  cases r with
  | error e => exact ofExcept _
  | ok a => exact h a rfl

theorem gate_mapError {f : ε → ε'} {r : Except ε α} {k : α → Action ε' β}
    (h : ∀ a, r = .ok a → Sends S (k a)) : Sends S (Action.ofExcept (r.mapError f) >>= k) := by
  cases r with
  | error e => exact ofExcept _
  | ok a => exact h a rfl

theorem mapError {f : ε → ε'} {a : Action ε α} (h : Sends S a) : Sends S (a.mapError f) := by
  intro t o? ht x hx
  obtain ⟨v?, hv, -⟩ := runs_mapError.mp ht
  exact h t v? hv x hx

theorem send {c : Command} (h : S c) : Sends S (Action.send c) := by
  intro t o? ht x hx
  obtain ⟨r, rfl, -⟩ := runs_send.mp ht
  rw [List.mem_singleton.mp hx]
  exact h

theorem ask {s : Sql.Statement} {use : Answer → Except Failure α} (h : S (.run s)) :
    Sends S (Action.ask s use) := bind (send h) fun a => ofExcept (use a)

theorem run {s : Sql.Statement} (h : S (.run s)) : Sends S (Action.run s) := send h

theorem all {s : Sql.Statement} {read : Row → Option α} (h : S (.run s)) :
    Sends S (Action.all s read) := all_eq_ask s read ▸ ask h

theorem optional {s : Sql.Statement} {read : Row → Option α} (h : S (.run s)) :
    Sends S (Action.optional s read) := optional_eq_ask s read ▸ ask h

theorem one {s : Sql.Statement} {read : Row → Option α} (h : S (.run s)) :
    Sends S (Action.one s read) := one_eq_ask s read ▸ ask h

theorem affected {s : Sql.Statement} (h : S (.run s)) : Sends S (Action.affected s) := ask h

theorem touched {s : Sql.Statement} (h : S (.run s)) : Sends S (Action.touched s) :=
  touched_eq_ask s ▸ ask h

theorem lift {p : Program α} (h : ∀ t v?, p.Runs t v? → ∀ x ∈ exchanges t, S x.1) :
    Sends S (Action.lift p : Action ε α) := by
  intro t o? ht x hx
  obtain ⟨v?, hv, -⟩ := runs_lift.mp ht
  exact h t v? hv x hx

theorem newId : Sends S (Action.newId : Action ε Uuid) :=
  lift fun t v? h => by
    obtain ⟨u, w, rfl, hw⟩ := Program.runs_freshId.mp h
    simp [(Program.runs_done.mp hw).1]

theorem newSalt : Sends S (Action.newSalt : Action ε Password.Salt) :=
  lift fun t v? h => by
    obtain ⟨s, w, rfl, hw⟩ := Program.runs_freshSalt.mp h
    simp [(Program.runs_done.mp hw).1]

theorem now : Sends S (Action.now : Action ε Time.Instant) :=
  lift fun t v? h => by
    obtain ⟨i, w, rfl, hw⟩ := Program.runs_clock.mp h
    simp [(Program.runs_done.mp hw).1]

theorem crash : Sends S (Action.crash : Action ε α) :=
  lift fun t v? h => by simp [(Program.runs_crash.mp h).1]

theorem abandon (h : S .rollback) : Sends S Action.abandon :=
  lift fun t v? ht => by
    obtain ⟨r, w, rfl, hw⟩ := Program.runs_send.mp ht
    simpa [(Program.runs_done.mp hw).1] using h

theorem transaction {body : Action Failure (Option α)} (hbegin : S .begin) (hcommit : S .commit)
    (hrollback : S .rollback) (hbody : Sends S body) : Sends S (Action.transaction body) := by
  refine bind (send hbegin) fun _ => bind (lift hbody) fun outcome => ?_
  rcases outcome with e | _ | a
  · exact bind (abandon hrollback) fun _ => ofExcept _
  · exact bind (abandon hrollback) fun _ => ofExcept _
  · refine bind (lift (send hcommit)) fun committed => ?_
    cases committed with
    | error e => exact bind (abandon hrollback) fun _ => ofExcept _
    | ok _ => exact ofExcept _

end Sends

end CityGuide.Store.Action
