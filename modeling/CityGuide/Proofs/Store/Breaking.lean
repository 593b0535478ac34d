import CityGuide.Proofs.Store.Readings

namespace CityGuide.Store

def Undoes (t : List Step) : Prop :=
  exchanges t = [] ∨ ∃ reply, exchanges t = [(.rollback, reply)]

namespace Program

variable {α β : Type} {undo : Prop} {Q : α → Prop} {X : Command → Failure → α → Prop}
  {Y : Command → Failure → β → Prop}

inductive Ends (undo : Prop) (Q : α → Prop) : Program α → Prop
  | done {a : α} (h : Q a) : Ends undo Q (.done a)
  | rollback {next : Reply → Program α} (hu : undo) (h : ∀ r, ∃ a, next r = .done a ∧ Q a) :
      Ends undo Q (.send .rollback next)

inductive Breaks (undo : Prop) (X : Command → Failure → α → Prop) : Program α → Prop
  | done (a : α) : Breaks undo X (.done a)
  | send {c : Command} {next : Reply → Program α}
      (hf : c ≠ .rollback → ∀ f, Ends undo (X c f) (next (.error f)))
      (h : ∀ r, Breaks undo X (next r)) : Breaks undo X (.send c next)
  | freshId {next : Uuid → Program α} (h : ∀ u, Breaks undo X (next u)) :
      Breaks undo X (.freshId next)
  | freshSalt {next : Password.Salt → Program α} (h : ∀ s, Breaks undo X (next s)) :
      Breaks undo X (.freshSalt next)
  | clock {next : Time.Instant → Program α} (h : ∀ i, Breaks undo X (next i)) :
      Breaks undo X (.clock next)
  | crash : Breaks undo X .crash

theorem Ends.bind {p : Program α} {k : α → Program β} {S : β → Prop} (h : Ends undo Q p)
    (hk : ∀ a, Q a → ∃ b, k a = .done b ∧ S b) : Ends undo S (p.bind k) := by
  cases h with
  | @done a h =>
    obtain ⟨b, hb, hs⟩ := hk a h
    rw [Program.bind, hb]
    exact .done hs
  | rollback hu h =>
    refine .rollback hu fun r => ?_
    obtain ⟨a, ha, hq⟩ := h r
    obtain ⟨b, hb, hs⟩ := hk a hq
    exact ⟨b, by rw [ha, Program.bind, hb], hs⟩

theorem Ends.bind_undoing {p : Program α} {k : α → Program β} {S : β → Prop} (h : Ends False Q p)
    (hk : ∀ a, Q a → Ends undo S (k a)) : Ends undo S (p.bind k) := by
  cases h with
  | done h => exact hk _ h
  | rollback hu => exact hu.elim

theorem Ends.runs {p : Program α} (h : Ends undo Q p) {t : List Step} {v? : Option α}
    (ht : p.Runs t v?) : Undoes t ∧ ∃ a, v? = some a ∧ Q a := by
  cases h with
  | done h =>
    obtain ⟨rfl, rfl⟩ := runs_done.mp ht
    exact ⟨.inl rfl, _, rfl, h⟩
  | rollback _ h =>
    obtain ⟨r, u, rfl, hu⟩ := runs_send.mp ht
    obtain ⟨a, ha, hq⟩ := h r
    rw [ha] at hu
    obtain ⟨rfl, rfl⟩ := runs_done.mp hu
    exact ⟨.inr ⟨r, rfl⟩, a, rfl, hq⟩

namespace Breaks

theorem bind {p : Program α} {k : α → Program β} (h : Breaks undo X p)
    (hk : ∀ a, Breaks undo Y (k a)) (hx : ∀ c f a, X c f a → ∃ b, k a = .done b ∧ Y c f b) :
    Breaks undo Y (p.bind k) := by
  induction h with
  | done a => exact hk a
  | send hf _ ih => exact .send (fun hc f => (hf hc f).bind (hx _ f)) ih
  | freshId _ ih => exact .freshId ih
  | freshSalt _ ih => exact .freshSalt ih
  | clock _ ih => exact .clock ih
  | crash => exact .crash

theorem bind_undoing {p : Program α} {k : α → Program β} (h : Breaks False X p)
    (hk : ∀ a, Breaks undo Y (k a)) (hx : ∀ c f a, X c f a → Ends undo (Y c f) (k a)) :
    Breaks undo Y (p.bind k) := by
  induction h with
  | done a => exact hk a
  | send hf _ ih => exact .send (fun hc f => (hf hc f).bind_undoing (hx _ f)) ih
  | freshId _ ih => exact .freshId ih
  | freshSalt _ ih => exact .freshSalt ih
  | clock _ ih => exact .clock ih
  | crash => exact .crash

theorem runs {p : Program α} (h : Breaks undo X p) {before after : List Step} {c : Command}
    {f : Failure} {v? : Option α} (ht : p.Runs (before ++ .asked c (.error f) :: after) v?)
    (hc : c ≠ .rollback) : Undoes after ∧ ∃ a, v? = some a ∧ X c f a := by
  induction h generalizing before with
  | done | crash =>
    simp at ht
  | send hf _ ih =>
    obtain ⟨r, u, ht, hu⟩ := runs_send.mp ht
    cases before with
    | nil =>
      obtain ⟨heq, rfl⟩ := List.cons.inj ht
      obtain ⟨rfl, rfl⟩ := Step.asked.inj heq
      exact (hf hc f).runs hu
    | cons x before =>
      obtain ⟨-, rfl⟩ := List.cons.inj ht
      exact ih r hu
  | freshId _ ih | freshSalt _ ih | clock _ ih =>
    simp only [runs_freshId, runs_freshSalt, runs_clock] at ht
    obtain ⟨i, u, ht, hu⟩ := ht
    cases before with
    | nil => simp at ht
    | cons x before =>
      obtain ⟨-, rfl⟩ := List.cons.inj ht
      exact ih i hu

end Breaks

end Program

def Command.isPlain : Command → Bool
  | .run st => st.isPlain
  | _ => true

namespace Action

variable {ε ε' α β : Type} {undo : Prop} {E : Command → Failure → ε → Prop}
  {F : Command → Failure → ε' → Prop}

def Breaks (undo : Prop) (E : Command → Failure → ε → Prop) (a : Action ε α) : Prop :=
  Program.Breaks undo (fun c f o => ∃ e, o = .error e ∧ E c f e) (ExceptT.run a)

namespace Breaks

theorem ofExcept (r : Except ε α) : Breaks undo E (ofExcept r) := .done r

theorem bind {a : Action ε α} {k : α → Action ε β} (ha : Breaks undo E a)
    (hk : ∀ x, Breaks undo E (k x)) : Breaks undo E (a >>= k) := by
  refine Program.Breaks.bind ha (fun o => ?_) ?_
  · cases o with
    | error e => exact .done _
    | ok x => exact hk x
  · rintro c f _ ⟨e, rfl, he⟩
    exact ⟨.error e, rfl, e, rfl, he⟩

theorem mapError {g : ε → ε'} {a : Action ε α} (ha : Breaks undo E a)
    (hg : ∀ c f e, E c f e → F c f (g e)) : Breaks undo F (a.mapError g) := by
  refine Program.Breaks.bind ha (fun o => .done _) ?_
  rintro c f _ ⟨e, rfl, he⟩
  exact ⟨_, rfl, g e, rfl, hg c f e he⟩

theorem lift {p : Program α} (hp : Program.Breaks undo (fun _ _ _ => False) p) :
    Breaks undo E (Action.lift p) :=
  Program.Breaks.bind hp (fun _ => .done _) fun _ _ _ h => h.elim

theorem newId : Breaks undo E (Action.newId : Action ε Uuid) := lift (.freshId fun _ => .done _)

theorem newSalt : Breaks undo E (Action.newSalt : Action ε Password.Salt) :=
  lift (.freshSalt fun _ => .done _)

theorem now : Breaks undo E (Action.now : Action ε Time.Instant) := lift (.clock fun _ => .done _)

theorem attempt {a : Action ε' α} {k : Except ε' α → Action ε β} (ha : Breaks False F a)
    (hk : ∀ o, Breaks undo E (k o))
    (hx : ∀ c f e, F c f e → Program.Ends undo (fun o => ∃ e, o = .error e ∧ E c f e)
      (ExceptT.run (k (.error e)))) :
    Breaks undo E (Action.lift (ExceptT.run a) >>= k) := by
  change Program.Breaks undo _ (Program.bind (Program.bind (ExceptT.run a) fun o => .done (.ok o))
    (ExceptT.bindCont k))
  rw [Program.bind_assoc]
  refine Program.Breaks.bind_undoing ha hk ?_
  rintro c f _ ⟨e, rfl, he⟩
  exact hx c f e he

def Passing (P : Command → Prop) (c : Command) (f e : Failure) : Prop := P c ∧ e = f

variable {P : Command → Prop}

theorem send {c : Command} (hc : P c) : Breaks undo (Passing P) (Action.send c) :=
  Program.Breaks.send (fun _ f => .done ⟨f, rfl, hc, rfl⟩) fun r => .done r

theorem ask {st : Sql.Statement} {use : Answer → Except Failure α} (hc : P (.run st)) :
    Breaks undo (Passing P) (Action.ask st use) := .bind (.send hc) fun _ => .ofExcept _

theorem abandoned (o : Except Failure α) :
    Breaks undo (Passing P) (Action.abandon >>= fun _ => Action.ofExcept o) :=
  Program.Breaks.send (fun hc => absurd rfl hc) fun _ => .done o

theorem abandoned_ends {c : Command} {f e : Failure} (he : Passing P c f e) :
    Program.Ends True (fun o => ∃ e, o = .error e ∧ Passing P c f e)
      (ExceptT.run (Action.abandon >>= fun _ => (Action.ofExcept (.error e) : Action Failure α))) :=
  .rollback trivial fun _ => ⟨.error e, rfl, e, rfl, he⟩

theorem transaction {body : Action Failure (Option α)} (hbegin : P .begin) (hcommit : P .commit)
    (h : Breaks False (Passing P) body) : Breaks True (Passing P) (Action.transaction body) := by
  refine bind (send hbegin) fun _ => attempt h (fun o => ?_) fun _ _ _ he => abandoned_ends he
  rcases o with e | _ | a
  · exact abandoned _
  · exact abandoned _
  · refine attempt (send hcommit) (fun o => ?_) fun _ _ _ he => abandoned_ends he
    cases o with
    | error e => exact abandoned _
    | ok _ => exact ofExcept _

theorem mono {a : Action ε α} (h : Breaks False E a) : Breaks undo E a := by
  rw [Breaks, ← Program.bind_done (ExceptT.run a)]
  exact Program.Breaks.bind_undoing h .done fun _ _ _ ho => .done ho

end Breaks

end Action

open CityGuide.Store.Action

variable {personal : Prop} {α : Type}

theorem Asks.breaks {a : Action Failure α} (h : Asks personal a) :
    Breaks False (Breaks.Passing fun c => c.isPlain = true) a := by
  induction h with
  | result r => exact .ofExcept r
  | newId => exact .newId
  | newSalt => exact .newSalt
  | optional hp _ =>
    rw [optional_eq_ask]
    exact .ask hp
  | affected hp => exact .ask hp
  | unread hp _ ih => exact .bind (.send hp) fun _ => ih
  | bind _ _ iha ihk => exact .bind iha ihk

theorem Stores.breaks {a : Action Failure α} (h : Stores personal a) :
    Breaks True (Breaks.Passing fun c => c.isPlain = true) a := by
  induction h with
  | asks h => exact h.breaks.mono
  | transaction h => exact .transaction rfl rfl h.breaks
  | bind _ _ iha ihk => exact .bind iha ihk

end CityGuide.Store
