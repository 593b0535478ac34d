import CityGuide.Proofs.Outcomes
import CityGuide.Proofs.Store.Readings
import Mathlib.Data.List.Forall2

namespace CityGuide.Store

/-- Which commands, failures and rows of two runs count as alike; the rows are those that a command
is answered with. -/
structure Likeness where
  commands : Command → Command → Prop
  failures : Failure → Failure → Prop
  rows : Command → Row → Row → Prop

namespace Likeness

inductive Replies (L : Likeness) (c : Command) : Reply → Reply → Prop
  | failed {f f' : Failure} (h : L.failures f f') : Replies L c (.error f) (.error f')
  | answered {rows rows' : List Row} {n : Nat} (h : List.Forall₂ (L.rows c) rows rows') :
      Replies L c (.ok ⟨rows, n⟩) (.ok ⟨rows', n⟩)

def Comes (L : Likeness) : Step → Step → Prop
  | .asked c r, .asked c' r' => L.commands c c' → L.Replies c r r'
  | .drewId u, .drewId u' => u = u'
  | .drewSalt s, .drewSalt s' => s = s'
  | .readClock i, .readClock i' => i = i'
  | _, _ => True

def World (L : Likeness) (t t' : List Step) : Prop := ∀ p ∈ t.zip t', L.Comes p.1 p.2

theorem world_cons {L : Likeness} {x x' : Step} {t t' : List Step} :
    L.World (x :: t) (x' :: t') ↔ L.Comes x x' ∧ L.World t t' := by
  simp [World]

inductive Steps (L : Likeness) : Step → Step → Prop
  | asked {c c' : Command} {r r' : Reply} (hc : L.commands c c') (hr : L.Replies c r r') :
      Steps L (.asked c r) (.asked c' r')
  | drewId (u : Uuid) : Steps L (.drewId u) (.drewId u)
  | drewSalt (s : Password.Salt) : Steps L (.drewSalt s) (.drewSalt s)
  | readClock (i : Time.Instant) : Steps L (.readClock i) (.readClock i)

end Likeness

namespace Program

variable {α α' β β' : Type} {L : Likeness} {R : α → α' → Prop} {S : β → β' → Prop}

inductive Parallel (L : Likeness) (R : α → α' → Prop) : Program α → Program α' → Prop
  | done {a : α} {a' : α'} (h : R a a') : Parallel L R (.done a) (.done a')
  | send {c c' : Command} {next : Reply → Program α} {next' : Reply → Program α'}
      (hc : L.commands c c') (h : ∀ r r', L.Replies c r r' → Parallel L R (next r) (next' r')) :
      Parallel L R (.send c next) (.send c' next')
  | freshId {next : Uuid → Program α} {next' : Uuid → Program α'}
      (h : ∀ u, Parallel L R (next u) (next' u)) : Parallel L R (.freshId next) (.freshId next')
  | freshSalt {next : Password.Salt → Program α} {next' : Password.Salt → Program α'}
      (h : ∀ s, Parallel L R (next s) (next' s)) :
      Parallel L R (.freshSalt next) (.freshSalt next')
  | clock {next : Time.Instant → Program α} {next' : Time.Instant → Program α'}
      (h : ∀ i, Parallel L R (next i) (next' i)) : Parallel L R (.clock next) (.clock next')
  | crash : Parallel L R .crash .crash

namespace Parallel

theorem bind {p : Program α} {p' : Program α'} {k : α → Program β} {k' : α' → Program β'}
    (h : Parallel L R p p') (hk : ∀ a a', R a a' → Parallel L S (k a) (k' a')) :
    Parallel L S (p.bind k) (p'.bind k') := by
  induction h with
  | done h => exact hk _ _ h
  | send hc _ ih => exact .send hc ih
  | freshId _ ih => exact .freshId ih
  | freshSalt _ ih => exact .freshSalt ih
  | clock _ ih => exact .clock ih
  | crash => exact .crash

theorem mono {T : α → α' → Prop} {p : Program α} {p' : Program α'} (h : Parallel L R p p')
    (ht : ∀ a a', R a a' → T a a') : Parallel L T p p' := by
  rw [← Program.bind_done p, ← Program.bind_done p']
  exact h.bind fun a a' ha => .done (ht a a' ha)

theorem runs {p : Program α} {p' : Program α'} (h : Parallel L R p p') {t t' : List Step}
    {v? : Option α} {v?' : Option α'} (ht : p.Runs t v?) (ht' : p'.Runs t' v?')
    (hw : L.World t t') : List.Forall₂ L.Steps t t' ∧ Option.Rel R v? v?' := by
  induction h generalizing t t' with
  | done h =>
    obtain ⟨rfl, rfl⟩ := runs_done.mp ht
    obtain ⟨rfl, rfl⟩ := runs_done.mp ht'
    exact ⟨.nil, .some h⟩
  | send hc _ ih =>
    obtain ⟨r, u, rfl, hu⟩ := runs_send.mp ht
    obtain ⟨r', u', rfl, hu'⟩ := runs_send.mp ht'
    obtain ⟨hcomes, hmore⟩ := Likeness.world_cons.mp hw
    have hr : L.Replies _ r r' := hcomes hc
    obtain ⟨hsteps, hv⟩ := ih r r' hr hu hu' hmore
    exact ⟨.cons (.asked hc hr) hsteps, hv⟩
  | freshId _ ih =>
    obtain ⟨i, u, rfl, hu⟩ := runs_freshId.mp ht
    obtain ⟨i', u', rfl, hu'⟩ := runs_freshId.mp ht'
    obtain ⟨rfl, hmore⟩ := Likeness.world_cons.mp hw
    obtain ⟨hsteps, hv⟩ := ih i hu hu' hmore
    exact ⟨.cons (.drewId i) hsteps, hv⟩
  | freshSalt _ ih =>
    obtain ⟨s, u, rfl, hu⟩ := runs_freshSalt.mp ht
    obtain ⟨s', u', rfl, hu'⟩ := runs_freshSalt.mp ht'
    obtain ⟨rfl, hmore⟩ := Likeness.world_cons.mp hw
    obtain ⟨hsteps, hv⟩ := ih s hu hu' hmore
    exact ⟨.cons (.drewSalt s) hsteps, hv⟩
  | clock _ ih =>
    obtain ⟨i, u, rfl, hu⟩ := runs_clock.mp ht
    obtain ⟨i', u', rfl, hu'⟩ := runs_clock.mp ht'
    obtain ⟨rfl, hmore⟩ := Likeness.world_cons.mp hw
    obtain ⟨hsteps, hv⟩ := ih i hu hu' hmore
    exact ⟨.cons (.readClock i) hsteps, hv⟩
  | crash =>
    obtain ⟨rfl, rfl⟩ := runs_crash.mp ht
    obtain ⟨rfl, rfl⟩ := runs_crash.mp ht'
    exact ⟨.nil, .none⟩

end Parallel

end Program

namespace Action

variable {ε ε' φ φ' α α' β β' : Type} {L : Likeness} {E : ε → ε' → Prop} {F : φ → φ' → Prop}
  {R : α → α' → Prop} {S : β → β' → Prop}

def Parallel (L : Likeness) (E : ε → ε' → Prop) (R : α → α' → Prop) (a : Action ε α)
    (a' : Action ε' α') : Prop :=
  Program.Parallel L (Outcomes E R) (ExceptT.run a) (ExceptT.run a')

namespace Parallel

theorem mono {T : α → α' → Prop} {a : Action ε α} {a' : Action ε' α'} (h : Parallel L E R a a')
    (ht : ∀ x x', R x x' → T x x') : Parallel L E T a a' :=
  Program.Parallel.mono h fun _ _ ho => ho.mono ht

theorem ofExcept {r : Except ε α} {r' : Except ε' α'} (h : Outcomes E R r r') :
    Parallel L E R (ofExcept r) (ofExcept r') := .done h

theorem pure {a : α} {a' : α'} (h : R a a') :
    Parallel L E R (Pure.pure a : Action ε α) (Pure.pure a' : Action ε' α') := ofExcept (.held h)

theorem bind {a : Action ε α} {a' : Action ε' α'} {k : α → Action ε β} {k' : α' → Action ε' β'}
    (h : Parallel L E R a a') (hk : ∀ x x', R x x' → Parallel L E S (k x) (k' x')) :
    Parallel L E S (a >>= k) (a' >>= k') := by
  refine Program.Parallel.bind h fun o o' ho => ?_
  cases ho with
  | failed h => exact .done (.failed h)
  | held h => exact hk _ _ h

theorem gate {r : Except ε α} {r' : Except ε' α'} {k : α → Action ε β} {k' : α' → Action ε' β'}
    (h : Outcomes E R r r') (hk : ∀ x x', R x x' → Parallel L E S (k x) (k' x')) :
    Parallel L E S (Action.ofExcept r >>= k) (Action.ofExcept r' >>= k') := bind (ofExcept h) hk

theorem mapError {f : ε → φ} {f' : ε' → φ'} {a : Action ε α} {a' : Action ε' α'}
    (h : Parallel L E R a a') (hf : ∀ e e', E e e' → F (f e) (f' e')) :
    Parallel L F R (a.mapError f) (a'.mapError f') := by
  refine Program.Parallel.bind h fun o o' ho => .done ?_
  cases ho with
  | failed h => exact .failed (hf _ _ h)
  | held h => exact .held h

theorem lift {p : Program α} {p' : Program α'} (h : Program.Parallel L R p p') :
    Parallel L E R (Action.lift p) (Action.lift p') :=
  Program.Parallel.bind h fun _ _ ha => .done (.held ha)

theorem newId : Parallel L E Eq (Action.newId : Action ε Uuid) (Action.newId : Action ε' Uuid) :=
  lift (.freshId fun _ => .done rfl)

theorem newSalt : Parallel L E Eq (Action.newSalt : Action ε Password.Salt)
    (Action.newSalt : Action ε' Password.Salt) :=
  lift (.freshSalt fun _ => .done rfl)

theorem now : Parallel L E Eq (Action.now : Action ε Time.Instant)
    (Action.now : Action ε' Time.Instant) :=
  lift (.clock fun _ => .done rfl)

theorem crash : Parallel L E R (Action.crash : Action ε α) (Action.crash : Action ε' α') :=
  lift .crash

def Answers (L : Likeness) (c : Command) (a a' : Answer) : Prop := L.Replies c (.ok a) (.ok a')

theorem send {c c' : Command} (hc : L.commands c c') :
    Parallel L L.failures (Answers L c) (Action.send c) (Action.send c') := by
  refine Program.Parallel.send hc fun r r' hr => .done ?_
  cases hr with
  | failed h => exact .failed h
  | answered h => exact .held (.answered h)

theorem attempt {a : Action ε α} {a' : Action ε' α'} {k : Except ε α → Action φ β}
    {k' : Except ε' α' → Action φ' β'} (h : Parallel L E R a a')
    (hk : ∀ o o', Outcomes E R o o' → Parallel L F S (k o) (k' o')) :
    Parallel L F S (Action.lift (ExceptT.run a) >>= k) (Action.lift (ExceptT.run a') >>= k') :=
  bind (lift h) hk

theorem ask {st st' : Sql.Statement} {use : Answer → Except Failure α}
    {use' : Answer → Except Failure α'} (hc : L.commands (.run st) (.run st'))
    (hu : ∀ a a', Answers L (.run st) a a' → Outcomes L.failures R (use a) (use' a')) :
    Parallel L L.failures R (Action.ask st use) (Action.ask st' use') :=
  bind (send hc) fun a a' ha => ofExcept (hu a a' ha)

section Rows

variable {st st' : Sql.Statement} {read : Row → Option α} {read' : Row → Option α'}
  {a a' : Answer}

theorem decode_related (hf : ∀ f, L.failures f f) {o : Option α} {o' : Option α'}
    (h : Option.Rel R o o') : Outcomes L.failures R (decode o) (decode o') := by
  cases h with
  | none => exact .failed (hf _)
  | some h => exact .held h

theorem firstRow_related (hf : ∀ f, L.failures f f)
    (hr : ∀ row row', L.rows (.run st) row row' → Option.Rel R (read row) (read' row'))
    (h : Answers L (.run st) a a') :
    Outcomes L.failures (Option.Rel R) (firstRow read a) (firstRow read' a') := by
  cases h with
  | answered h =>
    cases h with
    | nil => exact .held .none
    | cons hrow _ => exact (decode_related hf (hr _ _ hrow)).map fun _ _ => .some

theorem mapM_related (hr : ∀ row row', L.rows (.run st) row row' → Option.Rel R (read row) (read' row'))
    {rows rows' : List Row} (h : List.Forall₂ (L.rows (.run st)) rows rows') :
    Option.Rel (List.Forall₂ R) (rows.mapM read) (rows'.mapM read') := by
  induction h with
  | nil => exact .some .nil
  | cons hrow _ ih =>
    rw [List.mapM_cons, List.mapM_cons]
    exact rel_bind (hr _ _ hrow) fun _ _ hx => rel_bind ih fun _ _ hmore => .some (.cons hx hmore)

theorem optional (hc : L.commands (.run st) (.run st')) (hf : ∀ f, L.failures f f)
    (hr : ∀ row row', L.rows (.run st) row row' → Option.Rel R (read row) (read' row')) :
    Parallel L L.failures (Option.Rel R) (Action.optional st read) (Action.optional st' read') := by
  rw [optional_eq_ask, optional_eq_ask]
  exact .ask hc fun a a' h => firstRow_related hf hr h

theorem one (hc : L.commands (.run st) (.run st')) (hf : ∀ f, L.failures f f)
    (hr : ∀ row row', L.rows (.run st) row row' → Option.Rel R (read row) (read' row')) :
    Parallel L L.failures R (Action.one st read) (Action.one st' read') := by
  rw [one_eq_ask, one_eq_ask]
  refine .ask hc fun a a' h => (firstRow_related hf hr h).bind fun o o' ho => ?_
  cases ho with
  | none => exact .failed (hf _)
  | some h => exact .held h

theorem all (hc : L.commands (.run st) (.run st')) (hf : ∀ f, L.failures f f)
    (hr : ∀ row row', L.rows (.run st) row row' → Option.Rel R (read row) (read' row')) :
    Parallel L L.failures (List.Forall₂ R) (Action.all st read) (Action.all st' read') := by
  rw [all_eq_ask, all_eq_ask]
  refine .ask hc fun a a' h => ?_
  cases h with
  | answered h => exact decode_related hf (mapM_related hr h)

theorem affected (hc : L.commands (.run st) (.run st')) :
    Parallel L L.failures Eq (Action.affected st) (Action.affected st') := by
  rw [affected_eq_ask, affected_eq_ask]
  refine .ask hc fun a a' h => ?_
  cases h with
  | answered h => exact .held rfl

end Rows

theorem transaction {body body' : Action Failure (Option α)}
    (hbegin : L.commands .begin .begin) (hcommit : L.commands .commit .commit)
    (hrollback : L.commands .rollback .rollback) (h : Parallel L L.failures Eq body body') :
    Parallel L L.failures Eq (Action.transaction body) (Action.transaction body') := by
  have habandon : Parallel L L.failures Eq Action.abandon Action.abandon :=
    lift (.send hrollback fun _ _ _ => .done rfl)
  refine bind (send hbegin) fun _ _ _ => attempt h fun o o' ho => ?_
  cases ho with
  | failed hf => exact bind habandon fun _ _ _ => ofExcept (.failed hf)
  | @held found? _ h =>
    subst h
    cases found? with
    | none => exact bind habandon fun _ _ _ => ofExcept (.held rfl)
    | some a =>
      refine attempt (send hcommit) fun o o' ho => ?_
      cases ho with
      | failed hf => exact bind habandon fun _ _ _ => ofExcept (.failed hf)
      | held _ => exact ofExcept (.held rfl)

end Parallel

end Action

open CityGuide.Store.Action

structure Likeness.Faithful (L : Likeness) (personal : Prop) : Prop where
  commands : ∀ c, L.commands c c
  failures : ∀ f, L.failures f f
  rows : ∀ {α : Type} {st : Sql.Statement} {read : Row → Option α} {row row' : Row},
    Reads personal st read → L.rows (.run st) row row' → read row = read row'

namespace Likeness.Faithful

variable {L : Likeness} {personal : Prop} {α : Type} {st : Sql.Statement} {read : Row → Option α}

theorem outcomes (hL : L.Faithful personal) (r : Except Failure α) :
    Outcomes L.failures Eq r r := by
  cases r with
  | error f => exact .failed (hL.failures f)
  | ok a => exact .held rfl

theorem read_related (hL : L.Faithful personal) (hr : Reads personal st read) (row row' : Row)
    (h : L.rows (.run st) row row') : Option.Rel Eq (read row) (read row') := by
  rw [hL.rows hr h]
  cases read row' with
  | none => exact .none
  | some a => exact .some rfl

theorem optional (hL : L.Faithful personal) (hr : Reads personal st read) :
    Parallel L L.failures Eq (Action.optional st read) (Action.optional st read) := by
  refine (Parallel.optional (hL.commands _) hL.failures (hL.read_related hr)).mono ?_
  rintro _ _ (_ | _)
  · rename_i h
    rw [h]
  · rfl

theorem one (hL : L.Faithful personal) (hr : Reads personal st read) :
    Parallel L L.failures Eq (Action.one st read) (Action.one st read) :=
  .one (hL.commands _) hL.failures (hL.read_related hr)

theorem asks (hL : L.Faithful personal) {a : Action Failure α} (h : Asks personal a) :
    Parallel L L.failures Eq a a := by
  induction h with
  | result r => exact .ofExcept (hL.outcomes r)
  | newId => exact .newId
  | newSalt => exact .newSalt
  | optional _ hr => exact hL.optional hr
  | affected _ => exact .affected (hL.commands _)
  | unread _ _ ih => exact .bind (.send (hL.commands _)) fun _ _ _ => ih
  | bind _ _ iha ihk => exact .bind iha fun x _ hx => hx ▸ ihk x

theorem stores (hL : L.Faithful personal) {a : Action Failure α} (h : Stores personal a) :
    Parallel L L.failures Eq a a := by
  induction h with
  | asks h => exact hL.asks h
  | transaction h =>
    exact .transaction (hL.commands _) (hL.commands _) (hL.commands _) (hL.asks h)
  | bind _ _ iha ihk => exact .bind iha fun x _ hx => hx ▸ ihk x

end Likeness.Faithful

end CityGuide.Store
