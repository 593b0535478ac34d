import CityGuide.Proofs.Api.Escalation
import CityGuide.Proofs.Api.Ownership
import CityGuide.Proofs.Store.Conversations

namespace CityGuide.Api

open Store Store.Action Handling

def transacted : List Endpoint :=
  [.fixed .post ["v1", "business"], .named .put ["v1", "business"], .fixed .post ["v1", "review"],
    .named .put ["v1", "review"], .fixed .post ["v1", "follower"]]

theorem Error.le_status (e : Error) : 400 ≤ e.status := by
  cases e <;> simp [status]

theorem Stop.le_status (e : Error) : 400 ≤ (Stop.error e).response.status := e.le_status

theorem Stop.le_status_of_unreadable {stop : Stop}
    (h : ∃ status ∈ unreadableStatuses, stop = .unreadable status) :
    400 ≤ stop.response.status := by
  obtain ⟨status, hs, rfl⟩ := h
  have hall : ∀ status ∈ unreadableStatuses, 400 ≤ status := by decide
  exact hall status hs

inductive Disciplined : List Exchange → Nat → Prop
  | stopped {status : Nat} (hs : 400 ≤ status) : Disciplined [] status
  | conversed {xs : List Exchange} {o : Outcome} {status : Nat} (hx : Conversation xs o)
      (hf : o = .failed → 400 ≤ status) (hm : o = .missing → status = 404) :
      Disciplined xs status
  | look {x : Exchange} {xs : List Exchange} {status : Nat} (hx : x.Looks)
      (h : Disciplined xs status) : Disciplined (x :: xs) status

def Handled (a : Handling Http.Response) : Prop :=
  ∀ t o?, a.Runs t o? →
    ∃ o, o? = some o ∧ Disciplined (exchanges t) (settle Stop.response o).status

namespace Handled

variable {α ε : Type}

theorem gate {r : Except Stop α} {k : α → Handling Http.Response}
    (hr : ∀ stop, r = .error stop → 400 ≤ stop.response.status) (h : ∀ a, Handled (k a)) :
    Handled (Action.ofExcept r >>= k) := by
  intro t o? ht
  cases r with
  | error stop =>
    obtain ⟨rfl, rfl⟩ := runs_ofExcept.mp ht
    exact ⟨_, rfl, .stopped (hr stop rfl)⟩
  | ok a => exact h a t o? ht

theorem check {r : Except ε α} {f : ε → Error} {k : α → Handling Http.Response}
    (h : ∀ a, Handled (k a)) :
    Handled (Action.ofExcept (r.mapError fun e => .error (f e)) >>= k) := by
  refine gate (fun stop hstop => ?_) h
  cases r with
  | error e =>
    obtain rfl := Except.error.inj hstop
    exact Stop.le_status _
  | ok a => simp [Except.mapError] at hstop

theorem caller {i : Incoming} {k : Caller → Handling Http.Response} (h : ∀ c, Handled (k c)) :
    Handled (read i.caller >>= k) := by
  refine gate (fun stop hstop => ?_) h
  cases hc : i.caller? with
  | none =>
    simp only [Incoming.caller, hc, Except.error.injEq] at hstop
    exact hstop ▸ Stop.le_status _
  | some c => simp [Incoming.caller, hc] at hstop

theorem id {i : Incoming} {k : Uuid → Handling Http.Response} (h : ∀ id, Handled (k id)) :
    Handled (read i.id >>= k) :=
  gate (fun _ hstop => Stop.le_status_of_unreadable (Incoming.id_error hstop)) h

theorem body {i : Incoming} {dec : Json.Decoder α} {k : α → Handling Http.Response}
    (h : ∀ a, Handled (k a)) : Handled (read (i.body dec) >>= k) :=
  gate (fun _ hstop => Stop.le_status_of_unreadable (Incoming.body_error hstop)) h

theorem look {table : String} {id : Uuid} {read : Row → Option α} {k : α → Handling Http.Response}
    (h : ∀ a, Handled (k a)) :
    Handled (existing (Action.optional (.find table id) read) >>= k) := by
  intro t o? ht
  rcases runs_bind.mp ht with ⟨_, w, a, rfl, hu, hw⟩ | ⟨stop, he, rfl⟩ | ⟨hn, -⟩
  · obtain ⟨reply, rfl, -⟩ := runs_look.mp hu
    obtain ⟨o, rfl, ho⟩ := h a w o? hw
    exact ⟨o, rfl, .look ⟨_, rfl, rfl⟩ ho⟩
  · obtain ⟨reply, rfl, hstop⟩ := runs_look.mp he
    refine ⟨_, rfl, .look ⟨_, rfl, rfl⟩ (.stopped ?_)⟩
    rcases hfound : reply.bind (firstRow read) with f | _ | a <;>
      simp only [hfound, existed, Option.some.injEq, Except.error.injEq, reduceCtorEq] at hstop
    · exact hstop ▸ Stop.le_status _
    · exact hstop ▸ Stop.le_status _
  · obtain ⟨reply, -, hn⟩ := runs_look.mp hn
    simp at hn

theorem stored {a : Action Failure α} {f : α → Http.Response}
    (h : ∀ t o?, a.Runs t o? →
      ∃ o, o? = some o ∧ Conversation (exchanges t) (outcome (o.map some))) :
    Handled (ofStore a >>= fun x => pure (f x)) := by
  intro t o? ht
  obtain ⟨_, hstored, rfl⟩ := runs_bind_ofExcept.mp ht
  obtain ⟨_, hruns, rfl⟩ := runs_mapError.mp hstored
  obtain ⟨o, rfl, ho⟩ := h t _ hruns
  refine ⟨_, rfl, .conversed ho (fun hf => ?_) fun hm => ?_⟩
  · cases o with
    | error f => exact Stop.le_status _
    | ok a => simp [outcome, Except.map] at hf
  · cases o <;> simp [outcome, Except.map] at hm

theorem changed {a : Action Failure (Option α)} {f : α → Http.Response}
    (h : ∀ t o?, a.Runs t o? → ∃ o, o? = some o ∧ Conversation (exchanges t) (outcome o)) :
    Handled (existing a >>= fun x => pure (f x)) := by
  intro t o? ht
  obtain ⟨_, hexisting, rfl⟩ := runs_bind_ofExcept.mp ht
  obtain ⟨_, hruns, rfl⟩ := runs_existing.mp hexisting
  obtain ⟨o, rfl, ho⟩ := h t _ hruns
  refine ⟨_, rfl, .conversed ho (fun hf => ?_) fun hm => ?_⟩
  · rcases o with f | _ | a
    · exact Stop.le_status _
    · simp [outcome] at hf
    · simp [outcome] at hf
  · rcases o with f | _ | a
    · simp [outcome] at hm
    · rfl
    · simp [outcome] at hm

end Handled

theorem Businesses.create_handled (i : Incoming) : Handled (create i) := by
  refine .caller fun c => .body fun d => .check fun _ => .check fun _ => .stored fun t o? ht => ?_
  rw [Business.create_eq] at ht
  exact conversation_of_creation .business (fun _ => rfl) ht

theorem Businesses.update_handled (i : Incoming) : Handled (update i) := by
  refine .caller fun c => .id fun id => .body fun change => ?_
  simp only [owned, bind_assoc]
  refine .look fun _ => .check fun _ => .check fun _ => .changed fun t o? ht => ?_
  rw [Business.update_eq] at ht
  exact conversation_of_alteration .business ht

theorem Reviews.create_handled (i : Incoming) : Handled (create i) := by
  refine .caller fun c => .body fun d => .check fun _ => .check fun _ => .stored fun t o? ht => ?_
  rw [Review.create_eq] at ht
  exact conversation_of_creation .review (fun _ => rfl) ht

theorem Reviews.update_handled (i : Incoming) : Handled (update i) := by
  refine .caller fun c => .id fun id => .body fun change => ?_
  simp only [owned, bind_assoc]
  refine .look fun _ => .check fun _ => .check fun _ => .changed fun t o? ht => ?_
  rw [Review.update_eq] at ht
  exact conversation_of_alteration .review ht

theorem Follows.toggle_handled (i : Incoming) : Handled (toggle i) := by
  refine .caller fun c => .body fun body => .check fun _ => ?_
  split
  · intro t o? ht
    obtain ⟨rfl, rfl⟩ := runs_ofExcept.mp ht
    exact ⟨_, rfl, .stopped (Stop.le_status _)⟩
  · exact .stored fun t o? ht => Follower.conversation_of_toggle ht

theorem transacted_handled {policy : TokenPolicy} {e : Endpoint} (he : e ∈ transacted) :
    ∃ h, (e, h) ∈ endpoints policy ∧ ∀ i, Handled (h i) := by
  have hlisted : ∀ x ∈ [(.fixed .post ["v1", "business"], Businesses.create),
      (.named .put ["v1", "business"], Businesses.update),
      (.fixed .post ["v1", "review"], Reviews.create),
      (.named .put ["v1", "review"], Reviews.update),
      (.fixed .post ["v1", "follower"], Follows.toggle)], x ∈ endpoints policy := by
    simp [endpoints, Route.endpoints, routes, path, named, Endpoint.fixed, Endpoint.named]
  simp only [List.forall_mem_cons] at hlisted
  obtain ⟨hcreate, hupdate, hreview, hreviewed, hfollow, -⟩ := hlisted
  simp only [transacted, List.mem_cons, List.not_mem_nil, or_false] at he
  rcases he with rfl | rfl | rfl | rfl | rfl
  · exact ⟨_, hcreate, Businesses.create_handled⟩
  · exact ⟨_, hupdate, Businesses.update_handled⟩
  · exact ⟨_, hreview, Reviews.create_handled⟩
  · exact ⟨_, hreviewed, Reviews.update_handled⟩
  · exact ⟨_, hfollow, Follows.toggle_handled⟩

def Within (xs : List Exchange) (x : Exchange) : Prop :=
  ∃ before opened inner after, xs = before ++ (.begin, .ok opened) :: (inner ++ x :: after) ∧
    (∀ y ∈ inner, y.1.isRun) ∧ x.1.isRun

def Undone (xs : List Exchange) : Prop :=
  (∀ x ∈ xs, x.1 ≠ .commit) ∧ ∃ reply, xs.getLast? = some (.rollback, reply)

/-- What the exchanges of a request that writes in a transaction have to do with its status. -/
structure Bracketed (xs : List Exchange) (status : Nat) : Prop where
  enclosed : ∀ x ∈ xs, x.Writes → ∃ before opened inner close after,
    xs = before ++ (.begin, .ok opened) :: (inner ++ close :: after) ∧ x ∈ inner ∧
      (∀ y ∈ inner, y.1.isRun) ∧ (close.1 = .commit ∨ close.1 = .rollback) ∧
      ∀ y : Exchange, y ∈ before ++ after → y.1 ≠ .begin ∧ ¬y.Writes
  failing : ∀ x, Within xs x → x.Fails → Undone xs ∧ 400 ≤ status
  rowless : ∀ x, Within xs x → x.Rowless → Undone xs ∧ status = 404
  unbegun : ∀ before f after, xs = before ++ (.begin, .error f) :: after →
    after = [] ∧ (∀ x ∈ xs, ¬x.Writes) ∧ 400 ≤ status
  uncommitted : ∀ f, (.commit, .error f) ∈ xs → 400 ≤ status
  committed : status < 400 → ∃ before opened inner answer after,
    xs = before ++ (.begin, .ok opened) :: (inner ++ (.commit, .ok answer) :: after) ∧
      (∀ y ∈ before ++ inner ++ after, y.1.isRun) ∧ ReadBack inner after

theorem split_unique {α : Type} {P : α → Prop} {a u b v : List α} {c d : α}
    (ha : ∀ y ∈ a, ¬P y) (hu : ∀ y ∈ u, ¬P y) (hd : P d) (h : a ++ c :: u = b ++ d :: v) :
    a = b ∧ c = d ∧ u = v := by
  induction a generalizing b with
  | nil =>
    cases b with
    | nil => simpa using h
    | cons y b =>
      obtain ⟨rfl, rfl⟩ := List.cons.inj h
      exact absurd hd (hu d (by simp))
  | cons x a ih =>
    obtain ⟨hx, ha⟩ := List.forall_mem_cons.mp ha
    cases b with
    | nil =>
      obtain ⟨rfl, -⟩ := List.cons.inj h
      exact absurd hd hx
    | cons y b =>
      obtain ⟨rfl, htail⟩ := List.cons.inj h
      obtain ⟨rfl, hc, hu⟩ := ih ha htail
      exact ⟨rfl, hc, hu⟩

theorem mem_of_runs_prefix {inner inner' tail after : List Exchange} {close x : Exchange}
    (hclose : ¬close.1.isRun) (hinner : ∀ y ∈ inner', y.1.isRun) (hx : x.1.isRun)
    (h : inner ++ close :: tail = inner' ++ x :: after) : x ∈ inner := by
  induction inner generalizing inner' with
  | nil =>
    cases inner' with
    | nil => exact absurd ((List.cons.inj h).1 ▸ hx) hclose
    | cons y inner' => exact absurd ((List.cons.inj h).1 ▸ hinner y (.head _)) hclose
  | cons y inner ih =>
    cases inner' with
    | nil => exact (List.cons.inj h).1 ▸ .head _
    | cons z inner' =>
      exact .tail _ (ih (List.forall_mem_cons.mp hinner).2 (List.cons.inj h).2)

theorem not_begin_of_isRun {x : Exchange} (h : x.1.isRun) : x.1 ≠ .begin := by
  intro hb
  simp [hb, Command.isRun] at h

theorem not_commit_of_isRun {x : Exchange} (h : x.1.isRun) : x.1 ≠ .commit := by
  intro hc
  simp [hc, Command.isRun] at h

section Begun

variable {looks inner tail : List Exchange} {opened : Answer} {close : Exchange} {status : Nat}
  (hlooks : ∀ x ∈ looks, x.Looks) (hinner : ∀ x ∈ inner, x.1.isRun)
  (hclose : close.1 = .commit ∨ close.1 = .rollback)
  (htail : ∀ x ∈ tail, x.1 ≠ .begin ∧ ¬x.Writes)

include hlooks hinner hclose htail

theorem begun_unique {before after : List Exchange} {reply : Reply}
    (h : looks ++ (.begin, .ok opened) :: (inner ++ close :: tail) =
      before ++ (.begin, reply) :: after) :
    looks = before ∧ reply = .ok opened ∧ inner ++ close :: tail = after := by
  have hnobegin : ∀ x ∈ inner ++ close :: tail, x.1 ≠ .begin := by
    refine List.forall_mem_append.mpr ⟨fun x hx => not_begin_of_isRun (hinner x hx), ?_⟩
    refine List.forall_mem_cons.mpr ⟨?_, fun x hx => (htail x hx).1⟩
    rcases hclose with h | h <;> simp [h]
  obtain ⟨hbefore, hbegin, hafter⟩ := split_unique (P := fun x : Exchange => x.1 = .begin)
    (fun x hx => not_begin_of_isRun (hlooks x hx).isRun) hnobegin rfl h
  exact ⟨hbefore, (Prod.mk.inj hbegin).2.symm, hafter⟩

theorem mem_of_within {x : Exchange}
    (h : Within (looks ++ (.begin, .ok opened) :: (inner ++ close :: tail)) x) : x ∈ inner := by
  obtain ⟨before, opened', inner', after, hxs, hinner', hx⟩ := h
  obtain ⟨-, -, hrest⟩ := begun_unique hlooks hinner hclose htail hxs
  refine mem_of_runs_prefix ?_ hinner' hx hrest
  rcases hclose with h | h <;> simp [h, Command.isRun]

theorem bracketed_of_begun
    (hbad : (∃ x ∈ inner, x.Fails ∨ x.Rowless) → close.1 = .rollback ∧ tail = [] ∧ 400 ≤ status)
    (hmissing : (∃ x ∈ inner, x.Rowless) → status = 404)
    (hrefused : ∀ f, (.commit, .error f) ∈ close :: tail → 400 ≤ status)
    (hkept : status < 400 → (∃ answer, close = (.commit, .ok answer)) ∧ (∀ x ∈ tail, x.1.isRun) ∧
      ReadBack inner tail) :
    Bracketed (looks ++ (.begin, .ok opened) :: (inner ++ close :: tail)) status := by
  have hundone : (∃ x ∈ inner, x.Fails ∨ x.Rowless) →
      Undone (looks ++ (.begin, .ok opened) :: (inner ++ close :: tail)) := by
    intro h
    obtain ⟨hrollback, rfl, -⟩ := hbad h
    refine ⟨?_, close.2, List.getLast?_eq_some_iff.mpr
      ⟨looks ++ (.begin, .ok opened) :: inner, by simp [← hrollback]⟩⟩
    simp only [List.forall_mem_append, List.forall_mem_cons]
    exact ⟨fun x hx => not_commit_of_isRun (hlooks x hx).isRun, by simp,
      fun x hx => not_commit_of_isRun (hinner x hx), by simp [hrollback], by simp⟩
  constructor
  case enclosed =>
    intro x hx hw
    refine ⟨looks, opened, inner, close, tail, rfl, ?_, hinner, hclose, ?_⟩
    · simp only [List.mem_append, List.mem_cons] at hx
      rcases hx with hx | rfl | hx | rfl | hx
      · exact absurd hw (hlooks x hx).not_writes
      · exact absurd hw.isRun (by simp [Command.isRun])
      · exact hx
      · rcases hclose with h | h <;> exact absurd hw.isRun (by simp [h, Command.isRun])
      · exact absurd hw (htail x hx).2
    · refine fun y hy => (List.mem_append.mp hy).elim (fun hy => ?_) fun hy => htail y hy
      exact ⟨not_begin_of_isRun (hlooks y hy).isRun, (hlooks y hy).not_writes⟩
  case failing =>
    intro x hx hf
    have hmem := mem_of_within hlooks hinner hclose htail hx
    exact ⟨hundone ⟨x, hmem, .inl hf⟩, (hbad ⟨x, hmem, .inl hf⟩).2.2⟩
  case rowless =>
    intro x hx hr
    have hmem := mem_of_within hlooks hinner hclose htail hx
    exact ⟨hundone ⟨x, hmem, .inr hr⟩, hmissing ⟨x, hmem, hr⟩⟩
  case unbegun =>
    intro before f after h
    obtain ⟨-, hr, -⟩ := begun_unique hlooks hinner hclose htail h
    simp at hr
  case uncommitted =>
    intro f hf
    simp only [List.mem_append, List.mem_cons] at hf
    rcases hf with hf | hf | hf | hf
    · exact absurd rfl (not_commit_of_isRun (hlooks _ hf).isRun)
    · simp at hf
    · exact absurd rfl (not_commit_of_isRun (hinner _ hf))
    · exact hrefused f (List.mem_cons.mpr hf)
  case committed =>
    intro hs
    obtain ⟨⟨answer, rfl⟩, hruns, hback⟩ := hkept hs
    refine ⟨looks, opened, inner, answer, tail, rfl, fun y hy => ?_, hback⟩
    simp only [List.mem_append] at hy
    rcases hy with (hy | hy) | hy
    · exact (hlooks y hy).isRun
    · exact hinner y hy
    · exact hruns y hy

end Begun

theorem bracketed_of_looks {looks : List Exchange} {status : Nat} (hlooks : ∀ x ∈ looks, x.Looks)
    (hs : 400 ≤ status) : Bracketed looks status := by
  have hruns : ∀ x ∈ looks, x.1.isRun := fun x hx => (hlooks x hx).isRun
  have hnowrite : ∀ x ∈ looks, ¬x.Writes := fun x hx => (hlooks x hx).not_writes
  constructor
  case enclosed => exact fun x hx hw => absurd hw (hnowrite x hx)
  case failing | rowless =>
    rintro x ⟨before, opened, inner, after, rfl, -⟩
    exact absurd rfl (not_begin_of_isRun (hruns (.begin, .ok opened) (by simp)))
  case unbegun =>
    rintro before f after rfl
    exact absurd rfl (not_begin_of_isRun (hruns (.begin, .error f) (by simp)))
  case uncommitted => exact fun _ _ => hs
  case committed => exact fun h => absurd h (Nat.not_lt.mpr hs)

theorem bracketed_of_unbegun {looks : List Exchange} {f : Failure} {status : Nat}
    (hlooks : ∀ x ∈ looks, x.Looks) (hs : 400 ≤ status) :
    Bracketed (looks ++ [(.begin, .error f)]) status := by
  have hnobegin : ∀ x ∈ looks, x.1 ≠ .begin := fun x hx => not_begin_of_isRun (hlooks x hx).isRun
  have hnowrite : ∀ x ∈ looks ++ [(.begin, .error f)], ¬Exchange.Writes x := by
    refine List.forall_mem_append.mpr ⟨fun x hx => (hlooks x hx).not_writes, ?_⟩
    simp [Exchange.Writes]
  have hunique : ∀ before reply after,
      looks ++ [(.begin, .error f)] = before ++ (Command.begin, reply) :: after →
        reply = .error f ∧ after = [] := by
    intro before reply after h
    obtain ⟨-, hbegin, hafter⟩ := split_unique (P := fun x : Exchange => x.1 = .begin) hnobegin
      (by simp) rfl h
    exact ⟨(Prod.mk.inj hbegin).2.symm, hafter.symm⟩
  constructor
  case enclosed => exact fun x hx hw => absurd hw (hnowrite x hx)
  case failing | rowless =>
    rintro x ⟨before, opened, inner, after, h, -⟩
    simpa using (hunique _ _ _ h).1
  case unbegun => exact fun before f' after h => ⟨(hunique _ _ _ h).2, hnowrite, hs⟩
  case uncommitted => exact fun _ _ => hs
  case committed => exact fun h => absurd h (Nat.not_lt.mpr hs)

theorem bracketed_of_conversation {looks xs : List Exchange} {o : Outcome} {status : Nat}
    (hlooks : ∀ x ∈ looks, x.Looks) (hx : Conversation xs o) (hf : o = .failed → 400 ≤ status)
    (hm : o = .missing → status = 404) : Bracketed (looks ++ xs) status := by
  cases hx with
  | unbegun f => exact bracketed_of_unbegun hlooks (hf rfl)
  | abandoned reply hr ho hrow =>
    have hs : 400 ≤ status := by
      cases o with
      | failed => exact hf rfl
      | missing => exact (hm rfl).symm ▸ (by decide)
      | settled => exact absurd rfl ho
    refine bracketed_of_begun hlooks hr (.inr rfl) (by simp) (fun _ => ⟨rfl, rfl, hs⟩)
      (fun h => hm (hrow h)) (fun _ _ => hs) fun h => absurd h (Nat.not_lt.mpr hs)
  | uncommitted f reply hi =>
    refine bracketed_of_begun hlooks (fun x hx => (hi x hx).1) (.inl rfl) ?_ ?_ ?_
      (fun _ _ => hf rfl) fun h => absurd h (Nat.not_lt.mpr (hf rfl))
    · simp [Exchange.Writes]
    · rintro ⟨x, hx, hb | hb⟩
      · exact absurd hb (hi x hx).2.1
      · exact absurd hb (hi x hx).2.2
    · rintro ⟨x, hx, hb⟩
      exact absurd hb (hi x hx).2.2
  | committed hi ha =>
    have hafter : ∀ x ∈ _, Exchange.Looks x := ha.looks
    refine bracketed_of_begun hlooks (fun x hx => (hi x hx).1) (.inl rfl) ?_ ?_ ?_ ?_ ?_
    · exact fun x hx => ⟨not_begin_of_isRun (hafter x hx).isRun, (hafter x hx).not_writes⟩
    · rintro ⟨x, hx, hb | hb⟩
      · exact absurd hb (hi x hx).2.1
      · exact absurd hb (hi x hx).2.2
    · rintro ⟨x, hx, hb⟩
      exact absurd hb (hi x hx).2.2
    · intro f h
      rcases List.mem_cons.mp h with h | h
      · simp at h
      · exact absurd rfl (not_commit_of_isRun (hafter _ h).isRun)
    · exact fun _ => ⟨⟨_, rfl⟩, fun x hx => (hafter x hx).isRun, ha⟩

theorem Disciplined.bracketed {xs : List Exchange} {status : Nat} (h : Disciplined xs status)
    {looks : List Exchange} (hlooks : ∀ x ∈ looks, x.Looks) : Bracketed (looks ++ xs) status := by
  -- The looks that are still to come are moved to those before, until the transaction is reached.
  induction h generalizing looks with
  | stopped hs =>
    rw [List.append_nil]
    exact bracketed_of_looks hlooks hs
  | conversed hx hf hm => exact bracketed_of_conversation hlooks hx hf hm
  | @look x xs status hx _ ih =>
    rw [List.append_cons]
    refine ih (List.forall_mem_append.mpr ⟨hlooks, ?_⟩)
    simpa using hx

namespace Server

variable {s : Server} {r : Http.Request} {e : Endpoint} {name? : Option (List Char)}
  {t : List Step} {v? : Option Http.Response}

theorem looks_of_session {xs : List Exchange}
    (h : ∀ x ∈ xs, ∃ sessionId userId, x.1 = .run (.activeSession sessionId userId)) :
    ∀ x ∈ xs, x.Looks := by
  intro x hx
  obtain ⟨_, _, hl⟩ := h x hx
  exact ⟨_, hl, rfl⟩

theorem TurnsAway.le_status {status : Nat} (h : s.TurnsAway r t status) : 400 ≤ status := by
  cases h <;> decide

theorem transaction_discipline (he : e ∈ transacted) (hr : s.Reaches r e name?)
    (ht : (s.handle r).Runs t v?) :
    ∃ response, v? = some response ∧ Bracketed (exchanges t) response.status := by
  obtain ⟨h, hh, hhandled⟩ := transacted_handled he
  rcases hr.runs_cases hh ht with
    ⟨lead, rest, c?, o?, rfl, hlead, ho, rfl⟩ | ⟨response, rfl, hturned⟩
  · obtain ⟨o, rfl, hdisciplined⟩ := hhandled _ rest o? ho
    refine ⟨_, rfl, ?_⟩
    rw [outer_status, exchanges_append]
    exact hdisciplined.bracketed (looks_of_session hlead.sends)
  · exact ⟨response, rfl,
      bracketed_of_looks (looks_of_session hturned.sends) hturned.le_status⟩

def following : Http.Request :=
  carrying [] visitorClaims
    ⟨.post, "/v1/follower", [("content-type", "application/json")],
      "\x7b\"following_id\":\"11111111-1111-1111-1111-111111111111\"\x7d"⟩

theorem following_body :
    (⟨following, some (visitor .user), none⟩ : Incoming).body Follower.Request.decode =
      .ok ⟨removedId⟩ := Token.eq_ok_of_toOption (by decide +kernel)

theorem following_reaches (s : Server) :
    s.Reaches following (.fixed .post ["v1", "follower"]) none := by
  have hs : (Http.Target.ofString following.target).segments? =
      some ["v1".toList, "follower".toList] := by decide +kernel
  have hf : findRoute (routes s.policy) ["v1".toList, "follower".toList] =
      some (path ["v1", "follower"] [(.post, Follows.toggle)], none) := by
    simp [findRoute, routes, path, named, Route.matchSegments]
  exact reaches_of_segments hs hf rfl

def unfollowing : List Step :=
  [.asked .begin (.ok ⟨[], 0⟩),
    .asked (.run (.delete .plain Follower.table (Follower.keys .nil removedId))) (.ok ⟨[], 1⟩),
    .asked .commit (.ok ⟨[], 0⟩)]

def followingRun : List Step := visitorLead .user ++ unfollowing

theorem following_toggles :
    (Follows.toggle ⟨following, some (visitor .user), none⟩).Runs unfollowing
      (some (.ok (.json 200 (Follower.Toggle.toJson ⟨.nil, removedId, false⟩)))) := by
  have hother : removedId ≠ .nil := by decide +kernel
  rw [Follows.toggle, following_body]
  change Runs (if removedId = Uuid.nil then
      Handling.refuse (.badRequest "cannot follow yourself")
    else do
      let t ← Handling.ofStore (Follower.toggle .nil removedId)
      ok t.toJson) _ _
  rw [if_neg hother]
  exact .send (.send (.send (.done _)))

theorem following_runs :
    ∃ response, ((⟨⟨[], 0⟩, .anyone, 30⟩ : Server).handle following).Runs followingRun
      (some response) ∧ response.status = 200 := by
  have hh : (Endpoint.fixed .post ["v1", "follower"], Follows.toggle) ∈ endpoints ⟨[], 0⟩ := by
    simp [endpoints, Route.endpoints, routes, path, named, Endpoint.fixed]
  have hlead : Introduces ⟨⟨[], 0⟩, .anyone, 30⟩ following (visitorLead .user)
      (some (visitor .user)) := introduces_visitor ..
  have hr := following_reaches ⟨⟨[], 0⟩, .anyone, 30⟩
  have hruns := hr.runs_of_caller hh hlead following_toggles
  refine ⟨_, hruns, ?_⟩
  rw [outer_status]
  rfl

theorem following_commits :
    ∃ response, ((⟨⟨[], 0⟩, .anyone, 30⟩ : Server).handle following).Runs followingRun
      (some response) ∧ response.status = 200 ∧
        ∃ before opened inner answer after, exchanges followingRun =
          before ++ (.begin, .ok opened) :: (inner ++ (.commit, .ok answer) :: after) := by
  obtain ⟨response, hruns, hstatus⟩ := following_runs
  obtain ⟨_, hresponse, hbracketed⟩ :=
    transaction_discipline (by simp [transacted]) (following_reaches _) hruns
  obtain rfl := Option.some.inj hresponse
  obtain ⟨before, opened, inner, answer, after, hxs, -⟩ :=
    hbracketed.committed (by rw [hstatus]; decide)
  exact ⟨response, hruns, hstatus, before, opened, inner, answer, after, hxs⟩

end Server

end CityGuide.Api
