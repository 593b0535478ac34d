import CityGuide.Proofs.Store.Runs

namespace CityGuide.Store.Action

variable {ε ε' α β : Type} {t : List Step}

def Runs (a : Action ε α) (t : List Step) (o? : Option (Except ε α)) : Prop :=
  Program.Runs (ExceptT.run a) t o?

@[simp] theorem runs_ofExcept {r : Except ε α} {o? : Option (Except ε α)} :
    (ofExcept r).Runs t o? ↔ t = [] ∧ o? = some r := Program.runs_done

@[simp] theorem runs_pure {a : α} {o? : Option (Except ε α)} :
    Runs (pure a : Action ε α) t o? ↔ t = [] ∧ o? = some (.ok a) := Program.runs_done

@[simp] theorem runs_send {c : Command} {o? : Option Reply} :
    (send c).Runs t o? ↔ ∃ r, t = [.asked c r] ∧ o? = some r := by
  change (Program.send c .done).Runs t o? ↔ _
  simp only [Program.runs_send, Program.runs_done]
  constructor
  · rintro ⟨r, _, rfl, rfl, rfl⟩
    exact ⟨r, rfl, rfl⟩
  · rintro ⟨r, rfl, rfl⟩
    exact ⟨r, [], rfl, rfl, rfl⟩

theorem runs_bind {a : Action ε α} {k : α → Action ε β} {o? : Option (Except ε β)} :
    Runs (a >>= k) t o? ↔
      (∃ u w x, t = u ++ w ∧ a.Runs u (some (.ok x)) ∧ (k x).Runs w o?) ∨
        (∃ e, a.Runs t (some (.error e)) ∧ o? = some (.error e)) ∨ (a.Runs t none ∧ o? = none) := by
  change (Program.bind (ExceptT.run a) (ExceptT.bindCont k)).Runs t o? ↔ _
  rw [Program.runs_bind]
  constructor
  · rintro (⟨u, w, x | x, rfl, hu, hw⟩ | h)
    · obtain ⟨rfl, rfl⟩ := Program.runs_done.mp hw
      exact .inr (.inl ⟨x, by simpa [Runs] using hu, rfl⟩)
    · exact .inl ⟨u, w, x, rfl, hu, hw⟩
    · exact .inr (.inr h)
  · rintro (⟨u, w, x, rfl, hu, hw⟩ | ⟨e, he, rfl⟩ | h)
    · exact .inl ⟨u, w, .ok x, rfl, hu, hw⟩
    · exact .inl ⟨t, [], .error e, by simp, he, Program.runs_done.mpr ⟨rfl, rfl⟩⟩
    · exact .inr h

theorem runs_lift {p : Program α} {o? : Option (Except ε α)} :
    Runs (lift p : Action ε α) t o? ↔ ∃ v?, p.Runs t v? ∧ o? = v?.map .ok := Program.runs_map

theorem runs_mapError {f : ε → ε'} {a : Action ε α} {o? : Option (Except ε' α)} :
    (a.mapError f).Runs t o? ↔ ∃ v?, a.Runs t v? ∧ o? = v?.map (Except.mapError f) :=
  Program.runs_map

theorem runs_bind_ofExcept {a : Action ε α} {f : α → Except ε β} {o? : Option (Except ε β)} :
    Runs (a >>= fun x => ofExcept (f x)) t o? ↔ ∃ v?, a.Runs t v? ∧ o? = v?.map (·.bind f) := by
  rw [runs_bind]
  simp only [runs_ofExcept]
  constructor
  · rintro (⟨u, _, x, rfl, hu, rfl, rfl⟩ | ⟨e, he, rfl⟩ | ⟨h, rfl⟩)
    · exact ⟨some (.ok x), by simpa using hu, rfl⟩
    · exact ⟨some (.error e), he, rfl⟩
    · exact ⟨none, h, rfl⟩
  · rintro ⟨_ | e | x, h, rfl⟩
    · exact .inr (.inr ⟨h, rfl⟩)
    · exact .inr (.inl ⟨e, h, rfl⟩)
    · exact .inl ⟨t, [], x, by simp, h, rfl, rfl⟩

theorem runs_attempt_bind {a : Action ε' α} {k : Except ε' α → Action ε β}
    {o? : Option (Except ε β)} :
    Runs (lift (ExceptT.run a) >>= k) t o? ↔
      (∃ u w x, t = u ++ w ∧ a.Runs u (some x) ∧ (k x).Runs w o?) ∨
        (a.Runs t none ∧ o? = none) := by
  rw [runs_bind]
  simp only [runs_lift]
  constructor
  · rintro (⟨u, w, x, rfl, ⟨_ | y, hu, hx⟩, hw⟩ | ⟨e, ⟨_ | y, -, he⟩, -⟩ | ⟨⟨_ | y, h, hn⟩, ho⟩)
    · simp at hx
    · obtain rfl : x = y := by simpa using hx
      exact .inl ⟨u, w, x, rfl, hu, hw⟩
    · simp at he
    · simp at he
    · exact .inr ⟨h, ho⟩
    · simp at hn
  · rintro (⟨u, w, x, rfl, hu, hw⟩ | ⟨h, ho⟩)
    · exact .inl ⟨u, w, x, rfl, ⟨some x, hu, rfl⟩, hw⟩
    · exact .inr (.inr ⟨⟨none, h, rfl⟩, ho⟩)

@[simp] theorem ofExcept_ok_bind (x : α) (k : α → Action ε β) :
    (ofExcept (.ok x) >>= k) = k x := rfl

@[simp] theorem ofExcept_error_bind (e : ε) (k : α → Action ε β) :
    (ofExcept (.error e) >>= k) = ofExcept (.error e) := rfl

theorem runs_send_bind {c : Command} {k : Answer → Action Failure β}
    {o? : Option (Except Failure β)} (h : Runs (send c >>= k) t o?) :
    (∃ f, t = [.asked c (.error f)] ∧ o? = some (.error f)) ∨
      ∃ answer u, t = .asked c (.ok answer) :: u ∧ (k answer).Runs u o? := by
  rcases runs_bind.mp h with ⟨_, w, answer, rfl, hsend, hw⟩ | ⟨f, hsend, rfl⟩ | ⟨hsend, -⟩
  · obtain ⟨_, rfl, hr⟩ := runs_send.mp hsend
    obtain rfl := Option.some.inj hr
    exact .inr ⟨answer, w, rfl, hw⟩
  · obtain ⟨_, rfl, hr⟩ := runs_send.mp hsend
    obtain rfl := Option.some.inj hr
    exact .inl ⟨f, rfl, rfl⟩
  · obtain ⟨_, -, hr⟩ := runs_send.mp hsend
    simp at hr

theorem runs_attempt_send_bind {c : Command} {k : Reply → Action ε β} {o? : Option (Except ε β)}
    (h : Runs (lift (ExceptT.run (send c)) >>= k) t o?) :
    ∃ r u, t = .asked c r :: u ∧ (k r).Runs u o? := by
  rcases runs_attempt_bind.mp h with ⟨_, w, r, rfl, hsend, hw⟩ | ⟨hsend, -⟩
  · obtain ⟨_, rfl, hr⟩ := runs_send.mp hsend
    obtain rfl := Option.some.inj hr
    exact ⟨r, w, rfl, hw⟩
  · obtain ⟨_, -, hr⟩ := runs_send.mp hsend
    simp at hr

theorem runs_gate {r : Except ε α} {k : α → Action ε β} {o? : Option (Except ε β)}
    (h : Runs (ofExcept r >>= k) t o?) : t = [] ∨ ∃ a, r = .ok a ∧ (k a).Runs t o? := by
  cases r with
  | error e => exact .inl (runs_ofExcept.mp h).1
  | ok a => exact .inr ⟨a, rfl, h⟩

def ask (s : Sql.Statement) (use : Answer → Except Failure α) : Action Failure α := do
  ofExcept (use (← run s))

theorem runs_ask {s : Sql.Statement} {use : Answer → Except Failure α}
    {o? : Option (Except Failure α)} :
    (ask s use).Runs t o? ↔ ∃ r, t = [.asked (.run s) r] ∧ o? = some (r.bind use) := by
  simp only [ask, run, runs_bind, runs_send, runs_ofExcept]
  constructor
  · rintro (⟨_, _, x, rfl, ⟨r, rfl, hr⟩, rfl, rfl⟩ | ⟨e, ⟨r, rfl, hr⟩, rfl⟩ | ⟨⟨r, -, hr⟩, -⟩)
    · exact ⟨r, by simp, by rw [← Option.some.inj hr]; rfl⟩
    · exact ⟨r, rfl, by rw [← Option.some.inj hr]; rfl⟩
    · simp at hr
  · rintro ⟨_ | x, rfl, rfl⟩
    · exact .inr (.inl ⟨_, ⟨_, rfl, rfl⟩, rfl⟩)
    · exact .inl ⟨_, [], x, by simp, ⟨_, rfl, rfl⟩, rfl, rfl⟩

def decode (o : Option α) : Except Failure α :=
  match o with
  | some a => .ok a
  | none => .error .undecodable

def firstRow (read : Row → Option α) (answer : Answer) : Except Failure (Option α) :=
  match answer.rows with
  | [] => .ok none
  | row :: _ => (decode (read row)).map some

theorem firstRow_of_row (read : Row → Option α) {answer : Answer} (h : answer.rows ≠ []) :
    (∃ a, firstRow read answer = .ok (some a)) ∨ firstRow read answer = .error .undecodable := by
  cases hrows : answer.rows with
  | nil => exact absurd hrows h
  | cons row rows =>
    cases hread : read row with
    | none => exact .inr (by simp [firstRow, hrows, hread, decode, Except.map])
    | some a => exact .inl ⟨a, by simp [firstRow, hrows, hread, decode, Except.map]⟩

theorem firstRow_eq_head {read : Row → Option α} {reply : Reply} {a : α}
    (h : reply.bind (firstRow read) = .ok (some a)) :
    ∃ row rows n, reply = .ok ⟨row :: rows, n⟩ ∧ read row = some a := by
  rcases reply with f | ⟨_ | ⟨row, rows⟩, n⟩
  · simp [Except.bind] at h
  · simp [Except.bind, firstRow] at h
  · refine ⟨row, rows, n, rfl, ?_⟩
    cases hread : read row with
    | none => simp [Except.bind, firstRow, hread, decode, Except.map] at h
    | some b => simpa [Except.bind, firstRow, hread, decode, Except.map] using h

theorem firstRow_eq_some {read : Row → Option α} {reply : Reply} {a : α}
    (h : reply.bind (firstRow read) = .ok (some a)) :
    ∃ answer, reply = .ok answer ∧ ∃ row ∈ answer.rows, read row = some a := by
  obtain ⟨row, rows, n, rfl, hread⟩ := firstRow_eq_head h
  exact ⟨_, rfl, row, List.mem_cons_self, hread⟩

theorem decoded_eq (o : Option α) : decoded o = ofExcept (decode o) := by
  cases o <;> rfl

theorem all_eq_ask (s : Sql.Statement) (read : Row → Option α) :
    all s read = ask s fun answer => decode (answer.rows.mapM read) := by
  simp only [all, ask, decoded_eq]

theorem optional_eq_ask (s : Sql.Statement) (read : Row → Option α) :
    optional s read = ask s (firstRow read) := by
  simp only [optional, ask]
  congr 1
  funext answer
  cases h : answer.rows with
  | nil => simp [firstRow, h]
  | cons row rest =>
    cases hr : read row <;> simp [firstRow, h, hr, decoded_eq, decode, Except.map]

def atLeastOne (o : Option α) : Except Failure α :=
  match o with
  | some a => .ok a
  | none => .error .noRow

theorem ask_bind_ofExcept (s : Sql.Statement) (use : Answer → Except Failure α)
    (f : α → Except Failure β) :
    (ask s use >>= fun a => ofExcept (f a)) = ask s fun answer => (use answer).bind f := by
  simp only [ask, bind_assoc]
  congr 1
  funext answer
  cases use answer <;> rfl

theorem one_eq_ask (s : Sql.Statement) (read : Row → Option α) :
    one s read = ask s fun answer => (firstRow read answer).bind atLeastOne := by
  rw [← ask_bind_ofExcept, ← optional_eq_ask]
  simp only [one]
  congr 1
  funext o
  cases o <;> rfl

theorem affected_eq_ask (s : Sql.Statement) :
    affected s = ask s fun answer => .ok answer.affected :=
  rfl

theorem touched_eq_ask (s : Sql.Statement) :
    touched s = ask s fun answer => .ok (decide (answer.affected > 0)) := by
  simp only [touched, affected_eq_ask]
  rw [ask_bind_ofExcept]
  rfl

end CityGuide.Store.Action
