import CityGuide.Store.Scripted

namespace CityGuide.Store

/-- One step of a run that the program does not decide: a reply, a draw, or a look at the clock. -/
inductive Step where
  | asked (c : Command) (r : Reply)
  | drewId (u : Uuid)
  | drewSalt (s : Password.Salt)
  | readClock (i : Time.Instant)

abbrev Exchange := Command × Reply

def Step.exchange? : Step → Option Exchange
  | asked c r => some (c, r)
  | drewId _ | drewSalt _ | readClock _ => none

def exchanges (t : List Step) : List Exchange := t.filterMap Step.exchange?

@[simp] theorem exchanges_nil : exchanges [] = [] := rfl

@[simp] theorem exchanges_asked (c : Command) (r : Reply) (t : List Step) :
    exchanges (.asked c r :: t) = (c, r) :: exchanges t := rfl

@[simp] theorem exchanges_drewId (u : Uuid) (t : List Step) :
    exchanges (.drewId u :: t) = exchanges t := rfl

@[simp] theorem exchanges_drewSalt (s : Password.Salt) (t : List Step) :
    exchanges (.drewSalt s :: t) = exchanges t := rfl

@[simp] theorem exchanges_readClock (i : Time.Instant) (t : List Step) :
    exchanges (.readClock i :: t) = exchanges t := rfl

@[simp] theorem exchanges_append (t u : List Step) :
    exchanges (t ++ u) = exchanges t ++ exchanges u := List.filterMap_append

theorem mem_exchanges {c : Command} {r : Reply} {t : List Step} :
    (c, r) ∈ exchanges t ↔ .asked c r ∈ t := by
  rw [exchanges, List.mem_filterMap]
  constructor
  · rintro ⟨x, hx, hsome⟩
    cases x with
    | asked c' r' =>
      obtain ⟨rfl, rfl⟩ := Prod.mk.inj (Option.some.inj hsome)
      exact hx
    | drewId | drewSalt | readClock => simp [Step.exchange?] at hsome
  · exact fun hx => ⟨_, hx, rfl⟩

namespace Program

variable {α β : Type}

inductive Runs : Program α → List Step → Option α → Prop
  | done (a : α) : Runs (.done a) [] (some a)
  | send {c : Command} {next : Reply → Program α} {r : Reply} {t : List Step} {v? : Option α} :
      Runs (next r) t v? → Runs (.send c next) (.asked c r :: t) v?
  | freshId {next : Uuid → Program α} {u : Uuid} {t : List Step} {v? : Option α} :
      Runs (next u) t v? → Runs (.freshId next) (.drewId u :: t) v?
  | freshSalt {next : Password.Salt → Program α} {s : Password.Salt} {t : List Step}
      {v? : Option α} : Runs (next s) t v? → Runs (.freshSalt next) (.drewSalt s :: t) v?
  | clock {next : Time.Instant → Program α} {i : Time.Instant} {t : List Step} {v? : Option α} :
      Runs (next i) t v? → Runs (.clock next) (.readClock i :: t) v?
  | crash : Runs .crash [] none

@[simp] theorem runs_done {a : α} {t : List Step} {v? : Option α} :
    (done a).Runs t v? ↔ t = [] ∧ v? = some a := by
  constructor
  · rintro ⟨⟩
    exact ⟨rfl, rfl⟩
  · rintro ⟨rfl, rfl⟩
    exact .done a

@[simp] theorem runs_send {c : Command} {next : Reply → Program α} {t : List Step}
    {v? : Option α} :
    (send c next).Runs t v? ↔ ∃ r u, t = .asked c r :: u ∧ (next r).Runs u v? := by
  constructor
  · rintro (_ | h)
    exact ⟨_, _, rfl, h⟩
  · rintro ⟨r, u, rfl, h⟩
    exact .send h

@[simp] theorem runs_freshId {next : Uuid → Program α} {t : List Step} {v? : Option α} :
    (freshId next).Runs t v? ↔ ∃ i u, t = .drewId i :: u ∧ (next i).Runs u v? := by
  constructor
  · rintro (_ | _ | h)
    exact ⟨_, _, rfl, h⟩
  · rintro ⟨i, u, rfl, h⟩
    exact .freshId h

@[simp] theorem runs_freshSalt {next : Password.Salt → Program α} {t : List Step}
    {v? : Option α} :
    (freshSalt next).Runs t v? ↔ ∃ s u, t = .drewSalt s :: u ∧ (next s).Runs u v? := by
  constructor
  · rintro (_ | _ | _ | h)
    exact ⟨_, _, rfl, h⟩
  · rintro ⟨s, u, rfl, h⟩
    exact .freshSalt h

@[simp] theorem runs_clock {next : Time.Instant → Program α} {t : List Step} {v? : Option α} :
    (clock next).Runs t v? ↔ ∃ i u, t = .readClock i :: u ∧ (next i).Runs u v? := by
  constructor
  · rintro (_ | _ | _ | _ | h)
    exact ⟨_, _, rfl, h⟩
  · rintro ⟨i, u, rfl, h⟩
    exact .clock h

@[simp] theorem runs_crash {t : List Step} {v? : Option α} :
    (crash : Program α).Runs t v? ↔ t = [] ∧ v? = none := by
  constructor
  · rintro ⟨⟩
    exact ⟨rfl, rfl⟩
  · rintro ⟨rfl, rfl⟩
    exact .crash

theorem Runs.unique {p : Program α} {t u : List Step} {v? v'? : Option α} (h : p.Runs t v?)
    (h' : p.Runs (t ++ u) v'?) : u = [] ∧ v'? = v? := by
  induction h with
  | done => exact runs_done.mp h'
  | crash => exact runs_crash.mp h'
  | send _ ih =>
    cases h' with
    | send h' => exact ih h'
  | freshId _ ih =>
    cases h' with
    | freshId h' => exact ih h'
  | freshSalt _ ih =>
    cases h' with
    | freshSalt h' => exact ih h'
  | clock _ ih =>
    cases h' with
    | clock h' => exact ih h'

theorem runs_bind {p : Program α} {k : α → Program β} {t : List Step} {v? : Option β} :
    (p.bind k).Runs t v? ↔
      (∃ u w a, t = u ++ w ∧ p.Runs u (some a) ∧ (k a).Runs w v?) ∨
        (p.Runs t none ∧ v? = none) := by
  induction p generalizing t with
  | done a =>
    simp only [bind, runs_done]
    constructor
    · intro h
      exact .inl ⟨[], t, a, rfl, ⟨rfl, rfl⟩, h⟩
    · rintro (⟨_, w, _, rfl, ⟨rfl, hb⟩, h⟩ | ⟨⟨-, hb⟩, -⟩)
      · exact Option.some.inj hb ▸ h
      · simp at hb
  | crash => simp [bind]
  | send c next ih | freshId next ih | freshSalt next ih | clock next ih =>
    simp only [bind, runs_send, runs_freshId, runs_freshSalt, runs_clock, ih]
    constructor
    · rintro ⟨r, x, rfl, ⟨u, w, a, rfl, hu, hw⟩ | ⟨hx, hv⟩⟩
      · exact .inl ⟨_ :: u, w, a, rfl, ⟨r, u, rfl, hu⟩, hw⟩
      · exact .inr ⟨⟨r, x, rfl, hx⟩, hv⟩
    · rintro (⟨_, w, a, rfl, ⟨r, u, rfl, hu⟩, hw⟩ | ⟨⟨r, x, rfl, hx⟩, hv⟩)
      · exact ⟨r, u ++ w, rfl, .inl ⟨u, w, a, rfl, hu, hw⟩⟩
      · exact ⟨r, x, rfl, .inr ⟨hx, hv⟩⟩

theorem runs_map {p : Program α} {f : α → β} {t : List Step} {v? : Option β} :
    (p.bind fun a => done (f a)).Runs t v? ↔ ∃ w?, p.Runs t w? ∧ v? = w?.map f := by
  rw [runs_bind]
  constructor
  · rintro (⟨u, w, a, rfl, hu, hw⟩ | ⟨h, rfl⟩)
    · obtain ⟨rfl, rfl⟩ := runs_done.mp hw
      exact ⟨some a, by simpa using hu, rfl⟩
    · exact ⟨none, h, rfl⟩
  · rintro ⟨_ | a, h, rfl⟩
    · exact .inr ⟨h, rfl⟩
    · exact .inl ⟨t, [], a, by simp, h, .done _⟩

def traceOn : Program α → Scripted → List Step
  | .done _, _ => []
  | .send c next, s => .asked c (s.answer c).1 :: (next (s.answer c).1).traceOn (s.answer c).2
  | .freshId next, s =>
      .drewId (s.ids s.drawn) :: (next (s.ids s.drawn)).traceOn { s with drawn := s.drawn + 1 }
  | .freshSalt next, s => .drewSalt s.salt :: (next s.salt).traceOn s
  | .clock next, s => .readClock s.now :: (next s.now).traceOn s
  | .crash, _ => []

theorem runs_traceOn (p : Program α) (s : Scripted) : p.Runs (p.traceOn s) (p.runOn s).value? := by
  induction p generalizing s with
  | done a => exact .done a
  | send c next ih => exact .send (ih _ _)
  | freshId next ih => exact .freshId (ih _ _)
  | freshSalt next ih => exact .freshSalt (ih _ _)
  | clock next ih => exact .clock (ih _ _)
  | crash => exact .crash

end Program

end CityGuide.Store
