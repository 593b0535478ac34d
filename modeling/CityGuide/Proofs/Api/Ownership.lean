import CityGuide.Api.Bookmarks
import CityGuide.Api.Businesses
import CityGuide.Api.Events
import CityGuide.Api.Notifications
import CityGuide.Api.Promotions
import CityGuide.Api.Reports
import CityGuide.Api.Reviews
import CityGuide.Proofs.Api.Guards
import CityGuide.Proofs.Store.Actions

namespace CityGuide.Api

open Store Store.Action Handling

structure Subject where
  table : String
  parties : Row → Option (List Uuid)

inductive Verdict where
  | owned
  | foreign
  | absent
  | unknown
  deriving DecidableEq, Repr

namespace Subject

def of {α : Type} (table : String) (read : Row → Option α) (parties : α → List Uuid) : Subject :=
  ⟨table, fun row => (read row).map parties⟩

def business : Subject := of Business.table Business.ofRow fun b => [b.ownerId]

def review : Subject := of Review.table Review.ofRow fun r => [r.userId]

def report : Subject := of Report.table Report.ofRow fun r => [r.userId]

def bookmark : Subject := of Bookmark.table Bookmark.ofRow fun b => [b.userId]

def promotion : Subject := of Promotion.table Promotion.ofRow fun p => [p.userId]

def notification : Subject :=
  of Notification.table Notification.ofRow fun n => n.userId :: n.senderId.toList

def verdict (s : Subject) (me : Uuid) (reply : Reply) : Verdict :=
  match reply.bind (firstRow s.parties) with
  | .ok (some parties) => if me ∈ parties then .owned else .foreign
  | .ok none => .absent
  | .error _ => .unknown

end Subject

/-- Whose something is: a row's, an event's by way of its business, or an account's own. -/
inductive Question where
  | row (subject : Subject) (id : Uuid)
  | event (id : Uuid)
  | account (id : Uuid)

/-- The looks that settle a question, and what they come to for an account. -/
inductive Judged (me : Uuid) : Question → List Step → Verdict → Prop
  | row (subject : Subject) (id : Uuid) (reply : Reply) :
      Judged me (.row subject id) [.asked (.run (.find subject.table id)) reply]
        (subject.verdict me reply)
  | event {id : Uuid} {reply : Reply} {event : Event} {looks : List Step} {verdict : Verdict}
      (he : reply.bind (firstRow Event.ofRow) = .ok (some event))
      (hb : Judged me (.row .business event.businessId) looks verdict) :
      Judged me (.event id) (.asked (.run (.find Event.table id)) reply :: looks) verdict
  | noEvent {id : Uuid} {reply : Reply} (he : reply.bind (firstRow Event.ofRow) = .ok none) :
      Judged me (.event id) [.asked (.run (.find Event.table id)) reply] .absent
  | unreadEvent {id : Uuid} {reply : Reply} {f : Failure}
      (he : reply.bind (firstRow Event.ofRow) = .error f) :
      Judged me (.event id) [.asked (.run (.find Event.table id)) reply] .unknown
  | self : Judged me (.account me) [] .owned
  | other {id : Uuid} (h : id ≠ me) : Judged me (.account id) [] .foreign

theorem Judged.unique {me : Uuid} {q : Question} {looks looks' rest rest' : List Step}
    {verdict verdict' : Verdict} (h : Judged me q looks verdict) (h' : Judged me q looks' verdict')
    (ht : looks ++ rest = looks' ++ rest') :
    looks = looks' ∧ rest = rest' ∧ verdict = verdict' := by
  -- Both look the same thing up first, and only the reply says how it goes on.
  induction h generalizing looks' verdict' with
  | row subject id reply =>
    cases h' with
    | row _ _ reply' =>
      simp only [List.cons_append, List.nil_append, List.cons.injEq, Step.asked.injEq] at ht
      obtain ⟨⟨-, rfl⟩, rfl⟩ := ht
      exact ⟨rfl, rfl, rfl⟩
  | event he hb ih =>
    cases h' with
    | event he' hb' =>
      simp only [List.cons_append, List.cons.injEq, Step.asked.injEq] at ht
      obtain ⟨⟨-, rfl⟩, ht⟩ := ht
      obtain rfl := Option.some.inj (Except.ok.inj (he.symm.trans he'))
      obtain ⟨rfl, hrest, rfl⟩ := ih hb' ht
      exact ⟨rfl, hrest, rfl⟩
    | noEvent he' | unreadEvent he' =>
      simp only [List.cons_append, List.cons.injEq, Step.asked.injEq] at ht
      obtain ⟨⟨-, rfl⟩, -⟩ := ht
      simp [he] at he'
  | noEvent he =>
    cases h' with
    | noEvent =>
      simp only [List.cons_append, List.nil_append, List.cons.injEq] at ht
      exact ⟨by rw [ht.1], ht.2, rfl⟩
    | event he' | unreadEvent he' =>
      simp only [List.cons_append, List.cons.injEq, Step.asked.injEq] at ht
      obtain ⟨⟨-, rfl⟩, -⟩ := ht
      simp [he] at he'
  | unreadEvent he =>
    cases h' with
    | unreadEvent =>
      simp only [List.cons_append, List.nil_append, List.cons.injEq] at ht
      exact ⟨by rw [ht.1], ht.2, rfl⟩
    | event he' | noEvent he' =>
      simp only [List.cons_append, List.cons.injEq, Step.asked.injEq] at ht
      obtain ⟨⟨-, rfl⟩, -⟩ := ht
      simp [he] at he'
  | self =>
    cases h' with
    | self => exact ⟨rfl, ht, rfl⟩
    | other hne => exact absurd rfl hne
  | other hne =>
    cases h' with
    | self => exact absurd rfl hne
    | other => exact ⟨rfl, ht, rfl⟩

theorem Judged.looks_only {me : Uuid} {q : Question} {looks : List Step} {verdict : Verdict}
    (h : Judged me q looks verdict) :
    ∀ x ∈ exchanges looks, ∃ table id, x.1 = .run (.find table id) := by
  induction h with
  | event _ _ ih => simpa using ih
  | row | noEvent | unreadEvent | self | other => simp

def Verdict.Ends {α : Type} : Verdict → Option (Except Stop α) → Prop
  | owned, o? => ∃ a, o? = some (.ok a)
  | foreign, o? => ∃ why, o? = some (.error (.error (.forbidden why)))
  | absent, o? => o? = some (.error (.error .notFound))
  | unknown, o? => ∃ stop, o? = some (.error stop)

def Asks {α : Type} (me : Uuid) (q : Question) (a : Handling α) : Prop :=
  ∀ t o?, a.Runs t o? → ∃ verdict, Judged me q t verdict ∧ verdict.Ends o?

inductive Course (me : Uuid) (asked : Incoming.Reading Question) :
    List Step → Option (Except Stop Http.Response) → Prop
  | unreadable {status : Nat} (hs : status ∈ unreadableStatuses) :
      Course me asked [] (some (.error (.unreadable status)))
  | stopped {e : Error} (hq : ∀ id, asked ≠ .ok (.account id)) :
      Course me asked [] (some (.error (.error e)))
  | refused {q : Question} {looks : List Step} {verdict : Verdict}
      {o? : Option (Except Stop Http.Response)} (hq : asked = .ok q)
      (hj : Judged me q looks verdict) (hv : verdict ≠ .owned) (ho : verdict.Ends o?) :
      Course me asked looks o?
  | granted {q : Question} {looks rest : List Step} {o? : Option (Except Stop Http.Response)}
      (hq : asked = .ok q) (hj : Judged me q looks .owned) : Course me asked (looks ++ rest) o?

def Follows (me : Uuid) (asked : Incoming.Reading Question) (a : Handling Http.Response) : Prop :=
  ∀ t o?, a.Runs t o? → Course me asked t o?

section Rules

variable {α β ε : Type} {me : Uuid} {q : Question} {asked : Incoming.Reading Question}

theorem Verdict.Ends.error {verdict : Verdict} {stop : Stop}
    (h : verdict.Ends (some (.error stop) : Option (Except Stop α))) :
    verdict ≠ .owned ∧ verdict.Ends (some (.error stop) : Option (Except Stop β)) := by
  cases verdict with
  | owned => simp [Ends] at h
  | foreign | absent => simpa [Ends] using h
  | unknown => simp [Ends]

theorem Verdict.Ends.map {verdict : Verdict} {o? : Option (Except Stop α)} (h : verdict.Ends o?)
    (f : α → β) : verdict.Ends (o?.map (·.bind fun a => .ok (f a))) := by
  cases verdict with
  | owned | foreign | unknown =>
    obtain ⟨x, rfl⟩ := h
    exact ⟨_, rfl⟩
  | absent =>
    obtain rfl : o? = _ := h
    rfl

theorem follows_reading {r : Incoming.Reading α} {k : α → Handling Http.Response}
    (hr : ∀ stop, r = .error stop → ∃ status ∈ unreadableStatuses, stop = .unreadable status)
    (h : ∀ a, r = .ok a → Follows me asked (k a)) : Follows me asked (read r >>= k) := by
  intro t o? ht
  cases r with
  | error stop =>
    obtain ⟨rfl, rfl⟩ := runs_ofExcept.mp ht
    obtain ⟨status, hs, rfl⟩ := hr stop rfl
    exact .unreadable hs
  | ok a => exact h a rfl t o? ht

theorem follows_check {r : Except ε α} {f : ε → Error} {k : α → Handling Http.Response}
    (hq : ∀ id, asked ≠ .ok (.account id)) (h : ∀ a, r = .ok a → Follows me asked (k a)) :
    Follows me asked (Action.ofExcept (r.mapError fun e => .error (f e)) >>= k) := by
  intro t o? ht
  cases r with
  | error e =>
    obtain ⟨rfl, rfl⟩ := runs_ofExcept.mp ht
    exact .stopped hq
  | ok a => exact h a rfl t o? ht

theorem follows_asking {a : Handling α} {k : α → Handling Http.Response} (hq : asked = .ok q)
    (ha : Asks me q a) : Follows me asked (a >>= k) := by
  intro t o? ht
  rcases runs_bind.mp ht with ⟨u, w, x, rfl, hu, -⟩ | ⟨stop, he, rfl⟩ | ⟨hn, -⟩
  · obtain ⟨verdict, hj, hends⟩ := ha u _ hu
    cases verdict with
    | owned => exact .granted hq hj
    | foreign | absent | unknown => simp [Verdict.Ends] at hends
  · obtain ⟨verdict, hj, hends⟩ := ha t _ he
    obtain ⟨hv, hends⟩ := hends.error
    exact .refused hq hj hv hends
  · obtain ⟨verdict, -, hends⟩ := ha t _ hn
    cases verdict <;> simp [Verdict.Ends] at hends

end Rules

section Looks

variable {α : Type} {me : Uuid} {t : List Step}

def existed (v : Except Failure (Option α)) : Except Stop α :=
  match v with
  | .ok (some a) => .ok a
  | .ok none => .error (.error .notFound)
  | .error f => .error (.error (.ofFailure f))

theorem existed_eq_ok {v : Except Failure (Option α)} {a : α} :
    existed v = .ok a ↔ v = .ok (some a) := by
  rcases v with _ | _ | _ <;> simp [existed]

theorem runs_existing {a : Action Failure (Option α)} {o? : Option (Except Stop α)} :
    (existing a).Runs t o? ↔ ∃ v?, a.Runs t v? ∧ o? = v?.map existed := by
  change (ofStore a >>= fun o => Action.ofExcept ((found o).mapError .error)).Runs t o? ↔ _
  rw [runs_bind_ofExcept]
  simp only [ofStore, runs_mapError]
  constructor
  · rintro ⟨_, ⟨v?, hv, rfl⟩, rfl⟩
    refine ⟨v?, hv, ?_⟩
    rcases v? with _ | _ | _ | _ <;> rfl
  · rintro ⟨v?, hv, rfl⟩
    refine ⟨_, ⟨v?, hv, rfl⟩, ?_⟩
    rcases v? with _ | _ | _ | _ <;> rfl

theorem runs_look {table : String} {id : Uuid} {read : Row → Option α}
    {o? : Option (Except Stop α)} :
    (existing (Action.optional (.find table id) read)).Runs t o? ↔
      ∃ reply, t = [.asked (.run (.find table id)) reply] ∧
        o? = some (existed (reply.bind (firstRow read))) := by
  rw [runs_existing, optional_eq_ask]
  simp only [runs_ask]
  constructor
  · rintro ⟨_, ⟨reply, rfl, rfl⟩, rfl⟩
    exact ⟨reply, rfl, rfl⟩
  · rintro ⟨reply, rfl, rfl⟩
    exact ⟨_, ⟨reply, rfl, rfl⟩, rfl⟩

theorem Subject.verdict_of {table : String} {read : Row → Option α} {parties : α → List Uuid}
    (reply : Reply) :
    (of table read parties).verdict me reply =
      match reply.bind (firstRow read) with
      | .ok (some a) => if me ∈ parties a then .owned else .foreign
      | .ok none => .absent
      | .error _ => .unknown := by
  rcases reply with f | ⟨_ | ⟨row, rows⟩, n⟩
  · rfl
  · rfl
  · cases hr : read row <;> simp [verdict, of, Except.bind, firstRow, hr, decode, Except.map]

theorem asks_row {β : Type} {table : String} {id : Uuid} {read : Row → Option α}
    {parties : α → List Uuid} {g : α → Except Stop β}
    (hown : ∀ a, me ∈ parties a → ∃ b, g a = .ok b)
    (hother : ∀ a, me ∉ parties a → ∃ why, g a = .error (.error (.forbidden why))) :
    Asks me (.row (.of table read parties) id)
      (existing (Action.optional (.find table id) read) >>= fun a => Action.ofExcept (g a)) := by
  intro t o? ht
  obtain ⟨_, hv, rfl⟩ := runs_bind_ofExcept.mp ht
  obtain ⟨reply, rfl, rfl⟩ := runs_look.mp hv
  refine ⟨_, .row _ id reply, ?_⟩
  rw [Subject.verdict_of]
  rcases reply.bind (firstRow read) with f | _ | a
  · exact ⟨_, rfl⟩
  · rfl
  · by_cases hme : me ∈ parties a
    · obtain ⟨b, hb⟩ := hown a hme
      simp [if_pos hme, Verdict.Ends, existed, Except.bind, hb]
    · obtain ⟨why, hwhy⟩ := hother a hme
      simp [if_neg hme, Verdict.Ends, existed, Except.bind, hwhy]

def Decides (me : Uuid) (parties : α → List Uuid) (check : α → Result Unit) : Prop :=
  ∀ a, if me ∈ parties a then check a = .ok () else ∃ why, check a = .error (.forbidden why)

variable {table : String} {id : Uuid} {read : Row → Option α} {parties : α → List Uuid}
  {check : α → Result Unit}

theorem asks_checked (h : Decides me parties check) :
    Asks me (.row (.of table read parties) id) (do
      let a ← existing (Action.optional (.find table id) read)
      ofResult (check a)) := by
  refine asks_row (fun a hme => ⟨(), ?_⟩) fun a hme => ?_
  · have hcheck := h a
    rw [if_pos hme] at hcheck
    rw [hcheck]
    rfl
  · have hcheck := h a
    rw [if_neg hme] at hcheck
    obtain ⟨why, hwhy⟩ := hcheck
    exact ⟨why, by rw [hwhy]; rfl⟩

theorem kept_eq (a : α) : (ofResult (check a) >>= fun _ => pure a) =
    Action.ofExcept (((check a).mapError Stop.error).map fun _ => a) := by
  cases check a <;> rfl

theorem asks_kept (h : Decides me parties check) :
    Asks me (.row (.of table read parties) id) (do
      let a ← existing (Action.optional (.find table id) read)
      ofResult (check a)
      pure a) := by
  simp only [kept_eq]
  refine asks_row (fun a hme => ⟨a, ?_⟩) fun a hme => ?_
  · have hcheck := h a
    rw [if_pos hme] at hcheck
    rw [hcheck]
    rfl
  · have hcheck := h a
    rw [if_neg hme] at hcheck
    obtain ⟨why, hwhy⟩ := hcheck
    exact ⟨why, by rw [hwhy]; rfl⟩

theorem kept_found {a : α} (h : Runs (do
      let a ← existing (Action.optional (.find table id) read)
      ofResult (check a)
      pure a) t (some (.ok a))) :
    ∃ reply, t = [.asked (.run (.find table id)) reply] ∧
      reply.bind (firstRow read) = .ok (some a) := by
  simp only [kept_eq] at h
  obtain ⟨_, hv, hok⟩ := runs_bind_ofExcept.mp h
  obtain ⟨reply, rfl, rfl⟩ := runs_look.mp hv
  refine ⟨reply, rfl, ?_⟩
  generalize reply.bind (firstRow read) = found at hok
  rcases found with f | _ | b
  · simp [existed, Except.bind] at hok
  · simp [existed, Except.bind] at hok
  · simp only [existed, Except.bind, Option.map_some] at hok
    cases hb : check b with
    | error e =>
      rw [hb] at hok
      cases hok
    | ok _ =>
      rw [hb] at hok
      cases hok
      rfl

theorem follows_kept {asked : Incoming.Reading Question} {k : α → Handling Http.Response}
    (hq : asked = .ok (.row (.of table read parties) id)) (h : Decides me parties check) :
    Follows me asked (do
      let a ← existing (Action.optional (.find table id) read)
      ofResult (check a)
      k a) := by
  have hkept := follows_asking (k := k) hq (asks_kept h)
  simpa only [bind_assoc, pure_bind] using hkept

end Looks

section Guards

variable {c : Caller} {id : Uuid}

theorem requireOwner_decides {α : Type} (hn : c.userType ≠ .admin) (owner : α → Uuid) :
    Decides c.userId (fun a => [owner a]) fun a => c.requireOwner (owner a) := by
  intro a
  by_cases h : c.userId = owner a
  · simp only [← h, List.mem_singleton, if_true, Caller.requireOwner_self]
  · simp only [List.mem_singleton, h, if_false]
    exact ⟨_, Caller.requireOwner_other hn h⟩

theorem requireParty_decides (hn : c.userType ≠ .admin) :
    Decides c.userId (fun n : Notification => n.userId :: n.senderId.toList)
      (Notifications.requireParty c) := by
  intro n
  by_cases hu : n.userId = c.userId
  · simp [Notifications.requireParty, hu]
  · by_cases hs : n.senderId = some c.userId
    · simp [Notifications.requireParty, Notifications.isSender, hs]
    · have hmem : c.userId ∉ n.userId :: n.senderId.toList := by
        simp [Ne.symm hu, hs]
      simp [Notifications.requireParty, Notifications.isSender, Caller.isAdmin, UserType.isAdmin,
        hn, hu, hs, hmem]

theorem Businesses.owned_asks (hn : c.userType ≠ .admin) :
    Asks c.userId (.row .business id) (owned c id) := asks_checked (requireOwner_decides hn _)

theorem Reviews.owned_asks (hn : c.userType ≠ .admin) :
    Asks c.userId (.row .review id) (owned c id) := asks_checked (requireOwner_decides hn _)

theorem Reports.owned_asks (hn : c.userType ≠ .admin) :
    Asks c.userId (.row .report id) (owned c id) := asks_kept (requireOwner_decides hn _)

theorem Bookmarks.owned_asks (hn : c.userType ≠ .admin) :
    Asks c.userId (.row .bookmark id) (owned c id) := asks_kept (requireOwner_decides hn _)

theorem Notifications.ofParty_asks (hn : c.userType ≠ .admin) :
    Asks c.userId (.row .notification id) (ofParty c id) := asks_kept (requireParty_decides hn)

theorem Events.requireOwner_asks (hn : c.userType ≠ .admin) :
    Asks c.userId (.row .business id) (requireOwner c id) :=
  asks_checked (requireOwner_decides hn _)

theorem Events.owned_asks (hn : c.userType ≠ .admin) : Asks c.userId (.event id) (owned c id) := by
  intro t o? ht
  rcases runs_bind.mp ht with ⟨u, w, event, rfl, hu, hw⟩ | ⟨stop, he, rfl⟩ | ⟨hnone, -⟩
  · obtain ⟨reply, rfl, hreply⟩ := runs_look.mp hu
    have hevent := existed_eq_ok.mp (Option.some.inj hreply).symm
    obtain ⟨v?, hv, rfl⟩ := runs_bind_ofExcept.mp hw
    obtain ⟨verdict, hj, hends⟩ := requireOwner_asks hn _ _ hv
    exact ⟨verdict, .event hevent hj, hends.map fun _ => event⟩
  · obtain ⟨reply, rfl, hreply⟩ := runs_look.mp he
    rcases hlook : reply.bind (firstRow Event.ofRow) with f | _ | event
    · exact ⟨_, .unreadEvent hlook, stop, rfl⟩
    · rw [hlook] at hreply
      exact ⟨_, .noEvent hlook, hreply⟩
    · simp [hlook, existed] at hreply
  · obtain ⟨reply, -, hreply⟩ := runs_look.mp hnone
    simp at hreply

theorem requireOwner_asks (hn : c.userType ≠ .admin) :
    Asks c.userId (.account id) (ofResult (c.requireOwner id)) := by
  intro t o? ht
  obtain ⟨rfl, rfl⟩ := runs_ofExcept.mp ht
  by_cases h : c.userId = id
  · subst h
    rw [Caller.requireOwner_self]
    exact ⟨_, .self, (), rfl⟩
  · rw [Caller.requireOwner_other hn h]
    exact ⟨_, .other (Ne.symm h), _, rfl⟩

end Guards

end CityGuide.Api
