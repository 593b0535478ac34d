import CityGuide.Proofs.Api.PromotionTerms
import CityGuide.Proofs.Api.Races

namespace CityGuide

open Store Store.Action

def Store.Row.KeepsMicros (row : Row) : Prop :=
  ∀ column i, row.cell? column = some (.timestamp i) → i.stored = i

theorem Store.Row.keepsMicros_of_mem {row : Row}
    (h : ∀ x ∈ row, ∀ i, x.2 = .timestamp i → i.stored = i) : row.KeepsMicros := by
  intro column i hcell
  obtain ⟨x, hfind, hx⟩ := Option.map_eq_some_iff.mp hcell
  exact h x (List.mem_of_find?_eq_some hfind) i hx

namespace Event

variable {row old new : Row} {start : Time.Instant} {end? : Option Time.Instant} {e : Event}

theorem validateWindow_eq_ok :
    validateWindow start end? = .ok () ↔ ∀ last, end? = some last → ¬last < start := by
  simp only [validateWindow, given_eq_ok, requireThat_eq_ok, Bool.not_eq_true',
    decide_eq_false_iff_not]

def Overruns (start : Time.Instant) (end? : Option Time.Instant) : Prop :=
  start.IsLeap ∧ ∃ last, end? = some last ∧ last.TicksBefore start

def endCell (end? : Option Time.Instant) : Cell :=
  (end?.map fun last => .timestamp last.stored).getD .null

theorem window_admitted_iff (hv : validateWindow start end? = .ok ())
    (hstart : row.cell? "starts_at" = some (.timestamp start.stored))
    (hend : row.cell? "ends_at" = some (endCell end?)) :
    Schema.events.Admits row ↔ ¬Overruns start end? := by
  rw [TablePlan.Admits, Schema.events_checks, List.forall_mem_singleton]
  cases end? with
  | none => simp [Overruns, Check.admits_openOrNotBefore_null hend]
  | some last =>
    rw [Check.admits_openOrNotBefore hend hstart, Time.Instant.stored_lt_stored_iff]
    have horder : ¬last < start := validateWindow_eq_ok.mp hv last rfl
    constructor
    · rintro hkept ⟨-, _, hlast, hticks⟩
      exact hkept (Option.some.inj hlast ▸ hticks)
    · intro hover hticks
      -- the order of a window that passed is lost in the store only from a leap second on
      have hleap : start.IsLeap := by
        by_contra hplain
        exact Time.Instant.not_ticksBefore horder hplain hticks
      exact hover ⟨hleap, last, rfl, hticks⟩

theorem times_cells (h : ofRow row = some e) :
    row.cell? "starts_at" = some (.timestamp e.startsAt) ∧
      row.get "ends_at" (Row.nullable Row.timestamp) = some e.endsAt := by
  simp only [ofRow, Option.bind_eq_bind, Option.bind_eq_some_iff, Option.some.injEq] at h
  obtain ⟨_, -, _, -, _, -, _, -, _, -, _, hstart, _, hend, _, -, _, -, rfl⟩ := h
  exact ⟨Row.get_timestamp.mp hstart, hend⟩

theorem kept_cells (hk : row.KeepsMicros) (h : ofRow row = some e) :
    row.cell? "starts_at" = some (.timestamp e.startsAt.stored) ∧
      row.cell? "ends_at" = some (endCell e.endsAt) := by
  obtain ⟨hstart, hend⟩ := times_cells h
  refine ⟨(hk _ _ hstart).symm ▸ hstart, ?_⟩
  rw [Row.get_eq_bind] at hend
  obtain ⟨c, hc, hread⟩ := Option.bind_eq_some_iff.mp hend
  rw [hc]
  cases c with
  | null =>
    rw [← Option.some.inj hread]
    rfl
  | timestamp i =>
    rw [← Option.some.inj hread, endCell, Option.map_some, hk _ _ hc]
    rfl
  | _ => simp [Row.nullable, Row.timestamp] at hread

namespace Draft

variable {d : Draft} {id : Uuid}

theorem validate_eq_ok : d.validate = .ok () ↔
    requireText "title" d.title = .ok () ∧ validateWindow d.startsAt d.endsAt = .ok () := by
  simp only [validate, bind_valid]

theorem admitted_iff (hv : d.validate = .ok ()) (h : row.Holds (d.row id)) :
    Schema.events.Admits row ↔ ¬Overruns d.startsAt d.endsAt := by
  have hstart := h ("starts_at", .timestamp d.startsAt) (by simp [Draft.row])
  have hend := h ("ends_at", .opt .timestamp .timestamp d.endsAt) (by simp [Draft.row])
  refine window_admitted_iff (validate_eq_ok.mp hv).2 hstart (hend.trans ?_)
  cases d.endsAt <;> rfl

end Draft

namespace Change

variable {c : Change}

theorem validate_eq_ok : c.validate e = .ok () ↔ given c.title (requireText "title") = .ok () ∧
    validateWindow (c.startsAt.getD e.startsAt) (c.endsAt <|> e.endsAt) = .ok () := by
  simp only [validate, bind_valid]

theorem admitted_iff (hv : c.validate e = .ok ()) (hold : ofRow old = some e)
    (hk : old.KeepsMicros) (h : old.Revises c.assignments new) : Schema.events.Admits new ↔
      ¬Overruns (c.startsAt.getD e.startsAt) (c.endsAt <|> e.endsAt) := by
  obtain ⟨hstart, hend⟩ := kept_cells hk hold
  have hnodup :
      (["title", "description", "location", "starts_at", "ends_at"] : List String).Nodup := by
    decide
  refine window_admitted_iff (validate_eq_ok.mp hv).2 ?_ ?_
  · have hcell := h.cell?_eq hnodup (by decide) (.tail _ (.tail _ (.tail _ (.head _))))
    rw [hcell, hstart]
    cases c.startsAt <;> rfl
  · have hcell := h.cell?_eq hnodup (by decide) (.tail _ (.tail _ (.tail _ (.tail _ (.head _)))))
    rw [hcell, hend]
    cases c.endsAt <;> rfl

end Change

end Event

namespace Api

open Handling

theorem Footprint.inserts_event {i : Incoming} {e : Endpoint} {st : Sql.Statement}
    {assigned : List Sql.Assignment} {ending : Sql.Ending} (hf : Footprint i e st)
    (hst : st = .insert Event.table assigned ending) :
    ∃ d id, i.body Event.Draft.decode = .ok d ∧ d.validate = .ok () ∧ assigned = d.row id := by
  cases hf with
  | look hk => simpa [hst, Sql.Statement.isWrite] using hk.isWrite_eq_false
  | @createEvent _ d id _ hb _ hv => exact ⟨d, id, hb, hv, (Sql.Statement.insert.inj hst).2.1.symm⟩
  | register | login | createUser | createCategory | createBusiness | createReview | createReport
  | createNotification | createPromotion | join | createBookmark | follow =>
    exact absurd (Sql.Statement.insert.inj hst).1 (by decide)
  | attachToNewBusiness _ _ _ hr | attachToBusiness _ _ _ _ _ hr | attachToNewReview _ _ _ hr
  | attachToReview _ _ _ _ _ hr =>
    subst hst
    cases hr
  | _ => simp at hst

theorem Footprint.updates_event {i : Incoming} {e : Endpoint} {st : Sql.Statement}
    {changes : List Sql.Assignment} {id : Uuid} (hf : Footprint i e st)
    (hst : st = .update Event.table changes id) : e = .named .put ["v1", "event"] := by
  have hone : ∀ a ∈ amendments, a.table = Event.table → a.endpoint = .named .put ["v1", "event"] :=
    by decide
  obtain ⟨a, ha, rfl, htable, -⟩ := hf.amends hst
  exact hone a ha htable

namespace Events

variable {c : Caller} {id : Uuid} {event : Event} {t : List Step}

theorem owned_looks : Sends (fun command => ∃ table id, command = .run (.find table id))
    (owned c id) := by
  refine .bind (existing_sends (.optional ⟨_, _, rfl⟩)) fun event => .bind ?_ fun _ => .pure event
  exact .bind (existing_sends (.optional ⟨_, _, rfl⟩)) fun business => .ofExcept _

theorem runs_owned (h : (owned c id).Runs t (some (.ok event))) : ∃ look shop,
    t = [.asked (.run (.find Event.table id)) look,
      .asked (.run (.find Business.table event.businessId)) shop] ∧
    look.bind (firstRow Event.ofRow) = .ok (some event) := by
  rcases runs_bind.mp h with ⟨u, w, found, rfl, hu, hw⟩ | ⟨_, -, he⟩ | ⟨-, hn⟩
  · obtain ⟨look, rfl, hlook⟩ := runs_look.mp hu
    rcases runs_bind.mp hw with ⟨v, x, _, rfl, hv, hx⟩ | ⟨_, -, he⟩ | ⟨-, hn⟩
    · obtain ⟨rfl, heq⟩ := runs_pure.mp hx
      obtain rfl := Except.ok.inj (Option.some.inj heq)
      obtain ⟨_, hshop, -⟩ := runs_bind_ofExcept.mp hv
      obtain ⟨shop, rfl, -⟩ := runs_look.mp hshop
      exact ⟨look, shop, rfl, existed_eq_ok.mp (Option.some.inj hlook).symm⟩
    · simp at he
    · simp at hn
  · simp at he
  · simp at hn

theorem update_runs {i : Incoming} {o? : Option (Except Stop Http.Response)}
    {changes : List Sql.Assignment} {reply : Reply} (ht : (update i).Runs t o?)
    (hx : (.run (.update Event.table changes id), reply) ∈ exchanges t) :
    ∃ (change : Event.Change) (event : Event) (look shop : Reply),
      i.body Event.Change.decode = .ok change ∧ changes = change.assignments ∧
      change.validate event = .ok () ∧ look.bind (firstRow Event.ofRow) = .ok (some event) ∧
      t = [.asked (.run (.find Event.table id)) look,
        .asked (.run (.find Business.table event.businessId)) shop,
        .asked (.run (.update Event.table changes id)) reply] := by
  obtain rfl | ⟨c, -, ht⟩ := runs_gate ht
  · simp at hx
  obtain rfl | ⟨path, -, ht⟩ := runs_gate ht
  · simp at hx
  obtain rfl | ⟨change, hb, ht⟩ := runs_gate ht
  · simp at hx
  -- nothing is written before the owner is known, so the update comes after both looks
  have hlooks : ∀ u o?, (owned c path).Runs u o? →
      (.run (.update Event.table changes id), reply) ∉ exchanges u := by
    intro u o? hu hmem
    obtain ⟨_, _, hfind⟩ := owned_looks u o? hu _ hmem
    simp at hfind
  rcases runs_bind.mp ht with ⟨u, w, event, rfl, hu, hw⟩ | ⟨_, he, -⟩ | ⟨hn, -⟩
  · have hmem := (List.mem_append.mp (exchanges_append u w ▸ hx)).resolve_left (hlooks u _ hu)
    obtain ⟨look, shop, rfl, hlook⟩ := runs_owned hu
    obtain rfl | ⟨_, hv, hw⟩ := runs_gate hw
    · simp at hmem
    obtain ⟨_, hupdated, -⟩ := runs_bind_ofExcept.mp hw
    obtain ⟨_, hsent, -⟩ := runs_existing.mp hupdated
    rw [Event.update, optional_eq_ask] at hsent
    obtain ⟨answer, rfl, -⟩ := runs_ask.mp hsent
    obtain ⟨⟨rfl, rfl⟩, rfl⟩ : (change.assignments = changes ∧ path = id) ∧ answer = reply := by
      simpa [eq_comm] using hmem
    refine ⟨change, event, look, shop, hb, rfl, ?_, hlook, rfl⟩
    cases hvalid : change.validate event with
    | error why => simp [hvalid, Except.mapError] at hv
    | ok _ => rfl
  · exact absurd hx (hlooks _ _ he)
  · exact absurd hx (hlooks _ _ hn)

theorem change_runs {i : Incoming} {change : Event.Change} {old shop : Row} {business : Business}
    (reply : Reply) (hc : i.caller = .ok c) (hi : i.id = .ok id)
    (hb : i.body Event.Change.decode = .ok change) (hold : Event.ofRow old = some event)
    (hshop : Business.ofRow shop = some business)
    (ho : c.requireOwner business.ownerId = .ok ()) (hv : change.validate event = .ok ()) :
    (update i).Runs
      [.asked (.run (.find Event.table id)) (single old),
        .asked (.run (.find Business.table event.businessId)) (single shop),
        .asked (.run (.update Event.table change.assignments id)) reply]
      (some ((existed (reply.bind (firstRow Event.ofRow))).map fun e => .json 200 e.toJson)) := by
  have hevent : (existing (Event.find id)).Runs [.asked (.run (.find Event.table id)) (single old)]
      (some (.ok event)) := runs_existing.mpr ⟨_, runs_single old hold, rfl⟩
  have hbusiness : (existing (Business.find event.businessId)).Runs
      [.asked (.run (.find Business.table event.businessId)) (single shop)]
      (some (.ok business)) := runs_existing.mpr ⟨_, runs_single shop hshop, rfl⟩
  have hupdate : (existing (Event.update id change)).Runs
      [.asked (.run (.update Event.table change.assignments id)) reply]
      (some (existed (reply.bind (firstRow Event.ofRow)))) := by
    rw [Event.update, optional_eq_ask]
    exact runs_existing.mpr ⟨_, runs_ask.mpr ⟨reply, rfl, rfl⟩, rfl⟩
  have howner : (requireOwner c event.businessId).Runs
      [.asked (.run (.find Business.table event.businessId)) (single shop)] (some (.ok ())) :=
    runs_bind_ofExcept.mpr ⟨_, hbusiness, by simp [ho, Except.bind, Except.mapError]⟩
  have howned : (owned c id).Runs
      [.asked (.run (.find Event.table id)) (single old),
        .asked (.run (.find Business.table event.businessId)) (single shop)] (some (.ok event)) :=
    runs_bind.mpr (.inl ⟨_, _, event, rfl, hevent,
      runs_bind.mpr (.inl ⟨_, [], (), rfl, howner, .done _⟩)⟩)
  simp only [update, read, hc, hi, hb, ofExcept_ok_bind]
  refine runs_bind.mpr (.inl ⟨_, _, event, rfl, howned, ?_⟩)
  simp only [ofValid, hv, Except.mapError, ofExcept_ok_bind]
  exact runs_bind_ofExcept.mpr ⟨_, hupdate, rfl⟩

end Events

namespace Server

variable {s : Server} {r : Http.Request} {t : List Step} {v? : Option Http.Response}

theorem windows_admitted (ht : (s.handle r).Runs t v?) :
    (∀ assigned ending reply,
      (.run (.insert Event.table assigned ending), reply) ∈ exchanges t →
      ∃ d : Event.Draft, (⟨r, none, none⟩ : Incoming).body Event.Draft.decode = .ok d ∧
        d.validate = .ok () ∧ ∀ row : Row, row.Holds assigned →
          (Schema.events.Admits row ↔ ¬Event.Overruns d.startsAt d.endsAt)) ∧
    ∀ changes id reply, (.run (.update Event.table changes id), reply) ∈ exchanges t →
      ∃ (change : Event.Change) (event : Event) (lead : List Step) (old : Row) (rows : List Row)
        (n : Nat) (shop : Reply),
        t = lead ++ [.asked (.run (.find Event.table id)) (.ok ⟨old :: rows, n⟩),
          .asked (.run (.find Business.table event.businessId)) shop,
          .asked (.run (.update Event.table changes id)) reply] ∧
        (⟨r, none, none⟩ : Incoming).body Event.Change.decode = .ok change ∧
        Event.ofRow old = some event ∧ change.validate event = .ok () ∧
        ∀ new : Row, old.KeepsMicros → old.Revises changes new →
          (Schema.events.Admits new ↔ ¬Event.Overruns
            (change.startsAt.getD event.startsAt) (change.endsAt <|> event.endsAt)) := by
  constructor
  · intro assigned ending reply hx
    rcases sent_cases ht hx with ⟨_, _, hl⟩ | ⟨e, name?, c?, -, hsent, -⟩
    · simp at hl
    · obtain ⟨d, id, hb, hv, rfl⟩ := Footprint.inserts_event hsent rfl
      exact ⟨d, hb, hv, fun row hrow => d.admitted_iff hv hrow⟩
  · intro changes id reply hx
    rcases sent_cases ht hx with ⟨_, _, hl⟩ | ⟨e, name?, c?, hr, hsent, -⟩
    · simp at hl
    obtain rfl := Footprint.updates_event hsent rfl
    have hmem : (Endpoint.named .put ["v1", "event"], Events.update) ∈ endpoints s.policy :=
      Amendment.handler_mem (a := .ofEvent) (by simp [amendments]) _
    obtain ⟨lead, rest, c?, o?, rfl, -, ho, hx⟩ := hr.sent_by_handler hmem ht (by simp) hx
    obtain ⟨change, event, look, shop, hb, rfl, hv, hlook, rfl⟩ := Events.update_runs ho hx
    obtain ⟨old, rows, n, rfl, hold⟩ := firstRow_eq_head hlook
    exact ⟨change, event, lead, old, rows, n, shop, rfl, hb, hold, hv,
      fun new hk hrevises => Event.Change.admitted_iff hv hold hk hrevises⟩

def newYear : Time.Instant := ⟨1483228800, 0⟩

def partyRow : Row :=
  [("id", .uuid removedId), ("business_id", .uuid .nil), ("title", .text "Party"),
    ("description", .text ""), ("location", .text ""), ("starts_at", .timestamp ⟨1483228000, 0⟩),
    ("ends_at", .timestamp newYear)] ++ Wording.stamps

def party : Event :=
  ⟨removedId, .nil, "Party", "", "", ⟨1483228000, 0⟩, some newYear, ⟨0, 0⟩, ⟨0, 0⟩⟩

def moved (startsAt : Time.Instant) : Event.Change := ⟨none, none, none, some startsAt, none⟩

def movedJson (startsAt : Time.Instant) : Json := .record [("starts_at", .time startsAt)]

def moving (startsAt : Time.Instant) : Http.Request :=
  carrying [] visitorClaims ⟨.put, Wording.target .event .change,
    [("content-type", "application/json")], (movedJson startsAt).write⟩

def movingRun (startsAt : Time.Instant) (reply : Reply) : List Step :=
  visitorLead .business ++
    [.asked (.run (.find Event.table removedId)) (single partyRow),
      .asked (.run (.find Business.table .nil)) (single (Wording.row "" .business)),
      .asked (.run (.update Event.table (moved startsAt).assignments removedId)) reply]

theorem partyRow_keepsMicros : partyRow.KeepsMicros := by
  refine Row.keepsMicros_of_mem fun x hx i hi => ?_
  simp only [partyRow, Wording.stamps, List.cons_append, List.nil_append, List.mem_cons,
    List.not_mem_nil, or_false] at hx
  rcases hx with rfl | rfl | rfl | rfl | rfl | rfl | rfl | rfl | rfl <;> cases hi <;>
    decide +kernel

variable {startsAt : Time.Instant}

theorem moving_body {c? : Option Caller} {name? : Option (List Char)}
    (h : Event.Change.decode (.ofValue (movedJson startsAt)) = .ok (moved startsAt)) :
    (⟨moving startsAt, c?, name?⟩ : Incoming).body Event.Change.decode = .ok (moved startsAt) := by
  refine body_of_written rfl rfl ?_ h
  simp [movedJson, Json.Exact, Json.ExactMembers, Json.time]

theorem moving_reaches (s : Server) (startsAt : Time.Instant) :
    s.Reaches (moving startsAt) (.named .put ["v1", "event"]) (some removedName) := by
  have hs : (Http.Target.ofString (Wording.target .event .change)).segments? =
      some (Wording.segments .event .change) := by decide +kernel
  obtain ⟨route, hfind, hhandler, he⟩ := Wording.exists_route .event .change s.policy
  change s.Reaches _ (Wording.endpoint .event .change) _
  rw [he]
  exact reaches_of_segments hs hfind hhandler

theorem moving_runs (reply : Reply)
    (h : Event.Change.decode (.ofValue (movedJson startsAt)) = .ok (moved startsAt))
    (hv : (moved startsAt).validate party = .ok ()) :
    (cityServer.handle (moving startsAt)).Runs (movingRun startsAt reply)
      (some (cityServer.outer (moving startsAt) (settle Stop.response
        ((existed (reply.bind (firstRow Event.ofRow))).map fun e => .json 200 e.toJson)))) := by
  have hmem : (Endpoint.named .put ["v1", "event"], Events.update) ∈
      endpoints cityServer.policy := Wording.handler_mem .event .change _
  have hparty : Event.ofRow partyRow = some party := rfl
  have hshop : Business.ofRow (Wording.row "" .business) = some (Wording.shop "") := rfl
  have hruns := Events.change_runs
    (i := ⟨moving startsAt, some (visitor .business), some removedName⟩) reply rfl removing_id
    (moving_body h) hparty hshop rfl hv
  exact (moving_reaches _ _).runs_of_caller hmem (introduces_visitor cityServer _ .business) hruns

theorem party_moved : ∃ v?,
    (cityServer.handle (moving ⟨1483228200, 0⟩)).Runs (movingRun ⟨1483228200, 0⟩ made) v? ∧
    Schema.events.Admits (partyRow.put "starts_at" (.timestamp ⟨1483228200, 0⟩)) := by
  have hdecode : Event.Change.decode (.ofValue (movedJson ⟨1483228200, 0⟩)) =
      .ok (moved ⟨1483228200, 0⟩) := Token.eq_ok_of_toOption (by decide +kernel)
  have hruns := moving_runs made hdecode (Token.eq_ok_of_toOption (by decide +kernel))
  refine ⟨_, hruns, ?_⟩
  obtain ⟨change, event, lead, old, rows, n, shop, htrace, hb, hold, -, hadmits⟩ :=
    (windows_admitted hruns).2 _ _ _ (.tail _ (.tail _ (.tail _ (.head _))))
  obtain ⟨-, htail⟩ := List.append_inj' htrace rfl
  obtain ⟨hlook, -⟩ := List.cons.inj htail
  obtain ⟨hrows, -⟩ := Answer.mk.inj (Except.ok.inj (Step.asked.inj hlook).2)
  obtain ⟨rfl, -⟩ := List.cons.inj hrows
  obtain rfl := Option.some.inj (hold : some party = some event)
  obtain rfl := Except.ok.inj ((moving_body hdecode).symm.trans hb)
  refine (hadmits _ partyRow_keepsMicros (Row.revises_put rfl)).mpr fun hover => ?_
  exact absurd hover.1 (by decide)

theorem leap_second_refused : ∃ response,
    (cityServer.handle (moving ⟨1483228799, 1500000000⟩)).Runs
      (movingRun ⟨1483228799, 1500000000⟩ (.error (.refused "23514"))) (some response) ∧
    response.status = 400 ∧ Schema.events.Admits partyRow ∧
    (moved ⟨1483228799, 1500000000⟩).validate party = .ok () ∧
    (∃ new : Row, partyRow.Revises (moved ⟨1483228799, 1500000000⟩).assignments new) ∧
    ∀ new : Row, partyRow.Revises (moved ⟨1483228799, 1500000000⟩).assignments new →
      ¬Schema.events.Admits new := by
  have hdecode : Event.Change.decode (.ofValue (movedJson ⟨1483228799, 1500000000⟩)) =
      .ok (moved ⟨1483228799, 1500000000⟩) := Token.eq_ok_of_toOption (by decide +kernel)
  have hv : (moved ⟨1483228799, 1500000000⟩).validate party = .ok () :=
    Token.eq_ok_of_toOption (by decide +kernel)
  refine ⟨_, moving_runs _ hdecode hv, outer_status _, by decide +kernel, hv,
    ⟨_, Row.revises_put rfl⟩, fun new hrevises => ?_⟩
  rw [Event.Change.admitted_iff hv rfl partyRow_keepsMicros hrevises, not_not]
  refine ⟨by decide, newYear, rfl, Time.Instant.stored_lt_stored_iff.mp ?_⟩
  decide +kernel

end Server

end Api

end CityGuide
