import CityGuide.Proofs.Api.Acceptance
import CityGuide.Proofs.Api.Emails
import CityGuide.Proofs.Api.IssuedTokens
import CityGuide.Proofs.Sql.Bound
import CityGuide.Proofs.Store.Changes

namespace CityGuide

open Store Store.Action

def Store.Exchange.Updates (table : String) (x : Exchange) : Prop :=
  ∃ changes id, x.1 = .run (.update table changes id)

open Store.Action

theorem Store.Action.optional_updates {α : Type} {table : String} {changes : List Sql.Assignment}
    {id : Uuid} {read : Row → Option α} :
    Ensures (Exchange.Updates table) (Action.optional (.update table changes id) read) := by
  apply Ensures.optional
  intro reply
  exact ⟨changes, id, rfl⟩

theorem Business.update_ensures {id : Uuid} {c : Change} :
    Ensures (Exchange.Updates table) (update id c) := by
  apply Ensures.bind_left
  apply Ensures.transaction
  apply Ensures.bind_left
  exact optional_updates

theorem Review.update_ensures {id : Uuid} {c : Change} :
    Ensures (Exchange.Updates table) (update id c) := by
  apply Ensures.bind_left
  apply Ensures.transaction
  apply Ensures.bind_left
  exact optional_updates

theorem User.update_ensures {id : Uuid} {c : Change} :
    Ensures (Exchange.Updates table) (update id c) := by
  apply Ensures.bind_right
  intro passwordHash
  exact optional_updates

namespace Api

open Handling

def Bears (r : Http.Request) (doc : Json.Document) : Prop :=
  ∃ text, r.body = .whole text ∧ Json.Document.ofChars text.toList = (doc, true)

theorem Bears.unique {r : Http.Request} {doc doc' : Json.Document} (h : Bears r doc)
    (h' : Bears r doc') : doc = doc' := by
  obtain ⟨text, htext, hdoc⟩ := h
  obtain ⟨text', htext', hdoc'⟩ := h'
  obtain rfl := Http.Content.whole.inj (htext.symm.trans htext')
  exact (Prod.mk.inj (hdoc.symm.trans hdoc')).1

theorem Incoming.decoded_eq_ok {α : Type} {dec : Json.Decoder α} {text : String} {a : α}
    (h : decoded dec text = .ok a) : Json.decodeText dec text = .ok a := by
  rw [decoded] at h
  split at h
  · next b hb => rw [hb, Except.ok.inj h]
  · cases h
  · cases h

theorem Incoming.body_eq_ok {α : Type} {i : Incoming} {dec : Json.Decoder α} {a : α}
    (h : i.body dec = .ok a) : ∃ d, Bears i.request d ∧ dec d = .ok a := by
  rw [Incoming.body] at h
  split at h
  · split at h
    · cases h
    · next text hbody =>
      obtain ⟨d, hd, hdec⟩ := Json.decodeChars_eq_ok (decoded_eq_ok h)
      exact ⟨d, ⟨text, hbody, hd⟩, hdec⟩
  · cases h

/-- A way to change a row: where it is asked for, what a body may give and what it sets, and which
row is meant. -/
structure Amendment where
  endpoint : Endpoint
  handler : Handler
  table : String
  names : List String
  slots : Password.Salt → List Slot
  target : Incoming → Incoming.Reading Uuid

namespace Amendment

def byName (resource : String) (handler : Handler) (table : String) (names : List String)
    (slots : List Slot) : Amendment :=
  ⟨.named .put ["v1", resource], handler, table, names, fun _ => slots, Incoming.id⟩

def ofCaller : Amendment :=
  ⟨.fixed .put ["v1", "user"], Users.updateSelf, User.table, User.Change.names, User.Change.slots,
    fun i => i.caller.map (·.userId)⟩

def ofUser : Amendment :=
  ⟨.named .put ["v1", "user"], Users.update, User.table, User.Change.names, User.Change.slots,
    Incoming.id⟩

def ofCategory : Amendment :=
  byName "business-category" Categories.update Category.table Category.Change.names
    Category.Change.slots

def ofBusiness : Amendment :=
  byName "business" Businesses.update Business.table Business.Change.names Business.Change.slots

def ofReview : Amendment :=
  byName "review" Reviews.update Review.table Review.Change.names Review.Change.slots

def ofReport : Amendment :=
  byName "report" Reports.update Report.table Report.Change.names Report.Change.slots

def ofNotification : Amendment :=
  byName "notification" Notifications.update Notification.table Notification.Change.names
    Notification.Change.slots

def ofEvent : Amendment :=
  byName "event" Events.update Event.table Event.Change.names Event.Change.slots

def ofBookmark : Amendment :=
  byName "bookmark" Bookmarks.update Bookmark.table Bookmark.Change.names Bookmark.Change.slots

end Amendment

open Amendment in
def amendments : List Amendment :=
  [ofCaller, ofUser, ofCategory, ofBusiness, ofReview, ofReport, ofNotification, ofEvent,
    ofBookmark]

namespace Amendment

variable {a : Amendment} {i : Incoming} {id : Uuid} {changes : List Sql.Assignment}

theorem endpoint_inj {b : Amendment} (ha : a ∈ amendments) (hb : b ∈ amendments)
    (he : a.endpoint = b.endpoint) : a = b :=
  List.inj_on_of_nodup_map (f := endpoint) (l := amendments) (by decide) ha hb he

theorem handler_mem (ha : a ∈ amendments) (policy : TokenPolicy) :
    (a.endpoint, a.handler) ∈ endpoints policy := by
  revert a
  simp [amendments, ofCaller, ofUser, ofCategory, ofBusiness, ofReview, ofReport, ofNotification,
    ofEvent, ofBookmark, byName, endpoints, Route.endpoints, routes, path, named, Endpoint.fixed,
    Endpoint.named]

theorem columns_nodup (ha : a ∈ amendments) (salt : Password.Salt) :
    ((a.slots salt).map Slot.column ++ ["id", "created_at", "updated_at"]).Nodup := by
  revert a
  simp [amendments, ofCaller, ofUser, ofCategory, ofBusiness, ofReview, ofReport, ofNotification,
    ofEvent, ofBookmark, byName, User.Change.slots, Category.Change.slots, Business.Change.slots,
    Review.Change.slots, Report.Change.slots, Notification.Change.slots, Event.Change.slots,
    Bookmark.Change.slots, Slot.of]

def Sets (a : Amendment) (i : Incoming) (changes : List Sql.Assignment) (id : Uuid) : Prop :=
  a.target i = .ok id ∧ ∃ doc salt,
    Bears i.request doc ∧ Slot.Assigns (doc.part a.names) (a.slots salt) changes

theorem amends_of_body {α : Type} {dec : Json.Decoder α} {change : α} {table : String}
    {changes' : List Sql.Assignment} {id' : Uuid} (ha : a ∈ amendments) (salt : Password.Salt)
    (ht : a.target i = .ok id) (hb : i.body dec = .ok change)
    (h : ∀ {doc}, dec doc = .ok change → Slot.Assigns (doc.part a.names) (a.slots salt) changes)
    (hst : Sql.Statement.update a.table changes id = .update table changes' id') :
    ∃ b ∈ amendments, b.endpoint = a.endpoint ∧ b.table = table ∧ b.Sets i changes' id' := by
  obtain ⟨htable, rfl, rfl⟩ := Sql.Statement.update.inj hst
  obtain ⟨doc, hdoc, hdec⟩ := Incoming.body_eq_ok hb
  exact ⟨a, ha, rfl, htable, ht, doc, salt, hdoc, h hdec⟩

end Amendment

open Amendment in
theorem Footprint.amends {i : Incoming} {e : Endpoint} {st : Sql.Statement} {table : String}
    {changes : List Sql.Assignment} {id : Uuid} (hf : Footprint i e st)
    (hst : st = .update table changes id) :
    ∃ a ∈ amendments, a.endpoint = e ∧ a.table = table ∧ a.Sets i changes id := by
  have idle : Password.Salt := Vector.replicate 16 0
  cases hf with
  | look hk => simpa [hst, Sql.Statement.isWrite] using hk.isWrite_eq_false
  | @updateSelf c change salt hc hb hp hv =>
    have ht : ofCaller.target i = .ok c.userId := by simp [ofCaller, hc, Except.map]
    exact amends_of_body (by simp [amendments]) salt ht hb (User.Change.assigns salt) hst
  | @updateUser c id change salt hc hi hb ho hp hv =>
    exact amends_of_body (a := ofUser) (by simp [amendments]) salt hi hb
      (User.Change.assigns salt) hst
  | updateCategory _ hi hb =>
    exact amends_of_body (a := ofCategory) (by simp [amendments]) idle hi hb
      Category.Change.assigns hst
  | updateBusiness _ hi hb =>
    exact amends_of_body (a := ofBusiness) (by simp [amendments]) idle hi hb
      Business.Change.assigns hst
  | updateReview _ hi hb =>
    exact amends_of_body (a := ofReview) (by simp [amendments]) idle hi hb
      Review.Change.assigns hst
  | updateReport _ hi hb =>
    exact amends_of_body (a := ofReport) (by simp [amendments]) idle hi hb
      Report.Change.assigns hst
  | updateNotification _ hi hb =>
    exact amends_of_body (a := ofNotification) (by simp [amendments]) idle hi hb
      Notification.Change.assigns hst
  | updateEvent _ hi hb =>
    exact amends_of_body (a := ofEvent) (by simp [amendments]) idle hi hb Event.Change.assigns hst
  | updateBookmark _ hi hb =>
    exact amends_of_body (a := ofBookmark) (by simp [amendments]) idle hi hb
      Bookmark.Change.assigns hst
  | attachToNewBusiness _ _ _ hr | attachToBusiness _ _ _ _ _ hr | attachToNewReview _ _ _ hr
  | attachToReview _ _ _ _ _ hr =>
    subst hst
    cases hr
  | _ => simp at hst

section

variable {α β : Type} {Q : Exchange → Prop}

theorem ensures_existing {a : Action Failure (Option α)} {k : α → Handling β} (h : Ensures Q a) :
    Ensures Q (existing a >>= k) := by
  apply Ensures.bind_left
  apply Ensures.bind_left
  exact h.mapError

theorem ensures_named {i : Incoming} {dec : Json.Decoder α} {k : Caller → Uuid → α → Handling β}
    (h : ∀ c id change, Ensures Q (k c id change)) :
    Ensures Q (do
      let caller ← read i.caller
      let id ← read i.id
      let change ← read (i.body dec)
      k caller id change) :=
  .bind_right fun c => .bind_right fun id => .bind_right fun change => h c id change

end

theorem Users.applyChange_ensures {c : Caller} {id : Uuid} {change : User.Change} :
    Ensures (Exchange.Updates User.table) (applyChange c id change) := by
  rw [applyChange_eq]
  apply Ensures.bind_right
  intro admitted
  exact ensures_existing User.update_ensures

theorem Amendment.ensures {a : Amendment} (ha : a ∈ amendments) (i : Incoming) :
    Ensures (Exchange.Updates a.table) (a.handler i) := by
  revert a
  simp only [amendments, List.forall_mem_cons]
  -- What comes before the update are the checks of the handler.
  refine ⟨?caller, ?user, ?category, ?business, ?review, ?report, ?notification, ?event, ?bookmark,
    by simp⟩
  case caller => exact .bind_right fun _ => .bind_right fun _ => Users.applyChange_ensures
  case user =>
    apply ensures_named
    intro c id change
    exact Users.applyChange_ensures
  case business =>
    apply ensures_named
    intro c id change
    exact .bind_right fun _ => .bind_right fun _ => ensures_existing Business.update_ensures
  case review =>
    apply ensures_named
    intro c id change
    exact .bind_right fun _ => .bind_right fun _ => ensures_existing Review.update_ensures
  case category | report | event =>
    apply ensures_named
    intro c id change
    exact .bind_right fun _ => .bind_right fun _ => ensures_existing optional_updates
  case notification =>
    apply ensures_named
    intro c id change
    exact .bind_right fun _ => .bind_right fun _ => .bind_right fun _ =>
      ensures_existing optional_updates
  case bookmark =>
    apply ensures_named
    intro c id change
    exact .bind_right fun _ => ensures_existing optional_updates

structure Amendment.Takes (a : Amendment) (doc : Json.Document) (salt : Password.Salt)
    (changes : List Sql.Assignment) : Prop where
  assigns : Slot.Assigns (doc.part a.names) (a.slots salt) changes
  once : (changes.map Prod.fst).Nodup
  absent : ∀ slot ∈ a.slots salt, (doc.part a.names slot.key).isNull = true →
    slot.column ∉ changes.map Prod.fst
  kept : ∀ column ∈ ["id", "created_at", "updated_at"], column ∉ changes.map Prod.fst
  bare : (∀ slot ∈ a.slots salt, (doc.part a.names slot.key).isNull = true) → changes = []

theorem Amendment.takes_of_assigns {a : Amendment} (ha : a ∈ amendments) {doc : Json.Document}
    {salt : Password.Salt} {changes : List Sql.Assignment}
    (h : Slot.Assigns (doc.part a.names) (a.slots salt) changes) : a.Takes doc salt changes := by
  obtain ⟨hslots, -, hkept⟩ := List.nodup_append.mp (columns_nodup ha salt)
  have hsub : Slot.given (doc.part a.names) (a.slots salt) ⊆ a.slots salt :=
    List.filter_sublist.subset
  refine ⟨h, ?once, ?absent, ?kept, ?bare⟩
  case once =>
    rw [h.columns]
    exact hslots.sublist (List.filter_sublist.map _)
  case absent =>
    intro slot hslot hnull hcolumn
    rw [h.columns] at hcolumn
    obtain ⟨other, hother, hsame⟩ := List.mem_map.mp hcolumn
    obtain rfl := List.inj_on_of_nodup_map hslots (hsub hother) hslot hsame
    simp [Slot.given, hnull] at hother
  case kept =>
    intro column hcolumn hset
    rw [h.columns] at hset
    exact hkept _ (List.map_subset _ hsub hset) _ hcolumn rfl
  case bare =>
    intro hnull
    have hnone : Slot.given (doc.part a.names) (a.slots salt) = [] := by
      simpa [Slot.given] using hnull
    rw [Slot.Assigns, hnone] at h
    cases h
    rfl

namespace Server

variable {s : Server} {r : Http.Request} {t : List Step} {name? : Option (List Char)}

theorem Reaches.name_unique {e e' : Endpoint} {name?' : Option (List Char)}
    (h : s.Reaches r e name?) (h' : s.Reaches r e' name?') : name? = name?' := by
  obtain ⟨_, hs⟩ := h
  obtain ⟨_, hs'⟩ := h'
  exact (Prod.mk.inj (Prod.mk.inj (Option.some.inj (hs.symm.trans hs'))).2).2

theorem Reaches.served {e : Endpoint} {h : Handler} {response : Http.Response}
    (hr : s.Reaches r e name?) (hh : (e, h) ∈ endpoints s.policy)
    (ht : (s.handle r).Runs t (some response)) (hs : response.status < 400) :
    ∃ lead rest c? answer, t = lead ++ rest ∧ s.Introduces r lead c? ∧
      (h ⟨r, c?, name?⟩).Runs rest (some (.ok answer)) := by
  rcases hr.runs_cases hh ht with ⟨lead, rest, c?, o?, rfl, hlead, ho, hv⟩ | ⟨_, hv, hturned⟩
  · obtain ⟨o, rfl, rfl⟩ := Option.map_eq_some_iff.mp hv.symm
    cases o with
    | ok answer => exact ⟨lead, rest, c?, answer, rfl, hlead, ho⟩
    | error stop =>
      have htalks := (endpoints_serve hh fun _ => trivial).talks ⟨r, c?, name?⟩
      have hproper : stop.Proper := by
        cases htalks.answered ho with
        | stopped h => exact h
      have hle := hproper.le_status
      rw [outer_status] at hs
      simp only [settle] at hs
      omega
  · obtain rfl := Option.some.inj hv
    have hle := hturned.le_status
    omega

end Server

end Api

end CityGuide
