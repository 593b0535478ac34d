import CityGuide.Proofs.Api.Rewordings

namespace CityGuide

open Store Store.Action

theorem Store.Action.update_leads {α : Type} {F : Exchange → Prop} {table : String}
    {changes : List Sql.Assignment} {id : Uuid} {read : Row → Option α} :
    Leads F (Exchange.Updates table) (Action.optional (.update table changes id) read) :=
  .optional fun _ => ⟨changes, id, rfl⟩

theorem User.hashing_clears {ε : Type} {F : Exchange → Prop} {password? : Option String} :
    Clears F (fun _ => True) (hashedIfGiven password? : Action ε _) := by
  rintro t v? ht -
  obtain ⟨passwordHash?, rfl, -⟩ := runs_hashedIfGiven.mp ht
  exact ⟨passwordHash?, rfl, trivial⟩

theorem Business.update_leads {F : Exchange → Prop} {id : Uuid} {c : Change}
    (hF : ∀ r, F (.begin, r) → ∃ answer, r = .ok answer) :
    Leads F (Exchange.Updates table) (update id c) :=
  .bind (.transaction hF (.bind Action.update_leads))

theorem Review.update_leads {F : Exchange → Prop} {id : Uuid} {c : Change}
    (hF : ∀ r, F (.begin, r) → ∃ answer, r = .ok answer) :
    Leads F (Exchange.Updates table) (update id c) :=
  .bind (.transaction hF (.bind Action.update_leads))

namespace Api

open Handling

/-- A reply that lets a change go on: a transaction is begun, and what is looked up is there, is
the caller's, and goes with what the body asks for. -/
structure Favours (c : Caller) (i : Incoming) (x : Exchange) : Prop where
  begun : x.1 = .begin → ∃ answer, x.2 = .ok answer
  business : x.Shows Business.table Business.ofRow fun b => c.requireOwner b.ownerId = .ok ()
  review : x.Shows Review.table Review.ofRow fun r => c.requireOwner r.userId = .ok ()
  report : x.Shows Report.table Report.ofRow fun r => c.requireOwner r.userId = .ok ()
  bookmark : x.Shows Bookmark.table Bookmark.ofRow fun b => c.requireOwner b.userId = .ok ()
  notification : x.Shows Notification.table Notification.ofRow fun n =>
    Notifications.requireParty c n = .ok () ∧
      ∀ change, i.body Notification.Change.decode = .ok change →
        Notifications.requireAuthor c n change = .ok ()
  event : x.Shows Event.table Event.ofRow fun e =>
    ∀ change, i.body Event.Change.decode = .ok change → change.validate e = .ok ()

variable {c : Caller} {i : Incoming} {id : Uuid}

theorem leads_existing {α β : Type} {F Q : Exchange → Prop} {a : Action Failure (Option α)}
    {k : α → Handling β} (h : Leads F Q a) : Leads F Q (existing a >>= k) := h.mapError.bind.bind

theorem leads_named {α β : Type} {F Q : Exchange → Prop} {dec : Json.Decoder α} {change : α}
    {k : Caller → Uuid → α → Handling β} (hc : i.caller = .ok c) (hi : i.id = .ok id)
    (hb : i.body dec = .ok change) (h : Leads F Q (k c id change)) :
    Leads F Q (do
      let caller ← read i.caller
      let id ← read i.id
      let change ← read (i.body dec)
      k caller id change) := .gate hc (.gate hi (.gate hb h))

theorem Users.applyChange_leads {change : User.Change} (ho : c.requireOwner id = .ok ())
    (hp : change.changesPrivileges = true → c.require .administerUsers = .ok ())
    (hv : change.validate = .ok ()) :
    Leads (Favours c i) (Exchange.Updates User.table) (applyChange c id change) := by
  have hadmitted : admitted c id change = .ok () := by
    rw [admitted, ho, hv]
    cases hprivileges : change.changesPrivileges with
    | false => rfl
    | true => rw [if_pos rfl, hp hprivileges]; rfl
  rw [applyChange_eq]
  exact .gate hadmitted (leads_existing (.after User.hashing_clears fun _ _ => update_leads))

theorem Businesses.owned_clears : Clears (Favours c i) (fun _ => True) (owned c id) :=
  clears_checked fun _ hx => hx.business

theorem Reviews.owned_clears : Clears (Favours c i) (fun _ => True) (owned c id) :=
  clears_checked fun _ hx => hx.review

theorem Reports.owned_clears :
    Clears (Favours c i) (fun r => c.requireOwner r.userId = .ok ()) (owned c id) :=
  clears_kept (fun _ hx => hx.report) fun _ hcheck => hcheck

theorem Bookmarks.owned_clears :
    Clears (Favours c i) (fun b => c.requireOwner b.userId = .ok ()) (owned c id) :=
  clears_kept (fun _ hx => hx.bookmark) fun _ hcheck => hcheck

theorem Notifications.ofParty_clears :
    Clears (Favours c i) (fun n => requireParty c n = .ok () ∧
      ∀ change, i.body Notification.Change.decode = .ok change →
        requireAuthor c n change = .ok ()) (ofParty c id) :=
  clears_kept (fun _ hx => hx.notification) fun _ hn => hn.1

theorem Events.owned_clears :
    Clears (Favours c i) (fun e => ∀ change, i.body Event.Change.decode = .ok change →
      change.validate e = .ok ()) (owned c id) := by
  refine (clears_look fun _ hx => hx.event).bind fun event hevent => ?_
  have howner : Clears (Favours c i) (fun _ => True) (requireOwner c event.businessId) :=
    clears_checked fun _ hx => hx.business
  exact howner.bind fun _ _ => .pure hevent

open Amendment in
theorem Amendment.leads {a : Amendment} {changes : List Sql.Assignment} (ha : a ∈ amendments)
    (hc : i.caller = .ok c) (hf : Footprint i a.endpoint (.update a.table changes id)) :
    Leads (Favours c i) (Exchange.Updates a.table) (a.handler i) := by
  have determined {b : Amendment} (hb : b ∈ amendments) (he : a.endpoint = b.endpoint) : a = b :=
    endpoint_inj ha hb he
  generalize he : a.endpoint = e at hf
  generalize hst : Sql.Statement.update a.table changes id = st at hf
  cases hf with
  | look hk => simpa [← hst, Sql.Statement.isWrite] using hk.isWrite_eq_false
  | updateSelf hc' hb hp hv =>
    obtain rfl := determined (b := ofCaller) (by simp [amendments]) he
    obtain rfl := Except.ok.inj (hc.symm.trans hc')
    exact .gate hc (.gate hb (Users.applyChange_leads (Caller.requireOwner_self c) hp hv))
  | updateUser hc' hi hb ho hp hv =>
    obtain rfl := determined (b := ofUser) (by simp [amendments]) he
    obtain rfl := Except.ok.inj (hc.symm.trans hc')
    exact leads_named hc hi hb (Users.applyChange_leads ho hp hv)
  | updateCategory hc' hi hb hp hv =>
    obtain rfl := determined (b := ofCategory) (by simp [amendments]) he
    obtain rfl := Except.ok.inj (hc.symm.trans hc')
    exact leads_named hc hi hb
      (.gate (congrArg _ hp) (.gate (congrArg _ hv) (leads_existing update_leads)))
  | updateBusiness _ hi hb hv =>
    obtain rfl := determined (b := ofBusiness) (by simp [amendments]) he
    exact leads_named hc hi hb (.after Businesses.owned_clears fun _ _ =>
      .gate (congrArg _ hv) (leads_existing (Business.update_leads fun _ hx => hx.begun rfl)))
  | updateReview _ hi hb hv =>
    obtain rfl := determined (b := ofReview) (by simp [amendments]) he
    exact leads_named hc hi hb (.after Reviews.owned_clears fun _ _ =>
      .gate (congrArg _ hv) (leads_existing (Review.update_leads fun _ hx => hx.begun rfl)))
  | updateReport _ hi hb hv =>
    obtain rfl := determined (b := ofReport) (by simp [amendments]) he
    exact leads_named hc hi hb (.after Reports.owned_clears fun _ _ =>
      .gate (congrArg _ hv) (leads_existing update_leads))
  | updateNotification _ hi hb hv =>
    obtain rfl := determined (b := ofNotification) (by simp [amendments]) he
    exact leads_named hc hi hb (.after Notifications.ofParty_clears fun _ hn =>
      .gate (congrArg _ (hn.2 _ hb)) (.gate (congrArg _ hv) (leads_existing update_leads)))
  | updateEvent _ hi hb _ =>
    obtain rfl := determined (b := ofEvent) (by simp [amendments]) he
    exact leads_named hc hi hb (.after Events.owned_clears fun _ hevent =>
      .gate (congrArg _ (hevent _ hb)) (leads_existing update_leads))
  | updateBookmark _ hi hb =>
    obtain rfl := determined (b := ofBookmark) (by simp [amendments]) he
    exact leads_named hc hi hb
      (.after Bookmarks.owned_clears fun _ _ => leads_existing update_leads)
  | attachToNewBusiness _ _ _ hr | attachToBusiness _ _ _ _ _ hr | attachToNewReview _ _ _ hr
  | attachToReview _ _ _ _ _ hr =>
    subst hst
    cases hr
  | _ => simp at hst

namespace Server

variable {s : Server} {r : Http.Request} {t : List Step} {name? : Option (List Char)}
  {v? : Option Http.Response}

theorem amendments_closed {a : Amendment} (ha : a ∈ amendments) : a.endpoint ∉ openEndpoints := by
  revert a
  decide

theorem accepted_change_sent {a : Amendment} {changes : List Sql.Assignment}
    (ha : a ∈ amendments) (hr : s.Reaches r a.endpoint name?) (ht : (s.handle r).Runs t v?)
    (hc : caller? t = some c)
    (hf : Footprint ⟨r, some c, name?⟩ a.endpoint (.update a.table changes id))
    (hgood : ∀ x ∈ exchanges t, Favours c ⟨r, some c, name?⟩ x) :
    ∃ x ∈ exchanges t, x.Updates a.table := by
  obtain ⟨lead, rest, o?, rfl, -, hruns, -⟩ :=
    hr.run_of_caller (Amendment.handler_mem ha _) (amendments_closed ha) ht hc
  rw [exchanges_append, List.forall_mem_append] at hgood
  obtain ⟨x, hx, hupdates⟩ := Amendment.leads ha rfl hf rest o? hruns hgood.2
  exact ⟨x, exchanges_append lead rest ▸ List.mem_append_right _ hx, hupdates⟩

theorem updates_set_what_is_given {a : Amendment} {v? : Option Http.Response}
    (ha : a ∈ amendments) (hr : s.Reaches r a.endpoint name?) (ht : (s.handle r).Runs t v?) :
    (∀ table changes id reply, (.run (.update table changes id), reply) ∈ exchanges t →
      table = a.table ∧
      (∃ c?, (∀ c, c? = some c → s.Vouches r t c) ∧ a.target ⟨r, c?, name?⟩ = .ok id) ∧
      (∃ doc salt, Bears r doc ∧ a.Takes doc salt changes) ∧
      (Sql.Statement.update table changes id).prepared =
        ⟨"UPDATE " ++ Sql.quoteName table ++ " SET " ++
          String.join ((changes.map Prod.fst).zipWith
            (fun column mark => Sql.quoteName column ++ " = " ++ mark ++ ", ")
            (Sql.Part.marks 0 changes.length)) ++
          Sql.quoteName "updated_at" ++ " = CURRENT_TIMESTAMP WHERE " ++ Sql.quoteName "id" ++
          " = " ++ Sql.Part.mark (changes.length + 1) ++ " RETURNING *",
        changes.map Prod.snd ++ [.uuid id]⟩) ∧
    ∀ response, v? = some response → response.status < 400 →
      ∃ x ∈ exchanges t, x.Updates a.table := by
  constructor
  · intro table changes id reply hx
    rcases sent_cases ht hx with ⟨_, _, hl⟩ | ⟨e, name', c?, hr', hsent, hc⟩
    · simp at hl
    · obtain rfl := hr.endpoint_unique hr'
      obtain rfl := hr.name_unique hr'
      obtain ⟨b, hb, he, htable, htarget, doc, salt, hdoc, hassigns⟩ := Footprint.amends hsent rfl
      obtain rfl : a = b := Amendment.endpoint_inj ha hb he.symm
      have htakes := Amendment.takes_of_assigns ha hassigns
      exact ⟨htable.symm, ⟨c?, hc, htarget⟩, ⟨doc, salt, hdoc, htakes⟩,
        Sql.Statement.prepared_update ..⟩
  · rintro response rfl hs
    obtain ⟨lead, rest, c?, answer, rfl, -, hruns⟩ := hr.served (Amendment.handler_mem ha _) ht hs
    obtain ⟨x, hx, hupdates⟩ := Amendment.ensures ha _ rest answer hruns
    exact ⟨x, exchanges_append lead rest ▸ List.mem_append_right _ hx, hupdates⟩

def Amended (a : Amendment) (r : Http.Request) : Prop :=
  ∃ t response, (cityServer.handle r).Runs t (some response) ∧ response.status < 400 ∧
    ∃ changes id reply, (.run (.update a.table changes id), reply) ∈ exchanges t ∧
      ∃ doc salt, Bears r doc ∧ a.Takes doc salt changes

theorem readdressing_takes :
    (∃ doc salt, Bears readdressing doc ∧
      Amendment.ofCaller.Takes doc salt [("email", .text spaced)]) ∧
    (∃ x ∈ exchanges readdressingRun, x.Updates User.table) ∧
    Amended .ofCategory (Wording.asking cityServer .category .change cafe) ∧
    Amended .ofReview (Wording.asking cityServer .review .change cafe) := by
  have amended {a : Amendment} {w : Wording} (ha : a ∈ amendments)
      (he : a.endpoint = w.endpoint .change) :
      Amended a (Wording.asking cityServer w .change cafe) := by
    obtain ⟨t, htakes⟩ := takes_asking cityServer .change (cafe_present w)
    obtain ⟨name?, hreaches⟩ := htakes.reaches
    obtain ⟨response, hruns, hstatus⟩ := htakes.answered
    obtain ⟨hsent, hmade⟩ := updates_set_what_is_given ha (he ▸ hreaches) hruns
    obtain ⟨⟨_, reply⟩, hx, changes, id, rfl⟩ := hmade response rfl hstatus
    obtain ⟨-, -, hgiven, -⟩ := hsent _ _ _ _ hx
    exact ⟨t, response, hruns, hstatus, changes, id, reply, hx, hgiven⟩
  obtain ⟨response, hruns, hstatus⟩ := readdressing_runs
  have ha : Amendment.ofCaller ∈ amendments := by simp [amendments]
  obtain ⟨hsent, hmade⟩ := updates_set_what_is_given ha (readdressing_reaches _) hruns
  obtain ⟨-, -, hgiven, -⟩ := hsent _ _ _ _ (.tail _ (.head _))
  exact ⟨hgiven, hmade response rfl (by omega), amended (by simp [amendments]) rfl,
    amended (by simp [amendments]) rfl⟩

end Server

end Api

end CityGuide
