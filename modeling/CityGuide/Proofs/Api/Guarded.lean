import CityGuide.Proofs.Api.Authentication
import CityGuide.Proofs.Api.Escalation
import CityGuide.Proofs.Api.Ownership
import CityGuide.Proofs.Api.SignedRequests

namespace CityGuide.Api

open Store Store.Action Handling

def byName (question : Uuid → Question) (i : Incoming) : Incoming.Reading Question :=
  i.id.map question

def guarded : List (Endpoint × (Incoming → Incoming.Reading Question)) :=
  [(.named .put ["v1", "business"], byName (.row .business)),
    (.named .delete ["v1", "business"], byName (.row .business)),
    (.named .put ["v1", "review"], byName (.row .review)),
    (.named .delete ["v1", "review"], byName (.row .review)),
    (.named .put ["v1", "report"], byName (.row .report)),
    (.named .delete ["v1", "report"], byName (.row .report)),
    (.named .put ["v1", "bookmark"], byName (.row .bookmark)),
    (.named .delete ["v1", "bookmark"], byName (.row .bookmark)),
    (.named .put ["v1", "event"], byName .event),
    (.named .delete ["v1", "event"], byName .event),
    (.named .put ["v1", "notification"], byName (.row .notification)),
    (.named .delete ["v1", "notification"], byName (.row .notification)),
    (.named .put ["v1", "user"], byName .account),
    (.named .delete ["v1", "user"], byName .account),
    (.named .delete ["v1", "promotion"], byName (.row .promotion)),
    (.fixed .post ["v1", "event"],
      fun i => (i.body Event.Draft.decode).map fun d => .row .business d.businessId),
    (.fixed .post ["v1", "promotion"],
      fun i => (i.body Promotion.Draft.decode).map fun d => .row .business d.businessId)]

section Handlers

variable {i : Incoming} {c : Caller} {question : Uuid → Question}

theorem follows_caller {me : Uuid} {asked : Incoming.Reading Question}
    {k : Caller → Handling Http.Response} (hc : i.caller = .ok c) (h : Follows me asked (k c)) :
    Follows me asked (read i.caller >>= k) := by
  rw [read, hc]
  exact h

theorem follows_named {me : Uuid} {k : Uuid → Handling Http.Response}
    (h : ∀ id, byName question i = .ok (question id) → Follows me (byName question i) (k id)) :
    Follows me (byName question i) (read i.id >>= k) := by
  refine follows_reading (fun _ => Incoming.id_error) fun id hi => h id ?_
  rw [byName, hi]
  rfl

theorem follows_body {α : Type} {me : Uuid} {asked : Incoming.Reading Question}
    {dec : Json.Decoder α} {k : α → Handling Http.Response}
    (h : ∀ a, i.body dec = .ok a → Follows me asked (k a)) :
    Follows me asked (read (i.body dec) >>= k) :=
  follows_reading (fun _ => Incoming.body_error) h

theorem map_row_ne_account {α : Type} (r : Incoming.Reading α) (f : α → Uuid) (id : Uuid) :
    (r.map fun a => Question.row .business (f a)) ≠ .ok (.account id) := by
  cases r <;> simp [Except.map]

theorem follows_change {α β : Type} {dec : Json.Decoder α} {owned : Caller → Uuid → Handling β}
    {k : Caller → Uuid → α → β → Handling Http.Response} (hc : i.caller = .ok c)
    (ho : ∀ id, Asks c.userId (question id) (owned c id)) :
    Follows c.userId (byName question i) (do
      let caller ← read i.caller
      let id ← read i.id
      let change ← read (i.body dec)
      let found ← owned caller id
      k caller id change found) := by
  refine follows_caller hc (follows_named fun id hq => follows_body fun change _ => ?_)
  exact follows_asking hq (ho id)

theorem follows_removal {β : Type} {owned : Caller → Uuid → Handling β}
    {k : Caller → Uuid → β → Handling Http.Response} (hc : i.caller = .ok c)
    (ho : ∀ id, Asks c.userId (question id) (owned c id)) :
    Follows c.userId (byName question i) (do
      let caller ← read i.caller
      let id ← read i.id
      let found ← owned caller id
      k caller id found) := by
  refine follows_caller hc (follows_named fun id hq => ?_)
  exact follows_asking hq (ho id)

variable (hc : i.caller = .ok c) (hn : c.userType ≠ .admin)

include hc hn

theorem Businesses.update_follows : Follows c.userId (byName (.row .business) i) (update i) :=
  follows_change hc fun _ => owned_asks hn

theorem Businesses.delete_follows : Follows c.userId (byName (.row .business) i) (delete i) :=
  follows_removal hc fun _ => owned_asks hn

theorem Reviews.update_follows : Follows c.userId (byName (.row .review) i) (update i) :=
  follows_change hc fun _ => owned_asks hn

theorem Reviews.delete_follows : Follows c.userId (byName (.row .review) i) (delete i) :=
  follows_removal hc fun _ => owned_asks hn

theorem Reports.update_follows : Follows c.userId (byName (.row .report) i) (update i) :=
  follows_change hc fun _ => owned_asks hn

theorem Reports.delete_follows : Follows c.userId (byName (.row .report) i) (delete i) :=
  follows_removal hc fun _ => owned_asks hn

theorem Bookmarks.update_follows : Follows c.userId (byName (.row .bookmark) i) (update i) :=
  follows_change hc fun _ => owned_asks hn

theorem Bookmarks.delete_follows : Follows c.userId (byName (.row .bookmark) i) (delete i) :=
  follows_removal hc fun _ => owned_asks hn

theorem Events.update_follows : Follows c.userId (byName .event i) (update i) :=
  follows_change hc fun _ => owned_asks hn

theorem Events.delete_follows : Follows c.userId (byName .event i) (delete i) :=
  follows_removal hc fun _ => owned_asks hn

theorem Notifications.update_follows :
    Follows c.userId (byName (.row .notification) i) (update i) :=
  follows_change hc fun _ => ofParty_asks hn

theorem Notifications.delete_follows :
    Follows c.userId (byName (.row .notification) i) (delete i) :=
  follows_removal hc fun _ => ofParty_asks hn

theorem Users.update_follows : Follows c.userId (byName .account i) (update i) :=
  follows_change hc fun _ => requireOwner_asks hn

theorem Users.delete_follows : Follows c.userId (byName .account i) (delete i) :=
  follows_removal hc fun _ => requireOwner_asks hn

theorem Promotions.delete_follows : Follows c.userId (byName (.row .promotion) i) (delete i) := by
  refine follows_caller hc (follows_named fun id hq => ?_)
  exact follows_kept hq (requireOwner_decides hn _)

theorem Events.create_follows :
    Follows c.userId ((i.body Event.Draft.decode).map fun d => .row .business d.businessId)
      (create i) := by
  refine follows_caller hc (follows_body fun d hb => ?_)
  refine follows_check (map_row_ne_account _ _) fun _ _ => ?_
  refine follows_check (map_row_ne_account _ _) fun _ _ => ?_
  exact follows_asking (by rw [hb]; rfl) (requireOwner_asks hn)

theorem Promotions.create_follows :
    Follows c.userId ((i.body Promotion.Draft.decode).map fun d => .row .business d.businessId)
      (create i) := by
  refine follows_caller hc (follows_body fun d hb => ?_)
  refine follows_check (map_row_ne_account _ _) fun _ _ => ?_
  refine follows_check (map_row_ne_account _ _) fun _ _ => ?_
  exact follows_kept (by rw [hb]; rfl) (requireOwner_decides hn _)

end Handlers

theorem guarded_closed : ∀ x ∈ guarded, x.1 ∉ openEndpoints := by
  simp [guarded, openEndpoints, Endpoint.fixed, Endpoint.named]

def Keeps (policy : TokenPolicy) (x : Endpoint × (Incoming → Incoming.Reading Question)) : Prop :=
  ∃ h, (x.1, h) ∈ endpoints policy ∧
    ∀ i c, i.caller = .ok c → c.userType ≠ .admin → Follows c.userId (x.2 i) (h i)

theorem guarded_keeps (policy : TokenPolicy) : ∀ x ∈ guarded, Keeps policy x := by
  have keeps {e : Endpoint} {ask : Incoming → Incoming.Reading Question} {h : Handler}
      (hf : ∀ i c, i.caller = .ok c → c.userType ≠ .admin → Follows c.userId (ask i) (h i))
      (hm : (e, h) ∈ endpoints policy) : Keeps policy (e, ask) := ⟨h, hm, hf⟩
  simp only [guarded, List.forall_mem_cons, List.not_mem_nil, false_imp_iff, implies_true, and_true]
  refine ⟨keeps (fun _ _ => Businesses.update_follows) ?_,
    keeps (fun _ _ => Businesses.delete_follows) ?_, keeps (fun _ _ => Reviews.update_follows) ?_,
    keeps (fun _ _ => Reviews.delete_follows) ?_, keeps (fun _ _ => Reports.update_follows) ?_,
    keeps (fun _ _ => Reports.delete_follows) ?_, keeps (fun _ _ => Bookmarks.update_follows) ?_,
    keeps (fun _ _ => Bookmarks.delete_follows) ?_, keeps (fun _ _ => Events.update_follows) ?_,
    keeps (fun _ _ => Events.delete_follows) ?_,
    keeps (fun _ _ => Notifications.update_follows) ?_,
    keeps (fun _ _ => Notifications.delete_follows) ?_, keeps (fun _ _ => Users.update_follows) ?_,
    keeps (fun _ _ => Users.delete_follows) ?_, keeps (fun _ _ => Promotions.delete_follows) ?_,
    keeps (fun _ _ => Events.create_follows) ?_, keeps (fun _ _ => Promotions.create_follows) ?_⟩
  all_goals simp [endpoints, Route.endpoints, routes, path, named, Endpoint.fixed, Endpoint.named]

def isWrite : Command → Bool
  | .run st => st.isWrite
  | .begin | .commit | .rollback | .script _ => true
  | .connect => false

theorem no_writes_append {u w : List Step} (hu : ∀ x ∈ exchanges u, isWrite x.1 = false)
    (hw : ∀ x ∈ exchanges w, isWrite x.1 = false) :
    ∀ x ∈ exchanges (u ++ w), isWrite x.1 = false := by
  intro x hx
  rcases List.mem_append.mp (exchanges_append u w ▸ hx) with hx | hx
  · exact hu x hx
  · exact hw x hx

theorem Judged.no_writes {me : Uuid} {q : Question} {looks : List Step} {verdict : Verdict}
    (h : Judged me q looks verdict) : ∀ x ∈ exchanges looks, isWrite x.1 = false := by
  intro x hx
  obtain ⟨_, _, hlook⟩ := h.looks_only x hx
  rw [hlook]
  rfl

theorem Footprint.updates_notification {i : Incoming} {e : Endpoint}
    {changes : List Sql.Assignment} {id : Uuid}
    (hf : Footprint i e (.update Notification.table changes id)) :
    e = .named .put ["v1", "notification"] := by
  generalize hst : Sql.Statement.update Notification.table changes id = st at hf
  cases hf with
  | updateNotification => rfl
  | look hk => simpa [← hst, Sql.Statement.isWrite] using hk.isWrite_eq_false
  | attachToNewBusiness _ _ _ hr | attachToBusiness _ _ _ _ _ hr | attachToNewReview _ _ _ hr
  | attachToReview _ _ _ _ _ hr => cases hr <;> simp [Attachment.clear, Attachment.insertion] at hst
  | _ =>
    simp [Notification.table, User.table, Category.table, Business.table, Review.table,
      Report.table, Event.table, Bookmark.table] at hst

theorem Notifications.sender_of_author {c : Caller} {n : Notification}
    {change : Notification.Change} {v : Sql.Value} (hn : c.userType ≠ .admin)
    (ha : requireAuthor c n change = .ok ()) (hv : ("message", v) ∈ change.assignments) :
    n.senderId = some c.userId := by
  have hmessage : change.message.isSome = true := by
    simp only [Notification.Change.assignments, Sql.mem_present] at hv
    cases hm : change.message with
    | none => simp [hm] at hv
    | some m => rfl
  by_contra hs
  simp [requireAuthor, hmessage, isSender, hs, Caller.isAdmin, UserType.isAdmin, hn] at ha

theorem Notifications.rewording_sends {c : Caller} {n : Notification}
    {change : Notification.Change} {path id : Uuid} {changes : List Sql.Assignment} {v : Sql.Value}
    (hn : c.userType ≠ .admin) (hv : ("message", v) ∈ changes) :
    Sends (fun command => command = .run (.update Notification.table changes id) →
      id = path ∧ n.senderId = some c.userId) (do
        ofResult (requireAuthor c n change)
        ofValid change.validate
        let updated ← existing (Notification.update path change)
        ok updated.toJson) := by
  refine .gate_mapError fun _ ha => .gate_mapError fun _ _ => answer_existing ?_
  refine .optional fun heq => ?_
  simp only [Command.run.injEq, Sql.Statement.update.injEq] at heq
  obtain ⟨-, rfl, rfl⟩ := heq
  exact ⟨rfl, sender_of_author hn ha hv⟩

theorem Notifications.reworded_by_sender {i : Incoming} {c : Caller} {t : List Step}
    {o? : Option (Except Stop Http.Response)}
    {changes : List Sql.Assignment} {id : Uuid} {v : Sql.Value} {reply : Reply}
    (hc : i.caller = .ok c) (hn : c.userType ≠ .admin) (ht : (update i).Runs t o?)
    (hx : (.run (.update Notification.table changes id), reply) ∈ exchanges t)
    (hv : ("message", v) ∈ changes) :
    ∃ look n, (.run (.find Notification.table id), look) ∈ exchanges t ∧
      look.bind (firstRow Notification.ofRow) = .ok (some n) ∧ n.senderId = some c.userId := by
  obtain rfl | ⟨d, hd, ht⟩ := runs_gate ht
  · simp at hx
  obtain rfl := Except.ok.inj (hc.symm.trans hd)
  obtain rfl | ⟨path, -, ht⟩ := runs_gate ht
  · simp at hx
  obtain rfl | ⟨change, -, ht⟩ := runs_gate ht
  · simp at hx
  have hlooks : ∀ u o?, (ofParty c path).Runs u o? →
      (.run (.update Notification.table changes id), reply) ∉ exchanges u := by
    intro u o? hu hmem
    obtain ⟨_, hj, -⟩ := ofParty_asks hn u o? hu
    obtain ⟨_, _, hfind⟩ := hj.looks_only _ hmem
    simp at hfind
  rcases runs_bind.mp ht with ⟨u, w, n, rfl, hu, hw⟩ | ⟨stop, he, -⟩ | ⟨hnone, -⟩
  · obtain ⟨look, rfl, hlook⟩ := kept_found hu
    rcases List.mem_append.mp (exchanges_append _ w ▸ hx) with hx | hx
    · exact absurd hx (hlooks _ _ hu)
    · obtain ⟨rfl, hsender⟩ := rewording_sends hn hv w _ hw _ hx rfl
      exact ⟨look, n, by simp, hlook, hsender⟩
  · exact absurd hx (hlooks _ _ he)
  · exact absurd hx (hlooks _ _ hnone)

namespace Server

variable {s : Server} {r : Http.Request} {e : Endpoint}
  {ask : Incoming → Incoming.Reading Question} {name? : Option (List Char)} {t : List Step}
  {v? : Option Http.Response} {c : Caller}

theorem guarded_course (hg : (e, ask) ∈ guarded) (hr : s.Reaches r e name?)
    (ht : (s.handle r).Runs t v?) (hc : caller? t = some c) (hn : c.userType ≠ .admin) :
    ∃ lead course o?, t = lead ++ course ∧ s.Introduces r lead (some c) ∧
      Course c.userId (ask ⟨r, some c, name?⟩) course o? ∧
      v? = o?.map fun o => s.outer r (settle Stop.response o) := by
  obtain ⟨h, hh, hfollows⟩ := guarded_keeps s.policy _ hg
  obtain ⟨lead, course, o?, hsplit, hlead, ho, hv⟩ :=
    hr.run_of_caller hh (guarded_closed _ hg) ht hc
  exact ⟨lead, course, o?, hsplit, hlead, hfollows ⟨r, some c, name?⟩ c rfl hn course o? ho, hv⟩

theorem Introduces.no_writes {lead : List Step} {c? : Option Caller} (h : s.Introduces r lead c?) :
    ∀ x ∈ exchanges lead, isWrite x.1 = false := by
  intro x hx
  obtain ⟨_, _, hlook⟩ := h.sends x hx
  rw [hlook]
  rfl

theorem Introduces.unique {lead lead' rest rest' : List Step} {d : Caller}
    (h : s.Introduces r lead (some c)) (h' : s.Introduces r lead' (some d))
    (ht : lead ++ rest = lead' ++ rest') : rest = rest' := by
  cases h
  cases h'
  simp only [List.cons_append, List.nil_append, List.cons.injEq] at ht
  exact ht.2.2

section

variable (hg : (e, ask) ∈ guarded) (hr : s.Reaches r e name?) (ht : (s.handle r).Runs t v?)
  (hc : caller? t = some c) (hn : c.userType ≠ .admin)

include hg hr ht hc hn

theorem writes_own {x : Exchange} (hx : x ∈ exchanges t) (hw : isWrite x.1 = true) :
    ∃ lead looks rest q, t = lead ++ (looks ++ rest) ∧ s.Introduces r lead (some c) ∧
      ask ⟨r, some c, name?⟩ = .ok q ∧ Judged c.userId q looks .owned ∧ x ∈ exchanges rest := by
  obtain ⟨lead, course, o?, rfl, hlead, hcourse, -⟩ := guarded_course hg hr ht hc hn
  rcases List.mem_append.mp (exchanges_append lead course ▸ hx) with hx | hx
  · simp [hlead.no_writes x hx] at hw
  · cases hcourse with
    | unreadable | stopped => simp at hx
    | refused _ hj => simp [Judged.no_writes hj x hx] at hw
    | @granted q looks rest _ hq hj =>
      rcases List.mem_append.mp (exchanges_append looks rest ▸ hx) with hx | hx
      · simp [Judged.no_writes hj x hx] at hw
      · exact ⟨lead, looks, rest, q, rfl, hlead, hq, hj, hx⟩

theorem refusals {lead looks rest : List Step} {q : Question} {verdict : Verdict}
    (hsplit : t = lead ++ (looks ++ rest)) (hlead : s.Introduces r lead (some c))
    (hq : ask ⟨r, some c, name?⟩ = .ok q) (hj : Judged c.userId q looks verdict)
    (hv : verdict ≠ .owned) :
    (∀ x ∈ exchanges t, isWrite x.1 = false) ∧
      ((∃ o?, verdict.Ends o? ∧ v? = o?.map fun o => s.outer r (settle Stop.response o)) ∨
        (looks = [] ∧ verdict = .foreign ∧
          ∃ response, v? = some response ∧ response.status ∈ unreadableStatuses)) := by
  obtain ⟨lead', course, o?, hsplit', hlead', hcourse, rfl⟩ := guarded_course hg hr ht hc hn
  -- The course begins with these looks, which leaves it no end but the verdict's.
  have hrest : looks ++ rest = course := hlead.unique hlead' (hsplit.symm.trans hsplit')
  rw [hsplit]
  cases hcourse with
  | unreadable hs =>
    obtain ⟨rfl, rfl⟩ := List.append_eq_nil_iff.mp hrest
    have hforeign : verdict = .foreign := by
      cases hj with
      | self => exact absurd rfl hv
      | other => rfl
    exact ⟨no_writes_append hlead.no_writes (by simp),
      .inr ⟨rfl, hforeign, _, rfl, (outer_status _).symm ▸ hs⟩⟩
  | stopped hrow =>
    obtain ⟨rfl, rfl⟩ := List.append_eq_nil_iff.mp hrest
    cases hj with
    | self | other => exact absurd hq (hrow _)
  | refused hq' hj' _ ho =>
    obtain rfl := Except.ok.inj (hq.symm.trans hq')
    obtain ⟨rfl, rfl, rfl⟩ := hj.unique hj' (hrest.trans (List.append_nil _).symm)
    rw [List.append_nil]
    exact ⟨no_writes_append hlead.no_writes (Judged.no_writes hj), .inl ⟨_, ho, rfl⟩⟩
  | granted hq' hj' =>
    obtain rfl := Except.ok.inj (hq.symm.trans hq')
    exact absurd (hj.unique hj' hrest).2.2 hv

theorem reworded {changes : List Sql.Assignment} {id : Uuid} {v : Sql.Value} {reply : Reply}
    (hx : (.run (.update Notification.table changes id), reply) ∈ exchanges t)
    (hv : ("message", v) ∈ changes) :
    ∃ look n, (.run (.find Notification.table id), look) ∈ exchanges t ∧
      look.bind (firstRow Notification.ofRow) = .ok (some n) ∧ n.senderId = some c.userId := by
  rcases sent_cases ht hx with ⟨_, _, hlook⟩ | ⟨e', name', c?, hr', hsent, -⟩
  · simp at hlook
  · obtain rfl := hr.endpoint_unique hr'
    obtain rfl := Footprint.updates_notification hsent
    have hh : (Endpoint.named .put ["v1", "notification"], Notifications.update) ∈
        endpoints s.policy := by
      simp [endpoints, Route.endpoints, routes, path, named, Endpoint.named]
    obtain ⟨lead, rest, o?, rfl, hlead, ho, -⟩ := hr.run_of_caller hh (guarded_closed _ hg) ht hc
    rw [exchanges_append] at hx ⊢
    rcases List.mem_append.mp hx with hx | hx
    · obtain ⟨_, _, hlook⟩ := hlead.sends _ hx
      simp at hlook
    · obtain ⟨look, n, hmem, hlook, hsender⟩ := Notifications.reworded_by_sender rfl hn ho hx hv
      exact ⟨look, n, List.mem_append_right _ hmem, hlook, hsender⟩

end

theorem ownership_before_writes (hg : (e, ask) ∈ guarded) (hr : s.Reaches r e name?)
    (ht : (s.handle r).Runs t v?) (hc : caller? t = some c) (hn : c.userType ≠ .admin) :
    (∀ x ∈ exchanges t, isWrite x.1 = true →
      ∃ lead looks rest q, t = lead ++ (looks ++ rest) ∧ s.Introduces r lead (some c) ∧
        ask ⟨r, some c, name?⟩ = .ok q ∧ Judged c.userId q looks .owned ∧ x ∈ exchanges rest) ∧
    (∀ lead looks rest q verdict, t = lead ++ (looks ++ rest) → s.Introduces r lead (some c) →
      ask ⟨r, some c, name?⟩ = .ok q → Judged c.userId q looks verdict →
      (verdict = .foreign → (∀ x ∈ exchanges t, isWrite x.1 = false) ∧
        ∃ response, v? = some response ∧ (response.status = 403 ∨
          looks = [] ∧ response.status ∈ unreadableStatuses)) ∧
      (verdict = .absent → (∀ x ∈ exchanges t, isWrite x.1 = false) ∧
        ∃ response, v? = some response ∧ response.status = 404)) ∧
    ∀ changes id v reply, (.run (.update Notification.table changes id), reply) ∈ exchanges t →
      ("message", v) ∈ changes →
      ∃ look n, (.run (.find Notification.table id), look) ∈ exchanges t ∧
        look.bind (firstRow Notification.ofRow) = .ok (some n) ∧ n.senderId = some c.userId := by
  refine ⟨fun x => writes_own hg hr ht hc hn, ?_, ?_⟩
  · intro lead looks rest q verdict hsplit hlead hq hj
    have refusal := refusals hg hr ht hc hn hsplit hlead hq hj
    constructor
    · rintro rfl
      obtain ⟨hwrites, ⟨_, ⟨why, rfl⟩, rfl⟩ | ⟨hlooks, -, response, hv, hs⟩⟩ := refusal (by simp)
      · exact ⟨hwrites, _, rfl, .inl (outer_status _)⟩
      · exact ⟨hwrites, response, hv, .inr ⟨hlooks, hs⟩⟩
    · rintro rfl
      obtain ⟨hwrites, ⟨_, rfl, rfl⟩ | ⟨-, hv, -⟩⟩ := refusal (by simp)
      · exact ⟨hwrites, _, rfl, outer_status _⟩
      · simp at hv
  · intro changes id v reply hx hv
    exact reworded hg hr ht hc hn hx hv

def dropping : Http.Request :=
  carrying [] visitorClaims ⟨.delete, "/v1/bookmark/00000000-0000-0000-0000-000000000000", [], ""⟩

def droppedName : List Char := "00000000-0000-0000-0000-000000000000".toList

theorem dropping_reaches (s : Server) :
    s.Reaches dropping (.named .delete ["v1", "bookmark"]) (some droppedName) := by
  have hs : (Http.Target.ofString dropping.target).segments? =
      some ["v1".toList, "bookmark".toList, droppedName] := by decide +kernel
  have hname : droppedName.isEmpty = false ∧ droppedName ≠ ['l', 'i', 's', 't'] := by
    decide +kernel
  have hf : findRoute (routes s.policy) ["v1".toList, "bookmark".toList, droppedName] =
      some (named ["v1", "bookmark"] []
        [(.get, Bookmarks.get), (.put, Bookmarks.update), (.delete, Bookmarks.delete)],
        some droppedName) := by
    simp [findRoute, routes, path, named, Route.matchSegments, hname]
  exact reaches_of_segments hs hf rfl

def bookmarked : Scripted where
  unreachable? := none
  beginFails? := none
  commitFails? := none
  replies := [.ok ⟨[[("id", .uuid .nil), ("user_id", .uuid .nil), ("business_id", .uuid .nil),
    ("created_at", .timestamp ⟨0, 0⟩), ("updated_at", .timestamp ⟨0, 0⟩)]], 1⟩, .ok ⟨[], 1⟩]
  ids := fun _ => .nil
  drawn := 0
  salt := Vector.replicate 16 0
  now := ⟨0, 0⟩

def droppingRun : List Step :=
  Program.traceOn
    (ExceptT.run (Bookmarks.delete ⟨dropping, some (visitor .user), some droppedName⟩)) bookmarked

theorem droppingRun_writes : ∃ x ∈ exchanges droppingRun, isWrite x.1 = true := by
  decide +kernel

theorem drops_own :
    (∃ x ∈ exchanges droppingRun, isWrite x.1 = true) ∧
      ∀ x ∈ exchanges (visitorLead .user ++ droppingRun), isWrite x.1 = true →
        ∃ lead looks rest q, visitorLead .user ++ droppingRun = lead ++ (looks ++ rest) ∧
          Introduces ⟨⟨[], 0⟩, .anyone, 30⟩ dropping lead (some (visitor .user)) ∧
          byName (.row .bookmark) ⟨dropping, some (visitor .user), some droppedName⟩ = .ok q ∧
          Judged .nil q looks .owned ∧ x ∈ exchanges rest := by
  have hg : (Endpoint.named .delete ["v1", "bookmark"], byName (.row .bookmark)) ∈ guarded := by
    simp [guarded]
  have hh : (Endpoint.named .delete ["v1", "bookmark"], Bookmarks.delete) ∈
      endpoints ⟨[], 0⟩ := by
    simp [endpoints, Route.endpoints, routes, path, named, Endpoint.named]
  have hr := dropping_reaches ⟨⟨[], 0⟩, .anyone, 30⟩
  have hlead : Introduces ⟨⟨[], 0⟩, .anyone, 30⟩ dropping (visitorLead .user) (some (visitor .user)) :=
    introduces_visitor ..
  have ht := hr.runs_of_caller hh hlead (Program.runs_traceOn _ bookmarked)
  exact ⟨droppingRun_writes, (ownership_before_writes hg hr ht hlead.caller? (by decide)).1⟩

end Server

end CityGuide.Api
