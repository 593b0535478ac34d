import CityGuide.Proofs.Api.Escalation
import CityGuide.Proofs.Sql.Bound

namespace CityGuide

open Store

def memberColumns : List (String × String) :=
  [(Participant.table, "user_id"), (Follower.table, "follower_id")]

def actorColumns : List (String × String) :=
  [(Business.table, "owner_id"), (Review.table, "user_id"), (Report.table, "user_id"),
    (Bookmark.table, "user_id"), (Promotion.table, "user_id"),
    (Notification.table, "sender_id")] ++ memberColumns

inductive Sql.Statement.ActsAt : Sql.Statement → String → Prop
  | insert {table column : String} {row : List Assignment} {ending : Ending}
      (h : actorColumns.lookup table = some column) : ActsAt (.insert table row ending) column
  | insertAll {table column : String} {columns : List String} {rows : List (List Value)}
      (h : actorColumns.lookup table = some column) :
      ActsAt (.insertAll table columns rows) column
  | delete {naming : Naming} {table column : String} {keys : List Assignment}
      (h : memberColumns.lookup table = some column) : ActsAt (.delete naming table keys) column
  | mark {status : String} {user : Uuid} {ids : Option (List Uuid)} :
      ActsAt (.markNotifications status user ids) "user_id"

theorem Attachment.Replacing.not_actsAt {owner : AttachmentOwner} {ownerId : Uuid}
    {inputs : List Input} {st : Sql.Statement} {column : String}
    (hr : Replacing owner ownerId inputs st) : ¬st.ActsAt column := by
  intro ha
  cases hr with
  | clear => cases ha with | delete h => cases owner <;> cases h
  | insertion => cases ha with | insertAll h => cases owner <;> cases h

namespace Api

theorem Businesses.ownerFor_eq {c : Caller} (hn : c.userType ≠ .admin) (d : Business.Draft) :
    ownerFor c d = c.userId := by
  cases ho : d.ownerId <;> simp [ownerFor, ho, Caller.isAdmin, UserType.isAdmin, hn]

theorem Events.participant_eq {c : Caller} {requested : Option Uuid} {userId : Uuid}
    (hn : c.userType ≠ .admin) (h : participant c requested = .ok userId) : userId = c.userId := by
  cases requested with
  | none => exact (Except.ok.inj h).symm
  | some other =>
    by_cases ho : other = c.userId
    · simpa [participant, ho, eq_comm] using h
    · simp [participant, ho, Caller.isAdmin, UserType.isAdmin, hn] at h

theorem Footprint.boundAt_of_actsAt {i : Incoming} {e : Endpoint} {st : Sql.Statement}
    {column : String} (hf : Footprint i e st)
    (hn : ∀ c, i.caller? = some c → c.userType ≠ .admin) (ha : st.ActsAt column) :
    ∃ c, i.caller? = some c ∧ st.boundAt column = [.uuid c.userId] := by
  cases hf with
  | look hk =>
    have hl := hk.isWrite_eq_false
    cases ha <;> simp [Sql.Statement.isWrite] at hl
  | createBusiness hc =>
    have hc := Incoming.caller_eq_ok.mp hc
    rw [Businesses.ownerFor_eq (hn _ hc)]
    cases ha with | insert h => cases h; exact ⟨_, hc, Sql.Statement.boundAt_insert ..⟩
  | join hc _ _ hu =>
    have hc := Incoming.caller_eq_ok.mp hc
    obtain rfl := Events.participant_eq (hn _ hc) hu
    cases ha with | insert h => cases h; exact ⟨_, hc, Sql.Statement.boundAt_insert ..⟩
  | leave hc _ hu =>
    have hc := Incoming.caller_eq_ok.mp hc
    obtain rfl := Events.participant_eq (hn _ hc) hu
    cases ha with | delete h => cases h; exact ⟨_, hc, Sql.Statement.boundAt_delete ..⟩
  | createReview hc | createReport hc | createBookmark hc | createPromotion hc
  | createNotification hc | follow hc =>
    have hc := Incoming.caller_eq_ok.mp hc
    cases ha with | insert h => cases h; exact ⟨_, hc, Sql.Statement.boundAt_insert ..⟩
  | unfollow hc =>
    have hc := Incoming.caller_eq_ok.mp hc
    cases ha with | delete h => cases h; exact ⟨_, hc, Sql.Statement.boundAt_delete ..⟩
  | markNotifications hc =>
    have hc := Incoming.caller_eq_ok.mp hc
    cases ha with | mark => exact ⟨_, hc, Sql.Statement.boundAt_mark ..⟩
  | attachToNewBusiness _ _ _ hr | attachToBusiness _ _ _ _ _ hr | attachToNewReview _ _ _ hr
  | attachToReview _ _ _ _ _ hr => exact absurd ha hr.not_actsAt
  -- The other insertions and deletions are in tables that keep nobody.
  | register | login | createUser | createCategory | createEvent =>
    cases ha with | insert h => cases h
  | logout | revokeSelf | revokeUser | deleteUser | deleteCategory | deleteBusiness | deleteReview
  | deleteReport | deleteNotification | deleteEvent | deleteBookmark | deletePromotion =>
    cases ha with | delete h => cases h
  | updateSelf | updateUser | updateCategory | updateBusiness | updateReview | updateReport
  | updateNotification | updateEvent | updateBookmark => cases ha

theorem prepared_logout (sessionId : Uuid) :
    (Sql.Statement.delete .plain Session.table [("id", .uuid sessionId)]).prepared =
      ⟨"DELETE FROM sessions WHERE id = $1", [.uuid sessionId]⟩ := by
  have hsql : "DELETE FROM " ++ Session.table ++ " WHERE " ++ " AND ".intercalate
      (["id"].zipWith (fun column mark => column ++ " = " ++ mark) (Sql.Part.marks 0 1)) =
      "DELETE FROM sessions WHERE id = $1" := by decide +kernel
  rw [Sql.Statement.prepared_delete, ← hsql]
  rfl

theorem Footprint.logs_out {i : Incoming} {st : Sql.Statement} {e : Endpoint}
    (he : e = .fixed .post ["v1", "auth", "logout"]) (hf : Footprint i e st)
    (hw : st.isWrite = true) :
    ∃ c, i.caller? = some c ∧
      st.prepared = ⟨"DELETE FROM sessions WHERE id = $1", [.uuid c.sessionId]⟩ := by
  cases hf with
  | logout hc => exact ⟨_, Incoming.caller_eq_ok.mp hc, prepared_logout _⟩
  | look hk =>
    rw [hk.isWrite_eq_false] at hw
    contradiction
  | _ => simp [Endpoint.fixed, Endpoint.named] at he

namespace Server

variable {s : Server} {r : Http.Request} {t : List Step} {v? : Option Http.Response}

theorem acts_as_caller {c : Caller} (ht : (s.handle r).Runs t v?) (hc : caller? t = some c) :
    (c.userType ≠ .admin → ∀ x ∈ exchanges t, (∀ sql, x.1 ≠ .script sql) ∧
        ∀ st column, x.1 = .run st → st.ActsAt column →
          st.boundAt column = [.uuid c.userId]) ∧
      ∀ name?, s.Reaches r (.fixed .post ["v1", "auth", "logout"]) name? →
        ∀ st reply, (.run st, reply) ∈ exchanges t → st.isWrite = true →
          st.prepared = ⟨"DELETE FROM sessions WHERE id = $1", [.uuid c.sessionId]⟩ := by
  have hcaller : ∀ c?, (∀ c', c? = some c' → s.Vouches r t c') → ∀ c', c? = some c' → c' = c :=
    fun c? hv c' h => Option.some.inj ((hv c' h).caller?.symm.trans hc)
  constructor
  · intro hn x hx
    rcases sent_cases ht hx with ⟨_, _, hl⟩ | ⟨e, name?, c?, -, hsent, hv⟩
    · rw [hl]
      refine ⟨nofun, ?_⟩
      rintro st column ⟨⟩ ⟨⟩
    · obtain ⟨command, reply⟩ := x
      refine ⟨by rintro sql rfl; exact hsent, ?_⟩
      rintro st column rfl ha
      obtain ⟨c', hc', hbound⟩ := Footprint.boundAt_of_actsAt hsent
        (fun c' h => by rw [hcaller c? hv c' h]; exact hn) ha
      rwa [hcaller c? hv c' hc'] at hbound
  · intro name? hr st reply hx hw
    rcases sent_cases ht hx with ⟨_, _, hl⟩ | ⟨e, _, c?, hr', hsent, hv⟩
    · cases hl
      contradiction
    · obtain rfl := hr.endpoint_unique hr'
      obtain ⟨c', hc', hprepared⟩ := Footprint.logs_out rfl hsent hw
      rwa [hcaller c? hv c' hc'] at hprepared

def opening : Http.Request :=
  carrying [] visitorClaims
    ⟨.post, "/v1/business", [("content-type", "application/json")],
      "\x7b\"name\":\"Shop\",\"category_id\":\"22222222-2222-2222-2222-222222222222\"," ++
        "\"owner_id\":\"11111111-1111-1111-1111-111111111111\"\x7d"⟩

theorem opening_body :
    ∃ d, (⟨opening, none, none⟩ : Incoming).body Business.Draft.decode = .ok d ∧
      d.ownerId = some removedId ∧ d.validate = .ok () := by
  have hread : (((⟨opening, none, none⟩ : Incoming).body Business.Draft.decode).toOption.map
      fun d => (d.ownerId, d.validate.toOption)) = some (some removedId, some ()) := by
    decide +kernel
  obtain ⟨d, hd, hfields⟩ := Option.map_eq_some_iff.mp hread
  obtain ⟨howner, hvalid⟩ := Prod.mk.inj hfields
  exact ⟨d, Token.eq_ok_of_toOption hd, howner, Token.eq_ok_of_toOption hvalid⟩

theorem opening_reaches (s : Server) :
    s.Reaches opening (.fixed .post ["v1", "business"]) none := by
  have hs : (Http.Target.ofString opening.target).segments? =
      some ["v1".toList, "business".toList] := by decide +kernel
  have hf : findRoute (routes s.policy) ["v1".toList, "business".toList] =
      some (path ["v1", "business"] [(.post, Businesses.create)], none) := by
    simp [findRoute, routes, path, named, Route.matchSegments]
  exact reaches_of_segments hs hf rfl

def openingRun : List Step :=
  visitorLead .business ++
    Program.traceOn (ExceptT.run (Businesses.create ⟨opening, some (visitor .business), none⟩))
      (.offline "")

theorem opening_for_self :
    ∃ d st reply, (⟨opening, none, none⟩ : Incoming).body Business.Draft.decode = .ok d ∧
      d.ownerId = some removedId ∧ (.run st, reply) ∈ exchanges openingRun ∧
      st.boundAt "owner_id" = [.uuid .nil] := by
  obtain ⟨d, hb, howner, hvalid⟩ := opening_body
  have hh : (Endpoint.fixed .post ["v1", "business"], Businesses.create) ∈ endpoints ⟨[], 0⟩ := by
    simp [endpoints, Route.endpoints, routes, path, named, Endpoint.fixed]
  have hr := opening_reaches ⟨⟨[], 0⟩, .anyone, 30⟩
  have hlead : Introduces ⟨⟨[], 0⟩, .anyone, 30⟩ opening (visitorLead .business)
      (some (visitor .business)) := introduces_visitor ..
  have ht := hr.runs_of_caller hh hlead (Program.runs_traceOn _ (.offline ""))
  have hcreate : Businesses.create ⟨opening, some (visitor .business), none⟩ =
      (do
        let details ← Handling.ofStore (Business.create .nil d)
        created details.toJson) := by
    have hread : (⟨opening, some (visitor .business), none⟩ : Incoming).body
        Business.Draft.decode = .ok d := hb
    rw [Businesses.create, hread]
    change (do
      Handling.ofValid d.validate
      let details ← Handling.ofStore
        (Business.create (Businesses.ownerFor (visitor .business) d) d)
      created details.toJson) = _
    rw [hvalid, Businesses.ownerFor_eq (by decide)]
    rfl
  have hsent : (.run (.insert Business.table (d.row .nil .nil) .nothing), .error exhausted) ∈
      exchanges openingRun := by
    rw [openingRun, hcreate]
    exact .tail _ (.tail _ (.head _))
  have hacts : (Sql.Statement.insert Business.table (d.row .nil .nil) .nothing).ActsAt
      "owner_id" := .insert rfl
  exact ⟨d, _, _, hb, howner, hsent,
    ((acts_as_caller ht hlead.caller?).1 (by decide) _ hsent).2 _ _ rfl hacts⟩

end Server

end Api

end CityGuide
