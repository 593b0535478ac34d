import CityGuide.Proofs.Api.Escalation
import CityGuide.Proofs.Operator.Tasks
import CityGuide.Proofs.Sql.Numbering

namespace CityGuide

open Store Sql Sql.Statement

theorem AttachmentOwner.neutral_aggregate {a : String} (h : Neutral a) : Neutral (aggregate a) := by
  have hid : Neutral ("COALESCE(JSON_AGG(JSON_BUILD_OBJECT('id', " ++ a ++ ".id, 'filepath', ") :=
    .append (.append (by decide) h) (by decide)
  have hfile := (hid.append h).append (by decide : Neutral ".filepath, 'content_type', ")
  have htype := (hfile.append h).append (by decide : Neutral ".content_type, 'created_at', ")
  have htime := (htype.append h).append (by decide : Neutral ".created_at) ORDER BY ")
  have horder := (htime.append h).append (by decide : Neutral ".created_at) FILTER (WHERE ")
  exact (horder.append h).append (by decide)

theorem AttachmentOwner.plain_detailed (owner : AttachmentOwner) (source : Listing.Source)
    {name : String} (h : Neutral name) : ∀ f ∈ (owner.detailed source name).fields, f.Plain := by
  simpa [AttachmentOwner.detailed, Listing.Source.select, Field.Plain] using neutral_aggregate h

theorem Listing.plain_of_mem {source : Source} {base : Select} (h : (source, base) ∈ catalogue) :
    ∀ f ∈ base.fields, f.Plain := by
  simp only [catalogue, List.mem_cons, Prod.mk.injEq, List.not_mem_nil, or_false] at h
  rcases h with ⟨-, rfl⟩ | ⟨-, rfl⟩ | ⟨-, rfl⟩ | ⟨-, rfl⟩ | ⟨-, rfl⟩ | ⟨-, rfl⟩ | ⟨-, rfl⟩ |
    ⟨-, rfl⟩ | ⟨-, rfl⟩ | ⟨-, rfl⟩ | ⟨-, rfl⟩
  case inr.inr.inl => exact AttachmentOwner.plain_detailed _ _ (by decide)
  case inr.inr.inr.inl => exact AttachmentOwner.plain_detailed _ _ (by decide)
  all_goals simp [Source.select, Field.Plain, Participant.fields, Follower.fields]

theorem Attachment.Replacing.plain {owner : AttachmentOwner} {id : Uuid}
    {inputs : List Attachment.Input} {st : Statement} (h : Replacing owner id inputs st) :
    st.Plain := by
  cases h with
  | clear => exact plain_delete_quoted
  | insertion => trivial

theorem User.Draft.plain_row (d : Draft) {id : Uuid} {passwordHash : String} :
    (insert table (d.row id passwordHash) .returning).Plain := by
  simp only [Plain, row, List.map_cons, List.map_nil]
  decide

namespace Api

theorem Lookup.plain {st : Statement} (h : Lookup st) : st.Plain := by
  have hnames : ∀ name ∈ Schema.scripts.flatten.map TablePlan.name, Neutral name := by
    decide +kernel
  cases h with
  | row ht => exact hnames _ ht
  | address | probe => trivial
  | business =>
    have hs : (Business.source, Business.detailed) ∈ Listing.catalogue := by
      simp [Listing.catalogue]
    have hf := Listing.plain_of_mem hs
    exact hf
  | review =>
    have hs : (Review.source, Review.detailed) ∈ Listing.catalogue := by
      simp [Listing.catalogue]
    have hf := Listing.plain_of_mem hs
    exact hf
  | page hs hc =>
    obtain ⟨p, order, -, -, rfl⟩ := Listing.Source.compile_eq_ok.mp hc
    have hf := Listing.plain_of_mem hs
    exact hf
  | count hs hc =>
    obtain ⟨p, order, -, -, rfl⟩ := Listing.Source.compile_eq_ok.mp hc
    simp [Plain, Listing.Source.countOf, Listing.Source.select, Field.Plain]

theorem Footprint.plain {i : Incoming} {e : Endpoint} {st : Statement} (hf : Footprint i e st) :
    st.Plain := by
  cases hf with
  | look hk => exact hk.plain
  | attachToNewBusiness _ _ _ hr | attachToBusiness _ _ _ _ _ hr | attachToNewReview _ _ _ hr
  | attachToReview _ _ _ _ _ hr => exact hr.plain
  | updateSelf | updateUser | updateCategory | updateBusiness | updateReview | updateReport
  | updateNotification | updateEvent | updateBookmark | markNotifications => trivial
  | deleteUser | deleteCategory | deleteBusiness | deleteReview | deleteReport | deleteNotification
  | deleteEvent | deleteBookmark | deletePromotion =>
    exact plain_delete_quoted
  | logout | revokeSelf | revokeUser | leave | unfollow =>
    simp only [Plain, Naming.write, Participant.keys, Follower.keys, List.map_cons, List.map_nil]
    decide
  | register | createUser => exact User.Draft.plain_row _
  | login | createCategory | createBusiness | createReview | createReport
  | createNotification | createEvent | join | createBookmark | createPromotion | follow =>
    simp only [Plain, Session.row, Category.Draft.row, Business.Draft.row,
      Review.Draft.row, Report.Draft.row, Notification.Draft.row, Event.Draft.row,
      Bookmark.Draft.row, Promotion.Draft.row, Participant.keys, Follower.keys, List.map_cons,
      List.map_nil]
    decide

end Api

inductive Sql.Statement.Run (st : Statement) : Prop
  | request {s : Api.Server} {r : Http.Request} {t : List Step} {v? : Option Http.Response}
      {reply : Reply} (ht : (s.handle r).Runs t v?) (hx : (.run st, reply) ∈ exchanges t)
  | command {env : Config.Environment} {args : List String} {t : List Step}
      {v? : Option Operator.Outcome} {reply : Reply} (ht : (Operator.call env args).Runs t v?)
      (hx : (.run st, reply) ∈ exchanges t)

theorem Sql.Statement.Run.plain {st : Statement} (h : st.Run) : st.Plain := by
  cases h with
  | request ht hx =>
    rcases Api.Server.sent_cases ht hx with ⟨_, _, hl⟩ | ⟨e, name?, c?, -, hsent, -⟩
    · obtain rfl := Command.run.inj hl
      trivial
    · exact Api.Footprint.plain hsent
  | command ht hx =>
    cases Operator.issued ht hx with
    | purge => trivial
    | account r id salt => exact User.Draft.plain_row _

theorem placeholders_are_bound {st : Statement} (h : st.Run) (k : Nat) :
    k ∈ st.prepared.placeholders ↔ 1 ≤ k ∧ k ≤ st.prepared.values.length :=
  wellBound_of_plain h.plain k

namespace Api.Server

def marking : Http.Request :=
  carrying [] visitorClaims
    ⟨.put, "/v1/notification/update-status", [("content-type", "application/json")],
      "\x7b\"status\":\"read\"\x7d"⟩

theorem marking_body :
    (⟨marking, some (visitor .user), none⟩ : Incoming).body Notification.Mark.decode =
      .ok ⟨.read, none⟩ := Token.eq_ok_of_toOption (by decide +kernel)

theorem marking_reaches (s : Server) :
    s.Reaches marking (.fixed .put ["v1", "notification", "update-status"]) none := by
  have hs : (Http.Target.ofString marking.target).segments? =
      some ["v1".toList, "notification".toList, "update-status".toList] := by decide +kernel
  have hf : findRoute (routes s.policy)
      ["v1".toList, "notification".toList, "update-status".toList] =
      some (path ["v1", "notification", "update-status"] [(.put, Notifications.mark)], none) := by
    simp [findRoute, routes, path, named, Route.matchSegments]
  exact reaches_of_segments hs hf rfl

theorem marking_run : (markNotifications "read" .nil none).Run := by
  have hh : (Endpoint.fixed .put ["v1", "notification", "update-status"], Notifications.mark) ∈
      endpoints ⟨[], 0⟩ := by
    simp [endpoints, Route.endpoints, routes, path, named, Endpoint.fixed]
  have hlead : Introduces ⟨⟨[], 0⟩, .anyone, 30⟩ marking (visitorLead .user)
      (some (visitor .user)) := introduces_visitor ..
  have hmarks : (Notifications.mark ⟨marking, some (visitor .user), none⟩).Runs
      [.asked (.run (markNotifications "read" .nil none)) (.ok ⟨[], 2⟩)]
      (some (.ok (.json 200 (.record [("updated", .int 2)])))) := by
    rw [Notifications.mark, marking_body]
    exact .send (.done _)
  have ht := (marking_reaches ⟨⟨[], 0⟩, .anyone, 30⟩).runs_of_caller hh hlead hmarks
  exact .request ht (.tail _ (.head _))

theorem marking_placeholders :
    3 ∈ (markNotifications "read" .nil none).prepared.placeholders ∧
      4 ∉ (markNotifications "read" .nil none).prepared.placeholders := by
  constructor
  · exact (placeholders_are_bound marking_run 3).mpr (by decide)
  · exact fun h => absurd ((placeholders_are_bound marking_run 4).mp h) (by decide)

end Api.Server

end CityGuide
