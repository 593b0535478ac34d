import CityGuide.Proofs.Api.Rewordings
import CityGuide.Proofs.Store.Checks

namespace CityGuide

open Store Store.Action

namespace Promotion.Draft

variable {d : Draft} {id userId : Uuid} {row : Row}

theorem validate_eq_ok : d.validate = .ok () ↔ requireText "title" d.title = .ok () ∧
    (0 ≤ d.discountPercentage ∧ d.discountPercentage ≤ 100) ∧ d.startedAt < d.expiresAt := by
  simp only [validate, bind_valid, requireThat_eq_ok, Bool.and_eq_true, decide_eq_true_eq]

theorem startedAt_cell (h : row.Holds (d.row id userId)) :
    row.cell? "started_at" = some (.timestamp d.startedAt.stored) :=
  h ("started_at", .timestamp d.startedAt) (by simp [Draft.row])

theorem expiresAt_cell (h : row.Holds (d.row id userId)) :
    row.cell? "expires_at" = some (.timestamp d.expiresAt.stored) :=
  h ("expires_at", .timestamp d.expiresAt) (by simp [Draft.row])

theorem discount_cell (h : row.Holds (d.row id userId)) :
    row.cell? "discount_percentage" = some (.int4 d.discountPercentage) :=
  h ("discount_percentage", .int4 d.discountPercentage) (by simp [Draft.row])

theorem discount_admitted (hv : d.validate = .ok ()) (h : row.Holds (d.row id userId)) :
    (Check.between "discount_percentage" 0 100).Admits row :=
  (Check.admits_between (discount_cell h)).mpr (validate_eq_ok.mp hv).2.1

theorem term_admitted_iff (h : row.Holds (d.row id userId)) :
    (Check.after "expires_at" "started_at").Admits row ↔ d.startedAt.TicksBefore d.expiresAt := by
  rw [Check.admits_after (expiresAt_cell h) (startedAt_cell h), Time.Instant.stored_lt_stored_iff]

theorem admitted_iff (hv : d.validate = .ok ()) (h : row.Holds (d.row id userId)) :
    Schema.promotions.Admits row ↔ d.startedAt.TicksBefore d.expiresAt := by
  rw [TablePlan.Admits, Schema.promotions_checks, List.forall_mem_cons, List.forall_mem_singleton,
    and_iff_right (discount_admitted hv h), term_admitted_iff h]

end Promotion.Draft

namespace Api

open Handling

theorem Footprint.inserts_promotion {i : Incoming} {e : Endpoint} {st : Sql.Statement}
    {assigned : List Sql.Assignment} {ending : Sql.Ending} (hf : Footprint i e st)
    (hst : st = .insert Promotion.table assigned ending) :
    ∃ c d id, i.caller = .ok c ∧ i.body Promotion.Draft.decode = .ok d ∧ d.validate = .ok () ∧
      assigned = d.row id c.userId := by
  cases hf with
  | look hk => simpa [hst, Sql.Statement.isWrite] using hk.isWrite_eq_false
  | @createPromotion c d id hc hb _ hv =>
    exact ⟨c, d, id, hc, hb, hv, (Sql.Statement.insert.inj hst).2.1.symm⟩
  | register | login | createUser | createCategory | createBusiness | createReview | createReport
  | createNotification | createEvent | join | createBookmark | follow =>
    exact absurd (Sql.Statement.insert.inj hst).1 (by decide)
  | attachToNewBusiness _ _ _ hr | attachToBusiness _ _ _ _ _ hr | attachToNewReview _ _ _ hr
  | attachToReview _ _ _ _ _ hr =>
    subst hst
    cases hr
  | _ => simp at hst

theorem Promotions.create_runs {i : Incoming} {c : Caller} {d : Promotion.Draft} {shop : Row}
    {business : Business} (id : Uuid) (reply : Reply) (hc : i.caller = .ok c)
    (hb : i.body Promotion.Draft.decode = .ok d) (hp : c.require .managePromotions = .ok ())
    (hv : d.validate = .ok ()) (hshop : Business.ofRow shop = some business)
    (ho : c.requireOwner business.ownerId = .ok ()) :
    (Promotions.create i).Runs
      [.asked (.run (.find Business.table d.businessId)) (single shop), .drewId id,
        .asked (.run (.insert Promotion.table (d.row id c.userId) .returning)) reply]
      (some ((stored Promotion.ofRow reply).map fun p => .json 201 p.toJson)) := by
  have hlook : (existing (Business.find d.businessId)).Runs
      [.asked (.run (.find Business.table d.businessId)) (single shop)]
      (some (.ok business)) := runs_existing.mpr ⟨_, runs_single shop hshop, rfl⟩
  simp only [create, read, hc, hb, ofResult, hp, ofValid, hv, Except.mapError, ofExcept_ok_bind]
  refine runs_bind.mpr (.inl ⟨_, _, business, rfl, hlook, ?_⟩)
  simp only [ho, ofExcept_ok_bind]
  exact runs_bind_ofExcept.mpr ⟨_, runs_stored id reply, rfl⟩

namespace Server

variable {s : Server} {r : Http.Request} {t : List Step} {v? : Option Http.Response}

theorem promotion_admitted_iff {assigned : List Sql.Assignment} {ending : Sql.Ending}
    {reply : Reply} (ht : (s.handle r).Runs t v?)
    (hx : (.run (.insert Promotion.table assigned ending), reply) ∈ exchanges t) :
    ∃ d : Promotion.Draft, (⟨r, none, none⟩ : Incoming).body Promotion.Draft.decode = .ok d ∧
      d.validate = .ok () ∧ ∀ row : Row, row.Holds assigned →
        (Check.between "discount_percentage" 0 100).Admits row ∧
        (Schema.promotions.Admits row ↔ d.startedAt.TicksBefore d.expiresAt) ∧
        (d.startedAt.stored = d.startedAt → d.expiresAt.stored = d.expiresAt →
          Schema.promotions.Admits row) := by
  rcases sent_cases ht hx with ⟨_, _, hl⟩ | ⟨e, name?, c?, -, hsent, -⟩
  · simp at hl
  · obtain ⟨c, d, id, -, hb, hv, rfl⟩ := Footprint.inserts_promotion hsent rfl
    refine ⟨d, hb, hv, fun row hrow => ⟨d.discount_admitted hv hrow, d.admitted_iff hv hrow, ?_⟩⟩
    intro hstart hend
    rw [d.admitted_iff hv hrow, ← Time.Instant.stored_lt_stored_iff, hstart, hend]
    exact (Promotion.Draft.validate_eq_ok.mp hv).2.2

def saleOpening : Time.Instant := ⟨1740823200, 0⟩

def offer (expiresAt : Time.Instant) : Promotion.Draft :=
  ⟨.nil, "Sale", "", 20, saleOpening, expiresAt⟩

def offerJson (expiresAt : Time.Instant) : Json :=
  .record [("business_id", .uuid .nil), ("title", .text "Sale"), ("discount_percentage", .int 20),
    ("started_at", .time saleOpening), ("expires_at", .time expiresAt)]

def offering (expiresAt : Time.Instant) : Http.Request :=
  carrying [] visitorClaims ⟨.post, "/v1/promotion", [("content-type", "application/json")],
    (offerJson expiresAt).write⟩

def offered (expiresAt : Time.Instant) : List Sql.Assignment := (offer expiresAt).row .nil .nil

def offeringRun (expiresAt : Time.Instant) (reply : Reply) : List Step :=
  visitorLead .business ++
    [.asked (.run (.find Business.table .nil)) (single (Wording.row "" .business)), .drewId .nil,
      .asked (.run (.insert Promotion.table (offered expiresAt) .returning)) reply]

variable {expiresAt : Time.Instant}

theorem offering_body {c? : Option Caller}
    (h : Promotion.Draft.decode (.ofValue (offerJson expiresAt)) = .ok (offer expiresAt)) :
    (⟨offering expiresAt, c?, none⟩ : Incoming).body Promotion.Draft.decode =
      .ok (offer expiresAt) := by
  refine body_of_written rfl rfl ?_ h
  simp [offerJson, Json.Exact, Json.ExactMembers, Json.uuid, Json.time, Json.isWord]

theorem offering_reaches (s : Server) (expiresAt : Time.Instant) :
    s.Reaches (offering expiresAt) (.fixed .post ["v1", "promotion"]) none := by
  have hs : (Http.Target.ofString "/v1/promotion").segments? =
      some ["v1".toList, "promotion".toList] := by decide +kernel
  have hf : findRoute (routes s.policy) ["v1".toList, "promotion".toList] =
      some (path ["v1", "promotion"] [(.post, Promotions.create)], none) := by
    simp [findRoute, routes, path, named, Route.matchSegments]
  exact reaches_of_segments hs hf rfl

theorem offering_runs (reply : Reply)
    (h : Promotion.Draft.decode (.ofValue (offerJson expiresAt)) = .ok (offer expiresAt))
    (hv : (offer expiresAt).validate = .ok ()) :
    (cityServer.handle (offering expiresAt)).Runs (offeringRun expiresAt reply)
      (some (cityServer.outer (offering expiresAt) (settle Stop.response
        ((stored Promotion.ofRow reply).map fun p => .json 201 p.toJson)))) := by
  have hmem : (Endpoint.fixed .post ["v1", "promotion"], Promotions.create) ∈
      endpoints cityServer.policy := by
    simp [endpoints, Route.endpoints, routes, path, named, Endpoint.fixed]
  have hshop : Business.ofRow (Wording.row "" .business) = some (Wording.shop "") := rfl
  have hruns := Promotions.create_runs (i := ⟨offering expiresAt, some (visitor .business), none⟩)
    .nil reply rfl (offering_body h) rfl hv hshop rfl
  exact (offering_reaches _ _).runs_of_caller hmem (introduces_visitor cityServer _ .business) hruns

theorem hour_admitted : ∃ reply v?,
    (cityServer.handle (offering ⟨1740826800, 0⟩)).Runs
      (offeringRun ⟨1740826800, 0⟩ reply) v? ∧
    ∀ row : Row, row.Holds (offered ⟨1740826800, 0⟩) → Schema.promotions.Admits row := by
  have hdecode : Promotion.Draft.decode (.ofValue (offerJson ⟨1740826800, 0⟩)) =
      .ok (offer ⟨1740826800, 0⟩) := Token.eq_ok_of_toOption (by decide +kernel)
  have hruns := offering_runs made hdecode (Token.eq_ok_of_toOption (by decide +kernel))
  refine ⟨made, _, hruns, ?_⟩
  obtain ⟨d, hb, -, hadmits⟩ := promotion_admitted_iff hruns (.tail _ (.tail _ (.head _)))
  obtain rfl := Except.ok.inj ((offering_body hdecode).symm.trans hb)
  exact fun row hrow => (hadmits row hrow).2.2 (by decide +kernel) (by decide +kernel)

theorem nanosecond_refused : ∃ response,
    (cityServer.handle (offering ⟨1740823200, 1⟩)).Runs
      (offeringRun ⟨1740823200, 1⟩ (.error (.refused "23514"))) (some response) ∧
    response.status = 400 ∧ (offer ⟨1740823200, 1⟩).validate = .ok () ∧
    (∃ row : Row, row.Holds (offered ⟨1740823200, 1⟩)) ∧
    ∀ row : Row, row.Holds (offered ⟨1740823200, 1⟩) → ¬Schema.promotions.Admits row := by
  have hdecode : Promotion.Draft.decode (.ofValue (offerJson ⟨1740823200, 1⟩)) =
      .ok (offer ⟨1740823200, 1⟩) := Token.eq_ok_of_toOption (by decide +kernel)
  have hv : (offer ⟨1740823200, 1⟩).validate = .ok () := Token.eq_ok_of_toOption (by decide +kernel)
  refine ⟨_, offering_runs _ hdecode hv, outer_status _, hv, ?_, fun row hrow => ?_⟩
  · exact ⟨(offered ⟨1740823200, 1⟩).map fun a => (a.1, a.2.cell), by
      simp [Row.Holds, offered, offer, Promotion.Draft.row, Row.cell?]⟩
  · rw [(offer _).admitted_iff hv hrow, ← Time.Instant.stored_lt_stored_iff]
    decide +kernel

end Server

end Api

end CityGuide
