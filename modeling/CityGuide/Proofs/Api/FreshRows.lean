import CityGuide.Proofs.Api.Escalation
import CityGuide.Proofs.Store.Conversations
import CityGuide.Proofs.Store.Minting

namespace CityGuide

open Store Store.Action

variable {D : Set Uuid} {α : Type}

def IdentifiedBy (id : Uuid) (row : List Sql.Assignment) : Prop :=
  ∀ id', ("id", Sql.Value.uuid id') ∈ row → id' = id

theorem mints_insert {table : String} {id id' : Uuid} {row : List Sql.Assignment}
    {ending : Sql.Ending} (hrow : IdentifiedBy id row)
    (hm : Mints (.run (.insert table row ending)) id') : id' = id := by
  obtain ⟨_, row', _, hc, -, hid⟩ := hm
  obtain ⟨-, rfl, -⟩ := Sql.Statement.insert.inj (Command.run.inj hc)
  exact hrow id' hid

theorem Attachment.Replacing.mintless {owner : AttachmentOwner} {ownerId : Uuid}
    {inputs : List Input} {st : Sql.Statement} (hr : Replacing owner ownerId inputs st) :
    Mintless (.run st) := by
  cases hr with
  | clear => exact mintless_of_not_insert nofun
  | insertion => exact mintless_of_not_insert nofun

namespace Store.Action.Thrifty

theorem insertion {table : String} {row : Uuid → List Sql.Assignment} {ending : Sql.Ending}
    {read : Row → Option α} (hrow : ∀ id, IdentifiedBy id (row id)) :
    Thrifty D (newId >>= fun id => Action.one (.insert table (row id) ending) read) := by
  refine newId_bind fun id => one fun id' hm => ?_
  obtain rfl := mints_insert (hrow id) hm
  exact Set.mem_insert ..

theorem creation {table : String} {row : Uuid → List Sql.Assignment} {owner : AttachmentOwner}
    {inputs : List Attachment.Input} {details : Sql.Select} {read : Row → Option α}
    (hrow : ∀ id, IdentifiedBy id (row id)) :
    Thrifty D (creation table row owner inputs details read) := by
  refine newId_bind fun id => bind_right (transaction (bind_right (run fun id' hm => ?_) ?_)) ?_
  · obtain rfl := mints_insert (hrow id) hm
    exact Set.mem_insert ..
  · intro _
    exact .bind (Attachment.replace_sends fun _ hr => hr.mintless) fun _ => .pure _
  · intro _
    exact .one (mintless_of_not_insert nofun)

theorem stored {β : Type} {a : Action Failure α} {f : α → β} (h : Thrifty D a) :
    Thrifty D (Api.Handling.ofStore a >>= fun x => pure (f x)) :=
  bind_right (mapError h) fun _ => .pure _

end Store.Action.Thrifty

theorem Business.create_thrifty {ownerId : Uuid} {d : Draft} : Thrifty D (create ownerId d) := by
  rw [create_eq]
  exact .creation fun id id' hid => by simpa [Draft.row] using hid

theorem Review.create_thrifty {userId : Uuid} {d : Draft} : Thrifty D (create userId d) := by
  rw [create_eq]
  exact .creation fun id id' hid => by simpa [Draft.row] using hid

theorem Report.create_thrifty {userId : Uuid} {d : Draft} : Thrifty D (create userId d) :=
  .insertion fun id id' hid => by simpa [Draft.row] using hid

theorem Bookmark.create_thrifty {userId : Uuid} {d : Draft} : Thrifty D (create userId d) :=
  .insertion fun id id' hid => by simpa [Draft.row] using hid

theorem Promotion.create_thrifty {userId : Uuid} {d : Draft} : Thrifty D (create userId d) :=
  .insertion fun id id' hid => by simpa [Draft.row] using hid

theorem Event.create_thrifty {d : Draft} : Thrifty D (create d) :=
  .insertion fun id id' hid => by simpa [Draft.row] using hid

namespace Api

open Handling

def makers : List Endpoint :=
  [.fixed .post ["v1", "business"], .fixed .post ["v1", "review"], .fixed .post ["v1", "report"],
    .fixed .post ["v1", "bookmark"], .fixed .post ["v1", "promotion"],
    .fixed .post ["v1", "event"]]

theorem Footprint.mintless {i : Incoming} {e : Endpoint} {st : Sql.Statement}
    (hf : Footprint i e st) (he : e ∉ makers) : Mintless (.run st) := by
  cases hf with
  | look hk =>
    refine mintless_of_not_insert ?_
    rintro table row ending rfl
    simpa [Sql.Statement.isWrite] using hk.isWrite_eq_false
  | createBusiness | createReview | createReport | createBookmark | createPromotion
  | createEvent => simp [makers] at he
  | attachToNewBusiness _ _ _ hr | attachToBusiness _ _ _ _ _ hr | attachToNewReview _ _ _ hr
  | attachToReview _ _ _ _ _ hr => exact hr.mintless
  | register | login | createUser | createCategory | createNotification | join | follow =>
    rintro id ⟨table, row, ending, hc, htable, -⟩
    obtain ⟨rfl, -, -⟩ := Sql.Statement.insert.inj (Command.run.inj hc)
    simp [keptColumns, ownerColumns, User.table, Session.table, Category.table, Notification.table,
      Participant.table, Follower.table, Business.table, Review.table, Report.table,
      Bookmark.table, Promotion.table, Event.table] at htable
  | _ => exact mintless_of_not_insert (by simp)

theorem makers_thrifty {policy : TokenPolicy} {i : Incoming} :
    ∀ x ∈ endpoints policy, x.1 ∈ makers → Thrifty D (x.2 i) := by
  have hbusiness : Thrifty D (Businesses.create i) :=
    .gate fun _ => .gate fun _ => .gate fun _ => .gate fun _ => .stored Business.create_thrifty
  have hreview : Thrifty D (Reviews.create i) :=
    .gate fun _ => .gate fun _ => .gate fun _ => .gate fun _ => .stored Review.create_thrifty
  have hreport : Thrifty D (Reports.create i) :=
    .gate fun _ => .gate fun _ => .gate fun _ => .gate fun _ => .stored Report.create_thrifty
  have hbookmark : Thrifty D (Bookmarks.create i) :=
    .gate fun _ => .gate fun _ => .gate fun _ => .stored Bookmark.create_thrifty
  have hpromotion : Thrifty D (Promotions.create i) :=
    .gate fun _ => .gate fun _ => .gate fun _ => .gate fun _ =>
      .bind_left (existing_sends (.optional (mintless_of_not_insert nofun))) fun _ =>
        .gate fun _ => .stored Promotion.create_thrifty
  have hevent : Thrifty D (Events.create i) :=
    .gate fun _ => .gate fun _ => .gate fun _ => .gate fun _ =>
      .bind_left (.bind (existing_sends (.optional (mintless_of_not_insert nofun))) fun _ =>
        .ofExcept _) fun _ => .stored Event.create_thrifty
  simp [endpoints, Route.endpoints, routes, path, named, makers, Endpoint.fixed, hbusiness,
    hreview, hreport, hbookmark, hpromotion, hevent]

theorem endpoints_thrifty {policy : TokenPolicy} {i : Incoming} {e : Endpoint} {h : Handler}
    (hh : (e, h) ∈ endpoints policy) : Thrifty D (h i) := by
  by_cases he : e ∈ makers
  · exact makers_thrifty _ hh he
  · refine .of_sends fun t o? ht x hx => ?_
    have hsent := endpoints_leave hh i t o? ht x hx
    obtain ⟨command, reply⟩ := x
    cases command with
    | run st => exact Footprint.mintless hsent he
    | script => exact hsent.elim
    | connect | «begin» | commit | rollback => exact mintless_of_not_run nofun

theorem Server.sparing {s : Server} {r : Http.Request} {t : List Step}
    {v? : Option Http.Response} (ht : (s.handle r).Runs t v?) : Sparing ∅ t := by
  have looks : ∀ u : List Step, (∀ x ∈ exchanges u, ∃ sessionId userId,
      x.1 = .run (.activeSession sessionId userId)) → ∀ x ∈ exchanges u, Mintless x.1 := by
    intro u hu x hx
    obtain ⟨_, _, hlook⟩ := hu x hx
    rw [hlook]
    exact mintless_of_not_insert nofun
  cases hs : s.serving? r with
  | some found =>
    obtain ⟨e, h, name?⟩ := found
    have hmem := serving?_mem hs
    rcases Reaches.runs_cases ⟨h, hs⟩ hmem ht with
      ⟨lead, rest, c?, o?, rfl, hlead, ho, -⟩ | ⟨_, -, hturned⟩
    · exact .mintless_append (looks lead hlead.sends) (endpoints_thrifty hmem rest o? ho)
    · exact sparing_of_mintless (looks t hturned.sends)
  | none =>
    refine sparing_of_mintless (looks t fun x hx => ?_)
    rcases sent_cases ht hx with hlook | ⟨e, name?, c?, ⟨h, hh⟩, -⟩
    · exact hlook
    · simp [hs] at hh

end Api

end CityGuide
