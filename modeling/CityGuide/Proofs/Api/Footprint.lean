import CityGuide.Proofs.Api.Endpoints
import CityGuide.Proofs.Listing.Items
import CityGuide.Proofs.Store.Entities

namespace CityGuide.Api

open Store Handling

inductive Lookup : Sql.Statement → Prop
  | row {table : String} {id : Uuid} (ht : table ∈ Schema.scripts.flatten.map TablePlan.name) :
      Lookup (.find table id)
  | address {email : String} : Lookup (.findByEmail email)
  | probe : Lookup .probe
  | business {id : Uuid} : Lookup (.select (Business.detailed.byId id))
  | review {id : Uuid} : Lookup (.select (Review.detailed.byId id))
  | page {source : Listing.Source} {base : Sql.Select} {r : Listing.Request}
      {compiled : Listing.Compiled} (hs : (source, base) ∈ Listing.catalogue)
      (hc : source.compile base r = .ok compiled) : Lookup (.select compiled.fetch)
  | count {source : Listing.Source} {base : Sql.Select} {r : Listing.Request}
      {compiled : Listing.Compiled} (hs : (source, base) ∈ Listing.catalogue)
      (hc : source.compile base r = .ok compiled) : Lookup (.select compiled.count)

theorem Lookup.isWrite_eq_false {st : Sql.Statement} (h : Lookup st) : st.isWrite = false := by
  cases h <;> rfl

/-- What the handler of an endpoint may ask of the store, and what it has made sure of by then. -/
inductive Footprint (i : Incoming) : Endpoint → Sql.Statement → Prop
  | look {e : Endpoint} {st : Sql.Statement} (hk : Lookup st) : Footprint i e st
  | register {body : Auth.Registration} {id : Uuid} {salt : Password.Salt}
      (hb : i.body Auth.Registration.decode = .ok body) (hv : body.draft.validate = .ok ()) :
      Footprint i (.fixed .post ["v1", "auth", "register"]) (.insert User.table
        (body.draft.row id (Password.hash salt body.draft.password)) .returning)
  | login {id userId : Uuid} {expiresAt : Time.Instant} :
      Footprint i (.fixed .post ["v1", "auth", "login"]) (.insert Session.table
        (Session.row id userId (Auth.userAgent i.request) expiresAt) .returning)
  | logout {c : Caller} (hc : i.caller = .ok c) :
      Footprint i (.fixed .post ["v1", "auth", "logout"])
        (.delete .plain Session.table [("id", .uuid c.sessionId)])
  | createUser {c : Caller} {d : User.Draft} {id : Uuid} {salt : Password.Salt}
      (hc : i.caller = .ok c) (hb : i.body User.Draft.decode = .ok d)
      (hp : c.require .administerUsers = .ok ()) (hv : d.trimmed.validate = .ok ()) :
      Footprint i (.fixed .post ["v1", "user"]) (.insert User.table
        (d.trimmed.row id (Password.hash salt d.trimmed.password)) .returning)
  | updateSelf {c : Caller} {change : User.Change} {salt : Password.Salt} (hc : i.caller = .ok c)
      (hb : i.body User.Change.decode = .ok change)
      (hp : change.changesPrivileges = true → c.require .administerUsers = .ok ())
      (hv : change.validate = .ok ()) :
      Footprint i (.fixed .put ["v1", "user"]) (.update User.table
        (change.assignments (change.password.map (Password.hash salt))) c.userId)
  | revokeSelf {c : Caller} {change : User.Change} (hc : i.caller = .ok c)
      (hb : i.body User.Change.decode = .ok change) (hr : change.revokesSessions = true) :
      Footprint i (.fixed .put ["v1", "user"])
        (.delete .plain Session.table [("user_id", .uuid c.userId)])
  | updateUser {c : Caller} {id : Uuid} {change : User.Change} {salt : Password.Salt}
      (hc : i.caller = .ok c) (hi : i.id = .ok id) (hb : i.body User.Change.decode = .ok change)
      (ho : c.requireOwner id = .ok ())
      (hp : change.changesPrivileges = true → c.require .administerUsers = .ok ())
      (hv : change.validate = .ok ()) :
      Footprint i (.named .put ["v1", "user"]) (.update User.table
        (change.assignments (change.password.map (Password.hash salt))) id)
  | revokeUser {c : Caller} {id : Uuid} {change : User.Change} (hc : i.caller = .ok c)
      (hi : i.id = .ok id) (hb : i.body User.Change.decode = .ok change)
      (ho : c.requireOwner id = .ok ()) (hr : change.revokesSessions = true) :
      Footprint i (.named .put ["v1", "user"])
        (.delete .plain Session.table [("user_id", .uuid id)])
  | deleteUser {c : Caller} {id : Uuid} (hc : i.caller = .ok c) (hi : i.id = .ok id)
      (ho : c.requireOwner id = .ok ()) :
      Footprint i (.named .delete ["v1", "user"])
        (.delete .quoted User.table [("id", .uuid id)])
  | createCategory {c : Caller} {d : Category.Draft} {id : Uuid} (hc : i.caller = .ok c)
      (hb : i.body Category.Draft.decode = .ok d) (hp : c.require .manageCategories = .ok ())
      (hv : requireText "name" d.name = .ok ()) :
      Footprint i (.fixed .post ["v1", "business-category"])
        (.insert Category.table (d.row id) .returning)
  | updateCategory {c : Caller} {id : Uuid} {change : Category.Change} (hc : i.caller = .ok c)
      (hi : i.id = .ok id) (hb : i.body Category.Change.decode = .ok change)
      (hp : c.require .manageCategories = .ok ())
      (hv : given change.name (requireText "name") = .ok ()) :
      Footprint i (.named .put ["v1", "business-category"])
        (.update Category.table change.assignments id)
  | deleteCategory {c : Caller} {id : Uuid} (hc : i.caller = .ok c) (hi : i.id = .ok id)
      (hp : c.require .manageCategories = .ok ()) :
      Footprint i (.named .delete ["v1", "business-category"])
        (.delete .quoted Category.table [("id", .uuid id)])
  | createBusiness {c : Caller} {d : Business.Draft} {id : Uuid} (hc : i.caller = .ok c)
      (hb : i.body Business.Draft.decode = .ok d) (hp : c.require .manageBusinesses = .ok ())
      (hv : d.validate = .ok ()) :
      Footprint i (.fixed .post ["v1", "business"])
        (.insert Business.table (d.row id (Businesses.ownerFor c d)) .nothing)
  | attachToNewBusiness {c : Caller} {d : Business.Draft} {id : Uuid} {st : Sql.Statement}
      (hc : i.caller = .ok c) (hb : i.body Business.Draft.decode = .ok d)
      (hv : d.validate = .ok ()) (hr : Attachment.Replacing .business id d.attachments st) :
      Footprint i (.fixed .post ["v1", "business"]) st
  | updateBusiness {c : Caller} {id : Uuid} {change : Business.Change} (hc : i.caller = .ok c)
      (hi : i.id = .ok id) (hb : i.body Business.Change.decode = .ok change)
      (hv : change.validate = .ok ()) :
      Footprint i (.named .put ["v1", "business"]) (.update Business.table change.assignments id)
  | attachToBusiness {c : Caller} {id : Uuid} {change : Business.Change}
      {inputs : List Attachment.Input} {st : Sql.Statement} (hc : i.caller = .ok c)
      (hi : i.id = .ok id) (hb : i.body Business.Change.decode = .ok change)
      (hv : change.validate = .ok ()) (ha : change.attachments = some inputs)
      (hr : Attachment.Replacing .business id inputs st) :
      Footprint i (.named .put ["v1", "business"]) st
  | deleteBusiness {c : Caller} {id : Uuid} (hc : i.caller = .ok c) (hi : i.id = .ok id) :
      Footprint i (.named .delete ["v1", "business"])
        (.delete .quoted Business.table [("id", .uuid id)])
  | createReview {c : Caller} {d : Review.Draft} {id : Uuid} (hc : i.caller = .ok c)
      (hb : i.body Review.Draft.decode = .ok d) (hp : c.require .writeReviews = .ok ())
      (hv : d.validate = .ok ()) :
      Footprint i (.fixed .post ["v1", "review"])
        (.insert Review.table (d.row id c.userId) .nothing)
  | attachToNewReview {c : Caller} {d : Review.Draft} {id : Uuid} {st : Sql.Statement}
      (hc : i.caller = .ok c) (hb : i.body Review.Draft.decode = .ok d) (hv : d.validate = .ok ())
      (hr : Attachment.Replacing .review id d.attachments st) :
      Footprint i (.fixed .post ["v1", "review"]) st
  | updateReview {c : Caller} {id : Uuid} {change : Review.Change} (hc : i.caller = .ok c)
      (hi : i.id = .ok id) (hb : i.body Review.Change.decode = .ok change)
      (hv : change.validate = .ok ()) :
      Footprint i (.named .put ["v1", "review"]) (.update Review.table change.assignments id)
  | attachToReview {c : Caller} {id : Uuid} {change : Review.Change}
      {inputs : List Attachment.Input} {st : Sql.Statement} (hc : i.caller = .ok c)
      (hi : i.id = .ok id) (hb : i.body Review.Change.decode = .ok change)
      (hv : change.validate = .ok ()) (ha : change.attachments = some inputs)
      (hr : Attachment.Replacing .review id inputs st) :
      Footprint i (.named .put ["v1", "review"]) st
  | deleteReview {c : Caller} {id : Uuid} (hc : i.caller = .ok c) (hi : i.id = .ok id) :
      Footprint i (.named .delete ["v1", "review"])
        (.delete .quoted Review.table [("id", .uuid id)])
  | createReport {c : Caller} {d : Report.Draft} {id : Uuid} (hc : i.caller = .ok c)
      (hb : i.body Report.Draft.decode = .ok d) (hp : c.require .createReports = .ok ())
      (hv : d.validate = .ok ()) :
      Footprint i (.fixed .post ["v1", "report"])
        (.insert Report.table (d.row id c.userId) .returning)
  | updateReport {c : Caller} {id : Uuid} {change : Report.Change} (hc : i.caller = .ok c)
      (hi : i.id = .ok id) (hb : i.body Report.Change.decode = .ok change)
      (hv : change.validate = .ok ()) :
      Footprint i (.named .put ["v1", "report"]) (.update Report.table change.assignments id)
  | deleteReport {c : Caller} {id : Uuid} (hc : i.caller = .ok c) (hi : i.id = .ok id) :
      Footprint i (.named .delete ["v1", "report"])
        (.delete .quoted Report.table [("id", .uuid id)])
  | createNotification {c : Caller} {d : Notification.Draft} {id : Uuid} (hc : i.caller = .ok c)
      (hb : i.body Notification.Draft.decode = .ok d)
      (hp : c.require .sendNotifications = .ok ()) (hv : d.validate = .ok ()) :
      Footprint i (.fixed .post ["v1", "notification"])
        (.insert Notification.table (d.row id c.userId) .returning)
  | markNotifications {c : Caller} {m : Notification.Mark} (hc : i.caller = .ok c)
      (hb : i.body Notification.Mark.decode = .ok m) :
      Footprint i (.fixed .put ["v1", "notification", "update-status"])
        (.markNotifications m.status.name c.userId m.ids)
  | updateNotification {c : Caller} {id : Uuid} {change : Notification.Change}
      (hc : i.caller = .ok c) (hi : i.id = .ok id)
      (hb : i.body Notification.Change.decode = .ok change) (hv : change.validate = .ok ()) :
      Footprint i (.named .put ["v1", "notification"])
        (.update Notification.table change.assignments id)
  | deleteNotification {c : Caller} {id : Uuid} (hc : i.caller = .ok c) (hi : i.id = .ok id) :
      Footprint i (.named .delete ["v1", "notification"])
        (.delete .quoted Notification.table [("id", .uuid id)])
  | createEvent {c : Caller} {d : Event.Draft} {id : Uuid} (hc : i.caller = .ok c)
      (hb : i.body Event.Draft.decode = .ok d) (hp : c.require .manageEvents = .ok ())
      (hv : d.validate = .ok ()) :
      Footprint i (.fixed .post ["v1", "event"]) (.insert Event.table (d.row id) .returning)
  | updateEvent {c : Caller} {id : Uuid} {existing : Event} {change : Event.Change}
      (hc : i.caller = .ok c) (hi : i.id = .ok id) (hb : i.body Event.Change.decode = .ok change)
      (hv : change.validate existing = .ok ()) :
      Footprint i (.named .put ["v1", "event"]) (.update Event.table change.assignments id)
  | deleteEvent {c : Caller} {id : Uuid} (hc : i.caller = .ok c) (hi : i.id = .ok id) :
      Footprint i (.named .delete ["v1", "event"])
        (.delete .quoted Event.table [("id", .uuid id)])
  | join {c : Caller} {body : Participant.Request} {userId : Uuid} (hc : i.caller = .ok c)
      (hb : i.body Participant.Request.decode = .ok body) (hp : c.require .joinEvents = .ok ())
      (hu : Events.participant c body.userId = .ok userId) :
      Footprint i (.fixed .post ["v1", "event", "add-participant"])
        (.insert Participant.table (Participant.keys body.eventId userId)
          (.keepExistingOn ["event_id", "user_id"]))
  | leave {c : Caller} {body : Participant.Request} {userId : Uuid} (hc : i.caller = .ok c)
      (hb : i.body Participant.Request.decode = .ok body)
      (hu : Events.participant c body.userId = .ok userId) :
      Footprint i (.fixed .delete ["v1", "event", "remove-participant"])
        (.delete .plain Participant.table (Participant.keys body.eventId userId))
  | createBookmark {c : Caller} {d : Bookmark.Draft} {id : Uuid} (hc : i.caller = .ok c)
      (hb : i.body Bookmark.Draft.decode = .ok d)
      (hp : c.require .bookmarkBusinesses = .ok ()) :
      Footprint i (.fixed .post ["v1", "bookmark"])
        (.insert Bookmark.table (d.row id c.userId) .returning)
  | updateBookmark {c : Caller} {id : Uuid} {change : Bookmark.Change} (hc : i.caller = .ok c)
      (hi : i.id = .ok id) (hb : i.body Bookmark.Change.decode = .ok change) :
      Footprint i (.named .put ["v1", "bookmark"]) (.update Bookmark.table change.assignments id)
  | deleteBookmark {c : Caller} {id : Uuid} (hc : i.caller = .ok c) (hi : i.id = .ok id) :
      Footprint i (.named .delete ["v1", "bookmark"])
        (.delete .quoted Bookmark.table [("id", .uuid id)])
  | createPromotion {c : Caller} {d : Promotion.Draft} {id : Uuid} (hc : i.caller = .ok c)
      (hb : i.body Promotion.Draft.decode = .ok d) (hp : c.require .managePromotions = .ok ())
      (hv : d.validate = .ok ()) :
      Footprint i (.fixed .post ["v1", "promotion"])
        (.insert Promotion.table (d.row id c.userId) .returning)
  | deletePromotion {c : Caller} {id : Uuid} (hc : i.caller = .ok c) (hi : i.id = .ok id) :
      Footprint i (.named .delete ["v1", "promotion"])
        (.delete .quoted Promotion.table [("id", .uuid id)])
  | unfollow {c : Caller} {body : Follower.Request} (hc : i.caller = .ok c)
      (hb : i.body Follower.Request.decode = .ok body) (hp : c.require .followUsers = .ok ())
      (hn : body.followingId ≠ c.userId) :
      Footprint i (.fixed .post ["v1", "follower"])
        (.delete .plain Follower.table (Follower.keys c.userId body.followingId))
  | follow {c : Caller} {body : Follower.Request} (hc : i.caller = .ok c)
      (hb : i.body Follower.Request.decode = .ok body) (hp : c.require .followUsers = .ok ())
      (hn : body.followingId ≠ c.userId) :
      Footprint i (.fixed .post ["v1", "follower"])
        (.insert Follower.table (Follower.keys c.userId body.followingId) .keepExisting)

end CityGuide.Api
