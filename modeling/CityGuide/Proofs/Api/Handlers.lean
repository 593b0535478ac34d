import CityGuide.Proofs.Api.Footprint

namespace CityGuide.Api

open Store Store.Action Handling

variable {i : Incoming} {α β : Type} {S : Command → Prop}

def Sent (P : Sql.Statement → Prop) : Command → Prop
  | .run st => P st
  | .begin | .commit | .rollback => True
  | .connect | .script _ => False

abbrev Leaves (i : Incoming) (e : Endpoint) (a : Handling α) : Prop :=
  Sends (Sent (Footprint i e)) a

namespace Handling

theorem existing_sends {a : Action Failure (Option α)} (h : Sends S a) : Sends S (existing a) :=
  .bind (.mapError h) fun _ => .ofExcept _

theorem removed_sends {a : Action Failure Bool} (h : Sends S a) : Sends S (removed a) := by
  refine .bind (.mapError h) fun removed => ?_
  cases removed with
  | false => exact .ofExcept _
  | true => exact .pure _

theorem answer_stored {a : Action Failure α} {f : α → β} (h : Sends S a) :
    Sends S (ofStore a >>= fun x => pure (f x)) :=
  .bind (.mapError h) fun _ => .pure _

theorem answer_existing {a : Action Failure (Option α)} {f : α → β} (h : Sends S a) :
    Sends S (existing a >>= fun x => pure (f x)) :=
  .bind (existing_sends h) fun _ => .pure _

theorem answer_removed {st : Sql.Statement} {b : β} (h : S (.run st)) :
    Sends S (removed (Action.touched st) >>= fun _ => pure b) :=
  .bind (removed_sends (.touched h)) fun _ => .pure _

end Handling

theorem look_sends {e : Endpoint} {st : Sql.Statement} {read : Row → Option α}
    (h : Lookup st) : Sends (Sent (Footprint i e)) (Action.optional st read) :=
  .optional (Footprint.look h)

theorem existing_row {e : Endpoint} {table : String} {id : Uuid} {read : Row → Option α}
    (h : table ∈ Schema.scripts.flatten.map TablePlan.name) :
    Leaves i e (existing (Action.optional (.find table id) read)) :=
  existing_sends (look_sends (.row h))

theorem answer_look {e : Endpoint} {st : Sql.Statement} {read : Row → Option α} {f : α → β}
    (h : Lookup st) :
    Leaves i e (existing (Action.optional st read) >>= fun x => pure (f x)) :=
  answer_existing (look_sends h)

theorem answer_page {e : Endpoint} {source : Listing.Source} {base : Sql.Select}
    {read : Row → Option α} {r : Listing.Request} {f : Listing.Page α → β}
    (hs : (source, base) ∈ Listing.catalogue) :
    Leaves i e (ofList (fetchPage source base read r) >>= fun page => pure (f page)) := by
  refine .bind (.mapError (fetchPage_sends fun _ hc => ?_)) fun _ => .pure _
  exact ⟨Footprint.look (.page hs hc), Footprint.look (.count hs hc)⟩

theorem health_leaves {e : Endpoint} : Leaves i e (health i) := by
  refine .bind (.lift (Sends.run (Footprint.look .probe))) fun healthy => ?_
  cases healthy <;> exact .pure _

namespace Auth

theorem register_leaves : Leaves i (.fixed .post ["v1", "auth", "register"]) (register i) := by
  refine .gate fun body hb => .gate_mapError fun _ hv => .bind (.mapError ?_) fun _ => .pure _
  exact User.create_sends fun id salt => .register hb hv

theorem authenticated_leaves {e : Endpoint} {c : Credentials} : Leaves i e (authenticated c) := by
  refine .bind (.mapError (look_sends .address)) fun user? => ?_
  cases user? with
  | none => exact .ofExcept _
  | some user =>
    simp only
    split
    · exact .pure _
    · exact .ofExcept _

theorem login_leaves {policy : TokenPolicy} :
    Leaves i (.fixed .post ["v1", "auth", "login"]) (login policy i) := by
  refine .gate fun credentials _ => .bind authenticated_leaves fun user => ?_
  split
  · refine .bind .now fun now => ?_
    split
    · exact .crash
    · exact answer_stored (Session.create_sends fun id => .login)
  · exact .ofExcept _

theorem logout_leaves : Leaves i (.fixed .post ["v1", "auth", "logout"]) (logout i) := by
  refine .gate fun c hc => .bind (.mapError (.touched ?_)) fun _ => .pure _
  exact Footprint.logout hc

end Auth

namespace Users

theorem create_leaves : Leaves i (.fixed .post ["v1", "user"]) (create i) := by
  refine .gate fun c hc => .gate fun d hb => .gate_mapError fun _ hp =>
    .gate_mapError fun _ hv => ?_
  exact answer_stored (User.create_sends fun id salt => .createUser hc hb hp hv)

theorem list_leaves {e : Endpoint} : Leaves i e (list i) := by
  refine .gate fun _ _ => .gate fun _ _ => .gate_mapError fun _ _ => ?_
  exact answer_page (by simp [Listing.catalogue])

theorem get_leaves {e : Endpoint} : Leaves i e (get i) :=
  .gate fun _ _ => .gate fun _ _ => answer_look (.row (by decide))

theorem applyChange_sends {c : Caller} {id : Uuid} {change : User.Change}
    (hupdate : ∀ salt, c.requireOwner id = .ok () →
      (change.changesPrivileges = true → c.require .administerUsers = .ok ()) →
      change.validate = .ok () → S (.run (.update User.table
        (change.assignments (change.password.map (Password.hash salt))) id)))
    (hrevoke : c.requireOwner id = .ok () → change.revokesSessions = true →
      S (.run (.delete .plain Session.table [("user_id", .uuid id)]))) :
    Sends S (applyChange c id change) := by
  refine .gate_mapError fun _ ho => ?_
  have hrest : (change.changesPrivileges = true → c.require .administerUsers = .ok ()) →
      Sends S (do
        ofValid change.validate
        let user ← existing (User.update id change)
        if change.revokesSessions then do
          let _ ← ofStore (Session.deleteForUser id)
          ok user.toJson
        else ok user.toJson) := by
    intro hp
    refine .gate_mapError fun _ hv => .bind (existing_sends ?_) fun user => ?_
    · exact User.update_sends fun salt => hupdate salt ho hp hv
    · split
      · exact .bind (.mapError (.affected (hrevoke ho ‹_›))) fun _ => .pure _
      · exact .pure _
  by_cases hprivileges : change.changesPrivileges = true
  · simp only [if_pos hprivileges]
    exact .gate_mapError fun _ hp => hrest fun _ => hp
  · simp only [if_neg hprivileges]
    exact hrest fun h => absurd h hprivileges

theorem updateSelf_leaves : Leaves i (.fixed .put ["v1", "user"]) (updateSelf i) :=
  .gate fun _ hc => .gate fun _ hb => applyChange_sends (fun _ _ hp hv => .updateSelf hc hb hp hv)
    fun _ hr => .revokeSelf hc hb hr

theorem update_leaves : Leaves i (.named .put ["v1", "user"]) (update i) :=
  .gate fun _ hc => .gate fun _ hi => .gate fun _ hb =>
    applyChange_sends (fun _ ho hp hv => .updateUser hc hi hb ho hp hv)
      fun ho hr => .revokeUser hc hi hb ho hr

theorem delete_leaves : Leaves i (.named .delete ["v1", "user"]) (delete i) := by
  refine .gate fun c hc => .gate fun id hi => .gate_mapError fun _ ho => ?_
  exact answer_removed (Footprint.deleteUser hc hi ho)

end Users

namespace Categories

theorem create_leaves : Leaves i (.fixed .post ["v1", "business-category"]) (create i) := by
  refine .gate fun c hc => .gate fun d hb => .gate_mapError fun _ hp =>
    .gate_mapError fun _ hv => ?_
  exact answer_stored (Category.create_sends fun id => .createCategory hc hb hp hv)

theorem list_leaves {e : Endpoint} : Leaves i e (list i) :=
  .gate fun _ _ => answer_page (by simp [Listing.catalogue])

theorem get_leaves {e : Endpoint} : Leaves i e (get i) :=
  .gate fun _ _ => answer_look (.row (by decide))

theorem update_leaves : Leaves i (.named .put ["v1", "business-category"]) (update i) := by
  refine .gate fun c hc => .gate fun id hi => .gate fun change hb => .gate_mapError fun _ hp =>
    .gate_mapError fun _ hv => ?_
  exact answer_existing (.optional (Footprint.updateCategory hc hi hb hp hv))

theorem delete_leaves : Leaves i (.named .delete ["v1", "business-category"]) (delete i) := by
  refine .gate fun c hc => .gate fun id hi => .gate_mapError fun _ hp => ?_
  exact answer_removed (Footprint.deleteCategory hc hi hp)

end Categories

namespace Businesses

theorem create_leaves : Leaves i (.fixed .post ["v1", "business"]) (create i) := by
  refine .gate fun c hc => .gate fun d hb => .gate_mapError fun _ hp =>
    .gate_mapError fun _ hv => ?_
  refine answer_stored (Business.create_sends trivial trivial trivial ?_ ?_ ?_)
  · exact fun id => .createBusiness hc hb hp hv
  · exact fun id st hr => .attachToNewBusiness hc hb hv hr
  · exact fun id => .look .business

theorem list_leaves {e : Endpoint} : Leaves i e (list i) :=
  .gate fun _ _ => answer_page (by simp [Listing.catalogue])

theorem get_leaves {e : Endpoint} : Leaves i e (get i) :=
  .gate fun _ _ => answer_look .business

theorem owned_leaves {e : Endpoint} {c : Caller} {id : Uuid} : Leaves i e (owned c id) :=
  .bind (existing_row (by decide)) fun _ => .ofExcept _

theorem update_leaves : Leaves i (.named .put ["v1", "business"]) (update i) := by
  refine .gate fun c hc => .gate fun id hi => .gate fun change hb => .bind owned_leaves fun _ =>
    .gate_mapError fun _ hv => ?_
  refine .bind (existing_sends (Business.update_sends trivial trivial trivial ?_ ?_ ?_))
    fun _ => .pure _
  · exact .updateBusiness hc hi hb hv
  · exact fun inputs st ha hr => .attachToBusiness hc hi hb hv ha hr
  · exact .look .business

theorem delete_leaves : Leaves i (.named .delete ["v1", "business"]) (delete i) := by
  refine .gate fun c hc => .gate fun id hi => .bind owned_leaves fun _ => ?_
  exact answer_removed (Footprint.deleteBusiness hc hi)

end Businesses

namespace Reviews

theorem create_leaves : Leaves i (.fixed .post ["v1", "review"]) (create i) := by
  refine .gate fun c hc => .gate fun d hb => .gate_mapError fun _ hp =>
    .gate_mapError fun _ hv => ?_
  refine answer_stored (Review.create_sends trivial trivial trivial ?_ ?_ ?_)
  · exact fun id => .createReview hc hb hp hv
  · exact fun id st hr => .attachToNewReview hc hb hv hr
  · exact fun id => .look .review

theorem list_leaves {e : Endpoint} : Leaves i e (list i) :=
  .gate fun _ _ => answer_page (by simp [Listing.catalogue])

theorem get_leaves {e : Endpoint} : Leaves i e (get i) :=
  .gate fun _ _ => answer_look .review

theorem owned_leaves {e : Endpoint} {c : Caller} {id : Uuid} : Leaves i e (owned c id) :=
  .bind (existing_row (by decide)) fun _ => .ofExcept _

theorem update_leaves : Leaves i (.named .put ["v1", "review"]) (update i) := by
  refine .gate fun c hc => .gate fun id hi => .gate fun change hb => .bind owned_leaves fun _ =>
    .gate_mapError fun _ hv => ?_
  refine .bind (existing_sends (Review.update_sends trivial trivial trivial ?_ ?_ ?_))
    fun _ => .pure _
  · exact .updateReview hc hi hb hv
  · exact fun inputs st ha hr => .attachToReview hc hi hb hv ha hr
  · exact .look .review

theorem delete_leaves : Leaves i (.named .delete ["v1", "review"]) (delete i) := by
  refine .gate fun c hc => .gate fun id hi => .bind owned_leaves fun _ => ?_
  exact answer_removed (Footprint.deleteReview hc hi)

end Reviews

namespace Reports

theorem create_leaves : Leaves i (.fixed .post ["v1", "report"]) (create i) := by
  refine .gate fun c hc => .gate fun d hb => .gate_mapError fun _ hp =>
    .gate_mapError fun _ hv => ?_
  exact answer_stored (Report.create_sends fun id => .createReport hc hb hp hv)

theorem list_leaves {e : Endpoint} : Leaves i e (list i) :=
  .gate fun _ _ => .gate fun _ _ => answer_page (by simp [Listing.catalogue])

theorem owned_leaves {e : Endpoint} {c : Caller} {id : Uuid} : Leaves i e (owned c id) :=
  .bind (existing_row (by decide)) fun _ => .bind (.ofExcept _) fun _ => .pure _

theorem get_leaves {e : Endpoint} : Leaves i e (get i) :=
  .gate fun _ _ => .gate fun _ _ => .bind owned_leaves fun _ => .pure _

theorem update_leaves : Leaves i (.named .put ["v1", "report"]) (update i) := by
  refine .gate fun c hc => .gate fun id hi => .gate fun change hb => .bind owned_leaves fun _ =>
    .gate_mapError fun _ hv => ?_
  exact answer_existing (.optional (Footprint.updateReport hc hi hb hv))

theorem delete_leaves : Leaves i (.named .delete ["v1", "report"]) (delete i) := by
  refine .gate fun c hc => .gate fun id hi => .bind owned_leaves fun _ => ?_
  exact answer_removed (Footprint.deleteReport hc hi)

end Reports

namespace Notifications

theorem create_leaves : Leaves i (.fixed .post ["v1", "notification"]) (create i) := by
  refine .gate fun c hc => .gate fun d hb => .gate_mapError fun _ hp =>
    .gate_mapError fun _ hv => ?_
  exact answer_stored (Notification.create_sends fun id => .createNotification hc hb hp hv)

theorem list_leaves {e : Endpoint} : Leaves i e (list i) :=
  .gate fun _ _ => .gate fun _ _ => answer_page (by simp [Listing.catalogue])

theorem mark_leaves :
    Leaves i (.fixed .put ["v1", "notification", "update-status"]) (mark i) := by
  refine .gate fun c hc => .gate fun m hb => .bind (.mapError (.affected ?_)) fun _ => .pure _
  exact Footprint.markNotifications hc hb

theorem ofParty_leaves {e : Endpoint} {c : Caller} {id : Uuid} : Leaves i e (ofParty c id) :=
  .bind (existing_row (by decide)) fun _ => .bind (.ofExcept _) fun _ => .pure _

theorem get_leaves {e : Endpoint} : Leaves i e (get i) :=
  .gate fun _ _ => .gate fun _ _ => .bind ofParty_leaves fun _ => .pure _

theorem update_leaves : Leaves i (.named .put ["v1", "notification"]) (update i) := by
  refine .gate fun c hc => .gate fun id hi => .gate fun change hb => .bind ofParty_leaves fun _ =>
    .gate_mapError fun _ _ => .gate_mapError fun _ hv => ?_
  exact answer_existing (.optional (Footprint.updateNotification hc hi hb hv))

theorem delete_leaves : Leaves i (.named .delete ["v1", "notification"]) (delete i) := by
  refine .gate fun c hc => .gate fun id hi => .bind ofParty_leaves fun _ => ?_
  exact answer_removed (Footprint.deleteNotification hc hi)

end Notifications

namespace Events

theorem requireOwner_leaves {e : Endpoint} {c : Caller} {id : Uuid} :
    Leaves i e (requireOwner c id) :=
  .bind (existing_row (by decide)) fun _ => .ofExcept _

theorem create_leaves : Leaves i (.fixed .post ["v1", "event"]) (create i) := by
  refine .gate fun c hc => .gate fun d hb => .gate_mapError fun _ hp => .gate_mapError fun _ hv =>
    .bind requireOwner_leaves fun _ => ?_
  exact answer_stored (Event.create_sends fun id => .createEvent hc hb hp hv)

theorem list_leaves {e : Endpoint} : Leaves i e (list i) :=
  .gate fun _ _ => answer_page (by simp [Listing.catalogue])

theorem get_leaves {e : Endpoint} : Leaves i e (get i) :=
  .gate fun _ _ => answer_look (.row (by decide))

theorem owned_leaves {e : Endpoint} {c : Caller} {id : Uuid} : Leaves i e (owned c id) :=
  .bind (existing_row (by decide)) fun _ => .bind requireOwner_leaves fun _ => .pure _

theorem update_leaves : Leaves i (.named .put ["v1", "event"]) (update i) := by
  refine .gate fun c hc => .gate fun id hi => .gate fun change hb => .bind owned_leaves fun _ =>
    .gate_mapError fun _ hv => ?_
  exact answer_existing (.optional (Footprint.updateEvent hc hi hb hv))

theorem delete_leaves : Leaves i (.named .delete ["v1", "event"]) (delete i) := by
  refine .gate fun c hc => .gate fun id hi => .bind owned_leaves fun _ => ?_
  exact answer_removed (Footprint.deleteEvent hc hi)

theorem addParticipant_leaves :
    Leaves i (.fixed .post ["v1", "event", "add-participant"]) (addParticipant i) := by
  refine .gate fun c hc => .gate fun body hb => .gate_mapError fun _ hp =>
    .gate_mapError fun userId hu => .bind (existing_row (by decide)) fun _ => ?_
  refine .bind (.mapError (.touched (Footprint.join hc hb hp hu))) fun added => ?_
  split <;> exact .pure _

theorem removeParticipant_leaves :
    Leaves i (.fixed .delete ["v1", "event", "remove-participant"]) (removeParticipant i) := by
  refine .gate fun c hc => .gate fun body hb => .gate_mapError fun userId hu => ?_
  exact answer_removed (Footprint.leave hc hb hu)

theorem listParticipants_leaves {e : Endpoint} : Leaves i e (listParticipants i) := by
  refine .gate fun _ _ => .gate fun _ _ => .bind (existing_row (by decide)) fun _ => ?_
  exact answer_page (by simp [Listing.catalogue])

end Events

namespace Bookmarks

theorem create_leaves : Leaves i (.fixed .post ["v1", "bookmark"]) (create i) := by
  refine .gate fun c hc => .gate fun d hb => .gate_mapError fun _ hp => ?_
  exact answer_stored (Bookmark.create_sends fun id => .createBookmark hc hb hp)

theorem list_leaves {e : Endpoint} : Leaves i e (list i) :=
  .gate fun _ _ => .gate fun _ _ => answer_page (by simp [Listing.catalogue])

theorem owned_leaves {e : Endpoint} {c : Caller} {id : Uuid} : Leaves i e (owned c id) :=
  .bind (existing_row (by decide)) fun _ => .bind (.ofExcept _) fun _ => .pure _

theorem get_leaves {e : Endpoint} : Leaves i e (get i) :=
  .gate fun _ _ => .gate fun _ _ => .bind owned_leaves fun _ => .pure _

theorem update_leaves : Leaves i (.named .put ["v1", "bookmark"]) (update i) := by
  refine .gate fun c hc => .gate fun id hi => .gate fun change hb => .bind owned_leaves fun _ => ?_
  exact answer_existing (.optional (Footprint.updateBookmark hc hi hb))

theorem delete_leaves : Leaves i (.named .delete ["v1", "bookmark"]) (delete i) := by
  refine .gate fun c hc => .gate fun id hi => .bind owned_leaves fun _ => ?_
  exact answer_removed (Footprint.deleteBookmark hc hi)

end Bookmarks

namespace Promotions

theorem create_leaves : Leaves i (.fixed .post ["v1", "promotion"]) (create i) := by
  refine .gate fun c hc => .gate fun d hb => .gate_mapError fun _ hp => .gate_mapError fun _ hv =>
    .bind (existing_row (by decide)) fun _ => .gate_mapError fun _ _ => ?_
  exact answer_stored (Promotion.create_sends fun id => .createPromotion hc hb hp hv)

theorem list_leaves {e : Endpoint} : Leaves i e (list i) :=
  .gate fun _ _ => answer_page (by simp [Listing.catalogue])

theorem get_leaves {e : Endpoint} : Leaves i e (get i) :=
  .gate fun _ _ => answer_look (.row (by decide))

theorem delete_leaves : Leaves i (.named .delete ["v1", "promotion"]) (delete i) := by
  refine .gate fun c hc => .gate fun id hi => .bind (existing_row (by decide)) fun _ =>
    .gate_mapError fun _ _ => ?_
  exact answer_removed (Footprint.deletePromotion hc hi)

end Promotions

namespace Follows

theorem toggle_leaves : Leaves i (.fixed .post ["v1", "follower"]) (toggle i) := by
  refine .gate fun c hc => .gate fun body hb => .gate_mapError fun _ hp => ?_
  split
  · exact .ofExcept _
  · rename_i hn
    refine answer_stored (Follower.toggle_sends trivial trivial trivial ?_ ?_)
    · exact .unfollow hc hb hp hn
    · exact .follow hc hb hp hn

theorem list_leaves {e : Endpoint} : Leaves i e (list i) := by
  refine .gate fun _ _ => .gate fun _ _ => .gate fun _ _ => ?_
  exact answer_page (by simp [Listing.catalogue])

end Follows

theorem endpoints_leave {policy : TokenPolicy} {e : Endpoint} {h : Handler}
    (hh : (e, h) ∈ endpoints policy) (i : Incoming) : Leaves i e (h i) := by
  have hall : ∀ x ∈ endpoints policy, Leaves i x.1 (x.2 i) := by
    simp only [endpoints, Route.endpoints, routes, path, named, List.flatMap_cons, List.flatMap_nil,
      List.map_cons, List.map_nil, List.cons_append, List.nil_append, List.append_nil,
      List.forall_mem_cons, List.not_mem_nil, false_imp_iff, implies_true, and_true]
    exact ⟨health_leaves, Auth.register_leaves, Auth.login_leaves, Auth.logout_leaves,
      Users.create_leaves, Users.updateSelf_leaves, Users.list_leaves, Users.get_leaves,
      Users.update_leaves, Users.delete_leaves, Categories.create_leaves, Categories.list_leaves,
      Categories.get_leaves, Categories.update_leaves, Categories.delete_leaves,
      Businesses.create_leaves, Businesses.list_leaves, Businesses.get_leaves,
      Businesses.update_leaves, Businesses.delete_leaves, Reviews.create_leaves,
      Reviews.list_leaves, Reviews.get_leaves, Reviews.update_leaves, Reviews.delete_leaves,
      Reports.create_leaves, Reports.list_leaves, Reports.get_leaves, Reports.update_leaves,
      Reports.delete_leaves, Notifications.create_leaves, Notifications.list_leaves,
      Notifications.mark_leaves, Notifications.get_leaves, Notifications.update_leaves,
      Notifications.delete_leaves, Events.create_leaves, Events.list_leaves,
      Events.addParticipant_leaves, Events.removeParticipant_leaves, Events.get_leaves,
      Events.update_leaves, Events.delete_leaves, Events.listParticipants_leaves,
      Bookmarks.create_leaves, Bookmarks.list_leaves, Bookmarks.get_leaves,
      Bookmarks.update_leaves, Bookmarks.delete_leaves, Promotions.create_leaves,
      Promotions.list_leaves, Promotions.get_leaves, Promotions.delete_leaves,
      Follows.toggle_leaves, Follows.list_leaves⟩
  exact hall _ hh

end CityGuide.Api
