import CityGuide.Account.Session
import CityGuide.Guide.Bookmark
import CityGuide.Guide.Business
import CityGuide.Guide.Category
import CityGuide.Guide.Event
import CityGuide.Guide.Promotion
import CityGuide.Guide.Report
import CityGuide.Guide.Review
import CityGuide.Proofs.Store.Sends
import CityGuide.Social.Follow
import CityGuide.Social.Notification

namespace CityGuide

open Store Store.Action

variable {ε α : Type} {S : Command → Prop}

theorem Store.fetchPage_sends {source : Listing.Source} {base : Sql.Select} {read : Row → Option α}
    {r : Listing.Request}
    (h : ∀ compiled, source.compile base r = .ok compiled →
      S (.run (.select compiled.fetch)) ∧ S (.run (.select compiled.count))) :
    Sends S (fetchPage source base read r) := by
  refine .gate_mapError fun compiled hc => ?_
  obtain ⟨hfetch, hcount⟩ := h compiled hc
  exact .bind (.mapError (.all hfetch)) fun _ => .bind (.mapError (.one hcount)) fun _ => .pure _

namespace User

def Draft.row (id : Uuid) (passwordHash : String) (d : Draft) : List Sql.Assignment :=
  [("id", .uuid id), ("full_name", .text d.fullName), ("user_name", .text d.userName),
    ("email", .text d.email), ("password_hash", .text passwordHash),
    ("user_type", .text (d.userType.getD .user).name)]

theorem hashed_bind (password : String) (k : String → Action ε α) :
    (hashed password >>= k) = newSalt >>= fun salt => k (Password.hash salt password) := by
  simp only [hashed, bind_assoc, pure_bind]

theorem create_sends {d : Draft}
    (h : ∀ id salt,
      S (.run (.insert table (d.row id (Password.hash salt d.password)) .returning))) :
    Sends S (create d) := by
  refine .bind .newId fun id => ?_
  rw [hashed_bind]
  exact .bind .newSalt fun salt => .one (h id salt)

theorem hashedIfGiven_bind_sends {password? : Option String} {k : Option String → Action ε α}
    (h : ∀ salt, Sends S (k (password?.map (Password.hash salt)))) :
    Sends S (hashedIfGiven password? >>= k) := by
  cases password? with
  | none =>
    rw [hashedIfGiven, pure_bind]
    exact h (Vector.replicate 16 0)
  | some password =>
    simp only [hashedIfGiven, bind_assoc, pure_bind, hashed_bind]
    exact .bind .newSalt h

theorem update_sends {id : Uuid} {c : Change}
    (h : ∀ salt, S (.run (.update table
      (c.assignments (c.password.map (Password.hash salt))) id))) : Sends S (update id c) :=
  hashedIfGiven_bind_sends fun salt => .optional (h salt)

end User

def Session.row (id userId : Uuid) (userAgent : Option String) (expiresAt : Time.Instant) :
    List Sql.Assignment :=
  [("id", .uuid id), ("user_id", .uuid userId), ("user_agent", .opt .text .text userAgent),
    ("expires_at", .timestamp expiresAt)]

theorem Session.create_sends {userId : Uuid} {userAgent : Option String} {expiresAt : Time.Instant}
    (h : ∀ id, S (.run (.insert table (row id userId userAgent expiresAt) .returning))) :
    Sends S (create userId userAgent expiresAt) :=
  .bind .newId fun id => .one (h id)

def Category.Draft.row (id : Uuid) (d : Draft) : List Sql.Assignment :=
  [("id", .uuid id), ("name", .text (Text.trim d.name))]

theorem Category.create_sends {d : Draft}
    (h : ∀ id, S (.run (.insert table (d.row id) .returning))) : Sends S (create d) :=
  .bind .newId fun id => .one (h id)

namespace Attachment

inductive Replacing (owner : AttachmentOwner) (ownerId : Uuid) (inputs : List Input) :
    Sql.Statement → Prop
  | clear : Replacing owner ownerId inputs (clear owner ownerId)
  | insertion (ids : List Uuid) (hn : inputs ≠ []) (hl : ids.length = inputs.length) :
      Replacing owner ownerId inputs
        (insertion owner (List.zipWith (Input.row ownerId) ids inputs))

theorem freshRows_bind_sends {ownerId : Uuid} {inputs : List Input}
    {k : List (List Sql.Value) → Action ε α}
    (h : ∀ ids : List Uuid, ids.length = inputs.length →
      Sends S (k (List.zipWith (Input.row ownerId) ids inputs))) :
    Sends S (freshRows ownerId inputs >>= k) := by
  induction inputs generalizing k with
  | nil =>
    rw [freshRows, pure_bind]
    exact h [] rfl
  | cons input rest ih =>
    simp only [freshRows, bind_assoc, pure_bind]
    exact .bind .newId fun id => ih fun ids hl => h (id :: ids) (by simp [hl])

theorem replace_sends {owner : AttachmentOwner} {ownerId : Uuid} {inputs : List Input}
    (h : ∀ st, Replacing owner ownerId inputs st → S (.run st)) :
    Sends S (replace owner ownerId inputs) := by
  refine .bind (.run (h _ .clear)) fun _ => ?_
  split
  · exact .pure _
  · rename_i hn
    refine freshRows_bind_sends fun ids hl => ?_
    exact .bind (.run (h _ (.insertion ids (by simpa using hn) hl))) fun _ => .pure _

end Attachment

section

variable (hbegin : S .begin) (hcommit : S .commit) (hrollback : S .rollback)

include hbegin hcommit hrollback

theorem Business.create_sends {ownerId : Uuid} {d : Draft}
    (hinsert : ∀ id, S (.run (.insert table (d.row id ownerId) .nothing)))
    (hreplace : ∀ id st, Attachment.Replacing .business id d.attachments st → S (.run st))
    (hread : ∀ id, S (.run (.select (detailed.byId id)))) : Sends S (create ownerId d) := by
  refine .bind .newId fun id => .bind (.transaction hbegin hcommit hrollback ?_) fun _ => ?_
  · exact .bind (.run (hinsert id)) fun _ =>
      .bind (Attachment.replace_sends (hreplace id)) fun _ => .pure _
  · refine .bind (.optional (hread id)) fun details? => ?_
    cases details? with
    | none => exact .ofExcept _
    | some details => exact .pure _

theorem Business.update_sends {id : Uuid} {c : Change}
    (hupdate : S (.run (.update table c.assignments id)))
    (hreplace : ∀ inputs st, c.attachments = some inputs →
      Attachment.Replacing .business id inputs st → S (.run st))
    (hread : S (.run (.select (detailed.byId id)))) : Sends S (update id c) := by
  refine .bind (.transaction hbegin hcommit hrollback (.bind (.optional hupdate) fun found? => ?_))
    fun updated => ?_
  · cases found? with
    | none => exact .pure _
    | some found =>
      cases hc : c.attachments with
      | none => exact .pure _
      | some inputs =>
        exact .bind (Attachment.replace_sends fun st => hreplace inputs st hc) fun _ => .pure _
  · cases updated with
    | none => exact .pure _
    | some _ => exact .optional hread

theorem Review.create_sends {userId : Uuid} {d : Draft}
    (hinsert : ∀ id, S (.run (.insert table (d.row id userId) .nothing)))
    (hreplace : ∀ id st, Attachment.Replacing .review id d.attachments st → S (.run st))
    (hread : ∀ id, S (.run (.select (detailed.byId id)))) : Sends S (create userId d) := by
  refine .bind .newId fun id => .bind (.transaction hbegin hcommit hrollback ?_) fun _ => ?_
  · exact .bind (.run (hinsert id)) fun _ =>
      .bind (Attachment.replace_sends (hreplace id)) fun _ => .pure _
  · refine .bind (.optional (hread id)) fun details? => ?_
    cases details? with
    | none => exact .ofExcept _
    | some details => exact .pure _

theorem Review.update_sends {id : Uuid} {c : Change}
    (hupdate : S (.run (.update table c.assignments id)))
    (hreplace : ∀ inputs st, c.attachments = some inputs →
      Attachment.Replacing .review id inputs st → S (.run st))
    (hread : S (.run (.select (detailed.byId id)))) : Sends S (update id c) := by
  refine .bind (.transaction hbegin hcommit hrollback (.bind (.optional hupdate) fun found? => ?_))
    fun updated => ?_
  · cases found? with
    | none => exact .pure _
    | some found =>
      cases hc : c.attachments with
      | none => exact .pure _
      | some inputs =>
        exact .bind (Attachment.replace_sends fun st => hreplace inputs st hc) fun _ => .pure _
  · cases updated with
    | none => exact .pure _
    | some _ => exact .optional hread

theorem Follower.toggle_sends {followerId followingId : Uuid}
    (hdelete : S (.run (.delete .plain table (keys followerId followingId))))
    (hinsert : S (.run (.insert table (keys followerId followingId) .keepExisting))) :
    Sends S (toggle followerId followingId) := by
  refine .bind (.transaction hbegin hcommit hrollback (.bind (.touched hdelete) fun removed => ?_))
    fun _ => .pure _
  cases removed with
  | true => exact .pure _
  | false => exact .bind (.run hinsert) fun _ => .pure _

end

theorem Report.create_sends {userId : Uuid} {d : Report.Draft}
    (h : ∀ id, S (.run (.insert Report.table (d.row id userId) .returning))) :
    Sends S (Report.create userId d) := .bind .newId fun id => .one (h id)

theorem Notification.create_sends {senderId : Uuid} {d : Notification.Draft}
    (h : ∀ id, S (.run (.insert Notification.table (d.row id senderId) .returning))) :
    Sends S (Notification.create senderId d) := .bind .newId fun id => .one (h id)

theorem Event.create_sends {d : Event.Draft}
    (h : ∀ id, S (.run (.insert Event.table (d.row id) .returning))) :
    Sends S (Event.create d) := .bind .newId fun id => .one (h id)

theorem Bookmark.create_sends {userId : Uuid} {d : Bookmark.Draft}
    (h : ∀ id, S (.run (.insert Bookmark.table (d.row id userId) .returning))) :
    Sends S (Bookmark.create userId d) := .bind .newId fun id => .one (h id)

theorem Promotion.create_sends {userId : Uuid} {d : Promotion.Draft}
    (h : ∀ id, S (.run (.insert Promotion.table (d.row id userId) .returning))) :
    Sends S (Promotion.create userId d) := .bind .newId fun id => .one (h id)

end CityGuide
