import CityGuide.Proofs.Store.Entities

namespace CityGuide

namespace Sql

def Select.isCount (s : Select) : Bool :=
  match s.fields with
  | [.count] => true
  | _ => false

def Select.isListed (s : Select) : Bool := s.window.isSome || s.isCount

def Statement.isPlain : Statement → Bool
  | .activeSession _ _ | .probe => false
  | .select s => !s.isListed
  | _ => true

end Sql

namespace Store

inductive Record (personal : Prop) : {α : Type} → String → (Row → Option α) → Prop
  | user (h : personal) : Record personal User.table User.ofRow
  | session : Record personal Session.table Session.ofRow
  | category : Record personal Category.table Category.ofRow
  | business : Record personal Business.table Business.ofRow
  | review : Record personal Review.table Review.ofRow
  | report : Record personal Report.table Report.ofRow
  | notification : Record personal Notification.table Notification.ofRow
  | event : Record personal Event.table Event.ofRow
  | bookmark : Record personal Bookmark.table Bookmark.ofRow
  | promotion : Record personal Promotion.table Promotion.ofRow

inductive Selected (personal : Prop) : {α : Type} → String → (Row → Option α) → Prop
  | user (h : personal) : Selected personal User.table User.ofRow
  | category : Selected personal Category.table Category.ofRow
  | business : Selected personal Business.table Business.Details.ofRow
  | review : Selected personal Review.table Review.Details.ofRow
  | report : Selected personal Report.table Report.ofRow
  | notification : Selected personal Notification.table Notification.ofRow
  | event : Selected personal Event.table Event.ofRow
  | participant : Selected personal Participant.table Participant.ofRow
  | bookmark : Selected personal Bookmark.table Bookmark.ofRow
  | promotion : Selected personal Promotion.table Promotion.ofRow
  | follower : Selected personal Follower.table Follower.ofRow

inductive Reads (personal : Prop) : {α : Type} → Sql.Statement → (Row → Option α) → Prop
  | found {α : Type} {table : String} {id : Uuid} {read : Row → Option α}
      (h : Record personal table read) : Reads personal (.find table id) read
  | inserted {α : Type} {table : String} {row : List Sql.Assignment} {read : Row → Option α}
      (h : Record personal table read) : Reads personal (.insert table row .returning) read
  | updated {α : Type} {table : String} {changes : List Sql.Assignment} {id : Uuid}
      {read : Row → Option α} (h : Record personal table read) :
      Reads personal (.update table changes id) read
  | byEmail {email : String} (h : personal) : Reads personal (.findByEmail email) User.ofRow
  | selected {α : Type} {s : Sql.Select} {read : Row → Option α} (hs : s.isCount = false)
      (h : Selected personal s.table.name read) : Reads personal (.select s) read
  | counted {s : Sql.Select} (hs : s.isCount = true) :
      Reads personal (.select s) fun row => row.first Row.int8
  | session {sessionId userId : Uuid} :
      Reads personal (.activeSession sessionId userId) fun row => row.first User.readType

inductive Asks (personal : Prop) : {α : Type} → Action Failure α → Prop
  | result {α : Type} (r : Except Failure α) : Asks personal (Action.ofExcept r)
  | newId : Asks personal (Action.newId : Action Failure Uuid)
  | newSalt : Asks personal (Action.newSalt : Action Failure Password.Salt)
  | optional {α : Type} {st : Sql.Statement} {read : Row → Option α} (hp : st.isPlain = true)
      (hr : Reads personal st read) : Asks personal (Action.optional st read)
  | affected {st : Sql.Statement} (hp : st.isPlain = true) : Asks personal (Action.affected st)
  | unread {β : Type} {st : Sql.Statement} {k : Action Failure β} (hp : st.isPlain = true)
      (hk : Asks personal k) : Asks personal (Action.run st >>= fun _ => k)
  | bind {α β : Type} {a : Action Failure α} {k : α → Action Failure β} (ha : Asks personal a)
      (hk : ∀ x, Asks personal (k x)) : Asks personal (a >>= k)

inductive Stores (personal : Prop) : {α : Type} → Action Failure α → Prop
  | asks {α : Type} {a : Action Failure α} (h : Asks personal a) : Stores personal a
  | transaction {α : Type} {body : Action Failure (Option α)} (h : Asks personal body) :
      Stores personal (Action.transaction body)
  | bind {α β : Type} {a : Action Failure α} {k : α → Action Failure β} (ha : Stores personal a)
      (hk : ∀ x, Stores personal (k x)) : Stores personal (a >>= k)

variable {personal : Prop} {α : Type} {st : Sql.Statement} {table : String} {id : Uuid}
  {read : Row → Option α}

namespace Asks

theorem pure (a : α) : Asks personal (Pure.pure a : Action Failure α) := .result (.ok a)

theorem one (hp : st.isPlain = true) (hr : Reads personal st read) :
    Asks personal (Action.one st read) := by
  refine .bind (.optional hp hr) fun found? => ?_
  cases found? with
  | none => exact .result _
  | some a => exact .result _

theorem touched (hp : st.isPlain = true) : Asks personal (Action.touched st) :=
  .bind (.affected hp) fun _ => .result _

theorem update {changes : List Sql.Assignment} (h : Record personal table read) :
    Asks personal (Action.optional (.update table changes id) read) := .optional rfl (.updated h)

end Asks

namespace Stores

theorem pure (a : α) : Stores personal (Pure.pure a : Action Failure α) := .asks (.pure a)

theorem touched (hp : st.isPlain = true) : Stores personal (Action.touched st) :=
  .asks (.touched hp)

theorem affected (hp : st.isPlain = true) : Stores personal (Action.affected st) :=
  .asks (.affected hp)

theorem find (h : Record personal table read) :
    Stores personal (Action.optional (.find table id) read) := .asks (.optional rfl (.found h))

theorem update {changes : List Sql.Assignment} (h : Record personal table read) :
    Stores personal (Action.optional (.update table changes id) read) := .asks (.update h)

theorem insert {row : Uuid → List Sql.Assignment} (h : Record personal table read) :
    Stores personal
      (Action.newId >>= fun id => Action.one (.insert table (row id) .returning) read) :=
  .asks (.bind .newId fun _ => .one rfl (.inserted h))

end Stores

end Store

open Store

variable {personal : Prop}

theorem User.create_stores (h : personal) (d : User.Draft) : Stores personal (User.create d) :=
  .asks <| .bind .newId fun _ => .bind (.bind .newSalt fun _ => .pure _) fun _ =>
    .one rfl (.inserted (.user h))

theorem User.update_stores (h : personal) (id : Uuid) (c : User.Change) :
    Stores personal (User.update id c) := by
  refine .asks (.bind ?_ fun _ => .update (.user h))
  cases c.password with
  | none => exact .pure _
  | some password => exact .bind (.bind .newSalt fun _ => .pure _) fun _ => .pure _

theorem Attachment.freshRows_asks (ownerId : Uuid) (inputs : List Attachment.Input) :
    Asks personal (Attachment.freshRows ownerId inputs) := by
  induction inputs with
  | nil => exact .pure _
  | cons input more ih => exact .bind .newId fun _ => .bind ih fun _ => .pure _

theorem Attachment.replace_asks (owner : AttachmentOwner) (ownerId : Uuid)
    (inputs : List Attachment.Input) : Asks personal (Attachment.replace owner ownerId inputs) := by
  refine .unread rfl ?_
  split
  · exact .pure _
  · exact .bind (freshRows_asks ownerId inputs) fun _ => .unread rfl (.pure _)

theorem Business.findDetails_stores (id : Uuid) : Stores personal (Business.findDetails id) :=
  .asks (.optional rfl (.selected rfl .business))

theorem Review.findDetails_stores (id : Uuid) : Stores personal (Review.findDetails id) :=
  .asks (.optional rfl (.selected rfl .review))

theorem Business.create_stores (ownerId : Uuid) (d : Business.Draft) :
    Stores personal (Business.create ownerId d) := by
  refine .bind (.asks .newId) fun id => .bind (.transaction (.unread rfl ?_)) fun _ =>
    .bind (findDetails_stores id) fun details? => ?_
  · exact .bind (Attachment.replace_asks ..) fun _ => .pure _
  · cases details? <;> exact .asks (.result _)

theorem Review.create_stores (userId : Uuid) (d : Review.Draft) :
    Stores personal (Review.create userId d) := by
  refine .bind (.asks .newId) fun id => .bind (.transaction (.unread rfl ?_)) fun _ =>
    .bind (findDetails_stores id) fun details? => ?_
  · exact .bind (Attachment.replace_asks ..) fun _ => .pure _
  · cases details? <;> exact .asks (.result _)

theorem Business.update_stores (id : Uuid) (c : Business.Change) :
    Stores personal (Business.update id c) := by
  refine .bind (.transaction (.bind (.update .business) fun found? => ?_)) fun updated? => ?_
  · cases found? with
    | none => exact .pure _
    | some b =>
      cases c.attachments with
      | none => exact .pure _
      | some inputs => exact .bind (Attachment.replace_asks ..) fun _ => .pure _
  · cases updated? with
    | none => exact .pure _
    | some b => exact findDetails_stores id

theorem Review.update_stores (id : Uuid) (c : Review.Change) :
    Stores personal (Review.update id c) := by
  refine .bind (.transaction (.bind (.update .review) fun found? => ?_)) fun updated? => ?_
  · cases found? with
    | none => exact .pure _
    | some r =>
      cases c.attachments with
      | none => exact .pure _
      | some inputs => exact .bind (Attachment.replace_asks ..) fun _ => .pure _
  · cases updated? with
    | none => exact .pure _
    | some r => exact findDetails_stores id

theorem Follower.toggle_stores (followerId followingId : Uuid) :
    Stores personal (Follower.toggle followerId followingId) := by
  refine .bind (.transaction (.bind (.touched rfl) fun removed => ?_)) fun _ => .pure _
  cases removed with
  | true => exact .pure _
  | false => exact .unread rfl (.pure _)

end CityGuide
