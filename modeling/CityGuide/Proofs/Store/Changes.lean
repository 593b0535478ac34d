import CityGuide.Account.User
import CityGuide.Guide.Bookmark
import CityGuide.Guide.Business
import CityGuide.Guide.Category
import CityGuide.Guide.Event
import CityGuide.Guide.Report
import CityGuide.Guide.Review
import CityGuide.Proofs.Json.Parts
import CityGuide.Social.Notification

namespace CityGuide

open Json Json.Decode Json.Shape Sql

structure Slot where
  key : String
  column : String
  read : Decoder Value

namespace Slot

variable {α : Type} {part : String → Document} {slot : Slot} {slots : List Slot}

def of (key : String) (dec : Decoder α) (value : α → Value) : Slot :=
  ⟨key, key, fun d => (dec d).map value⟩

def given (part : String → Document) (slots : List Slot) : List Slot :=
  slots.filter fun slot => !(part slot.key).isNull

def Sets (part : String → Document) (slot : Slot) (change : Assignment) : Prop :=
  change.1 = slot.column ∧ slot.read (part slot.key) = .ok change.2

def Assigns (part : String → Document) (slots : List Slot) (changes : List Assignment) : Prop :=
  List.Forall₂ (Sets part) (given part slots) changes

theorem assigns_nil : Assigns part [] (present []) := .nil

theorem assigns_cons {dec : Decoder α} {value : α → Value} {o : Option α}
    {columns : List (String × Option Value)} (hread : slot.read = fun d => (dec d).map value)
    (ho : opt dec (part slot.key) = .ok o) (hs : Assigns part slots (present columns)) :
    Assigns part (slot :: slots) (present ((slot.column, o.map value) :: columns)) := by
  cases hd : (part slot.key).isNull with
  | true =>
    obtain rfl := Except.ok.inj ((opt_of_isNull hd).symm.trans ho)
    rw [Assigns, given, List.filter_cons_of_neg (by simp [hd])]
    exact hs
  | false =>
    rw [opt_of_given hd] at ho
    cases ha : dec (part slot.key) with
    | error e => simp [ha, Except.map] at ho
    | ok a =>
      obtain rfl : some a = o := by simpa [ha, Except.map] using ho
      have hv : slot.read (part slot.key) = .ok (value a) := by simp only [hread, ha, Except.map]
      rw [Assigns, given, List.filter_cons_of_pos (by simp [hd])]
      exact .cons ⟨rfl, hv⟩ hs

theorem Assigns.columns {changes : List Assignment} (h : Assigns part slots changes) :
    changes.map Prod.fst = (given part slots).map Slot.column := by
  rw [Assigns] at h
  generalize given part slots = chosen at h
  induction h with
  | nil => rfl
  | cons hfirst _ ih => rw [List.map_cons, List.map_cons, hfirst.1, ih]

end Slot

open Slot (assigns_cons assigns_nil)

variable {doc : Document}

namespace Category.Change

def names : List String := ["name"]

def slots : List Slot := [.of "name" text fun s => .text (Text.trim s)]

theorem assigns {c : Change} (h : decode doc = .ok c) :
    Slot.Assigns (doc.part names) slots c.assignments := by
  have hreads := Reads.first Change.mk "name" text
  obtain ⟨name, hname, hmk⟩ := bind_eq_ok.mp (hreads.decode (by decide) h)
  obtain rfl := Except.ok.inj hmk
  exact assigns_cons rfl hname assigns_nil

end Category.Change

namespace User.Change

def names : List String :=
  ["full_name", "user_name", "email", "password", "profile_picture", "gender", "bio", "user_type",
    "status"]

def slots (salt : Password.Salt) : List Slot :=
  [.of "full_name" text .text, .of "user_name" text .text, .of "email" text .text,
    ⟨"password", "password_hash", fun d => (text d).map fun p => .text (Password.hash salt p)⟩,
    .of "profile_picture" text .text, .of "gender" text .text, .of "bio" text .text,
    .of "user_type" UserType.decode fun t => .text t.name, .of "status" text .text]

theorem assigns {c : Change} (salt : Password.Salt) (h : decode doc = .ok c) :
    Slot.Assigns (doc.part names) (slots salt)
      (c.assignments (c.password.map (Password.hash salt))) := by
  have hreads := (Reads.first Change.mk "full_name" text).field "user_name" text
    |>.field "email" text |>.field "password" text |>.field "profile_picture" text
    |>.field "gender" text |>.field "bio" text |>.field "user_type" UserType.decode
    |>.field "status" text
  obtain ⟨_, status, h8, hstatus, rfl⟩ := seq_eq_ok.mp (hreads.decode (by decide) h)
  obtain ⟨_, userType, h7, htype, rfl⟩ := seq_eq_ok.mp h8
  obtain ⟨_, bio, h6, hbio, rfl⟩ := seq_eq_ok.mp h7
  obtain ⟨_, gender, h5, hgender, rfl⟩ := seq_eq_ok.mp h6
  obtain ⟨_, picture, h4, hpicture, rfl⟩ := seq_eq_ok.mp h5
  obtain ⟨_, password, h3, hpassword, rfl⟩ := seq_eq_ok.mp h4
  obtain ⟨_, email, h2, hemail, rfl⟩ := seq_eq_ok.mp h3
  obtain ⟨_, userName, h1, huser, rfl⟩ := seq_eq_ok.mp h2
  obtain ⟨fullName, hfull, hmk⟩ := bind_eq_ok.mp h1
  obtain rfl := Except.ok.inj hmk
  have hhash : (password.map (Password.hash salt)).map Value.text =
      password.map fun p => .text (Password.hash salt p) := by simp [Function.comp_def]
  simp only [assignments, hhash]
  refine assigns_cons rfl hfull (assigns_cons rfl huser (assigns_cons rfl hemail ?_))
  refine assigns_cons rfl hpassword (assigns_cons rfl hpicture (assigns_cons rfl hgender ?_))
  exact assigns_cons rfl hbio (assigns_cons rfl htype (assigns_cons rfl hstatus assigns_nil))

end User.Change

namespace Business.Change

def names : List String :=
  ["name", "description", "category_id", "address", "latitude", "longitude", "contact_info",
    "hours_of_operation", "attachments"]

def slots : List Slot :=
  [.of "name" text .text, .of "description" text .text, .of "category_id" uuid .uuid,
    .of "address" text .text, .of "latitude" float .float8, .of "longitude" float .float8,
    .of "contact_info" ContactInfo.decode fun i => .json i.toJson,
    .of "hours_of_operation" Hours.decode fun h => .json h.toJson]

theorem reads {c : Change} (h : decode doc = .ok c) :
    opt text (doc.part names "name") = .ok c.name ∧
      opt text (doc.part names "description") = .ok c.description ∧
      opt uuid (doc.part names "category_id") = .ok c.categoryId ∧
      opt text (doc.part names "address") = .ok c.address ∧
      opt float (doc.part names "latitude") = .ok c.latitude ∧
      opt float (doc.part names "longitude") = .ok c.longitude ∧
      opt ContactInfo.decode (doc.part names "contact_info") = .ok c.contactInfo ∧
      opt Hours.decode (doc.part names "hours_of_operation") = .ok c.hours ∧
      opt (Decode.list Attachment.Input.decode) (doc.part names "attachments") =
        .ok c.attachments := by
  have hreads := (Reads.first Change.mk "name" text).field "description" text
    |>.field "category_id" uuid |>.field "address" text |>.field "latitude" float
    |>.field "longitude" float |>.field "contact_info" ContactInfo.decode
    |>.field "hours_of_operation" Hours.decode
    |>.field "attachments" (Decode.list Attachment.Input.decode)
  obtain ⟨_, attachments, h8, hattachments, rfl⟩ := seq_eq_ok.mp (hreads.decode (by decide) h)
  obtain ⟨_, hours, h7, hhours, rfl⟩ := seq_eq_ok.mp h8
  obtain ⟨_, contact, h6, hcontact, rfl⟩ := seq_eq_ok.mp h7
  obtain ⟨_, longitude, h5, hlongitude, rfl⟩ := seq_eq_ok.mp h6
  obtain ⟨_, latitude, h4, hlatitude, rfl⟩ := seq_eq_ok.mp h5
  obtain ⟨_, address, h3, haddress, rfl⟩ := seq_eq_ok.mp h4
  obtain ⟨_, category, h2, hcategory, rfl⟩ := seq_eq_ok.mp h3
  obtain ⟨_, description, h1, hdescription, rfl⟩ := seq_eq_ok.mp h2
  obtain ⟨name, hname, hmk⟩ := bind_eq_ok.mp h1
  obtain rfl := Except.ok.inj hmk
  exact ⟨hname, hdescription, hcategory, haddress, hlatitude, hlongitude, hcontact, hhours,
    hattachments⟩

theorem assigns {c : Change} (h : decode doc = .ok c) :
    Slot.Assigns (doc.part names) slots c.assignments := by
  obtain ⟨hname, hdescription, hcategory, haddress, hlatitude, hlongitude, hcontact, hhours, -⟩ :=
    reads h
  refine assigns_cons rfl hname (assigns_cons rfl hdescription (assigns_cons rfl hcategory ?_))
  refine assigns_cons rfl haddress (assigns_cons rfl hlatitude (assigns_cons rfl hlongitude ?_))
  exact assigns_cons rfl hcontact (assigns_cons rfl hhours assigns_nil)

end Business.Change

namespace Review.Change

def names : List String := ["rating", "comment", "attachments"]

def slots : List Slot :=
  [.of "rating" (signedWord 32) .int4, .of "comment" text fun s => .text (Text.trim s)]

theorem reads {c : Change} (h : decode doc = .ok c) :
    opt (signedWord 32) (doc.part names "rating") = .ok c.rating ∧
      opt text (doc.part names "comment") = .ok c.comment ∧
      opt (Decode.list Attachment.Input.decode) (doc.part names "attachments") =
        .ok c.attachments := by
  have hreads := (Reads.first Change.mk "rating" (signedWord 32)).field "comment" text
    |>.field "attachments" (Decode.list Attachment.Input.decode)
  obtain ⟨_, attachments, h2, hattachments, rfl⟩ := seq_eq_ok.mp (hreads.decode (by decide) h)
  obtain ⟨_, comment, h1, hcomment, rfl⟩ := seq_eq_ok.mp h2
  obtain ⟨rating, hrating, hmk⟩ := bind_eq_ok.mp h1
  obtain rfl := Except.ok.inj hmk
  exact ⟨hrating, hcomment, hattachments⟩

theorem assigns {c : Change} (h : decode doc = .ok c) :
    Slot.Assigns (doc.part names) slots c.assignments := by
  obtain ⟨hrating, hcomment, -⟩ := reads h
  exact assigns_cons rfl hrating (assigns_cons rfl hcomment assigns_nil)

end Review.Change

namespace Report.Change

def names : List String := ["reason"]

def slots : List Slot := [.of "reason" text fun s => .text (Text.trim s)]

theorem assigns {c : Change} (h : decode doc = .ok c) :
    Slot.Assigns (doc.part names) slots c.assignments := by
  have hreads := Reads.first Change.mk "reason" text
  obtain ⟨reason, hreason, hmk⟩ := bind_eq_ok.mp (hreads.decode (by decide) h)
  obtain rfl := Except.ok.inj hmk
  exact assigns_cons rfl hreason assigns_nil

end Report.Change

namespace Notification.Change

def names : List String := ["message", "status"]

def slots : List Slot :=
  [.of "message" text .text, .of "status" NotificationStatus.decode fun s => .text s.name]

theorem assigns {c : Change} (h : decode doc = .ok c) :
    Slot.Assigns (doc.part names) slots c.assignments := by
  have hreads := (Reads.first Change.mk "message" text).field "status" NotificationStatus.decode
  obtain ⟨_, status, h1, hstatus, rfl⟩ := seq_eq_ok.mp (hreads.decode (by decide) h)
  obtain ⟨message, hmessage, hmk⟩ := bind_eq_ok.mp h1
  obtain rfl := Except.ok.inj hmk
  exact assigns_cons rfl hmessage (assigns_cons rfl hstatus assigns_nil)

end Notification.Change

namespace Event.Change

def names : List String := ["title", "description", "location", "starts_at", "ends_at"]

def slots : List Slot :=
  [.of "title" text fun s => .text (Text.trim s), .of "description" text .text,
    .of "location" text .text, .of "starts_at" instant .timestamp,
    .of "ends_at" instant .timestamp]

theorem assigns {c : Change} (h : decode doc = .ok c) :
    Slot.Assigns (doc.part names) slots c.assignments := by
  have hreads := (Reads.first Change.mk "title" text).field "description" text
    |>.field "location" text |>.field "starts_at" instant |>.field "ends_at" instant
  obtain ⟨_, endsAt, h4, hends, rfl⟩ := seq_eq_ok.mp (hreads.decode (by decide) h)
  obtain ⟨_, startsAt, h3, hstarts, rfl⟩ := seq_eq_ok.mp h4
  obtain ⟨_, location, h2, hlocation, rfl⟩ := seq_eq_ok.mp h3
  obtain ⟨_, description, h1, hdescription, rfl⟩ := seq_eq_ok.mp h2
  obtain ⟨title, htitle, hmk⟩ := bind_eq_ok.mp h1
  obtain rfl := Except.ok.inj hmk
  refine assigns_cons rfl htitle (assigns_cons rfl hdescription (assigns_cons rfl hlocation ?_))
  exact assigns_cons rfl hstarts (assigns_cons rfl hends assigns_nil)

end Event.Change

namespace Bookmark.Change

def names : List String := ["business_id"]

def slots : List Slot := [.of "business_id" uuid .uuid]

theorem assigns {c : Change} (h : decode doc = .ok c) :
    Slot.Assigns (doc.part names) slots c.assignments := by
  have hreads := Reads.first Change.mk "business_id" uuid
  obtain ⟨business, hbusiness, hmk⟩ := bind_eq_ok.mp (hreads.decode (by decide) h)
  obtain rfl := Except.ok.inj hmk
  exact assigns_cons rfl hbusiness assigns_nil

end Bookmark.Change

end CityGuide
