import CityGuide.Proofs.Api.Parallel
import CityGuide.Proofs.Api.Revocation
import CityGuide.Proofs.Json.ReadBack
import CityGuide.Proofs.Json.Tracking
import CityGuide.Proofs.Store.Veiling

namespace CityGuide

open Json (Document DocumentBut Texts)

def LongEnough (s s' : String) : Prop :=
  User.minPasswordLength ≤ s.length ∧ User.minPasswordLength ≤ s'.length

theorem passwords_of_texts {s s' : String} (h : Texts LongEnough id s s') :
    User.Passwords s s' := by
  cases h with
  | same => exact .inl rfl
  | texts h => exact .inr h

theorem passwords_of_texts? {s? s?' : Option String} (h : Texts LongEnough some s? s?') :
    Option.Rel User.Passwords s? s?' := by
  cases h with
  | same =>
    cases s? with
    | none => exact .none
    | some s => exact .some (.inl rfl)
  | texts h => exact .some (.inr h)

open Json.Shape.Tracks

variable {d d' : Document}

theorem User.Draft.decode_related (hd : DocumentBut "password" (some 3) LongEnough d d') :
    Outcomes Eq But (decode d) (decode d') := by
  refine Json.Shape.Tracks.decode ?_ hd
  refine .seq ?_ (after (by decide))
  refine .seq ?_ (text fun _ => rfl)
  refine .seq ?_ (before (by decide))
  refine .seq ?_ (before (by decide))
  refine .map ?_ (before (by decide))
  rintro _ _ rfl _ _ rfl _ _ rfl _ _ hpassword _ _ rfl
  exact ⟨_, rfl, passwords_of_texts hpassword⟩

theorem User.Change.decode_related (hd : DocumentBut "password" (some 3) LongEnough d d') :
    Outcomes Eq But (decode d) (decode d') := by
  refine Json.Shape.Tracks.decode ?_ hd
  iterate 5 refine .seq ?_ (after (by decide))
  refine .seq ?_ (text fun _ => rfl)
  iterate 2 refine .seq ?_ (before (by decide))
  refine .map ?_ (before (by decide))
  rintro _ _ rfl _ _ rfl _ _ rfl _ _ hpassword _ _ rfl _ _ rfl _ _ rfl _ _ rfl _ _ rfl
  exact ⟨_, rfl, passwords_of_texts? hpassword⟩

namespace Api

open Http (Request Response)
open Store Store.Action Handling

variable {place? : Option Nat} {r : Request} {body : Http.Content} {c? : Option Caller}
  {name? : Option (List Char)}

inductive BodyBut (place? : Option Nat) : Http.Content → Http.Content → Prop
  | overlong : BodyBut place? .overlong .overlong
  | whole {text text' : String} {d d' : Document} {ended : Bool}
      (hd : Document.ofChars text.toList = (d, ended))
      (hd' : Document.ofChars text'.toList = (d', ended))
      (h : DocumentBut "password" place? LongEnough d d') :
      BodyBut place? (.whole text) (.whole text')

theorem Incoming.decoded_related {α : Type} {R : α → α → Prop} {dec : Json.Decoder α}
    {text text' : String}
    (h : Outcomes Eq R (Json.decodeText dec text) (Json.decodeText dec text')) :
    Outcomes Eq R (decoded dec text) (decoded dec text') := by
  rw [decoded, decoded]
  generalize Json.decodeText dec text = o at h ⊢
  generalize Json.decodeText dec text' = o' at h ⊢
  cases h with
  | @failed flaw _ h => cases h; cases flaw <;> exact .failed rfl
  | held h => exact .held h

theorem Incoming.body_related {α : Type} {R : α → α → Prop} {dec : Json.Decoder α}
    (hb : BodyBut place? r.body body)
    (hdec : ∀ d d', DocumentBut "password" place? LongEnough d d' →
      Outcomes Eq R (dec d) (dec d')) :
    Outcomes Eq R (Incoming.body ⟨r, c?, name?⟩ dec)
      (Incoming.body ⟨{ r with body }, c?, name?⟩ dec) := by
  have hheader : Request.headerText? { r with body } "content-type" =
      r.headerText? "content-type" := rfl
  simp only [Incoming.body, hheader]
  split
  · generalize r.body = content at hb ⊢
    cases hb with
    | overlong => exact .failed rfl
    | whole hd hd' hbut => exact decoded_related (Json.decodeText_related hd hd' (hdec _ _ hbut))
  · exact .failed rfl

theorem veiled_indistinct : Indistinct veiled := by
  rintro f _ rfl
  rfl

def Auth.Registration.But (b b' : Auth.Registration) : Prop :=
  ∃ password, b' = { b with password } ∧ User.Passwords b.password password

theorem Auth.Registration.But.draft {b b' : Auth.Registration} (h : b.But b') :
    b.draft.But b'.draft := by
  obtain ⟨password, rfl, hpassword⟩ := h
  exact ⟨password, rfl, hpassword⟩

theorem Auth.Registration.decode_related {d d' : Document}
    (hd : DocumentBut "password" (some 3) LongEnough d d') :
    Outcomes Eq But (decode d) (decode d') := by
  refine Json.Shape.Tracks.decode ?_ hd
  refine .seq ?_ (text fun _ => rfl)
  iterate 2 refine .seq ?_ (before (by decide))
  refine .map ?_ (before (by decide))
  rintro _ _ rfl _ _ rfl _ _ rfl _ _ hpassword
  exact ⟨_, rfl, passwords_of_texts hpassword⟩

namespace Users

theorem existing_related {α α' : Type} {R : α → α' → Prop} {a : Action Failure (Option α)}
    {a' : Action Failure (Option α')} (h : Parallel veiled Eq (Option.Rel R) a a') :
    Parallel veiled Eq R (existing a) (existing a') := by
  refine .bind (ofStore_parallel veiled_indistinct h) fun o o' ho => .ofExcept ?_
  cases ho with
  | none => exact .failed rfl
  | some h => exact .held h

theorem get_veiled (i : Incoming) : Parallel veiled Eq Eq (get i) (get i) := by
  refine .gate (Outcomes.refl _) fun _ _ _ => .gate (Outcomes.refl _) fun id _ hid => hid ▸ ?_
  refine .bind (existing_related (User.find_veiled id)) fun user user' hu => ?_
  rw [hu.toJson_eq]
  exact .pure rfl

theorem admitted_veiled {change change' : User.Change} (h : change.But change') (c : Caller)
    (id : Uuid) : admitted c id change = admitted c id change' := by
  have hprivileges : change.changesPrivileges = change'.changesPrivileges := by
    obtain ⟨password, rfl, -⟩ := h
    rfl
  rw [admitted, admitted, hprivileges, h.validate_eq]

theorem applyChange_veiled {change change' : User.Change} (h : change.But change') (c : Caller)
    (id : Uuid) : Parallel veiled Eq Eq (applyChange c id change) (applyChange c id change') := by
  rw [applyChange_eq, applyChange_eq, admitted_veiled h]
  refine .gate (Outcomes.refl _) fun _ _ _ => ?_
  refine .bind (existing_related (User.update_veiled h id)) fun user user' hu => ?_
  rw [h.revokesSessions_eq, hu.toJson_eq]
  split
  · exact .bind (ofStore_parallel veiled_indistinct (.affected (.same _))) fun _ _ _ => .pure rfl
  · exact .pure rfl

theorem update_veiled (hb : BodyBut (some 3) r.body body) :
    Parallel veiled Eq Eq (update ⟨r, c?, name?⟩) (update ⟨{ r with body }, c?, name?⟩) := by
  refine .gate (Outcomes.refl _) fun c _ hc => hc ▸ .gate (Outcomes.refl _) fun id _ hid => hid ▸ ?_
  exact .gate (Incoming.body_related hb fun _ _ => User.Change.decode_related)
    fun change change' hbut => applyChange_veiled hbut c id

end Users

namespace Server

variable {s : Server} {t : List Step} {v? : Option Response}

end Server

end Api

end CityGuide
