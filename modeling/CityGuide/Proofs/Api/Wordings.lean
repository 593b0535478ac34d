import CityGuide.Proofs.Api.AccountValidity
import CityGuide.Proofs.Api.PartialUpdates
import CityGuide.Proofs.StoredForms
import CityGuide.Proofs.Text.Trimming

namespace CityGuide

open Store Store.Action

theorem requireText_eq_ok {field s : String} :
    requireText field s = .ok () ↔ Text.isBlankText s = false := by
  rw [requireText, requireThat_eq_ok, Bool.not_eq_true']

theorem present_of_given {field x : String} {text? : Option String}
    (h : given text? (requireText field) = .ok ()) (hx : text? = some x) :
    Text.isBlankText x = false := requireText_eq_ok.mp (given_eq_ok.mp h x hx)

theorem Category.Change.lookup_name {c : Change} {x : String} (h : c.name = some x) :
    c.assignments.lookup "name" = some (.text (Text.trim x)) := by
  rw [assignments, h]
  rfl

theorem Business.Change.lookup_name {c : Change} {x : String} (h : c.name = some x) :
    c.assignments.lookup "name" = some (.text x) := by
  rw [assignments, h]
  rfl

theorem Event.Change.lookup_title {c : Change} {x : String} (h : c.title = some x) :
    c.assignments.lookup "title" = some (.text (Text.trim x)) := by
  rw [assignments, h]
  rfl

theorem Report.Change.lookup_reason {c : Change} {x : String} (h : c.reason = some x) :
    c.assignments.lookup "reason" = some (.text (Text.trim x)) := by
  rw [assignments, h]
  rfl

theorem Review.Change.lookup_comment {c : Change} {x : String} (h : c.comment = some x) :
    c.assignments.lookup "comment" = some (.text (Text.trim x)) := by
  rw [assignments, h]
  cases c.rating <;> rfl

theorem Notification.Change.lookup_message {c : Change} {x : String} (h : c.message = some x) :
    c.assignments.lookup "message" = some (.text x) := by
  rw [assignments, h]
  rfl

namespace Api

open Handling

inductive Occasion where
  | creation
  | change
  deriving DecidableEq, Repr

inductive Wording where
  | category
  | business
  | event
  | report
  | review
  | notification
  deriving DecidableEq, Repr

namespace Wording

def resource : Wording → String
  | category => "business-category"
  | business => "business"
  | event => "event"
  | report => "report"
  | review => "review"
  | notification => "notification"

def table : Wording → String
  | category => Category.table
  | business => Business.table
  | event => Event.table
  | report => Report.table
  | review => Review.table
  | notification => Notification.table

def column : Wording → String
  | category | business => "name"
  | event => "title"
  | report => "reason"
  | review => "comment"
  | notification => "message"

def checked : Wording → Bool
  | review => false
  | category | business | event | report | notification => true

def endpoint (w : Wording) : Occasion → Endpoint
  | .creation => .fixed .post ["v1", w.resource]
  | .change => .named .put ["v1", w.resource]

def kept : Wording → Occasion → String → String
  | business, .change, x | notification, .change, x => x
  | category, _, x | business, .creation, x | event, _, x | report, _, x | review, _, x
  | notification, .creation, x => Text.trim x

def Says {α : Type} (r : Http.Request) (dec : Json.Decoder α) (text? : α → Option String)
    (x : String) : Prop :=
  ∃ a, (⟨r, none, none⟩ : Incoming).body dec = .ok a ∧ text? a = some x

def Gives (r : Http.Request) (x : String) : Wording → Occasion → Prop
  | category, .creation => Says r Category.Draft.decode (fun d => some d.name) x
  | category, .change => Says r Category.Change.decode Category.Change.name x
  | business, .creation => Says r Business.Draft.decode (fun d => some d.name) x
  | business, .change => Says r Business.Change.decode Business.Change.name x
  | event, .creation => Says r Event.Draft.decode (fun d => some d.title) x
  | event, .change => Says r Event.Change.decode Event.Change.title x
  | report, .creation => Says r Report.Draft.decode (fun d => some d.reason) x
  | report, .change => Says r Report.Change.decode Report.Change.reason x
  | review, .creation => Says r Review.Draft.decode (fun d => some d.comment) x
  | review, .change => Says r Review.Change.decode Review.Change.comment x
  | notification, .creation => Says r Notification.Draft.decode (fun d => some d.message) x
  | notification, .change => Says r Notification.Change.decode Notification.Change.message x

def handler : Wording → Occasion → Handler
  | category, .creation => Categories.create
  | category, .change => Categories.update
  | business, .creation => Businesses.create
  | business, .change => Businesses.update
  | event, .creation => Events.create
  | event, .change => Events.update
  | report, .creation => Reports.create
  | report, .change => Reports.update
  | review, .creation => Reviews.create
  | review, .change => Reviews.update
  | notification, .creation => Notifications.create
  | notification, .change => Notifications.update

inductive Binds (w : Wording) : Occasion → Sql.Statement → List Sql.Assignment → Prop
  | creation {row : List Sql.Assignment} {ending : Sql.Ending} :
      Binds w .creation (.insert w.table row ending) row
  | change {changes : List Sql.Assignment} {id : Uuid} :
      Binds w .change (.update w.table changes id) changes

variable {w : Wording} {o : Occasion} {r : Http.Request} {x : String} {c? : Option Caller}
  {name? : Option (List Char)} {e : Endpoint}

theorem kept_eq_trim_iff : w.kept .change x = w.kept .creation x ↔
    w ≠ .business ∧ w ≠ .notification ∨ Text.trim x = x := by
  cases w <;> simp [kept, eq_comm]

structure Sets (w : Wording) (o : Occasion) (x : String) (assigned : List Sql.Assignment) :
    Prop where
  text : assigned.lookup w.column = some (.text (w.kept o x))
  present : w.checked = true → Text.isBlankText x = false

theorem endpoint_inj {v : Wording} {p : Occasion} (h : w.endpoint o = v.endpoint p) :
    w = v ∧ o = p := by
  revert h
  cases w <;> cases v <;> cases o <;> cases p <;> decide

theorem Says.eq_some {α : Type} {dec : Json.Decoder α} {text? : α → Option String} {a : α}
    (h : Says r dec text? x) (ha : (⟨r, none, none⟩ : Incoming).body dec = .ok a) :
    text? a = some x := by
  obtain ⟨a', ha', hx⟩ := h
  rwa [Except.ok.inj (ha.symm.trans ha')]

end Wording

theorem Footprint.sets_created {w : Wording} {r : Http.Request} {x : String} {c? : Option Caller}
    {name? : Option (List Char)} {assigned : List Sql.Assignment} {ending : Sql.Ending}
    (hf : Footprint ⟨r, c?, name?⟩ (w.endpoint .creation) (.insert w.table assigned ending))
    (hx : w.Gives r x .creation) : w.Sets .creation x assigned := by
  generalize he : w.endpoint .creation = e at hf
  generalize hst : Sql.Statement.insert w.table assigned ending = st at hf
  cases hf with
  | look hk => simpa [← hst, Sql.Statement.isWrite] using hk.isWrite_eq_false
  | createCategory _ hbody _ hv =>
    obtain ⟨rfl, -⟩ := Wording.endpoint_inj (v := .category) (p := .creation) he
    obtain ⟨-, rfl, -⟩ := Sql.Statement.insert.inj hst
    obtain rfl := Option.some.inj (hx.eq_some hbody)
    exact ⟨rfl, fun _ => requireText_eq_ok.mp hv⟩
  | createBusiness _ hbody _ hv =>
    obtain ⟨rfl, -⟩ := Wording.endpoint_inj (v := .business) (p := .creation) he
    obtain ⟨-, rfl, -⟩ := Sql.Statement.insert.inj hst
    obtain rfl := Option.some.inj (hx.eq_some hbody)
    exact ⟨rfl, fun _ => requireText_eq_ok.mp (bind_valid.mp hv).1⟩
  | createReview _ hbody =>
    obtain ⟨rfl, -⟩ := Wording.endpoint_inj (v := .review) (p := .creation) he
    obtain ⟨-, rfl, -⟩ := Sql.Statement.insert.inj hst
    obtain rfl := Option.some.inj (hx.eq_some hbody)
    exact ⟨rfl, fun h => absurd h Bool.false_ne_true⟩
  | createReport _ hbody _ hv =>
    obtain ⟨rfl, -⟩ := Wording.endpoint_inj (v := .report) (p := .creation) he
    obtain ⟨-, rfl, -⟩ := Sql.Statement.insert.inj hst
    obtain rfl := Option.some.inj (hx.eq_some hbody)
    exact ⟨rfl, fun _ => requireText_eq_ok.mp hv⟩
  | createNotification _ hbody _ hv =>
    obtain ⟨rfl, -⟩ := Wording.endpoint_inj (v := .notification) (p := .creation) he
    obtain ⟨-, rfl, -⟩ := Sql.Statement.insert.inj hst
    obtain rfl := Option.some.inj (hx.eq_some hbody)
    exact ⟨rfl, fun _ => requireText_eq_ok.mp hv⟩
  | createEvent _ hbody _ hv =>
    obtain ⟨rfl, -⟩ := Wording.endpoint_inj (v := .event) (p := .creation) he
    obtain ⟨-, rfl, -⟩ := Sql.Statement.insert.inj hst
    obtain rfl := Option.some.inj (hx.eq_some hbody)
    exact ⟨rfl, fun _ => requireText_eq_ok.mp (bind_valid.mp hv).1⟩
  | attachToNewBusiness _ _ _ hr | attachToBusiness _ _ _ _ _ hr | attachToNewReview _ _ _ hr
  | attachToReview _ _ _ _ _ hr =>
    subst hst
    cases hr
  | _ =>
    cases w <;>
      simp [Wording.endpoint, Wording.resource, Endpoint.fixed, Endpoint.named] at he hst

theorem Footprint.sets_changed {w : Wording} {r : Http.Request} {x : String} {c? : Option Caller}
    {name? : Option (List Char)} {assigned : List Sql.Assignment} {id : Uuid}
    (hf : Footprint ⟨r, c?, name?⟩ (w.endpoint .change) (.update w.table assigned id))
    (hx : w.Gives r x .change) : w.Sets .change x assigned := by
  generalize he : w.endpoint .change = e at hf
  generalize hst : Sql.Statement.update w.table assigned id = st at hf
  cases hf with
  | look hk => simpa [← hst, Sql.Statement.isWrite] using hk.isWrite_eq_false
  | @updateCategory _ _ change _ _ hbody _ hv =>
    obtain ⟨rfl, -⟩ := Wording.endpoint_inj (v := .category) (p := .change) he
    obtain ⟨-, rfl, -⟩ := Sql.Statement.update.inj hst
    have hgiven := hx.eq_some hbody
    exact ⟨Category.Change.lookup_name hgiven, fun _ => present_of_given hv hgiven⟩
  | @updateBusiness _ _ change _ _ hbody hv =>
    obtain ⟨rfl, -⟩ := Wording.endpoint_inj (v := .business) (p := .change) he
    obtain ⟨-, rfl, -⟩ := Sql.Statement.update.inj hst
    have hgiven := hx.eq_some hbody
    exact ⟨Business.Change.lookup_name hgiven,
      fun _ => present_of_given (bind_valid.mp hv).1 hgiven⟩
  | @updateReview _ _ change _ _ hbody _ =>
    obtain ⟨rfl, -⟩ := Wording.endpoint_inj (v := .review) (p := .change) he
    obtain ⟨-, rfl, -⟩ := Sql.Statement.update.inj hst
    have hgiven := hx.eq_some hbody
    exact ⟨Review.Change.lookup_comment hgiven, fun h => absurd h Bool.false_ne_true⟩
  | @updateReport _ _ change _ _ hbody hv =>
    obtain ⟨rfl, -⟩ := Wording.endpoint_inj (v := .report) (p := .change) he
    obtain ⟨-, rfl, -⟩ := Sql.Statement.update.inj hst
    have hgiven := hx.eq_some hbody
    exact ⟨Report.Change.lookup_reason hgiven, fun _ => present_of_given hv hgiven⟩
  | @updateNotification _ _ change _ _ hbody hv =>
    obtain ⟨rfl, -⟩ := Wording.endpoint_inj (v := .notification) (p := .change) he
    obtain ⟨-, rfl, -⟩ := Sql.Statement.update.inj hst
    have hgiven := hx.eq_some hbody
    exact ⟨Notification.Change.lookup_message hgiven, fun _ => present_of_given hv hgiven⟩
  | @updateEvent _ _ _ change _ _ hbody hv =>
    obtain ⟨rfl, -⟩ := Wording.endpoint_inj (v := .event) (p := .change) he
    obtain ⟨-, rfl, -⟩ := Sql.Statement.update.inj hst
    have hgiven := hx.eq_some hbody
    exact ⟨Event.Change.lookup_title hgiven,
      fun _ => present_of_given (bind_valid.mp hv).1 hgiven⟩
  | attachToNewBusiness _ _ _ hr | attachToBusiness _ _ _ _ _ hr | attachToNewReview _ _ _ hr
  | attachToReview _ _ _ _ _ hr =>
    subst hst
    cases hr
  | _ =>
    cases w <;>
      simp [Wording.endpoint, Wording.resource, Endpoint.fixed, Endpoint.named] at he hst

theorem Footprint.sets_text {w : Wording} {o : Occasion} {r : Http.Request} {x : String}
    {c? : Option Caller} {name? : Option (List Char)} {st : Sql.Statement}
    {assigned : List Sql.Assignment} (hf : Footprint ⟨r, c?, name?⟩ (w.endpoint o) st)
    (hx : w.Gives r x o) (hb : w.Binds o st assigned) : w.Sets o x assigned := by
  cases hb with
  | creation => exact hf.sets_created hx
  | change => exact hf.sets_changed hx

namespace Wording

variable {w : Wording} {o : Occasion}

theorem handler_mem (w : Wording) (o : Occasion) (policy : TokenPolicy) :
    (w.endpoint o, w.handler o) ∈ endpoints policy := by
  cases w <;> cases o <;>
    simp [endpoint, handler, resource, endpoints, Route.endpoints, routes, path, named,
      Endpoint.fixed, Endpoint.named]

def Carries (w : Wording) (o : Occasion) (x : Exchange) : Prop :=
  ∃ st assigned, x.1 = .run st ∧ w.Binds o st assigned

theorem ensures_run {row : List Sql.Assignment} {ending : Sql.Ending} :
    Ensures (w.Carries .creation) (run (.insert w.table row ending)) := by
  intro t x ht
  obtain ⟨r, rfl, -⟩ := runs_send.mp ht
  exact ⟨_, .head _, _, row, rfl, .creation⟩

theorem ensures_stored {α β : Type} {a : Action Failure α} {k : α → Handling β}
    (h : Ensures (w.Carries o) a) : Ensures (w.Carries o) (ofStore a >>= k) := h.mapError.bind_left

theorem ensures_creation (w : Wording) (i : Incoming) :
    Ensures (w.Carries .creation) (w.handler .creation i) := by
  cases w with
  | category | report | notification =>
    refine .bind_right fun c => .bind_right fun d => .bind_right fun _ => .bind_right fun _ => ?_
    exact ensures_stored (.bind_right fun id => .bind_left (.bind_left ensures_run))
  | event =>
    refine .bind_right fun c => .bind_right fun d => .bind_right fun _ => .bind_right fun _ =>
      .bind_right fun _ => ?_
    exact ensures_stored (.bind_right fun id => .bind_left (.bind_left ensures_run))
  | business | review =>
    refine .bind_right fun c => .bind_right fun d => .bind_right fun _ => .bind_right fun _ => ?_
    exact ensures_stored (.bind_right fun id => .bind_left (.transaction (.bind_left ensures_run)))

theorem ensures_change (w : Wording) (i : Incoming) :
    Ensures (w.Carries .change) (w.handler .change i) := by
  have amended {a : Amendment} (ha : a ∈ amendments) (hw : a.table = w.table) :
      Ensures (w.Carries .change) (a.handler i) := by
    intro t x ht
    obtain ⟨y, hy, changes, id, hsent⟩ := Amendment.ensures ha i t x ht
    exact ⟨y, hy, _, changes, hw ▸ hsent, .change⟩
  cases w with
  | category => exact amended (a := .ofCategory) (by simp [amendments]) rfl
  | business => exact amended (a := .ofBusiness) (by simp [amendments]) rfl
  | event => exact amended (a := .ofEvent) (by simp [amendments]) rfl
  | report => exact amended (a := .ofReport) (by simp [amendments]) rfl
  | review => exact amended (a := .ofReview) (by simp [amendments]) rfl
  | notification => exact amended (a := .ofNotification) (by simp [amendments]) rfl

end Wording

end Api

end CityGuide
