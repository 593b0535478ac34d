import CityGuide.Proofs.Api.Emails

namespace CityGuide

open Store

theorem bind_valid {v w : Valid} : (v >>= fun _ => w) = .ok () ↔ v = .ok () ∧ w = .ok () := by
  cases v <;> simp [Bind.bind, Except.bind]

theorem given_eq_ok {α : Type} {o : Option α} {check : α → Valid} :
    given o check = .ok () ↔ ∀ a, o = some a → check a = .ok () := by
  cases o <;> simp [given]

namespace User

theorem Draft.validate_eq_ok {d : Draft} :
    d.validate = .ok () ↔ requireText "full_name" d.fullName = .ok () ∧
      validateUserName d.userName = .ok () ∧ validateEmail d.email = .ok () ∧
      validatePassword d.password = .ok () := by
  simp only [Draft.validate, bind_valid]

theorem Change.validate_eq_ok {c : Change} :
    c.validate = .ok () ↔ given c.userName validateUserName = .ok () ∧
      given c.email validateEmail = .ok () ∧ given c.password validatePassword = .ok () ∧
      (given c.status fun s => requireThat (s = active || s = blocked) .status) = .ok () := by
  simp only [Change.validate, bind_valid]

end User

namespace Store.Row

variable {row old new : Row} {column : String} {check : String → Valid}

def Passes (column : String) (check : String → Valid) (row : Row) : Prop :=
  ∃ s, row.cell? column = some (.text s) ∧ check s = .ok ()

def FitsAccount (row : Row) : Prop :=
  ∃ d : User.Draft, d.validate = .ok () ∧ row.cell? "full_name" = some (.text d.fullName) ∧
    row.cell? "user_name" = some (.text d.userName) ∧ row.cell? "email" = some (.text d.email)

theorem fitsAccount_iff : row.FitsAccount ↔ row.Passes "full_name" (requireText "full_name") ∧
    row.Passes "user_name" User.validateUserName ∧ row.Passes "email" User.validateEmail := by
  constructor
  · rintro ⟨d, hd, hfull, huser, hemail⟩
    obtain ⟨hfull', huser', hemail', -⟩ := User.Draft.validate_eq_ok.mp hd
    exact ⟨⟨_, hfull, hfull'⟩, ⟨_, huser, huser'⟩, ⟨_, hemail, hemail'⟩⟩
  · rintro ⟨⟨fullName, hfull, hfull'⟩, ⟨userName, huser, huser'⟩, ⟨email, hemail, hemail'⟩⟩
    have hpassword : User.validatePassword "password" = .ok () :=
      requireThat_eq_ok.mpr (by decide)
    exact ⟨⟨fullName, userName, email, "password", none⟩,
      User.Draft.validate_eq_ok.mpr ⟨hfull', huser', hemail', hpassword⟩, hfull, huser, hemail⟩

theorem Revises.cell?_eq {columns : List (String × Option Sql.Value)} {v? : Option Sql.Value}
    (h : old.Revises (Sql.present columns) new) (hn : (columns.map Prod.fst).Nodup)
    (hu : column ≠ "updated_at") (hm : (column, v?) ∈ columns) :
    new.cell? column = (v?.map Sql.Value.cell).or (old.cell? column) := by
  cases v? with
  | some v => exact h.1 _ (Sql.mem_present.mpr hm)
  | none =>
    refine h.2 column (fun hset => ?_) hu
    obtain ⟨⟨_, v⟩, hv, rfl⟩ := List.mem_map.mp hset
    have hsame := List.inj_on_of_nodup_map hn hm (Sql.mem_present.mp hv) rfl
    simp at hsame

def put (column : String) (v : Sql.Value) (row : Row) : Row :=
  row.map fun (name, cell) => (name, if name = column then v.cell else cell)

theorem cell?_put {v : Sql.Value} {name : String} : (row.put column v).cell? name =
    (row.cell? name).map fun cell => if name = column then v.cell else cell := by
  induction row with
  | nil => rfl
  | cons entry row ih =>
    obtain ⟨first, cell⟩ := entry
    simp only [put, cell?] at ih ⊢
    by_cases hfirst : first = name
    · subst hfirst
      simp
    · simpa [hfirst] using ih

theorem revises_put {v : Sql.Value} (h : (row.cell? column).isSome = true) :
    row.Revises [(column, v)] (row.put column v) := by
  obtain ⟨cell, hcell⟩ := Option.isSome_iff_exists.mp h
  constructor
  · simp [Holds, cell?_put, hcell]
  · intro name hname _
    have hother : name ≠ column := by simpa using hname
    cases hn : row.cell? name <;> simp [cell?_put, hn, hother]

theorem Revises.passes_iff {columns : List (String × Option Sql.Value)} {s? : Option String}
    (h : old.Revises (Sql.present columns) new) (hn : (columns.map Prod.fst).Nodup)
    (hu : column ≠ "updated_at") (hm : (column, s?.map .text) ∈ columns)
    (hold : old.Passes column check) : new.Passes column check ↔ given s? check = .ok () := by
  cases s? with
  | none =>
    have hcell := h.cell?_eq hn hu hm
    rw [Passes, hcell]
    exact iff_of_true hold rfl
  | some s => simp [Passes, h.cell?_eq hn hu hm, given, Sql.Value.cell]

end Store.Row

namespace Api

theorem Footprint.changes_account {i : Incoming} {e : Endpoint} {st : Sql.Statement}
    {changes : List Sql.Assignment} {id : Uuid} (hf : Footprint i e st)
    (hst : st = .update User.table changes id) :
    ∃ (change : User.Change) (salt : Password.Salt), i.body User.Change.decode = .ok change ∧
      change.validate = .ok () ∧
      changes = change.assignments (change.password.map (Password.hash salt)) := by
  cases hf with
  | look hk => simpa [hst, Sql.Statement.isWrite] using hk.isWrite_eq_false
  | @updateSelf _ change salt _ hb _ hv | @updateUser _ _ change salt _ _ hb _ _ hv =>
    exact ⟨change, salt, hb, hv, (Sql.Statement.update.inj hst).2.1.symm⟩
  | updateCategory | updateBusiness | updateReview | updateReport | updateNotification
  | updateEvent | updateBookmark => exact absurd (Sql.Statement.update.inj hst).1 (by decide)
  | attachToNewBusiness _ _ _ hr | attachToBusiness _ _ _ _ _ hr | attachToNewReview _ _ _ hr
  | attachToReview _ _ _ _ _ hr =>
    subst hst
    cases hr
  | _ => simp at hst

end Api

theorem User.Change.fits_iff {c : Change} {passwordHash : Option String} {old new : Row}
    (hv : c.validate = .ok ()) (h : old.Revises (c.assignments passwordHash) new)
    (hold : old.FitsAccount) :
    new.Passes "user_name" validateUserName ∧ new.Passes "email" validateEmail ∧
      (new.FitsAccount ↔ given c.fullName (requireText "full_name") = .ok ()) := by
  obtain ⟨hfull, huser, hemail⟩ := Row.fitsAccount_iff.mp hold
  obtain ⟨huser', hemail', -⟩ := validate_eq_ok.mp hv
  have hfull' : new.Passes "full_name" (requireText "full_name") ↔
      given c.fullName (requireText "full_name") = .ok () :=
    h.passes_iff (by simp) (by decide) (.head _) hfull
  have hnames : new.Passes "user_name" validateUserName :=
    (h.passes_iff (by simp) (by decide) (.tail _ (.head _)) huser).mpr huser'
  have hmails : new.Passes "email" validateEmail :=
    (h.passes_iff (by simp) (by decide) (.tail _ (.tail _ (.head _))) hemail).mpr hemail'
  rw [Row.fitsAccount_iff, hfull']
  exact ⟨hnames, hmails, and_iff_left ⟨hnames, hmails⟩⟩

theorem User.Change.password_of_mem {c : Change} {salt : Password.Salt} {v : Sql.Value}
    (hv : c.validate = .ok ())
    (hset : ("password_hash", v) ∈ c.assignments (c.password.map (Password.hash salt))) :
    ∃ password, c.password = some password ∧ v = .text (Password.hash salt password) ∧
      validatePassword password = .ok () := by
  obtain ⟨-, -, hpassword, -⟩ := validate_eq_ok.mp hv
  rw [assignments, Sql.mem_present] at hset
  cases hp : c.password with
  | none => simp [hp] at hset
  | some password =>
    have hv : v = .text (Password.hash salt password) := by simpa [hp] using hset
    exact ⟨password, rfl, hv, given_eq_ok.mp hpassword password hp⟩

namespace Api.Server

variable {s : Server} {r : Http.Request} {t : List Step}

theorem changed_account_fits {v? : Option Http.Response} {changes : List Sql.Assignment} {id : Uuid}
    {reply : Reply} (ht : (s.handle r).Runs t v?)
    (hx : (.run (.update User.table changes id), reply) ∈ exchanges t) :
    ∃ change : User.Change, (⟨r, none, none⟩ : Incoming).body User.Change.decode = .ok change ∧
      change.validate = .ok () ∧
      (∀ old new : Row, old.Revises changes new → old.FitsAccount →
        new.Passes "user_name" User.validateUserName ∧ new.Passes "email" User.validateEmail ∧
        (new.FitsAccount ↔ given change.fullName (requireText "full_name") = .ok ())) ∧
      ∀ v, ("password_hash", v) ∈ changes → ∃ salt password, change.password = some password ∧
        v = .text (Password.hash salt password) ∧ User.validatePassword password = .ok () := by
  rcases sent_cases ht hx with ⟨_, _, hl⟩ | ⟨e, name?, c?, -, hsent, -⟩
  · simp at hl
  · obtain ⟨change, salt, hb, hv, rfl⟩ := Footprint.changes_account hsent rfl
    refine ⟨change, hb, hv, ?_, ?_⟩
    · intro old new hrevises hold
      exact User.Change.fits_iff hv hrevises hold
    · intro v hset
      exact ⟨salt, User.Change.password_of_mem hv hset⟩

def annRow : Row := addressedRow "Ann@example.com"

theorem annRow_fits : annRow.FitsAccount := by
  refine ⟨enrolled, Token.eq_ok_of_toOption (by decide +kernel), rfl, rfl, rfl⟩

theorem readdressing_fits : (annRow.put "email" (.text spaced)).FitsAccount := by
  obtain ⟨response, hruns, -⟩ := readdressing_runs
  obtain ⟨change, hb, -, hfits, -⟩ := changed_account_fits hruns (.tail _ (.head _))
  obtain rfl := Except.ok.inj (readdressing_body.symm.trans hb)
  exact (hfits annRow _ (Row.revises_put rfl) annRow_fits).2.2.mpr rfl

def blanking : Http.Request := { changing with body := "\x7b\"full_name\":\"  \"\x7d" }

def blanked : User.Change :=
  ⟨some "  ", none, none, none, none, none, none, none, none⟩

theorem blanking_body :
    (⟨blanking, none, none⟩ : Incoming).body User.Change.decode = .ok blanked :=
  Token.eq_ok_of_toOption (by decide +kernel)

def blankedRow : Row := annRow.put "full_name" (.text "  ")

def blankingRun : List Step :=
  visitorLead .user ++
    [.asked (.run (blanked.statement none .nil)) (.ok ⟨[blankedRow], 1⟩)]

theorem blanking_runs : ∃ response,
    (cityServer.handle blanking).Runs blankingRun (some response) ∧ response.status = 200 := by
  have hadmitted : Users.admitted (visitor .user) .nil blanked = .ok () :=
    Token.eq_ok_of_toOption (by decide +kernel)
  have hread : Action.firstRow User.ofRow ⟨[blankedRow], 1⟩ =
      .ok (some { addressed "Ann@example.com" with fullName := "  " }) := rfl
  exact own_change_runs blanking_body hadmitted rfl hread

theorem blank_name_kept :
    (∃ response, (cityServer.handle blanking).Runs blankingRun (some response) ∧
        response.status = 200) ∧
      (∃ reply, (.run (.update User.table (blanked.assignments none) .nil), reply) ∈
        exchanges blankingRun) ∧
      blanked.validate = .ok () ∧ annRow.Revises (blanked.assignments none) blankedRow ∧
      annRow.FitsAccount ∧ ¬blankedRow.FitsAccount ∧
      ({ enrolled with fullName := "  " } : User.Draft).validate =
        .error (.blank "full_name") := by
  have hblank : requireText "full_name" "  " = .error (.blank "full_name") := by
    rw [requireText, requireThat, if_neg (by decide)]
  refine ⟨blanking_runs, ⟨_, .tail _ (.head _)⟩, Token.eq_ok_of_toOption (by decide +kernel),
    Row.revises_put rfl, annRow_fits, ?_, ?_⟩
  · rintro ⟨d, hd, hfull, -⟩
    obtain ⟨hname, -⟩ := User.Draft.validate_eq_ok.mp hd
    have hput : blankedRow.cell? "full_name" = some (.text "  ") := rfl
    have hsame : "  " = d.fullName := by simpa using hput.symm.trans hfull
    rw [← hsame, hblank] at hname
    cases hname
  · rw [User.Draft.validate, hblank]
    rfl

end Api.Server

end CityGuide
