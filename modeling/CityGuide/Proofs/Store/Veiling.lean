import CityGuide.Proofs.Store.Parallel

namespace CityGuide

inductive HashBut {β : Type} (text : String → β) : String × β → String × β → Prop
  | same (x : String × β) : HashBut text x x
  | hashes (h h' : String) : HashBut text ("password_hash", text h) ("password_hash", text h')

theorem forall₂_hashBut_refl {β : Type} {text : String → β} (xs : List (String × β)) :
    List.Forall₂ (HashBut text) xs xs := List.forall₂_same.mpr fun x _ => .same x

namespace Store

def Command.isOfAccounts : Command → Bool
  | .run (.find table _) | .run (.insert table _ _) | .run (.update table _ _) =>
      table = User.table
  | .run (.select s) => s.table.name = User.table
  | .run (.findByEmail _) => true
  | _ => false

inductive CommandBut : Command → Command → Prop
  | same (c : Command) : CommandBut c c
  | inserted {row row' : List Sql.Assignment} (h : List.Forall₂ (HashBut Sql.Value.text) row row')
      (ending : Sql.Ending) : CommandBut (.run (.insert User.table row ending))
        (.run (.insert User.table row' ending))
  | updated {changes changes' : List Sql.Assignment}
      (h : List.Forall₂ (HashBut Sql.Value.text) changes changes') (id : Uuid) :
      CommandBut (.run (.update User.table changes id)) (.run (.update User.table changes' id))

def veiled : Likeness where
  commands := CommandBut
  failures := Eq
  rows c row row' :=
    row = row' ∨ c.isOfAccounts = true ∧ List.Forall₂ (HashBut Cell.text) row row'

namespace Row

variable {α : Type} {row row' : Row}

theorem get_veiled (h : List.Forall₂ (HashBut Cell.text) row row') {column : String}
    (hn : column ≠ "password_hash") (r : Reader α) : row.get column r = row'.get column r := by
  have hfound : row.find? (·.1 = column) = row'.find? (·.1 = column) := by
    induction h with
    | nil => rfl
    | cons hx _ ih =>
      cases hx with
      | same x => rw [List.find?_cons, List.find?_cons, ih]
      | hashes => simp [hn.symm, ih]
  rw [get, get, hfound]

theorem get_hash (h : List.Forall₂ (HashBut Cell.text) row row') :
    Option.Rel (fun _ _ => True) (row.get "password_hash" text) (row'.get "password_hash" text) := by
  induction h with
  | nil => exact .none
  | @cons x x' row row' hx _ ih =>
    cases hx with
    | hashes => exact .some trivial
    | same =>
      by_cases hcolumn : x.1 = "password_hash"
      · cases hread : text x.2 with
        | none => simp [get, hcolumn, hread]
        | some s => simp [get, hcolumn, hread]
      · simpa [get, hcolumn] using ih

end Row

end Store

namespace User

open Store CityGuide.Store.Action

def But (u u' : User) : Prop := ∃ passwordHash, u' = { u with passwordHash }

theorem But.toJson_eq {u u' : User} (h : u.But u') : u.toJson = u'.toJson := by
  obtain ⟨passwordHash, rfl⟩ := h
  rfl

theorem ofRow_veiled {row row' : Row} (h : List.Forall₂ (HashBut Cell.text) row row') :
    Option.Rel But (ofRow row) (ofRow row') := by
  simp (disch := decide) only [ofRow, Row.get_veiled h]
  exact rel_bind_same fun _ => rel_bind_same fun _ => rel_bind_same fun _ => rel_bind_same fun _ =>
    rel_bind (Row.get_hash h) fun _ passwordHash _ => rel_bind_same fun _ => rel_bind_same fun _ =>
    rel_bind_same fun _ => rel_bind_same fun _ => rel_bind_same fun _ => rel_bind_same fun _ =>
    rel_bind_same fun _ => .some ⟨passwordHash, rfl⟩

end User

namespace Store

open CityGuide.Store.Action

variable {α : Type} {table : String} {read : Row → Option α}

theorem ofRow_of_veiled {c : Command} (row row' : Row) (h : veiled.rows c row row') :
    Option.Rel User.But (User.ofRow row) (User.ofRow row') := by
  rcases h with rfl | ⟨-, h⟩
  · exact User.ofRow_veiled (forall₂_hashBut_refl row)
  · exact User.ofRow_veiled h

end Store

namespace User

open Store CityGuide.Store.Action

theorem find_veiled (id : Uuid) :
    Parallel veiled Eq (Option.Rel But) (find id) (find id) :=
  .optional (.same _) (fun _ => rfl) ofRow_of_veiled

def Passwords (p p' : String) : Prop :=
  p = p' ∨ minPasswordLength ≤ p.length ∧ minPasswordLength ≤ p'.length

theorem Passwords.validate_eq {p p' : String} (h : Passwords p p') :
    validatePassword p = validatePassword p' := by
  rcases h with rfl | ⟨h, h'⟩
  · rfl
  · rw [validatePassword, validatePassword, decide_eq_true h, decide_eq_true h']

def Draft.But (d d' : Draft) : Prop :=
  ∃ password, d' = { d with password } ∧ Passwords d.password password

theorem Draft.But.validate_eq {d d' : Draft} (h : d.But d') : d.validate = d'.validate := by
  obtain ⟨password, rfl, hpassword⟩ := h
  simp only [Draft.validate, hpassword.validate_eq]

theorem Draft.But.trimmed {d d' : Draft} (h : d.But d') : d.trimmed.But d'.trimmed := by
  obtain ⟨password, rfl, hpassword⟩ := h
  exact ⟨password, rfl, hpassword⟩

theorem create_eq (d : Draft) : create d = newId >>= fun id => newSalt >>= fun salt =>
    Action.one (.insert table (d.row id (Password.hash salt d.password)) .returning) ofRow := by
  simp only [create, hashed_bind]
  rfl

def Change.But (c c' : Change) : Prop :=
  ∃ password, c' = { c with password } ∧ Option.Rel Passwords c.password password

theorem given_passwords {p? p?' : Option String} (h : Option.Rel Passwords p? p?') :
    given p? validatePassword = given p?' validatePassword ∧ p?.isSome = p?'.isSome := by
  cases h with
  | none => exact ⟨rfl, rfl⟩
  | some h => exact ⟨h.validate_eq, rfl⟩

theorem Change.But.validate_eq {c c' : Change} (h : c.But c') : c.validate = c'.validate := by
  obtain ⟨password, rfl, hpassword⟩ := h
  simp only [Change.validate, (given_passwords hpassword).1]

theorem Change.But.revokesSessions_eq {c c' : Change} (h : c.But c') :
    c.revokesSessions = c'.revokesSessions := by
  obtain ⟨password, rfl, hpassword⟩ := h
  simp only [Change.revokesSessions, Change.changesPrivileges, (given_passwords hpassword).2]

abbrev BothGiven : Option String → Option String → Prop := Option.Rel fun _ _ => True

theorem hashedIfGiven_veiled {password? password?' : Option String}
    (h : Option.Rel Passwords password? password?') :
    Parallel veiled (Eq : Failure → Failure → Prop) BothGiven (hashedIfGiven password?)
      (hashedIfGiven password?') := by
  cases h with
  | none => exact .pure .none
  | some _ =>
    simp only [hashedIfGiven, hashed_bind]
    exact .bind .newSalt fun _ _ _ => .pure (.some trivial)

theorem Change.assignments_veiled {c c' : Change} (h : c.But c') {hash? hash?' : Option String}
    (hhash : BothGiven hash? hash?') :
    List.Forall₂ (HashBut Sql.Value.text) (c.assignments hash?) (c'.assignments hash?') := by
  obtain ⟨password, rfl, -⟩ := h
  have hset : List.Forall₂ (HashBut Sql.Value.text)
      (Sql.present [("password_hash", hash?.map .text)])
      (Sql.present [("password_hash", hash?'.map .text)]) := by
    cases hhash with
    | none => exact .nil
    | some _ => exact .cons (.hashes ..) .nil
  have hsplit (c : Change) (hash? : Option String) : c.assignments hash? =
      Sql.present [("full_name", c.fullName.map .text), ("user_name", c.userName.map .text),
        ("email", c.email.map .text)] ++ (Sql.present [("password_hash", hash?.map .text)] ++
      Sql.present [("profile_picture", c.profilePicture.map .text), ("gender", c.gender.map .text),
        ("bio", c.bio.map .text), ("user_type", c.userType.map fun t => .text t.name),
        ("status", c.status.map .text)]) := by
    rw [Sql.present, Sql.present, Sql.present, ← List.filterMap_append, ← List.filterMap_append]
    rfl
  rw [hsplit, hsplit]
  exact List.rel_append (forall₂_hashBut_refl _) (List.rel_append hset (forall₂_hashBut_refl _))

theorem update_veiled {c c' : Change} (h : c.But c') (id : Uuid) :
    Parallel veiled Eq (Option.Rel But) (update id c) (update id c') := by
  have hpasswords : Option.Rel Passwords c.password c'.password := by
    obtain ⟨password, rfl, hpassword⟩ := h
    exact hpassword
  refine .bind (hashedIfGiven_veiled hpasswords) fun hash? hash?' hhash => ?_
  have hcommands : CommandBut (.run (.update table (c.assignments hash?) id))
      (.run (.update table (c'.assignments hash?') id)) :=
    .updated (Change.assignments_veiled h hhash) id
  exact .optional hcommands (fun _ => rfl) ofRow_of_veiled

end User

end CityGuide
