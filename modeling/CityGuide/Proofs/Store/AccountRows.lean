import CityGuide.Proofs.Store.Entities
import CityGuide.Proofs.Store.Tables
import CityGuide.Proofs.Text.Trimming

namespace CityGuide

open Store Store.Action

def Sql.Statement.FillsAccount (assigned : List Sql.Assignment) : Sql.Statement → Prop
  | .insert table row _ | .update table row _ => table = User.table ∧ row = assigned
  | .insertAll table columns rows =>
      table = User.table ∧ ∃ values ∈ rows, columns.zip values = assigned
  | _ => False

theorem Store.Executes.fills_account {T : Tables} {st : Sql.Statement} {a : Answer} {d : Delta}
    (he : Executes T st a d) {row : Row} (hrow : row ∈ d.come User.table) :
    ∃ assigned, st.FillsAccount assigned ∧ row.Holds assigned := by
  have hother : User.table ≠ Notification.table := by decide
  rcases he.come_cases hrow with ⟨assigned, hi, hholds⟩ | ⟨changes, ha, _, _, hrevises⟩
  · refine ⟨assigned, ?_, hholds⟩
    cases hi with
    | one => exact ⟨rfl, rfl⟩
    | each hvalues => exact ⟨rfl, _, hvalues, rfl⟩
  · refine ⟨changes, ?_, hrevises.1⟩
    generalize htable : User.table = table at ha
    cases ha with
    | update => exact ⟨htable.symm, rfl⟩
    | mark | clear => exact absurd htable hother

def Text.Lowering.Finds (m : Text.Lowering) (sought : String) (row : Row) : Prop :=
  ∃ kept, row.cell? "email" = some (.text kept) ∧ m.lower kept = m.lower sought

theorem Text.Lowering.finds_iff {m : Text.Lowering} {assigned : List Sql.Assignment} {row : Row}
    {kept sought : String} (h : assigned.lookup "email" = some (.text kept))
    (hrow : row.Holds assigned) : m.Finds sought row ↔ m.lower kept = m.lower sought := by
  obtain ⟨before, after, rfl, -⟩ := List.lookup_eq_some_iff.mp h
  have hcell : row.cell? "email" = some (.text kept) := hrow ("email", .text kept) (by simp)
  constructor
  · rintro ⟨kept', hkept', hsame⟩
    obtain rfl : kept = kept' := by simpa using hcell.symm.trans hkept'
    exact hsame
  · exact fun hsame => ⟨kept, hcell, hsame⟩

theorem User.Change.lookup_email {c : Change} {passwordHash : Option String} {x : String}
    (h : c.email = some x) : (c.assignments passwordHash).lookup "email" = some (.text x) := by
  rw [assignments, h]
  cases c.fullName <;> cases c.userName <;> rfl

section

variable {ε α β : Type} {t : List Step}

theorem Store.Action.exists_runs_of_bind {a : Action ε α} {k : α → Action ε β}
    {o? : Option (Except ε β)} (h : Runs (a >>= k) t o?) : ∃ u w a?, t = u ++ w ∧ a.Runs u a? := by
  rcases runs_bind.mp h with ⟨u, w, x, rfl, hu, -⟩ | ⟨e, he, -⟩ | ⟨hn, -⟩
  · exact ⟨u, w, _, rfl, hu⟩
  · exact ⟨t, [], _, (List.append_nil t).symm, he⟩
  · exact ⟨t, [], _, (List.append_nil t).symm, hn⟩

theorem Store.Action.runs_newId_bind {k : Uuid → Action ε α} {o? : Option (Except ε α)} :
    Runs (newId >>= k) t o? ↔ ∃ id u, t = .drewId id :: u ∧ (k id).Runs u o? :=
  Program.runs_freshId

theorem Store.Action.runs_newSalt_bind {k : Password.Salt → Action ε α}
    {o? : Option (Except ε α)} :
    Runs (newSalt >>= k) t o? ↔ ∃ salt u, t = .drewSalt salt :: u ∧ (k salt).Runs u o? :=
  Program.runs_freshSalt

theorem User.runs_create {d : Draft} {o? : Option (Except Failure User)} :
    (create d).Runs t o? ↔ ∃ id salt reply,
      t = [.drewId id, .drewSalt salt, .asked (.run (.insert table
        (d.row id (Password.hash salt d.password)) .returning)) reply] ∧
      o? = some (reply.bind fun answer => (firstRow ofRow answer).bind atLeastOne) := by
  simp only [create, runs_newId_bind, hashed_bind, runs_newSalt_bind, one_eq_ask, runs_ask]
  constructor
  · rintro ⟨id, _, rfl, salt, _, rfl, reply, rfl, ho⟩
    exact ⟨id, salt, reply, rfl, ho⟩
  · rintro ⟨id, salt, reply, rfl, ho⟩
    exact ⟨id, _, rfl, salt, _, rfl, reply, rfl, ho⟩

end

theorem Attachment.Replacing.not_fills_account {owner : AttachmentOwner} {ownerId : Uuid}
    {inputs : List Input} {st : Sql.Statement} (hr : Replacing owner ownerId inputs st)
    {assigned : List Sql.Assignment} : ¬st.FillsAccount assigned := by
  have htable : owner.table ≠ User.table := by cases owner <;> decide
  cases hr with
  | clear => exact fun h => h.elim
  | insertion => exact fun h => htable h.1

end CityGuide
