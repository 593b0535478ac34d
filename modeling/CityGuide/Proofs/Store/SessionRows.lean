import CityGuide.Proofs.Store.Segments

namespace CityGuide.Store

def opened (assigned : List Sql.Assignment) (a : Answer) : Step :=
  .asked (.run (.insert Session.table assigned .returning)) (.ok a)

inductive Mild : Step → Prop
  | unasked {x : Step} (h : ∀ c r, x ≠ .asked c r) : Mild x
  | look {st : Sql.Statement} (a : Answer) (h : st.isWrite = false) :
      Mild (.asked (.run st) (.ok a))
  | opened (assigned : List Sql.Assignment) (a : Answer) : Mild (opened assigned a)

variable {κ : Type} {w w' w'' : World κ} {past : List (κ × Step)} {k : κ} {x : Step}

structure Grows (w : World κ) (past : List (κ × Step)) (w' : World κ) : Prop where
  idle : ∀ k, w'.phase k = .free
  users : w'.tables User.table = w.tables User.table
  kept : w.tables Session.table ⊆ w'.tables Session.table
  came : ∀ row ∈ w'.tables Session.table, row ∈ w.tables Session.table ∨
    ∃ k assigned a, (k, opened assigned a) ∈ past ∧ row.Holds assigned
  opened : ∀ k assigned a, (k, opened assigned a) ∈ past →
    ∃ row ∈ w'.tables Session.table, row.Holds assigned
  looked : ∀ k email a, (k, .asked (.run (.findByEmail email)) (.ok a)) ∈ past →
    ∀ row ∈ a.rows, row ∈ w.tables User.table

theorem mem_snoc {α : Type} {xs : List α} {x y : α} : y ∈ xs ++ [x] ↔ y ∈ xs ∨ y = x := by
  rw [List.mem_append, List.mem_singleton]

theorem Grows.unchanged (h : Grows w past w') (hp : w''.phase = w'.phase)
    (ht : w''.tables = w'.tables) (hopened : ∀ assigned a, x ≠ Store.opened assigned a)
    (hlooked : ∀ email a, x = .asked (.run (.findByEmail email)) (.ok a) →
      ∀ row ∈ a.rows, row ∈ w'.tables User.table) : Grows w (past ++ [(k, x)]) w'' where
  idle j := hp ▸ h.idle j
  users := ht ▸ h.users
  kept := ht ▸ h.kept
  came row hrow := by
    rw [ht] at hrow
    refine (h.came row hrow).imp_right ?_
    rintro ⟨j, assigned, a, hmem, hholds⟩
    exact ⟨j, assigned, a, mem_snoc.mpr (.inl hmem), hholds⟩
  opened j assigned a hmem := by
    rcases mem_snoc.mp hmem with hmem | heq
    · exact ht ▸ h.opened j assigned a hmem
    · exact absurd (Prod.mk.inj heq).2.symm (hopened assigned a)
  looked j email a hmem row hrow := by
    rcases mem_snoc.mp hmem with hmem | heq
    · exact h.looked j email a hmem row hrow
    · exact h.users ▸ hlooked email a (Prod.mk.inj heq).2.symm row hrow

theorem mem_put {T : Tables} {table t : String} {new row : Row} :
    row ∈ (Delta.mk (fun _ => ∅) (only table {new})).on T t ↔
      row ∈ T t ∨ t = table ∧ row = new := by
  simp [Delta.mem_on, mem_only]

theorem Grows.inserted (h : Grows w past w') {assigned : List Sql.Assignment} {a : Answer}
    {new : Row} (hp : w''.phase = w'.phase)
    (ht : w''.tables = (Delta.mk (fun _ => ∅) (only Session.table {new})).on w'.tables)
    (hnew : new.Holds assigned) : Grows w (past ++ [(k, Store.opened assigned a)]) w'' where
  idle j := hp ▸ h.idle j
  users := by
    have hother : User.table ≠ Session.table := by decide
    ext row
    rw [ht, mem_put, ← h.users]
    simp [hother]
  kept row hrow := by
    rw [ht, mem_put]
    exact .inl (h.kept hrow)
  came row hrow := by
    rw [ht, mem_put] at hrow
    rcases hrow with hrow | ⟨-, rfl⟩
    · refine (h.came row hrow).imp_right ?_
      rintro ⟨j, assigned, a, hmem, hholds⟩
      exact ⟨j, assigned, a, mem_snoc.mpr (.inl hmem), hholds⟩
    · exact .inr ⟨k, assigned, a, mem_snoc.mpr (.inr rfl), hnew⟩
  opened j assigned' a' hmem := by
    rw [ht]
    rcases mem_snoc.mp hmem with hmem | heq
    · obtain ⟨row, hrow, hholds⟩ := h.opened j assigned' a' hmem
      exact ⟨row, mem_put.mpr (.inl hrow), hholds⟩
    · simp only [Store.opened, Prod.mk.injEq, Step.asked.injEq, Command.run.injEq,
        Sql.Statement.insert.injEq, true_and, and_true] at heq
      obtain ⟨-, rfl, -⟩ := heq
      exact ⟨new, mem_put.mpr (.inr ⟨rfl, rfl⟩), hnew⟩
  looked j email a' hmem row hrow := by
    rcases mem_snoc.mp hmem with hmem | heq
    · exact h.looked j email a' hmem row hrow
    · simp [Store.opened] at heq

section

variable [DecidableEq κ]

theorem Grows.step (h : Grows w past w') (hx : Mild x) (hm : w'.Moves k x w'') :
    Grows w (past ++ [(k, x)]) w'' := by
  cases hx with
  | unasked hx =>
    obtain ⟨hp, ht⟩ := hm.unasked hx
    exact h.unchanged hp ht (fun _ _ => hx _ _) fun _ _ heq => absurd heq (hx _ _)
  | look a hl =>
    obtain ⟨hp, d, he, ht⟩ := hm.ran (h.idle k)
    obtain rfl := he.of_look hl
    rw [Delta.none_on] at ht
    refine h.unchanged hp ht (fun assigned a' heq => ?_) fun email a' heq row hrow => ?_
    · simp only [Store.opened, Step.asked.injEq, Command.run.injEq] at heq
      simp [heq.1, Sql.Statement.isWrite] at hl
    · simp only [Step.asked.injEq, Command.run.injEq, Except.ok.injEq] at heq
      obtain ⟨rfl, rfl⟩ := heq
      cases he with
      | findByEmail hfound => exact hfound row hrow
  | opened assigned a =>
    obtain ⟨hp, d, he, ht⟩ := hm.ran (h.idle k)
    cases he with
    | insert hnew => exact h.inserted hp ht hnew
    | kept hkeeps => simp [Sql.Ending.keeps] at hkeeps

theorem grows_of_mild (hidle : ∀ k, w.phase k = .free) (h : w.Unfolds past w')
    (hmild : ∀ x ∈ past, Mild x.2) : Grows w past w' := by
  induction h with
  | start => exact ⟨hidle, rfl, subset_rfl, fun _ => .inl, by simp, by simp⟩
  | step h hm ih =>
    obtain ⟨hpast, hlast⟩ := List.forall_mem_append.mp hmild
    exact (ih hpast).step (hlast _ (List.mem_singleton.mpr rfl)) hm

end

section

variable {T : Tables} {table t : String} {id : Uuid} {a : Answer} {d : Delta} {row : Row}

theorem Executes.update_holds {changes : List Sql.Assignment}
    (he : Executes T (.update table changes id) a d) (hrow : row ∈ d.on T table)
    (hid : row.Named id) : row.Holds changes := by
  cases he with
  | update h =>
    rcases Delta.mem_on.mp hrow with ⟨hold, hgone⟩ | hcome
    · exact absurd ⟨hold, hid⟩ (fun h => hgone (mem_only.mpr ⟨rfl, h⟩))
    · obtain ⟨-, old, ⟨hold, hname⟩, rfl⟩ := mem_only.mp hcome
      exact (h old hold hname).1

theorem Executes.update_other {changes : List Sql.Assignment}
    (he : Executes T (.update table changes id) a d) (ht : t ≠ table) : d.on T t = T t := by
  cases he with
  | update =>
    ext row
    simp [Delta.mem_on, mem_only, ht]

theorem Executes.delete_from {naming : Sql.Naming} {keys : List Sql.Assignment}
    (he : Executes T (.delete naming table keys) a d) (ht : table ≠ User.table)
    (hrow : row ∈ d.on T t) : row ∈ T t ∧ (t = table → ¬row.Holds keys) := by
  cases he with
  | delete h =>
    rcases Delta.mem_on.mp hrow with ⟨hold, hgone⟩ | hcome
    · refine ⟨hold, ?_⟩
      rintro rfl hholds
      exact hgone (by simp [hold, hholds])
    · exact absurd (h row (mem_only.mp hcome).2).1 ht

end

inductive Timeline (account : Uuid) (passwordHash : String) (w : World κ)
    (before between after : List (κ × Step)) (w' : World κ) : Prop
  | intro {w₁ w₂ w₃ w₄ : World κ} (opening : Grows w before w₁)
      (sessions : w₂.tables Session.table = w₁.tables Session.table)
      (hashes : ∀ row ∈ w₂.tables User.table, row.Named account →
        row.cell? "password_hash" = some (.text passwordHash))
      (middle : Grows w₂ between w₃)
      (ended : ∀ row ∈ w₄.tables Session.table, row ∈ w₃.tables Session.table ∧
        row.cell? "user_id" ≠ some (.uuid account))
      (users : w₄.tables User.table ⊆ w₃.tables User.table) (closing : Grows w₄ after w')

namespace Timeline

variable {account : Uuid} {passwordHash : String} {before between after : List (κ × Step)}

theorem of_unfolds [DecidableEq κ] {changes : List Sql.Assignment} {updated removed : Answer}
    (hidle : ∀ k, w.phase k = .free)
    (h : w.Unfolds (before ++ (k, .asked (.run (.update User.table changes account)) (.ok updated))
      :: (between ++ (k, .asked (.run (.delete .plain Session.table [("user_id", .uuid account)]))
        (.ok removed)) :: after)) w')
    (hset : ("password_hash", .text passwordHash) ∈ changes)
    (hbefore : ∀ x ∈ before, Mild x.2) (hbetween : ∀ x ∈ between, Mild x.2)
    (hafter : ∀ x ∈ after, Mild x.2) :
    Timeline account passwordHash w before between after w' := by
  -- Nobody is within a transaction at any time, so every statement takes effect at once.
  obtain ⟨w₁, hopening, hrest⟩ := h.split
  obtain ⟨w₂, hupdate, hrest⟩ := hrest.uncons
  obtain ⟨w₃, hmiddle, hrest⟩ := hrest.split
  obtain ⟨w₄, hdelete, hclosing⟩ := hrest.uncons
  have opening := grows_of_mild hidle hopening hbefore
  obtain ⟨hphase, d, hexecutes, htables⟩ := hupdate.ran (opening.idle k)
  have middle := grows_of_mild (fun j => hphase ▸ opening.idle j) hmiddle hbetween
  obtain ⟨hphase', d', hexecutes', htables'⟩ := hdelete.ran (middle.idle k)
  have closing := grows_of_mild (fun j => hphase' ▸ middle.idle j) hclosing hafter
  have hother : Session.table ≠ User.table := by decide
  refine .intro opening ?_ ?_ middle ?_ ?_ closing
  · rw [htables, hexecutes.update_other hother]
  · intro row hrow hid
    rw [htables] at hrow
    exact hexecutes.update_holds hrow hid _ hset
  · intro row hrow
    rw [htables'] at hrow
    obtain ⟨hold, hkeys⟩ := hexecutes'.delete_from hother hrow
    refine ⟨hold, fun hcell => hkeys rfl ?_⟩
    simpa [Row.Holds, Sql.Value.cell] using hcell
  · intro row hrow
    rw [htables'] at hrow
    exact (hexecutes'.delete_from hother hrow).1

variable (h : Timeline account passwordHash w before between after w')

include h

theorem came {row : Row} (hrow : row ∈ w'.tables Session.table)
    (haccount : row.cell? "user_id" = some (.uuid account)) :
    ∃ k assigned a, (k, opened assigned a) ∈ after ∧ row.Holds assigned := by
  obtain ⟨-, -, -, -, ended, -, closing⟩ := h
  rcases closing.came row hrow with hold | hnew
  · exact absurd haccount (ended row hold).2
  · exact hnew

theorem origin {row : Row} (hrow : row ∈ w'.tables Session.table) :
    row ∈ w.tables Session.table ∨ ∃ k assigned a,
      ((k, opened assigned a) ∈ before ∨ (k, opened assigned a) ∈ between ∨
        (k, opened assigned a) ∈ after) ∧ row.Holds assigned := by
  obtain ⟨opening, sessions, -, middle, ended, -, closing⟩ := h
  rcases closing.came row hrow with hrow | ⟨k, assigned, a, hmem, hholds⟩
  · rcases middle.came row (ended row hrow).1 with hrow | ⟨k, assigned, a, hmem, hholds⟩
    · rcases opening.came row (sessions ▸ hrow) with hrow | ⟨k, assigned, a, hmem, hholds⟩
      · exact .inl hrow
      · exact .inr ⟨k, assigned, a, .inl hmem, hholds⟩
    · exact .inr ⟨k, assigned, a, .inr (.inl hmem), hholds⟩
  · exact .inr ⟨k, assigned, a, .inr (.inr hmem), hholds⟩

theorem stays {assigned : List Sql.Assignment} {a : Answer}
    (hmem : (k, opened assigned a) ∈ after) :
    ∃ row ∈ w'.tables Session.table, row.Holds assigned := by
  obtain ⟨-, -, -, -, -, -, closing⟩ := h
  exact closing.opened k assigned a hmem

theorem looked {email : String} {a : Answer}
    (hmem : (k, .asked (.run (.findByEmail email)) (.ok a)) ∈ between ∨
      (k, .asked (.run (.findByEmail email)) (.ok a)) ∈ after) :
    ∀ row ∈ a.rows, row.Named account → row.cell? "password_hash" = some (.text passwordHash) := by
  obtain ⟨-, -, hashes, middle, -, users, closing⟩ := h
  intro row hrow hid
  rcases hmem with hmem | hmem
  · exact hashes row (middle.looked k email a hmem row hrow) hid
  · exact hashes row (middle.users ▸ users (closing.looked k email a hmem row hrow)) hid

end Timeline

end CityGuide.Store
