import CityGuide.Proofs.Store.Minting
import CityGuide.Proofs.Store.World

namespace CityGuide.Store

structure Keeping (st : Sql.Statement) : Prop where
  assigns : ∀ table column changes, (table, column) ∈ keptColumns → Assigns st table changes →
    "id" ∉ changes.map Prod.fst ∧ column ∉ changes.map Prod.fst
  inserts : ∀ table column assigned, (table, column) ∈ keptColumns → Inserts st table assigned →
    ∃ id v, Mints (.run st) id ∧ ("id", .uuid id) ∈ assigned ∧ (column, v) ∈ assigned

variable {κ : Type} {T : Tables} {past : List (κ × Step)} {table column : String}
  {row row' : Row} {id : Uuid}

inductive Origin (T : Tables) (past : List (κ × Step)) (table column : String) (id : Uuid)
    (row : Row) : Prop
  | initial {old : Row} (hold : old ∈ T table) (hid : old.Named id)
      (hkept : row.cell? column = old.cell? column)
  | minted {k : κ} {st : Sql.Statement} {a : Answer} {assigned : List Sql.Assignment}
      {v : Sql.Value} (hx : (k, .asked (.run st) (.ok a)) ∈ past) (hi : Inserts st table assigned)
      (hm : Mints (.run st) id) (hv : (column, v) ∈ assigned)
      (hkept : ∀ u, (column, u) ∈ assigned → row.cell? column = some u.cell)

theorem Origin.of_revised {old : Row} {changes : List Sql.Assignment}
    (h : Origin T past table column id old) (hr : old.Revises changes row)
    (hcolumn : column ∉ changes.map Prod.fst) (htime : column ≠ "updated_at") :
    Origin T past table column id row := by
  have hsame := hr.2 column hcolumn htime
  cases h with
  | initial hold hid hkept => exact .initial hold hid (hsame.trans hkept)
  | minted hx hi hm hv hkept =>
    exact .minted hx hi hm hv fun u hu => hsame.trans (hkept u hu)

theorem kept_ne_time (hk : (table, column) ∈ keptColumns) : column ≠ "updated_at" := by
  have hall : ∀ x ∈ keptColumns, x.2 ≠ "updated_at" := by decide
  exact hall _ hk

theorem Version.origin
    (keeping : ∀ k st a, (k, .asked (.run st) (.ok a)) ∈ past → Keeping st)
    (hk : (table, column) ∈ keptColumns) (h : Version T past table row) (hid : row.Named id) :
    Origin T past table column id row := by
  -- The induction is on how the row was written: a change keeps both its name and the column.
  induction h with
  | initial hmem => exact .initial hmem hid rfl
  | inserted hx hi hr =>
    obtain ⟨id', v, hm, hid', hv⟩ := (keeping _ _ _ hx).inserts _ _ _ hk hi
    obtain rfl : id = id' := hid.unique (hr _ hid')
    exact .minted hx hi hm hv fun u hu => hr _ hu
  | revised hx ha _ hr ih =>
    obtain ⟨hidfree, hcolumn⟩ := (keeping _ _ _ hx).assigns _ _ _ hk ha
    have hold := (hr.2 "id" hidfree (by decide)).symm.trans hid
    exact (ih hold).of_revised hr hcolumn (kept_ne_time hk)

structure World.Quiet (w : World κ) : Prop where
  idle : ∀ k, w.phase k = .free
  unique : ∀ table, ∀ row ∈ w.tables table, ∀ row' ∈ w.tables table, ∀ id, row.Named id →
    row'.Named id → row = row'
  known : ∀ table, ∀ row ∈ w.tables table, ∀ id, row.Named id → id ∈ w.drawn

structure Honest (drawn : Set Uuid) (past : List (κ × Step)) : Prop where
  keeping : ∀ k st a, (k, .asked (.run st) (.ok a)) ∈ past → Keeping st
  once : ∀ j k st st' a a' id, (j, .asked (.run st) (.ok a)) ∈ past →
    (k, .asked (.run st') (.ok a')) ∈ past → Mints (.run st) id → Mints (.run st') id → st = st'
  fresh : ∀ k st a id, (k, .asked (.run st) (.ok a)) ∈ past → Mints (.run st) id → id ∉ drawn

theorem Inserts.unique {st : Sql.Statement} {assigned assigned' : List Sql.Assignment}
    (hm : Mints (.run st) id) (h : Inserts st table assigned) (h' : Inserts st table assigned') :
    assigned = assigned' := by
  obtain ⟨_, _, _, hc, -⟩ := hm
  obtain rfl := Command.run.inj hc
  cases h
  cases h'
  rfl

theorem Version.agree {w : World κ} (hw : w.Quiet) (hp : Honest w.drawn past)
    (hk : (table, column) ∈ keptColumns) (h : Version w.tables past table row)
    (h' : Version w.tables past table row') (hid : row.Named id) (hid' : row'.Named id) :
    row.cell? column = row'.cell? column := by
  cases h.origin hp.keeping hk hid with
  | initial hold hname hkept =>
    cases h'.origin hp.keeping hk hid' with
    | initial hold' hname' hkept' =>
      rw [hkept, hkept', hw.unique _ _ hold _ hold' _ hname hname']
    | minted hx _ hm =>
      exact absurd (hw.known _ _ hold _ hname) (hp.fresh _ _ _ _ hx hm)
  | minted hx hi hm hv hkept =>
    cases h'.origin hp.keeping hk hid' with
    | initial hold hname =>
      exact absurd (hw.known _ _ hold _ hname) (hp.fresh _ _ _ _ hx hm)
    | minted hx' hi' hm' hv' hkept' =>
      obtain rfl := hp.once _ _ _ _ _ _ _ hx hx' hm hm'
      obtain rfl := Inserts.unique hm hi hi'
      rw [hkept _ hv, hkept' _ hv]

end CityGuide.Store
