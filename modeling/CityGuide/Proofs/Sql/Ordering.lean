import CityGuide.Proofs.Sql.Where
import Mathlib.Data.List.Sort

namespace CityGuide.Sql

structure Ranking where
  le : Column → Option Value → Option Value → Prop
  total : ∀ c x y, le c x y ∨ le c y x
  trans : ∀ {c x y z}, le c x y → le c y z → le c x z

namespace Ranking

variable {o : Ranking} {keys : List (Column × Direction)} {ρ σ τ : Record}

def Along (o : Ranking) (c : Column) : Direction → Option Value → Option Value → Prop
  | .asc, x, y => o.le c x y
  | .desc, x, y => o.le c y x

theorem along_total (o : Ranking) (c : Column) (d : Direction) (x y : Option Value) :
    o.Along c d x y ∨ o.Along c d y x := by
  cases d with
  | asc => exact o.total c x y
  | desc => exact o.total c y x

theorem Along.trans {c : Column} {d : Direction} {x y z : Option Value} (h : o.Along c d x y)
    (h' : o.Along c d y z) : o.Along c d x z := by
  cases d with
  | asc => exact o.trans h h'
  | desc => exact o.trans h' h

def Ranks (o : Ranking) : List (Column × Direction) → Record → Record → Prop
  | [], _, _ => True
  | (c, d) :: keys, ρ, σ =>
      o.Along c d (ρ c) (σ c) ∧ (o.Along c d (σ c) (ρ c) → Ranks o keys ρ σ)

theorem ranks_total (o : Ranking) (keys : List (Column × Direction)) (ρ σ : Record) :
    o.Ranks keys ρ σ ∨ o.Ranks keys σ ρ := by
  induction keys with
  | nil => exact .inl trivial
  | cons key keys ih =>
    obtain ⟨c, d⟩ := key
    by_cases h : o.Along c d (ρ c) (σ c)
    · by_cases h' : o.Along c d (σ c) (ρ c)
      · exact ih.imp (fun hr => ⟨h, fun _ => hr⟩) fun hr => ⟨h', fun _ => hr⟩
      · exact .inl ⟨h, fun hback => absurd hback h'⟩
    · exact .inr ⟨(o.along_total c d _ _).resolve_left h, fun hback => absurd hback h⟩

theorem ranks_refl (o : Ranking) (keys : List (Column × Direction)) (ρ : Record) :
    o.Ranks keys ρ ρ := (o.ranks_total keys ρ ρ).elim id id

theorem Ranks.trans (h : o.Ranks keys ρ σ) (h' : o.Ranks keys σ τ) : o.Ranks keys ρ τ := by
  induction keys with
  | nil => trivial
  | cons key keys ih =>
    obtain ⟨c, d⟩ := key
    refine ⟨h.1.trans h'.1, fun hback => ?_⟩
    exact ih (h.2 (h'.1.trans hback)) (h'.2 (hback.trans h.1))

end Ranking

variable {ι : Type} {o : Ranking} {m : Matching} {row : ι → Record} {s : Select} {l l' : List ι}

structure Select.Selects (m : Matching) (row : ι → Record) (s : Select) (l : List ι) : Prop where
  nodup : l.Nodup
  rows : ∀ i, i ∈ l ↔ s.condition.Holds m (row i)

/-- A way in which the store may line up the selected rows: rows that the statement ranks equal come
in any order. -/
structure Select.Arranges (o : Ranking) (m : Matching) (row : ι → Record) (s : Select)
    (l : List ι) : Prop extends s.Selects m row l where
  ranked : l.Pairwise fun i j => o.Ranks s.order (row i) (row j)

namespace Select

theorem Selects.perm (h : s.Selects m row l) (h' : s.Selects m row l') : l.Perm l' :=
  (List.perm_ext_iff_of_nodup h.nodup h'.nodup).mpr fun i => (h.rows i).trans (h'.rows i).symm

theorem Selects.of_perm (h : s.Selects m row l) (hp : l.Perm l') : s.Selects m row l' where
  nodup := hp.nodup_iff.mp h.nodup
  rows i := hp.mem_iff.symm.trans (h.rows i)

open Classical in
theorem Selects.exists_arranges (h : s.Selects m row l) (o : Ranking) :
    ∃ l', s.Arranges o m row l' := by
  let r : ι → ι → Prop := fun i j => o.Ranks s.order (row i) (row j)
  have : Std.Total r := ⟨fun i j => o.ranks_total ..⟩
  have : IsTrans ι r := ⟨fun _ _ _ => Ranking.Ranks.trans⟩
  exact ⟨l.insertionSort r, h.of_perm (List.perm_insertionSort r l).symm,
    List.pairwise_insertionSort r l⟩

end Select

end CityGuide.Sql
