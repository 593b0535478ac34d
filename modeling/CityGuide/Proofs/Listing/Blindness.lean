import CityGuide.Proofs.Listing.Meaning
import CityGuide.Proofs.Sql.Shape

namespace CityGuide.Listing

open Sql

def ColumnKind.bound : ColumnKind → Kind
  | .text => .text
  | .uuid => .uuid
  | .integer => .int8
  | .timestamp => .timestamp

theorem Denotes.kind_eq {kind : ColumnKind} {t : String} {v : Value} (h : Denotes kind t v) :
    v.kind = kind.bound := by
  cases h <;> rfl

def Readable (kind : ColumnKind) (t : String) : Prop := ∃ v, Denotes kind t v

structure Filter.Alike (s : Source) (fs gs : List Filter) : Prop where
  length : fs.length = gs.length
  column : ∀ x ∈ fs.zip gs, x.1.column = x.2.column
  kind : ∀ x ∈ fs.zip gs, x.1.kind = x.2.kind
  skipped : ∀ x ∈ fs.zip gs, x.1.isSkipped = x.2.isSkipped
  readable : ∀ x ∈ fs.zip gs, x.1.kind = .eq → ∀ c, s.column? x.1.column = some c →
    (Readable c.kind x.1.value ↔ Readable c.kind x.2.value)
  shared : ∀ x ∈ fs.zip gs, ∀ y ∈ fs.zip gs, x.1.kind = .search → y.1.kind = .search →
    (x.1.value = y.1.value ↔ x.2.value = y.2.value)

namespace Source

variable {s : Source} {c : ListColumn}

theorem equality_blank {t u : String} (h : Readable c.kind t ↔ Readable c.kind u) :
    (s.equality c t).blank = (s.equality c u).blank := by
  simp only [Readable, ← ColumnKind.value?_eq_some] at h
  rw [equality, equality]
  cases ht : c.kind.value? t with
  | none =>
    cases hu : c.kind.value? u with
    | none => rfl
    | some w => simp [ht, hu] at h
  | some v =>
    cases hu : c.kind.value? u with
    | none => simp [ht, hu] at h
    | some w =>
      have hv := (ColumnKind.value?_eq_some.mp ht).kind_eq
      have hw := (ColumnKind.value?_eq_some.mp hu).kind_eq
      simp only [Term.blank, hv, hw]

theorem blank_cons (ts : List Term) (p : Predicate) :
    Predicate.blank (ts :: p) = ts.map Term.blank :: p.blank := rfl

abbrev Twin := (Filter × Filter) × ListColumn

def Twin.left (y : Twin) : Filter × ListColumn := (y.1.1, y.2)

def Twin.right (y : Twin) : Filter × ListColumn := (y.1.2, y.2)

structure Agree (ys : List Twin) : Prop where
  kind : ∀ y ∈ ys, y.1.1.kind = y.1.2.kind
  readable : ∀ y ∈ ys, y.1.1.kind = .eq →
    (Readable y.2.kind y.1.1.value ↔ Readable y.2.kind y.1.2.value)
  shared : ∀ y ∈ ys, ∀ z ∈ ys, y.1.1.kind = .search → z.1.1.kind = .search →
    (y.1.1.value = z.1.1.value ↔ y.1.2.value = z.1.2.value)

theorem Agree.subset {ys zs : List Twin} (h : Agree ys) (hsub : zs ⊆ ys) : Agree zs where
  kind y hy := h.kind y (hsub hy)
  readable y hy := h.readable y (hsub hy)
  shared y hy z hz := h.shared y (hsub hy) z (hsub hz)

theorem Agree.sameSearch_eq {y z : Twin} {ys : List Twin} (h : Agree ys) (hy : y ∈ ys) (hz : z ∈ ys)
    (hk : y.1.1.kind = .search) :
    sameSearch y.1.1.value z.left = sameSearch y.1.2.value z.right := by
  rw [Bool.eq_iff_iff, sameSearch_eq_true, sameSearch_eq_true]
  simp only [Twin.left, Twin.right, ← h.kind z hz]
  refine and_congr_right fun hs => ?_
  rw [eq_comm, h.shared y hy z hz hk hs, eq_comm]

theorem alternatives_map (value : String) (side : Twin → Filter × ListColumn) (ys : List Twin) :
    alternatives value (ys.map side) = (ys.filter fun z => sameSearch value (side z)).map side :=
  List.filter_map

theorem others_map (value : String) (side : Twin → Filter × ListColumn) (ys : List Twin) :
    others value (ys.map side) = (ys.filter fun z => !sameSearch value (side z)).map side :=
  List.filter_map

theorem conjuncts_blank (ys : List Twin) (h : Agree ys) :
    (s.conjuncts (ys.map Twin.left)).blank = (s.conjuncts (ys.map Twin.right)).blank := by
  match ys, h with
  | [], _ => rfl
  | y :: more, h =>
    have hy : y ∈ y :: more := List.mem_cons_self ..
    have hmore : more ⊆ y :: more := List.subset_cons_self ..
    cases hk : y.1.1.kind with
    | eq =>
      have hright : y.1.2.kind = .eq := (h.kind y hy).symm.trans hk
      have ih := conjuncts_blank more (h.subset hmore)
      rw [List.map_cons, List.map_cons, Twin.left, Twin.right, conjuncts_eq_cons hk,
        conjuncts_eq_cons hright, blank_cons, blank_cons, ih, List.map_singleton,
        List.map_singleton, equality_blank (h.readable y hy hk)]
    | search =>
      have hright : y.1.2.kind = .search := (h.kind y hy).symm.trans hk
      -- The same places of the two lists search for what the first place searches for.
      have hsame : ∀ z ∈ more, sameSearch y.1.1.value z.left = sameSearch y.1.2.value z.right :=
        fun z hz => h.sameSearch_eq hy (hmore hz) hk
      have halternatives : more.filter (fun z => sameSearch y.1.1.value z.left) =
          more.filter fun z => sameSearch y.1.2.value z.right := List.filter_congr hsame
      have hothers : more.filter (fun z => !sameSearch y.1.1.value z.left) =
          more.filter fun z => !sameSearch y.1.2.value z.right :=
        List.filter_congr fun z hz => congrArg _ (hsame z hz)
      have ih := conjuncts_blank (more.filter fun z => !sameSearch y.1.1.value z.left)
        (h.subset (List.Subset.trans (List.filter_subset_self _) hmore))
      rw [List.map_cons, List.map_cons, Twin.left, Twin.right, conjuncts_search_cons hk,
        conjuncts_search_cons hright, blank_cons, blank_cons, others_map, others_map,
        alternatives_map, alternatives_map, ← hothers, ← halternatives, ih]
      simp only [List.map_cons, List.map_map]
      rfl
termination_by ys.length
decreasing_by
  · exact Nat.lt_succ_self _
  · exact Nat.lt_succ_of_le (List.length_filter_le ..)

theorem resolve_twins (zs : List (Filter × Filter)) (hcolumn : ∀ z ∈ zs, z.1.column = z.2.column)
    (hskipped : ∀ z ∈ zs, z.1.isSkipped = z.2.isSkipped) :
    ∃ o : Except Unknown (List Twin),
      s.resolve (zs.map Prod.fst) = o.map (List.map Twin.left) ∧
        s.resolve (zs.map Prod.snd) = o.map (List.map Twin.right) ∧
        ∀ ys, o = .ok ys → ∀ y ∈ ys, y.1 ∈ zs ∧ s.column? y.1.1.column = some y.2 := by
  induction zs with
  | nil => exact ⟨.ok [], rfl, rfl, by simp⟩
  | cons z zs ih =>
    obtain ⟨hz, hcolumn⟩ := List.forall_mem_cons.mp hcolumn
    obtain ⟨hs, hskipped⟩ := List.forall_mem_cons.mp hskipped
    obtain ⟨o, hleft, hright, hmem⟩ := ih hcolumn hskipped
    cases hasked : z.1.isSkipped with
    | true =>
      refine ⟨o, ?_, ?_, ?_⟩
      · rw [List.map_cons, resolve, if_pos hasked, hleft]
      · rw [List.map_cons, resolve, if_pos (hs ▸ hasked), hright]
      · intro ys hys y hy
        exact (hmem ys hys y hy).imp_left (List.mem_cons_of_mem _)
    | false =>
      have hasked' : ¬z.2.isSkipped = true := by simp [← hs, hasked]
      have hasked : ¬z.1.isSkipped = true := by simp [hasked]
      cases hc : s.column? z.1.column with
      | none =>
        refine ⟨.error (.filterColumn s.table z.1.column), ?_, ?_, by simp⟩
        · rw [List.map_cons, resolve, if_neg hasked, hc]
          rfl
        · rw [List.map_cons, resolve, if_neg hasked', ← hz, hc]
          rfl
      | some c =>
        refine ⟨o.map ((z, c) :: ·), ?_, ?_, ?_⟩
        · rw [List.map_cons, resolve, if_neg hasked, hc, hleft]
          cases o <;> rfl
        · rw [List.map_cons, resolve, if_neg hasked', ← hz, hc, hright]
          cases o <;> rfl
        · intro ys hys y hy
          cases o with
          | error u => cases hys
          | ok rest =>
            obtain rfl := Except.ok.inj hys
            rcases List.mem_cons.mp hy with rfl | hy
            · exact ⟨List.mem_cons_self .., hc⟩
            · exact (hmem rest rfl y hy).imp_left (List.mem_cons_of_mem _)

theorem agree_of_alike {fs gs : List Filter} {ys : List Twin} (h : Filter.Alike s fs gs)
    (hmem : ∀ y ∈ ys, y.1 ∈ fs.zip gs ∧ s.column? y.1.1.column = some y.2) : Agree ys where
  kind y hy := h.kind y.1 (hmem y hy).1
  readable y hy hk := h.readable y.1 (hmem y hy).1 hk y.2 (hmem y hy).2
  shared y hy z hz := h.shared y.1 (hmem y hy).1 z.1 (hmem z hz).1

theorem predicate_alike {fs gs : List Filter} (h : Filter.Alike s fs gs) :
    (∃ u, s.predicate fs = .error u ∧ s.predicate gs = .error u) ∨
      ∃ p q, s.predicate fs = .ok p ∧ s.predicate gs = .ok q ∧ p.blank = q.blank := by
  obtain ⟨o, hleft, hright, hmem⟩ := resolve_twins (s := s) (fs.zip gs) h.column h.skipped
  rw [List.map_fst_zip (Nat.le_of_eq h.length)] at hleft
  rw [List.map_snd_zip (Nat.le_of_eq h.length.symm)] at hright
  cases o with
  | error u => exact .inl ⟨u, by rw [predicate, hleft]; rfl, by rw [predicate, hright]; rfl⟩
  | ok ys =>
    refine .inr ⟨_, _, by rw [predicate, hleft]; rfl, by rw [predicate, hright]; rfl, ?_⟩
    exact conjuncts_blank ys (agree_of_alike h (hmem ys rfl))

theorem compile_blind {r r' : Request} (ha : Filter.Alike s r.filters r'.filters)
    (ho : r.order = r'.order) (base : Select) :
    (∃ u, s.compile base r = .error u ∧ s.compile base r' = .error u) ∨
      ∃ d d', s.compile base r = .ok d ∧ s.compile base r' = .ok d' ∧
        (Statement.select d.fetch).Alike (.select d'.fetch) ∧
        (Statement.select d.count).Alike (.select d'.count) := by
  rcases predicate_alike ha with ⟨u, hp, hq⟩ | ⟨p, q, hp, hq, hblank⟩
  · exact .inl ⟨u, by rw [compile, hp]; rfl, by rw [compile, hq]; rfl⟩
  · cases hsorts : s.sorts r.order with
    | error u =>
      refine .inl ⟨u, ?_, ?_⟩
      · rw [compile, hp, hsorts]
        rfl
      · rw [compile, hq, ← ho, hsorts]
        rfl
    | ok order =>
      refine .inr ⟨_, _, compile_eq_ok.mpr ⟨p, order, hp, hsorts, rfl⟩,
        compile_eq_ok.mpr ⟨q, order, hq, ho ▸ hsorts, rfl⟩, ?_, ?_⟩
      · apply Select.alike_of_blank
        simp only [Select.blank, hblank, Option.map_some]
      · apply Select.alike_of_blank
        simp only [Select.blank, countOf, hblank]

def lookup (page limit : UInt64) (searched category : String) : Request where
  page := page
  limit := limit
  filters := [.search "name" searched, .eq "category_id" category, .eq "owner_id" "",
    .search "address" searched]
  order := [.desc "created_at"]

def harmless : Request := lookup 1 10 "pizza" "11111111-1111-1111-1111-111111111111"

def hostile : Request :=
  lookup 7 100 "'; DROP TABLE users; -- $1 \\" "22222222222222222222222222222222"

theorem harmless_alike_hostile :
    Filter.Alike Business.source harmless.filters hostile.filters := by
  have hleft : (Uuid.ofText? "11111111-1111-1111-1111-111111111111").isSome := by decide +kernel
  have hright : (Uuid.ofText? "22222222222222222222222222222222").isSome := by decide +kernel
  obtain ⟨u, hu⟩ := Option.isSome_iff_exists.mp hleft
  obtain ⟨w, hw⟩ := Option.isSome_iff_exists.mp hright
  have hcategory : Readable .uuid "11111111-1111-1111-1111-111111111111" ↔
      Readable .uuid "22222222222222222222222222222222" :=
    iff_of_true ⟨_, .uuid hu⟩ ⟨_, .uuid hw⟩
  have hzip : harmless.filters.zip hostile.filters =
      [(.search "name" "pizza", .search "name" "'; DROP TABLE users; -- $1 \\"),
        (.eq "category_id" "11111111-1111-1111-1111-111111111111",
          .eq "category_id" "22222222222222222222222222222222"),
        (.eq "owner_id" "", .eq "owner_id" ""),
        (.search "address" "pizza", .search "address" "'; DROP TABLE users; -- $1 \\")] := rfl
  have hsearched : ∀ x ∈ harmless.filters.zip hostile.filters, x.1.kind = .search →
      x.1.value = "pizza" ∧ x.2.value = "'; DROP TABLE users; -- $1 \\" := by
    simp [hzip, Filter.search, Filter.eq]
  constructor
  case length => rfl
  case column => simp [hzip, Filter.search, Filter.eq]
  case kind => simp [hzip, Filter.search, Filter.eq]
  case skipped => decide
  case readable =>
    intro x hx hk c hc
    rw [hzip] at hx
    simp only [List.mem_cons, List.not_mem_nil, or_false] at hx
    rcases hx with rfl | rfl | rfl | rfl
    · cases hk
    · obtain rfl : ⟨"category_id", .uuid, none⟩ = c := Option.some.inj hc
      exact hcategory
    · exact Iff.rfl
    · cases hk
  case shared =>
    intro x hx y hy hxk hyk
    obtain ⟨hx, hx'⟩ := hsearched x hx hxk
    obtain ⟨hy, hy'⟩ := hsearched y hy hyk
    exact iff_of_true (hx.trans hy.symm) (hx'.trans hy'.symm)

theorem hostile_as_harmless :
    ∃ d d', Business.source.compile Business.detailed harmless = .ok d ∧
      Business.source.compile Business.detailed hostile = .ok d' ∧
      (Statement.select d.fetch).Alike (.select d'.fetch) ∧
      (Statement.select d.count).Alike (.select d'.count) := by
  have hsorts : Business.source.sorts harmless.order = .ok [(⟨"b", "created_at"⟩, .desc)] := rfl
  have hresolve : Business.source.resolve harmless.filters =
      .ok [(.search "name" "pizza", ⟨"name", .text, none⟩),
        (.eq "category_id" "11111111-1111-1111-1111-111111111111", ⟨"category_id", .uuid, none⟩),
        (.search "address" "pizza", ⟨"address", .text, none⟩)] := rfl
  have hcompiled : Business.source.compile Business.detailed harmless = .ok _ :=
    compile_eq_ok.mpr ⟨_, _, predicate_eq_ok.mpr ⟨_, hresolve, rfl⟩, hsorts, rfl⟩
  rcases compile_blind harmless_alike_hostile rfl Business.detailed with ⟨u, hu, -⟩ | halike
  · simp [hcompiled] at hu
  · exact halike

end Source

end CityGuide.Listing
