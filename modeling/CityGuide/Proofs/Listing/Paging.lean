import CityGuide.Proofs.Listing.Counting
import Mathlib.Algebra.Order.Floor.Div

namespace CityGuide

def Sql.Window.slice {α : Type} (w : Window) (rows : List α) : List α :=
  (rows.drop w.offset.toNat).take w.limit.toNat

theorem Sql.Window.slice_eq_nil {α : Type} {w : Window} {rows : List α}
    (h : rows.length ≤ w.offset.toNat) : w.slice rows = [] := by
  rw [slice, List.drop_eq_nil_of_le h, List.take_nil]

namespace Listing

theorem flatMap_drop_take {α : Type} (rows : List α) (width count : Nat) :
    (List.range count).flatMap (fun k => (rows.drop (k * width)).take width) =
      rows.take (count * width) := by
  induction count with
  | zero => simp
  | succ count ih =>
    rw [List.range_succ, List.flatMap_append, ih, List.flatMap_singleton, Nat.succ_mul,
      List.take_add]

theorem one_le_toNat {n : UInt64} (h : n ≠ 0) : 1 ≤ n.toNat :=
  Nat.pos_of_ne_zero fun hzero => h (UInt64.toNat_inj.mp hzero)

theorem saturatingPred_toNat (n : UInt64) : (saturatingPred n).toNat = n.toNat - 1 := by
  rw [saturatingPred]
  split
  · rename_i h
    simp [h]
  · rename_i h
    have hpos : 1 ≤ n := UInt64.le_iff_toNat_le.mpr (one_le_toNat h)
    rw [UInt64.toNat_sub_of_le _ _ hpos]
    rfl

theorem saturatingMul_toNat (a b : UInt64) :
    (saturatingMul a b).toNat = min (a.toNat * b.toNat) (2 ^ 64 - 1) := by
  have hword : Text.maxWord 64 = 2 ^ 64 - 1 := rfl
  rw [saturatingMul, hword]
  split
  · rename_i h
    have hlt : a.toNat * b.toNat < 2 ^ 64 := by omega
    rw [UInt64.toNat_mul, Nat.mod_eq_of_lt hlt, Nat.min_eq_left h]
  · rename_i h
    rw [Nat.min_eq_right (Nat.le_of_not_le h)]
    rfl

namespace Request

variable {start r q : Request}

theorem offset_toNat (r : Request) :
    r.offset.toNat = min ((r.page.toNat - 1) * r.limit.toNat) (2 ^ 63 - 1) := by
  have hcap : (UInt64.ofNat (Text.maxWord 63)).toNat = 2 ^ 63 - 1 := rfl
  have hbefore : (saturatingMul (saturatingPred r.page) r.limit).toNat =
      min ((r.page.toNat - 1) * r.limit.toNat) (2 ^ 64 - 1) := by
    rw [saturatingMul_toNat, saturatingPred_toNat]
  change (ite (saturatingMul (saturatingPred r.page) r.limit ≤ UInt64.ofNat (Text.maxWord 63))
    (saturatingMul (saturatingPred r.page) r.limit) (UInt64.ofNat (Text.maxWord 63))).toNat = _
  split
  · rename_i h
    have hle := UInt64.le_iff_toNat_le.mp h
    omega
  · rename_i h
    have hlt := UInt64.lt_iff_toNat_lt.mp (UInt64.not_le.mp h)
    omega

inductive Fresh : Request → Prop
  | ofPage (page limit : UInt64) : Fresh (ofPage page limit)
  | params (p : Params) : Fresh p.request

inductive Extends (r : Request) : Request → Prop
  | refl : Extends r r
  | filter {q : Request} (f : Filter) (h : Extends r q) : Extends r (q.filter f)
  | eq {q : Request} (column value : String) (h : Extends r q) : Extends r (q.eq column value)
  | search {q : Request} (columns : List String) (value : String) (h : Extends r q) :
      Extends r (q.search columns value)
  | orderBy {q : Request} (keys : List OrderKey) (h : Extends r q) : Extends r (q.orderBy keys)

structure Keeps (r q : Request) : Prop where
  page : q.page = r.page
  limit : q.limit = r.limit
  filters : r.filters <+: q.filters
  order : r.order <+: q.order

theorem Keeps.refl (r : Request) : r.Keeps r := ⟨rfl, rfl, List.prefix_rfl, List.prefix_rfl⟩

theorem Keeps.trans (h : start.Keeps r) (h' : r.Keeps q) : start.Keeps q where
  page := h'.page.trans h.page
  limit := h'.limit.trans h.limit
  filters := h.filters.trans h'.filters
  order := h.order.trans h'.order

theorem Extends.keeps (h : r.Extends q) : r.Keeps q := by
  induction h with
  | refl => exact .refl r
  | filter f _ ih | eq column value _ ih | search columns value _ ih =>
    exact ih.trans ⟨rfl, rfl, List.prefix_append .., List.prefix_rfl⟩
  | orderBy keys _ ih => exact ih.trans ⟨rfl, rfl, List.prefix_rfl, List.prefix_append ..⟩

structure Bounded (r : Request) : Prop where
  page : 1 ≤ r.page.toNat
  limit_pos : 1 ≤ r.limit.toNat
  limit_le : r.limit.toNat ≤ 100

theorem ofPage_bounded (page limit : UInt64) : (ofPage page limit).Bounded := by
  constructor
  · change 1 ≤ (if page = 0 then defaultPage else page).toNat
    split
    · decide
    · rename_i h
      exact one_le_toNat h
  all_goals
    simp only [ofPage]
    split
    · decide
    · split
      · decide
      · rename_i hzero hmost
        first
        | exact one_le_toNat hzero
        | exact UInt64.le_iff_toNat_le.mp (UInt64.not_lt.mp hmost)

theorem Fresh.bounded (h : r.Fresh) : r.Bounded := by
  cases h with
  | ofPage page limit | params p => exact ofPage_bounded ..

theorem Bounded.keeps (h : r.Bounded) (hk : r.Keeps q) : q.Bounded := by
  constructor
  · exact hk.page ▸ h.page
  · exact hk.limit ▸ h.limit_pos
  · exact hk.limit ▸ h.limit_le

def onPage (r : Request) (page : UInt64) : Request := { r with page }

def pageCount (r : Request) (n : Nat) : Nat := n ⌈/⌉ r.limit.toNat

section

variable (hlimit : 1 ≤ r.limit.toNat) {n : Nat} (hn : n < 2 ^ 63)

include hlimit

theorem pageCount_le_iff {k : Nat} : r.pageCount n ≤ k ↔ n ≤ r.limit.toNat * k :=
  ceilDiv_le_iff_le_mul hlimit

include hn

theorem offset_onPage {k : Nat} (hk : k < r.pageCount n) :
    (r.onPage (UInt64.ofNat (k + 1))).offset.toNat = k * r.limit.toNat := by
  have hbefore : r.limit.toNat * k < n :=
    Nat.lt_of_not_le fun h => Nat.not_le.mpr hk ((pageCount_le_iff hlimit).mpr h)
  have hle : k ≤ r.limit.toNat * k := Nat.le_mul_of_pos_left k hlimit
  have hpage : (UInt64.ofNat (k + 1)).toNat = k + 1 := by
    rw [UInt64.toNat_ofNat', Nat.mod_eq_of_lt (by omega)]
  have hoffset : (r.onPage (UInt64.ofNat (k + 1))).offset.toNat =
      min (((UInt64.ofNat (k + 1)).toNat - 1) * r.limit.toNat) (2 ^ 63 - 1) := offset_toNat _
  rw [hoffset, hpage, Nat.add_sub_cancel, Nat.mul_comm]
  omega

theorem le_offset_of_pageCount_lt {page : UInt64} (hp : r.pageCount n < page.toNat) :
    n ≤ (r.onPage page).offset.toNat := by
  have hbefore : n ≤ r.limit.toNat * (page.toNat - 1) :=
    (pageCount_le_iff hlimit).mp (Nat.le_sub_one_of_lt hp)
  have hoffset : (r.onPage page).offset.toNat =
      min ((page.toNat - 1) * r.limit.toNat) (2 ^ 63 - 1) := offset_toNat _
  rw [hoffset, Nat.mul_comm]
  omega

end

theorem pages_of_rows {α : Type} {rows : List α} (hlimit : 1 ≤ r.limit.toNat)
    (hn : rows.length < 2 ^ 63) :
    (List.range (r.pageCount rows.length)).flatMap
      (fun k => (r.onPage (UInt64.ofNat (k + 1))).window.slice rows) = rows := by
  have hslices : ∀ k ∈ List.range (r.pageCount rows.length),
      (r.onPage (UInt64.ofNat (k + 1))).window.slice rows =
        (rows.drop (k * r.limit.toNat)).take r.limit.toNat := by
    intro k hk
    have hoffset := offset_onPage hlimit hn (List.mem_range.mp hk)
    simp only [Sql.Window.slice, window, hoffset]
    rfl
  have hcovered : rows.length ≤ r.pageCount rows.length * r.limit.toNat := by
    rw [Nat.mul_comm]
    exact (pageCount_le_iff hlimit).mp le_rfl
  rw [List.flatMap_congr hslices, flatMap_drop_take, List.take_of_length_le hcovered]

theorem pages_of_built (hstart : start.Fresh) (hr : start.Extends r) (hq : r.Extends q) :
    (∀ any : Request,
      any.offset.toNat = min ((any.page.toNat - 1) * any.limit.toNat) (2 ^ 63 - 1)) ∧
    q.Bounded ∧ r.filters <+: q.filters ∧ r.order <+: q.order ∧
    (∀ source base compiled, Source.compile source base q = .ok compiled →
      ∃ asked, (Sql.Statement.select compiled.fetch).prepared.values =
        asked ++ [.word q.limit, .word q.offset]) ∧
    q.limit.toNat < 2 ^ 63 ∧ q.offset.toNat < 2 ^ 63 ∧
    ∀ {α : Type} (rows : List α), rows.length < 2 ^ 63 →
      (List.range (rows.length ⌈/⌉ q.limit.toNat)).flatMap
        (fun k => (q.onPage (UInt64.ofNat (k + 1))).window.slice rows) = rows ∧
      ∀ page : UInt64, rows.length ⌈/⌉ q.limit.toNat < page.toNat →
        (q.onPage page).window.slice rows = [] := by
  have hbounded : q.Bounded := (hstart.bounded.keeps hr.keeps).keeps hq.keeps
  refine ⟨offset_toNat, hbounded, hq.keeps.filters, hq.keeps.order, ?_, ?_, ?_, ?_⟩
  · intro source base compiled h
    obtain ⟨p, order, -, -, rfl⟩ := Source.compile_eq_ok.mp h
    exact ⟨_, Sql.Select.values_eq _⟩
  · exact hbounded.limit_le.trans_lt (by decide)
  · rw [offset_toNat]
    omega
  · intro α rows hn
    refine ⟨pages_of_rows hbounded.limit_pos hn, fun page hp => ?_⟩
    exact Sql.Window.slice_eq_nil (le_offset_of_pageCount_lt hbounded.limit_pos hn hp)

theorem pages_of_cafes :
    (List.range 3).flatMap
      (fun k => (Source.cafes.onPage (UInt64.ofNat (k + 1))).window.slice (List.range 20)) =
        List.range 20 ∧
      (Source.cafes.onPage 18446744073709551615).window.slice (List.range 20) = [] := by
  have hbuilt : (ofPage 3 7).Extends Source.cafes := .orderBy _ (.search _ _ (.eq _ _ .refl))
  obtain ⟨-, -, -, -, -, -, -, htile⟩ := pages_of_built (.ofPage 3 7) .refl hbuilt
  have hcount : (List.range 20).length ⌈/⌉ Source.cafes.limit.toNat = 3 := by decide
  have hrows := htile (List.range 20) (by decide)
  rw [hcount] at hrows
  exact ⟨hrows.1, hrows.2 _ (by decide)⟩

end Request

end Listing

end CityGuide
