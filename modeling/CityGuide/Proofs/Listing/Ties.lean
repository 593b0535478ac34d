import CityGuide.Proofs.Listing.Paging
import CityGuide.Proofs.Sql.Ordering

namespace CityGuide.Listing

open Sql

section

variable {ι : Type} {R : ι → ι → Prop} {l l' : List ι} {b n : Nat}

def Cut (R : ι → ι → Prop) (l : List ι) (b : Nat) : Prop :=
  ∀ x ∈ l.take b, ∀ y ∈ l.drop b, ¬R y x

theorem cut_of_neighbours (hrefl : ∀ x, R x x) (htrans : ∀ {x y z}, R x y → R y z → R x z)
    (hl : l.Pairwise R)
    (h : ∀ before x y after, l = before ++ x :: y :: after → before.length + 1 = b → ¬R y x) :
    Cut R l b := by
  intro u hu v hv hvu
  obtain ⟨before, x, hbefore⟩ : ∃ before x, l.take b = before ++ [x] :=
    (List.eq_nil_or_concat' _).resolve_left (List.ne_nil_of_mem hu)
  obtain ⟨y, after, hafter⟩ : ∃ y after, l.drop b = y :: after :=
    List.exists_cons_of_ne_nil (List.ne_nil_of_mem hv)
  have hsplit : l = before ++ x :: y :: after := by
    rw [← List.take_append_drop b l, hbefore, hafter, List.append_assoc, List.singleton_append]
  have hlength : before.length + 1 = b := by
    have htake := congrArg List.length hbefore
    have hdrop := congrArg List.length hafter
    simp only [List.length_take, List.length_drop, List.length_append, List.length_cons,
      List.length_nil] at htake hdrop
    omega
  rw [← List.take_append_drop b l, hbefore, hafter] at hl
  obtain ⟨hbefore', hafter', -⟩ := List.pairwise_append.mp hl
  -- The two neighbours stand between the two rows that would be level.
  have hux : R u x := by
    rcases List.mem_append.mp (hbefore ▸ hu) with hu | hu
    · exact (List.pairwise_append.mp hbefore').2.2 u hu x (List.mem_singleton_self x)
    · exact List.mem_singleton.mp hu ▸ hrefl u
  have hyv : R y v := by
    rcases List.mem_cons.mp (hafter ▸ hv) with rfl | hv
    · exact hrefl v
    · exact List.rel_of_pairwise_cons hafter' hv
  exact h before x y after hsplit hlength (htrans hyv (htrans hvu hux))

theorem perm_take (hcut : Cut R l b) (hnodup : l.Nodup) (hp : l.Perm l') (hl' : l'.Pairwise R) :
    (l.take b).Perm (l'.take b) := by
  have hlength : (l.take b).length = (l'.take b).length := by
    rw [List.length_take, List.length_take, hp.length_eq]
  have hnodup' : l'.Nodup := hp.nodup_iff.mp hnodup
  have hsub : l.take b ⊆ l'.take b := by
    intro x hx
    by_contra hmissing
    have hback : ¬l'.take b ⊆ l.take b := by
      intro hsub
      have hperm := ((hnodup'.sublist (List.take_sublist b l')).subperm hsub).perm_of_length_le
        hlength.le
      exact hmissing (hperm.mem_iff.mpr hx)
    obtain ⟨y, hy, hy'⟩ : ∃ y ∈ l'.take b, y ∉ l.take b := by simpa [List.subset_def] using hback
    have hxdrop : x ∈ l'.drop b := by
      have hmem : x ∈ l'.take b ++ l'.drop b := by
        rw [List.take_append_drop]
        exact hp.mem_iff.mp (List.mem_of_mem_take hx)
      exact (List.mem_append.mp hmem).resolve_left hmissing
    have hydrop : y ∈ l.drop b := by
      have hmem : y ∈ l.take b ++ l.drop b := by
        rw [List.take_append_drop]
        exact hp.mem_iff.mpr (List.mem_of_mem_take hy)
      exact (List.mem_append.mp hmem).resolve_left hy'
    rw [← List.take_append_drop b l'] at hl'
    exact hcut x hx y hydrop ((List.pairwise_append.mp hl').2.2 y hy x hxdrop)
  exact ((hnodup.sublist (List.take_sublist b l)).subperm hsub).perm_of_length_le hlength.ge

theorem perm_slice (hstart : (l.take b).Perm (l'.take b))
    (hend : (l.take (b + n)).Perm (l'.take (b + n))) :
    ((l.drop b).take n).Perm ((l'.drop b).take n) := by
  rw [List.take_add, List.take_add] at hend
  exact (List.perm_append_left_iff _).mp (hend.trans (hstart.symm.append_right _))

end

namespace Request

variable {ι : Type} {R : ι → ι → Prop} {r : Request} {rows l l' : List ι} {page : UInt64}

theorem slice_onPage (hn : l.length < 2 ^ 63) :
    (r.onPage page).window.slice l =
      (l.drop ((page.toNat - 1) * r.limit.toNat)).take r.limit.toNat := by
  have hoffset : (r.onPage page).offset.toNat =
      min ((page.toNat - 1) * r.limit.toNat) (2 ^ 63 - 1) := offset_toNat _
  simp only [Window.slice, window, hoffset]
  rcases Nat.le_total ((page.toNat - 1) * r.limit.toNat) (2 ^ 63 - 1) with h | h
  · rw [Nat.min_eq_left h]
    rfl
  · rw [Nat.min_eq_right h, List.drop_eq_nil_of_le (by omega), List.drop_eq_nil_of_le (by omega),
      List.take_nil, List.take_nil]

theorem mem_page {x : ι} {i : Nat} (hlimit : 1 ≤ r.limit.toNat) (hn : l.length < 2 ^ 63)
    (hi : l[i]? = some x) :
    x ∈ (r.onPage (UInt64.ofNat (i / r.limit.toNat + 1))).window.slice l := by
  have hlength : i < l.length := (List.getElem?_eq_some_iff.mp hi).1
  have hpage : (UInt64.ofNat (i / r.limit.toNat + 1)).toNat = i / r.limit.toNat + 1 := by
    have hle := Nat.div_le_self i r.limit.toNat
    rw [UInt64.toNat_ofNat', Nat.mod_eq_of_lt (by omega)]
  have hplace : i / r.limit.toNat * r.limit.toNat + i % r.limit.toNat = i := Nat.div_add_mod' ..
  rw [slice_onPage hn, hpage, Nat.add_sub_cancel]
  refine List.mem_of_getElem? (i := i % r.limit.toNat) ?_
  rw [List.getElem?_take_of_lt (Nat.mod_lt i hlimit), List.getElem?_drop, hplace, hi]

def Apart (R : ι → ι → Prop) (r : Request) (rows : List ι) : Prop :=
  ∀ before x y after, rows.Perm (before ++ x :: y :: after) →
    (before ++ x :: y :: after).Pairwise R → r.limit.toNat ∣ before.length + 1 → ¬R y x

structure Partitions (r : Request) (rows : List ι) (pages : UInt64 → List ι) : Prop where
  disjoint : ∀ j k, 1 ≤ j → 1 ≤ k → j ≠ k → (pages j).Disjoint (pages k)
  covering : ((List.range (r.pageCount rows.length)).flatMap
    fun k => pages (UInt64.ofNat (k + 1))).Perm rows

theorem apart_of_distinct (hnodup : rows.Nodup)
    (h : ∀ x ∈ rows, ∀ y ∈ rows, R x y → R y x → x = y) : r.Apart R rows := by
  intro before x y after hp hr _ hyx
  have hxy : R x y := (List.pairwise_cons.mp (List.pairwise_append.mp hr).2.1).1 y
    (List.mem_cons_self ..)
  have heq : x = y := h x (hp.mem_iff.mpr (by simp)) y (hp.mem_iff.mpr (by simp)) hxy hyx
  have hnodup' := (List.nodup_append.mp (hp.nodup_iff.mp hnodup)).2.1
  simp [heq] at hnodup'

theorem Partitions.congr {pages pages' : UInt64 → List ι} (h : r.Partitions rows pages)
    (hp : ∀ k, (pages k).Perm (pages' k)) : r.Partitions rows pages' where
  disjoint j k hj hk hne _ hx hx' :=
    h.disjoint j k hj hk hne ((hp j).mem_iff.mpr hx) ((hp k).mem_iff.mpr hx')
  covering := (List.Perm.flatMap_left _ fun _ _ => hp _).symm.trans h.covering

section

variable (hn : l.length < 2 ^ 63)

include hn

theorem disjoint_pages {j k : UInt64} (hnodup : l.Nodup) (hj : 1 ≤ j) (hjk : j < k) :
    ((r.onPage j).window.slice l).Disjoint ((r.onPage k).window.slice l) := by
  have hj' : 1 ≤ j.toNat := UInt64.le_iff_toNat_le.mp hj
  have hjk' : j.toNat < k.toNat := UInt64.lt_iff_toNat_lt.mp hjk
  have hends : (j.toNat - 1) * r.limit.toNat + r.limit.toNat ≤ (k.toNat - 1) * r.limit.toNat := by
    rw [← Nat.succ_mul]
    exact Nat.mul_le_mul_right _ (by omega)
  rw [slice_onPage hn, slice_onPage hn]
  intro x hx hx'
  refine List.disjoint_take_drop hnodup hends ?_ (List.mem_of_mem_take hx')
  rw [List.take_add]
  exact List.mem_append_right _ hx

theorem partitions_self (hlimit : 1 ≤ r.limit.toNat) (hnodup : l.Nodup) (hp : rows.Perm l) :
    r.Partitions rows fun k => (r.onPage k).window.slice l where
  disjoint j k hj hk hne := by
    rcases UInt64.lt_or_lt_of_ne hne with hjk | hkj
    · exact disjoint_pages hn hnodup hj hjk
    · exact (disjoint_pages hn hnodup hk hkj).symm
  covering := by
    rw [hp.length_eq, pages_of_rows hlimit hn]
    exact hp.symm

end

theorem Apart.perm_page (hrefl : ∀ x, R x x) (htrans : ∀ {x y z}, R x y → R y z → R x z)
    (h : r.Apart R rows) (hn : rows.length < 2 ^ 63) (hnodup : rows.Nodup) (hl : rows.Perm l)
    (hl' : rows.Perm l') (hr : l.Pairwise R) (hr' : l'.Pairwise R) (page : UInt64) :
    ((r.onPage page).window.slice l).Perm ((r.onPage page).window.slice l') := by
  have hcut : ∀ c, Cut R l (c * r.limit.toNat) := by
    intro c
    refine cut_of_neighbours hrefl htrans hr ?_
    rintro before x y after rfl hlength
    exact h before x y after hl hr (hlength ▸ Nat.dvd_mul_left ..)
  have htake : ∀ c, (l.take (c * r.limit.toNat)).Perm (l'.take (c * r.limit.toNat)) := fun c =>
    perm_take (hcut c) (hl.nodup_iff.mp hnodup) (hl.symm.trans hl') hr'
  rw [slice_onPage (hl.length_eq ▸ hn), slice_onPage (hl'.length_eq ▸ hn)]
  refine perm_slice (htake _) ?_
  rw [← Nat.succ_mul]
  exact htake _

theorem partitions_of_apart (hrefl : ∀ x, R x x) (htrans : ∀ {x y z}, R x y → R y z → R x z)
    (h : r.Apart R rows) (hlimit : 1 ≤ r.limit.toNat) (hn : rows.length < 2 ^ 63)
    (hnodup : rows.Nodup) {chosen : UInt64 → List ι} (hp : ∀ k, rows.Perm (chosen k))
    (hr : ∀ k, (chosen k).Pairwise R) :
    r.Partitions rows fun k => (r.onPage k).window.slice (chosen k) := by
  -- Every page is, up to the order of its rows, what one way of lining them up would show.
  have hone : r.Partitions rows fun k => (r.onPage k).window.slice (chosen 1) :=
    partitions_self ((hp 1).length_eq ▸ hn) hlimit ((hp 1).nodup_iff.mp hnodup) (hp 1)
  exact hone.congr fun k => h.perm_page hrefl htrans hn hnodup (hp 1) (hp k) (hr 1) (hr k) k

theorem pairwise_swap {before after : List ι} {x y : ι}
    (h : (before ++ x :: y :: after).Pairwise R) (hyx : R y x) :
    (before ++ y :: x :: after).Pairwise R := by
  simp only [List.pairwise_append, List.pairwise_cons, List.mem_cons, forall_eq_or_imp] at h ⊢
  obtain ⟨hbefore, ⟨⟨-, hx⟩, hy, hafter⟩, hall⟩ := h
  refine ⟨hbefore, ⟨⟨hyx, hy⟩, hx, hafter⟩, fun z hz => ?_⟩
  obtain ⟨hzx, hzy, hrest⟩ := hall z hz
  exact ⟨hzy, hzx, hrest⟩

section

variable (h : ∀ chosen : UInt64 → List ι, (∀ k, rows.Perm (chosen k)) →
  (∀ k, (chosen k).Pairwise R) → r.Partitions rows fun k => (r.onPage k).window.slice (chosen k))

include h

theorem disjoint_of_partitions (hl : rows.Perm l) (hl' : rows.Perm l') (hr : l.Pairwise R)
    (hr' : l'.Pairwise R) {j k : UInt64} (hj : 1 ≤ j) (hk : 1 ≤ k) (hne : j ≠ k) :
    ((r.onPage j).window.slice l).Disjoint ((r.onPage k).window.slice l') := by
  have hpages := h (Function.update (fun _ => l) k l')
    ((Function.forall_update_iff _ fun _ rows' => rows.Perm rows').mpr ⟨hl', fun _ _ => hl⟩)
    ((Function.forall_update_iff _ fun _ rows' => List.Pairwise R rows').mpr ⟨hr', fun _ _ => hr⟩)
  have hdisjoint := hpages.disjoint j k hj hk hne
  simpa only [Function.update_of_ne hne, Function.update_self] using hdisjoint

theorem apart_of_partitions (hlimit : 1 ≤ r.limit.toNat) (hn : rows.length < 2 ^ 63) :
    r.Apart R rows := by
  rintro before x y after hp hr ⟨c, hc⟩ hyx
  obtain ⟨c, rfl⟩ : ∃ d, c = d + 1 := Nat.exists_eq_succ_of_ne_zero fun hzero => by
    simp [hzero] at hc
  have hswap : (before ++ x :: y :: after).Perm (before ++ y :: x :: after) :=
    (List.Perm.swap ..).append_left before
  have hlength : rows.length = before.length + (after.length + 2) := by
    simpa using hp.length_eq
  have hends : before.length + 1 = c * r.limit.toNat + r.limit.toNat := by
    rw [hc, Nat.mul_succ, Nat.mul_comm]
  have hlast : before.length / r.limit.toNat = c :=
    Nat.div_eq_of_lt_le (by omega) (by rw [Nat.succ_mul]; omega)
  have hfirst : (before.length + 1) / r.limit.toNat = c + 1 := by
    rw [hc, Nat.mul_div_cancel_left _ hlimit]
  have hx : x ∈ (r.onPage (UInt64.ofNat (c + 1))).window.slice (before ++ x :: y :: after) :=
    hlast ▸ mem_page hlimit (hp.length_eq ▸ hn) (by simp)
  have hx' : x ∈ (r.onPage (UInt64.ofNat (c + 1 + 1))).window.slice (before ++ y :: x :: after) :=
    hfirst ▸ mem_page hlimit ((hp.trans hswap).length_eq ▸ hn) (by simp)
  have hfew : c ≤ c * r.limit.toNat := Nat.le_mul_of_pos_right c hlimit
  have hpage : ∀ k, k ≤ c + 2 → (UInt64.ofNat k).toNat = k := fun k hk => by
    rw [UInt64.toNat_ofNat', Nat.mod_eq_of_lt (by omega)]
  refine disjoint_of_partitions h hp (hp.trans hswap) hr (pairwise_swap hr hyx) ?_ ?_ ?_ hx hx'
  · rw [UInt64.le_iff_toNat_le, hpage _ (by omega)]
    exact Nat.le_add_left ..
  · rw [UInt64.le_iff_toNat_le, hpage _ (by omega)]
    exact Nat.le_add_left ..
  · intro heq
    have hsame := congrArg UInt64.toNat heq
    rw [hpage _ (by omega), hpage _ (by omega)] at hsame
    omega

end

end Request

variable {ι : Type} {row : ι → Record} {o : Ranking} {m : Matching} {rows : List ι}

/-- What the store may answer a statement with: what its window shows of the rows, in one of the
ways of lining them up. -/
def MayShow (o : Ranking) (m : Matching) (row : ι → Record) (s : Select) (shown : List ι) : Prop :=
  ∃ l, s.Arranges o m row l ∧ shown = s.window.elim l fun w => w.slice l

namespace Source

variable {s : Source} {base : Select} {r : Request} {compiled : Compiled}

theorem compile_onPage (h : s.compile base r = .ok compiled) (page : UInt64) :
    s.compile base (r.onPage page) =
      .ok ⟨{ compiled.fetch with window := some (r.onPage page).window }, compiled.count⟩ := by
  obtain ⟨p, order, hp, ho, rfl⟩ := compile_eq_ok.mp h
  exact compile_eq_ok.mpr ⟨p, order, hp, ho, rfl⟩

def MayPage (o : Ranking) (m : Matching) (row : ι → Record) (s : Source) (base : Select)
    (r : Request) (pages : UInt64 → List ι) : Prop :=
  ∀ page, ∃ compiled, s.compile base (r.onPage page) = .ok compiled ∧
    MayShow o m row compiled.fetch (pages page)

theorem mayPage_iff (h : s.compile base r = .ok compiled) {pages : UInt64 → List ι} :
    s.MayPage o m row base r pages ↔
      ∃ chosen : UInt64 → List ι, (∀ page, compiled.fetch.Arranges o m row (chosen page)) ∧
        pages = fun page => (r.onPage page).window.slice (chosen page) := by
  constructor
  · intro hpages
    have hchosen : ∀ page, ∃ l, compiled.fetch.Arranges o m row l ∧
        pages page = (r.onPage page).window.slice l := by
      intro page
      obtain ⟨c, hc, l, hl, hshown⟩ := hpages page
      obtain rfl := Except.ok.inj ((compile_onPage h page).symm.trans hc)
      exact ⟨l, ⟨⟨hl.nodup, hl.rows⟩, hl.ranked⟩, hshown⟩
    obtain ⟨chosen, hchosen⟩ := Classical.skolem.mp hchosen
    exact ⟨chosen, fun page => (hchosen page).1, funext fun page => (hchosen page).2⟩
  · rintro ⟨chosen, hchosen, rfl⟩ page
    refine ⟨_, compile_onPage h page, chosen page, ?_, rfl⟩
    exact ⟨⟨(hchosen page).nodup, (hchosen page).rows⟩, (hchosen page).ranked⟩

theorem selects_count (h : s.compile base r = .ok compiled) {l : List ι} :
    compiled.fetch.Selects m row l ↔ compiled.count.Selects m row l := by
  obtain ⟨p, order, -, -, rfl⟩ := compile_eq_ok.mp h
  exact ⟨fun hl => ⟨hl.nodup, hl.rows⟩, fun hl => ⟨hl.nodup, hl.rows⟩⟩

theorem pages_partition_iff (h : s.compile base r = .ok compiled) (hr : r.Bounded)
    (hrows : compiled.count.Selects m row rows) (hfew : rows.length < 2 ^ 63) :
    (∀ pages, s.MayPage o m row base r pages → r.Partitions rows pages) ↔
      r.Apart (fun i j => o.Ranks compiled.fetch.order (row i) (row j)) rows := by
  have hselects := (selects_count h).mpr hrows
  constructor
  · intro hpages
    refine Request.apart_of_partitions (fun chosen hp hranked => ?_) hr.limit_pos hfew
    refine hpages _ ((mayPage_iff h).mpr ⟨chosen, fun page => ?_, rfl⟩)
    exact ⟨hselects.of_perm (hp page), hranked page⟩
  · intro hapart pages hpages
    obtain ⟨chosen, hchosen, rfl⟩ := (mayPage_iff h).mp hpages
    exact Request.partitions_of_apart (fun i => o.ranks_refl _ (row i)) (fun h h' => h.trans h')
      hapart hr.limit_pos hfew hrows.nodup (fun page => hselects.perm (hchosen page).toSelects)
      fun page => (hchosen page).ranked

end Source

end CityGuide.Listing
