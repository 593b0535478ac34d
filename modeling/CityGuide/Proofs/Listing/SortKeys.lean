import CityGuide.Listing.Params
import CityGuide.Proofs.Text.Items
import Mathlib.Data.List.Forall2

namespace CityGuide.Listing

open Text

namespace OrderKey

/-- How an order key is written as one item of a list: without a sign only where none begins the
name of the column. -/
inductive Spelled : OrderKey → String → Prop
  | desc (column : String) : Spelled (.desc column) ("-" ++ column)
  | plus (column : String) : Spelled (.asc column) ("+" ++ column)
  | bare {column : String} (hminus : column.toList.head? ≠ some '-')
      (hplus : column.toList.head? ≠ some '+') : Spelled (.asc column) column

variable {k : OrderKey} {item : String}

theorem isItem_signed {sign : String} {c : Char} (hsign : sign.toList = [c])
    (hc : isBlank c = false) (hcomma : c ≠ ',') {column : String} (h : IsItem column) :
    IsItem (sign ++ column) := by
  have hlist : (sign ++ column).toList = c :: column.toList := by simp [hsign]
  refine ⟨?_, ?_, ?_⟩
  · intro hempty
    simp [hempty] at hlist
  · have hkept : trimChars column.toList = column.toList := by
      rw [← toList_trim, h.trimmed]
    rw [← String.toList_inj, toList_trim, hlist, trimChars_cons hc hkept]
  · rw [hlist, List.mem_cons, not_or]
    exact ⟨hcomma.symm, h.whole⟩

theorem Spelled.isItem (h : k.Spelled item) (hk : IsItem k.column) : IsItem item := by
  cases h with
  | desc column => exact isItem_signed rfl (by decide) (by decide) hk
  | plus column => exact isItem_signed rfl (by decide) (by decide) hk
  | bare => exact hk

end OrderKey

namespace Params

variable {item text : String} {k : OrderKey}

theorem orderKey_of_spelled (h : k.Spelled item) : orderKey item.toList = k := by
  cases h with
  | desc column => simp [orderKey]
  | plus column => simp [orderKey]
  | bare hminus hplus =>
    generalize hcs : item.toList = cs at hminus hplus
    obtain rfl : item = String.ofList cs := by rw [← hcs, String.ofList_toList]
    fun_cases orderKey cs with
    | case1 => exact absurd rfl hminus
    | case2 => exact absurd rfl hplus
    | case3 => rfl

theorem spelled_iff : k.Spelled item ↔ orderKey item.toList = k := by
  constructor
  · exact orderKey_of_spelled
  · rintro rfl
    generalize hcs : item.toList = cs
    obtain rfl : item = String.ofList cs := by rw [← hcs, String.ofList_toList]
    fun_cases orderKey cs with
    | case1 column => simpa [← String.toList_inj] using OrderKey.Spelled.desc (String.ofList column)
    | case2 column => simpa [← String.toList_inj] using OrderKey.Spelled.plus (String.ofList column)
    | case3 _ hminus hplus =>
      have hhead : ∀ c, (∀ r, cs = c :: r → False) → cs.head? ≠ some c := by
        intro c hnone hc
        obtain ⟨r, hr⟩ := List.head?_eq_some_iff.mp hc
        exact hnone r hr
      exact .bare (by simpa using hhead _ hminus) (by simpa using hhead _ hplus)

theorem sortItems_eq (text : String) : sortItems text = (items text).map String.toList := by
  have htrim : (parts ',' text).map trim =
      ((splitOn ',' text.toList).map trimChars).map String.ofList := by
    simp [parts, trim, Function.comp_def]
  have hempty : (fun o : String => !o.isEmpty) ∘ String.ofList = fun cs => !cs.isEmpty := by
    funext cs
    cases cs <;> simp
  rw [items, htrim, List.filter_map, hempty, List.map_map, sortItems]
  simp [Function.comp_def]

theorem sortOrder_eq (p : Params) (fallback : OrderKey) :
    p.sortOrder fallback = if items (p.sort.getD "") = [] then [fallback]
      else (items (p.sort.getD "")).map fun item => orderKey item.toList := by
  rw [sortOrder, sortItems_eq]
  cases items (p.sort.getD "") <;> simp

theorem sortOrder_written {keys : List OrderKey} {spelled : List String} {p : Params}
    (hne : keys ≠ []) (hcolumns : ∀ k ∈ keys, IsItem k.column)
    (hspelled : List.Forall₂ OrderKey.Spelled keys spelled) (hw : Written spelled text)
    (hp : p.sort = some text) (fallback : OrderKey) : p.sortOrder fallback = keys := by
  have hread : (∀ item ∈ spelled, IsItem item) ∧
      (spelled.map fun item => orderKey item.toList) = keys := by
    clear hne hw
    induction hspelled with
    | nil => exact ⟨by simp, rfl⟩
    | cons h _ ih =>
      obtain ⟨hk, hcolumns⟩ := List.forall_mem_cons.mp hcolumns
      obtain ⟨hitems, hkeys⟩ := ih hcolumns
      refine ⟨List.forall_mem_cons.mpr ⟨h.isItem hk, hitems⟩, ?_⟩
      rw [List.map_cons, hkeys, spelled_iff.mp h]
  have hitems : items (p.sort.getD "") = spelled := by
    rw [hp, Option.getD_some, items_of_written hw hread.1]
  have hfull : spelled ≠ [] := by
    rintro rfl
    exact hne hread.2.symm
  rw [sortOrder_eq, hitems, if_neg hfull, hread.2]

theorem items_eq (text : String) :
    items text = ((parts ',' text).filter fun part => !isBlankText part).map trim := by
  have hblank : (fun o : String => !o.isEmpty) ∘ trim = fun part => !isBlankText part := by
    funext part
    rw [Function.comp, isEmpty_trim]
  rw [items, List.filter_map, hblank]

theorem sort_keys_read_back (p : Params) (fallback : OrderKey) :
    (∀ keys spelled text, keys ≠ [] → (∀ k ∈ keys, IsItem k.column) →
      List.Forall₂ OrderKey.Spelled keys spelled → Written spelled text → p.sort = some text →
      p.sortOrder fallback = keys) ∧
    (∀ text, p.sort = some text → (∃ part ∈ parts ',' text, isBlankText part = false) →
      List.Forall₂ (fun part key => key.Spelled (trim part))
        ((parts ',' text).filter fun part => !isBlankText part) (p.sortOrder fallback)) ∧
    (∀ text, p.sort = some text → (∀ part ∈ parts ',' text, isBlankText part = true) →
      p.sortOrder fallback = [fallback]) ∧
    (p.sort = none → p.sortOrder fallback = [fallback]) := by
  refine ⟨?_, ?_, ?_, ?_⟩
  · intro keys spelled text hne hcolumns hspelled hw hp
    exact sortOrder_written hne hcolumns hspelled hw hp fallback
  · rintro text hp ⟨part, hpart, hfull⟩
    have hne : items (p.sort.getD "") ≠ [] := by
      rw [hp, Option.getD_some, items_eq]
      refine List.ne_nil_of_mem (List.mem_map_of_mem (List.mem_filter.mpr ⟨hpart, ?_⟩))
      rw [hfull, Bool.not_false]
    rw [sortOrder_eq, if_neg hne, hp, Option.getD_some, items_eq, List.map_map,
      List.forall₂_map_right_iff, List.forall₂_same]
    intro part _
    exact spelled_iff.mpr rfl
  · intro text hp hblank
    have hnone : items (p.sort.getD "") = [] := by
      rw [hp, Option.getD_some, items_eq, List.map_eq_nil_iff, List.filter_eq_nil_iff]
      intro part hpart
      simp [hblank part hpart]
    rw [sortOrder_eq, if_pos hnone]
  · intro hp
    have hnone : items (p.sort.getD "") = [] := by
      rw [hp]
      decide
    rw [sortOrder_eq, if_pos hnone]

def threeKeys : List OrderKey := [.desc "rating", .asc "name", .asc "created_at"]

def threeKeysText : String := " -rating ,, name,\t+created_at,"

theorem threeKeys_items : ∀ k ∈ threeKeys, IsItem k.column := by
  have hcolumns : ∀ k ∈ threeKeys, k.column ≠ "" ∧ trim k.column = k.column ∧
      ',' ∉ k.column.toList := by
    decide +kernel
  intro k hk
  obtain ⟨hfull, htrimmed, hwhole⟩ := hcolumns k hk
  exact ⟨hfull, htrimmed, hwhole⟩

theorem threeKeys_spelled :
    List.Forall₂ OrderKey.Spelled threeKeys ["-rating", "name", "+created_at"] := by
  have hname : OrderKey.Spelled (.asc "name") "name" := .bare (by decide) (by decide)
  exact .cons (.desc _) (.cons hname (.cons (.plus _) .nil))

theorem threeKeys_written : Written ["-rating", "name", "+created_at"] threeKeysText := by
  have hend : Padded [] [""] := .blank rfl .nil
  have hlast := hend.item (l := "\t") (i := "+created_at") (r := "") rfl rfl
  have hmiddle := hlast.item (l := " ") (i := "name") (r := "") rfl rfl
  have hall := (hmiddle.blank (b := "") rfl).item (l := " ") (i := "-rating") (r := " ") rfl rfl
  exact ⟨_, hall, by decide +kernel⟩

theorem three_keys_read_back :
    (∀ k ∈ threeKeys, IsItem k.column) ∧
    List.Forall₂ OrderKey.Spelled threeKeys ["-rating", "name", "+created_at"] ∧
    Written ["-rating", "name", "+created_at"] threeKeysText ∧
    (⟨none, none, none, some threeKeysText⟩ : Params).sortOrder newestFirst = threeKeys := by
  obtain ⟨hread, -⟩ := sort_keys_read_back ⟨none, none, none, some threeKeysText⟩ newestFirst
  refine ⟨threeKeys_items, threeKeys_spelled, threeKeys_written, ?_⟩
  exact hread threeKeys _ threeKeysText (by decide) threeKeys_items threeKeys_spelled
    threeKeys_written rfl

end Params

end CityGuide.Listing
