import CityGuide.Listing.Params
import CityGuide.Proofs.Text.Numerals

namespace CityGuide.Listing

open Text

structure Asked (raw : Option String) (n : Nat) : Prop where
  written : ∃ s, raw = some s ∧ Numeral (trim s).toList n
  positive : 1 ≤ n
  word : n ≤ 2 ^ 64 - 1

namespace Params

variable {raw : Option String} {n : Nat}

theorem toNat_ofNat_word (h : n ≤ 2 ^ 64 - 1) : (UInt64.ofNat n).toNat = n := by
  rw [UInt64.toNat_ofNat', Nat.mod_eq_of_lt (by omega)]

theorem positive?_eq_some_iff {w : UInt64} : positive? raw = some w ↔ Asked raw w.toNat := by
  have hbound : maxWord 64 = 2 ^ 64 - 1 := rfl
  constructor
  · intro h
    obtain ⟨s, rfl, h⟩ := Option.bind_eq_some_iff.mp h
    obtain ⟨n, hn, rfl⟩ := Option.map_eq_some_iff.mp h
    obtain ⟨hn, hpos⟩ := Option.filter_eq_some_iff.mp hn
    obtain ⟨hnumeral, hle⟩ := unsigned?_eq_some_iff.mp hn
    rw [hbound] at hle
    rw [← toList_trim] at hnumeral
    rw [toNat_ofNat_word hle]
    exact ⟨⟨s, rfl, hnumeral⟩, of_decide_eq_true hpos, hle⟩
  · rintro ⟨⟨s, rfl, hnumeral⟩, hpos, hle⟩
    rw [toList_trim] at hnumeral
    have hread : unsigned? (maxWord 64) (trimChars s.toList) = some w.toNat :=
      unsigned?_eq_some_iff.mpr ⟨hnumeral, hle⟩
    rw [positive?, Option.bind_some, hread]
    simp [Option.filter, Nat.lt_of_succ_le hpos]

theorem positive?_of_asked (h : Asked raw n) : ∃ w, positive? raw = some w ∧ w.toNat = n := by
  have hword := toNat_ofNat_word h.word
  exact ⟨UInt64.ofNat n, positive?_eq_some_iff.mpr (hword.symm ▸ h), hword⟩

theorem positive?_of_not_asked (h : ¬∃ n, Asked raw n) : positive? raw = none := by
  cases hw : positive? raw with
  | none => rfl
  | some w => exact absurd ⟨_, positive?_eq_some_iff.mp hw⟩ h

end Params

namespace Request

variable {page limit : UInt64}

theorem ofPage_page (h : 1 ≤ page.toNat) : (ofPage page limit).page = page := by
  have hne : page ≠ 0 := by
    rintro rfl
    cases h
  exact if_neg hne

theorem ofPage_limit (h : 1 ≤ limit.toNat) :
    (ofPage page limit).limit.toNat = min limit.toNat 100 := by
  have hne : limit ≠ 0 := by
    rintro rfl
    cases h
  have hmax : maxLimit.toNat = 100 := rfl
  rw [ofPage]
  simp only [if_neg hne]
  split
  · next hover =>
    have hlt := UInt64.lt_iff_toNat_lt.mp hover
    omega
  · next hwithin =>
    have hle := UInt64.le_iff_toNat_le.mp (UInt64.not_lt.mp hwithin)
    omega

end Request

namespace Params

variable (p : Params)

theorem request_page_of_asked {n : Nat} (h : Asked p.page n) : p.request.page.toNat = n := by
  obtain ⟨w, hw, rfl⟩ := positive?_of_asked h
  rw [request, pageNumber, hw, Option.getD_some, Request.ofPage_page h.positive]

theorem request_limit_of_asked {n : Nat} (h : Asked p.limit n) :
    p.request.limit.toNat = min n 100 := by
  obtain ⟨w, hw, rfl⟩ := positive?_of_asked h
  rw [request, rowLimit, hw, Option.getD_some, Request.ofPage_limit h.positive]

theorem page_and_limit_taken : (∀ raw w, positive? raw = some w ↔ Asked raw w.toNat) ∧
    (∀ n, Asked p.page n → p.request.page.toNat = n) ∧
    ((¬∃ n, Asked p.page n) → p.request.page.toNat = 1) ∧
    (∀ n, Asked p.limit n → p.request.limit.toNat = min n 100) ∧
    ((¬∃ n, Asked p.limit n) → p.request.limit.toNat = 10) := by
  refine ⟨fun _ _ => positive?_eq_some_iff, fun _ => p.request_page_of_asked, ?_,
    fun _ => p.request_limit_of_asked, ?_⟩
  · intro hnone
    rw [request, pageNumber, positive?_of_not_asked hnone]
    rfl
  · intro hnone
    rw [request, rowLimit, positive?_of_not_asked hnone]
    rfl

def farPage : Params := ⟨some "\u3000+0042 ", some "100000", none, none⟩

theorem far_page_taken : Asked farPage.page 42 ∧ farPage.request.page.toNat = 42 ∧
    Asked farPage.limit 100000 ∧ farPage.request.limit.toNat = 100 := by
  have hpage : Asked farPage.page 42 := by
    have hdigits : Digits ['0', '0', '4', '2'] 42 :=
      ⟨[0, 0, 4, 2], by decide, by decide, by decide, by decide⟩
    have htrim : (trim "\u3000+0042 ").toList = ['+', '0', '0', '4', '2'] := by decide +kernel
    exact ⟨⟨_, rfl, htrim ▸ .plus hdigits⟩, by decide, by decide⟩
  have hlimit : Asked farPage.limit 100000 := by
    have hdigits : Digits ['1', '0', '0', '0', '0', '0'] 100000 :=
      ⟨[1, 0, 0, 0, 0, 0], by decide, by decide, by decide, by decide⟩
    have htrim : (trim "100000").toList = ['1', '0', '0', '0', '0', '0'] := by decide +kernel
    exact ⟨⟨_, rfl, htrim ▸ .plain hdigits⟩, by decide, by decide⟩
  obtain ⟨-, htaken, -, hlimited, -⟩ := page_and_limit_taken farPage
  exact ⟨hpage, htaken 42 hpage, hlimit, hlimited 100000 hlimit⟩

-- One more than a word holds is as good as nothing.
example : (⟨some "18446744073709551616", some "-1", none, none⟩ : Params).request =
    Request.firstPage := by decide

end Params

end CityGuide.Listing
