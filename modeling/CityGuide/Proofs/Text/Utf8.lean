import CityGuide.Text.Utf8

namespace CityGuide.Text

open Crypto (Bytes utf8)

theorem toList_loop (bs : ByteArray) (i : Nat) (acc : Bytes) :
    ByteArray.toList.loop bs i acc = acc.reverse ++ bs.data.toList.drop i := by
  fun_induction ByteArray.toList.loop bs i acc with
  | case1 i acc h ih =>
    have hi : i < bs.data.toList.length := by simpa using h
    rw [ih, List.drop_eq_getElem_cons hi]
    simp [ByteArray.get!, h]
  | case2 i acc h =>
    have hi : bs.data.toList.length ≤ i := by simpa using h
    rw [List.drop_eq_nil_of_le hi, List.append_nil]

theorem utf8_ofList (cs : List Char) :
    utf8 (String.ofList cs) = cs.flatMap String.utf8EncodeChar := by
  rw [utf8, String.toUTF8, String.toByteArray_ofList, ByteArray.toList, toList_loop,
    List.utf8Encode, List.toList_data_toByteArray]
  rfl

theorem takeWhile_of_all {p : UInt8 → Bool} {bs : Bytes} (h : ∀ b ∈ bs, p b = true) :
    bs.takeWhile p = bs := by
  have happend : (bs ++ []).takeWhile p = bs ++ [].takeWhile p := List.takeWhile_append_of_pos h
  simpa using happend

section Sequence

variable {lead b : UInt8} {rest : Bytes} (bs : Bytes)

theorem continuation_sequence (hf : following lead = bs.length + 1)
    (hs : isSecond lead b = true) (hbs : ∀ x ∈ bs, isFollowing x = true) :
    continuation lead (b :: (bs ++ rest)) = b :: bs := by
  have hkept : ((bs ++ rest).take (following lead - 1)).takeWhile isFollowing = bs := by
    rw [hf, Nat.add_sub_cancel, List.take_left, takeWhile_of_all hbs]
  rw [continuation, if_pos ⟨by omega, hs⟩, hkept]

theorem not_ascii_of_following (hf : following lead ≠ 0) : ¬lead < 0x80 := by
  intro h
  have hlead : lead.toNat < 128 := h
  have hlow : ∀ n : UInt8, 128 ≤ n.toNat → ¬n ≤ lead := fun n hn hle =>
    absurd (UInt8.le_iff_toNat_le.mp hle) (by omega)
  simp [following, hlow] at hf

theorem utf8Chars_sequence (hf : following lead = bs.length + 1) (hs : isSecond lead b = true)
    (hbs : ∀ x ∈ bs, isFollowing x = true) :
    utf8Chars (lead :: b :: (bs ++ rest)) = some (scalar lead (b :: bs)) :: utf8Chars rest := by
  rw [utf8Chars, if_neg (not_ascii_of_following (by omega)), continuation_sequence bs hf hs hbs]
  simp [hf]

end Sequence

theorem following_of_range {lead : UInt8} (low high : Nat) {n : Nat}
    (hn : (low, high, n) ∈ [(0xC2, 0xE0, 1), (0xE0, 0xF0, 2), (0xF0, 0xF5, 3)])
    (hlow : low ≤ lead.toNat) (hhigh : lead.toNat < high) : following lead = n := by
  simp only [List.mem_cons, Prod.mk.injEq, List.not_mem_nil, or_false] at hn
  simp only [following, UInt8.le_iff_toNat_le, UInt8.lt_iff_toNat_lt, UInt8.reduceToNat]
  rcases hn with ⟨rfl, rfl, rfl⟩ | ⟨rfl, rfl, rfl⟩ | ⟨rfl, rfl, rfl⟩ <;> grind

theorem isFollowing_iff {b : UInt8} : isFollowing b = true ↔ 128 ≤ b.toNat ∧ b.toNat < 192 := by
  simp [isFollowing, UInt8.le_iff_toNat_le, UInt8.lt_iff_toNat_lt]

theorem isSecond_of_range {lead b : UInt8} (hb : 128 ≤ b.toNat ∧ b.toNat < 192)
    (hshort : lead.toNat = 0xE0 → 0xA0 ≤ b.toNat) (hpair : lead.toNat = 0xED → b.toNat < 0xA0)
    (hplane : lead.toNat = 0xF0 → 0x90 ≤ b.toNat) (hlast : lead.toNat = 0xF4 → b.toNat < 0x90) :
    isSecond lead b = true := by
  simp [isSecond, isFollowing_iff.mpr hb, UInt8.le_iff_toNat_le, UInt8.lt_iff_toNat_lt,
    ← UInt8.toNat_inj]
  omega

theorem toNat_ofNat_of_lt {n : Nat} (h : n < 256) : (UInt8.ofNat n).toNat = n := by
  rw [UInt8.toNat_ofNat', Nat.mod_eq_of_lt h]

theorem toNat_tail (k : Nat) : (UInt8.ofNat (k % 64 + 128)).toNat = k % 64 + 128 :=
  toNat_ofNat_of_lt (by omega)

theorem isFollowing_tail (k : Nat) : isFollowing (UInt8.ofNat (k % 64 + 128)) = true := by
  rw [isFollowing_iff, toNat_tail]
  omega

section Scalar

variable {n : Nat} {rest : Bytes}

theorem utf8Chars_one (h : n < 0x80) :
    utf8Chars (UInt8.ofNat n :: rest) = some (Char.ofNat n) :: utf8Chars rest := by
  have hn : (UInt8.ofNat n).toNat = n := toNat_ofNat_of_lt (by omega)
  have hascii : UInt8.ofNat n < 0x80 := by
    rw [UInt8.lt_iff_toNat_lt, hn]
    exact h
  rw [utf8Chars, if_pos hascii, hn]

theorem utf8Chars_two (hlow : 0x80 ≤ n) (hhigh : n < 0x800) :
    utf8Chars (UInt8.ofNat (n / 64 % 32 + 192) :: UInt8.ofNat (n % 64 + 128) :: rest) =
      some (Char.ofNat n) :: utf8Chars rest := by
  have hlead : (UInt8.ofNat (n / 64 % 32 + 192)).toNat = n / 64 + 192 := by
    rw [toNat_ofNat_of_lt] <;> omega
  have hf : following (UInt8.ofNat (n / 64 % 32 + 192)) = 1 :=
    following_of_range 0xC2 0xE0 (by simp) (by omega) (by omega)
  have hs : isSecond (UInt8.ofNat (n / 64 % 32 + 192)) (UInt8.ofNat (n % 64 + 128)) = true :=
    isSecond_of_range (by rw [toNat_tail]; omega) (by omega) (by omega) (by omega) (by omega)
  refine (utf8Chars_sequence [] hf hs (by simp)).trans ?_
  simp only [scalar, leadBits, hf, hlead, List.foldl_cons, List.foldl_nil, toNat_tail]
  rw [show (n / 64 + 192) % 32 * 64 + (n % 64 + 128) % 64 = n by omega]

theorem utf8Chars_three (hlow : 0x800 ≤ n) (hhigh : n < 0x10000)
    (hpair : n < 0xD800 ∨ 0xDFFF < n) :
    utf8Chars (UInt8.ofNat (n / 4096 % 16 + 224) :: UInt8.ofNat (n / 64 % 64 + 128) ::
      UInt8.ofNat (n % 64 + 128) :: rest) = some (Char.ofNat n) :: utf8Chars rest := by
  have hlead : (UInt8.ofNat (n / 4096 % 16 + 224)).toNat = n / 4096 + 224 := by
    rw [toNat_ofNat_of_lt] <;> omega
  have hf : following (UInt8.ofNat (n / 4096 % 16 + 224)) = 2 :=
    following_of_range 0xE0 0xF0 (by simp) (by omega) (by omega)
  have hs : isSecond (UInt8.ofNat (n / 4096 % 16 + 224)) (UInt8.ofNat (n / 64 % 64 + 128)) = true :=
    isSecond_of_range (by rw [toNat_tail]; omega) (by rw [toNat_tail]; omega)
      (by rw [toNat_tail]; omega) (by omega) (by omega)
  refine (utf8Chars_sequence [_] hf hs (List.forall_mem_singleton.mpr (isFollowing_tail _))).trans ?_
  simp only [scalar, leadBits, hf, hlead, List.foldl_cons, List.foldl_nil, toNat_tail]
  rw [show ((n / 4096 + 224) % 16 * 64 + (n / 64 % 64 + 128) % 64) * 64 + (n % 64 + 128) % 64 = n
    by omega]

theorem utf8Chars_four (hlow : 0x10000 ≤ n) (hhigh : n < 0x110000) :
    utf8Chars (UInt8.ofNat (n / 262144 % 8 + 240) :: UInt8.ofNat (n / 4096 % 64 + 128) ::
      UInt8.ofNat (n / 64 % 64 + 128) :: UInt8.ofNat (n % 64 + 128) :: rest) =
      some (Char.ofNat n) :: utf8Chars rest := by
  have hlead : (UInt8.ofNat (n / 262144 % 8 + 240)).toNat = n / 262144 + 240 := by
    rw [toNat_ofNat_of_lt] <;> omega
  have hf : following (UInt8.ofNat (n / 262144 % 8 + 240)) = 3 :=
    following_of_range 0xF0 0xF5 (by simp) (by omega) (by omega)
  have hs : isSecond (UInt8.ofNat (n / 262144 % 8 + 240)) (UInt8.ofNat (n / 4096 % 64 + 128)) =
      true :=
    isSecond_of_range (by rw [toNat_tail]; omega) (by omega) (by omega)
      (by rw [toNat_tail]; omega) (by rw [toNat_tail]; omega)
  have hmore : ∀ b ∈ [UInt8.ofNat (n / 64 % 64 + 128), UInt8.ofNat (n % 64 + 128)],
      isFollowing b = true :=
    List.forall_mem_cons.mpr ⟨isFollowing_tail _, List.forall_mem_singleton.mpr (isFollowing_tail _)⟩
  refine (utf8Chars_sequence [_, _] hf hs hmore).trans ?_
  simp only [scalar, leadBits, hf, hlead, List.foldl_cons, List.foldl_nil, toNat_tail]
  rw [show (((n / 262144 + 240) % 8 * 64 + (n / 4096 % 64 + 128) % 64) * 64 +
    (n / 64 % 64 + 128) % 64) * 64 + (n % 64 + 128) % 64 = n by omega]

end Scalar

theorem utf8Chars_encodeChar (c : Char) (rest : Bytes) :
    utf8Chars (String.utf8EncodeChar c ++ rest) = some c :: utf8Chars rest := by
  have hvalid : c.toNat < 0xD800 ∨ (0xDFFF < c.toNat ∧ c.toNat < 0x110000) := c.valid
  have hback : Char.ofNat c.toNat = c := Char.ofNat_toNat c
  have hcode : c.val.toNat = c.toNat := rfl
  simp only [String.utf8EncodeChar, hcode]
  generalize c.toNat = n at hvalid hback
  subst hback
  split
  · exact utf8Chars_one (by omega)
  split
  · exact utf8Chars_two (by omega) (by omega)
  split
  · exact utf8Chars_three (by omega) (by omega) (by omega)
  · exact utf8Chars_four (by omega) (by omega)

theorem utf8Chars_utf8 (cs : List Char) : utf8Chars (utf8 (String.ofList cs)) = cs.map some := by
  rw [utf8_ofList]
  induction cs with
  | nil => rw [List.flatMap_nil, utf8Chars, List.map_nil]
  | cons c cs ih => rw [List.flatMap_cons, utf8Chars_encodeChar, ih, List.map_cons]

end CityGuide.Text
