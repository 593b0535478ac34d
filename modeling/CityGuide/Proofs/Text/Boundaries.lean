import CityGuide.Proofs.Text.Utf8

namespace CityGuide.Text

open Crypto (Bytes utf8)

variable {bs : Bytes} {i j : Nat} {cs : List Char}

def encoded (cs : List Char) : Bytes := cs.flatMap String.utf8EncodeChar

theorem encoded_append (as bs : List Char) : encoded (as ++ bs) = encoded as ++ encoded bs :=
  List.flatMap_append

theorem utf8_eq (s : String) : utf8 s = encoded s.toList := by
  rw [encoded, ← utf8_ofList, String.ofList_toList]

theorem length_utf8 (s : String) : (utf8 s).length = s.utf8ByteSize := by
  rw [utf8, ByteArray.toList, toList_loop]
  simp [String.toUTF8]

theorem length_encoded (cs : List Char) :
    (encoded cs).length = (String.ofList cs).utf8ByteSize := by
  rw [← length_utf8, utf8_ofList, encoded]

theorem isFollowing_of_outside {n : Nat} (hn : n < 256) (hout : ¬(128 ≤ n ∧ n < 192)) :
    isFollowing (UInt8.ofNat n) = false := by
  rw [Bool.eq_false_iff]
  intro h
  rw [isFollowing_iff, toNat_ofNat_of_lt hn] at h
  exact hout h

structure Sequence (lead : UInt8) (more : Bytes) : Prop where
  leads : isFollowing lead = false
  follow : ∀ b ∈ more, isFollowing b = true
  short : more.length ≤ 3

theorem sequence_of_lead {n : Nat} (ks : List Nat) (hn : n < 256) (hout : ¬(128 ≤ n ∧ n < 192))
    (hks : ks.length ≤ 3) :
    Sequence (UInt8.ofNat n) (ks.map fun k => UInt8.ofNat (k % 64 + 128)) where
  leads := isFollowing_of_outside hn hout
  follow b hb := by
    obtain ⟨k, -, rfl⟩ := List.mem_map.mp hb
    exact isFollowing_tail k
  short := by rwa [List.length_map]

theorem exists_sequence (c : Char) :
    ∃ lead more, String.utf8EncodeChar c = lead :: more ∧ Sequence lead more := by
  have hvalid : c.val.toNat < 0x110000 := by
    have hchar := c.valid
    simp only [UInt32.isValidChar, Nat.isValidChar] at hchar
    omega
  rw [String.utf8EncodeChar]
  generalize c.val.toNat = n at hvalid
  split
  · exact ⟨_, _, rfl, sequence_of_lead [] (by omega) (by omega) (by decide)⟩
  split
  · exact ⟨_, _, rfl, sequence_of_lead [_] (by omega) (by omega) (by simp)⟩
  split
  · exact ⟨_, _, rfl, sequence_of_lead [_, _] (by omega) (by omega) (by simp)⟩
  · exact ⟨_, _, rfl, sequence_of_lead [_, _, _] (by omega) (by omega) (by simp)⟩

theorem exists_encoded_cons (c : Char) : ∃ lead more, Sequence lead more ∧
    ∀ cs, encoded (c :: cs) = lead :: more ++ encoded cs := by
  obtain ⟨lead, more, hc, hseq⟩ := exists_sequence c
  refine ⟨lead, more, hseq, ?_⟩
  intro cs
  rw [encoded, List.flatMap_cons, hc, encoded]

theorem encoded_eq_nil {cs : List Char} (h : encoded cs = []) : cs = [] := by
  cases cs with
  | nil => rfl
  | cons c cs =>
    obtain ⟨lead, more, -, hcons⟩ := exists_encoded_cons c
    rw [hcons] at h
    cases h

theorem head_encoded (cs : List Char) : ∀ b ∈ (encoded cs).head?, isFollowing b = false := by
  cases cs with
  | nil => simp [encoded]
  | cons c cs =>
    obtain ⟨lead, more, hseq, hcons⟩ := exists_encoded_cons c
    simp [hcons, hseq.leads]

theorem isBoundary_append {as : Bytes} (has : as ≠ [])
    (hbs : ∀ b ∈ bs.head?, isFollowing b = false) :
    isBoundary (as ++ bs) (as.length + i) = isBoundary bs i := by
  have hlength : as.length ≠ 0 := by simpa using has
  have hget : (as ++ bs)[as.length + i]? = bs[i]? := by
    rw [List.getElem?_append_right (Nat.le_add_right _ _), Nat.add_sub_cancel_left]
  cases i with
  | zero =>
    cases bs with
    | nil => simp [isBoundary]
    | cons b bs =>
      have hb : isFollowing b = false := hbs b (by simp)
      simp [isBoundary, hb]
  | succ i =>
    simp only [isBoundary, hget, List.length_append]
    cases bs[i + 1]? <;> simp [hlength]

theorem isBoundary_past {as : Bytes} (has : as ≠ []) (cs : List Char) (k : Nat) :
    isBoundary (as ++ encoded cs) (as.length + k) = isBoundary (encoded cs) k :=
  isBoundary_append has (head_encoded cs)

theorem isBoundary_within {lead : UInt8} {more rest : Bytes} (h : Sequence lead more)
    (hi : 0 < i) (hle : i ≤ more.length) : isBoundary (lead :: more ++ rest) i = false := by
  obtain ⟨k, rfl⟩ : ∃ k, i = k + 1 := ⟨i - 1, by omega⟩
  have hk : k < more.length := by omega
  have hget : (lead :: more ++ rest)[k + 1]? = some more[k] := by
    simp [List.getElem?_append_left hk, hk]
  rw [isBoundary, hget]
  simp [h.follow more[k] (List.getElem_mem hk)]

theorem within_or_past (lead : UInt8) (more : Bytes) (i : Nat) :
    i ≤ more.length ∨ ∃ k, i = (lead :: more).length + k := by
  rw [List.length_cons]
  by_cases h : i ≤ more.length
  · exact .inl h
  · exact .inr ⟨i - (more.length + 1), by omega⟩

theorem exists_prefix_of_isBoundary (h : isBoundary (encoded cs) i = true) :
    ∃ as, as <+: cs ∧ (encoded as).length = i := by
  induction cs generalizing i with
  | nil =>
    cases i with
    | zero => exact ⟨[], List.prefix_rfl, rfl⟩
    | succ i => simp [isBoundary, encoded] at h
  | cons c cs ih =>
    obtain ⟨lead, more, hseq, hcons⟩ := exists_encoded_cons c
    rw [hcons] at h
    by_cases hzero : i = 0
    · exact ⟨[], List.nil_prefix, hzero.symm⟩
    rcases within_or_past lead more i with hwithin | ⟨k, rfl⟩
    · rw [isBoundary_within hseq (Nat.pos_of_ne_zero hzero) hwithin] at h
      cases h
    · rw [isBoundary_past (List.cons_ne_nil _ _)] at h
      obtain ⟨as, has, rfl⟩ := ih h
      refine ⟨c :: as, (List.prefix_cons_inj c).mpr has, ?_⟩
      rw [hcons, List.length_append]

theorem isBoundary_length {as : List Char} (h : as <+: cs) :
    isBoundary (encoded cs) (encoded as).length = true := by
  obtain ⟨rest, rfl⟩ := h
  rw [encoded_append]
  by_cases hempty : encoded as = []
  · rw [hempty]
    rfl
  · exact (isBoundary_past hempty rest 0).trans (isBoundary_zero _)

theorem isBoundary_encoded_iff :
    isBoundary (encoded cs) i = true ↔ ∃ as, as <+: cs ∧ (encoded as).length = i := by
  constructor
  · exact exists_prefix_of_isBoundary
  · rintro ⟨as, has, rfl⟩
    exact isBoundary_length has

theorem exists_boundary_near (hi : i ≤ (encoded cs).length) :
    ∃ j, j ≤ i ∧ i ≤ j + 3 ∧ isBoundary (encoded cs) j = true := by
  induction cs generalizing i with
  | nil =>
    have hzero : i = 0 := Nat.le_zero.mp hi
    exact ⟨0, by omega, by omega, isBoundary_zero _⟩
  | cons c cs ih =>
    obtain ⟨lead, more, hseq, hcons⟩ := exists_encoded_cons c
    have hshort := hseq.short
    rcases within_or_past lead more i with hwithin | ⟨k, rfl⟩
    · exact ⟨0, by omega, by omega, isBoundary_zero _⟩
    · rw [hcons, List.length_append] at hi
      obtain ⟨j, hj, hnear, hcut⟩ := ih (Nat.le_of_add_le_add_left hi)
      refine ⟨(lead :: more).length + j, by omega, by omega, ?_⟩
      rw [hcons, isBoundary_past (List.cons_ne_nil _ _), hcut]

theorem backTo?_spec (h : backTo? bs i = some j) :
    j ≤ i ∧ isBoundary bs j = true ∧ ∀ k, j < k → k ≤ i → isBoundary bs k = false := by
  induction i with
  | zero =>
    rw [backTo?, if_pos (isBoundary_zero bs)] at h
    obtain rfl := Option.some.inj h
    exact ⟨Nat.le_refl _, isBoundary_zero bs, fun k hk hle => absurd hk (Nat.not_lt.mpr hle)⟩
  | succ i ih =>
    rw [backTo?] at h
    split at h
    · next hcut =>
      obtain rfl := Option.some.inj h
      exact ⟨Nat.le_refl _, hcut, fun k hk hle => absurd hk (Nat.not_lt.mpr hle)⟩
    · next hcut =>
      obtain ⟨hle, hend, hpassed⟩ := ih h
      refine ⟨Nat.le_succ_of_le hle, hend, ?_⟩
      intro k hk hki
      rcases Nat.le_succ_iff.mp hki with hki | rfl
      · exact hpassed k hk hki
      · exact Bool.eq_false_iff.mpr hcut

structure Backs (bs : Bytes) (start back : Nat) : Prop where
  few : back ≤ 3
  above : back ≤ start
  passed : ∀ k < back, 0 < start - k ∧ isBoundary bs (start - k) = false
  stopped : isBoundary bs (start - back) = true
  found : backTo? bs start = some (start - back)

theorem exists_backs (hi : i ≤ (encoded cs).length) : ∃ back, Backs (encoded cs) i back := by
  obtain ⟨j, hj⟩ := Option.isSome_iff_exists.mp (isSome_backTo? (encoded cs) i)
  obtain ⟨hle, hcut, hpassed⟩ := backTo?_spec hj
  obtain ⟨near, hnear, hthree, hboundary⟩ := exists_boundary_near hi
  have hnot : ¬j < near := by
    intro hlt
    rw [hpassed near hlt hnear] at hboundary
    cases hboundary
  have hend : i - (i - j) = j := by omega
  refine ⟨i - j, by omega, by omega, ?_, hend.symm ▸ hcut, hend.symm ▸ hj⟩
  intro k hk
  exact ⟨by omega, hpassed (i - k) (by omega) (by omega)⟩

theorem lossy_encoded (as : List Char) : lossy (encoded as) = String.ofList as := by
  rw [encoded, ← utf8_ofList, lossy, utf8Chars_utf8, List.map_map]
  exact congrArg String.ofList (List.map_id as)

theorem before?_encoded {as : List Char} (h : as <+: cs) :
    before? (encoded cs) (encoded as).length = some (String.ofList as) := by
  rw [before?, if_pos (isBoundary_length h)]
  obtain ⟨rest, rfl⟩ := h
  rw [encoded_append, List.take_left, lossy_encoded]

theorem prefix_of_length_le {as us : List Char} (has : as <+: cs) (hus : us <+: cs)
    (h : (encoded us).length ≤ (encoded as).length) : us <+: as := by
  rcases List.prefix_or_prefix_of_prefix hus has with hshort | ⟨rest, rfl⟩
  · exact hshort
  · rw [encoded_append, List.length_append] at h
    have hrest : rest = [] := encoded_eq_nil (List.eq_nil_of_length_eq_zero (by omega))
    simp [hrest]

structure Longest (most : Nat) (s t : String) : Prop where
  whole : t.toList <+: s.toList
  fits : t.utf8ByteSize ≤ most
  longest : ∀ u : String, u.toList <+: s.toList → u.utf8ByteSize ≤ most → u.toList <+: t.toList

theorem longest_self {most : Nat} {s : String} (h : s.utf8ByteSize ≤ most) : Longest most s s :=
  ⟨List.prefix_rfl, h, fun _ hu _ => hu⟩

theorem longest_of_backs {most back : Nat} {s : String} {as : List Char}
    (hb : Backs (utf8 s) most back) (has : as <+: s.toList)
    (hlength : (encoded as).length = most - back) : Longest most s (String.ofList as) := by
  refine ⟨by simpa using has, ?_, ?_⟩
  · rw [← length_encoded, hlength]
    exact Nat.sub_le most back
  · intro u hu hfits
    rw [String.toList_ofList]
    apply prefix_of_length_le has hu
    apply Nat.le_of_not_lt
    intro hlong
    have hsize : (encoded u.toList).length = u.utf8ByteSize := by rw [← utf8_eq, length_utf8]
    -- The end of a longer beginning would be a place that was passed.
    have hpassed := hb.passed (most - (encoded u.toList).length) (by omega)
    have hplace : most - (most - (encoded u.toList).length) = (encoded u.toList).length := by omega
    rw [hplace, utf8_eq, isBoundary_length hu] at hpassed
    exact Bool.noConfusion hpassed.2

theorem truncated_longest (most : Nat) (s : String) :
    truncated? most s = some (truncated most s) ∧ Longest most s (truncated most s) ∧
    (s.utf8ByteSize ≤ most → truncated most s = s) ∧
    (most < s.utf8ByteSize → ∃ back, Backs (utf8 s) most back ∧
      utf8 (truncated most s) = (utf8 s).take (most - back)) := by
  have hsome : truncated? most s = some (truncated most s) := (Option.some_get _).symm
  by_cases hfits : s.utf8ByteSize ≤ most
  · have hself : truncated most s = s := by
      rw [truncated?, if_pos hfits] at hsome
      exact (Option.some.inj hsome).symm
    refine ⟨hsome, hself.symm ▸ longest_self hfits, fun _ => hself, ?_⟩
    intro hlong
    exact absurd hfits (Nat.not_le.mpr hlong)
  · have hplace : most ≤ (encoded s.toList).length := by
      rw [← utf8_eq, length_utf8]
      omega
    obtain ⟨back, hback⟩ := exists_backs hplace
    obtain ⟨as, has, hlength⟩ := isBoundary_encoded_iff.mp hback.stopped
    have hcut : truncated most s = String.ofList as := by
      rw [truncated?, if_neg hfits, utf8_eq, hback.found, Option.bind_some, ← hlength,
        before?_encoded has] at hsome
      exact (Option.some.inj hsome).symm
    rw [← utf8_eq] at hback
    refine ⟨hsome, hcut.symm ▸ longest_of_backs hback has hlength, fun h => absurd h hfits, ?_⟩
    intro _
    refine ⟨back, hback, ?_⟩
    obtain ⟨rest, hrest⟩ := has
    rw [hcut, utf8_eq, String.toList_ofList, utf8_eq, ← hrest, encoded_append, ← hlength,
      List.take_left]

-- Of the last character, which takes four bytes, three would fit.
example : truncated 9 "aé€😀" = "aé€" := by decide +kernel

end CityGuide.Text
