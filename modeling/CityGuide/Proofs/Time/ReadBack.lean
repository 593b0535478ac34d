import CityGuide.Time.Rfc3339
import Mathlib.Algebra.Group.Nat.Defs

namespace CityGuide

namespace Text

def EndsNumber (rest : List Char) : Prop := ∀ c r, rest = c :: r → isDigit c = false

theorem endsNumber_cons {c : Char} (h : isDigit c = false) (r : List Char) :
    EndsNumber (c :: r) := by
  rintro _ _ heq
  exact (List.cons.inj heq).1 ▸ h

theorem isBlank_of_isDigit {c : Char} (h : isDigit c = true) : isBlank c = false := by
  have hrange : '0' ≤ c ∧ c ≤ '9' := by
    rw [isDigit, digit?] at h
    split at h
    · assumption
    · simp at h
  have hlow : 48 ≤ c.toNat := hrange.1
  have hhigh : c.toNat ≤ 57 := hrange.2
  simp only [isBlank, Bool.or_eq_false_iff, Bool.and_eq_false_iff, decide_eq_false_iff_not,
    beq_eq_false_iff_ne]
  omega

theorem natFrom_padded (acc : Nat) {width n : Nat} (h : n < 10 ^ width) :
    natFrom acc (padded width n) = some (acc * 10 ^ width + n) := by
  induction width generalizing n with
  | zero =>
    have hn : n = 0 := by simpa using h
    simp [padded, natFrom, hn]
  | succ w ih =>
    have hlow : n / 10 < 10 ^ w := by
      rw [Nat.pow_succ] at h
      omega
    have hvalue : 10 * (acc * 10 ^ w + n / 10) + n % 10 = acc * 10 ^ (w + 1) + n := by
      rw [Nat.pow_succ, ← Nat.mul_assoc]
      omega
    have hdigit : digit? (digitChar (n % 10)) = some (n % 10) :=
      digit?_digitChar (Nat.mod_lt n (by decide))
    simp only [padded, natFrom_append, ih hlow, Option.bind_some, natFrom, hdigit, hvalue]

theorem nat?_padded {width n : Nat} (hw : 0 < width) (h : n < 10 ^ width) :
    nat? (padded width n) = some n := by
  cases hd : padded width n with
  | nil =>
    have hlength := padded_length width n
    rw [hd] at hlength
    exact absurd hlength (by simp; omega)
  | cons c cs => rw [nat?, ← hd, natFrom_padded 0 h, Nat.zero_mul, Nat.zero_add]; simp

theorem natFrom_lt {acc n : Nat} {ds : List Char} (h : natFrom acc ds = some n) :
    n < (acc + 1) * 10 ^ ds.length := by
  induction ds generalizing acc with
  | nil =>
    obtain rfl := Option.some.inj h
    simp
  | cons c ds ih =>
    obtain ⟨d, hd, h⟩ := Option.bind_eq_some_iff.mp h
    have hdigit := digit?_lt hd
    calc n < (10 * acc + d + 1) * 10 ^ ds.length := ih h
      _ ≤ (acc + 1) * 10 * 10 ^ ds.length := Nat.mul_le_mul_right _ (by omega)
      _ = (acc + 1) * 10 ^ (c :: ds).length := by
          rw [List.length_cons, Nat.pow_succ', Nat.mul_assoc]

theorem nat?_lt {n : Nat} {ds : List Char} (h : nat? ds = some n) : n < 10 ^ ds.length := by
  cases ds with
  | nil => simp [nat?] at h
  | cons c ds => simpa using natFrom_lt h

theorem isDigit_of_mem_padded {width n : Nat} {c : Char} (h : c ∈ padded width n) :
    isDigit c = true := by
  induction width generalizing n with
  | zero => simp [padded] at h
  | succ w ih =>
    rcases List.mem_append.mp h with h | h
    · exact ih h
    · exact List.mem_singleton.mp h ▸ isDigit_digitChar _

theorem nat?_atLeast {width : Nat} (hw : 0 < width) (n : Nat) :
    nat? (atLeast width n) = some n := by
  rw [atLeast]
  split
  · next h => exact nat?_padded hw h
  · exact nat?_decimal n

theorem isDigit_of_mem_atLeast {width n : Nat} {c : Char} (h : c ∈ atLeast width n) :
    isDigit c = true := by
  rw [atLeast] at h
  split at h
  · exact isDigit_of_mem_padded h
  · exact isDigit_of_mem_decimal h

theorem dropBlanks_digits {ds : List Char} (hd : ∀ c ∈ ds, isDigit c = true) (hne : ds ≠ [])
    (rest : List Char) : dropBlanks (ds ++ rest) = ds ++ rest := by
  obtain ⟨c, cs, rfl⟩ := List.exists_cons_of_ne_nil hne
  exact dropBlanks_of_head (isBlank_of_isDigit (hd c (List.mem_cons_self ..)))

theorem ne_nil_of_nat? {ds : List Char} {n : Nat} (h : nat? ds = some n) : ds ≠ [] := by
  rintro rfl
  simp [nat?] at h

end Text

namespace Time

open Text

namespace Date

theorem exists_march (n : Int) : ∃ era year day : Int,
    ofDays n = ofMarch (era * 400 + year) (monthOfDay day)
      (day - daysToMonth (monthOfDay day) + 1) ∧
    n + 719468 = era * 146097 + (daysToYear year + day) ∧ daysToYear year + day < 146097 ∧
    0 ≤ year ∧ year < 400 ∧ 0 ≤ day ∧ day ≤ 365 := by
  have hlo : 0 ≤ (n + 719468) % 146097 := Int.emod_nonneg _ (by decide)
  have hhi : (n + 719468) % 146097 < 146097 := Int.emod_lt_of_pos _ (by decide)
  have hy := yearOfEra_bounds hlo hhi
  have hd := dayOfYear_bounds hlo hhi
  have hday : dayOfYear ((n + 719468) % 146097)
      = (n + 719468) % 146097 - daysToYear (yearOfEra ((n + 719468) % 146097)) := rfl
  have hera := Int.emod_add_mul_ediv (n + 719468) 146097
  exact ⟨_, _, _, rfl, by omega, by omega, hy.1, hy.2, hd.1, hd.2⟩

theorem ofDays_bounds (n : Int) :
    1 ≤ (ofDays n).month ∧ (ofDays n).month ≤ 12 ∧ 1 ≤ (ofDays n).day ∧ (ofDays n).day ≤ 31 := by
  obtain ⟨era, year, day, heq, -, -, -, -, hlo, hhi⟩ := exists_march n
  have hmonth : 0 ≤ monthOfDay day ∧ monthOfDay day ≤ 11 := by
    simp only [monthOfDay]
    omega
  have hday : 1 ≤ day - daysToMonth (monthOfDay day) + 1 ∧
      day - daysToMonth (monthOfDay day) + 1 ≤ 31 := by
    simp only [monthOfDay, daysToMonth]
    omega
  rw [heq, ofMarch]
  split <;> dsimp only <;> omega

theorem ofDays_year {n : Int} (hlow : (⟨-262143, 1, 1⟩ : Date).toDays ≤ n)
    (hhigh : n ≤ (⟨262142, 12, 31⟩ : Date).toDays) :
    -262143 ≤ (ofDays n).year ∧ (ofDays n).year ≤ 262142 := by
  have hfirst : (⟨-262143, 1, 1⟩ : Date).toDays = -96465292 := by decide
  have hlast : (⟨262142, 12, 31⟩ : Date).toDays = 95026236 := by decide
  rw [hfirst] at hlow
  rw [hlast] at hhigh
  obtain ⟨era, year, day, heq, hn, hera, hy, hy', hd, hd'⟩ := exists_march n
  simp only [daysToYear] at hn hera
  have hmonth : monthOfDay day < 10 ↔ day < 306 := by
    simp only [monthOfDay]
    omega
  -- the calendar ends within the first and the last era that it touches
  have hyear : -262144 ≤ era * 400 + year ∧ era * 400 + year ≤ 262142 ∧
      (era * 400 + year = -262144 → ¬day < 306) ∧ (era * 400 + year = 262142 → day < 306) := by
    have hends : era = -656 ∨ era = 655 ∨ -656 < era ∧ era < 655 := by omega
    rcases hends with rfl | rfl | hinner <;> omega
  rw [heq, ofMarch]
  split <;> dsimp only <;> omega

end Date

namespace Instant

structure IsReal (i : Instant) : Prop where
  representable : i.isRepresentable = true
  nanos : i.nanos < nanosPerSecond ∨ i.seconds % 60 = 59 ∧ i.nanos < 2 * nanosPerSecond

theorem isRepresentable_iff {i : Instant} :
    i.isRepresentable = true ↔ earliest ≤ i.seconds ∧ i.seconds ≤ latest := by
  simp [isRepresentable]

theorem year_bounds {i : Instant} (h : i.isRepresentable = true) :
    -262143 ≤ (Date.ofDays i.day).year ∧ (Date.ofDays i.day).year ≤ 262142 := by
  obtain ⟨hlow, hhigh⟩ := isRepresentable_iff.mp h
  simp only [earliest, latest, secondsPerDay] at hlow hhigh
  apply Date.ofDays_year <;> simp only [day, secondsPerDay] <;> omega

theorem secondOfDay_bounds (i : Instant) : 0 ≤ i.secondOfDay ∧ i.secondOfDay < 86400 :=
  ⟨Int.emod_nonneg _ (by decide), Int.emod_lt_of_pos _ (by decide)⟩

theorem seconds_eq (i : Instant) : i.seconds = i.day * 86400 + i.secondOfDay := by
  simp only [day, secondOfDay, secondsPerDay]
  omega

end Instant

namespace Rfc3339

theorem digitsOf_append {most : Nat} {ds rest : List Char} (hd : ∀ c ∈ ds, isDigit c = true)
    (hmost : ds.length ≤ most) (hr : ds.length = most ∨ EndsNumber rest) :
    digitsOf most (ds ++ rest) = ds := by
  induction ds generalizing most with
  | nil =>
    rcases hr with rfl | hr
    · rfl
    · cases most <;> cases rest with
      | nil => rfl
      | cons c r => simp [digitsOf, ← isDigit.eq_1, hr c r rfl]
  | cons c ds ih =>
    cases most with
    | zero => simp at hmost
    | succ most =>
      obtain ⟨hc, hds⟩ := List.forall_mem_cons.mp hd
      have hrest : digitsOf most (ds ++ rest) = ds :=
        ih hds (by simpa using hmost) (by simpa using hr)
      rw [List.cons_append, digitsOf, ← isDigit.eq_1, if_pos hc, hrest]

theorem digitsOf_length (most : Nat) (cs : List Char) : (digitsOf most cs).length ≤ most := by
  induction most generalizing cs with
  | zero => simp [digitsOf]
  | succ most ih =>
    cases cs with
    | nil => simp [digitsOf]
    | cons c cs =>
      rw [digitsOf]
      split
      · simpa using ih cs
      · simp

theorem numberOf_append {fewest most n : Nat} {ds rest : List Char} (hn : nat? ds = some n)
    (hd : ∀ c ∈ ds, isDigit c = true) (hfewest : fewest ≤ ds.length) (hmost : ds.length ≤ most)
    (hr : ds.length = most ∨ EndsNumber rest) :
    numberOf fewest most (ds ++ rest) = some (n, rest) := by
  rw [numberOf, digitsOf_append hd hmost hr, if_neg (by omega), hn, Option.map_some,
    List.drop_left]

theorem number_padded {n : Nat} (h : n < 100) (rest : List Char) :
    number .relaxed 2 (padded 2 n ++ rest) = some (n, rest) := by
  have hn : nat? (padded 2 n) = some n := nat?_padded (by decide) h
  have hlength := padded_length 2 n
  rw [number, dropBlanks_digits (fun _ => isDigit_of_mem_padded) (ne_nil_of_nat? hn)]
  exact numberOf_append hn (fun _ => isDigit_of_mem_padded) (by omega) (by omega) (.inl hlength)

theorem mark_relaxed {c : Char} (h : isBlank c = false) (r : List Char) :
    mark .relaxed c (c :: r) = some r := by
  rw [mark, gap, dropBlanks_of_head h]
  exact if_pos rfl

theorem year_yearChars (y : Int) (rest : List Char) :
    year .relaxed (yearChars y ++ '-' :: rest) = some (y, '-' :: rest) := by
  have hends : EndsNumber ('-' :: rest) := endsNumber_cons (by decide) rest
  have hsigned (n : Nat) : numberOf 1 (atLeast 4 n ++ '-' :: rest).length
      (atLeast 4 n ++ '-' :: rest) = some (n, '-' :: rest) := by
    have hn : nat? (atLeast 4 n) = some n := nat?_atLeast (by decide) n
    have hlength := List.length_pos_iff.mpr (ne_nil_of_nat? hn)
    exact numberOf_append hn (fun _ => isDigit_of_mem_atLeast) hlength (by simp) (.inr hends)
  rw [yearChars]
  split
  · next h =>
    have hn : nat? (padded 4 y.toNat) = some y.toNat := nat?_padded (by decide) (by omega)
    have hlength := padded_length 4 y.toNat
    have hread : numberOf 1 4 (padded 4 y.toNat ++ '-' :: rest) = some (y.toNat, '-' :: rest) :=
      numberOf_append hn (fun _ => isDigit_of_mem_padded) (by omega) (by omega) (.inl hlength)
    have hdigits : ∀ c ∈ padded 4 y.toNat, isDigit c = true := fun _ => isDigit_of_mem_padded
    rw [year, dropBlanks_digits hdigits (ne_nil_of_nat? hn)]
    obtain ⟨c, cs, hc⟩ := List.exists_cons_of_ne_nil (ne_nil_of_nat? hn)
    have hdigit : isDigit c = true := hdigits c (hc ▸ List.mem_cons_self ..)
    rw [hc, List.cons_append] at hread ⊢
    split
    · next heq => exact absurd ((List.cons.inj heq).1 ▸ hdigit) (by decide)
    · next heq => exact absurd ((List.cons.inj heq).1 ▸ hdigit) (by decide)
    · simp only [hread, Option.map_some, Option.some.injEq, Prod.mk.injEq, and_true]
      omega
  · next h =>
    rw [List.cons_append, year, dropBlanks_of_head (by split <;> decide)]
    by_cases hneg : y < 0
    · simp only [if_pos hneg, hsigned, Option.map_some, Option.some.injEq, Prod.mk.injEq, and_true]
      omega
    · simp only [if_neg hneg, hsigned, Option.map_some, Option.some.injEq, Prod.mk.injEq, and_true]
      omega

theorem fraction_padded {width n : Nat} (hw : 0 < width) (hw' : width ≤ 9) (h : n < 10 ^ width) :
    fraction ('.' :: (padded width n ++ ['Z'])) = some (n * 10 ^ (9 - width), ['Z']) := by
  have hlength := padded_length width n
  have hds : digitsOf 9 (padded width n ++ ['Z']) = padded width n :=
    digitsOf_append (fun _ => isDigit_of_mem_padded) (by omega)
      (.inr (endsNumber_cons (by decide) []))
  simp only [fraction, hds, nat?_padded hw h, Option.map_some, hlength, Nat.pow_eq,
    List.drop_left' hlength]
  rfl

theorem fraction_fractionChars {nanos : Nat} (h : nanos < Instant.nanosPerSecond) :
    fraction (fractionChars nanos ++ ['Z']) = some (nanos, ['Z']) := by
  rw [Instant.nanosPerSecond] at h
  simp only [fractionChars]
  split
  · next hzero => exact hzero ▸ rfl
  split
  · next hmillis =>
    have hread : nanos / 1000000 * 10 ^ (9 - 3) = nanos := by omega
    rw [List.cons_append, fraction_padded (by decide) (by decide) (by omega), hread]
  split
  · next hmicros =>
    have hread : nanos / 1000 * 10 ^ (9 - 6) = nanos := by omega
    rw [List.cons_append, fraction_padded (by decide) (by decide) (by omega), hread]
  · have hread : nanos * 10 ^ (9 - 9) = nanos := by omega
    rw [List.cons_append, fraction_padded (by decide) (by decide) (by omega), hread]

theorem readChars_chars (i : Instant) :
    readChars .relaxed (chars i) =
      ofLocal? (Date.ofDays i.day) (i.secondOfDay.toNat / 3600) (i.secondOfDay.toNat / 60 % 60)
        (i.secondOfDay.toNat % 60 + if i.nanos ≥ 1000000000 then 1 else 0)
        (i.nanos % 1000000000) 0 := by
  obtain ⟨-, hmonth, -, hday⟩ := Date.ofDays_bounds i.day
  obtain ⟨hsecond, hsecond'⟩ := i.secondOfDay_bounds
  have hfraction : i.nanos % 1000000000 < Instant.nanosPerSecond := Nat.mod_lt _ (by decide)
  have hleap : (if i.nanos ≥ 1000000000 then 1 else 0) ≤ 1 := by split <;> omega
  have hdash := mark_relaxed (c := '-') (by decide)
  have hcolon := mark_relaxed (c := ':') (by decide)
  have hzone : zone .relaxed ['Z'] = some (0, []) := by decide
  have hend : gap .relaxed [] = [] := rfl
  simp only [chars, writeWith, readChars, List.append_assoc, List.cons_append]
  generalize (if i.nanos ≥ 1000000000 then 1 else 0) = leap at hleap
  have hmonths := number_padded (n := (Date.ofDays i.day).month) (by omega)
  have hdays := number_padded (n := (Date.ofDays i.day).day) (by omega)
  have hhours := number_padded (n := i.secondOfDay.toNat / 3600) (by omega)
  have hminutes := number_padded (n := i.secondOfDay.toNat / 60 % 60) (by omega)
  have hseconds := number_padded (n := i.secondOfDay.toNat % 60 + leap) (by omega)
  simp only [year_yearChars, hdash, hcolon, hmonths, hdays, hhours, hminutes, hseconds, separator,
    fraction_fractionChars hfraction, hzone, hend, if_true, Option.bind_eq_bind, Option.bind_some]

theorem ofLocal?_eq_some {date : Date} {hour minute second nanos : Nat} {east : Int}
    {i : Instant} : ofLocal? date hour minute second nanos east = some i ↔
      (hour < 24 ∧ minute < 60 ∧ second ≤ 60 ∧ date.isReal ∧ -262143 ≤ date.year ∧
        date.year ≤ 262142 ∧ i.isRepresentable) ∧
      i.seconds = date.toDays * 86400 + hour * 3600 + minute * 60 + min second 59 - east ∧
      i.nanos = if second = 60 then nanos + 1000000000 else nanos := by
  cases i with
  | mk seconds n =>
    simp only [ofLocal?, Option.ite_none_right_eq_some, Option.some.injEq, Instant.mk.injEq]
    constructor
    · rintro ⟨hlegal, rfl, rfl⟩
      exact ⟨hlegal, rfl, rfl⟩
    · rintro ⟨hlegal, rfl, rfl⟩
      exact ⟨hlegal, rfl, rfl⟩

theorem read?_text {i : Instant} (h : i.IsReal) : read? .relaxed (text i) = some i := by
  obtain ⟨hsecond, hsecond'⟩ := i.secondOfDay_bounds
  obtain ⟨hfirst, hlast⟩ := Instant.year_bounds h.representable
  have hseconds := i.seconds_eq
  have hnanos := h.nanos
  rw [Instant.nanosPerSecond] at hnanos
  have hdays : (Date.ofDays i.day).toDays = i.day := Date.toDays_ofDays i.day
  rw [read?, text, String.toList_ofList, readChars_chars, ofLocal?_eq_some, hdays]
  refine ⟨⟨by omega, by omega, ?_, Date.isReal_ofDays i.day, hfirst, hlast, h.representable⟩, ?_⟩
  · split <;> omega
  · split <;> split <;> omega

theorem offset_whole {form : Form} {cs r : List Char} {east : Int}
    (h : offset form cs = some (east, r)) : east % 60 = 0 := by
  rw [offset.eq_def] at h
  split at h
  · obtain ⟨rfl, -⟩ := Prod.mk.inj (Option.some.inj h)
    rfl
  · obtain ⟨rfl, -⟩ := Prod.mk.inj (Option.some.inj h)
    rfl
  · simp only [Option.bind_eq_bind, Option.bind_eq_some_iff, Option.ite_none_right_eq_some,
      Option.some.injEq, Prod.mk.injEq] at h
    obtain ⟨⟨s, _⟩, _, ⟨hours, _⟩, _, _, _, ⟨minutes, _⟩, _, _, heast, _⟩ := h
    rw [← heast, show (hours : Int) * 3600 + minutes * 60 = (hours * 60 + minutes) * 60 by omega,
      ← Int.mul_assoc]
    exact Int.mul_emod_left _ _

theorem zone_whole {form : Form} {cs r : List Char} {east : Int}
    (h : zone form cs = some (east, r)) : east % 60 = 0 := by
  cases form with
  | exact => exact offset_whole h
  | relaxed =>
    simp only [zone] at h
    split at h
    · obtain ⟨rfl, -⟩ := Prod.mk.inj (Option.some.inj h)
      rfl
    · exact offset_whole h

theorem fraction_lt {cs r : List Char} {nanos : Nat} (h : fraction cs = some (nanos, r)) :
    nanos < Instant.nanosPerSecond := by
  rw [fraction.eq_def] at h
  split at h
  · next cs =>
    obtain ⟨n, hn, heq⟩ := Option.map_eq_some_iff.mp h
    obtain ⟨rfl, -⟩ := Prod.mk.inj heq
    have hlength : (digitsOf 9 cs).length ≤ 9 := digitsOf_length 9 cs
    calc n * 10 ^ (9 - (digitsOf 9 cs).length)
        < 10 ^ (digitsOf 9 cs).length * 10 ^ (9 - (digitsOf 9 cs).length) :=
          Nat.mul_lt_mul_of_pos_right (nat?_lt hn) (Nat.pow_pos (by decide))
      _ = Instant.nanosPerSecond := by
          rw [← Nat.pow_add, Nat.add_sub_cancel' hlength]
          rfl
  · obtain ⟨rfl, -⟩ := Prod.mk.inj (Option.some.inj h)
    decide

theorem isReal_of_read? {form : Form} {s : String} {i : Instant} (h : read? form s = some i) :
    i.IsReal := by
  simp only [read?, readChars, Option.bind_eq_bind, Option.bind_eq_some_iff,
    Option.ite_none_right_eq_some] at h
  obtain ⟨_, _, _, _, _, _, _, _, _, _, _, _, _, _, _, _, _, _, _, _, ⟨second, _⟩, _,
    ⟨nanos, _⟩, hfraction, ⟨east, _⟩, hzone, _, hlocal⟩ := h
  obtain ⟨⟨-, -, -, -, -, -, hrep⟩, hseconds, hnanos⟩ := ofLocal?_eq_some.mp hlocal
  have heast := zone_whole hzone
  have hfraction := fraction_lt hfraction
  rw [Instant.nanosPerSecond] at hfraction
  refine ⟨hrep, ?_⟩
  rw [hnanos, Instant.nanosPerSecond]
  split
  · exact .inr ⟨by omega, by omega⟩
  · exact .inl hfraction

end Rfc3339

end Time

end CityGuide
