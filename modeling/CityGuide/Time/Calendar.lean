namespace CityGuide.Time

structure Date where
  year : Int
  month : Nat
  day : Nat
  deriving DecidableEq, Repr

namespace Date

-- Days before a year of a four-century era, both counted from March.
def daysToYear (yearOfEra : Int) : Int := 365 * yearOfEra + yearOfEra / 4 - yearOfEra / 100

def daysToMonth (monthFromMarch : Int) : Int := (153 * monthFromMarch + 2) / 5

def marchDays (year monthFromMarch day : Int) : Int :=
  year / 400 * 146097 + daysToYear (year % 400) + daysToMonth monthFromMarch + (day - 1) - 719468

def toDays (d : Date) : Int :=
  if d.month ≤ 2 then marchDays (d.year - 1) (d.month + 9) d.day
  else marchDays d.year (d.month - 3) d.day

def ofMarch (year monthFromMarch day : Int) : Date :=
  if monthFromMarch < 10 then ⟨year, (monthFromMarch + 3).toNat, day.toNat⟩
  else ⟨year + 1, (monthFromMarch - 9).toNat, day.toNat⟩

def yearOfEra (dayOfEra : Int) : Int :=
  (dayOfEra - dayOfEra / 1460 + dayOfEra / 36524 - dayOfEra / 146096) / 365

def dayOfYear (dayOfEra : Int) : Int := dayOfEra - daysToYear (yearOfEra dayOfEra)

def monthOfDay (dayOfYear : Int) : Int := (5 * dayOfYear + 2) / 153

def ofDays (n : Int) : Date :=
  let era := (n + 719468) / 146097
  let dayOfEra := (n + 719468) % 146097
  let month := monthOfDay (dayOfYear dayOfEra)
  ofMarch (era * 400 + yearOfEra dayOfEra) month (dayOfYear dayOfEra - daysToMonth month + 1)

def isReal (d : Date) : Bool := ofDays d.toDays = d

example : isReal ⟨2024, 2, 29⟩ = true := by decide
example : isReal ⟨1900, 2, 29⟩ = false := by decide
example : isReal ⟨2025, 13, 1⟩ = false := by decide
example : isReal ⟨-1, 12, 31⟩ = true := by decide

theorem toDays_ofMarch {y m d : Int} (hm : 0 ≤ m) (hm' : m ≤ 11) (hd : 0 ≤ d) :
    (ofMarch y m d).toDays = marchDays y m d := by
  have hday : ((d.toNat : Nat) : Int) = d := by omega
  by_cases h : m < 10
  · have hle : ¬ (m + 3).toNat ≤ 2 := by omega
    have hmon : (((m + 3).toNat : Nat) : Int) - 3 = m := by omega
    simp only [ofMarch, h, if_true, toDays, hle, if_false, hday, hmon]
  · have hle : (m - 9).toNat ≤ 2 := by omega
    have hmon : (((m - 9).toNat : Nat) : Int) + 9 = m := by omega
    have hy : y + 1 - 1 = y := by omega
    simp only [ofMarch, h, if_false, toDays, hle, if_true, hday, hmon, hy]

theorem yearOfEra_bounds {e : Int} (h : 0 ≤ e) (h' : e < 146097) :
    0 ≤ yearOfEra e ∧ yearOfEra e < 400 := by
  simp only [yearOfEra]
  omega

theorem dayOfYear_bounds {e : Int} (h : 0 ≤ e) (h' : e < 146097) :
    0 ≤ dayOfYear e ∧ dayOfYear e ≤ 365 := by
  simp only [dayOfYear, daysToYear, yearOfEra]
  have hc : e / 36524 = 0 ∨ e / 36524 = 1 ∨ e / 36524 = 2 ∨ e / 36524 = 3 ∨ e = 146096 := by omega
  rcases hc with hc | hc | hc | hc | rfl
  iterate 4
    have hera : e / 146096 = 0 := by omega
    rw [hc, hera]
    generalize hb : (e - e / 1460 + _ - 0) / 365 = b
    have hcent : b / 100 = e / 36524 := by omega
    rw [hcent, hc]
    omega
  decide

theorem toDays_ofDays (n : Int) : (ofDays n).toDays = n := by
  have hlo : 0 ≤ (n + 719468) % 146097 := Int.emod_nonneg _ (by decide)
  have hhi : (n + 719468) % 146097 < 146097 := Int.emod_lt_of_pos _ (by decide)
  have hy := yearOfEra_bounds hlo hhi
  have hd := dayOfYear_bounds hlo hhi
  have hdoy : dayOfYear ((n + 719468) % 146097)
      = (n + 719468) % 146097 - daysToYear (yearOfEra ((n + 719468) % 146097)) := rfl
  have hera := Int.emod_add_mul_ediv (n + 719468) 146097
  simp only [ofDays]
  generalize (n + 719468) % 146097 = e at *
  generalize (n + 719468) / 146097 = era at *
  generalize dayOfYear e = doy at *
  generalize yearOfEra e = yoe at *
  have hmonth : 0 ≤ monthOfDay doy ∧ monthOfDay doy ≤ 11 := by
    simp only [monthOfDay]
    omega
  have hday : 0 ≤ doy - daysToMonth (monthOfDay doy) + 1 := by
    simp only [monthOfDay, daysToMonth]
    omega
  rw [toDays_ofMarch hmonth.1 hmonth.2 hday, marchDays]
  have h1 : (era * 400 + yoe) / 400 = era := by omega
  have h2 : (era * 400 + yoe) % 400 = yoe := by omega
  rw [h1, h2]
  omega

theorem isReal_ofDays (n : Int) : isReal (ofDays n) = true := by
  simp [isReal, toDays_ofDays]

end Date

end CityGuide.Time
