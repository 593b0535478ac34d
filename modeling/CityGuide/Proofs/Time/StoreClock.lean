import CityGuide.Time.Instant

namespace CityGuide.Time.Instant

def storeNanos (i : Instant) : Int :=
  (i.seconds - storeEpoch.seconds) * nanosPerSecond + i.nanos

def IsLeap (i : Instant) : Prop := nanosPerSecond ≤ i.nanos

instance (i : Instant) : Decidable i.IsLeap := inferInstanceAs (Decidable (_ ≤ _))

/-- Some whole microsecond is passed on the way from one time to the other; on both sides of the
epoch a microsecond begins at its end nearer to it. -/
def TicksBefore (a b : Instant) : Prop :=
  ∃ tick : Int, (0 < tick ∧ a.storeNanos < 1000 * tick ∧ 1000 * tick ≤ b.storeNanos) ∨
    (tick < 0 ∧ a.storeNanos ≤ 1000 * tick ∧ 1000 * tick < b.storeNanos)

variable {a b i : Instant}

theorem storeMicros_eq (i : Instant) : i.storeMicros = i.storeNanos.tdiv 1000 := by
  have hwhole : (storeEpoch.nanos : Int) = 0 := rfl
  rw [storeMicros, nanosSince, leapBetween_storeEpoch, storeNanos, hwhole, Int.add_zero,
    Int.sub_zero]

theorem ofStoreMicros_lt {m n : Int} : ofStoreMicros m < ofStoreMicros n ↔ m < n := by
  have hm : 0 ≤ m % 1000000 := Int.emod_nonneg _ (by decide)
  have hn : 0 ≤ n % 1000000 := Int.emod_nonneg _ (by decide)
  rw [lt_iff]
  simp only [ofStoreMicros]
  omega

theorem stored_lt_stored : a.stored < b.stored ↔ a.storeMicros < b.storeMicros := ofStoreMicros_lt

theorem tdiv_bounds (x : Int) :
    (0 ≤ x.tdiv 1000 ∧ 1000 * x.tdiv 1000 ≤ x ∧ x < 1000 * x.tdiv 1000 + 1000) ∨
      (x.tdiv 1000 ≤ 0 ∧ 1000 * x.tdiv 1000 - 1000 < x ∧ x ≤ 1000 * x.tdiv 1000) := by
  rcases Int.le_total 0 x with hx | hx
  · rw [Int.tdiv_eq_ediv_of_nonneg hx]
    omega
  · have hneg : x.tdiv 1000 = -(-x / 1000) := by
      rw [← Int.tdiv_eq_ediv_of_nonneg (Int.neg_nonneg_of_nonpos hx), Int.neg_tdiv, Int.neg_neg]
    rw [hneg]
    omega

theorem tdiv_lt_tdiv (x y : Int) : x.tdiv 1000 < y.tdiv 1000 ↔
    ∃ t : Int, (0 < t ∧ x < 1000 * t ∧ 1000 * t ≤ y) ∨ (t < 0 ∧ x ≤ 1000 * t ∧ 1000 * t < y) := by
  have hx := tdiv_bounds x
  have hy := tdiv_bounds y
  constructor
  · intro h
    -- after the epoch the later number's own tick is passed, before it the earlier one's
    by_cases hpos : 0 < y.tdiv 1000
    · exact ⟨y.tdiv 1000, .inl ⟨hpos, by omega, by omega⟩⟩
    · exact ⟨x.tdiv 1000, .inr ⟨by omega, by omega, by omega⟩⟩
  · rintro ⟨t, ⟨hpos, hbelow, habove⟩ | ⟨hneg, hbelow, habove⟩⟩ <;> omega

theorem stored_lt_stored_iff : a.stored < b.stored ↔ a.TicksBefore b := by
  rw [stored_lt_stored, storeMicros_eq, storeMicros_eq]
  exact tdiv_lt_tdiv _ _

theorem storeNanos_le (h : ¬ b < a) (ha : ¬ a.IsLeap) : a.storeNanos ≤ b.storeNanos := by
  rw [lt_iff] at h
  rw [IsLeap] at ha
  simp only [storeNanos, nanosPerSecond] at ha ⊢
  omega

theorem not_ticksBefore (h : ¬ b < a) (ha : ¬ a.IsLeap) : ¬ b.TicksBefore a := by
  have hle := storeNanos_le h ha
  rintro ⟨tick, ⟨-, hb, ha⟩ | ⟨-, hb, ha⟩⟩ <;> omega

end CityGuide.Time.Instant
