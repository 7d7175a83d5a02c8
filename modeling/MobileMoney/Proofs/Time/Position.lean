import MobileMoney.Time.Instant

/-!
# Instants as positions

An instant outside leap seconds is a number of nanoseconds since the first of January 1970.  Moving
it by a span adds the span to its position, as long as the sum lies in the calendar, and instants
are compared by their positions.
-/

namespace MobileMoney.Instant

/-- The nanoseconds since the first of January 1970; all of a leap second counts as the last
nanosecond before it. -/
def position (t : Instant) : Int :=
  t.seconds * nanosPerSecond + min t.nanos (nanosPerSecond - 1)

def InCalendar (position : Int) : Prop :=
  minSeconds * nanosPerSecond ≤ position ∧ position < (maxSeconds + 1) * nanosPerSecond

instance (position : Int) : Decidable (InCalendar position) :=
  inferInstanceAs (Decidable (_ ∧ _))

def ofPosition? (position : Int) : Option Instant :=
  of? (position / nanosPerSecond) (position % nanosPerSecond).toNat

variable {t u : Instant} {position other : Int}

theorem isLeapSecond_eq_false_iff : t.isLeapSecond = false ↔ t.nanos < nanosPerSecond := by
  simp [isLeapSecond]

theorem position_of_not_leap (h : t.isLeapSecond = false) :
    t.position = t.seconds * nanosPerSecond + t.nanos := by
  rw [isLeapSecond_eq_false_iff] at h
  rw [Instant.position]
  unfold nanosPerSecond at *
  omega

theorem inCalendar_position (h : t.isLeapSecond = false) : InCalendar t.position := by
  have hvalid := t.valid
  rw [position_of_not_leap h]
  rw [isLeapSecond_eq_false_iff] at h
  unfold IsValid at hvalid
  unfold InCalendar nanosPerSecond at *
  omega

/-! ## From positions to instants -/

theorem isValid_iff_inCalendar :
    IsValid (position / nanosPerSecond) (position % nanosPerSecond).toNat ↔
      InCalendar position := by
  unfold IsValid InCalendar nanosPerSecond
  omega

theorem exists_ofPosition? (h : InCalendar position) :
    ∃ t, ofPosition? position = some t ∧ t.position = position ∧ t.isLeapSecond = false := by
  refine ⟨_, dif_pos (isValid_iff_inCalendar.mpr h), ?_, ?_⟩
  · unfold Instant.position nanosPerSecond
    dsimp only
    omega
  · rw [isLeapSecond_eq_false_iff]
    unfold nanosPerSecond
    dsimp only
    omega

theorem ofPosition?_eq_none (h : ¬ InCalendar position) : ofPosition? position = none :=
  dif_neg (mt isValid_iff_inCalendar.mp h)

theorem ofPosition?_position (h : t.isLeapSecond = false) : ofPosition? t.position = some t := by
  have hnanos := isLeapSecond_eq_false_iff.mp h
  have hparts : t.position / nanosPerSecond = t.seconds ∧
      (t.position % nanosPerSecond).toNat = t.nanos := by
    rw [position_of_not_leap h]
    unfold nanosPerSecond at *
    omega
  rw [ofPosition?, hparts.1, hparts.2]
  exact dif_pos t.valid

/-! ## Arithmetic -/

/-- Whole seconds and fractions are moved apart, and the fractions carry. -/
theorem shift?_eq (h : t.isLeapSecond = false) (span : Int) :
    t.shift? span = ofPosition? (t.position + span) := by
  have hspan := Int.mul_tdiv_add_tmod span nanosPerSecond
  rw [position_of_not_leap h]
  rw [isLeapSecond_eq_false_iff] at h
  rw [shift?, if_pos h, carry?, ofPosition?]
  unfold nanosPerSecond at *
  congr 1
  · omega
  · congr 1
    omega

theorem isBefore_eq (h : u.isLeapSecond = false) :
    t.isBefore u = decide (t.position < u.position) := by
  rw [position_of_not_leap h]
  rw [isLeapSecond_eq_false_iff] at h
  rw [isBefore, ← Bool.decide_and, ← Bool.decide_or, decide_eq_decide]
  unfold Instant.position nanosPerSecond at *
  omega

/-- The whole calendar is shorter than the longest difference of two instants. -/
theorem sub_le_maxSpan (h : InCalendar position) (hother : InCalendar other) :
    position - other ≤ Duration.maxSpan := by
  have hmin : minSeconds = -8334601228800 := by decide
  have hmax : maxSeconds = 8210266876799 := by decide
  have hspan : Duration.maxSpan = 9223372036854775807000000 := by decide
  unfold InCalendar nanosPerSecond at *
  omega

end MobileMoney.Instant
