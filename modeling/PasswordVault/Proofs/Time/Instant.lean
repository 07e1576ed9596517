import PasswordVault.Proofs.Time.Calendar
import PasswordVault.Proofs.Time.Stored

/-!
# What a clock shows at an instant

The instants that the calendar has are those that a clock of universal time shows at some date from
year 1 to year 9999. The timestamp that is made for an instant is one that such a clock shows then.

* `OnCalendar`, `onCalendar_iff`: **the instants that the calendar has**;
* `TimeOfDay.microseconds_ofMicroseconds`: the time of day;
* `Timestamp.valid_ofInstant`, `Timestamp.instant_ofInstant`: **the timestamp of an instant** is
  shown by a clock, at that instant;
* `Timestamp.storable_ofInstant`: it can be stored and read back.
-/

namespace PasswordVault

/-! ### The time of day -/

namespace TimeOfDay

theorem microseconds_ofMicroseconds (n : ℕ) : (ofMicroseconds n).microseconds = n := by
  simp only [microseconds, ofMicroseconds]
  omega

theorem valid_ofMicroseconds {n : ℕ} (h : n < Timestamp.dayLength) : (ofMicroseconds n).Valid := by
  unfold Timestamp.dayLength at h
  simp only [Valid, ofMicroseconds]
  omega

theorem Valid.microseconds_lt {t : TimeOfDay} (h : t.Valid) :
    t.microseconds < Timestamp.dayLength := by
  obtain ⟨hh, hm, hs, hu⟩ := h
  unfold microseconds Timestamp.dayLength
  omega

end TimeOfDay

/-! ### The instants of the calendar -/

/-- **The calendar has the instant**: a clock of universal time shows it. -/
def OnCalendar (i : Instant) : Prop :=
  ∃ t : Timestamp, t.Valid ∧ t.offset = some 0 ∧ t.instant = i

namespace Timestamp

/-- The first instant of the calendar. -/
def firstInstant : ℤ := -62135596800000000

/-- The first instant after the calendar. -/
def endInstant : ℤ := 253402300800000000

theorem ofInstant_eq (i : ℤ) : ofInstant i =
    ⟨Date.ofDayNumber (i / 86400000000 + 719163).toNat,
      TimeOfDay.ofMicroseconds (i % 86400000000).toNat, some 0⟩ := by
  rw [ofInstant, Int.fdiv_eq_ediv_of_nonneg _ (Int.natCast_nonneg dayLength),
    Int.fmod_eq_emod_of_nonneg _ (Int.natCast_nonneg dayLength)]
  rfl

theorem bounds_of_onCalendar {i : ℤ} (h : OnCalendar i) :
    firstInstant ≤ i ∧ i < endInstant := by
  obtain ⟨⟨date, time, offset⟩, ⟨hdate, htime, -⟩, ho, rfl⟩ := h
  obtain ⟨hfirst, hlast⟩ : 1 ≤ date.dayNumber ∧ date.dayNumber ≤ 3652059 :=
    Date.dayNumber_bounds hdate
  have hlt := htime.microseconds_lt
  obtain rfl : offset = some 0 := ho
  simp only [instant, Option.getD_some, epochDay, dayLength, firstInstant, endInstant] at hlt ⊢
  omega

section

variable {i : ℤ} (h : firstInstant ≤ i ∧ i < endInstant)
include h

/-- The day of an instant of the calendar has a date. -/
theorem day_bounds : 1 ≤ (i / 86400000000 + 719163).toNat ∧
    (i / 86400000000 + 719163).toNat ≤ 3652059 := by
  unfold firstInstant endInstant at h
  omega

theorem valid_of_bounds : (ofInstant i).Valid := by
  obtain ⟨hfirst, hlast⟩ := day_bounds h
  have hrest : (i % 86400000000).toNat < dayLength := by
    unfold dayLength
    omega
  rw [ofInstant_eq]
  refine ⟨Date.valid_ofDayNumber hfirst hlast, TimeOfDay.valid_ofMicroseconds hrest, ?_⟩
  rintro o ⟨⟩
  decide

theorem instant_of_bounds : (ofInstant i).instant = i := by
  obtain ⟨hfirst, hlast⟩ := day_bounds h
  have hday : ((i / 86400000000 + 719163).toNat : ℤ) = i / 86400000000 + 719163 := by omega
  have hrest : ((i % 86400000000).toNat : ℤ) = i % 86400000000 := by omega
  rw [ofInstant_eq, instant, Date.dayNumber_ofDayNumber hfirst hlast,
    TimeOfDay.microseconds_ofMicroseconds, hday, hrest]
  show (i / 86400000000 + 719163 - 719163) * 86400000000 + i % 86400000000 - 0 = i
  omega

end

/-- **The instants of the calendar** are those from the first day of year 1 to the last day of year
9999. -/
theorem onCalendar_iff {i : ℤ} : OnCalendar i ↔ firstInstant ≤ i ∧ i < endInstant := by
  constructor
  · exact bounds_of_onCalendar
  · intro h
    exact ⟨ofInstant i, valid_of_bounds h, rfl, instant_of_bounds h⟩

/-- **A clock shows the timestamp of an instant.** -/
theorem valid_ofInstant {i : ℤ} (h : OnCalendar i) : (ofInstant i).Valid :=
  valid_of_bounds (onCalendar_iff.mp h)

/-- **The timestamp of an instant is shown at that instant.** -/
theorem instant_ofInstant {i : ℤ} (h : OnCalendar i) : (ofInstant i).instant = i :=
  instant_of_bounds (onCalendar_iff.mp h)

theorem storable_ofInstant {i : ℤ} (h : OnCalendar i) : (ofInstant i).Storable := by
  obtain ⟨hdate, htime, -⟩ := valid_ofInstant h
  refine ⟨hdate, htime, ?_⟩
  rintro o ⟨⟩
  exact inMinutes_zero

end Timestamp

end PasswordVault
