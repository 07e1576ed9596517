import PasswordVault.Time.Calendar
import Mathlib.Algebra.BigOperators.Group.List.Basic
import Mathlib.Algebra.Ring.Nat
import Mathlib.Data.List.Basic
import Mathlib.Data.Nat.Notation
import Mathlib.Logic.Function.Iterate
import Mathlib.Tactic.SplitIfs

/-!
# Dates and their numbers

The year of a day is searched for from below: a first guess supposes that every year has a leap day,
and goes up while the next year has begun already. Within the calendar the guess is never thirty
years behind, so that the search ends at the year of the day. The month is then found by taking the
lengths of the months away, one after the other.

* `daysBeforeYear_succ`: how long a year is;
* `yearAndDay_spec`: the search for the year, with `le_iterate_nextYear` as its invariant;
* `exists_monthAndDay_eq`: the month and the day within the year;
* `dayNumber_ofDayNumber`, `valid_ofDayNumber`: **the date with a number** has that number, and is a
  date of the calendar;
* `dayNumber_bounds`: the numbers of the dates of the calendar.
-/

namespace PasswordVault.Date

/-! ### Years -/

def yearLength (year : ℕ) : ℕ :=
  if isLeapYear year then 366 else 365

theorem isLeapYear_iff {year : ℕ} :
    isLeapYear year = true ↔ 4 ∣ year ∧ (¬100 ∣ year ∨ 400 ∣ year) := by
  simp [isLeapYear, Nat.dvd_iff_mod_eq_zero]

theorem daysBeforeYear_eq (y : ℕ) : daysBeforeYear (y + 1) = 365 * y + y / 4 - y / 100 + y / 400 :=
  rfl

theorem daysBeforeYear_succ (y : ℕ) :
    daysBeforeYear (y + 2) = daysBeforeYear (y + 1) + yearLength (y + 1) := by
  have h100 : y / 100 ≤ y / 4 := Nat.div_le_div_left (by decide) (by decide)
  rw [daysBeforeYear_eq (y + 1), daysBeforeYear_eq y, yearLength, Nat.succ_div, Nat.succ_div,
    Nat.succ_div]
  simp only [isLeapYear_iff]
  generalize y / 4 = a at *
  generalize y / 100 = b at *
  generalize y / 400 = c
  split_ifs <;> omega

theorem sum_monthLengths (year : ℕ) : (monthLengths year).sum = yearLength year := by
  unfold monthLengths yearLength
  cases isLeapYear year <;> rfl

/-! ### The search for the year -/

/-- One step of the search: the next year, if it has begun. -/
def nextYear (n year : ℕ) : ℕ :=
  if daysBeforeYear (year + 1) ≤ n then year + 1 else year

theorem yearAndDay_eq (n : ℕ) : yearAndDay n =
    ((nextYear n)^[30] (n / 366 + 1), n - daysBeforeYear ((nextYear n)^[30] (n / 366 + 1))) := by
  have h : (List.range 30).foldl (fun y _ => nextYear n y) (n / 366 + 1) =
      (nextYear n)^[30] (n / 366 + 1) := by
    rw [List.foldl_const, List.length_range]
  exact congrArg (fun year => (year, n - daysBeforeYear year)) h

/-- **The invariant of the search**: it never goes down, the year has begun, and either the next one
has not, or every step went up. -/
theorem le_iterate_nextYear {n year : ℕ} (h : daysBeforeYear year ≤ n) (steps : ℕ) :
    year ≤ (nextYear n)^[steps] year ∧ daysBeforeYear ((nextYear n)^[steps] year) ≤ n ∧
      (n < daysBeforeYear ((nextYear n)^[steps] year + 1) ∨
        (nextYear n)^[steps] year = year + steps) := by
  induction steps with
  | zero => exact ⟨Nat.le_refl year, h, Or.inr rfl⟩
  | succ steps ih =>
    rw [Function.iterate_succ_apply']
    generalize (nextYear n)^[steps] year = y at ih
    obtain ⟨hup, hle, hlt⟩ := ih
    unfold nextYear
    by_cases hy : daysBeforeYear (y + 1) ≤ n
    · rw [if_pos hy]
      refine ⟨Nat.le_succ_of_le hup, hy, Or.inr ?_⟩
      rcases hlt with hlt | rfl
      · omega
      · rfl
    · rw [if_neg hy]
      exact ⟨hup, hle, Or.inl (by omega)⟩

/-- The guess for the year has begun. -/
theorem daysBeforeYear_guess_le (n : ℕ) : daysBeforeYear (n / 366 + 1) ≤ n := by
  rw [daysBeforeYear_eq]
  omega

/-- Within the calendar, thirty years make up for the leap days that the guess supposes. -/
theorem lt_daysBeforeYear_guess {n : ℕ} (h : n < 3652059) :
    n < daysBeforeYear (n / 366 + 1 + 30) := by
  have he := daysBeforeYear_eq (n / 366 + 30)
  rw [Nat.add_right_comm] at he
  omega

/-- **The year of a day**: it has begun, the next one has not, and the calendar has it. -/
theorem yearAndDay_spec {n : ℕ} (h : n < 3652059) : ∃ y day, yearAndDay n = (y + 1, day) ∧
    y < 9999 ∧ daysBeforeYear (y + 1) + day = n ∧ day < yearLength (y + 1) := by
  obtain ⟨hup, hle, hlt⟩ := le_iterate_nextYear (daysBeforeYear_guess_le n) 30
  rw [yearAndDay_eq]
  generalize (nextYear n)^[30] (n / 366 + 1) = year at hup hle hlt
  obtain ⟨y, rfl⟩ : ∃ y, year = y + 1 := ⟨year - 1, by omega⟩
  have hnext : n < daysBeforeYear (y + 2) := by
    rcases hlt with hlt | he
    · exact hlt
    · have hguess := lt_daysBeforeYear_guess h
      rw [← he] at hguess
      omega
  have hy : y < 9999 := by
    rw [daysBeforeYear_eq] at hle
    omega
  have hsucc := daysBeforeYear_succ y
  exact ⟨y, n - daysBeforeYear (y + 1), rfl, hy, by omega, by omega⟩

/-! ### The month and the day -/

/-- **The month of a day**: as many months as the days before it fill. -/
theorem exists_monthAndDay_eq {lengths : List ℕ} {n : ℕ} (h : n < lengths.sum) (month : ℕ) :
    ∃ i day, i < lengths.length ∧ monthAndDay lengths month n = (month + i, day + 1) ∧
      day < lengths.getD i 0 ∧ (lengths.take i).sum + day = n := by
  induction lengths generalizing n month with
  | nil => exact absurd h (Nat.not_lt_zero n)
  | cons length rest ih =>
    rw [List.sum_cons] at h
    unfold monthAndDay
    by_cases hn : n < length
    · exact ⟨0, n, Nat.succ_pos _, if_pos hn, hn, Nat.zero_add n⟩
    · obtain ⟨i, day, hi, he, hday, hsum⟩ := ih (n := n - length) (by omega) (month + 1)
      refine ⟨i + 1, day, Nat.succ_lt_succ hi, ?_, hday, ?_⟩
      · rw [if_neg hn, he, Nat.add_right_comm, Nat.add_assoc]
      · rw [List.take_succ_cons, List.sum_cons]
        omega

theorem daysBeforeMonth_succ (year i : ℕ) :
    daysBeforeMonth year (i + 1) = ((monthLengths year).take i).sum := by
  rw [daysBeforeMonth, List.sum_eq_foldl, Nat.add_sub_cancel]

/-- The parts of the date with a number. -/
theorem ofDayNumber_spec {n : ℕ} (h : n < 3652059) : ∃ y i day, ofDayNumber (n + 1) =
      ⟨y + 1, i + 1, day + 1⟩ ∧ y < 9999 ∧ i < 12 ∧ day < monthLength (y + 1) (i + 1) ∧
    daysBeforeYear (y + 1) + daysBeforeMonth (y + 1) (i + 1) + day = n := by
  obtain ⟨y, rest, hyear, hy, hsum, hlt⟩ := yearAndDay_spec h
  rw [← sum_monthLengths] at hlt
  obtain ⟨i, day, hi, hmonth, hday, hrest⟩ := exists_monthAndDay_eq hlt 1
  refine ⟨y, i, day, ?_, hy, hi, hday, ?_⟩
  · rw [ofDayNumber, Nat.add_sub_cancel, hyear]
    simp only [hmonth, Nat.add_comm 1 i]
  · rw [daysBeforeMonth_succ]
    omega

section

variable {n : ℕ} (h1 : 1 ≤ n) (hn : n ≤ 3652059)
include h1 hn

/-- **The date with a number has that number.** -/
theorem dayNumber_ofDayNumber : (ofDayNumber n).dayNumber = n := by
  obtain ⟨n, rfl⟩ := Nat.exists_eq_add_of_le' h1
  obtain ⟨y, i, day, he, -, -, -, hsum⟩ := ofDayNumber_spec hn
  rw [he]
  show daysBeforeYear (y + 1) + daysBeforeMonth (y + 1) (i + 1) + (day + 1) = n + 1
  omega

/-- **The calendar has the date with a number.** -/
theorem valid_ofDayNumber : (ofDayNumber n).Valid := by
  obtain ⟨n, rfl⟩ := Nat.exists_eq_add_of_le' h1
  obtain ⟨y, i, day, he, hy, hi, hday, -⟩ := ofDayNumber_spec hn
  rw [he]
  exact ⟨Nat.succ_pos y, hy, Nat.succ_pos i, hi, Nat.succ_pos day, hday⟩

end

/-! ### The numbers of the dates of the calendar -/

theorem sum_take_add_getD_le (lengths : List ℕ) (i : ℕ) :
    (lengths.take i).sum + lengths.getD i 0 ≤ lengths.sum := by
  induction lengths generalizing i with
  | nil => exact Nat.le_of_eq (by simp)
  | cons length rest ih =>
    cases i with
    | zero => simp
    | succ i =>
      rw [List.take_succ_cons, List.sum_cons, List.sum_cons, List.getD_cons_succ, Nat.add_assoc]
      exact Nat.add_le_add_left (ih i) length

/-- A month ends within its year. -/
theorem daysBeforeMonth_add_le (year i : ℕ) :
    daysBeforeMonth year (i + 1) + monthLength year (i + 1) ≤ yearLength year := by
  rw [daysBeforeMonth_succ, ← sum_monthLengths]
  exact sum_take_add_getD_le (monthLengths year) i

/-- **The numbers of the dates** of the calendar. -/
theorem dayNumber_bounds {d : Date} (h : d.Valid) : 1 ≤ d.dayNumber ∧ d.dayNumber ≤ 3652059 := by
  obtain ⟨year, month, day⟩ := d
  obtain ⟨hy, hy', hm, hm', hd, hd'⟩ := h
  dsimp only at hy hy' hm hm' hd hd'
  obtain ⟨y, rfl⟩ := Nat.exists_eq_add_of_le' hy
  obtain ⟨i, rfl⟩ := Nat.exists_eq_add_of_le' hm
  have hmonth := daysBeforeMonth_add_le (y + 1) i
  have hsucc := daysBeforeYear_succ y
  have hlast : daysBeforeYear (y + 2) ≤ 3652059 := by
    rw [daysBeforeYear_eq]
    omega
  show 1 ≤ daysBeforeYear (y + 1) + daysBeforeMonth (y + 1) (i + 1) + day ∧
    daysBeforeYear (y + 1) + daysBeforeMonth (y + 1) (i + 1) + day ≤ 3652059
  omega

end PasswordVault.Date
