import Mathlib.Tactic.Common
import Mathlib.Tactic.IntervalCases
import Weblog.Calendar.Timestamp
/-!
# Counting days

Day numbers count the dates one by one: 1970-01-01 has number zero, and the date after a date has
the next number. So the day number that is computed from years and months is the number of days
between the dates.

* `Date.Exists`: whether a date exists, in any year.
* `Date.dayNumber_next`, `Date.next_previous`: a step forward in days and dates, and back again.
* `IsDay`: the day number of a date, counted from date to date.
* **`isDay_iff`**: the counted number is the computed one.
-/

namespace Weblog.Calendar

namespace Date

/-! ## Months and years -/

/-- Whether the month and the day of a date exist. -/
structure Exists (d : Date) : Prop where
  month_pos : 1 ≤ d.month
  month_le : d.month ≤ 12
  day_pos : 1 ≤ d.day
  day_le : d.day ≤ daysInMonth d.year d.month

theorem isValid_iff {d : Date} :
    d.isValid = true ↔ (firstYear ≤ d.year ∧ d.year ≤ lastYear) ∧ d.Exists := by
  simp only [isValid, Bool.and_eq_true, decide_eq_true_eq]
  constructor
  · rintro ⟨⟨⟨⟨⟨hfirst, hlast⟩, hm⟩, hm'⟩, hd⟩, hd'⟩
    exact ⟨⟨hfirst, hlast⟩, hm, hm', hd, hd'⟩
  · rintro ⟨⟨hfirst, hlast⟩, hm, hm', hd, hd'⟩
    exact ⟨⟨⟨⟨⟨hfirst, hlast⟩, hm⟩, hm'⟩, hd⟩, hd'⟩

theorem daysInMonth_bounds (year : Int) {month : Nat} (h : 1 ≤ month) (h' : month ≤ 12) :
    28 ≤ daysInMonth year month ∧ daysInMonth year month ≤ 31 := by
  unfold daysInMonth monthLengths
  cases isLeapYear year <;> interval_cases month <;> simp

theorem daysBeforeMonth_succ (year : Int) {month : Nat} (h : 1 ≤ month) (h' : month < 12) :
    daysBeforeMonth year (month + 1) = daysBeforeMonth year month + daysInMonth year month := by
  unfold daysBeforeMonth daysInMonth monthLengths
  cases isLeapYear year <;> interval_cases month <;> simp

theorem daysBeforeMonth_one (year : Int) : daysBeforeMonth year 1 = 0 := rfl

theorem daysInMonth_december (year : Int) : daysInMonth year 12 = 31 := by
  simp [daysInMonth, monthLengths]

theorem daysBeforeYear_succ (year : Int) : daysBeforeYear (year + 1) =
    daysBeforeYear year + daysBeforeMonth year 12 + daysInMonth year 12 := by
  have hdays : (daysBeforeMonth year 12 : Int) = if isLeapYear year then 335 else 334 := by
    unfold daysBeforeMonth monthLengths
    cases isLeapYear year <;> simp
  rw [daysInMonth_december, hdays]
  simp only [daysBeforeYear, isLeapYear, Bool.and_eq_true, Bool.or_eq_true, beq_iff_eq, bne_iff_ne,
    Int.add_sub_cancel]
  split_ifs <;> omega

/-! ## Steps -/

theorem exists_next {d : Date} (h : d.Exists) : d.next.Exists := by
  obtain ⟨hm, hm', hd, hd'⟩ := h
  unfold next
  split_ifs with hday hmonth
  · exact ⟨hm, hm', by simp, hday⟩
  · have hbounds := daysInMonth_bounds d.year (show 1 ≤ d.month + 1 by omega) (by omega)
    exact ⟨by simp, hmonth, le_rfl, by simp only; omega⟩
  · have hbounds := daysInMonth_bounds (d.year + 1) (show 1 ≤ 1 from le_rfl) (by omega)
    exact ⟨le_rfl, by simp, le_rfl, by simp only; omega⟩

theorem exists_previous {d : Date} (h : d.Exists) : d.previous.Exists := by
  obtain ⟨hm, hm', hd, hd'⟩ := h
  unfold previous
  split_ifs with hday hmonth
  · exact ⟨hm, hm', by simp only; omega, by simp only; omega⟩
  · have hbounds := daysInMonth_bounds d.year (show 1 ≤ d.month - 1 by omega) (by omega)
    exact ⟨by simp only; omega, by simp only; omega, by simp only; omega, le_rfl⟩
  · exact ⟨by simp, le_rfl, by simp, (daysInMonth_december _).ge⟩

/-- **The next date has the next day number.** -/
theorem dayNumber_next {d : Date} (h : d.Exists) : d.next.dayNumber = d.dayNumber + 1 := by
  obtain ⟨hm, hm', hd, hd'⟩ := h
  unfold next
  split_ifs with hday hmonth
  · simp only [dayNumber]
    omega
  · have hsucc := daysBeforeMonth_succ d.year hm hmonth
    simp only [dayNumber, hsucc]
    omega
  · have hsucc := daysBeforeYear_succ d.year
    obtain hm : d.month = 12 := by omega
    rw [hm] at hd' hday
    simp only [dayNumber, hsucc, hm, daysBeforeMonth_one]
    omega

theorem next_previous {d : Date} (h : d.Exists) : d.previous.next = d := by
  obtain ⟨hm, hm', hd, hd'⟩ := h
  obtain ⟨year, month, day⟩ := d
  dsimp only at hm hm' hd hd'
  unfold previous
  split_ifs with hday hmonth
  · rw [next, if_pos (by dsimp only at *; omega)]
    simp only [mk.injEq, true_and]
    dsimp only at hday
    omega
  · dsimp only at hday hmonth ⊢
    rw [next, if_neg (by simp), if_pos (by dsimp only; omega)]
    simp only [mk.injEq, true_and]
    omega
  · dsimp only at hday hmonth ⊢
    rw [next, if_neg (by simp [daysInMonth_december]), if_neg (by simp)]
    simp only [mk.injEq]
    omega

theorem previous_next {d : Date} (h : d.Exists) : d.next.previous = d := by
  obtain ⟨hm, hm', hd, hd'⟩ := h
  obtain ⟨year, month, day⟩ := d
  dsimp only at hm hm' hd hd'
  unfold next
  split_ifs with hday hmonth
  · rw [previous, if_pos (by dsimp only; omega)]
    simp
  · dsimp only at hday hmonth ⊢
    rw [previous, if_neg (by simp), if_pos (by dsimp only; omega)]
    simp only [mk.injEq, true_and, Nat.add_sub_cancel]
    omega
  · dsimp only at hday hmonth ⊢
    rw [previous, if_neg (by simp), if_neg (by simp)]
    obtain rfl : month = 12 := by omega
    rw [daysInMonth_december] at *
    simp only [mk.injEq, true_and]
    omega

theorem dayNumber_previous {d : Date} (h : d.Exists) :
    d.previous.dayNumber = d.dayNumber - 1 := by
  have hnext := dayNumber_next (exists_previous h)
  rw [next_previous h] at hnext
  omega

/-! ## Day numbers -/

theorem daysBeforeMonth_add_le (year : Int) {month : Nat} (h : 1 ≤ month) (h' : month ≤ 12) :
    daysBeforeMonth year month + daysInMonth year month ≤
      daysBeforeMonth year 12 + daysInMonth year 12 := by
  unfold daysBeforeMonth daysInMonth monthLengths
  cases isLeapYear year <;> interval_cases month <;> simp

theorem eq_epoch_of_dayNumber {d : Date} (h : d.Exists) (hzero : d.dayNumber = 0) :
    d = ⟨1970, 1, 1⟩ := by
  obtain ⟨hm, hm', hd, hd'⟩ := h
  obtain ⟨year, month, day⟩ := d
  dsimp only [dayNumber] at *
  have hlast := daysBeforeMonth_add_le year hm hm'
  have hsucc := daysBeforeYear_succ year
  obtain rfl : year = 1970 := by
    have hlow : daysBeforeYear year ≤ 719162 := by omega
    have hhigh : 719162 < daysBeforeYear (year + 1) := by omega
    simp only [daysBeforeYear] at hlow hhigh
    omega
  have hyear : daysBeforeYear 1970 = 719162 := rfl
  have hmonth : month = 1 ∨ 31 ≤ daysBeforeMonth 1970 month := by
    interval_cases month <;> decide
  obtain rfl | hmonth := hmonth
  · rw [daysBeforeMonth_one] at hzero
    simp only [mk.injEq, true_and]
    omega
  · omega

end Date

/-- The day number of a date, counted from date to date: 1970-01-01 has number zero. -/
inductive IsDay : Date → Int → Prop
  | epoch : IsDay ⟨1970, 1, 1⟩ 0
  | next {d : Date} {n : Int} : IsDay d n → IsDay d.next (n + 1)
  | previous {d : Date} {n : Int} : IsDay d n → IsDay d.previous (n - 1)

theorem dayNumber_of_isDay {d : Date} {n : Int} (h : IsDay d n) : d.Exists ∧ d.dayNumber = n := by
  induction h with
  | epoch => exact ⟨⟨by decide, by decide, by decide, by decide⟩, rfl⟩
  | next _ ih => exact ⟨Date.exists_next ih.1, by rw [Date.dayNumber_next ih.1, ih.2]⟩
  | previous _ ih => exact ⟨Date.exists_previous ih.1, by rw [Date.dayNumber_previous ih.1, ih.2]⟩

/-- Every date is reached, by induction on how far it lies from the first one. -/
theorem isDay_dayNumber {d : Date} (h : d.Exists) : IsDay d d.dayNumber := by
  induction hn : d.dayNumber.natAbs generalizing d with
  | zero =>
    have hzero := Int.natAbs_eq_zero.mp hn
    rw [Date.eq_epoch_of_dayNumber h hzero] at *
    exact hzero ▸ .epoch
  | succ n ih =>
    obtain hpos | hneg : 0 < d.dayNumber ∨ d.dayNumber < 0 := by omega
    · have hnumber := Date.dayNumber_previous h
      have hday := (ih (Date.exists_previous h) (by omega)).next
      rwa [Date.next_previous h, hnumber, Int.sub_add_cancel] at hday
    · have hnumber := Date.dayNumber_next h
      have hday := (ih (Date.exists_next h) (by omega)).previous
      rwa [Date.previous_next h, hnumber, Int.add_sub_cancel] at hday

/-- **The counted day number is the computed one.** -/
theorem isDay_iff {d : Date} (h : d.Exists) {n : Int} : IsDay d n ↔ n = d.dayNumber := by
  constructor
  · intro hday
    exact (dayNumber_of_isDay hday).2.symm
  · rintro rfl
    exact isDay_dayNumber h

end Weblog.Calendar
