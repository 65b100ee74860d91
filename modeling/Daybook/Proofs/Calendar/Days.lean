import Daybook.Calendar.Date

/-!
# Days in order

The number of a day orders dates as year, month and day do (`le_iff_dayNumber_le`): years begin one
behind the other with the days of a year between them (`daysBeforeYear_succ`), and so do the months
of a year (`daysBeforeMonth_succ`).
-/

namespace Daybook.Calendar.Date

/-- The days of a year. -/
def daysInYear (year : Int) : Nat :=
  if isLeapYear year then 366 else 365

theorem daysBeforeYear_succ (year : Int) :
    daysBeforeYear (year + 1) = daysBeforeYear year + daysInYear year := by
  unfold daysBeforeYear daysInYear isLeapYear
  by_cases h4 : year % 4 = 0 <;> by_cases h100 : year % 100 = 0 <;>
    by_cases h400 : year % 400 = 0 <;> simp [h4, h100, h400] <;> omega

theorem daysBeforeYear_mono {a b : Int} (h : a ≤ b) : daysBeforeYear a ≤ daysBeforeYear b := by
  unfold daysBeforeYear
  dsimp only
  omega

theorem daysBeforeMonth_succ (year : Int) {month : Nat} (h : 0 < month) :
    daysBeforeMonth year (month + 1) = daysBeforeMonth year month + daysInMonth year month := by
  obtain ⟨m, rfl⟩ := Nat.exists_eq_succ_of_ne_zero (Nat.ne_of_gt h)
  unfold daysBeforeMonth
  simp [List.range_succ]

theorem daysBeforeMonth_mono (year : Int) {a b : Nat} (ha : 0 < a) (h : a < b) :
    daysBeforeMonth year a + daysInMonth year a ≤ daysBeforeMonth year b := by
  induction h with
  | refl => exact Nat.le_of_eq (daysBeforeMonth_succ year ha).symm
  | @step b h ih =>
      have hb : 0 < b := Nat.lt_trans ha h
      rw [daysBeforeMonth_succ year hb]
      exact Nat.le_trans ih (Nat.le_add_right _ _)

/-- The months of a year make up the year. -/
theorem daysBeforeMonth_thirteen (year : Int) : daysBeforeMonth year 13 = daysInYear year := by
  unfold daysBeforeMonth daysInYear daysInMonth
  cases isLeapYear year <;> rfl

/-- The number of a date within its year, counted from zero. -/
def dayOfYear (d : Date) : Nat :=
  daysBeforeMonth d.year d.month + (d.day - 1)

theorem dayNumber_eq (d : Date) :
    d.dayNumber = daysBeforeYear d.year - daysBeforeYear 1970 + d.dayOfYear := by
  unfold dayNumber dayOfYear
  omega

/-- What a valid date is, apart from the range of years. -/
theorem bounds_of_isValid {d : Date} (h : d.isValid = true) :
    (1 ≤ d.month ∧ d.month ≤ 12) ∧ 1 ≤ d.day ∧ d.day ≤ daysInMonth d.year d.month := by
  unfold isValid at h
  simp only [Bool.and_eq_true, decide_eq_true_eq] at h
  omega

section

variable {a b : Date} (ha : a.isValid = true) (hb : b.isValid = true)

include ha

theorem dayOfYear_lt : a.dayOfYear < daysInYear a.year := by
  obtain ⟨⟨hmonth, hmonth'⟩, hday, hday'⟩ := bounds_of_isValid ha
  have hlast : daysBeforeMonth a.year a.month + daysInMonth a.year a.month
      ≤ daysBeforeMonth a.year 13 :=
    daysBeforeMonth_mono a.year hmonth (Nat.lt_succ_of_le hmonth')
  rw [daysBeforeMonth_thirteen] at hlast
  unfold dayOfYear
  omega

theorem dayOfYear_lt_of_month (hyear : a.year = b.year) (hmonth : a.month < b.month) :
    a.dayOfYear < b.dayOfYear := by
  obtain ⟨⟨hfirst, -⟩, hday, hday'⟩ := bounds_of_isValid ha
  have hnext := daysBeforeMonth_mono a.year hfirst hmonth
  unfold dayOfYear
  rw [← hyear]
  omega

theorem dayNumber_lt_of_year (hyear : a.year < b.year) : a.dayNumber < b.dayNumber := by
  have hlast := dayOfYear_lt ha
  have hsucc := daysBeforeYear_succ a.year
  have hmono : daysBeforeYear (a.year + 1) ≤ daysBeforeYear b.year := daysBeforeYear_mono hyear
  rw [dayNumber_eq, dayNumber_eq]
  omega

include hb

/-- Valid dates stand in the order of their numbers. -/
theorem le_iff_dayNumber_le : a.le b = true ↔ a.dayNumber ≤ b.dayNumber := by
  have hle : a.le b = true ↔ a.year < b.year ∨ a.year = b.year
      ∧ (a.month < b.month ∨ a.month = b.month ∧ a.day ≤ b.day) := by
    simp [le]
  rw [hle]
  rcases Int.lt_trichotomy a.year b.year with hyear | hyear | hyear
  · have hlt := dayNumber_lt_of_year ha hyear
    omega
  · have hnumbers : a.dayNumber ≤ b.dayNumber ↔ a.dayOfYear ≤ b.dayOfYear := by
      rw [dayNumber_eq, dayNumber_eq, hyear]
      omega
    rw [hnumbers]
    rcases Nat.lt_trichotomy a.month b.month with hmonth | hmonth | hmonth
    · have hlt := dayOfYear_lt_of_month ha hyear hmonth
      omega
    · obtain ⟨-, hday, -⟩ := bounds_of_isValid ha
      obtain ⟨-, hday', -⟩ := bounds_of_isValid hb
      unfold dayOfYear
      rw [hyear, hmonth]
      omega
    · have hlt := dayOfYear_lt_of_month hb hyear.symm hmonth
      omega
  · have hlt := dayNumber_lt_of_year hb hyear
    omega

end

end Daybook.Calendar.Date
