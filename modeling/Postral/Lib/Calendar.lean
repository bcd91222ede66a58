import Mathlib

/-!
# The Gregorian calendar

Days are numbered from 1 January 1970, months from 0. Years before 1583 are counted as if the
calendar had been in use.
-/

namespace Calendar

/-! ## Years -/

def IsLeap (year : ℤ) : Prop := year % 4 = 0 ∧ (year % 100 ≠ 0 ∨ year % 400 = 0)

instance (year : ℤ) : Decidable (IsLeap year) := by
  unfold IsLeap
  infer_instance

/-- The day that 1 January is. -/
def newYear (year : ℤ) : ℤ :=
  365 * (year - 1970) + (year - 1969) / 4 - (year - 1901) / 100 + (year - 1601) / 400

def leapDay (year : ℤ) : ℕ := if IsLeap year then 1 else 0

theorem leapDay_le (year : ℤ) : leapDay year ≤ 1 := by
  unfold leapDay
  split <;> omega

theorem newYear_succ (year : ℤ) : newYear (year + 1) = newYear year + 365 + leapDay year := by
  by_cases hleap : IsLeap year
  · rw [leapDay, if_pos hleap]
    unfold newYear IsLeap at *
    omega
  · rw [leapDay, if_neg hleap]
    unfold newYear IsLeap at *
    omega

theorem newYear_strictMono : StrictMono newYear := by
  apply strictMono_int_of_lt_succ
  intro year
  rw [newYear_succ]
  omega

/-- 400 years have 146097 days. -/
theorem newYear_bounds (year : ℤ) :
    146097 * (year - 1970) - 1000 ≤ 400 * newYear year ∧ 400 * newYear year ≤ 146097 * (year - 1970) + 1000 := by
  unfold newYear
  omega

/-- The year of a day. The estimate is off by at most one year. -/
def yearOf (n : ℤ) : ℤ :=
  let estimate := 1970 + 400 * n / 146097
  if n < newYear estimate then estimate - 1
  else if newYear (estimate + 1) ≤ n then estimate + 1
  else estimate

theorem yearOf_spec (n : ℤ) : newYear (yearOf n) ≤ n ∧ n < newYear (yearOf n + 1) := by
  have hbounds (year : ℤ) := newYear_bounds year
  simp only [yearOf]
  split
  · have := hbounds (1970 + 400 * n / 146097 - 1)
    rw [sub_add_cancel]
    omega
  · split
    · have := hbounds (1970 + 400 * n / 146097 + 1 + 1)
      omega
    · omega

theorem yearOf_eq_iff {n year : ℤ} : yearOf n = year ↔ newYear year ≤ n ∧ n < newYear (year + 1) := by
  obtain ⟨hle, hlt⟩ := yearOf_spec n
  constructor
  · rintro rfl
    exact ⟨hle, hlt⟩
  · rintro ⟨hle', hlt'⟩
    have h := newYear_strictMono.lt_iff_lt.mp (lt_of_le_of_lt hle hlt')
    have h' := newYear_strictMono.lt_iff_lt.mp (lt_of_le_of_lt hle' hlt)
    omega

/-! ## Months and dates -/

/-- From March on, the months have 31, 30, 31, 30 and 31 days, over and over. -/
def daysBeforeMonth (year : ℤ) (month : ℕ) : ℕ :=
  if month < 2 then 31 * month else 59 + leapDay year + (153 * (month - 2) + 2) / 5

def daysInMonth (year : ℤ) (month : ℕ) : ℕ := daysBeforeMonth year (month + 1) - daysBeforeMonth year month

example : (List.range 12).map (daysInMonth 2024) = [31, 29, 31, 30, 31, 30, 31, 31, 30, 31, 30, 31] := by decide

theorem daysBeforeMonth_succ (year : ℤ) (month : ℕ) :
    daysBeforeMonth year (month + 1) = daysBeforeMonth year month + daysInMonth year month := by
  have hle : daysBeforeMonth year month ≤ daysBeforeMonth year (month + 1) := by
    unfold daysBeforeMonth
    split <;> split <;> omega
  unfold daysInMonth
  omega

theorem daysBeforeMonth_mono (year : ℤ) : Monotone (daysBeforeMonth year) := by
  apply monotone_nat_of_le_succ
  intro month
  rw [daysBeforeMonth_succ]
  omega

theorem daysBeforeMonth_twelve (year : ℤ) : daysBeforeMonth year 12 = 365 + leapDay year := by
  simp [daysBeforeMonth]
  omega

/-- The day of a year that a day of a month is, where the month has that day. -/
theorem daysBeforeMonth_lt {year : ℤ} {month day : ℕ} (hmonth : month < 12) (hday : day ≤ daysInMonth year month) :
    daysBeforeMonth year month + day ≤ 365 + leapDay year := by
  have hmono : daysBeforeMonth year (month + 1) ≤ daysBeforeMonth year 12 := daysBeforeMonth_mono year hmonth
  rw [daysBeforeMonth_succ, daysBeforeMonth_twelve] at hmono
  omega

theorem daysInMonth_le (year : ℤ) {month : ℕ} (hmonth : month < 12) : daysInMonth year month ≤ 31 := by
  have := leapDay_le year
  unfold daysInMonth daysBeforeMonth
  split <;> split <;> omega

theorem daysInMonth_pos {year : ℤ} {month : ℕ} (hmonth : month < 12) : 1 ≤ daysInMonth year month := by
  have := leapDay_le year
  unfold daysInMonth daysBeforeMonth
  split <;> split <;> omega

/-- The month of a day of a year. -/
def monthOf (year : ℤ) (k : ℕ) : ℕ :=
  if k < 31 then 0 else if k < 59 + leapDay year then 1 else 2 + (5 * (k - 59 - leapDay year) + 2) / 153

theorem monthOf_spec {year : ℤ} {k : ℕ} (hk : k < 365 + leapDay year) :
    monthOf year k < 12 ∧ daysBeforeMonth year (monthOf year k) ≤ k ∧ k < daysBeforeMonth year (monthOf year k + 1) := by
  have hleap := leapDay_le year
  unfold monthOf
  split
  · refine ⟨by omega, ?_⟩
    simp [daysBeforeMonth]
    omega
  · split
    · refine ⟨by omega, ?_⟩
      simp [daysBeforeMonth]
      omega
    · refine ⟨by omega, ?_⟩
      unfold daysBeforeMonth
      rw [if_neg (by omega), if_neg (by omega)]
      omega

@[ext]
structure Date where
  year : ℤ
  month : ℕ
  day : ℕ
  month_lt : month < 12
  day_pos : 1 ≤ day
  day_le : day ≤ daysInMonth year month
  deriving DecidableEq

namespace Date

/-- The number of the day. -/
def number (date : Date) : ℤ := newYear date.year + daysBeforeMonth date.year date.month + date.day - 1

/-- The days of a year, from its first to its last. -/
theorem number_mem (date : Date) : newYear date.year ≤ date.number ∧ date.number < newYear (date.year + 1) := by
  have h := daysBeforeMonth_lt date.month_lt date.day_le
  have := date.day_pos
  rw [newYear_succ]
  unfold number
  omega

@[simp]
theorem yearOf_number (date : Date) : yearOf date.number = date.year := yearOf_eq_iff.mpr date.number_mem

theorem number_lt_of_year {a b : Date} (h : a.year < b.year) : a.number < b.number := by
  have hmono := newYear_strictMono.monotone (by omega : a.year + 1 ≤ b.year)
  have := a.number_mem
  have := b.number_mem
  omega

theorem number_lt_of_month {a b : Date} (hyear : a.year = b.year) (h : a.month < b.month) : a.number < b.number := by
  have hmono := daysBeforeMonth_mono a.year (by omega : a.month + 1 ≤ b.month)
  rw [daysBeforeMonth_succ] at hmono
  have := a.day_le
  have := b.day_pos
  unfold number
  rw [← hyear]
  omega

theorem number_lt_of_day {a b : Date} (hyear : a.year = b.year) (hmonth : a.month = b.month) (h : a.day < b.day) :
    a.number < b.number := by
  unfold number
  rw [← hyear, ← hmonth]
  omega

/-- Days are ordered by year, month and day. -/
theorem number_lt_iff {a b : Date} : a.number < b.number ↔
    a.year < b.year ∨ (a.year = b.year ∧ (a.month < b.month ∨ (a.month = b.month ∧ a.day < b.day))) := by
  constructor
  · intro h
    by_contra hnot
    rcases lt_trichotomy a.year b.year with hyear | hyear | hyear
    · exact hnot (Or.inl hyear)
    · rcases lt_trichotomy a.month b.month with hmonth | hmonth | hmonth
      · exact hnot (Or.inr ⟨hyear, Or.inl hmonth⟩)
      · rcases lt_trichotomy a.day b.day with hday | hday | hday
        · exact hnot (Or.inr ⟨hyear, Or.inr ⟨hmonth, hday⟩⟩)
        · have : a = b := Date.ext hyear hmonth hday
          rw [this] at h
          exact lt_irrefl _ h
        · exact lt_asymm h (number_lt_of_day hyear.symm hmonth.symm hday)
      · exact lt_asymm h (number_lt_of_month hyear.symm hmonth)
    · exact lt_asymm h (number_lt_of_year hyear)
  · rintro (h | ⟨hyear, h | ⟨hmonth, h⟩⟩)
    · exact number_lt_of_year h
    · exact number_lt_of_month hyear h
    · exact number_lt_of_day hyear hmonth h

theorem number_injective : Function.Injective number := by
  intro a b h
  have hab := (number_lt_iff (a := a) (b := b)).not.mp (by omega)
  have hba := (number_lt_iff (a := b) (b := a)).not.mp (by omega)
  apply Date.ext <;> omega

end Date

/-- The day of its year that a day is, from 0. -/
def dayOfYear (n : ℤ) : ℕ := (n - newYear (yearOf n)).toNat

theorem dayOfYear_eq (n : ℤ) : (dayOfYear n : ℤ) = n - newYear (yearOf n) := by
  have := yearOf_spec n
  unfold dayOfYear
  omega

theorem dayOfYear_lt (n : ℤ) : dayOfYear n < 365 + leapDay (yearOf n) := by
  have h := yearOf_spec n
  rw [newYear_succ] at h
  have := dayOfYear_eq n
  omega

/-- The date of a day. -/
def ofNumber (n : ℤ) : Date where
  year := yearOf n
  month := monthOf (yearOf n) (dayOfYear n)
  day := dayOfYear n - daysBeforeMonth (yearOf n) (monthOf (yearOf n) (dayOfYear n)) + 1
  month_lt := (monthOf_spec (dayOfYear_lt n)).1
  day_pos := by omega
  day_le := by
    have := monthOf_spec (dayOfYear_lt n)
    have := daysBeforeMonth_succ (yearOf n) (monthOf (yearOf n) (dayOfYear n))
    omega

@[simp]
theorem number_ofNumber (n : ℤ) : (ofNumber n).number = n := by
  have := monthOf_spec (dayOfYear_lt n)
  have := dayOfYear_eq n
  unfold Date.number
  simp only [ofNumber]
  omega

@[simp]
theorem ofNumber_number (date : Date) : ofNumber date.number = date :=
  Date.number_injective (number_ofNumber _)

/-- The day of a month and a day that may lie outside of the year and of the month. -/
def makeDay (year month day : ℤ) : ℤ :=
  newYear (year + month / 12) + daysBeforeMonth (year + month / 12) (month % 12).toNat + day - 1

theorem makeDay_eq {year : ℤ} {month : ℕ} (h : month < 12) (day : ℤ) :
    makeDay year month day = newYear year + daysBeforeMonth year month + day - 1 := by
  unfold makeDay
  have hdiv : (month : ℤ) / 12 = 0 := by omega
  have hmod : ((month : ℤ) % 12).toNat = month := by omega
  rw [hdiv, hmod, add_zero]

theorem makeDay_date (date : Date) : makeDay date.year date.month date.day = date.number :=
  makeDay_eq date.month_lt date.day

/-- The first day of a month does not overflow. -/
theorem ofNumber_first (year month : ℤ) : (ofNumber (makeDay year month 1)).year = year + month / 12 ∧
    (ofNumber (makeDay year month 1)).month = (month % 12).toNat ∧ (ofNumber (makeDay year month 1)).day = 1 := by
  have hmonth : (month % 12).toNat < 12 := by omega
  have hnumber : makeDay year month 1 = (⟨year + month / 12, _, 1, hmonth, le_rfl, daysInMonth_pos hmonth⟩ : Date).number := by
    simp [makeDay, Date.number]
  simp [hnumber]

/-! ## Weeks -/

/-- Weeks start on a Monday. The first of January 1970 is a Thursday, of week 0. -/
def week (n : ℤ) : ℤ := (n + 3) / 7

def thursday (n : ℤ) : ℤ := 7 * week n

/-- ISO 8601: a week is of the year that its Thursday is in. -/
def isoYear (n : ℤ) : ℤ := yearOf (thursday n)

/-- ISO 8601: the Thursdays of a year number its weeks. -/
def isoWeek (n : ℤ) : ℤ := (thursday n - newYear (isoYear n)) / 7 + 1

/-- The last days of December 2024 are in the first week of 2025. -/
example : (isoYear (makeDay 2024 11 29), isoWeek (makeDay 2024 11 29)) = (2024, 52) ∧
    (isoYear (makeDay 2024 11 30), isoWeek (makeDay 2024 11 30)) = (2025, 1) := by decide

section Weeks

variable {n m : ℤ}

theorem isoYear_spec (n : ℤ) : newYear (isoYear n) ≤ thursday n ∧ thursday n < newYear (isoYear n) + 366 := by
  have h := yearOf_spec (thursday n)
  rw [newYear_succ] at h
  have := leapDay_le (yearOf (thursday n))
  unfold isoYear
  omega

theorem isoWeek_mem (n : ℤ) : 1 ≤ isoWeek n ∧ isoWeek n ≤ 53 := by
  have := isoYear_spec n
  unfold isoWeek
  omega

theorem thursday_near (n : ℤ) : thursday n - 3 ≤ n ∧ n ≤ thursday n + 3 := by
  unfold thursday week
  omega

theorem isoYear_near (n : ℤ) : yearOf n - 1 ≤ isoYear n ∧ isoYear n ≤ yearOf n + 1 := by
  obtain ⟨hle, hlt⟩ := yearOf_spec n
  obtain ⟨hle', hlt'⟩ := yearOf_spec (thursday n)
  have hnear := thursday_near n
  constructor
  · by_contra hfar
    have hmono := newYear_strictMono.monotone (by unfold isoYear at hfar; omega : yearOf (thursday n) + 1 ≤ yearOf n - 1)
    have := newYear_succ (yearOf n - 1)
    rw [sub_add_cancel] at this
    omega
  · by_contra hfar
    have hmono := newYear_strictMono.monotone (by unfold isoYear at hfar; omega : yearOf n + 1 + 1 ≤ yearOf (thursday n))
    rw [newYear_succ (yearOf n + 1)] at hmono
    omega

theorem lt_of_isoYear_lt (h : isoYear n < isoYear m) : n < m := by
  have hn := (yearOf_spec (thursday n)).2
  have hm := (yearOf_spec (thursday m)).1
  have hmono := newYear_strictMono.monotone (by unfold isoYear at h; omega : yearOf (thursday n) + 1 ≤ yearOf (thursday m))
  unfold thursday week at *
  omega

theorem lt_iff_week_lt (h : week n ≠ week m) : n < m ↔ week n < week m := by
  unfold week at *
  omega

/-- Weeks of one year are numbered in their order. -/
theorem isoWeek_lt_iff (hyear : isoYear n = isoYear m) : isoWeek n < isoWeek m ↔ week n < week m := by
  unfold isoWeek
  rw [hyear]
  unfold thursday
  omega

/-- The year and the number of a week say which week it is. -/
theorem week_eq_iff : week n = week m ↔ isoYear n = isoYear m ∧ isoWeek n = isoWeek m := by
  constructor
  · intro h
    simp [isoYear, isoWeek, thursday, h]
  · rintro ⟨hyear, hweek⟩
    have hnm := isoWeek_lt_iff hyear
    have hmn := isoWeek_lt_iff hyear.symm
    omega

/-- In a calendar year, the days of an earlier year of weeks do not have lower numbers. -/
theorem isoWeek_le_of_isoYear_lt (hcalendar : yearOf n = yearOf m) (hyear : isoYear n < isoYear m) :
    isoWeek m ≤ isoWeek n := by
  have hnear := isoYear_near n
  have hnear' := isoYear_near m
  have hweek := isoWeek_mem n
  have hspec := yearOf_spec m
  have hthursday := thursday_near m
  by_cases hnext : isoYear m = yearOf m + 1
  · -- `m` is one of the last days of December, in week 1
    have := isoYear_spec m
    unfold isoWeek at *
    rw [hnext] at this ⊢
    omega
  · -- `n` is one of the first days of January, in the last week of the year before
    have hm : isoYear m = yearOf m := by omega
    have hn : isoYear n = yearOf m - 1 := by omega
    have hbefore := newYear_succ (yearOf m - 1)
    have hafter := newYear_succ (yearOf m)
    have hspec' := yearOf_spec n
    have hnear'' := thursday_near n
    have hend := yearOf_spec (thursday m)
    have hbegin := isoYear_spec n
    have := leapDay_le (yearOf m - 1)
    have := leapDay_le (yearOf m)
    rw [sub_add_cancel] at hbefore
    rw [hcalendar] at hspec'
    unfold isoWeek
    unfold isoYear at hm hn ⊢
    rw [hm] at hend
    rw [hm, hn]
    unfold thursday at *
    omega

end Weeks

end Calendar
