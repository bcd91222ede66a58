import Postral.Reports.Periods

/-!
# Weekly labels

The label joins the calendar year of the day with the number of its week, which may be a week of
another year.
-/

open Calendar

namespace Postral.Reports

/-! ## The number of the week -/

/-- The day that `Date.UTC` makes of a date. -/
def DateTime.utcDay (d : DateTime) : ℤ := newDate d.getFullYear d.getMonth d.getDate

theorem utcDay_eq {d : DateTime} (h : ¬ (0 ≤ d.date.year ∧ d.date.year ≤ 99)) : d.utcDay = d.date.number := by
  unfold DateTime.utcDay newDate fullYear
  rw [if_neg (by exact h)]
  exact makeDay_date d.date

/-- The date stays in the year that `Date.UTC` reads, also as 29 February of a year that has none. -/
theorem yearOf_utcDay (d : DateTime) : yearOf d.utcDay = fullYear d.date.year := by
  have hinside : daysBeforeMonth (fullYear d.date.year) d.date.month + d.date.day ≤ 365 + leapDay (fullYear d.date.year) := by
    have hday := d.date.day_le
    by_cases hmonth : d.date.month < 2
    · have := leapDay_le d.date.year
      unfold daysInMonth daysBeforeMonth at *
      split at hday <;> split <;> omega
    · apply daysBeforeMonth_lt d.date.month_lt
      unfold daysInMonth daysBeforeMonth at *
      rw [if_neg (by omega), if_neg hmonth] at *
      omega
  have hpos := d.date.day_pos
  rw [yearOf_eq_iff, newYear_succ]
  unfold DateTime.utcDay newDate DateTime.getFullYear DateTime.getMonth DateTime.getDate
  rw [makeDay_eq d.date.month_lt]
  omega

theorem newDate_newYear (year : ℤ) : newDate year 0 1 = newYear (fullYear year) := by
  have h : makeDay (fullYear year) (0 : ℕ) 1 = _ := makeDay_eq (by omega) 1
  unfold newDate
  simpa [daysBeforeMonth] using h

/-- The code goes to the Thursday of the week. -/
theorem isoWeekNumber_eq (d : DateTime) :
    isoWeekNumber d = (thursday d.utcDay - newYear (fullYear (isoYear d.utcDay)) + 7) / 7 := by
  have hthursday : setDate d.utcDay ((ofNumber d.utcDay).day + 4 - (if getDay d.utcDay = 0 then 7 else getDay d.utcDay)) =
      thursday d.utcDay := by
    rw [add_sub_assoc, setDate_add]
    unfold getDay thursday week
    split <;> omega
  unfold DateTime.utcDay at hthursday
  simp only [isoWeekNumber, hthursday, newDate_newYear]
  rw [add_assoc]
  rfl

theorem isoWeekNumber_of_year {d : DateTime} (h : ¬ (0 ≤ isoYear d.utcDay ∧ isoYear d.utcDay ≤ 99)) :
    isoWeekNumber d = isoWeek d.utcDay := by
  rw [isoWeekNumber_eq, fullYear, if_neg h, isoWeek]
  omega

theorem newYear_zero : newYear 0 = -719528 := by decide

theorem newYear_hundred : newYear 100 = -683003 := by decide

/-- The year of the week is read as one of 1900 to 1999 on the first days of the year 100 only. -/
theorem isoYear_utcDay (d : DateTime) :
    ¬ (0 ≤ isoYear d.utcDay ∧ isoYear d.utcDay ≤ 99) ∨ (d.date.year = 100 ∧ week d.utcDay = -97572) := by
  have hcalendar := yearOf_utcDay d
  have hnear := isoYear_near d.utcDay
  have hyear := yearOf_spec d.utcDay
  have hweek := yearOf_spec (thursday d.utcDay)
  have hthursday := thursday_near d.utcDay
  by_cases h : 0 ≤ isoYear d.utcDay ∧ isoYear d.utcDay ≤ 99
  · right
    unfold fullYear at hcalendar
    split at hcalendar
    · omega
    · rw [hcalendar] at hnear hyear
      by_cases hbefore : d.date.year = -1
      · -- the first days of the year 0 are in a week of the year -1
        have hzero : yearOf (thursday d.utcDay) = 0 := by unfold isoYear at *; omega
        rw [hbefore, show (-1 : ℤ) + 1 = 0 from rfl] at hyear
        rw [hzero] at hweek
        rw [newYear_zero] at *
        unfold thursday at *
        omega
      · have hhundred : d.date.year = 100 := by omega
        have hlast : yearOf (thursday d.utcDay) = 99 := by unfold isoYear at *; omega
        refine ⟨hhundred, ?_⟩
        rw [hhundred] at hyear
        rw [hlast, show (99 : ℤ) + 1 = 100 from rfl] at hweek
        rw [newYear_hundred] at *
        unfold thursday at *
        omega
  · exact Or.inl h

theorem newYear_hundred_one : newYear 101 = -682638 := by decide

/-- The first days of the year 100 are in week 53, and no other days of it. -/
theorem isoWeek_hundred {d : DateTime} (hyear : d.date.year = 100) :
    isoWeek d.utcDay = 53 ↔ week d.utcDay = -97572 := by
  constructor
  · intro hweek
    have hcalendar : yearOf d.utcDay = 100 := by rw [yearOf_utcDay, hyear]; rfl
    have hnear := isoYear_near d.utcDay
    have hspec := yearOf_spec d.utcDay
    have hthursday := thursday_near d.utcDay
    have hbegin := isoYear_spec d.utcDay
    have hend := (yearOf_spec (thursday d.utcDay)).2
    rw [hcalendar] at hnear hspec
    rw [show (100 : ℤ) + 1 = 101 from rfl, newYear_hundred, newYear_hundred_one] at hspec
    unfold isoWeek at hweek
    change _ < newYear (isoYear d.utcDay + 1) at hend
    obtain hprev | hsame | hnext : isoYear d.utcDay = 99 ∨ isoYear d.utcDay = 100 ∨ isoYear d.utcDay = 101 := by omega
    · rw [hprev, show (99 : ℤ) + 1 = 100 from rfl, newYear_hundred] at hend
      unfold thursday at *
      omega
    · rw [hsame, newYear_hundred] at hbegin hweek
      rw [hsame, show (100 : ℤ) + 1 = 101 from rfl, newYear_hundred_one] at hend
      unfold thursday at *
      omega
    · rw [hnext, newYear_hundred_one] at hbegin hweek
      unfold thursday at *
      omega
  · intro hweek
    simp only [isoWeek, isoYear, thursday, hweek]
    decide

/-- The numbers tell the weeks of a calendar year apart as their ISO numbers do. -/
theorem isoWeekNumber_eq_iff {a b : DateTime} (h : a.date.year = b.date.year) :
    isoWeekNumber a = isoWeekNumber b ↔ isoWeek a.utcDay = isoWeek b.utcDay := by
  -- the numbers of the first days of the year 100 are negative
  have hfirst (d : DateTime) (hweek : week d.utcDay = -97572) : isoWeekNumber d = -99085 := by
    simp only [isoWeekNumber_eq, isoYear, thursday, hweek]
    decide
  have hmem (d : DateTime) := isoWeek_mem d.utcDay
  have hother (d : DateTime) (hnot : ¬ (d.date.year = 100 ∧ week d.utcDay = -97572)) : isoWeekNumber d = isoWeek d.utcDay :=
    isoWeekNumber_of_year ((isoYear_utcDay d).resolve_right hnot)
  by_cases hyear : a.date.year = 100
  · have hlast := isoWeek_hundred hyear
    have hlast' := isoWeek_hundred (h.symm.trans hyear)
    have := hmem a
    have := hmem b
    by_cases ha : week a.utcDay = -97572 <;> by_cases hb : week b.utcDay = -97572
    · rw [hfirst a ha, hfirst b hb]
      omega
    · rw [hfirst a ha, hother b (by simp [hb])]
      omega
    · rw [hother a (by simp [ha]), hfirst b hb]
      omega
    · rw [hother a (by simp [ha]), hother b (by simp [hb])]
  · rw [hother a (by simp [hyear]), hother b (by simp [← h, hyear])]

/-! ## The labels -/

/-- Both days lie in one week, from Monday to Sunday. -/
def SameWeek (a b : DateTime) : Prop := week a.date.number = week b.date.number

instance (a b : DateTime) : Decidable (SameWeek a b) := by
  unfold SameWeek
  infer_instance

theorem weekly_toList (d : DateTime) : (buildPeriodLabel .weekly d).toList =
    ((toString d.date.year).toList ++ ['-']) ++ 'W' :: (padded (isoWeekNumber d)).toList := by
  simp [buildPeriodLabel, DateTime.getFullYear]

theorem weekly_eq_iff {a b : DateTime} : buildPeriodLabel .weekly a = buildPeriodLabel .weekly b ↔
    a.date.year = b.date.year ∧ isoWeek a.utcDay = isoWeek b.utcDay := by
  have hno (d : DateTime) : 'W' ∉ (toString d.date.year).toList ++ ['-'] := by
    rw [List.mem_append, not_or]
    exact ⟨letter_notMem_toString (by decide) (by decide) _, by decide⟩
  rw [← String.toList_inj, weekly_toList, weekly_toList, Text.join_eq_iff_of_notMem (hno a) (hno b),
    List.append_left_inj, String.toList_inj, String.toList_inj, padded_inj, Int.toString_eq_repr, Int.toString_eq_repr,
    Int.repr_inj]
  exact and_congr_right isoWeekNumber_eq_iff

theorem utcDay_of_fourDigits {d : DateTime} (h : FourDigits d.date.year) : d.utcDay = d.date.number := by
  obtain ⟨hle, -⟩ := h
  exact utcDay_eq (by omega)

theorem isoWeekNumber_of_fourDigits {d : DateTime} (h : FourDigits d.date.year) :
    isoWeekNumber d = isoWeek d.date.number := by
  have hutc := utcDay_of_fourDigits h
  have hnear := isoYear_near d.date.number
  obtain ⟨hle, -⟩ := h
  rw [Date.yearOf_number] at hnear
  rw [isoWeekNumber_of_year (by rw [hutc]; omega), hutc]

theorem weekly_lt_iff {a b : DateTime} (ha : FourDigits a.date.year) (hb : FourDigits b.date.year) :
    buildPeriodLabel .weekly a < buildPeriodLabel .weekly b ↔ a.date.year < b.date.year ∨
      (a.date.year = b.date.year ∧ isoWeek a.date.number < isoWeek b.date.number) := by
  have hweek := isoWeek_mem a.date.number
  have hweek' := isoWeek_mem b.date.number
  have hlist (d : DateTime) (hd : FourDigits d.date.year) : (buildPeriodLabel .weekly d).toList =
      Text.decimal 4 d.date.year.toNat ++ (['-', 'W'] ++ Text.decimal 2 (isoWeek d.date.number).toNat) := by
    have := isoWeek_mem d.date.number
    rw [weekly_toList, fourDigits_eq hd, isoWeekNumber_of_fourDigits hd, padded_eq (by omega) (by omega)]
    simp
  rw [String.lt_iff_toList_lt, hlist a ha, hlist b hb, Text.append_lt_append_iff (by simp),
    Text.append_lt_append_iff rfl]
  obtain ⟨hle, hlt⟩ := ha
  obtain ⟨hle', hlt'⟩ := hb
  rw [Text.decimal_lt_iff (by omega) (by omega), Text.decimal_lt_iff (by omega) (by omega),
    Text.decimal_inj (by omega) (by omega)]
  simp only [lt_irrefl, false_or, true_and]
  omega

/-- The labels tell weeks apart, and order the weeks of years of four digits. -/
def WeeklyLabels (a b : DateTime) : Prop :=
  (buildPeriodLabel .weekly a = buildPeriodLabel .weekly b ↔ SameWeek a b) ∧
  (FourDigits a.date.year → FourDigits b.date.year → ¬ SameWeek a b →
    (buildPeriodLabel .weekly a < buildPeriodLabel .weekly b ↔ a.date.number < b.date.number) ∧
    (buildPeriodLabel .weekly b < buildPeriodLabel .weekly a ↔ b.date.number < a.date.number))

/-- Where the calendar year and the week number say which week it is. The years 0 to 99 have the
numbers of 1900 to 1999. -/
def WeekWithinYear (a b : DateTime) : Prop :=
  if SameWeek a b then a.date.year = b.date.year ∧ isoWeek a.utcDay = isoWeek b.utcDay
  else a.date.year = b.date.year → isoWeek a.utcDay ≠ isoWeek b.utcDay ∧
    (FourDigits a.date.year → isoYear a.date.number = isoYear b.date.number)

theorem weekly_order {a b : DateTime} (ha : FourDigits a.date.year) (hb : FourDigits b.date.year) (hweek : ¬ SameWeek a b)
    (h : a.date.year = b.date.year → isoYear a.date.number = isoYear b.date.number) :
    buildPeriodLabel .weekly a < buildPeriodLabel .weekly b ↔ a.date.number < b.date.number := by
  rw [weekly_lt_iff ha hb]
  rcases lt_trichotomy a.date.year b.date.year with hyear | hyear | hyear
  · simp [hyear, Date.number_lt_of_year hyear]
  · rw [isoWeek_lt_iff (h hyear), lt_iff_week_lt hweek]
    simp [hyear]
  · have := Date.number_lt_of_year hyear
    omega

/-- Of two days of a calendar year, the one of the later year of weeks does not have the later label. -/
theorem weekly_disorder {a b : DateTime} (ha : FourDigits a.date.year) (hb : FourDigits b.date.year)
    (hyear : a.date.year = b.date.year) (hiso : isoYear a.date.number < isoYear b.date.number) :
    ¬ (buildPeriodLabel .weekly a < buildPeriodLabel .weekly b ↔ a.date.number < b.date.number) := by
  have hle : isoWeek b.date.number ≤ isoWeek a.date.number := isoWeek_le_of_isoYear_lt (by simpa using hyear) hiso
  rw [weekly_lt_iff ha hb]
  have := lt_of_isoYear_lt hiso
  omega

/-- **Weekly labels.** -/
theorem weekly_labels_iff (a b : DateTime) : WeeklyLabels a b ↔ WeekWithinYear a b := by
  unfold WeeklyLabels WeekWithinYear
  rw [weekly_eq_iff]
  by_cases hweek : SameWeek a b
  · simp [hweek]
  · rw [if_neg hweek]
    constructor
    · rintro ⟨hlabel, horder⟩ hyear
      refine ⟨fun hnumber => hweek (hlabel.mp ⟨hyear, hnumber⟩), fun ha => ?_⟩
      have hb : FourDigits b.date.year := hyear ▸ ha
      obtain ⟨hab, hba⟩ := horder ha hb hweek
      rcases lt_trichotomy (isoYear a.date.number) (isoYear b.date.number) with hiso | hiso | hiso
      · exact absurd hab (weekly_disorder ha hb hyear hiso)
      · exact hiso
      · exact absurd hba (weekly_disorder hb ha hyear.symm hiso)
    · intro h
      refine ⟨⟨fun hlabel => absurd hlabel.2 (h hlabel.1).1, fun hsame => absurd hsame hweek⟩, fun ha hb _ => ⟨?_, ?_⟩⟩
      · exact weekly_order ha hb hweek fun hyear => (h hyear).2 ha
      · exact weekly_order hb ha (fun hsame => hweek hsame.symm) fun hyear => ((h hyear.symm).2 ha).symm

/-! The last Monday of 2024 is in the first week of 2025. -/

def january : DateTime := noon (ofNumber (newDate 2024 0 3))

def december : DateTime := noon (ofNumber (newDate 2024 11 30))

theorem weeks_share_label : buildPeriodLabel .weekly january = "2024-W01" ∧
    buildPeriodLabel .weekly december = "2024-W01" ∧ ¬ SameWeek january december := by
  decide +kernel

end Postral.Reports
