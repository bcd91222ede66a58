import Postral.Reports.Periods

/-!
# The labels of a series (`SellerReportSeriesService.periodLabels`)

The labels are of the last periods, one after the other up to the current one. Reports are searched
between the first and the last label.
-/

open Calendar

namespace Postral.Reports

inductive SellerReportGrouping where
  | daily
  | monthly
  | yearly
  deriving DecidableEq, Repr

def SellerReportGrouping.toGrouping : SellerReportGrouping → DateGrouping
  | daily => .daily
  | monthly => .monthly
  | yearly => .yearly

/-- `setMonth`, with the day of the date. -/
def setMonth (n month : ℤ) : ℤ := makeDay (ofNumber n).year month (ofNumber n).day

def setFullYear (n year : ℤ) : ℤ := makeDay year (ofNumber n).month (ofNumber n).day

/-- The first cursor: a noon, in the local calendar. -/
def firstCursor (grouping : SellerReportGrouping) (now : DateTime) : ℤ :=
  newDate now.getFullYear (if grouping = .yearly then 0 else now.getMonth) (if grouping = .daily then now.getDate else 1)

def stepBack (grouping : SellerReportGrouping) (cursor : ℤ) : ℤ :=
  match grouping with
  | .daily => setDate cursor ((ofNumber cursor).day - 1)
  | .monthly => setMonth cursor ((ofNumber cursor).month - 1)
  | .yearly => setFullYear cursor ((ofNumber cursor).year - 1)

/-- The loop of `periodLabels`. -/
def unshiftLabels (grouping : SellerReportGrouping) : ℕ → ℤ → List String → List String
  | 0, _, labels => labels
  | size + 1, cursor, labels =>
    unshiftLabels grouping size (stepBack grouping cursor)
      (buildPeriodLabel grouping.toGrouping (noon (ofNumber cursor)) :: labels)

/-- `SellerReportSeriesService.periodLabels`. -/
def periodLabels (grouping : SellerReportGrouping) (size : ℕ) (now : DateTime) : List String :=
  unshiftLabels grouping size (firstCursor grouping now) []

/-- `BillingService.todayPeriodLabel`. -/
def todayPeriodLabel (now : DateTime) : String :=
  toString now.getFullYear ++ "-" ++ padded (now.getMonth + 1) ++ "-" ++ padded now.getDate

/-- March has more days than the months around it. -/
example : periodLabels .monthly 3 (noon (ofNumber (newDate 2024 2 31))) = ["2024-01", "2024-02", "2024-03"] ∧
    periodLabels .daily 2 (noon (ofNumber (newDate 2024 2 1))) = ["2024-02-29", "2024-03-01"] := by decide +kernel

/-! ## Periods -/

/-- The number of the period that a date is in. -/
def periodIndex (grouping : SellerReportGrouping) (date : Date) : ℤ :=
  match grouping with
  | .daily => date.number
  | .monthly => 12 * date.year + date.month
  | .yearly => date.year

/-- The label of a date is the label of its period. -/
theorem label_eq_of_periodIndex {grouping : SellerReportGrouping} {a b : DateTime}
    (h : periodIndex grouping a.date = periodIndex grouping b.date) :
    buildPeriodLabel grouping.toGrouping a = buildPeriodLabel grouping.toGrouping b := by
  have := a.date.month_lt
  have := b.date.month_lt
  cases grouping with
  | daily =>
    have hdate : a.date = b.date := Date.number_injective h
    simp [SellerReportGrouping.toGrouping, buildPeriodLabel, DateTime.getFullYear, DateTime.getMonth, DateTime.getDate, hdate]
  | monthly =>
    simp only [periodIndex] at h
    have hyear : a.date.year = b.date.year := by omega
    have hmonth : a.date.month = b.date.month := by omega
    simp [SellerReportGrouping.toGrouping, buildPeriodLabel, DateTime.getFullYear, DateTime.getMonth, hyear, hmonth]
  | yearly =>
    simp only [periodIndex] at h
    simp [SellerReportGrouping.toGrouping, buildPeriodLabel, DateTime.getFullYear, h]

section Order

variable {a b : DateTime}

theorem monthly_toList (ha : FourDigits a.date.year) : (buildPeriodLabel .monthly a).toList =
    Text.decimal 4 a.date.year.toNat ++ (['-'] ++ Text.decimal 2 (a.date.month + 1)) := by
  have := a.date.month_lt
  have hmonth : (padded (a.date.month + 1)).toList = Text.decimal 2 (a.date.month + 1) :=
    padded_eq (by omega) (by omega)
  simp only [buildPeriodLabel, DateTime.getFullYear, DateTime.getMonth, String.toList_append, fourDigits_eq ha, hmonth]
  simp

theorem daily_toList (ha : FourDigits a.date.year) : (buildPeriodLabel .daily a).toList =
    Text.decimal 4 a.date.year.toNat ++ (['-'] ++ (Text.decimal 2 (a.date.month + 1) ++
      (['-'] ++ Text.decimal 2 a.date.day))) := by
  have := a.date.day_le
  have := daysInMonth_le a.date.year a.date.month_lt
  have hmonthly := monthly_toList ha
  have hday : (padded a.date.day).toList = Text.decimal 2 a.date.day := padded_eq (by omega) (by omega)
  simp only [buildPeriodLabel] at hmonthly ⊢
  rw [String.toList_append, String.toList_append, hmonthly, DateTime.getDate, hday]
  simp

theorem year_lt_iff (ha : FourDigits a.date.year) (hb : FourDigits b.date.year) :
    Text.decimal 4 a.date.year.toNat < Text.decimal 4 b.date.year.toNat ↔ a.date.year < b.date.year := by
  obtain ⟨hle, hlt⟩ := ha
  obtain ⟨hle', hlt'⟩ := hb
  rw [Text.decimal_lt_iff (by omega) (by omega)]
  omega

theorem year_eq_iff (ha : FourDigits a.date.year) (hb : FourDigits b.date.year) :
    Text.decimal 4 a.date.year.toNat = Text.decimal 4 b.date.year.toNat ↔ a.date.year = b.date.year := by
  obtain ⟨hle, hlt⟩ := ha
  obtain ⟨hle', hlt'⟩ := hb
  rw [Text.decimal_inj (by omega) (by omega)]
  omega

/-- Labels are ordered like their periods. -/
theorem label_lt_iff (grouping : SellerReportGrouping) (ha : FourDigits a.date.year) (hb : FourDigits b.date.year) :
    buildPeriodLabel grouping.toGrouping a < buildPeriodLabel grouping.toGrouping b ↔
      periodIndex grouping a.date < periodIndex grouping b.date := by
  have := a.date.month_lt
  have := b.date.month_lt
  rw [String.lt_iff_toList_lt]
  cases grouping with
  | yearly =>
    have hlabel (d : DateTime) : buildPeriodLabel SellerReportGrouping.yearly.toGrouping d = toString d.date.year := rfl
    rw [hlabel, hlabel, fourDigits_eq ha, fourDigits_eq hb]
    exact year_lt_iff ha hb
  | monthly =>
    change (buildPeriodLabel .monthly a).toList < (buildPeriodLabel .monthly b).toList ↔ _
    rw [monthly_toList ha, monthly_toList hb, Text.append_lt_append_iff (by simp), Text.append_lt_append_iff rfl,
      year_lt_iff ha hb, year_eq_iff ha hb, Text.decimal_lt_iff (by omega) (by omega)]
    simp only [lt_irrefl, false_or, true_and, periodIndex]
    omega
  | daily =>
    have := a.date.day_le
    have := b.date.day_le
    have := daysInMonth_le a.date.year a.date.month_lt
    have := daysInMonth_le b.date.year b.date.month_lt
    change (buildPeriodLabel .daily a).toList < (buildPeriodLabel .daily b).toList ↔ _
    rw [daily_toList ha, daily_toList hb, Text.append_lt_append_iff (by simp), Text.append_lt_append_iff rfl,
      Text.append_lt_append_iff (by simp), Text.append_lt_append_iff rfl, year_lt_iff ha hb, year_eq_iff ha hb,
      Text.decimal_lt_iff (by omega) (by omega), Text.decimal_lt_iff (by omega) (by omega),
      Text.decimal_inj (by omega) (by omega)]
    simp only [lt_irrefl, false_or, true_and, periodIndex, Date.number_lt_iff]
    omega

end Order

/-! ## The cursor -/

/-- The cursor is at the start of its month or year, so that no step overflows. -/
def Aligned (grouping : SellerReportGrouping) (date : Date) : Prop :=
  match grouping with
  | .daily => True
  | .monthly => date.day = 1
  | .yearly => date.month = 0 ∧ date.day = 1

theorem first_cursor_spec (grouping : SellerReportGrouping) {now : DateTime} (hnow : FourDigits now.date.year) :
    Aligned grouping (ofNumber (firstCursor grouping now)) ∧
      periodIndex grouping (ofNumber (firstCursor grouping now)) = periodIndex grouping now.date := by
  have hyear : fullYear now.date.year = now.date.year := by
    obtain ⟨hle, -⟩ := hnow
    exact if_neg (by omega)
  have hmonth := now.date.month_lt
  unfold firstCursor newDate DateTime.getFullYear DateTime.getMonth DateTime.getDate
  rw [hyear]
  cases grouping with
  | daily =>
    refine ⟨trivial, ?_⟩
    simp [periodIndex, makeDay_date]
  | monthly =>
    obtain ⟨hy, hm, hd⟩ := ofNumber_first now.date.year now.date.month
    simp only [Aligned, periodIndex]
    refine ⟨hd, ?_⟩
    simp only [reduceCtorEq, if_false, hy, hm]
    omega
  | yearly =>
    obtain ⟨hy, hm, hd⟩ := ofNumber_first now.date.year 0
    simp only [Aligned, periodIndex]
    exact ⟨⟨by simpa using hm, by simpa using hd⟩, by simpa using hy⟩

/-- A step goes to the period before. -/
theorem step_back_spec {grouping : SellerReportGrouping} {cursor : ℤ} (h : Aligned grouping (ofNumber cursor)) :
    Aligned grouping (ofNumber (stepBack grouping cursor)) ∧
      periodIndex grouping (ofNumber (stepBack grouping cursor)) = periodIndex grouping (ofNumber cursor) - 1 := by
  cases grouping with
  | daily =>
    have hstep : setDate cursor ((ofNumber cursor).day - 1) = cursor - 1 := by
      rw [sub_eq_add_neg, setDate_add, ← sub_eq_add_neg]
    simp [Aligned, periodIndex, stepBack, hstep]
  | monthly =>
    have hday : (ofNumber cursor).day = 1 := h
    have := (ofNumber cursor).month_lt
    obtain ⟨hy, hm, hd⟩ := ofNumber_first (ofNumber cursor).year ((ofNumber cursor).month - 1)
    simp only [Aligned, periodIndex, stepBack, setMonth, hday, Nat.cast_one]
    refine ⟨hd, ?_⟩
    rw [hy, hm]
    omega
  | yearly =>
    obtain ⟨hmonth, hday⟩ : (ofNumber cursor).month = 0 ∧ (ofNumber cursor).day = 1 := h
    obtain ⟨hy, hm, hd⟩ := ofNumber_first ((ofNumber cursor).year - 1) 0
    simp only [Aligned, periodIndex, stepBack, setFullYear, hmonth, hday, Nat.cast_zero, Nat.cast_one]
    exact ⟨⟨by simpa using hm, hd⟩, by simpa using hy⟩

/-- The loop puts the labels of consecutive periods in front. -/
theorem unshift_labels_spec {grouping : SellerReportGrouping} (size : ℕ) {cursor : ℤ} (labels : List String)
    (h : Aligned grouping (ofNumber cursor)) :
    ∃ dates : List DateTime,
      unshiftLabels grouping size cursor labels = dates.map (buildPeriodLabel grouping.toGrouping) ++ labels ∧
      dates.map (fun d => periodIndex grouping d.date) =
        (List.range size).map fun i : ℕ => periodIndex grouping (ofNumber cursor) - size + 1 + i := by
  induction size generalizing cursor labels with
  | zero => exact ⟨[], rfl, rfl⟩
  | succ size ih =>
    obtain ⟨haligned, hindex⟩ := step_back_spec h
    obtain ⟨dates, hlabels, hperiods⟩ :=
      ih (buildPeriodLabel grouping.toGrouping (noon (ofNumber cursor)) :: labels) haligned
    refine ⟨dates ++ [noon (ofNumber cursor)], ?_, ?_⟩
    · rw [unshiftLabels, hlabels]
      simp
    · rw [List.map_append, hperiods, hindex, List.range_succ, List.map_append]
      congr 1
      · apply List.map_congr_left
        intro i _
        push_cast
        ring
      · simp only [noon, List.map_cons, List.map_nil, List.cons.injEq, and_true]
        push_cast
        ring

/-- The periods from the year 1000 up to now have years of four digits. -/
theorem fourDigits_of_periodIndex (grouping : SellerReportGrouping) {a now : DateTime} (hnow : FourDigits now.date.year)
    (hle : periodIndex grouping (ofNumber (newYear 1000)) ≤ periodIndex grouping a.date)
    (hlt : periodIndex grouping a.date ≤ periodIndex grouping now.date) : FourDigits a.date.year := by
  obtain ⟨-, hend⟩ := hnow
  have hfirst : (ofNumber (newYear 1000)).year = 1000 := by decide
  have := a.date.month_lt
  have := now.date.month_lt
  unfold FourDigits
  cases grouping with
  | daily =>
    simp only [periodIndex] at hle hlt
    rw [← not_lt] at hle hlt
    have hstart : ¬ a.date.year < (ofNumber (newYear 1000)).year := fun h => hle (Date.number_lt_of_year h)
    have hlast : ¬ now.date.year < a.date.year := fun h => hlt (Date.number_lt_of_year h)
    omega
  | monthly =>
    simp only [periodIndex, hfirst] at hle hlt
    omega
  | yearly =>
    simp only [periodIndex, hfirst] at hle hlt
    omega

/-- **Labels of a series.** -/
theorem series_labels (grouping : SellerReportGrouping) (size : ℕ) (now : DateTime) (hnow : FourDigits now.date.year)
    (hsize : periodIndex grouping (ofNumber (newYear 1000)) + size ≤ periodIndex grouping now.date + 1) :
    (∃ dates : List DateTime,
      periodLabels grouping size now = dates.map (buildPeriodLabel grouping.toGrouping) ∧
      dates.map (fun d => periodIndex grouping d.date) =
        (List.range size).map fun i : ℕ => periodIndex grouping now.date - size + 1 + i) ∧
    (periodLabels grouping size now).length = size ∧
    (periodLabels grouping size now).Pairwise (· < ·) ∧
    (0 < size → (periodLabels grouping size now).getLast? = some (buildPeriodLabel grouping.toGrouping now)) ∧
    (∀ a b : DateTime, FourDigits a.date.year → FourDigits b.date.year →
      (buildPeriodLabel grouping.toGrouping a < buildPeriodLabel grouping.toGrouping b ↔
        periodIndex grouping a.date < periodIndex grouping b.date)) ∧
    (∀ a : DateTime, FourDigits a.date.year →
      (buildPeriodLabel .daily a < todayPeriodLabel now ↔ a.date.number < now.date.number)) := by
  obtain ⟨haligned, hfirst⟩ := first_cursor_spec grouping hnow
  obtain ⟨dates, hlabels, hperiods⟩ := unshift_labels_spec size [] haligned
  rw [List.append_nil] at hlabels
  rw [hfirst] at hperiods
  have hlength : dates.length = size := by simpa using congrArg List.length hperiods
  have hdigits : ∀ d ∈ dates, FourDigits d.date.year := by
    intro d hd
    have hmem := List.mem_map_of_mem (f := fun d : DateTime => periodIndex grouping d.date) hd
    rw [hperiods] at hmem
    obtain ⟨i, hi, hindex⟩ := List.mem_map.mp hmem
    rw [List.mem_range] at hi
    exact fourDigits_of_periodIndex grouping hnow (by omega) (by omega)
  refine ⟨⟨dates, hlabels, hperiods⟩, ?_, ?_, ?_, fun a b ha hb => label_lt_iff grouping ha hb, fun a ha => ?_⟩
  · rw [periodLabels, hlabels, List.length_map, hlength]
  · have hascending : (dates.map (fun d => periodIndex grouping d.date)).Pairwise (· < ·) := by
      rw [hperiods, List.pairwise_map]
      exact List.pairwise_lt_range.imp fun h => by omega
    rw [periodLabels, hlabels, List.pairwise_map]
    rw [List.pairwise_map] at hascending
    exact hascending.imp_of_mem fun ha hb h => (label_lt_iff grouping (hdigits _ ha) (hdigits _ hb)).mpr h
  · intro hpos
    obtain ⟨k, rfl⟩ := Nat.exists_eq_add_one.mpr hpos
    have hlast := congrArg List.getLast? hperiods
    rw [List.getLast?_map, List.range_succ, List.map_append, List.map_singleton, List.getLast?_append] at hlast
    obtain ⟨d, hd, hindex⟩ := Option.map_eq_some_iff.mp hlast
    rw [periodLabels, hlabels, List.getLast?_map, hd, Option.map_some]
    congr 1
    apply label_eq_of_periodIndex
    rw [hindex, List.getLast_singleton]
    push_cast
    ring
  · exact label_lt_iff .daily ha hnow

/-- The last three months, from 31 March. -/
theorem series_labels_march :
    (periodLabels .monthly 3 (noon (ofNumber (newDate 2024 2 31)))).Pairwise (· < ·) ∧
      (periodLabels .monthly 3 (noon (ofNumber (newDate 2024 2 31)))).getLast? = some "2024-03" := by
  obtain ⟨-, -, hascending, hlast, -⟩ :=
    series_labels .monthly 3 (noon (ofNumber (newDate 2024 2 31))) (by decide) (by decide +kernel)
  have hlabel : buildPeriodLabel .monthly (noon (ofNumber (newDate 2024 2 31))) = "2024-03" := by decide +kernel
  exact ⟨hascending, (hlast (by omega)).trans (congrArg some hlabel)⟩

end Postral.Reports
