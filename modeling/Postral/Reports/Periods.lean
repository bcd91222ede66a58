import Postral.Lib.Calendar
import Postral.Lib.Text
import Postral.Reports.Entity

/-!
# Period labels (`buildPeriodLabel`)

A report is found by the label of its period, and labels are compared as texts.
-/

open Calendar

namespace Postral.Reports

/-- A `Date` as its local getters show it: the date and the milliseconds since midnight. -/
structure DateTime where
  date : Date
  time : ℕ
  time_lt : time < 86400000

def DateTime.getFullYear (d : DateTime) : ℤ := d.date.year

def DateTime.getMonth (d : DateTime) : ℕ := d.date.month

def DateTime.getDate (d : DateTime) : ℕ := d.date.day

/-- `Date` reads the years 0 to 99 as 1900 to 1999. -/
def fullYear (year : ℤ) : ℤ := if 0 ≤ year ∧ year ≤ 99 then 1900 + year else year

/-- The day of `new Date(year, month, day)`, and of `Date.UTC`. -/
def newDate (year month day : ℤ) : ℤ := makeDay (fullYear year) month day

/-- `setDate` and `setUTCDate`. -/
def setDate (n day : ℤ) : ℤ := makeDay (ofNumber n).year (ofNumber n).month day

/-- `getUTCDay`: from Sunday. -/
def getDay (n : ℤ) : ℤ := (n + 4) % 7

/-- `ReportDigestionService.isoWeekNumber`. -/
def isoWeekNumber (date : DateTime) : ℤ :=
  let tmp := newDate date.getFullYear date.getMonth date.getDate
  let tmp := setDate tmp ((ofNumber tmp).day + 4 - (if getDay tmp = 0 then 7 else getDay tmp))
  let yearStart := newDate (yearOf tmp) 0 1
  -- `Math.ceil(days / 7)`
  (tmp - yearStart + 1 + 6) / 7

/-- `String(n).padStart(2, '0')`. -/
def padded (n : ℤ) : String := String.ofList (List.leftpad 2 '0' (toString n).toList)

/-- `ReportDigestionService.buildPeriodLabel`. -/
def buildPeriodLabel (grouping : DateGrouping) (date : DateTime) : String :=
  let y := toString date.getFullYear
  let m := padded (date.getMonth + 1)
  let d := padded date.getDate
  match grouping with
  | .daily => y ++ "-" ++ m ++ "-" ++ d
  | .weekly => y ++ "-W" ++ padded (isoWeekNumber date)
  | .monthly => y ++ "-" ++ m
  | .yearly => y
  | .all => "ALL"

def noon (date : Date) : DateTime := ⟨date, 43200000, by omega⟩

/-- The examples of the service's own tests. -/
example : buildPeriodLabel .daily (noon (ofNumber (newDate 2025 2 5))) = "2025-03-05" ∧
    buildPeriodLabel .weekly (noon (ofNumber (newDate 2024 0 1))) = "2024-W01" := by decide +kernel

theorem setDate_add (n k : ℤ) : setDate n ((ofNumber n).day + k) = n + k := by
  have h := number_ofNumber n
  unfold Date.number at h
  unfold setDate
  rw [makeDay_eq (ofNumber n).month_lt]
  omega

/-! ## Numbers in labels -/

theorem toList_toString {n : ℤ} (h : 0 ≤ n) : (toString n).toList = Nat.toDigits 10 n.toNat := by
  obtain ⟨k, rfl⟩ := Int.eq_ofNat_of_zero_le h
  exact Nat.toList_repr

theorem toList_toString_neg {n : ℤ} (h : n < 0) : (toString n).toList = '-' :: Nat.toDigits 10 n.natAbs := by
  obtain ⟨k, rfl⟩ := Int.eq_negSucc_of_lt_zero h
  simp only [Int.toString_eq_repr, Int.repr, Int.natAbs_negSucc, String.toList_append, Nat.toList_repr]
  rfl

/-- Numbers are made of digits and at most a sign. -/
theorem letter_notMem_toString {c : Char} (hdigit : c.isDigit = false) (hsign : c ≠ '-') (n : ℤ) :
    c ∉ (toString n).toList := by
  have hdigits (k : ℕ) : c ∉ Nat.toDigits 10 k := by
    intro hmem
    have := Nat.isDigit_of_mem_toDigits (by omega) (by omega) hmem
    simp [this] at hdigit
  by_cases h : 0 ≤ n
  · rw [toList_toString h]
    exact hdigits _
  · rw [toList_toString_neg (by omega)]
    simp only [List.mem_cons, not_or]
    exact ⟨hsign, hdigits _⟩

theorem padded_eq {n : ℤ} (h : 0 ≤ n) (hlt : n < 100) : (padded n).toList = Text.decimal 2 n.toNat := by
  unfold padded
  rw [String.toList_ofList, toList_toString h, Text.leftpad_toDigits (by omega) (by omega)]

theorem padded_neg {n : ℤ} (h : n < 0) : (padded n).toList = (toString n).toList := by
  unfold padded
  have := Nat.length_toDigits_pos (b := 10) (n := n.natAbs)
  rw [String.toList_ofList, toList_toString_neg h, List.leftpad, List.length_cons,
    Nat.sub_eq_zero_of_le (by omega), List.replicate_zero, List.nil_append]

/-- Padding does not lose the number. -/
theorem value_padded {n : ℤ} (h : 0 ≤ n) : Nat.ofDigitChars 10 (padded n).toList 0 = n.toNat := by
  unfold padded
  rw [String.toList_ofList, toList_toString h, List.leftpad, Nat.ofDigitChars_append]
  simp

theorem dash_mem_padded (n : ℤ) : '-' ∈ (padded n).toList ↔ n < 0 := by
  by_cases h : n < 0
  · rw [padded_neg h, toList_toString_neg h]
    simp [h]
  · have hdigits : '-' ∉ Nat.toDigits 10 n.toNat := by
      intro hmem
      exact absurd (Nat.isDigit_of_mem_toDigits (by omega) (by omega) hmem) (by decide)
    unfold padded
    rw [String.toList_ofList, toList_toString (by omega), List.leftpad]
    simp [h, hdigits]

theorem padded_inj {n m : ℤ} : padded n = padded m ↔ n = m := by
  constructor
  · intro h
    have hsign := dash_mem_padded n
    rw [h, dash_mem_padded m] at hsign
    by_cases hn : n < 0
    · have heq := congrArg String.toList h
      rw [padded_neg hn, padded_neg (by omega), String.toList_inj, Int.toString_eq_repr, Int.toString_eq_repr] at heq
      exact Int.repr_inj.mp heq
    · have hvalue := congrArg (fun s => Nat.ofDigitChars 10 s.toList 0) h
      simp only [value_padded (by omega : 0 ≤ n), value_padded (by omega : 0 ≤ m)] at hvalue
      omega
  · exact congrArg _

/-- A year of four digits. -/
def FourDigits (year : ℤ) : Prop := 1000 ≤ year ∧ year ≤ 9999

instance (year : ℤ) : Decidable (FourDigits year) := by
  unfold FourDigits
  infer_instance

theorem fourDigits_eq {year : ℤ} (h : FourDigits year) : (toString year).toList = Text.decimal 4 year.toNat := by
  obtain ⟨hle, hlt⟩ := h
  have hlength := (Nat.length_toDigits_le_iff (n := year.toNat) (by omega : 1 < 10) (by omega : 0 < 3)).not.mpr (by omega)
  rw [← Text.leftpad_toDigits (by omega) (by omega), toList_toString (by omega), List.leftpad,
    Nat.sub_eq_zero_of_le (by omega), List.replicate_zero, List.nil_append]

end Postral.Reports
