import Mathlib

/-! # Decimal strings with a fixed number of digits after the point -/

/-- Reads `digits.digits` with `dp` digits after the point, in units of the last digit. -/
def parseDecimal (dp : ℕ) (text : String) : Option ℕ :=
  let whole := text.toList.takeWhile Char.isDigit
  match text.toList.dropWhile Char.isDigit with
  | '.' :: fraction =>
    if whole ≠ [] ∧ fraction.length = dp ∧ fraction.all Char.isDigit then
      some (Nat.ofDigitChars 10 (whole ++ fraction) 0)
    else none
  | _ => none

/-- Reads `digits` or `digits.digits`, with any number of digits. -/
def parseNumeral (text : String) : Option ℚ :=
  let whole := text.toList.takeWhile Char.isDigit
  if whole = [] then none
  else match text.toList.dropWhile Char.isDigit with
    | [] => some (Nat.ofDigitChars 10 whole 0)
    | '.' :: fraction =>
      if fraction ≠ [] ∧ fraction.all Char.isDigit then
        some (Nat.ofDigitChars 10 (whole ++ fraction) 0 / 10 ^ fraction.length)
      else none
    | _ => none

theorem parseNumeral_nonneg {text : String} {v : ℚ} (h : parseNumeral text = some v) : 0 ≤ v := by
  unfold parseNumeral at h
  dsimp only at h
  by_cases hwhole : text.toList.takeWhile Char.isDigit = []
  · rw [if_pos hwhole] at h
    exact nomatch h
  · rw [if_neg hwhole] at h
    split at h
    · obtain rfl := Option.some.inj h
      positivity
    · split at h
      · obtain rfl := Option.some.inj h
        positivity
      · exact nomatch h
    · exact nomatch h

/-- A string that `parseDecimal` reads. -/
structure Decimal (dp : ℕ) where
  text : String
  valid : (parseDecimal dp text).isSome
  deriving DecidableEq

namespace Decimal

variable {dp : ℕ}

/-- The value, in units of the last digit. -/
def units (d : Decimal dp) : ℕ := (parseDecimal dp d.text).get d.valid

def value (d : Decimal dp) : ℚ := d.units / 10 ^ dp

def ofText? (dp : ℕ) (text : String) : Option (Decimal dp) :=
  if h : (parseDecimal dp text).isSome then some ⟨text, h⟩ else none

theorem ofText?_eq_some {text : String} {d : Decimal dp} : ofText? dp text = some d ↔ d.text = text := by
  unfold ofText?
  split <;> rename_i h
  · constructor
    · intro heq
      rw [← Option.some.inj heq]
    · rintro rfl
      rfl
  · constructor
    · intro heq
      simp at heq
    · rintro rfl
      exact absurd d.valid h

@[simp]
theorem ofText?_text (d : Decimal dp) : ofText? dp d.text = some d := ofText?_eq_some.mpr rfl

theorem parseNumeral_text (hdp : 0 < dp) (d : Decimal dp) : parseNumeral d.text = some d.value := by
  have hunits : parseDecimal dp d.text = some d.units := (Option.some_get d.valid).symm
  unfold parseDecimal at hunits
  unfold parseNumeral value
  split at hunits
  · rename_i fraction hrest
    dsimp only at hunits ⊢
    split at hunits <;> rename_i h
    · obtain ⟨hwhole, hlen, hdigits⟩ := h
      have hne : fraction ≠ [] := by
        rintro rfl
        simp at hlen
        omega
      rw [if_neg hwhole, hrest]
      simp only [hne, hdigits, ne_eq, not_false_eq_true, and_self, if_true, hlen, ← Option.some.inj hunits]
    · simp at hunits
  · simp at hunits

theorem value_nonneg (d : Decimal dp) : 0 ≤ d.value := by
  unfold value
  positivity

/-! ## Writing -/

/-- `units` with `dp` digits after the point. -/
def render (dp units : ℕ) : String :=
  String.ofList (Nat.toDigits 10 (units / 10 ^ dp) ++ '.' ::
    List.leftpad dp '0' (Nat.toDigits 10 (units % 10 ^ dp)))

theorem all_isDigit_toDigits (n : ℕ) : ∀ c ∈ Nat.toDigits 10 n, c.isDigit :=
  fun _ hc => Nat.isDigit_of_mem_toDigits (by decide) (by decide) hc

/-- The digits after the point of a value below one. -/
theorem fraction_spec (hdp : 0 < dp) {m : ℕ} (hm : m < 10 ^ dp) :
    (List.leftpad dp '0' (Nat.toDigits 10 m)).length = dp ∧
    (∀ c ∈ List.leftpad dp '0' (Nat.toDigits 10 m), c.isDigit) ∧
    Nat.ofDigitChars 10 (List.leftpad dp '0' (Nat.toDigits 10 m)) 0 = m := by
  refine ⟨?_, ?_, ?_⟩
  · have hlen := (Nat.length_toDigits_le_iff (b := 10) (by decide) hdp).mpr hm
    rw [List.length_leftpad]
    omega
  · intro c hc
    simp only [List.leftpad, List.mem_append, List.mem_replicate] at hc
    rcases hc with ⟨-, rfl⟩ | hc
    · rfl
    · exact all_isDigit_toDigits m c hc
  · rw [List.leftpad, Nat.ofDigitChars_append, Nat.ofDigitChars_replicate_zero, Nat.mul_zero, Nat.ofDigitChars_ten_toDigits]

/-- **Round trip.** What is written is read back. -/
theorem parse_render (hdp : 0 < dp) (units : ℕ) : parseDecimal dp (render dp units) = some units := by
  have hmod : units % 10 ^ dp < 10 ^ dp := Nat.mod_lt _ (by positivity)
  obtain ⟨hlen, hdigits, hvalue⟩ := fraction_spec hdp hmod
  have hwhole := all_isDigit_toDigits (units / 10 ^ dp)
  unfold parseDecimal render
  rw [String.toList_ofList, List.takeWhile_append_of_pos hwhole, List.dropWhile_append_of_pos hwhole,
    List.takeWhile_cons_of_neg (by decide), List.dropWhile_cons_of_neg (by decide), List.append_nil]
  have hne : Nat.toDigits 10 (units / 10 ^ dp) ≠ [] := Nat.toDigits_ne_nil
  simp only [hne, hlen, ne_eq, not_false_eq_true, true_and, List.all_eq_true.mpr hdigits, if_true]
  rw [Nat.ofDigitChars_append, Nat.ofDigitChars_ten_toDigits, Nat.ofDigitChars_eq_ofDigitChars_zero, hlen, hvalue,
    Nat.div_add_mod]

/-- The decimal of a value. -/
def ofUnits (dp : ℕ) (hdp : 0 < dp) (units : ℕ) : Decimal dp := ⟨render dp units, by rw [parse_render hdp]; rfl⟩

@[simp]
theorem units_ofUnits (hdp : 0 < dp) (n : ℕ) : (ofUnits dp hdp n).units = n := by
  simp [units, ofUnits, parse_render hdp]

@[simp]
theorem value_ofUnits (hdp : 0 < dp) (n : ℕ) : (ofUnits dp hdp n).value = n / 10 ^ dp := by
  rw [value, units_ofUnits]

end Decimal
