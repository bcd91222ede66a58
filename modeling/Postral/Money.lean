import Postral.Basic
import Postral.Lib.Rounding

/-!
# Money columns and decimal arithmetic

A JavaScript number stands for the decimal it prints, so number arithmetic through `big.js` is
exact except where `big.js` rounds. A `MoneyDbField` column is an integer, in ten-thousandths.
-/

open Check Rounding

namespace Postral

/-- `MoneyDbField.from`: a `decimal(19, 4)` column as a number. -/
def fromColumn (m : ℤ) : ℚ := m / 10000

/-- `MoneyDbField.to`: `new Big(v || 0).toFixed(4)`. -/
def toColumn (v : ℚ) : ℤ := roundAway (v * 10000)

/-- The digits of a column after the point. -/
theorem columnDigits_pos : 0 < 4 := by decide

/-- `Big.prototype.round(dp)`, half up. -/
def round (v : ℚ) (dp : ℕ) : ℚ := roundAway (v * 10 ^ dp) / 10 ^ dp

/-- `Big.prototype.div`: `Big.DP` is 20 and `Big.RM` is half up. -/
def div (a b : ℚ) : ℚ := round (a / b) 20

/-! ## AmountCalculationUtil -/

section Amount

variable {α : Type}

def addNumberValues [Zero α] [Add α] (values : List α) : α := values.foldl (· + ·) 0

def minusNumberValues [Sub α] (initialValue : α) (values : List α) : α := values.foldl (· - ·) initialValue

def multiplyNumberValues [One α] [Mul α] (values : List α) : α := values.foldl (· * ·) 1

@[simp]
theorem addNumberValues_eq_sum [AddCommMonoid α] (values : List α) : addNumberValues values = values.sum := by
  rw [addNumberValues, List.sum_eq_foldl]

@[simp]
theorem minusNumberValues_eq_sub_sum [AddCommGroup α] (initialValue : α) (values : List α) :
    minusNumberValues initialValue values = initialValue - values.sum := by
  unfold minusNumberValues
  induction values generalizing initialValue with
  | nil => simp
  | cons v vs ih => rw [List.foldl_cons, ih, List.sum_cons, sub_sub]

end Amount

def divideNumberValues (initialValue : ℚ) (values : List ℚ) : Except HttpError ℚ := do
  if initialValue = 0 then
    return 0
  let divisor := multiplyNumberValues values
  require (divisor ≠ 0) (.internal "Division by zero is not allowed")
  return div initialValue divisor

def calculateComissionAmountByPercent (amount percent : ℚ) : Except HttpError ℚ :=
  divideNumberValues (multiplyNumberValues [amount, percent]) [100]

/-! ## Reading and writing a column -/

@[simp]
theorem toColumn_fromColumn (m : ℤ) : toColumn (fromColumn m) = m := by
  unfold toColumn fromColumn
  rw [div_mul_cancel₀ _ (by norm_num), roundAway_intCast]

theorem fromColumn_le_fromColumn {m n : ℤ} : fromColumn m ≤ fromColumn n ↔ m ≤ n := by
  unfold fromColumn
  rw [div_le_div_iff_of_pos_right (by norm_num), Int.cast_le]

theorem fromColumn_sum (ms : List ℤ) : (ms.map fromColumn).sum = fromColumn ms.sum := by
  induction ms with
  | nil => simp [fromColumn]
  | cons m ms ih => simp only [List.map_cons, List.sum_cons, ih, fromColumn, Int.cast_add, add_div]

theorem toColumn_mono : Monotone toColumn := by
  intro v w h
  exact roundAway_mono (mul_le_mul_of_nonneg_right h (by norm_num))

theorem toColumn_nonneg {v : ℚ} (h : 0 ≤ v) : 0 ≤ toColumn v :=
  roundAway_nonneg (mul_nonneg h (by norm_num))

theorem round_mono (dp : ℕ) : Monotone fun v => round v dp := by
  intro v w h
  have hpos : (0 : ℚ) < 10 ^ dp := by positivity
  simp only [round]
  gcongr
  exact roundAway_mono (mul_le_mul_of_nonneg_right h hpos.le)

theorem round_nonneg {v : ℚ} (h : 0 ≤ v) (dp : ℕ) : 0 ≤ round v dp := by
  have hpos : (0 : ℚ) < 10 ^ dp := by positivity
  exact div_nonneg (by exact_mod_cast roundAway_nonneg (mul_nonneg h hpos.le)) hpos.le

end Postral
