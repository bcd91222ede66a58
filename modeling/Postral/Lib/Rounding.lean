import Mathlib

/-! # Rounding to an integer, half away from zero -/

namespace Rounding

/-- The nearest integer. A half goes away from zero. -/
def roundAway (x : ℚ) : ℤ := if 0 ≤ x then ⌊x + 1 / 2⌋ else -⌊-x + 1 / 2⌋

/-- Drops the fraction. -/
def truncate (x : ℚ) : ℤ := if 0 ≤ x then ⌊x⌋ else -⌊-x⌋

/-- The next integer away from zero. -/
def roundUp (x : ℚ) : ℤ := if 0 ≤ x then ⌈x⌉ else -⌈-x⌉

theorem roundAway_of_nonneg {x : ℚ} (h : 0 ≤ x) : roundAway x = ⌊x + 1 / 2⌋ := if_pos h

theorem roundAway_of_neg {x : ℚ} (h : x < 0) : roundAway x = -⌊-x + 1 / 2⌋ := if_neg (not_le.mpr h)

@[simp]
theorem roundAway_zero : roundAway 0 = 0 := by
  rw [roundAway_of_nonneg le_rfl]
  norm_num

theorem roundAway_neg (x : ℚ) : roundAway (-x) = -roundAway x := by
  rcases lt_trichotomy x 0 with h | rfl | h
  · rw [roundAway_of_neg h, roundAway_of_nonneg (by linarith)]
    ring
  · simp
  · rw [roundAway_of_nonneg h.le, roundAway_of_neg (by linarith), neg_neg]

@[simp]
theorem roundAway_intCast (n : ℤ) : roundAway n = n := by
  have hfloor : ∀ m : ℤ, ⌊(m : ℚ) + 1 / 2⌋ = m := by
    intro m
    rw [Int.floor_eq_iff]
    constructor <;> linarith
  rcases le_or_gt 0 (n : ℚ) with h | h
  · rw [roundAway_of_nonneg h, hfloor]
  · rw [roundAway_of_neg h, show -(n : ℚ) = ((-n : ℤ) : ℚ) by push_cast; rfl, hfloor, neg_neg]

theorem roundAway_nonneg {x : ℚ} (h : 0 ≤ x) : 0 ≤ roundAway x := by
  rw [roundAway_of_nonneg h, Int.floor_nonneg]
  linarith

theorem roundAway_nonpos {x : ℚ} (h : x ≤ 0) : roundAway x ≤ 0 := by
  have := roundAway_nonneg (x := -x) (by linarith)
  rw [roundAway_neg] at this
  omega

/-- Where a nonnegative value is rounded to at most `n`. -/
theorem roundAway_le_iff {x : ℚ} (h : 0 ≤ x) (n : ℤ) : roundAway x ≤ n ↔ x < n + 1 / 2 := by
  rw [roundAway_of_nonneg h, Int.floor_le_iff]
  constructor <;> intro hx <;> linarith

theorem le_roundAway_iff {x : ℚ} (h : 0 ≤ x) (n : ℤ) : n ≤ roundAway x ↔ (n : ℚ) - 1 / 2 ≤ x := by
  rw [roundAway_of_nonneg h, Int.le_floor]
  constructor <;> intro hx <;> linarith

/-- Where a nonnegative value is rounded to `n`. -/
theorem roundAway_eq_iff {x : ℚ} (h : 0 ≤ x) (n : ℤ) :
    roundAway x = n ↔ (n : ℚ) - 1 / 2 ≤ x ∧ x < n + 1 / 2 := by
  rw [← roundAway_le_iff h, ← le_roundAway_iff h]
  omega

theorem roundAway_mono : Monotone roundAway := by
  intro x y hxy
  rcases le_or_gt 0 x with hx | hx
  · rw [roundAway_of_nonneg hx, roundAway_of_nonneg (hx.trans hxy)]
    exact Int.floor_mono (by linarith)
  · rcases le_or_gt 0 y with hy | hy
    · exact (roundAway_nonpos hx.le).trans (roundAway_nonneg hy)
    · rw [roundAway_of_neg hx, roundAway_of_neg hy, neg_le_neg_iff]
      exact Int.floor_mono (by linarith)

/-- Rounding moves a value by half a unit at most. -/
theorem abs_roundAway_sub_le (x : ℚ) : |(roundAway x : ℚ) - x| ≤ 1 / 2 := by
  have hnonneg : ∀ y : ℚ, 0 ≤ y → |(roundAway y : ℚ) - y| ≤ 1 / 2 := by
    intro y hy
    obtain ⟨hlow, hhigh⟩ := (roundAway_eq_iff hy _).mp rfl
    rw [abs_le]
    constructor <;> linarith
  rcases le_or_gt 0 x with h | h
  · exact hnonneg x h
  · have := hnonneg (-x) (by linarith)
    rw [roundAway_neg, Int.cast_neg, abs_sub_comm] at this
    rwa [show -x - -(roundAway x : ℚ) = roundAway x - x by ring] at this

/-- What is no half is rounded to the nearest integer on both sides of zero. -/
theorem roundAway_of_fract_ne {x : ℚ} (h : Int.fract x ≠ 1 / 2) : roundAway x = ⌊x + 1 / 2⌋ := by
  rcases le_or_gt 0 x with hx | hx
  · exact roundAway_of_nonneg hx
  · rw [roundAway_of_neg hx, neg_eq_iff_eq_neg, Int.floor_eq_iff]
    have hlow := Int.floor_le (x + 1 / 2)
    have hhigh := Int.lt_floor_add_one (x + 1 / 2)
    have hne : (⌊x + 1 / 2⌋ : ℚ) ≠ x + 1 / 2 := by
      intro heq
      apply h
      rw [Int.fract_eq_iff]
      exact ⟨by norm_num, by norm_num, ⌊x + 1 / 2⌋ - 1, by push_cast; linarith⟩
    have hlt := lt_of_le_of_ne hlow hne
    push_cast
    constructor <;> linarith

/-- An integer can be added after rounding, unless a half changes its side of zero. -/
theorem roundAway_add_intCast {x : ℚ} {n : ℤ} (h : Int.fract x ≠ 1 / 2 ∨ (0 ≤ x ↔ 0 ≤ x + n)) :
    roundAway (x + n) = roundAway x + n := by
  rcases h with h | h
  · rw [roundAway_of_fract_ne h, roundAway_of_fract_ne (by rwa [Int.fract_add_intCast]),
      add_right_comm, Int.floor_add_intCast]
  · rcases le_or_gt 0 x with hx | hx
    · rw [roundAway_of_nonneg hx, roundAway_of_nonneg (h.mp hx), add_right_comm, Int.floor_add_intCast]
    · have hxn : x + n < 0 := not_le.mp fun hxn => absurd (h.mpr hxn) (not_le.mpr hx)
      rw [roundAway_of_neg hx, roundAway_of_neg hxn, show -(x + n) + 1 / 2 = -x + 1 / 2 + ((-n : ℤ) : ℚ) by push_cast; ring,
        Int.floor_add_intCast]
      ring

/-- The two parts of a nonnegative integer are rounded to parts of it, unless they are halves. -/
theorem roundAway_add_roundAway_sub_iff {x : ℚ} {n : ℤ} (hx : 0 ≤ x) (hxn : x ≤ n) :
    roundAway x + roundAway (n - x) = n ↔ Int.fract x ≠ 1 / 2 := by
  constructor
  · intro hsum hhalf
    have hx' : x + 1 / 2 = ((⌊x⌋ + 1 : ℤ) : ℚ) := by
      rw [Int.fract] at hhalf
      push_cast
      linarith
    have hrest : (n : ℚ) - x + 1 / 2 = ((n - ⌊x⌋ : ℤ) : ℚ) := by
      push_cast at hx' ⊢
      linarith
    rw [roundAway_of_nonneg hx, roundAway_of_nonneg (by linarith), hx', hrest, Int.floor_intCast, Int.floor_intCast] at hsum
    omega
  · intro hhalf
    have hneg : Int.fract (-x) ≠ 1 / 2 := by
      intro h
      apply hhalf
      have hne : Int.fract x ≠ 0 := by
        intro hzero
        rw [Int.fract_neg_eq_zero.mpr hzero] at h
        norm_num at h
      rw [Int.fract_neg hne] at h
      linarith
    rw [sub_eq_add_neg, add_comm (n : ℚ), roundAway_add_intCast (.inl hneg), roundAway_neg]
    omega

/-! ## Rounding a list -/

/-- What rounding every value adds to the sum. -/
def accumulatedError (xs : List ℚ) : ℚ := (xs.map fun x => (roundAway x : ℚ) - x).sum

/-- The accumulated error is one that rounding the sum makes as well: at most half a unit, and the
half itself only away from zero. -/
def StaysWithinHalf (xs : List ℚ) : Prop :=
  if 0 ≤ xs.sum then -(1 / 2) < accumulatedError xs ∧ accumulatedError xs ≤ 1 / 2
  else -(1 / 2) ≤ accumulatedError xs ∧ accumulatedError xs < 1 / 2

instance (xs : List ℚ) : Decidable (StaysWithinHalf xs) := by
  unfold StaysWithinHalf
  infer_instance

theorem sum_add_accumulatedError (xs : List ℚ) :
    xs.sum + accumulatedError xs = ((xs.map roundAway).sum : ℤ) := by
  unfold accumulatedError
  induction xs with
  | nil => simp
  | cons x xs ih =>
    simp only [List.map_cons, List.sum_cons, Int.cast_add, ← ih]
    ring

/-- Rounding one by one and rounding the sum agree exactly when the errors stay within half a unit. -/
theorem sum_roundAway_eq_iff (xs : List ℚ) : (xs.map roundAway).sum = roundAway xs.sum ↔ StaysWithinHalf xs := by
  have herror := sum_add_accumulatedError xs
  unfold StaysWithinHalf
  split <;> rename_i hsum
  · rw [eq_comm, roundAway_eq_iff hsum, ← herror]
    constructor <;> rintro ⟨hlow, hhigh⟩ <;> constructor <;> linarith
  · have hneg : 0 ≤ -xs.sum := by linarith
    rw [eq_comm, ← neg_inj, ← roundAway_neg, roundAway_eq_iff hneg, Int.cast_neg, ← herror]
    constructor <;> rintro ⟨hlow, hhigh⟩ <;> constructor <;> linarith

/-- Rounding adds a unit to the whole part where at least half a unit is cut off. -/
theorem roundAway_eq_floor_add {x : ℚ} (h : 0 ≤ x) : roundAway x = ⌊x⌋ + if 1 / 2 ≤ Int.fract x then 1 else 0 := by
  rw [roundAway_of_nonneg h, Int.floor_eq_iff]
  have hx := Int.floor_add_fract x
  have hlow := Int.fract_nonneg x
  have hhigh := Int.fract_lt_one x
  split <;> push_cast <;> constructor <;> linarith

theorem sum_roundAway_of_nonneg {xs : List ℚ} (h : ∀ x ∈ xs, 0 ≤ x) :
    (xs.map roundAway).sum = (xs.map Int.floor).sum + xs.countP fun x => 1 / 2 ≤ Int.fract x := by
  induction xs with
  | nil => rfl
  | cons x xs ih =>
    rw [List.map_cons, List.sum_cons, roundAway_eq_floor_add (h x List.mem_cons_self),
      ih fun y hy => h y (List.mem_cons_of_mem _ hy), List.map_cons, List.sum_cons, List.countP_cons]
    simp only [decide_eq_true_eq]
    push_cast
    ring

theorem truncate_of_nonneg {x : ℚ} (h : 0 ≤ x) : truncate x = ⌊x⌋ := if_pos h

end Rounding
