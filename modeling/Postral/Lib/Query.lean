import Mathlib

/-! # The first row of an order -/

namespace Rows

variable {ρ : Type} {f : ρ → ℤ} {rows rows' : List ρ} {r : ρ}

/-- `ORDER BY f DESC LIMIT 1`. Which of several rows comes first is left to the order of `rows`. -/
def top (f : ρ → ℤ) (rows : List ρ) : Option ρ := @List.argmax ρ ℤ Int.instLinearOrder.toPreorder _ f rows

theorem top_eq_none : top f rows = none ↔ rows = [] := List.argmax_eq_none

theorem mem_of_top (h : top f rows = some r) : r ∈ rows := List.argmax_mem h

theorem le_of_top (h : top f rows = some r) {other : ρ} (hother : other ∈ rows) : f other ≤ f r :=
  List.le_of_mem_argmax hother h

/-- Rows that `f` orders strictly have one first row, however they are listed. -/
theorem top_eq_of_mem_iff (hinj : ∀ r ∈ rows, ∀ r' ∈ rows, f r = f r' → r = r') (h : ∀ r, r ∈ rows ↔ r ∈ rows') :
    top f rows = top f rows' := by
  cases hrows : top f rows with
  | none =>
    rw [top_eq_none] at hrows
    subst hrows
    symm
    rw [top_eq_none, List.eq_nil_iff_forall_not_mem]
    intro r hr
    simpa using (h r).mpr hr
  | some r =>
    cases hrows' : top f rows' with
    | none =>
      rw [top_eq_none] at hrows'
      subst hrows'
      simpa using (h r).mp (mem_of_top hrows)
    | some r' =>
      have hr := mem_of_top hrows
      have hr' := (h r').mpr (mem_of_top hrows')
      have hle := le_of_top hrows hr'
      have hle' := le_of_top hrows' ((h r).mp hr)
      rw [hinj r hr r' hr' (le_antisymm hle' hle)]

/-- A row that no other one exceeds comes first where it is listed first. -/
theorem top_cons_of_le (h : ∀ other ∈ rows, f other ≤ f r) : top f (r :: rows) = some r := by
  unfold top
  rw [List.argmax_cons]
  cases hrows : @List.argmax ρ ℤ Int.instLinearOrder.toPreorder _ f rows with
  | none => rfl
  | some other => exact if_neg (not_lt.mpr (h other (List.argmax_mem hrows)))

end Rows
