import Mathlib.Data.Nat.Notation
import Mathlib.Logic.Function.Basic

/-!
# Locks that calls hold

A call holds at most one lock of a kind, and takes it only where no other call holds it.
-/

/-- Who holds each lock. -/
structure Locks (κ : Type) where
  holder : κ → Option ℕ

namespace Locks

section

variable {κ : Type}

def none : Locks κ := ⟨fun _ => Option.none⟩

/-- `call` may hold `held` next. -/
def Grants (locks : Locks κ) (call : ℕ) (held : Option κ) : Prop :=
  ∀ k ∈ held, locks.holder k = Option.none ∨ locks.holder k = some call

/-- Every call has the lock that it is to hold. -/
def Held (locks : Locks κ) (held : ℕ → Option κ) : Prop := ∀ call, ∀ k ∈ held call, locks.holder k = some call

theorem held_none : (none : Locks κ).Held fun _ => Option.none := by
  intro call k hk
  simp at hk

/-- No two calls hold one lock. -/
theorem Held.exclusive {locks : Locks κ} {held : ℕ → Option κ} (h : locks.Held held) {call other : ℕ} {k : κ}
    (hcall : k ∈ held call) (hother : k ∈ held other) : call = other := by
  have hsame := (h call k hcall).symm.trans (h other k hother)
  exact Option.some.inj hsame

end

variable {κ : Type} [DecidableEq κ]

instance (locks : Locks κ) (call : ℕ) (held : Option κ) : Decidable (locks.Grants call held) := by
  unfold Grants
  infer_instance

/-- `call` holds `held`, and no other lock any more. -/
def move (locks : Locks κ) (call : ℕ) (held : Option κ) : Locks κ where
  holder k :=
    if held = some k then some call
    else if locks.holder k = some call then Option.none
    else locks.holder k

theorem Held.move {locks : Locks κ} {held : ℕ → Option κ} (h : locks.Held held) {call : ℕ} {next : Option κ}
    (hgrants : locks.Grants call next) : (locks.move call next).Held (Function.update held call next) := by
  intro c k hk
  by_cases hc : c = call
  · subst hc
    rw [Function.update_self] at hk
    exact if_pos hk
  · rw [Function.update_of_ne hc] at hk
    have hholder := h c k hk
    unfold Locks.move
    dsimp only
    split <;> rename_i hnext
    · rcases hgrants k hnext with hfree | hown
      · rw [hholder] at hfree
        simp at hfree
      · exact absurd (Option.some.inj (hholder.symm.trans hown)) hc
    · rw [if_neg (by rw [hholder]; simpa using hc), hholder]

end Locks
