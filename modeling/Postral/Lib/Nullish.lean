import Mathlib

/-! # Values that may be missing -/

/-- A value, `null` or `undefined`. -/
inductive Nullish (α : Type) where
  | undefined
  | null
  | value (a : α)
  deriving DecidableEq, Repr

namespace Nullish

variable {α : Type}

def toOption : Nullish α → Option α
  | undefined | null => none
  | value a => some a

/-- `x ?? a`. -/
def getD (x : Nullish α) (a : α) : α := x.toOption.getD a

/-- What `+` makes of a text. -/
def text : Nullish String → String
  | undefined => "undefined"
  | null => "null"
  | value s => s

def ofOption : Option α → Nullish α
  | none => null
  | some a => value a

/-- What a column holds after a save: an `undefined` field is left out of the statement. -/
def assign (x : Nullish α) (stored : Option α) : Option α :=
  match x with
  | undefined => stored
  | null => none
  | value a => some a

@[simp]
theorem assign_of_ne {x : Nullish α} (h : x ≠ undefined) (stored : Option α) : x.assign stored = x.toOption := by
  cases x <;> simp_all [assign, toOption]

@[simp]
theorem toOption_ofOption (x : Option α) : (ofOption x).toOption = x := by
  cases x <;> rfl

@[simp]
theorem getD_value (a b : α) : (value a).getD b = a := rfl

@[simp]
theorem text_value (s : String) : (value s).text = s := rfl

end Nullish
