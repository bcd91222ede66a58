import Postral.Money

/-! # Tax calculation (`TaxCalculationUtil`) -/

open Check

namespace Postral

structure TaxDTO where
  taxName : String
  fullAmount : ℚ
  percent : ℚ
  taxAmount : ℚ
  untaxAmount : ℚ
  deriving DecidableEq

def calculateUntaxedPrice (fullAmount taxAmount : ℚ) : ℚ := minusNumberValues fullAmount [taxAmount]

def calculatePercent (fullAmount taxAmount : ℚ) : Except HttpError ℚ := do
  let untaxAmount := calculateUntaxedPrice fullAmount taxAmount
  let ratio ← divideNumberValues taxAmount [untaxAmount]
  return multiplyNumberValues [ratio, 100]

def calculateTaxAmount (fullAmount percent : ℚ) : Except HttpError ℚ :=
  divideNumberValues (multiplyNumberValues [percent, fullAmount]) [addNumberValues [percent, 100]]

def generateTaxDto (taxName : String) (fullAmount : ℚ) (percent taxAmount : Option ℚ) : Except HttpError TaxDTO :=
  match percent, taxAmount with
  | none, none => throw (.badRequest
      "There is no enough information. Please provide fullAmount and (taxAmount or percent)")
  | some percent, _ => do
    let taxAmount ← calculateTaxAmount fullAmount percent
    return ⟨taxName, fullAmount, percent, taxAmount, calculateUntaxedPrice fullAmount taxAmount⟩
  | none, some taxAmount => do
    let percent ← calculatePercent fullAmount taxAmount
    return ⟨taxName, fullAmount, percent, taxAmount, calculateUntaxedPrice fullAmount taxAmount⟩

def mergeTaxes (taxes : List TaxDTO) : Except HttpError TaxDTO :=
  generateTaxDto "Total" (addNumberValues (taxes.map (·.fullAmount))) none
    (some (addNumberValues (taxes.map (·.taxAmount))))

/-- `map[key] = map[key] ? mergeTaxes([map[key], object]) : object`. -/
def mergeInto (tax : TaxDTO) : List (ℚ × TaxDTO) → Except HttpError (List (ℚ × TaxDTO))
  | [] => .ok [(tax.percent, tax)]
  | (percent, merged) :: rest =>
    if percent = tax.percent then do
      let total ← mergeTaxes [merged, tax]
      return (percent, total) :: rest
    else do
      let rest ← mergeInto tax rest
      return (percent, merged) :: rest

/-- A key that `Object.values` lists before the others, in ascending order. -/
def isArrayIndex (key : ℚ) : Bool := 0 ≤ key ∧ key.den = 1 ∧ key < 4294967295

def mergeTaxesByPercent (taxes : List TaxDTO) : Except HttpError (List TaxDTO) := do
  let groups ← taxes.foldlM (fun groups tax => mergeInto tax groups) []
  let indexed := (groups.filter fun g => isArrayIndex g.1).mergeSort fun a b => a.1 ≤ b.1
  let named := groups.filter fun g => !isArrayIndex g.1
  return (indexed ++ named).map (·.2)

/-! ## One line -/

theorem generateTaxDto_of_percent {taxName : String} {fullAmount percent : ℚ} {taxAmount : Option ℚ} {tax : TaxDTO}
    (h : generateTaxDto taxName fullAmount (some percent) taxAmount = .ok tax) :
    calculateTaxAmount fullAmount percent = .ok tax.taxAmount ∧ tax.fullAmount = fullAmount ∧
      tax.untaxAmount = fullAmount - tax.taxAmount := by
  simp only [generateTaxDto, bind_eq_ok, pure_eq_ok] at h
  obtain ⟨amount, hamount, rfl⟩ := h
  simp [hamount, calculateUntaxedPrice]

end Postral
