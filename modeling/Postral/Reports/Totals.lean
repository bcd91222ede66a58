import Postral.Reports.Digestion

/-!
# What a payment adds to a row

Money that is added to a column has four decimals itself, so the sums are exact.
-/

open Rounding

namespace Postral.Reports

@[simp]
theorem fromColumn_zero : fromColumn 0 = 0 := by simp [fromColumn]

theorem fromColumn_add (a b : ℤ) : fromColumn (a + b) = fromColumn a + fromColumn b := by
  simp [fromColumn, add_div]

theorem fromColumn_sub (a b : ℤ) : fromColumn (a - b) = fromColumn a - fromColumn b := by
  simp [fromColumn, sub_div]

/-! ## Columns -/

/-- The totals of sales and refunds. -/
inductive Total where
  | sale
  | refund
  | saleTax
  | refundTax
  deriving DecidableEq, Repr

section Columns

variable {α β : Type}

def BaseReport.total (r : BaseReport α) : Total → α
  | .sale => r.totalSaleAmount
  | .refund => r.totalRefundAmount
  | .saleTax => r.totalSaleTaxAmount
  | .refundTax => r.totalRefundTaxAmount

def ReportPlatform.total (r : ReportPlatform α) : Total → α
  | .sale => r.totalSaleAmount
  | .refund => r.totalRefundAmount
  | .saleTax => r.totalSaleTaxAmount
  | .refundTax => r.totalRefundTaxAmount

def ReportItem.total (r : ReportItem α) : Total → α
  | .sale => r.purchasedTotalAmount
  | .refund => r.refundedTotalAmount
  | .saleTax => r.purchasedTaxAmount
  | .refundTax => r.refundedTaxAmount

theorem BaseReport.total_map (f : α → β) (r : BaseReport α) (c : Total) : (r.map f).total c = f (r.total c) := by
  cases c <;> rfl

theorem ReportPlatform.total_map (f : α → β) (r : ReportPlatform α) (c : Total) :
    (r.map f).total c = f (r.total c) := by
  cases c <;> rfl

theorem ReportItem.total_map (f g : α → β) (r : ReportItem α) (c : Total) : (r.map f g).total c = f (r.total c) := by
  cases c <;> rfl

end Columns

/-! ## Payments -/

/-- What an item adds to the totals. -/
def itemTotal : PaymentType → PaymentItem → Total → ℤ
  | .purchase, item, .sale => item.totalAmount
  | .purchase, item, .saleTax => item.taxAmount
  | .refund, item, .refund => item.totalAmount
  | .refund, item, .refundTax => item.taxAmount
  | _, _, _ => 0

def totalsOf (type : PaymentType) (items : List PaymentItem) : Total → ℤ := (items.map (itemTotal type)).sum

theorem totalsOf_nil (type : PaymentType) : totalsOf type [] = 0 := rfl

theorem totalsOf_cons (type : PaymentType) (item : PaymentItem) (items : List PaymentItem) :
    totalsOf type (item :: items) = itemTotal type item + totalsOf type items := by
  simp [totalsOf]

theorem totalsOf_append (type : PaymentType) (items items' : List PaymentItem) :
    totalsOf type (items ++ items') = totalsOf type items + totalsOf type items' := by
  simp [totalsOf]

/-! ## Reports and tax groups -/

namespace BaseReport

def add {α : Type} [Add α] (r : BaseReport α) (added : Total → α) : BaseReport α :=
  { r with
    totalSaleAmount := r.totalSaleAmount + added .sale
    totalRefundAmount := r.totalRefundAmount + added .refund
    totalSaleTaxAmount := r.totalSaleTaxAmount + added .saleTax
    totalRefundTaxAmount := r.totalRefundTaxAmount + added .refundTax }

/-- Counts a payment that adds `added`. -/
def digest (r : BaseReport ℤ) (added : Total → ℤ) : BaseReport ℤ :=
  { r.add added with paymentCount := r.paymentCount + 1 }.netted

theorem total_add {α : Type} [Add α] (r : BaseReport α) (added : Total → α) (c : Total) :
    (r.add added).total c = r.total c + added c := by
  cases c <;> rfl

theorem total_netted {α : Type} [Sub α] (r : BaseReport α) (c : Total) : r.netted.total c = r.total c := by
  cases c <;> rfl

theorem total_digest (r : BaseReport ℤ) (added : Total → ℤ) (c : Total) :
    (r.digest added).total c = r.total c + added c := by
  rw [digest, total_netted]
  cases c <;> rfl

theorem netted_map (r : BaseReport ℤ) : r.netted.map fromColumn = (r.map fromColumn).netted := by
  simp [netted, map, fromColumn_sub]

theorem map_map_toColumn (r : BaseReport ℤ) : (r.map fromColumn).map toColumn = r := by
  simp [map]

end BaseReport

theorem add_to_report_spec (type : PaymentType) (r : BaseReport ℤ) (item : PaymentItem) :
    addToReport type (r.map fromColumn) item = (r.add (itemTotal type item)).map fromColumn := by
  cases type <;>
    simp [addToReport, BaseReport.map, BaseReport.add, itemTotal, fromColumn_add, add_comm]

theorem foldl_add_to_report (type : PaymentType) (r : BaseReport ℤ) (items : List PaymentItem) :
    items.foldl (addToReport type) (r.map fromColumn) = (r.add (totalsOf type items)).map fromColumn := by
  induction items generalizing r with
  | nil => simp [totalsOf_nil, BaseReport.add]
  | cons item items ih =>
    rw [List.foldl_cons, add_to_report_spec, ih, totalsOf_cons]
    simp [BaseReport.add, add_assoc]

theorem report_calculation_spec (type : PaymentType) (r : BaseReport ℤ) (items : List PaymentItem)
    (accountId : Option String) :
    reportCalculationByPaymentItems (r.map fromColumn) type items accountId =
      (r.digest (totalsOf type (items.filter (counts accountId)))).map fromColumn := by
  unfold reportCalculationByPaymentItems BaseReport.digest
  rw [foldl_add_to_report, BaseReport.netted_map]
  simp [BaseReport.map, BaseReport.add]

/-! ## Commission -/

def comissionOf (items : List PaymentItem) : ℤ := (items.map (·.appComissionAmount)).sum

/-- What the commission of the items adds to the totals. The tax is not rounded. -/
def comissionTotals (type : PaymentType) (taxMax : ℚ) (items : List PaymentItem) : Total → ℚ :=
  let comission := fromColumn (comissionOf items)
  match type with
  | .purchase => fun
    | .sale => comission
    | .saleTax => comission * taxMax
    | _ => 0
  | .refund => fun
    | .refund => comission
    | .refundTax => comission * taxMax
    | _ => 0

def ComissionTotals.add (totals : ComissionTotals) (added : Total → ℚ) (items : ℕ) : ComissionTotals where
  currentComissionTotal := totals.currentComissionTotal + added .sale
  currentComissionTaxTotal := totals.currentComissionTaxTotal + added .saleTax
  refundComissionTotal := totals.refundComissionTotal + added .refund
  refundComissionTaxTotal := totals.refundComissionTaxTotal + added .refundTax
  processedItemCount := totals.processedItemCount + items

theorem comissionTotals_cons (type : PaymentType) (taxMax : ℚ) (item : PaymentItem) (items : List PaymentItem) :
    comissionTotals type taxMax (item :: items) =
      comissionTotals type taxMax [item] + comissionTotals type taxMax items := by
  funext c
  cases type <;> cases c <;> simp [comissionTotals, comissionOf, fromColumn_add, add_mul]

theorem add_comission_spec (type : PaymentType) (taxMax : ℚ) (item : PaymentItem)
    (acc : BaseReport ℚ × ComissionTotals) :
    addComission type taxMax acc item =
      (acc.1.add (comissionTotals type taxMax [item]), acc.2.add (comissionTotals type taxMax [item]) 1) := by
  cases type <;>
    simp [addComission, comissionTotals, comissionOf, BaseReport.add, ComissionTotals.add, multiplyNumberValues, add_comm]

theorem foldl_add_comission (type : PaymentType) (taxMax : ℚ) (items : List PaymentItem)
    (acc : BaseReport ℚ × ComissionTotals) :
    items.foldl (addComission type taxMax) acc =
      (acc.1.add (comissionTotals type taxMax items), acc.2.add (comissionTotals type taxMax items) items.length) := by
  induction items generalizing acc with
  | nil => cases type <;> simp [comissionTotals, comissionOf, BaseReport.add, ComissionTotals.add]
  | cons item items ih =>
    rw [List.foldl_cons, ih, add_comission_spec, comissionTotals_cons type taxMax item items]
    simp [BaseReport.add, ComissionTotals.add, add_comm, add_left_comm]

/-! ## Platforms -/

/-- The quantities that are sold and refunded. -/
def quantitiesOf (type : PaymentType) (items : List PaymentItem) : ℤ × ℤ :=
  match type with
  | .purchase => ((items.map (·.quantity)).sum, 0)
  | .refund => (0, (items.map (·.quantity)).sum)

namespace ReportPlatform

def add (r : ReportPlatform ℤ) (quantities : ℤ × ℤ) (added : Total → ℤ) : ReportPlatform ℤ :=
  { r with
    soldQuantity := r.soldQuantity + quantities.1
    refundedQuantity := r.refundedQuantity + quantities.2
    totalSaleAmount := r.totalSaleAmount + added .sale
    totalRefundAmount := r.totalRefundAmount + added .refund
    totalSaleTaxAmount := r.totalSaleTaxAmount + added .saleTax
    totalRefundTaxAmount := r.totalRefundTaxAmount + added .refundTax }

/-- Counts a payment with the given items. -/
def digest (r : ReportPlatform ℤ) (type : PaymentType) (items : List PaymentItem) : ReportPlatform ℤ :=
  ((r.counted type).add (quantitiesOf type items) (totalsOf type items)).netted

theorem total_digest (r : ReportPlatform ℤ) (type : PaymentType) (items : List PaymentItem) (c : Total) :
    (r.digest type items).total c = r.total c + totalsOf type items c := by
  cases type <;> cases c <;> rfl

theorem counted_map (type : PaymentType) (r : ReportPlatform ℤ) :
    (r.map fromColumn).counted type = (r.counted type).map fromColumn := by
  cases type <;> rfl

theorem netted_map (r : ReportPlatform ℤ) : r.netted.map fromColumn = (r.map fromColumn).netted := by
  simp [netted, map, fromColumn_sub]

end ReportPlatform

theorem add_to_platform_spec (type : PaymentType) (r : ReportPlatform ℤ) (item : PaymentItem) :
    addToReportPlatform type (r.map fromColumn) item =
      (r.add (quantitiesOf type [item]) (itemTotal type item)).map fromColumn := by
  cases type <;>
    simp [addToReportPlatform, ReportPlatform.map, ReportPlatform.add, itemTotal, quantitiesOf, fromColumn_add]

theorem foldl_add_to_platform (type : PaymentType) (r : ReportPlatform ℤ) (items : List PaymentItem) :
    items.foldl (addToReportPlatform type) (r.map fromColumn) =
      (r.add (quantitiesOf type items) (totalsOf type items)).map fromColumn := by
  induction items generalizing r with
  | nil => cases type <;> simp [totalsOf_nil, ReportPlatform.add, quantitiesOf]
  | cons item items ih =>
    rw [List.foldl_cons, add_to_platform_spec, ih, totalsOf_cons]
    cases type <;> simp [ReportPlatform.add, quantitiesOf, add_assoc]

theorem digested_platform_spec (type : PaymentType) (r : ReportPlatform ℤ) (items : List PaymentItem) :
    digestedPlatform type items (r.map fromColumn) = (r.digest type items).map fromColumn := by
  unfold digestedPlatform ReportPlatform.digest
  rw [ReportPlatform.counted_map, foldl_add_to_platform, ReportPlatform.netted_map]

/-! ## Items -/

theorem total_add_to_report_item (type : PaymentType) (item : PaymentItem) (row : ReportItem ℚ) (c : Total) :
    (addToReportItem type item row).total c = row.total c + fromColumn (itemTotal type item c) := by
  cases type <;> cases c <;> simp [addToReportItem, ReportItem.total, itemTotal]

theorem net_add_to_report_item (type : PaymentType) (item : PaymentItem) (row : ReportItem ℚ) :
    (addToReportItem type item row).itemTotalAmount =
      (addToReportItem type item row).purchasedTotalAmount - (addToReportItem type item row).refundedTotalAmount ∧
    (addToReportItem type item row).itemTaxAmount =
      (addToReportItem type item row).purchasedTaxAmount - (addToReportItem type item row).refundedTaxAmount := by
  cases type <;> simp [addToReportItem]

end Postral.Reports
