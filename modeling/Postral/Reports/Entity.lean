import Postral.Entity

/-!
# Report entities

A row is generic in its numbers: `ℤ` in a table, `ℚ` in memory.
-/

open Rounding

namespace Postral.Reports

/-- A `BigintDbField` column: the database rounds a fraction. -/
def toBigint (v : ℚ) : ℤ := roundAway v

/-! ## Queries -/

inductive ReportType where
  | seller
  | platformFlow
  | platformSeller
  | platform
  deriving DecidableEq, Repr

inductive DateGrouping where
  | daily
  | weekly
  | monthly
  | yearly
  | all
  deriving DecidableEq, Repr

structure ReportQuery where
  id : String
  ownerAccountId : Option String
  currency : Option String
  dateGrouping : DateGrouping
  reportType : ReportType
  deriving DecidableEq, Repr

/-! ## Reports and their rows -/

structure BaseReport (α : Type) where
  paymentCount : ℤ
  totalSaleAmount : α
  totalRefundAmount : α
  totalSaleTaxAmount : α
  totalRefundTaxAmount : α
  netTaxAmount : α
  netSaleAmount : α
  netRevenue : α
  deriving DecidableEq, Repr

structure Report (α : Type) extends BaseReport α where
  id : String
  reportType : ReportType
  queryId : String
  periodLabel : String
  currency : String
  lastDigestedPaymentId : Option String
  archived : Bool
  billedAt : Option ℕ
  totalExpense : α
  netRevenueWithoutExpense : α
  netRevenueWithoutExpenseTaxed : α
  deriving DecidableEq, Repr

structure ReportTaxGroup (α : Type) extends BaseReport α where
  reportId : String
  /-- The number whose text is the column. -/
  taxPercent : ℚ
  currency : String
  deriving DecidableEq, Repr

structure ReportItem (α : Type) where
  reportId : String
  accountId : String
  reportItemKey : String
  itemId : String
  identifiedByName : Bool
  itemName : String
  itemVariation : String
  itemQuantity : α
  itemTotalAmount : α
  itemTaxAmount : α
  itemDiscountAmount : α
  itemComissionAmount : α
  purchasedQuantity : α
  purchasedTotalAmount : α
  purchasedTaxAmount : α
  purchasedDiscountAmount : α
  purchasedComissionAmount : α
  refundedQuantity : α
  refundedTotalAmount : α
  refundedTaxAmount : α
  refundedDiscountAmount : α
  refundedComissionAmount : α
  deriving DecidableEq, Repr

structure ReportPlatform (α : Type) where
  reportId : String
  accountId : String
  platformKey : String
  externalPlatformId : Option String
  platformName : String
  purchaseCount : ℤ
  refundCount : ℤ
  soldQuantity : α
  refundedQuantity : α
  totalSaleAmount : α
  totalRefundAmount : α
  totalSaleTaxAmount : α
  totalRefundTaxAmount : α
  netSaleAmount : α
  netRevenue : α
  deriving DecidableEq, Repr

structure ReportExpense (α : Type) where
  reportId : String
  accountId : String
  expenseKey : String
  expenseAmount : α
  itemClass : Option String
  totalExpense : Bool
  displayWeight : ℕ
  deriving DecidableEq, Repr

inductive DigestionStatus where
  | waiting
  | digesting
  | completed
  deriving DecidableEq, Repr

structure ReportPaymentRelation where
  reportId : String
  paymentId : String
  accountId : Option String
  digestionStatus : DigestionStatus
  digestionId : String := ""
  deriving DecidableEq, Repr

/-! ## Reading and writing the columns -/

section Columns

variable {α β : Type}

def BaseReport.map (f : α → β) (r : BaseReport α) : BaseReport β where
  paymentCount := r.paymentCount
  totalSaleAmount := f r.totalSaleAmount
  totalRefundAmount := f r.totalRefundAmount
  totalSaleTaxAmount := f r.totalSaleTaxAmount
  totalRefundTaxAmount := f r.totalRefundTaxAmount
  netTaxAmount := f r.netTaxAmount
  netSaleAmount := f r.netSaleAmount
  netRevenue := f r.netRevenue

def Report.map (f : α → β) (r : Report α) : Report β where
  toBaseReport := r.toBaseReport.map f
  id := r.id
  reportType := r.reportType
  queryId := r.queryId
  periodLabel := r.periodLabel
  currency := r.currency
  lastDigestedPaymentId := r.lastDigestedPaymentId
  archived := r.archived
  billedAt := r.billedAt
  totalExpense := f r.totalExpense
  netRevenueWithoutExpense := f r.netRevenueWithoutExpense
  netRevenueWithoutExpenseTaxed := f r.netRevenueWithoutExpenseTaxed

def ReportTaxGroup.map (f : α → β) (r : ReportTaxGroup α) : ReportTaxGroup β where
  toBaseReport := r.toBaseReport.map f
  reportId := r.reportId
  taxPercent := r.taxPercent
  currency := r.currency

/-- `f` for money, `g` for quantities. -/
def ReportItem.map (f g : α → β) (r : ReportItem α) : ReportItem β where
  reportId := r.reportId
  accountId := r.accountId
  reportItemKey := r.reportItemKey
  itemId := r.itemId
  identifiedByName := r.identifiedByName
  itemName := r.itemName
  itemVariation := r.itemVariation
  itemQuantity := g r.itemQuantity
  itemTotalAmount := f r.itemTotalAmount
  itemTaxAmount := f r.itemTaxAmount
  itemDiscountAmount := f r.itemDiscountAmount
  itemComissionAmount := f r.itemComissionAmount
  purchasedQuantity := g r.purchasedQuantity
  purchasedTotalAmount := f r.purchasedTotalAmount
  purchasedTaxAmount := f r.purchasedTaxAmount
  purchasedDiscountAmount := f r.purchasedDiscountAmount
  purchasedComissionAmount := f r.purchasedComissionAmount
  refundedQuantity := g r.refundedQuantity
  refundedTotalAmount := f r.refundedTotalAmount
  refundedTaxAmount := f r.refundedTaxAmount
  refundedDiscountAmount := f r.refundedDiscountAmount
  refundedComissionAmount := f r.refundedComissionAmount

def ReportPlatform.map (f : α → β) (r : ReportPlatform α) : ReportPlatform β where
  reportId := r.reportId
  accountId := r.accountId
  platformKey := r.platformKey
  externalPlatformId := r.externalPlatformId
  platformName := r.platformName
  purchaseCount := r.purchaseCount
  refundCount := r.refundCount
  soldQuantity := f r.soldQuantity
  refundedQuantity := f r.refundedQuantity
  totalSaleAmount := f r.totalSaleAmount
  totalRefundAmount := f r.totalRefundAmount
  totalSaleTaxAmount := f r.totalSaleTaxAmount
  totalRefundTaxAmount := f r.totalRefundTaxAmount
  netSaleAmount := f r.netSaleAmount
  netRevenue := f r.netRevenue

def ReportExpense.map (f : α → β) (r : ReportExpense α) : ReportExpense β where
  reportId := r.reportId
  accountId := r.accountId
  expenseKey := r.expenseKey
  expenseAmount := f r.expenseAmount
  itemClass := r.itemClass
  totalExpense := r.totalExpense
  displayWeight := r.displayWeight

end Columns

def Report.load : Report ℤ → Report ℚ := Report.map fromColumn

def Report.store : Report ℚ → Report ℤ := Report.map toColumn

def ReportTaxGroup.load : ReportTaxGroup ℤ → ReportTaxGroup ℚ := ReportTaxGroup.map fromColumn

def ReportTaxGroup.store : ReportTaxGroup ℚ → ReportTaxGroup ℤ := ReportTaxGroup.map toColumn

def ReportItem.load : ReportItem ℤ → ReportItem ℚ := ReportItem.map fromColumn fun n => (n : ℚ)

def ReportItem.store : ReportItem ℚ → ReportItem ℤ := ReportItem.map toColumn toBigint

def ReportPlatform.load : ReportPlatform ℤ → ReportPlatform ℚ := ReportPlatform.map fromColumn

def ReportPlatform.store : ReportPlatform ℚ → ReportPlatform ℤ := ReportPlatform.map toColumn

def ReportExpense.load : ReportExpense ℤ → ReportExpense ℚ := ReportExpense.map fromColumn

def ReportExpense.store : ReportExpense ℚ → ReportExpense ℤ := ReportExpense.map toColumn

/-! ## The database -/

structure SellerPaymentOrder where
  paymentId : String
  targetAccountId : String
  amount : ℤ
  deriving DecidableEq, Repr

structure ExternalPlatform where
  id : String
  name : String
  code : String
  deriving DecidableEq, Repr

/-- The unique constraints of the tables. -/
def ReportTaxGroup.key (g : ReportTaxGroup ℤ) : String × ℚ × String := (g.reportId, g.taxPercent, g.currency)

def ReportItem.key (i : ReportItem ℤ) : String × String × String := (i.reportId, i.accountId, i.reportItemKey)

def ReportPlatform.key (p : ReportPlatform ℤ) : String × String × String := (p.reportId, p.accountId, p.platformKey)

def ReportExpense.key (e : ReportExpense ℤ) : String × String × String := (e.reportId, e.accountId, e.expenseKey)

def ReportPaymentRelation.key (r : ReportPaymentRelation) : String × String := (r.reportId, r.paymentId)

def SellerPaymentOrder.key (o : SellerPaymentOrder) : String × String := (o.paymentId, o.targetAccountId)

structure Db where
  reports : Table (fun r : Report ℤ => r.id)
  taxGroups : Table ReportTaxGroup.key
  items : Table ReportItem.key
  platforms : Table ReportPlatform.key
  expenses : Table ReportExpense.key
  relations : Table ReportPaymentRelation.key
  queries : Table ReportQuery.id
  payments : Table Payment.id
  operations : Table PaymentChannelOperation.id
  orders : Table SellerPaymentOrder.key
  externalPlatforms : Table ExternalPlatform.code
  /-- `adminSettings.comissionItemTax?.variations?.[0]?.taxRate`. -/
  comissionTaxRate : Option ℤ

end Postral.Reports
