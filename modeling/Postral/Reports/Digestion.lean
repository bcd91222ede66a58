import Postral.Lib.Session
import Postral.Tax
import Postral.Reports.Entity

/-!
# Report digestion (`ReportDigestionService`)

The updates of a digestion are not in a transaction: each one reads its rows, adds the payment and
saves them.
-/

open Check Session

namespace Postral.Reports

abbrev Digest (α : Type) := SessionM HttpError Db α

/-- What the service takes from the runtime. -/
structure Env where
  /-- `String.prototype.toLowerCase`. -/
  toLowerCase : String → String
  /-- SHA-256 of `JSON.stringify([name, variation])`, in hexadecimal digits. -/
  identityHash : String → String → String

/-- `encodeURIComponent`. -/
def encodeURIComponent (text : String) : String :=
  let keep (c : Char) : Bool := (c.isAlphanum ∧ c.toNat < 128) ∨ c ∈ "-_.!~*'()".toList
  let hex (byte : UInt8) : String :=
    String.ofList ('%' :: ((Nat.toDigits 16 byte.toNat).leftpad 2 '0').map Char.toUpper)
  String.join (text.toList.map fun c =>
    if keep c then String.singleton c else String.join ((String.utf8EncodeChar c).map hex))

/-- The items that the report of `accountId` counts. `none` counts all of them. -/
def counts (accountId : Option String) (item : PaymentItem) : Bool :=
  accountId = none ∨ item.sellerAccountId = accountId

def itemsOf (payment : Payment) (accountId : Option String) : List PaymentItem :=
  payment.items.rows.filter (counts accountId)

def reportAccountId (accountId : Option String) : String := accountId.getD "PLATFORM"

/-! ## Report rows -/

def newReport (id : String) (query : ReportQuery) (periodLabel currency : String) : Report ℤ where
  paymentCount := 0
  totalSaleAmount := 0
  totalRefundAmount := 0
  totalSaleTaxAmount := 0
  totalRefundTaxAmount := 0
  netTaxAmount := 0
  netSaleAmount := 0
  netRevenue := 0
  id := id
  reportType := query.reportType
  queryId := query.id
  periodLabel := periodLabel
  currency := currency
  lastDigestedPaymentId := none
  archived := false
  billedAt := none
  totalExpense := 0
  netRevenueWithoutExpense := 0
  netRevenueWithoutExpenseTaxed := 0

/-- The unique constraints of reports. -/
def Report.conflicts (r r' : Report ℤ) : Bool :=
  r.id = r'.id ∨ (r.queryId = r'.queryId ∧ r.reportType = r'.reportType ∧ r.periodLabel = r'.periodLabel ∧
    r.currency = r'.currency)

/-- `id` is the key that the database generates. -/
def findOrCreateByQuery (query : ReportQuery) (periodLabel currency id : String) : Digest (Report ℤ) := do
  let existing ← find fun db => db.reports.rows.find? fun r =>
    r.queryId = query.id ∧ r.periodLabel = periodLabel ∧ r.currency = currency ∧ r.archived = false
  match existing with
  | some report => return report
  | none => do
    check (require (query.ownerAccountId ≠ none)
      (.internal s!"Query {query.id} has no ownerAccountId, cannot create report"))
    let reportNew := newReport id query periodLabel currency
    let duplicate ← find fun db => db.reports.rows.any reportNew.conflicts
    check (require (duplicate = false) (.internal "Duplicate entry"))
    save fun db => { db with reports := db.reports.save reportNew }
    return reportNew

/-! ## Report items -/

/-- `name.trim().replace(/\s+/g, " ")`. -/
def collapseSpaces (name : String) : String :=
  String.intercalate " " (((name.toList.splitOnP isTrimmed).filter (· ≠ [])).map String.ofList)

/-- `ReportItem.generateKey`. -/
def generateKey (env : Env) (reportId itemId itemVariation itemName : String) : Except HttpError String :=
  if !isBlank itemId then
    return s!"{reportId}_{itemId}_{itemVariation}"
  else do
    let name := env.toLowerCase (collapseSpaces itemName)
    require (name ≠ "") (.internal s!"Report {reportId} contains an item without an ID or name")
    return s!"{reportId}:no-id:{env.identityHash name itemVariation}"

def newReportItem {α : Type} [Zero α] (reportId accountId key : String) (item : PaymentItem) : ReportItem α where
  reportId := reportId
  accountId := accountId
  reportItemKey := key
  itemId := item.itemId
  identifiedByName := isBlank item.itemId
  itemName := item.name
  itemVariation := item.variation
  itemQuantity := 0
  itemTotalAmount := 0
  itemTaxAmount := 0
  itemDiscountAmount := 0
  itemComissionAmount := 0
  purchasedQuantity := 0
  purchasedTotalAmount := 0
  purchasedTaxAmount := 0
  purchasedDiscountAmount := 0
  purchasedComissionAmount := 0
  refundedQuantity := 0
  refundedTotalAmount := 0
  refundedTaxAmount := 0
  refundedDiscountAmount := 0
  refundedComissionAmount := 0

def differenceFromRealUnit (item : PaymentItem) : ℚ :=
  minusNumberValues (fromColumn item.totalAmount)
    [multiplyNumberValues [fromColumn item.originalUnitAmount, fromColumn item.quantity]]

/-- The body of the loop: adds an item, then takes the refunds from the purchases. -/
def addToReportItem (type : PaymentType) (item : PaymentItem) (row : ReportItem ℚ) : ReportItem ℚ :=
  let row := match type with
    | .purchase => { row with
        purchasedQuantity := addNumberValues [row.purchasedQuantity, fromColumn item.quantity]
        purchasedTotalAmount := addNumberValues [row.purchasedTotalAmount, fromColumn item.totalAmount]
        purchasedComissionAmount := addNumberValues [row.purchasedComissionAmount, fromColumn item.appComissionAmount]
        purchasedTaxAmount := addNumberValues [row.purchasedTaxAmount, fromColumn item.taxAmount]
        purchasedDiscountAmount := addNumberValues [row.purchasedDiscountAmount, differenceFromRealUnit item] }
    | .refund => { row with
        refundedQuantity := addNumberValues [row.refundedQuantity, fromColumn item.quantity]
        refundedTotalAmount := addNumberValues [row.refundedTotalAmount, fromColumn item.totalAmount]
        refundedComissionAmount := addNumberValues [row.refundedComissionAmount, fromColumn item.appComissionAmount]
        refundedTaxAmount := addNumberValues [row.refundedTaxAmount, fromColumn item.taxAmount]
        refundedDiscountAmount := addNumberValues [row.refundedDiscountAmount, differenceFromRealUnit item] }
  { row with
    itemComissionAmount := minusNumberValues row.purchasedComissionAmount [row.refundedComissionAmount]
    itemTaxAmount := minusNumberValues row.purchasedTaxAmount [row.refundedTaxAmount]
    itemDiscountAmount := minusNumberValues row.purchasedDiscountAmount [row.refundedDiscountAmount]
    itemTotalAmount := minusNumberValues row.purchasedTotalAmount [row.refundedTotalAmount]
    itemQuantity := minusNumberValues row.purchasedQuantity [row.refundedQuantity] }

def saveReportItem (row : ReportItem ℚ) : Digest Unit :=
  save fun db => { db with items := db.items.save row.store }

/-- `itemsMappedByKey`. -/
abbrev ItemMap := String → Option (ReportItem ℚ)

/-- `itemsMappedByKey.get(key) ?? await this.reportItemRepo.findOne(..)`. -/
def lookUpReportItem (reportId accountId key : String) (itemsMappedByKey : ItemMap) :
    Digest (Option (ReportItem ℚ)) :=
  match itemsMappedByKey key with
  | some row => pure (some row)
  | none => find fun db => (db.items.find (reportId, accountId, key)).map (·.load)

def orSaveReportItem (found : Option (ReportItem ℚ)) (fresh : ReportItem ℚ) : Digest (ReportItem ℚ) :=
  match found with
  | some row => pure row
  | none => do
    saveReportItem fresh
    return fresh

def updateReportItem (env : Env) (reportId accountId : String) (type : PaymentType) (itemsMappedByKey : ItemMap)
    (item : PaymentItem) : Digest ItemMap := do
  let key ← check (generateKey env reportId item.itemId item.variation item.name)
  let found ← lookUpReportItem reportId accountId key itemsMappedByKey
  let row ← orSaveReportItem found (newReportItem reportId accountId key item)
  let row := addToReportItem type item row
  saveReportItem row
  return Function.update itemsMappedByKey key (some row)

def updatePaymentItemReport (env : Env) (reportId : String) (payment : Payment) (accountId : Option String) :
    Digest Unit := do
  let _ ← (itemsOf payment accountId).foldlM
    (updateReportItem env reportId (reportAccountId accountId) payment.type) fun _ => none

/-! ## Report platforms -/

structure PlatformSource where
  platformKey : String
  platformName : String
  externalPlatformId : Option String
  deriving DecidableEq

def postralInstance : String := "POSTRAL_INSTANCE"

def resolveReportPlatform (payment : Payment) : Digest PlatformSource :=
  match payment.externalPlatformId with
  | none | some "" => pure ⟨postralInstance, "Postral", none⟩
  | some id => do
    let platform ← find fun db => db.externalPlatforms.rows.find? fun platform => platform.id = id
    let valid ← check (orThrow (platform.filter fun platform => !isBlank platform.code ∧ platform.code ≠ postralInstance)
      (.internal s!"Payment {payment.id} has a missing or invalid external platform {id}"))
    return ⟨valid.code, valid.name, some valid.id⟩

def newReportPlatform {α : Type} [Zero α] (reportId accountId : String) (platform : PlatformSource) :
    ReportPlatform α where
  reportId := reportId
  accountId := accountId
  platformKey := platform.platformKey
  externalPlatformId := platform.externalPlatformId
  platformName := platform.platformName
  purchaseCount := 0
  refundCount := 0
  soldQuantity := 0
  refundedQuantity := 0
  totalSaleAmount := 0
  totalRefundAmount := 0
  totalSaleTaxAmount := 0
  totalRefundTaxAmount := 0
  netSaleAmount := 0
  netRevenue := 0

def addToReportPlatform (type : PaymentType) (row : ReportPlatform ℚ) (item : PaymentItem) : ReportPlatform ℚ :=
  match type with
  | .purchase => { row with
      soldQuantity := addNumberValues [row.soldQuantity, fromColumn item.quantity]
      totalSaleAmount := addNumberValues [row.totalSaleAmount, fromColumn item.totalAmount]
      totalSaleTaxAmount := addNumberValues [row.totalSaleTaxAmount, fromColumn item.taxAmount] }
  | .refund => { row with
      refundedQuantity := addNumberValues [row.refundedQuantity, fromColumn item.quantity]
      totalRefundAmount := addNumberValues [row.totalRefundAmount, fromColumn item.totalAmount]
      totalRefundTaxAmount := addNumberValues [row.totalRefundTaxAmount, fromColumn item.taxAmount] }

section

variable {α : Type}

def ReportPlatform.counted (type : PaymentType) (row : ReportPlatform α) : ReportPlatform α :=
  match type with
  | .purchase => { row with purchaseCount := addNumberValues [row.purchaseCount, 1] }
  | .refund => { row with refundCount := addNumberValues [row.refundCount, 1] }

def ReportPlatform.netted [Sub α] (row : ReportPlatform α) : ReportPlatform α :=
  let netSaleAmount := minusNumberValues row.totalSaleAmount [row.totalRefundAmount]
  let netTax := minusNumberValues row.totalSaleTaxAmount [row.totalRefundTaxAmount]
  { row with
    netSaleAmount := netSaleAmount
    netRevenue := minusNumberValues netSaleAmount [netTax] }

end

def digestedPlatform (type : PaymentType) (items : List PaymentItem) (row : ReportPlatform ℚ) : ReportPlatform ℚ :=
  (items.foldl (addToReportPlatform type) (row.counted type)).netted

def updatePlatformReport (reportId : String) (payment : Payment) (platform : PlatformSource)
    (accountId : Option String) : Digest Unit := do
  let items := itemsOf payment accountId
  if items.length = 0 then
    return
  let found ← find fun db =>
    (db.platforms.find (reportId, reportAccountId accountId, platform.platformKey)).map (·.load)
  let row := found.getD (newReportPlatform reportId (reportAccountId accountId) platform)
  check (require (row.externalPlatformId = platform.externalPlatformId)
    (.internal s!"Platform key {platform.platformKey} conflicts with an existing source in report {reportId}"))
  save fun db => { db with platforms := db.platforms.save (digestedPlatform payment.type items row).store }

/-! ## Totals -/

def BaseReport.empty {α : Type} [Zero α] : BaseReport α := ⟨0, 0, 0, 0, 0, 0, 0, 0⟩

def addToReport (type : PaymentType) (report : BaseReport ℚ) (item : PaymentItem) : BaseReport ℚ :=
  match type with
  | .purchase => { report with
      totalSaleAmount := addNumberValues [fromColumn item.totalAmount, report.totalSaleAmount]
      totalSaleTaxAmount := addNumberValues [fromColumn item.taxAmount, report.totalSaleTaxAmount] }
  | .refund => { report with
      totalRefundAmount := addNumberValues [fromColumn item.totalAmount, report.totalRefundAmount]
      totalRefundTaxAmount := addNumberValues [fromColumn item.taxAmount, report.totalRefundTaxAmount] }

/-- Sales minus refunds. -/
def BaseReport.netted {α : Type} [Sub α] (report : BaseReport α) : BaseReport α :=
  let netTaxAmount := minusNumberValues report.totalSaleTaxAmount [report.totalRefundTaxAmount]
  let netSaleAmount := minusNumberValues report.totalSaleAmount [report.totalRefundAmount]
  { report with
    netTaxAmount := netTaxAmount
    netSaleAmount := netSaleAmount
    netRevenue := minusNumberValues netSaleAmount [netTaxAmount] }

def reportCalculationByPaymentItems (report : BaseReport ℚ) (type : PaymentType) (paymentItems : List PaymentItem)
    (accountId : Option String) : BaseReport ℚ :=
  let report := (paymentItems.filter (counts accountId)).foldl (addToReport type) report
  { report with paymentCount := addNumberValues [report.paymentCount, 1] }.netted

def reportCalculation (report : BaseReport ℚ) (payment : Payment) (accountId : Option String) : BaseReport ℚ :=
  reportCalculationByPaymentItems report payment.type (itemsOf payment accountId) accountId

def Report.withoutExpense {α : Type} [Sub α] (report : Report α) : Report α :=
  { report with
    netRevenueWithoutExpense := minusNumberValues report.netRevenue [report.totalExpense]
    netRevenueWithoutExpenseTaxed := minusNumberValues report.netSaleAmount [report.totalExpense] }

def stampTimeAndSaveReport (report : Report ℚ) (payment : Payment) : Digest Unit :=
  let report := { report with lastDigestedPaymentId := some payment.id }
  save fun db => { db with reports := db.reports.save report.store }

def reportTotal : String := "REPORT_TOTAL"

/-- `digestPayment` for a seller and `digestPlatformFlowReport` for the platform. The expense is the one of
`ownerAccountId`. -/
def digestTotals (report : Report ℚ) (payment : Payment) (accountId : Option String) (ownerAccountId : String) :
    Digest Unit := do
  let report := { report with toBaseReport := reportCalculation report.toBaseReport payment accountId }
  let totalExpense ← find fun db => (db.expenses.find (report.id, ownerAccountId, reportTotal)).map ReportExpense.load
  let report := { report with totalExpense := (totalExpense.map ReportExpense.expenseAmount).getD 0 }
  stampTimeAndSaveReport report.withoutExpense payment

def digestPayment (report : Report ℚ) (payment : Payment) (ownerAccountId : String) : Digest Unit :=
  digestTotals report payment (some ownerAccountId) ownerAccountId

def digestPlatformFlowReport (report : Report ℚ) (payment : Payment) (ownerAccountId : String) : Digest Unit :=
  digestTotals report payment none ownerAccountId

/-! ## Tax groups -/

def newTaxGroup {α : Type} [Zero α] (reportId : String) (taxPercent : ℚ) (currency : String) : ReportTaxGroup α where
  toBaseReport := BaseReport.empty
  reportId := reportId
  taxPercent := taxPercent
  currency := currency

/-- The keys of `paymentItemsPerTaxGroup`: array indices first, in ascending order. -/
def taxPercents (items : List PaymentItem) : List ℚ :=
  let percents := (items.map fun item => fromColumn item.taxPercent).dedup
  (percents.filter isArrayIndex).insertionSort (· ≤ ·) ++ percents.filter fun percent => !isArrayIndex percent

def updateTaxGroup (reportId : String) (payment : Payment) (accountId : Option String) (percentGroup : ℚ) :
    Digest Unit := do
  let found ← find fun db => (db.taxGroups.find (reportId, percentGroup, payment.currency)).map (·.load)
  let group := found.getD (newTaxGroup reportId percentGroup payment.currency)
  let itemsInGroup := (itemsOf payment accountId).filter fun item => fromColumn item.taxPercent = percentGroup
  let group := { group with
    toBaseReport := reportCalculationByPaymentItems group.toBaseReport payment.type itemsInGroup accountId }
  save fun db => { db with taxGroups := db.taxGroups.save group.store }

def updateTaxGroupReportByPaymentAndAccountId (reportId : String) (payment : Payment) (accountId : Option String) :
    Digest Unit :=
  (taxPercents (itemsOf payment accountId)).forM (updateTaxGroup reportId payment accountId)

/-! ## Expenses -/

def platformComissionTotal : String := "PLATFORM_COMISSION_TOTAL"

def externalPlatformComissionPrefix : String := "EXTERNAL_PLATFORM_COMISSION:"

def itemClassComissionPrefix : String := "ITEM_CLASS_COMISSION:"

def externalItemClassComissionPrefix : String := "EXTERNAL_ITEM_CLASS_COMISSION:"

def paymentServiceFee : String := "PAYMENT_SERVICE_FEE"

def paymentChannelFeePrefix : String := "PAYMENT_CHANNEL_FEE:"

def refundRoundingAdjustment : String := "REFUND_ROUNDING_ADJUSTMENT"

def expenseDisplayWeight (expenseKey : String) : ℕ :=
  if expenseKey = reportTotal then 1
  else if expenseKey = platformComissionTotal ∨ expenseKey = paymentServiceFee ∨
    externalPlatformComissionPrefix.toList <+: expenseKey.toList then 2
  else 3

def ReportExpense.create (reportId accountId expenseKey : String) (itemClass : Option String) (displayWeight : ℕ) :
    ReportExpense ℚ :=
  ⟨reportId, accountId, expenseKey, 0, itemClass, true, displayWeight⟩

/-- `expenseMap`. -/
abbrev ExpenseMap := Table (fun e : ReportExpense ℚ => e.expenseKey)

/-- `new Map(rows.map(e => [e.expenseKey, e]))`. -/
def expenseMapOf (rows : List (ReportExpense ℚ)) : ExpenseMap := rows.foldl Table.save Table.empty

/-- Changes the amount of a row, which is added when it is missing. -/
def addTo (expenseMap : ExpenseMap) (fresh : ReportExpense ℚ) (f : ℚ → ℚ) : ExpenseMap :=
  let expense := (expenseMap.find fresh.expenseKey).getD fresh
  expenseMap.save { expense with expenseAmount := f expense.expenseAmount }

def expensesOf (reportId accountId : String) (db : Db) : List (ReportExpense ℚ) :=
  (db.expenses.rows.filter fun e => e.reportId = reportId ∧ e.accountId = accountId).map (·.load)

def saveExpenses (rows : List (ReportExpense ℚ)) : Digest Unit :=
  save fun db => { db with expenses := rows.foldl (fun expenses e => expenses.save e.store) db.expenses }

/-- The rows that a commission goes to. -/
def comissionExpenses (reportId accountId : String) (platformCode : Option String) (item : PaymentItem) :
    List (ReportExpense ℚ) :=
  let row (expenseKey : String) (itemClass : Option String) : ReportExpense ℚ :=
    .create reportId accountId expenseKey itemClass (expenseDisplayWeight expenseKey)
  let itemClassKey := match platformCode with
    | none => itemClassComissionPrefix ++ item.itemClass
    | some code => externalItemClassComissionPrefix ++ code ++ ":" ++ encodeURIComponent item.itemClass
  let totalComissionKey := match platformCode with
    | none => platformComissionTotal
    | some code => externalPlatformComissionPrefix ++ code
  (if item.itemClass ≠ "" then [row itemClassKey (some item.itemClass)] else []) ++
    [row totalComissionKey none, row reportTotal none]

/-- Purchases add to an expense, refunds take from it. -/
def expenseAction : PaymentType → ℚ → ℚ → ℚ
  | .purchase, expense, amount => addNumberValues [expense, amount]
  | .refund, expense, amount => minusNumberValues expense [amount]

def updateExpensesForReport (reportId : String) (payment : Payment) (expenseAccountId : String)
    (itemFilterAccountId : Option String) (platform : PlatformSource) : Digest Unit := do
  let platformCode :=
    if truthy payment.externalPlatformId then some (encodeURIComponent platform.platformKey) else none
  let allExpenses ← find (expensesOf reportId expenseAccountId)
  let expenseMap := (itemsOf payment itemFilterAccountId).foldl (fun expenseMap item =>
    (comissionExpenses reportId expenseAccountId platformCode item).foldl (fun expenseMap fresh =>
      addTo expenseMap fresh fun expense => expenseAction payment.type expense (fromColumn item.appComissionAmount))
      expenseMap) (expenseMapOf allExpenses)
  saveExpenses expenseMap.rows

structure ProviderFee where
  paymentChannelId : String
  amount : ℚ

/-- The rows that a provider's fee goes to. -/
def feeExpenses (reportId accountId : String) (fee : ProviderFee) : List (ReportExpense ℚ) :=
  let row (expenseKey : String) : ReportExpense ℚ :=
    .create reportId accountId expenseKey none (expenseDisplayWeight expenseKey)
  [row paymentServiceFee, row (paymentChannelFeePrefix ++ encodeURIComponent fee.paymentChannelId), row reportTotal]

def addProviderFeeExpenses (reportId accountId : String) (fees : List ProviderFee) : Digest Unit := do
  let positiveFees := fees.filter fun fee => 0 < fee.amount
  if positiveFees.length = 0 then
    return
  let existing ← find (expensesOf reportId accountId)
  let expenseMap := positiveFees.foldl (fun expenseMap fee =>
    (feeExpenses reportId accountId fee).foldl (fun expenseMap fresh =>
      addTo expenseMap fresh fun expense => addNumberValues [expense, fee.amount]) expenseMap) (expenseMapOf existing)
  let changed := positiveFees.flatMap fun fee => (feeExpenses reportId accountId fee).map (·.expenseKey)
  saveExpenses (expenseMap.rows.filter fun e => e.expenseKey ∈ changed)

def updateProviderFeeExpenseForReportAccountId (reportId : String) (payment : Payment) (accountId : String) :
    Digest Unit := do
  let operations ← find fun db => db.operations.rows.filter fun operation =>
    operation.paymentId = payment.id ∧ operation.providerFeeDebitFrom ≠ .platform ∧ operation.providerFee ≠ 0
  let order ← find fun db => db.orders.find (payment.id, accountId)
  let paymentSellerOrder ← check (orThrow order (.internal "Transaction not found"))
  if paymentSellerOrder.amount ≤ 0 ∨ payment.totalAmount ≤ 0 then
    return
  let ratio ← check (divideNumberValues (fromColumn paymentSellerOrder.amount) [fromColumn payment.totalAmount])
  addProviderFeeExpenses reportId accountId (operations.map fun operation =>
    ⟨operation.paymentChannelId, multiplyNumberValues [fromColumn operation.providerFee, ratio]⟩)

def updateProviderFeeExpenseForPlatformReport (reportId : String) (payment : Payment) : Digest Unit := do
  let operations ← find fun db => db.operations.rows.filter fun operation =>
    operation.paymentId = payment.id ∧ operation.providerFee ≠ 0
  addProviderFeeExpenses reportId (reportAccountId none) (operations.map fun operation =>
    ⟨operation.paymentChannelId, fromColumn operation.providerFee⟩)

/-- What the provider paid back beyond the nominal amounts of the settled lines. -/
def refundAdjustment (operation : PaymentChannelOperation) : ℤ :=
  let lines := ((operation.refundPlan.map (·.lines)).getD []).filter fun line =>
    line.originalPaymentItemId ∈ operation.settledRefundItemIds.getD []
  (lines.map fun line => line.providerAmount.value - line.nominalAmount.value).sum

def updateRefundRoundingExpense (report : Report ℚ) (payment : Payment) (accountId : String) : Digest (Report ℚ) := do
  if payment.type ≠ .refund then
    return report
  let refunds ← find fun db => db.operations.rows.filter fun operation =>
    operation.paymentId = payment.id ∧ operation.operationType = .refund
  let adjustment := fromColumn (refunds.map refundAdjustment).sum
  if adjustment = 0 then
    return report
  let expenses ← find (expensesOf report.id accountId)
  let changed (key : String) : ReportExpense ℚ :=
    let expense := (expenses.find? fun entry => entry.expenseKey = key).getD
      (.create report.id accountId key none (if key = reportTotal then 1 else 2))
    { expense with expenseAmount := expense.expenseAmount + adjustment }
  saveExpenses [changed refundRoundingAdjustment, changed reportTotal]
  return { report with totalExpense := (changed reportTotal).expenseAmount }

/-! ## Commission income -/

structure ComissionTotals where
  currentComissionTotal : ℚ := 0
  currentComissionTaxTotal : ℚ := 0
  refundComissionTotal : ℚ := 0
  refundComissionTaxTotal : ℚ := 0
  processedItemCount : ℕ := 0

/-- The body of the loop over the items. -/
def addComission (type : PaymentType) (taxMax : ℚ) (acc : BaseReport ℚ × ComissionTotals) (item : PaymentItem) :
    BaseReport ℚ × ComissionTotals :=
  let report := acc.1
  let totals := { acc.2 with processedItemCount := acc.2.processedItemCount + 1 }
  let comission := fromColumn item.appComissionAmount
  let taxAmount := multiplyNumberValues [comission, taxMax]
  match type with
  | .purchase =>
    ({ report with
        totalSaleAmount := addNumberValues [comission, report.totalSaleAmount]
        totalSaleTaxAmount := addNumberValues [taxAmount, report.totalSaleTaxAmount] },
      { totals with
        currentComissionTotal := addNumberValues [comission, totals.currentComissionTotal]
        currentComissionTaxTotal := addNumberValues [taxAmount, totals.currentComissionTaxTotal] })
  | .refund =>
    ({ report with
        totalRefundAmount := addNumberValues [comission, report.totalRefundAmount]
        totalRefundTaxAmount := addNumberValues [taxAmount, report.totalRefundTaxAmount] },
      { totals with
        refundComissionTotal := addNumberValues [comission, totals.refundComissionTotal]
        refundComissionTaxTotal := addNumberValues [taxAmount, totals.refundComissionTaxTotal] })

def digestComissionIncomeForReport (report : Report ℚ) (payment : Payment) (accountId : Option String) :
    Digest Unit := do
  if truthy payment.externalPlatformId then
    return
  let taxRate ← find fun db => db.comissionTaxRate
  let percent : ℚ := (taxRate.getD 0 : ℤ)
  let taxMax ← check (divideNumberValues percent [addNumberValues [percent, 100]])
  let (base, totals) := (itemsOf payment accountId).foldl (addComission payment.type taxMax) (report.toBaseReport, {})
  let base := if 0 < totals.processedItemCount then
    { base with paymentCount := addNumberValues [base.paymentCount, 1] } else base
  stampTimeAndSaveReport ({ report with toBaseReport := base.netted }).withoutExpense payment
  let found ← find fun db => (db.taxGroups.find (report.id, percent, payment.currency)).map (·.load)
  let group := found.getD (newTaxGroup report.id percent payment.currency)
  let base := { group.toBaseReport with
    totalSaleAmount := addNumberValues [group.totalSaleAmount, totals.currentComissionTotal]
    totalRefundAmount := addNumberValues [group.totalRefundAmount, totals.refundComissionTotal]
    totalSaleTaxAmount := addNumberValues [group.totalSaleTaxAmount, totals.currentComissionTaxTotal]
    totalRefundTaxAmount := addNumberValues [group.totalRefundTaxAmount, totals.refundComissionTaxTotal]
    paymentCount := addNumberValues [group.paymentCount, 1] }
  let group := { group with toBaseReport := base.netted }
  save fun db => { db with taxGroups := db.taxGroups.save group.store }

/-! ## Relations -/

/-- The branch of `checkRelations` for the type of the report. -/
def digestReport (env : Env) (report : Report ℚ) (payment : Payment) (accountId : String) : Digest Unit :=
  match report.reportType with
  | .seller => do
    let platform ← resolveReportPlatform payment
    updateExpensesForReport report.id payment accountId (some accountId) platform
    updateProviderFeeExpenseForReportAccountId report.id payment accountId
    digestPayment report payment accountId
    updateTaxGroupReportByPaymentAndAccountId report.id payment (some accountId)
    updatePaymentItemReport env report.id payment (some accountId)
    updatePlatformReport report.id payment platform (some accountId)
  | .platform =>
    if truthy payment.externalPlatformId then
      digestComissionIncomeForReport report payment none
    else do
      updateProviderFeeExpenseForPlatformReport report.id payment
      let report ← updateRefundRoundingExpense report payment accountId
      digestComissionIncomeForReport report payment none
  | .platformSeller => digestComissionIncomeForReport report payment (some accountId)
  | .platformFlow => do
    let platform ← resolveReportPlatform payment
    updateExpensesForReport report.id payment accountId none platform
    updateProviderFeeExpenseForPlatformReport report.id payment
    let report ← updateRefundRoundingExpense report payment accountId
    digestPlatformFlowReport report payment accountId
    updateTaxGroupReportByPaymentAndAccountId report.id payment none
    updatePaymentItemReport env report.id payment none
    updatePlatformReport report.id payment platform none

/-- Payments without the flag change no report. -/
def digestIncluded (env : Env) (report : Report ℚ) (payment : Payment) (accountId : String) : Digest Unit :=
  if payment.includeInReportDigestion then digestReport env report payment accountId else pure ()

/-- A report with the owner of its query. -/
def freshReport (reportId : String) (db : Db) : Option (Report ℚ × Option String) :=
  (db.reports.find reportId).map fun report =>
    (report.load, (db.queries.find report.queryId).bind (·.ownerAccountId))

/-- The body of the loop of `checkRelations`. A relation that is skipped stays as it is. -/
def digestRelation (env : Env) (relation : ReportPaymentRelation) : Digest Unit := do
  let found ← find fun db => db.payments.find relation.paymentId
  let payment ← check (orThrow found (.notFound "Payment not found"))
  match ← find (freshReport relation.reportId) with
  | none | some (_, none) | some (_, some "") => return
  | some (report, some accountId) =>
    digestIncluded env report payment accountId
    let relation := { relation with digestionStatus := .completed, digestionId := "" }
    save fun db => { db with relations := db.relations.save relation }

end Postral.Reports
