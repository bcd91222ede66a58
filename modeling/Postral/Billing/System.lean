import Postral.Lib.Batch
import Postral.Lib.Run
import Postral.Billing.Digestion
import Postral.Payments.Snapshots

/-!
# Billing runs beside digestions (`BillingService`)

A billing run reads the unbilled reports of a seller, creates a payment over their total and marks the
reports. Nothing is locked in between. The payment is refused for want of a billing address.
-/

open Check Session Postral.Reports Postral.Snapshots

namespace Postral.Billing

/-! ## Bills -/

inductive BillKind where
  /-- Paid by the seller, over the PLATFORM_SELLER reports. -/
  | commission
  /-- Paid to the seller, over the SELLER reports. -/
  | earnings
  deriving DecidableEq, Repr

def BillKind.reportType : BillKind → ReportType
  | .commission => .platformSeller
  | .earnings => .seller

/-- The column that a bill sums up. -/
def BillKind.amount (kind : BillKind) (r : Report ℤ) : ℤ :=
  match kind with
  | .commission => r.netSaleAmount
  | .earnings => r.netRevenueWithoutExpenseTaxed

structure AdminSettings where
  billingAccountId : Option String
  /-- `comissionItemTax?.variations?.[0]?.taxRate`. -/
  taxRate : Option ℤ
  deriving DecidableEq

structure BillTask where
  kind : BillKind
  sellerAccountId : String
  currency : String
  deriving DecidableEq

/-- What a digestion added to the amounts of its report. -/
structure Portion where
  id : ℕ
  reportId : String
  paymentId : String
  netSaleAmount : ℤ
  netRevenueWithoutExpenseTaxed : ℤ
  deriving DecidableEq

def BillKind.portion (kind : BillKind) (p : Portion) : ℤ :=
  match kind with
  | .commission => p.netSaleAmount
  | .earnings => p.netRevenueWithoutExpenseTaxed

/-- The parameters of `createBillingPayment`, with the reports that are to be marked. -/
structure Bill where
  kind : BillKind
  customerAccountId : String
  sellerAccountId : String
  totalAmount : ℤ
  currency : String
  itemId : String
  itemName : String
  taxRate : ℤ
  reportIds : List String
  /-- History: the portions that the reports had when they were read. -/
  included : List Portion
  deriving DecidableEq

/-! ## The queries -/

/-- Daily reports of sellers are billed. -/
def isBilled (query : ReportQuery) : Prop :=
  query.dateGrouping = .daily ∧ (query.reportType = .seller ∨ query.reportType = .platformSeller)

instance (query : ReportQuery) : Decidable (isBilled query) := by
  unfold isBilled
  infer_instance

/-- `DISTINCT rq.ownerAccountId`. -/
def sellersOf (db : Db) : List String :=
  ((db.queries.rows.filter fun query => isBilled query).filterMap (·.ownerAccountId)).dedup

/-- A report of a past day with payments and without a mark. -/
def isUnbilled (today : String) (r : Report ℤ) : Prop :=
  r.billedAt = none ∧ r.archived = false ∧ 0 < r.paymentCount ∧ r.periodLabel < today

instance (today : String) (r : Report ℤ) : Decidable (isUnbilled today r) := by
  unfold isUnbilled
  infer_instance

def getDistinctUnbilledCurrencies (db : Db) (ownerAccountId today : String) : List String :=
  ((db.reports.rows.filter fun r : Report ℤ => (∃ query ∈ db.queries.find r.queryId,
    query.ownerAccountId = some ownerAccountId ∧ isBilled query) ∧ isUnbilled today r).map (·.currency)).dedup

def findUnbilledReports (db : Db) (task : BillTask) (today : String) : List (Report ℤ) :=
  db.reports.rows.filter fun r => (∃ query ∈ db.queries.find r.queryId,
    query.ownerAccountId = some task.sellerAccountId ∧ query.dateGrouping = .daily ∧
      query.reportType = task.kind.reportType) ∧ r.currency = task.currency ∧ isUnbilled today r

def buildPeriodDesc (reports : List (Report ℤ)) : String :=
  let labels := (reports.map (·.periodLabel)).insertionSort (· ≤ ·)
  match labels with
  | [] => ""
  | [label] => label
  | first :: rest => first ++ " - " ++ rest.getLastD first

/-- `createCommissionBillingForSeller` and `createEarningsBillingForSeller`. -/
def createBill (settings : AdminSettings) (task : BillTask) (reports : List (Report ℤ)) (included : List Portion) : Bill :=
  let billingAccountId := settings.billingAccountId.getD ""
  let bill : Bill := {
    kind := task.kind
    customerAccountId := task.sellerAccountId
    sellerAccountId := billingAccountId
    totalAmount := (reports.map task.kind.amount).sum
    currency := task.currency
    itemId := "BILLING_COMMISSION"
    itemName := "Komisyon Faturası: " ++ buildPeriodDesc reports
    taxRate := settings.taxRate.getD 0
    reportIds := reports.map (·.id)
    included := included }
  match task.kind with
  | .commission => bill
  | .earnings => { bill with
      customerAccountId := billingAccountId
      sellerAccountId := task.sellerAccountId
      itemId := "BILLING_EARNINGS"
      itemName := "Hakediş: " ++ buildPeriodDesc reports
      taxRate := 0 }

/-- What the run hands over. -/
def Bill.params (bill : Bill) : BillingParams where
  customerAccountId := bill.customerAccountId
  sellerAccountId := bill.sellerAccountId
  totalAmount := fromColumn bill.totalAmount
  currency := bill.currency
  itemId := bill.itemId
  itemName := bill.itemName
  taxRate := fromColumn bill.taxRate

def markReportsAsBilled (db : Db) (reportIds : List String) (now : ℕ) : Db :=
  { db with reports := db.reports.update (fun r => r.id ∈ reportIds) (fun r => { r with billedAt := some now }) fun _ => rfl }

/-! ## The system -/

/-- Where a billing run is. -/
inductive BillingPoint where
  | sellers (rest : List String)
  | tasks (rest : List BillTask) (sellers : List String)
  | creating (task : BillTask) (reports : List (Report ℤ)) (included : List Portion) (rest : List BillTask)
      (sellers : List String)
  | marking (bill : Bill) (rest : List BillTask) (sellers : List String)
  deriving DecidableEq

structure BillingRun where
  id : ℕ
  settings : AdminSettings
  point : BillingPoint
  deriving DecidableEq

/-- A digestion that has read its report. -/
structure Digestion where
  id : ℕ
  relation : ReportPaymentRelation
  payment : Payment
  report : Report ℤ
  accountId : String

structure System where
  db : Db
  digestions : Table Digestion.id
  runs : Table BillingRun.id
  bills : List Bill
  /-- History: the marks, the latest first. -/
  marks : List (String × Bill)
  /-- History: what the digestions added. -/
  portions : List Portion

/-- The services that `createBillingPayment` calls, and the keys that the database generates. -/
structure PaymentServices where
  config : Accounts.Config
  services : CrudServices config
  newKeys : ℕ → String × String
  numberText : ℚ → String
  ids : String × String × String

inductive BillingAct where
  | load (id : ℕ) (relation : ReportPaymentRelation)
  /-- The digestion goes on to its end. Any of its statements may fail. -/
  | digest (id : ℕ) (errors : ℕ → Option HttpError)
  | findOrCreate (query : ReportQuery) (periodLabel currency id : String)
  /-- The rest of the system changes its tables: payments complete, relations and queries are added. -/
  | environment (other : Db)
  | runBilling (id : ℕ) (settings : AdminSettings)
  | advance (id : ℕ) (today : String) (now : ℕ) (payments : PaymentServices)
  /-- A statement of the run fails. -/
  | fail (id : ℕ)

def System.start : System := ⟨Db.empty, .empty, .empty, [], [], []⟩

namespace System

def setDb (s : System) (db : Db) : System := { s with db := db }

def setRun (s : System) (run : BillingRun) (point : BillingPoint) : System :=
  { s with runs := s.runs.save { run with point := point } }

def endRun (s : System) (id : ℕ) : System := { s with runs := s.runs.delete fun run => run.id = id }

end System

def loadDigestion (db : Db) (id : ℕ) (relation : ReportPaymentRelation) : Option Digestion := do
  let payment ← db.payments.find relation.paymentId
  let report ← db.reports.find relation.reportId
  let accountId ← ownerOf db report
  if accountId = "" then none else some ⟨id, relation, payment, report, accountId⟩

/-- What the digestion has added, from the row that it read to the one that it saved. -/
def portionOf (d : Digestion) (id : ℕ) (saved : Report ℤ) : Portion where
  id := id
  reportId := d.report.id
  paymentId := d.payment.id
  netSaleAmount := saved.netSaleAmount - d.report.netSaleAmount
  netRevenueWithoutExpenseTaxed := saved.netRevenueWithoutExpenseTaxed - d.report.netRevenueWithoutExpenseTaxed

def finishDigestion (env : Env) (s : System) (d : Digestion) (errors : ℕ → Option HttpError) : System :=
  let db := left (digestLoaded env d.relation d.payment d.report.load d.accountId) { db := s.db, failure := errors }
  { s with
    db := db
    digestions := s.digestions.delete fun x => x.id = d.id
    portions :=
      if db.reports.rows = s.db.reports.rows then s.portions
      else portionOf d s.portions.length ((db.reports.find d.report.id).getD d.report) :: s.portions }

def advanceRun (s : System) (run : BillingRun) (today : String) (now : ℕ) (payments : PaymentServices) : System :=
  match run.point with
  | .sellers [] => s.endRun run.id
  | .sellers (ownerAccountId :: sellers) =>
    if run.settings.billingAccountId = some ownerAccountId then s.setRun run (.sellers sellers)
    else
      let currencies := getDistinctUnbilledCurrencies s.db ownerAccountId today
      s.setRun run (.tasks (currencies.flatMap fun currency =>
        [⟨.commission, ownerAccountId, currency⟩, ⟨.earnings, ownerAccountId, currency⟩]) sellers)
  | .tasks [] sellers => s.setRun run (.sellers sellers)
  | .tasks (task :: rest) sellers =>
    let reports := findUnbilledReports s.db task today
    if reports.length = 0 ∨ (reports.map task.kind.amount).sum ≤ 0 then s.setRun run (.tasks rest sellers)
    else s.setRun run (.creating task reports (s.portions.filter fun p => p.reportId ∈ reports.map (·.id)) rest sellers)
  | .creating task reports included rest sellers =>
    let bill := createBill run.settings task reports included
    match createBillingPayment payments.services payments.newKeys payments.numberText bill.params payments.ids with
    | .ok _ => { s.setRun run (.marking bill rest sellers) with bills := bill :: s.bills }
    -- the exception leaves `runBilling`
    | .error _ => s.endRun run.id
  | .marking bill rest sellers =>
    { s.setRun run (.tasks rest sellers) with
      db := markReportsAsBilled s.db bill.reportIds now
      marks := bill.reportIds.map (fun reportId => (reportId, bill)) ++ s.marks }

def billingStep (env : Env) (s : System) : BillingAct → Option System
  | .load id relation =>
    if (s.digestions.find id).isSome then none
    else match loadDigestion s.db id relation with
      | some d => some { s with digestions := s.digestions.save d }
      | none => some s
  | .digest id errors => (s.digestions.find id).map fun d => finishDigestion env s d errors
  | .findOrCreate query periodLabel currency id =>
    (outcome (findOrCreateByQuery query periodLabel currency id) s.db).map s.setDb
  | .environment other =>
    if ∀ query ∈ s.db.queries.rows, query ∈ other.queries.rows then some (s.setDb (other.withReportsOf s.db)) else none
  | .runBilling id settings =>
    -- without a billing account there is nothing to run
    if (s.runs.find id).isSome ∨ settings.billingAccountId.getD "" = "" then none
    else some { s with runs := s.runs.save ⟨id, settings, .sellers (sellersOf s.db)⟩ }
  | .advance id today now payments => (s.runs.find id).map fun run => advanceRun s run today now payments
  | .fail id => if (s.runs.find id).isSome then some (s.endRun id) else none

/-! ## The property -/

def Billable (db : Db) (r : Report ℤ) : Prop := ∃ query ∈ db.queries.find r.queryId, isBilled query

instance (db : Db) (r : Report ℤ) : Decidable (Billable db r) := by
  unfold Billable
  infer_instance

/-- The bill that marked the report, the last one if there are more. -/
def System.markedBy (s : System) (reportId : String) : Option Bill :=
  (s.marks.find? fun mark => mark.1 = reportId).map Prod.snd

/-- The sum of the portions of a report. -/
def portionSum (portions : List Portion) (kind : BillKind) (reportId : String) : ℤ :=
  ((portions.filter fun p => p.reportId = reportId).map kind.portion).sum

/-- Every portion of a seller's daily report is in the bill that marked the report, or the report is
unbilled. A report is the sum of its portions, and a bill the sum of those that it includes. -/
structure BillingComplete (s : System) : Prop where
  billed : ∀ p ∈ s.portions, ∀ r ∈ s.db.reports.rows, r.id = p.reportId → Billable s.db r →
    r.billedAt = none ∨ ∃ bill ∈ s.markedBy r.id, p ∈ bill.included
  bills : ∀ r ∈ s.db.reports.rows, ∀ bill ∈ s.markedBy r.id, bill ∈ s.bills ∧ r.id ∈ bill.reportIds
  totals : ∀ bill ∈ s.bills, bill.totalAmount = (bill.included.map bill.kind.portion).sum
  amounts : ∀ r ∈ s.db.reports.rows, Billable s.db r → ∀ kind : BillKind, kind.amount r = portionSum s.portions kind r.id
  distinct : (s.portions.map (·.id)).Nodup

/-- A digestion of a seller's daily report is in time when it saves the row that it read. -/
def InTime (s : System) : BillingAct → Prop
  | .digest id _ => ∀ d ∈ s.digestions.find id, d.payment.includeInReportDigestion = true → Billable s.db d.report →
      ∀ r ∈ s.db.reports.find d.report.id, r = d.report
  | _ => True

instance (s : System) (act : BillingAct) : Decidable (InTime s act) := by
  unfold InTime
  split <;> infer_instance

end Postral.Billing
