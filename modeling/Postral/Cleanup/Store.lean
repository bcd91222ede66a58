import Postral.Basic
import Postral.Lib.Batch

/-!
# The tables of the payment cleanup (`PaymentCleanupService`)

Every row has its key and the columns with which it refers to payments, reports and refund requests.
-/

open Check

namespace Postral.Cleanup

structure Payment where
  id : String
  createdAt : ℤ
  refundRequestId : Option String := none
  deriving DecidableEq

structure PostralPaymentItem where
  id : String
  paymentId : String
  refundPaymentId : Option String := none
  deriving DecidableEq

/-- The tables whose rows refer to a payment and nothing else. -/
structure PaymentRow where
  id : String
  paymentId : String
  deriving DecidableEq

structure PaymentChannelOperation where
  id : String
  paymentId : Option String
  deriving DecidableEq

structure Invoice where
  id : String
  paymentId : Option String
  sellerPaymentOrderId : Option String
  deriving DecidableEq

structure RefundRequestItem where
  id : String
  refundRequestId : String
  deriving DecidableEq

structure PostralPaymentEvent where
  id : String
  aggregateId : String
  occurredAt : ℤ
  deriving DecidableEq

structure Report where
  id : String
  lastDigestedPaymentId : Option String := none
  deriving DecidableEq

structure ReportPaymentRelation where
  id : String
  paymentId : String
  reportId : String
  deriving DecidableEq

/-- The tables whose rows refer to a report and nothing else. -/
structure ReportRow where
  id : String
  reportId : String
  deriving DecidableEq

structure Db where
  payments : Table Payment.id := .empty
  paymentItems : Table PostralPaymentItem.id := .empty
  paymentTaxes : Table PaymentRow.id := .empty
  sellerPaymentOrders : Table PaymentRow.id := .empty
  invoices : Table Invoice.id := .empty
  refundRequests : Table PaymentRow.id := .empty
  refundRequestItems : Table RefundRequestItem.id := .empty
  accountPaymentTransactions : Table PaymentRow.id := .empty
  paymentChannelOperations : Table PaymentChannelOperation.id := .empty
  paymentEvents : Table PostralPaymentEvent.id := .empty
  reports : Table Report.id := .empty
  reportPaymentRelations : Table ReportPaymentRelation.id := .empty
  reportTaxGroups : Table ReportRow.id := .empty
  reportExpenses : Table ReportRow.id := .empty
  reportItems : Table ReportRow.id := .empty
  reportPlatforms : Table ReportRow.id := .empty
  reportQueryCount : ℕ := 0

/-! ## The preview -/

/-- What the service takes from outside. -/
structure Env where
  /-- `POSTRAL_ENABLE_ARCHIVE === 'true'`. -/
  enabled : Bool
  /-- `new Date(text)`. `none` is not a date. -/
  date : String → Option ℤ
  /-- The checksum of the dump of a database. -/
  checksum : Db → String

structure PaymentCleanupOptions where
  before : Option String := none

structure PaymentCleanupPreview where
  enabled : Bool
  before : Option String
  paymentIds : List String
  preservedReportQueryCount : ℕ
  affectedReportIds : List String
  counts : List (String × ℕ)
  warnings : List String
  deriving DecidableEq

def assertEnabled (env : Env) : Except HttpError Unit :=
  require (env.enabled = true)
    (.badRequest "Payment archive and cleanup operations are disabled. Set POSTRAL_ENABLE_ARCHIVE=true.")

/-- The date of `before`, when it is given and not empty. -/
def parseBefore (env : Env) (before : Option String) : Except HttpError (Option ℤ) :=
  if truthy before then
    some <$> orThrow (before.bind env.date) (.badRequest "before must be a valid ISO date.")
  else pure none

def inScope (date : Option ℤ) (payment : Payment) : Prop := ∀ d ∈ date, payment.createdAt < d

instance (date : Option ℤ) : DecidablePred (inScope date) := fun payment => by
  unfold inScope
  infer_instance

def findPaymentIds (env : Env) (db : Db) (before : Option String) : Except HttpError (List String) := do
  let date ← parseBefore env before
  return (db.payments.rows.filter (inScope date)).map (·.id)

def countWhere {ρ κ : Type} {key : ρ → κ} (t : Table key) (p : ρ → Prop) [DecidablePred p] : ℕ := t.rows.countP p

def findRefundRequestIds (db : Db) (paymentIds : List String) : List String :=
  (db.refundRequests.rows.filter (·.paymentId ∈ paymentIds)).map (·.id)

/-- `SELECT DISTINCT`. -/
def findAffectedReportIds (db : Db) (paymentIds : List String) : List String :=
  ((db.reportPaymentRelations.rows.filter (·.paymentId ∈ paymentIds)).map (·.reportId)).dedup

def countPaymentEvents (db : Db) (paymentIds : List String) (date : Option ℤ) : ℕ :=
  countWhere db.paymentEvents fun event => event.aggregateId ∈ paymentIds ∧ ∀ d ∈ date, event.occurredAt < d

def warnings : List String :=
  ["postral.admin.warning.report-queries-preserved", "postral.admin.warning.reports-may-be-empty",
    "postral.admin.warning.live-accounts-preserved", "postral.admin.warning.preview-only"]

def preview (env : Env) (db : Db) (options : PaymentCleanupOptions) : Except HttpError PaymentCleanupPreview := do
  assertEnabled env
  let paymentIds ← findPaymentIds env db options.before
  let date ← parseBefore env options.before
  let affectedReportIds := findAffectedReportIds db paymentIds
  return {
    enabled := true
    before := if truthy options.before then options.before else none
    paymentIds := paymentIds
    preservedReportQueryCount := db.reportQueryCount
    affectedReportIds := affectedReportIds
    counts := [
      ("payment", paymentIds.length),
      ("postral_payment_item", countWhere db.paymentItems (·.paymentId ∈ paymentIds)),
      ("postral_payment_tax", countWhere db.paymentTaxes (·.paymentId ∈ paymentIds)),
      ("seller_payment_order", countWhere db.sellerPaymentOrders (·.paymentId ∈ paymentIds)),
      ("invoice", countWhere db.invoices fun invoice => ∃ id ∈ invoice.paymentId, id ∈ paymentIds),
      ("refund_request", countWhere db.refundRequests (·.paymentId ∈ paymentIds)),
      ("refund_request_item",
        countWhere db.refundRequestItems (·.refundRequestId ∈ findRefundRequestIds db paymentIds)),
      ("account_payment_transaction", countWhere db.accountPaymentTransactions (·.paymentId ∈ paymentIds)),
      ("payment_channel_operation",
        countWhere db.paymentChannelOperations fun operation => ∃ id ∈ operation.paymentId, id ∈ paymentIds),
      ("postral_payment_event", countPaymentEvents db paymentIds date),
      ("report_payment_relation", countWhere db.reportPaymentRelations (·.paymentId ∈ paymentIds)),
      ("report", affectedReportIds.length),
      ("report_tax_group", countWhere db.reportTaxGroups (·.reportId ∈ affectedReportIds)),
      ("report_expense", countWhere db.reportExpenses (·.reportId ∈ affectedReportIds))]
    warnings := warnings }

/-! ## The deletion -/

/-- Within one transaction. A foreign key of the invoices refuses the deletion of an order that one of
them still names. The other foreign keys cascade. -/
def deleteReports (db : Db) (reportIds : List String) : Db :=
  { db with
    reportTaxGroups := db.reportTaxGroups.delete (·.reportId ∈ reportIds)
    reportExpenses := db.reportExpenses.delete (·.reportId ∈ reportIds)
    reportPaymentRelations := db.reportPaymentRelations.delete (·.reportId ∈ reportIds)
    reports := db.reports.delete (·.id ∈ reportIds) }

def deletePayments (db : Db) (paymentIds : List String) : Except HttpError Db := do
  let requestIds := findRefundRequestIds db paymentIds
  let invoices := db.invoices.delete fun invoice => ∃ id ∈ invoice.paymentId, id ∈ paymentIds
  let orders := db.sellerPaymentOrders.rows.filter (·.paymentId ∈ paymentIds)
  require (∀ invoice ∈ invoices.rows, ∀ id ∈ invoice.sellerPaymentOrderId, id ∉ orders.map (·.id))
    (.internal "Cannot delete or update a parent row: a foreign key constraint fails")
  return { db with
    refundRequestItems := db.refundRequestItems.delete (·.refundRequestId ∈ requestIds)
    refundRequests := db.refundRequests.delete (·.paymentId ∈ paymentIds)
    accountPaymentTransactions := db.accountPaymentTransactions.delete (·.paymentId ∈ paymentIds)
    paymentChannelOperations := db.paymentChannelOperations.delete fun operation =>
      ∃ id ∈ operation.paymentId, id ∈ paymentIds
    paymentEvents := db.paymentEvents.delete (·.aggregateId ∈ paymentIds)
    invoices := invoices
    sellerPaymentOrders := db.sellerPaymentOrders.delete (·.paymentId ∈ paymentIds)
    -- the second reference cascades with the payments
    paymentItems := db.paymentItems.delete fun item =>
      item.paymentId ∈ paymentIds ∨ ∃ id ∈ item.refundPaymentId, id ∈ paymentIds
    paymentTaxes := db.paymentTaxes.delete (·.paymentId ∈ paymentIds)
    payments := db.payments.delete (·.id ∈ paymentIds) }

/-- The transaction of the cleanup. When it throws, it is rolled back. -/
def deleteScope (db : Db) (preview : PaymentCleanupPreview) : Except HttpError Db :=
  deletePayments (deleteReports db preview.affectedReportIds) preview.paymentIds

/-! ## Archives -/

structure PaymentArchiveManifest where
  id : String
  dumpPath : String
  checksum : String
  before : Option String := none
  paymentCount : ℕ
  deriving DecidableEq

/-- The files of the archive directory. -/
structure Files where
  manifests : String → Option PaymentArchiveManifest := fun _ => none
  dumps : String → Option Db := fun _ => none

structure PaymentCleanupRequest extends PaymentCleanupOptions where
  archiveId : String
  confirmation : String

/-- `/^[0-9a-f-]{36}$/i`. -/
def isArchiveId (id : String) : Bool :=
  id.toList.length = 36 ∧ id.toList.all fun c =>
    c.isDigit ∨ c = '-' ∨ ('a'.toNat ≤ c.toLower.toNat ∧ c.toLower.toNat ≤ 'f'.toNat)

def readManifest (files : Files) (archiveId : String) : Except HttpError PaymentArchiveManifest := do
  require (isArchiveId archiveId = true) (.badRequest "Invalid payment archive ID.")
  orThrow (files.manifests archiveId) (.notFound "Payment archive manifest not found.")

def assertArchiveIntact (env : Env) (files : Files) (manifest : PaymentArchiveManifest) : Except HttpError Unit := do
  let dump ← orThrow (files.dumps manifest.dumpPath) (.badRequest "Payment archive dump is missing.")
  require (env.checksum dump = manifest.checksum) (.badRequest "Payment archive checksum does not match its manifest.")

/-- The checks of a cleanup, up to its transaction. -/
def previewCleanup (env : Env) (files : Files) (db : Db) (request : PaymentCleanupRequest) :
    Except HttpError PaymentCleanupPreview := do
  assertEnabled env
  require (request.confirmation = "DELETE_PAYMENT_DATA")
    (.badRequest "Type DELETE_PAYMENT_DATA to confirm payment cleanup.")
  let manifest ← readManifest files request.archiveId
  assertArchiveIntact env files manifest
  let preview ← preview env db ⟨request.before.orElse fun _ => manifest.before⟩
  require (preview.paymentIds.length = manifest.paymentCount)
    (.badRequest "The archive manifest does not match the current cleanup scope.")
  return preview

def cleanup (env : Env) (files : Files) (db : Db) (request : PaymentCleanupRequest) :
    Except HttpError (PaymentCleanupPreview × Db) := do
  let preview ← previewCleanup env files db request
  let db ← deleteScope db preview
  return (preview, db)

section Spec

variable {env : Env} {files : Files} {db db' : Db} {request : PaymentCleanupRequest} {preview : PaymentCleanupPreview}

theorem delete_scope_spec (h : deleteScope db preview = .ok db') :
    db' = { db with
      refundRequestItems := db.refundRequestItems.delete
        (·.refundRequestId ∈ findRefundRequestIds db preview.paymentIds)
      refundRequests := db.refundRequests.delete (·.paymentId ∈ preview.paymentIds)
      accountPaymentTransactions := db.accountPaymentTransactions.delete (·.paymentId ∈ preview.paymentIds)
      paymentChannelOperations := db.paymentChannelOperations.delete fun operation =>
        ∃ id ∈ operation.paymentId, id ∈ preview.paymentIds
      paymentEvents := db.paymentEvents.delete (·.aggregateId ∈ preview.paymentIds)
      invoices := db.invoices.delete fun invoice => ∃ id ∈ invoice.paymentId, id ∈ preview.paymentIds
      sellerPaymentOrders := db.sellerPaymentOrders.delete (·.paymentId ∈ preview.paymentIds)
      paymentItems := db.paymentItems.delete fun item =>
        item.paymentId ∈ preview.paymentIds ∨ ∃ id ∈ item.refundPaymentId, id ∈ preview.paymentIds
      paymentTaxes := db.paymentTaxes.delete (·.paymentId ∈ preview.paymentIds)
      payments := db.payments.delete (·.id ∈ preview.paymentIds)
      reportTaxGroups := db.reportTaxGroups.delete (·.reportId ∈ preview.affectedReportIds)
      reportExpenses := db.reportExpenses.delete (·.reportId ∈ preview.affectedReportIds)
      reportPaymentRelations := db.reportPaymentRelations.delete (·.reportId ∈ preview.affectedReportIds)
      reports := db.reports.delete (·.id ∈ preview.affectedReportIds) } := by
  unfold deleteScope deletePayments deleteReports at h
  simp only [bind_eq_ok, pure_eq_ok] at h
  obtain ⟨-, -, rfl⟩ := h
  rfl

/-- An accepted cleanup names an archive that has counted as many payments as it deletes. -/
theorem cleanup_ok (h : cleanup env files db request = .ok (preview, db')) :
    ∃ manifest, files.manifests request.archiveId = some manifest ∧
      Cleanup.preview env db ⟨request.before.orElse fun _ => manifest.before⟩ = .ok preview ∧
      preview.paymentIds.length = manifest.paymentCount ∧ deleteScope db preview = .ok db' := by
  simp only [cleanup, bind_eq_ok, pure_eq_ok] at h
  obtain ⟨found, hpreview, after, hdelete, heq⟩ := h
  obtain ⟨rfl, rfl⟩ := Prod.mk.inj heq
  simp only [previewCleanup, bind_eq_ok, pure_eq_ok, require_eq_ok] at hpreview
  obtain ⟨-, -, -, -, manifest, hmanifest, -, -, preview, hfound, -, hcount, rfl⟩ := hpreview
  simp only [readManifest, bind_eq_ok, orThrow_eq_ok] at hmanifest
  obtain ⟨-, -, hmanifest⟩ := hmanifest
  exact ⟨manifest, hmanifest, hfound, hcount, hdelete⟩

end Spec

end Postral.Cleanup
