import Postral.Entity

/-!
# Saving what a channel answers

`savePaymentChannelRecord` and, for a refund with a plan, `saveRefundSettlementRecord`.
-/

open Check

namespace Postral.Operations

structure Db where
  operations : Table PaymentChannelOperation.id
  /-- The ledger, oldest entry first. -/
  transactions : List AccountPaymentTransaction
  deriving DecidableEq

/-- What the transaction reads from other tables, and the random values it draws. -/
structure Env where
  sellerPaysPaymentServiceFee : Bool
  /-- The payment's customer account. `none` when there is no such payment. -/
  customerAccountId : String → Option (Option String)
  accountName : String → Option String
  /-- `randomUUID`, for the line of an item. -/
  corelationId : String → String

/-- A settlement whose fields are strings. -/
structure SettledLine where
  originalPaymentItemId : String
  providerAmount : String
  deriving DecidableEq

def readSettlement : Option RefundSettlement → Option SettledLine
  | some ⟨some originalPaymentItemId, some providerAmount⟩ => some ⟨originalPaymentItemId, providerAmount⟩
  | _ => none

/-- `providerAmount - nominalAmount`. -/
def RefundChannelLine.difference (line : RefundChannelLine) : ℤ := line.providerAmount.value - line.nominalAmount.value

/-- The rounding entry of one side. The customer's is `CREDIT` when the provider paid more. -/
def roundingEntry (env : Env) (operation : PaymentChannelOperation) (line : RefundChannelLine) (accountId : String)
    (isCustomer : Bool) : Except HttpError AccountPaymentTransaction := do
  let accountName ← orThrow (env.accountName accountId) (.badRequest "Refund rounding account not found")
  return {
    corelationId := env.corelationId line.originalPaymentItemId
    accountId := accountId
    accountName := accountName
    paymentId := operation.paymentId
    roundingOperationId := some operation.id
    type := if decide (0 < RefundChannelLine.difference line) = isCustomer then .credit else .debit
    status := .completed
    amount := |RefundChannelLine.difference line|
    taxAmount := 0
    description := s!"Refund rounding adjustment for {operation.id}/{line.originalPaymentItemId}" }

/-- The rounding entries of a line that becomes settled. -/
def roundingEntries (env : Env) (operation : PaymentChannelOperation) (plan : RefundChannelPlan)
    (line : RefundChannelLine) : Except HttpError (List AccountPaymentTransaction) :=
  if RefundChannelLine.difference line = 0 then
    return []
  else do
    require (truthy plan.roundingAccountId) (.badRequest "Refund rounding account is missing")
    let roundingAccountId := plan.roundingAccountId.getD ""
    let customerAccountId ← orThrow (env.customerAccountId operation.paymentId) (entityNotFound "Payment")
    require (truthy customerAccountId ∧ customerAccountId ≠ some roundingAccountId)
      (.badRequest "Invalid refund rounding counterparties")
    let customer ← roundingEntry env operation line (customerAccountId.getD "") true
    let platform ← roundingEntry env operation line roundingAccountId false
    return [customer, platform]

/-- One settlement of the loop. -/
def settleLine (env : Env) (operation : PaymentChannelOperation) (plan : RefundChannelPlan)
    (acc : List String × List AccountPaymentTransaction) (settlement : SettledLine) :
    Except HttpError (List String × List AccountPaymentTransaction) := do
  let mismatch := .badRequest "Channel refund settlement amount or line mismatch"
  let line ← orThrow
    (plan.lines.find? fun line => line.originalPaymentItemId = settlement.originalPaymentItemId) mismatch
  require (settlement.providerAmount = line.providerAmount.text) mismatch
  if line.originalPaymentItemId ∈ acc.1 then
    return acc
  else do
    let entries ← roundingEntries env operation plan line
    return (acc.1 ++ [line.originalPaymentItemId], acc.2 ++ entries)

/-- `settled`, as the transaction reads it. -/
def settledIds (operation : PaymentChannelOperation) : List String :=
  uniqueValues (operation.settledRefundItemIds.getD [])

/-- A well-formed result for the operation. -/
structure ValidResult where
  operationId : String
  status : PaymentOperationStatus
  settlements : List SettledLine
  deriving DecidableEq

/-- The first check of the transaction. -/
def readResult (operation : PaymentChannelOperation) (plan : RefundChannelPlan) (result : PaymentChannelStatusDTO)
    (paymentId : String) : Except HttpError ValidResult := do
  let invalid := .badRequest "Invalid channel refund settlement; reconciliation is required"
  let raw ← orThrow result.refundSettlements invalid
  let settlements ← orThrow (raw.mapM readSettlement) invalid
  require (operation.operationType = .refund ∧ result.paymentChannelId = some operation.paymentChannelId) invalid
  require (truthy result.paymentChannelOperationId) invalid
  require (truthy operation.operationId → result.paymentChannelOperationId = operation.operationId) invalid
  require (operation.paymentId = paymentId) invalid
  let status ← orThrow result.paymentStatus invalid
  require (settlements.map (·.originalPaymentItemId)).Nodup invalid
  require (addNumberValues (plan.lines.map (·.nominalAmount.value)) = operation.amount) invalid
  require (status = .completed → settlements.length = plan.lines.length) invalid
  require (status = .failed → settlements = []) invalid
  return ⟨result.paymentChannelOperationId.getD "", status, settlements⟩

def saveRefundSettlementRecord (env : Env) (db : Db) (recordId : String) (result : PaymentChannelStatusDTO)
    (paymentId : String) : Except HttpError Db := do
  let operation ← orThrow (db.operations.find recordId) (entityNotFound "PaymentChannelOperation")
  let plan ← orThrow operation.refundPlan
    (.badRequest "Invalid channel refund settlement; reconciliation is required")
  let valid ← readResult operation plan result paymentId
  let settled := settledIds operation
  require (operation.status = .completed → valid.status = .completed)
    (.conflict "Completed channel refund cannot regress")
  require (∀ id ∈ settled, id ∈ valid.settlements.map (·.originalPaymentItemId))
    (.conflict "Channel refund settlement cannot lose completed lines")
  let (settled, entries) ← valid.settlements.foldlM (settleLine env operation plan) (settled, [])
  let operation := { operation with
    operationId := some valid.operationId
    status := valid.status
    providerFee := (result.providerFee.map toColumn).getD operation.providerFee
    feeCutInstantly := result.feeCutInstantly.getD operation.feeCutInstantly
    providerFeeDebitFrom := if env.sellerPaysPaymentServiceFee then .seller else .platform
    settledRefundItemIds := some settled }
  return ⟨db.operations.save operation, db.transactions ++ entries⟩

/-- Outside a refund plan the answer is stored as it is. A status of another type is not modelled. -/
def savePaymentChannelRecord (env : Env) (db : Db) (record : PaymentChannelOperation)
    (result : PaymentChannelStatusDTO) (paymentId : String) : Except HttpError Db :=
  if record.operationType = .refund ∧ record.refundPlan.isSome then
    saveRefundSettlementRecord env db record.id result paymentId
  else do
    let status ← orThrow result.paymentStatus (.internal "unknown paymentStatus")
    let record := { record with
      operationId := result.paymentChannelOperationId
      paymentId := paymentId
      paymentChannelId := result.paymentChannelId.getD ""
      status := status
      providerFee := (result.providerFee.map toColumn).getD record.providerFee
      feeCutInstantly := result.feeCutInstantly.getD record.feeCutInstantly
      providerFeeDebitFrom := if env.sellerPaysPaymentServiceFee then .seller else .platform }
    return { db with operations := db.operations.save record }

end Postral.Operations
