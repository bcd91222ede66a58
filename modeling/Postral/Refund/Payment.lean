import Postral.Refund.Service

/-! # The refund payment (`PaymentService.createRefundPayment`) -/

open Check

namespace Postral.Refund

/-- `String(v)` of a column value. -/
def columnText (m : ℤ) : String :=
  let fraction := ((Nat.toDigits 10 (m.natAbs % 10000 + 10000)).drop 1).rdropWhile (· = '0')
  String.ofList ((if m < 0 then ['-'] else []) ++ Nat.toDigits 10 (m.natAbs / 10000) ++
    (if fraction = [] then [] else '.' :: fraction))

/-- The checks on the purchase. -/
def loadOriginalPayment (db : Db) (request : RefundRequest) : Except HttpError Payment := do
  require (request.status ≠ .approved)
    (.internal "Refund request is already approved. Cannot create refund payment again.")
  let original ← orThrow (db.payments.find request.paymentId)
    (.notFound "Original payment not found for refund generation")
  require (!truthy original.externalPlatformId)
    (.badRequest "External platform refunds are not supported yet; process the refund on the external platform")
  require (original.type = .purchase ∧ original.paymentStatus = .completed)
    (.badRequest "Can only refund completed PURCHASE payments")
  return original

/-- The line of the refund payment for a line of the request. -/
def refundPaymentItem (original : Payment) (line : RefundRequestItem) : Except HttpError PaymentItemDTO := do
  let item ← orThrow (original.items.find line.paymentItemId)
    (.badRequest "Refund item is missing original payment or amount information")
  return { item.toDto with
    originalPaymentItemId := some item.id
    quantity := fromColumn line.refundCount
    totalAmount := fromColumn line.refundAmount
    taxAmount := fromColumn line.refundTaxAmount
    unTaxAmount := fromColumn line.refundAmountWithoutTax
    appComissionAmount := fromColumn line.appComissionAmount }

def refundCalculation (items : List PaymentItemDTO) : ItemListCalculationDto where
  items := items
  totalAmount := addNumberValues (items.map (·.totalAmount))
  totalTaxAmount := addNumberValues (items.map (·.taxAmount))
  taxes := items.map fun item =>
    ⟨columnText (toColumn item.taxPercent), item.totalAmount, item.taxPercent, item.taxAmount, item.unTaxAmount⟩

/-- A refund payment that is not stored yet, with the plan of the channels. -/
abbrev PreparedRefund := PaymentDraft × List RefundChannelPlan

/-- `plan` is the answer of `prepareRefundChannelPlan`. `none` when the request has a payment already. -/
def prepareRefundPayment (db : Db) (dir : Directory) (plan : Except HttpError (List RefundChannelPlan))
    (request : RefundRequest) (original : Payment) : Except HttpError (Option PreparedRefund) :=
  if ∃ p ∈ db.payments.rows, p.refundRequestId = some request.id then
    return none
  else do
    let plan ← plan
    let items ← request.items.mapM (refundPaymentItem original)
    let pdto := {
      type := .refund
      currency := original.currency
      itemNotes := items.map (·.note)
      customerAccountId := original.customerAccountId.getD ""
      refundRequestId := some request.id }
    let draft ← generateEntityFromInitDto dir (fun _ => throw (.internal "")) pdto (some (refundCalculation items))
    return some ({ draft with paymentStatus := .waiting }, plan)

/-- The transaction of `createRefundPayment`. `id` and `itemIds` are the keys that the database gives. -/
def storeRefundPayment (db : Db) (request : RefundRequest) (prepared : Option PreparedRefund) (id : String)
    (itemIds : List String) : Except HttpError Db := do
  let pending := .badRequest "Refund request must be persisted and PENDING"
  let stored ← orThrow (db.refundRequests.find request.id) pending
  require (stored.status = .pending) pending
  match db.payments.rows.find? fun p => p.refundRequestId = some request.id with
  | some existing => do
    require (existing.paymentStatus ≠ .failed)
      (.badRequest "Refund payment failed; reconcile its channel operations before retrying")
    return db
  | none => do
    let (draft, plan) ← orThrow prepared
      (.badRequest "Refund payment changed during preparation; retry the same request")
    let payment ← orThrow (draft.store id itemIds) (.internal "Duplicate entry for key PRIMARY")
    let payments ← insert db.payments payment
    return { db with
      payments := payments, refundRequests := db.refundRequests.save { stored with channelRefundPlan := some plan } }

end Postral.Refund
