import Postral.Payments.Init

/-!
# The refund service, transaction by transaction

A transaction that throws is rolled back, so a function here answers the new tables or an error.
-/

open Check

namespace Postral.Refund

structure Db where
  payments : Table Payment.id
  refundRequests : Table RefundRequest.id
  deriving DecidableEq

/-! ## Requests as they arrive -/

/-- A value that should be a string. -/
inductive JsText where
  | text (s : String)
  | other
  deriving DecidableEq, Repr

/-- `RefundRequestItemDTO`. `none` is a value of another type, or a number that is not finite. -/
structure RefundRequestItemDTO where
  paymentItemId : Option String
  refundCount : Option ℚ
  deriving DecidableEq

/-- `none` is a value of another type. -/
structure CreateRefundRequestDTO where
  paymentId : Option String
  items : Option (List (Option RefundRequestItemDTO))
  reasonKeys : Option (List String)
  requestNote : Option JsText := none
  deriving DecidableEq

structure StartSystemRefundDTO extends CreateRefundRequestDTO where
  idempotencyKey : Option String
  deriving DecidableEq

/-- A line that passed `validateItemInput`. -/
structure RefundLine where
  paymentItemId : String
  refundCount : ℤ
  deriving DecidableEq

/-- A request that passed the input checks. -/
structure RefundInput where
  lines : List RefundLine
  reasonKeys : List RefundReasonKey
  requestNote : Option String
  deriving DecidableEq

/-! ## Input checks -/

def readItem : Option RefundRequestItemDTO → Option RefundLine
  | some ⟨some paymentItemId, some refundCount⟩ =>
    if isBlank paymentItemId ∨ refundCount ≤ 0 ∨ round refundCount 4 ≠ refundCount then none
    else some ⟨paymentItemId, toColumn refundCount⟩
  | _ => none

def validateItemInput (items : Option (List (Option RefundRequestItemDTO))) : Except HttpError (List RefundLine) := do
  let items ← orThrow items (.badRequest "At least one refund item is required")
  require (items ≠ []) (.badRequest "At least one refund item is required")
  let invalid := .badRequest "Refund items must have unique payment item IDs and positive finite quantities"
  let lines ← orThrow (items.mapM readItem) invalid
  require (lines.map (·.paymentItemId)).Nodup invalid
  return lines

def validateRefundReasons (reasonKeys : Option (List String)) : Except HttpError (List RefundReasonKey) := do
  let invalid := .badRequest "At least one valid refund reason is required"
  let keys ← orThrow reasonKeys invalid
  require (keys ≠ []) invalid
  orThrow (keys.mapM RefundReasonKey.parse) invalid

def validateNote : Option JsText → Except HttpError (Option String)
  | none => .ok none
  | some (.text note) =>
    if utf16Length note ≤ 10000 then .ok (some note)
    else .error (.badRequest "Refund notes cannot exceed 10000 characters")
  | some .other => .error (.badRequest "Refund notes cannot exceed 10000 characters")

/-! ## Checks on a payment -/

def assertPaymentIsRefundable (payment : Payment) : Except HttpError Unit := do
  require (!truthy payment.externalPlatformId)
    (.badRequest "External platform refunds are not supported yet; process the refund on the external platform")
  require (payment.type = .purchase) (.badRequest "Only PURCHASE payments can be refunded")
  require (payment.paymentStatus = .completed) (.badRequest "Can only refund completed payments")

def assertPendingRefundRequest (request : RefundRequest) : Except HttpError Unit :=
  require (request.status = .pending) (.badRequest "Refund request is not in PENDING state")

/-- Whether a live approval lease is on the payment. -/
def approvalInProgress (now : ℕ) (payment : Payment) : Bool :=
  truthy payment.refundApprovalToken && payment.refundApprovalExpiresAt.any fun expiresAt => now < expiresAt

def assertNoApprovalInProgress (now : ℕ) (payment : Payment) : Except HttpError Unit :=
  require (!approvalInProgress now payment)
    (.conflict "Another refund approval is in progress for this payment; retry later")

def getPaymentItemForRefundRequest (payment : Payment) (paymentItemId : String) : Except HttpError PaymentItem :=
  orThrow (payment.items.find paymentItemId)
    (.notFound s!"Payment item {paymentItemId} not found in this payment")

def validateRefundItems (payment : Payment) (items : Option (List (Option RefundRequestItemDTO))) :
    Except HttpError (List RefundLine) := do
  let lines ← validateItemInput items
  checkAll (fun line => do
    let item ← getPaymentItemForRefundRequest payment line.paymentItemId
    require (addNumberValues [item.refundCount, line.refundCount] ≤ item.quantity)
      (.badRequest s!"Cannot refund more than purchased quantity for item {item.name}")) lines
  return lines

/-- Two sellers are refused, and `''`. A `NULL` seller is neither, and passes. -/
def assertItemsBelongToSingleSeller (payment : Payment) (itemIds : List String) : Except HttpError Unit := do
  let items ← itemIds.mapM (getPaymentItemForRefundRequest payment)
  let sellers := (items.map (·.sellerAccountId)).dedup
  require (sellers.length = 1 ∧ some "" ∉ sellers)
    (.badRequest
      "Refund items must belong to the same seller account. Create separate refund requests for each seller.")

/-! ## A new request -/

/-- The PENDING and APPROVED requests of a payment. -/
def reservationsOf (db : Db) (paymentId : String) : List RefundRequest :=
  db.refundRequests.rows.filter fun r => r.paymentId = paymentId ∧ (r.status = .pending ∨ r.status = .approved)

/-- The lines of `requests` on an item. -/
def linesOn (requests : List RefundRequest) (itemId : String) : List RefundRequestItem :=
  (requests.flatMap (·.items)).filter fun line => line.paymentItemId = itemId

def validateNewRefundRequest (db : Db) (payment : Payment) (dto : CreateRefundRequestDTO) :
    Except HttpError (RefundInput × List RefundRequest) := do
  assertPaymentIsRefundable payment
  let lines ← validateRefundItems payment dto.items
  assertItemsBelongToSingleSeller payment (lines.map (·.paymentItemId))
  let reasonKeys ← validateRefundReasons dto.reasonKeys
  let requestNote ← validateNote dto.requestNote
  let reservations := reservationsOf db payment.id
  let pending := reservations.filter fun r => r.status = .pending
  checkAll (fun line => do
    let item ← getPaymentItemForRefundRequest payment line.paymentItemId
    let reserved := addNumberValues ((linesOn pending item.id).map (·.refundCount))
    require (addNumberValues [item.refundCount, reserved, line.refundCount] ≤ item.quantity)
      (.badRequest s!"Refund quantity is already reserved for item {item.name}")) lines
  return (⟨lines, reasonKeys, requestNote⟩, reservations)

/-- A share of a stored amount: what is left for the final quantity, else the rounded proportion. -/
def allocateAmount (isFinalQuantity : Bool) (refundCount quantity total : ℤ) (reservedAmounts : List ℤ) :
    ℤ :=
  if isFinalQuantity then minusNumberValues total reservedAmounts
  else toColumn (round (div (fromColumn total * fromColumn refundCount) (fromColumn quantity)) 4)

/-- One line of `buildRefundRequestItems`. -/
def refundItemOf (originalItem : PaymentItem) (refundCount : ℤ) (reservedItems : List RefundRequestItem) :
    RefundRequestItem :=
  let reservedCount := addNumberValues (reservedItems.map (·.refundCount))
  let isFinalQuantity := addNumberValues [reservedCount, refundCount] = originalItem.quantity
  let allocate (total : ℤ) (amount : RefundRequestItem → ℤ) :=
    allocateAmount isFinalQuantity refundCount originalItem.quantity total (reservedItems.map amount)
  let refundAmount := allocate originalItem.totalAmount (·.refundAmount)
  let refundAmountWithoutTax := allocate originalItem.unTaxAmount (·.refundAmountWithoutTax)
  { paymentItemId := originalItem.id
    realItemId := originalItem.itemId
    variation := originalItem.variation
    itemName := originalItem.name
    itemClass := originalItem.itemClass
    refundCount := refundCount
    unitAmount := originalItem.unitAmount
    unitAmountWithoutTax :=
      if 0 < originalItem.quantity then
        toColumn (fromColumn originalItem.unTaxAmount / fromColumn originalItem.quantity)
      else 0
    refundAmount := refundAmount
    refundAmountWithoutTax := refundAmountWithoutTax
    refundTaxAmount := minusNumberValues refundAmount [refundAmountWithoutTax]
    appComissionAmount := allocate originalItem.appComissionAmount (·.appComissionAmount)
    appComissionPercent := originalItem.appComissionPercent }

def buildRefundRequestItems (payment : Payment) (lines : List RefundLine) (reservations : List RefundRequest) :
    Except HttpError (List RefundRequestItem) :=
  lines.mapM fun line => do
    let originalItem ← getPaymentItemForRefundRequest payment line.paymentItemId
    return refundItemOf originalItem line.refundCount (linesOn reservations originalItem.id)

def buildRefundRequestEntity (id actorId : String) (input : RefundInput) (payment : Payment)
    (reservations : List RefundRequest) : Except HttpError RefundRequest := do
  let firstItem ← getPaymentItemForRefundRequest payment ((input.lines.map (·.paymentItemId)).headD "")
  let items ← buildRefundRequestItems payment input.lines reservations
  return {
    id := id
    paymentId := payment.id
    requestedByAccountId := actorId
    requestedByPaymentAccountId := payment.customerAccountId
    requestedToPaymentAccountId := firstItem.sellerAccountId
    status := .pending
    currency := payment.currency
    reasonKeys := input.reasonKeys
    requestNote := input.requestNote
    items := items }

/-! ## Transactions -/

/-- `INSERT`. A primary key that is taken is an error of the database. -/
def insert {ρ : Type} {key : ρ → String} (table : Table key) (row : ρ) : Except HttpError (Table key) := do
  require (table.find (key row)).isNone (.internal "Duplicate entry for key PRIMARY")
  return table.save row

/-- The payment a transaction locks. -/
def withPaymentLock {α : Type} (db : Db) (paymentId : Option String) (action : Payment → Except HttpError α) :
    Except HttpError α := do
  let paymentId ← orThrow paymentId (.badRequest "Payment ID is required")
  require (!isBlank paymentId) (.badRequest "Payment ID is required")
  let payment ← orThrow (db.payments.find paymentId) (.notFound "Payment not found")
  action payment

def findOneOrFail (db : Db) (requestId : String) : Except HttpError RefundRequest :=
  orThrow (db.refundRequests.find requestId) (entityNotFound "RefundRequest")

/-- `id` is the key that the database gives the request. -/
def createRefundRequest (db : Db) (actorId : String) (dto : CreateRefundRequestDTO) (id : String) :
    Except HttpError (Db × RefundRequest) :=
  withPaymentLock db dto.paymentId fun payment => do
    let (input, reservations) ← validateNewRefundRequest db payment dto
    let request ← buildRefundRequestEntity id actorId input payment reservations
    let refundRequests ← insert db.refundRequests request
    return ({ db with refundRequests := refundRequests }, request)

/-- The first transaction of `startRefundMicroservice`: the request to approve. -/
def reserveSystemRefund (db : Db) (dto : StartSystemRefundDTO) (id : String) :
    Except HttpError (Db × RefundRequest) := do
  let invalidKey := .badRequest "A system refund idempotency key of at most 200 characters is required"
  let key ← orThrow dto.idempotencyKey invalidKey
  require (!isBlank key ∧ utf16Length key ≤ 200) invalidKey
  let _ ← validateRefundReasons dto.reasonKeys
  let _ ← validateNote dto.requestNote
  let lines ← validateItemInput dto.items
  withPaymentLock db dto.paymentId fun payment => do
    assertPaymentIsRefundable payment
    match db.refundRequests.rows.find? fun r => r.idempotencyKey = some key with
    | some request => do
      require (request.paymentId = payment.id ∧ request.items.length = lines.length ∧
          ∀ item ∈ request.items, ⟨item.paymentItemId, item.refundCount⟩ ∈ lines)
        (.badRequest "System refund idempotency key was already used for a different request")
      require (request.status = .approved ∨ request.status = .pending)
        (.badRequest "Refund request is not in PENDING state")
      return (db, request)
    | none => do
      let (input, reservations) ← validateNewRefundRequest db payment dto.toCreateRefundRequestDTO
      let request ← buildRefundRequestEntity id "system" input payment reservations
      let request := { request with idempotencyKey := some key }
      let refundRequests ← insert db.refundRequests request
      return ({ db with refundRequests := refundRequests }, request)

/-- `ownedIds` is the answer of the authorisation service. -/
def authorizeRefundAction (ownedIds : Option (List String)) (target action : String) : Except HttpError Unit := do
  let ownedIds ← orThrow ownedIds (.forbidden s!"User is not authorized to {action} this refund")
  require (target ∈ ownedIds)
    (.forbidden "User does not have EDITOR or OWNER rights for the relevant seller accounts")

/-- The checks of `approveRefundRequest`, outside any transaction. -/
def approveRefundRequest (db : Db) (ownedIds : Option (List String)) (requestId : String)
    (resolutionNote : Option JsText) : Except HttpError (RefundRequest × Option String) := do
  let note ← validateNote resolutionNote
  let request ← orThrow (db.refundRequests.find requestId) (.notFound "Refund request not found")
  assertPendingRefundRequest request
  require (!truthy request.idempotencyKey)
    (.forbidden "System refund requests must be resolved through the internal refund command")
  require (truthy request.requestedToPaymentAccountId)
    (.badRequest "Refund request does not have a target payment account")
  authorizeRefundAction ownedIds (request.requestedToPaymentAccountId.getD "") "approve"
  return (request, note)

/-- The checks of `rejectRefundRequest`, before its transaction. -/
def beginRejection (db : Db) (ownedIds : Option (List String)) (requestId : String)
    (resolutionNote : Option JsText) : Except HttpError (RefundRequest × Option String) := do
  let note ← validateNote resolutionNote
  let initial ← orThrow (db.refundRequests.find requestId) (.notFound "Refund request not found")
  require (truthy initial.requestedToPaymentAccountId)
    (.badRequest "Refund request does not have a target payment account")
  authorizeRefundAction ownedIds (initial.requestedToPaymentAccountId.getD "") "reject"
  return (initial, note)

def resolveRefundRequest (db : Db) (request : RefundRequest) (actorId : String) (status : RefundRequestStatus)
    (resolutionNote : Option String) : Except HttpError Db := do
  let note ← validateNote (resolutionNote.map .text)
  let request := { request with status := status, resolvedByAccountId := some actorId, resolutionNote := note }
  return { db with refundRequests := db.refundRequests.save request }

/-- The transaction of `rejectRefundRequest`. -/
def rejectRefundRequest (db : Db) (now : ℕ) (initial : RefundRequest) (actorId : String) (note : Option String) :
    Except HttpError Db :=
  withPaymentLock db (some initial.paymentId) fun payment => do
    assertNoApprovalInProgress now payment
    let request ← findOneOrFail db initial.id
    assertPendingRefundRequest request
    require (!truthy request.idempotencyKey ∧ ∀ p ∈ db.payments.rows, p.refundRequestId ≠ some request.id)
      (.badRequest "An initiated refund cannot be rejected; reconcile its payment channel operations first")
    require (truthy request.requestedToPaymentAccountId)
      (.badRequest "Refund request does not have a target payment account")
    resolveRefundRequest db request actorId .rejected note

/-! ## Approval -/

/-- A stored line, as `validateItemInput` reads it. -/
def storedInput (items : List RefundRequestItem) : Option (List (Option RefundRequestItemDTO)) :=
  some (items.map fun item => some ⟨some item.paymentItemId, some (fromColumn item.refundCount)⟩)

/-- How long an approval holds the payment, in milliseconds. -/
def approvalLease : ℕ := 5 * 60000

/-- The claim transaction of `approveRequest`. `none` when the request is APPROVED already. -/
def claimApproval (db : Db) (now : ℕ) (token : String) (initial : RefundRequest) (resolutionNote : Option String) :
    Except HttpError (Option (Db × RefundRequest)) := do
  let _ ← validateNote (resolutionNote.map .text)
  withPaymentLock db (some initial.paymentId) fun payment => do
    let request ← findOneOrFail db initial.id
    if request.status = .approved ∧ truthy request.idempotencyKey then
      return none
    else do
      assertPendingRefundRequest request
      assertNoApprovalInProgress now payment
      assertPaymentIsRefundable payment
      let _ ← validateRefundItems payment (storedInput request.items)
      assertItemsBelongToSingleSeller payment (request.items.map (·.paymentItemId))
      let locked := { payment with
        refundApprovalToken := some token, refundApprovalExpiresAt := some (now + approvalLease) }
      return some ({ db with payments := db.payments.save locked }, request)

/-- Adds a line's count to its item. -/
def addRefundCount (payment : Payment) (line : RefundRequestItem) : Except HttpError Payment := do
  let item ← getPaymentItemForRefundRequest payment line.paymentItemId
  let refundCount := addNumberValues [item.refundCount, line.refundCount]
  let item := { item with
    refundCount := refundCount, refunded := item.refunded || decide (item.quantity ≤ refundCount) }
  return { payment with items := payment.items.save item }

def updateOriginalItemsRefundState (payment : Payment) : List RefundRequestItem → Except HttpError Payment
  | [] => .ok payment
  | line :: lines => addRefundCount payment line >>= fun payment => updateOriginalItemsRefundState payment lines

/-- The closing transaction of `approveRequest`. -/
def finaliseApproval (db : Db) (token : String) (initial : RefundRequest) (actorId : String) (note : Option String) :
    Except HttpError Db :=
  withPaymentLock db (some initial.paymentId) fun payment => do
    require (payment.refundApprovalToken = some token)
      (.conflict "Refund approval lease changed; retry the same request")
    let request ← findOneOrFail db initial.id
    assertPendingRefundRequest request
    assertPaymentIsRefundable payment
    let _ ← validateRefundItems payment (storedInput request.items)
    let counted ← updateOriginalItemsRefundState payment request.items
    let db ← resolveRefundRequest db request actorId .approved note
    let unlocked := { counted with refundApprovalToken := none, refundApprovalExpiresAt := none }
    return { db with payments := db.payments.save unlocked }

/-- The `finally` block of `approveRequest`. -/
def releaseApproval (db : Db) (paymentId token : String) : Db :=
  match db.payments.find paymentId with
  | some payment =>
    if payment.refundApprovalToken = some token then
      let unlocked := { payment with refundApprovalToken := none, refundApprovalExpiresAt := none }
      { db with payments := db.payments.save unlocked }
    else db
  | none => db

end Postral.Refund
