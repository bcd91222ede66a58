import Postral.Lib.Run
import Postral.Lifecycle.Service

/-!
# Payment calls in any interleaving

The entry points that write a payment's status, as atomic steps: single reads and writes, and each
channel call with the write that stores its answer. Any call may take its next step, throw there, or
die with its process.
-/

open Check

namespace Postral.Lifecycle

/-- What a call does next. A `Payment` is the entity that the call holds in memory. -/
inductive Point where
  /-- `updatePaymentByOperationStatuses`. -/
  | loading (id : String) (validate : Bool)
  | listing (payment : Payment)
  | polling (payment : Payment) (operations : List PaymentChannelOperation)
  | totalling (payment : Payment)
  /-- The save of COMPLETED, and what follows it. -/
  | completing (payment : Payment)
  | listingReady (payment : Payment)
  | firing (payment : Payment) (operations : List PaymentChannelOperation)
  /-- `postPaymentOperation`, of a confirmed open payment or of any other. -/
  | ordering (payment : Payment) (confirmed : Bool) (orders : List SellerPaymentOrderDTO)
  | ledgerLoading (payment : Payment) (confirmed : Bool)
  | ledgerRemoving (payment : Payment) (confirmed : Bool) (entries : List AccountPaymentTransaction)
  | ledgerSaving (payment : Payment) (confirmed : Bool) (entries : List AccountPaymentTransaction)
  | publishing (payment : Payment)
  /-- The payment is not paid yet. -/
  | checkingFailed (payment : Payment)
  | checkingOngoing (payment : Payment)
  | cancelListing (payment : Payment)
  | cancelling (payment : Payment) (operations : List PaymentChannelOperation)
  | saving (payment : Payment)
  /-- `handlePaymentOperationStatusUpdated`. -/
  | handleListing (operationId : String)
  | handlePolling (operationId : String) (operations : List PaymentChannelOperation)
  | handleFinding (operationId : String)
  /-- `cancelPayment`. -/
  | cancelLoading (id : String)
  /-- `confirmOpenPayment`. -/
  | confirmLoading (id : String) (sellerAccountId : String)
  | confirmSaving (payment : Payment)
  | closingOrders (payment : Payment)
  | closing (payment : Payment)
  | confirmPublishing (payment : Payment)
  /-- `startOperation` of the controller. -/
  | startChecking (id : String) (capture : PaymentCaptureInfoDTO)
  | startLoading (id : String) (capture : PaymentCaptureInfoDTO)
  | startPaid (payment : Payment) (capture : PaymentCaptureInfoDTO)
  | startInitializing (payment : Payment) (amount : ℚ) (capture : PaymentCaptureInfoDTO)
  | startSaving (payment : Payment)
  /-- `failPaymentIfSetFailFieldTrue`. The `catch` block of the controller runs it `again`. -/
  | flagging (id : String) (again : Bool)
  deriving DecidableEq

inductive Call where
  /-- Not started, or over. -/
  | idle
  /-- The payments of `rest` are updated afterwards. -/
  | active (point : Point) (rest : List String)
  deriving DecidableEq

structure State where
  db : Db
  now : ℕ
  calls : ℕ → Call

/-- What a step takes from outside the service. -/
structure Env where
  operations : Operations.Env
  /-- The answer of the channel. -/
  answer : PaymentChannelStatusDTO
  /-- The key of a new operation. -/
  recordId : String := ""
  channelEnabled : Bool := true
  accountName : Option String → String := fun _ => ""
  corelationId : String := ""

inductive Act where
  | updatePaymentByOperationStatuses (call : ℕ) (id : String) (validate : Bool)
  | checkAndUpdateWaitingPayments (call : ℕ)
  | handlePaymentOperationStatusUpdated (call : ℕ) (operationId : String)
  | startOperation (call : ℕ) (id : String) (capture : PaymentCaptureInfoDTO)
  | cancelPayment (call : ℕ) (id : String)
  | confirmOpenPayment (call : ℕ) (id : String) (sellerAccountId : String)
  | failPaymentIfSetFailFieldTrue (call : ℕ) (id : String)
  /-- A call takes its next step. -/
  | advance (call : ℕ) (env : Env)
  /-- The next step of a call throws. -/
  | fail (call : ℕ)
  /-- The process of a call dies. -/
  | crash (call : ℕ)
  | tick (milliseconds : ℕ)

namespace State

def setCall (s : State) (call : ℕ) (next : Call) : State := { s with calls := Function.update s.calls call next }

def setDb (s : State) (db : Db) : State := { s with db := db }

end State

/-- `PAYMENT_EXPIRE_MS`, as it is without the environment variable. -/
def paymentExpireMs : ℕ := 15 * 60 * 1000

/-- `payment.createdAt` is always set. -/
def isExpired (now : ℕ) (payment : Payment) : Bool :=
  (payment.paymentStatus = .waiting ∨ payment.paymentStatus = .initiated) ∧ !payment.openPayment ∧
    payment.type ≠ .refund ∧ payment.createdAt + paymentExpireMs < now

def afterLedger (payment : Payment) (confirmed : Bool) : Point :=
  if confirmed then .closingOrders payment else .publishing payment

/-- One step of a call and the next point, `none` at the end. A throw leaves the tables alone. -/
def pointStep (db : Db) (now : ℕ) (env : Env) : Point → Except HttpError (Db × Option Point)
  | .loading id validate => do
    let payment ← findPaymentByIdRaw db id
    let next := if validate then .listing payment else .totalling payment
    return (db, if isResolved payment.paymentStatus then none else some next)
  | .listing payment => return (db, some (.polling payment (operationsIn db payment.id .waiting)))
  | .polling payment [] => return (db, some (.totalling payment))
  | .polling payment (operation :: rest) => do
    let db ← checkOperation env.operations db operation env.answer
    return (db, some (.polling payment rest))
  | .totalling payment =>
    if payment.openPayment = false ∧ payment.totalAmount ≤ totalPaidOrAuthorizedOf db payment.id then
      return (db, some (.completing { payment with paymentStatus := .completed }))
    else return (db, some (.checkingFailed payment))
  | .completing payment => return (savePayment db payment, some (.listingReady payment))
  | .listingReady payment => return (db, some (.firing payment (operationsIn db payment.id .ready)))
  | .firing payment [] => return (db, some (.ordering payment false (sellerPaymentOrders payment)))
  | .firing payment (operation :: rest) => do
    let db ← fireOperation env.operations db operation env.answer
    return (db, some (.firing payment rest))
  | .ordering payment confirmed [] => return (db, some (.ledgerLoading payment confirmed))
  | .ordering payment confirmed (order :: rest) => do
    let db ← addTransaction db order
    return (db, some (.ordering payment confirmed rest))
  | .ledgerLoading payment confirmed => do
    let stored ← findPaymentByIdRaw db payment.id
    return (db, some (.ledgerRemoving payment confirmed (fromPayment env.accountName env.corelationId stored)))
  | .ledgerRemoving payment confirmed entries =>
    return (deleteOldTransactions db entries, some (.ledgerSaving payment confirmed entries))
  | .ledgerSaving payment confirmed entries =>
    return (saveTransactions db entries, some (afterLedger payment confirmed))
  | .publishing payment => do
    let stored ← findPaymentByIdRaw db payment.id
    return (emitDigestionEvent db stored.id, none)
  | .checkingFailed payment =>
    let failed := { payment with paymentStatus := .failed }
    let expired := { payment with paymentStatus := .failed, errorStatus := some .expired }
    if hasFailedPaymentOperations db payment.id then
      return (db, some (if payment.failOnPaymentChannelFailure then .saving failed else .checkingOngoing payment))
    else return (db, some (if isExpired now payment then .cancelListing expired else .saving payment))
  | .checkingOngoing payment =>
    let initiated := { payment with paymentStatus := .initiated }
    return (db, some (.saving (if hasOngoingPaymentOperations db payment.id then payment else initiated)))
  | .cancelListing payment => return (db, some (.cancelling payment
      ((operationsIn db payment.id .waiting).filter fun operation => operation.operationType = .purchase)))
  | .cancelling payment [] => return (db, some (.saving payment))
  | .cancelling payment (operation :: rest) => return (cancelOperation db operation, some (.cancelling payment rest))
  | .saving payment => return (savePayment db payment, none)
  | .handleListing operationId => return (db, some (.handlePolling operationId
      (db.operations.rows.filter fun operation => operation.operationId = some operationId ∧ operation.status = .waiting)))
  | .handlePolling operationId [] => return (db, some (.handleFinding operationId))
  | .handlePolling operationId (operation :: rest) => do
    let db ← checkOperation env.operations db operation env.answer
    return (db, some (.handlePolling operationId rest))
  | .handleFinding operationId => do
    let operation ← orThrow (db.operations.rows.find? fun operation => operation.operationId = some operationId)
      (.notFound "Payment operation not found")
    return (db, some (.loading operation.paymentId false))
  | .cancelLoading id => do
    let payment ← findPaymentByIdRaw db id
    assertPaymentIsNotResolved payment
    return (db, some (.cancelListing { payment with paymentStatus := .failed, errorStatus := some .cancelled }))
  | .confirmLoading id sellerAccountId => do
    let payment ← findPaymentByIdRaw db id
    checkOpenPayment payment sellerAccountId
    return (db, some (.confirmSaving { payment with paymentStatus := .completed }))
  | .confirmSaving payment =>
    return (savePayment db payment, some (.ordering payment true (sellerPaymentOrders payment)))
  | .closingOrders payment =>
    return (closeOpenPaymentOrders db payment.id, some (.closing { payment with openPayment := false }))
  | .closing payment => return (savePayment db payment,
      if payment.includeInReportDigestion then some (.confirmPublishing payment) else none)
  | .confirmPublishing payment => do
    let stored ← findPaymentByIdRaw db payment.id
    return (emitDigestionEvent db stored.id, none)
  | .startChecking id capture =>
    if env.channelEnabled ∧ !hasOngoingPaymentOperations db id then return (db, some (.startLoading id capture))
    else return (db, some (.flagging id true))
  | .startLoading id capture => do
    let payment ← findPaymentByIdRaw db id
    assertPaymentIsNotResolved payment
    return (db, some (.startPaid payment capture))
  | .startPaid payment capture => do
    let paidAmount ← orThrow capture.paidAmount (.internal "paidAmount must be a number")
    let amount := captureAmount payment.totalAmount (totalPaidOrAuthorizedOf db payment.id) paidAmount
    return (db, some (.startInitializing payment amount capture))
  | .startInitializing payment amount capture => do
    let db ← insertOperation env.operations db payment amount capture env.recordId env.answer
    return (db, some (.startSaving { payment with paymentStatus := .waiting }))
  | .startSaving payment => return (savePayment db payment, none)
  | .flagging id again =>
    return (failPaymentIfSetFailFieldTrue db id, if again then some (.flagging id false) else none)

/-- Where a call goes on after a throw: the `catch` block of the controller. -/
def afterThrow : Point → Option Point
  | .startChecking id _ => some (.flagging id false)
  | .startLoading id _ => some (.flagging id false)
  | .startPaid payment _ => some (.flagging payment.id false)
  | .startInitializing payment _ _ => some (.flagging payment.id false)
  | .startSaving payment => some (.flagging payment.id false)
  | .flagging id true => some (.flagging id false)
  | _ => none

/-- A call that goes on at `next`, or with the next payment of the list. -/
def continueAt (next : Option Point) (rest : List String) : Call :=
  match next, rest with
  | some point, rest => .active point rest
  | none, id :: rest => .active (.loading id true) rest
  | none, [] => .idle

/-- A throw leaves the rest of the list out. -/
def thrown (point : Point) : Call := continueAt (afterThrow point) []

/-- `none` when the call has no next step. -/
def advance (s : State) (call : ℕ) (env : Env) : Option State :=
  match s.calls call with
  | .idle => none
  | .active point rest =>
    match pointStep s.db s.now env point with
    | .ok (db, next) => some ((s.setDb db).setCall call (continueAt next rest))
    | .error _ => some (s.setCall call (thrown point))

/-- Starts a call. -/
def State.start (s : State) (call : ℕ) (next : Call) : Option State :=
  if s.calls call = .idle then some (s.setCall call next) else none

def step (s : State) : Act → Option State
  | .updatePaymentByOperationStatuses call id validate => s.start call (.active (.loading id validate) [])
  | .checkAndUpdateWaitingPayments call => s.start call (continueAt none (waitingPayments s.db))
  | .handlePaymentOperationStatusUpdated call operationId => s.start call (.active (.handleListing operationId) [])
  | .startOperation call id capture => s.start call (.active (.startChecking id capture) [])
  | .cancelPayment call id => s.start call (.active (.cancelLoading id) [])
  | .confirmOpenPayment call id sellerAccountId => s.start call (.active (.confirmLoading id sellerAccountId) [])
  | .failPaymentIfSetFailFieldTrue call id => s.start call (.active (.flagging id false) [])
  | .advance call env => advance s call env
  | .fail call =>
    match s.calls call with
    | .idle => none
    | .active point _ => some (s.setCall call (thrown point))
  | .crash call => some (s.setCall call .idle)
  | .tick milliseconds => some { s with now := s.now + milliseconds }

end Postral.Lifecycle
