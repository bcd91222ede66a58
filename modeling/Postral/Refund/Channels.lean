import Postral.Operations.Record
import Postral.Refund.System

/-!
# The channel operations of a refund (`startRefundPaymentOperationsForRefundRequest`)

The part of an approval that reserves a channel operation for every capture of the purchase and
asks the channels for the refund, in any interleaving with the approvals themselves.
-/

open Check Rounding

namespace Postral.Refund.Channels

/-- A capture, and what the refund takes from it. -/
abbrev Allocation := PaymentChannelOperation × ℤ

/-! ## The plan of a call -/

/-- What the earlier refunds leave of a capture. -/
def availableOf (previousRefunds : List PaymentChannelOperation) (operation : PaymentChannelOperation) : ℤ :=
  minusNumberValues operation.amount
    [addNumberValues ((previousRefunds.filter fun r => r.originalOperationId = some operation.id).map (·.amount))]

/-- The share of one capture: what remains for the last one with money, a share rounded down before. -/
def shareOf (remaining available remainingAvailable : ℤ) : ℤ :=
  if remainingAvailable = 0 then 0
  else if remainingAvailable = available then remaining
  else truncate (div (fromColumn remaining * fromColumn available) (fromColumn remainingAvailable) * 10000)

/-- The loop of `refundCaptureAllocations`. -/
def allocate (remaining remainingAvailable : ℤ) : List (PaymentChannelOperation × ℤ) → List Allocation
  | [] => []
  | (operation, available) :: rest =>
    let amount := shareOf remaining available remainingAvailable
    (operation, amount) :: allocate (remaining - amount) (remainingAvailable - available) rest

def refundCaptureAllocations (operations previousRefunds : List PaymentChannelOperation) (total : ℤ) :
    Except HttpError (List Allocation) := do
  let available := operations.map (availableOf previousRefunds)
  let remainingAvailable := addNumberValues available
  require ((∀ amount ∈ available, 0 ≤ amount) ∧ total ≤ remainingAvailable)
    (.badRequest "Refund exceeds the remaining captured channel amount")
  return (allocate total remainingAvailable (operations.zip available)).filter fun allocation => 0 < allocation.2

def planMatches (allocations : List Allocation) (plan : RefundChannelPlan) : Prop :=
  ∃ allocation ∈ allocations.find? (fun allocation => allocation.1.id = plan.originalOperationId),
    allocation.1.operationId = some plan.originalChannelOperationId ∧
      addNumberValues (plan.lines.map (·.nominalAmount.value)) = allocation.2

instance (allocations : List Allocation) (plan : RefundChannelPlan) : Decidable (planMatches allocations plan) := by
  unfold planMatches
  infer_instance

def validateRefundPlanAllocations (plans : List RefundChannelPlan) (allocations : List Allocation) :
    Except HttpError Unit :=
  require ((plans.map (·.originalOperationId)).Nodup ∧ ∀ plan ∈ plans, planMatches allocations plan)
    (.badRequest "Channel refund plan does not match the reserved capture amount")

/-! ## The steps of a call -/

/-- The arguments of a call. -/
structure Job where
  refundPaymentId : String
  currency : String
  totalAmount : ℤ
  purchaseId : String
  plans : List RefundChannelPlan
  deriving DecidableEq

/-- The first checks. `none` when there is nothing to refund. -/
def begin (refundPayment purchase : Payment) (plans : List RefundChannelPlan) : Except HttpError (Option Job) := do
  require (0 ≤ refundPayment.totalAmount ∧ purchase.paymentStatus = .completed ∧ purchase.type = .purchase)
    (.badRequest "Refund requires a completed purchase and a valid amount")
  if refundPayment.totalAmount = 0 then
    return none
  else
    return some ⟨refundPayment.id, refundPayment.currency, refundPayment.totalAmount, purchase.id, plans⟩

/-- `alreadyCompletedOps`. -/
def readCaptures (operations : Table PaymentChannelOperation.id) (job : Job) :
    Except HttpError (List PaymentChannelOperation) := do
  let captures := (operations.rows.filter fun r =>
    r.paymentId = job.purchaseId ∧ r.status = .completed ∧ r.operationType = .purchase).insertionSort fun a b => a.id ≤ b.id
  require (captures ≠ [] ∧ ∀ r ∈ captures, truthy r.operationId ∧ r.currency = job.currency)
    (.badRequest "Completed payment channel operations are required to refund this purchase")
  return captures

/-- Reads the earlier refunds of the captures and shares the amount out. -/
def planAllocations (operations : Table PaymentChannelOperation.id) (job : Job) (captures : List PaymentChannelOperation) :
    Except HttpError (List Allocation) := do
  let previousRefunds := operations.rows.filter fun r =>
    (∃ c ∈ captures, r.originalOperationId = some c.id) ∧ r.paymentId ≠ job.refundPaymentId ∧ r.operationType = .refund
  let allocations ← refundCaptureAllocations captures previousRefunds job.totalAmount
  validateRefundPlanAllocations job.plans allocations
  return allocations

/-- The row that the reservation looks for. The index on (payment, original operation) is unique. -/
def findReservation (operations : Table PaymentChannelOperation.id) (refundPaymentId originalOperationId : String) :
    Option PaymentChannelOperation :=
  operations.rows.find? fun r => r.paymentId = refundPaymentId ∧ r.originalOperationId = some originalOperationId

/-- The transaction that reserves an allocation, under the lock of the refund payment. `none` when the
operation was there and initialised already. -/
def reserve (payments : Table Payment.id) (operations : Table PaymentChannelOperation.id) (job : Job)
    (allocation : Allocation) (id : String) :
    Except HttpError (Option (Table PaymentChannelOperation.id × PaymentChannelOperation)) := do
  let _ ← orThrow (payments.find job.refundPaymentId) (entityNotFound "Payment")
  match findReservation operations job.refundPaymentId allocation.1.id with
  | some existing =>
    require (truthy existing.operationId ∧ existing.status ≠ .failed ∧ existing.amount = allocation.2)
      (.conflict s!"Refund channel operation {existing.id} needs reconciliation; it will not be initialized twice")
    return none
  | none =>
    let operation := {
      id := id
      paymentChannelId := allocation.1.paymentChannelId
      amount := allocation.2
      operationType := .refund
      currency := job.currency
      paymentId := job.refundPaymentId
      originalOperationId := some allocation.1.id
      refundPlan := job.plans.find? fun plan => plan.originalOperationId = allocation.1.id }
    let operations ← insert operations operation
    return some (operations, operation)

/-- A refund initialisation as it leaves for a channel. -/
structure Message where
  paymentChannelId : String
  refundPaymentId : String
  originalOperationId : String
  originalPaymentChannelOperationId : Option String
  refundOperationId : String
  refundPlan : Option RefundChannelPlan
  paidAmount : ℤ
  currency : String
  deriving DecidableEq

def messageOf (job : Job) (element operation : PaymentChannelOperation) : Message where
  paymentChannelId := operation.paymentChannelId
  refundPaymentId := job.refundPaymentId
  originalOperationId := element.id
  originalPaymentChannelOperationId := element.operationId
  refundOperationId := operation.id
  refundPlan := operation.refundPlan
  paidAmount := operation.amount
  currency := job.currency

/-- The check of the channel's answer. -/
def validateAnswer (operation : PaymentChannelOperation) (result : PaymentChannelStatusDTO) : Except HttpError Unit :=
  require (truthy result.paymentChannelOperationId ∧ result.paymentChannelId = some operation.paymentChannelId ∧
      result.paymentStatus.isSome)
    (.badRequest
      s!"Refund channel operation {operation.id} returned an invalid response; reconciliation is required")

/-! ## The system -/

/-- What a call does next. -/
inductive Point where
  | readingCaptures
  | readingRefunds (captures : List PaymentChannelOperation)
  | reserving (rest : List Allocation)
  /-- The reservation is stored, the message has not left. -/
  | sending (element operation : PaymentChannelOperation) (rest : List Allocation)
  | awaiting (operation : PaymentChannelOperation) (rest : List Allocation)
  | recording (operation : PaymentChannelOperation) (result : PaymentChannelStatusDTO) (rest : List Allocation)
  deriving DecidableEq

structure World where
  refund : State
  operations : Operations.Db
  /-- The channel part of an approval, while it runs. -/
  calls : ℕ → Option (Job × Point)
  /-- History: every refund initialisation that left, newest first. -/
  sent : List Message

/-- What a step takes from outside. -/
structure ChannelEnv where
  operationId : String := ""
  answer : PaymentChannelStatusDTO := ⟨none, none, none, none, none, none⟩
  record : Operations.Env := ⟨false, fun _ => none, fun _ => none, fun _ => ""⟩

inductive WorldAct where
  /-- A step of the refund service outside the channel part, or the death of any call's process. -/
  | refund (act : Act)
  /-- An approval enters the channel part with the payments and the plan that it loaded. -/
  | enter (call : ℕ) (refundPayment purchase : Payment) (plans : List RefundChannelPlan)
  /-- The channel part of a call takes its next step. -/
  | advance (call : ℕ) (env : ChannelEnv)
  /-- The next step of the channel part throws. -/
  | fail (call : ℕ)
  /-- Another service saves an operation that it has read, or a new one that refunds nothing. -/
  | write (operation : PaymentChannelOperation)

namespace World

def setCall (w : World) (call : ℕ) (point : Option (Job × Point)) : World :=
  { w with calls := Function.update w.calls call point }

/-- The channel part of a call throws. -/
def throws (w : World) (call : ℕ) : Option World :=
  (Refund.step w.refund (.fail call)).map fun refund => { w.setCall call none with refund := refund }

/-- The channel part of a call returns. -/
def returns (w : World) (call : ℕ) : Option World :=
  (Refund.step w.refund (.advance call {})).map fun refund => { w.setCall call none with refund := refund }

/-- The request of an approval that is in its channel part, or about to enter it. -/
def inChannels (w : World) (call : ℕ) : Option RefundRequest :=
  match w.refund.calls call with
  | .approving a .channels => some a.request
  | _ => none

end World

/-- The next step of the channel part. -/
def advance (w : World) (call : ℕ) (env : ChannelEnv) (job : Job) : Point → Option World
  | .readingCaptures =>
    match readCaptures w.operations.operations job with
    | .ok captures => w.setCall call (some (job, .readingRefunds captures))
    | .error _ => w.throws call
  | .readingRefunds captures =>
    match planAllocations w.operations.operations job captures with
    | .ok allocations => w.setCall call (some (job, .reserving allocations))
    | .error _ => w.throws call
  | .reserving [] => w.returns call
  | .reserving (allocation :: rest) =>
    match reserve w.refund.db.payments w.operations.operations job allocation env.operationId with
    | .ok none => w.setCall call (some (job, .reserving rest))
    | .ok (some (operations, operation)) =>
      some { w.setCall call (some (job, .sending allocation.1 operation rest)) with
        operations := { w.operations with operations := operations } }
    | .error _ => w.throws call
  | .sending element operation rest =>
    some { w.setCall call (some (job, .awaiting operation rest)) with
      sent := messageOf job element operation :: w.sent }
  | .awaiting operation rest =>
    match validateAnswer operation env.answer with
    | .ok () => w.setCall call (some (job, .recording operation env.answer rest))
    | .error _ => w.throws call
  | .recording operation result rest =>
    match Operations.savePaymentChannelRecord env.record w.operations operation result job.refundPaymentId with
    | .ok operations =>
      let saved := { w with operations := operations }
      if result.paymentStatus = some .failed then saved.throws call
      else saved.setCall call (some (job, .reserving rest))
    | .error _ => w.throws call

/-- A save by another service: it changes neither the payment nor the original operation of a stored
row, and a new row has no original operation. -/
def mayWrite (operations : Table PaymentChannelOperation.id) (operation : PaymentChannelOperation) : Prop :=
  match operations.find operation.id with
  | some old => operation.paymentId = old.paymentId ∧ operation.originalOperationId = old.originalOperationId
  | none => operation.originalOperationId = none

instance (operations : Table PaymentChannelOperation.id) (operation : PaymentChannelOperation) :
    Decidable (mayWrite operations operation) := by
  unfold mayWrite
  split <;> infer_instance

def step (w : World) : WorldAct → Option World
  | .refund (.crash call) =>
    (Refund.step w.refund (.crash call)).map fun refund => { w.setCall call none with refund := refund }
  | .refund (.advance call env) =>
    if (w.inChannels call).isSome then none
    else (Refund.step w.refund (.advance call env)).map fun refund => { w with refund := refund }
  | .refund (.fail call) =>
    if (w.inChannels call).isSome then none
    else (Refund.step w.refund (.fail call)).map fun refund => { w with refund := refund }
  | .refund act => (Refund.step w.refund act).map fun refund => { w with refund := refund }
  | .enter call refundPayment purchase plans =>
    match w.inChannels call with
    | some request =>
      if w.calls call = none ∧ refundPayment.refundRequestId = some request.id ∧ purchase.id = request.paymentId then
        match begin refundPayment purchase plans with
        | .ok (some job) => w.setCall call (some (job, .readingCaptures))
        | .ok none => w.returns call
        | .error _ => w.throws call
      else none
    | none => none
  | .advance call env =>
    match w.calls call with
    | some (job, point) => advance w call env job point
    | none => none
  | .fail call => if (w.calls call).isSome then w.throws call else none
  | .write operation =>
    if mayWrite w.operations.operations operation then
      some { w with operations := { w.operations with operations := w.operations.operations.save operation } }
    else none

end Postral.Refund.Channels
