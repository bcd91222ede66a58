import Postral.Lib.Locks
import Postral.Refund.System

/-!
# Approvals and rejections, statement by statement

A transaction locks rows and reads, and its writes show at its commit. `rejectRefundRequest` and `approveRequest` lock the
payment, `createRefundPayment` locks the refund request.
-/

open Check Run

namespace Postral.Refund.Locking

/-- What the claim of an approval has left. -/
structure Lease where
  /-- The request as the claim read it. -/
  request : RefundRequest
  token : String
  expiresAt : ℕ

/-- What an approval that holds a lease does next. -/
inductive LeasePoint where
  | loading
  | preparing (original : Payment)
  | storeLocking (prepared : Option PreparedRefund)
  | storeSearching (prepared : Option PreparedRefund)
  | storeInserting (prepared : Option PreparedRefund)
  | storeCommitting (payment : Payment) (plan : List RefundChannelPlan)
  /-- `startRefundPaymentOperationsForRefundRequest`. -/
  | channels
  | finaliseLocking
  | finaliseReading (payment : Payment)
  | finaliseSaving (counted : Payment)
  | finaliseCommitting (counted : Payment)
  /-- The `finally` block. -/
  | releasing

/-- What a call does next. The rows are those that it has read. -/
inductive Point where
  | rejectLocking
  | rejectChecking (payment : Payment)
  | rejectReading
  /-- `paid`: the request had a payment when it was read. -/
  | rejectSearching (request : RefundRequest) (paid : Bool)
  | rejectSaving (request : RefundRequest)
  | rejectCommitting (request : RefundRequest)
  | claimLocking
  | claimReading (payment : Payment)
  | claimChecking (payment : Payment) (request : RefundRequest)
  | claimCommitting (lease : Lease)
  | approving (lease : Lease) (point : LeasePoint)

structure Job where
  /-- The request as the call first read it. -/
  initial : RefundRequest
  actorId : String
  note : Option String
  point : Point

structure World where
  /-- What is committed. -/
  db : Db
  now : ℕ
  jobs : ℕ → Option Job
  paymentLocks : Locks String
  requestLocks : Locks String
  /-- What `randomUUID` has returned so far. -/
  tokens : List String
  /-- History: the requests whose counts were added, one entry for each time. -/
  counted : List String

structure StepEnv extends Env where
  /-- The search for a payment sees what the read before it saw. -/
  snapshot : Bool := false

inductive WorldAct where
  | createRefundRequest (actorId : String) (dto : CreateRefundRequestDTO) (id : String)
  | startRefundMicroservice (call : ℕ) (dto : StartSystemRefundDTO) (id : String)
  | approveRefundRequest (call : ℕ) (actorId : String) (ownedIds : Option (List String)) (requestId : String)
      (note : Option JsText)
  | rejectRefundRequest (call : ℕ) (actorId : String) (ownedIds : Option (List String)) (requestId : String)
      (note : Option JsText)
  | advance (call : ℕ) (env : StepEnv)
  /-- The next step throws. With `applied` its commit has taken effect all the same. -/
  | fail (call : ℕ) (applied : Bool)
  | crash (call : ℕ)
  | tick (milliseconds : ℕ)

/-! ## Locks -/

namespace Job

/-- The payment that the transaction of a call has locked. -/
def payment (job : Job) : Option String :=
  match job.point with
  | .rejectChecking _ | .rejectReading | .rejectSearching .. | .rejectSaving _ | .rejectCommitting _ | .claimReading _
  | .claimChecking .. | .claimCommitting _ | .approving _ (.finaliseReading _) | .approving _ (.finaliseSaving _)
  | .approving _ (.finaliseCommitting _) => some job.initial.paymentId
  | _ => none

/-- The refund request that the transaction of a call has locked. -/
def request (job : Job) : Option String :=
  match job.point with
  | .rejectCommitting _ | .approving _ (.finaliseCommitting _) => some job.initial.id
  | .approving lease (.storeSearching _) | .approving lease (.storeInserting _) | .approving lease (.storeCommitting ..) =>
    some lease.request.id
  | _ => none

/-- The row lock of a statement outside any transaction. -/
def touches (job : Job) : Option String :=
  match job.point with
  | .approving _ .releasing => some job.initial.paymentId
  | _ => none

end Job

/-! ## Steps -/

def hasPayment (db : Db) (requestId : String) : Bool :=
  decide (∃ p ∈ db.payments.rows, p.refundRequestId = some requestId)

def setResolution (actorId : String) (status : RefundRequestStatus) (note : Option String) (r : RefundRequest) :
    RefundRequest := { r with status := status, resolvedByAccountId := some actorId, resolutionNote := note }

def setPlan (plan : List RefundChannelPlan) (r : RefundRequest) : RefundRequest := { r with channelRefundPlan := some plan }

def setLease (lease : Lease) (p : Payment) : Payment :=
  { p with refundApprovalToken := some lease.token, refundApprovalExpiresAt := some lease.expiresAt }

/-- The items as `updateOriginalItemsRefundState` saved them, and no lease. -/
def setCounted (counted p : Payment) : Payment :=
  { p with items := counted.items, refundApprovalToken := none, refundApprovalExpiresAt := none }

/-- `manager.save(RefundRequest, request)`: the columns of the resolution. -/
def saveResolution (db : Db) (id actorId : String) (status : RefundRequestStatus) (note : Option String) : Db where
  payments := db.payments
  refundRequests := db.refundRequests.update (fun r => r.id = id) (setResolution actorId status note) fun _ => rfl

def saveLease (db : Db) (paymentId : String) (lease : Lease) : Db where
  payments := db.payments.update (fun p => p.id = paymentId) (setLease lease) fun _ => rfl
  refundRequests := db.refundRequests

def saveCounted (db : Db) (paymentId : String) (counted : Payment) : Db where
  payments := db.payments.update (fun p => p.id = paymentId) (setCounted counted) fun _ => rfl
  refundRequests := db.refundRequests

/-- An `INSERT` waits for another one of its key, so that a key is taken or not at the commit. -/
def storePayment (db : Db) (requestId : String) (payment : Payment) (plan : List RefundChannelPlan) : Db :=
  if (db.payments.find payment.id).isNone then
    { payments := db.payments.save payment
      refundRequests := db.refundRequests.update (fun r => r.id = requestId) (setPlan plan) fun _ => rfl }
  else db

/-- What a step commits. -/
def commit (db : Db) (job : Job) : Db :=
  match job.point with
  | .rejectCommitting _ => saveResolution db job.initial.id job.actorId .rejected job.note
  | .claimCommitting lease => saveLease db job.initial.paymentId lease
  | .approving lease (.storeCommitting payment plan) => storePayment db lease.request.id payment plan
  | .approving _ (.finaliseCommitting counted) =>
    saveCounted (saveResolution db job.initial.id job.actorId .approved job.note) job.initial.paymentId counted
  | .approving lease .releasing => releaseApproval db job.initial.paymentId lease.token
  | _ => db

/-- The requests whose counts a step adds. -/
def counts (job : Job) : List String :=
  match job.point with
  | .approving _ (.finaliseCommitting _) => [job.initial.id]
  | _ => []

/-- The step of an approval that holds a lease. `none` when the call is over. -/
def nextOfLease (w : World) (env : StepEnv) (job : Job) (lease : Lease) : LeasePoint → Except HttpError (Option LeasePoint)
  | .loading => do
    let original ← loadOriginalPayment w.db lease.request
    return some (.preparing original)
  | .preparing original => do
    let prepared ← prepareRefundPayment w.db env.directory env.plan lease.request original
    return some (.storeLocking prepared)
  | .storeLocking prepared => do
    let pending := .badRequest "Refund request must be persisted and PENDING"
    let stored ← orThrow (w.db.refundRequests.find lease.request.id) pending
    require (stored.status = .pending) pending
    return some (.storeSearching prepared)
  | .storeSearching prepared =>
    match w.db.payments.rows.find? fun p => p.refundRequestId = some lease.request.id with
    | some existing => do
      require (existing.paymentStatus ≠ .failed)
        (.badRequest "Refund payment failed; reconcile its channel operations before retrying")
      return some .channels
    | none => .ok (some (.storeInserting prepared))
  | .storeInserting prepared => do
    let (draft, plan) ← orThrow prepared (.badRequest "Refund payment changed during preparation; retry the same request")
    let payment ← orThrow (draft.store env.paymentId env.itemIds) (.internal "Duplicate entry for key PRIMARY")
    return some (.storeCommitting payment plan)
  | .storeCommitting payment _ => do
    require (w.db.payments.find payment.id).isNone (.internal "Duplicate entry for key PRIMARY")
    return some .channels
  | .channels => .ok (some .finaliseLocking)
  | .finaliseLocking => do
    let payment ← withPaymentLock w.db (some job.initial.paymentId) .ok
    return some (.finaliseReading payment)
  | .finaliseReading payment => do
    require (payment.refundApprovalToken = some lease.token)
      (.conflict "Refund approval lease changed; retry the same request")
    let request ← findOneOrFail w.db job.initial.id
    assertPendingRefundRequest request
    assertPaymentIsRefundable payment
    let _ ← validateRefundItems payment (storedInput request.items)
    let counted ← updateOriginalItemsRefundState payment request.items
    let _ ← validateNote (job.note.map .text)
    return some (.finaliseSaving counted)
  | .finaliseSaving counted => .ok (some (.finaliseCommitting counted))
  | .finaliseCommitting _ => .ok (some .releasing)
  | .releasing => .ok none

/-- The step of a call. `none` when the call is over. -/
def next (w : World) (env : StepEnv) (job : Job) : Except HttpError (Option Point) :=
  match job.point with
  | .rejectLocking => do
    let payment ← withPaymentLock w.db (some job.initial.paymentId) .ok
    return some (.rejectChecking payment)
  | .rejectChecking payment => do
    assertNoApprovalInProgress w.now payment
    return some .rejectReading
  | .rejectReading => do
    let request ← findOneOrFail w.db job.initial.id
    assertPendingRefundRequest request
    require (!truthy request.idempotencyKey)
      (.badRequest "An initiated refund cannot be rejected; reconcile its payment channel operations first")
    return some (.rejectSearching request (hasPayment w.db request.id))
  | .rejectSearching request paid => do
    require (!(if env.snapshot then paid else hasPayment w.db request.id))
      (.badRequest "An initiated refund cannot be rejected; reconcile its payment channel operations first")
    require (truthy request.requestedToPaymentAccountId)
      (.badRequest "Refund request does not have a target payment account")
    let _ ← validateNote (job.note.map .text)
    return some (.rejectSaving request)
  | .rejectSaving request => .ok (some (.rejectCommitting request))
  | .rejectCommitting _ => .ok none
  | .claimLocking => do
    let _ ← validateNote (job.note.map .text)
    let payment ← withPaymentLock w.db (some job.initial.paymentId) .ok
    return some (.claimReading payment)
  | .claimReading payment => do
    let request ← findOneOrFail w.db job.initial.id
    if request.status = .approved ∧ truthy request.idempotencyKey then return none
    else do
      assertPendingRefundRequest request
      return some (.claimChecking payment request)
  | .claimChecking payment request => do
    assertNoApprovalInProgress w.now payment
    assertPaymentIsRefundable payment
    let _ ← validateRefundItems payment (storedInput request.items)
    assertItemsBelongToSingleSeller payment (request.items.map (·.paymentItemId))
    return some (.claimCommitting ⟨request, env.token, w.now + approvalLease⟩)
  | .claimCommitting lease => .ok (some (.approving lease .loading))
  | .approving lease point => do
    let point ← nextOfLease w env job lease point
    return point.map (.approving lease)

/-- Where a throw leads: the `finally` block of an approval, or out of the call. -/
def thrown : Point → Option Point
  | .approving _ .releasing => none
  | .approving lease _ => some (.approving lease .releasing)
  | _ => none

namespace World

/-- The call is at `point`, with the locks of its transaction. -/
def moveTo (w : World) (call : ℕ) (job : Option Job) : World :=
  { w with
    jobs := Function.update w.jobs call job
    paymentLocks := w.paymentLocks.move call (job.bind Job.payment)
    requestLocks := w.requestLocks.move call (job.bind Job.request) }

def setDb (w : World) (db : Db) : World := { w with db := db }

def committed (w : World) (job : Job) : World :=
  { w with db := commit w.db job, counted := counts job ++ w.counted }

/-- `none` while another call holds a lock that the call needs. -/
def goesTo (w : World) (call : ℕ) (job : Option Job) : Option World :=
  if w.paymentLocks.Grants call (job.bind Job.payment) ∧ w.requestLocks.Grants call (job.bind Job.request) then
    some (w.moveTo call job)
  else none

end World

/-- A new token of `randomUUID`, where the step draws one. -/
def drawn : Option Point → Option String
  | some (.claimCommitting lease) => some lease.token
  | _ => none

def advanceJob (w : World) (call : ℕ) (env : StepEnv) (job : Job) : Option World :=
  if w.paymentLocks.Grants call job.touches then
    match next w env job with
    | .ok point =>
      if ∀ token ∈ drawn point, token ≠ "" ∧ token ∉ w.tokens then
        { w.committed job with tokens := (drawn point).toList ++ w.tokens }.goesTo call
          (point.map fun point => { job with point := point })
      else none
    | .error _ => w.goesTo call ((thrown job.point).map fun point => { job with point := point })
  else none

def failJob (w : World) (call : ℕ) (applied : Bool) (job : Job) : Option World :=
  if w.paymentLocks.Grants call job.touches then
    (if applied then w.committed job else w).goesTo call
      ((thrown job.point).map fun point => { job with point := point })
  else none

/-- The payment that the first transaction of a call locks is free. -/
def World.free (w : World) (paymentId : Option String) : Prop := ∀ p ∈ paymentId, w.paymentLocks.holder p = none

instance (w : World) (paymentId : Option String) : Decidable (w.free paymentId) := by
  unfold World.free
  infer_instance

/-- The first transactions are one step each. Two calls on one payment wait for each other there, and of two calls with
one key on different payments the later one fails, at its checks or at the index on the key. -/
def worldStep (w : World) : WorldAct → Option World
  | .createRefundRequest actorId dto id =>
    if w.free dto.paymentId then
      match createRefundRequest w.db actorId dto id with
      | .ok (db, _) => some (w.setDb db)
      | .error _ => some w
    else none
  | .startRefundMicroservice call dto id =>
    if w.jobs call = none ∧ w.free dto.paymentId then
      match reserveSystemRefund w.db dto id with
      | .ok (db, request) => (w.setDb db).goesTo call
          (if request.status = .approved then none else some ⟨request, "system", some automaticNote, .claimLocking⟩)
      | .error _ => some w
    else none
  | .approveRefundRequest call actorId ownedIds requestId note =>
    if w.jobs call = none then
      match Refund.approveRefundRequest w.db ownedIds requestId note with
      | .ok (initial, note) => w.goesTo call (some ⟨initial, actorId, note, .claimLocking⟩)
      | .error _ => some w
    else none
  | .rejectRefundRequest call actorId ownedIds requestId note =>
    if w.jobs call = none then
      match beginRejection w.db ownedIds requestId note with
      | .ok (initial, note) => w.goesTo call (some ⟨initial, actorId, note, .rejectLocking⟩)
      | .error _ => some w
    else none
  | .advance call env => (w.jobs call).bind (advanceJob w call env)
  | .fail call applied => (w.jobs call).bind (failJob w call applied)
  | .crash call => w.goesTo call none
  | .tick milliseconds => some { w with now := w.now + milliseconds }

/-- No call runs. -/
def World.idle (db : Db) (now : ℕ) : World := ⟨db, now, fun _ => none, .none, .none, [], []⟩

end Postral.Refund.Locking
