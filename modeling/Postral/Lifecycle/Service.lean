import Postral.Operations.Record
import Postral.Payments.Ledger

/-! # The reads and writes of a payment's life -/

open Check

namespace Postral.Lifecycle

inductive SellerPaymentOrderType where
  | creditToSeller
  | debitFromSeller
  deriving DecidableEq, Repr

structure SellerPaymentOrder where
  amount : ℤ
  taxAmount : ℤ
  untaxedAmount : ℤ
  currency : String
  paymentId : String
  targetAccountId : String
  sourceAccountId : String
  paymentStatus : PaymentStatus
  openPayment : Bool := false
  sellerOrderType : SellerPaymentOrderType
  deriving DecidableEq

/-- `@Unique(['paymentId', 'targetAccountId'])`. -/
def SellerPaymentOrder.key (order : SellerPaymentOrder) : String × String := (order.paymentId, order.targetAccountId)

structure SellerPaymentOrderDTO where
  amount : ℤ
  taxAmount : ℤ
  currency : String
  paymentId : String
  sourceAccountId : Option String
  targetAccountId : Option String
  paymentStatus : PaymentStatus
  transactionType : SellerPaymentOrderType
  deriving DecidableEq

structure Db extends Operations.Db where
  payments : Table Payment.id
  sellerOrders : Table SellerPaymentOrder.key
  /-- The payments whose digestion event was emitted, newest first. -/
  digestionEvents : List String
  deriving DecidableEq

structure PaymentCaptureInfoDTO where
  paymentChannelId : String
  /-- `none` is not a number. -/
  paidAmount : Option ℚ
  currency : String
  deriving DecidableEq

/-! ## Payments -/

/-- COMPLETED or FAILED. -/
def isResolved (status : PaymentStatus) : Bool := status = .completed ∨ status = .failed

def findPaymentByIdRaw (db : Db) (id : String) : Except HttpError Payment :=
  orThrow (db.payments.find id) (.notFound "Payment not found")

/-- `repo.save` writes every column of the entity. -/
def savePayment (db : Db) (payment : Payment) : Db := { db with payments := db.payments.save payment }

def assertPaymentIsNotResolved (payment : Payment) : Except HttpError Unit :=
  require (!isResolved payment.paymentStatus) (.internal "Payment is already resolved and cannot be cancelled again.")

/-- One conditional update. -/
def failPaymentIfSetFailFieldTrue (db : Db) (paymentId : String) : Db :=
  match db.payments.find paymentId with
  | some payment =>
    if payment.failOnPaymentChannelFailure then
      savePayment db { payment with errorStatus := some .failed, paymentStatus := .failed }
    else db
  | none => db

/-- What `checkAndUpdateWaitingPayments` selects. -/
def waitingPayments (db : Db) : List String :=
  (db.payments.rows.filter fun p => (p.paymentStatus = .initiated ∨ p.paymentStatus = .waiting) ∧ p.openPayment = false).map
    (·.id)

/-- The checks of `confirmOpenPayment`. -/
def checkOpenPayment (payment : Payment) (sellerAccountId : String) : Except HttpError Unit := do
  require payment.openPayment (.badRequest "This payment is not an open payment")
  require (payment.paymentStatus = .waiting) (.badRequest "Open payment is already resolved")
  require (payment.customerAccountId = some sellerAccountId ∨
      ∃ item ∈ payment.items.rows, item.sellerAccountId = some sellerAccountId)
    (.forbidden "You are not authorized to confirm this payment")

/-- The columns that no call of a payment's life writes. -/
def core (payment : Payment) : Payment :=
  { payment with paymentStatus := .initiated, errorStatus := none, openPayment := false }

theorem core_id {p q : Payment} (h : core p = core q) : p.id = q.id := by
  have hid := congrArg Payment.id h
  exact hid

theorem core_totalAmount {p q : Payment} (h : core p = core q) : p.totalAmount = q.totalAmount := by
  have htotal := congrArg Payment.totalAmount h
  exact htotal

/-! ## Operations -/

def operationsOf (db : Db) (paymentId : String) : List PaymentChannelOperation :=
  db.operations.rows.filter fun operation => operation.paymentId = paymentId

def operationsIn (db : Db) (paymentId : String) (status : PaymentOperationStatus) : List PaymentChannelOperation :=
  (operationsOf db paymentId).filter fun operation => operation.status = status

def totalPaidOrAuthorizedOf (db : Db) (paymentId : String) : ℤ :=
  addNumberValues (((operationsOf db paymentId).filter fun operation =>
    operation.status = .ready ∨ operation.status = .completed).map (·.amount))

def hasOngoingPaymentOperations (db : Db) (paymentId : String) : Bool :=
  (operationsOf db paymentId).any fun operation => operation.status ≠ .failed

def hasFailedPaymentOperations (db : Db) (paymentId : String) : Bool :=
  (operationsOf db paymentId).any fun operation => operation.status = .failed

def savePaymentChannelRecord (env : Operations.Env) (db : Db) (record : PaymentChannelOperation)
    (result : PaymentChannelStatusDTO) (paymentId : String) : Except HttpError Db := do
  let stored ← Operations.savePaymentChannelRecord env db.toDb record result paymentId
  return { db with toDb := stored }

/-- One operation of `checkAndUpdateOperationStatusesRaw`. -/
def checkOperation (env : Operations.Env) (db : Db) (operation : PaymentChannelOperation)
    (result : PaymentChannelStatusDTO) : Except HttpError Db :=
  if truthy operation.operationId then savePaymentChannelRecord env db operation result operation.paymentId
  else return db

/-- One operation of `firePaymentOperationsByPaymentId`. -/
def fireOperation (env : Operations.Env) (db : Db) (operation : PaymentChannelOperation)
    (result : PaymentChannelStatusDTO) : Except HttpError Db := do
  require (result.paymentStatus = some .completed)
    (.internal s!"Payment operation {operation.id} could not be completed.")
  savePaymentChannelRecord env db operation result operation.paymentId

/-- One operation of `cancelPaymentOperationsByPaymentId`. The answer of the channel is only logged. -/
def cancelOperation (db : Db) (operation : PaymentChannelOperation) : Db :=
  { db with operations := db.operations.save { operation with status := .failed } }

/-- The amount that `startPaymentOperation` captures. -/
def captureAmount (totalAmount paid : ℤ) (paidAmount : ℚ) : ℚ :=
  let remainingAmount := fromColumn totalAmount - fromColumn paid
  let paidAmount := if remainingAmount < paidAmount then remainingAmount else paidAmount
  if paidAmount ≤ 0 then fromColumn totalAmount else paidAmount

/-- Stores the record of a started operation. `id` is a new key. -/
def insertOperation (env : Operations.Env) (db : Db) (payment : Payment) (amount : ℚ)
    (capture : PaymentCaptureInfoDTO) (id : String) (result : PaymentChannelStatusDTO) : Except HttpError Db := do
  require (db.operations.find id = none) (.internal "Duplicate entry for key PRIMARY")
  let record := {
    id := id
    paymentChannelId := ""
    amount := toColumn amount
    currency := capture.currency
    operationType := payment.type
    paymentId := payment.id }
  savePaymentChannelRecord env db record result payment.id

/-- The columns that no answer of a channel writes. -/
def opCore (operation : PaymentChannelOperation) : String × String × ℤ × PaymentType :=
  (operation.id, operation.paymentId, operation.amount, operation.operationType)

/-! ## Seller orders -/

def transactionType : PaymentType → SellerPaymentOrderType
  | .purchase => .creditToSeller
  | .refund => .debitFromSeller

/-- `TransactionMapper.fromPaymentItem`. -/
def fromPaymentItem (paymentItem : PaymentItem) (payment : Payment) : SellerPaymentOrderDTO where
  amount := paymentItem.totalAmount
  taxAmount := paymentItem.taxAmount
  currency := payment.currency
  paymentId := payment.id
  sourceAccountId := payment.customerAccountId
  targetAccountId := paymentItem.sellerAccountId
  paymentStatus := payment.paymentStatus
  transactionType := transactionType payment.type

/-- Adds a line to the group of its seller. The other fields of the key are the same on all lines. -/
def addToOrder (object : SellerPaymentOrderDTO) : List SellerPaymentOrderDTO → List SellerPaymentOrderDTO
  | [] => [object]
  | order :: rest =>
    if order.targetAccountId = object.targetAccountId then
      { order with amount := order.amount + object.amount, taxAmount := order.taxAmount + object.taxAmount } :: rest
    else order :: addToOrder object rest

/-- The orders that `generateSellerPaymentOrders` adds one by one. -/
def sellerPaymentOrders (payment : Payment) : List SellerPaymentOrderDTO :=
  payment.items.rows.foldl (fun orders item => addToOrder (fromPaymentItem item payment) orders) []

/-- A missing value of a `where` clause filters nothing. -/
def matchesOrder (tr : SellerPaymentOrderDTO) (order : SellerPaymentOrder) : Bool :=
  tr.sourceAccountId.all (· = order.sourceAccountId) ∧ tr.targetAccountId.all (· = order.targetAccountId) ∧
    order.sellerOrderType = tr.transactionType ∧ order.paymentId = tr.paymentId ∧ order.currency = tr.currency

/-- `SellerPaymentOrderService.addTransaction`. -/
def addTransaction (db : Db) (tr : SellerPaymentOrderDTO) : Except HttpError Db :=
  match db.sellerOrders.rows.find? (matchesOrder tr) with
  | some existing =>
    return { db with sellerOrders := db.sellerOrders.save { existing with paymentStatus := tr.paymentStatus } }
  | none => do
    let sourceAccountId ← orThrow tr.sourceAccountId (.internal "Column 'sourceAccountId' cannot be null")
    let targetAccountId ← orThrow tr.targetAccountId (.internal "Column 'targetAccountId' cannot be null")
    require (db.sellerOrders.find (tr.paymentId, targetAccountId) = none) (.internal "Duplicate entry for key UNIQUE")
    let entity := {
      amount := tr.amount
      taxAmount := tr.taxAmount
      untaxedAmount := minusNumberValues tr.amount [tr.taxAmount]
      currency := tr.currency
      paymentId := tr.paymentId
      targetAccountId := targetAccountId
      sourceAccountId := sourceAccountId
      paymentStatus := tr.paymentStatus
      sellerOrderType := tr.transactionType }
    return { db with sellerOrders := db.sellerOrders.save entity }

def closeOpenPaymentOrders (db : Db) (paymentId : String) : Db :=
  { db with sellerOrders := {
      rows := db.sellerOrders.rows.map fun order =>
        if order.paymentId = paymentId then { order with openPayment := false } else order
      nodup := by
        rw [List.map_map, show SellerPaymentOrder.key ∘ (fun order : SellerPaymentOrder =>
            if order.paymentId = paymentId then { order with openPayment := false } else order) = SellerPaymentOrder.key by
          funext order; simp only [Function.comp_apply]; split <;> rfl]
        exact db.sellerOrders.nodup } }

/-! ## The ledger -/

def isOldTransaction (dtos : List AccountPaymentTransaction) (transaction : AccountPaymentTransaction) : Bool :=
  dtos.any fun entity => transaction.accountId = entity.accountId ∧ transaction.paymentId = entity.paymentId ∧
    transaction.type = entity.type ∧ transaction.roundingOperationId = none

/-- `AccountPaymentTransactionService.deleteOldTransactions`. -/
def deleteOldTransactions (db : Db) (dtos : List AccountPaymentTransaction) : Db :=
  { db with transactions := db.transactions.filter fun transaction => !isOldTransaction dtos transaction }

def saveTransactions (db : Db) (dtos : List AccountPaymentTransaction) : Db :=
  { db with transactions := db.transactions ++ dtos }

/-- `insertPaymentToReportDigestionQueue`. -/
def emitDigestionEvent (db : Db) (paymentId : String) : Db :=
  { db with digestionEvents := paymentId :: db.digestionEvents }

/-! ## Specifications -/

theorem read_result_status {operation : PaymentChannelOperation} {plan : RefundChannelPlan}
    {result : PaymentChannelStatusDTO} {paymentId : String} {valid : Operations.ValidResult}
    (h : Operations.readResult operation plan result paymentId = .ok valid) :
    operation.paymentId = paymentId ∧ result.paymentStatus = some valid.status := by
  unfold Operations.readResult at h
  simp only [bind_eq_ok, orThrow_eq_ok, require_eq_ok, pure_eq_ok] at h
  obtain ⟨_, -, _, -, -, -, -, -, -, -, -, hpayment, status, hstatus, -, -, -, -, -, -, -, -, rfl⟩ := h
  exact ⟨hpayment, hstatus⟩

/-- An answer writes its operation, with its status, and perhaps rounding entries. -/
theorem save_payment_channel_record_spec {env : Operations.Env} {db db' : Db} {record : PaymentChannelOperation}
    {result : PaymentChannelStatusDTO} {paymentId : String}
    (h : savePaymentChannelRecord env db record result paymentId = .ok db') :
    ∃ operation transactions, db' = { db with
        operations := db.operations.save operation, transactions := transactions } ∧
      db.transactions <+: transactions ∧
      operation.id = record.id ∧ operation.paymentId = paymentId ∧ result.paymentStatus = some operation.status ∧
      ((operation.amount = record.amount ∧ operation.operationType = record.operationType) ∨
        ∃ stored, db.operations.find record.id = some stored ∧ opCore operation = opCore stored) := by
  unfold savePaymentChannelRecord Operations.savePaymentChannelRecord at h
  simp only [bind_eq_ok, pure_eq_ok] at h
  obtain ⟨stored, h, rfl⟩ := h
  split at h
  · -- A refund with a plan: the transaction reads the operation again.
    unfold Operations.saveRefundSettlementRecord at h
    simp only [bind_eq_ok, orThrow_eq_ok, require_eq_ok, pure_eq_ok] at h
    obtain ⟨operation, hfind, plan, -, valid, hvalid, -, -, -, -, acc, -, rfl⟩ := h
    obtain ⟨hpayment, hstatus⟩ := read_result_status hvalid
    have hid := Table.key_of_find hfind
    exact ⟨_, _, rfl, List.prefix_append _ _, hid, hpayment, hstatus, Or.inr ⟨operation, hfind, rfl⟩⟩
  · simp only [bind_eq_ok, orThrow_eq_ok, pure_eq_ok] at h
    obtain ⟨status, hstatus, rfl⟩ := h
    exact ⟨_, _, rfl, List.prefix_rfl, rfl, rfl, hstatus, Or.inl ⟨rfl, rfl⟩⟩

/-- The fields that all orders of a payment share. -/
structure OrderOf (p : Payment) (order : SellerPaymentOrderDTO) : Prop where
  paymentId : order.paymentId = p.id
  sourceAccountId : order.sourceAccountId = p.customerAccountId
  currency : order.currency = p.currency
  transactionType : order.transactionType = Lifecycle.transactionType p.type
  seller : ∃ item ∈ p.items.rows, item.sellerAccountId = order.targetAccountId

theorem mem_addToOrder {object order : SellerPaymentOrderDTO} {orders : List SellerPaymentOrderDTO}
    (h : order ∈ addToOrder object orders) : order ∈ orders ∨ order = object ∨
      ∃ old ∈ orders, order = { old with amount := order.amount, taxAmount := order.taxAmount } := by
  induction orders with
  | nil => exact Or.inr (Or.inl (by simpa [addToOrder] using h))
  | cons head rest ih =>
    unfold addToOrder at h
    split at h
    · rcases List.mem_cons.mp h with rfl | hmem
      · exact Or.inr (Or.inr ⟨head, List.mem_cons_self, rfl⟩)
      · exact Or.inl (List.mem_cons_of_mem _ hmem)
    · rcases List.mem_cons.mp h with rfl | hmem
      · exact Or.inl List.mem_cons_self
      · rcases ih hmem with hold | hnew | ⟨old, hold, heq⟩
        · exact Or.inl (List.mem_cons_of_mem _ hold)
        · exact Or.inr (Or.inl hnew)
        · exact Or.inr (Or.inr ⟨old, List.mem_cons_of_mem _ hold, heq⟩)

/-- Every group stays, and the line has its own. -/
theorem addToOrder_targets (object : SellerPaymentOrderDTO) (orders : List SellerPaymentOrderDTO)
    {target : Option String} (h : target = object.targetAccountId ∨ ∃ order ∈ orders, order.targetAccountId = target) :
    ∃ order ∈ addToOrder object orders, order.targetAccountId = target := by
  induction orders with
  | nil => simpa [addToOrder, eq_comm] using h
  | cons head rest ih =>
    unfold addToOrder
    split <;> rename_i hhead
    · rcases h with rfl | ⟨order, hmem, htarget⟩
      · exact ⟨_, List.mem_cons_self, hhead⟩
      · rcases List.mem_cons.mp hmem with rfl | hmem
        · exact ⟨_, List.mem_cons_self, htarget⟩
        · exact ⟨order, List.mem_cons_of_mem _ hmem, htarget⟩
    · by_cases htarget : head.targetAccountId = target
      · exact ⟨head, List.mem_cons_self, htarget⟩
      · have hrest : target = object.targetAccountId ∨ ∃ order ∈ rest, order.targetAccountId = target := by
          refine h.imp_right ?_
          rintro ⟨order, hmem, horder⟩
          rcases List.mem_cons.mp hmem with rfl | hmem
          · exact absurd horder htarget
          · exact ⟨order, hmem, horder⟩
        obtain ⟨order, hmem, horder⟩ := ih hrest
        exact ⟨order, List.mem_cons_of_mem _ hmem, horder⟩

theorem seller_payment_orders_spec (p : Payment) :
    (∀ order ∈ sellerPaymentOrders p, OrderOf p order) ∧
    ∀ item ∈ p.items.rows, ∃ order ∈ sellerPaymentOrders p, order.targetAccountId = item.sellerAccountId := by
  have hfold : ∀ (items : List PaymentItem) (orders : List SellerPaymentOrderDTO), (∀ item ∈ items, item ∈ p.items.rows) →
      (∀ order ∈ orders, OrderOf p order) →
      let orders' := items.foldl (fun orders item => addToOrder (fromPaymentItem item p) orders) orders
      (∀ order ∈ orders', OrderOf p order) ∧
      (∀ order ∈ orders, ∃ order' ∈ orders', order'.targetAccountId = order.targetAccountId) ∧
      ∀ item ∈ items, ∃ order ∈ orders', order.targetAccountId = item.sellerAccountId := by
    intro items
    induction items with
    | nil => exact fun orders _ horders => ⟨horders, fun order h => ⟨order, h, rfl⟩, by simp⟩
    | cons item items ih =>
      intro orders hitems horders
      have hnext : ∀ order ∈ addToOrder (fromPaymentItem item p) orders, OrderOf p order := by
        intro order hmem
        rcases mem_addToOrder hmem with hold | rfl | ⟨old, hold, heq⟩
        · exact horders order hold
        · exact ⟨rfl, rfl, rfl, rfl, item, hitems item List.mem_cons_self, rfl⟩
        · have hof := horders old hold
          rw [heq]
          exact ⟨hof.paymentId, hof.sourceAccountId, hof.currency, hof.transactionType, hof.seller⟩
      obtain ⟨hall, hkeep, hlines⟩ := ih _ (fun x hx => hitems x (List.mem_cons_of_mem _ hx)) hnext
      refine ⟨hall, fun order hmem => ?_, ?_⟩
      · obtain ⟨order', hmem', htarget⟩ := addToOrder_targets (fromPaymentItem item p) orders
          (Or.inr ⟨order, hmem, rfl⟩)
        obtain ⟨order'', hmem'', htarget'⟩ := hkeep order' hmem'
        exact ⟨order'', hmem'', htarget'.trans htarget⟩
      · rintro x (_ | ⟨_, hx⟩)
        · obtain ⟨order', hmem', htarget⟩ := addToOrder_targets (fromPaymentItem item p) orders (Or.inl rfl)
          obtain ⟨order'', hmem'', htarget'⟩ := hkeep order' hmem'
          exact ⟨order'', hmem'', htarget'.trans htarget⟩
        · exact hlines x hx
  obtain ⟨hall, -, hlines⟩ := hfold p.items.rows [] (fun _ h => h) (by simp)
  exact ⟨hall, hlines⟩

/-- An order is added, or updated under its key. -/
theorem add_transaction_spec {db db' : Db} {tr : SellerPaymentOrderDTO} (h : addTransaction db tr = .ok db') :
    ∃ order, db' = { db with sellerOrders := db.sellerOrders.save order } ∧
      order.paymentId = tr.paymentId ∧ ∀ target, tr.targetAccountId = some target → order.targetAccountId = target := by
  unfold addTransaction at h
  split at h
  · rename_i existing hfind
    obtain rfl := pure_eq_ok.mp h
    have hmatches : matchesOrder tr existing = true := List.find?_some hfind
    simp only [matchesOrder, Bool.decide_and, Bool.and_eq_true, Option.all_eq_true_iff_get, decide_eq_true_eq] at hmatches
    obtain ⟨-, htarget, -, hpayment, -⟩ := hmatches
    exact ⟨_, rfl, hpayment, fun target htr => by simp_all⟩
  · simp only [bind_eq_ok, orThrow_eq_ok, pure_eq_ok] at h
    obtain ⟨source, -, target, htarget, _, -, rfl⟩ := h
    exact ⟨_, rfl, rfl, fun target' htr => by simp_all⟩

end Postral.Lifecycle
