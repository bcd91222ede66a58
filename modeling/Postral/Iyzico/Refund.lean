import Postral.Entity
import Postral.Lib.Decimal

/-!
# Refunds of the iyzico channel (`IyzicoRefundService`)

Amounts come and go as decimal strings. A price is the decimal that the provider sent.
-/

open Check Rounding

namespace Postral.Iyzico

/-! ## Provider amounts -/

inductive RefundRoundingMode where
  | round
  | floor
  | useFirstTwo
  | throw
  deriving DecidableEq, Repr

def refundRoundingMode : Option String → Except HttpError RefundRoundingMode
  | none => .ok .throw
  | some "ROUND" => .ok .round
  | some "FLOOR" => .ok .floor
  | some "USE_FIRST_TWO" => .ok .useFirstTwo
  | some "THROW" => .ok .throw
  | some _ => .error (.internal
      "Invalid IYZICO_REFUND_ROUNDING_MODE; expected ROUND, FLOOR, USE_FIRST_TWO or THROW")

/-- The `amount` of `refundProviderAmount`. `none` is a number that is not finite. -/
inductive RefundAmount where
  | number (v : Option ℚ)
  | text (s : String)

def RefundAmount.nominal : RefundAmount → Option ℚ
  | .number v => v
  | .text s => parseNumeral s

/-- `nominal.round(2, …)`, in cents. `FLOOR` rounds up. -/
def roundedCents (mode : RefundRoundingMode) (nominal : ℚ) : ℤ :=
  match mode with
  | .round => roundAway (nominal * 100)
  | .floor => roundUp (nominal * 100)
  | .useFirstTwo | .throw => truncate (nominal * 100)

def refundProviderAmount (amount : RefundAmount) (mode : RefundRoundingMode) : Except HttpError (Decimal 2) := do
  let nominal ← orThrow amount.nominal (.badRequest "Refund amount must be positive and finite")
  require (0 < nominal) (.badRequest "Refund amount must be positive and finite")
  require (nominal = round nominal 4) (.badRequest "Refund amount exceeds four-decimal precision")
  require (mode = .throw → nominal = round nominal 2)
    (.badRequest "iyzico refund requires two-decimal amounts under THROW")
  let cents := roundedCents mode nominal
  require (0 < cents) (.badRequest "iyzico refund becomes zero under the configured rounding policy")
  return Decimal.ofUnits 2 Nat.zero_lt_two cents.toNat

/-! ## Tables -/

/-- A transaction of the provider, its amounts as `responseDecimal` reads them. -/
structure IyzicoItemTransaction where
  paymentItemId : String
  paymentTransactionId : String
  price : ℚ
  paidPrice : ℚ
  price_nonneg : 0 ≤ price
  paidPrice_nonneg : 0 ≤ paidPrice
  deriving DecidableEq

/-- The transactions of a capture, as `check` verifies them before it stores them. None are `null`. -/
structure ItemTransactions where
  rows : List IyzicoItemTransaction
  itemIds : (rows.map (·.paymentItemId)).Nodup
  transactionIds : (rows.map (·.paymentTransactionId)).Nodup
  deriving DecidableEq

def ItemTransactions.find (transactions : ItemTransactions) (paymentItemId : String) : Option IyzicoItemTransaction :=
  transactions.rows.find? fun item => item.paymentItemId = paymentItemId

structure IyzicoOperation where
  id : String
  paymentId : String
  currency : String
  amount : ℚ
  status : PaymentOperationStatus
  providerPaymentId : Option String
  itemTransactions : ItemTransactions
  deriving DecidableEq

inductive LineState where
  | reserved
  | submitting
  | succeeded
  | rejected
  | reconciliationRequired
  deriving DecidableEq, Repr

/-- `RefundChannelLine`, once its amounts are checked. -/
structure RefundChannelLine where
  originalPaymentItemId : String
  nominalAmount : Decimal 4
  providerAmount : Decimal 2
  deriving DecidableEq

structure IyzicoRefundLine extends RefundChannelLine where
  paymentTransactionId : String
  conversationId : String
  state : LineState
  refundHostReference : Option String := none
  errorCode : Option String := none
  deriving DecidableEq

inductive RefundState where
  | reserved
  | submitting
  | finished
  | reconciliationRequired
  deriving DecidableEq, Repr

structure IyzicoRefund where
  id : String
  paymentId : String
  originalOperationId : String
  currency : String
  roundingMode : RefundRoundingMode
  state : RefundState
  lines : List IyzicoRefundLine
  deriving DecidableEq

structure Db where
  operations : Table IyzicoOperation.id
  refunds : Table IyzicoRefund.id
  deriving DecidableEq

/-- The environment of the process, and the order of its locale. -/
structure Config where
  roundingMode : RefundRoundingMode
  /-- `a.localeCompare(b) <= 0`. -/
  localeLe : String → String → Bool

/-! ## Messages from the core. `none` is a value of another type -/

structure WireLine where
  originalPaymentItemId : Option String
  nominalAmount : Option String
  providerAmount : Option String
  deriving DecidableEq

structure WirePlan where
  originalChannelOperationId : String
  /-- `channelData.roundingMode`, when it is set. -/
  channelRoundingMode : Option (Option String)
  /-- The `roundingMode` of a plan from before `channelData`, when it is set. -/
  roundingMode : Option (Option String) := none
  lines : Option (List (Option WireLine))
  deriving DecidableEq

structure RefundPaymentItem where
  originalPaymentItemId : Option String
  totalAmount : Option ℚ
  deriving DecidableEq

structure CaptureInfo where
  paymentChannelId : String
  currency : String
  paidAmount : Option ℚ
  deriving DecidableEq

/-- `PaymentFullWithCaptureInfoDTO`. -/
structure RefundPayment where
  id : String
  type : PaymentType
  currency : String
  totalAmount : Option ℚ
  openPayment : Bool := false
  items : List RefundPaymentItem := []
  refundOperationId : Option String
  originalPaymentChannelOperationId : Option String
  refundPlan : Option WirePlan
  captureInfo : Option CaptureInfo
  deriving DecidableEq

structure Capture where
  originalOperationId : String
  originalChannelOperationId : String
  paymentChannelId : String
  amount : ℚ
  deriving DecidableEq

structure PrepareItem where
  originalPaymentItemId : String
  nominalAmount : Option String
  deriving DecidableEq

structure PrepareChannelRefundDTO where
  purchasePaymentId : String
  purchaseAmount : ℚ
  currency : String
  captures : List Capture
  items : List (Option PrepareItem)
  deriving DecidableEq

/-- What `prepare` answers. -/
structure PreparedPlan where
  originalOperationId : String
  originalChannelOperationId : String
  roundingMode : RefundRoundingMode
  lines : List RefundChannelLine
  deriving DecidableEq

/-! ## `prepare` -/

/-- `[...lines].sort((a, b) => a.originalPaymentItemId.localeCompare(b.originalPaymentItemId))`. -/
def sortLines (config : Config) (lines : List RefundChannelLine) : List RefundChannelLine :=
  lines.insertionSort fun a b => config.localeLe a.originalPaymentItemId b.originalPaymentItemId

def prepareLine (config : Config) (transactions : ItemTransactions) (raw : Option PrepareItem) :
    Except HttpError RefundChannelLine := do
  let invalid := .badRequest "Refund original line or historical amount is invalid"
  let item ← orThrow raw invalid
  let text ← orThrow item.nominalAmount invalid
  let nominalAmount ← orThrow (Decimal.ofText? 4 text) invalid
  require (∃ line ∈ transactions.rows, line.paymentItemId = item.originalPaymentItemId ∧ nominalAmount.value ≤ line.price)
    invalid
  let providerAmount ← refundProviderAmount (.text text) config.roundingMode
  return ⟨item.originalPaymentItemId, nominalAmount, providerAmount⟩

def prepare (config : Config) (db : Db) (request : PrepareChannelRefundDTO) : Except HttpError PreparedPlan := do
  let source ← orThrow request.captures.head?
    (.badRequest "iyzico refunds require one full-amount completed capture")
  require (request.captures.length = 1 ∧ source.paymentChannelId = "iyzico" ∧ source.amount = request.purchaseAmount ∧
      request.items ≠ [])
    (.badRequest "iyzico refunds require one full-amount completed capture")
  let operation ← orThrow (db.operations.find source.originalChannelOperationId)
    (.badRequest "A matching completed iyzico capture is required")
  require (operation.paymentId = request.purchasePaymentId ∧ operation.currency = request.currency ∧
      operation.status = .completed ∧ operation.amount = request.purchaseAmount ∧ operation.itemTransactions.rows ≠ [])
    (.badRequest "A matching completed iyzico capture is required")
  let lines ← request.items.mapM (prepareLine config operation.itemTransactions)
  let lines := sortLines config lines
  require (lines.map (·.originalPaymentItemId)).Nodup (.badRequest "Refund original line IDs must be unique")
  return ⟨source.originalOperationId, source.originalChannelOperationId, config.roundingMode, lines⟩

/-! ## `validate` -/

/-- `planRoundingMode`: plans saved before `channelData` are read as they are. -/
def planRoundingMode (plan : WirePlan) : Except HttpError RefundRoundingMode := do
  let value ← orThrow ((plan.channelRoundingMode.or plan.roundingMode).join)
    (.badRequest "iyzico refund rounding policy is missing")
  refundRoundingMode (some value)

/-- A line of a plan with its amounts. -/
def readLine : Option WireLine → Option RefundChannelLine
  | some ⟨some originalPaymentItemId, some nominal, some provider⟩ =>
    match Decimal.ofText? 4 nominal, Decimal.ofText? 2 provider with
    | some nominalAmount, some providerAmount =>
      if originalPaymentItemId ≠ "" ∧ 0 < nominalAmount.value ∧ 0 < providerAmount.value then
        some ⟨originalPaymentItemId, nominalAmount, providerAmount⟩
      else none
    | _, _ => none
  | _ => none

/-- The line of the plan for an item of the refund payment. -/
def lineOfItem (lines : List RefundChannelLine) (item : RefundPaymentItem) : Except HttpError RefundChannelLine := do
  let mismatch := .badRequest "Refund payment item origins or amounts do not match the saved plan"
  let originalPaymentItemId ← orThrow item.originalPaymentItemId mismatch
  let line ← orThrow (lines.find? fun line => line.originalPaymentItemId = originalPaymentItemId) mismatch
  let totalAmount ← orThrow item.totalAmount mismatch
  require (originalPaymentItemId ≠ "" ∧ line.nominalAmount.value = totalAmount) mismatch
  return line

/-- The lines in the order of the refund's items, when these name their origins. -/
def linesOfItems (items : List RefundPaymentItem) (lines : List RefundChannelLine) :
    Except HttpError (List RefundChannelLine) :=
  if ∃ item ∈ items, item.originalPaymentItemId.isSome then do
    require (items.length = lines.length ∧ (items.map (·.originalPaymentItemId)).Nodup)
      (.badRequest "Refund payment item origins or amounts do not match the saved plan")
    items.mapM (lineOfItem lines)
  else return lines

/-- The identifiers and the capture of a valid refund payment. -/
structure RefundTarget where
  refundOperationId : String
  originalOperationId : String
  paidAmount : ℚ
  lines : List (Option WireLine)
  plan : WirePlan

def readTarget (payment : RefundPayment) : Except HttpError RefundTarget := do
  let invalid := .badRequest "Invalid iyzico refund plan or capture"
  require (payment.type = .refund ∧ !payment.openPayment ∧ truthy payment.refundOperationId ∧
    truthy payment.originalPaymentChannelOperationId ∧ payment.id ≠ "") invalid
  let plan ← orThrow payment.refundPlan invalid
  let captureInfo ← orThrow payment.captureInfo invalid
  let paidAmount ← orThrow captureInfo.paidAmount invalid
  let lines ← orThrow plan.lines invalid
  require (payment.originalPaymentChannelOperationId = some plan.originalChannelOperationId ∧
    captureInfo.paymentChannelId = "iyzico" ∧ captureInfo.currency = payment.currency ∧
    payment.totalAmount = some paidAmount ∧ lines ≠ []) invalid
  return ⟨payment.refundOperationId.getD "", plan.originalChannelOperationId, paidAmount, lines, plan⟩

/-- What `initialize` works with after its checks. -/
structure ValidRefund where
  refundOperationId : String
  paymentId : String
  originalOperationId : String
  currency : String
  roundingMode : RefundRoundingMode
  lines : List RefundChannelLine
  deriving DecidableEq

def validate (config : Config) (payment : RefundPayment) : Except HttpError ValidRefund := do
  let target ← readTarget payment
  let roundingMode ← planRoundingMode target.plan
  let planned ← orThrow (target.lines.mapM readLine) (.badRequest "Invalid iyzico refund line amounts or identities")
  let lines ← linesOfItems payment.items planned
  let lines := sortLines config lines
  require ((lines.map (·.originalPaymentItemId)).Nodup ∧
      addNumberValues (lines.map (·.nominalAmount.value)) = target.paidAmount)
    (.badRequest "Invalid iyzico refund line amounts or identities")
  return ⟨target.refundOperationId, payment.id, target.originalOperationId, payment.currency, roundingMode, lines⟩

/-! ## The reservation -/

def missingTransaction : HttpError := .badRequest "Original payment item is missing from iyzico capture"

def capacityExceeded : HttpError := .badRequest "iyzico refund exceeds remaining original transaction balance"

/-- The lines of `refunds` on an item. -/
def linesOn (refunds : List IyzicoRefund) (originalPaymentItemId : String) : List IyzicoRefundLine :=
  (refunds.flatMap (·.lines)).filter fun item => item.originalPaymentItemId = originalPaymentItemId

def reserveLine (refundOperationId : String) (transactions : ItemTransactions) (previous : List IyzicoRefund)
    (line : RefundChannelLine) (index : ℕ) : Except HttpError IyzicoRefundLine := do
  let transaction ← orThrow (transactions.find line.originalPaymentItemId) missingTransaction
  let prior := linesOn previous line.originalPaymentItemId
  let reservedProvider := addNumberValues (prior.map (·.providerAmount.value))
  let reservedNominal := addNumberValues (prior.map (·.nominalAmount.value))
  require (reservedProvider + line.providerAmount.value ≤ transaction.paidPrice ∧
    reservedNominal + line.nominalAmount.value ≤ transaction.price) capacityExceeded
  return { line with
    paymentTransactionId := transaction.paymentTransactionId
    conversationId := s!"{refundOperationId}:{index}"
    state := .reserved }

/-- `lines.map((line, index) => …)`. -/
def reserveLines (refundOperationId : String) (transactions : ItemTransactions) (previous : List IyzicoRefund)
    (lines : List RefundChannelLine) : Except HttpError (List IyzicoRefundLine) :=
  lines.zipIdx.mapM fun (line, index) => reserveLine refundOperationId transactions previous line index

/-- The completed capture, under its lock. -/
def findSource (db : Db) (valid : ValidRefund) : Except HttpError (IyzicoOperation × String) := do
  let invalid := .badRequest "A completed iyzico capture with verified transactions is required"
  let source ← orThrow (db.operations.find valid.originalOperationId) invalid
  require (source.status = .completed ∧ truthy source.providerPaymentId ∧ source.itemTransactions.rows ≠ [] ∧
    source.currency = valid.currency) invalid
  return (source, source.providerPaymentId.getD "")

/-- The stored refund has the same details. -/
def sameDetails (existing : IyzicoRefund) (valid : ValidRefund) (source : IyzicoOperation) : Prop :=
  existing.paymentId = valid.paymentId ∧ existing.originalOperationId = source.id ∧
    existing.currency = valid.currency ∧ existing.roundingMode = valid.roundingMode ∧
    existing.lines.map (·.toRefundChannelLine) = valid.lines

instance (existing : IyzicoRefund) (valid : ValidRefund) (source : IyzicoOperation) :
    Decidable (sameDetails existing valid source) := by
  unfold sameDetails
  infer_instance

/-- The transaction of `initialize`: the tables, the refund and the provider's payment. -/
def reserve (db : Db) (valid : ValidRefund) : Except HttpError (Db × IyzicoRefund × String) := do
  let (source, providerPaymentId) ← findSource db valid
  match db.refunds.find valid.refundOperationId with
  | some existing =>
    require (sameDetails existing valid source) (.conflict "iyzico refund ID was reserved with different details")
    return (db, existing, providerPaymentId)
  | none =>
    let previous := db.refunds.rows.filter fun refund => refund.originalOperationId = source.id
    let lines ← reserveLines valid.refundOperationId source.itemTransactions previous valid.lines
    let refund := {
      id := valid.refundOperationId
      paymentId := valid.paymentId
      originalOperationId := source.id
      currency := source.currency
      roundingMode := valid.roundingMode
      state := .reserved
      lines := lines }
    -- The column `paymentId` is unique.
    require (∀ other ∈ db.refunds.rows, other.paymentId ≠ refund.paymentId) (.internal "ER_DUP_ENTRY")
    return ({ db with refunds := db.refunds.save refund }, refund, providerPaymentId)

/-! ## Updates of a refund -/

/-- `refunds.update(id, …)`. -/
def updateRefund (db : Db) (id : String) (change : IyzicoRefund → IyzicoRefund) : Db :=
  match db.refunds.find id with
  | some refund => { db with refunds := db.refunds.save (change refund) }
  | none => db

/-- `update({ id, state: 'RESERVED' }, { state: 'SUBMITTING' })`. `none` when no row is affected. -/
def claim (db : Db) (id : String) : Option Db :=
  match db.refunds.find id with
  | some refund =>
    if refund.state = .reserved then some (updateRefund db id fun refund => { refund with state := .submitting }) else none
  | none => none

def setLine (refund : IyzicoRefund) (index : ℕ) (change : IyzicoRefundLine → IyzicoRefundLine) : IyzicoRefund :=
  { refund with lines := refund.lines.modify index change }

/-! ## `check` -/

/-- `PaymentChannelStatusDTO` with its `paymentErrorStatus`. -/
structure RefundStatus extends PaymentChannelStatusDTO where
  paymentErrorStatus : Option String
  deriving DecidableEq

def statusOf (refund : IyzicoRefund) : RefundStatus :=
  let succeeded := refund.lines.filter (·.state = .succeeded)
  let failed : Bool := succeeded.length = 0 ∧ ∃ line ∈ refund.lines, line.state = .rejected
  { paymentChannelId := some "iyzico"
    paymentChannelOperationId := some refund.id
    paymentStatus := some (if succeeded.length = refund.lines.length then .completed else if failed then .failed else .waiting)
    refundSettlements := some (succeeded.map fun line =>
      some ⟨some line.originalPaymentItemId, some line.providerAmount.text⟩)
    paymentErrorStatus := if refund.state = .reconciliationRequired then some "UNKNOWN" else none }

def check (db : Db) (id : String) : Except HttpError RefundStatus := do
  let refund ← orThrow (db.refunds.find id) (.notFound "iyzico refund not found")
  return statusOf refund

end Postral.Iyzico
