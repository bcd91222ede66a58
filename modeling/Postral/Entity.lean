import Postral.Money
import Postral.Lib.Table

/-! # Entities -/

namespace Postral

/-! ## Payments -/

inductive PaymentType where
  | purchase
  | refund
  deriving DecidableEq, Repr

inductive PaymentStatus where
  | initiated
  | waiting
  | completed
  | failed
  deriving DecidableEq, Repr

inductive PaymentErrorStatus where
  | failed
  | cancelled
  | expired
  deriving DecidableEq, Repr

structure PaymentItem where
  id : String
  originalPaymentItemId : Option String := none
  itemId : String := ""
  variation : String := ""
  name : String := ""
  note : Option String := none
  quantity : ℤ := 0
  totalAmount : ℤ := 0
  originalUnitAmount : ℤ := 0
  unitAmount : ℤ := 0
  taxPercent : ℤ := 0
  taxAmount : ℤ := 0
  unTaxAmount : ℤ := 0
  sellerAccountId : Option String := none
  unit : String := ""
  refunded : Bool := false
  refundCount : ℤ := 0
  itemClass : String := ""
  appComissionAmount : ℤ := 0
  appComissionPercent : ℤ := 0
  deriving DecidableEq, Repr

structure Payment where
  id : String
  type : PaymentType
  note : Option String := none
  totalAmount : ℤ
  taxAmount : ℤ
  currency : String
  items : Table PaymentItem.id
  customerAccountId : Option String
  paymentStatus : PaymentStatus
  errorStatus : Option PaymentErrorStatus := none
  createdAt : ℕ := 0
  refundRequestId : Option String := none
  refundApprovalToken : Option String := none
  /-- Milliseconds. -/
  refundApprovalExpiresAt : Option ℕ := none
  includeInReportDigestion : Bool := true
  openPayment : Bool := false
  externalPlatformId : Option String := none
  failOnPaymentChannelFailure : Bool := false
  deriving DecidableEq

/-! ## Refund requests -/

inductive RefundRequestStatus where
  | pending
  | approved
  | rejected
  deriving DecidableEq, Repr

inductive RefundReasonKey where
  | damaged
  | defective
  | wrongItem
  | missingParts
  | notAsDescribed
  | changedMind
  | other
  deriving DecidableEq, Repr

/-- `REFUND_REASON_KEYS`. -/
def RefundReasonKey.parse : String → Option RefundReasonKey
  | "DAMAGED" => some .damaged
  | "DEFECTIVE" => some .defective
  | "WRONG_ITEM" => some .wrongItem
  | "MISSING_PARTS" => some .missingParts
  | "NOT_AS_DESCRIBED" => some .notAsDescribed
  | "CHANGED_MIND" => some .changedMind
  | "OTHER" => some .other
  | _ => none

/-- The value of digits, read left to right. -/
def digitsValue (digits : List Char) : ℕ := digits.foldl (fun n c => 10 * n + (c.toNat - '0'.toNat)) 0

/-- The value of a string that matches `/^\d+(\.\d{1,4})?$/`. -/
def parseAmount (text : String) : Option ℤ :=
  let whole := text.toList.takeWhile Char.isDigit
  match text.toList.dropWhile Char.isDigit with
  | [] => if whole = [] then none else some (10000 * digitsValue whole)
  | dot :: fraction =>
    if dot = '.' ∧ whole ≠ [] ∧ fraction ≠ [] ∧ fraction.length ≤ 4 ∧ fraction.all Char.isDigit then
      some (10000 * digitsValue whole + 10 ^ (4 - fraction.length) * digitsValue fraction)
    else none

/-- An amount as a channel writes it. -/
structure AmountText where
  text : String
  valid : (parseAmount text).isSome
  deriving DecidableEq

/-- `new Big(text)`, in ten-thousandths. -/
def AmountText.value (a : AmountText) : ℤ := (parseAmount a.text).get a.valid

structure RefundChannelLine where
  originalPaymentItemId : String
  nominalAmount : AmountText
  providerAmount : AmountText
  deriving DecidableEq

structure RefundChannelPlan where
  originalOperationId : String
  originalChannelOperationId : String
  channelData : Option (List (String × String)) := none
  roundingAccountId : Option String := none
  lines : List RefundChannelLine
  deriving DecidableEq

structure RefundRequestItem where
  paymentItemId : String
  realItemId : String
  variation : String
  itemName : String
  itemClass : String
  refundCount : ℤ
  unitAmount : ℤ
  unitAmountWithoutTax : ℤ
  refundAmount : ℤ
  refundAmountWithoutTax : ℤ
  refundTaxAmount : ℤ
  appComissionAmount : ℤ
  appComissionPercent : ℤ
  deriving DecidableEq, Repr

structure RefundRequest where
  id : String
  idempotencyKey : Option String := none
  channelRefundPlan : Option (List RefundChannelPlan) := none
  paymentId : String
  status : RefundRequestStatus
  items : List RefundRequestItem
  requestedByAccountId : String
  requestedByPaymentAccountId : Option String
  requestedToPaymentAccountId : Option String
  currency : String
  reasonKeys : List RefundReasonKey
  requestNote : Option String
  resolutionNote : Option String := none
  resolvedByAccountId : Option String := none
  deriving DecidableEq

/-! ## Channel operations and the ledger -/

inductive PaymentOperationStatus where
  | waiting
  | ready
  | completed
  | failed
  deriving DecidableEq, Repr

inductive FeePayer where
  | seller
  | platform
  deriving DecidableEq, Repr

structure PaymentChannelOperation where
  id : String
  paymentChannelId : String
  operationId : Option String := none
  amount : ℤ
  operationType : PaymentType := .purchase
  currency : String
  status : PaymentOperationStatus := .waiting
  paymentId : String
  originalOperationId : Option String := none
  refundPlan : Option RefundChannelPlan := none
  settledRefundItemIds : Option (List String) := none
  providerFee : ℤ := 0
  providerFeeDebitFrom : FeePayer := .platform
  feeCutInstantly : Bool := false
  deriving DecidableEq

inductive TransactionType where
  | debit
  | credit
  deriving DecidableEq, Repr

structure AccountPaymentTransaction where
  corelationId : String
  accountId : String
  accountName : String
  paymentId : String
  roundingOperationId : Option String := none
  type : TransactionType
  status : PaymentStatus
  amount : ℤ
  taxAmount : ℤ
  description : String
  deriving DecidableEq

/-- `RefundSettlement` as a channel sends it. `none` is a value of another type. -/
structure RefundSettlement where
  originalPaymentItemId : Option String
  providerAmount : Option String
  deriving DecidableEq

/-- What a channel answers. `none` is a value of another type. -/
structure PaymentChannelStatusDTO where
  paymentChannelId : Option String
  paymentChannelOperationId : Option String
  paymentStatus : Option PaymentOperationStatus
  providerFee : Option ℚ := none
  feeCutInstantly : Option Bool := none
  refundSettlements : Option (List (Option RefundSettlement)) := none
  deriving DecidableEq

end Postral
