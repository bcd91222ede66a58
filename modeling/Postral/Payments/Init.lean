import Postral.Entity
import Postral.Tax

/-! # Making a payment (`PaymentService.generateEntityFromInitDto`) -/

open Check

namespace Postral

/-- A payment line before it is stored. -/
structure PaymentItemDTO where
  originalPaymentItemId : Option String := none
  itemId : String
  variation : String
  name : String
  note : Option String := none
  quantity : ℚ
  totalAmount : ℚ
  originalUnitAmount : ℚ
  unitAmount : ℚ
  taxPercent : ℚ
  taxAmount : ℚ
  unTaxAmount : ℚ
  sellerAccountId : Option String
  unit : String
  itemClass : String
  appComissionAmount : ℚ
  appComissionPercent : ℚ
  deriving DecidableEq

/-- `PaymentItemMapper.toEntity`, as the columns store it. The refund fields keep their defaults. -/
def PaymentItemDTO.toEntity (dto : PaymentItemDTO) (id : String) : PaymentItem where
  id := id
  originalPaymentItemId := dto.originalPaymentItemId
  itemId := dto.itemId
  variation := dto.variation
  name := dto.name
  note := dto.note
  quantity := toColumn dto.quantity
  totalAmount := toColumn dto.totalAmount
  originalUnitAmount := toColumn dto.originalUnitAmount
  unitAmount := toColumn dto.unitAmount
  taxPercent := toColumn dto.taxPercent
  taxAmount := toColumn dto.taxAmount
  unTaxAmount := toColumn dto.unTaxAmount
  sellerAccountId := dto.sellerAccountId
  unit := dto.unit
  itemClass := dto.itemClass
  appComissionAmount := toColumn dto.appComissionAmount
  appComissionPercent := toColumn dto.appComissionPercent

/-- `PaymentItemMapper.toDto`. -/
def PaymentItem.toDto (item : PaymentItem) : PaymentItemDTO where
  originalPaymentItemId := item.originalPaymentItemId
  itemId := item.itemId
  variation := item.variation
  name := item.name
  note := item.note
  quantity := fromColumn item.quantity
  totalAmount := fromColumn item.totalAmount
  originalUnitAmount := fromColumn item.originalUnitAmount
  unitAmount := fromColumn item.unitAmount
  taxPercent := fromColumn item.taxPercent
  taxAmount := fromColumn item.taxAmount
  unTaxAmount := fromColumn item.unTaxAmount
  sellerAccountId := item.sellerAccountId
  unit := item.unit
  itemClass := item.itemClass
  appComissionAmount := fromColumn item.appComissionAmount
  appComissionPercent := fromColumn item.appComissionPercent

structure ItemListCalculationDto where
  items : List PaymentItemDTO
  totalAmount : ℚ
  totalTaxAmount : ℚ
  taxes : List TaxDTO
  deriving DecidableEq

structure PaymentInitDTO where
  type : PaymentType
  note : Option String := none
  currency : String
  saleMode : Option String := none
  itemNotes : List (Option String)
  customerAccountId : String
  billingAddressId : Option String := none
  refundRequestId : Option String := none
  activeSessionId : Option String := none
  failOnPaymentChannelFailure : Option Bool := none
  deriving DecidableEq

structure AccountDTO where
  name : String
  type : String
  defaultAddressId : Option String
  deriving DecidableEq

/-- What the account and address services answer, and the sessions of the unresolved payments. -/
structure Directory where
  account : String → Option AccountDTO
  address : String → Bool
  sessionInUse : String → Bool

/-- A `Payment` before it is stored. -/
structure PaymentDraft where
  type : PaymentType
  note : Option String
  currency : String
  totalAmount : ℚ
  taxAmount : ℚ
  items : List PaymentItemDTO
  taxes : List TaxDTO
  customerAccountId : String
  billingAddressId : Option String
  refundRequestId : Option String
  activeSessionId : Option String
  failOnPaymentChannelFailure : Bool
  paymentStatus : PaymentStatus
  includeInReportDigestion : Bool
  deriving DecidableEq

/-- `MAX_PAYMENT_NOTE_LENGTH`. -/
def maxPaymentNoteLength : ℕ := 10000

def validatePaymentNotes (notes : List (Option String)) : Except HttpError Unit :=
  require (∀ note ∈ notes, ∀ text ∈ note, utf16Length text ≤ maxPaymentNoteLength)
    (.badRequest s!"Payment notes cannot exceed {maxPaymentNoteLength} characters")

def applyItemSellerSnapshots (dir : Directory) (items : List PaymentItemDTO) : Except HttpError Unit :=
  checkAll (fun item => do
    require (truthy item.sellerAccountId) (.badRequest s!"Seller account ID is required for item {item.itemId}")
    let seller := item.sellerAccountId.getD ""
    let account ← orThrow (dir.account seller) (.notFound s!"Seller account not found for item {item.itemId}")
    require (truthy account.defaultAddressId)
      (.badRequest s!"Seller account {seller} does not have a default address")
    require (dir.address (account.defaultAddressId.getD ""))
      (.notFound s!"Seller default address not found for item {item.itemId}")) items

def applyAddressSnapshot (dir : Directory) (billingAddressId : Option String) : Except HttpError Unit := do
  require (truthy billingAddressId) (.badRequest "Valid billing address ID is required for payment init")
  require (dir.address (billingAddressId.getD "")) (.notFound "Billing address not found")

/-- `calculate` is the order calculation at the sale mode. A refund brings its own. -/
def generateEntityFromInitDto (dir : Directory) (calculate : String → Except HttpError ItemListCalculationDto)
    (pdto : PaymentInitDTO) (refundCalculation : Option ItemListCalculationDto) : Except HttpError PaymentDraft := do
  validatePaymentNotes (pdto.note :: pdto.itemNotes)
  require (¬ (truthy pdto.activeSessionId ∧ dir.sessionInUse (pdto.activeSessionId.getD "")))
    (.badRequest "Active session ID is already in use for another payment")
  let customerAccount ← orThrow (dir.account pdto.customerAccountId)
    (.notFound "Customer account not found for payment init")
  require (¬ (pdto.type = .refund ∧ !truthy pdto.refundRequestId))
    (.badRequest "Refund request ID is required for REFUND type")
  let saleMode := if isBlank (pdto.saleMode.getD "") then "DEFAULT" else pdto.saleMode.getD ""
  let calculationResult ← refundCalculation.elim (calculate saleMode) .ok
  let taxes ← mergeTaxesByPercent calculationResult.taxes
  let billingAddressId := pdto.billingAddressId.orElse fun _ => customerAccount.defaultAddressId
  applyItemSellerSnapshots dir calculationResult.items
  applyAddressSnapshot dir billingAddressId
  return {
    type := pdto.type
    note := pdto.note
    currency := pdto.currency
    totalAmount := calculationResult.totalAmount
    taxAmount := calculationResult.totalTaxAmount
    items := calculationResult.items
    taxes := taxes
    customerAccountId := pdto.customerAccountId
    billingAddressId := billingAddressId
    refundRequestId := pdto.refundRequestId
    activeSessionId := pdto.activeSessionId
    failOnPaymentChannelFailure := pdto.failOnPaymentChannelFailure.getD false
    paymentStatus := .initiated
    includeInReportDigestion := true }

/-- `manager.save(Payment, draft)`: the columns round, the database gives the keys.
`none` when a key is taken twice. -/
def PaymentDraft.store (draft : PaymentDraft) (id : String) (itemIds : List String) : Option Payment :=
  if itemIds.length = draft.items.length then
    (Table.ofRows? (List.zipWith PaymentItemDTO.toEntity draft.items itemIds)).map fun items =>
      { id := id
        type := draft.type
        note := draft.note
        totalAmount := toColumn draft.totalAmount
        taxAmount := toColumn draft.taxAmount
        currency := draft.currency
        items := items
        customerAccountId := some draft.customerAccountId
        paymentStatus := draft.paymentStatus
        refundRequestId := draft.refundRequestId
        includeInReportDigestion := draft.includeInReportDigestion
        failOnPaymentChannelFailure := draft.failOnPaymentChannelFailure }
  else none

/-! ## Specifications -/

theorem generate_entity_spec {dir : Directory} {calculate : String → Except HttpError ItemListCalculationDto}
    {pdto : PaymentInitDTO} {refundCalculation : Option ItemListCalculationDto} {draft : PaymentDraft}
    (h : generateEntityFromInitDto dir calculate pdto refundCalculation = .ok draft) :
    ∃ calculation, (refundCalculation = some calculation ∨
        (refundCalculation = none ∧ ∃ saleMode, calculate saleMode = .ok calculation)) ∧
      draft.type = pdto.type ∧ draft.refundRequestId = pdto.refundRequestId ∧
      draft.items = calculation.items ∧ draft.totalAmount = calculation.totalAmount ∧
      draft.taxAmount = calculation.totalTaxAmount := by
  simp only [generateEntityFromInitDto, bind_eq_ok, pure_eq_ok, require_eq_ok, orThrow_eq_ok] at h
  obtain ⟨_, _, _, _, _, _, _, _, calculation, hcalc, _, _, _, _, _, _, rfl⟩ := h
  refine ⟨calculation, ?_, rfl, rfl, rfl, rfl, rfl⟩
  cases refundCalculation with
  | some c => exact Or.inl (by simpa using hcalc)
  | none => exact Or.inr ⟨rfl, _, hcalc⟩

theorem store_spec {draft : PaymentDraft} {id : String} {itemIds : List String} {p : Payment}
    (h : draft.store id itemIds = some p) :
    p.id = id ∧ p.type = draft.type ∧ p.paymentStatus = draft.paymentStatus ∧
      p.refundRequestId = draft.refundRequestId ∧ p.refundApprovalToken = none ∧
      p.totalAmount = toColumn draft.totalAmount ∧ p.taxAmount = toColumn draft.taxAmount ∧
      itemIds.length = draft.items.length ∧
      p.items.rows = List.zipWith PaymentItemDTO.toEntity draft.items itemIds := by
  simp only [PaymentDraft.store, Option.ite_none_right_eq_some, Option.map_eq_some_iff] at h
  obtain ⟨hlen, items, hitems, rfl⟩ := h
  exact ⟨rfl, rfl, rfl, rfl, rfl, rfl, rfl, hlen, Table.ofRows?_eq_some.mp hitems⟩

end Postral
