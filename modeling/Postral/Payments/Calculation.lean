import Postral.Payments.Init

/-! # The order calculation (`OrderCalculationService.calculateTotalAmount`) -/

open Check

namespace Postral

structure PaymentItemInputDto where
  itemId : Option String := none
  note : Option String := none
  entityGroup : Option String := none
  entityId : Option String := none
  entityName : Option String := none
  variation : Option String := none
  quantity : ℚ
  deriving DecidableEq

structure ItemListCalculationInputDto where
  items : List PaymentItemInputDto
  saleMode : String
  currency : String
  deriving DecidableEq

/-- How an item is looked up. -/
inductive ItemSearch where
  | id (itemId : String)
  | entity (entityGroup entityId entityName : String)
  deriving DecidableEq

structure ItemDTO where
  id : String
  name : String
  sellerAccountId : Option String
  itemClass : Option String
  itemTaxId : Option String
  unit : String
  deriving DecidableEq

structure ItemTaxDTO where
  taxName : String
  /-- Tax mode and tax rate. -/
  variations : List (String × ℚ)
  deriving DecidableEq

structure ItemPriceSearchDTO where
  currency : String
  itemId : String
  variation : Option String
  deriving DecidableEq

structure ItemPriceDTO where
  variation : String
  itemPrice : ℤ
  deriving DecidableEq

/-- What the item, account, tax, price, commission and settings services answer. -/
structure Catalog where
  fetchAll : ItemSearch → List ItemDTO
  commissionPercent : Option String → String → ℚ
  account : Option String → Option AccountDTO
  itemTax : Option String → Option ItemTaxDTO
  allLatestPrices : ItemPriceSearchDTO → List ItemPriceDTO
  allDefaultPrices : ItemPriceSearchDTO → List ItemPriceDTO
  comissionsCalculatedFromNet : Bool

def itemSearch (input : PaymentItemInputDto) : Except HttpError ItemSearch :=
  if truthy input.itemId then
    return .id (input.itemId.getD "")
  else do
    require (truthy input.entityGroup ∧ truthy input.entityId ∧ truthy input.entityName)
      (.notFound "Item identification is missing for payment init")
    return .entity (input.entityGroup.getD "") (input.entityId.getD "") (input.entityName.getD "")

/-- One line of the order and its tax. -/
def calculateItem (catalog : Catalog) (order : ItemListCalculationInputDto) (input : PaymentItemInputDto) :
    Except HttpError (PaymentItemDTO × TaxDTO) := do
  let search ← itemSearch input
  let realItem ← orThrow (catalog.fetchAll search).head? (.notFound "Item not found for payment init")
  let itemClass := realItem.itemClass.getD ""
  let percent := catalog.commissionPercent realItem.sellerAccountId itemClass
  let itemAccount ← orThrow (catalog.account realItem.sellerAccountId)
    (.notFound "Seller account not found for payment init")
  require (itemAccount.type = "COMMERCIAL")
    (.notFound s!"Item that is named \"{realItem.name}\" seller account is not commercial for payment init.")
  let itemTax ← orThrow (catalog.itemTax realItem.itemTaxId) (.notFound "Item tax not found for payment init")
  let variation ← orThrow (itemTax.variations.find? fun v => v.1 = order.saleMode)
    (.notFound s!"Item tax variation not found for sale mode: {order.saleMode}")
  let priceSearch := ⟨order.currency, realItem.id, input.variation⟩
  let active ← orThrow (catalog.allLatestPrices priceSearch).head?
    (.internal "Cannot read properties of undefined (reading 'variation')")
  let totalAmount := multiplyNumberValues [fromColumn active.itemPrice, input.quantity]
  let default ← orThrow (catalog.allDefaultPrices priceSearch).head?
    (.internal "Cannot read properties of undefined (reading 'itemPrice')")
  let taxDto ← generateTaxDto (itemTax.taxName ++ " - " ++ order.saleMode) totalAmount (some variation.2) none
  let comission ← calculateComissionAmountByPercent
    (if catalog.comissionsCalculatedFromNet then taxDto.untaxAmount else totalAmount) percent
  let item := {
    itemId := realItem.id
    variation := active.variation
    name := realItem.name
    note := input.note
    quantity := input.quantity
    totalAmount := totalAmount
    originalUnitAmount := fromColumn default.itemPrice
    unitAmount := fromColumn active.itemPrice
    taxPercent := variation.2
    taxAmount := taxDto.taxAmount
    unTaxAmount := taxDto.untaxAmount
    sellerAccountId := realItem.sellerAccountId
    unit := realItem.unit
    itemClass := itemClass
    appComissionAmount := comission
    appComissionPercent := percent }
  return (item, taxDto)

/-- One turn of the loop. -/
def addItem (catalog : Catalog) (order : ItemListCalculationInputDto) (acc : ItemListCalculationDto)
    (input : PaymentItemInputDto) : Except HttpError ItemListCalculationDto := do
  let (item, taxDto) ← calculateItem catalog order input
  return {
    items := acc.items ++ [item]
    totalAmount := addNumberValues [acc.totalAmount, item.totalAmount]
    totalTaxAmount := addNumberValues [acc.totalTaxAmount, taxDto.taxAmount]
    taxes := acc.taxes ++ [taxDto] }

def calculateTotalAmount (catalog : Catalog) (order : ItemListCalculationInputDto) :
    Except HttpError ItemListCalculationDto := do
  require (∀ item ∈ order.items, ∀ text ∈ item.note, utf16Length text ≤ maxPaymentNoteLength)
    (.badRequest s!"Payment notes cannot exceed {maxPaymentNoteLength} characters")
  order.items.foldlM (addItem catalog order) ⟨[], 0, 0, []⟩

/-- `init` for the given lines, up to the save. -/
def initPayment (catalog : Catalog) (dir : Directory) (pdto : PaymentInitDTO) (items : List PaymentItemInputDto) :
    Except HttpError PaymentDraft :=
  generateEntityFromInitDto dir (fun saleMode => calculateTotalAmount catalog ⟨items, saleMode, pdto.currency⟩)
    { pdto with itemNotes := items.map (·.note) } none

/-! ## Specifications -/

/-- The exact amount of a line. -/
def PaymentItemDTO.exactTotal (item : PaymentItemDTO) : ℚ := item.unitAmount * item.quantity

/-- The exact tax in the amount of a line, to the twenty decimals of a division. -/
def PaymentItemDTO.exactTax (item : PaymentItemDTO) : ℚ :=
  div (item.taxPercent * item.exactTotal) (item.taxPercent + 100)

theorem calculateTaxAmount_eq {fullAmount percent tax : ℚ} (h : calculateTaxAmount fullAmount percent = .ok tax) :
    tax = div (percent * fullAmount) (percent + 100) := by
  unfold calculateTaxAmount divideNumberValues at h
  simp only [multiplyNumberValues, addNumberValues, List.foldl_cons, List.foldl_nil, one_mul, zero_add] at h
  split at h <;> rename_i hzero
  · obtain rfl := pure_eq_ok.mp h
    simp [hzero, div, round]
  · simp only [bind_eq_ok, pure_eq_ok] at h
    obtain ⟨-, -, -, -, rfl⟩ := h
    rfl

theorem calculate_item_spec {catalog : Catalog} {order : ItemListCalculationInputDto} {input : PaymentItemInputDto}
    {item : PaymentItemDTO} {taxDto : TaxDTO} (h : calculateItem catalog order input = .ok (item, taxDto)) :
    item.quantity = input.quantity ∧ (∃ price, item.unitAmount = fromColumn price) ∧
      item.totalAmount = item.exactTotal ∧ item.taxAmount = item.exactTax ∧
      taxDto.taxAmount = item.taxAmount := by
  unfold calculateItem at h
  simp only [bind_eq_ok, orThrow_eq_ok, require_eq_ok, pure_eq_ok, Prod.mk.injEq] at h
  obtain ⟨-, -, realItem, -, itemAccount, -, -, -, itemTax, -, variation, -, active, -, default, -, tax, htax, -, -,
    rfl, rfl⟩ := h
  obtain ⟨hamount, -, -⟩ := generateTaxDto_of_percent htax
  have htotal : multiplyNumberValues [fromColumn active.itemPrice, input.quantity] =
      fromColumn active.itemPrice * input.quantity := by
    simp [multiplyNumberValues]
  rw [htotal] at hamount
  exact ⟨rfl, ⟨_, rfl⟩, htotal, calculateTaxAmount_eq hamount, rfl⟩

/-- The totals are the exact sums over the lines. -/
def ItemListCalculationDto.Exact (calculation : ItemListCalculationDto) : Prop :=
  calculation.totalAmount = (calculation.items.map (·.totalAmount)).sum ∧
  calculation.totalTaxAmount = (calculation.items.map (·.taxAmount)).sum ∧
  ∀ item ∈ calculation.items, (∃ price, item.unitAmount = fromColumn price) ∧
    item.totalAmount = item.exactTotal ∧ item.taxAmount = item.exactTax

theorem add_item_exact {catalog : Catalog} {order : ItemListCalculationInputDto} {acc acc' : ItemListCalculationDto}
    {input : PaymentItemInputDto} (hacc : acc.Exact) (h : addItem catalog order acc input = .ok acc') :
    acc'.Exact ∧ acc'.items.map (·.quantity) = acc.items.map (·.quantity) ++ [input.quantity] := by
  unfold addItem at h
  simp only [bind_eq_ok, pure_eq_ok] at h
  obtain ⟨⟨item, taxDto⟩, hitem, rfl⟩ := h
  obtain ⟨htotal, htax, hitems⟩ := hacc
  obtain ⟨hquantity, hprice, hitemTotal, hitemTax, htaxDto⟩ := calculate_item_spec hitem
  refine ⟨⟨?_, ?_, ?_⟩, by simp [hquantity]⟩
  · simp [htotal]
  · simp [htax, htaxDto]
  · intro other hother
    rcases List.mem_append.mp hother with hmem | hmem
    · exact hitems other hmem
    · rw [List.mem_singleton.mp hmem]
      exact ⟨hprice, hitemTotal, hitemTax⟩

theorem calculate_total_amount_spec {catalog : Catalog} {order : ItemListCalculationInputDto}
    {calculation : ItemListCalculationDto} (h : calculateTotalAmount catalog order = .ok calculation) :
    calculation.Exact ∧ calculation.items.map (·.quantity) = order.items.map (·.quantity) := by
  unfold calculateTotalAmount at h
  simp only [bind_eq_ok, require_eq_ok] at h
  obtain ⟨-, -, h⟩ := h
  refine foldlM_invariant (P := fun done acc => acc.Exact ∧
    acc.items.map (·.quantity) = done.map PaymentItemInputDto.quantity) ⟨⟨rfl, rfl, by simp⟩, rfl⟩ ?_ h
  rintro done acc input acc' ⟨hexact, hquantities⟩ hacc'
  obtain ⟨hexact', hquantity⟩ := add_item_exact hexact hacc'
  exact ⟨hexact', by simp [hquantity, hquantities]⟩

end Postral
