import Postral.Accounts.Mapper
import Postral.Payments.Calculation

/-! # Recording orders of external platforms (`ExternalPlatformPaymentService`) -/

open Check Postral.Accounts
open Postral.Setup (trimmed)

namespace Postral.External

/-! ## Data -/

structure ExternalPlatform where
  id : String
  name : String
  active : Bool
  deriving DecidableEq

/-- `ExternalPlatformPaymentItemInputDTO`. -/
structure PaymentItemInput where
  itemId : Option String := none
  name : String
  quantity : ℚ
  unitAmount : ℚ
  taxRate : ℚ
  sellerAccountId : String
  itemClass : Option String := none
  variation : Option String := none
  unit : Option String := none

/-- `CreateExternalPlatformPaymentDTO`. -/
structure CreatePaymentDTO where
  externalPlatformId : String
  externalPlatformOrderId : String
  currency : String
  customerAccount : Accounts.AccountDTO
  billingAddress : AccountAddressDto
  items : List PaymentItemInput

/-- A row of `Payment`, with the amounts before the columns round them. -/
structure Payment where
  id : String
  type : PaymentType
  currency : String
  totalAmount : ℚ
  taxAmount : ℚ
  items : List PaymentItemDTO
  taxes : List TaxDTO
  customerAccountId : String
  billingAddressId : Option String
  externalPlatformId : Option String
  externalPlatformOrderId : Option String
  paymentStatus : PaymentStatus
  openPayment : Bool
  includeInReportDigestion : Bool
  customerSnapshotAccount : Option InvoiceAccount
  customerSnapshotAddress : Option InvoiceAddress

inductive RequestError where
  | unauthorized (message : String)
  | http (error : HttpError)
  deriving DecidableEq, Repr

def liftHttp {α : Type} : Except HttpError α → Except RequestError α
  | .ok a => .ok a
  | .error error => .error (.http error)

/-- `UserAuthBackendDTO`. -/
structure User where
  id : String
  roles : List String

/-- What the other services answer to one call. -/
structure Services where
  /-- Whether the user has the capability to edit an account. -/
  hasOwnership : String → Bool
  account : String → Option Accounts.AccountDTO
  directory : Directory
  /-- `fetchOneForCalculation` for the platform. -/
  commissionPercent : String → String → ℚ
  comissionsCalculatedFromNet : Bool
  /-- `String` of a number. -/
  numberText : ℚ → String

/-! ## `validateInput` -/

def requiredText (value : Option String) (field : String) : Except HttpError Unit :=
  require (∃ text ∈ value, ¬ isBlank text ∧ utf16Length text ≤ 255)
    (.badRequest s!"{field} is required and must not exceed 255 characters")

/-- `/^[A-Z]{3}$/`. -/
def isCurrencyCode (currency : String) : Bool :=
  currency.toList.length = 3 ∧ currency.toList.all fun c => 65 ≤ c.toNat ∧ c.toNat ≤ 90

/-- The IDs of the account, then of the address. -/
def validateIds (dto : CreatePaymentDTO) : Except HttpError Unit :=
  checkAll (fun (id, group, platform) =>
      require (truthy id = false ∧ truthy group = false ∧ (truthy platform → platform = some dto.externalPlatformId))
        (.badRequest "Existing IDs and ownership fields are not allowed in external customer inputs"))
    [(dto.customerAccount.id, dto.customerAccount.entityOwnershipGroupId, dto.customerAccount.text .externalPlatformId),
      (dto.billingAddress.id, dto.billingAddress.entityOwnershipGroupId, dto.billingAddress.text .externalPlatformId)]

def validateCustomer (customer : Accounts.AccountDTO) : Except HttpError Unit := do
  require (truthy customer.ownerUserId = false ∧ truthy (customer.text .defaultAddressId) = false ∧
      (customer.bankAccounts.getD []).isEmpty ∧
      (∀ field ∈ [AccountField.bankIban, .bankName, .bankBic, .bankSwift], truthy (customer.text field) = false) ∧
      customer.deactivated ≠ some true ∧ customer.isExternal ≠ some false)
    (.badRequest "External customer account management fields are not allowed")
  requiredText (customer.text .name) "customerAccount.name"
  requiredText (customer.text .legalIdentity) "customerAccount.legalIdentity"

def validateAddress (address : AccountAddressDto) : Except HttpError Unit :=
  checkAll (fun (field, name) => requiredText (address.text field) s!"billingAddress.{name}")
    [(.name, "name"), (.streetName, "streetName"), (.cityName, "cityName"), (.citySubdivisionName, "citySubdivisionName"),
      (.postalZone, "postalZone"), (.country, "country")]

def validateItem (item : PaymentItemInput) : Except HttpError Unit := do
  requiredText (some item.name) "items.name"
  requiredText (some item.sellerAccountId) "items.sellerAccountId"
  require (0 < item.quantity ∧ 0 < item.unitAmount ∧ 0 ≤ item.taxRate ∧ item.taxRate ≤ 100)
    (.badRequest "Items require positive quantity and price, and a tax rate between 0 and 100")

def validateInput (dto : CreatePaymentDTO) : Except HttpError Unit := do
  require (dto.items ≠ []) (.badRequest "External platform payment must contain at least one item")
  requiredText (some dto.externalPlatformId) "externalPlatformId"
  requiredText (some dto.externalPlatformOrderId) "externalPlatformOrderId"
  require (isCurrencyCode dto.currency) (.badRequest "currency must be a three-letter uppercase code")
  validateIds dto
  validateCustomer dto.customerAccount
  validateAddress dto.billingAddress
  checkAll validateItem dto.items

/-! ## Before the transaction -/

def checkSeller (services : Services) (user : User) (sellerId : String) : Except RequestError Unit := do
  require ("ADMIN" ∈ user.roles ∨ services.hasOwnership sellerId)
    (.unauthorized s!"User does not have ownership for seller account {sellerId}")
  let seller ← liftHttp (orThrow (services.account sellerId)
    (.badRequest "An active commercial seller account is required"))
  require (seller.deactivated ≠ some true ∧ seller.isExternal ≠ some true ∧ seller.type = .commercial)
    (.http (.badRequest "An active commercial seller account is required"))
  require (truthy (seller.text .defaultAddressId))
    (.http (.badRequest "The seller account must have a default address"))

/-- `createExternalPlatformPayment` up to the transaction. -/
def checkRequest (services : Services) (user : Option User) (dto : CreatePaymentDTO) : Except RequestError Unit := do
  let user ← orThrow user (.unauthorized "Authentication is required")
  require (user.id ≠ "") (.unauthorized "Authentication is required")
  liftHttp (validateInput dto)
  checkAll (checkSeller services user) (uniqueValues (dto.items.map (·.sellerAccountId)))

/-! ## Customers -/

/-- `new Account()`. -/
def newAccount (id : String) : Account where
  id := id
  type := .individual
  column := fun _ => none

/-- `new Address()`. -/
def newAddress (id : String) : Address where
  id := id
  column := fun _ => none

def findByExternalPlatformAccount (externalPlatformId : String) (externalPlatformAccountId : Option String)
    (accounts : List Account) : Option Account :=
  if externalPlatformId ≠ "" ∧ truthy externalPlatformAccountId then
    accounts.find? fun account => account.column .externalPlatformId = some externalPlatformId ∧
      account.column .externalPlatformAccountId = externalPlatformAccountId
  else none

def findByIdentityMatch (config : Config) (dto : Accounts.AccountDTO) (accounts : List Account) : Option Account :=
  let probe := AccountMapper.updateEntity config (newAccount "") dto
  accounts.find? fun account => account.column .name = probe.column .name ∧ account.type = probe.type ∧
    ¬ account.deactivated ∧ account.isExternal ∧
    (truthy (dto.text .legalIdentity) → account.column .legalIdentity = probe.column .legalIdentity) ∧
    (truthy (dto.text .phone) → account.column .phone = probe.column .phone)

/-- The account, and whether it is new. `id` is the key that the database generates. -/
def resolveAccount (config : Config) (externalPlatformId : String) (dto : Accounts.AccountDTO) (accounts : List Account)
    (id : String) : Except HttpError (Account × Bool) :=
  match findByExternalPlatformAccount externalPlatformId (dto.text .externalPlatformAccountId) accounts with
  | some account => do
    require (account.isExternal ∧ ¬ account.deactivated) (.badRequest "External customer must be an active external account")
    return (account, false)
  | none =>
    match findByIdentityMatch config dto accounts with
    | some account => .ok (account, false)
    | none => .ok (AccountMapper.updateEntity config (newAccount id)
        { dto with
          isExternal := some true
          text := Function.update dto.text .externalPlatformId (some externalPlatformId) }, true)

def findByExternalPlatformAddress (externalPlatformId : String) (externalPlatformAddressId : Option String)
    (addresses : List Address) : Option Address :=
  if externalPlatformId ≠ "" ∧ truthy externalPlatformAddressId then
    addresses.find? fun address => address.column .externalPlatformId = some externalPlatformId ∧
      address.column .externalPlatformAddressId = externalPlatformAddressId
  else none

def findByFieldMatch (config : Config) (dto : AccountAddressDto) (externalPlatformId : String) (addresses : List Address) :
    Option Address :=
  let probe := AddressMapper.updateEntity config (newAddress "") dto
  addresses.find? fun address => (∀ field ∈ AddressField.name :: addressEncrypted, address.column field = probe.column field) ∧
    address.column .externalPlatformId = some externalPlatformId

/-- The address, and whether it is new. -/
def resolveAddress (config : Config) (externalPlatformId : String) (dto : AccountAddressDto) (addresses : List Address)
    (id : String) : Address × Bool :=
  match findByExternalPlatformAddress externalPlatformId (dto.text .externalPlatformAddressId) addresses with
  | some address => (address, false)
  | none =>
    match findByFieldMatch config dto externalPlatformId addresses with
    | some address => (address, false)
    | none => (AddressMapper.updateEntity config (newAddress id)
        { dto with text := Function.update dto.text .externalPlatformId (some externalPlatformId) }, true)

/-! ## The payment -/

/-- One line of the order and its tax. -/
def createItem (services : Services) (platform : ExternalPlatform) (input : PaymentItemInput) :
    Except HttpError (PaymentItemDTO × TaxDTO) := do
  let itemClass := input.itemClass.getD ""
  let percent := services.commissionPercent input.sellerAccountId itemClass
  let totalAmount := multiplyNumberValues [input.unitAmount, input.quantity]
  let taxDto ← generateTaxDto s!"{platform.name} - {services.numberText input.taxRate}" totalAmount (some input.taxRate) none
  let comission ← calculateComissionAmountByPercent
    (if services.comissionsCalculatedFromNet then taxDto.untaxAmount else totalAmount) percent
  let item := {
    itemId := input.itemId.getD ""
    variation := input.variation.getD ""
    name := input.name
    quantity := input.quantity
    totalAmount := totalAmount
    originalUnitAmount := input.unitAmount
    unitAmount := input.unitAmount
    taxPercent := input.taxRate
    taxAmount := taxDto.taxAmount
    unTaxAmount := taxDto.untaxAmount
    sellerAccountId := some input.sellerAccountId
    unit := if truthy input.unit then input.unit.getD "" else "ITEM"
    itemClass := itemClass
    appComissionAmount := comission
    appComissionPercent := percent }
  return (item, taxDto)

/-- One turn of the loop. -/
def addOrderItem (services : Services) (platform : ExternalPlatform) (acc : ItemListCalculationDto) (input : PaymentItemInput) :
    Except HttpError ItemListCalculationDto := do
  let (item, taxDto) ← createItem services platform input
  return {
    items := acc.items ++ [item]
    totalAmount := addNumberValues [acc.totalAmount, item.totalAmount]
    totalTaxAmount := addNumberValues [acc.totalTaxAmount, item.taxAmount]
    taxes := acc.taxes ++ [taxDto] }

/-- The purchase of the order. `ids` are the keys of the payment and of its two snapshots. -/
def createPayment (config : Config) (services : Services) (dto : CreatePaymentDTO) (platform : ExternalPlatform)
    (customerAccount : Account) (billingAddress : Address) (ids : String × String × String) : Except HttpError Payment := do
  let calculation ← dto.items.foldlM (addOrderItem services platform) ⟨[], 0, 0, []⟩
  let taxes ← mergeTaxesByPercent calculation.taxes
  applyItemSellerSnapshots services.directory calculation.items
  return {
    id := ids.1
    type := .purchase
    currency := dto.currency
    totalAmount := calculation.totalAmount
    taxAmount := calculation.totalTaxAmount
    items := calculation.items
    taxes := taxes
    customerAccountId := customerAccount.id
    billingAddressId := some billingAddress.id
    externalPlatformId := some dto.externalPlatformId
    externalPlatformOrderId := some (trimmed dto.externalPlatformOrderId)
    paymentStatus := .completed
    openPayment := false
    includeInReportDigestion := true
    customerSnapshotAccount := some (InvoiceAccountMapper.toEntityFromNormalAccount config ids.2.1
      (AccountMapper.toDto config customerAccount))
    customerSnapshotAddress := some (InvoiceAddressMapper.toEntityFromAccountAddress ids.2.2 billingAddress.column) }

/-- What identifies an order among the payments. -/
def orderKey (payment : Payment) : Option (String × String) :=
  if payment.type = .purchase then
    match payment.externalPlatformId, payment.externalPlatformOrderId with
    | some platform, some order => some (platform, order)
    | _, _ => none
  else none

/-- The payment of an order and what identifies the order. -/
def orderEntry (payment : Payment) : Option (String × String × String) := (orderKey payment).map fun key => (payment.id, key)

def CreatePaymentDTO.key (dto : CreatePaymentDTO) : String × String := (dto.externalPlatformId, trimmed dto.externalPlatformOrderId)

theorem create_payment_key {config : Config} {services : Services} {dto : CreatePaymentDTO} {platform : ExternalPlatform}
    {account : Account} {address : Address} {ids : String × String × String} {payment : Payment}
    (h : createPayment config services dto platform account address ids = .ok payment) : orderKey payment = some dto.key := by
  unfold createPayment at h
  simp only [bind_eq_ok, pure_eq_ok] at h
  obtain ⟨calculation, -, taxes, -, -, -, rfl⟩ := h
  rfl

end Postral.External
