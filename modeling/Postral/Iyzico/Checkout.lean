import Postral.Iyzico.Refund

/-!
# The checkout request of the iyzico channel (`mapCheckout`)

What a purchase has to satisfy before it is sent, and the request that is sent.
-/

open Check Rounding

namespace Postral.Iyzico.Checkout

/-! ## The payment -/

structure PaymentCaptureInfoDTO where
  paidAmount : Option ℚ
  paymentChannelId : String
  currency : String
  buyerIp : Option String
  deriving DecidableEq

inductive AccountType where
  | individual
  | commercial
  deriving DecidableEq

structure SnapshotAccountDTO where
  name : Option String
  type : AccountType
  legalIdentity : Option String
  phone : Option String
  emailAddress : Option String
  deriving DecidableEq

structure SnapshotAddressDTO where
  streetName : Option String
  buildingNumber : Option String
  room : Option String
  district : Option String
  citySubdivisionName : Option String
  cityName : Option String
  countryReadName : Option String
  postalZone : Option String
  deriving DecidableEq

structure PaymentItem where
  id : Option String
  name : Option String
  /-- `none` is not a finite number. -/
  totalAmount : Option ℚ
  /-- The inner `none` is a value that is not a boolean. -/
  isPhysical : Option (Option Bool)
  sellerAccountId : Option String
  deriving DecidableEq

structure PaymentFullWithCaptureInfoDTO where
  id : String
  type : PaymentType
  openPayment : Bool
  totalAmount : Option ℚ
  currency : String
  customerAccountId : Option String
  customerSnapshotAccount : Option SnapshotAccountDTO
  customerSnapshotAddress : Option SnapshotAddressDTO
  captureInfo : Option PaymentCaptureInfoDTO
  items : List PaymentItem
  deriving DecidableEq

/-! ## The request -/

structure SplitPersonName where
  givenName : String
  familyName : String
  deriving DecidableEq

structure BillingAddress where
  contactName : Option String
  city : String
  country : String
  address : String
  zipCode : Option String
  deriving DecidableEq

structure Buyer where
  id : String
  name : String
  surname : String
  email : String
  gsmNumber : Option String
  identityNumber : String
  registrationAddress : String
  ip : Option String
  city : String
  country : String
  zipCode : Option String
  deriving DecidableEq

structure BasketItem where
  id : String
  name : String
  category1 : String
  itemType : String
  price : Decimal 2
  /-- With `subMerchantPrice`, which is the price. -/
  subMerchantKey : Option String
  deriving DecidableEq

structure CheckoutRequest where
  locale : String := "tr"
  conversationId : String
  basketId : String
  price : Decimal 2
  paidPrice : Decimal 2
  currency : String
  paymentGroup : String := "PRODUCT"
  callbackUrl : String
  enabledInstallments : List ℕ := [1]
  buyer : Buyer
  billingAddress : BillingAddress
  shippingAddress : Option BillingAddress
  basketItems : List BasketItem
  deriving DecidableEq

/-- What the mapping takes from the platform. -/
structure Config where
  /-- `isIP`. -/
  isIP : String → Bool
  /-- `toLocaleUpperCase('tr-TR')` and its counterpart. -/
  upper : String → String
  lower : String → String
  callbackUrl : String → String

/-! ## `mapCheckout` -/

def trim (s : String) : String := String.ofList ((s.toList.dropWhile isTrimmed).rdropWhile isTrimmed)

def required (value : Option String) (field : String) : Except HttpError String := do
  let value := value.getD ""
  require (!isBlank value) (.badRequest s!"iyzico requires {field}")
  return trim value

/-- `String(value)` has digits and a point only: no sign and no exponent. -/
def printsPlain (value : ℚ) : Prop := 0 ≤ value ∧ value < 10 ^ 21 ∧ (value = 0 ∨ 1 / 10 ^ 6 ≤ value)

instance (value : ℚ) : Decidable (printsPlain value) := by
  unfold printsPlain
  infer_instance

def checkoutMoney (value : Option ℚ) (field : String) : Except HttpError (Decimal 2) := do
  let amount ← orThrow value (.badRequest s!"Invalid iyzico {field}")
  require (printsPlain amount) (.badRequest s!"Invalid iyzico {field}")
  require (0 < amount ∧ amount = round amount 2)
    (.badRequest s!"iyzico {field} must be positive with at most two decimal places")
  return Decimal.ofUnits 2 Nat.zero_lt_two (roundAway (amount * 100)).toNat

def isUppercaseWord (config : Config) (word : String) : Bool := word = config.upper word ∧ word ≠ config.lower word

def splitPersonName (config : Config) (fullName : String) : Option SplitPersonName :=
  let words := ((fullName.toList.splitOnP isTrimmed).filter (· ≠ [])).map String.ofList
  let familyWordCount :=
    if 3 ≤ words.length ∧ (words.drop (words.length - 2)).all (isUppercaseWord config) then 2 else 1
  if words.length < 2 then none
  else some ⟨String.intercalate " " (words.take (words.length - familyWordCount)),
    String.intercalate " " (words.drop (words.length - familyWordCount))⟩

def supportedCurrencies : List String := ["TRY", "EUR", "USD", "GBP", "NOK", "CHF"]

def basketItem (subMerchantKeys : Option (String → Option String)) (item : PaymentItem) : Except HttpError BasketItem := do
  require (item.isPhysical ≠ some none) (.badRequest "items[].isPhysical must be a boolean")
  let price ← checkoutMoney item.totalAmount "items[].totalAmount"
  let subMerchantKey := subMerchantKeys.bind fun keys =>
    if truthy item.sellerAccountId then keys (item.sellerAccountId.getD "") else none
  require (subMerchantKeys.isSome ∧ truthy item.sellerAccountId → truthy subMerchantKey)
    (.badRequest "iyzico requires a sub-merchant key for every seller item")
  let id ← required item.id "items[].id"
  let name ← required item.name "items[].name"
  let physical := item.isPhysical = some (some true)
  return {
    id := id
    name := name
    category1 := if physical then "Physical products" else "Digital products"
    itemType := if physical then "PHYSICAL" else "VIRTUAL"
    price := price
    subMerchantKey := if truthy subMerchantKey then subMerchantKey else none }

/-- The registered address in one line. -/
def registrationAddress (street : String) (address : SnapshotAddressDTO) : String :=
  String.intercalate " " (([some street, address.buildingNumber, address.room, address.district,
    address.citySubdivisionName].filter truthy).map (·.getD ""))

def mapCheckout (config : Config) (payment : PaymentFullWithCaptureInfoDTO) (operationId callbackUrl : String)
    (subMerchantKeys : Option (String → Option String)) : Except HttpError CheckoutRequest := do
  require (payment.type = .purchase) (.badRequest "iyzico refunds are not implemented yet")
  let captureInfo ← orThrow payment.captureInfo (.badRequest "Expected a closed-payment iyzico purchase")
  require (!payment.openPayment ∧ captureInfo.paymentChannelId = "iyzico")
    (.badRequest "Expected a closed-payment iyzico purchase")
  let amount ← checkoutMoney payment.totalAmount "totalAmount"
  let paidAmount ← checkoutMoney captureInfo.paidAmount "paidAmount"
  require (paidAmount = amount ∧ captureInfo.currency = payment.currency)
    (.badRequest "iyzico sandbox currently requires full-amount capture in the payment currency")
  require (payment.currency ∈ supportedCurrencies) (.badRequest "Unsupported iyzico currency")
  let commercial := .badRequest
    "iyzico sandbox requires an INDIVIDUAL customer snapshot; commercial buyer contact mapping is missing"
  let account ← orThrow payment.customerSnapshotAccount commercial
  require (account.type = .individual) commercial
  let fullName ← required account.name "customerSnapshotAccount.name"
  let personName ← orThrow (splitPersonName config fullName) (.badRequest "iyzico requires a customer name and surname")
  require (config.isIP (captureInfo.buyerIp.getD ""))
    (.badRequest "iyzico requires captureInfo.buyerIp from the trusted HTTP request context")
  let address := payment.customerSnapshotAddress.getD ⟨none, none, none, none, none, none, none, none⟩
  let street ← required address.streetName "customerSnapshotAddress.streetName"
  let city ← required address.cityName "customerSnapshotAddress.cityName"
  let country ← required address.countryReadName "customerSnapshotAddress.countryReadName"
  let billingAddress := {
    contactName := account.name, city := city, country := country, address := registrationAddress street address
    zipCode := address.postalZone }
  require (payment.items ≠ []) (.badRequest "iyzico requires at least one payment item")
  let basketItems ← payment.items.mapM (basketItem subMerchantKeys)
  require ((basketItems.map (·.id)).Nodup ∧ (basketItems.map (·.price.value)).sum = amount.value)
    (.badRequest "iyzico basket IDs must be unique and item totals must equal the capture amount")
  let basketId ← required (some payment.id) "payment.id"
  let buyerId ← required payment.customerAccountId "customerAccountId"
  let email ← required account.emailAddress "customerSnapshotAccount.emailAddress"
  let identityNumber ← required account.legalIdentity "customerSnapshotAccount.legalIdentity"
  return {
    conversationId := operationId
    basketId := basketId
    price := amount
    paidPrice := amount
    currency := payment.currency
    callbackUrl := callbackUrl
    buyer := {
      id := buyerId, name := personName.givenName, surname := personName.familyName, email := email
      gsmNumber := account.phone, identityNumber := identityNumber
      registrationAddress := registrationAddress street address, ip := captureInfo.buyerIp
      city := city, country := country, zipCode := address.postalZone }
    billingAddress := billingAddress
    shippingAddress := if ∃ item ∈ payment.items, item.isPhysical = some (some true) then some billingAddress else none
    basketItems := basketItems }

/-! ## The operation -/

inductive InitializationState where
  | initializing
  | initialized
  | reconciliationRequired
  deriving DecidableEq

inductive CancellationState where
  | cancelled
  | paidAfterCancel
  deriving DecidableEq

structure IyzicoBasketLine where
  paymentItemId : String
  price : Decimal 2
  deriving DecidableEq

structure IyzicoOperation where
  id : String
  paymentId : String
  currency : String
  amount : Decimal 2
  status : PaymentOperationStatus := .waiting
  initializationState : InitializationState := .initializing
  token : Option String := none
  paymentPageUrl : Option String := none
  providerPaymentId : Option String := none
  providerFee : Option ℚ := none
  basketLines : List IyzicoBasketLine
  itemTransactions : Option (List IyzicoItemTransaction) := none
  callbackReceived : Bool := false
  cancellationState : Option CancellationState := none
  deriving DecidableEq

/-- The row that `initialize` reserves for a request. -/
def reservationOf (payment : PaymentFullWithCaptureInfoDTO) (id : String) (request : CheckoutRequest) : IyzicoOperation where
  id := id
  paymentId := payment.id
  amount := request.paidPrice
  currency := request.currency
  basketLines := request.basketItems.map fun item => ⟨item.id, item.price⟩

end Postral.Iyzico.Checkout
