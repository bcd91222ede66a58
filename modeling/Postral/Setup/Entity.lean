import Postral.Basic
import Postral.Lib.Batch
import Postral.Reports.Entity

/-!
# First-run setup of the platform: the data

The setup is one row. The tables that it reads and writes hold the columns that it uses.
-/

open Check Postral.Reports

namespace Postral.Setup

/-! ## The setup row -/

inductive SetupMode where
  | self
  | marketplace
  deriving DecidableEq, Repr

structure SetupTax where
  taxName : String
  taxRate : ℚ
  deriving DecidableEq

/-- `PlatformSetupSettingsDTO`. -/
structure SetupSettings where
  mode : SetupMode
  currency : String
  commissionPercent : ℚ
  taxRate : ℚ
  billingDays : List ℚ
  alsoSells : Bool
  sellerReports : Bool
  dateGroupings : List DateGrouping
  additionalTaxes : Option (List SetupTax)
  allowedReturnOrigins : Option (List String)
  deriving DecidableEq

inductive SetupStatus where
  | inProgress
  | completed
  deriving DecidableEq, Repr

structure PlatformSetup where
  status : SetupStatus := .inProgress
  startedByUserId : String
  teamName : Option String := none
  teamId : Option String := none
  teamCreationKey : String
  addressId : String
  platformAccountId : String
  platformAccountName : Option String := none
  platformSaved : Bool := false
  platformOwnershipReady : Bool := false
  sellerAddressId : String
  sellerAccountId : String
  sellerAccountName : Option String := none
  sellerSaved : Bool := false
  sellerOwnershipReady : Bool := false
  taxId : String
  settings : Option SetupSettings := none
  additionalTaxIds : Option (List String) := none
  leaseToken : Option String := none
  leaseUntil : Option ℕ := none
  completedAt : Option ℕ := none
  deriving DecidableEq

inductive SetupStep where
  | team
  | platform
  | settings
  | seller
  | review
  | completed
  deriving DecidableEq, Repr

def SetupStep.rank : SetupStep → ℕ
  | .team => 0
  | .platform => 1
  | .settings => 2
  | .seller => 3
  | .review => 4
  | .completed => 5

def PlatformSetup.step (state : PlatformSetup) : SetupStep :=
  if state.status = .completed then .completed
  else if truthy state.teamId = false then .team
  else if state.platformOwnershipReady = false then .platform
  else match state.settings with
    | none => .settings
    | some settings =>
      if settings.mode = .marketplace ∧ settings.alsoSells = true ∧ state.sellerOwnershipReady = false then .seller
      else .review

/-! ## The other tables -/

inductive AccountType where
  | individual
  | commercial
  deriving DecidableEq, Repr

structure Account where
  id : String
  name : String
  type : AccountType
  isExternal : Bool := false
  deactivated : Bool := false
  defaultAddressId : Option String
  deriving DecidableEq

structure Address where
  id : String
  deriving DecidableEq

structure ItemTaxVariation where
  taxMode : String
  taxRate : ℚ
  deriving DecidableEq

structure ItemTax where
  id : String
  taxName : String
  isPublic : Bool
  variations : List ItemTaxVariation
  deriving DecidableEq

structure AdminSettings where
  id : String
  billingAccountId : Option String := none
  billingDays : Option (List ℚ) := none
  comissionItemTaxId : Option String := none
  allowedReturnOrigins : Option (List String) := none
  deriving DecidableEq

structure AppComission where
  id : String
  sellerAccountId : Option String
  itemClass : Option String
  externalPlatformId : Option String
  percent : ℚ
  bias : ℤ
  deriving DecidableEq

structure PaymentChannelConfig where
  channelId : String
  name : String
  enabled : Bool
  devOnly : Bool
  description : Option String
  deriving DecidableEq

structure Db where
  setup : Option PlatformSetup
  accounts : Table Account.id
  addresses : Table Address.id
  taxes : Table ItemTax.id
  adminSettings : Table AdminSettings.id
  comissions : Table AppComission.id
  queries : Table ReportQuery.id
  channels : Table PaymentChannelConfig.channelId
  deriving DecidableEq

def Db.empty : Db := ⟨none, .empty, .empty, .empty, .empty, .empty, .empty, .empty⟩

def Db.saveSetup (db : Db) (state : PlatformSetup) : Db := { db with setup := some state }

/-- What the completion activates: settings, commissions, report sources and channels. -/
def Db.activated (db : Db) :
    Table AdminSettings.id × Table AppComission.id × Table ReportQuery.id × Table PaymentChannelConfig.channelId :=
  (db.adminSettings, db.comissions, db.queries, db.channels)

/-! ## Requests -/

structure BankAccountInput where
  currency : String
  deriving DecidableEq

structure AccountInput where
  name : String
  legalIdentity : String
  bankAccounts : Option (List BankAccountInput) := none
  deriving DecidableEq

structure AddressInput where
  name : String
  streetName : String
  cityName : String
  postalZone : String
  country : String
  deriving DecidableEq

/-- `PlatformSetupAccountDTO`. -/
structure AccountRequest where
  account : Option AccountInput
  address : Option AddressInput
  usePlatformAddress : Bool := false
  deriving DecidableEq

/-- What the setup takes from outside the repository. -/
structure SetupEnv where
  /-- The origin of an HTTP URL without a user, a path, a query or a fragment. -/
  returnOrigin : String → Option String
  toLowerCase : String → String
  /-- `Math.fround`. -/
  fround : ℚ → ℚ

/-! ## Validation -/

/-- `text.trim()`. -/
def trimmed (text : String) : String :=
  String.ofList (((text.toList.dropWhile isTrimmed).reverse.dropWhile isTrimmed).reverse)

/-- `Number.isInteger`. -/
def isInteger (x : ℚ) : Prop := x.den = 1

instance (x : ℚ) : Decidable (isInteger x) := by
  unfold isInteger
  infer_instance

def setupCurrencies : List String := ["TRY", "USD", "EUR", "GBP"]

def setupGroupings : List DateGrouping := [.daily, .monthly, .yearly]

def requiredText (value label : String) (max : ℕ) : Except HttpError Unit :=
  require (isBlank value = false ∧ utf16Length value ≤ max) (.badRequest s!"{label} is required (maximum {max} characters)")

def normalizeReturnOrigins (env : SetupEnv) : Option (List String) → Except HttpError (List String)
  | none => .ok []
  | some values => do
    require (values.length ≤ 50) (.badRequest "Allowed return origins must be a list of at most 50 items")
    let origins ← values.mapM fun value =>
      orThrow (env.returnOrigin (trimmed value)) (.badRequest s!"Invalid return origin: {value}")
    return uniqueValues origins

def normalizeSettings (env : SetupEnv) (input : SetupSettings) : Except HttpError SetupSettings := do
  let allowedReturnOrigins ←
    match input.allowedReturnOrigins with
    | none => pure none
    | some values => some <$> normalizeReturnOrigins env (some values)
  return {
    mode := input.mode
    currency := input.currency
    commissionPercent := if input.mode = .self then 0 else input.commissionPercent
    taxRate := if input.mode = .self then 0 else input.taxRate
    billingDays := if input.mode = .self then [] else input.billingDays.dedup.insertionSort (· ≤ ·)
    alsoSells := input.mode = .marketplace && input.alsoSells
    sellerReports := input.sellerReports && (input.mode = .self || input.alsoSells)
    dateGroupings := setupGroupings.filter (· ∈ input.dateGroupings)
    additionalTaxes := input.additionalTaxes.map fun taxes => taxes.map fun tax => ⟨trimmed tax.taxName, tax.taxRate⟩
    allowedReturnOrigins := allowedReturnOrigins }

/-- The checks of the additional taxes, with the names that were seen. -/
def validateAdditionalTaxes (env : SetupEnv) : List SetupTax → List String → Except HttpError Unit
  | [], _ => .ok ()
  | tax :: taxes, names => do
    requiredText tax.taxName "Tax name" 150
    require (isInteger tax.taxRate ∧ 0 ≤ tax.taxRate ∧ tax.taxRate ≤ 100)
      (.badRequest "Additional tax rate must be a whole percentage from 0 to 100")
    let name := env.toLowerCase (trimmed tax.taxName)
    require (name ∉ names) (.badRequest "Additional tax names must be unique")
    validateAdditionalTaxes env taxes (name :: names)

def validateSettings (env : SetupEnv) (input : SetupSettings) : Except HttpError Unit := do
  require (input.currency ∈ setupCurrencies ∧ DateGrouping.daily ∈ input.dateGroupings ∧
    ∀ grouping ∈ input.dateGroupings, grouping ∈ setupGroupings) (.badRequest "Invalid setup settings")
  let _ ← normalizeReturnOrigins env input.allowedReturnOrigins
  require (input.mode = .marketplace → 0 ≤ input.commissionPercent ∧ input.commissionPercent ≤ 100 ∧
    isInteger input.taxRate ∧ 0 ≤ input.taxRate ∧ input.taxRate ≤ 100 ∧ input.billingDays ≠ [] ∧
    ∀ day ∈ input.billingDays, isInteger day ∧ 1 ≤ day ∧ day ≤ 28)
    (.badRequest "Commission/tax must be 0-100 and billing days 1-28")
  match input.additionalTaxes with
  | none => .ok ()
  | some taxes => do
    require (taxes.length ≤ 50) (.badRequest "Choose at most 50 additional taxes")
    validateAdditionalTaxes env taxes []

def validateAccount (account : Option AccountInput) : Except HttpError AccountInput := do
  let account ← orThrow account (.badRequest "Account is required")
  requiredText account.name "Account name" 150
  requiredText account.legalIdentity "Legal identity" 100
  require (∀ banks ∈ account.bankAccounts, banks.length ≤ 20 ∧ ∀ bank ∈ banks, bank.currency ∈ setupCurrencies)
    (.badRequest "Invalid bank accounts")
  return account

/-- `/^[A-Z]{2}$/`. -/
def isCountryCode (country : String) : Bool :=
  country.toList.length = 2 && country.toList.all fun c => 'A'.toNat ≤ c.toNat && c.toNat ≤ 'Z'.toNat

def validateAddress (address : Option AddressInput) : Except HttpError Unit := do
  let address ← orThrow address (.badRequest "Address is required")
  requiredText address.name "Address name" 255
  requiredText address.streetName "Address streetName" 255
  requiredText address.cityName "Address cityName" 255
  requiredText address.postalZone "Address postalZone" 255
  requiredText address.country "Address country" 255
  require (isCountryCode address.country = true) (.badRequest "Address fields must be text with a two-letter country code")

end Postral.Setup
