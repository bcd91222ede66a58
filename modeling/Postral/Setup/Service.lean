import Postral.Setup.Entity

/-!
# The transactions of `PlatformSetupService`

Each of them returns the database that it commits. One that throws is rolled back.
-/

open Check Postral.Reports

namespace Postral.Setup

/-! ## `status` -/

/-- `PlatformSetupStatusDTO`. There is no status before the setup starts. -/
structure PlatformSetupStatus where
  status : Option SetupStatus
  step : SetupStep
  startedByUserId : Option String
  teamId : Option String
  teamName : Option String
  platformAccountId : Option String
  platformAccountName : Option String
  sellerAccountId : Option String
  sellerAccountName : Option String
  settings : Option SetupSettings
  legacyAvailable : Bool
  completedAt : Option ℕ
  deriving DecidableEq

def legacyAvailable (db : Db) : Bool :=
  (match db.setup with
    | none => true
    | some state => !truthy state.teamName && !state.platformSaved && state.status ≠ .completed) &&
  truthy (db.adminSettings.rows.head?.bind (·.billingAccountId))

def status (db : Db) : PlatformSetupStatus :=
  match db.setup with
  | none => ⟨none, .team, none, none, none, none, none, none, none, none, legacyAvailable db, none⟩
  | some state =>
    { status := some state.status
      step := state.step
      startedByUserId := some state.startedByUserId
      teamId := state.teamId
      teamName := state.teamName
      platformAccountId := if state.platformSaved then some state.platformAccountId else none
      platformAccountName := state.platformAccountName
      sellerAccountId := if state.sellerSaved then some state.sellerAccountId else none
      sellerAccountName := state.sellerAccountName
      settings := state.settings
      legacyAvailable := legacyAvailable db
      completedAt := state.completedAt }

/-! ## `initialize`, `run` and `lock` -/

/-- What `randomUUID` returns for a new setup. -/
structure SetupIds where
  teamCreationKey : String
  addressId : String
  platformAccountId : String
  sellerAddressId : String
  sellerAccountId : String
  taxId : String
  deriving DecidableEq

def newSetup (userId : String) (ids : SetupIds) : PlatformSetup where
  startedByUserId := userId
  teamCreationKey := ids.teamCreationKey
  addressId := ids.addressId
  platformAccountId := ids.platformAccountId
  sellerAddressId := ids.sellerAddressId
  sellerAccountId := ids.sellerAccountId
  taxId := ids.taxId

/-- The `insert` of `initialize`. A duplicate key is ignored. -/
def insertSetup (db : Db) (userId : String) (ids : SetupIds) : Db :=
  match db.setup with
  | some _ => db
  | none => db.saveSetup (newSetup userId ids)

/-- Five minutes, in milliseconds. -/
def leaseTime : ℕ := 5 * 60 * 1000

/-- The first transaction of `run`. `none`: the setup is completed. -/
def acquireLease (db : Db) (now : ℕ) (token userId : String) : Except HttpError (Option Db) := do
  let state ← orThrow db.setup (.conflict "Start setup with the team step")
  if state.status = .completed then return none
  require (state.startedByUserId = userId) (.forbidden "Setup must be resumed by the administrator who started it")
  require (∀ leaseUntil ∈ state.leaseUntil, leaseUntil ≤ now)
    (.conflict "Another setup operation is running; retry shortly")
  return some (db.saveSetup { state with leaseToken := some token, leaseUntil := some (now + leaseTime) })

/-- The `finally` block of `run`. -/
def releaseLease (db : Db) (token : String) : Db :=
  match db.setup with
  | none => db
  | some state => if state.leaseToken = some token then db.saveSetup { state with leaseUntil := none } else db

/-- The token is the one of the lease, and the lease has not expired. -/
def PlatformSetup.Holds (state : PlatformSetup) (token : String) (now : ℕ) : Prop :=
  state.leaseToken = some token ∧ ∃ leaseUntil ∈ state.leaseUntil, now < leaseUntil

instance (state : PlatformSetup) (token : String) (now : ℕ) : Decidable (state.Holds token now) := by
  unfold PlatformSetup.Holds
  infer_instance

def lock (db : Db) (now : ℕ) (token : String) : Except HttpError PlatformSetup := do
  let state ← orThrow db.setup (.conflict "Setup operation expired; retry the step")
  require (state.Holds token now) (.conflict "Setup operation expired; retry the step")
  return state

/-! ## `team` -/

/-- The first transaction, after which the team is named unless it exists. -/
def resumeTeam (db : Db) (now : ℕ) (token name : String) : Except HttpError Bool := do
  let state ← lock db now token
  if truthy state.teamId then return false
  require (truthy state.teamName → state.teamName = some (trimmed name))
    (.conflict "Resume team creation with the original name")
  return true

def nameTeam (db : Db) (now : ℕ) (token name : String) : Except HttpError (PlatformSetup × Db) := do
  let current ← lock db now token
  let state := { current with teamName := some (trimmed name) }
  return (state, db.saveSetup state)

def saveTeam (db : Db) (now : ℕ) (token groupId : String) : Except HttpError Db := do
  let current ← lock db now token
  return db.saveSetup { current with teamId := some groupId }

/-! ## `saveAccount` -/

def PlatformSetup.sells (state : PlatformSetup) : Prop :=
  ∃ settings ∈ state.settings, settings.alsoSells = true ∧ settings.mode = .marketplace

instance (state : PlatformSetup) : Decidable state.sells := by
  unfold PlatformSetup.sells
  infer_instance

/-- The account and address ids of the seller, or of the platform. -/
def PlatformSetup.accountIdOf (state : PlatformSetup) (seller : Bool) : String :=
  if seller then state.sellerAccountId else state.platformAccountId

def PlatformSetup.addressIdOf (state : PlatformSetup) (seller : Bool) : String :=
  if seller then state.sellerAddressId else state.addressId

def PlatformSetup.isSaved (state : PlatformSetup) (seller : Bool) : Bool :=
  if seller then state.sellerSaved else state.platformSaved

def PlatformSetup.isReady (state : PlatformSetup) (seller : Bool) : Bool :=
  if seller then state.sellerOwnershipReady else state.platformOwnershipReady

def PlatformSetup.withAccount (state : PlatformSetup) (seller : Bool) (name addressId : String) : PlatformSetup :=
  if seller then { state with sellerSaved := true, sellerAccountName := some name, sellerAddressId := addressId }
  else { state with platformSaved := true, platformAccountName := some name }

def saveAddress (db : Db) (input : AccountRequest) (usePlatformAddress : Bool) (addressId : String) :
    Except HttpError (Table Address.id) :=
  if usePlatformAddress then .ok db.addresses
  else do
    validateAddress input.address
    return db.addresses.save ⟨addressId⟩

def saveAccountRows (db : Db) (now : ℕ) (token : String) (input : AccountRequest) (seller : Bool) :
    Except HttpError (PlatformSetup × Db) := do
  let current ← lock db now token
  require (truthy current.teamId = true ∧ (seller = true → current.sells)) (.conflict "Complete the preceding setup steps")
  if current.isSaved seller then return (current, db)
  require (seller = true → current.platformOwnershipReady = true) (.conflict "Platform account is not ready")
  let accountInput ← validateAccount input.account
  let usePlatformAddress := seller && input.usePlatformAddress
  let addressId := if usePlatformAddress then current.addressId else current.addressIdOf seller
  let addresses ← saveAddress db input usePlatformAddress addressId
  let account : Account := {
    id := current.accountIdOf seller
    name := trimmed accountInput.name
    type := .commercial
    defaultAddressId := some addressId }
  let state := current.withAccount seller account.name addressId
  return (state, { db with addresses := addresses, accounts := db.accounts.save account, setup := some state })

def saveReady (db : Db) (now : ℕ) (token : String) (seller : Bool) : Except HttpError Db := do
  let state ← lock db now token
  return db.saveSetup
    (if seller then { state with sellerOwnershipReady := true } else { state with platformOwnershipReady := true })

/-! ## `configure` -/

/-- A private tax with one `DEFAULT` variation. -/
def setupTax (id taxName : String) (taxRate : ℚ) : ItemTax := ⟨id, taxName, false, [⟨"DEFAULT", taxRate⟩]⟩

def saveSettings (env : SetupEnv) (db : Db) (now : ℕ) (token : String) (input : SetupSettings) (newId : ℕ → String) :
    Except HttpError (PlatformSetup × Db) := do
  let current ← lock db now token
  require (current.platformOwnershipReady = true) (.conflict "Complete the platform account first")
  let settings ← normalizeSettings env input
  match current.settings with
  | some saved =>
    require (saved = settings) (.conflict "Settings were already saved; resume the existing setup")
    return (current, db)
  | none =>
    let definitions := settings.additionalTaxes.getD []
    let ids := (List.range definitions.length).map newId
    let additional := List.zipWith (fun id definition => setupTax id definition.taxName definition.taxRate) ids definitions
    let commission :=
      if settings.mode = .marketplace then [setupTax current.taxId "Platform commission tax" settings.taxRate] else []
    let state := { current with settings := some settings, additionalTaxIds := some ids }
    return (state, { db with taxes := db.taxes.saveAll (additional ++ commission), setup := some state })

/-! ## `complete` -/

def validAccount (db : Db) (id : String) (expectedAddressId : Option String) : Except HttpError Account := do
  let invalid : HttpError := .conflict "An active commercial account with an address is required"
  let account ← orThrow (db.accounts.find id) invalid
  require (account.type = .commercial ∧ account.isExternal = false ∧ account.deactivated = false ∧
    truthy account.defaultAddressId = true ∧ ∃ addressId ∈ account.defaultAddressId, (db.addresses.find addressId).isSome = true)
    invalid
  require (truthy expectedAddressId = true → account.defaultAddressId = expectedAddressId)
    (.conflict "The setup account address has changed; administrator reconciliation is required")
  return account

/-- Adds a row with a new key. -/
def insertRow {ρ : Type} {key : ρ → String} (rows : Table key) (row : ρ) : Except HttpError (Table key) := do
  require (rows.find (key row) = none) (.internal "Duplicate entry")
  return rows.save row

def ensureCommission (env : SetupEnv) (db : Db) (sellerAccountId : Option String) (percent : ℚ) (newId : ℕ → String) :
    Except HttpError Db := do
  let definitions := db.comissions.rows.filter fun c =>
    c.sellerAccountId = sellerAccountId ∧ c.externalPlatformId = none ∧ c.itemClass = some ""
  require ((∀ c ∈ definitions, env.fround c.percent = env.fround percent) ∧ definitions.length ≤ 1)
    (.conflict "An existing commission definition conflicts with setup; it was not overwritten")
  if definitions ≠ [] then return db
  let row : AppComission := {
    id := newId db.comissions.rows.length
    sellerAccountId := sellerAccountId
    itemClass := some ""
    externalPlatformId := none
    percent := percent
    bias := if truthy sellerAccountId then 3 else 1 }
  return { db with comissions := ← insertRow db.comissions row }

def insertQuery (db : Db) (ownerAccountId : String) (reportType : ReportType) (currency : String) (grouping : DateGrouping)
    (newId : ℕ → String) : Except HttpError Db := do
  let row : ReportQuery := ⟨newId db.queries.rows.length, some ownerAccountId, some currency, grouping, reportType⟩
  return { db with queries := ← insertRow db.queries row }

/-- The PLATFORM and PLATFORM_FLOW sources. -/
def ensurePlatformQuery (currency platformId : String) (newId : ℕ → String) (db : Db) (source : ReportType × DateGrouping) :
    Except HttpError Db :=
  match db.queries.rows.find? fun query =>
    query.reportType = source.1 ∧ query.currency = some currency ∧ query.dateGrouping = source.2 with
  | none => insertQuery db platformId source.1 currency source.2 newId
  | some existing => do
    require (truthy existing.ownerAccountId = true)
      (.conflict "Existing platform report source has no account; reconcile it before setup")
    return db

/-- `ensureSellerQueries`. -/
def ensureSellerQueries (db : Db) (accountId currency : String) (groupings : List DateGrouping) (newId : ℕ → String) :
    Except HttpError Db := do
  let account ← orThrow (db.accounts.find accountId) (.notFound "Account not found")
  require (account.type = .commercial ∧ account.isExternal = false ∧ account.deactivated = false)
    (.badRequest "Report setup requires an active, non-external commercial account")
  let existing := db.queries.rows.filter fun query =>
    query.ownerAccountId = some accountId ∧ query.currency = some currency ∧ query.reportType = .seller
  groupings.dedup.foldlM (fun db grouping =>
    if grouping ∈ existing.map (·.dateGrouping) then pure db
    else insertQuery db accountId .seller currency grouping newId) db

def ensureChannel (db : Db) (channelId : String) : Db :=
  match db.channels.find channelId with
  | some _ => db
  | none => { db with
      channels := db.channels.save {
        channelId := channelId
        name := "Dummy E-commerce"
        enabled := true
        devOnly := false
        description := some "Test payments only. Before production, set devOnly=true or disable this channel." } }

def checkAdditionalTaxes (db : Db) (current : PlatformSetup) (config : SetupSettings) : Except HttpError Unit := do
  let definitions := config.additionalTaxes.getD []
  let ids := current.additionalTaxIds.getD []
  require (ids.length = definitions.length) (.conflict "Additional tax recovery IDs are missing")
  require (∀ pair ∈ List.zip ids definitions, ∃ tax ∈ db.taxes.find pair.1,
    tax.taxName = pair.2.taxName ∧ tax.isPublic = false ∧ tax.variations = [⟨"DEFAULT", pair.2.taxRate⟩])
    (.conflict "An additional tax is missing or changed")

/-- The admin settings that the setup may fill in. -/
def loadAdminSettings (db : Db) (current : PlatformSetup) (config : SetupSettings) (platformId : String)
    (newId : ℕ → String) : Except HttpError AdminSettings := do
  require (db.adminSettings.rows.length ≤ 1)
    (.conflict "Multiple admin settings records require administrator reconciliation")
  let admin := db.adminSettings.rows.head?.getD { id := newId 0 }
  require (truthy admin.billingAccountId = true → admin.billingAccountId = some platformId)
    (.conflict "An existing billing account must not be overwritten by first-run setup")
  let billingDays := if config.mode = .marketplace then config.billingDays else []
  require (∀ days ∈ admin.billingDays, days ≠ [] → days.insertionSort (· ≤ ·) = billingDays)
    (.conflict "Existing billing days conflict with setup; they were not overwritten")
  require (config.mode = .marketplace → truthy admin.comissionItemTaxId = true → admin.comissionItemTaxId = some current.taxId)
    (.conflict "An existing commission tax must not be overwritten by first-run setup")
  return admin

/-- The account that sells on the platform itself. -/
def setupSeller (db : Db) (current : PlatformSetup) (config : SetupSettings) (platform : Account) :
    Except HttpError (Option Account) :=
  if config.mode = .self then .ok (some platform)
  else if config.alsoSells then some <$> validAccount db current.sellerAccountId (some current.sellerAddressId)
  else .ok none

def activateSeller (seller : Option Account) (db : Db) (act : Account → Except HttpError Db) : Except HttpError Db :=
  match seller with
  | some seller => act seller
  | none => .ok db

/-- The commission tax and the report sources of a marketplace. -/
def activateMarketplace (db : Db) (current : PlatformSetup) (config : SetupSettings) (platformId : String)
    (newId : ℕ → String) : Except HttpError Db :=
  if config.mode = .self then .ok db
  else do
    require (∃ tax ∈ db.taxes.find current.taxId, tax.variations.map (·.taxRate) = [config.taxRate])
      (.conflict "Commission tax is missing or changed")
    let sources := [ReportType.platform, .platformFlow].flatMap fun type =>
      config.dateGroupings.map fun grouping => (type, grouping)
    sources.foldlM (ensurePlatformQuery config.currency platformId newId) db

/-- The last transaction of `complete`. -/
def activate (env : SetupEnv) (db : Db) (now : ℕ) (token : String) (channelIds : List String) (newId : ℕ → String) :
    Except HttpError Db := do
  let current ← lock db now token
  let config ← orThrow current.settings (.internal "Cannot read properties of null (reading 'additionalTaxes')")
  checkAdditionalTaxes db current config
  let platform ← validAccount db current.platformAccountId (some current.addressId)
  let seller ← setupSeller db current config platform
  let admin ← loadAdminSettings db current config platform.id newId
  let db ← ensureCommission env db none (if config.mode = .self then 0 else config.commissionPercent) newId
  let db ← activateSeller seller db fun seller => ensureCommission env db (some seller.id) 0 newId
  let db ← activateMarketplace db current config platform.id newId
  let db ← activateSeller (if config.sellerReports then seller else none) db fun seller =>
    ensureSellerQueries db seller.id config.currency config.dateGroupings newId
  let db := (uniqueValues channelIds).foldl ensureChannel db
  let origins := config.allowedReturnOrigins.getD []
  let admin := { admin with
    billingAccountId := some platform.id
    billingDays := some (if config.mode = .marketplace then config.billingDays else [])
    comissionItemTaxId := if config.mode = .marketplace then some current.taxId else admin.comissionItemTaxId
    allowedReturnOrigins :=
      if origins = [] then admin.allowedReturnOrigins
      else some (uniqueValues (admin.allowedReturnOrigins.getD [] ++ origins)) }
  return { db with
    adminSettings := db.adminSettings.save admin
    setup := some { current with status := .completed, completedAt := some now } }

/-! ## `keepExisting` -/

def keepExistingRow (db : Db) (now : ℕ) (token : String) : Except HttpError Db := do
  let state ← lock db now token
  require (truthy state.teamName = false ∧ truthy state.teamId = false ∧ state.platformSaved = false)
    (.conflict "New setup already started")
  let unclear : HttpError := .conflict "No unambiguous existing platform configuration"
  require (db.adminSettings.rows.length = 1) unclear
  let billingAccountId ← orThrow (db.adminSettings.rows.head?.bind (·.billingAccountId)) unclear
  require (billingAccountId ≠ "") unclear
  let account ← validAccount db billingAccountId none
  return db.saveSetup { state with
    platformAccountId := account.id
    platformAccountName := some account.name
    platformSaved := true
    status := .completed
    completedAt := some now }

end Postral.Setup
