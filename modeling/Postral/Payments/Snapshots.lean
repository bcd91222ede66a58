import Postral.Accounts.Snapshots
import Postral.External.Service

/-!
# The snapshots of a new payment

A payment keeps the accounts and the addresses of its customer and of its sellers as they were.
-/

open Check Postral.Accounts

namespace Postral.Snapshots

/-! ## The services -/

/-- `fetchOne` of the accounts and of the addresses finds the row, and `toOutput` reads it. -/
structure CrudServices (config : Config) where
  accounts : String → Option Account
  addresses : String → Option Address
  fetchAccount : String → Option Accounts.AccountDTO
  fetchAddress : String → Option AccountAddressDto
  fetchAccount_eq : ∀ id, fetchAccount id = (accounts id).map (AccountMapper.toDto config)
  fetchAddress_eq : ∀ id, fetchAddress id = (addresses id).map (AddressMapper.toDto config)

def CrudServices.directory {config : Config} (services : CrudServices config) (sessionInUse : String → Bool) : Directory where
  account id := (services.fetchAccount id).map fun account =>
    ⟨(account.text .name).getD "", AccountType.text account.type, account.text .defaultAddressId⟩
  address id := (services.fetchAddress id).isSome
  sessionInUse := sessionInUse

/-! ## The snapshots -/

structure SellerSnapshot where
  account : InvoiceAccount
  address : InvoiceAddress

/-- `realAccountMapByRealId` and `realAddressMapByAccountId`. -/
structure SellerMaps where
  account : String → Option Accounts.AccountDTO
  address : String → Option AccountAddressDto

/-- The value of a map, or what `fetchOne` answers. -/
def getOrFetch {α : Type} (cached fetched : Option α) (error : HttpError) : Except HttpError α :=
  match cached with
  | some value => .ok value
  | none => orThrow fetched error

/-- The snapshots of a seller. -/
def sellerSnapshot (config : Config) (keys : String × String) (account : Accounts.AccountDTO) (address : AccountAddressDto) :
    SellerSnapshot where
  account := InvoiceAccountMapper.toEntityFromNormalAccount config keys.1 account
  address := InvoiceAddressMapper.toEntityFromAccountAddress keys.2 address.text

section Creation

variable {config : Config} (services : CrudServices config) (newKeys : ℕ → String × String)

/-- One turn of the loop. `newKeys` are the keys that the database generates for the snapshots. -/
def addSellerSnapshot (acc : SellerMaps × List SellerSnapshot) (item : PaymentItemDTO) :
    Except HttpError (SellerMaps × List SellerSnapshot) := do
  require (truthy item.sellerAccountId) (.badRequest s!"Seller account ID is required for item {item.itemId}")
  let seller := item.sellerAccountId.getD ""
  let account ← getOrFetch (acc.1.account seller) (services.fetchAccount seller)
    (.notFound s!"Seller account not found for item {item.itemId}")
  require (truthy (account.text .defaultAddressId)) (.badRequest s!"Seller account {seller} does not have a default address")
  let address ← getOrFetch (acc.1.address seller) (services.fetchAddress ((account.text .defaultAddressId).getD ""))
    (.notFound s!"Seller default address not found for item {item.itemId}")
  let maps : SellerMaps :=
    ⟨Function.update acc.1.account seller (some account), Function.update acc.1.address seller (some address)⟩
  return (maps, acc.2 ++ [sellerSnapshot config (newKeys acc.2.length) account address])

/-- The snapshots of the items' sellers. -/
def applyItemSellerSnapshots (items : List PaymentItemDTO) : Except HttpError (List SellerSnapshot) := do
  let (_, snapshots) ← items.foldlM (addSellerSnapshot services newKeys) (⟨fun _ => none, fun _ => none⟩, [])
  return snapshots

/-- The snapshot of the billing address. -/
def applyAddressSnapshot (key : String) (billingAddressId : Option String) : Except HttpError InvoiceAddress := do
  require (truthy billingAddressId) (.badRequest "Valid billing address ID is required for payment init")
  let address ← orThrow (services.fetchAddress (billingAddressId.getD "")) (.notFound "Billing address not found")
  return InvoiceAddressMapper.toEntityFromAccountAddress key address.text

/-- The snapshots of a payment. -/
structure PaymentSnapshots where
  customerAccount : InvoiceAccount
  customerAddress : InvoiceAddress
  sellers : List SellerSnapshot

/-! ## The three ways to a payment -/

/-- `generateEntityFromInitDto` and the snapshots that it makes. `keys` are those of the customer's snapshots. -/
def initPayment (sessionInUse : String → Bool) (calculate : String → Except HttpError ItemListCalculationDto)
    (pdto : PaymentInitDTO) (refundCalculation : Option ItemListCalculationDto) (keys : String × String) :
    Except HttpError (PaymentDraft × PaymentSnapshots) := do
  let draft ← generateEntityFromInitDto (services.directory sessionInUse) calculate pdto refundCalculation
  let customerAccount ← orThrow (services.fetchAccount pdto.customerAccountId)
    (.notFound "Customer account not found for payment init")
  let sellers ← applyItemSellerSnapshots services newKeys draft.items
  let customerAddress ← applyAddressSnapshot services keys.2 draft.billingAddressId
  return (draft, {
    customerAccount := InvoiceAccountMapper.toEntityFromNormalAccount config keys.1 customerAccount
    customerAddress := customerAddress
    sellers := sellers })

/-- The parameters of `createBillingPayment`. -/
structure BillingParams where
  customerAccountId : String
  sellerAccountId : String
  totalAmount : ℚ
  currency : String
  itemId : String
  itemName : String
  taxRate : ℚ
  deriving DecidableEq

/-- The item of a billing payment. -/
def billingItem (params : BillingParams) (taxDto : TaxDTO) : PaymentItemDTO where
  itemId := params.itemId
  name := params.itemName
  quantity := 1
  totalAmount := params.totalAmount
  unitAmount := params.totalAmount
  originalUnitAmount := params.totalAmount
  taxPercent := params.taxRate
  taxAmount := taxDto.taxAmount
  unTaxAmount := taxDto.untaxAmount
  sellerAccountId := some params.sellerAccountId
  variation := ""
  unit := "ITEM"
  itemClass := ""
  appComissionAmount := 0
  appComissionPercent := 0

/-- `createBillingPayment` up to the save. `ids` are the keys of the payment and of its two snapshots. -/
def createBillingPayment (numberText : ℚ → String) (params : BillingParams) (ids : String × String × String) :
    Except HttpError (External.Payment × List SellerSnapshot) := do
  let taxDto ← generateTaxDto (numberText params.taxRate) params.totalAmount (some params.taxRate) none
  let payment : External.Payment := {
    id := ids.1
    type := .purchase
    currency := params.currency
    totalAmount := params.totalAmount
    taxAmount := taxDto.taxAmount
    items := [billingItem params taxDto]
    taxes := []
    customerAccountId := params.customerAccountId
    -- nothing sets it
    billingAddressId := none
    externalPlatformId := none
    externalPlatformOrderId := none
    paymentStatus := .waiting
    openPayment := true
    includeInReportDigestion := false
    customerSnapshotAccount := none
    customerSnapshotAddress := none }
  let sellers ← applyItemSellerSnapshots services newKeys payment.items
  -- the mapper reads the name of an account that is not there
  let customerAccount ← orThrow (services.fetchAccount params.customerAccountId)
    (.internal "Cannot read properties of null (reading 'name')")
  let customerAddress ← applyAddressSnapshot services ids.2.2 payment.billingAddressId
  let payment := { payment with
    customerSnapshotAccount := some (InvoiceAccountMapper.toEntityFromNormalAccount config ids.2.1 customerAccount)
    customerSnapshotAddress := some customerAddress }
  return (payment, sellers)

/-- `createPayment` of an external order and the snapshots of its sellers. -/
def createOrderPayment (external : External.Services) (dto : External.CreatePaymentDTO) (platform : External.ExternalPlatform)
    (customerAccount : Account) (billingAddress : Address) (ids : String × String × String) :
    Except HttpError (External.Payment × List SellerSnapshot) := do
  let external := { external with
    account := services.fetchAccount
    directory := services.directory external.directory.sessionInUse }
  let payment ← External.createPayment config external dto platform customerAccount billingAddress ids
  let sellers ← applyItemSellerSnapshots services newKeys payment.items
  return (payment, sellers)

end Creation

/-! ## What the snapshots hold -/

/-- The sensitive fields of the snapshots are sealed. -/
structure SnapshotsSealed (cipher : Cipher) (customer : Option InvoiceAddress) (sellers : List SellerSnapshot) : Prop where
  customer : ∀ address ∈ customer, AddressSealed cipher address.column
  sellers : ∀ seller ∈ sellers, AddressSealed cipher seller.address.column

section Facts

variable {config : Config} {services : CrudServices config} {newKeys : ℕ → String × String} {items : List PaymentItemDTO}
  {item : PaymentItemDTO}

/-- The row of the default address of an account. -/
def defaultAddress (services : CrudServices config) (accountId : String) : Option Address := do
  let account ← services.accounts accountId
  services.addresses ((account.column .defaultAddressId).getD "")

/-- The row of the billing address of a request. -/
def billingAddress (services : CrudServices config) (pdto : PaymentInitDTO) : Option Address :=
  match pdto.billingAddressId with
  | some id => services.addresses id
  | none => defaultAddress services pdto.customerAccountId

/-- The maps hold what `fetchOne` answers. -/
structure SellerMaps.Fetched (services : CrudServices config) (maps : SellerMaps) : Prop where
  account : ∀ seller account, maps.account seller = some account → services.fetchAccount seller = some account
  address : ∀ seller address, maps.address seller = some address → ∃ account, services.fetchAccount seller = some account ∧
    services.fetchAddress ((account.text .defaultAddressId).getD "") = some address

theorem get_or_fetch_eq_ok {α : Type} {cached fetched : Option α} {error : HttpError} {value : α}
    (h : ∀ x, cached = some x → fetched = some x) : getOrFetch cached fetched error = .ok value ↔ fetched = some value := by
  unfold getOrFetch
  cases cached with
  | none => exact orThrow_eq_ok
  | some x =>
    rw [h x rfl]
    simp

/-- What holds of the entries of a map holds after one more. -/
theorem update_entries {α : Type} {map : String → Option α} {P : String → α → Prop} {seller : String} {value : α}
    (h : ∀ other found, map other = some found → P other found) (hnew : P seller value) :
    ∀ other found, Function.update map seller (some value) other = some found → P other found := by
  intro other found hfound
  by_cases hother : other = seller
  · subst hother
    rw [Function.update_self] at hfound
    exact Option.some.inj hfound ▸ hnew
  · rw [Function.update_of_ne hother] at hfound
    exact h other found hfound

theorem fetched_update {maps : SellerMaps} (h : maps.Fetched services) {seller : String} {account : Accounts.AccountDTO}
    {address : AccountAddressDto} (haccount : services.fetchAccount seller = some account)
    (haddress : services.fetchAddress ((account.text .defaultAddressId).getD "") = some address) :
    SellerMaps.Fetched services
      ⟨Function.update maps.account seller (some account), Function.update maps.address seller (some address)⟩ where
  account := update_entries h.account haccount
  address := update_entries h.address ⟨account, haccount, haddress⟩

/-- What one turn adds. -/
theorem add_seller_snapshot_spec {acc acc' : SellerMaps × List SellerSnapshot} (hmaps : acc.1.Fetched services)
    (h : addSellerSnapshot services newKeys acc item = .ok acc') :
    acc'.1.Fetched services ∧ ∃ row, defaultAddress services (item.sellerAccountId.getD "") = some row ∧ ∃ snapshot, acc'.2 = acc.2 ++ [snapshot] ∧
      ∃ key, snapshot.address = InvoiceAddressMapper.toEntityFromAccountAddress key (AddressMapper.toDto config row).text := by
  unfold addSellerSnapshot at h
  simp only [bind_eq_ok, pure_eq_ok, require_eq_ok] at h
  obtain ⟨-, -, account, haccount, -, -, address, haddress, rfl⟩ := h
  rw [get_or_fetch_eq_ok (hmaps.account _)] at haccount
  have hcached : ∀ x, acc.1.address (item.sellerAccountId.getD "") = some x →
      services.fetchAddress ((account.text .defaultAddressId).getD "") = some x := by
    intro x hx
    obtain ⟨found, hfound, hfetch⟩ := hmaps.address _ x hx
    rw [haccount] at hfound
    rwa [Option.some.inj hfound]
  rw [get_or_fetch_eq_ok hcached] at haddress
  refine ⟨fetched_update hmaps haccount haddress, ?_⟩
  rw [services.fetchAccount_eq, Option.map_eq_some_iff] at haccount
  obtain ⟨accountRow, haccountRow, rfl⟩ := haccount
  rw [services.fetchAddress_eq, Option.map_eq_some_iff] at haddress
  obtain ⟨row, hrow, rfl⟩ := haddress
  refine ⟨row, ?_, _, rfl, _, rfl⟩
  unfold defaultAddress
  rw [haccountRow]
  exact hrow

/-- Every item gets a copy of the address of its seller, as it is read. -/
theorem seller_snapshots_spec {sellers : List SellerSnapshot} (h : applyItemSellerSnapshots services newKeys items = .ok sellers) :
    List.Forall₂ (fun item snapshot => ∃ row, defaultAddress services (item.sellerAccountId.getD "") = some row ∧
      ∃ key, snapshot.address = InvoiceAddressMapper.toEntityFromAccountAddress key (AddressMapper.toDto config row).text)
      items sellers := by
  unfold applyItemSellerSnapshots at h
  simp only [bind_eq_ok, pure_eq_ok] at h
  obtain ⟨⟨maps, snapshots⟩, hfold, rfl⟩ := h
  refine (foldlM_invariant (P := fun done acc => acc.1.Fetched services ∧ List.Forall₂ (fun item snapshot =>
    ∃ row, defaultAddress services (item.sellerAccountId.getD "") = some row ∧ ∃ key, snapshot.address =
      InvoiceAddressMapper.toEntityFromAccountAddress key (AddressMapper.toDto config row).text) done acc.2)
    ⟨⟨by simp, by simp⟩, .nil⟩ ?_ hfold).2
  rintro done acc item acc' ⟨hmaps, hdone⟩ hturn
  obtain ⟨hmaps', row, hrow, snapshot, hsnapshot, hkey⟩ := add_seller_snapshot_spec hmaps hturn
  refine ⟨hmaps', ?_⟩
  rw [hsnapshot]
  exact List.rel_append hdone (.cons ⟨row, hrow, hkey⟩ .nil)

end Facts

section Sealed

variable {cipher : Cipher} {services : CrudServices ⟨.on, cipher⟩} {newKeys : ℕ → String × String}

theorem sellers_sealed_iff {items : List PaymentItemDTO} {sellers : List SellerSnapshot}
    (h : applyItemSellerSnapshots services newKeys items = .ok sellers) :
    (∀ seller ∈ sellers, AddressSealed cipher seller.address.column) ↔
      ∀ item ∈ items, ∀ row ∈ defaultAddress services (item.sellerAccountId.getD ""), ReadsSealed cipher row := by
  refine (forall₂_forall_iff (seller_snapshots_spec h) ?_).symm
  rintro item snapshot ⟨row, hrow, key, hsnapshot⟩
  rw [hsnapshot, address_sealed_snapshot, address_sealed_toDto, hrow]
  simp

theorem address_snapshot_sealed_iff {key : String} {billingAddressId : Option String} {address : InvoiceAddress}
    (h : applyAddressSnapshot services key billingAddressId = .ok address) :
    AddressSealed cipher address.column ↔ ∀ row ∈ services.addresses (billingAddressId.getD ""), ReadsSealed cipher row := by
  unfold applyAddressSnapshot at h
  simp only [bind_eq_ok, pure_eq_ok, require_eq_ok, orThrow_eq_ok] at h
  obtain ⟨-, -, dto, hfetch, rfl⟩ := h
  rw [services.fetchAddress_eq, Option.map_eq_some_iff] at hfetch
  obtain ⟨row, hrow, rfl⟩ := hfetch
  rw [address_sealed_snapshot, address_sealed_toDto, hrow]
  simp

/-- The address that an order resolves to is a row that the platform names, or sealed. -/
theorem resolved_address_sealed_iff {platformId : String} {dto : AccountAddressDto} {addresses : List Address} (id : String) :
    AddressSealed cipher (External.resolveAddress ⟨.on, cipher⟩ platformId dto addresses id).1.column ↔
      ∀ row ∈ External.findByExternalPlatformAddress platformId (dto.text .externalPlatformAddressId) addresses,
        AddressSealed cipher row.column := by
  unfold External.resolveAddress
  split <;> rename_i hplatform
  · simp [hplatform]
  · simp only [hplatform, Option.mem_def, reduceCtorEq, false_imp_iff, implies_true, iff_true]
    split <;> rename_i hmatch
    · unfold External.findByFieldMatch at hmatch
      dsimp only at hmatch
      have hfound := List.find?_some hmatch
      simp only [decide_eq_true_eq] at hfound
      obtain ⟨hfields, -⟩ := hfound
      intro field hfield
      rw [hfields field (List.mem_cons_of_mem _ hfield)]
      exact address_sealed_updateEntity cipher _ dto field hfield
    · exact address_sealed_updateEntity cipher _ _

/-- The address that a new payment is billed to. -/
theorem draft_address {sessionInUse : String → Bool} {calculate : String → Except HttpError ItemListCalculationDto}
    {pdto : PaymentInitDTO} {refundCalculation : Option ItemListCalculationDto} {draft : PaymentDraft}
    (h : generateEntityFromInitDto (services.directory sessionInUse) calculate pdto refundCalculation = .ok draft) :
    services.addresses (draft.billingAddressId.getD "") = billingAddress services pdto := by
  unfold generateEntityFromInitDto at h
  simp only [bind_eq_ok, pure_eq_ok, require_eq_ok, orThrow_eq_ok] at h
  obtain ⟨-, -, -, -, customerAccount, hcustomer, -, -, calculation, -, taxes, -, -, -, -, -, rfl⟩ := h
  unfold billingAddress
  cases pdto.billingAddressId with
  | some id => rfl
  | none =>
    simp only [CrudServices.directory, services.fetchAccount_eq, Option.map_eq_some_iff] at hcustomer
    obtain ⟨dto, ⟨row, hrow, rfl⟩, rfl⟩ := hcustomer
    unfold defaultAddress
    rw [hrow]
    rfl

theorem order_sellers {external : External.Services} {dto : External.CreatePaymentDTO} {platform : External.ExternalPlatform}
    {config : Config} {account : Account} {address : Address} {ids : String × String × String} {payment : External.Payment}
    (h : External.createPayment config external dto platform account address ids = .ok payment) :
    payment.items.map (·.sellerAccountId) = dto.items.map (fun input => some input.sellerAccountId) ∧
      payment.customerSnapshotAddress = some (InvoiceAddressMapper.toEntityFromAccountAddress ids.2.2 address.column) := by
  unfold External.createPayment at h
  simp only [bind_eq_ok, pure_eq_ok] at h
  obtain ⟨calculation, hcalculation, taxes, -, -, -, rfl⟩ := h
  refine ⟨foldlM_invariant (P := fun (done : List External.PaymentItemInput) (acc : ItemListCalculationDto) =>
    acc.items.map (·.sellerAccountId) = done.map fun input => some input.sellerAccountId) rfl ?_ hcalculation, rfl⟩
  intro done acc input acc' hdone hturn
  unfold External.addOrderItem External.createItem at hturn
  simp only [bind_eq_ok, pure_eq_ok] at hturn
  obtain ⟨pair, ⟨tax, -, comission, -, rfl⟩, rfl⟩ := hturn
  rw [List.map_append, List.map_append, hdone]
  rfl

/-- No billing address, no billing payment. -/
theorem billing_payment_refused {config : Config} (services : CrudServices config) (newKeys : ℕ → String × String)
    (numberText : ℚ → String) (params : BillingParams) (ids : String × String × String)
    (created : External.Payment × List SellerSnapshot) :
    createBillingPayment services newKeys numberText params ids ≠ .ok created := by
  intro h
  unfold createBillingPayment applyAddressSnapshot at h
  simp only [bind_eq_ok, require_eq_ok] at h
  obtain ⟨tax, -, sellers, -, customerAccount, -, customerAddress, ⟨-, hid, -⟩, -⟩ := h
  cases hid

/-- **Snapshot addresses.** The addresses of a payment by `init` are sealed exactly where the rows that they
come from are sealed even when they are read. An order copies the row of the customer as it is. There are no
billing payments. -/
theorem snapshots_sealed_iff (cipher : Cipher) (services : CrudServices ⟨.on, cipher⟩) (newKeys : ℕ → String × String) :
    (∀ sessionInUse calculate pdto refundCalculation keys draft snapshots,
      initPayment services newKeys sessionInUse calculate pdto refundCalculation keys = .ok (draft, snapshots) →
        (SnapshotsSealed cipher (some snapshots.customerAddress) snapshots.sellers ↔
          (∀ row ∈ billingAddress services pdto, ReadsSealed cipher row) ∧
            ∀ item ∈ draft.items, ∀ row ∈ defaultAddress services (item.sellerAccountId.getD ""), ReadsSealed cipher row)) ∧
    (∀ numberText params ids created, createBillingPayment services newKeys numberText params ids ≠ .ok created) ∧
    ∀ external dto platform account addresses key ids payment sellers,
      createOrderPayment services newKeys external dto platform account
          (External.resolveAddress ⟨.on, cipher⟩ dto.externalPlatformId dto.billingAddress addresses key).1 ids =
        .ok (payment, sellers) →
        (SnapshotsSealed cipher payment.customerSnapshotAddress sellers ↔
          (∀ row ∈ External.findByExternalPlatformAddress dto.externalPlatformId
            (dto.billingAddress.text .externalPlatformAddressId) addresses, AddressSealed cipher row.column) ∧
            ∀ input ∈ dto.items, ∀ row ∈ defaultAddress services input.sellerAccountId, ReadsSealed cipher row) := by
  refine ⟨?_, fun numberText params ids created => billing_payment_refused services newKeys numberText params ids created, ?_⟩
  · intro sessionInUse calculate pdto refundCalculation keys draft snapshots h
    unfold initPayment at h
    simp only [bind_eq_ok, pure_eq_ok, Prod.mk.injEq] at h
    obtain ⟨draft, hdraft, customerAccount, -, sellers, hsellers, customerAddress, hcustomer, rfl, rfl⟩ := h
    rw [← draft_address hdraft, ← address_snapshot_sealed_iff hcustomer, ← sellers_sealed_iff hsellers]
    constructor
    · intro hsealed
      exact ⟨hsealed.customer _ rfl, hsealed.sellers⟩
    · rintro ⟨hcustomer, hsellers⟩
      exact ⟨fun address haddress => Option.some.inj haddress ▸ hcustomer, hsellers⟩
  · intro external dto platform account addresses key ids payment sellers h
    unfold createOrderPayment at h
    simp only [bind_eq_ok, pure_eq_ok, Prod.mk.injEq] at h
    obtain ⟨payment, hpayment, sellers, hsellers, rfl, rfl⟩ := h
    obtain ⟨hids, hcustomer⟩ := order_sellers hpayment
    have hitems : (∀ input ∈ dto.items, ∀ row ∈ defaultAddress services input.sellerAccountId, ReadsSealed cipher row) ↔
        ∀ seller ∈ sellers, AddressSealed cipher seller.address.column := by
      rw [sellers_sealed_iff hsellers]
      have hforall : ∀ P : Option String → Prop, (∀ input ∈ dto.items, P (some input.sellerAccountId)) ↔
          ∀ item ∈ payment.items, P item.sellerAccountId := by
        intro P
        rw [← List.forall_mem_map (f := fun input : External.PaymentItemInput => some input.sellerAccountId), ← hids,
          List.forall_mem_map]
      exact hforall fun seller => ∀ row ∈ defaultAddress services (seller.getD ""), ReadsSealed cipher row
    rw [hitems, hcustomer, ← resolved_address_sealed_iff key, ← address_sealed_snapshot ids.2.2]
    constructor
    · intro hsealed
      exact ⟨hsealed.customer _ rfl, hsealed.sellers⟩
    · rintro ⟨hcustomer, hsellers⟩
      exact ⟨fun address haddress => Option.some.inj haddress ▸ hcustomer, hsellers⟩

end Sealed

/-! ## An address in plaintext -/

/-- Every account lives in the main street, encrypted as its mapper stores it. -/
def streetAddress : Address where
  id := "home"
  column := fun field => match field with
    | .name => some "Home"
    | .streetName => some (markingCipher.encrypt "Main street")
    | _ => none

def streetServices : CrudServices ⟨.on, markingCipher⟩ where
  accounts id := some ⟨id, .commercial, false, false, fun field => if field = .defaultAddressId then some "home" else none, none⟩
  addresses _ := some streetAddress
  fetchAccount id := some (AccountMapper.toDto ⟨.on, markingCipher⟩
    ⟨id, .commercial, false, false, fun field => if field = .defaultAddressId then some "home" else none, none⟩)
  fetchAddress _ := some (AddressMapper.toDto ⟨.on, markingCipher⟩ streetAddress)
  fetchAccount_eq _ := rfl
  fetchAddress_eq _ := rfl

def streetItem : PaymentItemDTO where
  itemId := "book"
  variation := ""
  name := "Book"
  quantity := 1
  totalAmount := 120
  originalUnitAmount := 120
  unitAmount := 120
  taxPercent := 20
  taxAmount := 20
  unTaxAmount := 100
  sellerAccountId := some "seller"
  unit := "ITEM"
  itemClass := ""
  appComissionAmount := 0
  appComissionPercent := 0

def streetRequest : PaymentInitDTO where
  type := .purchase
  currency := "TRY"
  itemNotes := []
  customerAccountId := "customer"

def streetKeys : ℕ → String × String := fun _ => ("account", "address")

def streetPayment : Except HttpError (PaymentDraft × PaymentSnapshots) :=
  initPayment streetServices streetKeys (fun _ => false) (fun _ => .ok ⟨[streetItem], 120, 20, []⟩) streetRequest none
    ("account", "address")

theorem street_in_plaintext : ∃ draft snapshots, streetPayment = .ok (draft, snapshots) ∧
    snapshots.customerAddress.column .streetName = some "Main street" ∧
    ¬ SnapshotsSealed markingCipher (some snapshots.customerAddress) snapshots.sellers := by
  refine ⟨_, _, rfl, rfl, fun hsealed => ?_⟩
  obtain ⟨plain, hplain⟩ := hsealed.customer _ rfl .streetName (by decide) "Main street" rfl (by decide)
  have hfirst := congrArg (fun text : String => text.toList.head?) hplain
  simp [markingCipher] at hfirst

def streetOrder : External.CreatePaymentDTO where
  externalPlatformId := "platform"
  externalPlatformOrderId := "order"
  currency := "TRY"
  customerAccount := ⟨none, .individual, none, none, none, none, fun _ => none, none⟩
  billingAddress := ⟨none, none, fun field => if field = .streetName then some "Main street" else none⟩
  items := [{ name := "Book", quantity := 1, unitAmount := 120, taxRate := 20, sellerAccountId := "seller" }]

def platformServices : External.Services where
  hasOwnership _ := true
  account _ := none
  directory := ⟨fun _ => none, fun _ => false, fun _ => false⟩
  commissionPercent _ _ := 0
  comissionsCalculatedFromNet := true
  numberText _ := "20"

def streetOrderPayment : Except HttpError (External.Payment × List SellerSnapshot) :=
  createOrderPayment streetServices streetKeys platformServices streetOrder ⟨"platform", "Platform", true⟩
    (External.newAccount "customer") (External.resolveAddress ⟨.on, markingCipher⟩ "platform" streetOrder.billingAddress [] "address").1
    ("payment", "account", "address")

theorem street_sealed_iff :
    (∃ draft snapshots, streetPayment = .ok (draft, snapshots) ∧
      (SnapshotsSealed markingCipher (some snapshots.customerAddress) snapshots.sellers ↔
        (∀ row ∈ billingAddress streetServices streetRequest, ReadsSealed markingCipher row) ∧
          ∀ item ∈ draft.items, ∀ row ∈ defaultAddress streetServices (item.sellerAccountId.getD ""),
            ReadsSealed markingCipher row)) ∧
    ∃ payment sellers, streetOrderPayment = .ok (payment, sellers) ∧
      (SnapshotsSealed markingCipher payment.customerSnapshotAddress sellers ↔
        (∀ row ∈ External.findByExternalPlatformAddress "platform" none [], AddressSealed markingCipher row.column) ∧
          ∀ input ∈ streetOrder.items, ∀ row ∈ defaultAddress streetServices input.sellerAccountId,
            ReadsSealed markingCipher row) := by
  obtain ⟨hinit, -, horder⟩ := snapshots_sealed_iff markingCipher streetServices streetKeys
  have hok : streetOrderPayment.toOption.isSome = true := by decide +kernel
  obtain ⟨⟨payment, sellers⟩, hcreated⟩ := Option.isSome_iff_exists.mp hok
  rw [toOption_eq_some] at hcreated
  have hpayment : ∃ draft snapshots, streetPayment = .ok (draft, snapshots) := ⟨_, _, rfl⟩
  obtain ⟨draft, snapshots, hpayment⟩ := hpayment
  refine ⟨⟨draft, snapshots, hpayment, hinit _ _ streetRequest _ _ draft snapshots hpayment⟩, payment, sellers, hcreated, ?_⟩
  exact horder platformServices streetOrder _ _ [] "address" _ _ _ hcreated

end Postral.Snapshots
