import Postral.Accounts.Mapper

/-!
# Encrypting and decrypting what is stored (`AdminOperationsService`)

The service has its own lists of sensitive columns beside those of the mappers.
-/

open Check

namespace Postral.Accounts

/-! ## The service -/

/-- `ACCOUNT_SENSITIVE_FIELDS`. -/
def accountSensitiveFields : List AccountField := [.legalIdentity, .bankIban, .bankBic, .taxOffice]

/-- `ADDRESS_SENSITIVE_FIELDS`. -/
def addressSensitiveFields : List AddressField :=
  [.streetName, .buildingNumber, .cityName, .postalZone, .countrySubentity, .additionalStreetName, .district, .country,
    .citySubdivisionName, .floor, .room, .postbox, .region, .blockName, .buildingName, .timezone, .plotIdentification, .markCare,
    .markAttention, .inhaleName, .addressFormatCode, .addressTypeCode, .cityCode, .countrySubentityCode, .department]

def transform (config : Config) (value : Option String) (encrypt : Bool) : Option String :=
  match value with
  | none => none
  | some value => if encrypt then encryptWithConfig config (some value) else decryptOrDefault config (some value)

/-- The loop over a list of columns. -/
def transformFields {F : Type} [DecidableEq F] (config : Config) (fields : List F) (column : F → Option String) (encrypt : Bool) :
    F → Option String :=
  fields.foldl (fun column field => Function.update column field (transform config (column field) encrypt)) column

structure Tables where
  accounts : List Account
  addresses : List Address
  invoiceAccounts : List InvoiceAccount
  invoiceAddresses : List InvoiceAddress

/-- Rows are found in the order of their keys, and saved under them. -/
def processInBatches {ρ : Type} (transformFields : ρ → ρ) (batchSize : ℕ) (rows : List ρ) (skip : ℕ) : List ρ :=
  let batch := (rows.drop skip).take batchSize
  if batch.length = 0 then rows
  else processInBatches transformFields batchSize
    (rows.take skip ++ batch.map transformFields ++ rows.drop (skip + batch.length)) (skip + batch.length)
termination_by rows.length - skip
decreasing_by
  rename_i h
  simp only [batch, List.length_take, List.length_drop, List.length_append, List.length_map] at h ⊢
  omega

def transformAccountFields (config : Config) (encrypt : Bool) (account : Account) : Account :=
  { account with column := transformFields config accountSensitiveFields account.column encrypt }

def transformInvoiceAccountFields (config : Config) (encrypt : Bool) (account : InvoiceAccount) : InvoiceAccount :=
  { account with column := transformFields config accountSensitiveFields account.column encrypt }

def transformAddressFields (config : Config) (encrypt : Bool) (address : Address) : Address :=
  { address with column := transformFields config addressSensitiveFields address.column encrypt }

def transformInvoiceAddressFields (config : Config) (encrypt : Bool) (address : InvoiceAddress) : InvoiceAddress :=
  { address with column := transformFields config addressSensitiveFields address.column encrypt }

inductive Target where
  | encrypted
  | decrypted
  deriving DecidableEq, Repr

def Tables.processInBatches (config : Config) (encrypt : Bool) (tables : Tables) : Tables where
  accounts := Accounts.processInBatches (transformAccountFields config encrypt) 500 tables.accounts 0
  addresses := Accounts.processInBatches (transformAddressFields config encrypt) 500 tables.addresses 0
  invoiceAccounts := Accounts.processInBatches (transformInvoiceAccountFields config encrypt) 500 tables.invoiceAccounts 0
  invoiceAddresses := Accounts.processInBatches (transformInvoiceAddressFields config encrypt) 500 tables.invoiceAddresses 0

/-- `continuingOps` is what `isBusy` says. -/
def changeAllSensitiveData (config : Config) (continuingOps : Bool) (target : Target) (tables : Tables) : Except HttpError Tables := do
  require (target = .encrypted → config.enabled = .on) (.badRequest "Encryption is not enabled in configuration.")
  require (target = .decrypted → config.enabled = .on ∨ config.enabled = .falseDecrypt)
    (.badRequest "Data is not encrypted according to configuration.")
  require (continuingOps = false)
    (.badRequest "Cannot change sensitive data while report digestion operations are in progress.")
  return tables.processInBatches config (target = .encrypted)

/-! ## What readers see -/

/-- Every row through its mapper. -/
structure Reading where
  accounts : List AccountDTO
  addresses : List AccountAddressDto
  invoiceAccounts : List (Except HttpError SnapshotAccountDTO)
  invoiceAddresses : List SnapshotAddressDTO

def Tables.read (config : Config) (tables : Tables) : Reading where
  accounts := tables.accounts.map (AccountMapper.toDto config)
  addresses := tables.addresses.map (AddressMapper.toDto config)
  invoiceAccounts := tables.invoiceAccounts.map (InvoiceAccountMapper.toDto config)
  invoiceAddresses := tables.invoiceAddresses.map (InvoiceAddressMapper.toDto config)

/-- The columns of `fields` as plaintext. -/
def plaintextColumns {F : Type} [DecidableEq F] (cipher : Cipher) (fields : List F) (column : F → Option String) : F → Option String :=
  fun field => if field ∈ fields then (column field).map (plainText cipher) else column field

def plaintextBankAccounts (cipher : Cipher) (accounts : Option (List BankAccount)) : Option (List BankAccount) :=
  accounts.map (List.map (BankAccount.mapEncrypted (Option.map (plainText cipher))))

def Account.plaintext (cipher : Cipher) (account : Account) : Account :=
  { account with
    column := plaintextColumns cipher AccountMapper.encryptedFields account.column
    bankAccounts := plaintextBankAccounts cipher account.bankAccounts }

def Address.plaintext (cipher : Cipher) (address : Address) : Address :=
  { address with column := plaintextColumns cipher addressEncrypted address.column }

/-- What one of the two ways to make a snapshot encrypts. -/
def snapshotEncrypted : List AccountField := InvoiceAccountMapper.encryptedFields ++ InvoiceAccountMapper.gatedFields

def InvoiceAccount.plaintext (cipher : Cipher) (account : InvoiceAccount) : InvoiceAccount :=
  { account with
    column := plaintextColumns cipher snapshotEncrypted account.column
    bankAccounts := plaintextBankAccounts cipher account.bankAccounts }

def InvoiceAddress.plaintext (cipher : Cipher) (address : InvoiceAddress) : InvoiceAddress :=
  { address with column := plaintextColumns cipher addressEncrypted address.column }

/-- The original values. -/
def Tables.plaintext (cipher : Cipher) (tables : Tables) : Tables where
  accounts := tables.accounts.map (Account.plaintext cipher)
  addresses := tables.addresses.map (Address.plaintext cipher)
  invoiceAccounts := tables.invoiceAccounts.map (InvoiceAccount.plaintext cipher)
  invoiceAddresses := tables.invoiceAddresses.map (InvoiceAddress.plaintext cipher)

/-- The texts of the columns meet `P`. -/
def Columns {F : Type} (P : String → Prop) (fields : List F) (column : F → Option String) : Prop :=
  ∀ field ∈ fields, ∀ text ∈ column field, P text

def BankColumns (P : String → Prop) (accounts : Option (List BankAccount)) : Prop :=
  ∀ list ∈ accounts, ∀ account ∈ list, Columns P bankAccountEncrypted account.column

/-- The columns that the mappers encrypt and that `p` and `q` choose meet `P`. -/
structure Tables.Sensitive (p : AccountField → Bool) (q : AddressField → Bool) (P : String → Prop) (tables : Tables) : Prop where
  accounts : ∀ a ∈ tables.accounts, Columns P (AccountMapper.encryptedFields.filter p) a.column ∧ BankColumns P a.bankAccounts
  addresses : ∀ a ∈ tables.addresses, Columns P (addressEncrypted.filter q) a.column
  invoiceAccounts : ∀ a ∈ tables.invoiceAccounts, Columns P (snapshotEncrypted.filter p) a.column ∧ BankColumns P a.bankAccounts
  invoiceAddresses : ∀ a ∈ tables.invoiceAddresses, Columns P (addressEncrypted.filter q) a.column

/-- All columns that the mappers encrypt. -/
def Tables.All (P : String → Prop) (tables : Tables) : Prop := tables.Sensitive (fun _ => true) (fun _ => true) P

/-- Those that the lists of the service lack. -/
def Tables.Unlisted (P : String → Prop) (tables : Tables) : Prop :=
  tables.Sensitive (· ∉ accountSensitiveFields) (· ∉ addressSensitiveFields) P

/-- Those of the lists, for accounts and addresses. -/
structure Tables.Listed (P : String → Prop) (tables : Tables) : Prop where
  accounts : ∀ a ∈ tables.accounts, Columns P accountSensitiveFields a.column
  addresses : ∀ a ∈ tables.addresses, Columns P addressSensitiveFields a.column
  invoiceAddresses : ∀ a ∈ tables.invoiceAddresses, Columns P addressSensitiveFields a.column

/-! ## The service changes every row once -/

theorem transformFields_apply {F : Type} [DecidableEq F] {config : Config} {fields : List F} {encrypt : Bool} (hnodup : fields.Nodup)
    (column : F → Option String) (field : F) : transformFields config fields column encrypt field =
      if field ∈ fields then transform config (column field) encrypt else column field := by
  unfold transformFields
  induction fields generalizing column with
  | nil => rfl
  | cons f fields ih =>
    obtain ⟨hnot, hnodup⟩ := List.nodup_cons.mp hnodup
    rw [List.foldl_cons, ih hnodup]
    by_cases heq : field = f
    · subst heq
      simp [hnot]
    · simp [heq]

theorem processInBatches_eq {ρ : Type} (f : ρ → ρ) {batchSize : ℕ} (hpos : 0 < batchSize) (rows : List ρ) (skip : ℕ) :
    processInBatches f batchSize rows skip = rows.take skip ++ (rows.drop skip).map f := by
  fun_induction processInBatches f batchSize rows skip with
  | case1 rows skip batch h =>
    have hend : rows.drop skip = [] := by
      rw [← List.length_eq_zero_iff]
      simp only [batch, List.length_take] at h
      omega
    rw [hend, List.map_nil, List.append_nil, List.take_of_length_le (List.drop_eq_nil_iff.mp hend)]
  | case2 rows skip batch h ih =>
    rw [ih]
    have hskip : skip ≤ rows.length := by
      simp only [batch, List.length_take, List.length_drop] at h
      omega
    have hlength : (rows.take skip ++ batch.map f).length = skip + batch.length := by
      rw [List.length_append, List.length_map, List.length_take, Nat.min_eq_left hskip]
    rw [List.take_left' hlength, List.drop_left' hlength, List.append_assoc, ← List.map_append]
    congr 2
    -- the batch and what follows it
    rw [← List.drop_drop]
    have htake : (rows.drop skip).take batch.length = batch := by
      simp only [batch, List.length_take]
      exact List.take_eq_take_min.symm
    calc batch ++ (rows.drop skip).drop batch.length
        = (rows.drop skip).take batch.length ++ (rows.drop skip).drop batch.length := by rw [htake]
      _ = rows.drop skip := List.take_append_drop _ _

def Tables.change (config : Config) (encrypt : Bool) (tables : Tables) : Tables where
  accounts := tables.accounts.map (transformAccountFields config encrypt)
  addresses := tables.addresses.map (transformAddressFields config encrypt)
  invoiceAccounts := tables.invoiceAccounts.map (transformInvoiceAccountFields config encrypt)
  invoiceAddresses := tables.invoiceAddresses.map (transformInvoiceAddressFields config encrypt)

theorem Tables.processInBatches_eq (config : Config) (encrypt : Bool) (tables : Tables) :
    tables.processInBatches config encrypt = tables.change config encrypt := by
  unfold Tables.processInBatches Tables.change
  simp only [Accounts.processInBatches_eq _ (show 0 < 500 by decide), List.take_zero, List.nil_append, List.drop_zero]

theorem encrypted_eq (cipher : Cipher) (tables : Tables) :
    changeAllSensitiveData ⟨.on, cipher⟩ false .encrypted tables = .ok (tables.change ⟨.on, cipher⟩ true) := by
  rw [← tables.processInBatches_eq]
  rfl

theorem decrypted_eq (config : Config) (h : config.enabled ≠ .off) (tables : Tables) :
    changeAllSensitiveData config false .decrypted tables = .ok (tables.change config false) := by
  rw [← tables.processInBatches_eq]
  obtain ⟨enabled, cipher⟩ := config
  cases enabled with
  | on => rfl
  | falseDecrypt => rfl
  | off => exact absurd rfl h

/-! ## One column -/

theorem columns_iff_false {F : Type} {fields : List F} {column : F → Option String} {P : String → Prop} (hP : ∀ text, ¬ P text) :
    Columns P fields column ↔ ∀ field ∈ fields, column field = none := by
  refine forall₂_congr fun field _ => ?_
  cases column field <;> simp [hP]

section Columns

variable {F : Type} [DecidableEq F] {cipher : Cipher} {fields listed : List F} {column : F → Option String} {field : F}

theorem transform_encrypt (cipher : Cipher) (text : Option String) : transform ⟨.on, cipher⟩ text true = text.map cipher.encrypt := by
  cases text <;> rfl

theorem transform_decrypt {config : Config} (h : config.enabled ≠ .off) (text : Option String) :
    transform config text false = text.map (plainText config.cipher) := by
  cases text with
  | none => rfl
  | some text => exact decryptOrDefault_eq h (some text)

theorem decrypted_on (cipher : Cipher) (text : Option String) :
    decrypted ⟨.on, cipher⟩ text = orEmpty (text.map (plainText cipher)) := by
  unfold decrypted
  rw [decryptOrDefault_eq (by simp)]

/-- A column that was encrypted is read as what was stored. -/
theorem decrypted_transformed (cipher : Cipher) (text : Option String) :
    decrypted ⟨.on, cipher⟩ (transform ⟨.on, cipher⟩ text true) = orEmpty (text.map id) := by
  rw [transform_encrypt, decrypted_on, Option.map_map]
  congr 2
  funext t
  exact plainText_encrypt cipher t

/-- The columns are read as their plaintexts where those of the list were plaintext. -/
theorem columns_read_iff (hnodup : listed.Nodup) (hsub : listed ⊆ fields) (hstored : Columns (Stored cipher) fields column) :
    (∀ field ∈ fields, decrypted ⟨.on, cipher⟩ (transformFields ⟨.on, cipher⟩ listed column true field) =
      decrypted ⟨.off, cipher⟩ (plaintextColumns cipher fields column field)) ↔ Columns (Plain cipher) listed column := by
  have hread (field : F) (hfield : field ∈ fields) : decrypted ⟨.off, cipher⟩ (plaintextColumns cipher fields column field) =
      orEmpty ((column field).map (plainText cipher)) := by
    unfold decrypted plaintextColumns
    rw [decryptOrDefault_off, if_pos hfield]
  constructor
  · intro h field hlisted text htext
    have hfield := h field (hsub hlisted)
    rw [hread field (hsub hlisted), transformFields_apply hnodup, if_pos hlisted, decrypted_transformed, orEmpty_map_eq_iff] at hfield
    exact (hstored field (hsub hlisted) text htext).eq_plainText_iff.mp (hfield text htext)
  · intro h field hfield
    rw [hread field hfield, transformFields_apply hnodup]
    split <;> rename_i hlisted
    · rw [decrypted_transformed, orEmpty_map_eq_iff]
      intro text htext
      exact ((hstored field hfield text htext).eq_plainText_iff.mpr (h field hlisted text htext))
    · exact decrypted_on cipher (column field)

/-- A second encryption is seen in every column of the list that has a value. -/
theorem columns_twice_iff (hnodup : listed.Nodup) (hsub : listed ⊆ fields) (hstored : Columns (Stored cipher) fields column) :
    (∀ field ∈ fields, decrypted ⟨.on, cipher⟩ (transformFields ⟨.on, cipher⟩ listed
      (transformFields ⟨.on, cipher⟩ listed column true) true field) =
        decrypted ⟨.on, cipher⟩ (transformFields ⟨.on, cipher⟩ listed column true field)) ↔
      Columns (fun _ => False) listed column := by
  simp only [transformFields_apply hnodup]
  constructor
  · intro h field hlisted text htext
    have hfield := h field (hsub hlisted)
    rw [if_pos hlisted, if_pos hlisted, decrypted_transformed, decrypted_transformed, transform_encrypt, Option.map_map,
      orEmpty_map_eq_iff] at hfield
    exact (hstored field (hsub hlisted) text htext).encrypt_ne (hfield text htext)
  · intro h field hfield
    split <;> rename_i hlisted
    · rw [(columns_iff_false fun _ hfalse => hfalse).mp h field hlisted]
      rfl
    · rfl

/-- Decrypting leaves the columns as plaintext where those that the list lacks were plaintext. -/
theorem columns_decrypted_iff {config : Config} (henabled : config.enabled ≠ .off) (hnodup : listed.Nodup)
    (hstored : Columns (Stored config.cipher) fields column) :
    Columns (Plain config.cipher) fields (transformFields config listed column false) ↔
      Columns (Plain config.cipher) (fields.filter (· ∉ listed)) column := by
  constructor
  · intro h field hfield text htext
    obtain ⟨hfield, hnot⟩ := List.mem_filter.mp hfield
    apply h field hfield
    rw [transformFields_apply hnodup, if_neg (of_decide_eq_true hnot)]
    exact htext
  · intro h field hfield text htext
    rw [transformFields_apply hnodup] at htext
    split at htext <;> rename_i hlisted
    · rw [transform_decrypt henabled] at htext
      obtain ⟨old, hold, rfl⟩ := Option.map_eq_some_iff.mp htext
      exact (hstored field hfield old hold).plain_plainText
    · exact h field (List.mem_filter.mpr ⟨hfield, decide_eq_true hlisted⟩) text htext

end Columns

/-! ## One row -/

section Rows

variable {cipher : Cipher} {config config' : Config}

theorem bank_accounts_read (cipher : Cipher) (accounts : Option (List BankAccount)) :
    (accounts.getD []).map (BankAccount.mapEncrypted (decrypted ⟨.on, cipher⟩)) =
      ((plaintextBankAccounts cipher accounts).getD []).map (BankAccount.mapEncrypted (decrypted ⟨.off, cipher⟩)) := by
  unfold plaintextBankAccounts
  cases accounts with
  | none => rfl
  | some accounts =>
    simp only [Option.map_some, Option.getD_some, List.map_map]
    refine List.map_congr_left fun account _ => ?_
    unfold BankAccount.mapEncrypted
    simp only [Function.comp_apply, BankAccount.mk.injEq, true_and]
    funext field
    split
    · exact decrypted_on cipher (account.column field)
    · rfl

/-- Two rows that differ in encrypted columns alone are read alike where these columns are. -/
theorem AccountMapper.toDto_eq_iff (account : Account) {column column' : AccountField → Option String}
    {banks banks' : Option (List BankAccount)} (hother : ∀ field ∉ encryptedFields, column field = column' field)
    (hbanks : (banks.getD []).map (BankAccount.mapEncrypted (decrypted config)) =
      (banks'.getD []).map (BankAccount.mapEncrypted (decrypted config'))) :
    toDto config { account with column := column, bankAccounts := banks } =
        toDto config' { account with column := column', bankAccounts := banks' } ↔
      ∀ field ∈ encryptedFields, decrypted config (column field) = decrypted config' (column' field) := by
  constructor
  · intro heq field hfield
    have htext := congrFun (congrArg AccountDTO.text heq) field
    simpa only [toDto, if_pos hfield] using htext
  · intro h
    simp only [toDto, hbanks, AccountDTO.mk.injEq, true_and, and_true]
    funext field
    split <;> rename_i hfield
    · exact h field hfield
    · have hwebsite := hother .website (by decide)
      have hsame := hother field hfield
      cases field <;> simp only [hwebsite, hsame]

theorem AddressMapper.toDto_eq_iff (address : Address) {column column' : AddressField → Option String}
    (hother : ∀ field ∉ addressEncrypted, column field = column' field) :
    toDto config { address with column := column } = toDto config' { address with column := column' } ↔
      ∀ field ∈ addressEncrypted, decrypted config (column field) = decrypted config' (column' field) := by
  constructor
  · intro heq field hfield
    have htext := congrFun (congrArg AccountAddressDto.text heq) field
    simpa only [toDto, if_pos hfield] using htext
  · intro h
    simp only [toDto, AccountAddressDto.mk.injEq, true_and]
    funext field
    split <;> rename_i hfield
    · exact h field hfield
    · have hsame := hother field hfield
      cases field <;> simp only [hsame]

theorem InvoiceAddressMapper.toDto_eq_iff (address : InvoiceAddress) {column column' : AddressField → Option String}
    (hother : ∀ field ∉ addressEncrypted, column field = column' field) :
    toDto config { address with column := column } = toDto config' { address with column := column' } ↔
      ∀ field ∈ addressEncrypted, decrypted config (column field) = decrypted config' (column' field) := by
  constructor
  · intro heq field hfield
    have htext := congrFun (congrArg SnapshotAddressDTO.text heq) field
    simpa only [toDto, if_pos hfield] using htext
  · intro h
    simp only [toDto, SnapshotAddressDTO.mk.injEq, true_and]
    funext field
    split <;> rename_i hfield
    · exact h field hfield
    · rw [hother .name (by decide)]

/-- The type of a snapshot is no ciphertext, and is decrypted all the same. -/
theorem InvoiceAccountMapper.toDto_on (cipher : Cipher) (account : InvoiceAccount) :
    toDto ⟨.on, cipher⟩ account = .error (.internal "Error decrypting data") := by
  have htype : cipher.decrypt (AccountType.text account.type) = none := cipher.decrypt_plain _ (cipher.type_plain account.type)
  simp only [toDto, decryptWithConfig, htype]
  rfl

theorem InvoiceAccountMapper.toDto_off_ne (cipher : Cipher) (account : InvoiceAccount) (error : HttpError) :
    toDto ⟨.off, cipher⟩ account ≠ .error error := by
  intro h
  exact nomatch h

theorem transformFields_of_not_mem {F : Type} [DecidableEq F] {fields listed : List F} (hnodup : listed.Nodup) (hsub : listed ⊆ fields)
    {column : F → Option String} {encrypt : Bool} {field : F} (hfield : field ∉ fields) :
    transformFields config listed column encrypt field = column field := by
  rw [transformFields_apply hnodup, if_neg fun hlisted => hfield (hsub hlisted)]

theorem plaintextColumns_of_not_mem {F : Type} [DecidableEq F] {fields : List F} {column : F → Option String} {field : F}
    (hfield : field ∉ fields) : plaintextColumns cipher fields column field = column field := if_neg hfield

theorem account_lists : accountSensitiveFields.Nodup ∧ accountSensitiveFields ⊆ AccountMapper.encryptedFields := by decide

theorem address_lists : addressSensitiveFields.Nodup ∧ addressSensitiveFields ⊆ addressEncrypted := by decide

theorem account_read_iff {account : Account} (h : Columns (Stored cipher) AccountMapper.encryptedFields account.column) :
    AccountMapper.toDto ⟨.on, cipher⟩ (transformAccountFields ⟨.on, cipher⟩ true account) =
      AccountMapper.toDto ⟨.off, cipher⟩ (account.plaintext cipher) ↔ Columns (Plain cipher) accountSensitiveFields account.column := by
  obtain ⟨hnodup, hsub⟩ := account_lists
  rw [← columns_read_iff hnodup hsub h]
  refine AccountMapper.toDto_eq_iff account (fun field hfield => ?_) (bank_accounts_read cipher account.bankAccounts)
  rw [transformFields_of_not_mem hnodup hsub hfield, plaintextColumns_of_not_mem hfield]

theorem account_twice_iff {account : Account} (h : Columns (Stored cipher) AccountMapper.encryptedFields account.column) :
    AccountMapper.toDto ⟨.on, cipher⟩ (transformAccountFields ⟨.on, cipher⟩ true (transformAccountFields ⟨.on, cipher⟩ true account)) =
      AccountMapper.toDto ⟨.on, cipher⟩ (transformAccountFields ⟨.on, cipher⟩ true account) ↔
      Columns (fun _ => False) accountSensitiveFields account.column := by
  obtain ⟨hnodup, hsub⟩ := account_lists
  rw [← columns_twice_iff hnodup hsub h]
  refine AccountMapper.toDto_eq_iff account (fun field hfield => ?_) rfl
  exact transformFields_of_not_mem hnodup hsub hfield

theorem address_read_iff {address : Address} (h : Columns (Stored cipher) addressEncrypted address.column) :
    AddressMapper.toDto ⟨.on, cipher⟩ (transformAddressFields ⟨.on, cipher⟩ true address) =
      AddressMapper.toDto ⟨.off, cipher⟩ (address.plaintext cipher) ↔ Columns (Plain cipher) addressSensitiveFields address.column := by
  obtain ⟨hnodup, hsub⟩ := address_lists
  rw [← columns_read_iff hnodup hsub h]
  refine AddressMapper.toDto_eq_iff address fun field hfield => ?_
  rw [transformFields_of_not_mem hnodup hsub hfield, plaintextColumns_of_not_mem hfield]

theorem address_twice_iff {address : Address} (h : Columns (Stored cipher) addressEncrypted address.column) :
    AddressMapper.toDto ⟨.on, cipher⟩ (transformAddressFields ⟨.on, cipher⟩ true (transformAddressFields ⟨.on, cipher⟩ true address)) =
      AddressMapper.toDto ⟨.on, cipher⟩ (transformAddressFields ⟨.on, cipher⟩ true address) ↔
      Columns (fun _ => False) addressSensitiveFields address.column := by
  obtain ⟨hnodup, hsub⟩ := address_lists
  rw [← columns_twice_iff hnodup hsub h]
  exact AddressMapper.toDto_eq_iff address fun field hfield => transformFields_of_not_mem hnodup hsub hfield

theorem invoice_address_read_iff {address : InvoiceAddress} (h : Columns (Stored cipher) addressEncrypted address.column) :
    InvoiceAddressMapper.toDto ⟨.on, cipher⟩ (transformInvoiceAddressFields ⟨.on, cipher⟩ true address) =
      InvoiceAddressMapper.toDto ⟨.off, cipher⟩ (address.plaintext cipher) ↔
      Columns (Plain cipher) addressSensitiveFields address.column := by
  obtain ⟨hnodup, hsub⟩ := address_lists
  rw [← columns_read_iff hnodup hsub h]
  refine InvoiceAddressMapper.toDto_eq_iff address fun field hfield => ?_
  rw [transformFields_of_not_mem hnodup hsub hfield, plaintextColumns_of_not_mem hfield]

theorem invoice_address_twice_iff {address : InvoiceAddress} (h : Columns (Stored cipher) addressEncrypted address.column) :
    InvoiceAddressMapper.toDto ⟨.on, cipher⟩
        (transformInvoiceAddressFields ⟨.on, cipher⟩ true (transformInvoiceAddressFields ⟨.on, cipher⟩ true address)) =
      InvoiceAddressMapper.toDto ⟨.on, cipher⟩ (transformInvoiceAddressFields ⟨.on, cipher⟩ true address) ↔
      Columns (fun _ => False) addressSensitiveFields address.column := by
  obtain ⟨hnodup, hsub⟩ := address_lists
  rw [← columns_twice_iff hnodup hsub h]
  exact InvoiceAddressMapper.toDto_eq_iff address fun field hfield => transformFields_of_not_mem hnodup hsub hfield

end Rows

/-! ## All rows -/

section All

variable {cipher : Cipher} {tables : Tables}

theorem all_stored {P : String → Prop} (h : tables.All P) :
    (∀ a ∈ tables.accounts, Columns P AccountMapper.encryptedFields a.column ∧ BankColumns P a.bankAccounts) ∧
    (∀ a ∈ tables.addresses, Columns P addressEncrypted a.column) ∧
    (∀ a ∈ tables.invoiceAccounts, Columns P snapshotEncrypted a.column ∧ BankColumns P a.bankAccounts) ∧
    ∀ a ∈ tables.invoiceAddresses, Columns P addressEncrypted a.column :=
  ⟨h.accounts, h.addresses, h.invoiceAccounts, h.invoiceAddresses⟩

theorem encrypted_read_iff (hstored : tables.All (Stored cipher)) :
    (tables.change ⟨.on, cipher⟩ true).read ⟨.on, cipher⟩ = (tables.plaintext cipher).read ⟨.off, cipher⟩ ↔
      tables.invoiceAccounts = [] ∧ tables.Listed (Plain cipher) := by
  obtain ⟨haccounts, haddresses, -, hinvoices⟩ := all_stored hstored
  simp only [Tables.read, Tables.change, Tables.plaintext, Reading.mk.injEq, List.map_map, List.map_inj_left, Function.comp_apply]
  constructor
  · rintro ⟨hread, hread_address, hsnapshots, hread_invoice⟩
    refine ⟨List.eq_nil_iff_forall_not_mem.mpr fun a ha => ?_, fun a ha => ?_, fun a ha => ?_, fun a ha => ?_⟩
    · -- its mapper throws
      have hthrows := hsnapshots a ha
      rw [InvoiceAccountMapper.toDto_on] at hthrows
      exact InvoiceAccountMapper.toDto_off_ne cipher _ _ hthrows.symm
    · exact (account_read_iff (haccounts a ha).1).mp (hread a ha)
    · exact (address_read_iff (haddresses a ha)).mp (hread_address a ha)
    · exact (invoice_address_read_iff (hinvoices a ha)).mp (hread_invoice a ha)
  · rintro ⟨hempty, hlisted⟩
    refine ⟨fun a ha => ?_, fun a ha => ?_, fun a ha => ?_, fun a ha => ?_⟩
    · exact (account_read_iff (haccounts a ha).1).mpr (hlisted.accounts a ha)
    · exact (address_read_iff (haddresses a ha)).mpr (hlisted.addresses a ha)
    · rw [hempty] at ha
      exact nomatch ha
    · exact (invoice_address_read_iff (hinvoices a ha)).mpr (hlisted.invoiceAddresses a ha)

theorem twice_read_iff (hstored : tables.All (Stored cipher)) :
    ((tables.change ⟨.on, cipher⟩ true).change ⟨.on, cipher⟩ true).read ⟨.on, cipher⟩ =
      (tables.change ⟨.on, cipher⟩ true).read ⟨.on, cipher⟩ ↔ tables.Listed fun _ => False := by
  obtain ⟨haccounts, haddresses, -, hinvoices⟩ := all_stored hstored
  simp only [Tables.read, Tables.change, Reading.mk.injEq, List.map_map, List.map_inj_left, Function.comp_apply]
  constructor
  · rintro ⟨hread, hread_address, -, hread_invoice⟩
    refine ⟨fun a ha => ?_, fun a ha => ?_, fun a ha => ?_⟩
    · exact (account_twice_iff (haccounts a ha).1).mp (hread a ha)
    · exact (address_twice_iff (haddresses a ha)).mp (hread_address a ha)
    · exact (invoice_address_twice_iff (hinvoices a ha)).mp (hread_invoice a ha)
  · intro hlisted
    refine ⟨fun a ha => ?_, fun a ha => ?_, fun a ha => ?_, fun a ha => ?_⟩
    · exact (account_twice_iff (haccounts a ha).1).mpr (hlisted.accounts a ha)
    · exact (address_twice_iff (haddresses a ha)).mpr (hlisted.addresses a ha)
    · rw [InvoiceAccountMapper.toDto_on, InvoiceAccountMapper.toDto_on]
    · exact (invoice_address_twice_iff (hinvoices a ha)).mpr (hlisted.invoiceAddresses a ha)

theorem forall_mem_map_iff {α β : Type} {f : α → β} {l : List α} {P : β → Prop} : (∀ b ∈ l.map f, P b) ↔ ∀ a ∈ l, P (f a) := by
  simp

theorem decrypted_plain_iff (config : Config) (henabled : config.enabled ≠ .off) (hstored : tables.All (Stored config.cipher)) :
    (tables.change config false).All (Plain config.cipher) ↔ tables.Unlisted (Plain config.cipher) := by
  obtain ⟨haccounts, haddresses, hsnapshots, hinvoices⟩ := all_stored hstored
  have haccount (a : Account) (ha : a ∈ tables.accounts) :=
    columns_decrypted_iff henabled account_lists.1 (haccounts a ha).1
  have haddress (a : Address) (ha : a ∈ tables.addresses) :=
    columns_decrypted_iff henabled address_lists.1 (haddresses a ha)
  have hsnapshot (a : InvoiceAccount) (ha : a ∈ tables.invoiceAccounts) :=
    columns_decrypted_iff henabled account_lists.1 (hsnapshots a ha).1
  have hinvoice (a : InvoiceAddress) (ha : a ∈ tables.invoiceAddresses) :=
    columns_decrypted_iff henabled address_lists.1 (hinvoices a ha)
  constructor
  · intro h
    obtain ⟨hplain, hplain_address, hplain_snapshot, hplain_invoice⟩ := all_stored h
    refine ⟨fun a ha => ?_, fun a ha => ?_, fun a ha => ?_, fun a ha => ?_⟩
    · obtain ⟨hcolumns, hbanks⟩ := hplain _ (List.mem_map_of_mem ha)
      exact ⟨(haccount a ha).mp hcolumns, hbanks⟩
    · exact (haddress a ha).mp (hplain_address _ (List.mem_map_of_mem ha))
    · obtain ⟨hcolumns, hbanks⟩ := hplain_snapshot _ (List.mem_map_of_mem ha)
      exact ⟨(hsnapshot a ha).mp hcolumns, hbanks⟩
    · exact (hinvoice a ha).mp (hplain_invoice _ (List.mem_map_of_mem ha))
  · intro h
    refine ⟨fun b hb => ?_, fun b hb => ?_, fun b hb => ?_, fun b hb => ?_⟩ <;> obtain ⟨a, ha, rfl⟩ := List.mem_map.mp hb
    · exact ⟨(haccount a ha).mpr (h.accounts a ha).1, (h.accounts a ha).2⟩
    · exact (haddress a ha).mpr (h.addresses a ha)
    · exact ⟨(hsnapshot a ha).mpr (h.invoiceAccounts a ha).1, (h.invoiceAccounts a ha).2⟩
    · exact (hinvoice a ha).mpr (h.invoiceAddresses a ha)

end All

/-- Encrypting shows readers the original values only where nothing that the lists name was encrypted before and no
account was snapshotted. A second run is seen wherever the lists name a column with a value. Decrypting leaves what the
lists lack. -/
theorem sensitive_data_iff (cipher : Cipher) (tables : Tables) (hstored : tables.All (Stored cipher)) :
    ∃ encrypted twice, changeAllSensitiveData ⟨.on, cipher⟩ false .encrypted tables = .ok encrypted ∧
      changeAllSensitiveData ⟨.on, cipher⟩ false .encrypted encrypted = .ok twice ∧
      (encrypted.read ⟨.on, cipher⟩ = (tables.plaintext cipher).read ⟨.off, cipher⟩ ↔
        tables.invoiceAccounts = [] ∧ tables.Listed (Plain cipher)) ∧
      (twice.read ⟨.on, cipher⟩ = encrypted.read ⟨.on, cipher⟩ ↔ tables.Listed fun _ => False) ∧
      ∀ enabled, enabled ≠ .off → ∃ decrypted, changeAllSensitiveData ⟨enabled, cipher⟩ false .decrypted tables = .ok decrypted ∧
        (decrypted.All (Plain cipher) ↔ tables.Unlisted (Plain cipher)) := by
  refine ⟨_, _, encrypted_eq cipher tables, encrypted_eq cipher _, encrypted_read_iff hstored, twice_read_iff hstored,
    fun enabled henabled => ?_⟩
  exact ⟨_, decrypted_eq ⟨enabled, cipher⟩ henabled tables, decrypted_plain_iff ⟨enabled, cipher⟩ henabled hstored⟩

/-- The identity and the telephone number are ciphertexts. -/
def storedAccount : Account where
  id := "account"
  type := .individual
  column := fun field => match field with
    | .name => some "Ada"
    | .legalIdentity => some (markingCipher.encrypt "12345678901")
    | .phone => some (markingCipher.encrypt "5550000")
    | _ => none

def storedTables : Tables := ⟨[storedAccount], [], [], []⟩

theorem stored_tables : storedTables.All (Stored markingCipher) := by
  refine ⟨fun a ha => ?_, fun _ ha => (nomatch ha), fun _ ha => (nomatch ha), fun _ ha => (nomatch ha)⟩
  obtain rfl := List.mem_singleton.mp ha
  refine ⟨fun field _ text htext => ?_, fun _ hlist => (nomatch hlist)⟩
  cases field <;> simp only [storedAccount, Option.mem_def, Option.some.injEq, reduceCtorEq] at htext <;> subst htext
  · exact .inl (plain_iff.mpr rfl)
  · exact .inr ⟨"5550000", plain_iff.mpr rfl, rfl⟩
  · exact .inr ⟨"12345678901", plain_iff.mpr rfl, rfl⟩

theorem sensitive_data_sample : ∃ encrypted twice,
    changeAllSensitiveData ⟨.on, markingCipher⟩ false .encrypted storedTables = .ok encrypted ∧
    changeAllSensitiveData ⟨.on, markingCipher⟩ false .encrypted encrypted = .ok twice ∧
    (encrypted.read ⟨.on, markingCipher⟩ = (storedTables.plaintext markingCipher).read ⟨.off, markingCipher⟩ ↔
      storedTables.invoiceAccounts = [] ∧ storedTables.Listed (Plain markingCipher)) := by
  obtain ⟨encrypted, twice, hencrypted, htwice, hread, -⟩ := sensitive_data_iff markingCipher storedTables stored_tables
  exact ⟨encrypted, twice, hencrypted, htwice, hread⟩

/-- The identity is encrypted twice, and the telephone number stays a ciphertext. -/
theorem stored_account_differs : ∃ encrypted twice decrypted,
    changeAllSensitiveData ⟨.on, markingCipher⟩ false .encrypted storedTables = .ok encrypted ∧
    changeAllSensitiveData ⟨.on, markingCipher⟩ false .encrypted encrypted = .ok twice ∧
    changeAllSensitiveData ⟨.on, markingCipher⟩ false .decrypted storedTables = .ok decrypted ∧
    encrypted.read ⟨.on, markingCipher⟩ ≠ (storedTables.plaintext markingCipher).read ⟨.off, markingCipher⟩ ∧
    twice.read ⟨.on, markingCipher⟩ ≠ encrypted.read ⟨.on, markingCipher⟩ ∧ ¬ decrypted.All (Plain markingCipher) := by
  have hmem : storedAccount ∈ storedTables.accounts := List.mem_singleton.mpr rfl
  refine ⟨_, _, _, encrypted_eq markingCipher storedTables, encrypted_eq markingCipher _,
    decrypted_eq ⟨.on, markingCipher⟩ (by simp) storedTables, ?_, ?_, ?_⟩
  · rw [ne_eq, encrypted_read_iff stored_tables]
    rintro ⟨-, hlisted⟩
    exact hlisted.accounts storedAccount hmem .legalIdentity (by decide) _ rfl "12345678901" rfl
  · rw [ne_eq, twice_read_iff stored_tables]
    intro hlisted
    exact hlisted.accounts storedAccount hmem .legalIdentity (by decide) _ rfl
  · intro hall
    have hunlisted := (decrypted_plain_iff ⟨.on, markingCipher⟩ (by simp) stored_tables).mp hall
    exact (hunlisted.accounts storedAccount hmem).1 .phone (by decide) _ rfl "5550000" rfl

end Postral.Accounts
