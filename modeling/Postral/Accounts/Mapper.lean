import Postral.Setup.Entity

/-!
# Accounts, addresses and their snapshots

The rows as they are stored, `CryptionUtil`, and the mappers that encrypt and decrypt columns.
-/

open Postral.Setup

namespace Postral.Accounts

/-! ## `CryptionUtil` -/

/-- `POSTRAL_SENSITIVE_DATA_ENCRYPTION_ENABLED`. -/
inductive Enabled where
  /-- `true`. -/
  | on
  | falseDecrypt
  | off
  deriving DecidableEq, Repr

def AccountType.text : AccountType → String
  | .individual => "INDIVIDUAL"
  | .commercial => "COMMERCIAL"

/-- The configured algorithm, key and vector. Decrypting what is not a ciphertext fails. -/
structure Cipher where
  encrypt : String → String
  decrypt : String → Option String
  decrypt_encrypt : ∀ text, decrypt (encrypt text) = some text
  decrypt_plain : ∀ text, (∀ plain, text ≠ encrypt plain) → decrypt text = none
  /-- Ciphertexts are hexadecimal. -/
  type_plain : ∀ (type : AccountType) (plain : String), AccountType.text type ≠ encrypt plain

structure Config where
  enabled : Enabled
  cipher : Cipher

def encryptWithConfig (config : Config) (text : Option String) : Option String :=
  if config.enabled ≠ .on then text else text.map config.cipher.encrypt

/-- With `"THROW"`. -/
def decryptWithConfig (config : Config) (encryptedText : Option String) : Except HttpError (Option String) :=
  if config.enabled = .off then .ok encryptedText
  else match encryptedText with
    | none => .ok none
    | some text =>
      match config.cipher.decrypt text with
      | some plain => .ok (some plain)
      | none => .error (.internal "Error decrypting data")

/-- With `"USE_DEFAULT"`: what cannot be decrypted is returned as it is. -/
def decryptOrDefault (config : Config) (encryptedText : Option String) : Option String :=
  match decryptWithConfig config encryptedText with
  | .ok plain => plain
  | .error _ => encryptedText

/-- `text || ""`. -/
def orEmpty (text : Option String) : Option String := some (text.getD "")

def encrypted (config : Config) (text : Option String) : Option String := orEmpty (encryptWithConfig config text)

def decrypted (config : Config) (text : Option String) : Option String := orEmpty (decryptOrDefault config text)

/-! ## Accounts -/

inductive BankAccountField where
  | bankName
  | currency
  | bankIban
  | bankBic
  | bankSwift
  deriving DecidableEq, Repr

/-- `BankAccount` and `SnapshotBankAccount`, and their DTOs. -/
structure BankAccount where
  id : Option String := none
  column : BankAccountField → Option String

/-- What every mapper encrypts and decrypts in a bank account. -/
def bankAccountEncrypted : List BankAccountField := [.bankIban, .bankBic, .bankSwift]

def BankAccount.mapEncrypted (f : Option String → Option String) (account : BankAccount) : BankAccount where
  id := account.id
  column := fun field => if field ∈ bankAccountEncrypted then f (account.column field) else account.column field

/-- The text columns of `Account` and `InvoiceAccount`. -/
inductive AccountField where
  | name
  | phone
  | website
  | contactName
  | legalIdentity
  | bankName
  | bankIban
  | bankBic
  | bankSwift
  | taxOffice
  | emailAddress
  | defaultAddressId
  | externalPlatformId
  | externalPlatformAccountId
  | realAccountId
  deriving DecidableEq, Repr

structure Account where
  id : String
  type : AccountType
  isExternal : Bool := false
  deactivated : Bool := false
  column : AccountField → Option String
  bankAccounts : Option (List BankAccount) := none

structure AccountDTO where
  id : Option String := none
  type : AccountType
  isExternal : Option Bool := none
  deactivated : Option Bool := none
  ownerUserId : Option String := none
  entityOwnershipGroupId : Option String := none
  text : AccountField → Option String
  bankAccounts : Option (List BankAccount) := none

namespace AccountMapper

/-- What `updateEntity` encrypts and `toDto` decrypts. -/
def encryptedFields : List AccountField :=
  [.legalIdentity, .contactName, .phone, .emailAddress, .bankIban, .bankBic, .taxOffice, .bankSwift]

def toDto (config : Config) (account : Account) : AccountDTO where
  id := some account.id
  type := account.type
  isExternal := some account.isExternal
  deactivated := some account.deactivated
  text := fun field =>
    if field ∈ encryptedFields then decrypted config (account.column field)
    else match field with
      | .website => orEmpty (account.column .website)
      | .realAccountId => none
      | field => account.column field
  bankAccounts := some ((account.bankAccounts.getD []).map (BankAccount.mapEncrypted (decrypted config)))

def updateEntity (config : Config) (entity : Account) (dto : AccountDTO) : Account where
  id := entity.id
  type := dto.type
  isExternal := dto.isExternal.getD entity.isExternal
  deactivated := entity.deactivated
  column := fun field => match field with
    -- the contact of a person is that person
    | .contactName => encrypted config (dto.text (if dto.type = .individual then .name else .contactName))
    | .realAccountId => entity.column .realAccountId
    | field => if field ∈ encryptedFields then encrypted config (dto.text field) else dto.text field
  bankAccounts := match dto.bankAccounts with
    | some accounts => some (accounts.map (BankAccount.mapEncrypted (encrypted config)))
    | none => entity.bankAccounts

end AccountMapper

/-- The snapshot of an account in a payment or an invoice. -/
structure InvoiceAccount where
  id : String
  type : AccountType
  column : AccountField → Option String
  bankAccounts : Option (List BankAccount) := none

structure SnapshotAccountDTO where
  id : Option String
  type : Option String
  text : AccountField → Option String
  bankAccounts : Option (List BankAccount)

namespace InvoiceAccountMapper

/-- What `toEntityFromNormalAccount` encrypts. -/
def gatedFields : List AccountField :=
  [.name, .legalIdentity, .bankIban, .bankBic, .bankSwift, .taxOffice, .website, .phone, .emailAddress]

/-- What `toEntity` encrypts. -/
def encryptedFields : List AccountField :=
  [.legalIdentity, .bankName, .bankIban, .bankBic, .bankSwift, .taxOffice, .emailAddress, .phone]

/-- From a DTO, whose texts pass the gate. -/
def toEntityFromNormalAccount (config : Config) (id : String) (account : AccountDTO) : InvoiceAccount where
  id := id
  type := account.type
  column := fun field =>
    if field ∈ gatedFields then encrypted config (account.text field)
    else match field with
      | .realAccountId => account.id
      | .bankName => account.text .bankName
      | _ => none
  bankAccounts := account.bankAccounts.map (List.map (BankAccount.mapEncrypted (encrypted config)))

def toDto (config : Config) (entity : InvoiceAccount) : Except HttpError SnapshotAccountDTO := do
  let type ← decryptWithConfig config (some (AccountType.text entity.type))
  return {
    id := some entity.id
    type := type
    text := fun field => match field with
      | .legalIdentity | .realAccountId | .taxOffice | .emailAddress | .phone => decrypted config (entity.column field)
      | .name | .bankName | .bankIban | .bankBic | .bankSwift => entity.column field
      | _ => none
    bankAccounts := some ((entity.bankAccounts.getD []).map (BankAccount.mapEncrypted (decrypted config))) }

def toEntity (config : Config) (id : String) (type : AccountType) (dto : SnapshotAccountDTO) : InvoiceAccount where
  id := dto.id.getD id
  type := type
  column := fun field =>
    if field ∈ encryptedFields then encrypted config (dto.text field)
    else match field with
      | .name | .realAccountId => dto.text field
      | _ => none
  bankAccounts := dto.bankAccounts.map (List.map (BankAccount.mapEncrypted (encrypted config)))

end InvoiceAccountMapper

/-! ## Addresses -/

/-- The text columns of `Address` and `InvoiceAddress`. -/
inductive AddressField where
  | name
  | buildingNumber
  | buildingName
  | room
  | floor
  | blockName
  | streetName
  | additionalStreetName
  | district
  | citySubdivisionName
  | cityName
  | postalZone
  | region
  | postbox
  | country
  | countryReadName
  | countrySubentity
  | countrySubentityCode
  | addressFormatCode
  | addressTypeCode
  | department
  | markAttention
  | markCare
  | plotIdentification
  | cityCode
  | inhaleName
  | timezone
  | externalPlatformId
  | externalPlatformAddressId
  | realAddressId
  deriving DecidableEq, Repr

/-- What both mappers encrypt and decrypt. -/
def addressEncrypted : List AddressField :=
  [.streetName, .buildingNumber, .cityName, .postalZone, .countrySubentity, .countrySubentityCode, .additionalStreetName,
    .district, .country, .countryReadName, .citySubdivisionName, .floor, .room, .postbox, .region, .blockName, .buildingName,
    .timezone, .plotIdentification, .markCare, .markAttention, .inhaleName, .addressFormatCode, .addressTypeCode, .cityCode,
    .department]

structure Address where
  id : String
  column : AddressField → Option String

structure AccountAddressDto where
  id : Option String := none
  entityOwnershipGroupId : Option String := none
  text : AddressField → Option String

namespace AddressMapper

def toDto (config : Config) (address : Address) : AccountAddressDto where
  id := some address.id
  text := fun field =>
    if field ∈ addressEncrypted then decrypted config (address.column field)
    else match field with
      | .realAddressId => none
      | field => address.column field

def updateEntity (config : Config) (entity : Address) (dto : AccountAddressDto) : Address where
  id := entity.id
  column := fun field =>
    if field ∈ addressEncrypted then encrypted config (dto.text field)
    else match field with
      | .realAddressId => entity.column .realAddressId
      | field => dto.text field

end AddressMapper

/-- The snapshot of an address in a payment or an invoice. -/
structure InvoiceAddress where
  id : String
  column : AddressField → Option String

structure SnapshotAddressDTO where
  id : Option String
  text : AddressField → Option String

namespace InvoiceAddressMapper

/-- The columns of a row or of a DTO are copied as they are. -/
def toEntityFromAccountAddress (id : String) (acad : AddressField → Option String) : InvoiceAddress where
  id := id
  column := fun field => if field = .name ∨ field ∈ addressEncrypted then acad field else none

def toDto (config : Config) (entity : InvoiceAddress) : SnapshotAddressDTO where
  id := some entity.id
  text := fun field =>
    if field ∈ addressEncrypted then decrypted config (entity.column field)
    else if field = .name then entity.column .name else none

def toEntity (config : Config) (id : String) (dto : SnapshotAddressDTO) : InvoiceAddress where
  id := dto.id.getD id
  column := fun field =>
    if field ∈ addressEncrypted then encrypted config (dto.text field)
    else if field = .name then dto.text .name else none

end InvoiceAddressMapper

/-! ## Plaintexts -/

section Plain

variable {cipher : Cipher} {text plain : String}

/-- Not a ciphertext. -/
def Plain (cipher : Cipher) (text : String) : Prop := ∀ plain, text ≠ cipher.encrypt plain

/-- Stored as plaintext or as its ciphertext. -/
def Stored (cipher : Cipher) (text : String) : Prop := Plain cipher text ∨ ∃ plain, Plain cipher plain ∧ text = cipher.encrypt plain

/-- The plaintext of what is stored. -/
def plainText (cipher : Cipher) (text : String) : String := (cipher.decrypt text).getD text

theorem encrypt_injective (cipher : Cipher) : Function.Injective cipher.encrypt := by
  intro a b h
  have hdecrypt := cipher.decrypt_encrypt a
  rw [h, cipher.decrypt_encrypt] at hdecrypt
  exact (Option.some.inj hdecrypt).symm

theorem plain_iff : Plain cipher text ↔ cipher.decrypt text = none := by
  constructor
  · exact cipher.decrypt_plain text
  · rintro h plain rfl
    rw [cipher.decrypt_encrypt] at h
    exact nomatch h

theorem not_plain_encrypt (cipher : Cipher) (text : String) : ¬ Plain cipher (cipher.encrypt text) := fun h => h text rfl

theorem plainText_of_plain (h : Plain cipher text) : plainText cipher text = text := by
  unfold plainText
  rw [plain_iff.mp h]
  rfl

@[simp]
theorem plainText_encrypt (cipher : Cipher) (text : String) : plainText cipher (cipher.encrypt text) = text := by
  unfold plainText
  rw [cipher.decrypt_encrypt]
  rfl

theorem Stored.plain_plainText (h : Stored cipher text) : Plain cipher (plainText cipher text) := by
  rcases h with h | ⟨plain, hplain, rfl⟩
  · rw [plainText_of_plain h]
    exact h
  · rw [plainText_encrypt]
    exact hplain

theorem Stored.eq_plainText_iff (h : Stored cipher text) : text = plainText cipher text ↔ Plain cipher text := by
  constructor
  · intro heq
    rw [heq]
    exact h.plain_plainText
  · intro hplain
    exact (plainText_of_plain hplain).symm

/-- One encryption more is not what was stored. -/
theorem Stored.encrypt_ne (h : Stored cipher text) : cipher.encrypt text ≠ text := by
  intro heq
  have hplain := h.plain_plainText
  rw [← heq, plainText_encrypt] at hplain
  rw [← heq] at hplain
  exact not_plain_encrypt cipher text hplain

/-- Unless decryption is off, a column is read as its plaintext. -/
theorem decryptOrDefault_eq {config : Config} (h : config.enabled ≠ .off) (text : Option String) :
    decryptOrDefault config text = text.map (plainText config.cipher) := by
  unfold decryptOrDefault decryptWithConfig
  rw [if_neg h]
  cases text with
  | none => rfl
  | some text =>
    unfold plainText
    cases hdecrypt : config.cipher.decrypt text <;> simp [hdecrypt]

theorem decryptOrDefault_off (cipher : Cipher) (text : Option String) : decryptOrDefault ⟨.off, cipher⟩ text = text := rfl

theorem orEmpty_map_eq_iff {f g : String → String} {text : Option String} :
    orEmpty (text.map f) = orEmpty (text.map g) ↔ ∀ t ∈ text, f t = g t := by
  cases text <;> simp [orEmpty]

end Plain

/-- Marks a text instead of encrypting it. -/
def markingCipher : Cipher where
  encrypt text := "0" ++ text
  decrypt text := match text.toList with
    | '0' :: rest => some (String.ofList rest)
    | _ => none
  decrypt_encrypt text := by
    rw [String.toList_append]
    exact congrArg some String.ofList_toList
  decrypt_plain text h := by
    split
    · rename_i rest heq
      apply absurd _ (h (String.ofList rest))
      rw [← String.toList_inj, heq]
      simp
    · rfl
  type_plain type plain h := by
    have hlist := congrArg String.toList h
    rw [String.toList_append] at hlist
    cases type <;> exact absurd (List.cons.inj hlist).1 (by decide)

end Postral.Accounts
