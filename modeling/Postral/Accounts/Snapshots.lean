import Postral.Accounts.Migration

/-! # Reading a snapshot back -/

namespace Postral.Accounts

variable {cipher : Cipher}

/-! ## Accounts -/

/-- The texts of a snapshot that its DTO has. -/
def snapshotTexts : List AccountField :=
  [.name, .legalIdentity, .taxOffice, .phone, .emailAddress, .bankName, .bankIban, .bankBic, .bankSwift]

/-- The snapshot tells of the account what its DTO tells. Absent texts are empty. -/
structure ReadsBack (dto : AccountDTO) (snapshot : SnapshotAccountDTO) : Prop where
  type : snapshot.type = some (AccountType.text dto.type)
  realAccountId : orEmpty (snapshot.text .realAccountId) = orEmpty dto.id
  texts : ∀ field ∈ snapshotTexts, orEmpty (snapshot.text field) = orEmpty (dto.text field)
  bankAccounts : (snapshot.bankAccounts.getD []).map (fun account => orEmpty ∘ account.column) =
    (dto.bankAccounts.getD []).map (fun account => orEmpty ∘ account.column)

/-- `toDto` of `toEntityFromNormalAccount(dto, true)` returns what the DTO has. -/
def SnapshotReadsBack (config : Config) (id : String) (dto : AccountDTO) : Prop :=
  ∃ snapshot, InvoiceAccountMapper.toDto config (InvoiceAccountMapper.toEntityFromNormalAccount config id dto) = .ok snapshot ∧
    ReadsBack dto snapshot

/-- The type is stored as it is and decrypted with `"THROW"`. -/
theorem snapshot_never_reads_back (cipher : Cipher) (id : String) (dto : AccountDTO) :
    ¬ SnapshotReadsBack ⟨.on, cipher⟩ id dto := by
  rintro ⟨snapshot, h, -⟩
  rw [InvoiceAccountMapper.toDto_on] at h
  exact nomatch h

/-- The account of a company without any text. -/
def bareAccount : AccountDTO where
  type := .commercial
  text _ := none

theorem bare_snapshot_unreadable :
    ¬ ∀ (cipher : Cipher) (id : String) (dto : AccountDTO), SnapshotReadsBack ⟨.on, cipher⟩ id dto := by
  intro h
  obtain ⟨snapshot, hread, -⟩ := h markingCipher "snapshot" bareAccount
  have hthrow : InvoiceAccountMapper.toDto ⟨.on, markingCipher⟩
      (InvoiceAccountMapper.toEntityFromNormalAccount ⟨.on, markingCipher⟩ "snapshot" bareAccount) =
      .error (.internal "Error decrypting data") := rfl
  rw [hthrow] at hread
  exact nomatch hread

/-! ## Addresses -/

/-- Nothing, or a ciphertext. -/
def Sealed (cipher : Cipher) (column : Option String) : Prop := ∀ text ∈ column, text ≠ "" → ∃ plain, text = cipher.encrypt plain

theorem sealed_orEmpty {column : Option String} : Sealed cipher (orEmpty column) ↔ Sealed cipher column := by
  cases column <;> simp [Sealed, orEmpty]

theorem sealed_encrypted (cipher : Cipher) (text : Option String) : Sealed cipher (encrypted ⟨.on, cipher⟩ text) := by
  unfold encrypted
  rw [sealed_orEmpty]
  intro sealed hsealed _
  unfold encryptWithConfig at hsealed
  simp only [ne_eq, not_true_eq_false, if_false, Option.mem_def, Option.map_eq_some_iff] at hsealed
  obtain ⟨plain, -, rfl⟩ := hsealed
  exact ⟨plain, rfl⟩

/-- The sensitive columns are sealed. -/
def AddressSealed (cipher : Cipher) (column : AddressField → Option String) : Prop :=
  ∀ field ∈ addressEncrypted, Sealed cipher (column field)

/-- The sensitive columns are still sealed when they are read. -/
def ReadsSealed (cipher : Cipher) (address : Address) : Prop :=
  AddressSealed cipher fun field => (address.column field).map (plainText cipher)

theorem address_sealed_snapshot (id : String) {column : AddressField → Option String} :
    AddressSealed cipher (InvoiceAddressMapper.toEntityFromAccountAddress id column).column ↔ AddressSealed cipher column := by
  unfold AddressSealed InvoiceAddressMapper.toEntityFromAccountAddress
  refine forall₂_congr fun field hfield => ?_
  simp only [hfield, or_true, if_true]

/-- The address of a DTO is sealed only where the row was encrypted twice. -/
theorem address_sealed_toDto {address : Address} :
    AddressSealed cipher (AddressMapper.toDto ⟨.on, cipher⟩ address).text ↔ ReadsSealed cipher address := by
  unfold ReadsSealed AddressSealed AddressMapper.toDto
  refine forall₂_congr fun field hfield => ?_
  simp only [hfield, if_true, decrypted, sealed_orEmpty]
  rw [decryptOrDefault_eq (by simp)]

theorem address_sealed_updateEntity (cipher : Cipher) (entity : Address) (dto : AccountAddressDto) :
    AddressSealed cipher (AddressMapper.updateEntity ⟨.on, cipher⟩ entity dto).column := by
  intro field hfield
  simp only [AddressMapper.updateEntity, hfield, if_true]
  exact sealed_encrypted cipher (dto.text field)

end Postral.Accounts
