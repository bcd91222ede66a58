import Postral.Reports.SellerJournal

/-!
# The expenses of a seller's report

Commissions and fees raise the total and the rows that split it. The total is rounded like the fee as
long as no half lies on the other side of zero, and the channels as long as their errors stay within
half a unit.
-/

open Check Session Run Rounding

namespace Postral.Reports

/-! ## The rows of an account -/

/-- The commission of an item that was digested without a class. -/
structure UnclassedComission where
  reportId : String
  accountId : String
  /-- `none` is the own shop. -/
  platform : Option String
  amount : ℤ
  deriving DecidableEq

namespace UnclassedComission

def key (c : UnclassedComission) : String × String := (c.reportId, c.accountId)

end UnclassedComission

def unclassedOf (unclassed : List UnclassedComission) (reportId accountId : String) (platform : Option String) : ℤ :=
  (((entriesOf UnclassedComission.key unclassed reportId accountId).filter fun c => c.platform = platform).map (·.amount)).sum

/-- The rows of an account split each other. -/
structure BreaksDown (db : Db) (unclassed : List UnclassedComission) (reportId accountId : String) : Prop where
  total : storedAmount db reportId accountId reportTotal =
    storedAmount db reportId accountId platformComissionTotal + rowsSum db reportId accountId isExternalComission +
      storedAmount db reportId accountId paymentServiceFee
  channels : rowsSum db reportId accountId isChannelFee = storedAmount db reportId accountId paymentServiceFee
  classes : ∀ platform, rowsSum db reportId accountId (isItemClassOf platform) +
    unclassedOf unclassed reportId accountId platform = storedAmount db reportId accountId (comissionKey platform)

/-- Fees are never paid back. -/
structure SellerRows (db : Db) (unclassed : List UnclassedComission) (reportId accountId : String) : Prop
    extends BreaksDown db unclassed reportId accountId where
  serviceFee : 0 ≤ storedAmount db reportId accountId paymentServiceFee
  channelFees : ∀ k, isChannelFee k = true → 0 ≤ storedAmount db reportId accountId k

section Unclassed

/-- The commissions of some items. -/
def unclassedItems (reportId accountId : String) (platform : Option String) (type : PaymentType) (items : List PaymentItem) :
    List UnclassedComission :=
  (items.filter fun item => item.itemClass = "").map fun item =>
    ⟨reportId, accountId, platform, signed type item.appComissionAmount⟩

theorem key_unclassedItems {reportId accountId : String} {platform : Option String} {type : PaymentType}
    {items : List PaymentItem} {c : UnclassedComission} (h : c ∈ unclassedItems reportId accountId platform type items) :
    c.key = (reportId, accountId) := by
  obtain ⟨item, -, rfl⟩ := List.mem_map.mp h
  rfl

theorem unclassedOf_append_items (unclassed : List UnclassedComission) (reportId accountId : String)
    (platform platform' : Option String) (type : PaymentType) (items : List PaymentItem) :
    unclassedOf (unclassed ++ unclassedItems reportId accountId platform type items) reportId accountId platform' =
      unclassedOf unclassed reportId accountId platform' + if platform = platform' then unclassedSum type items else 0 := by
  unfold unclassedOf entriesOf
  rw [List.filter_append, List.filter_append, List.map_append, List.sum_append]
  congr 1
  unfold unclassedItems unclassedSum
  rw [← sum_signed, List.filter_map, List.filter_map, List.map_map]
  by_cases hsame : platform = platform' <;> simp [hsame, Function.comp_def, UnclassedComission.key]

end Unclassed

section Rows

variable {db db₁ db₂ : Db} {unclassed : List UnclassedComission} {reportId accountId : String}

/-- An account whose rows and commissions stay. -/
theorem SellerRows.frame {unclassed' : List UnclassedComission} (h : SellerRows db unclassed reportId accountId)
    (hrows : ∀ k, db₁.expenses.find (reportId, accountId, k) = db.expenses.find (reportId, accountId, k))
    (hentries : entriesOf UnclassedComission.key unclassed' reportId accountId =
      entriesOf UnclassedComission.key unclassed reportId accountId) : SellerRows db₁ unclassed' reportId accountId := by
  have hamount : ∀ k, storedAmount db₁ reportId accountId k = storedAmount db reportId accountId k := by
    intro k
    unfold storedAmount Table.value
    rw [hrows k]
  have hunclassed : ∀ platform, unclassedOf unclassed' reportId accountId platform =
      unclassedOf unclassed reportId accountId platform := by
    intro platform
    unfold unclassedOf
    rw [hentries]
  have hsum := rows_sum_kept hrows
  refine ⟨⟨?_, ?_, fun platform => ?_⟩, ?_, fun k hk => ?_⟩
  · rw [hamount, hamount, hamount, hsum, h.total]
  · rw [hsum, hamount, h.channels]
  · rw [hsum, hamount, hunclassed, h.classes]
  · rw [hamount]
    exact h.serviceFee
  · rw [hamount]
    exact h.channelFees k hk

def sellerRows : SellerProperty UnclassedComission.key where
  holds := SellerRows
  frame hrows hentries h := h.frame hrows hentries
  blank _ _ := ⟨⟨rfl, rfl, fun _ => rfl⟩, le_rfl, fun _ _ => le_rfl⟩

/-- The fees that the total and the channels round like the service fee. -/
structure FeesSplit (total : ℤ) (fees : List ProviderFee) : Prop where
  total : RoundsAlike (feeTotal fees) total
  channels : StaysWithinHalf ((channelSums fees).map (· * 10000))

instance (total : ℤ) (fees : List ProviderFee) : Decidable (FeesSplit total fees) :=
  decidable_of_iff _ ⟨fun h => ⟨h.1, h.2⟩, fun h => And.intro h.total h.channels⟩

/-- The channels' rows grow by what the service fee grows by, exactly when their errors stay within half a unit. -/
theorem channel_growth_iff (fees : List ProviderFee) :
    ((channelSums fees).map toColumn).sum = toColumn (feeTotal fees) ↔ StaysWithinHalf ((channelSums fees).map (· * 10000)) := by
  rw [← sum_roundAway_eq_iff, List.map_map, List.sum_map_mul_right, List.map_id', sum_channelSums]
  rfl

/-- A commission and fees, one after the other. -/
theorem SellerRows.digested {platform : Option String} {type : PaymentType} {items : List PaymentItem} {fees : List ProviderFee}
    (h : SellerRows db unclassed reportId accountId)
    (hcomission : Raised db db₁ reportId accountId
      (comissionAdded reportId accountId (platform.map encodeURIComponent) type items))
    (hfees : Raised db₁ db₂ reportId accountId (feeAdded reportId accountId fees))
    (hsplit : FeesSplit (storedAmount db reportId accountId reportTotal + signed type (comissionOf items)) fees) :
    SellerRows db₂ (unclassed ++ unclassedItems reportId accountId platform type items) reportId accountId := by
  have hgrowth := hcomission.comission_sum
  have hamount₁ : ∀ k, storedAmount db₁ reportId accountId k =
      storedAmount db reportId accountId k + comissionGrowth platform type items (fun x => x = k) := by
    intro k
    rw [← rows_sum_key, ← rows_sum_key, hgrowth]
  -- the commission
  have htotal₁ : storedAmount db₁ reportId accountId reportTotal =
      storedAmount db reportId accountId reportTotal + signed type (comissionOf items) := by
    rw [hamount₁, comission_growth_reportTotal]
  have hservice₁ : storedAmount db₁ reportId accountId paymentServiceFee = storedAmount db reportId accountId paymentServiceFee := by
    rw [hamount₁, comission_growth_paymentServiceFee, add_zero]
  have hchannel₁ : ∀ k, isChannelFee k = true → storedAmount db₁ reportId accountId k = storedAmount db reportId accountId k := by
    intro k hk
    rw [hamount₁, comission_growth_channel, add_zero]
    intro k' hk'
    rwa [of_decide_eq_true hk']
  -- the fees
  have htotal : storedAmount db₂ reportId accountId reportTotal =
      storedAmount db₁ reportId accountId reportTotal + toColumn (feeTotal fees) := by
    rw [hfees.amounts, fee_added_tracked _ _ _ (Or.inr (decide_eq_true rfl)), if_pos (Or.inr rfl), grown_by_eq]
    rw [htotal₁]
    exact hsplit.total
  have hservice : storedAmount db₂ reportId accountId paymentServiceFee =
      storedAmount db₁ reportId accountId paymentServiceFee + toColumn (feeTotal fees) := by
    rw [hfees.amounts, fee_added_tracked _ _ _ (Or.inl (by decide)), if_pos (Or.inl rfl), grown_by_eq]
    rw [hservice₁]
    exact rounds_alike_of_nonneg (feeTotal_nonneg _) h.serviceFee
  have hchannels : rowsSum db₂ reportId accountId isChannelFee =
      rowsSum db₁ reportId accountId isChannelFee + toColumn (feeTotal fees) := by
    rw [hfees.channels_sum fun k hk => hchannel₁ k hk ▸ h.channelFees k hk, (channel_growth_iff fees).mpr hsplit.channels]
  have hcomissions : ∀ platform', storedAmount db₂ reportId accountId (comissionKey platform') =
      storedAmount db₁ reportId accountId (comissionKey platform') := by
    intro platform'
    rw [← rows_sum_key, ← rows_sum_key]
    apply hfees.fees_kept
    · exact decide_eq_false (ne_of_keyHead (by rw [keyHead_comissionKey, keyHead_paymentServiceFee]; split <;> decide))
    · intro channel
      exact decide_eq_false (ne_of_keyHead (by rw [keyHead_comissionKey, keyHead_channelFeeKey]; split <;> decide))
    · exact decide_eq_false (ne_of_keyHead (by rw [keyHead_comissionKey, keyHead_reportTotal]; split <;> decide))
  have hexternal : rowsSum db₂ reportId accountId isExternalComission = rowsSum db₁ reportId accountId isExternalComission := by
    apply hfees.fees_kept
    · exact isExternalComission_of_keyHead (by decide)
    · intro channel
      apply isExternalComission_of_keyHead
      rw [keyHead_channelFeeKey]
      decide
    · exact isExternalComission_of_keyHead (by decide)
  have hclasses : ∀ platform', rowsSum db₂ reportId accountId (isItemClassOf platform') =
      rowsSum db₁ reportId accountId (isItemClassOf platform') := by
    intro platform'
    apply hfees.fees_kept
    · exact isItemClassOf_of_keyHead _ (by decide) (by decide)
    · intro channel
      apply isItemClassOf_of_keyHead <;> rw [keyHead_channelFeeKey] <;> decide
    · exact isItemClassOf_of_keyHead _ (by decide) (by decide)
  refine ⟨⟨?_, ?_, fun platform' => ?_⟩, ?_, fun k hk => ?_⟩
  · have hown : storedAmount db₂ reportId accountId platformComissionTotal =
        storedAmount db reportId accountId platformComissionTotal + if platform = none then signed type (comissionOf items) else 0 :=
      (hcomissions none).trans ((hamount₁ _).trans (by rw [comission_growth_comissionKey]; rfl))
    have hold := h.total
    rw [hown, htotal, htotal₁, hservice, hservice₁, hexternal, hgrowth, comission_growth_isExternalComission, hold]
    split <;> ring
  · rw [hchannels, hservice, hservice₁, hgrowth, comission_growth_channel fun _ hk => hk, add_zero, h.channels]
  · rw [hclasses, hcomissions, hgrowth, hamount₁, unclassedOf_append_items,
      comission_growth_comissionKey, ← h.classes platform', ← comission_growth_isItemClassOf]
    ring
  · rw [hservice, hservice₁]
    exact add_nonneg h.serviceFee (toColumn_nonneg (feeTotal_nonneg _))
  · have hgrown := grown_by_eq (rounds_alike_of_nonneg (fee_added_nonneg reportId accountId fees k)
      (hchannel₁ k hk ▸ h.channelFees k hk))
    rw [hfees.amounts, hgrown, hchannel₁ k hk]
    exact add_nonneg (h.channelFees k hk) (toColumn_nonneg (fee_added_nonneg _ _ _ _))

end Rows

/-! ## Runs -/

/-- The commissions without a class that a payment brings to the report of `owner`. -/
def unclassedOfPayment : Brings UnclassedComission := fun before _ r payment owner =>
  unclassedItems r.id owner (platformKeyOf before payment) payment.type (itemsOf payment (some owner))

/-- The seller's fees fit the total that the commission leaves. -/
def SellerFeesFit (db : Db) (r : Report ℤ) (payment : Payment) (owner : String) : Prop :=
  FeesSplit (storedAmount db r.id owner reportTotal + signed payment.type (comissionOf (itemsOf payment (some owner))))
    (chargedFees db payment owner)

instance (db : Db) (r : Report ℤ) (payment : Payment) (owner : String) : Decidable (SellerFeesFit db r payment owner) := by
  unfold SellerFeesFit
  infer_instance

theorem seller_rows_kept (env : Env) : SellerKeeps env sellerRows unclassedOfPayment SellerFeesFit where
  own _ _ _ _ _ _ he := key_unclassedItems he
  digested htype hfits h hdigest after hexpenses := by
    obtain ⟨db₁, hcomission, db₂, hfees, ht⟩ := seller_digested htype hdigest
    exact (SellerRows.digested h hcomission hfees hfits).frame (fun k => by rw [hexpenses, ht]) rfl

def sharedItems : Table PaymentItem.id :=
  Table.empty.saveAll [
    { sampleItem "line-1" "book" 1000000 0 0 with appComissionAmount := 100000, itemClass := "BOOK" },
    { sampleItem "line-2" "lamp" 1000000 0 0 with sellerAccountId := some "other" }]

def sharedCapture (id paymentChannelId : String) (providerFee : ℤ) : PaymentChannelOperation :=
  { id := id, paymentChannelId := paymentChannelId, amount := 1000000, currency := "TRY", paymentId := "sale",
    providerFee := providerFee, providerFeeDebitFrom := .seller }

def sharedActions (providerFee : ℤ) : List DigestionAction :=
  [.environment { Db.empty with
      queries := Table.empty.save ⟨"query", some "seller", some "TRY", .daily, .seller⟩
      payments := Table.empty.save (samplePayment "sale" .purchase sharedItems)
      operations := Table.empty.saveAll [sharedCapture "card" "pos" providerFee, sharedCapture "transfer" "bank" providerFee]
      orders := Table.empty.saveAll [⟨"sale", "seller", 1000000⟩, ⟨"sale", "other", 1000000⟩] },
    .findOrCreate ⟨"query", some "seller", some "TRY", .daily, .seller⟩ "2026-01-05" "TRY" "report",
    .digest ⟨"report", "sale", some "seller", .digesting, "run"⟩]

end Postral.Reports
