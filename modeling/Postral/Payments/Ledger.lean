import Postral.Payments.Calculation
import Postral.Refund.Payment

/-!
# The ledger of a payment (`AccountPaymentTransactionService.fromPayment`)

The customer's entry carries the totals of the payment. Each seller's entry adds up its lines.
-/

open Check Rounding

namespace Postral

def customerRotation : PaymentType → TransactionType
  | .purchase => .debit
  | .refund => .credit

def sellerRotation : PaymentType → TransactionType
  | .purchase => .credit
  | .refund => .debit

/-- `paymentReal.type.toLowerCase()`. -/
def PaymentType.toLowerCase : PaymentType → String
  | .purchase => "purchase"
  | .refund => "refund"

section FromPayment

-- The name of an account is the empty string when the relation is missing.
variable (accountName : Option String → String) (corelationId : String) (paymentReal : Payment)

def sellerTransaction (paymentItem : PaymentItem) : AccountPaymentTransaction where
  corelationId := corelationId
  accountId := paymentItem.sellerAccountId.getD ""
  accountName := accountName paymentItem.sellerAccountId
  paymentId := paymentReal.id
  type := sellerRotation paymentReal.type
  status := paymentReal.paymentStatus
  amount := paymentItem.totalAmount
  taxAmount := paymentItem.taxAmount
  description := s!"Payment {paymentReal.type.toLowerCase} for payment id {paymentReal.id}. " ++
    s!"Customer: {accountName paymentReal.customerAccountId}"

/-- One item of the loop over `transactionPerSellerAccountMap`. -/
def addToSeller (sellers : List (Option String × AccountPaymentTransaction)) (paymentItem : PaymentItem) :
    List (Option String × AccountPaymentTransaction) :=
  match sellers with
  | [] => [(paymentItem.sellerAccountId, sellerTransaction accountName corelationId paymentReal paymentItem)]
  | (seller, transaction) :: rest =>
    if seller = paymentItem.sellerAccountId then
      (seller, { transaction with
        amount := addNumberValues [transaction.amount, paymentItem.totalAmount]
        taxAmount := addNumberValues [transaction.taxAmount, paymentItem.taxAmount] }) :: rest
    else (seller, transaction) :: addToSeller rest paymentItem

def sellerTransactions : List AccountPaymentTransaction :=
  (paymentReal.items.rows.foldl (addToSeller accountName corelationId paymentReal) []).map (·.2)

def customerTransaction (sellers : List AccountPaymentTransaction) : AccountPaymentTransaction where
  corelationId := corelationId
  accountId := paymentReal.customerAccountId.getD ""
  accountName := accountName paymentReal.customerAccountId
  paymentId := paymentReal.id
  type := customerRotation paymentReal.type
  status := paymentReal.paymentStatus
  amount := paymentReal.totalAmount
  taxAmount := paymentReal.taxAmount
  description := s!"Payment {paymentReal.type.toLowerCase} for payment id {paymentReal.id}. " ++
    "Sellers: " ++ ", ".intercalate (uniqueValues (sellers.map (·.accountName)))

def fromPayment : List AccountPaymentTransaction :=
  let sellers := sellerTransactions accountName corelationId paymentReal
  sellers ++ [customerTransaction accountName corelationId paymentReal sellers]

end FromPayment

/-! ## Two sides -/

/-- The sum over the entries of one side. -/
def sideTotal (side : TransactionType) (value : AccountPaymentTransaction → ℤ)
    (entries : List AccountPaymentTransaction) : ℤ := ((entries.filter fun entry => entry.type = side).map value).sum

/-- Debits equal credits, in the amounts and in the taxes. -/
def Balanced (entries : List AccountPaymentTransaction) : Prop :=
  sideTotal .debit (·.amount) entries = sideTotal .credit (·.amount) entries ∧
  sideTotal .debit (·.taxAmount) entries = sideTotal .credit (·.taxAmount) entries

instance (entries : List AccountPaymentTransaction) : Decidable (Balanced entries) := by
  unfold Balanced
  infer_instance

section Specifications

variable {accountName : Option String → String} {corelationId : String} {p : Payment}

variable (accountName corelationId p) in
/-- What an item adds to the sellers' side. -/
theorem add_to_seller_spec (sellers : List (Option String × AccountPaymentTransaction)) (item : PaymentItem) :
    let sellers' := addToSeller accountName corelationId p sellers item
    ((sellers'.map (·.2)).map (·.amount)).sum = ((sellers.map (·.2)).map (·.amount)).sum + item.totalAmount ∧
    ((sellers'.map (·.2)).map (·.taxAmount)).sum =
      ((sellers.map (·.2)).map (·.taxAmount)).sum + item.taxAmount ∧
    ((∀ entry ∈ sellers.map (·.2), entry.type = sellerRotation p.type) →
      ∀ entry ∈ sellers'.map (·.2), entry.type = sellerRotation p.type) := by
  induction sellers with
  | nil => simp [addToSeller, sellerTransaction]
  | cons head rest ih =>
    obtain ⟨seller, transaction⟩ := head
    obtain ⟨hamount, htax, htype⟩ := ih
    unfold addToSeller
    split
    · simp only [List.map_cons, List.sum_cons, addNumberValues_eq_sum, List.sum_nil, add_zero,
        List.forall_mem_cons]
      exact ⟨by ring, by ring, id⟩
    · simp only [List.map_cons, List.sum_cons, hamount, htax, List.forall_mem_cons]
      exact ⟨by ring, by ring, fun h => ⟨h.1, htype h.2⟩⟩

theorem add_to_seller_paymentId {sellers : List (Option String × AccountPaymentTransaction)} {item : PaymentItem}
    (h : ∀ entry ∈ sellers, entry.2.paymentId = p.id) :
    ∀ entry ∈ addToSeller accountName corelationId p sellers item, entry.2.paymentId = p.id := by
  induction sellers with
  | nil => simp [addToSeller, sellerTransaction]
  | cons head rest ih =>
    obtain ⟨seller, transaction⟩ := head
    rw [List.forall_mem_cons] at h
    unfold addToSeller
    split
    · exact List.forall_mem_cons.mpr ⟨h.1, h.2⟩
    · exact List.forall_mem_cons.mpr ⟨h.1, ih h.2⟩

theorem from_payment_paymentId {entry : AccountPaymentTransaction}
    (h : entry ∈ fromPayment accountName corelationId p) : entry.paymentId = p.id := by
  rcases List.mem_append.mp h with hseller | hcustomer
  · obtain ⟨pair, hpair, rfl⟩ := List.mem_map.mp hseller
    refine List.foldlRecOn (motive := fun sellers => ∀ entry ∈ sellers, entry.2.paymentId = p.id) p.items.rows _ ?_ ?_
      pair hpair
    · simp
    · exact fun sellers hsellers item _ => add_to_seller_paymentId hsellers
  · rw [List.mem_singleton.mp hcustomer]
    rfl

variable (accountName corelationId p) in
theorem seller_transactions_spec :
    let sellers := sellerTransactions accountName corelationId p
    (sellers.map (·.amount)).sum = (p.items.rows.map (·.totalAmount)).sum ∧
    (sellers.map (·.taxAmount)).sum = (p.items.rows.map (·.taxAmount)).sum ∧
    ∀ entry ∈ sellers, entry.type = sellerRotation p.type := by
  have hfold : ∀ (items : List PaymentItem) (sellers : List (Option String × AccountPaymentTransaction)),
      (∀ entry ∈ sellers.map (·.2), entry.type = sellerRotation p.type) →
      let sellers' := items.foldl (addToSeller accountName corelationId p) sellers
      ((sellers'.map (·.2)).map (·.amount)).sum =
        ((sellers.map (·.2)).map (·.amount)).sum + (items.map (·.totalAmount)).sum ∧
      ((sellers'.map (·.2)).map (·.taxAmount)).sum =
        ((sellers.map (·.2)).map (·.taxAmount)).sum + (items.map (·.taxAmount)).sum ∧
      ∀ entry ∈ sellers'.map (·.2), entry.type = sellerRotation p.type := by
    intro items
    induction items with
    | nil => exact fun sellers hsellers => ⟨by simp, by simp, hsellers⟩
    | cons item items ih =>
      intro sellers hsellers
      obtain ⟨hamount, htax, htype⟩ := add_to_seller_spec accountName corelationId p sellers item
      obtain ⟨hamount', htax', htype'⟩ := ih _ (htype hsellers)
      refine ⟨?_, ?_, htype'⟩
      · rw [List.foldl_cons, hamount', hamount, List.map_cons, List.sum_cons, add_assoc]
      · rw [List.foldl_cons, htax', htax, List.map_cons, List.sum_cons, add_assoc]
  have hall := hfold p.items.rows [] (by simp)
  simp only [List.map_nil, List.sum_nil, zero_add] at hall
  exact hall

variable (accountName corelationId p) in
theorem sideTotal_fromPayment (value : AccountPaymentTransaction → ℤ) :
    let sellers := sellerTransactions accountName corelationId p
    sideTotal (sellerRotation p.type) value (fromPayment accountName corelationId p) = (sellers.map value).sum ∧
    sideTotal (customerRotation p.type) value (fromPayment accountName corelationId p) =
      value (customerTransaction accountName corelationId p sellers) := by
  obtain ⟨-, -, htype⟩ := seller_transactions_spec accountName corelationId p
  have hrotation : customerRotation p.type ≠ sellerRotation p.type := by
    cases p.type <;> decide
  have hseller : (sellerTransactions accountName corelationId p).filter
      (fun entry => entry.type = sellerRotation p.type) = sellerTransactions accountName corelationId p :=
    List.filter_eq_self.mpr fun entry hentry => by simpa using htype entry hentry
  have hcustomer : (sellerTransactions accountName corelationId p).filter
      (fun entry => entry.type = customerRotation p.type) = [] := by
    rw [List.filter_eq_nil_iff]
    intro entry hentry
    rw [htype entry hentry]
    simpa using hrotation.symm
  constructor
  · simp [sideTotal, fromPayment, hseller, customerTransaction, hrotation]
  · simp [sideTotal, fromPayment, hcustomer, customerTransaction]

theorem from_payment_balanced_iff : Balanced (fromPayment accountName corelationId p) ↔
    (p.items.rows.map (·.totalAmount)).sum = p.totalAmount ∧
    (p.items.rows.map (·.taxAmount)).sum = p.taxAmount := by
  obtain ⟨hamounts, htaxes, -⟩ := seller_transactions_spec accountName corelationId p
  obtain ⟨hseller, hcustomer⟩ := sideTotal_fromPayment accountName corelationId p (·.amount)
  obtain ⟨hsellerTax, hcustomerTax⟩ := sideTotal_fromPayment accountName corelationId p (·.taxAmount)
  rw [hamounts] at hseller
  rw [htaxes] at hsellerTax
  unfold Balanced
  cases htype : p.type with
  | purchase =>
    simp only [htype, sellerRotation, customerRotation] at hseller hcustomer hsellerTax hcustomerTax
    rw [hseller, hcustomer, hsellerTax, hcustomerTax]
    exact and_congr eq_comm eq_comm
  | refund =>
    simp only [htype, sellerRotation, customerRotation] at hseller hcustomer hsellerTax hcustomerTax
    rw [hseller, hcustomer, hsellerTax, hcustomerTax]
    rfl

end Specifications

/-! ## Stored payments -/

theorem store_sums {draft : PaymentDraft} {id : String} {itemIds : List String} {p : Payment}
    (h : draft.store id itemIds = some p) (column : PaymentItem → ℤ) (value : PaymentItemDTO → ℚ)
    (hcolumn : ∀ dto id, column (PaymentItemDTO.toEntity dto id) = toColumn (value dto)) :
    p.items.rows.map column = (draft.items.map value).map toColumn := by
  obtain ⟨-, -, -, -, -, -, -, hlength, hrows⟩ := store_spec h
  rw [hrows, List.map_zipWith, List.map_map]
  clear h hrows
  generalize draft.items = items at hlength
  induction items generalizing itemIds with
  | nil => simp
  | cons item items ih =>
    cases itemIds with
    | nil => simp at hlength
    | cons itemId itemIds =>
      rw [List.zipWith_cons_cons, List.map_cons, ih (by simpa using hlength), hcolumn]
      rfl

/-- Where storing the values one by one and storing their sum agree. -/
theorem toColumn_sum_iff (values : List ℚ) :
    (values.map toColumn).sum = toColumn values.sum ↔ StaysWithinHalf (values.map (· * 10000)) := by
  rw [← sum_roundAway_eq_iff, List.sum_map_mul_right, List.map_id', List.map_map]
  rfl

theorem stored_balanced_iff {draft : PaymentDraft} {id : String} {itemIds : List String} {p : Payment}
    (h : draft.store id itemIds = some p) (htotal : draft.totalAmount = (draft.items.map (·.totalAmount)).sum)
    (htax : draft.taxAmount = (draft.items.map (·.taxAmount)).sum) (accountName : Option String → String)
    (corelationId : String) (status : PaymentStatus) :
    Balanced (fromPayment accountName corelationId { p with paymentStatus := status }) ↔
      StaysWithinHalf ((draft.items.map (·.totalAmount)).map (· * 10000)) ∧
      StaysWithinHalf ((draft.items.map (·.taxAmount)).map (· * 10000)) := by
  obtain ⟨-, -, -, -, -, hstored, hstoredTax, -⟩ := store_spec h
  rw [from_payment_balanced_iff, store_sums h (·.totalAmount) (·.totalAmount) fun _ _ => rfl,
    store_sums h (·.taxAmount) (·.taxAmount) fun _ _ => rfl, ← toColumn_sum_iff, ← toColumn_sum_iff]
  simp only [hstored, hstoredTax, htotal, htax]

theorem staysWithinHalf_columns (columns : List ℤ) :
    StaysWithinHalf ((columns.map fromColumn).map (· * 10000)) := by
  rw [← toColumn_sum_iff, fromColumn_sum, toColumn_fromColumn, List.map_map]
  simp [Function.comp_def]

/-! ## Double entry -/

theorem init_payment_spec {catalog : Catalog} {dir : Directory} {pdto : PaymentInitDTO}
    {items : List PaymentItemInputDto} {draft : PaymentDraft} (h : initPayment catalog dir pdto items = .ok draft) :
    draft.totalAmount = (draft.items.map (·.totalAmount)).sum ∧
    draft.taxAmount = (draft.items.map (·.taxAmount)).sum ∧
    draft.items.map (·.totalAmount) = draft.items.map (·.exactTotal) ∧
    draft.items.map (·.taxAmount) = draft.items.map (·.exactTax) ∧
    draft.items.map (·.quantity) = items.map (·.quantity) ∧
    ∀ item ∈ draft.items, ∃ price, item.unitAmount = fromColumn price := by
  obtain ⟨calculation, hcalculation, -, -, hitems, htotal, htax⟩ := generate_entity_spec h
  obtain ⟨-, saleMode, hcalculate⟩ := hcalculation.resolve_left (by simp)
  obtain ⟨⟨hsum, hsumTax, hexact⟩, hquantities⟩ := calculate_total_amount_spec hcalculate
  rw [hitems, htotal, htax]
  refine ⟨hsum, hsumTax, ?_, ?_, hquantities, fun item hitem => (hexact item hitem).1⟩
  · exact List.map_congr_left fun item hitem => (hexact item hitem).2.1
  · exact List.map_congr_left fun item hitem => (hexact item hitem).2.2

theorem prepare_refund_payment_totals {db : Refund.Db} {dir : Directory}
    {plan : Except HttpError (List RefundChannelPlan)} {request : RefundRequest} {original : Payment}
    {prepared : Refund.PreparedRefund}
    (h : Refund.prepareRefundPayment db dir plan request original = .ok (some prepared)) :
    prepared.1.totalAmount = (prepared.1.items.map (·.totalAmount)).sum ∧
    prepared.1.taxAmount = (prepared.1.items.map (·.taxAmount)).sum ∧
    prepared.1.items.map (·.totalAmount) = (request.items.map (·.refundAmount)).map fromColumn ∧
    prepared.1.items.map (·.taxAmount) = (request.items.map (·.refundTaxAmount)).map fromColumn := by
  unfold Refund.prepareRefundPayment at h
  split at h
  · simp at h
  simp only [bind_eq_ok, pure_eq_ok, Option.some.injEq, mapM_eq_ok] at h
  obtain ⟨_, -, items, hitems, draft, hdraft, rfl⟩ := h
  obtain ⟨calculation, hcalculation, -, -, hdraftItems, htotal, htax⟩ := generate_entity_spec hdraft
  obtain rfl : Refund.refundCalculation items = calculation := by simpa using hcalculation
  have hline : ∀ line item, Refund.refundPaymentItem original line = .ok item →
      item.totalAmount = fromColumn line.refundAmount ∧ item.taxAmount = fromColumn line.refundTaxAmount := by
    intro line item hitem
    unfold Refund.refundPaymentItem at hitem
    simp only [bind_eq_ok, pure_eq_ok] at hitem
    obtain ⟨-, -, rfl⟩ := hitem
    exact ⟨rfl, rfl⟩
  simp only [hdraftItems, htotal, htax, Refund.refundCalculation, addNumberValues_eq_sum, List.map_map, true_and]
  exact ⟨forall₂_map_eq hitems fun line item h => (hline line item h).1,
    forall₂_map_eq hitems fun line item h => (hline line item h).2⟩

/-- Whole quantities never unbalance the amounts: prices are columns. -/
theorem amounts_balance_of_whole_quantities {catalog : Catalog} {dir : Directory} {pdto : PaymentInitDTO}
    {items : List PaymentItemInputDto} {draft : PaymentDraft} (h : initPayment catalog dir pdto items = .ok draft)
    (hwhole : ∀ item ∈ items, ∃ n : ℤ, item.quantity = n) :
    StaysWithinHalf (draft.items.map fun item => item.exactTotal * 10000) := by
  obtain ⟨-, -, -, -, hquantities, hprices⟩ := init_payment_spec h
  have hcolumns : draft.items.map (·.exactTotal) =
      (draft.items.map fun item => toColumn item.exactTotal).map fromColumn := by
    rw [List.map_map]
    apply List.map_congr_left
    intro item hitem
    obtain ⟨price, hprice⟩ := hprices item hitem
    have hquantity : item.quantity ∈ items.map (·.quantity) := hquantities ▸ List.mem_map_of_mem hitem
    obtain ⟨input, hinput, hinputQuantity⟩ := List.mem_map.mp hquantity
    obtain ⟨n, hn⟩ := hwhole input hinput
    rw [hinputQuantity] at hn
    have hexact : item.exactTotal = fromColumn (price * n) := by
      rw [PaymentItemDTO.exactTotal, hprice, hn, fromColumn, fromColumn, Int.cast_mul, div_mul_eq_mul_div]
    rw [Function.comp_apply, hexact, toColumn_fromColumn]
  have hstays := staysWithinHalf_columns (draft.items.map fun item => toColumn item.exactTotal)
  rw [← hcolumns, List.map_map] at hstays
  exact hstays

/-! ## Two lines of 1.00 with a tax of 20% -/

def sampleCatalog : Catalog where
  fetchAll := fun _ => [⟨"item", "Item", some "seller", none, some "tax", "piece"⟩]
  commissionPercent := fun _ _ => 0
  account := fun _ => some ⟨"Seller", "COMMERCIAL", some "address"⟩
  itemTax := fun _ => some ⟨"VAT", [("DEFAULT", 20)]⟩
  allLatestPrices := fun _ => [⟨"", 10000⟩]
  allDefaultPrices := fun _ => [⟨"", 10000⟩]
  comissionsCalculatedFromNet := false

def sampleDirectory : Directory where
  account := fun _ => some ⟨"Account", "COMMERCIAL", some "address"⟩
  address := fun _ => true
  sessionInUse := fun _ => false

def sampleInit : PaymentInitDTO where
  type := .purchase
  currency := "TRY"
  itemNotes := []
  customerAccountId := "customer"

/-- One piece per line. -/
def sampleDraft (lines : ℕ) : Except HttpError PaymentDraft :=
  initPayment sampleCatalog sampleDirectory sampleInit
    (List.replicate lines { itemId := some "item", quantity := 1 })

def storeSample (draft : PaymentDraft) : Option Payment :=
  draft.store "payment" ((List.range draft.items.length).map fun i => s!"line-{i}")

/-- The refund of the first line. -/
def sampleRefundRequest : RefundRequest where
  id := "request"
  paymentId := "payment"
  status := .pending
  items := [⟨"line-0", "item", "", "Item", "", 10000, 10000, 8333, 10000, 8333, 1667, 0, 0⟩]
  requestedByAccountId := "customer"
  requestedByPaymentAccountId := none
  requestedToPaymentAccountId := none
  currency := "TRY"
  reasonKeys := [.other]
  requestNote := none

def prepareSampleRefund (purchase : Payment) : Except HttpError (Option Refund.PreparedRefund) :=
  Refund.prepareRefundPayment ⟨Table.empty.save purchase, Table.empty⟩ sampleDirectory (.ok []) sampleRefundRequest
    purchase

end Postral
