import Postral.Lib.Group
import Postral.Lib.Nullish
import Postral.Orders.Search

/-!
# Seller orders of a payment (`SellerPaymentOrderService.addSellerPaymentOrders`)

The lines of a payment are grouped by seller, and each group becomes an order or updates one.
-/

open Check

namespace Postral.Orders.Grouping

/-- What `fromPaymentItem` reads of an item. Its seller is asserted to be there. -/
structure PaymentItemDTO where
  totalAmount : ℚ
  taxAmount : ℚ
  sellerAccountId : String
  sellerSnapshotAccountId : Nullish String
  sellerSnapshotAddressId : Nullish String
  deriving DecidableEq

/-- What `fromPaymentItem` reads of a payment. Its customer is asserted to be there. -/
structure Payment where
  id : String
  type : PaymentType
  currency : String
  customerAccountId : String
  billingAddressId : Nullish String
  paymentStatus : PaymentStatus
  openPayment : Bool
  customerSnapshotAccountId : Nullish String
  customerSnapshotAddressId : Nullish String
  deriving DecidableEq

structure SellerPaymentOrderDTO where
  amount : ℚ
  taxAmount : ℚ
  currency : String
  paymentId : String
  sourceAccountId : String
  targetAccountId : String
  billingAddressId : Nullish String
  paymentStatus : PaymentStatus
  errorStatus : Nullish PaymentErrorStatus := .undefined
  operationNote : Nullish String := .undefined
  transactionType : Lifecycle.SellerPaymentOrderType
  openPayment : Option Bool := none
  sellerSnapshotAccountId : Nullish String
  sellerSnapshotAddressId : Nullish String
  customerSnapshotAccountId : Nullish String
  customerSnapshotAddressId : Nullish String
  deriving DecidableEq

/-- A row, with the columns that the life of a payment does not read. -/
structure SellerPaymentOrder extends toCore : Lifecycle.SellerPaymentOrder where
  billingAddressId : Option String
  errorStatus : Option PaymentErrorStatus
  operationNote : Option String
  sellerSnapshotAccountId : Option String
  sellerSnapshotAddressId : Option String
  customerSnapshotAccountId : Option String
  customerSnapshotAddressId : Option String
  deriving DecidableEq

abbrev OrderTable := Table (fun order : SellerPaymentOrder => order.toCore.key)

/-- `TransactionMapper.fromPaymentItem`. -/
def fromPaymentItem (paymentItem : PaymentItemDTO) (payment : Payment) : SellerPaymentOrderDTO where
  amount := paymentItem.totalAmount
  taxAmount := paymentItem.taxAmount
  currency := payment.currency
  paymentId := payment.id
  sourceAccountId := payment.customerAccountId
  targetAccountId := paymentItem.sellerAccountId
  billingAddressId := payment.billingAddressId
  paymentStatus := payment.paymentStatus
  transactionType := Lifecycle.transactionType payment.type
  openPayment := some payment.openPayment
  sellerSnapshotAccountId := paymentItem.sellerSnapshotAccountId
  sellerSnapshotAddressId := paymentItem.sellerSnapshotAddressId
  customerSnapshotAccountId := payment.customerSnapshotAccountId
  customerSnapshotAddressId := payment.customerSnapshotAddressId

/-! ## Groups -/

def transactionTypeText : Lifecycle.SellerPaymentOrderType → String
  | .creditToSeller => "CREDIT_TO_SELLER"
  | .debitFromSeller => "DEBIT_FROM_SELLER"

def groupKey (a : SellerPaymentOrderDTO) : String :=
  a.sourceAccountId ++ "|" ++ a.targetAccountId ++ "|" ++ transactionTypeText a.transactionType ++ "|" ++ a.paymentId ++
    "|" ++ a.currency ++ "|" ++ paymentStatusText a.paymentStatus

/-- The object that starts the group of `object`, with the amounts that it adds to 0. -/
def startGroup (object : SellerPaymentOrderDTO) : SellerPaymentOrderDTO where
  amount := 0 + object.amount
  taxAmount := 0 + object.taxAmount
  currency := object.currency
  paymentId := object.paymentId
  sourceAccountId := object.sourceAccountId
  targetAccountId := object.targetAccountId
  billingAddressId := object.billingAddressId
  paymentStatus := object.paymentStatus
  errorStatus := object.errorStatus
  operationNote := object.operationNote
  transactionType := object.transactionType
  customerSnapshotAccountId := object.customerSnapshotAccountId
  customerSnapshotAddressId := object.customerSnapshotAddressId
  sellerSnapshotAccountId := object.sellerSnapshotAccountId
  sellerSnapshotAddressId := object.sellerSnapshotAddressId

def addAmounts (group object : SellerPaymentOrderDTO) : SellerPaymentOrderDTO :=
  { group with amount := group.amount + object.amount, taxAmount := group.taxAmount + object.taxAmount }

/-- `ArrayToObjectUtil.arrayConditionCirculation`: the groups by their keys, in the order of their first lines. -/
def addToGroup (object : SellerPaymentOrderDTO) :
    List (String × SellerPaymentOrderDTO) → List (String × SellerPaymentOrderDTO)
  | [] => [(groupKey object, startGroup object)]
  | (key, group) :: rest =>
    if key = groupKey object then (key, addAmounts group object) :: rest else (key, group) :: addToGroup object rest

def grouped (transactions : List SellerPaymentOrderDTO) : List SellerPaymentOrderDTO :=
  (transactions.foldl (fun groups object => addToGroup object groups) []).map (·.2)

/-! ## Orders -/

/-- The row of `fromDto`, with the defaults of its columns. -/
def fromDto (dto : SellerPaymentOrderDTO) : SellerPaymentOrder where
  untaxedAmount := toColumn (minusNumberValues dto.amount [dto.taxAmount])
  taxAmount := toColumn dto.taxAmount
  amount := toColumn dto.amount
  currency := dto.currency
  paymentId := dto.paymentId
  targetAccountId := dto.targetAccountId
  sourceAccountId := dto.sourceAccountId
  billingAddressId := dto.billingAddressId.toOption
  paymentStatus := dto.paymentStatus
  errorStatus := dto.errorStatus.toOption
  sellerOrderType := dto.transactionType
  operationNote := dto.operationNote.assign (some "")
  openPayment := dto.openPayment.getD false
  sellerSnapshotAccountId := dto.sellerSnapshotAccountId.toOption
  sellerSnapshotAddressId := dto.sellerSnapshotAddressId.toOption
  customerSnapshotAccountId := dto.customerSnapshotAccountId.toOption
  customerSnapshotAddressId := dto.customerSnapshotAddressId.toOption

/-- What `addTransaction` does to an order that exists. -/
def updated (existing : SellerPaymentOrder) (tr : SellerPaymentOrderDTO) : SellerPaymentOrder :=
  { existing with
    paymentStatus := tr.paymentStatus
    errorStatus := tr.errorStatus.assign existing.errorStatus
    operationNote := tr.operationNote.assign existing.operationNote
    sellerSnapshotAccountId := tr.sellerSnapshotAccountId.assign existing.sellerSnapshotAccountId
    sellerSnapshotAddressId := tr.sellerSnapshotAddressId.assign existing.sellerSnapshotAddressId
    customerSnapshotAccountId := tr.customerSnapshotAccountId.assign existing.customerSnapshotAccountId
    customerSnapshotAddressId := tr.customerSnapshotAddressId.assign existing.customerSnapshotAddressId }

def matchesOrder (tr : SellerPaymentOrderDTO) (order : SellerPaymentOrder) : Bool :=
  order.sourceAccountId = tr.sourceAccountId ∧ order.targetAccountId = tr.targetAccountId ∧
    order.sellerOrderType = tr.transactionType ∧ order.paymentId = tr.paymentId ∧ order.currency = tr.currency

/-- `addTransaction`: the table and the order that it returns. -/
def addTransaction (orders : OrderTable) (tr : SellerPaymentOrderDTO) :
    Except HttpError (OrderTable × SellerPaymentOrder) :=
  match orders.rows.find? (matchesOrder tr) with
  | some existing => return (orders.save (updated existing tr), updated existing tr)
  | none => do
    let entity := fromDto tr
    require (orders.find entity.toCore.key = none) (.internal "Duplicate entry for key UNIQUE")
    return (orders.save entity, entity)

/-- The loop over the groups. -/
def addAll (orders : OrderTable) : List SellerPaymentOrderDTO → Except HttpError (OrderTable × List SellerPaymentOrder)
  | [] => return (orders, [])
  | tr :: rest => do
    let (orders, saved) ← addTransaction orders tr
    let (orders, savedTransactions) ← addAll orders rest
    return (orders, saved :: savedTransactions)

/-- `addSellerPaymentOrders`. -/
def addSellerPaymentOrders (orders : OrderTable) (transactions : List SellerPaymentOrderDTO) :
    Except HttpError (OrderTable × List SellerPaymentOrder) :=
  addAll orders (grouped transactions)

/-- `PaymentService.generateSellerPaymentOrders`, for the items of the payment. -/
def generateSellerPaymentOrders (orders : OrderTable) (payment : Payment) (items : List PaymentItemDTO) :
    Except HttpError (OrderTable × List SellerPaymentOrder) :=
  addSellerPaymentOrders orders (items.map (fromPaymentItem · payment))

/-! ## The groups of a payment -/

def merge (group object : SellerPaymentOrderDTO) : Except HttpError SellerPaymentOrderDTO := .ok (addAmounts group object)

theorem insert_startGroup (object : SellerPaymentOrderDTO) (groups : List (String × SellerPaymentOrderDTO)) :
    Group.insert groupKey merge (startGroup object) groups = .ok (addToGroup object groups) := by
  have hkey : groupKey (startGroup object) = groupKey object := rfl
  induction groups with
  | nil => rfl
  | cons group groups ih =>
    obtain ⟨key, group⟩ := group
    unfold Group.insert addToGroup
    rw [hkey]
    split
    · simp [merge, addAmounts, startGroup, bind, Except.bind, pure, Except.pure]
    · rw [ih]
      rfl

theorem foldlM_startGroup (transactions : List SellerPaymentOrderDTO) (groups : List (String × SellerPaymentOrderDTO)) :
    (transactions.map startGroup).foldlM (fun groups x => Group.insert groupKey merge x groups) groups =
      .ok (transactions.foldl (fun groups object => addToGroup object groups) groups) := by
  induction transactions generalizing groups with
  | nil => rfl
  | cons object transactions ih =>
    rw [List.map_cons, List.foldlM_cons, insert_startGroup, List.foldl_cons]
    exact ih _

/-- Merging adds the amounts up and keeps the rest of the first element. -/
theorem foldlM_merge {first group : SellerPaymentOrderDTO} {rest : List SellerPaymentOrderDTO}
    (h : rest.foldlM merge first = .ok group) : group = { first with
      amount := ((first :: rest).map (·.amount)).sum, taxAmount := ((first :: rest).map (·.taxAmount)).sum } := by
  induction rest generalizing first with
  | nil =>
    rw [List.foldlM_nil, pure_eq_ok] at h
    simp [← h]
  | cons object rest ih =>
    rw [List.foldlM_cons] at h
    rw [ih h]
    simp [addAmounts, add_assoc]

/-- The key of a seller's group. -/
def sellerKey (payment : Payment) (seller : String) : String :=
  payment.customerAccountId ++ "|" ++ seller ++ "|" ++ transactionTypeText (Lifecycle.transactionType payment.type) ++ "|" ++
    payment.id ++ "|" ++ payment.currency ++ "|" ++ paymentStatusText payment.paymentStatus

/-- The other parts of the key are the same on all lines. -/
theorem sellerKey_injective (payment : Payment) : Function.Injective (sellerKey payment) := by
  intro a b h
  simpa [sellerKey, String.append_assoc, ← String.toList_inj, String.toList_append] using h

/-- The lines of a seller. -/
def linesOf (items : List PaymentItemDTO) (seller : String) : List PaymentItemDTO :=
  items.filter fun item => item.sellerAccountId = seller

/-- The group of the lines of its seller. -/
def GroupOf (payment : Payment) (items : List PaymentItemDTO) (group : SellerPaymentOrderDTO) : Prop :=
  ∃ first rest, linesOf items group.targetAccountId = first :: rest ∧
    group = { startGroup (fromPaymentItem first payment) with
      amount := ((first :: rest).map (·.totalAmount)).sum, taxAmount := ((first :: rest).map (·.taxAmount)).sum }

/-- The groups by their keys. -/
def keyedGroups (payment : Payment) (items : List PaymentItemDTO) : List (String × SellerPaymentOrderDTO) :=
  (items.map (fromPaymentItem · payment)).foldl (fun groups object => addToGroup object groups) []

theorem withKey_lines (payment : Payment) (items : List PaymentItemDTO) (key : String) :
    Group.withKey groupKey key ((items.map (fromPaymentItem · payment)).map startGroup) =
      (items.filter fun item => sellerKey payment item.sellerAccountId = key).map
        fun item => startGroup (fromPaymentItem item payment) := by
  unfold Group.withKey
  rw [List.map_map, List.filter_map]
  rfl

theorem keyed_groups_spec (payment : Payment) (items : List PaymentItemDTO) :
    ((keyedGroups payment items).map (·.1)).Nodup ∧
      (∀ g ∈ keyedGroups payment items, g.1 = sellerKey payment g.2.targetAccountId ∧ GroupOf payment items g.2) ∧
      ∀ item ∈ items, ∃ g ∈ keyedGroups payment items, g.1 = sellerKey payment item.sellerAccountId := by
  have hfold := foldlM_startGroup (items.map (fromPaymentItem · payment)) []
  obtain ⟨hkeys, hmerged⟩ := Group.foldlM_insert_iff.mp hfold
  refine ⟨?_, fun g hg => ?_, fun item hitem => ?_⟩
  · unfold keyedGroups
    rw [hkeys]
    exact Group.nodup_keys _
  · obtain ⟨x, rest, hlines, hrest⟩ := hmerged g hg
    rw [withKey_lines] at hlines
    obtain ⟨first, others, hfilter, rfl, rfl⟩ := List.map_eq_cons_iff.mp hlines
    have hgroup := foldlM_merge hrest
    have hfirst : first ∈ items.filter fun item => sellerKey payment item.sellerAccountId = g.1 := by
      rw [hfilter]
      exact List.mem_cons_self
    have hkey : sellerKey payment first.sellerAccountId = g.1 := by simpa using (List.mem_filter.mp hfirst).2
    have htarget : g.2.targetAccountId = first.sellerAccountId := by rw [hgroup]; rfl
    refine ⟨by rw [htarget, hkey], first, others, ?_, ?_⟩
    · rw [← hfilter, htarget]
      unfold linesOf
      apply List.filter_congr
      intro item _
      simp only [← hkey, (sellerKey_injective payment).eq_iff]
    · rw [hgroup]
      simp [startGroup, fromPaymentItem, Function.comp_def]
  · have hkey : sellerKey payment item.sellerAccountId ∈ (keyedGroups payment items).map (·.1) := by
      unfold keyedGroups
      rw [hkeys, Group.mem_keys]
      exact ⟨startGroup (fromPaymentItem item payment), by simpa using ⟨item, hitem, rfl⟩, rfl⟩
    obtain ⟨g, hg, hgkey⟩ := List.mem_map.mp hkey
    exact ⟨g, hg, hgkey⟩

/-- There is one group for each seller, of the lines of the seller. -/
theorem grouped_spec (payment : Payment) (items : List PaymentItemDTO) :
    ((grouped (items.map (fromPaymentItem · payment))).map (·.targetAccountId)).Nodup ∧
      (∀ group ∈ grouped (items.map (fromPaymentItem · payment)), GroupOf payment items group) ∧
      ∀ item ∈ items, ∃ group ∈ grouped (items.map (fromPaymentItem · payment)),
        group.targetAccountId = item.sellerAccountId := by
  obtain ⟨hnodup, hall, hevery⟩ := keyed_groups_spec payment items
  change ((((keyedGroups payment items).map (·.2)).map (·.targetAccountId)).Nodup ∧
    (∀ group ∈ (keyedGroups payment items).map (·.2), _) ∧ ∀ item ∈ items, ∃ group ∈ (keyedGroups payment items).map (·.2), _)
  refine ⟨?_, fun group hgroup => ?_, fun item hitem => ?_⟩
  · apply List.Nodup.of_map (sellerKey payment)
    rw [List.map_map, List.map_map]
    rwa [List.map_congr_left fun g hg => (hall g hg).1] at hnodup
  · obtain ⟨g, hg, rfl⟩ := List.mem_map.mp hgroup
    exact (hall g hg).2
  · obtain ⟨g, hg, hkey⟩ := hevery item hitem
    exact ⟨g.2, List.mem_map_of_mem hg, sellerKey_injective payment ((hall g hg).1.symm.trans hkey)⟩

/-! ## The first call -/

section Adding

variable {orders orders' : OrderTable} {saved : List SellerPaymentOrder} {tr : SellerPaymentOrderDTO}

theorem find_none_of_new (hnew : ∀ order ∈ orders.rows, order.toCore.key ≠ (tr.paymentId, tr.targetAccountId)) :
    orders.rows.find? (matchesOrder tr) = none := by
  rw [List.find?_eq_none]
  intro order horder hmatch
  simp only [matchesOrder, decide_eq_true_eq] at hmatch
  obtain ⟨-, htarget, -, hpayment, -⟩ := hmatch
  exact hnew order horder (by rw [Lifecycle.SellerPaymentOrder.key, hpayment, htarget])

/-- A seller without an order gets one. -/
theorem add_transaction_new (orders : OrderTable) (tr : SellerPaymentOrderDTO)
    (hnew : ∀ order ∈ orders.rows, order.toCore.key ≠ (tr.paymentId, tr.targetAccountId)) :
    addTransaction orders tr = .ok (orders.save (fromDto tr), fromDto tr) ∧
      (orders.save (fromDto tr)).rows = orders.rows ++ [fromDto tr] := by
  have hkey : (fromDto tr).toCore.key = (tr.paymentId, tr.targetAccountId) := rfl
  constructor
  · unfold addTransaction
    rw [find_none_of_new hnew]
    have hfind : orders.find (fromDto tr).toCore.key = none := Table.find_eq_none_iff.mpr hnew
    simp only [hfind, require, if_true]
    rfl
  · have hnot : (fromDto tr).toCore.key ∉ orders.rows.map fun order => order.toCore.key := by
      rintro hmem
      obtain ⟨order, horder, heq⟩ := List.mem_map.mp hmem
      exact hnew order horder heq
    simp only [Table.save, if_neg hnot]

theorem add_all_new (paymentId : String) (trs : List SellerPaymentOrderDTO) (hpayment : ∀ tr ∈ trs, tr.paymentId = paymentId)
    (hnodup : (trs.map (·.targetAccountId)).Nodup)
    (hnew : ∀ order ∈ orders.rows, ∀ tr ∈ trs, order.toCore.key ≠ (paymentId, tr.targetAccountId)) :
    ∃ orders', addAll orders trs = .ok (orders', trs.map fromDto) ∧ orders'.rows = orders.rows ++ trs.map fromDto := by
  induction trs generalizing orders with
  | nil => exact ⟨orders, rfl, by simp⟩
  | cons tr trs ih =>
    obtain ⟨htr, hpayment⟩ := List.forall_mem_cons.mp hpayment
    obtain ⟨hnot, hnodup⟩ := List.nodup_cons.mp hnodup
    obtain ⟨hadd, hrows⟩ := add_transaction_new orders tr (by
      intro order horder
      rw [htr]
      exact hnew order horder tr List.mem_cons_self)
    have hnext : ∀ order ∈ (orders.save (fromDto tr)).rows, ∀ tr' ∈ trs,
        order.toCore.key ≠ (paymentId, tr'.targetAccountId) := by
      intro order horder tr' htr'
      rw [hrows] at horder
      rcases List.mem_append.mp horder with hmem | hmem
      · exact hnew order hmem tr' (List.mem_cons_of_mem _ htr')
      · rw [List.mem_singleton.mp hmem]
        intro heq
        have htarget : tr.targetAccountId = tr'.targetAccountId := congrArg Prod.snd heq
        exact hnot (List.mem_map.mpr ⟨tr', htr', htarget.symm⟩)
    obtain ⟨orders', hall, hrows'⟩ := ih hpayment hnodup hnext
    refine ⟨orders', ?_, ?_⟩
    · simp [addAll, hadd, hall, bind, Except.bind, pure, Except.pure]
    · rw [hrows', hrows, List.append_assoc]
      rfl

/-! ## Calls for orders that exist -/

/-- The columns that no call changes. -/
def amounts (order : SellerPaymentOrder) : (String × String) × ℤ × ℤ × ℤ :=
  (order.toCore.key, order.amount, order.taxAmount, order.untaxedAmount)

/-- The part of an order that says which lines it is for. -/
def identity (order : SellerPaymentOrder) : String × String × Lifecycle.SellerPaymentOrderType × String × String :=
  (order.sourceAccountId, order.targetAccountId, order.sellerOrderType, order.paymentId, order.currency)

theorem matchesOrder_iff {order : SellerPaymentOrder} : matchesOrder tr order ↔
    identity order = (tr.sourceAccountId, tr.targetAccountId, tr.transactionType, tr.paymentId, tr.currency) := by
  simp [matchesOrder, identity]

/-- An order that exists is updated, and no column of the amounts changes. -/
theorem add_transaction_again {order : SellerPaymentOrder} (horder : order ∈ orders.rows) (hmatch : matchesOrder tr order) :
    ∃ orders' saved, addTransaction orders tr = .ok (orders', saved) ∧
      orders'.rows.map amounts = orders.rows.map amounts ∧ orders'.rows.map identity = orders.rows.map identity := by
  unfold addTransaction
  cases hfind : orders.rows.find? (matchesOrder tr) with
  | none => exact absurd hmatch (List.find?_eq_none.mp hfind order horder)
  | some existing =>
    have hexisting := List.mem_of_find?_eq_some hfind
    have hkey : (updated existing tr).toCore.key = existing.toCore.key := rfl
    have hmem : (updated existing tr).toCore.key ∈ orders.rows.map fun order => order.toCore.key :=
      List.mem_map.mpr ⟨existing, hexisting, rfl⟩
    refine ⟨_, _, rfl, ?_, ?_⟩
    all_goals
      simp only [Table.save, if_pos hmem, List.map_map]
      apply List.map_congr_left
      intro other hother
      simp only [Function.comp_apply]
      split <;> rename_i hsame
      · rw [Table.eq_of_key hother hexisting (hsame.trans hkey)]
        rfl
      · rfl

theorem found_of_identity (hidentity : orders'.rows.map identity = orders.rows.map identity)
    (h : ∃ order ∈ orders.rows, matchesOrder tr order) : ∃ order ∈ orders'.rows, matchesOrder tr order := by
  obtain ⟨order, horder, hmatch⟩ := h
  have hmem := List.mem_map_of_mem (f := identity) horder
  rw [← hidentity] at hmem
  obtain ⟨order', horder', heq⟩ := List.mem_map.mp hmem
  exact ⟨order', horder', by rwa [matchesOrder_iff, heq, ← matchesOrder_iff]⟩

theorem add_all_again (trs : List SellerPaymentOrderDTO)
    (hmatch : ∀ tr ∈ trs, ∃ order ∈ orders.rows, matchesOrder tr order) :
    ∃ orders' saved, addAll orders trs = .ok (orders', saved) ∧
      orders'.rows.map amounts = orders.rows.map amounts ∧ orders'.rows.map identity = orders.rows.map identity := by
  induction trs generalizing orders with
  | nil => exact ⟨orders, [], rfl, rfl, rfl⟩
  | cons tr trs ih =>
    obtain ⟨⟨order, horder, htr⟩, htrs⟩ := List.forall_mem_cons.mp hmatch
    obtain ⟨orders', saved, hadd, hamounts, hidentity⟩ := add_transaction_again horder htr
    obtain ⟨orders'', savedRest, hall, hamounts', hidentity'⟩ :=
      ih fun tr' htr' => found_of_identity hidentity (htrs tr' htr')
    refine ⟨orders'', saved :: savedRest, ?_, hamounts'.trans hamounts, hidentity'.trans hidentity⟩
    simp [addAll, hadd, hall, bind, Except.bind, pure, Except.pure]

end Adding

/-! ## The orders of a payment -/

/-- The order for the lines of a seller, with the flag of the payment. -/
def expectedOrder (payment : Payment) (first : PaymentItemDTO) (lines : List PaymentItemDTO) : SellerPaymentOrder where
  amount := toColumn (lines.map (·.totalAmount)).sum
  taxAmount := toColumn (lines.map (·.taxAmount)).sum
  untaxedAmount := toColumn ((lines.map (·.totalAmount)).sum - (lines.map (·.taxAmount)).sum)
  currency := payment.currency
  paymentId := payment.id
  targetAccountId := first.sellerAccountId
  sourceAccountId := payment.customerAccountId
  billingAddressId := payment.billingAddressId.toOption
  paymentStatus := payment.paymentStatus
  errorStatus := none
  sellerOrderType := Lifecycle.transactionType payment.type
  operationNote := some ""
  openPayment := payment.openPayment
  sellerSnapshotAccountId := first.sellerSnapshotAccountId.toOption
  sellerSnapshotAddressId := first.sellerSnapshotAddressId.toOption
  customerSnapshotAccountId := payment.customerSnapshotAccountId.toOption
  customerSnapshotAddressId := payment.customerSnapshotAddressId.toOption

/-- Each seller has one order, as expected, and no other order changes. -/
structure OrdersRight (payment : Payment) (items : List PaymentItemDTO) (orders orders' : OrderTable) : Prop where
  others : ∀ order, order.paymentId ≠ payment.id → (order ∈ orders'.rows ↔ order ∈ orders.rows)
  one : ∀ item ∈ items, ∃! order, order ∈ orders'.rows ∧ order.paymentId = payment.id ∧
    order.targetAccountId = item.sellerAccountId
  right : ∀ order ∈ orders'.rows, order.paymentId = payment.id → ∃ first rest,
    linesOf items order.targetAccountId = first :: rest ∧ order = expectedOrder payment first (first :: rest)

/-- The payments differ in nothing that tells orders apart. -/
def SamePayment (payment payment' : Payment) : Prop :=
  payment'.id = payment.id ∧ payment'.customerAccountId = payment.customerAccountId ∧ payment'.type = payment.type ∧
    payment'.currency = payment.currency

/-- Later calls, each with a payment and its items. -/
def callAgain (orders : OrderTable) (call : Payment × List PaymentItemDTO) : Except HttpError OrderTable :=
  (·.1) <$> generateSellerPaymentOrders orders call.1 call.2

section Payments

variable {payment : Payment} {items : List PaymentItemDTO} {orders orders' : OrderTable} {group : SellerPaymentOrderDTO}

theorem fields_of_group (h : GroupOf payment items group) : group.sourceAccountId = payment.customerAccountId ∧
    group.transactionType = Lifecycle.transactionType payment.type ∧ group.paymentId = payment.id ∧
    group.currency = payment.currency := by
  obtain ⟨first, rest, -, hgroup⟩ := h
  rw [hgroup]
  exact ⟨rfl, rfl, rfl, rfl⟩

/-- The group loses the flag. -/
theorem fromDto_group (h : GroupOf payment items group) : ∃ first rest, linesOf items group.targetAccountId = first :: rest ∧
    fromDto group = { expectedOrder payment first (first :: rest) with openPayment := false } := by
  obtain ⟨first, rest, hlines, hgroup⟩ := h
  have hmem : first ∈ linesOf items group.targetAccountId := by
    rw [hlines]
    exact List.mem_cons_self
  refine ⟨first, rest, hlines, ?_⟩
  rw [hgroup]
  simp [fromDto, expectedOrder, startGroup, fromPaymentItem, Nullish.assign, Nullish.toOption]

theorem first_call (items : List PaymentItemDTO) (hnew : ∀ order ∈ orders.rows, order.paymentId ≠ payment.id) :
    ∃ orders', generateSellerPaymentOrders orders payment items =
        .ok (orders', (grouped (items.map (fromPaymentItem · payment))).map fromDto) ∧
      orders'.rows = orders.rows ++ (grouped (items.map (fromPaymentItem · payment))).map fromDto := by
  obtain ⟨hnodup, hall, -⟩ := grouped_spec payment items
  refine add_all_new payment.id _ (fun group hgroup => ?_) hnodup fun order horder group _ heq => ?_
  · exact (fields_of_group (hall group hgroup)).2.2.1
  · exact hnew order horder (congrArg Prod.fst heq)

/-- The groups of a later call find the orders of the first one. -/
theorem later_call {calls : List (Payment × List PaymentItemDTO)}
    (hfound : ∀ call ∈ calls, ∀ group ∈ grouped (call.2.map (fromPaymentItem · call.1)),
      ∃ order ∈ orders.rows, matchesOrder group order) :
    ∃ orders', calls.foldlM callAgain orders = .ok orders' ∧ orders'.rows.map amounts = orders.rows.map amounts := by
  induction calls generalizing orders with
  | nil => exact ⟨orders, rfl, rfl⟩
  | cons call calls ih =>
    obtain ⟨hcall, hcalls⟩ := List.forall_mem_cons.mp hfound
    obtain ⟨orders', saved, hadd, hamounts, hidentity⟩ := add_all_again _ hcall
    obtain ⟨orders'', hrest, hamounts'⟩ :=
      ih fun call hcall group hgroup => found_of_identity hidentity (hcalls call hcall group hgroup)
    have hstep : callAgain orders call = .ok orders' := by
      rw [callAgain, map_eq_ok]
      exact ⟨_, hadd, rfl⟩
    refine ⟨orders'', ?_, hamounts'.trans hamounts⟩
    rw [List.foldlM_cons, hstep]
    exact hrest

end Payments

/-- **Seller orders.** -/
theorem seller_orders_iff (orders : OrderTable) (payment : Payment) (items : List PaymentItemDTO)
    (hnew : ∀ order ∈ orders.rows, order.paymentId ≠ payment.id) :
    ∃ orders' saved, generateSellerPaymentOrders orders payment items = .ok (orders', saved) ∧
      (OrdersRight payment items orders orders' ↔ payment.openPayment = false ∨ items = []) ∧
      ∀ calls : List (Payment × List PaymentItemDTO),
        (∀ call ∈ calls, SamePayment payment call.1 ∧
          ∀ item ∈ call.2, ∃ item' ∈ items, item'.sellerAccountId = item.sellerAccountId) →
        ∃ orders'', calls.foldlM callAgain orders' = .ok orders'' ∧
          orders''.rows.map amounts = orders'.rows.map amounts := by
  obtain ⟨orders', hcall, hrows⟩ := first_call items hnew
  obtain ⟨-, hall, hevery⟩ := grouped_spec payment items
  have hgroup : ∀ group ∈ grouped (items.map (fromPaymentItem · payment)), fromDto group ∈ orders'.rows := by
    intro group hgroup
    rw [hrows]
    exact List.mem_append_right _ (List.mem_map_of_mem hgroup)
  have hpayment : ∀ group ∈ grouped (items.map (fromPaymentItem · payment)), (fromDto group).paymentId = payment.id := by
    intro group hgroup
    obtain ⟨first, rest, -, horder⟩ := fromDto_group (hall group hgroup)
    rw [horder]
    rfl
  refine ⟨orders', _, hcall, ⟨fun hright => ?_, fun hflag => ⟨fun order hother => ?_, fun item hitem => ?_, fun order horder hof => ?_⟩⟩,
    fun calls hcalls => later_call fun call hmem group hof => ?_⟩
  · cases items with
    | nil => exact Or.inr rfl
    | cons item items =>
      obtain ⟨group, hmem, -⟩ := hevery item List.mem_cons_self
      obtain ⟨first, rest, -, horder⟩ := fromDto_group (hall group hmem)
      obtain ⟨first', rest', -, hexpected⟩ := hright.right _ (hgroup group hmem) (hpayment group hmem)
      have hflag := congrArg (fun order => order.openPayment) (hexpected.symm.trans horder)
      exact Or.inl hflag
  · rw [hrows, List.mem_append]
    refine or_iff_left fun hadded => ?_
    obtain ⟨group, hmem, rfl⟩ := List.mem_map.mp hadded
    exact hother (hpayment group hmem)
  · obtain ⟨group, hmem, htarget⟩ := hevery item hitem
    refine ⟨fromDto group, ⟨hgroup group hmem, hpayment group hmem, htarget⟩, ?_⟩
    rintro order ⟨horder, hof, hseller⟩
    apply Table.eq_of_key horder (hgroup group hmem)
    simp only [Lifecycle.SellerPaymentOrder.key, Prod.mk.injEq]
    exact ⟨hof.trans (hpayment group hmem).symm, hseller.trans htarget.symm⟩
  · rw [hrows, List.mem_append] at horder
    rcases horder with hold | hnewOrder
    · exact absurd hof (hnew order hold)
    · obtain ⟨group, hmem, rfl⟩ := List.mem_map.mp hnewOrder
      obtain ⟨first, rest, hlines, horder⟩ := fromDto_group (hall group hmem)
      have hclosed : payment.openPayment = false := by
        rcases hflag with hflag | rfl
        · exact hflag
        · simp [grouped] at hmem
      refine ⟨first, rest, hlines, ?_⟩
      rw [horder]
      simp [expectedOrder, hclosed]
  · obtain ⟨⟨hid, hcustomer, htype, hcurrency⟩, hsellers⟩ := hcalls call hmem
    have hlater := (grouped_spec call.1 call.2).2.1 group hof
    obtain ⟨hsource, htransaction, hpaymentId, hgroupCurrency⟩ := fields_of_group hlater
    obtain ⟨first, rest, hlines, -⟩ := hlater
    have hfirst : first ∈ linesOf call.2 group.targetAccountId := by
      rw [hlines]
      exact List.mem_cons_self
    obtain ⟨hfirst, hseller⟩ := List.mem_filter.mp hfirst
    obtain ⟨item, hitem, hsame⟩ := hsellers first hfirst
    obtain ⟨group', hmem', htarget⟩ := hevery item hitem
    obtain ⟨hsource', htransaction', hpaymentId', hgroupCurrency'⟩ := fields_of_group (hall group' hmem')
    have hseller : group'.targetAccountId = group.targetAccountId :=
      htarget.trans (hsame.trans (of_decide_eq_true hseller))
    refine ⟨fromDto group', hgroup group' hmem', ?_⟩
    simp [matchesOrder, fromDto, hsource, hsource', hcustomer, hseller, htransaction, htransaction', htype, hpaymentId,
      hpaymentId', hid, hgroupCurrency, hgroupCurrency', hcurrency]

/-! A billing payment: open, with one item. -/

def billingItem : PaymentItemDTO := ⟨120, 20, "postral", .undefined, .undefined⟩

def billing : Payment :=
  ⟨"payment", .purchase, "TRY", "customer", .undefined, .waiting, true, .undefined, .undefined⟩

/-- The order of an open payment is not open. -/
theorem open_flag_lost : ∃ orders' saved, generateSellerPaymentOrders Table.empty billing [billingItem] = .ok (orders', saved) ∧
    ¬ OrdersRight billing [billingItem] Table.empty orders' := by
  refine ⟨_, _, rfl, fun hright => ?_⟩
  obtain ⟨first, rest, -, horder⟩ :=
    hright.right (fromDto (startGroup (fromPaymentItem billingItem billing))) (by decide +kernel) rfl
  have hflag : false = billing.openPayment := congrArg (fun order => order.openPayment) horder
  exact absurd hflag (by decide)

/-- A purchase that is not open. -/
theorem seller_orders_sample : ∃ orders' saved,
    generateSellerPaymentOrders Table.empty { billing with openPayment := false } [billingItem, billingItem] =
      .ok (orders', saved) ∧
    OrdersRight { billing with openPayment := false } [billingItem, billingItem] Table.empty orders' := by
  obtain ⟨orders', saved, hcall, hright, -⟩ :=
    seller_orders_iff Table.empty { billing with openPayment := false } [billingItem, billingItem] (by decide)
  exact ⟨orders', saved, hcall, hright.mpr (Or.inl rfl)⟩

end Postral.Orders.Grouping
