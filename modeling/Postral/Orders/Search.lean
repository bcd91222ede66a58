import Postral.Lib.Batch
import Postral.Lifecycle.Service

/-! # Search of seller orders (`SellerPaymentOrderSearchService`) -/

open Check

namespace Postral.Orders

def paymentStatusText : PaymentStatus → String
  | .initiated => "INITIATED"
  | .waiting => "WAITING"
  | .completed => "COMPLETED"
  | .failed => "FAILED"

structure SellerPaymentOrder extends toCore : Lifecycle.SellerPaymentOrder where
  id : String
  createdAt : ℤ
  invoiceCount : ℕ := 0
  hasFinalizedInvoice : Bool := false
  deriving DecidableEq

structure Account where
  id : String
  name : String
  deriving DecidableEq

/-- The columns that `withExternalPlatform` selects. -/
structure PaymentPlatform where
  id : String
  externalPlatformId : Option String
  deriving DecidableEq

structure Db where
  orders : Table SellerPaymentOrder.id
  accounts : Table Account.id
  payments : Table PaymentPlatform.id

structure SellerPaymentOrderDTO extends SellerPaymentOrder where
  targetAccountName : Option String
  sourceAccountName : Option String
  externalPlatformId : Option String := none
  deriving DecidableEq

structure PaymentTransactionSearchDTO where
  admin : Option String := none
  targetAccountIds : Option String := none
  sourceAccountIds : Option String := none
  paymentStatus : Option String := none
  paymentId : Option String := none
  dateFrom : Option String := none
  dateTo : Option String := none

structure PaymentTransactionSearchPaginationDTO extends PaymentTransactionSearchDTO where
  /-- `parseInt`. `none` is not a number. -/
  page : Option ℤ := none
  size : Option ℤ := none
  sortBy : Option String := none
  sortRotation : Option String := none

structure UserAuthBackendDTO where
  id : String

/-- What the search asks of its environment. -/
structure Env where
  /-- `searchOwnershipEntityIdsByUser` of the accounts that the user owns, edits or views. -/
  authorizedAccountIds : UserAuthBackendDTO → List String
  /-- The time that the database reads from a text. -/
  instant : String → Option ℤ
  /-- The order of a column. `none` when there is no such column. -/
  ascending : String → Option (SellerPaymentOrder → SellerPaymentOrder → Bool)

/-! ## The filter -/

inductive DateFilter where
  | between (dateFrom dateTo : String)
  | moreThanOrEqual (dateFrom : String)
  | lessThanOrEqual (dateTo : String)
  deriving DecidableEq

structure Where where
  targetAccountId : Option (List String) := none
  sourceAccountId : Option (List String) := none
  paymentStatus : Option (List String) := none
  paymentId : Option String := none
  createdAt : Option DateFilter := none
  deriving DecidableEq

def splitCommas (text : String) : List String := (text.toList.splitOnP (· = ',')).map String.ofList

/-- The value of a field that is set and not empty. -/
def given (field : Option String) : Option String := if truthy field then field else none

def dateFilter (dateFrom dateTo : Option String) : Option DateFilter :=
  match given dateFrom, given dateTo with
  | some dateFrom, some dateTo => some (.between dateFrom dateTo)
  | some dateFrom, none => some (.moreThanOrEqual dateFrom)
  | none, some dateTo => some (.lessThanOrEqual dateTo)
  | none, none => none

def searchWhereQuery (env : Env) (modelSearch : PaymentTransactionSearchDTO) (user : Option UserAuthBackendDTO) :
    Except HttpError Where := do
  let requested := (given modelSearch.targetAccountIds).map splitCommas
  let authorized ← if modelSearch.admin = some "true" then pure none else do
    let user ← orThrow user (.internal "Unauthorized")
    let authorizedAccountIds := env.authorizedAccountIds user
    -- the list that was asked for stands in the place of the intersection
    pure (some (requested.getD authorizedAccountIds))
  return {
    targetAccountId := requested.orElse fun _ => authorized
    sourceAccountId := (given modelSearch.sourceAccountIds).map splitCommas
    paymentStatus := (given modelSearch.paymentStatus).map splitCommas
    paymentId := given modelSearch.paymentId
    createdAt := dateFilter modelSearch.dateFrom modelSearch.dateTo }

def DateFilter.admits (env : Env) (createdAt : ℤ) : DateFilter → Prop
  | .between dateFrom dateTo => ∃ low ∈ env.instant dateFrom, ∃ high ∈ env.instant dateTo, low ≤ createdAt ∧ createdAt ≤ high
  | .moreThanOrEqual dateFrom => ∃ low ∈ env.instant dateFrom, low ≤ createdAt
  | .lessThanOrEqual dateTo => ∃ high ∈ env.instant dateTo, createdAt ≤ high

instance (env : Env) (createdAt : ℤ) (filter : DateFilter) : Decidable (filter.admits env createdAt) := by
  unfold DateFilter.admits
  split <;> infer_instance

/-- The filters of the other columns. -/
def Where.admitsRest (env : Env) (w : Where) (order : SellerPaymentOrder) : Prop :=
  (∀ ids ∈ w.sourceAccountId, order.sourceAccountId ∈ ids) ∧
  (∀ statuses ∈ w.paymentStatus, paymentStatusText order.paymentStatus ∈ statuses) ∧
  (∀ id ∈ w.paymentId, order.paymentId = id) ∧
  ∀ filter ∈ w.createdAt, filter.admits env order.createdAt

def Where.admits (env : Env) (w : Where) (order : SellerPaymentOrder) : Prop :=
  (∀ ids ∈ w.targetAccountId, order.targetAccountId ∈ ids) ∧ w.admitsRest env order

instance (env : Env) (w : Where) (order : SellerPaymentOrder) : Decidable (w.admitsRest env order) := by
  unfold Where.admitsRest
  infer_instance

instance (env : Env) (w : Where) (order : SellerPaymentOrder) : Decidable (w.admits env order) := by
  unfold Where.admits
  infer_instance

/-! ## The two searches -/

def toDto (db : Db) (saved : SellerPaymentOrder) : SellerPaymentOrderDTO :=
  { toSellerPaymentOrder := saved
    targetAccountName := (db.accounts.find saved.targetAccountId).map (·.name)
    sourceAccountName := (db.accounts.find saved.sourceAccountId).map (·.name) }

def withExternalPlatform (db : Db) (orders : List SellerPaymentOrderDTO) : List SellerPaymentOrderDTO :=
  orders.map fun order => { order with
    externalPlatformId := (db.payments.find order.paymentId).bind (·.externalPlatformId) }

def matching (env : Env) (db : Db) (w : Where) : List SellerPaymentOrder := db.orders.rows.filter (w.admits env ·)

def findAll (env : Env) (db : Db) (modelSearch : PaymentTransactionSearchDTO) (user : Option UserAuthBackendDTO) :
    Except HttpError (List SellerPaymentOrderDTO) := do
  let w ← searchWhereQuery env modelSearch user
  return withExternalPlatform db ((matching env db w).map (toDto db))

structure RawSearchResult where
  content : List SellerPaymentOrderDTO
  page : ℤ
  size : ℤ
  maxItemLength : ℕ
  maxPagesIndex : ℤ
  lastPage : Bool
  firstPage : Bool
  deriving DecidableEq

/-- `parseInt(value) || fallback`. -/
def orDefault (value : Option ℤ) (fallback : ℤ) : ℤ := if value.getD 0 = 0 then fallback else value.getD 0

def modelSearch (env : Env) (db : Db) (search : PaymentTransactionSearchPaginationDTO) (user : Option UserAuthBackendDTO) :
    Except HttpError RawSearchResult := do
  let w ← searchWhereQuery env search.toPaymentTransactionSearchDTO user
  let sortKey := (given search.sortBy).getD "createdAt"
  let ascending := (given search.sortRotation).getD "desc" = "asc"
  let size := orDefault search.size 10
  let page := orDefault search.page 0
  let rows := matching env db w
  let compare ← orThrow (env.ascending sortKey) (.internal "Property was not found in \"SellerPaymentOrder\"")
  require (0 ≤ size ∧ 0 ≤ page * size) (.internal "You have an error in your SQL syntax")
  let sorted := rows.insertionSort fun a b => if ascending then compare a b else compare b a
  let content := (sorted.drop (page * size).toNat).take size.toNat
  return {
    content := withExternalPlatform db (content.map (toDto db))
    page := page
    size := size
    maxItemLength := rows.length
    maxPagesIndex := ⌈(rows.length : ℚ) / size⌉ - 1
    lastPage := rows.length ≤ (page + 1) * size
    firstPage := page = 0 }

/-! ## Isolation -/

/-- Every order that a search returns belongs to one of the accounts. -/
def Confined (env : Env) (search : PaymentTransactionSearchPaginationDTO) (user : UserAuthBackendDTO) : Prop :=
  ∀ db : Db,
    (∀ orders, findAll env db search.toPaymentTransactionSearchDTO (some user) = .ok orders →
      ∀ order ∈ orders, order.targetAccountId ∈ env.authorizedAccountIds user) ∧
    ∀ result, modelSearch env db search (some user) = .ok result →
      ∀ order ∈ result.content, order.targetAccountId ∈ env.authorizedAccountIds user

/-- The databases differ in the orders of other accounts only. -/
structure Agree (accountIds : List String) (db db' : Db) : Prop where
  orders : db.orders.rows.filter (·.targetAccountId ∈ accountIds) = db'.orders.rows.filter (·.targetAccountId ∈ accountIds)
  accounts : db.accounts = db'.accounts
  payments : db.payments = db'.payments

def NonInterfering (env : Env) (search : PaymentTransactionSearchPaginationDTO) (user : UserAuthBackendDTO) : Prop :=
  ∀ db db' : Db, Agree (env.authorizedAccountIds user) db db' →
    findAll env db search.toPaymentTransactionSearchDTO (some user) =
        findAll env db' search.toPaymentTransactionSearchDTO (some user) ∧
      modelSearch env db search (some user) = modelSearch env db' search (some user)

/-- The filter without the accounts. -/
def restOf (modelSearch : PaymentTransactionSearchDTO) : Where where
  sourceAccountId := (given modelSearch.sourceAccountIds).map splitCommas
  paymentStatus := (given modelSearch.paymentStatus).map splitCommas
  paymentId := given modelSearch.paymentId
  createdAt := dateFilter modelSearch.dateFrom modelSearch.dateTo

/-- The search names authorised accounts only, or names none and does not ask for the admin branch, or no order
at all meets its other filters. -/
def Restricted (env : Env) (modelSearch : PaymentTransactionSearchDTO) (user : UserAuthBackendDTO) : Prop :=
  (match given modelSearch.targetAccountIds with
    | some ids => ∀ id ∈ splitCommas ids, id ∈ env.authorizedAccountIds user
    | none => modelSearch.admin ≠ some "true") ∨
  ∀ order, ¬ (restOf modelSearch).admitsRest env order

section Isolation

variable {env : Env} {modelSearch : PaymentTransactionSearchDTO} {user : UserAuthBackendDTO}

/-- The filter of a user's search. -/
def whereOf (env : Env) (modelSearch : PaymentTransactionSearchDTO) (user : UserAuthBackendDTO) : Where :=
  { restOf modelSearch with
    targetAccountId := match given modelSearch.targetAccountIds with
      | some ids => some (splitCommas ids)
      | none => if modelSearch.admin = some "true" then none else some (env.authorizedAccountIds user) }

theorem search_where_query_spec (env : Env) (modelSearch : PaymentTransactionSearchDTO) (user : UserAuthBackendDTO) :
    searchWhereQuery env modelSearch (some user) = .ok (whereOf env modelSearch user) := by
  unfold searchWhereQuery whereOf restOf
  by_cases hadmin : modelSearch.admin = some "true" <;> cases given modelSearch.targetAccountIds <;>
    simp [hadmin, orThrow, bind, Except.bind, pure, Except.pure]

theorem admits_where (order : SellerPaymentOrder) :
    (whereOf env modelSearch user).admits env order ↔
      (match given modelSearch.targetAccountIds with
        | some ids => order.targetAccountId ∈ splitCommas ids
        | none => modelSearch.admin ≠ some "true" → order.targetAccountId ∈ env.authorizedAccountIds user) ∧
      (restOf modelSearch).admitsRest env order := by
  unfold whereOf Where.admits
  apply and_congr
  · cases given modelSearch.targetAccountIds with
    | some ids => simp
    | none => by_cases hadmin : modelSearch.admin = some "true" <;> simp [hadmin]
  · rfl

theorem authorized_of_restricted (h : Restricted env modelSearch user) {order : SellerPaymentOrder}
    (hadmits : (whereOf env modelSearch user).admits env order) :
    order.targetAccountId ∈ env.authorizedAccountIds user := by
  obtain ⟨htarget, hrest⟩ := admits_where order |>.mp hadmits
  rcases h with h | h
  · cases hgiven : given modelSearch.targetAccountIds with
    | some ids =>
      simp only [hgiven] at h htarget
      exact h _ htarget
    | none =>
      simp only [hgiven] at h htarget
      exact htarget h
  · exact absurd hrest (h order)

/-- A search that is not restricted admits an order of another account. -/
theorem foreign_order_admitted (h : ¬ Restricted env modelSearch user) :
    ∃ order, (whereOf env modelSearch user).admits env order ∧
      order.targetAccountId ∉ env.authorizedAccountIds user := by
  obtain ⟨hopen, hsome⟩ := not_or.mp h
  push Not at hsome
  obtain ⟨order, hrest⟩ := hsome
  have hforeign : ∃ account, account ∉ env.authorizedAccountIds user ∧
      (match given modelSearch.targetAccountIds with
        | some ids => account ∈ splitCommas ids
        | none => modelSearch.admin ≠ some "true" → account ∈ env.authorizedAccountIds user) := by
    cases hgiven : given modelSearch.targetAccountIds with
    | some ids =>
      simp only [hgiven] at hopen
      push Not at hopen
      obtain ⟨account, hasked, hnot⟩ := hopen
      exact ⟨account, hnot, hasked⟩
    | none =>
      simp only [hgiven, not_not] at hopen
      obtain ⟨account, hnot⟩ := Infinite.exists_notMem_finset (env.authorizedAccountIds user).toFinset
      exact ⟨account, fun hmem => hnot (List.mem_toFinset.mpr hmem), fun hadmin => absurd hopen hadmin⟩
  obtain ⟨account, hnot, hasked⟩ := hforeign
  refine ⟨{ order with targetAccountId := account }, ?_, hnot⟩
  exact (admits_where _).mpr ⟨hasked, hrest⟩

theorem matching_congr (h : Restricted env modelSearch user) {db db' : Db}
    (hagree : Agree (env.authorizedAccountIds user) db db') :
    matching env db (whereOf env modelSearch user) = matching env db' (whereOf env modelSearch user) := by
  have hown : ∀ db : Db, matching env db (whereOf env modelSearch user) =
      (db.orders.rows.filter (·.targetAccountId ∈ env.authorizedAccountIds user)).filter
        ((whereOf env modelSearch user).admits env ·) := by
    intro db
    rw [List.filter_filter]
    apply List.filter_congr
    intro order _
    by_cases hadmits : (whereOf env modelSearch user).admits env order
    · simp [hadmits, authorized_of_restricted h hadmits]
    · simp [hadmits]
  rw [hown db, hown db', hagree.orders]

theorem find_all_spec (db : Db) : findAll env db modelSearch (some user) =
    .ok (withExternalPlatform db ((matching env db (whereOf env modelSearch user)).map (toDto db))) := by
  unfold findAll
  rw [search_where_query_spec]
  rfl

theorem withExternalPlatform_congr {db db' : Db} {accountIds : List String} (hagree : Agree accountIds db db')
    (orders : List SellerPaymentOrder) :
    withExternalPlatform db (orders.map (toDto db)) = withExternalPlatform db' (orders.map (toDto db')) := by
  have hdto : toDto db = toDto db' := by
    funext order
    rw [toDto, toDto, hagree.accounts]
  rw [hdto, withExternalPlatform, withExternalPlatform, hagree.payments]

theorem mem_results {db : Db} {orders : List SellerPaymentOrder} {order : SellerPaymentOrderDTO}
    (h : order ∈ withExternalPlatform db (orders.map (toDto db))) : order.toSellerPaymentOrder ∈ orders := by
  simp only [withExternalPlatform, List.map_map, List.mem_map] at h
  obtain ⟨saved, hmem, rfl⟩ := h
  exact hmem

theorem model_search_content {search : PaymentTransactionSearchPaginationDTO} {db : Db} {result : RawSearchResult}
    (h : Orders.modelSearch env db search (some user) = .ok result) {order : SellerPaymentOrderDTO} (horder : order ∈ result.content) :
    order.toSellerPaymentOrder ∈ matching env db (whereOf env search.toPaymentTransactionSearchDTO user) := by
  unfold Orders.modelSearch at h
  simp only [search_where_query_spec, bind_eq_ok, pure_eq_ok, Except.ok.injEq] at h
  obtain ⟨_, rfl, compare, -, -, -, rfl⟩ := h
  have hmem := List.mem_of_mem_drop (List.mem_of_mem_take (mem_results horder))
  exact (List.perm_insertionSort _ _).mem_iff.mp hmem

end Isolation

/-- **Search isolation.** For every search of a user: the results are confined to the user's accounts, and tell
nothing of the other orders, exactly when the search is restricted to them. -/
theorem search_isolated_iff (env : Env) (search : PaymentTransactionSearchPaginationDTO) (user : UserAuthBackendDTO) :
    (Confined env search user ↔ Restricted env search.toPaymentTransactionSearchDTO user) ∧
    (NonInterfering env search user ↔ Restricted env search.toPaymentTransactionSearchDTO user) := by
  refine ⟨⟨fun h => ?_, fun h db => ⟨?_, ?_⟩⟩, ⟨fun h => ?_, fun h db db' hagree => ⟨?_, ?_⟩⟩⟩
  · by_contra hopen
    obtain ⟨order, hadmits, hnot⟩ := foreign_order_admitted hopen
    obtain ⟨hfind, -⟩ := h ⟨Table.empty.save order, Table.empty, Table.empty⟩
    refine hnot (hfind _ (find_all_spec _) { toSellerPaymentOrder := order, targetAccountName := none, sourceAccountName := none } ?_)
    have hmatching : matching env ⟨Table.empty.save order, Table.empty, Table.empty⟩
        (whereOf env search.toPaymentTransactionSearchDTO user) = [order] := by
      simp [matching, Table.save, Table.empty, hadmits]
    rw [hmatching]
    simp [withExternalPlatform, toDto, Table.find, Table.empty]
  · intro orders hok order horder
    rw [find_all_spec, Except.ok.injEq] at hok
    subst hok
    have hmem := List.mem_filter.mp (mem_results horder)
    exact authorized_of_restricted h (of_decide_eq_true hmem.2)
  · intro result hok order horder
    have hmem := List.mem_filter.mp (model_search_content hok horder)
    exact authorized_of_restricted h (of_decide_eq_true hmem.2)
  · by_contra hopen
    obtain ⟨order, hadmits, hnot⟩ := foreign_order_admitted hopen
    have hagree : Agree (env.authorizedAccountIds user) ⟨Table.empty.save order, Table.empty, Table.empty⟩
        ⟨Table.empty, Table.empty, Table.empty⟩ :=
      ⟨by simp [Table.save, Table.empty, hnot], rfl, rfl⟩
    obtain ⟨hfind, -⟩ := h _ _ hagree
    rw [find_all_spec, find_all_spec, Except.ok.injEq] at hfind
    have hlength := congrArg List.length hfind
    simp [withExternalPlatform, matching, Table.save, Table.empty, hadmits] at hlength
  · rw [find_all_spec, find_all_spec, matching_congr h hagree, withExternalPlatform_congr hagree]
  · unfold modelSearch
    rw [search_where_query_spec]
    simp only [bind, Except.bind, matching_congr h hagree, withExternalPlatform_congr hagree]

/-! ## A search for another account -/

def sampleOrder (id targetAccountId : String) : SellerPaymentOrder :=
  { amount := 1000000, taxAmount := 0, untaxedAmount := 1000000, currency := "TRY", paymentId := "sale",
    targetAccountId := targetAccountId, sourceAccountId := "customer", paymentStatus := .completed,
    sellerOrderType := .creditToSeller, id := id, createdAt := 0 }

def sampleDb : Db := ⟨Table.empty.saveAll [sampleOrder "order-1" "ana", sampleOrder "order-2" "ben"], Table.empty, Table.empty⟩

/-- The user is authorised for the account `ana`. -/
def sampleEnv : Env := ⟨fun _ => ["ana"], fun _ => none, fun _ => some fun a b => decide (a.createdAt ≤ b.createdAt)⟩

/-- The account of somebody else is found by its id, and all of them with the admin flag. -/
theorem search_shows_foreign_order :
    ¬ Confined sampleEnv { targetAccountIds := some "ben" } ⟨"user"⟩ ∧ ¬ Confined sampleEnv { admin := some "true" } ⟨"user"⟩ := by
  constructor
  · intro h
    have hfind := (h sampleDb).1 _ (find_all_spec _)
    exact absurd hfind (by decide +kernel)
  · intro h
    have hfind := (h sampleDb).1 _ (find_all_spec _)
    exact absurd hfind (by decide +kernel)

end Postral.Orders
