import Postral.Iyzico.Initialisation
import Postral.Lib.Json

/-!
# Verification of a capture (`check`)

The answer of the provider is any value. It is checked against the operation before anything is written.
-/

open Check Run

namespace Postral.Iyzico.Checkout

inductive CheckError where
  | badGateway (message : String)
  | notFound (message : String)
  deriving DecidableEq

/-! ## Reading an answer -/

def responseObject (value : Json) : Except CheckError Json :=
  match value with
  | .object _ => .ok value
  | _ => .error (.badGateway "Invalid iyzico response")

def responseString (value : Option Json) : Except CheckError String :=
  match value.bind Json.asString with
  | some s => if s = "" then .error (.badGateway "Missing string in iyzico response") else .ok s
  | none => .error (.badGateway "Missing string in iyzico response")

/-- A number as it prints, or a string of digits. -/
def responseDecimal (value : Option Json) : Except CheckError {v : ℚ // 0 ≤ v} :=
  match value with
  | some (.string s) =>
    match h : parseNumeral s with
    | some v => .ok ⟨v, parseNumeral_nonneg h⟩
    | none => .error (.badGateway "Invalid decimal in iyzico response")
  | some (.number n) =>
    if h : printsPlain n then .ok ⟨n, h.1⟩ else .error (.badGateway "Invalid decimal in iyzico response")
  | _ => .error (.badGateway "Invalid decimal in iyzico response")

def readTransaction (value : Json) : Except CheckError IyzicoItemTransaction := do
  let item ← responseObject value
  require (item.numberField "transactionStatus" = some 1 ∨ item.numberField "transactionStatus" = some 2)
    (.badGateway "iyzico item transaction is not approved")
  let paymentItemId ← responseString (item.field "itemId")
  let paymentTransactionId ← responseString (item.field "paymentTransactionId")
  let price ← responseDecimal (item.field "price")
  let paidPrice ← responseDecimal (item.field "paidPrice")
  return ⟨paymentItemId, paymentTransactionId, price.1, paidPrice.1, price.2, paidPrice.2⟩

/-! ## The checks -/

/-- The amount, the currency and the basket. -/
def requireDetails (operation : IyzicoOperation) (answer : Json) : Except CheckError Unit := do
  let mismatch := .badGateway "iyzico payment amount, currency or basket mismatch"
  require (answer.stringField "basketId" = some operation.paymentId ∧
    answer.stringField "currency" = some operation.currency) mismatch
  let price ← responseDecimal (answer.field "price")
  require (price.1 = operation.amount.value) mismatch
  let paidPrice ← responseDecimal (answer.field "paidPrice")
  require (paidPrice.1 = operation.amount.value) mismatch

def answeredStatus (answer : Json) : Except CheckError PaymentOperationStatus := do
  let paymentStatus ← responseString (answer.field "paymentStatus")
  let unexpected := .badGateway "Unexpected iyzico payment or fraud status"
  require (paymentStatus = "SUCCESS" ∨ paymentStatus = "FAILURE") unexpected
  let fraudStatus ← orThrow (answer.numberField "fraudStatus") unexpected
  require (fraudStatus = -1 ∨ fraudStatus = 0 ∨ fraudStatus = 1) unexpected
  return if paymentStatus = "FAILURE" ∨ fraudStatus = -1 then .failed
    else if fraudStatus = 1 then .completed
    else .waiting

def basketMatches (operation : IyzicoOperation) (transactions : List IyzicoItemTransaction) : Prop :=
  transactions.length = operation.basketLines.length ∧ (transactions.map (·.paymentItemId)).Nodup ∧
    (transactions.map (·.paymentTransactionId)).Nodup ∧
    (∀ line ∈ operation.basketLines, ∃ item ∈ transactions,
      item.paymentItemId = line.paymentItemId ∧ item.price = line.price.value) ∧
    (transactions.map (·.paidPrice)).sum = operation.amount.value

instance (operation : IyzicoOperation) (transactions : List IyzicoItemTransaction) :
    Decidable (basketMatches operation transactions) := by
  unfold basketMatches
  infer_instance

def readTransactions (answer : Json) : Except CheckError (List IyzicoItemTransaction) := do
  require (answer.numberField "installment" = some 1) (.badGateway "Unexpected iyzico installment count")
  let values ← orThrow (answer.arrayField "itemTransactions") (.badGateway "Missing iyzico item transactions")
  values.mapM readTransaction

/-- The columns that `check` updates. -/
structure CheckUpdate where
  status : PaymentOperationStatus
  providerPaymentId : String
  providerFee : Option ℚ
  itemTransactions : Option (List IyzicoItemTransaction)
  deriving DecidableEq

/-- The transactions and the fee of a capture that is complete. The others keep what is stored. -/
def completedColumns (operation : IyzicoOperation) (answer : Json) (status : PaymentOperationStatus) :
    Except CheckError (Option ℚ × Option (List IyzicoItemTransaction)) :=
  if status = .completed then do
    let transactions ← readTransactions answer
    require (basketMatches operation transactions) (.badGateway "iyzico basket transaction mapping mismatch")
    let rate ← responseDecimal (answer.field "iyziCommissionRateAmount")
    let fee ← responseDecimal (answer.field "iyziCommissionFee")
    return (some (round (rate.1 + fee.1) 4), some transactions)
  else return (operation.providerFee, operation.itemTransactions)

def verifyAnswer (operation : IyzicoOperation) (answer : Json) : Except CheckError CheckUpdate := do
  requireDetails operation answer
  let status ← answeredStatus answer
  let columns ← completedColumns operation answer status
  let providerPaymentId ← responseString (answer.field "paymentId")
  return ⟨status, providerPaymentId, columns.1, columns.2⟩

/-! ## The method -/

/-- What `check` takes from outside. -/
structure CheckEnv where
  /-- `client.retrieve`, which verifies the signature: the answer or its error. -/
  retrieve : String → String → Except CheckError Json
  /-- What other calls write while this one runs. -/
  meanwhile : Table IyzicoOperation.id → Table IyzicoOperation.id

/-- `update({ id, status: 'WAITING' }, …)`. -/
def storeUpdate (operations : Table IyzicoOperation.id) (id : String) (update : CheckUpdate) : Table IyzicoOperation.id :=
  operations.update (fun row => row.id = id ∧ row.status = .waiting) (fun row => { row with
    status := update.status
    providerPaymentId := some update.providerPaymentId
    providerFee := update.providerFee
    itemTransactions := update.itemTransactions }) fun _ => rfl

/-- The table that the call leaves, and the operation that it returns. `none` where it asks the refund service. -/
def check (env : CheckEnv) (operations : Table IyzicoOperation.id) (id : String) :
    Table IyzicoOperation.id × Except CheckError (Option IyzicoOperation) :=
  let current := env.meanwhile operations
  match operations.find id with
  | none => (current, .ok none)
  | some operation =>
    if operation.status = .waiting ∧ operation.callbackReceived ∧ truthy operation.token then
      match env.retrieve (operation.token.getD "") operation.id >>= verifyAnswer operation with
      | .error e => (current, .error e)
      | .ok update =>
        let stored := storeUpdate current id update
        match stored.find id with
        | some operation => (stored, .ok (some operation))
        | none => (stored, .error (.notFound "iyzico operation not found"))
    else (current, .ok (some operation))

/-! ## What is verified -/

/-- The operation has what `initialize` reserves for a request. -/
def Reserved (operation : IyzicoOperation) : Prop :=
  ∃ config payment id callbackUrl subMerchantKeys request,
    mapCheckout config payment id callbackUrl subMerchantKeys = .ok request ∧
    operation.reserved = (reservationOf payment id request).reserved

/-- The answer agrees with the operation: its transactions are the basket's lines, one for one. -/
structure Verified (operation : IyzicoOperation) (answer : Json) (transactions : List IyzicoItemTransaction) : Prop where
  read : readTransactions answer = .ok transactions
  /-- A bijection that keeps item and price. -/
  lines : (transactions.map fun item => (item.paymentItemId, item.price)).Perm
    (operation.basketLines.map fun line => (line.paymentItemId, line.price.value))
  itemIds : (transactions.map (·.paymentItemId)).Nodup
  transactionIds : (transactions.map (·.paymentTransactionId)).Nodup
  paid : (transactions.map (·.paidPrice)).sum = operation.amount.value
  basketId : answer.stringField "basketId" = some operation.paymentId
  currency : answer.stringField "currency" = some operation.currency
  price : ∃ price, responseDecimal (answer.field "price") = .ok price ∧ price.1 = operation.amount.value
  paidPrice : ∃ paidPrice, responseDecimal (answer.field "paidPrice") = .ok paidPrice ∧
    paidPrice.1 = operation.amount.value

section Verification

variable {operation : IyzicoOperation} {answer : Json} {transactions : List IyzicoItemTransaction}

/-- The basket of a request has different lines. -/
theorem Reserved.nodup (h : Reserved operation) : (operation.basketLines.map (·.paymentItemId)).Nodup := by
  obtain ⟨config, payment, id, callbackUrl, subMerchantKeys, request, hmap, hreserved⟩ := h
  have hlines : operation.basketLines = request.basketItems.map fun item => ⟨item.id, item.price⟩ :=
    congrArg (·.2.2.2.2) hreserved
  unfold mapCheckout at hmap
  simp only [bind_eq_ok, orThrow_eq_ok, require_eq_ok, pure_eq_ok] at hmap
  obtain ⟨_, -, _, -, _, -, _, -, _, -, _, -, _, -, _, -, _, -, _, -, _, -, _, -, _, -, _, -, _, -, _, -, basketItems, -, _,
    ⟨hnodup, -⟩, _, -, _, -, _, -, _, -, rfl⟩ := hmap
  rw [hlines, List.map_map]
  exact hnodup

/-- As many transactions as lines, all different, and every line among them: the two are the same. -/
theorem lines_perm (hnodup : (operation.basketLines.map (·.paymentItemId)).Nodup) (h : basketMatches operation transactions) :
    (transactions.map fun item => (item.paymentItemId, item.price)).Perm
      (operation.basketLines.map fun line => (line.paymentItemId, line.price.value)) := by
  obtain ⟨hlength, -, -, hcontained, -⟩ := h
  have hlines : (operation.basketLines.map fun line => (line.paymentItemId, line.price.value)).Nodup := by
    apply List.Nodup.of_map Prod.fst
    rw [List.map_map]
    exact hnodup
  have hsubset : (operation.basketLines.map fun line => (line.paymentItemId, line.price.value)) ⊆
      transactions.map fun item => (item.paymentItemId, item.price) := by
    intro pair hpair
    obtain ⟨line, hline, rfl⟩ := List.mem_map.mp hpair
    obtain ⟨item, hitem, hid, hprice⟩ := hcontained line hline
    exact List.mem_map.mpr ⟨item, hitem, by rw [hid, hprice]⟩
  refine ((List.subperm_of_subset hlines hsubset).perm_of_length_le ?_).symm
  rw [List.length_map, List.length_map]
  exact hlength.le

theorem require_details_eq_ok {u : Unit} : requireDetails operation answer = .ok u ↔
    (answer.stringField "basketId" = some operation.paymentId ∧ answer.stringField "currency" = some operation.currency) ∧
    (∃ price, responseDecimal (answer.field "price") = .ok price ∧ price.1 = operation.amount.value) ∧
    ∃ paidPrice, responseDecimal (answer.field "paidPrice") = .ok paidPrice ∧ paidPrice.1 = operation.amount.value := by
  unfold requireDetails
  simp only [bind_eq_ok, require_eq_ok, exists_const]
  constructor
  · rintro ⟨hnames, price, hprice, hamount, paidPrice, hpaidPrice, hpaid⟩
    exact ⟨hnames, ⟨price, hprice, hamount⟩, paidPrice, hpaidPrice, hpaid⟩
  · rintro ⟨hnames, ⟨price, hprice, hamount⟩, paidPrice, hpaidPrice, hpaid⟩
    exact ⟨hnames, price, hprice, hamount, paidPrice, hpaidPrice, hpaid⟩

theorem verify_answer_spec (hnodup : (operation.basketLines.map (·.paymentItemId)).Nodup) {update : CheckUpdate}
    (h : verifyAnswer operation answer = .ok update) (hstatus : update.status = .completed) :
    ∃ transactions, Verified operation answer transactions ∧ update.itemTransactions = some transactions := by
  unfold verifyAnswer at h
  simp only [bind_eq_ok, pure_eq_ok] at h
  obtain ⟨_, hdetails, status, -, columns, hcolumns, _, -, rfl⟩ := h
  obtain rfl : status = .completed := hstatus
  obtain ⟨⟨hbasket, hcurrency⟩, hprice, hpaid⟩ := require_details_eq_ok.mp hdetails
  unfold completedColumns at hcolumns
  rw [if_pos rfl] at hcolumns
  simp only [bind_eq_ok, require_eq_ok, pure_eq_ok] at hcolumns
  obtain ⟨transactions, hread, _, hmatches, _, -, _, -, rfl⟩ := hcolumns
  exact ⟨transactions, ⟨hread, lines_perm hnodup hmatches, hmatches.2.1, hmatches.2.2.1, hmatches.2.2.2.2, hbasket, hcurrency,
    hprice, hpaid⟩, rfl⟩

end Verification

/-! ## What is reserved -/

section Reservations

variable {config : Config} {s s' : Checkouts} {call : ℕ} {operations : Table IyzicoOperation.id}

theorem Reserved.congr {operation other : IyzicoOperation} (h : Reserved operation)
    (hsame : other.reserved = operation.reserved) : Reserved other := by
  obtain ⟨config, payment, id, callbackUrl, subMerchantKeys, request, hmap, hreserved⟩ := h
  exact ⟨config, payment, id, callbackUrl, subMerchantKeys, request, hmap, hsame.trans hreserved⟩

/-- Every operation is reserved, and what a call is about to insert is reserved too. -/
def AllReserved (s : Checkouts) : Prop :=
  (∀ row ∈ s.operations.rows, Reserved row) ∧
    ∀ call request reservation, s.calls call = some (.inserting request reservation) → Reserved reservation

/-- A step of a call: its rows are reserved, and so is what it inserts next. -/
theorem AllReserved.move (h : AllReserved s) {next : Option InitPoint} (hcalls : s'.calls = Function.update s.calls call next)
    (hrows : ∀ row ∈ s'.operations.rows, Reserved row)
    (hnext : ∀ request reservation, next = some (.inserting request reservation) → Reserved reservation) : AllReserved s' := by
  refine ⟨hrows, fun c request reservation hc => ?_⟩
  rw [hcalls] at hc
  by_cases heq : c = call
  · subst heq
    rw [Function.update_self] at hc
    exact hnext request reservation hc
  · rw [Function.update_of_ne heq] at hc
    exact h.2 c request reservation hc

theorem reserved_update (h : ∀ row ∈ operations.rows, Reserved row) (p : IyzicoOperation → Bool)
    (f : IyzicoOperation → IyzicoOperation) (hf : ∀ r, (f r).id = r.id) (hreserved : ∀ r, (f r).reserved = r.reserved) :
    ∀ row ∈ (operations.update p f hf).rows, Reserved row := by
  intro row hrow
  rcases (Table.mem_update hf).mp hrow with ⟨hold, -⟩ | ⟨old, hold, -, rfl⟩
  · exact h row hold
  · exact (h old hold).congr (hreserved old)

theorem reserved_record (h : ∀ row ∈ operations.rows, Reserved row) (id : String) (result : InitResult) :
    ∀ row ∈ (recordResult operations id result).rows, Reserved row := by
  unfold recordResult
  apply reserved_update h
  exact fun _ => rfl

theorem reserved_mark (h : ∀ row ∈ operations.rows, Reserved row) (id : String) :
    ∀ row ∈ (markForReconciliation operations id).rows, Reserved row := by
  unfold markForReconciliation
  apply reserved_update h
  exact fun _ => rfl

theorem reserved_save (h : ∀ row ∈ operations.rows, Reserved row) {operation : IyzicoOperation} (hoperation : Reserved operation) :
    ∀ row ∈ (operations.save operation).rows, Reserved row := by
  intro row hrow
  rcases Table.mem_save.mp hrow with rfl | ⟨hold, -⟩
  · exact hoperation
  · exact h row hold

theorem AllReserved.advance (h : AllReserved s) (env : InitEnv) {point : InitPoint} (hcall : s.calls call = some point) :
    AllReserved (advanceInit config s call env point) := by
  cases point with
  | mapping payment =>
    simp only [advanceInit]
    split
    · rename_i request hmap
      refine h.move rfl h.1 fun request' reservation heq => ?_
      simp only [Option.some.injEq, InitPoint.inserting.injEq] at heq
      obtain ⟨rfl, rfl⟩ := heq
      exact ⟨config, payment, env.id, _, _, request, hmap, rfl⟩
    · exact h.move rfl h.1 (by simp)
  | inserting request reservation =>
    simp only [advanceInit]
    split
    · exact h.move rfl h.1 (by simp)
    · exact h.move rfl (reserved_save h.1 (h.2 call request reservation hcall)) (by simp)
  | comparing reservation =>
    simp only [advanceInit]
    split <;> exact h.move rfl h.1 (by simp)
  | sending request reservation => exact h.move rfl h.1 (by simp)
  | awaiting reservation =>
    simp only [advanceInit]
    split <;> exact h.move rfl h.1 (by simp)
  | updating reservation result => exact h.move rfl (reserved_record h.1 _ _) (by simp)
  | reading reservation =>
    simp only [advanceInit]
    split <;> exact h.move rfl h.1 (by simp)
  | marking reservation => exact h.move rfl (reserved_mark h.1 _) (by simp)

theorem AllReserved.fail (h : AllReserved s) (applied : Bool) {point : InitPoint} (hcall : s.calls call = some point) :
    AllReserved (failInit s call applied point) := by
  cases point with
  | mapping payment => exact h.move rfl h.1 (by simp)
  | inserting request reservation =>
    simp only [failInit]
    split
    · exact h.move rfl (reserved_save h.1 (h.2 call request reservation hcall)) (by simp)
    · exact h.move rfl h.1 (by simp)
  | comparing reservation => exact h.move rfl h.1 (by simp)
  | sending request reservation =>
    simp only [failInit]
    split <;> exact h.move rfl h.1 (by simp)
  | awaiting reservation => exact h.move rfl h.1 (by simp)
  | updating reservation result =>
    simp only [failInit]
    split
    · exact h.move rfl (reserved_record h.1 _ _) (by simp)
    · exact h.move rfl h.1 (by simp)
  | reading reservation => exact h.move rfl h.1 (by simp)
  | marking reservation =>
    simp only [failInit]
    split
    · exact h.move rfl (reserved_mark h.1 _) (by simp)
    · exact h.move rfl h.1 (by simp)

theorem AllReserved.step (h : AllReserved s) {act : InitAct} (hstep : initStep config s act = some s') : AllReserved s' := by
  cases act with
  | start call payment =>
    simp only [initStep, Option.ite_none_right_eq_some] at hstep
    obtain ⟨-, heq⟩ := hstep
    obtain rfl := Option.some.inj heq
    exact h.move rfl h.1 (by simp)
  | advance call env =>
    obtain ⟨point, hcall, rfl⟩ := Option.map_eq_some_iff.mp hstep
    exact h.advance env hcall
  | fail call applied =>
    obtain ⟨point, hcall, rfl⟩ := Option.map_eq_some_iff.mp hstep
    exact h.fail applied hcall
  | crash call =>
    obtain rfl := Option.some.inj hstep
    exact h.move rfl h.1 (by simp)
  | write operation =>
    simp only [initStep, Option.ite_none_right_eq_some] at hstep
    obtain ⟨⟨row, hfind, hreserved, -⟩, heq⟩ := hstep
    obtain rfl := Option.some.inj heq
    exact ⟨reserved_save h.1 ((h.1 row (Table.find_eq_some_iff.mp hfind).1).congr hreserved), h.2⟩

/-- Whatever calls of `initialize` run, every operation is reserved for a request. -/
theorem reserved_of_run {acts : List InitAct} (hrun : run (initStep config) (.idle .empty) acts = some s) :
    ∀ row ∈ s.operations.rows, Reserved row := by
  have h : AllReserved (.idle .empty) := ⟨fun row hrow => (nomatch hrow), fun _ _ _ hcall => (nomatch hcall)⟩
  exact (run_invariant (fun _ _ _ h hstep => AllReserved.step h hstep) h hrun).1

end Reservations

/-! ## The whole call -/

section Call

variable {env : CheckEnv} {operations : Table IyzicoOperation.id} {id : String}

theorem Verified.congr {operation other : IyzicoOperation} {answer : Json} {transactions : List IyzicoItemTransaction}
    (h : Verified operation answer transactions) (hsame : other.reserved = operation.reserved) :
    Verified other answer transactions := by
  simp only [IyzicoOperation.reserved, Prod.mk.injEq] at hsame
  obtain ⟨-, hpayment, hcurrency, hamount, hlines⟩ := hsame
  exact ⟨h.read, hlines ▸ h.lines, h.itemIds, h.transactionIds, hamount ▸ h.paid, hpayment ▸ h.basketId,
    hcurrency ▸ h.currency, hamount ▸ h.price, hamount ▸ h.paidPrice⟩

/-- Two rows with one id are one row. -/
theorem same_row {row other : IyzicoOperation} (hrow : row ∈ operations.rows) (hother : other ∈ operations.rows)
    (hid : row.id = other.id) : row = other := by
  have hfind := Table.find_of_mem hrow
  rw [hid, Table.find_of_mem hother] at hfind
  exact (Option.some.inj hfind).symm

/-- What a call does: nothing, or an update with a verified answer. -/
theorem check_cases (env : CheckEnv) (operations : Table IyzicoOperation.id) (id : String) :
    (check env operations id).1 = env.meanwhile operations ∨
      ∃ operation answer update, operations.find id = some operation ∧
        (∃ token, env.retrieve token operation.id = .ok answer) ∧ verifyAnswer operation answer = .ok update ∧
        (check env operations id).1 = storeUpdate (env.meanwhile operations) id update ∧
        ∀ e, (check env operations id).2 = .error e → (storeUpdate (env.meanwhile operations) id update).find id = none := by
  unfold check
  dsimp only
  split
  · exact .inl rfl
  · rename_i operation hfind
    split
    · split
      · exact .inl rfl
      · rename_i update hok
        obtain ⟨answer, hanswer, hverify⟩ := bind_eq_ok.mp hok
        refine .inr ⟨operation, answer, update, hfind, ⟨_, hanswer⟩, hverify, ?_⟩
        split <;> rename_i hstored
        · exact ⟨rfl, fun e he => by cases he⟩
        · exact ⟨rfl, fun e _ => hstored⟩
    · exact .inl rfl

theorem store_update_spec {update : CheckUpdate} {stored : IyzicoOperation}
    (h : stored ∈ (storeUpdate operations id update).rows) : stored ∈ operations.rows ∨
      (stored.id = id ∧ stored.status = update.status ∧ stored.itemTransactions = update.itemTransactions) := by
  rcases (Table.mem_update _).mp h with ⟨hold, -⟩ | ⟨old, -, hp, rfl⟩
  · exact .inl hold
  · exact .inr ⟨(of_decide_eq_true hp).1, rfl, rfl⟩

end Call

/-- **Capture verification.** A call completes an operation only with an answer that it has verified, and when it throws,
what is stored is what the other calls have left. -/
theorem capture_verified (config : Config) (acts : List InitAct) (s : Checkouts)
    (hrun : run (initStep config) (.idle .empty) acts = some s) (env : CheckEnv) (id : String)
    (hkeeps : Keeps s.operations (env.meanwhile s.operations)) :
    (∀ row ∈ (env.meanwhile s.operations).rows, ∀ stored ∈ (check env s.operations id).1.rows, stored.id = row.id →
      row.status ≠ .completed → stored.status = .completed →
        ∃ token answer transactions, env.retrieve token row.id = .ok answer ∧ Verified row answer transactions ∧
          stored.itemTransactions = some transactions) ∧
    (∀ e, (check env s.operations id).2 = .error e → (check env s.operations id).1 = env.meanwhile s.operations) := by
  have hreserved := reserved_of_run hrun
  constructor
  · intro row hrow stored hstored hid hbefore hafter
    have hunchanged : stored ∈ (env.meanwhile s.operations).rows → False := by
      intro hold
      have heq : stored = row := same_row hold hrow hid
      exact hbefore (heq ▸ hafter)
    rcases check_cases env s.operations id with hsame | ⟨operation, answer, update, hfind, ⟨token, hanswer⟩, hverify, htable, -⟩
    · exact absurd (hsame ▸ hstored) hunchanged
    · rw [htable] at hstored
      rcases store_update_spec hstored with hold | ⟨hstoredId, hstatus, htransactions⟩
      · exact absurd hold hunchanged
      · obtain ⟨hoperation, hoperationId⟩ := Table.find_eq_some_iff.mp hfind
        obtain ⟨kept, hkept, hsame⟩ := hkeeps operation hoperation
        have hkeptId : kept.id = operation.id := congrArg (·.1) hsame
        have hrowId : row.id = operation.id := by rw [← hid, hstoredId, hoperationId]
        have hkeptRow : kept = row := same_row hkept hrow (hkeptId.trans hrowId.symm)
        subst hkeptRow
        obtain ⟨transactions, hverified, hupdate⟩ :=
          verify_answer_spec (hreserved operation hoperation).nodup hverify (hstatus ▸ hafter)
        exact ⟨token, answer, transactions, hkeptId.symm ▸ hanswer, hverified.congr hsame, htransactions.trans hupdate⟩
  · intro e he
    rcases check_cases env s.operations id with hsame | ⟨operation, answer, update, hfind, -, -, htable, hnone⟩
    · exact hsame
    · -- the operation is still there, so the read after the update finds it
      obtain ⟨hoperation, hoperationId⟩ := Table.find_eq_some_iff.mp hfind
      obtain ⟨kept, hkept, hsame⟩ := hkeeps operation hoperation
      have hkeptId : kept.id = id := (congrArg (·.1) hsame).trans hoperationId
      obtain ⟨stored, hstored, hstoredReserved⟩ := keeps_update (fun row => row.id = id ∧ row.status = .waiting)
        (fun row => { row with
          status := update.status
          providerPaymentId := some update.providerPaymentId
          providerFee := update.providerFee
          itemTransactions := update.itemTransactions }) (fun _ => rfl) (fun _ => rfl) kept hkept
      have hstoredId : stored.id = id := (congrArg (·.1) hstoredReserved).trans hkeptId
      exact absurd hstoredId (Table.find_eq_none_iff.mp (hnone e he) stored hstored)

/-! ## A capture of one item -/

def sampleCheck (answer : Json) : CheckEnv where
  retrieve := fun _ _ => .ok answer
  meanwhile := id

/-- An answer for the purchase of one item, with the item id of its only transaction. -/
def captureAnswer (itemId : String) : Json :=
  .object [("basketId", .string "p"), ("currency", .string "TRY"), ("price", .number 10), ("paidPrice", .string "10.0"),
    ("paymentStatus", .string "SUCCESS"), ("fraudStatus", .number 1), ("installment", .number 1),
    ("paymentId", .string "payment"), ("iyziCommissionRateAmount", .number 0), ("iyziCommissionFee", .number 0),
    ("itemTransactions", .array [.object [("itemId", .string itemId), ("paymentTransactionId", .string "t"),
      ("transactionStatus", .number 2), ("price", .number 10), ("paidPrice", .number 10)]])]

def reservedOperation : IyzicoOperation where
  id := "o"
  paymentId := "p"
  currency := "TRY"
  amount := Decimal.ofUnits 2 Nat.zero_lt_two 1000
  basketLines := [⟨"i", Decimal.ofUnits 2 Nat.zero_lt_two 1000⟩]
  initializationState := .initialized
  token := some "t"
  paymentPageUrl := some "u"

/-- The operation is reserved and initialised, and its callback received. -/
def callbackRun : List InitAct :=
  callAdvancing 0 ⟨"o", none, some ⟨"t", "u"⟩⟩ 6 ++ [.write { reservedOperation with callbackReceived := true }]

/-- The item of the basket completes the operation, another one does not. -/
theorem capture_verified_sample :
    ∃ s ∈ run (initStep asciiConfig) (.idle .empty) callbackRun,
      (∃ stored ∈ (check (sampleCheck (captureAnswer "i")) s.operations "o").1.rows, stored.status = .completed ∧
        ∃ token answer transactions, (sampleCheck (captureAnswer "i")).retrieve token "o" = .ok answer ∧
          Verified { reservedOperation with callbackReceived := true } answer transactions ∧
          stored.itemTransactions = some transactions) ∧
      (check (sampleCheck (captureAnswer "j")) s.operations "o").1 = s.operations := by
  have hrun : ∃ s ∈ run (initStep asciiConfig) (.idle .empty) callbackRun,
      { reservedOperation with callbackReceived := true } ∈ s.operations.rows ∧
      (∃ stored ∈ (check (sampleCheck (captureAnswer "i")) s.operations "o").1.rows,
        stored.id = "o" ∧ stored.status = .completed) ∧
      (check (sampleCheck (captureAnswer "j")) s.operations "o").2.toOption.isNone := by
    decide +kernel
  obtain ⟨s, hs, hrow, ⟨stored, hstored, hid, hstatus⟩, hthrows⟩ := hrun
  refine ⟨s, hs, ⟨stored, hstored, hstatus, ?_⟩, ?_⟩
  · exact (capture_verified _ _ s hs (sampleCheck (captureAnswer "i")) "o" (Keeps.refl _)).1 _ hrow stored hstored hid
      (by decide) hstatus
  · cases hcheck : (check (sampleCheck (captureAnswer "j")) s.operations "o").2 with
    | ok operation => simp [hcheck, Except.toOption] at hthrows
    | error e => exact (capture_verified _ _ s hs (sampleCheck (captureAnswer "j")) "o" (Keeps.refl _)).2 e hcheck

end Postral.Iyzico.Checkout
