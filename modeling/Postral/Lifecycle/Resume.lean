import Postral.Lifecycle.Completion

/-!
# Later attempts

An update that stops before its save of COMPLETED leaves a payment that the cron job selects again.
A later attempt, alone and without a failing step, ends with the payment complete.
-/

open Check Run

namespace Postral.Lifecycle

/-! ## Operations of a payment -/

/-- What an operation counts in `totalPaidOrAuthorizedOf`. -/
def paidAmount (paymentId : String) (operation : PaymentChannelOperation) : ℤ :=
  if operation.paymentId = paymentId ∧ (operation.status = .ready ∨ operation.status = .completed) then operation.amount
  else 0

theorem totalPaidOrAuthorizedOf_eq_total (db : Db) (paymentId : String) :
    totalPaidOrAuthorizedOf db paymentId = db.operations.total (paidAmount paymentId) := by
  unfold totalPaidOrAuthorizedOf operationsOf Table.total
  rw [addNumberValues_eq_sum]
  induction db.operations.rows with
  | nil => rfl
  | cons operation rest ih =>
    by_cases hpayment : operation.paymentId = paymentId
    · by_cases hstatus : operation.status = .ready ∨ operation.status = .completed
      · simp [paidAmount, hpayment, hstatus, ← ih]
      · simp [paidAmount, hpayment, hstatus, ← ih]
    · simp [paidAmount, hpayment, ← ih]

/-- The payment can be completed: it is not resolved, not open, and its operations cover it. -/
structure Pending (db : Db) (id : String) : Prop where
  payment : ∃ p, db.payments.find id = some p ∧ isResolved p.paymentStatus = false ∧ p.openPayment = false ∧
    p.totalAmount ≤ totalPaidOrAuthorizedOf db id
  nonneg : ∀ operation ∈ db.operations.rows, operation.paymentId = id → operation.status = .waiting → 0 ≤ operation.amount

theorem waitingPayments_of_pending {db : Db} {id : String} (h : Pending db id) : id ∈ waitingPayments db := by
  obtain ⟨p, hp, hresolved, hopen, -⟩ := h.payment
  refine List.mem_map.mpr ⟨p, List.mem_filter.mpr ⟨Table.mem_of_find hp, ?_⟩, Table.key_of_find hp⟩
  cases hstatus : p.paymentStatus <;> simp_all [isResolved]

/-- A WAITING operation as it was listed. -/
structure Listed (db : Db) (id : String) (operation : PaymentChannelOperation) : Prop where
  found : db.operations.find operation.id = some operation
  payment : operation.paymentId = id
  waiting : operation.status = .waiting

theorem operationsIn_listed {db : Db} {id : String} : ∀ operation ∈ operationsIn db id .waiting, Listed db id operation := by
  intro operation hoperation
  simp only [operationsIn, operationsOf, List.mem_filter, decide_eq_true_eq] at hoperation
  exact ⟨Table.find_of_mem hoperation.1.1, hoperation.1.2, hoperation.2⟩

/-- A polled answer for a WAITING operation takes nothing from what is paid. -/
theorem check_operation_pending {env : Operations.Env} {db db' : Db} {operation : PaymentChannelOperation}
    {result : PaymentChannelStatusDTO} {id : String} (hlisted : Listed db id operation) (hpending : Pending db id)
    (h : checkOperation env db operation result = .ok db') :
    Pending db' id ∧ ∀ other, Listed db id other → other.id ≠ operation.id → Listed db' id other := by
  unfold checkOperation at h
  split at h
  · obtain ⟨saved, transactions, rfl, -, hid, hpayment, -, hsource⟩ := save_payment_channel_record_spec h
    have hamount : saved.amount = operation.amount := by
      rcases hsource with ⟨hamount, -⟩ | ⟨stored, hstored, hcore⟩
      · exact hamount
      · rw [hlisted.found, Option.some.injEq] at hstored
        subst hstored
        simp only [opCore, Prod.mk.injEq] at hcore
        exact hcore.2.2.1
    have hfound : db.operations.find saved.id = some operation := by rw [hid, hlisted.found]
    have hnonneg : 0 ≤ operation.amount :=
      hpending.nonneg operation (Table.mem_of_find hlisted.found) hlisted.payment hlisted.waiting
    obtain ⟨p, hp, hresolved, hopen, hpaid⟩ := hpending.payment
    refine ⟨⟨⟨p, hp, hresolved, hopen, ?_⟩, ?_⟩, ?_⟩
    · rw [totalPaidOrAuthorizedOf_eq_total] at hpaid ⊢
      have hsaved := Table.total_save_of_find hfound (paidAmount id)
      have hbefore : paidAmount id operation = 0 := by simp [paidAmount, hlisted.waiting]
      have hafter : 0 ≤ paidAmount id saved := by
        unfold paidAmount
        split <;> omega
      have hgrows : db.operations.total (paidAmount id) ≤ (db.operations.save saved).total (paidAmount id) := by omega
      exact hpaid.trans hgrows
    · intro other hmem hother hwaiting
      rcases Table.mem_save.mp hmem with rfl | ⟨hmem, -⟩
      · omega
      · exact hpending.nonneg other hmem hother hwaiting
    · intro other hother hne
      refine ⟨?_, hother.payment, hother.waiting⟩
      rw [← hother.found]
      exact Table.find_save_of_ne (hid ▸ hne)
  · obtain rfl := pure_eq_ok.mp h
    exact ⟨hpending, fun other hother _ => hother⟩

/-! ## One attempt -/

/-- Where an attempt for the payment can be. -/
def Point.attempts (db : Db) (id : String) : Point → Prop
  | .loading id' _ => id' = id ∧ Pending db id
  | .listing p | .totalling p => p.id = id ∧ Pending db id
  | .polling p operations => p.id = id ∧ Pending db id ∧ (∀ operation ∈ operations, Listed db id operation) ∧
      (operations.map (·.id)).Nodup
  | .completing p => p.id = id
  | point => (∃ q, point.finishing = some q ∧ q.id = id) ∧ ∃ p, db.payments.find id = some p ∧
      p.paymentStatus = .completed ∧ ∀ duty : Duty, duty.Done db p ∨ duty.Ahead id point

structure Attempt (db : Db) (id : String) (point : Point) : Prop where
  agrees : point.Agrees db
  sound : point.Sound
  carries : point.Carries
  closed : point.Closed db
  updating : point.updating = true
  attempts : point.attempts db id

/-- COMPLETED, with nothing left to do. -/
def Finished (db : Db) (id : String) : Prop :=
  ∃ p, db.payments.find id = some p ∧ p.paymentStatus = .completed ∧ ∀ duty : Duty, duty.Done db p

/-- The points after the save of COMPLETED. -/
theorem point_step_after {db db' : Db} {now : ℕ} {env : Env} {point : Point} {next : Option Point} {q : Payment}
    (hfinishing : point.finishing = some q) (hupdating : point.updating = true)
    (h : pointStep db now env point = .ok (db', next)) :
    point.saved = none ∧ point.polled = none ∧ ∀ point', next = some point' → ∃ q', point'.finishing = some q' ∧ q'.id = q.id := by
  cases point with
  | firing p operations | ordering p _ operations =>
    cases operations <;> simp [pointStep] at h <;> grind [Point.finishing, Point.saved, Point.polled]
  | listingReady | ledgerLoading | ledgerRemoving | publishing =>
    simp [pointStep] at h
    grind [Point.finishing, Point.saved, Point.polled]
  | ledgerSaving p confirmed =>
    obtain rfl : confirmed = false := by simpa [Point.updating] using hupdating
    simp [pointStep, afterLedger] at h
    grind [Point.finishing, Point.saved, Point.polled]
  | closingOrders | closing | confirmPublishing => simp [Point.updating] at hupdating
  | _ => simp [Point.finishing] at hfinishing

theorem attempts_of_finishing {db : Db} {id : String} {point : Point} {q : Payment} (hq : point.finishing = some q) :
    point.attempts db id ↔ (∃ q, point.finishing = some q ∧ q.id = id) ∧ ∃ p, db.payments.find id = some p ∧
      p.paymentStatus = .completed ∧ ∀ duty : Duty, duty.Done db p ∨ duty.Ahead id point := by
  cases point <;> first | rfl | simp [Point.finishing] at hq

/-- After the save of COMPLETED a step does a duty or leaves it to the next. -/
theorem attempts_after {db db' : Db} {now : ℕ} {env : Env} {point : Point} {next : Option Point} {id : String} {q : Payment}
    (hattempt : Attempt db id point) (hq : point.finishing = some q)
    (h : pointStep db now env point = .ok (db', next)) :
    (∀ point', next = some point' → point'.attempts db' id) ∧ (next = none → Finished db' id) := by
  obtain ⟨⟨q', hq', hid⟩, p, hp, hcompleted, hduties⟩ := (attempts_of_finishing hq).mp hattempt.attempts
  obtain ⟨hsaved, hpolled, hnext⟩ := point_step_after hq' hattempt.updating h
  have hpid := Table.key_of_find hp
  have hagrees := hattempt.agrees
  obtain ⟨p', hp', -⟩ := (effect_keeps (point_step_effect h) hagrees).payments id p hp
  obtain rfl : p = p' := by
    rcases effect_payments (point_step_effect h) hattempt.updating hp' with hsame | ⟨hsome, -⟩
    · simpa [hp] using hsame
    · simp [hsaved] at hsome
  have hafter : ∀ duty : Duty, duty.Done db' p ∨ ∃ point', next = some point' ∧ duty.Ahead p.id point' := by
    intro duty
    rcases hduties duty with hdone | hahead
    · exact duty_stays hagrees hattempt.carries hattempt.updating (by simp [hpolled]) hdone h
    · exact duty_advances ⟨p, by rw [hpid, hp], rfl⟩ hagrees hattempt.carries hattempt.updating (by rwa [hpid]) h
  constructor
  · rintro point' rfl
    obtain ⟨q'', hq'', hid'⟩ := hnext point' rfl
    refine (attempts_of_finishing hq'').mpr ⟨⟨q'', hq'', hid'.trans hid⟩, p, hp', hcompleted, fun duty => ?_⟩
    simpa [hpid] using hafter duty
  · rintro rfl
    exact ⟨p, hp', hcompleted, fun duty => by simpa using hafter duty⟩

theorem attempts_step {db db' : Db} {now : ℕ} {env : Env} {point : Point} {next : Option Point} {id : String}
    (hattempt : Attempt db id point) (h : pointStep db now env point = .ok (db', next)) :
    (∀ point', next = some point' → point'.attempts db' id) ∧ (next = none → Finished db' id) := by
  have hattempts := hattempt.attempts
  cases point with
  | loading id' validate =>
    obtain ⟨rfl, hpending⟩ := hattempts
    obtain ⟨p, hp, hresolved, -⟩ := hpending.payment
    simp only [pointStep, findPaymentByIdRaw, bind_eq_ok, orThrow_eq_ok, pure_eq_ok, Prod.mk.injEq] at h
    obtain ⟨stored, hstored, rfl, rfl⟩ := h
    obtain rfl : p = stored := by simpa [hp] using hstored
    have hid := Table.key_of_find hp
    simp only [hresolved, Bool.false_eq_true, if_false, Option.some.injEq, reduceCtorEq, false_imp_iff, and_true,
      forall_eq']
    split
    · exact ⟨hid, hpending⟩
    · exact ⟨hid, hpending⟩
  | listing p =>
    obtain ⟨rfl, hpending⟩ := hattempts
    simp only [pointStep, pure_eq_ok, Prod.mk.injEq] at h
    obtain ⟨rfl, rfl⟩ := h
    refine ⟨?_, by simp⟩
    rintro _ ⟨⟩
    have hsub : (operationsIn db p.id .waiting).Sublist db.operations.rows := List.filter_sublist.trans List.filter_sublist
    exact ⟨rfl, hpending, operationsIn_listed, (hsub.map _).nodup db.operations.nodup⟩
  | polling p operations =>
    obtain ⟨rfl, hpending, hlisted, hnodup⟩ := hattempts
    cases operations with
    | nil =>
      simp only [pointStep, pure_eq_ok, Prod.mk.injEq] at h
      obtain ⟨rfl, rfl⟩ := h
      refine ⟨?_, by simp⟩
      rintro _ ⟨⟩
      exact ⟨rfl, hpending⟩
    | cons operation rest =>
      simp only [pointStep, bind_eq_ok, pure_eq_ok, Prod.mk.injEq] at h
      obtain ⟨db', hcheck, rfl, rfl⟩ := h
      rw [List.map_cons, List.nodup_cons] at hnodup
      obtain ⟨hpending', hkept⟩ := check_operation_pending (hlisted operation List.mem_cons_self) hpending hcheck
      refine ⟨?_, by simp⟩
      rintro _ ⟨⟩
      refine ⟨rfl, hpending', fun other hother => ?_, hnodup.2⟩
      exact hkept other (hlisted other (List.mem_cons_of_mem _ hother))
        fun heq => hnodup.1 (heq ▸ List.mem_map_of_mem hother)
  | totalling p =>
    obtain ⟨rfl, hpending⟩ := hattempts
    obtain ⟨stored, hstored, -, hopen, hpaid⟩ := hpending.payment
    obtain ⟨stored', hstored', hcore⟩ := hattempt.agrees.payment p rfl
    obtain ⟨stored'', hstored'', hopen'⟩ := hattempt.closed.payment p rfl
    rw [hstored, Option.some.injEq] at hstored' hstored''
    subst hstored' hstored''
    have hcovered : p.openPayment = false ∧ p.totalAmount ≤ totalPaidOrAuthorizedOf db p.id :=
      ⟨hopen'.trans hopen, core_totalAmount hcore ▸ hpaid⟩
    simp only [pointStep, hcovered, and_self, if_true, pure_eq_ok, Prod.mk.injEq] at h
    obtain ⟨rfl, rfl⟩ := h
    refine ⟨?_, by simp⟩
    rintro _ ⟨⟩
    rfl
  | completing p =>
    obtain rfl : p.id = id := hattempts
    simp only [pointStep, pure_eq_ok, Prod.mk.injEq] at h
    obtain ⟨rfl, rfl⟩ := h
    refine ⟨?_, by simp⟩
    rintro _ ⟨⟩
    refine ⟨⟨p, rfl, rfl⟩, p, Table.find_save_self _ _, (hattempt.sound p rfl).mpr rfl, fun duty => .inr ?_⟩
    cases duty <;> rfl
  | listingReady | firing | ordering | ledgerLoading | ledgerRemoving | ledgerSaving | publishing =>
    exact attempts_after hattempt rfl h
  | closingOrders | closing | confirmPublishing => exact absurd hattempt.updating (by simp [Point.updating])
  | _ => simp [Point.attempts, Point.finishing] at hattempts

theorem attempt_step {db db' : Db} {now : ℕ} {env : Env} {point point' : Point} {id : String}
    (hattempt : Attempt db id point) (h : pointStep db now env point = .ok (db', some point')) : Attempt db' id point' := by
  have heffect := point_step_effect h
  have hkeeps := effect_keeps heffect hattempt.agrees
  obtain ⟨hopen, hcompleting⟩ := point_step_open hattempt.updating h
  have hclosed : point'.Closed db := by
    refine ⟨fun p' hp' => ?_, hcompleting⟩
    rcases hopen p' hp' with ⟨p, hp, hid, hopen⟩ | hstored
    · obtain ⟨stored, hstored, hopen'⟩ := hattempt.closed.payment p hp
      exact ⟨stored, hid ▸ hstored, hopen.trans hopen'⟩
    · exact ⟨p', hstored, rfl⟩
  exact {
    agrees := (hattempt.agrees.follow (point_step_follows h)).keep hkeeps
    sound := point_step_sound hattempt.sound h
    carries := point_step_carries hattempt.agrees hattempt.carries h
    closed := hclosed.keep hattempt.closed hattempt.updating heffect hkeeps
    updating := point_step_updating hattempt.updating h
    attempts := (attempts_step hattempt h).1 point' rfl }

/-! ## Its length -/

/-- How many steps an attempt takes at most, over `n` operations and `m` lines. -/
def Point.stepsLeft (n m : ℕ) : Point → ℕ
  | .loading .. => 2 * n + m + 12
  | .listing _ => 2 * n + m + 11
  | .polling _ operations => operations.length + n + m + 10
  | .totalling _ => n + m + 9
  | .completing _ => n + m + 8
  | .listingReady _ => n + m + 7
  | .firing _ operations => operations.length + m + 6
  | .ordering _ _ orders => orders.length + 5
  | .ledgerLoading .. => 4
  | .ledgerRemoving .. => 3
  | .ledgerSaving .. => 2
  | .publishing _ => 1
  | _ => 0

theorem addToOrder_length (object : SellerPaymentOrderDTO) (orders : List SellerPaymentOrderDTO) :
    (addToOrder object orders).length ≤ orders.length + 1 := by
  induction orders with
  | nil => simp [addToOrder]
  | cons order rest ih =>
    unfold addToOrder
    split
    · simp
    · simp only [List.length_cons]
      omega

theorem sellerPaymentOrders_length (p : Payment) : (sellerPaymentOrders p).length ≤ p.items.rows.length := by
  have hfold : ∀ (items : List PaymentItem) (orders : List SellerPaymentOrderDTO),
      (items.foldl (fun orders item => addToOrder (fromPaymentItem item p) orders) orders).length ≤
        orders.length + items.length := by
    intro items
    induction items with
    | nil => simp
    | cons item items ih =>
      intro orders
      have hadd := addToOrder_length (fromPaymentItem item p) orders
      have hrest := ih (addToOrder (fromPaymentItem item p) orders)
      simp only [List.foldl_cons, List.length_cons]
      omega
  have hall := hfold p.items.rows []
  simpa [sellerPaymentOrders] using hall

/-- What an attempt leaves of the sizes: operations are only rewritten, and lines stay. -/
structure Sizes (db : Db) (id : String) (n m : ℕ) : Prop where
  operations : db.operations.rows.length = n
  items : ∀ p, db.payments.find id = some p → p.items.rows.length = m

theorem save_record_length {env : Operations.Env} {db db' : Db} {operation : PaymentChannelOperation}
    {result : PaymentChannelStatusDTO} {paymentId : String} (hagrees : AgreesOperation db operation)
    (h : savePaymentChannelRecord env db operation result paymentId = .ok db') :
    db'.operations.rows.length = db.operations.rows.length := by
  obtain ⟨saved, transactions, rfl, -, hid, -⟩ := save_payment_channel_record_spec h
  obtain ⟨stored, hstored, -⟩ := hagrees
  exact Table.length_save_of_find (hid ▸ hstored)

theorem attempt_sizes {db db' : Db} {now : ℕ} {env : Env} {point : Point} {next : Option Point} {id : String} {n m : ℕ}
    (hattempt : Attempt db id point) (hsizes : Sizes db id n m) (h : pointStep db now env point = .ok (db', next)) :
    Sizes db' id n m := by
  have heffect := point_step_effect h
  constructor
  · rw [← hsizes.operations]
    cases heffect with
    | polled hpoint hsave =>
      exact save_record_length (hattempt.agrees.operations _ (Point.mem_operations_of_polled hpoint)) hsave
    | fired hpoint _ hsave =>
      exact save_record_length (hattempt.agrees.operations _ (Point.mem_operations_of_fired hpoint)) hsave
    | @cancelled payment operation rest hpoint =>
      obtain ⟨stored, hstored, -⟩ := hattempt.agrees.operations operation (by simp [hpoint, Point.operations])
      exact Table.length_save_of_find hstored
    | ordered _ hadd =>
      obtain ⟨_, rfl, -⟩ := add_transaction_spec hadd
      rfl
    | flagged hpoint | inserted hpoint => exact absurd hattempt.updating (by simp [hpoint, Point.updating])
    | same | saved | ordersClosed | removed | entered | published => rfl
  · intro p' hp'
    obtain ⟨p, hp, hcore⟩ := (effect_keeps heffect hattempt.agrees).origin id p' hp'
    rw [core_items hcore]
    exact hsizes.items p hp

/-- Every step takes one of the steps that are left. -/
theorem attempt_shortens {db : Db} (db' : Db) (now : ℕ) (env : Env) {point : Point} {id : String} {n m : ℕ}
    (hattempt : Attempt db id point) (hsizes : Sizes db id n m) :
    0 < point.stepsLeft n m ∧ ∀ point', pointStep db now env point = .ok (db', some point') →
      point'.stepsLeft n m < point.stepsLeft n m := by
  have hattempts := hattempt.attempts
  have hlisted : ∀ paymentId status, (operationsIn db paymentId status).length ≤ n := by
    intro paymentId status
    rw [← hsizes.operations]
    exact (List.length_filter_le _ _).trans (List.length_filter_le _ _)
  have hitems : ∀ q, point.payment? = some q → q.id = id → q.items.rows.length = m := by
    intro q hq hid
    obtain ⟨stored, hstored, hcore⟩ := hattempt.agrees.payment q hq
    rw [← core_items hcore]
    exact hsizes.items stored (hid ▸ hstored)
  cases point with
  | loading id' validate =>
    refine ⟨by simp [Point.stepsLeft], fun point' h => ?_⟩
    simp only [pointStep, bind_eq_ok, pure_eq_ok, Prod.mk.injEq, Option.ite_none_left_eq_some, Option.some.injEq] at h
    obtain ⟨_, -, -, -, rfl⟩ := h
    split <;> simp only [Point.stepsLeft] <;> omega
  | listing p =>
    refine ⟨by simp [Point.stepsLeft], fun point' h => ?_⟩
    simp only [pointStep, pure_eq_ok, Prod.mk.injEq, Option.some.injEq] at h
    obtain ⟨-, rfl⟩ := h
    have := hlisted p.id .waiting
    simp only [Point.stepsLeft]
    omega
  | polling p operations =>
    refine ⟨by simp [Point.stepsLeft], fun point' h => ?_⟩
    cases operations <;> simp only [pointStep, bind_eq_ok, pure_eq_ok, Prod.mk.injEq, Option.some.injEq] at h
    · obtain ⟨-, rfl⟩ := h
      simp [Point.stepsLeft]
    · obtain ⟨_, -, -, rfl⟩ := h
      simp only [Point.stepsLeft, List.length_cons]
      omega
  | totalling p =>
    refine ⟨by simp [Point.stepsLeft], fun point' h => ?_⟩
    simp only [pointStep] at h
    split at h <;> simp only [pure_eq_ok, Prod.mk.injEq, Option.some.injEq] at h <;> obtain ⟨-, rfl⟩ := h <;>
      simp [Point.stepsLeft]
  | completing p =>
    refine ⟨by simp [Point.stepsLeft], fun point' h => ?_⟩
    simp only [pointStep, pure_eq_ok, Prod.mk.injEq, Option.some.injEq] at h
    obtain ⟨-, rfl⟩ := h
    simp [Point.stepsLeft]
  | listingReady p =>
    refine ⟨by simp [Point.stepsLeft], fun point' h => ?_⟩
    simp only [pointStep, pure_eq_ok, Prod.mk.injEq, Option.some.injEq] at h
    obtain ⟨-, rfl⟩ := h
    have := hlisted p.id .ready
    simp only [Point.stepsLeft]
    omega
  | firing p operations =>
    refine ⟨by simp [Point.stepsLeft], fun point' h => ?_⟩
    obtain ⟨⟨q, hq, hid⟩, -⟩ := hattempts
    obtain rfl : p = q := Option.some.inj hq
    cases operations <;> simp only [pointStep, bind_eq_ok, pure_eq_ok, Prod.mk.injEq, Option.some.injEq] at h
    · obtain ⟨-, rfl⟩ := h
      have horders := sellerPaymentOrders_length p
      have hlines := hitems p rfl hid
      simp only [Point.stepsLeft, List.length_nil]
      omega
    · obtain ⟨_, -, -, rfl⟩ := h
      simp only [Point.stepsLeft, List.length_cons]
      omega
  | ordering p confirmed orders =>
    refine ⟨by simp [Point.stepsLeft], fun point' h => ?_⟩
    cases orders <;> simp only [pointStep, bind_eq_ok, pure_eq_ok, Prod.mk.injEq, Option.some.injEq] at h
    · obtain ⟨-, rfl⟩ := h
      simp [Point.stepsLeft]
    · obtain ⟨_, -, -, rfl⟩ := h
      simp [Point.stepsLeft]
  | ledgerLoading p confirmed =>
    refine ⟨by simp [Point.stepsLeft], fun point' h => ?_⟩
    simp only [pointStep, bind_eq_ok, pure_eq_ok, Prod.mk.injEq, Option.some.injEq] at h
    obtain ⟨_, -, -, rfl⟩ := h
    simp [Point.stepsLeft]
  | ledgerRemoving p confirmed entries =>
    refine ⟨by simp [Point.stepsLeft], fun point' h => ?_⟩
    simp only [pointStep, pure_eq_ok, Prod.mk.injEq, Option.some.injEq] at h
    obtain ⟨-, rfl⟩ := h
    simp [Point.stepsLeft]
  | ledgerSaving p confirmed entries =>
    obtain rfl : confirmed = false := by simpa [Point.updating] using hattempt.updating
    refine ⟨by simp [Point.stepsLeft], fun point' h => ?_⟩
    simp only [pointStep, afterLedger, pure_eq_ok, Prod.mk.injEq, Option.some.injEq] at h
    obtain ⟨-, rfl⟩ := h
    simp [Point.stepsLeft]
  | publishing p =>
    refine ⟨by simp [Point.stepsLeft], fun point' h => ?_⟩
    simp [pointStep] at h
  | closingOrders | closing | confirmPublishing => exact absurd hattempt.updating (by simp [Point.updating])
  | _ => simp [Point.attempts, Point.finishing] at hattempts

/-! ## Its run -/

/-- The step of the call does not throw. -/
def Succeeds (s : State) : Act → Prop
  | .advance call env =>
    match s.calls call with
    | .active point _ => (pointStep s.db s.now env point).isOk = true
    | .idle => True
  | .fail _ | .crash _ => False
  | _ => True

instance (s : State) : DecidablePred (Succeeds s) := fun act =>
  match act with
  | .advance call env =>
    (match s.calls call with
    | .active _ _ => inferInstance
    | .idle => inferInstance :
      Decidable (match s.calls call with
        | .active point _ => (pointStep s.db s.now env point).isOk = true
        | .idle => True))
  | .fail _ | .crash _ => instDecidableFalse
  | .updatePaymentByOperationStatuses .. | .checkAndUpdateWaitingPayments _ | .handlePaymentOperationStatusUpdated ..
  | .startOperation .. | .cancelPayment .. | .confirmOpenPayment .. | .failPaymentIfSetFailFieldTrue ..
  | .tick _ => instDecidableTrue

theorem advance_succeeds {s s' : State} {call : ℕ} {env : Env} {point : Point} {rest : List String}
    (hcall : s.calls call = .active point rest) (h : step s (.advance call env) = some s')
    (hok : Succeeds s (.advance call env)) : ∃ db' next, pointStep s.db s.now env point = .ok (db', next) ∧
      s' = (s.setDb db').setCall call (continueAt next rest) := by
  simp only [step, advance, hcall] at h
  simp only [Succeeds, hcall] at hok
  split at h <;> rename_i hpoint
  · exact ⟨_, _, hpoint, (Option.some.inj h).symm⟩
  · simp [hpoint, Except.isOk, Except.toBool] at hok

/-- **Progress.** An attempt without a failing step is over within the steps that were left, and the
payment is finished. -/
theorem attempt_run {s t : State} {call : ℕ} {point : Point} {id : String} {n m : ℕ} {envs : List Env}
    (hcall : s.calls call = .active point []) (hattempt : Attempt s.db id point) (hsizes : Sizes s.db id n m)
    (hok : Meets step Succeeds s (envs.map (.advance call))) (hrun : run step s (envs.map (.advance call)) = some t) :
    envs.length ≤ point.stepsLeft n m ∧ (t.calls call = .idle → Finished t.db id) := by
  induction envs generalizing s point with
  | nil =>
    obtain rfl : s = t := by simpa using hrun
    simp [hcall]
  | cons env envs ih =>
    rw [List.map_cons] at hok hrun
    obtain ⟨s', hstep, hrest⟩ := run_cons_eq_some.mp hrun
    have hok' := hok.2 s' hstep
    obtain ⟨db', next, hpoint, rfl⟩ := advance_succeeds hcall hstep hok.1
    obtain ⟨hpos, hless⟩ := attempt_shortens db' s.now env hattempt hsizes
    cases next with
    | some point' =>
      have hcall' : ((s.setDb db').setCall call (continueAt (some point') [])).calls call = .active point' [] := by
        simp [State.setCall, continueAt]
      obtain ⟨hlength, hfinished⟩ := ih hcall' (attempt_step hattempt hpoint) (attempt_sizes hattempt hsizes hpoint) hok' hrest
      have := hless point' hpoint
      exact ⟨by rw [List.length_cons]; omega, hfinished⟩
    | none =>
      have hidle : ((s.setDb db').setCall call (continueAt none [])).calls call = .idle := by
        simp [State.setCall, continueAt]
      cases envs with
      | cons env' envs => simp [step, advance, hidle] at hrest
      | nil =>
        obtain rfl : _ = t := by simpa using hrest
        exact ⟨hpos, fun _ => (attempts_step hattempt hpoint).2 rfl⟩

/-! ## Completion -/

/-- Nothing of the completion is missing. -/
structure Completed (db : Db) (p : Payment) : Prop where
  operations : ∀ operation ∈ db.operations.rows, operation.paymentId = p.id → operation.status ≠ .ready
  sellerOrders : ∀ item ∈ p.items.rows, ∀ seller, item.sellerAccountId = some seller →
    ∃ order ∈ db.sellerOrders.rows, order.paymentId = p.id ∧ order.targetAccountId = seller
  ledger : ∃ accountName corelationId q, core q = core p ∧
    ∀ entry ∈ fromPayment accountName corelationId q, entry ∈ db.transactions
  event : p.id ∈ db.digestionEvents

theorem completed_iff {db : Db} {p : Payment} : Completed db p ↔ ∀ duty : Duty, duty.Done db p := by
  constructor
  · rintro ⟨hoperations, horders, hledger, hevent⟩ duty
    cases duty with
    | fire operationId => exact fun operation hfind => hoperations operation (Table.mem_of_find hfind)
    | order seller => exact fun ⟨item, hitem, hseller⟩ => horders item hitem seller hseller
    | ledger => exact hledger
    | event => exact hevent
  · intro h
    refine ⟨fun operation hmem => ?_, fun item hitem seller hseller => ?_, h .ledger, h .event⟩
    · exact h (.fire operation.id) operation (Table.find_of_mem hmem)
    · exact h (.order seller) ⟨item, hitem, hseller⟩

theorem finished_iff {db : Db} {id : String} : Finished db id ↔
    ∃ p, db.payments.find id = some p ∧ p.paymentStatus = .completed ∧ Completed db p := by
  simp only [Finished, completed_iff]

theorem completing_of_idle {s : State} (hidle : ∀ call, s.calls call = .idle)
    (hcomplete : ∀ p ∈ s.db.payments.rows, p.paymentStatus = .completed → Completed s.db p) : Completing s where
  agrees call := by
    rw [hidle]
    trivial
  updating call := by
    rw [hidle]
    trivial
  points call point rest hcall := by simp [hidle] at hcall
  duties id p hp hcompleted duty := .inl (completed_iff.mp (hcomplete p (Table.mem_of_find hp) hcompleted) duty)

/-- The call throws at its next step, or its process dies. -/
def Stops (s : State) (call : ℕ) : Act → Prop
  | .fail failed | .crash failed => failed = call
  | .advance advanced env => advanced = call ∧ ¬ Succeeds s (.advance call env)
  | _ => False

theorem stops_db {s s' : State} {call : ℕ} {act : Act} (hstops : Stops s call act) (h : step s act = some s') :
    s'.db = s.db := by
  cases step_spec h with
  | advanced hcall hpoint =>
    obtain ⟨rfl, hfails⟩ := hstops
    simp [Succeeds, hcall, hpoint, Except.isOk, Except.toBool] at hfails
  | started | threw | crashed | ticked => rfl

/-- A later attempt: some update of the payment that starts now and whose steps do not fail. -/
def FinishedLater (s : State) (id : String) : Prop :=
  ∃ bound, ∀ (call : ℕ) (validate : Bool) (envs : List Env) (t : State), s.calls call = .idle →
    Meets step Succeeds s (.updatePaymentByOperationStatuses call id validate :: envs.map (.advance call)) →
    run step s (.updatePaymentByOperationStatuses call id validate :: envs.map (.advance call)) = some t →
    envs.length ≤ bound ∧ (t.calls call = .idle →
      ∃ p, t.db.payments.find id = some p ∧ p.paymentStatus = .completed ∧ Completed t.db p)

theorem finished_later {s : State} {id : String} (hpending : Pending s.db id) : FinishedLater s id := by
  obtain ⟨p, hp, -⟩ := hpending.payment
  refine ⟨2 * s.db.operations.rows.length + p.items.rows.length + 12, ?_⟩
  intro call validate envs t hidle hok hrun
  obtain ⟨s', hstep, hrest⟩ := run_cons_eq_some.mp hrun
  have hok' := hok.2 s' hstep
  obtain ⟨-, rfl⟩ := start_spec hstep
  have hattempt : Attempt s.db id (.loading id validate) :=
    ⟨⟨by simp [Point.payment?], by simp [Point.operations]⟩, sound_of_none rfl, trivial,
      ⟨by simp [Point.payment?], by simp⟩, rfl, rfl, hpending⟩
  have hsizes : Sizes s.db id s.db.operations.rows.length p.items.rows.length :=
    ⟨rfl, fun q hq => by rw [Option.some.inj (hp.symm.trans hq)]⟩
  have hcall : (s.setCall call (.active (.loading id validate) [])).calls call = .active (.loading id validate) [] := by
    simp [State.setCall]
  obtain ⟨hlength, hfinished⟩ := attempt_run hcall hattempt hsizes hok' hrest
  exact ⟨hlength, fun hover => finished_iff.mp (hfinished hover)⟩

/-- **Completion.** In every run of uninterrupted updates, with any failing steps before the save of
COMPLETED: a COMPLETED payment that no call is completing has everything done. A call that stops
leaves the tables alone, and a payment that it held, not open and not resolved by another call, is
selected again. While its operations cover it, a later attempt finishes it. -/
theorem completion_atomic {s₀ s : State} {acts : List Act} (hidle : ∀ call, s₀.calls call = .idle)
    (hcomplete : ∀ p ∈ s₀.db.payments.rows, p.paymentStatus = .completed → Completed s₀.db p)
    (huninterrupted : Meets step Uninterrupted s₀ acts) (hrun : run step s₀ acts = some s) :
    (∀ p ∈ s.db.payments.rows, p.paymentStatus = .completed → ¬ InProgress s p.id → Completed s.db p) ∧
    ∀ call point rest p act s', s.calls call = .active point rest → point.payment? = some p → p.openPayment = false →
      Stops s call act → step s act = some s' → s'.db = s.db ∧
        ((∃ status, statusOf s'.db p.id = some status ∧ isResolved status = true) ∨
          (p.id ∈ waitingPayments s'.db ∧ (Pending s'.db p.id → FinishedLater s' p.id))) := by
  have hs : Completing s := run_invariant_of_meets (fun s act s' hs hok hstep => step_completing hstep hs hok)
    (completing_of_idle hidle hcomplete) huninterrupted hrun
  constructor
  · intro p hp hcompleted hprogress
    refine completed_iff.mpr fun duty => ?_
    rcases hs.duties p.id p (Table.find_of_mem hp) hcompleted duty with hdone | ⟨call, point, rest, hcall, hahead⟩
    · exact hdone
    · obtain ⟨q, hq, hid⟩ := finishing_of_ahead hahead
      exact absurd ⟨call, point, rest, q, hcall, hq, hid⟩ hprogress
  · intro call point rest p act s' hcall hp hopen hstops hstep
    have hdb := stops_db hstops hstep
    refine ⟨hdb, ?_⟩
    obtain ⟨-, -, hclosed⟩ := hs.points call point rest hcall
    obtain ⟨stored, hstored, hopen'⟩ := hclosed.payment p hp
    rw [hdb]
    cases hresolved : isResolved stored.paymentStatus with
    | true => exact .inl ⟨stored.paymentStatus, by simp [statusOf, hstored], hresolved⟩
    | false =>
      refine .inr ⟨?_, fun hpending => finished_later (hdb ▸ hpending)⟩
      refine List.mem_map.mpr ⟨stored, List.mem_filter.mpr ⟨Table.mem_of_find hstored, ?_⟩, Table.key_of_find hstored⟩
      rw [hopen'] at hopen
      cases hstatus : stored.paymentStatus <;> simp_all [isResolved]

/-! ## A channel that refuses to fire -/

/-- A run of one call leaves the other calls idle. -/
theorem only_call {s t : State} {acts : List Act} (hrun : run step s acts = some t)
    (hacts : ∀ act ∈ acts, act.call? = some 0) (hover : t.calls 0 = .idle) (hidle : ∀ call, s.calls call = .idle) (call : ℕ) :
    t.calls call = .idle := by
  by_cases hcall : call = 0
  · rw [hcall, hover]
  · rw [run_other hrun fun act hmem => by rw [hacts act hmem]; simpa using Ne.symm hcall, hidle]

/-- The operation is authorized, and the answer to firing it is FAILED. -/
def authorizedState : State :=
  { sampleState with db := { sampleState.db with
      operations := ⟨[{ sampleOperation with status := .ready }], by decide⟩ } }

def refusingEnv : Env := { sampleEnv with answer := { sampleEnv.answer with paymentStatus := some .failed } }

/-- The update saves COMPLETED, reads the READY operation and throws. -/
def refusedActs : List Act :=
  .updatePaymentByOperationStatuses 0 "payment" false :: List.replicate 5 (.advance 0 refusingEnv)

/-- COMPLETED without the capture, and no later attempt selects it. -/
theorem refused_payment_completed :
    ∃ t p, run step authorizedState refusedActs = some t ∧ (∀ call, t.calls call = .idle) ∧
      t.db.payments.find "payment" = some p ∧ p.paymentStatus = .completed ∧ ¬ Completed t.db p ∧
      "payment" ∉ waitingPayments t.db := by
  have hrun : ∃ t ∈ run step authorizedState refusedActs, t.calls 0 = .idle ∧
      (∃ p ∈ t.db.payments.find "payment", p.paymentStatus = .completed ∧
        ∃ operation ∈ t.db.operations.rows, operation.paymentId = p.id ∧ operation.status = .ready) ∧
      "payment" ∉ waitingPayments t.db := by
    decide +kernel
  obtain ⟨t, ht, hover, ⟨p, hp, hcompleted, operation, hmem, hpayment, hready⟩, hwaiting⟩ := hrun
  refine ⟨t, p, ht, ?_, hp, hcompleted, fun h => h.operations operation hmem hpayment hready, hwaiting⟩
  exact only_call ht (by decide) hover fun _ => rfl

/-- The update of a completed operation goes through. -/
theorem completion_atomic_sample :
    ∃ t p, run step sampleState completeActs = some t ∧ t.db.payments.find "payment" = some p ∧
      p.paymentStatus = .completed ∧ Completed t.db p := by
  have hrun : ∃ t ∈ run step sampleState completeActs, t.calls 0 = .idle ∧
      ∃ p ∈ t.db.payments.find "payment", p.paymentStatus = .completed := by
    decide +kernel
  obtain ⟨t, ht, hover, p, hp, hcompleted⟩ := hrun
  have hcomplete : ∀ p ∈ sampleState.db.payments.rows, p.paymentStatus = .completed → Completed sampleState.db p := by
    intro p hp hcompleted
    simp [sampleState] at hp
    simp [hp, samplePayment] at hcompleted
  have huninterrupted : Meets step Uninterrupted sampleState completeActs := by
    decide +kernel
  have hidle : ∀ call, t.calls call = .idle := only_call ht (by decide) hover fun _ => rfl
  refine ⟨t, p, ht, hp, hcompleted, ?_⟩
  apply (completion_atomic (fun _ => rfl) hcomplete huninterrupted ht).1 p (Table.mem_of_find hp) hcompleted
  rintro ⟨call, point, rest, q, hcall, -⟩
  simp [hidle] at hcall

end Postral.Lifecycle
