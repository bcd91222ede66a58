import Postral.Lifecycle.Status

/-!
# Completing a payment

A call that saves COMPLETED then owes the rest of the completion: every READY operation fired, the
seller orders and the ledger stored, the digestion event emitted.
-/

open Check Run

namespace Postral.Lifecycle

/-! ## Duties -/

/-- What a COMPLETED payment needs. -/
inductive Duty where
  | fire (operationId : String)
  | order (seller : String)
  | ledger
  | event

def Duty.Done (db : Db) (p : Payment) : Duty → Prop
  | .fire operationId => ∀ operation, db.operations.find operationId = some operation →
      operation.paymentId = p.id → operation.status ≠ .ready
  | .order seller => (∃ item ∈ p.items.rows, item.sellerAccountId = some seller) →
      ∃ order ∈ db.sellerOrders.rows, order.paymentId = p.id ∧ order.targetAccountId = seller
  | .ledger => ∃ accountName corelationId q, core q = core p ∧
      ∀ entry ∈ fromPayment accountName corelationId q, entry ∈ db.transactions
  | .event => p.id ∈ db.digestionEvents

/-- A call at this point has the duty for the payment still before it. -/
def Duty.Ahead (id : String) : Duty → Point → Prop
  | _, .listingReady q => q.id = id
  | .fire operationId, .firing q operations => q.id = id ∧ operationId ∈ operations.map (·.id)
  | _, .firing q _ => q.id = id
  | .order seller, .ordering q _ orders => q.id = id ∧ ∃ order ∈ orders, order.targetAccountId = some seller
  | .ledger, .ordering q _ _ | .event, .ordering q _ _ | .ledger, .ledgerLoading q _ | .event, .ledgerLoading q _
  | .ledger, .ledgerRemoving q _ _ | .event, .ledgerRemoving q _ _ | .ledger, .ledgerSaving q _ _
  | .event, .ledgerSaving q _ _ | .event, .publishing q => q.id = id
  | _, _ => False

/-- A call has saved COMPLETED for the payment and is not over. -/
def InProgress (s : State) (id : String) : Prop :=
  ∃ call point rest p, s.calls call = .active point rest ∧ point.finishing = some p ∧ p.id = id

theorem finishing_of_ahead {id : String} {duty : Duty} {point : Point} (h : duty.Ahead id point) :
    ∃ p, point.finishing = some p ∧ p.id = id := by
  unfold Duty.Ahead at h
  split at h
  all_goals first | exact ⟨_, rfl, h⟩ | exact ⟨_, rfl, h.1⟩ | exact h.elim

/-! ## Runs of updates -/

/-- The calls of `updatePaymentByOperationStatuses`, from the cron job, an event or a request. -/
def Act.isUpdate : Act → Bool
  | .startOperation .. | .cancelPayment .. | .confirmOpenPayment .. | .failPaymentIfSetFailFieldTrue .. => false
  | _ => true

/-- The points of such calls. -/
def Point.updating : Point → Bool
  | .cancelLoading _ | .confirmLoading .. | .confirmSaving _ | .closingOrders _ | .closing _ | .confirmPublishing _
  | .startChecking .. | .startLoading .. | .startPaid .. | .startInitializing .. | .startSaving _ | .flagging .. => false
  | .ordering _ confirmed _ | .ledgerLoading _ confirmed | .ledgerRemoving _ confirmed _
  | .ledgerSaving _ confirmed _ => !confirmed
  | _ => true

/-- After its save of COMPLETED a call neither throws nor dies, and no READY answer of a poll is stored
for a payment that is COMPLETED. -/
def Uninterrupted (s : State) : Act → Prop
  | .advance call env =>
    match s.calls call with
    | .active point _ =>
      (point.finishing.isSome → (pointStep s.db s.now env point).isOk) ∧
      ∀ operation ∈ point.polled, env.answer.paymentStatus = some .ready →
        statusOf s.db operation.paymentId ≠ some .completed
    | .idle => True
  | .fail call | .crash call =>
    match s.calls call with
    | .active point _ => point.finishing = none
    | .idle => True
  | act => act.isUpdate

instance (s : State) : DecidablePred (Uninterrupted s) := fun act =>
  match act with
  | .advance call env =>
    (match s.calls call with
    | .active _ _ => inferInstance
    | .idle => inferInstance :
      Decidable (match s.calls call with
        | .active point _ =>
          (point.finishing.isSome → (pointStep s.db s.now env point).isOk) ∧
          ∀ operation ∈ point.polled, env.answer.paymentStatus = some .ready →
            statusOf s.db operation.paymentId ≠ some .completed
        | .idle => True))
  | .fail call | .crash call =>
    (match s.calls call with
    | .active _ _ => inferInstance
    | .idle => inferInstance :
      Decidable (match s.calls call with
        | .active point _ => point.finishing = none
        | .idle => True))
  | .updatePaymentByOperationStatuses .. | .checkAndUpdateWaitingPayments _ | .handlePaymentOperationStatusUpdated ..
  | .startOperation .. | .cancelPayment .. | .confirmOpenPayment .. | .failPaymentIfSetFailFieldTrue ..
  | .tick _ => inferInstanceAs (Decidable (_ = true))

theorem point_step_updating {db db' : Db} {now : ℕ} {env : Env} {point point' : Point} (hupdating : point.updating = true)
    (h : pointStep db now env point = .ok (db', some point')) : point'.updating = true := by
  cases point with
  | polling p operations | cancelling p operations | handlePolling p operations | firing p operations =>
    cases operations <;> simp [pointStep] at h <;> grind [Point.updating]
  | ordering p confirmed orders =>
    cases orders <;> simp [pointStep] at h <;> grind [Point.updating]
  | totalling | checkingFailed =>
    simp only [pointStep] at h
    split at h <;> simp at h <;> grind [Point.updating]
  | saving | publishing => simp [pointStep] at h
  | loading | listing | completing | listingReady | ledgerLoading | ledgerRemoving | ledgerSaving | checkingOngoing
  | cancelListing | handleListing | handleFinding =>
    simp [pointStep, afterLedger] at h
    grind [Point.updating]
  | _ => simp [Point.updating] at hupdating

/-! ## What the points carry -/

/-- The orders and the ledger entries that a call holds are those of its payment. -/
def Point.Carries : Point → Prop
  | .ordering p _ orders => ∀ order ∈ orders, OrderOf p order
  | .ledgerRemoving p _ entries | .ledgerSaving p _ entries =>
    ∃ accountName corelationId q, core q = core p ∧ entries = fromPayment accountName corelationId q
  | _ => True

theorem point_step_carries {db db' : Db} {now : ℕ} {env : Env} {point point' : Point} (hagrees : point.Agrees db)
    (hcarries : point.Carries) (h : pointStep db now env point = .ok (db', some point')) : point'.Carries := by
  cases point with
  | firing p operations =>
    cases operations <;> simp only [pointStep, bind_eq_ok, pure_eq_ok, Prod.mk.injEq, Option.some.injEq] at h
    · obtain ⟨-, rfl⟩ := h
      exact (seller_payment_orders_spec p).1
    · obtain ⟨_, -, -, rfl⟩ := h
      trivial
  | confirmSaving p =>
    simp only [pointStep, pure_eq_ok, Prod.mk.injEq, Option.some.injEq] at h
    obtain ⟨-, rfl⟩ := h
    exact (seller_payment_orders_spec p).1
  | ordering p confirmed orders =>
    cases orders <;> simp only [pointStep, bind_eq_ok, pure_eq_ok, Prod.mk.injEq, Option.some.injEq] at h
    · obtain ⟨-, rfl⟩ := h
      trivial
    · obtain ⟨_, -, -, rfl⟩ := h
      exact fun order hmem => hcarries order (List.mem_cons_of_mem _ hmem)
  | ledgerLoading p confirmed =>
    simp only [pointStep, findPaymentByIdRaw, bind_eq_ok, orThrow_eq_ok, pure_eq_ok, Prod.mk.injEq,
      Option.some.injEq] at h
    obtain ⟨stored, hstored, -, rfl⟩ := h
    obtain ⟨stored', hstored', hcore⟩ := hagrees.payment p rfl
    rw [hstored, Option.some.injEq] at hstored'
    exact ⟨env.accountName, env.corelationId, stored, hstored' ▸ hcore, rfl⟩
  | ledgerRemoving p confirmed entries =>
    simp only [pointStep, pure_eq_ok, Prod.mk.injEq, Option.some.injEq] at h
    obtain ⟨-, rfl⟩ := h
    exact hcarries
  | ledgerSaving p confirmed entries =>
    simp only [pointStep, afterLedger, pure_eq_ok, Prod.mk.injEq, Option.some.injEq] at h
    obtain ⟨-, rfl⟩ := h
    split <;> trivial
  | polling p operations | cancelling p operations | handlePolling p operations =>
    cases operations <;> simp [pointStep] at h <;> grind [Point.Carries]
  | totalling | checkingFailed | startChecking =>
    simp only [pointStep] at h
    split at h <;> simp at h <;> grind [Point.Carries]
  | saving | publishing | startSaving | confirmPublishing => simp [pointStep] at h
  | _ =>
    simp [pointStep] at h
    grind [Point.Carries]

/-! ## One step of a duty -/

theorem core_items {p q : Payment} (h : core p = core q) : p.items = q.items := by
  have hitems := congrArg Payment.items h
  exact hitems

/-- An operation that was just fired is COMPLETED. -/
theorem fire_operation_spec {env : Operations.Env} {db db' : Db} {operation : PaymentChannelOperation}
    {result : PaymentChannelStatusDTO} (h : fireOperation env db operation result = .ok db') :
    ∃ fired transactions, db' = { db with
        operations := db.operations.save fired, transactions := transactions } ∧
      db.transactions <+: transactions ∧ fired.id = operation.id ∧ fired.status = .completed := by
  unfold fireOperation at h
  simp only [bind_eq_ok, require_eq_ok] at h
  obtain ⟨-, hcompleted, h⟩ := h
  obtain ⟨fired, transactions, rfl, hprefix, hid, -, hstatus, -⟩ := save_payment_channel_record_spec h
  refine ⟨fired, transactions, rfl, hprefix, hid, ?_⟩
  simpa [hcompleted, eq_comm] using hstatus

/-- A call that has a duty before it does it, or keeps it before it. -/
theorem duty_advances {db db' : Db} {now : ℕ} {env : Env} {point : Point} {next : Option Point} {p : Payment} {duty : Duty}
    (hp : AgreesPayment db p) (hagrees : point.Agrees db) (hcarries : point.Carries)
    (hupdating : point.updating = true) (hahead : duty.Ahead p.id point)
    (h : pointStep db now env point = .ok (db', next)) :
    duty.Done db' p ∨ ∃ point', next = some point' ∧ duty.Ahead p.id point' := by
  -- The entity of the call has the columns of the payment.
  have hcore : ∀ q, point.payment? = some q → q.id = p.id → core q = core p := by
    intro q hq hid
    obtain ⟨stored, hstored, hcore⟩ := hp
    obtain ⟨stored', hstored', hcore'⟩ := hagrees.payment q hq
    rw [hid, hstored, Option.some.injEq] at hstored'
    rw [← hcore', ← hstored', hcore]
  cases point with
  | listingReady q =>
    simp only [pointStep, pure_eq_ok, Prod.mk.injEq] at h
    obtain ⟨rfl, rfl⟩ := h
    have hid : q.id = p.id := by cases duty <;> exact hahead
    cases duty with
    | fire operationId =>
      by_cases hready : operationId ∈ (operationsIn db q.id .ready).map (·.id)
      · exact .inr ⟨_, rfl, hid, hready⟩
      · refine .inl fun operation hfind hpayment hstatus => hready ?_
        refine List.mem_map.mpr ⟨operation, ?_, Table.key_of_find hfind⟩
        simp [operationsIn, operationsOf, Table.mem_of_find hfind, hpayment, hid, hstatus]
    | order | ledger | event => exact .inr ⟨_, rfl, hid⟩
  | firing q operations =>
    cases operations with
    | nil =>
      simp only [pointStep, pure_eq_ok, Prod.mk.injEq] at h
      obtain ⟨rfl, rfl⟩ := h
      cases duty with
      | fire operationId => simp [Duty.Ahead] at hahead
      | order seller =>
        by_cases hitem : ∃ item ∈ p.items.rows, item.sellerAccountId = some seller
        · obtain ⟨item, hmem, hseller⟩ := hitem
          rw [← core_items (hcore q rfl hahead)] at hmem
          obtain ⟨order, horder, htarget⟩ := (seller_payment_orders_spec q).2 item hmem
          exact .inr ⟨_, rfl, hahead, order, horder, htarget.trans hseller⟩
        · exact .inl fun h => absurd h hitem
      | ledger | event => exact .inr ⟨_, rfl, hahead⟩
    | cons operation rest =>
      simp only [pointStep, bind_eq_ok, pure_eq_ok, Prod.mk.injEq] at h
      obtain ⟨db', hfire, rfl, rfl⟩ := h
      cases duty with
      | fire operationId =>
        obtain ⟨hid, hmem⟩ := hahead
        rcases List.mem_cons.mp hmem with rfl | hmem
        · obtain ⟨fired, transactions, rfl, -, hfired, hcompleted⟩ := fire_operation_spec hfire
          refine .inl fun stored hfind _ => ?_
          obtain rfl : fired = stored := by simpa [← hfired] using hfind
          simp [hcompleted]
        · exact .inr ⟨_, rfl, hid, hmem⟩
      | order | ledger | event => exact .inr ⟨_, rfl, hahead⟩
  | ordering q confirmed orders =>
    cases orders with
    | nil =>
      simp only [pointStep, pure_eq_ok, Prod.mk.injEq] at h
      obtain ⟨rfl, rfl⟩ := h
      cases duty with
      | fire | order => simp [Duty.Ahead] at hahead
      | ledger | event => exact .inr ⟨_, rfl, hahead⟩
    | cons order rest =>
      simp only [pointStep, bind_eq_ok, pure_eq_ok, Prod.mk.injEq] at h
      obtain ⟨db', hadd, rfl, rfl⟩ := h
      cases duty with
      | fire => simp [Duty.Ahead] at hahead
      | order seller =>
        obtain ⟨hid, target, hmem, htarget⟩ := hahead
        rcases List.mem_cons.mp hmem with rfl | hmem
        · obtain ⟨stored, rfl, hpayment, hstored⟩ := add_transaction_spec hadd
          have hof := hcarries target List.mem_cons_self
          refine .inl fun _ => ⟨stored, Table.mem_save.mpr (.inl rfl), ?_, hstored seller htarget⟩
          rw [hpayment, hof.paymentId, hid]
        · exact .inr ⟨_, rfl, hid, target, hmem, htarget⟩
      | ledger | event => exact .inr ⟨_, rfl, hahead⟩
  | ledgerLoading q confirmed =>
    simp only [pointStep, bind_eq_ok, pure_eq_ok, Prod.mk.injEq] at h
    obtain ⟨_, -, rfl, rfl⟩ := h
    cases duty with
    | fire | order => simp [Duty.Ahead] at hahead
    | ledger | event => exact .inr ⟨_, rfl, hahead⟩
  | ledgerRemoving q confirmed entries =>
    simp only [pointStep, pure_eq_ok, Prod.mk.injEq] at h
    obtain ⟨rfl, rfl⟩ := h
    cases duty with
    | fire | order => simp [Duty.Ahead] at hahead
    | ledger | event => exact .inr ⟨_, rfl, hahead⟩
  | ledgerSaving q confirmed entries =>
    simp only [pointStep, pure_eq_ok, Prod.mk.injEq] at h
    obtain ⟨rfl, rfl⟩ := h
    cases duty with
    | fire | order => simp [Duty.Ahead] at hahead
    | ledger =>
      obtain ⟨accountName, corelationId, stored, hstored, rfl⟩ := hcarries
      refine .inl ⟨accountName, corelationId, stored, hstored.trans (hcore q rfl hahead), fun entry hentry => ?_⟩
      exact List.mem_append_right _ hentry
    | event =>
      obtain rfl : confirmed = false := by simpa [Point.updating] using hupdating
      exact .inr ⟨_, rfl, hahead⟩
  | publishing q =>
    simp only [pointStep, findPaymentByIdRaw, bind_eq_ok, orThrow_eq_ok, pure_eq_ok, Prod.mk.injEq] at h
    obtain ⟨stored, hstored, rfl, rfl⟩ := h
    cases duty with
    | fire | order | ledger => simp [Duty.Ahead] at hahead
    | event =>
      have hid : stored.id = p.id := (Table.key_of_find hstored).trans hahead
      exact .inl (by simp [Duty.Done, emitDigestionEvent, hid])
  | _ => simp [Duty.Ahead] at hahead

/-! What the other steps leave of a duty that is done. -/

theorem fire_stays {db db' : Db} {env : Env} {point : Point} {p : Payment} {operationId : String}
    (h : Effect db env point db') (hupdating : point.updating = true)
    (hready : ∀ operation, point.polled = some operation → env.answer.paymentStatus = some .ready →
      operation.paymentId ≠ p.id)
    (hdone : (Duty.fire operationId).Done db p) : (Duty.fire operationId).Done db' p := by
  -- The saved operation is not a READY one of the payment.
  have hsave : ∀ (saved : PaymentChannelOperation), (saved.paymentId = p.id → saved.status ≠ .ready) →
      ∀ operation, (db.operations.save saved).find operationId = some operation → operation.paymentId = p.id →
        operation.status ≠ .ready := by
    intro saved hsaved operation hfind hpayment
    rw [Table.find_save] at hfind
    split at hfind
    · obtain rfl := Option.some.inj hfind
      exact hsaved hpayment
    · exact hdone operation hfind hpayment
  cases h with
  | @polled operation _ hpoint hpolled =>
    obtain ⟨saved, transactions, rfl, -, -, hpayment, hstatus, -⟩ := save_payment_channel_record_spec hpolled
    refine hsave saved fun hid hstate => hready operation hpoint ?_ (hpayment.symm.trans hid)
    rw [hstatus, hstate]
  | fired _ hanswer hfired =>
    obtain ⟨saved, transactions, rfl, -, -, -, hstatus, -⟩ := save_payment_channel_record_spec hfired
    refine hsave saved fun _ hstate => ?_
    simp [hstate, hanswer] at hstatus
  | cancelled => exact hsave _ fun _ => by simp
  | @flagged id again hpoint => simp [hpoint, Point.updating] at hupdating
  | inserted hpoint => simp [hpoint, Point.updating] at hupdating
  | ordered _ hadd =>
    obtain ⟨_, rfl, -⟩ := add_transaction_spec hadd
    exact hdone
  | same | saved | ordersClosed | removed | entered | published => exact hdone

theorem order_stays {db db' : Db} {env : Env} {point : Point} {p : Payment} {seller : String}
    (h : Effect db env point db') (hupdating : point.updating = true) (hdone : (Duty.order seller).Done db p) :
    (Duty.order seller).Done db' p := by
  cases h with
  | ordered _ hadd =>
    obtain ⟨saved, rfl, -⟩ := add_transaction_spec hadd
    intro hitem
    obtain ⟨order, hmem, hpayment, hseller⟩ := hdone hitem
    by_cases hkey : SellerPaymentOrder.key order = SellerPaymentOrder.key saved
    · obtain ⟨hpayment', hseller'⟩ := Prod.mk.injEq .. ▸ hkey
      exact ⟨saved, Table.mem_save.mpr (.inl rfl), hpayment' ▸ hpayment, hseller' ▸ hseller⟩
    · exact ⟨order, Table.mem_save.mpr (.inr ⟨hmem, hkey⟩), hpayment, hseller⟩
  | polled _ hsave | fired _ _ hsave =>
    obtain ⟨_, _, rfl, -⟩ := save_payment_channel_record_spec hsave
    exact hdone
  | flagged hpoint | inserted hpoint | ordersClosed hpoint => simp [hpoint, Point.updating] at hupdating
  | same | saved | cancelled | removed | entered | published => exact hdone

theorem ledger_stays {db db' : Db} {env : Env} {point : Point} {p : Payment} (h : Effect db env point db')
    (hupdating : point.updating = true) (hdone : Duty.ledger.Done db p)
    (hother : ∀ q confirmed entries, point = .ledgerRemoving q confirmed entries →
      ∀ entry ∈ entries, entry.paymentId ≠ p.id) :
    Duty.ledger.Done db' p := by
  obtain ⟨accountName, corelationId, q, hcore, hentries⟩ := hdone
  refine ⟨accountName, corelationId, q, hcore, fun entry hentry => ?_⟩
  have hmem := hentries entry hentry
  cases h with
  | removed hpoint =>
    -- The removed entries are of another payment.
    refine List.mem_filter.mpr ⟨hmem, ?_⟩
    have hpayment := (from_payment_paymentId hentry).trans (core_id hcore)
    simp only [isOldTransaction, Bool.not_eq_true', List.any_eq_false, decide_eq_true_eq]
    rintro other hmem' ⟨-, heq, -⟩
    exact hother _ _ _ hpoint other hmem' (heq.symm.trans hpayment)
  | entered => exact List.mem_append_left _ hmem
  | polled _ hsave | fired _ _ hsave =>
    obtain ⟨_, _, rfl, hprefix, -⟩ := save_payment_channel_record_spec hsave
    exact hprefix.subset hmem
  | ordered _ hadd =>
    obtain ⟨_, rfl, -⟩ := add_transaction_spec hadd
    exact hmem
  | flagged hpoint | inserted hpoint => simp [hpoint, Point.updating] at hupdating
  | same | saved | cancelled | ordersClosed | published => exact hmem

theorem event_stays {db db' : Db} {env : Env} {point : Point} {p : Payment} (h : Effect db env point db')
    (hupdating : point.updating = true) (hdone : Duty.event.Done db p) : Duty.event.Done db' p := by
  cases h with
  | published => exact List.mem_cons_of_mem _ hdone
  | polled _ hsave | fired _ _ hsave =>
    obtain ⟨_, _, rfl, -⟩ := save_payment_channel_record_spec hsave
    exact hdone
  | ordered _ hadd =>
    obtain ⟨_, rfl, -⟩ := add_transaction_spec hadd
    exact hdone
  | flagged hpoint | inserted hpoint => simp [hpoint, Point.updating] at hupdating
  | same | saved | cancelled | ordersClosed | removed | entered => exact hdone

/-- A duty that is done stays done, or the call that undid it does it next. -/
theorem duty_stays {db db' : Db} {now : ℕ} {env : Env} {point : Point} {next : Option Point} {p : Payment} {duty : Duty}
    (hagrees : point.Agrees db) (hcarries : point.Carries) (hupdating : point.updating = true)
    (hready : ∀ operation, point.polled = some operation → env.answer.paymentStatus = some .ready →
      operation.paymentId ≠ p.id)
    (hdone : duty.Done db p) (h : pointStep db now env point = .ok (db', next)) :
    duty.Done db' p ∨ ∃ point', next = some point' ∧ duty.Ahead p.id point' := by
  have heffect := point_step_effect h
  cases duty with
  | fire => exact .inl (fire_stays heffect hupdating hready hdone)
  | order => exact .inl (order_stays heffect hupdating hdone)
  | event => exact .inl (event_stays heffect hupdating hdone)
  | ledger =>
    by_cases hown : ∃ q confirmed entries, point = .ledgerRemoving q confirmed entries ∧ q.id = p.id
    · obtain ⟨q, confirmed, entries, rfl, hid⟩ := hown
      simp only [pointStep, pure_eq_ok, Prod.mk.injEq] at h
      exact .inr ⟨_, h.2.symm, hid⟩
    · refine .inl (ledger_stays heffect hupdating hdone fun q confirmed entries hpoint entry hentry hid => ?_)
      subst hpoint
      obtain ⟨accountName, corelationId, stored, hcore, rfl⟩ := hcarries
      have hpayment := (from_payment_paymentId hentry).symm.trans hid
      exact hown ⟨q, confirmed, _, rfl, (core_id hcore).symm.trans hpayment⟩

/-! ## Every step -/

def Call.Updating : Call → Prop
  | .idle => True
  | .active point _ => point.updating = true

theorem continueAt_updating {next : Option Point} (h : ∀ point, next = some point → point.updating = true)
    (rest : List String) : (continueAt next rest).Updating := by
  cases next with
  | some point => exact h point rfl
  | none =>
    cases rest with
    | nil => trivial
    | cons id rest => rfl

theorem thrown_updating {point : Point} (h : point.updating = true) : (thrown point).Updating := by
  unfold thrown
  apply continueAt_updating
  intro next hnext
  cases point <;> simp [afterThrow, Point.updating] at hnext h

theorem step_updating {s s' : State} {act : Act} (h : step s act = some s') (hupdate : act.isUpdate = true)
    (hbefore : ∀ call, (s.calls call).Updating) : ∀ call, (s'.calls call).Updating := by
  have hset : ∀ (moved : ℕ) (next : Call), next.Updating → ∀ call, (Function.update s.calls moved next call).Updating :=
    fun moved next hnext => Function.forall_update_iff _ (fun _ => Call.Updating) |>.mpr ⟨hnext, fun call _ => hbefore call⟩
  cases act with
  | startOperation | cancelPayment | confirmOpenPayment | failPaymentIfSetFailFieldTrue => simp [Act.isUpdate] at hupdate
  | updatePaymentByOperationStatuses | handlePaymentOperationStatusUpdated =>
    obtain ⟨-, rfl⟩ := start_spec h
    exact hset _ _ rfl
  | checkAndUpdateWaitingPayments call =>
    obtain ⟨-, rfl⟩ := start_spec h
    exact hset _ _ (continueAt_updating (by simp) _)
  | advance moved env =>
    simp only [step, advance] at h
    split at h <;> rename_i hcall
    · simp at h
    · have hpoint := hbefore moved
      rw [hcall] at hpoint
      split at h <;> rename_i hstep <;> obtain rfl := Option.some.inj h
      · refine hset _ _ (continueAt_updating (fun next hnext => ?_) _)
        exact point_step_updating hpoint (hnext ▸ hstep)
      · exact hset _ _ (thrown_updating hpoint)
  | fail moved =>
    simp only [step] at h
    split at h <;> rename_i hcall
    · simp at h
    · have hpoint := hbefore moved
      rw [hcall] at hpoint
      obtain rfl := Option.some.inj h
      exact hset _ _ (thrown_updating hpoint)
  | crash moved =>
    obtain rfl := Option.some.inj h
    exact hset _ _ trivial
  | tick =>
    obtain rfl := Option.some.inj h
    exact hbefore

/-- The entity of an update is open exactly when the row is. Only an update of a payment that is not open completes it. -/
structure Point.Closed (db : Db) (point : Point) : Prop where
  payment : ∀ p, point.payment? = some p → ∃ stored, db.payments.find p.id = some stored ∧ p.openPayment = stored.openPayment
  completing : ∀ p, point = .completing p → p.openPayment = false

theorem point_step_open {db db' : Db} {now : ℕ} {env : Env} {point point' : Point} (hupdating : point.updating = true)
    (h : pointStep db now env point = .ok (db', some point')) :
    (∀ p', point'.payment? = some p' → (∃ p, point.payment? = some p ∧ p.id = p'.id ∧ p'.openPayment = p.openPayment) ∨
      db.payments.find p'.id = some p') ∧
    ∀ p', point' = .completing p' → p'.openPayment = false := by
  cases point with
  | polling p operations | cancelling p operations | handlePolling p operations | firing p operations =>
    cases operations <;> simp [pointStep] at h <;> grind [Point.payment?]
  | ordering p confirmed orders =>
    cases orders <;> simp [pointStep] at h <;> grind [Point.payment?]
  | totalling | checkingFailed =>
    simp only [pointStep] at h
    split at h <;> simp at h <;> grind [Point.payment?]
  | saving | publishing => simp [pointStep] at h
  | loading id validate =>
    simp only [pointStep, findPaymentByIdRaw, bind_eq_ok, orThrow_eq_ok, pure_eq_ok, Prod.mk.injEq,
      Option.ite_none_left_eq_some, Option.some.injEq] at h
    obtain ⟨stored, hstored, -, -, rfl⟩ := h
    have hid := Table.key_of_find hstored
    split <;> grind [Point.payment?]
  | listing | completing | listingReady | ledgerLoading | ledgerRemoving | ledgerSaving | checkingOngoing
  | cancelListing | handleListing | handleFinding =>
    simp [pointStep, afterLedger] at h
    grind [Point.payment?]
  | _ => simp [Point.updating] at hupdating

/-- Only the entity of the call is written. -/
theorem effect_payments {db db' : Db} {env : Env} {point : Point} (h : Effect db env point db')
    (hupdating : point.updating = true) {id : String} {p' : Payment} (hp' : db'.payments.find id = some p') :
    db.payments.find id = some p' ∨ (point.saved = some p' ∧ p'.id = id) := by
  cases h with
  | @saved q hq =>
    simp only [savePayment, Table.find_save] at hp'
    split at hp' <;> rename_i hid
    · obtain rfl := Option.some.inj hp'
      exact .inr ⟨hq, hid.symm⟩
    · exact .inl hp'
  | polled _ hsave | fired _ _ hsave =>
    obtain ⟨_, _, rfl, -⟩ := save_payment_channel_record_spec hsave
    exact .inl hp'
  | ordered _ hadd =>
    obtain ⟨_, rfl, -⟩ := add_transaction_spec hadd
    exact .inl hp'
  | flagged hpoint | inserted hpoint => simp [hpoint, Point.updating] at hupdating
  | same | cancelled | ordersClosed | removed | entered | published => exact .inl hp'

theorem Point.Closed.keep {db db' : Db} {env : Env} {point moved : Point} (h : point.Closed db)
    (hmoved : moved.Closed db) (hupdating : moved.updating = true) (heffect : Effect db env moved db')
    (hkeeps : Keeps db db') : point.Closed db' := by
  refine ⟨fun p hp => ?_, h.completing⟩
  obtain ⟨stored, hstored, hopen⟩ := h.payment p hp
  obtain ⟨stored', hstored', -⟩ := hkeeps.payments _ _ hstored
  refine ⟨stored', hstored', ?_⟩
  rcases effect_payments heffect hupdating hstored' with hsame | ⟨hsaved, hid⟩
  · rw [hstored, Option.some.injEq] at hsame
    rw [hopen, hsame]
  · obtain ⟨old, hold, hopen'⟩ := hmoved.payment stored' (Point.payment?_of_saved hsaved)
    rw [hid, hstored, Option.some.injEq] at hold
    rw [hopen, hopen', hold]

theorem carries_of_none {point : Point} (h : point.payment? = none) : point.Carries := by
  cases point <;> trivial

/-- What holds between the steps of uninterrupted updates: a COMPLETED payment has every duty done, or
before some call. -/
structure Completing (s : State) : Prop where
  agrees : s.Agrees
  updating : ∀ call, (s.calls call).Updating
  points : ∀ call point rest, s.calls call = .active point rest → point.Sound ∧ point.Carries ∧ point.Closed s.db
  duties : ∀ id p, s.db.payments.find id = some p → p.paymentStatus = .completed → ∀ duty : Duty,
    duty.Done s.db p ∨ ∃ call point rest, s.calls call = .active point rest ∧ duty.Ahead p.id point

theorem Uninterrupted.isUpdate {s : State} {act : Act} (h : Uninterrupted s act) : act.isUpdate = true := by
  cases act <;> first | rfl | exact h

theorem step_points {s s' : State} {act : Act} (h : step s act = some s') (hs : Completing s) :
    ∀ call point rest, s'.calls call = .active point rest → point.Sound ∧ point.Carries ∧ point.Closed s'.db := by
  intro call point' rest' hcall'
  have hstep := step_spec h
  have hupdating : ∀ call point rest, s.calls call = .active point rest → point.updating = true := by
    intro call point rest hcall
    have hbefore := hs.updating call
    rwa [hcall] at hbefore
  -- An entity stays as open as its row.
  have hclosed : ∀ point : Point, point.Closed s.db → point.Closed s'.db := by
    intro point hpoint
    rcases step_db hstep with hsame | ⟨moved, env, movedPoint, rest, next, -, hmoved, hpointStep⟩
    · rwa [hsame]
    · obtain ⟨-, -, hmovedClosed⟩ := hs.points moved movedPoint rest hmoved
      exact hpoint.keep hmovedClosed (hupdating _ _ _ hmoved) (point_step_effect hpointStep) (step_keeps hstep hs.agrees)
  rcases step_point hstep hcall' with hsame | hnew | ⟨env, point, rest, -, hcall, hpointStep⟩
  · obtain ⟨hsound, hcarries, hpoint⟩ := hs.points call point' rest' hsame
    exact ⟨hsound, hcarries, hclosed _ hpoint⟩
  · refine ⟨sound_of_none hnew.1, carries_of_none hnew.1, ⟨by simp [hnew.1], ?_⟩⟩
    rintro p rfl
    simp [Call.isNew, Point.payment?] at hnew
  · obtain ⟨hsound, hcarries, hpoint⟩ := hs.points call point rest hcall
    have hagrees := hs.agrees call
    rw [hcall] at hagrees
    refine ⟨point_step_sound hsound hpointStep, point_step_carries hagrees hcarries hpointStep, hclosed _ ?_⟩
    obtain ⟨hfollows, hcompleting⟩ := point_step_open (hupdating _ _ _ hcall) hpointStep
    refine ⟨fun p' hp' => ?_, hcompleting⟩
    rcases hfollows p' hp' with ⟨p, hp, hid, hopen⟩ | hstored
    · obtain ⟨stored, hstored, hopen'⟩ := hpoint.payment p hp
      exact ⟨stored, hid ▸ hstored, hopen.trans hopen'⟩
    · exact ⟨p', hstored, rfl⟩

/-- The duties of a COMPLETED payment after a step. -/
theorem step_duties {s s' : State} {act : Act} (h : step s act = some s') (hs : Completing s)
    (huninterrupted : Uninterrupted s act) {id : String} {p : Payment} (hp : s'.db.payments.find id = some p)
    (hcompleted : p.paymentStatus = .completed) (duty : Duty) :
    duty.Done s'.db p ∨ ∃ call point rest, s'.calls call = .active point rest ∧ duty.Ahead p.id point := by
  -- The steps that leave the tables alone also leave the call alone that has the duty.
  have hkept : ∀ (moved : ℕ) (next : Call), s.db.payments.find id = some p →
      (∀ point rest, s.calls moved = .active point rest → point.finishing = none) →
      duty.Done s.db p ∨ ∃ call point rest, Function.update s.calls moved next call = .active point rest ∧
        duty.Ahead p.id point := by
    intro moved next hp hmoved
    refine (hs.duties id p hp hcompleted duty).imp_right ?_
    rintro ⟨call, point, rest, hcall, hahead⟩
    obtain ⟨q, hq, -⟩ := finishing_of_ahead hahead
    have hne : call ≠ moved := by
      rintro rfl
      simp [hmoved point rest hcall] at hq
    exact ⟨call, point, rest, (Function.update_of_ne hne _ _).trans hcall, hahead⟩
  cases step_spec h with
  | @started _ moved next hidle _ => exact hkept moved next hp fun point rest hcall => by simp [hidle] at hcall
  | ticked => exact hs.duties id p hp hcompleted duty
  | @crashed moved =>
    refine hkept moved .idle hp fun point rest hcall => ?_
    simpa [Uninterrupted, hcall] using huninterrupted
  | @threw _ moved point rest hmoved hact =>
    refine hkept moved _ hp fun point' rest' hcall => ?_
    obtain ⟨rfl, -⟩ : point = point' ∧ rest = rest' := by simpa [hmoved] using hcall
    rcases hact with rfl | ⟨env, e, rfl, herror⟩
    · simpa [Uninterrupted, hmoved] using huninterrupted
    · simp only [Uninterrupted, hmoved, herror, Except.isOk, Except.toBool, Bool.false_eq_true, imp_false] at huninterrupted
      simpa using huninterrupted.1
  | @advanced moved env point rest db' next hmoved hpoint =>
    have hupdating := hs.updating moved
    rw [hmoved] at hupdating
    have hagrees := hs.agrees moved
    rw [hmoved] at hagrees
    obtain ⟨hsound, hcarries, -⟩ := hs.points moved point rest hmoved
    have hmove : ∀ point', next = some point' → duty.Ahead p.id point' →
        ∃ call point rest', ((s.setDb db').setCall moved (continueAt next rest)).calls call = .active point rest' ∧
          duty.Ahead p.id point := by
      rintro point' rfl hahead
      exact ⟨moved, point', rest, by simp [State.setCall, continueAt], hahead⟩
    rcases effect_payments (point_step_effect hpoint) hupdating hp with hold | ⟨hsaved, hid⟩
    · have hid := Table.key_of_find hold
      rcases hs.duties id p hold hcompleted duty with hdone | ⟨call, point', rest', hcall, hahead⟩
      · have hready : ∀ operation, point.polled = some operation → env.answer.paymentStatus = some .ready →
            operation.paymentId ≠ p.id := by
          intro operation hpolled hanswer hpayment
          simp only [Uninterrupted, hmoved] at huninterrupted
          refine huninterrupted.2 operation hpolled hanswer ?_
          rw [hpayment, hid, statusOf, hold, Option.map_some, hcompleted]
        rcases duty_stays hagrees hcarries hupdating hready hdone hpoint with hdone | ⟨point', hnext, hahead⟩
        · exact .inl hdone
        · exact .inr (hmove point' hnext hahead)
      · by_cases hcallMoved : call = moved
        · subst hcallMoved
          obtain ⟨rfl, -⟩ : point = point' ∧ rest = rest' := by simpa [hmoved] using hcall
          have hstored : AgreesPayment s.db p := ⟨p, by rw [hid, hold], rfl⟩
          rcases duty_advances hstored hagrees hcarries hupdating hahead hpoint with hdone | ⟨point', hnext, hahead⟩
          · exact .inl hdone
          · exact .inr (hmove point' hnext hahead)
        · exact .inr ⟨call, point', rest', (Function.update_of_ne hcallMoved _ _).trans hcall, hahead⟩
    · -- COMPLETED has just been saved: every duty is before this call.
      have hcompletes := (hsound p (Point.payment?_of_saved hsaved)).mp hcompleted
      cases point with
      | completing q =>
        obtain rfl := Option.some.inj hsaved
        simp only [pointStep, pure_eq_ok, Prod.mk.injEq] at hpoint
        obtain ⟨-, rfl⟩ := hpoint
        exact .inr (hmove _ rfl (by cases duty <;> rfl))
      | saving => simp [Point.completes, Point.finishing] at hcompletes
      | confirmSaving | closing | startSaving => simp [Call.Updating, Point.updating] at hupdating
      | _ => simp [Point.saved] at hsaved

theorem step_completing {s s' : State} {act : Act} (h : step s act = some s') (hs : Completing s)
    (huninterrupted : Uninterrupted s act) : Completing s' where
  agrees := step_agrees (step_spec h) hs.agrees
  updating := step_updating h huninterrupted.isUpdate hs.updating
  points := step_points h hs
  duties _ _ hp hcompleted duty := step_duties h hs huninterrupted hp hcompleted duty

end Postral.Lifecycle
