import Postral.Lifecycle.System

/-!
# What a step of any call changes

`Effect` lists everything that a point of a call can write, `Step` everything that a step can do.
-/

open Check

namespace Postral.Lifecycle

/-! ## What a point holds -/

/-- The entity that the call holds. -/
def Point.payment? : Point → Option Payment
  | .listing p | .polling p _ | .totalling p | .completing p | .listingReady p | .firing p _ | .ordering p _ _
  | .ledgerLoading p _ | .ledgerRemoving p _ _ | .ledgerSaving p _ _ | .publishing p | .checkingFailed p
  | .checkingOngoing p | .cancelListing p | .cancelling p _ | .saving p | .confirmSaving p | .closingOrders p
  | .closing p | .confirmPublishing p | .startPaid p _ | .startInitializing p _ _ | .startSaving p => some p
  | .loading .. | .handleListing _ | .handlePolling .. | .handleFinding _ | .cancelLoading _ | .confirmLoading ..
  | .startChecking .. | .startLoading .. | .flagging .. => none

/-- The operations that the call has read and not handled yet. -/
def Point.operations : Point → List PaymentChannelOperation
  | .polling _ operations | .firing _ operations | .cancelling _ operations | .handlePolling _ operations => operations
  | _ => []

/-- The entity that the next step saves. -/
def Point.saved : Point → Option Payment
  | .completing p | .saving p | .confirmSaving p | .closing p | .startSaving p => some p
  | _ => none

/-- The operation whose polled answer the next step stores. -/
def Point.polled : Point → Option PaymentChannelOperation
  | .polling _ (operation :: _) | .handlePolling _ (operation :: _) =>
    if truthy operation.operationId then some operation else none
  | _ => none

/-- The operation that the next step fires. -/
def Point.fired : Point → Option PaymentChannelOperation
  | .firing _ (operation :: _) => some operation
  | _ => none

/-! ## Effects -/

/-- What a step of a call at `point` does to the tables. -/
inductive Effect (db : Db) (env : Env) (point : Point) : Db → Prop where
  | same : Effect db env point db
  | saved {q : Payment} (h : point.saved = some q) : Effect db env point (savePayment db q)
  | flagged {id : String} {again : Bool} (h : point = .flagging id again) :
      Effect db env point (failPaymentIfSetFailFieldTrue db id)
  | polled {operation : PaymentChannelOperation} {db' : Db} (h : point.polled = some operation)
      (hsave : savePaymentChannelRecord env.operations db operation env.answer operation.paymentId = .ok db') :
      Effect db env point db'
  | fired {operation : PaymentChannelOperation} {db' : Db} (h : point.fired = some operation)
      (hanswer : env.answer.paymentStatus = some .completed)
      (hsave : savePaymentChannelRecord env.operations db operation env.answer operation.paymentId = .ok db') :
      Effect db env point db'
  | inserted {payment : Payment} {amount : ℚ} {capture : PaymentCaptureInfoDTO} {db' : Db}
      (h : point = .startInitializing payment amount capture)
      (hinsert : insertOperation env.operations db payment amount capture env.recordId env.answer = .ok db') :
      Effect db env point db'
  | cancelled {payment : Payment} {operation : PaymentChannelOperation} {rest : List PaymentChannelOperation}
      (h : point = .cancelling payment (operation :: rest)) : Effect db env point (cancelOperation db operation)
  | ordered {payment : Payment} {confirmed : Bool} {order : SellerPaymentOrderDTO} {rest : List SellerPaymentOrderDTO}
      {db' : Db} (h : point = .ordering payment confirmed (order :: rest)) (hadd : addTransaction db order = .ok db') :
      Effect db env point db'
  | ordersClosed {payment : Payment} (h : point = .closingOrders payment) :
      Effect db env point (closeOpenPaymentOrders db payment.id)
  | removed {payment : Payment} {confirmed : Bool} {entries : List AccountPaymentTransaction}
      (h : point = .ledgerRemoving payment confirmed entries) : Effect db env point (deleteOldTransactions db entries)
  | entered {payment : Payment} {confirmed : Bool} {entries : List AccountPaymentTransaction}
      (h : point = .ledgerSaving payment confirmed entries) : Effect db env point (saveTransactions db entries)
  | published {payment : Payment} (h : point = .publishing payment ∨ point = .confirmPublishing payment) :
      Effect db env point (emitDigestionEvent db payment.id)

theorem check_operation_effect {db db' : Db} {env : Env} {operation : PaymentChannelOperation} {point : Point}
    (hpoint : truthy operation.operationId → point.polled = some operation)
    (h : checkOperation env.operations db operation env.answer = .ok db') : Effect db env point db' := by
  unfold checkOperation at h
  split at h <;> rename_i hid
  · exact .polled (hpoint hid) h
  · obtain rfl := pure_eq_ok.mp h
    exact .same

theorem point_step_effect {db db' : Db} {now : ℕ} {env : Env} {point : Point} {next : Option Point}
    (h : pointStep db now env point = .ok (db', next)) : Effect db env point db' := by
  cases point with
  | listing p | listingReady p | checkingOngoing p | cancelListing p | handleListing operationId =>
    simp only [pointStep, pure_eq_ok, Prod.mk.injEq] at h
    obtain ⟨rfl, -⟩ := h
    exact .same
  | loading | handleFinding | startPaid | ledgerLoading =>
    simp only [pointStep, bind_eq_ok, pure_eq_ok, Prod.mk.injEq] at h
    obtain ⟨_, -, rfl, -⟩ := h
    exact .same
  | cancelLoading | confirmLoading | startLoading =>
    simp only [pointStep, bind_eq_ok, pure_eq_ok, Prod.mk.injEq] at h
    obtain ⟨_, -, _, -, rfl, -⟩ := h
    exact .same
  | totalling | checkingFailed | startChecking =>
    simp only [pointStep] at h
    split at h <;> simp only [pure_eq_ok, Prod.mk.injEq] at h <;> obtain ⟨rfl, -⟩ := h
    · exact .same
    · exact .same
  | completing p | saving p | confirmSaving p | closing p | startSaving p =>
    simp only [pointStep, pure_eq_ok, Prod.mk.injEq] at h
    obtain ⟨rfl, -⟩ := h
    exact .saved rfl
  | polling _ operations | handlePolling _ operations =>
    cases operations with
    | nil =>
      simp only [pointStep, pure_eq_ok, Prod.mk.injEq] at h
      obtain ⟨rfl, -⟩ := h
      exact .same
    | cons operation rest =>
      simp only [pointStep, bind_eq_ok, pure_eq_ok, Prod.mk.injEq] at h
      obtain ⟨db', hcheck, rfl, -⟩ := h
      exact check_operation_effect (fun hid => by simp [Point.polled, hid]) hcheck
  | firing p operations =>
    cases operations with
    | nil =>
      simp only [pointStep, pure_eq_ok, Prod.mk.injEq] at h
      obtain ⟨rfl, -⟩ := h
      exact .same
    | cons operation rest =>
      simp only [pointStep, fireOperation, bind_eq_ok, require_eq_ok, pure_eq_ok, Prod.mk.injEq] at h
      obtain ⟨db', ⟨_, hanswer, hsave⟩, rfl, -⟩ := h
      exact .fired rfl hanswer hsave
  | cancelling p operations =>
    cases operations with
    | nil =>
      simp only [pointStep, pure_eq_ok, Prod.mk.injEq] at h
      obtain ⟨rfl, -⟩ := h
      exact .same
    | cons operation rest =>
      simp only [pointStep, pure_eq_ok, Prod.mk.injEq] at h
      obtain ⟨rfl, -⟩ := h
      exact .cancelled rfl
  | ordering p confirmed orders =>
    cases orders with
    | nil =>
      simp only [pointStep, pure_eq_ok, Prod.mk.injEq] at h
      obtain ⟨rfl, -⟩ := h
      exact .same
    | cons order rest =>
      simp only [pointStep, bind_eq_ok, pure_eq_ok, Prod.mk.injEq] at h
      obtain ⟨db', hadd, rfl, -⟩ := h
      exact .ordered rfl hadd
  | ledgerRemoving p confirmed entries =>
    simp only [pointStep, pure_eq_ok, Prod.mk.injEq] at h
    obtain ⟨rfl, -⟩ := h
    exact .removed rfl
  | ledgerSaving p confirmed entries =>
    simp only [pointStep, pure_eq_ok, Prod.mk.injEq] at h
    obtain ⟨rfl, -⟩ := h
    exact .entered rfl
  | publishing p | confirmPublishing p =>
    simp only [pointStep, findPaymentByIdRaw, bind_eq_ok, orThrow_eq_ok, pure_eq_ok, Prod.mk.injEq] at h
    obtain ⟨stored, hstored, rfl, -⟩ := h
    rw [Table.key_of_find hstored]
    exact .published (by simp)
  | closingOrders p =>
    simp only [pointStep, pure_eq_ok, Prod.mk.injEq] at h
    obtain ⟨rfl, -⟩ := h
    exact .ordersClosed rfl
  | startInitializing p amount capture =>
    simp only [pointStep, bind_eq_ok, pure_eq_ok, Prod.mk.injEq] at h
    obtain ⟨db', hinsert, rfl, -⟩ := h
    exact .inserted rfl hinsert
  | flagging id again =>
    simp only [pointStep, pure_eq_ok, Prod.mk.injEq] at h
    obtain ⟨rfl, -⟩ := h
    exact .flagged rfl

/-! ## The next point -/

/-- The next point holds the entity and operations of this one, or some that were just read. -/
structure Follows (db : Db) (point point' : Point) : Prop where
  payment : ∀ p', point'.payment? = some p' → (∃ p, point.payment? = some p ∧ core p' = core p) ∨
    ∃ stored, db.payments.find p'.id = some stored ∧ core p' = core stored
  operations : ∀ operation ∈ point'.operations, operation ∈ point.operations ∨ operation ∈ db.operations.rows

theorem follows_same {db : Db} {point point' : Point} {p p' : Payment} (hp : point.payment? = some p)
    (hp' : point'.payment? = some p') (hcore : core p' = core p)
    (hoperations : ∀ operation ∈ point'.operations, operation ∈ point.operations ∨ operation ∈ db.operations.rows) :
    Follows db point point' := by
  refine ⟨fun q hq => Or.inl ⟨p, hp, ?_⟩, hoperations⟩
  rw [hp', Option.some.injEq] at hq
  rw [← hq, hcore]

theorem follows_read {db : Db} {point point' : Point} {id : String} {stored p' : Payment}
    (hstored : db.payments.find id = some stored) (hp' : point'.payment? = some p') (hcore : core p' = core stored)
    (hoperations : point'.operations = []) : Follows db point point' := by
  refine ⟨fun q hq => Or.inr ⟨stored, ?_, ?_⟩, by simp [hoperations]⟩ <;> rw [hp', Option.some.injEq] at hq <;>
    rw [← hq]
  · rwa [core_id hcore, Table.key_of_find hstored]
  · exact hcore

theorem follows_new {db : Db} {point point' : Point} (hp' : point'.payment? = none)
    (hoperations : ∀ operation ∈ point'.operations, operation ∈ point.operations ∨ operation ∈ db.operations.rows) :
    Follows db point point' :=
  ⟨by simp [hp'], hoperations⟩

theorem point_step_follows {db db' : Db} {now : ℕ} {env : Env} {point point' : Point}
    (h : pointStep db now env point = .ok (db', some point')) : Follows db point point' := by
  have hread : ∀ {paymentId status} (operation), operation ∈ operationsIn db paymentId status →
      operation ∈ db.operations.rows :=
    fun _ h => List.mem_of_mem_filter (List.mem_of_mem_filter h)
  have hnone : ∀ operation ∈ ([] : List PaymentChannelOperation),
      operation ∈ point.operations ∨ operation ∈ db.operations.rows := by simp
  cases point with
  | completing p | confirmSaving p | closingOrders p | ledgerRemoving p =>
    simp only [pointStep, pure_eq_ok, Prod.mk.injEq, Option.some.injEq] at h
    obtain ⟨-, rfl⟩ := h
    exact follows_same rfl rfl rfl hnone
  | checkingOngoing p =>
    simp only [pointStep, pure_eq_ok, Prod.mk.injEq, Option.some.injEq] at h
    obtain ⟨-, rfl⟩ := h
    exact follows_same rfl rfl (by split <;> rfl) hnone
  | listing p | listingReady p =>
    simp only [pointStep, pure_eq_ok, Prod.mk.injEq, Option.some.injEq] at h
    obtain ⟨-, rfl⟩ := h
    exact follows_same rfl rfl rfl fun operation hop => .inr (hread operation hop)
  | cancelListing p =>
    simp only [pointStep, pure_eq_ok, Prod.mk.injEq, Option.some.injEq] at h
    obtain ⟨-, rfl⟩ := h
    exact follows_same rfl rfl rfl fun operation hop => .inr (hread operation (List.mem_of_mem_filter hop))
  | handleListing operationId =>
    simp only [pointStep, pure_eq_ok, Prod.mk.injEq, Option.some.injEq] at h
    obtain ⟨-, rfl⟩ := h
    exact follows_new rfl fun operation hop => .inr (List.mem_of_mem_filter hop)
  | polling p operations | firing p operations | cancelling p operations =>
    cases operations <;> simp only [pointStep, bind_eq_ok, pure_eq_ok, Prod.mk.injEq, Option.some.injEq] at h
    · obtain ⟨-, rfl⟩ := h
      exact follows_same rfl rfl rfl hnone
    · first | obtain ⟨-, rfl⟩ := h | obtain ⟨_, -, -, rfl⟩ := h
      exact follows_same rfl rfl rfl fun operation hop => .inl (List.mem_cons_of_mem _ hop)
  | handlePolling operationId operations =>
    cases operations <;> simp only [pointStep, bind_eq_ok, pure_eq_ok, Prod.mk.injEq, Option.some.injEq] at h
    · obtain ⟨-, rfl⟩ := h
      exact follows_new rfl hnone
    · obtain ⟨_, -, -, rfl⟩ := h
      exact follows_new rfl fun operation hop => .inl (List.mem_cons_of_mem _ hop)
  | ordering p confirmed orders =>
    cases orders <;> simp only [pointStep, bind_eq_ok, pure_eq_ok, Prod.mk.injEq, Option.some.injEq] at h
    · obtain ⟨-, rfl⟩ := h
      exact follows_same rfl rfl rfl hnone
    · obtain ⟨_, -, -, rfl⟩ := h
      exact follows_same rfl rfl rfl hnone
  | totalling p =>
    simp only [pointStep] at h
    split at h <;> simp only [pure_eq_ok, Prod.mk.injEq, Option.some.injEq] at h <;> obtain ⟨-, rfl⟩ := h
    · exact follows_same rfl rfl rfl hnone
    · exact follows_same rfl rfl rfl hnone
  | checkingFailed p =>
    simp only [pointStep] at h
    split at h <;> simp only [pure_eq_ok, Prod.mk.injEq, Option.some.injEq] at h <;> obtain ⟨-, rfl⟩ := h <;> split
    · exact follows_same rfl rfl rfl hnone
    · exact follows_same rfl rfl rfl hnone
    · exact follows_same rfl rfl rfl hnone
    · exact follows_same rfl rfl rfl hnone
  | ledgerSaving p confirmed entries =>
    simp only [pointStep, afterLedger, pure_eq_ok, Prod.mk.injEq, Option.some.injEq] at h
    obtain ⟨-, rfl⟩ := h
    split
    · exact follows_same rfl rfl rfl hnone
    · exact follows_same rfl rfl rfl hnone
  | closing p =>
    simp only [pointStep, pure_eq_ok, Prod.mk.injEq, Option.ite_none_right_eq_some, Option.some.injEq] at h
    obtain ⟨-, -, rfl⟩ := h
    exact follows_same rfl rfl rfl hnone
  | ledgerLoading p | startPaid p | startInitializing p =>
    simp only [pointStep, bind_eq_ok, pure_eq_ok, Prod.mk.injEq, Option.some.injEq] at h
    obtain ⟨_, -, -, rfl⟩ := h
    exact follows_same rfl rfl rfl hnone
  | loading id validate =>
    simp only [pointStep, findPaymentByIdRaw, bind_eq_ok, orThrow_eq_ok, pure_eq_ok, Prod.mk.injEq,
      Option.ite_none_left_eq_some, Option.some.injEq] at h
    obtain ⟨stored, hstored, -, -, rfl⟩ := h
    split
    · exact follows_read hstored rfl rfl rfl
    · exact follows_read hstored rfl rfl rfl
  | cancelLoading | confirmLoading | startLoading =>
    simp only [pointStep, findPaymentByIdRaw, bind_eq_ok, orThrow_eq_ok, pure_eq_ok, Prod.mk.injEq,
      Option.some.injEq] at h
    obtain ⟨stored, hstored, _, -, -, rfl⟩ := h
    exact follows_read hstored rfl rfl rfl
  | handleFinding =>
    simp only [pointStep, bind_eq_ok, pure_eq_ok, Prod.mk.injEq, Option.some.injEq] at h
    obtain ⟨_, -, -, rfl⟩ := h
    exact follows_new rfl hnone
  | startChecking =>
    simp only [pointStep] at h
    split at h <;> simp only [pure_eq_ok, Prod.mk.injEq, Option.some.injEq] at h <;> obtain ⟨-, rfl⟩ := h
    · exact follows_new rfl hnone
    · exact follows_new rfl hnone
  | flagging =>
    simp only [pointStep, pure_eq_ok, Prod.mk.injEq, Option.ite_none_right_eq_some, Option.some.injEq] at h
    obtain ⟨-, -, rfl⟩ := h
    exact follows_new rfl hnone
  | saving | startSaving | publishing | confirmPublishing => simp [pointStep] at h

/-! ## Completed entities -/

/-- The entity of a call that has saved COMPLETED and goes on. -/
def Point.finishing : Point → Option Payment
  | .listingReady p | .firing p _ | .ordering p _ _ | .ledgerLoading p _ | .ledgerRemoving p _ _ | .ledgerSaving p _ _
  | .publishing p | .closingOrders p | .closing p | .confirmPublishing p => some p
  | _ => none

/-- The points that hold a COMPLETED entity. -/
def Point.completes : Point → Bool
  | .completing _ | .confirmSaving _ => true
  | point => point.finishing.isSome

def Point.Sound (point : Point) : Prop :=
  ∀ p, point.payment? = some p → (p.paymentStatus = .completed ↔ point.completes = true)

theorem point_step_finishing {db db' : Db} {now : ℕ} {env : Env} {point point' : Point}
    (h : pointStep db now env point = .ok (db', some point')) {p' : Payment} (hp' : point'.finishing = some p') :
    ((point = .completing p' ∨ point = .confirmSaving p') ∧ db' = savePayment db p') ∨
      ∃ p, point.finishing = some p ∧ p'.id = p.id := by
  cases point with
  | completing p | confirmSaving p =>
    simp only [pointStep, pure_eq_ok, Prod.mk.injEq, Option.some.injEq] at h
    obtain ⟨rfl, rfl⟩ := h
    cases hp'
    exact .inl ⟨by simp, rfl⟩
  | listingReady p | ledgerRemoving p | closingOrders p =>
    simp only [pointStep, pure_eq_ok, Prod.mk.injEq, Option.some.injEq] at h
    obtain ⟨-, rfl⟩ := h
    cases hp'
    exact .inr ⟨_, rfl, rfl⟩
  | firing p operations =>
    cases operations <;> simp only [pointStep, bind_eq_ok, pure_eq_ok, Prod.mk.injEq, Option.some.injEq] at h
    · obtain ⟨-, rfl⟩ := h
      cases hp'
      exact .inr ⟨_, rfl, rfl⟩
    · obtain ⟨_, -, -, rfl⟩ := h
      cases hp'
      exact .inr ⟨_, rfl, rfl⟩
  | ordering p confirmed orders =>
    cases orders <;> simp only [pointStep, bind_eq_ok, pure_eq_ok, Prod.mk.injEq, Option.some.injEq] at h
    · obtain ⟨-, rfl⟩ := h
      cases hp'
      exact .inr ⟨_, rfl, rfl⟩
    · obtain ⟨_, -, -, rfl⟩ := h
      cases hp'
      exact .inr ⟨_, rfl, rfl⟩
  | ledgerLoading p =>
    simp only [pointStep, bind_eq_ok, pure_eq_ok, Prod.mk.injEq, Option.some.injEq] at h
    obtain ⟨_, -, -, rfl⟩ := h
    cases hp'
    exact .inr ⟨_, rfl, rfl⟩
  | ledgerSaving p confirmed =>
    simp only [pointStep, afterLedger, pure_eq_ok, Prod.mk.injEq, Option.some.injEq] at h
    obtain ⟨-, rfl⟩ := h
    cases confirmed <;> cases hp'
    · exact .inr ⟨_, rfl, rfl⟩
    · exact .inr ⟨_, rfl, rfl⟩
  | closing p =>
    simp only [pointStep, pure_eq_ok, Prod.mk.injEq, Option.ite_none_right_eq_some, Option.some.injEq] at h
    obtain ⟨-, -, rfl⟩ := h
    cases hp'
    exact .inr ⟨_, rfl, rfl⟩
  | polling p operations | cancelling p operations | handlePolling p operations =>
    exfalso
    cases operations <;> simp [pointStep] at h <;> grind [Point.finishing]
  | totalling | checkingFailed | startChecking =>
    exfalso
    simp only [pointStep] at h
    split at h <;> simp at h <;> grind [Point.finishing]
  | saving | startSaving | publishing | confirmPublishing => simp [pointStep] at h
  | _ =>
    exfalso
    simp [pointStep] at h
    grind [Point.finishing]

theorem sound_of_status {point : Point} {p : Payment} (hp : point.payment? = some p)
    (h : p.paymentStatus = .completed ↔ point.completes = true) : point.Sound := by
  intro q hq
  rw [hp, Option.some.injEq] at hq
  rwa [← hq]

theorem sound_of_none {point : Point} (h : point.payment? = none) : point.Sound := by
  intro q hq
  simp [h] at hq

theorem point_step_sound {db db' : Db} {now : ℕ} {env : Env} {point point' : Point} (hsound : point.Sound)
    (h : pointStep db now env point = .ok (db', some point')) : point'.Sound := by
  cases point with
  | completing p | confirmSaving p | closingOrders p | ledgerRemoving p | listing p | listingReady p
  | cancelListing p =>
    simp only [pointStep, pure_eq_ok, Prod.mk.injEq, Option.some.injEq] at h
    obtain ⟨-, rfl⟩ := h
    exact sound_of_status rfl (hsound p rfl)
  | checkingOngoing p =>
    simp only [pointStep, pure_eq_ok, Prod.mk.injEq, Option.some.injEq] at h
    obtain ⟨-, rfl⟩ := h
    split
    · exact sound_of_status rfl (hsound p rfl)
    · exact sound_of_status rfl (by simp [Point.completes, Point.finishing])
  | polling p operations | firing p operations | cancelling p operations =>
    cases operations <;> simp only [pointStep, bind_eq_ok, pure_eq_ok, Prod.mk.injEq, Option.some.injEq] at h
    · obtain ⟨-, rfl⟩ := h
      exact sound_of_status rfl (hsound p rfl)
    · first | obtain ⟨-, rfl⟩ := h | obtain ⟨_, -, -, rfl⟩ := h
      exact sound_of_status rfl (hsound p rfl)
  | ordering p confirmed orders =>
    cases orders <;> simp only [pointStep, bind_eq_ok, pure_eq_ok, Prod.mk.injEq, Option.some.injEq] at h
    · obtain ⟨-, rfl⟩ := h
      exact sound_of_status rfl (hsound p rfl)
    · obtain ⟨_, -, -, rfl⟩ := h
      exact sound_of_status rfl (hsound p rfl)
  | totalling p =>
    simp only [pointStep] at h
    split at h <;> simp only [pure_eq_ok, Prod.mk.injEq, Option.some.injEq] at h <;> obtain ⟨-, rfl⟩ := h
    · exact sound_of_status rfl (by simp [Point.completes])
    · exact sound_of_status rfl (hsound p rfl)
  | checkingFailed p =>
    simp only [pointStep] at h
    split at h <;> simp only [pure_eq_ok, Prod.mk.injEq, Option.some.injEq] at h <;> obtain ⟨-, rfl⟩ := h <;> split
    · exact sound_of_status rfl (by simp [Point.completes, Point.finishing])
    · exact sound_of_status rfl (hsound p rfl)
    · exact sound_of_status rfl (by simp [Point.completes, Point.finishing])
    · exact sound_of_status rfl (hsound p rfl)
  | ledgerSaving p confirmed entries =>
    simp only [pointStep, afterLedger, pure_eq_ok, Prod.mk.injEq, Option.some.injEq] at h
    obtain ⟨-, rfl⟩ := h
    split
    · exact sound_of_status rfl (hsound p rfl)
    · exact sound_of_status rfl (hsound p rfl)
  | closing p =>
    simp only [pointStep, pure_eq_ok, Prod.mk.injEq, Option.ite_none_right_eq_some, Option.some.injEq] at h
    obtain ⟨-, -, rfl⟩ := h
    exact sound_of_status rfl (hsound p rfl)
  | ledgerLoading p | startPaid p =>
    simp only [pointStep, bind_eq_ok, pure_eq_ok, Prod.mk.injEq, Option.some.injEq] at h
    obtain ⟨_, -, -, rfl⟩ := h
    exact sound_of_status rfl (hsound p rfl)
  | startInitializing p =>
    simp only [pointStep, bind_eq_ok, pure_eq_ok, Prod.mk.injEq, Option.some.injEq] at h
    obtain ⟨_, -, -, rfl⟩ := h
    exact sound_of_status rfl (by simp [Point.completes, Point.finishing])
  | loading id validate =>
    simp only [pointStep, bind_eq_ok, pure_eq_ok, Prod.mk.injEq, Option.ite_none_left_eq_some,
      Option.some.injEq] at h
    obtain ⟨stored, -, -, hresolved, rfl⟩ := h
    have hstatus : stored.paymentStatus ≠ .completed := fun hcompleted => by simp [isResolved, hcompleted] at hresolved
    split
    · exact sound_of_status rfl (by simp [hstatus, Point.completes, Point.finishing])
    · exact sound_of_status rfl (by simp [hstatus, Point.completes, Point.finishing])
  | startLoading =>
    simp only [pointStep, assertPaymentIsNotResolved, bind_eq_ok, require_eq_ok, pure_eq_ok, Prod.mk.injEq,
      Option.some.injEq] at h
    obtain ⟨stored, -, _, hresolved, -, rfl⟩ := h
    have hstatus : stored.paymentStatus ≠ .completed := fun hcompleted => by simp [isResolved, hcompleted] at hresolved
    exact sound_of_status rfl (by simp [hstatus, Point.completes, Point.finishing])
  | cancelLoading | confirmLoading =>
    simp only [pointStep, bind_eq_ok, pure_eq_ok, Prod.mk.injEq, Option.some.injEq] at h
    obtain ⟨stored, -, _, -, -, rfl⟩ := h
    exact sound_of_status rfl (by simp [Point.completes, Point.finishing])
  | handleListing | flagging =>
    simp only [pointStep, pure_eq_ok, Prod.mk.injEq, Option.ite_none_right_eq_some, Option.some.injEq] at h
    first | obtain ⟨-, rfl⟩ := h | obtain ⟨-, -, rfl⟩ := h
    exact sound_of_none rfl
  | handlePolling operationId operations =>
    cases operations <;> simp only [pointStep, bind_eq_ok, pure_eq_ok, Prod.mk.injEq, Option.some.injEq] at h
    · obtain ⟨-, rfl⟩ := h
      exact sound_of_none rfl
    · obtain ⟨_, -, -, rfl⟩ := h
      exact sound_of_none rfl
  | handleFinding =>
    simp only [pointStep, bind_eq_ok, pure_eq_ok, Prod.mk.injEq, Option.some.injEq] at h
    obtain ⟨_, -, -, rfl⟩ := h
    exact sound_of_none rfl
  | startChecking =>
    simp only [pointStep] at h
    split at h <;> simp only [pure_eq_ok, Prod.mk.injEq, Option.some.injEq] at h <;> obtain ⟨-, rfl⟩ := h
    · exact sound_of_none rfl
    · exact sound_of_none rfl
  | saving | startSaving | publishing | confirmPublishing => simp [pointStep] at h

/-! ## Steps -/

/-- A call that has read nothing yet. -/
def Call.isNew : Call → Prop
  | .idle => True
  | .active point _ => point.payment? = none ∧ point.operations = []

/-- What a step does: it starts a call, moves one on, ends one, or lets time pass. -/
inductive Step (s : State) : Act → State → Prop where
  | started {act : Act} {call : ℕ} {next : Call} (hidle : s.calls call = .idle) (hnew : next.isNew) :
      Step s act (s.setCall call next)
  | advanced {call : ℕ} {env : Env} {point : Point} {rest : List String} {db' : Db} {next : Option Point}
      (hcall : s.calls call = .active point rest) (h : pointStep s.db s.now env point = .ok (db', next)) :
      Step s (.advance call env) ((s.setDb db').setCall call (continueAt next rest))
  | threw {act : Act} {call : ℕ} {point : Point} {rest : List String} (hcall : s.calls call = .active point rest)
      (hact : act = .fail call ∨ ∃ env e, act = .advance call env ∧ pointStep s.db s.now env point = .error e) :
      Step s act (s.setCall call (thrown point))
  | crashed {call : ℕ} : Step s (.crash call) (s.setCall call .idle)
  | ticked {milliseconds : ℕ} : Step s (.tick milliseconds) { s with now := s.now + milliseconds }

theorem continueAt_isNew (rest : List String) : (continueAt none rest).isNew := by
  cases rest with
  | nil => trivial
  | cons id rest => exact ⟨rfl, rfl⟩

theorem thrown_isNew (point : Point) : (thrown point).isNew := by
  unfold thrown
  cases point with
  | flagging id again => cases again <;> simp [afterThrow, continueAt, Call.isNew, Point.payment?, Point.operations]
  | _ => simp [afterThrow, continueAt, Call.isNew, Point.payment?, Point.operations]

theorem start_spec {s s' : State} {call : ℕ} {next : Call} (h : s.start call next = some s') :
    s.calls call = .idle ∧ s' = s.setCall call next := by
  unfold State.start at h
  split at h <;> rename_i hidle
  · exact ⟨hidle, (Option.some.inj h).symm⟩
  · simp at h

theorem step_spec {s s' : State} {act : Act} (h : step s act = some s') : Step s act s' := by
  cases act with
  | updatePaymentByOperationStatuses | handlePaymentOperationStatusUpdated | startOperation | cancelPayment
  | confirmOpenPayment | failPaymentIfSetFailFieldTrue =>
    obtain ⟨hidle, rfl⟩ := start_spec h
    exact .started hidle ⟨rfl, rfl⟩
  | checkAndUpdateWaitingPayments call =>
    obtain ⟨hidle, rfl⟩ := start_spec h
    exact .started hidle (continueAt_isNew _)
  | advance call env =>
    simp only [step] at h
    unfold advance at h
    split at h
    · simp at h
    · rename_i point rest hcall
      split at h <;> rename_i hpoint <;> obtain rfl := Option.some.inj h
      · exact .advanced hcall hpoint
      · exact .threw hcall (Or.inr ⟨env, _, rfl, hpoint⟩)
  | fail call =>
    simp only [step] at h
    split at h
    · simp at h
    · rename_i point rest hcall
      obtain rfl := Option.some.inj h
      exact .threw hcall (Or.inl rfl)
  | crash call =>
    obtain rfl := Option.some.inj h
    exact .crashed
  | tick milliseconds =>
    obtain rfl := Option.some.inj h
    exact .ticked

/-- The call that an action is about. -/
def Act.call? : Act → Option ℕ
  | .updatePaymentByOperationStatuses call .. | .checkAndUpdateWaitingPayments call
  | .handlePaymentOperationStatusUpdated call _ | .startOperation call .. | .cancelPayment call _
  | .confirmOpenPayment call .. | .failPaymentIfSetFailFieldTrue call _ | .advance call _ | .fail call | .crash call =>
    some call
  | .tick _ => none

/-- The other calls stay where they are. -/
theorem step_other {s s' : State} {act : Act} (h : step s act = some s') {call : ℕ} (hother : act.call? ≠ some call) :
    s'.calls call = s.calls call := by
  have hset : ∀ (moved : ℕ) (next : Call), some moved ≠ some call → Function.update s.calls moved next call = s.calls call :=
    fun moved next hne => Function.update_of_ne (fun heq => hne (by rw [heq])) _ _
  cases act with
  | updatePaymentByOperationStatuses | handlePaymentOperationStatusUpdated | startOperation | cancelPayment
  | confirmOpenPayment | failPaymentIfSetFailFieldTrue | checkAndUpdateWaitingPayments =>
    obtain ⟨-, rfl⟩ := start_spec h
    exact hset _ _ hother
  | advance =>
    simp only [step, advance] at h
    split at h
    · simp at h
    · split at h <;> obtain rfl := Option.some.inj h
      · exact hset _ _ hother
      · exact hset _ _ hother
  | fail =>
    simp only [step] at h
    split at h
    · simp at h
    · obtain rfl := Option.some.inj h
      exact hset _ _ hother
  | crash =>
    obtain rfl := Option.some.inj h
    exact hset _ _ hother
  | tick =>
    obtain rfl := Option.some.inj h
    rfl

theorem run_other {s t : State} {acts : List Act} (h : Run.run step s acts = some t) {call : ℕ}
    (hother : ∀ act ∈ acts, act.call? ≠ some call) : t.calls call = s.calls call := by
  induction acts generalizing s with
  | nil =>
    obtain rfl : s = t := by simpa using h
    rfl
  | cons act acts ih =>
    obtain ⟨s', hstep, hrest⟩ := Run.run_cons_eq_some.mp h
    rw [ih hrest fun other hmem => hother other (List.mem_cons_of_mem _ hmem)]
    exact step_other hstep (hother act List.mem_cons_self)

/-- A call after a step: the same, one that starts, or the one that moved on. -/
theorem step_call {s s' : State} {act : Act} (h : Step s act s') (call : ℕ) :
    s'.calls call = s.calls call ∨ (s'.calls call).isNew ∨
      ∃ env point rest next, act = .advance call env ∧ s.calls call = .active point rest ∧
        pointStep s.db s.now env point = .ok (s'.db, next) ∧ s'.calls call = continueAt next rest := by
  have hset : ∀ (moved : ℕ) (next : Call) (calls : ℕ → Call), call ≠ moved →
      Function.update calls moved next call = calls call :=
    fun moved next calls hne => Function.update_of_ne hne _ _
  cases h with
  | @started act moved next hidle hnew =>
    by_cases heq : call = moved
    · subst heq
      exact Or.inr (Or.inl (by simpa [State.setCall] using hnew))
    · exact Or.inl (hset _ _ _ heq)
  | @advanced moved env point rest db' next hcall hpoint =>
    by_cases heq : call = moved
    · subst heq
      exact Or.inr (Or.inr ⟨env, point, rest, next, rfl, hcall, hpoint, by simp [State.setCall]⟩)
    · exact Or.inl (hset _ _ _ heq)
  | @threw act moved point rest hcall _ =>
    by_cases heq : call = moved
    · subst heq
      exact Or.inr (Or.inl (by simpa [State.setCall] using thrown_isNew point))
    · exact Or.inl (hset _ _ _ heq)
  | @crashed moved =>
    by_cases heq : call = moved
    · subst heq
      exact Or.inr (Or.inl (by simp [State.setCall, Call.isNew]))
    · exact Or.inl (hset _ _ _ heq)
  | ticked => exact Or.inl rfl

/-- The point of a call after a step: the same, a new one, or the next one of the call that moved on. -/
theorem step_point {s s' : State} {act : Act} (h : Step s act s') {call : ℕ} {point' : Point} {rest' : List String}
    (hcall' : s'.calls call = .active point' rest') :
    s.calls call = .active point' rest' ∨ (Call.active point' rest').isNew ∨
      ∃ env point rest, act = .advance call env ∧ s.calls call = .active point rest ∧
        pointStep s.db s.now env point = .ok (s'.db, some point') := by
  rcases step_call h call with hsame | hnew | ⟨env, point, rest, next, hact, hcall, hpoint, hnext⟩
  · exact Or.inl (hsame ▸ hcall')
  · exact Or.inr (Or.inl (hcall' ▸ hnew))
  · cases next with
    | none => exact Or.inr (Or.inl (hcall' ▸ hnext ▸ continueAt_isNew rest))
    | some next =>
      obtain ⟨rfl, -⟩ : next = point' ∧ rest = rest' := by simpa [hcall', continueAt, eq_comm] using hnext
      exact Or.inr (Or.inr ⟨env, point, rest, hact, hcall, hpoint⟩)

/-- The tables after a step: the same, or what the point of a call does to them. -/
theorem step_db {s s' : State} {act : Act} (h : Step s act s') :
    s'.db = s.db ∨ ∃ call env point rest next, act = .advance call env ∧ s.calls call = .active point rest ∧
      pointStep s.db s.now env point = .ok (s'.db, next) := by
  cases h with
  | started | threw | crashed | ticked => exact Or.inl rfl
  | advanced hcall hpoint => exact Or.inr ⟨_, _, _, _, _, rfl, hcall, hpoint⟩

/-! ## Agreement

Every entity in memory is an older version of a stored row: only the columns that calls write differ.
-/

def AgreesPayment (db : Db) (p : Payment) : Prop :=
  ∃ stored, db.payments.find p.id = some stored ∧ core stored = core p

def AgreesOperation (db : Db) (operation : PaymentChannelOperation) : Prop :=
  ∃ stored, db.operations.find operation.id = some stored ∧ opCore stored = opCore operation

structure Point.Agrees (db : Db) (point : Point) : Prop where
  payment : ∀ p, point.payment? = some p → AgreesPayment db p
  operations : ∀ operation ∈ point.operations, AgreesOperation db operation

def Call.Agrees (db : Db) : Call → Prop
  | .idle => True
  | .active point _ => point.Agrees db

/-- Rows stay, with the columns that no call writes. -/
structure Keeps (db db' : Db) : Prop where
  payments : ∀ id p, db.payments.find id = some p → ∃ p', db'.payments.find id = some p' ∧ core p' = core p
  operations : ∀ id operation, db.operations.find id = some operation →
    ∃ operation', db'.operations.find id = some operation' ∧ opCore operation' = opCore operation
  /-- No payment is new. -/
  origin : ∀ id p', db'.payments.find id = some p' → ∃ p, db.payments.find id = some p ∧ core p' = core p

theorem keeps_of_eq {db db' : Db} (hpayments : db'.payments = db.payments) (hoperations : db'.operations = db.operations) :
    Keeps db db' := by
  refine ⟨fun id p hp => ⟨p, ?_, rfl⟩, fun id operation hop => ⟨operation, ?_, rfl⟩, fun id p hp => ⟨p, ?_, rfl⟩⟩
  · rwa [hpayments]
  · rwa [hoperations]
  · rwa [hpayments] at hp

theorem save_payment_keeps {db : Db} {q : Payment} (h : AgreesPayment db q) : Keeps db (savePayment db q) := by
  obtain ⟨stored, hstored, hcore⟩ := h
  refine ⟨fun id p hp => ?_, fun id operation hop => ⟨operation, hop, rfl⟩, fun id p' hp' => ?_⟩
  · by_cases hid : id = q.id
    · subst hid
      rw [hstored, Option.some.injEq] at hp
      exact ⟨q, Table.find_save_self _ _, by rw [← hcore, hp]⟩
    · exact ⟨p, (Table.find_save_of_ne hid).trans hp, rfl⟩
  · by_cases hid : id = q.id
    · subst hid
      obtain rfl : q = p' := by simpa [savePayment] using hp'
      exact ⟨stored, hstored, hcore.symm⟩
    · exact ⟨p', (Table.find_save_of_ne hid).symm.trans hp', rfl⟩

theorem save_operation_keeps {db db' : Db} {operation : PaymentChannelOperation}
    (h : db.operations.find operation.id = none ∨ AgreesOperation db operation)
    (hpayments : db'.payments = db.payments) (hoperations : db'.operations = db.operations.save operation) :
    Keeps db db' := by
  refine ⟨fun id p hp => ⟨p, by rwa [hpayments], rfl⟩, fun id old hold => ?_, fun id p hp => ⟨p, by rwa [← hpayments], rfl⟩⟩
  rw [hoperations]
  by_cases hid : id = operation.id
  · subst hid
    rcases h with hfresh | ⟨stored, hstored, hcore⟩
    · simp [hfresh] at hold
    · rw [hstored, Option.some.injEq] at hold
      exact ⟨operation, Table.find_save_self _ _, by rw [← hcore, hold]⟩
  · exact ⟨old, (Table.find_save_of_ne hid).trans hold, rfl⟩

/-- An answer for an operation that agrees writes one that agrees. -/
theorem save_record_keeps {env : Operations.Env} {db db' : Db} {record : PaymentChannelOperation}
    {result : PaymentChannelStatusDTO} (hrecord : AgreesOperation db record)
    (h : savePaymentChannelRecord env db record result record.paymentId = .ok db') : Keeps db db' := by
  obtain ⟨operation, transactions, rfl, -, hid, hpayment, -, hsource⟩ := save_payment_channel_record_spec h
  obtain ⟨stored, hstored, hcore⟩ := hrecord
  refine save_operation_keeps (Or.inr ⟨stored, by rw [hid, hstored], ?_⟩) rfl rfl
  rcases hsource with ⟨hamount, htype⟩ | ⟨stored', hstored', hcore'⟩
  · rw [hcore, opCore, opCore, hid, hpayment, hamount, htype]
  · rw [hstored, Option.some.injEq] at hstored'
    rw [hcore', hstored']

theorem insert_operation_spec {env : Operations.Env} {db db' : Db} {payment : Payment} {amount : ℚ}
    {capture : PaymentCaptureInfoDTO} {id : String} {result : PaymentChannelStatusDTO}
    (h : insertOperation env db payment amount capture id result = .ok db') :
    db.operations.find id = none ∧ ∃ operation transactions, db' = { db with
        operations := db.operations.save operation, transactions := transactions } ∧
      db.transactions <+: transactions ∧ opCore operation = (id, payment.id, toColumn amount, payment.type) ∧
      result.paymentStatus = some operation.status := by
  unfold insertOperation at h
  simp only [bind_eq_ok, require_eq_ok] at h
  obtain ⟨-, hfresh, h⟩ := h
  obtain ⟨operation, transactions, rfl, hprefix, hid, hpayment, hstatus, hsource⟩ := save_payment_channel_record_spec h
  refine ⟨hfresh, operation, transactions, rfl, hprefix, ?_, hstatus⟩
  rcases hsource with ⟨hamount, htype⟩ | ⟨stored, hstored, -⟩
  · rw [opCore, hid, hpayment, hamount, htype]
  · simp [hfresh] at hstored

theorem Point.payment?_of_saved {point : Point} {q : Payment} (h : point.saved = some q) : point.payment? = some q := by
  cases point <;> simp_all [Point.saved, Point.payment?]

theorem Point.mem_operations_of_polled {point : Point} {operation : PaymentChannelOperation}
    (h : point.polled = some operation) : operation ∈ point.operations := by
  unfold Point.polled at h
  split at h <;> simp_all [Point.operations]

theorem Point.mem_operations_of_fired {point : Point} {operation : PaymentChannelOperation}
    (h : point.fired = some operation) : operation ∈ point.operations := by
  unfold Point.fired at h
  split at h <;> simp_all [Point.operations]

theorem effect_keeps {db db' : Db} {env : Env} {point : Point} (h : Effect db env point db')
    (hagrees : point.Agrees db) : Keeps db db' := by
  cases h with
  | same => exact keeps_of_eq rfl rfl
  | saved hq => exact save_payment_keeps (hagrees.payment _ (Point.payment?_of_saved hq))
  | @flagged id again _ =>
    unfold failPaymentIfSetFailFieldTrue
    split <;> rename_i stored hfind
    · split
      · rw [← Table.key_of_find hfind] at hfind
        exact save_payment_keeps ⟨stored, hfind, rfl⟩
      · exact keeps_of_eq rfl rfl
    · exact keeps_of_eq rfl rfl
  | polled hpoint hsave => exact save_record_keeps (hagrees.operations _ (Point.mem_operations_of_polled hpoint)) hsave
  | fired hpoint _ hsave => exact save_record_keeps (hagrees.operations _ (Point.mem_operations_of_fired hpoint)) hsave
  | inserted _ hinsert =>
    obtain ⟨hfresh, operation, transactions, rfl, -, hcore, -⟩ := insert_operation_spec hinsert
    have hid := congrArg Prod.fst hcore
    exact save_operation_keeps (Or.inl (by rwa [show operation.id = env.recordId from hid])) rfl rfl
  | @cancelled payment operation rest hpoint =>
    obtain ⟨stored, hstored, hcore⟩ := hagrees.operations operation (by simp [hpoint, Point.operations])
    have hfailed : AgreesOperation db { operation with status := .failed } := ⟨stored, hstored, hcore⟩
    exact save_operation_keeps (Or.inr hfailed) rfl rfl
  | ordered _ hadd =>
    obtain ⟨_, rfl, -⟩ := add_transaction_spec hadd
    exact keeps_of_eq rfl rfl
  | ordersClosed => exact keeps_of_eq rfl rfl
  | removed => exact keeps_of_eq rfl rfl
  | entered => exact keeps_of_eq rfl rfl
  | published => exact keeps_of_eq rfl rfl

theorem Keeps.refl (db : Db) : Keeps db db := keeps_of_eq rfl rfl

theorem Point.Agrees.keep {db db' : Db} {point : Point} (h : point.Agrees db) (hkeeps : Keeps db db') :
    point.Agrees db' := by
  constructor
  · intro p hp
    obtain ⟨stored, hstored, hcore⟩ := h.payment p hp
    obtain ⟨stored', hstored', hcore'⟩ := hkeeps.payments _ _ hstored
    exact ⟨stored', hstored', hcore'.trans hcore⟩
  · intro operation hoperation
    obtain ⟨stored, hstored, hcore⟩ := h.operations operation hoperation
    obtain ⟨stored', hstored', hcore'⟩ := hkeeps.operations _ _ hstored
    exact ⟨stored', hstored', hcore'.trans hcore⟩

theorem Point.Agrees.follow {db : Db} {point point' : Point} (h : point.Agrees db) (hfollows : Follows db point point') :
    point'.Agrees db := by
  constructor
  · intro p' hp'
    rcases hfollows.payment p' hp' with ⟨p, hp, hcore⟩ | ⟨stored, hstored, hcore⟩
    · obtain ⟨stored, hstored, hcore'⟩ := h.payment p hp
      exact ⟨stored, by rwa [core_id hcore], hcore'.trans hcore.symm⟩
    · exact ⟨stored, hstored, hcore.symm⟩
  · intro operation hoperation
    rcases hfollows.operations operation hoperation with hmem | hmem
    · exact h.operations operation hmem
    · exact ⟨operation, Table.find_of_mem hmem, rfl⟩

theorem Call.isNew.agrees {call : Call} (h : call.isNew) (db : Db) : call.Agrees db := by
  cases call with
  | idle => trivial
  | active point rest => exact ⟨by simp [h.1], by simp [h.2]⟩

theorem Call.Agrees.keep {db db' : Db} {call : Call} (h : call.Agrees db) (hkeeps : Keeps db db') : call.Agrees db' := by
  cases call with
  | idle => trivial
  | active point rest => exact Point.Agrees.keep h hkeeps

theorem continueAt_agrees {db db' : Db} {now : ℕ} {env : Env} {point : Point} {next : Option Point}
    (h : pointStep db now env point = .ok (db', next)) (hagrees : point.Agrees db) (rest : List String) :
    (continueAt next rest).Agrees db' := by
  have hkeeps := effect_keeps (point_step_effect h) hagrees
  cases next with
  | none => exact (continueAt_isNew rest).agrees db'
  | some point' => exact (hagrees.follow (point_step_follows h)).keep hkeeps

/-- What all calls hold agrees with the tables. -/
def State.Agrees (s : State) : Prop := ∀ call, (s.calls call).Agrees s.db

/-- **Rows keep their columns.** -/
theorem step_keeps {s s' : State} {act : Act} (h : Step s act s') (hagrees : s.Agrees) : Keeps s.db s'.db := by
  rcases step_db h with hsame | ⟨call, env, point, rest, next, -, hcall, hpoint⟩
  · rw [hsame]
    exact Keeps.refl _
  · have hbefore := hagrees call
    rw [hcall] at hbefore
    exact effect_keeps (point_step_effect hpoint) hbefore

theorem step_agrees {s s' : State} {act : Act} (h : Step s act s') (hagrees : s.Agrees) : s'.Agrees := by
  have hkeeps := step_keeps h hagrees
  intro call
  rcases step_call h call with hsame | hnew | ⟨env, point, rest, next, -, hcall, hpoint, hnext⟩
  · rw [hsame]
    exact (hagrees call).keep hkeeps
  · exact hnew.agrees _
  · have hbefore := hagrees call
    rw [hcall] at hbefore
    rw [hnext]
    exact continueAt_agrees hpoint hbefore rest

end Postral.Lifecycle
