import Postral.Lifecycle.Status

/-!
# Captured amounts

A payment captures at most its total as long as its operations start one at a time and a FAILED
operation stays FAILED.
-/

open Check Run

namespace Postral.Lifecycle

/-- The PURCHASE operations that are READY or COMPLETED. -/
def capturedOperations (db : Db) (paymentId : String) : List PaymentChannelOperation :=
  (operationsOf db paymentId).filter fun operation =>
    operation.operationType = .purchase ∧ (operation.status = .ready ∨ operation.status = .completed)

def capturedOf (db : Db) (paymentId : String) : ℤ := ((capturedOperations db paymentId).map (·.amount)).sum

/-- A started operation is stored while no other one is ongoing, and an answer is stored over an
operation that is not FAILED. -/
def Point.orderly (db : Db) : Point → Bool
  | .startInitializing p _ _ => !hasOngoingPaymentOperations db p.id
  | point => (point.polled.or point.fired).all fun operation =>
      (db.operations.find operation.id).all fun stored => stored.status ≠ .failed

def Orderly (s : State) : Act → Prop
  | .advance call _ =>
    match s.calls call with
    | .active point _ => point.orderly s.db
    | .idle => True
  | _ => True

instance (s : State) : DecidablePred (Orderly s) := fun act =>
  match act with
  | .advance call _ =>
    (match s.calls call with
    | .active _ _ => inferInstance
    | .idle => inferInstance :
      Decidable (match s.calls call with
        | .active point _ => point.orderly s.db = true
        | .idle => True))
  | .updatePaymentByOperationStatuses .. | .checkAndUpdateWaitingPayments _ | .handlePaymentOperationStatusUpdated ..
  | .startOperation .. | .cancelPayment .. | .confirmOpenPayment .. | .failPaymentIfSetFailFieldTrue ..
  | .fail _ | .crash _ | .tick _ => instDecidableTrue

/-! ## The amount of a started operation -/

theorem captureAmount_bounds {totalAmount paid : ℤ} (htotal : 0 ≤ totalAmount) (hpaid : 0 ≤ paid) (paidAmount : ℚ) :
    0 ≤ captureAmount totalAmount paid paidAmount ∧
      captureAmount totalAmount paid paidAmount ≤ fromColumn totalAmount := by
  have htotal' : fromColumn 0 ≤ fromColumn totalAmount := fromColumn_le_fromColumn.mpr htotal
  have hpaid' : fromColumn 0 ≤ fromColumn paid := fromColumn_le_fromColumn.mpr hpaid
  have hzero : fromColumn 0 = 0 := by simp [fromColumn]
  rw [hzero] at htotal' hpaid'
  unfold captureAmount
  simp only
  split <;> split <;> constructor <;> linarith

theorem point_step_initializing {db db' : Db} {now : ℕ} {env : Env} {point : Point} {p : Payment} {amount : ℚ}
    {capture : PaymentCaptureInfoDTO}
    (h : pointStep db now env point = .ok (db', some (.startInitializing p amount capture))) :
    point = .startPaid p capture ∧ ∃ paidAmount, capture.paidAmount = some paidAmount ∧
      amount = captureAmount p.totalAmount (totalPaidOrAuthorizedOf db p.id) paidAmount := by
  cases point with
  | startPaid p capture =>
    simp only [pointStep, bind_eq_ok, orThrow_eq_ok, pure_eq_ok, Prod.mk.injEq, Option.some.injEq,
      Point.startInitializing.injEq] at h
    obtain ⟨paidAmount, hpaid, -, rfl, rfl, rfl⟩ := h
    exact ⟨rfl, paidAmount, hpaid, rfl⟩
  | polling p operations | cancelling p operations | handlePolling p operations | firing p operations =>
    exfalso
    cases operations <;> simp [pointStep] at h
  | ordering p confirmed orders =>
    exfalso
    cases orders <;> simp [pointStep] at h
  | totalling | checkingFailed | startChecking =>
    exfalso
    simp only [pointStep] at h
    split at h <;> simp at h <;> grind
  | loading | checkingOngoing | ledgerSaving =>
    exfalso
    simp only [pointStep, afterLedger, bind_eq_ok, pure_eq_ok] at h
    grind
  | _ =>
    exfalso
    simp [pointStep] at h

/-! ## The operations of a payment -/

/-- Amounts are in range, and a PURCHASE operation that did not fail is the only such operation of its payment. -/
structure Captures (db : Db) : Prop where
  total : ∀ p ∈ db.payments.rows, 0 ≤ p.totalAmount
  nonneg : ∀ operation ∈ db.operations.rows, 0 ≤ operation.amount
  bound : ∀ operation ∈ db.operations.rows, operation.operationType = .purchase →
    ∀ p, db.payments.find operation.paymentId = some p → operation.amount ≤ p.totalAmount
  single : ∀ operation ∈ db.operations.rows, ∀ other ∈ db.operations.rows, operation.operationType = .purchase →
    operation.status ≠ .failed → other.status ≠ .failed → other.paymentId = operation.paymentId → operation = other

theorem captured_le_total {db : Db} (h : Captures db) {p : Payment} (hp : p ∈ db.payments.rows) :
    capturedOf db p.id ≤ p.totalAmount := by
  have hmem : ∀ operation ∈ capturedOperations db p.id, operation ∈ db.operations.rows ∧
      operation.paymentId = p.id ∧ operation.operationType = .purchase ∧ operation.status ≠ .failed := by
    intro operation hoperation
    simp only [capturedOperations, operationsOf, List.mem_filter, decide_eq_true_eq] at hoperation
    obtain ⟨⟨hrow, hpayment⟩, htype, hstatus⟩ := hoperation
    exact ⟨hrow, hpayment, htype, by rintro hfailed; simp [hfailed] at hstatus⟩
  have hnodup : (capturedOperations db p.id).Nodup := (db.operations.nodup.of_map.filter _).filter _
  unfold capturedOf
  match hlist : capturedOperations db p.id with
  | [] => simpa using h.total p hp
  | [operation] =>
    obtain ⟨hrow, hpayment, htype, -⟩ := hmem operation (by simp [hlist])
    simpa using h.bound operation hrow htype p (hpayment ▸ Table.find_of_mem hp)
  | operation :: other :: rest =>
    -- Two of them would be the same row twice.
    obtain ⟨hrow, hpayment, htype, hstatus⟩ := hmem operation (by simp [hlist])
    obtain ⟨hrow', hpayment', -, hstatus'⟩ := hmem other (by simp [hlist])
    have heq := h.single operation hrow other hrow' htype hstatus hstatus' (hpayment'.trans hpayment.symm)
    simp [hlist, heq] at hnodup

/-- What a step does to the operations: nothing, a new state of one that did not fail, or a new one
that is the only one. -/
inductive OperationsChange (db : Db) : Table PaymentChannelOperation.id → Prop where
  | same : OperationsChange db db.operations
  | written {operation stored : PaymentChannelOperation} (hstored : db.operations.find operation.id = some stored)
      (hcore : opCore operation = opCore stored) (hfailed : stored.status = .failed → operation.status = .failed) :
      OperationsChange db (db.operations.save operation)
  | inserted {operation : PaymentChannelOperation} {p : Payment} (hfresh : db.operations.find operation.id = none)
      (hpayment : operation.paymentId = p.id) (hp : AgreesPayment db p)
      (hsingle : hasOngoingPaymentOperations db p.id = false) (hnonneg : 0 ≤ operation.amount)
      (hbound : operation.amount ≤ p.totalAmount) : OperationsChange db (db.operations.save operation)

/-- An answer over an operation that did not fail. -/
theorem save_record_change {env : Operations.Env} {db db' : Db} {record : PaymentChannelOperation}
    {result : PaymentChannelStatusDTO} (hrecord : AgreesOperation db record)
    (hactive : (db.operations.find record.id).all (fun stored => stored.status ≠ .failed) = true)
    (h : savePaymentChannelRecord env db record result record.paymentId = .ok db') :
    OperationsChange db db'.operations := by
  obtain ⟨operation, transactions, rfl, -, hid, hpayment, -, hsource⟩ := save_payment_channel_record_spec h
  obtain ⟨stored, hstored, hcore⟩ := hrecord
  have hactive : stored.status ≠ .failed := by simpa [hstored] using hactive
  refine .written (by rwa [hid]) ?_ (fun hfailed => absurd hfailed hactive)
  rcases hsource with ⟨hamount, htype⟩ | ⟨stored', hstored', hcore'⟩
  · rw [hcore, opCore, opCore, hid, hpayment, hamount, htype]
  · rw [hstored, Option.some.injEq] at hstored'
    rw [hcore', hstored']

/-- The amount of a start that is about to store its operation. -/
def Point.Bounded (point : Point) : Prop :=
  ∀ p amount capture, point = .startInitializing p amount capture → 0 ≤ amount ∧ amount ≤ fromColumn p.totalAmount

theorem effect_operations {db db' : Db} {env : Env} {point : Point} (h : Effect db env point db')
    (hagrees : point.Agrees db) (hbounded : point.Bounded) (horderly : point.orderly db = true) :
    OperationsChange db db'.operations := by
  cases h with
  | same | saved | ordersClosed | removed | entered | published => exact .same
  | flagged =>
    unfold failPaymentIfSetFailFieldTrue
    split
    · split
      · exact .same
      · exact .same
    · exact .same
  | ordered _ hadd =>
    obtain ⟨_, rfl, -⟩ := add_transaction_spec hadd
    exact .same
  | polled hpoint hsave =>
    refine save_record_change (hagrees.operations _ (Point.mem_operations_of_polled hpoint)) ?_ hsave
    cases point <;> simp_all [Point.orderly, Point.polled]
  | fired hpoint _ hsave =>
    refine save_record_change (hagrees.operations _ (Point.mem_operations_of_fired hpoint)) ?_ hsave
    cases point <;> simp_all [Point.orderly, Point.fired, Point.polled]
  | @inserted p amount capture db' hpoint hinsert =>
    subst hpoint
    obtain ⟨hfresh, operation, transactions, rfl, -, hcore, -⟩ := insert_operation_spec hinsert
    obtain ⟨hid, hpayment, hamount, -⟩ : operation.id = env.recordId ∧ operation.paymentId = p.id ∧
        operation.amount = toColumn amount ∧ operation.operationType = p.type := by
      simpa [opCore] using hcore
    obtain ⟨hnonneg, hle⟩ := hbounded p amount capture rfl
    refine .inserted (by rwa [hid]) hpayment (hagrees.payment p rfl) (by simpa [Point.orderly] using horderly) ?_ ?_
    · rw [hamount]
      exact toColumn_nonneg hnonneg
    · rw [hamount]
      exact (toColumn_mono hle).trans_eq (toColumn_fromColumn _)
  | @cancelled p operation rest hpoint =>
    obtain ⟨stored, hstored, hcore⟩ := hagrees.operations operation (by simp [hpoint, Point.operations])
    have hcore' : opCore { operation with status := .failed } = opCore stored := hcore.symm
    exact .written hstored hcore' (fun _ => rfl)

theorem captures_change {db db' : Db} (h : Captures db) (hkeeps : Keeps db db')
    (hchange : OperationsChange db db'.operations) : Captures db' := by
  have htotals : ∀ id p', db'.payments.find id = some p' →
      ∃ p, db.payments.find id = some p ∧ p'.totalAmount = p.totalAmount := by
    intro id p' hp'
    obtain ⟨p, hp, hcore⟩ := hkeeps.origin id p' hp'
    exact ⟨p, hp, core_totalAmount hcore⟩
  have htotal : ∀ p ∈ db'.payments.rows, 0 ≤ p.totalAmount := by
    intro p' hp'
    obtain ⟨p, hp, heq⟩ := htotals p'.id p' (Table.find_of_mem hp')
    rw [heq]
    exact h.total p (Table.mem_of_find hp)
  have hbound : ∀ operation ∈ db.operations.rows, operation.operationType = .purchase →
      ∀ p', db'.payments.find operation.paymentId = some p' → operation.amount ≤ p'.totalAmount := by
    intro operation hoperation htype p' hp'
    obtain ⟨p, hp, heq⟩ := htotals _ p' hp'
    rw [heq]
    exact h.bound operation hoperation htype p hp
  generalize hoperations : db'.operations = operations at hchange
  cases hchange with
  | same =>
    refine ⟨htotal, ?_, ?_, ?_⟩ <;> rw [hoperations]
    · exact h.nonneg
    · exact hbound
    · exact h.single
  | @written operation stored hstored hcore hfailed =>
    obtain ⟨hid, hpayment, hamount, htype⟩ : operation.id = stored.id ∧ operation.paymentId = stored.paymentId ∧
        operation.amount = stored.amount ∧ operation.operationType = stored.operationType := by
      simpa [opCore] using hcore
    have hrow := Table.mem_of_find hstored
    refine ⟨htotal, ?_, ?_, ?_⟩ <;> rw [hoperations]
    · intro x hx
      rcases Table.mem_save.mp hx with rfl | ⟨hx, -⟩
      · rw [hamount]
        exact h.nonneg stored hrow
      · exact h.nonneg x hx
    · intro x hx hpurchase p' hp'
      rcases Table.mem_save.mp hx with rfl | ⟨hx, -⟩
      · rw [hamount]
        exact hbound stored hrow (htype ▸ hpurchase) p' (hpayment ▸ hp')
      · exact hbound x hx hpurchase p' hp'
    · intro x hx y hy hpurchase hactive hactive' hpay
      rcases Table.mem_save.mp hx with rfl | ⟨hxrow, hxid⟩ <;> rcases Table.mem_save.mp hy with rfl | ⟨hyrow, hyid⟩
      · rfl
      · have heq := h.single stored hrow y hyrow (htype ▸ hpurchase) (mt hfailed hactive) hactive' (hpay.trans hpayment)
        exact absurd (heq ▸ hid.symm) hyid
      · have heq := h.single x hxrow stored hrow hpurchase hactive (mt hfailed hactive') (hpayment.symm.trans hpay)
        exact absurd (heq ▸ hid.symm) hxid
      · exact h.single x hxrow y hyrow hpurchase hactive hactive' hpay
  | @inserted operation p hfresh hpayment hp hsingle hnonneg hle =>
    have hfailed : ∀ x ∈ db.operations.rows, x.paymentId = operation.paymentId → x.status = .failed := by
      intro x hx hxp
      by_contra hactive
      have hongoing : hasOngoingPaymentOperations db p.id = true := by
        simp only [hasOngoingPaymentOperations, operationsOf, List.any_eq_true, List.mem_filter, decide_eq_true_eq]
        exact ⟨x, ⟨hx, hxp.trans hpayment⟩, hactive⟩
      simp [hsingle] at hongoing
    refine ⟨htotal, ?_, ?_, ?_⟩ <;> rw [hoperations]
    · intro x hx
      rcases Table.mem_save.mp hx with rfl | ⟨hx, -⟩
      · exact hnonneg
      · exact h.nonneg x hx
    · intro x hx hpurchase p' hp'
      rcases Table.mem_save.mp hx with rfl | ⟨hx, -⟩
      · obtain ⟨stored, hstored, hcore⟩ := hp
        obtain ⟨q, hq, heq⟩ := htotals _ p' hp'
        rw [hpayment, hstored, Option.some.injEq] at hq
        rw [heq, ← hq, core_totalAmount hcore]
        exact hle
      · exact hbound x hx hpurchase p' hp'
    · intro x hx y hy hpurchase hactive hactive' hpay
      rcases Table.mem_save.mp hx with rfl | ⟨hxrow, -⟩ <;> rcases Table.mem_save.mp hy with rfl | ⟨hyrow, -⟩
      · rfl
      · exact absurd (hfailed y hyrow hpay) hactive'
      · exact absurd (hfailed x hxrow hpay.symm) hactive
      · exact h.single x hxrow y hyrow hpurchase hactive hactive' hpay

/-! ## Runs -/

structure Capturing (s : State) : Prop where
  agrees : s.Agrees
  captures : Captures s.db
  bounded : ∀ call point rest, s.calls call = .active point rest → point.Bounded

theorem step_capturing {s s' : State} {act : Act} (h : Step s act s') (hinv : Capturing s) (horderly : Orderly s act) :
    Capturing s' := by
  refine ⟨step_agrees h hinv.agrees, ?_, ?_⟩
  · rcases step_db h with hsame | ⟨call, env, point, rest, next, rfl, hcall, hpoint⟩
    · rw [hsame]
      exact hinv.captures
    · have hagrees := hinv.agrees call
      rw [hcall] at hagrees
      have hpointOrderly : point.orderly s.db = true := by simpa [Orderly, hcall] using horderly
      exact captures_change hinv.captures (step_keeps h hinv.agrees)
        (effect_operations (point_step_effect hpoint) hagrees (hinv.bounded call point rest hcall) hpointOrderly)
  · intro call point' rest' hcall' p amount capture hpoint'
    subst hpoint'
    rcases step_point h hcall' with hsame | hnew | ⟨env, point, rest, -, hcall, hpoint⟩
    · exact hinv.bounded call _ rest' hsame p amount capture rfl
    · exact absurd hnew.1 (by simp [Point.payment?])
    · obtain ⟨rfl, paidAmount, -, rfl⟩ := point_step_initializing hpoint
      have hagrees := hinv.agrees call
      rw [hcall] at hagrees
      obtain ⟨stored, hstored, hcore⟩ := hagrees.payment p rfl
      have htotal : 0 ≤ p.totalAmount := by
        rw [← core_totalAmount hcore]
        exact hinv.captures.total stored (Table.mem_of_find hstored)
      refine captureAmount_bounds htotal ?_ paidAmount
      rw [totalPaidOrAuthorizedOf, addNumberValues_eq_sum]
      apply List.sum_nonneg
      simp only [operationsOf, List.mem_map, List.mem_filter]
      rintro _ ⟨operation, ⟨⟨hrow, -⟩, -⟩, rfl⟩
      exact hinv.captures.nonneg operation hrow

/-- **No over-capture.** In a run whose steps are orderly, the READY and COMPLETED purchases of a
payment never exceed its total. -/
theorem captured_at_most_total {s₀ s : State} {acts : List Act} (hidle : ∀ call, s₀.calls call = .idle)
    (hstart : Captures s₀.db) (horderly : Meets step Orderly s₀ acts) (hrun : run step s₀ acts = some s) :
    ∀ p ∈ s.db.payments.rows, capturedOf s.db p.id ≤ p.totalAmount := by
  have hinv₀ : Capturing s₀ := by
    refine ⟨fun call => ?_, hstart, fun call point rest hcall => ?_⟩
    · simp [hidle, Call.Agrees]
    · simp [hidle] at hcall
  have hinv : Capturing s := run_invariant_of_meets
    (fun s act s' hs hok hstep => step_capturing (step_spec hstep) hs hok) hinv₀ horderly hrun
  exact fun p hp => captured_le_total hinv.captures hp

/-! ## Two starts at once -/

/-- The payment before its first operation. -/
def newState : State :=
  { sampleState with db := { sampleState.db with operations := Table.empty } }

def readyEnv (recordId : String) : Env :=
  { sampleEnv with
    recordId := recordId
    answer := ⟨some "channel", some recordId, some .ready, none, none, none⟩ }

def sampleCapture : PaymentCaptureInfoDTO := ⟨"channel", some 1, "TRY"⟩

/-- Both calls check for ongoing operations before either of them stores its own. -/
def raceActs : List Act :=
  [.startOperation 0 "payment" sampleCapture, .startOperation 1 "payment" sampleCapture,
    .advance 0 (readyEnv "first"), .advance 1 (readyEnv "second")] ++
    List.replicate 3 (.advance 0 (readyEnv "first")) ++ List.replicate 3 (.advance 1 (readyEnv "second"))

/-- The second call finds nothing left to pay and captures the total again. -/
theorem two_starts_over_capture :
    ∃ s, run step newState raceActs = some s ∧ ∃ p ∈ s.db.payments.rows, p.totalAmount < capturedOf s.db p.id := by
  have hrun : ∃ s ∈ run step newState raceActs, ∃ p ∈ s.db.payments.rows,
      p.totalAmount < capturedOf s.db p.id := by
    decide +kernel
  obtain ⟨s, hs, hp⟩ := hrun
  exact ⟨s, hs, hp⟩

theorem newState_captures : Captures newState.db where
  total := by decide
  nonneg := by simp [newState, Table.empty]
  bound := by simp [newState, Table.empty]
  single := by simp [newState, Table.empty]

/-- One start, which a poll finds COMPLETED. -/
def oneStartActs : List Act :=
  .startOperation 0 "payment" sampleCapture :: List.replicate 5 (.advance 0 (readyEnv "first")) ++
    .updatePaymentByOperationStatuses 1 "payment" true :: List.replicate 4 (.advance 1 sampleEnv)

theorem captured_at_most_total_sample :
    ∃ s, run step newState oneStartActs = some s ∧ ∀ p ∈ s.db.payments.rows, capturedOf s.db p.id ≤ p.totalAmount := by
  have hrun : (run step newState oneStartActs).isSome := by decide +kernel
  obtain ⟨s, hs⟩ := Option.isSome_iff_exists.mp hrun
  have horderly : Meets step Orderly newState oneStartActs := by decide +kernel
  exact ⟨s, hs, captured_at_most_total (fun _ => rfl) newState_captures horderly hs⟩

end Postral.Lifecycle
