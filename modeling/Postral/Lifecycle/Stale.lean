import Postral.Lifecycle.Status
import Postral.Operations.Settlement

/-!
# Stale answers

A call reads an operation, asks its channel and saves the answer later, whatever is stored by then.
-/

open Check Run

namespace Postral.Lifecycle

/-- Only `saveRefundSettlementRecord` looks at the stored status. -/
def isGuarded (operation : PaymentChannelOperation) : Bool :=
  operation.operationType = .refund ∧ operation.refundPlan.isSome

/-- The operation that the next step saves as FAILED, whatever the channel answered. -/
def Point.cancelled : Point → Option PaymentChannelOperation
  | .cancelling _ (operation :: _) => some operation
  | _ => none

/-- The answer would be saved over the operation with another status than COMPLETED. -/
def answersOther (env : Env) (operation : PaymentChannelOperation) : Bool :=
  !isGuarded operation && env.answer.paymentStatus.any (· ≠ .completed)

def completedIn (db : Db) (id : String) : Bool :=
  (db.operations.find id).any fun operation => operation.status = .completed

def Point.isFresh (db : Db) (env : Env) (point : Point) : Bool :=
  point.cancelled.all (fun operation => !completedIn db operation.id) &&
    point.polled.all (fun operation => !(answersOther env operation && completedIn db operation.id))

/-- An answer other than COMPLETED, or a cancellation, is saved while the operation is not COMPLETED. -/
def Fresh (s : State) : Act → Prop
  | .advance call env =>
    match s.calls call with
    | .active point _ => point.isFresh s.db env = true
    | .idle => True
  | _ => True

instance (s : State) : DecidablePred (Fresh s) := fun act =>
  match act with
  | .advance call env =>
    (match s.calls call with
    | .active _ _ => inferInstance
    | .idle => inferInstance :
      Decidable (match s.calls call with
        | .active point _ => point.isFresh s.db env = true
        | .idle => True))
  | .updatePaymentByOperationStatuses .. | .checkAndUpdateWaitingPayments _ | .handlePaymentOperationStatusUpdated ..
  | .startOperation .. | .cancelPayment .. | .confirmOpenPayment .. | .failPaymentIfSetFailFieldTrue ..
  | .fail _ | .crash _ | .tick _ => instDecidableTrue

/-! ## One save -/

theorem completedIn_save {db : Db} {operations : Table PaymentChannelOperation.id} {operation : PaymentChannelOperation}
    (hoperations : operations = db.operations.save operation) {id : String} (hid : completedIn db id = true)
    (h : operation.id = id → operation.status = .completed) :
    (operations.find id).any (fun operation => operation.status = .completed) = true := by
  rw [hoperations, Table.find_save]
  split <;> rename_i hkey
  · simpa using h hkey.symm
  · exact hid

/-- An answer over a COMPLETED operation is COMPLETED, or the operation is another one. -/
theorem save_record_completed {env : Operations.Env} {db db' : Db} {record : PaymentChannelOperation}
    {result : PaymentChannelStatusDTO} {paymentId : String}
    (h : savePaymentChannelRecord env db record result paymentId = .ok db') {id : String} (hid : completedIn db id = true)
    (hanswer : record.id = id → isGuarded record = true ∨ result.paymentStatus = some .completed) :
    completedIn db' id = true := by
  unfold savePaymentChannelRecord Operations.savePaymentChannelRecord at h
  simp only [bind_eq_ok, pure_eq_ok] at h
  obtain ⟨stored, h, rfl⟩ := h
  split at h <;> rename_i hguarded
  · obtain ⟨operation, plan, operation', new, entries, hfind, -, rfl, hkey, -, -, hsettles⟩ :=
      Operations.save_refund_settlement_record_spec h
    apply completedIn_save rfl hid
    intro heq
    apply hsettles.keeps
    have hrecord : record.id = id := by rw [← heq, hkey, Table.key_of_find hfind]
    simpa [completedIn, ← hrecord, hfind] using hid
  · simp only [bind_eq_ok, orThrow_eq_ok, pure_eq_ok] at h
    obtain ⟨status, hstatus, rfl⟩ := h
    apply completedIn_save rfl hid
    intro heq
    rcases hanswer heq with hguard | hcompleted
    · exact absurd (by simpa [isGuarded] using hguard) hguarded
    · rw [hstatus] at hcompleted
      exact Option.some.inj hcompleted

theorem completedIn_congr {db db' : Db} (h : db'.operations = db.operations) (id : String) :
    completedIn db' id = completedIn db id := by
  unfold completedIn
  rw [h]

/-! ## One step -/

theorem effect_completed {db db' : Db} {env : Env} {point : Point} (h : Effect db env point db')
    (hfresh : point.isFresh db env = true) {id : String}
    (hid : completedIn db id = true) : completedIn db' id = true := by
  cases h with
  | same | saved | ordersClosed | removed | entered | published => exact hid
  | flagged =>
    unfold failPaymentIfSetFailFieldTrue
    split
    · split
      · exact hid
      · exact hid
    · exact hid
  | ordered _ hadd =>
    obtain ⟨_, rfl, -⟩ := add_transaction_spec hadd
    exact hid
  | @polled operation db' hpoint hsave =>
    apply save_record_completed hsave hid
    rintro rfl
    obtain ⟨stored, _, -, -, -, -, hstatus, -⟩ := save_payment_channel_record_spec hsave
    have hanswer : answersOther env operation = false := by
      simpa [Point.isFresh, hpoint, hid] using (Bool.and_eq_true_iff.mp hfresh).2
    cases hguarded : isGuarded operation with
    | true => exact Or.inl rfl
    | false => exact Or.inr (by simpa [answersOther, hguarded, hstatus] using hanswer)
  | fired hpoint hanswer hsave => exact save_record_completed hsave hid fun _ => Or.inr hanswer
  | inserted hpoint hinsert =>
    simp only [insertOperation, bind_eq_ok, require_eq_ok] at hinsert
    obtain ⟨_, hnew, hsave⟩ := hinsert
    apply save_record_completed hsave hid
    rintro rfl
    simp [completedIn, hnew] at hid
  | @cancelled p operation rest hpoint =>
    have hother : completedIn db operation.id = false := by
      simpa [hpoint, Point.isFresh, Point.cancelled, Point.polled] using hfresh
    apply completedIn_save rfl hid
    rintro rfl
    simp [hid] at hother

theorem step_completed {s s' : State} {act : Act} (h : Step s act s') (hfresh : Fresh s act) {id : String}
    (hid : completedIn s.db id = true) : completedIn s'.db id = true := by
  rcases step_db h with hsame | ⟨call, env, point, rest, next, rfl, hcall, hpoint⟩
  · rwa [hsame]
  · have hfresh : point.isFresh s.db env = true := by simpa [Fresh, hcall] using hfresh
    exact effect_completed (point_step_effect hpoint) hfresh hid

theorem point_step_cancelled (db : Db) (now : ℕ) (env : Env) {point : Point} {operation : PaymentChannelOperation}
    (h : point.cancelled = some operation) :
    ∃ next, pointStep db now env point = .ok (cancelOperation db operation, next) := by
  cases point with
  | cancelling p operations =>
    cases operations with
    | nil => simp [Point.cancelled] at h
    | cons head rest =>
      obtain rfl := Option.some.inj h
      exact ⟨_, rfl⟩
  | _ => simp [Point.cancelled] at h

theorem point_step_polled {db db' : Db} (now : ℕ) {env : Env} {point : Point} {operation : PaymentChannelOperation}
    (h : point.polled = some operation)
    (hsave : savePaymentChannelRecord env.operations db operation env.answer operation.paymentId = .ok db') :
    ∃ next, pointStep db now env point = .ok (db', next) := by
  cases point with
  | polling p operations | handlePolling operationId operations =>
    cases operations with
    | nil => simp [Point.polled] at h
    | cons head rest =>
      obtain ⟨hid, rfl⟩ : truthy head.operationId = true ∧ head = operation := by simpa [Point.polled] using h
      have hcheck : checkOperation env.operations db head env.answer = .ok db' := by
        unfold checkOperation
        rw [if_pos hid, hsave]
      simp [pointStep, hcheck, bind, Except.bind, pure, Except.pure]
  | _ => simp [Point.polled] at h

/-- Outside a refund plan every answer with a status is saved. -/
theorem save_record_other {env : Env} (db : Db) {record : PaymentChannelOperation} (h : answersOther env record = true) :
    ∃ db', savePaymentChannelRecord env.operations db record env.answer record.paymentId = .ok db' ∧
      completedIn db' record.id = false := by
  simp only [answersOther, Bool.and_eq_true, Bool.not_eq_true', Option.any_eq_true, decide_eq_true_eq] at h
  obtain ⟨hguarded, status, hstatus, hother⟩ := h
  have hplan : ¬(record.operationType = .refund ∧ record.refundPlan.isSome = true) := by
    simpa [isGuarded] using hguarded
  unfold savePaymentChannelRecord Operations.savePaymentChannelRecord
  rw [if_neg hplan, hstatus]
  refine ⟨_, rfl, ?_⟩
  simp [completedIn, hother]

/-- Every step that is not fresh takes the status COMPLETED from an operation. -/
theorem step_stale {s s' : State} {act : Act} (h : step s act = some s') (hstale : ¬Fresh s act) :
    ∃ id, completedIn s.db id = true ∧ completedIn s'.db id = false := by
  cases act with
  | advance call env =>
    simp only [Fresh] at hstale
    split at hstale
    · rename_i point rest hcall
      have hmoved : ∀ {db' next}, pointStep s.db s.now env point = .ok (db', next) → s'.db = db' := by
        intro db' next hpoint
        simp only [step, advance, hcall, hpoint, Option.some.injEq] at h
        rw [← h]
        rfl
      have hwrites : point.cancelled.any (fun operation => completedIn s.db operation.id) = true ∨
          point.polled.any (fun operation => answersOther env operation && completedIn s.db operation.id) = true := by
        unfold Point.isFresh at hstale
        cases hc : point.cancelled <;> cases hp : point.polled <;> simp [hc, hp] at hstale ⊢ <;> grind
      rcases hwrites with hwrites | hwrites
      · obtain ⟨operation, hcancelled, hid⟩ := Option.any_eq_true _ _ |>.mp hwrites
        obtain ⟨next, hpoint⟩ := point_step_cancelled s.db s.now env hcancelled
        refine ⟨operation.id, hid, ?_⟩
        rw [hmoved hpoint]
        simp [cancelOperation, completedIn]
      · obtain ⟨operation, hpolled, hid⟩ := Option.any_eq_true _ _ |>.mp hwrites
        obtain ⟨hother, hid⟩ := Bool.and_eq_true_iff.mp hid
        obtain ⟨db', hsave, hdb'⟩ := save_record_other s.db hother
        obtain ⟨next, hpoint⟩ := point_step_polled s.now hpolled hsave
        exact ⟨operation.id, hid, by rwa [hmoved hpoint]⟩
    · exact absurd trivial hstale
  | _ => exact absurd trivial hstale

/-! ## Runs -/

/-- **Completed operations.** In a run whose steps are fresh, an operation that is COMPLETED at any
time stays COMPLETED. -/
theorem completed_operation_absorbing {s₀ s t : State} {before after : List Act}
    (hfresh : Meets step Fresh s₀ (before ++ after)) (hbefore : run step s₀ before = some s)
    (hafter : run step s after = some t) {id : String} (hcompleted : completedIn s.db id = true) :
    completedIn t.db id = true := by
  obtain ⟨-, hfresh⟩ := hfresh.append hbefore
  have hkeeps : ∀ s act s', completedIn s.db id = true → Fresh s act → step s act = some s' →
      completedIn s'.db id = true :=
    fun s act s' hid hok hstep => step_completed (step_spec hstep) hok hid
  exact run_invariant_of_meets hkeeps hcompleted hfresh hafter

/-! ## Two polls at once -/

def waitingState : State :=
  { sampleState with db := { sampleState.db with
      operations := Table.empty.save { sampleOperation with status := .waiting } } }

def pollEnv (answer : PaymentOperationStatus) : Env :=
  { sampleEnv with answer := { sampleEnv.answer with paymentStatus := some answer } }

/-- Both updates read the WAITING operation, and the first one saves COMPLETED. -/
def pollActs : List Act :=
  [.updatePaymentByOperationStatuses 0 "payment" true, .updatePaymentByOperationStatuses 1 "payment" true] ++
    [0, 0, 1, 1].map (fun call => .advance call (pollEnv .waiting)) ++ [.advance 0 (pollEnv .completed)]

/-- The second update saves the answer that it received before. -/
theorem stale_answer_saved :
    ∃ s t, run step waitingState pollActs = some s ∧ run step s [.advance 1 (pollEnv .waiting)] = some t ∧
      completedIn s.db "operation" = true ∧ completedIn t.db "operation" = false := by
  have hrun : ∃ s ∈ run step waitingState pollActs, ∃ t ∈ run step s [.advance 1 (pollEnv .waiting)],
      completedIn s.db "operation" = true ∧ completedIn t.db "operation" = false := by
    decide +kernel
  obtain ⟨s, hs, t, ht, hcompleted, hlost⟩ := hrun
  exact ⟨s, t, hs, ht, hcompleted, hlost⟩

theorem completed_operation_absorbing_sample :
    ∃ s t, run step waitingState pollActs = some s ∧ run step s [.advance 1 (pollEnv .completed)] = some t ∧
      completedIn t.db "operation" = true := by
  have hrun : ∃ s ∈ run step waitingState pollActs, (run step s [.advance 1 (pollEnv .completed)]).isSome ∧
      completedIn s.db "operation" = true := by
    decide +kernel
  obtain ⟨s, hs, ht, hcompleted⟩ := hrun
  obtain ⟨t, ht⟩ := Option.isSome_iff_exists.mp ht
  have hfresh : Meets step Fresh waitingState (pollActs ++ [.advance 1 (pollEnv .completed)]) := by decide +kernel
  exact ⟨s, t, hs, ht, completed_operation_absorbing hfresh hs ht hcompleted⟩

end Postral.Lifecycle
