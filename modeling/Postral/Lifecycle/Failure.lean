import Postral.Lifecycle.Status

/-!
# Failed payments and their channels

The payment calls together with the channels: what the channel itself has of every operation, and
what it has reported as failed or cancelled.
-/

open Check Run

namespace Postral.Lifecycle

/-! ## Channels -/

structure World where
  state : State
  /-- By the record id of an operation. `none` is one that the channel does not know. -/
  channel : String → Option PaymentOperationStatus
  /-- The operations that their channel has reported as failed or cancelled. -/
  reported : List String

inductive WorldAct where
  | service (act : Act)
  /-- The customer pays or the provider decides. -/
  | provider (operationId : String) (status : PaymentOperationStatus)

/-- The operation about which the next step asks its channel. -/
def Point.asked (env : Env) : Point → Option String
  | .firing _ (operation :: _) | .cancelling _ (operation :: _) => some operation.id
  | .startInitializing .. => some env.recordId
  | point => point.polled.map (·.id)

/-- The operation and the answer of a step. -/
def asked (s : State) : Act → Option (String × Option PaymentOperationStatus)
  | .advance call env =>
    match s.calls call with
    | .active point _ => (point.asked env).map fun operationId => (operationId, env.answer.paymentStatus)
    | .idle => none
  | _ => none

/-- The channel answers with the status that it has now. -/
def World.answer (w : World) (operationId : String) : Option PaymentOperationStatus → World
  | some status => { w with
      channel := Function.update w.channel operationId (some status)
      reported := if status = .failed then operationId :: w.reported else w.reported }
  | none => w

/-- An operation that failed at its channel stays so. `none` when the channel would have to revive it. -/
def worldStep (w : World) : WorldAct → Option World
  | .service act =>
    match asked w.state act with
    | some (operationId, status) =>
      if w.channel operationId = some .failed ∧ status ≠ none ∧ status ≠ some .failed then none
      else (step w.state act).map fun s => { w.answer operationId status with state := s }
    | none => (step w.state act).map fun s => { w with state := s }
  | .provider operationId status =>
    if w.channel operationId = some .failed then none
    else some { w with channel := Function.update w.channel operationId (some status) }

/-- The payment that the next step stores as FAILED. -/
def Point.fails (db : Db) : Point → Option String
  | .flagging id _ => (db.payments.find id).bind fun stored => if stored.failOnPaymentChannelFailure then some id else none
  | point => point.saved.bind fun q => if q.paymentStatus = .failed then some q.id else none

/-- READY or COMPLETED at its channel. -/
def World.holds (w : World) (operation : PaymentChannelOperation) : Bool :=
  w.channel operation.id = some .ready ∨ w.channel operation.id = some .completed

/-- A cancellation is answered with FAILED. -/
def Point.confirmed (env : Env) : Point → Bool
  | .cancelling _ (_ :: _) => env.answer.paymentStatus = some .failed
  | _ => true

/-- The channel confirms every cancellation, and a payment is stored as FAILED while none of its
PURCHASE operations that are not FAILED themselves is paid at its channel. -/
def Point.careful (w : World) (env : Env) (point : Point) : Bool :=
  point.confirmed env && (point.fails w.state.db).all fun id => (operationsOf w.state.db id).all fun operation =>
    operation.operationType ≠ .purchase ∨ operation.status = .failed ∨ !w.holds operation

def Careful (w : World) : WorldAct → Prop
  | .service (.advance call env) =>
    match w.state.calls call with
    | .active point _ => point.careful w env
    | .idle => True
  | _ => True

instance (w : World) (act : WorldAct) : Decidable (Careful w act) := by
  unfold Careful
  split
  · split <;> infer_instance
  · infer_instance

/-! ## What a step reports -/

/-- A FAILED operation was reported, and what was reported stays failed at its channel. -/
structure Reported (w : World) : Prop where
  stored : ∀ operation ∈ w.state.db.operations.rows, operation.status = .failed → operation.id ∈ w.reported
  channel : ∀ operationId ∈ w.reported, w.channel operationId = some .failed

/-- A step that saves FAILED for an operation has asked its channel, and the answer was FAILED. -/
theorem effect_failed {db db' : Db} {env : Env} {point : Point} (h : Effect db env point db')
    (hconfirmed : point.confirmed env = true)
    {operation : PaymentChannelOperation} (hmem : operation ∈ db'.operations.rows) (hfailed : operation.status = .failed) :
    operation ∈ db.operations.rows ∨ (point.asked env = some operation.id ∧ env.answer.paymentStatus = some .failed) := by
  cases h with
  | @polled record _ hpoint hsave =>
    obtain ⟨saved, transactions, rfl, -, hid, -, hstatus, -⟩ := save_payment_channel_record_spec hsave
    rcases Table.mem_save.mp hmem with rfl | ⟨hold, -⟩
    · refine .inr ⟨?_, by rw [hstatus, hfailed]⟩
      cases point with
      | polling p operations | handlePolling p operations => simp [Point.asked, hpoint, hid]
      | _ => simp [Point.polled] at hpoint
    · exact .inl hold
  | @fired record _ hpoint hanswer hsave =>
    obtain ⟨saved, transactions, rfl, -, hid, -, hstatus, -⟩ := save_payment_channel_record_spec hsave
    rcases Table.mem_save.mp hmem with rfl | ⟨hold, -⟩
    · simp [hanswer, hfailed] at hstatus
    · exact .inl hold
  | @inserted p amount capture _ hpoint hinsert =>
    obtain ⟨-, saved, transactions, rfl, -, hcore, hstatus⟩ := insert_operation_spec hinsert
    rcases Table.mem_save.mp hmem with rfl | ⟨hold, -⟩
    · have hid : operation.id = env.recordId := congrArg Prod.fst hcore
      exact .inr ⟨by simp [hpoint, Point.asked, hid], by rw [hstatus, hfailed]⟩
    · exact .inl hold
  | @cancelled p record rest hpoint =>
    rcases Table.mem_save.mp hmem with rfl | ⟨hold, -⟩
    · exact .inr ⟨by simp [hpoint, Point.asked], by simpa [hpoint, Point.confirmed] using hconfirmed⟩
    · exact .inl hold
  | @flagged id again _ =>
    left
    unfold failPaymentIfSetFailFieldTrue at hmem
    split at hmem
    · split at hmem
      · exact hmem
      · exact hmem
    · exact hmem
  | ordered _ hadd =>
    obtain ⟨_, rfl, -⟩ := add_transaction_spec hadd
    exact .inl hmem
  | same | saved | ordersClosed | removed | entered | published => exact .inl hmem

/-- A payment becomes FAILED in a step that stores it. -/
theorem effect_fails {db db' : Db} {env : Env} {point : Point} (h : Effect db env point db') {id : String}
    (hbefore : statusOf db id ≠ some .failed) (hafter : statusOf db' id = some .failed) :
    point.fails db = some id ∧ point.asked env = none ∧ db'.operations = db.operations := by
  cases h with
  | @saved q hq =>
    rw [statusOf_savePayment] at hafter
    split at hafter <;> rename_i hid
    · have hfailed : q.paymentStatus = .failed := by simpa using hafter
      cases point <;> simp_all [Point.saved, Point.fails, Point.asked, Point.polled, savePayment]
    · exact absurd hafter hbefore
  | @flagged flagged again hpoint =>
    subst hpoint
    unfold failPaymentIfSetFailFieldTrue at hafter ⊢
    split at hafter <;> rename_i hfind
    · rename_i stored
      split at hafter <;> rename_i hflag
      · rw [statusOf_savePayment] at hafter
        split at hafter <;> rename_i hid
        · have hkey := Table.key_of_find hfind
          obtain rfl : id = flagged := hid.trans hkey
          simp [Point.fails, Point.asked, Point.polled, hfind, hflag, savePayment]
        · exact absurd hafter hbefore
      · exact absurd hafter hbefore
    · exact absurd hafter hbefore
  | polled _ hsave | fired _ _ hsave =>
    obtain ⟨_, _, rfl, -⟩ := save_payment_channel_record_spec hsave
    exact absurd hafter hbefore
  | inserted _ hinsert =>
    obtain ⟨-, _, _, rfl, -⟩ := insert_operation_spec hinsert
    exact absurd hafter hbefore
  | ordered _ hadd =>
    obtain ⟨_, rfl, -⟩ := add_transaction_spec hadd
    exact absurd hafter hbefore
  | same | cancelled | ordersClosed | removed | entered | published => exact absurd hafter hbefore

/-! ## Steps of the world -/

theorem world_step_spec {w w' : World} {act : Act} (h : worldStep w (.service act) = some w') :
    step w.state act = some w'.state ∧
      match asked w.state act with
      | some (operationId, status) => (w.channel operationId = some .failed → status = none ∨ status = some .failed) ∧
          w' = { w.answer operationId status with state := w'.state }
      | none => w' = { w with state := w'.state } := by
  simp only [worldStep] at h
  split at h <;> rename_i hasked
  · split at h <;> rename_i hallowed
    · simp at h
    · obtain ⟨s, hs, rfl⟩ := Option.map_eq_some_iff.mp h
      refine ⟨hs, ?_⟩
      simp only [and_true]
      intro hfailed
      by_contra hnot
      rw [not_or] at hnot
      exact hallowed ⟨hfailed, hnot⟩
  · obtain ⟨s, hs, rfl⟩ := Option.map_eq_some_iff.mp h
    exact ⟨hs, rfl⟩

/-- What the channels have reported after an answer. -/
theorem answer_reported (w : World) (operationId : String) (status : Option PaymentOperationStatus) (id : String) :
    id ∈ (w.answer operationId status).reported ↔ id ∈ w.reported ∨ (id = operationId ∧ status = some .failed) := by
  cases status with
  | none => simp [World.answer]
  | some status =>
    by_cases hfailed : status = .failed
    · simp [World.answer, hfailed, or_comm]
    · simp [World.answer, hfailed]

theorem answer_channel (w : World) (operationId : String) (status : Option PaymentOperationStatus) (id : String) :
    (w.answer operationId status).channel id =
      if id = operationId ∧ status.isSome then status else w.channel id := by
  cases status with
  | none => simp [World.answer]
  | some status =>
    by_cases hid : id = operationId
    · simp [World.answer, hid]
    · simp [World.answer, hid]

/-- Reports are never taken back. -/
theorem world_step_reported {w w' : World} {act : Act} (h : worldStep w (.service act) = some w') {id : String}
    (hid : id ∈ w.reported) : id ∈ w'.reported := by
  obtain ⟨-, hall⟩ := world_step_spec h
  split at hall
  · rw [hall.2]
    exact (answer_reported w _ _ id).mpr (.inl hid)
  · rwa [hall]

theorem world_step_channel {w w' : World} {act : Act} (h : worldStep w (.service act) = some w')
    (hw : Reported w) : ∀ id ∈ w'.reported, w'.channel id = some .failed := by
  obtain ⟨-, hall⟩ := world_step_spec h
  intro id hid
  split at hall
  · rename_i operationId status hasked
    obtain ⟨hallowed, hall⟩ := hall
    rw [hall] at hid ⊢
    have hid := (answer_reported w operationId status id).mp hid
    show (w.answer operationId status).channel id = _
    rw [answer_channel]
    split <;> rename_i hown
    · obtain ⟨rfl, hsome⟩ := hown
      rcases hid with hold | ⟨-, hfailed⟩
      · rcases hallowed (hw.channel _ hold) with hnone | hfailed
        · simp [hnone] at hsome
        · exact hfailed
      · exact hfailed
    · rcases hid with hold | ⟨rfl, hfailed⟩
      · exact hw.channel id hold
      · exact absurd ⟨rfl, by simp [hfailed]⟩ hown
  · rw [hall] at hid ⊢
    exact hw.channel id hid

/-- The point of the call that wrote, what it asked, and what the step had to meet. -/
theorem world_step_db {w w' : World} {act : Act} (h : worldStep w (.service act) = some w')
    (hcareful : Careful w (.service act)) : w'.state.db = w.state.db ∨
    ∃ env point, Effect w.state.db env point w'.state.db ∧ point.careful w env = true ∧
      asked w.state act = (point.asked env).map fun operationId => (operationId, env.answer.paymentStatus) := by
  obtain ⟨hstep, -⟩ := world_step_spec h
  rcases step_db (step_spec hstep) with hsame | ⟨call, env, point, rest, next, rfl, hcall, hpoint⟩
  · exact .inl hsame
  · exact .inr ⟨env, point, point_step_effect hpoint, by simpa [Careful, hcall] using hcareful, by simp [asked, hcall]⟩

theorem world_step_stored {w w' : World} {act : Act} (h : worldStep w (.service act) = some w')
    (hcareful : Careful w (.service act)) (hw : Reported w) :
    ∀ operation ∈ w'.state.db.operations.rows, operation.status = .failed → operation.id ∈ w'.reported := by
  intro operation hmem hfailed
  rcases world_step_db h hcareful with hsame | ⟨env, point, heffect, hpoint, hasked⟩
  · rw [hsame] at hmem
    exact world_step_reported h (hw.stored operation hmem hfailed)
  · simp only [Point.careful, Bool.and_eq_true] at hpoint
    rcases effect_failed heffect hpoint.1 hmem hfailed with hold | ⟨hown, hanswer⟩
    · exact world_step_reported h (hw.stored operation hold hfailed)
    · obtain ⟨-, hall⟩ := world_step_spec h
      rw [hown] at hasked
      simp only [hasked, Option.map_some] at hall
      rw [hall.2]
      exact (answer_reported w _ _ _).mpr (.inr ⟨rfl, hanswer⟩)

theorem reported_step {w w' : World} {act : WorldAct} (h : worldStep w act = some w') (hcareful : Careful w act)
    (hw : Reported w) : Reported w' := by
  cases act with
  | service act => exact ⟨world_step_stored h hcareful hw, world_step_channel h hw⟩
  | provider operationId status =>
    simp only [worldStep] at h
    split at h <;> rename_i hfailed
    · simp at h
    · obtain rfl := Option.some.inj h
      refine ⟨hw.stored, fun id hid => ?_⟩
      have hne : id ≠ operationId := fun heq => hfailed (heq ▸ hw.channel id hid)
      exact (Function.update_of_ne hne _ _).trans (hw.channel id hid)

/-- A payment that becomes FAILED has no purchase that is paid at its channel. -/
theorem world_step_fails {w w' : World} {act : WorldAct} (h : worldStep w act = some w') (hcareful : Careful w act)
    (hw : Reported w) {id : String} (hbefore : statusOf w.state.db id ≠ some .failed)
    (hafter : statusOf w'.state.db id = some .failed) :
    ∀ operation ∈ operationsOf w'.state.db id, operation.operationType = .purchase → w'.holds operation = false := by
  intro operation hmem htype
  cases act with
  | provider operationId status =>
    simp only [worldStep] at h
    split at h
    · simp at h
    · obtain rfl := Option.some.inj h
      exact absurd hafter hbefore
  | service act =>
    have hw' := reported_step h hcareful hw
    have hpaid : operation.status = .failed → w'.holds operation = false := by
      intro hfailed
      have hchannel := hw'.channel _ (hw'.stored operation (List.mem_of_mem_filter hmem) hfailed)
      simp [World.holds, hchannel]
    rcases world_step_db h hcareful with hsame | ⟨env, point, heffect, hpoint, hasked⟩
    · rw [hsame] at hafter
      exact absurd hafter hbefore
    · obtain ⟨hfails, hnone, hoperations⟩ := effect_fails heffect hbefore hafter
      simp only [Point.careful, Bool.and_eq_true, hfails, Option.all_some, List.all_eq_true, decide_eq_true_eq] at hpoint
      rw [operationsOf, hoperations] at hmem
      rcases hpoint.2 operation hmem with hnot | hfailed | hunpaid
      · exact absurd htype hnot
      · exact hpaid hfailed
      · -- The step asks no channel.
        obtain ⟨-, hall⟩ := world_step_spec h
        rw [hnone] at hasked
        simp only [hasked, Option.map_none] at hall
        rw [hall]
        simpa [World.holds] using hunpaid

/-! ## Runs -/

/-- A started operation: WAITING here and at its channel. -/
def waitingWorld : World where
  state := { sampleState with db := { sampleState.db with
    operations := ⟨[{ sampleOperation with status := .waiting }], by decide⟩ } }
  channel := fun operationId => if operationId = "operation" then some .waiting else none
  reported := []

/-- A step of the cancellation, with the channel's answer. -/
def cancelStep (answer : PaymentOperationStatus) : WorldAct :=
  .service (.advance 0 { sampleEnv with answer := { sampleEnv.answer with paymentStatus := some answer } })

/-- Everything but the save of the payment. -/
def cancelActs (answer : PaymentOperationStatus) : List WorldAct :=
  .service (.cancelPayment 0 "payment") :: List.replicate 4 (cancelStep answer)

end Postral.Lifecycle
