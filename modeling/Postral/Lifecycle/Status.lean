import Postral.Lifecycle.Changes

/-!
# Resolved payments

A resolved payment keeps its status as long as no call saves an entity that it loaded before.
-/

open Check Run

namespace Postral.Lifecycle

/-- The stored status. -/
def statusOf (db : Db) (id : String) : Option PaymentStatus := (db.payments.find id).map (·.paymentStatus)

/-- Since the call loaded the entity that it saves, nobody resolved the payment to another status. The
update of the failing flag finds no COMPLETED payment with the flag. The second save of a confirmation
is free. -/
def Point.undisturbed (db : Db) : Point → Bool
  | .closing _ => true
  | .flagging id _ => (db.payments.find id).all fun stored =>
      !(stored.failOnPaymentChannelFailure ∧ stored.paymentStatus = .completed)
  | point => point.saved.all fun p => (statusOf db p.id).all fun status => !isResolved status ∨ status = p.paymentStatus

def Undisturbed (s : State) : Act → Prop
  | .advance call _ =>
    match s.calls call with
    | .active point _ => point.undisturbed s.db
    | .idle => True
  | _ => True

instance (s : State) (act : Act) : Decidable (Undisturbed s act) := by
  unfold Undisturbed
  split
  · split <;> infer_instance
  · infer_instance

/-! ## One step -/

theorem statusOf_savePayment (db : Db) (p : Payment) (id : String) :
    statusOf (savePayment db p) id = if id = p.id then some p.paymentStatus else statusOf db id := by
  unfold statusOf savePayment
  rw [Table.find_save]
  split <;> simp

/-- Every call that has saved COMPLETED finds COMPLETED, and every entity has the status of its point. -/
structure Settled (s : State) : Prop where
  sound : ∀ call point rest, s.calls call = .active point rest → point.Sound
  finishing : ∀ call point rest p, s.calls call = .active point rest → point.finishing = some p →
    statusOf s.db p.id = some .completed

theorem isNew_finishing {point : Point} {rest : List String} (h : (Call.active point rest).isNew) :
    point.finishing = none := by
  have hnone := h.1
  cases point <;> simp_all [Point.payment?, Point.finishing]

/-- A step without a disturbance keeps every resolved status. -/
theorem effect_absorbing {db db' : Db} {env : Env} {point : Point} (h : Effect db env point db')
    (hundisturbed : point.undisturbed db = true) (hsound : point.Sound)
    (hfinishing : ∀ p, point.finishing = some p → statusOf db p.id = some .completed) {id : String}
    {status : PaymentStatus} (hstatus : statusOf db id = some status) (hresolved : isResolved status = true) :
    statusOf db' id = some status := by
  cases h with
  | same => exact hstatus
  | @saved q hq =>
    rw [statusOf_savePayment]
    split <;> rename_i hid
    · subst hid
      cases point with
      | closing p =>
        -- COMPLETED over COMPLETED.
        obtain rfl := Option.some.inj hq
        rw [(hsound p rfl).mpr rfl, ← hstatus, hfinishing p rfl]
      | completing p | saving p | confirmSaving p | startSaving p =>
        obtain rfl := Option.some.inj hq
        simp only [Point.undisturbed, Point.saved, Option.all_some, hstatus, hresolved, decide_eq_true_eq] at hundisturbed
        simp_all
      | _ => simp [Point.saved] at hq
    · exact hstatus
  | @flagged flaggedId again hpoint =>
    subst hpoint
    unfold failPaymentIfSetFailFieldTrue
    split <;> rename_i stored hfind
    · split <;> rename_i hflag
      · rw [statusOf_savePayment]
        split <;> rename_i hid
        · -- The stored payment is FAILED already.
          subst hid
          have hid := Table.key_of_find hfind
          simp only at hstatus
          rw [hid] at hstatus
          have hnot : stored.paymentStatus ≠ .completed := by
            simpa [Point.undisturbed, hfind, hflag] using hundisturbed
          have heq : stored.paymentStatus = status := by
            simpa [statusOf, hfind] using hstatus
          subst heq
          cases hs : stored.paymentStatus <;> simp_all [isResolved]
        · exact hstatus
      · exact hstatus
    · exact hstatus
  | polled _ hsave | fired _ _ hsave =>
    obtain ⟨_, _, rfl, -⟩ := save_payment_channel_record_spec hsave
    exact hstatus
  | inserted _ hinsert =>
    obtain ⟨-, _, _, rfl, -⟩ := insert_operation_spec hinsert
    exact hstatus
  | ordered _ hadd =>
    obtain ⟨_, rfl, -⟩ := add_transaction_spec hadd
    exact hstatus
  | cancelled | ordersClosed | removed | entered | published => exact hstatus

theorem step_absorbing {s s' : State} {act : Act} (h : Step s act s') (hsettled : Settled s)
    (hundisturbed : Undisturbed s act) {id : String} {status : PaymentStatus} (hstatus : statusOf s.db id = some status)
    (hresolved : isResolved status = true) : statusOf s'.db id = some status := by
  rcases step_db h with hsame | ⟨call, env, point, rest, next, rfl, hcall, hpoint⟩
  · rwa [hsame]
  · have hpointUndisturbed : point.undisturbed s.db = true := by simpa [Undisturbed, hcall] using hundisturbed
    exact effect_absorbing (point_step_effect hpoint) hpointUndisturbed (hsettled.sound call point rest hcall)
      (fun p hp => hsettled.finishing call point rest p hcall hp) hstatus hresolved

theorem isNew_sound {point : Point} {rest : List String} (h : (Call.active point rest).isNew) : point.Sound :=
  sound_of_none h.1

theorem step_settled {s s' : State} {act : Act} (h : Step s act s') (hsettled : Settled s)
    (hundisturbed : Undisturbed s act) : Settled s' := by
  have hcompleted : ∀ {id}, statusOf s.db id = some .completed → statusOf s'.db id = some .completed :=
    fun hstatus => step_absorbing h hsettled hundisturbed hstatus rfl
  constructor
  · intro call point' rest' hcall'
    rcases step_point h hcall' with hsame | hnew | ⟨env, point, rest, -, hcall, hpoint⟩
    · exact hsettled.sound call point' rest' hsame
    · exact isNew_sound hnew
    · exact point_step_sound (hsettled.sound call point rest hcall) hpoint
  · intro call point' rest' p' hcall' hp'
    rcases step_point h hcall' with hsame | hnew | ⟨env, point, rest, -, hcall, hpoint⟩
    · exact hcompleted (hsettled.finishing call point' rest' p' hsame hp')
    · simp [isNew_finishing hnew] at hp'
    · rcases point_step_finishing hpoint hp' with ⟨hsave, hdb⟩ | ⟨p, hp, hid⟩
      · -- COMPLETED has just been saved.
        have hstatus : p'.paymentStatus = .completed := by
          rcases hsave with rfl | rfl <;> exact (hsettled.sound call _ rest hcall p' rfl).mpr rfl
        rw [hdb, statusOf_savePayment, if_pos rfl, hstatus]
      · rw [hid]
        exact hcompleted (hsettled.finishing call point rest p hcall hp)

/-! ## Runs -/

theorem settled_of_idle {s : State} (h : ∀ call, s.calls call = .idle) : Settled s := by
  constructor
  · intro call point rest hcall
    simp [h] at hcall
  · intro call point rest p hcall
    simp [h] at hcall

/-- **Resolved payments.** In a run whose steps are undisturbed, a payment that is COMPLETED or
FAILED at any time keeps this status. -/
theorem resolved_status_absorbing {s₀ s t : State} {before after : List Act}
    (hidle : ∀ call, s₀.calls call = .idle) (hundisturbed : Meets step Undisturbed s₀ (before ++ after))
    (hbefore : run step s₀ before = some s) (hafter : run step s after = some t) {id : String}
    {status : PaymentStatus} (hstatus : statusOf s.db id = some status) (hresolved : isResolved status = true) :
    statusOf t.db id = some status := by
  obtain ⟨hundisturbed, hundisturbed'⟩ := hundisturbed.append hbefore
  have hinv : ∀ s act s', Settled s → Undisturbed s act → step s act = some s' → Settled s' :=
    fun s act s' hs hok hstep => step_settled (step_spec hstep) hs hok
  have hsettled := run_invariant_of_meets hinv (settled_of_idle hidle) hundisturbed hbefore
  have hrel := run_relation (R := fun s t : State => statusOf s.db id = some status → statusOf t.db id = some status)
    (fun _ h => h) (fun _ _ _ h h' hstatus => h' (h hstatus)) hinv
    (fun s act s' hs hok hstep hstatus => step_absorbing (step_spec hstep) hs hok hstatus hresolved)
    hsettled hundisturbed' hafter
  exact hrel hstatus

/-! ## A start on a completed payment -/

def samplePayment : Payment where
  id := "payment"
  type := .purchase
  totalAmount := 10000
  taxAmount := 0
  currency := "TRY"
  items := ⟨[{ id := "line", totalAmount := 10000, sellerAccountId := some "seller" }], by decide⟩
  customerAccountId := some "customer"
  paymentStatus := .waiting
  failOnPaymentChannelFailure := true

def sampleOperation : PaymentChannelOperation where
  id := "operation"
  paymentChannelId := "channel"
  operationId := some "channel-operation"
  amount := 10000
  currency := "TRY"
  status := .completed
  paymentId := "payment"

/-- A payment whose operation is COMPLETED. -/
def sampleState : State where
  db := {
    operations := ⟨[sampleOperation], by decide⟩
    transactions := []
    payments := ⟨[samplePayment], by decide⟩
    sellerOrders := Table.empty
    digestionEvents := [] }
  now := 0
  calls := fun _ => .idle

def sampleEnv : Env where
  operations := ⟨false, fun _ => none, fun _ => none, fun _ => ""⟩
  answer := ⟨some "channel", some "channel-operation", some .completed, none, none, none⟩

/-- The update completes the payment. -/
def completeActs : List Act :=
  .updatePaymentByOperationStatuses 0 "payment" false :: List.replicate 11 (.advance 0 sampleEnv)

/-- A second start meets the COMPLETED operation, which is counted as ongoing. -/
def restartActs : List Act :=
  [.startOperation 1 "payment" ⟨"channel", some 1, "TRY"⟩, .advance 1 sampleEnv, .advance 1 sampleEnv]

theorem completed_payment_fails :
    ∃ s t, run step sampleState completeActs = some s ∧ run step s restartActs = some t ∧
      statusOf s.db "payment" = some .completed ∧ statusOf t.db "payment" = some .failed := by
  have hrun : ∃ s ∈ run step sampleState completeActs, ∃ t ∈ run step s restartActs,
      statusOf s.db "payment" = some .completed ∧ statusOf t.db "payment" = some .failed := by
    decide +kernel
  obtain ⟨s, hs, t, ht, hcompleted, hfailed⟩ := hrun
  exact ⟨s, t, hs, ht, hcompleted, hfailed⟩

/-- An update after the completion leaves it alone. -/
theorem resolved_status_absorbing_sample :
    ∃ s t, run step sampleState completeActs = some s ∧
      run step s [.updatePaymentByOperationStatuses 1 "payment" true, .advance 1 sampleEnv] = some t ∧
      statusOf t.db "payment" = some .completed := by
  have hrun : ∃ s ∈ run step sampleState completeActs,
      (run step s [.updatePaymentByOperationStatuses 1 "payment" true, .advance 1 sampleEnv]).isSome ∧
      statusOf s.db "payment" = some .completed := by
    decide +kernel
  obtain ⟨s, hs, ht, hcompleted⟩ := hrun
  obtain ⟨t, ht⟩ := Option.isSome_iff_exists.mp ht
  have hundisturbed : Meets step Undisturbed sampleState (completeActs ++
      [.updatePaymentByOperationStatuses 1 "payment" true, .advance 1 sampleEnv]) := by
    decide +kernel
  exact ⟨s, t, hs, ht, resolved_status_absorbing (fun _ => rfl) hundisturbed hs ht hcompleted rfl⟩

end Postral.Lifecycle
