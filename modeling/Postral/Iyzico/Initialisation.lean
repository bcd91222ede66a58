import Postral.Iyzico.Checkout
import Postral.Lib.Run

/-!
# Initialisation of an iyzico checkout (`initialize`)

A call reserves its operation, calls the provider and records the answer, in separate steps.
-/

open Check Run

namespace Postral.Iyzico.Checkout

/-- What the provider's answer puts into the operation. -/
structure InitResult where
  token : String
  paymentPageUrl : String
  deriving DecidableEq

/-- What a call of `initialize` does next. -/
inductive InitPoint where
  | mapping (payment : PaymentFullWithCaptureInfoDTO)
  | inserting (request : CheckoutRequest) (reservation : IyzicoOperation)
  /-- After the duplicate entry. -/
  | comparing (reservation : IyzicoOperation)
  | sending (request : CheckoutRequest) (reservation : IyzicoOperation)
  | awaiting (reservation : IyzicoOperation)
  | updating (reservation : IyzicoOperation) (result : InitResult)
  | reading (reservation : IyzicoOperation)
  /-- The update in the `catch` block. -/
  | marking (reservation : IyzicoOperation)
  deriving DecidableEq

structure Checkouts where
  operations : Table IyzicoOperation.id
  calls : ℕ → Option InitPoint
  /-- History: the requests that left for the provider, with their payments. -/
  sent : List (String × CheckoutRequest)
  /-- History: what repeated calls reserved in vain, and the operation that each returned. -/
  repeated : List (IyzicoOperation × IyzicoOperation)

/-- What a step takes from outside. -/
structure InitEnv where
  id : String := ""
  subMerchantKeys : Option (String → Option String) := none
  /-- `none` when the answer is an error, or does not verify. -/
  answer : Option InitResult := none

inductive InitAct where
  | start (call : ℕ) (payment : PaymentFullWithCaptureInfoDTO)
  | advance (call : ℕ) (env : InitEnv)
  /-- The next step throws. With `applied` its statement or request has taken effect all the same. -/
  | fail (call : ℕ) (applied : Bool)
  | crash (call : ℕ)
  /-- Another call of the channel writes a row. -/
  | write (operation : IyzicoOperation)

namespace Checkouts

def setCall (s : Checkouts) (call : ℕ) (next : Option InitPoint) : Checkouts :=
  { s with calls := Function.update s.calls call next }

def setOperations (s : Checkouts) (operations : Table IyzicoOperation.id) : Checkouts :=
  { s with operations := operations }

end Checkouts

/-- `ER_DUP_ENTRY`: the primary key and the unique index on the payment. -/
def duplicates (operations : Table IyzicoOperation.id) (reservation : IyzicoOperation) : Prop :=
  ∃ row ∈ operations.rows, row.id = reservation.id ∨ row.paymentId = reservation.paymentId

instance (operations : Table IyzicoOperation.id) (reservation : IyzicoOperation) :
    Decidable (duplicates operations reservation) := by
  unfold duplicates
  infer_instance

def recordResult (operations : Table IyzicoOperation.id) (id : String) (result : InitResult) : Table IyzicoOperation.id :=
  operations.update (·.id = id) (fun row => { row with
    token := some result.token
    paymentPageUrl := some result.paymentPageUrl
    initializationState := .initialized }) fun _ => rfl

def markForReconciliation (operations : Table IyzicoOperation.id) (id : String) : Table IyzicoOperation.id :=
  operations.update (·.id = id) (fun row => { row with initializationState := .reconciliationRequired }) fun _ => rfl

/-- The checks on the operation of an earlier call. -/
def compareExisting (operations : Table IyzicoOperation.id) (reservation : IyzicoOperation) :
    Except HttpError IyzicoOperation := do
  let existing ← orThrow (operations.rows.find? (·.paymentId = reservation.paymentId)) (entityNotFound "IyzicoOperation")
  require (existing.amount = reservation.amount ∧ existing.currency = reservation.currency ∧
      existing.basketLines = reservation.basketLines)
    (.conflict "iyzico payment was already reserved with different capture details")
  require (existing.initializationState = .initialized)
    (.conflict "iyzico initialization needs reconciliation; it will not be sent twice")
  return existing

def advanceInit (config : Config) (s : Checkouts) (call : ℕ) (env : InitEnv) : InitPoint → Checkouts
  | .mapping payment =>
    match mapCheckout config payment env.id (config.callbackUrl env.id) env.subMerchantKeys with
    | .ok request => s.setCall call (some (.inserting request (reservationOf payment env.id request)))
    | .error _ => s.setCall call none
  | .inserting request reservation =>
    if duplicates s.operations reservation then s.setCall call (some (.comparing reservation))
    else (s.setOperations (s.operations.save reservation)).setCall call (some (.sending request reservation))
  | .comparing reservation =>
    match compareExisting s.operations reservation with
    | .ok existing => { s.setCall call none with repeated := (reservation, existing) :: s.repeated }
    | .error _ => s.setCall call none
  | .sending request reservation =>
    { s.setCall call (some (.awaiting reservation)) with sent := (reservation.paymentId, request) :: s.sent }
  | .awaiting reservation =>
    match env.answer with
    | some result => s.setCall call (some (.updating reservation result))
    | none => s.setCall call (some (.marking reservation))
  | .updating reservation result =>
    (s.setOperations (recordResult s.operations reservation.id result)).setCall call (some (.reading reservation))
  | .reading reservation =>
    match s.operations.find reservation.id with
    | some _ => s.setCall call none
    | none => s.setCall call (some (.marking reservation))
  | .marking reservation =>
    (s.setOperations (markForReconciliation s.operations reservation.id)).setCall call none

/-- A throw in a step: within the `try` block of the provider call the operation is marked. -/
def failInit (s : Checkouts) (call : ℕ) (applied : Bool) : InitPoint → Checkouts
  | .mapping _ | .comparing _ => s.setCall call none
  | .inserting _ reservation =>
    if applied ∧ ¬ duplicates s.operations reservation then
      (s.setOperations (s.operations.save reservation)).setCall call none
    else s.setCall call none
  | .sending request reservation =>
    if applied then
      { s.setCall call (some (.marking reservation)) with sent := (reservation.paymentId, request) :: s.sent }
    else s.setCall call (some (.marking reservation))
  | .updating reservation result =>
    if applied then
      (s.setOperations (recordResult s.operations reservation.id result)).setCall call (some (.marking reservation))
    else s.setCall call (some (.marking reservation))
  | .awaiting reservation | .reading reservation => s.setCall call (some (.marking reservation))
  | .marking reservation =>
    if applied then (s.setOperations (markForReconciliation s.operations reservation.id)).setCall call none
    else s.setCall call none

/-- What a reservation fixes. -/
def IyzicoOperation.reserved (o : IyzicoOperation) : String × String × String × Decimal 2 × List IyzicoBasketLine :=
  (o.id, o.paymentId, o.currency, o.amount, o.basketLines)

/-- The other calls of the channel update an operation, and neither its initialisation nor what it has reserved. -/
def mayWrite (operations : Table IyzicoOperation.id) (operation : IyzicoOperation) : Prop :=
  ∃ row ∈ operations.find operation.id, operation.reserved = row.reserved ∧
    operation.initializationState = row.initializationState

instance (operations : Table IyzicoOperation.id) (operation : IyzicoOperation) : Decidable (mayWrite operations operation) := by
  unfold mayWrite
  infer_instance

def initStep (config : Config) (s : Checkouts) : InitAct → Option Checkouts
  | .start call payment => if s.calls call = none then s.setCall call (some (.mapping payment)) else none
  | .advance call env => (s.calls call).map (advanceInit config s call env)
  | .fail call applied => (s.calls call).map (failInit s call applied)
  | .crash call => some (s.setCall call none)
  | .write operation => if mayWrite s.operations operation then s.setOperations (s.operations.save operation) else none

/-! ## The invariant -/

/-- The payment whose operation the call has reserved. -/
def InitPoint.owns : InitPoint → Option String
  | .mapping _ | .inserting .. | .comparing _ => none
  | .sending _ reservation | .awaiting reservation | .updating reservation _ | .reading reservation
  | .marking reservation => some reservation.paymentId

/-- The payment whose request is about to leave. -/
def InitPoint.sends : InitPoint → Option String
  | .sending _ reservation => some reservation.paymentId
  | _ => none

def Stored (operations : Table IyzicoOperation.id) (paymentId : String) : Prop :=
  ∃ row ∈ operations.rows, row.paymentId = paymentId

/-- The operation of an earlier call stands for the same payment with the same details. -/
def Repeats (reservation existing : IyzicoOperation) : Prop :=
  existing.paymentId = reservation.paymentId ∧ existing.amount = reservation.amount ∧
    existing.currency = reservation.currency ∧ existing.basketLines = reservation.basketLines

structure InitInv (s : Checkouts) : Prop where
  stored : ∀ call point, s.calls call = some point → ∀ paymentId ∈ point.owns, Stored s.operations paymentId
  sole : ∀ call call' point point', s.calls call = some point → s.calls call' = some point' →
    ∀ paymentId ∈ point.owns, paymentId ∈ point'.owns → call = call'
  fresh : ∀ call point, s.calls call = some point → ∀ paymentId ∈ point.sends, paymentId ∉ s.sent.map Prod.fst
  known : ∀ paymentId ∈ s.sent.map Prod.fst, Stored s.operations paymentId
  once : (s.sent.map Prod.fst).Nodup
  repeated : ∀ pair ∈ s.repeated, pair.2.initializationState = .initialized ∧ Repeats pair.1 pair.2 ∧
    ∃ row ∈ s.operations.rows, row.reserved = pair.2.reserved

section Inv

variable {config : Config} {s s' : Checkouts} {call : ℕ} {operations : Table IyzicoOperation.id}
  {next : Option InitPoint}

/-- Every reservation is still there. -/
def Keeps (operations operations' : Table IyzicoOperation.id) : Prop :=
  ∀ row ∈ operations.rows, ∃ row' ∈ operations'.rows, row'.reserved = row.reserved

theorem Keeps.refl (operations : Table IyzicoOperation.id) : Keeps operations operations := fun row hrow => ⟨row, hrow, rfl⟩

theorem Stored.keep {paymentId : String} (h : Stored s.operations paymentId) (hkeeps : Keeps s.operations operations) :
    Stored operations paymentId := by
  obtain ⟨row, hrow, rfl⟩ := h
  obtain ⟨row', hrow', hreserved⟩ := hkeeps row hrow
  exact ⟨row', hrow', congrArg (·.2.1) hreserved⟩

theorem keeps_update (p : IyzicoOperation → Bool) (f : IyzicoOperation → IyzicoOperation) (hf : ∀ r, (f r).id = r.id)
    (hreserved : ∀ r, (f r).reserved = r.reserved) : Keeps operations (operations.update p f hf) := by
  intro row hrow
  cases hp : p row with
  | true => exact ⟨f row, (Table.mem_update hf).mpr (Or.inr ⟨row, hrow, hp, rfl⟩), hreserved row⟩
  | false => exact ⟨row, (Table.mem_update hf).mpr (Or.inl ⟨hrow, hp⟩), rfl⟩

theorem keeps_record (id : String) (result : InitResult) : Keeps operations (recordResult operations id result) :=
  keeps_update _ _ _ fun _ => rfl

theorem keeps_mark (id : String) : Keeps operations (markForReconciliation operations id) :=
  keeps_update _ _ _ fun _ => rfl

/-- A save keeps the reservations when the row that it replaces has the same one. -/
theorem keeps_save {operation : IyzicoOperation}
    (h : ∀ row ∈ operations.rows, row.id = operation.id → operation.reserved = row.reserved) :
    Keeps operations (operations.save operation) := by
  intro row hrow
  by_cases hid : row.id = operation.id
  · exact ⟨operation, Table.mem_save.mpr (Or.inl rfl), h row hrow hid⟩
  · exact ⟨row, Table.mem_save.mpr (Or.inr ⟨hrow, hid⟩), rfl⟩

theorem keeps_insert {reservation : IyzicoOperation} (h : ¬ duplicates operations reservation) :
    Keeps operations (operations.save reservation) :=
  keeps_save fun row hrow hid => absurd ⟨row, hrow, Or.inl hid⟩ h

/-- A call that owns or sends a payment at `next` did so before. -/
def Inherits (s : Checkouts) (call : ℕ) (next : Option InitPoint) : Prop :=
  ∀ point ∈ next, (∀ p ∈ point.owns, ∃ before, s.calls call = some before ∧ p ∈ before.owns) ∧
    ∀ p ∈ point.sends, ∃ before, s.calls call = some before ∧ p ∈ before.sends

theorem inherits_none (s : Checkouts) (call : ℕ) : Inherits s call none := fun _ h => nomatch h

theorem inherits_of_same {before after : InitPoint} (hcall : s.calls call = some before)
    (howns : ∀ p ∈ after.owns, p ∈ before.owns) (hsends : after.sends = none) : Inherits s call (some after) := by
  intro point hpoint
  obtain rfl := Option.some.inj hpoint
  refine ⟨fun p hp => ⟨before, hcall, howns p hp⟩, fun p hp => ?_⟩
  rw [hsends] at hp
  exact nomatch hp

/-- Where a point is after a move, its payments were before. -/
theorem Inherits.before {next : Option InitPoint} (h : Inherits s call next) {c : ℕ} {point : InitPoint}
    (hc : Function.update s.calls call next c = some point) :
    (∀ p ∈ point.owns, ∃ before, s.calls c = some before ∧ p ∈ before.owns) ∧
      ∀ p ∈ point.sends, ∃ before, s.calls c = some before ∧ p ∈ before.sends := by
  by_cases heq : c = call
  · subst heq
    rw [Function.update_self] at hc
    exact h point hc
  · rw [Function.update_of_ne heq] at hc
    exact ⟨fun p hp => ⟨point, hc, hp⟩, fun p hp => ⟨point, hc, hp⟩⟩

/-- What one step can do. -/
inductive InitMoved (s : Checkouts) : Checkouts → Prop
  | move (operations : Table IyzicoOperation.id) (call : ℕ) (next : Option InitPoint)
      (hkeeps : Keeps s.operations operations) (hnext : Inherits s call next) :
      InitMoved s ((s.setOperations operations).setCall call next)
  | reserve (call : ℕ) (request : CheckoutRequest) (reservation : IyzicoOperation)
      (hnew : ¬ duplicates s.operations reservation) :
      InitMoved s ((s.setOperations (s.operations.save reservation)).setCall call (some (.sending request reservation)))
  | send (call : ℕ) (request : CheckoutRequest) (reservation : IyzicoOperation) (next : InitPoint)
      (hcall : s.calls call = some (.sending request reservation))
      (howns : next.owns = some reservation.paymentId) (hsends : next.sends = none) :
      InitMoved s { s.setCall call (some next) with sent := (reservation.paymentId, request) :: s.sent }
  | return (call : ℕ) (reservation existing : IyzicoOperation)
      (hcompare : compareExisting s.operations reservation = .ok existing) :
      InitMoved s { s.setCall call none with repeated := (reservation, existing) :: s.repeated }

theorem InitMoved.stay (hnext : Inherits s call next) : InitMoved s (s.setCall call next) :=
  .move s.operations call next (Keeps.refl _) hnext

theorem InitMoved.stop (operations : Table IyzicoOperation.id) (call : ℕ) (hkeeps : Keeps s.operations operations) :
    InitMoved s ((s.setOperations operations).setCall call none) :=
  .move operations call none hkeeps (inherits_none s call)

theorem advance_moved (env : InitEnv) {point : InitPoint} (hcall : s.calls call = some point) :
    InitMoved s (advanceInit config s call env point) := by
  cases point with
  | mapping payment =>
    simp only [advanceInit]
    split
    · exact .stay (inherits_of_same hcall (fun _ h => h) rfl)
    · exact .stay (inherits_none s call)
  | inserting request reservation =>
    simp only [advanceInit]
    split
    · exact .stay (inherits_of_same hcall (fun _ h => h) rfl)
    · exact .reserve call request reservation ‹_›
  | comparing reservation =>
    simp only [advanceInit]
    split
    · exact .return call reservation _ ‹_›
    · exact .stay (inherits_none s call)
  | sending request reservation => exact .send call request reservation _ hcall rfl rfl
  | awaiting reservation =>
    simp only [advanceInit]
    split
    · exact .stay (inherits_of_same hcall (fun _ h => h) rfl)
    · exact .stay (inherits_of_same hcall (fun _ h => h) rfl)
  | updating reservation result =>
    exact .move _ call _ (keeps_record _ _) (inherits_of_same hcall (fun _ h => h) rfl)
  | reading reservation =>
    simp only [advanceInit]
    split
    · exact .stay (inherits_none s call)
    · exact .stay (inherits_of_same hcall (fun _ h => h) rfl)
  | marking reservation => exact .stop _ call (keeps_mark _)

theorem fail_moved (applied : Bool) {point : InitPoint} (hcall : s.calls call = some point) :
    InitMoved s (failInit s call applied point) := by
  have hmarks : ∀ reservation : IyzicoOperation, point.owns = some reservation.paymentId →
      Inherits s call (some (.marking reservation)) := fun reservation howns =>
    inherits_of_same hcall (fun p hp => howns ▸ hp) rfl
  cases point with
  | mapping payment => exact .stay (inherits_none s call)
  | inserting request reservation =>
    simp only [failInit]
    split
    · exact .stop _ call (keeps_insert (And.right ‹_›))
    · exact .stay (inherits_none s call)
  | comparing reservation => exact .stay (inherits_none s call)
  | sending request reservation =>
    simp only [failInit]
    split
    · exact .send call request reservation _ hcall rfl rfl
    · exact .stay (hmarks reservation rfl)
  | awaiting reservation => exact .stay (hmarks reservation rfl)
  | updating reservation result =>
    simp only [failInit]
    split
    · exact .move _ call _ (keeps_record _ _) (hmarks reservation rfl)
    · exact .stay (hmarks reservation rfl)
  | reading reservation => exact .stay (hmarks reservation rfl)
  | marking reservation =>
    simp only [failInit]
    split
    · exact .stop _ call (keeps_mark _)
    · exact .stay (inherits_none s call)

theorem keeps_write {operation : IyzicoOperation} (h : mayWrite s.operations operation) :
    Keeps s.operations (s.operations.save operation) := by
  obtain ⟨row, hfind, hreserved, -⟩ := h
  refine keeps_save fun other hother hsame => ?_
  have hfound := Table.find_of_mem hother
  rw [hsame, hfind] at hfound
  obtain rfl := Option.some.inj hfound
  exact hreserved

theorem init_step_moved {act : InitAct} (h : initStep config s act = some s') : InitMoved s s' := by
  cases act with
  | start call payment =>
    simp only [initStep] at h
    split at h
    · obtain rfl := Option.some.inj h
      refine .stay fun point hpoint => ?_
      obtain rfl := Option.some.inj hpoint
      exact ⟨fun p hp => (nomatch hp), fun p hp => (nomatch hp)⟩
    · exact nomatch h
  | advance call env =>
    simp only [initStep] at h
    obtain ⟨point, hcall, rfl⟩ := Option.map_eq_some_iff.mp h
    exact advance_moved env hcall
  | fail call applied =>
    simp only [initStep] at h
    obtain ⟨point, hcall, rfl⟩ := Option.map_eq_some_iff.mp h
    exact fail_moved applied hcall
  | crash call =>
    obtain rfl := Option.some.inj h
    exact .stay (inherits_none s call)
  | write operation =>
    simp only [initStep] at h
    split at h
    · obtain rfl := Option.some.inj h
      have hmove := InitMoved.move (s := s) (s.operations.save operation) 0 (s.calls 0) (keeps_write ‹_›)
        fun point hpoint => ⟨fun p hp => ⟨point, hpoint, hp⟩, fun p hp => ⟨point, hpoint, hp⟩⟩
      unfold Checkouts.setOperations Checkouts.setCall at hmove
      rwa [Function.update_eq_self] at hmove
    · exact nomatch h

/-- A call goes on, and owns and sends nothing that it did not before. -/
theorem InitInv.move (h : InitInv s) (hkeeps : Keeps s.operations operations) (hnext : Inherits s call next) :
    InitInv ((s.setOperations operations).setCall call next) := by
  constructor
  · intro c point hc paymentId hp
    obtain ⟨before, hcall, howns⟩ := (hnext.before hc).1 paymentId hp
    exact (h.stored c before hcall paymentId howns).keep hkeeps
  · intro c c' point point' hc hc' paymentId hp hp'
    obtain ⟨before, hcall, howns⟩ := (hnext.before hc).1 paymentId hp
    obtain ⟨before', hcall', howns'⟩ := (hnext.before hc').1 paymentId hp'
    exact h.sole c c' before before' hcall hcall' paymentId howns howns'
  · intro c point hc paymentId hp
    obtain ⟨before, hcall, hsends⟩ := (hnext.before hc).2 paymentId hp
    exact h.fresh c before hcall paymentId hsends
  · exact fun paymentId hp => (h.known paymentId hp).keep hkeeps
  · exact h.once
  · intro pair hpair
    obtain ⟨hstate, hrepeats, row, hrow, hreserved⟩ := h.repeated pair hpair
    obtain ⟨row', hrow', hsame⟩ := hkeeps row hrow
    exact ⟨hstate, hrepeats, row', hrow', hsame.trans hreserved⟩

theorem InitInv.stop (h : InitInv s) (call : ℕ) (hkeeps : Keeps s.operations operations) :
    InitInv ((s.setOperations operations).setCall call none) :=
  h.move hkeeps (inherits_none s call)

/-- The insert of a reservation. No call can own the payment before it. -/
theorem InitInv.reserve (h : InitInv s) {reservation : IyzicoOperation} (hnew : ¬ duplicates s.operations reservation)
    (request : CheckoutRequest) :
    InitInv ((s.setOperations (s.operations.save reservation)).setCall call (some (.sending request reservation))) := by
  have hkeeps := keeps_insert hnew
  have habsent : ¬ Stored s.operations reservation.paymentId := by
    rintro ⟨row, hrow, hpayment⟩
    exact hnew ⟨row, hrow, Or.inr hpayment⟩
  have hstop := h.stop call hkeeps
  have hnobody : ∀ c point, s.calls c = some point → reservation.paymentId ∉ point.owns :=
    fun c point hc hp => habsent (h.stored c point hc _ hp)
  have hother : ∀ c point, c ≠ call → Function.update s.calls call (some (.sending request reservation)) c = some point →
      s.calls c = some point := by
    intro c point hne hc
    rwa [Function.update_of_ne hne] at hc
  have hself : ∀ point, Function.update s.calls call (some (.sending request reservation)) call = some point →
      point = .sending request reservation := by
    intro point hc
    rw [Function.update_self] at hc
    exact (Option.some.inj hc).symm
  refine ⟨?_, ?_, ?_, hstop.known, h.once, hstop.repeated⟩
  · intro c point hc paymentId hp
    by_cases heq : c = call
    · subst heq
      rw [hself point hc] at hp
      obtain rfl : reservation.paymentId = paymentId := by simpa [InitPoint.owns] using hp
      exact ⟨reservation, Table.mem_save.mpr (Or.inl rfl), rfl⟩
    · exact (h.stored c point (hother c point heq hc) paymentId hp).keep hkeeps
  · intro c c' point point' hc hc' paymentId hp hp'
    by_cases heq : c = call
    · subst heq
      by_cases heq' : c' = c
      · exact heq'.symm
      · rw [hself point hc] at hp
        obtain rfl : reservation.paymentId = paymentId := by simpa [InitPoint.owns] using hp
        exact absurd hp' (hnobody c' point' (hother c' point' heq' hc'))
    · by_cases heq' : c' = call
      · subst heq'
        rw [hself point' hc'] at hp'
        obtain rfl : reservation.paymentId = paymentId := by simpa [InitPoint.owns] using hp'
        exact absurd hp (hnobody c point (hother c point heq hc))
      · exact h.sole c c' point point' (hother c point heq hc) (hother c' point' heq' hc') paymentId hp hp'
  · intro c point hc paymentId hp hsent
    by_cases heq : c = call
    · subst heq
      rw [hself point hc] at hp
      obtain rfl : reservation.paymentId = paymentId := by simpa [InitPoint.sends] using hp
      exact habsent (h.known _ hsent)
    · exact h.fresh c point (hother c point heq hc) paymentId hp hsent

theorem sends_owns {point : InitPoint} {paymentId : String} (h : paymentId ∈ point.sends) : paymentId ∈ point.owns := by
  cases point <;> simp_all [InitPoint.sends, InitPoint.owns]

/-- The request leaves. The call that sends it is the only one that owns the payment. -/
theorem InitInv.send (h : InitInv s) {request : CheckoutRequest} {reservation : IyzicoOperation}
    (hcall : s.calls call = some (.sending request reservation)) {next : InitPoint}
    (howns : next.owns = some reservation.paymentId) (hsends : next.sends = none) :
    InitInv { s.setCall call (some next) with sent := (reservation.paymentId, request) :: s.sent } := by
  have hmove : InitInv ((s.setOperations s.operations).setCall call (some next)) := by
    refine h.move (Keeps.refl _) (inherits_of_same hcall (fun p hp => ?_) hsends)
    rw [howns] at hp
    exact hp
  have hnew := h.fresh call _ hcall reservation.paymentId rfl
  refine ⟨hmove.stored, hmove.sole, ?_, ?_, ?_, hmove.repeated⟩
  · intro c point hc paymentId hp hsent
    rw [List.map_cons, List.mem_cons] at hsent
    rcases hsent with rfl | hsent
    · have hsame : c = call := by
        refine hmove.sole c call point next hc (Function.update_self ..) _ (sends_owns hp) ?_
        simp [howns]
      subst hsame
      obtain rfl : next = point := by simpa [Checkouts.setCall] using hc
      simp [hsends] at hp
    · exact hmove.fresh c point hc paymentId hp hsent
  · intro paymentId hp
    rw [List.map_cons, List.mem_cons] at hp
    rcases hp with rfl | hp
    · exact h.stored call _ hcall _ rfl
    · exact h.known paymentId hp
  · rw [List.map_cons, List.nodup_cons]
    exact ⟨hnew, h.once⟩

theorem compare_existing_spec {reservation existing : IyzicoOperation}
    (h : compareExisting operations reservation = .ok existing) :
    existing ∈ operations.rows ∧ existing.initializationState = .initialized ∧ Repeats reservation existing := by
  unfold compareExisting at h
  simp only [bind_eq_ok, orThrow_eq_ok, require_eq_ok, pure_eq_ok] at h
  obtain ⟨found, hfind, -, hdetails, -, hstate, rfl⟩ := h
  have hpayment := List.find?_some hfind
  exact ⟨List.mem_of_find?_eq_some hfind, hstate, of_decide_eq_true hpayment, hdetails⟩

theorem InitInv.return (h : InitInv s) {reservation existing : IyzicoOperation}
    (hcompare : compareExisting s.operations reservation = .ok existing) :
    InitInv { s.setCall call none with repeated := (reservation, existing) :: s.repeated } := by
  have hstop := h.stop call (Keeps.refl s.operations)
  refine ⟨hstop.stored, hstop.sole, hstop.fresh, hstop.known, hstop.once, fun pair hpair => ?_⟩
  rcases List.mem_cons.mp hpair with rfl | hpair
  · obtain ⟨hmem, hstate, hrepeats⟩ := compare_existing_spec hcompare
    exact ⟨hstate, hrepeats, existing, hmem, rfl⟩
  · exact h.repeated pair hpair

theorem InitInv.step (h : InitInv s) {act : InitAct} (hstep : initStep config s act = some s') : InitInv s' := by
  cases init_step_moved hstep with
  | move operations call next hkeeps hnext => exact h.move hkeeps hnext
  | reserve call request reservation hnew => exact h.reserve hnew request
  | send call request reservation next hcall howns hsends => exact h.send hcall howns hsends
  | «return» call reservation existing hcompare => exact h.return hcompare

/-! ## An attempt of unknown outcome -/

/-- The payment's operation is there, and no running call is about to send for it. -/
structure Attempted (s : Checkouts) (paymentId : String) : Prop where
  stored : Stored s.operations paymentId
  quiet : ∀ call point, s.calls call = some point → paymentId ∉ point.sends

theorem Attempted.step {paymentId : String} (h : Attempted s paymentId) {act : InitAct}
    (hstep : initStep config s act = some s') :
    Attempted s' paymentId ∧ s'.sent.filter (·.1 = paymentId) = s.sent.filter (·.1 = paymentId) := by
  have hquiet : ∀ {call next}, Inherits s call next → ∀ c point, Function.update s.calls call next c = some point →
      paymentId ∉ point.sends := by
    intro call next hnext c point hc hp
    obtain ⟨before, hcall, hsends⟩ := (hnext.before hc).2 paymentId hp
    exact h.quiet c before hcall hsends
  cases init_step_moved hstep with
  | move operations call next hkeeps hnext => exact ⟨⟨h.stored.keep hkeeps, hquiet hnext⟩, rfl⟩
  | reserve call request reservation hnew =>
    refine ⟨⟨h.stored.keep (keeps_insert hnew), fun c point hc hp => ?_⟩, rfl⟩
    by_cases heq : c = call
    · subst heq
      have hpoint : some (InitPoint.sending request reservation) = some point := by
        simpa [Checkouts.setCall] using hc
      obtain rfl := Option.some.inj hpoint
      obtain rfl : reservation.paymentId = paymentId := by simpa [InitPoint.sends] using hp
      obtain ⟨row, hrow, hpayment⟩ := h.stored
      exact hnew ⟨row, hrow, Or.inr hpayment⟩
    · have hbefore : s.calls c = some point := by simpa [Checkouts.setCall, Checkouts.setOperations, heq] using hc
      exact h.quiet c point hbefore hp
  | send call request reservation next hcall howns hsends =>
    have hother : reservation.paymentId ≠ paymentId := by
      rintro rfl
      exact h.quiet call _ hcall rfl
    refine ⟨⟨h.stored, hquiet (inherits_of_same hcall (fun p hp => ?_) hsends)⟩, by simp [hother]⟩
    rw [howns] at hp
    exact hp
  | «return» call reservation existing hcompare => exact ⟨⟨h.stored, hquiet (inherits_none s call)⟩, rfl⟩

theorem Attempted.run {paymentId : String} {acts : List InitAct} (h : Attempted s paymentId)
    (hrun : run (initStep config) s acts = some s') :
    s'.sent.filter (·.1 = paymentId) = s.sent.filter (·.1 = paymentId) := by
  induction acts generalizing s with
  | nil =>
    obtain rfl := Option.some.inj hrun
    rfl
  | cons act acts ih =>
    obtain ⟨next, hstep, hrest⟩ := run_cons_eq_some.mp hrun
    obtain ⟨hnext, hsame⟩ := h.step hstep
    exact (ih hnext hrest).trans hsame

/-- No call is running, and nothing has been sent. Operations of earlier calls may be there. -/
def Checkouts.idle (operations : Table IyzicoOperation.id) : Checkouts := ⟨operations, fun _ => none, [], []⟩

theorem init_inv_idle (operations : Table IyzicoOperation.id) : InitInv (Checkouts.idle operations) where
  stored _ _ hcall := nomatch hcall
  sole _ _ _ _ hcall := nomatch hcall
  fresh _ _ hcall := nomatch hcall
  known _ hsent := nomatch hsent
  once := List.nodup_nil
  repeated _ hpair := nomatch hpair

/-- In every run the checkout of a payment is sent at most once. From the moment when its operation
is stored and no running call is about to send it, nothing more is sent for it. A repeated call
returns an initialised operation of the payment with the details that it asked for. -/
theorem checkout_sent_once (config : Config) (operations : Table IyzicoOperation.id) (before after : List InitAct)
    (s t : Checkouts) (paymentId : String)
    (hbefore : run (initStep config) (.idle operations) before = some s)
    (hafter : run (initStep config) s after = some t) :
    (t.sent.filter (·.1 = paymentId)).length ≤ 1 ∧
      (Attempted s paymentId → t.sent.filter (·.1 = paymentId) = s.sent.filter (·.1 = paymentId)) ∧
      ∀ pair ∈ t.repeated, pair.2.initializationState = .initialized ∧ Repeats pair.1 pair.2 ∧
        ∃ row ∈ t.operations.rows, row.reserved = pair.2.reserved := by
  have hs : InitInv s := run_invariant (fun _ _ _ h hstep => h.step hstep) (init_inv_idle operations) hbefore
  have ht : InitInv t := run_invariant (fun _ _ _ h hstep => h.step hstep) hs hafter
  refine ⟨?_, fun hattempted => hattempted.run hafter, ht.repeated⟩
  have honce := (List.nodup_iff_count_le_one.mp ht.once) paymentId
  rw [List.count, List.countP_map, List.countP_eq_length_filter] at honce
  simpa [Function.comp_def, beq_eq_decide] using honce

/-! ## A run -/

def asciiConfig : Config := ⟨fun s => s ≠ "", fun s => s, fun s => s, fun id => id⟩

def purchaseOfOneItem : PaymentFullWithCaptureInfoDTO where
  id := "p"
  type := .purchase
  openPayment := false
  totalAmount := some 10
  currency := "TRY"
  customerAccountId := some "c"
  customerSnapshotAccount := some ⟨some "ada byron", .individual, some "1", none, some "a@b"⟩
  customerSnapshotAddress := some ⟨some "s", none, none, none, none, some "i", some "t", none⟩
  captureInfo := some ⟨some 10, "iyzico", "TRY", some "ip"⟩
  items := [⟨some "i", some "n", some 10, none, none⟩]

def callAdvancing (call : ℕ) (env : InitEnv) (steps : ℕ) : List InitAct :=
  .start call purchaseOfOneItem :: List.replicate steps (.advance call env)

/-- The answer to the first call is lost, so a second call for the payment fails. -/
theorem checkout_sent_once_sample :
    ∃ s ∈ run (initStep asciiConfig) (.idle .empty) (callAdvancing 0 ⟨"o", none, none⟩ 5),
      ∃ t ∈ run (initStep asciiConfig) s (callAdvancing 1 ⟨"o'", none, some ⟨"t", "u"⟩⟩ 3),
        s.sent.length = 1 ∧ t.calls 1 = none ∧ (t.sent.filter (·.1 = "p")).length ≤ 1 := by
  have hruns : ∃ s ∈ run (initStep asciiConfig) (.idle .empty) (callAdvancing 0 ⟨"o", none, none⟩ 5),
      ∃ t ∈ run (initStep asciiConfig) s (callAdvancing 1 ⟨"o'", none, some ⟨"t", "u"⟩⟩ 3),
        s.sent.length = 1 ∧ t.calls 1 = none := by decide +kernel
  obtain ⟨s, hs, t, ht, hsent, hcall⟩ := hruns
  exact ⟨s, hs, t, ht, hsent, hcall, (checkout_sent_once asciiConfig .empty _ _ s t "p" hs ht).1⟩

end Inv

end Postral.Iyzico.Checkout
