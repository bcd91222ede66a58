import Postral.Iyzico.System

/-!
# The lines of an iyzico refund, one by one

Only the call that claimed a refund writes its lines. The invariant says how far that call is.
-/

open Check Run

namespace Postral.Iyzico

/-! ## Line states -/

def IyzicoRefund.states (refund : IyzicoRefund) : List LineState := refund.lines.map (·.state)

/-- Where a refund stops: a line that was marked and has not succeeded. -/
def stops (state : LineState) : Prop :=
  state = .submitting ∨ state = .rejected ∨ state = .reconciliationRequired

/-- `SUCCEEDED* (SUBMITTING | REJECTED | RECONCILIATION_REQUIRED)? RESERVED*`. -/
def InOrder (states : List LineState) : Prop :=
  ∃ succeeded stopped reserved, states =
      List.replicate succeeded .succeeded ++ stopped ++ List.replicate reserved .reserved ∧
    stopped.length ≤ 1 ∧ ∀ state ∈ stopped, stops state

/-- The states when line `index` of `length` is in `state`. -/
def progress (index length : ℕ) (state : LineState) : List LineState :=
  List.replicate index .succeeded ++ state :: List.replicate (length - index - 1) .reserved

/-- The states before line `index` is marked. -/
def pending (index length : ℕ) : List LineState :=
  List.replicate index .succeeded ++ List.replicate (length - index) .reserved

theorem pending_of_lt {index length : ℕ} (h : index < length) : pending index length = progress index length .reserved := by
  unfold pending progress
  rw [show length - index = length - index - 1 + 1 by omega, List.replicate_succ]
  simp

theorem progress_succeeded (index length : ℕ) :
    progress index length .succeeded = pending (index + 1) length := by
  unfold pending progress
  rw [List.replicate_succ', List.append_assoc, List.singleton_append, Nat.sub_sub]

theorem states_setLine {refund : IyzicoRefund} {index length : ℕ} {state state' : LineState}
    {change : IyzicoRefundLine → IyzicoRefundLine} (h : refund.states = progress index length state)
    (hchange : ∀ line, (change line).state = state') :
    (setLine refund index change).states = progress index length state' := by
  have hset : (setLine refund index change).states = refund.states.set index state' := by
    unfold IyzicoRefund.states setLine
    apply List.ext_getElem?
    intro i
    rw [List.getElem?_map, List.getElem?_modify, List.getElem?_set, List.getElem?_map]
    by_cases hi : index = i
    · subst hi
      by_cases hlt : index < refund.lines.length <;> simp [hchange, hlt]
    · cases refund.lines[i]? <;> simp [hi]
  rw [hset, h]
  simp [progress]

/-! ## What stays of a refund -/

/-- A line without what its submission changes. -/
def IyzicoRefundLine.detail (line : IyzicoRefundLine) : RefundChannelLine × String × String :=
  (line.toRefundChannelLine, line.paymentTransactionId, line.conversationId)

structure SameCore (r r' : IyzicoRefund) : Prop where
  id : r'.id = r.id
  originalOperationId : r'.originalOperationId = r.originalOperationId
  currency : r'.currency = r.currency
  lines : r'.lines.map IyzicoRefundLine.detail = r.lines.map IyzicoRefundLine.detail

theorem sameCore_refl (r : IyzicoRefund) : SameCore r r := ⟨rfl, rfl, rfl, rfl⟩

theorem SameCore.symm {r r' : IyzicoRefund} (h : SameCore r r') : SameCore r' r :=
  ⟨h.id.symm, h.originalOperationId.symm, h.currency.symm, h.lines.symm⟩

theorem SameCore.trans {r r' r'' : IyzicoRefund} (h : SameCore r r') (h' : SameCore r' r'') : SameCore r r'' :=
  ⟨h'.id.trans h.id, h'.originalOperationId.trans h.originalOperationId, h'.currency.trans h.currency,
    h'.lines.trans h.lines⟩

theorem SameCore.length {r r' : IyzicoRefund} (h : SameCore r r') : r'.lines.length = r.lines.length := by
  simpa using congrArg List.length h.lines

theorem SameCore.request {r r' : IyzicoRefund} (h : SameCore r r') (index : ℕ) :
    r'.lines[index]?.map (requestOf r'.currency) = r.lines[index]?.map (requestOf r.currency) := by
  have hdetail : ∀ (currency : String) (line : IyzicoRefundLine), requestOf currency line =
      ⟨line.detail.2.2, line.detail.2.1, line.detail.1.providerAmount, currency⟩ := fun _ _ => rfl
  have hline := congrArg (fun details => details[index]?) h.lines
  simp only [List.getElem?_map] at hline
  rw [h.currency]
  cases hr : r.lines[index]? <;> cases hr' : r'.lines[index]? <;> simp [hr, hr'] at hline ⊢
  rw [hdetail, hdetail, hline]

theorem sameCore_setLine {refund : IyzicoRefund} {index : ℕ} {change : IyzicoRefundLine → IyzicoRefundLine}
    (hchange : ∀ line, (change line).detail = line.detail) : SameCore refund (setLine refund index change) := by
  refine ⟨rfl, rfl, rfl, ?_⟩
  unfold setLine
  apply List.ext_getElem?
  intro i
  rw [List.getElem?_map, List.getElem?_modify, List.getElem?_map]
  cases refund.lines[i]? with
  | none => simp
  | some line =>
    by_cases hi : index = i <;> simp [hi, hchange]

/-! ## The invariant -/

/-- The lines of a refund that left for the provider, oldest first. -/
def submittedOf (s : State) (id : String) : List ℕ :=
  (s.submitted.filter fun m => m.refundId = id).map (·.index)

/-- The provider answered success for a line. -/
def Succeeded (s : State) (id : String) (index : ℕ) : Prop :=
  ∃ refundHostReference, (id, index, .success refundHostReference) ∈ s.answered

/-- The provider rejected a line. -/
def Rejected (s : State) (id : String) (index : ℕ) : Prop :=
  ∃ providerCode, (id, index, .rejected providerCode) ∈ s.answered

/-- The states of a refund, against what the provider was asked and answered. -/
def Ordered (s : State) (id : String) (states : List LineState) : Prop :=
  ∃ succeeded stopped reserved count, states =
      List.replicate succeeded .succeeded ++ stopped ++ List.replicate reserved .reserved ∧
    stopped.length ≤ 1 ∧ (∀ state ∈ stopped, stops state) ∧
    submittedOf s id = List.range count ∧ succeeded ≤ count ∧ count ≤ succeeded + stopped.length ∧
    (∀ j < succeeded, Succeeded s id j) ∧ (stopped = [.rejected] → count = succeeded + 1 ∧ Rejected s id succeeded)

/-- A call works on its refund: `succeeded` lines are done and `count` have left. -/
structure Running (s : State) (refund : IyzicoRefund) (succeeded count : ℕ) : Prop where
  stored : ∃ r, s.db.refunds.find refund.id = some r ∧ SameCore r refund ∧ r.state ≠ .reserved
  sent : submittedOf s refund.id = List.range count
  answered : ∀ j < succeeded, Succeeded s refund.id j

/-- What a call knows at a point. -/
def Along (s : State) : Point → Prop
  | .reserving _ => True
  | .claiming refund _ => ∃ r, s.db.refunds.find refund.id = some r ∧ SameCore r refund ∧
      (r.state = .reserved → r.lines = refund.lines)
  | .marking refund _ index => index ≤ refund.lines.length ∧ refund.states = pending index refund.lines.length ∧
      Running s refund index index
  | .submitting refund _ index => index < refund.lines.length ∧
      refund.states = progress index refund.lines.length .submitting ∧ Running s refund index index ∧
      ∃ r, s.db.refunds.find refund.id = some r ∧ r.lines = refund.lines
  | .awaiting refund _ index => index < refund.lines.length ∧
      refund.states = progress index refund.lines.length .submitting ∧ Running s refund index (index + 1)
  | .recording refund _ index => index < refund.lines.length ∧
      refund.states = progress index refund.lines.length .succeeded ∧ Running s refund (index + 1) (index + 1)
  | .stopping refund index => index < refund.lines.length ∧ ∃ state count, stops state ∧
      refund.states = progress index refund.lines.length state ∧ Running s refund index count ∧
      index ≤ count ∧ count ≤ index + 1 ∧ (state = .rejected → count = index + 1 ∧ Rejected s refund.id index)
  | .checking _ => True

/-- The refund that a call has claimed. -/
def Point.claimed? : Point → Option IyzicoRefund
  | .marking refund _ _ => some refund
  | .submitting refund _ _ => some refund
  | .awaiting refund _ _ => some refund
  | .recording refund _ _ => some refund
  | .stopping refund _ => some refund
  | _ => none

/-- The refund a call has claimed. -/
def owner (call : Option Point) : Option String := (call.bind Point.claimed?).map (·.id)

structure Inv (s : State) : Prop where
  ordered : ∀ id r, s.db.refunds.find id = some r → Ordered s id r.states
  /-- Nobody has claimed a RESERVED refund. -/
  unclaimed : ∀ id r, s.db.refunds.find id = some r → r.state = .reserved →
    r.states = pending 0 r.lines.length ∧ submittedOf s id = []
  /-- What left is a line of a stored refund. -/
  requests : ∀ m ∈ s.submitted, ∃ r, s.db.refunds.find m.refundId = some r ∧
    r.lines[m.index]?.map (requestOf r.currency) = some m.request
  along : ∀ c p, s.calls c = some p → Along s p
  alone : ∀ c c' id, owner (s.calls c) = some id → owner (s.calls c') = some id → c = c'

theorem inv_init {s : State} (hcalls : ∀ c, s.calls c = none) (hrefunds : s.db.refunds = Table.empty)
    (hsubmitted : s.submitted = []) : Inv s := by
  constructor <;> simp [hcalls, hrefunds, hsubmitted, owner]

theorem Along.running {s : State} {p : Point} {refund : IyzicoRefund} (h : Along s p) (hp : p.claimed? = some refund) :
    ∃ succeeded count, Running s refund succeeded count := by
  cases p <;> simp only [Point.claimed?, Option.some.injEq, reduceCtorEq] at hp <;> subst hp
  · exact ⟨_, _, h.2.2⟩
  · exact ⟨_, _, h.2.2.1⟩
  · exact ⟨_, _, h.2.2⟩
  · exact ⟨_, _, h.2.2⟩
  · obtain ⟨-, _, count, -, -, hrun, -⟩ := h
    exact ⟨_, count, hrun⟩

theorem owner_eq_some {call : Option Point} {id : String} :
    owner call = some id ↔ ∃ p refund, call = some p ∧ p.claimed? = some refund ∧ refund.id = id := by
  unfold owner
  cases call with
  | none => simp
  | some p => cases h : p.claimed? <;> simp [h]

end Postral.Iyzico
