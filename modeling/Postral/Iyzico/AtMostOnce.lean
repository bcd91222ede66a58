import Postral.Iyzico.Steps

/-! # The lines of an iyzico refund leave at most once and in order -/

open Check Run

namespace Postral.Iyzico

variable {config : Config} {s s' : State}

theorem perform_answered (s : State) (answer : Answer) (point : Point) :
    ∀ x ∈ s.answered, x ∈ (perform s answer point).answered := by
  intro x hx
  cases point with
  | reserving valid => unfold perform; dsimp only; split <;> exact hx
  | claiming refund => unfold perform; dsimp only; split <;> exact hx
  | marking refund => unfold perform; dsimp only; split <;> exact hx
  | submitting refund => exact hx
  | awaiting refund => cases answer <;> exact List.mem_append_left _ hx
  | recording refund => exact hx
  | stopping refund => exact hx
  | checking id => exact hx

/-- A step that moves no call and leaves the refunds. -/
theorem inv_of_captures (hinv : Inv s) (hrefunds : s'.db.refunds = s.db.refunds) (hcalls : s'.calls = s.calls)
    (hsub : s'.submitted = s.submitted) (hans : s'.answered = s.answered) : Inv s' := by
  have hkeep : ∀ x ∈ s.answered, x ∈ s'.answered := fun x hx => by rwa [hans]
  constructor
  · intro id r hr
    exact (hinv.ordered id r (by rwa [← hrefunds])).mono hkeep (submittedOf_congr hsub id)
  · intro id r hr
    rw [submittedOf_congr hsub]
    exact hinv.unclaimed id r (by rwa [← hrefunds])
  · rw [hsub, hrefunds]
    exact hinv.requests
  · intro c p hp
    exact (hinv.along c p (by rwa [← hcalls])).mono hkeep fun _ _ => ⟨by rw [hrefunds], submittedOf_congr hsub _⟩
  · rw [hcalls]
    exact hinv.alone

theorem step_inv {act : Act} (hinv : Inv s) (h : step config s act = some s') : Inv s' := by
  unfold step at h
  split at h
  · split at h
    · split at h <;> obtain rfl := Option.some.inj h
      · refine change_inv hinv rfl (fun _ hx => hx) (.quiet (fun _ => rfl) rfl ?_)
        rintro p hp
        obtain rfl := Option.some.inj hp
        exact ⟨rfl, trivial⟩
      · exact hinv
    · simp at h
  · rename_i call answer
    split at h <;> rename_i hcall
    · obtain rfl := Option.some.inj h
      exact change_inv hinv rfl (perform_answered s answer _) (perform_change hinv hcall ⟨rfl, rfl, rfl⟩ (Or.inl rfl))
    · simp at h
  · rename_i call answer applied
    split at h <;> rename_i hcall
    · obtain rfl := Option.some.inj h
      cases applied with
      | true =>
        exact change_inv hinv rfl (perform_answered s answer _) (perform_change hinv hcall ⟨rfl, rfl, rfl⟩ (Or.inr rfl))
      | false =>
        exact change_inv hinv rfl (fun _ hx => hx) (caught_change hinv ⟨rfl, rfl, rfl⟩ fun p hp => ⟨_, hcall, hp⟩)
    · simp at h
  · obtain rfl := Option.some.inj h
    rename_i call
    have hchange : Change s (s.apply call (s.goes none)) call none := caught_change hinv ⟨rfl, rfl, rfl⟩ (by simp)
    exact change_inv hinv rfl (fun _ hx => hx) hchange
  · split at h
    · simp at h
    · obtain rfl := Option.some.inj h
      exact inv_of_captures hinv rfl rfl rfl rfl

theorem run_inv {acts : List Act} (hinv : Inv s) (hrun : run (step config) s acts = some s') : Inv s' :=
  run_invariant (fun _ _ _ => step_inv) hinv hrun

/-! ## What `check` reports -/

theorem length_filter_succeeded (refund : IyzicoRefund) :
    (refund.lines.filter (·.state = .succeeded)).length = refund.lines.length ↔ ∀ line ∈ refund.lines, line.state = .succeeded := by
  rw [List.length_filter_eq_length_iff]
  simp

theorem status_completed {refund : IyzicoRefund} (h : (statusOf refund).paymentStatus = some .completed) :
    ∀ line ∈ refund.lines, line.state = .succeeded := by
  unfold statusOf at h
  dsimp only at h
  split at h <;> rename_i hall
  · exact (length_filter_succeeded refund).mp hall
  · split at h <;> simp at h

theorem status_failed {refund : IyzicoRefund} (h : (statusOf refund).paymentStatus = some .failed) :
    (∀ line ∈ refund.lines, line.state ≠ .succeeded) ∧ ∃ line ∈ refund.lines, line.state = .rejected := by
  unfold statusOf at h
  dsimp only at h
  split at h
  · simp at h
  · split at h <;> rename_i hfailed
    · simp only [Bool.decide_and, Bool.and_eq_true, decide_eq_true_eq] at hfailed
      obtain ⟨hnone, hrejected⟩ := hfailed
      refine ⟨?_, hrejected⟩
      simpa using List.filter_eq_nil_iff.mp (List.length_eq_zero_iff.mp hnone)
    · simp at h

/-- The state of a line is its entry in the list of states. -/
theorem getElem?_states {refund : IyzicoRefund} {index : ℕ} :
    refund.states[index]? = refund.lines[index]?.map (·.state) := by
  simp [IyzicoRefund.states]

theorem Ordered.succeeded {id : String} {states : List LineState} (h : Ordered s id states) {index : ℕ}
    (hindex : states[index]? = some .succeeded) : Succeeded s id index := by
  obtain ⟨a, m, b, k, rfl, -, hstops, -, -, -, hsucc, -⟩ := h
  apply hsucc
  by_contra hge
  have hmem : LineState.succeeded ∈ m ++ List.replicate b .reserved := by
    rw [List.append_assoc, List.getElem?_append_right (by simpa using hge)] at hindex
    exact List.mem_of_getElem? hindex
  rcases List.mem_append.mp hmem with hmem | hmem
  · simpa [stops] using hstops _ hmem
  · simpa using List.eq_of_mem_replicate hmem

/-- A rejected line without a line that succeeded is the first one, and nothing else has left. -/
theorem Ordered.rejected {id : String} {states : List LineState} (h : Ordered s id states)
    (hnone : LineState.succeeded ∉ states) (hrejected : LineState.rejected ∈ states) :
    submittedOf s id = [0] ∧ Rejected s id 0 ∧ ∀ state ∈ states, state = .rejected ∨ state = .reserved := by
  obtain ⟨a, m, b, k, rfl, hlen, hstops, hsent, -, -, -, hrej⟩ := h
  have ha : a = 0 := by
    by_contra ha
    exact hnone (by simp [ha])
  subst ha
  simp only [List.replicate_zero, List.nil_append, List.mem_append, List.mem_replicate] at hrejected
  have hm : m = [.rejected] := by
    match m, hlen, hrejected with
    | [x], _, hx => simpa [eq_comm] using hx
    | [], _, hx => simp at hx
  obtain ⟨rfl, hanswer⟩ := hrej hm
  refine ⟨hsent, hanswer, ?_⟩
  intro state hstate
  simp only [hm, List.replicate_zero, List.nil_append, List.mem_append, List.mem_singleton, List.mem_replicate] at hstate
  exact hstate.imp_right And.right

theorem Ordered.inOrder {id : String} {states : List LineState} (h : Ordered s id states) : InOrder states := by
  obtain ⟨a, m, b, -, hstates, hlen, hstops, -⟩ := h
  exact ⟨a, m, b, hstates, hlen, hstops⟩

/-! ## The result -/

/-- The provider gave a verified answer that is no success and no rejection, or none: it may have
refunded the line or not. -/
def ambiguous (state : LineState) : Prop := state = .submitting ∨ state = .reconciliationRequired

/-- **At most once and in order.** In every run the lines of a refund leave in the order of the plan,
each once, and after the first line that did not succeed none leaves. The stored states say so, and
`check` reports COMPLETED and FAILED accordingly. -/
theorem refund_lines_once_in_order {acts : List Act} (hcalls : ∀ c, s.calls c = none) (hrefunds : s.db.refunds = Table.empty)
    (hsubmitted : s.submitted = []) (hrun : run (step config) s acts = some s') {id : String} {refund : IyzicoRefund}
    (hrefund : s'.db.refunds.find id = some refund) :
    (∃ count ≤ refund.lines.length, submittedOf s' id = List.range count ∧
      (∀ index, index + 1 < count → Succeeded s' id index ∧ refund.states[index]? = some .succeeded) ∧
      ∀ m ∈ s'.submitted, m.refundId = id → refund.lines[m.index]?.map (requestOf refund.currency) = some m.request) ∧
    InOrder refund.states ∧
    ∀ status, check s'.db id = .ok status →
      (status.paymentStatus = some .completed →
        ∀ index < refund.lines.length, refund.states[index]? = some .succeeded ∧ Succeeded s' id index) ∧
      (status.paymentStatus = some .failed →
        submittedOf s' id = [0] ∧ Rejected s' id 0 ∧ ∀ state ∈ refund.states, state ≠ .succeeded ∧ ¬ ambiguous state) := by
  have hinv := run_inv (inv_init hcalls hrefunds hsubmitted) hrun
  have hordered := hinv.ordered id refund hrefund
  refine ⟨?_, hordered.inOrder, ?_⟩
  · obtain ⟨a, m, b, k, hstates, hlen, -, hsent, hak, hkm, hsucc, -⟩ := hordered
    have htotal : refund.lines.length = a + (m.length + b) := by
      simpa [IyzicoRefund.states] using congrArg List.length hstates
    refine ⟨k, by omega, hsent, ?_, ?_⟩
    · intro index hindex
      have hlt : index < a := by omega
      refine ⟨hsucc index hlt, ?_⟩
      rw [hstates, List.append_assoc, List.getElem?_append_left (by simpa using hlt)]
      simp [hlt]
    · intro m hm hid
      obtain ⟨r, hr, hrequest⟩ := hinv.requests m hm
      rw [hid, hrefund, Option.some.injEq] at hr
      rw [hr, hrequest]
  · intro status hstatus
    simp only [check, bind_eq_ok, orThrow_eq_ok, pure_eq_ok, hrefund, Option.some.injEq] at hstatus
    obtain ⟨_, rfl, rfl⟩ := hstatus
    constructor
    · intro hcompleted index hindex
      have hline : refund.states[index]? = some .succeeded := by
        rw [getElem?_states, List.getElem?_eq_getElem hindex, Option.map_some]
        rw [status_completed hcompleted _ (List.getElem_mem hindex)]
      exact ⟨hline, hordered.succeeded hline⟩
    · intro hfailed
      obtain ⟨hnone, line, hline, hstate⟩ := status_failed hfailed
      have hnone' : LineState.succeeded ∉ refund.states := by
        simpa [IyzicoRefund.states] using hnone
      obtain ⟨hsent, hanswer, hall⟩ := hordered.rejected hnone' (List.mem_map.mpr ⟨line, hline, hstate⟩)
      refine ⟨hsent, hanswer, fun state hmem => ?_⟩
      rcases hall state hmem with rfl | rfl <;> simp [ambiguous]

section Sample

def sampleConfig : Config := ⟨.round, fun a b => a ≤ b⟩

theorem sampleAmount_nonneg : (0 : ℚ) ≤ 10 := by decide

/-- A captured purchase of two items at 10.00. -/
def sampleState : State where
  db := {
    operations := Table.empty.save
      { id := "source", paymentId := "purchase", currency := "TRY", amount := 20, status := .completed,
        providerPaymentId := some "provider",
        itemTransactions := ⟨[⟨"a", "txn-a", 10, 10, sampleAmount_nonneg, sampleAmount_nonneg⟩,
          ⟨"b", "txn-b", 10, 10, sampleAmount_nonneg, sampleAmount_nonneg⟩], by decide, by decide⟩ }
    refunds := Table.empty }
  calls := fun _ => none
  submitted := []
  answered := []

def samplePayment : RefundPayment :=
  { id := "refund-payment", type := .refund, currency := "TRY", totalAmount := some 6.6666,
    refundOperationId := some "refund", originalPaymentChannelOperationId := some "source",
    refundPlan := some ⟨"source", some (some "ROUND"), none,
      some [some ⟨some "a", some "3.3333", some "3.33"⟩, some ⟨some "b", some "3.3333", some "3.33"⟩]⟩,
    captureInfo := some ⟨"iyzico", "TRY", some 6.6666⟩ }

/-- Two calls for the same refund. The first line succeeds, the second one times out. -/
def sampleActs : List Act :=
  [.initializeRefund 0 samplePayment, .initializeRefund 1 samplePayment, .advance 0 .ambiguous, .advance 1 .ambiguous,
    .advance 0 .ambiguous, .advance 1 .ambiguous, .advance 0 .ambiguous, .advance 0 .ambiguous,
    .advance 0 (.success none), .advance 0 .ambiguous, .advance 0 .ambiguous, .advance 0 .ambiguous,
    .fail 0 .ambiguous false, .advance 0 .ambiguous]

theorem refund_lines_once_in_order_sample :
    ∃ t refund, run (step sampleConfig) sampleState sampleActs = some t ∧ t.db.refunds.find "refund" = some refund ∧
      submittedOf t "refund" = [0, 1] ∧ refund.states = [.succeeded, .reconciliationRequired] ∧ InOrder refund.states := by
  obtain ⟨t, ht, refund, hrefund, hsent, hstates⟩ : ∃ t ∈ run (step sampleConfig) sampleState sampleActs,
      ∃ refund ∈ t.db.refunds.find "refund",
        submittedOf t "refund" = [0, 1] ∧ refund.states = [.succeeded, .reconciliationRequired] := by
    decide +kernel
  have hall := refund_lines_once_in_order (fun _ => rfl) rfl rfl ht hrefund
  exact ⟨t, refund, ht, hrefund, hsent, hstates, hall.2.1⟩

end Sample

end Postral.Iyzico
