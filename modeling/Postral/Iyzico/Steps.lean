import Postral.Iyzico.Submission

/-!
# Every step of an iyzico refund is a change

One lemma for each point of a call: the step that ends there, whether it throws or not.
-/

open Check Run

namespace Postral.Iyzico

/-! ## The functions -/

theorem reserve_line_spec {refundOperationId : String} {transactions : ItemTransactions} {previous : List IyzicoRefund}
    {line : RefundChannelLine} {index : ℕ} {reserved : IyzicoRefundLine}
    (h : reserveLine refundOperationId transactions previous line index = .ok reserved) :
    ∃ transaction, transactions.find line.originalPaymentItemId = some transaction ∧
      ((linesOn previous line.originalPaymentItemId).map (·.providerAmount.value)).sum + line.providerAmount.value ≤
        transaction.paidPrice ∧
      ((linesOn previous line.originalPaymentItemId).map (·.nominalAmount.value)).sum + line.nominalAmount.value ≤
        transaction.price ∧
      reserved.toRefundChannelLine = line ∧ reserved.paymentTransactionId = transaction.paymentTransactionId ∧
      reserved.state = .reserved := by
  simp only [reserveLine, bind_eq_ok, orThrow_eq_ok, require_eq_ok, pure_eq_ok, addNumberValues_eq_sum] at h
  obtain ⟨transaction, htransaction, _, ⟨hprovider, hnominal⟩, rfl⟩ := h
  exact ⟨transaction, htransaction, hprovider, hnominal, rfl, rfl, rfl⟩

theorem reserve_lines_spec {refundOperationId : String} {transactions : ItemTransactions} {previous : List IyzicoRefund}
    {lines : List RefundChannelLine} {reserved : List IyzicoRefundLine}
    (h : reserveLines refundOperationId transactions previous lines = .ok reserved) :
    List.Forall₂ (fun line reserved => ∃ index, reserveLine refundOperationId transactions previous line index = .ok reserved)
      lines reserved := by
  have hzip := mapM_eq_ok.mp h
  have hmap := (List.forall₂_map_left_iff (f := Prod.fst)
    (R := fun line reserved => ∃ index, reserveLine refundOperationId transactions previous line index = .ok reserved)
    (l := lines.zipIdx) (u := reserved)).mpr (hzip.imp fun x _ hx => ⟨x.2, hx⟩)
  rwa [List.zipIdx_map_fst] at hmap

/-- A refund that the transaction inserts. -/
structure NewRefund (db : Db) (source : IyzicoOperation) (lines : List RefundChannelLine) (refund : IyzicoRefund) : Prop where
  fresh : db.refunds.find refund.id = none
  originalOperationId : refund.originalOperationId = source.id
  state : refund.state = .reserved
  lines : List.Forall₂ (fun line reserved => ∃ index, reserveLine refund.id source.itemTransactions
      (db.refunds.rows.filter fun other => other.originalOperationId = source.id) line index = .ok reserved)
    lines refund.lines

theorem reserve_spec {db db' : Db} {valid : ValidRefund} {refund : IyzicoRefund} {providerPaymentId : String}
    (h : reserve db valid = .ok (db', refund, providerPaymentId)) :
    (db' = db ∧ db.refunds.find refund.id = some refund) ∨
    ∃ source, db.operations.find source.id = some source ∧ source.status = .completed ∧
      NewRefund db source valid.lines refund ∧ db' = { db with refunds := db.refunds.save refund } := by
  simp only [reserve, bind_eq_ok, findSource, orThrow_eq_ok, require_eq_ok, pure_eq_ok, Prod.exists, Prod.mk.injEq] at h
  obtain ⟨source, _, ⟨_, hsource, _, ⟨hstatus, -⟩, rfl, rfl⟩, h⟩ := h
  split at h <;> rename_i hfind
  · simp only [bind_eq_ok, require_eq_ok, pure_eq_ok, Prod.mk.injEq] at h
    obtain ⟨_, -, rfl, rfl, rfl⟩ := h
    left
    rw [Table.key_of_find hfind]
    exact ⟨rfl, hfind⟩
  · simp only [bind_eq_ok, require_eq_ok, pure_eq_ok, Prod.mk.injEq] at h
    obtain ⟨lines, hlines, _, -, rfl, rfl, rfl⟩ := h
    right
    refine ⟨_, ?_, hstatus, ⟨hfind, rfl, rfl, reserve_lines_spec hlines⟩, rfl⟩
    rw [Table.key_of_find hsource, hsource]

theorem NewRefund.states {db : Db} {source : IyzicoOperation} {lines : List RefundChannelLine} {refund : IyzicoRefund}
    (h : NewRefund db source lines refund) : refund.states = pending 0 refund.lines.length := by
  have hall : ∀ line ∈ refund.lines, line.state = .reserved := by
    intro line hline
    obtain ⟨_, -, _, hreserve⟩ := forall₂_mem_right h.lines hline
    obtain ⟨_, -, -, -, -, -, hstate⟩ := reserve_line_spec hreserve
    exact hstate
  unfold IyzicoRefund.states pending
  rw [List.replicate_zero, List.nil_append, Nat.sub_zero, List.eq_replicate_iff]
  simpa using hall

theorem update_refund_spec {db : Db} {r : IyzicoRefund} {id : String} (change : IyzicoRefund → IyzicoRefund)
    (hfind : db.refunds.find id = some r) (hid : (change r).id = r.id) :
    (updateRefund db id change).refunds = db.refunds.save (change r) ∧
    (updateRefund db id change).refunds.find id = some (change r) ∧
    (∀ other, other ≠ id → (updateRefund db id change).refunds.find other = db.refunds.find other) := by
  have hkey : (change r).id = id := hid.trans (Table.key_of_find hfind)
  simp only [updateRefund, hfind, true_and]
  refine ⟨?_, fun other hne => ?_⟩
  · rw [Table.find_save, if_pos hkey.symm]
  · exact Table.find_save_of_ne (hkey ▸ hne)

theorem save_lines_spec {db : Db} {r saved : IyzicoRefund} (state : Option RefundState)
    (hfind : db.refunds.find saved.id = some r) :
    (saveLines db saved state).refunds.find saved.id =
      some { r with lines := saved.lines, state := state.getD r.state } ∧
    ∀ other, other ≠ saved.id → (saveLines db saved state).refunds.find other = db.refunds.find other :=
  (update_refund_spec _ hfind rfl).2

/-! ## Changes of a call that has claimed its refund -/

variable {s s' : State} {call index : ℕ} {answer : Answer} {refund : IyzicoRefund} {providerPaymentId : String}
  {next : Option Point}

/-- The tables and the history of `s'` are those of `e`. -/
def Leaves (s' : State) (e : Effect) : Prop := s'.db = e.db ∧ s'.submitted = e.submitted ∧ s'.answered = e.answered

theorem Running.setLine {a k : ℕ} (h : Running s refund a k) {change : IyzicoRefundLine → IyzicoRefundLine}
    (hchange : ∀ line, (change line).detail = line.detail) : Running s (setLine refund index change) a k := by
  obtain ⟨r, hr, hcore, hstate⟩ := h.stored
  exact ⟨⟨r, hr, hcore.trans (sameCore_setLine hchange), hstate⟩, h.sent, h.answered⟩

theorem Running.weaken {a b k : ℕ} (h : Running s refund b k) (hab : a ≤ b) : Running s refund a k :=
  ⟨h.stored, h.sent, fun j hj => h.answered j (hj.trans_le hab)⟩

@[simp]
theorem length_setLine (refund : IyzicoRefund) (index : ℕ) (change : IyzicoRefundLine → IyzicoRefundLine) :
    (setLine refund index change).lines.length = refund.lines.length := by
  simp [setLine]

/-- The `catch` block of an exception that is not a rejection. -/
theorem stopping_along {count : ℕ} {state : LineState} (hlt : index < refund.lines.length)
    (hstates : refund.states = progress index refund.lines.length state) (hrun : Running s refund index count)
    (hle : index ≤ count) (hge : count ≤ index + 1) :
    Along s (.stopping (setLine refund index fun line => { line with state := .reconciliationRequired }) index) := by
  refine ⟨by simpa using hlt, .reconciliationRequired, count, Or.inr (Or.inr rfl), ?_, hrun.setLine fun _ => rfl, hle, hge, by simp⟩
  rw [length_setLine]
  exact states_setLine hstates fun _ => rfl

/-- Nothing is written. -/
theorem change_of_same (hinv : Inv s) {point : Point} (hcall : s.calls call = some point)
    (hclaimed : point.claimed? = some refund) (hdb : s'.db = s.db) (hsub : s'.submitted = s.submitted)
    (hans : ∀ x ∈ s.answered, x ∈ s'.answered)
    (hnext : ∀ p, next = some p → Along s' p ∧ ∀ refund', p.claimed? = some refund' → refund'.id = refund.id) :
    Change s s' call next := by
  have halong := hinv.along call point hcall
  obtain ⟨_, _, hrun⟩ := halong.running hclaimed
  obtain ⟨r, hr, -, hstate⟩ := hrun.stored
  refine .owned point refund r r [] hcall hclaimed hr (sameCore_refl r) hstate (by rw [hdb, hr]) (fun _ _ => by rw [hdb])
    (by rw [hsub, List.append_nil]) (by simp) ?_ hnext
  exact (hinv.ordered refund.id r hr).mono hans (submittedOf_congr hsub _)

/-- The call after the lines of its copy are saved. -/
theorem Running.saved {a k : ℕ} (hrun : Running s refund a k) {saved : IyzicoRefund} {state : Option RefundState}
    (hcore : SameCore refund saved) (hstate : state ≠ some .reserved) (hdb : s'.db = saveLines s.db saved state)
    (hsub : s'.submitted = s.submitted) (hans : s'.answered = s.answered) :
    Running s' saved a k ∧ ∃ r, s'.db.refunds.find saved.id = some r ∧ r.lines = saved.lines := by
  obtain ⟨r, hr, hcore₀, hne⟩ := hrun.stored
  rw [← hcore.id] at hr
  obtain ⟨hfind, -⟩ := save_lines_spec state hr
  rw [← hdb] at hfind
  have hstored : state.getD r.state ≠ .reserved := by
    cases state with
    | none => exact hne
    | some x => simpa using hstate
  refine ⟨⟨⟨_, hfind, ?_, hstored⟩, ?_, ?_⟩, _, hfind, rfl⟩
  · exact ⟨hcore.id.trans hcore₀.id, hcore.originalOperationId.trans hcore₀.originalOperationId,
      hcore.currency.trans hcore₀.currency, rfl⟩
  · rw [submittedOf_congr hsub, hcore.id, hrun.sent]
  · intro j hj
    rw [hcore.id]
    exact (hrun.answered j hj).mono (by simp [hans])

/-- The lines of the call are saved. -/
theorem change_of_save (hinv : Inv s) {point : Point} {saved : IyzicoRefund} {state : Option RefundState}
    (hcall : s.calls call = some point) (hclaimed : point.claimed? = some refund) (hcore : SameCore refund saved)
    (hstate : state ≠ some .reserved) (hdb : s'.db = saveLines s.db saved state) (hsub : s'.submitted = s.submitted)
    (hordered : Ordered s' saved.id saved.states)
    (hnext : ∀ p, next = some p → Along s' p ∧ ∀ refund', p.claimed? = some refund' → refund'.id = saved.id) :
    Change s s' call next := by
  obtain ⟨_, _, hrun⟩ := (hinv.along call point hcall).running hclaimed
  obtain ⟨r, hr, hcore₀, hne⟩ := hrun.stored
  have hr' := hr
  rw [← hcore.id] at hr'
  obtain ⟨hfind, hothers⟩ := save_lines_spec state hr'
  rw [← hdb] at hfind hothers
  rw [hcore.id] at hfind hothers hordered hnext
  have hstored : state.getD r.state ≠ .reserved := by
    cases state with
    | none => exact hne
    | some x => simpa using hstate
  refine .owned point refund r { r with lines := saved.lines, state := state.getD r.state } [] hcall hclaimed hr ?_ hstored
    hfind hothers (by rw [hsub, List.append_nil]) (by simp) hordered hnext
  exact ⟨rfl, rfl, rfl, (hcore₀.trans hcore).lines⟩

/-! ## The points of a call -/

theorem reserving_change {valid : ValidRefund} (hs' : Leaves s' (perform s answer (.reserving valid)))
    (hnext : next = (perform s answer (.reserving valid)).next ∨ next = none) : Change s s' call next := by
  obtain ⟨hdb, hsub, -⟩ := hs'
  unfold perform at hdb hsub hnext
  dsimp only at hdb hsub hnext
  split at hnext <;> rename_i hreserve
  · rw [hreserve] at hdb hsub
    rcases reserve_spec hreserve with ⟨rfl, hfind⟩ | ⟨source, -, -, hnew, rfl⟩
    · refine .quiet (fun _ => by rw [hdb]) hsub ?_
      rintro p rfl
      obtain rfl : p = _ := by simpa [State.goes] using hnext
      exact ⟨rfl, _, by rw [hdb]; exact hfind, sameCore_refl _, fun _ => rfl⟩
    · refine .inserted _ hnew.fresh hnew.states (by rw [hdb]) hsub ?_
      rintro p rfl
      obtain rfl : p = _ := by simpa [State.goes] using hnext
      exact ⟨rfl, _, by rw [hdb, Table.find_save_self], sameCore_refl _, fun _ => rfl⟩
  · rw [hreserve] at hdb hsub
    refine .quiet (fun _ => by rw [hdb]; rfl) hsub ?_
    rintro p rfl
    simp [State.goes] at hnext

theorem claiming_change (hcall : s.calls call = some (.claiming refund providerPaymentId))
    (hs' : Leaves s' (perform s answer (.claiming refund providerPaymentId)))
    (hnext : next = (perform s answer (.claiming refund providerPaymentId)).next ∨ next = none) : Change s s' call next := by
  obtain ⟨hdb, hsub, -⟩ := hs'
  unfold perform at hdb hsub hnext
  dsimp only at hdb hsub hnext
  split at hnext <;> rename_i hclaim
  · rw [hclaim] at hdb hsub
    unfold claim at hclaim
    split at hclaim
    · rename_i r hfind
      split at hclaim
      · rename_i hstate
        obtain rfl := Option.some.inj hclaim
        refine .claimed refund r providerPaymentId hcall hfind hstate ?_ hsub ?_
        · rw [hdb]
          exact (update_refund_spec _ hfind rfl).1
        · rintro p rfl
          simpa [State.goes] using hnext
      · simp at hclaim
    · simp at hclaim
  · rw [hclaim] at hdb hsub
    refine .quiet (fun _ => by rw [hdb]; rfl) hsub ?_
    rintro p rfl
    obtain rfl : p = _ := by simpa [State.goes] using hnext
    exact ⟨rfl, trivial⟩

theorem marking_change (hinv : Inv s) (hcall : s.calls call = some (.marking refund providerPaymentId index))
    (hs' : Leaves s' (perform s answer (.marking refund providerPaymentId index)))
    (hnext : next = (perform s answer (.marking refund providerPaymentId index)).next ∨ next = none) :
    Change s s' call next := by
  obtain ⟨hle, hstates, hrun⟩ := hinv.along call _ hcall
  obtain ⟨hdb, hsub, hans⟩ := hs'
  unfold perform at hdb hsub hans hnext
  dsimp only at hdb hsub hans hnext
  split at hnext <;> rename_i hlt
  · rw [if_pos hlt] at hdb hsub hans
    have hmarked : (setLine refund index fun line => { line with state := .submitting }).states =
        progress index refund.lines.length .submitting :=
      states_setLine (pending_of_lt hlt ▸ hstates) fun _ => rfl
    have hcore : SameCore refund (setLine refund index fun line => { line with state := .submitting }) :=
      sameCore_setLine fun _ => rfl
    have hlen := hcore.length
    revert hdb hsub hans hnext hmarked hcore hlen
    generalize setLine refund index (fun line => { line with state := .submitting }) = marked
    intro hdb hsub hans hnext hmarked hcore hlen
    obtain ⟨hrun', hstored⟩ := hrun.saved hcore (by simp) hdb hsub hans
    apply change_of_save hinv hcall rfl hcore (by simp) hdb hsub
    · exact ⟨index, [.submitting], refund.lines.length - index - 1, index, by rw [hmarked]; simp [progress],
        by simp, by simp [stops], hrun'.sent, le_rfl, by simp, hrun'.answered, by simp⟩
    · rintro p rfl
      obtain rfl : p = _ := by simpa [State.goes] using hnext
      refine ⟨⟨hlen ▸ hlt, hlen ▸ hmarked, hrun', hstored⟩, ?_⟩
      simp [Point.claimed?]
  · rw [if_neg hlt] at hdb hsub hans
    obtain ⟨r, hr, -, -⟩ := hrun.stored
    obtain ⟨-, hfind, hothers⟩ := update_refund_spec (fun stored => { stored with state := .finished }) hr rfl
    refine .owned _ refund r { r with state := .finished } [] hcall rfl hr ⟨rfl, rfl, rfl, rfl⟩ (by simp)
      (by rw [hdb]; exact hfind) (fun id hid => by rw [hdb]; exact hothers id hid)
      (by rw [hsub]; exact (List.append_nil _).symm) (by simp) ?_ ?_
    · exact (hinv.ordered refund.id r hr).mono (by simp [hans, State.goes]) (submittedOf_congr hsub _)
    · rintro p rfl
      obtain rfl : p = _ := by simpa [State.goes] using hnext
      exact ⟨trivial, by simp [Point.claimed?]⟩

theorem submittedOf_submit {sent : List Submission} (hsub : s'.submitted = s.submitted ++ sent) (id : String) :
    submittedOf s' id = submittedOf s id ++ (sent.filter fun m => m.refundId = id).map (·.index) := by
  rw [submittedOf, hsub, List.filter_append, List.map_append]
  rfl

theorem submitting_change (hinv : Inv s) (hcall : s.calls call = some (.submitting refund providerPaymentId index))
    (hs' : Leaves s' (perform s answer (.submitting refund providerPaymentId index)))
    (hnext : next = (perform s answer (.submitting refund providerPaymentId index)).next ∨
      next = caught (.submitting refund providerPaymentId index)) : Change s s' call next := by
  obtain ⟨hlt, hstates, hrun, r₁, hr₁, hlines⟩ := hinv.along call _ hcall
  obtain ⟨r, hr, hcore, hne⟩ := hrun.stored
  rw [hr, Option.some.injEq] at hr₁
  subst hr₁
  obtain ⟨hdb, hsub, hans⟩ := hs'
  unfold perform at hdb hsub hans hnext
  have hline : refund.lines[index]? = some refund.lines[index] := List.getElem?_eq_getElem hlt
  simp only [hline, Option.toList_some, List.map_cons, List.map_nil] at hsub
  have hsubOf : submittedOf s' refund.id = List.range (index + 1) := by
    rw [submittedOf_submit hsub, hrun.sent, List.range_succ]
    simp
  have hanswered : ∀ j < index, Succeeded s' refund.id j :=
    fun j hj => (hrun.answered j hj).mono (by simp [hans, State.goes])
  have hrun' : Running s' refund index (index + 1) := ⟨⟨r, by rw [hdb]; exact hr, hcore, hne⟩, hsubOf, hanswered⟩
  refine .owned _ refund r r _ hcall rfl hr (sameCore_refl r) hne (by rw [hdb]; exact hr) (fun _ _ => by rw [hdb]; rfl)
    hsub ?_ ?_ ?_
  · intro m hm
    obtain rfl := List.mem_singleton.mp hm
    refine ⟨rfl, ?_⟩
    rw [← hcore.request, hline]
    rfl
  · refine ⟨index, [.submitting], refund.lines.length - index - 1, index + 1, ?_, by simp, by simp [stops], hsubOf,
      by simp, by simp, hanswered, by simp⟩
    rw [IyzicoRefund.states, hlines, ← IyzicoRefund.states, hstates]
    simp [progress]
  · rintro p rfl
    rcases hnext with hnext | hnext <;> obtain rfl := Option.some.inj hnext
    · exact ⟨⟨hlt, hstates, hrun'⟩, by simp [Point.claimed?]⟩
    · exact ⟨stopping_along hlt hstates hrun' (by simp) le_rfl, by simp [Point.claimed?, setLine]⟩

theorem awaiting_change (hinv : Inv s) (hcall : s.calls call = some (.awaiting refund providerPaymentId index))
    (hs' : Leaves s' (perform s answer (.awaiting refund providerPaymentId index)))
    (hnext : next = (perform s answer (.awaiting refund providerPaymentId index)).next ∨
      next = caught (.awaiting refund providerPaymentId index)) : Change s s' call next := by
  obtain ⟨hlt, hstates, hrun⟩ := hinv.along call _ hcall
  have hdb : s'.db = s.db := by
    rw [hs'.1]
    cases answer <;> rfl
  have hsub : s'.submitted = s.submitted := by
    rw [hs'.2.1]
    cases answer <;> rfl
  have hans : s'.answered = s.answered ++ [(refund.id, index, answer)] := by
    rw [hs'.2.2]
    cases answer <;> rfl
  have hkeep : ∀ x ∈ s.answered, x ∈ s'.answered := fun x hx => by simp [hans, hx]
  have hrun' : Running s' refund index (index + 1) :=
    hrun.mono hkeep (by rw [hdb]) (submittedOf_congr hsub _)
  apply change_of_same hinv hcall rfl hdb hsub hkeep
  rintro p rfl
  rcases hnext with hnext | hnext
  · cases answer with
    | success refundHostReference =>
      obtain rfl := Option.some.inj hnext
      have hdone : Running s' refund (index + 1) (index + 1) := by
        refine ⟨hrun'.stored, hrun'.sent, fun j hj => ?_⟩
        rcases Nat.lt_succ_iff_lt_or_eq.mp hj with hj | rfl
        · exact hrun'.answered j hj
        · exact ⟨refundHostReference, by simp [hans]⟩
      refine ⟨⟨by simpa using hlt, ?_, hdone.setLine fun _ => rfl⟩, by simp [Point.claimed?, setLine]⟩
      rw [length_setLine]
      exact states_setLine hstates fun _ => rfl
    | rejected providerCode =>
      obtain rfl := Option.some.inj hnext
      refine ⟨⟨by simpa using hlt, .rejected, index + 1, Or.inr (Or.inl rfl), ?_, hrun'.setLine fun _ => rfl, by simp, le_rfl,
        fun _ => ⟨rfl, providerCode, by simp [hans, setLine]⟩⟩, by simp [Point.claimed?, setLine]⟩
      rw [length_setLine]
      exact states_setLine hstates fun _ => rfl
    | ambiguous =>
      obtain rfl := Option.some.inj hnext
      exact ⟨stopping_along hlt hstates hrun' (by simp) le_rfl, by simp [Point.claimed?, setLine]⟩
  · obtain rfl := Option.some.inj hnext
    exact ⟨stopping_along hlt hstates hrun' (by simp) le_rfl, by simp [Point.claimed?, setLine]⟩

theorem recording_change (hinv : Inv s) (hcall : s.calls call = some (.recording refund providerPaymentId index))
    (hs' : Leaves s' (perform s answer (.recording refund providerPaymentId index)))
    (hnext : next = (perform s answer (.recording refund providerPaymentId index)).next ∨
      next = caught (.recording refund providerPaymentId index)) : Change s s' call next := by
  obtain ⟨hlt, hstates, hrun⟩ := hinv.along call _ hcall
  obtain ⟨hdb, hsub, hans⟩ := hs'
  unfold perform at hdb hsub hans hnext
  obtain ⟨hrun', -⟩ := hrun.saved (sameCore_refl refund) (by simp) hdb hsub hans
  have hdone := hstates
  rw [progress_succeeded] at hdone
  apply change_of_save hinv hcall rfl (sameCore_refl refund) (by simp) hdb hsub
  · exact ⟨index + 1, [], refund.lines.length - (index + 1), index + 1, by rw [hdone]; simp [pending],
      by simp, by simp, hrun'.sent, le_rfl, by simp, hrun'.answered, by simp⟩
  · rintro p rfl
    rcases hnext with hnext | hnext <;> obtain rfl := Option.some.inj hnext
    · exact ⟨⟨hlt, hdone, hrun'⟩, by simp [Point.claimed?]⟩
    · exact ⟨stopping_along hlt hstates (hrun'.weaken (by simp)) (by simp) le_rfl, by simp [Point.claimed?, setLine]⟩

theorem stopping_change (hinv : Inv s) (hcall : s.calls call = some (.stopping refund index))
    (hs' : Leaves s' (perform s answer (.stopping refund index)))
    (hnext : next = (perform s answer (.stopping refund index)).next ∨ next = none) : Change s s' call next := by
  obtain ⟨hlt, state, count, hstops, hstates, hrun, hle, hge, hrej⟩ := hinv.along call _ hcall
  obtain ⟨hdb, hsub, hans⟩ := hs'
  unfold perform at hdb hsub hans hnext
  obtain ⟨hrun', -⟩ := hrun.saved (sameCore_refl refund) (by simp) hdb hsub hans
  apply change_of_save hinv hcall rfl (sameCore_refl refund) (by simp) hdb hsub
  · refine ⟨index, [state], refund.lines.length - index - 1, count, by rw [hstates]; simp [progress], by simp,
      by simpa using hstops, hrun'.sent, hle, by simpa using hge, hrun'.answered, ?_⟩
    intro heq
    obtain ⟨hcount, hrejected⟩ := hrej (List.singleton_inj.mp heq)
    exact ⟨hcount, hrejected.mono (by simp [hans, State.goes])⟩
  · rintro p rfl
    obtain rfl : p = _ := by simpa [State.goes] using hnext
    exact ⟨trivial, by simp [Point.claimed?]⟩

theorem perform_change (hinv : Inv s) {point : Point} (hcall : s.calls call = some point)
    (hs' : Leaves s' (perform s answer point)) (hnext : next = (perform s answer point).next ∨ next = caught point) :
    Change s s' call next := by
  cases point with
  | reserving valid => exact reserving_change hs' hnext
  | claiming refund providerPaymentId => exact claiming_change hcall hs' hnext
  | marking refund providerPaymentId index => exact marking_change hinv hcall hs' hnext
  | submitting refund providerPaymentId index => exact submitting_change hinv hcall hs' hnext
  | awaiting refund providerPaymentId index => exact awaiting_change hinv hcall hs' hnext
  | recording refund providerPaymentId index => exact recording_change hinv hcall hs' hnext
  | stopping refund index => exact stopping_change hinv hcall hs' hnext
  | checking id =>
    refine .quiet (fun _ => by rw [hs'.1]; rfl) hs'.2.1 ?_
    rintro p rfl
    simp [perform, State.goes, caught] at hnext

/-- A step that throws before its effect, or a process that dies. -/
theorem caught_change (hinv : Inv s) (hs' : Leaves s' (s.goes next))
    (hnext : ∀ p, next = some p → ∃ point, s.calls call = some point ∧ caught point = some p) : Change s s' call next := by
  obtain ⟨hdb, hsub, hans⟩ := hs'
  cases next with
  | none => exact .quiet (fun _ => by rw [hdb]; rfl) hsub (by simp)
  | some p =>
    obtain ⟨point, hcall, hcaught⟩ := hnext p rfl
    have hkeep : ∀ x ∈ s.answered, x ∈ s'.answered := fun x hx => by rwa [hans]
    have hmono : ∀ refund : IyzicoRefund, ∀ a k, Running s refund a k → Running s' refund a k :=
      fun refund a k hrun => hrun.mono hkeep (by rw [hdb]; rfl) (submittedOf_congr hsub _)
    cases point <;> simp only [caught, reduceCtorEq, Option.some.injEq] at hcaught <;> subst hcaught
    · obtain ⟨hlt, hstates, hrun, -⟩ := hinv.along call _ hcall
      apply change_of_same hinv hcall rfl hdb hsub hkeep
      rintro p hp
      obtain rfl := Option.some.inj hp
      exact ⟨stopping_along hlt hstates (hmono _ _ _ hrun) le_rfl (by simp), by simp [Point.claimed?, setLine]⟩
    · obtain ⟨hlt, hstates, hrun⟩ := hinv.along call _ hcall
      apply change_of_same hinv hcall rfl hdb hsub hkeep
      rintro p hp
      obtain rfl := Option.some.inj hp
      exact ⟨stopping_along hlt hstates (hmono _ _ _ hrun) (by simp) le_rfl, by simp [Point.claimed?, setLine]⟩
    · obtain ⟨hlt, hstates, hrun⟩ := hinv.along call _ hcall
      apply change_of_same hinv hcall rfl hdb hsub hkeep
      rintro p hp
      obtain rfl := Option.some.inj hp
      exact ⟨stopping_along hlt hstates (hmono _ _ _ (hrun.weaken (by simp))) (by simp) le_rfl,
        by simp [Point.claimed?, setLine]⟩

end Postral.Iyzico
