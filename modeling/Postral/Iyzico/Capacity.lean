import Postral.Iyzico.AtMostOnce

/-!
# Refunds stay within the transactions of their capture

The transaction of `initialize` adds a refund only when every line fits, and no other step changes the
amounts of a refund.
-/

open Check Run

namespace Postral.Iyzico

/-! ## What is reserved -/

/-- What the lines of a refund of a capture reserve on an item. `f` is the amount of a line. -/
def share (f : RefundChannelLine → ℚ) (operationId originalPaymentItemId : String) (refund : IyzicoRefund) : ℚ :=
  if refund.originalOperationId = operationId then
    ((refund.lines.filter fun line => line.originalPaymentItemId = originalPaymentItemId).map
      fun line => f line.toRefundChannelLine).sum
  else 0

/-- What the lines of all refunds of a capture reserve on an item. -/
def reservedOn (f : RefundChannelLine → ℚ) (refunds : Table IyzicoRefund.id) (operationId originalPaymentItemId : String) : ℚ :=
  refunds.total (share f operationId originalPaymentItemId)

theorem sum_linesOn (f : RefundChannelLine → ℚ) (refunds : Table IyzicoRefund.id) (operationId originalPaymentItemId : String) :
    ((linesOn (refunds.rows.filter fun other => other.originalOperationId = operationId) originalPaymentItemId).map
      fun line => f line.toRefundChannelLine).sum = reservedOn f refunds operationId originalPaymentItemId := by
  unfold linesOn reservedOn Table.total
  induction refunds.rows with
  | nil => simp
  | cons r rows ih =>
    rw [List.map_cons, List.sum_cons, ← ih, share, List.filter_cons]
    by_cases h : r.originalOperationId = operationId
    · simp [h, List.filter_append]
    · simp [h]

theorem share_sameCore {f : RefundChannelLine → ℚ} {operationId item : String} {r r' : IyzicoRefund} (h : SameCore r r') :
    share f operationId item r' = share f operationId item r := by
  have hlines : r'.lines.map (·.toRefundChannelLine) = r.lines.map (·.toRefundChannelLine) := by
    have hfst := congrArg (List.map Prod.fst) h.lines
    rw [List.map_map, List.map_map] at hfst
    exact hfst
  have hfilter : ∀ lines : List IyzicoRefundLine, (lines.filter fun line => line.originalPaymentItemId = item).map
      (fun line => f line.toRefundChannelLine) =
        ((lines.map (·.toRefundChannelLine)).filter fun line => line.originalPaymentItemId = item).map f := by
    intro lines
    rw [List.filter_map, List.map_map]
    rfl
  rw [share, share, h.originalOperationId, hfilter, hfilter, hlines]

theorem reservedOn_save_of_sameCore {f : RefundChannelLine → ℚ} {refunds : Table IyzicoRefund.id} {r r' : IyzicoRefund}
    (hr : refunds.find r.id = some r) (h : SameCore r r') (operationId item : String) :
    reservedOn f (refunds.save r') operationId item = reservedOn f refunds operationId item := by
  have htotal := Table.total_save refunds r' (share f operationId item)
  rw [h.id, hr, Option.map_some, Option.getD_some, share_sameCore h] at htotal
  exact add_right_cancel htotal

/-- A refund of another capture reserves nothing on this one. -/
theorem share_of_ne {f : RefundChannelLine → ℚ} {operationId item : String} {refund : IyzicoRefund}
    (h : refund.originalOperationId ≠ operationId) : share f operationId item refund = 0 := if_neg h

/-- The lines of a refund name different items, so at most one of them is on an item. -/
theorem share_of_nodup (f : RefundChannelLine → ℚ) {operationId : String} (item : String) {refund : IyzicoRefund}
    (hnodup : (refund.lines.map (·.originalPaymentItemId)).Nodup) (hop : refund.originalOperationId = operationId) :
    (share f operationId item refund = 0 ∧ ∀ line ∈ refund.lines, line.originalPaymentItemId ≠ item) ∨
    ∃ line ∈ refund.lines, line.originalPaymentItemId = item ∧
      share f operationId item refund = f line.toRefundChannelLine := by
  unfold share
  rw [if_pos hop]
  revert hnodup
  induction refund.lines with
  | nil => simp
  | cons line lines ih =>
    intro hnodup
    rw [List.map_cons, List.nodup_cons] at hnodup
    rw [List.filter_cons]
    by_cases h : line.originalPaymentItemId = item
    · right
      have hrest : lines.filter (fun line => line.originalPaymentItemId = item) = [] := by
        apply List.filter_eq_nil_iff.mpr
        intro other hother heq
        exact hnodup.1 (List.mem_map.mpr ⟨other, hother, (of_decide_eq_true heq).trans h.symm⟩)
      exact ⟨line, List.mem_cons_self, h, by simp [h, hrest]⟩
    · rw [if_neg (by simpa using h)]
      rcases ih hnodup.2 with ⟨hzero, hnone⟩ | ⟨other, hother, hitem, hshare⟩
      · exact Or.inl ⟨hzero, List.forall_mem_cons.mpr ⟨h, hnone⟩⟩
      · exact Or.inr ⟨other, List.mem_cons_of_mem _ hother, hitem, hshare⟩

/-! ## The invariant -/

/-- A stored refund belongs to a completed capture, line by line. -/
structure Matched (db : Db) (refund : IyzicoRefund) : Prop where
  source : ∃ operation, db.operations.find refund.originalOperationId = some operation ∧ operation.status = .completed ∧
    ∀ line ∈ refund.lines, ∃ transaction ∈ operation.itemTransactions.rows,
      transaction.paymentItemId = line.originalPaymentItemId ∧
      transaction.paymentTransactionId = line.paymentTransactionId

structure Capacity (s : State) : Prop where
  matched : ∀ id refund, s.db.refunds.find id = some refund → Matched s.db refund
  /-- The checks of `initialize` passed. -/
  valid : ∀ c valid, s.calls c = some (.reserving valid) → (valid.lines.map (·.originalPaymentItemId)).Nodup
  fits : ∀ id operation, s.db.operations.find id = some operation → ∀ transaction ∈ operation.itemTransactions.rows,
    reservedOn (·.providerAmount.value) s.db.refunds operation.id transaction.paymentItemId ≤ transaction.paidPrice ∧
    reservedOn (·.nominalAmount.value) s.db.refunds operation.id transaction.paymentItemId ≤ transaction.price

theorem Matched.sameCore {db db' : Db} {r r' : IyzicoRefund} (hr : Matched db r) (h : SameCore r r')
    (hops : db'.operations = db.operations) : Matched db' r' := by
  obtain ⟨operation, hfind, hstatus, hlines⟩ := hr.source
  refine ⟨operation, by rw [hops, h.originalOperationId, hfind], hstatus, ?_⟩
  intro line hline
  have hmem : line.detail ∈ r.lines.map IyzicoRefundLine.detail := h.lines ▸ List.mem_map_of_mem hline
  obtain ⟨line₀, hline₀, hdetail⟩ := List.mem_map.mp hmem
  obtain ⟨transaction, htransaction, hitem, hid⟩ := hlines line₀ hline₀
  simp only [IyzicoRefundLine.detail, Prod.mk.injEq] at hdetail
  obtain ⟨hchannel, hpayment, -⟩ := hdetail
  exact ⟨transaction, htransaction, hchannel ▸ hitem, hpayment ▸ hid⟩

theorem ItemTransactions.find_eq_some {transactions : ItemTransactions} {item : String} {transaction : IyzicoItemTransaction} :
    transactions.find item = some transaction ↔ transaction ∈ transactions.rows ∧ transaction.paymentItemId = item := by
  unfold ItemTransactions.find
  constructor
  · intro h
    exact ⟨List.mem_of_find?_eq_some h, by simpa using List.find?_some h⟩
  · rintro ⟨hmem, rfl⟩
    cases hfind : transactions.rows.find? fun other => other.paymentItemId = transaction.paymentItemId with
    | none => simpa using List.find?_eq_none.mp hfind transaction hmem
    | some other =>
      have hitem : other.paymentItemId = transaction.paymentItemId := by simpa using List.find?_some hfind
      rw [List.inj_on_of_nodup_map transactions.itemIds (List.mem_of_find?_eq_some hfind) hmem hitem]

/-! ## Steps -/

/-- What a step does to the stored refunds. -/
inductive DbChange (db : Db) : Db → Prop where
  | same : DbChange db db
  | updated {r r' : IyzicoRefund} (hfind : db.refunds.find r.id = some r) (hcore : SameCore r r') :
      DbChange db { db with refunds := db.refunds.save r' }
  | reserved {source : IyzicoOperation} {lines : List RefundChannelLine} {refund : IyzicoRefund}
      (hsource : db.operations.find source.id = some source) (hstatus : source.status = .completed)
      (hnodup : (lines.map (·.originalPaymentItemId)).Nodup) (hnew : NewRefund db source lines refund) :
      DbChange db { db with refunds := db.refunds.save refund }

theorem update_refund_change {db : Db} {id : String} {change : IyzicoRefund → IyzicoRefund}
    (h : ∀ r, db.refunds.find id = some r → SameCore r (change r)) : DbChange db (updateRefund db id change) := by
  unfold updateRefund
  split <;> rename_i hfind
  · rename_i r
    exact .updated (by rw [Table.key_of_find hfind, hfind]) (h _ hfind)
  · exact .same

theorem save_lines_change {s : State} {refund saved : IyzicoRefund} {a k : ℕ} {state : Option RefundState}
    (hrun : Running s refund a k) (hcore : SameCore refund saved) : DbChange s.db (saveLines s.db saved state) := by
  apply update_refund_change
  intro r hr
  obtain ⟨stored, hstored, hcore₀, -⟩ := hrun.stored
  rw [hcore.id, hstored, Option.some.injEq] at hr
  subst hr
  exact ⟨rfl, rfl, rfl, (hcore₀.trans hcore).lines⟩

theorem perform_db {s : State} {call : ℕ} {point : Point} (hinv : Inv s) (hcap : Capacity s)
    (hcall : s.calls call = some point) (answer : Answer) : DbChange s.db (perform s answer point).db := by
  have halong := hinv.along call point hcall
  cases point with
  | reserving valid =>
    unfold perform
    dsimp only
    split <;> rename_i hreserve
    · rcases reserve_spec hreserve with ⟨rfl, -⟩ | ⟨source, hsource, hstatus, hnew, rfl⟩
      · exact .same
      · exact .reserved hsource hstatus (hcap.valid call valid hcall) hnew
    · exact .same
  | claiming refund =>
    unfold perform
    dsimp only
    split <;> rename_i hclaim
    · unfold claim at hclaim
      split at hclaim
      · split at hclaim
        · obtain rfl := Option.some.inj hclaim
          exact update_refund_change fun r _ => ⟨rfl, rfl, rfl, rfl⟩
        · simp at hclaim
      · simp at hclaim
    · exact .same
  | marking refund =>
    obtain ⟨-, -, hrun⟩ := halong
    unfold perform
    dsimp only
    split
    · exact save_lines_change hrun (sameCore_setLine fun _ => rfl)
    · exact update_refund_change fun r _ => ⟨rfl, rfl, rfl, rfl⟩
  | submitting refund => exact .same
  | awaiting refund => cases answer <;> exact .same
  | recording refund => exact save_lines_change halong.2.2 (sameCore_refl refund)
  | stopping refund =>
    obtain ⟨-, _, _, -, -, hrun, -⟩ := halong
    exact save_lines_change hrun (sameCore_refl refund)
  | checking id => exact .same

theorem reservedOn_insert {f : RefundChannelLine → ℚ} {refunds : Table IyzicoRefund.id} {refund : IyzicoRefund}
    {operationId item : String} {bound : ℚ} (hfresh : refunds.find refund.id = none)
    (hnodup : (refund.lines.map (·.originalPaymentItemId)).Nodup) (hop : refund.originalOperationId = operationId)
    (hfits : reservedOn f refunds operationId item ≤ bound)
    (hline : ∀ line ∈ refund.lines, line.originalPaymentItemId = item →
      reservedOn f refunds operationId item + f line.toRefundChannelLine ≤ bound) :
    reservedOn f (refunds.save refund) operationId item ≤ bound := by
  unfold reservedOn at hfits hline ⊢
  rw [Table.total_save_of_fresh hfresh]
  rcases share_of_nodup f item hnodup hop with ⟨hzero, -⟩ | ⟨line, hmem, hitem, hshare⟩
  · rwa [hzero, add_zero]
  · rw [hshare]
    exact hline line hmem hitem

/-- The new lines name the items of the request. -/
theorem new_refund_items {db : Db} {source : IyzicoOperation} {lines : List RefundChannelLine} {refund : IyzicoRefund}
    (hnew : NewRefund db source lines refund) :
    refund.lines.map (·.originalPaymentItemId) = lines.map (·.originalPaymentItemId) := by
  apply forall₂_map_eq hnew.lines
  rintro line reserved ⟨index, hreserve⟩
  obtain ⟨-, -, -, -, hline, -⟩ := reserve_line_spec hreserve
  rw [hline]

/-- A line that the transaction reserves: its transaction, and what it leaves there. -/
theorem new_refund_line {db : Db} {source : IyzicoOperation} {lines : List RefundChannelLine} {refund : IyzicoRefund}
    (hnew : NewRefund db source lines refund) {line : IyzicoRefundLine} (hline : line ∈ refund.lines) :
    ∃ transaction ∈ source.itemTransactions.rows, transaction.paymentItemId = line.originalPaymentItemId ∧
      transaction.paymentTransactionId = line.paymentTransactionId ∧
      reservedOn (·.providerAmount.value) db.refunds source.id line.originalPaymentItemId + line.providerAmount.value ≤
        transaction.paidPrice ∧
      reservedOn (·.nominalAmount.value) db.refunds source.id line.originalPaymentItemId + line.nominalAmount.value ≤
        transaction.price := by
  obtain ⟨line₀, -, index, hreserve⟩ := forall₂_mem_right hnew.lines hline
  obtain ⟨transaction, hfind, hprovider, hnominal, rfl, hid, -⟩ := reserve_line_spec hreserve
  obtain ⟨hmem, hitem⟩ := ItemTransactions.find_eq_some.mp hfind
  rw [← sum_linesOn, ← sum_linesOn]
  exact ⟨transaction, hmem, hitem, hid.symm, hprovider, hnominal⟩

/-- Two transactions of a capture for one item are one. -/
theorem ItemTransactions.eq_of_item {transactions : ItemTransactions} {a b : IyzicoItemTransaction}
    (ha : a ∈ transactions.rows) (hb : b ∈ transactions.rows) (h : a.paymentItemId = b.paymentItemId) : a = b :=
  List.inj_on_of_nodup_map transactions.itemIds ha hb h

/-- Nothing is reserved on a capture that is not completed. -/
theorem reservedOn_of_not_completed {s : State} (hcap : Capacity s) {id : String} (hid : isCompleted s.db id = false)
    (f : RefundChannelLine → ℚ) (item : String) : reservedOn f s.db.refunds id item = 0 := by
  unfold reservedOn
  rw [Table.total_congr (g := fun _ => (0 : ℚ))]
  · simp [Table.total]
  · intro r hr
    apply share_of_ne
    rintro rfl
    obtain ⟨operation, hfind, hstatus, -⟩ := (hcap.matched r.id r (Table.find_of_mem hr)).source
    simp [isCompleted, hfind, hstatus] at hid

theorem capacity_of_db {s s' : State} (hcap : Capacity s) (hdb : DbChange s.db s'.db)
    (hvalid : ∀ c valid, s'.calls c = some (.reserving valid) → (valid.lines.map (·.originalPaymentItemId)).Nodup) :
    Capacity s' := by
  generalize hnew : s'.db = db' at hdb
  cases hdb with
  | same => exact ⟨by rw [hnew]; exact hcap.matched, hvalid, by rw [hnew]; exact hcap.fits⟩
  | @updated r r' hfind hcore =>
    refine ⟨?_, hvalid, ?_⟩ <;> rw [hnew]
    · intro id refund hrefund
      dsimp only at hrefund
      rw [Table.find_save] at hrefund
      split at hrefund
      · obtain rfl := Option.some.inj hrefund
        exact (hcap.matched r.id r hfind).sameCore hcore rfl
      · exact (hcap.matched id refund hrefund).sameCore (sameCore_refl refund) rfl
    · intro id operation hoperation transaction htransaction
      dsimp only
      rw [reservedOn_save_of_sameCore hfind hcore, reservedOn_save_of_sameCore hfind hcore]
      exact hcap.fits id operation hoperation transaction htransaction
  | @reserved source lines refund hsource hstatus hnodup hfresh =>
    have hitems := new_refund_items hfresh
    refine ⟨?_, hvalid, ?_⟩ <;> rw [hnew]
    · intro id other hother
      dsimp only at hother
      rw [Table.find_save] at hother
      split at hother
      · obtain rfl := Option.some.inj hother
        refine ⟨source, by rw [hfresh.originalOperationId]; exact hsource, hstatus, fun line hline => ?_⟩
        obtain ⟨transaction, hmem, hitem, hid, -⟩ := new_refund_line hfresh hline
        exact ⟨transaction, hmem, hitem, hid⟩
      · exact (hcap.matched id other hother).sameCore (sameCore_refl other) rfl
    · intro id operation hoperation transaction htransaction
      obtain ⟨hprovider, hnominal⟩ := hcap.fits id operation hoperation transaction htransaction
      by_cases hid : operation.id = source.id
      · have hsame : operation = source := by
          rw [← Table.key_of_find hoperation, hid] at hoperation
          exact Option.some.inj (hoperation.symm.trans hsource)
        subst hsame
        have hfit : ∀ line ∈ refund.lines, line.originalPaymentItemId = transaction.paymentItemId →
            reservedOn (·.providerAmount.value) s.db.refunds operation.id transaction.paymentItemId +
              line.providerAmount.value ≤ transaction.paidPrice ∧
            reservedOn (·.nominalAmount.value) s.db.refunds operation.id transaction.paymentItemId +
              line.nominalAmount.value ≤ transaction.price := by
          intro line hline hitem
          obtain ⟨transaction', hmem, hitem', -, hfits⟩ := new_refund_line hfresh hline
          rw [ItemTransactions.eq_of_item hmem htransaction (hitem'.trans hitem), hitem] at hfits
          exact hfits
        have hnodup' : (refund.lines.map (·.originalPaymentItemId)).Nodup := hitems ▸ hnodup
        exact ⟨reservedOn_insert hfresh.fresh hnodup' hfresh.originalOperationId hprovider fun line hl hi => (hfit line hl hi).1,
          reservedOn_insert hfresh.fresh hnodup' hfresh.originalOperationId hnominal fun line hl hi => (hfit line hl hi).2⟩
      · have hzero : ∀ f : RefundChannelLine → ℚ, share f operation.id transaction.paymentItemId refund = 0 :=
          fun f => share_of_ne (hfresh.originalOperationId ▸ Ne.symm hid)
        unfold reservedOn at hprovider hnominal ⊢
        rw [Table.total_save_of_fresh hfresh.fresh, Table.total_save_of_fresh hfresh.fresh, hzero, hzero, add_zero, add_zero]
        exact ⟨hprovider, hnominal⟩

/-- A capture changes while nothing is reserved on it. -/
theorem capacity_of_capture {s : State} (hcap : Capacity s) {operation : IyzicoOperation}
    (hopen : isCompleted s.db operation.id = false) :
    Capacity { s with db := { s.db with operations := s.db.operations.save operation } } := by
  refine ⟨?_, hcap.valid, ?_⟩
  · intro id refund hrefund
    obtain ⟨source, hfind, hstatus, hlines⟩ := (hcap.matched id refund hrefund).source
    refine ⟨source, ?_, hstatus, hlines⟩
    dsimp only
    rw [Table.find_save_of_ne, hfind]
    intro heq
    rw [← heq] at hopen
    simp [isCompleted, hfind, hstatus] at hopen
  · intro id other hother transaction htransaction
    dsimp only at hother ⊢
    rw [Table.find_save] at hother
    split at hother
    · obtain rfl := Option.some.inj hother
      rw [reservedOn_of_not_completed hcap hopen, reservedOn_of_not_completed hcap hopen]
      exact ⟨transaction.paidPrice_nonneg, transaction.price_nonneg⟩
    · exact hcap.fits id other hother transaction htransaction

/-! ## Calls -/

theorem validate_nodup {config : Config} {payment : RefundPayment} {valid : ValidRefund}
    (h : validate config payment = .ok valid) : (valid.lines.map (·.originalPaymentItemId)).Nodup := by
  simp only [validate, bind_eq_ok, require_eq_ok, pure_eq_ok] at h
  obtain ⟨_, -, _, -, _, -, _, -, _, ⟨hnodup, -⟩, rfl⟩ := h
  exact hnodup

/-- Only `initialize` starts a reservation. -/
theorem perform_not_reserving (s : State) (answer : Answer) (point : Point) (valid : ValidRefund) :
    (perform s answer point).next ≠ some (.reserving valid) := by
  cases point with
  | reserving => unfold perform; dsimp only; split <;> simp [State.goes]
  | claiming => unfold perform; dsimp only; split <;> simp [State.goes]
  | marking => unfold perform; dsimp only; split <;> simp [State.goes]
  | awaiting => cases answer <;> simp [perform, State.goes]
  | submitting => simp [perform, State.goes]
  | recording => simp [perform, State.goes]
  | stopping => simp [perform, State.goes]
  | checking => simp [perform, State.goes]

theorem caught_not_reserving (point : Point) (valid : ValidRefund) : caught point ≠ some (.reserving valid) := by
  cases point <;> simp [caught]

theorem capacity_apply {s : State} (hcap : Capacity s) {call : ℕ} {e : Effect} (hdb : DbChange s.db e.db)
    (hnext : ∀ valid, e.next = some (.reserving valid) → (valid.lines.map (·.originalPaymentItemId)).Nodup) :
    Capacity (s.apply call e) := by
  apply capacity_of_db hcap (show DbChange s.db (s.apply call e).db from hdb)
  intro c valid hc
  simp only [State.apply, Function.update_apply] at hc
  split at hc
  · exact hnext valid hc
  · exact hcap.valid c valid hc

theorem step_capacity {config : Config} {s s' : State} {act : Act} (hinv : Inv s) (hcap : Capacity s)
    (h : step config s act = some s') : Capacity s' := by
  unfold step at h
  split at h
  · split at h
    · split at h <;> rename_i hvalid <;> obtain rfl := Option.some.inj h
      · apply capacity_apply hcap .same
        intro valid heq
        obtain rfl := Point.reserving.inj (Option.some.inj heq)
        exact validate_nodup hvalid
      · exact hcap
    · simp at h
  · split at h <;> rename_i hcall
    · obtain rfl := Option.some.inj h
      apply capacity_apply hcap (perform_db hinv hcap hcall _)
      exact fun valid heq => absurd heq (perform_not_reserving s _ _ valid)
    · simp at h
  · rename_i call answer applied
    split at h <;> rename_i hcall
    · obtain rfl := Option.some.inj h
      apply capacity_apply hcap
      · cases applied with
        | true => exact perform_db hinv hcap hcall answer
        | false => exact .same
      · exact fun valid heq => absurd heq (caught_not_reserving _ valid)
    · simp at h
  · obtain rfl := Option.some.inj h
    exact capacity_apply hcap .same (by simp [State.goes])
  · split at h <;> rename_i hopen
    · simp at h
    · obtain rfl := Option.some.inj h
      exact capacity_of_capture hcap (by simpa using hopen)

theorem capacity_init {s : State} (hcalls : ∀ c, s.calls c = none) (hrefunds : s.db.refunds = Table.empty) : Capacity s := by
  refine ⟨by simp [hrefunds], by simp [hcalls], ?_⟩
  intro id operation _ transaction _
  rw [hrefunds]
  exact ⟨transaction.paidPrice_nonneg, transaction.price_nonneg⟩

/-! ## The result -/

/-- All lines that refunds of a capture reserve on a transaction, whatever their state. -/
def linesOfTransaction (db : Db) (operationId paymentTransactionId : String) : List IyzicoRefundLine :=
  ((db.refunds.rows.filter fun refund => refund.originalOperationId = operationId).flatMap (·.lines)).filter
    fun line => line.paymentTransactionId = paymentTransactionId

/-- The lines on a transaction are the lines on its item. -/
theorem linesOfTransaction_eq {s : State} (hcap : Capacity s) {id : String} {operation : IyzicoOperation}
    (hoperation : s.db.operations.find id = some operation) {transaction : IyzicoItemTransaction}
    (htransaction : transaction ∈ operation.itemTransactions.rows) :
    linesOfTransaction s.db operation.id transaction.paymentTransactionId =
      linesOn (s.db.refunds.rows.filter fun refund => refund.originalOperationId = operation.id) transaction.paymentItemId := by
  unfold linesOfTransaction linesOn
  apply List.filter_congr
  intro line hline
  obtain ⟨refund, hrefund, hmem⟩ := List.mem_flatMap.mp hline
  obtain ⟨hrow, hop⟩ := List.mem_filter.mp hrefund
  obtain ⟨source, hsource, -, hlines⟩ := (hcap.matched refund.id refund (Table.find_of_mem hrow)).source
  rw [of_decide_eq_true hop, Table.key_of_find hoperation, hoperation, Option.some.injEq] at hsource
  subst hsource
  obtain ⟨transaction', hmem', hitem, hid⟩ := hlines line hmem
  rw [← hitem, ← hid, decide_eq_decide]
  constructor
  · intro h
    rw [List.inj_on_of_nodup_map operation.itemTransactions.transactionIds hmem' htransaction h]
  · intro h
    rw [ItemTransactions.eq_of_item hmem' htransaction h]

/-- **Capacity.** In every run, what the refund lines reserve on a transaction of a capture is at most
its `paidPrice` at the provider, and at most its `price` nominally. -/
theorem refunds_within_capacity {config : Config} {s s' : State} {acts : List Act} (hcalls : ∀ c, s.calls c = none)
    (hrefunds : s.db.refunds = Table.empty) (hsubmitted : s.submitted = []) (hrun : run (step config) s acts = some s')
    {id : String} {operation : IyzicoOperation} (hoperation : s'.db.operations.find id = some operation)
    {transaction : IyzicoItemTransaction} (htransaction : transaction ∈ operation.itemTransactions.rows) :
    ((linesOfTransaction s'.db operation.id transaction.paymentTransactionId).map (·.providerAmount.value)).sum ≤
      transaction.paidPrice ∧
    ((linesOfTransaction s'.db operation.id transaction.paymentTransactionId).map (·.nominalAmount.value)).sum ≤
      transaction.price := by
  have hstep : ∀ v act v', (Inv v ∧ Capacity v) → step config v act = some v' → Inv v' ∧ Capacity v' :=
    fun v act v' ⟨hinv, hcap⟩ h => ⟨step_inv hinv h, step_capacity hinv hcap h⟩
  obtain ⟨-, hcap⟩ := run_invariant hstep ⟨inv_init hcalls hrefunds hsubmitted, capacity_init hcalls hrefunds⟩ hrun
  rw [linesOfTransaction_eq hcap hoperation htransaction]
  obtain ⟨hprovider, hnominal⟩ := hcap.fits id operation hoperation transaction htransaction
  exact ⟨(sum_linesOn (·.providerAmount.value) _ _ _).trans_le hprovider,
    (sum_linesOn (·.nominalAmount.value) _ _ _).trans_le hnominal⟩

theorem refunds_within_capacity_sample :
    ∃ t, run (step sampleConfig) sampleState sampleActs = some t ∧
      ((linesOfTransaction t.db "source" "txn-a").map (·.providerAmount.value)).sum = 3.33 ∧
      ((linesOfTransaction t.db "source" "txn-a").map (·.providerAmount.value)).sum ≤ 10 ∧
      ((linesOfTransaction t.db "source" "txn-a").map (·.nominalAmount.value)).sum ≤ 10 := by
  obtain ⟨t, ht, operation, hoperation, hid, transaction, htransaction, htxn, hprice, hpaid, hsum⟩ :
      ∃ t ∈ run (step sampleConfig) sampleState sampleActs, ∃ operation ∈ t.db.operations.find "source",
        operation.id = "source" ∧ ∃ transaction ∈ operation.itemTransactions.rows,
          transaction.paymentTransactionId = "txn-a" ∧ transaction.price = 10 ∧ transaction.paidPrice = 10 ∧
          ((linesOfTransaction t.db "source" "txn-a").map (·.providerAmount.value)).sum = 3.33 := by
    decide +kernel
  have hall := refunds_within_capacity (fun _ => rfl) rfl rfl ht hoperation htransaction
  rw [hid, htxn, hprice, hpaid] at hall
  exact ⟨t, ht, hsum, hall⟩

end Postral.Iyzico
