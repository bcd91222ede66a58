import Postral.Lib.Run
import Postral.Operations.Record

/-!
# Refund settlements

A channel reports the settled lines of a refund, in any order and any number of times. Each line
posts its rounding once.
-/

open Check Run

namespace Postral.Operations

/-! ## What is posted -/

/-- Positive for a credit. -/
def signedAmount (entry : AccountPaymentTransaction) : ℤ :=
  if entry.type = .credit then entry.amount else -entry.amount

/-- The balanced pair of a line with a difference, and nothing for a line without. -/
def LinePosting (plan : RefundChannelPlan) (operationId : String) (line : RefundChannelLine)
    (entries : List AccountPaymentTransaction) : Prop :=
  if RefundChannelLine.difference line = 0 then entries = []
  else ∃ customer platform, entries = [customer, platform] ∧
    signedAmount customer = RefundChannelLine.difference line ∧
    signedAmount platform = -RefundChannelLine.difference line ∧
    customer.type ≠ platform.type ∧ customer.amount = platform.amount ∧ 0 < customer.amount ∧
    customer.corelationId = platform.corelationId ∧ some platform.accountId = plan.roundingAccountId ∧
    some customer.accountId ≠ plan.roundingAccountId ∧
    customer.roundingOperationId = some operationId ∧ platform.roundingOperationId = some operationId

/-- `entries` are the postings of the lines `ids`, one after the other. -/
def Posted (plan : RefundChannelPlan) (operationId : String) (ids : List String)
    (entries : List AccountPaymentTransaction) : Prop :=
  ∃ groups, entries = groups.flatten ∧
    List.Forall₂ (fun id group => ∃ line ∈ plan.lines, line.originalPaymentItemId = id ∧
      LinePosting plan operationId line group) ids groups

theorem posted_nil (plan : RefundChannelPlan) (operationId : String) : Posted plan operationId [] [] :=
  ⟨[], rfl, .nil⟩

theorem posted_append {plan : RefundChannelPlan} {operationId : String} {ids ids' : List String}
    {entries entries' : List AccountPaymentTransaction} (h : Posted plan operationId ids entries)
    (h' : Posted plan operationId ids' entries') : Posted plan operationId (ids ++ ids') (entries ++ entries') := by
  obtain ⟨groups, rfl, hgroups⟩ := h
  obtain ⟨groups', rfl, hgroups'⟩ := h'
  exact ⟨groups ++ groups', by simp, List.rel_append hgroups hgroups'⟩

theorem posted_one {plan : RefundChannelPlan} {operationId : String} {line : RefundChannelLine}
    {entries : List AccountPaymentTransaction} (hline : line ∈ plan.lines)
    (h : LinePosting plan operationId line entries) : Posted plan operationId [line.originalPaymentItemId] entries :=
  ⟨[entries], by simp, .cons ⟨line, hline, rfl, h⟩ .nil⟩

theorem posted_planned {plan : RefundChannelPlan} {operationId : String} {ids : List String}
    {entries : List AccountPaymentTransaction} (h : Posted plan operationId ids entries) {id : String}
    (hid : id ∈ ids) : ∃ line ∈ plan.lines, line.originalPaymentItemId = id := by
  obtain ⟨groups, -, hgroups⟩ := h
  obtain ⟨group, -, line, hline, heq, -⟩ := forall₂_mem_right hgroups.flip hid
  exact ⟨line, hline, heq⟩

theorem posted_operation {plan : RefundChannelPlan} {operationId : String} {ids : List String}
    {entries : List AccountPaymentTransaction} (h : Posted plan operationId ids entries)
    {entry : AccountPaymentTransaction} (hentry : entry ∈ entries) : entry.roundingOperationId = some operationId := by
  obtain ⟨groups, rfl, hgroups⟩ := h
  obtain ⟨group, hgroup, hmem⟩ := List.mem_flatten.mp hentry
  obtain ⟨id, -, line, -, -, hposting⟩ := forall₂_mem_right hgroups hgroup
  unfold LinePosting at hposting
  split at hposting
  · simp [hposting] at hmem
  · obtain ⟨customer, platform, rfl, -, -, -, -, -, -, -, -, hop, hop'⟩ := hposting
    rcases List.mem_pair.mp hmem with rfl | rfl
    · exact hop
    · exact hop'

/-! ## Net rounding -/

/-- Net rounding on the customer's side, or on the platform's. -/
def netRounding (plan : RefundChannelPlan) (isCustomer : Bool) (entries : List AccountPaymentTransaction) : ℤ :=
  ((entries.filter fun entry => decide (some entry.accountId ≠ plan.roundingAccountId) = isCustomer).map
    signedAmount).sum

/-- Provider minus nominal over the settled lines. -/
def settledDifference (plan : RefundChannelPlan) (settled : List String) : ℤ :=
  ((plan.lines.filter fun line => line.originalPaymentItemId ∈ settled).map RefundChannelLine.difference).sum

theorem netRounding_append (plan : RefundChannelPlan) (isCustomer : Bool)
    (entries entries' : List AccountPaymentTransaction) :
    netRounding plan isCustomer (entries ++ entries') =
      netRounding plan isCustomer entries + netRounding plan isCustomer entries' := by
  simp [netRounding]

theorem line_posting_net {plan : RefundChannelPlan} {operationId : String} {line : RefundChannelLine}
    {entries : List AccountPaymentTransaction} (h : LinePosting plan operationId line entries) :
    netRounding plan true entries = RefundChannelLine.difference line ∧
    netRounding plan false entries = -RefundChannelLine.difference line := by
  unfold LinePosting at h
  split at h <;> rename_i hdiff
  · simp [h, hdiff, netRounding]
  · obtain ⟨customer, platform, rfl, hcustomer, hplatform, -, -, -, -, hrounding, hcounter, -⟩ := h
    simp [netRounding, hrounding, hcounter, hcustomer, hplatform]

/-- The lines behind a posting, and what they add up to. -/
theorem posted_net {plan : RefundChannelPlan} {operationId : String} {ids : List String}
    {entries : List AccountPaymentTransaction} (h : Posted plan operationId ids entries) :
    ∃ lines : List RefundChannelLine, (∀ line ∈ lines, line ∈ plan.lines) ∧ lines.map (·.originalPaymentItemId) = ids ∧
      netRounding plan true entries = (lines.map RefundChannelLine.difference).sum ∧
      netRounding plan false entries = -(lines.map RefundChannelLine.difference).sum := by
  obtain ⟨groups, rfl, hgroups⟩ := h
  induction hgroups with
  | nil => exact ⟨[], by simp [netRounding]⟩
  | cons hgroup _ ih =>
    obtain ⟨line, hline, rfl, hposting⟩ := hgroup
    obtain ⟨lines, hlines, rfl, htrue, hfalse⟩ := ih
    obtain ⟨htrue', hfalse'⟩ := line_posting_net hposting
    refine ⟨line :: lines, ?_, rfl, ?_, ?_⟩
    · simpa using ⟨hline, hlines⟩
    · rw [List.flatten_cons, netRounding_append, htrue', htrue, List.map_cons, List.sum_cons]
    · rw [List.flatten_cons, netRounding_append, hfalse', hfalse, List.map_cons, List.sum_cons, neg_add]

theorem netRounding_eq_settledDifference {plan : RefundChannelPlan} {operationId : String} {settled : List String}
    {entries : List AccountPaymentTransaction} (hplan : (plan.lines.map (·.originalPaymentItemId)).Nodup)
    (hsettled : settled.Nodup) (h : Posted plan operationId settled entries) :
    netRounding plan true entries = settledDifference plan settled ∧
    netRounding plan false entries = -settledDifference plan settled := by
  obtain ⟨lines, hlines, rfl, htrue, hfalse⟩ := posted_net h
  have hperm : lines.Perm (plan.lines.filter fun line =>
      line.originalPaymentItemId ∈ lines.map (·.originalPaymentItemId)) := by
    rw [List.perm_ext_iff_of_nodup hsettled.of_map (hplan.of_map.filter _)]
    intro line
    rw [List.mem_filter, decide_eq_true_eq]
    constructor
    · exact fun hline => ⟨hlines line hline, List.mem_map_of_mem hline⟩
    · rintro ⟨hline, hmem⟩
      obtain ⟨other, hother, heq⟩ := List.mem_map.mp hmem
      rw [← List.inj_on_of_nodup_map hplan (hlines other hother) hline heq]
      exact hother
  have hsum := (hperm.map RefundChannelLine.difference).sum_eq
  rw [htrue, hfalse, settledDifference, hsum]
  exact ⟨rfl, rfl⟩

/-! ## One result -/

theorem rounding_entry_spec {env : Env} {operation : PaymentChannelOperation} {line : RefundChannelLine}
    {accountId : String} {isCustomer : Bool} {entry : AccountPaymentTransaction}
    (h : roundingEntry env operation line accountId isCustomer = .ok entry) :
    entry.corelationId = env.corelationId line.originalPaymentItemId ∧ entry.accountId = accountId ∧
    entry.roundingOperationId = some operation.id ∧ entry.amount = |RefundChannelLine.difference line| ∧
    entry.type = if decide (0 < RefundChannelLine.difference line) = isCustomer then .credit else .debit := by
  unfold roundingEntry at h
  simp only [bind_eq_ok, pure_eq_ok] at h
  obtain ⟨name, -, rfl⟩ := h
  exact ⟨rfl, rfl, rfl, rfl, rfl⟩

theorem rounding_entries_spec {env : Env} {operation : PaymentChannelOperation} {plan : RefundChannelPlan}
    {line : RefundChannelLine} {entries : List AccountPaymentTransaction}
    (h : roundingEntries env operation plan line = .ok entries) : LinePosting plan operation.id line entries := by
  unfold roundingEntries at h
  unfold LinePosting
  split at h <;> rename_i hdiff
  · rw [if_pos hdiff]
    exact (pure_eq_ok.mp h).symm
  · rw [if_neg hdiff]
    simp only [bind_eq_ok, require_eq_ok, orThrow_eq_ok, pure_eq_ok] at h
    obtain ⟨-, haccount, customerId, -, -, hcounter, customer, hcustomer, platform, hplatform, rfl⟩ := h
    obtain ⟨hcor, hacc, hop, hamount, htype⟩ := rounding_entry_spec hcustomer
    obtain ⟨hcor', hacc', hop', hamount', htype'⟩ := rounding_entry_spec hplatform
    obtain ⟨rounding, hrounding⟩ : ∃ rounding, plan.roundingAccountId = some rounding := by
      cases hr : plan.roundingAccountId with
      | none => simp [hr, truthy] at haccount
      | some rounding => exact ⟨rounding, rfl⟩
    obtain ⟨customer', hcustomerId⟩ : ∃ customer', customerId = some customer' := by
      cases customerId with
      | none => simp [truthy] at hcounter
      | some customer' => exact ⟨customer', rfl⟩
    simp only [hrounding, hcustomerId, Option.getD_some] at hacc hacc' hcounter
    refine ⟨customer, platform, rfl, ?_, ?_, ?_, hamount.trans hamount'.symm, ?_, hcor.trans hcor'.symm, ?_, ?_,
      hop, hop'⟩
    · rcases lt_or_gt_of_ne hdiff with hneg | hpos
      · simp [signedAmount, htype, hamount, hneg.not_gt, abs_of_neg hneg]
      · simp [signedAmount, htype, hamount, hpos, abs_of_pos hpos]
    · rcases lt_or_gt_of_ne hdiff with hneg | hpos
      · simp [signedAmount, htype', hamount', hneg.not_gt, abs_of_neg hneg]
      · simp [signedAmount, htype', hamount', hpos, abs_of_pos hpos]
    · rcases lt_or_gt_of_ne hdiff with hneg | hpos
      · simp [htype, htype', hneg.not_gt]
      · simp [htype, htype', hpos]
    · rw [hamount]
      exact abs_pos.mpr hdiff
    · rw [hacc', hrounding]
    · rw [hacc, hrounding]
      exact hcounter.2

/-- One settlement either repeats a settled line or settles a new one. -/
theorem settle_line_spec {env : Env} {operation : PaymentChannelOperation} {plan : RefundChannelPlan}
    {acc acc' : List String × List AccountPaymentTransaction} {settlement : SettledLine}
    (h : settleLine env operation plan acc settlement = .ok acc') :
    ∃ line ∈ plan.lines, line.originalPaymentItemId = settlement.originalPaymentItemId ∧
      ((settlement.originalPaymentItemId ∈ acc.1 ∧ acc' = acc) ∨
       (settlement.originalPaymentItemId ∉ acc.1 ∧ ∃ entries, LinePosting plan operation.id line entries ∧
          acc' = (acc.1 ++ [settlement.originalPaymentItemId], acc.2 ++ entries))) := by
  unfold settleLine at h
  simp only [bind_eq_ok, orThrow_eq_ok, require_eq_ok] at h
  obtain ⟨line, hline, -, -, h⟩ := h
  have hid : line.originalPaymentItemId = settlement.originalPaymentItemId := by
    simpa using List.find?_some hline
  refine ⟨line, List.mem_of_find?_eq_some hline, hid, ?_⟩
  rw [hid] at h
  split at h <;> rename_i hmem
  · exact .inl ⟨hmem, (pure_eq_ok.mp h).symm⟩
  · simp only [bind_eq_ok, pure_eq_ok] at h
    obtain ⟨entries, hentries, rfl⟩ := h
    exact .inr ⟨hmem, entries, rounding_entries_spec hentries, rfl⟩

/-- What the loop adds to the settled lines and to the ledger. -/
theorem settle_lines_spec {env : Env} {operation : PaymentChannelOperation} {plan : RefundChannelPlan}
    {settlements : List SettledLine} {acc acc' : List String × List AccountPaymentTransaction}
    (h : settlements.foldlM (settleLine env operation plan) acc = .ok acc') (hnodup : acc.1.Nodup) :
    ∃ new entries, acc' = (acc.1 ++ new, acc.2 ++ entries) ∧ (acc.1 ++ new).Nodup ∧
      Posted plan operation.id new entries ∧
      (∀ id ∈ new, id ∈ settlements.map (·.originalPaymentItemId)) ∧
      ∀ id ∈ settlements.map (·.originalPaymentItemId),
        id ∈ acc.1 ++ new ∧ id ∈ plan.lines.map (·.originalPaymentItemId) := by
  refine foldlM_invariant (P := fun done acc' => ∃ new entries, acc' = (acc.1 ++ new, acc.2 ++ entries) ∧
    (acc.1 ++ new).Nodup ∧ Posted plan operation.id new entries ∧
    (∀ id ∈ new, id ∈ done.map (·.originalPaymentItemId)) ∧
    ∀ id ∈ done.map (·.originalPaymentItemId),
      id ∈ acc.1 ++ new ∧ id ∈ plan.lines.map (·.originalPaymentItemId)) ?_ ?_ h
  · exact ⟨[], [], by simp, by simpa using hnodup, posted_nil _ _, by simp, by simp⟩
  rintro done _ settlement acc' ⟨new, entries, rfl, hnew, hpost, hsub, hall⟩ hacc'
  obtain ⟨line, hline, hid, hcase⟩ := settle_line_spec hacc'
  have hplanned : settlement.originalPaymentItemId ∈ plan.lines.map (·.originalPaymentItemId) := by
    rw [← hid]
    exact List.mem_map_of_mem hline
  rcases hcase with ⟨hmem, rfl⟩ | ⟨hmem, posted, hposted, rfl⟩
  · -- A repeated line changes nothing.
    refine ⟨new, entries, rfl, hnew, hpost, ?_, ?_⟩
    · intro id hid
      simp [hsub id hid]
    · intro id hid
      rw [List.map_append, List.mem_append] at hid
      rcases hid with hid | hid
      · exact hall id hid
      · obtain rfl := List.mem_singleton.mp hid
        exact ⟨hmem, hplanned⟩
  · refine ⟨new ++ [settlement.originalPaymentItemId], entries ++ posted, by simp, ?_,
      posted_append hpost (hid ▸ posted_one hline hposted), ?_, ?_⟩
    · rw [← List.append_assoc, List.nodup_append_comm]
      simpa using ⟨by simpa using hmem, hnew⟩
    · intro id hid
      rw [List.mem_append] at hid
      rw [List.map_append, List.mem_append]
      exact hid.imp_left (hsub id)
    · intro id hid
      rw [List.map_append, List.mem_append] at hid
      rw [← List.append_assoc, List.mem_append]
      rcases hid with hid | hid
      · exact ⟨Or.inl (hall id hid).1, (hall id hid).2⟩
      · obtain rfl := List.mem_singleton.mp hid
        exact ⟨Or.inr hid, hplanned⟩

theorem read_result_spec {operation : PaymentChannelOperation} {plan : RefundChannelPlan}
    {result : PaymentChannelStatusDTO} {paymentId : String} {valid : ValidResult}
    (h : readResult operation plan result paymentId = .ok valid) :
    (valid.settlements.map (·.originalPaymentItemId)).Nodup ∧
    (valid.status = .completed → valid.settlements.length = plan.lines.length) ∧
    (valid.status = .failed → valid.settlements = []) := by
  unfold readResult at h
  simp only [bind_eq_ok, orThrow_eq_ok, require_eq_ok, pure_eq_ok] at h
  obtain ⟨raw, -, settlements, -, -, -, -, -, -, -, -, -, status, -, -, hnodup, -, -, -, hcompleted, -, hfailed, rfl⟩ := h
  exact ⟨hnodup, hcompleted, hfailed⟩

/-- What an accepted result does to its operation: it settles `new` and posts `entries`. -/
structure Settles (operation : PaymentChannelOperation) (plan : RefundChannelPlan) (status : PaymentOperationStatus)
    (new : List String) (entries : List AccountPaymentTransaction) : Prop where
  posted : Posted plan operation.id new entries
  nodup : (settledIds operation ++ new).Nodup
  planned : ∀ id ∈ settledIds operation ++ new, id ∈ plan.lines.map (·.originalPaymentItemId)
  keeps : operation.status = .completed → status = .completed
  completed : (plan.lines.map (·.originalPaymentItemId)).Nodup → status = .completed →
    ∀ id ∈ plan.lines.map (·.originalPaymentItemId), id ∈ settledIds operation ++ new
  failed : status = .failed → settledIds operation ++ new = []

theorem save_refund_settlement_record_spec {env : Env} {db db' : Db} {recordId paymentId : String}
    {result : PaymentChannelStatusDTO}
    (h : saveRefundSettlementRecord env db recordId result paymentId = .ok db') :
    ∃ operation plan operation' new entries, db.operations.find recordId = some operation ∧
      operation.refundPlan = some plan ∧
      db' = ⟨db.operations.save operation', db.transactions ++ entries⟩ ∧
      operation'.id = operation.id ∧ operation'.refundPlan = some plan ∧
      operation'.settledRefundItemIds = some (settledIds operation ++ new) ∧
      Settles operation plan operation'.status new entries := by
  unfold saveRefundSettlementRecord at h
  simp only [bind_eq_ok, orThrow_eq_ok, require_eq_ok, pure_eq_ok] at h
  obtain ⟨operation, hfind, plan, hplan, valid, hvalid, -, hkeeps, -, hlost, acc, hacc, rfl⟩ := h
  obtain ⟨hnodup, hcompleted, hfailed⟩ := read_result_spec hvalid
  obtain ⟨new, entries, rfl, hnew, hposted, hsub, hall⟩ := settle_lines_spec hacc (uniqueValues_nodup _)
  have hreported : ∀ id ∈ settledIds operation ++ new, id ∈ valid.settlements.map (·.originalPaymentItemId) := by
    intro id hid
    exact (List.mem_append.mp hid).elim (hlost id) (hsub id)
  refine ⟨operation, plan, _, new, entries, hfind, hplan, rfl, rfl, hplan, rfl, hposted, hnew, ?_, hkeeps, ?_, ?_⟩
  · exact fun id hid => (hall id (hreported id hid)).2
  · -- As many different lines as the plan has, all of them planned.
    intro hlines hstatus id hid
    have hlen : (plan.lines.map (·.originalPaymentItemId)).length ≤
        (valid.settlements.map (·.originalPaymentItemId)).length := by
      simp only [List.length_map, hcompleted hstatus, le_refl]
    have hperm := (List.subperm_of_subset hnodup fun id hid => (hall id hid).2).perm_of_length_le hlen
    exact (hall id (hperm.mem_iff.mpr hid)).1
  · intro hstatus
    rw [List.eq_nil_iff_forall_not_mem]
    intro id hid
    simpa [hfailed hstatus] using hreported id hid

/-! ## Any sequence of results -/

/-- A result for the operation `recordId`, and what the transaction meets in the other tables. -/
structure Delivery where
  env : Env
  recordId : String
  result : PaymentChannelStatusDTO
  paymentId : String

/-- A rejected result rolls the transaction back. -/
def deliver (db : Db) (d : Delivery) : Option Db :=
  match saveRefundSettlementRecord d.env db d.recordId d.result d.paymentId with
  | .ok db' => some db'
  | .error _ => some db

/-- The rounding entries of the operation. -/
def roundingOf (operationId : String) (db : Db) : List AccountPaymentTransaction :=
  db.transactions.filter fun entry => entry.roundingOperationId = some operationId

/-- Every settled line is planned and posted. -/
structure Accounted (plan : RefundChannelPlan) (db : Db) (operation : PaymentChannelOperation) : Prop where
  found : db.operations.find operation.id = some operation
  refundPlan : operation.refundPlan = some plan
  nodup : (settledIds operation).Nodup
  posted : Posted plan operation.id (settledIds operation) (roundingOf operation.id db)
  completed : operation.status = .completed →
    ∀ id ∈ plan.lines.map (·.originalPaymentItemId), id ∈ settledIds operation
  failed : operation.status = .failed → settledIds operation = []

/-- What one more result did to an operation and to its rounding entries. -/
structure Delivered (plan : RefundChannelPlan) (d : Delivery) (db db' : Db)
    (operation operation' : PaymentChannelOperation) (new : List String)
    (entries : List AccountPaymentTransaction) : Prop where
  settled : settledIds operation' = settledIds operation ++ new
  rounding : roundingOf operation.id db' = roundingOf operation.id db ++ entries
  posted : Posted plan operation.id new entries
  /-- A result for the operation writes no other entry, a result for another operation none of these. -/
  transactions : if d.recordId = operation.id then db'.transactions = db.transactions ++ entries
    else operation' = operation ∧ entries = []
  keeps : operation.status = .completed → operation'.status = .completed
  failed : operation'.status = .failed → settledIds operation = []

/-- **One result.** -/
theorem deliver_spec {plan : RefundChannelPlan} {db : Db} {operation : PaymentChannelOperation}
    (hplan : (plan.lines.map (·.originalPaymentItemId)).Nodup) (h : Accounted plan db operation) {d : Delivery}
    {db' : Db} (hstep : deliver db d = some db') :
    ∃ operation' new entries, operation'.id = operation.id ∧ Accounted plan db' operation' ∧
      Delivered plan d db db' operation operation' new entries := by
  unfold deliver at hstep
  split at hstep <;> rename_i hsave <;> obtain rfl := Option.some.inj hstep
  · obtain ⟨found, plan', operation', new, entries, hfind, hplan', rfl, hid, hplan'', hsettled', hsettles⟩ :=
      save_refund_settlement_record_spec hsave
    have hrecord := Table.key_of_find hfind
    by_cases hown : d.recordId = operation.id
    · -- The result is for this operation.
      obtain rfl : operation = found := by simpa [← hown, hfind] using h.found.symm
      obtain rfl : plan = plan' := by simpa [hplan'] using h.refundPlan.symm
      have hsettled : settledIds operation' = settledIds operation ++ new := by
        rw [settledIds, hsettled', Option.getD_some, uniqueValues_of_nodup hsettles.nodup]
      have hrounding : roundingOf operation.id ⟨db.operations.save operation', db.transactions ++ entries⟩ =
          roundingOf operation.id db ++ entries := by
        simp only [roundingOf, List.filter_append, List.append_cancel_left_eq, List.filter_eq_self]
        exact fun entry hentry => by simpa using posted_operation hsettles.posted hentry
      refine ⟨operation', new, entries, hid, ⟨Table.find_save_self _ _, hplan'', ?_, ?_, ?_, ?_⟩,
        hsettled, hrounding, hsettles.posted, ?_, hsettles.keeps, ?_⟩
      · rw [hsettled]
        exact hsettles.nodup
      · rw [hsettled, hid, hrounding]
        exact posted_append h.posted hsettles.posted
      · rw [hsettled]
        exact hsettles.completed hplan
      · rw [hsettled]
        exact hsettles.failed
      · rw [if_pos hown]
      · exact fun hfailed => (List.append_eq_nil_iff.mp (hsettles.failed hfailed)).1
    · have hne : operation.id ≠ operation'.id := by
        rw [hid, hrecord]
        exact fun heq => hown heq.symm
      have hrounding : roundingOf operation.id ⟨db.operations.save operation', db.transactions ++ entries⟩ =
          roundingOf operation.id db := by
        simp only [roundingOf, List.filter_append, List.append_right_eq_self, List.filter_eq_nil_iff]
        intro entry hentry
        rw [posted_operation hsettles.posted hentry, ← hid]
        simpa using hne.symm
      refine ⟨operation, [], [], rfl, ⟨?_, h.refundPlan, h.nodup, ?_, h.completed, h.failed⟩,
        (List.append_nil _).symm, by simpa using hrounding, posted_nil _ _, ?_, id, h.failed⟩
      · exact (Table.find_save_of_ne hne).trans h.found
      · rw [hrounding]
        exact h.posted
      · rw [if_neg hown]
        exact ⟨rfl, rfl⟩
  · exact ⟨operation, [], [], rfl, h, (List.append_nil _).symm, (List.append_nil _).symm, posted_nil _ _,
      by split <;> simp, id, h.failed⟩

theorem run_accounted {plan : RefundChannelPlan} {db db' : Db} {operation : PaymentChannelOperation}
    {ds : List Delivery} (hplan : (plan.lines.map (·.originalPaymentItemId)).Nodup)
    (h : Accounted plan db operation) (hrun : run deliver db ds = some db') :
    ∃ operation', operation'.id = operation.id ∧ Accounted plan db' operation' := by
  have hstep : ∀ db d db', (∃ operation', operation'.id = operation.id ∧ Accounted plan db operation') →
      deliver db d = some db' → ∃ operation', operation'.id = operation.id ∧ Accounted plan db' operation' := by
    rintro db d db' ⟨operation', hid, h⟩ hstep
    obtain ⟨operation'', _, _, hid', h', -⟩ := deliver_spec hplan h hstep
    exact ⟨operation'', hid'.trans hid, h'⟩
  exact run_invariant hstep ⟨operation, rfl, h⟩ hrun

/-- **Refund settlement.** After any results, rejected ones included, the ledger holds one balanced
pair for every settled line with a difference, the net rounding is the settled difference, and
whatever result comes next adds settled lines with their postings and takes none back. -/
theorem refund_settlement {plan : RefundChannelPlan} {db db' : Db} {operation : PaymentChannelOperation}
    {ds : List Delivery} (hplan : operation.refundPlan = some plan)
    (hlines : (plan.lines.map (·.originalPaymentItemId)).Nodup)
    (hfind : db.operations.find operation.id = some operation) (hstatus : operation.status = .waiting)
    (hsettled : operation.settledRefundItemIds = none) (hrounding : roundingOf operation.id db = [])
    (hrun : run deliver db ds = some db') :
    ∃ operation', operation'.id = operation.id ∧ Accounted plan db' operation' ∧
      netRounding plan true (roundingOf operation.id db') = settledDifference plan (settledIds operation') ∧
      netRounding plan false (roundingOf operation.id db') = -settledDifference plan (settledIds operation') ∧
      ∀ d, ∃ db'' operation'' new entries, deliver db' d = some db'' ∧ operation''.id = operation.id ∧
        Accounted plan db'' operation'' ∧ Delivered plan d db' db'' operation' operation'' new entries ∧
        ∀ e, saveRefundSettlementRecord d.env db' d.recordId d.result d.paymentId = .error e → db'' = db' := by
  have hids : settledIds operation = [] := by rw [settledIds, hsettled]; rfl
  have hstart : Accounted plan db operation := by
    refine ⟨hfind, hplan, ?_, ?_, ?_, ?_⟩
    · simp [hids]
    · rw [hids, hrounding]
      exact posted_nil _ _
    · simp [hstatus]
    · simp [hstatus]
  obtain ⟨operation', hid, h'⟩ := run_accounted hlines hstart hrun
  obtain ⟨hcustomer, hplatform⟩ := netRounding_eq_settledDifference hlines h'.nodup h'.posted
  rw [hid] at hcustomer hplatform
  refine ⟨operation', hid, h', hcustomer, hplatform, fun d => ?_⟩
  obtain ⟨db'', hstep⟩ : ∃ db'', deliver db' d = some db'' := by
    unfold deliver
    split
    · exact ⟨_, rfl⟩
    · exact ⟨_, rfl⟩
  obtain ⟨operation'', new, entries, hid', h'', hdelivered⟩ := deliver_spec hlines h' hstep
  refine ⟨db'', operation'', new, entries, hstep, hid'.trans hid, h'', hdelivered, fun e he => ?_⟩
  simpa [deliver, he] using hstep.symm

/-! ## A run -/

/-- The provider pays 1.01 for the first line and the exact amount for the second. -/
def samplePlan : RefundChannelPlan where
  originalOperationId := "capture"
  originalChannelOperationId := "channel-capture"
  roundingAccountId := some "platform"
  lines := [⟨"item-1", ⟨"1.00", by decide +kernel⟩, ⟨"1.01", by decide +kernel⟩⟩,
    ⟨"item-2", ⟨"2", by decide +kernel⟩, ⟨"2", by decide +kernel⟩⟩]

def sampleOperation : PaymentChannelOperation where
  id := "refund"
  paymentChannelId := "channel"
  amount := 30000
  operationType := .refund
  currency := "TRY"
  paymentId := "payment"
  refundPlan := some samplePlan

def sampleDb : Db where
  operations := Table.empty.save sampleOperation
  transactions := []

def sampleDelivery (status : PaymentOperationStatus) (settlements : List (Option RefundSettlement)) : Delivery where
  env := {
    sellerPaysPaymentServiceFee := false
    customerAccountId := fun _ => some (some "customer")
    accountName := some
    corelationId := id }
  recordId := "refund"
  result := {
    paymentChannelId := some "channel"
    paymentChannelOperationId := some "channel-refund"
    paymentStatus := some status
    refundSettlements := some settlements }
  paymentId := "payment"

/-- A first line, a malformed result, and all lines twice. -/
def sampleDeliveries : List Delivery :=
  let first := some ⟨some "item-1", some "1.01"⟩
  let second := some ⟨some "item-2", some "2"⟩
  [sampleDelivery .waiting [first], sampleDelivery .failed [none], sampleDelivery .completed [second, first],
    sampleDelivery .completed [first, second]]

theorem refund_settlement_sample :
    ∃ db' operation', run deliver sampleDb sampleDeliveries = some db' ∧ Accounted samplePlan db' operation' ∧
      (roundingOf "refund" db').length = 2 ∧
      netRounding samplePlan true (roundingOf "refund" db') =
        settledDifference samplePlan (settledIds operation') := by
  have hlength : ∃ db', run deliver sampleDb sampleDeliveries = some db' ∧
      (roundingOf "refund" db').length = 2 := by
    refine ⟨(run deliver sampleDb sampleDeliveries).get (by decide +kernel), by simp, by decide +kernel⟩
  obtain ⟨db', hrun, hlength⟩ := hlength
  have hplan : sampleOperation.refundPlan = some samplePlan := rfl
  obtain ⟨operation', -, h, hnet, -⟩ := refund_settlement hplan (by decide) (by decide) rfl rfl (by decide) hrun
  exact ⟨db', operation', hrun, h, hlength, hnet⟩

end Postral.Operations
