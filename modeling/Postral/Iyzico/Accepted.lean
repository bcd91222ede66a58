import Postral.Iyzico.Settlement
import Postral.Refund.Channels

/-!
# What the core makes of the results

Every result fits what the core has stored, as long as no settled line is taken back.
-/

open Check Run

namespace Postral.Iyzico

variable {operation : RefundOperation} {core core' : Operations.Db} {refund : IyzicoRefund} {row : PaymentChannelOperation}
  {env : Operations.Env}

/-- The operation as the core keeps it. -/
structure Row (operation : RefundOperation) (core : Operations.Db) (row : PaymentChannelOperation) : Prop where
  found : core.operations.find operation.id = some row
  refundPlan : row.refundPlan = some operation.plan
  operationType : row.operationType = .refund
  paymentChannelId : row.paymentChannelId = "iyzico"
  paymentId : row.paymentId = operation.paymentId
  operationId : ∀ id, row.operationId = some id → id = operation.id
  amount : addNumberValues (operation.plan.lines.map (·.nominalAmount.value)) = row.amount

/-- The reservation of a refund stores such an operation. -/
theorem reserved_row {payments : Table Payment.id} {operations operations' : Table PaymentChannelOperation.id}
    {job : Refund.Channels.Job} {allocations : List Refund.Channels.Allocation} {allocation : Refund.Channels.Allocation}
    {id : String} {plan : RefundChannelPlan} {transactions : List AccountPaymentTransaction}
    (h : Refund.Channels.reserve payments operations job allocation id = .ok (some (operations', row)))
    (hvalid : Refund.Channels.validateRefundPlanAllocations job.plans allocations = .ok ())
    (hallocation : (allocations.find? fun other => other.1.id = allocation.1.id) = some allocation)
    (hchannel : allocation.1.paymentChannelId = "iyzico") (hplan : row.refundPlan = some plan) (hid : row.id ≠ "") :
    Row ⟨plan, row.id, hid, row.paymentId⟩ ⟨operations', transactions⟩ row ∧ row.status = .waiting ∧
      row.settledRefundItemIds = none := by
  simp only [Refund.Channels.reserve, bind_eq_ok] at h
  obtain ⟨_, -, h⟩ := h
  split at h
  · simp at h
  · simp only [bind_eq_ok, pure_eq_ok, Refund.insert, require_eq_ok, Option.some.injEq, Prod.mk.injEq] at h
    obtain ⟨_, ⟨_, hfresh, rfl⟩, rfl, rfl⟩ := h
    refine ⟨⟨Table.find_save_self _ _, hplan, rfl, hchannel, rfl, by simp, ?_⟩, rfl, rfl⟩
    obtain ⟨-, hmatches⟩ := require_eq_ok.mp hvalid
    have hmem := List.mem_of_find?_eq_some hplan
    obtain ⟨other, hother, -, hsum⟩ := hmatches plan hmem
    have hcapture : plan.originalOperationId = allocation.1.id := by simpa using List.find?_some hplan
    rw [hcapture, hallocation, Option.mem_some_iff] at hother
    rw [hsum, hother]

/-- The items that a result counts. -/
def succeededItems (refund : IyzicoRefund) : List String :=
  (refund.lines.filter (·.state = .succeeded)).map (·.originalPaymentItemId)

theorem mem_succeededItems {item : String} :
    item ∈ succeededItems refund ↔ ∃ line ∈ refund.lines, line.state = .succeeded ∧ line.originalPaymentItemId = item := by
  simp [succeededItems, and_assoc]

def settlementsOf (refund : IyzicoRefund) : List Operations.SettledLine :=
  (refund.lines.filter (·.state = .succeeded)).map fun line => ⟨line.originalPaymentItemId, line.providerAmount.text⟩

theorem settlementsOf_items (refund : IyzicoRefund) :
    (settlementsOf refund).map (·.originalPaymentItemId) = succeededItems refund := by
  simp [settlementsOf, succeededItems, Function.comp_def]

/-! ## The lines of the plan -/

theorem planned_items (refund : IyzicoRefund) :
    refund.planned.map (·.originalPaymentItemId) = refund.lines.map (·.originalPaymentItemId) := by
  simp [IyzicoRefund.planned, Function.comp_def]

theorem OfPlan.items_perm {plan : RefundChannelPlan} (h : OfPlan plan refund.planned) :
    (refund.lines.map (·.originalPaymentItemId)).Perm (plan.lines.map (·.originalPaymentItemId)) := by
  have hperm := h.keys.map Prod.fst
  rw [List.map_map, List.map_map] at hperm
  rw [← planned_items]
  exact hperm

/-- The core finds the line of its plan. -/
theorem OfPlan.find_line {plan : RefundChannelPlan} (h : OfPlan plan refund.planned) {line : IyzicoRefundLine}
    (hline : line ∈ refund.lines) :
    ∃ planned ∈ plan.lines, (plan.lines.find? fun candidate =>
        candidate.originalPaymentItemId = line.originalPaymentItemId) = some planned ∧
      line.providerAmount.text = planned.providerAmount.text := by
  have hkey : channelKey line.toRefundChannelLine ∈ plan.lines.map coreKey :=
    h.keys.mem_iff.mp (List.mem_map_of_mem (List.mem_map_of_mem hline))
  obtain ⟨planned, hplanned, hkey⟩ := List.mem_map.mp hkey
  obtain ⟨hitem, htext⟩ := Prod.mk.inj hkey
  have hnodup : (plan.lines.map (·.originalPaymentItemId)).Nodup := by
    rw [← h.items_perm.nodup_iff, ← planned_items]
    exact h.nodup
  cases hfind : plan.lines.find? fun candidate => candidate.originalPaymentItemId = line.originalPaymentItemId with
  | none => simpa [hitem] using List.find?_eq_none.mp hfind planned hplanned
  | some found =>
    have hfound : found.originalPaymentItemId = planned.originalPaymentItemId := by
      rw [hitem]
      simpa using List.find?_some hfind
    have hmem := List.mem_of_find?_eq_some hfind
    obtain rfl := List.inj_on_of_nodup_map hnodup hmem hplanned hfound
    exact ⟨found, hmem, rfl, htext.symm⟩

theorem OfPlan.succeeded_nodup {plan : RefundChannelPlan} (h : OfPlan plan refund.planned) :
    (succeededItems refund).Nodup := by
  have hnodup := h.nodup
  rw [planned_items] at hnodup
  exact hnodup.sublist (List.filter_sublist.map _)

/-! ## A result -/

theorem read_settlements (refund : IyzicoRefund) :
    (((refund.lines.filter (·.state = .succeeded)).map fun line =>
      some (RefundSettlement.mk (some line.originalPaymentItemId) (some line.providerAmount.text))).mapM
        Operations.readSettlement) = some (settlementsOf refund) := by
  rw [mapM_eq_some, settlementsOf, List.forall₂_map_left_iff, List.forall₂_map_right_iff]
  exact List.forall₂_same.mpr fun _ _ => rfl

/-- The status in a result. -/
def reportedStatus (refund : IyzicoRefund) : PaymentOperationStatus :=
  ((statusOf refund).paymentStatus).getD .waiting

theorem reported_status (refund : IyzicoRefund) : (statusOf refund).paymentStatus = some (reportedStatus refund) := by
  unfold reportedStatus statusOf
  rfl

theorem reported_completed_iff (refund : IyzicoRefund) :
    reportedStatus refund = .completed ↔ ∀ line ∈ refund.lines, line.state = .succeeded := by
  constructor
  · intro h
    exact status_completed (by rw [reported_status, h])
  · intro h
    have hlength := (length_filter_succeeded refund).mpr h
    unfold reportedStatus statusOf
    dsimp only
    rw [if_pos hlength]
    rfl

theorem settlements_of_failed (h : reportedStatus refund = .failed) : settlementsOf refund = [] := by
  obtain ⟨hnone, -⟩ := status_failed (by rw [reported_status, h])
  unfold settlementsOf
  rw [List.map_eq_nil_iff, List.filter_eq_nil_iff]
  simpa using hnone

theorem read_result (hrow : Row operation core row) (hid : refund.id = operation.id)
    (hplan : OfPlan operation.plan refund.planned) :
    Operations.readResult row operation.plan (statusOf refund).toPaymentChannelStatusDTO operation.paymentId =
      .ok ⟨operation.id, reportedStatus refund, settlementsOf refund⟩ := by
  have hlength : reportedStatus refund = .completed → (settlementsOf refund).length = operation.plan.lines.length := by
    intro h
    rw [settlementsOf, List.length_map, (length_filter_succeeded refund).mpr ((reported_completed_iff refund).mp h)]
    simpa using hplan.items_perm.length_eq
  have hoperationId : truthy row.operationId → some refund.id = row.operationId := by
    intro htruthy
    cases hvalue : row.operationId with
    | none => simp [hvalue, truthy] at htruthy
    | some id => rw [hrow.operationId id hvalue, hid]
  unfold Operations.readResult
  simp only [bind_eq_ok, orThrow_eq_ok, require_eq_ok, pure_eq_ok]
  refine ⟨_, rfl, settlementsOf refund, read_settlements refund, (), ⟨hrow.operationType, by rw [hrow.paymentChannelId]; rfl⟩,
    (), by simpa [statusOf, truthy, hid] using operation.id_ne, (), hoperationId, (), hrow.paymentId, reportedStatus refund,
    reported_status refund, (), ?_, (), hrow.amount, (), hlength, (), settlements_of_failed, ?_⟩
  · rw [settlementsOf_items]
    exact hplan.succeeded_nodup
  · simp [statusOf, hid]

/-- The accounts of a rounding difference are missing. -/
def RoundingFails (operation : RefundOperation) (env : Operations.Env) (row : PaymentChannelOperation) (e : HttpError) : Prop :=
  ∃ line ∈ operation.plan.lines, Operations.roundingEntries env row operation.plan line = .error e

/-- The loop passes every line of the plan, unless the accounts of a rounding difference are missing. -/
theorem settle_lines_pass (hplan : OfPlan operation.plan refund.planned) (env : Operations.Env)
    (row : PaymentChannelOperation) (settlements : List Operations.SettledLine)
    (hsub : ∀ settlement ∈ settlements, settlement ∈ settlementsOf refund) (acc : List String × List AccountPaymentTransaction) :
    (∃ acc', settlements.foldlM (Operations.settleLine env row operation.plan) acc = .ok acc') ∨
      ∃ e, RoundingFails operation env row e ∧
        settlements.foldlM (Operations.settleLine env row operation.plan) acc = .error e := by
  induction settlements generalizing acc with
  | nil => exact Or.inl ⟨acc, rfl⟩
  | cons settlement rest ih =>
    rw [List.forall_mem_cons] at hsub
    obtain ⟨line, hline, rfl⟩ := List.mem_map.mp hsub.1
    obtain ⟨planned, hplanned, hfind, htext⟩ := hplan.find_line (List.mem_of_mem_filter hline)
    simp only [List.foldlM_cons, bind_eq_ok, bind_eq_error]
    have hsettle : Operations.settleLine env row operation.plan acc ⟨line.originalPaymentItemId, line.providerAmount.text⟩ =
        if planned.originalPaymentItemId ∈ acc.1 then .ok acc
        else (Operations.roundingEntries env row operation.plan planned).map fun entries =>
          (acc.1 ++ [planned.originalPaymentItemId], acc.2 ++ entries) := by
      unfold Operations.settleLine
      simp only [hfind, orThrow, htext, require, bind, Except.bind, if_true]
      split
      · rfl
      · cases Operations.roundingEntries env row operation.plan planned <;> rfl
    by_cases hmem : planned.originalPaymentItemId ∈ acc.1
    · rw [if_pos hmem] at hsettle
      rcases ih hsub.2 acc with ⟨acc', h⟩ | ⟨e, hfails, h⟩
      · exact Or.inl ⟨acc', acc, hsettle, h⟩
      · exact Or.inr ⟨e, hfails, Or.inr ⟨acc, hsettle, h⟩⟩
    · rw [if_neg hmem] at hsettle
      cases hentries : Operations.roundingEntries env row operation.plan planned with
      | error e =>
        rw [hentries] at hsettle
        exact Or.inr ⟨e, ⟨planned, hplanned, hentries⟩, Or.inl hsettle⟩
      | ok entries =>
        rw [hentries] at hsettle
        rcases ih hsub.2 _ with ⟨acc', h⟩ | ⟨e, hfails, h⟩
        · exact Or.inl ⟨acc', _, hsettle, h⟩
        · exact Or.inr ⟨e, hfails, Or.inr ⟨_, hsettle, h⟩⟩

/-- The stored operation asks for nothing that the refund has not settled. -/
structure Behind (operation : RefundOperation) (row : PaymentChannelOperation) (refund : IyzicoRefund) : Prop where
  settled : ∀ item ∈ Operations.settledIds row, item ∈ succeededItems refund
  completed : row.status = .completed → ∀ line ∈ refund.lines, line.state = .succeeded

/-- What an accepted result leaves. -/
structure Took (operation : RefundOperation) (core' : Operations.Db) (refund : IyzicoRefund) (row' : PaymentChannelOperation) :
    Prop where
  stored : Row operation core' row'
  settled : ∀ item, item ∈ Operations.settledIds row' ↔ item ∈ succeededItems refund
  status : row'.status = reportedStatus refund

/-- The operation that an accepted result leaves. -/
def settledOperation (env : Operations.Env) (row : PaymentChannelOperation) (result : PaymentChannelStatusDTO)
    (valid : Operations.ValidResult) (settled : List String) : PaymentChannelOperation :=
  { row with
    operationId := some valid.operationId
    status := valid.status
    providerFee := (result.providerFee.map toColumn).getD row.providerFee
    feeCutInstantly := result.feeCutInstantly.getD row.feeCutInstantly
    providerFeeDebitFrom := if env.sellerPaysPaymentServiceFee then .seller else .platform
    settledRefundItemIds := some settled }

/-- After the checks only the loop can throw. -/
theorem save_result_eq {result : RefundStatus} {valid : Operations.ValidResult} (hrow : Row operation core row)
    (hread : Operations.readResult row operation.plan result.toPaymentChannelStatusDTO operation.paymentId = .ok valid)
    (hkeeps : row.status = .completed → valid.status = .completed)
    (hlost : ∀ item ∈ Operations.settledIds row, item ∈ valid.settlements.map (·.originalPaymentItemId)) :
    saveResult operation env core result =
      (valid.settlements.foldlM (Operations.settleLine env row operation.plan) (Operations.settledIds row, [])).map
        fun acc => ⟨core.operations.save (settledOperation env row result.toPaymentChannelStatusDTO valid acc.1),
          core.transactions ++ acc.2⟩ := by
  unfold saveResult Operations.saveRefundSettlementRecord
  simp only [hrow.found, hrow.refundPlan, orThrow, hread, require, if_pos hkeeps, if_pos hlost, bind, Except.bind]
  cases valid.settlements.foldlM (Operations.settleLine env row operation.plan) (Operations.settledIds row, []) with
  | error e => rfl
  | ok acc => simp [settledOperation, hrow.refundPlan, Except.map, pure, Except.pure]

/-- **A result is accepted**, unless the accounts of a rounding difference are missing. -/
theorem save_result_cases (hrow : Row operation core row) (hid : refund.id = operation.id)
    (hplan : OfPlan operation.plan refund.planned) (hbehind : Behind operation row refund) (env : Operations.Env) :
    (∃ core' row', saveResult operation env core (statusOf refund) = .ok core' ∧ Took operation core' refund row') ∨
      ∃ e, RoundingFails operation env row e ∧ saveResult operation env core (statusOf refund) = .error e := by
  have hread := read_result hrow hid hplan
  have hkeeps : row.status = .completed → reportedStatus refund = .completed :=
    fun h => (reported_completed_iff refund).mpr (hbehind.completed h)
  have hlost : ∀ item ∈ Operations.settledIds row, item ∈ (settlementsOf refund).map (·.originalPaymentItemId) := by
    rw [settlementsOf_items]
    exact hbehind.settled
  rw [save_result_eq hrow hread hkeeps hlost]
  rcases settle_lines_pass hplan env row (settlementsOf refund) (fun _ h => h) (Operations.settledIds row, []) with
    ⟨acc, hacc⟩ | ⟨e, hfails, hacc⟩
  · left
    obtain ⟨new, entries, rfl, hnodup, -, hnew, hall⟩ := Operations.settle_lines_spec hacc (uniqueValues_nodup _)
    rw [settlementsOf_items] at hnew hall
    rw [hacc]
    refine ⟨_, settledOperation env row (statusOf refund).toPaymentChannelStatusDTO
      ⟨operation.id, reportedStatus refund, settlementsOf refund⟩ (Operations.settledIds row ++ new), rfl, ⟨?_, hrow.refundPlan,
      hrow.operationType, hrow.paymentChannelId, hrow.paymentId, ?_, hrow.amount⟩, ?_, rfl⟩
    · rw [Table.find_save, if_pos]
      exact (Table.key_of_find hrow.found).symm
    · intro id hid
      exact (Option.some.inj hid).symm
    · intro item
      have hsettled : Operations.settledIds (settledOperation env row (statusOf refund).toPaymentChannelStatusDTO
          ⟨operation.id, reportedStatus refund, settlementsOf refund⟩ (Operations.settledIds row ++ new)) =
          Operations.settledIds row ++ new := uniqueValues_of_nodup hnodup
      rw [hsettled, List.mem_append]
      constructor
      · rintro (h | h)
        · exact hbehind.settled item h
        · exact hnew item h
      · intro h
        exact List.mem_append.mp (hall item h).1
  · right
    refine ⟨e, hfails, ?_⟩
    rw [hacc]
    rfl

/-! ## Runs -/

variable {config : Config} {j j' : Joint}

/-- Every line that the core has settled is settled in the channel. -/
structure Agreed (operation : RefundOperation) (j : Joint) (row : PaymentChannelOperation) : Prop where
  inv : Inv j.channel
  planned : Planned operation j.channel
  stored : Row operation j.core row
  settled : ∀ item ∈ Operations.settledIds row, ∃ index line,
    SettledLine j.channel operation.id index line ∧ line.originalPaymentItemId = item
  completed : row.status = .completed → ∀ line ∈ operation.plan.lines,
    line.originalPaymentItemId ∈ Operations.settledIds row

theorem Agreed.succeeded (h : Agreed operation j row) (hrefund : j.channel.db.refunds.find operation.id = some refund)
    {item : String} (hitem : item ∈ Operations.settledIds row) : item ∈ succeededItems refund := by
  obtain ⟨index, line, ⟨r, stored, hr, hstored, rfl, hstate⟩, rfl⟩ := h.settled item hitem
  obtain rfl : r = refund := Option.some.inj (hr.symm.trans hrefund)
  exact mem_succeededItems.mpr ⟨stored, List.mem_of_getElem? hstored, hstate, rfl⟩

theorem Agreed.behind (h : Agreed operation j row) (hrefund : j.channel.db.refunds.find operation.id = some refund) :
    Behind operation row refund := by
  have hplan := h.planned.refunds refund hrefund
  refine ⟨fun item hitem => h.succeeded hrefund hitem, fun hcompleted line hline => ?_⟩
  have hitem := hplan.items_perm.mem_iff.mp (List.mem_map_of_mem (f := (·.originalPaymentItemId)) hline)
  obtain ⟨planned, hplanned, heq⟩ := List.mem_map.mp hitem
  have hsucceeded := h.succeeded hrefund (h.completed hcompleted planned hplanned)
  rw [heq] at hsucceeded
  obtain ⟨other, hother, hstate, hsame⟩ := mem_succeededItems.mp hsucceeded
  have hnodup := hplan.nodup
  rw [planned_items] at hnodup
  obtain rfl := List.inj_on_of_nodup_map hnodup hother hline hsame
  exact hstate

theorem check_spec {db : Db} {id : String} {result : RefundStatus} (h : check db id = .ok result) :
    ∃ refund, db.refunds.find id = some refund ∧ result = statusOf refund := by
  simp only [check, bind_eq_ok, orThrow_eq_ok, pure_eq_ok] at h
  obtain ⟨refund, hrefund, rfl⟩ := h
  exact ⟨refund, hrefund, rfl⟩

theorem channel_step_agreed {act : Act} {s' : State} (h : Agreed operation j row) (hsends : Sends operation act)
    (hunsettled : Unsettled operation j (.channel act)) (hstep : step config j.channel act = some s') :
    Agreed operation ⟨s', j.core⟩ row := by
  refine ⟨step_inv h.inv hstep, step_planned h.inv h.planned hsends hstep, h.stored, ?_, h.completed⟩
  intro item hitem
  obtain ⟨index, line, hline, rfl⟩ := h.settled item hitem
  have hsettled : line.originalPaymentItemId ∈ settledIn j.core operation.id := by
    simpa [settledIn, h.stored.found] using hitem
  exact ⟨index, line, step_settled_line h.inv hstep hunsettled hline hsettled, rfl⟩

theorem took_agreed (h : Agreed operation j row) (hrefund : j.channel.db.refunds.find operation.id = some refund)
    {row' : PaymentChannelOperation} (htook : Took operation core' refund row') :
    Agreed operation ⟨j.channel, core'⟩ row' := by
  refine ⟨h.inv, h.planned, htook.stored, ?_, ?_⟩
  · intro item hitem
    obtain ⟨line, hline, hstate, rfl⟩ := mem_succeededItems.mp ((htook.settled item).mp hitem)
    obtain ⟨index, hindex⟩ := List.getElem?_of_mem hline
    exact ⟨index, line.toRefundChannelLine, ⟨refund, line, hrefund, hindex, rfl, hstate⟩, rfl⟩
  · intro hcompleted planned hplanned
    rw [htook.status] at hcompleted
    have hall := (reported_completed_iff refund).mp hcompleted
    have hitem := (h.planned.refunds refund hrefund).items_perm.mem_iff.mpr
      (List.mem_map_of_mem (f := (·.originalPaymentItemId)) hplanned)
    obtain ⟨line, hline, heq⟩ := List.mem_map.mp hitem
    exact (htook.settled _).mpr (mem_succeededItems.mpr ⟨line, hline, hall line hline, heq⟩)

theorem joint_step_agreed {act : JointAct} (h : ∃ row, Agreed operation j row) (hunsettled : Unsettled operation j act)
    (hstep : jointStep config operation j act = some j') : ∃ row, Agreed operation j' row := by
  obtain ⟨row, h⟩ := h
  cases act with
  | channel act =>
    simp only [jointStep] at hstep
    split at hstep <;> rename_i hsends
    · obtain ⟨s', hs', rfl⟩ := Option.map_eq_some_iff.mp hstep
      exact ⟨row, channel_step_agreed h hsends hunsettled hs'⟩
    · simp at hstep
  | result env =>
    simp only [jointStep] at hstep
    split at hstep
    · rename_i result hcheck
      obtain ⟨refund, hrefund, rfl⟩ := check_spec hcheck
      rcases save_result_cases h.stored (Table.key_of_find hrefund) (h.planned.refunds refund hrefund) (h.behind hrefund) env with
        ⟨core', row', hsave, htook⟩ | ⟨e, -, hsave⟩
      · rw [hsave] at hstep
        obtain rfl := Option.some.inj hstep
        exact ⟨row', took_agreed h hrefund htook⟩
      · rw [hsave] at hstep
        obtain rfl := Option.some.inj hstep
        exact ⟨row, h⟩
    · simp at hstep

/-- Every line of the refund is SUCCEEDED. -/
def AllSucceeded (s : State) (id : String) : Prop :=
  ∃ refund, s.db.refunds.find id = some refund ∧ ∀ line ∈ refund.lines, line.state = .succeeded

/-- **Channel and core.** In a run whose steps take no settled line back, every result of the channel
is accepted, unless the accounts of a rounding difference are missing, and it leaves the operation
COMPLETED exactly when every line is SUCCEEDED. -/
theorem results_accepted {j₀ : Joint} {acts : List JointAct} {row₀ : PaymentChannelOperation}
    (hcalls : ∀ c, j₀.channel.calls c = none) (hrefunds : j₀.channel.db.refunds = Table.empty)
    (hsubmitted : j₀.channel.submitted = []) (hrow : Row operation j₀.core row₀) (hstatus : row₀.status = .waiting)
    (hsettled : row₀.settledRefundItemIds = none)
    (hunsettled : Meets (jointStep config operation) (Unsettled operation) j₀ acts)
    (hrun : run (jointStep config operation) j₀ acts = some j) :
    ∃ row, j.core.operations.find operation.id = some row ∧
      (row.status = .completed → ∀ refund, j.channel.db.refunds.find operation.id = some refund →
        ∀ line ∈ refund.lines, line.state = .succeeded) ∧
      ∀ result, check j.channel.db operation.id = .ok result → ∀ env,
        (∃ core' row', saveResult operation env j.core result = .ok core' ∧
          core'.operations.find operation.id = some row' ∧
          (row'.status = .completed ↔ AllSucceeded j.channel operation.id)) ∨
        ∃ e, RoundingFails operation env row e ∧ saveResult operation env j.core result = .error e := by
  have hagreed₀ : Agreed operation j₀ row₀ := by
    refine ⟨inv_init hcalls hrefunds hsubmitted, ⟨by simp [hcalls], by simp [hrefunds]⟩, hrow, ?_, by simp [hstatus]⟩
    simp [Operations.settledIds, hsettled, uniqueValues]
  obtain ⟨row, h⟩ := run_invariant_of_meets (fun _ _ _ h hok hstep => joint_step_agreed h hok hstep) ⟨row₀, hagreed₀⟩
    hunsettled hrun
  refine ⟨row, h.stored.found, fun hcompleted refund hrefund => (h.behind hrefund).completed hcompleted, ?_⟩
  intro result hresult env
  obtain ⟨refund, hrefund, rfl⟩ := check_spec hresult
  have hall : AllSucceeded j.channel operation.id ↔ ∀ line ∈ refund.lines, line.state = .succeeded := by
    simp [AllSucceeded, hrefund]
  rcases save_result_cases h.stored (Table.key_of_find hrefund) (h.planned.refunds refund hrefund) (h.behind hrefund) env with
    ⟨core', row', hsave, htook⟩ | ⟨e, hfails, hsave⟩
  · exact Or.inl ⟨core', row', hsave, htook.stored.found, by rw [htook.status, reported_completed_iff, hall]⟩
  · exact Or.inr ⟨e, hfails, hsave⟩

/-! ## A settled line is taken back -/

section Sample

def corePlan : RefundChannelPlan where
  originalOperationId := "capture"
  originalChannelOperationId := "source"
  channelData := some [("roundingMode", "ROUND")]
  roundingAccountId := some "platform"
  lines := [⟨"a", ⟨"3.3333", by decide +kernel⟩, ⟨"3.33", by decide +kernel⟩⟩,
    ⟨"b", ⟨"3.3333", by decide +kernel⟩, ⟨"3.33", by decide +kernel⟩⟩]

def coreOperation : RefundOperation := ⟨corePlan, "refund", by decide, "refund-payment"⟩

def coreRow : PaymentChannelOperation where
  id := "refund"
  paymentChannelId := "iyzico"
  amount := 66666
  operationType := .refund
  currency := "TRY"
  paymentId := "refund-payment"
  refundPlan := some corePlan

def sampleJoint : Joint where
  channel := sampleState
  core := ⟨Table.empty.save coreRow, []⟩

def accountsEnv : Operations.Env := ⟨false, fun _ => some (some "customer"), some, id⟩

theorem coreRow_stored : Row coreOperation sampleJoint.core coreRow where
  found := rfl
  refundPlan := rfl
  operationType := rfl
  paymentChannelId := rfl
  paymentId := rfl
  operationId := by simp [coreRow]
  amount := by decide +kernel

/-- The first line is paid out, up to the save of its state. -/
def payActs : List JointAct :=
  .channel (.initializeRefund 0 samplePayment) :: List.replicate 4 (.channel (.advance 0 .ambiguous)) ++
    [.channel (.advance 0 (.success none))]

/-- Both lines succeed, and the core hears of the first one in between. -/
def completedActs : List JointAct :=
  payActs ++ [.channel (.advance 0 .ambiguous), .result accountsEnv, .channel (.advance 0 .ambiguous),
    .channel (.advance 0 .ambiguous), .channel (.advance 0 (.success none)), .channel (.advance 0 .ambiguous)]

theorem results_accepted_sample :
    ∃ j result core' row', run (jointStep sampleConfig coreOperation) sampleJoint completedActs = some j ∧
      check j.channel.db "refund" = .ok result ∧ saveResult coreOperation accountsEnv j.core result = .ok core' ∧
      core'.operations.find "refund" = some row' ∧ (row'.status = .completed ↔ AllSucceeded j.channel "refund") := by
  obtain ⟨j, hrun, result, hresult, hsaved⟩ : ∃ j ∈ run (jointStep sampleConfig coreOperation) sampleJoint completedActs,
      ∃ result ∈ (check j.channel.db "refund").toOption, (saveResult coreOperation accountsEnv j.core result).isOk := by
    decide +kernel
  have hunsettled : Meets (jointStep sampleConfig coreOperation) (Unsettled coreOperation) sampleJoint completedActs := by
    decide +kernel
  have hresult' : check j.channel.db "refund" = .ok result := by simpa using hresult
  obtain ⟨row, -, -, h⟩ := results_accepted (fun _ => rfl) rfl rfl coreRow_stored rfl rfl hunsettled hrun
  rcases h result hresult' accountsEnv with ⟨core', row', hsave, hrow', hiff⟩ | ⟨e, -, hsave⟩
  · exact ⟨j, result, core', row', hrun, hresult', hsave, hrow', hiff⟩
  · simp [hsave, Except.isOk, Except.toBool] at hsaved

/-- The first line is saved as SUCCEEDED, but the update throws, and the core hears of the line before
the `catch` block saves it. -/
def takenBackActs : List JointAct :=
  payActs ++ [.channel (.fail 0 .ambiguous true), .result accountsEnv, .channel (.advance 0 .ambiguous)]

theorem settled_line_taken_back :
    ∃ j result, run (jointStep sampleConfig coreOperation) sampleJoint takenBackActs = some j ∧
      check j.channel.db "refund" = .ok result ∧ saveResult coreOperation accountsEnv j.core result =
        .error (.conflict "Channel refund settlement cannot lose completed lines") := by
  obtain ⟨j, hrun, result, hresult, hsaved⟩ : ∃ j ∈ run (jointStep sampleConfig coreOperation) sampleJoint takenBackActs,
      ∃ result ∈ (check j.channel.db "refund").toOption, saveResult coreOperation accountsEnv j.core result =
        .error (.conflict "Channel refund settlement cannot lose completed lines") := by
    decide +kernel
  exact ⟨j, result, hrun, by simpa using hresult, hsaved⟩

end Sample

end Postral.Iyzico
