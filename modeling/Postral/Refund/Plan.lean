import Postral.Lib.Decimal
import Postral.Lib.Group
import Postral.Lib.Json
import Postral.Refund.Allocation
import Postral.Setup.Entity

/-!
# The plans that channels prepare for a refund (`prepareRefundChannelPlan`)

The answer of a channel is any value.
-/

open Check

namespace Postral.Refund.Plan

/-- An item of `RefundRequestDTO`. `none` is no finite number. -/
structure RequestedItem where
  paymentItemId : String
  refundAmount : Option ℚ
  deriving DecidableEq

structure RefundRequestDTO where
  items : List RequestedItem
  deriving DecidableEq

/-- A line as the channels see it. -/
structure RequestedLine where
  originalPaymentItemId : String
  nominalAmount : Decimal 4
  deriving DecidableEq

structure Capture where
  originalOperationId : String
  originalChannelOperationId : Option String
  paymentChannelId : String
  amount : ℤ
  deriving DecidableEq

structure PrepareChannelRefundDTO where
  purchasePaymentId : String
  purchaseAmount : ℤ
  currency : String
  captures : List Capture
  items : List RequestedLine
  deriving DecidableEq

/-- What the method reads, and what the channels answer. -/
structure Env where
  /-- `a.localeCompare(b) <= 0`. -/
  localeLe : String → String → Bool
  /-- When the captures are read. -/
  operations : Table PaymentChannelOperation.id
  /-- When the earlier refunds are read. -/
  laterOperations : Table PaymentChannelOperation.id
  prepareChannelRefund : String → PrepareChannelRefundDTO → Except HttpError Json
  billingAccountId : Option String
  account : String → Option Setup.Account

/-! ## The request -/

def readCaptures (env : Env) (purchase : Payment) : Except HttpError (List PaymentChannelOperation) := do
  let operations := (env.operations.rows.filter fun r =>
    r.paymentId = purchase.id ∧ r.status = .completed ∧ r.operationType = .purchase).insertionSort fun a b => a.id ≤ b.id
  require (operations ≠ [] ∧ (∀ r ∈ operations, truthy r.operationId ∧ r.currency = purchase.currency) ∧
      purchase.paymentStatus = .completed ∧ purchase.type = .purchase)
    (.badRequest "Completed purchase channel operations are required for refund preparation")
  return operations

def requestedLine (purchase : Payment) (item : RequestedItem) : Except HttpError RequestedLine := do
  let invalid := .badRequest "Refund original line or historical amount is invalid"
  let original ← orThrow (purchase.items.find item.paymentItemId) invalid
  let refundAmount ← orThrow item.refundAmount invalid
  require (0 < refundAmount ∧ refundAmount ≤ fromColumn original.totalAmount ∧ refundAmount = round refundAmount 4) invalid
  return ⟨item.paymentItemId, Decimal.ofUnits 4 columnDigits_pos (toColumn refundAmount).toNat⟩

def requestedLines (env : Env) (purchase : Payment) (request : RefundRequestDTO) : Except HttpError (List RequestedLine) := do
  let lines ← request.items.mapM (requestedLine purchase)
  let lines := lines.insertionSort fun a b => env.localeLe a.originalPaymentItemId b.originalPaymentItemId
  require (lines ≠ [] ∧ (lines.map (·.originalPaymentItemId)).Nodup)
    (.badRequest "Refund original line IDs must be unique and nonempty")
  return lines

def prepareMessage (purchase : Payment) (operations : List PaymentChannelOperation) (lines : List RequestedLine) :
    PrepareChannelRefundDTO where
  purchasePaymentId := purchase.id
  purchaseAmount := purchase.totalAmount
  currency := purchase.currency
  captures := operations.map fun operation =>
    ⟨operation.id, operation.operationId, operation.paymentChannelId, operation.amount⟩
  items := lines

/-! ## Reading an answer -/

/-- A string that matches `/^\d+(\.\d{1,4})?$/`. -/
def readAmount (text : String) : Option AmountText := if h : (parseAmount text).isSome then some ⟨text, h⟩ else none

def readLine (lines : List RequestedLine) (line : Json) : Option RefundChannelLine := do
  let originalPaymentItemId ← line.stringField "originalPaymentItemId"
  let nominalText ← line.stringField "nominalAmount"
  let providerText ← line.stringField "providerAmount"
  let nominalAmount ← readAmount nominalText
  let providerAmount ← readAmount providerText
  guard (0 < nominalAmount.value ∧ 0 < providerAmount.value ∧ ∃ original ∈ lines,
    original.originalPaymentItemId = originalPaymentItemId ∧ nominalAmount.value ≤ original.nominalAmount.units)
  return ⟨originalPaymentItemId, nominalAmount, providerAmount⟩

/-- `channelData`, which may be missing. -/
def readChannelData : Option Json → Option (Option (List (String × String)))
  | none => some none
  | some value => value.asStrings.map some

/-- A plan of an answer. The `roundingAccountId` that it may have is not read. -/
def readPlan (operations : List PaymentChannelOperation) (lines : List RequestedLine) (channelId : String)
    (plans : List RefundChannelPlan) (plan : Json) : Option RefundChannelPlan := do
  let originalOperationId ← plan.stringField "originalOperationId"
  let source ← operations.find? fun operation => operation.id = originalOperationId
  let originalChannelOperationId ← plan.stringField "originalChannelOperationId"
  guard (source.paymentChannelId = channelId ∧ source.operationId = some originalChannelOperationId ∧
    ∀ existing ∈ plans, existing.originalOperationId ≠ originalOperationId)
  let channelData ← readChannelData (plan.field "channelData")
  let rawLines ← plan.arrayField "lines"
  let planLines ← rawLines.mapM (readLine lines)
  guard (planLines ≠ [] ∧ (planLines.map (·.originalPaymentItemId)).Nodup)
  return {
    originalOperationId := source.id
    originalChannelOperationId := originalChannelOperationId
    channelData := channelData
    lines := planLines }

def addPlan (operations : List PaymentChannelOperation) (lines : List RequestedLine) (channelId : String)
    (plans : List RefundChannelPlan) (plan : Json) : Except HttpError (List RefundChannelPlan) := do
  let read ← orThrow (readPlan operations lines channelId plans plan)
    (.badRequest "Channel returned invalid refund source or line amounts")
  return plans ++ [read]

/-- One turn of the loop over the channels. -/
def askChannel (env : Env) (purchase : Payment) (operations : List PaymentChannelOperation) (lines : List RequestedLine)
    (plans : List RefundChannelPlan) (channelId : String) : Except HttpError (List RefundChannelPlan) := do
  let answer ← env.prepareChannelRefund channelId (prepareMessage purchase operations lines)
  let answered ← orThrow (answer.arrayField "plans") (.badRequest "Channel returned an invalid refund preparation")
  answered.foldlM (addPlan operations lines channelId) plans

/-! ## The checks over all plans -/

/-- What the plans take of a line. -/
def nominalOf (plans : List RefundChannelPlan) (originalPaymentItemId : String) : ℤ :=
  addNumberValues (((plans.flatMap (·.lines)).filter fun line => line.originalPaymentItemId = originalPaymentItemId).map
    (·.nominalAmount.value))

def requireWithinLines (lines : List RequestedLine) (plans : List RefundChannelPlan) : Except HttpError Unit :=
  checkAll (fun line => require (nominalOf plans line.originalPaymentItemId ≤ line.nominalAmount.units)
    (.badRequest "Channel plans exceed the requested refund line amount")) lines

def requestedTotal (lines : List RequestedLine) : ℤ := addNumberValues (lines.map fun line => (line.nominalAmount.units : ℤ))

def earlierRefunds (env : Env) (operations : List PaymentChannelOperation) : List PaymentChannelOperation :=
  env.laterOperations.rows.filter fun r =>
    (∃ operation ∈ operations, r.originalOperationId = some operation.id) ∧ r.operationType = .refund

def requireAllocated (env : Env) (operations : List PaymentChannelOperation) (lines : List RequestedLine)
    (plans : List RefundChannelPlan) : Except HttpError Unit :=
  if plans = [] then return ()
  else do
    let allocations ← Channels.refundCaptureAllocations operations (earlierRefunds env operations) (requestedTotal lines)
    Channels.validateRefundPlanAllocations plans allocations

def hasDifference (plan : RefundChannelPlan) : Prop :=
  ∃ line ∈ plan.lines, line.nominalAmount.value ≠ line.providerAmount.value

instance (plan : RefundChannelPlan) : Decidable (hasDifference plan) := by
  unfold hasDifference
  infer_instance

/-- The platform's account, when a plan needs one. -/
def roundingAccount (env : Env) (purchase : Payment) (plans : List RefundChannelPlan) : Except HttpError (Option String) :=
  if ∃ plan ∈ plans, hasDifference plan then do
    let invalid := .badRequest "An active platform billing account is required for refund rounding adjustments"
    require (truthy env.billingAccountId) invalid
    let account ← orThrow (env.account (env.billingAccountId.getD "")) invalid
    require (¬ account.deactivated ∧ ¬ account.isExternal ∧ account.type = .commercial ∧
      env.billingAccountId ≠ purchase.customerAccountId) invalid
    return env.billingAccountId
  else return none

def withRoundingAccount (roundingAccountId : Option String) (plan : RefundChannelPlan) : RefundChannelPlan :=
  if hasDifference plan then { plan with roundingAccountId := roundingAccountId } else plan

def prepareRefundChannelPlan (env : Env) (request : RefundRequestDTO) (purchase : Payment) :
    Except HttpError (List RefundChannelPlan) := do
  let operations ← readCaptures env purchase
  let lines ← requestedLines env purchase request
  let plans ← (Group.keys (·.paymentChannelId) operations).foldlM (askChannel env purchase operations lines) []
  requireWithinLines lines plans
  requireAllocated env operations lines plans
  let roundingAccountId ← roundingAccount env purchase plans
  return plans.map (withRoundingAccount roundingAccountId)

/-! ## What an accepted plan is -/

/-- A value of the channel's answer that names the plan's capture. -/
def AnsweredBy (env : Env) (channelId : String) (plan : RefundChannelPlan) : Prop :=
  ∃ message answer answered, env.prepareChannelRefund channelId message = .ok answer ∧
    answer.arrayField "plans" = some answered ∧
    ∃ value ∈ answered, value.stringField "originalOperationId" = some plan.originalOperationId

/-- The plan is for a completed capture of the purchase, and the channel of the capture prepared it. -/
def FromCapture (env : Env) (purchase : Payment) (plan : RefundChannelPlan) : Prop :=
  ∃ source ∈ env.operations.rows, source.id = plan.originalOperationId ∧ source.paymentId = purchase.id ∧
    source.status = .completed ∧ source.operationType = .purchase ∧
    source.operationId = some plan.originalChannelOperationId ∧ AnsweredBy env source.paymentChannelId plan

/-- The lines are different lines of the request, with positive amounts. -/
def LinesRequested (request : RefundRequestDTO) (plan : RefundChannelPlan) : Prop :=
  (plan.lines.map (·.originalPaymentItemId)).Nodup ∧ ∀ line ∈ plan.lines, 0 < line.nominalAmount.value ∧
    0 < line.providerAmount.value ∧ ∃ item ∈ request.items, item.paymentItemId = line.originalPaymentItemId

/-- The lines add up to what the refund takes from the capture. -/
def Allocated (allocations : List Channels.Allocation) (plan : RefundChannelPlan) : Prop :=
  ∃ allocation ∈ allocations, allocation.1.id = plan.originalOperationId ∧
    (plan.lines.map (·.nominalAmount.value)).sum = allocation.2

/-- **What holds of the plans that are returned.** -/
structure Accepted (env : Env) (request : RefundRequestDTO) (purchase : Payment) (plans : List RefundChannelPlan) : Prop where
  sources_nodup : (plans.map (·.originalOperationId)).Nodup
  source : ∀ plan ∈ plans, FromCapture env purchase plan
  lines : ∀ plan ∈ plans, LinesRequested request plan
  /-- The allocations are those of the whole requested amount over the captures. -/
  allocated : plans ≠ [] → ∃ captures allocations total, readCaptures env purchase = .ok captures ∧
    fromColumn total = (request.items.map fun item => item.refundAmount.getD 0).sum ∧
    Channels.refundCaptureAllocations captures (earlierRefunds env captures) total = .ok allocations ∧
    ∀ plan ∈ plans, Allocated allocations plan
  within : ∀ item ∈ request.items, ∃ refundAmount, item.refundAmount = some refundAmount ∧
    fromColumn (nominalOf plans item.paymentItemId) ≤ refundAmount
  rounding : ∀ plan ∈ plans, (hasDifference plan → env.billingAccountId.isSome) ∧
    plan.roundingAccountId = if hasDifference plan then env.billingAccountId else none

/-! ## Specifications -/

section Reading

variable {lines : List RequestedLine} {operations : List PaymentChannelOperation} {channelId : String}

/-- A line of a plan, checked against the request. -/
def LineChecked (lines : List RequestedLine) (line : RefundChannelLine) : Prop :=
  0 < line.nominalAmount.value ∧ 0 < line.providerAmount.value ∧
    ∃ original ∈ lines, original.originalPaymentItemId = line.originalPaymentItemId

theorem read_line_spec {value : Json} {line : RefundChannelLine} (h : readLine lines value = some line) :
    LineChecked lines line := by
  unfold readLine at h
  simp only [Option.bind_eq_bind, Option.bind_eq_some_iff, Option.pure_def, Option.some.injEq, Option.guard_eq_some'] at h
  obtain ⟨id, -, _, -, _, -, nominal, -, provider, -, _, ⟨hnominal, hprovider, original, horiginal, hid, -⟩, rfl⟩ := h
  exact ⟨hnominal, hprovider, original, horiginal, hid⟩

/-- A plan that is read from a value of the channel's answer. -/
structure PlanRead (operations : List PaymentChannelOperation) (lines : List RequestedLine) (channelId : String)
    (value : Json) (plan : RefundChannelPlan) : Prop where
  named : value.stringField "originalOperationId" = some plan.originalOperationId
  source : ∃ source ∈ operations, source.id = plan.originalOperationId ∧ source.paymentChannelId = channelId ∧
    source.operationId = some plan.originalChannelOperationId
  unrounded : plan.roundingAccountId = none
  nodup : (plan.lines.map (·.originalPaymentItemId)).Nodup
  checked : ∀ line ∈ plan.lines, LineChecked lines line

theorem read_plan_spec {plans : List RefundChannelPlan} {value : Json} {plan : RefundChannelPlan}
    (h : readPlan operations lines channelId plans value = some plan) :
    PlanRead operations lines channelId value plan ∧
      ∀ existing ∈ plans, existing.originalOperationId ≠ plan.originalOperationId := by
  unfold readPlan at h
  simp only [Option.bind_eq_bind, Option.bind_eq_some_iff, Option.pure_def, Option.some.injEq, Option.guard_eq_some',
    mapM_eq_some] at h
  obtain ⟨id, hid, source, hfind, channelOperationId, -, _, ⟨hchannel, hoperation, hnew⟩, _, -, _, -, planLines, hlines, _,
    ⟨-, hnodup⟩, rfl⟩ := h
  obtain rfl : source.id = id := by simpa using List.find?_some hfind
  refine ⟨⟨hid, ⟨source, List.mem_of_find?_eq_some hfind, rfl, hchannel, hoperation⟩, rfl, hnodup, fun line hline => ?_⟩, hnew⟩
  obtain ⟨_, -, hread⟩ := forall₂_mem_right hlines hline
  exact read_line_spec hread

end Reading

section Loop

variable {env : Env} {purchase : Payment} {operations : List PaymentChannelOperation} {lines : List RequestedLine}

/-- The plans so far have different captures, and each was read from the answer of a channel. -/
def PlansRead (env : Env) (operations : List PaymentChannelOperation) (lines : List RequestedLine)
    (plans : List RefundChannelPlan) : Prop :=
  (plans.map (·.originalOperationId)).Nodup ∧ ∀ plan ∈ plans, ∃ channelId message answer answered,
    env.prepareChannelRefund channelId message = .ok answer ∧ answer.arrayField "plans" = some answered ∧
    ∃ value ∈ answered, PlanRead operations lines channelId value plan

/-- One channel: what is added comes from the values of its answer that are done. -/
theorem answered_spec {channelId : String} {answered : List Json} {plans plans' : List RefundChannelPlan}
    (hplans : (plans.map (·.originalOperationId)).Nodup)
    (h : answered.foldlM (addPlan operations lines channelId) plans = .ok plans') :
    (plans'.map (·.originalOperationId)).Nodup ∧
      ∀ plan ∈ plans', plan ∈ plans ∨ ∃ value ∈ answered, PlanRead operations lines channelId value plan := by
  refine foldlM_invariant (P := fun done plans' => (plans'.map (·.originalOperationId)).Nodup ∧
    ∀ plan ∈ plans', plan ∈ plans ∨ ∃ value ∈ done, PlanRead operations lines channelId value plan)
    ⟨hplans, fun plan hplan => .inl hplan⟩ ?_ h
  rintro done acc value acc' ⟨hnodup, hall⟩ hadd
  unfold addPlan at hadd
  simp only [bind_eq_ok, orThrow_eq_ok, pure_eq_ok] at hadd
  obtain ⟨read, hread, rfl⟩ := hadd
  obtain ⟨hplan, hnew⟩ := read_plan_spec hread
  constructor
  · rw [List.map_append, List.map_singleton, List.nodup_append]
    refine ⟨hnodup, List.nodup_singleton _, fun id hid id' hid' heq => ?_⟩
    obtain ⟨existing, hexisting, rfl⟩ := List.mem_map.mp hid
    exact hnew existing hexisting (heq.trans (List.mem_singleton.mp hid'))
  · intro plan hmem
    rcases List.mem_append.mp hmem with hmem | hmem
    · rcases hall plan hmem with hold | ⟨value', hvalue', hread'⟩
      · exact .inl hold
      · exact .inr ⟨value', List.mem_append_left _ hvalue', hread'⟩
    · obtain rfl := List.mem_singleton.mp hmem
      exact .inr ⟨value, by simp, hplan⟩

theorem ask_channel_spec {channelId : String} {plans plans' : List RefundChannelPlan}
    (hplans : PlansRead env operations lines plans) (h : askChannel env purchase operations lines plans channelId = .ok plans') :
    PlansRead env operations lines plans' := by
  unfold askChannel at h
  simp only [bind_eq_ok, orThrow_eq_ok] at h
  obtain ⟨answer, hanswer, answered, hanswered, h⟩ := h
  obtain ⟨hnodup, hall⟩ := answered_spec hplans.1 h
  refine ⟨hnodup, fun plan hplan => ?_⟩
  rcases hall plan hplan with hold | hread
  · exact hplans.2 plan hold
  · exact ⟨channelId, _, answer, answered, hanswer, hanswered, hread⟩

theorem ask_channels_spec {channelIds : List String} {plans : List RefundChannelPlan}
    (h : channelIds.foldlM (askChannel env purchase operations lines) [] = .ok plans) :
    PlansRead env operations lines plans :=
  foldlM_invariant (P := fun _ plans => PlansRead env operations lines plans) ⟨by simp, by simp⟩
    (fun _ _ _ _ => ask_channel_spec) h

end Loop

section Requests

variable {env : Env} {request : RefundRequestDTO} {purchase : Payment} {captures : List PaymentChannelOperation}
  {lines : List RequestedLine}

theorem read_captures_spec (h : readCaptures env purchase = .ok captures) : ∀ r ∈ captures,
    r ∈ env.operations.rows ∧ r.paymentId = purchase.id ∧ r.status = .completed ∧ r.operationType = .purchase := by
  unfold readCaptures at h
  simp only [bind_eq_ok, require_eq_ok, pure_eq_ok] at h
  obtain ⟨-, -, rfl⟩ := h
  intro r hr
  rw [(List.perm_insertionSort _ _).mem_iff, List.mem_filter] at hr
  simpa using hr

/-- The line of an item: its amount in ten-thousandths. -/
def LineOfItem (item : RequestedItem) (line : RequestedLine) : Prop :=
  line.originalPaymentItemId = item.paymentItemId ∧ item.refundAmount = some (fromColumn line.nominalAmount.units)

theorem requested_line_spec {item : RequestedItem} {line : RequestedLine} (h : requestedLine purchase item = .ok line) :
    LineOfItem item line := by
  unfold requestedLine at h
  simp only [bind_eq_ok, orThrow_eq_ok, require_eq_ok, pure_eq_ok] at h
  obtain ⟨_, -, refundAmount, hamount, -, ⟨hpos, -, hround⟩, rfl⟩ := h
  refine ⟨rfl, ?_⟩
  have hcolumn : 0 ≤ toColumn refundAmount := toColumn_nonneg hpos.le
  have hvalue : refundAmount = fromColumn (toColumn refundAmount) := by
    unfold round at hround
    unfold fromColumn toColumn
    norm_num at hround
    exact hround
  rw [hamount, Decimal.units_ofUnits, Int.toNat_of_nonneg hcolumn, ← hvalue]

theorem requested_lines_spec (h : requestedLines env purchase request = .ok lines) :
    ∃ unsorted, lines.Perm unsorted ∧ List.Forall₂ LineOfItem request.items unsorted := by
  unfold requestedLines at h
  simp only [bind_eq_ok, require_eq_ok, pure_eq_ok, mapM_eq_ok] at h
  obtain ⟨unsorted, hunsorted, -, -, rfl⟩ := h
  exact ⟨unsorted, List.perm_insertionSort _ _, hunsorted.imp fun _ _ => requested_line_spec⟩

theorem item_of_line (h : requestedLines env purchase request = .ok lines) {line : RequestedLine} (hline : line ∈ lines) :
    ∃ item ∈ request.items, LineOfItem item line := by
  obtain ⟨unsorted, hperm, hlines⟩ := requested_lines_spec h
  exact forall₂_mem_right hlines (hperm.mem_iff.mp hline)

theorem line_of_item (h : requestedLines env purchase request = .ok lines) {item : RequestedItem} (hitem : item ∈ request.items) :
    ∃ line ∈ lines, LineOfItem item line := by
  obtain ⟨unsorted, hperm, hlines⟩ := requested_lines_spec h
  obtain ⟨line, hline, hof⟩ := forall₂_mem_right hlines.flip hitem
  exact ⟨line, hperm.mem_iff.mpr hline, hof⟩

theorem requested_total_spec (h : requestedLines env purchase request = .ok lines) :
    fromColumn (requestedTotal lines) = (request.items.map fun item => item.refundAmount.getD 0).sum := by
  obtain ⟨unsorted, hperm, hlines⟩ := requested_lines_spec h
  have hamounts : unsorted.map (fun line => fromColumn line.nominalAmount.units) =
      request.items.map fun item => item.refundAmount.getD 0 :=
    forall₂_map_eq hlines fun item line hof => by rw [hof.2, Option.getD_some]
  unfold requestedTotal
  rw [addNumberValues_eq_sum, (hperm.map _).sum_eq, ← fromColumn_sum, List.map_map, ← hamounts]
  rfl

end Requests

section Rounding

variable {env : Env} {purchase : Payment} {plans : List RefundChannelPlan} {roundingAccountId : Option String}

theorem rounding_account_spec (h : roundingAccount env purchase plans = .ok roundingAccountId) {plan : RefundChannelPlan}
    (hplan : plan ∈ plans) (hdifference : hasDifference plan) :
    roundingAccountId = env.billingAccountId ∧ env.billingAccountId.isSome := by
  unfold roundingAccount at h
  rw [if_pos ⟨plan, hplan, hdifference⟩] at h
  simp only [bind_eq_ok, orThrow_eq_ok, require_eq_ok, pure_eq_ok] at h
  obtain ⟨-, htruthy, -, -, -, -, rfl⟩ := h
  refine ⟨rfl, ?_⟩
  cases hbilling : env.billingAccountId with
  | none => simp [hbilling, truthy] at htruthy
  | some id => rfl

theorem withRoundingAccount_eq (plan : RefundChannelPlan) :
    (withRoundingAccount roundingAccountId plan).originalOperationId = plan.originalOperationId ∧
      (withRoundingAccount roundingAccountId plan).originalChannelOperationId = plan.originalChannelOperationId ∧
      (withRoundingAccount roundingAccountId plan).lines = plan.lines := by
  unfold withRoundingAccount
  split <;> exact ⟨rfl, rfl, rfl⟩

end Rounding

/-! ## The whole method -/

section Method

variable {env : Env} {request : RefundRequestDTO} {purchase : Payment} {captures : List PaymentChannelOperation}
  {lines : List RequestedLine} {plans : List RefundChannelPlan} {plan : RefundChannelPlan}

theorem from_capture (hcaptures : readCaptures env purchase = .ok captures) (hplans : PlansRead env captures lines plans)
    (hplan : plan ∈ plans) : FromCapture env purchase plan := by
  obtain ⟨channelId, message, answer, answered, hanswer, hanswered, value, hvalue, hread⟩ := hplans.2 plan hplan
  obtain ⟨source, hsource, hid, hchannel, hoperation⟩ := hread.source
  obtain ⟨hrow, hpayment, hstatus, htype⟩ := read_captures_spec hcaptures source hsource
  exact ⟨source, hrow, hid, hpayment, hstatus, htype, hoperation, message, answer, answered, hchannel ▸ hanswer, hanswered,
    value, hvalue, hread.named⟩

theorem lines_requested (hlines : requestedLines env purchase request = .ok lines)
    (hplans : PlansRead env captures lines plans) (hplan : plan ∈ plans) : LinesRequested request plan := by
  obtain ⟨_, _, _, _, -, -, _, -, hread⟩ := hplans.2 plan hplan
  refine ⟨hread.nodup, fun line hline => ?_⟩
  obtain ⟨hnominal, hprovider, original, horiginal, hid⟩ := hread.checked line hline
  obtain ⟨item, hitem, hof⟩ := item_of_line hlines horiginal
  exact ⟨hnominal, hprovider, item, hitem, hof.1.symm.trans hid⟩

theorem require_allocated_spec (h : requireAllocated env captures lines plans = .ok ()) (hne : plans ≠ []) :
    ∃ allocations, Channels.refundCaptureAllocations captures (earlierRefunds env captures) (requestedTotal lines) =
      .ok allocations ∧ ∀ plan ∈ plans, Allocated allocations plan := by
  unfold requireAllocated at h
  rw [if_neg hne, bind_eq_ok] at h
  obtain ⟨allocations, hallocations, h⟩ := h
  unfold Channels.validateRefundPlanAllocations at h
  rw [require_eq_ok] at h
  refine ⟨allocations, hallocations, fun plan hplan => ?_⟩
  obtain ⟨allocation, hfind, -, hsum⟩ := h.2 plan hplan
  rw [addNumberValues_eq_sum] at hsum
  exact ⟨allocation, List.mem_of_find?_eq_some hfind, by simpa using List.find?_some hfind, hsum⟩

theorem within_spec (hlines : requestedLines env purchase request = .ok lines)
    (h : requireWithinLines lines plans = .ok ()) : ∀ item ∈ request.items, ∃ refundAmount,
      item.refundAmount = some refundAmount ∧ fromColumn (nominalOf plans item.paymentItemId) ≤ refundAmount := by
  intro item hitem
  obtain ⟨line, hline, hid, hamount⟩ := line_of_item hlines hitem
  unfold requireWithinLines at h
  rw [checkAll_eq_ok] at h
  have hwithin := h line hline
  rw [require_eq_ok, hid] at hwithin
  exact ⟨_, hamount, fromColumn_le_fromColumn.mpr hwithin⟩

end Method

/-- **Refund channel plans.** Whatever the channels answer, the plans that are returned are of captures of the purchase,
for the requested lines, with the amounts that the refund takes, and the platform's own rounding account. -/
theorem prepared_plans_accepted (env : Env) (request : RefundRequestDTO) (purchase : Payment)
    (plans : List RefundChannelPlan) (h : prepareRefundChannelPlan env request purchase = .ok plans) :
    Accepted env request purchase plans := by
  unfold prepareRefundChannelPlan at h
  simp only [bind_eq_ok, pure_eq_ok] at h
  obtain ⟨captures, hcaptures, lines, hlines, read, hread, _, hwithin, _, hallocated, account, haccount, rfl⟩ := h
  have hplans := ask_channels_spec hread
  have hsame := @withRoundingAccount_eq account
  constructor
  · rw [List.map_map]
    have hids : read.map ((·.originalOperationId) ∘ withRoundingAccount account) = read.map (·.originalOperationId) :=
      List.map_congr_left fun plan _ => (hsame plan).1
    exact hids ▸ hplans.1
  · rw [List.forall_mem_map]
    intro plan hplan
    obtain ⟨hid, hchannelId, -⟩ := hsame plan
    have hfrom := from_capture hcaptures hplans hplan
    unfold FromCapture AnsweredBy at hfrom ⊢
    rw [hid, hchannelId]
    exact hfrom
  · rw [List.forall_mem_map]
    intro plan hplan
    have hrequested := lines_requested hlines hplans hplan
    unfold LinesRequested at hrequested ⊢
    rw [(hsame plan).2.2]
    exact hrequested
  · intro hne
    obtain ⟨allocations, hallocations, hall⟩ := require_allocated_spec hallocated fun hnil => hne (by rw [hnil]; rfl)
    refine ⟨captures, allocations, _, hcaptures, requested_total_spec hlines, hallocations, ?_⟩
    rw [List.forall_mem_map]
    intro plan hplan
    obtain ⟨hid, -, hkept⟩ := hsame plan
    have hall := hall plan hplan
    unfold Allocated at hall ⊢
    rw [hid, hkept]
    exact hall
  · have hkept : (read.map (withRoundingAccount account)).flatMap (·.lines) = read.flatMap (·.lines) := by
      rw [List.flatMap_map]
      exact List.flatMap_congr fun plan _ => (hsame plan).2.2
    have hwithin := within_spec hlines hwithin
    unfold nominalOf at hwithin ⊢
    rw [hkept]
    exact hwithin
  · rw [List.forall_mem_map]
    intro plan hplan
    have hdifference : hasDifference (withRoundingAccount account plan) ↔ hasDifference plan := by
      unfold hasDifference
      rw [(hsame plan).2.2]
    simp only [hdifference]
    obtain ⟨_, _, _, _, -, -, _, -, hplanRead⟩ := hplans.2 plan hplan
    by_cases hdiff : hasDifference plan
    · obtain ⟨rfl, hsome⟩ := rounding_account_spec haccount hplan hdiff
      refine ⟨fun _ => hsome, ?_⟩
      rw [if_pos hdiff, withRoundingAccount, if_pos hdiff]
    · refine ⟨fun hd => absurd hd hdiff, ?_⟩
      rw [if_neg hdiff, withRoundingAccount, if_neg hdiff]
      exact hplanRead.unrounded

/-! ## A channel that names its own account -/

def samplePurchase : Payment :=
  { Channels.splitPurchase with items := (Table.empty.save { id := "item", totalAmount := 500000 }) }

/-- The answer pays 20.01 for 20.0050, and asks for an account of its own. -/
def sampleAnswer : Json :=
  .object [("plans", .array [.object [("originalOperationId", .string "capture-1"),
    ("originalChannelOperationId", .string "capture-1"), ("roundingAccountId", .string "channel"),
    ("lines", .array [.object [("originalPaymentItemId", .string "item"), ("nominalAmount", .string "20.0050"),
      ("providerAmount", .string "20.01")]])]])]

def sampleEnv : Env where
  localeLe := fun _ _ => true
  operations := Table.empty.save (Channels.captureOf "capture-1" 500000)
  laterOperations := Table.empty.save (Channels.captureOf "capture-1" 500000)
  prepareChannelRefund := fun _ _ => .ok sampleAnswer
  billingAccountId := some "platform"
  account := fun id => some ⟨id, "Platform", .commercial, false, false, none⟩

def sampleRequest : RefundRequestDTO := ⟨[⟨"item", some (4001 / 200)⟩]⟩

theorem prepared_plans_accepted_sample :
    ∃ plans, prepareRefundChannelPlan sampleEnv sampleRequest samplePurchase = .ok plans ∧
      Accepted sampleEnv sampleRequest samplePurchase plans ∧ plans.map (·.roundingAccountId) = [some "platform"] := by
  have hrun : ∃ plans ∈ (prepareRefundChannelPlan sampleEnv sampleRequest samplePurchase).toOption,
      plans.map (·.roundingAccountId) = [some "platform"] := by
    decide +kernel
  obtain ⟨plans, hplans, haccount⟩ := hrun
  have hok := toOption_eq_some.mp hplans
  exact ⟨plans, hok, prepared_plans_accepted _ _ _ _ hok, haccount⟩

end Postral.Refund.Plan
