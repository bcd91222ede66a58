import Postral.Iyzico.Agreement
import Postral.Operations.Settlement

/-!
# The settlement of a refund, in the channel and in the core

The channel keeps the state of every line, the core the lines that results have settled. The core
refuses a result that takes back a settled line.
-/

open Check Run

namespace Postral.Iyzico

/-! ## The plan of the core as the channel receives it -/

def wireLine (line : Postral.RefundChannelLine) : WireLine :=
  ⟨some line.originalPaymentItemId, some line.nominalAmount.text, some line.providerAmount.text⟩

def wirePlan (plan : RefundChannelPlan) : WirePlan where
  originalChannelOperationId := plan.originalChannelOperationId
  channelRoundingMode := plan.channelData.bind fun data =>
    (data.find? fun entry => entry.1 = "roundingMode").map fun entry => some entry.2
  lines := some (plan.lines.map fun line => some (wireLine line))

/-- What the core compares of a line. -/
def coreKey (line : Postral.RefundChannelLine) : String × String :=
  (line.originalPaymentItemId, line.providerAmount.text)

def channelKey (line : RefundChannelLine) : String × String := (line.originalPaymentItemId, line.providerAmount.text)

/-- The lines of a refund are those of the plan. -/
structure OfPlan (plan : RefundChannelPlan) (lines : List RefundChannelLine) : Prop where
  keys : (lines.map channelKey).Perm (plan.lines.map coreKey)
  nodup : (lines.map (·.originalPaymentItemId)).Nodup

theorem readLine_wireLine {line : Postral.RefundChannelLine} {read : RefundChannelLine}
    (h : readLine (some (wireLine line)) = some read) : channelKey read = coreKey line := by
  simp only [readLine, wireLine] at h
  split at h
  · rename_i hprovider
    split at h
    · obtain rfl := Option.some.inj h
      simp [channelKey, coreKey, Decimal.ofText?_eq_some.mp hprovider]
    · simp at h
  · simp at h

/-- The lines that `initialize` reserves are those of the plan. -/
theorem validate_of_plan {config : Config} {payment : RefundPayment} {plan : RefundChannelPlan} {valid : ValidRefund}
    (hplan : payment.refundPlan = some (wirePlan plan)) (h : validate config payment = .ok valid) :
    OfPlan plan valid.lines := by
  simp only [validate, readTarget, bind_eq_ok, orThrow_eq_ok, require_eq_ok, pure_eq_ok, hplan, Option.some.injEq] at h
  obtain ⟨target, ⟨_, -, _, rfl, _, -, _, -, lines, hlines, _, -, rfl⟩, _, -, planned, hread, ordered, hitems, _,
    ⟨hnodup, -⟩, rfl⟩ := h
  simp only [wirePlan, Option.some.injEq] at hlines
  subst hlines
  have hall := mapM_eq_some.mp hread
  rw [List.forall₂_map_left_iff] at hall
  have hkeys : planned.map channelKey = plan.lines.map coreKey :=
    forall₂_map_eq hall fun line read hline => readLine_wireLine hline
  refine ⟨?_, hnodup⟩
  rw [← hkeys]
  exact ((sort_lines_perm config ordered).trans (lines_of_items_perm hitems)).map channelKey

theorem validate_id {config : Config} {payment : RefundPayment} {valid : ValidRefund}
    (h : validate config payment = .ok valid) : payment.refundOperationId = some valid.refundOperationId := by
  simp only [validate, readTarget, bind_eq_ok, orThrow_eq_ok, require_eq_ok, pure_eq_ok] at h
  obtain ⟨target, ⟨_, ⟨-, -, hid, -⟩, _, -, _, -, _, -, _, -, _, -, rfl⟩, _, -, _, -, _, -, _, -, rfl⟩ := h
  cases hvalue : payment.refundOperationId with
  | none => simp [hvalue, truthy] at hid
  | some id => simp

/-! ## The system -/

/-- A refund operation of the core: its plan, its key and its payment. -/
structure RefundOperation where
  plan : RefundChannelPlan
  id : String
  id_ne : id ≠ ""
  paymentId : String

/-- Both services. -/
structure Joint where
  channel : State
  core : Operations.Db

inductive JointAct where
  | channel (act : Act)
  /-- `initialize` or `check` returns, and the core saves the result. -/
  | result (env : Operations.Env)

/-- The core sends the operation with its plan. -/
def Sends (operation : RefundOperation) : Act → Prop
  | .initializeRefund _ payment =>
    payment.refundOperationId = some operation.id → payment.refundPlan = some (wirePlan operation.plan)
  | _ => True

instance (operation : RefundOperation) (act : Act) : Decidable (Sends operation act) := by
  unfold Sends
  split <;> infer_instance

def saveResult (operation : RefundOperation) (env : Operations.Env) (core : Operations.Db) (result : RefundStatus) :
    Except HttpError Operations.Db :=
  Operations.saveRefundSettlementRecord env core operation.id result.toPaymentChannelStatusDTO operation.paymentId

def jointStep (config : Config) (operation : RefundOperation) (j : Joint) : JointAct → Option Joint
  | .channel act => if Sends operation act then (step config j.channel act).map fun s => { j with channel := s } else none
  | .result env =>
    match check j.channel.db operation.id with
    | .ok result =>
      match saveResult operation env j.core result with
      | .ok core => some { j with core := core }
      | .error _ => some j
    | .error _ => none

/-- The lines that the core has settled. -/
def settledIn (core : Operations.Db) (id : String) : List String :=
  ((core.operations.find id).map Operations.settledIds).getD []

/-- The line that the `catch` block of a call saves as not settled. -/
def unsettles (operation : RefundOperation) (s : State) (call : ℕ) : Option IyzicoRefundLine :=
  match s.calls call with
  | some (.stopping refund index) => if refund.id = operation.id then refund.lines[index]? else none
  | _ => none

/-- The `catch` block of a call saves no line that the core has settled. -/
def Unsettled (operation : RefundOperation) (j : Joint) : JointAct → Prop
  | .channel (.advance call _) | .channel (.fail call _ true) =>
    ∀ line ∈ unsettles operation j.channel call, line.originalPaymentItemId ∉ settledIn j.core operation.id
  | _ => True

instance (operation : RefundOperation) (j : Joint) (act : JointAct) : Decidable (Unsettled operation j act) := by
  unfold Unsettled
  split <;> infer_instance

/-! ## A settled line of the channel -/

/-- The line `index` of the refund `id` is SUCCEEDED. -/
def SettledLine (s : State) (id : String) (index : ℕ) (line : RefundChannelLine) : Prop :=
  ∃ refund stored, s.db.refunds.find id = some refund ∧ refund.lines[index]? = some stored ∧
    stored.toRefundChannelLine = line ∧ stored.state = .succeeded

variable {config : Config} {operation : RefundOperation} {s s' : State} {call index : ℕ} {answer : Answer} {id : String}
  {line : RefundChannelLine} {core : Operations.Db}

theorem SettledLine.of_lines (h : SettledLine s id index line)
    (hfind : ∀ r, s.db.refunds.find id = some r → ∃ r', s'.db.refunds.find id = some r' ∧ r'.lines = r.lines) :
    SettledLine s' id index line := by
  obtain ⟨r, stored, hr, hstored, hline, hstate⟩ := h
  obtain ⟨r', hr', hlines⟩ := hfind r hr
  exact ⟨r', stored, hr', by rw [hlines, hstored], hline, hstate⟩

theorem SettledLine.of_db (h : SettledLine s id index line) (hdb : s'.db.refunds = s.db.refunds) :
    SettledLine s' id index line :=
  h.of_lines fun r hr => ⟨r, by rw [hdb, hr], rfl⟩

/-- An update of the refund's state leaves the lines alone. -/
theorem SettledLine.of_update {other : String} {state : RefundState} (h : SettledLine s id index line)
    (hdb : s'.db = updateRefund s.db other fun stored => { stored with state := state }) :
    SettledLine s' id index line := by
  apply h.of_lines
  intro r hr
  rw [hdb, updateRefund]
  split <;> rename_i hfind
  · rename_i refund
    have hkey : refund.id = other := Table.key_of_find hfind
    rw [Table.find_save]
    split <;> rename_i hid
    · rw [hid, hkey, hfind] at hr
      obtain rfl := Option.some.inj hr
      exact ⟨_, rfl, rfl⟩
    · exact ⟨r, hr, rfl⟩
  · exact ⟨r, hr, rfl⟩

/-- The succeeded lines have left. -/
theorem Ordered.lt_of_succeeded {states : List LineState} (h : Ordered s id states) {count : ℕ}
    (hsent : submittedOf s id = List.range count) (hsucceeded : states[index]? = some .succeeded) : index < count := by
  obtain ⟨succeeded, stopped, reserved, left, rfl, hlength, hstops, hleft, hle, -, -, -⟩ := h
  have hcount : left = count := by simpa using congrArg List.length (hleft.symm.trans hsent)
  subst hcount
  refine lt_of_lt_of_le ?_ hle
  by_contra hnot
  rw [List.append_assoc, List.getElem?_append_right (by simpa using hnot)] at hsucceeded
  have hmem := List.mem_of_getElem? hsucceeded
  rcases List.mem_append.mp hmem with hmem | hmem
  · rcases hstops _ hmem with h | h | h <;> simp at h
  · simp at hmem

/-- What the save of a call's lines does to a line that is SUCCEEDED. -/
theorem save_settled_line {refund saved : IyzicoRefund} {a k bound : ℕ} {state : LineState} {refundState : Option RefundState}
    (hinv : Inv s) (hrun : Running s refund a k) (hcore : SameCore refund saved)
    (hstates : saved.states = progress bound saved.lines.length state) (hk : k ≤ bound + 1)
    (hdb : s'.db = saveLines s.db saved refundState) (h : SettledLine s id index line) :
    SettledLine s' id index line ∨ (id = saved.id ∧ index = bound ∧ index < k ∧ state ≠ .succeeded ∧
      ∃ stored, saved.lines[index]? = some stored ∧ stored.toRefundChannelLine = line) := by
  obtain ⟨r, hr, hcore₀, -⟩ := hrun.stored
  have hr' := hr
  rw [← hcore.id] at hr'
  obtain ⟨hfind, hothers⟩ := save_lines_spec refundState hr'
  by_cases hid : id = saved.id
  · obtain ⟨x, stored, hx, hstored, hline, hstate⟩ := h
    obtain rfl : r = x := by
      rw [hid, hr', Option.some.injEq] at hx
      exact hx
    have hlt : index < k := by
      apply (hinv.ordered refund.id r hr).lt_of_succeeded hrun.sent
      simp [IyzicoRefund.states, hstored, hstate]
    have hdetail := congrArg (fun details => details[index]?) (hcore₀.trans hcore).lines
    simp only [List.getElem?_map, hstored, Option.map_some] at hdetail
    obtain ⟨stored', hstored', hdetail'⟩ := Option.map_eq_some_iff.mp hdetail
    have hline' : stored'.toRefundChannelLine = line := by
      rw [← hline]
      exact congrArg Prod.fst hdetail'
    have hstate' : saved.states[index]? = some stored'.state := by simp [IyzicoRefund.states, hstored']
    by_cases hsucceeded : stored'.state = .succeeded
    · refine Or.inl ⟨{ r with lines := saved.lines, state := refundState.getD r.state }, stored', ?_, hstored', hline',
        hsucceeded⟩
      rw [hdb, hid]
      exact hfind
    · -- Every line before `bound` is saved as SUCCEEDED.
      have hbound : index = bound := by
        by_contra hne
        apply hsucceeded
        rw [hstates, progress, List.getElem?_append_left (by simp; omega),
          List.getElem?_replicate_of_lt (by omega), Option.some.injEq] at hstate'
        exact hstate'.symm
      have hstate : state ≠ .succeeded := by
        rintro rfl
        apply hsucceeded
        rw [hstates, progress, List.getElem?_append_right (by simp [hbound])] at hstate'
        simpa [hbound] using hstate'.symm
      exact Or.inr ⟨hid, hbound, hlt, hstate, stored', hstored', hline'⟩
  · exact Or.inl (h.of_lines fun r hr => ⟨r, by rw [hdb, hothers id hid, hr], rfl⟩)

/-! ## What a step of a call writes -/

theorem reserve_id {db db' : Db} {valid : ValidRefund} {refund : IyzicoRefund} {providerPaymentId : String}
    (h : reserve db valid = .ok (db', refund, providerPaymentId)) : refund.id = valid.refundOperationId := by
  simp only [reserve, bind_eq_ok, Prod.exists] at h
  obtain ⟨source, _, -, h⟩ := h
  split at h <;> rename_i hfind
  · simp only [bind_eq_ok, require_eq_ok, pure_eq_ok, Prod.mk.injEq] at h
    obtain ⟨_, -, -, rfl, -⟩ := h
    exact Table.key_of_find hfind
  · simp only [bind_eq_ok, require_eq_ok, pure_eq_ok, Prod.mk.injEq] at h
    obtain ⟨_, -, _, -, -, rfl, -⟩ := h
    rfl

/-- A call saves its copy of the lines up to `bound`. Only a `catch` block can save fewer SUCCEEDED
lines than have left. -/
structure Saves (s : State) (point : Point) (refund saved : IyzicoRefund) (bound : ℕ) : Prop where
  core : SameCore refund saved
  states : ∃ count state, saved.states = progress bound saved.lines.length state ∧ (∃ a, Running s refund a count) ∧
    count ≤ bound + 1 ∧ (state = .succeeded ∨ count ≤ bound ∨ point = .stopping saved bound)

inductive Write (s : State) (point : Point) : Db → Prop where
  | same : Write s point s.db
  | stated {id : String} {state : RefundState} :
      Write s point (updateRefund s.db id fun stored => { stored with state := state })
  | saved {refund saved : IyzicoRefund} {bound : ℕ} {state : Option RefundState} (h : Saves s point refund saved bound) :
      Write s point (saveLines s.db saved state)
  | inserted {valid : ValidRefund} {source : IyzicoOperation} {refund : IyzicoRefund} (hpoint : point = .reserving valid)
      (hid : refund.id = valid.refundOperationId) (hnew : NewRefund s.db source valid.lines refund) :
      Write s point { s.db with refunds := s.db.refunds.save refund }

theorem perform_write {point : Point} (hinv : Inv s) (hcall : s.calls call = some point) (answer : Answer) :
    Write s point (perform s answer point).db := by
  have halong := hinv.along call point hcall
  cases point with
  | reserving valid =>
    unfold perform
    dsimp only
    split
    · rename_i hreserve
      rcases reserve_spec hreserve with ⟨rfl, -⟩ | ⟨source, -, -, hnew, rfl⟩
      · exact .same
      · exact .inserted rfl (reserve_id hreserve) hnew
    · exact .same
  | claiming refund providerPaymentId =>
    unfold perform
    dsimp only
    split
    · rename_i hclaim
      unfold claim at hclaim
      split at hclaim
      · split at hclaim
        · obtain rfl := Option.some.inj hclaim
          exact .stated
        · simp at hclaim
      · simp at hclaim
    · exact .same
  | marking refund providerPaymentId bound =>
    obtain ⟨hle, hstates, hrun⟩ := halong
    unfold perform
    dsimp only
    split <;> rename_i hlt
    · refine .saved ⟨sameCore_setLine fun _ => rfl, bound, .submitting, ?_, ⟨bound, hrun⟩, Nat.le_succ _, Or.inr (Or.inl le_rfl)⟩
      rw [length_setLine]
      exact states_setLine (pending_of_lt hlt ▸ hstates) fun _ => rfl
    · exact .stated
  | submitting refund => exact .same
  | awaiting refund => cases answer <;> exact .same
  | recording refund providerPaymentId bound =>
    obtain ⟨hlt, hstates, hrun⟩ := halong
    exact .saved ⟨sameCore_refl refund, _, .succeeded, hstates, ⟨_, hrun⟩, le_rfl, Or.inl rfl⟩
  | stopping refund bound =>
    obtain ⟨hlt, state, count, -, hstates, hrun, -, hge, -⟩ := halong
    exact .saved ⟨sameCore_refl refund, count, state, hstates, ⟨_, hrun⟩, hge, Or.inr (Or.inr rfl)⟩
  | checking => exact .same

/-- A settled line stays settled, unless a `catch` block saves it. -/
theorem write_settled_line {point : Point} (hinv : Inv s) (hwrite : Write s point s'.db)
    (h : SettledLine s id index line) :
    SettledLine s' id index line ∨ ∃ refund stored, point = .stopping refund index ∧ refund.id = id ∧
      refund.lines[index]? = some stored ∧ stored.toRefundChannelLine = line := by
  generalize hdb : s'.db = db at hwrite
  cases hwrite with
  | same => exact Or.inl (h.of_db (by rw [hdb]))
  | stated => exact Or.inl (h.of_update hdb)
  | @saved refund saved bound state hsaves =>
    obtain ⟨count, lineState, hstates, ⟨a, hrun⟩, hcount, hlast⟩ := hsaves.states
    rcases save_settled_line hinv hrun hsaves.core hstates hcount hdb h with
      hkeep | ⟨hid, rfl, hlt, hstate, stored, hstored, hline⟩
    · exact Or.inl hkeep
    · rcases hlast with rfl | hle | rfl
      · exact absurd rfl hstate
      · omega
      · exact Or.inr ⟨saved, stored, rfl, hid.symm, hstored, hline⟩
  | @inserted valid source refund hpoint _ hnew =>
    refine Or.inl (h.of_lines fun r hr => ⟨r, ?_, rfl⟩)
    have hne : id ≠ refund.id := by
      rintro rfl
      simp [hnew.fresh] at hr
    rw [hdb, Table.find_save_of_ne hne, hr]

theorem step_settled_line {act : Act} (hinv : Inv s) (h : step config s act = some s')
    (hunsettled : Unsettled operation ⟨s, core⟩ (.channel act)) (hline : SettledLine s operation.id index line)
    (hsettled : line.originalPaymentItemId ∈ settledIn core operation.id) : SettledLine s' operation.id index line := by
  have hmoved : ∀ {call answer} (s' : State) {point : Point}, s.calls call = some point →
      (∀ stored ∈ unsettles operation s call, stored.originalPaymentItemId ∉ settledIn core operation.id) →
      s'.db = (perform s answer point).db → SettledLine s' operation.id index line := by
    intro call answer s' point hcall hok hdb
    rcases write_settled_line hinv (hdb ▸ perform_write hinv hcall answer) hline with hkeep | ⟨refund, stored, rfl, hid, hstored, heq⟩
    · exact hkeep
    · have hnot := hok stored (by simp [unsettles, hcall, hid, hstored])
      rw [← heq] at hsettled
      exact absurd hsettled hnot
  cases act with
  | initializeRefund call payment =>
    simp only [step] at h
    split at h
    · split at h <;> obtain rfl := Option.some.inj h
      · exact hline.of_db rfl
      · exact hline
    · simp at h
  | advance call answer =>
    simp only [step] at h
    split at h
    · rename_i point hcall
      obtain rfl := Option.some.inj h
      exact hmoved _ hcall hunsettled rfl
    · simp at h
  | fail call answer applied =>
    simp only [step] at h
    split at h
    · rename_i point hcall
      obtain rfl := Option.some.inj h
      cases applied with
      | true => exact hmoved _ hcall hunsettled rfl
      | false => exact hline.of_db rfl
    · simp at h
  | crash call =>
    obtain rfl := Option.some.inj h
    exact hline.of_db rfl
  | capture captured =>
    simp only [step] at h
    split at h
    · simp at h
    · obtain rfl := Option.some.inj h
      exact hline.of_db rfl

/-! ## The lines of the plan -/

def IyzicoRefund.planned (refund : IyzicoRefund) : List RefundChannelLine := refund.lines.map (·.toRefundChannelLine)

/-- Whatever the channel keeps for the operation has the lines of its plan. -/
structure Planned (operation : RefundOperation) (s : State) : Prop where
  calls : ∀ c valid, s.calls c = some (.reserving valid) → valid.refundOperationId = operation.id →
    OfPlan operation.plan valid.lines
  refunds : ∀ r, s.db.refunds.find operation.id = some r → OfPlan operation.plan r.planned

theorem SameCore.planned {r r' : IyzicoRefund} (h : SameCore r r') : r'.planned = r.planned := by
  have hlines := congrArg (List.map Prod.fst) h.lines
  rw [List.map_map, List.map_map] at hlines
  exact hlines

theorem NewRefund.planned {db : Db} {source : IyzicoOperation} {lines : List RefundChannelLine} {refund : IyzicoRefund}
    (h : NewRefund db source lines refund) : refund.planned = lines := by
  have hsame := forall₂_map_eq (f := id) (g := fun reserved : IyzicoRefundLine => reserved.toRefundChannelLine) h.lines
    fun line reserved hline => by
      obtain ⟨_, hreserve⟩ := hline
      obtain ⟨_, -, -, -, heq, -⟩ := reserve_line_spec hreserve
      exact heq
  rwa [List.map_id] at hsame

theorem write_planned {point : Point} {db : Db} (hwrite : Write s point db) {r' : IyzicoRefund}
    (hr' : db.refunds.find id = some r') : (∃ r, s.db.refunds.find id = some r ∧ r'.planned = r.planned) ∨
      ∃ valid, point = .reserving valid ∧ valid.refundOperationId = id ∧ r'.planned = valid.lines := by
  cases hwrite with
  | same => exact Or.inl ⟨r', hr', rfl⟩
  | @stated other state =>
    left
    unfold updateRefund at hr'
    split at hr' <;> rename_i hfind
    · rename_i refund
      have hkey : refund.id = other := Table.key_of_find hfind
      rw [Table.find_save] at hr'
      split at hr' <;> rename_i hid
      · obtain rfl := Option.some.inj hr'
        exact ⟨refund, by rw [hid, hkey, hfind], rfl⟩
      · exact ⟨r', hr', rfl⟩
    · exact ⟨r', hr', rfl⟩
  | @saved refund saved bound state hsaves =>
    left
    obtain ⟨_, _, -, ⟨_, hrun⟩, -⟩ := hsaves.states
    obtain ⟨r, hr, hcore₀, -⟩ := hrun.stored
    rw [← hsaves.core.id] at hr
    obtain ⟨hfind, hothers⟩ := save_lines_spec state hr
    by_cases hid : id = saved.id
    · subst hid
      rw [hfind, Option.some.injEq] at hr'
      refine ⟨r, hr, ?_⟩
      rw [← hr', ← (hcore₀.trans hsaves.core).planned]
      rfl
    · exact ⟨r', by rw [← hothers id hid, hr'], rfl⟩
  | @inserted valid source refund hpoint hkey hnew =>
    rw [Table.find_save] at hr'
    split at hr' <;> rename_i hid
    · obtain rfl := Option.some.inj hr'
      exact Or.inr ⟨valid, hpoint, by rw [hid, hkey], hnew.planned⟩
    · exact Or.inl ⟨r', hr', rfl⟩

theorem step_planned {act : Act} (hinv : Inv s) (hplanned : Planned operation s) (hsends : Sends operation act)
    (h : step config s act = some s') : Planned operation s' := by
  have hcalls : ∀ {call : ℕ} {e : Effect}, (∀ valid, e.next ≠ some (.reserving valid)) → ∀ c valid,
      (s.apply call e).calls c = some (.reserving valid) → valid.refundOperationId = operation.id →
      OfPlan operation.plan valid.lines := by
    intro call e hnext c valid hc
    simp only [State.apply, Function.update_apply] at hc
    split at hc
    · exact absurd hc (hnext valid)
    · exact hplanned.calls c valid hc
  have hwritten : ∀ {call : ℕ} {point : Point} (answer : Answer), s.calls call = some point →
      ∀ r, (perform s answer point).db.refunds.find operation.id = some r → OfPlan operation.plan r.planned := by
    intro call point answer hcall r hr
    rcases write_planned (perform_write hinv hcall answer) hr with ⟨r₀, hr₀, heq⟩ | ⟨valid, rfl, hid, heq⟩
    · rw [heq]
      exact hplanned.refunds r₀ hr₀
    · rw [heq]
      exact hplanned.calls call valid hcall hid
  cases act with
  | initializeRefund call payment =>
    simp only [step] at h
    split at h
    · split at h <;> obtain rfl := Option.some.inj h
      · rename_i valid hvalid
        refine ⟨fun c valid' hc hid => ?_, hplanned.refunds⟩
        simp only [State.apply, State.goes, Function.update_apply] at hc
        split at hc
        · obtain rfl : valid = valid' := by simpa using hc
          exact validate_of_plan (hsends (by rw [validate_id hvalid, hid])) hvalid
        · exact hplanned.calls c valid' hc hid
      · exact hplanned
    · simp at h
  | advance call answer =>
    simp only [step] at h
    split at h
    · rename_i point hcall
      obtain rfl := Option.some.inj h
      exact ⟨hcalls (perform_not_reserving s answer point), hwritten answer hcall⟩
    · simp at h
  | fail call answer applied =>
    simp only [step] at h
    split at h
    · rename_i point hcall
      obtain rfl := Option.some.inj h
      refine ⟨hcalls (caught_not_reserving point), ?_⟩
      cases applied with
      | true => exact hwritten answer hcall
      | false => exact hplanned.refunds
    · simp at h
  | crash call =>
    obtain rfl := Option.some.inj h
    exact ⟨hcalls (by simp [State.goes]), hplanned.refunds⟩
  | capture captured =>
    simp only [step] at h
    split at h
    · simp at h
    · obtain rfl := Option.some.inj h
      exact ⟨hplanned.calls, hplanned.refunds⟩

end Postral.Iyzico
