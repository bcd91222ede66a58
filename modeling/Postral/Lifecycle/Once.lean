import Postral.Lifecycle.Resume

/-!
# Side effects of a completion

Who produces them, over whole runs: a history lists every effect with its call.
-/

open Check Run

namespace Postral.Lifecycle

/-! ## Histories -/

/-- What a completion produces. `published` is the digestion event and the completed event, which are
sent together. -/
inductive SideEffect where
  | fired (operationId : String)
  | ordered (targetAccountId : Option String)
  | entered
  | published
  deriving DecidableEq

structure Production where
  call : ℕ
  paymentId : String
  effect : SideEffect
  deriving DecidableEq

/-- What the next step produces, and for which payment. -/
def Point.produces : Point → Option (String × SideEffect)
  | .firing p (operation :: _) => some (p.id, .fired operation.id)
  | .ordering p _ (order :: _) => some (p.id, .ordered order.targetAccountId)
  | .ledgerSaving p _ _ => some (p.id, .entered)
  | .publishing p => some (p.id, .published)
  | _ => none

/-- A step that throws produces nothing. -/
def production (s : State) : Act → List Production
  | .advance call env =>
    match s.calls call with
    | .active point _ =>
      if (pointStep s.db s.now env point).isOk then point.produces.toList.map fun (id, effect) => ⟨call, id, effect⟩ else []
    | .idle => []
  | _ => []

structure History where
  state : State
  /-- Oldest first. -/
  produced : List Production

def record (h : History) (act : Act) : Option History :=
  (step h.state act).map fun s => ⟨s, h.produced ++ production h.state act⟩

/-- The effects for one payment, each with its call. -/
def History.producedFor (h : History) (id : String) : List (ℕ × SideEffect) :=
  (h.produced.filter fun production => production.paymentId = id).map fun production => (production.call, production.effect)

/-- Uninterrupted updates, and no call saves the entity of a payment that is COMPLETED by then. -/
def Solitary (h : History) (act : Act) : Prop :=
  Uninterrupted h.state act ∧
  match act with
  | .advance call _ =>
    match h.state.calls call with
    | .active point _ => ∀ q ∈ point.saved, statusOf h.state.db q.id ≠ some .completed
    | .idle => True
  | _ => True

instance (h : History) : DecidablePred (Solitary h) := fun act =>
  match act with
  | .advance call env =>
    (match h.state.calls call with
    | .active _ _ => inferInstance
    | .idle => inferInstance :
      Decidable (Uninterrupted h.state (.advance call env) ∧ match h.state.calls call with
        | .active point _ => ∀ q ∈ point.saved, statusOf h.state.db q.id ≠ some .completed
        | .idle => True))
  | .updatePaymentByOperationStatuses .. | .checkAndUpdateWaitingPayments _ | .handlePaymentOperationStatusUpdated ..
  | .startOperation .. | .cancelPayment .. | .confirmOpenPayment .. | .failPaymentIfSetFailFieldTrue ..
  | .fail _ | .crash _ | .tick _ => inferInstanceAs (Decidable (Uninterrupted h.state _ ∧ True))

theorem record_spec {h h' : History} {act : Act} (hrecord : record h act = some h') :
    step h.state act = some h'.state ∧ h'.produced = h.produced ++ production h.state act := by
  unfold record at hrecord
  obtain ⟨s, hs, rfl⟩ := Option.map_eq_some_iff.mp hrecord
  exact ⟨hs, rfl⟩

/-! ## The targets of the seller orders -/

theorem addToOrder_map_target (object : SellerPaymentOrderDTO) (orders : List SellerPaymentOrderDTO) :
    (addToOrder object orders).map (·.targetAccountId) =
      if object.targetAccountId ∈ orders.map (·.targetAccountId) then orders.map (·.targetAccountId)
      else orders.map (·.targetAccountId) ++ [object.targetAccountId] := by
  induction orders with
  | nil => simp [addToOrder]
  | cons order rest ih =>
    unfold addToOrder
    by_cases hhead : order.targetAccountId = object.targetAccountId
    · simp [hhead]
    · rw [if_neg hhead, List.map_cons, ih, List.map_cons]
      by_cases hrest : object.targetAccountId ∈ rest.map (·.targetAccountId)
      · simp [hrest]
      · simp [hrest, Ne.symm hhead]

theorem sellerPaymentOrders_nodup (p : Payment) : ((sellerPaymentOrders p).map (·.targetAccountId)).Nodup := by
  unfold sellerPaymentOrders
  apply List.foldlRecOn (motive := fun orders : List SellerPaymentOrderDTO => (orders.map (·.targetAccountId)).Nodup)
    p.items.rows
  · exact List.nodup_nil
  · intro orders horders item _
    rw [addToOrder_map_target]
    split <;> rename_i hmem
    · exact horders
    · rw [List.nodup_append_comm]
      exact List.nodup_cons.mpr ⟨hmem, horders⟩

/-! ## What a completion has produced -/

/-- What a call has produced when it is at this point. -/
def Produced (effects : List SideEffect) : Point → Prop
  | .listingReady _ => effects = []
  | .firing _ operations => ∃ fired : List String, effects = fired.map .fired ∧ (fired ++ operations.map (·.id)).Nodup
  | .ordering p _ orders => ∃ (fired : List String) (targets : List (Option String)), fired.Nodup ∧
      effects = fired.map .fired ++ targets.map .ordered ∧
      targets ++ orders.map (·.targetAccountId) = (sellerPaymentOrders p).map (·.targetAccountId)
  | .ledgerLoading p _ | .ledgerRemoving p _ _ | .ledgerSaving p _ _ => ∃ fired : List String, fired.Nodup ∧
      effects = fired.map .fired ++ (sellerPaymentOrders p).map fun order => .ordered order.targetAccountId
  | .publishing p => ∃ fired : List String, fired.Nodup ∧
      effects = (fired.map .fired ++ (sellerPaymentOrders p).map fun order => .ordered order.targetAccountId) ++ [.entered]
  | _ => False

/-- The operations, then the orders, then the ledger and the events. -/
def completionEffects (fired : List String) (targets : List (Option String)) : List SideEffect :=
  fired.map .fired ++ targets.map .ordered ++ [.entered, .published]

/-- All effects of a completion, and no operation fired twice. -/
def Everything (p : Payment) (effects : List SideEffect) : Prop :=
  ∃ fired : List String, fired.Nodup ∧ effects = completionEffects fired ((sellerPaymentOrders p).map (·.targetAccountId))

theorem produced_step {db db' : Db} {now : ℕ} {env : Env} {point : Point} {next : Option Point} {q : Payment}
    {effects : List SideEffect} (hproduced : Produced effects point) (hq : point.finishing = some q)
    (hupdating : point.updating = true) (h : pointStep db now env point = .ok (db', next)) :
    let effects' := effects ++ point.produces.toList.map (·.2)
    (∀ point', next = some point' → Produced effects' point') ∧ (next = none → Everything q effects') := by
  cases point with
  | listingReady p =>
    obtain rfl : effects = [] := hproduced
    simp only [pointStep, pure_eq_ok, Prod.mk.injEq] at h
    obtain ⟨-, rfl⟩ := h
    refine ⟨?_, by simp⟩
    rintro _ ⟨⟩
    have hsub : (operationsIn db p.id .ready).Sublist db.operations.rows := List.filter_sublist.trans List.filter_sublist
    exact ⟨[], by simp [Point.produces], by simpa using (hsub.map _).nodup db.operations.nodup⟩
  | firing p operations =>
    obtain ⟨fired, rfl, hnodup⟩ := hproduced
    cases operations with
    | nil =>
      simp only [pointStep, pure_eq_ok, Prod.mk.injEq] at h
      obtain ⟨-, rfl⟩ := h
      refine ⟨?_, by simp⟩
      rintro _ ⟨⟩
      exact ⟨fired, [], by simpa using hnodup, by simp [Point.produces], by simp⟩
    | cons operation rest =>
      simp only [pointStep, bind_eq_ok, pure_eq_ok, Prod.mk.injEq] at h
      obtain ⟨_, -, -, rfl⟩ := h
      refine ⟨?_, by simp⟩
      rintro _ ⟨⟩
      exact ⟨fired ++ [operation.id], by simp [Point.produces], by simpa using hnodup⟩
  | ordering p confirmed orders =>
    obtain ⟨fired, targets, hnodup, rfl, htargets⟩ := hproduced
    cases orders with
    | nil =>
      simp only [pointStep, pure_eq_ok, Prod.mk.injEq] at h
      obtain ⟨-, rfl⟩ := h
      refine ⟨?_, by simp⟩
      rintro _ ⟨⟩
      refine ⟨fired, hnodup, ?_⟩
      obtain rfl : targets = (sellerPaymentOrders p).map (·.targetAccountId) := by simpa using htargets
      simp [Point.produces]
    | cons order rest =>
      simp only [pointStep, bind_eq_ok, pure_eq_ok, Prod.mk.injEq] at h
      obtain ⟨_, -, -, rfl⟩ := h
      refine ⟨?_, by simp⟩
      rintro _ ⟨⟩
      exact ⟨fired, targets ++ [order.targetAccountId], hnodup, by simp [Point.produces], by simpa using htargets⟩
  | ledgerLoading p confirmed =>
    simp only [pointStep, bind_eq_ok, pure_eq_ok, Prod.mk.injEq] at h
    obtain ⟨_, -, -, rfl⟩ := h
    refine ⟨?_, by simp⟩
    rintro _ ⟨⟩
    simpa [Point.produces, Produced] using hproduced
  | ledgerRemoving p confirmed entries =>
    simp only [pointStep, pure_eq_ok, Prod.mk.injEq] at h
    obtain ⟨-, rfl⟩ := h
    refine ⟨?_, by simp⟩
    rintro _ ⟨⟩
    simpa [Point.produces, Produced] using hproduced
  | ledgerSaving p confirmed entries =>
    obtain rfl : confirmed = false := by simpa [Point.updating] using hupdating
    obtain ⟨fired, hnodup, rfl⟩ := hproduced
    simp only [pointStep, afterLedger, pure_eq_ok, Prod.mk.injEq] at h
    obtain ⟨-, rfl⟩ := h
    refine ⟨?_, by simp⟩
    rintro _ ⟨⟩
    exact ⟨fired, hnodup, by simp [Point.produces]⟩
  | publishing p =>
    obtain rfl := Option.some.inj hq
    obtain ⟨fired, hnodup, rfl⟩ := hproduced
    simp only [pointStep, bind_eq_ok, pure_eq_ok, Prod.mk.injEq] at h
    obtain ⟨_, -, -, rfl⟩ := h
    exact ⟨by simp, fun _ => ⟨fired, hnodup, by simp [Point.produces, completionEffects]⟩⟩
  | closingOrders | closing | confirmPublishing => simp [Point.updating] at hupdating
  | _ => simp [Point.finishing] at hq

/-! ## The invariant -/

/-- The call has saved COMPLETED with the entity `p` and is at `point`. -/
def Finishes (s : State) (call : ℕ) (point : Point) (p : Payment) : Prop :=
  ∃ rest, s.calls call = .active point rest ∧ point.finishing = some p

structure Once (initial : Db) (h : History) : Prop where
  completing : Completing h.state
  /-- One call completes a payment. -/
  single : ∀ call point p call' point' p', Finishes h.state call point p → Finishes h.state call' point' p' → p.id = p'.id →
    call = call'
  status : ∀ call point p, Finishes h.state call point p → statusOf h.state.db p.id = some .completed ∧
    statusOf initial p.id ≠ some .completed
  kept : ∀ id, statusOf initial id = some .completed → statusOf h.state.db id = some .completed
  produced : ∀ call point p, Finishes h.state call point p → ∃ effects, h.producedFor p.id = effects.map (Prod.mk call) ∧
    Produced effects point
  finished : ∀ id p, h.state.db.payments.find id = some p → p.paymentStatus = .completed →
    statusOf initial id ≠ some .completed → (∀ call point q, Finishes h.state call point q → q.id ≠ id) →
    ∃ call effects q, h.producedFor id = effects.map (Prod.mk call) ∧ core q = core p ∧ Everything q effects
  nothing : ∀ id, statusOf initial id = some .completed ∨ statusOf h.state.db id ≠ some .completed → h.producedFor id = []

theorem production_eq_nil {s : State} {act : Act} (h : ∀ call env point rest db' next, act = .advance call env →
    s.calls call = .active point rest → pointStep s.db s.now env point = .ok (db', next) → point.produces = none) :
    production s act = [] := by
  unfold production
  split <;> rename_i call env
  · split <;> rename_i point rest hcall
    · split <;> rename_i hok
      · cases hpoint : pointStep s.db s.now env point with
        | error e => simp [hpoint, Except.isOk, Except.toBool] at hok
        | ok result =>
          obtain ⟨db', next⟩ := result
          simp [h call env point rest db' next rfl hcall hpoint]
      · rfl
    · rfl
  · rfl

theorem Point.produces_finishing {point : Point} {id : String} {effect : SideEffect} (h : point.produces = some (id, effect)) :
    ∃ p, point.finishing = some p ∧ p.id = id := by
  unfold Point.produces at h
  split at h <;> simp_all [Point.finishing]

theorem producedFor_of_nil {h h' : History} {act : Act} (hproduced : h'.produced = h.produced ++ production h.state act)
    (hnil : production h.state act = []) (id : String) : h'.producedFor id = h.producedFor id := by
  simp [History.producedFor, hproduced, hnil]

/-- The step leaves alone who completes what, and the stored statuses, and produces nothing. -/
theorem once_of_same {initial : Db} {h h' : History} (honce : Once initial h) (hcompleting : Completing h'.state)
    (hfinishes : ∀ call point p, Finishes h'.state call point p ↔ Finishes h.state call point p)
    (hstatus : ∀ id, statusOf h'.state.db id = some .completed ↔ statusOf h.state.db id = some .completed)
    (hcore : ∀ id p', h'.state.db.payments.find id = some p' → ∃ p, h.state.db.payments.find id = some p ∧ core p' = core p)
    (hproduced : ∀ id, h'.producedFor id = h.producedFor id) : Once initial h' := by
  refine ⟨hcompleting, ?_, ?_, ?_, ?_, ?_, ?_⟩
  · intro call point p call' point' p' hfin hfin'
    exact honce.single _ _ _ _ _ _ ((hfinishes _ _ _).mp hfin) ((hfinishes _ _ _).mp hfin')
  · intro call point p hfin
    rw [hstatus]
    exact honce.status _ _ _ ((hfinishes _ _ _).mp hfin)
  · exact fun id hid => (hstatus id).mpr (honce.kept id hid)
  · intro call point p hfin
    rw [hproduced]
    exact honce.produced _ _ _ ((hfinishes _ _ _).mp hfin)
  · intro id p' hp' hcompleted hinitial hnone
    obtain ⟨p, hp, hpcore⟩ := hcore id p' hp'
    have hstored : statusOf h.state.db id = some .completed := (hstatus id).mp (by simp [statusOf, hp', hcompleted])
    rw [hproduced]
    obtain ⟨call, effects, q, heffects, hqcore, hall⟩ := honce.finished id p hp (by simpa [statusOf, hp] using hstored) hinitial
      fun call point q hfin => hnone call point q ((hfinishes _ _ _).mpr hfin)
    exact ⟨call, effects, q, heffects, hqcore.trans hpcore.symm, hall⟩
  · intro id hid
    rw [hproduced]
    exact honce.nothing id (hid.imp_right fun hnot => by rwa [ne_eq, ← hstatus])

/-! ## One step -/

theorem effect_cores {db db' : Db} {env : Env} {point : Point} (h : Effect db env point db') (hagrees : point.Agrees db)
    (id : String) (p' : Payment) (hp' : db'.payments.find id = some p') :
    ∃ p, db.payments.find id = some p ∧ core p' = core p :=
  (effect_keeps h hagrees).origin id p' hp'

/-- A call that does not move on, and calls that start, complete nothing. -/
theorem finishes_of_update {s s' : State} {moved : ℕ} {next : Call}
    (hcalls : s'.calls = Function.update s.calls moved next) (hold : ∀ point p, ¬ Finishes s moved point p)
    (hnew : ∀ point rest, next = .active point rest → point.finishing = none) (call : ℕ) (point : Point) (p : Payment) :
    Finishes s' call point p ↔ Finishes s call point p := by
  unfold Finishes
  rw [hcalls]
  by_cases hcall : call = moved
  · subst hcall
    constructor
    · rintro ⟨rest, hnext, hp⟩
      rw [Function.update_self] at hnext
      simp [hnew point rest hnext] at hp
    · exact fun hfin => absurd hfin (hold point p)
  · rw [Function.update_of_ne hcall]

theorem continueAt_finishing {next : Option Point} (h : ∀ point, next = some point → point.finishing = none) {rest : List String}
    {point : Point} {rest' : List String} (hcall : continueAt next rest = .active point rest') : point.finishing = none := by
  cases next with
  | some point' =>
    obtain ⟨rfl, -⟩ : point' = point ∧ rest = rest' := by simpa [continueAt] using hcall
    exact h point' rfl
  | none =>
    cases rest with
    | nil => simp [continueAt] at hcall
    | cons id rest =>
      obtain ⟨rfl, -⟩ : Point.loading id true = point ∧ rest = rest' := by simpa [continueAt] using hcall
      rfl

theorem thrown_finishing {point point' : Point} {rest : List String} (hcall : thrown point = .active point' rest) :
    point'.finishing = none := by
  refine continueAt_finishing (fun next hnext => ?_) hcall
  unfold afterThrow at hnext
  split at hnext <;> first | rw [← Option.some.inj hnext]; rfl | simp at hnext

/-- The step that saves COMPLETED over another status: from here on this call completes the payment. -/
theorem once_of_completing {initial : Db} {h h' : History} {moved : ℕ} {q : Payment} {rest : List String}
    (honce : Once initial h) (hcompleting : Completing h'.state) (hmoved : h.state.calls moved = .active (.completing q) rest)
    (hstate : h'.state = (h.state.setDb (savePayment h.state.db q)).setCall moved (.active (.listingReady q) rest))
    (hnot : statusOf h.state.db q.id ≠ some .completed) (hproduced : ∀ id, h'.producedFor id = h.producedFor id) :
    Once initial h' := by
  obtain ⟨hsound, -, -⟩ := honce.completing.points moved _ rest hmoved
  have hcompleted : q.paymentStatus = .completed := (hsound q rfl).mpr rfl
  have hstatus : ∀ id, statusOf h'.state.db id = if id = q.id then some .completed else statusOf h.state.db id := by
    intro id
    rw [hstate, ← hcompleted]
    exact statusOf_savePayment _ _ _
  have hfinishes : ∀ call point p, Finishes h'.state call point p ↔
      (call = moved ∧ point = .listingReady q ∧ p = q) ∨ (call ≠ moved ∧ Finishes h.state call point p) := by
    intro call point p
    simp only [Finishes, hstate, State.setCall, State.setDb]
    by_cases hcall : call = moved
    · subst hcall
      simp only [Function.update_self, Call.active.injEq, true_and, ne_eq, not_true, false_and, or_false]
      constructor
      · rintro ⟨_, ⟨rfl, -⟩, hp⟩
        exact ⟨rfl, (Option.some.inj hp).symm⟩
      · rintro ⟨rfl, rfl⟩
        exact ⟨rest, ⟨rfl, rfl⟩, rfl⟩
    · simp [hcall]
  -- Nobody else completes this payment.
  have hother : ∀ call point p, Finishes h.state call point p → p.id ≠ q.id := by
    intro call point p hfin hid
    exact hnot (hid ▸ (honce.status call point p hfin).1)
  refine ⟨hcompleting, ?_, ?_, ?_, ?_, ?_, ?_⟩
  · intro call point p call' point' p' hfin hfin' hid
    rcases (hfinishes _ _ _).mp hfin with ⟨rfl, rfl, rfl⟩ | ⟨hne, hfin⟩ <;>
      rcases (hfinishes _ _ _).mp hfin' with ⟨rfl, rfl, rfl⟩ | ⟨hne', hfin'⟩
    · rfl
    · exact absurd hid.symm (hother _ _ _ hfin')
    · exact absurd hid (hother _ _ _ hfin)
    · exact honce.single _ _ _ _ _ _ hfin hfin' hid
  · intro call point p hfin
    rw [hstatus]
    rcases (hfinishes _ _ _).mp hfin with ⟨rfl, rfl, rfl⟩ | ⟨-, hfin⟩
    · exact ⟨if_pos rfl, fun hinitial => hnot (honce.kept _ hinitial)⟩
    · rw [if_neg (hother _ _ _ hfin)]
      exact honce.status _ _ _ hfin
  · intro id hinitial
    rw [hstatus]
    split
    · rfl
    · exact honce.kept id hinitial
  · intro call point p hfin
    rw [hproduced]
    rcases (hfinishes _ _ _).mp hfin with ⟨rfl, rfl, rfl⟩ | ⟨-, hfin⟩
    · exact ⟨[], honce.nothing _ (.inr hnot), rfl⟩
    · exact honce.produced _ _ _ hfin
  · intro id p hp hpcompleted hinitial hnone
    have hid : id ≠ q.id := fun hid => hnone moved _ q ((hfinishes _ _ _).mpr (.inl ⟨rfl, rfl, rfl⟩)) hid.symm
    rw [hproduced]
    refine honce.finished id p ?_ hpcompleted hinitial fun call point p' hfin => ?_
    · rw [hstate] at hp
      exact (Table.find_save_of_ne hid).symm.trans hp
    · refine hnone call point p' ((hfinishes _ _ _).mpr (.inr ⟨?_, hfin⟩))
      rintro rfl
      obtain ⟨rest', hcall, hfinishing⟩ := hfin
      obtain ⟨rfl, -⟩ : Point.completing q = point ∧ rest = rest' := by simpa [hmoved] using hcall
      simp [Point.finishing] at hfinishing
  · intro id hid
    rw [hproduced]
    refine honce.nothing id (hid.imp_right fun hstored => ?_)
    rw [hstatus] at hstored
    split at hstored
    · simp at hstored
    · exact hstored

/-- A step of a call that has not saved COMPLETED. -/
theorem once_before {initial : Db} {h h' : History} {moved : ℕ} {env : Env} {point : Point} {rest : List String} {db' : Db}
    {next : Option Point} (honce : Once initial h) (hcompleting : Completing h'.state)
    (hmoved : h.state.calls moved = .active point rest) (hpoint : pointStep h.state.db h.state.now env point = .ok (db', next))
    (hstate : h'.state = (h.state.setDb db').setCall moved (continueAt next rest))
    (hsaved : ∀ q ∈ point.saved, statusOf h.state.db q.id ≠ some .completed)
    (hproduced : ∀ id, h'.producedFor id = h.producedFor id) (hfinishing : point.finishing = none) : Once initial h' := by
  have hupdating := honce.completing.updating moved
  rw [hmoved] at hupdating
  have hagrees := honce.completing.agrees moved
  rw [hmoved] at hagrees
  obtain ⟨hsound, -, -⟩ := honce.completing.points moved point rest hmoved
  have heffect := point_step_effect hpoint
  by_cases hcompletes : ∃ q, point = .completing q
  · obtain ⟨q, rfl⟩ := hcompletes
    simp only [pointStep, pure_eq_ok, Prod.mk.injEq] at hpoint
    obtain ⟨rfl, rfl⟩ := hpoint
    exact once_of_completing honce hcompleting hmoved hstate (hsaved q rfl) hproduced
  · have hnext : ∀ point', next = some point' → point'.finishing = none := by
      rintro point' rfl
      cases hp' : point'.finishing with
      | none => rfl
      | some p' =>
        rcases point_step_finishing hpoint hp' with ⟨rfl | rfl, -⟩ | ⟨p, hp, -⟩
        · exact absurd ⟨p', rfl⟩ hcompletes
        · simp [Call.Updating, Point.updating] at hupdating
        · simp [hfinishing] at hp
    have hold : ∀ point p, ¬ Finishes h.state moved point p := by
      rintro point' p ⟨rest', hcall, hp⟩
      obtain ⟨rfl, -⟩ : point = point' ∧ rest = rest' := by simpa [hmoved] using hcall
      simp [hfinishing] at hp
    have hdb : h'.state.db = db' := by rw [hstate]; rfl
    refine once_of_same honce hcompleting
      (finishes_of_update (by rw [hstate]; rfl) hold fun point' rest' hcall => continueAt_finishing hnext hcall) ?_ ?_ hproduced
    · intro id
      rw [hdb]
      constructor
      · intro hcompleted
        obtain ⟨p', hp', hstatus⟩ := Option.map_eq_some_iff.mp hcompleted
        rcases effect_payments heffect hupdating hp' with hp | ⟨hsome, rfl⟩
        · exact Option.map_eq_some_iff.mpr ⟨p', hp, hstatus⟩
        · -- Only the save of a completion writes COMPLETED.
          have hcompletes' := (hsound p' (Point.payment?_of_saved hsome)).mp hstatus
          cases point with
          | completing q => exact absurd ⟨q, rfl⟩ hcompletes
          | saving => simp [Point.completes, Point.finishing] at hcompletes'
          | confirmSaving | closing | startSaving => simp [Call.Updating, Point.updating] at hupdating
          | _ => simp [Point.saved] at hsome
      · intro hcompleted
        obtain ⟨p, hp, hstatus⟩ := Option.map_eq_some_iff.mp hcompleted
        obtain ⟨p', hp', -⟩ := (effect_keeps heffect hagrees).payments id p hp
        rcases effect_payments heffect hupdating hp' with hsame | ⟨hsome, rfl⟩
        · exact Option.map_eq_some_iff.mpr ⟨p', hp', by rw [← hstatus, Option.some.inj (hp.symm.trans hsame)]⟩
        · exact absurd hcompleted (hsaved p' hsome)
    · rw [hdb]
      exact effect_cores heffect hagrees

/-- A step of a call that has saved COMPLETED. -/
theorem once_after {initial : Db} {h h' : History} {moved : ℕ} {env : Env} {point : Point} {rest : List String} {db' : Db}
    {next : Option Point} {q : Payment} (honce : Once initial h) (hcompleting : Completing h'.state)
    (hmoved : h.state.calls moved = .active point rest) (hpoint : pointStep h.state.db h.state.now env point = .ok (db', next))
    (hstate : h'.state = (h.state.setDb db').setCall moved (continueAt next rest))
    (hproduced : h'.produced = h.produced ++ point.produces.toList.map fun (id, effect) => ⟨moved, id, effect⟩)
    (hfinishing : point.finishing = some q) : Once initial h' := by
  have hupdating := honce.completing.updating moved
  rw [hmoved] at hupdating
  have hagrees := honce.completing.agrees moved
  rw [hmoved] at hagrees
  have heffect := point_step_effect hpoint
  have hfin : Finishes h.state moved point q := ⟨rest, hmoved, hfinishing⟩
  obtain ⟨hsaved, -, hnext⟩ := point_step_after hfinishing hupdating hpoint
  have hpayments : ∀ id p', h'.state.db.payments.find id = some p' ↔ h.state.db.payments.find id = some p' := by
    intro id p'
    have hdb : h'.state.db = db' := by rw [hstate]; rfl
    have hback : ∀ p', db'.payments.find id = some p' → h.state.db.payments.find id = some p' := by
      intro p' hp'
      rcases effect_payments heffect hupdating hp' with hp | ⟨hsome, -⟩
      · exact hp
      · simp [hsaved] at hsome
    rw [hdb]
    refine ⟨hback p', fun hp => ?_⟩
    obtain ⟨p'', hp'', -⟩ := (effect_keeps heffect hagrees).payments id p' hp
    rwa [Option.some.inj ((hback p'' hp'').symm.trans hp)] at hp''
  have hstatus : ∀ id, statusOf h'.state.db id = statusOf h.state.db id := by
    intro id
    unfold statusOf
    congr 1
    cases hp : h.state.db.payments.find id with
    | some p => exact (hpayments id p).mpr hp
    | none =>
      cases hp' : h'.state.db.payments.find id with
      | none => rfl
      | some p' => simp [(hpayments id p').mp hp'] at hp
  -- The effects of the other payments stay.
  have hothers : ∀ id, id ≠ q.id → h'.producedFor id = h.producedFor id := by
    intro id hid
    cases hproduces : point.produces with
    | none => simp [History.producedFor, hproduced, hproduces]
    | some pair =>
      obtain ⟨id', effect⟩ := pair
      obtain ⟨p, hp, rfl⟩ := Point.produces_finishing hproduces
      obtain rfl := Option.some.inj (hp.symm.trans hfinishing)
      simp [History.producedFor, hproduced, hproduces, Ne.symm hid]
  have hown : h'.producedFor q.id = h.producedFor q.id ++ (point.produces.toList.map (·.2)).map (Prod.mk moved) := by
    cases hproduces : point.produces with
    | none => simp [History.producedFor, hproduced, hproduces]
    | some pair =>
      obtain ⟨id', effect⟩ := pair
      obtain ⟨p, hp, rfl⟩ := Point.produces_finishing hproduces
      obtain rfl := Option.some.inj (hp.symm.trans hfinishing)
      simp [History.producedFor, hproduced, hproduces]
  have hfinishes : ∀ call point' p, Finishes h'.state call point' p →
      (call = moved ∧ next = some point' ∧ p.id = q.id) ∨ (call ≠ moved ∧ Finishes h.state call point' p) := by
    rintro call point' p ⟨rest', hcall, hp⟩
    rw [hstate] at hcall
    by_cases hmove : call = moved
    · subst hmove
      simp only [State.setCall, Function.update_self] at hcall
      cases hn : next with
      | none =>
        subst hn
        have hnone := continueAt_finishing (by simp) hcall
        simp [hnone] at hp
      | some next' =>
        subst hn
        obtain ⟨rfl, -⟩ : next' = point' ∧ rest = rest' := by simpa [continueAt] using hcall
        obtain ⟨q', hq', hid⟩ := hnext next' rfl
        obtain rfl := Option.some.inj (hq'.symm.trans hp)
        exact .inl ⟨rfl, rfl, hid⟩
    · simp only [State.setCall, State.setDb, Function.update_of_ne hmove] at hcall
      exact .inr ⟨hmove, rest', hcall, hp⟩
  have hkeeps : ∀ call point' p, call ≠ moved → Finishes h.state call point' p → Finishes h'.state call point' p := by
    rintro call point' p hmove ⟨rest', hcall, hp⟩
    refine ⟨rest', ?_, hp⟩
    rw [hstate]
    simpa [State.setCall, State.setDb, hmove] using hcall
  obtain ⟨effects, heffects, hprogress⟩ := honce.produced _ _ _ hfin
  obtain ⟨hgoes, hends⟩ := produced_step hprogress hfinishing hupdating hpoint
  refine ⟨hcompleting, ?_, ?_, ?_, ?_, ?_, ?_⟩
  · intro call point₁ p call' point₂ p' hfin₁ hfin₂ hid
    rcases hfinishes _ _ _ hfin₁ with ⟨rfl, -, hid₁⟩ | ⟨hne, hfin₁⟩ <;>
      rcases hfinishes _ _ _ hfin₂ with ⟨rfl, -, hid₂⟩ | ⟨hne', hfin₂⟩
    · rfl
    · exact honce.single _ _ _ _ _ _ hfin hfin₂ (hid₁.symm.trans hid)
    · exact honce.single _ _ _ _ _ _ hfin₁ hfin (hid.trans hid₂)
    · exact honce.single _ _ _ _ _ _ hfin₁ hfin₂ hid
  · intro call point' p hfin'
    rw [hstatus]
    rcases hfinishes _ _ _ hfin' with ⟨rfl, -, hid⟩ | ⟨-, hfin'⟩
    · rw [hid]
      exact honce.status _ _ _ hfin
    · exact honce.status _ _ _ hfin'
  · intro id hinitial
    rw [hstatus]
    exact honce.kept id hinitial
  · intro call point' p hfin'
    rcases hfinishes _ _ _ hfin' with ⟨rfl, hn, hid⟩ | ⟨hne, hfin'⟩
    · exact ⟨_, by rw [hid, hown, heffects, List.map_append], hgoes point' hn⟩
    · rw [hothers p.id fun hid => hne (honce.single _ _ _ _ _ _ hfin' hfin hid)]
      exact honce.produced _ _ _ hfin'
  · intro id p hp hcompleted hinitial hnone
    have hp' := (hpayments id p).mp hp
    by_cases hid : id = q.id
    · subst hid
      cases hn : next with
      | none =>
        obtain ⟨stored, hstored, hcore⟩ := hagrees.payment q (by cases point <;> simp_all [Point.finishing, Point.payment?])
        obtain rfl := Option.some.inj (hstored.symm.trans hp')
        exact ⟨moved, _, q, by rw [hown, heffects, List.map_append], hcore.symm, hends hn⟩
      | some point' =>
        obtain ⟨q', hq', hid⟩ := hnext point' hn
        refine absurd hid (hnone moved point' q' ⟨rest, ?_, hq'⟩)
        rw [hstate, hn]
        simp [State.setCall, continueAt]
    · rw [hothers id hid]
      refine honce.finished id p hp' hcompleted hinitial fun call point' p' hfin' hid' => ?_
      by_cases hmove : call = moved
      · subst hmove
        obtain ⟨rest', hcall, hp''⟩ := hfin'
        obtain ⟨rfl, -⟩ : point = point' ∧ rest = rest' := by simpa [hmoved] using hcall
        exact hid (by rw [← hid', Option.some.inj (hp''.symm.trans hfinishing)])
      · exact hnone call point' p' (hkeeps _ _ _ hmove hfin') hid'
  · intro id hid
    have hne : id ≠ q.id := by
      rintro rfl
      obtain ⟨hstored, hinitial⟩ := honce.status _ _ _ hfin
      rw [hstatus] at hid
      exact hid.elim hinitial fun hnot => hnot hstored
    rw [hothers id hne]
    exact honce.nothing id (by rwa [hstatus] at hid)

theorem record_once {initial : Db} {h h' : History} {act : Act} (honce : Once initial h) (hsolitary : Solitary h act)
    (hrecord : record h act = some h') : Once initial h' := by
  obtain ⟨hstep, hproduced⟩ := record_spec hrecord
  have hcompleting := step_completing hstep honce.completing hsolitary.1
  -- Calls that have not saved COMPLETED may start, throw and die.
  have hquiet : ∀ (moved : ℕ) (next : Call), h'.state = h.state.setCall moved next →
      (∀ point p, ¬ Finishes h.state moved point p) → (∀ point rest, next = .active point rest → point.finishing = none) →
      production h.state act = [] → Once initial h' := by
    intro moved next hstate hold hnew hnil
    refine once_of_same honce hcompleting (finishes_of_update (by rw [hstate]; rfl) hold hnew) ?_ ?_
      (producedFor_of_nil hproduced hnil)
    · intro id
      rw [hstate]
      rfl
    · intro id p hp
      rw [hstate] at hp
      exact ⟨p, hp, rfl⟩
  have hnotYet : ∀ (moved : ℕ) (point : Point) (rest : List String), h.state.calls moved = .active point rest →
      point.finishing = none → ∀ point' p, ¬ Finishes h.state moved point' p := by
    rintro moved point rest hmoved hfinishing point' p ⟨rest', hcall, hp⟩
    obtain ⟨rfl, -⟩ : point = point' ∧ rest = rest' := by simpa [hmoved] using hcall
    simp [hfinishing] at hp
  have hstarts : ∀ (moved : ℕ) (next : Call), h.state.start moved next = some h'.state → next.isNew →
      production h.state act = [] → Once initial h' := by
    intro moved next hstart hnew hnil
    obtain ⟨hidle, hstate⟩ := start_spec hstart
    refine hquiet moved next hstate ?_ ?_ hnil
    · rintro point p ⟨rest, hcall, -⟩
      simp [hidle] at hcall
    · rintro point rest rfl
      exact isNew_finishing hnew
  have huninterrupted := hsolitary.1
  cases act with
  | startOperation | cancelPayment | confirmOpenPayment | failPaymentIfSetFailFieldTrue =>
    simp [Uninterrupted, Act.isUpdate] at huninterrupted
  | updatePaymentByOperationStatuses | handlePaymentOperationStatusUpdated => exact hstarts _ _ hstep ⟨rfl, rfl⟩ rfl
  | checkAndUpdateWaitingPayments => exact hstarts _ _ hstep (continueAt_isNew _) rfl
  | tick milliseconds =>
    have hstate := (Option.some.inj hstep).symm
    refine once_of_same honce hcompleting ?_ ?_ ?_ (producedFor_of_nil hproduced rfl)
    · intro call point p
      rw [hstate]
      rfl
    · intro id
      rw [hstate]
    · intro id p hp
      rw [hstate] at hp
      exact ⟨p, hp, rfl⟩
  | crash moved =>
    refine hquiet moved .idle (Option.some.inj hstep).symm ?_ (by simp) rfl
    rintro point p ⟨rest, hcall, hp⟩
    simp only [Uninterrupted, hcall] at huninterrupted
    simp [huninterrupted] at hp
  | fail moved =>
    simp only [step] at hstep
    split at hstep <;> rename_i hmoved
    · simp at hstep
    · simp only [Uninterrupted, hmoved] at huninterrupted
      exact hquiet moved _ (Option.some.inj hstep).symm (hnotYet _ _ _ hmoved huninterrupted)
        (fun point' rest' => thrown_finishing) rfl
  | advance moved env =>
    simp only [step, advance] at hstep
    split at hstep <;> rename_i hmoved
    · simp at hstep
    · rename_i point rest
      have hsaved := hsolitary.2
      simp only [hmoved] at hsaved
      simp only [Uninterrupted, hmoved] at huninterrupted
      split at hstep <;> rename_i hpoint <;> have hstate := (Option.some.inj hstep).symm
      · have hok : production h.state (.advance moved env) =
            point.produces.toList.map fun (id, effect) => ⟨moved, id, effect⟩ := by
          simp [production, hmoved, hpoint, Except.isOk, Except.toBool]
        rw [hok] at hproduced
        cases hfinishing : point.finishing with
        | some q => exact once_after honce hcompleting hmoved hpoint hstate hproduced hfinishing
        | none =>
          have hnone : point.produces = none := by
            cases hproduces : point.produces with
            | none => rfl
            | some pair =>
              obtain ⟨p, hp, -⟩ := Point.produces_finishing hproduces
              simp [hfinishing] at hp
          refine once_before honce hcompleting hmoved hpoint hstate hsaved ?_ hfinishing
          exact producedFor_of_nil (hproduced.trans (by rw [hok])) (by simp [hok, hnone])
      · have hfinishing : point.finishing = none := by
          simpa [hpoint, Except.isOk, Except.toBool] using huninterrupted.1
        exact hquiet moved _ hstate (hnotYet _ _ _ hmoved hfinishing) (fun point' rest' => thrown_finishing)
          (by simp [production, hmoved, hpoint, Except.isOk, Except.toBool])

/-! ## Runs -/

theorem once_of_idle {s : State} (hidle : ∀ call, s.calls call = .idle)
    (hcomplete : ∀ p ∈ s.db.payments.rows, p.paymentStatus = .completed → Completed s.db p) : Once s.db ⟨s, []⟩ := by
  have hnone : ∀ call point p, ¬ Finishes s call point p := by
    rintro call point p ⟨rest, hcall, -⟩
    simp [hidle] at hcall
  refine ⟨completing_of_idle hidle hcomplete, ?_, ?_, fun id hid => hid, ?_, ?_, fun id _ => rfl⟩
  · exact fun call point p _ _ _ hfin => absurd hfin (hnone call point p)
  · exact fun call point p hfin => absurd hfin (hnone call point p)
  · exact fun call point p hfin => absurd hfin (hnone call point p)
  · intro id p hp hcompleted hinitial
    exact absurd (by simp [statusOf, hp, hcompleted]) hinitial

theorem run_once {s : State} {acts : List Act} {h : History} (hidle : ∀ call, s.calls call = .idle)
    (hcomplete : ∀ p ∈ s.db.payments.rows, p.paymentStatus = .completed → Completed s.db p)
    (hsolitary : Meets record Solitary ⟨s, []⟩ acts) (hrun : run record ⟨s, []⟩ acts = some h) : Once s.db h :=
  run_invariant_of_meets (fun _ _ _ honce hok hrecord => record_once honce hok hrecord) (once_of_idle hidle hcomplete)
    hsolitary hrun

/-- Both read WAITING before either saves COMPLETED. -/
def overlappingActs : List Act :=
  [.updatePaymentByOperationStatuses 0 "payment" false, .updatePaymentByOperationStatuses 1 "payment" false,
    .advance 0 sampleEnv, .advance 1 sampleEnv] ++
  List.replicate 10 (.advance 0 sampleEnv) ++ List.replicate 10 (.advance 1 sampleEnv)

theorem run_of_record {h h' : History} {acts : List Act} (hrun : run record h acts = some h') :
    run step h.state acts = some h'.state := by
  induction acts generalizing h with
  | nil =>
    obtain rfl : h = h' := by simpa using hrun
    rfl
  | cons act acts ih =>
    obtain ⟨h₁, hrecord, hrest⟩ := run_cons_eq_some.mp hrun
    exact run_cons_eq_some.mpr ⟨h₁.state, (record_spec hrecord).1, ih hrest⟩

end Postral.Lifecycle
