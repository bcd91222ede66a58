import Postral.Refund.Steps

/-!
# What a step of any call changes

`Change` lists everything that a step can do to the tables. Facts about runs are proved from it,
so only this file looks at the steps themselves.
-/

open Check

namespace Postral.Refund

/-- What a step does to the tables. The label is the request whose counts it adds. `asked` is what is
known of a request that it adds. -/
inductive Change (asked : Payment → RefundRequest → Prop) (db : Db) : Option String → Db → Prop where
  | same : Change asked db none db
  | requested {payment : Payment} {request : RefundRequest} (h : NewRequest db payment request)
      (hasked : asked payment request) :
      Change asked db none { db with refundRequests := db.refundRequests.save request }
  | rejected {request : RefundRequest} (actorId : String) (note : Option String)
      (hrequest : db.refundRequests.find request.id = some request) (hpending : request.status = .pending) :
      Change asked db none { db with refundRequests := db.refundRequests.save (resolved request actorId .rejected note) }
  /-- The lease of a payment is taken, or given back. -/
  | leased {payment : Payment} {token : Option String} {expiresAt : Option ℕ}
      (hpayment : db.payments.find payment.id = some payment) :
      Change asked db none { db with payments := db.payments.save { payment with
        refundApprovalToken := token, refundApprovalExpiresAt := expiresAt } }
  /-- The refund payment of a PENDING request is stored. -/
  | paid {payment : Payment} {request : RefundRequest} {plan : List RefundChannelPlan}
      (hfresh : db.payments.find payment.id = none) (htype : payment.type = .refund)
      (hitems : ∀ item ∈ payment.items.rows, item.refundCount = 0)
      (hrequest : db.refundRequests.find request.id = some request) (hpending : request.status = .pending) :
      Change asked db none {
        payments := db.payments.save payment
        refundRequests := db.refundRequests.save { request with channelRefundPlan := some plan } }
  | approved {payment counted : Payment} {request : RefundRequest} (actorId : String) (note : Option String)
      (hpayment : db.payments.find request.paymentId = some payment)
      (hrequest : db.refundRequests.find request.id = some request) (hpending : request.status = .pending)
      (hframe : counted = { payment with items := counted.items })
      (hcounted : ∀ item' ∈ counted.items.rows, ∃ item ∈ payment.items.rows, CountedFrom request.items item item') :
      Change asked db (some request.id) {
        payments := db.payments.save { counted with refundApprovalToken := none, refundApprovalExpiresAt := none }
        refundRequests := db.refundRequests.save (resolved request actorId .approved note) }

/-! ## Requests over a change -/

variable {asked : Payment → RefundRequest → Prop}

/-- What a change leaves of a stored request. -/
theorem change_keeps_request {db db' : Db} {label : Option String} (h : Change asked db label db') {id : String}
    {r : RefundRequest} (hr : db.refundRequests.find id = some r) :
    ∃ r', db'.refundRequests.find id = some r' ∧ r'.paymentId = r.paymentId ∧ r'.items = r.items ∧
      (r.status ≠ .pending → r' = r) ∧ (r.status = .pending → r'.status = .approved → label = some id) ∧
      (label = some id → r.status = .pending ∧ r'.status = .approved) := by
  -- A saved row with the key `id` replaces `r`; any other leaves it.
  have hsave : ∀ request new : RefundRequest, db.refundRequests.find request.id = some request →
      new.id = request.id → request.status = .pending →
      (db.refundRequests.save new).find id = some r ∨
        (id = request.id ∧ r = request ∧ (db.refundRequests.save new).find id = some new) := by
    intro request new hrequest hid hpending
    rw [Table.find_save]
    by_cases hkey : id = new.id
    · right
      have : id = request.id := hkey.trans hid
      subst this
      rw [hr, Option.some.injEq] at hrequest
      simp [hkey, hrequest]
    · left
      simp [hkey, hr]
  cases h with
  | same => exact ⟨r, hr, rfl, rfl, fun _ => rfl, fun hp ha => by simp [hp] at ha, by simp⟩
  | leased => exact ⟨r, hr, rfl, rfl, fun _ => rfl, fun hp ha => by simp [hp] at ha, by simp⟩
  | @requested payment request hnew _ =>
    refine ⟨r, ?_, rfl, rfl, fun _ => rfl, fun hp ha => by simp [hp] at ha, by simp⟩
    rw [Table.find_save_of_ne, hr]
    rintro rfl
    simp [hnew.fresh] at hr
  | @rejected request actorId note hrequest hpending =>
    rcases hsave request (resolved request actorId .rejected note) hrequest rfl hpending with h | ⟨-, rfl, h⟩
    · exact ⟨r, h, rfl, rfl, fun _ => rfl, fun hp ha => by simp [hp] at ha, by simp⟩
    · exact ⟨_, h, rfl, rfl, fun hne => absurd hpending hne, fun _ ha => by simp [resolved] at ha, by simp⟩
  | @paid payment request plan _ _ _ hrequest hpending =>
    rcases hsave request { request with channelRefundPlan := some plan } hrequest rfl hpending with h | ⟨-, rfl, h⟩
    · exact ⟨r, h, rfl, rfl, fun _ => rfl, fun hp ha => by simp [hp] at ha, by simp⟩
    · exact ⟨_, h, rfl, rfl, fun hne => absurd hpending hne, fun _ ha => by simp [hpending] at ha, by simp⟩
  | @approved payment counted request actorId note _ hrequest hpending =>
    rcases hsave request (resolved request actorId .approved note) hrequest rfl hpending with h | ⟨hid, rfl, h⟩
    · refine ⟨r, h, rfl, rfl, fun _ => rfl, fun hp ha => by simp [hp] at ha, ?_⟩
      intro hlabel
      obtain rfl := Option.some.inj hlabel
      rw [show request.id = (resolved request actorId .approved note).id from rfl, Table.find_save_self,
        Option.some.injEq] at h
      rw [hr, Option.some.injEq] at hrequest
      subst hrequest
      exact ⟨hpending, h ▸ rfl⟩
    · exact ⟨_, h, rfl, rfl, fun hne => absurd hpending hne, fun _ _ => by rw [hid],
        fun _ => ⟨hpending, rfl⟩⟩

/-- A request after a change is an older one, or the one that was added. -/
theorem change_request_origin {db db' : Db} {label : Option String} (h : Change asked db label db') {r' : RefundRequest}
    (hr' : r' ∈ db'.refundRequests.rows) :
    (∃ r ∈ db.refundRequests.rows, r'.items = r.items ∧ r'.paymentId = r.paymentId) ∨
      ∃ payment, NewRequest db payment r' ∧ asked payment r' := by
  cases h with
  | same => exact Or.inl ⟨r', hr', rfl, rfl⟩
  | leased => exact Or.inl ⟨r', hr', rfl, rfl⟩
  | requested hnew hasked =>
    rcases Table.mem_save.mp hr' with rfl | ⟨hr', -⟩
    · exact Or.inr ⟨_, hnew, hasked⟩
    · exact Or.inl ⟨r', hr', rfl, rfl⟩
  | rejected _ _ hrequest _ =>
    rcases Table.mem_save.mp hr' with rfl | ⟨hr', -⟩
    · exact Or.inl ⟨_, Table.mem_of_find hrequest, rfl, rfl⟩
    · exact Or.inl ⟨r', hr', rfl, rfl⟩
  | paid _ _ _ hrequest _ =>
    rcases Table.mem_save.mp hr' with rfl | ⟨hr', -⟩
    · exact Or.inl ⟨_, Table.mem_of_find hrequest, rfl, rfl⟩
    · exact Or.inl ⟨r', hr', rfl, rfl⟩
  | approved _ _ _ hrequest _ _ _ =>
    rcases Table.mem_save.mp hr' with rfl | ⟨hr', -⟩
    · exact Or.inl ⟨_, Table.mem_of_find hrequest, rfl, rfl⟩
    · exact Or.inl ⟨r', hr', rfl, rfl⟩

/-- A request that a change adds is PENDING. -/
theorem change_adds_pending {db db' : Db} {label : Option String} (h : Change asked db label db') {id : String}
    (hid : db.refundRequests.find id = none) :
    db'.refundRequests.find id = none ∨ ∃ r, db'.refundRequests.find id = some r ∧ r.status = .pending := by
  have hother : ∀ request new : RefundRequest, db.refundRequests.find request.id = some request →
      new.id = request.id → (db.refundRequests.save new).find id = none := by
    intro request new hrequest hnew
    rw [Table.find_save_of_ne, hid]
    rintro rfl
    rw [hnew, hrequest] at hid
    simp at hid
  cases h with
  | same => exact Or.inl hid
  | leased => exact Or.inl hid
  | @requested payment request hnew _ =>
    by_cases hkey : id = request.id
    · exact Or.inr ⟨request, by rw [hkey, Table.find_save_self], hnew.pending⟩
    · exact Or.inl (by rw [Table.find_save_of_ne hkey, hid])
  | rejected _ _ hrequest _ => exact Or.inl (hother _ _ hrequest rfl)
  | paid _ _ _ hrequest _ => exact Or.inl (hother _ _ hrequest rfl)
  | approved _ _ _ hrequest _ _ _ => exact Or.inl (hother _ _ hrequest rfl)

theorem change_label {db db' : Db} {id : String} (h : Change asked db (some id) db') :
    ∃ r, db.refundRequests.find id = some r ∧ r.status = .pending := by
  cases h with
  | approved _ _ _ hrequest hpending _ _ => exact ⟨_, hrequest, hpending⟩

theorem change_keeps_payment {db db' : Db} {label : Option String} (h : Change asked db label db') {id : String}
    {p : Payment} (hp : db.payments.find id = some p) : ∃ p', db'.payments.find id = some p' := by
  have hsave : ∀ payment : Payment, ∃ p', (db.payments.save payment).find id = some p' := by
    intro payment
    rw [Table.find_save]
    split
    · exact ⟨payment, rfl⟩
    · exact ⟨p, hp⟩
  cases h with
  | same => exact ⟨p, hp⟩
  | requested _ _ => exact ⟨p, hp⟩
  | rejected _ _ _ _ => exact ⟨p, hp⟩
  | leased _ => exact hsave _
  | paid _ _ _ _ _ => exact hsave _
  | approved _ _ _ _ _ _ _ => exact hsave _

/-! ## The calls -/

namespace Call

/-- The request that a call works on, as it first read it. -/
def initial : Call → Option RefundRequest
  | .idle => none
  | .rejecting r _ _ => some r
  | .claiming r _ _ => some r
  | .approving a _ => some a.initial

/-- The token that a call holds. -/
def token : Call → Option String
  | .approving a _ => some a.token
  | _ => none

/-- The refund payment that a call is about to store. -/
def draft : Call → Option PaymentDraft
  | .approving _ (.storing (some prepared)) => some prepared.1
  | _ => none

end Call

/-- The calls work on stored requests, and no two of them hold one token. -/
structure CallsOk (s : State) : Prop where
  known : ∀ call r, (s.calls call).initial = some r →
    ∃ stored, s.db.refundRequests.find r.id = some stored ∧ stored.paymentId = r.paymentId
  issued : ∀ call t, (s.calls call).token = some t → t ∈ s.tokens
  unique : ∀ call other t, (s.calls call).token = some t → (s.calls other).token = some t → call = other
  drafts : ∀ call d, (s.calls call).draft = some d → d.type = .refund

@[simp]
theorem set_call_calls (s : State) (call : ℕ) (next : Call) :
    (s.setCall call next).calls = Function.update s.calls call next := rfl

@[simp]
theorem set_call_db (s : State) (call : ℕ) (next : Call) : (s.setCall call next).db = s.db := rfl

@[simp]
theorem set_call_tokens (s : State) (call : ℕ) (next : Call) : (s.setCall call next).tokens = s.tokens := rfl

@[simp]
theorem set_call_counted (s : State) (call : ℕ) (next : Call) : (s.setCall call next).counted = s.counted := rfl

@[simp]
theorem set_db_calls (s : State) (db : Db) : (s.setDb db).calls = s.calls := rfl

@[simp]
theorem set_db_db (s : State) (db : Db) : (s.setDb db).db = db := rfl

@[simp]
theorem set_db_tokens (s : State) (db : Db) : (s.setDb db).tokens = s.tokens := rfl

@[simp]
theorem set_db_counted (s : State) (db : Db) : (s.setDb db).counted = s.counted := rfl

theorem CallsOk.set_db {s : State} (h : CallsOk s) {label : Option String} {db : Db} (hchange : Change asked s.db label db) :
    CallsOk (s.setDb db) where
  known := by
    intro call r hr
    obtain ⟨stored, hstored, hpid⟩ := h.known call r hr
    obtain ⟨stored', hstored', hpid', -⟩ := change_keeps_request hchange hstored
    exact ⟨stored', hstored', hpid'.trans hpid⟩
  issued := h.issued
  unique := h.unique
  drafts := h.drafts

/-- A call moves on, with the token it had or with none. -/
theorem CallsOk.set_call {s : State} (h : CallsOk s) {call : ℕ} {next : Call}
    (hknown : ∀ r, next.initial = some r →
      ∃ stored, s.db.refundRequests.find r.id = some stored ∧ stored.paymentId = r.paymentId)
    (htoken : ∀ t, next.token = some t → (s.calls call).token = some t)
    (hdraft : ∀ d, next.draft = some d → d.type = .refund) : CallsOk (s.setCall call next) where
  known := by
    intro c r hr
    rw [set_call_calls] at hr
    by_cases hc : c = call
    · subst hc
      rw [Function.update_self] at hr
      exact hknown r hr
    · rw [Function.update_of_ne hc] at hr
      exact h.known c r hr
  issued := by
    intro c t ht
    rw [set_call_calls] at ht
    by_cases hc : c = call
    · subst hc
      rw [Function.update_self] at ht
      exact h.issued c t (htoken t ht)
    · rw [Function.update_of_ne hc] at ht
      exact h.issued c t ht
  unique := by
    have hold : ∀ c t, (Function.update s.calls call next c).token = some t → (s.calls c).token = some t := by
      intro c t ht
      by_cases hc : c = call
      · subst hc
        rw [Function.update_self] at ht
        exact htoken t ht
      · rwa [Function.update_of_ne hc] at ht
    intro c c' t ht ht'
    exact h.unique c c' t (hold c t ht) (hold c' t ht')
  drafts := by
    intro c d hd
    rw [set_call_calls] at hd
    by_cases hc : c = call
    · subst hc
      rw [Function.update_self] at hd
      exact hdraft d hd
    · rw [Function.update_of_ne hc] at hd
      exact h.drafts c d hd

theorem CallsOk.set_idle {s : State} (h : CallsOk s) (call : ℕ) : CallsOk (s.setCall call .idle) :=
  h.set_call (by simp [Call.initial]) (by simp [Call.token]) (by simp [Call.draft])

/-- An approval moves on to another point. -/
theorem CallsOk.set_point {s : State} (h : CallsOk s) {call : ℕ} {a : Approval} {point : ApprovalPoint}
    (hcall : s.calls call = .approving a point) (next : ApprovalPoint)
    (hdraft : ∀ prepared, next = .storing (some prepared) → prepared.1.type = .refund) :
    CallsOk (s.setCall call (.approving a next)) := by
  apply h.set_call
  · intro r hr
    exact h.known call r (by rw [hcall]; exact hr)
  · intro t ht
    rw [hcall]
    exact ht
  · intro d hd
    unfold Call.draft at hd
    split at hd
    · rename_i heq
      simp only [Call.approving.injEq] at heq
      obtain rfl := Option.some.inj hd
      exact hdraft _ heq.2
    · simp at hd

/-- A call gets a new token. -/
theorem CallsOk.claim {s : State} (h : CallsOk s) {call : ℕ} {initial request : RefundRequest} {actorId token : String}
    {note : Option String} (hcall : s.calls call = .claiming initial actorId note) (hnew : token ∉ s.tokens) :
    CallsOk { s.setCall call (.approving ⟨initial, request, token, actorId, note⟩ .loading) with
      tokens := token :: s.tokens } where
  known := by
    intro c r hr
    dsimp only [set_call_calls] at hr
    by_cases hc : c = call
    · subst hc
      rw [Function.update_self] at hr
      exact h.known c r (by rw [hcall]; exact hr)
    · rw [Function.update_of_ne hc] at hr
      exact h.known c r hr
  issued := by
    intro c t ht
    dsimp only [set_call_calls] at ht
    by_cases hc : c = call
    · subst hc
      rw [Function.update_self] at ht
      obtain rfl := Option.some.inj ht
      exact List.mem_cons_self
    · rw [Function.update_of_ne hc] at ht
      exact List.mem_cons_of_mem _ (h.issued c t ht)
  unique := by
    have hfresh : ∀ c, (s.calls c).token ≠ some token := fun c ht => hnew (h.issued c _ ht)
    intro c c' t ht ht'
    dsimp only [set_call_calls] at ht ht'
    by_cases hc : c = call <;> by_cases hc' : c' = call
    · rw [hc, hc']
    · rw [hc, Function.update_self] at ht
      rw [Function.update_of_ne hc'] at ht'
      exact absurd (ht'.trans ht.symm) (hfresh c')
    · rw [Function.update_of_ne hc] at ht
      rw [hc', Function.update_self] at ht'
      exact absurd (ht.trans ht'.symm) (hfresh c)
    · rw [Function.update_of_ne hc] at ht
      rw [Function.update_of_ne hc'] at ht'
      exact h.unique c c' t ht ht'
  drafts := by
    intro c d hd
    dsimp only [set_call_calls] at hd
    by_cases hc : c = call
    · subst hc
      rw [Function.update_self] at hd
      simp [Call.draft] at hd
    · rw [Function.update_of_ne hc] at hd
      exact h.drafts c d hd

/-! ## One step -/

/-- The call whose step adds the counts of the request `id`: it holds the token on the payment. -/
def CountedBy (s : State) (act : Act) (id : String) : Prop :=
  ∃ call env a payment, act = .advance call env ∧ s.calls call = .approving a .finalising ∧ a.initial.id = id ∧
    s.db.payments.find a.initial.paymentId = some payment ∧ payment.refundApprovalToken = some a.token

/-- What a step asks for as a new request. A key that was used asks for none. -/
def Act.asks (db : Db) : Act → Option CreateRefundRequestDTO
  | .createRefundRequest _ dto _ => some dto
  | .startRefundMicroservice _ dto _ =>
    if ∃ r ∈ db.refundRequests.rows, r.idempotencyKey = dto.idempotencyKey then none
    else some dto.toCreateRefundRequestDTO
  | _ => none

def Asked (s : State) (act : Act) (payment : Payment) (request : RefundRequest) : Prop :=
  ∃ dto, act.asks s.db = some dto ∧ AskedIn s.db dto payment request

/-- Everything that a step does, calls included. -/
structure Effect (s : State) (act : Act) (s' : State) (label : Option String) : Prop where
  calls : CallsOk s'
  change : Change (Asked s act) s.db label s'.db
  counted : s'.counted = label.toList ++ s.counted
  holder : ∀ id, label = some id → CountedBy s act id

theorem effect_of_same_db {s s' : State} {act : Act} (hcalls : CallsOk s') (hdb : s'.db = s.db)
    (hcounted : s'.counted = s.counted) : Effect s act s' none :=
  ⟨hcalls, hdb ▸ Change.same, hcounted, by simp⟩

theorem effect_of_change {s s' : State} {act : Act} (hcalls : CallsOk s') (hchange : Change (Asked s act) s.db none s'.db)
    (hcounted : s'.counted = s.counted) : Effect s act s' none :=
  ⟨hcalls, hchange, hcounted, by simp⟩

/-- A lock or an unlock saves a payment under the key it was found by. -/
theorem change_leased {db : Db} {paymentId : String} {payment : Payment} (token : Option String)
    (expiresAt : Option ℕ) (h : db.payments.find paymentId = some payment) :
    Change asked db none { db with payments := db.payments.save { payment with
      refundApprovalToken := token, refundApprovalExpiresAt := expiresAt } } := by
  obtain rfl := Table.key_of_find h
  exact Change.leased h

theorem change_rejected {db : Db} {id : String} {request : RefundRequest} (actorId : String) (note : Option String)
    (h : db.refundRequests.find id = some request) (hpending : request.status = .pending) :
    Change asked db none { db with refundRequests := db.refundRequests.save (resolved request actorId .rejected note) } := by
  obtain rfl := Table.key_of_find h
  exact Change.rejected actorId note h hpending

/-- One spec for the steps of an approval. -/
theorem advance_approval_spec {s : State} {call : ℕ} {env : Env} {a : Approval} {point : ApprovalPoint}
    (h : CallsOk s) (hcall : s.calls call = .approving a point) :
    ∃ label, Effect s (.advance call env) (advanceApproval s call env a point) label := by
  have hrelease : Effect s (.advance call env) (s.setCall call (.approving a .releasing)) none :=
    effect_of_same_db (h.set_point hcall _ (by simp)) rfl rfl
  unfold advanceApproval
  cases point with
  | loading =>
    dsimp only
    split
    · exact ⟨none, effect_of_same_db (h.set_point hcall _ (by simp)) rfl rfl⟩
    · exact ⟨none, hrelease⟩
  | preparing original =>
    dsimp only
    split
    · rename_i prepared hprepared
      refine ⟨none, effect_of_same_db (h.set_point hcall _ ?_) rfl rfl⟩
      rintro draft hdraft
      simp only [ApprovalPoint.storing.injEq] at hdraft
      exact prepare_refund_payment_spec (hdraft ▸ hprepared)
    · exact ⟨none, hrelease⟩
  | storing prepared =>
    dsimp only
    split
    · rename_i db hstore
      have hchange : Change (Asked s (.advance call env)) s.db none db := by
        rcases store_refund_payment_spec hstore with rfl | ⟨draft, plan, payment, stored, rfl, htype, hfresh, hitems,
          hstored, hpending, rfl⟩
        · exact Change.same
        · have hdraft := h.drafts call draft (by rw [hcall]; rfl)
          exact Change.paid hfresh (htype.trans hdraft) hitems hstored hpending
      exact ⟨none, effect_of_change ((h.set_db hchange).set_point hcall _ (by simp)) hchange rfl⟩
    · exact ⟨none, hrelease⟩
  | channels => exact ⟨none, effect_of_same_db (h.set_point hcall _ (by simp)) rfl rfl⟩
  | finalising =>
    dsimp only
    split
    · rename_i db hfinalise
      obtain ⟨payment, counted, request, hpayment, htoken, hrequest, hpending, -, hframe, hitems, rfl⟩ :=
        finalise_approval_spec hfinalise
      -- The request is still one of the payment that the call locked.
      obtain ⟨stored, hstored, hpid⟩ := h.known call a.initial (by rw [hcall]; rfl)
      obtain rfl : request = stored := by rw [hrequest, Option.some.injEq] at hstored; exact hstored
      obtain hid : request.id = a.initial.id := Table.key_of_find hrequest
      have hchange : Change (Asked s (.advance call env)) s.db _ _ := Change.approved a.actorId a.resolutionNote (hpid ▸ hpayment)
        (hid ▸ hrequest) hpending hframe hitems
      refine ⟨some request.id, ?_, hchange, ?_, ?_⟩
      · have hcalls := (h.set_db hchange).set_point hcall .releasing (by simp)
        exact ⟨hcalls.known, hcalls.issued, hcalls.unique, hcalls.drafts⟩
      · rw [hid]
        rfl
      · intro id hlabel
        obtain rfl := Option.some.inj hlabel
        exact ⟨call, env, a, payment, rfl, hcall, hid.symm, hpayment, htoken⟩
    · exact ⟨none, hrelease⟩
  | releasing =>
    dsimp only
    have hchange : Change (Asked s (.advance call env)) s.db none (releaseApproval s.db a.initial.paymentId a.token) := by
      rcases release_approval_spec s.db a.initial.paymentId a.token with h | ⟨payment, hpayment, -, h⟩
      · rw [h]
        exact Change.same
      · rw [h]
        exact change_leased none none hpayment
    exact ⟨none, effect_of_change ((h.set_db hchange).set_idle call) hchange rfl⟩

theorem advance_spec {s s' : State} {call : ℕ} {env : Env} (h : CallsOk s) (hstep : advance s call env = some s') :
    ∃ label, Effect s (.advance call env) s' label := by
  unfold advance at hstep
  split at hstep
  · simp at hstep
  · split at hstep
    · rename_i actorId note _ _ db hreject
      obtain rfl := Option.some.inj hstep
      obtain ⟨payment, request, -, -, hrequest, hpending, -, rfl⟩ := reject_refund_request_spec hreject
      have hchange : Change (Asked s (.advance call env)) s.db _ _ := change_rejected actorId note hrequest hpending
      exact ⟨none, effect_of_change ((h.set_db hchange).set_idle call) hchange rfl⟩
    · obtain rfl := Option.some.inj hstep
      exact ⟨none, effect_of_same_db (h.set_idle call) rfl rfl⟩
  · rename_i initial actorId note hcall
    split at hstep
    · simp at hstep
    · rename_i hnew
      split at hstep
      · rename_i db request hclaim
        obtain rfl := Option.some.inj hstep
        obtain ⟨-, -, payment, hpayment, -, rfl⟩ := claim_approval_spec hclaim
        have hchange : Change (Asked s (.advance call env)) s.db _ _ :=
          change_leased (some env.token) (some (s.now + approvalLease)) hpayment
        exact ⟨none, effect_of_change ((h.set_db hchange).claim hcall hnew) hchange rfl⟩
      · obtain rfl := Option.some.inj hstep
        exact ⟨none, effect_of_same_db (h.set_idle call) rfl rfl⟩
      · obtain rfl := Option.some.inj hstep
        exact ⟨none, effect_of_same_db (h.set_idle call) rfl rfl⟩
  · rename_i a point hcall
    obtain rfl := Option.some.inj hstep
    exact advance_approval_spec h hcall

/-- **One step.** What any step of the service changes. -/
theorem step_spec {s s' : State} {act : Act} (h : CallsOk s) (hstep : step s act = some s') :
    ∃ label, Effect s act s' label := by
  have hself : Effect s act s none := effect_of_same_db h rfl rfl
  unfold step at hstep
  split at hstep
  · split at hstep
    · rename_i actorId dto id _ db request hcreate
      obtain rfl := Option.some.inj hstep
      obtain ⟨payment, hnew, hasked, rfl⟩ := create_refund_request_spec hcreate
      have hchange : Change (Asked s (.createRefundRequest actorId dto id)) s.db _ _ :=
        Change.requested hnew ⟨_, rfl, hasked⟩
      exact ⟨none, effect_of_change (h.set_db hchange) hchange rfl⟩
    · obtain rfl := Option.some.inj hstep
      exact ⟨none, hself⟩
  · split at hstep
    · split at hstep
      · rename_i call dto id _ _ db request hreserve
        -- The request that the transaction returns is stored, whether it was found or added.
        have hreserved : Change (Asked s (.startRefundMicroservice call dto id)) s.db none db ∧
            db.refundRequests.find request.id = some request := by
          rcases reserve_system_refund_spec hreserve with ⟨rfl, hfound⟩ | ⟨payment, hnew, hasked, hunused, rfl⟩
          · exact ⟨Change.same, hfound⟩
          · refine ⟨Change.requested hnew ⟨_, ?_, hasked⟩, Table.find_save_self _ _⟩
            exact if_neg fun ⟨r, hr, hkey⟩ => hunused r hr hkey
        have hcalls := h.set_db hreserved.1
        split at hstep
        · obtain rfl := Option.some.inj hstep
          exact ⟨none, effect_of_change hcalls hreserved.1 rfl⟩
        · obtain rfl := Option.some.inj hstep
          refine ⟨none, effect_of_change (hcalls.set_call ?_ (by simp [Call.token]) (by simp [Call.draft]))
            hreserved.1 rfl⟩
          intro r hr
          obtain rfl := Option.some.inj hr
          exact ⟨request, hreserved.2, rfl⟩
      · obtain rfl := Option.some.inj hstep
        exact ⟨none, hself⟩
    · simp at hstep
  · split at hstep
    · split at hstep
      · rename_i requestId _ _ request note hcheck
        obtain rfl := Option.some.inj hstep
        refine ⟨none, effect_of_same_db (h.set_call ?_ (by simp [Call.token]) (by simp [Call.draft])) rfl rfl⟩
        intro r hr
        obtain rfl := Option.some.inj hr
        exact ⟨request, approve_refund_request_spec hcheck, rfl⟩
      · obtain rfl := Option.some.inj hstep
        exact ⟨none, hself⟩
    · simp at hstep
  · split at hstep
    · split at hstep
      · rename_i requestId _ _ request note hcheck
        obtain rfl := Option.some.inj hstep
        refine ⟨none, effect_of_same_db (h.set_call ?_ (by simp [Call.token]) (by simp [Call.draft])) rfl rfl⟩
        intro r hr
        obtain rfl := Option.some.inj hr
        exact ⟨request, begin_rejection_spec hcheck, rfl⟩
      · obtain rfl := Option.some.inj hstep
        exact ⟨none, hself⟩
    · simp at hstep
  · exact advance_spec h hstep
  · rename_i call
    split at hstep
    · simp at hstep
    · obtain rfl := Option.some.inj hstep
      exact ⟨none, effect_of_same_db (h.set_idle call) rfl rfl⟩
    · obtain rfl := Option.some.inj hstep
      exact ⟨none, effect_of_same_db (h.set_idle call) rfl rfl⟩
    · obtain rfl := Option.some.inj hstep
      exact ⟨none, effect_of_same_db (h.set_idle call) rfl rfl⟩
    · rename_i a point _ hcall
      obtain rfl := Option.some.inj hstep
      exact ⟨none, effect_of_same_db (h.set_point hcall _ (by simp)) rfl rfl⟩
  · rename_i call
    obtain rfl := Option.some.inj hstep
    exact ⟨none, effect_of_same_db (h.set_idle call) rfl rfl⟩
  · obtain rfl := Option.some.inj hstep
    exact ⟨none, effect_of_same_db ⟨h.known, h.issued, h.unique, h.drafts⟩ rfl rfl⟩

end Postral.Refund
