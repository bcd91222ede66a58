import Postral.Refund.Changes

/-!
# Refunded quantities

The counts on the items of a purchase are those of its APPROVED requests, and with the PENDING ones
they stay within the quantity, whatever the interleaving.
-/

open Check Run

namespace Postral.Refund

/-! ## Totals over requests -/

def isPending (status : RefundRequestStatus) : Bool := status = .pending

def isApproved (status : RefundRequestStatus) : Bool := status = .approved

/-- PENDING or APPROVED: the requests that reserve a quantity. -/
def isActive (status : RefundRequestStatus) : Bool := status = .pending ∨ status = .approved

/-- What one request adds to the total of a column on an item. -/
def contribution (keep : RefundRequestStatus → Bool) (column : RefundRequestItem → ℤ) (paymentId itemId : String)
    (r : RefundRequest) : ℤ :=
  if r.paymentId = paymentId ∧ keep r.status then
    sumOf column (r.items.filter fun line => line.paymentItemId = itemId)
  else 0

/-- The total of a column on an item, over the requests whose status is kept. -/
def lineTotal (db : Db) (keep : RefundRequestStatus → Bool) (column : RefundRequestItem → ℤ)
    (paymentId itemId : String) : ℤ :=
  db.refundRequests.total (contribution keep column paymentId itemId)

theorem sum_of_append (column : RefundRequestItem → ℤ) (xs ys : List RefundRequestItem) :
    sumOf column (xs ++ ys) = sumOf column xs + sumOf column ys := by
  simp [sumOf]

theorem sum_of_lines_on (column : RefundRequestItem → ℤ) (p : RefundRequest → Bool) (itemId : String)
    (rows : List RefundRequest) :
    sumOf column (linesOn (rows.filter p) itemId) =
      (rows.map fun r => if p r then sumOf column (r.items.filter fun line => line.paymentItemId = itemId)
        else 0).sum := by
  induction rows with
  | nil => rfl
  | cons r rows ih =>
    by_cases h : p r
    · rw [List.filter_cons_of_pos h, List.map_cons, List.sum_cons, ← ih, if_pos h, ← sum_of_append]
      simp only [linesOn, List.flatMap_cons, List.filter_append]
    · rw [List.filter_cons_of_neg h, List.map_cons, List.sum_cons, ← ih, if_neg h, zero_add]

/-- The sums that the service takes over its reservations are totals of the table. -/
theorem sum_of_reservations (db : Db) (column : RefundRequestItem → ℤ) (paymentId itemId : String) :
    sumOf column (linesOn (reservationsOf db paymentId) itemId) = lineTotal db isActive column paymentId itemId := by
  rw [reservationsOf, sum_of_lines_on]
  unfold lineTotal Table.total contribution isActive
  simp

theorem sum_of_pending (db : Db) (column : RefundRequestItem → ℤ) (paymentId itemId : String) :
    sumOf column (linesOn ((reservationsOf db paymentId).filter fun r => r.status = .pending) itemId) =
      lineTotal db isPending column paymentId itemId := by
  rw [reservationsOf, List.filter_filter, sum_of_lines_on]
  unfold lineTotal Table.total contribution isPending
  congr 1
  apply List.map_congr_left
  intro r _
  by_cases hpid : r.paymentId = paymentId <;> cases r.status <;> simp [hpid]

/-- Active requests are the PENDING and the APPROVED ones. -/
theorem line_total_active (db : Db) (column : RefundRequestItem → ℤ) (paymentId itemId : String) :
    lineTotal db isActive column paymentId itemId =
      lineTotal db isApproved column paymentId itemId + lineTotal db isPending column paymentId itemId := by
  unfold lineTotal
  rw [← Table.total_add]
  apply Table.total_congr
  intro r _
  unfold contribution isActive isApproved isPending
  by_cases hpid : r.paymentId = paymentId <;> cases r.status <;> simp [hpid]

theorem contribution_of_ne {keep : RefundRequestStatus → Bool} {column : RefundRequestItem → ℤ}
    {paymentId itemId : String} {r : RefundRequest} (h : r.paymentId ≠ paymentId) :
    contribution keep column paymentId itemId r = 0 := by
  simp [contribution, h]

/-- A request has one line on an item, or none. -/
theorem sum_of_filter_nodup {items : List RefundRequestItem} (hnodup : (items.map (·.paymentItemId)).Nodup)
    {line : RefundRequestItem} (hline : line ∈ items) (column : RefundRequestItem → ℤ) :
    sumOf column (items.filter fun l => l.paymentItemId = line.paymentItemId) = column line := by
  induction items with
  | nil => simp at hline
  | cons l ls ih =>
    simp only [List.map_cons, List.nodup_cons] at hnodup
    rcases List.mem_cons.mp hline with rfl | hmem
    · have hrest : ls.filter (fun l => l.paymentItemId = line.paymentItemId) = [] := by
        rw [List.filter_eq_nil_iff]
        intro x hx hkey
        exact hnodup.1 (List.mem_map.mpr ⟨x, hx, by simpa using hkey⟩)
      simp [sumOf, hrest]
    · have hne : ¬ l.paymentItemId = line.paymentItemId :=
        fun heq => hnodup.1 (List.mem_map.mpr ⟨line, hmem, heq.symm⟩)
      simp only [List.filter_cons, decide_eq_true_eq, if_neg hne]
      exact ih hnodup.2 hmem

theorem sum_of_filter_absent {items : List RefundRequestItem} {itemId : String}
    (h : ∀ line ∈ items, line.paymentItemId ≠ itemId) (column : RefundRequestItem → ℤ) :
    sumOf column (items.filter fun l => l.paymentItemId = itemId) = 0 := by
  rw [List.filter_eq_nil_iff.mpr (by simpa using h)]
  rfl

theorem sum_of_nonneg {column : RefundRequestItem → ℤ} {items : List RefundRequestItem}
    (h : ∀ line ∈ items, 0 ≤ column line) : 0 ≤ sumOf column items := by
  apply List.sum_nonneg
  simpa using h

/-! ## Totals over a change -/

theorem line_total_save_fresh {db : Db} {payments : Table Payment.id} {r : RefundRequest}
    (h : db.refundRequests.find r.id = none) (keep : RefundRequestStatus → Bool) (column : RefundRequestItem → ℤ)
    (paymentId itemId : String) :
    lineTotal ⟨payments, db.refundRequests.save r⟩ keep column paymentId itemId =
      lineTotal db keep column paymentId itemId + contribution keep column paymentId itemId r :=
  Table.total_save_of_fresh h _

theorem line_total_save {db : Db} {payments : Table Payment.id} {old : RefundRequest}
    (h : db.refundRequests.find old.id = some old) (new : RefundRequest) (hid : new.id = old.id) (keep : RefundRequestStatus → Bool)
    (column : RefundRequestItem → ℤ) (paymentId itemId : String) :
    lineTotal ⟨payments, db.refundRequests.save new⟩ keep column paymentId itemId =
      lineTotal db keep column paymentId itemId - contribution keep column paymentId itemId old +
        contribution keep column paymentId itemId new :=
  Table.total_save_of_find (hid ▸ h) _

/-- A PENDING request resolved to `status`. -/
theorem line_total_resolved {db : Db} {payments : Table Payment.id} {r : RefundRequest}
    (h : db.refundRequests.find r.id = some r) (hpending : r.status = .pending) (actorId : String)
    (status : RefundRequestStatus) (note : Option String) (keep : RefundRequestStatus → Bool)
    (column : RefundRequestItem → ℤ) (paymentId itemId : String) :
    lineTotal ⟨payments, db.refundRequests.save (resolved r actorId status note)⟩ keep column paymentId itemId =
      lineTotal db keep column paymentId itemId -
        (if r.paymentId = paymentId ∧ keep .pending then
          sumOf column (r.items.filter fun line => line.paymentItemId = itemId) else 0) +
        (if r.paymentId = paymentId ∧ keep status then
          sumOf column (r.items.filter fun line => line.paymentItemId = itemId) else 0) := by
  rw [line_total_save h (resolved r actorId status note) rfl]
  by_cases hpid : r.paymentId = paymentId <;> simp [contribution, resolved, hpending, hpid]

/-- The plan of a request counts for nothing. -/
theorem line_total_plan {db : Db} {payments : Table Payment.id} {r : RefundRequest} {plan : List RefundChannelPlan}
    (h : db.refundRequests.find r.id = some r) (keep : RefundRequestStatus → Bool) (column : RefundRequestItem → ℤ)
    (paymentId itemId : String) :
    lineTotal ⟨payments, db.refundRequests.save { r with channelRefundPlan := some plan }⟩ keep column paymentId itemId =
      lineTotal db keep column paymentId itemId := by
  rw [line_total_save h { r with channelRefundPlan := some plan } rfl]
  simp [contribution]

/-! ## The invariant -/

/-- A request has one line for an item, for a positive count, on a stored payment. -/
structure RequestsOk (db : Db) : Prop where
  nodup : ∀ r ∈ db.refundRequests.rows, (r.items.map (·.paymentItemId)).Nodup
  positive : ∀ r ∈ db.refundRequests.rows, ∀ line ∈ r.items, 0 < line.refundCount
  known : ∀ r ∈ db.refundRequests.rows, ∃ p, db.payments.find r.paymentId = some p

/-- The counts of every item agree with its requests. -/
structure CountsOk (db : Db) : Prop where
  counts : ∀ p ∈ db.payments.rows, ∀ item ∈ p.items.rows,
    item.refundCount = lineTotal db isApproved (·.refundCount) p.id item.id
  bound : ∀ p ∈ db.payments.rows, ∀ item ∈ p.items.rows,
    item.refundCount + lineTotal db isPending (·.refundCount) p.id item.id ≤ max item.quantity 0

theorem requests_ok_change {db db' : Db} {label : Option String} {asked : Payment → RefundRequest → Prop} (h : RequestsOk db)
    (hchange : Change asked db label db') :
    RequestsOk db' where
  nodup := by
    intro r' hr'
    rcases change_request_origin hchange hr' with ⟨r, hr, hitems, -⟩ | ⟨payment, hnew, -⟩
    · rw [hitems]
      exact h.nodup r hr
    · exact hnew.nodup
  positive := by
    intro r' hr' line hline
    rcases change_request_origin hchange hr' with ⟨r, hr, hitems, -⟩ | ⟨payment, hnew, -⟩
    · exact h.positive r hr line (hitems ▸ hline)
    · obtain ⟨_, -, hpos, -⟩ := hnew.lines line hline
      exact hpos
  known := by
    intro r' hr'
    rcases change_request_origin hchange hr' with ⟨r, hr, -, hpid⟩ | ⟨payment, hnew, -⟩
    · obtain ⟨p, hp⟩ := h.known r hr
      rw [hpid]
      exact change_keeps_payment hchange hp
    · exact change_keeps_payment hchange hnew.locked

theorem counts_leased {db : Db} {payment : Payment} {token : Option String} {expiresAt : Option ℕ}
    (h : CountsOk db) (hpayment : db.payments.find payment.id = some payment) :
    CountsOk { db with payments := db.payments.save { payment with
      refundApprovalToken := token, refundApprovalExpiresAt := expiresAt } } where
  counts := by
    intro p hp
    rcases Table.mem_save.mp hp with rfl | ⟨hp, -⟩
    · exact h.counts payment (Table.mem_of_find hpayment)
    · exact h.counts p hp
  bound := by
    intro p hp
    rcases Table.mem_save.mp hp with rfl | ⟨hp, -⟩
    · exact h.bound payment (Table.mem_of_find hpayment)
    · exact h.bound p hp

theorem counts_requested {db : Db} {payment : Payment} {request : RefundRequest} (h : CountsOk db)
    (hnew : NewRequest db payment request) :
    CountsOk { db with refundRequests := db.refundRequests.save request } where
  counts := by
    intro p hp item hitem
    rw [line_total_save_fresh hnew.fresh, h.counts p hp item hitem]
    simp [contribution, hnew.pending, isApproved]
  bound := by
    intro p hp item hitem
    rw [line_total_save_fresh hnew.fresh]
    have hbound := h.bound p hp item hitem
    by_cases hpid : request.paymentId = p.id
    · obtain rfl : p = payment := by
        have := hnew.locked
        rw [hpid, Table.find_of_mem hp, Option.some.injEq] at this
        exact this
      have hcontribution : contribution isPending (·.refundCount) p.id item.id request =
          sumOf (·.refundCount) (request.items.filter fun line => line.paymentItemId = item.id) := by
        simp [contribution, hpid, hnew.pending, isPending]
      rw [hcontribution]
      by_cases hline : ∃ line ∈ request.items, line.paymentItemId = item.id
      · -- The line on the item is within what the service found available.
        obtain ⟨line, hline, hid⟩ := hline
        obtain ⟨item', hfind, -, havailable, -⟩ := hnew.lines line hline
        rw [hid, Table.find_of_mem hitem, Option.some.injEq] at hfind
        subst hfind
        rw [← hid, sum_of_filter_nodup hnew.nodup hline, hid]
        rw [sum_of_pending] at havailable
        omega
      · push Not at hline
        rw [sum_of_filter_absent hline]
        omega
    · rw [contribution_of_ne hpid]
      omega

theorem counts_rejected {db : Db} {request : RefundRequest} {actorId : String} {note : Option String}
    (h : CountsOk db) (hrequests : RequestsOk db) (hrequest : db.refundRequests.find request.id = some request)
    (hpending : request.status = .pending) :
    CountsOk { db with refundRequests := db.refundRequests.save (resolved request actorId .rejected note) } where
  counts := by
    intro p hp item hitem
    rw [line_total_resolved hrequest hpending, h.counts p hp item hitem]
    simp [isApproved]
  bound := by
    intro p hp item hitem
    have hbound := h.bound p hp item hitem
    have hlines := hrequests.positive request (Table.mem_of_find hrequest)
    have hnonneg : 0 ≤ sumOf (·.refundCount) (request.items.filter fun line => line.paymentItemId = item.id) :=
      sum_of_nonneg fun line hline => (hlines line (List.mem_of_mem_filter hline)).le
    rw [line_total_resolved hrequest hpending]
    simp only [isPending, decide_true, and_true, reduceCtorEq, decide_false, Bool.false_eq_true, and_false, if_false]
    split <;> omega

/-- No request is on a payment that is not stored. -/
theorem RequestsOk.line_total_of_unknown {db : Db} (h : RequestsOk db) {paymentId : String}
    (hunknown : db.payments.find paymentId = none) (keep : RefundRequestStatus → Bool)
    (column : RefundRequestItem → ℤ) (itemId : String) : lineTotal db keep column paymentId itemId = 0 := by
  unfold lineTotal Table.total
  apply List.sum_eq_zero
  simp only [List.mem_map, forall_exists_index, and_imp]
  rintro _ r hr rfl
  apply contribution_of_ne
  rintro rfl
  obtain ⟨p, hp⟩ := h.known r hr
  simp [hunknown] at hp

theorem counts_paid {db : Db} {payment : Payment} {request : RefundRequest} {plan : List RefundChannelPlan}
    (h : CountsOk db) (hrequests : RequestsOk db) (hfresh : db.payments.find payment.id = none)
    (hitems : ∀ item ∈ payment.items.rows, item.refundCount = 0)
    (hrequest : db.refundRequests.find request.id = some request) :
    CountsOk {
      payments := db.payments.save payment
      refundRequests := db.refundRequests.save { request with channelRefundPlan := some plan } } where
  counts := by
    intro p hp item hitem
    rw [line_total_plan hrequest]
    rcases Table.mem_save.mp hp with rfl | ⟨hp, -⟩
    · rw [hrequests.line_total_of_unknown hfresh, hitems item hitem]
    · exact h.counts p hp item hitem
  bound := by
    intro p hp item hitem
    rw [line_total_plan hrequest]
    rcases Table.mem_save.mp hp with rfl | ⟨hp, -⟩
    · rw [hrequests.line_total_of_unknown hfresh, hitems item hitem]
      omega
    · exact h.bound p hp item hitem

theorem counts_approved {db : Db} {payment counted : Payment} {request : RefundRequest} {actorId : String}
    {note : Option String} (h : CountsOk db) (hpayment : db.payments.find request.paymentId = some payment)
    (hrequest : db.refundRequests.find request.id = some request) (hpending : request.status = .pending)
    (hframe : counted = { payment with items := counted.items })
    (hcounted : ∀ item' ∈ counted.items.rows, ∃ item ∈ payment.items.rows, CountedFrom request.items item item') :
    CountsOk {
      payments := db.payments.save { counted with refundApprovalToken := none, refundApprovalExpiresAt := none }
      refundRequests := db.refundRequests.save (resolved request actorId .approved note) } := by
  have hmem := Table.mem_of_find hpayment
  have hpid : payment.id = request.paymentId := Table.key_of_find hpayment
  have hid : counted.id = request.paymentId := by
    rw [hframe]
    exact hpid
  -- What the approval moves from PENDING to APPROVED on an item is what it adds to its count.
  constructor
  · intro p hp item' hitem'
    rw [line_total_resolved hrequest hpending]
    rcases Table.mem_save.mp hp with rfl | ⟨hp, hne⟩
    · obtain ⟨item, hitem, hcount⟩ := hcounted item' hitem'
      have hold := h.counts payment hmem item hitem
      rw [hcount]
      simp only [hid, isApproved, reduceCtorEq, decide_false, Bool.false_eq_true, and_false, if_false, decide_true,
        and_self, if_true]
      rw [hold, hpid, countOn]
      omega
    · have hother : request.paymentId ≠ p.id := fun heq => hne (heq.symm.trans hid.symm)
      simp only [hother, false_and, if_false]
      rw [h.counts p hp item' hitem']
      omega
  · intro p hp item' hitem'
    rw [line_total_resolved hrequest hpending]
    rcases Table.mem_save.mp hp with rfl | ⟨hp, hne⟩
    · obtain ⟨item, hitem, hcount⟩ := hcounted item' hitem'
      have hold := h.bound payment hmem item hitem
      rw [hcount]
      simp only [hid, isPending, reduceCtorEq, decide_false, Bool.false_eq_true, and_false, if_false, decide_true,
        and_self, if_true]
      rw [hpid] at hold
      rw [countOn]
      omega
    · have hother : request.paymentId ≠ p.id := fun heq => hne (heq.symm.trans hid.symm)
      simp only [hother, false_and, if_false]
      have := h.bound p hp item' hitem'
      omega

/-- Every change keeps the counts. -/
theorem counts_ok_change {db db' : Db} {label : Option String} {asked : Payment → RefundRequest → Prop} (h : CountsOk db)
    (hrequests : RequestsOk db) (hchange : Change asked db label db') : CountsOk db' := by
  cases hchange with
  | same => exact h
  | requested hnew _ => exact counts_requested h hnew
  | rejected _ _ hrequest hpending => exact counts_rejected h hrequests hrequest hpending
  | leased hpayment => exact counts_leased h hpayment
  | paid hfresh _ hitems hrequest _ => exact counts_paid h hrequests hfresh hitems hrequest
  | approved _ _ hpayment hrequest hpending hframe hcounted =>
    exact counts_approved h hpayment hrequest hpending hframe hcounted

/-- The history has one entry for each APPROVED request, and none for any other. -/
def HistoryOk (s : State) : Prop :=
  ∀ id, s.counted.count id = if (s.db.refundRequests.find id).any fun r => r.status = .approved then 1 else 0

theorem history_ok_step {s s' : State} {act : Act} {label : Option String} (h : HistoryOk s)
    (heffect : Effect s act s' label) : HistoryOk s' := by
  intro id
  have hold := h id
  rw [heffect.counted, List.count_append]
  cases hfind : s.db.refundRequests.find id with
  | none =>
    have hlabel : label ≠ some id := by
      rintro rfl
      obtain ⟨r, hr, -⟩ := change_label heffect.change
      simp [hfind] at hr
    have hcount : label.toList.count id = 0 := by
      rw [List.count_eq_zero, Option.mem_toList]
      exact hlabel
    rw [hfind] at hold
    rcases change_adds_pending heffect.change hfind with hnone | ⟨r, hr, hpending⟩
    · simp_all
    · simp_all
  | some r =>
    obtain ⟨r', hr', -, -, hresolved, happroved, hlabelled⟩ := change_keeps_request heffect.change hfind
    rw [hfind] at hold
    rw [hr']
    by_cases hlabel : label = some id
    · obtain ⟨hp, ha⟩ := hlabelled hlabel
      simp_all
    · have hcount : label.toList.count id = 0 := by
        rw [List.count_eq_zero, Option.mem_toList]
        exact hlabel
      by_cases hp : r.status = .pending
      · have hna : r'.status ≠ .approved := fun ha => hlabel (happroved hp ha)
        simp_all
      · rw [hresolved hp]
        simp_all

/-! ## Runs -/

/-- A state before the first refund. -/
structure Fresh (s : State) : Prop where
  requests : s.db.refundRequests.rows = []
  counts : ∀ p ∈ s.db.payments.rows, ∀ item ∈ p.items.rows, item.refundCount = 0
  calls : ∀ call, s.calls call = .idle
  counted : s.counted = []

/-- The invariant of the refund service. -/
structure Inv (s : State) : Prop where
  calls : CallsOk s
  requests : RequestsOk s.db
  counts : CountsOk s.db
  history : HistoryOk s

theorem fresh_inv {s : State} (h : Fresh s) : Inv s where
  calls := by constructor <;> simp [h.calls, Call.initial, Call.token, Call.draft]
  requests := by constructor <;> simp [h.requests]
  counts := by
    constructor
    · intro p hp item hitem
      simp [lineTotal, Table.total, h.requests, h.counts p hp item hitem]
    · intro p hp item hitem
      simp [lineTotal, Table.total, h.requests, h.counts p hp item hitem]
  history := by
    intro id
    simp [h.counted, Table.find, h.requests]

theorem inv_step {s s' : State} {act : Act} (h : Inv s) (hstep : step s act = some s') : Inv s' := by
  obtain ⟨label, heffect⟩ := step_spec h.calls hstep
  exact ⟨heffect.calls, requests_ok_change h.requests heffect.change,
    counts_ok_change h.counts h.requests heffect.change, history_ok_step h.history heffect⟩

theorem inv_run {s s' : State} {acts : List Act} (h : Fresh s) (hrun : run step s acts = some s') : Inv s' :=
  run_invariant (fun _ _ _ hinv hstep => inv_step hinv hstep) (fresh_inv h) hrun

/-- The step is the closing transaction of the one call that holds the token on the payment of the
request `id`. -/
def SoleHolder (s : State) (act : Act) (id : String) : Prop :=
  ∃ call env a payment, act = .advance call env ∧ s.calls call = .approving a .finalising ∧ a.initial.id = id ∧
    s.db.payments.find a.initial.paymentId = some payment ∧ payment.refundApprovalToken = some a.token ∧
    ∀ other, (s.calls other).token = some a.token → other = call

theorem sole_holder_of_counted_by {s : State} {act : Act} {id : String} (h : CallsOk s) (hby : CountedBy s act id) :
    SoleHolder s act id := by
  obtain ⟨call, env, a, payment, hact, hcall, hid, hpayment, htoken⟩ := hby
  refine ⟨call, env, a, payment, hact, hcall, hid, hpayment, htoken, ?_⟩
  intro other hother
  exact h.unique other call a.token hother (by rw [hcall]; rfl)

/-- What the next step can do to a request: nothing once it is resolved, and an approval only by the
holder of the token. -/
def RequestsSettle (s : State) (act : Act) (s' : State) : Prop :=
  ∀ id r, s.db.refundRequests.find id = some r →
    (r.status ≠ .pending → s'.db.refundRequests.find id = some r) ∧
    (r.status = .pending →
      (s'.db.refundRequests.find id).any (fun r' => r'.status = .approved) → SoleHolder s act id)

theorem requests_settle_step {s s' : State} {act : Act} (h : CallsOk s) (hstep : step s act = some s') :
    RequestsSettle s act s' := by
  obtain ⟨label, heffect⟩ := step_spec h hstep
  intro id r hr
  obtain ⟨r', hr', -, -, hresolved, happroved, -⟩ := change_keeps_request heffect.change hr
  constructor
  · intro hne
    rw [hr', hresolved hne]
  · intro hpending hany
    rw [hr', Option.any_some, decide_eq_true_eq] at hany
    exact sole_holder_of_counted_by h (heffect.holder id (happroved hpending hany))

def sampleItem : PaymentItem where
  id := "item"
  quantity := 20000
  totalAmount := 100000
  taxAmount := 16667
  unTaxAmount := 83333
  sellerAccountId := some "seller"

def samplePayment : Payment where
  id := "payment"
  type := .purchase
  totalAmount := 100000
  taxAmount := 16667
  currency := "TRY"
  items := ⟨[sampleItem], by decide⟩
  customerAccountId := some "customer"
  paymentStatus := .completed

def sampleState : State where
  db := { payments := ⟨[samplePayment], by decide⟩, refundRequests := Table.empty }
  now := 0
  calls := fun _ => .idle
  tokens := []
  counted := []

def sampleRefund : StartSystemRefundDTO where
  paymentId := some "payment"
  items := some [some ⟨some "item", some 1⟩]
  reasonKeys := some ["OTHER"]
  idempotencyKey := some "key"

def sampleEnv : Env where
  token := "token"
  directory := ⟨fun _ => some ⟨"account", "COMMERCIAL", some "address"⟩, fun _ => true, fun _ => false⟩
  paymentId := "refund"
  itemIds := ["refund item"]

/-- A system refund of one of two pieces, with each of its steps. -/
def sampleActs : List Act :=
  .startRefundMicroservice 0 sampleRefund "request" :: List.replicate 7 (.advance 0 sampleEnv)

theorem fresh_sample : Fresh sampleState where
  requests := rfl
  counts := by decide
  calls := fun _ => rfl
  counted := rfl

end Postral.Refund
