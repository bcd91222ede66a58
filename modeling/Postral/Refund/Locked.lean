import Postral.Refund.Locking
import Postral.Refund.Steps

/-!
# What a refund call knows

What a call has read stays true for as long as its transaction holds the lock. `Stepped` is everything that a step can do.
-/

open Check Run

namespace Postral.Refund.Locking

namespace Job

/-- The refund payment that the next commit stores. -/
def stores (job : Job) : Option Payment :=
  match job.point with
  | .approving _ (.storeCommitting payment _) => some payment
  | _ => none

/-- The status that the next commit gives the request. -/
def resolves (job : Job) : Option RefundRequestStatus :=
  match job.point with
  | .rejectCommitting _ => some .rejected
  | .approving _ (.finaliseCommitting _) => some .approved
  | _ => none

/-- The next commit writes the lease of the payment. -/
def writesLease (job : Job) : Bool :=
  match job.point with
  | .claimCommitting _ | .approving _ (.finaliseCommitting _) | .approving _ .releasing => true
  | _ => false

/-- The lease that a call has or is about to get. -/
def lease (job : Job) : Option Lease :=
  match job.point with
  | .claimCommitting lease | .approving lease _ => some lease
  | _ => none

/-- A call that rejects has found no payment for the request. -/
def refusing (job : Job) : Bool :=
  match job.point with
  | .rejectSearching _ paid => !paid
  | .rejectSaving _ | .rejectCommitting _ => true
  | _ => false

end Job

/-! ## Commits -/

def Paid (db : Db) (requestId : String) : Prop := ∃ p ∈ db.payments.rows, p.refundRequestId = some requestId

/-- No request has two payments. -/
def PaidOnce (db : Db) : Prop :=
  ∀ requestId, ∀ p ∈ db.payments.rows, ∀ q ∈ db.payments.rows,
    p.refundRequestId = some requestId → q.refundRequestId = some requestId → p = q

/-- No REJECTED request has a payment. -/
def NoneRejected (db : Db) : Prop := ∀ r ∈ db.refundRequests.rows, r.status = .rejected → ¬ Paid db r.id

theorem release_find {db : Db} {paymentId token id : String} {row : Payment} (h : db.payments.find id = some row) :
    (releaseApproval db paymentId token).payments.find id = some row ∨
      id = paymentId ∧ row.refundApprovalToken = some token := by
  rcases release_approval_spec db paymentId token with heq | ⟨payment, hfind, htoken, heq⟩
  · rw [heq]
    exact Or.inl h
  · have hid := Table.key_of_find hfind
    by_cases hne : id = payment.id
    · rw [hne, hid] at h
      obtain rfl : payment = row := Option.some.inj (hfind.symm.trans h)
      exact Or.inr ⟨hne.trans hid, htoken⟩
    · rw [heq]
      exact Or.inl ((Table.find_save_of_ne (r := { payment with
        refundApprovalToken := none, refundApprovalExpiresAt := none }) hne).trans h)

/-- What no commit changes of a request. -/
structure Same (r r' : RefundRequest) : Prop where
  id : r'.id = r.id
  paymentId : r'.paymentId = r.paymentId
  idempotencyKey : r'.idempotencyKey = r.idempotencyKey
  items : r'.items = r.items

theorem Same.refl (r : RefundRequest) : Same r r := ⟨rfl, rfl, rfl, rfl⟩

/-- A commit keeps the requests, and changes the status of the one that it resolves at most. -/
theorem commit_find_request (db : Db) (job : Job) (id : String) :
    ∃ f : RefundRequest → RefundRequest,
      (commit db job).refundRequests.find id = (db.refundRequests.find id).map f ∧
        ∀ r, Same r (f r) ∧
          ((f r).status = r.status ∨ r.id = job.initial.id ∧ job.resolves = some (f r).status) := by
  obtain ⟨initial, actorId, note, point⟩ := job
  have hsame : ∃ f : RefundRequest → RefundRequest,
      db.refundRequests.find id = (db.refundRequests.find id).map f ∧
        ∀ r, Same r (f r) ∧
          ((f r).status = r.status ∨ r.id = initial.id ∧ Job.resolves ⟨initial, actorId, note, point⟩ = some (f r).status) :=
    ⟨fun r => r, by simp, fun r => ⟨.refl r, Or.inl rfl⟩⟩
  cases point with
  | rejectCommitting _ =>
    refine ⟨_, Table.find_update (f := setResolution actorId .rejected note) (fun _ => rfl) id, fun r => ?_⟩
    split
    · exact ⟨⟨rfl, rfl, rfl, rfl⟩, Or.inr ⟨by simp_all, rfl⟩⟩
    · exact ⟨.refl r, Or.inl rfl⟩
  | approving lease point =>
    cases point with
    | storeCommitting payment plan =>
      unfold commit
      dsimp only
      unfold storePayment
      split
      · refine ⟨_, Table.find_update (f := setPlan plan) (fun _ => rfl) id, fun r => ?_⟩
        split
        · exact ⟨⟨rfl, rfl, rfl, rfl⟩, Or.inl rfl⟩
        · exact ⟨.refl r, Or.inl rfl⟩
      · exact hsame
    | finaliseCommitting counted =>
      refine ⟨_, Table.find_update (f := setResolution actorId .approved note) (fun _ => rfl) id, fun r => ?_⟩
      split
      · exact ⟨⟨rfl, rfl, rfl, rfl⟩, Or.inr ⟨by simp_all, rfl⟩⟩
      · exact ⟨.refl r, Or.inl rfl⟩
    | releasing =>
      have hrelease : (releaseApproval db initial.paymentId lease.token).refundRequests = db.refundRequests := by
        rcases release_approval_spec db initial.paymentId lease.token with heq | ⟨_, -, -, heq⟩ <;> rw [heq]
      unfold commit
      dsimp only
      rw [hrelease]
      exact hsame
    | _ => exact hsame
  | _ => exact hsame

/-- The payments after a commit are those before, and the one that it stores. -/
theorem commit_payment_row {db : Db} {job : Job} {p : Payment} (h : p ∈ (commit db job).payments.rows) :
    job.stores = some p ∨ ∃ old ∈ db.payments.rows, old.id = p.id ∧ old.refundRequestId = p.refundRequestId := by
  obtain ⟨initial, actorId, note, point⟩ := job
  have hsame (hp : p ∈ db.payments.rows) :
      Job.stores ⟨initial, actorId, note, point⟩ = some p ∨
        ∃ old ∈ db.payments.rows, old.id = p.id ∧ old.refundRequestId = p.refundRequestId :=
    Or.inr ⟨p, hp, rfl, rfl⟩
  cases point with
  | claimCommitting lease =>
    obtain ⟨hp, -⟩ | ⟨old, hold, -, rfl⟩ := (Table.mem_update (f := setLease lease) fun _ => rfl).mp h
    · exact hsame hp
    · exact Or.inr ⟨old, hold, rfl, rfl⟩
  | approving lease point =>
    cases point with
    | storeCommitting payment plan =>
      unfold commit at h
      dsimp only at h
      unfold storePayment at h
      split at h
      · obtain rfl | ⟨hp, -⟩ := Table.mem_save.mp h
        · exact Or.inl rfl
        · exact hsame hp
      · exact hsame h
    | finaliseCommitting counted =>
      obtain ⟨hp, -⟩ | ⟨old, hold, -, rfl⟩ := (Table.mem_update (f := setCounted counted) fun _ => rfl).mp h
      · exact hsame hp
      · exact Or.inr ⟨old, hold, rfl, rfl⟩
    | releasing =>
      unfold commit at h
      dsimp only at h
      rcases release_approval_spec db initial.paymentId lease.token with heq | ⟨old, hold, -, heq⟩ <;> rw [heq] at h
      · exact hsame h
      · obtain rfl | ⟨hp, -⟩ := Table.mem_save.mp h
        · exact Or.inr ⟨old, Table.mem_of_find hold, rfl, rfl⟩
        · exact hsame hp
    | _ => exact hsame h
  | _ => exact hsame h

/-- A commit keeps the payments, and changes only those whose lease it writes. -/
theorem commit_find_payment {db : Db} (job : Job) {id : String} {row : Payment} (h : db.payments.find id = some row) :
    (commit db job).payments.find id = some row ∨ job.writesLease = true ∧ id = job.initial.paymentId := by
  obtain ⟨initial, actorId, note, point⟩ := job
  have hupdate {f : Payment → Payment} (hf : ∀ p, (f p).id = p.id) :
      (db.payments.update (fun p => p.id = initial.paymentId) f hf).find id = some row ∨ id = initial.paymentId := by
    rw [Table.find_update hf, h, Option.map_some, Table.key_of_find h]
    by_cases hid : id = initial.paymentId
    · exact Or.inr hid
    · exact Or.inl (by simp [hid])
  cases point with
  | claimCommitting lease => exact (hupdate (f := setLease lease) fun _ => rfl).imp_right fun hid => ⟨rfl, hid⟩
  | approving lease point =>
    cases point with
    | storeCommitting payment plan =>
      refine Or.inl ?_
      unfold commit
      dsimp only
      unfold storePayment
      split
      · rename_i hfresh
        have hne : id ≠ payment.id := by
          rintro rfl
          simp [h] at hfresh
        exact (Table.find_save_of_ne hne).trans h
      · exact h
    | finaliseCommitting counted => exact (hupdate (f := setCounted counted) fun _ => rfl).imp_right fun hid => ⟨rfl, hid⟩
    | releasing => exact (release_find h).imp_right fun hid => ⟨rfl, hid.1⟩
    | _ => exact Or.inl h
  | _ => exact Or.inl h

theorem Paid.commit {db : Db} {job : Job} {id : String} (h : Paid (commit db job) id) :
    Paid db id ∨ ∃ p, job.stores = some p ∧ p.refundRequestId = some id := by
  obtain ⟨p, hp, hid⟩ := h
  rcases commit_payment_row hp with hstores | ⟨old, hold, -, hsame⟩
  · exact Or.inr ⟨p, hstores, hid⟩
  · exact Or.inl ⟨old, hold, hsame.trans hid⟩

theorem PaidOnce.commit {db : Db} {job : Job} (h : PaidOnce db)
    (hnew : ∀ p id, job.stores = some p → p.refundRequestId = some id → ¬ Paid db id) : PaidOnce (commit db job) := by
  intro id p hp q hq hpid hqid
  rcases commit_payment_row hp with hp' | ⟨oldP, holdP, hkeyP, hsameP⟩ <;>
    rcases commit_payment_row hq with hq' | ⟨oldQ, holdQ, hkeyQ, hsameQ⟩
  · exact Option.some.inj (hp'.symm.trans hq')
  · exact absurd ⟨oldQ, holdQ, hsameQ.trans hqid⟩ (hnew p id hp' hpid)
  · exact absurd ⟨oldP, holdP, hsameP.trans hpid⟩ (hnew q id hq' hqid)
  · have hold := h id oldP holdP oldQ holdQ (hsameP.trans hpid) (hsameQ.trans hqid)
    refine List.inj_on_of_nodup_map (Table.nodup _) hp hq ?_
    rw [← hkeyP, ← hkeyQ, hold]

/-! ## What the calls know -/

def Pending (db : Db) (requestId : String) : Prop :=
  ∃ r, db.refundRequests.find requestId = some r ∧ r.status = .pending

/-- No approval holds the payment. -/
def Quiet (db : Db) (now : ℕ) (paymentId : String) : Prop :=
  ∃ row, db.payments.find paymentId = some row ∧ approvalInProgress now row = false

/-- The lease is on the payment, or has expired. -/
def Leased (db : Db) (now : ℕ) (paymentId : String) (lease : Lease) : Prop :=
  lease.expiresAt ≤ now ∨ ∃ row, db.payments.find paymentId = some row ∧
    row.refundApprovalToken = some lease.token ∧ row.refundApprovalExpiresAt = some lease.expiresAt

/-- The token is on the payment, whether the lease has expired or not. -/
def Tokened (db : Db) (paymentId : String) (lease : Lease) : Prop :=
  ∃ row, db.payments.find paymentId = some row ∧ row.refundApprovalToken = some lease.token

def Prepares (prepared : Option PreparedRefund) (requestId : String) : Prop :=
  ∀ p ∈ prepared, p.1.refundRequestId = some requestId

/-- What an approval knows besides its lease. -/
def LeasePoint.Facts (db : Db) (initial : RefundRequest) (lease : Lease) : LeasePoint → Prop
  | .storeLocking prepared => Prepares prepared initial.id
  | .storeSearching prepared => Prepares prepared initial.id ∧ Pending db initial.id
  | .storeInserting prepared => Prepares prepared initial.id ∧ Pending db initial.id ∧ ¬ Paid db initial.id
  | .storeCommitting payment _ =>
    payment.refundRequestId = some initial.id ∧ Pending db initial.id ∧ ¬ Paid db initial.id
  | .finaliseReading payment => db.payments.find initial.paymentId = some payment
  | .finaliseSaving _ | .finaliseCommitting _ => Tokened db initial.paymentId lease ∧ Pending db initial.id
  | _ => True

def Point.Facts (db : Db) (now : ℕ) (initial : RefundRequest) : Point → Prop
  | .rejectChecking payment | .claimReading payment => db.payments.find initial.paymentId = some payment
  | .rejectReading => Quiet db now initial.paymentId
  | .rejectSearching request _ | .rejectSaving request | .rejectCommitting request =>
    Quiet db now initial.paymentId ∧ request.id = initial.id ∧ Pending db initial.id
  | .claimChecking payment request => db.payments.find initial.paymentId = some payment ∧ request.id = initial.id
  | .claimCommitting lease => Quiet db now initial.paymentId ∧ lease.request.id = initial.id ∧ lease.token ≠ ""
  | .approving lease point =>
    lease.request.id = initial.id ∧ lease.token ≠ "" ∧ (point ≠ .releasing → Leased db now initial.paymentId lease) ∧
      point.Facts db initial lease
  | _ => True

/-- The request that a call is about is stored. -/
def Known (db : Db) (initial : RefundRequest) : Prop :=
  ∃ r, db.refundRequests.find initial.id = some r ∧ r.paymentId = initial.paymentId

/-- What is seen under a lock is kept for as long as the lock is held. -/
theorem Point.Facts.imp {db db' : Db} {now now' : ℕ} {job : Job} (h : job.point.Facts db now job.initial)
    (hnow : now ≤ now')
    (hpayment : job.payment = some job.initial.paymentId → ∀ row,
      db.payments.find job.initial.paymentId = some row → db'.payments.find job.initial.paymentId = some row)
    (hpending : job.request = some job.initial.id ∨ job.payment = some job.initial.paymentId →
      Pending db job.initial.id → Pending db' job.initial.id)
    (hpaid : job.request = some job.initial.id → Paid db' job.initial.id → Paid db job.initial.id)
    (hleased : ∀ lease ∈ job.lease,
      Leased db now job.initial.paymentId lease → Leased db' now' job.initial.paymentId lease) :
    job.point.Facts db' now' job.initial := by
  obtain ⟨initial, actorId, note, point⟩ := job
  have hquiet (hlocked : Job.payment ⟨initial, actorId, note, point⟩ = some initial.paymentId) :
      Quiet db now initial.paymentId → Quiet db' now' initial.paymentId := by
    rintro ⟨row, hrow, hfree⟩
    refine ⟨row, hpayment hlocked row hrow, ?_⟩
    unfold approvalInProgress at *
    cases hexpires : row.refundApprovalExpiresAt with
    | none => simp
    | some expiresAt =>
      simp only [hexpires, Option.any_some, Bool.and_eq_false_iff, decide_eq_false_iff_not, not_lt] at hfree ⊢
      exact hfree.imp_right fun hexpired => hexpired.trans hnow
  cases point with
  | rejectChecking payment => exact hpayment rfl payment h
  | rejectReading => exact hquiet rfl h
  | rejectSearching request paid => exact ⟨hquiet rfl h.1, h.2.1, hpending (Or.inr rfl) h.2.2⟩
  | rejectSaving request => exact ⟨hquiet rfl h.1, h.2.1, hpending (Or.inr rfl) h.2.2⟩
  | rejectCommitting request => exact ⟨hquiet rfl h.1, h.2.1, hpending (Or.inr rfl) h.2.2⟩
  | claimReading payment => exact hpayment rfl payment h
  | claimChecking payment request => exact h.imp_left (hpayment rfl payment)
  | claimCommitting lease => exact h.imp_left (hquiet rfl)
  | approving lease point =>
    obtain ⟨hid, htoken, hlease, hfacts⟩ := h
    refine ⟨hid, htoken, fun hne => hleased lease rfl (hlease hne), ?_⟩
    have hlocked : some lease.request.id = some initial.id := congrArg some hid
    cases point with
    | storeLocking prepared => exact hfacts
    | storeSearching prepared => exact ⟨hfacts.1, hpending (Or.inl hlocked) hfacts.2⟩
    | storeInserting prepared =>
      exact ⟨hfacts.1, hpending (Or.inl hlocked) hfacts.2.1, fun hpaid' => hfacts.2.2 (hpaid hlocked hpaid')⟩
    | storeCommitting payment plan =>
      exact ⟨hfacts.1, hpending (Or.inl hlocked) hfacts.2.1, fun hpaid' => hfacts.2.2 (hpaid hlocked hpaid')⟩
    | finaliseReading payment => exact hpayment rfl payment hfacts
    | finaliseSaving counted =>
      exact ⟨hfacts.1.imp fun row hrow => hrow.imp_left (hpayment rfl row), hpending (Or.inr rfl) hfacts.2⟩
    | finaliseCommitting counted =>
      exact ⟨hfacts.1.imp fun row hrow => hrow.imp_left (hpayment rfl row), hpending (Or.inr rfl) hfacts.2⟩
    | _ => trivial
  | _ => trivial

/-- A call finds the lease of an approval at work on the payment. -/
theorem Leased.in_progress {db : Db} {now : ℕ} {paymentId : String} {lease : Lease}
    (h : Leased db now paymentId lease) (htoken : lease.token ≠ "") (hlive : now < lease.expiresAt) :
    ¬ Quiet db now paymentId := by
  rintro ⟨row, hrow, hfree⟩
  obtain hexpired | ⟨row', hrow', htoken', hexpires⟩ := h
  · omega
  · obtain rfl : row' = row := Option.some.inj (hrow'.symm.trans hrow)
    simp [approvalInProgress, truthy, htoken', hexpires, htoken, hlive] at hfree

theorem prepare_request_spec {db : Db} {dir : Directory} {plan : Except HttpError (List RefundChannelPlan)}
    {request : RefundRequest} {original : Payment} {prepared : Option PreparedRefund}
    (h : prepareRefundPayment db dir plan request original = .ok prepared) : Prepares prepared request.id := by
  unfold prepareRefundPayment at h
  split at h
  · obtain rfl : none = prepared := by simpa using h
    simp [Prepares]
  · simp only [bind_eq_ok, pure_eq_ok] at h
    obtain ⟨_, -, _, -, draft, hdraft, rfl⟩ := h
    obtain ⟨_, -, -, hrequest, -⟩ := generate_entity_spec hdraft
    simpa [Prepares] using hrequest

/-- What a call knows after a step. -/
theorem next_facts {w : World} {env : StepEnv} {job : Job} {point : Point} (h : job.point.Facts w.db w.now job.initial)
    (hnext : next w env job = .ok (some point)) (hdrawn : ∀ token ∈ drawn (some point), token ≠ "") :
    point.Facts (commit w.db job) w.now job.initial := by
  obtain ⟨initial, actorId, note, before⟩ := job
  cases before with
  | rejectLocking =>
    simp only [next, bind_eq_ok, pure_eq_ok, Option.some.injEq] at hnext
    obtain ⟨payment, hlocked, rfl⟩ := hnext
    obtain ⟨pid, p, hpid, hfind, hp⟩ := with_payment_lock_spec hlocked
    obtain rfl := Option.some.inj hpid
    obtain rfl : p = payment := by simpa using hp
    exact hfind
  | rejectChecking payment =>
    simp only [next, bind_eq_ok, pure_eq_ok, Option.some.injEq, assertNoApprovalInProgress, require_eq_ok] at hnext
    obtain ⟨_, hquiet, rfl⟩ := hnext
    exact ⟨payment, h, by simpa using hquiet⟩
  | rejectReading =>
    simp only [next, bind_eq_ok, pure_eq_ok, Option.some.injEq, find_one_or_fail_spec, assertPendingRefundRequest,
      require_eq_ok] at hnext
    obtain ⟨request, hfind, _, hpending, _, -, rfl⟩ := hnext
    exact ⟨h, Table.key_of_find hfind, request, hfind, hpending⟩
  | rejectSearching request paid =>
    simp only [next, bind_eq_ok, pure_eq_ok, Option.some.injEq] at hnext
    obtain ⟨_, -, _, -, _, -, rfl⟩ := hnext
    exact h
  | rejectSaving request =>
    obtain rfl : Point.rejectCommitting request = point := by simpa [next] using hnext
    exact h
  | rejectCommitting request => simp [next] at hnext
  | claimLocking =>
    simp only [next, bind_eq_ok, pure_eq_ok, Option.some.injEq] at hnext
    obtain ⟨_, -, payment, hlocked, rfl⟩ := hnext
    obtain ⟨pid, p, hpid, hfind, hp⟩ := with_payment_lock_spec hlocked
    obtain rfl := Option.some.inj hpid
    obtain rfl : p = payment := by simpa using hp
    exact hfind
  | claimReading payment =>
    simp only [next, bind_eq_ok, find_one_or_fail_spec] at hnext
    obtain ⟨request, hfind, hnext⟩ := hnext
    split at hnext
    · simp at hnext
    · simp only [bind_eq_ok, pure_eq_ok, Option.some.injEq] at hnext
      obtain ⟨_, -, rfl⟩ := hnext
      exact ⟨h, Table.key_of_find hfind⟩
  | claimChecking payment request =>
    simp only [next, bind_eq_ok, pure_eq_ok, Option.some.injEq, assertNoApprovalInProgress, require_eq_ok] at hnext
    obtain ⟨_, hquiet, _, -, _, -, _, -, rfl⟩ := hnext
    exact ⟨⟨payment, h.1, by simpa using hquiet⟩, h.2, hdrawn env.token rfl⟩
  | claimCommitting lease =>
    obtain rfl : Point.approving lease .loading = point := by simpa [next] using hnext
    obtain ⟨⟨row, hrow, -⟩, hid, htoken⟩ := h
    refine ⟨hid, htoken, fun _ => Or.inr ⟨setLease lease row, ?_, rfl, rfl⟩, trivial⟩
    refine (Table.find_update (f := setLease lease) (fun _ => rfl) _).trans ?_
    simp [hrow, Table.key_of_find hrow]
  | approving lease before =>
    simp only [next, bind_eq_ok, pure_eq_ok, Option.map_eq_some_iff] at hnext
    obtain ⟨_, hnext, point, rfl, rfl⟩ := hnext
    obtain ⟨hid, htoken, hlease, hfacts⟩ := h
    cases before with
    | loading =>
      simp only [nextOfLease, bind_eq_ok, pure_eq_ok, Option.some.injEq] at hnext
      obtain ⟨original, -, rfl⟩ := hnext
      exact ⟨hid, htoken, fun _ => hlease (by simp), trivial⟩
    | preparing original =>
      simp only [nextOfLease, bind_eq_ok, pure_eq_ok, Option.some.injEq] at hnext
      obtain ⟨prepared, hprepare, rfl⟩ := hnext
      have hprepares := prepare_request_spec hprepare
      rw [hid] at hprepares
      exact ⟨hid, htoken, fun _ => hlease (by simp), hprepares⟩
    | storeLocking prepared =>
      simp only [nextOfLease, bind_eq_ok, pure_eq_ok, Option.some.injEq, orThrow_eq_ok, require_eq_ok] at hnext
      obtain ⟨stored, hstored, _, hpending, rfl⟩ := hnext
      exact ⟨hid, htoken, fun _ => hlease (by simp), hfacts, stored, hid ▸ hstored, hpending⟩
    | storeSearching prepared =>
      simp only [nextOfLease] at hnext
      split at hnext
      · simp only [bind_eq_ok, pure_eq_ok, Option.some.injEq] at hnext
        obtain ⟨_, -, rfl⟩ := hnext
        exact ⟨hid, htoken, fun _ => hlease (by simp), trivial⟩
      · rename_i hnone
        obtain rfl : LeasePoint.storeInserting prepared = point := by simpa using hnext
        have hunpaid : ¬ Paid w.db lease.request.id := by simpa [Paid, List.find?_eq_none] using hnone
        exact ⟨hid, htoken, fun _ => hlease (by simp), hfacts.1, hfacts.2, hid ▸ hunpaid⟩
    | storeInserting prepared =>
      simp only [nextOfLease, bind_eq_ok, pure_eq_ok, Option.some.injEq, orThrow_eq_ok, Prod.exists] at hnext
      obtain ⟨draft, plan, rfl, payment, hstore, rfl⟩ := hnext
      obtain ⟨-, -, -, hcarried, -⟩ := store_spec hstore
      exact ⟨hid, htoken, fun _ => hlease (by simp), hcarried.trans (hfacts.1 _ rfl), hfacts.2⟩
    | storeCommitting payment plan =>
      simp only [nextOfLease, bind_eq_ok, pure_eq_ok, Option.some.injEq, require_eq_ok] at hnext
      obtain ⟨_, hfresh, rfl⟩ := hnext
      refine ⟨hid, htoken, fun _ => (hlease (by simp)).imp_right ?_, trivial⟩
      rintro ⟨row, hrow, hrow'⟩
      refine ⟨row, (commit_find_payment _ hrow).resolve_right ?_, hrow'⟩
      simp [Job.writesLease]
    | channels =>
      obtain rfl : LeasePoint.finaliseLocking = point := by simpa [nextOfLease] using hnext
      exact ⟨hid, htoken, fun _ => hlease (by simp), trivial⟩
    | finaliseLocking =>
      simp only [nextOfLease, bind_eq_ok, pure_eq_ok, Option.some.injEq] at hnext
      obtain ⟨payment, hlocked, rfl⟩ := hnext
      obtain ⟨pid, p, hpid, hfind, hp⟩ := with_payment_lock_spec hlocked
      obtain rfl := Option.some.inj hpid
      obtain rfl : p = payment := by simpa using hp
      exact ⟨hid, htoken, fun _ => hlease (by simp), hfind⟩
    | finaliseReading payment =>
      simp only [nextOfLease, bind_eq_ok, pure_eq_ok, Option.some.injEq, require_eq_ok, find_one_or_fail_spec,
        assertPendingRefundRequest] at hnext
      obtain ⟨_, hown, request, hfind, _, hpending, _, -, _, -, counted, -, _, -, rfl⟩ := hnext
      exact ⟨hid, htoken, fun _ => hlease (by simp), ⟨payment, hfacts, hown⟩, request, hfind, hpending⟩
    | finaliseSaving counted =>
      obtain rfl : LeasePoint.finaliseCommitting counted = point := by simpa [nextOfLease] using hnext
      exact ⟨hid, htoken, fun _ => hlease (by simp), hfacts⟩
    | finaliseCommitting counted =>
      obtain rfl : LeasePoint.releasing = point := by simpa [nextOfLease] using hnext
      exact ⟨hid, htoken, fun hne => absurd rfl hne, trivial⟩
    | releasing => simp [nextOfLease] at hnext

/-! ## Every step -/

/-- The points of a call in their order. -/
def Follows (before after : Point) : Prop :=
  match before with
  | .rejectLocking => ∃ payment, after = .rejectChecking payment
  | .rejectChecking _ => after = .rejectReading
  | .rejectReading => ∃ request paid, after = .rejectSearching request paid
  | .rejectSearching request _ => after = .rejectSaving request
  | .rejectSaving request => after = .rejectCommitting request
  | .rejectCommitting _ => False
  | .claimLocking => ∃ payment, after = .claimReading payment
  | .claimReading payment => ∃ request, after = .claimChecking payment request
  | .claimChecking _ request => ∃ lease : Lease, lease.request = request ∧ after = .claimCommitting lease
  | .claimCommitting lease => after = .approving lease .loading
  | .approving lease _ => ∃ point, after = .approving lease point

theorem next_follows {w : World} {env : StepEnv} {job : Job} {point : Point} (h : next w env job = .ok (some point)) :
    Follows job.point point := by
  obtain ⟨initial, actorId, note, before⟩ := job
  unfold next at h
  cases before with
  | claimReading payment =>
    simp only [bind_eq_ok] at h
    obtain ⟨request, -, h⟩ := h
    split at h
    · simp at h
    · simp only [bind_eq_ok, pure_eq_ok, Option.some.injEq] at h
      obtain ⟨_, -, rfl⟩ := h
      exact ⟨request, rfl⟩
  | claimChecking payment request =>
    simp only [bind_eq_ok, pure_eq_ok, Option.some.injEq] at h
    obtain ⟨_, -, _, -, _, -, _, -, rfl⟩ := h
    exact ⟨_, rfl, rfl⟩
  | approving lease before =>
    simp only [bind_eq_ok, pure_eq_ok, Option.map_eq_some_iff] at h
    obtain ⟨_, -, point, -, rfl⟩ := h
    exact ⟨point, rfl⟩
  | rejectCommitting request => simp at h
  | _ =>
    simp only [bind_eq_ok, pure_eq_ok, Except.ok.injEq, Option.some.injEq] at h
    grind [Follows]

theorem goes_to_spec {w w' : World} {call : ℕ} {job : Option Job} :
    w.goesTo call job = some w' ↔ w.paymentLocks.Grants call (job.bind Job.payment) ∧
      w.requestLocks.Grants call (job.bind Job.request) ∧ w.moveTo call job = w' := by
  unfold World.goesTo
  split <;> simp_all

/-- A transaction adds a new request. The key of the request is not taken. -/
def Adds (db : Db) (request : RefundRequest) (db' : Db) : Prop :=
  db.refundRequests.find request.id = none ∧ request.status = .pending ∧
    (request.items.map (·.paymentItemId)).Nodup ∧
    (request.idempotencyKey ≠ none → ∀ r ∈ db.refundRequests.rows, r.idempotencyKey ≠ request.idempotencyKey) ∧
    db' = { db with refundRequests := db.refundRequests.save request }

namespace Adds

variable {db db' : Db} {request : RefundRequest}

theorem payments (h : Adds db request db') : db'.payments = db.payments := by
  obtain ⟨-, -, -, -, rfl⟩ := h
  rfl

theorem find_request (h : Adds db request db') {id : String} {r : RefundRequest}
    (hr : db.refundRequests.find id = some r) : db'.refundRequests.find id = some r := by
  obtain ⟨hfresh, -, -, -, rfl⟩ := h
  have hne : id ≠ request.id := by
    rintro rfl
    simp [hfresh] at hr
  exact (Table.find_save_of_ne hne).trans hr

theorem mem_requests (h : Adds db request db') {r : RefundRequest} (hr : r ∈ db'.refundRequests.rows) :
    r = request ∨ r ∈ db.refundRequests.rows := by
  obtain ⟨-, -, -, -, rfl⟩ := h
  exact (Table.mem_save.mp hr).imp_right And.left

theorem known (h : Adds db request db') {initial : RefundRequest} (hknown : Known db initial) : Known db' initial := by
  obtain ⟨r, hr, hpaymentId⟩ := hknown
  exact ⟨r, h.find_request hr, hpaymentId⟩

theorem once (h : Adds db request db') (honce : PaidOnce db) : PaidOnce db' := by
  unfold PaidOnce at *
  rwa [h.payments]

theorem facts (h : Adds db request db') {now : ℕ} {job : Job} (hfacts : job.point.Facts db now job.initial) :
    job.point.Facts db' now job.initial := by
  refine hfacts.imp le_rfl ?_ ?_ ?_ ?_
  · intro _ row hrow
    rwa [h.payments]
  · rintro - ⟨r, hr, hpending⟩
    exact ⟨r, h.find_request hr, hpending⟩
  · rintro - ⟨p, hp, hid⟩
    exact ⟨p, h.payments ▸ hp, hid⟩
  · intro lease _ hleased
    unfold Leased
    rwa [h.payments]

end Adds

/-- Everything that a step can do. -/
inductive Stepped (w : World) (act : WorldAct) (w' : World) : Prop where
  | stayed (hworld : w' = w)
  | created (request : RefundRequest) (db : Db) (hadds : Adds w.db request db) (hworld : w' = w.setDb db)
  | entered (call : ℕ) (db : Db) (job : Option Job) (hdb : db = w.db ∨ ∃ request, Adds w.db request db)
      (hjob : ∀ j ∈ job, db.refundRequests.find j.initial.id = some j.initial ∧
        (j.point = .claimLocking ∨ j.point = .rejectLocking)) (hgoes : (w.setDb db).goesTo call job = some w')
  | advanced (call : ℕ) (env : StepEnv) (job : Job) (point : Option Point) (hact : act = .advance call env)
      (hjob : w.jobs call = some job) (htouches : w.paymentLocks.Grants call job.touches)
      (hnext : next w env job = .ok point) (hdrawn : ∀ token ∈ drawn point, token ≠ "" ∧ token ∉ w.tokens)
      (hgoes : { w.committed job with tokens := (drawn point).toList ++ w.tokens }.goesTo call
        (point.map fun point => { job with point := point }) = some w')
  | failed (call : ℕ) (job : Job) (before : World) (hbefore : before = w ∨ before = w.committed job ∧ act = .fail call true)
      (hjob : w.jobs call = some job) (htouches : w.paymentLocks.Grants call job.touches)
      (hgoes : before.goesTo call ((thrown job.point).map fun point => { job with point := point }) = some w')
  | crashed (call : ℕ) (hgoes : w.goesTo call none = some w')
  | ticked (milliseconds : ℕ) (hworld : w' = { w with now := w.now + milliseconds })

/-- `createRefundRequest` adds a request without a key. -/
theorem create_adds {db db' : Db} {actorId id : String} {dto : CreateRefundRequestDTO} {request : RefundRequest}
    (h : createRefundRequest db actorId dto id = .ok (db', request)) : Adds db request db' := by
  obtain ⟨payment, hnew, -, rfl⟩ := create_refund_request_spec h
  refine ⟨hnew.fresh, hnew.pending, hnew.nodup, ?_, rfl⟩
  obtain ⟨_, payment, -, -, hact⟩ := with_payment_lock_spec h
  simp only [bind_eq_ok, pure_eq_ok, Prod.exists, Prod.mk.injEq, buildRefundRequestEntity] at hact
  obtain ⟨_, _, -, _, ⟨_, -, _, -, rfl⟩, _, -, -, rfl⟩ := hact
  simp

theorem reserve_key {db db' : Db} {dto : StartSystemRefundDTO} {id : String} {request : RefundRequest}
    (h : reserveSystemRefund db dto id = .ok (db', request)) : request.idempotencyKey = dto.idempotencyKey := by
  simp only [reserveSystemRefund, bind_eq_ok, orThrow_eq_ok] at h
  obtain ⟨key, hkey, _, -, _, -, _, -, lines, -, h⟩ := h
  obtain ⟨_, payment, -, -, hact⟩ := with_payment_lock_spec h
  simp only [bind_eq_ok] at hact
  obtain ⟨_, -, hact⟩ := hact
  split at hact
  · rename_i found hfound
    simp only [bind_eq_ok, pure_eq_ok, Prod.mk.injEq] at hact
    obtain ⟨_, -, _, -, -, rfl⟩ := hact
    rw [hkey]
    simpa using List.find?_some hfound
  · simp only [bind_eq_ok, pure_eq_ok, Prod.exists, Prod.mk.injEq] at hact
    obtain ⟨_, _, -, _, -, _, -, -, rfl⟩ := hact
    exact hkey.symm

theorem reserve_adds {db db' : Db} {dto : StartSystemRefundDTO} {id : String} {request : RefundRequest}
    (h : reserveSystemRefund db dto id = .ok (db', request)) :
    (db' = db ∨ Adds db request db') ∧ db'.refundRequests.find request.id = some request := by
  rcases reserve_system_refund_spec h with ⟨rfl, hfind⟩ | ⟨payment, hnew, -, hunused, rfl⟩
  · exact ⟨Or.inl rfl, hfind⟩
  · refine ⟨Or.inr ⟨hnew.fresh, hnew.pending, hnew.nodup, fun _ => ?_, rfl⟩, Table.find_save_self _ _⟩
    rw [reserve_key h]
    exact hunused

theorem step_spec {w w' : World} {act : WorldAct} (h : worldStep w act = some w') : Stepped w act w' := by
  cases act with
  | createRefundRequest actorId dto id =>
    simp only [worldStep, Option.ite_none_right_eq_some] at h
    obtain ⟨-, h⟩ := h
    split at h
    · rename_i db request hcreate
      exact .created request db (create_adds hcreate) (Option.some.inj h).symm
    · exact .stayed (Option.some.inj h).symm
  | startRefundMicroservice call dto id =>
    simp only [worldStep, Option.ite_none_right_eq_some] at h
    obtain ⟨-, h⟩ := h
    split at h
    · rename_i db request hreserve
      obtain ⟨hdb, hrow⟩ := reserve_adds hreserve
      refine .entered call db _ (hdb.imp_right fun hadds => ⟨request, hadds⟩) (fun job hjob => ?_) h
      split at hjob
      · simp at hjob
      · obtain rfl := Option.some.inj hjob
        exact ⟨hrow, Or.inl rfl⟩
    · exact .stayed (Option.some.inj h).symm
  | approveRefundRequest call actorId ownedIds requestId note =>
    simp only [worldStep, Option.ite_none_right_eq_some] at h
    obtain ⟨-, h⟩ := h
    split at h
    · rename_i initial text happrove
      refine .entered call w.db _ (Or.inl rfl) (fun job hjob => ?_) h
      obtain rfl := Option.some.inj hjob
      exact ⟨approve_refund_request_spec happrove, Or.inl rfl⟩
    · exact .stayed (Option.some.inj h).symm
  | rejectRefundRequest call actorId ownedIds requestId note =>
    simp only [worldStep, Option.ite_none_right_eq_some] at h
    obtain ⟨-, h⟩ := h
    split at h
    · rename_i initial text hreject
      refine .entered call w.db _ (Or.inl rfl) (fun job hjob => ?_) h
      obtain rfl := Option.some.inj hjob
      exact ⟨begin_rejection_spec hreject, Or.inr rfl⟩
    · exact .stayed (Option.some.inj h).symm
  | advance call env =>
    simp only [worldStep, Option.bind_eq_some_iff, advanceJob, Option.ite_none_right_eq_some] at h
    obtain ⟨job, hjob, htouches, h⟩ := h
    split at h
    · rename_i point hnext
      simp only [Option.ite_none_right_eq_some] at h
      exact .advanced call env job point rfl hjob htouches hnext h.1 h.2
    · exact .failed call job w (Or.inl rfl) hjob htouches h
  | fail call applied =>
    simp only [worldStep, Option.bind_eq_some_iff, failJob, Option.ite_none_right_eq_some] at h
    obtain ⟨job, hjob, htouches, h⟩ := h
    cases applied with
    | true => exact .failed call job _ (Or.inr ⟨rfl, rfl⟩) hjob htouches h
    | false => exact .failed call job w (Or.inl rfl) hjob htouches h
  | crash call => exact .crashed call h
  | tick milliseconds => exact .ticked milliseconds (Option.some.inj h).symm

end Postral.Refund.Locking
