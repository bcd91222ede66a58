import Postral.Refund.Locked
import Postral.Refund.Quantity

/-!
# One refund payment for a request, and none for a rejected one

The row locks alone keep the refund payments of a request apart. The exclusion of a rejection rests on the lease of the
approval.
-/

open Check Run

namespace Postral.Refund.Locking

/-! ## One payment for a request -/

structure WorldInv (w : World) : Prop where
  payments : w.paymentLocks.Held fun call => (w.jobs call).bind Job.payment
  requests : w.requestLocks.Held fun call => (w.jobs call).bind Job.request
  known : ∀ call job, w.jobs call = some job → Known w.db job.initial
  facts : ∀ call job, w.jobs call = some job → job.point.Facts w.db w.now job.initial
  drawn : ∀ call job, w.jobs call = some job → ∀ lease ∈ job.lease, lease.token ∈ w.tokens
  apart : ∀ call job other job', w.jobs call = some job → w.jobs other = some job' → call ≠ other →
    ∀ lease ∈ job.lease, ∀ lease' ∈ job'.lease, lease.token ≠ lease'.token
  once : PaidOnce w.db

/-- What a call that commits a refund payment knows. -/
theorem stores_spec {db : Db} {now : ℕ} {job : Job} {p : Payment} (h : job.point.Facts db now job.initial)
    (hstores : job.stores = some p) :
    p.refundRequestId = some job.initial.id ∧ job.request = some job.initial.id ∧ Pending db job.initial.id ∧
      ¬ Paid db job.initial.id ∧ ∃ lease ∈ job.lease, lease.token ≠ "" ∧ Leased db now job.initial.paymentId lease := by
  obtain ⟨initial, actorId, note, point⟩ := job
  unfold Job.stores at hstores
  split at hstores
  · rename_i lease payment plan hpoint
    obtain rfl := Option.some.inj hstores
    dsimp only at hpoint
    subst hpoint
    obtain ⟨hid, htoken, hlease, hrequest, hpending, hunpaid⟩ := h
    exact ⟨hrequest, congrArg some hid, hpending, hunpaid, lease, rfl, htoken, hlease (by simp)⟩
  · simp at hstores

theorem token_ne_empty {db : Db} {now : ℕ} {job : Job} {lease : Lease} (h : job.point.Facts db now job.initial)
    (hlease : lease ∈ job.lease) : lease.token ≠ "" := by
  obtain ⟨initial, actorId, note, point⟩ := job
  cases point with
  | claimCommitting lease' =>
    obtain rfl : lease' = lease := by simpa [Job.lease] using hlease
    exact h.2.2
  | approving lease' point =>
    obtain rfl : lease' = lease := by simpa [Job.lease] using hlease
    exact h.2.1
  | _ => simp [Job.lease] at hlease

/-- A call that resolves its request holds both locks. -/
theorem locks_of_resolves {job : Job} {status : RefundRequestStatus} (h : job.resolves = some status) :
    job.request = some job.initial.id ∧ job.payment = some job.initial.paymentId := by
  obtain ⟨initial, actorId, note, point⟩ := job
  cases point with
  | rejectCommitting request => exact ⟨rfl, rfl⟩
  | approving lease point => cases point <;> first | exact ⟨rfl, rfl⟩ | simp [Job.resolves] at h
  | _ => simp [Job.resolves] at h

theorem payment_of_writes_lease {job : Job} (h : job.writesLease = true) :
    job.payment = some job.initial.paymentId ∨ job.touches = some job.initial.paymentId := by
  obtain ⟨initial, actorId, note, point⟩ := job
  cases point with
  | claimCommitting lease => exact Or.inl rfl
  | approving lease point =>
    cases point with
    | finaliseCommitting counted => exact Or.inl rfl
    | releasing => exact Or.inr rfl
    | _ => simp [Job.writesLease] at h
  | _ => simp [Job.writesLease] at h

theorem Known.commit {db : Db} {initial : RefundRequest} (h : Known db initial) (job : Job) :
    Known (commit db job) initial := by
  obtain ⟨r, hr, hpaymentId⟩ := h
  obtain ⟨f, hfind, hf⟩ := commit_find_request db job initial.id
  exact ⟨f r, by rw [hfind, hr, Option.map_some], (hf r).1.paymentId.trans hpaymentId⟩

/-- Requests with one id are on one payment. -/
theorem Known.same {db : Db} {a b : RefundRequest} (ha : Known db a) (hb : Known db b) (hid : a.id = b.id) :
    a.paymentId = b.paymentId := by
  obtain ⟨r, hr, hpaymentId⟩ := ha
  obtain ⟨r', hr', hpaymentId'⟩ := hb
  obtain rfl : r = r' := Option.some.inj ((hid ▸ hr).symm.trans hr')
  exact hpaymentId.symm.trans hpaymentId'

/-- A commit takes a lease that has not expired off the payment only where the token is its own. -/
theorem Leased.commit {db : Db} {now : ℕ} {job : Job} {paymentId : String} {lease : Lease}
    (h : Leased db now paymentId lease) (hfacts : job.point.Facts db now job.initial) (htoken : lease.token ≠ "")
    (hapart : ∀ lease' ∈ job.lease, lease.token ≠ lease'.token) : Leased (commit db job) now paymentId lease := by
  by_cases hlive : lease.expiresAt ≤ now
  · exact Or.inl hlive
  obtain hexpired | ⟨row, hrow, htoken', hexpires⟩ := h
  · exact Or.inl hexpired
  refine Or.inr ⟨row, ?_, htoken', hexpires⟩
  have hleased : Leased db now paymentId lease := Or.inr ⟨row, hrow, htoken', hexpires⟩
  obtain hkept | ⟨hwrites, rfl⟩ := commit_find_payment job hrow
  · exact hkept
  obtain ⟨initial, actorId, note, point⟩ := job
  cases point with
  | claimCommitting lease' => exact absurd hfacts.1 (hleased.in_progress htoken (by omega))
  | approving lease' point =>
    cases point with
    | finaliseCommitting counted =>
      obtain ⟨-, -, -, ⟨row', hrow', htoken''⟩, -⟩ := hfacts
      obtain rfl : row = row' := Option.some.inj (hrow.symm.trans hrow')
      exact absurd (Option.some.inj (htoken'.symm.trans htoken'')) (hapart lease' rfl)
    | releasing =>
      refine (release_find hrow).resolve_right ?_
      rintro ⟨-, htoken''⟩
      exact absurd (Option.some.inj (htoken'.symm.trans htoken'')) (hapart lease' rfl)
    | _ => simp [Job.writesLease] at hwrites
  | _ => simp [Job.writesLease] at hwrites

/-- The other calls keep what they know, by the locks that they hold. -/
theorem WorldInv.other_facts {w : World} (h : WorldInv w) {call other : ℕ} {job job' : Job}
    (hjob : w.jobs call = some job) (htouches : w.paymentLocks.Grants call job.touches)
    (hother : w.jobs other = some job') (hne : call ≠ other) :
    job'.point.Facts (commit w.db job) w.now job'.initial := by
  have hfacts := h.facts call job hjob
  have hrequests (hlocked : job'.request = some job'.initial.id) (hsame : job'.initial.id = job.initial.id) :
      job.request ≠ some job.initial.id := by
    intro hmine
    refine hne (h.requests.exclusive (k := job.initial.id) ?_ ?_)
    · simp [hjob, hmine]
    · simp [hother, hlocked, hsame]
  refine (h.facts other job' hother).imp le_rfl ?_ ?_ ?_ ?_
  · intro hlocked row hrow
    refine (commit_find_payment _ hrow).resolve_right ?_
    rintro ⟨hwrites, hsame⟩
    have hheld := h.payments other job'.initial.paymentId (by simp [hother, hlocked])
    rcases payment_of_writes_lease hwrites with hmine | hmine
    · refine hne (h.payments.exclusive (k := job.initial.paymentId) ?_ ?_)
      · simp [hjob, hmine]
      · simp [hother, hlocked, hsame]
    · rcases htouches job.initial.paymentId (by simp [hmine]) with hfree | hown
      · simp [← hsame, hheld] at hfree
      · rw [← hsame, hheld] at hown
        exact hne (Option.some.inj hown).symm
  · rintro hlocked ⟨r, hr, hpending⟩
    obtain ⟨f, hfind, hf⟩ := commit_find_request w.db job job'.initial.id
    refine ⟨f r, by rw [hfind, hr, Option.map_some], ?_⟩
    obtain hsame | ⟨hid, hresolves⟩ := (hf r).2
    · exact hsame.trans hpending
    -- The request is resolved by the other call, which has the lock too.
    have hinitial : job'.initial.id = job.initial.id := (Table.key_of_find hr).symm.trans hid
    obtain ⟨hrequest, hpayment⟩ := locks_of_resolves hresolves
    obtain hlocked | hlocked := hlocked
    · exact absurd hrequest (hrequests hlocked hinitial)
    · have hpaymentId := (h.known call job hjob).same (h.known other job' hother) hinitial.symm
      refine absurd (h.payments.exclusive (k := job.initial.paymentId) ?_ ?_) hne
      · simp [hjob, hpayment]
      · simp [hother, hlocked, hpaymentId]
  · intro hlocked hpaid
    obtain hpaid | ⟨p, hstores, hid⟩ := hpaid.commit
    · exact hpaid
    · obtain ⟨hid', hmine, -⟩ := stores_spec hfacts hstores
      exact absurd hmine (hrequests hlocked (Option.some.inj (hid.symm.trans hid')))
  · intro lease hlease hleased
    refine hleased.commit hfacts (token_ne_empty (h.facts other job' hother) hlease) fun lease' hlease' => ?_
    exact h.apart other job' call job hother hjob hne.symm lease hlease lease' hlease'

theorem jobs_of_goes {w w' : World} {call other : ℕ} {next : Option Job} {job : Job} (hgoes : w.goesTo call next = some w')
    (hjob : w'.jobs other = some job) : (other = call ∧ job ∈ next) ∨ (call ≠ other ∧ w.jobs other = some job) := by
  obtain ⟨-, -, rfl⟩ := goes_to_spec.mp hgoes
  unfold World.moveTo at hjob
  by_cases hsame : other = call
  · subst hsame
    exact Or.inl ⟨rfl, by simpa using hjob⟩
  · exact Or.inr ⟨fun heq => hsame heq.symm, by simpa [hsame] using hjob⟩

/-- The two differ in the tables, and in what was drawn and counted. -/
structure Alike (w m : World) : Prop where
  jobs : m.jobs = w.jobs
  now : m.now = w.now
  paymentLocks : m.paymentLocks = w.paymentLocks
  requestLocks : m.requestLocks = w.requestLocks
  tokens : w.tokens ⊆ m.tokens

theorem Alike.refl (w : World) : Alike w w := ⟨rfl, rfl, rfl, rfl, List.Subset.refl _⟩

/-- A call moves on, and the tables with it. -/
theorem WorldInv.goes {w m w' : World} (h : WorldInv w) {call : ℕ} {next : Option Job} (hgoes : m.goesTo call next = some w')
    (halike : Alike w m)
    (hother : ∀ other job, w.jobs other = some job → call ≠ other →
      Known m.db job.initial ∧ job.point.Facts m.db w.now job.initial)
    (hnext : ∀ job ∈ next, Known m.db job.initial ∧ job.point.Facts m.db w.now job.initial ∧
      ∀ lease ∈ job.lease, lease.token ∈ m.tokens ∧ ∀ other job', w.jobs other = some job' → call ≠ other →
        ∀ lease' ∈ job'.lease, lease.token ≠ lease'.token)
    (honce : PaidOnce m.db) : WorldInv w' := by
  obtain ⟨db, now, jobs, paymentLocks, requestLocks, tokens, counted⟩ := m
  obtain ⟨rfl, rfl, rfl, rfl, htokens⟩ := halike
  have hjobs {other : ℕ} {job : Job} (hjob : w'.jobs other = some job) := jobs_of_goes hgoes hjob
  obtain ⟨hpayment, hrequest, rfl⟩ := goes_to_spec.mp hgoes
  have hheld {κ : Type} (f : Job → Option κ) : (fun c => (Function.update w.jobs call next c).bind f) =
      Function.update (fun c => (w.jobs c).bind f) call (next.bind f) := by
    funext c
    by_cases hsame : c = call
    · subst hsame
      simp
    · simp [hsame]
  refine ⟨?_, ?_, ?_, ?_, ?_, ?_, honce⟩
  · exact hheld Job.payment ▸ h.payments.move hpayment
  · exact hheld Job.request ▸ h.requests.move hrequest
  · intro other job hjob
    obtain ⟨-, hnew⟩ | ⟨hne, hold⟩ := hjobs hjob
    · exact (hnext job hnew).1
    · exact (hother other job hold hne).1
  · intro other job hjob
    obtain ⟨-, hnew⟩ | ⟨hne, hold⟩ := hjobs hjob
    · exact (hnext job hnew).2.1
    · exact (hother other job hold hne).2
  · intro other job hjob lease hlease
    obtain ⟨-, hnew⟩ | ⟨hne, hold⟩ := hjobs hjob
    · exact ((hnext job hnew).2.2 lease hlease).1
    · exact htokens (h.drawn other job hold lease hlease)
  · intro c job d job' hjob hjob' hcd lease hlease lease' hlease'
    obtain ⟨hc, hnew⟩ | ⟨hne, hold⟩ := hjobs hjob <;> obtain ⟨hd, hnew'⟩ | ⟨hne', hold'⟩ := hjobs hjob'
    · exact absurd (hc.trans hd.symm) hcd
    · exact ((hnext job hnew).2.2 lease hlease).2 d job' hold' hne' lease' hlease'
    · exact (((hnext job' hnew').2.2 lease' hlease').2 c job hold hne lease hlease).symm
    · exact h.apart c job d job' hold hold' hcd lease hlease lease' hlease'

theorem thrown_spec {before after : Point} (h : thrown before = some after) :
    ∃ lease, after = .approving lease .releasing := by
  unfold thrown at h
  split at h
  · simp at h
  · exact ⟨_, (Option.some.inj h).symm⟩
  · simp at h

/-- A call that throws knows no more than before. -/
theorem thrown_facts {db : Db} {now : ℕ} {job : Job} {point : Point} (h : job.point.Facts db now job.initial)
    (hthrown : thrown job.point = some point) (db' : Db) :
    point.Facts db' now job.initial ∧ Job.lease { job with point := point } = job.lease := by
  obtain ⟨initial, actorId, note, before⟩ := job
  cases before with
  | approving lease before =>
    obtain ⟨hid, htoken, -, -⟩ := h
    obtain rfl : Point.approving lease .releasing = point := by cases before <;> simp_all [thrown]
    exact ⟨⟨hid, htoken, fun hne => absurd rfl hne, trivial⟩, rfl⟩
  | _ => simp [thrown] at hthrown

/-- The lease of a call is the one that it has, or a new one. -/
theorem next_lease {w : World} {env : StepEnv} {job : Job} {point : Point} (hnext : next w env job = .ok (some point))
    {lease : Lease} (hlease : lease ∈ Job.lease { job with point := point }) :
    lease ∈ job.lease ∨ lease.token ∈ drawn (some point) := by
  have hfollows := next_follows hnext
  obtain ⟨initial, actorId, note, before⟩ := job
  cases before with
  | claimChecking payment request =>
    obtain ⟨lease', -, rfl⟩ := hfollows
    obtain rfl : lease' = lease := Option.some.inj hlease
    exact Or.inr rfl
  | claimCommitting lease' =>
    obtain rfl : point = .approving lease' .loading := hfollows
    exact Or.inl hlease
  | approving lease' before =>
    obtain ⟨point, rfl⟩ := hfollows
    exact Or.inl hlease
  | _ =>
    exfalso
    grind [Follows, Job.lease]

theorem WorldInv.once_commit {w : World} (h : WorldInv w) {call : ℕ} {job : Job} (hjob : w.jobs call = some job) :
    PaidOnce (commit w.db job) := by
  refine h.once.commit fun p id hstores hid => ?_
  obtain ⟨hid', -, -, hunpaid, -⟩ := stores_spec (h.facts call job hjob) hstores
  obtain rfl := Option.some.inj (hid.symm.trans hid')
  exact hunpaid

theorem world_inv_step (w : World) (act : WorldAct) (w' : World) (h : WorldInv w) (hstep : worldStep w act = some w') :
    WorldInv w' := by
  have hsame (other : ℕ) (job : Job) (hjob : w.jobs other = some job) :
      Known w.db job.initial ∧ job.point.Facts w.db w.now job.initial :=
    ⟨h.known other job hjob, h.facts other job hjob⟩
  cases step_spec hstep with
  | stayed hworld => exact hworld ▸ h
  | created request db hadds hworld =>
    subst hworld
    refine { h with known := fun call job hjob => ?_, facts := fun call job hjob => ?_, once := ?_ }
    · exact hadds.known (h.known call job hjob)
    · exact hadds.facts (h.facts call job hjob)
    · exact hadds.once h.once
  | entered call db next hdb hnext hgoes =>
    refine h.goes hgoes ⟨rfl, rfl, rfl, rfl, List.Subset.refl _⟩ (fun other job hjob _ => ?_) ?_ ?_
    · obtain rfl | ⟨request, hadds⟩ := hdb
      · exact hsame other job hjob
      · exact ⟨hadds.known (h.known other job hjob), hadds.facts (h.facts other job hjob)⟩
    · intro job hjob
      obtain ⟨hrow, hpoint⟩ := hnext job hjob
      obtain ⟨initial, actorId, note, point⟩ := job
      obtain rfl | rfl := hpoint <;> exact ⟨⟨initial, hrow, rfl⟩, trivial, by simp [Job.lease]⟩
    · obtain rfl | ⟨request, hadds⟩ := hdb
      · exact h.once
      · exact hadds.once h.once
  | advanced call env job point hact hjob htouches hnext hdrawn hgoes =>
    refine h.goes hgoes ⟨rfl, rfl, rfl, rfl, fun token htoken => by simp [htoken]⟩ ?_ ?_ ?_
    · intro other job' hother hne
      exact ⟨(h.known other job' hother).commit job, h.other_facts hjob htouches hother hne⟩
    · intro job' hjob'
      obtain ⟨point, hpoint, rfl⟩ : ∃ p, point = some p ∧ { job with point := p } = job' := by simpa using hjob'
      subst hpoint
      refine ⟨(h.known call job hjob).commit job, next_facts (h.facts call job hjob) hnext fun t ht => (hdrawn t ht).1, ?_⟩
      intro lease hlease
      obtain hold | hnew := next_lease hnext hlease
      · refine ⟨by simp [h.drawn call job hjob lease hold], fun other job' hother hne => ?_⟩
        exact h.apart call job other job' hjob hother hne lease hold
      · refine ⟨by simp [Option.mem_def.mp hnew], fun other job' hother hne lease' hlease' heq => ?_⟩
        exact (hdrawn _ hnew).2 (heq ▸ h.drawn other job' hother lease' hlease')
    · exact h.once_commit hjob
  | failed call job before hbefore hjob htouches hgoes =>
    have halike : Alike w before := by
      obtain rfl | ⟨rfl, -⟩ := hbefore
      · exact .refl before
      · exact ⟨rfl, rfl, rfl, rfl, List.Subset.refl _⟩
    refine h.goes hgoes halike ?_ ?_ ?_
    · intro other job' hother hne
      obtain rfl | ⟨rfl, -⟩ := hbefore
      · exact hsame other job' hother
      · exact ⟨(h.known other job' hother).commit job, h.other_facts hjob htouches hother hne⟩
    · intro job' hjob'
      obtain ⟨point, hpoint, rfl⟩ : ∃ p, thrown job.point = some p ∧ { job with point := p } = job' := by
        simpa using hjob'
      obtain ⟨hfacts, hlease⟩ := thrown_facts (h.facts call job hjob) hpoint before.db
      refine ⟨?_, hfacts, fun lease hmem => ?_⟩
      · obtain rfl | ⟨rfl, -⟩ := hbefore
        · exact h.known call job hjob
        · exact (h.known call job hjob).commit job
      · rw [hlease] at hmem
        refine ⟨halike.tokens (h.drawn call job hjob lease hmem), fun other job' hother hne => ?_⟩
        exact h.apart call job other job' hjob hother hne lease hmem
    · obtain rfl | ⟨rfl, -⟩ := hbefore
      · exact h.once
      · exact h.once_commit hjob
  | crashed call hgoes =>
    exact h.goes hgoes (.refl w) (fun other job hjob _ => hsame other job hjob) (by simp) h.once
  | ticked milliseconds hworld =>
    subst hworld
    refine { h with facts := fun call job hjob => ?_ }
    refine (h.facts call job hjob).imp (Nat.le_add_right _ _) (fun _ row hrow => hrow) (fun _ hpending => hpending)
      (fun _ hpaid => hpaid) fun lease _ hleased => ?_
    exact hleased.imp_left fun hexpired => hexpired.trans (Nat.le_add_right _ _)

/-! ## No payment for a rejected request -/

/-- The call whose transaction a step may commit. -/
def committing : WorldAct → Option ℕ
  | .advance call _ | .fail call true => some call
  | _ => none

/-- An approval that stores a refund payment does so before its lease expires. -/
def Timely (w : World) (act : WorldAct) : Prop :=
  ∀ call ∈ committing act, ∀ job ∈ w.jobs call, job.stores.isSome = true → ∀ lease ∈ job.lease, w.now < lease.expiresAt

instance (w : World) (act : WorldAct) : Decidable (Timely w act) := by
  unfold Timely
  infer_instance

structure Excluded (w : World) : Prop where
  inv : WorldInv w
  refused : ∀ call job, w.jobs call = some job → job.refusing = true → ¬ Paid w.db job.initial.id
  none : NoneRejected w.db

/-- A call that refuses has found no payment. -/
theorem next_refusing {w : World} {env : StepEnv} {job : Job} {point : Point}
    (hrefused : job.refusing = true → ¬ Paid w.db job.initial.id) (hfacts : job.point.Facts w.db w.now job.initial)
    (hnext : next w env job = .ok (some point)) (hpoint : Job.refusing { job with point := point } = true) :
    commit w.db job = w.db ∧ ¬ Paid w.db job.initial.id := by
  have hfollows := next_follows hnext
  obtain ⟨initial, actorId, note, before⟩ := job
  cases before with
  | rejectReading =>
    simp only [next, bind_eq_ok, pure_eq_ok, Option.some.injEq, find_one_or_fail_spec] at hnext
    obtain ⟨request, hfind, _, -, _, -, rfl⟩ := hnext
    refine ⟨rfl, ?_⟩
    simpa [Job.refusing, hasPayment, Paid, Table.key_of_find hfind] using hpoint
  | rejectSearching request paid =>
    simp only [next, bind_eq_ok, pure_eq_ok, Option.some.injEq, require_eq_ok] at hnext
    obtain ⟨_, hunpaid, _, -, _, -, rfl⟩ := hnext
    refine ⟨rfl, ?_⟩
    split at hunpaid
    · exact hrefused (by simpa [Job.refusing] using hunpaid)
    · simpa [hasPayment, Paid, hfacts.2.1] using hunpaid
  | rejectSaving request => exact ⟨rfl, hrefused rfl⟩
  | _ =>
    exfalso
    grind [Follows, Job.refusing]

theorem quiet_of_refusing {db : Db} {now : ℕ} {job : Job} (h : job.point.Facts db now job.initial)
    (hrefusing : job.refusing = true) : Quiet db now job.initial.paymentId := by
  obtain ⟨initial, actorId, note, point⟩ := job
  cases point with
  | rejectSearching request paid => exact h.1
  | rejectSaving request => exact h.1
  | rejectCommitting request => exact h.1
  | _ => simp [Job.refusing] at hrefusing

theorem refusing_of_resolves {job : Job} (h : job.resolves = some .rejected) :
    job.refusing = true ∧ job.stores = none := by
  obtain ⟨initial, actorId, note, point⟩ := job
  cases point with
  | rejectCommitting request => exact ⟨rfl, rfl⟩
  | approving lease point => cases point <;> simp [Job.resolves] at h
  | _ => simp [Job.resolves] at h

/-- While a call refuses, no approval in time stores a payment for the request. -/
theorem Excluded.unpaid_commit {w : World} (h : Excluded w) {call other : ℕ} {job job' : Job}
    (hjob : w.jobs call = some job) (hother : w.jobs other = some job') (hrefusing : job'.refusing = true)
    (htimely : job.stores.isSome = true → ∀ lease ∈ job.lease, w.now < lease.expiresAt) :
    ¬ Paid (commit w.db job) job'.initial.id := by
  intro hpaid
  obtain hpaid | ⟨p, hstores, hid⟩ := hpaid.commit
  · exact h.refused other job' hother hrefusing hpaid
  · obtain ⟨hid', -, -, -, lease, hlease, htoken, hleased⟩ := stores_spec (h.inv.facts call job hjob) hstores
    have hsame : job.initial.paymentId = job'.initial.paymentId :=
      (h.inv.known call job hjob).same (h.inv.known other job' hother) (Option.some.inj (hid'.symm.trans hid))
    have hquiet := quiet_of_refusing (h.inv.facts other job' hother) hrefusing
    exact hleased.in_progress htoken (htimely (by simp [hstores]) lease hlease) (hsame ▸ hquiet)

theorem Excluded.none_commit {w : World} (h : Excluded w) {call : ℕ} {job : Job} (hjob : w.jobs call = some job) :
    NoneRejected (commit w.db job) := by
  intro r' hr' hrejected hpaid
  obtain ⟨f, hfind, hf⟩ := commit_find_request w.db job r'.id
  rw [Table.find_of_mem hr'] at hfind
  obtain ⟨r, hr, rfl⟩ := Option.map_eq_some_iff.mp hfind.symm
  have hid : (f r).id = r.id := (hf r).1.id
  have hold (hstatus : r.status = .rejected) : ¬ Paid w.db r.id := h.none r (Table.mem_of_find hr) hstatus
  rw [hid] at hpaid
  obtain hsame | ⟨hinitial, hresolves⟩ := (hf r).2
  · obtain hpaid | ⟨p, hstores, hpid⟩ := hpaid.commit
    · exact hold (hsame.symm.trans hrejected) hpaid
    · obtain ⟨hpid', -, ⟨stored, hstored, hpending⟩, -⟩ := stores_spec (h.inv.facts call job hjob) hstores
      have hreq : r.id = job.initial.id := Option.some.inj (hpid.symm.trans hpid')
      rw [hid, hreq] at hr
      obtain rfl : r = stored := Option.some.inj (hr.symm.trans hstored)
      rw [hsame, hpending] at hrejected
      simp at hrejected
  · obtain ⟨hrefusing, hstores⟩ := refusing_of_resolves (hresolves.trans (congrArg some hrejected))
    obtain hpaid | ⟨p, hstores', -⟩ := hpaid.commit
    · exact h.refused call job hjob hrefusing (hinitial ▸ hpaid)
    · simp [hstores] at hstores'

theorem Excluded.goes {w m w' : World} {call : ℕ} {next : Option Job} (hgoes : m.goesTo call next = some w')
    (halike : Alike w m) (hinv : WorldInv w')
    (hother : ∀ other job, w.jobs other = some job → job.refusing = true → ¬ Paid m.db job.initial.id)
    (hnext : ∀ job ∈ next, job.refusing = true → ¬ Paid m.db job.initial.id) (hnone : NoneRejected m.db) :
    Excluded w' := by
  have hworld : w'.db = m.db := by
    obtain ⟨-, -, rfl⟩ := goes_to_spec.mp hgoes
    rfl
  refine ⟨hinv, ?_, ?_⟩ <;> rw [hworld]
  · intro other job' hjob' hrefusing
    obtain ⟨-, hnew⟩ | ⟨-, hold⟩ := jobs_of_goes hgoes hjob'
    · exact hnext job' hnew hrefusing
    · exact hother other job' (halike.jobs ▸ hold) hrefusing
  · exact hnone

theorem Adds.unpaid {db db' : Db} {request : RefundRequest} (h : Adds db request db') {id : String} (hunpaid : ¬ Paid db id) :
    ¬ Paid db' id := by
  unfold Paid at *
  rwa [h.payments]

theorem Adds.none_rejected {db db' : Db} {request : RefundRequest} (h : Adds db request db') (hnone : NoneRejected db) :
    NoneRejected db' := by
  intro r hr hrejected
  obtain rfl | hr := h.mem_requests hr
  · simp [h.2.1] at hrejected
  · exact h.unpaid (hnone r hr hrejected)

theorem excluded_step (w : World) (act : WorldAct) (w' : World) (h : Excluded w) (hok : Timely w act)
    (hstep : worldStep w act = some w') : Excluded w' := by
  have hinv := world_inv_step w act w' h.inv hstep
  cases step_spec hstep with
  | stayed hworld => exact hworld ▸ h
  | created request db hadds hworld =>
    subst hworld
    exact ⟨hinv, fun call job hjob hrefusing => hadds.unpaid (h.refused call job hjob hrefusing),
      hadds.none_rejected h.none⟩
  | entered call db next hdb hnext hgoes =>
    refine Excluded.goes hgoes ⟨rfl, rfl, rfl, rfl, List.Subset.refl _⟩ hinv (fun other job hjob hrefusing => ?_) ?_ ?_
    · obtain rfl | ⟨request, hadds⟩ := hdb
      · exact h.refused other job hjob hrefusing
      · exact hadds.unpaid (h.refused other job hjob hrefusing)
    · intro job hjob hrefusing
      obtain hpoint | hpoint := (hnext job hjob).2 <;> simp [Job.refusing, hpoint] at hrefusing
    · obtain rfl | ⟨request, hadds⟩ := hdb
      · exact h.none
      · exact hadds.none_rejected h.none
  | advanced call env job point hact hjob htouches hnext hdrawn hgoes =>
    subst hact
    have htimely := hok call rfl job hjob
    refine Excluded.goes hgoes ⟨rfl, rfl, rfl, rfl, fun token htoken => by simp [htoken]⟩ hinv ?_ ?_ (h.none_commit hjob)
    · exact fun other job' hother hrefusing => h.unpaid_commit hjob hother hrefusing htimely
    · intro job' hjob' hrefusing
      obtain ⟨point, hpoint, rfl⟩ : ∃ p, point = some p ∧ { job with point := p } = job' := by simpa using hjob'
      subst hpoint
      obtain ⟨hsame, hunpaid⟩ :=
        next_refusing (h.refused call job hjob) (h.inv.facts call job hjob) hnext hrefusing
      change ¬ Paid (commit w.db job) job.initial.id
      rwa [hsame]
  | failed call job before hbefore hjob htouches hgoes =>
    have hnext (job' : Job) (hjob' : job' ∈ (thrown job.point).map fun point => { job with point := point }) :
        job'.refusing = false := by
      obtain ⟨point, hpoint, rfl⟩ : ∃ p, thrown job.point = some p ∧ { job with point := p } = job' := by
        simpa using hjob'
      obtain ⟨lease, rfl⟩ := thrown_spec hpoint
      rfl
    have hnone (job' : Job) (hjob' : job' ∈ (thrown job.point).map fun point => { job with point := point })
        (hrefusing : job'.refusing = true) : ¬ Paid before.db job'.initial.id := by simp [hnext job' hjob'] at hrefusing
    obtain rfl | ⟨rfl, rfl⟩ := hbefore
    · exact Excluded.goes hgoes (.refl before) hinv h.refused hnone h.none
    · have htimely := hok call rfl job hjob
      refine Excluded.goes hgoes ⟨rfl, rfl, rfl, rfl, List.Subset.refl _⟩ hinv ?_ hnone (h.none_commit hjob)
      exact fun other job' hother hrefusing => h.unpaid_commit hjob hother hrefusing htimely
  | crashed call hgoes => exact Excluded.goes hgoes (.refl w) hinv h.refused (by simp) h.none
  | ticked milliseconds hworld =>
    subst hworld
    exact ⟨hinv, h.refused, h.none⟩

theorem world_inv_idle {db : Db} (h : PaidOnce db) (now : ℕ) : WorldInv (World.idle db now) where
  payments := Locks.held_none
  requests := Locks.held_none
  known _ _ hjob := by simp [World.idle] at hjob
  facts _ _ hjob := by simp [World.idle] at hjob
  drawn _ _ hjob := by simp [World.idle] at hjob
  apart _ _ _ _ hjob := by simp [World.idle] at hjob
  once := h

/-- **A request is paid back once.** In every run of approvals and rejections no request gets a second refund payment. If
every refund payment is stored before the lease of its approval expires, no request with a payment becomes REJECTED. -/
theorem refund_paid_once (db : Db) (now : ℕ) (honce : PaidOnce db) (hnone : NoneRejected db) (acts : List WorldAct)
    (w : World) (hrun : run worldStep (World.idle db now) acts = some w) :
    PaidOnce w.db ∧ (Meets worldStep Timely (World.idle db now) acts → NoneRejected w.db) := by
  have hidle := world_inv_idle honce now
  refine ⟨(run_invariant world_inv_step hidle hrun).once, fun hok => ?_⟩
  have hstart : Excluded (World.idle db now) := ⟨hidle, fun _ _ hjob => by simp [World.idle] at hjob, hnone⟩
  exact (run_invariant_of_meets excluded_step hstart hok hrun).none

/-! ### Two runs -/

def sampleRequest : RefundRequest where
  id := "request"
  paymentId := "payment"
  status := .pending
  items := [refundItemOf sampleItem 10000 []]
  requestedByAccountId := "customer"
  requestedByPaymentAccountId := some "customer"
  requestedToPaymentAccountId := some "seller"
  currency := "TRY"
  reasonKeys := []
  requestNote := none

def sampleDb : Db where
  payments := ⟨[samplePayment], List.nodup_singleton _⟩
  refundRequests := ⟨[sampleRequest], List.nodup_singleton _⟩

def owned : Option (List String) := some ["seller"]

def approveOnce : WorldAct := .advance 0 { sampleEnv with }

def rejectOnce : WorldAct := .advance 1 {}

/-- Both calls start, and the rejection meets the lease of the approval. -/
def sampleActs : List WorldAct :=
  [.approveRefundRequest 0 "seller" owned "request" none, .rejectRefundRequest 1 "seller" owned "request" none] ++ List.replicate 4 approveOnce ++
    List.replicate 2 rejectOnce ++ List.replicate 12 approveOnce

/-- The lease expires before the refund payment is committed. -/
def lateActs : List WorldAct :=
  [.approveRefundRequest 0 "seller" owned "request" none, .rejectRefundRequest 1 "seller" owned "request" none] ++ List.replicate 9 approveOnce ++
    [.tick approvalLease] ++ List.replicate 4 rejectOnce ++ [approveOnce] ++ List.replicate 2 rejectOnce

/-- The requests' statuses, and the request that each payment is for. -/
def summary (w : World) : List RefundRequestStatus × List (Option String) :=
  (w.db.refundRequests.rows.map (·.status), w.db.payments.rows.map (·.refundRequestId))

theorem refund_paid_once_sample : ∃ w, run worldStep (World.idle sampleDb 0) sampleActs = some w ∧
    summary w = ([.approved], [none, some "request"]) ∧ PaidOnce w.db ∧ NoneRejected w.db := by
  have hsummary : (run worldStep (World.idle sampleDb 0) sampleActs).map summary =
      some ([.approved], [none, some "request"]) := by decide +kernel
  obtain ⟨w, hw, hrows⟩ := Option.map_eq_some_iff.mp hsummary
  have honce : PaidOnce sampleDb := by simp [PaidOnce, sampleDb, samplePayment]
  have hnone : NoneRejected sampleDb := by simp [NoneRejected, sampleDb, sampleRequest]
  obtain ⟨hpaid, hrejected⟩ := refund_paid_once sampleDb 0 honce hnone sampleActs w hw
  have htimely : Meets worldStep Timely (World.idle sampleDb 0) sampleActs := by decide +kernel
  exact ⟨w, hw, hrows, hpaid, hrejected htimely⟩

/-- A refund is paid and its request REJECTED when the lease runs out. -/
example : (run worldStep (World.idle sampleDb 0) lateActs).map summary = some ([.rejected], [none, some "request"]) := by
  decide +kernel

end Postral.Refund.Locking
