import Postral.Refund.Exclusion

/-!
# System refunds are idempotent

Calls with one key work on one request, however often and in whatever order they run.
-/

open Check Run

namespace Postral.Refund.Locking

/-! ## What a step does to the tables -/

inductive Tables (w w' : World) : Prop where
  | same (hdb : w'.db = w.db) (hcounted : w'.counted = w.counted)
  | adds (request : RefundRequest) (hadds : Adds w.db request w'.db) (hcounted : w'.counted = w.counted)
  | commits (call : ℕ) (job : Job) (hjob : w.jobs call = some job) (hdb : w'.db = commit w.db job)
      (hcounted : w'.counted = counts job ++ w.counted)

theorem goes_db {m w' : World} {call : ℕ} {next : Option Job} (h : m.goesTo call next = some w') :
    w'.db = m.db ∧ w'.counted = m.counted := by
  obtain ⟨-, -, rfl⟩ := goes_to_spec.mp h
  exact ⟨rfl, rfl⟩

theorem step_tables {w w' : World} {act : WorldAct} (h : worldStep w act = some w') : Tables w w' := by
  cases step_spec h with
  | stayed hworld => exact .same (by rw [hworld]) (by rw [hworld])
  | created request db hadds hworld =>
    subst hworld
    exact .adds request hadds rfl
  | entered call db next hdb hnext hgoes =>
    obtain ⟨hdb', hcounted⟩ := goes_db hgoes
    obtain rfl | ⟨request, hadds⟩ := hdb
    · exact .same hdb' hcounted
    · exact .adds request (hdb' ▸ hadds) hcounted
  | advanced call env job point hact hjob htouches hnext hdrawn hgoes =>
    exact .commits call job hjob (goes_db hgoes).1 (goes_db hgoes).2
  | failed call job before hbefore hjob htouches hgoes =>
    obtain rfl | ⟨rfl, -⟩ := hbefore
    · exact .same (goes_db hgoes).1 (goes_db hgoes).2
    · exact .commits call job hjob (goes_db hgoes).1 (goes_db hgoes).2
  | crashed call hgoes => exact .same (goes_db hgoes).1 (goes_db hgoes).2
  | ticked milliseconds hworld =>
    subst hworld
    exact .same rfl rfl

/-- A request keeps its payment, key and lines. -/
theorem Tables.find_request {w w' : World} (h : Tables w w') {id : String} {r : RefundRequest}
    (hr : w.db.refundRequests.find id = some r) : ∃ r', w'.db.refundRequests.find id = some r' ∧ Same r r' := by
  cases h with
  | same hdb hcounted => exact ⟨r, hdb ▸ hr, .refl r⟩
  | adds request hadds hcounted => exact ⟨r, hadds.find_request hr, .refl r⟩
  | commits call job hjob hdb hcounted =>
    obtain ⟨f, hfind, hf⟩ := commit_find_request w.db job id
    rw [hdb, hfind, hr]
    exact ⟨f r, rfl, (hf r).1⟩

/-- Where a stored request comes from. -/
theorem Tables.mem_request {w w' : World} (h : Tables w w') {r' : RefundRequest} (hr' : r' ∈ w'.db.refundRequests.rows) :
    (∃ r ∈ w.db.refundRequests.rows, Same r r') ∨ Adds w.db r' w'.db := by
  cases h with
  | same hdb hcounted => exact Or.inl ⟨r', hdb ▸ hr', .refl r'⟩
  | adds request hadds hcounted =>
    obtain rfl | hr := hadds.mem_requests hr'
    · exact Or.inr hadds
    · exact Or.inl ⟨r', hr, .refl r'⟩
  | commits call job hjob hdb hcounted =>
    obtain ⟨f, hfind, hf⟩ := commit_find_request w.db job r'.id
    rw [hdb] at hr'
    rw [Table.find_of_mem hr'] at hfind
    obtain ⟨r, hr, rfl⟩ := Option.map_eq_some_iff.mp hfind.symm
    exact Or.inl ⟨r, Table.mem_of_find hr, (hf r).1⟩

/-! ## Keys -/

/-- The unique index on the key. -/
def KeyOnce (db : Db) : Prop :=
  ∀ r ∈ db.refundRequests.rows, ∀ r' ∈ db.refundRequests.rows,
    r.idempotencyKey ≠ none → r.idempotencyKey = r'.idempotencyKey → r = r'

/-- The lines of a request are on different items. -/
def Lined (db : Db) : Prop := ∀ r ∈ db.refundRequests.rows, (r.items.map (·.paymentItemId)).Nodup

def lineOf (item : RefundRequestItem) : RefundLine := ⟨item.paymentItemId, item.refundCount⟩

/-- `dto` asks for what `r` is about: its payment and its lines, in any order. -/
def Asks (dto : StartSystemRefundDTO) (r : RefundRequest) : Prop :=
  dto.paymentId = some r.paymentId ∧ ∃ lines, validateItemInput dto.items = .ok lines ∧ (r.items.map lineOf).Perm lines

theorem KeyOnce.step {w w' : World} (h : KeyOnce w.db) (htables : Tables w w') : KeyOnce w'.db := by
  intro a ha b hb hkey hsame
  obtain ⟨r, hr, hra⟩ | hnew := htables.mem_request ha <;> obtain ⟨q, hq, hqb⟩ | hnew' := htables.mem_request hb
  · have hrq : r = q := by
      apply h r hr q hq
      · rwa [← hra.idempotencyKey]
      · rw [← hra.idempotencyKey, hsame, hqb.idempotencyKey]
    refine List.inj_on_of_nodup_map (Table.nodup _) ha hb ?_
    rw [hra.id, hqb.id, hrq]
  · refine absurd (hra.idempotencyKey.symm.trans hsame) (hnew'.2.2.2.1 ?_ r hr)
    rwa [← hsame]
  · exact absurd (hqb.idempotencyKey.symm.trans hsame.symm) (hnew.2.2.2.1 hkey q hq)
  · obtain rfl | hold := hnew.mem_requests hb
    · rfl
    · exact absurd (Table.find_of_mem hold) (by simp [hnew'.1])

theorem Lined.step {w w' : World} (h : Lined w.db) (htables : Tables w w') : Lined w'.db := by
  intro r' hr'
  obtain ⟨r, hr, hsame⟩ | hadds := htables.mem_request hr'
  · rw [hsame.items]
    exact h r hr
  · exact hadds.2.2.1

/-- A call with a key that is stored is about that request, or fails. -/
theorem reserve_asks {db db' : Db} {dto : StartSystemRefundDTO} {id : String} {request r : RefundRequest}
    (h : reserveSystemRefund db dto id = .ok (db', request)) (hkeys : KeyOnce db) (hlines : Lined db)
    (hr : r ∈ db.refundRequests.rows) (hkey : r.idempotencyKey = dto.idempotencyKey) :
    db' = db ∧ request = r ∧ Asks dto r := by
  simp only [reserveSystemRefund, bind_eq_ok, orThrow_eq_ok] at h
  obtain ⟨key, hdto, _, -, _, -, _, -, lines, hvalid, h⟩ := h
  obtain ⟨_, payment, hlocked, hfind, hact⟩ := with_payment_lock_spec h
  obtain rfl := Table.key_of_find hfind
  simp only [bind_eq_ok] at hact
  obtain ⟨_, -, hact⟩ := hact
  split at hact
  · rename_i found hfound
    simp only [bind_eq_ok, pure_eq_ok, require_eq_ok, Prod.mk.injEq] at hact
    obtain ⟨_, ⟨hpayment, hlength, hitems⟩, _, -, rfl, rfl⟩ := hact
    have hmem := List.mem_of_find?_eq_some hfound
    have hfoundKey : found.idempotencyKey = some key := by simpa using List.find?_some hfound
    obtain rfl : found = r := hkeys found hmem r hr (by simp [hfoundKey]) (by rw [hfoundKey, hkey, hdto])
    refine ⟨rfl, rfl, by rw [hlocked, hpayment], lines, hvalid, ?_⟩
    -- As many lines as asked for, each of them asked for, and no two alike.
    have hnodup : (found.items.map lineOf).Nodup := by
      refine List.Nodup.of_map RefundLine.paymentItemId ?_
      rw [List.map_map]
      exact hlines found hmem
    have hsubset : found.items.map lineOf ⊆ lines := by
      intro line hline
      obtain ⟨item, hitem, rfl⟩ := List.mem_map.mp hline
      exact hitems item hitem
    exact (hnodup.subperm hsubset).perm_of_length_le (by simp [hlength])
  · rename_i hunused
    rw [List.find?_eq_none] at hunused
    exact absurd (hkey.trans hdto) (by simpa using hunused r hr)

/-! ## Counts -/

/-- A call that resolves its request has seen it PENDING, and it still is. -/
theorem pending_of_resolves {db : Db} {now : ℕ} {job : Job} {status : RefundRequestStatus}
    (h : job.point.Facts db now job.initial) (hresolves : job.resolves = some status) : Pending db job.initial.id := by
  obtain ⟨initial, actorId, note, point⟩ := job
  cases point with
  | rejectCommitting request => exact h.2.2
  | approving lease point =>
    cases point with
    | finaliseCommitting counted => exact h.2.2.2.2
    | _ => simp [Job.resolves] at hresolves
  | _ => simp [Job.resolves] at hresolves

theorem counts_spec (job : Job) : counts job = [] ∨ counts job = [job.initial.id] ∧ job.resolves = some .approved ∧
    ∀ db r, db.refundRequests.find job.initial.id = some r →
      ∃ r', (commit db job).refundRequests.find job.initial.id = some r' ∧ r'.status = .approved := by
  obtain ⟨initial, actorId, note, point⟩ := job
  cases point with
  | approving lease point =>
    cases point with
    | finaliseCommitting counted =>
      refine Or.inr ⟨rfl, rfl, fun db r hr => ⟨setResolution actorId .approved note r, ?_, rfl⟩⟩
      refine (Table.find_update (f := setResolution actorId .approved note) (fun _ => rfl) _).trans ?_
      simp [hr, Table.key_of_find hr]
    | _ => exact Or.inl rfl
  | _ => exact Or.inl rfl

/-- Only a step that counts changes the items of a payment. -/
theorem commit_find_items {db : Db} {job : Job} {id : String} {row : Payment} (hcounts : counts job = [])
    (h : db.payments.find id = some row) :
    ∃ row', (commit db job).payments.find id = some row' ∧ row'.items = row.items := by
  rcases commit_find_payment job h with hkept | ⟨hwrites, rfl⟩
  · exact ⟨row, hkept, rfl⟩
  · obtain ⟨initial, actorId, note, point⟩ := job
    cases point with
    | claimCommitting lease =>
      refine ⟨setLease lease row, ?_, rfl⟩
      refine (Table.find_update (f := setLease lease) (fun _ => rfl) _).trans ?_
      simp [h, Table.key_of_find h]
    | approving lease point =>
      cases point with
      | finaliseCommitting counted => simp [counts] at hcounts
      | releasing =>
        obtain heq | ⟨payment, hfind, -, heq⟩ := release_approval_spec db initial.paymentId lease.token
        · exact ⟨row, (congrArg (fun db => db.payments.find initial.paymentId) heq).trans h, rfl⟩
        · obtain rfl : payment = row := Option.some.inj (hfind.symm.trans h)
          refine ⟨{ payment with refundApprovalToken := none, refundApprovalExpiresAt := none }, ?_, rfl⟩
          refine (congrArg (fun db => db.payments.find initial.paymentId) heq).trans ?_
          rw [Table.find_save, if_pos (Table.key_of_find h).symm]
      | _ => simp [Job.writesLease] at hwrites
    | _ => simp [Job.writesLease] at hwrites

theorem Tables.find_items {w w' : World} (h : Tables w w') (hcounted : w'.counted = w.counted) {id : String} {row : Payment}
    (hrow : w.db.payments.find id = some row) : ∃ row', w'.db.payments.find id = some row' ∧ row'.items = row.items := by
  cases h with
  | same hdb _ => exact ⟨row, hdb ▸ hrow, rfl⟩
  | adds request hadds _ => exact ⟨row, hadds.payments ▸ hrow, rfl⟩
  | commits call job hjob hdb hcommitted =>
    have hcounts : counts job = [] := by
      rw [hcounted] at hcommitted
      exact List.self_eq_append_left.mp hcommitted
    obtain ⟨row', hrow', hitems⟩ := commit_find_items hcounts hrow
    exact ⟨row', hdb ▸ hrow', hitems⟩

/-! ## Rejections -/

namespace Job

/-- A rejection that has read its request. -/
def rejecting (job : Job) : Bool :=
  match job.point with
  | .rejectSearching .. | .rejectSaving _ | .rejectCommitting _ => true
  | _ => false

end Job

theorem rejecting_of_resolves {job : Job} (h : job.resolves = some .rejected) : job.rejecting = true := by
  obtain ⟨initial, actorId, note, point⟩ := job
  cases point with
  | rejectCommitting request => rfl
  | approving lease point => cases point <;> simp [Job.resolves] at h
  | _ => simp [Job.resolves] at h

/-- The request is not a system refund. -/
def Unkeyed (db : Db) (requestId : String) : Prop :=
  ∃ r, db.refundRequests.find requestId = some r ∧ truthy r.idempotencyKey = false

theorem next_rejecting {w : World} {env : StepEnv} {job : Job} {point : Point}
    (hnext : next w env job = .ok (some point)) (hpoint : Job.rejecting { job with point := point } = true) :
    job.rejecting = true ∨ Unkeyed w.db job.initial.id := by
  have hfollows := next_follows hnext
  obtain ⟨initial, actorId, note, before⟩ := job
  cases before with
  | rejectReading =>
    simp only [next, bind_eq_ok, pure_eq_ok, Option.some.injEq, find_one_or_fail_spec, require_eq_ok] at hnext
    obtain ⟨request, hfind, _, -, _, hunkeyed, rfl⟩ := hnext
    exact Or.inr ⟨request, hfind, by simpa using hunkeyed⟩
  | rejectSearching request paid => exact Or.inl rfl
  | rejectSaving request => exact Or.inl rfl
  | _ =>
    exfalso
    grind [Follows, Job.rejecting]

/-- Where the job of a call comes from. -/
theorem step_job {w w' : World} {act : WorldAct} (h : worldStep w act = some w') {call : ℕ} {job' : Job}
    (hjob' : w'.jobs call = some job') (hrejecting : job'.rejecting = true) :
    w.jobs call = some job' ∨ ∃ job env, w.jobs call = some job ∧ job'.initial = job.initial ∧
      next w env job = .ok (some job'.point) := by
  cases step_spec h with
  | stayed hworld => exact Or.inl (hworld ▸ hjob')
  | created request db hadds hworld =>
    subst hworld
    exact Or.inl hjob'
  | entered other db started hdb hstarted hgoes =>
    obtain ⟨-, hnew⟩ | ⟨-, hold⟩ := jobs_of_goes hgoes hjob'
    · obtain hpoint | hpoint := (hstarted job' hnew).2 <;> simp [Job.rejecting, hpoint] at hrejecting
    · exact Or.inl hold
  | advanced other env job point hact hjob htouches hnext hdrawn hgoes =>
    obtain ⟨rfl, hnew⟩ | ⟨-, hold⟩ := jobs_of_goes hgoes hjob'
    · obtain ⟨point, rfl, rfl⟩ : ∃ p, point = some p ∧ { job with point := p } = job' := by simpa using hnew
      exact Or.inr ⟨job, env, hjob, rfl, hnext⟩
    · exact Or.inl hold
  | failed other job before hbefore hjob htouches hgoes =>
    obtain ⟨-, hnew⟩ | ⟨-, hold⟩ := jobs_of_goes hgoes hjob'
    · obtain ⟨point, hpoint, rfl⟩ : ∃ p, thrown job.point = some p ∧ { job with point := p } = job' := by
        simpa using hnew
      obtain ⟨lease, rfl⟩ := thrown_spec hpoint
      simp [Job.rejecting] at hrejecting
    · refine Or.inl ?_
      obtain rfl | ⟨rfl, -⟩ := hbefore
      · exact hold
      · exact hold
  | crashed other hgoes =>
    obtain ⟨-, hnew⟩ | ⟨-, hold⟩ := jobs_of_goes hgoes hjob'
    · simp at hnew
    · exact Or.inl hold
  | ticked milliseconds hworld =>
    subst hworld
    exact Or.inl hjob'

/-! ## Every run -/

/-- System refunds are not REJECTED. -/
def KeptKeyed (db : Db) : Prop :=
  ∀ r ∈ db.refundRequests.rows, truthy r.idempotencyKey = true → r.status ≠ .rejected

structure CommandInv (w : World) : Prop where
  inv : WorldInv w
  keys : KeyOnce w.db
  lines : Lined w.db
  counted : w.counted.Nodup
  approved : ∀ id ∈ w.counted, ∃ r, w.db.refundRequests.find id = some r ∧ r.status = .approved
  unkeyed : ∀ call job, w.jobs call = some job → job.rejecting = true → Unkeyed w.db job.initial.id
  kept : KeptKeyed w.db

theorem Tables.unkeyed {w w' : World} (h : Tables w w') {id : String} (hunkeyed : Unkeyed w.db id) : Unkeyed w'.db id := by
  obtain ⟨r, hr, hkey⟩ := hunkeyed
  obtain ⟨r', hr', hsame⟩ := h.find_request hr
  exact ⟨r', hr', by rwa [hsame.idempotencyKey]⟩

/-- A resolved request keeps its status. -/
theorem CommandInv.keeps_approved {w w' : World} (h : CommandInv w) (htables : Tables w w') {id : String}
    {r : RefundRequest} (hr : w.db.refundRequests.find id = some r) (hstatus : r.status = .approved) :
    ∃ r', w'.db.refundRequests.find id = some r' ∧ r'.status = .approved := by
  cases htables with
  | same hdb hcounted => exact ⟨r, hdb ▸ hr, hstatus⟩
  | adds request hadds hcounted => exact ⟨r, hadds.find_request hr, hstatus⟩
  | commits call job hjob hdb hcounted =>
    obtain ⟨f, hfind, hf⟩ := commit_find_request w.db job id
    rw [hdb, hfind, hr]
    refine ⟨f r, rfl, ?_⟩
    obtain hsame | ⟨hid, hresolves⟩ := (hf r).2
    · exact hsame.trans hstatus
    · obtain ⟨stored, hstored, hpending⟩ := pending_of_resolves (h.inv.facts call job hjob) hresolves
      rw [Table.key_of_find hr] at hid
      subst hid
      obtain rfl : r = stored := Option.some.inj (hr.symm.trans hstored)
      rw [hstatus] at hpending
      simp at hpending

theorem CommandInv.keeps_counted {w w' : World} (h : CommandInv w) (htables : Tables w w') :
    w'.counted.Nodup ∧ ∀ id ∈ w'.counted, ∃ r, w'.db.refundRequests.find id = some r ∧ r.status = .approved := by
  have hold (id : String) (hid : id ∈ w.counted) :
      ∃ r, w'.db.refundRequests.find id = some r ∧ r.status = .approved := by
    obtain ⟨r, hr, hstatus⟩ := h.approved id hid
    exact h.keeps_approved htables hr hstatus
  have hsame (hcounted : w'.counted = w.counted) : w'.counted.Nodup ∧
      ∀ id ∈ w'.counted, ∃ r, w'.db.refundRequests.find id = some r ∧ r.status = .approved := by
    rw [hcounted]
    exact ⟨h.counted, hold⟩
  cases htables with
  | same hdb hcounted => exact hsame hcounted
  | adds request hadds hcounted => exact hsame hcounted
  | commits call job hjob hdb hcounted =>
    obtain hnone | ⟨hone, hresolves, hcommit⟩ := counts_spec job
    · exact hsame (by rw [hcounted, hnone, List.nil_append])
    obtain ⟨stored, hstored, hpending⟩ := pending_of_resolves (h.inv.facts call job hjob) hresolves
    have hnew : job.initial.id ∉ w.counted := by
      intro hmem
      obtain ⟨r, hr, hstatus⟩ := h.approved job.initial.id hmem
      obtain rfl : r = stored := Option.some.inj (hr.symm.trans hstored)
      simp [hstatus] at hpending
    rw [hcounted, hone]
    refine ⟨List.nodup_cons.mpr ⟨hnew, h.counted⟩, fun id hid => ?_⟩
    obtain rfl | hid := List.mem_cons.mp hid
    · rw [hdb]
      exact hcommit w.db stored hstored
    · exact hold id hid

theorem CommandInv.keeps_keyed {w w' : World} (h : CommandInv w) (htables : Tables w w') : KeptKeyed w'.db := by
  cases htables with
  | same hdb hcounted => exact hdb ▸ h.kept
  | adds request hadds hcounted =>
    intro r hr hkey
    obtain rfl | hr := hadds.mem_requests hr
    · simp [hadds.2.1]
    · exact h.kept r hr hkey
  | commits call job hjob hdb hcounted =>
    intro r' hr' hkey hrejected
    obtain ⟨f, hfind, hf⟩ := commit_find_request w.db job r'.id
    rw [hdb] at hr'
    rw [Table.find_of_mem hr'] at hfind
    obtain ⟨r, hr, rfl⟩ := Option.map_eq_some_iff.mp hfind.symm
    rw [(hf r).1.idempotencyKey] at hkey
    obtain hsame | ⟨hid, hresolves⟩ := (hf r).2
    · exact h.kept r (Table.mem_of_find hr) hkey (hsame.symm.trans hrejected)
    · have hrejecting : job.rejecting = true := rejecting_of_resolves (hresolves.trans (congrArg some hrejected))
      obtain ⟨stored, hstored, hunkeyed⟩ := h.unkeyed call job hjob hrejecting
      rw [(hf r).1.id, hid] at hr
      obtain rfl : r = stored := Option.some.inj (hr.symm.trans hstored)
      simp [hkey] at hunkeyed

theorem command_inv_step (w : World) (act : WorldAct) (w' : World) (h : CommandInv w) (hstep : worldStep w act = some w') :
    CommandInv w' := by
  have htables := step_tables hstep
  obtain ⟨hcounted, happroved⟩ := h.keeps_counted htables
  refine ⟨world_inv_step w act w' h.inv hstep, h.keys.step htables, h.lines.step htables, hcounted, happroved, ?_,
    h.keeps_keyed htables⟩
  intro call job' hjob' hrejecting
  refine htables.unkeyed ?_
  obtain hjob | ⟨job, env, hjob, hinitial, hnext⟩ := step_job hstep hjob' hrejecting
  · exact h.unkeyed call job' hjob hrejecting
  · rw [hinitial]
    obtain hbefore | hread := next_rejecting hnext hrejecting
    · exact h.unkeyed call job hjob hbefore
    · exact hread

/-- **System refunds are idempotent.** In every run: a key has one request, the request one refund payment, its counts are
added once at most, and it is never REJECTED. A call that asks for something else under a stored key changes nothing. -/
theorem system_refund_idempotent (db : Db) (now : ℕ) (honce : PaidOnce db) (hkeys : KeyOnce db) (hlines : Lined db)
    (hkept : KeptKeyed db) (acts : List WorldAct) (w : World) (hrun : run worldStep (World.idle db now) acts = some w) :
    KeyOnce w.db ∧ PaidOnce w.db ∧ KeptKeyed w.db ∧ w.counted.Nodup ∧
      (∀ act w', worldStep w act = some w' → w'.counted = w.counted → ∀ id row, w.db.payments.find id = some row →
        ∃ row', w'.db.payments.find id = some row' ∧ row'.items = row.items) ∧
      ∀ call dto id w', worldStep w (.startRefundMicroservice call dto id) = some w' →
        ∀ r ∈ w.db.refundRequests.rows, r.idempotencyKey = dto.idempotencyKey → ¬ Asks dto r → w' = w := by
  have hidle : CommandInv (World.idle db now) :=
    ⟨world_inv_idle honce now, hkeys, hlines, List.nodup_nil, by simp [World.idle], by simp [World.idle], hkept⟩
  have h := run_invariant command_inv_step hidle hrun
  refine ⟨h.keys, h.inv.once, h.kept, h.counted, ?_, ?_⟩
  · intro act w' hstep hcounted id row hrow
    exact (step_tables hstep).find_items hcounted hrow
  · intro call dto id w' hstep r hr hkey hasks
    simp only [worldStep, Option.ite_none_right_eq_some] at hstep
    obtain ⟨-, hstep⟩ := hstep
    split at hstep
    · rename_i db' request hreserve
      exact absurd (reserve_asks hreserve h.keys h.lines hr hkey).2.2 hasks
    · exact (Option.some.inj hstep).symm

/-! ### One run -/

def purchaseDb : Db := { sampleDb with refundRequests := Table.empty }

/-- Two calls with one key. The second one meets the lease of the first. -/
def twiceActs : List WorldAct :=
  [.startRefundMicroservice 0 sampleRefund "request", .startRefundMicroservice 1 sampleRefund "request of its own"] ++
    List.replicate 16 approveOnce ++ List.replicate 2 rejectOnce

theorem system_refund_idempotent_sample : ∃ w, run worldStep (World.idle purchaseDb 0) twiceActs = some w ∧
    (summary w, w.counted) = (([.approved], [none, some "request"]), ["request"]) ∧ KeyOnce w.db ∧ PaidOnce w.db := by
  have hsummary : (run worldStep (World.idle purchaseDb 0) twiceActs).map (fun w => (summary w, w.counted)) =
      some (([.approved], [none, some "request"]), ["request"]) := by decide +kernel
  obtain ⟨w, hw, hrows⟩ := Option.map_eq_some_iff.mp hsummary
  have honce : PaidOnce purchaseDb := by simp [PaidOnce, purchaseDb, sampleDb, samplePayment]
  have hempty {p : RefundRequest → Prop} : ∀ r ∈ purchaseDb.refundRequests.rows, p r := by simp [purchaseDb, Table.empty]
  obtain ⟨hkeys, hpaid, -⟩ := system_refund_idempotent purchaseDb 0 honce hempty hempty hempty twiceActs w hw
  exact ⟨w, hw, hrows, hkeys, hpaid⟩

end Postral.Refund.Locking
