import Postral.Cleanup.Dangling
import Postral.Lib.Run

/-! # Archives and the cleanups that name them -/

open Check Run

namespace Postral.Cleanup

/-- A call of `createArchive` after its preview, with the payments that it has counted. -/
structure Counting where
  options : PaymentCleanupOptions
  payments : List Payment
  paymentCount : ℕ

/-- History of an archive. -/
structure Archive where
  manifest : PaymentArchiveManifest
  counted : List Payment
  dump : Db

structure Archives where
  db : Db
  files : Files := {}
  now : ℤ
  counting : ℕ → Option Counting := fun _ => none
  /-- History: the ids of all payments that there have been. -/
  used : List String
  taken : List Archive := []
  /-- History: the payments that a cleanup has deleted, with the archive that it named. -/
  deleted : List (String × Payment) := []

inductive ArchiveAct where
  | tick (seconds : ℕ)
  | createPayment (id : String) (refundRequestId : Option String)
  /-- Whatever else the services write. -/
  | change (db : Db)
  | preview (call : ℕ) (options : PaymentCleanupOptions)
  /-- The dump, its checksum and the manifest. -/
  | dump (call : ℕ) (id : String)
  | fail (call : ℕ)
  | damage (path : String) (content : Option Db)
  | cleanup (request : PaymentCleanupRequest)

def Payment.stamp (payment : Payment) : String × ℤ := (payment.id, payment.createdAt)

def Archives.setCounting (s : Archives) (call : ℕ) (next : Option Counting) : Archives :=
  { s with counting := Function.update s.counting call next }

def takeDump (env : Env) (s : Archives) (call : ℕ) (id : String) (counting : Counting) : Archives :=
  let dumpPath := id ++ ".sql"
  let manifest := {
    id := id, dumpPath := dumpPath, checksum := env.checksum s.db, paymentCount := counting.paymentCount
    before := if truthy counting.options.before then counting.options.before else none }
  { s.setCounting call none with
    files := ⟨Function.update s.files.manifests id (some manifest), Function.update s.files.dumps dumpPath (some s.db)⟩
    taken := ⟨manifest, counting.payments, s.db⟩ :: s.taken }

/-- The payments of the first state that the second one has not. -/
def lostPayments (old new : Db) : List Payment :=
  old.payments.rows.filter fun payment => payment.id ∉ new.payments.rows.map Payment.id

def archiveStep (env : Env) (s : Archives) : ArchiveAct → Option Archives
  | .tick seconds => some { s with now := s.now + seconds }
  | .createPayment id refundRequestId =>
    if id ∈ s.used then none
    else some { s with
      db := { s.db with payments := s.db.payments.save ⟨id, s.now, refundRequestId⟩ }
      used := id :: s.used }
  | .change db =>
    if db.payments.rows.map Payment.stamp = s.db.payments.rows.map Payment.stamp then some { s with db := db } else none
  | .preview call options =>
    match Cleanup.preview env s.db options with
    | .ok preview => some (s.setCounting call (some ⟨options,
        s.db.payments.rows.filter (·.id ∈ preview.paymentIds), preview.paymentIds.length⟩))
    | .error _ => some s
  | .dump call id =>
    if s.files.manifests id = none then (s.counting call).map (takeDump env s call id) else none
  | .fail call => some (s.setCounting call none)
  | .damage path content =>
    some { s with files := { s.files with dumps := Function.update s.files.dumps path content } }
  | .cleanup request =>
    match Cleanup.cleanup env s.files s.db request with
    | .ok (_, db) => some { s with
        db := db
        deleted := (lostPayments s.db db).map (Prod.mk request.archiveId) ++ s.deleted }
    | .error _ => some s

/-- A cleanup comes while every payment that its archive has counted is still stored. -/
def Intact (s : Archives) : ArchiveAct → Prop
  | .cleanup request => ∀ archive ∈ s.taken, archive.manifest.id = request.archiveId →
      ∀ payment ∈ archive.counted, payment.id ∈ s.db.payments.rows.map Payment.id
  | _ => True

instance (s : Archives) (act : ArchiveAct) : Decidable (Intact s act) := by
  cases act <;> unfold Intact <;> infer_instance

/-! ## The invariant -/

/-- The payments that one count has found, and those that are stored by now. -/
structure Counted (env : Env) (s : Archives) (before : Option String) (payments : List Payment) : Prop where
  nodup : (payments.map Payment.id).Nodup
  used : ∀ p ∈ payments, p.id ∈ s.used
  past : ∀ p ∈ payments, p.createdAt ≤ s.now
  scope : ∃ date, parseBefore env before = .ok date ∧ ∀ p ∈ payments, inScope date p
  same : ∀ q ∈ s.db.payments.rows, ∀ p ∈ payments, q.id = p.id → q.createdAt = p.createdAt
  older : ∀ q ∈ s.db.payments.rows, q.id ∈ payments.map Payment.id ∨ ∀ p ∈ payments, p.createdAt ≤ q.createdAt

/-- What is still stored of the counted payments was there when the dump was taken. -/
def Dumped (s : Archives) (archive : Archive) : Prop :=
  ∀ q ∈ s.db.payments.rows, q.id ∈ archive.counted.map Payment.id → q.stamp ∈ archive.dump.payments.rows.map Payment.stamp

/-- The payment is in the dump, and in the scope of the archive. -/
def Archived (env : Env) (archive : Archive) (payment : Payment) : Prop :=
  payment.stamp ∈ archive.dump.payments.rows.map Payment.stamp ∧
    ∃ date, parseBefore env archive.manifest.before = .ok date ∧ inScope date payment

structure ArchiveInv (env : Env) (s : Archives) : Prop where
  used : ∀ p ∈ s.db.payments.rows, p.id ∈ s.used
  past : ∀ p ∈ s.db.payments.rows, p.createdAt ≤ s.now
  counting : ∀ call c, s.counting call = some c →
    Counted env s c.options.before c.payments ∧ c.paymentCount = c.payments.length
  taken : ∀ archive ∈ s.taken, Counted env s archive.manifest.before archive.counted ∧
    archive.manifest.paymentCount = archive.counted.length ∧ Dumped s archive
  manifests : ∀ id manifest, s.files.manifests id = some manifest →
    manifest.id = id ∧ ∃ archive ∈ s.taken, archive.manifest = manifest
  deleted : ∀ entry ∈ s.deleted, ∃ archive ∈ s.taken, archive.manifest.id = entry.1 ∧ Archived env archive entry.2

/-- What a step does to the payments: they stay as they are, go, or are new. -/
structure PaymentsStep (s s' : Archives) : Prop where
  used : ∀ id ∈ s.used, id ∈ s'.used
  now : s.now ≤ s'.now
  payments : ∀ q ∈ s'.db.payments.rows, q.stamp ∈ s.db.payments.rows.map Payment.stamp ∨
    q.id ∉ s.used ∧ q.id ∈ s'.used ∧ q.createdAt = s.now

section Inv

variable {env : Env} {s s' : Archives} {before : Option String} {payments : List Payment}

theorem PaymentsStep.of_payments (hpayments : s'.db.payments = s.db.payments) (hused : s'.used = s.used)
    (hnow : s'.now = s.now) : PaymentsStep s s' := by
  refine ⟨fun id hid => hused ▸ hid, hnow.ge, fun q hq => Or.inl ?_⟩
  rw [hpayments] at hq
  exact List.mem_map.mpr ⟨q, hq, rfl⟩

theorem mem_stamps {payment : Payment} {rows : List Payment} (h : payment.stamp ∈ rows.map Payment.stamp) :
    ∃ row ∈ rows, row.id = payment.id ∧ row.createdAt = payment.createdAt := by
  obtain ⟨row, hrow, hstamp⟩ := List.mem_map.mp h
  obtain ⟨hid, hcreated⟩ := Prod.mk.inj hstamp
  exact ⟨row, hrow, hid, hcreated⟩

theorem Counted.step (h : Counted env s before payments) (hstep : PaymentsStep s s') :
    Counted env s' before payments where
  nodup := h.nodup
  used p hp := hstep.used _ (h.used p hp)
  past p hp := (h.past p hp).trans hstep.now
  scope := h.scope
  same q hq p hp hid := by
    rcases hstep.payments q hq with hold | ⟨hfresh, -, -⟩
    · obtain ⟨row, hrow, hrowid, hcreated⟩ := mem_stamps hold
      rw [← hcreated]
      exact h.same row hrow p hp (hrowid.trans hid)
    · exact absurd (hid ▸ h.used p hp) hfresh
  older q hq := by
    rcases hstep.payments q hq with hold | ⟨-, -, hcreated⟩
    · obtain ⟨row, hrow, hrowid, hcreated⟩ := mem_stamps hold
      rw [← hcreated, ← hrowid]
      exact h.older row hrow
    · right
      intro p hp
      rw [hcreated]
      exact h.past p hp

theorem Dumped.step {archive : Archive} (h : Dumped s archive) (hcounted : Counted env s before archive.counted)
    (hstep : PaymentsStep s s') : Dumped s' archive := by
  intro q hq hid
  rcases hstep.payments q hq with hold | ⟨hfresh, -, -⟩
  · obtain ⟨row, hrow, hrowid, hcreated⟩ := mem_stamps hold
    have hdumped := h row hrow (hrowid ▸ hid)
    unfold Payment.stamp at hdumped ⊢
    rwa [hrowid, hcreated] at hdumped
  · obtain ⟨p, hp, hpid⟩ := List.mem_map.mp hid
    exact absurd (hpid ▸ hcounted.used p hp) hfresh

/-- The part of the invariant that a step keeps when it only touches the payments. -/
theorem ArchiveInv.step_payments (h : ArchiveInv env s) (hstep : PaymentsStep s s')
    (hcounting : s'.counting = s.counting) (htaken : s'.taken = s.taken)
    (hmanifests : s'.files.manifests = s.files.manifests)
    (hdeleted : ∀ entry ∈ s'.deleted,
      ∃ archive ∈ s.taken, archive.manifest.id = entry.1 ∧ Archived env archive entry.2) :
    ArchiveInv env s' where
  used q hq := by
    rcases hstep.payments q hq with hold | ⟨-, hused, -⟩
    · obtain ⟨row, hrow, hid, -⟩ := mem_stamps hold
      exact hid ▸ hstep.used _ (h.used row hrow)
    · exact hused
  past q hq := by
    rcases hstep.payments q hq with hold | ⟨-, -, hcreated⟩
    · obtain ⟨row, hrow, -, hcreated⟩ := mem_stamps hold
      exact hcreated ▸ (h.past row hrow).trans hstep.now
    · exact hcreated ▸ hstep.now
  counting call c hc := by
    obtain ⟨hcounted, hcount⟩ := h.counting call c (hcounting ▸ hc)
    exact ⟨hcounted.step hstep, hcount⟩
  taken archive harchive := by
    obtain ⟨hcounted, hcount, hdumped⟩ := h.taken archive (htaken ▸ harchive)
    exact ⟨hcounted.step hstep, hcount, hdumped.step hcounted hstep⟩
  manifests := by
    rw [hmanifests, htaken]
    exact h.manifests
  deleted := by
    rw [htaken]
    exact hdeleted

/-! ## A count and a cleanup -/

theorem preview_payment_ids {options : PaymentCleanupOptions} {preview : PaymentCleanupPreview} {db : Db}
    (h : Cleanup.preview env db options = .ok preview) :
    ∃ date, parseBefore env options.before = .ok date ∧
      preview.paymentIds = (db.payments.rows.filter (inScope date)).map Payment.id := by
  unfold Cleanup.preview findPaymentIds at h
  simp only [bind_eq_ok, pure_eq_ok] at h
  obtain ⟨-, -, ids, ⟨date, hdate, rfl⟩, -, -, rfl⟩ := h
  exact ⟨date, hdate, rfl⟩

theorem filter_in_scope (rows : Table Payment.id) (date : Option ℤ) :
    rows.rows.filter (·.id ∈ (rows.rows.filter (inScope date)).map Payment.id) = rows.rows.filter (inScope date) := by
  apply List.filter_congr
  intro payment hpayment
  rw [decide_eq_decide]
  constructor
  · intro hid
    obtain ⟨row, hrow, hsame⟩ := List.mem_map.mp hid
    obtain ⟨hmem, hscope⟩ := List.mem_filter.mp hrow
    obtain rfl := Table.eq_of_key hmem hpayment hsame
    simpa using hscope
  · intro hscope
    exact List.mem_map.mpr ⟨payment, List.mem_filter.mpr ⟨hpayment, by simpa using hscope⟩, rfl⟩

theorem counted_of_preview (h : ArchiveInv env s) {options : PaymentCleanupOptions} {preview : PaymentCleanupPreview}
    (hpreview : Cleanup.preview env s.db options = .ok preview) :
    Counted env s options.before (s.db.payments.rows.filter (·.id ∈ preview.paymentIds)) ∧
      preview.paymentIds.length = (s.db.payments.rows.filter (·.id ∈ preview.paymentIds)).length := by
  obtain ⟨date, hdate, hids⟩ := preview_payment_ids hpreview
  rw [hids, filter_in_scope]
  refine ⟨?_, List.length_map _⟩
  have hmem : ∀ p ∈ s.db.payments.rows.filter (inScope date), p ∈ s.db.payments.rows ∧ inScope date p := by
    simp
  constructor
  · exact s.db.payments.nodup.sublist (List.filter_sublist.map Payment.id)
  · exact fun p hp => h.used p (hmem p hp).1
  · exact fun p hp => h.past p (hmem p hp).1
  · exact ⟨date, hdate, fun p hp => (hmem p hp).2⟩
  · intro q hq p hp hid
    rw [Table.eq_of_key hq (hmem p hp).1 hid]
  · intro q hq
    by_cases hscope : inScope date q
    · exact Or.inl (List.mem_map.mpr ⟨q, List.mem_filter.mpr ⟨hq, by simpa using hscope⟩, rfl⟩)
    · -- the date is after every counted payment and not after this one
      right
      intro p hp
      unfold inScope at hscope
      push Not at hscope
      obtain ⟨d, hd, hle⟩ := hscope
      exact ((hmem p hp).2 d hd).le.trans hle

/-- As many payments are in scope as have been counted, and all of these are there: then no other is. -/
theorem in_scope_counted (h : Counted env s before payments) {date : Option ℤ}
    (hintact : ∀ p ∈ payments, p.id ∈ s.db.payments.rows.map Payment.id)
    (hcount : (s.db.payments.rows.filter (inScope date)).length = payments.length) :
    ∀ q ∈ s.db.payments.rows, inScope date q → q.id ∈ payments.map Payment.id := by
  intro q hq hscope
  by_contra hother
  have holder := (h.older q hq).resolve_left hother
  have hsub : q.id :: payments.map Payment.id ⊆ (s.db.payments.rows.filter (inScope date)).map Payment.id := by
    intro id hid
    rcases List.mem_cons.mp hid with rfl | hid
    · exact List.mem_map.mpr ⟨q, List.mem_filter.mpr ⟨hq, by simpa using hscope⟩, rfl⟩
    · obtain ⟨p, hp, rfl⟩ := List.mem_map.mp hid
      obtain ⟨row, hrow, hrowid⟩ := List.mem_map.mp (hintact p hp)
      have hrowscope : inScope date row := by
        intro d hd
        rw [h.same row hrow p hp hrowid]
        exact (holder p hp).trans_lt (hscope d hd)
      exact List.mem_map.mpr ⟨row, List.mem_filter.mpr ⟨hrow, by simpa using hrowscope⟩, hrowid⟩
  have hle := ((List.nodup_cons.mpr ⟨hother, h.nodup⟩).subperm hsub).length_le
  rw [List.length_cons, List.length_map, List.length_map, hcount] at hle
  omega

theorem ArchiveInv.cleanup (h : ArchiveInv env s) {request : PaymentCleanupRequest} (hintact : Intact s (.cleanup request))
    {preview : PaymentCleanupPreview} {db : Db} (hok : Cleanup.cleanup env s.files s.db request = .ok (preview, db)) :
    ArchiveInv env { s with
      db := db, deleted := (lostPayments s.db db).map (Prod.mk request.archiveId) ++ s.deleted } := by
  obtain ⟨manifest, hmanifest, hpreview, hcount, hdelete⟩ := cleanup_ok hok
  obtain ⟨hid, archive, harchive, rfl⟩ := h.manifests _ _ hmanifest
  obtain ⟨hcounted, htotal, hdumped⟩ := h.taken archive harchive
  obtain ⟨date, -, hids⟩ := preview_payment_ids hpreview
  have hpayments : db.payments = s.db.payments.delete (·.id ∈ preview.paymentIds) := by rw [delete_scope_spec hdelete]
  refine h.step_payments ⟨fun _ hused => hused, le_refl _, fun q hq => Or.inl ?_⟩ rfl rfl rfl fun entry hentry => ?_
  · rw [hpayments] at hq
    exact List.mem_map.mpr ⟨q, (Table.mem_delete.mp hq).1, rfl⟩
  rcases List.mem_append.mp hentry with hnew | hold
  · obtain ⟨q, hlost, rfl⟩ := List.mem_map.mp hnew
    obtain ⟨hq, hgone⟩ := List.mem_filter.mp hlost
    have hscope : inScope date q := by
      by_contra hscope
      have hkept : q.id ∉ preview.paymentIds := by
        rw [hids]
        intro hmem
        obtain ⟨row, hrow, hsame⟩ := List.mem_map.mp hmem
        obtain ⟨hrowmem, hrowscope⟩ := List.mem_filter.mp hrow
        rw [Table.eq_of_key hrowmem hq hsame] at hrowscope
        exact hscope (by simpa using hrowscope)
      apply of_decide_eq_true hgone
      rw [hpayments]
      exact List.mem_map.mpr ⟨q, Table.mem_delete.mpr ⟨hq, hkept⟩, rfl⟩
    rw [hids, List.length_map, htotal] at hcount
    have hmem := in_scope_counted hcounted (hintact archive harchive hid) hcount q hq hscope
    refine ⟨archive, harchive, hid, hdumped q hq hmem, ?_⟩
    obtain ⟨p, hp, hpid⟩ := List.mem_map.mp hmem
    obtain ⟨d, hd, hall⟩ := hcounted.scope
    refine ⟨d, hd, fun b hb => ?_⟩
    rw [hcounted.same q hq p hp hpid.symm]
    exact hall p hp b hb
  · exact h.deleted entry hold

theorem ArchiveInv.dump (h : ArchiveInv env s) {call : ℕ} {id : String} {counting : Counting}
    (hcall : s.counting call = some counting) (hfresh : s.files.manifests id = none) :
    ArchiveInv env (takeDump env s call id counting) := by
  obtain ⟨hcounted, hcount⟩ := h.counting call counting hcall
  have hsame : PaymentsStep s (takeDump env s call id counting) := .of_payments rfl rfl rfl
  refine ⟨h.used, h.past, fun c point hc => ?_, fun archive harchive => ?_, fun key manifest hmanifest => ?_,
    fun entry hentry => ?_⟩
  · by_cases heq : c = call
    · subst heq
      simp [takeDump, Archives.setCounting] at hc
    · rw [show (takeDump env s call id counting).counting c = s.counting c from Function.update_of_ne heq ..] at hc
      obtain ⟨hother, htotal⟩ := h.counting c point hc
      exact ⟨hother.step hsame, htotal⟩
  · rcases List.mem_cons.mp harchive with rfl | harchive
    · refine ⟨?_, hcount, fun q hq _ => List.mem_map.mpr ⟨q, hq, rfl⟩⟩
      -- an empty date is none
      have hbefore : parseBefore env (if truthy counting.options.before then counting.options.before else none) =
          parseBefore env counting.options.before := by
        by_cases htruthy : truthy counting.options.before = true
        · rw [if_pos htruthy]
        · rw [if_neg htruthy]
          unfold parseBefore
          rw [if_neg htruthy, if_neg (by simp [truthy])]
      obtain ⟨date, hdate, hall⟩ := hcounted.scope
      exact ⟨hcounted.nodup, hcounted.used, hcounted.past, ⟨date, hbefore.trans hdate, hall⟩, hcounted.same,
        hcounted.older⟩
    · obtain ⟨hold, htotal, hdumped⟩ := h.taken archive harchive
      exact ⟨hold.step hsame, htotal, hdumped⟩
  · by_cases heq : key = id
    · subst heq
      rw [show (takeDump env s call key counting).files.manifests key = some _ from Function.update_self ..] at hmanifest
      obtain rfl := Option.some.inj hmanifest
      exact ⟨rfl, _, List.mem_cons_self .., rfl⟩
    · rw [show (takeDump env s call id counting).files.manifests key = s.files.manifests key from
        Function.update_of_ne heq ..] at hmanifest
      obtain ⟨hkey, archive, harchive, hsame⟩ := h.manifests key manifest hmanifest
      exact ⟨hkey, archive, List.mem_cons_of_mem _ harchive, hsame⟩
  · obtain ⟨archive, harchive, harchived⟩ := h.deleted entry hentry
    exact ⟨archive, List.mem_cons_of_mem _ harchive, harchived⟩

theorem ArchiveInv.setCounting (h : ArchiveInv env s) (call : ℕ) {next : Option Counting}
    (hnext : ∀ c ∈ next, Counted env s c.options.before c.payments ∧ c.paymentCount = c.payments.length) :
    ArchiveInv env (s.setCounting call next) := by
  have hsame : PaymentsStep s (s.setCounting call next) := .of_payments rfl rfl rfl
  have hcounting : ∀ c counting, (s.setCounting call next).counting c = some counting →
      Counted env s counting.options.before counting.payments ∧ counting.paymentCount = counting.payments.length := by
    intro c counting hc
    by_cases heq : c = call
    · subst heq
      exact hnext counting (by simpa [Archives.setCounting] using hc)
    · rw [show (s.setCounting call next).counting c = s.counting c from Function.update_of_ne heq ..] at hc
      exact h.counting c counting hc
  refine ⟨h.used, h.past, fun c counting hc => ?_, fun archive harchive => ?_, h.manifests, h.deleted⟩
  · obtain ⟨hcounted, htotal⟩ := hcounting c counting hc
    exact ⟨hcounted.step hsame, htotal⟩
  · obtain ⟨hcounted, htotal, hdumped⟩ := h.taken archive harchive
    exact ⟨hcounted.step hsame, htotal, hdumped⟩

theorem ArchiveInv.step (h : ArchiveInv env s) {act : ArchiveAct} (hintact : Intact s act)
    (hstep : archiveStep env s act = some s') : ArchiveInv env s' := by
  cases act with
  | tick seconds =>
    obtain rfl := Option.some.inj hstep
    refine h.step_payments ⟨fun _ hused => hused, by simp, fun q hq => Or.inl ?_⟩ rfl rfl rfl h.deleted
    exact List.mem_map.mpr ⟨q, hq, rfl⟩
  | createPayment id refundRequestId =>
    simp only [archiveStep] at hstep
    split at hstep
    · exact nomatch hstep
    · obtain rfl := Option.some.inj hstep
      refine h.step_payments ⟨fun _ hused => List.mem_cons_of_mem _ hused, le_refl _, fun q hq => ?_⟩ rfl rfl rfl h.deleted
      rcases Table.mem_save.mp hq with rfl | ⟨hold, -⟩
      · exact Or.inr ⟨‹_›, List.mem_cons_self .., rfl⟩
      · exact Or.inl (List.mem_map.mpr ⟨q, hold, rfl⟩)
  | change db =>
    simp only [archiveStep] at hstep
    split at hstep
    · obtain rfl := Option.some.inj hstep
      refine h.step_payments ⟨fun _ hused => hused, le_refl _, fun q hq => Or.inl ?_⟩ rfl rfl rfl h.deleted
      have hstamps : db.payments.rows.map Payment.stamp = s.db.payments.rows.map Payment.stamp := ‹_›
      rw [← hstamps]
      exact List.mem_map.mpr ⟨q, hq, rfl⟩
    · exact nomatch hstep
  | preview call options =>
    simp only [archiveStep] at hstep
    split at hstep
    · obtain rfl := Option.some.inj hstep
      have hcounted := counted_of_preview h ‹_›
      exact h.setCounting call fun c hc => Option.some.inj hc ▸ hcounted
    · obtain rfl := Option.some.inj hstep
      exact h
  | dump call id =>
    simp only [archiveStep] at hstep
    split at hstep
    · obtain ⟨counting, hcall, rfl⟩ := Option.map_eq_some_iff.mp hstep
      exact h.dump hcall ‹_›
    · exact nomatch hstep
  | fail call =>
    obtain rfl := Option.some.inj hstep
    exact h.setCounting call fun c hc => nomatch hc
  | damage path content =>
    obtain rfl := Option.some.inj hstep
    exact h.step_payments (.of_payments rfl rfl rfl) rfl rfl rfl h.deleted
  | cleanup request =>
    simp only [archiveStep] at hstep
    split at hstep
    · obtain rfl := Option.some.inj hstep
      exact h.cleanup hintact ‹_›
    · obtain rfl := Option.some.inj hstep
      exact h

end Inv

/-- Payments are stored, and there is no archive. -/
def Archives.start (db : Db) (now : ℤ) : Archives :=
  { db := db, now := now, used := db.payments.rows.map Payment.id }

theorem archive_inv_start (env : Env) {db : Db} {now : ℤ} (hpast : ∀ p ∈ db.payments.rows, p.createdAt ≤ now) :
    ArchiveInv env (.start db now) where
  used p hp := List.mem_map.mpr ⟨p, hp, rfl⟩
  past := hpast
  counting _ _ hc := nomatch hc
  taken _ harchive := nomatch harchive
  manifests _ _ hmanifest := nomatch hmanifest
  deleted _ hentry := nomatch hentry

/-- While every cleanup comes before a payment that its archive has counted is deleted, a cleanup
deletes only payments that are in the dump and in the scope of its archive. -/
theorem cleanup_deletes_archived (env : Env) (db : Db) (now : ℤ) (acts : List ArchiveAct) (t : Archives)
    (hpast : ∀ p ∈ db.payments.rows, p.createdAt ≤ now)
    (hintact : Meets (archiveStep env) Intact (.start db now) acts)
    (hrun : run (archiveStep env) (.start db now) acts = some t) :
    ∀ entry ∈ t.deleted, ∃ archive ∈ t.taken, archive.manifest.id = entry.1 ∧ Archived env archive entry.2 :=
  (run_invariant_of_meets (fun _ _ _ h hok hstep => h.step hok hstep) (archive_inv_start env hpast) hintact hrun).deleted

def archiveAndCleanup : List ArchiveAct := [.preview 0 {}, .dump 0 archiveId, .cleanup requestAll]

theorem cleanup_deletes_archived_sample :
    ∃ t ∈ run (archiveStep plainEnv) (.start digestedPayment 0) archiveAndCleanup, t.deleted.length = 1 ∧
      ∀ entry ∈ t.deleted, ∃ archive ∈ t.taken, archive.manifest.id = entry.1 ∧ Archived plainEnv archive entry.2 := by
  have hrun : ∃ t ∈ run (archiveStep plainEnv) (.start digestedPayment 0) archiveAndCleanup, t.deleted.length = 1 := by
    decide +kernel
  obtain ⟨t, ht, hdeleted⟩ := hrun
  exact ⟨t, ht, hdeleted, cleanup_deletes_archived plainEnv digestedPayment 0 archiveAndCleanup t
    (by decide +kernel) (by decide +kernel) ht⟩

/-- One payment is archived and deleted, another one comes, and the archive is named again. -/
theorem cleanup_deletes_unarchived :
    ¬ ∀ (env : Env) (db : Db) (now : ℤ) (acts : List ArchiveAct) (t : Archives),
      (∀ p ∈ db.payments.rows, p.createdAt ≤ now) → run (archiveStep env) (.start db now) acts = some t →
      ∀ entry ∈ t.deleted, ∃ archive ∈ t.taken, archive.manifest.id = entry.1 ∧ Archived env archive entry.2 := by
  intro hall
  have hrun : ∃ t ∈ run (archiveStep plainEnv) (.start digestedPayment 0)
      (archiveAndCleanup ++ [.createPayment "q" none, .cleanup requestAll]),
      ∃ entry ∈ t.deleted, ∀ archive ∈ t.taken, entry.2.stamp ∉ archive.dump.payments.rows.map Payment.stamp := by
    decide +kernel
  obtain ⟨t, ht, entry, hentry, hmissing⟩ := hrun
  obtain ⟨archive, harchive, -, hstamp, -⟩ := hall plainEnv _ 0 _ t (by decide +kernel) ht entry hentry
  exact hmissing archive harchive hstamp

end Postral.Cleanup
