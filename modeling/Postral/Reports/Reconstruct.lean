import Postral.Reports.Delivery

/-!
# Reconstruction of a report beside the handling of digestion events

A reconstruction archives a report, opens a new one and copies the relations. A handler resolves the
report first and inserts its relation later.
-/

open Check Run Session

namespace Postral.Reports

/-! ## `findOrCreateByQuery` in steps -/

/-- What `findOrCreateByQuery` looks for. -/
structure Bucket where
  query : ReportQuery
  periodLabel : String
  currency : String
  deriving DecidableEq

inductive FindPoint where
  | finding
  | creating
  /-- In the catch block. -/
  | refetching
  deriving DecidableEq

inductive FindResult where
  | next (point : FindPoint)
  | found (reportId : String)
  | thrown
  deriving DecidableEq

def Bucket.current (b : Bucket) (db : Db) : Option (Report ℤ) := currentReport db b.query.id b.periodLabel b.currency

/-- `id` is the key that the database generates. -/
def findStep (db : Db) (b : Bucket) (id : String) : FindPoint → Db × FindResult
  | .finding =>
    match b.current db with
    | some report => (db, .found report.id)
    | none => (db, if b.query.ownerAccountId = none then .thrown else .next .creating)
  | .creating =>
    let reportNew := newReport id b.query b.periodLabel b.currency
    if db.reports.rows.any reportNew.conflicts then (db, .next .refetching)
    else ({ db with reports := db.reports.save reportNew }, .found id)
  | .refetching =>
    match b.current db with
    | some report => (db, .found report.id)
    | none => (db, .thrown)

/-! ## Handlers and the reconstruction -/

/-- The payment of a digestion event. -/
structure Event where
  paymentId : String
  currency : String
  /-- `buildPeriodLabel` of the payment's date. -/
  periodLabel : DateGrouping → String

def Event.bucket (event : Event) (query : ReportQuery) : Bucket :=
  ⟨query, event.periodLabel query.dateGrouping, event.currency⟩

inductive Handler where
  | idle
  | resolving (event : Event) (point : FindPoint) (query : ReportQuery) (rest : List ReportQuery)
  | inserting (event : Event) (reportId : String) (query : ReportQuery) (rest : List ReportQuery)

/-- The loop before its next query. -/
def Handler.loop (event : Event) : List ReportQuery → Handler
  | [] => .idle
  | query :: rest => .resolving event .finding query rest

inductive Reconstruction where
  | idle
  | archiving (oldReport : Report ℤ) (query : ReportQuery)
  | resolving (bucket : Bucket) (point : FindPoint)
  | reading (brandNewReportId : String)
  | copying (brandNewReportId : String) (rest : List ReportPaymentRelation)
  | finished
  deriving DecidableEq

structure Rebuild where
  db : Db
  handlers : ℕ → Handler
  reconstruction : Reconstruction
  /-- History: the events that were delivered, with their matching queries. -/
  deliveries : List (Event × List ReportQuery)

inductive RebuildAct where
  /-- A handler starts, and has found its matching queries. -/
  | deliver (handler : ℕ) (event : Event) (queries : List ReportQuery)
  | advance (handler : ℕ) (id : String)
  | reportReconstruct
  | advanceReconstruct (id now : String)
  /-- Digestions and the rest of the system. -/
  | edit (db : Db)

namespace Rebuild

def setDb (s : Rebuild) (db : Db) : Rebuild := { s with db := db }

def setHandler (s : Rebuild) (i : ℕ) (next : Handler) : Rebuild :=
  { s with handlers := Function.update s.handlers i next }

def setReconstruction (s : Rebuild) (next : Reconstruction) : Rebuild := { s with reconstruction := next }

end Rebuild

def advanceHandler (s : Rebuild) (i : ℕ) (id : String) : Option Rebuild :=
  match s.handlers i with
  | .idle => none
  | .resolving event point query rest =>
    let result := findStep s.db (event.bucket query) id point
    some ((s.setDb result.1).setHandler i (match result.2 with
      | .next point => .resolving event point query rest
      | .found reportId => .inserting event reportId query rest
      | .thrown => .idle))
  | .inserting event reportId query rest =>
    match outcome (insertPaymentToReportDigestionSingle reportId event.paymentId query.ownerAccountId) s.db with
    | some db => some ((s.setDb db).setHandler i (.loop event rest))
    | none => some (s.setHandler i .idle)

/-- The checks of `reportReconstruct`. -/
def loadForReconstruction (db : Db) (reportId : String) : Option (Report ℤ × ReportQuery) := do
  let oldReport ← db.reports.find reportId
  let query ← db.queries.find oldReport.queryId
  if query.ownerAccountId = none ∨ oldReport.archived then none else some (oldReport, query)

def archivedReport (oldReport : Report ℤ) (now : String) : Report ℤ :=
  { oldReport with periodLabel := oldReport.periodLabel ++ "_OLD_" ++ now, archived := true }

/-- The unique constraint on query, type, label and currency. -/
def sameLabel (r r' : Report ℤ) : Bool :=
  r.id ≠ r'.id ∧ r.queryId = r'.queryId ∧ r.reportType = r'.reportType ∧ r.periodLabel = r'.periodLabel ∧
    r.currency = r'.currency

def advanceReconstruction (oldId : String) (s : Rebuild) (id now : String) : Option Rebuild :=
  match s.reconstruction with
  | .idle | .finished => none
  | .archiving oldReport query =>
    let archived := archivedReport oldReport now
    if s.db.reports.rows.any (sameLabel archived) then some (s.setReconstruction .finished)
    else some ((s.setDb { s.db with reports := s.db.reports.save archived }).setReconstruction
      (.resolving ⟨query, oldReport.periodLabel, oldReport.currency⟩ .finding))
  | .resolving bucket point =>
    let result := findStep s.db bucket id point
    some ((s.setDb result.1).setReconstruction (match result.2 with
      | .next point => .resolving bucket point
      -- the rows of `includeOlderNotIncludedPayments` lack the account, so their insert throws and is caught
      | .found reportId => .reading reportId
      | .thrown => .finished))
  | .reading brandNewReportId =>
    some (s.setReconstruction (.copying brandNewReportId (s.db.relations.rows.filter fun r => r.reportId = oldId)))
  | .copying _ [] => some (s.setReconstruction .finished)
  | .copying brandNewReportId (relation :: rest) =>
    match outcome (insertPaymentToReportDigestionSingle brandNewReportId relation.paymentId relation.accountId) s.db with
    | some db => some ((s.setDb db).setReconstruction (.copying brandNewReportId rest))
    | none => some (s.setReconstruction .finished)

/-- The columns of a report that a digestion leaves alone. -/
def Report.bucketKey (r : Report ℤ) : String × String × String × String × Bool × ReportType :=
  (r.id, r.queryId, r.periodLabel, r.currency, r.archived, r.reportType)

/-- Totals, rows and states of relations may change, and queries may come. -/
def SameBuckets (db db' : Db) : Prop :=
  db'.reports.rows.map Report.bucketKey = db.reports.rows.map Report.bucketKey ∧
  db'.relations.rows.map (fun r => (r.key, r.accountId)) = db.relations.rows.map (fun r => (r.key, r.accountId)) ∧
  ∀ query ∈ db.queries.rows, query ∈ db'.queries.rows

instance (db db' : Db) : Decidable (SameBuckets db db') := by
  unfold SameBuckets
  exact @instDecidableAnd _ _ inferInstance (@instDecidableAnd _ _ inferInstance inferInstance)

def rebuildStep (oldId : String) (s : Rebuild) : RebuildAct → Option Rebuild
  | .deliver i event queries =>
    match s.handlers i with
    | .idle =>
      if ∀ query ∈ queries, query ∈ s.db.queries.rows then
        some { s.setHandler i (.loop event queries) with deliveries := (event, queries) :: s.deliveries }
      else none
    | _ => none
  | .advance i id => if (s.db.reports.find id).isSome then none else advanceHandler s i id
  | .reportReconstruct =>
    if s.reconstruction = .idle then
      match loadForReconstruction s.db oldId with
      | some (oldReport, query) => some (s.setReconstruction (.archiving oldReport query))
      | none => some (s.setReconstruction .finished)
    else none
  | .advanceReconstruct id now => if (s.db.reports.find id).isSome then none else advanceReconstruction oldId s id now
  | .edit db => if SameBuckets s.db db then some (s.setDb db) else none

/-! ## The bucket of the report -/

def InBucket (old r : Report ℤ) : Prop :=
  r.queryId = old.queryId ∧ r.periodLabel = old.periodLabel ∧ r.currency = old.currency

instance (old r : Report ℤ) : Decidable (InBucket old r) := by
  unfold InBucket
  infer_instance

/-- The bucket is the one of `old`. -/
def Bucket.Is (b : Bucket) (old : Report ℤ) : Prop :=
  b.query.id = old.queryId ∧ b.periodLabel = old.periodLabel ∧ b.currency = old.currency

instance (b : Bucket) (old : Report ℤ) : Decidable (b.Is old) := by
  unfold Bucket.Is
  infer_instance

def Related (db : Db) (reportId paymentId : String) : Prop := (db.relations.find (reportId, paymentId)).isSome = true

instance (db : Db) (reportId paymentId : String) : Decidable (Related db reportId paymentId) := by
  unfold Related
  infer_instance

/-- The report that is not archived, of the query, period and currency of `old`, has the payment. -/
def Covered (old : Report ℤ) (db : Db) (paymentId : String) : Prop :=
  ∃ report ∈ currentReport db old.queryId old.periodLabel old.currency, Related db report.id paymentId

instance (old : Report ℤ) (db : Db) (paymentId : String) : Decidable (Covered old db paymentId) := by
  unfold Covered
  infer_instance

/-- A report of the bucket. -/
def HasReport (old : Report ℤ) (db : Db) (reportId : String) : Prop :=
  ∃ r ∈ db.reports.rows, r.id = reportId ∧ InBucket old r

/-- `old` is stored under another label. -/
def IsArchived (old : Report ℤ) (db : Db) : Prop := ∃ r ∈ db.reports.rows, r.id = old.id ∧ ¬ InBucket old r

/-- At most one report is in the bucket, and it is not archived. One that came later has the type of the query. -/
structure BucketOk (old : Report ℤ) (db : Db) : Prop where
  single : ∀ r ∈ db.reports.rows, ∀ r' ∈ db.reports.rows, InBucket old r → InBucket old r' → r.id = r'.id
  opened : ∀ r ∈ db.reports.rows, InBucket old r → r.archived = false
  typed : ∀ r ∈ db.reports.rows, InBucket old r → r.id ≠ old.id →
    ∃ query ∈ db.queries.rows, query.id = old.queryId ∧ r.reportType = query.reportType
  accounts : ∀ r ∈ db.relations.rows, r.accountId ≠ none

section Bucket

variable {old : Report ℤ} {db db' : Db} {b : Bucket} {id : String}

theorem report_eq_of_id {r r' : Report ℤ} (h : r ∈ db.reports.rows) (h' : r' ∈ db.reports.rows) (hid : r.id = r'.id) :
    r = r' := List.inj_on_of_nodup_map db.reports.nodup h h' hid

theorem current_spec (hb : BucketOk old db) {r : Report ℤ} :
    currentReport db old.queryId old.periodLabel old.currency = some r ↔ r ∈ db.reports.rows ∧ InBucket old r := by
  constructor
  · intro h
    obtain ⟨hmem, hquery, hlabel, hcurrency, -⟩ := currentReport_some h
    exact ⟨hmem, hquery, hlabel, hcurrency⟩
  · rintro ⟨hr, hbucket⟩
    cases hfind : currentReport db old.queryId old.periodLabel old.currency with
    | none =>
      have hnot := List.find?_eq_none.mp hfind r hr
      exact absurd (decide_eq_true ⟨hbucket.1, hbucket.2.1, hbucket.2.2, hb.opened r hr hbucket⟩) hnot
    | some r' =>
      obtain ⟨hr', hquery, hlabel, hcurrency, -⟩ := currentReport_some hfind
      rw [report_eq_of_id hr' hr (hb.single r' hr' r hr ⟨hquery, hlabel, hcurrency⟩ hbucket)]

theorem covered_iff (hb : BucketOk old db) {paymentId : String} :
    Covered old db paymentId ↔ ∃ reportId, HasReport old db reportId ∧ Related db reportId paymentId := by
  constructor
  · rintro ⟨r, hr, hrelated⟩
    obtain ⟨hmem, hbucket⟩ := (current_spec hb).mp hr
    exact ⟨r.id, ⟨r, hmem, rfl, hbucket⟩, hrelated⟩
  · rintro ⟨_, ⟨r, hmem, rfl, hbucket⟩, hrelated⟩
    exact ⟨r, (current_spec hb).mpr ⟨hmem, hbucket⟩, hrelated⟩

theorem current_of_is (hb : b.Is old) (db : Db) :
    b.current db = currentReport db old.queryId old.periodLabel old.currency := by
  obtain ⟨hquery, hlabel, hcurrency⟩ := hb
  rw [Bucket.current, hquery, hlabel, hcurrency]

/-- `db'` has the reports, relations and queries of `db`. -/
structure Grows (db db' : Db) : Prop where
  reports : ∀ r ∈ db.reports.rows, ∃ r' ∈ db'.reports.rows, r'.bucketKey = r.bucketKey
  relations : ∀ reportId paymentId, Related db reportId paymentId → Related db' reportId paymentId
  queries : ∀ query ∈ db.queries.rows, query ∈ db'.queries.rows

theorem Grows.refl (db : Db) : Grows db db := ⟨fun r hr => ⟨r, hr, rfl⟩, fun _ _ h => h, fun _ h => h⟩

theorem bucketKey_iff (old : Report ℤ) {r r' : Report ℤ} (h : r'.bucketKey = r.bucketKey) :
    r'.id = r.id ∧ r'.archived = r.archived ∧ r'.reportType = r.reportType ∧ (InBucket old r' ↔ InBucket old r) := by
  simp only [Report.bucketKey, Prod.mk.injEq] at h
  obtain ⟨hid, hquery, hlabel, hcurrency, harchived, htype⟩ := h
  exact ⟨hid, harchived, htype, by rw [InBucket, InBucket, hquery, hlabel, hcurrency]⟩

theorem HasReport.grow (h : HasReport old db id) (hgrows : Grows db db') : HasReport old db' id := by
  obtain ⟨r, hr, rfl, hbucket⟩ := h
  obtain ⟨r', hr', hkey⟩ := hgrows.reports r hr
  obtain ⟨hid, -, -, hiff⟩ := bucketKey_iff old hkey
  exact ⟨r', hr', hid, hiff.mpr hbucket⟩

theorem IsArchived.grow (h : IsArchived old db) (hgrows : Grows db db') : IsArchived old db' := by
  obtain ⟨r, hr, hid, hbucket⟩ := h
  obtain ⟨r', hr', hkey⟩ := hgrows.reports r hr
  obtain ⟨hid', -, -, hiff⟩ := bucketKey_iff old hkey
  exact ⟨r', hr', hid'.trans hid, fun h => hbucket (hiff.mp h)⟩

theorem not_has_report_of_archived (h : IsArchived old db) : ¬ HasReport old db old.id := by
  rintro ⟨r, hr, hid, hbucket⟩
  obtain ⟨r', hr', hid', hnot⟩ := h
  exact hnot (report_eq_of_id hr' hr (hid'.trans hid.symm) ▸ hbucket)

/-! ## `findOrCreateByQuery` -/

def Bucket.new (b : Bucket) (id : String) : Report ℤ := newReport id b.query b.periodLabel b.currency

theorem in_bucket_new : InBucket old (b.new id) ↔ b.Is old := Iff.rfl

theorem mem_created (hid : db.reports.find id = none) {r : Report ℤ} :
    r ∈ (db.reports.save (b.new id)).rows ↔ r = b.new id ∨ r ∈ db.reports.rows := by
  rw [Table.mem_save]
  constructor
  · rintro (h | ⟨h, -⟩)
    · exact Or.inl h
    · exact Or.inr h
  · rintro (h | h)
    · exact Or.inl h
    · exact Or.inr ⟨h, Table.find_eq_none_iff.mp hid r h⟩

theorem grows_created (hid : db.reports.find id = none) :
    Grows db { db with reports := db.reports.save (b.new id) } :=
  ⟨fun r hr => ⟨r, (mem_created hid).mpr (Or.inr hr), rfl⟩, fun _ _ h => h, fun _ h => h⟩

/-- Two reports of the bucket would break the unique constraint. -/
theorem bucket_ok_created (hb : BucketOk old db) (hquery : b.query ∈ db.queries.rows)
    (hid : db.reports.find id = none) (harchived : b.Is old → IsArchived old db)
    (hfree : db.reports.rows.any (b.new id).conflicts = false) :
    BucketOk old { db with reports := db.reports.save (b.new id) } := by
  have halone : b.Is old → ∀ r ∈ db.reports.rows, ¬ InBucket old r := by
    intro his r hr hbucket
    have hne : r.id ≠ old.id := by
      intro heq
      exact not_has_report_of_archived (harchived his) ⟨r, hr, heq, hbucket⟩
    obtain ⟨query, hmem, hqueryId, htype⟩ := hb.typed r hr hbucket hne
    have hsame : query = b.query :=
      List.inj_on_of_nodup_map db.queries.nodup hmem hquery (hqueryId.trans his.1.symm)
    have hconflict : (b.new id).conflicts r = true := by
      obtain ⟨hquery', hlabel, hcurrency⟩ := his
      exact decide_eq_true (Or.inr ⟨hquery'.trans hbucket.1.symm, (htype.trans (by rw [hsame]; rfl)).symm,
        hlabel.trans hbucket.2.1.symm, hcurrency.trans hbucket.2.2.symm⟩)
    exact absurd hconflict (List.any_eq_false.mp hfree r hr)
  refine ⟨?_, ?_, ?_, hb.accounts⟩
  · intro r hr r' hr' hbucket hbucket'
    rcases (mem_created hid).mp hr with rfl | hr
    · rcases (mem_created hid).mp hr' with rfl | hr'
      · rfl
      · exact absurd hbucket' (halone (in_bucket_new.mp hbucket) r' hr')
    · rcases (mem_created hid).mp hr' with rfl | hr'
      · exact absurd hbucket (halone (in_bucket_new.mp hbucket') r hr)
      · exact hb.single r hr r' hr' hbucket hbucket'
  · intro r hr hbucket
    rcases (mem_created hid).mp hr with rfl | hr
    · rfl
    · exact hb.opened r hr hbucket
  · intro r hr hbucket hne
    rcases (mem_created hid).mp hr with rfl | hr
    · exact ⟨b.query, hquery, (in_bucket_new.mp hbucket).1, rfl⟩
    · exact hb.typed r hr hbucket hne

/-- What a step of `findOrCreateByQuery` for the bucket says. -/
def Resolved (old : Report ℤ) (db : Db) (b : Bucket) (point : FindPoint) : FindResult → Prop
  | .found reportId => HasReport old db reportId
  | .next .creating => IsArchived old db
  | .next .refetching => IsArchived old db ∧ ∃ reportId, HasReport old db reportId
  | .next .finding => False
  | .thrown => (point = .finding ∧ b.query.ownerAccountId = none) ∨
      (point = .refetching ∧ ∀ reportId, ¬ HasReport old db reportId)

theorem has_report_of_current (hb : BucketOk old db) (his : b.Is old) {r : Report ℤ} (h : b.current db = some r) :
    HasReport old db r.id := by
  rw [current_of_is his] at h
  obtain ⟨hmem, hbucket⟩ := (current_spec hb).mp h
  exact ⟨r, hmem, rfl, hbucket⟩

theorem no_report_of_current (hb : BucketOk old db) (his : b.Is old) (h : b.current db = none) (reportId : String) :
    ¬ HasReport old db reportId := by
  rintro ⟨r, hmem, -, hbucket⟩
  rw [current_of_is his, (current_spec hb).mpr ⟨hmem, hbucket⟩] at h
  simp at h

theorem find_step_spec (hb : BucketOk old db) (hquery : b.query ∈ db.queries.rows) (hid : db.reports.find id = none)
    {point : FindPoint} (hpoint : b.Is old → point ≠ .finding → IsArchived old db)
    (hstage : HasReport old db old.id ∨ IsArchived old db) :
    Grows db (findStep db b id point).1 ∧ BucketOk old (findStep db b id point).1 ∧
    (findStep db b id point).1.relations = db.relations ∧
    (b.Is old → Resolved old (findStep db b id point).1 b point (findStep db b id point).2) := by
  cases point with
  | finding =>
    unfold findStep
    cases hcurrent : b.current db with
    | some r => exact ⟨.refl db, hb, rfl, fun his => has_report_of_current hb his hcurrent⟩
    | none =>
      refine ⟨.refl db, hb, rfl, fun his => ?_⟩
      by_cases howner : b.query.ownerAccountId = none
      · simp [howner, Resolved]
      · simp only [howner, if_false]
        exact hstage.resolve_left (no_report_of_current hb his hcurrent old.id)
  | refetching =>
    unfold findStep
    cases hcurrent : b.current db with
    | some r => exact ⟨.refl db, hb, rfl, fun his => has_report_of_current hb his hcurrent⟩
    | none => exact ⟨.refl db, hb, rfl, fun his => Or.inr ⟨rfl, no_report_of_current hb his hcurrent⟩⟩
  | creating =>
    have harchived : b.Is old → IsArchived old db := fun his => hpoint his (by decide)
    simp only [findStep]
    split <;> rename_i hconflict
    · refine ⟨.refl db, hb, rfl, fun his => ⟨harchived his, ?_⟩⟩
      obtain ⟨r, hr, hsame⟩ := List.any_eq_true.mp hconflict
      rcases of_decide_eq_true hsame with heq | ⟨hq, -, hl, hc⟩
      · exact absurd heq.symm (Table.find_eq_none_iff.mp hid r hr)
      · exact ⟨r.id, r, hr, rfl, hq.symm.trans his.1, hl.symm.trans his.2.1, hc.symm.trans his.2.2⟩
    · have hfree : db.reports.rows.any (b.new id).conflicts = false := by simpa [Bucket.new] using hconflict
      refine ⟨grows_created (b := b) hid, bucket_ok_created hb hquery hid harchived hfree, rfl, fun his => ?_⟩
      exact ⟨b.new id, (mem_created hid).mpr (Or.inl rfl), rfl, in_bucket_new.mpr his⟩

/-! ## Relations -/

theorem insert_single_outcome {reportId paymentId : String} {accountId : Option String} :
    outcome (insertPaymentToReportDigestionSingle reportId paymentId accountId) db = some db' ↔
      accountId ≠ none ∧ ¬ Related db reportId paymentId ∧
      db' = { db with relations := db.relations.save ⟨reportId, paymentId, accountId, .waiting, ""⟩ } := by
  unfold Related
  by_cases h : accountId = none ∨ (db.relations.find (reportId, paymentId)).isSome = true
  · obtain ⟨e, n, hthrows⟩ := insert_single_aborts h 0
    have hnone : outcome (insertPaymentToReportDigestionSingle reportId paymentId accountId) db = none := by
      unfold outcome
      rw [hthrows]
    rw [hnone]
    constructor
    · simp
    · rintro ⟨howner, hnew, -⟩
      exact absurd h (not_or.mpr ⟨howner, hnew⟩)
  · obtain ⟨howner, hnew⟩ := not_or.mp h
    obtain ⟨t, ht, hdb⟩ := (insert_single_runs howner (Option.not_isSome_iff_eq_none.mp hnew)).returns
    rw [outcome_eq_some.mpr ⟨(), t, ht, hdb⟩]
    simp [howner, hnew, eq_comm]

theorem related_saved {reportId paymentId : String} {accountId : Option String} {r p : String} :
    Related { db with relations := db.relations.save ⟨reportId, paymentId, accountId, .waiting, ""⟩ } r p ↔
      (r = reportId ∧ p = paymentId) ∨ Related db r p := by
  unfold Related
  rw [Table.find_save]
  split <;> rename_i h
  · have hkey : r = reportId ∧ p = paymentId := by simpa [ReportPaymentRelation.key] using h
    simp [hkey]
  · have hkey : ¬ (r = reportId ∧ p = paymentId) := by simpa [ReportPaymentRelation.key] using h
    simp [hkey]

theorem grows_saved (reportId paymentId : String) (accountId : Option String) :
    Grows db { db with relations := db.relations.save ⟨reportId, paymentId, accountId, .waiting, ""⟩ } :=
  ⟨fun r hr => ⟨r, hr, rfl⟩, fun _ _ h => related_saved.mpr (Or.inr h), fun _ h => h⟩

theorem BucketOk.save_relation (hb : BucketOk old db) {reportId paymentId : String} {accountId : Option String}
    (haccount : accountId ≠ none) :
    BucketOk old { db with relations := db.relations.save ⟨reportId, paymentId, accountId, .waiting, ""⟩ } := by
  refine ⟨hb.single, hb.opened, hb.typed, fun r hr => ?_⟩
  rcases Table.mem_save.mp hr with rfl | ⟨hr, -⟩
  · exact haccount
  · exact hb.accounts r hr

theorem mem_of_map_eq {α β : Type} {f : α → β} {xs ys : List α} (h : ys.map f = xs.map f) {x : α} (hx : x ∈ xs) :
    ∃ y ∈ ys, f y = f x := by
  have hmem : f x ∈ ys.map f := h ▸ List.mem_map_of_mem hx
  simpa using hmem

theorem SameBuckets.grows (h : SameBuckets db db') : Grows db db' := by
  obtain ⟨hreports, hrelations, hqueries⟩ := h
  refine ⟨fun r hr => mem_of_map_eq hreports hr, fun reportId paymentId hrelated => ?_, hqueries⟩
  obtain ⟨r, hr⟩ := Option.isSome_iff_exists.mp hrelated
  obtain ⟨hmem, hkey⟩ := Table.find_eq_some_iff.mp hr
  obtain ⟨r', hr', hsame⟩ := mem_of_map_eq hrelations hmem
  have hkey' : r'.key = (reportId, paymentId) := (congrArg Prod.fst hsame).trans hkey
  exact Option.isSome_iff_exists.mpr ⟨r', Table.find_eq_some_iff.mpr ⟨hr', hkey'⟩⟩

theorem SameBuckets.related (h : SameBuckets db db') {reportId paymentId : String} (hr : Related db' reportId paymentId) :
    Related db reportId paymentId := by
  obtain ⟨-, hrelations, -⟩ := h
  obtain ⟨r, hr⟩ := Option.isSome_iff_exists.mp hr
  obtain ⟨hmem, hkey⟩ := Table.find_eq_some_iff.mp hr
  obtain ⟨r', hr', hsame⟩ := mem_of_map_eq hrelations.symm hmem
  have hkey' : r'.key = (reportId, paymentId) := (congrArg Prod.fst hsame).trans hkey
  exact Option.isSome_iff_exists.mpr ⟨r', Table.find_eq_some_iff.mpr ⟨hr', hkey'⟩⟩

theorem SameBuckets.bucket_ok (h : SameBuckets db db') (hb : BucketOk old db) : BucketOk old db' := by
  obtain ⟨hreports, hrelations, hqueries⟩ := h
  have hback : ∀ r' ∈ db'.reports.rows, ∃ r ∈ db.reports.rows, r.bucketKey = r'.bucketKey :=
    fun r' hr' => mem_of_map_eq hreports.symm hr'
  refine ⟨?_, ?_, ?_, ?_⟩
  · intro a ha b hb' hbucket hbucket'
    obtain ⟨x, hx, hkey⟩ := hback a ha
    obtain ⟨y, hy, hkey'⟩ := hback b hb'
    obtain ⟨hid, -, -, hiff⟩ := bucketKey_iff old hkey
    obtain ⟨hid', -, -, hiff'⟩ := bucketKey_iff old hkey'
    rw [← hid, ← hid']
    exact hb.single x hx y hy (hiff.mpr hbucket) (hiff'.mpr hbucket')
  · intro a ha hbucket
    obtain ⟨x, hx, hkey⟩ := hback a ha
    obtain ⟨-, harchived, -, hiff⟩ := bucketKey_iff old hkey
    rw [← harchived]
    exact hb.opened x hx (hiff.mpr hbucket)
  · intro a ha hbucket hne
    obtain ⟨x, hx, hkey⟩ := hback a ha
    obtain ⟨hid, -, htype, hiff⟩ := bucketKey_iff old hkey
    obtain ⟨query, hquery, hqueryId, hsame⟩ := hb.typed x hx (hiff.mpr hbucket) (hid ▸ hne)
    exact ⟨query, hqueries query hquery, hqueryId, htype ▸ hsame⟩
  · intro a ha
    obtain ⟨x, hx, hsame⟩ := mem_of_map_eq hrelations.symm ha
    have haccount : x.accountId = a.accountId := congrArg Prod.snd hsame
    exact haccount ▸ hb.accounts x hx

end Bucket

end Postral.Reports
