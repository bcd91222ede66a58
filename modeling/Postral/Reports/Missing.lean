import Postral.Reports.Reconstruct

/-!
# The payments that a reconstruction adds (`reportReconstruct`)

A reconstruction may look for payments that the old report lacks. It inserts their relations in one
statement and goes on when that fails.
-/

open Check Session

namespace Postral.Reports

/-- What a reconstruction takes from the runtime. -/
structure Rebuilding where
  /-- `buildPeriodLabel` of a payment's `createdAt`. -/
  buildPeriodLabel : DateGrouping → ℕ → String
  /-- `Date.now()`. -/
  now : String
  /-- The key that the database generates for the new report. -/
  reportId : String

/-! ## The missing payments -/

/-- Sold or bought by the account, and without a relation to the report. -/
def findPaymentDoesntHaveReportRelation (accountId reportId : String) (db : Db) : List Payment :=
  db.payments.rows.filter fun payment =>
    ((payment.items.rows.any fun item => item.sellerAccountId = some accountId) ∨
      payment.customerAccountId = some accountId) ∧ db.relations.find (reportId, payment.id) = none

/-- A relation without its account. -/
def relationOf (newReportId : String) (payment : Payment) : ReportPaymentRelation :=
  ⟨newReportId, payment.id, none, .waiting, ""⟩

/-- `reportPaymentRelationRepo.insert`: all rows or none. -/
def insertRelations (batchInsert : List ReportPaymentRelation) : Digest Unit := do
  let unique ← find fun db => decide ((batchInsert.map (·.key)).Nodup ∧
    ∀ relation ∈ batchInsert, db.relations.find relation.key = none)
  check (require (∀ relation ∈ batchInsert, relation.accountId ≠ none)
    (.internal "Field 'accountId' doesn't have a default value"))
  check (require (unique = true) (.internal "Duplicate entry"))
  save fun db => { db with relations := db.relations.saveAll batchInsert }

def includeOlderNotIncludedPayments (c : Rebuilding) (accountId newPeriodLabel oldReportId newReportId : String) :
    Digest Unit := do
  let found ← find fun db => db.reports.find oldReportId
  let oldReportArchived ← check (orThrow found (.internal s!"Report {oldReportId} not found"))
  let foundQuery ← find fun db => db.queries.find oldReportArchived.queryId
  let query ← check (orThrow foundQuery (.internal s!"Report {oldReportId} has no query loaded"))
  let payments ← find (findPaymentDoesntHaveReportRelation accountId oldReportId)
  let batchInsert := (payments.filter fun payment =>
    c.buildPeriodLabel query.dateGrouping payment.createdAt = newPeriodLabel).map (relationOf newReportId)
  if batchInsert.length > 0 then
    attempt (insertRelations batchInsert)
  else return

/-! ## The reconstruction -/

def reportReconstruct (c : Rebuilding) (reportId : String) (findNotExistingPaymentsForAccountId : Bool) :
    Digest Unit := do
  let found ← find fun db => db.reports.find reportId
  let oldReport ← check (orThrow found (.internal s!"Report {reportId} not found"))
  let foundQuery ← find fun db => db.queries.find oldReport.queryId
  let query ← check (orThrow foundQuery (.internal s!"Report {reportId} has no query loaded."))
  let ownerAccountId ← check (orThrow query.ownerAccountId (.internal s!"Report {reportId} has no query ownerAccountId."))
  check (require (oldReport.archived = false) (.internal s!"Report {reportId} is already archived."))
  let archived := archivedReport oldReport c.now
  let duplicate ← find fun db => db.reports.rows.any (sameLabel archived)
  check (require (duplicate = false) (.internal "Duplicate entry"))
  save fun db => { db with reports := db.reports.save archived }
  let brandNewReport ← findOrCreateByQuery query oldReport.periodLabel oldReport.currency c.reportId
  if findNotExistingPaymentsForAccountId then
    includeOlderNotIncludedPayments c ownerAccountId oldReport.periodLabel oldReport.id brandNewReport.id
  let relatedPaymentRelations ← find fun db => db.relations.rows.filter fun r => r.reportId = oldReport.id
  relatedPaymentRelations.forM fun relation =>
    insertPaymentToReportDigestionSingle brandNewReport.id relation.paymentId relation.accountId

/-- What the tables promise: a relation refers to a stored report, a report has the type of its query,
and no two reports share query, type, label and currency. -/
structure ReportsKept (db : Db) : Prop where
  referenced : ∀ relation ∈ db.relations.rows, ∃ r ∈ db.reports.rows, r.id = relation.reportId
  typed : ∀ r ∈ db.reports.rows, ∀ query ∈ db.queries.find r.queryId, r.reportType = query.reportType
  unique : ∀ r ∈ db.reports.rows, ∀ r' ∈ db.reports.rows, sameLabel r r' = false

instance (db : Db) : Decidable (ReportsKept db) :=
  decidable_of_iff _ ⟨fun h => ⟨h.1, h.2.1, h.2.2⟩, fun h => And.intro h.referenced (And.intro h.typed h.unique)⟩

/-- A payment that belongs into the report `old` of `query`. -/
def IsDue (c : Rebuilding) (old : Report ℤ) (query : ReportQuery) (payment : Payment) : Prop :=
  payment.paymentStatus = .completed ∧ payment.currency = old.currency ∧
    c.buildPeriodLabel query.dateGrouping payment.createdAt = old.periodLabel ∧
    ∃ item ∈ payment.items.rows, item.sellerAccountId = query.ownerAccountId

instance (c : Rebuilding) (old : Report ℤ) (query : ReportQuery) (payment : Payment) :
    Decidable (IsDue c old query payment) := by
  unfold IsDue
  infer_instance

/-- The payments of `old`, and those that are due. -/
def Belongs (c : Rebuilding) (db : Db) (old : Report ℤ) (query : ReportQuery) (paymentId : String) : Prop :=
  Related db old.id paymentId ∨ ∃ payment ∈ db.payments.rows, payment.id = paymentId ∧ IsDue c old query payment

instance (c : Rebuilding) (db : Db) (old : Report ℤ) (query : ReportQuery) (paymentId : String) :
    Decidable (Belongs c db old query paymentId) := by
  unfold Belongs
  infer_instance

section Returns

variable {s t : Session HttpError Db} {c : Rebuilding} {u : Unit}

/-- Rows without an account never reach the table. -/
theorem insert_relations_left {batchInsert : List ReportPaymentRelation}
    (hmissing : ∃ relation ∈ batchInsert, relation.accountId = none)
    (h : Returns (attempt (insertRelations batchInsert)) s u t) : t.db = s.db := by
  have hnot : ¬ ∀ relation ∈ batchInsert, relation.accountId ≠ none := by
    obtain ⟨relation, hmem, hnone⟩ := hmissing
    exact fun hall => hall relation hmem hnone
  unfold insertRelations at h
  rcases returns_attempt.mp h with ⟨_, h⟩ | ⟨e, h⟩
  · simp only [returns_bind, returns_check, require_eq_ok] at h
    obtain ⟨_, _, -, _, _, ⟨hall, -⟩, -⟩ := h
    exact absurd hall hnot
  · simp only [throws_bind, returns_check, require_eq_ok, throws_check] at h
    rcases h with h | ⟨_, v, hfind, ⟨-, rfl⟩ | ⟨_, _, ⟨hall, -⟩, -⟩⟩
    · exact throws_statement h
    · exact (returns_find hfind).2
    · exact absurd hall hnot

/-- No payment is added. -/
theorem include_older_left {accountId newPeriodLabel oldReportId newReportId : String}
    (h : Returns (includeOlderNotIncludedPayments c accountId newPeriodLabel oldReportId newReportId) s u t) :
    t.db = s.db := by
  unfold includeOlderNotIncludedPayments at h
  simp only [returns_bind, returns_check] at h
  obtain ⟨_, v, hfound, _, _, ⟨-, rfl⟩, _, w, hquery, _, _, ⟨-, rfl⟩, payments, x, hpayments, h⟩ := h
  rw [← (returns_find hfound).2, ← (returns_find hquery).2, ← (returns_find hpayments).2]
  split at h <;> rename_i hlength
  · obtain ⟨relation, hmem⟩ := List.exists_mem_of_length_pos hlength
    obtain ⟨payment, -, rfl⟩ := List.mem_map.mp hmem
    exact insert_relations_left ⟨_, hmem, rfl⟩ h
  · rw [(returns_pure.mp h).2]

/-- Without a current report `findOrCreateByQuery` creates one. -/
theorem find_or_create_opens {query : ReportQuery} {periodLabel currency id : String} {r : Report ℤ}
    (hnone : currentReport s.db query.id periodLabel currency = none)
    (h : Returns (findOrCreateByQuery query periodLabel currency id) s r t) :
    r = newReport id query periodLabel currency ∧ (∀ r' ∈ s.db.reports.rows, r'.id ≠ id) ∧
      t.db = { s.db with reports := s.db.reports.save r } := by
  unfold currentReport at hnone
  unfold findOrCreateByQuery at h
  simp only [returns_bind] at h
  obtain ⟨existing, v, hfind, h⟩ := h
  obtain ⟨rfl, hv⟩ := returns_find hfind
  rw [hnone] at h
  simp only [returns_bind, returns_check, require_eq_ok, returns_pure] at h
  obtain ⟨_, _, ⟨-, rfl⟩, duplicate, w, hduplicate, _, _, ⟨hfree, rfl⟩, _, x, hsave, rfl, rfl⟩ := h
  obtain ⟨rfl, hw⟩ := returns_find hduplicate
  rw [hv, List.any_eq_false] at hfree
  refine ⟨rfl, fun r' hr' hid => hfree r' hr' ?_, by rw [returns_save hsave, hw, hv]⟩
  simp [Report.conflicts, newReport, hid]

theorem insert_single_spec {reportId paymentId : String} {accountId : Option String}
    (h : Returns (insertPaymentToReportDigestionSingle reportId paymentId accountId) s u t) :
    t.db = { s.db with relations := s.db.relations.save ⟨reportId, paymentId, accountId, .waiting, ""⟩ } := by
  unfold insertPaymentToReportDigestionSingle at h
  simp only [returns_bind, returns_check] at h
  obtain ⟨_, v, hfind, _, _, ⟨-, rfl⟩, _, _, ⟨-, rfl⟩, hsave⟩ := h
  rw [returns_save hsave, (returns_find hfind).2]

/-- The loop gives the report one relation for each of `relations`. -/
theorem copy_relations_spec {reportId : String} {relations : List ReportPaymentRelation}
    (hnew : ∀ paymentId, ¬ Related s.db reportId paymentId)
    (h : Returns (relations.forM fun relation =>
      insertPaymentToReportDigestionSingle reportId relation.paymentId relation.accountId) s u t) :
    t.db.reports = s.db.reports ∧
      ∀ paymentId, Related t.db reportId paymentId ↔ paymentId ∈ relations.map (·.paymentId) := by
  refine forM_invariant (fun done db => db.reports = s.db.reports ∧
    ∀ paymentId, Related db reportId paymentId ↔ paymentId ∈ done.map (·.paymentId)) h ⟨rfl, by simpa using hnew⟩ ?_
  intro done relation _ _ w w' hinsert hdone
  obtain ⟨hreports, hrelated⟩ := hdone
  rw [insert_single_spec hinsert]
  refine ⟨hreports, fun paymentId => ?_⟩
  unfold Related at hrelated ⊢
  rw [Table.find_save, List.map_append, List.mem_append, ← hrelated paymentId]
  split <;> rename_i hkey
  · have hpayment : paymentId = relation.paymentId := congrArg Prod.snd hkey
    simp [hpayment]
  · have hpayment : paymentId ≠ relation.paymentId := fun hpayment => hkey (by rw [hpayment]; rfl)
    simp [hpayment]

theorem relation_count_eq (db : Db) (reportId paymentId : String) :
    relationCount db reportId paymentId = if Related db reportId paymentId then 1 else 0 := by
  split <;> rename_i hrelated
  · exact relationCount_eq_one.mpr hrelated
  · have hnone := Table.find_eq_none_iff.mp (Option.not_isSome_iff_eq_none.mp hrelated)
    unfold relationCount
    rw [List.filter_eq_nil_iff.mpr (by simpa using hnone)]
    rfl

end Returns

/-- The archived report is no current one, and no other report of the query has its label. -/
theorem current_archived {db : Db} {old : Report ℤ} {query : ReportQuery} {now : String} (hkept : ReportsKept db)
    (hold : db.reports.find old.id = some old) (hquery : db.queries.find old.queryId = some query) :
    currentReport { db with reports := db.reports.save (archivedReport old now) } query.id old.periodLabel old.currency
      = none := by
  have hid : query.id = old.queryId := Table.key_of_find hquery
  apply Option.eq_none_iff_forall_ne_some.mpr
  intro r hr
  obtain ⟨hmem, hrquery, hlabel, hcurrency, hopen⟩ := currentReport_some hr
  rcases Table.mem_save.mp hmem with rfl | ⟨hmem, hne⟩
  · exact absurd hopen (by simp [archivedReport])
  · have hsame : sameLabel old r = false := hkept.unique old (Table.mem_of_find hold) r hmem
    have htype := hkept.typed old (Table.mem_of_find hold) query hquery
    have hrtype := hkept.typed r hmem query (by rw [hrquery, hid]; exact hquery)
    have hne' : old.id ≠ r.id := Ne.symm hne
    simp [sameLabel, hne', hrquery, hid, htype, hrtype, hlabel, hcurrency] at hsame

/-- A new report is the current one. -/
theorem current_opened {db : Db} {query : ReportQuery} {id queryId periodLabel currency : String}
    (hfree : ∀ r ∈ db.reports.rows, r.id ≠ id) (hnone : currentReport db query.id periodLabel currency = none)
    (hid : query.id = queryId) :
    currentReport { db with reports := db.reports.save (newReport id query periodLabel currency) } queryId periodLabel
      currency = some (newReport id query periodLabel currency) := by
  have hrows : (db.reports.save (newReport id query periodLabel currency)).rows =
      db.reports.rows ++ [newReport id query periodLabel currency] := by
    apply if_neg
    rw [List.mem_map]
    rintro ⟨r, hr, hrid⟩
    exact hfree r hr hrid
  subst hid
  unfold currentReport at hnone ⊢
  rw [hrows, List.find?_append, hnone]
  simp [newReport]

theorem mem_relations_of {db : Db} {reportId paymentId : String} :
    paymentId ∈ (db.relations.rows.filter fun r => r.reportId = reportId).map (·.paymentId) ↔
      Related db reportId paymentId := by
  unfold Related
  rw [Option.isSome_iff_exists, List.mem_map]
  constructor
  · rintro ⟨relation, hmem, rfl⟩
    obtain ⟨hmem, hreport⟩ := List.mem_filter.mp hmem
    rw [decide_eq_true_eq] at hreport
    exact ⟨relation, Table.find_eq_some_iff.mpr ⟨hmem, by rw [← hreport]; rfl⟩⟩
  · rintro ⟨relation, hfind⟩
    obtain ⟨hmem, hkey⟩ := Table.find_eq_some_iff.mp hfind
    obtain ⟨hreport, hpayment⟩ := Prod.mk.inj hkey
    exact ⟨relation, List.mem_filter.mpr ⟨hmem, decide_eq_true hreport⟩, hpayment⟩

/-- The new report gets the payments of the old one, and no others. -/
theorem reconstruct_spec {c : Rebuilding} {reportId : String} {s t : Session HttpError Db} {u : Unit}
    (hkept : ReportsKept s.db) (h : Returns (reportReconstruct c reportId true) s u t) :
    ∃ old ∈ s.db.reports.find reportId, ∃ query ∈ s.db.queries.find old.queryId,
      ∃ brandNew ∈ currentReport t.db old.queryId old.periodLabel old.currency, brandNew.id ≠ old.id ∧
        ∀ paymentId, Related t.db brandNew.id paymentId ↔ Related s.db old.id paymentId := by
  unfold reportReconstruct at h
  simp only [returns_bind, returns_check, orThrow_eq_ok, require_eq_ok, if_true] at h
  obtain ⟨_, v, hfound, old, _, ⟨rfl, rfl⟩, _, w, hquery, query, _, ⟨rfl, rfl⟩, owner, _, ⟨-, rfl⟩, _, _, ⟨-, rfl⟩,
    _, x, hlabel, _, _, ⟨-, rfl⟩, _, y, hsave, brandNew, z, hopen, _, y', hinclude, relations, z', hrelations, hcopy⟩ := h
  obtain ⟨hold, hv⟩ := returns_find hfound
  obtain ⟨hquery, hw⟩ := returns_find hquery
  obtain ⟨rfl, hz'⟩ := returns_find hrelations
  have hy : y.db = { s.db with reports := s.db.reports.save (archivedReport old c.now) } := by
    rw [returns_save hsave, (returns_find hlabel).2, hw, hv]
  rw [hv] at hquery
  have hself : s.db.reports.find old.id = some old := Table.find_of_mem (Table.mem_of_find hold.symm)
  have hid : query.id = old.queryId := Table.key_of_find hquery.symm
  obtain ⟨rfl, hfree, hz⟩ := find_or_create_opens (by rw [hy]; exact current_archived hkept hself hquery.symm) hopen
  have hkeys : (archivedReport old c.now).id = old.id := rfl
  have hstored : ∀ r ∈ s.db.reports.rows, r.id ≠ c.reportId := by
    intro r hr
    obtain ⟨r', hr', hid'⟩ := mem_save_id (archivedReport old c.now) ⟨r, hr, rfl⟩
    rw [← hid']
    exact hfree r' (by rw [hy]; exact hr')
  have hbefore : z'.db = { s.db with
      reports := (s.db.reports.save (archivedReport old c.now)).save
        (newReport c.reportId query old.periodLabel old.currency) } := by
    rw [hz', include_older_left hinclude, hz, hy]
  have hunused : ∀ paymentId, ¬ Related z'.db c.reportId paymentId := by
    intro paymentId hrelated
    rw [hbefore] at hrelated
    obtain ⟨relation, hfind⟩ := Option.isSome_iff_exists.mp hrelated
    obtain ⟨r, hr, hrid⟩ := hkept.referenced relation (Table.mem_of_find hfind)
    have hkey : relation.key = (c.reportId, paymentId) := Table.key_of_find hfind
    exact hstored r hr (hrid.trans (congrArg Prod.fst hkey))
  obtain ⟨hreports, hcopied⟩ := copy_relations_spec hunused hcopy
  refine ⟨old, hold.symm, query, hquery.symm, newReport c.reportId query old.periodLabel old.currency, ?_,
    (hstored old (Table.mem_of_find hself)).symm, fun paymentId => ?_⟩
  · show currentReport t.db old.queryId old.periodLabel old.currency = _
    unfold currentReport
    rw [hreports, hbefore]
    exact current_opened (by rw [← hy]; exact hfree) (current_archived hkept hself hquery.symm) hid
  · refine (hcopied paymentId).trans ?_
    rw [include_older_left hinclude, hz, hy]
    exact mem_relations_of

/-- **Missing payments.** A reconstruction leaves the new report with the old report's payments and
the due ones, each once, exactly when the old report has all that are due. -/
theorem reconstruct_includes_due_iff (c : Rebuilding) (reportId : String) (s t : Session HttpError Db) (u : Unit)
    (hkept : ReportsKept s.db) (h : Returns (reportReconstruct c reportId true) s u t) :
    ∃ old ∈ s.db.reports.find reportId, ∃ query ∈ s.db.queries.find old.queryId,
      ∃ brandNew ∈ currentReport t.db old.queryId old.periodLabel old.currency, brandNew.id ≠ old.id ∧
        ((∀ paymentId, relationCount t.db brandNew.id paymentId = if Belongs c s.db old query paymentId then 1 else 0) ↔
          ∀ payment ∈ s.db.payments.rows, IsDue c old query payment → Related s.db old.id payment.id) := by
  obtain ⟨old, hold, query, hquery, brandNew, hcurrent, hne, hrelated⟩ := reconstruct_spec hkept h
  refine ⟨old, hold, query, hquery, brandNew, hcurrent, hne, ?_⟩
  have hcount : ∀ paymentId, relationCount t.db brandNew.id paymentId =
      (if Belongs c s.db old query paymentId then 1 else 0) ↔
        (Belongs c s.db old query paymentId → Related s.db old.id paymentId) := by
    intro paymentId
    rw [relation_count_eq, ite_congr (propext (hrelated paymentId)) (fun _ => rfl) fun _ => rfl]
    by_cases hold : Related s.db old.id paymentId
    · have hbelongs : Belongs c s.db old query paymentId := Or.inl hold
      simp [hold, hbelongs]
    · simp [hold]
  rw [forall_congr' hcount]
  constructor
  · intro hall payment hpayment hdue
    exact hall payment.id (Or.inr ⟨payment, hpayment, rfl, hdue⟩)
  · rintro hall paymentId (hold | ⟨payment, hpayment, rfl, hdue⟩)
    · exact hold
    · exact hall payment hpayment hdue

/-! A report with the sale of `sampleDb`. The return of the same day is in no report. -/

def sampleRebuilding : Rebuilding where
  buildPeriodLabel _ createdAt := if createdAt < 86400 then "1970-01-01" else "1970-01-02"
  now := "172800000"
  reportId := "report-2"

def missingDb : Db :=
  { sampleDb with
    reports := Table.empty.save (newReport "report" ⟨"query", some "seller", some "TRY", .daily, .seller⟩ "1970-01-01" "TRY")
    relations := Table.empty.save ⟨"report", "sale", some "seller", .completed, ""⟩ }

/-- A completed payment of the seller is missing in the old report, and in the new one. -/
theorem reconstruct_leaves_payment_out :
    ∃ db ∈ outcome (reportReconstruct sampleRebuilding "report" true) missingDb,
      ∃ old ∈ missingDb.reports.find "report", ∃ query ∈ missingDb.queries.find old.queryId,
        ∃ brandNew ∈ currentReport db old.queryId old.periodLabel old.currency,
          Belongs sampleRebuilding missingDb old query "return" ∧ relationCount db brandNew.id "return" = 0 := by
  decide +kernel

/-- Both payments are in the old report. -/
def relatedDb : Db :=
  { missingDb with
    relations := missingDb.relations.save ⟨"report", "return", some "seller", .completed, ""⟩ }

theorem reconstruct_includes_due_sample :
    ∃ db ∈ outcome (reportReconstruct sampleRebuilding "report" true) relatedDb,
      ∃ old ∈ relatedDb.reports.find "report", ∃ query ∈ relatedDb.queries.find old.queryId,
        ∃ brandNew ∈ currentReport db old.queryId old.periodLabel old.currency, brandNew.id ≠ old.id ∧
          ∀ paymentId, relationCount db brandNew.id paymentId =
            if Belongs sampleRebuilding relatedDb old query paymentId then 1 else 0 := by
  have hsome : (outcome (reportReconstruct sampleRebuilding "report" true) relatedDb).isSome = true := by
    decide +kernel
  obtain ⟨db, hdb⟩ := Option.isSome_iff_exists.mp hsome
  obtain ⟨u, t, hreturns, rfl⟩ := outcome_eq_some.mp hdb
  obtain ⟨old, hold, query, hquery, brandNew, hcurrent, hne, hiff⟩ :=
    reconstruct_includes_due_iff sampleRebuilding "report" { db := relatedDb } t u (by decide +kernel) hreturns
  have hall : ∀ old ∈ relatedDb.reports.find "report", ∀ payment ∈ relatedDb.payments.rows,
      Related relatedDb old.id payment.id := by decide +kernel
  exact ⟨t.db, hdb, old, hold, query, hquery, brandNew, hcurrent, hne,
    hiff.mpr fun payment hpayment _ => hall old hold payment hpayment⟩

end Postral.Reports
