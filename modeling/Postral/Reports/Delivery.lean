import Postral.Reports.Breakdown

/-!
# Deliveries of the digestion event

The handler relates a payment to one report of each matching query, in a loop without a transaction.
-/

open Check Session

namespace Postral.Reports

/-- What a delivery takes from the payment's date and from outside. -/
structure Delivery where
  /-- `buildPeriodLabel` of `payment.createdAt`. -/
  periodLabel : DateGrouping → String
  hasAccount : String → Bool
  /-- The key that the database generates for a query of an account. -/
  queryId : String → ReportType → String
  /-- The key that the database generates for a report of a query. -/
  reportId : String → String

/-! ## The matching queries -/

def sellerReportTypes : List ReportType := [.seller, .platformSeller]

def platformReportTypes : List ReportType := [.platform, .platformFlow]

def queriesOfAccount (accountId currency : String) (db : Db) : List ReportQuery :=
  db.queries.rows.filter fun query =>
    query.ownerAccountId = some accountId ∧ query.currency = some currency ∧ query.reportType ∈ sellerReportTypes

/-- The daily queries that an account lacks. -/
def missingQueries (d : Delivery) (accountId currency : String) (queries : List ReportQuery) : List ReportQuery :=
  (sellerReportTypes.filter fun type =>
    !queries.any fun query => query.dateGrouping = .daily ∧ query.reportType = type).map fun type =>
      ⟨d.queryId accountId type, some accountId, some currency, .daily, type⟩

/-- One transaction. -/
def ensureDailyQueries (d : Delivery) (accountId currency : String) : Digest (List ReportQuery) := do
  check (require (d.hasAccount accountId = true) (.notFound "Account not found"))
  let queries ← find (queriesOfAccount accountId currency)
  let created := missingQueries d accountId currency queries
  let unique ← find fun db =>
    decide ((created.map (·.id)).Nodup ∧ ∀ query ∈ created, db.queries.find query.id = none)
  check (require (unique = true) (.internal "Duplicate entry"))
  save fun db => { db with queries := db.queries.saveAll created }
  return queries ++ created

/-- `[...new Set(payment.items.map(item => item.sellerAccountId))].sort()`. -/
def sellerAccountIds (payment : Payment) : List (Option String) :=
  let ids := payment.items.rows.map (·.sellerAccountId)
  ((ids.filterMap id).dedup.insertionSort (· ≤ ·)).map some ++ if ids.any Option.isNone then [none] else []

def addQueriesOfSeller (d : Delivery) (payment : Payment) (queries : List ReportQuery) (sellerAccountId : Option String) :
    Digest (List ReportQuery) := do
  let accountId ← check (orThrow (sellerAccountId.filter (· ≠ ""))
    (.internal s!"Payment {payment.id} contains an item without a seller account"))
  let daily ← ensureDailyQueries d accountId payment.currency
  return queries ++ daily

def findMatchingQueries (d : Delivery) (payment : Payment) : Digest (List ReportQuery) := do
  let existingQueries ← find fun db => db.queries.rows.filter fun query =>
    query.currency = some payment.currency ∧ query.reportType ∈ platformReportTypes
  (sellerAccountIds payment).foldlM (addQueriesOfSeller d payment) existingQueries

/-! ## The handler -/

def insertPaymentToReportDigestionSingle (reportId paymentId : String) (accountId : Option String) : Digest Unit := do
  let duplicate ← find fun db => (db.relations.find (reportId, paymentId)).isSome
  check (require (accountId ≠ none) (.internal "Column 'accountId' cannot be null"))
  check (require (duplicate = false) (.internal "Duplicate entry"))
  save fun db => { db with relations := db.relations.save ⟨reportId, paymentId, accountId, .waiting, ""⟩ }

/-- The body of the loop over the queries. -/
def enqueue (d : Delivery) (payment : Payment) (query : ReportQuery) : Digest Unit := do
  let report ← findOrCreateByQuery query (d.periodLabel query.dateGrouping) payment.currency (d.reportId query.id)
  insertPaymentToReportDigestionSingle report.id payment.id query.ownerAccountId

def insertPaymentToReportDigestionQueueCameFromEvent (d : Delivery) (payment : Payment) : Digest Unit := do
  let queries ← findMatchingQueries d payment
  queries.forM (enqueue d payment)

/-! ## The current report and its relations -/

/-- The report that is not archived. -/
def currentReport (db : Db) (queryId periodLabel currency : String) : Option (Report ℤ) :=
  db.reports.rows.find? fun r =>
    r.queryId = queryId ∧ r.periodLabel = periodLabel ∧ r.currency = currency ∧ r.archived = false

def reportOf (d : Delivery) (payment : Payment) (db : Db) (query : ReportQuery) : Option (Report ℤ) :=
  currentReport db query.id (d.periodLabel query.dateGrouping) payment.currency

def relationCount (db : Db) (reportId paymentId : String) : ℕ :=
  (db.relations.rows.filter fun r => r.key = (reportId, paymentId)).length

/-- The current report of the query has exactly one relation for the payment. -/
def HasOneRelation (d : Delivery) (payment : Payment) (db : Db) (query : ReportQuery) : Prop :=
  ∃ report ∈ reportOf d payment db query, relationCount db report.id payment.id = 1

instance (d : Delivery) (payment : Payment) (db : Db) (query : ReportQuery) :
    Decidable (HasOneRelation d payment db query) := by
  unfold HasOneRelation
  infer_instance

/-- The query has an owner, and a report or a free label. -/
def Insertable (d : Delivery) (payment : Payment) (db : Db) (query : ReportQuery) : Prop :=
  query.ownerAccountId ≠ none ∧ ((reportOf d payment db query).isSome = true ∨
    ∀ r ∈ db.reports.rows, ¬ (r.queryId = query.id ∧ r.reportType = query.reportType ∧
      r.periodLabel = d.periodLabel query.dateGrouping ∧ r.currency = payment.currency))

instance (d : Delivery) (payment : Payment) (db : Db) (query : ReportQuery) :
    Decidable (Insertable d payment db query) := by
  unfold Insertable
  infer_instance

/-- No query that lacks the payment comes after one that has it, and each of them can be given it. -/
def Deliverable (d : Delivery) (payment : Payment) (db : Db) (queries : List ReportQuery) : Prop :=
  (∀ query ∈ queries, HasOneRelation d payment db query ∨ Insertable d payment db query) ∧
    queries.Pairwise fun query query' => HasOneRelation d payment db query → HasOneRelation d payment db query'

instance (d : Delivery) (payment : Payment) (db : Db) (queries : List ReportQuery) :
    Decidable (Deliverable d payment db queries) := by
  unfold Deliverable
  infer_instance

/-- The keys that the database generates are new. -/
structure FreshKeys (d : Delivery) (db : Db) (queries : List ReportQuery) : Prop where
  report : ∀ query ∈ queries, ∀ r ∈ db.reports.rows, r.id ≠ d.reportId query.id
  relation : ∀ query ∈ queries, ∀ r ∈ db.relations.rows, r.reportId ≠ d.reportId query.id
  single : ∀ query ∈ queries, ∀ query' ∈ queries, d.reportId query.id = d.reportId query'.id → query.id = query'.id

instance (d : Delivery) (db : Db) (queries : List ReportQuery) : Decidable (FreshKeys d db queries) :=
  decidable_of_iff _ ⟨fun h => ⟨h.1, h.2.1, h.2.2⟩, fun h => And.intro h.report (And.intro h.relation h.single)⟩

theorem currentReport_some {db : Db} {queryId periodLabel currency : String} {r : Report ℤ}
    (h : currentReport db queryId periodLabel currency = some r) : r ∈ db.reports.rows ∧
      r.queryId = queryId ∧ r.periodLabel = periodLabel ∧ r.currency = currency ∧ r.archived = false := by
  have hfound := List.find?_some h
  rw [decide_eq_true_eq] at hfound
  exact ⟨List.mem_of_find?_eq_some h, hfound⟩

theorem relationCount_eq_one {db : Db} {reportId paymentId : String} :
    relationCount db reportId paymentId = 1 ↔ (db.relations.find (reportId, paymentId)).isSome = true := by
  unfold relationCount Table.find
  have hnodup := db.relations.nodup
  generalize db.relations.rows = rows at hnodup
  induction rows with
  | nil => simp
  | cons r rows ih =>
    rw [List.map_cons, List.nodup_cons] at hnodup
    by_cases hkey : r.key = (reportId, paymentId)
    · have hrest : rows.filter (fun r => r.key = (reportId, paymentId)) = [] := by
        apply List.filter_eq_nil_iff.mpr
        intro x hx hxkey
        exact hnodup.1 (List.mem_map.mpr ⟨x, hx, by rw [hkey]; simpa using hxkey⟩)
      simp [hkey, hrest]
    · simpa [List.filter_cons, List.find?_cons, hkey] using ih hnodup.2

/-! ## One query -/

section Enqueue

variable {d : Delivery} {payment : Payment} {db : Db} {query : ReportQuery}

/-- The report of the query, after it was found or created. -/
def reportFor (d : Delivery) (payment : Payment) (db : Db) (query : ReportQuery) : Report ℤ :=
  (reportOf d payment db query).getD
    (newReport (d.reportId query.id) query (d.periodLabel query.dateGrouping) payment.currency)

def enqueued (d : Delivery) (payment : Payment) (db : Db) (query : ReportQuery) : Db :=
  { db with
    reports := if (reportOf d payment db query).isSome = true then db.reports
      else db.reports.save (reportFor d payment db query)
    relations := db.relations.save
      ⟨(reportFor d payment db query).id, payment.id, query.ownerAccountId, .waiting, ""⟩ }

/-- The keys for this query are new. -/
structure FreshKey (d : Delivery) (db : Db) (query : ReportQuery) : Prop where
  report : ∀ r ∈ db.reports.rows, r.id ≠ d.reportId query.id
  relation : ∀ r ∈ db.relations.rows, r.reportId ≠ d.reportId query.id

theorem insert_single_runs {reportId paymentId : String} {accountId : Option String} (howner : accountId ≠ none)
    (hnew : db.relations.find (reportId, paymentId) = none) :
    Runs (insertPaymentToReportDigestionSingle reportId paymentId accountId) db ()
      { db with relations := db.relations.save ⟨reportId, paymentId, accountId, .waiting, ""⟩ } := by
  unfold insertPaymentToReportDigestionSingle
  apply (runs_find _ db).bind
  simp only [hnew, howner, require, Option.isSome_none, ne_eq, not_false_eq_true, if_true]
  exact (runs_check () db).bind ((runs_check () db).bind (runs_save _ db))

theorem insert_single_aborts {reportId paymentId : String} {accountId : Option String}
    (h : accountId = none ∨ (db.relations.find (reportId, paymentId)).isSome = true) :
    Aborts (insertPaymentToReportDigestionSingle reportId paymentId accountId) db db := by
  unfold insertPaymentToReportDigestionSingle
  apply (runs_find _ db).bind_aborts
  by_cases howner : accountId = none
  · simp only [require, howner, ne_eq, not_true_eq_false, if_false]
    exact (aborts_check _ db).bind _
  · have hsome := h.resolve_left howner
    simp only [require, howner, hsome, ne_eq, not_false_eq_true, if_true, Bool.true_eq_false, if_false]
    exact (runs_check () db).bind_aborts ((aborts_check _ db).bind _)

theorem reportOf_key {r : Report ℤ} (h : reportOf d payment db query = some r) :
    r ∈ db.reports.rows ∧ r.queryId = query.id := ⟨(currentReport_some h).1, (currentReport_some h).2.1⟩

/-- The report is found, or created under a free label. -/
theorem find_or_create_runs (hfresh : FreshKey d db query)
    (h : (reportOf d payment db query).isSome = true ∨ Insertable d payment db query) :
    Runs (findOrCreateByQuery query (d.periodLabel query.dateGrouping) payment.currency (d.reportId query.id)) db
      (reportFor d payment db query)
      { db with reports := if (reportOf d payment db query).isSome = true then db.reports
          else db.reports.save (reportFor d payment db query) } := by
  unfold findOrCreateByQuery reportFor
  apply (runs_find _ db).bind
  cases hreport : reportOf d payment db query with
  | some r =>
    unfold reportOf currentReport at hreport
    simp only [hreport, Option.getD_some, Option.isSome_some, if_true]
    exact runs_pure r db
  | none =>
    obtain ⟨howner, hlabel⟩ := h.resolve_left (by simp [hreport])
    have hfree : db.reports.rows.any (newReport (d.reportId query.id) query (d.periodLabel query.dateGrouping)
        payment.currency).conflicts = false := by
      rw [List.any_eq_false]
      intro r hr hconflict
      have hsame : d.reportId query.id = r.id ∨ (query.id = r.queryId ∧ query.reportType = r.reportType ∧
          d.periodLabel query.dateGrouping = r.periodLabel ∧ payment.currency = r.currency) := of_decide_eq_true hconflict
      rcases hsame with hid | ⟨hquery, htype, hperiod, hcurrency⟩
      · exact hfresh.report r hr hid.symm
      · exact hlabel.resolve_left (by simp [hreport]) r hr ⟨hquery.symm, htype.symm, hperiod.symm, hcurrency.symm⟩
    unfold reportOf currentReport at hreport
    simp only [hreport, Option.getD_none, Option.isSome_none, Bool.false_eq_true, if_false, require, howner, ne_eq,
      not_false_eq_true, if_true]
    refine (runs_check () db).bind ((runs_find _ db).bind ?_)
    rw [hfree]
    exact (runs_check () db).bind ((runs_save _ db).bind (runs_pure _ _))

theorem find_or_create_aborts (hreport : reportOf d payment db query = none)
    (h : ¬ Insertable d payment db query) :
    Aborts (findOrCreateByQuery query (d.periodLabel query.dateGrouping) payment.currency (d.reportId query.id)) db db := by
  have hlabel : query.ownerAccountId ≠ none → ∃ r ∈ db.reports.rows, r.queryId = query.id ∧
      r.reportType = query.reportType ∧ r.periodLabel = d.periodLabel query.dateGrouping ∧ r.currency = payment.currency := by
    intro howner
    by_contra hfree
    push Not at hfree
    exact h ⟨howner, Or.inr fun r hr ⟨hquery, htype, hperiod, hcurrency⟩ => hfree r hr hquery htype hperiod hcurrency⟩
  unfold reportOf currentReport at hreport
  unfold findOrCreateByQuery
  apply (runs_find _ db).bind_aborts
  by_cases howner : query.ownerAccountId = none
  · simp only [hreport, require, howner, ne_eq, not_true_eq_false, if_false]
    exact (aborts_check _ db).bind _
  · obtain ⟨r, hr, hquery, htype, hperiod, hcurrency⟩ := hlabel howner
    have htaken : db.reports.rows.any (newReport (d.reportId query.id) query (d.periodLabel query.dateGrouping)
        payment.currency).conflicts = true := by
      refine List.any_eq_true.mpr ⟨r, hr, ?_⟩
      simp [Report.conflicts, newReport, hquery, htype, hperiod, hcurrency]
    simp only [hreport, require, howner, ne_eq, not_false_eq_true, if_true]
    refine (runs_check () db).bind_aborts ((runs_find _ db).bind_aborts ?_)
    rw [htaken]
    exact (aborts_check _ db).bind _

theorem has_one_relation_iff :
    HasOneRelation d payment db query ↔ (reportOf d payment db query).isSome = true ∧
      (db.relations.find ((reportFor d payment db query).id, payment.id)).isSome = true := by
  unfold HasOneRelation reportFor
  simp only [relationCount_eq_one]
  cases reportOf d payment db query <;> simp

/-- A query that lacks the payment and can be given it. -/
theorem enqueue_runs (hfresh : FreshKey d db query) (hnot : ¬ HasOneRelation d payment db query)
    (h : Insertable d payment db query) : Runs (enqueue d payment query) db () (enqueued d payment db query) := by
  have hnew : db.relations.find ((reportFor d payment db query).id, payment.id) = none := by
    by_cases hreport : (reportOf d payment db query).isSome = true
    · simpa [has_one_relation_iff, hreport] using hnot
    · have hid : (reportFor d payment db query).id = d.reportId query.id := by
        rw [reportFor, Option.not_isSome_iff_eq_none.mp hreport]
        rfl
      rw [hid, Table.find_eq_none_iff]
      intro r hr hkey
      exact hfresh.relation r hr (congrArg Prod.fst hkey)
  exact (find_or_create_runs hfresh (Or.inr h)).bind (insert_single_runs h.1 hnew)

/-- A duplicate relation is an error. -/
theorem enqueue_aborts (hfresh : FreshKey d db query)
    (h : HasOneRelation d payment db query ∨ ¬ Insertable d payment db query) :
    Aborts (enqueue d payment query) db db := by
  cases hreport : reportOf d payment db query with
  | none =>
    have hnot : ¬ Insertable d payment db query := h.resolve_left (by simp [has_one_relation_iff, hreport])
    exact (find_or_create_aborts hreport hnot).bind _
  | some r =>
    have hsome : (reportOf d payment db query).isSome = true := by simp [hreport]
    have hruns := find_or_create_runs hfresh (Or.inl hsome)
    rw [if_pos hsome] at hruns
    refine hruns.bind_aborts (insert_single_aborts ?_)
    rcases h with h | h
    · exact Or.inr (has_one_relation_iff.mp h).2
    · refine Or.inl ?_
      by_contra howner
      exact h ⟨howner, Or.inl hsome⟩

/-! ## The other queries -/

theorem reports_found (h : (reportOf d payment db query).isSome = true) :
    (enqueued d payment db query).reports = db.reports := if_pos h

theorem rows_created (hfresh : FreshKey d db query) (h : reportOf d payment db query = none) :
    (enqueued d payment db query).reports.rows = db.reports.rows ++
      [newReport (d.reportId query.id) query (d.periodLabel query.dateGrouping) payment.currency] := by
  have hnew : ¬ (reportOf d payment db query).isSome = true := by simp [h]
  have hreport : reportFor d payment db query =
      newReport (d.reportId query.id) query (d.periodLabel query.dateGrouping) payment.currency := by
    rw [reportFor, h]
    rfl
  rw [enqueued, if_neg hnew, hreport]
  apply if_neg
  rw [List.mem_map]
  rintro ⟨r, hr, hid⟩
  exact hfresh.report r hr hid

theorem report_created (hfresh : FreshKey d db query) :
    reportOf d payment (enqueued d payment db query) query = some (reportFor d payment db query) := by
  cases hreport : reportOf d payment db query with
  | some r =>
    rw [reportOf, currentReport, reports_found (by simp [hreport]), reportFor, hreport]
    exact hreport
  | none =>
    rw [reportOf, currentReport, rows_created hfresh hreport, List.find?_append, reportFor, hreport]
    unfold reportOf currentReport at hreport
    rw [hreport]
    simp [newReport]

variable {query' : ReportQuery}

theorem report_other (hfresh : FreshKey d db query) (hne : query'.id ≠ query.id) :
    reportOf d payment (enqueued d payment db query) query' = reportOf d payment db query' := by
  cases hreport : reportOf d payment db query with
  | some r => rw [reportOf, currentReport, reports_found (by simp [hreport]), reportOf, currentReport]
  | none =>
    rw [reportOf, currentReport, rows_created hfresh hreport, List.find?_append]
    have hnot : [newReport (d.reportId query.id) query (d.periodLabel query.dateGrouping) payment.currency].find? (fun r =>
        r.queryId = query'.id ∧ r.periodLabel = d.periodLabel query'.dateGrouping ∧ r.currency = payment.currency ∧
          r.archived = false) = none := by
      simp [newReport, hne.symm]
    rw [hnot, Option.or_none]
    rfl

/-- The report of another query is another report. -/
theorem report_ne (hfresh : FreshKey d db query) (hne : query'.id ≠ query.id) {r : Report ℤ}
    (h : reportOf d payment db query' = some r) : r.id ≠ (reportFor d payment db query).id := by
  obtain ⟨hmem, hquery⟩ := reportOf_key h
  intro hid
  cases hreport : reportOf d payment db query with
  | some found =>
    obtain ⟨hmem', hquery'⟩ := reportOf_key hreport
    have hsame : r = found := List.inj_on_of_nodup_map db.reports.nodup hmem hmem' (by simpa [reportFor, hreport] using hid)
    exact hne (by rw [← hquery, hsame, hquery'])
  | none => exact hfresh.report r hmem (by simpa [reportFor, hreport, newReport] using hid)

theorem has_one_other (hfresh : FreshKey d db query) (hne : query'.id ≠ query.id) :
    HasOneRelation d payment (enqueued d payment db query) query' ↔ HasOneRelation d payment db query' := by
  unfold HasOneRelation
  rw [report_other hfresh hne]
  simp only [relationCount_eq_one]
  cases hreport : reportOf d payment db query' with
  | none => simp
  | some r =>
    have hkey : (r.id, payment.id) ≠
        ReportPaymentRelation.key ⟨(reportFor d payment db query).id, payment.id, query.ownerAccountId, .waiting, ""⟩ :=
      fun h => report_ne hfresh hne hreport (congrArg Prod.fst h)
    simp [enqueued, Table.find_save_of_ne hkey]

theorem insertable_other (hfresh : FreshKey d db query) (hne : query'.id ≠ query.id) :
    Insertable d payment (enqueued d payment db query) query' ↔ Insertable d payment db query' := by
  unfold Insertable
  rw [report_other hfresh hne]
  cases hreport : reportOf d payment db query with
  | some r => rw [reports_found (by simp [hreport])]
  | none =>
    rw [rows_created hfresh hreport]
    simp only [List.mem_append, List.mem_singleton, or_imp, forall_and, forall_eq, newReport]
    have hne' : query.id ≠ query'.id := hne.symm
    simp [hne']

theorem has_one_enqueued (hfresh : FreshKey d db query) :
    HasOneRelation d payment (enqueued d payment db query) query := by
  unfold HasOneRelation
  refine ⟨reportFor d payment db query, report_created hfresh, ?_⟩
  rw [relationCount_eq_one]
  show ((db.relations.save ⟨(reportFor d payment db query).id, payment.id, query.ownerAccountId, .waiting, ""⟩).find
    (ReportPaymentRelation.key ⟨(reportFor d payment db query).id, payment.id, query.ownerAccountId, .waiting, ""⟩)).isSome = true
  rw [Table.find_save_self]
  rfl

theorem FreshKey.other (hfresh : FreshKey d db query) (hfresh' : FreshKey d db query')
    (hne : d.reportId query.id ≠ d.reportId query'.id) : FreshKey d (enqueued d payment db query) query' := by
  have hreport : (reportFor d payment db query).id ≠ d.reportId query'.id := by
    cases hreport : reportOf d payment db query with
    | some r => simpa [reportFor, hreport] using hfresh'.report r (reportOf_key hreport).1
    | none => simpa [reportFor, hreport, newReport] using hne
  constructor
  · intro r hr
    cases hfound : reportOf d payment db query with
    | some found =>
      rw [reports_found (by simp [hfound])] at hr
      exact hfresh'.report r hr
    | none =>
      rw [rows_created hfresh hfound, List.mem_append, List.mem_singleton] at hr
      rcases hr with hr | rfl
      · exact hfresh'.report r hr
      · exact hne
  · intro r hr
    rcases Table.mem_save.mp hr with rfl | ⟨hr, -⟩
    · exact hreport
    · exact hfresh'.relation r hr

end Enqueue

/-! ## The loop -/

theorem FreshKeys.key {d : Delivery} {db : Db} {queries : List ReportQuery} (h : FreshKeys d db queries)
    {query : ReportQuery} (hmem : query ∈ queries) : FreshKey d db query := ⟨h.report query hmem, h.relation query hmem⟩

/-- The loop stops at the first query that has the payment. -/
theorem enqueue_all_spec (d : Delivery) (payment : Payment) (queries : List ReportQuery) (db : Db)
    (hnodup : (queries.map ReportQuery.id).Nodup) (hfresh : FreshKeys d db queries) :
    ∃ db', ((∃ u, Runs (queries.forM (enqueue d payment)) db u db') ∨ Aborts (queries.forM (enqueue d payment)) db db') ∧
      (∀ query, query.id ∉ queries.map ReportQuery.id →
        (HasOneRelation d payment db' query ↔ HasOneRelation d payment db query)) ∧
      ((∀ query ∈ queries, HasOneRelation d payment db' query) ↔ Deliverable d payment db queries) := by
  induction queries generalizing db with
  | nil => exact ⟨db, Or.inl ⟨(), runs_pure () db⟩, fun _ _ => Iff.rfl, by simp [Deliverable]⟩
  | cons query rest ih =>
    rw [List.map_cons, List.nodup_cons] at hnodup
    have hkey : FreshKey d db query := hfresh.key List.mem_cons_self
    have hne : ∀ query' ∈ rest, query'.id ≠ query.id := fun query' hmem heq =>
      hnodup.1 (heq ▸ List.mem_map_of_mem hmem)
    by_cases hstops : HasOneRelation d payment db query ∨ ¬ Insertable d payment db query
    · refine ⟨db, Or.inr ((enqueue_aborts hkey hstops).bind _), fun _ _ => Iff.rfl, ?_⟩
      unfold Deliverable
      rw [List.pairwise_cons]
      constructor
      · intro h
        refine ⟨fun q hq => Or.inl (h q hq), fun q hq _ => h q (List.mem_cons_of_mem _ hq), ?_⟩
        exact List.pairwise_of_forall_mem_list fun _ _ q' hq' _ => h q' (List.mem_cons_of_mem _ hq')
      · rintro ⟨heach, hhead, -⟩
        have hhas : HasOneRelation d payment db query := by
          rcases hstops with h | h
          · exact h
          · exact (heach query List.mem_cons_self).resolve_right h
        intro q hq
        rcases List.mem_cons.mp hq with rfl | hq
        · exact hhas
        · exact hhead q hq hhas
    · push Not at hstops
      obtain ⟨hnot, hinsertable⟩ := hstops
      have hfresh' : FreshKeys d (enqueued d payment db query) rest := by
        have hother (q : ReportQuery) (hq : q ∈ rest) : FreshKey d (enqueued d payment db query) q :=
          hkey.other (hfresh.key (List.mem_cons_of_mem _ hq)) fun h => hne q hq
            (hfresh.single _ List.mem_cons_self _ (List.mem_cons_of_mem _ hq) h).symm
        exact ⟨fun q hq => (hother q hq).report, fun q hq => (hother q hq).relation, fun q hq q' hq' =>
          hfresh.single q (List.mem_cons_of_mem _ hq) q' (List.mem_cons_of_mem _ hq')⟩
      obtain ⟨db', hend, hothers, hall⟩ := ih (enqueued d payment db query) hnodup.2 hfresh'
      have hruns := enqueue_runs hkey hnot hinsertable
      refine ⟨db', ?_, fun q hq => ?_, ?_⟩
      · rcases hend with ⟨u, hend⟩ | hend
        · exact Or.inl ⟨u, hruns.bind hend⟩
        · exact Or.inr (hruns.bind_aborts hend)
      · rw [List.map_cons, List.mem_cons, not_or] at hq
        rw [hothers q hq.2, has_one_other hkey hq.1]
      · have hdone : HasOneRelation d payment db' query := (hothers query hnodup.1).mpr (has_one_enqueued hkey)
        rw [List.forall_mem_cons]
        have hframe : Deliverable d payment (enqueued d payment db query) rest ↔ Deliverable d payment db rest := by
          unfold Deliverable
          apply and_congr
          · exact forall₂_congr fun q hq => or_congr (has_one_other hkey (hne q hq)) (insertable_other hkey (hne q hq))
          · exact List.Pairwise.iff_of_mem fun hq hq' =>
              imp_congr (has_one_other hkey (hne _ hq)) (has_one_other hkey (hne _ hq'))
        simp only [hdone, true_and, hall, hframe]
        unfold Deliverable
        rw [List.forall_mem_cons, List.pairwise_cons]
        constructor
        · rintro ⟨heach, hpairs⟩
          exact ⟨⟨Or.inr hinsertable, heach⟩, fun _ _ h => absurd h hnot, hpairs⟩
        · exact fun ⟨⟨_, heach⟩, _, hpairs⟩ => ⟨heach, hpairs⟩

/-! ## The queries that match -/

/-- The queries are stored and distinct. -/
structure Listed (db : Db) (queries : List ReportQuery) : Prop where
  stored : ∀ query ∈ queries, query ∈ db.queries.rows
  nodup : (queries.map ReportQuery.id).Nodup

theorem mem_queriesOfAccount {accountId currency : String} {db : Db} {query : ReportQuery} :
    query ∈ queriesOfAccount accountId currency db ↔ query ∈ db.queries.rows ∧ query.ownerAccountId = some accountId ∧
      query.currency = some currency ∧ query.reportType ∈ sellerReportTypes := by
  simp [queriesOfAccount]

theorem add_queries_spec {d : Delivery} {payment : Payment} {acc queries : List ReportQuery} {account : Option String}
    {s t : Session HttpError Db} (h : Returns (addQueriesOfSeller d payment acc account) s queries t) :
    ∃ accountId created, account = some accountId ∧
      queries = acc ++ (queriesOfAccount accountId payment.currency s.db ++ created) ∧
      (∀ query ∈ created, query.ownerAccountId = some accountId ∧ query.reportType ∈ sellerReportTypes) ∧
      (created.map ReportQuery.id).Nodup ∧ (∀ query ∈ created, s.db.queries.find query.id = none) ∧
      t.db = { s.db with queries := s.db.queries.saveAll created } := by
  unfold addQueriesOfSeller ensureDailyQueries at h
  simp only [returns_bind, returns_check, returns_pure, orThrow_eq_ok, require_eq_ok] at h
  obtain ⟨accountId, _, ⟨haccount, rfl⟩, daily, _, ⟨_, _, ⟨-, rfl⟩, found, v, hfound, unique, w, hunique, _, _, ⟨hnew, rfl⟩,
    _, x, hsave, rfl, rfl⟩, rfl, rfl⟩ := h
  obtain ⟨rfl, hv⟩ := returns_find hfound
  obtain ⟨rfl, hw⟩ := returns_find hunique
  rw [decide_eq_true_eq, hv] at hnew
  refine ⟨accountId, _, ?_, rfl, ?_, hnew.1, hnew.2, ?_⟩
  · exact (Option.filter_eq_some_iff.mp haccount).1
  · intro query hquery
    obtain ⟨type, htype, rfl⟩ := List.mem_map.mp hquery
    exact ⟨rfl, (List.mem_filter.mp htype).1⟩
  · rw [returns_save hsave, hw, hv]

theorem mem_saveAll_new {db : Db} {created : List ReportQuery} (hnodup : (created.map ReportQuery.id).Nodup)
    (hnew : ∀ query ∈ created, db.queries.find query.id = none) {query : ReportQuery}
    (h : query ∈ db.queries.rows ∨ query ∈ created) : query ∈ (db.queries.saveAll created).rows := by
  apply Table.mem_of_find (k := query.id)
  rw [Table.find_saveAll _ hnodup]
  rcases h with h | h
  · have hnone : created.find? (fun r => r.id = query.id) = none := by
      apply List.find?_eq_none.mpr
      intro r hr hid
      have hfind := hnew r hr
      rw [show r.id = query.id by simpa using hid, Table.find_of_mem h] at hfind
      simp at hfind
    rw [hnone, Option.none_or]
    exact Table.find_of_mem h
  · cases hfind : created.find? (fun r => r.id = query.id) with
    | none => exact absurd (List.find?_eq_none.mp hfind query h) (by simp)
    | some r =>
      have hid : r.id = query.id := by simpa using List.find?_some hfind
      rw [List.inj_on_of_nodup_map hnodup (List.mem_of_find?_eq_some hfind) h hid]
      rfl

/-- The queries of another account are added. -/
theorem Listed.add {d : Delivery} {payment : Payment} {acc queries : List ReportQuery} {account : Option String}
    {s t : Session HttpError Db} (hacc : Listed s.db acc)
    (hother : ∀ query ∈ acc, query.reportType ∈ sellerReportTypes → query.ownerAccountId ≠ account)
    (h : Returns (addQueriesOfSeller d payment acc account) s queries t) :
    Listed t.db queries ∧ ∀ query ∈ queries, query ∈ acc ∨ query.ownerAccountId = account := by
  obtain ⟨accountId, created, rfl, rfl, hcreated, hnodup, hnew, ht⟩ := add_queries_spec h
  have hstored : ∀ query, query ∈ s.db.queries.rows ∨ query ∈ created → query ∈ t.db.queries.rows := by
    intro query hquery
    rw [ht]
    exact mem_saveAll_new hnodup hnew hquery
  have hfound : ∀ query ∈ queriesOfAccount accountId payment.currency s.db, query ∈ s.db.queries.rows ∧
      query.ownerAccountId = some accountId ∧ query.reportType ∈ sellerReportTypes := by
    intro query hquery
    obtain ⟨hmem, howner, -, htype⟩ := mem_queriesOfAccount.mp hquery
    exact ⟨hmem, howner, htype⟩
  refine ⟨⟨?_, ?_⟩, ?_⟩
  · intro query hquery
    simp only [List.mem_append] at hquery
    rcases hquery with h | h | h
    · exact hstored query (Or.inl (hacc.stored query h))
    · exact hstored query (Or.inl (hfound query h).1)
    · exact hstored query (Or.inr h)
  · -- stored rows with the same id are the same row, and the owners tell them apart
    simp only [List.map_append, List.nodup_append, List.mem_append, List.mem_map]
    refine ⟨hacc.nodup, ⟨?_, hnodup, ?_⟩, ?_⟩
    · exact s.db.queries.nodup.sublist (List.filter_sublist.map _)
    · rintro _ ⟨q, hq, rfl⟩ _ ⟨q', hq', rfl⟩ hid
      have hfind := hnew q' hq'
      rw [← hid, Table.find_of_mem (hfound q hq).1] at hfind
      simp at hfind
    · rintro _ ⟨q, hq, rfl⟩ id hid hsame
      subst hsame
      rcases hid with ⟨q', hq', hid⟩ | ⟨q', hq', hid⟩
      · obtain ⟨hmem, howner, htype⟩ := hfound q' hq'
        obtain rfl : q' = q := List.inj_on_of_nodup_map s.db.queries.nodup hmem (hacc.stored q hq) hid
        exact hother q' hq htype howner
      · have hfind := hnew q' hq'
        rw [hid, Table.find_of_mem (hacc.stored q hq)] at hfind
        simp at hfind
  · intro query hquery
    simp only [List.mem_append] at hquery
    rcases hquery with h | h | h
    · exact Or.inl h
    · exact Or.inr (hfound query h).2.1
    · exact Or.inr (hcreated query h).1

theorem nodup_sellerAccountIds (payment : Payment) : (sellerAccountIds payment).Nodup := by
  unfold sellerAccountIds
  have hsome : (((payment.items.rows.map (·.sellerAccountId)).filterMap id).dedup.insertionSort (· ≤ ·)).Nodup :=
    (List.perm_insertionSort _ _).nodup_iff.mpr (List.nodup_dedup _)
  dsimp only
  split
  · rw [List.nodup_append]
    refine ⟨hsome.map (Option.some_injective _), List.nodup_singleton _, ?_⟩
    intro a ha b hb
    obtain ⟨x, -, rfl⟩ := List.mem_map.mp ha
    rw [List.mem_singleton.mp hb]
    simp
  · rw [List.append_nil]
    exact hsome.map (Option.some_injective _)

theorem find_matching_queries_listed {d : Delivery} {payment : Payment} {queries : List ReportQuery}
    {s t : Session HttpError Db} (h : Returns (findMatchingQueries d payment) s queries t) : Listed t.db queries := by
  have hloop : ∀ (accounts : List (Option String)) (acc : List ReportQuery) (s : Session HttpError Db), accounts.Nodup →
      Listed s.db acc → (∀ query ∈ acc, query.reportType ∈ sellerReportTypes → query.ownerAccountId ∉ accounts) →
      Returns (accounts.foldlM (addQueriesOfSeller d payment) acc) s queries t → Listed t.db queries := by
    intro accounts
    induction accounts with
    | nil =>
      intro acc s _ hacc _ h
      obtain ⟨rfl, rfl⟩ := returns_pure.mp h
      exact hacc
    | cons account accounts ih =>
      intro acc s hnodup hacc hother h
      rw [List.nodup_cons] at hnodup
      obtain ⟨acc', u, hadd, hrest⟩ := returns_foldlM_cons.mp h
      obtain ⟨hacc', howners⟩ := hacc.add (fun q hq htype howner => hother q hq htype (howner ▸ List.mem_cons_self)) hadd
      refine ih acc' u hnodup.2 hacc' (fun q hq htype hmem => ?_) hrest
      rcases howners q hq with hq | howner
      · exact hother q hq htype (List.mem_cons_of_mem _ hmem)
      · exact hnodup.1 (howner ▸ hmem)
  unfold findMatchingQueries at h
  obtain ⟨existing, u, hfind, hrest⟩ := returns_bind.mp h
  obtain ⟨rfl, hu⟩ := returns_find hfind
  refine hloop _ _ u (nodup_sellerAccountIds payment) ?_ ?_ hrest
  · rw [hu]
    refine ⟨fun q hq => (List.mem_filter.mp hq).1, ?_⟩
    exact s.db.queries.nodup.sublist (List.filter_sublist.map _)
  · intro q hq htype
    have hplatform : q.currency = some payment.currency ∧ q.reportType ∈ platformReportTypes :=
      of_decide_eq_true (List.mem_filter.mp hq).2
    have hdisjoint : ∀ type ∈ sellerReportTypes, type ∉ platformReportTypes := by decide
    exact absurd hplatform.2 (hdisjoint q.reportType htype)

theorem find_matching_queries_regular (d : Delivery) (payment : Payment) : Regular (findMatchingQueries d payment) := by
  unfold findMatchingQueries
  apply (regular_statement _).bind
  intro existing
  apply regular_foldlM
  intro queries account
  unfold addQueriesOfSeller
  apply (regular_check _).bind
  intro accountId
  apply Regular.bind
  · unfold ensureDailyQueries
    exact (regular_check _).bind fun _ => (regular_statement _).bind fun _ => (regular_statement _).bind fun _ =>
      (regular_check _).bind fun _ => (regular_statement _).bind fun _ => regular_pure _
  · exact fun _ => regular_pure _

/-! ## Redelivery -/

/-- **Redelivery.** Wherever the first delivery stops, the second one leaves every matching query with one
relation for the payment exactly when it finds no query that has the payment before one that lacks it. -/
theorem redelivery_complete (first second : Delivery) (payment : Payment) (db : Db) (failure : ℕ → Option HttpError)
    (queries : List ReportQuery) (v : Session HttpError Db)
    (hmatch : Returns (findMatchingQueries second payment)
      { db := left (insertPaymentToReportDigestionQueueCameFromEvent first payment) { db := db, failure := failure } }
      queries v)
    (hfresh : FreshKeys second v.db queries) :
    (∀ query ∈ queries, HasOneRelation second payment
      (left (insertPaymentToReportDigestionQueueCameFromEvent second payment)
        { db := left (insertPaymentToReportDigestionQueueCameFromEvent first payment) { db := db, failure := failure } })
      query) ↔ Deliverable second payment v.db queries := by
  obtain ⟨db', hend, -, hall⟩ :=
    enqueue_all_spec second payment queries v.db (find_matching_queries_listed hmatch).nodup hfresh
  have hleft : left (insertPaymentToReportDigestionQueueCameFromEvent second payment)
      { db := left (insertPaymentToReportDigestionQueueCameFromEvent first payment) { db := db, failure := failure } } = db' :=
    ((find_matching_queries_regular second payment).runs hmatch).left_bind hend
  rw [hleft]
  exact hall

/-! ## A stop after the first relation -/

def sampleDelivery (name : String) : Delivery where
  periodLabel := fun _ => "2026-01-05"
  hasAccount := fun _ => true
  queryId := fun accountId type => accountId ++ (if type = .seller then "-seller" else "-comission")
  reportId := fun queryId => name ++ queryId

def saleOf (seller : String) : Payment :=
  samplePayment "sale" .purchase (Table.empty.save { sampleItem "line-1" "book" 1100000 100000 100000 with
    sellerAccountId := some seller })

def flowDb : Db :=
  { Db.empty with queries := Table.empty.saveAll [⟨"flow", some "operator", some "TRY", .daily, .platformFlow⟩] }

def loses (statement n : ℕ) : Option HttpError := if n = statement then some (.internal "Connection lost") else none

/-- After the first delivery, which stops at a statement. -/
def stoppedAt (statement : ℕ) : Db :=
  left (insertPaymentToReportDigestionQueueCameFromEvent (sampleDelivery "first-") (saleOf "ana"))
    { db := flowDb, failure := loses statement }

def redelivered (db : Db) : Db :=
  left (insertPaymentToReportDigestionQueueCameFromEvent (sampleDelivery "second-") (saleOf "ana")) { db := db }

def sampleQueries : List ReportQuery :=
  [⟨"flow", some "operator", some "TRY", .daily, .platformFlow⟩, ⟨"ana-seller", some "ana", some "TRY", .daily, .seller⟩,
    ⟨"ana-comission", some "ana", some "TRY", .daily, .platformSeller⟩]

/-- The second delivery stops at the relation that the first one inserted, the only one there will be. -/
theorem redelivery_stops :
    (∃ v, Returns (findMatchingQueries (sampleDelivery "second-") (saleOf "ana")) { db := stoppedAt 9 } sampleQueries v) ∧
    ∀ query ∈ sampleQueries, query.id ≠ "flow" →
      ¬ HasOneRelation (sampleDelivery "second-") (saleOf "ana") (redelivered (stoppedAt 9)) query := by
  have hmatch : Yields (findMatchingQueries (sampleDelivery "second-") (saleOf "ana")) { db := stoppedAt 9 }
      fun queries _ => queries = sampleQueries := by decide +kernel
  obtain ⟨_, v, hv, rfl⟩ := yields_iff.mp hmatch
  exact ⟨⟨v, hv⟩, by decide +kernel⟩

/-- The first delivery stops before its first relation. -/
theorem redelivery_complete_sample : (stoppedAt 7).relations.rows = [] ∧ ∀ query ∈ sampleQueries,
    HasOneRelation (sampleDelivery "second-") (saleOf "ana") (redelivered (stoppedAt 7)) query := by
  have hmatch : Yields (findMatchingQueries (sampleDelivery "second-") (saleOf "ana")) { db := stoppedAt 7 }
      fun queries db => queries = sampleQueries ∧ FreshKeys (sampleDelivery "second-") db queries ∧
        Deliverable (sampleDelivery "second-") (saleOf "ana") db queries := by decide +kernel
  obtain ⟨_, v, hv, rfl, hfresh, hdeliverable⟩ := yields_iff.mp hmatch
  exact ⟨by decide +kernel, (redelivery_complete (sampleDelivery "first-") (sampleDelivery "second-") (saleOf "ana") flowDb
    (loses 7) sampleQueries v hv hfresh).mpr hdeliverable⟩

end Postral.Reports
