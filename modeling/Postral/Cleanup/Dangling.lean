import Postral.Cleanup.Store

/-! # What a cleanup leaves behind -/

open Check

namespace Postral.Cleanup

inductive Target where
  | payment
  | report
  | refundRequest
  deriving DecidableEq

def Db.stored (db : Db) : Target → List String
  | .payment => db.payments.rows.map Payment.id
  | .report => db.reports.rows.map Report.id
  | .refundRequest => db.refundRequests.rows.map PaymentRow.id

/-- The ids that the stored rows name. The aggregate of an event can be any of the three. -/
def Db.references (db : Db) : Target → List String
  | .payment =>
    db.paymentItems.rows.map (·.paymentId) ++ db.paymentItems.rows.filterMap (·.refundPaymentId) ++
      db.paymentTaxes.rows.map (·.paymentId) ++ db.sellerPaymentOrders.rows.map (·.paymentId) ++
      db.invoices.rows.filterMap (·.paymentId) ++ db.refundRequests.rows.map (·.paymentId) ++
      db.accountPaymentTransactions.rows.map (·.paymentId) ++
      db.paymentChannelOperations.rows.filterMap (·.paymentId) ++ db.paymentEvents.rows.map (·.aggregateId) ++
      db.reports.rows.filterMap (·.lastDigestedPaymentId) ++ db.reportPaymentRelations.rows.map (·.paymentId)
  | .report =>
    db.reportPaymentRelations.rows.map (·.reportId) ++ db.reportTaxGroups.rows.map (·.reportId) ++
      db.reportExpenses.rows.map (·.reportId) ++ db.reportItems.rows.map (·.reportId) ++
      db.reportPlatforms.rows.map (·.reportId) ++ db.paymentEvents.rows.map (·.aggregateId)
  | .refundRequest =>
    db.refundRequestItems.rows.map (·.refundRequestId) ++ db.payments.rows.filterMap (·.refundRequestId) ++
      db.paymentEvents.rows.map (·.aggregateId)

/-- No row of the new state names something that only the old state has. -/
def NoDangling (old new : Db) : Prop :=
  ∀ target, ∀ id ∈ old.stored target, id ∉ new.stored target → id ∉ new.references target

/-- The payments that a request asks to delete. -/
def requestedIds (env : Env) (files : Files) (db : Db) (request : PaymentCleanupRequest) : List String :=
  (findPaymentIds env db
    (request.before.orElse fun _ => (files.manifests request.archiveId).bind (·.before))).toOption.getD []

/-- The reports that go with the payments. -/
def relatedReports (db : Db) (paymentIds : List String) : List String :=
  (db.reports.rows.filter (·.id ∈ findAffectedReportIds db paymentIds)).map Report.id

/-- The tables that the cleanup passes over name nothing that it deletes. -/
structure Covered (db : Db) (paymentIds : List String) : Prop where
  reportItems : ∀ item ∈ db.reportItems.rows, item.reportId ∉ relatedReports db paymentIds
  reportPlatforms : ∀ platform ∈ db.reportPlatforms.rows, platform.reportId ∉ relatedReports db paymentIds
  /-- No refund out of scope belongs to a request for a payment in scope. -/
  refunds : ∀ payment ∈ db.payments.rows, payment.id ∉ paymentIds →
    ∀ id ∈ payment.refundRequestId, id ∉ findRefundRequestIds db paymentIds
  events : ∀ event ∈ db.paymentEvents.rows, event.aggregateId ∉ paymentIds →
    event.aggregateId ∉ relatedReports db paymentIds ∧ event.aggregateId ∉ findRefundRequestIds db paymentIds
  lastDigested : ∀ report ∈ db.reports.rows, report.id ∉ findAffectedReportIds db paymentIds →
    ∀ id ∈ report.lastDigestedPaymentId, id ∉ paymentIds

section Cleanup

variable {env : Env} {files : Files} {db db' : Db} {request : PaymentCleanupRequest} {paymentIds : List String}
  {preview : PaymentCleanupPreview}

theorem find_payment_ids_stored {before : Option String} (h : findPaymentIds env db before = .ok paymentIds) :
    ∀ id ∈ paymentIds, id ∈ db.stored .payment := by
  unfold findPaymentIds at h
  simp only [bind_eq_ok, pure_eq_ok] at h
  obtain ⟨date, -, rfl⟩ := h
  intro id hid
  obtain ⟨payment, hpayment, rfl⟩ := List.mem_map.mp hid
  exact List.mem_map.mpr ⟨payment, List.mem_of_mem_filter hpayment, rfl⟩

/-- An accepted cleanup deletes the payments that are asked for. -/
theorem cleanup_spec (h : cleanup env files db request = .ok (preview, db')) :
    preview.paymentIds = requestedIds env files db request ∧
      preview.affectedReportIds = findAffectedReportIds db preview.paymentIds ∧
      (∀ id ∈ preview.paymentIds, id ∈ db.stored .payment) ∧ deleteScope db preview = .ok db' := by
  obtain ⟨manifest, hmanifest, hpreview, -, hdelete⟩ := cleanup_ok h
  unfold Cleanup.preview at hpreview
  simp only [bind_eq_ok, pure_eq_ok] at hpreview
  obtain ⟨-, -, ids, hids, date, -, rfl⟩ := hpreview
  refine ⟨?_, rfl, find_payment_ids_stored hids, hdelete⟩
  unfold requestedIds
  rw [hmanifest, Option.bind_some, hids]
  rfl

theorem mem_find_affected {id : String} :
    id ∈ findAffectedReportIds db paymentIds ↔
      ∃ relation ∈ db.reportPaymentRelations.rows, relation.paymentId ∈ paymentIds ∧ relation.reportId = id := by
  simp [findAffectedReportIds, and_assoc]

/-! ## What is deleted -/

theorem deleted_payment_iff (h : deleteScope db preview = .ok db')
    (hstored : ∀ id ∈ preview.paymentIds, id ∈ db.stored .payment) {id : String} :
    id ∈ db.stored .payment ∧ id ∉ db'.stored .payment ↔ id ∈ preview.paymentIds := by
  rw [delete_scope_spec h]
  refine Table.key_deleted_iff.trans ⟨fun hid => ?_, fun hid => ?_⟩
  · obtain ⟨payment, hpayment, rfl⟩ := List.mem_map.mp hid
    simpa using (List.mem_filter.mp hpayment).2
  · obtain ⟨payment, hpayment, rfl⟩ := List.mem_map.mp (hstored id hid)
    exact List.mem_map.mpr ⟨payment, List.mem_filter.mpr ⟨hpayment, by simpa using hid⟩, rfl⟩

theorem deleted_report_iff (h : deleteScope db preview = .ok db')
    (haffected : preview.affectedReportIds = findAffectedReportIds db preview.paymentIds) {id : String} :
    id ∈ db.stored .report ∧ id ∉ db'.stored .report ↔ id ∈ relatedReports db preview.paymentIds := by
  rw [delete_scope_spec h, haffected]
  exact Table.key_deleted_iff

theorem deleted_request_iff (h : deleteScope db preview = .ok db') {id : String} :
    id ∈ db.stored .refundRequest ∧ id ∉ db'.stored .refundRequest ↔
      id ∈ findRefundRequestIds db preview.paymentIds := by
  rw [delete_scope_spec h]
  exact Table.key_deleted_iff

/-! ## What is still named -/

theorem payment_references_iff (h : deleteScope db preview = .ok db')
    (haffected : preview.affectedReportIds = findAffectedReportIds db preview.paymentIds) :
    (∀ id ∈ preview.paymentIds, id ∉ db'.references .payment) ↔
      ∀ report ∈ db.reports.rows, report.id ∉ findAffectedReportIds db preview.paymentIds →
        ∀ id ∈ report.lastDigestedPaymentId, id ∉ preview.paymentIds := by
  rw [delete_scope_spec h, haffected]
  constructor
  · intro hclean report hreport hkept id hlast hid
    apply hclean id hid
    simp only [Db.references, List.mem_append, List.mem_filterMap, Table.mem_delete]
    exact Or.inl (Or.inr ⟨report, ⟨hreport, hkept⟩, hlast⟩)
  · intro hlast id hid href
    simp only [Db.references, List.mem_append, List.mem_map, List.mem_filterMap, Table.mem_delete] at href
    rcases href with (hother | hreport) | hrelation
    · -- the rows of these tables go with the payments that they name
      grind
    · obtain ⟨report, ⟨hreport, hkept⟩, hdigested⟩ := hreport
      exact hlast report hreport hkept id hdigested hid
    · obtain ⟨relation, ⟨hrelation, hkept⟩, rfl⟩ := hrelation
      exact hkept (mem_find_affected.mpr ⟨relation, hrelation, hid, rfl⟩)

theorem report_references_iff (h : deleteScope db preview = .ok db')
    (haffected : preview.affectedReportIds = findAffectedReportIds db preview.paymentIds) :
    (∀ id ∈ relatedReports db preview.paymentIds, id ∉ db'.references .report) ↔
      (∀ item ∈ db.reportItems.rows, item.reportId ∉ relatedReports db preview.paymentIds) ∧
      (∀ platform ∈ db.reportPlatforms.rows, platform.reportId ∉ relatedReports db preview.paymentIds) ∧
      ∀ event ∈ db.paymentEvents.rows, event.aggregateId ∉ preview.paymentIds →
        event.aggregateId ∉ relatedReports db preview.paymentIds := by
  have hrelated : ∀ id ∈ relatedReports db preview.paymentIds, id ∈ findAffectedReportIds db preview.paymentIds := by
    intro id hid
    obtain ⟨report, hreport, rfl⟩ := List.mem_map.mp hid
    simpa using (List.mem_filter.mp hreport).2
  rw [delete_scope_spec h, haffected]
  simp only [Db.references, List.mem_append, List.mem_map, Table.mem_delete]
  constructor
  · intro hclean
    refine ⟨fun item hitem hid => ?_, fun platform hplatform hid => ?_, fun event hevent hkept hid => ?_⟩
    · exact hclean _ hid (Or.inl (Or.inl (Or.inr ⟨item, hitem, rfl⟩)))
    · exact hclean _ hid (Or.inl (Or.inr ⟨platform, hplatform, rfl⟩))
    · exact hclean _ hid (Or.inr ⟨event, ⟨hevent, hkept⟩, rfl⟩)
  · rintro ⟨hitems, hplatforms, hevents⟩ id hid (((((href | href) | href) | href) | href) | href)
    · obtain ⟨relation, ⟨-, hkept⟩, rfl⟩ := href
      exact hkept (hrelated _ hid)
    · obtain ⟨group, ⟨-, hkept⟩, rfl⟩ := href
      exact hkept (hrelated _ hid)
    · obtain ⟨expense, ⟨-, hkept⟩, rfl⟩ := href
      exact hkept (hrelated _ hid)
    · obtain ⟨item, hitem, rfl⟩ := href
      exact hitems item hitem hid
    · obtain ⟨platform, hplatform, rfl⟩ := href
      exact hplatforms platform hplatform hid
    · obtain ⟨event, ⟨hevent, hkept⟩, rfl⟩ := href
      exact hevents event hevent hkept hid

theorem request_references_iff (h : deleteScope db preview = .ok db') :
    (∀ id ∈ findRefundRequestIds db preview.paymentIds, id ∉ db'.references .refundRequest) ↔
      (∀ payment ∈ db.payments.rows, payment.id ∉ preview.paymentIds →
        ∀ id ∈ payment.refundRequestId, id ∉ findRefundRequestIds db preview.paymentIds) ∧
      ∀ event ∈ db.paymentEvents.rows, event.aggregateId ∉ preview.paymentIds →
        event.aggregateId ∉ findRefundRequestIds db preview.paymentIds := by
  rw [delete_scope_spec h]
  simp only [Db.references, List.mem_append, List.mem_map, List.mem_filterMap, Table.mem_delete]
  constructor
  · intro hclean
    refine ⟨fun payment hpayment hkept id hrequest hid => ?_, fun event hevent hkept hid => ?_⟩
    · exact hclean id hid (Or.inl (Or.inr ⟨payment, ⟨hpayment, hkept⟩, hrequest⟩))
    · exact hclean _ hid (Or.inr ⟨event, ⟨hevent, hkept⟩, rfl⟩)
  · rintro ⟨hpayments, hevents⟩ id hid ((href | href) | href)
    · obtain ⟨item, ⟨-, hkept⟩, rfl⟩ := href
      exact hkept hid
    · obtain ⟨payment, ⟨hpayment, hkept⟩, hrequest⟩ := href
      exact hpayments payment hpayment hkept id hrequest hid
    · obtain ⟨event, ⟨hevent, hkept⟩, rfl⟩ := href
      exact hevents event hevent hkept hid

theorem no_dangling_iff_covered (h : deleteScope db preview = .ok db')
    (haffected : preview.affectedReportIds = findAffectedReportIds db preview.paymentIds)
    (hstored : ∀ id ∈ preview.paymentIds, id ∈ db.stored .payment) :
    NoDangling db db' ↔ Covered db preview.paymentIds := by
  constructor
  · intro hclean
    have hpayments := (payment_references_iff h haffected).mp fun id hid =>
      let hdeleted := (deleted_payment_iff h hstored).mpr hid
      hclean .payment id hdeleted.1 hdeleted.2
    have hreports := (report_references_iff h haffected).mp fun id hid =>
      let hdeleted := (deleted_report_iff h haffected).mpr hid
      hclean .report id hdeleted.1 hdeleted.2
    have hrequests := (request_references_iff h).mp fun id hid =>
      let hdeleted := (deleted_request_iff h).mpr hid
      hclean .refundRequest id hdeleted.1 hdeleted.2
    exact ⟨hreports.1, hreports.2.1, hrequests.1, fun event hevent hkept =>
      ⟨hreports.2.2 event hevent hkept, hrequests.2 event hevent hkept⟩, hpayments⟩
  · intro hcovered target id hid hgone
    cases target with
    | payment =>
      exact (payment_references_iff h haffected).mpr hcovered.lastDigested id
        ((deleted_payment_iff h hstored).mp ⟨hid, hgone⟩)
    | report =>
      exact (report_references_iff h haffected).mpr ⟨hcovered.reportItems, hcovered.reportPlatforms,
        fun event hevent hkept => (hcovered.events event hevent hkept).1⟩ id
        ((deleted_report_iff h haffected).mp ⟨hid, hgone⟩)
    | refundRequest =>
      exact (request_references_iff h).mpr ⟨hcovered.refunds,
        fun event hevent hkept => (hcovered.events event hevent hkept).2⟩ id
        ((deleted_request_iff h).mp ⟨hid, hgone⟩)

end Cleanup

/-- An accepted cleanup leaves no row that names something deleted exactly when the tables that it
passes over name nothing of it. -/
theorem cleanup_leaves_no_dangling_iff (env : Env) (files : Files) (db db' : Db) (request : PaymentCleanupRequest)
    (preview : PaymentCleanupPreview) (h : cleanup env files db request = .ok (preview, db')) :
    NoDangling db db' ↔ Covered db (requestedIds env files db request) := by
  obtain ⟨hrequested, haffected, hstored, hdelete⟩ := cleanup_spec h
  rw [← hrequested]
  exact no_dangling_iff_covered hdelete haffected hstored

/-! ## A report with an item -/

def archiveId : String := "00000000-0000-0000-0000-000000000000"

def plainEnv : Env := ⟨true, fun _ => some 0, fun _ => "sum"⟩

/-- One archive, of all payments. -/
def archiveOf (db : Db) : Files where
  manifests id := if id = archiveId then some ⟨archiveId, "dump", "sum", none, db.payments.rows.length⟩ else none
  dumps path := if path = "dump" then some db else none

def requestAll : PaymentCleanupRequest := ⟨⟨none⟩, archiveId, "DELETE_PAYMENT_DATA"⟩

def digestedPayment : Db where
  payments := Table.empty.save ⟨"p", 0, none⟩
  reports := Table.empty.save ⟨"r", some "p"⟩
  reportPaymentRelations := Table.empty.save ⟨"rp", "p", "r"⟩

def itemisedPayment : Db := { digestedPayment with reportItems := Table.empty.save ⟨"i", "r"⟩ }

theorem cleanup_leaves_no_dangling_sample :
    ∃ preview db', cleanup plainEnv (archiveOf digestedPayment) digestedPayment requestAll = .ok (preview, db') ∧
      NoDangling digestedPayment db' := by
  have hok : (cleanup plainEnv (archiveOf digestedPayment) digestedPayment requestAll).isOk = true := by decide +kernel
  obtain ⟨⟨preview, db'⟩, hcleanup⟩ : ∃ result,
      cleanup plainEnv (archiveOf digestedPayment) digestedPayment requestAll = .ok result := by
    cases hresult : cleanup plainEnv (archiveOf digestedPayment) digestedPayment requestAll with
    | ok result => exact ⟨result, rfl⟩
    | error e => simp [hresult, Except.isOk, Except.toBool] at hok
  refine ⟨preview, db', hcleanup, (cleanup_leaves_no_dangling_iff _ _ _ _ _ _ hcleanup).mpr ?_⟩
  constructor <;> decide +kernel

/-- The item of the report outlives the report. -/
theorem cleanup_leaves_report_item :
    ¬ ∀ (env : Env) (files : Files) (db db' : Db) (request : PaymentCleanupRequest) (preview : PaymentCleanupPreview),
      cleanup env files db request = .ok (preview, db') → NoDangling db db' := by
  intro hall
  have hbad : ∃ result ∈ (cleanup plainEnv (archiveOf itemisedPayment) itemisedPayment requestAll).toOption,
      "r" ∉ result.2.stored .report ∧ "r" ∈ result.2.references .report := by decide +kernel
  obtain ⟨⟨preview, db'⟩, hresult, hgone, hnamed⟩ := hbad
  have hcleanup := toOption_eq_some.mp hresult
  exact hall plainEnv _ itemisedPayment db' requestAll preview hcleanup .report "r" (by decide +kernel) hgone hnamed

end Postral.Cleanup
