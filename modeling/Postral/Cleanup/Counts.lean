import Postral.Cleanup.Dangling

/-!
# The counts of a preview

Most tables are counted by the test that deletes their rows. The events, the relations of reports, the
reports and the payment items are not.
-/

open Check

namespace Postral.Cleanup

/-- The rows of the tables that a preview counts. -/
def Db.size (db : Db) (table : String) : ℕ :=
  match table with
  | "payment" => db.payments.rows.length
  | "postral_payment_item" => db.paymentItems.rows.length
  | "postral_payment_tax" => db.paymentTaxes.rows.length
  | "seller_payment_order" => db.sellerPaymentOrders.rows.length
  | "invoice" => db.invoices.rows.length
  | "refund_request" => db.refundRequests.rows.length
  | "refund_request_item" => db.refundRequestItems.rows.length
  | "account_payment_transaction" => db.accountPaymentTransactions.rows.length
  | "payment_channel_operation" => db.paymentChannelOperations.rows.length
  | "postral_payment_event" => db.paymentEvents.rows.length
  | "report_payment_relation" => db.reportPaymentRelations.rows.length
  | "report" => db.reports.rows.length
  | "report_tax_group" => db.reportTaxGroups.rows.length
  | "report_expense" => db.reportExpenses.rows.length
  | _ => 0

/-- Each count is the number of rows that are gone. -/
def CountsDeleted (counts : List (String × ℕ)) (old new : Db) : Prop :=
  ∀ entry ∈ counts, old.size entry.1 = new.size entry.1 + entry.2

instance (counts : List (String × ℕ)) (old new : Db) : Decidable (CountsDeleted counts old new) := by
  unfold CountsDeleted
  infer_instance

/-- The scope of a request: its own date, or that of its archive. -/
def scopeOf (files : Files) (request : PaymentCleanupRequest) : PaymentCleanupOptions :=
  ⟨request.before.orElse fun _ => (files.manifests request.archiveId).bind (·.before)⟩

def scopeDate (env : Env) (options : PaymentCleanupOptions) : Option ℤ :=
  (parseBefore env options.before).toOption.getD none

/-- The payments in scope share no row with what is out of scope. -/
structure SelfContained (db : Db) (paymentIds : List String) (date : Option ℤ) : Prop where
  /-- Their events are in scope too. -/
  events : ∀ event ∈ db.paymentEvents.rows, event.aggregateId ∈ paymentIds → ∀ d ∈ date, event.occurredAt < d
  /-- Their reports have no other payments. -/
  relations : ∀ relation ∈ db.reportPaymentRelations.rows, relation.reportId ∈ findAffectedReportIds db paymentIds →
    relation.paymentId ∈ paymentIds
  /-- Their reports are stored, as the foreign key of the relations has it. -/
  reports : ∀ id ∈ findAffectedReportIds db paymentIds, id ∈ db.stored .report
  /-- They refund no item of another payment. -/
  refundItems : ∀ item ∈ db.paymentItems.rows, ∀ id ∈ item.refundPaymentId, id ∈ paymentIds → item.paymentId ∈ paymentIds

instance (db : Db) (paymentIds : List String) (date : Option ℤ) : Decidable (SelfContained db paymentIds date) :=
  decidable_of_iff _ ⟨fun h => ⟨h.1, h.2.1, h.2.2.1, h.2.2.2⟩,
    fun h => And.intro h.events (And.intro h.relations (And.intro h.reports h.refundItems))⟩

section Counts

variable {env : Env} {db : Db} {paymentIds : List String}

/-- A count that is right for the rows that a deletion takes. -/
theorem count_eq_iff {ρ : Type} {key : ρ → String} (t : Table key) (p : ρ → Prop) [DecidablePred p] (n : ℕ) :
    t.rows.length = (t.delete p).rows.length + n ↔ t.rows.countP p = n := by
  rw [t.length_delete p]
  omega

theorem count_where_eq {ρ : Type} {key : ρ → String} (t : Table key) (p : ρ → Prop) [DecidablePred p] :
    t.rows.length = (t.delete p).rows.length + countWhere t p := (count_eq_iff t p _).mpr rfl

theorem count_events_iff (db : Db) (paymentIds : List String) (date : Option ℤ) :
    db.paymentEvents.rows.length =
        (db.paymentEvents.delete (·.aggregateId ∈ paymentIds)).rows.length + countPaymentEvents db paymentIds date ↔
      ∀ event ∈ db.paymentEvents.rows, event.aggregateId ∈ paymentIds → ∀ d ∈ date, event.occurredAt < d := by
  rw [count_eq_iff, countPaymentEvents, countWhere, List.countP_eq_iff_of_imp]
  · simp only [decide_eq_true_eq]
    constructor
    · intro h event hevent hid
      exact (h event hevent hid).2
    · intro h event hevent hid
      exact ⟨hid, h event hevent hid⟩
  · simp only [decide_eq_true_eq]
    exact fun event _ h => h.1

theorem count_relations_iff (db : Db) (paymentIds : List String) :
    db.reportPaymentRelations.rows.length =
        (db.reportPaymentRelations.delete (·.reportId ∈ findAffectedReportIds db paymentIds)).rows.length +
          countWhere db.reportPaymentRelations (·.paymentId ∈ paymentIds) ↔
      ∀ relation ∈ db.reportPaymentRelations.rows, relation.reportId ∈ findAffectedReportIds db paymentIds →
        relation.paymentId ∈ paymentIds := by
  rw [count_eq_iff, countWhere, List.countP_eq_iff_of_imp]
  · simp only [decide_eq_true_eq]
  · simp only [decide_eq_true_eq]
    exact fun relation hrelation h => mem_find_affected.mpr ⟨relation, hrelation, h, rfl⟩

theorem count_items_iff (db : Db) (paymentIds : List String) :
    db.paymentItems.rows.length =
        (db.paymentItems.delete fun item =>
          item.paymentId ∈ paymentIds ∨ ∃ id ∈ item.refundPaymentId, id ∈ paymentIds).rows.length +
          countWhere db.paymentItems (·.paymentId ∈ paymentIds) ↔
      ∀ item ∈ db.paymentItems.rows, ∀ id ∈ item.refundPaymentId, id ∈ paymentIds → item.paymentId ∈ paymentIds := by
  rw [count_eq_iff, countWhere, List.countP_eq_iff_of_imp]
  · simp only [decide_eq_true_eq]
    constructor
    · intro h item hitem id hrefund hid
      exact h item hitem (Or.inr ⟨id, hrefund, hid⟩)
    · rintro h item hitem (hid | ⟨id, hrefund, hid⟩)
      · exact hid
      · exact h item hitem id hrefund hid
  · simp only [decide_eq_true_eq]
    exact fun item _ h => Or.inl h

/-- Different keys are counted right where all of them are stored. -/
theorem count_keys_iff {ρ : Type} {key : ρ → String} (t : Table key) (ids : List String) (hids : ids.Nodup) :
    t.rows.length = (t.delete fun r => key r ∈ ids).rows.length + ids.length ↔ ∀ id ∈ ids, id ∈ t.rows.map key := by
  rw [count_eq_iff, ← List.countP_mem_eq_length_iff hids t.nodup, List.countP_map]
  rfl

theorem find_payment_ids_nodup {before : Option String} (h : findPaymentIds env db before = .ok paymentIds) :
    paymentIds.Nodup := by
  unfold findPaymentIds at h
  simp only [bind_eq_ok, pure_eq_ok] at h
  obtain ⟨date, -, rfl⟩ := h
  exact db.payments.nodup.sublist (List.filter_sublist.map _)

end Counts

/-- **Counts.** The counts of a preview are the rows that the cleanup of the same scope deletes exactly
when the payments in scope share no row with what is out of scope. -/
theorem preview_counts_iff (env : Env) (files : Files) (db db' : Db) (request : PaymentCleanupRequest)
    (counted cleaned : PaymentCleanupPreview) (hpreview : preview env db (scopeOf files request) = .ok counted)
    (hcleanup : cleanup env files db request = .ok (cleaned, db')) :
    CountsDeleted counted.counts db db' ↔
      SelfContained db counted.paymentIds (scopeDate env (scopeOf files request)) := by
  obtain ⟨manifest, hmanifest, hcleaned, -, hdelete⟩ := cleanup_ok hcleanup
  have hsame : cleaned = counted := by
    have hscope : scopeOf files request = ⟨request.before.orElse fun _ => manifest.before⟩ := by
      rw [scopeOf, hmanifest]
      rfl
    rw [hscope, hcleaned] at hpreview
    exact Except.ok.inj hpreview
  subst hsame
  unfold preview at hpreview
  simp only [bind_eq_ok, pure_eq_ok] at hpreview
  obtain ⟨-, -, ids, hids, date, hdate, rfl⟩ := hpreview
  rw [show scopeDate env (scopeOf files request) = date by rw [scopeDate, hdate]; rfl]
  have hstored := find_payment_ids_stored hids
  have hpayments := (count_keys_iff db.payments ids (find_payment_ids_nodup hids)).mpr hstored
  have hreports := count_keys_iff db.reports (findAffectedReportIds db ids) (List.nodup_dedup _)
  have hevents := count_events_iff db ids date
  have hrelations := count_relations_iff db ids
  have hitems := count_items_iff db ids
  rw [delete_scope_spec hdelete]
  unfold CountsDeleted
  simp only [List.forall_mem_cons, List.not_mem_nil, false_implies, implies_true, and_true]
  constructor
  · rintro ⟨-, hitem, -, -, -, -, -, -, -, hevent, hrelation, hreport, -, -⟩
    exact ⟨hevents.mp hevent, hrelations.mp hrelation, hreports.mp hreport, hitems.mp hitem⟩
  · rintro ⟨hevent, hrelation, hreport, hitem⟩
    exact ⟨hpayments, hitems.mpr hitem, count_where_eq _ _, count_where_eq _ _, count_where_eq _ _, count_where_eq _ _,
      count_where_eq _ _, count_where_eq _ _, count_where_eq _ _, hevents.mpr hevent, hrelations.mpr hrelation,
      hreports.mpr hreport, count_where_eq _ _, count_where_eq _ _⟩

/-! A payment with an event and a refund request, and an event that comes after the date. -/

def requestBefore : PaymentCleanupRequest := ⟨⟨some "2026-01-01"⟩, archiveId, "DELETE_PAYMENT_DATA"⟩

def paymentWithEvent (occurredAt : ℤ) : Db where
  payments := Table.empty.save ⟨"p", -5, none⟩
  refundRequests := Table.empty.save ⟨"q", "p"⟩
  paymentEvents := Table.empty.save ⟨"e", "p", occurredAt⟩
  reports := Table.empty.save ⟨"r", some "p"⟩
  reportPaymentRelations := Table.empty.save ⟨"rp", "p", "r"⟩

/-- The preview and the cleanup of the same scope. -/
def previewThenCleanup (db : Db) : Option (PaymentCleanupPreview × PaymentCleanupPreview × Db) := do
  let counted ← (preview plainEnv db (scopeOf (archiveOf db) requestBefore)).toOption
  let cleaned ← (cleanup plainEnv (archiveOf db) db requestBefore).toOption
  return (counted, cleaned)

theorem preview_then_cleanup_spec {db db' : Db} {counted cleaned : PaymentCleanupPreview}
    (h : previewThenCleanup db = some (counted, cleaned, db')) :
    preview plainEnv db (scopeOf (archiveOf db) requestBefore) = .ok counted ∧
      cleanup plainEnv (archiveOf db) db requestBefore = .ok (cleaned, db') := by
  simpa [previewThenCleanup, Option.bind_eq_some_iff, toOption_eq_some] using h

theorem preview_counts_sample : ∃ counted cleaned db',
    previewThenCleanup (paymentWithEvent (-3)) = some (counted, cleaned, db') ∧
      CountsDeleted counted.counts (paymentWithEvent (-3)) db' ∧ ("postral_payment_event", 1) ∈ counted.counts := by
  have hrun : ∃ result ∈ previewThenCleanup (paymentWithEvent (-3)), ("postral_payment_event", 1) ∈ result.1.counts ∧
      SelfContained (paymentWithEvent (-3)) result.1.paymentIds
        (scopeDate plainEnv (scopeOf (archiveOf (paymentWithEvent (-3))) requestBefore)) := by
    decide +kernel
  obtain ⟨⟨counted, cleaned, db'⟩, hresult, hcount, hcontained⟩ := hrun
  obtain ⟨hpreview, hcleanup⟩ := preview_then_cleanup_spec hresult
  exact ⟨counted, cleaned, db', hresult,
    (preview_counts_iff plainEnv _ _ db' requestBefore counted cleaned hpreview hcleanup).mpr hcontained, hcount⟩

/-- The event that the preview leaves out is deleted with its payment. -/
theorem preview_misses_event : ¬ ∀ (env : Env) (files : Files) (db db' : Db) (request : PaymentCleanupRequest)
    (counted cleaned : PaymentCleanupPreview), preview env db (scopeOf files request) = .ok counted →
    cleanup env files db request = .ok (cleaned, db') → CountsDeleted counted.counts db db' := by
  intro hall
  have hrun : ∃ result ∈ previewThenCleanup (paymentWithEvent 3),
      ¬ CountsDeleted result.1.counts (paymentWithEvent 3) result.2.2 := by
    decide +kernel
  obtain ⟨⟨counted, cleaned, db'⟩, hresult, hbad⟩ := hrun
  obtain ⟨hpreview, hcleanup⟩ := preview_then_cleanup_spec hresult
  exact hbad (hall plainEnv _ _ db' requestBefore counted cleaned hpreview hcleanup)

end Postral.Cleanup
