import Postral.Reports.Breakdown

/-!
# The sellers' reports partition the platform's

A payment adds the items of each of its sellers to that seller's reports, and all of its items to
the platform's.
-/

open Check Session Run

namespace Postral.Reports

/-! ## One digestion -/

instance (type : ReportType) : Decidable type.HasBreakdown := by
  unfold ReportType.HasBreakdown
  infer_instance

/-- What a payment adds to a report of the given type. -/
def contribution (type : ReportType) (owner : String) (payment : Payment) : Total → ℤ :=
  if payment.includeInReportDigestion then
    if type.HasBreakdown then totalsOf payment.type (itemsOf payment (type.counted owner))
    else comissionTotal payment (type.counted owner)
  else 0

/-- The totals that are exact: the tax on a commission is rounded. -/
def ReportType.Exact (type : ReportType) (total : Total) : Prop := type.HasBreakdown ∨ total = .sale ∨ total = .refund

/-- `r'` is `r` with `added` in its exact totals. -/
structure Added (r r' : Report ℤ) (added : Total → ℤ) : Prop where
  id : r'.id = r.id
  reportType : r'.reportType = r.reportType
  queryId : r'.queryId = r.queryId
  total : ∀ total, r.reportType.Exact total → r'.total total = r.total total + added total

theorem Added.zero (r : Report ℤ) : Added r r 0 := ⟨rfl, rfl, rfl, fun _ _ => (add_zero _).symm⟩

theorem Added.trans {r r' r'' : Report ℤ} {a b : Total → ℤ} (h : Added r r' a) (h' : Added r' r'' b) :
    Added r r'' (a + b) where
  id := h'.id.trans h.id
  reportType := h'.reportType.trans h.reportType
  queryId := h'.queryId.trans h.queryId
  total c hc := by
    rw [h'.total c (h.reportType ▸ hc), h.total c hc, Pi.add_apply, add_assoc]

variable {env : Env} {s t : Session HttpError Db} {payment : Payment}

theorem digest_report_added {r : Report ℤ} {owner : String} {u : Unit}
    (h : Returns (digestIncluded env r.load payment owner) s u t) :
    SameInputs s.db t.db ∧ ∃ r', Added r r' (contribution r.reportType owner payment) ∧
      (t.db.reports = s.db.reports.save r' ∨ (r' = r ∧ t.db.reports = s.db.reports)) := by
  unfold digestIncluded at h
  unfold contribution
  split at h <;> rename_i hincluded
  · rw [if_pos hincluded]
    by_cases htype : r.reportType.HasBreakdown
    · obtain ⟨hgrown, expense, hreports⟩ := digest_breakdown_spec htype h
      rw [if_pos htype]
      exact ⟨hgrown.inputs, reportAfter r payment _ expense,
        ⟨rfl, rfl, rfl, fun c _ => congrFun (reportAfter_total r payment _ expense) c⟩, Or.inl hreports⟩
    · obtain ⟨-, -, hinputs, hcomission⟩ := digest_platform_spec htype h
      rw [if_neg htype]
      rcases hcomission with ⟨hexternal, -, hreports⟩ | ⟨r', g, hadded, -, hreports, -⟩
      · have hzero : comissionTotal payment (r.reportType.counted owner) = 0 := by
          funext c
          cases c <;> simp [comissionTotal, hexternal]
        rw [hzero]
        exact ⟨hinputs, r, Added.zero r, Or.inr ⟨rfl, hreports⟩⟩
      · refine ⟨hinputs, r', ⟨hadded.id, hadded.reportType, hadded.queryId, fun c hc => ?_⟩, Or.inl hreports⟩
        rcases hc.resolve_left htype with rfl | rfl
        · exact hadded.sale
        · exact hadded.refund
  · rw [← (returns_pure.mp h).2, if_neg hincluded]
    exact ⟨⟨rfl, rfl⟩, r, Added.zero r, Or.inr ⟨rfl, rfl⟩⟩

/-- One relation, seen from any report that has an owner. -/
theorem digest_relation_added {relation : ReportPaymentRelation} {id owner : String} {r : Report ℤ} {u : Unit}
    (h : Returns (digestRelation env relation) s u t) (hr : s.db.reports.find id = some r)
    (howner : ownerOf s.db r = some owner) (hne : owner ≠ "") :
    SameInputs s.db t.db ∧ ∃ r', t.db.reports.find id = some r' ∧ Added r r' (if relation.reportId = id then
      ((s.db.payments.find relation.paymentId).map (contribution r.reportType owner)).getD 0 else 0) := by
  rcases digest_relation_spec h with ⟨hdb, hskip⟩ | ⟨x, payment, account, hdigested⟩
  · have hother : relation.reportId ≠ id := by
      rintro rfl
      have := hskip r hr
      rw [howner] at this
      simp [hne] at this
    rw [hdb, if_neg hother]
    exact ⟨⟨rfl, rfl⟩, r, hr, Added.zero r⟩
  · obtain ⟨v, w, hv, hdigest, hdb⟩ := hdigested.updates
    obtain ⟨hinputs, x', hadded, hreports⟩ := digest_report_added hdigest
    rw [hv] at hinputs hreports
    have hx : x.id = relation.reportId := (Table.find_eq_some_iff.mp hdigested.findReport).2
    refine ⟨by rw [hdb]; exact hinputs, ?_⟩
    rw [hdb, hdigested.findPayment]
    simp only
    by_cases hid : relation.reportId = id
    · subst hid
      obtain rfl : x = r := Option.some.inj (hdigested.findReport.symm.trans hr)
      obtain rfl : account = owner := Option.some.inj (hdigested.owner.symm.trans howner)
      rw [if_pos rfl]
      refine ⟨x', ?_, hadded⟩
      rcases hreports with hreports | ⟨rfl, hreports⟩
      · rw [hreports, ← hx, ← hadded.id]
        exact Table.find_save_self _ _
      · rw [hreports]
        exact hr
    · rw [if_neg hid]
      refine ⟨r, ?_, Added.zero r⟩
      rcases hreports with hreports | ⟨-, hreports⟩
      · rw [hreports, Table.find_save_of_ne (by rw [hadded.id, hx]; exact Ne.symm hid)]
        exact hr
      · rw [hreports]
        exact hr

/-! ## A run of digestions -/

/-- Digests the relations in order. -/
def digestAll (env : Env) (db : Db) (relations : List ReportPaymentRelation) : Option Db :=
  run (fun db relation => outcome (digestRelation env relation) db) db relations

/-- The payments that go into a report, in order. -/
def paymentsOf (relations : List ReportPaymentRelation) (reportId : String) : List String :=
  (relations.filter fun relation => relation.reportId = reportId).map (·.paymentId)

def contributionOf (db : Db) (type : ReportType) (owner paymentId : String) : Total → ℤ :=
  ((db.payments.find paymentId).map (contribution type owner)).getD 0

/-- A report gains what its payments contribute. -/
theorem digest_all_added {db db' : Db} {relations : List ReportPaymentRelation} {id owner : String} {r : Report ℤ}
    (h : digestAll env db relations = some db') (hr : db.reports.find id = some r)
    (howner : ownerOf db r = some owner) (hne : owner ≠ "") :
    ∃ r', db'.reports.find id = some r' ∧
      Added r r' ((paymentsOf relations id).map (contributionOf db r.reportType owner)).sum := by
  unfold digestAll at h
  induction relations generalizing db r with
  | nil =>
    obtain rfl : db = db' := by simpa using h
    exact ⟨r, hr, Added.zero r⟩
  | cons relation relations ih =>
    obtain ⟨mid, hstep, hrest⟩ := run_cons_eq_some.mp h
    obtain ⟨_, t, hdigest, rfl⟩ := outcome_eq_some.mp hstep
    obtain ⟨⟨hqueries, hpayments⟩, r₁, hr₁, hadded⟩ := digest_relation_added hdigest hr howner hne
    have howner₁ : ownerOf t.db r₁ = some owner := by
      rw [← howner, ownerOf, ownerOf, hqueries, hadded.queryId]
    obtain ⟨r', hr', hadded'⟩ := ih hrest hr₁ howner₁
    refine ⟨r', hr', ?_⟩
    have hsum := hadded.trans hadded'
    have hcontribution : contributionOf t.db = contributionOf db := by
      unfold contributionOf
      rw [hpayments]
    rw [hadded.reportType, hcontribution] at hsum
    by_cases hid : relation.reportId = id
    · rw [if_pos hid] at hsum
      simpa [paymentsOf, hid, contributionOf] using hsum
    · rw [if_neg hid, zero_add] at hsum
      simpa [paymentsOf, hid] using hsum

/-! ## One payment -/

theorem itemsOf_some (payment : Payment) (a : String) :
    itemsOf payment (some a) = payment.items.rows.filter fun item => item.sellerAccountId = some a := by
  unfold itemsOf
  apply List.filter_congr
  simp [counts]

theorem itemsOf_none (payment : Payment) : itemsOf payment none = payment.items.rows := by
  simp [itemsOf, counts]

/-- Every item of the payment has one of the sellers. -/
def SoldBy (sellers : List String) (payment : Payment) : Prop :=
  ∀ item ∈ payment.items.rows, ∃ a ∈ sellers, item.sellerAccountId = some a

theorem sum_sellers {M : Type} [AddCommMonoid M] {sellers : List String} (hnodup : sellers.Nodup)
    (hsold : SoldBy sellers payment) (f : PaymentItem → M) :
    (sellers.map fun a => ((itemsOf payment (some a)).map f).sum).sum = ((itemsOf payment none).map f).sum := by
  have hgroups : ((sellers.map some).map fun seller =>
      ((payment.items.rows.filter fun item => item.sellerAccountId = seller).map f).sum).sum =
      (payment.items.rows.map f).sum := by
    apply List.sum_map_groups (fun item : PaymentItem => item.sellerAccountId) f (hnodup.map (Option.some_injective _))
    intro item hitem
    obtain ⟨a, ha, hseller⟩ := hsold item hitem
    exact hseller ▸ List.mem_map_of_mem ha
  rw [itemsOf_none, ← hgroups, List.map_map]
  simp only [itemsOf_some]
  rfl

theorem sum_comissions {sellers : List String} (hnodup : sellers.Nodup) (hsold : SoldBy sellers payment) :
    (sellers.map fun a => comissionTotal payment (some a)).sum = comissionTotal payment none := by
  have hcomission : (sellers.map fun a => comissionOf (itemsOf payment (some a))).sum =
      comissionOf (itemsOf payment none) := sum_sellers hnodup hsold _
  funext c
  rw [Pi.list_sum_apply, List.map_map]
  cases c with
  | sale =>
    by_cases hskip : truthy payment.externalPlatformId ∨ payment.type ≠ .purchase
    · simp [comissionTotal, hskip, Function.comp_def]
    · simpa only [comissionTotal, if_neg hskip, Function.comp_def] using hcomission
  | refund =>
    by_cases hskip : truthy payment.externalPlatformId ∨ payment.type ≠ .refund
    · simp [comissionTotal, hskip, Function.comp_def]
    · simpa only [comissionTotal, if_neg hskip, Function.comp_def] using hcomission
  | saleTax => simp [comissionTotal, Function.comp_def]
  | refundTax => simp [comissionTotal, Function.comp_def]

/-- The contributions to the sellers' reports add up to the one to the platform's. -/
theorem sum_contributions {sellers : List String} (hnodup : sellers.Nodup) (hsold : SoldBy sellers payment)
    (operator : String) :
    (sellers.map fun a => contribution .seller a payment).sum = contribution .platformFlow operator payment ∧
    (sellers.map fun a => contribution .platformSeller a payment).sum = contribution .platform operator payment := by
  unfold contribution
  by_cases hincluded : payment.includeInReportDigestion
  · simp only [if_pos hincluded]
    exact ⟨sum_sellers hnodup hsold (itemTotal payment.type), sum_comissions hnodup hsold⟩
  · simp [hincluded]

/-- A seller without items contributes nothing. -/
theorem contribution_of_none {a : String} (h : itemsOf payment (some a) = []) :
    contribution .seller a payment = 0 ∧ contribution .platformSeller a payment = 0 := by
  unfold contribution
  constructor
  · by_cases hincluded : payment.includeInReportDigestion
    · rw [if_pos hincluded, if_pos (by decide)]
      simp only [ReportType.counted, h]
      rfl
    · rw [if_neg hincluded]
  · by_cases hincluded : payment.includeInReportDigestion
    · rw [if_pos hincluded, if_neg (by decide)]
      funext c
      cases c <;> simp [ReportType.counted, comissionTotal, h, comissionOf]
    · rw [if_neg hincluded]

/-! ## The reports of a period -/

/-- The reports of one period, grouping and currency. -/
structure PeriodReports where
  platformFlow : String
  platform : String
  seller : String → String
  platformSeller : String → String

def columnOf (db : Db) (reportId : String) (total : Total) : ℤ :=
  ((db.reports.find reportId).map (·.total total)).getD 0

/-- A new report of a query. -/
structure Started (db : Db) (reportId : String) (type : ReportType) (owner : String) : Prop where
  ownerAccountId : owner ≠ ""
  row : ∃ r, db.reports.find reportId = some r ∧ r.reportType = type ∧ ownerOf db r = some owner ∧ r.total = 0

/-- `findOrCreateByQuery` starts a report. -/
theorem started_newReport {db : Db} {id owner periodLabel currency : String} (query : ReportQuery)
    (hrow : db.reports.find id = some (newReport id query periodLabel currency))
    (howner : ownerOf db (newReport id query periodLabel currency) = some owner) (hne : owner ≠ "") :
    Started db id query.reportType owner := by
  refine ⟨hne, _, hrow, rfl, howner, ?_⟩
  funext c
  cases c <;> rfl

/-- The seller has an item in the payment. -/
def sells (db : Db) (a paymentId : String) : Bool :=
  ((db.payments.find paymentId).map fun payment => decide (itemsOf payment (some a) ≠ [])).getD false

/-- The payments go into the reports of their sellers and of the platform, once each. -/
structure Period (db : Db) (relations : List ReportPaymentRelation) (payments sellers : List String)
    (operator : String) (reports : PeriodReports) : Prop where
  platformFlow : Started db reports.platformFlow .platformFlow operator
  platform : Started db reports.platform .platform operator
  seller : ∀ a ∈ sellers, Started db (reports.seller a) .seller a
  platformSeller : ∀ a ∈ sellers, Started db (reports.platformSeller a) .platformSeller a
  flowPayments : (paymentsOf relations reports.platformFlow).Perm payments
  platformPayments : (paymentsOf relations reports.platform).Perm payments
  sellerPayments : ∀ a ∈ sellers, (paymentsOf relations (reports.seller a)).Perm (payments.filter (sells db a))
  platformSellerPayments : ∀ a ∈ sellers,
    (paymentsOf relations (reports.platformSeller a)).Perm (payments.filter (sells db a))
  sold : ∀ id ∈ payments, ∀ payment, db.payments.find id = some payment → SoldBy sellers payment
  distinct : sellers.Nodup

theorem column_after {env : Env} {db db' : Db} {relations : List ReportPaymentRelation} {id owner : String}
    {type : ReportType} {payments : List String} (h : digestAll env db relations = some db')
    (hstarted : Started db id type owner) (hpayments : (paymentsOf relations id).Perm payments) {total : Total}
    (htotal : type.Exact total) : columnOf db' id total = (payments.map (contributionOf db type owner)).sum total := by
  obtain ⟨r, hr, rfl, howner, hzero⟩ := hstarted.row
  obtain ⟨r', hr', hadded⟩ := digest_all_added h hr howner hstarted.ownerAccountId
  have hcolumn := hadded.total total htotal
  rw [hzero, Pi.zero_apply, zero_add, (hpayments.map _).sum_eq] at hcolumn
  rw [columnOf, hr', Option.map_some, Option.getD_some, hcolumn]

/-- The payments that a seller's reports leave out contribute nothing. -/
theorem contributionOf_zero {db : Db} {a id : String} (h : sells db a id = false) :
    contributionOf db .seller a id = 0 ∧ contributionOf db .platformSeller a id = 0 := by
  unfold sells at h
  unfold contributionOf
  cases hfind : db.payments.find id with
  | none => exact ⟨rfl, rfl⟩
  | some payment =>
    rw [hfind] at h
    exact contribution_of_none (by simpa using h)

theorem sum_payments {db : Db} {sellers payments : List String} (hdistinct : sellers.Nodup)
    (hsold : ∀ id ∈ payments, ∀ payment, db.payments.find id = some payment → SoldBy sellers payment)
    (operator : String) :
    (sellers.map fun a => (payments.map (contributionOf db .seller a)).sum).sum =
      (payments.map (contributionOf db .platformFlow operator)).sum ∧
    (sellers.map fun a => (payments.map (contributionOf db .platformSeller a)).sum).sum =
      (payments.map (contributionOf db .platform operator)).sum := by
  induction payments with
  | nil => simp
  | cons id payments ih =>
    obtain ⟨hflow, hplatform⟩ := ih fun id' hid' => hsold id' (List.mem_cons_of_mem _ hid')
    have hone : (sellers.map fun a => contributionOf db .seller a id).sum = contributionOf db .platformFlow operator id ∧
        (sellers.map fun a => contributionOf db .platformSeller a id).sum = contributionOf db .platform operator id := by
      unfold contributionOf
      cases hfind : db.payments.find id with
      | none => simp
      | some payment => exact sum_contributions hdistinct (hsold id List.mem_cons_self payment hfind) operator
    simp only [List.map_cons, List.sum_cons, List.sum_map_add]
    rw [hone.1, hone.2, hflow, hplatform]
    exact ⟨rfl, rfl⟩

/-- **Partition.** Over all sellers, the totals of the sellers' reports add up to those of the platform's
flow report, and the commissions of the platform's reports on the sellers to those of its own report. -/
theorem reports_partition {env : Env} {db db' : Db} {relations : List ReportPaymentRelation}
    {payments sellers : List String} {operator : String} {reports : PeriodReports}
    (h : digestAll env db relations = some db') (hperiod : Period db relations payments sellers operator reports) :
    (∀ total, (sellers.map fun a => columnOf db' (reports.seller a) total).sum =
      columnOf db' reports.platformFlow total) ∧
    (sellers.map fun a => columnOf db' (reports.platformSeller a) .sale).sum = columnOf db' reports.platform .sale ∧
    (sellers.map fun a => columnOf db' (reports.platformSeller a) .refund).sum =
      columnOf db' reports.platform .refund := by
  obtain ⟨hflow, hplatform⟩ := sum_payments hperiod.distinct hperiod.sold operator
  have hsellers : ∀ total, (sellers.map fun a => columnOf db' (reports.seller a) total) =
      sellers.map fun a => (payments.map (contributionOf db .seller a)).sum total := by
    intro total
    apply List.map_congr_left
    intro a ha
    rw [column_after h (hperiod.seller a ha) (hperiod.sellerPayments a ha) (Or.inl (Or.inl rfl)),
      List.sum_map_filter_of_zero fun id _ hid => (contributionOf_zero hid).1]
  have hcomissions : ∀ total, total = .sale ∨ total = .refund →
      (sellers.map fun a => columnOf db' (reports.platformSeller a) total).sum = columnOf db' reports.platform total := by
    intro total htotal
    rw [column_after h hperiod.platform hperiod.platformPayments (Or.inr htotal), ← hplatform, Pi.list_sum_apply,
      List.map_map]
    congr 1
    apply List.map_congr_left
    intro a ha
    rw [column_after h (hperiod.platformSeller a ha) (hperiod.platformSellerPayments a ha) (Or.inr htotal),
      List.sum_map_filter_of_zero fun id _ hid => (contributionOf_zero hid).2]
    rfl
  refine ⟨fun total => ?_, hcomissions .sale (Or.inl rfl), hcomissions .refund (Or.inr rfl)⟩
  rw [hsellers, column_after h hperiod.platformFlow hperiod.flowPayments (Or.inl (Or.inr rfl)), ← hflow,
    Pi.list_sum_apply, List.map_map]
  rfl

/-! Ana and Ben sell in one payment, and Ben's item comes back. -/

def periodQuery (id owner : String) (type : ReportType) : ReportQuery := ⟨id, some owner, some "TRY", .daily, type⟩

def periodQueries : List ReportQuery :=
  [periodQuery "flow" "operator" .platformFlow, periodQuery "platform" "operator" .platform,
    periodQuery "seller-ana" "ana" .seller, periodQuery "seller-ben" "ben" .seller,
    periodQuery "comission-ana" "ana" .platformSeller, periodQuery "comission-ben" "ben" .platformSeller]

def periodItem (id seller : String) (total comission : ℤ) : PaymentItem :=
  { sampleItem id id total 0 0 with sellerAccountId := some seller, appComissionAmount := comission }

def periodDb : Db :=
  { Db.empty with
    queries := Table.empty.saveAll periodQueries
    reports := Table.empty.saveAll (periodQueries.map fun query => newReport query.id query "2026-01-05" "TRY")
    payments := Table.empty.saveAll [
      samplePayment "sale" .purchase
        (Table.empty.saveAll [periodItem "line-1" "ana" 1000000 50000, periodItem "line-2" "ben" 400000 20000]),
      samplePayment "return" .refund (Table.empty.saveAll [periodItem "line-3" "ben" 400000 20000])]
    orders := Table.empty.saveAll [⟨"sale", "ana", 1000000⟩, ⟨"sale", "ben", 400000⟩, ⟨"return", "ben", 400000⟩]
    comissionTaxRate := some 20 }

def periodRelations : List ReportPaymentRelation :=
  [("flow", "sale"), ("platform", "sale"), ("seller-ana", "sale"), ("seller-ben", "sale"), ("comission-ana", "sale"),
    ("comission-ben", "sale"), ("flow", "return"), ("platform", "return"), ("seller-ben", "return"),
    ("comission-ben", "return")].map fun key => ⟨key.1, key.2, none, .digesting, "run"⟩

def periodReports : PeriodReports := ⟨"flow", "platform", fun a => "seller-" ++ a, fun a => "comission-" ++ a⟩

theorem reports_partition_sample : ∃ db ∈ digestAll sampleEnv periodDb periodRelations,
    columnOf db "flow" .sale = 1400000 ∧ columnOf db "seller-ana" .sale + columnOf db "seller-ben" .sale = 1400000 ∧
    columnOf db "comission-ana" .refund + columnOf db "comission-ben" .refund = columnOf db "platform" .refund := by
  have hrun : ∃ db ∈ digestAll sampleEnv periodDb periodRelations, columnOf db "flow" .sale = 1400000 := by
    decide +kernel
  obtain ⟨db, hdb, hflow⟩ := hrun
  have hperiod : Period periodDb periodRelations ["sale", "return"] ["ana", "ben"] "operator" periodReports := by
    refine ⟨?_, ?_, ?_, ?_, by decide, by decide, by decide, by decide, ?_, by decide⟩
    · exact started_newReport (periodQuery "flow" "operator" .platformFlow) rfl rfl (by decide)
    · exact started_newReport (periodQuery "platform" "operator" .platform) rfl rfl (by decide)
    · rw [List.forall_mem_cons, List.forall_mem_singleton]
      exact ⟨started_newReport (periodQuery "seller-ana" "ana" .seller) rfl rfl (by decide),
        started_newReport (periodQuery "seller-ben" "ben" .seller) rfl rfl (by decide)⟩
    · rw [List.forall_mem_cons, List.forall_mem_singleton]
      exact ⟨started_newReport (periodQuery "comission-ana" "ana" .platformSeller) rfl rfl (by decide),
        started_newReport (periodQuery "comission-ben" "ben" .platformSeller) rfl rfl (by decide)⟩
    · rw [List.forall_mem_cons, List.forall_mem_singleton]
      constructor <;> rintro _ ⟨⟩ <;> unfold SoldBy <;> decide
  obtain ⟨hsellers, -, hrefunds⟩ := reports_partition hdb hperiod
  refine ⟨db, hdb, hflow, ?_, ?_⟩
  · rw [← hflow]
    simpa [periodReports] using hsellers .sale
  · simpa [periodReports] using hrefunds

end Postral.Reports
