import Postral.Lib.Batch
import Postral.Reports.Totals

/-! # What each update saves -/

open Check Session

namespace Postral.Reports

variable {s t : Session HttpError Db} {payment : Payment} {reportId : String} {accountId : Option String}

theorem filter_counts_itemsOf (p : PaymentItem → Bool) :
    ((itemsOf payment accountId).filter p).filter (counts accountId) = (itemsOf payment accountId).filter p := by
  rw [List.filter_comm, itemsOf, List.filter_filter, List.filter_filter]
  simp

theorem filter_counts : (itemsOf payment accountId).filter (counts accountId) = itemsOf payment accountId := by
  simp [itemsOf]

/-! ## Tax groups -/

/-- The row of a tax group after the payment. -/
def taxGroupAfter (db : Db) (reportId : String) (payment : Payment) (accountId : Option String) (percentGroup : ℚ) :
    ReportTaxGroup ℤ :=
  let group := (db.taxGroups.find (reportId, percentGroup, payment.currency)).getD
    (newTaxGroup reportId percentGroup payment.currency)
  { group with
    toBaseReport := group.digest (totalsOf payment.type
      ((itemsOf payment accountId).filter fun item => fromColumn item.taxPercent = percentGroup)) }

theorem load_newTaxGroup (taxPercent : ℚ) (currency : String) :
    (newTaxGroup reportId taxPercent currency : ReportTaxGroup ℤ).load = newTaxGroup reportId taxPercent currency := by
  simp [ReportTaxGroup.load, ReportTaxGroup.map, newTaxGroup, BaseReport.map, BaseReport.empty]

theorem update_tax_group_spec {percentGroup : ℚ} {u : Unit}
    (h : Returns (updateTaxGroup reportId payment accountId percentGroup) s u t) :
    t.db = { s.db with
      taxGroups := s.db.taxGroups.save (taxGroupAfter s.db reportId payment accountId percentGroup) } := by
  unfold updateTaxGroup at h
  simp only [returns_bind] at h
  obtain ⟨found, v, hfind, hsave⟩ := h
  obtain ⟨rfl, hdb⟩ := returns_find hfind
  rw [returns_save hsave, hdb, ← load_newTaxGroup, Option.getD_map]
  unfold taxGroupAfter
  generalize (s.db.taxGroups.find (reportId, percentGroup, payment.currency)).getD
    (newTaxGroup reportId percentGroup payment.currency) = group
  have hbase : group.load.toBaseReport = group.toBaseReport.map fromColumn := rfl
  rw [hbase, report_calculation_spec, filter_counts_itemsOf]
  simp [ReportTaxGroup.store, ReportTaxGroup.map, BaseReport.map_map_toColumn, ReportTaxGroup.load]

/-! ## Items -/

/-- The row in memory to which an item is added. -/
def reportItemBefore (db : Db) (itemsMappedByKey : ItemMap) (reportId accountId key : String) (item : PaymentItem) :
    ReportItem ℚ :=
  ((itemsMappedByKey key).or ((db.items.find (reportId, accountId, key)).map (·.load))).getD
    (newReportItem reportId accountId key item)

theorem add_to_report_item_key (type : PaymentType) (item : PaymentItem) (row : ReportItem ℚ) :
    (addToReportItem type item row).store.key = row.store.key := by
  cases type <;> rfl

theorem look_up_spec {account key : String} {mapped : ItemMap} {found : Option (ReportItem ℚ)}
    (h : Returns (lookUpReportItem reportId account key mapped) s found t) :
    found = (mapped key).or ((s.db.items.find (reportId, account, key)).map (·.load)) ∧ t.db = s.db := by
  unfold lookUpReportItem at h
  split at h <;> rename_i hmapped
  · obtain ⟨rfl, rfl⟩ := returns_pure.mp h
    simp [hmapped]
  · simpa [hmapped] using returns_find h

theorem or_save_spec {found : Option (ReportItem ℚ)} {fresh row : ReportItem ℚ}
    (h : Returns (orSaveReportItem found fresh) s row t) :
    row = found.getD fresh ∧ (t.db = s.db ∨ t.db = { s.db with items := s.db.items.save row.store }) := by
  unfold orSaveReportItem at h
  split at h
  · obtain ⟨rfl, rfl⟩ := returns_pure.mp h
    exact ⟨rfl, Or.inl rfl⟩
  · simp only [returns_bind, returns_pure] at h
    obtain ⟨_, _, hsave, rfl, rfl⟩ := h
    exact ⟨rfl, Or.inr (returns_save hsave)⟩

theorem update_report_item_spec {env : Env} {account : String} {type : PaymentType} {mapped mapped' : ItemMap}
    {item : PaymentItem} (h : Returns (updateReportItem env reportId account type mapped item) s mapped' t) :
    ∃ key, generateKey env reportId item.itemId item.variation item.name = .ok key ∧
      mapped' = Function.update mapped key
        (some (addToReportItem type item (reportItemBefore s.db mapped reportId account key item))) ∧
      t.db = { s.db with
        items := s.db.items.save
          (addToReportItem type item (reportItemBefore s.db mapped reportId account key item)).store } := by
  unfold updateReportItem at h
  simp only [returns_bind, returns_check, returns_pure] at h
  obtain ⟨key, _, ⟨hkey, rfl⟩, found, v, hfound, row, w, hrow, _, x, hsave, rfl, rfl⟩ := h
  obtain ⟨rfl, hv⟩ := look_up_spec hfound
  obtain ⟨rfl, hw⟩ := or_save_spec hrow
  refine ⟨key, hkey, rfl, ?_⟩
  rw [returns_save hsave]
  rcases hw with hw | hw
  · rw [hw, hv]
    rfl
  · -- A new row is saved twice.
    rw [hw, hv]
    simp only [Table.save_save _ (add_to_report_item_key type item _).symm]
    rfl

/-! ## Platforms -/

theorem load_newReportPlatform (account : String) (platform : PlatformSource) :
    (newReportPlatform reportId account platform : ReportPlatform ℤ).load = newReportPlatform reportId account platform := by
  simp [ReportPlatform.load, ReportPlatform.map, newReportPlatform]

/-- The row of the payment's platform before the payment. -/
def platformBefore (db : Db) (reportId : String) (accountId : Option String) (platform : PlatformSource) :
    ReportPlatform ℤ :=
  (db.platforms.find (reportId, reportAccountId accountId, platform.platformKey)).getD
    (newReportPlatform reportId (reportAccountId accountId) platform)

theorem update_platform_report_spec {platform : PlatformSource} {u : Unit}
    (h : Returns (updatePlatformReport reportId payment platform accountId) s u t) :
    (itemsOf payment accountId = [] ∧ t.db = s.db) ∨
    (itemsOf payment accountId ≠ [] ∧
      (platformBefore s.db reportId accountId platform).externalPlatformId = platform.externalPlatformId ∧
      t.db = { s.db with
        platforms := s.db.platforms.save
          ((platformBefore s.db reportId accountId platform).digest payment.type (itemsOf payment accountId)) }) := by
  unfold updatePlatformReport at h
  simp only [List.length_eq_zero_iff] at h
  split at h <;> rename_i hitems
  · obtain ⟨-, rfl⟩ := returns_pure.mp h
    exact Or.inl ⟨hitems, rfl⟩
  · right
    simp only [returns_bind, returns_check, require_eq_ok] at h
    obtain ⟨found, v, hfind, _, _, ⟨hsource, rfl⟩, hsave⟩ := h
    obtain ⟨rfl, hdb⟩ := returns_find hfind
    rw [← load_newReportPlatform, Option.getD_map] at hsource hsave
    refine ⟨hitems, hsource, ?_⟩
    rw [returns_save hsave, hdb]
    have := digested_platform_spec payment.type (platformBefore s.db reportId accountId platform)
      (itemsOf payment accountId)
    unfold platformBefore at this ⊢
    simp only [ReportPlatform.load, this, ReportPlatform.store]
    simp [ReportPlatform.map]

/-! ## Reports -/

/-- A report after a payment that adds `added`, with the expense of its owner. -/
def reportAfter (r : Report ℤ) (payment : Payment) (added : Total → ℤ) (expense : ℤ) : Report ℤ :=
  { r with
    toBaseReport := r.digest added
    lastDigestedPaymentId := some payment.id
    totalExpense := expense }.withoutExpense

/-- `report` in memory: the columns of `r`, with an expense that may be newer. -/
def Report.Loaded (report : Report ℚ) (r : Report ℤ) : Prop := ∃ expense, report = { r.load with totalExpense := expense }

theorem loaded_load (r : Report ℤ) : r.load.Loaded r := ⟨_, rfl⟩

/-- The stored expense of the report's owner. -/
def expenseOf (db : Db) (reportId ownerAccountId : String) : ℤ :=
  ((db.expenses.find (reportId, ownerAccountId, reportTotal)).map (·.expenseAmount)).getD 0

theorem fromColumn_expenseOf (db : Db) (reportId owner : String) :
    (((db.expenses.find (reportId, owner, reportTotal)).map ReportExpense.load).map ReportExpense.expenseAmount).getD 0 =
      fromColumn (expenseOf db reportId owner) := by
  unfold expenseOf
  cases db.expenses.find (reportId, owner, reportTotal) <;> simp [ReportExpense.load, ReportExpense.map]

theorem store_withoutExpense (r : Report ℤ) : (r.load.withoutExpense).store = r.withoutExpense := by
  simp [Report.withoutExpense, Report.load, Report.store, Report.map, ← fromColumn_sub,
    BaseReport.map]

theorem digest_totals_spec {report : Report ℚ} {r : Report ℤ} {owner : String} {u : Unit} (hloaded : report.Loaded r)
    (h : Returns (digestTotals report payment accountId owner) s u t) :
    t.db = { s.db with
      reports := s.db.reports.save
        (reportAfter r payment (totalsOf payment.type (itemsOf payment accountId)) (expenseOf s.db r.id owner)) } := by
  obtain ⟨_, rfl⟩ := hloaded
  unfold digestTotals stampTimeAndSaveReport at h
  simp only [returns_bind] at h
  obtain ⟨found, v, hfind, hsave⟩ := h
  obtain ⟨rfl, hdb⟩ := returns_find hfind
  have hcalc : reportCalculation (r.toBaseReport.map fromColumn) payment accountId =
      (r.digest (totalsOf payment.type (itemsOf payment accountId))).map fromColumn := by
    rw [reportCalculation, report_calculation_spec, filter_counts]
  rw [returns_save hsave, hdb, reportAfter, ← store_withoutExpense]
  simp only [fromColumn_expenseOf, Report.load, Report.map, hcalc]
  rfl

/-! ## Commission -/

/-- The report in memory after the commission of the items. -/
def comissionReport (report : Report ℚ) (payment : Payment) (items : List PaymentItem) (taxMax : ℚ) : Report ℚ :=
  let base := report.add (comissionTotals payment.type taxMax items)
  let base := if 0 < items.length then { base with paymentCount := base.paymentCount + 1 } else base
  { ({ report with toBaseReport := base.netted } : Report ℚ).withoutExpense with
    lastDigestedPaymentId := some payment.id }

/-- The tax group of the commission, in memory, after the payment. -/
def comissionGroup (db : Db) (reportId : String) (payment : Payment) (items : List PaymentItem) (percent taxMax : ℚ) :
    ReportTaxGroup ℚ :=
  let group := ((db.taxGroups.find (reportId, percent, payment.currency)).getD
    (newTaxGroup reportId percent payment.currency)).load
  { group with
    toBaseReport := { group.add (comissionTotals payment.type taxMax items) with
      paymentCount := group.paymentCount + 1 }.netted }

def comissionPercent (db : Db) : ℚ := (db.comissionTaxRate.getD 0 : ℤ)

theorem digest_comission_spec {report : Report ℚ} {u : Unit} (hnative : truthy payment.externalPlatformId = false)
    (h : Returns (digestComissionIncomeForReport report payment accountId) s u t) :
    ∃ taxMax, divideNumberValues (comissionPercent s.db) [comissionPercent s.db + 100] = .ok taxMax ∧
      t.db = { s.db with
        reports := s.db.reports.save (comissionReport report payment (itemsOf payment accountId) taxMax).store
        taxGroups := s.db.taxGroups.save
          (comissionGroup s.db report.id payment (itemsOf payment accountId) (comissionPercent s.db) taxMax).store } := by
  unfold digestComissionIncomeForReport stampTimeAndSaveReport at h
  simp only [hnative, returns_bind, returns_check, foldl_add_comission, Bool.false_eq_true, if_false] at h
  obtain ⟨rate, v, hrate, taxMax, _, ⟨htax, rfl⟩, _, w, hreport, found, x, hfind, hsave⟩ := h
  obtain ⟨rfl, hv⟩ := returns_find hrate
  have hw := returns_save hreport
  obtain ⟨rfl, hx⟩ := returns_find hfind
  refine ⟨taxMax, by simpa [comissionPercent] using htax, ?_⟩
  rw [returns_save hsave, hx, hw, hv]
  simp only [comissionGroup, ← load_newTaxGroup, Option.getD_map, comissionPercent, ComissionTotals.add,
    comissionReport, addNumberValues_eq_sum, List.sum_cons, List.sum_nil, zero_add, add_zero]
  rfl

theorem comissionGroup_key (db : Db) (reportId : String) (payment : Payment) (items : List PaymentItem)
    (percent taxMax : ℚ) :
    (comissionGroup db reportId payment items percent taxMax).store.key = (reportId, percent, payment.currency) := by
  show ReportTaxGroup.key ((db.taxGroups.find (reportId, percent, payment.currency)).getD _) = _
  cases hfind : db.taxGroups.find (reportId, percent, payment.currency) with
  | none => rfl
  | some g =>
    have hkey : g.key = (reportId, percent, payment.currency) := Table.key_of_find hfind
    exact hkey

/-! ## Expenses -/

/-- Only expenses differ. -/
def OnlyExpenses (db db' : Db) : Prop := ∃ expenses, db' = { db with expenses := expenses }

theorem OnlyExpenses.refl (db : Db) : OnlyExpenses db db := ⟨_, rfl⟩

theorem OnlyExpenses.trans {a b c : Db} (h : OnlyExpenses a b) (h' : OnlyExpenses b c) : OnlyExpenses a c := by
  obtain ⟨_, rfl⟩ := h
  obtain ⟨_, rfl⟩ := h'
  exact ⟨_, rfl⟩

theorem save_expenses_only {rows : List (ReportExpense ℚ)} {u : Unit} (h : Returns (saveExpenses rows) s u t) :
    OnlyExpenses s.db t.db := ⟨_, returns_save h⟩

theorem update_expenses_only {owner : String} {platform : PlatformSource} {u : Unit}
    (h : Returns (updateExpensesForReport reportId payment owner accountId platform) s u t) :
    OnlyExpenses s.db t.db := by
  unfold updateExpensesForReport at h
  simp only [returns_bind] at h
  obtain ⟨_, v, hfind, hsave⟩ := h
  rw [← (returns_find hfind).2]
  exact save_expenses_only hsave

theorem add_fees_only {account : String} {fees : List ProviderFee} {u : Unit}
    (h : Returns (addProviderFeeExpenses reportId account fees) s u t) : OnlyExpenses s.db t.db := by
  unfold addProviderFeeExpenses at h
  dsimp only at h
  split at h
  · obtain ⟨-, rfl⟩ := returns_pure.mp h
    exact .refl _
  · simp only [returns_bind] at h
    obtain ⟨_, v, hfind, hsave⟩ := h
    rw [← (returns_find hfind).2]
    exact save_expenses_only hsave

theorem seller_fees_only {account : String} {u : Unit}
    (h : Returns (updateProviderFeeExpenseForReportAccountId reportId payment account) s u t) :
    OnlyExpenses s.db t.db := by
  unfold updateProviderFeeExpenseForReportAccountId at h
  simp only [returns_bind, returns_check] at h
  obtain ⟨_, v, hfind, _, w, hfind', _, _, ⟨-, rfl⟩, h⟩ := h
  rw [← (returns_find hfind).2, ← (returns_find hfind').2]
  split at h
  · obtain ⟨-, rfl⟩ := returns_pure.mp h
    exact .refl _
  · simp only [returns_bind, returns_check] at h
    obtain ⟨_, _, ⟨-, rfl⟩, h⟩ := h
    exact add_fees_only h

theorem platform_fees_only {u : Unit}
    (h : Returns (updateProviderFeeExpenseForPlatformReport reportId payment) s u t) : OnlyExpenses s.db t.db := by
  unfold updateProviderFeeExpenseForPlatformReport at h
  simp only [returns_bind] at h
  obtain ⟨_, v, hfind, h⟩ := h
  rw [← (returns_find hfind).2]
  exact add_fees_only h

theorem refund_rounding_only {report report' : Report ℚ} {r : Report ℤ} {owner : String} (hloaded : report.Loaded r)
    (h : Returns (updateRefundRoundingExpense report payment owner) s report' t) :
    report'.Loaded r ∧ OnlyExpenses s.db t.db := by
  obtain ⟨expense, rfl⟩ := hloaded
  unfold updateRefundRoundingExpense at h
  split at h
  · obtain ⟨rfl, rfl⟩ := returns_pure.mp h
    exact ⟨⟨_, rfl⟩, .refl _⟩
  · simp only [returns_bind] at h
    obtain ⟨_, v, hfind, h⟩ := h
    rw [← (returns_find hfind).2]
    split at h
    · obtain ⟨rfl, rfl⟩ := returns_pure.mp h
      exact ⟨⟨_, rfl⟩, .refl _⟩
    · simp only [returns_bind, returns_pure] at h
      obtain ⟨_, w, hfind', _, _, hsave, rfl, rfl⟩ := h
      rw [← (returns_find hfind').2]
      exact ⟨⟨_, rfl⟩, save_expenses_only hsave⟩

theorem resolve_spec {platform : PlatformSource} (h : Returns (resolveReportPlatform payment) s platform t) :
    t.db = s.db := by
  unfold resolveReportPlatform at h
  split at h
  · rw [(returns_pure.mp h).2]
  · rw [(returns_pure.mp h).2]
  · simp only [returns_bind, returns_check, returns_pure] at h
    obtain ⟨_, v, hfind, _, _, ⟨-, rfl⟩, -, rfl⟩ := h
    exact (returns_find hfind).2

theorem find_or_create_spec {query : ReportQuery} {periodLabel currency id : String} {r : Report ℤ}
    (h : Returns (findOrCreateByQuery query periodLabel currency id) s r t) :
    (r ∈ s.db.reports.rows ∧ t.db = s.db) ∨
    (r = newReport id query periodLabel currency ∧ (∀ r' ∈ s.db.reports.rows, r.conflicts r' = false) ∧
      t.db = { s.db with reports := s.db.reports.save r }) := by
  unfold findOrCreateByQuery at h
  simp only [returns_bind] at h
  obtain ⟨existing, v, hfind, h⟩ := h
  obtain ⟨rfl, hv⟩ := returns_find hfind
  split at h <;> rename_i hexisting
  · obtain ⟨rfl, rfl⟩ := returns_pure.mp h
    exact Or.inl ⟨List.mem_of_find?_eq_some hexisting, hv⟩
  · simp only [returns_bind, returns_check, require_eq_ok, returns_pure] at h
    obtain ⟨_, _, ⟨-, rfl⟩, duplicate, w, hduplicate, _, _, ⟨hnone, rfl⟩, _, x, hsave, rfl, rfl⟩ := h
    obtain ⟨rfl, hw⟩ := returns_find hduplicate
    rw [hv] at hnone hw
    refine Or.inr ⟨rfl, ?_, by rw [returns_save hsave, hw]⟩
    simpa using hnone

/-! ## Relations -/

/-- The relation after its digestion. -/
def completedRelation (relation : ReportPaymentRelation) : ReportPaymentRelation :=
  { relation with digestionStatus := .completed, digestionId := "" }

/-- The owner of the query of a report. -/
def ownerOf (db : Db) (r : Report ℤ) : Option String := (db.queries.find r.queryId).bind (·.ownerAccountId)

/-- `relation` is digested: a payment that is included goes into the report. -/
structure Digested (env : Env) (relation : ReportPaymentRelation) (db db' : Db) (r : Report ℤ) (payment : Payment)
    (account : String) : Prop where
  findReport : db.reports.find relation.reportId = some r
  findPayment : db.payments.find relation.paymentId = some payment
  owner : ownerOf db r = some account
  updates : ∃ s t : Session HttpError Db, s.db = db ∧ Returns (digestIncluded env r.load payment account) s () t ∧
    db' = { t.db with relations := t.db.relations.save (completedRelation relation) }

theorem digest_relation_spec {env : Env} {relation : ReportPaymentRelation} {u : Unit}
    (h : Returns (digestRelation env relation) s u t) :
    (t.db = s.db ∧ ∀ r, s.db.reports.find relation.reportId = some r →
      ownerOf s.db r = none ∨ ownerOf s.db r = some "") ∨
    ∃ r payment account, Digested env relation s.db t.db r payment account := by
  unfold digestRelation at h
  simp only [returns_bind, returns_check, orThrow_eq_ok] at h
  obtain ⟨found, v, hpayment, payment, _, ⟨rfl, rfl⟩, fresh, w, hfresh, h⟩ := h
  obtain ⟨hfound, hv⟩ := returns_find hpayment
  obtain ⟨hfresh, hw⟩ := returns_find hfresh
  rw [hv] at hfresh hw
  have hread : ∀ r, s.db.reports.find relation.reportId = some r → fresh = some (r.load, ownerOf s.db r) := by
    intro r hr
    rw [hfresh, freshReport, hr]
    rfl
  split at h
  · refine Or.inl ⟨by rw [← (returns_pure.mp h).2, hw], fun r hr => ?_⟩
    simp at hread
    exact absurd hr (hread r)
  · refine Or.inl ⟨by rw [← (returns_pure.mp h).2, hw], fun r hr => ?_⟩
    exact Or.inl (Prod.mk.inj (Option.some.inj (hread r hr))).2.symm
  · refine Or.inl ⟨by rw [← (returns_pure.mp h).2, hw], fun r hr => ?_⟩
    exact Or.inr (Prod.mk.inj (Option.some.inj (hread r hr))).2.symm
  · simp only [returns_bind] at h
    obtain ⟨_, x, hdigest, hsave⟩ := h
    obtain ⟨r, hr, hload⟩ := Option.map_eq_some_iff.mp hfresh.symm
    obtain ⟨rfl, howner⟩ := Prod.mk.inj hload
    exact Or.inr ⟨r, payment, _, hr, hfound.symm, howner, w, x, hw, hdigest, returns_save hsave⟩

end Postral.Reports
