import Postral.Reports.Updates

/-! # What a digestion adds to the rows of a report -/

open Session

namespace Postral.Reports

/-! ## Sums of rows -/

def taxGroupTotals (db : Db) (reportId : String) : Total → ℤ :=
  db.taxGroups.sumOf (fun g => g.reportId = reportId) fun g => g.total

def platformTotals (db : Db) (reportId : String) : Total → ℤ :=
  db.platforms.sumOf (fun p => p.reportId = reportId) fun p => p.total

def itemTotals (db : Db) (reportId : String) : Total → ℤ :=
  db.items.sumOf (fun i => i.reportId = reportId) fun i => i.total

/-- Net amounts are sales minus refunds, and revenue is without tax. -/
structure BaseReport.Netted (r : BaseReport ℤ) : Prop where
  netTaxAmount : r.netTaxAmount = r.totalSaleTaxAmount - r.totalRefundTaxAmount
  netSaleAmount : r.netSaleAmount = r.totalSaleAmount - r.totalRefundAmount
  netRevenue : r.netRevenue = r.netSaleAmount - r.netTaxAmount

structure ReportPlatform.Netted (p : ReportPlatform ℤ) : Prop where
  netSaleAmount : p.netSaleAmount = p.totalSaleAmount - p.totalRefundAmount
  netRevenue : p.netRevenue = p.netSaleAmount - (p.totalSaleTaxAmount - p.totalRefundTaxAmount)

structure ReportItem.Netted (i : ReportItem ℤ) : Prop where
  itemTotalAmount : i.itemTotalAmount = i.purchasedTotalAmount - i.refundedTotalAmount
  itemTaxAmount : i.itemTaxAmount = i.purchasedTaxAmount - i.refundedTaxAmount

theorem BaseReport.netted_digest (r : BaseReport ℤ) (added : Total → ℤ) : (r.digest added).Netted := by
  constructor <;> simp [digest, netted, add]

theorem ReportPlatform.netted_digest (p : ReportPlatform ℤ) (type : PaymentType) (items : List PaymentItem) :
    (p.digest type items).Netted := by
  constructor <;> simp [digest, netted]

/-! ## Tax groups -/

variable {s t : Session HttpError Db} {payment : Payment} {reportId : String} {accountId : Option String}

theorem perm_taxPercents (items : List PaymentItem) :
    (taxPercents items).Perm (items.map fun item => fromColumn item.taxPercent).dedup := by
  unfold taxPercents
  exact ((List.perm_insertionSort _ _).append_right _).trans (List.filter_append_perm _ _)

theorem nodup_taxPercents (items : List PaymentItem) : (taxPercents items).Nodup :=
  (perm_taxPercents items).nodup_iff.mpr (List.nodup_dedup _)

theorem mem_taxPercents {items : List PaymentItem} {item : PaymentItem} (h : item ∈ items) :
    fromColumn item.taxPercent ∈ taxPercents items := by
  rw [(perm_taxPercents items).mem_iff, List.mem_dedup]
  exact List.mem_map.mpr ⟨item, h, rfl⟩

/-- The items of a payment with a tax percent. -/
def itemsInGroup (payment : Payment) (accountId : Option String) (percentGroup : ℚ) : List PaymentItem :=
  (itemsOf payment accountId).filter fun item => fromColumn item.taxPercent = percentGroup

theorem sum_taxPercents (payment : Payment) (accountId : Option String) :
    ((taxPercents (itemsOf payment accountId)).map fun percentGroup =>
      totalsOf payment.type (itemsInGroup payment accountId percentGroup)).sum =
    totalsOf payment.type (itemsOf payment accountId) := by
  apply List.sum_map_groups (fun item : PaymentItem => fromColumn item.taxPercent) _ (nodup_taxPercents _)
  exact fun _ => mem_taxPercents

theorem taxGroupAfter_key (db : Db) (reportId : String) (payment : Payment) (accountId : Option String)
    (percentGroup : ℚ) :
    (taxGroupAfter db reportId payment accountId percentGroup).key = (reportId, percentGroup, payment.currency) := by
  show ReportTaxGroup.key ((db.taxGroups.find (reportId, percentGroup, payment.currency)).getD _) = _
  cases hfind : db.taxGroups.find (reportId, percentGroup, payment.currency) with
  | none => rfl
  | some g => exact Table.key_of_find hfind

theorem tax_group_totals_save {db db' : Db} {percentGroup : ℚ}
    (hdb : db' = { db with taxGroups := db.taxGroups.save (taxGroupAfter db reportId payment accountId percentGroup) })
    (id : String) : taxGroupTotals db' id = taxGroupTotals db id +
      if id = reportId then totalsOf payment.type (itemsInGroup payment accountId percentGroup) else 0 := by
  subst hdb
  have hkey := taxGroupAfter_key db reportId payment accountId percentGroup
  have hreport : (taxGroupAfter db reportId payment accountId percentGroup).reportId = reportId := congrArg Prod.fst hkey
  unfold taxGroupTotals
  rw [Table.sumOf_group_save (fun g : ReportTaxGroup ℤ => g.reportId) (newTaxGroup reportId percentGroup payment.currency)
    (totalsOf payment.type (itemsInGroup payment accountId percentGroup)) (fun x y h => congrArg Prod.fst h), hreport]
  · funext c
    cases c <;> rfl
  · rw [hkey]
    funext c
    exact BaseReport.total_digest _ _ c

/-- What the tax groups have gained after `done`. -/
theorem tax_groups_spec {u : Unit}
    (h : Returns (updateTaxGroupReportByPaymentAndAccountId reportId payment accountId) s u t) :
    (∃ taxGroups, t.db = { s.db with taxGroups := taxGroups }) ∧
    (∀ id, taxGroupTotals t.db id = taxGroupTotals s.db id +
      if id = reportId then totalsOf payment.type (itemsOf payment accountId) else 0) ∧
    ∀ g ∈ t.db.taxGroups.rows, g ∈ s.db.taxGroups.rows ∨ (g.reportId = reportId ∧ g.Netted) := by
  unfold updateTaxGroupReportByPaymentAndAccountId at h
  rw [← sum_taxPercents payment accountId]
  refine forM_invariant (fun done db => (∃ taxGroups, db = { s.db with taxGroups := taxGroups }) ∧
    (∀ id, taxGroupTotals db id = taxGroupTotals s.db id + if id = reportId then
      (done.map fun percentGroup => totalsOf payment.type (itemsInGroup payment accountId percentGroup)).sum else 0) ∧
    ∀ g ∈ db.taxGroups.rows, g ∈ s.db.taxGroups.rows ∨ (g.reportId = reportId ∧ g.Netted)) h ?_ ?_
  · exact ⟨⟨_, rfl⟩, by simp, fun g hg => Or.inl hg⟩
  · rintro done percentGroup - v w w' hstep ⟨⟨groups, hdb⟩, htotals, hrows⟩
    have hw := update_tax_group_spec hstep
    refine ⟨⟨_, by rw [hw, hdb]⟩, fun id => ?_, fun g hg => ?_⟩
    · rw [tax_group_totals_save hw, htotals]
      by_cases hid : id = reportId <;> simp [hid, add_assoc]
    · rw [hw] at hg
      rcases Table.mem_save.mp hg with rfl | ⟨hg, -⟩
      · right
        exact ⟨congrArg Prod.fst (taxGroupAfter_key w.db reportId payment accountId percentGroup),
          BaseReport.netted_digest _ _⟩
      · exact hrows g hg

/-! ## Items -/

/-- The totals of a row in memory have four decimals. -/
def ReportItem.Exact (row : ReportItem ℚ) : Prop := ∀ c, row.total c = fromColumn (row.store.total c)

/-- The rows in memory are the stored ones. -/
def Tracks (db : Db) (reportId account : String) (mapped : ItemMap) : Prop :=
  ∀ key row, mapped key = some row → db.items.find (reportId, account, key) = some row.store ∧ row.Exact

theorem ReportItem.total_store (row : ReportItem ℚ) (c : Total) : row.store.total c = toColumn (row.total c) :=
  total_map _ _ row c

theorem exact_of_total {row : ReportItem ℚ} {total : Total → ℤ} (h : ∀ c, row.total c = fromColumn (total c)) :
    row.Exact ∧ row.store.total = total := by
  have htotal : row.store.total = total := by
    funext c
    rw [ReportItem.total_store, h, toColumn_fromColumn]
  exact ⟨fun c => by rw [htotal, h], htotal⟩

theorem netted_store {row : ReportItem ℚ} (hexact : row.Exact)
    (hnet : row.itemTotalAmount = row.purchasedTotalAmount - row.refundedTotalAmount ∧
      row.itemTaxAmount = row.purchasedTaxAmount - row.refundedTaxAmount) : row.store.Netted := by
  have hsale : row.purchasedTotalAmount = fromColumn row.store.purchasedTotalAmount := hexact .sale
  have hrefund : row.refundedTotalAmount = fromColumn row.store.refundedTotalAmount := hexact .refund
  have hsaleTax : row.purchasedTaxAmount = fromColumn row.store.purchasedTaxAmount := hexact .saleTax
  have hrefundTax : row.refundedTaxAmount = fromColumn row.store.refundedTaxAmount := hexact .refundTax
  constructor
  · show toColumn row.itemTotalAmount = _
    rw [hnet.1, hsale, hrefund, ← fromColumn_sub, toColumn_fromColumn]
  · show toColumn row.itemTaxAmount = _
    rw [hnet.2, hsaleTax, hrefundTax, ← fromColumn_sub, toColumn_fromColumn]

theorem report_item_before_spec {db : Db} {account : String} {mapped : ItemMap} (key : String) (item : PaymentItem)
    (htracks : Tracks db reportId account mapped) :
    (reportItemBefore db mapped reportId account key item).store.key = (reportId, account, key) ∧
    ∀ c, (reportItemBefore db mapped reportId account key item).total c = fromColumn
      (((db.items.find (reportId, account, key)).getD (newReportItem reportId account key item)).total c) := by
  unfold reportItemBefore
  cases hmapped : mapped key with
  | some row =>
    obtain ⟨hfind, hexact⟩ := htracks key row hmapped
    rw [hfind]
    exact ⟨Table.key_of_find hfind, hexact⟩
  | none =>
    cases hfind : db.items.find (reportId, account, key) with
    | some row =>
      have hkey : row.key = (reportId, account, key) := Table.key_of_find hfind
      exact ⟨hkey, fun c => ReportItem.total_map _ _ row c⟩
    | none => exact ⟨rfl, fun c => by cases c <;> simp [newReportItem, ReportItem.total]⟩

/-- One item of the payment. -/
theorem update_report_item_totals {env : Env} {account : String} {type : PaymentType} {mapped mapped' : ItemMap}
    {item : PaymentItem} (htracks : Tracks s.db reportId account mapped)
    (h : Returns (updateReportItem env reportId account type mapped item) s mapped' t) :
    Tracks t.db reportId account mapped' ∧
    (∀ id, itemTotals t.db id = itemTotals s.db id + if id = reportId then itemTotal type item else 0) ∧
    (∃ items, t.db = { s.db with items := items }) ∧
    ∀ i ∈ t.db.items.rows, i ∈ s.db.items.rows ∨ (i.reportId = reportId ∧ i.Netted) := by
  obtain ⟨key, -, rfl, hdb⟩ := update_report_item_spec h
  obtain ⟨hkey, hbefore⟩ := report_item_before_spec key item htracks
  revert hkey hbefore hdb
  generalize reportItemBefore s.db mapped reportId account key item = before
  intro hdb hkey hbefore
  have htotal : ∀ c, (addToReportItem type item before).total c = fromColumn
      ((((s.db.items.find (reportId, account, key)).getD (newReportItem reportId account key item)).total +
        itemTotal type item) c) := by
    intro c
    rw [total_add_to_report_item, hbefore, ← fromColumn_add]
    rfl
  obtain ⟨hexact, hstore⟩ := exact_of_total htotal
  have hkey' := (add_to_report_item_key type item before).trans hkey
  have hreport : (addToReportItem type item before).store.reportId = reportId := congrArg Prod.fst hkey'
  have hnet := net_add_to_report_item type item before
  generalize addToReportItem type item before = after at *
  refine ⟨?_, fun id => ?_, ⟨_, hdb⟩, fun i hi => ?_⟩
  · intro k row hrow
    rw [hdb, Table.find_save, hkey']
    rw [Function.update_apply] at hrow
    split at hrow <;> rename_i hk
    · obtain rfl := Option.some.inj hrow
      subst hk
      exact ⟨if_pos rfl, hexact⟩
    · rw [if_neg (by simpa using hk)]
      exact htracks k row hrow
  · rw [hdb]
    unfold itemTotals
    rw [Table.sumOf_group_save (fun i : ReportItem ℤ => i.reportId) (newReportItem reportId account key item)
      (itemTotal type item) (fun x y h => congrArg Prod.fst h), hreport]
    · funext c
      cases c <;> rfl
    · rw [hkey', hstore]
  · rw [hdb] at hi
    rcases Table.mem_save.mp hi with rfl | ⟨hi, -⟩
    · exact Or.inr ⟨hreport, netted_store hexact hnet⟩
    · exact Or.inl hi

theorem items_spec {env : Env} {u : Unit}
    (h : Returns (updatePaymentItemReport env reportId payment accountId) s u t) :
    (∃ items, t.db = { s.db with items := items }) ∧
    (∀ id, itemTotals t.db id = itemTotals s.db id +
      if id = reportId then totalsOf payment.type (itemsOf payment accountId) else 0) ∧
    ∀ i ∈ t.db.items.rows, i ∈ s.db.items.rows ∨ (i.reportId = reportId ∧ i.Netted) := by
  unfold updatePaymentItemReport at h
  simp only [returns_bind, returns_pure] at h
  obtain ⟨mapped, w, hloop, -, rfl⟩ := h
  refine (foldlM_invariant (fun done mapped db => Tracks db reportId (reportAccountId accountId) mapped ∧
    (∃ items, db = { s.db with items := items }) ∧
    (∀ id, itemTotals db id = itemTotals s.db id + if id = reportId then totalsOf payment.type done else 0) ∧
    ∀ i ∈ db.items.rows, i ∈ s.db.items.rows ∨ (i.reportId = reportId ∧ i.Netted)) hloop ?_ ?_).2
  · exact ⟨fun _ _ h => by simp at h, ⟨_, rfl⟩, by simp [totalsOf_nil], fun i hi => Or.inl hi⟩
  · rintro done item - mapped v mapped' v' hstep ⟨htracks, ⟨items, hdb⟩, htotals, hrows⟩
    obtain ⟨htracks', htotals', ⟨items', hdb'⟩, hrows'⟩ := update_report_item_totals htracks hstep
    refine ⟨htracks', ⟨items', by rw [hdb', hdb]⟩, fun id => ?_, fun i hi => ?_⟩
    · rw [htotals', htotals, totalsOf_append, totalsOf_cons, totalsOf_nil]
      by_cases hid : id = reportId <;> simp [hid, add_assoc]
    · rcases hrows' i hi with hi | hi
      · exact hrows i hi
      · exact Or.inr hi

/-! ## Platforms -/

theorem platformBefore_key (db : Db) (reportId : String) (accountId : Option String) (platform : PlatformSource) :
    (platformBefore db reportId accountId platform).key =
      (reportId, reportAccountId accountId, platform.platformKey) := by
  unfold platformBefore
  cases hfind : db.platforms.find (reportId, reportAccountId accountId, platform.platformKey) with
  | none => rfl
  | some p =>
    have hkey : p.key = (reportId, reportAccountId accountId, platform.platformKey) := Table.key_of_find hfind
    exact hkey

theorem digest_key (p : ReportPlatform ℤ) (type : PaymentType) (items : List PaymentItem) :
    (p.digest type items).key = p.key := by
  cases type <;> rfl

theorem platforms_spec {platform : PlatformSource} {u : Unit}
    (h : Returns (updatePlatformReport reportId payment platform accountId) s u t) :
    (∃ platforms, t.db = { s.db with platforms := platforms }) ∧
    (∀ id, platformTotals t.db id = platformTotals s.db id +
      if id = reportId then totalsOf payment.type (itemsOf payment accountId) else 0) ∧
    ∀ p ∈ t.db.platforms.rows, p ∈ s.db.platforms.rows ∨ (p.reportId = reportId ∧ p.Netted) := by
  rcases update_platform_report_spec h with ⟨hitems, hdb⟩ | ⟨-, -, hdb⟩
  · rw [hdb, hitems]
    exact ⟨⟨_, rfl⟩, by simp [totalsOf_nil], fun p hp => Or.inl hp⟩
  · have hkey := (digest_key _ payment.type (itemsOf payment accountId)).trans
      (platformBefore_key s.db reportId accountId platform)
    have hreport : ((platformBefore s.db reportId accountId platform).digest payment.type
      (itemsOf payment accountId)).reportId = reportId := congrArg Prod.fst hkey
    refine ⟨⟨_, hdb⟩, fun id => ?_, fun p hp => ?_⟩
    · rw [hdb]
      unfold platformTotals
      rw [Table.sumOf_group_save (fun p : ReportPlatform ℤ => p.reportId)
        (newReportPlatform reportId (reportAccountId accountId) platform)
        (totalsOf payment.type (itemsOf payment accountId)) (fun x y h => congrArg Prod.fst h), hreport]
      · funext c
        cases c <;> rfl
      · rw [hkey]
        funext c
        exact ReportPlatform.total_digest _ _ _ c
    · rw [hdb] at hp
      rcases Table.mem_save.mp hp with rfl | ⟨hp, -⟩
      · exact Or.inr ⟨hreport, ReportPlatform.netted_digest _ _ _⟩
      · exact Or.inl hp

/-! ## A digestion -/

/-- A digestion reads these and leaves them alone. -/
def SameInputs (db db' : Db) : Prop := db'.queries = db.queries ∧ db'.payments = db.payments

/-- The rows of `reportId` have grown by `added`, and no others. -/
structure Grown (db db' : Db) (reportId : String) (added : Total → ℤ) : Prop where
  taxGroups : ∀ id, taxGroupTotals db' id = taxGroupTotals db id + if id = reportId then added else 0
  platforms : ∀ id, platformTotals db' id = platformTotals db id + if id = reportId then added else 0
  items : ∀ id, itemTotals db' id = itemTotals db id + if id = reportId then added else 0
  taxGroupRows : ∀ g ∈ db'.taxGroups.rows, g ∈ db.taxGroups.rows ∨ (g.reportId = reportId ∧ g.Netted)
  platformRows : ∀ p ∈ db'.platforms.rows, p ∈ db.platforms.rows ∨ (p.reportId = reportId ∧ p.Netted)
  itemRows : ∀ i ∈ db'.items.rows, i ∈ db.items.rows ∨ (i.reportId = reportId ∧ i.Netted)
  inputs : SameInputs db db'

/-- The reports whose rows split their totals. -/
def ReportType.HasBreakdown (type : ReportType) : Prop := type = .seller ∨ type = .platformFlow

/-- The items that a report counts: those of its owner, or all of them. -/
def ReportType.counted (type : ReportType) (ownerAccountId : String) : Option String :=
  match type with
  | .seller | .platformSeller => some ownerAccountId
  | .platform | .platformFlow => none

/-- The updates that a seller's report and the platform's have in common. -/
theorem rows_grow {env : Env} {report : Report ℚ} {r : Report ℤ} {platform : PlatformSource} {owner : String}
    {s₀ : Session HttpError Db} (hexpenses : OnlyExpenses s₀.db s.db) (hloaded : report.Loaded r)
    (h : Returns (do
      digestTotals report payment accountId owner
      updateTaxGroupReportByPaymentAndAccountId r.id payment accountId
      updatePaymentItemReport env r.id payment accountId
      updatePlatformReport r.id payment platform accountId) s () t) :
    Grown s₀.db t.db r.id (totalsOf payment.type (itemsOf payment accountId)) ∧
    ∃ expense, t.db.reports = s₀.db.reports.save
      (reportAfter r payment (totalsOf payment.type (itemsOf payment accountId)) expense) := by
  simp only [returns_bind] at h
  obtain ⟨_, a, htotals, _, b, htax, _, c, hitems, hplatforms⟩ := h
  obtain ⟨expenses, hs⟩ := hexpenses
  have ha := digest_totals_spec hloaded htotals
  obtain ⟨⟨groups, hb⟩, htaxTotals, htaxRows⟩ := tax_groups_spec htax
  obtain ⟨⟨items, hc⟩, hitemTotals, hitemRows⟩ := items_spec hitems
  obtain ⟨⟨platforms, ht⟩, hplatformTotals, hplatformRows⟩ := platforms_spec hplatforms
  rw [hs] at ha
  rw [ha] at hb htaxTotals htaxRows
  rw [hb] at hc hitemTotals hitemRows
  rw [hc] at ht hplatformTotals hplatformRows
  refine ⟨⟨fun id => ?_, hplatformTotals, fun id => ?_, ?_, hplatformRows, ?_, ?_⟩, _, by rw [ht]⟩
  · have := htaxTotals id
    rw [hb] at this
    rw [ht]
    exact this
  · have := hitemTotals id
    rw [hc] at this
    rw [ht]
    exact this
  · rw [hb] at htaxRows
    rw [ht]
    exact htaxRows
  · rw [hc] at hitemRows
    rw [ht]
    exact hitemRows
  · rw [ht]
    exact ⟨rfl, rfl⟩

theorem digest_breakdown_spec {env : Env} {r : Report ℤ} {owner : String} {u : Unit}
    (htype : r.reportType.HasBreakdown) (h : Returns (digestReport env r.load payment owner) s u t) :
    Grown s.db t.db r.id (totalsOf payment.type (itemsOf payment (r.reportType.counted owner))) ∧
    ∃ expense, t.db.reports = s.db.reports.save
      (reportAfter r payment (totalsOf payment.type (itemsOf payment (r.reportType.counted owner))) expense) := by
  unfold digestReport at h
  have hload : r.load.reportType = r.reportType := rfl
  rcases htype with htype | htype
  · rw [hload, htype] at h
    simp only at h
    obtain ⟨platform, a, hresolve, h⟩ := returns_bind.mp h
    obtain ⟨_, b, hexpenses, h⟩ := returns_bind.mp h
    obtain ⟨_, c, hfees, h⟩ := returns_bind.mp h
    have hab := resolve_spec hresolve
    have hac := (update_expenses_only hexpenses).trans (seller_fees_only hfees)
    rw [hab] at hac
    rw [htype]
    exact rows_grow hac (loaded_load r) h
  · rw [hload, htype] at h
    simp only at h
    obtain ⟨platform, a, hresolve, h⟩ := returns_bind.mp h
    obtain ⟨_, b, hexpenses, h⟩ := returns_bind.mp h
    obtain ⟨_, c, hfees, h⟩ := returns_bind.mp h
    obtain ⟨report, d, hrounding, h⟩ := returns_bind.mp h
    obtain ⟨⟨_, rfl⟩, honly⟩ := refund_rounding_only (loaded_load r) hrounding
    have hab := resolve_spec hresolve
    have had := ((update_expenses_only hexpenses).trans (platform_fees_only hfees)).trans honly
    rw [hab] at had
    rw [htype]
    exact rows_grow had ⟨_, rfl⟩ h

/-- The commission of a payment in the totals, for those that are exact. -/
def comissionTotal (payment : Payment) (accountId : Option String) : Total → ℤ
  | .sale => if truthy payment.externalPlatformId ∨ payment.type ≠ .purchase then 0 else
      comissionOf (itemsOf payment accountId)
  | .refund => if truthy payment.externalPlatformId ∨ payment.type ≠ .refund then 0 else
      comissionOf (itemsOf payment accountId)
  | _ => 0

/-- `r'` is `r` after the commission of the payment. -/
structure ComissionAdded (r r' : Report ℤ) (payment : Payment) (accountId : Option String) : Prop where
  id : r'.id = r.id
  reportType : r'.reportType = r.reportType
  queryId : r'.queryId = r.queryId
  sale : r'.totalSaleAmount = r.totalSaleAmount + comissionTotal payment accountId .sale
  refund : r'.totalRefundAmount = r.totalRefundAmount + comissionTotal payment accountId .refund

/-- The commission changes the report and one of its tax groups, or nothing. -/
def OnlyComission (db db' : Db) (r : Report ℤ) (payment : Payment) (accountId : Option String) : Prop :=
  db'.items = db.items ∧ db'.platforms = db.platforms ∧ SameInputs db db' ∧
  ((truthy payment.externalPlatformId ∧ db'.taxGroups = db.taxGroups ∧ db'.reports = db.reports) ∨
    ∃ r' g, ComissionAdded r r' payment accountId ∧ g.reportId = r.id ∧
      db'.reports = db.reports.save r' ∧ db'.taxGroups = db.taxGroups.save g)

theorem comission_report_totals (payment : Payment) (report : Report ℚ) (items : List PaymentItem) (taxMax : ℚ) :
    (comissionReport report payment items taxMax).totalSaleAmount =
      report.totalSaleAmount + comissionTotals payment.type taxMax items .sale ∧
    (comissionReport report payment items taxMax).totalRefundAmount =
      report.totalRefundAmount + comissionTotals payment.type taxMax items .refund := by
  unfold comissionReport
  dsimp only
  split <;> exact ⟨rfl, rfl⟩

theorem comission_added {report : Report ℚ} {r : Report ℤ} {taxMax : ℚ} (hnative : truthy payment.externalPlatformId = false)
    (hloaded : report.Loaded r) :
    ComissionAdded r (comissionReport report payment (itemsOf payment accountId) taxMax).store payment accountId := by
  obtain ⟨hsale, hrefund⟩ := comission_report_totals payment report (itemsOf payment accountId) taxMax
  obtain ⟨_, rfl⟩ := hloaded
  refine ⟨rfl, rfl, rfl, ?_, ?_⟩
  · show toColumn _ = _
    rw [hsale]
    cases htype : payment.type <;>
      simp [comissionTotals, comissionTotal, hnative, htype, ← fromColumn_add, Report.load, Report.map, BaseReport.map]
  · show toColumn _ = _
    rw [hrefund]
    cases htype : payment.type <;>
      simp [comissionTotals, comissionTotal, hnative, htype, ← fromColumn_add, Report.load, Report.map, BaseReport.map]

theorem digest_comission_only {report : Report ℚ} {r : Report ℤ} {s₀ : Session HttpError Db} {u : Unit}
    (hloaded : report.Loaded r) (hexpenses : OnlyExpenses s₀.db s.db)
    (h : Returns (digestComissionIncomeForReport report payment accountId) s u t) :
    OnlyComission s₀.db t.db r payment accountId := by
  obtain ⟨expenses, hs⟩ := hexpenses
  cases hnative : truthy payment.externalPlatformId with
  | true =>
    unfold digestComissionIncomeForReport at h
    rw [if_pos hnative] at h
    rw [← (returns_pure.mp h).2, hs]
    exact ⟨rfl, rfl, ⟨rfl, rfl⟩, Or.inl ⟨hnative, rfl, rfl⟩⟩
  | false =>
    obtain ⟨taxMax, -, ht⟩ := digest_comission_spec hnative h
    have hid : report.id = r.id := by
      obtain ⟨_, rfl⟩ := hloaded
      rfl
    have hgroup : (comissionGroup s.db report.id payment (itemsOf payment accountId) (comissionPercent s.db)
        taxMax).store.reportId = r.id :=
      (congrArg Prod.fst (comissionGroup_key s.db report.id payment (itemsOf payment accountId) (comissionPercent s.db)
        taxMax)).trans hid
    revert ht hgroup
    generalize (comissionGroup s.db report.id payment (itemsOf payment accountId) (comissionPercent s.db) taxMax).store = g
    intro ht hgroup
    rw [ht, hs]
    exact ⟨rfl, rfl, ⟨rfl, rfl⟩, Or.inr ⟨_, g, comission_added hnative hloaded, hgroup, rfl, rfl⟩⟩

theorem digest_platform_spec {env : Env} {r : Report ℤ} {owner : String} {u : Unit}
    (htype : ¬ r.reportType.HasBreakdown) (h : Returns (digestReport env r.load payment owner) s u t) :
    OnlyComission s.db t.db r payment (r.reportType.counted owner) := by
  unfold digestReport at h
  have hload : r.load.reportType = r.reportType := rfl
  rw [hload] at h
  cases hr : r.reportType with
  | seller => exact absurd (Or.inl hr) htype
  | platformFlow => exact absurd (Or.inr hr) htype
  | platformSeller =>
    rw [hr] at h
    exact digest_comission_only (loaded_load r) (.refl _) h
  | platform =>
    rw [hr] at h
    simp only at h
    split at h
    · exact digest_comission_only (loaded_load r) (.refl _) h
    · simp only [returns_bind] at h
      obtain ⟨_, a, hfees, report, b, hrounding, h⟩ := h
      obtain ⟨hloaded, honly⟩ := refund_rounding_only (loaded_load r) hrounding
      exact digest_comission_only hloaded ((platform_fees_only hfees).trans honly) h

end Postral.Reports
