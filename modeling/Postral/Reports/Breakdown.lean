import Postral.Lib.Run
import Postral.Reports.Growth

/-!
# The breakdowns of a report

Tax groups, platforms and items split the totals of a report. A digestion adds the same amounts to
the report and to each kind of row.
-/

open Check Session Run

namespace Postral.Reports

/-! ## Runs -/

inductive DigestionAction where
  | digest (relation : ReportPaymentRelation)
  | findOrCreate (query : ReportQuery) (periodLabel currency id : String)
  /-- The rest of the system changes its tables. -/
  | environment (other : Db)

def Db.empty : Db where
  reports := .empty
  taxGroups := .empty
  items := .empty
  platforms := .empty
  expenses := .empty
  relations := .empty
  queries := .empty
  payments := .empty
  operations := .empty
  orders := .empty
  externalPlatforms := .empty
  comissionTaxRate := none

/-- `other` with the reports and rows of `db`. -/
def Db.withReportsOf (other db : Db) : Db :=
  { other with
    reports := db.reports
    taxGroups := db.taxGroups
    items := db.items
    platforms := db.platforms
    expenses := db.expenses }

/-- A successful action. -/
def digestionStep (env : Env) (db : Db) : DigestionAction → Option Db
  | .digest relation => outcome (digestRelation env relation) db
  | .findOrCreate query periodLabel currency id => outcome (findOrCreateByQuery query periodLabel currency id) db
  | .environment other => some (other.withReportsOf db)

/-! ## The invariant -/

/-- The rows of `r` split its totals. -/
structure Agrees (db : Db) (r : Report ℤ) : Prop where
  taxGroups : taxGroupTotals db r.id = r.total
  platforms : platformTotals db r.id = r.total
  items : itemTotals db r.id = r.total
  netted : r.Netted
  taxGroupRows : ∀ g ∈ db.taxGroups.rows, g.reportId = r.id → g.Netted
  platformRows : ∀ p ∈ db.platforms.rows, p.reportId = r.id → p.Netted
  itemRows : ∀ i ∈ db.items.rows, i.reportId = r.id → i.Netted

structure Breakdowns (db : Db) : Prop where
  agrees : ∀ r ∈ db.reports.rows, r.reportType.HasBreakdown → Agrees db r
  taxGroups : ∀ g ∈ db.taxGroups.rows, ∃ r ∈ db.reports.rows, r.id = g.reportId
  platforms : ∀ p ∈ db.platforms.rows, ∃ r ∈ db.reports.rows, r.id = p.reportId
  items : ∀ i ∈ db.items.rows, ∃ r ∈ db.reports.rows, r.id = i.reportId

theorem breakdowns_empty : Breakdowns Db.empty := by
  constructor <;> simp [Db.empty, Table.empty]

/-- Saving a report keeps the others' keys. -/
theorem mem_save_id {reports : Table fun r : Report ℤ => r.id} (r' : Report ℤ) {id : String}
    (h : ∃ r ∈ reports.rows, r.id = id) : ∃ r ∈ (reports.save r').rows, r.id = id := by
  obtain ⟨r, hr, rfl⟩ := h
  by_cases hid : r.id = r'.id
  · exact ⟨r', Table.mem_save.mpr (Or.inl rfl), hid.symm⟩
  · exact ⟨r, Table.mem_save.mpr (Or.inr ⟨hr, hid⟩), rfl⟩

theorem reportAfter_total (r : Report ℤ) (payment : Payment) (added : Total → ℤ) (expense : ℤ) :
    (reportAfter r payment added expense).total = r.total + added := by
  funext c
  exact BaseReport.total_digest r.toBaseReport added c

theorem breakdowns_grown {db db' : Db} {r : Report ℤ} {payment : Payment} {added : Total → ℤ} {expense : ℤ}
    (hinv : Breakdowns db) (hr : r ∈ db.reports.rows) (htype : r.reportType.HasBreakdown)
    (hgrown : Grown db db' r.id added) (hreports : db'.reports = db.reports.save (reportAfter r payment added expense)) :
    Breakdowns db' := by
  have hself : ∃ r' ∈ db'.reports.rows, r'.id = r.id :=
    ⟨reportAfter r payment added expense, hreports ▸ Table.mem_save.mpr (Or.inl rfl), rfl⟩
  have hrow : ∀ {r'}, r' ∈ db'.reports.rows → r' = reportAfter r payment added expense ∨ (r' ∈ db.reports.rows ∧ r'.id ≠ r.id) := by
    intro r' hr'
    rw [hreports] at hr'
    exact Table.mem_save.mp hr'
  refine ⟨fun r' hr' htype' => ?_, fun g hg => ?_, fun p hp => ?_, fun i hi => ?_⟩
  · have htax := hgrown.taxGroups r'.id
    have hplatforms := hgrown.platforms r'.id
    have hitems := hgrown.items r'.id
    rcases hrow hr' with rfl | ⟨hr', hid⟩
    · have hold := hinv.agrees r hr htype
      have hid : (reportAfter r payment added expense).id = r.id := rfl
      rw [hid, if_pos rfl] at htax hplatforms hitems
      refine ⟨?_, ?_, ?_, BaseReport.netted_digest _ _, fun g hg hgid => ?_, fun p hp hpid => ?_, fun i hi hiid => ?_⟩
      · rw [reportAfter_total, hid, htax, hold.taxGroups]
      · rw [reportAfter_total, hid, hplatforms, hold.platforms]
      · rw [reportAfter_total, hid, hitems, hold.items]
      · exact (hgrown.taxGroupRows g hg).elim (fun h => hold.taxGroupRows g h hgid) And.right
      · exact (hgrown.platformRows p hp).elim (fun h => hold.platformRows p h hpid) And.right
      · exact (hgrown.itemRows i hi).elim (fun h => hold.itemRows i h hiid) And.right
    · have hold := hinv.agrees r' hr' htype'
      rw [if_neg hid, add_zero] at htax hplatforms hitems
      refine ⟨htax.trans hold.taxGroups, hplatforms.trans hold.platforms, hitems.trans hold.items, hold.netted,
        fun g hg hgid => ?_, fun p hp hpid => ?_, fun i hi hiid => ?_⟩
      · exact (hgrown.taxGroupRows g hg).elim (fun h => hold.taxGroupRows g h hgid) And.right
      · exact (hgrown.platformRows p hp).elim (fun h => hold.platformRows p h hpid) And.right
      · exact (hgrown.itemRows i hi).elim (fun h => hold.itemRows i h hiid) And.right
  · rcases hgrown.taxGroupRows g hg with hg | ⟨hg, -⟩
    · exact hreports ▸ mem_save_id _ (hinv.taxGroups g hg)
    · exact hg ▸ hself
  · rcases hgrown.platformRows p hp with hp | ⟨hp, -⟩
    · exact hreports ▸ mem_save_id _ (hinv.platforms p hp)
    · exact hp ▸ hself
  · rcases hgrown.itemRows i hi with hi | ⟨hi, -⟩
    · exact hreports ▸ mem_save_id _ (hinv.items i hi)
    · exact hi ▸ hself

/-- The rows of `r` are those of `db`. -/
theorem Agrees.frame {db db' : Db} {r : Report ℤ} (h : Agrees db r)
    (htotals : taxGroupTotals db' r.id = taxGroupTotals db r.id)
    (htaxRows : ∀ g ∈ db'.taxGroups.rows, g.reportId = r.id → g ∈ db.taxGroups.rows)
    (hplatforms : db'.platforms = db.platforms) (hitems : db'.items = db.items) : Agrees db' r where
  taxGroups := htotals.trans h.taxGroups
  platforms := by
    unfold platformTotals
    rw [hplatforms]
    exact h.platforms
  items := by
    unfold itemTotals
    rw [hitems]
    exact h.items
  netted := h.netted
  taxGroupRows g hg hid := h.taxGroupRows g (htaxRows g hg hid) hid
  platformRows := hplatforms ▸ h.platformRows
  itemRows := hitems ▸ h.itemRows

theorem breakdowns_congr {db db' : Db} (hinv : Breakdowns db) (hreports : db'.reports = db.reports)
    (htax : db'.taxGroups = db.taxGroups) (hplatforms : db'.platforms = db.platforms) (hitems : db'.items = db.items) :
    Breakdowns db' := by
  refine ⟨fun r hr htype => ?_, ?_, ?_, ?_⟩
  · refine (hinv.agrees r (hreports ▸ hr) htype).frame ?_ (fun g hg _ => htax ▸ hg) hplatforms hitems
    unfold taxGroupTotals
    rw [htax]
  · rw [htax, hreports]
    exact hinv.taxGroups
  · rw [hplatforms, hreports]
    exact hinv.platforms
  · rw [hitems, hreports]
    exact hinv.items

theorem breakdowns_comission {db db' : Db} {r : Report ℤ} (hinv : Breakdowns db)
    (htype : ¬ r.reportType.HasBreakdown) {payment : Payment} {accountId : Option String}
    (honly : OnlyComission db db' r payment accountId) : Breakdowns db' := by
  obtain ⟨hitems, hplatforms, -, ⟨-, htax, hreports⟩ | ⟨r', g', hadded, hg', hreports, htax⟩⟩ := honly
  · exact breakdowns_congr hinv hreports htax hplatforms hitems
  · refine ⟨fun x hx hxtype => ?_, fun g hg => ?_, fun p hp => ?_, fun i hi => ?_⟩
    · rw [hreports] at hx
      rcases Table.mem_save.mp hx with rfl | ⟨hx, hne⟩
      · exact absurd (hadded.reportType ▸ hxtype) htype
      · have hne' : g'.reportId ≠ x.id := by
          rw [hg', ← hadded.id]
          exact Ne.symm hne
        refine (hinv.agrees x hx hxtype).frame ?_ (fun g hg hgx => ?_) hplatforms hitems
        · unfold taxGroupTotals
          rw [htax, Table.sumOf_save _ _ _ fun y hy => by rw [show y.reportId = g'.reportId from congrArg Prod.fst hy],
            if_neg hne', add_zero]
        · rw [htax] at hg
          rcases Table.mem_save.mp hg with rfl | ⟨hg, -⟩
          · exact absurd hgx hne'
          · exact hg
    · rw [htax] at hg
      rw [hreports]
      rcases Table.mem_save.mp hg with rfl | ⟨hg, -⟩
      · exact ⟨r', Table.mem_save.mpr (Or.inl rfl), hadded.id.trans hg'.symm⟩
      · exact mem_save_id _ (hinv.taxGroups g hg)
    · exact hreports ▸ mem_save_id _ (hinv.platforms p (hplatforms ▸ hp))
    · exact hreports ▸ mem_save_id _ (hinv.items i (hitems ▸ hi))

theorem breakdowns_digest {env : Env} {relation : ReportPaymentRelation} {s t : Session HttpError Db} {u : Unit}
    (hinv : Breakdowns s.db) (h : Returns (digestRelation env relation) s u t) : Breakdowns t.db := by
  rcases digest_relation_spec h with ⟨hdb, -⟩ | ⟨r, payment, account, hdigested⟩
  · rwa [hdb]
  · obtain ⟨v, w, hv, hdigest, hdb⟩ := hdigested.updates
    have hr : r ∈ v.db.reports.rows := hv ▸ Table.mem_of_find hdigested.findReport
    rw [← hv] at hinv
    suffices hw : Breakdowns w.db by
      rw [hdb]
      exact breakdowns_congr hw rfl rfl rfl rfl
    unfold digestIncluded at hdigest
    split at hdigest
    · by_cases htype : r.reportType.HasBreakdown
      · obtain ⟨hgrown, expense, hreports⟩ := digest_breakdown_spec htype hdigest
        exact breakdowns_grown hinv hr htype hgrown hreports
      · exact breakdowns_comission hinv htype (digest_platform_spec htype hdigest)
    · rwa [← (returns_pure.mp hdigest).2]

theorem sumOf_eq_zero {κ ρ : Type} {key : ρ → κ} {table : Table key} {p : ρ → Prop} [DecidablePred p] (f : ρ → Total → ℤ)
    (h : ∀ x ∈ table.rows, ¬ p x) : table.sumOf p f = 0 := by
  unfold Table.sumOf
  rw [List.filter_eq_nil_iff.mpr (by simpa using h)]
  rfl

theorem breakdowns_create {query : ReportQuery} {periodLabel currency id : String} {r : Report ℤ}
    {s t : Session HttpError Db} (hinv : Breakdowns s.db)
    (h : Returns (findOrCreateByQuery query periodLabel currency id) s r t) : Breakdowns t.db := by
  rcases find_or_create_spec h with ⟨-, hdb⟩ | ⟨rfl, hfree, hdb⟩
  · rwa [hdb]
  · have hnew : ∀ r' ∈ s.db.reports.rows, r'.id ≠ id := by
      intro r' hr' hid
      have := hfree r' hr'
      simp [Report.conflicts, newReport, hid] at this
    have hunused : ∀ {x : String}, (∃ r' ∈ s.db.reports.rows, r'.id = x) → x ≠ id := by
      rintro x ⟨r', hr', rfl⟩
      exact hnew r' hr'
    rw [hdb]
    refine ⟨fun r hr htype => ?_, fun g hg => mem_save_id _ (hinv.taxGroups g hg),
      fun p hp => mem_save_id _ (hinv.platforms p hp), fun i hi => mem_save_id _ (hinv.items i hi)⟩
    rcases Table.mem_save.mp hr with rfl | ⟨hr, -⟩
    · have hzero : (newReport id query periodLabel currency).total = 0 := by
        funext c
        cases c <;> rfl
      refine ⟨?_, ?_, ?_, ⟨rfl, rfl, rfl⟩, fun g hg hid => ?_, fun p hp hid => ?_, fun i hi hid => ?_⟩
      · rw [hzero]
        exact sumOf_eq_zero _ fun g hg => hunused (hinv.taxGroups g hg)
      · rw [hzero]
        exact sumOf_eq_zero _ fun p hp => hunused (hinv.platforms p hp)
      · rw [hzero]
        exact sumOf_eq_zero _ fun i hi => hunused (hinv.items i hi)
      · exact absurd hid (hunused (hinv.taxGroups g hg))
      · exact absurd hid (hunused (hinv.platforms p hp))
      · exact absurd hid (hunused (hinv.items i hi))
    · exact (hinv.agrees r hr htype).frame rfl (fun g hg _ => hg) rfl rfl

theorem breakdowns_step {env : Env} {db db' : Db} {action : DigestionAction} (hinv : Breakdowns db)
    (h : digestionStep env db action = some db') : Breakdowns db' := by
  cases action with
  | digest relation =>
    obtain ⟨_, t, hdigest, rfl⟩ := outcome_eq_some.mp h
    exact breakdowns_digest hinv hdigest
  | findOrCreate query periodLabel currency id =>
    obtain ⟨_, t, hcreate, rfl⟩ := outcome_eq_some.mp h
    exact breakdowns_create hinv hcreate
  | environment other =>
    obtain rfl : other.withReportsOf db = db' := Option.some.inj h
    exact breakdowns_congr hinv rfl rfl rfl rfl

/-- In every run, the rows of a report split its totals. -/
theorem breakdowns_of_run {env : Env} {actions : List DigestionAction} {db : Db}
    (h : run (digestionStep env) Db.empty actions = some db) : Breakdowns db := by
  have hstep : ∀ s a s', Breakdowns s → digestionStep env s a = some s' → Breakdowns s' :=
    fun _ _ _ hinv h => breakdowns_step hinv h
  exact run_invariant hstep breakdowns_empty h

/-! ## The breakdowns -/

/-- The sum of a column over the rows of a report. -/
def sumOfTaxGroups (db : Db) (r : Report ℤ) (column : ReportTaxGroup ℤ → ℤ) : ℤ :=
  ((db.taxGroups.rows.filter fun g => g.reportId = r.id).map column).sum

def sumOfPlatforms (db : Db) (r : Report ℤ) (column : ReportPlatform ℤ → ℤ) : ℤ :=
  ((db.platforms.rows.filter fun p => p.reportId = r.id).map column).sum

def sumOfItems (db : Db) (r : Report ℤ) (column : ReportItem ℤ → ℤ) : ℤ :=
  ((db.items.rows.filter fun i => i.reportId = r.id).map column).sum

/-- Every total of `r` is split by each kind of row that has it. -/
structure Balanced (db : Db) (r : Report ℤ) : Prop where
  taxGroups : ∀ total, sumOfTaxGroups db r (fun g => g.total total) = r.total total
  platforms : ∀ total, sumOfPlatforms db r (fun p => p.total total) = r.total total
  items : ∀ total, sumOfItems db r (fun i => i.total total) = r.total total
  taxGroupNets : sumOfTaxGroups db r (·.netTaxAmount) = r.netTaxAmount ∧
    sumOfTaxGroups db r (·.netSaleAmount) = r.netSaleAmount ∧ sumOfTaxGroups db r (·.netRevenue) = r.netRevenue
  platformNets : sumOfPlatforms db r (·.netSaleAmount) = r.netSaleAmount ∧
    sumOfPlatforms db r (·.netRevenue) = r.netRevenue
  itemNets : sumOfItems db r (·.itemTotalAmount) = r.netSaleAmount ∧ sumOfItems db r (·.itemTaxAmount) = r.netTaxAmount
  netSaleAmount : r.netSaleAmount = r.totalSaleAmount - r.totalRefundAmount
  netTaxAmount : r.netTaxAmount = r.totalSaleTaxAmount - r.totalRefundTaxAmount
  netRevenue : r.netRevenue = r.netSaleAmount - r.netTaxAmount

/-- A column that is a difference on every row is one in the sums. -/
theorem sum_filter_sub {ρ : Type} {rows : List ρ} {p : ρ → Prop} [DecidablePred p] {f g h : ρ → ℤ}
    (hsub : ∀ x ∈ rows, p x → f x = g x - h x) :
    ((rows.filter p).map f).sum = ((rows.filter p).map g).sum - ((rows.filter p).map h).sum := by
  induction rows with
  | nil => simp
  | cons x rows ih =>
    have hrest := ih fun y hy => hsub y (List.mem_cons_of_mem _ hy)
    by_cases hx : p x
    · have := hsub x List.mem_cons_self hx
      simp only [List.filter_cons, hx, decide_true, if_true, List.map_cons, List.sum_cons]
      omega
    · simpa [hx] using hrest

theorem sumOf_apply {κ ρ : Type} {key : ρ → κ} (table : Table key) (p : ρ → Prop) [DecidablePred p]
    (f : ρ → Total → ℤ) (total : Total) :
    table.sumOf p f total = ((table.rows.filter p).map fun x => f x total).sum := by
  unfold Table.sumOf
  rw [Pi.list_sum_apply, List.map_map]
  rfl

theorem balanced_of_agrees {db : Db} {r : Report ℤ} (h : Agrees db r) : Balanced db r := by
  have htax : ∀ total, sumOfTaxGroups db r (fun g => g.total total) = r.total total := by
    intro total
    rw [← h.taxGroups]
    exact (sumOf_apply db.taxGroups _ _ total).symm
  have hplatforms : ∀ total, sumOfPlatforms db r (fun p => p.total total) = r.total total := by
    intro total
    rw [← h.platforms]
    exact (sumOf_apply db.platforms _ _ total).symm
  have hitems : ∀ total, sumOfItems db r (fun i => i.total total) = r.total total := by
    intro total
    rw [← h.items]
    exact (sumOf_apply db.items _ _ total).symm
  have htaxTax : sumOfTaxGroups db r (·.netTaxAmount) = r.netTaxAmount := by
    rw [h.netted.netTaxAmount]
    exact (sum_filter_sub fun g hg hid => (h.taxGroupRows g hg hid).netTaxAmount).trans
      (congrArg₂ _ (htax .saleTax) (htax .refundTax))
  have htaxSale : sumOfTaxGroups db r (·.netSaleAmount) = r.netSaleAmount := by
    rw [h.netted.netSaleAmount]
    exact (sum_filter_sub fun g hg hid => (h.taxGroupRows g hg hid).netSaleAmount).trans
      (congrArg₂ _ (htax .sale) (htax .refund))
  have hplatformSale : sumOfPlatforms db r (·.netSaleAmount) = r.netSaleAmount := by
    rw [h.netted.netSaleAmount]
    exact (sum_filter_sub fun p hp hid => (h.platformRows p hp hid).netSaleAmount).trans
      (congrArg₂ _ (hplatforms .sale) (hplatforms .refund))
  have hplatformTax : sumOfPlatforms db r (fun p => p.totalSaleTaxAmount - p.totalRefundTaxAmount) = r.netTaxAmount := by
    rw [h.netted.netTaxAmount]
    exact (sum_filter_sub fun p _ _ => rfl).trans (congrArg₂ _ (hplatforms .saleTax) (hplatforms .refundTax))
  refine ⟨htax, hplatforms, hitems, ⟨htaxTax, htaxSale, ?_⟩, ⟨hplatformSale, ?_⟩, ⟨?_, ?_⟩, h.netted.netSaleAmount,
    h.netted.netTaxAmount, h.netted.netRevenue⟩
  · rw [h.netted.netRevenue]
    exact (sum_filter_sub fun g hg hid => (h.taxGroupRows g hg hid).netRevenue).trans (congrArg₂ _ htaxSale htaxTax)
  · rw [h.netted.netRevenue]
    exact (sum_filter_sub fun p hp hid => (h.platformRows p hp hid).netRevenue).trans
      (congrArg₂ _ hplatformSale hplatformTax)
  · rw [h.netted.netSaleAmount]
    exact (sum_filter_sub fun i hi hid => (h.itemRows i hi hid).itemTotalAmount).trans
      (congrArg₂ _ (hitems .sale) (hitems .refund))
  · rw [h.netted.netTaxAmount]
    exact (sum_filter_sub fun i hi hid => (h.itemRows i hi hid).itemTaxAmount).trans
      (congrArg₂ _ (hitems .saleTax) (hitems .refundTax))

def sampleEnv : Env where
  toLowerCase text := String.ofList (text.toList.map Char.toLower)
  identityHash name variation := name ++ variation

def sampleItem (id itemId : String) (total tax percent : ℤ) : PaymentItem where
  id := id
  itemId := itemId
  variation := "DEFAULT"
  name := itemId
  quantity := 10000
  totalAmount := total
  originalUnitAmount := total
  taxAmount := tax
  taxPercent := percent
  sellerAccountId := some "seller"

def samplePayment (id : String) (type : PaymentType) (items : Table PaymentItem.id) : Payment where
  id := id
  type := type
  totalAmount := items.total (·.totalAmount)
  taxAmount := items.total (·.taxAmount)
  currency := "TRY"
  items := items
  customerAccountId := some "customer"
  paymentStatus := .completed

def sampleDb : Db :=
  { Db.empty with
    queries := Table.empty.save ⟨"query", some "seller", some "TRY", .daily, .seller⟩
    payments := (Table.empty.save (samplePayment "sale" .purchase
      ((Table.empty.save (sampleItem "line-1" "book" 1100000 100000 100000)).save
        (sampleItem "line-2" "pen" 600000 100000 200000)))).save
      (samplePayment "return" .refund (Table.empty.save (sampleItem "line-3" "pen" 600000 100000 200000)))
    orders := (Table.empty.save ⟨"sale", "seller", 1700000⟩).save ⟨"return", "seller", 600000⟩ }

def sampleActions : List DigestionAction :=
  [.environment sampleDb, .findOrCreate ⟨"query", some "seller", some "TRY", .daily, .seller⟩ "2026-01-05" "TRY" "report",
    .digest ⟨"report", "sale", some "seller", .digesting, "run"⟩, .digest ⟨"report", "return", some "seller", .digesting, "run"⟩]

end Postral.Reports
