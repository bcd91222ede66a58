import Postral.Reports.Breakdown
import Postral.Reports.Charges

/-!
# The expense total of a report

Each report has one account whose `REPORT_TOTAL` it reads back. The total is right as long as no
expense of the report goes to another account, and no half is rounded the other way.
-/

open Check Session Run Rounding

namespace Postral.Reports

/-! ## The sums of a report -/

/-- Sum of the expenses of a report whose key meets `p`. -/
def expenseSum (db : Db) (reportId : String) (p : String → Bool) : ℤ :=
  db.expenses.sumOf (fun e => e.reportId = reportId ∧ p e.expenseKey = true) (·.expenseAmount)

structure ExpensesConsistent (db : Db) (r : Report ℤ) : Prop where
  totalExpense : r.totalExpense = expenseSum db r.id isTopLevel
  single : (db.expenses.rows.filter fun e => e.reportId = r.id ∧ e.expenseKey = reportTotal).length ≤ 1
  netRevenue : r.netRevenueWithoutExpense = r.netRevenue - r.totalExpense

instance (db : Db) (r : Report ℤ) : Decidable (ExpensesConsistent db r) :=
  decidable_of_iff _ ⟨fun h => ⟨h.1, h.2.1, h.2.2⟩, fun h => And.intro h.totalExpense (And.intro h.single h.netRevenue)⟩

/-- The expenses between two updates of a digestion. -/
structure Booked (db : Db) : Prop where
  owned : ∀ e ∈ db.expenses.rows, ∃ r ∈ db.reports.rows, r.id = e.reportId ∧ ownerOf db r = some e.accountId
  even : ∀ id, expenseSum db id isTopLevel = expenseSum db id isReportTotal
  fees : ∀ id account, 0 ≤ storedAmount db id account paymentServiceFee

structure ExpenseInv (db : Db) : Prop extends Booked db where
  total : ∀ r ∈ db.reports.rows, r.totalExpense = expenseSum db r.id isReportTotal
  net : ∀ r ∈ db.reports.rows, r.reportType ≠ .platformSeller → r.netRevenueWithoutExpense = r.netRevenue - r.totalExpense

section Sums

variable {db db' : Db} {r : Report ℤ} {account expenseKey : String} {x y : ℤ}

/-- What a row adds to a sum. -/
def expenseTerm (id : String) (p : String → Bool) (e : ReportExpense ℤ) : ℤ :=
  if e.reportId = id ∧ p e.expenseKey = true then e.expenseAmount else 0

theorem expense_sum_eq (db : Db) (id : String) (p : String → Bool) :
    expenseSum db id p = db.expenses.total (expenseTerm id p) := Table.sumOf_eq_total _ _ _

theorem value_expense (db : Db) (id : String) (p : String → Bool) (reportId accountId k : String) :
    db.expenses.value (expenseTerm id p) (reportId, accountId, k) =
      if reportId = id ∧ p k = true then storedAmount db reportId accountId k else 0 := by
  unfold storedAmount Table.value
  cases hfind : db.expenses.find (reportId, accountId, k) with
  | none => simp
  | some e =>
    have hkey := Table.key_of_find hfind
    simp only [ReportExpense.key, Prod.mk.injEq] at hkey
    simp [expenseTerm, hkey.1, hkey.2.2]

/-- A charge moves the sums of its report. -/
theorem Charged.sum {reportId : String} (h : Charged db db' reportId account expenseKey x y)
    (hkey : expenseKey ≠ reportTotal) {p : String → Bool} (hp : ∀ k, p k = true → Tracked k) (id : String) :
    expenseSum db' id p = expenseSum db id p +
      if reportId = id then (if p expenseKey = true then x else 0) + (if p reportTotal = true then y else 0) else 0 := by
  have hpair : (reportId, account, expenseKey) ≠ (reportId, account, reportTotal) := by simpa using hkey
  have hdiff : ∀ k, p k = true → storedAmount db' reportId account k - storedAmount db reportId account k =
      (if k = expenseKey then x else 0) + if k = reportTotal then y else 0 := by
    intro k hk
    rw [h.amounts k (hp k hk)]
    ring
  rw [expense_sum_eq, expense_sum_eq,
    Table.total_change (t := db.expenses) {(reportId, account, expenseKey), (reportId, account, reportTotal)}]
  · rw [Finset.sum_pair hpair, value_expense db', value_expense db', value_expense db, value_expense db]
    by_cases hid : reportId = id
    · simp only [hid, true_and, if_true]
      congr 1
      subst hid
      congr 1
      · split <;> rename_i hk
        · rw [hdiff _ hk, if_pos rfl, if_neg hkey, add_zero]
        · rfl
      · split <;> rename_i hk
        · rw [hdiff _ hk, if_pos rfl, if_neg hkey.symm, zero_add]
        · rfl
    · simp [hid]
  · rintro ⟨r, a, k⟩ hk
    rw [value_expense, value_expense]
    split <;> rename_i hterm
    · by_cases hown : (r, a) = (reportId, account)
      · obtain ⟨rfl, rfl⟩ := Prod.mk.inj hown
        simp only [Finset.mem_insert, Finset.mem_singleton, Prod.mk.injEq, true_and, not_or] at hk
        have := hdiff k hterm.2
        rw [if_neg hk.1, if_neg hk.2] at this
        omega
      · unfold storedAmount Table.value
        rw [h.others r a k hown]
    · rfl

theorem top_level_tracked (k : String) (h : isTopLevel k = true) : Tracked k := Or.inl h

theorem report_total_tracked (k : String) (h : isReportTotal k = true) : Tracked k := Or.inr h

theorem Charged.top_sum {reportId : String} (h : Charged db db' reportId account expenseKey x y)
    (htop : isTopLevel expenseKey = true) (id : String) :
    expenseSum db' id isTopLevel = expenseSum db id isTopLevel + if reportId = id then x else 0 := by
  rw [h.sum (ne_report_total htop) top_level_tracked, htop, not_top_level_report_total]
  simp

theorem Charged.total_sum {reportId : String} (h : Charged db db' reportId account expenseKey x y)
    (htop : isTopLevel expenseKey = true) (id : String) :
    expenseSum db' id isReportTotal = expenseSum db id isReportTotal + if reportId = id then y else 0 := by
  have hnot : isReportTotal expenseKey = false := decide_eq_false (ne_report_total htop)
  have htotal : isReportTotal reportTotal = true := decide_eq_true rfl
  rw [h.sum (ne_report_total htop) report_total_tracked, hnot, htotal]
  simp

/-- The rows of a report belong to its owner, so that it has one `REPORT_TOTAL`. -/
theorem owner_total (hbooked : Booked db) (hr : r ∈ db.reports.rows) (howner : ownerOf db r = some account) :
    expenseSum db r.id isReportTotal = storedAmount db r.id account reportTotal := by
  have hkey : ∀ e ∈ db.expenses.rows, e.reportId = r.id ∧ isReportTotal e.expenseKey = true →
      e.key = (r.id, account, reportTotal) := by
    rintro e he ⟨hreport, hk⟩
    obtain ⟨r', hr', hid, howner'⟩ := hbooked.owned e he
    obtain rfl := Table.eq_of_key hr' hr (hid.trans hreport)
    rw [howner, Option.some.injEq] at howner'
    have hk : e.expenseKey = reportTotal := of_decide_eq_true hk
    simp [ReportExpense.key, hreport, howner', hk]
  unfold expenseSum
  rw [Table.sumOf_eq_value _ hkey]
  exact (value_expense db r.id isReportTotal r.id account reportTotal).trans (if_pos ⟨rfl, decide_eq_true rfl⟩)

theorem single_report_total (hbooked : Booked db) (r : Report ℤ) :
    (db.expenses.rows.filter fun e => e.reportId = r.id ∧ e.expenseKey = reportTotal).length ≤ 1 := by
  apply Table.length_filter_le_one
  rintro e he e' he' ⟨hreport, hk⟩ ⟨hreport', hk'⟩
  obtain ⟨r₁, hr₁, hid, howner⟩ := hbooked.owned e he
  obtain ⟨r₂, hr₂, hid', howner'⟩ := hbooked.owned e' he'
  obtain rfl := Table.eq_of_key hr₁ hr₂ (by rw [hid, hid', hreport, hreport'])
  rw [howner, Option.some.injEq] at howner'
  simp [ReportExpense.key, hreport, hreport', hk, hk', howner']

theorem consistent_of_inv (hinv : ExpenseInv db) (hr : r ∈ db.reports.rows) (htype : r.reportType ≠ .platformSeller) :
    ExpensesConsistent db r where
  totalExpense := (hinv.total r hr).trans (hinv.even r.id).symm
  single := single_report_total hinv.toBooked r
  netRevenue := hinv.net r hr htype

theorem mem_of_charged {reportId : String} (h : Charged db db' reportId account expenseKey x y) {e : ReportExpense ℤ}
    (he : e ∈ db'.expenses.rows) : e ∈ db.expenses.rows ∨ (e.reportId = reportId ∧ e.accountId = account) := by
  by_cases hown : (e.reportId, e.accountId) = (reportId, account)
  · exact Or.inr (Prod.mk.inj hown)
  · have hfind : db'.expenses.find (e.reportId, e.accountId, e.expenseKey) = some e := Table.find_of_mem he
    rw [h.others _ _ _ hown] at hfind
    exact Or.inl (Table.mem_of_find hfind)

/-- A charge of the same amount to both keys, under the owner's account. -/
theorem Booked.charged (hbooked : Booked db) (hr : r ∈ db.reports.rows) (howner : ownerOf db r = some account)
    (hcharged : Charged db db' r.id account expenseKey x x) (htop : isTopLevel expenseKey = true)
    (hfee : expenseKey = paymentServiceFee → 0 ≤ storedAmount db r.id account paymentServiceFee + x) : Booked db' := by
  obtain ⟨expenses, hdb⟩ := hcharged.only
  have hreports : db'.reports = db.reports := by rw [hdb]
  have howners : ∀ r, ownerOf db' r = ownerOf db r := fun r => by rw [hdb]; rfl
  refine ⟨fun e he => ?_, fun id => ?_, fun id a => ?_⟩
  · rw [hreports]
    rcases mem_of_charged hcharged he with he | ⟨hreport, haccount⟩
    · obtain ⟨r', hr', hid, howner'⟩ := hbooked.owned e he
      exact ⟨r', hr', hid, (howners r').trans howner'⟩
    · exact ⟨r, hr, hreport.symm, (howners r).trans (by rw [howner, haccount])⟩
  · rw [hcharged.top_sum htop, hcharged.total_sum htop, hbooked.even]
  · by_cases hown : (id, a) = (r.id, account)
    · obtain ⟨rfl, rfl⟩ := Prod.mk.inj hown
      rw [hcharged.amounts paymentServiceFee (Or.inl (by decide +kernel)),
        if_neg (by decide : paymentServiceFee ≠ reportTotal), add_zero]
      split <;> rename_i hkey
      · exact hfee hkey.symm
      · simpa using hbooked.fees r.id a
    · unfold storedAmount Table.value
      rw [hcharged.others id a _ hown]
      exact hbooked.fees id a

end Sums

/-! ## Rounding -/

/-- The amount, in ten-thousandths, is no half that lies on another side of zero after `n` is added. -/
def RoundsAlike (amount : ℚ) (n : ℤ) : Prop :=
  Int.fract (amount * 10000) ≠ 1 / 2 ∨ (0 ≤ amount * 10000 ↔ 0 ≤ amount * 10000 + n)

instance (amount : ℚ) (n : ℤ) : Decidable (RoundsAlike amount n) := by
  unfold RoundsAlike
  infer_instance

theorem toColumn_add_fromColumn {amount : ℚ} {n : ℤ} (h : RoundsAlike amount n) :
    toColumn (amount + fromColumn n) = toColumn amount + n := by
  unfold toColumn
  rw [add_mul, fromColumn, div_mul_cancel₀ _ (by norm_num)]
  exact roundAway_add_intCast h

theorem grown_by_eq {amount : ℚ} {n : ℤ} (h : RoundsAlike amount n) : grownBy n amount = toColumn amount := by
  rw [grownBy, add_comm, toColumn_add_fromColumn h, add_sub_cancel_right]

theorem rounds_alike_of_nonneg {amount : ℚ} {n : ℤ} (hamount : 0 ≤ amount) (hn : 0 ≤ n) : RoundsAlike amount n := by
  have hn' : (0 : ℚ) ≤ n := by exact_mod_cast hn
  exact Or.inr ⟨fun h => by linarith, fun _ => by linarith⟩

theorem rounds_alike_fromColumn (m n : ℤ) : RoundsAlike (fromColumn m) n := by
  refine Or.inl ?_
  rw [fromColumn, div_mul_cancel₀ _ (by norm_num), Int.fract_intCast]
  norm_num

theorem feeTotal_nonneg (fees : List ProviderFee) : 0 ≤ feeTotal fees := by
  apply List.sum_nonneg
  intro amount hamount
  obtain ⟨fee, hfee, rfl⟩ := List.mem_map.mp hamount
  exact (of_decide_eq_true (List.mem_filter.mp hfee).2).le

/-! ## One digestion -/

/-- The expenses of `r` after some of its updates. -/
structure Charging (db db' : Db) (r : Report ℤ) : Prop where
  only : OnlyExpenses db db'
  booked : Booked db'
  others : ∀ id, id ≠ r.id → expenseSum db' id isReportTotal = expenseSum db id isReportTotal

section Digestion

variable {s t : Session HttpError Db} {db db₁ db₂ : Db} {r : Report ℤ} {payment : Payment} {account expenseKey : String}
  {u : Unit}

theorem Charging.refl (hbooked : Booked db) (r : Report ℤ) : Charging db db r := ⟨.refl db, hbooked, fun _ _ => rfl⟩

theorem OnlyExpenses.reports (h : OnlyExpenses db db₁) : db₁.reports = db.reports := by
  obtain ⟨_, rfl⟩ := h
  rfl

theorem OnlyExpenses.owner (h : OnlyExpenses db db₁) (r : Report ℤ) : ownerOf db₁ r = ownerOf db r := by
  obtain ⟨_, rfl⟩ := h
  rfl

theorem Charging.charged (h : Charging db db₁ r) (hr : r ∈ db.reports.rows) (howner : ownerOf db r = some account)
    {x : ℤ} (hcharged : Charged db₁ db₂ r.id account expenseKey x x) (htop : isTopLevel expenseKey = true)
    (hfee : expenseKey = paymentServiceFee → 0 ≤ storedAmount db₁ r.id account paymentServiceFee + x) :
    Charging db db₂ r where
  only := h.only.trans hcharged.only
  booked := h.booked.charged (h.only.reports ▸ hr) ((h.only.owner r).trans howner) hcharged htop hfee
  others id hid := by
    rw [hcharged.total_sum htop, if_neg (Ne.symm hid), add_zero, h.others id hid]

/-- The provider's fees, rounded alike in both rows. -/
theorem Charging.fees (h : Charging db db₁ r) (hr : r ∈ db.reports.rows) (howner : ownerOf db r = some account) {fees : ℚ}
    (hnonneg : 0 ≤ fees) (hround : RoundsAlike fees (storedAmount db₁ r.id account reportTotal))
    (hcharged : Charged db₁ db₂ r.id account paymentServiceFee (grownBy (storedAmount db₁ r.id account paymentServiceFee) fees)
      (grownBy (storedAmount db₁ r.id account reportTotal) fees)) : Charging db db₂ r := by
  have hfees := h.booked.fees r.id account
  rw [grown_by_eq hround, grown_by_eq (rounds_alike_of_nonneg hnonneg hfees)] at hcharged
  exact h.charged hr howner hcharged (by decide +kernel) fun _ => add_nonneg hfees (toColumn_nonneg hnonneg)

/-- The report is saved with the total that the updates left. -/
theorem ExpenseInv.saved (hinv : ExpenseInv db) (hr : r ∈ db.reports.rows) (howner : ownerOf db r = some account)
    (hcharging : Charging db db₁ r) (r' : Report ℤ) (hid : r'.id = r.id) (hquery : r'.queryId = r.queryId)
    (htype : r'.reportType = r.reportType) (htotal : r'.totalExpense = storedAmount db₁ r.id account reportTotal)
    (hnet : r.reportType ≠ .platformSeller → r'.netRevenueWithoutExpense = r'.netRevenue - r'.totalExpense)
    (hexpenses : db₂.expenses = db₁.expenses) (hqueries : db₂.queries = db.queries)
    (hreports : db₂.reports = db.reports.save r') : ExpenseInv db₂ := by
  have hsum : ∀ id p, expenseSum db₂ id p = expenseSum db₁ id p := fun id p => by rw [expenseSum, expenseSum, hexpenses]
  have howners : ∀ r, ownerOf db₂ r = ownerOf db r := fun r => by rw [ownerOf, ownerOf, hqueries]
  have hr₁ : r ∈ db₁.reports.rows := hcharging.only.reports ▸ hr
  refine ⟨⟨fun e he => ?_, fun id => ?_, fun id a => ?_⟩, fun x hx => ?_, fun x hx hxtype => ?_⟩
  · rw [hexpenses] at he
    obtain ⟨x, hx, hxid, hxowner⟩ := hcharging.booked.owned e he
    rw [hcharging.only.reports] at hx
    rw [hcharging.only.owner] at hxowner
    rw [hreports]
    by_cases hsame : x.id = r.id
    · obtain rfl := Table.eq_of_key hx hr hsame
      have hquery' : ownerOf db r' = ownerOf db x := by rw [ownerOf, ownerOf, hquery]
      exact ⟨r', Table.mem_save.mpr (Or.inl rfl), hid.trans hxid, by rw [howners, hquery', hxowner]⟩
    · exact ⟨x, Table.mem_save.mpr (Or.inr ⟨hx, by rwa [hid]⟩), hxid, by rw [howners, hxowner]⟩
  · rw [hsum, hsum, hcharging.booked.even]
  · unfold storedAmount
    rw [hexpenses]
    exact hcharging.booked.fees id a
  · rw [hsum]
    rw [hreports] at hx
    rcases Table.mem_save.mp hx with rfl | ⟨hx, hne⟩
    · rw [htotal, hid, owner_total hcharging.booked hr₁ ((hcharging.only.owner r).trans howner)]
    · rw [hcharging.others x.id (by rwa [hid] at hne), hinv.total x hx]
  · rw [hreports] at hx
    rcases Table.mem_save.mp hx with rfl | ⟨hx, -⟩
    · exact hnet (htype ▸ hxtype)
    · exact hinv.net x hx hxtype

theorem ExpenseInv.congr (hinv : ExpenseInv db) (hexpenses : db₂.expenses = db.expenses)
    (hqueries : ∀ r ∈ db.reports.rows, ∀ account, ownerOf db r = some account → ownerOf db₂ r = some account)
    (hreports : db₂.reports = db.reports) : ExpenseInv db₂ := by
  have hsum : ∀ id p, expenseSum db₂ id p = expenseSum db id p := fun id p => by rw [expenseSum, expenseSum, hexpenses]
  refine ⟨⟨fun e he => ?_, fun id => ?_, fun id a => ?_⟩, fun r hr => ?_, fun r hr => ?_⟩
  · rw [hexpenses] at he
    obtain ⟨r, hr, hid, howner⟩ := hinv.owned e he
    exact ⟨r, hreports ▸ hr, hid, hqueries r hr _ howner⟩
  · rw [hsum, hsum, hinv.even]
  · unfold storedAmount
    rw [hexpenses]
    exact hinv.fees id a
  · rw [hsum]
    exact hinv.total r (hreports ▸ hr)
  · exact hinv.net r (hreports ▸ hr)

/-- The updates after the totals leave expenses, reports and queries alone. -/
theorem rows_left {env : Env} {accountId : Option String} {platform : PlatformSource}
    (h : Returns (do
      updateTaxGroupReportByPaymentAndAccountId r.id payment accountId
      updatePaymentItemReport env r.id payment accountId
      updatePlatformReport r.id payment platform accountId) s () t) :
    t.db.expenses = s.db.expenses ∧ t.db.queries = s.db.queries ∧ t.db.reports = s.db.reports := by
  simp only [returns_bind] at h
  obtain ⟨_, a, htax, _, b, hitems, hplatforms⟩ := h
  obtain ⟨⟨groups, ha⟩, -⟩ := tax_groups_spec htax
  obtain ⟨⟨items, hb⟩, -⟩ := items_spec hitems
  obtain ⟨⟨platforms, ht⟩, -⟩ := platforms_spec hplatforms
  rw [ht, hb, ha]
  exact ⟨rfl, rfl, rfl⟩

theorem report_after_net (r : Report ℤ) (payment : Payment) (added : Total → ℤ) (expense : ℤ) :
    (reportAfter r payment added expense).netRevenueWithoutExpense =
      (reportAfter r payment added expense).netRevenue - expense := by
  simp [reportAfter, Report.withoutExpense]

/-- The totals and the updates after them. -/
theorem ExpenseInv.totals {env : Env} {report : Report ℚ} {accountId : Option String} {platform : PlatformSource}
    (hinv : ExpenseInv db) (hr : r ∈ db.reports.rows) (howner : ownerOf db r = some account)
    (hcharging : Charging db s.db r) (hloaded : report.Loaded r)
    (h : Returns (do
      digestTotals report payment accountId account
      updateTaxGroupReportByPaymentAndAccountId r.id payment accountId
      updatePaymentItemReport env r.id payment accountId
      updatePlatformReport r.id payment platform accountId) s () t) : ExpenseInv t.db := by
  obtain ⟨_, a, htotals, hrows⟩ := returns_bind.mp h
  have ha := digest_totals_spec hloaded htotals
  obtain ⟨hexpenses, hqueries, hreports⟩ := rows_left hrows
  rw [ha] at hexpenses hqueries hreports
  obtain ⟨_, honly⟩ := hcharging.only
  refine hinv.saved hr howner hcharging (reportAfter r payment (totalsOf payment.type (itemsOf payment accountId))
    (expenseOf s.db r.id account)) rfl rfl rfl rfl (fun _ => report_after_net r payment _ _) hexpenses ?_ ?_
  · rw [hqueries, honly]
  · rw [hreports, honly]

end Digestion

/-! ## The condition of a digestion -/

/-- Revenue of the report after the commission of the items, before it is rounded. -/
def revenueAfter (r : Report ℤ) (type : PaymentType) (items : List PaymentItem) (taxMax : ℚ) : ℚ :=
  fromColumn (r.totalSaleAmount - r.totalRefundAmount - (r.totalSaleTaxAmount - r.totalRefundTaxAmount)) +
    signed type (fromColumn (comissionOf items) * (1 - taxMax))

/-- The commission and the seller's fees are rounded alike in the total and in its parts. -/
def SellerChargesFit (db : Db) (r : Report ℤ) (payment : Payment) (account : String) : Prop :=
  RoundsAlike (sellerFeeTotal db payment account)
    (r.totalExpense + signed payment.type (comissionOf (itemsOf payment (some account))))

/-- The platform is charged no fee, or owns the report under the id that fees go to. -/
def FlowChargesFit (db : Db) (payment : Payment) (account : String) : Prop :=
  feeTotal (platformFees db payment) = 0 ∨ account = "PLATFORM"

/-- The platform is charged no fee, and the revenue is rounded alike with and without the expense. -/
def PlatformChargesFit (db : Db) (r : Report ℤ) (payment : Payment) : Prop :=
  feeTotal (platformFees db payment) = 0 ∧
    match divideNumberValues (comissionPercent db) [comissionPercent db + 100] with
    | .ok taxMax => RoundsAlike (revenueAfter r payment.type (itemsOf payment none) taxMax)
        (-(r.totalExpense + refundRounding db payment))
    | .error _ => True

instance (db : Db) (r : Report ℤ) (payment : Payment) : Decidable (PlatformChargesFit db r payment) := by
  unfold PlatformChargesFit
  exact @instDecidableAnd _ _ inferInstance (by split <;> infer_instance)

def ChargesFit (db : Db) (r : Report ℤ) (payment : Payment) (account : String) : Prop :=
  match r.reportType with
  | .seller => SellerChargesFit db r payment account
  | .platformFlow => FlowChargesFit db payment account
  | .platform => truthy payment.externalPlatformId = true ∨ PlatformChargesFit db r payment
  | .platformSeller => True

instance (db : Db) (r : Report ℤ) (payment : Payment) (account : String) : Decidable (ChargesFit db r payment account) := by
  unfold ChargesFit SellerChargesFit FlowChargesFit
  split <;> infer_instance

section Step

variable {s t : Session HttpError Db} {db : Db} {r : Report ℤ} {payment : Payment} {account : String}

theorem stored_total (hinv : ExpenseInv db) (hr : r ∈ db.reports.rows) (howner : ownerOf db r = some account) :
    storedAmount db r.id account reportTotal = r.totalExpense := by
  rw [← owner_total hinv.toBooked hr howner, hinv.total r hr]

theorem seller_fee_nonneg (db : Db) (payment : Payment) (account : String) : 0 ≤ sellerFeeTotal db payment account := by
  unfold sellerFeeTotal
  split
  · exact le_rfl
  · split
    · exact le_rfl
    · exact feeTotal_nonneg _

/-- The platform is charged whole columns. -/
theorem platform_fees_exact (db : Db) (payment : Payment) :
    ∃ n, feeTotal (platformFees db payment) = fromColumn n := by
  have hexact : ∀ fee ∈ positiveFees (platformFees db payment), ∃ m, fee.amount = fromColumn m := by
    intro fee hfee
    obtain ⟨operation, -, rfl⟩ := List.mem_map.mp (List.mem_filter.mp hfee).1
    exact ⟨_, rfl⟩
  unfold feeTotal
  generalize positiveFees (platformFees db payment) = fees at hexact
  induction fees with
  | nil => exact ⟨0, by simp [fromColumn]⟩
  | cons fee fees ih =>
    obtain ⟨n, hn⟩ := ih fun x hx => hexact x (List.mem_cons_of_mem _ hx)
    obtain ⟨m, hm⟩ := hexact fee List.mem_cons_self
    exact ⟨m + n, by rw [List.map_cons, List.sum_cons, hn, hm, fromColumn_add]⟩

theorem seller_step {env : Env} (hinv : ExpenseInv s.db) (hr : r ∈ s.db.reports.rows)
    (howner : ownerOf s.db r = some account) (htype : r.reportType = .seller) (hfits : SellerChargesFit s.db r payment account)
    (h : Returns (digestReport env r.load payment account) s () t) : ExpenseInv t.db := by
  unfold digestReport at h
  rw [show r.load.reportType = .seller from htype] at h
  simp only at h
  obtain ⟨platform, a, hresolve, h⟩ := returns_bind.mp h
  obtain ⟨_, b, hexpenses, h⟩ := returns_bind.mp h
  obtain ⟨_, c, hfees, h⟩ := returns_bind.mp h
  obtain ⟨key, htop, hne, hcharged⟩ := update_expenses_charged hexpenses
  rw [resolve_spec hresolve] at hcharged
  change Charged s.db b.db r.id account key _ _ at hcharged
  have hb := (Charging.refl hinv.toBooked r).charged hr howner hcharged htop fun hkey => absurd hkey hne
  have htotal : storedAmount b.db r.id account reportTotal =
      r.totalExpense + signed payment.type (comissionOf (itemsOf payment (some account))) := by
    rw [hcharged.amounts reportTotal (Or.inr (decide_eq_true rfl)), if_neg (ne_report_total htop).symm, if_pos rfl,
      add_zero, stored_total hinv hr howner]
  have hsame : sellerFeeTotal b.db payment account = sellerFeeTotal s.db payment account := by
    obtain ⟨_, honly⟩ := hb.only
    rw [honly]
    rfl
  have hround : RoundsAlike (sellerFeeTotal b.db payment account) (storedAmount b.db r.id account reportTotal) := by
    rw [hsame, htotal]
    exact hfits
  have hc := hb.fees hr howner (seller_fee_nonneg b.db payment account) hround (seller_fees_charged hfees)
  exact hinv.totals hr howner hc (loaded_load r) h

theorem flow_step {env : Env} (hinv : ExpenseInv s.db) (hr : r ∈ s.db.reports.rows)
    (howner : ownerOf s.db r = some account) (htype : r.reportType = .platformFlow) (hfits : FlowChargesFit s.db payment account)
    (h : Returns (digestReport env r.load payment account) s () t) : ExpenseInv t.db := by
  unfold digestReport at h
  rw [show r.load.reportType = .platformFlow from htype] at h
  simp only at h
  obtain ⟨platform, a, hresolve, h⟩ := returns_bind.mp h
  obtain ⟨_, b, hexpenses, h⟩ := returns_bind.mp h
  obtain ⟨_, c, hfees, h⟩ := returns_bind.mp h
  obtain ⟨report, d, hrounding, h⟩ := returns_bind.mp h
  obtain ⟨key, htop, hne, hcharged⟩ := update_expenses_charged hexpenses
  rw [resolve_spec hresolve] at hcharged
  change Charged s.db b.db r.id account key _ _ at hcharged
  have hb := (Charging.refl hinv.toBooked r).charged hr howner hcharged htop fun hkey => absurd hkey hne
  have hsame : platformFees b.db payment = platformFees s.db payment := by
    obtain ⟨_, honly⟩ := hb.only
    rw [honly]
    rfl
  have hc : Charging s.db c.db r := by
    rcases hfits with hzero | rfl
    · rw [platform_fees_left (by rwa [hsame]) hfees]
      exact hb
    · obtain ⟨n, hn⟩ := platform_fees_exact b.db payment
      refine hb.fees hr howner (feeTotal_nonneg _) ?_ (platform_fees_charged hfees)
      rw [hn]
      exact rounds_alike_fromColumn n _
  obtain ⟨hadjusted, -⟩ := refund_rounding_charged hrounding
  obtain ⟨⟨_, rfl⟩, -⟩ := refund_rounding_only (loaded_load r) hrounding
  have hd := hc.charged hr howner hadjusted (by decide +kernel) fun hkey => absurd hkey (by decide)
  exact hinv.totals hr howner hd ⟨_, rfl⟩ h

theorem comission_report_revenue (r : Report ℤ) (payment : Payment) (items : List PaymentItem) (taxMax expense : ℚ) :
    (comissionReport { r.load with totalExpense := expense } payment items taxMax).netRevenue =
      revenueAfter r payment.type items taxMax := by
  have hrevenue : ∀ base : BaseReport ℚ, base.netted.netRevenue =
      base.totalSaleAmount - base.totalRefundAmount - (base.totalSaleTaxAmount - base.totalRefundTaxAmount) := by
    intro base
    simp [BaseReport.netted]
  unfold comissionReport revenueAfter
  simp only [fromColumn_sub]
  cases payment.type <;> split <;>
    simp [Report.withoutExpense, hrevenue, BaseReport.add, comissionTotals, signed, Report.load, Report.map, BaseReport.map] <;>
    ring

theorem platform_step {env : Env} (hinv : ExpenseInv s.db) (hr : r ∈ s.db.reports.rows)
    (howner : ownerOf s.db r = some account) (htype : r.reportType = .platform)
    (hfits : truthy payment.externalPlatformId = true ∨ PlatformChargesFit s.db r payment)
    (h : Returns (digestReport env r.load payment account) s () t) : ExpenseInv t.db := by
  unfold digestReport at h
  rw [show r.load.reportType = .platform from htype] at h
  simp only at h
  split at h <;> rename_i hnative
  · unfold digestComissionIncomeForReport at h
    rw [if_pos hnative] at h
    rwa [← (returns_pure.mp h).2]
  · obtain ⟨hzero, hround⟩ := hfits.resolve_left hnative
    simp only [returns_bind] at h
    obtain ⟨_, a, hfees, report, d, hrounding, h⟩ := h
    have ha := platform_fees_left hzero hfees
    obtain ⟨hadjusted, hreport⟩ := refund_rounding_charged hrounding
    rw [ha] at hadjusted hreport
    change Charged s.db d.db r.id account refundRoundingAdjustment _ _ at hadjusted
    have hd := (Charging.refl hinv.toBooked r).charged hr howner hadjusted (by decide +kernel)
      fun hkey => absurd hkey (by decide)
    have htotal : storedAmount d.db r.id account reportTotal = r.totalExpense + refundRounding s.db payment := by
      rw [hadjusted.amounts reportTotal (Or.inr (decide_eq_true rfl)), if_neg (by decide), if_pos rfl, add_zero,
        stored_total hinv hr howner]
    -- Without an adjustment the report keeps the expense that it was loaded with.
    have hreport' : report = { r.load with totalExpense := fromColumn (storedAmount d.db r.id account reportTotal) } := by
      rw [hreport, htotal]
      split <;> rename_i hadjustment
      · rw [hadjustment, add_zero]
        rfl
      · exact congrArg (fun e => { r.load with totalExpense := fromColumn e }) htotal
    obtain ⟨taxMax, htax, ht⟩ := digest_comission_spec (by simpa using hnative) h
    obtain ⟨_, honly⟩ := hd.only
    have hpercent : comissionPercent d.db = comissionPercent s.db := by
      rw [honly]
      rfl
    rw [hpercent] at htax
    rw [htax, ← htotal] at hround
    subst hreport'
    refine hinv.saved hr howner hd (comissionReport { r.load with
      totalExpense := fromColumn (storedAmount d.db r.id account reportTotal) } payment (itemsOf payment none) taxMax).store
      rfl rfl rfl (toColumn_fromColumn _) (fun _ => ?_) ?_ ?_ ?_
    · have hrevenue := comission_report_revenue r payment (itemsOf payment none) taxMax
        (fromColumn (storedAmount d.db r.id account reportTotal))
      have hsum := toColumn_add_fromColumn hround
      rw [← hrevenue, show fromColumn (-storedAmount d.db r.id account reportTotal) =
        -fromColumn (storedAmount d.db r.id account reportTotal) from fromColumn_signed .refund _ |>.symm,
        ← sub_eq_add_neg, ← sub_eq_add_neg] at hsum
      refine Eq.trans (congrArg toColumn ?_) (hsum.trans (congrArg _ (toColumn_fromColumn _).symm))
      simp [comissionReport, Report.withoutExpense]
    · rw [ht]
    · rw [ht, honly]
    · rw [ht]
      show d.db.reports.save _ = _
      rw [honly]

theorem platform_seller_step {env : Env} (hinv : ExpenseInv s.db) (hr : r ∈ s.db.reports.rows)
    (howner : ownerOf s.db r = some account) (htype : r.reportType = .platformSeller)
    (h : Returns (digestReport env r.load payment account) s () t) : ExpenseInv t.db := by
  unfold digestReport at h
  rw [show r.load.reportType = .platformSeller from htype] at h
  simp only at h
  cases hnative : truthy payment.externalPlatformId with
  | true =>
    unfold digestComissionIncomeForReport at h
    rw [if_pos hnative] at h
    rwa [← (returns_pure.mp h).2]
  | false =>
    obtain ⟨taxMax, -, ht⟩ := digest_comission_spec hnative h
    refine hinv.saved hr howner (.refl hinv.toBooked r) (comissionReport r.load payment (itemsOf payment (some account))
      taxMax).store rfl rfl rfl ((toColumn_fromColumn _).trans (stored_total hinv hr howner).symm)
      (fun hne => absurd htype hne) ?_ ?_ ?_ <;> rw [ht]

/-- A digestion that fits keeps the totals right. -/
theorem digest_inv {env : Env} {relation : ReportPaymentRelation} {u : Unit} (hinv : ExpenseInv s.db)
    (hfits : ∀ r ∈ s.db.reports.find relation.reportId, ∀ payment ∈ s.db.payments.find relation.paymentId,
      ∀ account ∈ ownerOf s.db r, payment.includeInReportDigestion = true → ChargesFit s.db r payment account)
    (h : Returns (digestRelation env relation) s u t) : ExpenseInv t.db := by
  rcases digest_relation_spec h with ⟨hdb, -⟩ | ⟨r, payment, account, hdigested⟩
  · rwa [hdb]
  · obtain ⟨v, w, hv, hdigest, hdb⟩ := hdigested.updates
    have hfit := hfits r hdigested.findReport payment hdigested.findPayment account hdigested.owner
    have hr := Table.mem_of_find hdigested.findReport
    have howner := hdigested.owner
    rw [← hv] at hinv hfit hr howner
    suffices hw : ExpenseInv w.db by
      rw [hdb]
      exact hw.congr rfl (fun _ _ _ h => h) rfl
    unfold digestIncluded at hdigest
    split at hdigest <;> rename_i hincluded
    · have hfit := hfit hincluded
      unfold ChargesFit at hfit
      split at hfit <;> rename_i htype
      · exact seller_step hinv hr howner htype hfit hdigest
      · exact flow_step hinv hr howner htype hfit hdigest
      · exact platform_step hinv hr howner htype hfit hdigest
      · exact platform_seller_step hinv hr howner htype hdigest
    · rwa [← (returns_pure.mp hdigest).2]

end Step

/-! ## Runs -/

/-- A successful action. Queries are added, and never changed. -/
def expenseStep (env : Env) (db : Db) : DigestionAction → Option Db
  | .environment other =>
    if ∀ query ∈ db.queries.rows, query ∈ other.queries.rows then some (other.withReportsOf db) else none
  | action => digestionStep env db action

/-- The digestion fits its report. -/
def DigestionFits (db : Db) : DigestionAction → Prop
  | .digest relation => ∀ r ∈ db.reports.find relation.reportId, ∀ payment ∈ db.payments.find relation.paymentId,
      ∀ account ∈ ownerOf db r, payment.includeInReportDigestion = true → ChargesFit db r payment account
  | _ => True

instance (db : Db) (action : DigestionAction) : Decidable (DigestionFits db action) := by
  cases action <;> unfold DigestionFits <;> infer_instance

theorem expense_inv_empty : ExpenseInv Db.empty := by
  refine ⟨⟨?_, fun id => rfl, fun id account => le_rfl⟩, ?_, ?_⟩ <;> simp [Db.empty, Table.empty]

section Runs

variable {env : Env} {db db' : Db}

theorem expense_inv_create {query : ReportQuery} {periodLabel currency id : String} {r : Report ℤ}
    {s t : Session HttpError Db} (hinv : ExpenseInv s.db)
    (h : Returns (findOrCreateByQuery query periodLabel currency id) s r t) : ExpenseInv t.db := by
  rcases find_or_create_spec h with ⟨-, hdb⟩ | ⟨rfl, hfree, hdb⟩
  · rwa [hdb]
  · have hnew : ∀ r' ∈ s.db.reports.rows, r'.id ≠ id := by
      intro r' hr' hid
      have := hfree r' hr'
      simp [Report.conflicts, newReport, hid] at this
    have hzero : expenseSum s.db id isReportTotal = 0 := by
      unfold expenseSum Table.sumOf
      rw [List.filter_eq_nil_iff.mpr]
      · rfl
      · intro e he hp
        obtain ⟨r, hr, hid, -⟩ := hinv.owned e he
        exact hnew r hr (hid.trans (of_decide_eq_true hp).1)
    rw [hdb]
    refine ⟨⟨fun e he => ?_, hinv.even, hinv.fees⟩, fun r hr => ?_, fun r hr htype => ?_⟩
    · obtain ⟨r, hr, hid, howner⟩ := hinv.owned e he
      exact ⟨r, Table.mem_save.mpr (Or.inr ⟨hr, hnew r hr⟩), hid, howner⟩
    · rcases Table.mem_save.mp hr with rfl | ⟨hr, -⟩
      · exact hzero.symm
      · exact hinv.total r hr
    · rcases Table.mem_save.mp hr with rfl | ⟨hr, -⟩
      · rfl
      · exact hinv.net r hr htype

theorem expense_inv_step {action : DigestionAction} (hinv : ExpenseInv db) (hfits : DigestionFits db action)
    (h : expenseStep env db action = some db') : ExpenseInv db' := by
  cases action with
  | digest relation =>
    obtain ⟨_, t, hdigest, rfl⟩ := outcome_eq_some.mp h
    exact digest_inv (s := { db := db }) hinv hfits hdigest
  | findOrCreate query periodLabel currency id =>
    obtain ⟨_, t, hcreate, rfl⟩ := outcome_eq_some.mp h
    exact expense_inv_create hinv hcreate
  | environment other =>
    simp only [expenseStep, Option.ite_none_right_eq_some, Option.some.injEq] at h
    obtain ⟨hqueries, rfl⟩ := h
    refine hinv.congr rfl (fun r _ account howner => ?_) rfl
    obtain ⟨query, hfind, hquery⟩ := Option.bind_eq_some_iff.mp howner
    obtain ⟨hmem, hid⟩ := Table.find_eq_some_iff.mp hfind
    have hfind' : other.queries.find r.queryId = some query := Table.find_eq_some_iff.mpr ⟨hqueries query hmem, hid⟩
    exact Option.bind_eq_some_iff.mpr ⟨query, hfind', hquery⟩

end Runs

def chargedDb : Db :=
  { Db.empty with
    queries := Table.empty.saveAll [⟨"query", some "seller", some "TRY", .daily, .seller⟩,
      ⟨"flow", some "operator", some "TRY", .daily, .platformFlow⟩]
    payments := Table.empty.save (samplePayment "sale" .purchase
      (Table.empty.save { sampleItem "line-1" "book" 1100000 100000 100000 with appComissionAmount := 110000 }))
    operations := Table.empty.save
      { id := "capture", paymentChannelId := "pos", amount := 1100000, currency := "TRY", paymentId := "sale",
        providerFee := 30000, providerFeeDebitFrom := .seller }
    orders := Table.empty.save ⟨"sale", "seller", 1100000⟩ }

def chargedActions (query : ReportQuery) : List DigestionAction :=
  [.environment chargedDb, .findOrCreate query "2026-01-05" "TRY" "report",
    .digest ⟨"report", "sale", query.ownerAccountId, .digesting, "run"⟩]

end Postral.Reports
