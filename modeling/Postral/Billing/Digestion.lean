import Postral.Reports.Breakdown

/-!
# Digestions beside other writers of a report

A digestion reads its report first and saves the whole row at the end, if it gets there.
-/

open Check Session Postral.Reports

namespace Postral.Billing

/-- `digestRelation` after its reads. -/
def digestLoaded (env : Env) (relation : ReportPaymentRelation) (payment : Payment) (report : Report ℚ)
    (accountId : String) : Digest Unit := do
  digestIncluded env report payment accountId
  let relation := { relation with digestionStatus := .completed, digestionId := "" }
  save fun db => { db with relations := db.relations.save relation }

theorem digest_relation_loaded (env : Env) (relation : ReportPaymentRelation) :
    digestRelation env relation = (do
      let found ← find fun db => db.payments.find relation.paymentId
      let payment ← check (orThrow found (.notFound "Payment not found"))
      match ← find (freshReport relation.reportId) with
      | none | some (_, none) | some (_, some "") => return
      | some (report, some accountId) => digestLoaded env relation payment report accountId) := rfl

/-! ## What a digestion leaves alone -/

/-- Reports other than `r` stay, and the row of `r` keeps its query and its mark. -/
structure DigestFrame (r : Report ℤ) (db₀ db : Db) : Prop where
  queries : db.queries = db₀.queries
  rows : ∀ x ∈ db.reports.rows, x ∈ db₀.reports.rows ∨ (x.id = r.id ∧ x.queryId = r.queryId ∧ x.billedAt = r.billedAt)
  others : ∀ x ∈ db₀.reports.rows, x.id ≠ r.id → x ∈ db.reports.rows
  ids : (∃ x ∈ db₀.reports.rows, x.id = r.id) → db.reports.rows.map (·.id) = db₀.reports.rows.map (·.id)

/-- A row in memory of `r`. -/
def IsRow (r : Report ℤ) (report : Report ℚ) : Prop :=
  report.id = r.id ∧ report.queryId = r.queryId ∧ report.billedAt = r.billedAt

section Frame

variable {r : Report ℤ} {db₀ db db' : Db} {report : Report ℚ} {reportId account : String} {accountId : Option String}
  {payment : Payment}

theorem DigestFrame.refl (r : Report ℤ) (db : Db) : DigestFrame r db db :=
  ⟨rfl, fun _ h => Or.inl h, fun _ h _ => h, fun _ => rfl⟩

theorem DigestFrame.congr (h : DigestFrame r db₀ db) (hreports : db'.reports = db.reports)
    (hqueries : db'.queries = db.queries) : DigestFrame r db₀ db' :=
  ⟨hqueries.trans h.queries, hreports ▸ h.rows, hreports ▸ h.others, hreports ▸ h.ids⟩

theorem DigestFrame.save (h : DigestFrame r db₀ db) {row : Report ℤ}
    (hrow : row.id = r.id ∧ row.queryId = r.queryId ∧ row.billedAt = r.billedAt) :
    DigestFrame r db₀ { db with reports := db.reports.save row } := by
  refine ⟨h.queries, fun x hx => ?_, fun x hx hne => ?_, fun hstored => ?_⟩
  · rcases Table.mem_save.mp hx with rfl | ⟨hx, -⟩
    · exact Or.inr hrow
    · exact h.rows x hx
  · exact Table.mem_save.mpr (Or.inr ⟨h.others x hx hne, by rwa [hrow.1]⟩)
  · have hids := h.ids hstored
    obtain ⟨x, hx, hid⟩ := hstored
    have hmem : row.id ∈ db.reports.rows.map (·.id) := by
      rw [hids, hrow.1, ← hid]
      exact List.mem_map_of_mem hx
    rw [Table.map_key_save hmem, hids]

/-- An update of other tables. -/
theorem maintains_other {write : Db → Db} (hreports : ∀ db, (write db).reports = db.reports)
    (hqueries : ∀ db, (write db).queries = db.queries) :
    Maintains (DigestFrame r db₀) (save write : Digest Unit) fun _ => True :=
  maintains_save fun db h => h.congr (hreports db) (hqueries db)

theorem save_expenses_maintain (rows : List (ReportExpense ℚ)) :
    Maintains (DigestFrame r db₀) (saveExpenses rows) fun _ => True :=
  maintains_other (fun _ => rfl) fun _ => rfl

theorem expenses_maintain (platform : PlatformSource) :
    Maintains (DigestFrame r db₀) (updateExpensesForReport reportId payment account accountId platform) fun _ => True := by
  unfold updateExpensesForReport
  exact (maintains_find _).bind fun _ _ => save_expenses_maintain _

theorem add_fees_maintain (fees : List ProviderFee) :
    Maintains (DigestFrame r db₀) (addProviderFeeExpenses reportId account fees) fun _ => True := by
  unfold addProviderFeeExpenses
  dsimp only
  split
  · exact maintains_pure trivial
  · exact (maintains_find _).bind fun _ _ => save_expenses_maintain _

theorem seller_fees_maintain :
    Maintains (DigestFrame r db₀) (updateProviderFeeExpenseForReportAccountId reportId payment account) fun _ => True := by
  unfold updateProviderFeeExpenseForReportAccountId
  apply (maintains_find _).bind
  intro operations _
  apply (maintains_find _).bind
  intro order _
  apply (maintains_check _).bind
  intro paymentSellerOrder _
  split
  · exact maintains_pure trivial
  · exact (maintains_check _).bind fun _ _ => add_fees_maintain _

theorem platform_fees_maintain :
    Maintains (DigestFrame r db₀) (updateProviderFeeExpenseForPlatformReport reportId payment) fun _ => True := by
  unfold updateProviderFeeExpenseForPlatformReport
  exact (maintains_find _).bind fun _ _ => add_fees_maintain _

theorem rounding_maintain (h : IsRow r report) :
    Maintains (DigestFrame r db₀) (updateRefundRoundingExpense report payment account) (IsRow r) := by
  unfold updateRefundRoundingExpense
  split
  · exact maintains_pure h
  · apply (maintains_find _).bind
    intro refunds _
    dsimp only
    split
    · exact maintains_pure h
    · apply (maintains_find _).bind
      intro expenses _
      exact (save_expenses_maintain _).bind fun _ _ => maintains_pure h

theorem stamp_maintain (h : IsRow r report) :
    Maintains (DigestFrame r db₀) (stampTimeAndSaveReport report payment) fun _ => True :=
  maintains_save fun _ hframe => hframe.save h

theorem totals_maintain (h : IsRow r report) :
    Maintains (DigestFrame r db₀) (digestTotals report payment accountId account) fun _ => True := by
  unfold digestTotals
  exact (maintains_find _).bind fun _ _ => stamp_maintain h

theorem tax_groups_maintain :
    Maintains (DigestFrame r db₀) (updateTaxGroupReportByPaymentAndAccountId reportId payment accountId) fun _ => True := by
  apply maintains_forM
  intro percent
  unfold updateTaxGroup
  exact (maintains_find _).bind fun _ _ => maintains_other (fun _ => rfl) fun _ => rfl

theorem save_item_maintain (row : ReportItem ℚ) : Maintains (DigestFrame r db₀) (saveReportItem row) fun _ => True :=
  maintains_other (fun _ => rfl) fun _ => rfl

theorem items_maintain (env : Env) :
    Maintains (DigestFrame r db₀) (updatePaymentItemReport env reportId payment accountId) fun _ => True := by
  unfold updatePaymentItemReport
  refine (maintains_foldlM (fun rows item => ?_) _ _).bind fun _ _ => maintains_pure trivial
  unfold updateReportItem lookUpReportItem orSaveReportItem
  apply (maintains_check _).bind
  intro key _
  apply Maintains.bind (Q := fun _ => True)
  · split
    · exact maintains_pure trivial
    · exact maintains_find _
  · intro found _
    apply Maintains.bind (Q := fun _ => True)
    · split
      · exact maintains_pure trivial
      · exact (save_item_maintain _).bind fun _ _ => maintains_pure trivial
    · exact fun row _ => (save_item_maintain _).bind fun _ _ => maintains_pure trivial

theorem platforms_maintain (platform : PlatformSource) :
    Maintains (DigestFrame r db₀) (updatePlatformReport reportId payment platform accountId) fun _ => True := by
  unfold updatePlatformReport
  dsimp only
  split
  · exact maintains_pure trivial
  · apply (maintains_find _).bind
    intro found _
    exact (maintains_check _).bind fun _ _ => maintains_other (fun _ => rfl) fun _ => rfl

theorem resolve_maintain : Maintains (DigestFrame r db₀) (resolveReportPlatform payment) fun _ => True := by
  unfold resolveReportPlatform
  split
  · exact maintains_pure trivial
  · exact maintains_pure trivial
  · apply (maintains_find _).bind
    intro platform _
    exact (maintains_check _).bind fun _ _ => maintains_pure trivial

/-- A payment that is excluded changes no report. -/
theorem digest_excluded (env : Env) (relation : ReportPaymentRelation) {s : Session HttpError Db}
    (h : payment.includeInReportDigestion = false) :
    (left (digestLoaded env relation payment report account) s).reports = s.db.reports := by
  have hmaintains : Maintains (fun db => db.reports = s.db.reports) (digestLoaded env relation payment report account)
      fun _ => True := by
    unfold digestLoaded digestIncluded
    rw [h]
    exact (maintains_pure (Q := fun _ => True) trivial).bind fun _ _ => maintains_save fun _ h => h
  exact hmaintains.left rfl

theorem comission_maintain (h : IsRow r report) :
    Maintains (DigestFrame r db₀) (digestComissionIncomeForReport report payment accountId) fun _ => True := by
  unfold digestComissionIncomeForReport
  split
  · exact maintains_pure trivial
  · apply (maintains_find _).bind
    intro taxRate _
    apply (maintains_check _).bind
    intro taxMax _
    dsimp only
    refine (stamp_maintain ?_).bind fun _ _ => ?_
    · exact h
    · exact (maintains_find _).bind fun _ _ => maintains_other (fun _ => rfl) fun _ => rfl

/-- A digestion writes one report, wherever it ends. -/
theorem digest_loaded_maintain (env : Env) (relation : ReportPaymentRelation) (h : IsRow r report) :
    Maintains (DigestFrame r db₀) (digestLoaded env relation payment report account) fun _ => True := by
  unfold digestLoaded
  refine Maintains.bind (Q := fun _ => True) ?_ fun _ _ => maintains_other (fun _ => rfl) fun _ => rfl
  unfold digestIncluded
  split
  · unfold digestReport
    split
    · apply resolve_maintain.bind
      intro platform _
      apply (expenses_maintain platform).bind
      intro _ _
      apply seller_fees_maintain.bind
      intro _ _
      apply (totals_maintain h).bind
      intro _ _
      apply tax_groups_maintain.bind
      intro _ _
      exact (items_maintain env).bind fun _ _ => platforms_maintain platform
    · split
      · exact comission_maintain h
      · apply platform_fees_maintain.bind
        intro _ _
        exact (rounding_maintain h).bind fun _ hrow => comission_maintain hrow
    · exact comission_maintain h
    · apply resolve_maintain.bind
      intro platform _
      apply (expenses_maintain platform).bind
      intro _ _
      apply platform_fees_maintain.bind
      intro _ _
      apply (rounding_maintain h).bind
      intro report hrow
      apply (totals_maintain hrow).bind
      intro _ _
      apply tax_groups_maintain.bind
      intro _ _
      exact (items_maintain env).bind fun _ _ => platforms_maintain platform
  · exact maintains_pure trivial

end Frame

end Postral.Billing
