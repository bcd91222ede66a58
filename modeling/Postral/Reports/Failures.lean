import Postral.Reports.Updates

/-!
# Where a digestion throws

Nothing is rolled back: an error leaves the rows that were saved before it, and the relation as it was.
-/

open Check Session

namespace Postral.Reports

/-! ## What the updates leave alone -/

section Keep

variable {γ : Type} {f : Db → γ} {reportId : String} {payment : Payment} {accountId : Option String}

/-- `f` reads none of the tables that an update writes before the platforms. -/
structure Untouched (f : Db → γ) : Prop where
  expenses : ∀ db expenses, f { db with expenses := expenses } = f db := by intros; rfl
  reports : ∀ db reports, f { db with reports := reports } = f db := by intros; rfl
  taxGroups : ∀ db taxGroups, f { db with taxGroups := taxGroups } = f db := by intros; rfl
  items : ∀ db items, f { db with items := items } = f db := by intros; rfl

theorem save_expenses_keep (hf : Untouched f) (rows : List (ReportExpense ℚ)) : Keeps f (saveExpenses rows) :=
  keeps_save fun db => hf.expenses db _

theorem expenses_keep (hf : Untouched f) (owner : String) (platform : PlatformSource) :
    Keeps f (updateExpensesForReport reportId payment owner accountId platform) := by
  unfold updateExpensesForReport
  exact (keeps_find _).bind fun _ => save_expenses_keep hf _

theorem add_fees_keep (hf : Untouched f) (account : String) (fees : List ProviderFee) :
    Keeps f (addProviderFeeExpenses reportId account fees) := by
  unfold addProviderFeeExpenses
  dsimp only
  split
  · exact keeps_pure ()
  · exact (keeps_find _).bind fun _ => save_expenses_keep hf _

theorem seller_fees_keep (hf : Untouched f) (account : String) :
    Keeps f (updateProviderFeeExpenseForReportAccountId reportId payment account) := by
  unfold updateProviderFeeExpenseForReportAccountId
  apply (keeps_find _).bind
  intro operations
  apply (keeps_find _).bind
  intro order
  apply (keeps_check _).bind
  intro paymentSellerOrder
  split
  · exact keeps_pure ()
  · exact (keeps_check _).bind fun _ => add_fees_keep hf account _

theorem platform_fees_keep (hf : Untouched f) :
    Keeps f (updateProviderFeeExpenseForPlatformReport reportId payment) := by
  unfold updateProviderFeeExpenseForPlatformReport
  exact (keeps_find _).bind fun _ => add_fees_keep hf _ _

theorem rounding_keep (hf : Untouched f) (report : Report ℚ) (account : String) :
    Keeps f (updateRefundRoundingExpense report payment account) := by
  unfold updateRefundRoundingExpense
  split
  · exact keeps_pure report
  · apply (keeps_find _).bind
    intro refunds
    dsimp only
    split
    · exact keeps_pure report
    · apply (keeps_find _).bind
      intro expenses
      exact (save_expenses_keep hf _).bind fun _ => keeps_pure _

theorem stamp_keep (hf : Untouched f) (report : Report ℚ) : Keeps f (stampTimeAndSaveReport report payment) :=
  keeps_save fun db => hf.reports db _

theorem totals_keep (hf : Untouched f) (report : Report ℚ) (owner : String) :
    Keeps f (digestTotals report payment accountId owner) := by
  unfold digestTotals
  exact (keeps_find _).bind fun _ => stamp_keep hf _

theorem tax_groups_keep (hf : Untouched f) :
    Keeps f (updateTaxGroupReportByPaymentAndAccountId reportId payment accountId) := by
  apply keeps_forM
  intro percent
  unfold updateTaxGroup
  exact (keeps_find _).bind fun _ => keeps_save fun db => hf.taxGroups db _

theorem save_item_keep (hf : Untouched f) (row : ReportItem ℚ) : Keeps f (saveReportItem row) :=
  keeps_save fun db => hf.items db _

theorem items_keep (hf : Untouched f) (env : Env) : Keeps f (updatePaymentItemReport env reportId payment accountId) := by
  unfold updatePaymentItemReport
  apply (keeps_foldlM _ _ _).bind
  · exact fun _ => keeps_pure ()
  · intro rows item
    unfold updateReportItem lookUpReportItem orSaveReportItem
    apply (keeps_check _).bind
    intro key
    apply Keeps.bind
    · split
      · exact keeps_pure _
      · exact keeps_find _
    · intro found
      apply Keeps.bind
      · split
        · exact keeps_pure _
        · exact (save_item_keep hf _).bind fun _ => keeps_pure _
      · exact fun row => (save_item_keep hf _).bind fun _ => keeps_pure _

theorem comission_keep (hf : Untouched f) (report : Report ℚ) :
    Keeps f (digestComissionIncomeForReport report payment accountId) := by
  unfold digestComissionIncomeForReport
  split
  · exact keeps_pure ()
  · apply (keeps_find _).bind
    intro rate
    apply (keeps_check _).bind
    intro taxMax
    apply (stamp_keep hf _).bind
    intro _
    exact (keeps_find _).bind fun _ => keeps_save fun db => hf.taxGroups db _

theorem resolve_keep : Keeps f (resolveReportPlatform payment) := by
  unfold resolveReportPlatform
  split
  · exact keeps_pure _
  · exact keeps_pure _
  · exact (keeps_find _).bind fun _ => (keeps_check _).bind fun _ => keeps_pure _

theorem platforms_keep (hplatforms : ∀ db platforms, f { db with platforms := platforms } = f db)
    (platform : PlatformSource) : Keeps f (updatePlatformReport reportId payment platform accountId) := by
  unfold updatePlatformReport
  dsimp only
  split
  · exact keeps_pure ()
  · apply (keeps_find _).bind
    intro found
    exact (keeps_check _).bind fun _ => keeps_save fun db => hplatforms db _

/-- The updates of a digestion write the tables of reports only. -/
theorem digest_keeps (hf : Untouched f) (hplatforms : ∀ db platforms, f { db with platforms := platforms } = f db) (env : Env)
    (report : Report ℚ) (payment : Payment) (accountId : String) : Keeps f (digestIncluded env report payment accountId) := by
  unfold digestIncluded digestReport
  split
  · split
    · apply resolve_keep.bind
      intro platform
      apply (expenses_keep hf _ _).bind
      intro _
      apply (seller_fees_keep hf _).bind
      intro _
      apply (totals_keep hf _ _).bind
      intro _
      apply (tax_groups_keep hf).bind
      intro _
      apply (items_keep hf _).bind
      intro _
      exact platforms_keep hplatforms platform
    · split
      · exact comission_keep hf _
      · apply (platform_fees_keep hf).bind
        intro _
        exact (rounding_keep hf _ _).bind fun _ => comission_keep hf _
    · exact comission_keep hf _
    · apply resolve_keep.bind
      intro platform
      apply (expenses_keep hf _ _).bind
      intro _
      apply (platform_fees_keep hf).bind
      intro _
      apply (rounding_keep hf _ _).bind
      intro _
      apply (totals_keep hf _ _).bind
      intro _
      apply (tax_groups_keep hf).bind
      intro _
      apply (items_keep hf _).bind
      intro _
      exact platforms_keep hplatforms platform
  · exact keeps_pure ()

end Keep

/-- No update of a digestion writes a relation. -/
theorem digest_keeps_relations (env : Env) (report : Report ℚ) (payment : Payment) (accountId : String) :
    Keeps Db.relations (digestIncluded env report payment accountId) :=
  digest_keeps {} (fun _ _ => rfl) env report payment accountId

/-! ## Which digestions throw -/

section Throw

variable {reportId : String} {payment : Payment} {accountId : Option String}

/-- What `resolveReportPlatform` returns. -/
def platformOf (db : Db) (payment : Payment) : Option PlatformSource :=
  match payment.externalPlatformId with
  | none | some "" => some ⟨postralInstance, "Postral", none⟩
  | some id =>
    ((db.externalPlatforms.rows.find? fun platform => platform.id = id).filter fun platform =>
      !isBlank platform.code ∧ platform.code ≠ postralInstance).map fun valid =>
        ⟨valid.code, valid.name, some valid.id⟩

/-- An item has an id, or a name that is not empty. -/
def IsIdentified (env : Env) (item : PaymentItem) : Prop :=
  isBlank item.itemId = false ∨ env.toLowerCase (collapseSpaces item.name) ≠ ""

instance (env : Env) (item : PaymentItem) : Decidable (IsIdentified env item) := by
  unfold IsIdentified
  infer_instance

/-- The report counts no item, or no row under the key of the platform is of another platform. -/
def PlatformFits (db : Db) (reportId : String) (payment : Payment) (accountId : Option String)
    (platform : PlatformSource) : Prop :=
  (itemsOf payment accountId).length = 0 ∨
    (((db.platforms.find (reportId, reportAccountId accountId, platform.platformKey)).map (·.load)).getD
      (newReportPlatform reportId (reportAccountId accountId) platform)).externalPlatformId = platform.externalPlatformId

instance (db : Db) (reportId : String) (payment : Payment) (accountId : Option String) (platform : PlatformSource) :
    Decidable (PlatformFits db reportId payment accountId platform) := by
  unfold PlatformFits
  infer_instance

/-- Commission is only taken of payments of this platform. -/
def HasTaxMax (db : Db) (payment : Payment) : Prop :=
  truthy payment.externalPlatformId = true ∨ comissionPercent db ≠ -100

instance (db : Db) (payment : Payment) : Decidable (HasTaxMax db payment) := by
  unfold HasTaxMax
  infer_instance

theorem generate_key_passes {env : Env} {item : PaymentItem} :
    (∃ key, generateKey env reportId item.itemId item.variation item.name = .ok key) ↔ IsIdentified env item := by
  unfold generateKey IsIdentified
  cases isBlank item.itemId <;> simp

theorem divide_passes {a b : ℚ} : (∃ ratio, divideNumberValues a [b] = .ok ratio) ↔ a = 0 ∨ b ≠ 0 := by
  unfold divideNumberValues
  by_cases h : a = 0
  · simp [h]
  · simp [h, multiplyNumberValues]

theorem save_expenses_passes (rows : List (ReportExpense ℚ)) : Passes (saveExpenses rows) fun _ => True :=
  passes_save _

theorem expenses_pass (owner : String) (platform : PlatformSource) :
    Passes (updateExpensesForReport reportId payment owner accountId platform) fun _ => True := by
  unfold updateExpensesForReport
  exact Passes.find fun _ => save_expenses_passes _

theorem add_fees_pass (account : String) (fees : List ProviderFee) :
    Passes (addProviderFeeExpenses reportId account fees) fun _ => True := by
  unfold addProviderFeeExpenses
  dsimp only
  split
  · exact passes_pure ()
  · exact Passes.find fun _ => save_expenses_passes _

/-- Only the order of the seller may be missing. -/
theorem seller_fees_pass (account : String) :
    Passes (updateProviderFeeExpenseForReportAccountId reportId payment account) fun db =>
      (db.orders.find (payment.id, account)).isSome = true := by
  unfold updateProviderFeeExpenseForReportAccountId
  have hrest (operations : List PaymentChannelOperation) (paymentSellerOrder : SellerPaymentOrder) :
      Passes (if paymentSellerOrder.amount ≤ 0 ∨ payment.totalAmount ≤ 0 then (pure () : Digest Unit) else do
        let ratio ← check (divideNumberValues (fromColumn paymentSellerOrder.amount) [fromColumn payment.totalAmount])
        addProviderFeeExpenses reportId account (operations.map fun operation =>
          ⟨operation.paymentChannelId, multiplyNumberValues [fromColumn operation.providerFee, ratio]⟩)) fun _ => True := by
    split <;> rename_i hamount
    · exact passes_pure ()
    · refine (Passes.check fun _ => add_fees_pass account _).congr fun db => ?_
      simp only [and_true, iff_true, divide_passes]
      apply Or.inr
      unfold fromColumn
      have htotal : payment.totalAmount ≠ 0 := by omega
      simpa using htotal
  refine (Passes.find fun operations => Passes.find fun order => Passes.check (hrest operations)).congr fun db => ?_
  simp [Option.isSome_iff_exists]

theorem platform_fees_pass : Passes (updateProviderFeeExpenseForPlatformReport reportId payment) fun _ => True := by
  unfold updateProviderFeeExpenseForPlatformReport
  exact Passes.find fun _ => add_fees_pass _ _

theorem rounding_passes (report : Report ℚ) (account : String) :
    Passes (updateRefundRoundingExpense report payment account) fun _ => True := by
  unfold updateRefundRoundingExpense
  split
  · exact passes_pure report
  · refine (Passes.find (P := fun _ _ => True) fun refunds => ?_).congr fun _ => Iff.rfl
    dsimp only
    split
    · exact passes_pure report
    · refine (Passes.find fun expenses => (save_expenses_passes _).seq fun _ => passes_pure _).congr ?_
      simp

theorem totals_pass (report : Report ℚ) (owner : String) :
    Passes (digestTotals report payment accountId owner) fun _ => True := by
  unfold digestTotals stampTimeAndSaveReport
  exact Passes.find fun _ => passes_save _

theorem tax_groups_pass : Passes (updateTaxGroupReportByPaymentAndAccountId reportId payment accountId) fun _ => True := by
  apply passes_forM
  intro percent
  unfold updateTaxGroup
  exact Passes.find fun _ => passes_save _

theorem look_up_passes (reportId key : String) (rows : ItemMap) (account : String) :
    Passes (lookUpReportItem reportId account key rows) fun _ => True := by
  unfold lookUpReportItem
  split
  · exact passes_pure _
  · exact passes_find _

theorem or_save_passes (found : Option (ReportItem ℚ)) (fresh : ReportItem ℚ) :
    Passes (orSaveReportItem found fresh) fun _ => True := by
  unfold orSaveReportItem
  split
  · exact passes_pure _
  · exact ((passes_save _).seq fun _ => passes_pure _).congr (by simp)

/-- Only the key of an item may be missing. -/
theorem items_pass (env : Env) :
    Passes (updatePaymentItemReport env reportId payment accountId) fun _ =>
      ∀ item ∈ itemsOf payment accountId, IsIdentified env item := by
  have hturn (rows : ItemMap) (item : PaymentItem) :
      Passes (updateReportItem env reportId (reportAccountId accountId) payment.type rows item) fun _ =>
        IsIdentified env item := by
    unfold updateReportItem
    have hrest (key : String) := (look_up_passes reportId key rows (reportAccountId accountId)).seq
      fun found => (or_save_passes found (newReportItem reportId (reportAccountId accountId) key item)).seq
        fun row => (passes_save fun db => { db with
            items := db.items.save (addToReportItem payment.type item row).store }).seq
          fun _ => passes_pure (ε := HttpError) (Function.update rows key (some (addToReportItem payment.type item row)))
    refine (Passes.check hrest).congr fun db => ?_
    simp only [and_true, generate_key_passes]
  unfold updatePaymentItemReport
  exact ((passes_foldlM hturn _ _).seq fun _ => passes_pure ()).congr (by simp)

theorem platforms_pass (platform : PlatformSource) :
    Passes (updatePlatformReport reportId payment platform accountId) fun db =>
      PlatformFits db reportId payment accountId platform := by
  unfold updatePlatformReport PlatformFits
  dsimp only
  split <;> rename_i hitems
  · exact (passes_pure ()).congr fun db => by simp [hitems]
  · refine (Passes.find fun found => Passes.check fun _ => passes_save _).congr fun db => ?_
    simp [hitems]

theorem comission_passes (report : Report ℚ) :
    Passes (digestComissionIncomeForReport report payment accountId) fun db => HasTaxMax db payment := by
  unfold digestComissionIncomeForReport HasTaxMax
  split <;> rename_i hexternal
  · exact (passes_pure ()).congr fun db => by simp [hexternal]
  · refine (Passes.find fun rate => Passes.check fun taxMax =>
      (passes_save _).seq fun _ => Passes.find fun found => passes_save _).congr fun db => ?_
    have hdivide := divide_passes (a := comissionPercent db) (b := addNumberValues [comissionPercent db, 100])
    simp only [and_true, hexternal, Bool.false_eq_true, false_or]
    refine hdivide.trans ?_
    rw [addNumberValues_eq_sum, List.sum_pair]
    grind

theorem resolve_passes {α : Type} {g : PlatformSource → Digest α} {P : PlatformSource → Db → Prop}
    (h : ∀ platform, Passes (g platform) (P platform)) :
    Passes (resolveReportPlatform payment >>= g) fun db => ∃ platform, platformOf db payment = some platform ∧
      P platform db := by
  unfold resolveReportPlatform platformOf
  split <;> rename_i hplatform
  · exact (h _).congr fun db => by simp [hplatform]
  · exact (h _).congr fun db => by simp [hplatform]
  · simp only [bind_assoc]
    refine (Passes.find fun platform => Passes.check fun valid => h _).congr fun db => ?_
    simp [hplatform]

/-- Where `digestReport` does not throw. -/
def ReportPasses (env : Env) (db : Db) (report : Report ℚ) (payment : Payment) (accountId : String) : Prop :=
  match report.reportType with
  | .seller => ∃ platform, platformOf db payment = some platform ∧
      (db.orders.find (payment.id, accountId)).isSome = true ∧
      (∀ item ∈ itemsOf payment (some accountId), IsIdentified env item) ∧
      PlatformFits db report.id payment (some accountId) platform
  | .platform | .platformSeller => HasTaxMax db payment
  | .platformFlow => ∃ platform, platformOf db payment = some platform ∧
      (∀ item ∈ itemsOf payment none, IsIdentified env item) ∧
      PlatformFits db report.id payment none platform

end Throw

/-- The end of a digestion, for a seller and for the platform. -/
theorem breakdown_passes (env : Env) (report : Report ℚ) (payment : Payment) (accountId : Option String) (owner : String)
    (platform : PlatformSource) :
    Passes (do
      digestTotals report payment accountId owner
      updateTaxGroupReportByPaymentAndAccountId report.id payment accountId
      updatePaymentItemReport env report.id payment accountId
      updatePlatformReport report.id payment platform accountId) fun db =>
        (∀ item ∈ itemsOf payment accountId, IsIdentified env item) ∧
          PlatformFits db report.id payment accountId platform := by
  refine ((totals_pass _ _).bind (totals_keep {} _ _) fun _ => tax_groups_pass.bind (tax_groups_keep {}) fun _ =>
    (items_pass env).bind (items_keep {} _) fun _ => platforms_pass platform).congr fun db => ?_
  simp

theorem digest_report_passes (env : Env) (r : Report ℤ) (payment : Payment) (accountId : String) :
    Passes (digestReport env r.load payment accountId) fun db => ReportPasses env db r.load payment accountId := by
  unfold digestReport ReportPasses digestPayment digestPlatformFlowReport
  cases r.load.reportType with
  | seller =>
    refine (resolve_passes fun platform => (expenses_pass _ _).bind (expenses_keep {} _ _) fun _ =>
      (seller_fees_pass _).bind (seller_fees_keep {} _) fun _ =>
      breakdown_passes env r.load payment _ accountId platform).congr fun db => ?_
    simp
  | platform =>
    dsimp only
    split
    · exact comission_passes _
    · refine (platform_fees_pass.bind (platform_fees_keep {}) fun _ =>
        (rounding_passes _ _).bind (rounding_keep {} _ _) fun _ => comission_passes _).congr fun db => ?_
      simp
  | platformSeller => exact comission_passes _
  | platformFlow =>
    have hrounded (platform : PlatformSource) (report : Report ℚ)
        (h : ∃ s t, Returns (updateRefundRoundingExpense r.load payment accountId) s report t) :
        Passes (do
          digestTotals report payment none accountId
          updateTaxGroupReportByPaymentAndAccountId report.id payment none
          updatePaymentItemReport env report.id payment none
          updatePlatformReport report.id payment platform none) fun db =>
            (∀ item ∈ itemsOf payment none, IsIdentified env item) ∧
              PlatformFits db r.load.id payment none platform := by
      obtain ⟨s, t, h⟩ := h
      obtain ⟨expense, rfl⟩ := (refund_rounding_only ⟨_, rfl⟩ h).1
      exact breakdown_passes env _ payment none accountId platform
    refine (resolve_passes fun platform => (expenses_pass _ _).bind (expenses_keep {} _ _) fun _ =>
      platform_fees_pass.bind (platform_fees_keep {}) fun _ =>
      (rounding_passes _ _).bind_returned (rounding_keep {} _ _) (hrounded platform)).congr fun db => ?_
    simp

theorem digest_included_passes (env : Env) (r : Report ℤ) (payment : Payment) (accountId : String) :
    Passes (digestIncluded env r.load payment accountId) fun db =>
      payment.includeInReportDigestion = true → ReportPasses env db r.load payment accountId := by
  unfold digestIncluded
  split <;> rename_i hincluded
  · exact (digest_report_passes env r payment accountId).congr fun db => by simp [hincluded]
  · exact (passes_pure ()).congr fun db => by simp [hincluded]

/-- The payment and the report are stored, the query has an owner, and no update throws. -/
def Digestible (env : Env) (db : Db) (relation : ReportPaymentRelation) : Prop :=
  ∃ payment r account, db.payments.find relation.paymentId = some payment ∧
    db.reports.find relation.reportId = some r ∧ ownerOf db r = some account ∧ account ≠ "" ∧
    (payment.includeInReportDigestion = true → ReportPasses env db r.load payment account)

/-! ## What a digestion does to the relations -/

/-- A relation is completed at the end, or nothing changes. -/
theorem digest_relation_returns {env : Env} {relation : ReportPaymentRelation} {s t : Session HttpError Db} {u : Unit}
    (h : Returns (digestRelation env relation) s u t) :
    t.db.relations = s.db.relations ∨ t.db.relations = s.db.relations.save (completedRelation relation) := by
  rcases digest_relation_spec h with ⟨hsame, -⟩ | ⟨r, payment, account, hdigested⟩
  · rw [hsame]
    exact Or.inl rfl
  · obtain ⟨v, w, hv, hdigest, ht⟩ := hdigested.updates
    have hkeep := (digest_keeps_relations env r.load payment account).of_returns hdigest
    rw [ht, ← hv, ← hkeep]
    exact Or.inr rfl

theorem digest_relation_throws {env : Env} {relation : ReportPaymentRelation} {s t : Session HttpError Db} {e : HttpError}
    (h : Throws (digestRelation env relation) s e t) : t.db.relations = s.db.relations := by
  unfold digestRelation at h
  simp only [throws_bind, returns_check] at h
  rcases h with h | ⟨found, v, hfound, h | ⟨payment, _, ⟨-, rfl⟩, h | ⟨fresh, w, hfresh, h⟩⟩⟩
  · rw [throws_statement h]
  · rw [(keeps_check (f := Db.relations) _).of_throws h, (returns_find hfound).2]
  · rw [throws_statement h, (returns_find hfound).2]
  · rw [← (returns_find hfound).2, ← (returns_find hfresh).2]
    split at h
    · exact (throws_pure.mp h).elim
    · exact (throws_pure.mp h).elim
    · exact (throws_pure.mp h).elim
    · rcases throws_bind.mp h with h | ⟨_, x, hdigest, h⟩
      · exact (digest_keeps_relations env _ payment _).of_throws h
      · rw [throws_statement h]
        exact (digest_keeps_relations env _ payment _).of_returns hdigest

/-- The body of the loop after its reads. -/
def digestFound (env : Env) (relation : ReportPaymentRelation) (payment : Payment) :
    Option (Report ℚ × Option String) → Digest Unit
  | none | some (_, none) | some (_, some "") => return
  | some (report, some accountId) => do
    digestIncluded env report payment accountId
    save fun db => { db with relations := db.relations.save (completedRelation relation) }

theorem digest_relation_eq (env : Env) (relation : ReportPaymentRelation) :
    digestRelation env relation = (do
      let found ← find fun db => db.payments.find relation.paymentId
      let payment ← check (orThrow found (.notFound "Payment not found"))
      let fresh ← find (freshReport relation.reportId)
      digestFound env relation payment fresh) := by
  unfold digestRelation digestFound
  rfl

/-- Where no statement fails, exactly the digestible relations are completed. -/
theorem digest_relation_passes (env : Env) (db : Db) (relation : ReportPaymentRelation) :
    (Digestible env db relation → ∃ db', Runs (digestRelation env relation) db () db' ∧
      db'.relations = db.relations.save (completedRelation relation)) ∧
    (¬ Digestible env db relation → Runs (digestRelation env relation) db () db ∨ Fails (digestRelation env relation) db) := by
  unfold Digestible
  cases hpayment : db.payments.find relation.paymentId with
  | none =>
    rw [digest_relation_eq]
    refine ⟨by simp, fun _ => Or.inr ((runs_find _ db).bind_fails ?_)⟩
    rw [hpayment]
    exact (fails_check _ db).bind _
  | some payment =>
    have hcheck : Runs (check (orThrow (db.payments.find relation.paymentId) (HttpError.notFound "Payment not found")))
        db payment db := by
      rw [hpayment]
      exact runs_check payment db
    have hruns {db' : Db} (h : Runs (digestFound env relation payment (freshReport relation.reportId db)) db () db') :
        Runs (digestRelation env relation) db () db' := by
      rw [digest_relation_eq]
      exact (runs_find _ db).bind (hcheck.bind ((runs_find _ db).bind h))
    have hfails (h : Fails (digestFound env relation payment (freshReport relation.reportId db)) db) :
        Fails (digestRelation env relation) db := by
      rw [digest_relation_eq]
      exact (runs_find _ db).bind_fails (hcheck.bind_fails ((runs_find _ db).bind_fails h))
    cases hreport : db.reports.find relation.reportId with
    | none =>
      have hfresh : freshReport relation.reportId db = none := by simp [freshReport, hreport]
      refine ⟨by simp, fun _ => Or.inl (hruns ?_)⟩
      rw [hfresh]
      exact runs_pure () db
    | some r =>
      have hfresh : freshReport relation.reportId db = some (r.load, ownerOf db r) := by
        simp [freshReport, hreport, ownerOf]
      rw [hfresh] at hruns hfails
      by_cases howner : ∃ account, ownerOf db r = some account ∧ account ≠ ""
      · obtain ⟨account, howner, hne⟩ := howner
        have hfound : digestFound env relation payment (some (r.load, ownerOf db r)) = (do
            digestIncluded env r.load payment account
            save fun db => { db with relations := db.relations.save (completedRelation relation) }) := by
          rw [howner]
          unfold digestFound
          split <;> simp_all
        have hdigest := digest_included_passes env r payment account db
        rw [hfound] at hruns hfails
        constructor
        · rintro ⟨_, _, _, ⟨rfl⟩, ⟨rfl⟩, howner', -, hpasses⟩
          obtain rfl : account = _ := Option.some.inj (howner.symm.trans howner')
          obtain ⟨_, db', hrun⟩ := hdigest.1 hpasses
          obtain ⟨t, ht, rfl⟩ := hrun.returns
          refine ⟨_, hruns (hrun.bind (runs_save _ _)), ?_⟩
          rw [← (digest_keeps_relations env r.load payment account).of_returns ht]
        · intro hnot
          refine Or.inr (hfails (Fails.bind _ (hdigest.2 fun hpasses => hnot ?_)))
          exact ⟨payment, r, account, rfl, rfl, howner, hne, hpasses⟩
      · constructor
        · rintro ⟨_, _, account, _, h, h', hne, _⟩
          obtain rfl := Option.some.inj h
          exact absurd ⟨account, h', hne⟩ howner
        · intro _
          have hskip : digestFound env relation payment (some (r.load, ownerOf db r)) = pure () := by
            unfold digestFound
            split <;> simp_all
          refine Or.inl (hruns ?_)
          rw [hskip]
          exact runs_pure () db

end Postral.Reports
