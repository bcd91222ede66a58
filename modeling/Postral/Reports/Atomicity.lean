import Postral.Reports.Expenses
import Postral.Reports.Failures

/-!
# Digestions that stop

A digestion saves after each of its updates. It leaves the tables of the reports alone wherever it
stops only when it has nothing to write before its last statement.
-/

open Check Session Rounding

namespace Postral.Reports

/-! ## Commissions that change no row -/

/-- The rows keep their other columns. -/
def KeepsColumns (expenseMap : ExpenseMap) (db : Db) (reportId accountId : String) : Prop :=
  ∀ e ∈ expenseMap.rows, ∀ row, db.expenses.find (reportId, accountId, e.expenseKey) = some row →
    e = { row.load with expenseAmount := e.expenseAmount }

section Maps

variable {M : ExpenseMap} {db : Db} {reportId accountId k : String} {fresh : ReportExpense ℚ} {f : ℚ → ℚ}

theorem keeps_columns_add_to (hcovers : Covers M db reportId accountId) (h : KeepsColumns M db reportId accountId) :
    KeepsColumns (addTo M fresh f) db reportId accountId := by
  intro e he row hrow
  unfold addTo at he
  rcases Table.mem_save.mp he with rfl | ⟨he, -⟩
  · cases hfind : M.find fresh.expenseKey with
    | none =>
      have hnone := hcovers.found _ hfind
      rw [hfind] at hrow
      exact absurd (hnone.symm.trans hrow) (by simp)
    | some old =>
      rw [hfind] at hrow
      have hold := h old (Table.mem_of_find hfind) row hrow
      rw [Option.getD_some, hold]
  · exact h e he row hrow

theorem keeps_columns_loaded (db : Db) (reportId accountId : String) :
    KeepsColumns (expenseMapOf (expensesOf reportId accountId db)) db reportId accountId := by
  intro e he row hrow
  have hfind := Table.find_of_mem he
  rw [find_loaded, hrow] at hfind
  obtain rfl := Option.some.inj hfind
  rfl

/-- A loop over the rows adds those that are missing. -/
theorem find_add_rows (rows : List (ReportExpense ℚ)) (M : ExpenseMap) (k : String) :
    (rows.foldl (fun M e => addTo M e f) M).find k = none ↔ M.find k = none ∧ k ∉ rows.map (·.expenseKey) := by
  induction rows generalizing M with
  | nil => simp
  | cons e rows ih =>
    rw [List.foldl_cons, ih, find_add_to, List.map_cons, List.mem_cons, not_or]
    by_cases hk : k = e.expenseKey
    · simp [hk]
    · simp [hk]

theorem find_add_all {α : Type} (rows : α → List (ReportExpense ℚ)) (f : α → ℚ → ℚ) (xs : List α) (M : ExpenseMap)
    (k : String) :
    (xs.foldl (fun M x => (rows x).foldl (fun M e => addTo M e (f x)) M) M).find k = none ↔
      M.find k = none ∧ ∀ x ∈ xs, k ∉ (rows x).map (·.expenseKey) := by
  induction xs generalizing M with
  | nil => simp
  | cons x xs ih =>
    rw [List.foldl_cons, ih, find_add_rows, List.forall_mem_cons, and_assoc]

theorem keeps_columns_foldl {α : Type} (xs : List α) (rows : α → List (ReportExpense ℚ)) (f : α → ℚ → ℚ)
    (hrows : ∀ x, ∀ e ∈ rows x, e.reportId = reportId ∧ e.accountId = accountId) (hcovers : Covers M db reportId accountId)
    (h : KeepsColumns M db reportId accountId) :
    KeepsColumns (xs.foldl (fun M x => (rows x).foldl (fun M e => addTo M e (f x)) M) M) db reportId accountId := by
  have hstep (x : α) (M : ExpenseMap) (hM : Covers M db reportId accountId ∧ KeepsColumns M db reportId accountId) :
      Covers ((rows x).foldl (fun M e => addTo M e (f x)) M) db reportId accountId ∧
        KeepsColumns ((rows x).foldl (fun M e => addTo M e (f x)) M) db reportId accountId := by
    apply List.foldlRecOn (motive := fun M => Covers M db reportId accountId ∧ KeepsColumns M db reportId accountId)
      (rows x) _ hM
    rintro M ⟨hcovers, hkeeps⟩ e he
    exact ⟨covers_add_to hcovers (hrows x e he).1 (hrows x e he).2, keeps_columns_add_to hcovers hkeeps⟩
  have hall : Covers (xs.foldl (fun M x => (rows x).foldl (fun M e => addTo M e (f x)) M) M) db reportId accountId ∧
      KeepsColumns (xs.foldl (fun M x => (rows x).foldl (fun M e => addTo M e (f x)) M) M) db reportId accountId := by
    apply List.foldlRecOn (motive := fun M => Covers M db reportId accountId ∧ KeepsColumns M db reportId accountId)
      xs _ ⟨hcovers, h⟩
    exact fun M hM x _ => hstep x M hM
  exact hall.2

end Maps

/-- Every row of the commission is stored, and what goes to it adds up to zero. -/
def ComissionStays (db : Db) (reportId accountId : String) (platformCode : Option String) (type : PaymentType)
    (items : List PaymentItem) : Prop :=
  ∀ item ∈ items, ∀ row ∈ comissionExpenses reportId accountId platformCode item,
    (db.expenses.find (reportId, accountId, row.expenseKey)).isSome = true ∧
      comissionAdded reportId accountId platformCode type items row.expenseKey = 0

/-- The expenses in memory after the commission. -/
def comissionMap (db : Db) (reportId accountId : String) (platformCode : Option String) (type : PaymentType)
    (items : List PaymentItem) : ExpenseMap :=
  items.foldl (fun expenseMap item =>
    (comissionExpenses reportId accountId platformCode item).foldl (fun expenseMap fresh =>
      addTo expenseMap fresh fun expense => expenseAction type expense (fromColumn item.appComissionAmount))
      expenseMap) (expenseMapOf (expensesOf reportId accountId db))

section Comission

variable {db : Db} {reportId accountId : String} {platformCode : Option String} {type : PaymentType} {items : List PaymentItem}

theorem comission_map_covers : Covers (comissionMap db reportId accountId platformCode type items) db reportId accountId :=
  covers_foldl items (comissionExpenses reportId accountId platformCode)
    (fun item expense => expenseAction type expense (fromColumn item.appComissionAmount))
    (fun item e he => (comission_rows_of reportId accountId platformCode item e he).1) (covers_loaded db reportId accountId)

theorem comission_map_amount (k : String) : amountIn (comissionMap db reportId accountId platformCode type items) k =
    fromColumn (storedAmount db reportId accountId k) + comissionAdded reportId accountId platformCode type items k := by
  unfold comissionMap
  rw [amount_foldl (fun item => fromColumn (signed type item.appComissionAmount))
    (fun item e => by rw [expense_action_eq, fromColumn_signed])
    (fun item e he => (comission_rows_of reportId accountId platformCode item e he).2), amount_loaded]
  rfl

theorem comission_added_column (reportId accountId : String) (platformCode : Option String) (type : PaymentType)
    (items : List PaymentItem) (k : String) :
    ∃ n, comissionAdded reportId accountId platformCode type items k = fromColumn n := by
  unfold comissionAdded addedTo
  refine ⟨(items.map fun item => ((comissionExpenses reportId accountId platformCode item).map (·.expenseKey)).count k *
    signed type item.appComissionAmount).sum, ?_⟩
  rw [← fromColumn_sum, List.map_map]
  congr 1
  apply List.map_congr_left
  intro item _
  rw [Function.comp_apply, ← intCast_mul_fromColumn]
  push_cast
  rfl

/-- A commission that stays saves the rows as they are. -/
theorem comission_rows_stored (h : ComissionStays db reportId accountId platformCode type items) :
    ∀ e ∈ (comissionMap db reportId accountId platformCode type items).rows, e.store ∈ db.expenses.rows := by
  intro e he
  have hkept := keeps_columns_foldl items (comissionExpenses reportId accountId platformCode)
    (fun item expense => expenseAction type expense (fromColumn item.appComissionAmount))
    (fun item e he => (comission_rows_of reportId accountId platformCode item e he).1) (covers_loaded db reportId accountId)
    (keeps_columns_loaded db reportId accountId) e he
  have hfound : (comissionMap db reportId accountId platformCode type items).find e.expenseKey = some e := Table.find_of_mem he
  -- A key of the map is a key of the commission, or that of a stored row.
  have hstays : (db.expenses.find (reportId, accountId, e.expenseKey)).isSome = true ∧
      comissionAdded reportId accountId platformCode type items e.expenseKey = 0 := by
    by_cases htouched : ∃ item ∈ items, e.expenseKey ∈
        (comissionExpenses reportId accountId platformCode item).map (·.expenseKey)
    · obtain ⟨item, hitem, hkey⟩ := htouched
      obtain ⟨row, hrow, hk⟩ := List.mem_map.mp hkey
      rw [← hk]
      exact h item hitem row hrow
    · push Not at htouched
      refine ⟨?_, added_of_forall_notMem _ htouched⟩
      rw [Option.isSome_iff_ne_none]
      intro hnone
      have hloaded : (expenseMapOf (expensesOf reportId accountId db)).find e.expenseKey = none := by
        rw [find_loaded, hnone]
        rfl
      have habsent := (find_add_all (comissionExpenses reportId accountId platformCode)
        (fun item expense => expenseAction type expense (fromColumn item.appComissionAmount))
        items _ e.expenseKey).mpr ⟨hloaded, htouched⟩
      exact absurd (hfound.symm.trans habsent) (by simp)
  obtain ⟨hsome, hzero⟩ := hstays
  obtain ⟨row, hrow⟩ := Option.isSome_iff_exists.mp hsome
  have hamount : e.expenseAmount = fromColumn row.expenseAmount := by
    have hmap : amountIn (comissionMap db reportId accountId platformCode type items) e.expenseKey = _ :=
      comission_map_amount e.expenseKey
    unfold amountIn storedAmount Table.value at hmap
    rw [hfound, hrow, hzero, add_zero] at hmap
    exact hmap
  have hstored : e.store = row := by
    rw [hkept row hrow, hamount]
    simp [ReportExpense.store, ReportExpense.load, ReportExpense.map]
  rw [hstored]
  exact Table.mem_of_find hrow

theorem comission_saves_nothing (h : ComissionStays db reportId accountId platformCode type items) :
    (comissionMap db reportId accountId platformCode type items).rows.foldl (fun expenses e => expenses.save e.store)
      db.expenses = db.expenses := by
  have hstored : ∀ e ∈ (comissionMap db reportId accountId platformCode type items).rows.map (·.store),
      e ∈ db.expenses.rows := by
    intro e he
    obtain ⟨e, hmem, rfl⟩ := List.mem_map.mp he
    exact comission_rows_stored h e hmem
  have hrows := Table.saveAll_of_mem hstored
  rwa [Table.saveAll, List.foldl_map] at hrows

variable {s t : Session HttpError Db} {u : Unit} {payment : Payment} {itemFilterAccountId : Option String}
  {platform : PlatformSource}

theorem update_expenses_saves
    (h : Returns (updateExpensesForReport reportId payment accountId itemFilterAccountId platform) s u t) :
    ∃ v, v.db = s.db ∧ Returns (saveExpenses (comissionMap s.db reportId accountId (platformCodeOf payment platform)
      payment.type (itemsOf payment itemFilterAccountId)).rows) v u t := by
  unfold updateExpensesForReport at h
  simp only [returns_bind] at h
  obtain ⟨_, v, hfind, hsave⟩ := h
  obtain ⟨rfl, hv⟩ := returns_find hfind
  exact ⟨v, hv, hsave⟩

/-- The commission leaves the expenses alone exactly when it stays. -/
theorem expenses_left_iff
    (h : Returns (updateExpensesForReport reportId payment accountId itemFilterAccountId platform) s u t) :
    t.db.expenses = s.db.expenses ↔ ComissionStays s.db reportId accountId (platformCodeOf payment platform) payment.type
      (itemsOf payment itemFilterAccountId) := by
  obtain ⟨v, hv, hsave⟩ := update_expenses_saves h
  constructor
  · intro hsame item hitem row hrow
    constructor
    · obtain ⟨e, he⟩ : ∃ e, (comissionMap s.db reportId accountId (platformCodeOf payment platform) payment.type
          (itemsOf payment itemFilterAccountId)).find row.expenseKey = some e := by
        rw [← Option.ne_none_iff_exists']
        intro hfind
        exact ((find_add_all _ _ _ _ _).mp hfind).2 item hitem (List.mem_map_of_mem hrow)
      obtain ⟨hfound, -⟩ := save_expenses_spec (Table.nodup _) comission_map_covers.belongs hsave
      have hrows := hfound row.expenseKey
      unfold Table.find at he
      rw [he, hsame] at hrows
      rw [hrows]
      rfl
    · obtain ⟨n, hn⟩ := comission_added_column reportId accountId (platformCodeOf payment platform) payment.type
        (itemsOf payment itemFilterAccountId) row.expenseKey
      have hamount := (update_expenses_raised h).amounts row.expenseKey
      have hstored : storedAmount t.db reportId accountId row.expenseKey = storedAmount s.db reportId accountId row.expenseKey := by
        unfold storedAmount
        rw [hsame]
      rw [hn, grown_by_fromColumn, hstored] at hamount
      have hzero : n = 0 := by omega
      rw [hn, hzero, fromColumn_zero]
  · intro hstays
    rw [returns_save hsave, hv]
    exact comission_saves_nothing hstays

end Comission

/-! ## Updates are plain -/

section Updates

variable (reportId : String) (payment : Payment) (accountId : Option String)

theorem expenses_plain (owner : String) (platform : PlatformSource) :
    Plain (updateExpensesForReport reportId payment owner accountId platform) :=
  (plain_find _).bind fun _ => plain_save _

theorem add_fees_plain (account : String) (fees : List ProviderFee) :
    Plain (addProviderFeeExpenses reportId account fees) := by
  unfold addProviderFeeExpenses
  dsimp only
  split
  · exact plain_pure ()
  · exact (plain_find _).bind fun _ => plain_save _

theorem seller_fees_plain (account : String) :
    Plain (updateProviderFeeExpenseForReportAccountId reportId payment account) := by
  unfold updateProviderFeeExpenseForReportAccountId
  refine (plain_find _).bind fun operations => (plain_find _).bind fun order => (plain_check _).bind fun sellerOrder => ?_
  split
  · exact plain_pure ()
  · exact (plain_check _).bind fun _ => add_fees_plain reportId account _

theorem platform_fees_plain : Plain (updateProviderFeeExpenseForPlatformReport reportId payment) :=
  (plain_find _).bind fun _ => add_fees_plain _ _ _

theorem rounding_plain (report : Report ℚ) (account : String) :
    Plain (updateRefundRoundingExpense report payment account) := by
  unfold updateRefundRoundingExpense
  split
  · exact plain_pure report
  · refine (plain_find _).bind fun refunds => ?_
    dsimp only
    split
    · exact plain_pure report
    · exact (plain_find _).bind fun expenses => (plain_save _).bind fun _ => plain_pure _

theorem totals_plain (report : Report ℚ) (owner : String) : Plain (digestTotals report payment accountId owner) :=
  (plain_find _).bind fun _ => plain_save _

theorem tax_groups_plain : Plain (updateTaxGroupReportByPaymentAndAccountId reportId payment accountId) :=
  plain_forM (fun _ => (plain_find _).bind fun _ => plain_save _) _

theorem items_plain (env : Env) : Plain (updatePaymentItemReport env reportId payment accountId) := by
  have hturn (mapped : ItemMap) (item : PaymentItem) :
      Plain (updateReportItem env reportId (reportAccountId accountId) payment.type mapped item) := by
    refine (plain_check _).bind fun key => Plain.bind ?_ fun found => Plain.bind ?_ fun row =>
      (plain_save _).bind fun _ => plain_pure _
    · unfold lookUpReportItem
      split
      · exact plain_pure _
      · exact plain_find _
    · unfold orSaveReportItem
      split
      · exact plain_pure _
      · exact (plain_save _).bind fun _ => plain_pure _
  exact (plain_foldlM hturn _ _).bind fun _ => plain_pure ()

theorem platforms_plain (platform : PlatformSource) : Plain (updatePlatformReport reportId payment platform accountId) := by
  unfold updatePlatformReport
  dsimp only
  split
  · exact plain_pure ()
  · exact (plain_find _).bind fun _ => (plain_check _).bind fun _ => plain_save _

theorem comission_plain (report : Report ℚ) : Plain (digestComissionIncomeForReport report payment accountId) := by
  unfold digestComissionIncomeForReport
  split
  · exact plain_pure ()
  · exact (plain_find _).bind fun _ => (plain_check _).bind fun _ => (plain_save _).bind fun _ =>
      (plain_find _).bind fun _ => plain_save _

/-- The end of a digestion, after the totals. -/
theorem breakdown_plain (env : Env) (platform : PlatformSource) : Plain (do
    updateTaxGroupReportByPaymentAndAccountId reportId payment accountId
    updatePaymentItemReport env reportId payment accountId
    updatePlatformReport reportId payment platform accountId) :=
  (tax_groups_plain _ _ _).bind fun _ => (items_plain _ _ _ env).bind fun _ => platforms_plain _ _ _ platform

variable {payment}

theorem resolve_completes {db : Db} {platform : PlatformSource} (h : platformOf db payment = some platform) :
    Completes (resolveReportPlatform payment) db platform db := by
  unfold resolveReportPlatform
  split <;> rename_i hplatform
  · obtain rfl : _ = platform := by simpa [platformOf, hplatform] using h
    exact completes_pure _ db
  · obtain rfl : _ = platform := by simpa [platformOf, hplatform] using h
    exact completes_pure _ db
  · simp only [platformOf, hplatform] at h
    obtain ⟨valid, hvalid, rfl⟩ := Option.map_eq_some_iff.mp h
    exact (completes_find _ db).bind ((completes_check (orThrow_eq_ok.mpr hvalid) db).bind (completes_pure _ db))

theorem resolve_maintains {db : Db} {α : Type} {g : PlatformSource → Digest α} {Q : α → Prop}
    (h : ∀ platform, platformOf db payment = some platform → Maintains (· = db) (g platform) Q) :
    Maintains (· = db) (resolveReportPlatform payment >>= g) Q := by
  unfold resolveReportPlatform
  split <;> rename_i hplatform
  · exact (maintains_pure rfl).bind fun platform hp => h platform (by simp [platformOf, hplatform, hp])
  · exact (maintains_pure rfl).bind fun platform hp => h platform (by simp [platformOf, hplatform, hp])
  · simp only [bind_assoc]
    refine maintains_find_bind (maintains_check_bind fun valid hvalid => h _ ?_)
    simp only [platformOf, hplatform, orThrow_eq_ok.mp hvalid]
    rfl

end Updates

/-! ## Stops that leave nothing -/

/-- The tables of the reports hold the same rows. -/
structure SameReports (db db' : Db) : Prop where
  reports : db'.reports = db.reports
  items : db'.items = db.items
  platforms : db'.platforms = db.platforms
  taxGroups : db'.taxGroups = db.taxGroups
  expenses : db'.expenses = db.expenses

/-- A digestion of `payment` in `r` throws by itself before it writes, or has nothing to write. -/
def WritesNothing (db : Db) (r : Report ℤ) (payment : Payment) (account : String) : Prop :=
  match r.reportType with
  | .seller => ∀ platform, platformOf db payment = some platform →
      db.orders.find (payment.id, account) = none ∧
        ComissionStays db r.id account (platformCodeOf payment platform) payment.type (itemsOf payment (some account))
  | .platform => truthy payment.externalPlatformId = true ∨
      positiveFees (platformFees db payment) = [] ∧ refundRounding db payment = 0 ∧ comissionPercent db = -100
  | .platformSeller => truthy payment.externalPlatformId = true ∨ comissionPercent db = -100
  | .platformFlow => platformOf db payment = none

/-- No update of the digestion of `relation` writes. -/
def NothingToWrite (db : Db) (relation : ReportPaymentRelation) : Prop :=
  ∀ payment r account, db.payments.find relation.paymentId = some payment → db.reports.find relation.reportId = some r →
    ownerOf db r = some account → account ≠ "" → payment.includeInReportDigestion = true →
      WritesNothing db r payment account

section Stops

variable {db : Db} {r : Report ℤ} {payment : Payment} {account : String}

theorem add_fees_maintains {reportId : String} {fees : List ProviderFee} (h : positiveFees fees = []) :
    Maintains (· = db) (addProviderFeeExpenses reportId account fees) fun _ => True := by
  unfold addProviderFeeExpenses
  unfold positiveFees at h
  rw [h]
  exact maintains_pure trivial

theorem platform_fees_maintain {reportId : String} (h : positiveFees (platformFees db payment) = []) :
    Maintains (· = db) (updateProviderFeeExpenseForPlatformReport reportId payment) fun _ => True :=
  maintains_find_bind (add_fees_maintains h)

theorem rounding_maintains {report : Report ℚ} (h : refundRounding db payment = 0) :
    Maintains (· = db) (updateRefundRoundingExpense report payment account) fun _ => True := by
  unfold updateRefundRoundingExpense
  unfold refundRounding at h
  split <;> rename_i htype
  · exact maintains_pure trivial
  · rw [if_pos (not_not.mp htype)] at h
    refine maintains_find_bind ?_
    rw [h, fromColumn_zero, if_pos rfl]
    exact maintains_pure trivial

theorem comission_maintains {report : Report ℚ} {accountId : Option String}
    (h : truthy payment.externalPlatformId = true ∨ comissionPercent db = -100) :
    Maintains (· = db) (digestComissionIncomeForReport report payment accountId) fun _ => True := by
  unfold digestComissionIncomeForReport
  split <;> rename_i hexternal
  · exact maintains_pure trivial
  · have hpercent := h.resolve_left hexternal
    refine maintains_find_bind (maintains_check_bind fun taxMax htax => ?_)
    have hdivide := divide_passes.mp ⟨taxMax, htax⟩
    rw [addNumberValues_eq_sum, List.sum_pair] at hdivide
    unfold comissionPercent at hpercent
    rw [hpercent] at hdivide
    norm_num at hdivide

theorem expenses_maintain {accountId : Option String} {platform : PlatformSource}
    (h : ComissionStays db r.id account (platformCodeOf payment platform) payment.type (itemsOf payment accountId)) :
    Maintains (· = db) (updateExpensesForReport r.id payment account accountId platform) fun _ => True := by
  refine maintains_find_bind (maintains_save fun db' hdb => ?_)
  subst hdb
  exact congrArg (fun expenses => { db' with expenses := expenses }) (comission_saves_nothing h)

/-- Without the order of the seller the fees throw. -/
theorem seller_fees_maintain {reportId : String} (h : db.orders.find (payment.id, account) = none) :
    Maintains (· = db) (updateProviderFeeExpenseForReportAccountId reportId payment account) fun _ => False := by
  refine maintains_find_bind (maintains_find_bind (maintains_check_bind fun order horder => ?_))
  rw [orThrow_eq_ok, h] at horder
  simp at horder

/-- A digestion that writes nothing leaves the database as it is wherever it stops. -/
theorem digest_maintains (env : Env) (h : WritesNothing db r payment account) :
    Maintains (· = db) (digestReport env r.load payment account) fun _ => True := by
  unfold WritesNothing at h
  have htype : r.load.reportType = r.reportType := rfl
  unfold digestReport
  rw [htype]
  cases htype' : r.reportType with
  | seller =>
    simp only [htype'] at h
    refine resolve_maintains fun platform hplatform => ?_
    obtain ⟨horder, hstays⟩ := h platform hplatform
    refine (expenses_maintain hstays).bind fun _ _ => (seller_fees_maintain horder).bind fun _ hfalse => hfalse.elim
  | platform =>
    simp only [htype'] at h
    dsimp only
    split <;> rename_i hexternal
    · exact comission_maintains (Or.inl hexternal)
    · obtain ⟨hfees, hrounding, hpercent⟩ := h.resolve_left hexternal
      exact (platform_fees_maintain hfees).bind fun _ _ => (rounding_maintains hrounding).bind fun _ _ =>
        comission_maintains (Or.inr hpercent)
  | platformSeller =>
    simp only [htype'] at h
    exact comission_maintains h
  | platformFlow =>
    simp only [htype'] at h
    refine resolve_maintains fun platform hplatform => ?_
    rw [h] at hplatform
    simp at hplatform

/-- The commission writes to its tax group. -/
theorem comission_changes_groups {report : Report ℚ} {accountId : Option String} {s t : Session HttpError Db} {u : Unit}
    (hnative : truthy payment.externalPlatformId = false)
    (h : Returns (digestComissionIncomeForReport report payment accountId) s u t) : t.db.taxGroups ≠ s.db.taxGroups := by
  obtain ⟨taxMax, -, hdb⟩ := digest_comission_spec hnative h
  intro hsame
  have hkey := comissionGroup_key s.db report.id payment (itemsOf payment accountId) (comissionPercent s.db) taxMax
  have hcount : (comissionGroup s.db report.id payment (itemsOf payment accountId) (comissionPercent s.db) taxMax).store.paymentCount =
      ((s.db.taxGroups.find (report.id, comissionPercent s.db, payment.currency)).getD
        (newTaxGroup report.id (comissionPercent s.db) payment.currency)).paymentCount + 1 := rfl
  have hfind := Table.find_save_self s.db.taxGroups
    (comissionGroup s.db report.id payment (itemsOf payment accountId) (comissionPercent s.db) taxMax).store
  rw [show s.db.taxGroups.save _ = t.db.taxGroups by rw [hdb], hsame, hkey] at hfind
  rw [hfind, Option.getD_some] at hcount
  omega

/-- The totals are written to the report. -/
theorem totals_change_reports {report : Report ℚ} {accountId : Option String} {owner : String}
    {s t : Session HttpError Db} {u : Unit} (hfind : s.db.reports.find r.id = some r) (hloaded : report.Loaded r)
    (h : Returns (digestTotals report payment accountId owner) s u t) : t.db.reports ≠ s.db.reports := by
  intro hsame
  have hself : (s.db.reports.save (reportAfter r payment (totalsOf payment.type (itemsOf payment accountId))
      (expenseOf s.db r.id owner))).find r.id = some _ := Table.find_save_self _ _
  rw [show s.db.reports.save _ = t.db.reports by rw [digest_totals_spec hloaded h], hsame, hfind] at hself
  have hcount : r.paymentCount = r.paymentCount + 1 := congrArg (fun r => r.paymentCount) (Option.some.inj hself)
  omega

theorem Charged.changes {db' : Db} {reportId expenseKey : String} {x y : ℤ}
    (h : Charged db db' reportId account expenseKey x y) (hkey : expenseKey ≠ reportTotal) (hy : y ≠ 0) :
    db'.expenses ≠ db.expenses := by
  intro hsame
  have hamount := h.amounts reportTotal (Or.inr (by decide))
  have hstored : storedAmount db' reportId account reportTotal = storedAmount db reportId account reportTotal := by
    unfold storedAmount
    rw [hsame]
  rw [if_neg hkey.symm, if_pos rfl, hstored] at hamount
  omega

theorem feeTotal_eq_zero {fees : List ProviderFee} : feeTotal fees = 0 ↔ positiveFees fees = [] := by
  constructor
  · intro hzero
    by_contra hsome
    have hpos : 0 < feeTotal fees := by
      refine List.sum_pos _ (fun amount hamount => ?_) (by simpa using hsome)
      obtain ⟨fee, hfee, rfl⟩ := List.mem_map.mp hamount
      exact of_decide_eq_true (List.mem_filter.mp hfee).2
    exact hpos.ne' hzero
  · intro hnil
    unfold feeTotal
    rw [hnil]
    rfl

theorem OnlyExpenses.eq_of_expenses {db' : Db} (h : OnlyExpenses db db') (hsame : db'.expenses = db.expenses) : db' = db := by
  obtain ⟨expenses, rfl⟩ := h
  obtain rfl : expenses = db.expenses := hsame
  rfl

/-- A digestion of a seller that writes stops after the commission, or after the totals. -/
theorem seller_digest_leaves (env : Env) {platform : PlatformSource} (hr : db.reports.find r.id = some r)
    (htype : r.reportType = .seller) (hplatform : platformOf db payment = some platform)
    (h : ¬ (db.orders.find (payment.id, account) = none ∧
      ComissionStays db r.id account (platformCodeOf payment platform) payment.type (itemsOf payment (some account)))) :
    ∃ db', Leaves (digestReport env r.load payment account) db db' ∧ ¬ SameReports db db' := by
  have hdigest : digestReport env r.load payment account = (do
      let platform ← resolveReportPlatform payment
      updateExpensesForReport r.id payment account (some account) platform
      updateProviderFeeExpenseForReportAccountId r.id payment account
      digestTotals r.load payment (some account) account
      updateTaxGroupReportByPaymentAndAccountId r.id payment (some account)
      updatePaymentItemReport env r.id payment (some account)
      updatePlatformReport r.id payment platform (some account)) := by
    unfold digestReport
    rw [show r.load.reportType = .seller from htype]
    rfl
  obtain ⟨u, t, hexpenses, hcompletes⟩ := (expenses_plain r.id payment (some account) account platform).of_passes
    (expenses_pass account platform) db trivial
  rw [hdigest]
  by_cases hsame : t.db.expenses = db.expenses
  · have hstays := (expenses_left_iff hexpenses).mp hsame
    rw [(update_expenses_only hexpenses).eq_of_expenses hsame] at hcompletes
    have horder : (db.orders.find (payment.id, account)).isSome = true := by
      rw [Option.isSome_iff_ne_none]
      exact fun hnone => h ⟨hnone, hstays⟩
    obtain ⟨u', t', hfees, hcompletes'⟩ := (seller_fees_plain r.id payment account).of_passes
      (seller_fees_pass account) db horder
    obtain ⟨u'', t'', htotals, hcompletes''⟩ := (totals_plain payment (some account) r.load account).of_passes
      (totals_pass r.load account) t'.db trivial
    refine ⟨t''.db, (resolve_completes hplatform).bind_leaves (hcompletes.bind_leaves (hcompletes'.bind_leaves
      (hcompletes''.leaves fun _ => breakdown_plain _ _ _ env platform))), fun hkept => ?_⟩
    have hreports : t'.db.reports = db.reports := (seller_fees_only hfees).reports
    refine totals_change_reports ?_ (loaded_load r) htotals (hkept.reports.trans hreports.symm)
    rw [hreports]
    exact hr
  · exact ⟨t.db, (resolve_completes hplatform).bind_leaves (hcompletes.leaves fun _ => (seller_fees_plain _ _ account).bind
      fun _ => (totals_plain _ _ _ _).bind fun _ => breakdown_plain _ _ _ env platform), fun hkept => hsame hkept.expenses⟩

/-- A digestion of a platform's flow that writes stops after the totals. -/
theorem flow_digest_leaves (env : Env) {platform : PlatformSource} (hr : db.reports.find r.id = some r)
    (htype : r.reportType = .platformFlow) (hplatform : platformOf db payment = some platform) :
    ∃ db', Leaves (digestReport env r.load payment account) db db' ∧ ¬ SameReports db db' := by
  have hdigest : digestReport env r.load payment account = (do
      let platform ← resolveReportPlatform payment
      updateExpensesForReport r.id payment account none platform
      updateProviderFeeExpenseForPlatformReport r.id payment
      let report ← updateRefundRoundingExpense r.load payment account
      digestTotals report payment none account
      updateTaxGroupReportByPaymentAndAccountId report.id payment none
      updatePaymentItemReport env report.id payment none
      updatePlatformReport report.id payment platform none) := by
    unfold digestReport
    rw [show r.load.reportType = .platformFlow from htype]
    rfl
  obtain ⟨_, t₁, hexpenses, hcompletes₁⟩ := (expenses_plain r.id payment none account platform).of_passes
    (expenses_pass account platform) db trivial
  obtain ⟨_, t₂, hfees, hcompletes₂⟩ := (platform_fees_plain r.id payment).of_passes platform_fees_pass t₁.db trivial
  obtain ⟨report, t₃, hrounding, hcompletes₃⟩ := (rounding_plain payment r.load account).of_passes
    (rounding_passes r.load account) t₂.db trivial
  obtain ⟨_, t₄, htotals, hcompletes₄⟩ := (totals_plain payment none report account).of_passes
    (totals_pass report account) t₃.db trivial
  obtain ⟨hloaded, honly⟩ := refund_rounding_only (loaded_load r) hrounding
  have hreports : t₃.db.reports = db.reports :=
    honly.reports.trans ((platform_fees_only hfees).reports.trans (update_expenses_only hexpenses).reports)
  rw [hdigest]
  refine ⟨t₄.db, (resolve_completes hplatform).bind_leaves (hcompletes₁.bind_leaves (hcompletes₂.bind_leaves
    (hcompletes₃.bind_leaves (hcompletes₄.leaves fun _ => breakdown_plain _ _ _ env platform)))), fun hkept => ?_⟩
  refine totals_change_reports ?_ hloaded htotals (hkept.reports.trans hreports.symm)
  rw [hreports]
  exact hr

/-- The commission of a payment of this platform is written, unless its tax rate throws. -/
theorem comission_leaves (report : Report ℚ) (accountId : Option String) (hnative : truthy payment.externalPlatformId = false)
    (hpercent : comissionPercent db ≠ -100) :
    ∃ db', Leaves (digestComissionIncomeForReport report payment accountId) db db' ∧ db'.taxGroups ≠ db.taxGroups := by
  obtain ⟨u, t, hcomission, hcompletes⟩ := (comission_plain payment accountId report).of_passes
    (comission_passes report) db (Or.inr hpercent)
  exact ⟨t.db, Or.inr ⟨u, hcompletes⟩, comission_changes_groups hnative hcomission⟩

/-- A digestion of the platform that writes stops after the fees, after the rounding or after the commission. -/
theorem platform_digest_leaves (env : Env) (htype : r.reportType = .platform)
    (hnative : truthy payment.externalPlatformId = false) (h : ¬ (positiveFees (platformFees db payment) = [] ∧
      refundRounding db payment = 0 ∧ comissionPercent db = -100)) :
    ∃ db', Leaves (digestReport env r.load payment account) db db' ∧ ¬ SameReports db db' := by
  have hdigest : digestReport env r.load payment account = (do
      updateProviderFeeExpenseForPlatformReport r.id payment
      let report ← updateRefundRoundingExpense r.load payment account
      digestComissionIncomeForReport report payment none) := by
    unfold digestReport
    rw [show r.load.reportType = .platform from htype]
    dsimp only
    rw [hnative]
    rfl
  obtain ⟨_, t₁, hfees, hcompletes₁⟩ := (platform_fees_plain r.id payment).of_passes platform_fees_pass db trivial
  rw [hdigest]
  by_cases hnil : positiveFees (platformFees db payment) = []
  · have hleft : t₁.db = db := platform_fees_left (feeTotal_eq_zero.mpr hnil) hfees
    rw [hleft] at hcompletes₁
    obtain ⟨report, t₂, hrounding, hcompletes₂⟩ := (rounding_plain payment r.load account).of_passes
      (rounding_passes r.load account) db trivial
    have hcharged := (refund_rounding_charged hrounding).1
    by_cases hzero : refundRounding db payment = 0
    · have hpercent : comissionPercent db ≠ -100 := fun heq => h ⟨hnil, hzero, heq⟩
      have hleft : t₂.db = db := (rounding_maintains hzero).of_returns rfl hrounding
      rw [hleft] at hcompletes₂
      obtain ⟨db', hleaves, hgroups⟩ := comission_leaves report none hnative hpercent
      exact ⟨db', hcompletes₁.bind_leaves (hcompletes₂.bind_leaves hleaves), fun hkept => hgroups hkept.taxGroups⟩
    · exact ⟨t₂.db, hcompletes₁.bind_leaves (hcompletes₂.leaves fun _ => comission_plain _ _ _),
        fun hkept => hcharged.changes (by decide) hzero hkept.expenses⟩
  · obtain ⟨n, hn⟩ := platform_fees_exact db payment
    have hcharged := platform_fees_charged hfees
    refine ⟨t₁.db, hcompletes₁.leaves fun _ => (rounding_plain _ _ _).bind fun _ => comission_plain _ _ _,
      fun hkept => hcharged.changes (by decide) ?_ hkept.expenses⟩
    rw [hn, grown_by_fromColumn]
    intro hzero
    rw [hzero, fromColumn_zero] at hn
    exact hnil (feeTotal_eq_zero.mp hn)

/-- A digestion that writes can stop after a write. -/
theorem digest_leaves (env : Env) (hr : db.reports.find r.id = some r) (h : ¬ WritesNothing db r payment account) :
    ∃ db', Leaves (digestReport env r.load payment account) db db' ∧ ¬ SameReports db db' := by
  unfold WritesNothing at h
  cases htype : r.reportType with
  | seller =>
    simp only [htype] at h
    push Not at h
    obtain ⟨platform, hplatform, hwrites⟩ := h
    exact seller_digest_leaves env hr htype hplatform fun hnothing => hwrites hnothing.1 hnothing.2
  | platform =>
    simp only [htype, not_or] at h
    exact platform_digest_leaves env htype (by simpa using h.1) h.2
  | platformSeller =>
    simp only [htype, not_or] at h
    obtain ⟨db', hleaves, hgroups⟩ := comission_leaves r.load (some account) (by simpa using h.1) h.2
    refine ⟨db', ?_, fun hkept => hgroups hkept.taxGroups⟩
    unfold digestReport
    rwa [show r.load.reportType = .platformSeller from htype]
  | platformFlow =>
    simp only [htype] at h
    obtain ⟨platform, hplatform⟩ := Option.ne_none_iff_exists'.mp h
    exact flow_digest_leaves env hr htype hplatform

theorem digest_found_eq (env : Env) (relation : ReportPaymentRelation) (report : Report ℚ) (hne : account ≠ "") :
    digestFound env relation payment (some (report, some account)) = (do
      digestIncluded env report payment account
      save fun db => { db with relations := db.relations.save (completedRelation relation) }) := by
  unfold digestFound
  split <;> simp_all

theorem digest_relation_cut {env : Env} {relation : ReportPaymentRelation} {db' : Db}
    (hpayment : db.payments.find relation.paymentId = some payment)
    (h : Cut (digestFound env relation payment (freshReport relation.reportId db)) db db') :
    Cut (digestRelation env relation) db db' := by
  rw [digest_relation_eq]
  refine (completes_find _ db).bind_cut ?_
  refine (completes_check (orThrow_eq_ok.mpr hpayment) db).bind_cut ?_
  exact (completes_find _ db).bind_cut h

/-- A stop of a digestion with nothing to write. -/
theorem digest_found_maintains (env : Env) {relation : ReportPaymentRelation} {db' : Db}
    (hpayment : db.payments.find relation.paymentId = some payment) (h : NothingToWrite db relation)
    (hstops : Stops (digestFound env relation payment (freshReport relation.reportId db)) db db') : db' = db := by
  by_cases hdigests : ∃ r account, db.reports.find relation.reportId = some r ∧ ownerOf db r = some account ∧ account ≠ ""
  · obtain ⟨r, account, hreport, howner, hne⟩ := hdigests
    have hfresh : freshReport relation.reportId db = some (r.load, some account) := by
      simp [freshReport, hreport, ← howner, ownerOf]
    rw [hfresh, digest_found_eq env relation r.load hne] at hstops
    have hmaintains : Maintains (· = db) (digestIncluded env r.load payment account) fun _ => True := by
      unfold digestIncluded
      split <;> rename_i hincluded
      · exact digest_maintains env (h payment r account hpayment hreport howner hne hincluded)
      · exact maintains_pure trivial
    exact hmaintains.stops_save rfl _ hstops
  · have hskips : digestFound env relation payment (freshReport relation.reportId db) = pure () := by
      unfold digestFound freshReport
      cases hreport : db.reports.find relation.reportId with
      | none => rfl
      | some r =>
        simp only [Option.map_some]
        split <;> simp_all [ownerOf]
    rw [hskips] at hstops
    obtain ⟨n, failure, e, t, hthrows, -⟩ := hstops
    exact (throws_pure.mp hthrows).elim

/-- A digestion leaves the tables of the reports alone wherever it stops exactly when it has nothing to write. -/
theorem digestion_atomic_iff (env : Env) (db : Db) (relation : ReportPaymentRelation) :
    (∀ db', Stops (digestRelation env relation) db db' → SameReports db db') ↔ NothingToWrite db relation := by
  constructor
  · intro hatomic payment r account hpayment hreport howner hne hincluded
    by_contra hwrites
    have hr : db.reports.find r.id = some r := Table.find_of_mem (Table.mem_of_find hreport)
    obtain ⟨db', hleaves, hchanged⟩ := digest_leaves env hr hwrites
    have hfresh : freshReport relation.reportId db = some (r.load, some account) := by
      simp [freshReport, hreport, ← howner, ownerOf]
    have hcut : Cut (digestFound env relation payment (freshReport relation.reportId db)) db db' := by
      rw [hfresh, digest_found_eq env relation r.load hne, digestIncluded, if_pos hincluded]
      exact hleaves.save _
    exact hchanged (hatomic db' ((digest_relation_cut hpayment hcut).stops (HttpError.internal "")))
  · intro hnothing db' hstops
    suffices hsame : db' = db by
      rw [hsame]
      exact ⟨rfl, rfl, rfl, rfl, rfl⟩
    rw [digest_relation_eq] at hstops
    rcases stops_find hstops with hsame | hstops
    · exact hsame
    rcases stops_check hstops with hsame | ⟨payment, hpayment, hstops⟩
    · exact hsame
    rcases stops_find hstops with hsame | hstops
    · exact hsame
    exact digest_found_maintains env (orThrow_eq_ok.mp hpayment) hnothing hstops

end Stops

end Postral.Reports
