import Postral.Reports.Failures
import Postral.Reports.Postings

/-!
# The order of digestions

What the payments of a report leave does not depend on the order in which they are digested.
-/

open Check Session Run Rounding Posting

namespace Postral.Reports

variable {env : Env} {s t : Session HttpError Db} {r : Report ℤ} {payment : Payment} {owner : String}

/-! ## One digestion -/

/-- What a digestion posts to the report `r` and its rows. -/
structure Posts (env : Env) (s t : Session HttpError Db) (r : Report ℤ) (payment : Payment) (owner : String) : Prop where
  reports : t.db.reports = s.db.reports.save (reportAfter r payment
    (totalsOf payment.type (itemsOf payment (r.reportType.counted owner))) (storedAmount t.db r.id owner reportTotal))
  taxGroups : ∀ id, taxGroupRows id t.db = if id = r.id then
    posts (addToTaxGroup id) (taxGroupEntries payment (r.reportType.counted owner)) (taxGroupRows id s.db)
    else taxGroupRows id s.db
  items : ∀ id, itemRows id t.db = if id = r.id then
    posts (addToItem id) (itemEntries env id payment (r.reportType.counted owner)) (itemRows id s.db)
    else itemRows id s.db
  platforms : ∀ id, platformRows id t.db = if id = r.id then
    posts (addToPlatform s.db id) (platformEntries s.db payment (r.reportType.counted owner)) (platformRows id s.db)
    else platformRows id s.db

theorem rows_posted {report : Report ℚ} {accountId : Option String} {c : Session HttpError Db} (hexpenses : OnlyExpenses s.db c.db)
    (hloaded : report.Loaded r) (haccount : r.reportType.counted owner = accountId)
    (h : Returns (do
      digestTotals report payment accountId owner
      updateTaxGroupReportByPaymentAndAccountId r.id payment accountId
      updatePaymentItemReport env r.id payment accountId
      updatePlatformReport r.id payment (reportPlatformOf s.db payment) accountId) c () t) : Posts env s t r payment owner := by
  subst haccount
  simp only [returns_bind] at h
  obtain ⟨_, d, htotals, _, e, htax, _, f, hitems, hplatforms⟩ := h
  obtain ⟨expenses, hc⟩ := hexpenses
  have hd := digest_totals_spec hloaded htotals
  obtain ⟨⟨groups, he⟩, -⟩ := tax_groups_spec htax
  obtain ⟨⟨items, hf⟩, -⟩ := items_spec hitems
  obtain ⟨⟨platforms, ht⟩, -⟩ := platforms_spec hplatforms
  have hposted := tax_groups_posted htax
  have hposted' := items_posted hitems
  have hsame : reportPlatformOf s.db payment = reportPlatformOf f.db payment := by
    rw [hf, he, hd, hc]
    rfl
  rw [hsame] at hplatforms
  have hposted'' := platforms_posted hplatforms
  rw [hc] at hd
  rw [hd] at he hposted
  rw [he] at hf hposted hposted'
  rw [hf] at ht hposted' hposted''
  refine ⟨?_, fun id => ?_, fun id => ?_, fun id => ?_⟩
  · rw [ht]
    rfl
  · have := hposted id
    rw [ht]
    exact this
  · have := hposted' id
    rw [ht]
    exact this
  · exact hposted'' id

theorem breakdown_posts (htype : r.reportType.HasBreakdown) (h : Returns (digestReport env r.load payment owner) s () t) :
    Posts env s t r payment owner := by
  unfold digestReport at h
  rcases htype with htype | htype
  · rw [show r.load.reportType = .seller from htype] at h
    simp only at h
    obtain ⟨platform, a, hresolve, h⟩ := returns_bind.mp h
    obtain ⟨_, b, hexpenses, h⟩ := returns_bind.mp h
    obtain ⟨_, c, hfees, h⟩ := returns_bind.mp h
    have honly := (update_expenses_only hexpenses).trans (seller_fees_only hfees)
    rw [resolve_spec hresolve] at honly
    rw [resolve_source hresolve] at h
    exact rows_posted honly (loaded_load r) (by rw [htype]; rfl) h
  · rw [show r.load.reportType = .platformFlow from htype] at h
    simp only at h
    obtain ⟨platform, a, hresolve, h⟩ := returns_bind.mp h
    obtain ⟨_, b, hexpenses, h⟩ := returns_bind.mp h
    obtain ⟨_, c, hfees, h⟩ := returns_bind.mp h
    obtain ⟨report, d, hrounding, h⟩ := returns_bind.mp h
    obtain ⟨⟨_, rfl⟩, honly'⟩ := refund_rounding_only (loaded_load r) hrounding
    have honly := ((update_expenses_only hexpenses).trans (platform_fees_only hfees)).trans honly'
    rw [resolve_spec hresolve] at honly
    rw [resolve_source hresolve] at h
    exact rows_posted honly ⟨_, rfl⟩ (by rw [htype]; rfl) h

/-- The digestion of a commission leaves the rows of other reports alone. -/
theorem comission_others (htype : ¬ r.reportType.HasBreakdown) (h : Returns (digestReport env r.load payment owner) s () t)
    {id : String} (hid : id ≠ r.id) :
    t.db.reports.find id = s.db.reports.find id ∧ taxGroupRows id t.db = taxGroupRows id s.db ∧
      itemRows id t.db = itemRows id s.db ∧ platformRows id t.db = platformRows id s.db := by
  obtain ⟨hitems, hplatforms, -, hcomission⟩ := digest_platform_spec htype h
  have hsame : itemRows id t.db = itemRows id s.db ∧ platformRows id t.db = platformRows id s.db := by
    unfold itemRows platformRows
    rw [hitems, hplatforms]
    exact ⟨rfl, rfl⟩
  rcases hcomission with ⟨-, hgroups, hreports⟩ | ⟨r', g, hadded, hgroup, hreports, hgroups⟩
  · refine ⟨by rw [hreports], ?_, hsame⟩
    unfold taxGroupRows
    rw [hgroups]
  · refine ⟨?_, ?_, hsame⟩
    · rw [hreports, Table.find_save_of_ne (by rw [hadded.id]; exact hid)]
    · have hkey : g.key = (r.id, g.taxPercent, g.currency) := by rw [← hgroup]; rfl
      have hsave := find_save_pair s.db.taxGroups hkey id
      unfold taxGroupRows
      rw [hgroups, hsave, if_neg hid]

/-! ## Its expenses -/

/-- No row of the seller's fees gets half a unit. -/
def NoHalfShare (db : Db) (type : ReportType) (id owner : String) (payment : Payment) : Prop :=
  type = .seller → ∀ k, Int.fract (feeAdded id owner (chargedFees db payment owner) k * 10000) ≠ 1 / 2

/-- What the expenses of a report gain. -/
def expenseGrowth (db : Db) (type : ReportType) (id owner : String) (payment : Payment) : String × String → ℤ :=
  let comission := accountGrowth owner (comissionAdded id owner ((platformKeyOf db payment).map encodeURIComponent)
    payment.type (itemsOf payment (type.counted owner)))
  match type with
  | .seller => comission + accountGrowth owner (feeAdded id owner (chargedFees db payment owner))
  | .platformFlow => comission + accountGrowth "PLATFORM" (feeAdded id "PLATFORM" (platformFees db payment)) +
      accountGrowth owner (roundingAdded (refundRounding db payment))
  | .platformSeller | .platform => 0

/-- The updates of the platform's flow report. -/
theorem flow_digested (htype : r.reportType = .platformFlow) (h : Returns (digestReport env r.load payment owner) s () t) :
    ∃ db₁, Raised s.db db₁ r.id owner (comissionAdded r.id owner ((platformKeyOf s.db payment).map encodeURIComponent)
        payment.type (itemsOf payment none)) ∧
      ∃ db₂, Raised db₁ db₂ r.id "PLATFORM" (feeAdded r.id "PLATFORM" (platformFees s.db payment)) ∧
        ∃ db₃, Raised db₂ db₃ r.id owner (roundingAdded (refundRounding s.db payment)) ∧ t.db.expenses = db₃.expenses := by
  unfold digestReport at h
  rw [show r.load.reportType = .platformFlow from htype] at h
  simp only at h
  obtain ⟨platform, a, hresolve, h⟩ := returns_bind.mp h
  obtain ⟨_, b, hexpenses, h⟩ := returns_bind.mp h
  obtain ⟨_, c, hfees, h⟩ := returns_bind.mp h
  obtain ⟨report, d, hrounding, h⟩ := returns_bind.mp h
  obtain ⟨⟨_, rfl⟩, -⟩ := refund_rounding_only (loaded_load r) hrounding
  have hcomission := update_expenses_raised hexpenses
  rw [resolve_platformKeyOf hresolve, resolve_spec hresolve] at hcomission
  have hcharged : Raised b.db c.db r.id "PLATFORM" (feeAdded r.id "PLATFORM" (platformFees b.db payment)) := by
    unfold updateProviderFeeExpenseForPlatformReport at hfees
    simp only [returns_bind] at hfees
    obtain ⟨_, v, hfind, hfees⟩ := hfees
    obtain ⟨rfl, hv⟩ := returns_find hfind
    have hraised := add_fees_raised hfees
    rw [hv] at hraised
    exact hraised
  have hrounded := rounding_raised hrounding
  obtain ⟨_, hb⟩ := hcomission.only
  obtain ⟨_, hc⟩ := hcharged.only
  have hsame : platformFees b.db payment = platformFees s.db payment := by
    rw [hb]
    rfl
  have hsame' : refundRounding c.db payment = refundRounding s.db payment := by
    rw [hc, hb]
    rfl
  rw [hsame] at hcharged
  rw [hsame'] at hrounded
  exact ⟨b.db, hcomission, c.db, hcharged, d.db, hrounded, totals_left ⟨_, rfl⟩ h⟩

theorem expense_rows_congr {db db' : Db} (h : db'.expenses = db.expenses) (id : String) : expenseRows id db' = expenseRows id db := by
  unfold expenseRows storedAmount
  rw [h]

theorem expenses_posted (htype : r.reportType.HasBreakdown) (hhalf : NoHalfShare s.db r.reportType r.id owner payment)
    (h : Returns (digestReport env r.load payment owner) s () t) :
    expenseRows r.id t.db = expenseRows r.id s.db + expenseGrowth s.db r.reportType r.id owner payment := by
  unfold expenseGrowth
  rcases htype with htype | htype
  · obtain ⟨db₁, hcomission, db₂, hfees, ht⟩ := seller_digested htype h
    have hposted := hcomission.posted (fun k => comission_rounds _ _ _ _ _ k _) r.id
    have hposted' := hfees.posted (fun k => Or.inl (hhalf htype k)) r.id
    rw [if_pos rfl] at hposted hposted'
    rw [expense_rows_congr ht, hposted', hposted, htype]
    exact add_assoc _ _ _
  · obtain ⟨db₁, hcomission, db₂, hfees, db₃, hrounding, ht⟩ := flow_digested htype h
    have hposted := hcomission.posted (fun k => comission_rounds _ _ _ _ _ k _) r.id
    have hposted' := hfees.posted (fun k => platform_fees_round _ _ _ k _) r.id
    have hrounds : ∀ k, RoundsAlike (roundingAdded (refundRounding s.db payment) k) (storedAmount db₂ r.id owner k) := by
      intro k
      unfold roundingAdded
      split
      · exact rounds_alike_fromColumn _ _
      · exact fromColumn_zero ▸ rounds_alike_fromColumn 0 _
    have hposted'' := hrounding.posted hrounds r.id
    rw [if_pos rfl] at hposted hposted' hposted''
    rw [expense_rows_congr ht, hposted'', hposted', hposted, htype]
    simp only [ReportType.counted, add_assoc]

theorem expenses_others {account id : String} (hid : id ≠ r.id) (h : Returns (digestReport env r.load payment account) s () t) :
    expenseRows id t.db = expenseRows id s.db := by
  funext k
  unfold expenseRows storedAmount Table.value
  rw [digest_report_others h hid]

/-! ## Runs -/

/-- What the digestions read and leave alone. -/
def sources (db : Db) := (db.queries, db.payments, db.operations, db.orders, db.externalPlatforms)

/-- A view of the report `id` that gathers its payments one by one, in any order. -/
structure Gathers {V : Type} (env : Env) (db₀ : Db) (id : String) (type : ReportType) (owner : String) (fits : Payment → Prop)
    (view : Db → V) (gather : Payment → V → V) : Prop where
  comm : ∀ p q v, gather p (gather q v) = gather q (gather p v)
  digested : ∀ {s t : Session HttpError Db} {r : Report ℤ} {payment : Payment}, sources s.db = sources db₀ →
    s.db.reports.find id = some r → r.reportType = type → fits payment →
    Returns (digestReport env r.load payment owner) s () t → view t.db = gather payment (view s.db)
  other : ∀ {s t : Session HttpError Db} {r : Report ℤ} {payment : Payment} {account : String}, id ≠ r.id →
    Returns (digestReport env r.load payment account) s () t → view t.db = view s.db
  relations : ∀ db relations, view { db with relations := relations } = view db

/-- The payments that a report gathers, in order. -/
def gathered (db : Db) (relations : List ReportPaymentRelation) (id : String) : List Payment :=
  (paymentsOf relations id).filterMap fun paymentId =>
    (db.payments.find paymentId).filter (·.includeInReportDigestion)

theorem sources_kept {relation : ReportPaymentRelation} (h : Returns (digestRelation env relation) s () t) :
    sources t.db = sources s.db := by
  rcases digest_relation_spec h with ⟨hdb, -⟩ | ⟨r, payment, account, hdigested⟩
  · rw [hdb]
  · obtain ⟨v, w, hv, hdigest, hdb⟩ := hdigested.updates
    have hkept := digest_keeps (f := sources) {} (fun _ _ => rfl) env r.load payment account
    rw [hdb, ← hv]
    exact hkept.of_returns hdigest

section Run

variable {V : Type} {db₀ : Db} {id : String} {type : ReportType} {fits : Payment → Prop} {view : Db → V} {gather : Payment → V → V}

theorem Gathers.relation (hview : Gathers env db₀ id type owner fits view gather) {relation : ReportPaymentRelation}
    (hsources : sources s.db = sources db₀) (hr : s.db.reports.find id = some r) (htype : r.reportType = type)
    (howner : ownerOf s.db r = some owner) (hne : owner ≠ "") (hfits : ∀ payment ∈ gathered db₀ [relation] id, fits payment)
    (h : Returns (digestRelation env relation) s () t) :
    view t.db = (gathered db₀ [relation] id).foldl (fun v payment => gather payment v) (view s.db) := by
  have hpayments : s.db.payments = db₀.payments := congrArg (fun x => x.2.1) hsources
  rcases digest_relation_spec h with ⟨hdb, hskip⟩ | ⟨x, payment, account, hdigested⟩
  · have hother : relation.reportId ≠ id := by
      rintro rfl
      have := hskip r hr
      rw [howner] at this
      simp [hne] at this
    rw [hdb]
    simp [gathered, paymentsOf, hother]
  · obtain ⟨v, w, hv, hdigest, hdb⟩ := hdigested.updates
    have hx : x.id = relation.reportId := Table.key_of_find hdigested.findReport
    have hpayment : db₀.payments.find relation.paymentId = some payment := hpayments ▸ hdigested.findPayment
    rw [hdb, hview.relations]
    unfold digestIncluded at hdigest
    by_cases hid : relation.reportId = id
    · subst hid
      obtain rfl : x = r := Option.some.inj (hdigested.findReport.symm.trans hr)
      obtain rfl : account = owner := Option.some.inj (hdigested.owner.symm.trans howner)
      have hgathered : gathered db₀ [relation] relation.reportId =
          if payment.includeInReportDigestion then [payment] else [] := by
        cases hincluded : payment.includeInReportDigestion <;> simp [gathered, paymentsOf, hpayment, hincluded, Option.filter]
      rw [hgathered] at hfits ⊢
      split at hdigest <;> rename_i hincluded
      · rw [if_pos hincluded] at hfits ⊢
        rw [← hv] at hsources hr ⊢
        exact hview.digested hsources hr htype (hfits payment (List.mem_singleton.mpr rfl)) hdigest
      · rw [if_neg hincluded, ← (returns_pure.mp hdigest).2, hv]
        rfl
    · have hgathered : gathered db₀ [relation] id = [] := by simp [gathered, paymentsOf, hid]
      rw [hgathered, List.foldl_nil, ← hv]
      split at hdigest
      · exact hview.other (by rw [hx]; exact Ne.symm hid) hdigest
      · rw [(returns_pure.mp hdigest).2]

theorem gathered_append (db : Db) (relations relations' : List ReportPaymentRelation) (id : String) :
    gathered db (relations ++ relations') id = gathered db relations id ++ gathered db relations' id := by
  simp [gathered, paymentsOf]

/-- The view after a run gathers its payments. -/
theorem Gathers.run (hview : Gathers env db₀ id type owner fits view gather) (hne : owner ≠ "")
    {relations : List ReportPaymentRelation} {db db' : Db} (hsources : sources db = sources db₀)
    (hr : db.reports.find id = some r) (htype : r.reportType = type) (howner : ownerOf db r = some owner)
    (hfits : ∀ payment ∈ gathered db₀ relations id, fits payment) (h : digestAll env db relations = some db') :
    view db' = (gathered db₀ relations id).foldl (fun v payment => gather payment v) (view db) := by
  unfold digestAll at h
  induction relations generalizing db r with
  | nil =>
    obtain rfl : db = db' := by simpa using h
    rfl
  | cons relation relations ih =>
    obtain ⟨mid, hstep, hrest⟩ := run_cons_eq_some.mp h
    obtain ⟨_, t, hdigest, rfl⟩ := outcome_eq_some.mp hstep
    obtain ⟨⟨hqueries, hpayments⟩, r₁, hr₁, hadded⟩ := digest_relation_added hdigest hr howner hne
    have howner₁ : ownerOf t.db r₁ = some owner := by
      rw [← howner, ownerOf, ownerOf, hqueries, hadded.queryId]
    have hsplit := gathered_append db₀ [relation] relations id
    rw [List.singleton_append] at hsplit
    rw [hsplit] at hfits ⊢
    rw [List.foldl_append, ← hview.relation hsources hr htype howner hne
      (fun payment hp => hfits payment (List.mem_append_left _ hp)) hdigest]
    exact ih ((sources_kept hdigest).trans hsources) hr₁ (hadded.reportType.trans htype) howner₁
      (fun payment hp => hfits payment (List.mem_append_right _ hp)) hrest

/-- Two orders of the same relations leave the same view. -/
theorem Gathers.order_free (hview : Gathers env db₀ id type owner fits view gather) (hne : owner ≠ "")
    {relations relations' : List ReportPaymentRelation} {db₁ db₂ : Db} (hperm : relations.Perm relations')
    (hr : db₀.reports.find id = some r) (htype : r.reportType = type) (howner : ownerOf db₀ r = some owner)
    (hfits : ∀ payment ∈ gathered db₀ relations id, fits payment) (h₁ : digestAll env db₀ relations = some db₁)
    (h₂ : digestAll env db₀ relations' = some db₂) : view db₁ = view db₂ := by
  have hgathered : (gathered db₀ relations id).Perm (gathered db₀ relations' id) :=
    ((hperm.filter _).map _).filterMap _
  rw [hview.run hne rfl hr htype howner hfits h₁,
    hview.run hne rfl hr htype howner (fun payment hp => hfits payment (hgathered.mem_iff.mpr hp)) h₂]
  exact hgathered.foldl_eq' (fun p _ q _ v => hview.comm q p v) _

end Run

/-! ## The views of a report -/

section Views

variable {db₀ : Db} {id : String} {type : ReportType}

/-- What the items of its payments make of a report. -/
def Report.calculated (r : Report ℤ) : Report ℤ :=
  { r with lastDigestedPaymentId := none, totalExpense := 0, netRevenueWithoutExpense := 0, netRevenueWithoutExpenseTaxed := 0 }

def Report.unmarked (r : Report ℤ) : Report ℤ := { r with lastDigestedPaymentId := none }

def calculatedReport (id : String) (db : Db) : Option (Report ℤ) := (db.reports.find id).map Report.calculated

def gatherReport (type : ReportType) (owner : String) (payment : Payment) (row : Option (Report ℤ)) : Option (Report ℤ) :=
  row.map fun r => { r with toBaseReport := r.digest (totalsOf payment.type (itemsOf payment (type.counted owner))) }

theorem report_after_unmarked (r : Report ℤ) (payment : Payment) (added : Total → ℤ) (expense : ℤ) :
    (reportAfter r payment added expense).unmarked =
      { { r.unmarked with toBaseReport := r.unmarked.digest added } with totalExpense := expense }.withoutExpense := rfl

/-- A report with its expenses. -/
def chargedReport (id : String) (db : Db) : Option (Report ℤ) × (String × String → ℤ) :=
  ((db.reports.find id).map Report.unmarked, expenseRows id db)

def gatherExpenses (db₀ : Db) (type : ReportType) (id owner : String) (payment : Payment)
    (v : Option (Report ℤ) × (String × String → ℤ)) : Option (Report ℤ) × (String × String → ℤ) :=
  let expenses := v.2 + expenseGrowth db₀ type id owner payment
  ((gatherReport type owner payment v.1).map fun r =>
    { r with totalExpense := expenses (owner, reportTotal) }.withoutExpense, expenses)

theorem report_others {account : String} (hid : id ≠ r.id) (h : Returns (digestReport env r.load payment account) s () t) :
    t.db.reports.find id = s.db.reports.find id ∧ taxGroupRows id t.db = taxGroupRows id s.db ∧
      itemRows id t.db = itemRows id s.db ∧ platformRows id t.db = platformRows id s.db := by
  by_cases htype : r.reportType.HasBreakdown
  · obtain ⟨hreports, hgroups, hitems, hplatforms⟩ := breakdown_posts htype h
    refine ⟨?_, ?_, ?_, ?_⟩
    · rw [hreports, Table.find_save_of_ne (by exact hid)]
    · rw [hgroups, if_neg hid]
    · rw [hitems, if_neg hid]
    · rw [hplatforms, if_neg hid]
  · exact comission_others htype h hid

theorem gathers_report (env : Env) (db₀ : Db) (id owner : String) (htype : type.HasBreakdown) :
    Gathers env db₀ id type owner (fun _ => True) (calculatedReport id) (gatherReport type owner) where
  comm p q v := by
    cases v with
    | none => rfl
    | some r =>
      simp only [gatherReport, Option.map_some]
      rw [BaseReport.digest_comm]
  digested {s t r payment} _ hr hrtype _ h := by
    subst hrtype
    obtain rfl : r.id = id := Table.key_of_find hr
    have hself : t.db.reports.find r.id = some (reportAfter r payment (totalsOf payment.type
        (itemsOf payment (r.reportType.counted owner))) (storedAmount t.db r.id owner reportTotal)) := by
      rw [(breakdown_posts htype h).reports]
      exact Table.find_save_self _ _
    unfold calculatedReport
    rw [hself, hr]
    rfl
  other hid h := by
    unfold calculatedReport
    rw [(report_others hid h).1]
  relations _ _ := rfl

theorem gathers_tax_groups (env : Env) (db₀ : Db) (id owner : String) (htype : type.HasBreakdown) :
    Gathers env db₀ id type owner (fun _ => True) (taxGroupRows id) fun payment =>
      posts (addToTaxGroup id) (taxGroupEntries payment (type.counted owner)) where
  comm p q v := posts_comm (add_to_tax_group_comm id) _ _ v
  digested {s t r payment} _ hr hrtype _ h := by
    subst hrtype
    obtain rfl : r.id = id := Table.key_of_find hr
    rw [(breakdown_posts htype h).taxGroups, if_pos rfl]
  other hid h := (report_others hid h).2.1
  relations _ _ := rfl

theorem gathers_items (env : Env) (db₀ : Db) (id owner : String) (htype : type.HasBreakdown) :
    Gathers env db₀ id type owner (fun _ => True) (itemRows id) fun payment =>
      posts (addToItem id) (itemEntries env id payment (type.counted owner)) where
  comm p q v := posts_comm (add_to_item_comm id) _ _ v
  digested {s t r payment} _ hr hrtype _ h := by
    subst hrtype
    obtain rfl : r.id = id := Table.key_of_find hr
    rw [(breakdown_posts htype h).items, if_pos rfl]
  other hid h := (report_others hid h).2.2.1
  relations _ _ := rfl

theorem gathers_platforms (env : Env) (db₀ : Db) (id owner : String) (htype : type.HasBreakdown) :
    Gathers env db₀ id type owner (fun _ => True) (platformRows id) fun payment =>
      posts (addToPlatform db₀ id) (platformEntries db₀ payment (type.counted owner)) where
  comm p q v := posts_comm (add_to_platform_comm db₀ id) _ _ v
  digested {s t r payment} hsources hr hrtype _ h := by
    subst hrtype
    obtain rfl : r.id = id := Table.key_of_find hr
    have hplatforms : s.db.externalPlatforms = db₀.externalPlatforms := congrArg (fun x => x.2.2.2.2) hsources
    have hadd : addToPlatform s.db r.id = addToPlatform db₀ r.id := by
      unfold addToPlatform sourceOfKey
      rw [hplatforms]
    have hentries : ∀ accountId, platformEntries s.db payment accountId = platformEntries db₀ payment accountId := by
      intro accountId
      unfold platformEntries reportPlatformOf sourceOfKey platformKeyOf
      rw [hplatforms]
    rw [(breakdown_posts htype h).platforms, if_pos rfl, hadd, hentries]
  other hid h := (report_others hid h).2.2.2
  relations _ _ := rfl

theorem gathers_expenses (env : Env) (db₀ : Db) (id owner : String) (htype : type.HasBreakdown) :
    Gathers env db₀ id type owner (NoHalfShare db₀ type id owner) (chargedReport id) (gatherExpenses db₀ type id owner) where
  comm p q v := by
    obtain ⟨row, expenses⟩ := v
    have hswap : expenses + expenseGrowth db₀ type id owner q + expenseGrowth db₀ type id owner p =
        expenses + expenseGrowth db₀ type id owner p + expenseGrowth db₀ type id owner q := add_right_comm _ _ _
    simp only [gatherExpenses]
    rw [hswap]
    cases row with
    | none => simp only [gatherReport, Option.map_none]
    | some r =>
      simp only [gatherReport, Option.map_some, Report.withoutExpense]
      rw [BaseReport.digest_comm]
  digested {s t r payment} hsources hr hrtype hhalf h := by
    subst hrtype
    obtain rfl : r.id = id := Table.key_of_find hr
    have hself : t.db.reports.find r.id = some (reportAfter r payment (totalsOf payment.type
        (itemsOf payment (r.reportType.counted owner))) (storedAmount t.db r.id owner reportTotal)) := by
      rw [(breakdown_posts htype h).reports]
      exact Table.find_save_self _ _
    have hoperations : s.db.operations = db₀.operations := congrArg (fun x => x.2.2.1) hsources
    have horders : s.db.orders = db₀.orders := congrArg (fun x => x.2.2.2.1) hsources
    have hplatforms : s.db.externalPlatforms = db₀.externalPlatforms := congrArg (fun x => x.2.2.2.2) hsources
    have hfees : chargedFees s.db payment owner = chargedFees db₀ payment owner := by
      simp only [chargedFees, sellerFees, hoperations, horders]
    have hgrowth : expenseGrowth s.db r.reportType r.id owner payment = expenseGrowth db₀ r.reportType r.id owner payment := by
      simp only [expenseGrowth, hfees, platformKeyOf, platformFees, refundRounding, hoperations, hplatforms]
    have hexpenses := expenses_posted htype (fun hseller k => by rw [hfees]; exact hhalf hseller k) h
    rw [hgrowth] at hexpenses
    have htotal : storedAmount t.db r.id owner reportTotal = expenseRows r.id t.db (owner, reportTotal) := rfl
    unfold chargedReport
    rw [hself, hr, htotal, hexpenses, Option.map_some, Option.map_some, report_after_unmarked]
    rfl
  other hid h := by
    unfold chargedReport
    rw [(report_others hid h).1, expenses_others hid h]
  relations _ _ := rfl

end Views

/-! ## Order independence -/

/-- The rows of a report are the same, but for its expenses and for the quantities, discounts and names of its items. -/
structure SameRows (db db' : Db) (id : String) : Prop where
  report : calculatedReport id db = calculatedReport id db'
  taxGroups : ∀ g, g.reportId = id → (g ∈ db.taxGroups.rows ↔ g ∈ db'.taxGroups.rows)
  platforms : ∀ p, p.reportId = id → (p ∈ db.platforms.rows ↔ p ∈ db'.platforms.rows)
  items : ∀ account key, (db.items.find (id, account, key)).map ReportItem.amounts =
    (db'.items.find (id, account, key)).map ReportItem.amounts

/-- The report is the same up to its last payment, and so are its expense amounts. -/
structure SameExpenses (db db' : Db) (id : String) : Prop where
  report : (db.reports.find id).map Report.unmarked = (db'.reports.find id).map Report.unmarked
  amounts : ∀ account key, storedAmount db id account key = storedAmount db' id account key

theorem mem_iff_of_find {κ ρ : Type} [DecidableEq κ] {key : ρ → κ} {table table' : Table key} {row : ρ}
    (h : table.find (key row) = table'.find (key row)) : row ∈ table.rows ↔ row ∈ table'.rows := by
  have hfound : ∀ table : Table key, row ∈ table.rows ↔ table.find (key row) = some row := by
    intro table
    rw [Table.find_eq_some_iff]
    exact (and_iff_left rfl).symm
  rw [hfound, hfound, h]

def sharedDb (providerFee : ℤ) : Db :=
  { periodDb with
    payments := Table.empty.saveAll [
      samplePayment "sale" .purchase
        (Table.empty.saveAll [periodItem "line-1" "ana" 1000000 0, periodItem "line-2" "ben" 1000000 0]),
      samplePayment "return" .refund (Table.empty.saveAll [periodItem "line-3" "ben" 400000 20000])]
    operations := Table.empty.save
      { id := "capture", paymentChannelId := "card", amount := 2000000, currency := "TRY", paymentId := "sale",
        providerFee := providerFee, providerFeeDebitFrom := .seller }
    orders := Table.empty.saveAll [⟨"sale", "ana", 1000000⟩, ⟨"sale", "ben", 1000000⟩, ⟨"return", "ben", 400000⟩] }

def sharedRelations : List ReportPaymentRelation :=
  ["sale", "return"].map fun paymentId => ⟨"seller-ben", paymentId, none, .digesting, "run"⟩

/-- Half a unit of the fee is rounded up where the expenses are positive, and down where they are not. -/
example : (digestAll sampleEnv (sharedDb 1) sharedRelations).map (storedAmount · "seller-ben" "ben" reportTotal) = some (-19999) ∧
    (digestAll sampleEnv (sharedDb 1) sharedRelations.reverse).map (storedAmount · "seller-ben" "ben" reportTotal) =
      some (-20000) := by
  decide +kernel

end Postral.Reports
