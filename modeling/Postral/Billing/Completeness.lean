import Postral.Billing.AtMostOnce

/-!
# Billing completeness

Nothing is ever marked, so a report of a seller has to be the sum of what was digested into it. It is, as
long as every digestion saves the row that it read.
-/

open Check Session Run Postral.Reports

namespace Postral.Billing

structure BillingInv (s : System) : Prop where
  unbilled : NoBills s
  unmarked : ∀ r ∈ s.db.reports.rows, r.billedAt = none
  stored : ∀ p ∈ s.portions, ∃ r ∈ s.db.reports.rows, r.id = p.reportId ∧ (s.db.queries.find r.queryId).isSome = true
  blank : ∀ r ∈ s.db.reports.rows, (∀ p ∈ s.portions, p.reportId ≠ r.id) → ∀ kind : BillKind, kind.amount r = 0
  amounts : ∀ r ∈ s.db.reports.rows, Billable s.db r → ∀ kind : BillKind, kind.amount r = portionSum s.portions kind r.id
  loaded : ∀ d ∈ s.digestions.rows, ∃ r ∈ s.db.reports.rows, r.id = d.report.id ∧ r.queryId = d.report.queryId ∧
    (s.db.queries.find r.queryId).isSome = true
  reads : ∀ d ∈ s.digestions.rows, d.report.billedAt = none
  ids : ∀ p ∈ s.portions, p.id < s.portions.length
  distinct : (s.portions.map (·.id)).Nodup

theorem billing_inv_start : BillingInv .start := by
  refine ⟨no_bills_start, ?_, ?_, ?_, ?_, ?_, ?_, ?_, ?_⟩ <;> simp [System.start, Db.empty, Table.empty]

section Facts

variable {s : System} {db : Db} {r : Report ℤ} {reportId : String}

theorem complete_of_inv (h : BillingInv s) : BillingComplete s where
  billed _ _ r hr _ _ := Or.inl (h.unmarked r hr)
  bills r hr bill hbill := by
    unfold System.markedBy at hbill
    rw [h.unbilled.marks] at hbill
    exact nomatch hbill
  totals bill hbill := by
    rw [h.unbilled.bills] at hbill
    exact nomatch hbill
  amounts := h.amounts
  distinct := h.distinct

theorem portion_sum_nil {portions : List Portion} (h : ∀ p ∈ portions, p.reportId ≠ reportId) (kind : BillKind) :
    portionSum portions kind reportId = 0 := by
  unfold portionSum
  rw [List.filter_eq_nil_iff.mpr (by simpa using h)]
  rfl

theorem portion_sum_cons (p : Portion) (portions : List Portion) (kind : BillKind) (reportId : String) :
    portionSum (p :: portions) kind reportId =
      (if p.reportId = reportId then kind.portion p else 0) + portionSum portions kind reportId := by
  unfold portionSum
  by_cases h : p.reportId = reportId <;> simp [h]

end Facts

/-- Billing runs change no report. -/
theorem BillingInv.with_runs {s : System} (h : BillingInv s) {runs : Table BillingRun.id} (hruns : NoBills { s with runs := runs }) :
    BillingInv { s with runs := runs } :=
  ⟨hruns, h.unmarked, h.stored, h.blank, h.amounts, h.loaded, h.reads, h.ids, h.distinct⟩

/-! ## The steps of the digestions -/

section Digestions

variable {env : Env} {s : System} {d : Digestion} {r x : Report ℤ} {db : Db}

theorem billable_congr (hquery : x.queryId = r.queryId) (hfind : db.queries.find r.queryId = s.db.queries.find r.queryId) :
    Billable db x ↔ Billable s.db r := by
  unfold Billable
  rw [hquery, hfind]

/-- Queries that are added change no answer that there was. -/
theorem find_query_kept {q q' : Table ReportQuery.id} (h : ∀ query ∈ q.rows, query ∈ q'.rows) {queryId : String}
    (hsome : (q.find queryId).isSome = true) : q'.find queryId = q.find queryId := by
  obtain ⟨query, hfind⟩ := Option.isSome_iff_exists.mp hsome
  obtain ⟨hmem, hid⟩ := Table.find_eq_some_iff.mp hfind
  rw [hfind]
  exact Table.find_eq_some_iff.mpr ⟨h query hmem, hid⟩

/-- Other tables change. -/
theorem BillingInv.with_db (h : BillingInv s) (hreports : db.reports.rows = s.db.reports.rows)
    (hqueries : ∀ query ∈ s.db.queries.rows, query ∈ db.queries.rows) : BillingInv (s.setDb db) := by
  -- the query of a report with portions is stored already
  have hback : ∀ p ∈ s.portions, ∀ r ∈ s.db.reports.rows, r.id = p.reportId → Billable db r → Billable s.db r := by
    intro p hp r hr hid hbillable
    obtain ⟨x, hx, hxid, hquery⟩ := h.stored p hp
    obtain rfl := Table.eq_of_key hx hr (hxid.trans hid.symm)
    exact (billable_congr rfl (find_query_kept hqueries hquery)).mp hbillable
  refine ⟨h.unbilled.set_db db, fun r hr => h.unmarked r (hreports ▸ hr), fun p hp => ?_, fun r hr => ?_,
    fun r hr hbillable kind => ?_, fun d hd => ?_, h.reads, h.ids, h.distinct⟩
  · obtain ⟨r, hr, hid, hquery⟩ := h.stored p hp
    refine ⟨r, hreports ▸ hr, hid, ?_⟩
    rw [show (s.setDb db).db.queries.find r.queryId = s.db.queries.find r.queryId from find_query_kept hqueries hquery]
    exact hquery
  · exact h.blank r (hreports ▸ hr)
  · have hr : r ∈ s.db.reports.rows := hreports ▸ hr
    by_cases hportion : ∃ p ∈ s.portions, p.reportId = r.id
    · obtain ⟨p, hp, hid⟩ := hportion
      exact h.amounts r hr (hback p hp r hr hid.symm hbillable) kind
    · push Not at hportion
      rw [h.blank r hr hportion kind]
      exact (portion_sum_nil hportion kind).symm
  · obtain ⟨r, hr, hid, hrow, hquery⟩ := h.loaded d hd
    refine ⟨r, hreports ▸ hr, hid, hrow, ?_⟩
    rw [show (s.setDb db).db.queries.find r.queryId = s.db.queries.find r.queryId from find_query_kept hqueries hquery]
    exact hquery

theorem load_digestion_spec {id : ℕ} {relation : ReportPaymentRelation} (h : loadDigestion s.db id relation = some d) :
    d.report ∈ s.db.reports.rows ∧ (s.db.queries.find d.report.queryId).isSome = true := by
  unfold loadDigestion at h
  simp only [Option.bind_eq_bind, Option.bind_eq_some_iff] at h
  obtain ⟨payment, -, report, hreport, accountId, howner, h⟩ := h
  split at h
  · simp at h
  · obtain rfl := Option.some.inj h
    obtain ⟨query, hquery, -⟩ := Option.bind_eq_some_iff.mp howner
    exact ⟨Table.mem_of_find hreport, by simp [hquery]⟩

theorem BillingInv.load (h : BillingInv s) {id : ℕ} {relation : ReportPaymentRelation}
    (hload : loadDigestion s.db id relation = some d) : BillingInv { s with digestions := s.digestions.save d } := by
  obtain ⟨hreport, hquery⟩ := load_digestion_spec hload
  refine ⟨⟨h.unbilled.bills, h.unbilled.marks, h.unbilled.points⟩, h.unmarked, h.stored, h.blank, h.amounts, fun x hx => ?_,
    fun x hx => ?_, h.ids, h.distinct⟩
  · rcases Table.mem_save.mp hx with rfl | ⟨hx, -⟩
    · exact ⟨x.report, hreport, rfl, rfl, hquery⟩
    · exact h.loaded x hx
  · rcases Table.mem_save.mp hx with rfl | ⟨hx, -⟩
    · exact h.unmarked x.report hreport
    · exact h.reads x hx

/-- A new report has no portions and no amounts. -/
theorem BillingInv.create (h : BillingInv s) {row : Report ℤ} (hfree : ∀ r ∈ s.db.reports.rows, r.id ≠ row.id)
    (hnone : row.billedAt = none) (hzero : ∀ kind : BillKind, kind.amount row = 0) :
    BillingInv (s.setDb { s.db with reports := s.db.reports.save row }) := by
  have hkept : ∀ r ∈ s.db.reports.rows, r ∈ (s.db.reports.save row).rows :=
    fun r hr => Table.mem_save.mpr (Or.inr ⟨hr, hfree r hr⟩)
  have hunused : ∀ p ∈ s.portions, p.reportId ≠ row.id := by
    intro p hp hid
    obtain ⟨r, hr, hrid, -⟩ := h.stored p hp
    exact hfree r hr (hrid.trans hid)
  refine ⟨h.unbilled.set_db _, fun r hr => ?_, fun p hp => ?_, fun r hr hno => ?_, fun r hr hbillable => ?_, fun d hd => ?_,
    h.reads, h.ids, h.distinct⟩
  · rcases Table.mem_save.mp hr with rfl | ⟨hr, -⟩
    · exact hnone
    · exact h.unmarked r hr
  · obtain ⟨r, hr, hid, hquery⟩ := h.stored p hp
    exact ⟨r, hkept r hr, hid, hquery⟩
  · rcases Table.mem_save.mp hr with rfl | ⟨hr, -⟩
    · exact hzero
    · exact h.blank r hr hno
  · rcases Table.mem_save.mp hr with rfl | ⟨hr, -⟩
    · intro kind
      rw [hzero kind]
      exact (portion_sum_nil hunused kind).symm
    · exact h.amounts r hr hbillable
  · obtain ⟨r, hr, hrest⟩ := h.loaded d hd
    exact ⟨r, hkept r hr, hrest⟩

theorem DigestFrame.kept (hframe : DigestFrame d.report s.db db)
    (hstored : ∃ r ∈ s.db.reports.rows, r.id = d.report.id ∧ r.queryId = d.report.queryId) (hr : r ∈ s.db.reports.rows) :
    ∃ x ∈ db.reports.rows, x.id = r.id ∧ x.queryId = r.queryId := by
  obtain ⟨r₀, hr₀, hid₀, hquery₀⟩ := hstored
  have hmem : r.id ∈ db.reports.rows.map (·.id) := by
    rw [hframe.ids ⟨r₀, hr₀, hid₀⟩]
    exact List.mem_map_of_mem hr
  obtain ⟨x, hx, hid⟩ := List.mem_map.mp hmem
  refine ⟨x, hx, hid, ?_⟩
  rcases hframe.rows x hx with hold | ⟨hxid, hquery, -⟩
  · rw [Table.eq_of_key hold hr hid]
  · rw [Table.eq_of_key hr hr₀ (hid.symm.trans (hxid.trans hid₀.symm)), hquery, hquery₀]

/-- The row that the digestion saved, when a row changed. -/
theorem DigestFrame.saved (hframe : DigestFrame d.report s.db db)
    (hstored : ∃ r ∈ s.db.reports.rows, r.id = d.report.id) (hchanged : db.reports.rows ≠ s.db.reports.rows) :
    ∃ x ∈ db.reports.rows, db.reports.find d.report.id = some x ∧ x.id = d.report.id ∧ x.queryId = d.report.queryId ∧
      x.billedAt = d.report.billedAt := by
  have hids := hframe.ids hstored
  have hnew : ∃ x ∈ db.reports.rows, x ∉ s.db.reports.rows := by
    by_contra hall
    push Not at hall
    exact hchanged (Table.rows_eq_of_keys hids hall)
  obtain ⟨x, hx, hnot⟩ := hnew
  rcases hframe.rows x hx with hold | ⟨hid, hquery, hbilled⟩
  · exact absurd hold hnot
  · exact ⟨x, hx, Table.find_eq_some_iff.mpr ⟨hx, hid⟩, hid, hquery, hbilled⟩

theorem BillingInv.digest (h : BillingInv s) {errors : ℕ → Option HttpError} (hd : d ∈ s.digestions.rows)
    (htimely : d.payment.includeInReportDigestion = true → Billable s.db d.report →
      ∀ r ∈ s.db.reports.find d.report.id, r = d.report) :
    BillingInv (finishDigestion env s d errors) := by
  unfold finishDigestion
  generalize hdb : left (digestLoaded env d.relation d.payment d.report.load d.accountId) { db := s.db, failure := errors } = db
  have hframe : DigestFrame d.report s.db db := by
    rw [← hdb]
    exact (digest_loaded_maintain env d.relation ⟨rfl, rfl, rfl⟩).left (DigestFrame.refl d.report s.db)
  obtain ⟨r₀, hr₀, hid₀, hquery₀, hsome₀⟩ := h.loaded d hd
  by_cases hsame : db.reports.rows = s.db.reports.rows
  · have hbase := h.with_db hsame (by rw [hframe.queries]; exact fun _ hquery => hquery)
    simp only [hsame, if_true]
    exact ⟨⟨h.unbilled.bills, h.unbilled.marks, h.unbilled.points⟩, hbase.unmarked, hbase.stored, hbase.blank, hbase.amounts,
      fun x hx => hbase.loaded x (Table.mem_delete.mp hx).1, fun x hx => h.reads x (Table.mem_delete.mp hx).1, h.ids, h.distinct⟩
  · obtain ⟨x, hx, hfind, hxid, hxquery, hxbilled⟩ := hframe.saved ⟨r₀, hr₀, hid₀⟩ hsame
    have hincluded : d.payment.includeInReportDigestion = true := by
      by_contra hnot
      apply hsame
      rw [← hdb, digest_excluded env d.relation (by simpa using hnot)]
    simp only [hsame, if_false, hfind, Option.getD_some]
    -- a report other than `x` is as it was
    have hother : ∀ y ∈ db.reports.rows, y ≠ x → y ∈ s.db.reports.rows ∧ y.id ≠ d.report.id := by
      intro y hy hne
      have hyid : y.id ≠ d.report.id := fun hid => hne (Table.eq_of_key hy hx (hid.trans hxid.symm))
      rcases hframe.rows y hy with hold | ⟨hid, -, -⟩
      · exact ⟨hold, hyid⟩
      · exact absurd hid hyid
    have hkept : ∀ r ∈ s.db.reports.rows, ∃ y ∈ db.reports.rows, y.id = r.id ∧ y.queryId = r.queryId :=
      fun r hr => hframe.kept ⟨r₀, hr₀, hid₀, hquery₀⟩ hr
    have hfound : ∀ queryId, db.queries.find queryId = s.db.queries.find queryId := fun queryId => by rw [hframe.queries]
    have hbillable₀ : Billable db x → Billable s.db d.report ∧ Billable s.db r₀ := fun hbillable =>
      ⟨(billable_congr hxquery (hfound _)).mp hbillable, (billable_congr (hxquery.trans hquery₀.symm) (hfound _)).mp hbillable⟩
    refine ⟨⟨h.unbilled.bills, h.unbilled.marks, h.unbilled.points⟩, fun y hy => ?_, fun p hp => ?_, fun y hy hno => ?_,
      fun y hy hbillable kind => ?_, fun d' hd' => ?_, fun d' hd' => h.reads d' (Table.mem_delete.mp hd').1, fun p hp => ?_, ?_⟩
    · by_cases hxy : y = x
      · rw [hxy, hxbilled]
        exact h.reads d hd
      · exact h.unmarked y (hother y hy hxy).1
    · rcases List.mem_cons.mp hp with rfl | hp
      · refine ⟨x, hx, hxid, ?_⟩
        rw [hfound, hxquery, ← hquery₀]
        exact hsome₀
      · obtain ⟨r, hr, hid, hquery⟩ := h.stored p hp
        obtain ⟨y, hy, hyid, hyquery⟩ := hkept r hr
        exact ⟨y, hy, hyid.trans hid, by rw [hfound, hyquery]; exact hquery⟩
    · have hne : y ≠ x := by
        rintro rfl
        exact hno _ List.mem_cons_self hxid.symm
      exact h.blank y (hother y hy hne).1 fun p hp => hno p (List.mem_cons_of_mem _ hp)
    · rw [portion_sum_cons, show (portionOf d s.portions.length x).reportId = d.report.id from rfl]
      by_cases hxy : y = x
      · obtain ⟨hd₀, hb₀⟩ := hbillable₀ (hxy ▸ hbillable)
        have hamount : kind.amount d.report = kind.amount r₀ := by
          rw [htimely hincluded hd₀ r₀ (Table.find_eq_some_iff.mpr ⟨hr₀, hid₀⟩)]
        have hsum := h.amounts r₀ hr₀ hb₀ kind
        have hportion : kind.portion (portionOf d s.portions.length x) = kind.amount x - kind.amount d.report := by
          cases kind <;> rfl
        have hsum' : portionSum s.portions kind x.id = kind.amount d.report := by
          rw [hamount, hsum, hxid, hid₀]
        rw [hxy, if_pos hxid.symm, hsum', hportion]
        omega
      · obtain ⟨hold, hyid⟩ := hother y hy hxy
        have hb : Billable s.db y := (billable_congr rfl (hfound _)).mp hbillable
        rw [if_neg hyid.symm, h.amounts y hold hb kind, zero_add]
    · obtain ⟨r, hr, hid, hquery, hsome⟩ := h.loaded d' (Table.mem_delete.mp hd').1
      obtain ⟨y, hy, hyid, hyquery⟩ := hkept r hr
      exact ⟨y, hy, hyid.trans hid, hyquery.trans hquery, by rw [hfound, hyquery]; exact hsome⟩
    · rcases List.mem_cons.mp hp with rfl | hp
      · exact Nat.lt_succ_self _
      · exact (h.ids p hp).trans (Nat.lt_succ_self _)
    · refine List.nodup_cons.mpr ⟨fun hmem => ?_, h.distinct⟩
      obtain ⟨p, hp, hid⟩ := List.mem_map.mp hmem
      exact absurd hid (h.ids p hp).ne

end Digestions

/-! ## Runs -/

theorem billing_inv_step {env : Env} {s s' : System} {act : BillingAct} (h : BillingInv s) (htimely : InTime s act)
    (hstep : billingStep env s act = some s') : BillingInv s' := by
  cases act with
  | load id relation =>
    simp only [billingStep] at hstep
    split at hstep
    · simp at hstep
    · split at hstep <;> rename_i hload
      · exact Option.some.inj hstep ▸ h.load hload
      · exact Option.some.inj hstep ▸ h
  | digest id errors =>
    obtain ⟨d, hfind, rfl⟩ := Option.map_eq_some_iff.mp hstep
    exact h.digest (Table.mem_of_find hfind) (htimely d hfind)
  | findOrCreate query periodLabel currency id =>
    obtain ⟨db, houtcome, rfl⟩ := Option.map_eq_some_iff.mp hstep
    obtain ⟨row, t, hreturns, rfl⟩ := outcome_eq_some.mp houtcome
    rcases find_or_create_spec hreturns with ⟨-, hdb⟩ | ⟨rfl, hfree, hdb⟩
    · exact h.with_db (by rw [hdb]) (by rw [hdb]; exact fun _ hquery => hquery)
    · rw [hdb]
      refine h.create (fun r hr hid => ?_) rfl fun kind => by cases kind <;> rfl
      have hconflict := hfree r hr
      simp only [newReport] at hid
      simp [Report.conflicts, newReport, hid] at hconflict
  | environment other =>
    simp only [billingStep] at hstep
    split at hstep <;> rename_i hqueries
    · exact Option.some.inj hstep ▸ h.with_db rfl hqueries
    · simp at hstep
  | runBilling id settings =>
    have hnone := no_bills_step h.unbilled hstep
    simp only [billingStep] at hstep
    split at hstep
    · simp at hstep
    · obtain rfl := Option.some.inj hstep
      exact h.with_runs hnone
  | advance id today now payments =>
    have hnone := no_bills_step h.unbilled hstep
    obtain ⟨run, hfind, rfl⟩ := Option.map_eq_some_iff.mp hstep
    obtain ⟨runs, hadvance, -⟩ := advance_spec h.unbilled (Table.mem_of_find hfind) today now payments
    rw [hadvance] at hnone ⊢
    exact h.with_runs hnone
  | fail id =>
    have hnone := no_bills_step h.unbilled hstep
    simp only [billingStep] at hstep
    split at hstep
    · obtain rfl := Option.some.inj hstep
      exact h.with_runs hnone
    · simp at hstep

/-- **Billing completeness.** In every run whose digestions are in time, a seller's daily report is the sum of
what was digested into it, and unbilled. -/
theorem billing_complete (env : Env) (acts : List BillingAct) (s : System)
    (hintime : Meets (billingStep env) InTime .start acts) (h : run (billingStep env) .start acts = some s) :
    BillingComplete s :=
  complete_of_inv (run_invariant_of_meets (fun _ _ _ hinv htimely h => billing_inv_step hinv htimely h) billing_inv_start
    hintime h)

/-- Two digestions of one report that have read the same row. The second one saves it without the first sale. -/
def raceActs : List BillingAct :=
  [.environment sampleTables, .findOrCreate sampleQuery "2026-01-05" "TRY" "report",
    .load 1 ⟨"report", "sale", some "seller", .digesting, "first"⟩,
    .load 2 ⟨"report", "late", some "seller", .digesting, "second"⟩, .digest 1 noErrors, .digest 2 noErrors]

theorem raced_digestion_lost : ∃ s ∈ run (billingStep sampleEnv) .start raceActs, ¬ BillingComplete s ∧
    s.portions.map (·.paymentId) = ["late", "sale"] ∧
      s.db.reports.rows.map (fun r : Report ℤ => (r.netSaleAmount, r.paymentCount)) = [(600000, 1)] := by
  have hrun : ∃ s ∈ run (billingStep sampleEnv) .start raceActs,
      (∃ r ∈ s.db.reports.rows, Billable s.db r ∧ BillKind.amount .earnings r ≠ portionSum s.portions .earnings r.id) ∧
      s.portions.map (·.paymentId) = ["late", "sale"] ∧
      s.db.reports.rows.map (fun r : Report ℤ => (r.netSaleAmount, r.paymentCount)) = [(600000, 1)] := by
    decide +kernel
  obtain ⟨s, hs, ⟨r, hr, hbillable, hne⟩, hrest⟩ := hrun
  exact ⟨s, hs, fun hcomplete => hne (hcomplete.amounts r hr hbillable .earnings), hrest⟩

theorem billing_complete_sample : ∃ s ∈ run (billingStep sampleEnv) .start overlappingRuns, s.portions ≠ [] ∧ BillingComplete s := by
  have hrun : ∃ s ∈ run (billingStep sampleEnv) .start overlappingRuns, s.portions ≠ [] := by
    decide +kernel
  obtain ⟨s, hs, hportions⟩ := hrun
  exact ⟨s, hs, hportions, billing_complete sampleEnv overlappingRuns s (by decide +kernel) hs⟩

end Postral.Billing
