import Postral.Reports.ExpenseRows
import Postral.Reports.Partition
import Postral.Reports.Quantities

/-!
# What is digested into sellers' reports

A journal keeps what every digestion into a seller's report brings. A property of the rows and the
entries of one account holds in every run when a digestion keeps it for the account that it writes to.
-/

open Check Session Run Rounding

namespace Postral.Reports

/-! ## One digestion -/

/-- The platform in the keys of a payment. -/
def platformKeyOf (db : Db) (payment : Payment) : Option String :=
  match payment.externalPlatformId with
  | none | some "" => none
  | some id => (db.externalPlatforms.rows.find? fun platform => platform.id = id).map (·.code)

section Digestion

variable {s t : Session HttpError Db} {env : Env} {r : Report ℤ} {payment : Payment} {owner : String} {u : Unit}

theorem platformKeyOf_some {db : Db} {id : String} (hid : payment.externalPlatformId = some id) (hne : id ≠ "") :
    platformKeyOf db payment = (db.externalPlatforms.rows.find? fun platform => platform.id = id).map (·.code) := by
  unfold platformKeyOf
  rw [hid]
  split
  · exact absurd ‹some _ = none› (by simp)
  · exact absurd (Option.some.inj ‹some _ = some ""›) hne
  · rename_i heq
    obtain rfl := Option.some.inj heq
    rfl

theorem resolve_platformKeyOf {platform : PlatformSource} (h : Returns (resolveReportPlatform payment) s platform t) :
    platformCodeOf payment platform = (platformKeyOf s.db payment).map encodeURIComponent := by
  unfold resolveReportPlatform at h
  unfold platformCodeOf
  split at h <;> rename_i hid
  · simp [platformKeyOf, hid, truthy]
  · simp [platformKeyOf, hid, truthy]
  · rename_i hne
    simp only [returns_bind, returns_check, returns_pure, orThrow_eq_ok] at h
    obtain ⟨found, v, hfind, valid, _, ⟨hvalid, rfl⟩, rfl, rfl⟩ := h
    obtain ⟨hfound, -⟩ := returns_find hfind
    obtain ⟨hsome, -⟩ := Option.filter_eq_some_iff.mp hvalid
    rw [hfound] at hsome
    rw [platformKeyOf_some hid hne, hsome, hid, if_pos (by simpa [truthy] using hne)]
    rfl

/-- The updates after the fees leave the expenses alone. -/
theorem totals_left {report : Report ℚ} {accountId : Option String} {platform : PlatformSource} (hloaded : report.Loaded r)
    (h : Returns (do
      digestTotals report payment accountId owner
      updateTaxGroupReportByPaymentAndAccountId r.id payment accountId
      updatePaymentItemReport env r.id payment accountId
      updatePlatformReport r.id payment platform accountId) s () t) : t.db.expenses = s.db.expenses := by
  obtain ⟨_, a, htotals, hrows⟩ := returns_bind.mp h
  rw [(rows_left hrows).1, digest_totals_spec hloaded htotals]

theorem comission_left {report : Report ℚ} {accountId : Option String}
    (h : Returns (digestComissionIncomeForReport report payment accountId) s u t) : t.db.expenses = s.db.expenses := by
  cases hnative : truthy payment.externalPlatformId with
  | true =>
    unfold digestComissionIncomeForReport at h
    rw [if_pos hnative] at h
    rw [(returns_pure.mp h).2]
  | false =>
    obtain ⟨taxMax, -, ht⟩ := digest_comission_spec hnative h
    rw [ht]

/-- The updates of a seller's report. -/
theorem seller_digested (htype : r.reportType = .seller) (h : Returns (digestReport env r.load payment owner) s u t) :
    ∃ db₁, Raised s.db db₁ r.id owner (comissionAdded r.id owner ((platformKeyOf s.db payment).map encodeURIComponent)
        payment.type (itemsOf payment (some owner))) ∧
      ∃ db₂, Raised db₁ db₂ r.id owner (feeAdded r.id owner (chargedFees s.db payment owner)) ∧ t.db.expenses = db₂.expenses := by
  unfold digestReport at h
  rw [show r.load.reportType = .seller from htype] at h
  simp only at h
  obtain ⟨platform, a, hresolve, h⟩ := returns_bind.mp h
  obtain ⟨_, b, hexpenses, h⟩ := returns_bind.mp h
  obtain ⟨_, c, hfees, h⟩ := returns_bind.mp h
  have hcomission := update_expenses_raised hexpenses
  have hcharged := seller_fees_raised hfees
  rw [resolve_platformKeyOf hresolve, resolve_spec hresolve] at hcomission
  have hsame : chargedFees b.db payment owner = chargedFees s.db payment owner := by
    obtain ⟨_, honly⟩ := hcomission.only
    rw [honly]
    rfl
  rw [hsame] at hcharged
  exact ⟨b.db, hcomission, c.db, hcharged, totals_left (loaded_load r) h⟩

/-- No digestion writes rows of another report. -/
theorem digest_report_others (h : Returns (digestReport env r.load payment owner) s u t) {id : String} (hid : id ≠ r.id)
    (a k : String) : t.db.expenses.find (id, a, k) = s.db.expenses.find (id, a, k) := by
  have hne : ∀ account, (id, a) ≠ (r.id, account) := fun account heq => hid (Prod.mk.inj heq).1
  cases htype : r.reportType with
  | seller =>
    obtain ⟨db₁, hcomission, db₂, hfees, ht⟩ := seller_digested htype h
    rw [ht, hfees.others _ _ _ (hne _), hcomission.others _ _ _ (hne _)]
  | platformSeller =>
    unfold digestReport at h
    rw [show r.load.reportType = .platformSeller from htype] at h
    rw [comission_left h]
  | platform =>
    unfold digestReport at h
    rw [show r.load.reportType = .platform from htype] at h
    simp only at h
    split at h
    · rw [comission_left h]
    · simp only [returns_bind] at h
      obtain ⟨_, b, hfees, report, c, hrounding, h⟩ := h
      rw [comission_left h]
      have hadjusted : c.db.expenses.find (id, a, k) = b.db.expenses.find (id, a, k) :=
        (refund_rounding_charged hrounding).1.others _ _ _ (hne _)
      rw [hadjusted]
      exact (platform_fees_charged hfees).others _ _ _ (hne _)
  | platformFlow =>
    unfold digestReport at h
    rw [show r.load.reportType = .platformFlow from htype] at h
    simp only at h
    obtain ⟨platform, b, hresolve, h⟩ := returns_bind.mp h
    obtain ⟨_, c, hexpenses, h⟩ := returns_bind.mp h
    obtain ⟨_, d, hfees, h⟩ := returns_bind.mp h
    obtain ⟨report, e, hrounding, h⟩ := returns_bind.mp h
    obtain ⟨hloaded, -⟩ := refund_rounding_only (loaded_load r) hrounding
    have hreport : report.id = r.id := by
      obtain ⟨_, rfl⟩ := hloaded
      rfl
    rw [totals_left hloaded (by rw [← hreport]; exact h)]
    have hadjusted : e.db.expenses.find (id, a, k) = d.db.expenses.find (id, a, k) :=
      (refund_rounding_charged hrounding).1.others _ _ _ (hne _)
    have hcharged : d.db.expenses.find (id, a, k) = c.db.expenses.find (id, a, k) :=
      (platform_fees_charged hfees).others _ _ _ (hne _)
    have hraised : c.db.expenses.find (id, a, k) = b.db.expenses.find (id, a, k) :=
      (update_expenses_raised hexpenses).others _ _ _ (hne _)
    rw [hadjusted, hcharged, hraised, resolve_spec hresolve]

end Digestion

/-! ## Journals -/

/-- The database with what was digested into sellers' reports. -/
structure SellerJournal (ε : Type) where
  db : Db
  entries : List ε

section Journals

variable {ε : Type}

def SellerJournal.start : SellerJournal ε := ⟨Db.empty, []⟩

/-- What a payment brings to the report of `owner`, read before and after its digestion. -/
abbrev Brings (ε : Type) := Db → Db → Report ℤ → Payment → String → List ε

/-- The entries of a relation. -/
def sellerEntries (brings : Brings ε) (before after : Db) (relation : ReportPaymentRelation) : List ε :=
  match before.reports.find relation.reportId, before.payments.find relation.paymentId with
  | some r, some payment =>
    match ownerOf before r with
    | none | some "" => []
    | some owner =>
      if payment.includeInReportDigestion ∧ r.reportType = .seller then brings before after r payment owner else []
  | _, _ => []

def sellerStep (env : Env) (brings : Brings ε) (j : SellerJournal ε) (action : DigestionAction) : Option (SellerJournal ε) :=
  (digestionStep env j.db action).map fun db => match action with
    | .digest relation => ⟨db, j.entries ++ sellerEntries brings j.db db relation⟩
    | _ => ⟨db, j.entries⟩

/-- A payment that goes into a seller's report fits it. -/
def SellerFits (fits : Db → Report ℤ → Payment → String → Prop) (j : SellerJournal ε) : DigestionAction → Prop
  | .digest relation => ∀ r ∈ j.db.reports.find relation.reportId, ∀ payment ∈ j.db.payments.find relation.paymentId,
      ∀ owner ∈ ownerOf j.db r, payment.includeInReportDigestion = true → r.reportType = .seller → fits j.db r payment owner
  | _ => True

instance (fits : Db → Report ℤ → Payment → String → Prop) [∀ db r payment owner, Decidable (fits db r payment owner)]
    (j : SellerJournal ε) : DecidablePred (SellerFits fits j) := fun action =>
  match action with
  | .digest relation => inferInstanceAs (Decidable (∀ r ∈ j.db.reports.find relation.reportId,
      ∀ payment ∈ j.db.payments.find relation.paymentId, ∀ owner ∈ ownerOf j.db r,
      payment.includeInReportDigestion = true → r.reportType = .seller → fits j.db r payment owner))
  | .findOrCreate .. | .environment _ => instDecidableTrue

/-! ## Properties of an account -/

/-- The entries of an account. -/
def entriesOf (key : ε → String × String) (entries : List ε) (reportId accountId : String) : List ε :=
  entries.filter fun e => key e = (reportId, accountId)

/-- A property of the rows and the entries of an account of a report. -/
structure SellerProperty (key : ε → String × String) where
  holds : Db → List ε → String → String → Prop
  frame : ∀ {db db' : Db} {entries entries' : List ε} {reportId accountId : String},
    (∀ k, db'.expenses.find (reportId, accountId, k) = db.expenses.find (reportId, accountId, k)) →
    entriesOf key entries' reportId accountId = entriesOf key entries reportId accountId →
    holds db entries reportId accountId → holds db' entries' reportId accountId
  blank : ∀ reportId accountId, holds Db.empty [] reportId accountId

variable {key : ε → String × String}

theorem entriesOf_append_of_ne {entries entries' : List ε} {reportId accountId : String}
    (h : ∀ e ∈ entries', key e ≠ (reportId, accountId)) :
    entriesOf key (entries ++ entries') reportId accountId = entriesOf key entries reportId accountId := by
  have hnil : entries'.filter (fun e => key e = (reportId, accountId)) = [] := by
    rw [List.filter_eq_nil_iff]
    intro e he heq
    exact h e he (of_decide_eq_true heq)
  unfold entriesOf
  rw [List.filter_append, hnil, List.append_nil]

theorem entriesOf_eq_nil {entries : List ε} {reportId accountId : String} (h : ∀ e ∈ entries, (key e).1 ≠ reportId) :
    entriesOf key entries reportId accountId = [] := by
  unfold entriesOf
  rw [List.filter_eq_nil_iff]
  intro e he heq
  exact h e he (by rw [of_decide_eq_true heq])

/-- Rows and entries belong to stored reports, and have the property where these are a seller's. -/
structure SellerInv (P : SellerProperty key) (j : SellerJournal ε) : Prop where
  holds : ∀ r ∈ j.db.reports.rows, r.reportType = .seller → ∀ account, P.holds j.db j.entries r.id account
  expenses : ∀ e ∈ j.db.expenses.rows, ∃ r ∈ j.db.reports.rows, r.id = e.reportId
  entries : ∀ e ∈ j.entries, ∃ r ∈ j.db.reports.rows, r.id = (key e).1

variable {P : SellerProperty key} {j j' : SellerJournal ε}

theorem seller_inv_start : SellerInv P SellerJournal.start := by
  constructor <;> simp [SellerJournal.start, Db.empty, Table.empty]

theorem SellerInv.congr (h : SellerInv P j) {db : Db} (hexpenses : db.expenses = j.db.expenses)
    (hreports : db.reports = j.db.reports) : SellerInv P ⟨db, j.entries⟩ := by
  refine ⟨fun r hr htype account => ?_, ?_, ?_⟩
  · exact P.frame (fun k => by rw [hexpenses]) rfl (h.holds r (hreports ▸ hr) htype account)
  · dsimp only
    rw [hexpenses, hreports]
    exact h.expenses
  · dsimp only
    rw [hreports]
    exact h.entries

/-- A new report has no rows. -/
theorem SellerInv.created (h : SellerInv P j) {db : Db} {r : Report ℤ} (hfree : ∀ x ∈ j.db.reports.rows, x.id ≠ r.id)
    (hexpenses : db.expenses = j.db.expenses) (hreports : db.reports = j.db.reports.save r) : SellerInv P ⟨db, j.entries⟩ := by
  have hold : ∀ {id : String}, (∃ x ∈ j.db.reports.rows, x.id = id) → ∃ x ∈ db.reports.rows, x.id = id := by
    rintro id ⟨x, hx, hid⟩
    rw [hreports]
    exact ⟨x, Table.mem_save.mpr (Or.inr ⟨hx, hfree x hx⟩), hid⟩
  refine ⟨fun x hx htype account => ?_, fun e he => hold (h.expenses e (hexpenses ▸ he)), fun e he => hold (h.entries e he)⟩
  dsimp only at hx
  rw [hreports] at hx
  rcases Table.mem_save.mp hx with rfl | ⟨hx, -⟩
  · refine P.frame (fun k => ?_) ?_ (P.blank x.id account)
    · refine Eq.trans ?_ (Table.find_empty _).symm
      rw [Table.find_eq_none_iff]
      intro e he hkey
      dsimp only at he
      rw [hexpenses] at he
      obtain ⟨y, hy, hid⟩ := h.expenses e he
      exact hfree y hy (hid.trans (Prod.mk.inj hkey).1)
    · refine (entriesOf_eq_nil fun e he hid => ?_).trans rfl
      obtain ⟨y, hy, hyid⟩ := h.entries e he
      exact hfree y hy (hyid.trans hid)
  · exact P.frame (fun k => by rw [hexpenses]) rfl (h.holds x hx htype account)

/-- A digestion that fits keeps the property of the account that it writes to. -/
structure SellerKeeps (env : Env) (P : SellerProperty key) (brings : Brings ε)
    (fits : Db → Report ℤ → Payment → String → Prop) : Prop where
  own : ∀ before after r payment owner, ∀ e ∈ brings before after r payment owner, key e = (r.id, owner)
  digested : ∀ {s t : Session HttpError Db} {entries : List ε} {r : Report ℤ} {payment : Payment} {owner : String} {u : Unit},
    r.reportType = .seller → fits s.db r payment owner → P.holds s.db entries r.id owner →
    Returns (digestReport env r.load payment owner) s u t → ∀ after, after.expenses = t.db.expenses →
    P.holds after (entries ++ brings s.db after r payment owner) r.id owner

section Steps

variable {env : Env} {brings : Brings ε} {fits : Db → Report ℤ → Payment → String → Prop}

/-- One payment. -/
theorem SellerInv.digested (hkeeps : SellerKeeps env P brings fits) {s t : Session HttpError Db} {entries : List ε}
    {r : Report ℤ} {payment : Payment} {owner : String} {u : Unit} (h : SellerInv P ⟨s.db, entries⟩)
    (hr : r ∈ s.db.reports.rows)
    (hfits : payment.includeInReportDigestion = true → r.reportType = .seller → fits s.db r payment owner)
    (hdigest : Returns (digestIncluded env r.load payment owner) s u t) {after : Db} (hexpenses : after.expenses = t.db.expenses)
    (hreports : after.reports = t.db.reports) : SellerInv P ⟨after, entries ++
      if payment.includeInReportDigestion ∧ r.reportType = .seller then brings s.db after r payment owner else []⟩ := by
  obtain ⟨-, r', hadded, hsaved⟩ := digest_report_added hdigest
  rw [← hreports] at hsaved
  have hstored : ∀ {id : String}, (∃ x ∈ s.db.reports.rows, x.id = id) → ∃ x ∈ after.reports.rows, x.id = id := by
    intro id hid
    rcases hsaved with hsaved | ⟨-, hsaved⟩
    · rw [hsaved]
      exact mem_save_id r' hid
    · rwa [hsaved]
  have hbefore : ∀ x ∈ after.reports.rows, ∃ y ∈ s.db.reports.rows, y.id = x.id ∧ y.reportType = x.reportType := by
    intro x hx
    rcases hsaved with hsaved | ⟨-, hsaved⟩
    · rw [hsaved] at hx
      rcases Table.mem_save.mp hx with rfl | ⟨hx, -⟩
      · exact ⟨r, hr, hadded.id.symm, hadded.reportType.symm⟩
      · exact ⟨x, hx, rfl, rfl⟩
    · exact ⟨x, hsaved ▸ hx, rfl, rfl⟩
  have hothers : ∀ id, id ≠ r.id → ∀ account k,
      after.expenses.find (id, account, k) = s.db.expenses.find (id, account, k) := by
    intro id hid account k
    rw [hexpenses]
    unfold digestIncluded at hdigest
    split at hdigest
    · exact digest_report_others hdigest hid account k
    · rw [(returns_pure.mp hdigest).2]
  have hown : ∀ e ∈ (if payment.includeInReportDigestion ∧ r.reportType = .seller then brings s.db after r payment owner else []),
      key e = (r.id, owner) := by
    intro e he
    split at he
    · exact hkeeps.own _ _ _ _ _ e he
    · exact absurd he List.not_mem_nil
  refine ⟨fun x hx htype account => ?_, fun e he => ?_, fun e he => ?_⟩
  · obtain ⟨y, hy, hid, hytype⟩ := hbefore x hx
    have hrows := h.holds y hy (hytype.trans htype) account
    rw [hid] at hrows
    by_cases hsame : x.id = r.id
    · obtain rfl := Table.eq_of_key hy hr (hid.trans hsame)
      have hseller : y.reportType = .seller := hytype.trans htype
      unfold digestIncluded at hdigest
      split at hdigest <;> rename_i hincluded
      · rw [if_pos ⟨hincluded, hseller⟩] at hown ⊢
        by_cases haccount : account = owner
        · subst haccount
          rw [hsame] at hrows ⊢
          exact hkeeps.digested hseller (hfits hincluded hseller) hrows hdigest after hexpenses
        · obtain ⟨db₁, hcomission, db₂, hfees, ht⟩ := seller_digested hseller hdigest
          have hne : (x.id, account) ≠ (y.id, owner) := fun heq => haccount (Prod.mk.inj heq).2
          refine P.frame (fun k => ?_) (entriesOf_append_of_ne fun e he => ?_) hrows
          · rw [hexpenses, ht, hfees.others _ _ _ hne, hcomission.others _ _ _ hne]
          · rw [hown e he]
            exact hne.symm
      · rw [if_neg fun hfits => hincluded hfits.1, List.append_nil]
        refine P.frame (fun k => ?_) rfl hrows
        rw [hexpenses, (returns_pure.mp hdigest).2]
    · refine P.frame (hothers x.id hsame account) (entriesOf_append_of_ne fun e he heq => ?_) hrows
      rw [hown e he] at heq
      exact hsame (Prod.mk.inj heq).1.symm
  · apply hstored
    by_cases hsame : e.reportId = r.id
    · exact ⟨r, hr, hsame.symm⟩
    · have hfind : after.expenses.find (e.reportId, e.accountId, e.expenseKey) = some e := Table.find_of_mem he
      rw [hothers _ hsame] at hfind
      exact h.expenses e (Table.mem_of_find hfind)
  · apply hstored
    rcases List.mem_append.mp he with he | he
    · exact h.entries e he
    · exact ⟨r, hr, by rw [hown e he]⟩

theorem seller_inv_digest (hkeeps : SellerKeeps env P brings fits) {s t : Session HttpError Db} {entries : List ε}
    {relation : ReportPaymentRelation} {u : Unit} (h : SellerInv P ⟨s.db, entries⟩)
    (hfits : SellerFits fits (⟨s.db, entries⟩ : SellerJournal ε) (.digest relation))
    (hdigest : Returns (digestRelation env relation) s u t) :
    SellerInv P ⟨t.db, entries ++ sellerEntries brings s.db t.db relation⟩ := by
  rcases digest_relation_spec hdigest with ⟨hdb, hskip⟩ | ⟨r, payment, owner, hdigested⟩
  · have hnil : sellerEntries brings s.db t.db relation = [] := by
      unfold sellerEntries
      split
      · rename_i r payment hr _
        rcases hskip r hr with howner | howner <;> simp [howner]
      · rfl
    rw [hnil, List.append_nil, hdb]
    exact h
  · have hentries : sellerEntries brings s.db t.db relation = if owner = "" then [] else
        if payment.includeInReportDigestion ∧ r.reportType = .seller then brings s.db t.db r payment owner else [] := by
      unfold sellerEntries
      simp only [hdigested.findReport, hdigested.findPayment, hdigested.owner]
      by_cases hblank : owner = "" <;> simp [hblank]
    rw [hentries]
    split <;> rename_i hblank
    · subst hblank
      rw [List.append_nil, digest_relation_blank hdigested.findReport hdigested.owner hdigest]
      exact h
    · have hfit := hfits r hdigested.findReport payment hdigested.findPayment owner hdigested.owner
      obtain ⟨v, w, hv, hincluded, hdb⟩ := hdigested.updates
      rw [← hv] at h hfit ⊢
      have hr : r ∈ v.db.reports.rows := hv ▸ Table.mem_of_find hdigested.findReport
      exact h.digested hkeeps hr hfit hincluded (by rw [hdb]) (by rw [hdb])

theorem seller_inv_step (hkeeps : SellerKeeps env P brings fits) {action : DigestionAction} (h : SellerInv P j)
    (hfits : SellerFits fits j action) (hstep : sellerStep env brings j action = some j') : SellerInv P j' := by
  obtain ⟨db, hdb, rfl⟩ := Option.map_eq_some_iff.mp hstep
  cases action with
  | digest relation =>
    obtain ⟨_, t, hdigest, rfl⟩ := outcome_eq_some.mp hdb
    exact seller_inv_digest hkeeps (s := { db := j.db }) h hfits hdigest
  | findOrCreate query periodLabel currency id =>
    obtain ⟨_, t, hcreate, rfl⟩ := outcome_eq_some.mp hdb
    rcases find_or_create_spec hcreate with ⟨-, hsame⟩ | ⟨rfl, hfree, hnew⟩
    · exact h.congr (by rw [hsame]) (by rw [hsame])
    · refine h.created (r := newReport id query periodLabel currency) (fun x hx hid => ?_) (by rw [hnew]) (by rw [hnew])
      have hconflict := hfree x hx
      simp [Report.conflicts, newReport, hid] at hconflict
  | environment other =>
    obtain rfl : other.withReportsOf j.db = db := Option.some.inj hdb
    exact h.congr rfl rfl

theorem seller_inv_run (hkeeps : SellerKeeps env P brings fits) {actions : List DigestionAction}
    (hfits : Meets (sellerStep env brings) (SellerFits fits) SellerJournal.start actions)
    (h : run (sellerStep env brings) SellerJournal.start actions = some j) : SellerInv P j :=
  run_invariant_of_meets (fun _ _ _ hinv hfits hstep => seller_inv_step hkeeps hinv hfits hstep) seller_inv_start hfits h

end Steps

end Journals

end Postral.Reports
