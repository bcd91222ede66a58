import Postral.Reports.Reconstruct

/-!
# What a reconstruction carries over

The copy reads the relations of the archived report once. What is inserted there later stays behind.
-/

open Check Run Session

namespace Postral.Reports

/-- The copy has not read the relations of `old`, or there is no copy. -/
def NotRead (old : Report ℤ) (db : Db) : Reconstruction → Prop
  | .copying .. => False
  | .finished => ¬ IsArchived old db
  | _ => True

instance (old : Report ℤ) (db : Db) (r : Reconstruction) : Decidable (NotRead old db r) := by
  unfold NotRead IsArchived
  split <;> infer_instance

/-- No new payment comes to `old` after the copy has read its relations, the copy meets no payment that the new
report has already, and no handler is stopped by an error before it has reached the report. -/
def Orderly (old : Report ℤ) (s : Rebuild) : RebuildAct → Prop
  | .advance i _ =>
    match s.handlers i with
    | .idle => True
    | .resolving event .finding query rest =>
      (∃ q ∈ query :: rest, (event.bucket q).Is old) →
        ((event.bucket query).current s.db).isSome = true ∨ query.ownerAccountId ≠ none
    | .resolving _ .creating _ _ => True
    | .resolving event .refetching query rest =>
      (∃ q ∈ query :: rest, (event.bucket q).Is old) →
        (event.bucket query).Is old ∨ ((event.bucket query).current s.db).isSome = true
    | .inserting event reportId query rest =>
      (reportId = old.id → NotRead old s.db s.reconstruction ∨ Covered old s.db event.paymentId ∨
        Related s.db old.id event.paymentId) ∧
      ((∃ q ∈ query :: rest, (event.bucket q).Is old) → query.ownerAccountId ≠ none) ∧
      ((∃ q ∈ rest, (event.bucket q).Is old) → (event.bucket query).Is old ∨
        ¬ Related s.db reportId event.paymentId)
  | .advanceReconstruct _ _ =>
    match s.reconstruction with
    | .copying brandNewReportId (relation :: rest) =>
      Related s.db brandNewReportId relation.paymentId → ∀ r ∈ rest, Related s.db brandNewReportId r.paymentId
    | _ => True
  | _ => True

instance (old : Report ℤ) (s : Rebuild) (act : RebuildAct) : Decidable (Orderly old s act) := by
  unfold Orderly
  repeat' split
  all_goals infer_instance

/-! ## The invariant -/

/-- The handler has the payment, and the report still ahead. -/
def Handler.Awaits (old : Report ℤ) (paymentId : String) : Handler → Prop
  | .idle => False
  | .resolving event _ query rest | .inserting event _ query rest =>
    event.paymentId = paymentId ∧ ∃ q ∈ query :: rest, (event.bucket q).Is old

def HandlerOk (old : Report ℤ) (db : Db) : Handler → Prop
  | .idle => True
  | .resolving event point query rest =>
    (∀ q ∈ query :: rest, q ∈ db.queries.rows) ∧
    ((event.bucket query).Is old → point ≠ .finding → IsArchived old db) ∧
    ((event.bucket query).Is old → point = .refetching → ∃ reportId, HasReport old db reportId)
  | .inserting event reportId query rest =>
    (∀ q ∈ query :: rest, q ∈ db.queries.rows) ∧
    ((event.bucket query).Is old → reportId = old.id ∨ HasReport old db reportId)

/-- How far the reconstruction is. -/
def Stage (old : Report ℤ) (db : Db) : Reconstruction → Prop
  | .idle => HasReport old db old.id
  | .archiving oldReport query =>
    HasReport old db old.id ∧ oldReport.id = old.id ∧ InBucket old oldReport ∧
      query ∈ db.queries.rows ∧ query.id = old.queryId ∧ query.ownerAccountId ≠ none
  | .resolving bucket point =>
    IsArchived old db ∧ bucket.Is old ∧ bucket.query ∈ db.queries.rows ∧ bucket.query.ownerAccountId ≠ none ∧
      (point = .refetching → ∃ reportId, HasReport old db reportId)
  | .reading brandNewReportId => IsArchived old db ∧ HasReport old db brandNewReportId
  | .copying brandNewReportId rest =>
    IsArchived old db ∧ HasReport old db brandNewReportId ∧ (∀ r ∈ rest, r.accountId ≠ none) ∧
      ∀ paymentId, Related db old.id paymentId →
        Related db brandNewReportId paymentId ∨ ∃ r ∈ rest, r.paymentId = paymentId
  | .finished => HasReport old db old.id ∨ (IsArchived old db ∧ ∃ brandNewReportId, HasReport old db brandNewReportId ∧
      ∀ paymentId, Related db old.id paymentId → Related db brandNewReportId paymentId)

/-- The payment is in `old`, or in the report of the bucket. -/
def Placed (old : Report ℤ) (db : Db) (paymentId : String) : Prop :=
  Related db old.id paymentId ∨ ∃ reportId, HasReport old db reportId ∧ Related db reportId paymentId

structure RebuildOk (old : Report ℤ) (s : Rebuild) : Prop where
  bucket : BucketOk old s.db
  stage : Stage old s.db s.reconstruction
  handlers : ∀ i, HandlerOk old s.db (s.handlers i)
  handled : ∀ event queries, (event, queries) ∈ s.deliveries → (∃ q ∈ queries, (event.bucket q).Is old) →
    (∃ i, (s.handlers i).Awaits old event.paymentId) ∨ Placed old s.db event.paymentId

section Grow

variable {old : Report ℤ} {db db' : Db}

theorem Placed.grow {paymentId : String} (h : Placed old db paymentId) (hgrows : Grows db db') :
    Placed old db' paymentId := by
  rcases h with h | ⟨reportId, hreport, h⟩
  · exact Or.inl (hgrows.relations _ _ h)
  · exact Or.inr ⟨reportId, hreport.grow hgrows, hgrows.relations _ _ h⟩

theorem HandlerOk.grow {handler : Handler} (h : HandlerOk old db handler) (hgrows : Grows db db') :
    HandlerOk old db' handler := by
  cases handler with
  | idle => trivial
  | resolving event point query rest =>
    obtain ⟨hqueries, harchived, hreport⟩ := h
    refine ⟨fun q hq => hgrows.queries q (hqueries q hq), fun his hne => (harchived his hne).grow hgrows, ?_⟩
    intro his hpoint
    obtain ⟨reportId, h⟩ := hreport his hpoint
    exact ⟨reportId, h.grow hgrows⟩
  | inserting event reportId query rest =>
    exact ⟨fun q hq => hgrows.queries q (h.1 q hq), fun his => (h.2 his).imp_right fun h => h.grow hgrows⟩

/-- A payment of the bucket is in every report of it. -/
theorem related_of_covered (hb : BucketOk old db) {paymentId reportId : String} (h : Covered old db paymentId)
    (hreport : HasReport old db reportId) : Related db reportId paymentId := by
  obtain ⟨_, ⟨r, hr, rfl, hbucket⟩, hrelated⟩ := (covered_iff hb).mp h
  obtain ⟨r', hr', rfl, hbucket'⟩ := hreport
  rwa [hb.single r' hr' r hr hbucket' hbucket]

theorem Stage.grow {r : Reconstruction} (h : Stage old db r) (hb : BucketOk old db) (hgrows : Grows db db')
    (hold : ∀ paymentId, Related db' old.id paymentId →
      Related db old.id paymentId ∨ NotRead old db r ∨ Covered old db paymentId) :
    Stage old db' r := by
  cases r with
  | idle => exact HasReport.grow h hgrows
  | archiving oldReport query =>
    obtain ⟨hreport, hid, hbucket, hquery, hrest⟩ := h
    exact ⟨hreport.grow hgrows, hid, hbucket, hgrows.queries query hquery, hrest⟩
  | resolving bucket point =>
    obtain ⟨harchived, his, hquery, howner, hrefetch⟩ := h
    refine ⟨harchived.grow hgrows, his, hgrows.queries _ hquery, howner, fun hpoint => ?_⟩
    obtain ⟨reportId, h⟩ := hrefetch hpoint
    exact ⟨reportId, h.grow hgrows⟩
  | reading brandNewReportId => exact ⟨h.1.grow hgrows, h.2.grow hgrows⟩
  | copying brandNewReportId rest =>
    obtain ⟨harchived, hreport, haccounts, hcopy⟩ := h
    refine ⟨harchived.grow hgrows, hreport.grow hgrows, haccounts, fun paymentId hrelated => ?_⟩
    rcases hold paymentId hrelated with hbefore | hnot | hcovered
    · exact (hcopy paymentId hbefore).imp_left fun h => hgrows.relations _ _ h
    · exact absurd hnot id
    · exact Or.inl (hgrows.relations _ _ (related_of_covered hb hcovered hreport))
  | finished =>
    rcases h with h | ⟨harchived, brandNewReportId, hreport, hcopy⟩
    · exact Or.inl (h.grow hgrows)
    · refine Or.inr ⟨harchived.grow hgrows, brandNewReportId, hreport.grow hgrows, fun paymentId hrelated => ?_⟩
      rcases hold paymentId hrelated with hbefore | hnot | hcovered
      · exact hgrows.relations _ _ (hcopy paymentId hbefore)
      · exact absurd harchived hnot
      · exact hgrows.relations _ _ (related_of_covered hb hcovered hreport)

theorem Stage.open_or_archived {r : Reconstruction} (h : Stage old db r) :
    HasReport old db old.id ∨ IsArchived old db := by
  cases r with
  | idle => exact Or.inl h
  | finished => exact h.imp_right fun h => h.1
  | archiving => exact Or.inl h.1
  | _ => exact Or.inr h.1

end Grow

/-! ## One step -/

section Step

variable {old : Report ℤ} {s s' : Rebuild} {db : Db} {i : ℕ} {id now : String}

@[simp] theorem awaits_idle {paymentId : String} : ¬ Handler.Awaits old paymentId .idle := id

theorem awaits_loop {event : Event} {rest : List ReportQuery} {paymentId : String} (hpayment : event.paymentId = paymentId)
    (h : ∃ q ∈ rest, (event.bucket q).Is old) : (Handler.loop event rest).Awaits old paymentId := by
  cases rest with
  | nil => simp at h
  | cons query rest => exact ⟨hpayment, h⟩

theorem handler_ok_loop {event : Event} {rest : List ReportQuery} (h : ∀ q ∈ rest, q ∈ db.queries.rows) :
    HandlerOk old db (.loop event rest) := by
  cases rest with
  | nil => trivial
  | cons query rest => exact ⟨h, fun _ hne => absurd rfl hne, fun _ hpoint => absurd hpoint (by decide)⟩

/-- A handler moves, and the database grows. -/
theorem RebuildOk.move (h : RebuildOk old s) {next : Handler} (hgrows : Grows s.db db) (hb : BucketOk old db)
    (hold : ∀ paymentId, Related db old.id paymentId →
      Related s.db old.id paymentId ∨ NotRead old s.db s.reconstruction ∨ Covered old s.db paymentId)
    (hnext : HandlerOk old db next)
    (hawaits : ∀ paymentId, (s.handlers i).Awaits old paymentId →
      next.Awaits old paymentId ∨ Placed old db paymentId) :
    RebuildOk old ((s.setDb db).setHandler i next) := by
  refine ⟨hb, h.stage.grow h.bucket hgrows hold, fun j => ?_, fun event queries hdelivered hmatch => ?_⟩
  · by_cases hj : j = i
    · subst hj
      simpa [Rebuild.setHandler, Rebuild.setDb] using hnext
    · simpa [Rebuild.setHandler, Rebuild.setDb, Function.update_of_ne hj] using (h.handlers j).grow hgrows
  · rcases h.handled event queries hdelivered hmatch with ⟨j, hj⟩ | hplaced
    · by_cases hji : j = i
      · subst hji
        refine (hawaits event.paymentId hj).imp_left fun hnext => ⟨j, ?_⟩
        simpa [Rebuild.setHandler, Rebuild.setDb] using hnext
      · refine Or.inl ⟨j, ?_⟩
        simpa [Rebuild.setHandler, Rebuild.setDb, Function.update_of_ne hji] using hj
    · exact Or.inr (hplaced.grow hgrows)

theorem find_step_thrown {b : Bucket} {point : FindPoint} (h : (findStep db b id point).2 = .thrown) :
    b.current db = none ∧ ((point = .finding ∧ b.query.ownerAccountId = none) ∨ point = .refetching) := by
  cases point with
  | finding =>
    unfold findStep at h
    cases hcurrent : b.current db with
    | some r => simp [hcurrent] at h
    | none =>
      simp only [hcurrent] at h
      split at h <;> simp_all
  | creating =>
    unfold findStep at h
    simp only at h
    split at h <;> simp at h
  | refetching =>
    unfold findStep at h
    cases hcurrent : b.current db with
    | some r => simp [hcurrent] at h
    | none => simp

theorem resolve_step_ok (h : RebuildOk old s) (hid : s.db.reports.find id = none)
    (hmeets : Orderly old s (.advance i id)) {event : Event} {point : FindPoint} {query : ReportQuery}
    {rest : List ReportQuery} (hhandler : s.handlers i = .resolving event point query rest)
    (hstep : advanceHandler s i id = some s') : RebuildOk old s' := by
  have hok := h.handlers i
  rw [hhandler] at hok
  obtain ⟨hqueries, harchived, hrefetch⟩ := hok
  have hquery : (event.bucket query).query ∈ s.db.queries.rows := hqueries query List.mem_cons_self
  obtain ⟨hgrows, hb, hrelations, hresolved⟩ :=
    find_step_spec h.bucket hquery hid harchived h.stage.open_or_archived
  simp only [advanceHandler, hhandler, Option.some.injEq] at hstep
  subst hstep
  refine h.move hgrows hb (fun paymentId hrelated => ?_) ?_ fun paymentId hawaits => ?_
  · rw [Related, hrelations] at hrelated
    exact Or.inl hrelated
  · have hqueries' : ∀ q ∈ query :: rest, q ∈ (findStep s.db (event.bucket query) id point).1.queries.rows :=
      fun q hq => hgrows.queries q (hqueries q hq)
    cases hresult : (findStep s.db (event.bucket query) id point).2 with
    | thrown => trivial
    | found reportId =>
      rw [hresult] at hresolved
      exact ⟨hqueries', fun his => Or.inr (hresolved his)⟩
    | next point' =>
      rw [hresult] at hresolved
      refine ⟨hqueries', fun his hne => ?_, fun his hpoint => ?_⟩
      · cases point' with
        | finding => exact absurd rfl hne
        | creating => exact hresolved his
        | refetching => exact (hresolved his).1
      · subst hpoint
        exact (hresolved his).2
  · rw [hhandler] at hawaits
    cases hresult : (findStep s.db (event.bucket query) id point).2 with
    | next point' => exact Or.inl hawaits
    | found reportId => exact Or.inl hawaits
    | thrown =>
      exfalso
      obtain ⟨hcurrent, hwhy⟩ := find_step_thrown hresult
      simp only [Orderly, hhandler] at hmeets
      rcases hwhy with ⟨rfl, howner⟩ | rfl
      · rcases hmeets hawaits.2 with hsome | hne
        · simp [hcurrent] at hsome
        · exact hne howner
      · rcases hmeets hawaits.2 with his | hsome
        · obtain ⟨reportId, hreport⟩ := hrefetch his rfl
          exact no_report_of_current h.bucket his hcurrent reportId hreport
        · simp [hcurrent] at hsome

theorem insert_single_none {reportId paymentId : String} {accountId : Option String}
    (h : outcome (insertPaymentToReportDigestionSingle reportId paymentId accountId) db = none) (haccount : accountId ≠ none) :
    Related db reportId paymentId := by
  by_contra hnew
  have hsome := insert_single_outcome.mpr ⟨haccount, hnew, rfl⟩
  rw [h] at hsome
  cases hsome

theorem placed_of_related {reportId paymentId : String} (h : reportId = old.id ∨ HasReport old db reportId)
    (hrelated : Related db reportId paymentId) : Placed old db paymentId := by
  rcases h with rfl | h
  · exact Or.inl hrelated
  · exact Or.inr ⟨reportId, h, hrelated⟩

theorem insert_step_ok (h : RebuildOk old s) (hmeets : Orderly old s (.advance i id)) {event : Event} {reportId : String}
    {query : ReportQuery} {rest : List ReportQuery} (hhandler : s.handlers i = .inserting event reportId query rest)
    (hstep : advanceHandler s i id = some s') : RebuildOk old s' := by
  have hok := h.handlers i
  rw [hhandler] at hok
  obtain ⟨hqueries, htarget⟩ := hok
  simp only [Orderly, hhandler] at hmeets
  obtain ⟨hread, howner, hduplicate⟩ := hmeets
  simp only [advanceHandler, hhandler] at hstep
  split at hstep <;> rename_i houtcome <;> simp only [Option.some.injEq] at hstep <;> subst hstep
  · obtain ⟨haccount, hnew, rfl⟩ := insert_single_outcome.mp houtcome
    have hgrows : Grows s.db { s.db with
        relations := s.db.relations.save ⟨reportId, event.paymentId, query.ownerAccountId, .waiting, ""⟩ } :=
      grows_saved reportId event.paymentId query.ownerAccountId
    refine h.move hgrows (h.bucket.save_relation haccount) (fun paymentId hrelated => ?_)
      (handler_ok_loop fun q hq => hqueries q (List.mem_cons_of_mem _ hq)) fun paymentId hawaits => ?_
    · rcases related_saved.mp hrelated with ⟨hold, rfl⟩ | hbefore
      · rcases hread hold.symm with hnot | hcovered | hbefore
        · exact Or.inr (Or.inl hnot)
        · exact Or.inr (Or.inr hcovered)
        · exact Or.inl hbefore
      · exact Or.inl hbefore
    · rw [hhandler] at hawaits
      obtain ⟨rfl, q, hq, his⟩ := hawaits
      rcases List.mem_cons.mp hq with rfl | hq
      · have htarget' := (htarget his).imp_right fun hreport => hreport.grow hgrows
        exact Or.inr (placed_of_related htarget' (related_saved.mpr (Or.inl ⟨rfl, rfl⟩)))
      · exact Or.inl (awaits_loop rfl ⟨q, hq, his⟩)
  · have hidle : HandlerOk old s.db .idle := trivial
    have hmove := h.move (i := i) (.refl s.db) h.bucket (fun paymentId hrelated => Or.inl hrelated) hidle
      fun paymentId hawaits => ?_
    · exact hmove
    · rw [hhandler] at hawaits
      obtain ⟨rfl, q, hq, his⟩ := hawaits
      have hrelated := insert_single_none houtcome (howner ⟨q, hq, his⟩)
      rcases List.mem_cons.mp hq with rfl | hq
      · exact Or.inr (placed_of_related (htarget his) hrelated)
      · rcases hduplicate ⟨q, hq, his⟩ with his' | hnew
        · exact Or.inr (placed_of_related (htarget his') hrelated)
        · exact absurd hrelated hnew

theorem deliver_step_ok (h : RebuildOk old s) {event : Event} {queries : List ReportQuery}
    (hstep : rebuildStep old.id s (.deliver i event queries) = some s') : RebuildOk old s' := by
  unfold rebuildStep at hstep
  simp only at hstep
  split at hstep <;> rename_i hhandler
  · split at hstep <;> rename_i hqueries <;> simp only [Option.some.injEq, reduceCtorEq] at hstep
    subst hstep
    have hnext : HandlerOk old s.db (.loop event queries) := handler_ok_loop hqueries
    have hmove := h.move (i := i) (.refl s.db) h.bucket (fun paymentId hrelated => Or.inl hrelated) hnext
      fun paymentId hawaits => absurd hawaits (by simp [hhandler])
    refine ⟨hmove.bucket, hmove.stage, hmove.handlers, fun event' queries' hdelivered hmatch => ?_⟩
    rcases List.mem_cons.mp hdelivered with hnew | hbefore
    · obtain ⟨rfl, rfl⟩ := Prod.mk.inj hnew
      refine Or.inl ⟨i, ?_⟩
      simpa [Rebuild.setHandler] using awaits_loop rfl hmatch
    · exact hmove.handled event' queries' hbefore hmatch
  · simp at hstep

theorem edit_step_ok (h : RebuildOk old s) {db : Db} (hsame : SameBuckets s.db db) : RebuildOk old (s.setDb db) := by
  have hgrows := hsame.grows
  refine ⟨hsame.bucket_ok h.bucket, h.stage.grow h.bucket hgrows fun paymentId hrelated => Or.inl (hsame.related hrelated),
    fun i => (h.handlers i).grow hgrows, fun event queries hdelivered hmatch => ?_⟩
  exact (h.handled event queries hdelivered hmatch).imp_right fun hplaced => hplaced.grow hgrows

/-! ## One step of the reconstruction -/

/-- The reconstruction moves, and the database grows. -/
theorem RebuildOk.move_reconstruction (h : RebuildOk old s) {next : Reconstruction} (hgrows : Grows s.db db)
    (hb : BucketOk old db) (hstage : Stage old db next) : RebuildOk old ((s.setDb db).setReconstruction next) := by
  refine ⟨hb, hstage, fun i => (h.handlers i).grow hgrows, fun event queries hdelivered hmatch => ?_⟩
  exact (h.handled event queries hdelivered hmatch).imp_right fun hplaced => hplaced.grow hgrows

theorem RebuildOk.set_reconstruction (h : RebuildOk old s) {next : Reconstruction} (hstage : Stage old s.db next) :
    RebuildOk old (s.setReconstruction next) :=
  h.move_reconstruction (.refl s.db) h.bucket hstage

theorem load_for_reconstruction_spec {oldReport : Report ℤ} {query : ReportQuery}
    (h : loadForReconstruction db old.id = some (oldReport, query)) :
    oldReport ∈ db.reports.rows ∧ oldReport.id = old.id ∧ query ∈ db.queries.rows ∧ query.id = oldReport.queryId ∧
      query.ownerAccountId ≠ none := by
  simp only [loadForReconstruction, Option.bind_eq_bind, Option.bind_eq_some_iff] at h
  obtain ⟨report, hreport, found, hquery, h⟩ := h
  split at h <;> simp only [reduceCtorEq, Option.some.injEq, Prod.mk.injEq] at h
  rename_i howner
  obtain ⟨rfl, rfl⟩ := h
  obtain ⟨hmem, hid⟩ := Table.find_eq_some_iff.mp hreport
  obtain ⟨hmem', hid'⟩ := Table.find_eq_some_iff.mp hquery
  exact ⟨hmem, hid, hmem', hid', fun hnone => howner (Or.inl hnone)⟩

theorem start_step_ok (h : RebuildOk old s) (hstep : rebuildStep old.id s .reportReconstruct = some s') :
    RebuildOk old s' := by
  unfold rebuildStep at hstep
  simp only at hstep
  split at hstep
  · rename_i hidle
    have hopen := h.stage
    rw [hidle] at hopen
    split at hstep <;> simp only [Option.some.injEq] at hstep <;> subst hstep
    · rename_i oldReport query hload
      obtain ⟨hmem, hid, hquery, hqueryId, howner⟩ := load_for_reconstruction_spec hload
      have hbucket : InBucket old oldReport := by
        obtain ⟨r, hr, hid', hbucket⟩ := hopen
        exact report_eq_of_id hr hmem (hid'.trans hid.symm) ▸ hbucket
      exact h.set_reconstruction ⟨hopen, hid, hbucket, hquery, hqueryId.trans hbucket.1, howner⟩
    · exact h.set_reconstruction (Or.inl hopen)
  · simp at hstep

theorem archived_not_in_bucket {oldReport : Report ℤ} (hbucket : InBucket old oldReport) :
    ¬ InBucket old (archivedReport oldReport now) := by
  intro h
  have hlabel : oldReport.periodLabel ++ "_OLD_" ++ now = oldReport.periodLabel := h.2.1.trans hbucket.2.1.symm
  have hlength := congrArg String.length hlabel
  have hsuffix : "_OLD_".length = 5 := rfl
  simp only [String.length_append] at hlength
  omega

/-- The bucket is empty once the old report has its new label. -/
theorem archive_step_ok (h : RebuildOk old s) {oldReport : Report ℤ} {query : ReportQuery}
    (hreconstruction : s.reconstruction = .archiving oldReport query)
    (hstep : advanceReconstruction old.id s id now = some s') : RebuildOk old s' := by
  have hstage := h.stage
  rw [hreconstruction] at hstage
  obtain ⟨hopen, hid, hbucket, hquery, hqueryId, howner⟩ := hstage
  simp only [advanceReconstruction, hreconstruction] at hstep
  split at hstep <;> simp only [Option.some.injEq] at hstep <;> subst hstep
  · exact h.set_reconstruction (Or.inl hopen)
  · obtain ⟨r₀, hr₀, hid₀, hbucket₀⟩ := hopen
    have hmem : ∀ r, r ∈ (s.db.reports.save (archivedReport oldReport now)).rows →
        r = archivedReport oldReport now ∨ (r ∈ s.db.reports.rows ∧ r.id ≠ old.id) := by
      intro r hr
      rcases Table.mem_save.mp hr with hr | ⟨hr, hne⟩
      · exact Or.inl hr
      · exact Or.inr ⟨hr, fun heq => hne (heq.trans hid.symm)⟩
    have hempty : ∀ r ∈ (s.db.reports.save (archivedReport oldReport now)).rows, ¬ InBucket old r := by
      intro r hr hin
      rcases hmem r hr with rfl | ⟨hr, hne⟩
      · exact archived_not_in_bucket hbucket hin
      · exact hne ((h.bucket.single r hr r₀ hr₀ hin hbucket₀).trans hid₀)
    have harchived : IsArchived old { s.db with reports := s.db.reports.save (archivedReport oldReport now) } :=
      ⟨archivedReport oldReport now, Table.mem_save.mpr (Or.inl rfl), hid, archived_not_in_bucket hbucket⟩
    have hnot : ¬ IsArchived old s.db := by
      intro hold
      exact not_has_report_of_archived hold ⟨r₀, hr₀, hid₀, hbucket₀⟩
    have honly : ∀ reportId, HasReport old s.db reportId → reportId = old.id := by
      rintro _ ⟨r, hr, rfl, hin⟩
      exact (h.bucket.single r hr r₀ hr₀ hin hbucket₀).trans hid₀
    refine ⟨⟨?_, ?_, ?_, h.bucket.accounts⟩, ?_, fun i => ?_, fun event queries hdelivered hmatch => ?_⟩
    · exact fun r hr _ _ hin => absurd hin (hempty r hr)
    · exact fun r hr hin => absurd hin (hempty r hr)
    · exact fun r hr hin => absurd hin (hempty r hr)
    · exact ⟨harchived, ⟨hqueryId, hbucket.2.1, hbucket.2.2⟩, hquery, howner, fun hpoint => absurd hpoint (by decide)⟩
    · have hok := h.handlers i
      show HandlerOk old _ (s.handlers i)
      cases hhandler : s.handlers i with
      | idle => trivial
      | resolving event point query' rest =>
        rw [hhandler] at hok
        obtain ⟨hqueries, hbefore, -⟩ := hok
        refine ⟨hqueries, fun _ _ => harchived, fun his hpoint => ?_⟩
        exact absurd (hbefore his (by rw [hpoint]; decide)) hnot
      | inserting event reportId query' rest =>
        rw [hhandler] at hok
        exact ⟨hok.1, fun his => Or.inl ((hok.2 his).elim (fun heq => heq) (honly reportId))⟩
    · refine (h.handled event queries hdelivered hmatch).imp_right fun hplaced => Or.inl ?_
      rcases hplaced with hrelated | ⟨reportId, hreport, hrelated⟩
      · exact hrelated
      · exact honly reportId hreport ▸ hrelated

theorem reconstruction_resolve_step_ok (h : RebuildOk old s) (hid : s.db.reports.find id = none) {bucket : Bucket}
    {point : FindPoint} (hreconstruction : s.reconstruction = .resolving bucket point)
    (hstep : advanceReconstruction old.id s id now = some s') : RebuildOk old s' := by
  have hstage := h.stage
  rw [hreconstruction] at hstage
  obtain ⟨harchived, his, hquery, howner, hrefetch⟩ := hstage
  obtain ⟨hgrows, hb, hrelations, hresolved⟩ :=
    find_step_spec h.bucket hquery hid (fun _ (_ : point ≠ .finding) => harchived) (Or.inr harchived)
  simp only [advanceReconstruction, hreconstruction, Option.some.injEq] at hstep
  subst hstep
  refine h.move_reconstruction hgrows hb ?_
  have hresolved := hresolved his
  cases hresult : (findStep s.db bucket id point).2 with
  | found reportId =>
    rw [hresult] at hresolved
    exact ⟨harchived.grow hgrows, hresolved⟩
  | next point' =>
    rw [hresult] at hresolved
    refine ⟨harchived.grow hgrows, his, hgrows.queries _ hquery, howner, fun hpoint => ?_⟩
    subst hpoint
    exact hresolved.2
  | thrown =>
    exfalso
    obtain ⟨hcurrent, ⟨-, hnone⟩ | rfl⟩ := find_step_thrown hresult
    · exact howner hnone
    · obtain ⟨reportId, hreport⟩ := hrefetch rfl
      exact no_report_of_current h.bucket his hcurrent reportId hreport

theorem copy_step_ok (h : RebuildOk old s) (hmeets : Orderly old s (.advanceReconstruct id now))
    {brandNewReportId : String} {relation : ReportPaymentRelation} {rest : List ReportPaymentRelation}
    (hreconstruction : s.reconstruction = .copying brandNewReportId (relation :: rest))
    (hstep : advanceReconstruction old.id s id now = some s') : RebuildOk old s' := by
  have hstage := h.stage
  rw [hreconstruction] at hstage
  obtain ⟨harchived, hreport, haccounts, hcopy⟩ := hstage
  have haccount := haccounts relation List.mem_cons_self
  simp only [Orderly, hreconstruction] at hmeets
  simp only [advanceReconstruction, hreconstruction] at hstep
  split at hstep <;> rename_i houtcome <;> simp only [Option.some.injEq] at hstep <;> subst hstep
  · obtain ⟨-, -, rfl⟩ := insert_single_outcome.mp houtcome
    have hgrows : Grows s.db { s.db with
        relations := s.db.relations.save ⟨brandNewReportId, relation.paymentId, relation.accountId, .waiting, ""⟩ } :=
      grows_saved brandNewReportId relation.paymentId relation.accountId
    refine h.move_reconstruction hgrows (h.bucket.save_relation haccount) ⟨harchived.grow hgrows, hreport.grow hgrows,
      fun r hr => haccounts r (List.mem_cons_of_mem _ hr), fun paymentId hrelated => ?_⟩
    have hbefore : Related s.db old.id paymentId := by
      rcases related_saved.mp hrelated with ⟨hold, -⟩ | hbefore
      · exact absurd (hold ▸ hreport) (not_has_report_of_archived harchived)
      · exact hbefore
    rcases hcopy paymentId hbefore with hnew | ⟨r, hr, rfl⟩
    · exact Or.inl (hgrows.relations _ _ hnew)
    · rcases List.mem_cons.mp hr with rfl | hr
      · exact Or.inl (related_saved.mpr (Or.inl ⟨rfl, rfl⟩))
      · exact Or.inr ⟨r, hr, rfl⟩
  · have hrelated := insert_single_none houtcome haccount
    refine h.set_reconstruction (Or.inr ⟨harchived, brandNewReportId, hreport, fun paymentId hold => ?_⟩)
    rcases hcopy paymentId hold with hnew | ⟨r, hr, rfl⟩
    · exact hnew
    · rcases List.mem_cons.mp hr with rfl | hr
      · exact hrelated
      · exact hmeets hrelated r hr

theorem reconstruction_step_ok (h : RebuildOk old s) (hid : s.db.reports.find id = none)
    (hmeets : Orderly old s (.advanceReconstruct id now))
    (hstep : advanceReconstruction old.id s id now = some s') : RebuildOk old s' := by
  cases hreconstruction : s.reconstruction with
  | idle => simp [advanceReconstruction, hreconstruction] at hstep
  | finished => simp [advanceReconstruction, hreconstruction] at hstep
  | archiving oldReport query => exact archive_step_ok h hreconstruction hstep
  | resolving bucket point => exact reconstruction_resolve_step_ok h hid hreconstruction hstep
  | reading brandNewReportId =>
    have hstage := h.stage
    rw [hreconstruction] at hstage
    simp only [advanceReconstruction, hreconstruction, Option.some.injEq] at hstep
    subst hstep
    refine h.set_reconstruction ⟨hstage.1, hstage.2, fun r hr => ?_, fun paymentId hrelated => Or.inr ?_⟩
    · exact h.bucket.accounts r (List.mem_filter.mp hr).1
    · obtain ⟨r, hr⟩ := Option.isSome_iff_exists.mp hrelated
      obtain ⟨hmem, hkey⟩ := Table.find_eq_some_iff.mp hr
      obtain ⟨hreport, hpayment⟩ := Prod.mk.inj hkey
      exact ⟨r, List.mem_filter.mpr ⟨hmem, by simpa using hreport⟩, hpayment⟩
  | copying brandNewReportId rest =>
    cases rest with
    | cons relation rest => exact copy_step_ok h hmeets hreconstruction hstep
    | nil =>
      have hstage := h.stage
      rw [hreconstruction] at hstage
      obtain ⟨harchived, hreport, -, hcopy⟩ := hstage
      simp only [advanceReconstruction, hreconstruction, Option.some.injEq] at hstep
      subst hstep
      refine h.set_reconstruction (Or.inr ⟨harchived, brandNewReportId, hreport, fun paymentId hold => ?_⟩)
      exact (hcopy paymentId hold).resolve_right (by simp)

theorem rebuild_step_ok {act : RebuildAct} (h : RebuildOk old s) (hmeets : Orderly old s act)
    (hstep : rebuildStep old.id s act = some s') : RebuildOk old s' := by
  cases act with
  | deliver i event queries => exact deliver_step_ok h hstep
  | reportReconstruct => exact start_step_ok h hstep
  | edit db =>
    simp only [rebuildStep] at hstep
    split at hstep <;> rename_i hsame <;> simp only [Option.some.injEq, reduceCtorEq] at hstep
    subst hstep
    exact edit_step_ok h hsame
  | advance i id =>
    simp only [rebuildStep] at hstep
    split at hstep <;> rename_i hid
    · simp at hstep
    · have hid' := Option.not_isSome_iff_eq_none.mp hid
      cases hhandler : s.handlers i with
      | idle => simp [advanceHandler, hhandler] at hstep
      | resolving event point query rest => exact resolve_step_ok h hid' hmeets hhandler hstep
      | inserting event reportId query rest => exact insert_step_ok h hmeets hhandler hstep
  | advanceReconstruct id now =>
    simp only [rebuildStep] at hstep
    split at hstep <;> rename_i hid
    · simp at hstep
    · exact reconstruction_step_ok h (Option.not_isSome_iff_eq_none.mp hid) hmeets hstep

theorem run_rebuild_ok {actions : List RebuildAct} (h : RebuildOk old s)
    (hmeets : Meets (rebuildStep old.id) (Orderly old) s actions)
    (hrun : run (rebuildStep old.id) s actions = some s') : RebuildOk old s' :=
  run_invariant_of_meets (fun _ _ _ h hmeets hstep => rebuild_step_ok h hmeets hstep) h hmeets hrun

end Step

/-! ## What a run leaves alone -/

/-- The action is one of handler `i`. -/
def RebuildAct.Moves (i : ℕ) : RebuildAct → Prop
  | .deliver j .. | .advance j _ => j = i
  | _ => False

section Frame

variable {oldId : String} {s s' : Rebuild} {actions : List RebuildAct}

theorem advance_reconstruction_frame {id now : String} (h : advanceReconstruction oldId s id now = some s') :
    s'.handlers = s.handlers ∧ s'.deliveries = s.deliveries := by
  unfold advanceReconstruction at h
  split at h
  · simp at h
  · simp at h
  · dsimp only at h
    split at h <;> (cases h; exact ⟨rfl, rfl⟩)
  · cases h
    exact ⟨rfl, rfl⟩
  · cases h
    exact ⟨rfl, rfl⟩
  · cases h
    exact ⟨rfl, rfl⟩
  · split at h <;> (cases h; exact ⟨rfl, rfl⟩)

theorem advance_handler_frame {i : ℕ} {id : String} (h : advanceHandler s i id = some s') :
    (∀ j, j ≠ i → s'.handlers j = s.handlers j) ∧ s'.deliveries = s.deliveries := by
  unfold advanceHandler at h
  split at h
  · simp at h
  · cases h
    exact ⟨fun j hj => Function.update_of_ne hj _ _, rfl⟩
  · split at h <;> (cases h; exact ⟨fun j hj => Function.update_of_ne hj _ _, rfl⟩)

/-- A step leaves the other handlers, and appends to the history what it delivers. -/
theorem rebuild_step_frame {act : RebuildAct} (h : rebuildStep oldId s act = some s') :
    (∀ i, ¬ act.Moves i → s'.handlers i = s.handlers i) ∧ (∀ d ∈ s.deliveries, d ∈ s'.deliveries) ∧
    ∀ i event queries, act = .deliver i event queries → (event, queries) ∈ s'.deliveries := by
  cases act with
  | deliver i event queries =>
    simp only [rebuildStep] at h
    split at h
    · split at h
      · cases h
        refine ⟨fun j hj => Function.update_of_ne (fun heq => hj heq.symm) _ _, fun d hd => List.mem_cons_of_mem _ hd, ?_⟩
        intro _ _ _ heq
        cases heq
        exact List.mem_cons_self
      · simp at h
    · simp at h
  | advance i id =>
    simp only [rebuildStep] at h
    split at h
    · simp at h
    · obtain ⟨hhandlers, hdeliveries⟩ := advance_handler_frame h
      exact ⟨fun j hj => hhandlers j fun heq => hj heq.symm, fun d hd => hdeliveries ▸ hd, by simp⟩
  | reportReconstruct =>
    simp only [rebuildStep] at h
    split at h
    · split at h <;> (cases h; exact ⟨fun _ _ => rfl, fun _ hd => hd, by simp⟩)
    · simp at h
  | advanceReconstruct id now =>
    simp only [rebuildStep] at h
    split at h
    · simp at h
    · obtain ⟨hhandlers, hdeliveries⟩ := advance_reconstruction_frame h
      exact ⟨fun j _ => congrFun hhandlers j, fun d hd => hdeliveries ▸ hd, by simp⟩
  | edit db =>
    simp only [rebuildStep] at h
    split at h
    · cases h
      exact ⟨fun _ _ => rfl, fun _ hd => hd, by simp⟩
    · simp at h

theorem run_handlers {i : ℕ} (hacts : ∀ act ∈ actions, ¬ act.Moves i) (hrun : run (rebuildStep oldId) s actions = some s') :
    s'.handlers i = s.handlers i := by
  induction actions generalizing s with
  | nil =>
    cases hrun
    rfl
  | cons act actions ih =>
    obtain ⟨t, hstep, hrest⟩ := run_cons_eq_some.mp hrun
    rw [ih (fun a ha => hacts a (List.mem_cons_of_mem _ ha)) hrest]
    exact (rebuild_step_frame hstep).1 i (hacts act List.mem_cons_self)

theorem run_deliveries (hrun : run (rebuildStep oldId) s actions = some s') :
    (∀ d ∈ s.deliveries, d ∈ s'.deliveries) ∧
    ∀ i event queries, RebuildAct.deliver i event queries ∈ actions → (event, queries) ∈ s'.deliveries := by
  induction actions generalizing s with
  | nil =>
    cases hrun
    exact ⟨fun _ hd => hd, by simp⟩
  | cons act actions ih =>
    obtain ⟨t, hstep, hrest⟩ := run_cons_eq_some.mp hrun
    obtain ⟨hkeep, hlater⟩ := ih hrest
    obtain ⟨-, hbefore, hnow⟩ := rebuild_step_frame hstep
    refine ⟨fun d hd => hkeep d (hbefore d hd), fun i event queries hmem => ?_⟩
    rcases List.mem_cons.mp hmem with heq | hmem
    · exact hkeep _ (hnow i event queries heq.symm)
    · exact hlater i event queries hmem

end Frame

instance (handler : Handler) : Decidable (handler = .idle) := by
  cases handler with
  | idle => exact .isTrue rfl
  | _ => exact .isFalse (by simp)

/-! ## The reconstruction loses no payment -/

def startRebuild (db : Db) : Rebuild := ⟨db, fun _ => .idle, .idle, []⟩

theorem start_rebuild_ok {old : Report ℤ} {db : Db} (hold : old ∈ db.reports.rows) (hopen : old.archived = false)
    (hone : ∀ r ∈ db.reports.rows, InBucket old r → r = old) (haccounts : ∀ r ∈ db.relations.rows, r.accountId ≠ none) :
    RebuildOk old (startRebuild db) := by
  refine ⟨⟨?_, ?_, ?_, haccounts⟩, ⟨old, hold, rfl, rfl, rfl, rfl⟩, fun _ => trivial, fun _ _ h => absurd h (by simp [startRebuild])⟩
  · intro r hr r' hr' hbucket hbucket'
    rw [hone r hr hbucket, hone r' hr' hbucket']
  · intro r hr hbucket
    rw [hone r hr hbucket]
    exact hopen
  · intro r hr hbucket hne
    exact absurd (congrArg Report.id (hone r hr hbucket)) hne

/-- What is in the old report is in the current one, once the reconstruction has finished. -/
theorem covered_of_related {old : Report ℤ} {s : Rebuild} (h : RebuildOk old s)
    (hdone : s.reconstruction = .idle ∨ s.reconstruction = .finished) {paymentId : String}
    (hrelated : Related s.db old.id paymentId) : Covered old s.db paymentId := by
  have hstage := h.stage
  rw [covered_iff h.bucket]
  rcases hdone with hidle | hfinished
  · rw [hidle] at hstage
    exact ⟨old.id, hstage, hrelated⟩
  · rw [hfinished] at hstage
    rcases hstage with hopen | ⟨-, brandNewReportId, hreport, hcopy⟩
    · exact ⟨old.id, hopen, hrelated⟩
    · exact ⟨brandNewReportId, hreport, hcopy paymentId hrelated⟩

/-- **Reconstruction.** When the reconstruction and the handlers have finished, the report that is not archived
has every payment of the old one and every payment that a handler had for its query, period and currency. -/
theorem reconstruct_loses_no_payment (old : Report ℤ) (db : Db) (actions : List RebuildAct) (s : Rebuild)
    (hold : old ∈ db.reports.rows) (hopen : old.archived = false)
    (hone : ∀ r ∈ db.reports.rows, InBucket old r → r = old) (haccounts : ∀ r ∈ db.relations.rows, r.accountId ≠ none)
    (hrun : run (rebuildStep old.id) (startRebuild db) actions = some s)
    (hmeets : Meets (rebuildStep old.id) (Orderly old) (startRebuild db) actions)
    (hdone : s.reconstruction = .idle ∨ s.reconstruction = .finished) (hhandlers : ∀ i, s.handlers i = .idle) :
    (∀ paymentId, Related s.db old.id paymentId → Covered old s.db paymentId) ∧
    ∀ i event queries, RebuildAct.deliver i event queries ∈ actions → (∃ query ∈ queries, (event.bucket query).Is old) →
      Covered old s.db event.paymentId := by
  have hok := run_rebuild_ok (start_rebuild_ok hold hopen hone haccounts) hmeets hrun
  refine ⟨fun paymentId hrelated => covered_of_related hok hdone hrelated, ?_⟩
  intro i event queries hdelivered hmatch
  rcases hok.handled event queries ((run_deliveries hrun).2 i event queries hdelivered) hmatch with ⟨i, hawaits⟩ | hrelated | hreport
  · rw [hhandlers i] at hawaits
    exact absurd hawaits awaits_idle
  · exact covered_of_related hok hdone hrelated
  · exact (covered_iff hok.bucket).mpr hreport

/-! ## A handler that has resolved the report before it is archived -/

def dailySales : ReportQuery := ⟨"ana-seller", some "ana", some "TRY", .daily, .seller⟩

def dayReport : Report ℤ := newReport "report-1" dailySales "2026-01-05" "TRY"

def dayDb : Db :=
  { Db.empty with
    queries := Table.empty.saveAll [dailySales]
    reports := Table.empty.saveAll [dayReport]
    relations := Table.empty.saveAll [⟨"report-1", "sale-1", some "ana", .completed, ""⟩] }

def saleEvent (paymentId : String) : Event := ⟨paymentId, "TRY", fun _ => "2026-01-05"⟩

/-- Archives `report-1`, creates `report-2` and copies the relations. -/
def reconstruct (relations : ℕ) : List RebuildAct :=
  [.reportReconstruct] ++ List.replicate 3 (.advanceReconstruct "report-2" "1767600000000") ++
    List.replicate (2 + relations) (.advanceReconstruct "report-3" "1767600000000")

/-- The handler of `sale-2` finds the report before the reconstruction and inserts after it. -/
def lateInsert : List RebuildAct :=
  [.deliver 0 (saleEvent "sale-2") [dailySales], .advance 0 "report-3"] ++ reconstruct 1 ++ [.advance 0 "report-3"]

theorem reconstruct_loses_payment : ∃ s, run (rebuildStep "report-1") (startRebuild dayDb) lateInsert = some s ∧
    s.reconstruction = .finished ∧ (∀ i, s.handlers i = .idle) ∧ Related s.db "report-1" "sale-2" ∧
    ¬ Covered dayReport s.db "sale-2" := by
  have hrun : ∃ s ∈ run (rebuildStep "report-1") (startRebuild dayDb) lateInsert, s.reconstruction = .finished ∧
      s.handlers 0 = .idle ∧ Related s.db "report-1" "sale-2" ∧ ¬ Covered dayReport s.db "sale-2" := by decide +kernel
  obtain ⟨s, hs, hfinished, hidle, hresult⟩ := hrun
  refine ⟨s, hs, hfinished, fun i => ?_, hresult⟩
  by_cases hi : i = 0
  · rw [hi, hidle]
  · exact (run_handlers (by simp [lateInsert, reconstruct, RebuildAct.Moves, Ne.symm hi]) hs).trans rfl

/-- The handler inserts before the copy reads the relations, and another one after it. -/
def earlyInsert : List RebuildAct :=
  [.deliver 0 (saleEvent "sale-2") [dailySales], .advance 0 "report-3", .advance 0 "report-3"] ++ reconstruct 2 ++
    [.deliver 0 (saleEvent "sale-3") [dailySales], .advance 0 "report-3", .advance 0 "report-3"]

theorem reconstruct_loses_no_payment_sample : ∃ s, run (rebuildStep "report-1") (startRebuild dayDb) earlyInsert = some s ∧
    ∀ paymentId ∈ ["sale-1", "sale-2", "sale-3"], Covered dayReport s.db paymentId := by
  have hrun : ∃ s ∈ run (rebuildStep "report-1") (startRebuild dayDb) earlyInsert, s.reconstruction = .finished ∧
      s.handlers 0 = .idle ∧ Related s.db "report-1" "sale-1" := by decide +kernel
  obtain ⟨s, hs, hfinished, hidle, hold⟩ := hrun
  have hhandlers : ∀ i, s.handlers i = .idle := by
    intro i
    by_cases hi : i = 0
    · rw [hi, hidle]
    · exact (run_handlers (by simp [earlyInsert, reconstruct, RebuildAct.Moves, Ne.symm hi]) hs).trans rfl
  have hmeets : Meets (rebuildStep "report-1") (Orderly dayReport) (startRebuild dayDb) earlyInsert := by decide +kernel
  obtain ⟨hcopied, hhandled⟩ := reconstruct_loses_no_payment dayReport dayDb earlyInsert s (by decide) rfl (by decide)
    (by decide) hs hmeets (Or.inr hfinished) hhandlers
  refine ⟨s, hs, fun paymentId hpayment => ?_⟩
  simp only [List.mem_cons, List.not_mem_nil, or_false] at hpayment
  rcases hpayment with rfl | rfl | rfl
  · exact hcopied "sale-1" hold
  · exact hhandled 0 (saleEvent "sale-2") [dailySales] (by simp [earlyInsert]) ⟨dailySales, by decide, by decide⟩
  · exact hhandled 0 (saleEvent "sale-3") [dailySales] (by simp [earlyInsert]) ⟨dailySales, by decide, by decide⟩

end Postral.Reports
