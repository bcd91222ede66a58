import Postral.Reports.Failures
import Postral.Reports.Breakdown

/-!
# Passes of `checkRelations`

An instance runs one pass at a time. The reads of a pass, its claim and each of its digestions are
separate steps.
-/

open Check Run Session

namespace Postral.Reports

inductive Pass where
  /-- `checkingRelations` is false. -/
  | idle
  | querying (digestionId : String)
  | claiming (digestionId : String) (alreadyWorkingReports : List String)
  | loading (digestionId : String)
  | digesting (digestionId : String) (relationsWaiting : List ReportPaymentRelation)
  deriving DecidableEq

structure Queue where
  db : Db
  passes : ℕ → Pass
  /-- The ids of the passes so far. -/
  digestionIds : List String

inductive QueueAct where
  /-- The job of an instance starts, with `Date.now() + '_' + randomUUID()`. -/
  | checkRelations (server : ℕ) (digestionId : String)
  /-- A pass takes its next step. -/
  | advance (server : ℕ)
  /-- A statement of the next digestion fails. -/
  | fail (server statement : ℕ) (error : HttpError)
  /-- A pass throws between two steps, or its process dies there. -/
  | stop (server : ℕ)
  /-- `insertPaymentToReportDigestionSingle`, or the copy of a reconstruction. -/
  | insert (reportId paymentId : String) (accountId : Option String)
  /-- Anything else changes the other tables. -/
  | edit (db : Db)

namespace Queue

def setPass (s : Queue) (server : ℕ) (next : Pass) : Queue :=
  { s with passes := Function.update s.passes server next }

def setDb (s : Queue) (db : Db) : Queue := { s with db := db }

end Queue

def ReportPaymentRelation.isDigesting (r : ReportPaymentRelation) : Bool := r.digestionStatus = .digesting

def alreadyWorkingReports (db : Db) : List String := (db.relations.rows.filter (·.isDigesting)).map (·.reportId)

def claimable (alreadyWorkingReports : List String) (r : ReportPaymentRelation) : Bool :=
  r.digestionStatus = .waiting ∧ r.reportId ∉ alreadyWorkingReports

/-- The claim of a relation. -/
def claimedBy (digestionId : String) (r : ReportPaymentRelation) : ReportPaymentRelation :=
  { r with digestionStatus := .digesting, digestionId := digestionId }

def claimRelations (db : Db) (digestionId : String) (alreadyWorkingReports : List String) : Db :=
  { db with relations := db.relations.update (claimable alreadyWorkingReports) (claimedBy digestionId) fun _ => rfl }

def relationsOf (db : Db) (digestionId : String) : List ReportPaymentRelation :=
  db.relations.rows.filter fun r => r.digestionId = digestionId ∧ r.isDigesting

/-- The loop before its next turn. -/
def Pass.loop (digestionId : String) : List ReportPaymentRelation → Pass
  | [] => .idle
  | relations => .digesting digestionId relations

/-- The database and the pass after a turn of the loop. -/
def afterTurn (digestionId : String) (rest : List ReportPaymentRelation) :
    EStateM.Result HttpError (Session HttpError Db) Unit → Db × Pass
  | .ok _ t => (t.db, Pass.loop digestionId rest)
  | .error _ t => (t.db, .idle)

def insertRelation (db : Db) (reportId paymentId : String) (accountId : Option String) : Db :=
  match db.relations.find (reportId, paymentId) with
  | some _ => db
  | none => { db with relations := db.relations.save ⟨reportId, paymentId, accountId, .waiting, ""⟩ }

def advancePass (env : Env) (s : Queue) (server : ℕ) : Option Queue :=
  match s.passes server with
  | .idle => none
  | .querying digestionId => some (s.setPass server (.claiming digestionId (alreadyWorkingReports s.db)))
  | .claiming digestionId busy =>
    some ((s.setDb (claimRelations s.db digestionId busy)).setPass server (.loading digestionId))
  | .loading digestionId => some (s.setPass server (Pass.loop digestionId (relationsOf s.db digestionId)))
  | .digesting _ [] => some (s.setPass server .idle)
  | .digesting digestionId (relation :: rest) =>
    let after := afterTurn digestionId rest (digestRelation env relation { db := s.db })
    some ((s.setDb after.1).setPass server after.2)

/-- `none` when the turn does not reach the statement. -/
def failPass (env : Env) (s : Queue) (server statement : ℕ) (error : HttpError) : Option Queue :=
  match s.passes server with
  | .digesting _ (relation :: _) =>
    match digestRelation env relation
        { db := s.db, failure := fun n => if n = statement then some error else none } with
    | .ok _ _ => none
    | .error _ t => some ((s.setDb t.db).setPass server .idle)
  | _ => none

def queueStep (env : Env) (s : Queue) : QueueAct → Option Queue
  | .checkRelations server digestionId =>
    if s.passes server = .idle ∧ digestionId ∉ s.digestionIds then
      some { s.setPass server (.querying digestionId) with digestionIds := digestionId :: s.digestionIds }
    else none
  | .advance server => advancePass env s server
  | .fail server statement error => failPass env s server statement error
  | .stop server => some (s.setPass server .idle)
  | .insert reportId paymentId accountId => some (s.setDb (insertRelation s.db reportId paymentId accountId))
  | .edit db => if db.relations = s.db.relations then some (s.setDb db) else none

/-! ## What a step does -/

/-- No relation is left to the pass. -/
def HoldsNone (db : Db) : Pass → Prop
  | .loading digestionId => relationsOf db digestionId = []
  | .digesting _ relationsWaiting => relationsWaiting = []
  | _ => True

/-- A pass completes the relation of its turn, and does not end before it has completed all of them. -/
def Completing (env : Env) (s : Queue) : QueueAct → Prop
  | .advance server =>
    match s.passes server with
    | .digesting _ (relation :: _) => Digestible env s.db relation
    | _ => True
  | .fail server _ _ | .stop server => HoldsNone s.db (s.passes server)
  | _ => True

/-- No relation is given up. -/
inductive Kept (s : Queue) (act : QueueAct) (s' : Queue) : Prop where
  | started (server : ℕ) (digestionId : String) (hidle : s.passes server = .idle) (hnew : digestionId ∉ s.digestionIds)
      (h : s' = { s.setPass server (.querying digestionId) with digestionIds := digestionId :: s.digestionIds })
  | queried (server : ℕ) (digestionId : String) (hpass : s.passes server = .querying digestionId)
      (h : s' = s.setPass server (.claiming digestionId (alreadyWorkingReports s.db)))
  | claimed (server : ℕ) (digestionId : String) (busy : List String) (hact : act = .advance server)
      (hpass : s.passes server = .claiming digestionId busy)
      (h : s' = (s.setDb (claimRelations s.db digestionId busy)).setPass server (.loading digestionId))
  | loaded (server : ℕ) (digestionId : String) (hpass : s.passes server = .loading digestionId)
      (h : s' = s.setPass server (Pass.loop digestionId (relationsOf s.db digestionId)))
  | digested (server : ℕ) (digestionId : String) (relation : ReportPaymentRelation) (rest : List ReportPaymentRelation)
      (hpass : s.passes server = .digesting digestionId (relation :: rest)) (db : Db)
      (hrelations : db.relations = s.db.relations.save (completedRelation relation))
      (h : s' = (s.setDb db).setPass server (Pass.loop digestionId rest))
  | ended (server : ℕ) (hnone : HoldsNone s.db (s.passes server)) (h : s' = s.setPass server .idle)
  | inserted (relation : ReportPaymentRelation) (hwaiting : relation.digestionStatus = .waiting)
      (hnew : s.db.relations.find relation.key = none)
      (h : s' = s.setDb { s.db with relations := s.db.relations.save relation })
  | edited (db : Db) (hrelations : db.relations = s.db.relations) (h : s' = s.setDb db)

/-- A pass gives up the relation of its turn, or all that are left. -/
inductive Lost (s s' : Queue) : Prop where
  | skipped (server : ℕ) (digestionId : String) (relation : ReportPaymentRelation) (rest : List ReportPaymentRelation)
      (hpass : s.passes server = .digesting digestionId (relation :: rest))
      (h : s' = s.setPass server (Pass.loop digestionId rest))
  | ended (server : ℕ) (hsome : ¬ HoldsNone s.db (s.passes server)) (db : Db)
      (hrelations : db.relations = s.db.relations) (h : s' = (s.setDb db).setPass server .idle)

theorem turn_change (env : Env) (act : QueueAct) {s : Queue} {server : ℕ} {digestionId : String} {relation : ReportPaymentRelation}
    {rest : List ReportPaymentRelation} (hpass : s.passes server = .digesting digestionId (relation :: rest))
    {after : Db × Pass} (hafter : after = afterTurn digestionId rest (digestRelation env relation { db := s.db })) :
    (Digestible env s.db relation ∧ Kept s act ((s.setDb after.1).setPass server after.2)) ∨
    (¬ Digestible env s.db relation ∧ Lost s ((s.setDb after.1).setPass server after.2)) := by
  have hpasses := digest_relation_passes env s.db relation
  by_cases hdigestible : Digestible env s.db relation
  · obtain ⟨db, hrun, hrelations⟩ := hpasses.1 hdigestible
    obtain ⟨t, ht, rfl⟩ := hrun.returns
    rw [ht] at hafter
    subst hafter
    exact Or.inl ⟨hdigestible, .digested server digestionId relation rest hpass t.db hrelations rfl⟩
  · refine Or.inr ⟨hdigestible, ?_⟩
    rcases hpasses.2 hdigestible with hrun | hfail
    · obtain ⟨t, ht, hdb⟩ := hrun.returns
      rw [ht] at hafter
      subst hafter
      refine .skipped server digestionId relation rest hpass ?_
      simp only [afterTurn, hdb]
      rfl
    · obtain ⟨db, habort⟩ := hfail
      obtain ⟨e, n, ht⟩ := habort 0
      rw [ht] at hafter
      subst hafter
      refine .ended server ?_ db (digest_relation_throws ht) rfl
      simp [HoldsNone, hpass]

theorem insert_change (s : Queue) (act : QueueAct) (reportId paymentId : String) (accountId : Option String) :
    Kept s act (s.setDb (insertRelation s.db reportId paymentId accountId)) := by
  unfold insertRelation
  split <;> rename_i hfind
  · exact .edited s.db rfl rfl
  · exact .inserted ⟨reportId, paymentId, accountId, .waiting, ""⟩ rfl hfind rfl

theorem queue_step_change {env : Env} {s s' : Queue} {act : QueueAct} (h : queueStep env s act = some s') :
    (Completing env s act ∧ Kept s act s') ∨ (¬ Completing env s act ∧ Lost s s') := by
  cases act with
  | checkRelations server digestionId =>
    simp only [queueStep] at h
    split at h <;> rename_i hstart
    · exact Or.inl ⟨trivial, .started server digestionId hstart.1 hstart.2 (Option.some.inj h).symm⟩
    · simp at h
  | advance server =>
    simp only [queueStep, advancePass] at h
    unfold Completing
    split at h <;> rename_i hpass
    · simp at h
    · exact Or.inl ⟨by simp [hpass], .queried server _ hpass (Option.some.inj h).symm⟩
    · exact Or.inl ⟨by simp [hpass], .claimed server _ _ rfl hpass (Option.some.inj h).symm⟩
    · exact Or.inl ⟨by simp [hpass], .loaded server _ hpass (Option.some.inj h).symm⟩
    · exact Or.inl ⟨by simp [hpass], .ended server (by simp [HoldsNone, hpass]) (Option.some.inj h).symm⟩
    · obtain rfl := Option.some.inj h
      simpa only [hpass] using turn_change env _ hpass rfl
  | fail server statement error =>
    simp only [queueStep, failPass] at h
    split at h <;> rename_i hpass
    · split at h <;> rename_i hdigest
      · simp at h
      · obtain rfl := Option.some.inj h
        have hsome : ¬ HoldsNone s.db (s.passes server) := by simp [HoldsNone, hpass]
        exact Or.inr ⟨hsome, .ended server hsome _ (digest_relation_throws hdigest) rfl⟩
    · simp at h
  | stop server =>
    obtain rfl := Option.some.inj h
    by_cases hnone : HoldsNone s.db (s.passes server)
    · exact Or.inl ⟨hnone, .ended server hnone rfl⟩
    · exact Or.inr ⟨hnone, .ended server hnone s.db rfl rfl⟩
  | insert reportId paymentId accountId =>
    obtain rfl := Option.some.inj h
    exact Or.inl ⟨trivial, insert_change s _ reportId paymentId accountId⟩
  | edit db =>
    simp only [queueStep] at h
    split at h <;> rename_i hsame
    · exact Or.inl ⟨trivial, .edited db hsame (Option.some.inj h).symm⟩
    · simp at h

/-! ## Exclusive digestion -/

/-- The DIGESTING relations of a report are of one pass. -/
def Exclusive (db : Db) : Prop :=
  ∀ r ∈ db.relations.rows, ∀ r' ∈ db.relations.rows, r.isDigesting = true → r'.isDigesting = true →
    r.reportId = r'.reportId → r.digestionId = r'.digestionId

/-- A claim finds no relation of another pass on the reports that it takes: none was claimed since the
pass read which reports are being digested, or nothing waits on them now. -/
def Unclaimed (s : Queue) : QueueAct → Prop
  | .advance server =>
    match s.passes server with
    | .claiming _ busy => ∀ r ∈ s.db.relations.rows, claimable busy r = true →
        ∀ r' ∈ s.db.relations.rows, r'.isDigesting = true → r'.reportId ≠ r.reportId
    | _ => True
  | _ => True

instance (s : Queue) (act : QueueAct) : Decidable (Unclaimed s act) := by
  unfold Unclaimed
  split
  · split <;> infer_instance
  · infer_instance

theorem Exclusive.congr {db db' : Db} (h : Exclusive db) (hrelations : db'.relations = db.relations) : Exclusive db' := by
  unfold Exclusive
  rw [hrelations]
  exact h

/-- Saving a relation that is not DIGESTING. -/
theorem Exclusive.save {db db' : Db} (h : Exclusive db) {relation : ReportPaymentRelation}
    (hrelation : relation.isDigesting = false) (hrelations : db'.relations = db.relations.save relation) :
    Exclusive db' := by
  have hold : ∀ r ∈ db'.relations.rows, r.isDigesting = true → r ∈ db.relations.rows := by
    intro r hr hdigesting
    rw [hrelations] at hr
    rcases Table.mem_save.mp hr with rfl | ⟨hr, -⟩
    · simp [hrelation] at hdigesting
    · exact hr
  exact fun r hr r' hr' hdigesting hdigesting' => h r (hold r hr hdigesting) r' (hold r' hr' hdigesting') hdigesting hdigesting'

theorem mem_claimRelations {db : Db} {digestionId : String} {busy : List String} {r : ReportPaymentRelation} :
    r ∈ (claimRelations db digestionId busy).relations.rows ↔ (r ∈ db.relations.rows ∧ claimable busy r = false) ∨
      ∃ old ∈ db.relations.rows, claimable busy old = true ∧ r = claimedBy digestionId old := by
  unfold claimRelations
  exact Table.mem_update (f := claimedBy digestionId) fun _ => rfl

theorem Exclusive.claim {db : Db} (h : Exclusive db) {digestionId : String} {busy : List String}
    (hunclaimed : ∀ r ∈ db.relations.rows, claimable busy r = true →
      ∀ r' ∈ db.relations.rows, r'.isDigesting = true → r'.reportId ≠ r.reportId) :
    Exclusive (claimRelations db digestionId busy) := by
  intro r hr r' hr' hdigesting hdigesting' hreport
  rcases mem_claimRelations.mp hr with ⟨hr, -⟩ | ⟨old, hold, hclaimed, rfl⟩
  · rcases mem_claimRelations.mp hr' with ⟨hr', -⟩ | ⟨old', hold', hclaimed', rfl⟩
    · exact h r hr r' hr' hdigesting hdigesting' hreport
    · exact absurd hreport (hunclaimed old' hold' hclaimed' r hr hdigesting)
  · rcases mem_claimRelations.mp hr' with ⟨hr', -⟩ | ⟨old', hold', hclaimed', rfl⟩
    · exact absurd hreport.symm (hunclaimed old hold hclaimed r' hr' hdigesting')
    · rfl

theorem step_exclusive {env : Env} {s s' : Queue} {act : QueueAct} (hs : Exclusive s.db) (hok : Unclaimed s act)
    (h : queueStep env s act = some s') : Exclusive s'.db := by
  rcases queue_step_change h with ⟨-, hkept⟩ | ⟨-, hlost⟩
  · cases hkept with
    | started server digestionId hidle hnew h => exact h ▸ hs
    | queried server digestionId hpass h => exact h ▸ hs
    | claimed server digestionId busy hact hpass h =>
      subst h hact
      exact hs.claim (by simpa [Unclaimed, hpass] using hok)
    | loaded server digestionId hpass h => exact h ▸ hs
    | digested server digestionId relation rest hpass db hrelations h =>
      subst h
      exact hs.save rfl hrelations
    | ended server hnone h => exact h ▸ hs
    | inserted relation hwaiting hnew h =>
      subst h
      exact hs.save (by simp [ReportPaymentRelation.isDigesting, hwaiting]) rfl
    | edited db hrelations h =>
      subst h
      exact hs.congr hrelations
  · cases hlost with
    | skipped server digestionId relation rest hpass h => exact h ▸ hs
    | ended server hsome db hrelations h =>
      subst h
      exact hs.congr hrelations

def Queue.init (db : Db) : Queue := ⟨db, fun _ => .idle, []⟩

/-- The pass with `digestionId` has DIGESTING relations of the report. -/
def Holds (db : Db) (digestionId reportId : String) : Prop :=
  ∃ r ∈ db.relations.rows, r.isDigesting = true ∧ r.digestionId = digestionId ∧ r.reportId = reportId

instance (db : Db) (digestionId reportId : String) : Decidable (Holds db digestionId reportId) := by
  unfold Holds
  infer_instance

/-- **Exclusive digestion.** In a run whose claims take no report that another pass has taken since, no
two passes hold DIGESTING relations of one report. -/
theorem digestion_exclusive (env : Env) (db : Db) (acts : List QueueAct) (s : Queue)
    (hstart : ∀ r ∈ db.relations.rows, r.isDigesting = false)
    (hunclaimed : Meets (queueStep env) Unclaimed (Queue.init db) acts)
    (hrun : run (queueStep env) (Queue.init db) acts = some s) (reportId digestionId digestionId' : String)
    (hholds : Holds s.db digestionId reportId) (hholds' : Holds s.db digestionId' reportId) :
    digestionId = digestionId' := by
  have hinit : Exclusive (Queue.init db).db := by
    intro r hr _ _ hdigesting
    simp [hstart r hr] at hdigesting
  have hexclusive : Exclusive s.db :=
    run_invariant_of_meets (fun _ _ _ h hok hstep => step_exclusive h hok hstep) hinit hunclaimed hrun
  obtain ⟨r, hr, hdigesting, rfl, hreport⟩ := hholds
  obtain ⟨r', hr', hdigesting', rfl, hreport'⟩ := hholds'
  exact hexclusive r hr r' hr' hdigesting hdigesting' (hreport.trans hreport'.symm)

/-! ## Two passes over one report -/

def waitingDb : Db := { Db.empty with relations := Table.empty.save ⟨"report", "sale", some "seller", .waiting, ""⟩ }

/-- Both passes read that no report is being digested, and a payment comes between their claims. -/
def twoPasses : List QueueAct :=
  [.checkRelations 0 "first", .advance 0, .checkRelations 1 "second", .advance 1, .advance 0,
    .insert "report" "return" (some "seller"), .advance 1]

theorem two_passes_hold_report : ∃ s, run (queueStep sampleEnv) (Queue.init waitingDb) twoPasses = some s ∧
    Holds s.db "first" "report" ∧ Holds s.db "second" "report" := by
  have hrun : ∃ s ∈ run (queueStep sampleEnv) (Queue.init waitingDb) twoPasses,
      Holds s.db "first" "report" ∧ Holds s.db "second" "report" := by
    decide +kernel
  obtain ⟨s, hs, hholds⟩ := hrun
  exact ⟨s, hs, hholds⟩

/-- The second pass reads the busy reports after the first claim. -/
def laterPass : List QueueAct :=
  [.checkRelations 0 "first", .advance 0, .advance 0, .checkRelations 1 "second", .advance 1,
    .insert "report" "return" (some "seller"), .advance 1]

theorem digestion_exclusive_sample : ∃ s, run (queueStep sampleEnv) (Queue.init waitingDb) laterPass = some s ∧
    Holds s.db "first" "report" ∧ ∀ digestionId, Holds s.db digestionId "report" → digestionId = "first" := by
  have hrun : ∃ s ∈ run (queueStep sampleEnv) (Queue.init waitingDb) laterPass, Holds s.db "first" "report" := by
    decide +kernel
  obtain ⟨s, hs, hholds⟩ := hrun
  have hunclaimed : Meets (queueStep sampleEnv) Unclaimed (Queue.init waitingDb) laterPass := by decide +kernel
  exact ⟨s, hs, hholds, fun digestionId h =>
    digestion_exclusive sampleEnv waitingDb laterPass s (by decide) hunclaimed hs "report" digestionId "first" h hholds⟩

end Postral.Reports
