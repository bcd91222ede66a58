import Postral.Reports.Copied

/-!
# Calls of `findOrCreateByQuery` in several instances

Each instance has its own map of promises. Reconstructions archive the report of the bucket meanwhile.
-/

open Check Run

namespace Postral.Reports.Inflight

/-! ## Calls -/

inductive CallError where
  | noOwner
  /-- The insert broke the unique constraint. -/
  | duplicate
  /-- The insert failed for another reason. -/
  | database
  deriving DecidableEq

inductive Point where
  | finding
  | creating
  /-- In the catch block. -/
  | refetching (error : CallError)
  /-- The database has answered, the promise is still in the map. -/
  | settled (result : Except CallError String)
  /-- Waits for the promise of another call. -/
  | joined (creator : ℕ)
  /-- `period` is the number of archivings before. -/
  | returned (result : Except CallError String) (period : ℕ)
  deriving DecidableEq

structure Call where
  process : ℕ
  point : Point
  /-- History: the number of archivings when it was started. -/
  started : ℕ
  deriving DecidableEq

/-- `reportsFetchInflight` has the call that made the promise. -/
structure State where
  db : Db
  /-- By number. -/
  calls : List Call
  inflight : ℕ → Option ℕ
  /-- The reports that running reconstructions have loaded. -/
  loaded : ℕ → Option (Report ℤ)
  /-- History: how often the report of the bucket was archived. -/
  period : ℕ

inductive Act where
  | start (process : ℕ)
  /-- `id` is the key that the database generates. -/
  | advance (call : ℕ) (id : String)
  | failSave (call : ℕ)
  | reportReconstruct (reconstruction : ℕ) (reportId : String)
  | archive (reconstruction : ℕ) (now : String)

namespace State

def idle (db : Db) : State := ⟨db, [], fun _ => none, fun _ => none, 0⟩

def move (s : State) (i : ℕ) (call : Call) (point : Point) : State :=
  { s with calls := s.calls.set i { call with point := point } }

def setInflight (s : State) (process : ℕ) (entry : Option ℕ) : State :=
  { s with inflight := Function.update s.inflight process entry }

def setLoaded (s : State) (reconstruction : ℕ) (report : Option (Report ℤ)) : State :=
  { s with loaded := Function.update s.loaded reconstruction report }

end State

def start (s : State) (process : ℕ) : State :=
  let point := match s.inflight process with
    | some creator => .joined creator
    | none => .finding
  { s with calls := s.calls ++ [⟨process, point, s.period⟩] }

/-- The first `findOne`, and what follows without waiting. -/
def findExisting (b : Bucket) (s : State) (i : ℕ) (call : Call) : State :=
  match b.current s.db with
  | some report => s.move i call (.returned (.ok report.id) s.period)
  | none =>
    if b.query.ownerAccountId = none then s.move i call (.returned (.error .noOwner) s.period)
    else (s.move i call .creating).setInflight call.process (some i)

def saveNew (b : Bucket) (s : State) (i : ℕ) (call : Call) (id : String) : State :=
  if s.db.reports.rows.any (b.new id).conflicts then s.move i call (.refetching .duplicate)
  else { s.move i call (.settled (.ok id)) with db := { s.db with reports := s.db.reports.save (b.new id) } }

def refetch (b : Bucket) (s : State) (i : ℕ) (call : Call) (error : CallError) : State :=
  s.move i call (.settled (match b.current s.db with
    | some report => .ok report.id
    | none => .error error))

/-- A promise that another call has not got yet keeps it waiting. -/
def join (s : State) (i : ℕ) (call : Call) (creator : ℕ) : Option State :=
  match (s.calls[creator]?).map Call.point with
  | some (.returned result _) => some (s.move i call (.returned result s.period))
  | _ => none

def advance (b : Bucket) (s : State) (i : ℕ) (id : String) (call : Call) : Option State :=
  match call.point with
  | .finding => some (findExisting b s i call)
  | .creating => if (s.db.reports.find id).isSome then none else some (saveNew b s i call id)
  | .refetching error => some (refetch b s i call error)
  | .settled result => some ((s.move i call (.returned result s.period)).setInflight call.process none)
  | .joined creator => join s i call creator
  | .returned _ _ => none

def failSave (s : State) (i : ℕ) (call : Call) : Option State :=
  if call.point = .creating then some (s.move i call (.refetching .database)) else none

/-- The report is of the bucket. -/
def Holds (b : Bucket) (r : Report ℤ) : Prop :=
  r.queryId = b.query.id ∧ r.periodLabel = b.periodLabel ∧ r.currency = b.currency

instance (b : Bucket) (r : Report ℤ) : Decidable (Holds b r) := by
  unfold Holds
  infer_instance

/-- The first read of `reportReconstruct`. -/
def reportReconstruct (b : Bucket) (s : State) (reconstruction : ℕ) (reportId : String) : Option State :=
  match loadForReconstruction s.db reportId with
  | some (oldReport, _) => if Holds b oldReport then some (s.setLoaded reconstruction (some oldReport)) else none
  | none => some s

/-- The report is the one that calls of the bucket find. -/
def IsCurrent (b : Bucket) (s : State) (reportId : String) : Prop := ∃ report ∈ b.current s.db, report.id = reportId

instance (b : Bucket) (s : State) (reportId : String) : Decidable (IsCurrent b s reportId) := by
  unfold IsCurrent
  infer_instance

/-- The save of `reportReconstruct`. -/
def archive (b : Bucket) (s : State) (reconstruction : ℕ) (now : String) (oldReport : Report ℤ) : State :=
  let archived := archivedReport oldReport now
  if s.db.reports.rows.any (sameLabel archived) then s.setLoaded reconstruction none
  else { s.setLoaded reconstruction none with
    db := { s.db with reports := s.db.reports.save archived }
    period := if IsCurrent b s oldReport.id then s.period + 1 else s.period }

def step (b : Bucket) (s : State) : Act → Option State
  | .start process => some (start s process)
  | .advance i id => (s.calls[i]?).bind (advance b s i id)
  | .failSave i => (s.calls[i]?).bind (failSave s i)
  | .reportReconstruct reconstruction reportId => reportReconstruct b s reconstruction reportId
  | .archive reconstruction now => (s.loaded reconstruction).map (archive b s reconstruction now)

/-- A report is archived while no call is about to look for it again, and none still has to hand it over. -/
def Quiet (b : Bucket) (s : State) : Act → Prop
  | .archive reconstruction _ => ∀ oldReport ∈ s.loaded reconstruction, IsCurrent b s oldReport.id →
      ∀ call ∈ s.calls, call.point ≠ .refetching .duplicate ∧ call.point ≠ .settled (.ok oldReport.id)
  | _ => True

instance (b : Bucket) (s : State) (act : Act) : Decidable (Quiet b s act) := by
  unfold Quiet
  split <;> infer_instance

/-! ## The reports of the bucket -/

/-- At most one report is in the bucket, and it is not archived. Where a call is about to create one, any that is there
has the type of the query. -/
structure Single (b : Bucket) (s : State) : Prop where
  single : ∀ r ∈ s.db.reports.rows, ∀ r' ∈ s.db.reports.rows, Holds b r → Holds b r' → r = r'
  opened : ∀ r ∈ s.db.reports.rows, Holds b r → r.archived = false
  typed : (∃ call ∈ s.calls, call.point = .creating) → ∀ r ∈ s.db.reports.rows, Holds b r → r.reportType = b.query.reportType
  loaded : ∀ reconstruction, ∀ oldReport ∈ s.loaded reconstruction, Holds b oldReport

section Single

variable {b : Bucket} {s s' : State} {i : ℕ} {call : Call} {id : String}

theorem current_some (h : Single b s) {r : Report ℤ} : b.current s.db = some r ↔ r ∈ s.db.reports.rows ∧ Holds b r := by
  constructor
  · intro hcurrent
    obtain ⟨hmem, hquery, hlabel, hcurrency, -⟩ := currentReport_some hcurrent
    exact ⟨hmem, hquery, hlabel, hcurrency⟩
  · rintro ⟨hmem, hholds⟩
    cases hfind : b.current s.db with
    | none =>
      have hnot := List.find?_eq_none.mp hfind r hmem
      exact absurd (decide_eq_true ⟨hholds.1, hholds.2.1, hholds.2.2, h.opened r hmem hholds⟩) hnot
    | some r' =>
      obtain ⟨hmem', hquery, hlabel, hcurrency, -⟩ := currentReport_some hfind
      rw [h.single r' hmem' r hmem ⟨hquery, hlabel, hcurrency⟩ hholds]

theorem current_none (h : Single b s) : b.current s.db = none ↔ ∀ r ∈ s.db.reports.rows, ¬ Holds b r := by
  constructor
  · intro hnone r hmem hholds
    rw [(current_some h).mpr ⟨hmem, hholds⟩] at hnone
    exact nomatch hnone
  · intro hnot
    cases hfind : b.current s.db with
    | none => rfl
    | some r =>
      obtain ⟨hmem, hholds⟩ := (current_some h).mp hfind
      exact absurd hholds (hnot r hmem)

theorem single_idle {db : Db} (hsingle : ∀ r ∈ db.reports.rows, ∀ r' ∈ db.reports.rows, Holds b r → Holds b r' → r = r')
    (hopened : ∀ r ∈ db.reports.rows, Holds b r → r.archived = false) : Single b (.idle db) :=
  ⟨hsingle, hopened, fun ⟨_, hcall, _⟩ => (nomatch hcall), fun _ _ hloaded => (nomatch hloaded)⟩

theorem mem_set {calls : List Call} {new c : Call} (h : c ∈ calls.set i new) : c ∈ calls ∨ c = new :=
  List.mem_or_eq_of_mem_set h

theorem Single.move (h : Single b s) {point : Point}
    (hpoint : point = .creating → ∀ r ∈ s.db.reports.rows, Holds b r → r.reportType = b.query.reportType) :
    Single b (s.move i call point) := by
  refine ⟨h.single, h.opened, fun ⟨c, hc, hcreating⟩ => ?_, h.loaded⟩
  rcases mem_set hc with hold | rfl
  · exact h.typed ⟨c, hold, hcreating⟩
  · exact hpoint hcreating

/-- Without a conflict the bucket was empty. -/
theorem empty_of_free (h : Single b s) (hcall : call ∈ s.calls) (hpoint : call.point = .creating)
    (hfree : s.db.reports.rows.any (b.new id).conflicts = false) : ∀ r ∈ s.db.reports.rows, ¬ Holds b r := by
  intro r hr hholds
  have htype := h.typed ⟨call, hcall, hpoint⟩ r hr hholds
  obtain ⟨hquery, hlabel, hcurrency⟩ := hholds
  have hconflict : (b.new id).conflicts r = true :=
    decide_eq_true (Or.inr ⟨hquery.symm, htype.symm, hlabel.symm, hcurrency.symm⟩)
  exact absurd hconflict (List.any_eq_false.mp hfree r hr)

theorem Single.insert (h : Single b s) (i : ℕ) (call : Call) (hid : s.db.reports.find id = none) (hempty : ∀ r ∈ s.db.reports.rows, ¬ Holds b r)
    (point : Point) : Single b
      { s.move i call point with db := { s.db with reports := s.db.reports.save (b.new id) } } := by
  have honly : ∀ r ∈ (s.db.reports.save (b.new id)).rows, Holds b r → r = b.new id := by
    intro r hr hholds
    exact ((mem_created hid).mp hr).resolve_right fun hold => hempty r hold hholds
  refine ⟨fun r hr r' hr' hholds hholds' => ?_, fun r hr hholds => ?_, fun _ r hr hholds => ?_, h.loaded⟩
  · rw [honly r hr hholds, honly r' hr' hholds']
  · rw [honly r hr hholds]
    rfl
  · rw [honly r hr hholds]
    rfl

theorem not_holds_archived {oldReport : Report ℤ} (h : Holds b oldReport) (now : String) :
    ¬ Holds b (archivedReport oldReport now) := by
  intro harchived
  have hsame : InBucket oldReport oldReport := ⟨rfl, rfl, rfl⟩
  have hin : InBucket oldReport (archivedReport oldReport now) := ⟨rfl, harchived.2.1.trans h.2.1.symm, rfl⟩
  exact archived_not_in_bucket hsame hin

/-- What is in the bucket after the save of a reconstruction. -/
theorem holds_archived {oldReport r : Report ℤ} {now : String} (h : Holds b oldReport) :
    (r ∈ (s.db.reports.save (archivedReport oldReport now)).rows ∧ Holds b r) ↔
      (r ∈ s.db.reports.rows ∧ Holds b r) ∧ r.id ≠ oldReport.id := by
  rw [Table.mem_save]
  constructor
  · rintro ⟨rfl | ⟨hr, hid⟩, hholds⟩
    · exact absurd hholds (not_holds_archived h now)
    · exact ⟨⟨hr, hholds⟩, hid⟩
  · rintro ⟨⟨hr, hholds⟩, hid⟩
    exact ⟨Or.inr ⟨hr, hid⟩, hholds⟩

theorem Single.archive (h : Single b s) {oldReport : Report ℤ} (hold : Holds b oldReport) (reconstruction period : ℕ) (now : String) :
    Single b { s.setLoaded reconstruction none with
      db := { s.db with reports := s.db.reports.save (archivedReport oldReport now) }
      period := period } := by
  refine ⟨fun r hr r' hr' hholds hholds' => ?_, fun r hr hholds => ?_, fun hcreating r hr hholds => ?_,
    fun k report hreport => ?_⟩
  · obtain ⟨⟨hmem, -⟩, -⟩ := (holds_archived hold).mp ⟨hr, hholds⟩
    obtain ⟨⟨hmem', -⟩, -⟩ := (holds_archived hold).mp ⟨hr', hholds'⟩
    exact h.single r hmem r' hmem' hholds hholds'
  · obtain ⟨⟨hmem, -⟩, -⟩ := (holds_archived hold).mp ⟨hr, hholds⟩
    exact h.opened r hmem hholds
  · obtain ⟨⟨hmem, -⟩, -⟩ := (holds_archived hold).mp ⟨hr, hholds⟩
    exact h.typed hcreating r hmem hholds
  · change Function.update s.loaded reconstruction none k = some report at hreport
    by_cases heq : k = reconstruction
    · subst heq
      rw [Function.update_self] at hreport
      exact nomatch hreport
    · rw [Function.update_of_ne heq] at hreport
      exact h.loaded k report hreport

theorem Single.setLoaded (h : Single b s) (reconstruction : ℕ) {report : Option (Report ℤ)}
    (hreport : ∀ r ∈ report, Holds b r) : Single b (s.setLoaded reconstruction report) := by
  refine ⟨h.single, h.opened, h.typed, fun k r hr => ?_⟩
  change Function.update s.loaded reconstruction report k = some r at hr
  by_cases heq : k = reconstruction
  · subst heq
    rw [Function.update_self] at hr
    exact hreport r hr
  · rw [Function.update_of_ne heq] at hr
    exact h.loaded k r hr

theorem Single.step (h : Single b s) {act : Act} (hstep : step b s act = some s') : Single b s' := by
  cases act with
  | start process =>
    obtain rfl := Option.some.inj hstep
    refine ⟨h.single, h.opened, fun ⟨c, hc, hcreating⟩ => ?_, h.loaded⟩
    rcases List.mem_append.mp hc with hold | hnew
    · exact h.typed ⟨c, hold, hcreating⟩
    · -- a new call waits or looks first
      obtain rfl := List.mem_singleton.mp hnew
      cases hentry : s.inflight process <;> simp [hentry] at hcreating
  | advance i id =>
    obtain ⟨call, hcall, hadvance⟩ := Option.bind_eq_some_iff.mp hstep
    have hmem : call ∈ s.calls := List.mem_of_getElem? hcall
    unfold Inflight.advance at hadvance
    split at hadvance <;> rename_i hpoint
    · obtain rfl := Option.some.inj hadvance
      unfold findExisting
      split <;> rename_i hcurrent
      · exact h.move (by simp)
      · split
        · exact h.move (by simp)
        · have hempty := (current_none h).mp hcurrent
          have hmove : Single b (s.move i call .creating) := h.move fun _ r hr hholds => absurd hholds (hempty r hr)
          exact ⟨hmove.single, hmove.opened, hmove.typed, hmove.loaded⟩
    · simp only [Option.ite_none_left_eq_some] at hadvance
      obtain ⟨hid, heq⟩ := hadvance
      obtain rfl := Option.some.inj heq
      unfold saveNew
      split <;> rename_i hconflict
      · exact h.move (by simp)
      · have hempty := empty_of_free h hmem hpoint (by simpa using hconflict)
        exact h.insert i call (by simpa using hid) hempty _
    · obtain rfl := Option.some.inj hadvance
      exact h.move (by simp)
    · obtain rfl := Option.some.inj hadvance
      have hmove : Single b (s.move i call (.returned ‹_› s.period)) := h.move (by simp)
      exact ⟨hmove.single, hmove.opened, hmove.typed, hmove.loaded⟩
    · unfold join at hadvance
      split at hadvance
      · obtain rfl := Option.some.inj hadvance
        exact h.move (by simp)
      · cases hadvance
    · cases hadvance
  | failSave i =>
    obtain ⟨call, hcall, hfail⟩ := Option.bind_eq_some_iff.mp hstep
    simp only [Inflight.failSave, Option.ite_none_right_eq_some] at hfail
    obtain rfl := Option.some.inj hfail.2
    exact h.move (by simp)
  | reportReconstruct reconstruction reportId =>
    simp only [Inflight.step, Inflight.reportReconstruct] at hstep
    split at hstep
    · simp only [Option.ite_none_right_eq_some] at hstep
      obtain ⟨hholds, heq⟩ := hstep
      obtain rfl := Option.some.inj heq
      refine h.setLoaded reconstruction fun r hr => ?_
      obtain rfl := Option.some.inj hr
      exact hholds
    · obtain rfl := Option.some.inj hstep
      exact h
  | archive reconstruction now =>
    obtain ⟨oldReport, hloaded, rfl⟩ := Option.map_eq_some_iff.mp hstep
    simp only [Inflight.archive]
    split
    · exact h.setLoaded reconstruction fun _ hr => by cases hr
    · exact h.archive (h.loaded reconstruction oldReport hloaded) reconstruction _ now

end Single

/-! ## What the calls return -/

/-- The database has not answered, or the others have not got the answer. -/
def Point.pending : Point → Bool
  | .creating | .refetching _ | .settled _ => true
  | .finding | .joined _ | .returned _ _ => false

/-- The result is the report of the period, or an error without a race. -/
def Gives (report : ℕ → Option String) (period : ℕ) : Except CallError String → Prop
  | .ok id => report period = some id
  | .error error => error ≠ .duplicate

/-- The creator that a call waits for. -/
def CreatorOk (report : ℕ → Option String) (started : ℕ) (creator : Call) : Prop :=
  (∀ k, creator.point ≠ .joined k) ∧
  ∀ result period, creator.point = .returned result period → started ≤ period ∧ Gives report period result

def CallOk (b : Bucket) (report : ℕ → Option String) (s : State) (call : Call) : Prop :=
  call.started ≤ s.period ∧ match call.point with
  | .finding | .creating => True
  | .refetching error => error = .duplicate → (b.current s.db).isSome
  | .settled result => Gives report s.period result
  | .joined creator => ∃ c, s.calls[creator]? = some c ∧ CreatorOk report call.started c
  | .returned result period => period ≤ s.period ∧ ∃ time, call.started ≤ time ∧ time ≤ period ∧ Gives report time result

/-- `report` has the report of each period between two archivings. -/
structure Good (b : Bucket) (report : ℕ → Option String) (s : State) : Prop where
  calls : ∀ call ∈ s.calls, CallOk b report s call
  inflight : ∀ process creator, s.inflight process = some creator →
    ∃ call, s.calls[creator]? = some call ∧ call.process = process ∧ call.point.pending
  current : (b.current s.db).map Report.id = report s.period
  future : ∀ period, s.period < period → report period = none

section Good

variable {b : Bucket} {report report' : ℕ → Option String} {s s' : State} {i : ℕ} {call : Call} {id : String}

theorem Gives.mono {period : ℕ} {result : Except CallError String} (h : Gives report period result)
    (hreport : ∀ period id, report period = some id → report' period = some id) : Gives report' period result := by
  cases result with
  | ok id => exact hreport period id h
  | error error => exact h

theorem CallOk.mono (h : CallOk b report s call) (hreport : ∀ period id, report period = some id → report' period = some id)
    (hcurrent : (b.current s.db).isSome → (b.current s'.db).isSome) (hcalls : s'.calls = s.calls) (hperiod : s'.period = s.period) :
    CallOk b report' s' call := by
  obtain ⟨hstarted, hpoint⟩ := h
  refine ⟨hperiod ▸ hstarted, ?_⟩
  split at hpoint
  · trivial
  · trivial
  · exact fun hduplicate => hcurrent (hpoint hduplicate)
  · exact hperiod ▸ hpoint.mono hreport
  · obtain ⟨c, hc, hjoined, hreturned⟩ := hpoint
    refine ⟨c, hcalls ▸ hc, hjoined, fun result period heq => ?_⟩
    obtain ⟨hle, hgives⟩ := hreturned result period heq
    exact ⟨hle, hgives.mono hreport⟩
  · obtain ⟨hle, time, hfrom, hto, hgives⟩ := hpoint
    exact ⟨hperiod ▸ hle, time, hfrom, hto, hgives.mono hreport⟩

theorem Good.of_same (h : Good b report s) (hcurrent : b.current s'.db = b.current s.db) (hcalls : s'.calls = s.calls)
    (hinflight : s'.inflight = s.inflight) (hperiod : s'.period = s.period) : Good b report s' := by
  refine ⟨fun call hcall => ?_, ?_, ?_, ?_⟩
  · exact (h.calls call (hcalls ▸ hcall)).mono (fun _ _ h => h) (by rw [hcurrent]; exact fun h => h) hcalls hperiod
  · rw [hinflight, hcalls]
    exact h.inflight
  · rw [hcurrent, hperiod]
    exact h.current
  · rw [hperiod]
    exact h.future

/-- One call moves. The others that wait for it get what it returns. -/
theorem Good.move (h : Good b report s) (hcall : s.calls[i]? = some call) {point : Point} {inflight : ℕ → Option ℕ}
    (hok : CallOk b report s { call with point := point }) (hjoined : ∀ k, point ≠ .joined k)
    (hreturned : (∀ k, call.point ≠ .joined k) → ∀ result period, point = .returned result period →
      period = s.period ∧ Gives report s.period result)
    (hinflight : ∀ process creator, inflight process = some creator →
      (creator = i ∧ call.process = process ∧ point.pending) ∨ (creator ≠ i ∧ s.inflight process = some creator)) :
    Good b report { s.move i call point with inflight := inflight } := by
  have hlt : i < s.calls.length := (List.getElem?_eq_some_iff.mp hcall).1
  have hself : (s.calls.set i { call with point := point })[i]? = some { call with point := point } := by
    rw [List.getElem?_set_self hlt]
  refine ⟨fun c hc => ?_, fun process creator hentry => ?_, h.current, h.future⟩
  · have hbefore : CallOk b report s c := by
      rcases mem_set hc with hold | rfl
      · exact h.calls c hold
      · exact hok
    obtain ⟨hstarted, hpoint⟩ := hbefore
    refine ⟨hstarted, ?_⟩
    split at hpoint <;> simp only
    · exact hpoint
    · exact hpoint
    · obtain ⟨c', hc', hcreator⟩ := hpoint
      rename_i creator hwaits
      by_cases heq : creator = i
      · -- it waits for the call that moves
        subst heq
        obtain rfl : call = c' := Option.some.inj (hcall.symm.trans hc')
        refine ⟨_, hself, hjoined, fun result period hpoint => ?_⟩
        obtain ⟨rfl, hgives⟩ := hreturned hcreator.1 result period hpoint
        exact ⟨hstarted, hgives⟩
      · refine ⟨c', ?_, hcreator⟩
        exact (List.getElem?_set_ne (Ne.symm heq)).trans hc'
    · exact hpoint
  · rcases hinflight process creator hentry with ⟨rfl, hprocess, hpending⟩ | ⟨hne, hold⟩
    · exact ⟨_, hself, hprocess, hpending⟩
    · obtain ⟨c, hc, hprocess, hpending⟩ := h.inflight process creator hold
      exact ⟨c, (List.getElem?_set_ne (Ne.symm hne)).trans hc, hprocess, hpending⟩

/-- A call that is still pending stays in the map. -/
theorem Good.move_pending (h : Good b report s) (hcall : s.calls[i]? = some call) {point : Point} (hpending : point.pending)
    (hok : CallOk b report s { call with point := point }) : Good b report (s.move i call point) := by
  refine h.move hcall hok (by rintro k rfl; simp [Point.pending] at hpending)
    (by rintro - result period rfl; simp [Point.pending] at hpending) fun process creator hentry => ?_
  by_cases heq : creator = i
  · subst heq
    obtain ⟨c, hc, hprocess, -⟩ := h.inflight process creator hentry
    obtain rfl : call = c := Option.some.inj (hcall.symm.trans hc)
    exact .inl ⟨rfl, hprocess, hpending⟩
  · exact .inr ⟨heq, hentry⟩

/-- A call that made no promise is not in the map. -/
theorem Good.not_in_map (h : Good b report s) (hcall : s.calls[i]? = some call) (hpending : call.point.pending = false)
    {process creator : ℕ} (hentry : s.inflight process = some creator) : creator ≠ i := by
  rintro rfl
  obtain ⟨c, hc, -, hin⟩ := h.inflight process creator hentry
  obtain rfl : call = c := Option.some.inj (hcall.symm.trans hc)
  rw [hpending] at hin
  exact nomatch hin

theorem Good.report_of_current (h : Good b report s) {r : Report ℤ} (hr : b.current s.db = some r) :
    report s.period = some r.id := by
  rw [← h.current, hr]
  rfl

/-- The report of the period is created. -/
theorem Good.create (h : Good b report s) (hnone : b.current s.db = none) {db : Db} {r : Report ℤ} (hnew : b.current db = some r) :
    Good b (Function.update report s.period (some r.id)) { s with db := db } := by
  have hreport : ∀ period id, report period = some id → Function.update report s.period (some r.id) period = some id := by
    intro period id hid
    have hne : period ≠ s.period := by
      rintro rfl
      rw [← h.current, hnone] at hid
      exact nomatch hid
    rw [Function.update_of_ne hne]
    exact hid
  refine ⟨fun call hcall => ?_, h.inflight, ?_, fun period hperiod => ?_⟩
  · exact (h.calls call hcall).mono hreport (fun _ => by simp [hnew]) rfl rfl
  · simp [hnew]
  · rw [Function.update_of_ne (by have : s.period < period := hperiod; omega)]
    exact h.future period hperiod

/-- The report of the period is archived. -/
theorem Good.archive (h : Good b report s) {db : Db} {loaded : ℕ → Option (Report ℤ)} {r : Report ℤ}
    (hr : b.current s.db = some r) (hnone : b.current db = none)
    (hquiet : ∀ call ∈ s.calls, call.point ≠ .refetching .duplicate ∧ call.point ≠ .settled (.ok r.id)) :
    Good b report { s with db := db, loaded := loaded, period := s.period + 1 } := by
  have hnext : report (s.period + 1) = none := h.future _ (by omega)
  refine ⟨fun call hcall => ?_, h.inflight, ?_, fun period hperiod => ?_⟩
  · obtain ⟨hstarted, hpoint⟩ := h.calls call hcall
    obtain ⟨hrefetching, hsettled⟩ := hquiet call hcall
    refine ⟨by simp only; omega, ?_⟩
    split at hpoint <;> rename_i heq <;> simp only
    · rintro rfl
      exact absurd heq hrefetching
    · -- what is settled is not the report that goes
      rename_i result
      cases result with
      | error error => exact hpoint
      | ok id =>
        have hid : id = r.id := by
          have hsame : report s.period = some id := hpoint
          rw [h.report_of_current hr] at hsame
          exact (Option.some.inj hsame).symm
        exact absurd (hid ▸ heq) hsettled
    · exact hpoint
    · obtain ⟨hle, hrest⟩ := hpoint
      exact ⟨by omega, hrest⟩
  · simp only [hnone, hnext]
    rfl
  · exact h.future period (by have : s.period + 1 < period := hperiod; omega)

theorem good_idle (db : Db) : Good b (fun period => if period = 0 then (b.current db).map Report.id else none) (.idle db) := by
  refine ⟨fun _ hcall => (nomatch hcall), fun _ _ hentry => (nomatch hentry), rfl, fun period hperiod => ?_⟩
  have hpos : (0 : ℕ) < period := hperiod
  exact if_neg (by omega)

theorem Good.start (h : Good b report s) (process : ℕ) : Good b report (start s process) := by
  have hkept : ∀ {k : ℕ} {c new : Call}, s.calls[k]? = some c → (s.calls ++ [new])[k]? = some c := by
    intro k c new hc
    exact (List.getElem?_append_left (List.getElem?_eq_some_iff.mp hc).1).trans hc
  refine ⟨fun c hc => ?_, fun process' creator hentry => ?_, h.current, h.future⟩
  · rcases List.mem_append.mp hc with hold | hnew
    · obtain ⟨hstarted, hpoint⟩ := h.calls c hold
      refine ⟨hstarted, ?_⟩
      split at hpoint
      · trivial
      · trivial
      · exact hpoint
      · exact hpoint
      · obtain ⟨c', hc', hcreator⟩ := hpoint
        exact ⟨c', hkept hc', hcreator⟩
      · exact hpoint
    · obtain rfl := List.mem_singleton.mp hnew
      refine ⟨le_refl _, ?_⟩
      cases hentry : s.inflight process with
      | none => trivial
      | some creator =>
        obtain ⟨c, hc, -, hpending⟩ := h.inflight process creator hentry
        refine ⟨c, hkept hc, ?_, ?_⟩
        · intro k hk
          rw [hk] at hpending
          exact nomatch hpending
        · intro result period hk
          rw [hk] at hpending
          exact nomatch hpending
  · obtain ⟨c, hc, hprocess, hpending⟩ := h.inflight process' creator hentry
    exact ⟨c, hkept hc, hprocess, hpending⟩

theorem Good.findExisting (h : Good b report s) (hcall : s.calls[i]? = some call) (hpoint : call.point = .finding) :
    Good b report (findExisting b s i call) := by
  have hstarted := (h.calls call (List.mem_of_getElem? hcall)).1
  have hpending : call.point.pending = false := by
    rw [hpoint]
    rfl
  unfold Inflight.findExisting
  split <;> rename_i hcurrent
  · have hgives := h.report_of_current hcurrent
    refine h.move hcall ⟨hstarted, le_refl _, s.period, hstarted, le_refl _, hgives⟩ (by simp) ?_
      fun _ _ hentry => .inr ⟨h.not_in_map hcall hpending hentry, hentry⟩
    rintro - result period ⟨rfl, rfl⟩
    exact ⟨rfl, hgives⟩
  · split
    · have hgives : Gives report s.period (.error .noOwner) := by simp [Gives]
      refine h.move hcall ⟨hstarted, le_refl _, s.period, hstarted, le_refl _, hgives⟩ (by simp) ?_
        fun _ _ hentry => .inr ⟨h.not_in_map hcall hpending hentry, hentry⟩
      rintro - result period ⟨rfl, rfl⟩
      exact ⟨rfl, hgives⟩
    · -- the promise is entered, whatever was there
      refine h.move hcall ⟨hstarted, trivial⟩ (by simp) (by simp) fun process creator hentry => ?_
      by_cases heq : process = call.process
      · subst heq
        rw [Function.update_self] at hentry
        exact .inl ⟨(Option.some.inj hentry).symm, rfl, rfl⟩
      · rw [Function.update_of_ne heq] at hentry
        exact .inr ⟨h.not_in_map hcall hpending hentry, hentry⟩

theorem Good.saveNew (h : Good b report s) (hs : Single b s) (hcall : s.calls[i]? = some call) (hpoint : call.point = .creating)
    (hid : s.db.reports.find id = none) : ∃ report', Good b report' (saveNew b s i call id) := by
  have hmem := List.mem_of_getElem? hcall
  have hstarted := (h.calls call hmem).1
  unfold Inflight.saveNew
  split <;> rename_i hconflict
  · -- the row that it conflicts with is there
    refine ⟨report, h.move_pending hcall rfl ⟨hstarted, fun _ => ?_⟩⟩
    obtain ⟨r, hr, hsame⟩ := List.any_eq_true.mp hconflict
    rcases of_decide_eq_true hsame with heq | ⟨hquery, -, hlabel, hcurrency⟩
    · exact absurd heq.symm (Table.find_eq_none_iff.mp hid r hr)
    · rw [(current_some hs).mpr ⟨hr, hquery.symm, hlabel.symm, hcurrency.symm⟩]
      rfl
  · have hempty := empty_of_free hs hmem hpoint (by simpa using hconflict)
    have hsingle := hs.insert i call hid hempty (.settled (.ok id))
    have hnew : b.current { s.db with reports := s.db.reports.save (b.new id) } = some (b.new id) :=
      (current_some hsingle).mpr ⟨Table.mem_save.mpr (.inl rfl), rfl, rfl, rfl⟩
    have hcreated := h.create ((current_none hs).mpr hempty) hnew
    exact ⟨_, hcreated.move_pending hcall rfl ⟨hstarted, hcreated.report_of_current hnew⟩⟩

theorem Good.refetch (h : Good b report s) (hcall : s.calls[i]? = some call) {error : CallError}
    (hpoint : call.point = .refetching error) : Good b report (refetch b s i call error) := by
  obtain ⟨hstarted, hok⟩ := h.calls call (List.mem_of_getElem? hcall)
  rw [hpoint] at hok
  refine h.move_pending hcall rfl ⟨hstarted, ?_⟩
  cases hcurrent : b.current s.db with
  | some r => exact h.report_of_current hcurrent
  | none =>
    rintro rfl
    have hfound := hok rfl
    rw [hcurrent] at hfound
    exact nomatch hfound

theorem Good.settle (h : Good b report s) (hcall : s.calls[i]? = some call) {result : Except CallError String}
    (hpoint : call.point = .settled result) :
    Good b report ((s.move i call (.returned result s.period)).setInflight call.process none) := by
  obtain ⟨hstarted, hok⟩ := h.calls call (List.mem_of_getElem? hcall)
  rw [hpoint] at hok
  refine h.move hcall ⟨hstarted, le_refl _, s.period, hstarted, le_refl _, hok⟩ (by simp) ?_ fun process creator hentry => ?_
  · rintro - result' period ⟨rfl, rfl⟩
    exact ⟨rfl, hok⟩
  · by_cases heq : process = call.process
    · subst heq
      rw [Function.update_self] at hentry
      exact nomatch hentry
    · -- the entry of another process is not of this call
      rw [Function.update_of_ne heq] at hentry
      refine .inr ⟨?_, hentry⟩
      rintro rfl
      obtain ⟨c, hc, hprocess, -⟩ := h.inflight process creator hentry
      obtain rfl : call = c := Option.some.inj (hcall.symm.trans hc)
      exact heq hprocess.symm

theorem Good.join (h : Good b report s) (hcall : s.calls[i]? = some call) {creator : ℕ} (hpoint : call.point = .joined creator)
    (hjoin : join s i call creator = some s') : Good b report s' := by
  obtain ⟨hstarted, hok⟩ := h.calls call (List.mem_of_getElem? hcall)
  rw [hpoint] at hok
  obtain ⟨c, hc, -, hreturned⟩ := hok
  unfold Inflight.join at hjoin
  split at hjoin
  · rename_i result period heq
    obtain rfl := Option.some.inj hjoin
    rw [hc] at heq
    have hcpoint : c.point = .returned result period := Option.some.inj heq
    obtain ⟨hfrom, hgives⟩ := hreturned result period hcpoint
    obtain ⟨-, hto⟩ := h.calls c (List.mem_of_getElem? hc)
    rw [hcpoint] at hto
    have hpending : call.point.pending = false := by
      rw [hpoint]
      rfl
    refine h.move hcall ⟨hstarted, le_refl _, period, hfrom, hto.1, hgives⟩ (by simp)
      (fun hnot => absurd hpoint (hnot creator)) fun _ _ hentry => .inr ⟨h.not_in_map hcall hpending hentry, hentry⟩
  · exact nomatch hjoin

theorem Good.archived (h : Good b report s) (hs : Single b s) {oldReport : Report ℤ} {reconstruction : ℕ} {now : String}
    (hloaded : s.loaded reconstruction = some oldReport) (hquiet : Quiet b s (.archive reconstruction now)) :
    Good b report (Inflight.archive b s reconstruction now oldReport) := by
  have hold := hs.loaded reconstruction oldReport hloaded
  simp only [Inflight.archive]
  split
  · exact h.of_same rfl rfl rfl rfl
  · have hsingle := hs.archive hold reconstruction 0 now
    split <;> rename_i hcurrent
    · obtain ⟨r, hr, hid⟩ := hcurrent
      refine h.archive hr ((current_none hsingle).mpr fun r' hr' hholds => ?_) ?_
      · obtain ⟨⟨hmem', -⟩, hne⟩ := (holds_archived hold).mp ⟨hr', hholds⟩
        obtain ⟨hmem, hr⟩ := (current_some hs).mp hr
        exact hne (hs.single r' hmem' r hmem hholds hr ▸ hid)
      · rw [hid]
        exact hquiet oldReport hloaded ⟨r, hr, hid⟩
    · -- another reconstruction was first
      refine h.of_same (Option.ext fun r => ?_) rfl rfl rfl
      refine (current_some hsingle).trans ((holds_archived hold).trans (Iff.trans ?_ (current_some hs).symm))
      refine and_iff_left_of_imp fun hr hid => hcurrent ⟨r, (current_some hs).mpr hr, hid⟩

theorem Good.step (h : Good b report s) (hs : Single b s) {act : Act} (hquiet : Quiet b s act) (hstep : step b s act = some s') :
    ∃ report', Good b report' s' := by
  cases act with
  | start process =>
    obtain rfl := Option.some.inj hstep
    exact ⟨report, h.start process⟩
  | advance i id =>
    obtain ⟨call, hcall, hadvance⟩ := Option.bind_eq_some_iff.mp hstep
    unfold Inflight.advance at hadvance
    split at hadvance <;> rename_i hpoint
    · obtain rfl := Option.some.inj hadvance
      exact ⟨report, h.findExisting hcall hpoint⟩
    · simp only [Option.ite_none_left_eq_some] at hadvance
      obtain ⟨hid, heq⟩ := hadvance
      obtain rfl := Option.some.inj heq
      exact h.saveNew hs hcall hpoint (by simpa using hid)
    · obtain rfl := Option.some.inj hadvance
      exact ⟨report, h.refetch hcall hpoint⟩
    · obtain rfl := Option.some.inj hadvance
      exact ⟨report, h.settle hcall hpoint⟩
    · exact ⟨report, h.join hcall hpoint hadvance⟩
    · cases hadvance
  | failSave i =>
    obtain ⟨call, hcall, hfail⟩ := Option.bind_eq_some_iff.mp hstep
    simp only [Inflight.failSave, Option.ite_none_right_eq_some] at hfail
    obtain rfl := Option.some.inj hfail.2
    exact ⟨report, h.move_pending hcall rfl ⟨(h.calls call (List.mem_of_getElem? hcall)).1, fun hne => by cases hne⟩⟩
  | reportReconstruct reconstruction reportId =>
    simp only [Inflight.step, Inflight.reportReconstruct] at hstep
    split at hstep
    · simp only [Option.ite_none_right_eq_some] at hstep
      obtain rfl := Option.some.inj hstep.2
      exact ⟨report, h.of_same rfl rfl rfl rfl⟩
    · obtain rfl := Option.some.inj hstep
      exact ⟨report, h⟩
  | archive reconstruction now =>
    obtain ⟨oldReport, hloaded, rfl⟩ := Option.map_eq_some_iff.mp hstep
    exact ⟨report, h.archived hs hloaded hquiet⟩

theorem Good.report_of_returned (h : Good b report s) (hcall : call ∈ s.calls) {period : ℕ} (hstarted : call.started = period)
    (hpoint : call.point = .returned (.ok id) period) : report period = some id := by
  obtain ⟨-, hok⟩ := h.calls call hcall
  rw [hpoint] at hok
  obtain ⟨-, time, hfrom, hto, hgives⟩ := hok
  have htime : time = period := by omega
  exact htime ▸ hgives

end Good

/-! ## Main result -/

theorem single_run {b : Bucket} {s t : State} {acts : List Act} (h : Single b s) (hrun : run (step b) s acts = some t) : Single b t :=
  run_invariant (fun _ _ _ h hstep => Single.step h hstep) h hrun

theorem good_run {b : Bucket} {report : ℕ → Option String} {s t : State} {acts : List Act} (hs : Single b s)
    (h : Good b report s) (hquiet : Meets (step b) (Quiet b) s acts) (hrun : run (step b) s acts = some t) :
    ∃ report', Good b report' t := by
  have hstep (s : State) (act : Act) (s' : State) (h : Single b s ∧ ∃ report', Good b report' s) (hquiet : Quiet b s act)
      (hstep : step b s act = some s') : Single b s' ∧ ∃ report', Good b report' s' := by
    obtain ⟨hs, report', h⟩ := h
    exact ⟨hs.step hstep, h.step hs hquiet hstep⟩
  exact (run_invariant_of_meets hstep ⟨hs, report, h⟩ hquiet hrun).2

/-- At most one report of the bucket is not archived. In runs where a report is archived while no call is about to look
for it again and none has it to hand over, no call fails because of the race, and those that run between the same two
archivings return the same report. -/
theorem one_report_per_bucket (b : Bucket) (db : Db) (acts : List Act) (s : State)
    (hsingle : ∀ r ∈ db.reports.rows, ∀ r' ∈ db.reports.rows, Holds b r → Holds b r' → r = r')
    (hopened : ∀ r ∈ db.reports.rows, Holds b r → r.archived = false)
    (hrun : run (step b) (.idle db) acts = some s) :
    (∀ r ∈ s.db.reports.rows, ∀ r' ∈ s.db.reports.rows, Holds b r → Holds b r' → r.archived = false → r'.archived = false → r = r') ∧
    (Meets (step b) (Quiet b) (.idle db) acts →
      (∀ call ∈ s.calls, ∀ period, call.point ≠ .returned (.error .duplicate) period) ∧
      ∀ call ∈ s.calls, ∀ call' ∈ s.calls, ∀ period id id', call.started = period → call'.started = period →
        call.point = .returned (.ok id) period → call'.point = .returned (.ok id') period → id = id') := by
  have hidle : Single b (.idle db) := single_idle hsingle hopened
  have hs := single_run hidle hrun
  refine ⟨fun r hr r' hr' hholds hholds' _ _ => hs.single r hr r' hr' hholds hholds', fun hquiet => ?_⟩
  obtain ⟨report, hgood⟩ := good_run hidle (good_idle db) hquiet hrun
  refine ⟨fun call hcall period hpoint => ?_, fun call hcall call' hcall' period id id' hfrom hfrom' hpoint hpoint' => ?_⟩
  · obtain ⟨-, hok⟩ := hgood.calls call hcall
    rw [hpoint] at hok
    obtain ⟨-, time, -, -, hgives⟩ := hok
    exact hgives rfl
  · have hreport := hgood.report_of_returned hcall hfrom hpoint
    rw [hgood.report_of_returned hcall' hfrom' hpoint'] at hreport
    exact (Option.some.inj hreport).symm

def dailyQuery : ReportQuery where
  id := "query"
  ownerAccountId := some "seller"
  currency := some "TRY"
  dateGrouping := .daily
  reportType := .seller

def dailyBucket : Bucket := ⟨dailyQuery, "2026-03-24", "TRY"⟩

def emptyDb : Db := { Db.empty with queries := Table.save Table.empty dailyQuery }

/-- Two instances create the report, one of them twice. It is archived afterwards, and created again. -/
def orderlyActs : List Act :=
  [.start 0, .start 0, .start 1, .advance 0 "", .advance 1 "", .advance 2 "", .start 0, .advance 2 "first", .advance 2 "",
    .advance 0 "second", .advance 1 "second", .advance 0 "", .advance 1 "", .advance 1 "", .advance 3 "", .advance 0 "",
    .reportReconstruct 0 "first", .archive 0 "1774310400000", .start 1, .advance 4 "", .advance 4 "second", .advance 4 ""]

theorem one_report_per_bucket_sample : ∃ s, run (step dailyBucket) (.idle emptyDb) orderlyActs = some s ∧
    s.calls.length = 5 ∧
    (∀ call ∈ s.calls, ∀ period, call.point ≠ .returned (.error .duplicate) period) ∧
    ∀ call ∈ s.calls, ∀ call' ∈ s.calls, ∀ period id id', call.started = period → call'.started = period →
      call.point = .returned (.ok id) period → call'.point = .returned (.ok id') period → id = id' := by
  have hsome : (run (step dailyBucket) (.idle emptyDb) orderlyActs).isSome := by decide +kernel
  obtain ⟨s, hs⟩ := Option.isSome_iff_exists.mp hsome
  have hlength : s.calls.length = 5 := by
    have hmap : (run (step dailyBucket) (.idle emptyDb) orderlyActs).map (fun s => s.calls.length) = some 5 := by decide +kernel
    rw [hs] at hmap
    exact Option.some.inj hmap
  have hquiet : Meets (step dailyBucket) (Quiet dailyBucket) (.idle emptyDb) orderlyActs := by decide +kernel
  have hresult := one_report_per_bucket dailyBucket emptyDb orderlyActs s (by simp [emptyDb, Table.empty, Db.empty])
    (by simp [emptyDb, Table.empty, Db.empty]) hs
  exact ⟨s, hs, hlength, hresult.2 hquiet⟩

/-- The report that a call collided with is archived before the call looks for it again. -/
def collidingActs : List Act :=
  [.start 0, .start 1, .advance 0 "", .advance 1 "", .advance 0 "first", .advance 1 "second",
    .reportReconstruct 0 "first", .archive 0 "1774310400000", .advance 1 "", .advance 1 ""]

/-- The report of a promise is archived before the promise leaves the map, and another call joins it. -/
def handedOverActs : List Act :=
  [.start 0, .advance 0 "", .advance 0 "first", .reportReconstruct 0 "first", .archive 0 "1774310400000", .start 0, .start 1,
    .advance 0 "", .advance 1 "", .advance 2 "", .advance 2 "second", .advance 2 ""]

/-- The first call fails, and two calls after the archiving return different reports. -/
theorem archived_report_returned :
    (∃ s, run (step dailyBucket) (.idle emptyDb) collidingActs = some s ∧
      ∃ call ∈ s.calls, call.point = .returned (.error .duplicate) 1) ∧
    ∃ s, run (step dailyBucket) (.idle emptyDb) handedOverActs = some s ∧
      (∃ call ∈ s.calls, call.started = 1 ∧ call.point = .returned (.ok "first") 1) ∧
      ∃ call ∈ s.calls, call.started = 1 ∧ call.point = .returned (.ok "second") 1 := by
  have hfails : ((run (step dailyBucket) (.idle emptyDb) collidingActs).map
      fun s => decide (∃ call ∈ s.calls, call.point = .returned (.error .duplicate) 1)) = some true := by decide +kernel
  have hdiffer : ((run (step dailyBucket) (.idle emptyDb) handedOverActs).map
      fun s => decide ((∃ call ∈ s.calls, call.started = 1 ∧ call.point = .returned (.ok "first") 1) ∧
        ∃ call ∈ s.calls, call.started = 1 ∧ call.point = .returned (.ok "second") 1)) = some true := by decide +kernel
  obtain ⟨s, hs, hcall⟩ := Option.map_eq_some_iff.mp hfails
  obtain ⟨t, ht, hcalls⟩ := Option.map_eq_some_iff.mp hdiffer
  exact ⟨⟨s, hs, of_decide_eq_true hcall⟩, t, ht, of_decide_eq_true hcalls⟩

end Postral.Reports.Inflight
