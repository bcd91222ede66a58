import Postral.Lib.Group
import Postral.Lib.Run
import Postral.Setup.Entity

/-!
# Automatic report queries (`ensureDailyQueries`, `ensureSellerQueries`)

Both lock the row of the account before they look which queries it has. Queries are read as of the transaction's first
plain read, the lock gives the latest row.
-/

open Check Run Postral.Reports

namespace Postral.Setup.Queries

/-! ## The operations -/

inductive Operation where
  /-- `ensureDailyQueries`. -/
  | daily (currency : String)
  /-- `setup`: a transaction of its own around `ensureSellerQueries`. -/
  | setup (currency : String) (groupings : List DateGrouping)
  /-- `ensureSellerQueries` within the transaction that completes the platform setup. -/
  | complete (currency : String) (groupings : List DateGrouping)
  deriving DecidableEq

namespace Operation

def currency : Operation → String
  | daily currency | setup currency _ | complete currency _ => currency

/-- The groupings and types that the operation is asked for. -/
def asked : Operation → List (DateGrouping × ReportType)
  | daily _ => [(.daily, .seller), (.daily, .platformSeller)]
  | setup _ groupings | complete _ groupings => (Group.keys id groupings).map fun grouping => (grouping, .seller)

/-- The types whose queries it looks at. -/
def types : Operation → List ReportType
  | daily _ => [.seller, .platformSeller]
  | setup .. | complete .. => [.seller]

/-- The account must be an active commercial one of the platform. -/
def eligible : Operation → Bool
  | daily _ => false
  | setup .. | complete .. => true

end Operation

/-- `findAccount`, once the row is locked. -/
def checkAccount (operation : Operation) (account : Option Account) : Except HttpError Account := do
  let account ← orThrow account (.notFound "Account not found")
  require (operation.eligible → account.type = .commercial ∧ ¬ account.isExternal ∧ ¬ account.deactivated)
    (.badRequest "Report setup requires an active, non-external commercial account")
  return account

/-- The queries of the account that the operation reads. -/
def findQueries (accountId : String) (operation : Operation) (rows : List ReportQuery) : List ReportQuery :=
  rows.filter fun query => query.ownerAccountId = some accountId ∧ query.currency = some operation.currency ∧
    query.reportType ∈ operation.types

/-- What is asked for and not among the queries that were read. -/
def missing (operation : Operation) (existing : List ReportQuery) : List (DateGrouping × ReportType) :=
  operation.asked.filter fun key => ¬ ∃ query ∈ existing, query.dateGrouping = key.1 ∧ query.reportType = key.2

def createQuery (accountId : String) (operation : Operation) (id : String) (key : DateGrouping × ReportType) : ReportQuery where
  id := id
  ownerAccountId := some accountId
  currency := some operation.currency
  dateGrouping := key.1
  reportType := key.2

/-! ## Transactions -/

/-- What a transaction does next. -/
inductive Point where
  /-- The plain reads of `complete` before `ensureSellerQueries`. -/
  | opening
  | locking
  | reading
  | creating (rest : List (DateGrouping × ReportType))
  deriving DecidableEq

structure Transaction where
  operation : Operation
  point : Point
  /-- What plain reads see. `none` before the first one. -/
  snapshot : Option (List ReportQuery) := none
  inserted : List ReportQuery := []
  /-- History: what was committed when the lock was taken. -/
  atLock : List ReportQuery := []
  deriving DecidableEq

/-- The row of the account is locked by `lock`. -/
structure State where
  /-- Committed, oldest first. -/
  queries : List ReportQuery
  lock : Option ℕ
  calls : ℕ → Option Transaction
  /-- History: the committed queries of these operations, and what was committed when their lock was taken. -/
  created : List (ReportQuery × List ReportQuery)
  /-- History: the operations that have committed. -/
  finished : List Operation

inductive Act where
  | start (call : ℕ) (operation : Operation)
  /-- A call takes its next step. `account` is the row when it is locked, `id` the key of a new query. -/
  | advance (call : ℕ) (account : Option Account) (id : String)
  /-- A call throws or its process dies: its transaction is rolled back. -/
  | abort (call : ℕ)
  /-- Another part of the system commits a new query. -/
  | other (query : ReportQuery)

namespace State

def setCall (s : State) (call : ℕ) (next : Option Transaction) : State :=
  { s with calls := Function.update s.calls call next }

/-- Rolls back, and releases the lock that the call may have. -/
def rollback (s : State) (call : ℕ) : State :=
  { s.setCall call none with lock := if s.lock = some call then none else s.lock }

def idle (queries : List ReportQuery) : State := ⟨queries, none, fun _ => none, [], []⟩

end State

def begin (operation : Operation) : Transaction where
  operation := operation
  point := match operation with
    | .complete .. => .opening
    | .daily _ | .setup .. => .locking

/-- Takes the lock of the account. `none` while another transaction has it. -/
def takeLock (s : State) (call : ℕ) (transaction : Transaction) (account : Option Account) : Option State :=
  if s.lock = none then
    match checkAccount transaction.operation account with
    | .error _ => some (s.rollback call)
    | .ok _ => some { s.setCall call (some { transaction with point := .reading, atLock := s.queries }) with lock := some call }
  else none

/-- The queries that the transaction sees: those of its snapshot, and its own. -/
def seen (s : State) (transaction : Transaction) : List ReportQuery :=
  transaction.snapshot.getD s.queries ++ transaction.inserted

def readQueries (accountId : String) (s : State) (call : ℕ) (transaction : Transaction) : State :=
  s.setCall call (some { transaction with
    snapshot := some (transaction.snapshot.getD s.queries)
    point := .creating (missing transaction.operation (findQueries accountId transaction.operation (seen s transaction))) })

def insertQuery (accountId : String) (s : State) (call : ℕ) (transaction : Transaction) (id : String)
    (key : DateGrouping × ReportType) (rest : List (DateGrouping × ReportType)) : State :=
  s.setCall call (some { transaction with
    inserted := transaction.inserted ++ [createQuery accountId transaction.operation id key]
    point := .creating rest })

def commit (s : State) (call : ℕ) (transaction : Transaction) : State where
  queries := s.queries ++ transaction.inserted
  lock := none
  calls := Function.update s.calls call none
  created := s.created ++ transaction.inserted.map fun query => (query, transaction.atLock)
  finished := s.finished ++ [transaction.operation]

def advance (accountId : String) (s : State) (call : ℕ) (account : Option Account) (id : String) (transaction : Transaction) :
    Option State :=
  match transaction.point with
  | .opening => some (s.setCall call (some { transaction with snapshot := some s.queries, point := .locking }))
  | .locking => takeLock s call transaction account
  | .reading => some (readQueries accountId s call transaction)
  | .creating (key :: rest) => some (insertQuery accountId s call transaction id key rest)
  | .creating [] => some (commit s call transaction)

def step (accountId : String) (s : State) : Act → Option State
  | .start call operation => if s.calls call = none then some (s.setCall call (some (begin operation))) else none
  | .advance call account id => (s.calls call).bind (advance accountId s call account id)
  | .abort call => some (s.rollback call)
  | .other query => some { s with queries := s.queries ++ [query] }

/-! ## The claims about it -/

/-- There is a query of the account for a currency, a grouping and a type. -/
def Has (accountId : String) (rows : List ReportQuery) (currency : String) (key : DateGrouping × ReportType) : Prop :=
  ∃ query ∈ rows, query.ownerAccountId = some accountId ∧ query.currency = some currency ∧ query.dateGrouping = key.1 ∧
    query.reportType = key.2

instance (accountId : String) (rows : List ReportQuery) (currency : String) (key : DateGrouping × ReportType) :
    Decidable (Has accountId rows currency key) := by
  unfold Has
  infer_instance

/-- Currency, grouping and type. -/
def bucket (query : ReportQuery) : Option String × DateGrouping × ReportType :=
  (query.currency, query.dateGrouping, query.reportType)

/-- When a transaction takes the lock, its snapshot, if it has one, shows the queries that it is asked for and that are
committed. -/
def UpToDate (accountId : String) (s : State) : Act → Prop
  | .advance call _ _ => ∀ transaction ∈ s.calls call, transaction.point = .locking → s.lock = none →
      ∀ snapshot ∈ transaction.snapshot, ∀ key ∈ transaction.operation.asked,
        Has accountId s.queries transaction.operation.currency key → Has accountId snapshot transaction.operation.currency key
  | _ => True

instance (accountId : String) (s : State) (act : Act) : Decidable (UpToDate accountId s act) := by
  unfold UpToDate
  split <;> infer_instance

/-! ## What is read and created -/

section Reading

variable {accountId currency : String} {rows : List ReportQuery} {key : DateGrouping × ReportType} {operation : Operation}

theorem asked_nodup (operation : Operation) : operation.asked.Nodup := by
  cases operation with
  | daily currency => simp [Operation.asked]
  | setup currency groupings => exact (Group.nodup_keys groupings).map fun _ _ h => congrArg Prod.fst h
  | complete currency groupings => exact (Group.nodup_keys groupings).map fun _ _ h => congrArg Prod.fst h

theorem type_of_asked (h : key ∈ operation.asked) : key.2 ∈ operation.types := by
  cases operation with
  | daily currency =>
    simp only [Operation.asked, List.mem_cons, List.not_mem_nil, or_false] at h
    rcases h with rfl | rfl <;> simp [Operation.types]
  | setup currency groupings =>
    obtain ⟨grouping, -, rfl⟩ := List.mem_map.mp h
    exact List.mem_singleton.mpr rfl
  | complete currency groupings =>
    obtain ⟨grouping, -, rfl⟩ := List.mem_map.mp h
    exact List.mem_singleton.mpr rfl

theorem has_append {rows' : List ReportQuery} : Has accountId (rows ++ rows') currency key ↔
    Has accountId rows currency key ∨ Has accountId rows' currency key := by
  simp only [Has, List.mem_append, or_and_right, exists_or]

theorem Has.mono {rows' : List ReportQuery} (h : Has accountId rows currency key) (hsub : rows ⊆ rows') :
    Has accountId rows' currency key := by
  obtain ⟨query, hquery, hkey⟩ := h
  exact ⟨query, hsub hquery, hkey⟩

/-- What is missing is what is asked for and not there. -/
theorem mem_missing : key ∈ missing operation (findQueries accountId operation rows) ↔
    key ∈ operation.asked ∧ ¬ Has accountId rows operation.currency key := by
  unfold missing
  rw [List.mem_filter, decide_eq_true_iff]
  refine and_congr_right fun hasked => not_congr ?_
  have htype := type_of_asked hasked
  unfold findQueries Has
  constructor
  · rintro ⟨query, hquery, hgrouping, hreport⟩
    obtain ⟨hmem, hfound⟩ := List.mem_filter.mp hquery
    obtain ⟨howner, hcurrency, -⟩ := of_decide_eq_true hfound
    exact ⟨query, hmem, howner, hcurrency, hgrouping, hreport⟩
  · rintro ⟨query, hmem, howner, hcurrency, hgrouping, hreport⟩
    exact ⟨query, List.mem_filter.mpr ⟨hmem, decide_eq_true ⟨howner, hcurrency, hreport ▸ htype⟩⟩, hgrouping, hreport⟩

theorem missing_nodup (existing : List ReportQuery) : (missing operation existing).Nodup := (asked_nodup operation).filter _

end Reading

/-! ## Every run -/

/-- The transaction has the lock. -/
def Point.holds : Point → Bool
  | .opening | .locking => false
  | .reading | .creating _ => true

/-- A running transaction: what it asks for is there, inserted or still to come. -/
structure Sound (accountId : String) (queries : List ReportQuery) (lock : Option ℕ) (call : ℕ) (t : Transaction) : Prop where
  lock : t.point.holds ↔ lock = some call
  snapshot : ∀ snapshot ∈ t.snapshot, snapshot ⊆ queries
  inserted : (∀ rest, t.point ≠ .creating rest) → t.inserted = []
  asked : ∀ rest, t.point = .creating rest → ∀ key ∈ t.operation.asked,
    Has accountId queries t.operation.currency key ∨ Has accountId t.inserted t.operation.currency key ∨ key ∈ rest

structure Inv (accountId : String) (s : State) : Prop where
  calls : ∀ call t, s.calls call = some t → Sound accountId s.queries s.lock call t
  holder : ∀ call, s.lock = some call → s.calls call ≠ none
  stored : ∀ c ∈ s.created, c.1 ∈ s.queries
  finished : ∀ operation ∈ s.finished, ∀ key ∈ operation.asked, Has accountId s.queries operation.currency key

section Inv

variable {accountId : String} {s s' : State} {call : ℕ} {t : Transaction} {queries : List ReportQuery} {lock : Option ℕ}

theorem Sound.mono {queries' : List ReportQuery} (h : Sound accountId queries lock call t) (hsub : queries ⊆ queries') :
    Sound accountId queries' lock call t :=
  ⟨h.lock, fun snapshot hsnapshot => List.Subset.trans (h.snapshot snapshot hsnapshot) hsub, h.inserted,
    fun rest hpoint key hkey => (h.asked rest hpoint key hkey).imp_left fun hhas => hhas.mono hsub⟩

theorem Sound.relock {lock' : Option ℕ} (h : Sound accountId queries lock call t) (hlock : lock = some call ↔ lock' = some call) :
    Sound accountId queries lock' call t :=
  ⟨h.lock.trans hlock, h.snapshot, h.inserted, h.asked⟩

theorem inv_idle (queries : List ReportQuery) : Inv accountId (.idle queries) :=
  ⟨fun _ _ hcall => (nomatch hcall), fun _ hlock => (nomatch hlock), fun _ hc => (nomatch hc),
    fun _ hoperation => (nomatch hoperation)⟩

/-- A step of one call that keeps what is committed. -/
theorem Inv.move (h : Inv accountId s) {next : Option Transaction}
    (hnext : ∀ t ∈ next, Sound accountId s.queries lock call t) (hholder : lock = some call → next ≠ none)
    (hlock : ∀ c, c ≠ call → (s.lock = some c ↔ lock = some c)) :
    Inv accountId { s.setCall call next with lock := lock } := by
  refine ⟨fun c t hc => ?_, fun c hc => ?_, h.stored, h.finished⟩
  · change Function.update s.calls call next c = some t at hc
    by_cases heq : c = call
    · subst heq
      rw [Function.update_self] at hc
      exact hnext t hc
    · rw [Function.update_of_ne heq] at hc
      exact (h.calls c t hc).relock (hlock c heq)
  · change Function.update s.calls call next c ≠ none
    by_cases heq : c = call
    · subst heq
      rw [Function.update_self]
      exact hholder hc
    · rw [Function.update_of_ne heq]
      exact h.holder c ((hlock c heq).mpr hc)

theorem Inv.rollback (h : Inv accountId s) (call : ℕ) : Inv accountId (s.rollback call) := by
  refine h.move (fun t ht => nomatch ht) (fun heq => ?_) fun c hne => ?_
  · split at heq
    · exact nomatch heq
    · exact absurd heq ‹_›
  · split <;> rename_i heq
    · rw [heq]
      simp [Ne.symm hne]
    · rfl

theorem Inv.commit (h : Inv accountId s) (hcall : s.calls call = some t) (hpoint : t.point = .creating []) :
    Inv accountId (commit s call t) := by
  have hsound := h.calls call t hcall
  have hlock : s.lock = some call := hsound.lock.mp (by rw [hpoint]; rfl)
  have hsub : s.queries ⊆ s.queries ++ t.inserted := List.subset_append_left _ _
  refine ⟨fun c t' hc => ?_, fun c hc => (nomatch hc), fun c hc => ?_, fun operation hoperation key hkey => ?_⟩
  · change Function.update s.calls call none c = some t' at hc
    by_cases heq : c = call
    · subst heq
      rw [Function.update_self] at hc
      exact nomatch hc
    · rw [Function.update_of_ne heq] at hc
      refine ((h.calls c t' hc).mono hsub).relock ?_
      simp [hlock, Ne.symm heq, Queries.commit]
  · rcases List.mem_append.mp hc with hc | hc
    · exact hsub (h.stored c hc)
    · obtain ⟨query, hquery, rfl⟩ := List.mem_map.mp hc
      exact List.mem_append_right _ hquery
  · rcases List.mem_append.mp hoperation with hold | hnew
    · exact (h.finished operation hold key hkey).mono hsub
    · obtain rfl := List.mem_singleton.mp hnew
      rcases hsound.asked [] hpoint key hkey with hhas | hhas | hrest
      · exact hhas.mono hsub
      · exact hhas.mono (List.subset_append_right _ _)
      · exact nomatch hrest

theorem Inv.advance (h : Inv accountId s) {account : Option Account} {id : String} (hcall : s.calls call = some t)
    (hstep : advance accountId s call account id t = some s') : Inv accountId s' := by
  have hsound := h.calls call t hcall
  unfold Queries.advance at hstep
  split at hstep <;> rename_i hpoint
  · -- the plain reads of `complete`
    obtain rfl := Option.some.inj hstep
    refine h.move (fun t' ht' => ?_) (fun _ => by simp) fun c _ => Iff.rfl
    obtain rfl := Option.some.inj ht'
    refine ⟨?_, fun snapshot hsnapshot => ?_, fun _ => hsound.inserted (by simp [hpoint]), by simp⟩
    · rw [← hsound.lock, hpoint]
      rfl
    · obtain rfl := Option.some.inj hsnapshot
      exact List.Subset.refl _
  · -- the lock
    unfold takeLock at hstep
    split at hstep <;> rename_i hfree
    · split at hstep
      · obtain rfl := Option.some.inj hstep
        exact h.rollback call
      · obtain rfl := Option.some.inj hstep
        refine h.move (fun t' ht' => ?_) (fun _ => by simp) fun c hne => ?_
        · obtain rfl := Option.some.inj ht'
          exact ⟨by simp [Point.holds], hsound.snapshot, fun _ => hsound.inserted (by simp [hpoint]), by simp⟩
        · simp [hfree, Ne.symm hne]
    · exact nomatch hstep
  · -- the queries are read
    obtain rfl := Option.some.inj hstep
    refine h.move (fun t' ht' => ?_) (fun _ => by simp) fun c _ => Iff.rfl
    obtain rfl := Option.some.inj ht'
    have hsnapshot : t.snapshot.getD s.queries ⊆ s.queries := by
      cases hsn : t.snapshot with
      | none => exact List.Subset.refl _
      | some snapshot => exact hsound.snapshot snapshot hsn
    refine ⟨?_, fun snapshot heq => ?_, by simp, fun rest hrest key hkey => ?_⟩
    · rw [← hsound.lock, hpoint]
      rfl
    · obtain rfl := Option.some.inj heq
      exact hsnapshot
    · obtain rfl := Point.creating.inj hrest
      by_cases hhas : Has accountId (seen s t) t.operation.currency key
      · rcases has_append.mp hhas with hold | hown
        · exact .inl (hold.mono hsnapshot)
        · exact .inr (.inl hown)
      · exact .inr (.inr (mem_missing.mpr ⟨hkey, hhas⟩))
  · -- one query is inserted
    rename_i key rest
    obtain rfl := Option.some.inj hstep
    refine h.move (fun t' ht' => ?_) (fun _ => by simp) fun c _ => Iff.rfl
    obtain rfl := Option.some.inj ht'
    refine ⟨?_, hsound.snapshot, by simp, fun rest' hrest key' hkey' => ?_⟩
    · rw [← hsound.lock, hpoint]
      rfl
    · obtain rfl := Point.creating.inj hrest
      rcases hsound.asked _ hpoint key' hkey' with hhas | hhas | hmem
      · exact .inl hhas
      · exact .inr (.inl (has_append.mpr (.inl hhas)))
      · rcases List.mem_cons.mp hmem with rfl | hmem
        · exact .inr (.inl (has_append.mpr (.inr ⟨_, List.mem_singleton.mpr rfl, rfl, rfl, rfl, rfl⟩)))
        · exact .inr (.inr hmem)
  · obtain rfl := Option.some.inj hstep
    exact h.commit hcall hpoint

theorem Inv.step (h : Inv accountId s) {act : Act} (hstep : step accountId s act = some s') : Inv accountId s' := by
  cases act with
  | start call operation =>
    simp only [Queries.step, Option.ite_none_right_eq_some] at hstep
    obtain ⟨hcall, heq⟩ := hstep
    obtain rfl := Option.some.inj heq
    refine h.move (fun t ht => ?_) (fun _ => by simp) fun c _ => Iff.rfl
    obtain rfl := Option.some.inj ht
    have hfree : s.lock ≠ some call := fun hlock => h.holder call hlock hcall
    refine ⟨?_, fun _ hsnapshot => (nomatch hsnapshot), fun _ => rfl, fun rest hpoint => ?_⟩
    · cases operation <;> simp [begin, Point.holds, hfree]
    · cases operation <;> simp [begin] at hpoint
  | advance call account id =>
    obtain ⟨t, hcall, hadvance⟩ := Option.bind_eq_some_iff.mp hstep
    exact h.advance hcall hadvance
  | abort call =>
    obtain rfl := Option.some.inj hstep
    exact h.rollback call
  | other query =>
    obtain rfl := Option.some.inj hstep
    have hsub : s.queries ⊆ s.queries ++ [query] := List.subset_append_left _ _
    exact ⟨fun c t hc => (h.calls c t hc).mono hsub, h.holder, fun c hc => hsub (h.stored c hc),
      fun operation hoperation key hkey => (h.finished operation hoperation key hkey).mono hsub⟩

end Inv

/-! ## Runs whose transactions are up to date -/

/-- The currency, grouping and type of what is asked for. -/
def bucketOf (operation : Operation) (key : DateGrouping × ReportType) : Option String × DateGrouping × ReportType :=
  (some operation.currency, key.1, key.2)

/-- The buckets that a transaction with the lock has filled or will fill. -/
def Point.pending (operation : Operation) : Point → List (Option String × DateGrouping × ReportType)
  | .opening | .locking | .reading => []
  | .creating rest => rest.map (bucketOf operation)

/-- A transaction with the lock: it knows what was created before, and creates what was not there. -/
structure Fresh (accountId : String) (s : State) (t : Transaction) : Prop where
  created : ∀ c ∈ s.created, c.1 ∈ t.atLock
  atLock : t.atLock ⊆ s.queries
  snapshot : t.point = .reading → ∀ snapshot ∈ t.snapshot, ∀ key ∈ t.operation.asked,
    Has accountId t.atLock t.operation.currency key → Has accountId snapshot t.operation.currency key
  nodup : (t.inserted.map bucket ++ t.point.pending t.operation).Nodup
  absent : ∀ b ∈ t.inserted.map bucket ++ t.point.pending t.operation, ∀ query ∈ t.atLock,
    query.ownerAccountId = some accountId → bucket query ≠ b
  owner : ∀ query ∈ t.inserted, query.ownerAccountId = some accountId

structure Unique (accountId : String) (s : State) : Prop where
  nodup : (s.created.map fun c => bucket c.1).Nodup
  absent : ∀ c ∈ s.created, ∀ query ∈ c.2, query.ownerAccountId = some accountId → bucket query ≠ bucket c.1
  owner : ∀ c ∈ s.created, c.1.ownerAccountId = some accountId
  calls : ∀ call t, s.calls call = some t → t.point.holds → Fresh accountId s t

section Unique

variable {accountId : String} {s s' : State} {call : ℕ} {t : Transaction}

theorem has_iff_bucket {rows : List ReportQuery} {operation : Operation} {key : DateGrouping × ReportType} :
    Has accountId rows operation.currency key ↔
      ∃ query ∈ rows, query.ownerAccountId = some accountId ∧ bucket query = bucketOf operation key := by
  simp only [Has, bucket, bucketOf, Prod.mk.injEq]

theorem Fresh.mono (h : Fresh accountId s t) {queries : List ReportQuery} (hsub : s.queries ⊆ queries)
    (hcreated : s'.created = s.created) (hqueries : s'.queries = queries) : Fresh accountId s' t :=
  ⟨hcreated ▸ h.created, hqueries ▸ List.Subset.trans h.atLock hsub, h.snapshot, h.nodup, h.absent, h.owner⟩

theorem unique_idle (queries : List ReportQuery) : Unique accountId (.idle queries) :=
  ⟨List.nodup_nil, fun _ hc => (nomatch hc), fun _ hc => (nomatch hc), fun _ _ hcall => (nomatch hcall)⟩

/-- A step of one call that commits nothing. -/
theorem Unique.move (h : Unique accountId s) (lock : Option ℕ) {next : Option Transaction}
    (hnext : ∀ t ∈ next, t.point.holds → Fresh accountId s t) :
    Unique accountId { s.setCall call next with lock := lock } := by
  refine ⟨h.nodup, h.absent, h.owner, fun c t hc hholds => ?_⟩
  change Function.update s.calls call next c = some t at hc
  by_cases heq : c = call
  · subst heq
    rw [Function.update_self] at hc
    exact (hnext t hc hholds).mono (List.Subset.refl _) rfl rfl
  · rw [Function.update_of_ne heq] at hc
    exact (h.calls c t hc hholds).mono (List.Subset.refl _) rfl rfl

theorem Unique.rollback (h : Unique accountId s) (call : ℕ) : Unique accountId (s.rollback call) :=
  h.move _ fun _ ht => nomatch ht

/-- The lock was free, so all that was created is committed. -/
theorem fresh_of_lock (h : Inv accountId s) (hcall : s.calls call = some t) (hpoint : t.point = .locking)
    (hsnapshot : ∀ snapshot ∈ t.snapshot, ∀ key ∈ t.operation.asked,
      Has accountId s.queries t.operation.currency key → Has accountId snapshot t.operation.currency key) :
    Fresh accountId s { t with point := .reading, atLock := s.queries } := by
  have hinserted : t.inserted = [] := (h.calls call t hcall).inserted (by simp [hpoint])
  refine ⟨h.stored, List.Subset.refl _, fun _ => hsnapshot, ?_, ?_, ?_⟩ <;> simp [hinserted, Point.pending]

/-- What the transaction finds missing was missing when it took the lock. -/
theorem Fresh.read (h : Fresh accountId s t) (hsound : Sound accountId s.queries s.lock call t) (hpoint : t.point = .reading) :
    Fresh accountId s { t with
      snapshot := some (t.snapshot.getD s.queries)
      point := .creating (missing t.operation (findQueries accountId t.operation (seen s t))) } := by
  have hinserted : t.inserted = [] := hsound.inserted (by simp [hpoint])
  refine ⟨h.created, h.atLock, by simp, ?_, ?_, h.owner⟩
  · simp only [hinserted, List.map_nil, List.nil_append, Point.pending]
    refine (missing_nodup _).map fun key key' heq => ?_
    simpa [bucketOf, Prod.ext_iff] using heq
  · simp only [hinserted, List.map_nil, List.nil_append, Point.pending]
    intro b hb query hquery howner heq
    obtain ⟨key, hkey, rfl⟩ := List.mem_map.mp hb
    obtain ⟨hasked, hnot⟩ := mem_missing.mp hkey
    have hhas : Has accountId t.atLock t.operation.currency key := has_iff_bucket.mpr ⟨query, hquery, howner, heq⟩
    apply hnot
    unfold seen
    rw [hinserted, List.append_nil]
    cases hsn : t.snapshot with
    | none => exact hhas.mono h.atLock
    | some snapshot => exact h.snapshot hpoint snapshot hsn key hasked hhas

theorem Fresh.insert (h : Fresh accountId s t) {id : String} {key : DateGrouping × ReportType}
    {rest : List (DateGrouping × ReportType)} (hpoint : t.point = .creating (key :: rest)) :
    Fresh accountId s { t with
      inserted := t.inserted ++ [createQuery accountId t.operation id key]
      point := .creating rest } := by
  have hbuckets : (t.inserted ++ [createQuery accountId t.operation id key]).map bucket ++
      Point.pending t.operation (.creating rest) = t.inserted.map bucket ++ t.point.pending t.operation := by
    simp [hpoint, Point.pending, bucket, createQuery, bucketOf]
  refine ⟨h.created, h.atLock, by simp, hbuckets ▸ h.nodup, hbuckets ▸ h.absent, fun query hquery => ?_⟩
  rcases List.mem_append.mp hquery with hold | hnew
  · exact h.owner query hold
  · obtain rfl := List.mem_singleton.mp hnew
    rfl

theorem Unique.commit (h : Unique accountId s) (hinv : Inv accountId s) (hcall : s.calls call = some t)
    (hpoint : t.point = .creating []) : Unique accountId (commit s call t) := by
  have hholds : t.point.holds := by
    rw [hpoint]
    rfl
  have hfresh := h.calls call t hcall hholds
  have hlock : s.lock = some call := (hinv.calls call t hcall).lock.mp hholds
  have hpending : t.inserted.map bucket ++ t.point.pending t.operation = t.inserted.map bucket := by
    rw [hpoint]
    exact List.append_nil _
  have hnodup := hpending ▸ hfresh.nodup
  have habsent := hpending ▸ hfresh.absent
  refine ⟨?_, fun c hc => ?_, fun c hc => ?_, fun c t' hc hholds' => ?_⟩
  · simp only [Queries.commit, List.map_append, List.map_map]
    refine List.nodup_append.mpr ⟨h.nodup, hnodup, fun b hb b' hb' heq => ?_⟩
    obtain ⟨c, hc, rfl⟩ := List.mem_map.mp hb
    exact habsent b' hb' c.1 (hfresh.created c hc) (h.owner c hc) heq
  · rcases List.mem_append.mp hc with hold | hnew
    · exact h.absent c hold
    · obtain ⟨query, hquery, rfl⟩ := List.mem_map.mp hnew
      exact habsent _ (List.mem_map_of_mem hquery)
  · rcases List.mem_append.mp hc with hold | hnew
    · exact h.owner c hold
    · obtain ⟨query, hquery, rfl⟩ := List.mem_map.mp hnew
      exact hfresh.owner query hquery
  · change Function.update s.calls call none c = some t' at hc
    by_cases heq : c = call
    · subst heq
      rw [Function.update_self] at hc
      exact nomatch hc
    · -- nobody else has the lock
      rw [Function.update_of_ne heq] at hc
      have hother : s.lock = some c := (hinv.calls c t' hc).lock.mp hholds'
      rw [hlock] at hother
      exact absurd (Option.some.inj hother).symm heq

theorem Unique.step (h : Unique accountId s) (hinv : Inv accountId s) {act : Act} (hok : UpToDate accountId s act)
    (hstep : step accountId s act = some s') : Unique accountId s' := by
  cases act with
  | start call operation =>
    simp only [Queries.step, Option.ite_none_right_eq_some] at hstep
    obtain ⟨-, heq⟩ := hstep
    obtain rfl := Option.some.inj heq
    refine h.move _ fun t ht hholds => ?_
    obtain rfl := Option.some.inj ht
    cases operation <;> simp [begin, Point.holds] at hholds
  | advance call account id =>
    obtain ⟨t, hcall, hadvance⟩ := Option.bind_eq_some_iff.mp hstep
    have hsound := hinv.calls call t hcall
    unfold Queries.advance at hadvance
    split at hadvance <;> rename_i hpoint
    · obtain rfl := Option.some.inj hadvance
      refine h.move _ fun t' ht' hholds => ?_
      obtain rfl := Option.some.inj ht'
      exact nomatch hholds
    · unfold takeLock at hadvance
      split at hadvance <;> rename_i hfree
      · split at hadvance
        · obtain rfl := Option.some.inj hadvance
          exact h.rollback call
        · obtain rfl := Option.some.inj hadvance
          refine h.move _ fun t' ht' _ => ?_
          obtain rfl := Option.some.inj ht'
          exact fresh_of_lock hinv hcall hpoint (hok t hcall hpoint hfree)
      · exact nomatch hadvance
    · obtain rfl := Option.some.inj hadvance
      refine h.move _ fun t' ht' _ => ?_
      obtain rfl := Option.some.inj ht'
      exact (h.calls call t hcall (by rw [hpoint]; rfl)).read hsound hpoint
    · obtain rfl := Option.some.inj hadvance
      refine h.move _ fun t' ht' _ => ?_
      obtain rfl := Option.some.inj ht'
      exact (h.calls call t hcall (by rw [hpoint]; rfl)).insert hpoint
    · obtain rfl := Option.some.inj hadvance
      exact h.commit hinv hcall hpoint
  | abort call =>
    obtain rfl := Option.some.inj hstep
    exact h.rollback call
  | other query =>
    obtain rfl := Option.some.inj hstep
    exact ⟨h.nodup, h.absent, h.owner, fun c t hc hholds =>
      (h.calls c t hc hholds).mono (List.subset_append_left _ _) rfl rfl⟩

end Unique

/-! ## Main result -/

section Main

variable {accountId : String} {queries : List ReportQuery}

/-- Committed queries stay as they are. -/
theorem queries_kept {s s' : State} {act : Act} (hstep : step accountId s act = some s') :
    s.queries <+: s'.queries := by
  cases act with
  | start call operation =>
    simp only [step, Option.ite_none_right_eq_some] at hstep
    obtain rfl := Option.some.inj hstep.2
    exact List.prefix_rfl
  | advance call account id =>
    obtain ⟨t, -, hadvance⟩ := Option.bind_eq_some_iff.mp hstep
    unfold advance at hadvance
    split at hadvance
    · obtain rfl := Option.some.inj hadvance
      exact List.prefix_rfl
    · unfold takeLock at hadvance
      split at hadvance
      · split at hadvance
        · obtain rfl := Option.some.inj hadvance
          exact List.prefix_rfl
        · obtain rfl := Option.some.inj hadvance
          exact List.prefix_rfl
      · exact nomatch hadvance
    · obtain rfl := Option.some.inj hadvance
      exact List.prefix_rfl
    · obtain rfl := Option.some.inj hadvance
      exact List.prefix_rfl
    · obtain rfl := Option.some.inj hadvance
      exact List.prefix_append _ _
  | abort call =>
    obtain rfl := Option.some.inj hstep
    exact List.prefix_rfl
  | other query =>
    obtain rfl := Option.some.inj hstep
    exact List.prefix_append _ _

theorem inv_run {s t : State} {acts : List Act} (h : Inv accountId s) (hrun : run (step accountId) s acts = some t) :
    Inv accountId t :=
  run_invariant (fun _ _ _ hinv hstep => Inv.step hinv hstep) h hrun

theorem unique_run {s t : State} {acts : List Act} (h : Inv accountId s ∧ Unique accountId s)
    (hok : Meets (step accountId) (UpToDate accountId) s acts) (hrun : run (step accountId) s acts = some t) :
    Unique accountId t := by
  have hstep (s : State) (act : Act) (s' : State) (h : Inv accountId s ∧ Unique accountId s) (hok : UpToDate accountId s act)
      (hstep : step accountId s act = some s') : Inv accountId s' ∧ Unique accountId s' :=
    ⟨h.1.step hstep, h.2.step h.1 hok hstep⟩
  exact (run_invariant_of_meets hstep h hok hrun).2

theorem kept_run {s t : State} {acts : List Act} (hrun : run (step accountId) s acts = some t) :
    s.queries <+: t.queries := by
  have hstep (t : State) (act : Act) (t' : State) (hkept : s.queries <+: t.queries) (hstep : step accountId t act = some t') :
      s.queries <+: t'.queries := List.IsPrefix.trans hkept (queries_kept hstep)
  exact run_invariant hstep List.prefix_rfl hrun

end Main

/-- Queries stay, and an operation leaves what it was asked for. Where a completion knows the latest queries when it
takes the lock, the operations create at most one query of a currency, grouping and type, and none that was there. -/
theorem queries_created_once (accountId : String) (queries : List ReportQuery) (before after : List Act) (s t : State)
    (hbefore : run (step accountId) (.idle queries) before = some s) (hafter : run (step accountId) s after = some t) :
    s.queries <+: t.queries ∧
    (∀ operation ∈ t.finished, ∀ key ∈ operation.asked, Has accountId t.queries operation.currency key) ∧
    (Meets (step accountId) (UpToDate accountId) (.idle queries) (before ++ after) →
      (t.created.map fun c => bucket c.1).Nodup ∧
      ∀ c ∈ t.created, ∀ query ∈ c.2, query.ownerAccountId = some accountId → bucket query ≠ bucket c.1) := by
  have hrun : run (step accountId) (.idle queries) (before ++ after) = some t :=
    run_append_eq_some.mpr ⟨s, hbefore, hafter⟩
  refine ⟨kept_run hafter, (inv_run (inv_idle queries) hrun).finished, fun hok => ?_⟩
  have hunique := unique_run ⟨inv_idle queries, unique_idle queries⟩ hok hrun
  exact ⟨hunique.nodup, hunique.absent⟩

def activeAccount : Account where
  id := "seller"
  name := "Seller"
  type := .commercial
  defaultAddressId := some "address"

/-- A digestion event creates both daily queries. -/
def digestionActs : List Act :=
  [.start 0 (.daily "TRY"), .advance 0 (some activeAccount) "", .advance 0 none "", .advance 0 none "seller-daily",
    .advance 0 none "platform-seller-daily", .advance 0 none ""]

/-- The setup of the platform is completed next. -/
def completeActs : List Act :=
  [.start 1 (.complete "TRY" [.daily, .monthly]), .advance 1 none "", .advance 1 (some activeAccount) "", .advance 1 none "",
    .advance 1 none "seller-monthly", .advance 1 none ""]

theorem queries_created_once_sample : ∃ s t : State, t.created.length = 3 ∧ s.queries <+: t.queries ∧
    (∀ operation ∈ t.finished, ∀ key ∈ operation.asked, Has "seller" t.queries operation.currency key) ∧
    (t.created.map fun c => bucket c.1).Nodup := by
  obtain ⟨s, hs⟩ : ∃ s, run (step "seller") (.idle []) digestionActs = some s := ⟨_, rfl⟩
  obtain ⟨t, ht, hlength⟩ : ∃ t, run (step "seller") s completeActs = some t ∧ t.created.length = 3 := by
    obtain rfl := Option.some.inj hs
    exact ⟨_, rfl, rfl⟩
  have hok : Meets (step "seller") (UpToDate "seller") (.idle []) (digestionActs ++ completeActs) := by decide +kernel
  obtain ⟨hkept, hasked, honce⟩ := queries_created_once "seller" [] digestionActs completeActs s t hs ht
  exact ⟨s, t, hlength, hkept, hasked, (honce hok).1⟩

/-- The completion read before the digestion event committed, and locks the account after it. -/
def staleActs : List Act :=
  [.start 1 (.complete "TRY" [.daily]), .advance 1 none ""] ++ digestionActs ++
    [.advance 1 (some activeAccount) "", .advance 1 none "", .advance 1 none "second-seller-daily", .advance 1 none ""]

/-- The account has two daily queries of one type then. -/
theorem stale_query_duplicated : ∃ t, run (step "seller") (.idle []) staleActs = some t ∧
    ¬ (t.created.map fun c => bucket c.1).Nodup ∧
    ∃ c ∈ t.created, ∃ query ∈ c.2, query.ownerAccountId = some "seller" ∧ bucket query = bucket c.1 := by
  refine ⟨_, rfl, ?_, ?_⟩
  · decide +kernel
  · decide +kernel

end Postral.Setup.Queries
