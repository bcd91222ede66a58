import Postral.Billing.System
import Postral.Reports.Missing

/-!
# Billing at most once

`createBillingPayment` asks for a billing address that nothing sets, so a run ends where it would create
its first payment.
-/

open Check Session Run Postral.Reports Postral.Snapshots

namespace Postral.Billing

/-! ## Billing runs -/

/-- Nothing is billed, and no run is about to mark. -/
structure NoBills (s : System) : Prop where
  bills : s.bills = []
  marks : s.marks = []
  points : ∀ run ∈ s.runs.rows, ∀ bill rest sellers, run.point ≠ .marking bill rest sellers

theorem no_bills_start : NoBills .start := by
  constructor <;> simp [System.start, Table.empty]

section Steps

variable {s : System} {run : BillingRun} {db : Db}

theorem NoBills.set_db (h : NoBills s) (db : Db) : NoBills (s.setDb db) := ⟨h.bills, h.marks, h.points⟩

theorem points_saved (h : NoBills s) {run : BillingRun} (hrun : ∀ bill rest sellers, run.point ≠ .marking bill rest sellers) :
    ∀ x ∈ (s.runs.save run).rows, ∀ bill rest sellers, x.point ≠ .marking bill rest sellers := by
  intro x hx
  rcases Table.mem_save.mp hx with rfl | ⟨hx, -⟩
  · exact hrun
  · exact h.points x hx

/-- A step of a billing run moves the run and nothing else. -/
theorem advance_spec (h : NoBills s) (hrun : run ∈ s.runs.rows) (today : String) (now : ℕ) (payments : PaymentServices) :
    ∃ runs : Table BillingRun.id, advanceRun s run today now payments = { s with runs := runs } ∧
      ∀ x ∈ runs.rows, ∀ bill rest sellers, x.point ≠ .marking bill rest sellers := by
  have hset : ∀ point, (∀ bill rest sellers, point ≠ BillingPoint.marking bill rest sellers) →
      ∃ runs : Table BillingRun.id, s.setRun run point = { s with runs := runs } ∧
        ∀ x ∈ runs.rows, ∀ bill rest sellers, x.point ≠ .marking bill rest sellers :=
    fun point hpoint => ⟨_, rfl, points_saved h hpoint⟩
  have hend : ∃ runs : Table BillingRun.id, s.endRun run.id = { s with runs := runs } ∧
      ∀ x ∈ runs.rows, ∀ bill rest sellers, x.point ≠ .marking bill rest sellers :=
    ⟨_, rfl, fun x hx => h.points x (Table.mem_delete.mp hx).1⟩
  unfold advanceRun
  split <;> rename_i hpoint
  · exact hend
  · split
    · exact hset _ (by simp)
    · exact hset _ (by simp)
  · exact hset _ (by simp)
  · dsimp only
    split
    · exact hset _ (by simp)
    · exact hset _ (by simp)
  · dsimp only
    split <;> rename_i hcreate
    · exact absurd hcreate (billing_payment_refused _ _ _ _ _ _)
    · exact hend
  · exact absurd hpoint (h.points run hrun _ _ _)

theorem no_bills_step {env : Env} {s' : System} {act : BillingAct} (h : NoBills s) (hstep : billingStep env s act = some s') :
    NoBills s' := by
  cases act with
  | load id relation =>
    simp only [billingStep] at hstep
    split at hstep
    · simp at hstep
    · split at hstep
      · exact Option.some.inj hstep ▸ ⟨h.bills, h.marks, h.points⟩
      · exact Option.some.inj hstep ▸ h
  | digest id errors =>
    obtain ⟨d, -, rfl⟩ := Option.map_eq_some_iff.mp hstep
    exact ⟨h.bills, h.marks, h.points⟩
  | findOrCreate query periodLabel currency id =>
    obtain ⟨db, -, rfl⟩ := Option.map_eq_some_iff.mp hstep
    exact h.set_db db
  | environment other =>
    simp only [billingStep] at hstep
    split at hstep
    · exact Option.some.inj hstep ▸ h.set_db _
    · simp at hstep
  | runBilling id settings =>
    simp only [billingStep] at hstep
    split at hstep
    · simp at hstep
    · exact Option.some.inj hstep ▸ ⟨h.bills, h.marks, points_saved h (by simp)⟩
  | advance id today now payments =>
    obtain ⟨run, hfind, rfl⟩ := Option.map_eq_some_iff.mp hstep
    obtain ⟨runs, hadvance, hpoints⟩ := advance_spec h (Table.mem_of_find hfind) today now payments
    rw [hadvance]
    exact ⟨h.bills, h.marks, hpoints⟩
  | fail id =>
    simp only [billingStep] at hstep
    split at hstep
    · exact Option.some.inj hstep ▸ ⟨h.bills, h.marks, fun x hx => h.points x (Table.mem_delete.mp hx).1⟩
    · simp at hstep

end Steps

/-! ## With reconstructions -/

inductive ServiceAct where
  | billing (act : BillingAct)
  /-- `reportReconstruct`, any of whose statements may fail. -/
  | reconstruct (c : Rebuilding) (reportId : String) (findNotExistingPaymentsForAccountId : Bool)
      (errors : ℕ → Option HttpError)

def serviceStep (env : Env) (s : System) : ServiceAct → Option System
  | .billing act => billingStep env s act
  | .reconstruct c reportId findNotExistingPaymentsForAccountId errors =>
    some (s.setDb (left (reportReconstruct c reportId findNotExistingPaymentsForAccountId) { db := s.db, failure := errors }))

/-- The seller that a bill is about. -/
def Bill.seller (bill : Bill) : String :=
  match bill.kind with
  | .commission => bill.customerAccountId
  | .earnings => bill.sellerAccountId

/-- The bills that include what a payment brought a seller. -/
def System.billsOf (s : System) (kind : BillKind) (seller paymentId : String) : List Bill :=
  s.bills.filter fun bill => bill.kind = kind ∧ bill.seller = seller ∧ ∃ p ∈ bill.included, p.paymentId = paymentId

theorem no_bills_service_step {env : Env} {s s' : System} {act : ServiceAct} (h : NoBills s)
    (hstep : serviceStep env s act = some s') : NoBills s' := by
  cases act with
  | billing act => exact no_bills_step h hstep
  | reconstruct c reportId findNotExistingPaymentsForAccountId errors => exact Option.some.inj hstep ▸ h.set_db _

theorem billed_at_most_once (env : Env) (acts : List ServiceAct) (s : System)
    (h : run (serviceStep env) .start acts = some s) (kind : BillKind) (seller paymentId : String) :
    (s.billsOf kind seller paymentId).length ≤ 1 := by
  have hnone : NoBills s := run_invariant (fun _ _ _ hinv hstep => no_bills_service_step hinv hstep) no_bills_start h
  unfold System.billsOf
  rw [hnone.bills]
  exact Nat.zero_le 1

/-! A sale of January 5 and two billing runs of the next day that overlap. -/

def sampleQuery : ReportQuery := ⟨"query", some "seller", some "TRY", .daily, .seller⟩

def sampleTables : Db :=
  { Db.empty with
    queries := Table.empty.save sampleQuery
    payments := (Table.empty.save (samplePayment "sale" .purchase
      (Table.empty.save (sampleItem "line-1" "book" 1100000 100000 100000)))).save
      (samplePayment "late" .purchase (Table.empty.save (sampleItem "line-2" "pen" 600000 100000 200000)))
    orders := (Table.empty.save ⟨"sale", "seller", 1100000⟩).save ⟨"late", "seller", 600000⟩ }

def noErrors : ℕ → Option HttpError := fun _ => none

def samplePayments : PaymentServices := ⟨_, streetServices, streetKeys, fun _ => "0", ("payment", "account", "address")⟩

/-- The sale is in its report. -/
def soldActs : List BillingAct :=
  [.environment sampleTables, .findOrCreate sampleQuery "2026-01-05" "TRY" "report",
    .load 1 ⟨"report", "sale", some "seller", .digesting, "first"⟩, .digest 1 noErrors]

def overlappingRuns : List BillingAct :=
  soldActs ++ [.runBilling 1 ⟨some "admin", some 200000⟩, .runBilling 2 ⟨some "admin", some 200000⟩] ++
    (List.replicate 4 [.advance 1 "2026-01-06" 7 samplePayments, .advance 2 "2026-01-06" 7 samplePayments]).flatten

theorem billed_at_most_once_sample : ∃ s ∈ run (serviceStep sampleEnv) .start (overlappingRuns.map .billing),
    s.portions ≠ [] ∧ s.runs.rows = [] ∧ (s.billsOf .earnings "seller" "sale").length ≤ 1 := by
  have hrun : ∃ s ∈ run (serviceStep sampleEnv) .start (overlappingRuns.map .billing), s.portions ≠ [] ∧ s.runs.rows = [] := by
    decide +kernel
  obtain ⟨s, hs, hportions, hends⟩ := hrun
  exact ⟨s, hs, hportions, hends, billed_at_most_once sampleEnv _ s hs .earnings "seller" "sale"⟩

end Postral.Billing
