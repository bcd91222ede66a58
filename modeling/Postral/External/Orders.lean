import Postral.External.Service
import Postral.Lib.Run

/-!
# Orders of external platforms, recorded by concurrent calls

The transaction of a call locks the row of the platform first. Its first plain read is the check for the order. The
completion follows the commit.
-/

open Check Run Postral.Accounts
open Postral.Setup (trimmed)

namespace Postral.External

/-! ## Calls -/

structure Db where
  platforms : List ExternalPlatform
  accounts : List Account
  addresses : List Address
  payments : List Payment

/-- What a transaction has inserted, and the default addresses that it has set. -/
structure Writes where
  accounts : List Account := []
  addresses : List Address := []
  payments : List Payment := []
  defaults : List (String × String) := []

inductive Outcome where
  | recorded (payment : Payment)
  /-- `ConflictException`: the payment was recorded, but completion processing failed. -/
  | completionFailed (payment : Payment)
  | thrown (error : RequestError)

inductive Point where
  | locking
  | checking
  | resolvingAccount
  | resolvingAddress (account : Account)
  | creating (account : Account) (address : Address)
  | committing (payment : Payment)
  /-- After the commit. -/
  | completing (payment : Payment)
  | returned (outcome : Outcome)

structure Call where
  dto : CreatePaymentDTO
  services : Services
  point : Point
  /-- What plain reads of accounts and addresses see. -/
  snapshot : List Account × List Address := ([], [])
  written : Writes := {}

structure State where
  db : Db
  /-- The call whose transaction has the row of a platform. -/
  lock : String → Option ℕ
  /-- By number. -/
  calls : List Call

inductive Act where
  | start (user : Option User) (services : Services) (dto : CreatePaymentDTO)
  /-- A call takes its next step. `ids` are keys that the database generates. -/
  | advance (call : ℕ) (ids : String × String × String)
  /-- A statement of the transaction fails, or the process dies: it is rolled back. -/
  | abort (call : ℕ) (error : RequestError)
  /-- The end of `onPaymentCompleted`. -/
  | complete (call : ℕ) (succeeded : Bool)
  /-- The rest of the system. -/
  | other (db : Db)

namespace State

def idle (db : Db) : State := ⟨db, fun _ => none, []⟩

def setCall (s : State) (i : ℕ) (call : Call) : State := { s with calls := s.calls.set i call }

def setLock (s : State) (platform : String) (holder : Option ℕ) : State :=
  { s with lock := Function.update s.lock platform holder }

/-- Rolls the transaction back, and releases the lock that it may have. -/
def rollback (s : State) (i : ℕ) (call : Call) (error : RequestError) : State :=
  (s.setCall i { call with point := .returned (.thrown error), written := {} }).setLock call.dto.externalPlatformId
    (if s.lock call.dto.externalPlatformId = some i then none else s.lock call.dto.externalPlatformId)

end State

/-- The orders among the payments. -/
def Db.orders (db : Db) : List (String × String × String) := db.payments.filterMap orderEntry

/-- Platform and order id of each. -/
def Db.keys (db : Db) : List (String × String) := db.orders.map Prod.snd

def start (s : State) (user : Option User) (services : Services) (dto : CreatePaymentDTO) : State :=
  let point := match checkRequest services user dto with
    | .ok _ => .locking
    | .error error => .returned (.thrown error)
  { s with calls := s.calls ++ [{ dto := dto, services := services, point := point }] }

def checkPlatform (platform : Option ExternalPlatform) : Except HttpError Unit := do
  let platform ← orThrow platform (.notFound "External platform not found")
  require platform.active (.badRequest "External platform is inactive")

def Db.platform (db : Db) (id : String) : Option ExternalPlatform := db.platforms.find? fun platform => platform.id = id

/-- Takes the lock of the platform. `none` while another transaction has it. -/
def takeLock (s : State) (i : ℕ) (call : Call) : Option State :=
  if s.lock call.dto.externalPlatformId = none then
    match checkPlatform (s.db.platform call.dto.externalPlatformId) with
    | .error error => some (s.rollback i call (.http error))
    | .ok _ => some ((s.setCall i { call with point := .checking }).setLock call.dto.externalPlatformId (some i))
  else none

def checkOrder (s : State) (i : ℕ) (call : Call) : State :=
  if s.db.payments.any (fun payment => orderKey payment = some call.dto.key) then
    s.rollback i call (.http (.conflict "This external platform order has already been recorded"))
  else s.setCall i { call with point := .resolvingAccount, snapshot := (s.db.accounts, s.db.addresses) }

def stepAccount (config : Config) (s : State) (i : ℕ) (call : Call) (id : String) : State :=
  match resolveAccount config call.dto.externalPlatformId call.dto.customerAccount call.snapshot.1 id with
  | .error error => s.rollback i call (.http error)
  | .ok (account, isNew) => s.setCall i { call with
      point := .resolvingAddress account
      written := if isNew then { call.written with accounts := call.written.accounts ++ [account] } else call.written }

def stepAddress (config : Config) (s : State) (i : ℕ) (call : Call) (account : Account) (id : String) : State :=
  let (address, isNew) := resolveAddress config call.dto.externalPlatformId call.dto.billingAddress call.snapshot.2 id
  s.setCall i { call with
    point := .creating account address
    written := if isNew then { call.written with addresses := call.written.addresses ++ [address] } else call.written }

/-- `updateDefaultAddress` where it is needed. -/
def withDefault (written : Writes) (account : Account) (address : Address) : Writes :=
  if account.column .defaultAddressId = some address.id then written
  else { written with defaults := written.defaults ++ [(account.id, address.id)] }

def stepPayment (config : Config) (s : State) (i : ℕ) (call : Call) (account : Account) (address : Address)
    (ids : String × String × String) : State :=
  match s.db.platform call.dto.externalPlatformId with
  | none => s.rollback i call (.http (.notFound "External platform not found"))
  | some platform =>
    match createPayment config call.services call.dto platform account address ids with
    | .error error => s.rollback i call (.http error)
    | .ok payment =>
      let written := withDefault call.written account address
      s.setCall i { call with
        point := .committing payment
        written := { written with payments := written.payments ++ [payment] } }

def setDefault (defaults : List (String × String)) (account : Account) : Account :=
  match defaults.find? fun entry => entry.1 = account.id with
  | some entry => { account with column := Function.update account.column .defaultAddressId (some entry.2) }
  | none => account

def Db.write (db : Db) (written : Writes) : Db where
  platforms := db.platforms
  accounts := (db.accounts ++ written.accounts).map (setDefault written.defaults)
  addresses := db.addresses ++ written.addresses
  payments := db.payments ++ written.payments

def commit (s : State) (i : ℕ) (call : Call) (payment : Payment) : State :=
  { (s.setCall i { call with point := .completing payment }).setLock call.dto.externalPlatformId none with
    db := s.db.write call.written }

def advance (config : Config) (s : State) (i : ℕ) (ids : String × String × String) (call : Call) : Option State :=
  match call.point with
  | .locking => takeLock s i call
  | .checking => some (checkOrder s i call)
  | .resolvingAccount => some (stepAccount config s i call ids.1)
  | .resolvingAddress account => some (stepAddress config s i call account ids.1)
  | .creating account address => some (stepPayment config s i call account address ids)
  | .committing payment => some (commit s i call payment)
  | .completing _ | .returned _ => none

def abort (s : State) (i : ℕ) (error : RequestError) (call : Call) : Option State :=
  match call.point with
  | .completing _ | .returned _ => none
  | _ => some (s.rollback i call error)

def complete (s : State) (i : ℕ) (succeeded : Bool) (call : Call) : Option State :=
  match call.point with
  | .completing payment =>
    some (s.setCall i { call with point := .returned (if succeeded then .recorded payment else .completionFailed payment) })
  | _ => none

def step (config : Config) (s : State) : Act → Option State
  | .start user services dto => some (start s user services dto)
  | .advance i ids => (s.calls[i]?).bind (advance config s i ids)
  | .abort i error => (s.calls[i]?).bind (abort s i error)
  | .complete i succeeded => (s.calls[i]?).bind (complete s i succeeded)
  -- nothing else records orders of external platforms
  | .other db => if db.orders = s.db.orders then some { s with db := db } else none

/-! ## Every run -/

/-- The transaction has the lock. -/
def Point.holds : Point → Bool
  | .locking | .completing _ | .returned _ => false
  | .checking | .resolvingAccount | .resolvingAddress _ | .creating _ _ | .committing _ => true

/-- The order was not there. -/
def Point.checked : Point → Bool
  | .locking | .checking | .completing _ | .returned _ => false
  | .resolvingAccount | .resolvingAddress _ | .creating _ _ | .committing _ => true

/-- The payment that the call has committed. -/
def Point.recorded : Point → Option Payment
  | .completing payment | .returned (.recorded payment) | .returned (.completionFailed payment) => some payment
  | _ => none

structure CallOk (s : State) (i : ℕ) (call : Call) : Prop where
  lock : call.point.holds ↔ s.lock call.dto.externalPlatformId = some i
  absent : call.point.checked → call.dto.key ∉ s.db.keys
  unwritten : call.point.recorded = none → (∀ payment, call.point ≠ .committing payment) → call.written.payments = []
  committing : ∀ payment, call.point = .committing payment →
    call.written.payments = [payment] ∧ orderKey payment = some call.dto.key
  recorded : ∀ payment, call.point.recorded = some payment →
    orderKey payment = some call.dto.key ∧ (payment.id, call.dto.key) ∈ s.db.orders

structure Inv (s : State) : Prop where
  unique : s.db.keys.Nodup
  holder : ∀ platform i, s.lock platform = some i → i < s.calls.length
  calls : ∀ i call, s.calls[i]? = some call → CallOk s i call

section Inv

variable {config : Config} {s s' : State} {i j : ℕ} {call call' : Call}

theorem CallOk.relock (h : CallOk s j call) (hdb : s'.db.orders = s.db.orders)
    (hlock : s.lock call.dto.externalPlatformId = some j ↔ s'.lock call.dto.externalPlatformId = some j) : CallOk s' j call := by
  have hkeys : s'.db.keys = s.db.keys := congrArg (List.map Prod.snd) hdb
  refine ⟨h.lock.trans hlock, fun hchecked => ?_, h.unwritten, h.committing, fun payment hpayment => ?_⟩
  · rw [hkeys]
    exact h.absent hchecked
  · rw [hdb]
    exact h.recorded payment hpayment

theorem inv_idle {db : Db} (h : db.keys.Nodup) : Inv (.idle db) :=
  ⟨h, fun _ _ hlock => (nomatch hlock), fun _ _ hcall => (nomatch hcall)⟩

/-- A step of one call that commits nothing. Nobody else gets or loses a lock. -/
theorem Inv.move (h : Inv s) (hcall : s.calls[i]? = some call) {lock : String → Option ℕ}
    (hok : CallOk { s.setCall i call' with lock := lock } i call')
    (hlock : ∀ platform j, j ≠ i → (s.lock platform = some j ↔ lock platform = some j)) :
    Inv { s.setCall i call' with lock := lock } := by
  have hlt : i < s.calls.length := (List.getElem?_eq_some_iff.mp hcall).1
  refine ⟨h.unique, fun platform j hj => ?_, fun j c hc => ?_⟩
  · change j < (s.calls.set i call').length
    rw [List.length_set]
    by_cases heq : j = i
    · rw [heq]
      exact hlt
    · exact h.holder platform j ((hlock platform j heq).mpr hj)
  · change (s.calls.set i call')[j]? = some c at hc
    by_cases heq : j = i
    · subst heq
      rw [List.getElem?_set_self hlt] at hc
      obtain rfl := Option.some.inj hc
      exact hok
    · rw [List.getElem?_set_ne (Ne.symm heq)] at hc
      exact (h.calls j c hc).relock rfl (hlock _ j heq)

theorem Inv.rollback (h : Inv s) (hcall : s.calls[i]? = some call) (error : RequestError) : Inv (s.rollback i call error) := by
  refine h.move hcall ⟨?_, by simp [Point.checked], fun _ _ => rfl, by simp, by simp [Point.recorded]⟩ fun platform j hne => ?_
  · simp only [Point.holds, Bool.false_eq_true, false_iff, Function.update_self]
    split
    · simp
    · assumption
  · by_cases heq : platform = call.dto.externalPlatformId
    · subst heq
      rw [Function.update_self]
      split <;> rename_i hlock
      · rw [hlock]
        simp [Ne.symm hne]
      · rfl
    · rw [Function.update_of_ne heq]
      rfl

/-- The call goes on with its transaction. -/
theorem Inv.go (h : Inv s) (hcall : s.calls[i]? = some call) {point : Point} {snapshot : List Account × List Address} {written : Writes}
    (hholds : call.point.holds = true) (hpoint : point.holds = true) (habsent : point.checked → call.dto.key ∉ s.db.keys)
    (hunwritten : (∀ payment, point ≠ .committing payment) → written.payments = [])
    (hcommitting : ∀ payment, point = .committing payment → written.payments = [payment] ∧ orderKey payment = some call.dto.key) :
    Inv (s.setCall i { call with point := point, snapshot := snapshot, written := written }) := by
  refine h.move hcall ⟨?_, habsent, fun _ => hunwritten, hcommitting, fun payment hpayment => ?_⟩ fun _ _ _ => Iff.rfl
  · rw [hpoint]
    exact iff_of_true rfl ((h.calls i call hcall).lock.mp hholds)
  · cases point <;> simp [Point.holds, Point.recorded] at hpoint hpayment

theorem any_order_iff {payments : List Payment} {key : String × String} :
    payments.any (fun payment => orderKey payment = some key) = true ↔ key ∈ (payments.filterMap orderEntry).map Prod.snd := by
  simp only [List.any_eq_true, decide_eq_true_eq, List.mem_map, List.mem_filterMap, orderEntry, Option.map_eq_some_iff]
  constructor
  · rintro ⟨payment, hmem, hkey⟩
    exact ⟨(payment.id, key), ⟨payment, hmem, key, hkey, rfl⟩, rfl⟩
  · rintro ⟨_, ⟨payment, hmem, key', hkey, rfl⟩, rfl⟩
    exact ⟨payment, hmem, hkey⟩

theorem orders_write (db : Db) (written : Writes) :
    (db.write written).orders = db.orders ++ written.payments.filterMap orderEntry := List.filterMap_append

/-- The order of the call was not there, and no other call has the lock. -/
theorem Inv.commit (h : Inv s) (hcall : s.calls[i]? = some call) {payment : Payment} (hpoint : call.point = .committing payment) :
    Inv (commit s i call payment) := by
  have hok := h.calls i call hcall
  have hlt : i < s.calls.length := (List.getElem?_eq_some_iff.mp hcall).1
  have hlock : s.lock call.dto.externalPlatformId = some i := hok.lock.mp (by rw [hpoint]; rfl)
  have habsent : call.dto.key ∉ s.db.keys := hok.absent (by rw [hpoint]; rfl)
  obtain ⟨hwritten, hkey⟩ := hok.committing payment hpoint
  have horders : (s.db.write call.written).orders = s.db.orders ++ [(payment.id, call.dto.key)] := by
    rw [orders_write, hwritten]
    simp [orderEntry, hkey]
  have hkeys : (s.db.write call.written).keys = s.db.keys ++ [call.dto.key] := by
    unfold Db.keys
    rw [horders, List.map_append]
    rfl
  refine ⟨?_, fun platform j hj => ?_, fun j c hc => ?_⟩
  · change (s.db.write call.written).keys.Nodup
    rw [hkeys, List.nodup_append_comm]
    exact List.nodup_cons.mpr ⟨habsent, h.unique⟩
  · change Function.update s.lock call.dto.externalPlatformId none platform = some j at hj
    change j < (s.calls.set i _).length
    rw [List.length_set]
    by_cases heq : platform = call.dto.externalPlatformId
    · subst heq
      rw [Function.update_self] at hj
      exact nomatch hj
    · rw [Function.update_of_ne heq] at hj
      exact h.holder platform j hj
  · change (s.calls.set i _)[j]? = some c at hc
    by_cases heq : j = i
    · subst heq
      rw [List.getElem?_set_self hlt] at hc
      obtain rfl := Option.some.inj hc
      refine ⟨?_, by simp [Point.checked], by simp [Point.recorded], by simp, fun p hp => ?_⟩
      · simp [External.commit, State.setLock, Point.holds]
      · obtain rfl := Option.some.inj hp
        refine ⟨hkey, ?_⟩
        change _ ∈ (s.db.write call.written).orders
        rw [horders]
        exact List.mem_append_right _ (List.mem_singleton.mpr rfl)
    · rw [List.getElem?_set_ne (Ne.symm heq)] at hc
      have hother := h.calls j c hc
      have hfree (hsame : c.dto.externalPlatformId = call.dto.externalPlatformId) : c.point.holds = false := by
        have hnot : ¬ s.lock c.dto.externalPlatformId = some j := by
          rw [hsame, hlock]
          exact fun hi => heq (Option.some.inj hi).symm
        simpa using mt hother.lock.mp hnot
      refine ⟨?_, fun hchecked => ?_, hother.unwritten, hother.committing, fun p hp => ?_⟩
      · change _ ↔ Function.update s.lock call.dto.externalPlatformId none c.dto.externalPlatformId = some j
        by_cases hsame : c.dto.externalPlatformId = call.dto.externalPlatformId
        · rw [hsame, Function.update_self, hfree hsame]
          simp
        · rw [Function.update_of_ne hsame]
          exact hother.lock
      · change _ ∉ (s.db.write call.written).keys
        rw [hkeys, List.mem_append, not_or]
        refine ⟨hother.absent hchecked, fun hmem => ?_⟩
        have hsame : c.dto.externalPlatformId = call.dto.externalPlatformId :=
          congrArg Prod.fst (List.mem_singleton.mp hmem)
        have hnot := hfree hsame
        cases hpoint : c.point <;> simp [hpoint, Point.holds, Point.checked] at hnot hchecked
      · obtain ⟨hpkey, hmem⟩ := hother.recorded p hp
        refine ⟨hpkey, ?_⟩
        change _ ∈ (s.db.write call.written).orders
        rw [horders]
        exact List.mem_append_left _ hmem

theorem not_committing_written (h : Inv s) (hcall : s.calls[i]? = some call) (hrecorded : call.point.recorded = none)
    (hpoint : ∀ payment, call.point ≠ .committing payment) : call.written.payments = [] :=
  (h.calls i call hcall).unwritten hrecorded hpoint

theorem Inv.advance (h : Inv s) (hcall : s.calls[i]? = some call) {ids : String × String × String}
    (hadvance : advance config s i ids call = some s') : Inv s' := by
  have hok := h.calls i call hcall
  unfold External.advance at hadvance
  split at hadvance <;> rename_i hpoint
  · -- the lock
    unfold takeLock at hadvance
    split at hadvance <;> rename_i hfree
    · split at hadvance
      · obtain rfl := Option.some.inj hadvance
        exact h.rollback hcall _
      · obtain rfl := Option.some.inj hadvance
        have hempty := not_committing_written h hcall (by rw [hpoint]; rfl) (by simp [hpoint])
        refine h.move hcall ⟨?_, by simp [Point.checked], fun _ _ => hempty, by simp, by simp [Point.recorded]⟩
          fun platform j hne => ?_
        · simp [Point.holds]
        · by_cases heq : platform = call.dto.externalPlatformId
          · subst heq
            rw [Function.update_self, hfree]
            simp [Ne.symm hne]
          · rw [Function.update_of_ne heq]
            rfl
    · exact nomatch hadvance
  · -- the check for the order
    obtain rfl := Option.some.inj hadvance
    unfold checkOrder
    split <;> rename_i hexists
    · exact h.rollback hcall _
    · have habsent : call.dto.key ∉ s.db.keys := fun hmem => hexists (any_order_iff.mpr hmem)
      have hempty := not_committing_written h hcall (by rw [hpoint]; rfl) (by simp [hpoint])
      exact h.go hcall (by rw [hpoint]; rfl) rfl (fun _ => habsent) (fun _ => hempty) (by simp)
  · obtain rfl := Option.some.inj hadvance
    have hempty := not_committing_written h hcall (by rw [hpoint]; rfl) (by simp [hpoint])
    have habsent := hok.absent (by rw [hpoint]; rfl)
    unfold stepAccount
    split
    · exact h.rollback hcall _
    · refine h.go hcall (by rw [hpoint]; rfl) rfl (fun _ => habsent) (fun _ => ?_) (by simp)
      split <;> exact hempty
  · obtain rfl := Option.some.inj hadvance
    have hempty := not_committing_written h hcall (by rw [hpoint]; rfl) (by simp [hpoint])
    have habsent := hok.absent (by rw [hpoint]; rfl)
    unfold stepAddress
    generalize resolveAddress config call.dto.externalPlatformId call.dto.billingAddress call.snapshot.2 ids.1 = resolved
    obtain ⟨address, isNew⟩ := resolved
    refine h.go hcall (by rw [hpoint]; rfl) rfl (fun _ => habsent) (fun _ => ?_) (by simp)
    cases isNew <;> exact hempty
  · obtain rfl := Option.some.inj hadvance
    have hempty := not_committing_written h hcall (by rw [hpoint]; rfl) (by simp [hpoint])
    have habsent := hok.absent (by rw [hpoint]; rfl)
    unfold stepPayment
    split
    · exact h.rollback hcall _
    · split
      · exact h.rollback hcall _
      · rename_i payment hcreate
        refine h.go hcall (by rw [hpoint]; rfl) rfl (fun _ => habsent) (fun hnot => absurd rfl (hnot payment)) ?_
        rintro _ ⟨rfl⟩
        refine ⟨?_, create_payment_key hcreate⟩
        unfold withDefault
        split <;> simp [hempty]
  · obtain rfl := Option.some.inj hadvance
    exact h.commit hcall hpoint
  · exact nomatch hadvance
  · exact nomatch hadvance

theorem Inv.complete (h : Inv s) (hcall : s.calls[i]? = some call) {succeeded : Bool}
    (hcomplete : complete s i succeeded call = some s') : Inv s' := by
  have hok := h.calls i call hcall
  unfold External.complete at hcomplete
  split at hcomplete
  · rename_i payment hpoint
    obtain rfl := Option.some.inj hcomplete
    have hrecorded := hok.recorded payment (by rw [hpoint]; rfl)
    refine h.move hcall ⟨?_, by simp [Point.checked], ?_, by simp, fun p hp => ?_⟩ fun _ _ _ => Iff.rfl
    · have hlock := hok.lock
      rw [hpoint] at hlock
      exact hlock
    · cases succeeded <;> simp [Point.recorded]
    · obtain rfl : payment = p := by cases succeeded <;> simpa [Point.recorded] using hp
      exact hrecorded
  · exact nomatch hcomplete

theorem Inv.step (h : Inv s) {act : Act} (hstep : step config s act = some s') : Inv s' := by
  cases act with
  | start user services dto =>
    obtain rfl := Option.some.inj hstep
    refine ⟨h.unique, fun platform i hi => ?_, fun i call hcall => ?_⟩
    · have hlt := h.holder platform i hi
      simp only [External.start, List.length_append]
      omega
    · simp only [External.start] at hcall
      rw [List.getElem?_append] at hcall
      split at hcall <;> rename_i hlt
      · exact (h.calls i call hcall).relock rfl Iff.rfl
      · -- the new call has no lock
        have hcalls : call = ⟨dto, services, (match checkRequest services user dto with
            | .ok _ => .locking
            | .error error => .returned (.thrown error)), ([], []), {}⟩ := by
          have hmem := List.mem_of_getElem? hcall
          simpa using hmem
        have hfree : ¬ s.lock dto.externalPlatformId = some i := fun hi => hlt (h.holder _ i hi)
        obtain rfl := hcalls
        cases checkRequest services user dto with
        | ok _ => exact ⟨by simpa [Point.holds, External.start] using hfree, by simp [Point.checked], fun _ _ => rfl, by simp,
            by simp [Point.recorded]⟩
        | error error => exact ⟨by simpa [Point.holds, External.start] using hfree, by simp [Point.checked], fun _ _ => rfl, by simp,
            by simp [Point.recorded]⟩
  | advance i ids =>
    obtain ⟨call, hcall, hadvance⟩ := Option.bind_eq_some_iff.mp hstep
    exact h.advance hcall hadvance
  | abort i error =>
    obtain ⟨call, hcall, habort⟩ := Option.bind_eq_some_iff.mp hstep
    unfold External.abort at habort
    split at habort
    · exact nomatch habort
    · exact nomatch habort
    · obtain rfl := Option.some.inj habort
      exact h.rollback hcall error
  | complete i succeeded =>
    obtain ⟨call, hcall, hcomplete⟩ := Option.bind_eq_some_iff.mp hstep
    exact h.complete hcall hcomplete
  | other db =>
    simp only [External.step, Option.ite_none_right_eq_some] at hstep
    obtain ⟨horders, heq⟩ := hstep
    obtain rfl := Option.some.inj heq
    refine ⟨?_, h.holder, fun i call hcall => (h.calls i call hcall).relock horders Iff.rfl⟩
    change (db.orders.map Prod.snd).Nodup
    rw [horders]
    exact h.unique

end Inv

/-! ## Calls after the order was recorded -/

/-- The call has been refused, or will be, and has written nothing. -/
def Refused (call : Call) : Prop :=
  call.written = {} ∧ (call.point = .locking ∨ call.point = .checking ∨ ∃ error, call.point = .returned (.thrown error))

/-- The order is recorded, and the calls for it from number `n` on are refused. -/
structure Later (n : ℕ) (entry : String × String × String) (s : State) : Prop where
  recorded : entry ∈ s.db.orders
  length : n ≤ s.calls.length
  calls : ∀ i call, n ≤ i → s.calls[i]? = some call → call.dto.key = entry.2 → Refused call

section Later

variable {config : Config} {s s' : State} {n i : ℕ} {call call' : Call} {entry : String × String × String}

theorem Later.move (h : Later n entry s) (hcall : s.calls[i]? = some call) (db : Db) {lock : String → Option ℕ}
    (hdto : call'.dto = call.dto) (hdb : entry ∈ db.orders) (hrefused : Refused call → Refused call') :
    Later n entry { s.setCall i call' with lock := lock, db := db } := by
  have hlt : i < s.calls.length := (List.getElem?_eq_some_iff.mp hcall).1
  refine ⟨hdb, ?_, fun j c hn hc hkey => ?_⟩
  · change n ≤ (s.calls.set i call').length
    rw [List.length_set]
    exact h.length
  · change (s.calls.set i call')[j]? = some c at hc
    by_cases heq : j = i
    · subst heq
      rw [List.getElem?_set_self hlt] at hc
      obtain rfl := Option.some.inj hc
      exact hrefused (h.calls j call hn hcall (hdto ▸ hkey))
    · rw [List.getElem?_set_ne (Ne.symm heq)] at hc
      exact h.calls j c hn hc hkey

/-- A call past the check is not refused any more. -/
theorem not_refused (hlocking : call.point ≠ .locking) (hchecking : call.point ≠ .checking)
    (hthrown : ∀ error, call.point ≠ .returned (.thrown error)) : ¬ Refused call := by
  rintro ⟨-, h | h | ⟨error, h⟩⟩
  · exact hlocking h
  · exact hchecking h
  · exact hthrown error h

theorem Later.rollback (h : Later n entry s) (hcall : s.calls[i]? = some call) (error : RequestError) :
    Later n entry (s.rollback i call error) :=
  h.move hcall s.db rfl h.recorded fun _ => ⟨rfl, .inr (.inr ⟨error, rfl⟩)⟩

theorem Later.advance (h : Later n entry s) (hcall : s.calls[i]? = some call) {ids : String × String × String}
    (hadvance : advance config s i ids call = some s') : Later n entry s' := by
  have hkey : entry.2 ∈ s.db.keys := List.mem_map_of_mem h.recorded
  unfold External.advance at hadvance
  split at hadvance <;> rename_i hpoint
  · unfold takeLock at hadvance
    split at hadvance
    · split at hadvance
      · obtain rfl := Option.some.inj hadvance
        exact h.rollback hcall _
      · obtain rfl := Option.some.inj hadvance
        exact h.move hcall s.db rfl h.recorded fun hrefused => ⟨hrefused.1, .inr (.inl rfl)⟩
    · exact nomatch hadvance
  · -- a later call for the order finds it
    obtain rfl := Option.some.inj hadvance
    unfold checkOrder
    split <;> rename_i hexists
    · exact h.rollback hcall _
    · refine ⟨h.recorded, ?_, fun j c hn hc hsame => ?_⟩
      · change n ≤ (s.calls.set i _).length
        rw [List.length_set]
        exact h.length
      · have hlt : i < s.calls.length := (List.getElem?_eq_some_iff.mp hcall).1
        change (s.calls.set i _)[j]? = some c at hc
        by_cases heq : j = i
        · subst heq
          rw [List.getElem?_set_self hlt] at hc
          obtain rfl := Option.some.inj hc
          have hfound : call.dto.key ∈ s.db.keys := by
            rw [show call.dto.key = entry.2 from hsame]
            exact hkey
          exact absurd (any_order_iff.mpr hfound) hexists
        · rw [List.getElem?_set_ne (Ne.symm heq)] at hc
          exact h.calls j c hn hc hsame
  · obtain rfl := Option.some.inj hadvance
    unfold stepAccount
    split
    · exact h.rollback hcall _
    · exact h.move hcall s.db rfl h.recorded fun hrefused =>
        absurd hrefused (not_refused (by simp [hpoint]) (by simp [hpoint]) (by simp [hpoint]))
  · obtain rfl := Option.some.inj hadvance
    exact h.move hcall s.db rfl h.recorded fun hrefused =>
      absurd hrefused (not_refused (by simp [hpoint]) (by simp [hpoint]) (by simp [hpoint]))
  · obtain rfl := Option.some.inj hadvance
    unfold stepPayment
    split
    · exact h.rollback hcall _
    · split
      · exact h.rollback hcall _
      · exact h.move hcall s.db rfl h.recorded fun hrefused =>
          absurd hrefused (not_refused (by simp [hpoint]) (by simp [hpoint]) (by simp [hpoint]))
  · obtain rfl := Option.some.inj hadvance
    refine h.move hcall _ rfl ?_ fun hrefused =>
      absurd hrefused (not_refused (by simp [hpoint]) (by simp [hpoint]) (by simp [hpoint]))
    rw [orders_write]
    exact List.mem_append_left _ h.recorded
  · exact nomatch hadvance
  · exact nomatch hadvance

theorem Later.step (h : Later n entry s) {act : Act} (hstep : step config s act = some s') : Later n entry s' := by
  cases act with
  | start user services dto =>
    obtain rfl := Option.some.inj hstep
    refine ⟨h.recorded, ?_, fun i call hn hcall hkey => ?_⟩
    · have hlength := h.length
      simp only [External.start, List.length_append]
      omega
    · simp only [External.start] at hcall
      rw [List.getElem?_append] at hcall
      split at hcall
      · exact h.calls i call hn hcall hkey
      · have hmem := List.mem_of_getElem? hcall
        obtain rfl := List.mem_singleton.mp hmem
        refine ⟨rfl, ?_⟩
        cases checkRequest services user dto with
        | ok _ => exact .inl rfl
        | error error => exact .inr (.inr ⟨error, rfl⟩)
  | advance i ids =>
    obtain ⟨call, hcall, hadvance⟩ := Option.bind_eq_some_iff.mp hstep
    exact h.advance hcall hadvance
  | abort i error =>
    obtain ⟨call, hcall, habort⟩ := Option.bind_eq_some_iff.mp hstep
    unfold External.abort at habort
    split at habort
    · exact nomatch habort
    · exact nomatch habort
    · obtain rfl := Option.some.inj habort
      exact h.rollback hcall error
  | complete i succeeded =>
    obtain ⟨call, hcall, hcomplete⟩ := Option.bind_eq_some_iff.mp hstep
    unfold External.complete at hcomplete
    split at hcomplete
    · rename_i payment hpoint
      obtain rfl := Option.some.inj hcomplete
      exact h.move hcall s.db rfl h.recorded fun hrefused =>
        absurd hrefused (not_refused (by simp [hpoint]) (by simp [hpoint]) (by simp [hpoint]))
    · exact nomatch hcomplete
  | other db =>
    simp only [External.step, Option.ite_none_right_eq_some] at hstep
    obtain ⟨horders, heq⟩ := hstep
    obtain rfl := Option.some.inj heq
    refine ⟨?_, h.length, h.calls⟩
    change entry ∈ db.orders
    rw [horders]
    exact h.recorded

end Later

/-! ## Main result -/

theorem inv_run {config : Config} {s t : State} {acts : List Act} (h : Inv s) (hrun : run (step config) s acts = some t) : Inv t :=
  run_invariant (fun _ _ _ h hstep => Inv.step h hstep) h hrun

theorem later_run {config : Config} {s t : State} {acts : List Act} {n : ℕ} {entry : String × String × String}
    (h : Later n entry s) (hrun : run (step config) s acts = some t) : Later n entry t :=
  run_invariant (fun _ _ _ h hstep => Later.step h hstep) h hrun

/-- At most one purchase has a platform and an order id. Once a call has recorded a payment, whether its completion fails
or not, the payment stays, and calls for the order that start later are refused before they write anything. -/
theorem external_orders_once (config : Config) (db : Db) (hunique : db.keys.Nodup) (before after : List Act) (s t : State)
    (hbefore : run (step config) (.idle db) before = some s) (hafter : run (step config) s after = some t) :
    t.db.keys.Nodup ∧
    ∀ call ∈ s.calls, ∀ payment, call.point.recorded = some payment →
      orderKey payment = some call.dto.key ∧ (payment.id, call.dto.key) ∈ t.db.orders ∧
      ∀ i later, s.calls.length ≤ i → t.calls[i]? = some later → later.dto.key = call.dto.key → Refused later := by
  have hinv : Inv s := inv_run (inv_idle hunique) hbefore
  refine ⟨(inv_run hinv hafter).unique, fun call hcall payment hpayment => ?_⟩
  obtain ⟨i, hi⟩ := List.mem_iff_getElem?.mp hcall
  obtain ⟨hkey, hrecorded⟩ := (hinv.calls i call hi).recorded payment hpayment
  have hlater : Later s.calls.length (payment.id, call.dto.key) s := by
    refine ⟨hrecorded, le_refl _, fun j c hn hc _ => ?_⟩
    have hlt := (List.getElem?_eq_some_iff.mp hc).1
    omega
  have hend := later_run hlater hafter
  exact ⟨hkey, hend.recorded, hend.calls⟩

def seller : Accounts.AccountDTO where
  id := some "seller"
  type := .commercial
  text := fun field => if field = .defaultAddressId then some "seller-address" else none

def sellerServices : Services where
  hasOwnership := fun id => id = "seller"
  account := fun id => if id = "seller" then some seller else none
  directory := ⟨fun _ => some ⟨"Seller", "COMMERCIAL", some "seller-address"⟩, fun _ => true, fun _ => false⟩
  commissionPercent := fun _ _ => 10
  comissionsCalculatedFromNet := true
  numberText := fun _ => "20"

/-- The order, under a spelling of its id. -/
def orderDto (orderId : String) : CreatePaymentDTO where
  externalPlatformId := "platform"
  externalPlatformOrderId := orderId
  currency := "TRY"
  customerAccount := {
    type := .individual
    text := fun field => match field with
      | .name => some "Customer"
      | .legalIdentity => some "123"
      | _ => none }
  billingAddress := {
    text := fun field => match field with
      | .name | .streetName | .cityName | .citySubdivisionName | .postalZone | .country => some "Home"
      | _ => none }
  items := [{ name := "Item", sellerAccountId := "seller", quantity := 2, unitAmount := 120, taxRate := 20 }]

def platformDb : Db := ⟨[⟨"platform", "Platform", true⟩], [], [], []⟩

/-- The completion of the first call fails. -/
def failedCompletion : List Act :=
  [.start (some ⟨"user", []⟩) sellerServices (orderDto " order-1 "), .advance 0 ("", "", ""), .advance 0 ("", "", ""),
    .advance 0 ("account", "", ""), .advance 0 ("address", "", ""), .advance 0 ("payment", "snapshot", "snapshot"),
    .advance 0 ("", "", ""), .complete 0 false]

def secondCall : List Act :=
  [.start (some ⟨"user", []⟩) sellerServices (orderDto "order-1"), .advance 1 ("", "", ""), .advance 1 ("", "", "")]

theorem external_orders_once_sample : ∃ s t : State, t.calls.length = 2 ∧ t.db.keys.Nodup ∧
    ∃ call ∈ s.calls, call.dto.key = ("platform", "order-1") ∧ call.point.recorded.isSome ∧
      ∀ i later, s.calls.length ≤ i → t.calls[i]? = some later → later.dto.key = ("platform", "order-1") → Refused later := by
  obtain ⟨s, hs, hcalls⟩ : ∃ s, run (step ⟨.off, markingCipher⟩) (.idle platformDb) failedCompletion = some s ∧
      s.calls.map (fun call => (call.dto.key, call.point.recorded.isSome)) = [(("platform", "order-1"), true)] :=
    Option.map_eq_some_iff.mp (by decide +kernel)
  have hfinished : (run (step ⟨.off, markingCipher⟩) (.idle platformDb) (failedCompletion ++ secondCall)).map
      (fun t => t.calls.length) = some 2 := by decide +kernel
  obtain ⟨t, ht, hlength⟩ := Option.map_eq_some_iff.mp hfinished
  obtain ⟨s', hs', ht⟩ := run_append_eq_some.mp ht
  obtain rfl : s = s' := Option.some.inj (hs.symm.trans hs')
  obtain ⟨call, hcall, hpair⟩ := List.mem_map.mp (show (("platform", "order-1"), true) ∈ s.calls.map _ by
    rw [hcalls]
    exact List.mem_singleton.mpr rfl)
  obtain ⟨hkey, hrecorded⟩ := Prod.mk.inj hpair
  obtain ⟨payment, hpayment⟩ := Option.isSome_iff_exists.mp hrecorded
  obtain ⟨hunique, hresult⟩ := external_orders_once ⟨.off, markingCipher⟩ platformDb (by decide) failedCompletion secondCall s t hs ht
  refine ⟨s, t, hlength, hunique, call, hcall, hkey, hrecorded, ?_⟩
  rw [← hkey]
  exact (hresult call hcall payment hpayment).2.2

end Postral.External
