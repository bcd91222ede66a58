import Postral.Payments.Ledger
import Postral.Lib.Batch
import Postral.Lib.Run

/-!
# Regeneration of the ledger (`AccountPaymentTransactionService.createNew`)

A call finds the old entries of the payment, removes them and saves the new ones, in three steps.
-/

open Check Run

namespace Postral.Regeneration

/-! ## The entries of one payment -/

/-- The account and the type of an entry. -/
def entryKey (entry : AccountPaymentTransaction) : String × TransactionType := (entry.accountId, entry.type)

def keys (payment : Payment) : List (String × TransactionType) :=
  payment.items.rows.map (fun item => (item.sellerAccountId.getD "", sellerRotation payment.type)) ++
    [(payment.customerAccountId.getD "", customerRotation payment.type)]

/-- Without its account an entry cannot be stored. -/
def HasAccounts (payment : Payment) : Prop :=
  payment.customerAccountId.isSome ∧ ∀ item ∈ payment.items.rows, item.sellerAccountId.isSome

instance : DecidablePred HasAccounts := fun payment => by
  unfold HasAccounts
  infer_instance

/-- The condition of `deleteOldTransactions`. An account that is missing does not restrict it. -/
def isOldTransaction (payment : Payment) (entry : AccountPaymentTransaction) : Prop :=
  entry.roundingOperationId = none ∧ entry.paymentId = payment.id ∧
    ((entry.type = sellerRotation payment.type ∧
      ∃ item ∈ payment.items.rows, ∀ account ∈ item.sellerAccountId, entry.accountId = account) ∨
    (entry.type = customerRotation payment.type ∧ ∀ account ∈ payment.customerAccountId, entry.accountId = account))

instance (payment : Payment) : DecidablePred (isOldTransaction payment) := fun entry => by
  unfold isOldTransaction
  infer_instance

def isNominal (payment : Payment) (key : String × TransactionType) (entry : AccountPaymentTransaction) : Prop :=
  entry.roundingOperationId = none ∧ entry.paymentId = payment.id ∧ entryKey entry = key

instance (payment : Payment) (key : String × TransactionType) : DecidablePred (isNominal payment key) := fun entry => by
  unfold isNominal
  infer_instance

/-! ## Calls -/

inductive CallPoint where
  | finding (transactions : List AccountPaymentTransaction)
  | removing (transactions : List AccountPaymentTransaction) (oldTransactions : List ℕ)
  | saving (transactions : List AccountPaymentTransaction)
  deriving DecidableEq

structure Call where
  id : ℕ
  point : CallPoint
  deriving DecidableEq

structure Ledger where
  /-- The entries with their ids. -/
  rows : List (AccountPaymentTransaction × ℕ)
  next : ℕ
  calls : Table Call.id
  /-- History: a call has succeeded. -/
  succeeded : Bool

inductive LedgerAct where
  /-- `fromPayment` without a manager, up to `createNew`. -/
  | start (call : ℕ) (corelationId : String) (status : PaymentStatus)
  | advance (call : ℕ)
  /-- The next step of the call throws. With `applied` its statement has taken effect all the same. -/
  | fail (call : ℕ) (applied : Bool)
  /-- Rounding entries of a refund. -/
  | post (entries : List AccountPaymentTransaction)

namespace Ledger

def move (s : Ledger) (call : ℕ) (point : CallPoint) : Ledger := { s with calls := s.calls.save ⟨call, point⟩ }

def stop (s : Ledger) (call : ℕ) : Ledger := { s with calls := s.calls.delete (·.id = call) }

def remove (s : Ledger) (ids : List ℕ) : Ledger := { s with rows := s.rows.filter (·.2 ∉ ids) }

def save (s : Ledger) (entries : List AccountPaymentTransaction) : Ledger :=
  { s with rows := s.rows ++ entries.zipIdx s.next, next := s.next + entries.length }

def oldTransactions (s : Ledger) (payment : Payment) : List ℕ :=
  (s.rows.filter fun row => isOldTransaction payment row.1).map Prod.snd

def nominalCount (s : Ledger) (payment : Payment) (key : String × TransactionType) : ℕ :=
  s.rows.countP fun row => isNominal payment key row.1

end Ledger

section Step

variable (accountName : Option String → String) (payment : Payment)

def advanceCall (s : Ledger) (call : ℕ) : CallPoint → Ledger
  | .finding transactions => s.move call (.removing transactions (s.oldTransactions payment))
  | .removing transactions oldTransactions => (s.remove oldTransactions).move call (.saving transactions)
  | .saving transactions =>
    if HasAccounts payment then { (s.save transactions).stop call with succeeded := true } else s.stop call

def failCall (s : Ledger) (call : ℕ) (applied : Bool) : CallPoint → Ledger
  | .finding _ => s.stop call
  | .removing _ oldTransactions => if applied then (s.remove oldTransactions).stop call else s.stop call
  | .saving transactions => if applied ∧ HasAccounts payment then (s.save transactions).stop call else s.stop call

def ledgerStep (s : Ledger) : LedgerAct → Option Ledger
  | .start call corelationId status =>
    if s.calls.find call = none then
      some (s.move call (.finding (fromPayment accountName corelationId { payment with paymentStatus := status })))
    else none
  | .advance call => (s.calls.find call).map fun running => advanceCall payment s call running.point
  | .fail call applied => (s.calls.find call).map fun running => failCall payment s call applied running.point
  | .post entries => if ∀ entry ∈ entries, entry.roundingOperationId ≠ none then some (s.save entries) else none

end Step

/-! ## The condition -/

/-- The call has found the old entries, and has not saved the new ones. -/
def CallPoint.between : CallPoint → Prop
  | .finding _ => False
  | .removing .. | .saving _ => True

instance : DecidablePred CallPoint.between := fun point => by
  cases point <;> unfold CallPoint.between <;> infer_instance

def CallPoint.isSaving : CallPoint → Prop
  | .saving _ => True
  | .finding _ | .removing .. => False

instance : DecidablePred CallPoint.isSaving := fun point => by
  cases point <;> unfold CallPoint.isSaving <;> infer_instance

/-- A failure leaves the ledger without the entries: after the removal and before the save. -/
def CallPoint.loses (applied : Bool) : CallPoint → Prop
  | .finding _ => False
  | .removing .. => applied = true
  | .saving _ => applied = false

instance (applied : Bool) : DecidablePred (CallPoint.loses applied) := fun point => by
  cases point <;> unfold CallPoint.loses <;> infer_instance

/-- No call looks for the old entries while another one stands between this and its save. After a
success no call fails between its removal and its save. -/
def Alone (s : Ledger) : LedgerAct → Prop
  | .advance call => ∀ running ∈ s.calls.find call, ¬ running.point.between →
      ∀ other ∈ s.calls.rows, ¬ other.point.between
  | .fail call applied => s.succeeded = true → ∀ running ∈ s.calls.find call, ¬ running.point.loses applied
  | .start .. | .post _ => True

instance (s : Ledger) (act : LedgerAct) : Decidable (Alone s act) := by
  cases act <;> unfold Alone <;> infer_instance

/-! ## What a call saves -/

section FromPayment

variable {accountName : Option String → String} {corelationId : String} {payment : Payment}

theorem add_to_seller_fst (sellers : List (Option String × AccountPaymentTransaction)) (item : PaymentItem) :
    (addToSeller accountName corelationId payment sellers item).map Prod.fst =
      if item.sellerAccountId ∈ sellers.map Prod.fst then sellers.map Prod.fst
      else sellers.map Prod.fst ++ [item.sellerAccountId] := by
  induction sellers with
  | nil => simp [addToSeller]
  | cons head rest ih =>
    obtain ⟨seller, transaction⟩ := head
    unfold addToSeller
    by_cases h : seller = item.sellerAccountId
    · simp [h]
    · rw [if_neg h, List.map_cons, ih]
      by_cases hrest : item.sellerAccountId ∈ rest.map Prod.fst
      · rw [if_pos hrest, if_pos (by simp [hrest])]
        rfl
      · rw [if_neg hrest, if_neg (by simpa [Ne.symm h] using hrest)]
        rfl

/-- What every seller's entry has, under its account. -/
def SellerEntry (payment : Payment) (pair : Option String × AccountPaymentTransaction) : Prop :=
  entryKey pair.2 = (pair.1.getD "", sellerRotation payment.type) ∧ pair.2.roundingOperationId = none

theorem add_to_seller_entries {sellers : List (Option String × AccountPaymentTransaction)} {item : PaymentItem}
    (h : ∀ pair ∈ sellers, SellerEntry payment pair) :
    ∀ pair ∈ addToSeller accountName corelationId payment sellers item, SellerEntry payment pair := by
  induction sellers with
  | nil => simp [addToSeller, SellerEntry, entryKey, sellerTransaction]
  | cons head rest ih =>
    obtain ⟨seller, transaction⟩ := head
    rw [List.forall_mem_cons] at h
    unfold addToSeller
    split
    · exact List.forall_mem_cons.mpr ⟨h.1, h.2⟩
    · exact List.forall_mem_cons.mpr ⟨h.1, ih h.2⟩

variable (accountName corelationId payment) in
theorem sellers_spec (items : List PaymentItem) :
    let sellers := items.foldl (addToSeller accountName corelationId payment) []
    (sellers.map Prod.fst).Nodup ∧ (∀ account, account ∈ sellers.map Prod.fst ↔ account ∈ items.map (·.sellerAccountId)) ∧
      ∀ pair ∈ sellers, SellerEntry payment pair := by
  induction items using List.reverseRecOn with
  | nil => simp
  | append_singleton items item ih =>
    obtain ⟨hnodup, hmem, hentries⟩ := ih
    simp only [List.foldl_append, List.foldl_cons, List.foldl_nil]
    refine ⟨?_, fun account => ?_, add_to_seller_entries hentries⟩
    · rw [add_to_seller_fst]
      split
      · exact hnodup
      · rw [List.nodup_append_comm, List.singleton_append]
        exact List.nodup_cons.mpr ⟨‹_›, hnodup⟩
    · rw [add_to_seller_fst]
      split
      · rw [hmem, List.map_append, List.mem_append]
        have hitem := (hmem item.sellerAccountId).mp ‹_›
        constructor
        · exact Or.inl
        · rintro (h | h)
          · exact h
          · rwa [List.mem_singleton.mp h]
      · rw [List.mem_append, hmem, List.map_append, List.mem_append]
        rfl

theorem from_payment_rounding {entry : AccountPaymentTransaction}
    (h : entry ∈ fromPayment accountName corelationId payment) : entry.roundingOperationId = none := by
  rcases List.mem_append.mp h with hseller | hcustomer
  · obtain ⟨pair, hpair, rfl⟩ := List.mem_map.mp hseller
    exact ((sellers_spec accountName corelationId payment payment.items.rows).2.2 pair hpair).2
  · rw [List.mem_singleton.mp hcustomer]
    rfl

variable (accountName corelationId) in
theorem from_payment_keys (h : HasAccounts payment) :
    ((fromPayment accountName corelationId payment).map entryKey).Nodup ∧
      ∀ key ∈ keys payment, key ∈ (fromPayment accountName corelationId payment).map entryKey := by
  obtain ⟨hnodup, hmem, hentries⟩ := sellers_spec accountName corelationId payment payment.items.rows
  have hsellers : (sellerTransactions accountName corelationId payment).map entryKey =
      ((payment.items.rows.foldl (addToSeller accountName corelationId payment) []).map Prod.fst).map
        fun account => (account.getD "", sellerRotation payment.type) := by
    unfold sellerTransactions
    rw [List.map_map, List.map_map]
    exact List.map_congr_left fun pair hpair => (hentries pair hpair).1
  have hrotation : customerRotation payment.type ≠ sellerRotation payment.type := by
    cases payment.type <;> decide
  have hall : (fromPayment accountName corelationId payment).map entryKey =
      ((payment.items.rows.foldl (addToSeller accountName corelationId payment) []).map Prod.fst).map
        (fun account => (account.getD "", sellerRotation payment.type)) ++
        [(payment.customerAccountId.getD "", customerRotation payment.type)] := by
    rw [← hsellers]
    unfold fromPayment
    rw [List.map_append]
    rfl
  rw [hall]
  constructor
  · rw [List.nodup_append_comm, List.singleton_append, List.nodup_cons]
    refine ⟨fun hcustomer => ?_, List.Nodup.map_on (fun a ha b hb hab => ?_) hnodup⟩
    · obtain ⟨account, -, heq⟩ := List.mem_map.mp hcustomer
      exact hrotation (congrArg Prod.snd heq).symm
    · -- both accounts are given
      have hgiven : ∀ account ∈ payment.items.rows.map (·.sellerAccountId), account.isSome := by
        intro account haccount
        obtain ⟨item, hitem, rfl⟩ := List.mem_map.mp haccount
        exact h.2 item hitem
      obtain ⟨a, rfl⟩ := Option.isSome_iff_exists.mp (hgiven a ((hmem a).mp ha))
      obtain ⟨b, rfl⟩ := Option.isSome_iff_exists.mp (hgiven b ((hmem b).mp hb))
      exact congrArg some (congrArg Prod.fst hab)
  · intro key hkey
    rcases List.mem_append.mp hkey with hseller | hcustomer
    · obtain ⟨item, hitem, rfl⟩ := List.mem_map.mp hseller
      refine List.mem_append_left _ (List.mem_map.mpr ⟨item.sellerAccountId, ?_, rfl⟩)
      exact (hmem _).mpr (List.mem_map.mpr ⟨item, hitem, rfl⟩)
    · exact List.mem_append_right _ hcustomer

variable (accountName corelationId) in
/-- One new entry for each account and type. -/
theorem from_payment_count (h : HasAccounts payment) {key : String × TransactionType} (hkey : key ∈ keys payment)
    (n : ℕ) :
    ((fromPayment accountName corelationId payment).zipIdx n).countP (fun row => isNominal payment key row.1) = 1 := by
  obtain ⟨hnodup, hmem⟩ := from_payment_keys accountName corelationId h
  have hcount := List.count_eq_one_of_mem hnodup (hmem key hkey)
  rw [List.count, List.countP_map] at hcount
  have hzip : ((fromPayment accountName corelationId payment).zipIdx n).countP (fun row => isNominal payment key row.1) =
      (((fromPayment accountName corelationId payment).zipIdx n).map Prod.fst).countP (isNominal payment key ·) := by
    rw [List.countP_map]
    rfl
  rw [hzip, List.zipIdx_map_fst, ← hcount]
  apply List.countP_congr
  intro entry hentry
  simp [isNominal, from_payment_rounding hentry, from_payment_paymentId hentry]

end FromPayment

/-! ## Rounding entries -/

/-- The ids are different, and the entries that a call is about to remove are no rounding entries. -/
structure IdInv (s : Ledger) : Prop where
  nodup : (s.rows.map Prod.snd).Nodup
  bound : ∀ row ∈ s.rows, row.2 < s.next
  removing : ∀ call ∈ s.calls.rows, ∀ transactions ids, call.point = .removing transactions ids →
    ∀ id ∈ ids, id < s.next ∧ ∀ row ∈ s.rows, row.2 = id → row.1.roundingOperationId = none

section Steps

variable {accountName : Option String → String} {payment : Payment} {s s' : Ledger} {call : ℕ}

theorem IdInv.stop (h : IdInv s) (call : ℕ) : IdInv (s.stop call) :=
  ⟨h.nodup, h.bound, fun c hc => h.removing c (Table.mem_delete.mp hc).1⟩

theorem IdInv.move (h : IdInv s) {point : CallPoint}
    (hpoint : ∀ transactions ids, point = .removing transactions ids →
      ∀ id ∈ ids, id < s.next ∧ ∀ row ∈ s.rows, row.2 = id → row.1.roundingOperationId = none) :
    IdInv (s.move call point) := by
  refine ⟨h.nodup, h.bound, fun c hc => ?_⟩
  rcases Table.mem_save.mp hc with rfl | ⟨hold, -⟩
  · exact hpoint
  · exact h.removing c hold

theorem IdInv.remove (h : IdInv s) (ids : List ℕ) : IdInv (s.remove ids) := by
  have hmem : ∀ row ∈ (s.remove ids).rows, row ∈ s.rows := fun row hrow => List.mem_of_mem_filter hrow
  refine ⟨h.nodup.sublist (List.filter_sublist.map _), fun row hrow => h.bound row (hmem row hrow),
    fun c hc transactions old hpoint id hid => ?_⟩
  obtain ⟨hlt, hnominal⟩ := h.removing c hc transactions old hpoint id hid
  exact ⟨hlt, fun row hrow => hnominal row (hmem row hrow)⟩

theorem IdInv.save (h : IdInv s) (entries : List AccountPaymentTransaction) : IdInv (s.save entries) := by
  have hnew : ∀ row ∈ entries.zipIdx s.next, s.next ≤ row.2 ∧ row.2 < s.next + entries.length := by
    intro row hrow
    have hindex := List.mem_map_of_mem (f := Prod.snd) hrow
    rw [List.zipIdx_map_snd, List.mem_range'_1] at hindex
    exact hindex
  refine ⟨?_, fun row hrow => ?_, fun c hc transactions ids hpoint id hid => ?_⟩
  · unfold Ledger.save
    rw [List.map_append, List.nodup_append]
    refine ⟨h.nodup, by simp [List.zipIdx_map_snd, List.nodup_range'], fun a ha b hb => ?_⟩
    obtain ⟨row, hrow, rfl⟩ := List.mem_map.mp ha
    obtain ⟨row', hrow', rfl⟩ := List.mem_map.mp hb
    have hlt := h.bound row hrow
    have hle := (hnew row' hrow').1
    omega
  · unfold Ledger.save
    rcases List.mem_append.mp hrow with hold | hrow
    · have hlt := h.bound row hold
      simp only
      omega
    · exact (hnew row hrow).2
  · obtain ⟨hlt, hnominal⟩ := h.removing c hc transactions ids hpoint id hid
    refine ⟨Nat.lt_add_right _ hlt, fun row hrow heq => ?_⟩
    rcases List.mem_append.mp hrow with hold | hrow
    · exact hnominal row hold heq
    · have hle := (hnew row hrow).1
      omega

theorem mem_old_transactions {id : ℕ} :
    id ∈ s.oldTransactions payment ↔ ∃ row ∈ s.rows, isOldTransaction payment row.1 ∧ row.2 = id := by
  simp [Ledger.oldTransactions, and_assoc]

theorem IdInv.find (h : IdInv s) (transactions : List AccountPaymentTransaction) :
    IdInv (s.move call (.removing transactions (s.oldTransactions payment))) := by
  refine h.move fun _ ids hpoint id hid => ?_
  obtain ⟨-, rfl⟩ := CallPoint.removing.inj hpoint
  obtain ⟨row, hrow, hold, rfl⟩ := mem_old_transactions.mp hid
  refine ⟨h.bound row hrow, fun row' hrow' heq => ?_⟩
  rw [List.inj_on_of_nodup_map h.nodup hrow' hrow heq]
  exact hold.1

/-- What a step does to the entries: it adds some, or removes those that a call has found. -/
inductive Rewrites (s : Ledger) : Ledger → Prop
  | keep (s' : Ledger) (hrows : s'.rows = s.rows) : Rewrites s s'
  | remove (s' : Ledger) (running : Call) (hcall : running ∈ s.calls.rows) (transactions : List AccountPaymentTransaction)
      (ids : List ℕ) (hpoint : running.point = .removing transactions ids)
      (hrows : s'.rows = (s.remove ids).rows) : Rewrites s s'
  | save (s' : Ledger) (entries : List AccountPaymentTransaction) (hrows : s'.rows = (s.save entries).rows) : Rewrites s s'

theorem id_inv_step (h : IdInv s) {act : LedgerAct} (hstep : ledgerStep accountName payment s act = some s') :
    IdInv s' ∧ Rewrites s s' := by
  cases act with
  | start call corelationId status =>
    simp only [ledgerStep] at hstep
    split at hstep
    · obtain rfl := Option.some.inj hstep
      exact ⟨h.move (fun _ _ hpoint => by cases hpoint), .keep _ rfl⟩
    · cases hstep
  | advance call =>
    obtain ⟨running, hfind, rfl⟩ := Option.map_eq_some_iff.mp hstep
    cases hpoint : running.point with
    | finding transactions => exact ⟨h.find transactions, .keep _ rfl⟩
    | removing transactions ids =>
      exact ⟨(h.remove ids).move (fun _ _ hpoint => by cases hpoint),
        .remove _ running (Table.mem_of_find hfind) transactions ids hpoint rfl⟩
    | saving transactions =>
      simp only [advanceCall]
      split
      · have hsaved := (h.save transactions).stop call
        exact ⟨⟨hsaved.nodup, hsaved.bound, hsaved.removing⟩, .save _ transactions rfl⟩
      · exact ⟨h.stop call, .keep _ rfl⟩
  | fail call applied =>
    obtain ⟨running, hfind, rfl⟩ := Option.map_eq_some_iff.mp hstep
    cases hpoint : running.point with
    | finding transactions => exact ⟨h.stop call, .keep _ rfl⟩
    | removing transactions ids =>
      simp only [failCall]
      split
      · exact ⟨(h.remove ids).stop call, .remove _ running (Table.mem_of_find hfind) transactions ids hpoint rfl⟩
      · exact ⟨h.stop call, .keep _ rfl⟩
    | saving transactions =>
      simp only [failCall]
      split
      · exact ⟨(h.save transactions).stop call, .save _ transactions rfl⟩
      · exact ⟨h.stop call, .keep _ rfl⟩
  | post entries =>
    simp only [ledgerStep] at hstep
    split at hstep
    · obtain rfl := Option.some.inj hstep
      exact ⟨h.save entries, .save _ entries rfl⟩
    · cases hstep

/-- Rounding entries stay. -/
theorem Rewrites.rounding_kept (h : Rewrites s s') (hinv : IdInv s) {row : AccountPaymentTransaction × ℕ}
    (hrow : row ∈ s.rows) (hrounding : row.1.roundingOperationId ≠ none) : row ∈ s'.rows := by
  cases h with
  | keep hrows => rwa [hrows]
  | remove running hcall transactions ids hpoint hrows =>
    rw [hrows]
    refine List.mem_filter.mpr ⟨hrow, decide_eq_true fun hid => ?_⟩
    exact hrounding ((hinv.removing running hcall transactions ids hpoint row.2 hid).2 row hrow rfl)
  | save entries hrows =>
    rw [hrows]
    exact List.mem_append_left _ hrow

/-! ## The invariant -/

def CallPoint.transactions : CallPoint → List AccountPaymentTransaction
  | .finding transactions | .removing transactions _ | .saving transactions => transactions

variable (accountName payment) in
structure LedgerInv (s : Ledger) : Prop extends IdInv s where
  sole : ∀ c ∈ s.calls.rows, ∀ c' ∈ s.calls.rows, c.point.between → c'.point.between → c = c'
  found : ∀ c ∈ s.calls.rows, ∀ transactions ids, c.point = .removing transactions ids →
    ∀ row ∈ s.rows, isOldTransaction payment row.1 → row.2 ∈ ids
  removed : ∀ c ∈ s.calls.rows, c.point.isSaving → ∀ row ∈ s.rows, ¬ isOldTransaction payment row.1
  entries : ∀ c ∈ s.calls.rows, ∃ corelationId status,
    c.point.transactions = fromPayment accountName corelationId { payment with paymentStatus := status }
  accounts : s.succeeded = true → HasAccounts payment
  complete : s.succeeded = true → (∀ c ∈ s.calls.rows, ¬ c.point.isSaving) →
    ∀ key ∈ keys payment, s.nominalCount payment key = 1

theorem is_saving_between {point : CallPoint} (h : point.isSaving) : point.between := by
  cases point <;> simp_all [CallPoint.isSaving, CallPoint.between]

theorem removing_between {point : CallPoint} {transactions : List AccountPaymentTransaction} {ids : List ℕ}
    (h : point = .removing transactions ids) : point.between := by
  subst h
  trivial

/-- A nominal entry of the payment is one that a call looks for. -/
theorem is_old_of_nominal {key : String × TransactionType} (hkey : key ∈ keys payment)
    {entry : AccountPaymentTransaction} (hentry : isNominal payment key entry) : isOldTransaction payment entry := by
  obtain ⟨hrounding, hpayment, rfl⟩ := hentry
  refine ⟨hrounding, hpayment, ?_⟩
  rcases List.mem_append.mp hkey with hseller | hcustomer
  · obtain ⟨item, hitem, heq⟩ := List.mem_map.mp hseller
    obtain ⟨haccount, htype⟩ := Prod.mk.inj heq
    refine Or.inl ⟨htype.symm, item, hitem, fun account hsome => ?_⟩
    rw [← haccount, show item.sellerAccountId = some account from hsome]
    rfl
  · obtain ⟨haccount, htype⟩ := Prod.mk.inj (List.mem_singleton.mp hcustomer)
    refine Or.inr ⟨htype, fun account hsome => ?_⟩
    rw [haccount, show payment.customerAccountId = some account from hsome]
    rfl

theorem nominal_count_zero (hnone : ∀ row ∈ s.rows, ¬ isOldTransaction payment row.1)
    {key : String × TransactionType} (hkey : key ∈ keys payment) : s.nominalCount payment key = 0 := by
  unfold Ledger.nominalCount
  rw [List.countP_eq_zero]
  intro row hrow hnominal
  exact hnone row hrow (is_old_of_nominal hkey (by simpa using hnominal))

/-- The save of a call whose payment has no old entries left. -/
theorem nominal_count_save (hnone : ∀ row ∈ s.rows, ¬ isOldTransaction payment row.1) (h : HasAccounts payment)
    {entries : List AccountPaymentTransaction} {corelationId : String} {status : PaymentStatus}
    (hentries : entries = fromPayment accountName corelationId { payment with paymentStatus := status })
    {key : String × TransactionType} (hkey : key ∈ keys payment) : (s.save entries).nominalCount payment key = 1 := by
  have hzero := nominal_count_zero hnone hkey
  have hone := @from_payment_count accountName corelationId { payment with paymentStatus := status } h key hkey s.next
  unfold Ledger.nominalCount Ledger.save at *
  rw [List.countP_append, hzero, hentries, zero_add]
  exact hone

/-- A call that stands between leaves, whatever it has written: no other call stands there. -/
theorem LedgerInv.leave (h : LedgerInv accountName payment s) {running : Call} (hcall : running ∈ s.calls.rows)
    (hbetween : running.point.between) (hcalls : s'.calls = s.calls.delete (·.id = running.id)) (hids : IdInv s')
    (haccounts : s'.succeeded = true → HasAccounts payment)
    (hcomplete : s'.succeeded = true → ∀ key ∈ keys payment, s'.nominalCount payment key = 1) :
    LedgerInv accountName payment s' := by
  have hquiet : ∀ c ∈ s'.calls.rows, c ∈ s.calls.rows ∧ ¬ c.point.between := by
    intro c hc
    rw [hcalls] at hc
    obtain ⟨hmem, hne⟩ := Table.mem_delete.mp hc
    refine ⟨hmem, fun hb => hne ?_⟩
    rw [h.sole c hmem running hcall hb hbetween]
  refine { hids with sole := ?_, found := ?_, removed := ?_, entries := ?_, accounts := haccounts, complete := ?_ }
  · exact fun c hc _ _ hb => absurd hb (hquiet c hc).2
  · exact fun c hc _ _ hpoint => absurd (removing_between hpoint) (hquiet c hc).2
  · exact fun c hc hsaving => absurd (is_saving_between hsaving) (hquiet c hc).2
  · exact fun c hc => h.entries c (hquiet c hc).1
  · exact fun hsucceeded _ => hcomplete hsucceeded

/-- A call goes on to a point that is no save. -/
theorem LedgerInv.move (h : LedgerInv accountName payment s) {point : CallPoint}
    (hids : IdInv (s.move call point)) (hsaving : ¬ point.isSaving)
    (hkept : ∀ c ∈ s.calls.rows, c.id = call → ¬ c.point.isSaving)
    (halone : point.between → ∀ c ∈ s.calls.rows, ¬ c.point.between)
    (hfound : ∀ transactions ids, point = .removing transactions ids →
      ∀ row ∈ s.rows, isOldTransaction payment row.1 → row.2 ∈ ids)
    (hentries : ∃ corelationId status,
      point.transactions = fromPayment accountName corelationId { payment with paymentStatus := status }) :
    LedgerInv accountName payment (s.move call point) := by
  have hmem : ∀ c ∈ (s.move call point).calls.rows, c = ⟨call, point⟩ ∨ c ∈ s.calls.rows := by
    intro c hc
    rcases Table.mem_save.mp hc with rfl | ⟨hold, -⟩
    · exact Or.inl rfl
    · exact Or.inr hold
  refine { hids with sole := ?_, found := ?_, removed := ?_, entries := ?_, accounts := h.accounts, complete := ?_ }
  · intro c hc c' hc' hb hb'
    rcases hmem c hc with rfl | hold
    · rcases hmem c' hc' with rfl | hold'
      · rfl
      · exact absurd hb' (halone hb c' hold')
    · rcases hmem c' hc' with rfl | hold'
      · exact absurd hb (halone hb' c hold)
      · exact h.sole c hold c' hold' hb hb'
  · intro c hc transactions ids hpoint
    rcases hmem c hc with rfl | hold
    · exact hfound transactions ids hpoint
    · exact h.found c hold transactions ids hpoint
  · intro c hc hpoint
    rcases hmem c hc with rfl | hold
    · exact absurd hpoint hsaving
    · exact h.removed c hold hpoint
  · intro c hc
    rcases hmem c hc with rfl | hold
    · exact hentries
    · exact h.entries c hold
  · intro hsucceeded hnone
    refine h.complete hsucceeded fun c hc => ?_
    by_cases hid : c.id = call
    · exact hkept c hc hid
    · exact hnone c (Table.mem_save.mpr (Or.inr ⟨hc, hid⟩))

theorem LedgerInv.stop (h : LedgerInv accountName payment s)
    (hkept : s.succeeded = true → ∀ c ∈ s.calls.rows, c.id = call → ¬ c.point.isSaving) :
    LedgerInv accountName payment (s.stop call) := by
  have hmem : ∀ c ∈ (s.stop call).calls.rows, c ∈ s.calls.rows := fun c hc => (Table.mem_delete.mp hc).1
  refine { h.toIdInv.stop call with
    sole := ?_, found := ?_, removed := ?_, entries := ?_, accounts := h.accounts, complete := ?_ }
  · exact fun c hc c' hc' => h.sole c (hmem c hc) c' (hmem c' hc')
  · exact fun c hc => h.found c (hmem c hc)
  · exact fun c hc => h.removed c (hmem c hc)
  · exact fun c hc => h.entries c (hmem c hc)
  · intro hsucceeded hnone
    refine h.complete hsucceeded fun c hc => ?_
    by_cases hid : c.id = call
    · exact hkept hsucceeded c hc hid
    · exact hnone c (Table.mem_delete.mpr ⟨hc, hid⟩)

/-- The removal: nothing of the payment is left. -/
theorem LedgerInv.remove (h : LedgerInv accountName payment s) {transactions : List AccountPaymentTransaction}
    {ids : List ℕ} (hcall : ⟨call, .removing transactions ids⟩ ∈ s.calls.rows) :
    LedgerInv accountName payment ((s.remove ids).move call (.saving transactions)) := by
  have hids : IdInv ((s.remove ids).move call (.saving transactions)) :=
    (h.toIdInv.remove ids).move fun _ _ hpoint => nomatch hpoint
  have hmem : ∀ c ∈ ((s.remove ids).move call (.saving transactions)).calls.rows,
      c = ⟨call, .saving transactions⟩ ∨ c ∈ s.calls.rows ∧ ¬ c.point.between := by
    intro c hc
    rcases Table.mem_save.mp hc with rfl | ⟨hold, hne⟩
    · exact Or.inl rfl
    · refine Or.inr ⟨hold, fun hb => hne ?_⟩
      rw [h.sole c hold _ hcall hb trivial]
  refine { hids with
    sole := ?_, found := ?_, removed := ?_, entries := ?_, accounts := h.accounts, complete := ?_ }
  · intro c hc c' hc' hb hb'
    rcases hmem c hc with rfl | ⟨-, hquiet⟩
    · rcases hmem c' hc' with rfl | ⟨-, hquiet⟩
      · rfl
      · exact absurd hb' hquiet
    · exact absurd hb hquiet
  · intro c hc _ _ hpoint
    rcases hmem c hc with rfl | ⟨-, hquiet⟩
    · exact nomatch hpoint
    · exact absurd (removing_between hpoint) hquiet
  · intro c hc hsaving row hrow hold
    obtain ⟨hstored, hleft⟩ := List.mem_filter.mp hrow
    exact of_decide_eq_true hleft (h.found _ hcall transactions ids rfl row hstored hold)
  · intro c hc
    rcases hmem c hc with rfl | ⟨hold, -⟩
    · have hentries := h.entries _ hcall
      exact hentries
    · exact h.entries c hold
  · intro _ hnone
    exact absurd trivial (hnone _ (Table.mem_save.mpr (Or.inl rfl)))

theorem LedgerInv.post (h : LedgerInv accountName payment s) {entries : List AccountPaymentTransaction}
    (hrounding : ∀ entry ∈ entries, entry.roundingOperationId ≠ none) :
    LedgerInv accountName payment (s.save entries) := by
  have hmem : ∀ row ∈ (s.save entries).rows, row ∈ s.rows ∨ row.1.roundingOperationId ≠ none := by
    intro row hrow
    rcases List.mem_append.mp hrow with hold | hnew
    · exact Or.inl hold
    · have hentry := List.mem_map_of_mem (f := Prod.fst) hnew
      rw [List.zipIdx_map_fst] at hentry
      exact Or.inr (hrounding row.1 hentry)
  refine { h.toIdInv.save entries with
    sole := h.sole, found := ?_, removed := ?_, entries := h.entries, accounts := h.accounts, complete := ?_ }
  · intro c hc transactions ids hpoint row hrow hold
    rcases hmem row hrow with hstored | hround
    · exact h.found c hc transactions ids hpoint row hstored hold
    · exact absurd hold.1 hround
  · intro c hc hsaving row hrow hold
    rcases hmem row hrow with hstored | hround
    · exact h.removed c hc hsaving row hstored hold
    · exact absurd hold.1 hround
  · intro hsucceeded hnone key hkey
    have hzero : (entries.zipIdx s.next).countP (fun row => isNominal payment key row.1) = 0 := by
      rw [List.countP_eq_zero]
      intro row hrow hnominal
      have hentry := List.mem_map_of_mem (f := Prod.fst) hrow
      rw [List.zipIdx_map_fst] at hentry
      exact hrounding row.1 hentry (of_decide_eq_true hnominal).1
    have hone := h.complete hsucceeded hnone key hkey
    unfold Ledger.nominalCount Ledger.save at *
    rw [List.countP_append, hone, hzero]

theorem LedgerInv.step (h : LedgerInv accountName payment s) {act : LedgerAct} (halone : Alone s act)
    (hstep : ledgerStep accountName payment s act = some s') : LedgerInv accountName payment s' := by
  have hids := (id_inv_step h.toIdInv hstep).1
  cases act with
  | start call corelationId status =>
    simp only [ledgerStep] at hstep
    split at hstep
    · obtain rfl := Option.some.inj hstep
      have hnone := Table.find_eq_none_iff.mp ‹_›
      refine h.move hids (fun hs => hs) (fun c hc hid => absurd hid (hnone c hc)) (fun hb => hb.elim) ?_ ?_
      · intro _ _ hpoint
        cases hpoint
      · exact ⟨corelationId, status, rfl⟩
    · cases hstep
  | advance call =>
    obtain ⟨running, hfind, rfl⟩ := Option.map_eq_some_iff.mp hstep
    have hcall := Table.mem_of_find hfind
    obtain rfl : running.id = call := Table.key_of_find hfind
    have hself : ∀ c ∈ s.calls.rows, c.id = running.id → c = running := fun c hc hid => Table.eq_of_key hc hcall hid
    cases hpoint : running.point with
    | finding transactions =>
      rw [hpoint] at hids
      have hothers := halone running hfind (by rw [hpoint]; exact fun hb => hb)
      refine h.move hids (fun hs => hs) (fun c hc hid => ?_) (fun _ => hothers) ?_ ?_
      · rw [hself c hc hid, hpoint]
        exact fun hs => hs
      · intro _ ids hremoving row hrow hold
        obtain ⟨-, rfl⟩ := CallPoint.removing.inj hremoving
        exact mem_old_transactions.mpr ⟨row, hrow, hold, rfl⟩
      · have hentries := h.entries running hcall
        rw [hpoint] at hentries
        exact hentries
    | removing transactions ids =>
      apply h.remove
      rw [← hpoint]
      exact hcall
    | saving transactions =>
      have hsaving : running.point.isSaving := by
        rw [hpoint]
        trivial
      rw [hpoint] at hids
      simp only [advanceCall] at hids ⊢
      split at hids
      · rename_i haccounts
        rw [if_pos haccounts]
        obtain ⟨corelationId, status, hentries⟩ := h.entries running hcall
        rw [hpoint] at hentries
        exact h.leave hcall (is_saving_between hsaving) rfl hids (fun _ => haccounts) fun _ key hkey =>
          nominal_count_save (h.removed running hcall hsaving) haccounts hentries hkey
      · rename_i haccounts
        rw [if_neg haccounts]
        exact h.stop fun hsucceeded => absurd (h.accounts hsucceeded) haccounts
  | fail call applied =>
    obtain ⟨running, hfind, rfl⟩ := Option.map_eq_some_iff.mp hstep
    have hcall := Table.mem_of_find hfind
    obtain rfl : running.id = call := Table.key_of_find hfind
    have hself : ∀ c ∈ s.calls.rows, c.id = running.id → c = running := fun c hc hid => Table.eq_of_key hc hcall hid
    have hkeeps : s.succeeded = true → ¬ running.point.loses applied := fun hs => halone hs running hfind
    cases hpoint : running.point with
    | finding transactions =>
      refine h.stop fun _ c hc hid => ?_
      rw [hself c hc hid, hpoint]
      exact fun hs => hs
    | removing transactions ids =>
      rw [hpoint] at hids hkeeps
      simp only [failCall] at hids ⊢
      split at hids
      · rename_i happlied
        rw [if_pos happlied]
        exact h.leave hcall (removing_between hpoint) rfl hids h.accounts fun hs => absurd happlied (hkeeps hs)
      · rename_i happlied
        rw [if_neg happlied]
        refine h.stop fun _ c hc hid => ?_
        rw [hself c hc hid, hpoint]
        exact fun hs => hs
    | saving transactions =>
      have hsaving : running.point.isSaving := by
        rw [hpoint]
        trivial
      rw [hpoint] at hids hkeeps
      simp only [failCall] at hids ⊢
      split at hids
      · rename_i happlied
        rw [if_pos happlied]
        obtain ⟨corelationId, status, hentries⟩ := h.entries running hcall
        rw [hpoint] at hentries
        exact h.leave hcall (is_saving_between hsaving) rfl hids (fun _ => happlied.2) fun _ key hkey =>
          nominal_count_save (h.removed running hcall hsaving) happlied.2 hentries hkey
      · rename_i happlied
        rw [if_neg happlied]
        refine h.stop fun hs => absurd ⟨?_, h.accounts hs⟩ happlied
        by_contra hlost
        exact hkeeps hs (by simpa [CallPoint.loses] using hlost)
  | post entries =>
    simp only [ledgerStep] at hstep
    split at hstep
    · obtain rfl := Option.some.inj hstep
      exact h.post ‹_›
    · cases hstep

/-- Entries are stored under different ids, and no call is running. -/
def Ledger.idle (rows : List (AccountPaymentTransaction × ℕ)) (next : ℕ) : Ledger := ⟨rows, next, .empty, false⟩

variable (accountName payment) in
theorem ledger_inv_idle {rows : List (AccountPaymentTransaction × ℕ)} {next : ℕ} (hnodup : (rows.map Prod.snd).Nodup)
    (hbound : ∀ row ∈ rows, row.2 < next) : LedgerInv accountName payment (.idle rows next) where
  nodup := hnodup
  bound := hbound
  removing _ hc := nomatch hc
  sole _ hc := nomatch hc
  found _ hc := nomatch hc
  removed _ hc := nomatch hc
  entries _ hc := nomatch hc
  accounts hs := nomatch hs
  complete hs := nomatch hs

end Steps

/-- No step of a run removes a rounding entry. In a run whose calls keep apart and do not fail
halfway, once a call has succeeded there is one nominal entry for each account and type of the
payment, except exactly while a call stands between its removal and its save. -/
theorem ledger_regenerated (accountName : Option String → String) (payment : Payment)
    (rows : List (AccountPaymentTransaction × ℕ)) (next : ℕ) (before after : List LedgerAct) (s t : Ledger)
    (hnodup : (rows.map Prod.snd).Nodup) (hbound : ∀ row ∈ rows, row.2 < next)
    (hbefore : run (ledgerStep accountName payment) (.idle rows next) before = some s)
    (hafter : run (ledgerStep accountName payment) s after = some t) :
    (∀ row ∈ s.rows, row.1.roundingOperationId ≠ none → row ∈ t.rows) ∧
      (Meets (ledgerStep accountName payment) Alone (.idle rows next) before → s.succeeded = true →
        ∀ key ∈ keys payment, s.nominalCount payment key = 1 ↔ ∀ call ∈ s.calls.rows, ¬ call.point.isSaving) := by
  have hstart := ledger_inv_idle accountName payment hnodup hbound
  have hids : IdInv s := run_invariant (fun _ _ _ h hstep => (id_inv_step h hstep).1) hstart.toIdInv hbefore
  constructor
  · clear hbefore
    induction after generalizing s with
    | nil =>
      obtain rfl := Option.some.inj hafter
      exact fun row hrow _ => hrow
    | cons act after ih =>
      obtain ⟨middle, hstep, hrest⟩ := run_cons_eq_some.mp hafter
      obtain ⟨hmiddle, hrewrites⟩ := id_inv_step hids hstep
      intro row hrow hrounding
      exact ih middle hrest hmiddle row (hrewrites.rounding_kept hids hrow hrounding) hrounding
  · intro halone hsucceeded key hkey
    have hinv : LedgerInv accountName payment s :=
      run_invariant_of_meets (fun _ _ _ h hok hstep => h.step hok hstep) hstart halone hbefore
    constructor
    · intro hone call hcall hsaving
      have hzero := nominal_count_zero (hinv.removed call hcall hsaving) hkey
      omega
    · exact fun hnone => hinv.complete hsucceeded hnone key hkey

/-! ## Two calls -/

def saleOfOneItem : Payment where
  id := "sale"
  type := .purchase
  totalAmount := 100000
  taxAmount := 0
  currency := "TRY"
  items := Table.empty.save { id := "line", totalAmount := 100000, sellerAccountId := some "seller" }
  customerAccountId := some "customer"
  paymentStatus := .waiting

def saleStep : Ledger → LedgerAct → Option Ledger := ledgerStep (fun _ => "") saleOfOneItem

def oneCall (call : ℕ) : List LedgerAct := [.start call "" .waiting, .advance call, .advance call, .advance call]

theorem ledger_regenerated_sample :
    ∃ s ∈ run saleStep (.idle [] 0) (oneCall 0 ++ oneCall 1), s.succeeded = true ∧
      ∀ key ∈ keys saleOfOneItem, s.nominalCount saleOfOneItem key = 1 := by
  have hrun : ∃ s ∈ run saleStep (.idle [] 0) (oneCall 0 ++ oneCall 1),
      s.succeeded = true ∧ ∀ call ∈ s.calls.rows, ¬ call.point.isSaving := by decide +kernel
  obtain ⟨s, hs, hsucceeded, hnone⟩ := hrun
  have hregenerated := ledger_regenerated (fun _ => "") saleOfOneItem [] 0 (oneCall 0 ++ oneCall 1) [] s s
    List.nodup_nil (fun _ hrow => nomatch hrow) hs rfl
  have hcount := hregenerated.2 (by decide +kernel) hsucceeded
  exact ⟨s, hs, hsucceeded, fun key hkey => (hcount key hkey).mpr hnone⟩

/-- Both calls find no entries, and both save theirs. -/
theorem overlapping_calls_double_ledger :
    ¬ ∀ (accountName : Option String → String) (payment : Payment) (acts : List LedgerAct) (s : Ledger),
      run (ledgerStep accountName payment) (.idle [] 0) acts = some s → s.calls.rows = [] → s.succeeded = true →
      ∀ key ∈ keys payment, s.nominalCount payment key = 1 := by
  intro hall
  have hrun : ∃ s ∈ run saleStep (.idle [] 0) [.start 0 "" .waiting, .start 1 "" .waiting, .advance 0, .advance 1,
      .advance 0, .advance 1, .advance 0, .advance 1], s.calls.rows = [] ∧ s.succeeded = true ∧
      ∃ key ∈ keys saleOfOneItem, s.nominalCount saleOfOneItem key ≠ 1 := by decide +kernel
  obtain ⟨s, hs, hdone, hsucceeded, key, hkey, hcount⟩ := hrun
  exact hcount (hall (fun _ => "") saleOfOneItem _ s hs hdone hsucceeded key hkey)

end Postral.Regeneration
