import Postral.Refund.Channels
import Postral.Refund.Steps

/-!
# A channel is asked once for each refund and capture

A message leaves only from a reservation that its own call has just inserted, and no step takes a
reservation away.
-/

open Check Run

namespace Postral.Refund.Channels

/-! ## The rows that stay -/

/-- Every row is still there, with its payment and its original operation. -/
def Keeps (operations operations' : Table PaymentChannelOperation.id) : Prop :=
  ∀ id old, operations.find id = some old →
    ∃ new, operations'.find id = some new ∧ new.paymentId = old.paymentId ∧ new.originalOperationId = old.originalOperationId

theorem keeps_refl (operations : Table PaymentChannelOperation.id) : Keeps operations operations :=
  fun _ old h => ⟨old, h, rfl, rfl⟩

theorem keeps_trans {a b c : Table PaymentChannelOperation.id} (hab : Keeps a b) (hbc : Keeps b c) : Keeps a c := by
  intro id old hold
  obtain ⟨mid, hmid, hpay, horig⟩ := hab id old hold
  obtain ⟨new, hnew, hpay', horig'⟩ := hbc id mid hmid
  exact ⟨new, hnew, hpay'.trans hpay, horig'.trans horig⟩

theorem keeps_save {operations : Table PaymentChannelOperation.id} {operation : PaymentChannelOperation}
    (h : ∀ old, operations.find operation.id = some old →
      operation.paymentId = old.paymentId ∧ operation.originalOperationId = old.originalOperationId) :
    Keeps operations (operations.save operation) := by
  intro id old hold
  rw [Table.find_save]
  split <;> rename_i hid
  · subst hid
    exact ⟨operation, rfl, h old hold⟩
  · exact ⟨old, hold, rfl, rfl⟩

/-- The refund has an operation for the capture. -/
def Reserved (operations : Table PaymentChannelOperation.id) (pair : String × String) : Prop :=
  ∃ row ∈ operations.rows, row.paymentId = pair.1 ∧ row.originalOperationId = some pair.2

theorem reserved_keeps {operations operations' : Table PaymentChannelOperation.id} {pair : String × String}
    (hkeeps : Keeps operations operations') (h : Reserved operations pair) : Reserved operations' pair := by
  obtain ⟨row, hrow, hpay, horig⟩ := h
  obtain ⟨new, hnew, hpay', horig'⟩ := hkeeps row.id row (Table.find_of_mem hrow)
  exact ⟨new, Table.mem_of_find hnew, hpay'.trans hpay, horig'.trans horig⟩

theorem find_reservation_eq_none {operations : Table PaymentChannelOperation.id} {refundPaymentId originalOperationId : String} :
    findReservation operations refundPaymentId originalOperationId = none ↔
      ¬ Reserved operations (refundPaymentId, originalOperationId) := by
  simp [findReservation, Reserved]

/-! ## The functions -/

theorem reserve_spec {payments : Table Payment.id} {operations operations' : Table PaymentChannelOperation.id} {job : Job}
    {allocation : Allocation} {id : String} {operation : PaymentChannelOperation}
    (h : reserve payments operations job allocation id = .ok (some (operations', operation))) :
    ¬ Reserved operations (job.refundPaymentId, allocation.1.id) ∧ operations.find operation.id = none ∧
    operations' = operations.save operation ∧ operation.paymentId = job.refundPaymentId ∧
    operation.originalOperationId = some allocation.1.id := by
  simp only [reserve, bind_eq_ok] at h
  obtain ⟨_, -, h⟩ := h
  split at h <;> rename_i hfind
  · simp at h
  · simp only [bind_eq_ok, pure_eq_ok, insert_spec, Option.some.injEq, Prod.mk.injEq] at h
    obtain ⟨_, ⟨hfresh, rfl⟩, rfl, rfl⟩ := h
    exact ⟨find_reservation_eq_none.mp hfind, hfresh, rfl, rfl, rfl⟩

/-- A reservation without the channel's id, or one that failed, is refused. -/
theorem reserve_unknown {payments : Table Payment.id} {operations : Table PaymentChannelOperation.id} {job : Job}
    {allocation : Allocation} {id : String} {existing : PaymentChannelOperation}
    (hpayment : (payments.find job.refundPaymentId).isSome)
    (hfind : findReservation operations job.refundPaymentId allocation.1.id = some existing)
    (hunknown : truthy existing.operationId = false ∨ existing.status = .failed) :
    reserve payments operations job allocation id = .error
      (.conflict s!"Refund channel operation {existing.id} needs reconciliation; it will not be initialized twice") := by
  obtain ⟨payment, hpayment⟩ := Option.isSome_iff_exists.mp hpayment
  have hnot : ¬ (truthy existing.operationId ∧ existing.status ≠ .failed ∧ existing.amount = allocation.2) := by
    rintro ⟨hid, hstatus, -⟩
    rcases hunknown with h | h
    · simp [h] at hid
    · exact hstatus h
  simp only [reserve, hpayment, hfind, orThrow, require, if_neg hnot]
  rfl

theorem save_payment_channel_record_keeps {env : Operations.Env} {db db' : Operations.Db} {record : PaymentChannelOperation}
    {result : PaymentChannelStatusDTO} (hheld : Keeps db.operations (db.operations.save record))
    (h : Operations.savePaymentChannelRecord env db record result record.paymentId = .ok db') :
    Keeps db.operations db'.operations := by
  unfold Operations.savePaymentChannelRecord at h
  split at h
  · simp only [Operations.saveRefundSettlementRecord, bind_eq_ok, pure_eq_ok, orThrow_eq_ok] at h
    obtain ⟨operation, hfind, _, _, _, _, _, _, _, _, _, _, rfl⟩ := h
    apply keeps_save
    intro old hold
    rw [Table.key_of_find hfind, hfind, Option.some.injEq] at hold
    simp [hold]
  · simp only [bind_eq_ok, pure_eq_ok] at h
    obtain ⟨_, -, rfl⟩ := h
    apply keeps_save
    intro old hold
    obtain ⟨new, hnew, hpay, horig⟩ := hheld record.id old hold
    rw [Table.find_save_self, Option.some.injEq] at hnew
    subst hnew
    exact ⟨hpay, horig⟩

/-! ## What a step changes -/

/-- The reservation that a call is about to send. -/
def sendingPair : Option (Job × Point) → Option (String × String)
  | some (job, .sending element _ _) => some (job.refundPaymentId, element.id)
  | _ => none

/-- The operation that a call works on. -/
def Point.operation? : Point → Option PaymentChannelOperation
  | .sending _ operation _ => some operation
  | .awaiting operation _ => some operation
  | .recording operation _ _ => some operation
  | _ => none

def Message.pair (m : Message) : String × String := (m.refundPaymentId, m.originalOperationId)

/-- The operation of a call is a stored row of its refund. -/
def Holds (operations : Table PaymentChannelOperation.id) (call : Option (Job × Point)) : Prop :=
  ∀ job point operation, call = some (job, point) → point.operation? = some operation →
    operation.paymentId = job.refundPaymentId ∧ Keeps operations (operations.save operation) ∧
      (operations.find operation.id).isSome

theorem holds_none (operations : Table PaymentChannelOperation.id) : Holds operations none := by
  intro job point operation h
  simp at h

theorem holds_of_operation_none {operations : Table PaymentChannelOperation.id} {job : Job} {point : Point}
    (h : point.operation? = none) : Holds operations (some (job, point)) := by
  intro job' point' operation hcall hoperation
  obtain ⟨rfl, rfl⟩ := Prod.mk.inj (Option.some.inj hcall)
  simp [h] at hoperation

theorem holds_keeps {operations operations' : Table PaymentChannelOperation.id} {call : Option (Job × Point)}
    (hkeeps : Keeps operations operations') (h : Holds operations call) : Holds operations' call := by
  intro job point operation hcall hoperation
  obtain ⟨hpay, hsave, hsome⟩ := h job point operation hcall hoperation
  obtain ⟨old, hold⟩ := Option.isSome_iff_exists.mp hsome
  obtain ⟨kept, hkept, hpay₁, horig₁⟩ := hsave operation.id old hold
  rw [Table.find_save_self, Option.some.injEq] at hkept
  subst hkept
  obtain ⟨new, hnew, hpay₂, horig₂⟩ := hkeeps operation.id old hold
  refine ⟨hpay, keeps_save ?_, by simp [hnew]⟩
  intro row hrow
  rw [hnew, Option.some.injEq] at hrow
  subst hrow
  exact ⟨hpay₁.trans hpay₂.symm, horig₁.trans horig₂.symm⟩

/-- What a step does to the channel part. -/
inductive Change (w w' : World) : Prop where
  /-- Nothing leaves, and no call gets ready to send. -/
  | quiet (hkeeps : Keeps w.operations.operations w'.operations.operations) (hsent : w'.sent = w.sent)
      (hcalls : ∀ c, w'.calls c = w.calls c ∨ sendingPair (w'.calls c) = none)
      (hholds : ∀ c, w'.calls c = w.calls c ∨ Holds w'.operations.operations (w'.calls c))
  /-- A call inserts a reservation. -/
  | reserved (call : ℕ) (job : Job) (element operation : PaymentChannelOperation) (rest : List Allocation)
      (hfresh : ¬ Reserved w.operations.operations (job.refundPaymentId, element.id))
      (hnew : w.operations.operations.find operation.id = none)
      (hops : w'.operations.operations = w.operations.operations.save operation)
      (hpay : operation.paymentId = job.refundPaymentId) (horig : operation.originalOperationId = some element.id)
      (hsent : w'.sent = w.sent)
      (hcalls : w'.calls = Function.update w.calls call (some (job, .sending element operation rest)))
  /-- The message of a reservation leaves. -/
  | sent (call : ℕ) (job : Job) (element operation : PaymentChannelOperation) (rest : List Allocation)
      (hcall : w.calls call = some (job, .sending element operation rest))
      (hops : w'.operations = w.operations) (hsent : w'.sent = messageOf job element operation :: w.sent)
      (hcalls : w'.calls = Function.update w.calls call (some (job, .awaiting operation rest)))

theorem change_of_setCall {w w' : World} {call : ℕ} {next : Option (Job × Point)}
    (hkeeps : Keeps w.operations.operations w'.operations.operations) (hsent : w'.sent = w.sent)
    (hcalls : w'.calls = Function.update w.calls call next) (hpair : sendingPair next = none)
    (hholds : Holds w'.operations.operations next) : Change w w' := by
  refine .quiet hkeeps hsent ?_ ?_ <;> intro c <;> rw [hcalls, Function.update_apply] <;> split
  · exact Or.inr hpair
  · exact Or.inl rfl
  · exact Or.inr hholds
  · exact Or.inl rfl

theorem change_of_calls {w w' : World} (hops : w'.operations = w.operations) (hsent : w'.sent = w.sent)
    (hcalls : w'.calls = w.calls) : Change w w' :=
  .quiet (hops ▸ keeps_refl _) hsent (fun _ => Or.inl (by rw [hcalls])) (fun _ => Or.inl (by rw [hcalls]))

theorem throws_change {w w' : World} {call : ℕ} (h : w.throws call = some w') :
    w'.operations = w.operations ∧ w'.sent = w.sent ∧ w'.calls = Function.update w.calls call none := by
  simp only [World.throws, Option.map_eq_some_iff] at h
  obtain ⟨_, -, rfl⟩ := h
  exact ⟨rfl, rfl, rfl⟩

theorem returns_change {w w' : World} {call : ℕ} (h : w.returns call = some w') :
    w'.operations = w.operations ∧ w'.sent = w.sent ∧ w'.calls = Function.update w.calls call none := by
  simp only [World.returns, Option.map_eq_some_iff] at h
  obtain ⟨_, -, rfl⟩ := h
  exact ⟨rfl, rfl, rfl⟩

/-- A call that ends changes nothing else. -/
theorem change_of_end {w w' : World} {call : ℕ}
    (h : w'.operations = w.operations ∧ w'.sent = w.sent ∧ w'.calls = Function.update w.calls call none) :
    Change w w' := by
  obtain ⟨hops, hsent, hcalls⟩ := h
  exact change_of_setCall (hops ▸ keeps_refl _) hsent hcalls rfl (holds_none _)

theorem advance_change {w w' : World} {call : ℕ} {env : ChannelEnv} {job : Job} {point : Point}
    (hcall : w.calls call = some (job, point)) (hheld : Holds w.operations.operations (w.calls call))
    (h : advance w call env job point = some w') : Change w w' := by
  unfold advance at h
  split at h
  · split at h
    · obtain rfl := Option.some.inj h
      exact change_of_setCall (keeps_refl _) rfl rfl rfl (holds_of_operation_none rfl)
    · exact change_of_end (throws_change h)
  · split at h
    · obtain rfl := Option.some.inj h
      exact change_of_setCall (keeps_refl _) rfl rfl rfl (holds_of_operation_none rfl)
    · exact change_of_end (throws_change h)
  · exact change_of_end (returns_change h)
  · split at h <;> rename_i hreserve
    · obtain rfl := Option.some.inj h
      exact change_of_setCall (keeps_refl _) rfl rfl rfl (holds_of_operation_none rfl)
    · obtain rfl := Option.some.inj h
      obtain ⟨hfresh, hnew, rfl, hpay, horig⟩ := reserve_spec hreserve
      exact .reserved call job _ _ _ hfresh hnew rfl hpay horig rfl rfl
    · exact change_of_end (throws_change h)
  · obtain rfl := Option.some.inj h
    exact .sent call job _ _ _ hcall rfl rfl rfl
  · obtain ⟨hpay, hkeeps, hsome⟩ := hheld job _ _ hcall rfl
    split at h
    · obtain rfl := Option.some.inj h
      refine change_of_setCall (keeps_refl _) rfl rfl rfl ?_
      intro job' point' operation' hnext hoperation
      obtain ⟨rfl, rfl⟩ := Prod.mk.inj (Option.some.inj hnext)
      obtain rfl := Option.some.inj hoperation
      exact ⟨hpay, hkeeps, hsome⟩
    · exact change_of_end (throws_change h)
  · obtain ⟨hpay, hkeeps, hsome⟩ := hheld job _ _ hcall rfl
    split at h <;> rename_i hsave
    · rw [← hpay] at hsave
      have hsaved := save_payment_channel_record_keeps hkeeps hsave
      split at h
      · obtain ⟨hops, hsent, hcalls⟩ := throws_change h
        exact change_of_setCall (by rw [hops]; exact hsaved) hsent hcalls rfl (holds_none _)
      · obtain rfl := Option.some.inj h
        exact change_of_setCall hsaved rfl rfl rfl (holds_of_operation_none rfl)
    · exact change_of_end (throws_change h)

theorem step_change {w w' : World} {act : WorldAct} (hheld : ∀ c, Holds w.operations.operations (w.calls c))
    (h : step w act = some w') : Change w w' := by
  unfold step at h
  split at h
  · simp only [Option.map_eq_some_iff] at h
    obtain ⟨_, -, rfl⟩ := h
    exact change_of_end ⟨rfl, rfl, rfl⟩
  · split at h
    · simp at h
    · simp only [Option.map_eq_some_iff] at h
      obtain ⟨_, -, rfl⟩ := h
      exact change_of_calls rfl rfl rfl
  · split at h
    · simp at h
    · simp only [Option.map_eq_some_iff] at h
      obtain ⟨_, -, rfl⟩ := h
      exact change_of_calls rfl rfl rfl
  · simp only [Option.map_eq_some_iff] at h
    obtain ⟨_, -, rfl⟩ := h
    exact change_of_calls rfl rfl rfl
  · split at h
    · split at h
      · split at h
        · obtain rfl := Option.some.inj h
          exact change_of_setCall (keeps_refl _) rfl rfl rfl (holds_of_operation_none rfl)
        · exact change_of_end (returns_change h)
        · exact change_of_end (throws_change h)
      · simp at h
    · simp at h
  · split at h <;> rename_i hcall
    · exact advance_change hcall (hheld _) h
    · simp at h
  · split at h
    · exact change_of_end (throws_change h)
    · simp at h
  · split at h <;> rename_i hwrite
    · obtain rfl := Option.some.inj h
      refine .quiet (keeps_save ?_) rfl (fun _ => Or.inl rfl) (fun _ => Or.inl rfl)
      intro old hold
      simpa [mayWrite, hold] using hwrite
    · simp at h

/-! ## The invariant -/

structure Inv (w : World) : Prop where
  held : ∀ c, Holds w.operations.operations (w.calls c)
  /-- Every message that left has its reservation. -/
  reserved : ∀ m ∈ w.sent, Reserved w.operations.operations m.pair
  once : (w.sent.map Message.pair).Nodup
  /-- What is about to leave is reserved, and has not left. -/
  ready : ∀ c pair, sendingPair (w.calls c) = some pair →
    Reserved w.operations.operations pair ∧ pair ∉ w.sent.map Message.pair
  /-- Two calls never get the same reservation. -/
  owner : ∀ c c' pair, sendingPair (w.calls c) = some pair → sendingPair (w.calls c') = some pair → c = c'

theorem inv_init {w : World} (hcalls : ∀ c, w.calls c = none) (hsent : w.sent = []) : Inv w := by
  constructor
  · intro c
    rw [hcalls]
    exact holds_none _
  all_goals simp [hcalls, hsent, sendingPair]

theorem step_inv {w w' : World} {act : WorldAct} (hinv : Inv w) (h : step w act = some w') : Inv w' := by
  cases step_change hinv.held h with
  | quiet hkeeps hsent hcalls hholds =>
    have hpair : ∀ c pair, sendingPair (w'.calls c) = some pair → sendingPair (w.calls c) = some pair := by
      intro c pair hc
      rcases hcalls c with heq | hnone
      · rwa [heq] at hc
      · simp [hnone] at hc
    constructor
    · intro c
      rcases hholds c with heq | hholds
      · rw [heq]
        exact holds_keeps hkeeps (hinv.held c)
      · exact hholds
    · rw [hsent]
      exact fun m hm => reserved_keeps hkeeps (hinv.reserved m hm)
    · rw [hsent]
      exact hinv.once
    · intro c pair hc
      rw [hsent]
      obtain ⟨hres, hnot⟩ := hinv.ready c pair (hpair c pair hc)
      exact ⟨reserved_keeps hkeeps hres, hnot⟩
    · exact fun c c' pair hc hc' => hinv.owner c c' pair (hpair c pair hc) (hpair c' pair hc')
  | reserved call job element operation rest hfresh hnew hops hpay horig hsent hcalls =>
    have hkeeps : Keeps w.operations.operations w'.operations.operations := by
      rw [hops]
      apply keeps_save
      intro old hold
      rw [hnew] at hold
      simp at hold
    have hres : Reserved w'.operations.operations (job.refundPaymentId, element.id) := by
      rw [hops]
      exact ⟨operation, Table.mem_save.mpr (Or.inl rfl), hpay, horig⟩
    have hnotsent : (job.refundPaymentId, element.id) ∉ w.sent.map Message.pair := by
      intro hmem
      obtain ⟨m, hm, hpair⟩ := List.mem_map.mp hmem
      exact hfresh (hpair ▸ hinv.reserved m hm)
    have hpair : ∀ c pair, sendingPair (w'.calls c) = some pair →
        c = call ∧ pair = (job.refundPaymentId, element.id) ∨
          c ≠ call ∧ sendingPair (w.calls c) = some pair ∧ pair ≠ (job.refundPaymentId, element.id) := by
      intro c pair hc
      rw [hcalls, Function.update_apply] at hc
      split at hc <;> rename_i hcall
      · exact Or.inl ⟨hcall, (Option.some.inj hc).symm⟩
      · exact Or.inr ⟨hcall, hc, fun heq => hfresh (heq ▸ (hinv.ready c pair hc).1)⟩
    constructor
    · intro c
      rw [hcalls, Function.update_apply]
      split
      · intro job' point' operation' hnext hoperation
        obtain ⟨rfl, rfl⟩ := Prod.mk.inj (Option.some.inj hnext)
        obtain rfl := Option.some.inj hoperation
        rw [hops]
        refine ⟨hpay, keeps_save ?_, by simp⟩
        intro old hold
        rw [Table.find_save_self, Option.some.injEq] at hold
        simp [hold]
      · exact holds_keeps hkeeps (hinv.held c)
    · rw [hsent]
      exact fun m hm => reserved_keeps hkeeps (hinv.reserved m hm)
    · rw [hsent]
      exact hinv.once
    · intro c pair hc
      rw [hsent]
      rcases hpair c pair hc with ⟨-, rfl⟩ | ⟨-, hc, -⟩
      · exact ⟨hres, hnotsent⟩
      · obtain ⟨hold, hnot⟩ := hinv.ready c pair hc
        exact ⟨reserved_keeps hkeeps hold, hnot⟩
    · intro c c' pair hc hc'
      rcases hpair c pair hc with ⟨rfl, rfl⟩ | ⟨-, hc, hne⟩ <;> rcases hpair c' _ hc' with ⟨rfl, heq⟩ | ⟨-, hc', hne'⟩
      · rfl
      · exact absurd rfl hne'
      · exact absurd heq hne
      · exact hinv.owner c c' pair hc hc'
  | sent call job element operation rest hcall hops hsent hcalls =>
    have hready := hinv.ready call (job.refundPaymentId, element.id) (by rw [hcall]; rfl)
    have hpair : ∀ c pair, sendingPair (w'.calls c) = some pair → c ≠ call ∧ sendingPair (w.calls c) = some pair := by
      intro c pair hc
      rw [hcalls, Function.update_apply] at hc
      split at hc <;> rename_i hne
      · simp [sendingPair] at hc
      · exact ⟨hne, hc⟩
    constructor
    · intro c
      rw [hcalls, Function.update_apply, hops]
      split
      · intro job' point' operation' hnext hoperation
        obtain ⟨rfl, rfl⟩ := Prod.mk.inj (Option.some.inj hnext)
        obtain rfl := Option.some.inj hoperation
        exact hinv.held call job _ _ hcall rfl
      · exact hinv.held c
    · rw [hsent, hops]
      exact List.forall_mem_cons.mpr ⟨hready.1, hinv.reserved⟩
    · rw [hsent, List.map_cons, List.nodup_cons]
      exact ⟨hready.2, hinv.once⟩
    · intro c pair hc
      obtain ⟨hne, hc⟩ := hpair c pair hc
      obtain ⟨hold, hnot⟩ := hinv.ready c pair hc
      rw [hops, hsent, List.map_cons, List.mem_cons, not_or]
      refine ⟨hold, ?_, hnot⟩
      rintro rfl
      exact hne (hinv.owner c call _ hc (by rw [hcall]; rfl))
    · exact fun c c' pair hc hc' => hinv.owner c c' pair (hpair c pair hc).2 (hpair c' pair hc').2

/-! ## Reservations that nobody is about to send -/

/-- The pair is reserved, and no call is about to send it. -/
def Settled (w : World) (pair : String × String) : Prop :=
  Reserved w.operations.operations pair ∧ ∀ c, sendingPair (w.calls c) ≠ some pair

theorem step_settled {w w' : World} {act : WorldAct} {pair : String × String} (hinv : Inv w) (hsettled : Settled w pair)
    (h : step w act = some w') :
    Settled w' pair ∧ (w'.sent.map Message.pair).count pair = (w.sent.map Message.pair).count pair := by
  obtain ⟨hres, hnone⟩ := hsettled
  cases step_change hinv.held h with
  | quiet hkeeps hsent hcalls _ =>
    refine ⟨⟨reserved_keeps hkeeps hres, ?_⟩, by rw [hsent]⟩
    intro c
    rcases hcalls c with heq | heq
    · rw [heq]
      exact hnone c
    · simp [heq]
  | reserved call job element operation rest hfresh hnew hops _ _ hsent hcalls =>
    refine ⟨⟨?_, ?_⟩, by rw [hsent]⟩
    · obtain ⟨row, hrow, hpair⟩ := hres
      rw [hops]
      refine ⟨row, Table.mem_save.mpr (Or.inr ⟨hrow, ?_⟩), hpair⟩
      exact Table.find_eq_none_iff.mp hnew row hrow
    · intro c
      rw [hcalls, Function.update_apply]
      split
      · rintro heq
        exact hfresh (Option.some.inj heq ▸ hres)
      · exact hnone c
  | sent call job element operation rest hcall hops hsent hcalls =>
    have hne : (messageOf job element operation).pair ≠ pair := by
      rintro rfl
      exact hnone call (by rw [hcall]; rfl)
    refine ⟨⟨by rwa [hops], ?_⟩, ?_⟩
    · intro c
      rw [hcalls, Function.update_apply]
      split
      · simp [sendingPair]
      · exact hnone c
    · rw [hsent, List.map_cons, List.count_cons_of_ne hne]

theorem run_settled {w w' : World} {acts : List WorldAct} {pair : String × String} (hinv : Inv w) (hsettled : Settled w pair)
    (hrun : run step w acts = some w') :
    (w'.sent.map Message.pair).count pair = (w.sent.map Message.pair).count pair := by
  have hstep : ∀ v act v', (Inv v ∧ Settled v pair ∧
        (v.sent.map Message.pair).count pair = (w.sent.map Message.pair).count pair) → step v act = some v' →
      Inv v' ∧ Settled v' pair ∧ (v'.sent.map Message.pair).count pair = (w.sent.map Message.pair).count pair := by
    rintro v act v' ⟨hv, hsettled, hcount⟩ h
    obtain ⟨hsettled', hcount'⟩ := step_settled hv hsettled h
    exact ⟨step_inv hv h, hsettled', hcount'.trans hcount⟩
  exact (run_invariant hstep ⟨hinv, hsettled, rfl⟩ hrun).2.2

/-! ## The result -/

/-- How often the refund of a capture was initialised at its channel. -/
def initialisations (w : World) (refundPaymentId originalOperationId : String) : ℕ :=
  (w.sent.map Message.pair).count (refundPaymentId, originalOperationId)

/-- A reservation is stored without the channel's id, and no running call is about to send it: it was
sent and not recorded, or its call ended before. -/
def OutcomeUnknown (w : World) (refundPaymentId originalOperationId : String) : Prop :=
  (∃ row ∈ w.operations.operations.rows, row.paymentId = refundPaymentId ∧
    row.originalOperationId = some originalOperationId ∧ truthy row.operationId = false) ∧
  ∀ c, sendingPair (w.calls c) ≠ some (refundPaymentId, originalOperationId)

/-- **At most once.** Over any run, a refund is initialised at most once for a capture, and a
reservation whose outcome is unknown is not sent any more. -/
theorem refund_channel_initialised_once {w m t : World} {as bs : List WorldAct} (hcalls : ∀ c, w.calls c = none)
    (hsent : w.sent = []) (hm : run step w as = some m) (ht : run step m bs = some t)
    (refundPaymentId originalOperationId : String) :
    initialisations t refundPaymentId originalOperationId ≤ 1 ∧
    (OutcomeUnknown m refundPaymentId originalOperationId →
      initialisations t refundPaymentId originalOperationId = initialisations m refundPaymentId originalOperationId) := by
  have hinv : Inv m := run_invariant (fun _ _ _ => step_inv) (inv_init hcalls hsent) hm
  have hinv' : Inv t := run_invariant (fun _ _ _ => step_inv) hinv ht
  refine ⟨List.nodup_iff_count_le_one.mp hinv'.once _, ?_⟩
  rintro ⟨⟨row, hrow, hpay, horig, -⟩, hnone⟩
  exact run_settled hinv ⟨⟨row, hrow, hpay, horig⟩, hnone⟩ ht

section Sample

/-- A completed purchase with one capture, and its refund with two approvals in their channel part: the
lease of the first has run out. -/
def sampleWorld : World where
  refund := {
    db := {
      payments := Table.empty.save
        { id := "refund", type := .refund, totalAmount := 10000, taxAmount := 0, currency := "TRY", items := Table.empty,
          customerAccountId := none, paymentStatus := .waiting, refundRequestId := some "request" }
      refundRequests := Table.empty }
    now := 0
    calls := fun _ => .approving ⟨sampleRequest, sampleRequest, "token", "actor", none⟩ .channels
    tokens := []
    counted := [] }
  operations := ⟨Table.empty.save
    { id := "capture", paymentChannelId := "bank", operationId := some "b1", amount := 20000, currency := "TRY",
      status := .completed, paymentId := "purchase" }, []⟩
  calls := fun _ => none
  sent := []
where
  sampleRequest : RefundRequest :=
    { id := "request", paymentId := "purchase", status := .pending, items := [], requestedByAccountId := "",
      requestedByPaymentAccountId := none, requestedToPaymentAccountId := none, currency := "TRY", reasonKeys := [],
      requestNote := none }

def sampleEnter (call : ℕ) : WorldAct :=
  .enter call
    { id := "refund", type := .refund, totalAmount := 10000, taxAmount := 0, currency := "TRY", items := Table.empty,
      customerAccountId := none, paymentStatus := .waiting, refundRequestId := some "request" }
    { id := "purchase", type := .purchase, totalAmount := 20000, taxAmount := 0, currency := "TRY", items := Table.empty,
      customerAccountId := none, paymentStatus := .completed } []

/-- The first call sends and dies. -/
def sampleFirst : List WorldAct :=
  [sampleEnter 0, .advance 0 {}, .advance 0 {}, .advance 0 { operationId := "r1" }, .advance 0 {}, .refund (.crash 0)]

/-- The second call finds the reservation. -/
def sampleSecond : List WorldAct := [sampleEnter 1, .advance 1 {}, .advance 1 {}, .advance 1 { operationId := "r2" }]

/-- A refund whose first approval died after the message left is not sent by the second one. -/
theorem refund_channel_initialised_once_sample :
    ∃ m t, run step sampleWorld sampleFirst = some m ∧ run step m sampleSecond = some t ∧
      initialisations m "refund" "capture" = 1 ∧ OutcomeUnknown m "refund" "capture" ∧
      initialisations t "refund" "capture" = 1 := by
  obtain ⟨m, t, hm, ht, hcount, hunknown⟩ : ∃ m t, run step sampleWorld sampleFirst = some m ∧
      run step m sampleSecond = some t ∧ initialisations m "refund" "capture" = 1 ∧
      OutcomeUnknown m "refund" "capture" := by
    refine ⟨_, _, rfl, rfl, rfl, by decide +kernel, ?_⟩
    intro c
    by_cases hc : c = 0 <;> simp [hc, World.setCall, sampleWorld, sendingPair]
  have honce := refund_channel_initialised_once (fun _ => rfl) rfl hm ht "refund" "capture"
  exact ⟨m, t, hm, ht, hcount, hunknown, (honce.2 hunknown).trans hcount⟩

end Sample

end Postral.Refund.Channels
