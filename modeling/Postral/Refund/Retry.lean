import Postral.Lib.Batch
import Postral.Refund.Channels

/-!
# The shares of a refund whose approval is retried

A retry shares the amount out again, by what the other refunds leave of the captures now.
-/

open Check Rounding Run

namespace Postral.Refund.Channels

/-! ## One share -/

section Share

variable {amount remaining available remainingAvailable : ℤ}

/-- `remaining * available / remainingAvailable`, rounded at the twentieth decimal, is `amount` and less than a
unit of the column. -/
def IsShare (amount remaining available remainingAvailable : ℤ) : Prop :=
  if remainingAvailable = 0 then amount = 0
  else (2 * 10 ^ 16 * amount - 1) * remainingAvailable ≤ 2 * 10 ^ 16 * (remaining * available) ∧
    2 * 10 ^ 16 * (remaining * available) < (2 * 10 ^ 16 * (amount + 1) - 1) * remainingAvailable

instance : Decidable (IsShare amount remaining available remainingAvailable) := by
  unfold IsShare
  infer_instance

theorem div_columns (hpos : 0 < remainingAvailable) :
    fromColumn remaining * fromColumn available / fromColumn remainingAvailable * 10 ^ 20 =
      (remaining * available : ℤ) * 10 ^ 16 / remainingAvailable := by
  have hne : (remainingAvailable : ℚ) ≠ 0 := by exact_mod_cast hpos.ne'
  unfold fromColumn
  push_cast
  field_simp
  ring

/-- The floor of a quotient with twenty decimals, in inequalities of integers. -/
theorem truncate_div_eq_iff (hremaining : 0 ≤ remaining) (havailable : 0 ≤ available) (hpos : 0 < remainingAvailable) :
    truncate (div (fromColumn remaining * fromColumn available) (fromColumn remainingAvailable) * 10000) = amount ↔
      (2 * 10 ^ 16 * amount - 1) * remainingAvailable ≤ 2 * 10 ^ 16 * (remaining * available) ∧
        2 * 10 ^ 16 * (remaining * available) < (2 * 10 ^ 16 * (amount + 1) - 1) * remainingAvailable := by
  have hR : (0 : ℚ) < remainingAvailable := by exact_mod_cast hpos
  have hproduct : (0 : ℚ) ≤ (remaining * available : ℤ) := by exact_mod_cast mul_nonneg hremaining havailable
  have hquotient : (0 : ℚ) ≤ (remaining * available : ℤ) * 10 ^ 16 / remainingAvailable := by positivity
  unfold div round
  rw [div_columns hpos]
  set x : ℚ := (remaining * available : ℤ) * 10 ^ 16 / remainingAvailable with hx
  have hvalue : (roundAway x : ℚ) / 10 ^ 20 * 10000 = roundAway x / 10 ^ 16 := by
    ring
  have hnonneg : (0 : ℚ) ≤ roundAway x / 10 ^ 16 := by
    have : (0 : ℚ) ≤ roundAway x := by exact_mod_cast roundAway_nonneg hquotient
    positivity
  rw [hvalue, truncate_of_nonneg hnonneg, Int.floor_eq_iff, le_div_iff₀ (by positivity), div_lt_iff₀ (by positivity)]
  have hlow : (amount : ℚ) * 10 ^ 16 ≤ roundAway x ↔ amount * 10 ^ 16 ≤ roundAway x := by
    exact_mod_cast Iff.rfl
  have hhigh : (roundAway x : ℚ) < (amount + 1) * 10 ^ 16 ↔ roundAway x ≤ (amount + 1) * 10 ^ 16 - 1 := by
    rw [Int.le_sub_one_iff]
    exact_mod_cast Iff.rfl
  rw [hlow, hhigh, le_roundAway_iff hquotient, roundAway_le_iff hquotient]
  have hxR : x * remainingAvailable = (remaining * available : ℤ) * 10 ^ 16 := by
    rw [hx, div_mul_cancel₀ _ hR.ne']
  refine and_congr ?_ ?_
  · rw [← mul_le_mul_iff_left₀ hR, hxR, ← @Int.cast_le ℚ]
    push_cast
    constructor <;> intro h <;> linarith
  · rw [← mul_lt_mul_iff_left₀ hR, hxR, ← @Int.cast_lt ℚ]
    push_cast
    constructor <;> intro h <;> linarith

theorem shareOf_eq_iff (hremaining : 0 ≤ remaining) (havailable : 0 ≤ available) (hle : available ≤ remainingAvailable) :
    shareOf remaining available remainingAvailable = amount ↔ IsShare amount remaining available remainingAvailable := by
  unfold shareOf IsShare
  by_cases hzero : remainingAvailable = 0
  · simp [hzero, eq_comm]
  · have hpos : 0 < remainingAvailable := by omega
    rw [if_neg hzero, if_neg hzero]
    split <;> rename_i hlast
    · -- the last capture with money takes what remains
      subst hlast
      rw [← mul_assoc, mul_le_mul_iff_left₀ hpos, mul_lt_mul_iff_left₀ hpos]
      omega
    · exact truncate_div_eq_iff hremaining havailable hpos

/-- A share leaves a remainder that the other captures can bear. -/
theorem IsShare.bounds (h : IsShare amount remaining available remainingAvailable) (hremaining : 0 ≤ remaining)
    (hfits : remaining ≤ remainingAvailable) (havailable : 0 ≤ available) (hle : available ≤ remainingAvailable) :
    0 ≤ amount ∧ amount ≤ remaining ∧ remaining - amount ≤ remainingAvailable - available := by
  unfold IsShare at h
  split at h <;> rename_i hzero
  · omega
  · have hpos : 0 < remainingAvailable := by omega
    obtain ⟨hlow, hhigh⟩ := h
    have hproduct : 0 ≤ remaining * available := mul_nonneg hremaining havailable
    have hproduct' : remaining * available ≤ remaining * remainingAvailable := mul_le_mul_of_nonneg_left hle hremaining
    refine ⟨?_, ?_, ?_⟩
    · by_contra hneg
      have : (2 * 10 ^ 16 * (amount + 1) - 1) * remainingAvailable ≤ 0 :=
        mul_nonpos_of_nonpos_of_nonneg (by omega) hpos.le
      omega
    · by_contra hgt
      have : (2 * 10 ^ 16 * remaining + 1) * remainingAvailable ≤ (2 * 10 ^ 16 * amount - 1) * remainingAvailable :=
        mul_le_mul_of_nonneg_right (by omega) hpos.le
      nlinarith
    · by_contra hgt
      have hstep : (2 * 10 ^ 16 * (amount + 1) - 1) * remainingAvailable ≤
          (2 * 10 ^ 16 * (remaining - remainingAvailable + available) - 1) * remainingAvailable :=
        mul_le_mul_of_nonneg_right (by omega) hpos.le
      have hslack : 0 ≤ (remainingAvailable - available) * (remainingAvailable - remaining) :=
        mul_nonneg (by omega) (by omega)
      nlinarith

end Share

/-! ## The shares of all captures -/

/-- Every pair is what is available of a capture, and its share of what remains. -/
def Shares (remaining remainingAvailable : ℤ) : List (ℤ × ℤ) → Prop
  | [] => True
  | (available, amount) :: rest =>
    IsShare amount remaining available remainingAvailable ∧ Shares (remaining - amount) (remainingAvailable - available) rest

instance decidableShares : ∀ remaining remainingAvailable rest, Decidable (Shares remaining remainingAvailable rest)
  | _, _, [] => .isTrue trivial
  | remaining, remainingAvailable, (available, amount) :: rest =>
    haveI := decidableShares (remaining - amount) (remainingAvailable - available) rest
    inferInstanceAs (Decidable (_ ∧ _))

/-- The amounts of `allocate`. -/
def amounts (remaining remainingAvailable : ℤ) : List ℤ → List ℤ
  | [] => []
  | available :: rest =>
    let amount := shareOf remaining available remainingAvailable
    amount :: amounts (remaining - amount) (remainingAvailable - available) rest

theorem allocate_eq (remaining remainingAvailable : ℤ) (operations : List PaymentChannelOperation) (available : List ℤ) :
    allocate remaining remainingAvailable (operations.zip available) =
      operations.zip (amounts remaining remainingAvailable available) := by
  induction operations generalizing remaining remainingAvailable available with
  | nil => rfl
  | cons operation operations ih =>
    cases available with
    | nil => rfl
    | cons a available => simp only [List.zip_cons_cons, allocate, amounts, ih]

theorem length_amounts (remaining remainingAvailable : ℤ) (available : List ℤ) :
    (amounts remaining remainingAvailable available).length = available.length := by
  induction available generalizing remaining remainingAvailable with
  | nil => rfl
  | cons a available ih => simp [amounts, ih]

/-- Nothing is lost: the shares add up to the total. -/
theorem amounts_spec {available : List ℤ} {remaining : ℤ} (hremaining : 0 ≤ remaining) (hfits : remaining ≤ available.sum)
    (hnonneg : ∀ a ∈ available, 0 ≤ a) :
    (∀ amount ∈ amounts remaining available.sum available, 0 ≤ amount) ∧
      (amounts remaining available.sum available).sum = remaining := by
  induction available generalizing remaining with
  | nil =>
    rw [List.sum_nil] at hfits
    exact ⟨by simp [amounts], by simp [amounts]; omega⟩
  | cons a available ih =>
    rw [List.sum_cons] at hfits ⊢
    have ha := hnonneg a List.mem_cons_self
    have hrest : ∀ b ∈ available, 0 ≤ b := fun b hb => hnonneg b (List.mem_cons_of_mem _ hb)
    have hsum := List.sum_nonneg hrest
    have hshare := (shareOf_eq_iff hremaining ha (by omega : a ≤ a + available.sum)).mp rfl
    obtain ⟨hlow, hhigh, hleft⟩ := hshare.bounds hremaining hfits ha (by omega)
    rw [add_sub_cancel_left] at hleft
    obtain ⟨hall, htotal⟩ := ih (sub_nonneg.mpr hhigh) hleft hrest
    simp only [amounts, add_sub_cancel_left, List.mem_cons, List.sum_cons, htotal]
    refine ⟨?_, by omega⟩
    rintro amount (rfl | hmem)
    · exact hlow
    · exact hall amount hmem

/-- The first `k` amounts are the given ones exactly when each is the share of what those before it leave. -/
theorem amounts_take_iff {available given : List ℤ} {remaining : ℤ} (hlength : given.length = available.length)
    (hremaining : 0 ≤ remaining) (hfits : remaining ≤ available.sum) (hnonneg : ∀ a ∈ available, 0 ≤ a) (k : ℕ) :
    (amounts remaining available.sum available).take k = given.take k ↔
      Shares remaining available.sum ((available.zip given).take k) := by
  induction available generalizing remaining given k with
  | nil =>
    obtain rfl : given = [] := List.length_eq_zero_iff.mp hlength
    simp [amounts, Shares]
  | cons a available ih =>
    cases given with
    | nil => simp at hlength
    | cons amount given =>
      cases k with
      | zero => simp [Shares]
      | succ k =>
        rw [List.sum_cons] at hfits ⊢
        have ha := hnonneg a List.mem_cons_self
        have hrest : ∀ b ∈ available, 0 ≤ b := fun b hb => hnonneg b (List.mem_cons_of_mem _ hb)
        have hsum := List.sum_nonneg hrest
        have hle : a ≤ a + available.sum := by omega
        simp only [amounts, List.take_succ_cons, List.cons.injEq, List.zip_cons_cons, Shares, shareOf_eq_iff hremaining ha hle]
        apply and_congr_right
        intro hshare
        obtain ⟨hlow, hhigh, hleft⟩ := hshare.bounds hremaining hfits ha hle
        rw [(shareOf_eq_iff hremaining ha hle).mpr hshare]
        rw [add_sub_cancel_left] at hleft ⊢
        exact ih (Nat.succ.inj hlength) (sub_nonneg.mpr hhigh) hleft hrest k

/-! ## What an attempt takes from a capture -/

/-- Zero when the attempt takes nothing from the capture. -/
def amountOf (allocations : List Allocation) (originalOperationId : String) : ℤ :=
  ((allocations.find? fun allocation => allocation.1.id = originalOperationId).map (·.2)).getD 0

theorem amountOf_of_forall_ne {allocations : List Allocation} {id : String} (h : ∀ a ∈ allocations, a.1.id ≠ id) :
    amountOf allocations id = 0 := by
  have hnone : allocations.find? (fun allocation => allocation.1.id = id) = none :=
    List.find?_eq_none.mpr fun a ha => by simpa using h a ha
  rw [amountOf, hnone]
  rfl

theorem amountOf_cons (allocation : Allocation) (allocations : List Allocation) (id : String) :
    amountOf (allocation :: allocations) id = if allocation.1.id = id then allocation.2 else amountOf allocations id := by
  unfold amountOf
  rw [List.find?_cons]
  split <;> simp_all

/-- Leaving the zeros out changes no amount. -/
theorem amountOf_filter {captures : List PaymentChannelOperation} {given : List ℤ} (hnodup : (captures.map (·.id)).Nodup)
    (hlength : given.length = captures.length) (hnonneg : ∀ amount ∈ given, 0 ≤ amount) :
    captures.map (fun c => amountOf ((captures.zip given).filter fun allocation => 0 < allocation.2) c.id) = given := by
  induction captures generalizing given with
  | nil => simpa using List.length_eq_zero_iff.mp hlength
  | cons c captures ih =>
    cases given with
    | nil => simp at hlength
    | cons amount given =>
      rw [List.map_cons, List.nodup_cons] at hnodup
      obtain ⟨hnew, hnodup⟩ := hnodup
      have htail := ih hnodup (Nat.succ.inj hlength) fun a ha => hnonneg a (List.mem_cons_of_mem _ ha)
      have hne : ∀ d ∈ captures, ¬ c.id = d.id := by
        intro d hd heq
        exact hnew (List.mem_map.mpr ⟨d, hd, heq.symm⟩)
      rw [List.zip_cons_cons, List.filter_cons]
      split <;> rename_i hpos
      · rw [List.map_cons, amountOf_cons, if_pos rfl]
        congr 1
        rw [← htail]
        apply List.map_congr_left
        intro d hd
        rw [amountOf_cons, if_neg (hne d hd), htail]
      · have hzero : amount = 0 := by
          have := hnonneg amount List.mem_cons_self
          simp only [decide_eq_true_eq] at hpos
          omega
        rw [List.map_cons, htail, hzero, amountOf_of_forall_ne]
        intro a ha
        have hmem := (List.of_mem_zip (List.mem_filter.mp ha).1).1
        exact fun heq => hne a.1 hmem heq.symm

/-! ## The plan of an attempt -/

section Attempt

variable {operations : Table PaymentChannelOperation.id} {job : Job} {captures : List PaymentChannelOperation}
  {allocations earlier : List Allocation}

/-- The refunds of other payments. -/
def previousRefunds (operations : Table PaymentChannelOperation.id) (job : Job) (captures : List PaymentChannelOperation) :
    List PaymentChannelOperation :=
  operations.rows.filter fun r =>
    (∃ c ∈ captures, r.originalOperationId = some c.id) ∧ r.paymentId ≠ job.refundPaymentId ∧ r.operationType = .refund

def availables (operations : Table PaymentChannelOperation.id) (job : Job) (captures : List PaymentChannelOperation) : List ℤ :=
  captures.map (availableOf (previousRefunds operations job captures))

theorem plan_allocations_spec :
    planAllocations operations job captures = .ok allocations ↔
      (∀ a ∈ availables operations job captures, 0 ≤ a) ∧ job.totalAmount ≤ (availables operations job captures).sum ∧
      (captures.zip (amounts job.totalAmount (availables operations job captures).sum
        (availables operations job captures))).filter (fun allocation => 0 < allocation.2) = allocations ∧
      (job.plans.map (·.originalOperationId)).Nodup ∧ ∀ plan ∈ job.plans, planMatches allocations plan := by
  unfold planAllocations refundCaptureAllocations validateRefundPlanAllocations
  simp only [bind_eq_ok, require_eq_ok, pure_eq_ok, addNumberValues_eq_sum, allocate_eq]
  constructor
  · rintro ⟨_, ⟨-, ⟨hnonneg, hfits⟩, rfl⟩, -, hplans, rfl⟩
    exact ⟨hnonneg, hfits, rfl, hplans⟩
  · rintro ⟨hnonneg, hfits, rfl, hplans⟩
    exact ⟨_, ⟨(), ⟨hnonneg, hfits⟩, rfl⟩, (), hplans, rfl⟩

/-- What an attempt takes: the shares, which add up to the total. -/
theorem attempt_spec (hnodup : (captures.map (·.id)).Nodup) (htotal : 0 ≤ job.totalAmount)
    (h : planAllocations operations job captures = .ok allocations) :
    captures.map (fun c => amountOf allocations c.id) =
        amounts job.totalAmount (availables operations job captures).sum (availables operations job captures) ∧
      (∀ a ∈ allocations, a.1 ∈ captures ∧ 0 < a.2) ∧ (allocations.map (·.2)).sum = job.totalAmount := by
  obtain ⟨hnonneg, hfits, rfl, -⟩ := plan_allocations_spec.mp h
  obtain ⟨hall, hsum⟩ := amounts_spec htotal hfits hnonneg
  have hlength := length_amounts job.totalAmount (availables operations job captures).sum (availables operations job captures)
  rw [availables, List.length_map, ← availables] at hlength
  refine ⟨amountOf_filter hnodup hlength hall, fun a ha => ?_, ?_⟩
  · obtain ⟨hmem, hpos⟩ := List.mem_filter.mp ha
    exact ⟨(List.of_mem_zip hmem).1, of_decide_eq_true hpos⟩
  · rw [List.sum_map_filter_of_zero fun a ha hzero => ?_, List.map_snd_zip hlength.le, hsum]
    have hle := hall a.2 (List.of_mem_zip ha).2
    have hnot := of_decide_eq_false hzero
    omega

theorem amountOf_of_mem (hnodup : (allocations.map (·.1.id)).Nodup) {a : Allocation} (ha : a ∈ allocations) :
    amountOf allocations a.1.id = a.2 := by
  induction allocations with
  | nil => simp at ha
  | cons b allocations ih =>
    rw [List.map_cons, List.nodup_cons] at hnodup
    rw [amountOf_cons]
    rcases List.mem_cons.mp ha with rfl | ha
    · exact if_pos rfl
    · have hne : b.1.id ≠ a.1.id := by
        intro heq
        exact hnodup.1 (List.mem_map.mpr ⟨a, ha, heq.symm⟩)
      rw [if_neg hne, ih hnodup.2 ha]

theorem nodup_allocations (hnodup : (captures.map (·.id)).Nodup)
    (h : planAllocations operations job captures = .ok allocations) : (allocations.map (·.1.id)).Nodup := by
  obtain ⟨-, -, rfl, -⟩ := plan_allocations_spec.mp h
  apply (List.filter_sublist.map _).nodup
  have hfst : (captures.zip (amounts job.totalAmount (availables operations job captures).sum
      (availables operations job captures))).map Prod.fst = captures :=
    List.map_fst_zip (by rw [length_amounts, availables, List.length_map])
  have hids := congrArg (List.map (·.id)) hfst
  rw [List.map_map] at hids
  exact hids ▸ hnodup

theorem eq_of_id (hnodup : (captures.map (·.id)).Nodup) {c d : PaymentChannelOperation} (hc : c ∈ captures)
    (hd : d ∈ captures) (h : c.id = d.id) : c = d :=
  List.inj_on_of_nodup_map hnodup hc hd h

/-- A plan that fits one attempt fits another one that takes as much from its capture. -/
theorem plan_matches_of_same (hnodup : (captures.map (·.id)).Nodup) (hcaptures : ∀ a ∈ allocations, a.1 ∈ captures)
    (hearlier : ∀ a ∈ earlier, a.1 ∈ captures ∧ 0 < a.2) (hids : (earlier.map (·.1.id)).Nodup) {plan : RefundChannelPlan}
    (hsame : amountOf allocations plan.originalOperationId = amountOf earlier plan.originalOperationId)
    (h : planMatches earlier plan) : planMatches allocations plan := by
  obtain ⟨a, hfind, hoperation, hamount⟩ := h
  have hmem := List.mem_of_find?_eq_some hfind
  have hid : a.1.id = plan.originalOperationId := by simpa using List.find?_some hfind
  obtain ⟨hcapture, hpos⟩ := hearlier a hmem
  rw [← hid, amountOf_of_mem hids hmem] at hsame
  cases hfind' : allocations.find? (fun allocation => allocation.1.id = a.1.id) with
  | none =>
    rw [amountOf, hfind'] at hsame
    exact absurd hsame hpos.ne
  | some b =>
    rw [amountOf, hfind', Option.map_some, Option.getD_some] at hsame
    have hid' : b.1.id = a.1.id := by simpa using List.find?_some hfind'
    have heq := eq_of_id hnodup (hcaptures b (List.mem_of_find?_eq_some hfind')) hcapture hid'
    refine ⟨b, hid ▸ hfind', heq ▸ hoperation, hamount.trans hsame.symm⟩

end Attempt

/-! ## The retry -/

/-- The retry plans, takes from the first `k` captures what the earlier attempt took, meets no operation of
another amount, and refunds the total. -/
def Recomputes (operations : Table PaymentChannelOperation.id) (job : Job) (captures : List PaymentChannelOperation)
    (earlier : List Allocation) (k : ℕ) : Prop :=
  ∃ allocations ∈ (planAllocations operations job captures).toOption,
    (∀ c ∈ captures.take k, amountOf allocations c.id = amountOf earlier c.id) ∧
    (∀ a ∈ allocations, ∀ r ∈ findReservation operations job.refundPaymentId a.1.id, r.amount = a.2) ∧
    (allocations.map (·.2)).sum = job.totalAmount

instance (operations : Table PaymentChannelOperation.id) (job : Job) (captures : List PaymentChannelOperation)
    (earlier : List Allocation) (k : ℕ) : Decidable (Recomputes operations job captures earlier k) := by
  unfold Recomputes
  infer_instance

/-- The other refunds leave enough, and each of the first `k` amounts of the earlier attempt is the share of its
capture in what they leave now. -/
def SharesHold (operations : Table PaymentChannelOperation.id) (job : Job) (captures : List PaymentChannelOperation)
    (earlier : List Allocation) (k : ℕ) : Prop :=
  (∀ a ∈ availables operations job captures, 0 ≤ a) ∧ job.totalAmount ≤ (availables operations job captures).sum ∧
    Shares job.totalAmount (availables operations job captures).sum
      (((availables operations job captures).zip (captures.map fun c => amountOf earlier c.id)).take k)

instance (operations : Table PaymentChannelOperation.id) (job : Job) (captures : List PaymentChannelOperation)
    (earlier : List Allocation) (k : ℕ) : Decidable (SharesHold operations job captures earlier k) := by
  unfold SharesHold
  infer_instance

theorem nodup_captures {operations : Table PaymentChannelOperation.id} {job : Job} {captures : List PaymentChannelOperation}
    (h : readCaptures operations job = .ok captures) : (captures.map (·.id)).Nodup := by
  unfold readCaptures at h
  simp only [bind_eq_ok, pure_eq_ok] at h
  obtain ⟨-, -, rfl⟩ := h
  apply ((List.perm_insertionSort _ _).map _).nodup_iff.mpr
  exact (List.filter_sublist.map _).nodup operations.nodup

/-- **Retry.** The earlier attempt stored the amounts of the first `k` captures, as operations or in the plan.
Whatever other refunds did in between, the retry takes the same amounts exactly when they are still the shares. -/
theorem allocations_stable_on_retry (first retry : Table PaymentChannelOperation.id) (job : Job)
    (captures : List PaymentChannelOperation) (earlier : List Allocation) (k : ℕ) (htotal : 0 ≤ job.totalAmount)
    (hcaptures : readCaptures retry job = .ok captures) (hfirst : planAllocations first job captures = .ok earlier)
    (hplans : ∀ plan ∈ job.plans, ∃ c ∈ captures.take k, c.id = plan.originalOperationId)
    (hstored : ∀ c ∈ captures, ∀ r ∈ findReservation retry job.refundPaymentId c.id,
      c ∈ captures.take k ∧ r.amount = amountOf earlier c.id) :
    Recomputes retry job captures earlier k ↔ SharesHold retry job captures earlier k := by
  have hnodup := nodup_captures hcaptures
  have htake : ∀ allocations, (captures.map fun c => amountOf allocations c.id).take k =
      (captures.map fun c => amountOf earlier c.id).take k ↔
        ∀ c ∈ captures.take k, amountOf allocations c.id = amountOf earlier c.id := by
    intro allocations
    rw [← List.map_take, ← List.map_take, List.map_inj_left]
  have hlength : (captures.map fun c => amountOf earlier c.id).length = (availables retry job captures).length := by
    simp [availables]
  constructor
  · rintro ⟨allocations, hplan, hsame, -, -⟩
    have hplan := toOption_eq_some.mp hplan
    obtain ⟨hnonneg, hfits, -⟩ := plan_allocations_spec.mp hplan
    obtain ⟨hamounts, -⟩ := attempt_spec hnodup htotal hplan
    refine ⟨hnonneg, hfits, (amounts_take_iff hlength htotal hfits hnonneg k).mp ?_⟩
    rw [← hamounts]
    exact (htake allocations).mpr hsame
  · rintro ⟨hnonneg, hfits, hshares⟩
    have hgiven := (amounts_take_iff hlength htotal hfits hnonneg k).mpr hshares
    obtain ⟨hall, -⟩ := amounts_spec htotal hfits hnonneg
    set allocations := (captures.zip (amounts job.totalAmount (availables retry job captures).sum
      (availables retry job captures))).filter (fun allocation => 0 < allocation.2) with hdef
    have hsame : ∀ c ∈ captures.take k, amountOf allocations c.id = amountOf earlier c.id := by
      apply (htake allocations).mp
      rw [amountOf_filter hnodup (by rw [length_amounts, availables, List.length_map]) hall]
      exact hgiven
    obtain ⟨-, -, -, hunique, hmatches⟩ := plan_allocations_spec.mp hfirst
    obtain ⟨-, hearlier, -⟩ := attempt_spec hnodup htotal hfirst
    have hmem : ∀ a ∈ allocations, a.1 ∈ captures := fun a ha => (List.of_mem_zip (List.mem_filter.mp ha).1).1
    have hplan : planAllocations retry job captures = .ok allocations := by
      refine plan_allocations_spec.mpr ⟨hnonneg, hfits, hdef.symm, hunique, fun plan hp => ?_⟩
      obtain ⟨c, hc, hid⟩ := hplans plan hp
      exact plan_matches_of_same hnodup hmem hearlier (nodup_allocations hnodup hfirst) (hid ▸ hsame c hc) (hmatches plan hp)
    refine ⟨allocations, toOption_eq_some.mpr hplan, hsame, fun a ha r hr => ?_, (attempt_spec hnodup htotal hplan).2.2⟩
    obtain ⟨hreached, hamount⟩ := hstored a.1 (hmem a ha) r hr
    rw [hamount, ← hsame a.1 hreached, amountOf_of_mem (nodup_allocations hnodup hplan) ha]

/-! ## Another refund between the attempts -/

def splitPurchase : Payment :=
  { id := "purchase", type := .purchase, totalAmount := 1000000, taxAmount := 0, currency := "TRY", items := Table.empty,
    customerAccountId := none, paymentStatus := .completed }

def halfRefund (id requestId : String) : Payment :=
  { id := id, type := .refund, totalAmount := 500000, taxAmount := 0, currency := "TRY", items := Table.empty,
    customerAccountId := none, paymentStatus := .waiting, refundRequestId := some requestId }

def captureOf (id : String) (amount : ℤ) : PaymentChannelOperation :=
  { id := id, paymentChannelId := "bank", operationId := some id, amount := amount, currency := "TRY", status := .completed,
    paymentId := "purchase" }

def halfJob (refundPaymentId : String) : Job := ⟨refundPaymentId, "TRY", 500000, "purchase", []⟩

/-- Captures of 60 and 40, and two refunds of 50 in the channel part of their approvals. -/
def splitWorld : World where
  refund := {
    db := {
      payments := Table.empty.saveAll [halfRefund "refund-a" "request-a", halfRefund "refund-b" "request-b"]
      refundRequests := Table.empty }
    now := 0
    calls := fun c => .approving ⟨requestOf c, requestOf c, "token", "actor", none⟩ .channels
    tokens := []
    counted := [] }
  operations := ⟨Table.empty.saveAll [captureOf "capture-1" 600000, captureOf "capture-2" 400000], []⟩
  calls := fun _ => none
  sent := []
where
  requestOf (call : ℕ) : RefundRequest :=
    { id := if call = 1 then "request-b" else "request-a", paymentId := "purchase", status := .pending, items := [],
      requestedByAccountId := "", requestedByPaymentAccountId := none, requestedToPaymentAccountId := none, currency := "TRY",
      reasonKeys := [], requestNote := none }

/-- A call reads, plans, reserves an operation and records the answer. -/
def oneOperation (call : ℕ) (id : String) : List WorldAct :=
  let answer : ChannelEnv := { operationId := id, answer := ⟨some "bank", some id, some .waiting, none, none, none⟩ }
  List.replicate 4 (.advance call answer)

/-- The first refund stops after the operation of the first capture. -/
def firstAttempt : List WorldAct :=
  [.enter 0 (halfRefund "refund-a" "request-a") splitPurchase [], .advance 0 {}, .advance 0 {}] ++ oneOperation 0 "a1" ++ [.fail 0]

/-- The second refund takes its whole amount. -/
def otherRefund : List WorldAct :=
  [.enter 1 (halfRefund "refund-b" "request-b") splitPurchase [], .advance 1 {}, .advance 1 {}] ++ oneOperation 1 "b1" ++
    oneOperation 1 "b2" ++ [.advance 1 {}]

def secondAttempt : List WorldAct := [.enter 2 (halfRefund "refund-a" "request-a") splitPurchase [], .advance 2 {}]

def splitCaptures : List PaymentChannelOperation := [captureOf "capture-1" 600000, captureOf "capture-2" 400000]

/-- The retry of the first refund is about to plan. -/
def Retrying (w : World) : Prop := w.calls 2 = some (halfJob "refund-a", .readingRefunds splitCaptures)

instance (w : World) : Decidable (Retrying w) := by
  unfold Retrying
  infer_instance

/-- The first attempt stored 30 for the first capture, the retry computes 38.5715. -/
theorem allocations_unstable :
    planAllocations splitWorld.operations.operations (halfJob "refund-a") splitCaptures =
      .ok [(captureOf "capture-1" 600000, 300000), (captureOf "capture-2" 400000, 200000)] ∧
    ∃ w, run step splitWorld (firstAttempt ++ otherRefund ++ secondAttempt) = some w ∧ Retrying w ∧
      ((findReservation w.operations.operations "refund-a" "capture-1").map (·.amount)) = some 300000 ∧
      ¬ Recomputes w.operations.operations (halfJob "refund-a") splitCaptures
        [(captureOf "capture-1" 600000, 300000), (captureOf "capture-2" 400000, 200000)] 1 := by
  have hrun : ∃ w ∈ run step splitWorld (firstAttempt ++ otherRefund ++ secondAttempt), Retrying w ∧
      ((findReservation w.operations.operations "refund-a" "capture-1").map (·.amount)) = some 300000 ∧
      ¬ Recomputes w.operations.operations (halfJob "refund-a") splitCaptures
        [(captureOf "capture-1" 600000, 300000), (captureOf "capture-2" 400000, 200000)] 1 := by
    decide +kernel
  obtain ⟨w, hw, hretry⟩ := hrun
  exact ⟨by decide +kernel, w, hw, hretry⟩

/-- A refund of the smallest amount, which takes it from the second capture. -/
def smallRefund : List WorldAct :=
  [.enter 1 { halfRefund "refund-b" "request-b" with totalAmount := 1 } splitPurchase [], .advance 1 {}, .advance 1 {}] ++
    oneOperation 1 "b2" ++ [.advance 1 {}]

theorem allocations_stable_on_retry_sample :
    ∃ w, run step splitWorld (firstAttempt ++ smallRefund ++ secondAttempt) = some w ∧ Retrying w ∧
      Recomputes w.operations.operations (halfJob "refund-a") splitCaptures
        [(captureOf "capture-1" 600000, 300000), (captureOf "capture-2" 400000, 200000)] 1 := by
  have hrun : ∃ w ∈ run step splitWorld (firstAttempt ++ smallRefund ++ secondAttempt), Retrying w ∧
      readCaptures w.operations.operations (halfJob "refund-a") = .ok splitCaptures ∧
      (∀ c ∈ splitCaptures, ∀ r ∈ findReservation w.operations.operations "refund-a" c.id, c ∈ splitCaptures.take 1 ∧
        r.amount = amountOf [(captureOf "capture-1" 600000, 300000), (captureOf "capture-2" 400000, 200000)] c.id) ∧
      SharesHold w.operations.operations (halfJob "refund-a") splitCaptures
        [(captureOf "capture-1" 600000, 300000), (captureOf "capture-2" 400000, 200000)] 1 := by
    decide +kernel
  obtain ⟨w, hw, hretry, hcaptures, hstored, hshares⟩ := hrun
  refine ⟨w, hw, hretry, ?_⟩
  exact (allocations_stable_on_retry splitWorld.operations.operations w.operations.operations (halfJob "refund-a") splitCaptures
    _ 1 (by decide) hcaptures (by decide +kernel) (by decide) hstored).mpr hshares

end Postral.Refund.Channels
