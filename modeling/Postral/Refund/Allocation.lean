import Postral.Refund.Retry

/-! # Sharing a refund out over the captures (`refundCaptureAllocations`) -/

open Check Rounding

namespace Postral.Refund.Channels

/-- What is left of a capture: its amount without the refunds of it. -/
def remainingOf (previousRefunds : List PaymentChannelOperation) (operation : PaymentChannelOperation) : ℤ :=
  operation.amount - ((previousRefunds.filter fun r => r.originalOperationId = some operation.id).map (·.amount)).sum

section Bounds

variable {amount remaining available remainingAvailable : ℤ}

theorem available_eq_remaining (previousRefunds : List PaymentChannelOperation) :
    availableOf previousRefunds = remainingOf previousRefunds := by
  funext operation
  unfold availableOf remainingOf
  rw [addNumberValues_eq_sum, minusNumberValues_eq_sub_sum, List.sum_singleton]

/-- No share exceeds its capture: the remainder fits in the captures that are left. -/
theorem IsShare.le_available (h : IsShare amount remaining available remainingAvailable)
    (hfits : remaining ≤ remainingAvailable) (havailable : 0 ≤ available) (hle : available ≤ remainingAvailable) :
    amount ≤ available := by
  unfold IsShare at h
  split at h <;> rename_i hzero
  · omega
  · have hpos : 0 < remainingAvailable := by omega
    have hproduct : remaining * available ≤ remainingAvailable * available := mul_le_mul_of_nonneg_right hfits havailable
    by_contra hgt
    have hstep : (2 * 10 ^ 16 * (available + 1) - 1) * remainingAvailable ≤ (2 * 10 ^ 16 * amount - 1) * remainingAvailable :=
      mul_le_mul_of_nonneg_right (by omega) hpos.le
    have hlow := hstep.trans h.1
    nlinarith

/-- Every capture bears its share. The induction is on the captures: what remains fits in what is left of them. -/
theorem amounts_le_available {available : List ℤ} {remaining : ℤ} (hremaining : 0 ≤ remaining)
    (hfits : remaining ≤ available.sum) (hnonneg : ∀ a ∈ available, 0 ≤ a) :
    List.Forall₂ (· ≤ ·) (amounts remaining available.sum available) available := by
  induction available generalizing remaining with
  | nil => exact .nil
  | cons a available ih =>
    rw [List.sum_cons] at hfits ⊢
    have ha := hnonneg a List.mem_cons_self
    have hrest : ∀ b ∈ available, 0 ≤ b := fun b hb => hnonneg b (List.mem_cons_of_mem _ hb)
    have hsum := List.sum_nonneg hrest
    have hle : a ≤ a + available.sum := by omega
    have hshare := (shareOf_eq_iff hremaining ha hle).mp rfl
    obtain ⟨-, hhigh, hleft⟩ := hshare.bounds hremaining hfits ha hle
    rw [add_sub_cancel_left] at hleft
    unfold amounts
    rw [add_sub_cancel_left]
    exact .cons (hshare.le_available hfits ha hle) (ih (sub_nonneg.mpr hhigh) hleft hrest)

end Bounds

section Allocations

variable {operations previousRefunds : List PaymentChannelOperation} {total : ℤ} {allocations : List Allocation}

theorem refund_capture_allocations_eq_ok :
    refundCaptureAllocations operations previousRefunds total = .ok allocations ↔
      ((∀ o ∈ operations, 0 ≤ remainingOf previousRefunds o) ∧ total ≤ (operations.map (remainingOf previousRefunds)).sum) ∧
      (operations.zip (amounts total (operations.map (remainingOf previousRefunds)).sum
        (operations.map (remainingOf previousRefunds)))).filter (fun allocation => 0 < allocation.2) = allocations := by
  unfold refundCaptureAllocations
  simp only [bind_eq_ok, require_eq_ok, pure_eq_ok, addNumberValues_eq_sum, allocate_eq, available_eq_remaining,
    exists_const, List.forall_mem_map]

theorem refund_capture_allocations_eq_error :
    (∃ e, refundCaptureAllocations operations previousRefunds total = .error e) ↔
      (∃ o ∈ operations, remainingOf previousRefunds o < 0) ∨ (operations.map (remainingOf previousRefunds)).sum < total := by
  unfold refundCaptureAllocations
  simp only [bind_eq_error, require_eq_error, pure_ne_error, addNumberValues_eq_sum, available_eq_remaining,
    List.forall_mem_map]
  constructor
  · rintro ⟨e, (⟨hnot, -⟩ | ⟨_, -, hfalse⟩)⟩
    · by_contra hall
      push Not at hall
      exact hnot hall
    · cases hfalse
  · intro h
    refine ⟨_, .inl ⟨fun hall => ?_, rfl⟩⟩
    rcases h with ⟨o, ho, hneg⟩ | hover
    · exact absurd (hall.1 o ho) (not_le.mpr hneg)
    · exact absurd hall.2 (not_le.mpr hover)

theorem allocations_spec (htotal : 0 ≤ total)
    (h : refundCaptureAllocations operations previousRefunds total = .ok allocations) :
    (allocations.map (·.1)).Sublist operations ∧
      (∀ a ∈ allocations, 0 < a.2 ∧ a.2 ≤ remainingOf previousRefunds a.1) ∧ (allocations.map (·.2)).sum = total := by
  obtain ⟨⟨hnonneg, hfits⟩, rfl⟩ := refund_capture_allocations_eq_ok.mp h
  have hnonneg' : ∀ a ∈ operations.map (remainingOf previousRefunds), 0 ≤ a := List.forall_mem_map.mpr hnonneg
  obtain ⟨hall, hsum⟩ := amounts_spec htotal hfits hnonneg'
  have hbounds := amounts_le_available htotal hfits hnonneg'
  have hlength := hbounds.length_eq
  rw [List.length_map] at hlength
  refine ⟨?_, fun a ha => ?_, ?_⟩
  · have hsublist := (@List.filter_sublist _ (fun allocation : Allocation => 0 < allocation.2)
      (operations.zip (amounts total (operations.map (remainingOf previousRefunds)).sum
        (operations.map (remainingOf previousRefunds))))).map Prod.fst
    rwa [List.map_fst_zip hlength.ge] at hsublist
  · obtain ⟨hmem, hpos⟩ := List.mem_filter.mp ha
    refine ⟨of_decide_eq_true hpos, ?_⟩
    rw [List.forall₂_map_right_iff, List.forall₂_iff_zip] at hbounds
    have hswap : (a.2, a.1) ∈ (amounts total (operations.map (remainingOf previousRefunds)).sum
        (operations.map (remainingOf previousRefunds))).zip operations := by
      rw [← List.zip_swap]
      exact List.mem_map.mpr ⟨a, hmem, rfl⟩
    exact hbounds.2 hswap
  · rw [List.sum_map_filter_of_zero fun a ha hzero => ?_, List.map_snd_zip hlength.le, hsum]
    have hle := hall a.2 (List.of_mem_zip ha).2
    have hnot := of_decide_eq_false hzero
    omega

end Allocations

/-- **Refund allocation over captures.** What is rejected, and how the rest is shared out. -/
theorem refund_allocations_exact (operations previousRefunds : List PaymentChannelOperation) (total : ℤ)
    (htotal : 0 ≤ total) :
    ((∃ e, refundCaptureAllocations operations previousRefunds total = .error e) ↔
      (∃ o ∈ operations, remainingOf previousRefunds o < 0) ∨
        (operations.map (remainingOf previousRefunds)).sum < total) ∧
    (∀ allocations, refundCaptureAllocations operations previousRefunds total = .ok allocations →
      (allocations.map (·.1)).Sublist operations ∧
      (∀ a ∈ allocations, 0 < a.2 ∧ a.2 ≤ remainingOf previousRefunds a.1) ∧ (allocations.map (·.2)).sum = total) :=
  ⟨refund_capture_allocations_eq_error, fun _ h => allocations_spec htotal h⟩

/-- 50 over captures of 60 and 40, of which the second has a refund of 30. -/
theorem refund_allocations_exact_sample :
    let refund : PaymentChannelOperation :=
      { captureOf "refund" 300000 with operationType := .refund, originalOperationId := some "capture-2" }
    (refundCaptureAllocations splitCaptures [refund] 500000 =
        .ok [(captureOf "capture-1" 600000, 428571), (captureOf "capture-2" 400000, 71429)]) ∧
      (([(captureOf "capture-1" 600000, 428571), (captureOf "capture-2" 400000, 71429)] : List Allocation).map (·.2)).sum =
        500000 := by
  intro refund
  have hok : refundCaptureAllocations splitCaptures [refund] 500000 =
      .ok [(captureOf "capture-1" 600000, 428571), (captureOf "capture-2" 400000, 71429)] := by
    decide +kernel
  exact ⟨hok, ((refund_allocations_exact splitCaptures [refund] 500000 (by decide)).2 _ hok).2.2⟩

end Postral.Refund.Channels
