import Postral.Iyzico.Agreement

/-!
# What the provider is asked for

A nominal amount has four decimals, the amount for the provider has two. `FLOOR` rounds up.
-/

open Check Rounding

namespace Postral.Iyzico

def IsCents (v : ℚ) : Prop := ∃ n : ℤ, v = n / 100

/-- The mode's amount for the provider. -/
def RoundsTo : RefundRoundingMode → ℚ → ℚ → Prop
  | .floor, nominal, provider => IsLeast {c | IsCents c ∧ nominal ≤ c} provider
  | .useFirstTwo, nominal, provider => IsGreatest {c | IsCents c ∧ c ≤ nominal} provider
  | .round, nominal, provider => IsCents provider ∧ provider - 1 / 200 ≤ nominal ∧ nominal < provider + 1 / 200
  | .throw, nominal, provider => IsCents nominal ∧ provider = nominal

/-- A positive amount with four decimals that the mode does not turn into zero, in whole cents under `THROW`. -/
def Refundable (mode : RefundRoundingMode) (nominal : ℚ) : Prop :=
  0 < nominal ∧ (∃ n : ℤ, nominal = n / 10000) ∧ (mode = .useFirstTwo → 1 / 100 ≤ nominal) ∧
    (mode = .round → 1 / 200 ≤ nominal) ∧ (mode = .throw → IsCents nominal)

/-- A line that the mode accepts: its nominal amount and the one for the provider. -/
def AcceptedLine (mode : RefundRoundingMode) (line : ℚ × ℚ) : Prop :=
  ∃ amount provider, RefundAmount.nominal amount = some line.1 ∧ refundProviderAmount amount mode = .ok provider ∧
    provider.value = line.2

section Modes

variable {mode : RefundRoundingMode} {nominal provider : ℚ}

theorem eq_round_iff (v : ℚ) (dp : ℕ) : v = round v dp ↔ ∃ n : ℤ, v = n / 10 ^ dp := by
  have hpos : (10 : ℚ) ^ dp ≠ 0 := by positivity
  unfold round
  constructor
  · intro h
    exact ⟨roundAway (v * 10 ^ dp), h⟩
  · rintro ⟨n, rfl⟩
    rw [div_mul_cancel₀ _ hpos, roundAway_intCast]

theorem is_cents_iff (v : ℚ) : IsCents v ↔ v = round v 2 := by
  rw [eq_round_iff]
  norm_num [IsCents]

/-- In cents, which of them the mode rounds to. -/
theorem rounded_cents_of_pos (hpos : 0 < nominal) :
    roundedCents mode nominal =
      match mode with
      | .round => ⌊nominal * 100 + 1 / 2⌋
      | .floor => ⌈nominal * 100⌉
      | .useFirstTwo | .throw => ⌊nominal * 100⌋ := by
  have hnonneg : 0 ≤ nominal * 100 := by positivity
  unfold roundedCents
  cases mode with
  | round => exact roundAway_of_nonneg hnonneg
  | floor => exact if_pos hnonneg
  | useFirstTwo => exact truncate_of_nonneg hnonneg
  | throw => exact truncate_of_nonneg hnonneg

theorem rounds_to_cents (hpos : 0 < nominal) (hcents : mode = .throw → IsCents nominal) :
    RoundsTo mode nominal (roundedCents mode nominal / 100) := by
  rw [rounded_cents_of_pos hpos]
  cases mode with
  | round =>
    have hlow := Int.floor_le (nominal * 100 + 1 / 2)
    have hhigh := Int.lt_floor_add_one (nominal * 100 + 1 / 2)
    refine ⟨⟨_, rfl⟩, ?_, ?_⟩ <;> linarith
  | floor =>
    refine ⟨⟨⟨_, rfl⟩, ?_⟩, ?_⟩
    · have hceil := Int.le_ceil (nominal * 100)
      linarith
    · rintro c ⟨⟨n, rfl⟩, hle⟩
      have hceil : ⌈nominal * 100⌉ ≤ n := Int.ceil_le.mpr (by linarith)
      have hcast : (⌈nominal * 100⌉ : ℚ) ≤ n := by exact_mod_cast hceil
      linarith
  | useFirstTwo =>
    refine ⟨⟨⟨_, rfl⟩, ?_⟩, ?_⟩
    · have hfloor := Int.floor_le (nominal * 100)
      linarith
    · rintro c ⟨⟨n, rfl⟩, hle⟩
      have hfloor : n ≤ ⌊nominal * 100⌋ := Int.le_floor.mpr (by linarith)
      have hcast : (n : ℚ) ≤ ⌊nominal * 100⌋ := by exact_mod_cast hfloor
      linarith
  | throw =>
    obtain ⟨n, rfl⟩ := hcents rfl
    refine ⟨⟨n, rfl⟩, ?_⟩
    simp only
    rw [div_mul_cancel₀ _ (by norm_num), Int.floor_intCast]

/-- Where the mode rounds to zero. -/
theorem rounded_cents_pos_iff (hpos : 0 < nominal) (hcents : mode = .throw → IsCents nominal) :
    0 < roundedCents mode nominal ↔
      (mode = .useFirstTwo → 1 / 100 ≤ nominal) ∧ (mode = .round → 1 / 200 ≤ nominal) := by
  rw [rounded_cents_of_pos hpos]
  cases mode with
  | round =>
    simp only [reduceCtorEq, false_implies, true_implies, true_and]
    rw [Int.floor_pos]
    constructor <;> intro h <;> linarith
  | floor =>
    simp only [reduceCtorEq, false_implies, and_self, iff_true]
    exact Int.ceil_pos.mpr (by positivity)
  | useFirstTwo =>
    simp only [reduceCtorEq, false_implies, true_implies, and_true]
    rw [Int.floor_pos]
    constructor <;> intro h <;> linarith
  | throw =>
    simp only [reduceCtorEq, false_implies, and_self, iff_true]
    obtain ⟨n, rfl⟩ := hcents rfl
    rw [div_mul_cancel₀ _ (by norm_num), Int.floor_intCast]
    have hn : (0 : ℚ) < n := by linarith
    exact_mod_cast hn

/-- A rounded amount is less than a cent away. -/
theorem RoundsTo.near (h : RoundsTo mode nominal provider) : |provider - nominal| < 1 / 100 := by
  cases mode with
  | round =>
    obtain ⟨-, hlow, hhigh⟩ := h
    rw [abs_lt]
    constructor <;> linarith
  | floor =>
    obtain ⟨⟨⟨n, rfl⟩, hle⟩, hleast⟩ := h
    have hbelow : ¬ nominal ≤ (n : ℚ) / 100 - 1 / 100 := by
      intro hnominal
      have := hleast ⟨⟨n - 1, by push_cast; ring⟩, hnominal⟩
      linarith
    rw [abs_lt]
    constructor <;> linarith
  | useFirstTwo =>
    obtain ⟨⟨⟨n, rfl⟩, hle⟩, hgreatest⟩ := h
    have habove : ¬ (n : ℚ) / 100 + 1 / 100 ≤ nominal := by
      intro hnominal
      have := hgreatest ⟨⟨n + 1, by push_cast; ring⟩, hnominal⟩
      linarith
    rw [abs_lt]
    constructor <;> linarith
  | throw =>
    obtain ⟨-, rfl⟩ := h
    norm_num

end Modes

section Amounts

variable {mode : RefundRoundingMode} {amount : RefundAmount}

theorem refund_provider_amount_eq_ok {provider : Decimal 2} :
    refundProviderAmount amount mode = .ok provider ↔ ∃ nominal, amount.nominal = some nominal ∧ Refundable mode nominal ∧
      Decimal.ofUnits 2 Nat.zero_lt_two (roundedCents mode nominal).toNat = provider := by
  unfold refundProviderAmount Refundable
  simp only [bind_eq_ok, orThrow_eq_ok, require_eq_ok, pure_eq_ok, ← is_cents_iff, exists_const]
  constructor
  · rintro ⟨nominal, hnominal, hpos, hfour, hcents, hunits, hprovider⟩
    obtain ⟨n, hn⟩ := (eq_round_iff nominal 4).mp hfour
    obtain ⟨hfirst, hround⟩ := (rounded_cents_pos_iff hpos hcents).mp hunits
    exact ⟨nominal, hnominal, ⟨hpos, ⟨n, by rw [hn]; norm_num⟩, hfirst, hround, hcents⟩, hprovider⟩
  · rintro ⟨nominal, hnominal, ⟨hpos, ⟨n, hn⟩, hfirst, hround, hcents⟩, hprovider⟩
    have hfour : nominal = round nominal 4 := (eq_round_iff nominal 4).mpr ⟨n, by rw [hn]; norm_num⟩
    exact ⟨nominal, hnominal, hpos, hfour, hcents, (rounded_cents_pos_iff hpos hcents).mpr ⟨hfirst, hround⟩, hprovider⟩

theorem refund_provider_amount_rounds {provider : Decimal 2} (h : refundProviderAmount amount mode = .ok provider) :
    ∃ nominal ∈ amount.nominal, RoundsTo mode nominal provider.value := by
  obtain ⟨nominal, hnominal, ⟨hpos, -, hfirst, hround, hcents⟩, rfl⟩ := refund_provider_amount_eq_ok.mp h
  have hunits := (rounded_cents_pos_iff hpos hcents).mpr ⟨hfirst, hround⟩
  have hcast : ((roundedCents mode nominal).toNat : ℤ) = roundedCents mode nominal := Int.toNat_of_nonneg hunits.le
  refine ⟨nominal, hnominal, ?_⟩
  rw [Decimal.value_ofUnits, ← Int.cast_natCast, hcast, show (10 : ℚ) ^ 2 = 100 by norm_num]
  exact rounds_to_cents hpos hcents

example : (refundProviderAmount (.number (some (10001 / 10000))) .floor).toOption.map (·.units) = some 101 := by
  decide +kernel

/-- The differences add up to less than a cent for each line. -/
theorem accumulated_difference (lines : List (ℚ × ℚ)) (hlines : lines ≠ [])
    (h : ∀ line ∈ lines, |line.2 - line.1| < 1 / 100) :
    |(lines.map (·.2)).sum - (lines.map (·.1)).sum| < lines.length / 100 := by
  have hbound : ∀ lines : List (ℚ × ℚ), (∀ line ∈ lines, |line.2 - line.1| < 1 / 100) →
      |(lines.map (·.2)).sum - (lines.map (·.1)).sum| ≤ lines.length / 100 := by
    intro lines hall
    induction lines with
    | nil => simp
    | cons line lines ih =>
      have hline := hall line List.mem_cons_self
      have hrest := ih fun l hl => hall l (List.mem_cons_of_mem _ hl)
      simp only [List.map_cons, List.sum_cons, List.length_cons]
      rw [abs_le] at hrest ⊢
      rw [abs_lt] at hline
      push_cast
      constructor <;> linarith
  cases lines with
  | nil => exact absurd rfl hlines
  | cons line lines =>
    have hline := h line List.mem_cons_self
    have hrest := hbound lines fun l hl => h l (List.mem_cons_of_mem _ hl)
    simp only [List.map_cons, List.sum_cons, List.length_cons]
    rw [abs_le] at hrest
    rw [abs_lt] at hline ⊢
    push_cast
    constructor <;> linarith

end Amounts

/-- A prepared plan has lines, each rounded under the configured mode. -/
theorem prepared_lines_near {config : Config} {db : Db} {request : PrepareChannelRefundDTO} {plan : PreparedPlan}
    (h : prepare config db request = .ok plan) :
    plan.lines ≠ [] ∧ ∀ line ∈ plan.lines, |line.providerAmount.value - line.nominalAmount.value| < 1 / 100 := by
  unfold prepare at h
  simp only [bind_eq_ok, orThrow_eq_ok, require_eq_ok, pure_eq_ok] at h
  obtain ⟨source, -, _, ⟨-, -, -, hitems⟩, operation, -, _, -, lines, hlines, _, -, rfl⟩ := h
  have hforall := mapM_eq_ok.mp hlines
  have hperm := sort_lines_perm config lines
  refine ⟨fun hnil => ?_, fun line hline => ?_⟩
  · have hlength := hforall.length_eq
    rw [hperm.length_eq.symm, show (sortLines config lines).length = 0 by rw [show sortLines config lines = [] from hnil]; rfl] at hlength
    exact hitems (List.length_eq_zero_iff.mp hlength)
  · obtain ⟨raw, -, hprepared⟩ := forall₂_mem_right hforall (hperm.mem_iff.mp hline)
    unfold prepareLine at hprepared
    simp only [bind_eq_ok, orThrow_eq_ok, require_eq_ok, pure_eq_ok] at hprepared
    obtain ⟨item, -, text, -, nominal, htext, _, -, provider, hprovider, rfl⟩ := hprepared
    obtain ⟨value, hvalue, hrounds⟩ := refund_provider_amount_rounds hprovider
    rw [Decimal.ofText?_eq_some] at htext
    simp only [RefundAmount.nominal, ← htext, Decimal.parseNumeral_text (by decide : 0 < 4), Option.mem_def,
      Option.some.injEq] at hvalue
    exact hvalue ▸ hrounds.near

/-- **Provider amounts.** Which amounts are accepted, what they are rounded to, and how far the totals of
lines and of prepared plans are from the nominal ones. -/
theorem provider_amount_rounding (mode : RefundRoundingMode) :
    (∀ amount, (∃ provider, refundProviderAmount amount mode = .ok provider) ↔
      ∃ nominal ∈ amount.nominal, Refundable mode nominal) ∧
    (∀ amount provider, refundProviderAmount amount mode = .ok provider →
      ∃ nominal ∈ amount.nominal, RoundsTo mode nominal provider.value) ∧
    (∀ lines : List (ℚ × ℚ), lines ≠ [] → (∀ line ∈ lines, AcceptedLine mode line) →
      |(lines.map (·.2)).sum - (lines.map (·.1)).sum| < lines.length / 100) ∧
    (∀ config db request plan, config.roundingMode = mode → prepare config db request = .ok plan →
      |(plan.lines.map (·.providerAmount.value)).sum - (plan.lines.map (·.nominalAmount.value)).sum| <
        plan.lines.length / 100) := by
  refine ⟨fun amount => ?_, fun amount provider h => refund_provider_amount_rounds h, fun lines hlines haccepted => ?_,
    fun config db request plan _ hprepare => ?_⟩
  · simp only [refund_provider_amount_eq_ok, Option.mem_def]
    constructor
    · rintro ⟨_, nominal, hnominal, hrefundable, -⟩
      exact ⟨nominal, hnominal, hrefundable⟩
    · rintro ⟨nominal, hnominal, hrefundable⟩
      exact ⟨_, nominal, hnominal, hrefundable, rfl⟩
  · refine accumulated_difference lines hlines fun line hline => ?_
    obtain ⟨amount, provider, hnominal, hprovider, hvalue⟩ := haccepted line hline
    obtain ⟨nominal, hmem, hrounds⟩ := refund_provider_amount_rounds hprovider
    obtain rfl : line.1 = nominal := Option.some.inj (hnominal.symm.trans hmem)
    exact hvalue ▸ hrounds.near
  · obtain ⟨hlines, hnear⟩ := prepared_lines_near hprepare
    have h := accumulated_difference (plan.lines.map fun line => (line.nominalAmount.value, line.providerAmount.value))
      (by simpa using hlines) (by simpa using hnear)
    simpa [Function.comp_def] using h

end Postral.Iyzico
