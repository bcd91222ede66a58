import Postral.Payments.Ledger

/-!
# Lines that take nothing from the others

A line of a negative quantity lowers the total. Every other line can only raise it.
-/

open Check

namespace Postral

/-- The unit price that `calculateTotalAmount` finds for a line. -/
def activePrice (catalog : Catalog) (order : ItemListCalculationInputDto) (input : PaymentItemInputDto) : Option ℤ := do
  let search ← (itemSearch input).toOption
  let realItem ← (catalog.fetchAll search).head?
  let active ← (catalog.allLatestPrices ⟨order.currency, realItem.id, input.variation⟩).head?
  return active.itemPrice

/-- No line is negative, and none exceeds the total. -/
def ItemListCalculationDto.Safe (calculation : ItemListCalculationDto) : Prop :=
  ∀ item ∈ calculation.items, 0 ≤ item.totalAmount ∧ item.totalAmount ≤ calculation.totalAmount

/-- Every line has a quantity of at least 0, or is free. -/
def ItemListCalculationInputDto.Positive (catalog : Catalog) (order : ItemListCalculationInputDto) : Prop :=
  ∀ input ∈ order.items, 0 ≤ input.quantity ∨ activePrice catalog order input = some 0

theorem calculate_item_price {catalog : Catalog} {order : ItemListCalculationInputDto} {input : PaymentItemInputDto}
    {item : PaymentItemDTO} {taxDto : TaxDTO} (h : calculateItem catalog order input = .ok (item, taxDto)) :
    ∃ price, activePrice catalog order input = some price ∧ item.totalAmount = fromColumn price * input.quantity := by
  unfold calculateItem at h
  simp only [bind_eq_ok, orThrow_eq_ok, require_eq_ok, pure_eq_ok, Prod.mk.injEq] at h
  obtain ⟨search, hsearch, realItem, hitem, -, -, -, -, -, -, -, -, active, hactive, -, -, -, -, -, -, rfl, -⟩ := h
  refine ⟨active.itemPrice, ?_, by simp [multiplyNumberValues]⟩
  simp [activePrice, hsearch, hitem, hactive, Except.toOption]

/-- The lines of an accepted order, one for each input. -/
theorem calculate_total_amount_lines {catalog : Catalog} {order : ItemListCalculationInputDto}
    {calculation : ItemListCalculationDto} (h : calculateTotalAmount catalog order = .ok calculation) :
    List.Forall₂ (fun input item => ∃ price, activePrice catalog order input = some price ∧
      item.totalAmount = fromColumn price * input.quantity) order.items calculation.items := by
  unfold calculateTotalAmount at h
  simp only [bind_eq_ok, require_eq_ok] at h
  obtain ⟨-, -, h⟩ := h
  refine foldlM_invariant (P := fun done acc => List.Forall₂ _ done acc.items) .nil ?_ h
  intro done acc input acc' hacc hadd
  unfold addItem at hadd
  simp only [bind_eq_ok, pure_eq_ok] at hadd
  obtain ⟨⟨item, taxDto⟩, hitem, rfl⟩ := hadd
  exact List.rel_append hacc (.cons (calculate_item_price hitem) .nil)

/-- A line of an accepted order is negative only with a negative quantity of something that costs. -/
theorem line_nonneg_iff {price : ℤ} (hprice : 0 ≤ price) (quantity : ℚ) :
    0 ≤ fromColumn price * quantity ↔ 0 ≤ quantity ∨ price = 0 := by
  have hzero : fromColumn price = 0 ↔ price = 0 := by simp [fromColumn]
  have hcolumn : 0 ≤ fromColumn price := by
    have := fromColumn_le_fromColumn.mpr hprice
    simpa [fromColumn] using this
  rcases hcolumn.eq_or_lt with hfree | hcosts
  · have hfree : price = 0 := hzero.mp hfree.symm
    simp [hfree, fromColumn]
  · have hne : price ≠ 0 := fun h => hcosts.ne' (hzero.mpr h)
    simp [mul_nonneg_iff_of_pos_left hcosts, hne]

theorem le_sum_of_nonneg {amounts : List ℚ} (h : ∀ amount ∈ amounts, 0 ≤ amount) :
    ∀ amount ∈ amounts, amount ≤ amounts.sum := fun _ hmem => List.single_le_sum h _ hmem

/-- The stored lines and the stored total are the calculated ones, in columns. -/
theorem stored_safe {draft : PaymentDraft} {id : String} {itemIds : List String} {p : Payment}
    (h : draft.store id itemIds = some p)
    (hsafe : ∀ item ∈ draft.items, 0 ≤ item.totalAmount ∧ item.totalAmount ≤ draft.totalAmount) :
    ∀ item ∈ p.items.rows, 0 ≤ item.totalAmount ∧ item.totalAmount ≤ p.totalAmount := by
  obtain ⟨-, -, -, -, -, htotal, -⟩ := store_spec h
  have hcolumns := store_sums h (·.totalAmount) (·.totalAmount) fun _ _ => rfl
  intro item hitem
  have hcolumn := List.mem_map_of_mem (f := fun item : PaymentItem => item.totalAmount) hitem
  rw [hcolumns, List.map_map, List.mem_map] at hcolumn
  obtain ⟨line, hline, heq⟩ := hcolumn
  obtain ⟨hnonneg, hle⟩ := hsafe line hline
  rw [htotal, ← heq]
  exact ⟨toColumn_nonneg hnonneg, toColumn_mono hle⟩

/-- **Price safety.** The lines of an accepted order are safe exactly when every line has a quantity
of at least 0 or is free. Then those of the stored payment are safe, too. -/
theorem price_safety {catalog : Catalog} {order : ItemListCalculationInputDto} {calculation : ItemListCalculationDto}
    (hprices : ∀ search, ∀ price ∈ catalog.allLatestPrices search, 0 ≤ price.itemPrice)
    (h : calculateTotalAmount catalog order = .ok calculation) :
    (calculation.Safe ↔ order.Positive catalog) ∧
    (order.Positive catalog → ∀ {dir pdto draft id itemIds p},
      generateEntityFromInitDto dir (fun _ => .ok calculation) pdto none = .ok draft → draft.store id itemIds = some p →
        ∀ item ∈ p.items.rows, 0 ≤ item.totalAmount ∧ item.totalAmount ≤ p.totalAmount) := by
  have hlines := calculate_total_amount_lines h
  have hsum := (calculate_total_amount_spec h).1.1
  have hprice : ∀ input price, activePrice catalog order input = some price → 0 ≤ price := by
    intro input price hactive
    simp only [activePrice, Option.bind_eq_bind, Option.bind_eq_some_iff, Option.pure_def, Option.some.injEq] at hactive
    obtain ⟨_, -, _, -, active, hactive, rfl⟩ := hactive
    exact hprices _ active (List.mem_of_head? hactive)
  have hiff : order.Positive catalog ↔ ∀ item ∈ calculation.items, 0 ≤ item.totalAmount := by
    refine forall₂_forall_iff hlines fun input item hline => ?_
    obtain ⟨price, hactive, htotal⟩ := hline
    rw [htotal, line_nonneg_iff (hprice _ _ hactive), hactive, Option.some.injEq]
  have hsafe : calculation.Safe ↔ order.Positive catalog := by
    rw [hiff]
    refine ⟨fun hsafe item hitem => (hsafe item hitem).1, fun hnonneg item hitem => ⟨hnonneg item hitem, ?_⟩⟩
    rw [hsum]
    exact le_sum_of_nonneg (by simpa using hnonneg) _ (List.mem_map_of_mem hitem)
  refine ⟨hsafe, fun hpositive dir pdto draft id itemIds p hdraft hstore => stored_safe hstore ?_⟩
  obtain ⟨calculation', hcalculation, -, -, hitems, htotal, -⟩ := generate_entity_spec hdraft
  obtain rfl : calculation = calculation' := by simpa using hcalculation
  rw [hitems, htotal]
  exact hsafe.mpr hpositive

/-! ## A line of minus one piece -/

/-- Pieces of an item that costs 1.00. -/
def sampleOrder (quantities : List ℚ) : ItemListCalculationInputDto :=
  ⟨quantities.map fun quantity => { itemId := some "item", quantity := quantity }, "DEFAULT", "TRY"⟩

/-- Two pieces and minus one piece: a line of -1.00, and a line of 2.00 in a total of 1.00. -/
theorem negative_line_accepted :
    ∃ calculation, calculateTotalAmount sampleCatalog (sampleOrder [2, -1]) = .ok calculation ∧
      (∃ item ∈ calculation.items, item.totalAmount < 0) ∧
      ∃ item ∈ calculation.items, calculation.totalAmount < item.totalAmount := by
  have hrun : ∃ calculation ∈ (calculateTotalAmount sampleCatalog (sampleOrder [2, -1])).toOption,
      (∃ item ∈ calculation.items, item.totalAmount < 0) ∧
      ∃ item ∈ calculation.items, calculation.totalAmount < item.totalAmount := by
    decide +kernel
  obtain ⟨calculation, hcalculation, hall⟩ := hrun
  exact ⟨calculation, toOption_eq_some.mp hcalculation, hall⟩

theorem price_safety_two_lines :
    ∃ calculation, calculateTotalAmount sampleCatalog (sampleOrder [2, 1]) = .ok calculation ∧ calculation.Safe := by
  have hrun : (calculateTotalAmount sampleCatalog (sampleOrder [2, 1])).toOption.isSome := by
    decide +kernel
  obtain ⟨calculation, hcalculation⟩ := Option.isSome_iff_exists.mp hrun
  have hok := toOption_eq_some.mp hcalculation
  have hprices : ∀ search, ∀ price ∈ sampleCatalog.allLatestPrices search, 0 ≤ price.itemPrice := by
    intro search price hprice
    obtain rfl : price = ⟨"", 10000⟩ := by simpa [sampleCatalog] using hprice
    decide
  have hpositive : (sampleOrder [2, 1]).Positive sampleCatalog := by
    intro input hinput
    left
    simp only [sampleOrder, List.map_cons, List.map_nil, List.mem_cons, List.not_mem_nil, or_false] at hinput
    rcases hinput with rfl | rfl <;> norm_num
  exact ⟨calculation, hok, (price_safety hprices hok).1.mpr hpositive⟩

end Postral
