import Postral.Payments.Ledger

/-!
# The amounts of a payment after they are stored

The order calculation is exact up to the twenty decimals of a division. Every column is rounded for itself.
-/

open Check Rounding

namespace Postral

/-- What a line is calculated from. -/
structure LineInput where
  price : ℤ
  quantity : ℚ
  percent : ℚ
  deriving DecidableEq

namespace LineInput

def total (line : LineInput) : ℚ := fromColumn line.price * line.quantity

/-- To the twenty decimals of a division. -/
def tax (line : LineInput) : ℚ := div (line.percent * line.total) (line.percent + 100)

/-- Rounding the tax and the untaxed amount to ten-thousandths errs no more than rounding the total. -/
def Kept (line : LineInput) : Prop := StaysWithinHalf [line.tax * 10000, (line.total - line.tax) * 10000]

instance (line : LineInput) : Decidable line.Kept := by
  unfold Kept
  infer_instance

end LineInput

/-- The lines are rounded as far as their exact total is. -/
def TotalKept (lines : List LineInput) : Prop := StaysWithinHalf (lines.map fun line => line.total * 10000)

/-- The price, the quantity and the percent of a line, as the catalog has them. -/
def lineInput (catalog : Catalog) (order : ItemListCalculationInputDto) (input : PaymentItemInputDto) :
    Except HttpError LineInput := do
  let search ← itemSearch input
  let realItem ← orThrow (catalog.fetchAll search).head? (.notFound "Item not found for payment init")
  let itemTax ← orThrow (catalog.itemTax realItem.itemTaxId) (.notFound "Item tax not found for payment init")
  let variation ← orThrow (itemTax.variations.find? fun v => v.1 = order.saleMode)
    (.notFound s!"Item tax variation not found for sale mode: {order.saleMode}")
  let active ← orThrow (catalog.allLatestPrices ⟨order.currency, realItem.id, input.variation⟩).head?
    (.internal "Cannot read properties of undefined (reading 'variation')")
  return ⟨active.itemPrice, input.quantity, variation.2⟩

/-- The order of an `init`, at its sale mode. -/
def orderOf (pdto : PaymentInitDTO) (items : List PaymentItemInputDto) : ItemListCalculationInputDto where
  items := items
  saleMode := if isBlank (pdto.saleMode.getD "") then "DEFAULT" else pdto.saleMode.getD ""
  currency := pdto.currency

/-! ## What is calculated -/

/-- The amounts that the calculation gives a line. -/
def Calculated (line : LineInput) (item : PaymentItemDTO) : Prop :=
  item.totalAmount = line.total ∧ item.taxAmount = line.tax ∧ item.unTaxAmount = line.total - line.tax

section Calculation

variable {catalog : Catalog} {order : ItemListCalculationInputDto}

theorem calculate_item_calculated {input : PaymentItemInputDto} {item : PaymentItemDTO} {taxDto : TaxDTO}
    (h : calculateItem catalog order input = .ok (item, taxDto)) :
    ∃ line, lineInput catalog order input = .ok line ∧ Calculated line item := by
  unfold calculateItem at h
  simp only [bind_eq_ok, orThrow_eq_ok, require_eq_ok, pure_eq_ok, Prod.mk.injEq] at h
  obtain ⟨search, hsearch, realItem, hrealItem, _, -, -, -, itemTax, hitemTax, variation, hvariation, active, hactive,
    _, -, tax, htax, -, -, rfl, rfl⟩ := h
  have htotal : multiplyNumberValues [fromColumn active.itemPrice, input.quantity] =
      fromColumn active.itemPrice * input.quantity := by
    simp [multiplyNumberValues]
  rw [htotal] at htax ⊢
  obtain ⟨hamount, -, huntax⟩ := generateTaxDto_of_percent htax
  refine ⟨⟨active.itemPrice, input.quantity, variation.2⟩, ?_, rfl, calculateTaxAmount_eq hamount, ?_⟩
  · unfold lineInput
    simp only [bind_eq_ok, orThrow_eq_ok, pure_eq_ok]
    exact ⟨search, hsearch, realItem, hrealItem, itemTax, hitemTax, variation, hvariation, active, hactive, rfl⟩
  · rw [calculateTaxAmount_eq hamount] at huntax
    exact huntax

/-- The items so far are those of the lines so far, and the total is their exact sum. -/
def CalculatedFrom (catalog : Catalog) (order : ItemListCalculationInputDto) (done : List PaymentItemInputDto)
    (acc : ItemListCalculationDto) : Prop :=
  List.Forall₂ (fun input item => ∃ line, lineInput catalog order input = .ok line ∧ Calculated line item) done acc.items ∧
    acc.totalAmount = (acc.items.map (·.totalAmount)).sum

theorem add_item_calculated {done : List PaymentItemInputDto} {acc acc' : ItemListCalculationDto}
    {input : PaymentItemInputDto} (hacc : CalculatedFrom catalog order done acc)
    (h : addItem catalog order acc input = .ok acc') : CalculatedFrom catalog order (done ++ [input]) acc' := by
  unfold addItem at h
  simp only [bind_eq_ok, pure_eq_ok] at h
  obtain ⟨⟨item, taxDto⟩, hitem, rfl⟩ := h
  obtain ⟨hitems, htotal⟩ := hacc
  exact ⟨List.rel_append hitems (.cons (calculate_item_calculated hitem) .nil), by simp [htotal]⟩

theorem calculate_total_amount_calculated {calculation : ItemListCalculationDto}
    (h : calculateTotalAmount catalog order = .ok calculation) :
    ∃ lines, order.items.mapM (lineInput catalog order) = .ok lines ∧ List.Forall₂ Calculated lines calculation.items ∧
      calculation.totalAmount = (calculation.items.map (·.totalAmount)).sum := by
  unfold calculateTotalAmount at h
  simp only [bind_eq_ok, require_eq_ok] at h
  obtain ⟨-, -, h⟩ := h
  obtain ⟨hitems, htotal⟩ : CalculatedFrom catalog order order.items calculation :=
    foldlM_invariant ⟨.nil, rfl⟩ (fun _ _ _ _ => add_item_calculated) h
  obtain ⟨lines, hlines, hcalculated⟩ : ∃ lines,
      List.Forall₂ (fun input line => lineInput catalog order input = .ok line) order.items lines ∧
        List.Forall₂ Calculated lines calculation.items := by
    clear h htotal
    generalize order.items = inputs, calculation.items = calculated at hitems ⊢
    induction hitems with
    | nil => exact ⟨[], .nil, .nil⟩
    | cons hitem _ ih =>
      obtain ⟨line, hline, hcalculated⟩ := hitem
      obtain ⟨lines, hlines, hrest⟩ := ih
      exact ⟨line :: lines, .cons hline hlines, .cons hcalculated hrest⟩
  exact ⟨lines, mapM_eq_ok.mpr hlines, hcalculated, htotal⟩

end Calculation

theorem init_payment_calculated {catalog : Catalog} {dir : Directory} {pdto : PaymentInitDTO}
    {items : List PaymentItemInputDto} {draft : PaymentDraft} (h : initPayment catalog dir pdto items = .ok draft) :
    ∃ lines, items.mapM (lineInput catalog (orderOf pdto items)) = .ok lines ∧
      List.Forall₂ Calculated lines draft.items ∧ draft.totalAmount = (draft.items.map (·.totalAmount)).sum := by
  unfold initPayment generateEntityFromInitDto at h
  simp only [bind_eq_ok, pure_eq_ok, require_eq_ok, orThrow_eq_ok, Option.elim_none] at h
  obtain ⟨-, -, -, -, -, -, -, -, calculation, hcalculation, -, -, -, -, -, -, rfl⟩ := h
  exact calculate_total_amount_calculated hcalculation

/-! ## What is stored -/

theorem LineInput.kept_iff (line : LineInput) :
    toColumn line.tax + toColumn (line.total - line.tax) = toColumn line.total ↔ line.Kept := by
  have h := toColumn_sum_iff [line.tax, line.total - line.tax]
  simpa [Kept] using h

/-- Where price and quantity give whole ten-thousandths, only a tax of a half is lost. -/
theorem LineInput.kept_iff_of_whole {line : LineInput} {m : ℤ} (htotal : line.total = fromColumn m) (htax : 0 ≤ line.tax)
    (hle : line.tax ≤ line.total) : line.Kept ↔ Int.fract (line.tax * 10000) ≠ 1 / 2 := by
  have hscaled : line.total * 10000 = m := by
    rw [htotal, fromColumn, div_mul_cancel₀ _ (by norm_num)]
  rw [← kept_iff, ← roundAway_add_roundAway_sub_iff (mul_nonneg htax (by norm_num))
    (hscaled ▸ mul_le_mul_of_nonneg_right hle (by norm_num))]
  unfold toColumn
  rw [sub_mul, hscaled, roundAway_intCast]

/-- Whole quantities keep the total: prices are columns. -/
theorem total_kept_of_whole {lines : List LineInput} (h : ∀ line ∈ lines, ∃ m : ℤ, line.total = fromColumn m) :
    TotalKept lines := by
  have hcolumns : lines.map LineInput.total = (lines.map fun line => toColumn line.total).map fromColumn := by
    rw [List.map_map]
    apply List.map_congr_left
    intro line hline
    obtain ⟨m, hm⟩ := h line hline
    rw [Function.comp_apply, hm, toColumn_fromColumn]
  have hstays := staysWithinHalf_columns (lines.map fun line => toColumn line.total)
  rwa [← hcolumns, List.map_map] at hstays

section Stored

variable {draft : PaymentDraft} {id : String} {itemIds : List String} {p : Payment} {lines : List LineInput}

theorem stored_lines_iff (hstore : draft.store id itemIds = some p) (hlines : List.Forall₂ Calculated lines draft.items) :
    (∀ row ∈ p.items.rows, row.taxAmount + row.unTaxAmount = row.totalAmount) ↔ ∀ line ∈ lines, line.Kept := by
  obtain ⟨-, -, -, -, -, -, -, hlength, hrows⟩ := store_spec hstore
  rw [hrows]
  clear hrows hstore
  generalize draft.items = calculated at hlines hlength ⊢
  induction hlines generalizing itemIds with
  | nil => simp
  | cons hitem _ ih =>
    cases itemIds with
    | nil => simp at hlength
    | cons itemId itemIds =>
      obtain ⟨htotal, htax, huntax⟩ := hitem
      rw [List.zipWith_cons_cons, List.forall_mem_cons, List.forall_mem_cons, ih (by simpa using hlength)]
      refine and_congr_left fun _ => ?_
      simp only [PaymentItemDTO.toEntity, htotal, htax, huntax]
      exact LineInput.kept_iff _

theorem stored_total_iff (hstore : draft.store id itemIds = some p) (hlines : List.Forall₂ Calculated lines draft.items)
    (htotal : draft.totalAmount = (draft.items.map (·.totalAmount)).sum) :
    p.totalAmount = (p.items.rows.map (·.totalAmount)).sum ↔ TotalKept lines := by
  have hamounts : draft.items.map (·.totalAmount) = lines.map LineInput.total := by
    clear htotal hstore
    generalize draft.items = calculated at hlines ⊢
    induction hlines with
    | nil => rfl
    | cons hitem _ ih => rw [List.map_cons, List.map_cons, ih, hitem.1]
  obtain ⟨-, -, -, -, -, hstored, -⟩ := store_spec hstore
  rw [store_sums hstore (·.totalAmount) (·.totalAmount) fun _ _ => rfl, hstored, htotal, hamounts, eq_comm,
    toColumn_sum_iff, List.map_map]
  rfl

end Stored

/-- One line at a price. -/
def pricedDraft (price : ℤ) (quantities : List ℚ) : Except HttpError PaymentDraft :=
  initPayment { sampleCatalog with allLatestPrices := fun _ => [⟨"", price⟩] } sampleDirectory sampleInit
    (quantities.map fun quantity => { itemId := some "item", quantity := quantity })

end Postral
