import Postral.Payments.Calculation
import Postral.Payments.Prices

/-!
# The prices of a line

The unit price of a line is the first row of one search, its original price the first row of another.
-/

open Check

namespace Postral.Prices

abbrev RowTable := Table (fun row : Row => row.id)

/-- What the calculation reads of a price. -/
def Row.toDto (row : Row) : Postral.ItemPriceDTO := ⟨row.variation, row.itemPrice⟩

/-- The calculation gives no region. -/
def lineSearch (itemId currency : String) (variation : Option String) : ItemPriceSearchDTO :=
  ⟨itemId, variation, some currency, none⟩

/-- The catalog answers from the table. Each answer may list the rows in another order. -/
def PricedFrom (catalog : Catalog) (prices : RowTable) (time : Time) : Prop :=
  ∀ search : Postral.ItemPriceSearchDTO,
    (∃ rows : List Row, rows.Perm prices.rows ∧ catalog.allLatestPrices search =
      (allLatestPrices rows time (lineSearch search.itemId search.currency search.variation)).map Row.toDto) ∧
    (∃ rows : List Row, rows.Perm prices.rows ∧ catalog.allDefaultPrices search =
      (allDefaultPrices rows (lineSearch search.itemId search.currency search.variation)).map Row.toDto)

/-- `itemPriceActive[0]` and `itemPriceDefault[0]`, for some order of the rows. -/
def FirstPrices (prices : RowTable) (time : Time) (search : ItemPriceSearchDTO) (active default : Row) : Prop :=
  (∃ rows : List Row, rows.Perm prices.rows ∧ (allLatestPrices rows time search).head? = some active) ∧
    (∃ rows : List Row, rows.Perm prices.rows ∧ (allDefaultPrices rows search).head? = some default)

/-- Both prices are of one item, variation, region and currency. -/
def PricesTogether (prices : RowTable) (time : Time) (search : ItemPriceSearchDTO) : Prop :=
  ∀ active default, FirstPrices prices time search active default → SameGroup active default

/-- The line names a variation and the order a currency, or there is only one to choose. -/
def OneChoice (prices : RowTable) (time : Time) (search : ItemPriceSearchDTO) : Prop :=
  (truthy search.variation ∧ truthy search.currency) ∨
    ∀ active ∈ prices.rows, Selectable search time active → ∀ default ∈ allDefaultPrices prices.rows search,
      active.variation = default.variation ∧ active.currency = default.currency

instance (prices : RowTable) (time : Time) (search : ItemPriceSearchDTO) : Decidable (OneChoice prices time search) := by
  unfold OneChoice
  infer_instance

section

variable {prices : RowTable} {time : Time} {search : ItemPriceSearchDTO} {active default : Row}

theorem uniqueIds_of_perm {rows : List Row} (hrows : rows.Perm prices.rows) : UniqueIds rows := by
  intro a ha b hb hid
  exact Table.eq_of_key (hrows.mem_iff.mp ha) (hrows.mem_iff.mp hb) hid

theorem first_prices_spec (h : FirstPrices prices time search active default) :
    active ∈ prices.rows ∧ Selectable search time active ∧ default ∈ allDefaultPrices prices.rows search := by
  obtain ⟨⟨rows, hrows, hactive⟩, rows', hrows', hdefault⟩ := h
  obtain ⟨hmem, hselectable, -⟩ := latest_spec (uniqueIds_of_perm hrows) (List.mem_of_mem_head? hactive)
  have hfound := List.mem_of_mem_head? hdefault
  rw [mem_default_prices, hrows'.mem_iff] at hfound
  exact ⟨hrows.mem_iff.mp hmem, hselectable, mem_default_prices.mpr hfound⟩

/-- Every active price and every default price may be chosen together, up to the group of the first. -/
theorem exists_first_prices (hactive : active ∈ prices.rows) (hselectable : Selectable search time active)
    (hdefault : default ∈ allDefaultPrices prices.rows search) :
    ∃ row, SameGroup active row ∧ FirstPrices prices time search row default := by
  have hid : UniqueIds prices.rows := uniqueIds_of_perm (List.Perm.refl _)
  obtain ⟨row, hrow, hgroup⟩ := exists_latest hid hactive hselectable
  obtain ⟨hmem, hselectable', hbest⟩ := latest_spec hid hrow
  refine ⟨row, hgroup, latest_first hmem hselectable' hbest, default :: prices.rows.erase default, ?_, ?_⟩
  · exact (List.perm_cons_erase (mem_default_prices.mp hdefault).1).symm
  · obtain ⟨-, hkeep⟩ := mem_default_prices.mp hdefault
    unfold allDefaultPrices
    rw [List.filter_cons_of_pos (by simpa using hkeep)]
    rfl

theorem eq_some_of_filterBy {value : Option String} {column : String} (htruthy : truthy value) (h : filterBy value column) :
    value = some column := by
  cases value with
  | none => simp [truthy] at htruthy
  | some v =>
    have hcolumn : column = v := by simpa [filterBy, htruthy] using h
    rw [hcolumn]

theorem prices_together_iff : PricesTogether prices time search ↔ OneChoice prices time search := by
  constructor
  · intro h
    refine Or.inr fun active hactive hselectable default hdefault => ?_
    obtain ⟨row, hgroup, hfirst⟩ := exists_first_prices hactive hselectable hdefault
    obtain ⟨-, hcurrency, -, hvariation⟩ := hgroup.congr.mpr (h row default hfirst)
    exact ⟨hvariation, hcurrency⟩
  · intro h active default hfirst
    obtain ⟨hactive, hselectable, hdefault⟩ := first_prices_spec hfirst
    obtain ⟨hitem, hvariation, hregion, hcurrency, -⟩ := id hselectable
    obtain ⟨-, hitem', hvariation', hregion', hcurrency', -⟩ := mem_default_prices.mp hdefault
    have hchoice : active.variation = default.variation ∧ active.currency = default.currency := by
      rcases h with ⟨hnamed, hgiven⟩ | h
      · exact ⟨(hvariation' _ (eq_some_of_filterBy hnamed hvariation)).symm,
          (hcurrency' _ (eq_some_of_filterBy hgiven hcurrency)).symm⟩
      · exact h active hactive hselectable default hdefault
    exact ⟨hregion.trans hregion'.symm, hchoice.2, hitem.trans hitem'.symm, hchoice.1⟩

end

/-- What the prices of an item say about the two prices of a line. -/
def WrittenFrom (prices : RowTable) (time : Time) (currency : String) (input : PaymentItemInputDto) (item : PaymentItemDTO) :
    Prop :=
  ∃ active default, FirstPrices prices time (lineSearch item.itemId currency input.variation) active default ∧
    item.variation = active.variation ∧ item.unitAmount = fromColumn active.itemPrice ∧
    item.originalUnitAmount = fromColumn default.itemPrice

theorem calculate_item_prices {catalog : Catalog} {prices : RowTable} {time : Time} (hpriced : PricedFrom catalog prices time)
    {order : ItemListCalculationInputDto} {input : PaymentItemInputDto} {item : PaymentItemDTO} {taxDto : TaxDTO}
    (h : calculateItem catalog order input = .ok (item, taxDto)) : WrittenFrom prices time order.currency input item := by
  unfold calculateItem at h
  simp only [bind_eq_ok, orThrow_eq_ok, require_eq_ok, pure_eq_ok, Prod.mk.injEq] at h
  obtain ⟨-, -, realItem, -, itemAccount, -, -, -, itemTax, -, variation, -, active, hactive, default, hdefault, tax, -, -, -,
    rfl, rfl⟩ := h
  obtain ⟨⟨rows, hrows, hlatest⟩, rows', hrows', hdefaults⟩ := hpriced ⟨order.currency, realItem.id, input.variation⟩
  rw [hlatest, List.head?_map] at hactive
  rw [hdefaults, List.head?_map] at hdefault
  obtain ⟨active, hfirst, rfl⟩ := Option.map_eq_some_iff.mp hactive
  obtain ⟨default, hfirst', rfl⟩ := Option.map_eq_some_iff.mp hdefault
  exact ⟨active, default, ⟨⟨rows, hrows, hfirst⟩, rows', hrows', hfirst'⟩, rfl, rfl, rfl⟩

theorem calculate_total_amount_prices {catalog : Catalog} {prices : RowTable} {time : Time}
    (hpriced : PricedFrom catalog prices time) {order : ItemListCalculationInputDto} {calculation : ItemListCalculationDto}
    (h : calculateTotalAmount catalog order = .ok calculation) :
    ∀ item ∈ calculation.items, ∃ input ∈ order.items, WrittenFrom prices time order.currency input item := by
  unfold calculateTotalAmount at h
  simp only [bind_eq_ok, require_eq_ok] at h
  obtain ⟨-, -, h⟩ := h
  refine foldlM_invariant (P := fun done acc => ∀ item ∈ acc.items, ∃ input ∈ done,
    WrittenFrom prices time order.currency input item) (by simp) ?_ h
  intro done acc input acc' hacc hadd
  unfold addItem at hadd
  simp only [bind_eq_ok, pure_eq_ok] at hadd
  obtain ⟨⟨item, taxDto⟩, hitem, rfl⟩ := hadd
  intro other hother
  rcases List.mem_append.mp hother with hmem | hmem
  · obtain ⟨input', hinput', hwritten⟩ := hacc other hmem
    exact ⟨input', List.mem_append_left _ hinput', hwritten⟩
  · obtain rfl := List.mem_singleton.mp hmem
    exact ⟨input, by simp, calculate_item_prices hpriced hitem⟩

/-- **Prices of a line.** They are the first rows of the two searches, and these are of one group exactly
where there is one choice. -/
theorem line_prices_iff (prices : RowTable) (time : Time) :
    (∀ catalog order calculation, PricedFrom catalog prices time → calculateTotalAmount catalog order = .ok calculation →
      ∀ item ∈ calculation.items, ∃ input ∈ order.items, WrittenFrom prices time order.currency input item) ∧
    (∀ itemId currency variation, PricesTogether prices time (lineSearch itemId currency variation) ↔
      OneChoice prices time (lineSearch itemId currency variation)) :=
  ⟨fun _ _ _ hpriced h => calculate_total_amount_prices hpriced h, fun _ _ _ => prices_together_iff⟩

/-! Two variations of an item, each with its default price. That of the small size ended at 1000. -/

def small : Row := ⟨"a", "item", "small", 500000, "any", "TRY", 0, none, some 1000⟩

def large : Row := ⟨"b", "item", "large", 900000, "any", "TRY", 0, none, none⟩

def sizes : RowTable := ⟨[small, large], by decide⟩

/-- Without a variation, the price is that of the large size and the original price that of the small one. -/
theorem sizes_mixed : ¬ PricesTogether sizes 5000 (lineSearch "item" "TRY" none) := by
  intro h
  have hfirst : FirstPrices sizes 5000 (lineSearch "item" "TRY" none) large small :=
    ⟨⟨_, List.Perm.refl _, by decide +kernel⟩, _, List.Perm.refl _, by decide +kernel⟩
  exact absurd (h large small hfirst) (by decide)

end Postral.Prices
