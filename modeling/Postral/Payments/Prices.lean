import Postral.Basic
import Postral.Lib.Batch
import Postral.Lib.Nullish
import Postral.Lib.Query
import Postral.Lib.Run
import Postral.Money

/-!
# Item prices (`ItemPriceService`, `ItemPriceMapper`)

A price of order 0 is the default of its item, variation, region and currency. Other prices come
before it or after it by their order, each in a window of time.
-/

namespace Postral.Prices

/-- Milliseconds since 1970. -/
abbrev Time := ℤ

/-- `ItemPrice`, generic in amounts and times: `ℤ` and `Option` in a row, `ℚ` and `Nullish` in memory. -/
structure ItemPrice (μ τ : Type) where
  id : String
  itemId : String
  variation : String
  itemPrice : μ
  region : String
  currency : String
  activityOrder : ℤ
  activeStartAt : τ
  activeExpireAt : τ
  deriving DecidableEq

abbrev Row := ItemPrice ℤ (Option Time)

abbrev Loaded := ItemPrice ℚ (Nullish Time)

structure ItemPriceDTO where
  itemId : String
  variation : String
  itemPrice : ℚ
  region : String
  currency : String
  activityOrder : ℤ
  activeStartAt : Nullish Time
  activeExpireAt : Nullish Time
  deriving DecidableEq

structure ItemPriceSearchDTO where
  itemId : String
  variation : Option String
  currency : Option String
  region : Option String
  deriving DecidableEq

def Row.load (row : Row) : Loaded :=
  { row with
    itemPrice := fromColumn row.itemPrice
    activeStartAt := .ofOption row.activeStartAt
    activeExpireAt := .ofOption row.activeExpireAt }

/-- `new ItemPrice()`, with the id that the database generates. -/
def newItemPrice (id : String) : Loaded := ⟨id, "", "", 0, "", "", 0, .undefined, .undefined⟩

/-- `ItemPriceMapper.updateEntity`. -/
def updateEntity (entity : Loaded) (dto : ItemPriceDTO) : Loaded :=
  let entity := { entity with
    itemId := dto.itemId
    variation := dto.variation
    itemPrice := dto.itemPrice
    region := dto.region
    currency := dto.currency
    activityOrder := dto.activityOrder }
  if dto.activityOrder ≠ 0 then
    { entity with activeExpireAt := .null, activeStartAt := .null }
  else
    { entity with activeExpireAt := dto.activeExpireAt, activeStartAt := dto.activeStartAt }

/-- The row that a save of `entity` leaves, over the window stored so far. -/
def stored (entity : Loaded) (activeStartAt activeExpireAt : Option Time) : Row :=
  { entity with
    itemPrice := toColumn entity.itemPrice
    activeStartAt := entity.activeStartAt.assign activeStartAt
    activeExpireAt := entity.activeExpireAt.assign activeExpireAt }

/-! ## Windows -/

/-- A missing bound is no bound. -/
structure Window where
  activeStartAt : Option Time
  activeExpireAt : Option Time
  deriving DecidableEq

def Window.Contains (window : Window) (time : Time) : Prop :=
  (∀ start ∈ window.activeStartAt, start < time) ∧ (∀ expire ∈ window.activeExpireAt, time < expire)

instance (window : Window) (time : Time) : Decidable (window.Contains time) := by
  unfold Window.Contains
  infer_instance

def Row.window (row : Row) : Window := ⟨row.activeStartAt, row.activeExpireAt⟩

def ItemPriceDTO.window (dto : ItemPriceDTO) : Window := ⟨dto.activeStartAt.toOption, dto.activeExpireAt.toOption⟩

/-- `nowString`: in whole seconds. -/
def nowString (time : Time) : Time := time / 1000 * 1000

/-! ## Searches -/

/-- `regionDefault`. -/
def regionDefault (search : ItemPriceSearchDTO) : String :=
  if truthy search.region then search.region.getD "" else "any"

/-- `:value is null or :value = '' or column = :value`. -/
def filterBy (value : Option String) (column : String) : Bool := !truthy value || column = value.getD ""

def SameGroup (a b : Row) : Prop :=
  a.region = b.region ∧ a.currency = b.currency ∧ a.itemId = b.itemId ∧ a.variation = b.variation

instance (a b : Row) : Decidable (SameGroup a b) := by
  unfold SameGroup
  infer_instance

/-- `allDefaultPrices`, over the rows in the order that the database has them. A parameter that is
`undefined` is left out of the search. -/
def allDefaultPrices (rows : List Row) (search : ItemPriceSearchDTO) : List Row :=
  rows.filter fun row => row.itemId = search.itemId ∧ (∀ variation ∈ search.variation, row.variation = variation) ∧
    row.region = regionDefault search ∧ (∀ currency ∈ search.currency, row.currency = currency) ∧ row.activityOrder = 0

/-- The condition of the inner query. -/
def isCandidate (search : ItemPriceSearchDTO) (time : Time) (outer ip2 : Row) : Bool :=
  SameGroup outer ip2 ∧ ip2.itemId = search.itemId ∧ filterBy search.variation ip2.variation ∧
    filterBy (some (regionDefault search)) ip2.region ∧ filterBy search.currency ip2.currency ∧ ip2.window.Contains (nowString time)

/-- `allLatestPrices`. -/
def allLatestPrices (rows : List Row) (time : Time) (search : ItemPriceSearchDTO) : List Row :=
  rows.filter fun row =>
    (Rows.top (·.activityOrder) (rows.filter (isCandidate search time row))).any fun ip2 => row.id = ip2.id

/-! ## What the searches find -/

section Searches

variable {rows : List Row} {time : Time} {search : ItemPriceSearchDTO} {row a b : Row}

theorem mem_default_prices : row ∈ allDefaultPrices rows search ↔ row ∈ rows ∧ row.itemId = search.itemId ∧
    (∀ variation ∈ search.variation, row.variation = variation) ∧ row.region = regionDefault search ∧
    (∀ currency ∈ search.currency, row.currency = currency) ∧ row.activityOrder = 0 := by
  simp [allDefaultPrices]

theorem regionDefault_truthy (search : ItemPriceSearchDTO) : regionDefault search ≠ "" := by
  unfold regionDefault
  split <;> rename_i h
  · cases hregion : search.region with
    | none => simp [hregion, truthy] at h
    | some region => simpa [hregion, truthy] using h
  · decide

theorem filterBy_region {region : String} : filterBy (some (regionDefault search)) region ↔ region = regionDefault search := by
  simp [filterBy, truthy, regionDefault_truthy]

/-- The row is of the search and active. -/
def Selectable (search : ItemPriceSearchDTO) (time : Time) (row : Row) : Prop :=
  row.itemId = search.itemId ∧ filterBy search.variation row.variation ∧ row.region = regionDefault search ∧
    filterBy search.currency row.currency ∧ row.window.Contains (nowString time)

instance (search : ItemPriceSearchDTO) (time : Time) (row : Row) : Decidable (Selectable search time row) := by
  unfold Selectable
  infer_instance

theorem isCandidate_iff : isCandidate search time a b ↔ SameGroup a b ∧ Selectable search time b := by
  simp only [isCandidate, decide_eq_true_eq, filterBy_region, Selectable]

theorem SameGroup.refl (a : Row) : SameGroup a a := ⟨rfl, rfl, rfl, rfl⟩

theorem SameGroup.congr {c : Row} (h : SameGroup a b) : SameGroup a c ↔ SameGroup b c := by
  obtain ⟨hregion, hcurrency, hitem, hvariation⟩ := h
  simp only [SameGroup, hregion, hcurrency, hitem, hvariation]

/-- No two rows have the same id. -/
def UniqueIds (rows : List Row) : Prop := ∀ a ∈ rows, ∀ b ∈ rows, a.id = b.id → a = b

theorem mem_latest_iff (hid : UniqueIds rows) : row ∈ allLatestPrices rows time search ↔
    Rows.top (·.activityOrder) (rows.filter (isCandidate search time row)) = some row := by
  simp only [allLatestPrices, List.mem_filter, Option.any_eq_true, decide_eq_true_eq]
  constructor
  · rintro ⟨hrow, ip2, htop, hsame⟩
    have hmem := List.mem_of_mem_filter (Rows.mem_of_top htop)
    rw [htop, hid row hrow ip2 hmem hsame]
  · intro htop
    exact ⟨List.mem_of_mem_filter (Rows.mem_of_top htop), row, htop, rfl⟩

/-- A price that is found is active and comes before the other active ones of its group. -/
theorem latest_spec (hid : UniqueIds rows) (h : row ∈ allLatestPrices rows time search) :
    row ∈ rows ∧ Selectable search time row ∧
      ∀ other ∈ rows, SameGroup row other → Selectable search time other → other.activityOrder ≤ row.activityOrder := by
  have htop := (mem_latest_iff hid).mp h
  obtain ⟨hrow, hcandidate⟩ := List.mem_filter.mp (Rows.mem_of_top htop)
  refine ⟨hrow, (isCandidate_iff.mp hcandidate).2, fun other hother hgroup hselectable => ?_⟩
  exact Rows.le_of_top htop (List.mem_filter.mpr ⟨hother, isCandidate_iff.mpr ⟨hgroup, hselectable⟩⟩)

/-- A group with an active price has one that is found. -/
theorem exists_latest (hid : UniqueIds rows) (ha : a ∈ rows) (hselectable : Selectable search time a) :
    ∃ row ∈ allLatestPrices rows time search, SameGroup a row := by
  have hmem : a ∈ rows.filter (isCandidate search time a) :=
    List.mem_filter.mpr ⟨ha, isCandidate_iff.mpr ⟨.refl a, hselectable⟩⟩
  cases htop : Rows.top (·.activityOrder) (rows.filter (isCandidate search time a)) with
  | none => simp [Rows.top_eq_none.mp htop] at hmem
  | some row =>
    have hgroup := (isCandidate_iff.mp (List.mem_filter.mp (Rows.mem_of_top htop)).2).1
    have hsame : isCandidate search time row = isCandidate search time a := by
      funext b
      rw [Bool.eq_iff_iff, isCandidate_iff, isCandidate_iff, hgroup.congr]
    exact ⟨row, (mem_latest_iff hid).mpr (by rw [hsame, htop]), hgroup⟩

/-- A price that no active one of its group exceeds may come first of all. -/
theorem latest_first (ha : a ∈ rows) (hselectable : Selectable search time a)
    (hbest : ∀ other ∈ rows, SameGroup a other → Selectable search time other → other.activityOrder ≤ a.activityOrder) :
    ∃ rows' : List Row, rows'.Perm rows ∧ (allLatestPrices rows' time search).head? = some a := by
  refine ⟨a :: rows.erase a, (List.perm_cons_erase ha).symm, ?_⟩
  have hcandidate : isCandidate search time a a := isCandidate_iff.mpr ⟨.refl a, hselectable⟩
  have htop : Rows.top (·.activityOrder) ((a :: rows.erase a).filter (isCandidate search time a)) = some a := by
    rw [List.filter_cons_of_pos hcandidate]
    apply Rows.top_cons_of_le
    intro other hother
    obtain ⟨hmem, hother⟩ := List.mem_filter.mp hother
    obtain ⟨hgroup, hselectable'⟩ := isCandidate_iff.mp hother
    exact hbest other (List.mem_of_mem_erase hmem) hgroup hselectable'
  unfold allLatestPrices
  rw [List.filter_cons_of_pos (by simp [htop])]
  rfl

end Searches

/-! ## Writes -/

/-- A row with the window that it was written with. -/
structure Price where
  row : Row
  written : Window
  deriving DecidableEq

abbrev PriceTable := Table (fun price : Price => price.row.id)

/-- Saves what the mapper makes of the price with this id, or of a new one. -/
def write (prices : PriceTable) (id : String) (dto : ItemPriceDTO) : PriceTable :=
  match prices.find id with
  | some old => prices.save
    ⟨stored (updateEntity old.row.load dto) old.row.activeStartAt old.row.activeExpireAt, dto.window⟩
  | none => prices.save ⟨stored (updateEntity (newItemPrice id) dto) none none, dto.window⟩

/-- `priceSearchDefaults`. -/
def priceSearchDefaults (dto : ItemPriceDTO) : ItemPriceDTO :=
  { dto with
    region := if dto.region = "" then "any" else dto.region
    variation := if dto.variation = "" then "default" else dto.variation }

/-- `setDefaultPrice`. A new row gets the id `newId`. -/
def setDefaultPrice (prices : PriceTable) (newId : String) (dto : ItemPriceDTO) : PriceTable :=
  let dto := { priceSearchDefaults dto with activityOrder := 0 }
  let exist := prices.rows.filter fun price => price.row.itemId = dto.itemId ∧ price.row.variation = dto.variation ∧
    price.row.region = dto.region ∧ price.row.currency = dto.currency ∧ price.row.activityOrder = dto.activityOrder
  write prices ((exist.head?.map fun price => price.row.id).getD newId) dto

inductive Action where
  | write (id : String) (dto : ItemPriceDTO)
  | setDefaultPrice (newId : String) (dto : ItemPriceDTO)
  | deletePrice (itemId priceId : String)

def step (prices : PriceTable) : Action → Option PriceTable
  | .write id dto => some (write prices id dto)
  | .setDefaultPrice newId dto => if prices.find newId = none then some (setDefaultPrice prices newId dto) else none
  | .deletePrice itemId priceId => some (prices.delete fun price => price.row.id = priceId ∧ price.row.itemId = itemId)

/-- The mapper drops the windows of the prices that are not defaults. -/
def Unbounded (prices : PriceTable) : Prop :=
  ∀ price ∈ prices.rows, price.row.activityOrder ≠ 0 → price.row.activeStartAt = none ∧ price.row.activeExpireAt = none

theorem stored_unbounded {entity : Loaded} {dto : ItemPriceDTO} {start expire : Option Time}
    (h : (stored (updateEntity entity dto) start expire).activityOrder ≠ 0) :
    (stored (updateEntity entity dto) start expire).activeStartAt = none ∧
      (stored (updateEntity entity dto) start expire).activeExpireAt = none := by
  by_cases horder : dto.activityOrder ≠ 0
  · simp [stored, updateEntity, horder, Nullish.assign]
  · simp [stored, updateEntity, horder] at h

theorem write_unbounded {prices : PriceTable} (hprices : Unbounded prices) (id : String) (dto : ItemPriceDTO) :
    Unbounded (write prices id dto) := by
  intro price hprice
  unfold write at hprice
  split at hprice <;> rcases Table.mem_save.mp hprice with rfl | ⟨hmem, -⟩
  · exact stored_unbounded
  · exact hprices price hmem
  · exact stored_unbounded
  · exact hprices price hmem

theorem step_unbounded {prices prices' : PriceTable} {action : Action} (hprices : Unbounded prices)
    (h : step prices action = some prices') : Unbounded prices' := by
  cases action with
  | write id dto =>
    obtain rfl := Option.some.inj h
    exact write_unbounded hprices id dto
  | setDefaultPrice newId dto =>
    simp only [step] at h
    split at h
    · obtain rfl := Option.some.inj h
      exact write_unbounded hprices _ _
    · cases h
  | deletePrice itemId priceId =>
    obtain rfl := Option.some.inj h
    intro price hprice
    exact hprices price (Table.mem_delete.mp hprice).1

theorem run_unbounded (actions : List Action) {prices : PriceTable}
    (hrun : Run.run step Table.empty actions = some prices) : Unbounded prices := by
  have hempty : Unbounded Table.empty := by
    intro price hprice
    simp [Table.empty] at hprice
  exact Run.run_invariant (fun _ _ _ => step_unbounded) hempty hrun

/-! ## Windows and what is found -/

/-- The search for the group of a row. -/
def searchOf (row : Row) : ItemPriceSearchDTO := ⟨row.itemId, some row.variation, some row.currency, some row.region⟩

/-- At the time, every group with a default has an active price, and no other price is found outside
of the window it was written with. The rows may come in any order. -/
def PriceWindows (prices : PriceTable) (time : Time) : Prop :=
  ∀ rows : List Row, rows.Perm (prices.rows.map (·.row)) →
    (∀ default ∈ rows, default.activityOrder = 0 →
      ∃ row ∈ allLatestPrices rows time (searchOf default), SameGroup default row) ∧
    (∀ search, ∀ price ∈ prices.rows, price.row ∈ allLatestPrices rows time search → price.row.activityOrder ≠ 0 →
      price.written.Contains time)

/-- Only the window of a default is stored. -/
def Row.Open (row : Row) (time : Time) : Prop := row.activityOrder ≠ 0 ∨ row.window.Contains (nowString time)

instance (row : Row) (time : Time) : Decidable (row.Open time) := by
  unfold Row.Open
  infer_instance

/-- The default of a group is in its window or not alone, and the first of the other prices is in the
window that it was written with. -/
def WindowsHold (prices : PriceTable) (time : Time) : Prop :=
  (∀ default ∈ prices.rows, default.row.activityOrder = 0 →
    default.row.region ≠ "" ∧ ∃ price ∈ prices.rows, SameGroup default.row price.row ∧ price.row.Open time) ∧
  (∀ price ∈ prices.rows, price.row.activityOrder ≠ 0 → price.row.region ≠ "" →
    (∀ other ∈ prices.rows, SameGroup price.row other.row → other.row.Open time →
      other.row.activityOrder ≤ price.row.activityOrder) →
    price.written.Contains time)

instance (prices : PriceTable) (time : Time) : Decidable (WindowsHold prices time) := by
  unfold WindowsHold
  infer_instance

section Windows

variable {prices : PriceTable} {time : Time} {rows : List Row} {row a b : Row}

theorem mem_rows (hrows : rows.Perm (prices.rows.map (·.row))) :
    row ∈ rows ↔ ∃ price ∈ prices.rows, price.row = row := by
  rw [hrows.mem_iff, List.mem_map]

theorem uniqueIds (hrows : rows.Perm (prices.rows.map (·.row))) : UniqueIds rows := by
  intro a ha b hb hid
  obtain ⟨price, hprice, rfl⟩ := (mem_rows hrows).mp ha
  obtain ⟨price', hprice', rfl⟩ := (mem_rows hrows).mp hb
  rw [Table.eq_of_key hprice hprice' hid]

theorem contains_iff_open (hprices : Unbounded prices) {price : Price} (hprice : price ∈ prices.rows) :
    price.row.window.Contains (nowString time) ↔ price.row.Open time := by
  constructor
  · exact Or.inr
  · rintro (horder | hcontains)
    · obtain ⟨hstart, hexpire⟩ := hprices price hprice horder
      simp [Window.Contains, Row.window, hstart, hexpire]
    · exact hcontains

/-- The rows of a group that its search selects. -/
theorem selectable_searchOf (hgroup : SameGroup a b) : Selectable (searchOf a) time b ↔
    a.region ≠ "" ∧ b.window.Contains (nowString time) := by
  obtain ⟨hregion, hcurrency, hitem, hvariation⟩ := hgroup
  by_cases hblank : a.region = ""
  · simp [Selectable, searchOf, regionDefault, truthy, ← hregion, hblank]
  · simp [Selectable, searchOf, regionDefault, truthy, filterBy, ← hregion, ← hcurrency, ← hitem, ← hvariation, hblank]

theorem region_of_selectable {search : ItemPriceSearchDTO} (h : Selectable search time row) : row.region ≠ "" :=
  h.2.2.1 ▸ regionDefault_truthy search

theorem windows_hold_of_found (hprices : Unbounded prices) (h : PriceWindows prices time) : WindowsHold prices time := by
  constructor
  · intro default hdefault horder
    obtain ⟨hfound, -⟩ := h _ (List.Perm.refl _)
    obtain ⟨row, hrow, hgroup⟩ := hfound default.row (List.mem_map_of_mem hdefault) horder
    obtain ⟨hmem, hselectable, -⟩ := latest_spec (uniqueIds (List.Perm.refl _)) hrow
    obtain ⟨hregion, hcontains⟩ := (selectable_searchOf hgroup).mp hselectable
    obtain ⟨price, hprice, rfl⟩ := List.mem_map.mp hmem
    exact ⟨hregion, price, hprice, hgroup, (contains_iff_open hprices hprice).mp hcontains⟩
  · intro price hprice horder hregion hbest
    have hmem : price.row ∈ prices.rows.map (·.row) := List.mem_map_of_mem hprice
    have hopen := (contains_iff_open hprices hprice).mpr (Or.inl horder : price.row.Open time)
    obtain ⟨rows, hrows, hhead⟩ := latest_first hmem ((selectable_searchOf (.refl _)).mpr ⟨hregion, hopen⟩) (by
      intro row hrow hgroup hselectable
      obtain ⟨other, hother, rfl⟩ := List.mem_map.mp hrow
      exact hbest other hother hgroup ((contains_iff_open hprices hother).mp hselectable.2.2.2.2))
    exact (h rows hrows).2 _ price hprice (List.mem_of_mem_head? hhead) horder

theorem found_of_windows_hold (hprices : Unbounded prices) (h : WindowsHold prices time) : PriceWindows prices time := by
  obtain ⟨hdefaults, hothers⟩ := h
  intro rows hrows
  constructor
  · intro row hrow horder
    obtain ⟨default, hdefault, rfl⟩ := (mem_rows hrows).mp hrow
    obtain ⟨hregion, price, hprice, hgroup, hopen⟩ := hdefaults default hdefault horder
    have hselectable : Selectable (searchOf default.row) time price.row :=
      (selectable_searchOf hgroup).mpr ⟨hregion, (contains_iff_open hprices hprice).mpr hopen⟩
    obtain ⟨row, hrow, hgroup'⟩ := exists_latest (uniqueIds hrows) ((mem_rows hrows).mpr ⟨price, hprice, rfl⟩) hselectable
    exact ⟨row, hrow, hgroup.congr.mpr hgroup'⟩
  · intro search price hprice hfound horder
    obtain ⟨-, hselectable, hbest⟩ := latest_spec (uniqueIds hrows) hfound
    refine hothers price hprice horder (region_of_selectable hselectable) fun other hother hgroup hopen => ?_
    apply hbest other.row ((mem_rows hrows).mpr ⟨other, hother, rfl⟩) hgroup
    obtain ⟨hregion, hcurrency, hitem, hvariation⟩ := hgroup
    obtain ⟨hitem', hvariation', hregion', hcurrency', -⟩ := hselectable
    exact ⟨hitem ▸ hitem', hvariation ▸ hvariation', hregion ▸ hregion', hcurrency ▸ hcurrency',
      (contains_iff_open hprices hother).mpr hopen⟩

end Windows

/-- **Price windows.** -/
theorem price_windows_iff (actions : List Action) (prices : PriceTable)
    (hrun : Run.run step Table.empty actions = some prices) (time : Time) :
    PriceWindows prices time ↔ WindowsHold prices time :=
  ⟨windows_hold_of_found (run_unbounded actions hrun), found_of_windows_hold (run_unbounded actions hrun)⟩

/-! A default price and a campaign that ends at 2000. -/

def defaultPrice : ItemPriceDTO := ⟨"item", "default", 100, "any", "TRY", 0, .undefined, .undefined⟩

def campaign : ItemPriceDTO := ⟨"item", "default", 80, "any", "TRY", 1, .value 0, .value 2000⟩

def priced : List Action := [.setDefaultPrice "a" defaultPrice, .write "b" campaign]

/-- The campaign never ends. -/
theorem campaign_outlives_window : ∃ prices, Run.run step Table.empty priced = some prices ∧
    ¬ PriceWindows prices 5000 := by
  refine ⟨_, rfl, fun hwindows => ?_⟩
  have hunbounded := run_unbounded priced rfl
  exact absurd (windows_hold_of_found hunbounded hwindows) (by decide +kernel)

/-- Within the window of the campaign. -/
theorem price_windows_sample : ∃ prices, Run.run step Table.empty priced = some prices ∧ PriceWindows prices 1500 := by
  refine ⟨_, rfl, ?_⟩
  rw [price_windows_iff priced _ rfl]
  decide +kernel

end Postral.Prices
