import Postral.Reports.Breakdown

/-!
# The quantities of report items

The columns of quantities hold integers, and the quantities of payment items have four decimals. A
digestion is exact as long as the quantities that it adds to a row make up an integer.
-/

open Check Session Run Rounding

namespace Postral.Reports

/-! ## The lines of a digestion -/

/-- The key of a row of report items. -/
abbrev ReportItemKey := String × String × String

/-- A line of a payment that goes into a row of report items. -/
structure DigestedLine where
  row : ReportItemKey
  type : PaymentType
  quantity : ℤ
  deriving DecidableEq

/-- The lines with the given items, in the rows of one account. -/
def linesOf (env : Env) (reportId account : String) (type : PaymentType) (items : List PaymentItem) : List DigestedLine :=
  items.filterMap fun item =>
    (generateKey env reportId item.itemId item.variation item.name).toOption.map fun key =>
      ⟨(reportId, account, key), type, item.quantity⟩

/-- The lines that a payment brings to the report of `owner`. Commission reports have no items. -/
def paymentLines (env : Env) (r : Report ℤ) (payment : Payment) (owner : String) : List DigestedLine :=
  if payment.includeInReportDigestion ∧ (r.reportType = .seller ∨ r.reportType = .platformFlow) then
    linesOf env r.id (reportAccountId (r.reportType.counted owner)) payment.type
      (itemsOf payment (r.reportType.counted owner))
  else []

/-- The lines that a relation brings to its report. -/
def digestedLines (env : Env) (db : Db) (relation : ReportPaymentRelation) : List DigestedLine :=
  match db.reports.find relation.reportId, db.payments.find relation.paymentId with
  | some r, some payment =>
    match ownerOf db r with
    | none | some "" => []
    | some owner => paymentLines env r payment owner
  | _, _ => []

/-- Sum of the quantities that were bought or refunded in a row. -/
def digestedQuantity (lines : List DigestedLine) (row : ReportItemKey) (type : PaymentType) : ℤ :=
  ((lines.filter fun line => line.row = row ∧ line.type = type).map (·.quantity)).sum

/-- The database with the lines that were digested into it. -/
structure Journal where
  db : Db
  lines : List DigestedLine

def Journal.start : Journal := ⟨Db.empty, []⟩

def journalStep (env : Env) (j : Journal) (action : DigestionAction) : Option Journal :=
  (digestionStep env j.db action).map fun db => match action with
    | .digest relation => ⟨db, j.lines ++ digestedLines env j.db relation⟩
    | _ => ⟨db, j.lines⟩

/-! ## The condition and the property -/

/-- The quantities that the lines add to each row are integers. -/
def WholeQuantities (lines : List DigestedLine) : Prop :=
  ∀ line ∈ lines, (10000 : ℤ) ∣ digestedQuantity lines line.row line.type

instance (lines : List DigestedLine) : Decidable (WholeQuantities lines) := by
  unfold WholeQuantities
  infer_instance

def WholeStep (env : Env) (j : Journal) : DigestionAction → Prop
  | .digest relation => WholeQuantities (digestedLines env j.db relation)
  | _ => True

instance (env : Env) (j : Journal) : DecidablePred (WholeStep env j) := fun action =>
  match action with
  | .digest relation => inferInstanceAs (Decidable (WholeQuantities (digestedLines env j.db relation)))
  | .findOrCreate .. | .environment _ => instDecidableTrue

/-- The stored quantities are the sums over the lines, in ten-thousandths. -/
structure QuantitiesExact (lines : List DigestedLine) (row : ReportItem ℤ) : Prop where
  purchased : 10000 * row.purchasedQuantity = digestedQuantity lines row.key .purchase
  refunded : 10000 * row.refundedQuantity = digestedQuantity lines row.key .refund
  net : 10000 * row.itemQuantity = digestedQuantity lines row.key .purchase - digestedQuantity lines row.key .refund

instance (lines : List DigestedLine) (row : ReportItem ℤ) : Decidable (QuantitiesExact lines row) :=
  decidable_of_iff _ ⟨fun h => ⟨h.1, h.2.1, h.2.2⟩, fun h => And.intro h.purchased (And.intro h.refunded h.net)⟩

/-! ## Sums of quantities -/

section Lines

variable {lines : List DigestedLine} {row : ReportItemKey} {type : PaymentType}

@[simp]
theorem digestedQuantity_nil (row : ReportItemKey) (type : PaymentType) : digestedQuantity [] row type = 0 := rfl

theorem digestedQuantity_append (lines lines' : List DigestedLine) (row : ReportItemKey) (type : PaymentType) :
    digestedQuantity (lines ++ lines') row type = digestedQuantity lines row type + digestedQuantity lines' row type := by
  simp [digestedQuantity]

theorem digestedQuantity_singleton (line : DigestedLine) (row : ReportItemKey) (type : PaymentType) :
    digestedQuantity [line] row type = if line.row = row ∧ line.type = type then line.quantity else 0 := by
  unfold digestedQuantity
  by_cases h : line.row = row ∧ line.type = type <;> simp [h]

theorem digestedQuantity_eq_zero (h : ∀ line ∈ lines, ¬ (line.row = row ∧ line.type = type)) :
    digestedQuantity lines row type = 0 := by
  unfold digestedQuantity
  rw [List.filter_eq_nil_iff.mpr fun line hline => by simpa using h line hline]
  rfl

/-- Rows without lines gain the integer 0. -/
theorem WholeQuantities.dvd (h : WholeQuantities lines) (row : ReportItemKey) (type : PaymentType) :
    (10000 : ℤ) ∣ digestedQuantity lines row type := by
  by_cases hline : ∃ line ∈ lines, line.row = row ∧ line.type = type
  · obtain ⟨line, hmem, rfl, rfl⟩ := hline
    exact h line hmem
  · rw [digestedQuantity_eq_zero fun line hmem heq => hline ⟨line, hmem, heq⟩]
    exact dvd_zero _

theorem linesOf_append (env : Env) (reportId account : String) (type : PaymentType) (items items' : List PaymentItem) :
    linesOf env reportId account type (items ++ items') =
      linesOf env reportId account type items ++ linesOf env reportId account type items' :=
  List.filterMap_append

theorem mem_linesOf {env : Env} {reportId account : String} {items : List PaymentItem} {line : DigestedLine}
    (h : line ∈ linesOf env reportId account type items) : ∃ key, line.row = (reportId, account, key) := by
  obtain ⟨item, -, hline⟩ := List.mem_filterMap.mp h
  obtain ⟨key, -, rfl⟩ := Option.map_eq_some_iff.mp hline
  exact ⟨key, rfl⟩

end Lines

/-! ## One payment -/

def ReportItem.quantity {α : Type} (row : ReportItem α) : PaymentType → α
  | .purchase => row.purchasedQuantity
  | .refund => row.refundedQuantity

/-- The stored quantity of a row. 0 where there is none. -/
def storedQuantity (db : Db) (row : ReportItemKey) (type : PaymentType) : ℤ := db.items.value (·.quantity type) row

theorem quantity_add_to_report_item (type side : PaymentType) (item : PaymentItem) (row : ReportItem ℚ) :
    (addToReportItem type item row).quantity side =
      row.quantity side + if type = side then fromColumn item.quantity else 0 := by
  cases type <;> cases side <;> simp [addToReportItem, ReportItem.quantity]

theorem net_quantity_add_to_report_item (type : PaymentType) (item : PaymentItem) (row : ReportItem ℚ) :
    (addToReportItem type item row).itemQuantity =
      (addToReportItem type item row).purchasedQuantity - (addToReportItem type item row).refundedQuantity := by
  cases type <;> simp [addToReportItem]

/-- `row` in memory has what `before` had stored in its row, and the lines. -/
structure CountsLines (before : Db) (lines : List DigestedLine) (key : ReportItemKey) (row : ReportItem ℚ) : Prop where
  quantity : ∀ side, row.quantity side = storedQuantity before key side + fromColumn (digestedQuantity lines key side)
  net : row.itemQuantity = row.purchasedQuantity - row.refundedQuantity

/-- The rows in memory count the lines that are done, and are stored. The other rows are as before. -/
structure Counted (before db : Db) (reportId account : String) (mapped : ItemMap) (lines : List DigestedLine) : Prop where
  memory : ∀ key row, mapped key = some row →
    db.items.find (reportId, account, key) = some row.store ∧ CountsLines before lines (reportId, account, key) row
  others : ∀ k, (∀ key, k = (reportId, account, key) → mapped key = none) →
    db.items.find k = before.items.find k ∧ ∀ line ∈ lines, line.row ≠ k

section Payment

variable {s t : Session HttpError Db} {before : Db} {env : Env} {reportId account : String} {type : PaymentType}
  {mapped mapped' : ItemMap} {item : PaymentItem} {lines : List DigestedLine}

/-- The row that the item is added to. -/
theorem report_item_before_counts (item : PaymentItem) (key : String) (hcounted : Counted before s.db reportId account mapped lines)
    (hnet : ∀ row ∈ before.items.rows, row.itemQuantity = row.purchasedQuantity - row.refundedQuantity) :
    (reportItemBefore s.db mapped reportId account key item).store.key = (reportId, account, key) ∧
      CountsLines before lines (reportId, account, key) (reportItemBefore s.db mapped reportId account key item) := by
  unfold reportItemBefore
  cases hmapped : mapped key with
  | some row =>
    obtain ⟨hfind, hcounts⟩ := hcounted.memory key row hmapped
    exact ⟨Table.key_of_find hfind, hcounts⟩
  | none =>
    obtain ⟨hsame, hnone⟩ := hcounted.others (reportId, account, key) (by rintro k ⟨⟩; exact hmapped)
    have hzero : ∀ side, digestedQuantity lines (reportId, account, key) side = 0 := fun side =>
      digestedQuantity_eq_zero fun line hline heq => hnone line hline heq.1
    rw [hsame]
    cases hfind : before.items.find (reportId, account, key) with
    | some row =>
      have hkey : row.key = (reportId, account, key) := Table.key_of_find hfind
      refine ⟨hkey, fun side => ?_, ?_⟩
      · rw [hzero, storedQuantity, Table.value, hfind]
        cases side <;> simp [ReportItem.load, ReportItem.map, ReportItem.quantity]
      · have hnet := hnet row (Table.mem_of_find hfind)
        simp [ReportItem.load, ReportItem.map, hnet]
    | none =>
      refine ⟨rfl, fun side => ?_, ?_⟩
      · rw [hzero, storedQuantity, Table.value, hfind]
        cases side <;> simp [newReportItem, ReportItem.quantity]
      · simp [newReportItem]

/-- One item of the payment. -/
theorem update_report_item_counts (hcounted : Counted before s.db reportId account mapped lines)
    (hnet : ∀ row ∈ before.items.rows, row.itemQuantity = row.purchasedQuantity - row.refundedQuantity)
    (h : Returns (updateReportItem env reportId account type mapped item) s mapped' t) :
    Counted before t.db reportId account mapped' (lines ++ linesOf env reportId account type [item]) := by
  obtain ⟨key, hkey, rfl, hdb⟩ := update_report_item_spec h
  obtain ⟨hrow, hcounts⟩ := report_item_before_counts item key hcounted hnet
  have hline : linesOf env reportId account type [item] = [⟨(reportId, account, key), type, item.quantity⟩] := by
    simp [linesOf, hkey, Except.toOption]
  rw [hline]
  generalize reportItemBefore s.db mapped reportId account key item = old at *
  have hstored := (add_to_report_item_key type item old).trans hrow
  have hafter : CountsLines before (lines ++ [⟨(reportId, account, key), type, item.quantity⟩]) (reportId, account, key)
      (addToReportItem type item old) := by
    refine ⟨fun side => ?_, net_quantity_add_to_report_item type item old⟩
    rw [quantity_add_to_report_item, hcounts.quantity, digestedQuantity_append, digestedQuantity_singleton,
      fromColumn_add, add_assoc]
    by_cases hside : type = side <;> simp [hside]
  generalize addToReportItem type item old = new at *
  refine ⟨fun k row hk => ?_, fun k hk => ?_⟩
  · rw [Function.update_apply] at hk
    rw [hdb, Table.find_save, hstored]
    split at hk <;> rename_i heq
    · obtain rfl := Option.some.inj hk
      subst heq
      exact ⟨if_pos rfl, hafter⟩
    · obtain ⟨hfind, hcounts'⟩ := hcounted.memory k row hk
      have hne : (reportId, account, k) ≠ (reportId, account, key) := by simpa using heq
      rw [if_neg hne]
      refine ⟨hfind, fun side => ?_, hcounts'.net⟩
      rw [hcounts'.quantity, digestedQuantity_append, digestedQuantity_singleton, if_neg fun h => hne h.1.symm, add_zero]
  · have hne : k ≠ (reportId, account, key) := by
      rintro rfl
      simpa using hk key rfl
    obtain ⟨hfind, hnone⟩ := hcounted.others k fun key' hkey' => by
      have hother := hk key' hkey'
      rwa [Function.update_of_ne] at hother
      rintro rfl
      exact hne hkey'
    refine ⟨by rw [hdb, Table.find_save_of_ne (by rwa [hstored]), hfind], fun line hmem => ?_⟩
    rcases List.mem_append.mp hmem with hmem | hmem
    · exact hnone line hmem
    · rw [List.mem_singleton.mp hmem]
      exact Ne.symm hne

theorem payment_items_counted {payment : Payment} {accountId : Option String} {u : Unit}
    (hnet : ∀ row ∈ s.db.items.rows, row.itemQuantity = row.purchasedQuantity - row.refundedQuantity)
    (h : Returns (updatePaymentItemReport env reportId payment accountId) s u t) :
    ∃ mapped, Counted s.db t.db reportId (reportAccountId accountId) mapped
      (linesOf env reportId (reportAccountId accountId) payment.type (itemsOf payment accountId)) := by
  unfold updatePaymentItemReport at h
  simp only [returns_bind, returns_pure] at h
  obtain ⟨mapped, w, hloop, -, rfl⟩ := h
  refine ⟨mapped, foldlM_invariant (fun done mapped db => Counted s.db db reportId (reportAccountId accountId) mapped
    (linesOf env reportId (reportAccountId accountId) payment.type done)) hloop ?_ ?_⟩
  · exact ⟨fun _ _ h => by simp at h, fun _ _ => ⟨rfl, by simp [linesOf]⟩⟩
  · rintro done item - mapped v mapped' v' hstep hcounted
    rw [linesOf_append]
    exact update_report_item_counts hcounted hnet hstep

/-- An integer that is stored is not rounded. -/
theorem toBigint_add {n m : ℤ} (h : (10000 : ℤ) ∣ m) : 10000 * toBigint (n + fromColumn m) = 10000 * n + m := by
  obtain ⟨q, rfl⟩ := h
  have hwhole : (n : ℚ) + fromColumn (10000 * q) = ((n + q : ℤ) : ℚ) := by
    unfold fromColumn
    push_cast
    ring
  rw [toBigint, hwhole, roundAway_intCast]
  ring

/-- What a payment adds to the rows, where the quantities are whole. -/
theorem counted_stored {db : Db} (hcounted : Counted before db reportId account mapped lines) (hwhole : WholeQuantities lines)
    (hnet : ∀ row ∈ before.items.rows, row.itemQuantity = row.purchasedQuantity - row.refundedQuantity) :
    (∀ k side, 10000 * storedQuantity db k side = 10000 * storedQuantity before k side + digestedQuantity lines k side) ∧
      ∀ row ∈ db.items.rows, row.itemQuantity = row.purchasedQuantity - row.refundedQuantity := by
  have hstore : ∀ {k : ReportItemKey} {row : ReportItem ℚ}, CountsLines before lines k row → ∀ side,
      10000 * row.store.quantity side = 10000 * storedQuantity before k side + digestedQuantity lines k side := by
    intro k row hcounts side
    have hquantity : row.store.quantity side = toBigint (row.quantity side) := by cases side <;> rfl
    rw [hquantity, hcounts.quantity, toBigint_add (hwhole.dvd k side)]
  constructor
  · intro k side
    by_cases hmapped : ∃ key row, k = (reportId, account, key) ∧ mapped key = some row
    · obtain ⟨key, row, rfl, hrow⟩ := hmapped
      obtain ⟨hfind, hcounts⟩ := hcounted.memory key row hrow
      rw [← hstore hcounts, storedQuantity, Table.value, hfind]
      rfl
    · obtain ⟨hfind, hnone⟩ := hcounted.others k fun key hkey => by
        by_contra hsome
        obtain ⟨row, hrow⟩ := Option.ne_none_iff_exists'.mp hsome
        exact hmapped ⟨key, row, hkey, hrow⟩
      rw [digestedQuantity_eq_zero fun line hline heq => hnone line hline heq.1, add_zero]
      unfold storedQuantity Table.value
      rw [hfind]
  · intro row hrow
    have hfind := Table.find_of_mem hrow
    by_cases hmapped : ∃ key new, row.key = (reportId, account, key) ∧ mapped key = some new
    · obtain ⟨key, new, hkey, hnew⟩ := hmapped
      obtain ⟨hfind', hcounts⟩ := hcounted.memory key new hnew
      rw [hkey, hfind'] at hfind
      obtain rfl := Option.some.inj hfind
      have hwholeRow := fun side => hwhole.dvd (reportId, account, key) side
      obtain ⟨p, hp⟩ := hwholeRow .purchase
      obtain ⟨q, hq⟩ := hwholeRow .refund
      have hpurchase : new.purchasedQuantity = _ := hcounts.quantity .purchase
      have hrefund : new.refundedQuantity = _ := hcounts.quantity .refund
      have hint : ∀ n m : ℤ, (n : ℚ) + fromColumn (10000 * m) = ((n + m : ℤ) : ℚ) := by
        intro n m
        unfold fromColumn
        push_cast
        ring
      rw [hp, hint] at hpurchase
      rw [hq, hint] at hrefund
      show toBigint new.itemQuantity = toBigint new.purchasedQuantity - toBigint new.refundedQuantity
      rw [hcounts.net, hpurchase, hrefund, ← Int.cast_sub]
      simp only [toBigint, roundAway_intCast]
    · obtain ⟨hsame, -⟩ := hcounted.others row.key fun key hkey => by
        by_contra hsome
        obtain ⟨new, hnew⟩ := Option.ne_none_iff_exists'.mp hsome
        exact hmapped ⟨key, new, hkey, hnew⟩
      rw [hsame] at hfind
      exact hnet row (Table.mem_of_find hfind)

end Payment

/-! ## One digestion -/

section Digestion

variable {s t : Session HttpError Db} {env : Env} {r : Report ℤ} {payment : Payment} {owner : String} {u : Unit}

/-- The other updates of a digestion leave the items alone. -/
theorem breakdown_items (htype : r.reportType.HasBreakdown)
    (h : Returns (digestReport env r.load payment owner) s u t) :
    ∃ a b : Session HttpError Db, a.db.items = s.db.items ∧ t.db.items = b.db.items ∧
      Returns (updatePaymentItemReport env r.id payment (r.reportType.counted owner)) a () b := by
  have hrows : ∀ {report : Report ℚ} {accountId : Option String} {platform : PlatformSource} {c : Session HttpError Db},
      OnlyExpenses s.db c.db → report.Loaded r → Returns (do
        digestTotals report payment accountId owner
        updateTaxGroupReportByPaymentAndAccountId r.id payment accountId
        updatePaymentItemReport env r.id payment accountId
        updatePlatformReport r.id payment platform accountId) c u t →
      ∃ a b : Session HttpError Db, a.db.items = s.db.items ∧ t.db.items = b.db.items ∧
        Returns (updatePaymentItemReport env r.id payment accountId) a () b := by
    intro report accountId platform c honly hloaded h
    simp only [returns_bind] at h
    obtain ⟨_, d, htotals, _, a, htax, _, b, hitems, hplatforms⟩ := h
    obtain ⟨expenses, hc⟩ := honly
    obtain ⟨⟨groups, ha⟩, -⟩ := tax_groups_spec htax
    obtain ⟨⟨platforms, ht⟩, -⟩ := platforms_spec hplatforms
    refine ⟨a, b, ?_, ?_, hitems⟩
    · rw [ha, digest_totals_spec hloaded htotals, hc]
    · rw [ht]
  unfold digestReport at h
  have hload : r.load.reportType = r.reportType := rfl
  rcases htype with htype | htype
  · rw [hload, htype] at h
    simp only at h
    obtain ⟨platform, a, hresolve, h⟩ := returns_bind.mp h
    obtain ⟨_, b, hexpenses, h⟩ := returns_bind.mp h
    obtain ⟨_, c, hfees, h⟩ := returns_bind.mp h
    have honly := (update_expenses_only hexpenses).trans (seller_fees_only hfees)
    rw [resolve_spec hresolve] at honly
    rw [htype]
    exact hrows honly (loaded_load r) h
  · rw [hload, htype] at h
    simp only at h
    obtain ⟨platform, a, hresolve, h⟩ := returns_bind.mp h
    obtain ⟨_, b, hexpenses, h⟩ := returns_bind.mp h
    obtain ⟨_, c, hfees, h⟩ := returns_bind.mp h
    obtain ⟨report, d, hrounding, h⟩ := returns_bind.mp h
    obtain ⟨hloaded, honly⟩ := refund_rounding_only (loaded_load r) hrounding
    have honly := ((update_expenses_only hexpenses).trans (platform_fees_only hfees)).trans honly
    rw [resolve_spec hresolve] at honly
    obtain ⟨_, rfl⟩ := hloaded
    rw [htype]
    exact hrows honly ⟨_, rfl⟩ h

/-- The stored quantities are those of the lines, and the net quantities their differences. -/
structure Journal.Exact (db : Db) (lines : List DigestedLine) : Prop where
  quantity : ∀ k side, 10000 * storedQuantity db k side = digestedQuantity lines k side
  net : ∀ row ∈ db.items.rows, row.itemQuantity = row.purchasedQuantity - row.refundedQuantity

theorem Journal.Exact.congr {db db' : Db} {lines : List DigestedLine} (h : Exact db lines) (hitems : db'.items = db.items) :
    Exact db' lines := by
  refine ⟨fun k side => ?_, hitems ▸ h.net⟩
  unfold storedQuantity
  rw [hitems]
  exact h.quantity k side

theorem exact_payment {lines : List DigestedLine} (hexact : Journal.Exact s.db lines)
    (hwhole : WholeQuantities (paymentLines env r payment owner))
    (h : Returns (digestIncluded env r.load payment owner) s u t) :
    Journal.Exact t.db (lines ++ paymentLines env r payment owner) := by
  unfold digestIncluded at h
  unfold paymentLines at hwhole ⊢
  split at h <;> rename_i hincluded
  · by_cases htype : r.reportType.HasBreakdown
    · rw [if_pos ⟨hincluded, htype⟩] at hwhole ⊢
      obtain ⟨a, b, ha, hb, hitems⟩ := breakdown_items htype h
      have hexact := hexact.congr ha
      obtain ⟨mapped, hcounted⟩ := payment_items_counted hexact.net hitems
      obtain ⟨hquantity, hnet⟩ := counted_stored hcounted hwhole hexact.net
      have hexact' : Journal.Exact b.db (lines ++ linesOf env r.id (reportAccountId (r.reportType.counted owner))
          payment.type (itemsOf payment (r.reportType.counted owner))) := by
        refine ⟨fun k side => ?_, hnet⟩
        rw [hquantity, hexact.quantity, digestedQuantity_append]
      exact hexact'.congr hb
    · rw [if_neg fun h => htype h.2, List.append_nil]
      exact hexact.congr (digest_platform_spec htype h).1
  · rw [if_neg fun h => hincluded h.1, List.append_nil, ← (returns_pure.mp h).2]
    exact hexact

/-- A query with an empty owner is skipped. -/
theorem digest_relation_blank {relation : ReportPaymentRelation} (hr : s.db.reports.find relation.reportId = some r)
    (howner : ownerOf s.db r = some "") (h : Returns (digestRelation env relation) s u t) : t.db = s.db := by
  unfold digestRelation at h
  simp only [returns_bind, returns_check, orThrow_eq_ok] at h
  obtain ⟨found, v, hpayment, _, _, ⟨-, rfl⟩, fresh, w, hfresh, h⟩ := h
  obtain ⟨-, hv⟩ := returns_find hpayment
  obtain ⟨rfl, hw⟩ := returns_find hfresh
  have hread : freshReport relation.reportId v.db = some (r.load, some "") := by
    rw [hv, freshReport, hr, ← howner]
    rfl
  rw [hread] at h
  rw [← (returns_pure.mp h).2, hw, hv]

theorem exact_digestion {relation : ReportPaymentRelation} {lines : List DigestedLine} (hexact : Journal.Exact s.db lines)
    (hwhole : WholeQuantities (digestedLines env s.db relation)) (h : Returns (digestRelation env relation) s u t) :
    Journal.Exact t.db (lines ++ digestedLines env s.db relation) := by
  rcases digest_relation_spec h with ⟨hdb, hskip⟩ | ⟨r, payment, account, hdigested⟩
  · have hnil : digestedLines env s.db relation = [] := by
      unfold digestedLines
      split
      · rename_i r payment hr _
        rcases hskip r hr with howner | howner <;> simp [howner]
      · rfl
    rw [hnil, List.append_nil, hdb]
    exact hexact
  · have hlines : digestedLines env s.db relation = if account = "" then [] else paymentLines env r payment account := by
      unfold digestedLines
      simp only [hdigested.findReport, hdigested.findPayment, hdigested.owner]
      by_cases hblank : account = "" <;> simp [hblank]
    rw [hlines] at hwhole ⊢
    split at hwhole <;> rename_i hblank
    · subst hblank
      rw [if_pos rfl, List.append_nil, digest_relation_blank hdigested.findReport hdigested.owner h]
      exact hexact
    · obtain ⟨v, w, hv, hdigest, hdb⟩ := hdigested.updates
      rw [if_neg hblank, hdb]
      rw [← hv] at hexact
      exact (exact_payment hexact hwhole hdigest).congr rfl

end Digestion

/-! ## Runs -/

theorem exact_step {env : Env} {j j' : Journal} {action : DigestionAction} (hexact : Journal.Exact j.db j.lines)
    (hwhole : WholeStep env j action) (h : journalStep env j action = some j') : Journal.Exact j'.db j'.lines := by
  obtain ⟨db, hstep, rfl⟩ := Option.map_eq_some_iff.mp h
  cases action with
  | digest relation =>
    obtain ⟨_, t, hdigest, rfl⟩ := outcome_eq_some.mp hstep
    exact exact_digestion (s := { db := j.db }) hexact hwhole hdigest
  | findOrCreate query periodLabel currency id =>
    obtain ⟨_, t, hcreate, rfl⟩ := outcome_eq_some.mp hstep
    rcases find_or_create_spec hcreate with ⟨-, hdb⟩ | ⟨-, -, hdb⟩
    · exact hexact.congr (by rw [hdb])
    · exact hexact.congr (by rw [hdb])
  | environment other =>
    obtain rfl : other.withReportsOf j.db = db := Option.some.inj hstep
    exact hexact.congr rfl

def weighedItem (id : String) (quantity : ℤ) : PaymentItem :=
  { sampleItem id "flour" 110000 10000 100000 with quantity := quantity }

def weighedActions (lines : List PaymentItem) : List DigestionAction :=
  [.environment { Db.empty with
      queries := Table.empty.save ⟨"query", some "seller", some "TRY", .daily, .seller⟩
      payments := Table.empty.save (samplePayment "sale" .purchase (Table.empty.saveAll lines))
      orders := Table.empty.save ⟨"sale", "seller", 110000⟩ },
    .findOrCreate ⟨"query", some "seller", some "TRY", .daily, .seller⟩ "2026-01-05" "TRY" "report",
    .digest ⟨"report", "sale", some "seller", .digesting, "run"⟩]

end Postral.Reports
