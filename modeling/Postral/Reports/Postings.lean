import Postral.Lib.Posting
import Postral.Reports.Expenses
import Postral.Reports.SellerJournal

/-!
# What a payment posts to the rows of a report

The rows of one report are cells under the rest of their key.
-/

open Check Session Run Rounding Posting

namespace Postral.Reports

variable {s t : Session HttpError Db} {payment : Payment} {reportId : String} {accountId : Option String}

/-! ## Tax groups -/

/-- The tax groups of a report, by percent and currency. -/
def taxGroupRows (id : String) (db : Db) : ℚ × String → Option (ReportTaxGroup ℤ) := fun k => db.taxGroups.find (id, k)

def addToTaxGroup (id : String) (k : ℚ × String) (added : Total → ℤ) (row : Option (ReportTaxGroup ℤ)) :
    Option (ReportTaxGroup ℤ) :=
  let group := row.getD (newTaxGroup id k.1 k.2)
  some { group with toBaseReport := group.digest added }

def taxGroupEntries (payment : Payment) (accountId : Option String) : List ((ℚ × String) × (Total → ℤ)) :=
  (taxPercents (itemsOf payment accountId)).map fun percentGroup =>
    ((percentGroup, payment.currency), totalsOf payment.type (itemsInGroup payment accountId percentGroup))

theorem BaseReport.digest_comm (r : BaseReport ℤ) (a b : Total → ℤ) : (r.digest a).digest b = (r.digest b).digest a := by
  simp [BaseReport.digest, BaseReport.add, BaseReport.netted, add_right_comm]

theorem add_to_tax_group_comm (id : String) (k : ℚ × String) (a b : Total → ℤ) (row : Option (ReportTaxGroup ℤ)) :
    addToTaxGroup id k a (addToTaxGroup id k b row) = addToTaxGroup id k b (addToTaxGroup id k a row) := by
  simp only [addToTaxGroup, Option.getD_some]
  rw [BaseReport.digest_comm]

/-- Cells of a table that take a saved row. -/
theorem find_save_pair {κ ρ : Type} [DecidableEq κ] {key : ρ → String × κ} (table : Table key) {row : ρ} {id : String} {k : κ}
    (hkey : key row = (id, k)) (id' : String) :
    (fun k' => (table.save row).find (id', k')) =
      if id' = id then Function.update (fun k' => table.find (id', k')) k (some row) else fun k' => table.find (id', k') := by
  funext k'
  rw [Table.find_save, hkey]
  by_cases hid : id' = id
  · by_cases hk : k' = k <;> simp [hid, hk]
  · simp [hid]

theorem tax_groups_posted {u : Unit} (h : Returns (updateTaxGroupReportByPaymentAndAccountId reportId payment accountId) s u t)
    (id : String) : taxGroupRows id t.db =
      if id = reportId then posts (addToTaxGroup id) (taxGroupEntries payment accountId) (taxGroupRows id s.db)
      else taxGroupRows id s.db := by
  unfold updateTaxGroupReportByPaymentAndAccountId at h
  refine forM_invariant (fun done db => taxGroupRows id db = if id = reportId then
      posts (addToTaxGroup id) (done.map fun percentGroup =>
        ((percentGroup, payment.currency), totalsOf payment.type (itemsInGroup payment accountId percentGroup)))
        (taxGroupRows id s.db)
      else taxGroupRows id s.db) h ?_ ?_
  · simp
  · intro done percentGroup _ v w w' hstep hdone
    have hw := update_tax_group_spec hstep
    have hkey := taxGroupAfter_key w.db reportId payment accountId percentGroup
    have hsave := find_save_pair w.db.taxGroups hkey id
    unfold taxGroupRows at hdone hsave ⊢
    rw [hw, hsave, hdone]
    by_cases hid : id = reportId
    · subst hid
      rw [if_pos rfl] at hdone
      rw [if_pos rfl, if_pos rfl, if_pos rfl, List.map_append, posts_append, ← hdone]
      rfl
    · simp [hid]

/-! ## Platforms -/

/-- The platforms of a report, by account and key. -/
def platformRows (id : String) (db : Db) : String × String → Option (ReportPlatform ℤ) := fun k => db.platforms.find (id, k)

/-- The source that a key stands for. -/
def sourceOfKey (db : Db) (platformKey : String) : PlatformSource :=
  if platformKey = postralInstance then ⟨postralInstance, "Postral", none⟩
  else ((db.externalPlatforms.find platformKey).map fun platform => ⟨platform.code, platform.name, some platform.id⟩).getD
    ⟨platformKey, "", none⟩

/-- The platform of a payment that resolves. -/
def reportPlatformOf (db : Db) (payment : Payment) : PlatformSource :=
  sourceOfKey db ((platformKeyOf db payment).getD postralInstance)

theorem resolve_source {platform : PlatformSource} (h : Returns (resolveReportPlatform payment) s platform t) :
    platform = reportPlatformOf s.db payment := by
  unfold resolveReportPlatform at h
  unfold reportPlatformOf
  split at h <;> rename_i hid
  · obtain ⟨rfl, -⟩ := returns_pure.mp h
    simp [platformKeyOf, hid, sourceOfKey]
  · obtain ⟨rfl, -⟩ := returns_pure.mp h
    simp [platformKeyOf, hid, sourceOfKey]
  · rename_i hne
    simp only [returns_bind, returns_check, returns_pure, orThrow_eq_ok] at h
    obtain ⟨found, v, hfind, valid, _, ⟨hvalid, rfl⟩, rfl, rfl⟩ := h
    obtain ⟨hfound, -⟩ := returns_find hfind
    obtain ⟨hsome, hcode⟩ := Option.filter_eq_some_iff.mp hvalid
    rw [hfound] at hsome
    have hne' : valid.code ≠ postralInstance := (of_decide_eq_true hcode).2
    rw [platformKeyOf_some hid hne, hsome]
    simp only [Option.map_some, Option.getD_some, sourceOfKey]
    rw [if_neg hne', Table.find_of_mem (List.mem_of_find?_eq_some hsome)]
    rfl

/-- What a payment brings to a platform. -/
structure PlatformEntry where
  type : PaymentType
  items : List PaymentItem

def addToPlatform (db : Db) (id : String) (k : String × String) (entry : PlatformEntry) (row : Option (ReportPlatform ℤ)) :
    Option (ReportPlatform ℤ) :=
  some ((row.getD (newReportPlatform id k.1 (sourceOfKey db k.2))).digest entry.type entry.items)

def platformEntries (db : Db) (payment : Payment) (accountId : Option String) : List ((String × String) × PlatformEntry) :=
  if itemsOf payment accountId = [] then []
  else [((reportAccountId accountId, (reportPlatformOf db payment).platformKey), ⟨payment.type, itemsOf payment accountId⟩)]

theorem ReportPlatform.digest_comm (p : ReportPlatform ℤ) (x y : PlatformEntry) :
    (p.digest x.type x.items).digest y.type y.items = (p.digest y.type y.items).digest x.type x.items := by
  obtain ⟨type, items⟩ := x
  obtain ⟨type', items'⟩ := y
  cases type <;> cases type' <;>
    simp [ReportPlatform.digest, ReportPlatform.add, ReportPlatform.netted, ReportPlatform.counted, quantitiesOf,
      add_right_comm]

theorem add_to_platform_comm (db : Db) (id : String) (k : String × String) (a b : PlatformEntry)
    (row : Option (ReportPlatform ℤ)) :
    addToPlatform db id k a (addToPlatform db id k b row) = addToPlatform db id k b (addToPlatform db id k a row) := by
  simp only [addToPlatform, Option.getD_some]
  rw [ReportPlatform.digest_comm]

theorem source_of_key (db : Db) (payment : Payment) :
    sourceOfKey db (reportPlatformOf db payment).platformKey = reportPlatformOf db payment := by
  unfold reportPlatformOf
  generalize (platformKeyOf db payment).getD postralInstance = key
  have hkey : (sourceOfKey db key).platformKey = key := by
    unfold sourceOfKey
    split <;> rename_i hinstance
    · exact hinstance.symm
    · cases hfind : db.externalPlatforms.find key with
      | none => rfl
      | some platform =>
        have hcode : platform.code = key := Table.key_of_find hfind
        exact hcode
  rw [hkey]

theorem platforms_posted {u : Unit}
    (h : Returns (updatePlatformReport reportId payment (reportPlatformOf s.db payment) accountId) s u t) (id : String) :
    platformRows id t.db =
      if id = reportId then posts (addToPlatform s.db id) (platformEntries s.db payment accountId) (platformRows id s.db)
      else platformRows id s.db := by
  unfold platformEntries
  rcases update_platform_report_spec h with ⟨hitems, hdb⟩ | ⟨hitems, -, hdb⟩
  · rw [hdb, if_pos hitems]
    simp
  · have hkey := (digest_key _ payment.type (itemsOf payment accountId)).trans
      (platformBefore_key s.db reportId accountId (reportPlatformOf s.db payment))
    have hsave := find_save_pair s.db.platforms hkey id
    unfold platformRows at hsave ⊢
    rw [hdb, hsave, if_neg hitems]
    by_cases hid : id = reportId
    · subst hid
      rw [if_pos rfl, if_pos rfl, posts_cons, posts_nil, post]
      congr 1
      simp only [addToPlatform, platformBefore, source_of_key]
    · simp [hid]

/-! ## Items -/

section Items

variable {α β : Type}

/-- The amounts of an item. They are never rounded. -/
def ReportItem.amounts [Zero α] (row : ReportItem α) : ReportItem α :=
  { row with
    itemId := ""
    identifiedByName := false
    itemName := ""
    itemVariation := ""
    itemQuantity := 0
    itemDiscountAmount := 0
    purchasedQuantity := 0
    purchasedDiscountAmount := 0
    refundedQuantity := 0
    refundedDiscountAmount := 0 }

def blankItem [Zero α] (reportId accountId key : String) : ReportItem α where
  reportId := reportId
  accountId := accountId
  reportItemKey := key
  itemId := ""
  identifiedByName := false
  itemName := ""
  itemVariation := ""
  itemQuantity := 0
  itemTotalAmount := 0
  itemTaxAmount := 0
  itemDiscountAmount := 0
  itemComissionAmount := 0
  purchasedQuantity := 0
  purchasedTotalAmount := 0
  purchasedTaxAmount := 0
  purchasedDiscountAmount := 0
  purchasedComissionAmount := 0
  refundedQuantity := 0
  refundedTotalAmount := 0
  refundedTaxAmount := 0
  refundedDiscountAmount := 0
  refundedComissionAmount := 0

end Items

/-- The amounts of a report's items, by account and key. -/
def itemRows (id : String) (db : Db) : String × String → Option (ReportItem ℤ) := fun k =>
  (db.items.find (id, k)).map ReportItem.amounts

structure ItemEntry where
  type : PaymentType
  item : PaymentItem

/-- `addToReportItem` on the amounts. -/
def ReportItem.post (row : ReportItem ℤ) (entry : ItemEntry) : ReportItem ℤ :=
  let row := match entry.type with
    | .purchase => { row with
        purchasedTotalAmount := row.purchasedTotalAmount + entry.item.totalAmount
        purchasedComissionAmount := row.purchasedComissionAmount + entry.item.appComissionAmount
        purchasedTaxAmount := row.purchasedTaxAmount + entry.item.taxAmount }
    | .refund => { row with
        refundedTotalAmount := row.refundedTotalAmount + entry.item.totalAmount
        refundedComissionAmount := row.refundedComissionAmount + entry.item.appComissionAmount
        refundedTaxAmount := row.refundedTaxAmount + entry.item.taxAmount }
  { row with
    itemComissionAmount := row.purchasedComissionAmount - row.refundedComissionAmount
    itemTaxAmount := row.purchasedTaxAmount - row.refundedTaxAmount
    itemTotalAmount := row.purchasedTotalAmount - row.refundedTotalAmount }

def addToItem (id : String) (k : String × String) (entry : ItemEntry) (row : Option (ReportItem ℤ)) :
    Option (ReportItem ℤ) :=
  some ((row.getD (blankItem id k.1 k.2)).post entry)

def itemKeyOf (env : Env) (id : String) (item : PaymentItem) : String :=
  ((generateKey env id item.itemId item.variation item.name).toOption).getD ""

def itemEntries (env : Env) (id : String) (payment : Payment) (accountId : Option String) :
    List ((String × String) × ItemEntry) :=
  (itemsOf payment accountId).map fun item =>
    ((reportAccountId accountId, itemKeyOf env id item), ⟨payment.type, item⟩)

theorem ReportItem.post_comm (row : ReportItem ℤ) (x y : ItemEntry) : (row.post x).post y = (row.post y).post x := by
  obtain ⟨type, item⟩ := x
  obtain ⟨type', item'⟩ := y
  cases type <;> cases type' <;> simp [ReportItem.post, add_right_comm]

theorem add_to_item_comm (id : String) (k : String × String) (a b : ItemEntry) (row : Option (ReportItem ℤ)) :
    addToItem id k a (addToItem id k b row) = addToItem id k b (addToItem id k a row) := by
  simp only [addToItem, Option.getD_some]
  rw [ReportItem.post_comm]

/-- The amounts in memory are those of `stored`. -/
def ReportItem.Holds (row : ReportItem ℚ) (stored : ReportItem ℤ) : Prop := row.amounts = stored.load

theorem amounts_map {f g : ℤ → ℚ} (hf : f 0 = 0) (hg : g 0 = 0) (row : ReportItem ℤ) :
    (row.map f g).amounts = row.amounts.map f g := by
  simp [ReportItem.amounts, ReportItem.map, hf, hg]

theorem holds_load (row : ReportItem ℤ) : row.load.Holds row.amounts := amounts_map fromColumn_zero rfl row

theorem store_load (row : ReportItem ℤ) : row.load.store = row := by
  simp [ReportItem.store, ReportItem.load, ReportItem.map, toBigint]

theorem store_amounts (row : ReportItem ℚ) : row.amounts.store = row.store.amounts := by
  have hcolumn : toColumn 0 = 0 := by simp [toColumn]
  have hbigint : toBigint 0 = 0 := roundAway_zero
  simp [ReportItem.store, ReportItem.amounts, ReportItem.map, hcolumn, hbigint]

theorem ReportItem.Holds.store {row : ReportItem ℚ} {stored : ReportItem ℤ} (h : row.Holds stored) :
    row.store.amounts = stored := by
  rw [← store_amounts, h, store_load]

theorem ReportItem.Holds.post {row : ReportItem ℚ} {stored : ReportItem ℤ} (h : row.Holds stored) (entry : ItemEntry) :
    (addToReportItem entry.type entry.item row).Holds (stored.post entry) := by
  obtain ⟨type, item⟩ := entry
  have hrow : (addToReportItem type item row).amounts = (addToReportItem type item row.amounts).amounts := by
    cases type <;> rfl
  have hload : (addToReportItem type item stored.load).amounts = (stored.post ⟨type, item⟩).amounts.load := by
    cases type <;>
      simp [addToReportItem, ReportItem.post, ReportItem.amounts, ReportItem.load, ReportItem.map, fromColumn_add, fromColumn_sub]
  have hamounts : (stored.post ⟨type, item⟩).amounts = stored.amounts.post ⟨type, item⟩ := by
    cases type <;> rfl
  have hstored : stored.amounts = stored := by
    rw [← h.store]
    rfl
  unfold ReportItem.Holds at h ⊢
  rw [hrow, h, hload, hamounts, hstored]

/-- The rows in memory have the amounts of the stored ones. -/
def Held (db : Db) (reportId account : String) (mapped : ItemMap) : Prop :=
  ∀ key row, mapped key = some row → db.items.find (reportId, account, key) = some row.store ∧ row.Holds row.store.amounts

theorem report_item_before_holds {db : Db} {account : String} {mapped : ItemMap} (key : String) (item : PaymentItem)
    (hheld : Held db reportId account mapped) :
    (reportItemBefore db mapped reportId account key item).store.key = (reportId, account, key) ∧
      (reportItemBefore db mapped reportId account key item).Holds
        ((itemRows reportId db (account, key)).getD (blankItem reportId account key)) := by
  unfold reportItemBefore itemRows
  cases hmapped : mapped key with
  | some row =>
    obtain ⟨hfind, hholds⟩ := hheld key row hmapped
    rw [hfind]
    exact ⟨Table.key_of_find hfind, hholds⟩
  | none =>
    cases hfind : db.items.find (reportId, account, key) with
    | some row =>
      have hkey : row.key = (reportId, account, key) := Table.key_of_find hfind
      exact ⟨hkey, holds_load row⟩
    | none =>
      refine ⟨rfl, ?_⟩
      simp [ReportItem.Holds, newReportItem, blankItem, ReportItem.amounts, ReportItem.load, ReportItem.map]

theorem item_posted {env : Env} {account : String} {type : PaymentType} {mapped mapped' : ItemMap} {item : PaymentItem}
    (hheld : Held s.db reportId account mapped)
    (h : Returns (updateReportItem env reportId account type mapped item) s mapped' t) :
    Held t.db reportId account mapped' ∧ ∀ id, itemRows id t.db =
      if id = reportId then post (addToItem id) (itemRows id s.db) ((account, itemKeyOf env id item), ⟨type, item⟩)
      else itemRows id s.db := by
  obtain ⟨key, hgenerated, rfl, hdb⟩ := update_report_item_spec h
  obtain ⟨hkey, hbefore⟩ := report_item_before_holds key item hheld
  have hafter := hbefore.post ⟨type, item⟩
  have hkey' := (add_to_report_item_key type item _).trans hkey
  dsimp only at hafter
  generalize addToReportItem type item (reportItemBefore s.db mapped reportId account key item) = after at hafter hkey' hdb ⊢
  have hsave := find_save_pair s.db.items hkey'
  constructor
  · intro k row hrow
    rw [hdb, Table.find_save, hkey']
    rw [Function.update_apply] at hrow
    split at hrow <;> rename_i hk
    · obtain rfl := Option.some.inj hrow
      subst hk
      refine ⟨if_pos rfl, ?_⟩
      rw [hafter.store]
      exact hafter
    · rw [if_neg (by simpa using hk)]
      exact hheld k row hrow
  · intro id
    have hrows : itemRows id t.db = fun k' => ((s.db.items.save after.store).find (id, k')).map ReportItem.amounts := by
      rw [hdb]
      rfl
    rw [hrows]
    by_cases hid : id = reportId
    · subst hid
      have hgenerated' : itemKeyOf env id item = key := by
        rw [itemKeyOf, hgenerated]
        rfl
      rw [if_pos rfl, hgenerated']
      funext k'
      have hcell := congrFun (hsave id) k'
      rw [if_pos rfl] at hcell
      rw [hcell]
      unfold post
      by_cases hk : k' = (account, key)
      · simp [hk, addToItem, hafter.store]
      · simp [hk, itemRows]
    · rw [if_neg hid]
      funext k'
      have hcell := congrFun (hsave id) k'
      rw [if_neg hid] at hcell
      rw [hcell]
      rfl

theorem items_posted {env : Env} {u : Unit} (h : Returns (updatePaymentItemReport env reportId payment accountId) s u t)
    (id : String) : itemRows id t.db =
      if id = reportId then posts (addToItem id) (itemEntries env id payment accountId) (itemRows id s.db)
      else itemRows id s.db := by
  unfold updatePaymentItemReport at h
  simp only [returns_bind, returns_pure] at h
  obtain ⟨mapped, w, hloop, -, rfl⟩ := h
  refine (foldlM_invariant (fun done mapped db => Held db reportId (reportAccountId accountId) mapped ∧
    itemRows id db = if id = reportId then
      posts (addToItem id) (done.map fun item =>
        ((reportAccountId accountId, itemKeyOf env id item), ⟨payment.type, item⟩)) (itemRows id s.db)
      else itemRows id s.db) hloop ?_ ?_).2
  · exact ⟨fun _ _ h => by simp at h, by simp⟩
  · rintro done item - mapped v mapped' v' hstep ⟨hheld, hdone⟩
    obtain ⟨hheld', hposted⟩ := item_posted hheld hstep
    refine ⟨hheld', ?_⟩
    rw [hposted, hdone]
    by_cases hid : id = reportId
    · simp [hid, posts_append]
    · simp [hid]

/-! ## Expenses -/

/-- The expense amounts of a report, by account and key. -/
def expenseRows (id : String) (db : Db) : String × String → ℤ := fun k => storedAmount db id k.1 k.2

/-- What the rows of an account gain. -/
def accountGrowth (account : String) (added : String → ℚ) : String × String → ℤ :=
  fun k => if k.1 = account then toColumn (added k.2) else 0

theorem Raised.posted {db db' : Db} {account : String} {added : String → ℚ} (h : Raised db db' reportId account added)
    (hround : ∀ k, RoundsAlike (added k) (storedAmount db reportId account k)) (id : String) :
    expenseRows id db' = if id = reportId then expenseRows id db + accountGrowth account added else expenseRows id db := by
  have hothers : ∀ a k, (id, a) ≠ (reportId, account) → storedAmount db' id a k = storedAmount db id a k := by
    intro a k hne
    unfold storedAmount Table.value
    rw [h.others id a k hne]
  by_cases hid : id = reportId
  · subst hid
    rw [if_pos rfl]
    funext ⟨a, k⟩
    unfold expenseRows accountGrowth
    by_cases ha : a = account
    · subst ha
      simpa [grown_by_eq (hround k)] using h.amounts k
    · simpa [ha] using hothers a k (by simp [ha])
  · rw [if_neg hid]
    funext ⟨a, k⟩
    exact hothers a k (by simp [hid])

theorem comission_rounds (reportId accountId : String) (platform : Option String) (type : PaymentType)
    (items : List PaymentItem) (k : String) (n : ℤ) :
    RoundsAlike (comissionAdded reportId accountId (platform.map encodeURIComponent) type items k) n := by
  rw [comission_added_eq]
  exact rounds_alike_fromColumn _ n

/-- Fees of four decimals add up to four decimals. -/
theorem fee_added_exact {account : String} {fees : List ProviderFee} (hfees : ∀ fee ∈ positiveFees fees, ∃ m, fee.amount = fromColumn m)
    (k : String) : ∃ m, feeAdded reportId account fees k = fromColumn m := by
  unfold feeAdded addedTo
  revert hfees
  generalize positiveFees fees = fees
  intro hfees
  induction fees with
  | nil => exact ⟨0, fromColumn_zero.symm⟩
  | cons fee fees ih =>
    obtain ⟨m, hm⟩ := ih fun x hx => hfees x (List.mem_cons_of_mem _ hx)
    obtain ⟨amount, hamount⟩ := hfees fee List.mem_cons_self
    refine ⟨((feeExpenses reportId account fee).map (·.expenseKey)).count k * amount + m, ?_⟩
    rw [List.map_cons, List.sum_cons, hm]
    dsimp only
    rw [hamount, fromColumn_add, ← intCast_mul_fromColumn]
    push_cast
    rfl

theorem platform_fees_round (db : Db) (account : String) (payment : Payment) (k : String) (n : ℤ) :
    RoundsAlike (feeAdded reportId account (platformFees db payment) k) n := by
  have hfees : ∀ fee ∈ positiveFees (platformFees db payment), ∃ m, fee.amount = fromColumn m := by
    intro fee hfee
    obtain ⟨operation, -, rfl⟩ := List.mem_map.mp (List.mem_of_mem_filter hfee)
    exact ⟨_, rfl⟩
  obtain ⟨m, hm⟩ := fee_added_exact hfees k
  rw [hm]
  exact rounds_alike_fromColumn m n

/-- What the adjustment of a refund adds. -/
def roundingAdded (adjustment : ℤ) (k : String) : ℚ :=
  if k = refundRoundingAdjustment ∨ k = reportTotal then fromColumn adjustment else 0

theorem adjusted_left {account k : String} {adjustment : ℚ} {u : Unit}
    (h : Returns (saveExpenses [adjustedExpense s.db reportId account adjustment refundRoundingAdjustment,
      adjustedExpense s.db reportId account adjustment reportTotal]) s u t)
    (hadjustment : k ≠ refundRoundingAdjustment) (htotal : k ≠ reportTotal) :
    storedAmount t.db reportId account k = storedAmount s.db reportId account k := by
  have hbelongs : ∀ key, (adjustedExpense s.db reportId account adjustment key).store.key = (reportId, account, key) :=
    fun key => (adjusted_expense_spec s.db reportId account adjustment key).1
  generalize adjustedExpense s.db reportId account adjustment = row at h hbelongs
  have hkey : ∀ key, (row key).expenseKey = key := fun key => (Prod.mk.inj (Prod.mk.inj (hbelongs key)).2).2
  have hrows : ∀ key, (row key).reportId = reportId ∧ (row key).accountId = account := fun key =>
    ⟨(Prod.mk.inj (hbelongs key)).1, (Prod.mk.inj (Prod.mk.inj (hbelongs key)).2).1⟩
  have hne : refundRoundingAdjustment ≠ reportTotal := by decide
  have hmem : ∀ e ∈ [row refundRoundingAdjustment, row reportTotal], e.reportId = reportId ∧ e.accountId = account := by
    simp [hrows]
  obtain ⟨hfind, -⟩ := save_expenses_spec (by simp [hkey, hne]) hmem h
  unfold storedAmount Table.value
  rw [hfind k, List.find?_cons_of_neg (by simpa [hkey] using hadjustment.symm),
    List.find?_cons_of_neg (by simpa [hkey] using htotal.symm)]
  rfl

theorem rounding_left {report report' : Report ℚ} {account k : String}
    (h : Returns (updateRefundRoundingExpense report payment account) s report' t)
    (hadjustment : k ≠ refundRoundingAdjustment) (htotal : k ≠ reportTotal) :
    storedAmount t.db report.id account k = storedAmount s.db report.id account k := by
  unfold updateRefundRoundingExpense at h
  split at h
  · obtain ⟨-, rfl⟩ := returns_pure.mp h
    rfl
  · simp only [returns_bind] at h
    obtain ⟨_, v, hfind, h⟩ := h
    rw [← (returns_find hfind).2]
    split at h
    · obtain ⟨-, rfl⟩ := returns_pure.mp h
      rfl
    · simp only [returns_bind, returns_pure] at h
      obtain ⟨_, w, hread, _, x, hsave, -, rfl⟩ := h
      obtain ⟨rfl, hw⟩ := returns_find hread
      rw [← hw] at hsave ⊢
      exact adjusted_left hsave hadjustment htotal

theorem rounding_raised {report report' : Report ℚ} {account : String}
    (h : Returns (updateRefundRoundingExpense report payment account) s report' t) :
    Raised s.db t.db report.id account (roundingAdded (refundRounding s.db payment)) := by
  obtain ⟨hcharged, -⟩ := refund_rounding_charged h
  refine ⟨hcharged.only, fun k => ?_, hcharged.others⟩
  have hne : refundRoundingAdjustment ≠ reportTotal := by decide
  unfold roundingAdded
  by_cases hk : k = refundRoundingAdjustment ∨ k = reportTotal
  · rw [if_pos hk, grown_by_fromColumn]
    have htracked : Tracked k := by
      rcases hk with rfl | rfl
      · exact Or.inl (by decide)
      · exact Or.inr (by decide)
    rw [hcharged.amounts k htracked]
    rcases hk with rfl | rfl
    · simp [hne]
    · simp [hne.symm]
  · obtain ⟨hadjustment, htotal⟩ := not_or.mp hk
    rw [if_neg hk, grown_by_zero, add_zero]
    exact rounding_left h hadjustment htotal

end Postral.Reports
