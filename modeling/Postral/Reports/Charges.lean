import Postral.Reports.Updates

/-!
# What an update adds to the expenses of a report

An update adds to an expense and to `REPORT_TOTAL`, both under the account that it writes to.
-/

open Check Session Rounding

namespace Postral.Reports

/-! ## The keys -/

/-- The totals of commissions, the service fee and the rounding adjustment. -/
def isTopLevel (expenseKey : String) : Bool :=
  expenseKey = platformComissionTotal ∨ externalPlatformComissionPrefix.toList <+: expenseKey.toList ∨
    expenseKey = paymentServiceFee ∨ expenseKey = refundRoundingAdjustment

def isReportTotal (expenseKey : String) : Bool := expenseKey = reportTotal

/-- The other keys split one of these. -/
def Tracked (expenseKey : String) : Prop := isTopLevel expenseKey = true ∨ isReportTotal expenseKey = true

theorem not_top_level_report_total : isTopLevel reportTotal = false := by decide

theorem ne_report_total {k : String} (h : isTopLevel k = true) : k ≠ reportTotal := by
  rintro rfl
  rw [not_top_level_report_total] at h
  exact absurd h (by decide)

/-- How the tracked keys start. -/
theorem tracked_take {k : String} (h : Tracked k) : k.toList.take 10 ∈
    ["PLATFORM_C".toList, "EXTERNAL_P".toList, "PAYMENT_SE".toList, "REFUND_ROU".toList, "REPORT_TOT".toList] := by
  simp only [Tracked, isTopLevel, isReportTotal, decide_eq_true_eq] at h
  rcases h with (rfl | ⟨rest, hk⟩ | rfl | rfl) | rfl
  · decide
  · have htake : externalPlatformComissionPrefix.toList.take 10 = "EXTERNAL_P".toList := by decide
    have hlength : 10 ≤ externalPlatformComissionPrefix.toList.length := by decide
    rw [← hk, List.take_append_of_le_length hlength, htake]
    simp
  · decide
  · decide
  · decide

theorem not_tracked_of_prefix {start rest : String} (hlength : 10 ≤ start.toList.length)
    (hstart : start.toList.take 10 ∉
      ["PLATFORM_C".toList, "EXTERNAL_P".toList, "PAYMENT_SE".toList, "REFUND_ROU".toList, "REPORT_TOT".toList]) :
    ¬ Tracked (start ++ rest) := by
  intro h
  have htake := tracked_take h
  rw [String.toList_append, List.take_append_of_le_length hlength] at htake
  exact hstart htake

/-! ## Amounts -/

def amountIn (expenseMap : ExpenseMap) (k : String) : ℚ := expenseMap.value (·.expenseAmount) k

def storedAmount (db : Db) (reportId accountId expenseKey : String) : ℤ :=
  db.expenses.value (·.expenseAmount) (reportId, accountId, expenseKey)

/-- A map with the rows of the account, and perhaps new ones. -/
structure Covers (expenseMap : ExpenseMap) (db : Db) (reportId accountId : String) : Prop where
  belongs : ∀ e ∈ expenseMap.rows, e.reportId = reportId ∧ e.accountId = accountId
  found : ∀ k, expenseMap.find k = none → db.expenses.find (reportId, accountId, k) = none

section Maps

variable {M : ExpenseMap} {db : Db} {reportId accountId k : String} {fresh : ReportExpense ℚ} {f : ℚ → ℚ}

theorem add_to_key (M : ExpenseMap) (fresh : ReportExpense ℚ) :
    ((M.find fresh.expenseKey).getD fresh).expenseKey = fresh.expenseKey := by
  cases hfind : M.find fresh.expenseKey with
  | none => rfl
  | some e => exact Table.key_of_find hfind

theorem find_add_to (M : ExpenseMap) (fresh : ReportExpense ℚ) (f : ℚ → ℚ) (k : String) :
    (addTo M fresh f).find k = if k = fresh.expenseKey then
      some { (M.find fresh.expenseKey).getD fresh with
        expenseAmount := f ((M.find fresh.expenseKey).getD fresh).expenseAmount }
    else M.find k := by
  unfold addTo
  rw [Table.find_save]
  simp only [add_to_key]

theorem amount_add_to (hfresh : fresh.expenseAmount = 0) :
    amountIn (addTo M fresh f) k = if k = fresh.expenseKey then f (amountIn M k) else amountIn M k := by
  unfold amountIn Table.value
  rw [find_add_to]
  split <;> rename_i hk
  · rw [hk]
    cases M.find fresh.expenseKey with
    | none => simp [hfresh]
    | some e => simp
  · rfl

theorem covers_add_to (h : Covers M db reportId accountId) (hreport : fresh.reportId = reportId)
    (haccount : fresh.accountId = accountId) : Covers (addTo M fresh f) db reportId accountId := by
  refine ⟨fun e he => ?_, fun k hk => ?_⟩
  · unfold addTo at he
    rcases Table.mem_save.mp he with rfl | ⟨he, -⟩
    · cases hfind : M.find fresh.expenseKey with
      | none => exact ⟨hreport, haccount⟩
      | some e => exact h.belongs e (Table.mem_of_find hfind)
    · exact h.belongs e he
  · rw [find_add_to] at hk
    split at hk
    · exact absurd hk (by simp)
    · exact h.found k hk

/-- Each of the rows gets `c` more. -/
theorem amount_foldl_add_to {c : ℚ} (hf : ∀ e, f e = e + c) {rows : List (ReportExpense ℚ)}
    (hzero : ∀ e ∈ rows, e.expenseAmount = 0) (M : ExpenseMap) (k : String) :
    amountIn (rows.foldl (fun M e => addTo M e f) M) k = amountIn M k + (rows.map (·.expenseKey)).count k * c := by
  induction rows generalizing M with
  | nil => simp
  | cons e rows ih =>
    rw [List.foldl_cons, ih fun x hx => hzero x (List.mem_cons_of_mem _ hx),
      amount_add_to (hzero e List.mem_cons_self), List.map_cons, List.count_cons]
    by_cases hk : k = e.expenseKey
    · simp only [hk, if_true, hf, BEq.rfl]
      push_cast
      ring
    · have hk' : (e.expenseKey == k) = false := by simpa using Ne.symm hk
      simp [hk, hk']

/-- How often `k` is a key of the rows of `x`, times `c x`, for all of `xs`. -/
def addedTo {α : Type} (rows : α → List (ReportExpense ℚ)) (c : α → ℚ) (xs : List α) (k : String) : ℚ :=
  (xs.map fun x => ((rows x).map (·.expenseKey)).count k * c x).sum

/-- A loop that adds `c x` to the rows of each `x`. -/
theorem amount_foldl {α : Type} {rows : α → List (ReportExpense ℚ)} {f : α → ℚ → ℚ} (c : α → ℚ)
    (hf : ∀ x e, f x e = e + c x) (hzero : ∀ x, ∀ e ∈ rows x, e.expenseAmount = 0) (xs : List α) (M : ExpenseMap)
    (k : String) :
    amountIn (xs.foldl (fun M x => (rows x).foldl (fun M e => addTo M e (f x)) M) M) k =
      amountIn M k + addedTo rows c xs k := by
  unfold addedTo
  induction xs generalizing M with
  | nil => simp
  | cons x xs ih =>
    rw [List.foldl_cons, ih, amount_foldl_add_to (hf x) (hzero x), List.map_cons, List.sum_cons]
    ring

theorem added_of_count {α : Type} {rows : α → List (ReportExpense ℚ)} {xs : List α} {n : ℕ} (c : α → ℚ)
    (hcount : ∀ x ∈ xs, ((rows x).map (·.expenseKey)).count k = n) : addedTo rows c xs k = n * (xs.map c).sum := by
  unfold addedTo
  induction xs with
  | nil => simp
  | cons x xs ih =>
    rw [List.map_cons, List.sum_cons, ih fun y hy => hcount y (List.mem_cons_of_mem _ hy), hcount x List.mem_cons_self,
      List.map_cons, List.sum_cons]
    ring

theorem added_of_forall_notMem {α : Type} {rows : α → List (ReportExpense ℚ)} {xs : List α} (c : α → ℚ)
    (h : ∀ x ∈ xs, k ∉ (rows x).map (·.expenseKey)) : addedTo rows c xs k = 0 := by
  rw [added_of_count c fun x hx => List.count_eq_zero.mpr (h x hx)]
  simp

theorem covers_foldl {α : Type} (xs : List α) (rows : α → List (ReportExpense ℚ)) (f : α → ℚ → ℚ)
    (hrows : ∀ x, ∀ e ∈ rows x, e.reportId = reportId ∧ e.accountId = accountId) (h : Covers M db reportId accountId) :
    Covers (xs.foldl (fun M x => (rows x).foldl (fun M e => addTo M e (f x)) M) M) db reportId accountId := by
  apply List.foldlRecOn (motive := fun M => Covers M db reportId accountId) xs _ h
  intro M hM x _
  apply List.foldlRecOn (motive := fun M => Covers M db reportId accountId) (rows x) _ hM
  exact fun M hM e he => covers_add_to hM (hrows x e he).1 (hrows x e he).2

/-! ## Reading the rows of an account -/

theorem nodup_expensesOf (reportId accountId : String) (db : Db) :
    ((expensesOf reportId accountId db).map (·.expenseKey)).Nodup := by
  unfold expensesOf
  rw [List.map_map]
  apply List.Nodup.map_on
  · intro e he e' he' hkey
    obtain ⟨hmem, hp⟩ := List.mem_filter.mp he
    obtain ⟨hmem', hp'⟩ := List.mem_filter.mp he'
    rw [decide_eq_true_eq] at hp hp'
    have hkey' : e.expenseKey = e'.expenseKey := hkey
    apply Table.eq_of_key hmem hmem'
    simp [ReportExpense.key, hp.1, hp.2, hp'.1, hp'.2, hkey']
  · exact List.Nodup.filter _ (List.Nodup.of_map _ db.expenses.nodup)

theorem find_expensesOf (db : Db) (reportId accountId k : String) :
    (expensesOf reportId accountId db).find? (fun e => e.expenseKey = k) =
      (db.expenses.find (reportId, accountId, k)).map (·.load) := by
  rw [expensesOf, List.find?_map, List.find?_filter]
  unfold Table.find
  congr 2
  funext e
  simp [ReportExpense.key, ReportExpense.load, ReportExpense.map, and_assoc]

theorem find_loaded (db : Db) (reportId accountId k : String) :
    (expenseMapOf (expensesOf reportId accountId db)).find k =
      (db.expenses.find (reportId, accountId, k)).map (·.load) := by
  have hmap : expenseMapOf (expensesOf reportId accountId db) = Table.empty.saveAll (expensesOf reportId accountId db) := rfl
  rw [hmap, Table.find_saveAll _ (nodup_expensesOf reportId accountId db), Table.find_empty, Option.or_none]
  exact find_expensesOf db reportId accountId k

theorem amount_loaded (db : Db) (reportId accountId k : String) :
    amountIn (expenseMapOf (expensesOf reportId accountId db)) k = fromColumn (storedAmount db reportId accountId k) := by
  unfold amountIn storedAmount Table.value
  rw [find_loaded]
  cases db.expenses.find (reportId, accountId, k) with
  | none => simp [fromColumn]
  | some e => rfl

theorem covers_loaded (db : Db) (reportId accountId : String) :
    Covers (expenseMapOf (expensesOf reportId accountId db)) db reportId accountId := by
  refine ⟨fun e he => ?_, fun k hk => ?_⟩
  · have hfind := Table.find_of_mem he
    rw [find_loaded] at hfind
    obtain ⟨row, hrow, rfl⟩ := Option.map_eq_some_iff.mp hfind
    have hkey := Table.key_of_find hrow
    simp only [ReportExpense.key, Prod.mk.injEq] at hkey
    exact ⟨hkey.1, hkey.2.1⟩
  · rw [find_loaded] at hk
    exact Option.map_eq_none_iff.mp hk

end Maps

/-! ## Writing them -/

/-- No row of another report or account is written. -/
def SameOthers (db db' : Db) (reportId accountId : String) : Prop :=
  ∀ r a k, (r, a) ≠ (reportId, accountId) → db'.expenses.find (r, a, k) = db.expenses.find (r, a, k)

section Writes

variable {s t : Session HttpError Db} {reportId accountId : String} {u : Unit}

theorem save_expenses_spec {rows : List (ReportExpense ℚ)} (hkeys : (rows.map (·.expenseKey)).Nodup)
    (hrows : ∀ e ∈ rows, e.reportId = reportId ∧ e.accountId = accountId) (h : Returns (saveExpenses rows) s u t) :
    (∀ k, t.db.expenses.find (reportId, accountId, k) =
      ((rows.find? fun e => e.expenseKey = k).map (·.store)).or (s.db.expenses.find (reportId, accountId, k))) ∧
    SameOthers s.db t.db reportId accountId := by
  have hstored : ∀ e ∈ rows, e.store.key = (reportId, accountId, e.expenseKey) := by
    intro e he
    obtain ⟨hreport, haccount⟩ := hrows e he
    simp [ReportExpense.key, ReportExpense.store, ReportExpense.map, hreport, haccount]
  have hnodup : ((rows.map (·.store)).map ReportExpense.key).Nodup := by
    rw [List.map_map]
    refine List.Nodup.map_on (fun e he e' he' hkey => ?_) (List.Nodup.of_map _ hkeys)
    have hkey' : (reportId, accountId, e.expenseKey) = (reportId, accountId, e'.expenseKey) := by
      rw [← hstored e he, ← hstored e' he']
      exact hkey
    exact List.inj_on_of_nodup_map hkeys he he' (Prod.mk.inj (Prod.mk.inj hkey').2).2
  have hdb : t.db.expenses = s.db.expenses.saveAll (rows.map (·.store)) := by
    rw [returns_save h, Table.saveAll, List.foldl_map]
  rw [hdb]
  constructor
  · intro k
    rw [Table.find_saveAll _ hnodup, List.find?_map]
    congr 2
    apply List.find?_congr
    intro e he
    simp [hstored e he]
  · intro r a k hne
    rw [hdb, Table.find_saveAll _ hnodup, List.find?_map]
    have hnone : rows.find? ((fun e => decide (e.key = (r, a, k))) ∘ (·.store)) = none := by
      rw [List.find?_eq_none]
      intro e he hkey
      have hkey' : e.store.key = (r, a, k) := of_decide_eq_true hkey
      rw [hstored e he] at hkey'
      obtain ⟨hr, hrest⟩ := Prod.mk.inj hkey'
      exact hne (by rw [hr, (Prod.mk.inj hrest).1])
    rw [hnone]
    rfl

theorem stored_amount_save {M : ExpenseMap} (hM : Covers M s.db reportId accountId) (p : String → Bool)
    (h : Returns (saveExpenses (M.rows.filter fun e => p e.expenseKey)) s u t) :
    (∀ k, storedAmount t.db reportId accountId k =
      if p k then toColumn (amountIn M k) else storedAmount s.db reportId accountId k) ∧
    SameOthers s.db t.db reportId accountId := by
  have hkeys : ((M.rows.filter fun e => p e.expenseKey).map (·.expenseKey)).Nodup :=
    M.nodup.sublist (List.filter_sublist.map _)
  obtain ⟨hfind, hothers⟩ := save_expenses_spec hkeys (fun e he => hM.belongs e (List.mem_filter.mp he).1) h
  refine ⟨fun k => ?_, hothers⟩
  have hrow : ((M.rows.filter fun e => p e.expenseKey).find? fun e => e.expenseKey = k) =
      if p k then M.find k else none := by
    rw [List.find?_filter]
    unfold Table.find
    split <;> rename_i hp
    · apply List.find?_congr
      intro e _
      by_cases hk : e.expenseKey = k <;> simp [hk, hp]
    · rw [List.find?_eq_none]
      intro e _
      by_cases hk : e.expenseKey = k <;> simp [hk, hp]
  unfold storedAmount amountIn Table.value at *
  rw [hfind k, hrow]
  split
  · cases hk : M.find k with
    | none => simp [hM.found k hk, toColumn]
    | some e => simp [ReportExpense.store, ReportExpense.map]
  · simp

/-! ## Charges -/

/-- What a column grows by when `amount` is added and the sum is rounded. -/
def grownBy (column : ℤ) (amount : ℚ) : ℤ := toColumn (fromColumn column + amount) - column

theorem grown_by_zero (column : ℤ) : grownBy column 0 = 0 := by simp [grownBy]

theorem grown_by_fromColumn (column n : ℤ) : grownBy column (fromColumn n) = n := by
  rw [grownBy, ← fromColumn_add, toColumn_fromColumn, add_sub_cancel_left]

/-- The update adds `added` to the rows of an account. -/
structure Raised (db db' : Db) (reportId accountId : String) (added : String → ℚ) : Prop where
  only : OnlyExpenses db db'
  amounts : ∀ k, storedAmount db' reportId accountId k =
    storedAmount db reportId accountId k + grownBy (storedAmount db reportId accountId k) (added k)
  others : SameOthers db db' reportId accountId

theorem Raised.zero (db : Db) (reportId accountId : String) : Raised db db reportId accountId 0 :=
  ⟨.refl db, fun k => by simp [grown_by_zero], fun _ _ _ _ => rfl⟩

theorem raised_of_saved {M : ExpenseMap} {added : String → ℚ} (hM : Covers M s.db reportId accountId) (p : String → Bool)
    (h : Returns (saveExpenses (M.rows.filter fun e => p e.expenseKey)) s u t)
    (hadded : ∀ k, amountIn M k = fromColumn (storedAmount s.db reportId accountId k) + added k)
    (hkept : ∀ k, p k = false → added k = 0) : Raised s.db t.db reportId accountId added := by
  obtain ⟨hamount, hothers⟩ := stored_amount_save hM p h
  refine ⟨save_expenses_only h, fun k => ?_, hothers⟩
  rw [hamount k]
  split <;> rename_i hp
  · rw [hadded, grownBy]
    ring
  · rw [hkept k (by simpa using hp), grown_by_zero, add_zero]

/-- The update adds `x` to `expenseKey` and `y` to `REPORT_TOTAL`. -/
structure Charged (db db' : Db) (reportId accountId expenseKey : String) (x y : ℤ) : Prop where
  only : OnlyExpenses db db'
  amounts : ∀ k, Tracked k → storedAmount db' reportId accountId k =
    storedAmount db reportId accountId k + (if k = expenseKey then x else 0) + if k = reportTotal then y else 0
  others : SameOthers db db' reportId accountId

theorem Charged.zero (db : Db) (reportId accountId expenseKey : String) :
    Charged db db reportId accountId expenseKey 0 0 :=
  ⟨.refl db, fun k _ => by simp, fun _ _ _ _ => rfl⟩

theorem Raised.charged {db db' : Db} {added : String → ℚ} {expenseKey : String} {x y : ℤ}
    (h : Raised db db' reportId accountId added)
    (hgrown : ∀ k, Tracked k → grownBy (storedAmount db reportId accountId k) (added k) =
      (if k = expenseKey then x else 0) + if k = reportTotal then y else 0) :
    Charged db db' reportId accountId expenseKey x y := by
  refine ⟨h.only, fun k hk => ?_, h.others⟩
  rw [h.amounts k, hgrown k hk, add_assoc]

/-- How often the keys of a charge contain a tracked key. -/
theorem count_charge {expenseKey k : String} {split : List String} (hsplit : ∀ x ∈ split, ¬ Tracked x) (hk : Tracked k) :
    (split ++ [expenseKey, reportTotal]).count k =
      (if k = expenseKey then 1 else 0) + if k = reportTotal then 1 else 0 := by
  have hzero : split.count k = 0 := List.count_eq_zero.mpr fun hmem => hsplit k hmem hk
  have hbeq : ∀ x : String, (x == k) = decide (k = x) := fun x => by
    rw [Bool.eq_iff_iff, beq_iff_eq, decide_eq_true_eq, eq_comm]
  simp only [List.count_append, hzero, List.count_cons, List.count_nil, hbeq, decide_eq_true_eq]
  omega

/-! ## Commissions -/

/-- Purchases add and refunds take. -/
def signed {α : Type} [Neg α] : PaymentType → α → α
  | .purchase, amount => amount
  | .refund, amount => -amount

theorem expense_action_eq (type : PaymentType) (expense amount : ℚ) :
    expenseAction type expense amount = expense + signed type amount := by
  cases type
  · simp [expenseAction, signed]
  · simp [expenseAction, signed, sub_eq_add_neg]

theorem fromColumn_signed (type : PaymentType) (m : ℤ) : signed type (fromColumn m) = fromColumn (signed type m) := by
  cases type
  · rfl
  · simp [signed, fromColumn, neg_div]

theorem intCast_mul_fromColumn (n m : ℤ) : n * fromColumn m = fromColumn (n * m) := by
  unfold fromColumn
  push_cast
  ring

theorem sum_signed (type : PaymentType) (items : List PaymentItem) :
    (items.map fun item => signed type item.appComissionAmount).sum = signed type (comissionOf items) := by
  cases type
  · rfl
  · show (items.map fun item => -item.appComissionAmount).sum = -comissionOf items
    rw [comissionOf, List.sum_neg, List.map_map]
    rfl

theorem comission_rows_of (reportId accountId : String) (platformCode : Option String) (item : PaymentItem) :
    ∀ e ∈ comissionExpenses reportId accountId platformCode item,
      (e.reportId = reportId ∧ e.accountId = accountId) ∧ e.expenseAmount = 0 := by
  intro e he
  unfold comissionExpenses at he
  simp only [List.mem_append, List.mem_ite_nil_right, List.mem_cons, List.not_mem_nil, or_false] at he
  rcases he with ⟨-, rfl⟩ | rfl | rfl <;> exact ⟨⟨rfl, rfl⟩, rfl⟩

/-- The key of the commissions of a platform. -/
def totalComissionKey : Option String → String
  | none => platformComissionTotal
  | some code => externalPlatformComissionPrefix ++ code

theorem total_comission_top (platformCode : Option String) : isTopLevel (totalComissionKey platformCode) = true := by
  unfold isTopLevel
  rw [decide_eq_true_eq]
  cases platformCode with
  | none => exact Or.inl rfl
  | some code => exact Or.inr (Or.inl ⟨code.toList, (String.toList_append).symm⟩)

theorem count_comission {platformCode : Option String} (item : PaymentItem) {k : String} (hk : Tracked k) :
    ((comissionExpenses reportId accountId platformCode item).map (·.expenseKey)).count k =
      (if k = totalComissionKey platformCode then 1 else 0) + if k = reportTotal then 1 else 0 := by
  have hkeys : ∃ split : List String, (∀ x ∈ split, ¬ Tracked x) ∧
      (comissionExpenses reportId accountId platformCode item).map (·.expenseKey) =
        split ++ [totalComissionKey platformCode, reportTotal] := by
    by_cases hclass : item.itemClass = ""
    · cases platformCode <;> exact ⟨[], by simp, by simp [comissionExpenses, hclass, totalComissionKey, ReportExpense.create]⟩
    · cases platformCode with
      | none =>
        refine ⟨[itemClassComissionPrefix ++ item.itemClass], fun x hx => ?_, ?_⟩
        · rw [List.mem_singleton.mp hx]
          exact not_tracked_of_prefix (by decide) (by decide +kernel)
        · simp [comissionExpenses, hclass, totalComissionKey, ReportExpense.create]
      | some code =>
        refine ⟨[externalItemClassComissionPrefix ++ code ++ ":" ++ encodeURIComponent item.itemClass], fun x hx => ?_, ?_⟩
        · rw [List.mem_singleton.mp hx, String.append_assoc, String.append_assoc]
          exact not_tracked_of_prefix (by decide) (by decide +kernel)
        · simp [comissionExpenses, hclass, totalComissionKey, ReportExpense.create]
  obtain ⟨split, hsplit, heq⟩ := hkeys
  rw [heq]
  exact count_charge hsplit hk

theorem total_comission_ne (platformCode : Option String) : totalComissionKey platformCode ≠ paymentServiceFee := by
  cases platformCode with
  | none => decide
  | some code =>
    intro h
    have hlength : 10 ≤ externalPlatformComissionPrefix.toList.length := by decide
    have htake := congrArg (fun k : String => k.toList.take 10) h
    simp only [totalComissionKey, String.toList_append, List.take_append_of_le_length hlength] at htake
    exact absurd htake (by decide)

/-- The code of the platform in the keys. -/
def platformCodeOf (payment : Payment) (platform : PlatformSource) : Option String :=
  if truthy payment.externalPlatformId then some (encodeURIComponent platform.platformKey) else none

/-- What the commission of the items adds. -/
def comissionAdded (reportId accountId : String) (platformCode : Option String) (type : PaymentType)
    (items : List PaymentItem) : String → ℚ :=
  addedTo (comissionExpenses reportId accountId platformCode) (fun item => fromColumn (signed type item.appComissionAmount))
    items

theorem update_expenses_raised {payment : Payment} {itemFilterAccountId : Option String} {platform : PlatformSource}
    (h : Returns (updateExpensesForReport reportId payment accountId itemFilterAccountId platform) s u t) :
    Raised s.db t.db reportId accountId (comissionAdded reportId accountId (platformCodeOf payment platform) payment.type
      (itemsOf payment itemFilterAccountId)) := by
  unfold updateExpensesForReport at h
  dsimp only at h
  unfold platformCodeOf
  generalize (if truthy payment.externalPlatformId = true then some (encodeURIComponent platform.platformKey)
    else none) = platformCode at h ⊢
  simp only [returns_bind] at h
  obtain ⟨_, v, hfind, hsave⟩ := h
  obtain ⟨rfl, hv⟩ := returns_find hfind
  rw [← hv] at hsave ⊢
  have hcovers := covers_foldl (itemsOf payment itemFilterAccountId) (comissionExpenses reportId accountId platformCode)
    (fun item expense => expenseAction payment.type expense (fromColumn item.appComissionAmount))
    (fun item e he => (comission_rows_of reportId accountId platformCode item e he).1) (covers_loaded v.db reportId accountId)
  refine raised_of_saved hcovers (fun _ => true) (by simpa using hsave) (fun k => ?_) (by simp)
  rw [amount_foldl (fun item => fromColumn (signed payment.type item.appComissionAmount))
    (fun item e => by rw [expense_action_eq, fromColumn_signed])
    (fun item e he => (comission_rows_of reportId accountId platformCode item e he).2), amount_loaded]
  rfl

/-- The commission of the counted items goes to one top-level expense. -/
theorem update_expenses_charged {payment : Payment} {itemFilterAccountId : Option String} {platform : PlatformSource}
    (h : Returns (updateExpensesForReport reportId payment accountId itemFilterAccountId platform) s u t) :
    ∃ expenseKey, isTopLevel expenseKey = true ∧ expenseKey ≠ paymentServiceFee ∧
      Charged s.db t.db reportId accountId expenseKey
        (signed payment.type (comissionOf (itemsOf payment itemFilterAccountId)))
        (signed payment.type (comissionOf (itemsOf payment itemFilterAccountId))) := by
  have hraised := update_expenses_raised h
  revert hraised
  generalize platformCodeOf payment platform = platformCode
  intro hraised
  refine ⟨totalComissionKey platformCode, total_comission_top platformCode, total_comission_ne platformCode,
    hraised.charged fun k hk => ?_⟩
  have hadded : comissionAdded reportId accountId platformCode payment.type (itemsOf payment itemFilterAccountId) k =
      fromColumn (((if k = totalComissionKey platformCode then 1 else 0) + if k = reportTotal then 1 else 0) *
        signed payment.type (comissionOf (itemsOf payment itemFilterAccountId))) := by
    unfold comissionAdded
    have hsum := fromColumn_sum ((itemsOf payment itemFilterAccountId).map fun item =>
      signed payment.type item.appComissionAmount)
    rw [List.map_map] at hsum
    rw [added_of_count _ fun item _ => count_comission item hk, ← sum_signed, ← intCast_mul_fromColumn, ← hsum]
    push_cast
    rfl
  rw [hadded, grown_by_fromColumn]
  split_ifs <;> ring

/-! ## Fees of the provider -/

def positiveFees (fees : List ProviderFee) : List ProviderFee := fees.filter fun fee => 0 < fee.amount

def feeTotal (fees : List ProviderFee) : ℚ := ((positiveFees fees).map (·.amount)).sum

theorem fee_rows_of (reportId accountId : String) (fee : ProviderFee) : ∀ e ∈ feeExpenses reportId accountId fee,
    (e.reportId = reportId ∧ e.accountId = accountId) ∧ e.expenseAmount = 0 := by
  intro e he
  simp only [feeExpenses, List.mem_cons, List.not_mem_nil, or_false] at he
  rcases he with rfl | rfl | rfl <;> exact ⟨⟨rfl, rfl⟩, rfl⟩

theorem count_fee (fee : ProviderFee) {k : String} (hk : Tracked k) :
    ((feeExpenses reportId accountId fee).map (·.expenseKey)).count k =
      (if k = paymentServiceFee then 1 else 0) + if k = reportTotal then 1 else 0 := by
  have hchannel : ¬ Tracked (paymentChannelFeePrefix ++ encodeURIComponent fee.paymentChannelId) :=
    not_tracked_of_prefix (by decide) (by decide +kernel)
  have hperm : ((feeExpenses reportId accountId fee).map (·.expenseKey)).Perm
      ([paymentChannelFeePrefix ++ encodeURIComponent fee.paymentChannelId] ++ [paymentServiceFee, reportTotal]) :=
    List.Perm.swap _ _ _
  rw [hperm.count_eq]
  exact count_charge (fun x hx => List.mem_singleton.mp hx ▸ hchannel) hk

/-- What the fees add. -/
def feeAdded (reportId accountId : String) (fees : List ProviderFee) : String → ℚ :=
  addedTo (feeExpenses reportId accountId) (·.amount) (positiveFees fees)

theorem add_fees_raised {fees : List ProviderFee}
    (h : Returns (addProviderFeeExpenses reportId accountId fees) s u t) :
    Raised s.db t.db reportId accountId (feeAdded reportId accountId fees) := by
  unfold addProviderFeeExpenses at h
  dsimp only at h
  split at h <;> rename_i hlength
  · obtain ⟨-, rfl⟩ := returns_pure.mp h
    have hzero : feeAdded reportId accountId fees = 0 := by
      rw [feeAdded, positiveFees, List.length_eq_zero_iff.mp hlength]
      rfl
    rw [hzero]
    exact .zero _ _ _
  · simp only [returns_bind] at h
    obtain ⟨_, v, hfind, hsave⟩ := h
    obtain ⟨rfl, hv⟩ := returns_find hfind
    rw [← hv] at hsave ⊢
    have hcovers := covers_foldl (positiveFees fees) (feeExpenses reportId accountId)
      (fun fee expense => addNumberValues [expense, fee.amount])
      (fun fee e he => (fee_rows_of reportId accountId fee e he).1) (covers_loaded v.db reportId accountId)
    refine raised_of_saved hcovers (fun k => k ∈ (positiveFees fees).flatMap fun fee =>
      (feeExpenses reportId accountId fee).map (·.expenseKey)) hsave (fun k => ?_) (fun k hnot => ?_)
    · rw [amount_foldl (fun fee => fee.amount) (fun fee e => by simp)
        (fun fee e he => (fee_rows_of reportId accountId fee e he).2), amount_loaded]
      rfl
    · rw [decide_eq_false_iff_not, List.mem_flatMap] at hnot
      exact added_of_forall_notMem _ fun fee hfee hk => hnot ⟨fee, hfee, hk⟩

theorem fee_added_tracked (reportId accountId : String) (fees : List ProviderFee) {k : String} (hk : Tracked k) :
    feeAdded reportId accountId fees k = if k = paymentServiceFee ∨ k = reportTotal then feeTotal fees else 0 := by
  unfold feeAdded
  rw [added_of_count _ fun fee _ => count_fee fee hk]
  have hne : paymentServiceFee ≠ reportTotal := by decide
  by_cases hfee : k = paymentServiceFee
  · simp [hfee, hne, feeTotal]
  · by_cases htotal : k = reportTotal
    · simp [htotal, hne.symm, feeTotal]
    · simp [hfee, htotal]

theorem Raised.fees_charged {db db' : Db} {fees : List ProviderFee}
    (h : Raised db db' reportId accountId (feeAdded reportId accountId fees)) :
    Charged db db' reportId accountId paymentServiceFee
      (grownBy (storedAmount db reportId accountId paymentServiceFee) (feeTotal fees))
      (grownBy (storedAmount db reportId accountId reportTotal) (feeTotal fees)) := by
  refine h.charged fun k hk => ?_
  have hne : paymentServiceFee ≠ reportTotal := by decide
  rw [fee_added_tracked reportId accountId fees hk]
  by_cases hfee : k = paymentServiceFee
  · simp [hfee, hne]
  · by_cases htotal : k = reportTotal
    · simp [htotal, hne.symm]
    · simp [hfee, htotal, grown_by_zero]

theorem add_fees_left {fees : List ProviderFee} (hzero : feeTotal fees = 0)
    (h : Returns (addProviderFeeExpenses reportId accountId fees) s u t) : t.db = s.db := by
  have hnil : positiveFees fees = [] := by
    by_contra hsome
    have hpos : 0 < feeTotal fees := by
      refine List.sum_pos _ (fun amount hamount => ?_) (by simpa using hsome)
      obtain ⟨fee, hfee, rfl⟩ := List.mem_map.mp hamount
      exact of_decide_eq_true (List.mem_filter.mp hfee).2
    exact hpos.ne' hzero
  unfold positiveFees at hnil
  unfold addProviderFeeExpenses at h
  rw [hnil] at h
  rw [(returns_pure.mp h).2]

/-- The fees of the operations of a payment that the platform is charged. -/
def platformFees (db : Db) (payment : Payment) : List ProviderFee :=
  (db.operations.rows.filter fun operation => operation.paymentId = payment.id ∧ operation.providerFee ≠ 0).map
    fun operation => ⟨operation.paymentChannelId, fromColumn operation.providerFee⟩

theorem platform_fees_charged {payment : Payment}
    (h : Returns (updateProviderFeeExpenseForPlatformReport reportId payment) s u t) :
    Charged s.db t.db reportId "PLATFORM" paymentServiceFee
      (grownBy (storedAmount s.db reportId "PLATFORM" paymentServiceFee) (feeTotal (platformFees s.db payment)))
      (grownBy (storedAmount s.db reportId "PLATFORM" reportTotal) (feeTotal (platformFees s.db payment))) := by
  unfold updateProviderFeeExpenseForPlatformReport at h
  simp only [returns_bind] at h
  obtain ⟨_, v, hfind, h⟩ := h
  obtain ⟨rfl, hv⟩ := returns_find hfind
  have hcharged := (add_fees_raised h).fees_charged
  rw [hv] at hcharged
  exact hcharged

theorem platform_fees_left {payment : Payment} (hzero : feeTotal (platformFees s.db payment) = 0)
    (h : Returns (updateProviderFeeExpenseForPlatformReport reportId payment) s u t) : t.db = s.db := by
  unfold updateProviderFeeExpenseForPlatformReport at h
  simp only [returns_bind] at h
  obtain ⟨_, v, hfind, h⟩ := h
  obtain ⟨rfl, hv⟩ := returns_find hfind
  rw [add_fees_left hzero h, hv]

/-- The fees of a seller: the share of the operations that the sellers pay. -/
def sellerFees (db : Db) (payment : Payment) (ratio : ℚ) : List ProviderFee :=
  (db.operations.rows.filter fun operation =>
    operation.paymentId = payment.id ∧ operation.providerFeeDebitFrom ≠ .platform ∧ operation.providerFee ≠ 0).map
      fun operation => ⟨operation.paymentChannelId, multiplyNumberValues [fromColumn operation.providerFee, ratio]⟩

/-- The amount that a seller is charged for a payment. -/
def sellerFeeTotal (db : Db) (payment : Payment) (accountId : String) : ℚ :=
  match db.orders.find (payment.id, accountId) with
  | none => 0
  | some order =>
    if order.amount ≤ 0 ∨ payment.totalAmount ≤ 0 then 0
    else feeTotal (sellerFees db payment (div (fromColumn order.amount) (fromColumn payment.totalAmount)))

theorem divide_eq {a b c : ℚ} (h : divideNumberValues a [b] = .ok c) (ha : a ≠ 0) : c = div a b := by
  unfold divideNumberValues at h
  rw [if_neg ha] at h
  simp only [bind_eq_ok, require_eq_ok, pure_eq_ok] at h
  obtain ⟨_, -, rfl⟩ := h
  simp [multiplyNumberValues]

/-- The fees that a seller is charged for a payment. -/
def chargedFees (db : Db) (payment : Payment) (accountId : String) : List ProviderFee :=
  match db.orders.find (payment.id, accountId) with
  | none => []
  | some order =>
    if order.amount ≤ 0 ∨ payment.totalAmount ≤ 0 then []
    else sellerFees db payment (div (fromColumn order.amount) (fromColumn payment.totalAmount))

theorem feeTotal_chargedFees (db : Db) (payment : Payment) (accountId : String) :
    feeTotal (chargedFees db payment accountId) = sellerFeeTotal db payment accountId := by
  unfold chargedFees sellerFeeTotal
  split
  · rfl
  · split <;> rfl

theorem seller_fees_raised {payment : Payment}
    (h : Returns (updateProviderFeeExpenseForReportAccountId reportId payment accountId) s u t) :
    Raised s.db t.db reportId accountId (feeAdded reportId accountId (chargedFees s.db payment accountId)) := by
  unfold updateProviderFeeExpenseForReportAccountId at h
  simp only [returns_bind, returns_check, orThrow_eq_ok] at h
  obtain ⟨_, v, hfind, _, w, hfind', order, _, ⟨rfl, rfl⟩, h⟩ := h
  obtain ⟨rfl, hv⟩ := returns_find hfind
  obtain ⟨horder, hw⟩ := returns_find hfind'
  rw [hv] at horder hw
  unfold chargedFees
  rw [← horder]
  dsimp only
  split at h <;> rename_i hzero
  · obtain ⟨-, rfl⟩ := returns_pure.mp h
    rw [if_pos hzero, hw]
    exact .zero _ _ _
  · simp only [returns_bind, returns_check] at h
    obtain ⟨ratio, _, ⟨hratio, rfl⟩, h⟩ := h
    have hpos : fromColumn order.amount ≠ 0 := by
      intro heq
      rcases div_eq_zero_iff.mp heq with hamount | hcolumn
      · have : order.amount = 0 := Int.cast_eq_zero.mp hamount
        omega
      · norm_num at hcolumn
    rw [if_neg hzero, ← divide_eq hratio hpos]
    have hraised := add_fees_raised h
    rw [hw] at hraised
    exact hraised

theorem seller_fees_charged {payment : Payment}
    (h : Returns (updateProviderFeeExpenseForReportAccountId reportId payment accountId) s u t) :
    Charged s.db t.db reportId accountId paymentServiceFee
      (grownBy (storedAmount s.db reportId accountId paymentServiceFee) (sellerFeeTotal s.db payment accountId))
      (grownBy (storedAmount s.db reportId accountId reportTotal) (sellerFeeTotal s.db payment accountId)) := by
  rw [← feeTotal_chargedFees]
  exact (seller_fees_raised h).fees_charged

/-! ## The rounding of refunds -/

/-- The adjustment that a refund brings. -/
def refundRounding (db : Db) (payment : Payment) : ℤ :=
  if payment.type = .refund then
    ((db.operations.rows.filter fun operation =>
      operation.paymentId = payment.id ∧ operation.operationType = .refund).map refundAdjustment).sum
  else 0

/-- The row of a key with the adjustment. -/
def adjustedExpense (db : Db) (reportId accountId : String) (adjustment : ℚ) (key : String) : ReportExpense ℚ :=
  let expense := ((expensesOf reportId accountId db).find? fun entry => entry.expenseKey = key).getD
    (.create reportId accountId key none (if key = reportTotal then 1 else 2))
  { expense with expenseAmount := expense.expenseAmount + adjustment }

theorem adjusted_expense_spec (db : Db) (reportId accountId : String) (adjustment : ℚ) (key : String) :
    (adjustedExpense db reportId accountId adjustment key).store.key = (reportId, accountId, key) ∧
      (adjustedExpense db reportId accountId adjustment key).expenseAmount =
        fromColumn (storedAmount db reportId accountId key) + adjustment := by
  unfold adjustedExpense storedAmount Table.value
  rw [find_expensesOf]
  cases hfind : db.expenses.find (reportId, accountId, key) with
  | none => exact ⟨rfl, by simp [ReportExpense.create, fromColumn]⟩
  | some e =>
    have hkey : e.key = (reportId, accountId, key) := Table.key_of_find hfind
    exact ⟨hkey, by simp [ReportExpense.load, ReportExpense.map]⟩

theorem adjusted_saved {adjustment : ℤ}
    (h : Returns (saveExpenses [adjustedExpense s.db reportId accountId (fromColumn adjustment) refundRoundingAdjustment,
      adjustedExpense s.db reportId accountId (fromColumn adjustment) reportTotal]) s u t) :
    Charged s.db t.db reportId accountId refundRoundingAdjustment adjustment adjustment := by
  have hspec := adjusted_expense_spec s.db reportId accountId (fromColumn adjustment)
  generalize adjustedExpense s.db reportId accountId (fromColumn adjustment) = row at h hspec
  have hkey : ∀ k, (row k).expenseKey = k := fun k => (Prod.mk.inj (Prod.mk.inj (hspec k).1).2).2
  have hamount : ∀ k, (row k).store.expenseAmount = storedAmount s.db reportId accountId k + adjustment := by
    intro k
    show toColumn (row k).expenseAmount = _
    rw [(hspec k).2, ← fromColumn_add, toColumn_fromColumn]
  have hne : refundRoundingAdjustment ≠ reportTotal := by decide
  have hrows : ∀ e ∈ [row refundRoundingAdjustment, row reportTotal], e.reportId = reportId ∧ e.accountId = accountId := by
    have hbelongs : ∀ k, (row k).reportId = reportId ∧ (row k).accountId = accountId := fun k =>
      ⟨(Prod.mk.inj (hspec k).1).1, (Prod.mk.inj (Prod.mk.inj (hspec k).1).2).1⟩
    simp [hbelongs]
  obtain ⟨hfind, hothers⟩ := save_expenses_spec (by simp [hkey, hne]) hrows h
  refine ⟨save_expenses_only h, fun k _ => ?_, hothers⟩
  have hstored : storedAmount t.db reportId accountId k =
      ((([row refundRoundingAdjustment, row reportTotal].find? fun e => e.expenseKey = k).map (·.store)).or
        (s.db.expenses.find (reportId, accountId, k))).elim 0 (·.expenseAmount) := by
    rw [← hfind k]
    unfold storedAmount Table.value
    cases t.db.expenses.find (reportId, accountId, k) <;> rfl
  rw [hstored]
  by_cases hadjustment : k = refundRoundingAdjustment
  · rw [hadjustment, List.find?_cons_of_pos (by simp [hkey]), if_pos rfl, if_neg hne]
    exact (hamount _).trans (add_zero _).symm
  · rw [List.find?_cons_of_neg (by simpa [hkey] using Ne.symm hadjustment), if_neg hadjustment, add_zero]
    by_cases htotal : k = reportTotal
    · rw [htotal, List.find?_cons_of_pos (by simp [hkey]), if_pos rfl]
      exact hamount _
    · rw [List.find?_cons_of_neg (by simpa [hkey] using Ne.symm htotal), if_neg htotal, add_zero]
      unfold storedAmount Table.value
      cases s.db.expenses.find (reportId, accountId, k) <;> rfl

theorem refund_rounding_charged {report report' : Report ℚ} {payment : Payment}
    (h : Returns (updateRefundRoundingExpense report payment accountId) s report' t) :
    Charged s.db t.db report.id accountId refundRoundingAdjustment (refundRounding s.db payment)
      (refundRounding s.db payment) ∧
    report' = if refundRounding s.db payment = 0 then report
      else { report with totalExpense := fromColumn (storedAmount t.db report.id accountId reportTotal) } := by
  unfold updateRefundRoundingExpense at h
  split at h <;> rename_i htype
  · obtain ⟨rfl, rfl⟩ := returns_pure.mp h
    have hzero : refundRounding s.db payment = 0 := if_neg htype
    rw [if_pos hzero, hzero]
    exact ⟨.zero _ _ _ _, rfl⟩
  · simp only [returns_bind] at h
    obtain ⟨_, v, hfind, h⟩ := h
    obtain ⟨rfl, hv⟩ := returns_find hfind
    have hrounding : refundRounding s.db payment = ((s.db.operations.rows.filter fun operation =>
        operation.paymentId = payment.id ∧ operation.operationType = .refund).map refundAdjustment).sum :=
      if_pos (not_not.mp htype)
    rw [← hrounding] at h
    generalize refundRounding s.db payment = adjustment at h ⊢
    have hzero : fromColumn adjustment = 0 ↔ adjustment = 0 := by
      unfold fromColumn
      norm_num
    split at h <;> rename_i hadjustment
    · obtain ⟨rfl, rfl⟩ := returns_pure.mp h
      rw [if_pos (hzero.mp hadjustment), hzero.mp hadjustment, hv]
      exact ⟨.zero _ _ _ _, rfl⟩
    · simp only [returns_bind, returns_pure] at h
      obtain ⟨_, w, hfind', _, x, hsave, rfl, rfl⟩ := h
      obtain ⟨rfl, hw⟩ := returns_find hfind'
      have hw : w.db = s.db := hw.trans hv
      rw [if_neg fun heq => hadjustment (hzero.mpr heq)]
      rw [hv] at hsave
      change Returns (saveExpenses [adjustedExpense s.db report.id accountId (fromColumn adjustment) refundRoundingAdjustment,
        adjustedExpense s.db report.id accountId (fromColumn adjustment) reportTotal]) w _ x at hsave
      rw [← hw] at hsave ⊢
      have hcharged := adjusted_saved hsave
      refine ⟨hcharged, ?_⟩
      rw [hcharged.amounts reportTotal (Or.inr (by decide)), if_neg (by decide : reportTotal ≠ refundRoundingAdjustment),
        if_pos rfl, add_zero, fromColumn_add, hw, ← hv]
      congr 2
      have hspec := (adjusted_expense_spec v.db report.id accountId (fromColumn adjustment) reportTotal).2
      exact add_right_cancel hspec

end Writes

end Postral.Reports
