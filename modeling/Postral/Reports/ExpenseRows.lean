import Postral.Reports.ExpenseKeys
import Postral.Reports.Expenses

/-!
# Sums of expense rows

What a commission and what fees add to the rows of an account whose keys are of one kind.
-/

open Check Session Rounding

namespace Postral.Reports

/-- Sum of the rows of an account whose key meets `p`. -/
def rowsSum (db : Db) (reportId accountId : String) (p : String → Bool) : ℤ :=
  db.expenses.sumOf (fun e => (e.reportId = reportId ∧ e.accountId = accountId) ∧ p e.expenseKey = true) (·.expenseAmount)

section Sums

variable {db db' : Db} {reportId accountId : String} {p : String → Bool}

def rowTerm (reportId accountId : String) (p : String → Bool) (e : ReportExpense ℤ) : ℤ :=
  if (e.reportId = reportId ∧ e.accountId = accountId) ∧ p e.expenseKey = true then e.expenseAmount else 0

theorem rows_sum_eq (db : Db) (reportId accountId : String) (p : String → Bool) :
    rowsSum db reportId accountId p = db.expenses.total (rowTerm reportId accountId p) := Table.sumOf_eq_total _ _ _

theorem value_row (db : Db) (reportId accountId : String) (p : String → Bool) (r a k : String) :
    db.expenses.value (rowTerm reportId accountId p) (r, a, k) =
      if (r = reportId ∧ a = accountId) ∧ p k = true then storedAmount db r a k else 0 := by
  unfold storedAmount Table.value
  cases hfind : db.expenses.find (r, a, k) with
  | none => simp
  | some e =>
    have hkey := Table.key_of_find hfind
    simp only [ReportExpense.key, Prod.mk.injEq] at hkey
    simp [rowTerm, hkey.1, hkey.2.1, hkey.2.2]

theorem rows_sum_key (db : Db) (reportId accountId k : String) :
    rowsSum db reportId accountId (fun x => x = k) = storedAmount db reportId accountId k := by
  have hkey : ∀ e ∈ db.expenses.rows, (e.reportId = reportId ∧ e.accountId = accountId) ∧ decide (e.expenseKey = k) = true →
      e.key = (reportId, accountId, k) := by
    rintro e - ⟨⟨hreport, haccount⟩, hk⟩
    simp [ReportExpense.key, hreport, haccount, of_decide_eq_true hk]
  unfold rowsSum
  rw [Table.sumOf_eq_value _ hkey]
  exact (value_row db reportId accountId (fun x => x = k) reportId accountId k).trans (if_pos ⟨⟨rfl, rfl⟩, decide_eq_true rfl⟩)

/-- An account whose rows stay keeps its sums. -/
theorem rows_sum_kept (h : ∀ k, db'.expenses.find (reportId, accountId, k) = db.expenses.find (reportId, accountId, k))
    (p : String → Bool) : rowsSum db' reportId accountId p = rowsSum db reportId accountId p := by
  rw [rows_sum_eq, rows_sum_eq, Table.total_change (t := db.expenses) ∅]
  · rw [Finset.sum_empty, add_zero]
  · rintro ⟨r, a, k⟩ -
    rw [value_row, value_row]
    split <;> rename_i hrow
    · obtain ⟨⟨rfl, rfl⟩, -⟩ := hrow
      unfold storedAmount Table.value
      rw [h k]
    · rfl

/-- The rows of the account grow by what is added under their keys. -/
theorem Raised.rows_sum {added : String → ℚ} (h : Raised db db' reportId accountId added) (keys : Finset String)
    (hadded : ∀ k ∉ keys, p k = true → added k = 0) :
    rowsSum db' reportId accountId p = rowsSum db reportId accountId p +
      ∑ k ∈ keys, if p k = true then grownBy (storedAmount db reportId accountId k) (added k) else 0 := by
  have hinjective : Set.InjOn (fun k => (reportId, accountId, k)) (keys : Set String) := by
    intro k _ k' _ heq
    exact (Prod.mk.inj (Prod.mk.inj heq).2).2
  rw [rows_sum_eq, rows_sum_eq,
    Table.total_change (t := db.expenses) (keys.image fun k => (reportId, accountId, k)), Finset.sum_image hinjective]
  · congr 1
    apply Finset.sum_congr rfl
    intro k _
    rw [value_row, value_row]
    by_cases hp : p k = true
    · rw [if_pos ⟨⟨rfl, rfl⟩, hp⟩, if_pos ⟨⟨rfl, rfl⟩, hp⟩, if_pos hp, h.amounts k, add_sub_cancel_left]
    · rw [if_neg fun hrow => hp hrow.2, if_neg fun hrow => hp hrow.2, if_neg hp, sub_zero]
  · rintro ⟨r, a, k⟩ hk
    rw [value_row, value_row]
    split <;> rename_i hrow
    · obtain ⟨⟨rfl, rfl⟩, hp⟩ := hrow
      have hnot : k ∉ keys := fun hmem => hk (Finset.mem_image_of_mem _ hmem)
      rw [h.amounts k, hadded k hnot hp, grown_by_zero, add_zero]
    · rfl

end Sums

/-! ## Commissions -/

section Comissions

variable {db db' : Db} {reportId accountId : String} {platform : Option String} {type : PaymentType} {items : List PaymentItem}

/-- What a commission adds to the rows of one kind. -/
def comissionGrowth (platform : Option String) (type : PaymentType) (items : List PaymentItem) (p : String → Bool) : ℤ :=
  (items.map fun item => ((comissionKeys platform item).countP p : ℤ) * signed type item.appComissionAmount).sum

/-- What the commission adds under a key, in ten-thousandths. -/
theorem comission_added_eq (reportId accountId : String) (platform : Option String) (type : PaymentType)
    (items : List PaymentItem) (k : String) :
    comissionAdded reportId accountId (platform.map encodeURIComponent) type items k =
      fromColumn (items.map fun item => ((comissionKeys platform item).count k : ℤ) * signed type item.appComissionAmount).sum := by
  unfold comissionAdded addedTo
  simp only [map_comissionExpenses]
  induction items with
  | nil => simp [fromColumn]
  | cons item items ih =>
    rw [List.map_cons, List.sum_cons, List.map_cons, List.sum_cons, ih, fromColumn_add, ← intCast_mul_fromColumn]
    push_cast
    rfl

theorem Raised.comission_sum
    (h : Raised db db' reportId accountId (comissionAdded reportId accountId (platform.map encodeURIComponent) type items))
    (p : String → Bool) :
    rowsSum db' reportId accountId p = rowsSum db reportId accountId p + comissionGrowth platform type items p := by
  have hgrown : ∀ k, grownBy (storedAmount db reportId accountId k)
      (comissionAdded reportId accountId (platform.map encodeURIComponent) type items k) =
      (items.map fun item => ((comissionKeys platform item).count k : ℤ) * signed type item.appComissionAmount).sum := by
    intro k
    rw [comission_added_eq, grown_by_fromColumn]
  rw [h.rows_sum (items.flatMap (comissionKeys platform)).toFinset]
  · congr 1
    simp only [hgrown]
    exact List.sum_count_groups (comissionKeys platform) (fun item => signed type item.appComissionAmount) p
      fun item hitem k hk => List.mem_toFinset.mpr (List.mem_flatMap.mpr ⟨item, hitem, hk⟩)
  · intro k hk _
    rw [comission_added_eq]
    have hzero : (items.map fun item => ((comissionKeys platform item).count k : ℤ) * signed type item.appComissionAmount).sum = 0 := by
      apply List.sum_eq_zero
      intro x hx
      obtain ⟨item, hitem, rfl⟩ := List.mem_map.mp hx
      have hnot : k ∉ comissionKeys platform item :=
        fun hmem => hk (List.mem_toFinset.mpr (List.mem_flatMap.mpr ⟨item, hitem, hmem⟩))
      rw [List.count_eq_zero.mpr hnot]
      simp
    rw [hzero]
    simp [fromColumn]

/-- How often a kind of keys is among those of an item. -/
theorem countP_comission_keys (platform : Option String) (item : PaymentItem) (p : String → Bool) :
    (comissionKeys platform item).countP p =
      (if item.itemClass ≠ "" ∧ p (itemClassKey platform item.itemClass) = true then 1 else 0) +
        ((if p (comissionKey platform) = true then 1 else 0) + if p reportTotal = true then 1 else 0) := by
  unfold comissionKeys
  rw [List.countP_append, List.countP_cons, List.countP_singleton]
  by_cases hclass : item.itemClass = "" <;> simp [hclass, List.countP_singleton, add_comm]

/-- Kinds of keys without a class. -/
theorem comission_growth_of_class {p : String → Bool} (h : ∀ itemClass, p (itemClassKey platform itemClass) = false) :
    comissionGrowth platform type items p =
      ((if p (comissionKey platform) = true then 1 else 0) + if p reportTotal = true then 1 else 0) *
        signed type (comissionOf items) := by
  have hcount : ∀ item, ((comissionKeys platform item).countP p : ℤ) =
      (if p (comissionKey platform) = true then 1 else 0) + if p reportTotal = true then 1 else 0 := by
    intro item
    rw [countP_comission_keys, h]
    simp
  unfold comissionGrowth
  simp only [hcount]
  rw [List.sum_map_mul_left, sum_signed]

theorem comission_growth_reportTotal (platform : Option String) (type : PaymentType) (items : List PaymentItem) :
    comissionGrowth platform type items (fun k => k = reportTotal) = signed type (comissionOf items) := by
  have hcomission : comissionKey platform ≠ reportTotal := by
    apply ne_of_keyHead
    rw [keyHead_comissionKey, keyHead_reportTotal]
    split <;> decide
  rw [comission_growth_of_class]
  · simp [hcomission]
  · intro itemClass
    apply decide_eq_false
    apply ne_of_keyHead
    rw [keyHead_itemClassKey, keyHead_reportTotal]
    split <;> decide

theorem comission_growth_paymentServiceFee (platform : Option String) (type : PaymentType) (items : List PaymentItem) :
    comissionGrowth platform type items (fun k => k = paymentServiceFee) = 0 := by
  have hcomission : comissionKey platform ≠ paymentServiceFee := by
    apply ne_of_keyHead
    rw [keyHead_comissionKey, keyHead_paymentServiceFee]
    split <;> decide
  have htotal : reportTotal ≠ paymentServiceFee := by decide
  rw [comission_growth_of_class]
  · simp [hcomission, htotal]
  · intro itemClass
    apply decide_eq_false
    apply ne_of_keyHead
    rw [keyHead_itemClassKey, keyHead_paymentServiceFee]
    split <;> decide

theorem isChannelFee_comission_keys {item : PaymentItem} {k : String} (hk : k ∈ comissionKeys platform item) :
    isChannelFee k = false := by
  unfold comissionKeys at hk
  simp only [List.mem_append, List.mem_ite_nil_right, List.mem_cons, List.not_mem_nil, or_false] at hk
  rcases hk with ⟨-, rfl⟩ | rfl | rfl
  · apply isChannelFee_of_keyHead
    rw [keyHead_itemClassKey]
    split <;> decide
  · apply isChannelFee_of_keyHead
    rw [keyHead_comissionKey]
    split <;> decide
  · exact isChannelFee_reportTotal

/-- Kinds of channel fees. -/
theorem comission_growth_channel {p : String → Bool} (h : ∀ k, p k = true → isChannelFee k = true) :
    comissionGrowth platform type items p = 0 := by
  have hcount : ∀ item, (comissionKeys platform item).countP p = 0 := by
    intro item
    rw [List.countP_eq_zero]
    intro k hk hp
    have hkind := h k hp
    rw [isChannelFee_comission_keys hk] at hkind
    exact absurd hkind (by decide)
  unfold comissionGrowth
  simp [hcount]

/-- The total of a platform. -/
theorem comission_growth_comissionKey (platform platform' : Option String) (type : PaymentType) (items : List PaymentItem) :
    comissionGrowth platform type items (fun k => k = comissionKey platform') =
      if platform = platform' then signed type (comissionOf items) else 0 := by
  have htotal : reportTotal ≠ comissionKey platform' := by
    apply ne_of_keyHead
    rw [keyHead_comissionKey, keyHead_reportTotal]
    split <;> decide
  rw [comission_growth_of_class]
  · by_cases hsame : platform = platform'
    · simp [hsame, htotal]
    · simp [hsame, htotal, comissionKey_injective.ne hsame]
  · intro itemClass
    apply decide_eq_false
    apply ne_of_keyHead
    rw [keyHead_itemClassKey, keyHead_comissionKey]
    split <;> split <;> decide

theorem comission_growth_isExternalComission (platform : Option String) (type : PaymentType) (items : List PaymentItem) :
    comissionGrowth platform type items isExternalComission =
      if platform = none then 0 else signed type (comissionOf items) := by
  have htotal : isExternalComission reportTotal = false := isExternalComission_of_keyHead (by decide)
  rw [comission_growth_of_class]
  · rw [isExternalComission_comissionKey, htotal]
    by_cases hnone : platform = none <;> simp [hnone]
  · intro itemClass
    apply isExternalComission_of_keyHead
    rw [keyHead_itemClassKey]
    split <;> decide

/-- What is not split by class. -/
def unclassedSum (type : PaymentType) (items : List PaymentItem) : ℤ :=
  signed type (comissionOf (items.filter fun item => item.itemClass = ""))

/-- The classes of a platform and the items without one make up its commission. -/
theorem comission_growth_isItemClassOf (platform platform' : Option String) (type : PaymentType) (items : List PaymentItem) :
    comissionGrowth platform type items (isItemClassOf platform') +
        (if platform = platform' then unclassedSum type items else 0) =
      if platform = platform' then signed type (comissionOf items) else 0 := by
  have hcomission : isItemClassOf platform' (comissionKey platform) = false := by
    apply isItemClassOf_of_keyHead <;> rw [keyHead_comissionKey] <;> split <;> decide
  have htotal : isItemClassOf platform' reportTotal = false := isItemClassOf_of_keyHead _ (by decide) (by decide)
  unfold comissionGrowth unclassedSum
  simp only [countP_comission_keys, isItemClassOf_itemClassKey, hcomission, htotal, decide_eq_true_eq]
  by_cases hsame : platform' = platform
  · subst hsame
    simp only [and_true, if_true]
    rw [← sum_signed, ← sum_signed]
    induction items with
    | nil => rfl
    | cons item items ih =>
      rw [List.map_cons, List.sum_cons, List.map_cons, List.sum_cons, ← ih, List.filter_cons]
      by_cases hclass : item.itemClass = ""
      · simp [hclass]
        ring
      · simp [hclass]
        ring
  · simp [hsame, Ne.symm hsame]

end Comissions

/-! ## Fees -/

section Fees

variable {db db' : Db} {reportId accountId : String} {fees : List ProviderFee}

/-- The positive fees of each channel. -/
def channelSums (fees : List ProviderFee) : List ℚ :=
  ((positiveFees fees).map (·.paymentChannelId)).dedup.map fun paymentChannelId =>
    (((positiveFees fees).filter fun fee => fee.paymentChannelId = paymentChannelId).map (·.amount)).sum

theorem sum_channelSums (fees : List ProviderFee) : (channelSums fees).sum = feeTotal fees :=
  List.sum_map_groups (fun fee : ProviderFee => fee.paymentChannelId) (·.amount) (List.nodup_dedup _)
    fun _ hfee => List.mem_dedup.mpr (List.mem_map_of_mem hfee)

theorem fee_keys (reportId accountId : String) (fee : ProviderFee) : (feeExpenses reportId accountId fee).map (·.expenseKey) =
    [paymentServiceFee, channelFeeKey fee.paymentChannelId, reportTotal] := rfl

theorem channelFeeKey_injective : Function.Injective channelFeeKey := by
  intro channel channel' heq
  have hlist := congrArg String.toList heq
  simp only [channelFeeKey, String.toList_append, List.append_cancel_left_eq] at hlist
  exact encodeURIComponent_injective (String.toList_inj.mp hlist)

theorem amount_pos_of_mem {fee : ProviderFee} (h : fee ∈ positiveFees fees) : 0 < fee.amount :=
  of_decide_eq_true (List.mem_filter.mp h).2

theorem fee_added_nonneg (reportId accountId : String) (fees : List ProviderFee) (k : String) :
    0 ≤ feeAdded reportId accountId fees k := by
  apply List.sum_nonneg
  intro x hx
  obtain ⟨fee, hfee, rfl⟩ := List.mem_map.mp hx
  exact mul_nonneg (Nat.cast_nonneg _) (amount_pos_of_mem hfee).le

/-- What the fees add under the key of a channel. -/
theorem fee_added_channel (reportId accountId : String) (fees : List ProviderFee) (channel : String) :
    feeAdded reportId accountId fees (channelFeeKey channel) =
      (((positiveFees fees).filter fun fee => fee.paymentChannelId = channel).map (·.amount)).sum := by
  have hservice : paymentServiceFee ≠ channelFeeKey channel := by
    intro heq
    have := isChannelFee_channelFeeKey channel
    rw [← heq, isChannelFee_paymentServiceFee] at this
    exact nomatch this
  have htotal : reportTotal ≠ channelFeeKey channel := by
    intro heq
    have := isChannelFee_channelFeeKey channel
    rw [← heq, isChannelFee_reportTotal] at this
    exact nomatch this
  unfold feeAdded addedTo
  simp only [fee_keys]
  induction positiveFees fees with
  | nil => rfl
  | cons fee rest ih =>
    rw [List.map_cons, List.sum_cons, ih]
    by_cases hchannel : fee.paymentChannelId = channel
    · subst hchannel
      simp [hservice, htotal]
    · have hkey : channelFeeKey fee.paymentChannelId ≠ channelFeeKey channel := fun heq => hchannel (channelFeeKey_injective heq)
      simp [hservice, htotal, hkey, hchannel]

/-- Kinds of keys that no fee has. -/
theorem Raised.fees_kept (h : Raised db db' reportId accountId (feeAdded reportId accountId fees)) {p : String → Bool}
    (hservice : p paymentServiceFee = false) (hchannel : ∀ channel, p (channelFeeKey channel) = false)
    (htotal : p reportTotal = false) : rowsSum db' reportId accountId p = rowsSum db reportId accountId p := by
  rw [h.rows_sum ∅, Finset.sum_empty, add_zero]
  intro k _ hp
  apply added_of_forall_notMem
  intro fee _ hk
  rw [fee_keys] at hk
  simp only [List.mem_cons, List.not_mem_nil, or_false] at hk
  rcases hk with rfl | rfl | rfl
  · exact absurd hp (by simp [hservice])
  · exact absurd hp (by simp [hchannel])
  · exact absurd hp (by simp [htotal])

/-- Each channel's row grows by what the fees of the channel round to. -/
theorem Raised.channels_sum (h : Raised db db' reportId accountId (feeAdded reportId accountId fees))
    (hnonneg : ∀ k, isChannelFee k = true → 0 ≤ storedAmount db reportId accountId k) :
    rowsSum db' reportId accountId isChannelFee = rowsSum db reportId accountId isChannelFee +
      ((channelSums fees).map toColumn).sum := by
  have hnodup : ((((positiveFees fees).map (·.paymentChannelId)).dedup).map channelFeeKey).Nodup :=
    (List.nodup_dedup _).map channelFeeKey_injective
  rw [h.rows_sum ((((positiveFees fees).map (·.paymentChannelId)).dedup).map channelFeeKey).toFinset,
    List.sum_toFinset _ hnodup]
  · congr 1
    unfold channelSums
    rw [List.map_map, List.map_map]
    congr 1
    apply List.map_congr_left
    intro channel _
    simp only [Function.comp_apply]
    rw [if_pos (isChannelFee_channelFeeKey channel), ← fee_added_channel reportId accountId]
    exact grown_by_eq (rounds_alike_of_nonneg (fee_added_nonneg _ _ _ _) (hnonneg _ (isChannelFee_channelFeeKey channel)))
  · intro k hk hp
    apply added_of_forall_notMem
    intro fee hfee hmem
    rw [fee_keys] at hmem
    simp only [List.mem_cons, List.not_mem_nil, or_false] at hmem
    rcases hmem with rfl | rfl | rfl
    · exact absurd hp (by simp [isChannelFee_paymentServiceFee])
    · exact hk (List.mem_toFinset.mpr (List.mem_map_of_mem (List.mem_dedup.mpr (List.mem_map_of_mem hfee))))
    · exact absurd hp (by simp [isChannelFee_reportTotal])

end Fees

end Postral.Reports
