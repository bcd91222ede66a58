import Postral.Tax
import Postral.Lib.Group

/-!
# Merging taxes by percent (`mergeTaxesByPercent`)

Every merge computes the percent again from the amounts so far.
-/

open Check Group

namespace Postral

/-- What `generateTaxDto` returns. -/
def Generated (tax : TaxDTO) : Prop :=
  ∃ taxName fullAmount percent taxAmount, generateTaxDto taxName fullAmount percent taxAmount = .ok tax

def fullSum (taxes : List TaxDTO) : ℚ := (taxes.map (·.fullAmount)).sum

def taxSum (taxes : List TaxDTO) : ℚ := (taxes.map (·.taxAmount)).sum

/-- The sums do not divide a tax by an untaxed amount of zero. -/
def Dividable (taxes : List TaxDTO) : Prop := taxSum taxes ≠ 0 → fullSum taxes - taxSum taxes ≠ 0

/-- The percent of the sums, to the twenty decimals of a division. -/
def sumPercent (taxes : List TaxDTO) : ℚ :=
  if taxSum taxes = 0 then 0 else div (taxSum taxes) (fullSum taxes - taxSum taxes) * 100

def withPercent (percent : ℚ) (taxes : List TaxDTO) : List TaxDTO := withKey (·.percent) percent taxes

def percents (taxes : List TaxDTO) : List ℚ := keys (·.percent) taxes

/-- One entry for each percent, with the sums of that percent. -/
structure MergedByPercent (taxes merged : List TaxDTO) : Prop where
  nodup : (merged.map (·.percent)).Nodup
  percents : ∀ percent, percent ∈ merged.map (·.percent) ↔ percent ∈ taxes.map (·.percent)
  full : ∀ tax ∈ merged, tax.fullAmount = fullSum (withPercent tax.percent taxes)
  tax : ∀ tax ∈ merged, tax.taxAmount = taxSum (withPercent tax.percent taxes)
  untax : ∀ tax ∈ merged, tax.untaxAmount = tax.fullAmount - tax.taxAmount

/-- Where a percent has several taxes, the percent of their sums is that percent, and no merge on the way divides by
zero, in whatever order. -/
def Mergeable (taxes : List TaxDTO) : Prop :=
  ∀ percent, (2 ≤ (withPercent percent taxes).length → sumPercent (withPercent percent taxes) = percent) ∧
    ∀ some, List.Sublist some (withPercent percent taxes) → 2 ≤ some.length → Dividable some

/-! ## One merge -/

/-- What a merge makes of the sums. -/
def total (taxes : List TaxDTO) : TaxDTO :=
  ⟨"Total", fullSum taxes, sumPercent taxes, taxSum taxes, fullSum taxes - taxSum taxes⟩

/-- A single tax stays as it is. -/
def entryOf : List TaxDTO → TaxDTO
  | [tax] => tax
  | taxes => total taxes

section Sums

variable {taxes others : List TaxDTO}

theorem generated_untax {tax : TaxDTO} (h : Generated tax) : tax.untaxAmount = tax.fullAmount - tax.taxAmount := by
  obtain ⟨taxName, fullAmount, percent, taxAmount, h⟩ := h
  unfold generateTaxDto at h
  split at h <;> simp only [bind_eq_ok, pure_eq_ok, throw_ne_ok] at h
  · obtain ⟨amount, -, rfl⟩ := h
    simp [calculateUntaxedPrice]
  · obtain ⟨percent, -, rfl⟩ := h
    simp [calculateUntaxedPrice]

theorem calculate_percent_eq_ok {fullAmount taxAmount percent : ℚ} :
    calculatePercent fullAmount taxAmount = .ok percent ↔ (taxAmount ≠ 0 → fullAmount - taxAmount ≠ 0) ∧
      (if taxAmount = 0 then 0 else div taxAmount (fullAmount - taxAmount) * 100) = percent := by
  unfold calculatePercent divideNumberValues calculateUntaxedPrice
  by_cases hzero : taxAmount = 0
  · simp [hzero, multiplyNumberValues]
  · simp [hzero, multiplyNumberValues]

theorem merge_taxes_eq_ok {tax : TaxDTO} : mergeTaxes taxes = .ok tax ↔ Dividable taxes ∧ tax = total taxes := by
  unfold mergeTaxes generateTaxDto
  simp only [bind_eq_ok, pure_eq_ok, calculate_percent_eq_ok, addNumberValues_eq_sum]
  constructor
  · rintro ⟨_, ⟨hdividable, rfl⟩, rfl⟩
    refine ⟨hdividable, ?_⟩
    unfold calculateUntaxedPrice
    rw [minusNumberValues_eq_sub_sum, List.sum_singleton]
    rfl
  · rintro ⟨hdividable, rfl⟩
    refine ⟨_, ⟨hdividable, rfl⟩, ?_⟩
    unfold calculateUntaxedPrice
    rw [minusNumberValues_eq_sub_sum, List.sum_singleton]
    rfl

theorem fullSum_perm (h : taxes.Perm others) : fullSum taxes = fullSum others := (h.map _).sum_eq

theorem taxSum_perm (h : taxes.Perm others) : taxSum taxes = taxSum others := (h.map _).sum_eq

theorem dividable_perm (h : taxes.Perm others) : Dividable taxes ↔ Dividable others := by
  unfold Dividable
  rw [fullSum_perm h, taxSum_perm h]

theorem total_perm (h : taxes.Perm others) : total taxes = total others := by
  unfold total sumPercent
  rw [fullSum_perm h, taxSum_perm h]

theorem entryOf_of_two_le (h : 2 ≤ taxes.length) : entryOf taxes = total taxes := by
  match taxes, h with
  | _ :: _ :: _, _ => rfl

theorem entryOf_perm (h : taxes.Perm others) : entryOf taxes = entryOf others := by
  rcases Nat.lt_or_ge taxes.length 2 with hlength | hlength
  · rcases Nat.lt_or_ge taxes.length 1 with hnil | hone
    · obtain rfl : taxes = [] := List.length_eq_zero_iff.mp (by omega)
      rw [h.nil_eq]
    · obtain ⟨tax, rfl⟩ := List.length_eq_one_iff.mp (by omega : taxes.length = 1)
      rw [List.singleton_perm.mp h]
  · rw [entryOf_of_two_le hlength, entryOf_of_two_le (h.length_eq ▸ hlength), total_perm h]

theorem entryOf_sums (h : taxes ≠ []) : (entryOf taxes).fullAmount = fullSum taxes ∧ (entryOf taxes).taxAmount = taxSum taxes := by
  match taxes, h with
  | [_], _ => simp [entryOf, fullSum, taxSum]
  | _ :: _ :: _, _ => exact ⟨rfl, rfl⟩

end Sums

/-! ## The fold over one percent -/

theorem mergeInto_eq (tax : TaxDTO) (groups : List (ℚ × TaxDTO)) :
    mergeInto tax groups = Group.insert (·.percent) (fun a b => mergeTaxes [a, b]) tax groups := by
  induction groups with
  | nil => rfl
  | cons g groups ih => simp only [mergeInto, Group.insert, ih]

/-- The induction is on the taxes of the percent, from the last one: it is merged with what the others made. -/
theorem merged_iff {taxes : List TaxDTO} {tax : TaxDTO} : Merged (fun a b => mergeTaxes [a, b]) taxes tax ↔
    taxes ≠ [] ∧ (∀ first, List.IsPrefix first taxes → 2 ≤ first.length → Dividable first) ∧ tax = entryOf taxes := by
  induction taxes using List.reverseRecOn generalizing tax with
  | nil => simp [Merged]
  | append_singleton taxes last ih =>
    rcases eq_or_ne taxes [] with rfl | hne
    · rw [List.nil_append, merged_singleton]
      have hshort : ∀ first, List.IsPrefix first [last] → ¬ 2 ≤ first.length := by
        intro first hfirst hlength
        have := hfirst.length_le
        simp at this
        omega
      constructor
      · rintro rfl
        exact ⟨by simp, fun first hfirst hlength => absurd hlength (hshort first hfirst), rfl⟩
      · rintro ⟨-, -, rfl⟩
        rfl
    · have hsums := entryOf_sums hne
      have hsame : fullSum [entryOf taxes, last] = fullSum (taxes ++ [last]) ∧
          taxSum [entryOf taxes, last] = taxSum (taxes ++ [last]) := by
        simp only [fullSum, taxSum, List.map_append, List.sum_append, List.map_cons, List.map_nil, List.sum_cons] at hsums ⊢
        rw [hsums.1, hsums.2]
        exact ⟨rfl, rfl⟩
      have hdividable : Dividable [entryOf taxes, last] ↔ Dividable (taxes ++ [last]) := by
        unfold Dividable
        rw [hsame.1, hsame.2]
      have htotal : total [entryOf taxes, last] = total (taxes ++ [last]) := by
        unfold total sumPercent
        rw [hsame.1, hsame.2]
      have hlength : 2 ≤ (taxes ++ [last]).length := by
        have := List.length_pos_iff.mpr hne
        rw [List.length_append, List.length_singleton]
        omega
      rw [merged_append_singleton hne, entryOf_of_two_le hlength]
      constructor
      · rintro ⟨z, hz, hmerge⟩
        obtain ⟨-, hfirst, rfl⟩ := ih.mp hz
        obtain ⟨hdiv, rfl⟩ := merge_taxes_eq_ok.mp hmerge
        refine ⟨by simp, fun first hinitial htwo => ?_, htotal⟩
        rcases List.prefix_concat_iff.mp hinitial with rfl | hinitial
        · exact hdividable.mp hdiv
        · exact hfirst first hinitial htwo
      · rintro ⟨-, hfirst, rfl⟩
        refine ⟨entryOf taxes, ih.mpr ⟨hne, fun first hinitial => hfirst first (hinitial.trans (List.prefix_append _ _)), rfl⟩, ?_⟩
        exact merge_taxes_eq_ok.mpr ⟨hdividable.mpr (hfirst _ List.prefix_rfl hlength), htotal.symm⟩

/-! ## All percents -/

section Percents

variable {taxes others merged : List TaxDTO}

theorem withPercent_ne_nil {percent : ℚ} : withPercent percent taxes ≠ [] ↔ percent ∈ percents taxes := withKey_ne_nil

theorem withPercent_perm (h : taxes.Perm others) (percent : ℚ) :
    (withPercent percent taxes).Perm (withPercent percent others) := h.filter _

theorem mem_percents {percent : ℚ} : percent ∈ percents taxes ↔ percent ∈ taxes.map (·.percent) := by
  rw [percents, mem_keys, List.mem_map]

/-- No merge on the way divides by zero, in the order of the list. -/
def DividableInOrder (taxes : List TaxDTO) : Prop :=
  ∀ percent ∈ percents taxes, ∀ first, List.IsPrefix first (withPercent percent taxes) → 2 ≤ first.length → Dividable first

/-- Every percent with its entry, in the order of the first taxes. -/
def entries (taxes : List TaxDTO) : List (ℚ × TaxDTO) :=
  (percents taxes).map fun percent => (percent, entryOf (withPercent percent taxes))

theorem foldlM_merge_into_iff {groups : List (ℚ × TaxDTO)} :
    taxes.foldlM (fun groups tax => mergeInto tax groups) [] = .ok groups ↔
      DividableInOrder taxes ∧ groups = entries taxes := by
  simp only [mergeInto_eq, foldlM_insert_iff, merged_iff]
  constructor
  · rintro ⟨hkeys, hall⟩
    refine ⟨fun percent hpercent => ?_, ?_⟩
    · obtain ⟨g, hg, rfl⟩ := List.mem_map.mp (hkeys ▸ hpercent : percent ∈ groups.map (·.1))
      exact (hall g hg).2.1
    · unfold entries percents
      rw [← hkeys, List.map_map]
      conv_lhs => rw [← List.map_id groups]
      apply List.map_congr_left
      intro g hg
      exact Prod.ext rfl (hall g hg).2.2
  · rintro ⟨hdividable, rfl⟩
    refine ⟨by simp [entries, percents, Function.comp_def], fun g hg => ?_⟩
    obtain ⟨percent, hpercent, rfl⟩ := List.mem_map.mp hg
    exact ⟨withPercent_ne_nil.mpr hpercent, hdividable percent hpercent, rfl⟩

/-- The values are those of the groups, in the order of their keys. -/
theorem merge_taxes_by_percent_spec :
    (∃ merged, mergeTaxesByPercent taxes = .ok merged) ↔ DividableInOrder taxes := by
  unfold mergeTaxesByPercent
  simp only [bind_eq_ok, pure_eq_ok, foldlM_merge_into_iff]
  constructor
  · rintro ⟨_, _, ⟨hdividable, -⟩, -⟩
    exact hdividable
  · intro hdividable
    exact ⟨_, _, ⟨hdividable, rfl⟩, rfl⟩

theorem merge_taxes_by_percent_perm (h : mergeTaxesByPercent taxes = .ok merged) :
    merged.Perm ((entries taxes).map (·.2)) := by
  unfold mergeTaxesByPercent at h
  simp only [bind_eq_ok, pure_eq_ok, foldlM_merge_into_iff] at h
  obtain ⟨_, ⟨-, rfl⟩, rfl⟩ := h
  refine List.Perm.map _ ?_
  exact ((List.mergeSort_perm _ _).append_right _).trans (List.filter_append_perm _ _)

theorem entries_perm (h : taxes.Perm others) : (entries taxes).Perm (entries others) := by
  have hentry : ∀ percent, (percent, entryOf (withPercent percent taxes)) = (percent, entryOf (withPercent percent others)) :=
    fun percent => by rw [entryOf_perm (withPercent_perm h percent)]
  unfold entries
  simp only [hentry]
  exact (keys_perm h).map _

end Percents

/-! ## The condition -/

section Condition

variable {taxes merged : List TaxDTO}

theorem Mergeable.percent_entry (hmergeable : Mergeable taxes) {percent : ℚ} (h : percent ∈ percents taxes) :
    (entryOf (withPercent percent taxes)).percent = percent := by
  rcases Nat.lt_or_ge (withPercent percent taxes).length 2 with hlength | hlength
  · have hpos := List.length_pos_iff.mpr (withPercent_ne_nil.mpr h)
    obtain ⟨tax, htax⟩ := List.length_eq_one_iff.mp (by omega : (withPercent percent taxes).length = 1)
    have hmem : tax ∈ withPercent percent taxes := by simp [htax]
    rw [htax]
    exact of_decide_eq_true (List.mem_filter.mp hmem).2
  · rw [entryOf_of_two_le hlength]
    exact (hmergeable percent).1 hlength

theorem Mergeable.dividableInOrder (hmergeable : Mergeable taxes) {others : List TaxDTO} (h : others.Perm taxes) :
    DividableInOrder others := by
  intro percent _ first hfirst hlength
  obtain ⟨some, hperm, hsome⟩ := hfirst.sublist.subperm.trans (withPercent_perm h percent).subperm
  rw [← dividable_perm hperm]
  exact (hmergeable percent).2 some hsome (hperm.length_eq ▸ hlength)

theorem entry_untax (hgenerated : ∀ tax ∈ taxes, Generated tax) {percent : ℚ} (h : percent ∈ percents taxes) :
    (entryOf (withPercent percent taxes)).untaxAmount =
      (entryOf (withPercent percent taxes)).fullAmount - (entryOf (withPercent percent taxes)).taxAmount := by
  have hne := withPercent_ne_nil.mpr h
  have hmem : ∀ tax ∈ withPercent percent taxes, tax ∈ taxes := fun tax htax => (List.mem_filter.mp htax).1
  match hgroup : withPercent percent taxes, hne, hmem with
  | [tax], _, hmem => exact generated_untax (hgenerated tax (hmem tax (by simp)))
  | _ :: _ :: _, _, _ => rfl

theorem Mergeable.merged_by_percent (hmergeable : Mergeable taxes) (hgenerated : ∀ tax ∈ taxes, Generated tax) :
    MergedByPercent taxes ((entries taxes).map (·.2)) := by
  have hpercents : ((entries taxes).map (·.2)).map (·.percent) = percents taxes := by
    unfold entries
    rw [List.map_map, List.map_map]
    conv_rhs => rw [← List.map_id (percents taxes)]
    apply List.map_congr_left
    intro percent h
    exact hmergeable.percent_entry h
  have hentry : ∀ tax ∈ (entries taxes).map (·.2), ∃ percent ∈ percents taxes,
      tax = entryOf (withPercent percent taxes) ∧ tax.percent = percent := by
    intro tax htax
    obtain ⟨_, hg, rfl⟩ := List.mem_map.mp htax
    obtain ⟨percent, hpercent, rfl⟩ := List.mem_map.mp hg
    exact ⟨percent, hpercent, rfl, hmergeable.percent_entry hpercent⟩
  constructor
  · rw [hpercents]
    exact nodup_keys taxes
  · intro percent
    rw [hpercents, mem_percents]
  · intro tax htax
    obtain ⟨percent, hpercent, heq, hsame⟩ := hentry tax htax
    rw [hsame, heq]
    exact (entryOf_sums (withPercent_ne_nil.mpr hpercent)).1
  · intro tax htax
    obtain ⟨percent, hpercent, heq, hsame⟩ := hentry tax htax
    rw [hsame, heq]
    exact (entryOf_sums (withPercent_ne_nil.mpr hpercent)).2
  · intro tax htax
    obtain ⟨percent, hpercent, heq, -⟩ := hentry tax htax
    rw [heq]
    exact entry_untax hgenerated hpercent

/-- The entry of a percent with several taxes has that percent: the entry that has its percent has its sums, so both
have one percent. -/
theorem sum_percent_eq (hmerged : MergedByPercent taxes ((entries taxes).map (·.2))) {percent : ℚ}
    (hlength : 2 ≤ (withPercent percent taxes).length) : sumPercent (withPercent percent taxes) = percent := by
  have hpercent : percent ∈ percents taxes := by
    rw [← withPercent_ne_nil, ← List.length_pos_iff]
    omega
  set entry := entryOf (withPercent percent taxes) with hentry
  have hmem : ∀ p ∈ percents taxes, entryOf (withPercent p taxes) ∈ (entries taxes).map (·.2) := by
    intro p hp
    exact List.mem_map.mpr ⟨_, List.mem_map.mpr ⟨p, hp, rfl⟩, rfl⟩
  have htotal : entry = total (withPercent percent taxes) := entryOf_of_two_le hlength
  have hother : entry.percent ∈ percents taxes := by
    rw [mem_percents, ← hmerged.percents]
    exact List.mem_map_of_mem (hmem percent hpercent)
  -- the entry of the percent that was computed
  have hsame : (entryOf (withPercent entry.percent taxes)).percent = entry.percent := by
    have hfull := hmerged.full entry (hmem percent hpercent)
    have htax := hmerged.tax entry (hmem percent hpercent)
    rcases Nat.lt_or_ge (withPercent entry.percent taxes).length 2 with hshort | hlong
    · have hpos := List.length_pos_iff.mpr (withPercent_ne_nil.mpr hother)
      obtain ⟨tax, hgroup⟩ := List.length_eq_one_iff.mp (by omega : (withPercent entry.percent taxes).length = 1)
      have htaxMem : tax ∈ withPercent entry.percent taxes := by simp [hgroup]
      rw [hgroup]
      exact of_decide_eq_true (List.mem_filter.mp htaxMem).2
    · rw [entryOf_of_two_le hlong]
      have hpercentOf : entry.percent = sumPercent (withPercent percent taxes) := by rw [htotal]; rfl
      have hfullOf : entry.fullAmount = fullSum (withPercent percent taxes) := by rw [htotal]; rfl
      have htaxOf : entry.taxAmount = taxSum (withPercent percent taxes) := by rw [htotal]; rfl
      rw [hfullOf] at hfull
      rw [htaxOf] at htax
      show sumPercent (withPercent entry.percent taxes) = entry.percent
      conv_rhs => rw [hpercentOf]
      unfold sumPercent
      rw [← hfull, ← htax]
  -- each percent has one entry
  have hnodup : ((entries taxes).map fun g => g.2.percent).Nodup := by
    have := hmerged.nodup
    rwa [List.map_map] at this
  have hpair := List.inj_on_of_nodup_map hnodup (List.mem_map.mpr ⟨percent, hpercent, rfl⟩)
    (List.mem_map.mpr ⟨entry.percent, hother, rfl⟩) hsame.symm
  have heq : percent = entry.percent := congrArg Prod.fst hpair
  conv_rhs => rw [heq, htotal]
  rfl

/-- What is merged of a percent, in whatever order, comes first in some order of the list. -/
theorem dividable_of_sublist {percent : ℚ} {some : List TaxDTO} (hsome : List.Sublist some (withPercent percent taxes))
    (hlength : 2 ≤ some.length) (h : ∀ others : List TaxDTO, others.Perm taxes → DividableInOrder others) :
    Dividable some := by
  obtain ⟨rest, hperm⟩ := (hsome.trans List.filter_sublist).exists_perm_append
  have hall : ∀ tax ∈ some, tax.percent = percent := fun tax htax =>
    of_decide_eq_true (List.mem_filter.mp (hsome.subset htax)).2
  have hgroup : withPercent percent (some ++ rest) = some ++ withPercent percent rest := by
    unfold withPercent withKey
    rw [List.filter_append, List.filter_eq_self.mpr fun tax htax => decide_eq_true (hall tax htax)]
  have hpercent : percent ∈ percents (some ++ rest) := by
    rw [← withPercent_ne_nil, hgroup]
    cases some with
    | nil => simp at hlength
    | cons tax some => simp
  exact h (some ++ rest) hperm.symm percent hpercent some (hgroup ▸ List.prefix_append _ _) hlength

end Condition

def sampleTax (fullAmount taxAmount : ℚ) : TaxDTO := ⟨"VAT", fullAmount, 18, taxAmount, fullAmount - taxAmount⟩

theorem generated_sample {fullAmount taxAmount : ℚ} (h : calculateTaxAmount fullAmount 18 = .ok taxAmount) :
    Generated (sampleTax fullAmount taxAmount) := by
  refine ⟨"VAT", fullAmount, some 18, none, ?_⟩
  simp only [generateTaxDto, h]
  simp [bind, Except.bind, pure, Except.pure, sampleTax, calculateUntaxedPrice]

end Postral
