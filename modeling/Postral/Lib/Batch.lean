import Postral.Lib.Table

/-! # Parts of a table and batches of writes -/

namespace Table

variable {κ ρ : Type} {key : ρ → κ} {M : Type*}

/-- Sum of `f` over the rows that meet `p`. -/
def sumOf [AddCommMonoid M] (t : Table key) (p : ρ → Prop) [DecidablePred p] (f : ρ → M) : M :=
  ((t.rows.filter p).map f).sum

theorem sumOf_eq_total [AddCommMonoid M] (t : Table key) (p : ρ → Prop) [DecidablePred p] (f : ρ → M) :
    t.sumOf p f = t.total fun r => if p r then f r else 0 := by
  unfold sumOf total
  induction t.rows with
  | nil => simp
  | cons r rows ih => by_cases h : p r <;> simp [h, ih]

theorem eq_of_rows {t u : Table key} (h : t.rows = u.rows) : t = u := by
  cases t
  cases u
  simp_all

/-- `DELETE .. WHERE p`. -/
def delete (t : Table key) (p : ρ → Prop) [DecidablePred p] : Table key where
  rows := t.rows.filter (¬ p ·)
  nodup := t.nodup.sublist ((List.filter_sublist (p := fun r => ¬ p r)).map key)

@[simp]
theorem mem_delete {t : Table key} {p : ρ → Prop} [DecidablePred p] {r : ρ} :
    r ∈ (t.delete p).rows ↔ r ∈ t.rows ∧ ¬ p r := by
  simp [delete]

theorem eq_of_key {t : Table key} {r r' : ρ} (hr : r ∈ t.rows) (hr' : r' ∈ t.rows) (h : key r = key r') : r = r' :=
  List.inj_on_of_nodup_map t.nodup hr hr' h

theorem rows_eq_of_keys {t t' : Table key} (hkeys : t'.rows.map key = t.rows.map key)
    (hrows : ∀ r ∈ t'.rows, r ∈ t.rows) : t'.rows = t.rows := by
  have hlength : t'.rows.length = t.rows.length := by simpa using congrArg List.length hkeys
  apply List.ext_getElem hlength
  intro i hi hi'
  apply eq_of_key (hrows _ (List.getElem_mem hi)) (List.getElem_mem hi')
  have hget := congrArg (fun ks => ks[i]?) hkeys
  simpa [List.getElem?_map, List.getElem?_eq_getElem hi, List.getElem?_eq_getElem hi'] using hget

theorem length_delete (t : Table key) (p : ρ → Prop) [DecidablePred p] :
    t.rows.length = (t.delete p).rows.length + t.rows.countP p := by
  have h := List.length_eq_countP_add_countP (p := fun r => decide (p r)) (l := t.rows)
  rw [h, delete, ← List.countP_eq_length_filter, Nat.add_comm]
  congr 1
  apply List.countP_congr
  simp

/-- The keys that a deletion takes out of a table. -/
theorem key_deleted_iff {t : Table key} {p : ρ → Prop} [DecidablePred p] {k : κ} :
    k ∈ t.rows.map key ∧ k ∉ (t.delete p).rows.map key ↔ k ∈ (t.rows.filter p).map key := by
  constructor
  · rintro ⟨hstored, hgone⟩
    obtain ⟨r, hr, rfl⟩ := List.mem_map.mp hstored
    have hp : p r := by
      by_contra hp
      exact hgone (List.mem_map.mpr ⟨r, mem_delete.mpr ⟨hr, hp⟩, rfl⟩)
    exact List.mem_map.mpr ⟨r, List.mem_filter.mpr ⟨hr, by simpa using hp⟩, rfl⟩
  · intro h
    obtain ⟨r, hr, rfl⟩ := List.mem_map.mp h
    obtain ⟨hmem, hp⟩ := List.mem_filter.mp hr
    refine ⟨List.mem_map.mpr ⟨r, hmem, rfl⟩, fun hleft => ?_⟩
    obtain ⟨r', hr', hkey⟩ := List.mem_map.mp hleft
    obtain ⟨hmem', hp'⟩ := mem_delete.mp hr'
    rw [eq_of_key hmem' hmem hkey] at hp'
    exact hp' (by simpa using hp)

variable [DecidableEq κ]

theorem total_save_sub [AddCommGroup M] (t : Table key) (r : ρ) (f : ρ → M) :
    (t.save r).total f = t.total f + (f r - ((t.find (key r)).map f).getD 0) := by
  rw [← add_sub_assoc, eq_sub_iff_add_eq]
  exact total_save t r f

/-- Saving a row moves the sum of its part, and of no other. -/
theorem sumOf_save [AddCommGroup M] (t : Table key) (r : ρ) {p : ρ → Prop} [DecidablePred p] (f : ρ → M)
    (hp : ∀ x, key x = key r → (p x ↔ p r)) :
    (t.save r).sumOf p f = t.sumOf p f + if p r then f r - ((t.find (key r)).map f).getD 0 else 0 := by
  rw [sumOf_eq_total, sumOf_eq_total, total_save_sub]
  cases hfind : t.find (key r) with
  | none => by_cases h : p r <;> simp [h]
  | some old => by_cases h : p r <;> simp [h, hp old (key_of_find hfind)]

/-- A row that grows by `added` moves the sum of its group by `added`. -/
theorem sumOf_group_save {γ : Type} [DecidableEq γ] [AddCommGroup M] {t : Table key} {r : ρ} (group : ρ → γ)
    {f : ρ → M} (fresh : ρ) (added : M) (hgroup : ∀ x y, key x = key y → group x = group y) (hfresh : f fresh = 0)
    (hadded : f r = f ((t.find (key r)).getD fresh) + added) (c : γ) :
    (t.save r).sumOf (fun x => group x = c) f =
      t.sumOf (fun x => group x = c) f + if c = group r then added else 0 := by
  rw [sumOf_save _ _ _ fun x hx => by rw [hgroup x r hx], hadded, ← Option.getD_map f fresh, hfresh]
  by_cases hc : c = group r
  · simp [hc]
  · simp [hc, Ne.symm hc]

theorem rows_save (t : Table key) (r : ρ) : (t.save r).rows =
    if key r ∈ t.rows.map key then t.rows.map fun x => if key x = key r then r else x else t.rows ++ [r] := rfl

/-- Replacing a row keeps the keys in their order. -/
theorem map_key_save {t : Table key} {r : ρ} (h : key r ∈ t.rows.map key) : (t.save r).rows.map key = t.rows.map key := by
  rw [rows_save, if_pos h, List.map_map]
  apply List.map_congr_left
  intro x _
  by_cases hx : key x = key r <;> simp [hx]

theorem save_save (t : Table key) {a b : ρ} (h : key a = key b) : (t.save a).save b = t.save b := by
  apply eq_of_rows
  have hmem : key b ∈ (t.save a).rows.map key := List.mem_map.mpr ⟨a, mem_save.mpr (Or.inl rfl), h⟩
  rw [rows_save, if_pos hmem, rows_save, rows_save]
  by_cases hb : key b ∈ t.rows.map key
  · rw [if_pos hb, if_pos (h ▸ hb), List.map_map]
    apply List.map_congr_left
    intro x _
    by_cases hx : key x = key b <;> simp [hx, h]
  · have hkeep : ∀ x ∈ t.rows, (if key x = key b then b else x) = x :=
      fun x hx => if_neg fun heq => hb (List.mem_map.mpr ⟨x, hx, heq⟩)
    rw [if_neg hb, if_neg (h ▸ hb), List.map_append, List.map_congr_left hkeep, List.map_id']
    simp [h]

/-! ## The value under a key -/

/-- `f` of the row under a key, or zero. -/
def value [Zero M] (t : Table key) (f : ρ → M) (k : κ) : M := ((t.find k).map f).getD 0

theorem value_of_mem [Zero M] {t : Table key} {f : ρ → M} {r : ρ} (h : r ∈ t.rows) : t.value f (key r) = f r := by
  rw [value, find_of_mem h]
  rfl

theorem value_of_not_mem [Zero M] {t : Table key} {f : ρ → M} {k : κ} (h : k ∉ t.rows.map key) : t.value f k = 0 := by
  have hnone : t.find k = none := find_eq_none_iff.mpr fun r hr hk => h (List.mem_map.mpr ⟨r, hr, hk⟩)
  rw [value, hnone]
  rfl

theorem total_eq_sum [AddCommMonoid M] (t : Table key) (f : ρ → M) {K : Finset κ} (hK : ∀ r ∈ t.rows, key r ∈ K) :
    t.total f = ∑ k ∈ K, t.value f k := by
  have hsub : (t.rows.map key).toFinset ⊆ K := by
    intro k hk
    obtain ⟨r, hr, rfl⟩ := List.mem_map.mp (List.mem_toFinset.mp hk)
    exact hK r hr
  have hzero : ∀ k ∈ K, k ∉ (t.rows.map key).toFinset → t.value f k = 0 :=
    fun k _ hk => value_of_not_mem fun hmem => hk (List.mem_toFinset.mpr hmem)
  rw [← Finset.sum_subset hsub hzero, List.sum_toFinset _ t.nodup, List.map_map]
  exact congrArg List.sum (List.map_congr_left fun r hr => (value_of_mem hr).symm)

/-- Tables that differ under the keys of `L` only. -/
theorem total_change [AddCommGroup M] {t t' : Table key} {f : ρ → M} (L : Finset κ)
    (h : ∀ k, k ∉ L → t'.value f k = t.value f k) :
    t'.total f = t.total f + ∑ k ∈ L, (t'.value f k - t.value f k) := by
  have hsum := fun u : Table key => total_eq_sum u f (K := (t.rows.map key ++ t'.rows.map key).toFinset ∪ L)
  rw [hsum t fun r hr => by simp [List.mem_map_of_mem hr], hsum t' fun r hr => by simp [List.mem_map_of_mem hr],
    ← sub_eq_iff_eq_add', ← Finset.sum_sub_distrib]
  exact (Finset.sum_subset Finset.subset_union_right fun k _ hk => by rw [h k hk, sub_self]).symm

/-- At most one key meets `p`. -/
theorem sumOf_eq_value [AddCommMonoid M] (t : Table key) {p : ρ → Prop} [DecidablePred p] {f : ρ → M} {k : κ}
    (h : ∀ r ∈ t.rows, p r → key r = k) : t.sumOf p f = t.value (fun r => if p r then f r else 0) k := by
  rw [sumOf_eq_total, total_eq_sum t _ (K := insert k (t.rows.map key).toFinset)
    fun r hr => Finset.mem_insert_of_mem (List.mem_toFinset.mpr (List.mem_map_of_mem hr))]
  refine Finset.sum_eq_single k (fun k' _ hne => ?_) fun hk => absurd (Finset.mem_insert_self k _) hk
  unfold value
  cases hfind : t.find k' with
  | none => rfl
  | some r =>
    obtain ⟨hr, rfl⟩ := find_eq_some_iff.mp hfind
    exact if_neg fun hp => hne (h r hr hp)

omit [DecidableEq κ] in
theorem length_filter_le_one {t : Table key} {p : ρ → Prop} [DecidablePred p]
    (h : ∀ r ∈ t.rows, ∀ r' ∈ t.rows, p r → p r' → key r = key r') : (t.rows.filter p).length ≤ 1 := by
  have hnodup : (t.rows.filter p).Nodup := List.Nodup.filter _ (List.Nodup.of_map _ t.nodup)
  have hsame : ∀ r ∈ t.rows.filter p, ∀ r' ∈ t.rows.filter p, r = r' := by
    intro r hr r' hr'
    obtain ⟨hr, hp⟩ := List.mem_filter.mp hr
    obtain ⟨hr', hp'⟩ := List.mem_filter.mp hr'
    exact eq_of_key hr hr' (h r hr r' hr' (of_decide_eq_true hp) (of_decide_eq_true hp'))
  generalize t.rows.filter p = rows at hnodup hsame
  match rows with
  | [] => simp
  | [r] => simp
  | r :: r' :: rows =>
    have heq := hsame r List.mem_cons_self r' (List.mem_cons_of_mem _ List.mem_cons_self)
    simp [heq] at hnodup

/-! ## Batches -/

def saveAll (t : Table key) (rows : List ρ) : Table key := rows.foldl save t

theorem saveAll_nil (t : Table key) : t.saveAll [] = t := rfl

theorem saveAll_cons (t : Table key) (r : ρ) (rows : List ρ) : t.saveAll (r :: rows) = (t.save r).saveAll rows := rfl

/-- A row that is stored already. -/
theorem save_of_mem {t : Table key} {r : ρ} (h : r ∈ t.rows) : t.save r = t := by
  apply eq_of_rows
  rw [rows_save, if_pos (List.mem_map_of_mem h)]
  refine (List.map_congr_left fun x hx => ?_).trans (List.map_id _)
  split <;> rename_i hkey
  · exact (eq_of_key hx h hkey).symm
  · rfl

theorem saveAll_of_mem {t : Table key} {rows : List ρ} (h : ∀ r ∈ rows, r ∈ t.rows) : t.saveAll rows = t := by
  induction rows with
  | nil => rfl
  | cons r rows ih =>
    rw [saveAll_cons, save_of_mem (h r List.mem_cons_self)]
    exact ih fun x hx => h x (List.mem_cons_of_mem _ hx)

/-- What a batch with different keys leaves under a key. -/
theorem find_saveAll (t : Table key) {rows : List ρ} (h : (rows.map key).Nodup) (k : κ) :
    (t.saveAll rows).find k = (rows.find? fun r => key r = k).or (t.find k) := by
  induction rows generalizing t with
  | nil => simp [saveAll_nil]
  | cons r rows ih =>
    obtain ⟨hr, hrows⟩ := List.nodup_cons.mp h
    rw [saveAll_cons, ih _ hrows, find_save, List.find?_cons]
    by_cases hk : key r = k
    · subst hk
      have hnone : rows.find? (fun x => key x = key r) = none := by
        rw [List.find?_eq_none]
        intro x hx heq
        exact hr (List.mem_map.mpr ⟨x, hx, by simpa using heq⟩)
      simp [hnone]
    · simp [hk, Ne.symm hk]

end Table

/-! ## Sums by group -/

/-- Weighted counts, summed up over the elements that meet `p`. -/
theorem List.sum_count_groups {α β : Type*} [DecidableEq β] (g : α → List β) (c : α → ℤ) (p : β → Bool) {xs : List α}
    {S : Finset β} (h : ∀ x ∈ xs, ∀ b ∈ g x, b ∈ S) :
    ∑ b ∈ S, (if p b = true then (xs.map fun x => ((g x).count b : ℤ) * c x).sum else 0) =
      (xs.map fun x => ((g x).countP p : ℤ) * c x).sum := by
  have hone : ∀ (bs : List β), (∀ b ∈ bs, b ∈ S) → ∑ b ∈ S, (if p b = true then (bs.count b : ℤ) else 0) = bs.countP p := by
    intro bs
    induction bs with
    | nil => simp
    | cons b bs ih =>
      intro hbs
      have hterm : ∀ b', (if p b' = true then ((b :: bs).count b' : ℤ) else 0) =
          (if p b' = true then (bs.count b' : ℤ) else 0) + if b = b' then (if p b' = true then 1 else 0) else 0 := by
        intro b'
        rw [List.count_cons]
        by_cases hp : p b' = true <;> by_cases hb : b = b' <;> simp [hp, hb]
      rw [Finset.sum_congr rfl fun b' _ => hterm b', Finset.sum_add_distrib,
        ih fun b' hb' => hbs b' (List.mem_cons_of_mem _ hb'), Finset.sum_ite_eq, if_pos (hbs b List.mem_cons_self), List.countP_cons]
      push_cast
      rfl
  induction xs with
  | nil => simp
  | cons x xs ih =>
    have hterm : ∀ b, (if p b = true then ((x :: xs).map fun x => ((g x).count b : ℤ) * c x).sum else 0) =
        (if p b = true then ((g x).count b : ℤ) else 0) * c x +
          if p b = true then (xs.map fun x => ((g x).count b : ℤ) * c x).sum else 0 := by
      intro b
      by_cases hp : p b = true <;> simp [hp]
    rw [Finset.sum_congr rfl fun b _ => hterm b, Finset.sum_add_distrib, ← Finset.sum_mul,
      hone _ (h x List.mem_cons_self), ih fun y hy => h y (List.mem_cons_of_mem _ hy), List.map_cons, List.sum_cons]

/-- A sum over the elements of a list, group by group. -/
theorem List.sum_map_groups {α β M : Type*} [AddCommMonoid M] [DecidableEq β] (g : α → β) (f : α → M)
    {groups : List β} (hnodup : groups.Nodup) {xs : List α} (h : ∀ x ∈ xs, g x ∈ groups) :
    (groups.map fun b => ((xs.filter fun x => g x = b).map f).sum).sum = (xs.map f).sum := by
  have hone : ∀ (groups : List β) (b : β) (m : M), groups.Nodup → b ∈ groups →
      (groups.map fun c => if b = c then m else 0).sum = m := by
    intro groups b m hnodup hb
    induction groups with
    | nil => simp at hb
    | cons c groups ih =>
      obtain ⟨hc, hrest⟩ := List.nodup_cons.mp hnodup
      rw [List.map_cons, List.sum_cons]
      by_cases hbc : b = c
      · subst hbc
        have hzero : (groups.map fun c => if b = c then m else 0) = groups.map fun _ => 0 :=
          List.map_congr_left fun x hx => if_neg (ne_of_mem_of_not_mem hx hc).symm
        simp [hzero]
      · rw [if_neg hbc, zero_add]
        exact ih hrest ((List.mem_cons.mp hb).resolve_left hbc)
  induction xs with
  | nil => simp
  | cons x xs ih =>
    have hsplit : (groups.map fun b => (((x :: xs).filter fun y => g y = b).map f).sum) =
        groups.map fun b => (if g x = b then f x else 0) + ((xs.filter fun y => g y = b).map f).sum := by
      apply List.map_congr_left
      intro b _
      by_cases hx : g x = b <;> simp [hx]
    rw [hsplit, List.sum_map_add, hone groups (g x) (f x) hnodup (h x List.mem_cons_self),
      ih fun y hy => h y (List.mem_cons_of_mem _ hy), List.map_cons, List.sum_cons]

/-- Elements that add nothing may be left out. -/
theorem List.sum_map_filter_of_zero {α M : Type*} [AddCommMonoid M] {p : α → Bool} {f : α → M} {xs : List α}
    (h : ∀ x ∈ xs, p x = false → f x = 0) : ((xs.filter p).map f).sum = (xs.map f).sum := by
  induction xs with
  | nil => rfl
  | cons x xs ih =>
    have hrest := ih fun y hy => h y (List.mem_cons_of_mem _ hy)
    cases hx : p x with
    | true => simp [hx, hrest]
    | false => simp [hx, hrest, h x List.mem_cons_self hx]

/-! ## Counting -/

/-- A weaker test counts more, unless nothing meets it alone. -/
theorem List.countP_eq_iff_of_imp {α : Type*} {p q : α → Bool} {xs : List α} (h : ∀ x ∈ xs, p x = true → q x = true) :
    xs.countP q = xs.countP p ↔ ∀ x ∈ xs, q x = true → p x = true := by
  induction xs with
  | nil => simp
  | cons x xs ih =>
    obtain ⟨hx, hxs⟩ := List.forall_mem_cons.mp h
    have hle := List.countP_mono_left hxs
    have ih := ih hxs
    rw [List.countP_cons, List.countP_cons, List.forall_mem_cons, ← ih]
    cases hq : q x with
    | false =>
      have hp : p x = false := Bool.eq_false_iff.mpr fun hp => by simp [hx hp] at hq
      simp [hp]
    | true =>
      cases hp : p x with
      | false =>
        simp only [Bool.false_eq_true, if_false, if_true]
        constructor
        · omega
        · rintro ⟨hfalse, -⟩
          exact absurd (hfalse trivial) (by simp)
      | true => simp

/-- The elements of `ys` that are in `xs` are all of `xs`. -/
theorem List.countP_mem_eq_length_iff {α : Type*} [DecidableEq α] {xs ys : List α} (hxs : xs.Nodup) (hys : ys.Nodup) :
    ys.countP (· ∈ xs) = xs.length ↔ ∀ x ∈ xs, x ∈ ys := by
  have hperm : (ys.filter (· ∈ xs)).Perm (xs.filter (· ∈ ys)) := by
    rw [List.perm_ext_iff_of_nodup (hys.filter _) (hxs.filter _)]
    intro x
    simp [and_comm]
  rw [List.countP_eq_length_filter, hperm.length_eq, ← List.countP_eq_length_filter, List.countP_eq_length]
  simp
