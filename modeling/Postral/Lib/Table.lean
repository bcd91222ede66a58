import Mathlib

/-! # Tables with a primary key -/

/-- The rows of a table. No two of them have the same key. -/
structure Table {κ ρ : Type} (key : ρ → κ) where
  rows : List ρ
  nodup : (rows.map key).Nodup
  deriving DecidableEq

namespace Table

variable {κ ρ : Type} {key : ρ → κ}

def empty : Table key := ⟨[], List.nodup_nil⟩

/-- Sum of `f` over the rows. -/
def total {M : Type*} [AddCommMonoid M] (t : Table key) (f : ρ → M) : M := (t.rows.map f).sum

@[simp]
theorem total_empty {M : Type*} [AddCommMonoid M] (f : ρ → M) : (empty : Table key).total f = 0 := rfl

theorem total_congr {M : Type*} [AddCommMonoid M] {t : Table key} {f g : ρ → M}
    (h : ∀ r ∈ t.rows, f r = g r) : t.total f = t.total g := by
  unfold total
  rw [List.map_congr_left h]

theorem total_add {M : Type*} [AddCommMonoid M] (t : Table key) (f g : ρ → M) :
    t.total (fun r => f r + g r) = t.total f + t.total g := List.sum_map_add

theorem total_nonneg {t : Table key} {f : ρ → ℤ} (h : ∀ r ∈ t.rows, 0 ≤ f r) : 0 ≤ t.total f := by
  apply List.sum_nonneg
  simpa using h

/-- `UPDATE .. WHERE p`. -/
def update (t : Table key) (p : ρ → Bool) (f : ρ → ρ) (hf : ∀ r, key (f r) = key r) : Table key where
  rows := t.rows.map fun r => if p r then f r else r
  nodup := by
    rw [List.map_map, show key ∘ (fun r => if p r then f r else r) = key by
      funext r; simp only [Function.comp_apply]; split <;> simp [hf]]
    exact t.nodup

theorem mem_update {t : Table key} {p : ρ → Bool} {f : ρ → ρ} (hf : ∀ r, key (f r) = key r) {x : ρ} :
    x ∈ (t.update p f hf).rows ↔ (x ∈ t.rows ∧ p x = false) ∨ ∃ r ∈ t.rows, p r = true ∧ x = f r := by
  simp only [update, List.mem_map]
  constructor
  · rintro ⟨r, hr, rfl⟩
    cases hp : p r with
    | true => exact Or.inr ⟨r, hr, hp, by simp⟩
    | false => exact Or.inl ⟨by simpa using hr, by simpa using hp⟩
  · rintro (⟨hx, hp⟩ | ⟨r, hr, hp, rfl⟩)
    · exact ⟨x, hx, by simp [hp]⟩
    · exact ⟨r, hr, by simp [hp]⟩

variable [DecidableEq κ]

/-- The rows as a table, unless two of them have the same key. -/
def ofRows? (rows : List ρ) : Option (Table key) :=
  if h : (rows.map key).Nodup then some ⟨rows, h⟩ else none

theorem ofRows?_eq_some {rows : List ρ} {t : Table key} : ofRows? rows = some t ↔ t.rows = rows := by
  unfold ofRows?
  constructor
  · intro h
    split at h
    · obtain rfl := Option.some.inj h
      rfl
    · simp at h
  · rintro rfl
    simp [t.nodup]

def find (t : Table key) (k : κ) : Option ρ := t.rows.find? fun r => key r = k

/-- Replaces the row with the key of `r`, or adds `r`. -/
def save (t : Table key) (r : ρ) : Table key where
  rows := if key r ∈ t.rows.map key then t.rows.map fun x => if key x = key r then r else x
    else t.rows ++ [r]
  nodup := by
    split <;> rename_i h
    · rw [List.map_map, show key ∘ (fun x => if key x = key r then r else x) = key by
        funext x; simp only [Function.comp_apply]; split <;> simp_all]
      exact t.nodup
    · rw [List.map_append, List.map_singleton, List.nodup_append]
      refine ⟨t.nodup, List.nodup_singleton _, ?_⟩
      rintro a ha b hb rfl
      exact h (List.mem_singleton.mp hb ▸ ha)

/-! ## Reading -/

theorem find_eq_some_iff {t : Table key} {k : κ} {r : ρ} :
    t.find k = some r ↔ r ∈ t.rows ∧ key r = k := by
  unfold find
  constructor
  · intro h
    exact ⟨List.mem_of_find?_eq_some h, by simpa using List.find?_some h⟩
  · rintro ⟨hr, rfl⟩
    cases hfind : t.rows.find? fun x => key x = key r with
    | none => simpa using (List.find?_eq_none.mp hfind) r hr
    | some x =>
      have hkey : key x = key r := by simpa using List.find?_some hfind
      rw [List.inj_on_of_nodup_map t.nodup (List.mem_of_find?_eq_some hfind) hr hkey]

theorem key_of_find {t : Table key} {k : κ} {r : ρ} (h : t.find k = some r) : key r = k :=
  (find_eq_some_iff.mp h).2

theorem mem_of_find {t : Table key} {k : κ} {r : ρ} (h : t.find k = some r) : r ∈ t.rows :=
  (find_eq_some_iff.mp h).1

theorem find_of_mem {t : Table key} {r : ρ} (h : r ∈ t.rows) : t.find (key r) = some r :=
  find_eq_some_iff.mpr ⟨h, rfl⟩

theorem find_eq_none_iff {t : Table key} {k : κ} : t.find k = none ↔ ∀ r ∈ t.rows, key r ≠ k := by
  simp [find]

theorem find_update {t : Table key} {p : ρ → Bool} {f : ρ → ρ} (hf : ∀ r, key (f r) = key r) (k : κ) :
    (t.update p f hf).find k = (t.find k).map fun r => if p r then f r else r := by
  cases hfind : t.find k with
  | none =>
    rw [Option.map_none, find_eq_none_iff]
    rw [find_eq_none_iff] at hfind
    intro x hx
    obtain ⟨hx, -⟩ | ⟨r, hr, -, rfl⟩ := (mem_update hf).mp hx
    · exact hfind x hx
    · exact hf r ▸ hfind r hr
  | some r =>
    obtain ⟨hr, hkey⟩ := find_eq_some_iff.mp hfind
    rw [Option.map_some, find_eq_some_iff, mem_update]
    cases hp : p r with
    | true => exact ⟨Or.inr ⟨r, hr, hp, by simp⟩, by simp [hf, hkey]⟩
    | false => exact ⟨Or.inl ⟨by simpa using hr, by simpa using hp⟩, by simpa using hkey⟩

@[simp]
theorem find_empty (k : κ) : (empty : Table key).find k = none := rfl

/-! ## Writing -/

theorem mem_save {t : Table key} {r x : ρ} :
    x ∈ (t.save r).rows ↔ x = r ∨ (x ∈ t.rows ∧ key x ≠ key r) := by
  unfold save
  by_cases h : key r ∈ t.rows.map key
  · simp only [h, if_true, List.mem_map]
    constructor
    · rintro ⟨y, hy, rfl⟩
      by_cases hk : key y = key r
      · simp [hk]
      · simp [hk, hy]
    · rintro (rfl | ⟨hx, hk⟩)
      · obtain ⟨y, hy, hyx⟩ := List.mem_map.mp h
        exact ⟨y, hy, by simp [hyx]⟩
      · exact ⟨x, hx, by simp [hk]⟩
  · simp only [h, if_false, List.mem_append, List.mem_singleton]
    constructor
    · rintro (hx | rfl)
      · exact Or.inr ⟨hx, fun hk => h (List.mem_map.mpr ⟨x, hx, hk⟩)⟩
      · exact Or.inl rfl
    · rintro (rfl | ⟨hx, -⟩)
      · exact Or.inr rfl
      · exact Or.inl hx

theorem find_save (t : Table key) (r : ρ) (k : κ) :
    (t.save r).find k = if k = key r then some r else t.find k := by
  split <;> rename_i h
  · rw [find_eq_some_iff, mem_save]
    exact ⟨Or.inl rfl, h.symm⟩
  · cases hfind : t.find k with
    | none =>
      rw [find_eq_none_iff] at hfind ⊢
      intro x hx
      rcases mem_save.mp hx with rfl | ⟨hx, -⟩
      · exact fun hk => h hk.symm
      · exact hfind x hx
    | some x =>
      rw [find_eq_some_iff] at hfind ⊢
      exact ⟨mem_save.mpr (Or.inr ⟨hfind.1, by rw [hfind.2]; exact h⟩), hfind.2⟩

@[simp]
theorem find_save_self (t : Table key) (r : ρ) : (t.save r).find (key r) = some r := by
  simp [find_save]

theorem find_save_of_ne {t : Table key} {r : ρ} {k : κ} (h : k ≠ key r) :
    (t.save r).find k = t.find k := by
  simp [find_save, h]

theorem length_save_of_find {t : Table key} {r old : ρ} (h : t.find (key r) = some old) :
    (t.save r).rows.length = t.rows.length := by
  have hmem : key r ∈ t.rows.map key := List.mem_map.mpr ⟨old, mem_of_find h, key_of_find h⟩
  simp [save, hmem]

/-- What saving a row does to a sum: the new value comes in, the old one goes out. -/
theorem total_save {M : Type*} [AddCommMonoid M] (t : Table key) (r : ρ) (f : ρ → M) :
    (t.save r).total f + ((t.find (key r)).map f).getD 0 = t.total f + f r := by
  unfold total save find
  by_cases h : key r ∈ t.rows.map key
  · simp only [h, if_true]
    have hnodup := t.nodup
    revert h hnodup
    generalize t.rows = rows
    intro h hnodup
    induction rows with
    | nil => simp at h
    | cons x xs ih =>
      simp only [List.map_cons, List.nodup_cons] at hnodup
      by_cases hx : key x = key r
      · have hxs : ∀ y ∈ xs, key y ≠ key r :=
          fun y hy hyr => hnodup.1 (List.mem_map.mpr ⟨y, hy, hyr.trans hx.symm⟩)
        have hkeep : (xs.map fun y => if key y = key r then r else y) = xs := by
          rw [List.map_congr_left fun y hy => if_neg (hxs y hy), List.map_id']
        simp only [List.map_cons, hx, if_true, hkeep, List.find?_cons, decide_true, Option.map_some,
          Option.getD_some, List.sum_cons]
        abel
      · have hmem : key r ∈ xs.map key := by
          simp only [List.map_cons, List.mem_cons] at h
          exact h.resolve_left fun hr => hx hr.symm
        have := ih hmem hnodup.2
        simp only [List.map_cons, hx, if_false, List.sum_cons, List.find?_cons, decide_false]
        rw [add_assoc, this, add_assoc]
  · have hfind : t.rows.find? (fun x => key x = key r) = none := by
      rw [List.find?_eq_none]
      intro x hx hk
      exact h (List.mem_map.mpr ⟨x, hx, by simpa using hk⟩)
    simp [h, hfind]

theorem total_save_of_fresh {M : Type*} [AddCommMonoid M] {t : Table key} {r : ρ}
    (h : t.find (key r) = none) (f : ρ → M) : (t.save r).total f = t.total f + f r := by
  have := total_save t r f
  simpa [h] using this

theorem total_save_of_find {t : Table key} {r old : ρ} (h : t.find (key r) = some old) (f : ρ → ℤ) :
    (t.save r).total f = t.total f - f old + f r := by
  have := total_save t r f
  rw [h, Option.map_some, Option.getD_some] at this
  omega

/-- A row whose summand is zero leaves the sum alone. -/
theorem total_save_of_eq {t : Table key} {r old : ρ} (h : t.find (key r) = some old) {f : ρ → ℤ}
    (hf : f r = f old) : (t.save r).total f = t.total f := by
  rw [total_save_of_find h, hf]
  omega

end Table
