import Postral.Lib.Check

/-! # Merging the elements of a list by a key -/

open Check

namespace Group

variable {ε α κ : Type} [DecidableEq κ] (key : α → κ) (merge : α → α → Except ε α)

/-- Merges an element into the group of its key, or starts one. -/
def insert (x : α) : List (κ × α) → Except ε (List (κ × α))
  | [] => .ok [(key x, x)]
  | (k, y) :: rest =>
    if k = key x then do
      let z ← merge y x
      return (k, z) :: rest
    else do
      let rest ← insert x rest
      return (k, y) :: rest

/-- The keys, in the order of their first elements. -/
def keys (xs : List α) : List κ := xs.foldl (fun ks x => if key x ∈ ks then ks else ks ++ [key x]) []

def withKey (k : κ) (xs : List α) : List α := xs.filter fun x => key x = k

/-- What the elements of one key are merged to, in their order. -/
def Merged (group : List α) (y : α) : Prop := ∃ x rest, group = x :: rest ∧ rest.foldlM merge x = .ok y

section Keys

variable {key}

@[simp]
theorem keys_nil : keys key [] = [] := rfl

theorem keys_append_singleton (xs : List α) (x : α) :
    keys key (xs ++ [x]) = if key x ∈ keys key xs then keys key xs else keys key xs ++ [key x] := by
  unfold keys
  rw [List.foldl_append]
  rfl

theorem mem_keys {xs : List α} {k : κ} : k ∈ keys key xs ↔ ∃ x ∈ xs, key x = k := by
  induction xs using List.reverseRecOn with
  | nil => simp
  | append_singleton xs x ih =>
    rw [keys_append_singleton]
    split <;> rename_i hmem
    · rw [ih]
      constructor
      · rintro ⟨y, hy, rfl⟩
        exact ⟨y, List.mem_append_left _ hy, rfl⟩
      · rintro ⟨y, hy, rfl⟩
        rcases List.mem_append.mp hy with hy | hy
        · exact ⟨y, hy, rfl⟩
        · obtain rfl := List.mem_singleton.mp hy
          exact ih.mp hmem
    · simp [ih, eq_comm, or_and_right, exists_or]

theorem nodup_keys (xs : List α) : (keys key xs).Nodup := by
  induction xs using List.reverseRecOn with
  | nil => exact List.nodup_nil
  | append_singleton xs x ih =>
    rw [keys_append_singleton]
    split <;> rename_i hmem
    · exact ih
    · exact List.nodup_append.mpr ⟨ih, List.nodup_singleton _, fun k hk k' hk' heq =>
        hmem (List.mem_singleton.mp hk' ▸ heq ▸ hk)⟩

/-- The order of the elements only changes the order of the keys. -/
theorem keys_perm {xs ys : List α} (h : xs.Perm ys) : (keys key xs).Perm (keys key ys) := by
  rw [List.perm_ext_iff_of_nodup (nodup_keys xs) (nodup_keys ys)]
  intro k
  simp only [mem_keys, h.mem_iff]

theorem withKey_append_singleton (k : κ) (xs : List α) (x : α) :
    withKey key k (xs ++ [x]) = if key x = k then withKey key k xs ++ [x] else withKey key k xs := by
  unfold withKey
  split <;> rename_i hk <;> simp [hk]

theorem withKey_ne_nil {xs : List α} {k : κ} : withKey key k xs ≠ [] ↔ k ∈ keys key xs := by
  unfold withKey
  rw [mem_keys, Ne, List.filter_eq_nil_iff]
  simp

end Keys

section Merging

variable {key} {merge}

theorem merged_singleton {x y : α} : Merged merge [x] y ↔ y = x := by
  unfold Merged
  constructor
  · rintro ⟨z, rest, heq, h⟩
    obtain ⟨rfl, rfl⟩ := List.cons.inj heq
    rw [List.foldlM_nil, pure_eq_ok] at h
    exact h.symm
  · rintro rfl
    exact ⟨y, [], rfl, rfl⟩

theorem merged_append_singleton {group : List α} {x y : α} (hgroup : group ≠ []) :
    Merged merge (group ++ [x]) y ↔ ∃ z, Merged merge group z ∧ merge z x = .ok y := by
  unfold Merged
  constructor
  · rintro ⟨first, rest, heq, h⟩
    cases group with
    | nil => exact absurd rfl hgroup
    | cons g group =>
      rw [List.cons_append] at heq
      obtain ⟨rfl, rfl⟩ := List.cons.inj heq
      rw [List.foldlM_append, bind_eq_ok] at h
      obtain ⟨z, hz, h⟩ := h
      simp only [List.foldlM_cons, List.foldlM_nil, bind_eq_ok, pure_eq_ok] at h
      obtain ⟨_, hmerge, rfl⟩ := h
      exact ⟨z, ⟨g, group, rfl, hz⟩, hmerge⟩
  · rintro ⟨z, ⟨first, rest, rfl, hz⟩, hmerge⟩
    refine ⟨first, rest ++ [x], rfl, ?_⟩
    rw [List.foldlM_append, hz]
    simpa [bind_eq_ok] using hmerge

theorem insert_of_not_mem {x : α} {groups : List (κ × α)} (h : key x ∉ groups.map (·.1)) :
    insert key merge x groups = .ok (groups ++ [(key x, x)]) := by
  induction groups with
  | nil => rfl
  | cons g groups ih =>
    rw [List.map_cons, List.mem_cons, not_or] at h
    unfold insert
    rw [if_neg (Ne.symm h.1), ih h.2]
    rfl

/-- The group of the element changes, the other ones stay. -/
theorem insert_spec {x : α} {before groups : List (κ × α)} (hnodup : (before.map (·.1)).Nodup)
    (hmem : key x ∈ before.map (·.1)) (h : insert key merge x before = .ok groups) :
    groups.map (·.1) = before.map (·.1) ∧
      ∀ g ∈ groups, if g.1 = key x then ∃ z, (g.1, z) ∈ before ∧ merge z x = .ok g.2 else g ∈ before := by
  induction before generalizing groups with
  | nil => simp at hmem
  | cons g before ih =>
    obtain ⟨hnot, hnodup⟩ := List.nodup_cons.mp hnodup
    unfold insert at h
    split at h <;> rename_i hk <;> simp only [bind_eq_ok, pure_eq_ok] at h
    · obtain ⟨z, hz, rfl⟩ := h
      refine ⟨rfl, List.forall_mem_cons.mpr ⟨?_, fun g' hg' => ?_⟩⟩
      · rw [if_pos hk]
        exact ⟨g.2, List.mem_cons_self, hz⟩
      · have hne : g'.1 ≠ key x := by
          intro heq
          exact hnot (List.mem_map.mpr ⟨g', hg', heq.trans hk.symm⟩)
        rw [if_neg hne]
        exact List.mem_cons_of_mem _ hg'
    · obtain ⟨after, hafter, rfl⟩ := h
      have hmem : key x ∈ before.map (·.1) := (List.mem_cons.mp hmem).resolve_left fun heq => hk heq.symm
      obtain ⟨hkeys, hall⟩ := ih hnodup hmem hafter
      refine ⟨by rw [List.map_cons, List.map_cons, hkeys], List.forall_mem_cons.mpr ⟨?_, fun g' hg' => ?_⟩⟩
      · rw [if_neg hk]
        exact List.mem_cons_self
      · have hg := hall g' hg'
        split at hg <;> rename_i hk'
        · obtain ⟨z, hz, hmerge⟩ := hg
          rw [if_pos hk']
          exact ⟨z, List.mem_cons_of_mem _ hz, hmerge⟩
        · rw [if_neg hk']
          exact List.mem_cons_of_mem _ hg

/-- Groups that arise from others by a merge are inserted into them. -/
theorem exists_insert {R : κ → α → Prop} {x : α} {groups : List (κ × α)} (hnodup : (groups.map (·.1)).Nodup)
    (hmem : key x ∈ groups.map (·.1))
    (h : ∀ g ∈ groups, if g.1 = key x then ∃ z, R g.1 z ∧ merge z x = .ok g.2 else R g.1 g.2) :
    ∃ before : List (κ × α), before.map (·.1) = groups.map (·.1) ∧ (∀ g ∈ before, R g.1 g.2) ∧
      insert key merge x before = .ok groups := by
  induction groups with
  | nil => simp at hmem
  | cons g groups ih =>
    obtain ⟨hnot, hnodup⟩ := List.nodup_cons.mp hnodup
    obtain ⟨hg, hall⟩ := List.forall_mem_cons.mp h
    split at hg <;> rename_i hk
    · obtain ⟨z, hz, hmerge⟩ := hg
      refine ⟨(g.1, z) :: groups, rfl, List.forall_mem_cons.mpr ⟨hz, fun g' hg' => ?_⟩, ?_⟩
      · have hne : g'.1 ≠ key x := by
          intro heq
          exact hnot (List.mem_map.mpr ⟨g', hg', heq.trans hk.symm⟩)
        have hg'' := hall g' hg'
        rwa [if_neg hne] at hg''
      · unfold insert
        rw [if_pos hk, hmerge]
        rfl
    · have hmem : key x ∈ groups.map (·.1) := (List.mem_cons.mp hmem).resolve_left fun heq => hk heq.symm
      obtain ⟨before, hkeys, hbefore, hinsert⟩ := ih hnodup hmem hall
      refine ⟨g :: before, by rw [List.map_cons, List.map_cons, hkeys], List.forall_mem_cons.mpr ⟨hg, hbefore⟩, ?_⟩
      unfold insert
      rw [if_neg hk, hinsert]
      rfl

/-- **Grouping.** The groups are those of the keys, each merged from the elements of its key in their order. -/
theorem foldlM_insert_iff {xs : List α} {groups : List (κ × α)} :
    xs.foldlM (fun groups x => insert key merge x groups) [] = .ok groups ↔
      groups.map (·.1) = keys key xs ∧ ∀ g ∈ groups, Merged merge (withKey key g.1 xs) g.2 := by
  induction xs using List.reverseRecOn generalizing groups with
  | nil =>
    rw [List.foldlM_nil, pure_eq_ok, keys_nil, List.map_eq_nil_iff]
    constructor
    · rintro rfl
      exact ⟨rfl, by simp⟩
    · rintro ⟨rfl, -⟩
      rfl
  | append_singleton xs x ih =>
    simp only [List.foldlM_append, List.foldlM_cons, List.foldlM_nil, bind_eq_ok, pure_eq_ok, exists_eq_right, ih,
      keys_append_singleton, withKey_append_singleton]
    split <;> rename_i hmem
    · -- the key has a group
      have hne : withKey key (key x) xs ≠ [] := withKey_ne_nil.mpr hmem
      have hmerged : ∀ g : κ × α, Merged merge (if key x = g.1 then withKey key g.1 xs ++ [x] else withKey key g.1 xs) g.2 ↔
          if g.1 = key x then ∃ z, Merged merge (withKey key g.1 xs) z ∧ merge z x = .ok g.2
          else Merged merge (withKey key g.1 xs) g.2 := by
        intro g
        by_cases hk : g.1 = key x
        · rw [if_pos hk, if_pos hk.symm, hk]
          exact merged_append_singleton hne
        · rw [if_neg hk, if_neg (Ne.symm hk)]
      simp only [hmerged]
      constructor
      · rintro ⟨before, ⟨hkeys, hbefore⟩, hinsert⟩
        obtain ⟨hsame, hall⟩ := insert_spec (hkeys ▸ nodup_keys xs) (hkeys ▸ hmem) hinsert
        refine ⟨hsame.trans hkeys, fun g hg => ?_⟩
        have hg := hall g hg
        split at hg <;> rename_i hk
        · obtain ⟨z, hz, hmerge⟩ := hg
          rw [if_pos hk]
          exact ⟨z, hbefore _ hz, hmerge⟩
        · rw [if_neg hk]
          exact hbefore g hg
      · rintro ⟨hkeys, hall⟩
        obtain ⟨before, hsame, hbefore, hinsert⟩ := exists_insert
          (R := fun k z => Merged merge (withKey key k xs) z) (hkeys ▸ nodup_keys xs) (hkeys ▸ hmem) hall
        exact ⟨before, ⟨hsame.trans hkeys, hbefore⟩, hinsert⟩
    · -- the key is new
      have hnil : withKey key (key x) xs = [] := by
        by_contra hne
        exact hmem (withKey_ne_nil.mp hne)
      constructor
      · rintro ⟨before, ⟨hkeys, hbefore⟩, hinsert⟩
        rw [insert_of_not_mem (hkeys ▸ hmem)] at hinsert
        obtain rfl := Except.ok.inj hinsert
        refine ⟨by rw [List.map_append, hkeys]; rfl, fun g hg => ?_⟩
        rcases List.mem_append.mp hg with hg | hg
        · have hk : key x ≠ g.1 := fun heq => hmem (heq ▸ hkeys ▸ List.mem_map_of_mem hg)
          rw [if_neg hk]
          exact hbefore g hg
        · obtain rfl := List.mem_singleton.mp hg
          rw [if_pos rfl, hnil]
          exact merged_singleton.mpr rfl
      · rintro ⟨hkeys, hall⟩
        obtain ⟨before, last, rfl, hbefore, hlast⟩ := List.map_eq_append_iff.mp hkeys
        obtain ⟨g, rfl, hg⟩ : ∃ g, last = [g] ∧ g.1 = key x := by
          simpa [List.map_eq_singleton_iff] using hlast
        have hlastMerged := hall g (by simp)
        rw [if_pos hg.symm, hg, hnil, List.nil_append, merged_singleton] at hlastMerged
        refine ⟨before, ⟨hbefore, fun g' hg' => ?_⟩, ?_⟩
        · have hk : key x ≠ g'.1 := fun heq => hmem (heq ▸ hbefore ▸ List.mem_map_of_mem hg')
          have hg'' := hall g' (List.mem_append_left _ hg')
          rwa [if_neg hk] at hg''
        · rw [insert_of_not_mem (hbefore ▸ hmem), ← hg, ← hlastMerged]

end Merging

end Group
