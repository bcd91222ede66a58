import Mathlib

/-! # Checks that throw -/

namespace Check

variable {ε α β : Type}

/-- Throws `e` unless `p` holds. -/
def require (p : Prop) [Decidable p] (e : ε) : Except ε Unit := if p then .ok () else .error e

@[simp]
theorem require_eq_ok {p : Prop} [Decidable p] {e : ε} {u : Unit} : require p e = .ok u ↔ p := by
  unfold require
  split <;> simp_all

/-- The value, or the error when there is none. -/
def orThrow (x : Option α) (e : ε) : Except ε α :=
  match x with
  | some a => .ok a
  | none => .error e

@[simp]
theorem orThrow_eq_ok {x : Option α} {e : ε} {a : α} : orThrow x e = .ok a ↔ x = some a := by
  cases x <;> simp [orThrow]

@[simp]
theorem bind_eq_ok {x : Except ε α} {f : α → Except ε β} {b : β} :
    (x >>= f) = .ok b ↔ ∃ a, x = .ok a ∧ f a = .ok b := by
  cases x <;> simp [bind, Except.bind]

@[simp]
theorem pure_eq_ok {a b : α} : (pure a : Except ε α) = .ok b ↔ a = b := by
  simp [pure, Except.pure]

@[simp]
theorem throw_ne_ok {e : ε} {a : α} : (throw e : Except ε α) = .ok a ↔ False := by
  simp [throw, throwThe, MonadExceptOf.throw]

@[simp]
theorem map_eq_ok {x : Except ε α} {f : α → β} {b : β} :
    (f <$> x) = .ok b ↔ ∃ a, x = .ok a ∧ f a = b := by
  cases x <;> simp [Functor.map, Except.map]

@[simp]
theorem toOption_eq_some {x : Except ε α} {a : α} : x.toOption = some a ↔ x = .ok a := by
  cases x <;> simp [Except.toOption]

/-! ## Which error is thrown -/

theorem bind_eq_error {x : Except ε α} {f : α → Except ε β} {e : ε} :
    (x >>= f) = .error e ↔ x = .error e ∨ ∃ a, x = .ok a ∧ f a = .error e := by
  cases x <;> simp [bind, Except.bind]

theorem require_eq_error {p : Prop} [Decidable p] {e e' : ε} : require p e = .error e' ↔ ¬ p ∧ e = e' := by
  unfold require
  split <;> simp_all

theorem orThrow_eq_error {x : Option α} {e e' : ε} : orThrow x e = .error e' ↔ x = none ∧ e = e' := by
  cases x <;> simp [orThrow]

theorem pure_ne_error {a : α} {e : ε} : (pure a : Except ε α) = .error e ↔ False := by
  simp [pure, Except.pure]

/-! ## Lists -/

/-- Checks every element, in order. -/
def checkAll (f : α → Except ε Unit) : List α → Except ε Unit
  | [] => .ok ()
  | x :: xs => f x >>= fun _ => checkAll f xs

@[simp]
theorem checkAll_eq_ok {f : α → Except ε Unit} {xs : List α} {u : Unit} :
    checkAll f xs = .ok u ↔ ∀ x ∈ xs, f x = .ok () := by
  induction xs with
  | nil => simp [checkAll]
  | cons x xs ih =>
    simp only [checkAll, bind_eq_ok, ih, List.forall_mem_cons]
    exact ⟨fun ⟨_, hx, hxs⟩ => ⟨hx, hxs⟩, fun ⟨hx, hxs⟩ => ⟨(), hx, hxs⟩⟩

theorem mapM_eq_ok {f : α → Except ε β} {xs : List α} {ys : List β} :
    xs.mapM f = .ok ys ↔ List.Forall₂ (fun x y => f x = .ok y) xs ys := by
  induction xs generalizing ys with
  | nil => cases ys <;> simp [pure, Except.pure]
  | cons x xs ih =>
    simp only [List.mapM_cons, bind_eq_ok, pure_eq_ok, ih, List.forall₂_cons_left_iff]
    constructor
    · rintro ⟨y, hy, ys', hys, rfl⟩
      exact ⟨y, ys', hy, hys, rfl⟩
    · rintro ⟨y, ys', hy, hys, rfl⟩
      exact ⟨y, hy, ys', hys, rfl⟩

theorem mapM_eq_some {f : α → Option β} {xs : List α} {ys : List β} :
    xs.mapM f = some ys ↔ List.Forall₂ (fun x y => f x = some y) xs ys := by
  induction xs generalizing ys with
  | nil => cases ys <;> simp
  | cons x xs ih =>
    simp only [List.mapM_cons, Option.bind_eq_bind, Option.bind_eq_some_iff, Option.pure_def,
      Option.some.injEq, ih, List.forall₂_cons_left_iff]
    constructor
    · rintro ⟨y, hy, ys', hys, rfl⟩
      exact ⟨y, ys', hy, hys, rfl⟩
    · rintro ⟨y, ys', hy, hys, rfl⟩
      exact ⟨y, hy, ys', hys, rfl⟩

/-- Where only one error can occur, the loop does not throw it exactly when every turn passes. -/
theorem mapM_ne_error_iff {f : α → Except ε β} {xs : List α} {e : ε} (h : ∀ x ∈ xs, ∀ e', f x = .error e' → e' = e) :
    xs.mapM f ≠ .error e ↔ ∀ x ∈ xs, ∃ y, f x = .ok y := by
  induction xs with
  | nil => simp [pure, Except.pure]
  | cons x xs ih =>
    rw [List.forall_mem_cons] at h ⊢
    rw [← ih h.2, List.mapM_cons]
    cases hx : f x with
    | error e' =>
      obtain rfl := h.1 e' hx
      simp [bind, Except.bind]
    | ok y => cases xs.mapM f <;> simp [bind, Except.bind, pure, Except.pure]

/-- **Loops that throw.** What every turn preserves, of the elements done so far and of the
accumulator, holds of the whole list and of the result. -/
theorem foldlM_invariant {f : β → α → Except ε β} {P : List α → β → Prop} {xs : List α} {start result : β}
    (hstart : P [] start) (hstep : ∀ done acc x acc', P done acc → f acc x = .ok acc' → P (done ++ [x]) acc')
    (h : xs.foldlM f start = .ok result) : P xs result := by
  have hgen : ∀ (xs done : List α) (acc : β), P done acc → xs.foldlM f acc = .ok result → P (done ++ xs) result := by
    intro xs
    induction xs with
    | nil =>
      intro done acc hacc h
      rw [List.foldlM_nil, pure_eq_ok] at h
      rwa [List.append_nil, ← h]
    | cons x xs ih =>
      intro done acc hacc h
      rw [List.foldlM_cons, bind_eq_ok] at h
      obtain ⟨acc', hacc', hrest⟩ := h
      have := ih (done ++ [x]) acc' (hstep done acc x acc' hacc hacc') hrest
      rwa [List.append_assoc, List.singleton_append] at this
  exact hgen xs [] start hstart h

/-- Every element of the second list comes from one of the first. -/
theorem forall₂_mem_right {R : α → β → Prop} {xs : List α} {ys : List β} (h : List.Forall₂ R xs ys)
    {y : β} (hy : y ∈ ys) : ∃ x ∈ xs, R x y := by
  induction h with
  | nil => simp at hy
  | cons hxy _ ih =>
    rcases List.mem_cons.mp hy with rfl | hy
    · exact ⟨_, List.mem_cons_self, hxy⟩
    · obtain ⟨x, hx, hR⟩ := ih hy
      exact ⟨x, List.mem_cons_of_mem _ hx, hR⟩

/-- What two related elements agree on holds of all of the first exactly when it holds of all of the second. -/
theorem forall₂_forall_iff {R : α → β → Prop} {P : α → Prop} {Q : β → Prop} {xs : List α} {ys : List β}
    (h : List.Forall₂ R xs ys) (hR : ∀ x y, R x y → (P x ↔ Q y)) : (∀ x ∈ xs, P x) ↔ ∀ y ∈ ys, Q y := by
  induction h with
  | nil => simp
  | cons hxy _ ih => rw [List.forall_mem_cons, List.forall_mem_cons, hR _ _ hxy, ih]

/-- A projection that the relation keeps is the same list on both sides. -/
theorem forall₂_map_eq {γ : Type} {R : α → β → Prop} {f : α → γ} {g : β → γ} {xs : List α} {ys : List β}
    (h : List.Forall₂ R xs ys) (hR : ∀ x y, R x y → g y = f x) : ys.map g = xs.map f := by
  induction h with
  | nil => rfl
  | cons hxy _ ih => rw [List.map_cons, List.map_cons, hR _ _ hxy, ih]

end Check
