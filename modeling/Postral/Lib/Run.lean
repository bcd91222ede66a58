import Mathlib

/-! # Runs of a partial step function -/

namespace Run

variable {σ : Type*} {α : Type*} {step : σ → α → Option σ}

/-- Takes the actions in order. `none` when one of them is impossible. -/
def run (step : σ → α → Option σ) (s : σ) : List α → Option σ
  | [] => some s
  | a :: as => (step s a).bind fun s' => run step s' as

@[simp]
theorem run_nil (s : σ) : run step s [] = some s := rfl

@[simp]
theorem run_cons (s : σ) (a : α) (as : List α) :
    run step s (a :: as) = (step s a).bind fun s' => run step s' as := rfl

theorem run_cons_eq_some {s t : σ} {a : α} {as : List α} :
    run step s (a :: as) = some t ↔ ∃ s', step s a = some s' ∧ run step s' as = some t := by
  simp [Option.bind_eq_some_iff]

theorem run_append_eq_some {s t : σ} {as bs : List α} :
    run step s (as ++ bs) = some t ↔ ∃ s', run step s as = some s' ∧ run step s' bs = some t := by
  induction as generalizing s with
  | nil => simp
  | cons a as ih =>
    rw [List.cons_append, run_cons_eq_some]
    constructor
    · rintro ⟨s', hstep, hrun⟩
      obtain ⟨m, hm, hbs⟩ := ih.mp hrun
      exact ⟨m, run_cons_eq_some.mpr ⟨s', hstep, hm⟩, hbs⟩
    · rintro ⟨m, hm, hbs⟩
      obtain ⟨s', hstep, hrun⟩ := run_cons_eq_some.mp hm
      exact ⟨s', hstep, ih.mpr ⟨m, hrun, hbs⟩⟩

/-! ## Runs whose steps meet a condition -/

/-- Every step of the run meets `ok`, in the state before it. -/
def Meets (step : σ → α → Option σ) (ok : σ → α → Prop) (s : σ) : List α → Prop
  | [] => True
  | a :: as => ok s a ∧ ∀ s', step s a = some s' → Meets step ok s' as

theorem meets_cons_of_step {ok : σ → α → Prop} {s s' : σ} {a : α} {as : List α} (h : step s a = some s') :
    Meets step ok s (a :: as) ↔ ok s a ∧ Meets step ok s' as := by
  simp [Meets, h]

instance decidableMeets (ok : σ → α → Prop) [∀ s a, Decidable (ok s a)] :
    ∀ (s : σ) (as : List α), Decidable (Meets step ok s as)
  | _, [] => .isTrue trivial
  | s, a :: as =>
    match h : step s a with
    | none => decidable_of_iff (ok s a) (by simp [Meets, h])
    | some s' =>
      haveI := decidableMeets ok s' as
      decidable_of_iff (ok s a ∧ Meets step ok s' as) (meets_cons_of_step h).symm

theorem Meets.imp {ok ok' : σ → α → Prop} {s : σ} {as : List α} (h : Meets step ok s as)
    (himp : ∀ s a, ok s a → ok' s a) : Meets step ok' s as := by
  induction as generalizing s with
  | nil => trivial
  | cons a as ih => exact ⟨himp s a h.1, fun s' hstep => ih (h.2 s' hstep)⟩

theorem meets_of_forall {ok : σ → α → Prop} (h : ∀ s a, ok s a) (s : σ) (as : List α) :
    Meets step ok s as := by
  induction as generalizing s with
  | nil => trivial
  | cons a as ih => exact ⟨h s a, fun s' _ => ih s'⟩

theorem Meets.append {ok : σ → α → Prop} {s t : σ} {as bs : List α}
    (h : Meets step ok s (as ++ bs)) (hrun : run step s as = some t) :
    Meets step ok s as ∧ Meets step ok t bs := by
  induction as generalizing s with
  | nil =>
    obtain rfl : s = t := by simpa using hrun
    exact ⟨trivial, h⟩
  | cons a as ih =>
    obtain ⟨s', hstep, hrest⟩ := run_cons_eq_some.mp hrun
    obtain ⟨-, htail⟩ := ih (h.2 s' hstep) hrest
    refine ⟨⟨h.1, fun s'' hstep' => ?_⟩, htail⟩
    obtain rfl : s' = s'' := by simpa [hstep] using hstep'
    exact (ih (h.2 s' hstep) hrest).1

/-! ## Induction over a run -/

/-- **Invariants.** What every admitted step preserves holds after every admitted run. -/
theorem run_invariant_of_meets {ok : σ → α → Prop} {Inv : σ → Prop}
    (hstep : ∀ s a s', Inv s → ok s a → step s a = some s' → Inv s')
    {s t : σ} {as : List α} (hinv : Inv s) (hok : Meets step ok s as)
    (hrun : run step s as = some t) : Inv t := by
  induction as generalizing s with
  | nil =>
    obtain rfl : s = t := by simpa using hrun
    exact hinv
  | cons a as ih =>
    obtain ⟨s', hs', hrest⟩ := run_cons_eq_some.mp hrun
    exact ih (hstep s a s' hinv hok.1 hs') (hok.2 s' hs') hrest

theorem run_invariant {Inv : σ → Prop}
    (hstep : ∀ s a s', Inv s → step s a = some s' → Inv s')
    {s t : σ} {as : List α} (hinv : Inv s) (hrun : run step s as = some t) : Inv t := by
  have hok : Meets step (fun _ _ => True) s as := meets_of_forall (fun _ _ => trivial) s as
  exact run_invariant_of_meets (fun s a s' h _ => hstep s a s' h) hinv hok hrun

/-- **Relations.** A preorder that every step from an invariant state respects relates the ends
of a run. -/
theorem run_relation {ok : σ → α → Prop} {Inv : σ → Prop} {R : σ → σ → Prop}
    (hrefl : ∀ s, R s s) (htrans : ∀ s t u, R s t → R t u → R s u)
    (hinv : ∀ s a s', Inv s → ok s a → step s a = some s' → Inv s')
    (hrel : ∀ s a s', Inv s → ok s a → step s a = some s' → R s s')
    {s t : σ} {as : List α} (hs : Inv s) (hok : Meets step ok s as)
    (hrun : run step s as = some t) : R s t := by
  induction as generalizing s with
  | nil =>
    obtain rfl : s = t := by simpa using hrun
    exact hrefl s
  | cons a as ih =>
    obtain ⟨s', hs', hrest⟩ := run_cons_eq_some.mp hrun
    exact htrans s s' t (hrel s a s' hs hok.1 hs')
      (ih (hinv s a s' hs hok.1 hs') (hok.2 s' hs') hrest)

end Run
