import Mathlib

/-! # Postings to keyed cells -/

namespace Posting

variable {κ ρ α : Type*} [DecidableEq κ]

/-- Posts an entry to the cell under its key. -/
def post (act : κ → α → ρ → ρ) (cells : κ → ρ) (entry : κ × α) : κ → ρ :=
  Function.update cells entry.1 (act entry.1 entry.2 (cells entry.1))

def posts (act : κ → α → ρ → ρ) (entries : List (κ × α)) (cells : κ → ρ) : κ → ρ := entries.foldl (post act) cells

variable {act : κ → α → ρ → ρ}

@[simp]
theorem posts_nil (cells : κ → ρ) : posts act [] cells = cells := rfl

@[simp]
theorem posts_cons (entry : κ × α) (entries : List (κ × α)) (cells : κ → ρ) :
    posts act (entry :: entries) cells = posts act entries (post act cells entry) := rfl

theorem posts_append (entries entries' : List (κ × α)) (cells : κ → ρ) :
    posts act (entries ++ entries') cells = posts act entries' (posts act entries cells) := List.foldl_append

/-- Postings commute when those to one cell do. -/
theorem post_comm (h : ∀ k a b r, act k a (act k b r) = act k b (act k a r)) (cells : κ → ρ) (x y : κ × α) :
    post act (post act cells x) y = post act (post act cells y) x := by
  obtain ⟨k, a⟩ := x
  obtain ⟨k', b⟩ := y
  unfold post
  by_cases hk : k' = k
  · subst hk
    simp [h]
  · simp only [Function.update_of_ne hk, Function.update_of_ne (Ne.symm hk)]
    exact Function.update_comm (Ne.symm hk) _ _ _

theorem posts_post (h : ∀ k a b r, act k a (act k b r) = act k b (act k a r)) (entries : List (κ × α)) (x : κ × α)
    (cells : κ → ρ) : posts act entries (post act cells x) = post act (posts act entries cells) x := by
  induction entries generalizing cells with
  | nil => rfl
  | cons y entries ih =>
    rw [posts_cons, posts_cons, post_comm h, ih]

/-- Batches of postings commute. -/
theorem posts_comm (h : ∀ k a b r, act k a (act k b r) = act k b (act k a r)) (entries entries' : List (κ × α))
    (cells : κ → ρ) : posts act entries (posts act entries' cells) = posts act entries' (posts act entries cells) := by
  induction entries' generalizing cells with
  | nil => rfl
  | cons x entries' ih => rw [posts_cons, ih, posts_post h, posts_cons]

end Posting
