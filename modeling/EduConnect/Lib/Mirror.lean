import Mathlib.Data.Set.Insert
import Mathlib.Logic.Function.Basic

/-!
# A partial function and its inverse index

A store may keep one relation twice: forwards, as a partial function `f` from members to groups,
and backwards, as the set `r g` of the members of each group.  `Mirror f r` says that the two
agree; the lemmas say which updates of one or both copies keep them so.
-/

namespace Lib

variable {α γ : Type}

/-- `r g` is the set of the members that `f` puts in `g`. -/
def Mirror (f : α → Option γ) (r : γ → Set α) : Prop := ∀ a g, a ∈ r g ↔ f a = some g

namespace Mirror

variable {f : α → Option γ} {r : γ → Set α}

theorem of_empty (hf : ∀ a, f a = none) (hr : ∀ g, r g = ∅) : Mirror f r := by
  intro a g
  rw [hf, hr]
  simp

/-- Changing only one index set keeps the agreement exactly when it changes nothing. -/
theorem update_right_iff [DecidableEq γ] (h : Mirror f r) (g : γ) (t : Set α) :
    Mirror f (Function.update r g t) ↔ r g = t := by
  constructor
  · intro h'
    ext a
    have hupd : Function.update r g t g = t := Function.update_self ..
    rw [h a g, ← h' a g, hupd]
  · rintro rfl
    rw [Function.update_eq_self]
    exact h

variable [DecidableEq α]

/-- Adding a new member on both sides. -/
theorem insert [DecidableEq γ] (h : Mirror f r) {a : α} (ha : f a = none) (g : γ) :
    Mirror (Function.update f a (some g)) (Function.update r g (Set.insert a (r g))) := by
  intro x k
  by_cases hx : x = a
  · subst hx
    rw [Function.update_self, Option.some.injEq]
    by_cases hk : k = g
    · subst hk
      rw [Function.update_self]
      exact iff_of_true (Set.mem_insert x _) rfl
    · rw [Function.update_of_ne hk, h, ha]
      simp [Ne.symm hk]
  · rw [Function.update_of_ne hx, ← h]
    by_cases hk : k = g
    · subst hk
      rw [Function.update_self]
      exact (or_iff_right hx : (x = a ∨ x ∈ r k) ↔ x ∈ r k)
    · rw [Function.update_of_ne hk]

/-- Changing only the function keeps the agreement exactly when it changes nothing. -/
theorem update_left_iff (h : Mirror f r) (a : α) (o : Option γ) :
    Mirror (Function.update f a o) r ↔ f a = o := by
  constructor
  · intro h'
    refine Option.ext fun g => ?_
    have hupd : Function.update f a o a = o := Function.update_self ..
    rw [← h a g, h' a g, hupd]
  · rintro rfl
    rw [Function.update_eq_self]
    exact h

end Mirror

end Lib
