import Mathlib.Tactic

/-!
Supplies that need one another. A system is supported while everything that is
on has what it needs on. Switching on keeps it supported when the needs are on
already; switching off, exactly when nothing that is on needs the supply.
-/

namespace GhostBlade.Library

variable {α : Type*} (needs : α → α → Prop)

def Supported (on : α → Bool) : Prop := ∀ a b, needs a b → on a = true → on b = true

/-- The list can be switched on from the left once `done` is on. -/
def Builds : List α → List α → Prop
  | _, [] => True
  | done, a :: as => (∀ b, needs a b → b ∈ done) ∧ Builds (a :: done) as

/-- The list can be switched off from the left once `gone` is off. -/
def Unwinds : List α → List α → Prop
  | _, [] => True
  | gone, a :: as => (∀ b, needs b a → b ∈ gone) ∧ Unwinds (a :: gone) as

variable {needs} [DecidableEq α] {on : α → Bool} {a : α}

theorem Supported.switchOn (h : Supported needs on) (hneeds : ∀ b, needs a b → on b = true) :
    Supported needs (Function.update on a true) := by
  intro x y hxy hx
  by_cases hy : y = a
  · rw [hy, Function.update_self]
  · rw [Function.update_of_ne hy]
    by_cases hxa : x = a
    · subst hxa
      exact hneeds y hxy
    · rw [Function.update_of_ne hxa] at hx
      exact h x y hxy hx

theorem Supported.switchOff_iff (h : Supported needs on) (ha : ¬ needs a a) :
    Supported needs (Function.update on a false) ↔ ∀ b, needs b a → on b = false := by
  constructor
  · intro hoff b hb
    have hne : b ≠ a := by
      rintro rfl
      exact ha hb
    have hlow := hoff b a hb
    rw [Function.update_self, Function.update_of_ne hne] at hlow
    rw [← Bool.not_eq_true]
    exact fun hon => absurd (hlow hon) (by decide)
  · intro hfree x y hxy hx
    have hxa : x ≠ a := by
      rintro rfl
      rw [Function.update_self] at hx
      exact absurd hx (by decide)
    rw [Function.update_of_ne hxa] at hx
    by_cases hy : y = a
    · subst hy
      rw [hfree x hxy] at hx
      exact absurd hx (by decide)
    · rw [Function.update_of_ne hy]
      exact h x y hxy hx

end GhostBlade.Library
