import Mathlib.Tactic

/-!
Rising edges of a signal that is sampled: how often it is up and was down at the
sample before.
-/

namespace GhostBlade.Library

/-- The rising edges of `levels`, with `prev` before the first. -/
def rises (prev : Bool) : List Bool → Nat
  | [] => 0
  | b :: bs => (if prev = false ∧ b = true then 1 else 0) + rises b bs

theorem rises_append (prev : Bool) (bs cs : List Bool) :
    rises prev (bs ++ cs) = rises prev bs + rises (bs.getLastD prev) cs := by
  induction bs generalizing prev with
  | nil => simp [rises]
  | cons b bs ih =>
      rw [List.cons_append, rises, rises, ih, Nat.add_assoc, List.getLastD_cons]

theorem rises_snoc (prev : Bool) (bs : List Bool) (b : Bool) :
    rises prev (bs ++ [b]) =
      rises prev bs + if bs.getLastD prev = false ∧ b = true then 1 else 0 := by
  rw [rises_append]
  rfl

theorem rises_le_append (prev : Bool) (bs cs : List Bool) :
    rises prev bs ≤ rises prev (bs ++ cs) := by
  rw [rises_append]
  exact Nat.le_add_right _ _

end GhostBlade.Library
