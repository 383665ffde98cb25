import Mathlib.Tactic

/-!
A clock of `w` bits that is read again and again. The time since some start is
the sum of what the clock went on between the readings; the difference of two
readings is that time up to whole turns of the clock. Whoever looks often enough
and stops in time sees the time itself.
-/

namespace GhostBlade.Library

variable {w : ℕ} (clock : ℕ → BitVec w) (start : BitVec w)

/-- The time from the start to a reading. -/
def elapsed : ℕ → ℕ
  | 0 => (clock 0 - start).toNat
  | k + 1 => elapsed k + (clock (k + 1) - clock k).toNat

theorem elapsed_mod (k : ℕ) : (clock k - start).toNat = elapsed clock start k % 2 ^ w := by
  induction k with
  | zero => exact (Nat.mod_eq_of_lt (clock 0 - start).isLt).symm
  | succ k ih =>
      have hsplit : clock (k + 1) - start = (clock k - start) + (clock (k + 1) - clock k) := by
        grind
      rw [hsplit, BitVec.toNat_add, ih, elapsed, Nat.mod_add_mod]

variable {clock start} {k limit pause : ℕ}

variable (start) in
theorem le_elapsed (h : ∀ k, 1 ≤ (clock (k + 1) - clock k).toNat) (k : ℕ) :
    k ≤ elapsed clock start k := by
  induction k with
  | zero => exact Nat.zero_le _
  | succ k ih =>
      have hstep := h k
      rw [elapsed]
      omega

/-- Between the looks no more than `pause` passes, and up to the last one the
limit has not been seen. -/
theorem elapsed_exact (hnext : ∀ k, (clock (k + 1) - clock k).toNat ≤ pause)
    (hroom : limit + pause < 2 ^ w) (h : ∀ j < k, (clock j - start).toNat < limit) :
    (clock k - start).toNat = elapsed clock start k := by
  rw [elapsed_mod, Nat.mod_eq_of_lt]
  induction k with
  | zero => exact (clock 0 - start).isLt
  | succ k ih =>
      have hlast := h k (Nat.lt_succ_self k)
      have hstep := hnext k
      rw [elapsed_mod, Nat.mod_eq_of_lt (ih fun j hj => h j (by omega))] at hlast
      rw [elapsed]
      omega

end GhostBlade.Library
