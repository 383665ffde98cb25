import Mathlib.Tactic

/-!
A ring buffer with a head the producer moves and a tail the consumer moves.
The unread symbols are those from the tail up to the head, wrapping around; at
most one cell less than the whole ring can be in use. Storing a symbol appends
it to the unread ones as long as there is room, and reading one removes the
oldest.
-/

namespace GhostBlade.Library

structure Ring (α : Type*) (n : Nat) where
  cells : Fin n → α
  head : Fin n
  tail : Fin n

variable {α : Type*} {n : Nat}

def Ring.used (r : Ring α n) : Nat := (r.head - r.tail).val

theorem Ring.used_lt (r : Ring α n) : r.used < n := (r.head - r.tail).isLt

variable [NeZero n]

/-- The unread symbols, oldest first. -/
def Ring.unread (r : Ring α n) : List α :=
  (List.range r.used).map fun i => r.cells (r.tail + Fin.ofNat n i)

def Ring.put (r : Ring α n) (x : α) : Ring α n :=
  { r with cells := Function.update r.cells r.head x, head := r.head + 1 }

def Ring.putAll (r : Ring α n) (xs : List α) : Ring α n := xs.foldl Ring.put r

/-- Move the tail past the oldest symbol. -/
def Ring.advance (r : Ring α n) : Ring α n := { r with tail := r.tail + 1 }

@[simp] theorem Ring.unread_length (r : Ring α n) : r.unread.length = r.used := by
  simp [Ring.unread]

theorem Ring.used_eq_zero_iff (r : Ring α n) : r.used = 0 ↔ r.head = r.tail := by
  rw [Ring.used, Fin.val_eq_zero_iff, sub_eq_zero]

theorem Ring.unread_eq_nil_iff (r : Ring α n) : r.unread = [] ↔ r.head = r.tail := by
  rw [← List.length_eq_zero_iff, Ring.unread_length, Ring.used_eq_zero_iff]

/-- The cell behind the unread symbols is the one at the head. -/
theorem Ring.tail_add_used (r : Ring α n) : r.tail + Fin.ofNat n r.used = r.head := by
  have h : Fin.ofNat n r.used = r.head - r.tail := by
    apply Fin.ext
    simp [Ring.used]
  rw [h, add_sub_cancel]

theorem Ring.put_used (r : Ring α n) (x : α) (h : r.used + 1 < n) :
    (r.put x).used = r.used + 1 := by
  have hsucc : r.head + 1 - r.tail = (r.head - r.tail) + 1 := by
    rw [sub_add_eq_add_sub]
  have hone : ((1 : Fin n) : Nat) = 1 := by
    rw [Fin.val_one', Nat.mod_eq_of_lt (by omega)]
  change (r.head + 1 - r.tail).val = (r.head - r.tail).val + 1
  rw [hsucc, Fin.val_add, hone]
  exact Nat.mod_eq_of_lt h

/-- A cell that holds an unread symbol is not the one at the head. -/
theorem Ring.unread_cell_ne_head (r : Ring α n) (i : Nat) (hi : i < r.used) :
    r.tail + Fin.ofNat n i ≠ r.head := by
  intro heq
  rw [← r.tail_add_used] at heq
  have hval := congrArg Fin.val (add_left_cancel heq)
  have hu := r.used_lt
  simp only [Fin.val_ofNat] at hval
  rw [Nat.mod_eq_of_lt (by omega), Nat.mod_eq_of_lt hu] at hval
  omega

theorem Ring.put_unread (r : Ring α n) (x : α) (h : r.used + 1 < n) :
    (r.put x).unread = r.unread ++ [x] := by
  have hold (i : Nat) (hi : i < r.used) :
      (r.put x).cells (r.tail + Fin.ofNat n i) = r.cells (r.tail + Fin.ofNat n i) :=
    Function.update_of_ne (r.unread_cell_ne_head i hi) _ _
  have hnew : (r.put x).cells (r.tail + Fin.ofNat n r.used) = x := by
    rw [r.tail_add_used]
    exact Function.update_self ..
  rw [Ring.unread, r.put_used x h, List.range_succ, List.map_append]
  change List.map _ _ ++ [(r.put x).cells (r.tail + Fin.ofNat n r.used)] = _
  rw [hnew]
  congr 1
  apply List.map_congr_left
  intro i hi
  exact hold i (List.mem_range.mp hi)

/-- Any number of symbols that fit are appended in order. -/
theorem Ring.putAll_unread (r : Ring α n) (xs : List α) (h : r.used + xs.length < n) :
    (r.putAll xs).unread = r.unread ++ xs ∧ (r.putAll xs).tail = r.tail := by
  induction xs generalizing r with
  | nil => simp [Ring.putAll]
  | cons x xs ih =>
      simp only [List.length_cons] at h
      have hput := r.put_used x (by omega)
      obtain ⟨hunread, htail⟩ := ih (r.put x) (by omega)
      refine ⟨?_, htail⟩
      change ((r.put x).putAll xs).unread = _
      rw [hunread, r.put_unread x (by omega)]
      simp

/-- The oldest unread symbol is at the tail; past it the others remain. -/
theorem Ring.unread_cons (r : Ring α n) (h : r.head ≠ r.tail) :
    r.unread = r.cells r.tail :: r.advance.unread := by
  have hne : r.used ≠ 0 := fun hz => h (r.used_eq_zero_iff.mp hz)
  obtain ⟨k, hk⟩ : ∃ k, r.used = k + 1 := ⟨r.used - 1, by omega⟩
  have hlt := r.used_lt
  have hone : (Fin.ofNat n k) + 1 = Fin.ofNat n (k + 1) := by
    apply Fin.ext
    simp [Fin.val_add]
  have hadv : r.advance.used = k := by
    have hsub : r.head - (r.tail + 1) = Fin.ofNat n k := by
      have htu := r.tail_add_used
      rw [hk, ← hone] at htu
      rw [← htu]
      abel
    change (r.head - (r.tail + 1)).val = k
    rw [hsub, Fin.val_ofNat, Nat.mod_eq_of_lt (by omega)]
  have hzero : r.tail + Fin.ofNat n 0 = r.tail := by simp
  rw [Ring.unread, hk, List.range_succ_eq_map, List.map_cons, List.map_map, hzero,
    Ring.unread, hadv]
  congr 1
  apply List.map_congr_left
  intro i _
  have hstep : Fin.ofNat n (i + 1) = 1 + Fin.ofNat n i := by
    apply Fin.ext
    simp [Fin.val_add, Nat.add_comm]
  change r.cells (r.tail + Fin.ofNat n (i + 1)) = r.cells (r.tail + 1 + Fin.ofNat n i)
  rw [hstep, add_assoc]

theorem Ring.advance_used (r : Ring α n) (h : r.head ≠ r.tail) :
    r.advance.used + 1 = r.used := by
  have hlen := congrArg List.length (r.unread_cons h)
  simpa using hlen.symm

end GhostBlade.Library
