import Mathlib.Tactic

/-!
What has been allocated and what has been freed, in order. A ledger balances
against the resources somebody still holds when every allocation is either
freed or held, and none is both.
-/

namespace GhostBlade.Library

structure Ledger (α : Type*) where
  allocated : List α
  freed : List α

variable {α : Type*}

namespace Ledger

def empty : Ledger α := ⟨[], []⟩

def alloc (l : Ledger α) (as : List α) : Ledger α := { l with allocated := l.allocated ++ as }

def free (l : Ledger α) (as : List α) : Ledger α := { l with freed := l.freed ++ as }

@[simp] theorem alloc_allocated (l : Ledger α) (as : List α) :
    (l.alloc as).allocated = l.allocated ++ as := rfl

@[simp] theorem alloc_freed (l : Ledger α) (as : List α) : (l.alloc as).freed = l.freed := rfl

@[simp] theorem free_allocated (l : Ledger α) (as : List α) :
    (l.free as).allocated = l.allocated := rfl

@[simp] theorem free_freed (l : Ledger α) (as : List α) : (l.free as).freed = l.freed ++ as := rfl

/-- Everything that was allocated is free again. -/
def Settled (l : Ledger α) : Prop := l.allocated.Perm l.freed

instance Settled.decidable [DecidableEq α] (l : Ledger α) : Decidable l.Settled :=
  inferInstanceAs (Decidable (l.allocated.Perm l.freed))

structure Balanced (l : Ledger α) (held : List α) : Prop where
  once : l.allocated.Nodup
  accounted : l.allocated.Perm (l.freed ++ held)

namespace Balanced

variable {l : Ledger α} {held kept as : List α}

theorem empty : (Ledger.empty : Ledger α).Balanced [] :=
  ⟨List.nodup_nil, List.Perm.refl _⟩

theorem alloc (h : l.Balanced held) (hnew : as.Nodup) (hfresh : ∀ a ∈ as, a ∉ l.allocated) :
    (l.alloc as).Balanced (held ++ as) where
  once := by
    refine List.Nodup.append h.once hnew ?_
    intro a hold ha
    exact hfresh a ha hold
  accounted := by
    have hp := h.accounted.append_right as
    rwa [List.append_assoc] at hp

theorem free (h : l.Balanced held) (hp : held.Perm (as ++ kept)) :
    (l.free as).Balanced kept where
  once := h.once
  accounted := by
    have hall := h.accounted.trans (hp.append_left l.freed)
    rwa [← List.append_assoc] at hall

theorem perm (h : l.Balanced held) (hp : held.Perm kept) : l.Balanced kept where
  once := h.once
  accounted := h.accounted.trans (hp.append_left l.freed)

/-- Nothing is freed twice, or without having been allocated. -/
theorem freed_once (h : l.Balanced held) : l.freed.Nodup ∧ l.freed ⊆ l.allocated := by
  have hall : (l.freed ++ held).Nodup := h.accounted.nodup_iff.mp h.once
  refine ⟨hall.of_append_left, ?_⟩
  intro a ha
  exact h.accounted.mem_iff.mpr (List.mem_append_left held ha)

/-- Nothing is lost. -/
theorem freed_or_held (h : l.Balanced held) {a : α} (ha : a ∈ l.allocated) :
    a ∈ l.freed ∨ a ∈ held :=
  List.mem_append.mp (h.accounted.mem_iff.mp ha)

theorem held_allocated (h : l.Balanced held) {a : α} (ha : a ∈ held) : a ∈ l.allocated :=
  h.accounted.mem_iff.mpr (List.mem_append_right l.freed ha)

/-- The ledger is settled exactly when nothing is held. -/
theorem settled_iff (h : l.Balanced held) : l.Settled ↔ held = [] := by
  constructor
  · intro hs
    have hlen := hs.length_eq.symm.trans h.accounted.length_eq
    rw [List.length_append] at hlen
    exact List.length_eq_zero_iff.mp (by omega)
  · rintro rfl
    simpa [Settled] using h.accounted

end Balanced

end Ledger

end GhostBlade.Library
