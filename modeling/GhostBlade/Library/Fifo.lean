import GhostBlade.Library.Run

/-!
A bounded first-in first-out buffer of symbols. A push that does not fit stores
as much as there is room for. `Traffic` follows a buffer together with what has
been taken out of it; when every push either fits or finds no room at all, what
comes out is made of whole pushes.
-/

namespace GhostBlade.Library

variable {α : Type*} {cap : Nat}

structure Fifo (α : Type*) (cap : Nat) where
  items : List α
  bounded : items.length ≤ cap

def Fifo.empty : Fifo α cap := ⟨[], Nat.zero_le _⟩

theorem Fifo.eq_of_items {f g : Fifo α cap} (h : f.items = g.items) : f = g := by
  cases f
  cases g
  simpa using h

def Fifo.room (f : Fifo α cap) : Nat := cap - f.items.length

/-- Store as much of `xs` as fits. -/
def Fifo.push (f : Fifo α cap) (xs : List α) : Fifo α cap where
  items := f.items ++ xs.take f.room
  bounded := by
    have h := f.bounded
    simp only [Fifo.room, List.length_append, List.length_take]
    omega

def Fifo.front (f : Fifo α cap) (n : Nat) : List α := f.items.take n

def Fifo.pop (f : Fifo α cap) (n : Nat) : Fifo α cap where
  items := f.items.drop n
  bounded := by
    have h := f.bounded
    simp only [List.length_drop]
    omega

@[simp] theorem Fifo.empty_items : (Fifo.empty : Fifo α cap).items = [] := rfl

@[simp] theorem Fifo.push_items (f : Fifo α cap) (xs : List α) :
    (f.push xs).items = f.items ++ xs.take f.room := rfl

theorem Fifo.push_items_of_fits (f : Fifo α cap) (xs : List α) (h : xs.length ≤ f.room) :
    (f.push xs).items = f.items ++ xs := by
  rw [Fifo.push_items, List.take_of_length_le h]

theorem Fifo.room_push (f : Fifo α cap) (xs : List α) (h : xs.length ≤ f.room) :
    (f.push xs).room = f.room - xs.length := by
  unfold Fifo.room at h ⊢
  rw [Fifo.push_items_of_fits f xs h, List.length_append]
  omega

@[simp] theorem Fifo.push_nil (f : Fifo α cap) : f.push [] = f := by
  cases f
  simp [Fifo.push]

theorem Fifo.push_items_of_full (f : Fifo α cap) (xs : List α) (h : f.room = 0) :
    (f.push xs).items = f.items := by
  rw [Fifo.push_items, h, List.take_zero, List.append_nil]

@[simp] theorem Fifo.pop_zero (f : Fifo α cap) : f.pop 0 = f := rfl

theorem Fifo.front_append_pop (f : Fifo α cap) (n : Nat) :
    f.front n ++ (f.pop n).items = f.items :=
  List.take_append_drop n f.items

/-- What can happen to the buffer: a push, a removal that reaches a reader, and
one that does not. -/
inductive FifoOp (α : Type*) where
  | idle
  | push (xs : List α)
  | take (n : Nat)
  | lose (n : Nat)

/-- The buffer and everything the readers have received. -/
structure Traffic (α : Type*) (cap : Nat) where
  fifo : Fifo α cap
  returned : List α

def Traffic.step (t : Traffic α cap) : FifoOp α → Traffic α cap
  | .idle => t
  | .push xs => { t with fifo := t.fifo.push xs }
  | .take n => ⟨t.fifo.pop n, t.returned ++ t.fifo.front n⟩
  | .lose n => { t with fifo := t.fifo.pop n }

/-- Everything that has entered the buffer and not been lost, in order. -/
def Traffic.stream (t : Traffic α cap) : List α := t.returned ++ t.fifo.items

def FifoOp.pushed : FifoOp α → Option (List α)
  | .push xs => some xs
  | .idle | .take _ | .lose _ => none

/-- The step cuts no push short and loses nothing. -/
def Traffic.Whole (t : Traffic α cap) : FifoOp α → Prop
  | .push xs => xs.length ≤ t.fifo.room ∨ t.fifo.room = 0
  | .lose n => t.fifo.front n = []
  | .idle | .take _ => True

/-- The step stores every push and loses nothing. -/
def Traffic.Roomy (t : Traffic α cap) : FifoOp α → Prop
  | .push xs => xs.length ≤ t.fifo.room
  | .lose n => t.fifo.front n = []
  | .idle | .take _ => True

theorem Traffic.stream_take (t : Traffic α cap) (n : Nat) :
    (t.step (.take n)).stream = t.stream := by
  unfold Traffic.stream Traffic.step
  rw [List.append_assoc, Fifo.front_append_pop]

theorem Traffic.stream_lose (t : Traffic α cap) (n : Nat) (h : t.fifo.front n = []) :
    (t.step (.lose n)).stream = t.stream := by
  have hpop := t.fifo.front_append_pop n
  rw [h, List.nil_append] at hpop
  unfold Traffic.stream Traffic.step
  rw [hpop]

theorem Traffic.stream_push (t : Traffic α cap) (xs : List α) (h : xs.length ≤ t.fifo.room) :
    (t.step (.push xs)).stream = t.stream ++ xs := by
  unfold Traffic.stream Traffic.step
  rw [Fifo.push_items_of_fits _ _ h, List.append_assoc]

/-- A whole step adds its push or nothing. -/
theorem Traffic.stream_whole (t : Traffic α cap) (op : FifoOp α) (h : t.Whole op) :
    ∃ kept : List (List α),
      kept.Sublist op.pushed.toList ∧ (t.step op).stream = t.stream ++ kept.flatten := by
  cases op with
  | idle => exact ⟨[], List.nil_sublist _, (List.append_nil _).symm⟩
  | take n => exact ⟨[], List.nil_sublist _, by simpa using t.stream_take n⟩
  | lose n => exact ⟨[], List.nil_sublist _, by simpa using t.stream_lose n h⟩
  | push xs =>
      rcases h with hfits | hfull
      · refine ⟨[xs], List.Sublist.refl _, ?_⟩
        simpa using t.stream_push xs hfits
      · refine ⟨[], List.nil_sublist _, ?_⟩
        unfold Traffic.stream Traffic.step
        rw [Fifo.push_items_of_full _ _ hfull]
        simp

theorem Traffic.stream_roomy (t : Traffic α cap) (op : FifoOp α) (h : t.Roomy op) :
    (t.step op).stream = t.stream ++ op.pushed.toList.flatten := by
  cases op with
  | idle => exact (List.append_nil _).symm
  | take n => simpa [FifoOp.pushed] using t.stream_take n
  | lose n => simpa [FifoOp.pushed] using t.stream_lose n h
  | push xs => simpa [FifoOp.pushed] using t.stream_push xs h

/-- A run of whole steps delivers whole pushes, in order. -/
theorem Traffic.run_whole (t : Traffic α cap) (ops : List (FifoOp α))
    (h : Along Traffic.step Traffic.Whole t ops) :
    ∃ kept : List (List α), kept.Sublist (ops.filterMap FifoOp.pushed) ∧
      (run Traffic.step t ops).stream = t.stream ++ kept.flatten := by
  induction ops generalizing t with
  | nil => exact ⟨[], List.Sublist.refl _, (List.append_nil _).symm⟩
  | cons op ops ih =>
      obtain ⟨kept, hkept, hstep⟩ := t.stream_whole op h.1
      obtain ⟨rest, hrest, hrun⟩ := ih (t.step op) h.2
      refine ⟨kept ++ rest, ?_, ?_⟩
      · cases hop : op.pushed with
        | none =>
            rw [hop] at hkept
            rw [List.filterMap_cons_none hop]
            exact hkept.append hrest
        | some xs =>
            rw [hop] at hkept
            rw [List.filterMap_cons_some hop]
            exact hkept.append hrest
      · rw [run_cons, hrun, hstep, List.flatten_append, List.append_assoc]

/-- A run of roomy steps delivers every push. -/
theorem Traffic.run_roomy (t : Traffic α cap) (ops : List (FifoOp α))
    (h : Along Traffic.step Traffic.Roomy t ops) :
    (run Traffic.step t ops).stream =
      t.stream ++ (ops.filterMap FifoOp.pushed).flatten := by
  induction ops generalizing t with
  | nil => exact (List.append_nil _).symm
  | cons op ops ih =>
      rw [run_cons, ih (t.step op) h.2, t.stream_roomy op h.1, List.append_assoc]
      cases hop : op.pushed with
      | none => rw [List.filterMap_cons_none hop]; rfl
      | some xs => rw [List.filterMap_cons_some hop]; simp

end GhostBlade.Library
