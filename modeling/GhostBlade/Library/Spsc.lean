import GhostBlade.Library.Ring
import GhostBlade.Library.Run

/-!
One producer and one consumer share a ring buffer, and each of their steps is a
single load or store of the head, of the tail or of a cell. The producer loads
the tail once to see whether there is room; the consumer loads the head once to
see whether there is something to read. Both then work with copies that may be
out of date. `Spsc.Inv` says why that does no harm: the other side can only
have made more room, or stored more.
-/

namespace GhostBlade.Library

variable {α : Type*} {n : Nat} [NeZero n]

theorem Ring.used_of_room (r : Ring α n) (h : r.head + 1 ≠ r.tail) : r.used + 1 < n := by
  by_contra hfull
  have hlt := r.used_lt
  have hused : (r.head - r.tail).val + 1 = n := by
    change r.used + 1 = n
    omega
  have hzero : r.head - r.tail + 1 = 0 := by
    apply Fin.ext
    have hmod : ((r.head - r.tail).val + 1) % n = 0 := by rw [hused, Nat.mod_self]
    simpa [Fin.val_add] using hmod
  apply h
  rw [sub_add_eq_add_sub, sub_eq_zero] at hzero
  exact hzero

/-- The cell at the head holds no unread symbol. -/
theorem Ring.unread_write (r : Ring α n) (x : α) :
    Ring.unread { r with cells := Function.update r.cells r.head x } = r.unread := by
  apply List.map_congr_left
  intro i hi
  exact Function.update_of_ne (r.unread_cell_ne_head i (List.mem_range.mp hi)) _ _

/-- Moving the head past a cell that has been written is storing its symbol. -/
theorem Ring.unread_publish (r : Ring α n) (h : r.used + 1 < n) :
    Ring.unread { r with head := r.head + 1 } = r.unread ++ [r.cells r.head] := by
  have hput := r.put_unread (r.cells r.head) h
  rwa [Ring.put, Function.update_eq_self] at hput

theorem Ring.used_publish (r : Ring α n) (h : r.used + 1 < n) :
    Ring.used { r with head := r.head + 1 } = r.used + 1 :=
  r.put_used (r.cells r.head) h

/-- Where the producer is with its symbol: `next` is the head to come, `cell` the
copy of the head it writes at. -/
inductive Producer (α ι : Type*) where
  | idle
  | received (x : α)
  | compare (x : α) (next : ι)
  | index (x : α) (next : ι)
  | write (x : α) (next cell : ι)
  | publish (x : α) (next : ι)
  | overrun

/-- Where the consumer is: `head` and `tail` are its copies. -/
inductive Consumer (α ι : Type*) where
  | test
  | compare (head : ι)
  | index
  | read (tail : ι)
  | bump (x : α)
  | release (x : α) (tail : ι)

def Producer.map {ι κ : Type*} (f : ι → κ) : Producer α ι → Producer α κ
  | .idle => .idle
  | .received x => .received x
  | .compare x next => .compare x (f next)
  | .index x next => .index x (f next)
  | .write x next cell => .write x (f next) (f cell)
  | .publish x next => .publish x (f next)
  | .overrun => .overrun

def Consumer.map {ι κ : Type*} (f : ι → κ) : Consumer α ι → Consumer α κ
  | .test => .test
  | .compare head => .compare (f head)
  | .index => .index
  | .read tail => .read (f tail)
  | .bump x => .bump x
  | .release x tail => .release x (f tail)

/-- The shared ring, the two parties, and an account of the symbols they have
handled. `seen` is how many were stored when the consumer last loaded the head. -/
structure Spsc (α : Type*) (n : Nat) where
  ring : Ring α n
  producer : Producer α (Fin n)
  consumer : Consumer α (Fin n)
  received : List α
  accepted : List α
  obtained : List α
  lost : Nat
  seen : Nat

/-- A symbol arrives at an idle producer, or one of the two takes a step. -/
inductive SpscEvent (α : Type*) where
  | receive (x : α)
  | produce
  | consume

def Spsc.receive (s : Spsc α n) (x : α) : Spsc α n :=
  match s.producer with
  | .idle => { s with producer := .received x, received := s.received ++ [x] }
  | _ => s

def Spsc.produce (s : Spsc α n) : Spsc α n :=
  match s.producer with
  | .idle => s
  | .received x => { s with producer := .compare x (s.ring.head + 1) }
  | .compare x next =>
      if next ≠ s.ring.tail then { s with producer := .index x next }
      else { s with producer := .overrun }
  | .index x next => { s with producer := .write x next s.ring.head }
  | .write x next cell =>
      { s with
        ring := { s.ring with cells := Function.update s.ring.cells cell x }
        producer := .publish x next }
  | .publish x next =>
      { s with
        ring := { s.ring with head := next }
        producer := .idle
        accepted := s.accepted ++ [x] }
  | .overrun => { s with producer := .idle, lost := s.lost + 1 }

def Spsc.consume (s : Spsc α n) : Spsc α n :=
  match s.consumer with
  | .test =>
      { s with
        consumer := .compare s.ring.head
        seen := s.accepted.length - s.obtained.length }
  | .compare head =>
      if head ≠ s.ring.tail then { s with consumer := .index }
      else { s with consumer := .test }
  | .index => { s with consumer := .read s.ring.tail }
  | .read tail => { s with consumer := .bump (s.ring.cells tail) }
  | .bump x => { s with consumer := .release x (s.ring.tail + 1) }
  | .release x tail =>
      { s with
        ring := { s.ring with tail := tail }
        consumer := .test
        obtained := s.obtained ++ [x] }

def Spsc.step (s : Spsc α n) : SpscEvent α → Spsc α n
  | .receive x => s.receive x
  | .produce => s.produce
  | .consume => s.consume

def Spsc.start (cells : Fin n → α) : Spsc α n :=
  ⟨⟨cells, 0, 0⟩, .idle, .test, [], [], [], 0, 0⟩

/-- The symbols the producer is still working on. -/
def Producer.pending {ι : Type*} : Producer α ι → Nat
  | .idle => 0
  | _ => 1

/-- What the producer's copies are worth. -/
def Producer.Ok (r : Ring α n) : Producer α (Fin n) → Prop
  | .idle | .received _ | .overrun => True
  | .compare _ next => next = r.head + 1
  | .index _ next => next = r.head + 1 ∧ r.used + 1 < n
  | .write _ next i => next = r.head + 1 ∧ i = r.head ∧ r.used + 1 < n
  | .publish x next => next = r.head + 1 ∧ r.cells r.head = x ∧ r.used + 1 < n

/-- What the consumer's copies are worth. -/
def Consumer.Ok (r : Ring α n) (seen : Nat) : Consumer α (Fin n) → Prop
  | .test => True
  | .compare head => (head = r.tail ↔ seen = 0) ∧ seen ≤ r.used
  | .index => r.head ≠ r.tail
  | .read tail => tail = r.tail ∧ r.head ≠ r.tail
  | .bump x => r.cells r.tail = x ∧ r.head ≠ r.tail
  | .release x tail => tail = r.tail + 1 ∧ r.cells r.tail = x ∧ r.head ≠ r.tail

structure Spsc.Inv (s : Spsc α n) : Prop where
  producer : s.producer.Ok s.ring
  consumer : s.consumer.Ok s.ring s.seen
  fifo : s.obtained ++ s.ring.unread = s.accepted
  count : s.accepted.length + s.lost + s.producer.pending = s.received.length

theorem Spsc.Inv.stored {s : Spsc α n} (h : s.Inv) :
    s.accepted.length - s.obtained.length = s.ring.used := by
  have hlen := congrArg List.length h.fifo
  rw [List.length_append, Ring.unread_length] at hlen
  omega

theorem Spsc.Inv.start (cells : Fin n → α) : (Spsc.start cells).Inv where
  producer := trivial
  consumer := trivial
  fifo := (Ring.unread_eq_nil_iff _).mpr rfl
  count := rfl

/-- The consumer's knowledge survives what the producer does to the ring. -/
theorem Consumer.Ok.mono {r r' : Ring α n} {seen : Nat} {c : Consumer α (Fin n)}
    (h : c.Ok r seen) (htail : r'.tail = r.tail) (hused : r.used ≤ r'.used)
    (hcell : r.head ≠ r.tail → r'.cells r.tail = r.cells r.tail) : c.Ok r' seen := by
  have hne (hne : r.head ≠ r.tail) : r'.head ≠ r'.tail := by
    intro heq
    have hzero := r'.used_eq_zero_iff.mpr heq
    exact hne (r.used_eq_zero_iff.mp (by omega))
  cases c with
  | test => trivial
  | compare head => exact ⟨htail ▸ h.1, h.2.trans hused⟩
  | index => exact hne h
  | read tail => exact ⟨h.1.trans htail.symm, hne h.2⟩
  | bump x => exact ⟨by rw [htail, hcell h.2]; exact h.1, hne h.2⟩
  | release x tail =>
      exact ⟨by rw [htail]; exact h.1, by rw [htail, hcell h.2.2]; exact h.2.1, hne h.2.2⟩

/-- The producer's knowledge survives what the consumer does to the ring. -/
theorem Producer.Ok.mono {r r' : Ring α n} {p : Producer α (Fin n)} (h : p.Ok r)
    (hhead : r'.head = r.head) (hcells : r'.cells = r.cells) (hused : r'.used ≤ r.used) :
    p.Ok r' := by
  cases p with
  | idle => trivial
  | received x => trivial
  | overrun => trivial
  | compare x next => exact Eq.trans h (by rw [hhead])
  | index x next => exact ⟨h.1.trans (by rw [hhead]), by have := h.2; omega⟩
  | write x next i =>
      exact ⟨h.1.trans (by rw [hhead]), h.2.1.trans hhead.symm, by have := h.2.2; omega⟩
  | publish x next =>
      refine ⟨h.1.trans (by rw [hhead]), ?_, by have := h.2.2; omega⟩
      rw [hhead, hcells]
      exact h.2.1

theorem Spsc.Inv.receive {s : Spsc α n} (h : s.Inv) (x : α) : (s.receive x).Inv := by
  unfold Spsc.receive
  split
  · next hp =>
    have hcount := h.count
    rw [hp] at hcount
    refine ⟨trivial, h.consumer, h.fifo, ?_⟩
    simp only [Producer.pending, List.length_append, List.length_singleton] at hcount ⊢
    omega
  · exact h

theorem Spsc.Inv.produce {s : Spsc α n} (h : s.Inv) : s.produce.Inv := by
  have hcount := h.count
  have hok := h.producer
  unfold Spsc.produce
  cases hp : s.producer with
  | idle => exact h
  | received x =>
      rw [hp] at hcount
      exact ⟨rfl, h.consumer, h.fifo, hcount⟩
  | compare x next =>
      rw [hp] at hcount hok
      dsimp only
      split
      · next hroom =>
        have hnext : next = s.ring.head + 1 := hok
        exact ⟨⟨hnext, s.ring.used_of_room (hnext ▸ hroom)⟩, h.consumer, h.fifo, hcount⟩
      · exact ⟨trivial, h.consumer, h.fifo, hcount⟩
  | index x next =>
      rw [hp] at hcount hok
      exact ⟨⟨hok.1, rfl, hok.2⟩, h.consumer, h.fifo, hcount⟩
  | write x next i =>
      rw [hp] at hcount hok
      obtain ⟨hnext, hi, hroom⟩ := hok
      subst hi
      let written : Ring α n :=
        { s.ring with cells := Function.update s.ring.cells s.ring.head x }
      have hconsumer : s.consumer.Ok written s.seen := by
        refine h.consumer.mono ?_ ?_ ?_
        · rfl
        · exact le_refl _
        · exact fun hne => Function.update_of_ne hne.symm _ _
      refine ⟨⟨hnext, Function.update_self .., hroom⟩, hconsumer, ?_, hcount⟩
      exact (congrArg (s.obtained ++ ·) (s.ring.unread_write x)).trans h.fifo
  | publish x next =>
      rw [hp] at hcount hok
      obtain ⟨hnext, hx, hroom⟩ := hok
      subst hnext
      let published : Ring α n := { s.ring with head := s.ring.head + 1 }
      have hconsumer : s.consumer.Ok published s.seen := by
        refine h.consumer.mono ?_ ?_ ?_
        · rfl
        · exact (Nat.le_succ _).trans (s.ring.used_publish hroom).ge
        · exact fun _ => rfl
      refine ⟨trivial, hconsumer, ?_, ?_⟩
      · dsimp only
        rw [s.ring.unread_publish hroom, hx, ← List.append_assoc, h.fifo]
      · simp only [Producer.pending, List.length_append, List.length_singleton] at hcount ⊢
        omega
  | overrun =>
      rw [hp] at hcount
      refine ⟨trivial, h.consumer, h.fifo, ?_⟩
      simp only [Producer.pending] at hcount ⊢
      omega

theorem Spsc.Inv.consume {s : Spsc α n} (h : s.Inv) : s.consume.Inv := by
  have hok := h.consumer
  unfold Spsc.consume
  cases hc : s.consumer with
  | test =>
      refine ⟨h.producer, ⟨?_, ?_⟩, h.fifo, h.count⟩
      · rw [h.stored]
        exact s.ring.used_eq_zero_iff.symm
      · exact h.stored.le
  | compare head =>
      rw [hc] at hok
      dsimp only
      split
      · next hne =>
        have hseen : s.seen ≠ 0 := fun hz => hne (hok.1.mpr hz)
        refine ⟨h.producer, ?_, h.fifo, h.count⟩
        intro heq
        have hzero := s.ring.used_eq_zero_iff.mpr heq
        have hle := hok.2
        omega
      · exact ⟨h.producer, trivial, h.fifo, h.count⟩
  | index =>
      rw [hc] at hok
      exact ⟨h.producer, ⟨rfl, hok⟩, h.fifo, h.count⟩
  | read tail =>
      rw [hc] at hok
      obtain ⟨rfl, hne⟩ := hok
      exact ⟨h.producer, ⟨rfl, hne⟩, h.fifo, h.count⟩
  | bump x =>
      rw [hc] at hok
      exact ⟨h.producer, ⟨rfl, hok.1, hok.2⟩, h.fifo, h.count⟩
  | release x tail =>
      rw [hc] at hok
      obtain ⟨htail, hx, hne⟩ := hok
      subst htail
      have hused := s.ring.advance_used hne
      have hproducer : s.producer.Ok s.ring.advance := by
        refine h.producer.mono ?_ ?_ ?_
        · rfl
        · rfl
        · exact (Nat.le_succ _).trans hused.le
      refine ⟨hproducer, trivial, ?_, h.count⟩
      rw [← h.fifo, s.ring.unread_cons hne, hx]
      exact List.append_assoc ..

theorem Spsc.Inv.step {s : Spsc α n} (h : s.Inv) (e : SpscEvent α) : (s.step e).Inv := by
  cases e with
  | receive x => exact h.receive x
  | produce => exact h.produce
  | consume => exact h.consume

theorem Spsc.run_inv (cells : Fin n → α) (es : List (SpscEvent α)) :
    (run Spsc.step (Spsc.start cells) es).Inv :=
  run_invariant (fun _ e h => h.step e) (Spsc.Inv.start cells) es

/-- A producer that is not interrupted stores its symbol or drops it. -/
theorem Spsc.produce_symbol (s : Spsc α n) (x : α) (hidle : s.producer = .idle) :
    let s' := run Spsc.step s (.receive x :: List.replicate 5 .produce)
    s'.producer = .idle ∧
      (s.ring.head + 1 ≠ s.ring.tail → s'.ring = s.ring.put x ∧ s'.lost = s.lost) ∧
      (s.ring.head + 1 = s.ring.tail → s'.ring = s.ring ∧ s'.lost = s.lost + 1) := by
  by_cases hroom : s.ring.head + 1 = s.ring.tail
  · simp [Spsc.step, Spsc.receive, Spsc.produce, hidle, hroom]
  · simp [Spsc.step, Spsc.receive, Spsc.produce, hidle, hroom, Ring.put]

end GhostBlade.Library
