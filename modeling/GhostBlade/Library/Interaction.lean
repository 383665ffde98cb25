import Mathlib.Tactic
import GhostBlade.Library.Run

/-!
Programs that talk to a device. A program performs one operation after another
and goes on with the device's answer; a device answers an operation and changes
its state. What a program does on every device is stated by a postcondition on
its operations and its result, and what it does on one device by running it.
-/

namespace GhostBlade.Library

inductive Prog (Op : Type) (Ans : Op → Type) (α : Type) where
  | ret (a : α)
  | call (op : Op) (next : Ans op → Prog Op Ans α)

/-- How a device answers each operation, and the state it goes to. -/
abbrev Device (Op : Type) (Ans : Op → Type) (σ : Type) := (op : Op) → σ → Ans op × σ

/-- What is left of an execution: the result, the operations in order, and the
state of the device. -/
structure Execution (Op σ α : Type) where
  result : α
  trace : List Op
  state : σ

namespace Prog

variable {Op : Type} {Ans : Op → Type} {α β γ σ τ : Type}

def bind : Prog Op Ans α → (α → Prog Op Ans β) → Prog Op Ans β
  | ret a, f => f a
  | call op next, f => call op fun x => (next x).bind f

instance : Monad (Prog Op Ans) where
  pure := ret
  bind := bind

/-- A single operation. -/
def perform (op : Op) : Prog Op Ans (Ans op) := call op ret

def exec (d : Device Op Ans σ) : Prog Op Ans α → σ → Execution Op σ α
  | ret a, s => ⟨a, [], s⟩
  | call op next, s =>
      let rest := (next (d op s).1).exec d (d op s).2
      ⟨rest.result, op :: rest.trace, rest.state⟩

/-- On every device the operations and the result meet `Q`. -/
def Ensures : Prog Op Ans α → (List Op → α → Prop) → Prop
  | ret a, Q => Q [] a
  | call op next, Q => ∀ x, (next x).Ensures fun t a => Q (op :: t) a

/-! ### Execution -/

variable (d : Device Op Ans σ) (s : σ)

@[simp] theorem exec_pure (a : α) : (pure a : Prog Op Ans α).exec d s = ⟨a, [], s⟩ := rfl

@[simp] theorem exec_perform (op : Op) :
    (perform op : Prog Op Ans (Ans op)).exec d s = ⟨(d op s).1, [op], (d op s).2⟩ := rfl

theorem exec_bind (p : Prog Op Ans α) (f : α → Prog Op Ans β) :
    (p >>= f).exec d s =
      let first := p.exec d s
      let second := (f first.result).exec d first.state
      ⟨second.result, first.trace ++ second.trace, second.state⟩ := by
  induction p generalizing s with
  | ret a => rfl
  | call op next ih =>
      have hnext := ih (d op s).1 (d op s).2
      exact congrArg
        (fun e : Execution Op σ β => (⟨e.result, op :: e.trace, e.state⟩ : Execution Op σ β)) hnext

@[simp] theorem exec_bind_result (p : Prog Op Ans α) (f : α → Prog Op Ans β) :
    ((p >>= f).exec d s).result =
      ((f (p.exec d s).result).exec d (p.exec d s).state).result := by
  rw [exec_bind]

@[simp] theorem exec_bind_trace (p : Prog Op Ans α) (f : α → Prog Op Ans β) :
    ((p >>= f).exec d s).trace =
      (p.exec d s).trace ++ ((f (p.exec d s).result).exec d (p.exec d s).state).trace := by
  rw [exec_bind]

@[simp] theorem exec_bind_state (p : Prog Op Ans α) (f : α → Prog Op Ans β) :
    ((p >>= f).exec d s).state =
      ((f (p.exec d s).result).exec d (p.exec d s).state).state := by
  rw [exec_bind]

/-- A state beside the device's that every operation keeps in relation to it. -/
theorem exec_simulates {R : σ → τ → Prop} {step : τ → Op → τ}
    (h : ∀ op s t, R s t → R (d op s).2 (step t op)) {t : τ} (hs : R s t) (p : Prog Op Ans α) :
    R (p.exec d s).state (run step t (p.exec d s).trace) := by
  induction p generalizing s t with
  | ret a => exact hs
  | call op next ih => exact ih (d op s).1 (d op s).2 (h op s t hs)

/-- A part of the device's state that each operation changes by itself is
changed by a run over the operations. -/
theorem exec_component {view : σ → τ} {step : τ → Op → τ}
    (h : ∀ op s, view (d op s).2 = step (view s) op) (p : Prog Op Ans α) :
    view (p.exec d s).state = run step (view s) (p.exec d s).trace := by
  refine exec_simulates d s (R := fun s t => view s = t) ?_ rfl p
  rintro op s _ rfl
  exact h op s

/-- What the operations of an execution preserve is preserved by it. -/
theorem exec_invariant_of {d : Device Op Ans σ} {s : σ} {C : Op → Prop} {I : σ → Prop}
    {p : Prog Op Ans α} (hstep : ∀ op s, C op → I s → I (d op s).2)
    (hp : ∀ op ∈ (p.exec d s).trace, C op) (h : I s) : I (p.exec d s).state := by
  induction p generalizing s with
  | ret a => exact h
  | call op next ih =>
      have hrest : ∀ op' ∈ ((next (d op s).1).exec d (d op s).2).trace, C op' :=
        fun op' hop' => hp op' (List.mem_cons_of_mem op hop')
      exact ih (d op s).1 hrest (hstep op s (hp op List.mem_cons_self) h)

/-! ### Postconditions -/

variable {d s}

theorem Ensures.exec {p : Prog Op Ans α} {Q : List Op → α → Prop} (h : p.Ensures Q) :
    Q (p.exec d s).trace (p.exec d s).result := by
  induction p generalizing s Q with
  | ret a => exact h
  | call op next ih => exact ih (d op s).1 (h (d op s).1)

theorem Ensures.mono {p : Prog Op Ans α} {Q R : List Op → α → Prop} (h : p.Ensures Q)
    (himp : ∀ t a, Q t a → R t a) : p.Ensures R := by
  induction p generalizing Q R with
  | ret a => exact himp [] a h
  | call op next ih => exact fun x => ih x (h x) fun t a => himp (op :: t) a

theorem ensures_true (p : Prog Op Ans α) : p.Ensures fun _ _ => True := by
  induction p with
  | ret a => trivial
  | call op next ih => exact ih

theorem ensures_pure {a : α} {Q : List Op → α → Prop} (h : Q [] a) :
    (pure a : Prog Op Ans α).Ensures Q := h

theorem ensures_perform {op : Op} {Q : List Op → Ans op → Prop} (h : ∀ x, Q [op] x) :
    (perform op : Prog Op Ans (Ans op)).Ensures Q := h

/-- One program after another: the second is to meet what the operations of the
first leave of the postcondition. -/
theorem ensures_bind {p : Prog Op Ans α} {f : α → Prog Op Ans β} {P : List Op → α → Prop}
    {Q : List Op → β → Prop} (hp : p.Ensures P)
    (hf : ∀ t a, P t a → (f a).Ensures fun u b => Q (t ++ u) b) : (p >>= f).Ensures Q := by
  induction p generalizing P Q with
  | ret a => exact hf [] a hp
  | call op next ih => exact fun x => ih x (hp x) fun t a h => hf (op :: t) a h

/-- A loop: what has been done so far by the elements already visited. -/
theorem ensures_forM {xs : List α} {f : α → Prog Op Ans PUnit} {Q : List α → List Op → Prop}
    (hnil : Q [] []) (hstep : ∀ us, ∀ x ∈ xs, ∀ t, Q us t →
      (f x).Ensures fun u _ => Q (us ++ [x]) (t ++ u)) :
    (xs.forM f).Ensures fun t _ => Q xs t := by
  have hloop : ∀ vs us t, us ++ vs = xs → Q us t →
      (vs.forM f).Ensures fun u _ => Q xs (t ++ u) := by
    intro vs
    induction vs with
    | nil =>
        intro us t hxs ht
        apply ensures_pure
        rwa [← hxs, List.append_nil, List.append_nil]
    | cons x vs ih =>
        intro us t hxs ht
        have hx : x ∈ xs := by simp [← hxs]
        apply ensures_bind (hstep us x hx t ht)
        intro u _ hu
        have hrest := ih (us ++ [x]) (t ++ u) (by simp [← hxs]) hu
        exact hrest.mono fun v _ hv => by rwa [← List.append_assoc]
  exact hloop xs [] [] rfl hnil

/-- Every operation of a program, on every device. -/
def Only (C : Op → Prop) (p : Prog Op Ans α) : Prop := p.Ensures fun t _ => ∀ op ∈ t, C op

variable {C : Op → Prop}

theorem only_pure (a : α) : Only C (pure a : Prog Op Ans α) :=
  ensures_pure (by simp)

theorem only_perform {op : Op} (h : C op) : Only C (perform op : Prog Op Ans (Ans op)) :=
  ensures_perform fun _ => by simpa using h

theorem only_bind {p : Prog Op Ans α} {f : α → Prog Op Ans β} (hp : Only C p)
    (hf : ∀ a, Only C (f a)) : Only C (p >>= f) := by
  apply ensures_bind hp
  intro t a ht
  apply (hf a).mono
  intro u b hu op hop
  rcases List.mem_append.mp hop with hfirst | hsecond
  · exact ht op hfirst
  · exact hu op hsecond

theorem only_forM {xs : List α} {f : α → Prog Op Ans PUnit} (h : ∀ x ∈ xs, Only C (f x)) :
    Only C (xs.forM f) := by
  apply ensures_forM (Q := fun _ t => ∀ op ∈ t, C op) (by simp)
  intro _ x hx t ht
  apply (h x hx).mono
  intro u _ hu op hop
  rcases List.mem_append.mp hop with hfirst | hsecond
  · exact ht op hfirst
  · exact hu op hsecond

/-- Some operation of a program, on every device. -/
def Does (C : Op → Prop) (p : Prog Op Ans α) : Prop := p.Ensures fun t _ => ∃ op ∈ t, C op

theorem does_perform {op : Op} (h : C op) : Does C (perform op : Prog Op Ans (Ans op)) :=
  ensures_perform fun _ => ⟨op, List.mem_singleton_self op, h⟩

theorem Does.bind {p : Prog Op Ans α} (h : Does C p) (f : α → Prog Op Ans β) :
    Does C (p >>= f) := by
  apply ensures_bind h
  rintro t a ⟨op, hop, hC⟩
  exact (ensures_true (f a)).mono fun u _ _ => ⟨op, List.mem_append_left u hop, hC⟩

theorem does_bind {f : α → Prog Op Ans β} (p : Prog Op Ans α) (h : ∀ a, Does C (f a)) :
    Does C (p >>= f) := by
  apply ensures_bind (ensures_true p)
  intro t a _
  exact (h a).mono fun u _ ⟨op, hop, hC⟩ => ⟨op, List.mem_append_right t hop, hC⟩

theorem Only.mono {D : Op → Prop} {p : Prog Op Ans α} (h : Only C p)
    (himp : ∀ op, C op → D op) : Only D p :=
  Ensures.mono h fun _ _ ht op hop => himp op (ht op hop)

/-- What these operations preserve on a device is preserved by the program. -/
theorem Only.exec_invariant {I : σ → Prop} {p : Prog Op Ans α} (hp : Only C p)
    (hstep : ∀ op s, C op → I s → I (d op s).2) (h : I s) : I (p.exec d s).state :=
  exec_invariant_of hstep hp.exec h

end Prog

end GhostBlade.Library
