import Mathlib.Tactic
import GhostBlade.Library.Run

/-!
Programs that notify their environment and are suspended until it returns. The
environment may call other programs of the same system in the meantime, so that
a whole stack of them is suspended, and it may change the state they share. A
program is verified alone: at every notification it must establish the
invariant, and it goes on in any state the environment is relied upon to leave.
The last theorem puts the programs of a system together.
-/

namespace GhostBlade.Library

universe u v

variable {σ : Type u} {ι : Type v} {α β : Type u}

/-- A program in a state: it is done, or suspended at a notification. -/
inductive Resumption (σ : Type u) (ι : Type v) (α : Type u) where
  | done (s : σ) (a : α)
  | notify (s : σ) (i : ι) (resume : σ → Resumption σ ι α)

def Resumption.bind (f : α → σ → Resumption σ ι β) : Resumption σ ι α → Resumption σ ι β
  | .done s a => f a s
  | .notify s i resume => .notify s i fun t => (resume t).bind f

/-- Programs on a state `σ` that notify with an `ι`. -/
def Reactive (σ : Type u) (ι : Type v) (α : Type u) : Type (max u v) :=
  σ → Resumption σ ι α

instance : Monad (Reactive σ ι) where
  pure a s := .done s a
  bind m f s := (m s).bind f

def Reactive.get : Reactive σ ι σ := fun s => .done s s

def Reactive.modify (f : σ → σ) : Reactive σ ι PUnit := fun s => .done (f s) ⟨⟩

def Reactive.notify (i : ι) : Reactive σ ι PUnit := fun s => .notify s i fun t => .done t ⟨⟩

/-! ### Rules -/

section

variable (I : σ → Prop) (R : ι → σ → Prop)

/-- Suspended only where `I` holds, relying on `I` and `R` when resumed, and done
only where `Q` holds. -/
def Resumption.Keeps (Q : α → σ → Prop) : Resumption σ ι α → Prop
  | .done s a => Q a s
  | .notify s i resume => I s ∧ ∀ t, I t → R i t → (resume t).Keeps Q

def Reactive.Triple (P : σ → Prop) (m : Reactive σ ι α) (Q : α → σ → Prop) : Prop :=
  ∀ s, P s → (m s).Keeps I R Q

variable {I R} {P P' M : σ → Prop} {Q Q' : α → σ → Prop}

theorem Resumption.Keeps.mono (hQ : ∀ a s, Q a s → Q' a s) {r : Resumption σ ι α}
    (h : r.Keeps I R Q) : r.Keeps I R Q' := by
  induction r with
  | done s a => exact hQ a s h
  | notify s i resume ih => exact ⟨h.1, fun t hI hR => ih t (h.2 t hI hR)⟩

theorem Resumption.Keeps.bind {S : β → σ → Prop} {f : α → σ → Resumption σ ι β}
    (hf : ∀ a s, Q a s → (f a s).Keeps I R S) {r : Resumption σ ι α} (h : r.Keeps I R Q) :
    (r.bind f).Keeps I R S := by
  induction r with
  | done s a => exact hf a s h
  | notify s i resume ih => exact ⟨h.1, fun t hI hR => ih t (h.2 t hI hR)⟩

theorem triple_conseq (hP : ∀ s, P' s → P s) (hQ : ∀ a s, Q a s → Q' a s) {m : Reactive σ ι α}
    (h : Reactive.Triple I R P m Q) : Reactive.Triple I R P' m Q' :=
  fun s hs => (h s (hP s hs)).mono hQ

theorem triple_pure (a : α) (h : ∀ s, P s → Q a s) :
    Reactive.Triple I R P (pure a : Reactive σ ι α) Q := h

theorem triple_bind {S : β → σ → Prop} {m : Reactive σ ι α} {f : α → Reactive σ ι β}
    (hm : Reactive.Triple I R P m Q) (hf : ∀ a, Reactive.Triple I R (Q a) (f a) S) :
    Reactive.Triple I R P (m >>= f) S :=
  fun s hs => (hm s hs).bind hf

/-- What is read is the state. -/
theorem triple_get {S : α → σ → Prop} {f : σ → Reactive σ ι α}
    (h : ∀ s, P s → Reactive.Triple I R (· = s) (f s) S) :
    Reactive.Triple I R P (Reactive.get >>= f) S :=
  fun s hs => h s hs s rfl

theorem triple_modify {m : PUnit → Reactive σ ι α} (f : σ → σ) (hf : ∀ s, P s → M (f s))
    (hm : Reactive.Triple I R M (m ⟨⟩) Q) : Reactive.Triple I R P (Reactive.modify f >>= m) Q :=
  fun s hs => hm (f s) (hf s hs)

theorem triple_notify (i : ι) {S : PUnit → σ → Prop} (hP : ∀ s, P s → I s)
    (hS : ∀ t, I t → R i t → S ⟨⟩ t) :
    Reactive.Triple I R P (Reactive.notify i : Reactive σ ι PUnit) S :=
  fun s hs => ⟨hP s hs, hS⟩

theorem triple_ite {c : Prop} [Decidable c] {m n : Reactive σ ι α}
    (hm : c → Reactive.Triple I R P m Q) (hn : ¬ c → Reactive.Triple I R P n Q) :
    Reactive.Triple I R P (if c then m else n) Q := by
  split
  · next h => exact hm h
  · next h => exact hn h

end

/-! ### An environment that does nothing -/

/-- `G` holds at every notification and `Q` at the end, the environment leaving
the state alone. -/
def Resumption.Silently (G : σ → Prop) (Q : α → σ → Prop) : Resumption σ ι α → Prop
  | .done s a => Q a s
  | .notify s _ resume => G s ∧ (resume s).Silently G Q

/-- How a program ends in such an environment. -/
def Resumption.last : Resumption σ ι α → σ × α
  | .done s a => (s, a)
  | .notify s _ resume => (resume s).last

section

variable {G G' : σ → Prop} {Q Q' : α → σ → Prop} {r : Resumption σ ι α}

theorem silently_bind {S : β → σ → Prop} {f : α → σ → Resumption σ ι β} :
    (r.bind f).Silently G S ↔ r.Silently G fun a s => (f a s).Silently G S := by
  induction r with
  | done s a => exact Iff.rfl
  | notify s i resume ih => exact and_congr_right fun _ => ih s

theorem Resumption.Silently.mono (hG : ∀ s, G s → G' s) (hQ : ∀ a s, Q a s → Q' a s)
    (h : r.Silently G Q) : r.Silently G' Q' := by
  induction r with
  | done s a => exact hQ a s h
  | notify s i resume ih => exact ⟨hG s h.1, ih s h.2⟩

theorem Resumption.Silently.and (h : r.Silently G Q) (h' : r.Silently G' Q') :
    r.Silently (fun s => G s ∧ G' s) fun a s => Q a s ∧ Q' a s := by
  induction r with
  | done s a => exact ⟨h, h'⟩
  | notify s i resume ih => exact ⟨⟨h.1, h'.1⟩, ih s h.2 h'.2⟩

/-- A program that goes on where another ends. -/
theorem Resumption.Silently.bind {S : β → σ → Prop} {f : α → σ → Resumption σ ι β}
    (h : r.Silently G Q) (hf : ∀ a s, Q a s → (f a s).Silently G S) :
    (r.bind f).Silently G S :=
  silently_bind.mpr (h.mono (fun _ hG => hG) hf)

theorem Resumption.Silently.last (h : r.Silently G Q) : Q r.last.2 r.last.1 := by
  induction r with
  | done s a => exact h
  | notify s i resume ih => exact ih s h.2

section

variable {s : σ} {f : σ → Reactive σ ι α} {m n : Reactive σ ι α} {g : PUnit → Reactive σ ι α}

theorem silently_get (h : (f s s).Silently G Q) : ((Reactive.get >>= f) s).Silently G Q := h

theorem silently_modify {u : σ → σ} (h : (g ⟨⟩ (u s)).Silently G Q) :
    ((Reactive.modify u >>= g) s).Silently G Q := h

theorem silently_ite {c : Prop} [Decidable c] (hm : c → (m s).Silently G Q)
    (hn : ¬ c → (n s).Silently G Q) : ((if c then m else n) s).Silently G Q := by
  split_ifs with h
  · exact hm h
  · exact hn h

end

theorem last_bind (f : α → σ → Resumption σ ι β) :
    (r.bind f).last = (f r.last.2 r.last.1).last := by
  induction r with
  | done s a => rfl
  | notify s i resume ih => exact ih s

end

/-! ### Systems -/

/-- The shared state and the suspended programs, the innermost first. -/
structure Suspended (σ : Type u) (ι : Type v) (α : Type u) where
  state : σ
  stack : List (ι × (σ → Resumption σ ι α))

def Resumption.settle (stack : List (ι × (σ → Resumption σ ι α))) :
    Resumption σ ι α → Suspended σ ι α
  | .done s _ => ⟨s, stack⟩
  | .notify s i resume => ⟨s, (i, resume) :: stack⟩

/-- The environment calls a program, or returns to the one it was notified by. -/
inductive EnvEvent (κ : Type*) where
  | call (k : κ)
  | back
deriving DecidableEq, Repr

variable {κ : Type*} (program : κ → Reactive σ ι α)

/-- Run a program until it is done or notifies. -/
def Suspended.step (c : Suspended σ ι α) : EnvEvent κ → Suspended σ ι α
  | .call k => (program k c.state).settle c.stack
  | .back =>
      match c.stack with
      | [] => c
      | (_, resume) :: stack => (resume c.state).settle stack

/-- The environment leaves what it is relied upon to leave. -/
def Suspended.Relied (R : ι → σ → Prop) (c : Suspended σ ι α) : EnvEvent κ → Prop
  | .call _ => True
  | .back => ∀ f ∈ c.stack.head?, R f.1 c.state

/-- Every suspended program can go on. -/
structure Suspended.Sound (I : σ → Prop) (R : ι → σ → Prop) (c : Suspended σ ι α) : Prop where
  state : I c.state
  stack : ∀ f ∈ c.stack, ∀ t, I t → R f.1 t → (f.2 t).Keeps I R fun _ s => I s

variable {I : σ → Prop} {R : ι → σ → Prop} {program}

theorem sound_settle {stack : List (ι × (σ → Resumption σ ι α))} {r : Resumption σ ι α}
    (hr : r.Keeps I R fun _ s => I s)
    (hstack : ∀ f ∈ stack, ∀ t, I t → R f.1 t → (f.2 t).Keeps I R fun _ s => I s) :
    (r.settle stack).Sound I R := by
  cases r with
  | done s a => exact ⟨hr, hstack⟩
  | notify s i resume => exact ⟨hr.1, List.forall_mem_cons.mpr ⟨hr.2, hstack⟩⟩

theorem sound_step (hprogram : ∀ k, Reactive.Triple I R I (program k) fun _ s => I s)
    (c : Suspended σ ι α) (e : EnvEvent κ) (h : c.Sound I R) (hrely : c.Relied R e) :
    (c.step program e).Sound I R := by
  cases e with
  | call k => exact sound_settle (hprogram k c.state h.state) h.stack
  | back =>
      obtain ⟨s, stack⟩ := c
      cases stack with
      | nil => exact h
      | cons f stack =>
          obtain ⟨hf, hstack⟩ := List.forall_mem_cons.mp h.stack
          exact sound_settle (hf s h.state (hrely f rfl)) hstack

/-- Programs each of which keeps the invariant keep it together, however they
are nested, as long as the environment returns as it is relied upon. -/
theorem sound_run (hprogram : ∀ k, Reactive.Triple I R I (program k) fun _ s => I s) {s : σ}
    (hs : I s) {es : List (EnvEvent κ)}
    (h : Along (Suspended.step program) (Suspended.Relied R) ⟨s, []⟩ es) :
    (run (Suspended.step program) ⟨s, []⟩ es).Sound I R :=
  run_invariant_along (sound_step hprogram) ⟨hs, by simp⟩ h

end GhostBlade.Library
