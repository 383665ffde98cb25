import GhostBlade.Library.Run

/-!
Threads that wait for a condition on a shared state. A waiting thread puts itself
on the queue, tests its condition and sleeps when the test fails; somebody who
changes the state may call a wake-up later. Between any two of these statements
anybody else may be at work, and a wake-up that comes between the test and the
sleep is not missed because it takes the thread off the queue.
-/

namespace GhostBlade.Library

/-- On the queue, a thread is about to test its condition or asleep. -/
inductive WaitPc where
  | away
  | tests
  | sleeps
deriving DecidableEq

/-- `woken` is what the last wake-up has left on a thread that was on the queue, and
`owing` is who has changed the state and not come to the wake-up yet. -/
structure WaitQueue (σ ι κ : Type*) where
  shared : σ
  pc : ι → WaitPc
  woken : ι → Bool
  owing : κ → Bool

inductive WaitEvent (ε ι κ : Type*) where
  | enter (i : ι)
  | test (i : ι)
  | resume (i : ι)
  /-- A signal or a timeout ends the sleep. -/
  | interrupt (i : ι)
  | act (k : κ) (e : ε)
  | wake (k : κ)

/-- Who changes the state and how, which changes are followed by a wake-up, and what the
threads test. -/
structure WaitProtocol (σ ε ι : Type*) where
  act : σ → ε → σ
  announces : σ → ε → Bool
  holds : ι → σ → Bool

namespace WaitQueue

variable {σ ε ι κ : Type*}

/-- Nobody waits and nobody owes a wake-up. -/
def idle (s : σ) : WaitQueue σ ι κ := ⟨s, fun _ => .away, fun _ => false, fun _ => false⟩

/-- Nobody owes a wake-up. -/
def Settled (q : WaitQueue σ ι κ) : Prop := ∀ k, q.owing k = false

/-- A thread that sleeps with its condition true is going to be woken up. -/
def Heard (promised : ι → σ → Bool) (q : WaitQueue σ ι κ) : Prop :=
  ∀ i, q.pc i = .sleeps → q.woken i = false → promised i q.shared = true →
    ∃ k, q.owing k = true

variable {promised : ι → σ → Bool}

theorem heard_idle (s : σ) : (idle s : WaitQueue σ ι κ).Heard promised := by
  intro i hsleeps
  cases hsleeps

section

variable [DecidableEq ι]

def goto (q : WaitQueue σ ι κ) (i : ι) (pc : WaitPc) : WaitQueue σ ι κ :=
  { q with pc := Function.update q.pc i pc }

/-- The thread is on the queue from here on: the state before does not count. -/
def prepare (q : WaitQueue σ ι κ) (i : ι) : WaitQueue σ ι κ :=
  { q.goto i .tests with woken := Function.update q.woken i false }

variable {q : WaitQueue σ ι κ}

/-- One thread moves on: the others are where they were. -/
theorem Heard.move (h : q.Heard promised) {i : ι} {pc : WaitPc}
    (hpc : pc = .sleeps → promised i q.shared = false) : (q.goto i pc).Heard promised := by
  intro j hsleeps hwoken hdue
  by_cases hj : j = i
  · subst hj
    have hpc' : pc = .sleeps := by simpa [goto] using hsleeps
    exact absurd (hdue.symm.trans (hpc hpc')) Bool.true_eq_false.mp
  · exact h j (by simpa [goto, hj] using hsleeps) hwoken hdue

theorem Heard.prepare (h : q.Heard promised) (i : ι) : (q.prepare i).Heard promised := by
  intro j hsleeps hwoken hdue
  by_cases hj : j = i
  · subst hj
    simp [WaitQueue.prepare, goto] at hsleeps
  · exact h j (by simpa [WaitQueue.prepare, goto, hj] using hsleeps)
      (by simpa [WaitQueue.prepare, hj] using hwoken) hdue

variable [DecidableEq κ]

def step (p : WaitProtocol σ ε ι) (q : WaitQueue σ ι κ) : WaitEvent ε ι κ → WaitQueue σ ι κ
  | .enter i => if q.pc i = .away then q.prepare i else q
  | .test i =>
      if q.pc i = .tests then
        if p.holds i q.shared then q.goto i .away else q.goto i .sleeps
      else q
  | .resume i => if q.pc i = .sleeps ∧ q.woken i = true then q.prepare i else q
  | .interrupt i => if q.pc i = .sleeps then q.goto i .away else q
  | .act k e =>
      if q.owing k = true then q
      else
        { q with
          shared := p.act q.shared e
          owing := Function.update q.owing k (p.announces q.shared e) }
  | .wake k =>
      if q.owing k = true then
        { q with woken := fun _ => true, owing := Function.update q.owing k false }
      else q

/-- A change without a wake-up makes no condition true. -/
def Announced (p : WaitProtocol σ ε ι) (promised : ι → σ → Bool) (q : WaitQueue σ ι κ) :
    WaitEvent ε ι κ → Prop
  | .act k e =>
      q.owing k = false → p.announces q.shared e = false →
        ∀ i, promised i (p.act q.shared e) = true → promised i q.shared = true
  | .enter _ | .test _ | .resume _ | .interrupt _ | .wake _ => True

variable {p : WaitProtocol σ ε ι}

/-- One with a wake-up owes it. -/
theorem Heard.act (h : q.Heard promised) {k : κ} {e : ε}
    (hsilent : q.Announced p promised (.act k e)) (hk : q.owing k = false) :
    (q.step p (.act k e)).Heard promised := by
  have hstep : q.step p (.act k e) =
      { q with
        shared := p.act q.shared e
        owing := Function.update q.owing k (p.announces q.shared e) } := by
    simp [WaitQueue.step, hk]
  rw [hstep]
  intro i hsleeps hwoken hdue
  cases hannounces : p.announces q.shared e with
  | true => exact ⟨k, by simp⟩
  | false =>
      obtain ⟨k', hk'⟩ := h i hsleeps hwoken (hsilent hk hannounces i hdue)
      refine ⟨k', ?_⟩
      have hne : k' ≠ k := fun heq => absurd (hk'.symm.trans (heq ▸ hk)) Bool.true_eq_false.mp
      simpa [hne] using hk'

theorem Heard.step (h : q.Heard promised)
    (htests : ∀ i s, promised i s = true → p.holds i s = true) {e : WaitEvent ε ι κ}
    (hsilent : q.Announced p promised e) : (q.step p e).Heard promised := by
  cases e with
  | enter i =>
      simp only [WaitQueue.step]
      split
      · exact h.prepare i
      · exact h
  | test i =>
      simp only [WaitQueue.step]
      split
      · split
        · exact h.move fun heq => nomatch heq
        · next hfails =>
            refine h.move fun _ => ?_
            cases hdue : promised i q.shared with
            | false => rfl
            | true => exact absurd (htests i _ hdue) hfails
      · exact h
  | resume i =>
      simp only [WaitQueue.step]
      split
      · exact h.prepare i
      · exact h
  | interrupt i =>
      simp only [WaitQueue.step]
      split
      · exact h.move fun heq => nomatch heq
      · exact h
  | act k e =>
      cases hk : q.owing k with
      | true => simpa [WaitQueue.step, hk] using h
      | false => exact h.act hsilent hk
  | wake k =>
      simp only [WaitQueue.step]
      split
      · intro i _ hwoken
        cases hwoken
      · exact h

/-- In any order of the statements of any number of threads. -/
theorem run_heard (htests : ∀ i s, promised i s = true → p.holds i s = true) {s : σ}
    {es : List (WaitEvent ε ι κ)} (hes : Along (step p) (Announced p promised) (idle s) es) :
    (run (step p) (idle s) es).Heard promised :=
  run_invariant_along (I := Heard promised) (fun _ _ h he => h.step htests he) (heard_idle s) hes

/-- When nobody owes a wake-up, a thread whose condition is true comes back by
itself. -/
theorem Heard.returns (h : q.Heard promised)
    (htests : ∀ i s, promised i s = true → p.holds i s = true) (hsettled : q.Settled) {i : ι}
    (hdue : promised i q.shared = true) :
    (run (WaitQueue.step p) q [.resume i, .test i]).pc i = .away := by
  have hholds := htests i _ hdue
  cases hpc : q.pc i with
  | away => simp [run, WaitQueue.step, hpc]
  | tests => simp [run, WaitQueue.step, goto, hpc, hholds]
  | sleeps =>
      cases hwoken : q.woken i with
      | true => simp [run, WaitQueue.step, WaitQueue.prepare, goto, hpc, hwoken, hholds]
      | false =>
          obtain ⟨k, hk⟩ := h i hpc hwoken hdue
          exact absurd (hk.symm.trans (hsettled k)) Bool.true_eq_false.mp

end

end WaitQueue

end GhostBlade.Library
