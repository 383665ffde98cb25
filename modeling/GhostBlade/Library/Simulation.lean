import GhostBlade.Library.Run

/-!
Two systems with the same events, one standing for the other. While a relation
between their states is kept and hides nothing that is observed, what a run of
one shows is what the run of the other shows.
-/

namespace GhostBlade.Library

variable {σ τ ε : Type*} {step : σ → ε → σ} {step' : τ → ε → τ} {R : σ → τ → Prop}

theorem run_simulates (hstep : ∀ s t e, R s t → R (step s e) (step' t e)) {s : σ} {t : τ}
    (h : R s t) (es : List ε) : R (run step s es) (run step' t es) := by
  induction es generalizing s t with
  | nil => exact h
  | cons e es ih => exact ih (hstep s t e h)

theorem observe_simulates {β : Type*} {obs : σ → ε → List β} {obs' : τ → ε → List β}
    (hstep : ∀ s t e, R s t → R (step s e) (step' t e))
    (hobs : ∀ s t e, R s t → obs s e = obs' t e) {s : σ} {t : τ} (h : R s t) (es : List ε) :
    observe step obs s es = observe step' obs' t es := by
  induction es generalizing s t with
  | nil => rfl
  | cons e es ih => rw [observe, observe, hobs s t e h, ih (hstep s t e h)]

end GhostBlade.Library
