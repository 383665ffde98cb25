import Mathlib.Tactic
import GhostBlade.Library.Run

/-!
Latches. A flag that some events set, that others leave alone and that the rest
clear is told by its history: it is up exactly when it was set and has been left
alone since.
-/

namespace GhostBlade.Library

variable {σ ε : Type*}

/-- An event of kind `q` is in the history and only events of kind `p` follow it. -/
def Since (p q : ε → Prop) (es : List ε) : Prop :=
  ∃ us e vs, es = us ++ e :: vs ∧ q e ∧ ∀ f ∈ vs, p f

variable {p q : ε → Prop}

theorem not_since_nil : ¬ Since p q [] := by
  rintro ⟨us, e, vs, heq, -⟩
  simp at heq

theorem since_snoc {es : List ε} {e : ε} :
    Since p q (es ++ [e]) ↔ q e ∨ p e ∧ Since p q es := by
  constructor
  · rintro ⟨us, f, vs, heq, hf, hvs⟩
    induction vs using List.reverseRecOn with
    | nil =>
        obtain ⟨-, he⟩ := List.append_inj' heq rfl
        rw [List.singleton_inj.mp he]
        exact .inl hf
    | append_singleton vs g _ =>
        have heq' : es ++ [e] = (us ++ f :: vs) ++ [g] := by simpa using heq
        obtain ⟨hes, hg⟩ := List.append_inj' heq' rfl
        obtain rfl := List.singleton_inj.mp hg
        refine .inr ⟨hvs e (by simp), us, f, vs, hes, hf, ?_⟩
        intro f' hf'
        exact hvs f' (by simp [hf'])
  · rintro (he | ⟨he, us, f, vs, rfl, hf, hvs⟩)
    · exact ⟨es, e, [], rfl, he, by simp⟩
    · refine ⟨us, f, vs ++ [e], by simp, hf, ?_⟩
      intro f' hf'
      rcases List.mem_append.mp hf' with hmem | hlast
      · exact hvs f' hmem
      · rwa [List.mem_singleton.mp hlast]

/-- What nothing clears has been set at some time. -/
theorem since_true {es : List ε} : Since (fun _ => True) q es ↔ ∃ e ∈ es, q e := by
  constructor
  · rintro ⟨us, e, vs, rfl, he, -⟩
    exact ⟨e, by simp, he⟩
  · rintro ⟨e, hmem, he⟩
    obtain ⟨us, vs, rfl⟩ := List.append_of_mem hmem
    exact ⟨us, e, vs, rfl, he, fun _ _ => trivial⟩

/-- In a system whose steps set, keep or clear `P`, at least while they meet a
condition, `P` holds after a run exactly when its history says so. -/
theorem latch_along {step : σ → ε → σ} {I P : σ → Prop} {C : σ → ε → Prop}
    (hI : ∀ s e, I s → C s e → I (step s e))
    (hstep : ∀ s e, I s → C s e → (P (step s e) ↔ q e ∨ p e ∧ P s)) {s : σ} (hs : I s)
    (hclear : ¬ P s) {es : List ε} (hes : Along step C s es) :
    P (run step s es) ↔ Since p q es := by
  induction es using List.reverseRecOn with
  | nil => exact iff_of_false hclear not_since_nil
  | append_singleton es e ih =>
      obtain ⟨hbefore, hlast, -⟩ := along_append.mp hes
      have hinv := run_invariant_along hI hs hbefore
      rw [run_append, run_cons, run_nil, hstep _ e hinv hlast, ih hbefore, since_snoc]

theorem latch {step : σ → ε → σ} {P : σ → Prop}
    (hstep : ∀ s e, P (step s e) ↔ q e ∨ p e ∧ P s) {s : σ} (hclear : ¬ P s) (es : List ε) :
    P (run step s es) ↔ Since p q es :=
  latch_along (I := fun _ => True) (C := fun _ _ => True) (fun _ _ _ _ => trivial)
    (fun s e _ _ => hstep s e) trivial hclear (along_iff.mpr fun _ _ _ _ => trivial)

end GhostBlade.Library
