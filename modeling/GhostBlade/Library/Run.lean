import Mathlib.Tactic

/-!
Runs of a deterministic system that takes one event after another. `Along`
says that a property of the state and the next event holds at every step of a
run; it is the form in which conditions on runs and properties of runs are
stated, and two such properties are compared step by step under an invariant.
-/

namespace GhostBlade.Library

variable {σ ε : Type*} (step : σ → ε → σ)

def run (s : σ) (es : List ε) : σ := es.foldl step s

/-- At every step of the run the state and the event are related by `C`. -/
def Along (C : σ → ε → Prop) : σ → List ε → Prop
  | _, [] => True
  | s, e :: es => C s e ∧ Along C (step s e) es

instance Along.decidable (C : σ → ε → Prop) [∀ s e, Decidable (C s e)] (s : σ) (es : List ε) :
    Decidable (Along step C s es) :=
  match es with
  | [] => inferInstanceAs (Decidable True)
  | e :: es =>
      have := Along.decidable C (step s e) es
      inferInstanceAs (Decidable (C s e ∧ Along step C (step s e) es))

/-- Everything observed during a run, in order. -/
def observe {β : Type*} (obs : σ → ε → List β) : σ → List ε → List β
  | _, [] => []
  | s, e :: es => obs s e ++ observe obs (step s e) es

@[simp] theorem run_nil (s : σ) : run step s [] = s := rfl

@[simp] theorem run_cons (s : σ) (e : ε) (es : List ε) :
    run step s (e :: es) = run step (step s e) es := rfl

theorem run_append (s : σ) (es fs : List ε) :
    run step s (es ++ fs) = run step (run step s es) fs :=
  List.foldl_append

theorem observe_append {β : Type*} (obs : σ → ε → List β) (s : σ) (es fs : List ε) :
    observe step obs s (es ++ fs) =
      observe step obs s es ++ observe step obs (run step s es) fs := by
  induction es generalizing s with
  | nil => rfl
  | cons e es ih =>
      rw [List.cons_append, observe, ih, observe, run_cons, List.append_assoc]

theorem observe_eq_nil {β : Type*} {obs : σ → ε → List β} {es : List ε}
    (h : ∀ s, ∀ e ∈ es, obs s e = []) (s : σ) : observe step obs s es = [] := by
  induction es generalizing s with
  | nil => rfl
  | cons e es ih =>
      rw [observe, h s e List.mem_cons_self, ih fun s f hf => h s f (List.mem_cons_of_mem e hf)]
      rfl

/-- Events that stand for others. -/
theorem run_map {ε' : Type*} (f : ε' → ε) (s : σ) (es : List ε') :
    run step s (es.map f) = run (fun s e => step s (f e)) s es :=
  List.foldl_map

theorem observe_map {ε' β : Type*} (f : ε' → ε) (obs : σ → ε → List β) (s : σ) (es : List ε') :
    observe step obs s (es.map f) =
      observe (fun s e => step s (f e)) (fun s e => obs s (f e)) s es := by
  induction es generalizing s with
  | nil => rfl
  | cons e es ih =>
      rw [List.map_cons, observe, ih, observe]

variable {step}

/-- What a run shows is shown in a state that keeps the invariant. -/
theorem mem_observe {β : Type*} {obs : σ → ε → List β} {I : σ → Prop} {s : σ} (h : I s)
    (hstep : ∀ s e, I s → I (step s e)) {es : List ε} {b : β} (hb : b ∈ observe step obs s es) :
    ∃ s e, I s ∧ b ∈ obs s e := by
  induction es generalizing s with
  | nil => exact absurd hb List.not_mem_nil
  | cons e es ih =>
      rcases List.mem_append.mp hb with hhere | hlater
      · exact ⟨s, e, h, hhere⟩
      · exact ih (hstep s e h) hlater

theorem along_map {ε' : Type*} (f : ε' → ε) {C : σ → ε → Prop} {s : σ} {es : List ε'} :
    Along step C s (es.map f) ↔ Along (fun s e => step s (f e)) (fun s e => C s (f e)) s es := by
  induction es generalizing s with
  | nil => exact Iff.rfl
  | cons e es ih => exact and_congr_right fun _ => ih

theorem along_append {C : σ → ε → Prop} {s : σ} {es fs : List ε} :
    Along step C s (es ++ fs) ↔ Along step C s es ∧ Along step C (run step s es) fs := by
  induction es generalizing s with
  | nil => simp [Along]
  | cons e es ih => simp [Along, ih, and_assoc]

theorem along_of_forall {C : σ → ε → Prop} (h : ∀ s e, C s e) (s : σ) (es : List ε) :
    Along step C s es := by
  induction es generalizing s with
  | nil => trivial
  | cons e es ih => exact ⟨h s e, ih (step s e)⟩

/-- A property along a run is one of every prefix and the event behind it. -/
theorem along_iff {C : σ → ε → Prop} {s : σ} {es : List ε} :
    Along step C s es ↔ ∀ us e vs, es = us ++ e :: vs → C (run step s us) e := by
  constructor
  · rintro h us e vs rfl
    exact (along_append.mp h).2.1
  · intro h
    induction es generalizing s with
    | nil => trivial
    | cons e es ih =>
        refine ⟨h [] e es rfl, ih ?_⟩
        intro us f vs heq
        exact h (e :: us) f vs (by rw [heq]; rfl)

/-- What the steps that meet a condition preserve holds after every run whose
steps all meet it. -/
theorem run_invariant_along {I : σ → Prop} {C : σ → ε → Prop}
    (hstep : ∀ s e, I s → C s e → I (step s e)) {s : σ} {es : List ε} (h : I s)
    (hes : Along step C s es) : I (run step s es) := by
  induction es generalizing s with
  | nil => exact h
  | cons e es ih => exact ih (hstep s e h hes.1) hes.2

theorem run_invariant {I : σ → Prop} (hstep : ∀ s e, I s → I (step s e)) {s : σ}
    (h : I s) (es : List ε) : I (run step s es) := by
  induction es generalizing s with
  | nil => exact h
  | cons e es ih => exact ih (hstep s e h)

/-- Under an invariant, what follows from a condition at each step follows
along the run. -/
theorem along_mono {I : σ → Prop} {C D : σ → ε → Prop}
    (hstep : ∀ s e, I s → C s e → I (step s e)) (himp : ∀ s e, I s → C s e → D s e)
    {s : σ} {es : List ε} (h : I s) (hes : Along step C s es) : Along step D s es := by
  induction es generalizing s with
  | nil => trivial
  | cons e es ih => exact ⟨himp s e h hes.1, ih (hstep s e h hes.1) hes.2⟩

/-- Two properties that agree at every state of an invariant agree along runs. -/
theorem along_congr {I : σ → Prop} {C D : σ → ε → Prop}
    (hstep : ∀ s e, I s → I (step s e)) (hiff : ∀ s e, I s → (C s e ↔ D s e))
    {s : σ} (h : I s) (es : List ε) : Along step C s es ↔ Along step D s es := by
  constructor
  · exact along_mono (fun s e hI _ => hstep s e hI) (fun s e hI => (hiff s e hI).mp) h
  · exact along_mono (fun s e hI _ => hstep s e hI) (fun s e hI => (hiff s e hI).mpr) h

/-- Two properties that agree at every state of an invariant, which only the
steps with the property keep, agree along runs. -/
theorem along_congr_of {I : σ → Prop} {H C D : σ → ε → Prop}
    (hstep : ∀ s e, I s → H s e → C s e → I (step s e))
    (hiff : ∀ s e, I s → H s e → (C s e ↔ D s e)) {s : σ} {es : List ε} (h : I s)
    (hes : Along step H s es) : Along step C s es ↔ Along step D s es := by
  induction es generalizing s with
  | nil => exact Iff.rfl
  | cons e es ih =>
      rw [Along, Along, hiff s e h hes.1]
      refine and_congr_right fun hD => ih ?_ hes.2
      exact hstep s e h hes.1 ((hiff s e h hes.1).mpr hD)

/-- Where the steps of one kind keep an invariant that implies a property, and
every other step breaks the property, it holds in every state of a run exactly
when all steps of the run are of that kind. -/
theorem property_iff_along {I P : σ → Prop} {C : σ → ε → Prop} (himp : ∀ s, I s → P s)
    (hkeep : ∀ s e, I s → C s e → I (step s e)) (hbreak : ∀ s e, I s → P (step s e) → C s e)
    {s : σ} (h : I s) (es : List ε) :
    (∀ us, us <+: es → P (run step s us)) ↔ Along step C s es := by
  induction es generalizing s with
  | nil =>
      constructor
      · exact fun _ => trivial
      · intro _ us hus
        rw [List.prefix_nil.mp hus]
        exact himp s h
  | cons e es ih =>
      constructor
      · intro hall
        have hnext : C s e := hbreak s e h (hall [e] ⟨es, rfl⟩)
        refine ⟨hnext, (ih (hkeep s e h hnext)).mp ?_⟩
        rintro us ⟨vs, rfl⟩
        exact hall (e :: us) ⟨vs, rfl⟩
      · rintro ⟨hnext, hrest⟩ us ⟨vs, heq⟩
        cases us with
        | nil => exact himp s h
        | cons f us =>
            obtain ⟨rfl, rfl⟩ := List.cons.inj heq
            exact (ih (hkeep s f h hnext)).mpr hrest us (List.prefix_append us vs)

/-- Where an invariant survives exactly the steps of one kind, it holds in every
state of a run exactly when all steps of the run are of that kind. -/
theorem states_iff_along {I : σ → Prop} {C : σ → ε → Prop}
    (hstep : ∀ s e, I s → (I (step s e) ↔ C s e)) {s : σ} (h : I s) (es : List ε) :
    (∀ us, us <+: es → I (run step s us)) ↔ Along step C s es :=
  property_iff_along (fun _ hI => hI) (fun t e hI => (hstep t e hI).mpr)
    (fun t e hI => (hstep t e hI).mp) h es

/-! ### Two runs side by side -/

/-- Two runs, each with an event of its own. -/
def twinStep (step : σ → ε → σ) (p : σ × σ) (e : ε × ε) : σ × σ := (step p.1 e.1, step p.2 e.2)

theorem along_and {C D : σ → ε → Prop} {s : σ} {es : List ε} (hC : Along step C s es)
    (hD : Along step D s es) : Along step (fun s e => C s e ∧ D s e) s es := by
  induction es generalizing s with
  | nil => trivial
  | cons e es ih => exact ⟨⟨hC.1, hD.1⟩, ih hC.2 hD.2⟩

/-- A property of the first of two runs. -/
theorem along_fst {C : σ → ε → Prop} {p : σ × σ} {es : List (ε × ε)} :
    Along (twinStep step) (fun p e => C p.1 e.1) p es ↔ Along step C p.1 (es.map Prod.fst) := by
  induction es generalizing p with
  | nil => exact Iff.rfl
  | cons e es ih => exact and_congr_right fun _ => ih

/-- Two runs in a relation that hides nothing from the observer look alike. -/
theorem observe_twin {β : Type*} {obs : σ → ε → List β} {R : σ × σ → Prop}
    {C : σ × σ → ε × ε → Prop} (hstep : ∀ p e, R p → C p e → R (twinStep step p e))
    (hobs : ∀ p e, R p → C p e → obs p.1 e.1 = obs p.2 e.2) {p : σ × σ} {es : List (ε × ε)}
    (h : R p) (hes : Along (twinStep step) C p es) :
    observe step obs p.1 (es.map Prod.fst) = observe step obs p.2 (es.map Prod.snd) := by
  induction es generalizing p with
  | nil => rfl
  | cons e es ih =>
      rw [List.map_cons, List.map_cons, observe, observe, hobs p e h hes.1]
      exact congrArg (obs p.2 e.2 ++ ·) (ih (hstep p e h hes.1) hes.2)

/-! ### Answers -/

/-- While a run waits, the first thing observed is an answer. -/
theorem answered {β : Type*} {obs : σ → ε → List β} {W : σ → Prop} {C : σ → ε → Prop} {a : β}
    (hstep : ∀ s e, W s → C s e → obs s e = [] ∧ W (step s e) ∨ obs s e = [a]) {s : σ}
    {es : List ε} (h : W s) (hes : Along step C s es) (hobs : 1 ≤ (observe step obs s es).length) :
    a ∈ (observe step obs s es).take 1 := by
  induction es generalizing s with
  | nil => simp [observe] at hobs
  | cons e es ih =>
      rw [observe] at hobs ⊢
      rcases hstep s e h hes.1 with ⟨hnone, hnext⟩ | hanswer
      · rw [hnone, List.nil_append] at hobs ⊢
        exact ih hnext hes.2 hobs
      · simp [hanswer]

/-- A run that waits now, or will after one more observation. -/
theorem answered_next {β : Type*} {obs : σ → ε → List β} {U W : σ → Prop} {C : σ → ε → Prop}
    {a : β} (hwait : ∀ s e, W s → C s e → obs s e = [] ∧ W (step s e) ∨ obs s e = [a])
    (hstep : ∀ s e, U s → C s e →
      obs s e = [] ∧ (U (step s e) ∨ W (step s e)) ∨ ∃ b, obs s e = [b] ∧ W (step s e))
    {s : σ} {es : List ε} (h : U s) (hes : Along step C s es)
    (hobs : 2 ≤ (observe step obs s es).length) : a ∈ (observe step obs s es).take 2 := by
  induction es generalizing s with
  | nil => simp [observe] at hobs
  | cons e es ih =>
      rw [observe] at hobs ⊢
      rcases hstep s e h hes.1 with ⟨hnone, hU | hW⟩ | ⟨b, hb, hW⟩
      · rw [hnone, List.nil_append] at hobs ⊢
        exact ih hU hes.2 hobs
      · rw [hnone, List.nil_append] at hobs ⊢
        have hfirst := answered hwait hW hes.2 (by omega)
        exact List.mem_of_mem_take (i := 1) (by rwa [List.take_take])
      · rw [hb, List.singleton_append, List.length_cons] at hobs
        rw [hb, List.singleton_append, List.take_succ_cons]
        exact List.mem_cons_of_mem b (answered hwait hW hes.2 (by omega))

/-! ### Endless runs -/

variable (step) in
/-- The state of an endless run before its `n`-th event. -/
def stateAt (s : σ) (es : ℕ → ε) : ℕ → σ
  | 0 => s
  | n + 1 => step (stateAt s es n) (es n)

/-- Events of this kind keep coming. -/
def InfinitelyOften (H : ε → Prop) (es : ℕ → ε) : Prop := ∀ n, ∃ m, n ≤ m ∧ H (es m)

theorem stateAt_invariant {I : σ → Prop} {C : σ → ε → Prop}
    (hstep : ∀ s e, I s → C s e → I (step s e)) {s : σ} {es : ℕ → ε} (h : I s)
    (hes : ∀ n, C (stateAt step s es n) (es n)) (n : ℕ) : I (stateAt step s es n) := by
  induction n with
  | zero => exact h
  | succ n ih => exact hstep _ _ ih (hes n)

/-- What holds until a goal is reached still holds at any later state, or the
goal has been reached on the way. -/
theorem stateAt_until {P Q : σ → Prop} {C : σ → ε → Prop}
    (hstep : ∀ s e, P s → C s e → Q (step s e) ∨ P (step s e)) {s : σ} {es : ℕ → ε}
    (hes : ∀ n, C (stateAt step s es n) (es n)) {n : ℕ} (h : P (stateAt step s es n)) (k : ℕ) :
    (∃ m, n ≤ m ∧ Q (stateAt step s es m)) ∨ P (stateAt step s es (n + k)) := by
  induction k with
  | zero => exact .inr h
  | succ k ih =>
      rcases ih with hgoal | hP
      · exact .inl hgoal
      · rcases hstep _ _ hP (hes (n + k)) with hQ | hP'
        · exact .inl ⟨n + k + 1, by omega, hQ⟩
        · exact .inr hP'

/-- Progress under fairness: no event raises the rank, the helpful ones lower
it, and they keep coming; so the goal is reached. -/
theorem reaches_of_rank {P Q : σ → Prop} {C : σ → ε → Prop} {H : ε → Prop} (rank : σ → ℕ)
    (hstep : ∀ s e, P s → C s e → Q (step s e) ∨ P (step s e) ∧ rank (step s e) ≤ rank s)
    (hhelp : ∀ s e, P s → C s e → H e → Q (step s e) ∨ P (step s e) ∧ rank (step s e) < rank s)
    {s : σ} {es : ℕ → ε} (hes : ∀ n, C (stateAt step s es n) (es n))
    (hfair : InfinitelyOften H es) {n : ℕ} (h : P (stateAt step s es n)) :
    ∃ m, n ≤ m ∧ Q (stateAt step s es m) := by
  induction hr : rank (stateAt step s es n) using Nat.strong_induction_on generalizing n with
  | h r ih =>
      obtain ⟨m, hm, hH⟩ := hfair n
      obtain ⟨k, rfl⟩ := Nat.exists_eq_add_of_le hm
      have hkeep : ∀ t e, P t ∧ rank t ≤ r → C t e →
          Q (step t e) ∨ P (step t e) ∧ rank (step t e) ≤ r := by
        rintro t e ⟨hP, hle⟩ hC
        rcases hstep t e hP hC with hQ | ⟨hP', hle'⟩
        · exact .inl hQ
        · exact .inr ⟨hP', hle'.trans hle⟩
      rcases stateAt_until hkeep hes ⟨h, hr.le⟩ k with hgoal | ⟨hP, hle⟩
      · exact hgoal
      · rcases hhelp _ _ hP (hes (n + k)) hH with hQ | ⟨hP', hlt⟩
        · exact ⟨n + k + 1, by omega, hQ⟩
        · obtain ⟨m, hnm, hQ⟩ := ih _ (hlt.trans_le hle) (n := n + k + 1) hP' rfl
          exact ⟨m, by omega, hQ⟩

end GhostBlade.Library
