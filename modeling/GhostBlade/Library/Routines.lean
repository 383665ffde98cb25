import GhostBlade.Library.Interaction

/-!
Programs made of routines and loops. The operations of a program may be routines
of their own, written over the operations of a device below: the program then
does on that device what it does on the device whose operations are the
routines. A loop does its body until a round of it leaves the loop or the rounds
are used up. Next to a device one may keep a record of its operations, which
changes nothing.
-/

namespace GhostBlade.Library

variable {Op Op' : Type} {Ans : Op → Type} {Ans' : Op' → Type} {α β ρ σ τ : Type}

/-- The device whose operations are routines on another one. -/
def Device.through (d : Device Op' Ans' σ) (routine : (op : Op) → Prog Op' Ans' (Ans op)) :
    Device Op Ans σ := fun op s =>
  let e := (routine op).exec d s
  (e.result, e.state)

/-- The device with something that follows its operations from the outside. -/
def Device.recorded (d : Device Op Ans σ) (step : τ → Op → τ) : Device Op Ans (τ × σ) :=
  fun op s => ((d op s.2).1, step s.1 op, (d op s.2).2)

namespace Prog

theorem exec_recorded {d : Device Op Ans σ} {step : τ → Op → τ} (p : Prog Op Ans α) (t : τ)
    (s : σ) :
    p.exec (d.recorded step) (t, s) =
      ⟨(p.exec d s).result, (p.exec d s).trace, run step t (p.exec d s).trace,
        (p.exec d s).state⟩ := by
  induction p generalizing t s with
  | ret a => rfl
  | call op next ih =>
      have hnext := ih (d op s).1 (step t op) (d op s).2
      exact congrArg
        (fun e : Execution Op (τ × σ) α =>
          (⟨e.result, op :: e.trace, e.state⟩ : Execution Op (τ × σ) α)) hnext

/-! ### Routines -/

def inline (routine : (op : Op) → Prog Op' Ans' (Ans op)) : Prog Op Ans α → Prog Op' Ans' α
  | ret a => ret a
  | call op next => (routine op).bind fun x => (next x).inline routine

section

variable {routine : (op : Op) → Prog Op' Ans' (Ans op)} {d : Device Op' Ans' σ} {s : σ}

theorem exec_inline (p : Prog Op Ans α) :
    ((p.inline routine).exec d s).result = (p.exec (d.through routine) s).result ∧
      ((p.inline routine).exec d s).state = (p.exec (d.through routine) s).state := by
  induction p generalizing s with
  | ret a => exact ⟨rfl, rfl⟩
  | call op next ih =>
      let first := (routine op).exec d s
      have hbind : ((call op next).inline routine).exec d s =
          let second := ((next first.result).inline routine).exec d first.state
          ⟨second.result, first.trace ++ second.trace, second.state⟩ := exec_bind d s _ _
      rw [hbind]
      exact ih first.result

/-- The operations below are those of the routines, one after the other. -/
theorem exec_inline_trace {R : Op → List Op' → Prop}
    (h : ∀ op, (routine op).Ensures fun t _ => R op t) (p : Prog Op Ans α) :
    ∃ ts, ((p.inline routine).exec d s).trace = ts.flatten ∧
      List.Forall₂ R (p.exec (d.through routine) s).trace ts := by
  induction p generalizing s with
  | ret a => exact ⟨[], rfl, .nil⟩
  | call op next ih =>
      let first := (routine op).exec d s
      have hbind : ((call op next).inline routine).exec d s =
          let second := ((next first.result).inline routine).exec d first.state
          ⟨second.result, first.trace ++ second.trace, second.state⟩ := exec_bind d s _ _
      obtain ⟨ts, htrace, hts⟩ := ih first.result (s := first.state)
      refine ⟨first.trace :: ts, ?_, .cons (h op).exec hts⟩
      rw [hbind, List.flatten_cons, ← htrace]

end

/-- What an invariant lets each operation do to a part of the device's state, a
run does over the operations. -/
theorem exec_component_of {d : Device Op Ans σ} {view : σ → τ} {step : τ → Op → τ} {I : σ → Prop}
    {C : Op → Prop} (h : ∀ op s, C op → I s → view (d op s).2 = step (view s) op ∧ I (d op s).2)
    {p : Prog Op Ans α} {s : σ} (hp : ∀ op ∈ (p.exec d s).trace, C op) (hs : I s) :
    view (p.exec d s).state = run step (view s) (p.exec d s).trace ∧ I (p.exec d s).state := by
  induction p generalizing s with
  | ret a => exact ⟨rfl, hs⟩
  | call op next ih =>
      obtain ⟨hview, hinv⟩ := h op s (hp op List.mem_cons_self) hs
      have hrest := ih (d op s).1 (fun op' hop' => hp op' (List.mem_cons_of_mem op hop')) hinv
      rw [hview] at hrest
      exact hrest

/-! ### Loops -/

/-- At most so many rounds of a body that may leave the loop. -/
def loop (body : Prog Op Ans (Option ρ)) : ℕ → Prog Op Ans (Option ρ)
  | 0 => ret none
  | n + 1 => do
      match ← body with
      | some r => return some r
      | none => loop body n

section

variable (d : Device Op Ans σ) (body : Prog Op Ans (Option ρ)) (s : σ)

/-- The device before the `k`-th round, from 0, of a loop that no round leaves. -/
def rounds (k : ℕ) : σ := (fun s => (body.exec d s).state)^[k] s

/-- What the `k`-th round says. -/
def said (k : ℕ) : Option ρ := (body.exec d (rounds d body s k)).result

/-- The `k`-th round is the first to leave the loop. -/
def LeavesAt (k : ℕ) (r : ρ) : Prop := (∀ j < k, said d body s j = none) ∧ said d body s k = some r

variable {d body s} {n k m : ℕ} {r r' : ρ}

theorem rounds_step : rounds d body s (k + 1) = (body.exec d (rounds d body s k)).state :=
  Function.iterate_succ_apply' _ _ _

theorem loop_leave (h : (body.exec d s).result = some r) :
    (loop body (n + 1)).exec d s = ⟨some r, (body.exec d s).trace, (body.exec d s).state⟩ := by
  rw [loop, exec_bind]
  dsimp only
  rw [h]
  simp

theorem loop_stay (h : (body.exec d s).result = none) :
    (loop body (n + 1)).exec d s =
      let rest := (loop body n).exec d (body.exec d s).state
      ⟨rest.result, (body.exec d s).trace ++ rest.trace, rest.state⟩ := by
  rw [loop, exec_bind]
  dsimp only
  rw [h]

/-- A loop that is left. -/
theorem LeavesAt.exec (h : LeavesAt d body s k r) (hk : k < n) :
    (loop body n).exec d s =
      ⟨some r, (List.range (k + 1)).flatMap fun j => (body.exec d (rounds d body s j)).trace,
        rounds d body s (k + 1)⟩ := by
  induction k generalizing s n with
  | zero =>
      obtain ⟨n, rfl⟩ := Nat.exists_eq_succ_of_ne_zero (show n ≠ 0 by omega)
      have hfirst : (body.exec d s).result = some r := h.2
      rw [loop_leave hfirst]
      simp [rounds]
  | succ k ih =>
      obtain ⟨n, rfl⟩ := Nat.exists_eq_succ_of_ne_zero (show n ≠ 0 by omega)
      have hfirst : (body.exec d s).result = none := h.1 0 (Nat.succ_pos k)
      have hrest : LeavesAt d body (body.exec d s).state k r :=
        ⟨fun j hj => h.1 (j + 1) (by omega), h.2⟩
      rw [loop_stay hfirst, ih hrest (by omega), List.range_succ_eq_map (n := k + 1),
        List.flatMap_cons, List.flatMap_map]
      rfl

/-- A loop whose rounds are used up. -/
theorem exec_loop_stays (h : ∀ j < n, said d body s j = none) :
    (loop body n).exec d s =
      ⟨none, (List.range n).flatMap fun j => (body.exec d (rounds d body s j)).trace,
        rounds d body s n⟩ := by
  induction n generalizing s with
  | zero => rfl
  | succ n ih =>
      have hfirst : (body.exec d s).result = none := h 0 (Nat.succ_pos n)
      have hrest := ih (s := (body.exec d s).state) fun j hj => h (j + 1) (by omega)
      rw [loop_stay hfirst, hrest, List.range_succ_eq_map, List.flatMap_cons, List.flatMap_map]
      rfl

variable (d body s) in
theorem leaves_or_stays (n : ℕ) :
    (∃ k < n, ∃ r, LeavesAt d body s k r) ∨ ∀ j < n, said d body s j = none := by
  induction n with
  | zero => exact .inr fun j hj => absurd hj (Nat.not_lt_zero j)
  | succ n ih =>
      rcases ih with ⟨k, hk, hleaves⟩ | hstays
      · exact .inl ⟨k, by omega, hleaves⟩
      · cases hn : said d body s n with
        | some r => exact .inl ⟨n, by omega, r, hstays, hn⟩
        | none =>
            apply Or.inr
            intro j hj
            rcases Nat.lt_succ_iff_lt_or_eq.mp hj with hlt | rfl
            · exact hstays j hlt
            · exact hn

theorem LeavesAt.unique (h : LeavesAt d body s k r) (h' : LeavesAt d body s m r') :
    k = m ∧ r = r' := by
  have hle {k m : ℕ} {r r' : ρ} (h : LeavesAt d body s k r) (h' : LeavesAt d body s m r') :
      k ≤ m := by
    apply Nat.le_of_not_lt
    intro hlt
    have hnone := h.1 m hlt
    rw [h'.2] at hnone
    cases hnone
  obtain rfl := Nat.le_antisymm (hle h h') (hle h' h)
  exact ⟨rfl, Option.some.inj (h.2.symm.trans h'.2)⟩

theorem loop_eq_some :
    ((loop body n).exec d s).result = some r ↔ ∃ k < n, LeavesAt d body s k r := by
  constructor
  · intro hresult
    rcases leaves_or_stays d body s n with ⟨k, hk, r', h⟩ | hstays
    · rw [h.exec hk] at hresult
      cases hresult
      exact ⟨k, hk, h⟩
    · rw [exec_loop_stays hstays] at hresult
      cases hresult
  · rintro ⟨k, hk, h⟩
    rw [h.exec hk]

end

/-- A loop: what holds of the operations of the rounds that stay. -/
theorem ensures_loop {body : Prog Op Ans (Option ρ)} {I : List Op → Prop}
    {Q : List Op → Option ρ → Prop} (h : I []) (hend : ∀ t, I t → Q t none)
    (hbody : ∀ t, I t → body.Ensures fun u r => match r with
      | none => I (t ++ u)
      | some r => Q (t ++ u) (some r)) (n : ℕ) : (loop body n).Ensures Q := by
  have hloop : ∀ n t, I t → (loop body n).Ensures fun u r => Q (t ++ u) r := by
    intro n
    induction n with
    | zero =>
        intro t ht
        apply ensures_pure
        rw [List.append_nil]
        exact hend t ht
    | succ n ih =>
        intro t ht
        apply ensures_bind (hbody t ht)
        intro u r hu
        cases r with
        | some r =>
            apply ensures_pure
            rw [List.append_nil]
            exact hu
        | none =>
            apply (ih (t ++ u) hu).mono
            intro v r hv
            rwa [← List.append_assoc]
  exact hloop n [] h

theorem only_loop {C : Op → Prop} {body : Prog Op Ans (Option ρ)} (h : Only C body) (n : ℕ) :
    Only C (loop body n) := by
  apply ensures_loop (I := fun t => ∀ op ∈ t, C op) (by simp) (fun _ ht => ht)
  intro t ht
  apply Ensures.mono h
  intro u r hu
  have happend : ∀ op ∈ t ++ u, C op := by
    intro op hop
    rcases List.mem_append.mp hop with hfirst | hsecond
    · exact ht op hfirst
    · exact hu op hsecond
  cases r with
  | none => exact happend
  | some r => exact happend

theorem Does.loop {C : Op → Prop} {body : Prog Op Ans (Option ρ)} (h : Does C body) (n : ℕ) :
    Does C (loop body (n + 1)) := h.bind _

end Prog

end GhostBlade.Library
