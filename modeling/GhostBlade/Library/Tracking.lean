import GhostBlade.Library.Routines

/-!
Programs with a record beside them. An operation moves the record on, by its answer,
or it must not be done there. What a program keeps to, and how its result and the
record at its end go together, is shown along the text of the program; on a device
that the record describes it then holds of what the program does there.
-/

namespace GhostBlade.Library

variable {Op : Type} {Ans : Op → Type} {α β ρ σ τ : Type}

/-- `none` is for what must not be done. -/
abbrev Tracker (Op : Type) (Ans : Op → Type) (τ : Type) := τ → (op : Op) → Ans op → Option τ

namespace Prog

/-- From this record the program does only what it may, whatever it is answered, and
its result and the record at its end meet `Q`. -/
def Tracks (after : Tracker Op Ans τ) : τ → Prog Op Ans α → (α → τ → Prop) → Prop
  | r, .ret a, Q => Q a r
  | r, .call op next, Q => ∀ x, ∃ r', after r op x = some r' ∧ Tracks after r' (next x) Q

variable {after : Tracker Op Ans τ} {r : τ} {p : Prog Op Ans α} {Q : α → τ → Prop}

theorem tracks_pure {a : α} (hQ : Q a r) : Tracks after r (pure a : Prog Op Ans α) Q := hQ

theorem Tracks.mono {Q' : α → τ → Prop} (hp : Tracks after r p Q)
    (himp : ∀ a r', Q a r' → Q' a r') : Tracks after r p Q' := by
  induction p generalizing r with
  | ret a => exact himp a r hp
  | call op next ih =>
      intro x
      obtain ⟨r', hafter, hnext⟩ := hp x
      exact ⟨r', hafter, ih x hnext⟩

theorem tracks_bind {f : α → Prog Op Ans β} {Q' : β → τ → Prop} (hp : Tracks after r p Q)
    (hf : ∀ a r', Q a r' → Tracks after r' (f a) Q') : Tracks after r (p >>= f) Q' := by
  induction p generalizing r with
  | ret a => exact hf a r hp
  | call op next ih =>
      intro x
      obtain ⟨r', hafter, hnext⟩ := hp x
      exact ⟨r', hafter, ih x hnext⟩

/-- The record behind the first part is known. -/
theorem tracks_then {f : α → Prog Op Ans β} {r' : τ} {Q' : β → τ → Prop}
    (hp : Tracks after r p fun _ r'' => r'' = r') (hf : ∀ a, Tracks after r' (f a) Q') :
    Tracks after r (p >>= f) Q' := by
  apply tracks_bind hp
  rintro a _ rfl
  exact hf a

theorem tracks_perform {op : Op} {Q : Ans op → τ → Prop}
    (h : ∀ x, ∃ r', after r op x = some r' ∧ Q x r') :
    Tracks after r (perform op : Prog Op Ans (Ans op)) Q := h

/-- A record that every round leaves as it is. -/
theorem tracks_loop {body : Prog Op Ans (Option ρ)}
    (hbody : Tracks after r body fun _ r' => r' = r) (n : ℕ) :
    Tracks after r (loop body n) fun _ r' => r' = r := by
  induction n with
  | zero => rfl
  | succ n ih =>
      refine tracks_then hbody fun said => ?_
      cases said with
      | none => exact ih
      | some a => exact tracks_pure rfl

theorem tracks_forM {xs : List α} {f : α → Prog Op Ans PUnit}
    (hf : ∀ a ∈ xs, Tracks after r (f a) fun _ r' => r' = r) :
    Tracks after r (xs.forM f) fun _ r' => r' = r := by
  induction xs with
  | nil => exact tracks_pure rfl
  | cons a xs ih =>
      refine tracks_then (hf a List.mem_cons_self) fun _ => ih fun b hb => ?_
      exact hf b (List.mem_cons_of_mem a hb)

/-- On a device that the record describes. -/
theorem Tracks.exec {d : Device Op Ans σ} {R : τ → σ → Prop} {s : σ}
    (hstep : ∀ r s op r', R r s → after r op (d op s).1 = some r' → R r' (d op s).2)
    (hp : Tracks after r p Q) (hr : R r s) :
    ∃ r', R r' (p.exec d s).state ∧ Q (p.exec d s).result r' := by
  induction p generalizing r s with
  | ret a => exact ⟨r, hr, hp⟩
  | call op next ih =>
      obtain ⟨r', hafter, hnext⟩ := hp (d op s).1
      exact ih (d op s).1 hnext (hstep r s op r' hr hafter)

end Prog

end GhostBlade.Library
