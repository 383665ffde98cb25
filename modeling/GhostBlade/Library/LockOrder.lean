import GhostBlade.Library.Tracking

/-!
Programs that take locks and resources from a kernel. A program keeps a discipline
when it takes each lock in the order of their ranks, does nothing that its locks
forbid, gives back only what it has, and ends with what it is said to end with.
Threads whose programs keep it never stand all still: behind every thread that waits
for a lock there is one that can go on. What a lock guards is done by its owner only.
-/

namespace GhostBlade.Library

/-- What an operation does to the locks and resources of its thread. -/
inductive LockUse (L R : Type) where
  | lock (l : L)
  | unlock (l : L)
  | acquire (r : R)
  | release (r : R)
  | plain

/-- A thread's locks, the last one taken first, and its resources. -/
structure Holdings (L R : Type) where
  locks : List L
  resources : List R
deriving DecidableEq

def Holdings.none {L R : Type} : Holdings L R := ⟨[], []⟩

/-- `granted` is whether the answer to a request is a resource. -/
structure LockDiscipline (Op : Type) (Ans : Op → Type) (L R : Type) where
  use : Op → LockUse L R
  granted : (op : Op) → Ans op → Bool
  rank : L → ℕ
  /-- What may be done with these locks. -/
  allowed : List L → Op → Bool

variable {Op : Type} {Ans : Op → Type} {L R α β : Type} [DecidableEq L] [DecidableEq R]

namespace LockDiscipline

variable (d : LockDiscipline Op Ans L R)

/-- What a thread holds after an operation; `none` is a breach. -/
def after (h : Holdings L R) (op : Op) (x : Ans op) : Option (Holdings L R) :=
  if d.allowed h.locks op then
    match d.use op with
    | .lock l =>
        if ∀ m ∈ h.locks, d.rank m < d.rank l then some { h with locks := l :: h.locks } else .none
    | .unlock l => if l ∈ h.locks then some { h with locks := h.locks.erase l } else .none
    | .acquire r =>
        if r ∈ h.resources then .none
        else some (if d.granted op x then { h with resources := r :: h.resources } else h)
    | .release r =>
        if r ∈ h.resources then some { h with resources := h.resources.erase r } else .none
    | .plain => some h
  else .none

/-- From these holdings the program keeps the discipline, whatever it is answered, and
its result and what it holds at its end meet `Q`. -/
def Keeps (h : Holdings L R) (p : Prog Op Ans α) (Q : α → Holdings L R → Prop) : Prop :=
  p.Tracks d.after h Q

variable {d} {h : Holdings L R} {Q : α → Holdings L R → Prop}

theorem after_cases {op : Op} {x : Ans op} {h' : Holdings L R} (hafter : d.after h op x = some h') :
    d.allowed h.locks op = true ∧
      match d.use op with
      | .lock l => (∀ m ∈ h.locks, d.rank m < d.rank l) ∧ h'.locks = l :: h.locks
      | .unlock l => l ∈ h.locks ∧ h'.locks = h.locks.erase l
      | .acquire _ | .release _ | .plain => h'.locks = h.locks := by
  unfold after at hafter
  split at hafter
  · next hallowed =>
      refine ⟨hallowed, ?_⟩
      cases huse : d.use op with
      | lock l =>
          simp only [huse] at hafter
          split at hafter
          · next hranks =>
              obtain rfl := Option.some.inj hafter
              exact ⟨hranks, rfl⟩
          · cases hafter
      | unlock l =>
          simp only [huse] at hafter
          split at hafter
          · next hmem =>
              obtain rfl := Option.some.inj hafter
              exact ⟨hmem, rfl⟩
          · cases hafter
      | acquire r =>
          simp only [huse] at hafter
          split at hafter
          · cases hafter
          · obtain rfl := Option.some.inj hafter
            show (if _ then _ else _ : Holdings L R).locks = h.locks
            split_ifs <;> rfl
      | release r =>
          simp only [huse] at hafter
          split at hafter
          · obtain rfl := Option.some.inj hafter
            rfl
          · cases hafter
      | plain =>
          simp only [huse] at hafter
          obtain rfl := Option.some.inj hafter
          rfl
  · cases hafter

/-- A program that comes back with what it had. -/
def Restores (d : LockDiscipline Op Ans L R) (h : Holdings L R) (p : Prog Op Ans α) : Prop :=
  d.Keeps h p fun _ h' => h' = h

theorem Restores.bind {p : Prog Op Ans α} {f : α → Prog Op Ans β} {Q' : β → Holdings L R → Prop}
    (hp : d.Restores h p) (hf : ∀ a, d.Keeps h (f a) Q') : d.Keeps h (p >>= f) Q' :=
  Prog.tracks_then hp hf

end LockDiscipline

/-- The operations that are left when the answers are these. -/
def Prog.length (answer : (op : Op) → Ans op) : Prog Op Ans α → ℕ
  | .ret _ => 0
  | .call op next => (next (answer op)).length answer + 1

/-! ### Threads -/

/-- What each thread has still to do and what it holds, `none` behind a breach of the
discipline, and who owns which lock. -/
structure Threads (Op : Type) (Ans : Op → Type) (L R ι α : Type) where
  prog : ι → Prog Op Ans α
  held : ι → Option (Holdings L R)
  owner : L → Option ι

namespace Threads

variable {ι : Type} (d : LockDiscipline Op Ans L R)

def start (prog : ι → Prog Op Ans α) (held : ι → Holdings L R) : Threads Op Ans L R ι α :=
  ⟨prog, fun t => some (held t), fun _ => none⟩

/-- The thread is at its end. -/
def Done (s : Threads Op Ans L R ι α) (t : ι) : Prop := ∃ a, s.prog t = .ret a

/-- The thread waits for this lock, and somebody has it. -/
def WaitsFor (s : Threads Op Ans L R ι α) (t : ι) (l : L) : Prop :=
  ∃ op next, s.prog t = .call op next ∧ d.use op = .lock l ∧ s.owner l ≠ none

/-- The thread keeps the discipline from what it holds, and owns the locks it holds. -/
structure SoundAt (Q : α → Holdings L R → Prop) (s : Threads Op Ans L R ι α) (t : ι)
    (h : Holdings L R) : Prop where
  held : s.held t = some h
  keeps : d.Keeps h (s.prog t) Q
  owns : ∀ l, s.owner l = some t ↔ l ∈ h.locks
  nodup : h.locks.Nodup

def Sound (Q : ι → α → Holdings L R → Prop) (s : Threads Op Ans L R ι α) : Prop :=
  ∀ t, ∃ h, s.SoundAt d (Q t) t h

variable {d} {Q : ι → α → Holdings L R → Prop} {s : Threads Op Ans L R ι α}

theorem sound_start {prog : ι → Prog Op Ans α} {held : ι → Holdings L R}
    (hkeeps : ∀ t, d.Keeps (held t) (prog t) (Q t)) (hnone : ∀ t, (held t).locks = []) :
    (start prog held).Sound d Q := by
  intro t
  exact ⟨held t, rfl, hkeeps t, by simp [start, hnone t], by simp [hnone t]⟩

section

variable [∀ op, Inhabited (Ans op)]

/-- What is only allowed under a lock is done by its owner. -/
theorem Sound.guarded (h : s.Sound d Q) {t : ι} {op : Op} {next : Ans op → Prog Op Ans α}
    (hprog : s.prog t = .call op next) {l : L}
    (hguard : ∀ locks, d.allowed locks op = true → l ∈ locks) : s.owner l = some t := by
  obtain ⟨held, ht⟩ := h t
  have hkeeps := ht.keeps
  rw [hprog] at hkeeps
  obtain ⟨h', hafter, _⟩ := hkeeps default
  exact (ht.owns l).mpr (hguard _ (LockDiscipline.after_cases hafter).1)

/-- What is not allowed under a lock is not done by its owner. -/
theorem Sound.banned (h : s.Sound d Q) {t : ι} {op : Op} {next : Ans op → Prog Op Ans α}
    (hprog : s.prog t = .call op next) {l : L}
    (hban : ∀ locks, d.allowed locks op = true → l ∉ locks) : s.owner l ≠ some t := by
  obtain ⟨held, ht⟩ := h t
  have hkeeps := ht.keeps
  rw [hprog] at hkeeps
  obtain ⟨h', hafter, _⟩ := hkeeps default
  exact fun hown => hban _ (LockDiscipline.after_cases hafter).1 ((ht.owns l).mp hown)

/-- Behind a thread that waits there is one that can go on: the locks waited for along
the way have greater and greater ranks. -/
theorem Sound.progress (h : s.Sound d Q) (hend : ∀ t a h', Q t a h' → h'.locks = []) {bound : ℕ}
    (hbound : ∀ l, d.rank l < bound) {t : ι} {l : L} (hwaits : s.WaitsFor d t l) :
    ∃ u, ¬ s.Done u ∧ ∀ m, ¬ s.WaitsFor d u m := by
  induction hn : bound - d.rank l using Nat.strong_induction_on generalizing t l with
  | h n ih =>
      obtain ⟨op, next, hprog, huse, howner⟩ := hwaits
      obtain ⟨u, hu⟩ := Option.ne_none_iff_exists'.mp howner
      obtain ⟨held, hsound⟩ := h u
      have hmem : l ∈ held.locks := (hsound.owns l).mp hu
      have hkeeps := hsound.keeps
      have hbusy : ¬ s.Done u := by
        rintro ⟨a, ha⟩
        rw [ha] at hkeeps
        rw [hend u a _ hkeeps] at hmem
        cases hmem
      by_cases hstuck : ∃ m, s.WaitsFor d u m
      · obtain ⟨m, hm⟩ := hstuck
        obtain ⟨op', next', hprog', huse', _⟩ := id hm
        rw [hprog'] at hkeeps
        obtain ⟨h', hafter, _⟩ := hkeeps default
        have hlocks := (LockDiscipline.after_cases hafter).2
        rw [huse'] at hlocks
        have hlt : d.rank l < d.rank m := hlocks.1 l hmem
        have hm_bound := hbound m
        exact ih (bound - d.rank m) (by omega) hm rfl
      · exact ⟨u, hbusy, fun m hm => hstuck ⟨m, hm⟩⟩

end

section

variable [DecidableEq ι] (d)

/-- The thread goes on with a program and what it holds then. -/
def goto (s : Threads Op Ans L R ι α) (t : ι) (p : Prog Op Ans α) (h : Option (Holdings L R))
    (owner : L → Option ι) : Threads Op Ans L R ι α where
  prog := Function.update s.prog t p
  held := Function.update s.held t h
  owner := owner

/-- The thread does its next operation and gets this answer; at a lock that somebody has
it stays where it is. -/
def step (s : Threads Op Ans L R ι α) (e : ι × ((op : Op) → Ans op)) : Threads Op Ans L R ι α :=
  match s.prog e.1 with
  | .ret _ => s
  | .call op next =>
      let h := (s.held e.1).bind fun h => d.after h op (e.2 op)
      match d.use op with
      | .lock l =>
          match s.owner l with
          | some _ => s
          | none => s.goto e.1 (next (e.2 op)) h (Function.update s.owner l (some e.1))
      | .unlock l => s.goto e.1 (next (e.2 op)) h (Function.update s.owner l none)
      | .acquire _ | .release _ | .plain => s.goto e.1 (next (e.2 op)) h s.owner

variable {d}

/-- One thread has moved on; the owners follow what it holds now. -/
theorem Sound.goto (h : s.Sound d Q) {t : ι} {p : Prog Op Ans α} {h' : Holdings L R}
    {owner : L → Option ι} (hkeeps : d.Keeps h' p (Q t)) (hnodup : h'.locks.Nodup)
    (hself : ∀ l, owner l = some t ↔ l ∈ h'.locks)
    (hothers : ∀ u, u ≠ t → ∀ l, owner l = some u ↔ s.owner l = some u) :
    (s.goto t p (some h') owner).Sound d Q := by
  intro u
  by_cases hu : u = t
  · subst hu
    exact ⟨h', by simp [Threads.goto], by simpa [Threads.goto] using hkeeps, hself, hnodup⟩
  · obtain ⟨held, hsound⟩ := h u
    refine ⟨held, ?_, ?_, fun l => (hothers u hu l).trans (hsound.owns l), hsound.nodup⟩
    · simpa [Threads.goto, hu] using hsound.held
    · simpa [Threads.goto, hu] using hsound.keeps

theorem Sound.step (h : s.Sound d Q) (e : ι × ((op : Op) → Ans op)) : (s.step d e).Sound d Q := by
  obtain ⟨t, answer⟩ := e
  obtain ⟨held, ht⟩ := h t
  cases hprog : s.prog t with
  | ret a => simpa [Threads.step, hprog] using h
  | call op next =>
      have hkeeps := ht.keeps
      rw [hprog] at hkeeps
      obtain ⟨h', hafter, hnext⟩ := hkeeps (answer op)
      have hheld : ((s.held t).bind fun h => d.after h op (answer op)) = some h' := by
        rw [ht.held]
        exact hafter
      have hlocks := (LockDiscipline.after_cases hafter).2
      cases huse : d.use op with
      | lock l =>
          rw [huse] at hlocks
          obtain ⟨hranks, hnew⟩ := hlocks
          cases howner : s.owner l with
          | some u => simpa [Threads.step, hprog, huse, howner] using h
          | none =>
              have hfree : l ∉ held.locks := by
                intro hmem
                have hown := (ht.owns l).mpr hmem
                rw [howner] at hown
                cases hown
              simp only [Threads.step, hprog, huse, howner, hheld]
              apply h.goto hnext
              · rw [hnew]
                exact List.nodup_cons.mpr ⟨hfree, ht.nodup⟩
              · intro m
                by_cases hm : m = l
                · simp [hm, hnew]
                · simpa [hm, hnew] using ht.owns m
              · intro u hu m
                by_cases hm : m = l
                · simp [hm, howner, Ne.symm hu]
                · simp [hm]
      | unlock l =>
          rw [huse] at hlocks
          obtain ⟨hmem, hnew⟩ := hlocks
          have hown := (ht.owns l).mpr hmem
          simp only [Threads.step, hprog, huse, hheld]
          apply h.goto hnext
          · rw [hnew]
            exact ht.nodup.erase l
          · intro m
            by_cases hm : m = l
            · simp [hm, hnew, ht.nodup.not_mem_erase]
            · simpa [hm, hnew, List.mem_erase_of_ne hm] using ht.owns m
          · intro u hu m
            by_cases hm : m = l
            · simp [hm, hown, Ne.symm hu]
            · simp [hm]
      | acquire r | release r | plain =>
          rw [huse] at hlocks
          simp only [Threads.step, hprog, huse, hheld]
          exact h.goto hnext (hlocks ▸ ht.nodup) (fun m => hlocks ▸ ht.owns m)
            fun _ _ _ => Iff.rfl

/-- Threads that keep the discipline keep it in any order of their operations and with
any answers. -/
theorem run_sound {prog : ι → Prog Op Ans α} {held : ι → Holdings L R}
    (hkeeps : ∀ t, d.Keeps (held t) (prog t) (Q t)) (hnone : ∀ t, (held t).locks = [])
    (es : List (ι × ((op : Op) → Ans op))) : (run (step d) (start prog held) es).Sound d Q :=
  run_invariant (I := Sound d Q) (fun _ e h => h.step e) (sound_start hkeeps hnone) es

/-- Locks only hold up a thread; one that goes on does its next operation. -/
theorem step_prog {t : ι} {answer : (op : Op) → Ans op} {op : Op} {next : Ans op → Prog Op Ans α}
    (hprog : s.prog t = .call op next) (hfree : ∀ l, ¬ s.WaitsFor d t l) :
    (s.step d (t, answer)).prog = Function.update s.prog t (next (answer op)) := by
  simp only [Threads.step, hprog]
  cases huse : d.use op with
  | lock l =>
      cases howner : s.owner l with
      | none =>
          simp only [howner]
          rfl
      | some u =>
          refine absurd ⟨op, next, hprog, huse, ?_⟩ (hfree l)
          rw [howner]
          exact Option.some_ne_none u
  | unlock l | acquire r | release r | plain => rfl

/-- From every state, whatever the answers are, the threads can all come to their ends. -/
theorem Sound.drains [Fintype ι] [∀ op, Inhabited (Ans op)] (h : s.Sound d Q)
    (hend : ∀ t a h', Q t a h' → h'.locks = []) {bound : ℕ} (hbound : ∀ l, d.rank l < bound)
    (answer : (op : Op) → Ans op) : ∃ ts : List ι,
      ∀ t, (run (Threads.step d) s (ts.map fun t => (t, answer))).Done t := by
  induction hn : ∑ t, (s.prog t).length answer using Nat.strong_induction_on generalizing s with
  | h n ih =>
      by_cases hdone : ∀ t, s.Done t
      · exact ⟨[], hdone⟩
      obtain ⟨t, ht⟩ := not_forall.mp hdone
      have hable : ∃ u, ¬ s.Done u ∧ ∀ m, ¬ s.WaitsFor d u m := by
        by_cases hstuck : ∃ l, s.WaitsFor d t l
        · obtain ⟨l, hl⟩ := hstuck
          exact h.progress hend hbound hl
        · exact ⟨t, ht, fun m hm => hstuck ⟨m, hm⟩⟩
      obtain ⟨u, hu, hfree⟩ := hable
      cases hprog : s.prog u with
      | ret a => exact absurd ⟨a, hprog⟩ hu
      | call op next =>
          -- The step of `u` leaves one operation fewer.
          have hless : ∑ t, ((s.step d (u, answer)).prog t).length answer < n := by
            rw [← hn, step_prog hprog hfree]
            refine Finset.sum_lt_sum (fun t _ => ?_) ⟨u, Finset.mem_univ u, ?_⟩
            · by_cases htu : t = u
              · subst htu
                rw [Function.update_self, hprog]
                exact Nat.le_succ _
              · rw [Function.update_of_ne htu]
            · rw [Function.update_self, hprog]
              exact Nat.lt_succ_self _
          obtain ⟨ts, hts⟩ := ih _ hless (h.step (u, answer)) rfl
          exact ⟨u :: ts, hts⟩

end

end Threads

end GhostBlade.Library
