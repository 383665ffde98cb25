import GhostBlade.Host.SgSystem

/-!
Overruns of the scatter-gather engine, with userspace taking buffers and giving
them back. `overruns` counts the turns of buffers that userspace holds, which
are skipped: nothing is lost by them. A buffer that is still READY when its turn
comes is filled again, and that is not counted.
-/

namespace GhostBlade.Host

open GhostBlade.Library

/-- The engine with a record of what becomes of unread data: whether the buffer
that was marked active last held some, and how many transfers of the session
have been started into such a buffer. -/
structure SgConsumer where
  sys : SgSystem
  unread : Bool
  overwritten : Nat

inductive SgConsumerEvent where
  | engine (e : SgEvent)
  /-- Userspace takes a READY buffer. -/
  | map (idx : BitVec 32)
  /-- Userspace is done with a buffer. -/
  | release (idx : BitVec 32)

namespace SgSystem

/-- The state of the engine's `idx`-th buffer. -/
def stateOf (idx : BitVec 32) (s : SgSystem) : Option SgBufState :=
  s.bufs.bind fun b => b.descs[idx.toNat]?.map SgBufDesc.state

/-- The last completed data of the buffer has not been consumed. -/
def Unconsumed (idx : BitVec 32) (s : SgSystem) : Prop :=
  s.stateOf idx = some .ready ∨ s.stateOf idx = some .userspace

instance Unconsumed.decidable (idx : BitVec 32) (s : SgSystem) : Decidable (s.Unconsumed idx) :=
  inferInstanceAs (Decidable (_ ∨ _))

/-- `apex_sg_engine_start` has allocated everything. -/
def allocated (s : SgSystem) : Bool :=
  match s.lock, s.bufs with
  | .starting config, some b => b.descs.length = config.bufCount.toNat
  | _, _ => false

variable {s : SgSystem}

theorem examine_overruns {idx : BitVec 32} (hw : s.work = .examine idx) (hin : s.inUse idx)
    (ok : Bool) : (s.worker ok).eng.overruns = s.eng.overruns + 1 := by
  simp [worker, hw, hin]

/-- Only a buffer that userspace holds makes the worker count. -/
theorem worker_overruns (hskip : ∀ idx, s.work = .examine idx → ¬ s.inUse idx) (ok : Bool) :
    (s.worker ok).eng.overruns = s.eng.overruns := by
  cases hw : s.work with
  | examine idx => simp [worker, hw, hskip idx hw]
  | activate idx => simp [worker, hw]
  | submit idx => cases ok <;> simp [worker, hw]
  | waiting idx =>
      simp only [worker, hw]
      split
      · rfl
      split
      · rfl
      · rfl
  | check =>
      simp only [worker, hw]
      split
      · rfl
      · rfl
  | _ => simp [worker, hw]

theorem startRun_overruns :
    s.startRun.eng.overruns = if s.allocated then 0 else s.eng.overruns := by
  cases hlock : s.lock with
  | free => simp [startRun, allocated, hlock]
  | stopping => simp [startRun, allocated, hlock]
  | starting config =>
      cases hbufs : s.bufs with
      | none => simp [startRun, allocated, hlock, hbufs]
      | some b =>
          by_cases hall : b.descs.length = config.bufCount.toNat
          · simp [startRun, allocated, hlock, hbufs, hall, SgConfig.engine]
          · simp [startRun, allocated, hlock, hbufs, hall]

theorem step_overruns {e : SgEvent} (hrun : e ≠ .startRun) (hworker : ∀ ok, e ≠ .worker ok)
    (hcallback : ∀ now, e ≠ .callback now) : (s.step e).eng.overruns = s.eng.overruns := by
  rw [step_engine hrun hworker hcallback]

theorem callback_overruns (now : BitVec 64) :
    (s.apexSgDmaCallback now).eng.overruns = s.eng.overruns := by
  unfold apexSgDmaCallback
  split
  all_goals rfl

end SgSystem

namespace SgConsumer

def init : SgConsumer := ⟨.init, false, 0⟩

/-- The transfer that is submitted goes to a buffer with unread data: it had some
when it was marked active, or a late callback has completed it since. -/
def Overwrites (c : SgConsumer) (idx : BitVec 32) : Prop :=
  c.unread = true ∨ c.sys.Unconsumed idx

instance Overwrites.decidable (c : SgConsumer) (idx : BitVec 32) : Decidable (c.Overwrites idx) :=
  inferInstanceAs (Decidable (_ ∨ _))

/-- What a step of the engine does to the record. -/
def record (c : SgConsumer) : SgEvent → Bool × Nat
  | .worker ok =>
      match c.sys.work with
      | .activate idx => (c.sys.Unconsumed idx, c.overwritten)
      | .submit idx =>
          (c.unread, if ok = true ∧ c.Overwrites idx then c.overwritten + 1 else c.overwritten)
      | _ => (c.unread, c.overwritten)
  | .startRun => (c.unread, if c.sys.allocated then 0 else c.overwritten)
  | _ => (c.unread, c.overwritten)

def step (c : SgConsumer) : SgConsumerEvent → SgConsumer
  | .engine e => ⟨c.sys.step e, (c.record e).1, (c.record e).2⟩
  | .map idx =>
      if c.sys.stateOf idx = some .ready then
        { c with sys := c.sys.setDesc idx fun d => { d with state := .userspace } }
      else c
  | .release idx =>
      if c.sys.Unconsumed idx then
        { c with sys := c.sys.setDesc idx fun d => { d with state := .free } }
      else c

/-- The counter says how many transfers went to a buffer with unread data. -/
def Exact (c : SgConsumer) : Prop := c.sys.eng.overruns = BitVec.ofNat 32 c.overwritten

instance Exact.decidable (c : SgConsumer) : Decidable c.Exact := inferInstanceAs (Decidable (_ = _))

/-- No buffer is skipped, and no transfer is started into unread data. -/
def Timely (c : SgConsumer) : SgConsumerEvent → Prop
  | .engine (.worker ok) =>
      match c.sys.work with
      | .examine idx => ¬ c.sys.inUse idx
      | .submit idx => ok = true → ¬ c.Overwrites idx
      | _ => True
  | _ => True

theorem exact_init : init.Exact := rfl

variable {c : SgConsumer}

theorem Exact.map (h : c.Exact) (idx : BitVec 32) : (c.step (.map idx)).Exact := by
  unfold step
  dsimp only
  split
  · exact h
  · exact h

theorem Exact.release (h : c.Exact) (idx : BitVec 32) : (c.step (.release idx)).Exact := by
  unfold step
  dsimp only
  split
  · exact h
  · exact h

/-- A step that neither counts nor overwrites. -/
theorem Exact.keep (h : c.Exact) {e : SgEvent}
    (hcounter : (c.sys.step e).eng.overruns = c.sys.eng.overruns)
    (hrecord : (c.record e).2 = c.overwritten) : (c.step (.engine e)).Exact := by
  show (c.sys.step e).eng.overruns = BitVec.ofNat 32 (c.record e).2
  rw [hcounter, hrecord]
  exact h

theorem succ_ne (x : BitVec 32) : x + 1 ≠ x := by
  intro h
  have hone : (1 : BitVec 32) = 0 := BitVec.add_right_eq_self.mp h
  exact absurd hone (by decide)

theorem Exact.worker (h : c.Exact) (ok : Bool) :
    (c.step (.engine (.worker ok))).Exact ↔ c.Timely (.engine (.worker ok)) := by
  unfold Timely
  dsimp only
  cases hw : c.sys.work with
  | examine idx =>
      have hrecord : (c.record (.worker ok)).2 = c.overwritten := by simp [record, hw]
      constructor
      · intro hnext hin
        have hcount : c.sys.eng.overruns + 1 = BitVec.ofNat 32 (c.record (.worker ok)).2 :=
          (SgSystem.examine_overruns hw hin ok).symm.trans hnext
        rw [hrecord, show c.sys.eng.overruns = _ from h] at hcount
        exact succ_ne _ hcount
      · intro hfree
        have hskip : ∀ idx', c.sys.work = .examine idx' → ¬ c.sys.inUse idx' := by
          intro idx' hw'
          rw [hw] at hw'
          cases hw'
          exact hfree
        exact h.keep (e := .worker ok) (SgSystem.worker_overruns hskip ok) hrecord
  | submit idx =>
      have hcounter : (c.sys.worker ok).eng.overruns = c.sys.eng.overruns :=
        SgSystem.worker_overruns (by simp [hw]) ok
      constructor
      · rintro hnext rfl hover
        have hrecord : (c.record (.worker true)).2 = c.overwritten + 1 := by
          simp [record, hw, hover]
        have hcount : (c.sys.worker true).eng.overruns =
            BitVec.ofNat 32 (c.record (.worker true)).2 :=
          hnext
        rw [hcounter, hrecord, BitVec.ofNat_add, show c.sys.eng.overruns = _ from h] at hcount
        exact succ_ne _ hcount.symm
      · intro hfresh
        apply h.keep (e := .worker ok) hcounter
        simp only [record, hw]
        exact if_neg fun hboth => hfresh hboth.1 hboth.2
  | _ =>
      have hrecord : (c.record (.worker ok)).2 = c.overwritten := by simp [record, hw]
      have hcounter : (c.sys.worker ok).eng.overruns = c.sys.eng.overruns :=
        SgSystem.worker_overruns (by simp [hw]) ok
      exact iff_of_true (h.keep (e := .worker ok) hcounter hrecord) trivial

theorem Exact.startRun (h : c.Exact) : (c.step (.engine .startRun)).Exact := by
  show c.sys.startRun.eng.overruns = BitVec.ofNat 32 (if c.sys.allocated then 0 else c.overwritten)
  rw [SgSystem.startRun_overruns]
  split
  · rfl
  · exact h

theorem Exact.step (h : c.Exact) (e : SgConsumerEvent) : (c.step e).Exact ↔ c.Timely e := by
  cases e with
  | map idx => exact iff_of_true (h.map idx) trivial
  | release idx => exact iff_of_true (h.release idx) trivial
  | engine e =>
      cases e with
      | worker ok => exact h.worker ok
      | startRun => exact iff_of_true h.startRun trivial
      | callback now => exact iff_of_true (h.keep (SgSystem.callback_overruns now) rfl) trivial
      | _ => exact iff_of_true (h.keep (SgSystem.step_overruns nofun nofun nofun) rfl) trivial

end SgConsumer

/-- In every run, with userspace taking and releasing buffers in any order: the
counter is right in every state exactly when no buffer is skipped and no transfer
is started into unread data. -/
theorem overruns_exact_iff (es : List SgConsumerEvent) :
    (∀ us, us <+: es → (run SgConsumer.step .init us).Exact) ↔
      Along SgConsumer.step SgConsumer.Timely .init es :=
  states_iff_along (I := SgConsumer.Exact) (fun _ e h => h.step e)
    SgConsumer.exact_init es

/-- A continuous session of two buffers, up to the loop of the worker. -/
def streaming : List SgConsumerEvent :=
  [.startBegin ⟨2, 4096, 1000, 1⟩ true true, .startDma true, .startDma true, .startRun,
    .worker true].map .engine

/-- One buffer filled in time. -/
def fillOne : List SgConsumerEvent := SgSystem.filled.map .engine

/-- Nobody reads: the third transfer goes to the first buffer, which is still
READY, and is not counted. Userspace holds the first buffer: its turn is counted,
and nothing is lost. -/
theorem silent_overwrite :
    let silent := run SgConsumer.step .init (streaming ++ fillOne ++ fillOne ++ fillOne)
    let held := run SgConsumer.step .init (streaming ++ fillOne ++ [.map 0] ++ fillOne ++
      List.replicate 3 (.engine (.worker true)))
    (silent.sys.eng.continuous = true ∧ silent.overwritten = 1 ∧ silent.sys.eng.overruns = 0 ∧
      ¬ silent.Exact) ∧
    held.overwritten = 0 ∧ held.sys.eng.overruns = 1 ∧ ¬ held.Exact := by
  decide +kernel

end GhostBlade.Host
