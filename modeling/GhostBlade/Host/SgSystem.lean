import GhostBlade.Host.Transfers
import GhostBlade.Library.Ledger
import GhostBlade.Library.Run

/-!
The scatter-gather engine of the driver with everybody who changes it: the
requests that start and stop it, the work item that submits transfers, the
callback that the SPI core calls when one has completed, and the removal of the
device. Each event is one step of one of them. A step that has to wait (for
`sg_lock`, for a completion, for the worker to finish) leaves the state alone.

The ledger and the list of completed transfers record what happened; the code
has no such fields.
-/

namespace GhostBlade.Host

open GhostBlade.Library

deriving instance DecidableEq for SgConfig

/-- `APEX_SG_BUF_*`. -/
inductive SgBufState where
  | free
  | dmaActive
  | ready
  | userspace
deriving DecidableEq, Repr

/-- `struct apex_sg_buf_desc`. -/
structure SgBufDesc where
  bufIndex : Nat
  dataLen : BitVec 32
  timestampNs : BitVec 64
  sequence : BitVec 32
  state : SgBufState
deriving DecidableEq

/-- The descriptor `apex_sg_engine_start` writes for buffer `i`. -/
def SgBufDesc.fresh (i : Nat) : SgBufDesc := ⟨i, 0, 0, 0, .free⟩

/-- What the `start`-th start allocates: the array, the scatterlist and the DMA
buffers. -/
inductive SgAlloc where
  | bufs (start : Nat)
  | sgl (start : Nat)
  | dma (start i : Nat)
deriving DecidableEq

def SgAlloc.start : SgAlloc → Nat
  | .bufs start => start
  | .sgl start => start
  | .dma start _ => start

/-- The array behind `eng->bufs`, with the entries whose DMA buffer has been
allocated. -/
structure SgBufs where
  start : Nat
  bufSize : BitVec 32
  descs : List SgBufDesc
deriving DecidableEq

/-- All that `mmap` and `apex_sg_engine_stop` look at. -/
def SgBufs.extent (b : SgBufs) : Nat × BitVec 32 × Nat := (b.start, b.bufSize, b.descs.length)

/-- The DMA buffers behind the first `count` entries. -/
def SgBufs.dmas (b : SgBufs) (count : Nat) : List SgAlloc :=
  ((List.range count).filter (· < b.descs.length)).map (SgAlloc.dma b.start)

/-- A transfer that has been handed to the SPI core, by the buffer it writes. -/
structure SgTransfer where
  start : Nat
  idx : Nat
deriving DecidableEq

/-- Where `apex_sg_work_handler` is; `idx` is its local. -/
inductive SgWork where
  | idle
  | queued
  | loop
  | pick
  | examine (idx : BitVec 32)
  | activate (idx : BitVec 32)
  | submit (idx : BitVec 32)
  | failed (idx : BitVec 32)
  | waiting (idx : BitVec 32)
  | timedOut (idx : BitVec 32)
  | reinit
  | check
deriving DecidableEq

/-- Where `apex_sg_dma_callback` is, called for the transfer `t`; `idx` and
`bufSize` are its locals. -/
inductive SgCallback where
  | load (t : SgTransfer)
  | number (t : SgTransfer) (idx bufSize : BitVec 32)
  | ready (t : SgTransfer) (idx bufSize : BitVec 32)
  | advance (t : SgTransfer)
  | signal (t : SgTransfer)
deriving DecidableEq

/-- Who holds `sg_lock`. -/
inductive SgLock where
  | free
  | starting (config : SgConfig)
  | stopping
deriving DecidableEq

/-- How far `apex_bridge_remove` is: not called, inside its call of
`apex_sg_engine_stop`, behind it, and after `kfree(dev)`. -/
inductive SgRemove where
  | no
  | stopping
  | stopped
  | gone
deriving DecidableEq

structure SgSystem where
  eng : SgEngine
  bufs : Option SgBufs
  sgl : Option Nat
  completion : Nat
  work : SgWork
  inFlight : List SgTransfer
  callback : Option SgCallback
  lock : SgLock
  remove : SgRemove
  starts : Nat
  ledger : Ledger SgAlloc
  completed : List SgTransfer

instance SgConfig.Valid.decidable (config : SgConfig) : Decidable config.Valid :=
  inferInstanceAs (Decidable (_ ∧ _))

/-- The engine's fields when it starts to run. -/
def SgConfig.engine (config : SgConfig) : SgEngine where
  state := .running
  bufCount := config.bufCount
  bufSize := config.bufSize
  timeoutMs := config.timeoutMs
  continuous := config.continuous ≠ 0
  currentIdx := 0
  totalTransferred := 0
  overruns := 0
  errors := 0
  framesRx := 0
  framesCrcErr := 0
  sequence := 0

namespace SgSystem

/-- After `apex_sg_engine_init`. -/
def init : SgSystem where
  eng := ⟨.idle, 0, 0, 0, false, 0, 0, 0, 0, 0, 0, 0⟩
  bufs := none
  sgl := none
  completion := 0
  work := .idle
  inFlight := []
  callback := none
  lock := .free
  remove := .no
  starts := 0
  ledger := .empty
  completed := []

/-- `apex_sg_engine_start` up to its loop. A failed `kcalloc` has overwritten the
pointer before it is tested. -/
def startBegin (config : SgConfig) (bufsOk sglOk : Bool) (s : SgSystem) : SgSystem :=
  if config.Valid ∧ s.lock = .free ∧ s.remove ≠ .gone ∧ s.eng.state = .idle then
    if bufsOk = false then { s with bufs := none }
    else if sglOk = false then
      { s with
        bufs := none
        sgl := none
        starts := s.starts + 1
        ledger := (s.ledger.alloc [.bufs s.starts]).free [.bufs s.starts] }
    else
      { s with
        bufs := some ⟨s.starts, config.bufSize, []⟩
        sgl := some s.starts
        starts := s.starts + 1
        lock := .starting config
        ledger := s.ledger.alloc [.bufs s.starts, .sgl s.starts] }
  else s

/-- What the engine points to, as a rollback or a stop frees it. -/
def pointed (count : Nat) (s : SgSystem) : List SgAlloc :=
  (match s.bufs with
    | some b => b.dmas count ++ [.bufs b.start]
    | none => []) ++
  (match s.sgl with
    | some start => [.sgl start]
    | none => [])

/-- One round of the loop of `apex_sg_engine_start`, or its rollback. -/
def startDma (ok : Bool) (s : SgSystem) : SgSystem :=
  match s.lock, s.bufs with
  | .starting config, some b =>
      if b.descs.length < config.bufCount.toNat then
        if ok then
          { s with
            bufs := some { b with descs := b.descs ++ [.fresh b.descs.length] }
            ledger := s.ledger.alloc [.dma b.start b.descs.length] }
        else
          { s with
            bufs := none
            sgl := none
            lock := .free
            ledger := s.ledger.free (s.pointed b.descs.length) }
      else s
  | _, _ => s

/-- `apex_sg_engine_start` behind its loop. -/
def startRun (s : SgSystem) : SgSystem :=
  match s.lock, s.bufs with
  | .starting config, some b =>
      if b.descs.length = config.bufCount.toNat then
        { s with
          eng := config.engine
          completion := 0
          work := .queued
          lock := .free
          completed := [] }
      else s
  | _, _ => s

/-- `apex_sg_engine_stop` up to `cancel_work_sync`. -/
def stopBegin (s : SgSystem) : SgSystem :=
  if s.lock = .free ∧ s.remove ≠ .gone ∧ s.eng.state ≠ .idle then
    { s with eng := { s.eng with state := .idle }, lock := .stopping }
  else s

/-- `cancel_work_sync` takes a queued work back and waits for a running one. -/
def Cancels (s : SgSystem) : Prop :=
  s.lock = .stopping ∧ (s.work = .idle ∨ s.work = .queued)

instance Cancels.decidable (s : SgSystem) : Decidable s.Cancels :=
  inferInstanceAs (Decidable (_ ∧ _))

/-- `apex_sg_engine_stop` from there on. -/
def stopEnd (s : SgSystem) : SgSystem :=
  if s.Cancels then
    { s with
      bufs := none
      sgl := none
      work := .idle
      lock := .free
      remove := if s.remove = .stopping then .stopped else s.remove
      ledger := s.ledger.free (s.pointed s.eng.bufCount.toNat) }
  else s

/-- `apex_bridge_remove` calls `apex_sg_engine_stop`. -/
def removeBegin (s : SgSystem) : SgSystem :=
  if s.lock = .free ∧ s.remove = .no then
    if s.eng.state = .idle then { s with remove := .stopped }
    else
      { s with
        eng := { s.eng with state := .idle }
        lock := .stopping
        remove := .stopping }
  else s

/-- `kfree(dev)` at the end of `apex_bridge_remove`. -/
def removeEnd (s : SgSystem) : SgSystem :=
  if s.remove = .stopped then { s with remove := .gone } else s

/-- A write to a descriptor. -/
def setDesc (idx : BitVec 32) (f : SgBufDesc → SgBufDesc) (s : SgSystem) : SgSystem :=
  { s with bufs := s.bufs.map fun b => { b with descs := b.descs.modify idx.toNat f } }

/-- `apex_sg_buf_set_state`. -/
def apexSgBufSetState (idx : BitVec 32) (state : SgBufState) (s : SgSystem) : SgSystem :=
  if idx < s.eng.bufCount then s.setDesc idx fun d => { d with state := state } else s

/-- The state of a buffer, as long as the engine points to its array. -/
def bufState (start idx : Nat) (s : SgSystem) : Option SgBufState :=
  match s.bufs with
  | some b => if b.start = start then b.descs[idx]?.map SgBufDesc.state else none
  | none => none

/-- Whether the array's entry at `idx` has been handed to userspace. -/
def inUse (idx : BitVec 32) (s : SgSystem) : Prop :=
  (s.bufs.bind fun b => b.descs[idx.toNat]?.map SgBufDesc.state) = some .userspace

instance inUse.decidable (idx : BitVec 32) (s : SgSystem) : Decidable (s.inUse idx) :=
  inferInstanceAs (Decidable (_ = _))

/-- The test at the end of the worker's loop. -/
def BatchDone (s : SgSystem) : Prop :=
  s.eng.continuous = false ∧ s.eng.bufCount ≤ s.eng.sequence

instance BatchDone.decidable (s : SgSystem) : Decidable s.BatchDone :=
  inferInstanceAs (Decidable (_ ∧ _))

/-- One step of `apex_sg_work_handler`. `ok` says whether `spi_async` accepts the
message, and whether a wait that may time out goes on. -/
def worker (ok : Bool) (s : SgSystem) : SgSystem :=
  match s.work with
  | .idle => s
  | .queued => { s with work := .loop }
  | .loop => { s with work := if s.eng.state = .running then .pick else .idle }
  | .pick => { s with work := .examine s.eng.currentIdx }
  | .examine idx =>
      if s.inUse idx then
        { s with
          eng :=
            { s.eng with
              overruns := s.eng.overruns + 1
              currentIdx := (idx + 1) % s.eng.bufCount }
          work := .loop }
      else { s with work := .activate idx }
  | .activate idx => { s.apexSgBufSetState idx .dmaActive with work := .submit idx }
  | .submit idx =>
      if ok then
        { s with
          inFlight := s.inFlight ++ (s.bufs.map fun b => ⟨b.start, idx.toNat⟩).toList
          work := .waiting idx }
      else { s with work := .failed idx }
  | .failed idx =>
      let errors := s.eng.errors + 1
      { s.apexSgBufSetState idx .free with
        eng :=
          { s.eng with
            errors := errors
            state := if 100 < errors then .error else s.eng.state }
        work := if 100 < errors then .idle else .loop }
  | .waiting idx =>
      if 0 < s.completion then { s with completion := s.completion - 1, work := .reinit }
      else if 0 < s.eng.timeoutMs ∧ ok = false then { s with work := .timedOut idx }
      else s
  | .timedOut idx =>
      { s.apexSgBufSetState idx .free with
        eng := { s.eng with errors := s.eng.errors + 1 }
        work := .reinit }
  | .reinit => { s with completion := 0, work := .check }
  | .check =>
      if s.BatchDone then { s with eng := { s.eng with state := .idle }, work := .idle }
      else { s with work := .loop }

/-- A transfer completes, and the SPI core calls the callback for it. -/
def finish (k : Nat) (s : SgSystem) : SgSystem :=
  match s.callback, s.inFlight[k]? with
  | none, some t =>
      { s with
        inFlight := s.inFlight.eraseIdx k
        callback := some (.load t)
        completed := s.completed ++ [t] }
  | _, _ => s

/-- One step of `apex_sg_dma_callback`; `now` is what the clock says. -/
def apexSgDmaCallback (now : BitVec 64) (s : SgSystem) : SgSystem :=
  match s.callback with
  | none => s
  | some (.load t) => { s with callback := some (.number t s.eng.currentIdx s.eng.bufSize) }
  | some (.number t idx bufSize) =>
      { s.setDesc idx fun d =>
          { d with dataLen := bufSize, timestampNs := now, sequence := s.eng.sequence } with
        eng := { s.eng with sequence := s.eng.sequence + 1 }
        callback := some (.ready t idx bufSize) }
  | some (.ready t idx bufSize) =>
      { s.setDesc idx fun d => { d with state := .ready } with
        eng :=
          { s.eng with
            totalTransferred := s.eng.totalTransferred + bufSize.setWidth 64
            framesRx := s.eng.framesRx + 1 }
        callback := some (.advance t) }
  | some (.advance t) =>
      { s with
        eng := { s.eng with currentIdx := (s.eng.currentIdx + 1) % s.eng.bufCount }
        callback := some (.signal t) }
  | some (.signal _) => { s with completion := s.completion + 1, callback := none }

end SgSystem

inductive SgEvent where
  | startBegin (config : SgConfig) (bufsOk sglOk : Bool)
  | startDma (ok : Bool)
  | startRun
  | stopBegin
  | stopEnd
  | removeBegin
  | removeEnd
  | worker (ok : Bool)
  | finish (k : Nat)
  | callback (now : BitVec 64)

namespace SgSystem

def step (s : SgSystem) : SgEvent → SgSystem
  | .startBegin config bufsOk sglOk => s.startBegin config bufsOk sglOk
  | .startDma ok => s.startDma ok
  | .startRun => s.startRun
  | .stopBegin => s.stopBegin
  | .stopEnd => s.stopEnd
  | .removeBegin => s.removeBegin
  | .removeEnd => s.removeEnd
  | .worker ok => s.worker ok
  | .finish k => s.finish k
  | .callback now => s.apexSgDmaCallback now

/-- No transfer is in flight, and none has its callback running. -/
def Quiet (s : SgSystem) : Prop := s.inFlight = [] ∧ s.callback = none

instance Quiet.decidable (s : SgSystem) : Decidable s.Quiet :=
  inferInstanceAs (Decidable (_ ∧ _))

/-- What the steps of start, stop and remove can do. -/
inductive Control (s : SgSystem) : SgEvent → SgSystem → Prop where
  | refused {e : SgEvent} : Control s e s
  | noBufs {e : SgEvent} (hlock : s.lock = .free) (hidle : s.eng.state = .idle) :
      Control s e { s with bufs := none }
  | noSgl {e : SgEvent} (hlock : s.lock = .free) (hidle : s.eng.state = .idle) :
      Control s e
        { s with
          bufs := none
          sgl := none
          starts := s.starts + 1
          ledger := (s.ledger.alloc [.bufs s.starts]).free [.bufs s.starts] }
  | began {e : SgEvent} (config : SgConfig) (hvalid : config.Valid) (hlock : s.lock = .free)
      (hremove : s.remove ≠ .gone) (hidle : s.eng.state = .idle) :
      Control s e
        { s with
          bufs := some ⟨s.starts, config.bufSize, []⟩
          sgl := some s.starts
          starts := s.starts + 1
          lock := .starting config
          ledger := s.ledger.alloc [.bufs s.starts, .sgl s.starts] }
  | dma {e : SgEvent} (config : SgConfig) (b : SgBufs) (hlock : s.lock = .starting config)
      (hbufs : s.bufs = some b) (hlt : b.descs.length < config.bufCount.toNat) :
      Control s e
        { s with
          bufs := some { b with descs := b.descs ++ [.fresh b.descs.length] }
          ledger := s.ledger.alloc [.dma b.start b.descs.length] }
  | rolledBack {e : SgEvent} (config : SgConfig) (b : SgBufs) (hlock : s.lock = .starting config)
      (hbufs : s.bufs = some b) :
      Control s e
        { s with
          bufs := none
          sgl := none
          lock := .free
          ledger := s.ledger.free (s.pointed b.descs.length) }
  | ran {e : SgEvent} (config : SgConfig) (b : SgBufs) (hlock : s.lock = .starting config)
      (hbufs : s.bufs = some b) (hlen : b.descs.length = config.bufCount.toNat) :
      Control s e
        { s with
          eng := config.engine
          completion := 0
          work := .queued
          lock := .free
          completed := [] }
  | stopping {e : SgEvent} (remove : SgRemove) (hlock : s.lock = .free)
      (hstate : s.eng.state ≠ .idle) (hremove : remove ≠ .gone) :
      Control s e
        { s with
          eng := { s.eng with state := .idle }
          lock := .stopping
          remove := remove }
  | stopped (remove : SgRemove) (hcancels : s.Cancels)
      (hremove : remove = .gone → s.remove = .gone) :
      Control s .stopEnd
        { s with
          bufs := none
          sgl := none
          work := .idle
          lock := .free
          remove := remove
          ledger := s.ledger.free (s.pointed s.eng.bufCount.toNat) }
  | removed {e : SgEvent} (hlock : s.lock = .free) (hidle : s.eng.state = .idle) :
      Control s e { s with remove := .stopped }
  | gone (hstopped : s.remove = .stopped) : Control s .removeEnd { s with remove := .gone }

theorem startBegin_control (config : SgConfig) (bufsOk sglOk : Bool) (s : SgSystem) :
    Control s (.startBegin config bufsOk sglOk) (s.startBegin config bufsOk sglOk) := by
  unfold startBegin
  split
  next h =>
      obtain ⟨hvalid, hlock, hremove, hidle⟩ := h
      split
      · exact .noBufs hlock hidle
      · split
        · exact .noSgl hlock hidle
        · exact .began config hvalid hlock hremove hidle
  next => exact .refused

theorem startDma_control (ok : Bool) (s : SgSystem) :
    Control s (.startDma ok) (s.startDma ok) := by
  unfold startDma
  split
  next config b hlock hbufs =>
      split
      next hlt =>
          cases ok with
          | true => exact .dma config b hlock hbufs hlt
          | false => exact .rolledBack config b hlock hbufs
      next => exact .refused
  next => exact .refused

theorem startRun_control (s : SgSystem) : Control s .startRun s.startRun := by
  unfold startRun
  split
  next config b hlock hbufs =>
      split
      next hlen => exact .ran config b hlock hbufs hlen
      next => exact .refused
  next => exact .refused

theorem stopBegin_control (s : SgSystem) : Control s .stopBegin s.stopBegin := by
  unfold stopBegin
  split
  next h => exact .stopping s.remove h.1 h.2.2 h.2.1
  next => exact .refused

theorem stopEnd_control (s : SgSystem) : Control s .stopEnd s.stopEnd := by
  unfold stopEnd
  split
  next h =>
      refine .stopped _ h ?_
      intro hgone
      split at hgone
      · cases hgone
      · exact hgone
  next => exact .refused

theorem removeBegin_control (s : SgSystem) : Control s .removeBegin s.removeBegin := by
  unfold removeBegin
  split
  next h =>
      split
      next hidle => exact .removed h.1 hidle
      next hstate => exact .stopping .stopping h.1 hstate nofun
  next => exact .refused

theorem removeEnd_control (s : SgSystem) : Control s .removeEnd s.removeEnd := by
  unfold removeEnd
  split
  next h => exact .gone h
  next => exact .refused

/-- An invariant of the system has four proofs: for the requests and the
removal, for the worker, for a completion and for the callback. -/
theorem step_cases {I : SgSystem → Prop} {s : SgSystem} (e : SgEvent)
    (hcontrol : ∀ s', Control s e s' → I s') (hworker : ∀ ok, e = .worker ok → I (s.worker ok))
    (hfinish : ∀ k, I (s.finish k)) (hcallback : ∀ now, I (s.apexSgDmaCallback now)) :
    I (s.step e) := by
  cases e with
  | startBegin config bufsOk sglOk => exact hcontrol _ (s.startBegin_control config bufsOk sglOk)
  | startDma ok => exact hcontrol _ (s.startDma_control ok)
  | startRun => exact hcontrol _ s.startRun_control
  | stopBegin => exact hcontrol _ s.stopBegin_control
  | stopEnd => exact hcontrol _ s.stopEnd_control
  | removeBegin => exact hcontrol _ s.removeBegin_control
  | removeEnd => exact hcontrol _ s.removeEnd_control
  | worker ok => exact hworker ok rfl
  | finish k => exact hfinish k
  | callback now => exact hcallback now

/-- What the worker, a completion and the callback leave alone. -/
structure SameMemory (s s' : SgSystem) : Prop where
  extent : s'.bufs.map SgBufs.extent = s.bufs.map SgBufs.extent
  sgl : s'.sgl = s.sgl
  lock : s'.lock = s.lock
  remove : s'.remove = s.remove
  starts : s'.starts = s.starts
  ledger : s'.ledger = s.ledger
  bufCount : s'.eng.bufCount = s.eng.bufCount

namespace SameMemory

variable {s s' : SgSystem}

theorem refl (s : SgSystem) : SameMemory s s := ⟨rfl, rfl, rfl, rfl, rfl, rfl, rfl⟩

theorem bufs_some (h : SameMemory s s') {b' : SgBufs} (hb : s'.bufs = some b') :
    ∃ b, s.bufs = some b ∧ b.extent = b'.extent := by
  have hext := h.extent
  rw [hb, Option.map_some] at hext
  exact Option.map_eq_some_iff.mp hext.symm

theorem bufs_none (h : SameMemory s s') : s'.bufs = none ↔ s.bufs = none := by
  rw [← Option.map_eq_none_iff (f := SgBufs.extent), h.extent, Option.map_eq_none_iff]

end SameMemory

theorem setDesc_memory (idx : BitVec 32) (f : SgBufDesc → SgBufDesc) (s : SgSystem) :
    SameMemory s (s.setDesc idx f) := by
  refine ⟨?_, rfl, rfl, rfl, rfl, rfl, rfl⟩
  cases hb : s.bufs <;> simp [setDesc, hb, SgBufs.extent]

theorem apexSgBufSetState_memory (idx : BitVec 32) (state : SgBufState) (s : SgSystem) :
    SameMemory s (s.apexSgBufSetState idx state) := by
  unfold apexSgBufSetState
  split
  · exact s.setDesc_memory idx _
  · exact .refl s

@[simp] theorem apexSgBufSetState_eng (idx : BitVec 32) (state : SgBufState) (s : SgSystem) :
    (s.apexSgBufSetState idx state).eng = s.eng := by
  unfold apexSgBufSetState
  split <;> rfl

/-- All the worker does to a descriptor is to mark it active or free. -/
theorem worker_bufs (ok : Bool) (s : SgSystem) :
    (s.worker ok).bufs = s.bufs ∨ ∃ idx state, (state = .dmaActive ∨ state = .free) ∧
      (s.worker ok).bufs = (s.apexSgBufSetState idx state).bufs := by
  unfold worker
  split
  case h_6 idx hw => exact .inr ⟨idx, .dmaActive, .inl rfl, rfl⟩
  case h_8 idx hw => exact .inr ⟨idx, .free, .inr rfl, rfl⟩
  case h_10 idx hw => exact .inr ⟨idx, .free, .inr rfl, rfl⟩
  all_goals
    repeat' split
    all_goals exact .inl rfl

theorem worker_memory (ok : Bool) (s : SgSystem) : SameMemory s (s.worker ok) := by
  unfold worker
  split
  case h_6 idx hw => exact { s.apexSgBufSetState_memory idx .dmaActive with }
  case h_8 idx hw => exact { s.apexSgBufSetState_memory idx .free with bufCount := rfl }
  case h_10 idx hw => exact { s.apexSgBufSetState_memory idx .free with bufCount := rfl }
  all_goals
    repeat' split
    all_goals exact ⟨rfl, rfl, rfl, rfl, rfl, rfl, rfl⟩

theorem finish_memory (k : Nat) (s : SgSystem) : SameMemory s (s.finish k) := by
  unfold finish
  split
  · exact ⟨rfl, rfl, rfl, rfl, rfl, rfl, rfl⟩
  · exact .refl s

theorem callback_memory (now : BitVec 64) (s : SgSystem) :
    SameMemory s (s.apexSgDmaCallback now) := by
  unfold apexSgDmaCallback
  split
  case h_3 t idx bufSize hc =>
      exact { s.setDesc_memory idx _ with bufCount := rfl }
  case h_4 t idx bufSize hc =>
      exact { s.setDesc_memory idx _ with bufCount := rfl }
  all_goals exact ⟨rfl, rfl, rfl, rfl, rfl, rfl, rfl⟩

theorem finish_state (k : Nat) (s : SgSystem) :
    (s.finish k).work = s.work ∧ (s.finish k).eng = s.eng ∧ (s.finish k).bufs = s.bufs := by
  unfold finish
  split <;> exact ⟨rfl, rfl, rfl⟩

theorem callback_state (now : BitVec 64) (s : SgSystem) :
    (s.apexSgDmaCallback now).work = s.work ∧
      (s.apexSgDmaCallback now).eng.state = s.eng.state := by
  unfold apexSgDmaCallback
  split <;> exact ⟨rfl, rfl⟩

/-- The requests, the removal and a completion change no more than the state of the
engine, until a start begins to run. -/
theorem step_engine {s : SgSystem} {e : SgEvent} (hrun : e ≠ .startRun)
    (hworker : ∀ ok, e ≠ .worker ok) (hcallback : ∀ now, e ≠ .callback now) :
    (s.step e).eng = { s.eng with state := (s.step e).eng.state } := by
  cases e with
  | startBegin config bufsOk sglOk =>
      simp only [step, startBegin]
      repeat' split
      all_goals rfl
  | startDma ok =>
      simp only [step, startDma]
      repeat' split
      all_goals rfl
  | startRun => exact absurd rfl hrun
  | stopBegin =>
      simp only [step, stopBegin]
      split
      · rfl
      · rfl
  | stopEnd =>
      simp only [step, stopEnd]
      split
      · rfl
      · rfl
  | removeBegin =>
      simp only [step, removeBegin]
      repeat' split
      all_goals rfl
  | removeEnd =>
      simp only [step, removeEnd]
      split
      · rfl
      · rfl
  | worker ok => exact absurd rfl (hworker ok)
  | finish k => rw [step, (finish_state k s).2.1]
  | callback now => exact absurd rfl (hcallback now)

/-- The worker changes the state of the engine only with the last thing it does. -/
theorem worker_state {ok : Bool} {s : SgSystem} (h : (s.worker ok).work ≠ .idle) :
    s.work ≠ .idle ∧ (s.worker ok).eng.state = s.eng.state := by
  cases hw : s.work with
  | idle => simp [worker, hw] at h
  | examine idx =>
      refine ⟨nofun, ?_⟩
      simp only [worker, hw]
      split <;> rfl
  | submit idx => cases ok <;> exact ⟨nofun, by simp [worker, hw]⟩
  | failed idx =>
      refine ⟨nofun, ?_⟩
      simp only [worker, hw] at h ⊢
      split at h
      · exact absurd rfl h
      next hfew => exact if_neg hfew
  | waiting idx =>
      refine ⟨nofun, ?_⟩
      simp only [worker, hw]
      repeat' split
      all_goals rfl
  | check =>
      refine ⟨nofun, ?_⟩
      simp only [worker, hw] at h ⊢
      split at h
      · exact absurd rfl h
      next hgoes => rw [if_neg hgoes]
  | _ => exact ⟨nofun, by simp [worker, hw]⟩

/-- A worker that leaves the engine idle stopped a single batch. -/
theorem worker_idle {ok : Bool} {s : SgSystem} (h : (s.worker ok).eng.state = .idle) :
    s.eng.state = .idle ∨ s.work = .check ∧ s.BatchDone := by
  cases hw : s.work with
  | examine idx =>
      simp only [worker, hw] at h
      split at h <;> exact .inl h
  | submit idx => cases ok <;> exact .inl (by simpa [worker, hw] using h)
  | failed idx =>
      simp only [worker, hw] at h
      split at h
      · cases h
      · exact .inl h
  | waiting idx =>
      simp only [worker, hw] at h
      repeat' split at h
      all_goals exact .inl h
  | check =>
      simp only [worker, hw] at h
      split at h
      next hdone => exact .inr ⟨rfl, hdone⟩
      next => exact .inl h
  | _ => exact .inl (by simpa [worker, hw] using h)

/-- Two buffers of 4096 bytes, filled once. -/
def batchConfig : SgConfig := ⟨2, 4096, 1000, 0⟩

/-- A successful start, up to the loop of the worker. -/
def started : List SgEvent :=
  [.startBegin batchConfig true true, .startDma true, .startDma true, .startRun, .worker true]

/-- One round of the worker whose transfer completes in time. -/
def filled : List SgEvent :=
  List.flatten
    [List.replicate 5 (.worker true), [.finish 0], List.replicate 5 (.callback 0),
      List.replicate 3 (.worker true)]

/-! ### A request that nothing interrupts -/

theorem startBegin_lock (config : SgConfig) (bufsOk sglOk : Bool) {s : SgSystem}
    (hlock : s.lock = .free) (hremove : s.remove ≠ .gone) :
    (s.startBegin config bufsOk sglOk).eng = s.eng ∧
      if config.Valid ∧ s.eng.state = .idle ∧ bufsOk = true ∧ sglOk = true then
        (s.startBegin config bufsOk sglOk).lock = .starting config ∧
          (s.startBegin config bufsOk sglOk).bufs = some ⟨s.starts, config.bufSize, []⟩
      else (s.startBegin config bufsOk sglOk).lock = .free := by
  unfold startBegin
  by_cases h : config.Valid ∧ s.eng.state = .idle
  · simp only [h.1, h.2, hlock, hremove, ne_eq, not_false_eq_true, and_self, if_true, true_and]
    cases bufsOk with
    | false => simp
    | true => cases sglOk <;> simp
  · rw [if_neg fun hb => h ⟨hb.1, hb.2.2.2⟩, if_neg fun hb => h ⟨hb.1, hb.2.1⟩]
    exact ⟨rfl, hlock⟩

theorem startDma_free {s : SgSystem} (hlock : s.lock = .free) (ok : Bool) : s.startDma ok = s := by
  simp [startDma, hlock]

theorem startRun_free {s : SgSystem} (hlock : s.lock = .free) : s.startRun = s := by
  simp [startRun, hlock]

theorem run_startDma_free {s : SgSystem} (hlock : s.lock = .free) (oks : List Bool) :
    run step s (oks.map .startDma) = s := by
  induction oks with
  | nil => rfl
  | cons ok oks ih =>
      simp only [List.map_cons, run_cons, step]
      rw [startDma_free hlock]
      exact ih

/-- The loop of `apex_sg_engine_start`, with what each of its allocations
returns. -/
theorem run_startDma {s : SgSystem} {config : SgConfig} {b : SgBufs} {oks : List Bool}
    (hlock : s.lock = .starting config) (hbufs : s.bufs = some b)
    (hlen : b.descs.length + oks.length = config.bufCount.toNat) :
    (run step s (oks.map .startDma)).eng = s.eng ∧
      if oks.all id then
        (run step s (oks.map .startDma)).lock = .starting config ∧
          ∃ b', (run step s (oks.map .startDma)).bufs = some b' ∧
            b'.descs.length = config.bufCount.toNat
      else (run step s (oks.map .startDma)).lock = .free := by
  induction oks generalizing s b with
  | nil => exact ⟨rfl, hlock, b, hbufs, hlen⟩
  | cons ok oks ih =>
      rw [List.length_cons] at hlen
      have hlt : b.descs.length < config.bufCount.toNat := by omega
      cases ok with
      | true =>
          have hs : s.step (.startDma true) =
              { s with
                bufs := some { b with descs := b.descs ++ [.fresh b.descs.length] }
                ledger := s.ledger.alloc [.dma b.start b.descs.length] } := by
            simp [step, startDma, hlock, hbufs, hlt]
          rw [List.map_cons, run_cons, hs]
          refine ih hlock rfl ?_
          simp only [List.length_append, List.length_cons, List.length_nil]
          omega
      | false =>
          have hs : s.step (.startDma false) =
              { s with
                bufs := none
                sgl := none
                lock := .free
                ledger := s.ledger.free (s.pointed b.descs.length) } := by
            simp [step, startDma, hlock, hbufs, hlt]
          rw [List.map_cons, run_cons, hs, run_startDma_free (s := { s with
                bufs := none
                sgl := none
                lock := .free
                ledger := s.ledger.free (s.pointed b.descs.length) }) rfl]
          exact ⟨rfl, rfl⟩

/-- The steps of one call of `apex_sg_engine_start`. -/
def startEvents (config : SgConfig) (env : Env) : List SgEvent :=
  .startBegin config (env.allocOk 2) (env.allocOk 3) ::
    (((List.range config.bufCount.toNat).map fun i => env.allocOk (4 + i)).map .startDma ++
      [.startRun])

end SgSystem

theorem sgSendStream_sgEngine (enable : Byte) (k : Nat) (env : Env) (dev : Dev) :
    (sgSendStream enable k env dev).1.sgEngine = dev.sgEngine := by
  unfold sgSendStream
  split
  · dsimp only
    split
    · unfold apexSpiXfer
      repeat' split
      all_goals rfl
    · rfl
  · rfl

/-- The engine that a call of `apex_sg_engine_start` leaves behind. -/
theorem apexSgEngineStart_sgEngine (config : SgConfig) (env : Env) (dev : Dev) :
    (apexSgEngineStart config env dev).dev.sgEngine =
      if config.Valid ∧ dev.sgEngine.state = .idle ∧ env.allocOk 2 = true ∧ env.allocOk 3 = true ∧
          ((List.range config.bufCount.toNat).all fun i => env.allocOk (4 + i)) = true then
        config.engine
      else dev.sgEngine := by
  unfold apexSgEngineStart SgConfig.Valid
  dsimp only
  split
  next hcount => exact (if_neg fun h => by omega).symm
  split
  next hsize => exact (if_neg fun h => by omega).symm
  split
  next halign => exact (if_neg fun h => halign h.1.2.2.2.2).symm
  split
  next hbusy => exact (if_neg fun h => hbusy h.2.1).symm
  split
  next hbufs => exact (if_neg fun h => Bool.false_ne_true (hbufs.symm.trans h.2.2.1)).symm
  split
  next hsgl => exact (if_neg fun h => Bool.false_ne_true (hsgl.symm.trans h.2.2.2.1)).symm
  split
  next hdma => exact (if_neg fun h => Bool.false_ne_true (hdma.symm.trans h.2.2.2.2)).symm
  next hcount hsize halign hidle hbufs hsgl hdma =>
      rw [sgSendStream_sgEngine, if_pos]
      · rfl
      · refine ⟨⟨by omega, by omega, by omega, by omega, by omega⟩, not_not.mp hidle, ?_, ?_, ?_⟩
        · exact Bool.eq_true_of_not_eq_false hbufs
        · exact Bool.eq_true_of_not_eq_false hsgl
        · exact Bool.eq_true_of_not_eq_false hdma

/-- A call of `apex_sg_engine_start` that nothing interrupts is the one the
requests of the driver make. -/
theorem start_driver {config : SgConfig} {env : Env} {dev : Dev} {s : SgSystem}
    (heng : s.eng = dev.sgEngine) (hlock : s.lock = .free) (hremove : s.remove ≠ .gone) :
    (run SgSystem.step s (SgSystem.startEvents config env)).lock = .free ∧
      (run SgSystem.step s (SgSystem.startEvents config env)).eng =
        (apexSgEngineStart config env dev).dev.sgEngine := by
  have hlen : ((List.range config.bufCount.toNat).map fun i => env.allocOk (4 + i)).length =
      config.bufCount.toNat := by
    rw [List.length_map, List.length_range]
  have hall : ((List.range config.bufCount.toNat).all fun i => env.allocOk (4 + i)) =
      ((List.range config.bufCount.toNat).map fun i => env.allocOk (4 + i)).all id := by
    rw [List.all_map]
    rfl
  rw [apexSgEngineStart_sgEngine, hall, SgSystem.startEvents, run_cons, run_append, run_cons,
    run_nil, ← heng]
  generalize ((List.range config.bufCount.toNat).map fun i => env.allocOk (4 + i)) = oks at hlen ⊢
  obtain ⟨heng₁, hbegin⟩ :=
    SgSystem.startBegin_lock config (env.allocOk 2) (env.allocOk 3) hlock hremove
  change (run SgSystem.step (s.startBegin config _ _) _).startRun.lock = _ ∧
    (run SgSystem.step (s.startBegin config _ _) _).startRun.eng = _
  generalize s.startBegin config (env.allocOk 2) (env.allocOk 3) = s₁ at heng₁ hbegin ⊢
  split at hbegin
  next hc =>
      obtain ⟨heng₂, hdma⟩ := SgSystem.run_startDma hbegin.1 hbegin.2 (by simpa using hlen)
      generalize run SgSystem.step s₁ (oks.map .startDma) = s₂ at heng₂ hdma ⊢
      split at hdma
      next hoks =>
          obtain ⟨hlock₂, b, hbufs₂, hcount⟩ := hdma
          rw [if_pos ⟨hc.1, hc.2.1, hc.2.2.1, hc.2.2.2, hoks⟩]
          simp [SgSystem.startRun, hlock₂, hbufs₂, hcount]
      next hoks =>
          rw [if_neg fun h => hoks h.2.2.2.2, SgSystem.startRun_free hdma]
          exact ⟨hdma, heng₂.trans heng₁⟩
  next hc =>
      rw [if_neg fun h => hc ⟨h.1, h.2.1, h.2.2.1, h.2.2.2.1⟩, SgSystem.run_startDma_free hbegin,
        SgSystem.startRun_free hbegin]
      exact ⟨hbegin, heng₁⟩

/-- So is a call of `apex_sg_engine_stop`, when the worker does not run. -/
theorem stop_driver {env : Env} {dev : Dev} {s : SgSystem} (heng : s.eng = dev.sgEngine)
    (hlock : s.lock = .free) (hremove : s.remove ≠ .gone)
    (hwork : s.work = .idle ∨ s.work = .queued) :
    (run SgSystem.step s [.stopBegin, .stopEnd]).lock = .free ∧
      (run SgSystem.step s [.stopBegin, .stopEnd]).eng =
        (apexSgEngineStop env dev).dev.sgEngine := by
  rw [run_cons, run_cons, run_nil, apexSgEngineStop, ← heng]
  by_cases hidle : s.eng.state = .idle
  · have hbegin : s.step .stopBegin = s := if_neg fun h => h.2.2 hidle
    have hend : s.step .stopEnd = s := if_neg fun h => SgLock.noConfusion (hlock.symm.trans h.1)
    rw [hbegin, hend, if_pos hidle]
    exact ⟨hlock, heng⟩
  · have hbegin : s.step .stopBegin =
        { s with eng := { s.eng with state := .idle }, lock := .stopping } :=
      if_pos ⟨hlock, hremove, hidle⟩
    rw [hbegin, if_neg hidle]
    change (SgSystem.stopEnd _).lock = .free ∧ (SgSystem.stopEnd _).eng = _
    rw [SgSystem.stopEnd, if_pos ⟨rfl, hwork⟩]
    refine ⟨rfl, ?_⟩
    dsimp only
    rw [sgSendStream_sgEngine, heng]

end GhostBlade.Host
