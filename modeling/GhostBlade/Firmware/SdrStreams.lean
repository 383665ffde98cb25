import GhostBlade.Firmware.SdrRegisters

/-!
The two directions of the transceiver share one register. Each of the four calls
that start or stop a direction writes it as a whole, so what a call does to its
own direction is right and the other direction is always off behind it.
-/

namespace GhostBlade.Firmware.Lms7002m

open GhostBlade.Library Prog

inductive StreamCall where
  | startRx
  | stopRx
  | startTx
  | stopTx
deriving DecidableEq

def StreamCall.call : StreamCall → Call
  | .startRx => .startRx
  | .stopRx => .stopRx
  | .startTx => .startTx
  | .stopTx => .stopTx

/-- The system, and which directions were started and not since stopped. -/
structure Streams (σ : Type) extends LmsSystem σ where
  rx : Bool
  tx : Bool

namespace Streams

variable {σ : Type}

/-- The calls do not wait. -/
def step (d : LmsDevice σ) (s : Streams σ) (c : StreamCall) : Streams σ where
  toLmsSystem := s.toLmsSystem.step 0 d c.call
  rx := match c with
    | .startRx => true
    | .stopRx => false
    | _ => s.rx
  tx := match c with
    | .startTx => true
    | .stopTx => false
    | _ => s.tx

/-- The registers say what the calls have asked for. -/
@[mk_iff]
structure Agrees (s : Streams σ) : Prop where
  rx : (s.regs.get regStreamCtrl).getLsbD 0 = s.rx
  tx : (s.regs.get regStreamCtrl).getLsbD 1 = s.tx
  fifo : (s.regs.get regFifoCtrl).getLsbD 0 = s.drv.fifo.enabled

/-- The other direction is off. -/
def Alone (s : Streams σ) : StreamCall → Prop
  | .startRx | .stopRx => s.tx = false
  | .startTx | .stopTx => s.rx = false

instance (s : Streams σ) (c : StreamCall) : Decidable (s.Alone c) := by
  unfold Alone
  split <;> infer_instance

variable {d : LmsDevice σ} {s : Streams σ}

/-- What the calls write, and what they keep. -/
theorem step_writes (hinit : s.drv.initialized = true) (c : StreamCall) :
    (s.step d c).regs = (match c with
        | .startRx =>
            (s.regs.write regFifoCtrl (0x0001 ||| s.drv.fifo.format.setWidth 16 <<< 1)).write
              regStreamCtrl 0x0001
        | .stopRx => (s.regs.write regStreamCtrl 0x0000).write regFifoCtrl 0x0000
        | .startTx => s.regs.write regStreamCtrl 0x0002
        | .stopTx => s.regs.write regStreamCtrl 0x0000) ∧
      (s.step d c).drv = match c with
        | .startRx => { s.drv with fifo := { s.drv.fifo with enabled := true } }
        | .stopRx => { s.drv with fifo := { s.drv.fifo with enabled := false } }
        | .startTx | .stopTx => s.drv := by
  cases c with
  | startRx | stopRx | startTx | stopTx =>
      simp [step, StreamCall.call, LmsSystem.step, Call.prog, Lms7002m.startRx, Lms7002m.stopRx,
        Lms7002m.startTx, Lms7002m.stopTx, hinit]

theorem stream_ne_fifo : regStreamCtrl.setWidth 14 ≠ regFifoCtrl.setWidth 14 := by decide

/-- A call agrees with the registers exactly when the other direction is off. -/
theorem agrees_step_iff (hinit : s.drv.initialized = true) (h : s.Agrees) (c : StreamCall) :
    (s.step d c).Agrees ↔ s.Alone c := by
  obtain ⟨hregs, hdrv⟩ := step_writes (d := d) hinit c
  have hne := stream_ne_fifo
  have hfifo : (s.regs.get regFifoCtrl)[0] = s.drv.fifo.enabled := h.fifo
  rw [agrees_iff, hregs, hdrv]
  cases c with
  | startRx => simp [step, Alone, hne.symm]
  | stopRx => simp [step, Alone, hne]
  | startTx => simp [step, Alone, hne.symm, hfifo]
  | stopTx => simp [step, Alone, hne.symm, hfifo]

theorem initialized_step (hinit : s.drv.initialized = true) (c : StreamCall) :
    (s.step d c).drv.initialized = true := by
  rw [(step_writes hinit c).2]
  cases c with
  | startRx | stopRx | startTx | stopTx => exact hinit

/-- The registers agree with the calls all along a run exactly when no call comes
while the other direction is on. -/
theorem agrees_iff_alone (d : LmsDevice σ) (s : Streams σ) (hinit : s.drv.initialized = true)
    (h : s.Agrees) (calls : List StreamCall) :
    (∀ us, us <+: calls → (run (step d) s us).Agrees) ↔ Along (step d) Alone s calls := by
  have hkeep (t : Streams σ) (c : StreamCall) (ht : t.drv.initialized = true ∧ t.Agrees)
      (halone : t.Alone c) : (t.step d c).drv.initialized = true ∧ (t.step d c).Agrees :=
    ⟨initialized_step ht.1 c, (agrees_step_iff ht.1 ht.2 c).mpr halone⟩
  have hbreak (t : Streams σ) (c : StreamCall) (ht : t.drv.initialized = true ∧ t.Agrees)
      (hagrees : (t.step d c).Agrees) : t.Alone c :=
    (agrees_step_iff ht.1 ht.2 c).mp hagrees
  exact property_iff_along (fun _ ht => ht.2) hkeep hbreak ⟨hinit, h⟩ calls

/-- An initialised driver behind a reset. -/
def idle : Streams (BitVec 32) where
  drv := { Driver.zero with initialized := true }
  regs := fun _ => 0
  chip := 0
  rx := false
  tx := false

theorem idle_agrees : idle.Agrees := ⟨rfl, rfl, rfl⟩

theorem agrees_iff_alone_idle :
    (∀ us, us <+: [.startRx, .stopRx, .startTx] → (run (step (constantChip 0)) idle us).Agrees) ↔
      Along (step (constantChip 0)) Alone idle [.startRx, .stopRx, .startTx] :=
  agrees_iff_alone (constantChip 0) idle rfl idle_agrees _

/-- Transmission that starts takes the running reception away. -/
theorem start_tx_stops_rx :
    let s := run (step (constantChip 0)) idle [.startRx, .startTx]
    idle.drv.initialized = true ∧ idle.Agrees ∧ s.rx = true ∧
      s.regs.get regStreamCtrl = 0x0002 ∧ ¬s.Agrees := by
  have hstream : (run (step (constantChip 0)) idle [.startRx, .startTx]).regs.get regStreamCtrl =
      0x0002 := by decide
  refine ⟨rfl, idle_agrees, by decide, hstream, fun h => ?_⟩
  have hrx := h.rx
  rw [hstream] at hrx
  exact absurd hrx (by decide)

end Streams

end GhostBlade.Firmware.Lms7002m
