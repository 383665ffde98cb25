import GhostBlade.Firmware.Lms7002m

/-!
The driver with the chip behind it. The chip may answer as it likes; its
registers are what the write commands have put into them.
-/

namespace GhostBlade.Firmware.Lms7002m

open GhostBlade.Library Prog

/-! ### Registers -/

/-- The words last written to the 14-bit addresses. -/
abbrev LmsRegs := BitVec 14 → BitVec 16

namespace LmsRegs

def write (regs : LmsRegs) (addr data : BitVec 16) : LmsRegs :=
  Function.update regs (addr.setWidth 14) data

def get (regs : LmsRegs) (addr : BitVec 16) : BitVec 16 := regs (addr.setWidth 14)

/-- The top bit of a command tells a read from a write. -/
def onOp (regs : LmsRegs) : LmsOp → LmsRegs
  | .xfer cmd =>
      if cmd.getLsbD 31 then regs
      else Function.update regs (cmd.extractLsb' 16 14) (cmd.setWidth 16)
  | _ => regs

variable (regs : LmsRegs) (addr data : BitVec 16)

theorem onOp_write : regs.onOp (.xfer (cmdWrite addr data)) = regs.write addr data := by
  have hbit : (cmdWrite addr data).getLsbD 31 = false := by
    simp [cmdWrite]
  have haddr : (cmdWrite addr data).extractLsb' 16 14 = addr.setWidth 14 := by
    have hmask : ∀ i < 14, (0x3FFF#32).getLsbD i = true := by decide
    ext i hi
    have hlow : 16 + i < 32 ∧ i < 32 := by omega
    simp [cmdWrite, hmask i hi, hlow]
  have hdata : (cmdWrite addr data).setWidth 16 = data := by
    ext i hi
    simp [cmdWrite]
  rw [onOp, hbit, haddr, hdata]
  rfl

theorem onOp_read : regs.onOp (.xfer (cmdRead addr)) = regs := by
  have hbit : (cmdRead addr).getLsbD 31 = true := by
    simp [cmdRead]
  rw [onOp, if_pos hbit]

@[simp] theorem get_write (other : BitVec 16) :
    (regs.write addr data).get other =
      if other.setWidth 14 = addr.setWidth 14 then data else regs.get other := by
  rw [get, write, Function.update_apply]
  rfl

end LmsRegs

/-! ### The system -/

/-- The driver's state, the registers and the chip. -/
structure LmsSystem (σ : Type) where
  drv : Driver
  regs : LmsRegs
  chip : σ

section

variable {σ α : Type} (d : LmsDevice σ) (regs : LmsRegs) (s : σ)

@[simp] theorem exec_spiWrite (addr data : BitVec 16) :
    (spiWrite addr data).exec (d.recorded LmsRegs.onOp) (regs, s) =
      ⟨ok, [.xfer (cmdWrite addr data)],
        (regs.write addr data, (d (.xfer (cmdWrite addr data)) s).2)⟩ := by
  rw [← LmsRegs.onOp_write]
  rfl

/-- The guard of the calls lets an initialised driver through. -/
theorem guard_passed {drv : Driver} (hinit : drv.initialized = true) :
    ¬(!drv.initialized) = true := by
  simp [hinit]

theorem exec_spiRead {drv : Driver} (hinit : drv.initialized = true) (addr : BitVec 16) :
    (spiRead drv addr).exec d s =
      ⟨readValue (d (.xfer (cmdRead addr)) s).1, [.xfer (cmdRead addr)],
        (d (.xfer (cmdRead addr)) s).2⟩ := by
  simp [spiRead, hinit, exec_bind]

theorem exec_spiRead_recorded {drv : Driver} (hinit : drv.initialized = true)
    (addr : BitVec 16) :
    (spiRead drv addr).exec (d.recorded LmsRegs.onOp) (regs, s) =
      ⟨readValue (d (.xfer (cmdRead addr)) s).1, [.xfer (cmdRead addr)],
        (regs, (d (.xfer (cmdRead addr)) s).2)⟩ := by
  rw [exec_spiRead _ _ hinit, Device.recorded, LmsRegs.onOp_read]

theorem exec_setChannel (drv : Driver) {ch : Channel} (hch : ¬ch ≥ chCount) :
    (setChannel drv ch).exec (d.recorded LmsRegs.onOp) (regs, s) =
      let top := if ch = chB then 0x0002 else 0x0001
      ⟨{ drv with activeChannel := ch }, [.xfer (cmdWrite regTop top)],
        (regs.write regTop top, (d (.xfer (cmdWrite regTop top)) s).2)⟩ := by
  rw [setChannel, if_neg hch, exec_bind, exec_spiWrite]
  rfl

/-- What reads registers and waits leaves the registers alone. -/
def Quiet : LmsOp → Prop
  | .xfer cmd => cmd.getLsbD 31 = true
  | _ => True

theorem quiet_spiRead (drv : Driver) (addr : BitVec 16) : Only Quiet (spiRead drv addr) := by
  have hread : Quiet (.xfer (cmdRead addr)) := by
    simp [Quiet, cmdRead]
  unfold spiRead
  split
  · exact only_pure _
  · exact only_bind (only_perform hread) fun _ => only_pure _

theorem quiet_waitForBitmask (rounds : Nat) (drv : Driver) (addr mask value : BitVec 16)
    (timeoutMs : BitVec 32) :
    Only Quiet (waitForBitmask rounds drv addr mask value timeoutMs) := by
  apply only_bind (only_perform trivial)
  intro start
  apply only_loop
  apply only_bind (quiet_spiRead drv addr)
  intro regVal
  split
  · exact only_pure _
  · split
    · exact only_pure _
    · apply only_bind (only_perform trivial)
      intro now
      split
      · exact only_pure _
      · exact only_bind (only_perform trivial) fun _ => only_pure _

variable {d regs s}

theorem exec_quiet {p : LmsProg α} (h : Only Quiet p) :
    p.exec (d.recorded LmsRegs.onOp) (regs, s) =
      ⟨(p.exec d s).result, (p.exec d s).trace, (regs, (p.exec d s).state)⟩ := by
  have hstep : ∀ op (t : LmsRegs × σ), Quiet op → t.1 = regs →
      (d.recorded LmsRegs.onOp op t).2.1 = regs := by
    rintro op t hop rfl
    cases op with
    | xfer cmd => exact if_pos hop
    | timestampMs => rfl
    | delayMs ms => rfl
    | store i val => rfl
  have hregs : (p.exec (d.recorded LmsRegs.onOp) (regs, s)).state.1 = regs :=
    h.exec_invariant hstep rfl
  rw [exec_recorded] at hregs ⊢
  dsimp only at hregs
  rw [hregs]

theorem exec_waitForBitmask (rounds : Nat) (drv : Driver) (addr mask value : BitVec 16)
    (timeoutMs : BitVec 32) :
    (waitForBitmask rounds drv addr mask value timeoutMs).exec (d.recorded LmsRegs.onOp) (regs, s) =
      let wait := (waitForBitmask rounds drv addr mask value timeoutMs).exec d s
      ⟨wait.result, wait.trace, (regs, wait.state)⟩ :=
  exec_quiet (quiet_waitForBitmask rounds drv addr mask value timeoutMs)

end

/-- A call on the system; `rounds` bounds its waits. -/
def LmsSystem.step {σ : Type} (rounds : Nat) (d : LmsDevice σ) (s : LmsSystem σ) (c : Call) :
    LmsSystem σ :=
  let e := (c.prog rounds s.drv).exec (d.recorded LmsRegs.onOp) (s.regs, s.chip)
  ⟨e.result.2, e.state.1, e.state.2⟩

/-- What a call returns, if it does within the rounds. -/
def LmsSystem.returns {σ : Type} (rounds : Nat) (d : LmsDevice σ) (s : LmsSystem σ) (c : Call) :
    Option Int :=
  ((c.prog rounds s.drv).exec d s.chip).result.1

/-- A chip that always answers the same, on a clock that only the delays move. -/
def constantChip (resp : BitVec 32) : LmsDevice (BitVec 32)
  | .xfer _, now => (resp, now)
  | .timestampMs, now => (now, now)
  | .delayMs ms, now => ((), now + ms)
  | .store _ _, now => ((), now)

/-- An initialised driver with the registers behind a reset. -/
def readySystem : LmsSystem (BitVec 32) := ⟨{ Driver.zero with initialized := true }, fun _ => 0, 0⟩

end GhostBlade.Firmware.Lms7002m
