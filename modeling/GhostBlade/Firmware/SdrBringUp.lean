import GhostBlade.Firmware.SdrRegisters

/-!
Bringing the driver up. `lms7002m_init` clears the driver and then reads the
revision with an accessor that is guarded by the flag it has just cleared. The
read fails before it reaches the chip, whatever the chip would answer, and
nothing else sets the flag.
-/

namespace GhostBlade.Firmware.Lms7002m

open GhostBlade.Library Prog

/-- The calls that ask for an initialised driver first of all. -/
def Call.guarded : Call → Bool
  | .configureRx .. | .configureTx .. | .setRxGain _ | .setTxGain _ | .startRx | .startTx
  | .calibrateDc .. | .calibrateIq .. | .readFifo .. | .writeFifo .. | .getStatus
  | .spiRead _ => true
  | _ => false

section

variable {σ : Type} (rounds : Nat) (d : LmsDevice σ) (s : LmsSystem σ)

/-- The initialisation succeeds, and until the driver is closed again no call
finds it uninitialised. -/
def BringsUp (spiSpeedHz : BitVec 32) : Prop :=
  let up := s.step rounds d (.init spiSpeedHz)
  s.returns rounds d (.init spiSpeedHz) = some ok ∧ up.drv.initialized = true ∧
    ∀ calls, .deinit ∉ calls →
      Along (LmsSystem.step rounds d)
        (fun t c => t.returns rounds d c ≠ some errNotInitialized) up calls

theorem exec_init {spiSpeedHz : BitVec 32} (hspeed : spiSpeedHz ≤ 20000000) (drv : Driver)
    (t : σ) :
    ((init drv spiSpeedHz).exec d t).result =
      (errSpi, { Driver.zero with spiSpeedHz := spiSpeedHz }) := by
  have hslow : ¬spiSpeedHz > 20000000 := BitVec.not_lt.mpr hspeed
  rw [init, if_neg hslow]
  rfl

variable {rounds d s}

theorem LmsSystem.step_drv (c : Call) :
    (s.step rounds d c).drv = ((c.prog rounds s.drv).exec d s.chip).result.2 := by
  rw [LmsSystem.step, exec_recorded]

/-- The guard of the other calls. -/
theorem exec_guarded {drv : Driver} (h : drv.initialized = false) {c : Call}
    (hc : c.guarded = true) (t : σ) :
    ((c.prog rounds drv).exec d t).result = (some errNotInitialized, drv) := by
  cases c with
  | init | deinit | stopRx | stopTx | spiWrite | spiReadBurst | spiWriteBurst | reset
  | setChannel => cases hc
  | configureRx | configureTx =>
      simp [Call.prog, configureRx, configureTx, Synthesizer.configure, checkConfig, h]
  | calibrateDc | calibrateIq => simp [Call.prog, calibrateDc, calibrateIq, calibrate, h]
  | setRxGain | setTxGain | startRx | startTx | readFifo | writeFifo | getStatus | spiRead =>
      simp [Call.prog, Lms7002m.setRxGain, Lms7002m.setTxGain, Lms7002m.startRx, Lms7002m.startTx,
        Lms7002m.readFifo, Lms7002m.writeFifo, Lms7002m.getStatus, Lms7002m.spiRead, h]

/-- No call initialises the driver. -/
theorem uninitialized_step (c : Call) (h : s.drv.initialized = false) :
    (s.step rounds d c).drv.initialized = false := by
  rw [LmsSystem.step_drv]
  cases hc : c.guarded with
  | true => rw [exec_guarded h hc, h]
  | false =>
      cases c with
      | configureRx | configureTx | calibrateDc | calibrateIq | setRxGain | setTxGain | startRx
      | startTx | readFifo | writeFifo | getStatus | spiRead => cases hc
      | init spiSpeedHz =>
          by_cases hspeed : spiSpeedHz ≤ 20000000
          · simp [Call.prog, exec_init d hspeed, Driver.zero]
          · have hrefused : init s.drv spiSpeedHz = pure (errInvalidParam, s.drv) :=
              if_pos (BitVec.not_le.mp hspeed)
            simp [Call.prog, hrefused, h]
      | deinit | stopRx | stopTx =>
          simp [Call.prog, Lms7002m.deinit, Lms7002m.stopRx, Lms7002m.stopTx, h]
      | spiWrite | reset | spiReadBurst | spiWriteBurst => simp [Call.prog, h]
      | setChannel ch =>
          by_cases hch : ch ≥ chCount
          · simp [Call.prog, Lms7002m.setChannel, hch, h]
          · simp [Call.prog, Lms7002m.setChannel, hch, h]

/-- An initialisation that fails for want of itself: it always reports an SPI
error, and from then on every guarded call finds the driver uninitialised. -/
theorem never_brings_up (rounds : Nat) (d : LmsDevice σ) (s : LmsSystem σ)
    (spiSpeedHz : BitVec 32) (hspeed : spiSpeedHz ≤ 20000000) :
    ¬BringsUp rounds d s spiSpeedHz ∧
      s.returns rounds d (.init spiSpeedHz) = some errSpi ∧
      ∀ calls, Along (LmsSystem.step rounds d)
        (fun t c => c.guarded = true → t.returns rounds d c = some errNotInitialized)
        (s.step rounds d (.init spiSpeedHz)) calls := by
  have hresult : s.returns rounds d (.init spiSpeedHz) = some errSpi := by
    simp [LmsSystem.returns, Call.prog, exec_init d hspeed]
  have hdown : (s.step rounds d (.init spiSpeedHz)).drv.initialized = false := by
    simp [LmsSystem.step_drv, Call.prog, exec_init d hspeed, Driver.zero]
  refine ⟨fun hup => ?_, hresult, fun calls => ?_⟩
  · cases hdown.symm.trans hup.2.1
  · rw [along_iff]
    rintro us c vs - hc
    have hstill : (run (LmsSystem.step rounds d) (s.step rounds d (.init spiSpeedHz))
        us).drv.initialized = false :=
      run_invariant (I := fun t : LmsSystem σ => t.drv.initialized = false)
        (fun _ c h => uninitialized_step c h) hdown us
    rw [LmsSystem.returns, exec_guarded hstill hc]

end

def poweredUp : LmsSystem (BitVec 32) := ⟨Driver.zero, fun _ => 0, 0⟩

theorem never_brings_up_constant_chip :
    ¬BringsUp 0 (constantChip 0x3841) poweredUp 10000000 ∧
      poweredUp.returns 0 (constantChip 0x3841) (.init 10000000) = some errSpi ∧
      ∀ calls, Along (LmsSystem.step 0 (constantChip 0x3841))
        (fun t c => c.guarded = true → t.returns 0 (constantChip 0x3841) c = some errNotInitialized)
        (poweredUp.step 0 (constantChip 0x3841) (.init 10000000)) calls :=
  never_brings_up 0 (constantChip 0x3841) poweredUp 10000000 (by decide)

/-- The chip would answer with its revision, but is not asked. -/
theorem answered_revision_not_read :
    readValue (constantChip 0x3841 (.xfer (cmdRead regRev)) 0).1 = 0x3841 ∧
      ¬BringsUp 0 (constantChip 0x3841) poweredUp 10000000 := by
  refine ⟨by decide, fun hup => ?_⟩
  have herror : poweredUp.returns 0 (constantChip 0x3841) (.init 10000000) = some errSpi := by
    decide
  rw [BringsUp, herror] at hup
  exact absurd hup.1 (by decide)

end GhostBlade.Firmware.Lms7002m
