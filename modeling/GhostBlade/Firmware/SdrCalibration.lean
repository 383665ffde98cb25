import GhostBlade.Firmware.SdrWait

/-!
The two calibrations. Both set enable bits in `CAL_CTRL`, wait for bits of
`CAL_STATUS` and read two result words; only behind the last of them are the
enable bits cleared. Every return before that leaves the calibration running.
-/

namespace GhostBlade.Firmware.Lms7002m

open GhostBlade.Library Prog

/-! ### Calls -/

inductive CalCall where
  | dc (ch : Channel) (timeoutMs : BitVec 32)
  | iq (direction : Direction) (ch : Channel) (timeoutMs : BitVec 32)

namespace CalCall

def call : CalCall → Call
  | .dc ch timeoutMs => .calibrateDc ch timeoutMs
  | .iq direction ch timeoutMs => .calibrateIq direction ch timeoutMs

def channel : CalCall → Channel
  | .dc ch _ | .iq _ ch _ => ch

/-- The enable bits. -/
def enable : CalCall → BitVec 16
  | .dc .. => 0x0001
  | .iq .. => 0x0006

/-- The status bits, in the order they are waited for. -/
def bits : CalCall → List (BitVec 16)
  | .dc .. => [0x0001]
  | .iq .. => [0x0002, 0x0004]

/-- The timeout, or the default for 0. -/
def timeoutMs : CalCall → BitVec 32
  | .dc _ timeoutMs => if timeoutMs ≠ 0 then timeoutMs else dcCalTimeoutMs
  | .iq _ _ timeoutMs => if timeoutMs ≠ 0 then timeoutMs else iqCalTimeoutMs

def save : CalCall → CalResult → BitVec 32 → BitVec 32 → CalResult
  | .dc .. => CalResult.withDc
  | .iq .. => CalResult.withIq

theorem enable_ne_zero (c : CalCall) : c.enable ≠ 0 := by
  cases c with
  | dc | iq => simp [enable]

theorem prog_eq (c : CalCall) (rounds : Nat) (drv : Driver) :
    c.call.prog rounds drv =
      calibrate rounds drv c.channel c.enable c.bits c.timeoutMs c.save := by
  cases c with
  | dc | iq => rfl

end CalCall

/-! ### The chip's part -/

section

variable {σ : Type} (d : LmsDevice σ)

/-- Both result words are no error for the accessor that reads them. -/
def ResultsFit (t : σ) : Prop :=
  let resultH := d (.xfer (cmdRead regCalResultH)) t
  let resultL := d (.xfer (cmdRead regCalResultL)) resultH.2
  resultH.1.setWidth 16 < 0x8000#16 ∧ resultL.1.setWidth 16 < 0x8000#16

def statusWait (timeoutMs : BitVec 32) (bit : BitVec 16) : Wait :=
  ⟨regCalStatus, bit, bit, timeoutMs⟩

/-- The status bits come in time, one after the other, and then the results fit. -/
def Completes (timeoutMs : BitVec 32) : List (BitVec 16) → σ → Prop
  | [], t => ResultsFit d t
  | bit :: bits, t =>
      let w := statusWait timeoutMs bit
      ∃ k, w.MatchesAt d t k ∧
        Completes timeoutMs bits (d (.xfer (cmdRead regCalStatus)) (w.polled d t k)).2

/-- The chip when the calibration has been started. -/
def calibrating (c : CalCall) (t : σ) : σ :=
  let selected := (d (.xfer (cmdWrite regTop (if c.channel = chB then 0x0002 else 0x0001))) t).2
  (d (.xfer (cmdWrite regCalCtrl c.enable)) selected).2

def CalCall.Completes (c : CalCall) (t : σ) : Prop :=
  Lms7002m.Completes d c.timeoutMs c.bits (calibrating d c t)

/-! ### Returns -/

variable {d} {rounds : Nat} {drv : Driver} {regs : LmsRegs} {t : σ}

variable (d regs t) in
theorem exec_readResults (hinit : drv.initialized = true)
    (save : BitVec 32 → BitVec 32 → CalResult) :
    let e := (readResults drv save).exec (d.recorded LmsRegs.onOp) (regs, t)
    (ResultsFit d t → e.result.1 = ok ∧ e.state.1 = regs.write regCalCtrl 0x0000) ∧
      (¬ResultsFit d t → e.result = (errSpi, drv) ∧ e.state.1 = regs) := by
  have hfit : ResultsFit d t ↔
      ¬(readValue (d (.xfer (cmdRead regCalResultH)) t).1 < 0 ∨
        readValue (d (.xfer (cmdRead regCalResultL))
          (d (.xfer (cmdRead regCalResultH)) t).2).1 < 0) := by
    rw [readValue, readValue, Wait.toInt_neg_iff, Wait.toInt_neg_iff, ← not_and_or, not_not]
    rfl
  rw [hfit, readResults, exec_bind, exec_spiRead_recorded _ _ _ hinit]
  dsimp only
  rw [exec_bind, exec_spiRead_recorded _ _ _ hinit]
  dsimp only
  constructor
  · intro h
    rw [if_neg h]
    simp
  · intro h
    rw [if_pos (not_not.mp h)]
    exact ⟨rfl, rfl⟩

theorem completes_cons_iff (hinit : drv.initialized = true) {timeoutMs : BitVec 32}
    {bit : BitVec 16} {bits : List (BitVec 16)} {code : Int}
    (hcode : (((statusWait timeoutMs bit).prog rounds drv).exec d t).result = some code) :
    Completes d timeoutMs (bit :: bits) t ↔
      let wait := ((statusWait timeoutMs bit).prog rounds drv).exec d t
      code = ok ∧ Completes d timeoutMs bits wait.state := by
  rw [Wait.ok_iff hinit hcode]
  dsimp only
  constructor
  · rintro ⟨k, hk, hrest⟩
    rw [Wait.state_of_matchesAt hinit hk hcode]
    exact ⟨⟨k, hk⟩, hrest⟩
  · rintro ⟨⟨k, hk⟩, hrest⟩
    rw [Wait.state_of_matchesAt hinit hk hcode] at hrest
    exact ⟨k, hk, hrest⟩

variable (d regs t) in
/-- A calibration that completes clears the enable bits; any other return leaves
the registers and the driver as they were. -/
theorem exec_waitCalibrated (hinit : drv.initialized = true) (timeoutMs : BitVec 32)
    (save : BitVec 32 → BitVec 32 → CalResult) (bits : List (BitVec 16)) {code : Int} :
    let e := (waitCalibrated rounds drv timeoutMs (readResults drv save) bits).exec
      (d.recorded LmsRegs.onOp) (regs, t)
    e.result.1 = some code →
      (Completes d timeoutMs bits t → code = ok ∧ e.state.1 = regs.write regCalCtrl 0x0000) ∧
        (¬Completes d timeoutMs bits t → code ≠ ok ∧ e.result.2 = drv ∧ e.state.1 = regs) := by
  have hspi : errSpi ≠ ok := by decide
  have hcal : errCalibration ≠ ok := by decide
  induction bits generalizing t with
  | nil =>
      obtain ⟨hfit, hunfit⟩ := exec_readResults d regs t hinit save
      rw [waitCalibrated, exec_bind]
      intro e hcode
      have hresult := Option.some.inj hcode
      refine ⟨fun h => ?_, fun h => ?_⟩
      · obtain ⟨hok, hregs⟩ := hfit h
        exact ⟨hresult.symm.trans hok, hregs⟩
      · obtain ⟨herror, hregs⟩ := hunfit h
        refine ⟨?_, congrArg Prod.snd herror, hregs⟩
        rw [← hresult]
        exact (congrArg Prod.fst herror).trans_ne hspi
  | cons bit bits ih =>
      rw [waitCalibrated, exec_bind, exec_waitForBitmask]
      dsimp only
      cases hend : ((waitForBitmask rounds drv regCalStatus bit bit timeoutMs).exec d t).result with
      | none => exact nofun
      | some waited =>
          rw [completes_cons_iff hinit hend]
          dsimp only
          by_cases hok : waited = ok
          · rw [if_neg (not_not.mpr hok)]
            intro hcode
            rw [and_iff_right hok]
            exact ih _ hcode
          · rw [if_pos hok]
            intro hcode
            refine ⟨fun h => absurd h.1 hok, fun _ => ⟨?_, rfl, rfl⟩⟩
            rw [← Option.some.inj hcode]
            exact hcal

variable (rounds d regs t) in
/-- A calibration call behind its checks. -/
theorem exec_calCall (hinit : drv.initialized = true) (c : CalCall) (hch : c.channel < chCount) :
    ∃ started : LmsRegs, started.get regCalCtrl = c.enable ∧
      let drv' := { drv with activeChannel := c.channel }
      let rest := readResults drv' (c.save drv.cal)
      let e := (waitCalibrated rounds drv' c.timeoutMs rest c.bits).exec
        (d.recorded LmsRegs.onOp) (started, calibrating d c t)
      ((c.call.prog rounds drv).exec (d.recorded LmsRegs.onOp) (regs, t)).result = e.result ∧
        ((c.call.prog rounds drv).exec (d.recorded LmsRegs.onOp) (regs, t)).state = e.state := by
  let top : BitVec 16 := if c.channel = chB then 0x0002 else 0x0001
  refine ⟨(regs.write regTop top).write regCalCtrl c.enable, by simp, ?_⟩
  have hvalid : ¬c.channel ≥ chCount := BitVec.not_le.mpr hch
  rw [c.prog_eq, calibrate, if_neg (guard_passed hinit), if_neg hvalid, exec_bind,
    exec_setChannel _ _ _ _ hvalid]
  dsimp only
  rw [exec_bind, exec_spiWrite]
  dsimp only
  rw [if_neg (not_not.mpr rfl)]
  exact ⟨rfl, rfl⟩

end

/-! ### Cleaning up -/

variable {σ : Type}

/-- Whatever the chip does: a calibration that was started and returns has cleared
the enable bits, and changed the driver only with success, exactly if the status
bits came in time and no result word had its top bit set. -/
theorem calibration_cleans_up_iff (rounds : Nat) (d : LmsDevice σ) (s : LmsSystem σ) (c : CalCall)
    (hinit : s.drv.initialized = true) (hch : c.channel < chCount) {code : Int}
    (hcode : s.returns rounds d c.call = some code) :
    let next := s.step rounds d c.call
    (next.regs.get regCalCtrl = 0 ∧ (next.drv.cal ≠ s.drv.cal → code = ok)) ↔
      c.Completes d s.chip := by
  obtain ⟨started, henable, hresult, hstate⟩ :=
    exec_calCall d rounds s.regs s.chip hinit c hch
  have hreturned : ((c.call.prog rounds s.drv).exec (d.recorded LmsRegs.onOp)
      (s.regs, s.chip)).result.1 = some code := by
    rw [exec_recorded]
    exact hcode
  have hinit' : { s.drv with activeChannel := c.channel }.initialized = true := hinit
  rw [hresult] at hreturned
  obtain ⟨hdone, hfailed⟩ := exec_waitCalibrated d started (calibrating d c s.chip) hinit'
    c.timeoutMs (c.save s.drv.cal) c.bits hreturned
  rw [← hstate] at hdone hfailed
  by_cases hcompletes : c.Completes d s.chip
  · obtain ⟨hok, hregs⟩ := hdone hcompletes
    refine iff_of_true ⟨?_, fun _ => hok⟩ hcompletes
    rw [LmsSystem.step, hregs]
    simp
  · obtain ⟨_, _, hregs⟩ := hfailed hcompletes
    refine iff_of_false (fun h => c.enable_ne_zero ?_) hcompletes
    have hclear := h.1
    rw [LmsSystem.step, hregs, henable] at hclear
    exact hclear

/-- A chip whose status bits are set at once. -/
theorem calibration_cleans_up_iff_at_once :
    let c : CalCall := .iq .rx chB 0
    let next := readySystem.step 1 (constantChip 7) c.call
    (next.regs.get regCalCtrl = 0 ∧ (next.drv.cal ≠ readySystem.drv.cal → ok = ok)) ↔
      c.Completes (constantChip 7) readySystem.chip :=
  calibration_cleans_up_iff 1 (constantChip 7) readySystem (.iq .rx chB 0) rfl (by decide)
    (by decide)

/-- A chip that never completes: the call times out and leaves the engine on. -/
theorem timed_out_calibration_still_enabled :
    let c : CalCall := .dc chA 3
    readySystem.drv.initialized = true ∧
      readySystem.returns 4 (constantChip 0) c.call = some errCalibration ∧
      (readySystem.step 4 (constantChip 0) c.call).regs.get regCalCtrl = 0x0001 := by
  decide

end GhostBlade.Firmware.Lms7002m
