import GhostBlade.Firmware.SdrWait

/-!
What the driver remembers of the tuning and what the chip has been told. A
configuration call writes the synthesizer first, then waits for its lock, and
takes the values over into the driver last; a lock that does not come leaves the
new values in the chip and the old ones in the driver.
-/

namespace GhostBlade.Firmware.Lms7002m

open GhostBlade.Library Prog

/-! ### Tunings -/

/-- The values of one direction: synthesizer and converter. -/
structure Tuning where
  nint : BitVec 16
  nfrac : BitVec 32
  div : BitVec 16
  converter : BitVec 16
deriving DecidableEq

def Tuning.withPll (t : Tuning) (pll : PllParams) : Tuning :=
  { t with nint := pll.nint, nfrac := pll.nfrac, div := pll.divOut.setWidth 16 }

def Direction.synthesizer : Direction → Synthesizer
  | .rx => rxSynthesizer
  | .tx => txSynthesizer

/-- What the driver keeps. -/
def Driver.tuning (drv : Driver) : Direction → Tuning
  | .rx => ⟨drv.rxPll.nint, drv.rxPll.nfrac, drv.rxPll.divOut.setWidth 16,
      drv.rate.decimation.setWidth 16⟩
  | .tx => ⟨drv.txPll.nint, drv.txPll.nfrac, drv.txPll.divOut.setWidth 16,
      drv.rate.interpolation.setWidth 16⟩

/-- What was last written to the registers. -/
def LmsRegs.tuning (regs : LmsRegs) (dir : Direction) : Tuning :=
  let sx := dir.synthesizer
  ⟨regs.get sx.pllInt, regs.get sx.pllFracH ++ regs.get sx.pllFracL, regs.get sx.div,
    regs.get sx.converter⟩

/-! ### Calls -/

structure Tune where
  dir : Direction
  freqHz : BitVec 64
  sampleRate : BitVec 32
  ch : Channel

def Tune.call (c : Tune) : Call :=
  match c.dir with
  | .rx => .configureRx c.freqHz c.sampleRate c.ch
  | .tx => .configureTx c.freqHz c.sampleRate c.ch

/-- The writes before the wait for the lock. -/
def Tune.writes (c : Tune) (pll : PllParams) : List (BitVec 16 × BitVec 16) :=
  (regTop, if c.ch = chB then 0x0002 else 0x0001) :: c.dir.synthesizer.pllWrites pll

def Tune.lockWait (c : Tune) : Wait :=
  ⟨c.dir.synthesizer.vcoCtrl, 0x0002, 0x0002, pllLockTimeoutMs⟩

/-- Writes in a row, as the registers and as the chip see them. -/
def LmsRegs.writes (regs : LmsRegs) (ws : List (BitVec 16 × BitVec 16)) : LmsRegs :=
  ws.foldl (fun regs p => regs.write p.1 p.2) regs

def chipWrites {σ : Type} (d : LmsDevice σ) (t : σ) (ws : List (BitVec 16 × BitVec 16)) : σ :=
  ws.foldl (fun t p => (d (.xfer (cmdWrite p.1 p.2)) t).2) t

section

variable {σ : Type} (rounds : Nat) (d : LmsDevice σ) (s : LmsSystem σ) (c : Tune)

def LmsSystem.Mirrors : Prop := ∀ dir, s.regs.tuning dir = s.drv.tuning dir

/-- Behind the call driver and chip agree, and an error has changed neither. -/
def TunesRight : Prop :=
  let next := s.step rounds d c.call
  next.Mirrors ∧
    ∀ code, s.returns rounds d c.call = some code → code ≠ ok → ∀ dir,
      next.drv.tuning dir = s.drv.tuning dir ∧ next.regs.tuning dir = s.regs.tuning dir

/-- The call is refused, or the lock comes in time, or the synthesizer is set to
what it is set to already. -/
def Tunable : Prop :=
  match checkConfig s.drv c.freqHz c.sampleRate c.ch with
  | .error _ => True
  | .ok pll =>
      c.lockWait.Matches d (chipWrites d s.chip (c.writes pll)) ∨
        (s.drv.tuning c.dir).withPll pll = s.drv.tuning c.dir

end

/-! ### Registers -/

theorem splitRatio_nfrac {vcoFreq : BitVec 64} {refClk div : BitVec 32} {pll : PllParams}
    (h : splitRatio vcoFreq refClk div = .ok pll) : pll.nfrac ≤ 0x7FFFFF := by
  unfold splitRatio at h
  dsimp only at h
  split at h
  · cases h
  · cases h
    dsimp only
    split
    · exact BitVec.le_refl _
    · next hless => exact BitVec.not_lt.mp hless

theorem checkConfig_valid {drv : Driver} {freqHz : BitVec 64} {sampleRate : BitVec 32}
    {ch : Channel} {pll : PllParams} (h : checkConfig drv freqHz sampleRate ch = .ok pll) :
    ¬ch ≥ chCount := by
  unfold checkConfig at h
  split_ifs at h
  assumption

theorem checkConfig_nfrac {drv : Driver} {freqHz : BitVec 64} {sampleRate : BitVec 32}
    {ch : Channel} {pll : PllParams} (h : checkConfig drv freqHz sampleRate ch = .ok pll) :
    pll.nfrac ≤ 0x7FFFFF := by
  unfold checkConfig calculatePllParams at h
  split_ifs at h
  split at h
  · cases h
  · exact splitRatio_nfrac h

/-- The two halves of the fraction, put together again. -/
theorem join_nfrac {nfrac : BitVec 32} (h : nfrac ≤ 0x7FFFFF) :
    ((nfrac >>> 16) &&& 0xFF#32).setWidth 16 ++ (nfrac &&& 0xFFFF#32).setWidth 16 = nfrac := by
  have hle : nfrac.toNat ≤ 0x7FFFFF := h
  have hclear (i : ℕ) (hi : 24 ≤ i) : nfrac.getLsbD i = false := by
    have hpow : 2 ^ 24 ≤ 2 ^ i := Nat.pow_le_pow_right (by decide) hi
    exact Nat.testBit_lt_two_pow (by omega)
  have hhigh : ∀ i (hi : i < 16), (0xFF#16)[i] = decide (i < 8) := by decide
  have hlow : ∀ i (hi : i < 16), (0xFFFF#16)[i] = true := by decide
  apply BitVec.eq_of_getLsbD_eq
  intro i hi
  rw [BitVec.getLsbD_append]
  split
  · next hless => simp [hless, hlow i hless]
  · next hmore =>
      have hplace : i - 16 < 16 := by omega
      have hback : 16 + (i - 16) = i := by omega
      by_cases htop : 24 ≤ i
      · simp [hplace, hback, hclear i htop]
      · have hbyte : i - 16 < 8 := by omega
        simp [hplace, hback, hhigh _ hplace, hbyte]

section

variable (regs : LmsRegs) (c : Tune) (dir : Direction)

theorem tuning_writes {pll : PllParams} (h : pll.nfrac ≤ 0x7FFFFF) :
    (regs.writes (c.writes pll)).tuning dir =
      if dir = c.dir then (regs.tuning dir).withPll pll else regs.tuning dir := by
  have hjoin := join_nfrac h
  cases hc : c.dir with
  | rx | tx =>
      cases dir with
      | rx | tx =>
          simp [-BitVec.setWidth_and, LmsRegs.writes, LmsRegs.tuning, Tune.writes, hc,
            Direction.synthesizer, Synthesizer.pllWrites, Tuning.withPll, rxSynthesizer,
            txSynthesizer, regTop, regSxrPllInt, regSxrPllFracH, regSxrPllFracL, regSxrDiv,
            regSxrVcoCtrl, regSxtPllInt, regSxtPllFracH, regSxtPllFracL, regSxtDiv, regSxtVcoCtrl,
            regAdcDecimation, regDacInterpolation, hjoin]

theorem tuning_converter (divider : BitVec 8) :
    (regs.write c.dir.synthesizer.converter (divider.setWidth 16)).tuning dir =
      if dir = c.dir then { regs.tuning dir with converter := divider.setWidth 16 }
      else regs.tuning dir := by
  cases hc : c.dir with
  | rx | tx =>
      cases dir with
      | rx | tx =>
          simp [LmsRegs.tuning, Direction.synthesizer, rxSynthesizer, txSynthesizer,
            regSxrPllInt, regSxrPllFracH, regSxrPllFracL, regSxrDiv, regSxtPllInt, regSxtPllFracH,
            regSxtPllFracL, regSxtDiv, regAdcDecimation, regDacInterpolation]

theorem tuning_save (drv : Driver) (freqHz : BitVec 64) (pll : PllParams) (sampleRate : BitVec 32)
    (divider : BitVec 8) :
    (c.dir.synthesizer.save drv freqHz (pll.config freqHz) sampleRate divider).tuning dir =
      if dir = c.dir then { (drv.tuning dir).withPll pll with converter := divider.setWidth 16 }
      else drv.tuning dir := by
  cases hc : c.dir with
  | rx | tx =>
      cases dir with
      | rx | tx =>
          simp [Driver.tuning, Direction.synthesizer, rxSynthesizer, txSynthesizer, Tuning.withPll,
            PllParams.config]

theorem save_initialized (drv : Driver) (freqHz : BitVec 64) (pll : PllConfig)
    (sampleRate : BitVec 32) (divider : BitVec 8) :
    (c.dir.synthesizer.save drv freqHz pll sampleRate divider).initialized = drv.initialized := by
  cases c.dir with
  | rx | tx => rfl

end

/-! ### Calls on the system -/

section

variable {σ : Type} {rounds : Nat} {d : LmsDevice σ} {regs : LmsRegs} {t : σ} {drv : Driver}

theorem exec_spiWrites (ws : List (BitVec 16 × BitVec 16)) :
    (spiWrites ws).exec (d.recorded LmsRegs.onOp) (regs, t) =
      ⟨ok, ws.map fun p => .xfer (cmdWrite p.1 p.2), (regs.writes ws, chipWrites d t ws)⟩ := by
  induction ws generalizing regs t with
  | nil => rfl
  | cons p ws ih =>
      obtain ⟨addr, data⟩ := p
      rw [spiWrites, exec_bind, exec_spiWrite]
      dsimp only
      rw [if_neg (not_not.mpr rfl), ih]
      rfl

theorem Tune.prog_eq (c : Tune) :
    c.call.prog rounds drv =
      c.dir.synthesizer.configure rounds drv c.freqHz c.sampleRate c.ch := by
  unfold Tune.call
  cases c.dir with
  | rx | tx => rfl

variable {c : Tune} {pll : PllParams}

theorem Tune.lockWait_prog :
    c.lockWait.prog rounds drv =
      waitForBitmask rounds drv c.dir.synthesizer.vcoCtrl 0x0002 0x0002 pllLockTimeoutMs := rfl

theorem Tune.regs_writes :
    regs.writes (c.writes pll) =
      (regs.write regTop (if c.ch = chB then 0x0002 else 0x0001)).writes
        (c.dir.synthesizer.pllWrites pll) := rfl

theorem Tune.chip_writes :
    chipWrites d t (c.writes pll) =
      chipWrites d (d (.xfer (cmdWrite regTop (if c.ch = chB then 0x0002 else 0x0001))) t).2
        (c.dir.synthesizer.pllWrites pll) := by
  rw [chipWrites, Tune.writes, List.foldl_cons]
  rfl

variable (rounds d regs t) in
/-- A call behind its checks: what follows the wait for the lock. -/
theorem exec_tune (hpll : checkConfig drv c.freqHz c.sampleRate c.ch = .ok pll) :
    let e := (c.call.prog rounds drv).exec (d.recorded LmsRegs.onOp) (regs, t)
    let drv' := { drv with activeChannel := c.ch }
    let wait := (c.lockWait.prog rounds drv').exec d (chipWrites d t (c.writes pll))
    (wait.result = none → e.result.1 = none) ∧
      ∀ locked, wait.result = some locked →
        let finish := (c.dir.synthesizer.finish drv' c.freqHz pll c.sampleRate locked).exec
          (d.recorded LmsRegs.onOp) (regs.writes (c.writes pll), wait.state)
        e.result = (some finish.result.1, finish.result.2) ∧ e.state = finish.state := by
  rw [c.prog_eq, Synthesizer.configure, hpll, exec_bind,
    exec_setChannel _ _ _ _ (checkConfig_valid hpll)]
  dsimp only
  rw [exec_bind, exec_spiWrites]
  dsimp only
  rw [if_neg (not_not.mpr rfl), exec_bind, exec_waitForBitmask, ← Tune.lockWait_prog,
    ← Tune.regs_writes, ← Tune.chip_writes]
  dsimp only
  refine ⟨fun h => ?_, fun locked h => ?_⟩
  · rw [h]
    rfl
  · rw [h, exec_bind]
    exact ⟨rfl, rfl⟩

variable (d regs t drv pll) in
theorem exec_finish (sx : Synthesizer) (freqHz : BitVec 64) (sampleRate : BitVec 32)
    (locked : Int) :
    let divider := rateDivider sampleRate
    let e := (sx.finish drv freqHz pll sampleRate locked).exec (d.recorded LmsRegs.onOp) (regs, t)
    (locked = ok → e.result = (ok, sx.save drv freqHz (pll.config freqHz) sampleRate divider) ∧
        e.state.1 = regs.write sx.converter (divider.setWidth 16)) ∧
      (locked ≠ ok → e.result = (errPllLock, drv) ∧ e.state.1 = regs) := by
  rw [Synthesizer.finish]
  refine ⟨fun h => ?_, fun h => ?_⟩
  · rw [if_neg (not_not.mpr h), exec_bind, exec_spiWrite]
    exact ⟨rfl, rfl⟩
  · rw [if_pos h]
    exact ⟨rfl, rfl⟩

variable {s : LmsSystem σ}

/-- What a call that returns has done to the driver and the registers. -/
theorem step_tune (hinit : s.drv.initialized = true)
    (hpll : checkConfig s.drv c.freqHz c.sampleRate c.ch = .ok pll) {code : Int}
    (hcode : s.returns rounds d c.call = some code) :
    let next := s.step rounds d c.call
    let locks := c.lockWait.Matches d (chipWrites d s.chip (c.writes pll))
    let divider := (rateDivider c.sampleRate).setWidth 16
    next.drv.initialized = true ∧
      (locks → code = ok ∧ ∀ dir,
        (next.drv.tuning dir = if dir = c.dir then
            { (s.drv.tuning dir).withPll pll with converter := divider } else s.drv.tuning dir) ∧
          next.regs.tuning dir = if dir = c.dir then
            { (s.regs.tuning dir).withPll pll with converter := divider }
            else s.regs.tuning dir) ∧
      (¬locks → code ≠ ok ∧ ∀ dir, next.drv.tuning dir = s.drv.tuning dir ∧
        next.regs.tuning dir =
          if dir = c.dir then (s.regs.tuning dir).withPll pll else s.regs.tuning dir) := by
  obtain ⟨hnone, hsome⟩ := exec_tune rounds d s.regs s.chip hpll
  have hreturned : ((c.call.prog rounds s.drv).exec (d.recorded LmsRegs.onOp)
      (s.regs, s.chip)).result.1 = some code := by
    rw [exec_recorded]
    exact hcode
  let drv' := { s.drv with activeChannel := c.ch }
  have hinit' : drv'.initialized = true := hinit
  let told := chipWrites d s.chip (c.writes pll)
  cases hwait : ((c.lockWait.prog rounds drv').exec d told).result with
  | none =>
      rw [hnone hwait] at hreturned
      cases hreturned
  | some locked =>
      obtain ⟨hresult, hstate⟩ := hsome locked hwait
      rw [hresult] at hreturned
      obtain ⟨hlocked, hunlocked⟩ := exec_finish d (s.regs.writes (c.writes pll))
        ((c.lockWait.prog rounds drv').exec d (chipWrites d s.chip (c.writes pll))).state drv' pll
        c.dir.synthesizer c.freqHz c.sampleRate locked
      rw [← Wait.ok_iff hinit' hwait, LmsSystem.step]
      dsimp only
      rw [hresult, hstate]
      by_cases hok : locked = ok
      · obtain ⟨hfinish, hregs⟩ := hlocked hok
        rw [hfinish] at hreturned ⊢
        rw [hregs]
        refine ⟨(save_initialized c drv' ..).trans hinit', fun _ => ⟨?_, fun dir => ⟨?_, ?_⟩⟩,
          fun h => absurd hok h⟩
        · exact (Option.some.inj hreturned).symm
        · exact tuning_save c dir drv' ..
        · rw [tuning_converter, tuning_writes _ _ _ (checkConfig_nfrac hpll)]
          split
          · rfl
          · rfl
      · obtain ⟨hfinish, hregs⟩ := hunlocked hok
        rw [hfinish] at hreturned ⊢
        rw [hregs]
        refine ⟨hinit', fun h => absurd h hok, fun _ => ⟨?_, fun dir => ⟨?_, ?_⟩⟩⟩
        · have hlock : errPllLock ≠ ok := by decide
          rw [← Option.some.inj hreturned]
          exact hlock
        · cases dir with
          | rx | tx => rfl
        · exact tuning_writes _ _ _ (checkConfig_nfrac hpll)

/-- A refused call does nothing. -/
theorem step_refused {code : Int}
    (h : checkConfig s.drv c.freqHz c.sampleRate c.ch = .error code) :
    s.step rounds d c.call = s := by
  rw [LmsSystem.step, c.prog_eq, Synthesizer.configure, h]
  rfl

theorem initialized_tune (hinit : s.drv.initialized = true) {code : Int}
    (hcode : s.returns rounds d c.call = some code) :
    (s.step rounds d c.call).drv.initialized = true := by
  cases hpll : checkConfig s.drv c.freqHz c.sampleRate c.ch with
  | error refused => rwa [step_refused hpll]
  | ok pll => exact (step_tune hinit hpll hcode).1

/-- Where driver and chip agree, a call that returns is right exactly if it is
refused, locks, or sets what is set already. -/
theorem tunes_right_iff (hinit : s.drv.initialized = true) (hmirror : s.Mirrors) {code : Int}
    (hcode : s.returns rounds d c.call = some code) :
    TunesRight rounds d s c ↔ Tunable d s c := by
  unfold TunesRight Tunable
  cases hpll : checkConfig s.drv c.freqHz c.sampleRate c.ch with
  | error refused =>
      rw [step_refused hpll]
      exact iff_of_true ⟨hmirror, fun _ _ _ _ => ⟨rfl, rfl⟩⟩ trivial
  | ok pll =>
      obtain ⟨_, hlocks, hmisses⟩ := step_tune hinit hpll hcode
      dsimp only
      by_cases hlock : c.lockWait.Matches d (chipWrites d s.chip (c.writes pll))
      · obtain ⟨hok, htuned⟩ := hlocks hlock
        refine iff_of_true ⟨fun dir => ?_, fun code' hcode' hbad => ?_⟩ (.inl hlock)
        · rw [(htuned dir).1, (htuned dir).2, hmirror dir]
        · rw [hcode] at hcode'
          exact absurd ((Option.some.inj hcode').symm.trans hok) hbad
      · obtain ⟨hbad, htuned⟩ := hmisses hlock
        rw [or_iff_right hlock]
        constructor
        · rintro ⟨hnext, _⟩
          have hdir := hnext c.dir
          rw [(htuned c.dir).1, (htuned c.dir).2, if_pos rfl, hmirror c.dir] at hdir
          exact hdir
        · intro hsame
          have hregs (dir : Direction) :
              (s.step rounds d c.call).regs.tuning dir = s.regs.tuning dir := by
            rw [(htuned dir).2]
            split
            · next hdir => rw [hmirror dir, hdir, hsame]
            · rfl
          refine ⟨fun dir => ?_, fun _ _ _ dir => ⟨(htuned dir).1, hregs dir⟩⟩
          rw [hregs dir, (htuned dir).1, hmirror dir]

end

/-! ### Runs -/

section

variable {σ : Type}

/-- Over every run of calls that return, the driver mirrors the chip and errors
change nothing exactly if every call is refused, locks in time, or sets what is
set already. -/
theorem mirror_iff_tunable (rounds : Nat) (d : LmsDevice σ) (s : LmsSystem σ) (calls : List Tune)
    (hinit : s.drv.initialized = true) (hmirror : s.Mirrors)
    (hreturns : Along (fun s c => s.step rounds d (Tune.call c))
      (fun s c => (s.returns rounds d c.call).isSome = true) s calls) :
    Along (fun s c => s.step rounds d (Tune.call c)) (TunesRight rounds d) s calls ↔
      Along (fun s c => s.step rounds d (Tune.call c)) (Tunable d) s calls := by
  have hkeep (t : LmsSystem σ) (c : Tune) (ht : t.drv.initialized = true ∧ t.Mirrors)
      (hcode : (t.returns rounds d c.call).isSome = true) (hright : TunesRight rounds d t c) :
      (t.step rounds d c.call).drv.initialized = true ∧ (t.step rounds d c.call).Mirrors := by
    obtain ⟨code, hcode⟩ := Option.isSome_iff_exists.mp hcode
    exact ⟨initialized_tune ht.1 hcode, hright.1⟩
  have hiff (t : LmsSystem σ) (c : Tune) (ht : t.drv.initialized = true ∧ t.Mirrors)
      (hcode : (t.returns rounds d c.call).isSome = true) :
      TunesRight rounds d t c ↔ Tunable d t c := by
    obtain ⟨code, hcode⟩ := Option.isSome_iff_exists.mp hcode
    exact tunes_right_iff ht.1 ht.2 hcode
  exact along_congr_of hkeep hiff ⟨hinit, hmirror⟩ hreturns

end

theorem readySystem_mirrors : readySystem.Mirrors := by
  intro dir
  cases dir with
  | rx | tx => rfl

/-- A chip that locks at once. -/
theorem mirror_iff_tunable_at_once :
    let calls : List Tune := [⟨.rx, 868000000, 2000000, chA⟩, ⟨.tx, 10, 2000000, chA⟩]
    Along (fun s c => s.step 1 (constantChip 2) (Tune.call c)) (TunesRight 1 (constantChip 2))
        readySystem calls ↔
      Along (fun s c => s.step 1 (constantChip 2) (Tune.call c)) (Tunable (constantChip 2))
        readySystem calls :=
  mirror_iff_tunable 1 (constantChip 2) readySystem _ rfl readySystem_mirrors (by decide +kernel)

theorem LmsSystem.Mirrors.rx_nint {σ : Type} {s : LmsSystem σ} (h : s.Mirrors) :
    s.regs.get regSxrPllInt = s.drv.rxPll.nint := congrArg Tuning.nint (h .rx)

/-- A chip that does not lock: an error, and the chip is on the new frequency. -/
theorem unlocked_chip_keeps_new_frequency :
    let call := (Tune.mk .rx 868000000 2000000 chA).call
    let next := readySystem.step 101 (constantChip 0) call
    readySystem.Mirrors ∧ readySystem.returns 101 (constantChip 0) call = some errPllLock ∧
      next.drv.rxPll.nint = 0 ∧ next.regs.get regSxrPllInt = 113 ∧ ¬next.Mirrors := by
  have hregs : (readySystem.step 101 (constantChip 0)
      (Tune.mk .rx 868000000 2000000 chA).call).regs.get regSxrPllInt = 113 := by decide +kernel
  have hdrv : (readySystem.step 101 (constantChip 0)
      (Tune.mk .rx 868000000 2000000 chA).call).drv.rxPll.nint = 0 := by decide +kernel
  refine ⟨readySystem_mirrors, by decide +kernel, hdrv, hregs, fun h => ?_⟩
  have hrx := h.rx_nint
  rw [hregs, hdrv] at hrx
  exact absurd hrx (by decide)

end GhostBlade.Firmware.Lms7002m
