import Mathlib.Tactic
import GhostBlade.Library.Run

/-!
Runtime power management of the bridge driver (`apex_bridge.c`): the suspend
and resume callbacks with the SPI set-up and the interrupt they act on, and the
usage count that keeps the device awake. The kernel calls the resume callback
for the first time inside `apex_bridge_probe`, before anything was saved, and
probe never gives back the reference that made it do so.
-/

namespace GhostBlade.Host

open GhostBlade.Library

/-! ### The callbacks -/

/-- The fields of `struct spi_device` the callbacks touch. -/
structure SpiConfig where
  mode : BitVec 32
  maxSpeedHz : BitVec 32
deriving DecidableEq, Repr

inductive RpmStatus where
  | active
  | suspended
deriving DecidableEq, Repr

/-- The device with its driver data. The kernel keeps the depth of `disable_irq`
calls; the last component counts the calls of `enable_irq` it complains about. -/
structure PmDevice where
  spi : SpiConfig
  savedSpiMode : BitVec 8
  savedSpiMaxSpeedHz : BitVec 32
  irq : Int
  irqDepth : Nat
  unbalanced : Nat
  status : RpmStatus
deriving DecidableEq, Repr

def PmDevice.disableIrq (d : PmDevice) : PmDevice := { d with irqDepth := d.irqDepth + 1 }

def PmDevice.enableIrq (d : PmDevice) : PmDevice :=
  if d.irqDepth = 0 then { d with unbalanced := d.unbalanced + 1 }
  else { d with irqDepth := d.irqDepth - 1 }

section

variable (spiSetup : SpiConfig → SpiConfig)

/-- `apex_bridge_runtime_suspend`; `spi_setup` may adjust what it is given. -/
def runtimeSuspend (d : PmDevice) : PmDevice :=
  let d :=
    { d with savedSpiMode := d.spi.mode.setWidth 8, savedSpiMaxSpeedHz := d.spi.maxSpeedHz }
  let d := { d with spi := spiSetup { d.spi with maxSpeedHz := 1000000#32 } }
  if d.irq ≥ 0 then d.disableIrq else d

/-- `apex_bridge_runtime_resume`. -/
def runtimeResume (d : PmDevice) : PmDevice :=
  let d := { d with spi := spiSetup ⟨d.savedSpiMode.setWidth 32, d.savedSpiMaxSpeedHz⟩ }
  if d.irq ≥ 0 then d.enableIrq else d

inductive PmEvent where
  | suspend
  | resume
deriving DecidableEq, Repr

/-- The PM core suspends an active device and resumes a suspended one. -/
def PmDevice.step (d : PmDevice) : PmEvent → PmDevice
  | .suspend =>
      if d.status = .active then { runtimeSuspend spiSetup d with status := .suspended } else d
  | .resume =>
      if d.status = .suspended then { runtimeResume spiSetup d with status := .active } else d

/-- The set-up of `apex_bridge_probe`: mode 0 at the configured speed. -/
def probeConfig (speedHz : BitVec 32) : SpiConfig := spiSetup ⟨0, speedHz⟩

/-- `apex_bridge_probe` on zeroed driver data. A negative interrupt number makes
it fail; otherwise it ends with `pm_runtime_get_sync` on a suspended device. -/
def apexBridgeProbe (speedHz : BitVec 32) (irq : Int) : Option PmDevice :=
  if irq < 0 then none
  else some (PmDevice.step spiSetup ⟨probeConfig spiSetup speedHz, 0, 0, irq, 0, 0, .suspended⟩
    .resume)

end

/-- Active means set up as `config` with the interrupt enabled, suspended means
disabled once; no enabling too many. -/
structure PmDevice.Preserves (d : PmDevice) (config : SpiConfig) : Prop where
  active : d.status = .active → d.spi = config ∧ d.irqDepth = 0
  suspended : d.status = .suspended → d.irqDepth = 1
  balanced : d.unbalanced = 0

/-- What suspend and resume do keep after the first resume: the depth is right,
and the one unbalanced call stays the only one. -/
structure PmDevice.Cycling (d : PmDevice) : Prop where
  irq : 0 ≤ d.irq
  active : d.status = .active → d.irqDepth = 0
  suspended : d.status = .suspended → d.irqDepth = 1
  once : d.unbalanced = 1

variable (spiSetup : SpiConfig → SpiConfig)

theorem cycling_step (d : PmDevice) (e : PmEvent) (h : d.Cycling) :
    (d.step spiSetup e).Cycling := by
  have hirq := h.irq
  cases e with
  | suspend =>
      by_cases hs : d.status = .active
      · have hstep : d.step spiSetup .suspend =
            { d with
              savedSpiMode := d.spi.mode.setWidth 8
              savedSpiMaxSpeedHz := d.spi.maxSpeedHz
              spi := spiSetup { d.spi with maxSpeedHz := 1000000#32 }
              irqDepth := d.irqDepth + 1
              status := .suspended } := by
          simp [PmDevice.step, runtimeSuspend, PmDevice.disableIrq, hs, hirq]
        rw [hstep]
        exact ⟨hirq, by rintro ⟨⟩, fun _ => congrArg (· + 1) (h.active hs), h.once⟩
      · simpa only [PmDevice.step, if_neg hs] using h
  | resume =>
      by_cases hs : d.status = .suspended
      · have hdepth := h.suspended hs
        have hstep : d.step spiSetup .resume =
            { d with
              spi := spiSetup ⟨d.savedSpiMode.setWidth 32, d.savedSpiMaxSpeedHz⟩
              irqDepth := d.irqDepth - 1
              status := .active } := by
          simp [PmDevice.step, runtimeResume, PmDevice.enableIrq, hs, hirq, hdepth]
        rw [hstep]
        exact ⟨hirq, fun _ => by simp [hdepth], by rintro ⟨⟩, h.once⟩
      · simpa only [PmDevice.step, if_neg hs] using h

/-- The first resume restores what nobody saved, and enables an interrupt that
was never disabled. -/
theorem probe_resumes (speedHz : BitVec 32) (irq : Int) {d : PmDevice}
    (h : apexBridgeProbe spiSetup speedHz irq = some d) :
    d.Cycling ∧ d.status = .active ∧ d.spi = spiSetup ⟨0, 0⟩ := by
  unfold apexBridgeProbe at h
  split at h
  · cases h
  · next hirq =>
    have hnonneg : 0 ≤ irq := not_lt.mp hirq
    rw [Option.some.injEq] at h
    have heq : d = ⟨spiSetup ⟨0, 0⟩, 0, 0, irq, 0, 1, .active⟩ := by
      rw [← h]
      simp [PmDevice.step, runtimeResume, PmDevice.enableIrq, hnonneg]
    rw [heq]
    exact ⟨⟨hnonneg, fun _ => rfl, by rintro ⟨⟩, rfl⟩, rfl, rfl⟩

/-- An active device runs with `config`, a suspended one has it saved. -/
structure PmDevice.Keeps (d : PmDevice) (config : SpiConfig) : Prop where
  active : d.status = .active → d.spi = config
  suspended : d.status = .suspended →
    d.savedSpiMode.setWidth 32 = config.mode ∧ d.savedSpiMaxSpeedHz = config.maxSpeedHz

/-- From the first resume on the callbacks keep what they find, if `spi_setup`
does and the mode fits the byte it is saved in. -/
theorem keeps_step {config : SpiConfig} (hsetup : spiSetup config = config)
    (hmode : (config.mode.setWidth 8).setWidth 32 = config.mode) (d : PmDevice) (e : PmEvent)
    (h : d.Keeps config) : (d.step spiSetup e).Keeps config := by
  have hspi (c : PmDevice) : (if c.irq ≥ 0 then c.disableIrq else c).savedSpiMode =
        c.savedSpiMode ∧
      (if c.irq ≥ 0 then c.disableIrq else c).savedSpiMaxSpeedHz = c.savedSpiMaxSpeedHz := by
    split <;> exact ⟨rfl, rfl⟩
  have henable (c : PmDevice) : (if c.irq ≥ 0 then c.enableIrq else c).spi = c.spi := by
    unfold PmDevice.enableIrq
    split_ifs <;> rfl
  cases e with
  | suspend =>
      by_cases hs : d.status = .active
      · rw [PmDevice.step, if_pos hs]
        refine ⟨by rintro ⟨⟩, fun _ => ?_⟩
        obtain ⟨hsaved, hspeed⟩ := hspi
          { d with
            savedSpiMode := d.spi.mode.setWidth 8
            savedSpiMaxSpeedHz := d.spi.maxSpeedHz
            spi := spiSetup { d.spi with maxSpeedHz := 1000000#32 } }
        dsimp only [runtimeSuspend]
        rw [hsaved, hspeed]
        dsimp only
        rw [h.active hs]
        exact ⟨hmode, rfl⟩
      · rwa [PmDevice.step, if_neg hs]
  | resume =>
      by_cases hs : d.status = .suspended
      · obtain ⟨hsaved, hspeed⟩ := h.suspended hs
        rw [PmDevice.step, if_pos hs]
        refine ⟨fun _ => ?_, by rintro ⟨⟩⟩
        refine (henable
          { d with spi := spiSetup ⟨d.savedSpiMode.setWidth 32, d.savedSpiMaxSpeedHz⟩ }).trans ?_
        dsimp only
        rw [hsaved, hspeed]
        exact hsetup
      · rwa [PmDevice.step, if_neg hs]

/-- So the set-up of probe never comes back. -/
theorem zeros_kept (speedHz : BitVec 32) (irq : Int) {d : PmDevice}
    (h : apexBridgeProbe spiSetup speedHz irq = some d)
    (hsetup : spiSetup (spiSetup ⟨0, 0⟩) = spiSetup ⟨0, 0⟩)
    (hmode : ((spiSetup ⟨0, 0⟩).mode.setWidth 8).setWidth 32 = (spiSetup ⟨0, 0⟩).mode)
    (es : List PmEvent) : (run (PmDevice.step spiSetup) d es).Keeps (spiSetup ⟨0, 0⟩) := by
  obtain ⟨_, hactive, hspi⟩ := probe_resumes spiSetup speedHz irq h
  refine run_invariant (keeps_step spiSetup hsetup hmode) ⟨fun _ => hspi, fun hs => ?_⟩ es
  rw [hactive] at hs
  cases hs

/-- In no state of any run is the set-up kept: probe itself has unbalanced the
interrupt, and left the device set up from zeros. -/
theorem setup_never_preserved (speedHz : BitVec 32) (irq : Int) (d : PmDevice)
    (h : apexBridgeProbe spiSetup speedHz irq = some d) (es : List PmEvent) :
    ¬ (run (PmDevice.step spiSetup) d es).Preserves (probeConfig spiSetup speedHz) := by
  intro hpreserves
  have hcycling := run_invariant (cycling_step spiSetup) (probe_resumes spiSetup speedHz irq h).1 es
  have honce := hcycling.once
  rw [hpreserves.balanced] at honce
  cases honce

/-- `spi_setup` on a controller that does 50 MHz at most, and that is what it
takes no speed for. -/
def fiftyMegahertz (c : SpiConfig) : SpiConfig :=
  if c.maxSpeedHz = 0 ∨ c.maxSpeedHz > 50000000#32 then { c with maxSpeedHz := 50000000#32 }
  else c

theorem setup_never_preserved_ten_megahertz :
    ¬ (run (PmDevice.step fiftyMegahertz)
      ⟨⟨0, 50000000#32⟩, 0, 0, 42, 0, 1, .active⟩ [.suspend, .resume]).Preserves
        (probeConfig fiftyMegahertz 10000000#32) :=
  setup_never_preserved fiftyMegahertz 10000000#32 42 _ (by decide) _

/-- Set up for 10 MHz, the device comes out of probe running at 50 MHz, and the
kernel has complained about the interrupt. -/
theorem probe_ten_megahertz :
    probeConfig fiftyMegahertz 10000000#32 = ⟨0, 10000000#32⟩ ∧
      ∃ d, apexBridgeProbe fiftyMegahertz 10000000#32 42 = some d ∧
        d.spi = ⟨0, 50000000#32⟩ ∧ d.unbalanced = 1 ∧ d.status = .active ∧
          ¬ d.Preserves (probeConfig fiftyMegahertz 10000000#32) := by
  refine ⟨by decide, ⟨⟨0, 50000000#32⟩, 0, 0, 42, 0, 1, .active⟩, by decide, rfl, rfl, rfl, ?_⟩
  intro h
  cases h.balanced

/-! ### The usage count -/

/-- The usage count, the open counter, and how many threads are where: in `open`
past the exchange, past a failed resume, past the reset of the counter; holding
an open handle; in `release` past the put; in the work handler. -/
structure PmRefs where
  usageCount : Int
  openCount : Nat
  claimed : Nat
  failed : Nat
  dropping : Nat
  handles : Nat
  closing : Nat
  works : Nat
deriving DecidableEq, Repr

/-- One statement of one thread. All ways out of the work handler lead through its put. -/
inductive PmRefEvent where
  | openCmpxchg
  | openGetSync (resumed : Bool)
  | openReset
  | openPutNoidle
  | releasePut
  | releaseReset
  | workGetSync
  | workPut
deriving DecidableEq, Repr

/-- `pm_runtime_get_sync` counts its caller even when the resume fails. -/
def PmRefs.step (s : PmRefs) : PmRefEvent → PmRefs
  | .openCmpxchg =>
      if s.openCount = 0 then { s with openCount := 1, claimed := s.claimed + 1 } else s
  | .openGetSync resumed =>
      if s.claimed = 0 then s
      else if resumed then
        { s with
          usageCount := s.usageCount + 1
          claimed := s.claimed - 1
          handles := s.handles + 1 }
      else
        { s with
          usageCount := s.usageCount + 1
          claimed := s.claimed - 1
          failed := s.failed + 1 }
  | .openReset =>
      if s.failed = 0 then s
      else { s with openCount := 0, failed := s.failed - 1, dropping := s.dropping + 1 }
  | .openPutNoidle =>
      if s.dropping = 0 then s
      else { s with usageCount := s.usageCount - 1, dropping := s.dropping - 1 }
  | .releasePut =>
      if s.handles = 0 then s
      else
        { s with
          usageCount := s.usageCount - 1
          handles := s.handles - 1
          closing := s.closing + 1 }
  | .releaseReset =>
      if s.closing = 0 then s else { s with openCount := 0, closing := s.closing - 1 }
  | .workGetSync => { s with usageCount := s.usageCount + 1, works := s.works + 1 }
  | .workPut =>
      if s.works = 0 then s
      else { s with usageCount := s.usageCount - 1, works := s.works - 1 }

/-- The end of a successful probe: `pm_runtime_get_sync`, and no put. -/
def PmRefs.probed : PmRefs := ⟨0 + 1, 0, 0, 0, 0, 0, 0, 0⟩

/-- One reference for each open handle and each execution of the work handler. -/
def PmRefs.Balanced (s : PmRefs) : Prop := s.usageCount = s.handles + s.works

/-- Who really holds the references: also the opens that failed and have not
dropped theirs, and probe. -/
def PmRefs.Held (s : PmRefs) : Prop :=
  s.usageCount = s.handles + s.works + s.failed + s.dropping + 1

theorem held_step (s : PmRefs) (e : PmRefEvent) (h : s.Held) : (s.step e).Held := by
  unfold PmRefs.Held at h ⊢
  cases e with
  | openCmpxchg | releaseReset =>
      dsimp only [PmRefs.step]
      split_ifs <;> exact h
  | openGetSync resumed =>
      dsimp only [PmRefs.step]
      split_ifs
      · exact h
      · dsimp only
        omega
      · dsimp only
        omega
  | openReset | openPutNoidle | releasePut | workPut =>
      dsimp only [PmRefs.step]
      split_ifs
      · exact h
      · dsimp only
        omega
  | workGetSync =>
      dsimp only [PmRefs.step]
      omega

/-- In no state of any run do the references balance, and the count never
returns to zero. -/
theorem refs_never_balanced (es : List PmRefEvent) :
    ¬ (run PmRefs.step PmRefs.probed es).Balanced ∧
      0 < (run PmRefs.step PmRefs.probed es).usageCount := by
  have hheld := run_invariant held_step (s := PmRefs.probed) rfl es
  unfold PmRefs.Held at hheld
  unfold PmRefs.Balanced
  constructor
  · omega
  · omega

/-- Opened, served one interrupt and closed: one reference is left. -/
theorem idle_and_closed_counted :
    let s := run PmRefs.step PmRefs.probed
      [.openCmpxchg, .openGetSync true, .workGetSync, .workPut, .releasePut,
        .releaseReset]
    s.openCount = 0 ∧ s.handles = 0 ∧ s.works = 0 ∧ s.usageCount = 1 ∧ ¬ s.Balanced := by
  refine ⟨rfl, rfl, rfl, rfl, ?_⟩
  change ¬ ((1 : Int) = (0 : Nat) + (0 : Nat))
  omega

end GhostBlade.Host
