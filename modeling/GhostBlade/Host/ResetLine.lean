import GhostBlade.Host.Monitor
import GhostBlade.Library.Run

/-!
The life of the driver on its device, as far as the reset of the MCU goes:
`apex_bridge_probe` takes the lines and releases the reset, the operations may
pulse it, `apex_bridge_remove` asserts it again. The release undoes what an
assertion does; the assertion does not undo what the release does, so HOST_RDY
and `APEX_FLAG_MCU_READY` outlive it.
-/

namespace GhostBlade.Host

open GhostBlade.Library GhostBlade.Protocol

/-- What the kernel answers during a probe: the results of everything before
`apex_gpio_init` and of everything behind it, and what it says of the lines. -/
structure ProbeEnv where
  before : Int
  gpioValid : Bool
  /-- `devm_gpio_request_one` for INT_REQ, HOST_RDY and MCU_RESET. -/
  gpioRequest : Nat → Int
  behind : Int

/-- A device fresh from `kzalloc`, on lines that stand as they do. -/
def Dev.allocated (gpioMcuReset gpioHostRdy : Bool) : Dev where
  rxFifo := .empty
  lastTelem := List.replicate telemetrySize 0
  flags := ⟨false, false, false, false⟩
  spiErrCount := 0
  brownoutCount := 0
  brownoutPrevFlag := false
  opened := false
  gpioMcuReset := gpioMcuReset
  gpioHostRdy := gpioHostRdy
  sgEngine := ⟨.idle, 0, 0, 0, false, 0, 0, 0, 0, 0, 0, 0⟩
  txFifo := .empty

/-- `apex_gpio_init`. -/
def apexGpioInit (env : ProbeEnv) (dev : Dev) : Int × Dev :=
  if env.gpioValid = false then (-einval, dev)
  else if env.gpioRequest 0 ≠ 0 then (env.gpioRequest 0, dev)
  else if env.gpioRequest 1 ≠ 0 then (env.gpioRequest 1, dev)
  else
    -- `GPIOF_OUT_INIT_HIGH`
    let dev := { dev with gpioHostRdy := true }
    if env.gpioRequest 2 ≠ 0 then (env.gpioRequest 2, dev)
    else
      -- `GPIOF_OUT_INIT_LOW`
      (0, { dev with gpioMcuReset := false, flags := { dev.flags with mcuReset := true } })

inductive DriverPhase where
  | absent
  | bound
  | removed
deriving DecidableEq

/-- The driver and its device; of a device that is absent only the lines count,
of a removed one what `apex_bridge_remove` left. -/
structure Binding where
  phase : DriverPhase
  dev : Dev

/-- `apex_bridge_probe`. -/
def Binding.apexBridgeProbe (env : ProbeEnv) (lines : Dev) : Int × Binding :=
  let dev := Dev.allocated lines.gpioMcuReset lines.gpioHostRdy
  if env.before ≠ 0 then (env.before, ⟨.absent, dev⟩)
  else
    let (ret, dev) := apexGpioInit env dev
    if ret ≠ 0 then (ret, ⟨.absent, dev⟩)
    else if env.behind ≠ 0 then (env.behind, ⟨.absent, dev⟩)
    else (0, ⟨.bound, apexMcuResetRelease dev⟩)

/-- `apex_bridge_remove`. -/
def Binding.apexBridgeRemove (env : Env) (dev : Dev) : Binding :=
  ⟨.removed, (apexSgEngineStop env (apexMcuResetAssert dev)).dev⟩

inductive BindingEvent where
  | probe (env : ProbeEnv)
  | op (op : DriverOp) (env : Env)
  | remove (env : Env)

/-- A probe reaches a driver without a device, everything else one that has it. -/
def Binding.step (s : Binding) : BindingEvent → Binding
  | .probe env => if s.phase = .bound then s else (Binding.apexBridgeProbe env s.dev).2
  | .op op env => if s.phase = .bound then { s with dev := (driverOp op env s.dev).dev } else s
  | .remove env => if s.phase = .bound then Binding.apexBridgeRemove env s.dev else s

/-- Before the first probe: both lines are pulled up. -/
def Binding.init : Binding := ⟨.absent, Dev.allocated true true⟩

/-- The flags stand for the lines: not ready and in reset at once, in reset when
the line is low, ready when it is high and HOST_RDY is asserted. -/
structure ResetLines.Faithful (l : ResetLines) : Prop where
  notBoth : ¬ (l.mcuReady = true ∧ l.mcuReset = true)
  reset : l.mcuReset = true ↔ l.gpioMcuReset = false
  ready : l.mcuReady = true ↔ l.gpioMcuReset = true ∧ l.gpioHostRdy = false

/-- The flags of a device stand for the lines, and the host is never ready for
an MCU in reset. -/
def Binding.Faithful (s : Binding) : Prop :=
  (s.phase ≠ .absent → s.dev.resetLines.Faithful) ∧
    ¬ (s.dev.gpioMcuReset = false ∧ s.dev.gpioHostRdy = false)

/-- The event does not put a running MCU into reset. -/
def Binding.KeepsRunning (s : Binding) : BindingEvent → Prop
  | .probe _ => True
  | .op op env =>
      s.phase = .bound → ∀ resetAssert, resetRequest op env = some resetAssert → resetAssert = 0
  | .remove _ => s.phase ≠ .bound

/-- The lines and flags of a running MCU. -/
def ResetLines.up : ResetLines := ⟨true, false, true, false⟩

theorem up_faithful : ResetLines.up.Faithful where
  notBoth := by decide
  reset := by decide
  ready := by decide

theorem mcuReset_release (dev : Dev) : (dev.mcuReset 0).resetLines = .up := rfl

/-- With HOST_RDY asserted, a reset leaves the host ready for an MCU in reset. -/
theorem mcuReset_assert {dev : Dev} {b : Byte} (h : b ≠ 0)
    (hup : dev.resetLines = .up) : (dev.mcuReset b).resetLines =
      ⟨true, true, false, false⟩ := by
  have hready : dev.flags.mcuReady = true := congrArg ResetLines.mcuReady hup
  have hrdy : dev.gpioHostRdy = false := congrArg ResetLines.gpioHostRdy hup
  rw [Dev.mcuReset, if_pos h]
  simp only [Dev.resetLines, apexMcuResetAssert, hready, hrdy]

/-- `apex_gpio_init` holds the MCU in reset, or it fails and has touched at most
HOST_RDY. -/
theorem apexGpioInit_cases (env : ProbeEnv) (dev : Dev) :
    apexGpioInit env dev =
        (0, { dev with
          gpioHostRdy := true
          gpioMcuReset := false
          flags := { dev.flags with mcuReset := true } }) ∨
      (apexGpioInit env dev).1 ≠ 0 ∧ ((apexGpioInit env dev).2.gpioHostRdy = true ∨
        (apexGpioInit env dev).2 = dev) := by
  unfold apexGpioInit
  dsimp only
  split_ifs with hvalid hint hrdy hreset
  · exact .inr ⟨show -einval ≠ 0 by decide, .inr rfl⟩
  · exact .inr ⟨hint, .inr rfl⟩
  · exact .inr ⟨hrdy, .inr rfl⟩
  · exact .inr ⟨hreset, .inl rfl⟩
  · exact .inl rfl

/-- A probe that succeeds leaves the device of `Dev.probed`; one that fails
leaves no device, and the reset line low only with HOST_RDY high. -/
theorem probe_cases (env : ProbeEnv) (lines : Dev) :
    ((Binding.apexBridgeProbe env lines).2 = ⟨.bound, Dev.probed⟩) ∨
      ∃ dev : Dev, (Binding.apexBridgeProbe env lines).2 = ⟨.absent, dev⟩ ∧
        (dev.gpioHostRdy = true ∨
          dev.gpioMcuReset = lines.gpioMcuReset ∧ dev.gpioHostRdy = lines.gpioHostRdy) := by
  unfold Binding.apexBridgeProbe
  by_cases hbefore : env.before ≠ 0
  · rw [if_pos hbefore]
    exact .inr ⟨_, rfl, .inr ⟨rfl, rfl⟩⟩
  · rw [if_neg hbefore]
    rcases apexGpioInit_cases env (Dev.allocated lines.gpioMcuReset lines.gpioHostRdy) with
      hinit | ⟨hfailed, hlines⟩
    · rw [hinit]
      dsimp only
      rw [if_neg (not_not.mpr rfl)]
      by_cases hbehind : env.behind ≠ 0
      · rw [if_pos hbehind]
        exact .inr ⟨_, rfl, .inl rfl⟩
      · rw [if_neg hbehind]
        exact .inl rfl
    · dsimp only
      rw [if_pos hfailed]
      refine .inr ⟨_, rfl, hlines.imp_right fun hsame => ?_⟩
      rw [hsame]
      exact ⟨rfl, rfl⟩

/-- The invariant: a bound driver has its MCU running, and no other leaves the
host ready for an MCU in reset. -/
structure Binding.Running (s : Binding) : Prop where
  bound : s.phase = .bound → s.dev.resetLines = .up
  removed : s.phase ≠ .removed
  lines : ¬ (s.dev.gpioMcuReset = false ∧ s.dev.gpioHostRdy = false)

theorem Binding.Running.faithful {s : Binding} (h : s.Running) : s.Faithful := by
  refine ⟨?_, h.lines⟩
  intro hpresent
  have hbound : s.phase = .bound := by
    cases hphase : s.phase with
    | absent => exact absurd hphase hpresent
    | bound => rfl
    | removed => exact absurd hphase h.removed
  rw [h.bound hbound]
  exact up_faithful

theorem running_of_up {dev : Dev} (h : dev.resetLines = .up) : Binding.Running ⟨.bound, dev⟩ where
  bound := fun _ => h
  removed := by simp
  lines := by
    rintro ⟨hlow, -⟩
    have hhigh : dev.gpioMcuReset = true := congrArg ResetLines.gpioMcuReset h
    rw [hhigh] at hlow
    exact absurd hlow (by decide)

theorem running_of_absent {dev : Dev}
    (h : ¬ (dev.gpioMcuReset = false ∧ dev.gpioHostRdy = false)) :
    Binding.Running ⟨.absent, dev⟩ where
  bound := fun hphase => nomatch hphase
  removed := by simp
  lines := h

theorem init_running : Binding.init.Running :=
  running_of_absent (by simp [Dev.allocated])

/-- A step that keeps the MCU running. -/
theorem Binding.Running.step {s : Binding} (h : s.Running) (e : BindingEvent)
    (he : s.KeepsRunning e) : (s.step e).Running := by
  obtain ⟨phase, dev⟩ := s
  cases e with
  | probe env =>
      unfold Binding.step
      dsimp only
      split_ifs
      · exact h
      · rcases probe_cases env dev with hok | ⟨dev', hfailed, hhigh | ⟨hreset, hrdy⟩⟩
        · rw [hok]
          exact running_of_up rfl
        · rw [hfailed]
          apply running_of_absent
          rw [hhigh]
          simp
        · rw [hfailed]
          apply running_of_absent
          rw [hreset, hrdy]
          exact h.lines
  | op op env =>
      unfold Binding.step
      dsimp only
      split_ifs with hbound
      · obtain rfl : phase = .bound := hbound
        apply running_of_up
        rw [(driverOp_monitor env dev op).1]
        cases hreq : resetRequest op env with
        | none => exact h.bound rfl
        | some resetAssert =>
            rw [he rfl resetAssert hreq]
            exact mcuReset_release dev
      · exact h
  | remove env =>
      rw [Binding.step, if_neg he]
      exact h

/-- Lines and flags as they are once a running MCU is put into reset. -/
theorem not_faithful_of_reset {s : Binding}
    (h : s.dev.resetLines = ⟨true, true, false, false⟩) : ¬ s.Faithful := by
  rintro ⟨-, hlines⟩
  exact hlines ⟨congrArg ResetLines.gpioMcuReset h, congrArg ResetLines.gpioHostRdy h⟩

/-- Only a step that keeps the MCU running keeps the flags faithful. -/
theorem Binding.Running.keeps {s : Binding} (h : s.Running) (e : BindingEvent)
    (hnext : (s.step e).Faithful) : s.KeepsRunning e := by
  obtain ⟨phase, dev⟩ := s
  cases e with
  | probe env => trivial
  | op op env =>
      intro hbound resetAssert hreq
      obtain rfl : phase = .bound := hbound
      by_contra hne
      refine not_faithful_of_reset ?_ hnext
      rw [Binding.step, if_pos rfl, (driverOp_monitor env dev op).1, hreq]
      exact mcuReset_assert hne (h.bound rfl)
  | remove env =>
      intro hbound
      obtain rfl : phase = .bound := hbound
      refine not_faithful_of_reset ?_ hnext
      rw [Binding.step, if_pos rfl, Binding.apexBridgeRemove]
      have hassert := mcuReset_assert (b := 1) (by decide) (h.bound rfl)
      have hstop := apexSgEngineStop_sends env (apexMcuResetAssert dev)
      exact hstop.unmonitored.resetLines.trans hassert

/-- Readiness and reset are told truthfully after every request of a run exactly
when none of them puts a running MCU into reset. -/
theorem reset_flags_faithful_iff (es : List BindingEvent) :
    (∀ us, us <+: es → (run Binding.step .init us).Faithful) ↔
      Along Binding.step Binding.KeepsRunning .init es :=
  property_iff_along (fun _ h => h.faithful) (fun _ e h => h.step e) (fun _ e h => h.keeps e)
    init_running es

def ProbeEnv.ok : ProbeEnv := ⟨0, true, fun _ => 0, 0⟩

/-- A user resets the MCU: the driver says it is ready and in reset, and HOST_RDY
stays asserted. -/
theorem ready_in_reset :
    let s := run Binding.step .init
      [.probe .ok, .op (.ioctl apexIocMcuReset fun _ => 1) (.ok [])]
    ¬ s.Faithful ∧ s.phase = .bound ∧ s.dev.flags.mcuReady = true ∧
      s.dev.flags.mcuReset = true ∧ s.dev.gpioMcuReset = false ∧ s.dev.gpioHostRdy = false := by
  intro s
  exact ⟨not_faithful_of_reset rfl, rfl, rfl, rfl, rfl, rfl⟩

end GhostBlade.Host
