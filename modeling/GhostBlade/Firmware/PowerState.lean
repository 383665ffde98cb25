import Mathlib.Tactic
import GhostBlade.Library.Latch
import GhostBlade.Firmware.MainLoop

/-!
The power state machine of the firmware (`battery_monitor.c`). Every sample of
voltage, temperature and activity drives the brownout flag with its hysteresis
and the power state that reads it. Both are latches, and their state after any
run is read off the samples alone.
-/

namespace GhostBlade.Firmware

open GhostBlade.Library

inductive PowerState where
  | active
  | idle
  | sleep
  | shutdown
deriving DecidableEq, Repr

/-- The arguments of one call of `power_state_update`; the temperature is signed. -/
structure PowerSample where
  vbatMv : BitVec 16
  tempDc10 : BitVec 16
  hasActivity : Bool
deriving DecidableEq, Repr

structure PowerMonitor where
  currentPowerState : PowerState
  brownoutFlag : Bool
deriving DecidableEq, Repr

/-- The initial values of the two static variables. -/
def PowerMonitor.boot : PowerMonitor := ⟨.active, false⟩

def batteryIsLow (vbatMv : BitVec 16) : Bool := decide (vbatMv < 3300#16)

def batteryIsCritical (vbatMv : BitVec 16) : Bool := decide (vbatMv < 3000#16)

def temperatureIsCritical (tempDc10 : BitVec 16) : Bool := (1050#16).slt tempDc10

/-- `power_state_update`; it returns the new power state. -/
def powerStateUpdate (m : PowerMonitor) (x : PowerSample) : PowerMonitor :=
  let isBrownout := batteryIsBrownout x.vbatMv m.brownoutFlag
  let isCritical := batteryIsCritical x.vbatMv
  let isOvertempCrit := temperatureIsCritical x.tempDc10
  let isLowBatt := batteryIsLow x.vbatMv
  let state :=
    match m.currentPowerState with
    | .active =>
        if isCritical || isBrownout || isOvertempCrit then .shutdown
        else if isLowBatt && !x.hasActivity then .sleep
        else .active
    | .idle =>
        if isCritical || isBrownout || isOvertempCrit then .shutdown
        else if isLowBatt then .sleep
        else if x.hasActivity then .active
        else .idle
    | .sleep =>
        if isCritical || isBrownout || isOvertempCrit then .shutdown
        else if x.hasActivity then .active
        else .sleep
    | .shutdown => .shutdown
  ⟨state, isBrownout⟩

/-! ### What a sample says -/

/-- Below the voltage that shuts down, or too hot. -/
def PowerSample.Critical (x : PowerSample) : Prop :=
  x.vbatMv < 3000#16 ∨ (1050#16).slt x.tempDc10

/-- Low voltage and no activity. -/
def PowerSample.QuietLow (x : PowerSample) : Prop :=
  x.vbatMv < 3300#16 ∧ x.hasActivity = false

def PowerSample.Quiet (x : PowerSample) : Prop := x.hasActivity = false

def PowerSample.Brownout (x : PowerSample) : Prop := x.vbatMv < 2800#16

/-- Between the two thresholds of the brownout flag. -/
def PowerSample.Undecided (x : PowerSample) : Prop := 2800#16 ≤ x.vbatMv ∧ x.vbatMv < 3000#16

/-! ### What one sample does -/

theorem flag_step (m : PowerMonitor) (x : PowerSample) :
    (powerStateUpdate m x).brownoutFlag = true ↔
      x.Brownout ∨ x.Undecided ∧ m.brownoutFlag = true := by
  have hword := x.vbatMv.isLt
  change batteryIsBrownout x.vbatMv m.brownoutFlag = true ↔ _
  unfold PowerSample.Brownout PowerSample.Undecided
  rw [batteryIsBrownout]
  cases m.brownoutFlag with
  | false => simp
  | true =>
      simp only [if_true, decide_eq_true_eq, and_true]
      bv_omega

/-- A brownout is below the critical voltage, so the flag never decides alone. -/
theorem shuts_down (m : PowerMonitor) (x : PowerSample) :
    (batteryIsCritical x.vbatMv || batteryIsBrownout x.vbatMv m.brownoutFlag ||
      temperatureIsCritical x.tempDc10) = true ↔ x.Critical := by
  have hbrownout : batteryIsBrownout x.vbatMv m.brownoutFlag = true → x.vbatMv < 3000#16 := by
    intro hflag
    rcases (flag_step m x).mp hflag with hlow | ⟨⟨-, hlow⟩, -⟩
    · exact BitVec.lt_trans hlow (by decide)
    · exact hlow
  simp only [Bool.or_eq_true, batteryIsCritical, decide_eq_true_eq, temperatureIsCritical]
  unfold PowerSample.Critical
  constructor
  · rintro ((hcritical | hflag) | hhot)
    · exact .inl hcritical
    · exact .inl (hbrownout hflag)
    · exact .inr hhot
  · rintro (hcritical | hhot)
    · exact .inl (.inl hcritical)
    · exact .inr hhot

theorem shutdown_step (m : PowerMonitor) (x : PowerSample) :
    (powerStateUpdate m x).currentPowerState = .shutdown ↔
      x.Critical ∨ True ∧ m.currentPowerState = .shutdown := by
  rw [← shuts_down m x, powerStateUpdate]
  dsimp only
  generalize (batteryIsCritical x.vbatMv || batteryIsBrownout x.vbatMv m.brownoutFlag ||
    temperatureIsCritical x.tempDc10) = down
  cases down with
  | true => cases m.currentPowerState <;> simp
  | false =>
      cases m.currentPowerState with
      | active => cases batteryIsLow x.vbatMv <;> cases x.hasActivity <;> simp
      | idle => cases batteryIsLow x.vbatMv <;> cases x.hasActivity <;> simp
      | sleep => cases x.hasActivity <;> simp
      | shutdown => simp

/-- The states a run without `power_state_set` can be in. -/
def PowerMonitor.Awake (m : PowerMonitor) : Prop :=
  m.currentPowerState = .active ∨ m.currentPowerState = .sleep

theorem awake_step (m : PowerMonitor) (x : PowerSample) (h : m.Awake) (hx : ¬ x.Critical) :
    (powerStateUpdate m x).Awake ∧
      ((powerStateUpdate m x).currentPowerState = .sleep ↔
        x.QuietLow ∨ x.Quiet ∧ m.currentPowerState = .sleep) := by
  rw [← shuts_down m x, Bool.not_eq_true] at hx
  unfold PowerMonitor.Awake PowerSample.QuietLow PowerSample.Quiet powerStateUpdate
  rcases h with hm | hm
  · simp only [hm, hx]
    rw [← decide_eq_true_eq (p := x.vbatMv < 3300#16), ← batteryIsLow]
    cases batteryIsLow x.vbatMv <;> cases x.hasActivity <;> simp
  · simp only [hm, hx]
    cases x.hasActivity <;> simp

/-! ### Whole runs -/

theorem shutdown_iff (xs : List PowerSample) :
    (run powerStateUpdate .boot xs).currentPowerState = .shutdown ↔ ∃ x ∈ xs, x.Critical := by
  rw [← since_true]
  exact latch (P := fun m : PowerMonitor => m.currentPowerState = .shutdown) shutdown_step
    (by simp [PowerMonitor.boot]) xs

/-- A run of samples none of which shuts down. -/
theorem awake_iff {xs : List PowerSample} (h : ∀ x ∈ xs, ¬ x.Critical) :
    (run powerStateUpdate .boot xs).Awake ∧
      ((run powerStateUpdate .boot xs).currentPowerState = .sleep ↔
        Since PowerSample.Quiet PowerSample.QuietLow xs) := by
  have halong : Along powerStateUpdate (fun _ x => ¬ x.Critical) .boot xs := by
    rw [along_iff]
    rintro us x vs rfl
    exact h x (by simp)
  have hboot : PowerMonitor.boot.Awake := .inl rfl
  refine ⟨run_invariant_along (fun m x hm hx => (awake_step m x hm hx).1) hboot halong, ?_⟩
  exact latch_along (P := fun m : PowerMonitor => m.currentPowerState = .sleep)
    (fun m x hm hx => (awake_step m x hm hx).1) (fun m x hm hx => (awake_step m x hm hx).2)
    hboot (by simp [PowerMonitor.boot]) halong

/-- The state machine and its flag after any sequence of samples. -/
theorem power_state_history (xs : List PowerSample) :
    let m := run powerStateUpdate .boot xs
    (m.currentPowerState = .shutdown ↔ ∃ x ∈ xs, x.Critical) ∧
      (m.currentPowerState = .shutdown →
        ∀ ys, (run powerStateUpdate .boot (xs ++ ys)).currentPowerState = .shutdown) ∧
      (m.currentPowerState = .sleep ↔
        m.currentPowerState ≠ .shutdown ∧ Since PowerSample.Quiet PowerSample.QuietLow xs) ∧
      (m.currentPowerState = .active ↔
        m.currentPowerState ≠ .shutdown ∧ ¬ Since PowerSample.Quiet PowerSample.QuietLow xs) ∧
      m.currentPowerState ≠ .idle ∧
      (m.brownoutFlag = true ↔ Since PowerSample.Undecided PowerSample.Brownout xs) := by
  intro m
  have hshutdown : m.currentPowerState = .shutdown ↔ ∃ x ∈ xs, x.Critical := shutdown_iff xs
  have hflag : m.brownoutFlag = true ↔ Since PowerSample.Undecided PowerSample.Brownout xs :=
    latch (P := fun m : PowerMonitor => m.brownoutFlag = true) flag_step
      (by simp [PowerMonitor.boot]) xs
  have hstays (h : m.currentPowerState = .shutdown) (ys : List PowerSample) :
      (run powerStateUpdate .boot (xs ++ ys)).currentPowerState = .shutdown := by
    obtain ⟨x, hx, hcritical⟩ := hshutdown.mp h
    exact (shutdown_iff _).mpr ⟨x, List.mem_append_left ys hx, hcritical⟩
  by_cases hdown : m.currentPowerState = .shutdown
  · refine ⟨hshutdown, hstays, ?_, ?_, ?_, hflag⟩
    · simp [hdown]
    · simp [hdown]
    · simp [hdown]
  · have hcalm : ∀ x ∈ xs, ¬ x.Critical := by
      intro x hx hcritical
      exact hdown (hshutdown.mpr ⟨x, hx, hcritical⟩)
    obtain ⟨hawake, hsleep⟩ := awake_iff hcalm
    refine ⟨hshutdown, hstays, ?_, ?_, ?_, hflag⟩
    · rw [← hsleep]
      exact ⟨fun h => ⟨hdown, h⟩, And.right⟩
    · rw [← hsleep]
      rcases hawake with hm | hm
      · exact ⟨fun _ => ⟨hdown, by simp [hm]⟩, fun _ => hm⟩
      · exact ⟨fun h => by simp [m, hm] at h, fun h => absurd hm h.2⟩
    · rcases hawake with hm | hm
      · simp [m, hm]
      · simp [m, hm]

end GhostBlade.Firmware
