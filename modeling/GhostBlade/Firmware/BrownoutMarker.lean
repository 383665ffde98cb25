import GhostBlade.Library.Latch
import GhostBlade.Firmware.MainLoop

/-!
The brownout marker in watchdog scratch register 7. The main loop sets it while
the battery is in a brownout; a reset clears the variables and keeps the scratch
registers, and the boot reads the marker and clears it. The flag of the
hysteresis falls when the battery recovers, and the marker does not.
-/

namespace GhostBlade.Firmware

open GhostBlade.Library

/-- The scratch register of the watchdog that holds the marker. -/
structure Watchdog where
  scratch7 : BitVec 32
deriving DecidableEq

def wdScratchBodMagic : BitVec 32 := 0xB047B00F#32

def watchdogMarkBrownout (_ : Watchdog) : Watchdog := ⟨wdScratchBodMagic⟩

def watchdogCheckBrownout (w : Watchdog) : Bool × Watchdog :=
  if w.scratch7 = wdScratchBodMagic then (true, ⟨0⟩) else (false, w)

structure MarkedMcu where
  fw : Mcu
  watchdog : Watchdog

/-- The battery voltage the brownout check of the loop evaluates, if the next
event is that check. -/
def evaluatedReading (fw : Mcu) : LinkedEvent → Option (BitVec 16)
  | .interrupt _ _ => none
  | .main s =>
      if fw.main.pc = .brownout ∧ fw.main.batteryMonitorReady = true then some s.vbatMv else none

/-- The linked firmware with the watchdog: an evaluation that finds a brownout
marks it. -/
def markedStep (m : MarkedMcu) (e : LinkedEvent) : MarkedMcu where
  fw := linkedStep m.fw e
  watchdog :=
    match evaluatedReading m.fw e with
    | none => m.watchdog
    | some vbat =>
        if batteryIsBrownout vbat m.fw.main.brownoutActive then watchdogMarkBrownout m.watchdog
        else m.watchdog

/-- A boot: the initial values of the variables, and what the check finds. -/
def markedBoot (batteryMonitorReady cc1101Ready st25r3916Ready : Bool) (w : Watchdog) :
    Bool × MarkedMcu :=
  let (brownout, w) := watchdogCheckBrownout w
  (brownout, ⟨boot batteryMonitorReady cc1101Ready st25r3916Ready, w⟩)

/-! ### The evaluations of a run -/

/-- The readings evaluated during a run, in order. -/
def evaluatedReadings (m : MarkedMcu) (es : List LinkedEvent) : List (BitVec 16) :=
  observe markedStep (fun m e => (evaluatedReading m.fw e).toList) m es

/-- The hysteresis over a sequence of readings. -/
def brownoutAfter (readings : List (BitVec 16)) : Bool :=
  run (fun active vbat => batteryIsBrownout vbat active) false readings

/-- What the evaluations keep: the flag, and whether the marker is set. -/
structure BrownoutView where
  active : Bool
  marked : Bool
deriving DecidableEq

def BrownoutView.evaluate (v : BrownoutView) (vbat : BitVec 16) : BrownoutView where
  active := batteryIsBrownout vbat v.active
  marked := v.marked || batteryIsBrownout vbat v.active

def MarkedMcu.view (m : MarkedMcu) : BrownoutView where
  active := m.fw.main.brownoutActive
  marked := m.watchdog.scratch7 == wdScratchBodMagic

theorem linkedStep_brownoutActive (fw : Mcu) (e : LinkedEvent) :
    (linkedStep fw e).main.brownoutActive =
      match evaluatedReading fw e with
      | none => fw.main.brownoutActive
      | some vbat => batteryIsBrownout vbat fw.main.brownoutActive := by
  cases e with
  | interrupt rxFifo tnf => rfl
  | main s =>
      unfold linkedStep mainStep evaluatedReading
      cases hpc : fw.main.pc with
      | process => rfl
      | tick => rfl
      | battery =>
          dsimp only
          split <;> rfl
      | telemetry =>
          dsimp only
          split <;> rfl
      | brownout =>
          cases hready : fw.main.batteryMonitorReady <;> simp

/-- A step of the firmware is an evaluation or changes neither. -/
theorem view_step (m : MarkedMcu) (e : LinkedEvent) :
    (markedStep m e).view =
      match evaluatedReading m.fw e with
      | none => m.view
      | some vbat => m.view.evaluate vbat := by
  have hactive := linkedStep_brownoutActive m.fw e
  cases hreading : evaluatedReading m.fw e with
  | none => simp [MarkedMcu.view, markedStep, hreading, hactive]
  | some vbat =>
      rw [hreading] at hactive
      cases hbrownout : batteryIsBrownout vbat m.fw.main.brownoutActive <;>
        simp [MarkedMcu.view, markedStep, hreading, hactive, hbrownout, BrownoutView.evaluate,
          watchdogMarkBrownout]

/-- The firmware's runs are runs over their readings. -/
theorem view_run (m : MarkedMcu) (es : List LinkedEvent) :
    (run markedStep m es).view = run BrownoutView.evaluate m.view (evaluatedReadings m es) := by
  induction es generalizing m with
  | nil => rfl
  | cons e es ih =>
      have hreadings : evaluatedReadings m (e :: es) =
          (evaluatedReading m.fw e).toList ++ evaluatedReadings (markedStep m e) es := by
        rfl
      rw [run_cons, ih, hreadings, run_append, view_step]
      cases evaluatedReading m.fw e <;> rfl

/-! ### Flag and marker by their history -/

def Sagged (vbat : BitVec 16) : Prop := vbat < 2800#16

def Unrecovered (vbat : BitVec 16) : Prop := vbat < 3000#16

theorem batteryIsBrownout_iff (vbat : BitVec 16) (active : Bool) :
    batteryIsBrownout vbat active = true ↔ Sagged vbat ∨ Unrecovered vbat ∧ active = true := by
  unfold batteryIsBrownout Sagged Unrecovered
  cases active with
  | false => simp
  | true =>
      simp only [if_true, decide_eq_true_eq, and_true]
      bv_omega

theorem brownoutAfter_iff (readings : List (BitVec 16)) :
    brownoutAfter readings = true ↔ Since Unrecovered Sagged readings := by
  exact latch (P := fun active => active = true)
    (fun active vbat => batteryIsBrownout_iff vbat active) (by decide) readings

theorem view_active (v : BrownoutView) (readings : List (BitVec 16)) :
    (run BrownoutView.evaluate v readings).active =
      run (fun active vbat => batteryIsBrownout vbat active) v.active readings := by
  induction readings generalizing v with
  | nil => rfl
  | cons vbat readings ih => exact ih (v.evaluate vbat)

/-- The marker is set by the first sag and stays. -/
theorem view_marked_iff (readings : List (BitVec 16)) :
    (run BrownoutView.evaluate ⟨false, false⟩ readings).marked = true ↔
      ∃ vbat ∈ readings, Sagged vbat := by
  have hmarks (v : BrownoutView) (vbat : BitVec 16) (hv : v.active = true → v.marked = true) :
      ((v.evaluate vbat).active = true → (v.evaluate vbat).marked = true) ∧
        ((v.evaluate vbat).marked = true ↔ Sagged vbat ∨ True ∧ v.marked = true) := by
    have hiff := batteryIsBrownout_iff vbat v.active
    unfold BrownoutView.evaluate
    cases hactive : v.active <;> cases hmarked : v.marked <;> simp_all
  rw [← since_true]
  apply latch_along (I := fun v : BrownoutView => v.active = true → v.marked = true)
    (P := fun v : BrownoutView => v.marked = true) (C := fun _ _ => True)
  · exact fun v vbat hv _ => (hmarks v vbat hv).1
  · exact fun v vbat hv _ => (hmarks v vbat hv).2
  · exact fun h => h
  · decide
  · exact along_iff.mpr fun _ _ _ _ => trivial

/-- After a boot the marker is clear. -/
theorem markedBoot_view (batteryMonitorReady cc1101Ready st25r3916Ready : Bool) (w : Watchdog) :
    (markedBoot batteryMonitorReady cc1101Ready st25r3916Ready w).2.view = ⟨false, false⟩ := by
  unfold markedBoot watchdogCheckBrownout
  split_ifs with hmarked
  · rfl
  · simp [MarkedMcu.view, boot, hmarked]

/-- The boot after a run reports a brownout exactly when one was active at the
last evaluation, if and only if the battery never sagged since the previous boot
or has not recovered from its last sag. -/
theorem marker_tells_brownout_iff (ready ready' : Bool × Bool × Bool) (w : Watchdog)
    (es : List LinkedEvent) :
    let start := (markedBoot ready.1 ready.2.1 ready.2.2 w).2
    let last := run markedStep start es
    let readings := evaluatedReadings start es
    ((markedBoot ready'.1 ready'.2.1 ready'.2.2 last.watchdog).1 = true ↔
        last.fw.main.brownoutActive = true) ↔
      (∀ vbat ∈ readings, ¬ Sagged vbat) ∨ Since Unrecovered Sagged readings := by
  intro start last readings
  have hview : last.view = run BrownoutView.evaluate ⟨false, false⟩ readings := by
    rw [view_run, markedBoot_view]
  have hfound : (markedBoot ready'.1 ready'.2.1 ready'.2.2 last.watchdog).1 = true ↔
      last.view.marked = true := by
    unfold markedBoot watchdogCheckBrownout
    split_ifs with hmarked <;> simp [MarkedMcu.view, hmarked]
  have hactive : last.fw.main.brownoutActive = brownoutAfter readings := by
    have hflag := view_active ⟨false, false⟩ readings
    rwa [← hview] at hflag
  rw [hfound, hactive, hview, view_marked_iff, brownoutAfter_iff]
  constructor
  · intro h
    by_cases hsagged : ∃ vbat ∈ readings, Sagged vbat
    · exact .inr (h.mp hsagged)
    · exact .inl fun vbat hmem hsag => hsagged ⟨vbat, hmem, hsag⟩
  · rintro (hnever | ⟨us, vbat, vs, heq, hsag, hvs⟩)
    · constructor
      · rintro ⟨vbat, hmem, hsag⟩
        exact absurd hsag (hnever vbat hmem)
      · rintro ⟨us, vbat, vs, heq, hsag, -⟩
        exact absurd hsag (hnever vbat (by simp [heq]))
    · exact iff_of_true ⟨vbat, by simp [heq], hsag⟩ ⟨us, vbat, vs, heq, hsag, hvs⟩

/-- Two passes of the loop, with 2.7 V at the first evaluation and 3.7 V at the
second. -/
def recoveredSag : List LinkedEvent :=
  List.replicate 5 (.main ⟨0, 2700, 0, 0, 0⟩) ++ List.replicate 5 (.main ⟨0, 3700, 0, 0, 0⟩)

/-- The sag is over, and the boot after a reset still reports a brownout. -/
theorem marker_outlives_brownout :
    let last := run markedStep (markedBoot true false false ⟨0⟩).2 recoveredSag
    ¬ ((markedBoot true false false last.watchdog).1 = true ↔
      last.fw.main.brownoutActive = true) := by
  decide +kernel

end GhostBlade.Firmware
