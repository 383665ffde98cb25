import Mathlib.Data.List.GetD
import GhostBlade.Library.Simulation
import GhostBlade.Firmware.LoopTiming
import GhostBlade.Firmware.WatchdogTimer

/-!
The firmware under its watchdog, through any number of resets. Below, the loop
writes registers and the counter runs; above, a supervisor knows how long ago the
loop was at its head, what caused the last reset and whether a brownout was seen.
Both show the same resets and the same diagnosis at every boot, and the scratch
registers that the firmware leaves alone survive every reset but the power's.
-/

namespace GhostBlade.Firmware

open GhostBlade.Library

/-- The firmware has not started its watchdog yet, runs its loop, or waits for the
reset that `watchdog_reboot` asked for. -/
inductive Stage where
  | down
  | looping
  | rebooting
deriving DecidableEq

inductive ResetCause where
  | power
  | timer
  | force
deriving DecidableEq

/-- The reason register behind a reset. -/
def ResetCause.reason : ResetCause → BitVec 32
  | .power => 0
  | .timer => wdReasonTimer
  | .force => wdReasonForce

/-- Time, the resets from outside, and what the firmware does. -/
inductive GuardEvent where
  | elapse (us : ℕ)
  | power
  | force
  | boot (batteryMonitorReady cc1101Ready st25r3916Ready : Bool)
  | run (e : LinkedEvent)
  | reboot (intentional : Bool)
  | disable (oneShot : Bool)
  | setScratch (index : BitVec 8) (val : BitVec 32)

/-- What the world sees: a reset by the watchdog, the two messages that a boot prints
or not, and what `watchdog_disable` returns. -/
inductive WatchdogReport where
  | reset
  | booted (brownout wdReset : Bool)
  | disabled (rc : Int)
deriving DecidableEq

/-- Whether a statement finds a brownout. -/
def Mcu.findsBrownout (fw : Mcu) (e : LinkedEvent) : Bool :=
  match evaluatedReading fw e with
  | none => false
  | some vbat => batteryIsBrownout vbat fw.main.brownoutActive

/-! ### With registers -/

structure GuardedMcu where
  fw : Mcu
  regs : WatchdogRegs
  stage : Stage

/-- The calls of `watchdog.c` in one statement of the loop. -/
def WatchdogRegs.serve (r : WatchdogRegs) (fw : Mcu) (e : LinkedEvent) : WatchdogRegs :=
  let r := if fw.reaches .process e then watchdogKick r else r
  if fw.findsBrownout e then r.markBrownout else r

def guardedStep (g : GuardedMcu) : GuardEvent → GuardedMcu
  | .elapse us =>
      if g.regs.expires us then { g with regs := g.regs.bite, stage := .down }
      else { g with regs := g.regs.countDown us }
  | .power => { g with regs := .powerOn, stage := .down }
  | .force => { g with regs := g.regs.force, stage := .down }
  | .boot batteryMonitorReady cc1101Ready st25r3916Ready =>
      if g.stage = .down then
        ⟨boot batteryMonitorReady cc1101Ready st25r3916Ready, g.regs.start.2, .looping⟩
      else g
  | .run e =>
      if g.stage = .looping then { g with fw := linkedStep g.fw e, regs := g.regs.serve g.fw e }
      else g
  | .reboot intentional =>
      if g.stage = .looping then
        { g with regs := watchdogReboot intentional g.regs, stage := .rebooting }
      else g
  | .disable oneShot =>
      if g.stage = .looping then { g with regs := (watchdogDisable oneShot g.regs).2 } else g
  | .setScratch index val =>
      if g.stage = .looping then { g with regs := watchdogSetScratch index val g.regs } else g

def GuardedMcu.reports (g : GuardedMcu) : GuardEvent → List WatchdogReport
  | .elapse us => if g.regs.expires us then [.reset] else []
  | .boot _ _ _ => if g.stage = .down then [.booted g.regs.start.1.1 g.regs.start.1.2] else []
  | .disable oneShot =>
      if g.stage = .looping then [.disabled (watchdogDisable oneShot g.regs).1] else []
  | .power => []
  | .force => []
  | .run _ => []
  | .reboot _ => []
  | .setScratch _ _ => []

/-! ### Without registers -/

/-- `sinceFed` is the time since the loop was at its head, or since the watchdog was
started or could not be disabled; after `limit` of it a guarded firmware stalls. -/
structure SupervisedMcu where
  fw : Mcu
  stage : Stage
  guarded : Bool
  limit : ℕ
  sinceFed : ℕ
  cause : ResetCause
  marked : Bool

/-- The loop has not been at its head for too long, or a reboot is due. -/
def SupervisedMcu.stalls (s : SupervisedMcu) (us : ℕ) : Bool :=
  match s.stage with
  | .down => false
  | .looping => s.guarded && s.limit ≤ s.sinceFed + us
  | .rebooting => 1 ≤ us

def supervisedStep (s : SupervisedMcu) : GuardEvent → SupervisedMcu
  | .elapse us =>
      if s.stalls us then { s with stage := .down, cause := .timer }
      else { s with sinceFed := s.sinceFed + us }
  | .power => { s with stage := .down, cause := .power, marked := false }
  | .force => { s with stage := .down, cause := .force }
  | .boot batteryMonitorReady cc1101Ready st25r3916Ready =>
      if s.stage = .down then
        { s with
          fw := boot batteryMonitorReady cc1101Ready st25r3916Ready
          stage := .looping
          guarded := true
          limit := 5000000
          sinceFed := 0
          marked := false }
      else s
  | .run e =>
      if s.stage = .looping then
        { s with
          fw := linkedStep s.fw e
          limit := if s.fw.reaches .process e then 5000000 else s.limit
          sinceFed := if s.fw.reaches .process e then 0 else s.sinceFed
          marked := s.marked || s.fw.findsBrownout e }
      else s
  | .reboot _ => if s.stage = .looping then { s with stage := .rebooting } else s
  | .disable oneShot =>
      if s.stage = .looping then
        if s.guarded && oneShot then { s with limit := 4294967294, sinceFed := 0 }
        else { s with guarded := false }
      else s
  | .setScratch index val =>
      if s.stage = .looping ∧ index = 7#8 then { s with marked := val = wdScratchBodMagic } else s

def SupervisedMcu.reports (s : SupervisedMcu) : GuardEvent → List WatchdogReport
  | .elapse us => if s.stalls us then [.reset] else []
  | .boot _ _ _ => if s.stage = .down then [.booted s.marked (s.cause = .timer)] else []
  | .disable oneShot =>
      if s.stage = .looping then [.disabled (if s.guarded && oneShot then -1 else 0)] else []
  | .power => []
  | .force => []
  | .run _ => []
  | .reboot _ => []
  | .setScratch _ _ => []

/-! ### What the functions do to the registers -/

namespace WatchdogRegs

variable (r : WatchdogRegs)

theorem withMarker_marker (w : Watchdog) : (r.withMarker w).marker = w := by
  simp [withMarker, marker]

/-- The check finds the marker and leaves it cleared. -/
theorem checkBrownout_eq :
    r.checkBrownout.1 = decide (r.marker.scratch7 = wdScratchBodMagic) ∧
      r.checkBrownout.2.marker.scratch7 ≠ wdScratchBodMagic ∧
        r.checkBrownout.2.reason = r.reason := by
  unfold checkBrownout watchdogCheckBrownout
  split_ifs with hfound
  · refine ⟨(decide_eq_true hfound).symm, ?_, rfl⟩
    rw [withMarker_marker]
    decide
  · refine ⟨(decide_eq_false hfound).symm, ?_, rfl⟩
    rwa [withMarker_marker]

theorem clearTimer_marker : r.clearTimer.marker = r.marker := by
  unfold clearTimer
  split_ifs <;> simp [marker]

theorem clearForce_marker : r.clearForce.marker = r.marker := by
  unfold clearForce
  split_ifs <;> rfl

theorem clearTimer_reason :
    r.clearTimer.reason = if r.reason &&& wdReasonTimer ≠ 0 then 0 else r.reason := by
  unfold clearTimer
  split_ifs <;> rfl

theorem clearForce_reason :
    r.clearForce.reason = if r.reason &&& wdReasonForce ≠ 0 then 0 else r.reason := by
  unfold clearForce
  split_ifs <;> rfl

/-- The two branches of `watchdog_init` leave no reason of a reset behind. -/
theorem cleared_reason (cause : ResetCause) (hcause : r.reason = cause.reason) :
    r.clearTimer.clearForce.reason = 0 := by
  rw [clearForce_reason, clearTimer_reason, hcause]
  cases cause <;> decide

/-- `watchdog_init` reports the timer's reason, clears the register and starts the
counter. -/
theorem watchdogInit_eq (cause : ResetCause) (hcause : r.reason = cause.reason) :
    (watchdogInit r).1 = decide (cause = .timer) ∧ (watchdogInit r).2.reason = 0 ∧
      (watchdogInit r).2.marker = r.marker ∧ (watchdogInit r).2.count = 5000000 := by
  refine ⟨?_, r.cleared_reason cause hcause, ?_, rfl⟩
  · change decide (r.reason &&& wdReasonTimer ≠ 0) = _
    rw [hcause]
    cases cause <;> decide
  · exact (clearForce_marker _).trans (clearTimer_marker _)

/-- What `main` does with the registers, and the two messages. -/
theorem start_eq (cause : ResetCause) (hcause : r.reason = cause.reason) :
    r.start.1 = (decide (r.marker.scratch7 = wdScratchBodMagic), decide (cause = .timer)) ∧
      r.start.2.reason = 0 ∧ r.start.2.marker.scratch7 ≠ wdScratchBodMagic ∧
        r.start.2.enabled = true ∧ r.start.2.count = 5000000 := by
  obtain ⟨hfound, hcleared, hreason⟩ := r.checkBrownout_eq
  obtain ⟨htimer, hzero, hmarker, hcount⟩ :=
    r.checkBrownout.2.watchdogInit_eq cause (hreason.trans hcause)
  have hctrl : r.start.2.ctrl = wdCtrlEnable ||| wdCtrlPauseJtag ||| wdCtrlPauseDbg0 |||
      (wdCtrlEnable ||| wdCtrlPauseDbg0 ||| wdCtrlPauseJtag) := rfl
  refine ⟨Prod.ext hfound htimer, hzero, ?_, ?_, hcount⟩
  · rw [← hmarker] at hcleared
    exact hcleared
  · rw [enabled, hctrl]
    decide

/-- The calls of one statement of the loop. -/
theorem serve_eq (fw : Mcu) (e : LinkedEvent) :
    (r.serve fw e).count = (if fw.reaches .process e then 5000000 else r.count) ∧
      (r.serve fw e).enabled = r.enabled ∧ (r.serve fw e).reason = r.reason ∧
        ((r.serve fw e).marker.scratch7 = wdScratchBodMagic ↔
          r.marker.scratch7 = wdScratchBodMagic ∨ fw.findsBrownout e = true) := by
  unfold serve
  cases fw.reaches .process e <;> cases fw.findsBrownout e
  · exact ⟨rfl, rfl, rfl, by simp⟩
  · refine ⟨rfl, rfl, rfl, ?_⟩
    simp [markBrownout, withMarker_marker, watchdogMarkBrownout]
  · refine ⟨rfl, rfl, rfl, ?_⟩
    simp [watchdogKick, watchdogFeed, load, marker]
  · refine ⟨rfl, rfl, rfl, ?_⟩
    simp [markBrownout, withMarker_marker, watchdogMarkBrownout]

theorem disable_false : watchdogDisable false r = (0, { r with ctrl := 0 }) := by
  simp [watchdogDisable]

/-- The enable bit that cannot be cleared. -/
theorem disable_true :
    watchdogDisable true r =
      if r.enabled then
        (-1, { r with ctrl := r.ctrl &&& wdCtrlEnable }.load 0xFFFFFFFE#32)
      else (0, { r with ctrl := r.ctrl &&& wdCtrlEnable }) := by
  have hkept : r.ctrl &&& wdCtrlEnable &&& wdCtrlEnable = r.ctrl &&& wdCtrlEnable := by
    rw [BitVec.and_assoc, BitVec.and_self]
  simp only [watchdogDisable, enabled, ↓reduceIte, hkept, decide_eq_true_eq]

theorem kept_enabled : ({ r with ctrl := r.ctrl &&& wdCtrlEnable } : WatchdogRegs).enabled =
    r.enabled := by
  rw [enabled, BitVec.and_assoc, BitVec.and_self, enabled]

/-- `watchdog_disable` fails on a watchdog that was enabled for good. -/
theorem disable_eq (oneShot : Bool) :
    (watchdogDisable oneShot r).1 = (if r.enabled && oneShot then -1 else 0) ∧
      (watchdogDisable oneShot r).2.enabled = (r.enabled && oneShot) ∧
        (r.enabled && oneShot → (watchdogDisable oneShot r).2.count = 4294967294) ∧
          (watchdogDisable oneShot r).2.reason = r.reason ∧
            (watchdogDisable oneShot r).2.scratch = r.scratch := by
  cases oneShot with
  | false =>
      rw [disable_false, Bool.and_false]
      exact ⟨rfl, by simp [enabled], nofun, rfl, rfl⟩
  | true =>
      rw [disable_true, Bool.and_true]
      split_ifs with henabled
      · exact ⟨rfl, r.kept_enabled, fun _ => rfl, rfl, rfl⟩
      · exact ⟨rfl, r.kept_enabled, fun hset => absurd hset henabled, rfl, rfl⟩

theorem reboot_eq (intentional : Bool) :
    (watchdogReboot intentional r).count = 1 ∧ (watchdogReboot intentional r).enabled = true ∧
      (watchdogReboot intentional r).reason = r.reason ∧
        (watchdogReboot intentional r).marker = r.marker := by
  have henable : (r.ctrl ||| wdCtrlEnable) &&& wdCtrlEnable ≠ 0 := by
    rw [BitVec.and_comm, BitVec.or_comm, BitVec.and_or_distrib_left]
    intro hzero
    have hbit := congrArg (·.getLsbD 0) hzero
    simp [wdCtrlEnable] at hbit
  cases intentional with
  | false => exact ⟨rfl, decide_eq_true henable, rfl, rfl⟩
  | true =>
      refine ⟨rfl, decide_eq_true henable, rfl, ?_⟩
      simp [watchdogReboot, load, marker]

theorem setScratch_eq (index : BitVec 8) (val : BitVec 32) :
    (watchdogSetScratch index val r).count = r.count ∧
      (watchdogSetScratch index val r).enabled = r.enabled ∧
        (watchdogSetScratch index val r).reason = r.reason ∧
          (watchdogSetScratch index val r).marker.scratch7 =
            if index = 7#8 then val else r.marker.scratch7 := by
  unfold watchdogSetScratch
  split_ifs with hrange hseven hseven
  · exact absurd hrange (by rw [hseven]; decide)
  · exact ⟨rfl, rfl, rfl, rfl⟩
  · refine ⟨rfl, rfl, rfl, ?_⟩
    simp [marker, hseven]
  · have hne : index.toNat ≠ 7 := fun heq => hseven (BitVec.eq_of_toNat_eq heq)
    refine ⟨rfl, rfl, rfl, ?_⟩
    simp [marker, hne]

/-! A register that only `watchdog_set_scratch` writes. -/

section

variable {index : BitVec 8} (hkeep : 0#8 < index ∧ index < 7#8)

include hkeep

theorem getScratch_eq : watchdogGetScratch index r = r.scratch.toList.getD index.toNat 0 := by
  have hrange : ¬index > 7#8 := by bv_omega
  rw [watchdogGetScratch, if_neg hrange]

theorem getScratch_powerOn : watchdogGetScratch index powerOn = 0 := by
  rw [getScratch_eq _ hkeep, powerOn, Vector.toList_replicate, List.getD_replicate]
  bv_omega

theorem getScratch_set_zero {val : BitVec 32} :
    watchdogGetScratch index { r with scratch := r.scratch.set 0 val (by decide) } =
      watchdogGetScratch index r := by
  have hne : 0 ≠ index.toNat := by bv_omega
  simp [getScratch_eq _ hkeep, List.getD_eq_getElem?_getD, hne]

theorem getScratch_withMarker (w : Watchdog) :
    watchdogGetScratch index (r.withMarker w) = watchdogGetScratch index r := by
  have hne : 7 ≠ index.toNat := by bv_omega
  simp [getScratch_eq _ hkeep, withMarker, List.getD_eq_getElem?_getD, hne]

theorem getScratch_start : watchdogGetScratch index r.start.2 = watchdogGetScratch index r := by
  have hforce : ∀ r : WatchdogRegs,
      watchdogGetScratch index r.clearForce = watchdogGetScratch index r := by
    intro r
    unfold clearForce
    split_ifs <;> rfl
  have htimer : ∀ r : WatchdogRegs,
      watchdogGetScratch index r.clearTimer = watchdogGetScratch index r := by
    intro r
    unfold clearTimer
    split_ifs
    · exact r.getScratch_set_zero hkeep
    · rfl
    · rfl
  exact (hforce _).trans ((htimer _).trans (r.getScratch_withMarker hkeep _))

theorem getScratch_serve (fw : Mcu) (e : LinkedEvent) :
    watchdogGetScratch index (r.serve fw e) = watchdogGetScratch index r := by
  unfold serve
  cases fw.reaches .process e <;> cases fw.findsBrownout e
  · rfl
  · exact r.getScratch_withMarker hkeep _
  · rfl
  · exact (watchdogKick r).getScratch_withMarker hkeep _

theorem getScratch_reboot (intentional : Bool) :
    watchdogGetScratch index (watchdogReboot intentional r) = watchdogGetScratch index r := by
  cases intentional with
  | false => rfl
  | true => exact r.getScratch_set_zero hkeep

theorem getScratch_setScratch (i : BitVec 8) (val : BitVec 32) :
    watchdogGetScratch index (watchdogSetScratch i val r) =
      if i = index then val else watchdogGetScratch index r := by
  have hlt : index.toNat < 8 := by bv_omega
  unfold watchdogSetScratch
  split_ifs with hrange heq heq
  · exact absurd hrange (by bv_omega)
  · rfl
  · simp [getScratch_eq _ hkeep, List.getD_eq_getElem?_getD, heq, hlt]
  · have hne : i.toNat ≠ index.toNat := fun h => heq (BitVec.eq_of_toNat_eq h)
    simp [getScratch_eq _ hkeep, List.getD_eq_getElem?_getD, hne]

end

end WatchdogRegs

/-! ### The two levels -/

/-- The registers of a supervised firmware. -/
structure GuardedMcu.Shows (g : GuardedMcu) (s : SupervisedMcu) : Prop where
  fw : g.fw = s.fw
  stage : g.stage = s.stage
  marker : g.regs.marker.scratch7 = wdScratchBodMagic ↔ s.marked = true
  down : s.stage = .down → g.regs.enabled = false ∧ g.regs.reason = s.cause.reason
  started : s.stage ≠ .down → watchdogGetReason g.regs = 0
  looping : s.stage = .looping → g.regs.enabled = s.guarded ∧
    (s.guarded = true → g.regs.count + s.sinceFed = s.limit ∧ 0 < g.regs.count)
  rebooting : s.stage = .rebooting → g.regs.enabled = true ∧ g.regs.count = 1

namespace GuardedMcu.Shows

variable {g : GuardedMcu} {s : SupervisedMcu}

theorem expires_eq (h : g.Shows s) (us : ℕ) : g.regs.expires us = s.stalls us := by
  unfold WatchdogRegs.expires SupervisedMcu.stalls
  cases hstage : s.stage with
  | down => simp [(h.down hstage).1]
  | looping =>
      obtain ⟨henabled, hcounts⟩ := h.looping hstage
      cases hguarded : s.guarded with
      | false => simp [henabled, hguarded]
      | true =>
          obtain ⟨hcount, -⟩ := hcounts hguarded
          have hiff : g.regs.count ≤ us ↔ s.limit ≤ s.sinceFed + us := by omega
          simp [henabled, hguarded, hiff]
  | rebooting =>
      obtain ⟨henabled, hcount⟩ := h.rebooting hstage
      simp [henabled, hcount]

theorem reports_eq (h : g.Shows s) (e : GuardEvent) : g.reports e = s.reports e := by
  cases e with
  | elapse us => simp only [GuardedMcu.reports, SupervisedMcu.reports, h.expires_eq]
  | boot batteryMonitorReady cc1101Ready st25r3916Ready =>
      simp only [GuardedMcu.reports, SupervisedMcu.reports, h.stage]
      split_ifs with hdown
      · obtain ⟨hmessages, -⟩ := g.regs.start_eq s.cause (h.down hdown).2
        rw [hmessages]
        simp [h.marker]
      · rfl
  | disable oneShot =>
      simp only [GuardedMcu.reports, SupervisedMcu.reports, h.stage]
      by_cases hlooping : s.stage = .looping
      · obtain ⟨hrc, -⟩ := g.regs.disable_eq oneShot
        rw [if_pos hlooping, if_pos hlooping, hrc, (h.looping hlooping).1]
      · rw [if_neg hlooping, if_neg hlooping]
  | power => rfl
  | force => rfl
  | run e => rfl
  | reboot intentional => rfl
  | setScratch index val => rfl

/-- Time that does not end the counter. -/
theorem countDown (h : g.Shows s) {us : ℕ} (hleft : s.stalls us = false) :
    ({ g with regs := g.regs.countDown us } : GuardedMcu).Shows
      { s with sinceFed := s.sinceFed + us } := by
  have hexpires := (h.expires_eq us).trans hleft
  have hkept : (g.regs.countDown us).enabled = g.regs.enabled ∧
      (g.regs.countDown us).reason = g.regs.reason ∧
        (g.regs.countDown us).marker = g.regs.marker := by
    unfold WatchdogRegs.countDown
    split_ifs <;> exact ⟨rfl, rfl, rfl⟩
  obtain ⟨henable, hreason, hmarker⟩ := hkept
  have hcounts (henabled : g.regs.enabled = true) :
      us < g.regs.count ∧ (g.regs.countDown us).count = g.regs.count - us := by
    refine ⟨by simpa [WatchdogRegs.expires, henabled] using hexpires, ?_⟩
    rw [WatchdogRegs.countDown, if_pos henabled]
  refine ⟨h.fw, h.stage, by rw [hmarker]; exact h.marker, ?_, ?_, ?_, ?_⟩
  · rw [henable, hreason]
    exact h.down
  · rw [watchdogGetReason, hreason]
    exact h.started
  · intro hstage
    obtain ⟨henabled, hcount⟩ := h.looping hstage
    refine ⟨henable.trans henabled, fun hguarded => ?_⟩
    obtain ⟨hlt, heq⟩ := hcounts (henabled.trans hguarded)
    have hsum := hcount hguarded
    dsimp only
    omega
  · intro hstage
    obtain ⟨henabled, hcount⟩ := h.rebooting hstage
    obtain ⟨hlt, heq⟩ := hcounts henabled
    refine ⟨henable.trans henabled, ?_⟩
    dsimp only
    omega

/-- A reset that leaves the marker as the supervisor sees it. -/
theorem of_reset (hfw : g.fw = s.fw) {r : WatchdogRegs} {cause : ResetCause} {marked : Bool}
    (hmarker : r.marker.scratch7 = wdScratchBodMagic ↔ marked = true) (hctrl : r.ctrl = 0)
    (hreason : r.reason = cause.reason) :
    ({ g with regs := r, stage := .down } : GuardedMcu).Shows
      { s with stage := .down, cause := cause, marked := marked } := by
  have hdisabled : r.enabled = false := by simp [WatchdogRegs.enabled, hctrl]
  exact ⟨hfw, rfl, hmarker, fun _ => ⟨hdisabled, hreason⟩, fun hup => absurd rfl hup, nofun, nofun⟩

/-- What the firmware does in its loop, as far as the watchdog sees it. -/
theorem of_looping (h : g.Shows s) (hstage : s.stage = .looping) {r : WatchdogRegs}
    {fw fw' : Mcu} {guarded marked : Bool} {limit sinceFed : ℕ} (hfw : fw = fw')
    (hmarker : r.marker.scratch7 = wdScratchBodMagic ↔ marked = true)
    (hreason : r.reason = g.regs.reason) (henabled : r.enabled = guarded)
    (hcounts : guarded = true → r.count + sinceFed = limit ∧ 0 < r.count) :
    ({ g with fw := fw, regs := r } : GuardedMcu).Shows
      { s with
        fw := fw'
        guarded := guarded
        limit := limit
        sinceFed := sinceFed
        marked := marked } :=
  ⟨hfw, h.stage, hmarker, fun hdown => (nomatch hstage.symm.trans hdown),
    fun hup => hreason.trans (h.started hup), fun _ => ⟨henabled, hcounts⟩,
    fun hreboot => (nomatch hstage.symm.trans hreboot)⟩

theorem serve (h : g.Shows s) (hstage : s.stage = .looping) (e : LinkedEvent) :
    ({ g with fw := linkedStep g.fw e, regs := g.regs.serve g.fw e } : GuardedMcu).Shows
      { s with
        fw := linkedStep s.fw e
        limit := if s.fw.reaches .process e then 5000000 else s.limit
        sinceFed := if s.fw.reaches .process e then 0 else s.sinceFed
        marked := s.marked || s.fw.findsBrownout e } := by
  obtain ⟨hcount, henabled, hreason, hmarker⟩ := g.regs.serve_eq g.fw e
  obtain ⟨hguarded, hcounts⟩ := h.looping hstage
  refine h.of_looping hstage (congrArg (linkedStep · e) h.fw) ?_ hreason
    (henabled.trans hguarded) fun hon => ?_
  · rw [hmarker, h.marker, h.fw, Bool.or_eq_true]
  · rw [hcount, h.fw]
    cases s.fw.reaches .process e with
    | false => exact hcounts hon
    | true => exact ⟨rfl, Nat.succ_pos _⟩

theorem disable (h : g.Shows s) (hstage : s.stage = .looping) (oneShot : Bool) :
    ({ g with regs := (watchdogDisable oneShot g.regs).2 } : GuardedMcu).Shows
      (if s.guarded && oneShot then { s with limit := 4294967294, sinceFed := 0 }
      else { s with guarded := false }) := by
  obtain ⟨-, henabled, hcount, hreason, hscratch⟩ := g.regs.disable_eq oneShot
  have hmarker : (watchdogDisable oneShot g.regs).2.marker = g.regs.marker := by
    rw [WatchdogRegs.marker, WatchdogRegs.marker, hscratch]
  rw [(h.looping hstage).1] at henabled hcount
  split_ifs with hfails
  · refine h.of_looping hstage h.fw (by rw [hmarker]; exact h.marker) hreason ?_ fun _ => ?_
    · rw [henabled, hfails, (Bool.and_eq_true_iff.mp hfails).1]
    · rw [hcount hfails]
      exact ⟨rfl, Nat.succ_pos _⟩
  · refine h.of_looping hstage h.fw (by rw [hmarker]; exact h.marker) hreason ?_ nofun
    rw [henabled, Bool.eq_false_of_not_eq_true hfails]

theorem setScratch (h : g.Shows s) (hstage : s.stage = .looping) (index : BitVec 8)
    (val : BitVec 32) :
    ({ g with regs := watchdogSetScratch index val g.regs } : GuardedMcu).Shows
      (if index = 7#8 then { s with marked := val = wdScratchBodMagic } else s) := by
  obtain ⟨hcount, henabled, hreason, hmarker⟩ := g.regs.setScratch_eq index val
  obtain ⟨hguarded, hcounts⟩ := h.looping hstage
  rw [← hcount] at hcounts
  split_ifs at hmarker ⊢ with hseven
  · refine h.of_looping hstage h.fw ?_ hreason (henabled.trans hguarded) hcounts
    rw [hmarker]
    simp
  · refine h.of_looping hstage h.fw ?_ hreason (henabled.trans hguarded) hcounts
    rw [hmarker]
    exact h.marker

theorem step (h : g.Shows s) (e : GuardEvent) : (guardedStep g e).Shows (supervisedStep s e) := by
  have hstages : ∀ stage, g.stage = stage ↔ s.stage = stage := by
    rw [h.stage]
    exact fun _ => Iff.rfl
  cases e with
  | elapse us =>
      rw [guardedStep, supervisedStep, h.expires_eq]
      cases hstalls : s.stalls us with
      | true => exact .of_reset h.fw h.marker rfl rfl
      | false => exact h.countDown hstalls
  | power => exact .of_reset h.fw (iff_of_false (by decide) Bool.false_ne_true) rfl rfl
  | force => exact .of_reset h.fw h.marker rfl rfl
  | boot batteryMonitorReady cc1101Ready st25r3916Ready =>
      simp only [guardedStep, supervisedStep, hstages]
      split_ifs with hdown
      · obtain ⟨-, hreason, hcleared, henabled, hcount⟩ :=
          g.regs.start_eq s.cause (h.down hdown).2
        refine ⟨rfl, rfl, iff_of_false hcleared Bool.false_ne_true, nofun, fun _ => hreason,
          fun _ => ⟨henabled, fun _ => ?_⟩, nofun⟩
        rw [hcount]
        exact ⟨rfl, Nat.succ_pos _⟩
      · exact h
  | run e =>
      simp only [guardedStep, supervisedStep, hstages]
      split_ifs with hstage hhead
      · have hserve := h.serve hstage e
        rwa [if_pos hhead, if_pos hhead] at hserve
      · have hserve := h.serve hstage e
        rwa [if_neg hhead, if_neg hhead] at hserve
      · exact h
  | reboot intentional =>
      simp only [guardedStep, supervisedStep, hstages]
      split_ifs with hstage
      · obtain ⟨hcount, henabled, hreason, hmarker⟩ := g.regs.reboot_eq intentional
        refine ⟨h.fw, rfl, ?_, nofun, fun _ => ?_, nofun, fun _ => ⟨henabled, hcount⟩⟩
        · rw [hmarker]
          exact h.marker
        · refine hreason.trans (h.started fun hdown => ?_)
          exact nomatch hstage.symm.trans hdown
      · exact h
  | disable oneShot =>
      simp only [guardedStep, supervisedStep, hstages]
      split_ifs with hstage hfails
      · have hdisable := h.disable hstage oneShot
        rwa [if_pos hfails] at hdisable
      · have hdisable := h.disable hstage oneShot
        rwa [if_neg hfails] at hdisable
      · exact h
  | setScratch index val =>
      simp only [guardedStep, supervisedStep, hstages]
      split_ifs with hstage hboth hboth
      · have hset := h.setScratch hstage index val
        rwa [if_pos hboth.2] at hset
      · have hset := h.setScratch hstage index val
        rwa [if_neg fun heq => hboth ⟨hstage, heq⟩] at hset
      · exact absurd hboth.1 hstage
      · exact h

end GuardedMcu.Shows

/-- Both levels before the first boot. -/
def GuardedMcu.unpowered (fw : Mcu) : GuardedMcu := ⟨fw, .powerOn, .down⟩

def SupervisedMcu.unpowered (fw : Mcu) : SupervisedMcu := ⟨fw, .down, false, 0, 0, .power, false⟩

theorem unpowered_shows (fw : Mcu) : (GuardedMcu.unpowered fw).Shows (.unpowered fw) := by
  have hmarker : WatchdogRegs.powerOn.marker.scratch7 ≠ wdScratchBodMagic := by decide
  have hdisabled : WatchdogRegs.powerOn.enabled = false := by decide
  exact ⟨rfl, rfl, iff_of_false hmarker Bool.false_ne_true, fun _ => ⟨hdisabled, rfl⟩,
    fun hup => absurd rfl hup, nofun, nofun⟩

/-- Through any resets the registers show what the supervisor knows: the watchdog
resets exactly a firmware that stalls, and every boot reports exactly the cause of
the last reset and the brownouts since the last boot. -/
theorem watchdog_refines (fw : Mcu) (es : List GuardEvent) :
    observe guardedStep GuardedMcu.reports (.unpowered fw) es =
        observe supervisedStep SupervisedMcu.reports (.unpowered fw) es ∧
      (run guardedStep (.unpowered fw) es).Shows (run supervisedStep (.unpowered fw) es) :=
  ⟨observe_simulates (fun _ _ e h => h.step e) (fun _ _ e h => h.reports_eq e) (unpowered_shows fw)
      es,
    run_simulates (fun _ _ e h => h.step e) (unpowered_shows fw) es⟩

/-! ### What survives a reset -/

/-- One note that the firmware leaves for its next boots. -/
def SupervisedMcu.note (s : SupervisedMcu) (index : BitVec 8) (note : BitVec 32) :
    GuardEvent → BitVec 32
  | .power => 0
  | .setScratch i val => if s.stage = .looping ∧ i = index then val else note
  | .elapse _ | .force | .boot _ _ _ | .run _ | .reboot _ | .disable _ => note

def noteStep (index : BitVec 8) (n : SupervisedMcu × BitVec 32) (e : GuardEvent) :
    SupervisedMcu × BitVec 32 :=
  (supervisedStep n.1 e, n.1.note index n.2 e)

theorem note_step {index : BitVec 8} (hkeep : 0#8 < index ∧ index < 7#8) {g : GuardedMcu}
    {n : SupervisedMcu × BitVec 32} (e : GuardEvent)
    (h : g.Shows n.1 ∧ watchdogGetScratch index g.regs = n.2) :
    (guardedStep g e).Shows (noteStep index n e).1 ∧
      watchdogGetScratch index (guardedStep g e).regs = (noteStep index n e).2 := by
  obtain ⟨hshows, hnote⟩ := h
  refine ⟨hshows.step e, ?_⟩
  change _ = n.1.note index n.2 e
  rw [← hnote]
  cases e with
  | elapse us =>
      simp only [guardedStep, SupervisedMcu.note, WatchdogRegs.countDown]
      split_ifs <;> rfl
  | power => exact WatchdogRegs.getScratch_powerOn hkeep
  | force => rfl
  | boot batteryMonitorReady cc1101Ready st25r3916Ready =>
      rw [guardedStep]
      split_ifs
      · exact g.regs.getScratch_start hkeep
      · rfl
  | run e =>
      rw [guardedStep]
      split_ifs
      · exact g.regs.getScratch_serve hkeep g.fw e
      · rfl
  | reboot intentional =>
      rw [guardedStep]
      split_ifs
      · exact g.regs.getScratch_reboot hkeep intentional
      · rfl
  | disable oneShot =>
      rw [guardedStep]
      split_ifs
      · obtain ⟨-, -, -, -, hscratch⟩ := g.regs.disable_eq oneShot
        rw [SupervisedMcu.note, watchdogGetScratch, hscratch, watchdogGetScratch]
      · rfl
  | setScratch i val =>
      rw [guardedStep, SupervisedMcu.note, ← hshows.stage]
      split_ifs with hstage hboth hboth
      · rw [g.regs.getScratch_setScratch hkeep, if_pos hboth.2]
      · rw [g.regs.getScratch_setScratch hkeep, if_neg fun heq => hboth ⟨hstage, heq⟩]
      · exact absurd hboth.1 hstage
      · rfl

/-- The registers 1 to 6 hold what was last written to them since the power came,
through every reset and whatever the firmware does. -/
theorem scratch_survives (fw : Mcu) (es : List GuardEvent) {index : BitVec 8}
    (hkeep : 0#8 < index ∧ index < 7#8) :
    watchdogGetScratch index (run guardedStep (.unpowered fw) es).regs =
      (run (noteStep index) (.unpowered fw, 0) es).2 := by
  have hstep : ∀ (g : GuardedMcu) n e, g.Shows n.1 ∧ watchdogGetScratch index g.regs = n.2 →
      (guardedStep g e).Shows (noteStep index n e).1 ∧
        watchdogGetScratch index (guardedStep g e).regs = (noteStep index n e).2 :=
    fun _ _ e h => note_step hkeep e h
  have hstart : (GuardedMcu.unpowered fw).Shows (SupervisedMcu.unpowered fw, 0#32).1 ∧
      watchdogGetScratch index (GuardedMcu.unpowered fw).regs =
        (SupervisedMcu.unpowered fw, 0#32).2 :=
    ⟨unpowered_shows fw, WatchdogRegs.getScratch_powerOn hkeep⟩
  exact (run_simulates hstep hstart es).2

/-- A note for the next boot, through a bite of the watchdog. -/
theorem scratch_survives_bite :
    watchdogGetScratch 3#8
        (run guardedStep (.unpowered (boot true true true))
          [.boot true true true, .setScratch 3#8 21#32, .elapse 5000000]).regs =
      21#32 :=
  scratch_survives (boot true true true) _ ⟨by decide, by decide⟩

end GhostBlade.Firmware
