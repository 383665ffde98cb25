import GhostBlade.Firmware.BrownoutMarker

/-!
The watchdog of the RP2350B and the functions of `watchdog.c` on its registers.
The counter goes down once a microsecond while the watchdog is enabled; a chip
reset at its end clears the control register, says so in the reason register and
keeps the scratch registers.
-/

namespace GhostBlade.Firmware

structure WatchdogRegs where
  ctrl : BitVec 32
  count : ℕ
  reason : BitVec 32
  scratch : Vector (BitVec 32) 8

def wdCtrlEnable : BitVec 32 := 1#32 <<< 0
def wdCtrlPauseDbg0 : BitVec 32 := 1#32 <<< 1
def wdCtrlPauseJtag : BitVec 32 := 1#32 <<< 3
def wdReasonForce : BitVec 32 := 1#32 <<< 0
def wdReasonTimer : BitVec 32 := 1#32 <<< 1
def wdTimeoutUs : BitVec 32 := 5000000#32
def wdMagicValue : BitVec 32 := 0xA7EC1001#32

/-- A write to `WD_LOAD` reloads the counter. -/
def WatchdogRegs.load (r : WatchdogRegs) (value : BitVec 32) : WatchdogRegs :=
  { r with count := value.toNat }

def WatchdogRegs.enabled (r : WatchdogRegs) : Bool := r.ctrl &&& wdCtrlEnable ≠ 0

/-- The reset at the end of the counter. -/
def WatchdogRegs.bite (r : WatchdogRegs) : WatchdogRegs :=
  { r with ctrl := 0, count := 0, reason := wdReasonTimer }

/-- A reset by the debugger or another block of the chip. -/
def WatchdogRegs.force (r : WatchdogRegs) : WatchdogRegs :=
  { r with ctrl := 0, count := 0, reason := wdReasonForce }

def WatchdogRegs.powerOn : WatchdogRegs := ⟨0, 0, 0, Vector.replicate 8 0⟩

/-- Whether the counter ends within some microseconds. -/
def WatchdogRegs.expires (r : WatchdogRegs) (us : ℕ) : Bool := r.enabled ∧ r.count ≤ us

def WatchdogRegs.countDown (r : WatchdogRegs) (us : ℕ) : WatchdogRegs :=
  if r.enabled then { r with count := r.count - us } else r

/-- The first branch of `watchdog_init`. -/
def WatchdogRegs.clearTimer (r : WatchdogRegs) : WatchdogRegs :=
  if r.reason &&& wdReasonTimer ≠ 0 then
    if r.scratch[0] = wdMagicValue then { r with reason := 0, scratch := r.scratch.set 0 0 }
    else { r with reason := 0 }
  else r

/-- The second branch. -/
def WatchdogRegs.clearForce (r : WatchdogRegs) : WatchdogRegs :=
  if r.reason &&& wdReasonForce ≠ 0 then { r with reason := 0 } else r

/-- `watchdog_init`. -/
def watchdogInit (r : WatchdogRegs) : Bool × WatchdogRegs :=
  (r.reason &&& wdReasonTimer ≠ 0,
    { r.clearTimer.clearForce.load wdTimeoutUs with
      ctrl := wdCtrlEnable ||| wdCtrlPauseJtag ||| wdCtrlPauseDbg0 })

def watchdogFeed (r : WatchdogRegs) : WatchdogRegs := r.load wdTimeoutUs

def watchdogKick (r : WatchdogRegs) : WatchdogRegs := watchdogFeed r

/-- `watchdog_disable`, on a chip that lets the enable bit be cleared or not. -/
def watchdogDisable (oneShot : Bool) (r : WatchdogRegs) : Int × WatchdogRegs :=
  let r := { r with ctrl := if oneShot then r.ctrl &&& wdCtrlEnable else 0 }
  if r.ctrl &&& wdCtrlEnable ≠ 0 then (-1, r.load 0xFFFFFFFE#32) else (0, r)

/-- `watchdog_reboot` up to its endless loop. -/
def watchdogReboot (intentional : Bool) (r : WatchdogRegs) : WatchdogRegs :=
  let r := if intentional then { r with scratch := r.scratch.set 0 wdMagicValue } else r
  { r with ctrl := r.ctrl ||| wdCtrlEnable }.load 1

def watchdogEnableBark (r : WatchdogRegs) : WatchdogRegs :=
  { r with ctrl := r.ctrl ||| (wdCtrlEnable ||| wdCtrlPauseDbg0 ||| wdCtrlPauseJtag) }

def watchdogGetReason (r : WatchdogRegs) : BitVec 32 := r.reason

def watchdogGetScratch (index : BitVec 8) (r : WatchdogRegs) : BitVec 32 :=
  if index > 7#8 then 0 else r.scratch.toList.getD index.toNat 0

def watchdogSetScratch (index : BitVec 8) (val : BitVec 32) (r : WatchdogRegs) : WatchdogRegs :=
  if index > 7#8 then r else { r with scratch := r.scratch.setIfInBounds index.toNat val }

/-- The register that `watchdog_mark_brownout` and `watchdog_check_brownout`
use. -/
def WatchdogRegs.marker (r : WatchdogRegs) : Watchdog := ⟨r.scratch[7]⟩

def WatchdogRegs.withMarker (r : WatchdogRegs) (w : Watchdog) : WatchdogRegs :=
  { r with scratch := r.scratch.set 7 w.scratch7 }

def WatchdogRegs.markBrownout (r : WatchdogRegs) : WatchdogRegs :=
  r.withMarker (watchdogMarkBrownout r.marker)

def WatchdogRegs.checkBrownout (r : WatchdogRegs) : Bool × WatchdogRegs :=
  let (found, w) := watchdogCheckBrownout r.marker
  (found, r.withMarker w)

/-- What `main` does with the watchdog before it launches core 1. -/
def WatchdogRegs.start (r : WatchdogRegs) : (Bool × Bool) × WatchdogRegs :=
  let (brownout, r) := r.checkBrownout
  let (wdReset, r) := watchdogInit r
  ((brownout, wdReset), watchdogEnableBark r)

end GhostBlade.Firmware
