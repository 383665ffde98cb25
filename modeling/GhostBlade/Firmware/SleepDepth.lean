import GhostBlade.Firmware.SleepWake

/-!
The depth of sleep. A call of `sleep_wake_process` is one step here, given the
millisecond clock and whether its look at the index found activity; it changes
`sw_state` and calls the SDK, which sets the clocks it is asked to set. The real
time is kept beside the 32-bit clock that the code reads.
-/

namespace GhostBlade.Firmware

open GhostBlade.Library

/-! ### The module -/

/-- The calls the module makes: `clk_peri` is always configured from the system
clock. -/
inductive SdkCall where
  | setSysClock48mhz
  | setSysClockKhz (khz : Nat) (required : Bool)
  | clockConfigurePeri (srcFreq freq : Nat)
  | multicoreFifoPushBlocking (word : BitVec 32)
  | watchdogKick
  | multicoreLaunchCore1
deriving DecidableEq, Repr

structure Clocks where
  sysHz : Nat
  periHz : Nat
deriving DecidableEq, Repr

def mhz : Nat := 1000000

def Clocks.after (c : Clocks) : SdkCall → Clocks
  | .setSysClock48mhz => { c with sysHz := 48 * mhz }
  | .setSysClockKhz khz _ => { c with sysHz := khz * 1000 }
  | .clockConfigurePeri _ freq => { c with periHz := freq }
  | .multicoreFifoPushBlocking _ | .watchdogKick | .multicoreLaunchCore1 => c

def enterLightSleep : List SdkCall :=
  [.setSysClock48mhz, .clockConfigurePeri (48 * mhz) (48 * mhz)]

def exitLightSleep : List SdkCall :=
  [.setSysClockKhz 150000 true, .clockConfigurePeri (48 * mhz) (48 * mhz)]

def enterDeepSleep : List SdkCall := [.multicoreFifoPushBlocking 0xDEAD0000]

def exitDeepSleep : List SdkCall := exitLightSleep ++ [.watchdogKick, .multicoreLaunchCore1]

/-- `sw_state`. -/
structure SwState where
  state : SleepState
  lastActivityMs : BitVec 32
  lastProcessMs : BitVec 32
  idleCount : BitVec 32
  forceWakePending : Bool
deriving DecidableEq, Repr

/-- The way out of a sleep state. -/
def exitSleep : SleepState → List SdkCall
  | .deep => exitDeepSleep
  | .light => exitLightSleep
  | .idle | .count => []

def sleepIdleTimeoutMs : BitVec 32 := 5000

def sleepLightTimeoutMs : BitVec 32 := 30000

/-- `sleep_wake_process`; it returns the state it leaves. -/
def sleepWakeProcess (now : BitVec 32) (hasActivity : Bool) (s : SwState) :
    SwState × List SdkCall :=
  let idleMs := now - s.lastActivityMs
  if s.forceWakePending then
    ({ s with
        forceWakePending := false
        state := .idle
        idleCount := 0
        lastActivityMs := now }, exitSleep s.state)
  else if hasActivity then
    let awake := match s.state with
      | .deep | .light => .idle
      | state => state
    ({ s with lastActivityMs := now, idleCount := 0, state := awake }, exitSleep s.state)
  else
    let s := { s with idleCount := s.idleCount + 1, lastProcessMs := now }
    match s.state with
    | .idle =>
        if idleMs ≥ sleepIdleTimeoutMs then
          ({ s with state := .light, idleCount := 0 }, enterLightSleep)
        else (s, [])
    | .light =>
        if idleMs ≥ sleepLightTimeoutMs then
          ({ s with state := .deep, idleCount := 0 }, enterDeepSleep)
        else (s, [])
    | .deep => (s, [])
    | .count => ({ s with state := .idle }, [])

/-! ### Statement by statement -/

/-- What the two models of the module share. -/
def SleepWake.swState (s : SleepWake) : SwState :=
  ⟨s.state, s.lastActivityMs, s.lastProcessMs, s.idleCount, s.forceWakePending⟩

/-- Only the statements of one call, up to its end. -/
def SleepWake.call (now : BitVec 32) (n : Nat) (s : SleepWake) : SleepWake :=
  run SleepWake.step s (List.replicate n (.statement now))

section

variable {now : BitVec 32} {s : SleepWake}

theorem call_forced (hout : s.pc = .outside) (hforced : s.forceWakePending = true) :
    (s.call now 6).pc = .outside ∧
      (s.call now 6).swState =
        (sleepWakeProcess now (s.spiRxHead ≠ s.lastHead) s.swState).1 := by
  by_cases hhead : s.spiRxHead = s.lastHead
  · simp [SleepWake.call, List.replicate, SleepWake.step, SleepWake.statement, sleepWakeProcess,
      SleepWake.swState, hout, hforced, hhead]
  · simp [SleepWake.call, List.replicate, SleepWake.step, SleepWake.statement, sleepWakeProcess,
      SleepWake.swState, hout, hforced, hhead]

theorem call_active (hout : s.pc = .outside) (hforced : s.forceWakePending = false)
    (hhead : s.spiRxHead ≠ s.lastHead) :
    (s.call now 5).pc = .outside ∧
      (s.call now 5).swState =
        (sleepWakeProcess now (s.spiRxHead ≠ s.lastHead) s.swState).1 := by
  cases hstate : s.state with
  | _ =>
      simp [SleepWake.call, List.replicate, SleepWake.step, SleepWake.statement,
        sleepWakeProcess, SleepWake.swState, hout, hforced, hhead, hstate]

/-- Whether a call without activity enters a sleep state. -/
def SwState.falls (now : BitVec 32) (s : SwState) : Bool :=
  match s.state with
  | .idle => now - s.lastActivityMs ≥ sleepIdleTimeoutMs
  | .light => now - s.lastActivityMs ≥ sleepLightTimeoutMs
  | .deep | .count => false

theorem call_undisturbed (hout : s.pc = .outside) (hforced : s.forceWakePending = false)
    (hhead : s.spiRxHead = s.lastHead) :
    let n := if s.swState.falls now then 9 else 6
    (s.call now n).pc = .outside ∧
      (s.call now n).swState =
        (sleepWakeProcess now (s.spiRxHead ≠ s.lastHead) s.swState).1 := by
  have hlong : sleepLightTimeoutMs = 30000#32 := rfl
  have hshort : sleepIdleTimeoutMs = 5000#32 := rfl
  cases hstate : s.state with
  | idle =>
      by_cases hidle : 5000#32 ≤ now - s.lastActivityMs
      · simp [SleepWake.call, List.replicate, SleepWake.step, SleepWake.statement, SwState.falls,
          sleepWakeProcess, SleepWake.swState, hout, hforced, hhead, hstate, hidle, hshort]
      · simp [SleepWake.call, List.replicate, SleepWake.step, SleepWake.statement, SwState.falls,
          sleepWakeProcess, SleepWake.swState, hout, hforced, hhead, hstate, hidle, hshort]
  | light =>
      by_cases hidle : 30000#32 ≤ now - s.lastActivityMs
      · simp [SleepWake.call, List.replicate, SleepWake.step, SleepWake.statement, SwState.falls,
          sleepWakeProcess, SleepWake.swState, hout, hforced, hhead, hstate, hidle, hlong]
      · simp [SleepWake.call, List.replicate, SleepWake.step, SleepWake.statement, SwState.falls,
          sleepWakeProcess, SleepWake.swState, hout, hforced, hhead, hstate, hidle, hlong]
  | _ =>
      simp [SleepWake.call, List.replicate, SleepWake.step, SleepWake.statement, SwState.falls,
        sleepWakeProcess, SleepWake.swState, hout, hforced, hhead, hstate]

/-- The statements of a call, with nothing in between, do what the call does. -/
theorem statements_process (hout : s.pc = .outside) :
    ∃ n, (s.call now n).pc = .outside ∧
      (s.call now n).swState =
        (sleepWakeProcess now (s.spiRxHead ≠ s.lastHead) s.swState).1 := by
  cases hforced : s.forceWakePending with
  | true => exact ⟨6, call_forced hout hforced⟩
  | false =>
      rcases eq_or_ne s.spiRxHead s.lastHead with hhead | hhead
      · exact ⟨_, call_undisturbed hout hforced hhead⟩
      · exact ⟨5, call_active hout hforced hhead⟩

end

/-! ### Runs -/

/-- The module and the clocks; in real time, in milliseconds: now, the last call
that found activity or a forced wake pending, and the last request of one. -/
structure SleepDepth where
  sw : SwState
  clocks : Clocks
  timeMs : Nat
  activeMs : Nat
  forcedMs : Nat

/-- A call of `sleep_wake_process` or of `sleep_wake_force_wake`, some time after
the one before it. -/
inductive DepthEvent where
  | process (elapsedMs : Nat) (hasActivity : Bool)
  | forceWake (elapsedMs : Nat)

namespace SleepDepth

/-- `sleep_wake_init`, with the system clock at 150 MHz. -/
def init (bootMs periHz : Nat) : SleepDepth where
  sw := ⟨.idle, .ofNat 32 bootMs, .ofNat 32 bootMs, 0, false⟩
  clocks := ⟨150 * mhz, periHz⟩
  timeMs := bootMs
  activeMs := bootMs
  forcedMs := bootMs

def step (s : SleepDepth) : DepthEvent → SleepDepth
  | .process elapsedMs hasActivity =>
      let timeMs := s.timeMs + elapsedMs
      let (sw, calls) := sleepWakeProcess (.ofNat 32 timeMs) hasActivity s.sw
      { s with
        sw := sw
        clocks := run Clocks.after s.clocks calls
        timeMs := timeMs
        activeMs := if s.sw.forceWakePending || hasActivity then timeMs else s.activeMs }
  | .forceWake elapsedMs =>
      { s with
        sw := { s.sw with forceWakePending := true }
        timeMs := s.timeMs + elapsedMs
        forcedMs := s.timeMs + elapsedMs }

/-- The clock fits the state, the time stamp is the real one as far as it goes,
and a request behind the last look is still pending. -/
structure Sound (s : SleepDepth) : Prop where
  state : s.sw.state ≠ .count
  clock : s.clocks.sysHz = if s.sw.state = .idle then 150 * mhz else 48 * mhz
  stamp : s.sw.lastActivityMs = .ofNat 32 s.activeMs
  past : s.activeMs ≤ s.timeMs
  requested : s.forcedMs ≤ s.timeMs
  forced : s.forcedMs ≤ s.activeMs ∨ s.sw.forceWakePending = true

theorem sound_init (bootMs periHz : Nat) : (init bootMs periHz).Sound :=
  ⟨by simp [init], (if_pos rfl).symm, rfl, Nat.le_refl _, Nat.le_refl _, .inl (Nat.le_refl _)⟩

end SleepDepth

section

variable (now : BitVec 32) {hasActivity : Bool} {s : SwState}

theorem process_wakes (h : s.forceWakePending = true ∨ hasActivity = true)
    (hstate : s.state ≠ .count) :
    let next := sleepWakeProcess now hasActivity s
    next.1.state = .idle ∧ next.1.lastActivityMs = now ∧ next.1.forceWakePending = false ∧
      next.2 = exitSleep s.state := by
  unfold sleepWakeProcess
  cases hforced : s.forceWakePending with
  | true => simp
  | false =>
      obtain rfl : hasActivity = true := by simpa [hforced] using h
      cases hs : s.state with
      | count => exact absurd hs hstate
      | _ => simp

/-- Without activity a call goes one state deeper, or it stays where it is. -/
theorem process_quiet (hforced : s.forceWakePending = false) (hstate : s.state ≠ .count) :
    let next := sleepWakeProcess now false s
    next.1.lastActivityMs = s.lastActivityMs ∧ next.1.forceWakePending = false ∧
      (s.state = .idle ∧ next.1.state = .light ∧ sleepIdleTimeoutMs ≤ now - s.lastActivityMs ∧
          next.2 = enterLightSleep ∨
        s.state = .light ∧ next.1.state = .deep ∧
          sleepLightTimeoutMs ≤ now - s.lastActivityMs ∧ next.2 = enterDeepSleep ∨
        next.1.state = s.state ∧ next.2 = []) := by
  unfold sleepWakeProcess
  cases hs : s.state with
  | idle =>
      by_cases hidle : sleepIdleTimeoutMs ≤ now - s.lastActivityMs
      · simp [hforced, hidle]
      · simp [hforced, hidle]
  | light =>
      by_cases hidle : sleepLightTimeoutMs ≤ now - s.lastActivityMs
      · simp [hforced, hidle]
      · simp [hforced, hidle]
  | deep => simp [hforced]
  | count => exact absurd hs hstate

end

/-- The 32-bit difference never exceeds the real one. -/
theorem sub_stamps_le {a b : Nat} (h : a ≤ b) :
    (BitVec.ofNat 32 b - BitVec.ofNat 32 a).toNat ≤ b - a := by
  rw [BitVec.toNat_sub, BitVec.toNat_ofNat, BitVec.toNat_ofNat]
  omega

namespace SleepDepth

/-- What a process call does to the clock and the state. -/
structure Follows (s : SleepDepth) (elapsedMs : Nat) (hasActivity : Bool) (next : SleepDepth) :
    Prop where
  awake : next.clocks.sysHz = 150 * mhz ↔ next.sw.state = .idle
  asleep : next.sw.state ≠ .idle → next.clocks.sysHz = 48 * mhz
  light : next.sw.state = .light → s.sw.state ≠ .light → s.sw.state = .idle ∧
    s.activeMs + 5000 ≤ s.timeMs + elapsedMs ∧ s.forcedMs + 5000 ≤ s.timeMs + elapsedMs
  deep : next.sw.state = .deep → s.sw.state ≠ .deep → s.sw.state = .light ∧
    s.activeMs + 30000 ≤ s.timeMs + elapsedMs ∧ s.forcedMs + 30000 ≤ s.timeMs + elapsedMs
  wakes : hasActivity = true ∨ s.sw.forceWakePending = true → next.sw.state = .idle

variable {s : SleepDepth} {elapsedMs : Nat} {hasActivity : Bool}

/-- The timeouts are of real time. -/
theorem Sound.elapsed (h : s.Sound) {timeout : BitVec 32} (hforced : s.sw.forceWakePending = false)
    (hidle : timeout ≤ BitVec.ofNat 32 (s.timeMs + elapsedMs) - s.sw.lastActivityMs) :
    s.activeMs + timeout.toNat ≤ s.timeMs + elapsedMs ∧
      s.forcedMs + timeout.toNat ≤ s.timeMs + elapsedMs := by
  have hpast := h.past
  have hrequest : s.forcedMs ≤ s.activeMs := by simpa [hforced] using h.forced
  have hle := sub_stamps_le (show s.activeMs ≤ s.timeMs + elapsedMs by omega)
  rw [h.stamp, BitVec.le_def] at hidle
  omega

theorem Sound.awake (h : s.Sound) : s.clocks.sysHz = 150 * mhz ↔ s.sw.state = .idle := by
  rw [h.clock]
  split
  · next hidle => exact iff_of_true rfl hidle
  · next hasleep => exact iff_of_false (by decide) hasleep

theorem Sound.asleep (h : s.Sound) (hasleep : s.sw.state ≠ .idle) :
    s.clocks.sysHz = 48 * mhz := by
  rw [h.clock, if_neg hasleep]

variable (elapsedMs) in
theorem Sound.wake (h : s.Sound) (hwake : s.sw.forceWakePending = true ∨ hasActivity = true) :
    let next := s.step (.process elapsedMs hasActivity)
    next.Sound ∧ next.sw.state = .idle := by
  obtain ⟨hidle, hstamp, hpending, hcalls⟩ :=
    process_wakes (.ofNat 32 (s.timeMs + elapsedMs)) hwake h.state
  have hactive : (s.step (.process elapsedMs hasActivity)).activeMs = s.timeMs + elapsedMs :=
    if_pos (by simpa using hwake)
  have hclock : (s.step (.process elapsedMs hasActivity)).clocks.sysHz = 150 * mhz := by
    have hnow := h.clock
    change (run Clocks.after s.clocks (sleepWakeProcess _ hasActivity s.sw).2).sysHz = _
    rw [hcalls]
    cases hs : s.sw.state with
    | idle => rwa [hs] at hnow
    | light => rfl
    | deep => rfl
    | count => exact absurd hs h.state
  have hnext : (s.step (.process elapsedMs hasActivity)).sw.state = .idle := hidle
  have hrequest : s.forcedMs ≤ s.timeMs + elapsedMs := h.requested.trans (Nat.le_add_right _ _)
  refine ⟨⟨?_, ?_, ?_, ?_, ?_, ?_⟩, hnext⟩
  · rw [hnext]
    decide
  · rw [hclock]
    exact (if_pos hnext).symm
  · rw [hactive]
    exact hstamp
  · rw [hactive]
    exact Nat.le_refl _
  · exact hrequest
  · rw [hactive]
    exact .inl hrequest

variable (elapsedMs) in
theorem Sound.quiet (h : s.Sound) (hforced : s.sw.forceWakePending = false) :
    let next := s.step (.process elapsedMs false)
    next.Sound ∧
      (s.sw.state = .idle ∧ next.sw.state = .light ∧
          sleepIdleTimeoutMs ≤ .ofNat 32 (s.timeMs + elapsedMs) - s.sw.lastActivityMs ∨
        s.sw.state = .light ∧ next.sw.state = .deep ∧
          sleepLightTimeoutMs ≤ .ofNat 32 (s.timeMs + elapsedMs) - s.sw.lastActivityMs ∨
        next.sw.state = s.sw.state) := by
  obtain ⟨hstamp, hpending, hcases⟩ :=
    process_quiet (.ofNat 32 (s.timeMs + elapsedMs)) hforced h.state
  have hactive : (s.step (.process elapsedMs false)).activeMs = s.activeMs :=
    if_neg (by simp [hforced])
  have hrequest : s.forcedMs ≤ s.activeMs := by simpa [hforced] using h.forced
  have hsound (hstate : (s.step (.process elapsedMs false)).sw.state ≠ .count)
      (hclock : (s.step (.process elapsedMs false)).clocks.sysHz =
        if (s.step (.process elapsedMs false)).sw.state = .idle then 150 * mhz else 48 * mhz) :
      (s.step (.process elapsedMs false)).Sound := by
    refine ⟨hstate, hclock, ?_, ?_, ?_, ?_⟩
    · rw [hactive]
      exact hstamp.trans h.stamp
    · rw [hactive]
      exact h.past.trans (Nat.le_add_right _ _)
    · exact h.requested.trans (Nat.le_add_right _ _)
    · rw [hactive]
      exact .inl hrequest
  have hclocks : (s.step (.process elapsedMs false)).clocks =
      run Clocks.after s.clocks
        (sleepWakeProcess (.ofNat 32 (s.timeMs + elapsedMs)) false s.sw).2 := rfl
  have hnext : (s.step (.process elapsedMs false)).sw.state =
      (sleepWakeProcess (.ofNat 32 (s.timeMs + elapsedMs)) false s.sw).1.state := rfl
  rcases hcases with ⟨hidle, hlight, hlong, hcalls⟩ | ⟨hlight, hdeep, hlong, hcalls⟩ |
    ⟨hsame, hcalls⟩
  · refine ⟨hsound ?_ ?_, .inl ⟨hidle, hlight, hlong⟩⟩
    · rw [hnext, hlight]
      decide
    · rw [hnext, hlight, hclocks, hcalls]
      rfl
  · refine ⟨hsound ?_ ?_, .inr (.inl ⟨hlight, hdeep, hlong⟩)⟩
    · rw [hnext, hdeep]
      decide
    · rw [hnext, hdeep, hclocks, hcalls]
      exact h.asleep (by simp [hlight])
  · refine ⟨hsound ?_ ?_, .inr (.inr hsame)⟩
    · rw [hnext, hsame]
      exact h.state
    · rw [hnext, hsame, hclocks, hcalls]
      exact h.clock

theorem sound_step (s : SleepDepth) (e : DepthEvent) (h : s.Sound) : (s.step e).Sound := by
  cases e with
  | process elapsedMs hasActivity =>
      cases hforced : s.sw.forceWakePending with
      | true => exact (h.wake elapsedMs (.inl hforced)).1
      | false =>
          cases hasActivity with
          | true => exact (h.wake elapsedMs (.inr rfl)).1
          | false => exact (h.quiet elapsedMs hforced).1
  | forceWake elapsedMs =>
      have hpast : s.activeMs ≤ s.timeMs + elapsedMs := h.past.trans (Nat.le_add_right _ _)
      exact ⟨h.state, h.clock, h.stamp, hpast, Nat.le_refl _, .inr rfl⟩

theorem Sound.follows (h : s.Sound) (elapsedMs : Nat) (hasActivity : Bool) :
    s.Follows elapsedMs hasActivity (s.step (.process elapsedMs hasActivity)) := by
  have hnext := sound_step s (.process elapsedMs hasActivity) h
  by_cases hwake : s.sw.forceWakePending = true ∨ hasActivity = true
  · have hidle := (h.wake elapsedMs hwake).2
    refine ⟨hnext.awake, hnext.asleep, ?_, ?_, fun _ => hidle⟩
    · intro hlight
      rw [hidle] at hlight
      cases hlight
    · intro hdeep
      rw [hidle] at hdeep
      cases hdeep
  · obtain ⟨hforced, rfl⟩ : s.sw.forceWakePending = false ∧ hasActivity = false := by
      simpa using hwake
    have hcases := (h.quiet elapsedMs hforced).2
    refine ⟨hnext.awake, hnext.asleep, ?_, ?_, fun hor => absurd hor.symm hwake⟩
    · intro hlight hnot
      rcases hcases with ⟨hidle, _, hlong⟩ | ⟨_, hdeep, _⟩ | hsame
      · exact ⟨hidle, h.elapsed hforced hlong⟩
      · rw [hlight] at hdeep
        cases hdeep
      · exact absurd (hsame.symm.trans hlight) hnot
    · intro hdeep hnot
      rcases hcases with ⟨_, hlight, _⟩ | ⟨hlight, _, hlong⟩ | hsame
      · rw [hdeep] at hlight
        cases hlight
      · exact ⟨hlight, h.elapsed hforced hlong⟩
      · exact absurd (hsame.symm.trans hdeep) hnot

/-- In every run, whatever the calls find: after each call of
`sleep_wake_process` the clock fits the state, the module goes deeper one state
at a time and only after the timeouts, and it wakes when it has to. -/
theorem sleep_depth_follows (bootMs periHz : Nat) (es : List DepthEvent) :
    Along step (fun s e => ∀ elapsedMs hasActivity, e = .process elapsedMs hasActivity →
      s.Follows elapsedMs hasActivity (s.step e)) (init bootMs periHz) es := by
  apply along_mono (I := Sound) (C := fun _ _ => True) (fun s e h _ => sound_step s e h) _
    (sound_init bootMs periHz) (along_iff.mpr fun _ _ _ _ => trivial)
  rintro s _ h _ elapsedMs hasActivity rfl
  exact h.follows elapsedMs hasActivity

end SleepDepth

end GhostBlade.Firmware
