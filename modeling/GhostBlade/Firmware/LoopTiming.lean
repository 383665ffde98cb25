import GhostBlade.Library.Periodic
import GhostBlade.Firmware.MainLoop
import GhostBlade.Firmware.Telemetry

/-!
The two tasks of the main loop that run by the clock: every second it collects
the measurements, every 100 ms it sends them. The clock is the 32-bit count of
milliseconds since boot; statements and interrupts take any time, so that a task
runs some time after the reading it goes by. The model keeps true times beside the
firmware, which sees none of them.
-/

namespace GhostBlade.Firmware

open GhostBlade.Library GhostBlade.Protocol

def batteryUpdateIntervalMs : ℕ := 1000
def telemetryIntervalMs : ℕ := 100

/-- The linked firmware, the milliseconds since boot, the time at which the clock was
last read, and when the measurements were last collected and telemetry last sent. -/
structure TimedMcu where
  fw : Mcu
  time : ℕ
  read : ℕ
  sampled : TaskRun
  sample : Option Sensors
  sent : TaskRun

/-- An event of the linked firmware and the time that passes before it. -/
inductive TimedEvent where
  | interrupt (wait : ℕ) (rxFifo : List Byte) (tnf : Nat → Bool)
  | main (wait : ℕ) (s : Sensors)

def TimedEvent.wait : TimedEvent → ℕ
  | .interrupt wait _ _ => wait
  | .main wait _ => wait

/-- The event at a time: the clock shows its lowest 32 bits. -/
def TimedEvent.at (e : TimedEvent) (time : ℕ) : LinkedEvent :=
  match e with
  | .interrupt _ rxFifo tnf => .interrupt rxFifo tnf
  | .main _ s => .main { s with nowMs := BitVec.ofNat 32 time }

/-- Whether the event is the statement at a place of the loop. -/
def Mcu.reaches (fw : Mcu) (pc : LoopPc) : LinkedEvent → Bool
  | .interrupt _ _ => false
  | .main _ => fw.main.pc = pc

/-- What `collect_telemetry` reads, if the event calls it. -/
def Mcu.collects (fw : Mcu) : LinkedEvent → Option Sensors
  | .interrupt _ _ => none
  | .main s =>
      if fw.main.pc = .battery ∧ fw.main.now - fw.main.lastBattTime ≥ 1000#32 then some s else none

/-- Whether the event calls `spi_protocol_send_telemetry`. -/
def Mcu.sendsTelemetry (fw : Mcu) : LinkedEvent → Bool
  | .interrupt _ _ => false
  | .main _ =>
      fw.main.pc = .telemetry ∧ fw.main.now - fw.main.lastTelemTime ≥ 100#32

def timedStep (t : TimedMcu) (e : TimedEvent) : TimedMcu :=
  let time := t.time + e.wait
  let linked := e.at time
  { fw := linkedStep t.fw linked
    time := time
    read := if t.fw.reaches .tick linked then time else t.read
    sampled := if (t.fw.collects linked).isSome then ⟨t.read, time⟩ else t.sampled
    sample := (t.fw.collects linked).orElse fun _ => t.sample
    sent := if t.fw.sendsTelemetry linked then ⟨t.read, time⟩ else t.sent }

def timedBoot (batteryMonitorReady cc1101Ready st25r3916Ready : Bool) : TimedMcu :=
  ⟨boot batteryMonitorReady cc1101Ready st25r3916Ready, 0, 0, ⟨0, 0⟩, none, ⟨0, 0⟩⟩

/-- A telemetry payload handed to `build_response_frame`: when, when the measurements
had been collected, and what was collected then. -/
structure TelemetrySent where
  run : TaskRun
  sampled : TaskRun
  sample : Option Sensors
  payload : List Byte

def TimedMcu.telemetrySent (t : TimedMcu) (e : TimedEvent) : List TelemetrySent :=
  if t.fw.sendsTelemetry (e.at (t.time + e.wait)) then
    [⟨⟨t.read, t.time + e.wait⟩, t.sampled, t.sample, t.fw.proto.device.telemetry⟩]
  else []

def TimedMcu.collections (t : TimedMcu) (e : TimedEvent) : List TaskRun :=
  if (t.fw.collects (e.at (t.time + e.wait))).isSome then [⟨t.read, t.time + e.wait⟩] else []

/-- The first ten bytes of the payload that a collection leads to; before the
first one they are zero. -/
def collectedBytes (m : MainState) : Option Sensors → List Byte
  | none => writeLe16 0 ++ writeLe16 0 ++ writeLe16 0 ++ writeLe16 0 ++ writeLe16 0
  | some s =>
      writeLe16 0 ++ writeLe16 (if m.batteryMonitorReady then s.tempCX10 else 0) ++
        writeLe16 (if m.batteryMonitorReady then s.vbatMv else 0) ++
          writeLe16 (if m.cc1101Ready then s.ccRssiX10 else 0) ++
            writeLe16 (if m.st25r3916Ready then s.nfcFieldMv else 0)

/-! ### The variables of the loop and the true times -/

/-- The three variables are the lowest bits of three readings. -/
structure TimedMcu.Clocked (t : TimedMcu) : Prop where
  now : t.fw.main.now = BitVec.ofNat 32 t.read
  lastBattTime : t.fw.main.lastBattTime = BitVec.ofNat 32 t.sampled.look
  lastTelemTime : t.fw.main.lastTelemTime = BitVec.ofNat 32 t.sent.look
  read_le : t.read ≤ t.time
  sampled : t.sampled.Fits t.read t.time
  sent : t.sent.Fits t.read t.time

/-- The variables of the loop after a statement, by its place. -/
theorem mainStep_main (s : Sensors) (fw : Mcu) :
    (mainStep s fw).main =
      match fw.main.pc with
      | .process => { fw.main with pc := .tick }
      | .tick => { fw.main with pc := .battery, now := s.nowMs }
      | .battery =>
          { fw.main with
            pc := .telemetry
            lastBattTime := if fw.main.now - fw.main.lastBattTime ≥ 1000#32 then fw.main.now
              else fw.main.lastBattTime }
      | .telemetry =>
          { fw.main with
            pc := .brownout
            lastTelemTime := if fw.main.now - fw.main.lastTelemTime ≥ 100#32 then fw.main.now
              else fw.main.lastTelemTime }
      | .brownout =>
          { fw.main with
            pc := .process
            loopCount := fw.main.loopCount + 1
            brownoutActive :=
              if fw.main.batteryMonitorReady then batteryIsBrownout s.vbatMv fw.main.brownoutActive
              else fw.main.brownoutActive } := by
  unfold mainStep
  cases fw.main.pc with
  | process => rfl
  | tick => rfl
  | battery =>
      dsimp only
      split_ifs <;> rfl
  | telemetry =>
      dsimp only
      split_ifs <;> rfl
  | brownout =>
      dsimp only
      split_ifs <;> rfl

namespace TimedMcu

variable {t : TimedMcu}

theorem Clocked.due_collect (h : t.Clocked) :
    due 32 batteryUpdateIntervalMs t.sampled.look t.read =
      decide (t.fw.main.now - t.fw.main.lastBattTime ≥ 1000#32) := by
  rw [h.now, h.lastBattTime]
  rfl

theorem Clocked.due_send (h : t.Clocked) :
    due 32 telemetryIntervalMs t.sent.look t.read =
      decide (t.fw.main.now - t.fw.main.lastTelemTime ≥ 100#32) := by
  rw [h.now, h.lastTelemTime]
  rfl

/-- The loop collects exactly when the task of true times is due. -/
theorem Clocked.collects_isSome (h : t.Clocked) (s : Sensors) :
    (t.fw.collects (.main s)).isSome =
      (decide (t.fw.main.pc = .battery) &&
        due 32 batteryUpdateIntervalMs t.sampled.look t.read) := by
  rw [h.due_collect, ← Bool.decide_and, Mcu.collects]
  split_ifs with hcollects
  · exact (decide_eq_true hcollects).symm
  · exact (decide_eq_false hcollects).symm

theorem Clocked.sendsTelemetry_eq (h : t.Clocked) (s : Sensors) :
    t.fw.sendsTelemetry (.main s) =
      (decide (t.fw.main.pc = .telemetry) && due 32 telemetryIntervalMs t.sent.look t.read) := by
  rw [h.due_send, ← Bool.decide_and]
  rfl

/-- The true times behind a statement of the loop. -/
structure Times (t t' : TimedMcu) (wait : ℕ) : Prop where
  time : t'.time = t.time + wait
  read : t'.read = if t.fw.main.pc = .tick then t.time + wait else t.read
  sampled : t'.sampled = if t.fw.main.pc = .battery then
    t.sampled.next 32 batteryUpdateIntervalMs t.read (t.time + wait) else t.sampled
  sent : t'.sent = if t.fw.main.pc = .telemetry then
    t.sent.next 32 telemetryIntervalMs t.read (t.time + wait) else t.sent

theorem Clocked.times (h : t.Clocked) (wait : ℕ) (s : Sensors) :
    Times t (timedStep t (.main wait s)) wait := by
  have hcollects := h.collects_isSome { s with nowMs := BitVec.ofNat 32 (t.time + wait) }
  have hsends := h.sendsTelemetry_eq { s with nowMs := BitVec.ofNat 32 (t.time + wait) }
  refine ⟨rfl, ?_, ?_, ?_⟩
  · simp [timedStep, Mcu.reaches, TimedEvent.at, TimedEvent.wait]
  · simp only [timedStep, TimedEvent.at, TimedEvent.wait, hcollects, TaskRun.next, Bool.and_eq_true,
      decide_eq_true_eq, ite_and]
  · simp only [timedStep, TimedEvent.at, TimedEvent.wait, hsends, TaskRun.next, Bool.and_eq_true,
      decide_eq_true_eq, ite_and]

theorem Clocked.step (h : t.Clocked) (e : TimedEvent) : (timedStep t e).Clocked := by
  have hread := h.read_le
  cases e with
  | interrupt wait rxFifo tnf =>
      exact ⟨h.now, h.lastBattTime, h.lastTelemTime, hread.trans (Nat.le_add_right _ _),
        h.sampled.wait wait, h.sent.wait wait⟩
  | main wait s =>
      obtain ⟨htime, hread', hsampled', hsent'⟩ := h.times wait s
      have hlate : t.read ≤ t.time + wait := hread.trans (Nat.le_add_right _ _)
      have hmain : (timedStep t (.main wait s)).fw.main = _ :=
        mainStep_main { s with nowMs := BitVec.ofNat 32 (t.time + wait) } t.fw
      constructor
      · rw [hmain, hread']
        cases t.fw.main.pc <;> simp [h.now]
      · rw [hmain, hsampled', TaskRun.next, h.due_collect]
        cases t.fw.main.pc with
        | battery =>
            simp only [if_true, decide_eq_true_eq]
            split_ifs
            · exact h.now
            · exact h.lastBattTime
        | process => exact h.lastBattTime
        | tick => exact h.lastBattTime
        | telemetry => exact h.lastBattTime
        | brownout => exact h.lastBattTime
      · rw [hmain, hsent', TaskRun.next, h.due_send]
        cases t.fw.main.pc with
        | telemetry =>
            simp only [if_true, decide_eq_true_eq]
            split_ifs
            · exact h.now
            · exact h.lastTelemTime
        | process => exact h.lastTelemTime
        | tick => exact h.lastTelemTime
        | battery => exact h.lastTelemTime
        | brownout => exact h.lastTelemTime
      · rw [hread', htime]
        split_ifs
        · exact le_rfl
        · exact hlate
      · rw [hsampled', hread', htime]
        cases t.fw.main.pc with
        | tick => exact (h.sampled.wait wait).looked
        | battery => exact (h.sampled.wait wait).next 32 batteryUpdateIntervalMs hlate
        | process => exact h.sampled.wait wait
        | telemetry => exact h.sampled.wait wait
        | brownout => exact h.sampled.wait wait
      · rw [hsent', hread', htime]
        cases t.fw.main.pc with
        | tick => exact (h.sent.wait wait).looked
        | telemetry => exact (h.sent.wait wait).next 32 telemetryIntervalMs hlate
        | process => exact h.sent.wait wait
        | battery => exact h.sent.wait wait
        | brownout => exact h.sent.wait wait

theorem clocked_boot (batteryMonitorReady cc1101Ready st25r3916Ready : Bool) :
    (timedBoot batteryMonitorReady cc1101Ready st25r3916Ready).Clocked :=
  ⟨rfl, rfl, rfl, le_rfl, ⟨le_rfl, le_rfl, .inl rfl⟩, ⟨le_rfl, le_rfl, .inl rfl⟩⟩

/-! ### How often -/

/-- The payloads sent and the collections made in a run. -/
def sentLog (t : TimedMcu) (es : List TimedEvent) : List TelemetrySent :=
  observe timedStep telemetrySent t es

def collectionLog (t : TimedMcu) (es : List TimedEvent) : List TaskRun :=
  observe timedStep collections t es

/-- A statement of the loop sends when the task of its interval is due. -/
theorem Clocked.sends_before (h : t.Clocked) {e : TimedEvent}
    (hsends : t.fw.sendsTelemetry (e.at (t.time + e.wait)) = true) :
    t.sent.Before telemetryIntervalMs ⟨t.read, t.time + e.wait⟩ := by
  cases e with
  | interrupt wait rxFifo tnf => cases hsends
  | main wait s =>
      have hdue := (h.sendsTelemetry_eq _).symm.trans hsends
      rw [Bool.and_eq_true] at hdue
      exact h.sent.before (by decide) hdue.2 _

theorem Clocked.collects_before (h : t.Clocked) {e : TimedEvent}
    (hcollects : (t.fw.collects (e.at (t.time + e.wait))).isSome = true) :
    t.sampled.Before batteryUpdateIntervalMs ⟨t.read, t.time + e.wait⟩ := by
  cases e with
  | interrupt wait rxFifo tnf => cases hcollects
  | main wait s =>
      have hdue := (h.collects_isSome _).symm.trans hcollects
      rw [Bool.and_eq_true] at hdue
      exact h.sampled.before (by decide) hdue.2 _

/-- Each send follows the last one, an interval of the clock behind it. -/
theorem Clocked.sentLog_chain (h : t.Clocked) (es : List TimedEvent) :
    List.IsChain (TaskRun.Before telemetryIntervalMs)
      (t.sent :: (t.sentLog es).map TelemetrySent.run) := by
  induction es generalizing t with
  | nil => exact List.IsChain.singleton _
  | cons e es ih =>
      have hrest := ih (h.step e)
      unfold sentLog at hrest ⊢
      rw [observe, telemetrySent]
      cases hsends : t.fw.sendsTelemetry (e.at (t.time + e.wait)) with
      | true =>
          have hsent : (timedStep t e).sent = ⟨t.read, t.time + e.wait⟩ := by
            simp [timedStep, hsends]
          rw [hsent] at hrest
          exact List.isChain_cons_cons.mpr ⟨h.sends_before hsends, hrest⟩
      | false =>
          have hsent : (timedStep t e).sent = t.sent := by simp [timedStep, hsends]
          rwa [hsent] at hrest

theorem Clocked.collectionLog_chain (h : t.Clocked) (es : List TimedEvent) :
    List.IsChain (TaskRun.Before batteryUpdateIntervalMs) (t.sampled :: t.collectionLog es) := by
  induction es generalizing t with
  | nil => exact List.IsChain.singleton _
  | cons e es ih =>
      have hrest := ih (h.step e)
      unfold collectionLog at hrest ⊢
      rw [observe, collections]
      cases hcollects : (t.fw.collects (e.at (t.time + e.wait))).isSome with
      | true =>
          have hsampled : (timedStep t e).sampled = ⟨t.read, t.time + e.wait⟩ := by
            simp [timedStep, hcollects]
          rw [hsampled] at hrest
          exact List.isChain_cons_cons.mpr ⟨h.collects_before hcollects, hrest⟩
      | false =>
          have hsampled : (timedStep t e).sampled = t.sampled := by simp [timedStep, hcollects]
          rwa [hsampled] at hrest

/-- A task runs behind the reading it goes by. -/
theorem Clocked.sentLog_behind (h : t.Clocked) (es : List TimedEvent) :
    ∀ r ∈ (t.sentLog es).map TelemetrySent.run, r.look ≤ r.time := by
  intro r hr
  obtain ⟨sent, hsent, rfl⟩ := List.mem_map.mp hr
  obtain ⟨t', e, ht', hmem⟩ := mem_observe h (fun _ e h => h.step e) hsent
  unfold telemetrySent at hmem
  split_ifs at hmem
  · rw [List.mem_singleton.mp hmem]
    exact ht'.read_le.trans (Nat.le_add_right _ _)
  · cases hmem

theorem Clocked.collectionLog_behind (h : t.Clocked) (es : List TimedEvent) :
    ∀ r ∈ t.collectionLog es, r.look ≤ r.time := by
  intro r hr
  obtain ⟨t', e, ht', hmem⟩ := mem_observe h (fun _ e h => h.step e) hr
  unfold collections at hmem
  split_ifs at hmem
  · rw [List.mem_singleton.mp hmem]
    exact ht'.read_le.trans (Nat.le_add_right _ _)
  · cases hmem

end TimedMcu

/-- Whatever the passes of the loop take and however often the clock turns, it is read
again, 100 ms later, between two telemetry sends, and a second later between two
collections; so that no stretch of time has more than two above one for every 100 ms,
or for every second. -/
theorem telemetry_rate (batteryMonitorReady cc1101Ready st25r3916Ready : Bool)
    (es : List TimedEvent) :
    let start := timedBoot batteryMonitorReady cc1101Ready st25r3916Ready
    let sent := (start.sentLog es).map TelemetrySent.run
    let collected := start.collectionLog es
    sent.Pairwise (TaskRun.Before 100) ∧ collected.Pairwise (TaskRun.Before 1000) ∧
      ∀ lo hi, (sent.countP fun r => lo ≤ r.time ∧ r.time ≤ hi) * 100 ≤ hi - lo + 200 ∧
        (collected.countP fun r => lo ≤ r.time ∧ r.time ≤ hi) * 1000 ≤ hi - lo + 2000 := by
  intro start sent collected
  have hstart : start.Clocked := TimedMcu.clocked_boot _ _ _
  have hsent : sent.Pairwise (TaskRun.Before 100) :=
    (List.pairwise_cons.mp (List.isChain_iff_pairwise.mp (hstart.sentLog_chain es))).2
  have hcollected : collected.Pairwise (TaskRun.Before 1000) :=
    (List.pairwise_cons.mp (List.isChain_iff_pairwise.mp (hstart.collectionLog_chain es))).2
  refine ⟨hsent, hcollected, fun lo hi => ⟨?_, ?_⟩⟩
  · exact TaskRun.count_le hsent (hstart.sentLog_behind es) lo hi
  · exact TaskRun.count_le hcollected (hstart.collectionLog_behind es) lo hi

namespace TimedMcu

variable {t : TimedMcu}

/-! ### How soon -/

/-- Every statement of the loop comes at most `pause` after the clock was last read. -/
def Prompt (pause : ℕ) (t : TimedMcu) : TimedEvent → Prop
  | .interrupt .. => True
  | .main wait _ => t.time + wait ≤ t.read + pause

instance (pause : ℕ) (t : TimedMcu) (e : TimedEvent) : Decidable (Prompt pause t e) :=
  match e with
  | .interrupt .. => inferInstanceAs (Decidable True)
  | .main wait _ => inferInstanceAs (Decidable (t.time + wait ≤ t.read + pause))

/-- How long ago the two tasks have run; between the reading of the clock and a
task's place in the loop it may be one pass longer. -/
structure Timely (pause : ℕ) (t : TimedMcu) : Prop where
  sampled : t.read <
    t.sampled.look + batteryUpdateIntervalMs + (if t.fw.main.pc = .battery then pause else 0)
  sent : t.read < t.sent.look + telemetryIntervalMs +
    (if t.fw.main.pc = .battery ∨ t.fw.main.pc = .telemetry then pause else 0)

theorem Timely.step {pause : ℕ} (hpause : 1000 + pause < 2 ^ 32) (hc : t.Clocked)
    (h : t.Timely pause) {e : TimedEvent} (he : Prompt pause t e) :
    (timedStep t e).Timely pause := by
  have hbattery : batteryUpdateIntervalMs = 1000 := rfl
  have htelemetry : telemetryIntervalMs = 100 := rfl
  have hsampled := h.sampled
  have hsent := h.sent
  cases e with
  | interrupt wait rxFifo tnf => exact ⟨h.sampled, h.sent⟩
  | main wait s =>
      obtain ⟨htime, hread', hsampled', hsent'⟩ := hc.times wait s
      have hmain : (timedStep t (.main wait s)).fw.main = _ :=
        mainStep_main { s with nowMs := BitVec.ofNat 32 (t.time + wait) } t.fw
      cases hpc : t.fw.main.pc with
      | process =>
          rw [hpc] at hmain hread' hsampled' hsent' hsampled hsent
          constructor
          · simpa [hmain, hread', hsampled'] using hsampled
          · simpa [hmain, hread', hsent'] using hsent
      | tick =>
          have hprompt : t.time + wait ≤ t.read + pause := he
          rw [hpc] at hmain hread' hsampled' hsent' hsampled hsent
          constructor
          · simp [hmain, hread', hsampled'] at hsampled ⊢
            omega
          · simp [hmain, hread', hsent'] at hsent ⊢
            omega
      | battery =>
          rw [hpc] at hmain hread' hsampled' hsent' hsampled hsent
          constructor
          · have hrun := hc.sampled.lt_next 32 (show 0 < batteryUpdateIntervalMs by decide)
              (by simp at hsampled; omega) (t.time + wait)
            simpa [hmain, hread', hsampled'] using hrun
          · simpa [hmain, hread', hsent'] using hsent
      | telemetry =>
          rw [hpc] at hmain hread' hsampled' hsent' hsampled hsent
          constructor
          · simpa [hmain, hread', hsampled'] using hsampled
          · have hrun := hc.sent.lt_next 32 (show 0 < telemetryIntervalMs by decide)
              (by simp at hsent; omega) (t.time + wait)
            simpa [hmain, hread', hsent'] using hrun
      | brownout =>
          rw [hpc] at hmain hread' hsampled' hsent' hsampled hsent
          constructor
          · simpa [hmain, hread', hsampled'] using hsampled
          · simpa [hmain, hread', hsent'] using hsent

theorem timely_boot (pause : ℕ) (batteryMonitorReady cc1101Ready st25r3916Ready : Bool) :
    (timedBoot batteryMonitorReady cc1101Ready st25r3916Ready).Timely pause :=
  ⟨by simp [timedBoot, boot, batteryUpdateIntervalMs],
    by simp [timedBoot, boot, telemetryIntervalMs]⟩

end TimedMcu

/-! ### What is sent -/

/-- The measurements are the first ten bytes of a telemetry payload. -/
def DeviceState.measurements (d : DeviceState) : List Byte :=
  writeLe16 d.lastRssiDbmX10 ++ writeLe16 d.lastTempCX10 ++ writeLe16 d.lastVbatMv ++
    writeLe16 d.lastCcRssiX10 ++ writeLe16 d.lastNfcFieldMv

/-- No command changes a measurement. -/
theorem handleAll_measurements (p : SpiProtocol) (ds : List Dispatched) :
    (ds.foldl SpiProtocol.handle p).device.measurements = p.device.measurements := by
  induction ds generalizing p with
  | nil => rfl
  | cons d ds ih =>
      obtain ⟨streaming, enabled, active, hdevice⟩ := handle_device p d
      rw [List.foldl_cons, ih, hdevice]
      rfl

theorem process_measurements (p : SpiProtocol) (spiRx : Ring Byte 8192) :
    (spiProtocolProcess p spiRx).1.device.measurements = p.device.measurements := by
  obtain ⟨ds, -, hsame⟩ := feed_handles p spiRx.unread
  rw [(spiProtocolProcess_eq p spiRx).1, hsame.device, handleAll_measurements]

namespace TimedMcu

variable {t : TimedMcu}

/-- The cached measurements are those last collected, with the modules that came
up at boot. -/
structure Cached (m : MainState) (t : TimedMcu) : Prop where
  measurements : t.fw.proto.device.measurements = collectedBytes m t.sample
  unsampled : t.sample = none → t.sampled.time = 0
  ready : ∀ sample, collectedBytes t.fw.main sample = collectedBytes m sample

/-- What a collection leads to depends on nothing but the flags of the modules. -/
theorem collectedBytes_congr {m m' : MainState} (sample : Option Sensors)
    (hbattery : m'.batteryMonitorReady = m.batteryMonitorReady)
    (hcc1101 : m'.cc1101Ready = m.cc1101Ready) (hnfc : m'.st25r3916Ready = m.st25r3916Ready) :
    collectedBytes m' sample = collectedBytes m sample := by
  cases sample with
  | none => rfl
  | some s => simp only [collectedBytes, hbattery, hcc1101, hnfc]

theorem mainStep_ready (s : Sensors) (fw : Mcu) (sample : Option Sensors) :
    collectedBytes (mainStep s fw).main sample = collectedBytes fw.main sample := by
  have hmain := mainStep_main s fw
  cases hpc : fw.main.pc <;> rw [hpc] at hmain <;>
    exact collectedBytes_congr sample (by rw [hmain]) (by rw [hmain]) (by rw [hmain])

/-- A statement of the loop collects, or leaves the measurements alone. -/
theorem mainStep_measurements (s : Sensors) (fw : Mcu) :
    (mainStep s fw).proto.device.measurements =
      match fw.collects (.main s) with
      | some s => collectedBytes fw.main (some s)
      | none => fw.proto.device.measurements := by
  unfold Mcu.collects mainStep
  cases hpc : fw.main.pc with
  | process => simpa using process_measurements fw.proto fw.spiRx
  | tick => rfl
  | battery =>
      dsimp only
      split_ifs with hdue hboth hboth
      · rfl
      · exact absurd ⟨rfl, hdue⟩ hboth
      · exact absurd hboth.2 hdue
      · rfl
  | telemetry =>
      have hsame := (sendTelemetry_untouched fw.proto).device
      simp only [reduceCtorEq, false_and, if_false]
      split_ifs
      · rw [hsame]
      · rfl
  | brownout =>
      simp only [reduceCtorEq, false_and, if_false]
      split_ifs <;> rfl

theorem Cached.step {m : MainState} (h : t.Cached m) (e : TimedEvent) :
    (timedStep t e).Cached m := by
  cases e with
  | interrupt wait rxFifo tnf => exact ⟨h.measurements, h.unsampled, h.ready⟩
  | main wait s =>
      have hstep := mainStep_measurements { s with nowMs := BitVec.ofNat 32 (t.time + wait) } t.fw
      have hready (sample : Option Sensors) :
          collectedBytes (timedStep t (.main wait s)).fw.main sample = collectedBytes m sample :=
        (mainStep_ready _ t.fw sample).trans (h.ready sample)
      have hdevice : (timedStep t (.main wait s)).fw.proto.device.measurements = _ := hstep
      cases hcollects :
          t.fw.collects (.main { s with nowMs := BitVec.ofNat 32 (t.time + wait) }) with
      | none =>
          rw [hcollects] at hdevice
          have hsample : (timedStep t (.main wait s)).sample = t.sample := by
            simp [timedStep, TimedEvent.at, TimedEvent.wait, hcollects]
          have hsampled : (timedStep t (.main wait s)).sampled = t.sampled := by
            simp [timedStep, TimedEvent.at, TimedEvent.wait, hcollects]
          refine ⟨?_, ?_, hready⟩
          · rw [hdevice, hsample]
            exact h.measurements
          · rw [hsample, hsampled]
            exact h.unsampled
      | some sample =>
          rw [hcollects] at hdevice
          have hsample : (timedStep t (.main wait s)).sample = some sample := by
            simp [timedStep, TimedEvent.at, TimedEvent.wait, hcollects]
          refine ⟨?_, ?_, hready⟩
          · rw [hdevice, hsample]
            exact h.ready (some sample)
          · rw [hsample]
            exact fun hnone => nomatch hnone

theorem cached_boot (batteryMonitorReady cc1101Ready st25r3916Ready : Bool) :
    (timedBoot batteryMonitorReady cc1101Ready st25r3916Ready).Cached
      (timedBoot batteryMonitorReady cc1101Ready st25r3916Ready).fw.main :=
  ⟨by rfl, fun _ => rfl, fun _ => rfl⟩

/-- When the last payload was sent. -/
theorem run_sent (t : TimedMcu) (es : List TimedEvent) :
    (run timedStep t es).sent = ((t.sentLog es).map TelemetrySent.run).getLastD t.sent := by
  induction es generalizing t with
  | nil => rfl
  | cons e es ih =>
      rw [run_cons, ih, sentLog, sentLog, observe, telemetrySent]
      cases hsends : t.fw.sendsTelemetry (e.at (t.time + e.wait)) with
      | false =>
          have hstep : (timedStep t e).sent = t.sent := by simp [timedStep, hsends]
          rw [hstep]
          rfl
      | true =>
          have hstep : (timedStep t e).sent = ⟨t.read, t.time + e.wait⟩ := by
            simp [timedStep, hsends]
          rw [hstep, if_pos rfl, List.singleton_append, List.map_cons, List.getLastD_cons]

/-- A send of a prompt run is behind its reading by a pause at most. -/
theorem sends_prompt {pause : ℕ} {e : TimedEvent} (he : Prompt pause t e)
    (hsends : t.fw.sendsTelemetry (e.at (t.time + e.wait)) = true) :
    t.fw.main.pc = .telemetry ∧ t.time + e.wait ≤ t.read + pause := by
  cases e with
  | interrupt wait rxFifo tnf => cases hsends
  | main wait s => exact ⟨(of_decide_eq_true hsends).1, he⟩

/-- What a run sends is no older than a second and a pause. -/
theorem sentLog_fresh {m : MainState} {pause : ℕ} (hpause : 1000 + pause < 2 ^ 32)
    (hc : t.Clocked) (htimely : t.Timely pause) (hcached : t.Cached m) {es : List TimedEvent}
    (hes : Along timedStep (Prompt pause) t es) :
    ∀ r ∈ t.sentLog es, r.run.time < r.sampled.time + 1000 + pause ∧
      r.payload.take 10 = collectedBytes m r.sample ∧
        (r.sample = none → r.sampled.time = 0) := by
  induction es generalizing t with
  | nil => exact fun _ hmem => absurd hmem List.not_mem_nil
  | cons e es ih =>
      intro r hmem
      unfold sentLog at hmem
      rw [observe, List.mem_append] at hmem
      rcases hmem with hhere | hlater
      · unfold telemetrySent at hhere
        split_ifs at hhere with hsends
        · rw [List.mem_singleton.mp hhere]
          obtain ⟨hpc, hprompt⟩ := sends_prompt hes.1 hsends
          have hage := htimely.sampled
          have hbehind := hc.sampled.behind
          have hinterval : batteryUpdateIntervalMs = 1000 := rfl
          rw [hpc, if_neg (by decide)] at hage
          exact ⟨by dsimp only; omega, hcached.measurements, hcached.unsampled⟩
        · cases hhere
      · exact ih (hc.step e) (htimely.step hpause hc hes.1) (hcached.step e) hes.2 r hlater

/-- From one send to the next it takes no longer than an interval and two pauses. -/
theorem sentLog_soon {pause : ℕ} (hpause : 1000 + pause < 2 ^ 32) (hc : t.Clocked)
    (htimely : t.Timely pause) {es : List TimedEvent}
    (hes : Along timedStep (Prompt pause) t es) :
    List.IsChain (fun a b : TaskRun => b.time < a.time + 100 + 2 * pause)
      (t.sent :: (t.sentLog es).map TelemetrySent.run) := by
  induction es generalizing t with
  | nil => exact List.IsChain.singleton _
  | cons e es ih =>
      have hrest := ih (hc.step e) (htimely.step hpause hc hes.1) hes.2
      unfold sentLog at hrest ⊢
      rw [observe, telemetrySent]
      cases hsends : t.fw.sendsTelemetry (e.at (t.time + e.wait)) with
      | true =>
          have hsent : (timedStep t e).sent = ⟨t.read, t.time + e.wait⟩ := by
            simp [timedStep, hsends]
          obtain ⟨hpc, hprompt⟩ := sends_prompt hes.1 hsends
          have hage := htimely.sent
          have hbehind := hc.sent.behind
          have hinterval : telemetryIntervalMs = 100 := rfl
          rw [hpc, if_pos (by decide)] at hage
          rw [hsent] at hrest
          refine List.isChain_cons_cons.mpr ⟨?_, hrest⟩
          dsimp only
          omega
      | false =>
          have hsent : (timedStep t e).sent = t.sent := by simp [timedStep, hsends]
          rwa [hsent] at hrest

end TimedMcu

/-- While every statement of the loop comes within a `pause` of the last look at the
clock, every payload carries the measurements collected less than a second and a pause
before, or none so soon after the boot, and each follows the last one within an
interval and two pauses. -/
theorem telemetry_fresh (batteryMonitorReady cc1101Ready st25r3916Ready : Bool) (pause : ℕ)
    (hpause : 1000 + pause < 2 ^ 32) (es : List TimedEvent)
    (hes : Along timedStep (TimedMcu.Prompt pause)
      (timedBoot batteryMonitorReady cc1101Ready st25r3916Ready) es) :
    let start := timedBoot batteryMonitorReady cc1101Ready st25r3916Ready
    let times := (start.sentLog es).map fun r => r.run.time
    (∀ r ∈ start.sentLog es, r.run.time < r.sampled.time + 1000 + pause ∧
      r.payload.take 10 = collectedBytes start.fw.main r.sample ∧
        (r.sample = none → r.sampled.time = 0)) ∧
      List.IsChain (fun a b => b < a + 100 + 2 * pause) (0 :: times) ∧
        (run timedStep start es).read < times.getLastD 0 + 100 + pause := by
  intro start times
  have hclocked : start.Clocked := TimedMcu.clocked_boot _ _ _
  have htimely : start.Timely pause := TimedMcu.timely_boot _ _ _ _
  have htimes : times = ((start.sentLog es).map TelemetrySent.run).map TaskRun.time :=
    (List.map_map ..).symm
  refine ⟨TimedMcu.sentLog_fresh hpause hclocked htimely (TimedMcu.cached_boot _ _ _) hes, ?_, ?_⟩
  · have hsoon : List.IsChain (fun a b => b < a + 100 + 2 * pause)
        ((start.sent :: (start.sentLog es).map TelemetrySent.run).map TaskRun.time) :=
      (List.isChain_map _).mpr (TimedMcu.sentLog_soon hpause hclocked htimely hes)
    rw [htimes]
    exact hsoon
  · obtain ⟨hclocked', htimely'⟩ := run_invariant_along
      (I := fun t : TimedMcu => t.Clocked ∧ t.Timely pause)
      (fun t e h he => ⟨h.1.step e, h.2.step hpause h.1 he⟩) ⟨hclocked, htimely⟩ hes
    have hlast : (run timedStep start es).sent.time = times.getLastD 0 := by
      rw [TimedMcu.run_sent, htimes]
      exact (List.getLastD_map ..).symm
    have hsent := htimely'.sent
    have hbehind := hclocked'.sent.behind
    have hinterval : telemetryIntervalMs = 100 := rfl
    split_ifs at hsent <;> omega

/-- Two passes, 600 ms apart. -/
def slowPasses : List TimedEvent :=
  (List.replicate 2 ()).flatMap fun _ =>
    [.main 600 ⟨0, 3700, 250, 0, 0⟩, .main 0 ⟨0, 3700, 250, 0, 0⟩, .main 0 ⟨0, 3700, 250, 0, 0⟩,
      .main 0 ⟨0, 3700, 250, 0, 0⟩, .main 0 ⟨0, 3700, 250, 0, 0⟩]

theorem telemetry_fresh_slow :
    let start := timedBoot true false false
    ∀ r ∈ start.sentLog slowPasses, r.run.time < r.sampled.time + 1600 :=
  fun r hmem => ((telemetry_fresh true false false 600 (by decide) slowPasses (by decide +kernel)).1
    r hmem).1

end GhostBlade.Firmware
