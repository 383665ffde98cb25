import GhostBlade.Library.Simulation
import GhostBlade.Bridge.Linked
import GhostBlade.Bridge.Radio
import GhostBlade.Firmware.LoopTiming
import GhostBlade.Firmware.RxPath
import GhostBlade.Host.Requests

/-!
The whole way from the driver's operations to the radios, for any handler of the SPI
interrupt. Bytes lie on the wire until an interrupt takes them and in the ring until
the main loop does; the loop does its other work in between, and the driver may pulse
the reset of the MCU. Above that, the radios simply serve each command when it is asked
for. With a handler that stores what it takes, as the weak one does, both agree whenever
nothing is on its way. The handler that is linked stores nothing, and the radios never
serve anything.
-/

namespace GhostBlade.Bridge

open GhostBlade.Library GhostBlade.Library.Framing GhostBlade.Protocol GhostBlade.Host
open GhostBlade.Firmware

/-- What the MCU comes up with behind a reset. -/
structure Startup where
  batteryMonitorReady : Bool
  cc1101Ready : Bool
  st25r3916Ready : Bool
  regs : Nat → Byte

def Startup.boot (up : Startup) : Mcu :=
  Firmware.boot up.batteryMonitorReady up.cc1101Ready up.st25r3916Ready

/-- What an SPI0 interrupt does with the bytes in the RX FIFO. -/
abbrev SpiHandler := List Byte → Mcu → Mcu

/-- The bytes go to the ring of the protocol handler as long as they fit. -/
structure SpiHandler.Stores (handler : SpiHandler) : Prop where
  proto : ∀ bytes fw, (handler bytes fw).proto = fw.proto
  unread : ∀ bytes fw, fw.spiRx.used + bytes.length < 8192 →
    (handler bytes fw).spiRx.unread = fw.spiRx.unread ++ bytes

/-- An operation of the driver, an interrupt that takes some bytes off the wire, one pass
through the loop of `spi_protocol_process`, or the next statement of the main loop. -/
inductive RemoteEvent where
  | host (op : DriverOp) (env : Env) (up : Startup)
  | interrupt (count : Nat)
  | pass
  | main (s : Sensors)

/-! ### Byte by byte -/

/-- `regs` is what the CC1101 was initialised with. -/
structure Remote where
  dev : Dev
  wire : List Byte
  fw : Mcu
  regs : Nat → Byte

def Remote.start (up : Startup) : Remote := ⟨.probed, [], up.boot, up.regs⟩

/-- What an operation clocks out; a failed transfer clocks nothing. -/
def clockedOut (op : DriverOp) (env : Env) (dev : Dev) : List Byte :=
  if env.spiSync < 0 then [] else (driverOp op env dev).sent.getD []

def processPass (fw : Mcu) : Mcu :=
  if fw.main.pc = .process ∧ fw.spiRx.head ≠ fw.spiRx.tail then
    { fw with
      proto := (fw.proto.rxByte (fw.spiRx.cells fw.spiRx.tail)).1
      spiRx := fw.spiRx.advance }
  else fw

/-- The MCU runs while its reset line is high. -/
def Remote.up (s : Remote) : Bool := s.dev.gpioMcuReset

def remoteStep (handler : SpiHandler) (s : Remote) : RemoteEvent → Remote
  | .host op env up =>
      let dev := (driverOp op env s.dev).dev
      if s.up then
        if dev.gpioMcuReset then { s with dev := dev, wire := s.wire ++ clockedOut op env s.dev }
        else { s with dev := dev, wire := [] }
      else if dev.gpioMcuReset then ⟨dev, [], up.boot, up.regs⟩
      else { s with dev := dev }
  | .interrupt count =>
      if s.up then
        { s with wire := s.wire.drop count, fw := handler (s.wire.take count) s.fw }
      else s
  | .pass => if s.up then { s with fw := processPass s.fw } else s
  | .main sensors => if s.up then { s with fw := mainStep sensors s.fw } else s

/-- Behind the frame of the RX work goes out no byte that could start another, and the
ring has room for what an interrupt finds. -/
def Remote.Reliable (s : Remote) : RemoteEvent → Prop
  | .host op env _ => syncByte ∉ trailing op env
  | .interrupt count => s.fw.spiRx.used + (s.wire.take count).length < 8192
  | .pass => True
  | .main _ => True

/-- Nothing is on its way. -/
structure Remote.Quiet (s : Remote) : Prop where
  up : s.up = true
  wire : s.wire = []
  ring : s.fw.spiRx.unread = []

/-! ### Command by command -/

structure Controlled where
  dev : Dev
  radio : Radio

def Controlled.start (up : Startup) : Controlled := ⟨.probed, .start up.regs⟩

/-- The commands of an operation whose transfer succeeds. -/
def asked (op : DriverOp) (env : Env) (dev : Dev) : List Command :=
  if env.spiSync < 0 then [] else (requested op env dev).toList.map fun r => ⟨r.1, r.2⟩

def controlledStep (t : Controlled) : RemoteEvent → Controlled
  | .host op env up =>
      let dev := (driverOp op env t.dev).dev
      if t.dev.gpioMcuReset then ⟨dev, (asked op env t.dev).foldl Radio.serve t.radio⟩
      else if dev.gpioMcuReset then ⟨dev, .start up.regs⟩
      else { t with dev := dev }
  | .interrupt _ | .pass | .main _ => t

/-! ### What the main loop does beside the commands -/

/-- Nothing that the radios or the frame assembly depend on has changed. -/
structure Background (p q : SpiProtocol) : Prop where
  rx : q.rx = p.rx
  dispatched : q.dispatched = p.dispatched
  streaming : q.device.sdrStreaming = p.device.sdrStreaming
  rxEnabled : q.device.sdrRxEnabled = p.device.sdrRxEnabled
  nfcActive : q.device.nfcActive = p.device.nfcActive
  received : ∀ cmd, receivedCount q.stats cmd = receivedCount p.stats cmd
  board : q.board = p.board ∨ ∃ value, q.board = p.board.writeGpioOut value

theorem sendTelemetry_background (p : SpiProtocol) : Background p (spiProtocolSendTelemetry p) := by
  unfold spiProtocolSendTelemetry buildResponseFrame
  dsimp only
  split_ifs
  · exact ⟨rfl, rfl, rfl, rfl, rfl, fun _ => rfl, .inl rfl⟩
  · exact ⟨rfl, rfl, rfl, rfl, rfl, fun _ => rfl, .inl rfl⟩
  · exact ⟨rfl, rfl, rfl, rfl, rfl, fun _ => rfl, .inr ⟨_, rfl⟩⟩

theorem mainStep_background {fw : Mcu} (hpc : fw.main.pc ≠ .process) (s : Sensors) :
    Background fw.proto (mainStep s fw).proto ∧ (mainStep s fw).spiRx = fw.spiRx := by
  unfold mainStep
  split
  · exact absurd ‹_› hpc
  · exact ⟨⟨rfl, rfl, rfl, rfl, rfl, fun _ => rfl, .inl rfl⟩, rfl⟩
  · split_ifs
    · exact ⟨⟨rfl, rfl, rfl, rfl, rfl, fun _ => rfl, .inl rfl⟩, rfl⟩
    · exact ⟨⟨rfl, rfl, rfl, rfl, rfl, fun _ => rfl, .inl rfl⟩, rfl⟩
  · split_ifs
    · exact ⟨sendTelemetry_background fw.proto, rfl⟩
    · exact ⟨⟨rfl, rfl, rfl, rfl, rfl, fun _ => rfl, .inl rfl⟩, rfl⟩
  · dsimp only
    split_ifs
    · exact ⟨⟨rfl, rfl, rfl, rfl, rfl, fun _ => rfl, .inl rfl⟩, rfl⟩
    · exact ⟨⟨rfl, rfl, rfl, rfl, rfl, fun _ => rfl, .inl rfl⟩, rfl⟩

theorem Mirrors.background {p q : SpiProtocol} {regs : Nat → Byte} {r : Radio}
    (h : Mirrors p regs r) (hsame : Background p q) : Mirrors q regs r := by
  have hboard : q.board.antenna = p.board.antenna ∧ (q.board.chip regs).Holds r.regs := by
    rcases hsame.board with hnone | ⟨value, hwrite⟩
    · rw [hnone]
      exact ⟨rfl, h.drives.chip⟩
    · rw [hwrite]
      exact ⟨antenna_writeGpioOut _ value, chip_writeGpioOut _ regs h.drives.chip value⟩
  refine ⟨⟨?_, ?_, ?_, hboard.1.trans h.drives.antenna, hboard.2⟩, ?_⟩
  · rw [hsame.streaming]
    exact h.drives.streaming
  · rw [hsame.rxEnabled]
    exact h.drives.rxEnabled
  · rw [hsame.nfcActive]
    exact h.drives.nfcActive
  · intro cmd n hn
    rw [hsame.received] at hn
    exact h.counts cmd n hn

/-! ### The simulation -/

/-- What the firmware has served and, on the wire and in its ring, what it has not. -/
structure Remote.Carries (s : Remote) (now : Radio) (pending : List Command) : Prop where
  mirrors : Mirrors s.fw.proto s.regs now
  log : s.fw.proto.dispatched = now.served.map Command.dispatched
  valid : s.fw.proto.rx.Valid
  idle : mainPolicy.format.scan s.fw.proto.rx.scan (s.fw.spiRx.unread ++ s.wire) = .idle
  signals : (mainPolicy.format.signals s.fw.proto.rx.scan
    (s.fw.spiRx.unread ++ s.wire)).filterMap mainAccepts = pending.map Command.dispatched
  length : ∀ c ∈ pending, c.payload.length ≤ maxPayload

theorem serveAll_served (r : Radio) (cs : List Command) :
    (cs.foldl Radio.serve r).served = r.served ++ cs := by
  induction cs generalizing r with
  | nil => exact (List.append_nil _).symm
  | cons c cs ih =>
      rw [List.foldl_cons, ih, Radio.serve, List.append_assoc]
      rfl

section

variable {handler : SpiHandler} {s : Remote} {now : Radio} {pending : List Command}

/-- Bytes that go from the ring into the frame assembly. -/
theorem Remote.Carries.feed (h : s.Carries now pending) {fw : Mcu} {u : List Byte}
    (hproto : fw.proto = s.fw.proto.feed u) (hring : s.fw.spiRx.unread = u ++ fw.spiRx.unread) :
    ∃ now' pending', ({ s with fw := fw } : Remote).Carries now' pending' ∧
      pending'.foldl Radio.serve now' = pending.foldl Radio.serve now := by
  have hfollows := feed_follows s.fw.proto u h.valid
  have hidle := h.idle
  have hpending := h.signals
  rw [hring, List.append_assoc, Format.scan_append, ← hfollows.scan, ← hproto] at hidle
  rw [hring, List.append_assoc, Format.signals_append, ← hfollows.scan, ← hproto,
    List.filterMap_append] at hpending
  obtain ⟨served, left, rfl, hserved, hleft⟩ := List.map_eq_append_iff.mp hpending.symm
  have hlog := hfollows.dispatched
  rw [← hserved] at hlog
  have hmirrors := (h.mirrors.handleAll fun c hc => h.length c (List.mem_append_left _ hc)).congr
    (feed_devices s.fw.proto u _ hlog)
  refine ⟨served.foldl Radio.serve now, left, ⟨?_, ?_, ?_, hidle, hleft.symm, ?_⟩, ?_⟩
  · dsimp only
    rw [hproto]
    exact hmirrors
  · dsimp only
    rw [hproto, hlog, h.log, serveAll_served, List.map_append]
  · dsimp only
    rw [hproto]
    exact hfollows.valid
  · exact fun c hc => h.length c (List.mem_append_right _ hc)
  · rw [List.foldl_append]

/-- Bytes that an interrupt stores. -/
theorem Remote.Carries.interrupt (h : s.Carries now pending) (hstores : handler.Stores)
    {count : Nat} (hroom : s.fw.spiRx.used + (s.wire.take count).length < 8192) :
    ({ s with
        wire := s.wire.drop count
        fw := handler (s.wire.take count) s.fw } : Remote).Carries now pending := by
  have hproto := hstores.proto (s.wire.take count) s.fw
  have hbytes : (handler (s.wire.take count) s.fw).spiRx.unread ++ s.wire.drop count =
      s.fw.spiRx.unread ++ s.wire := by
    rw [hstores.unread _ _ hroom, List.append_assoc, List.take_append_drop]
  refine ⟨?_, ?_, ?_, ?_, ?_, h.length⟩
  · dsimp only
    rw [hproto]
    exact h.mirrors
  · dsimp only
    rw [hproto]
    exact h.log
  · dsimp only
    rw [hproto]
    exact h.valid
  · dsimp only
    rw [hproto, hbytes]
    exact h.idle
  · dsimp only
    rw [hproto, hbytes]
    exact h.signals

theorem Remote.Carries.background (h : s.Carries now pending) {fw : Mcu}
    (hsame : Background s.fw.proto fw.proto) (hring : fw.spiRx = s.fw.spiRx) :
    ({ s with fw := fw } : Remote).Carries now pending := by
  refine ⟨h.mirrors.background hsame, ?_, ?_, ?_, ?_, h.length⟩
  · dsimp only
    rw [hsame.dispatched]
    exact h.log
  · dsimp only
    rw [hsame.rx]
    exact h.valid
  · dsimp only
    rw [hsame.rx, hring]
    exact h.idle
  · dsimp only
    rw [hsame.rx, hring]
    exact h.signals

end

theorem processPass_eq (fw : Mcu) :
    processPass fw = fw ∨ ∃ b, (processPass fw).proto = fw.proto.feed [b] ∧
      fw.spiRx.unread = [b] ++ (processPass fw).spiRx.unread := by
  unfold processPass
  split_ifs with hmore
  · exact .inr ⟨_, rfl, fw.spiRx.unread_cons hmore.2⟩
  · exact .inl rfl

/-- Everything the MCU does keeps what has been and is to be served. -/
theorem Remote.Carries.process {s : Remote} {now : Radio} {pending : List Command}
    (h : s.Carries now pending) (sensors : Sensors) (hpc : s.fw.main.pc = .process) :
    ∃ now' pending', ({ s with fw := mainStep sensors s.fw } : Remote).Carries now' pending' ∧
      pending'.foldl Radio.serve now' = pending.foldl Radio.serve now := by
  obtain ⟨hproto, hempty⟩ := spiProtocolProcess_eq s.fw.proto s.fw.spiRx
  have hstep : mainStep sensors s.fw =
      { s.fw with
        proto := (spiProtocolProcess s.fw.proto s.fw.spiRx).1
        spiRx := (spiProtocolProcess s.fw.proto s.fw.spiRx).2.1
        main := { s.fw.main with pc := .tick } } := by
    unfold mainStep
    rw [hpc]
  rw [hstep]
  exact h.feed hproto (by dsimp only; rw [hempty, List.append_nil])

/-- A frame on its way to an idle handler, with silence behind it. -/
theorem command_scanned {c : Command} (hlen : c.payload.length ≤ maxPayload) {rest : List Byte}
    (hquiet : syncByte ∉ rest) :
    mainPolicy.format.scan .idle (encode c.cmd c.payload ++ rest) = .idle ∧
      (mainPolicy.format.signals .idle (encode c.cmd c.payload ++ rest)).filterMap mainAccepts =
        [c.dispatched] := by
  obtain ⟨hscan, hsigs, -⟩ := requests_scanned [Request.of c.cmd c.payload hlen]
  obtain ⟨hidle, hnone⟩ := mainPolicy.format.idle_quiet rest hquiet
  rw [List.flatMap_singleton, Request.encoding_eq] at hscan hsigs
  rw [Format.scan_append, Format.signals_append]
  have henc : encode (Request.of c.cmd c.payload hlen).cmd
      (Request.of c.cmd c.payload hlen).payload = encode c.cmd c.payload := rfl
  rw [henc] at hscan hsigs
  rw [hscan, hnone, List.append_nil]
  exact ⟨hidle, hsigs⟩

/-- What an operation clocks out goes behind what is on the wire. -/
theorem Remote.Carries.host {s : Remote} {now : Radio} {pending : List Command}
    (h : s.Carries now pending) (op : DriverOp) {env : Env} (hquiet : syncByte ∉ trailing op env)
    (dev : Dev) :
    ({ s with dev := dev, wire := s.wire ++ clockedOut op env s.dev } : Remote).Carries now
      (pending ++ asked op env s.dev) := by
  have hsent : (∃ c : Command, c.payload.length ≤ maxPayload ∧ asked op env s.dev = [c] ∧
        clockedOut op env s.dev = encode c.cmd c.payload ++ trailing op env) ∨
      asked op env s.dev = [] ∧ clockedOut op env s.dev = [] := by
    unfold asked clockedOut
    split_ifs
    · exact .inr ⟨rfl, rfl⟩
    · rw [driverOp_sent]
      cases hrequest : requested op env s.dev with
      | none => exact .inr ⟨rfl, rfl⟩
      | some r => exact .inl ⟨⟨r.1, r.2⟩, requested_length hrequest, rfl, rfl⟩
  rcases hsent with ⟨c, hlen, hasked, hclocked⟩ | ⟨hasked, hclocked⟩
  · obtain ⟨hscan, hsigs⟩ := command_scanned hlen hquiet
    rw [hasked, hclocked]
    refine ⟨h.mirrors, h.log, h.valid, ?_, ?_, ?_⟩
    · dsimp only
      rw [← List.append_assoc, Format.scan_append, h.idle, hscan]
    · dsimp only
      rw [← List.append_assoc, Format.signals_append, h.idle, List.filterMap_append, h.signals,
        hsigs, List.map_append, List.map_singleton]
    · intro c' hc'
      rcases List.mem_append.mp hc' with hold | hnew
      · exact h.length c' hold
      · rw [List.mem_singleton.mp hnew]
        exact hlen
  · rw [hasked, hclocked, List.append_nil, List.append_nil]
    exact ⟨h.mirrors, h.log, h.valid, h.idle, h.signals, h.length⟩

/-- An MCU that has just come up has served nothing. -/
theorem boot_carries (dev : Dev) (up : Startup) :
    (⟨dev, [], up.boot, up.regs⟩ : Remote).Carries (.start up.regs) [] := by
  have hempty : up.boot.spiRx.unread = [] := (Ring.unread_eq_nil_iff _).mpr rfl
  have hchip : (up.boot.proto.board.chip up.regs).Holds up.regs :=
    chip_writeGpioOut _ _ (chip_writeGpioOut _ _ (chip_writeGpioOut ⟨0, []⟩ _ ⟨rfl, rfl⟩ _) _) _
  refine ⟨⟨⟨rfl, rfl, rfl, rfl, hchip⟩, ?_⟩, rfl, RxCtx.valid_of_idle rfl, ?_, ?_, nofun⟩
  · intro cmd n hn
    have hzero : receivedCount ProtoStats.zero cmd = some n := hn
    unfold receivedCount at hzero
    split_ifs at hzero
    all_goals exact (Option.some.inj hzero).symm
  · dsimp only
    rw [hempty, RxCtx.scan_of_idle rfl]
    rfl
  · dsimp only
    rw [hempty, RxCtx.scan_of_idle rfl]
    rfl

/-- While the MCU runs, the radios above are those below once they have served what
is on its way. -/
structure Remote.Shows (s : Remote) (t : Controlled) : Prop where
  dev : s.dev = t.dev
  carries : s.up = true → ∃ now pending, s.Carries now pending ∧
    pending.foldl Radio.serve now = t.radio

/-- The MCU's own steps, seen from above. -/
theorem Remote.Shows.of_firmware {s : Remote} {t : Controlled} (h : s.Shows t)
    {s' : Remote} (hdev : s'.dev = s.dev)
    (hkeep : ∀ now pending, s.Carries now pending → ∃ now' pending', s'.Carries now' pending' ∧
      pending'.foldl Radio.serve now' = pending.foldl Radio.serve now) : s'.Shows t := by
  refine ⟨hdev.trans h.dev, fun hup => ?_⟩
  obtain ⟨now, pending, hcarries, hradio⟩ := h.carries (by rw [← hup, Remote.up, Remote.up, hdev])
  obtain ⟨now', pending', hcarries', hsame⟩ := hkeep now pending hcarries
  exact ⟨now', pending', hcarries', hsame.trans hradio⟩

section

variable {handler : SpiHandler}

theorem Remote.Shows.host {s : Remote} {t : Controlled} (h : s.Shows t) (op : DriverOp)
    {env : Env} (up : Startup) (hquiet : syncByte ∉ trailing op env) :
    (remoteStep handler s (.host op env up)).Shows (controlledStep t (.host op env up)) := by
  unfold remoteStep controlledStep Remote.up
  dsimp only
  rw [← h.dev]
  split_ifs with hup hstays hcomes
  · obtain ⟨now, pending, hcarries, hradio⟩ := h.carries hup
    refine ⟨rfl, fun _ => ⟨now, _, hcarries.host op hquiet _, ?_⟩⟩
    rw [List.foldl_append, hradio]
  · exact ⟨rfl, fun hup' => absurd hup' hstays⟩
  · exact ⟨rfl, fun _ => ⟨_, [], boot_carries _ up, rfl⟩⟩
  · exact ⟨rfl, fun hup' => absurd hup' hcomes⟩

theorem Remote.Shows.step {s : Remote} {t : Controlled} (hstores : handler.Stores)
    (e : RemoteEvent) (h : s.Shows t) (hsafe : s.Reliable e) :
    (remoteStep handler s e).Shows (controlledStep t e) := by
  cases e with
  | host op env up => exact h.host op up hsafe
  | interrupt count =>
      rw [remoteStep, controlledStep]
      split_ifs
      · exact h.of_firmware rfl fun now pending hcarries =>
          ⟨now, pending, hcarries.interrupt hstores hsafe, rfl⟩
      · exact h
  | pass =>
      rw [remoteStep, controlledStep]
      split_ifs
      · refine h.of_firmware rfl fun now pending hcarries => ?_
        rcases processPass_eq s.fw with hnone | ⟨b, hproto, hring⟩
        · rw [hnone]
          exact ⟨now, pending, hcarries, rfl⟩
        · exact hcarries.feed hproto hring
      · exact h
  | main sensors =>
      rw [remoteStep, controlledStep]
      split_ifs
      · refine h.of_firmware rfl fun now pending hcarries => ?_
        by_cases hpc : s.fw.main.pc = .process
        · exact hcarries.process sensors hpc
        · obtain ⟨hsame, hring⟩ := mainStep_background hpc sensors
          exact ⟨now, pending, hcarries.background hsame hring, rfl⟩
      · exact h

/-- With nothing on its way, nothing is left to serve. -/
theorem Remote.Carries.quiet {s : Remote} {now : Radio} {pending : List Command}
    (h : s.Carries now pending) (hquiet : s.Quiet) : pending = [] := by
  have hsignals := h.signals
  rw [hquiet.wire, hquiet.ring] at hsignals
  exact List.map_eq_nil_iff.mp hsignals.symm

end

/-- The firmware has executed exactly the commands asked for since its last reset, in
order, and the radios are as these commands leave them. -/
def Remote.Executed (s : Remote) (t : Controlled) : Prop :=
  Mirrors s.fw.proto s.regs t.radio ∧
    s.fw.proto.dispatched = t.radio.served.map Command.dispatched

theorem Remote.Shows.executed {s : Remote} {t : Controlled} (h : s.Shows t) (hquiet : s.Quiet) :
    s.Executed t := by
  obtain ⟨now, pending, hcarries, hradio⟩ := h.carries hquiet.up
  rw [hcarries.quiet hquiet] at hradio
  rw [Remote.Executed, ← hradio]
  exact ⟨hcarries.mirrors, hcarries.log⟩

/-! ### The handler that is linked -/

end GhostBlade.Bridge
