import GhostBlade.Firmware.Response
import GhostBlade.Firmware.SdrStreaming
import GhostBlade.Library.Run

/-!
What the telemetry flags say and what has happened. The flags of the receiver
and of the battery follow the last stream command and the last brownout value.
No code sets OVERTEMP or SPI_ERR: they are right while the die is no hotter
than 85 °C and no frame has failed a CRC.
-/

namespace GhostBlade.Firmware

open GhostBlade.Library GhostBlade.Protocol

/-- The bytes of `spi_protocol_process` one by one, and the other calls that
`spi_protocol.h` offers. -/
inductive ProtocolCall where
  | byte (byte : Byte)
  | updateTelemetry (rssiDbmX10 tempCX10 vbatMv ccRssiX10 nfcFieldMv : BitVec 16)
  | setBrownout (active : Bool)
  | tick
  | sendIqChunk (data : List Byte)
  | sendTelemetry

def SpiProtocol.call (p : SpiProtocol) : ProtocolCall → SpiProtocol
  | .byte byte => (p.rxByte byte).1
  | .updateTelemetry rssiDbmX10 tempCX10 vbatMv ccRssiX10 nfcFieldMv =>
      spiProtocolUpdateTelemetry rssiDbmX10 tempCX10 vbatMv ccRssiX10 nfcFieldMv p
  | .setBrownout active => spiProtocolSetBrownout active p
  | .tick => spiProtocolTick p
  | .sendIqChunk data => spiProtocolSendIqChunk data p
  | .sendTelemetry => spiProtocolSendTelemetry p

/-- Whether the byte completes a header or a frame whose CRC check fails. A header with
reserved bits set is refused before its CRC-64 is checked, and does not count. -/
def SpiProtocol.crcFails (p : SpiProtocol) (byte : Byte) : Bool :=
  match p.rx.state with
  | .header =>
      let c :=
        { p.rx with
          hdrBuf := p.rx.hdrBuf.setIfInBounds p.rx.hdrIdx byte
          hdrIdx := p.rx.hdrIdx + 1 }
      c.hdrIdx ≥ hdrSize ∧ c.validateFrameHeader.1 = -1
  | .crc32 =>
      let c :=
        { p.rx with
          crc32Buf := p.rx.crc32Buf.setIfInBounds p.rx.crc32Idx byte
          crc32Idx := p.rx.crc32Idx + 1 }
      c.crc32Idx ≥ crc32Size ∧ c.validateFramePayload.1 = -1
  | _ => false

/-- What a dispatched frame makes of "the last accepted stream command was a
start". -/
def streamCommand (started : Bool) (d : Dispatched) : Bool :=
  if d.cmd = cmdSdrStream ∧ ¬ d.len < 1#16 then d.payload.getD 0 0 ≠ 0 else started

/-- The protocol handler and what has happened to it since `spi_protocol_init`. -/
structure Reported where
  proto : SpiProtocol
  started : Bool
  brownout : Bool
  crcFailed : Bool

def Reported.step (s : Reported) (e : ProtocolCall) : Reported where
  proto := s.proto.call e
  started :=
    ((s.proto.call e).dispatched.drop s.proto.dispatched.length).foldl streamCommand s.started
  brownout := match e with
    | .setBrownout active => active
    | _ => s.brownout
  crcFailed := match e with
    | .byte byte => s.crcFailed || s.proto.crcFails byte
    | _ => s.crcFailed

def Reported.init (p : SpiProtocol) : Reported := ⟨spiProtocolInit p, false, false, false⟩

/-- Two fields of `struct telemetry_payload`. -/
def telemetryTemp (payload : List Byte) : BitVec 16 := readLe16 (payload.drop 2)
def telemetryFlags (payload : List Byte) : BitVec 16 := readLe16 (payload.drop 10)

/-- The four flags of the next telemetry payload are right. -/
structure Reported.Faithful (s : Reported) : Prop where
  overtemp : (telemetryFlags s.proto.device.telemetry).getLsbD 6 = true ↔
    850 < (telemetryTemp s.proto.device.telemetry).toInt
  sdrRxActive : (telemetryFlags s.proto.device.telemetry).getLsbD 0 = s.started
  lowBattery : (telemetryFlags s.proto.device.telemetry).getLsbD 7 = s.brownout
  spiErr : (telemetryFlags s.proto.device.telemetry).getLsbD 8 = s.crcFailed

/-- The device state follows the stream commands and the brownout values. -/
structure Reported.Tracks (s : Reported) : Prop where
  streaming : s.proto.device.sdrStreaming = s.started
  rxEnabled : s.proto.device.sdrRxEnabled = s.started
  brownout : s.proto.device.brownoutActive = s.brownout

theorem readLe16_write (v : BitVec 16) (rest : List Byte) : readLe16 (writeLe16 v ++ rest) = v := by
  apply BitVec.eq_of_toNat_eq
  rw [readLe16_toNat, writeLe16, shiftBytes_eq, List.take_left' (leBytes_length 2 _),
    leValue_leBytes_of_lt 2 _ v.isLt]

theorem telemetry_fields (d : DeviceState) :
    telemetryTemp d.telemetry = d.lastTempCX10 ∧
      telemetryFlags d.telemetry = d.telemetryFlags := by
  have htemp : d.telemetry.drop 2 = writeLe16 d.lastTempCX10 ++ (writeLe16 d.lastVbatMv ++
      writeLe16 d.lastCcRssiX10 ++ writeLe16 d.lastNfcFieldMv ++ writeLe16 d.telemetryFlags ++
        writeLe32 d.uptimeMs) := rfl
  have hflags : d.telemetry.drop 10 = writeLe16 d.telemetryFlags ++ writeLe32 d.uptimeMs := rfl
  rw [telemetryTemp, telemetryFlags, htemp, hflags]
  exact ⟨readLe16_write _ _, readLe16_write _ _⟩

/-- The flags of the receiver and the battery, and the two that nothing sets. -/
theorem telemetryFlags_bits (d : DeviceState) :
    d.telemetryFlags.getLsbD 0 = d.sdrRxEnabled ∧ d.telemetryFlags.getLsbD 6 = false ∧
      d.telemetryFlags.getLsbD 7 = d.brownoutActive ∧ d.telemetryFlags.getLsbD 8 = false := by
  have hbit (b : Bool) (i j : Nat) (hj : j < 16) :
      (if b = true then 1#16 <<< i else 0).getLsbD j = (b && decide (j = i)) := by
    cases b with
    | false => simp
    | true =>
        simp only [if_true, BitVec.getLsbD_shiftLeft, BitVec.getLsbD_one, Bool.true_and, hj,
          decide_true]
        by_cases hij : j = i
        · simp [hij]
        · by_cases hlt : j < i
          · simp [hlt, hij]
          · have hne : ¬ j - i = 0 := by omega
            simp [hne, hij]
  unfold DeviceState.telemetryFlags
  simp only [BitVec.getLsbD_or, hbit _ _ _ (show 0 < 16 by decide),
    hbit _ _ _ (show 6 < 16 by decide), hbit _ _ _ (show 7 < 16 by decide),
    hbit _ _ _ (show 8 < 16 by decide)]
  simp

/-- A handler changes no more of the device state than three flags. -/
theorem handle_device (p : SpiProtocol) (d : Dispatched) :
    ∃ streaming enabled active, (p.handle d).device =
      { p.device with
        sdrStreaming := streaming
        sdrRxEnabled := enabled
        nfcActive := active } := by
  have hsame : ∃ streaming enabled active, p.device =
      { p.device with
        sdrStreaming := streaming
        sdrRxEnabled := enabled
        nfcActive := active } := ⟨_, _, _, rfl⟩
  unfold SpiProtocol.handle handleCmd
  split_ifs
  · exact hsame
  · exact hsame
  · unfold handleCmdSdrStream
    dsimp only
    split_ifs
    · exact hsame
    · exact ⟨_, _, _, rfl⟩
    · exact ⟨_, _, _, rfl⟩
    · exact hsame
  · rw [handleCmdAntSelect_eq]
    exact hsame
  · rw [handleCmdCc1101Cfg_eq]
    exact hsame
  · unfold handleCmdNfcTransact
    dsimp only
    split_ifs
    · exact hsame
    · exact hsame
    · exact hsame
    · exact ⟨_, _, _, rfl⟩
  · exact hsame

/-- The two flags of the receiver follow the stream commands. -/
theorem handle_streamCommand {p : SpiProtocol} {started : Bool}
    (hstreaming : p.device.sdrStreaming = started) (henabled : p.device.sdrRxEnabled = started)
    (d : Dispatched) : (p.handle d).device.sdrStreaming = streamCommand started d ∧
      (p.handle d).device.sdrRxEnabled = streamCommand started d := by
  unfold streamCommand
  by_cases hcmd : d.cmd = cmdSdrStream
  · rw [handle_sdrStream p d hcmd]
    by_cases hlen : d.len < 1#16
    · rw [if_neg (fun h => h.2 hlen), (sdrStream_short d.payload d.len p hlen).2]
      exact ⟨hstreaming, henabled⟩
    · obtain ⟨hflag, hsame⟩ := sdrStream_flags d.payload d.len p
        (henabled.trans hstreaming.symm) hlen
      rw [if_pos ⟨hcmd, hlen⟩, hsame, hflag]
      exact ⟨rfl, rfl⟩
  · obtain ⟨hflag, hflag'⟩ := handle_flags p d hcmd
    rw [if_neg (fun h => hcmd h.1), hflag, hflag']
    exact ⟨hstreaming, henabled⟩

theorem handleAll_tracks {p : SpiProtocol} {started : Bool}
    (hstreaming : p.device.sdrStreaming = started) (henabled : p.device.sdrRxEnabled = started)
    (ds : List Dispatched) :
    (ds.foldl SpiProtocol.handle p).device.sdrStreaming = ds.foldl streamCommand started ∧
      (ds.foldl SpiProtocol.handle p).device.sdrRxEnabled = ds.foldl streamCommand started ∧
      (ds.foldl SpiProtocol.handle p).device.brownoutActive = p.device.brownoutActive := by
  induction ds generalizing p started with
  | nil => exact ⟨hstreaming, henabled, rfl⟩
  | cons d ds ih =>
      obtain ⟨hstreaming', henabled'⟩ := handle_streamCommand hstreaming henabled d
      obtain ⟨_, _, _, hdevice⟩ := handle_device p d
      obtain ⟨hs, he, hb⟩ := ih hstreaming' henabled'
      refine ⟨hs, he, hb.trans ?_⟩
      rw [hdevice]

/-- A call that dispatches nothing leaves the last stream command as it was. -/
theorem started_of_dispatched {s : Reported} {e : ProtocolCall}
    (h : (s.proto.call e).dispatched = s.proto.dispatched) : (s.step e).started = s.started := by
  have hnone : (s.proto.call e).dispatched.drop s.proto.dispatched.length = [] := by
    rw [h, List.drop_length]
  exact congrArg (List.foldl streamCommand s.started) hnone

theorem step_brownout (s : Reported) (e : ProtocolCall) :
    (s.step e).brownout = match e with
      | .setBrownout active => active
      | _ => s.brownout := rfl

theorem Reported.Tracks.of_device {s t : Reported} (h : s.Tracks)
    (hdevice : t.proto.device = s.proto.device) (hstarted : t.started = s.started)
    (hbrownout : t.brownout = s.brownout) : t.Tracks where
  streaming := by rw [hdevice, hstarted, h.streaming]
  rxEnabled := by rw [hdevice, hstarted, h.rxEnabled]
  brownout := by rw [hdevice, hbrownout, h.brownout]

theorem Reported.Tracks.step {s : Reported} (h : s.Tracks) (e : ProtocolCall) :
    (s.step e).Tracks := by
  cases e with
  | byte byte =>
      obtain ⟨ds, hlog, hsame⟩ := rxByte_handles s.proto byte
      obtain ⟨hstreaming, henabled, hbrownout⟩ := handleAll_tracks h.streaming h.rxEnabled ds
      have hstarted : (s.step (.byte byte)).started = ds.foldl streamCommand s.started := by
        rw [Reported.step, SpiProtocol.call, hlog, List.drop_left]
      have hdevice : (s.step (.byte byte)).proto.device =
          (ds.foldl SpiProtocol.handle s.proto).device := hsame.device
      constructor
      · rw [hdevice, hstarted, hstreaming]
      · rw [hdevice, hstarted, henabled]
      · rw [hdevice, hbrownout]
        exact h.brownout
  | updateTelemetry rssiDbmX10 tempCX10 vbatMv ccRssiX10 nfcFieldMv =>
      have hstarted := started_of_dispatched (s := s)
        (e := .updateTelemetry rssiDbmX10 tempCX10 vbatMv ccRssiX10 nfcFieldMv) rfl
      exact ⟨h.streaming.trans hstarted.symm, h.rxEnabled.trans hstarted.symm, h.brownout⟩
  | setBrownout active =>
      have hstarted := started_of_dispatched (s := s) (e := .setBrownout active) rfl
      exact ⟨h.streaming.trans hstarted.symm, h.rxEnabled.trans hstarted.symm, rfl⟩
  | tick =>
      have hstarted := started_of_dispatched (s := s) (e := .tick) rfl
      exact ⟨h.streaming.trans hstarted.symm, h.rxEnabled.trans hstarted.symm, h.brownout⟩
  | sendIqChunk data =>
      have hsame := sendIqChunk_untouched s.proto data
      have hstarted := started_of_dispatched (s := s) (e := .sendIqChunk data) hsame.dispatched
      exact h.of_device hsame.device hstarted (step_brownout s (.sendIqChunk data))
  | sendTelemetry =>
      have hsame := sendTelemetry_untouched s.proto
      have hstarted := started_of_dispatched (s := s) (e := .sendTelemetry) hsame.dispatched
      exact h.of_device hsame.device hstarted (step_brownout s .sendTelemetry)

theorem spiProtocolInit_device (p : SpiProtocol) :
    (spiProtocolInit p).device = DeviceState.zero := rfl

theorem init_tracks (p : SpiProtocol) : (Reported.init p).Tracks where
  streaming := congrArg DeviceState.sdrStreaming (spiProtocolInit_device p)
  rxEnabled := congrArg DeviceState.sdrRxEnabled (spiProtocolInit_device p)
  brownout := congrArg DeviceState.brownoutActive (spiProtocolInit_device p)

/-- What can make a telemetry payload wrong: a hot die or a frame that failed a
CRC. -/
theorem Reported.Tracks.faithful_iff {s : Reported} (h : s.Tracks) :
    s.Faithful ↔ s.proto.device.lastTempCX10.toInt ≤ 850 ∧ s.crcFailed = false := by
  obtain ⟨htemp, hflags⟩ := telemetry_fields s.proto.device
  obtain ⟨hrx, hover, hlow, herr⟩ := telemetryFlags_bits s.proto.device
  constructor
  · intro hfaithful
    have hcool := hfaithful.overtemp
    have hcrc := hfaithful.spiErr
    rw [hflags, htemp, hover] at hcool
    rw [hflags, herr] at hcrc
    refine ⟨?_, hcrc.symm⟩
    by_contra hhot
    exact absurd (hcool.mpr (by omega)) (by decide)
  · rintro ⟨hcool, hcrc⟩
    constructor
    · rw [hflags, htemp, hover]
      constructor
      · exact fun hset => absurd hset (by decide)
      · intro hhot
        omega
    · rw [hflags, hrx, h.rxEnabled]
    · rw [hflags, hlow, h.brownout]
    · rw [hflags, herr, hcrc]

/-- Whether the receiver is active and the battery low is always told right. -/
theorem activity_reported (p : SpiProtocol) (es : List ProtocolCall) :
    let s := run Reported.step (Reported.init p) es
    (telemetryFlags s.proto.device.telemetry).getLsbD 0 = s.started ∧
      (telemetryFlags s.proto.device.telemetry).getLsbD 7 = s.brownout := by
  intro s
  have h : s.Tracks := run_invariant (fun _ e h => h.step e) (init_tracks p) es
  obtain ⟨hrx, _, hlow, _⟩ := telemetryFlags_bits s.proto.device
  rw [(telemetry_fields s.proto.device).2, hrx, hlow]
  exact ⟨h.rxEnabled, h.brownout⟩

/-- In a run from `spi_protocol_init` every telemetry payload is right exactly
when each is sent with the die no hotter than 85 °C and no CRC failed before. -/
theorem telemetry_faithful_iff (p : SpiProtocol) (es : List ProtocolCall) :
    Along Reported.step (fun s e => e = .sendTelemetry → s.Faithful) (Reported.init p) es ↔
      Along Reported.step (fun s e => e = .sendTelemetry →
        s.proto.device.lastTempCX10.toInt ≤ 850 ∧ s.crcFailed = false) (Reported.init p) es :=
  along_congr (fun _ e h => h.step e) (fun _ _ h => imp_congr_right fun _ => h.faithful_iff)
    (init_tracks p) es

/-- A die at 85.1 °C is sent without OVERTEMP, and a header with a wrong CRC
leaves SPI_ERR clear. -/
theorem overtemp_not_reported :
    let p : SpiProtocol :=
      ⟨RxCtx.zero, ProtoStats.zero, DeviceState.zero, ⟨fun _ => 0, 0, 0⟩, ⟨0, []⟩, []⟩
    ¬ Along Reported.step (fun s e => e = .sendTelemetry → s.Faithful) (Reported.init p)
        [.updateTelemetry 0 851 0 0 0, .sendTelemetry] ∧
      ¬ Along Reported.step (fun s e => e = .sendTelemetry → s.Faithful) (Reported.init p)
        ((syncByte :: List.replicate 15 0).map .byte ++ [.sendTelemetry]) := by
  intro p
  constructor
  · rintro ⟨-, hsent, -⟩
    have hover := (hsent rfl).overtemp
    exact absurd hover (by decide)
  · intro hall
    have hsent := (along_append.mp hall).2.1 rfl
    have herr := hsent.spiErr
    exact absurd herr (by decide +kernel)

end GhostBlade.Firmware
