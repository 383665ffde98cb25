import GhostBlade.Firmware.Board
import GhostBlade.Firmware.Crc
import GhostBlade.Library.Ring

/-!
The protocol handler of the firmware (`spi_protocol.c`): the frame assembly
state machine, the command handlers, and the response frames it queues in the
TX ring. `SpiProtocol` holds the static variables of the file together with
the board the handlers act on. The buffers keep whatever earlier frames left
in them.
-/

namespace GhostBlade.Firmware

open GhostBlade.Library GhostBlade.Protocol

def cmdNop : Byte := 0xFF#8
def cmdSdrTune : Byte := 0x01#8
def cmdSdrStream : Byte := 0x02#8
def cmdAntSelect : Byte := 0x03#8
def cmdCc1101Cfg : Byte := 0x04#8
def cmdNfcTransact : Byte := 0x05#8
def cmdTelemetry : Byte := 0x81#8
def cmdSdrIqChunk : Byte := 0x82#8

inductive RxState where
  | idle
  | header
  | payload
  | crc32
  | complete
  | error
deriving DecidableEq, Repr

structure RxCtx where
  state : RxState
  hdrBuf : Vector Byte 16
  payloadBuf : Vector Byte 4092
  crc32Buf : Vector Byte 4
  hdrIdx : Nat
  payloadIdx : Nat
  crc32Idx : Nat
  expectedPayloadLen : BitVec 16
  framesReceived : BitVec 32
  framesCrcError : BitVec 32
  framesSyncError : BitVec 32
  framesDispatched : BitVec 32

structure ProtoStats where
  cmdNopRx : BitVec 32
  cmdSdrTuneRx : BitVec 32
  cmdSdrStreamRx : BitVec 32
  cmdAntSelectRx : BitVec 32
  cmdCc1101CfgRx : BitVec 32
  cmdNfcTransactRx : BitVec 32
  telemetrySent : BitVec 32
  iqChunksSent : BitVec 32
  txOverruns : BitVec 32
deriving DecidableEq

/-- The signed measurements are kept as the 16 bits they are sent as. -/
structure DeviceState where
  sdrStreaming : Bool
  sdrTxEnabled : Bool
  sdrRxEnabled : Bool
  cc1101RxActive : Bool
  cc1101TxActive : Bool
  nfcActive : Bool
  nfcTagPresent : Bool
  brownoutActive : Bool
  uptimeMs : BitVec 32
  lastRssiDbmX10 : BitVec 16
  lastVbatMv : BitVec 16
  lastTempCX10 : BitVec 16
  lastCcRssiX10 : BitVec 16
  lastNfcFieldMv : BitVec 16
deriving DecidableEq

/-- One call of `dispatch_frame`: the command, the length and the payload
bytes it hands to the command's handler. -/
structure Dispatched where
  cmd : Byte
  len : BitVec 16
  payload : List Byte
deriving DecidableEq

/-- Neither `SPI_RX_BUF_SIZE` nor `TX_RING_SIZE` is zero. -/
instance spiRxBufSize_neZero : NeZero 8192 := ⟨by decide⟩
instance txRingSize_neZero : NeZero 4096 := ⟨by decide⟩

structure SpiProtocol where
  rx : RxCtx
  stats : ProtoStats
  device : DeviceState
  tx : Ring Byte 4096
  board : Board
  dispatched : List Dispatched

def readLe16 (p : List Byte) : BitVec 16 := orBytes 0 0 (p.take 2)
def readLe32 (p : List Byte) : BitVec 32 := orBytes 0 0 (p.take 4)
def readLe64 (p : List Byte) : BitVec 64 := hornerBytes (p.take 8)
def writeLe16 (v : BitVec 16) : List Byte := shiftBytes 2 v
def writeLe32 (v : BitVec 32) : List Byte := shiftBytes 4 v
def writeLe64 (v : BitVec 64) : List Byte := shiftBytes 8 v

/-- The bytes `build_response_frame` assembles on its stack. -/
def responseFrame (cmd : Byte) (payload : List Byte) : List Byte :=
  let fields := [syncByte, cmd] ++ writeLe16 (BitVec.ofNat 16 payload.length) ++ writeLe32 0
  let hdr := fields ++ writeLe64 (crc64Compute fields)
  hdr ++ payload ++ writeLe32 (crc32Compute payload)

/-- The masked subtraction of the TX ring indices. -/
def txUsed (tx : Ring Byte 4096) : BitVec 32 :=
  (BitVec.ofNat 32 tx.head.val - BitVec.ofNat 32 tx.tail.val) &&& 4095#32

/-- Return value and state after `build_response_frame`. -/
def buildResponseFrame (cmd : Byte) (payload : List Byte) (p : SpiProtocol) :
    Int × SpiProtocol :=
  if payload.length > maxPayload then (-1, p)
  else
    let frame := responseFrame cmd payload
    let totalLen := hdrSize + payload.length + crc32Size
    let avail := 4096#32 - txUsed p.tx - 1#32
    if BitVec.ofNat 32 totalLen > avail then
      (-1, { p with stats := { p.stats with txOverruns := p.stats.txOverruns + 1 } })
    else
      (0, { p with tx := p.tx.putAll frame, board := intReqAssert p.board })

def handleCmdNop (p : SpiProtocol) : SpiProtocol :=
  { p with stats := { p.stats with cmdNopRx := p.stats.cmdNopRx + 1 } }

/-- The request is checked and then dropped: the tuner is not driven yet. -/
def handleCmdSdrTune (p : SpiProtocol) : SpiProtocol :=
  { p with stats := { p.stats with cmdSdrTuneRx := p.stats.cmdSdrTuneRx + 1 } }

def handleCmdSdrStream (payload : List Byte) (len : BitVec 16) (p : SpiProtocol) :
    SpiProtocol :=
  let p := { p with stats := { p.stats with cmdSdrStreamRx := p.stats.cmdSdrStreamRx + 1 } }
  if len < 1#16 then p
  else
    let enable := payload.getD 0 0
    if enable ≠ 0 ∧ p.device.sdrStreaming = false then
      { p with
        device := { p.device with sdrStreaming := true, sdrRxEnabled := true }
        board := apexSdrLnaEnable true (apexSdrRxEnable true p.board) }
    else if enable = 0 ∧ p.device.sdrStreaming = true then
      { p with
        device := { p.device with sdrStreaming := false, sdrRxEnabled := false }
        board := apexSdrLnaEnable false (apexSdrRxEnable false p.board) }
    else p

def handleCmdAntSelect (payload : List Byte) (len : BitVec 16) (p : SpiProtocol) :
    SpiProtocol :=
  let p := { p with stats := { p.stats with cmdAntSelectRx := p.stats.cmdAntSelectRx + 1 } }
  if len < 1#16 then p
  else
    let antId := payload.getD 0 0
    if antId > 3#8 then p
    else { p with board := apexAntennaSelect antId p.board }

def handleCmdCc1101Cfg (payload : List Byte) (len : BitVec 16) (p : SpiProtocol) :
    SpiProtocol :=
  let p := { p with stats := { p.stats with cmdCc1101CfgRx := p.stats.cmdCc1101CfgRx + 1 } }
  if len < 2#16 then p
  else
    let regAddr := payload.getD 0 0
    let regLen := payload.getD 1 0
    if regAddr > 0x3D#8 ∨ regAddr = 0x2F#8 then p
    else if len.toNat < 2 + regLen.toNat then p
    else if regAddr ≤ 0x2E#8 ∧ regAddr.toNat + regLen.toNat > 0x2F then p
    else if regAddr ≥ 0x30#8 ∧ regAddr.toNat + regLen.toNat > 0x3E then p
    else
      let data := (payload.drop 2).take regLen.toNat
      { p with board := apexCc1101WriteBurst regAddr data p.board }

def handleCmdNfcTransact (payload : List Byte) (len : BitVec 16) (p : SpiProtocol) :
    SpiProtocol :=
  let p :=
    { p with stats := { p.stats with cmdNfcTransactRx := p.stats.cmdNfcTransactRx + 1 } }
  if len < 4#16 then p
  else
    let dataLen := readLe16 (payload.drop 2)
    if dataLen > 256#16 then p
    else if len < 4#16 + dataLen then p
    else { p with device := { p.device with nfcActive := true } }

/-- Overwrite the first `n` bytes with zeros. -/
def secureWipe {n : Nat} (buf : Vector Byte n) (len : Nat) : Vector Byte n :=
  Vector.ofFn fun i => if i.val < len then 0 else buf.get i

/-- The switch of `dispatch_frame`; unknown commands are ignored. -/
def handleCmd (cmd : Byte) (payload : List Byte) (len : BitVec 16) (p : SpiProtocol) :
    SpiProtocol :=
  if cmd = cmdNop then handleCmdNop p
  else if cmd = cmdSdrTune then handleCmdSdrTune p
  else if cmd = cmdSdrStream then handleCmdSdrStream payload len p
  else if cmd = cmdAntSelect then handleCmdAntSelect payload len p
  else if cmd = cmdCc1101Cfg then handleCmdCc1101Cfg payload len p
  else if cmd = cmdNfcTransact then handleCmdNfcTransact payload len p
  else p

/-- `dispatch_frame`, which also enters the call in the dispatch log. -/
def dispatchFrame (p : SpiProtocol) : SpiProtocol :=
  let cmd := p.rx.hdrBuf.toList.getD 1 0
  let len := p.rx.expectedPayloadLen
  let payload := p.rx.payloadBuf.toList
  let p :=
    { p with
      rx := { p.rx with framesDispatched := p.rx.framesDispatched + 1 }
      dispatched := p.dispatched ++ [⟨cmd, len, payload.take len.toNat⟩] }
  let p := handleCmd cmd payload len p
  { p with rx := { p.rx with payloadBuf := secureWipe p.rx.payloadBuf len.toNat } }

/-- Return value and context after `validate_frame_header`. -/
def RxCtx.validateFrameHeader (c : RxCtx) : Int × RxCtx :=
  let hdr := c.hdrBuf.toList
  if hdr.getD 0 0 ≠ syncByte then
    (-2, { c with framesSyncError := c.framesSyncError + 1 })
  else if readLe32 (hdr.drop 4) ≠ 0 then
    (-3, { c with framesCrcError := c.framesCrcError + 1 })
  else if readLe64 (hdr.drop 8) ≠ crc64Compute (hdr.take 8) then
    (-1, { c with framesCrcError := c.framesCrcError + 1 })
  else (0, c)

/-- Return value and context after `validate_frame_payload`. -/
def RxCtx.validateFramePayload (c : RxCtx) : Int × RxCtx :=
  if c.expectedPayloadLen = 0 then (0, c)
  else if readLe32 c.crc32Buf.toList ≠
      crc32Compute (c.payloadBuf.toList.take c.expectedPayloadLen.toNat) then
    (-1, { c with framesCrcError := c.framesCrcError + 1 })
  else (0, c)

/-- `case RX_STATE_IDLE`. -/
def RxCtx.onIdle (c : RxCtx) (byte : Byte) : RxCtx :=
  if byte = syncByte then
    { c with hdrBuf := c.hdrBuf.setIfInBounds 0 byte, hdrIdx := 1, state := .header }
  else c

/-- What follows the last header byte. -/
def RxCtx.headerComplete (c : RxCtx) : RxCtx :=
  let (ret, c) := c.validateFrameHeader
  if ret = 0 then
    let c := { c with expectedPayloadLen := readLe16 (c.hdrBuf.toList.drop 2) }
    if c.expectedPayloadLen.toNat > maxPayload then
      { c with state := .idle, framesCrcError := c.framesCrcError + 1 }
    else if c.expectedPayloadLen > 0#16 then
      { c with payloadIdx := 0, state := .payload }
    else { c with crc32Idx := 0, state := .crc32 }
  else { c with state := .idle }

/-- `case RX_STATE_HEADER`. -/
def RxCtx.onHeader (c : RxCtx) (byte : Byte) : RxCtx :=
  let c := { c with hdrBuf := c.hdrBuf.setIfInBounds c.hdrIdx byte, hdrIdx := c.hdrIdx + 1 }
  if c.hdrIdx ≥ hdrSize then c.headerComplete else c

/-- `case RX_STATE_PAYLOAD`. -/
def RxCtx.onPayload (c : RxCtx) (byte : Byte) : RxCtx :=
  let c :=
    { c with
      payloadBuf := c.payloadBuf.setIfInBounds c.payloadIdx byte
      payloadIdx := c.payloadIdx + 1 }
  if c.payloadIdx ≥ c.expectedPayloadLen.toNat then { c with crc32Idx := 0, state := .crc32 }
  else c

/-- What follows the last trailer byte, with the number of frames dispatched. -/
def SpiProtocol.frameComplete (p : SpiProtocol) : SpiProtocol × Nat :=
  let c := { p.rx with framesReceived := p.rx.framesReceived + 1 }
  let (ret, c) := c.validateFramePayload
  if ret = 0 then
    let p := dispatchFrame { p with rx := c }
    ({ p with rx := { p.rx with state := .idle } }, 1)
  else ({ p with rx := { c with state := .idle } }, 0)

/-- `case RX_STATE_CRC32`. -/
def SpiProtocol.onCrc32 (p : SpiProtocol) (byte : Byte) : SpiProtocol × Nat :=
  let c :=
    { p.rx with
      crc32Buf := p.rx.crc32Buf.setIfInBounds p.rx.crc32Idx byte
      crc32Idx := p.rx.crc32Idx + 1 }
  if c.crc32Idx ≥ crc32Size then SpiProtocol.frameComplete { p with rx := c }
  else ({ p with rx := c }, 0)

/-- One pass through the loop body of `spi_protocol_process`. -/
def SpiProtocol.rxByte (p : SpiProtocol) (byte : Byte) : SpiProtocol × Nat :=
  match p.rx.state with
  | .idle => ({ p with rx := p.rx.onIdle byte }, 0)
  | .header => ({ p with rx := p.rx.onHeader byte }, 0)
  | .payload => ({ p with rx := p.rx.onPayload byte }, 0)
  | .crc32 => p.onCrc32 byte
  | .complete => ({ p with rx := { p.rx with state := .idle } }, 0)
  | .error => ({ p with rx := { p.rx with state := .idle } }, 0)

/-- The loop of `spi_protocol_process`, for at most `fuel` bytes. -/
def drain : Nat → SpiProtocol → Ring Byte 8192 → Nat → SpiProtocol × Ring Byte 8192 × Nat
  | 0, p, spiRx, frames => (p, spiRx, frames)
  | fuel + 1, p, spiRx, frames =>
      if spiRx.head = spiRx.tail then (p, spiRx, frames)
      else
        let byte := spiRx.cells spiRx.tail
        let (p, done) := p.rxByte byte
        drain fuel p spiRx.advance (frames + done)

/-- `spi_protocol_process` on the RX ring. The ring holds as many bytes as the
loop can take, and nothing is stored while it runs. -/
def spiProtocolProcess (p : SpiProtocol) (spiRx : Ring Byte 8192) :
    SpiProtocol × Ring Byte 8192 × Nat :=
  drain spiRx.used p spiRx 0

/-- The activity bits of the telemetry flags. -/
def DeviceState.telemetryFlags (d : DeviceState) : BitVec 16 :=
  (if d.sdrRxEnabled then 1#16 <<< 0 else 0) ||| (if d.sdrTxEnabled then 1#16 <<< 1 else 0) |||
  (if d.cc1101RxActive then 1#16 <<< 2 else 0) ||| (if d.cc1101TxActive then 1#16 <<< 3 else 0) |||
  (if d.nfcActive then 1#16 <<< 4 else 0) ||| (if d.nfcTagPresent then 1#16 <<< 5 else 0) |||
  (if d.brownoutActive then 1#16 <<< 7 else 0)

/-- The 16 bytes of `struct telemetry_payload`. -/
def DeviceState.telemetry (d : DeviceState) : List Byte :=
  writeLe16 d.lastRssiDbmX10 ++ writeLe16 d.lastTempCX10 ++ writeLe16 d.lastVbatMv ++
    writeLe16 d.lastCcRssiX10 ++ writeLe16 d.lastNfcFieldMv ++ writeLe16 d.telemetryFlags ++
    writeLe32 d.uptimeMs

def spiProtocolSendTelemetry (p : SpiProtocol) : SpiProtocol :=
  let p := (buildResponseFrame cmdTelemetry p.device.telemetry p).2
  { p with stats := { p.stats with telemetrySent := p.stats.telemetrySent + 1 } }

/-- `spi_protocol_send_iq_chunk`; longer data is cut to the largest payload. -/
def spiProtocolSendIqChunk (data : List Byte) (p : SpiProtocol) : SpiProtocol :=
  if p.device.sdrStreaming = false then p
  else
    let p := (buildResponseFrame cmdSdrIqChunk (data.take maxPayload) p).2
    { p with stats := { p.stats with iqChunksSent := p.stats.iqChunksSent + 1 } }

def spiProtocolUpdateTelemetry (rssiDbmX10 tempCX10 vbatMv ccRssiX10 nfcFieldMv : BitVec 16)
    (p : SpiProtocol) : SpiProtocol :=
  { p with
    device :=
      { p.device with
        lastRssiDbmX10 := rssiDbmX10
        lastTempCX10 := tempCX10
        lastVbatMv := vbatMv
        lastCcRssiX10 := ccRssiX10
        lastNfcFieldMv := nfcFieldMv } }

def spiProtocolTick (p : SpiProtocol) : SpiProtocol :=
  { p with device := { p.device with uptimeMs := p.device.uptimeMs + 1 } }

def spiProtocolSetBrownout (active : Bool) (p : SpiProtocol) : SpiProtocol :=
  { p with device := { p.device with brownoutActive := active } }

def RxCtx.zero : RxCtx where
  state := .idle
  hdrBuf := Vector.replicate 16 0
  payloadBuf := Vector.replicate 4092 0
  crc32Buf := Vector.replicate 4 0
  hdrIdx := 0
  payloadIdx := 0
  crc32Idx := 0
  expectedPayloadLen := 0
  framesReceived := 0
  framesCrcError := 0
  framesSyncError := 0
  framesDispatched := 0

def ProtoStats.zero : ProtoStats := ⟨0, 0, 0, 0, 0, 0, 0, 0, 0⟩

def DeviceState.zero : DeviceState :=
  ⟨false, false, false, false, false, false, false, false, 0, 0, 0, 0, 0, 0⟩

/-- `spi_protocol_init`: contexts and counters cleared, the TX ring emptied and
the interrupt line released. -/
def spiProtocolInit (p : SpiProtocol) : SpiProtocol :=
  { p with
    rx := RxCtx.zero
    stats := ProtoStats.zero
    device := DeviceState.zero
    tx := { p.tx with head := 0, tail := 0 }
    board := intReqDeassert p.board }

section

variable (p : List Byte)

theorem readLe16_toNat : (readLe16 p).toNat = leValue (p.take 2) := by
  have h := orBytes_toNat (w := 16) 0 0 (p.take 2) (by simp) (by simp; omega)
  simpa [readLe16] using h

theorem readLe32_toNat : (readLe32 p).toNat = leValue (p.take 4) := by
  have h := orBytes_toNat (w := 32) 0 0 (p.take 4) (by simp) (by simp; omega)
  simpa [readLe32] using h

theorem readLe64_toNat : (readLe64 p).toNat = leValue (p.take 8) :=
  hornerBytes_toNat (p.take 8) (by simp; omega)

end

/-- Responses are the frames of the protocol. -/
theorem responseFrame_eq (cmd : Byte) (payload : List Byte) (hlen : payload.length < 65536) :
    responseFrame cmd payload = encode cmd payload := by
  have hlenBytes : writeLe16 (BitVec.ofNat 16 payload.length) = leBytes 2 payload.length := by
    rw [writeLe16, shiftBytes_eq, BitVec.toNat_ofNat, Nat.mod_eq_of_lt hlen]
  have hzero : writeLe32 0 = leBytes 4 0 := by decide
  have hfields : [syncByte, cmd] ++ writeLe16 (BitVec.ofNat 16 payload.length) ++ writeLe32 0 =
      headerFields cmd payload.length 0 := by
    rw [hlenBytes, hzero]
    rfl
  simp only [responseFrame, hfields, crc64Compute_eq, crc32Compute_eq]
  simp only [encode, rawFrame, header, writeLe64, writeLe32, shiftBytes_eq, List.append_assoc]

@[simp] theorem telemetry_length (d : DeviceState) : d.telemetry.length = 16 := rfl

end GhostBlade.Firmware
