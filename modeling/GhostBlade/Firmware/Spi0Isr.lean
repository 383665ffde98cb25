import GhostBlade.Firmware.Board
import GhostBlade.Firmware.Crc

/-!
The SPI0 interrupt handler of the firmware (`spi0_isr.c`). It assembles frames
byte by byte in one linear buffer and stops at a complete frame until the main
loop releases it; responses are sent from a buffer of its own.
-/

namespace GhostBlade.Firmware

open GhostBlade.Library GhostBlade.Protocol

inductive FrameState where
  | idle
  | header
  | payload
  | complete
  | error
deriving DecidableEq, Repr

structure Spi0Rx where
  buf : Vector Byte 4112
  pos : Nat
  state : FrameState
  payloadLen : BitVec 16
  frameReady : Bool

structure Spi0Tx where
  buf : Vector Byte 4112
  len : BitVec 16
  responsePending : Bool

structure Spi0Stats where
  framesReceived : BitVec 32
  framesValidated : BitVec 32
  framesRejectedSync : BitVec 32
  framesRejectedHdrCrc : BitVec 32
  framesRejectedPayCrc : BitVec 32
  framesRejectedLen : BitVec 32
  rxOverflows : BitVec 32
  bytesReceived : BitVec 32

structure Spi0 where
  rx : Spi0Rx
  tx : Spi0Tx
  stats : Spi0Stats

def validateSyncByte (byte : Byte) : Bool := byte = syncByte

def validateHeaderCrc64 (buf : List Byte) : Bool :=
  crc64Compute (buf.take 8) = orBytes 0 0 ((buf.drop 8).take 8)

def validatePayloadCrc32 (buf : List Byte) (payloadLen : BitVec 16) : Bool :=
  let computed :=
    if payloadLen = 0 then crc32Compute []
    else crc32Compute ((buf.drop hdrSize).take payloadLen.toNat)
  computed = orBytes 0 0 ((buf.drop (hdrSize + payloadLen.toNat)).take 4)

def extractPayloadLength (buf : List Byte) : BitVec 16 := orBytes 0 0 ((buf.drop 2).take 2)

/-- A sync byte opens a new frame, from idle as from the error state. -/
def Spi0.startFrame (s : Spi0) (byte : Byte) : Spi0 :=
  { s with rx := { s.rx with buf := s.rx.buf.setIfInBounds 0 byte, pos := 1, state := .header } }

/-- What follows the last header byte. -/
def Spi0.headerComplete (s : Spi0) : Spi0 :=
  if validateHeaderCrc64 s.rx.buf.toList = false then
    { s with
      rx := { s.rx with state := .error }
      stats := { s.stats with framesRejectedHdrCrc := s.stats.framesRejectedHdrCrc + 1 } }
  else
    let s := { s with rx := { s.rx with payloadLen := extractPayloadLength s.rx.buf.toList } }
    if s.rx.payloadLen.toNat > maxPayload then
      { s with
        rx := { s.rx with state := .error }
        stats := { s.stats with framesRejectedLen := s.stats.framesRejectedLen + 1 } }
    else { s with rx := { s.rx with state := .payload } }

/-- What follows the last trailer byte. -/
def Spi0.frameComplete (s : Spi0) : Spi0 :=
  if validatePayloadCrc32 s.rx.buf.toList s.rx.payloadLen then
    { s with
      rx := { s.rx with state := .complete, frameReady := true }
      stats :=
        { s.stats with
          framesValidated := s.stats.framesValidated + 1
          framesReceived := s.stats.framesReceived + 1 } }
  else
    { s with
      rx := { s.rx with state := .error }
      stats := { s.stats with framesRejectedPayCrc := s.stats.framesRejectedPayCrc + 1 } }

def Spi0.storeByte (s : Spi0) (byte : Byte) : Spi0 :=
  { s with
    rx := { s.rx with buf := s.rx.buf.setIfInBounds s.rx.pos byte, pos := s.rx.pos + 1 } }

/-- `case FRAME_STATE_HEADER`. -/
def Spi0.onHeader (s : Spi0) (byte : Byte) : Spi0 :=
  if s.rx.pos < hdrSize then
    let s := s.storeByte byte
    if s.rx.pos = hdrSize then s.headerComplete else s
  else s

/-- `case FRAME_STATE_PAYLOAD`. -/
def Spi0.onPayload (s : Spi0) (byte : Byte) : Spi0 :=
  if s.rx.pos < hdrSize + s.rx.payloadLen.toNat + crc32Size then
    let s := s.storeByte byte
    if s.rx.pos = hdrSize + s.rx.payloadLen.toNat + crc32Size then s.frameComplete else s
  else { s with rx := { s.rx with state := .error } }

/-- `spi0_process_byte`. -/
def Spi0.processByte (s : Spi0) (byte : Byte) : Spi0 :=
  let s := { s with stats := { s.stats with bytesReceived := s.stats.bytesReceived + 1 } }
  match s.rx.state with
  | .idle =>
      if validateSyncByte byte then s.startFrame byte
      else
        { s with
          stats := { s.stats with framesRejectedSync := s.stats.framesRejectedSync + 1 } }
  | .header => s.onHeader byte
  | .payload => s.onPayload byte
  | .complete => { s with stats := { s.stats with rxOverflows := s.stats.rxOverflows + 1 } }
  | .error => if validateSyncByte byte then s.startFrame byte else s

/-- How many bytes the TX loop of the handler loads: at most 16, at most the
response, and only while the FIFO reports room. -/
def txLoaded (len : Nat) (tnf : Nat → Bool) : Nat → Nat → Nat
  | 0, txPos => txPos
  | fuel + 1, txPos =>
      if txPos < len ∧ tnf txPos = true then txLoaded len tnf fuel (txPos + 1) else txPos

/-- `spi0_handler` with the bytes waiting in the RX FIFO and the answers of the
TX FIFO to its polls; the last component is what it writes to SSPDR. -/
def spi0Handler (rxFifo : List Byte) (tnf : Nat → Bool) (s : Spi0) (board : Board) :
    Spi0 × Board × List Byte :=
  let s := (rxFifo.take 256).foldl Spi0.processByte s
  if s.tx.responsePending then
    let txPos := txLoaded s.tx.len.toNat tnf 16 0
    let sent := s.tx.buf.toList.take txPos
    if txPos ≥ s.tx.len.toNat then
      ({ s with tx := { s.tx with responsePending := false } }, intReqDeassert board, sent)
    else (s, board, sent)
  else (s, board, [])

/-- `spi0_rx_get_frame`. -/
def Spi0.rxGetFrame (s : Spi0) : Option (List Byte) :=
  if s.rx.frameReady then some (s.rx.buf.toList.take s.rx.pos) else none

/-- `spi0_rx_release_frame`. -/
def Spi0.rxReleaseFrame (s : Spi0) : Spi0 :=
  { s with
    rx :=
      { s.rx with
        buf := Vector.ofFn fun i => if i.val < s.rx.pos then 0 else s.rx.buf.get i
        frameReady := false
        pos := 0
        payloadLen := 0
        state := .idle } }

/-- `spi0_tx_queue_response`. -/
def Spi0.txQueueResponse (s : Spi0) (frame : List Byte) (board : Board) : Spi0 × Board :=
  if frame.length > frameSizeMax then (s, board)
  else
    ({ s with
        tx :=
          { s.tx with
            buf := Vector.ofFn fun i => frame.getD i.val (s.tx.buf.get i)
            len := BitVec.ofNat 16 frame.length
            responsePending := true } },
      intReqAssert board)

def Spi0Rx.zero : Spi0Rx := ⟨Vector.replicate 4112 0, 0, .idle, 0, false⟩

def Spi0Tx.zero : Spi0Tx := ⟨Vector.replicate 4112 0, 0, false⟩

/-- The statics of the file before `main` runs. -/
def Spi0.zero : Spi0 := ⟨Spi0Rx.zero, Spi0Tx.zero, ⟨0, 0, 0, 0, 0, 0, 0, 0⟩⟩

/-- `spi0_rx_reset`. -/
def Spi0.rxReset (s : Spi0) : Spi0 := { s with rx := Spi0Rx.zero }

/-- Receiving never touches the response. -/
theorem processByte_tx (s : Spi0) (byte : Byte) : (s.processByte byte).tx = s.tx := by
  have hheader (t : Spi0) : t.headerComplete.tx = t.tx := by
    unfold Spi0.headerComplete
    dsimp only
    repeat' split
    all_goals rfl
  have hframe (t : Spi0) : t.frameComplete.tx = t.tx := by
    unfold Spi0.frameComplete
    split <;> rfl
  unfold Spi0.processByte
  dsimp only
  cases s.rx.state with
  | idle =>
      dsimp only
      split <;> rfl
  | header =>
      dsimp only [Spi0.onHeader]
      repeat' split
      · exact hheader _
      · rfl
      · rfl
  | payload =>
      dsimp only [Spi0.onPayload]
      repeat' split
      · exact hframe _
      · rfl
      · rfl
  | complete => rfl
  | error =>
      dsimp only
      split <;> rfl

theorem processBytes_tx (s : Spi0) (bytes : List Byte) :
    (bytes.foldl Spi0.processByte s).tx = s.tx := by
  induction bytes generalizing s with
  | nil => rfl
  | cons b bytes ih =>
      rw [List.foldl_cons, ih, processByte_tx]

/-- With no response pending the handler only receives. -/
theorem spi0Handler_of_idle_tx (rxFifo : List Byte) (tnf : Nat → Bool) (s : Spi0)
    (board : Board) (h : s.tx.responsePending = false) :
    spi0Handler rxFifo tnf s board =
      ((rxFifo.take 256).foldl Spi0.processByte s, board, []) := by
  have htx : ((rxFifo.take 256).foldl Spi0.processByte s).tx.responsePending = false := by
    rw [processBytes_tx, h]
  simp [spi0Handler, htx]

end GhostBlade.Firmware
