import GhostBlade.Firmware.MainLoop
import GhostBlade.Firmware.Response
import GhostBlade.Firmware.SpiProtocolScan
import GhostBlade.Host.Frame

/-!
Frames across the bridge. What the driver encodes, the firmware's protocol
handler dispatches, frame by frame and in order, however many frames follow
each other; and what the firmware queues in its TX ring, the driver accepts
with the same contents.
-/

namespace GhostBlade.Bridge

open GhostBlade.Library GhostBlade.Library.Framing GhostBlade.Protocol GhostBlade.Host
open GhostBlade.Firmware

/-- A request the driver may encode: a payload of admissible length and a
buffer of the largest frame size. -/
structure Request where
  cmd : Byte
  payload : List Byte
  buffer : List Byte
  payload_le : payload.length ≤ maxPayload
  buffer_size : buffer.length = frameSizeMax

/-- The bytes `apex_build_frame` leaves at the start of the buffer. -/
def Request.encoding (r : Request) : List Byte :=
  let (totalLen, buf) := apexBuildFrame r.cmd r.payload r.buffer
  buf.take totalLen.toNat

/-- The dispatch the request asks for. -/
def Request.dispatched (r : Request) : Dispatched :=
  ⟨r.cmd, BitVec.ofNat 16 r.payload.length, r.payload⟩

theorem Request.encoding_eq (r : Request) : r.encoding = encode r.cmd r.payload := by
  have hmax : r.payload.length ≤ 4092 := r.payload_le
  have hbuf : r.buffer.length = 4112 := r.buffer_size
  have hbuilt := apexBuildFrame_ok r.cmd r.payload r.buffer r.payload_le (by omega)
  have hlen : (((20 + r.payload.length : Nat) : Int)).toNat =
      (encode r.cmd r.payload).length := by
    rw [Int.toNat_natCast, encode_length]
  simp only [Request.encoding, hbuilt, hlen]
  exact List.take_left

/-- A request of every command and admissible payload exists. -/
def Request.of (cmd : Byte) (payload : List Byte) (h : payload.length ≤ maxPayload) : Request :=
  ⟨cmd, payload, List.replicate frameSizeMax 0, h, List.length_replicate ..⟩

/-- An encoded request is one frame for the protocol handler, which accepts it. -/
theorem Request.accepted (r : Request) :
    ∃ hdr body, r.encoding = hdr ++ body ∧ mainPolicy.format.Fits hdr body ∧
      mainAccepts (.frame hdr body) = some r.dispatched := by
  obtain ⟨hfits, hok⟩ := mainPolicy.fits_encode r.cmd r.payload r.payload_le
  refine ⟨_, _, r.encoding_eq, hfits, ?_⟩
  rw [mainAccepts, if_pos hok, bodyPayload_append]
  rfl

/-- A concatenation of encoded requests takes an idle handler back to idle; it
dispatches request by request and rejects nothing. -/
theorem requests_scanned (requests : List Request) :
    let stream := requests.flatMap Request.encoding
    mainPolicy.format.scan .idle stream = .idle ∧
      (mainPolicy.format.signals .idle stream).filterMap mainAccepts =
        requests.map Request.dispatched ∧
      ((mainPolicy.format.signals .idle stream).countP fun sig =>
        (mainAccepts sig).isNone) = 0 := by
  induction requests with
  | nil => exact ⟨rfl, rfl, rfl⟩
  | cons r requests ih =>
      obtain ⟨hdr, body, henc, hfits, haccept⟩ := r.accepted
      obtain ⟨hscan, hsig⟩ := mainPolicy.format.idle_frame hdr body hfits
      obtain ⟨hrest, hsigs, hcount⟩ := ih
      dsimp only at hrest hsigs hcount ⊢
      rw [List.flatMap_cons, henc, Format.scan_append, Format.signals_append, hscan, hsig]
      refine ⟨hrest, ?_, ?_⟩
      · rw [List.filterMap_append, hsigs]
        simp [haccept]
      · rw [List.countP_append, hcount]
        simp [haccept]

/-- With an empty ring, a byte goes through the fallback handler straight into
the protocol handler. -/
theorem fallbackByte_eq (fw : Mcu) (b : Byte) (h : fw.spiRx.unread = []) :
    (fallbackByte fw b).proto = (fw.proto.rxByte b).1 ∧ (fallbackByte fw b).spiRx.unread = [] := by
  have hused : fw.spiRx.used = 0 := by rw [← Ring.unread_length, h, List.length_nil]
  obtain ⟨hstore, hunread⟩ := storeRxByte_unread fw b (by omega)
  obtain ⟨hproto, hempty⟩ := spiProtocolProcess_eq fw.proto (fw.spiRx.put b)
  have hdef : fallbackByte fw b =
      { fw with
        proto := (spiProtocolProcess fw.proto (fw.spiRx.put b)).1
        spiRx := (spiProtocolProcess fw.proto (fw.spiRx.put b)).2.1 } := by
    simp only [fallbackByte, weakSpi0Handler, List.foldl_cons, List.foldl_nil, hstore]
  rw [hdef]
  refine ⟨?_, hempty⟩
  rw [hproto, hunread, h]
  rfl

theorem fallback_feed (fw : Mcu) (w : List Byte) (h : fw.spiRx.unread = []) :
    (w.foldl fallbackByte fw).proto = fw.proto.feed w ∧
      (w.foldl fallbackByte fw).spiRx.unread = [] := by
  induction w generalizing fw with
  | nil => exact ⟨rfl, h⟩
  | cons b w ih =>
      obtain ⟨hproto, hempty⟩ := fallbackByte_eq fw b h
      have hrest := ih (fallbackByte fw b) hempty
      rwa [hproto] at hrest

/-- The driver's frames, one after another and byte by byte, are dispatched
exactly as they were requested. -/
theorem host_frames_dispatched (fw : Mcu) (requests : List Request)
    (hidle : fw.proto.rx.state = .idle) (hempty : fw.spiRx.unread = []) :
    let fw' := (requests.flatMap Request.encoding).foldl fallbackByte fw
    fw'.proto.dispatched = fw.proto.dispatched ++ requests.map Request.dispatched ∧
      fw'.proto.rx.framesCrcError = fw.proto.rx.framesCrcError ∧
      fw'.proto.rx.framesSyncError = fw.proto.rx.framesSyncError ∧
      fw'.proto.rx.state = .idle := by
  intro fw'
  obtain ⟨hscan, hsigs, hcount⟩ := requests_scanned requests
  have hproto := (fallback_feed fw (requests.flatMap Request.encoding) hempty).1
  have hfollows := feed_follows fw.proto (requests.flatMap Request.encoding)
    (RxCtx.valid_of_idle hidle)
  rw [RxCtx.scan_of_idle hidle, hscan, ← hproto] at hfollows
  refine ⟨?_, ?_, hfollows.syncError, RxCtx.idle_of_scan hfollows.valid hfollows.scan⟩
  · rw [← hsigs]
    exact hfollows.dispatched
  · have hcrc := hfollows.crcError
    rw [hcount] at hcrc
    simpa using hcrc

/-- The round trip from a freshly started handler, with a frame without payload
and one whose payload is made of sync bytes. -/
theorem host_frames_dispatched_boot :
    let fw := boot true true true
    let requests := [Request.of cmdNop [] (by decide),
      Request.of cmdSdrTune [0xAA#8, 0xAA#8, 0xAA#8] (by decide)]
    let fw' := (requests.flatMap Request.encoding).foldl fallbackByte fw
    fw'.proto.dispatched = fw.proto.dispatched ++ requests.map Request.dispatched ∧
      fw'.proto.rx.framesCrcError = fw.proto.rx.framesCrcError ∧
      fw'.proto.rx.framesSyncError = fw.proto.rx.framesSyncError ∧
      fw'.proto.rx.state = .idle :=
  host_frames_dispatched (boot true true true) _ rfl ((Ring.unread_eq_nil_iff _).mpr rfl)

/-- A response is refused without a trace, or its frame is appended to the
unread bytes of the TX ring and the driver accepts it from there, whatever
follows. -/
theorem response_accepted_by_host (p : SpiProtocol) (cmd : Byte) (payload : List Byte)
    (hlen : payload.length ≤ maxPayload) :
    let (ret, p') := buildResponseFrame cmd payload p
    (ret = -1 ∧
        p' = { p with stats := { p.stats with txOverruns := p.stats.txOverruns + 1 } }) ∨
      (ret = 0 ∧ ∃ frame,
        p'.tx.unread = p.tx.unread ++ frame ∧ p'.tx.tail = p.tx.tail ∧
          frame.length = 20 + payload.length ∧
          ∀ rest, apexValidateFrame (frame ++ rest) = .ok ⟨cmd, payload⟩) := by
  rcases buildResponseFrame_cases cmd payload p hlen with hfull | ⟨tx, hbuilt, hunread, htail⟩
  · rw [hfull]
    exact .inl ⟨rfl, rfl⟩
  · rw [hbuilt]
    refine .inr ⟨rfl, encode cmd payload, hunread, htail, encode_length cmd payload, ?_⟩
    intro rest
    exact apexValidateFrame_encode cmd payload rest hlen

/-- Behind the boot there is room for a telemetry response. -/
theorem response_accepted_by_host_boot :
    let p := (boot true true true).proto
    let (ret, p') := buildResponseFrame cmdTelemetry p.device.telemetry p
    ret = 0 ∧ ∃ frame,
      p'.tx.unread = p.tx.unread ++ frame ∧ p'.tx.tail = p.tx.tail ∧
        frame.length = 20 + p.device.telemetry.length ∧
        ∀ rest, apexValidateFrame (frame ++ rest) = .ok ⟨cmdTelemetry, p.device.telemetry⟩ := by
  have hlen : (boot true true true).proto.device.telemetry.length ≤ maxPayload := by
    rw [telemetry_length]
    decide
  rcases response_accepted_by_host (boot true true true).proto cmdTelemetry _ hlen with
    ⟨hfull, -⟩ | haccepted
  · exact absurd hfull (by decide)
  · exact haccepted

end GhostBlade.Bridge
