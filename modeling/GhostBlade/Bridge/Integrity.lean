import GhostBlade.Bridge.Language
import GhostBlade.Protocol.Corruption

/-!
What the two checksums of the bridge promise. The firmware computes them from
tables and the driver bit by bit, over the same registers; no damage to the
eight field bytes of a header gets past either end, and no burst of up to 32
bits in a payload does.
-/

namespace GhostBlade.Bridge

open GhostBlade.Library GhostBlade.Library.Crc GhostBlade.Library.Framing GhostBlade.Protocol
open GhostBlade.Host GhostBlade.Firmware

/-- A checksum streams when a concatenation is the first part and then the
second from the register the first part leaves. -/
def Streams {w : Nat} (compute : List Byte → BitVec w)
    (loop : BitVec w → List Byte → BitVec w) (init final : BitVec w) : Prop :=
  ∀ xs ys, compute xs = loop init xs ^^^ final ∧
    compute (xs ++ ys) = loop (loop init xs) ys ^^^ final

theorem streams_of_foldl {w : Nat} (step : BitVec w → Byte → BitVec w) (init final : BitVec w) :
    Streams (fun data => data.foldl step init ^^^ final) (fun crc data => data.foldl step crc)
      init final := by
  intro xs ys
  exact ⟨rfl, congrArg (· ^^^ final) List.foldl_append⟩

/-- All implementations compute the same function, from any register, and all
of them stream. -/
theorem crc_implementations_agree :
    (∀ data : List Byte,
      crc64Compute data = apexCrc64 data ∧ crc32Compute data = apexCrc32 data ∧
        Rp2350bInit.crc64Compute data = apexCrc64 data ∧
        Rp2350bInit.crc32Compute data = apexCrc32 data) ∧
      (∀ (crc : BitVec 64) (data : List Byte),
        crcContinue crc64Table crc data = apexCrcContinue 0x42F0E1EBA9EA3693#64 crc data) ∧
      (∀ (crc : BitVec 32) (data : List Byte),
        crcContinue crc32Table crc data = apexCrcContinue 0xEDB88320#32 crc data) ∧
      Streams crc64Compute (crcContinue crc64Table) 0xFFFFFFFFFFFFFFFF#64
        0xFFFFFFFFFFFFFFFF#64 ∧
      Streams crc32Compute (crcContinue crc32Table) 0xFFFFFFFF#32 0xFFFFFFFF#32 ∧
      Streams apexCrc64 (apexCrcContinue 0x42F0E1EBA9EA3693#64) 0xFFFFFFFFFFFFFFFF#64
        0xFFFFFFFFFFFFFFFF#64 ∧
      Streams apexCrc32 (apexCrcContinue 0xEDB88320#32) 0xFFFFFFFF#32 0xFFFFFFFF#32 := by
  refine ⟨?_, ?_, ?_, ?_, ?_, ?_, ?_⟩
  · intro data
    exact ⟨crc64Compute_eq data, crc32Compute_eq data, crc64Compute_eq data,
      crc32Compute_eq data⟩
  · exact crcContinue_eq (by omega) _
  · exact crcContinue_eq (by omega) _
  · exact streams_of_foldl _ _ _
  · exact streams_of_foldl _ _ _
  · exact streams_of_foldl _ _ _
  · exact streams_of_foldl _ _ _

/-- The frames the two builders produce: the bytes the driver's reports as
written, and the bytes the firmware's appends to its ring. -/
inductive BuiltFrame : List Byte → Prop
  | host (cmd : Byte) (payload frameBuf : List Byte)
      (h : 0 ≤ (apexBuildFrame cmd payload frameBuf).1) :
      BuiltFrame ((apexBuildFrame cmd payload frameBuf).2.take
        (apexBuildFrame cmd payload frameBuf).1.toNat)
  | firmware (cmd : Byte) (payload frame : List Byte) (p : SpiProtocol)
      (h : (buildResponseFrame cmd payload p).1 = 0)
      (hqueued : (buildResponseFrame cmd payload p).2.tx.unread = p.tx.unread ++ frame) :
      BuiltFrame frame

theorem BuiltFrame.encode {frame : List Byte} (h : BuiltFrame frame) :
    ∃ cmd payload, payload.length ≤ maxPayload ∧ frame = encode cmd payload := by
  have hmax : maxPayload = 4092 := rfl
  have hhdr : hdrSize = 16 := rfl
  have htrail : crc32Size = 4 := rfl
  cases h with
  | host cmd payload frameBuf h =>
      have hlen : payload.length ≤ maxPayload := by
        by_contra hlong
        rw [apexBuildFrame, if_pos (by omega)] at h
        simp [emsgsize] at h
      have hfit : 20 + payload.length ≤ frameBuf.length := by
        by_contra hsmall
        rw [apexBuildFrame, if_neg (by omega), if_pos (by omega)] at h
        simp [emsgsize] at h
      refine ⟨cmd, payload, hlen, ?_⟩
      rw [apexBuildFrame_ok cmd payload frameBuf hlen hfit, Int.toNat_natCast]
      exact List.take_left' (encode_length cmd payload)
  | firmware cmd payload frame p h hqueued =>
      have hlen : payload.length ≤ maxPayload := by
        by_contra hlong
        rw [buildResponseFrame, if_pos (by omega)] at h
        simp at h
      refine ⟨cmd, payload, hlen, ?_⟩
      rcases buildResponseFrame_cases cmd payload p hlen with hfull | ⟨tx, hdone, hunread, _⟩
      · rw [hfull] at h
        simp at h
      · rw [hdone] at hqueued
        dsimp only at hqueued
        rw [hunread] at hqueued
        exact (List.append_cancel_left hqueued).symm

theorem BuiltFrame.of_encode (cmd : Byte) (payload : List Byte)
    (hlen : payload.length ≤ maxPayload) : BuiltFrame (Protocol.encode cmd payload) := by
  have hmax : maxPayload = 4092 := rfl
  have hbuf : (List.replicate frameSizeMax (0 : Byte)).length = 4112 := List.length_replicate ..
  have hok := apexBuildFrame_ok cmd payload (List.replicate frameSizeMax 0) hlen (by omega)
  have hbuilt := BuiltFrame.host cmd payload (List.replicate frameSizeMax 0) (by
    rw [hok]
    exact Int.natCast_nonneg _)
  rwa [hok, Int.toNat_natCast, List.take_left' (encode_length cmd payload)] at hbuilt

/-- The header of a built frame. -/
theorem BuiltFrame.header {frame : List Byte} (h : BuiltFrame frame) :
    (frame.take hdrSize).length = hdrSize ∧ (frame.take hdrSize).head? = some syncByte ∧
      crcField (frame.take hdrSize) = (crc64 ((frame.take hdrSize).take 8)).toNat := by
  obtain ⟨cmd, payload, hlen, rfl⟩ := h.encode
  have htake : (Protocol.encode cmd payload).take hdrSize =
      Protocol.header cmd payload.length 0 :=
    List.take_left' (header_length cmd payload.length 0)
  have hcrc := header_crcField cmd payload.length 0 []
  have hfields := header_take_fields cmd payload.length 0 []
  rw [List.append_nil] at hcrc hfields
  rw [htake]
  exact ⟨header_length cmd payload.length 0, rfl, by rw [hcrc, hfields]⟩

/-- The driver's checker takes no string whose first bytes are not a header. -/
theorem apexValidateFrame_error (w : List Byte)
    (h : w.head? = some syncByte → crcField w ≠ (crc64 (w.take 8)).toNat) :
    ∃ e, apexValidateFrame w = .error e := by
  cases hv : apexValidateFrame w with
  | error e => exact ⟨e, rfl⟩
  | ok r =>
      obtain ⟨_, reserved, trailer, rest, hw, _⟩ := (apexValidateFrame_ok_iff w r).mp hv
      rw [rawFrame, List.append_assoc] at hw
      have hcrc : crcField w = (crc64 (w.take 8)).toNat := by
        rw [hw, header_crcField, header_take_fields]
      exact absurd hcrc (h (by rw [hw]; rfl))

/-- A context without its ready flag, which the state machine never reads. -/
def unready (s : Spi0) : Spi0 := { s with rx := { s.rx with frameReady := false } }

theorem unready_processByte (s : Spi0) (b : Byte) :
    unready (s.processByte b) = unready ((unready s).processByte b) := by
  obtain ⟨⟨buf, pos, state, payloadLen, frameReady⟩, tx, stats⟩ := s
  unfold Spi0.processByte unready
  cases state with
  | idle =>
      dsimp only
      split <;> rfl
  | header =>
      dsimp only [Spi0.onHeader, Spi0.storeByte, Spi0.headerComplete]
      repeat' split
      all_goals rfl
  | payload =>
      dsimp only [Spi0.onPayload, Spi0.storeByte, Spi0.frameComplete]
      repeat' split
      all_goals rfl
  | complete => rfl
  | error =>
      dsimp only
      split <;> rfl

theorem unready_isrFeed (s : Spi0) (w : List Byte) :
    unready (isrFeed s w) = unready (isrFeed (unready s) w) := by
  induction w generalizing s with
  | nil => rfl
  | cons b w ih =>
      calc unready (isrFeed s (b :: w))
          = unready (isrFeed (unready (s.processByte b)) w) := ih (s.processByte b)
        _ = unready (isrFeed (unready ((unready s).processByte b)) w) := by
            rw [unready_processByte]
        _ = unready (isrFeed (unready s) (b :: w)) := (ih _).symm

/-- The interrupt handler's context follows the scanner until a complete frame
stops it. -/
theorem isrFeed_follows (s : Spi0) (w : List Byte) (h : s.rx.Valid) :
    (isrFeed s w).rx.state = .complete ∨
      (isrFeed s w).rx.Valid ∧ (isrFeed s w).rx.scan = isrPolicy.format.scan s.rx.scan w := by
  induction w using List.reverseRecOn with
  | nil => exact .inr ⟨h, rfl⟩
  | append_singleton w b ih =>
      have hlast : isrFeed s (w ++ [b]) = (isrFeed s w).processByte b := isrFeed_append s w [b]
      by_cases hdone : (isrFeed s w).rx.state = .complete
      · left
        rw [hlast, processByte_complete _ b hdone, hdone]
      · obtain ⟨hvalid, hscan⟩ := ih.resolve_left hdone
        have hstep := processByte_assembles (isrFeed s w) b hvalid hdone
        right
        rw [hlast, isrPolicy.format.scan_append, ← hscan]
        exact ⟨hstep.valid, hstep.scan⟩

/-- An error on the field bytes of a header is detected at both ends. -/
theorem header_corruption_detected (frame error : List Byte) (hbuilt : BuiltFrame frame)
    (herror : error.length = 8) (hne : ∃ b ∈ error, b ≠ 0) :
    (∀ rest, ∃ e,
      apexValidateFrame (corruptHeader (frame.take hdrSize) error ++ rest) = .error e) ∧
      (∀ (p : SpiProtocol) (spiRx : Ring Byte 8192), p.rx.state = .idle →
        spiRx.unread = corruptHeader (frame.take hdrSize) error →
          (spiProtocolProcess p spiRx).1.rx.state ≠ .payload ∧
            (spiProtocolProcess p spiRx).1.rx.state ≠ .crc32) ∧
      ∀ s : Spi0, s.rx.state = .idle →
        (isrFeed s (corruptHeader (frame.take hdrSize) error)).rx.state ≠ .payload := by
  obtain ⟨hsize, hsync, hcrc⟩ := hbuilt.header
  have hscan (P : Policy) := corruptHeader_scan P _ error hsize hsync hcrc herror hne
  generalize hhdr : corruptHeader (frame.take hdrSize) error = hdr at hscan ⊢
  refine ⟨?_, ?_, ?_⟩
  · intro rest
    apply apexValidateFrame_error
    rw [← hhdr]
    exact corruptHeader_detected _ error rest hsize hsync hcrc herror hne
  · intro p spiRx hidle hunread
    have hfollows := feed_follows p hdr (RxCtx.valid_of_idle hidle)
    rw [RxCtx.scan_of_idle hidle] at hfollows
    rw [(spiProtocolProcess_eq p spiRx).1, hunread]
    constructor
    · intro hpayload
      exact hscan mainPolicy _ _ _ (hfollows.scan.symm.trans (RxCtx.scan_payload hpayload))
    · intro hcrc32
      exact hscan mainPolicy _ _ _ (hfollows.scan.symm.trans (RxCtx.scan_crc32 hcrc32))
  · intro s hidle hpayload
    have hstate : (isrFeed (unready s) hdr).rx.state = .payload := by
      have hsame := congrArg (fun t : Spi0 => t.rx.state) (unready_isrFeed s hdr)
      exact hsame.symm.trans hpayload
    have hvalid : (unready s).rx.Valid := by simp [Spi0Rx.Valid, unready, hidle]
    have hstart : (unready s).rx.scan = .idle := by simp [Spi0Rx.scan, unready, hidle]
    rcases isrFeed_follows (unready s) hdr hvalid with hdone | ⟨_, hfollows⟩
    · rw [hstate] at hdone
      cases hdone
    · rw [hstart] at hfollows
      exact hscan isrPolicy _ _ _ (hfollows.symm.trans (Spi0Rx.scan_payload hstate))

/-- A NOP whose command byte arrives with one bit flipped. -/
theorem header_corruption_detected_nop :
    (∃ e, apexValidateFrame
      (corruptHeader ((Protocol.encode 0xFF#8 []).take hdrSize) [0, 1, 0, 0, 0, 0, 0, 0] ++ []) =
        .error e) ∧
      (isrFeed Spi0.zero
        (corruptHeader ((Protocol.encode 0xFF#8 []).take hdrSize) [0, 1, 0, 0, 0, 0, 0, 0])
          ).rx.state ≠ .payload := by
  have h := header_corruption_detected (Protocol.encode 0xFF#8 []) [0, 1, 0, 0, 0, 0, 0, 0]
    (BuiltFrame.of_encode _ _ (by decide)) rfl ⟨1, by decide, by decide⟩
  exact ⟨h.1 [], h.2.2 Spi0.zero rfl⟩

/-- The protocol handler has received a frame, trailer included. -/
structure HoldsFrame (c : RxCtx) (frame : List Byte) : Prop where
  hdr : c.hdrBuf.toList = frame.take hdrSize
  payloadLen : c.expectedPayloadLen.toNat = lenField frame
  payload : c.payloadBuf.toList.take (lenField frame) = payloadPart frame
  trailer : c.crc32Buf.toList = (frame.drop (hdrSize + lenField frame)).take crc32Size

section

variable (cmd : Byte) (payload : List Byte) (reserved trailer : BitVec 32) (rest : List Byte)
  (hlen : payload.length ≤ maxPayload) (hwrong : trailer ≠ crc32 payload)
  (hpayload : payload ≠ [])

include hlen hwrong hpayload

/-- The driver refuses a frame with a wrong trailer. -/
theorem apexValidateFrame_wrong_trailer :
    ∃ e, apexValidateFrame (rawFrame cmd payload reserved trailer ++ rest) = .error e := by
  cases hv : apexValidateFrame (rawFrame cmd payload reserved trailer ++ rest) with
  | error e => exact ⟨e, rfl⟩
  | ok r =>
      have hmax : maxPayload = 4092 := rfl
      obtain ⟨hle, reserved', trailer', rest', hw, htrailer⟩ :=
        (apexValidateFrame_ok_iff _ r).mp hv
      have hlens := congrArg lenField hw
      rw [rawFrame_lenField _ _ _ _ _ (by omega), rawFrame_lenField _ _ _ _ _ (by omega)]
        at hlens
      obtain ⟨hframe, _⟩ := List.append_inj hw (by simp [hlens])
      obtain ⟨_, hp, _, ht⟩ := rawFrame_inj (by omega) (by omega) hframe
      rw [← hp, ← ht] at htrailer
      exact absurd (htrailer hpayload) hwrong

/-- So does the firmware's protocol handler. -/
theorem validateFramePayload_wrong_trailer (c : RxCtx)
    (hc : HoldsFrame c (rawFrame cmd payload reserved trailer ++ rest)) :
    c.validateFramePayload.1 ≠ 0 := by
  have hmax : maxPayload = 4092 := rfl
  have hfield := rawFrame_lenField cmd payload reserved trailer rest (by omega)
  have hlenC : c.expectedPayloadLen.toNat = payload.length := hc.payloadLen.trans hfield
  have hpart := hc.payload
  rw [hfield, rawFrame_payloadPart _ _ _ _ _ (by omega)] at hpart
  have hsent := hc.trailer
  rw [hfield] at hsent
  have hread : (readLe32 c.crc32Buf.toList).toNat = trailer.toNat := by
    rw [readLe32_toNat, hsent, crc32Size, rawFrame_trailer,
      List.take_of_length_le (by simp)]
    exact leValue_leBytes_of_lt 4 _ (by simpa using trailer.isLt)
  have hne : readLe32 c.crc32Buf.toList ≠
      crc32Compute (c.payloadBuf.toList.take c.expectedPayloadLen.toNat) := by
    rw [hlenC, hpart, crc32Compute_eq, BitVec.eq_of_toNat_eq hread]
    exact hwrong
  have hpos : c.expectedPayloadLen ≠ 0 := by
    intro hzero
    rw [hzero] at hlenC
    exact hpayload (List.eq_nil_of_length_eq_zero hlenC.symm)
  rw [RxCtx.validateFramePayload, if_neg hpos, if_pos hne]
  simp

/-- And so does its interrupt handler. -/
theorem validatePayloadCrc32_wrong_trailer :
    validatePayloadCrc32 (rawFrame cmd payload reserved trailer ++ rest)
      (BitVec.ofNat 16 payload.length) = false := by
  have hmax : maxPayload = 4092 := rfl
  have hpos : 0 < payload.length := List.length_pos_iff.mpr hpayload
  have hnat : (BitVec.ofNat 16 payload.length).toNat = payload.length := by
    rw [BitVec.toNat_ofNat]
    exact Nat.mod_eq_of_lt (by omega)
  have hne : BitVec.ofNat 16 payload.length ≠ 0 := by
    intro hzero
    rw [hzero] at hnat
    exact absurd hnat.symm (by simp; omega)
  have hsent : orBytes (w := 32) 0 0 (leBytes 4 trailer.toNat) = trailer := by
    apply BitVec.eq_of_toNat_eq
    have hread := readLe32_toNat (leBytes 4 trailer.toNat)
    rw [readLe32, List.take_of_length_le (by simp)] at hread
    rw [hread]
    exact leValue_leBytes_of_lt 4 _ (by simpa using trailer.isLt)
  simp only [validatePayloadCrc32, if_neg hne, hnat, rawFrame_trailer, rawFrame_drop_header,
    List.take_left, hsent, crc32Compute_eq]
  exact decide_eq_false fun heq => hwrong heq.symm

end

/-- A burst in the payload of a valid frame is detected at both ends. -/
theorem payload_burst_detected (frame error : List Byte) (r : Received)
    (hvalid : apexValidateFrame frame = .ok r) (herror : error.length = r.payload.length)
    (hburst : Burst 32 error) :
    (∃ e, apexValidateFrame (corruptPayload frame error) = .error e) ∧
      (∀ c : RxCtx, HoldsFrame c (corruptPayload frame error) →
        c.validateFramePayload.1 ≠ 0) ∧
      ∀ rest, validatePayloadCrc32 (corruptPayload frame error ++ rest)
        (BitVec.ofNat 16 r.payload.length) = false := by
  have hmax : maxPayload = 4092 := rfl
  obtain ⟨hlen, reserved, trailer, behind, hframe, htrailer⟩ :=
    (apexValidateFrame_ok_iff frame r).mp hvalid
  have hdamaged : corruptPayload frame error =
      rawFrame r.cmd (xorBytes r.payload error) reserved trailer ++ behind := by
    rw [hframe]
    exact corruptPayload_rawFrame _ _ _ _ _ _ (by omega) herror
  have hsame := xorBytes_length r.payload error herror
  have hpayload : r.payload ≠ [] := by
    intro hnil
    obtain ⟨b, hb, _⟩ := hburst.nonzero
    rw [List.eq_nil_of_length_eq_zero (herror.trans (by rw [hnil]; rfl))] at hb
    simp at hb
  have hdamagedPayload : xorBytes r.payload error ≠ [] := by
    intro hnil
    rw [hnil] at hsame
    exact hpayload (List.eq_nil_of_length_eq_zero hsame.symm)
  have hwrong : trailer ≠ crc32 (xorBytes r.payload error) := by
    rw [htrailer hpayload]
    exact (crc32_corrupt_ne r.payload error herror hburst).symm
  have hfits : (xorBytes r.payload error).length ≤ maxPayload := by omega
  rw [hdamaged]
  refine ⟨?_, ?_, ?_⟩
  · exact apexValidateFrame_wrong_trailer _ _ _ _ _ hfits hwrong hdamagedPayload
  · exact fun c hc =>
      validateFramePayload_wrong_trailer _ _ _ _ _ hfits hwrong hdamagedPayload c hc
  · intro rest
    rw [List.append_assoc, ← hsame]
    exact validatePayloadCrc32_wrong_trailer _ _ _ _ _ hfits hwrong hdamagedPayload

/-- Three payload bytes of which the middle one arrives inverted. -/
theorem payload_burst_detected_byte :
    ∃ e, apexValidateFrame
      (corruptPayload (Protocol.encode 0x81#8 [1, 2, 3] ++ []) [0, 0xFF, 0]) = .error e := by
  have hconfined (i : Nat) (h : bitAt [0, 0xFF, 0] i = true) : 8 ≤ i ∧ i < 8 + 32 := by
    unfold bitAt at h
    by_contra hout
    generalize hbyte : i / 8 = k at h
    match k with
    | 0 => simp at h
    | 1 => omega
    | 2 => simp at h
    | k + 3 => simp at h
  exact (payload_burst_detected (Protocol.encode 0x81#8 [1, 2, 3] ++ []) [0, 0xFF, 0]
    ⟨0x81#8, [1, 2, 3]⟩ (apexValidateFrame_encode _ _ _ (by decide)) rfl
    ⟨⟨0xFF, by decide, by decide⟩, 8, hconfined⟩).1

end GhostBlade.Bridge
