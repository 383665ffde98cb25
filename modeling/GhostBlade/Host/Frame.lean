import GhostBlade.Protocol.Frame

/-!
The frame builder and the frame checker of the Linux driver
(`apex_bridge.c`). The builder writes into a caller's buffer and leaves the
bytes behind the frame as they were. The checker looks at the sync byte, the
header CRC, the length and, when there is a payload, its CRC; it looks neither
at the reserved field nor at the trailer of an empty payload.
-/

namespace GhostBlade.Host

open GhostBlade.Library GhostBlade.Protocol

/-- Linux error numbers the driver returns. -/
def eagain : Int := 11
def enomem : Int := 12
def efault : Int := 14
def ebusy : Int := 16
def enodev : Int := 19
def einval : Int := 22
def enotty : Int := 25
def ebadmsg : Int := 74
def emsgsize : Int := 90

def apexCrc64 (data : List Byte) : BitVec 64 :=
  data.foldl (fun crc b => (Crc.bitStep 0x42F0E1EBA9EA3693#64)^[8] (crc ^^^ b.setWidth 64))
    0xFFFFFFFFFFFFFFFF#64 ^^^ 0xFFFFFFFFFFFFFFFF#64

def apexCrc32 (data : List Byte) : BitVec 32 :=
  data.foldl (fun crc b => (Crc.bitStep 0xEDB88320#32)^[8] (crc ^^^ b.setWidth 32))
    0xFFFFFFFF#32 ^^^ 0xFFFFFFFF#32

/-- The loop of both functions, from any register. -/
def apexCrcContinue {w : Nat} (poly crc : BitVec w) (data : List Byte) : BitVec w :=
  data.foldl (fun crc b => (Crc.bitStep poly)^[8] (crc ^^^ b.setWidth w)) crc

theorem apexCrc64_eq (data : List Byte) : apexCrc64 data = crc64 data := rfl

theorem apexCrc32_eq (data : List Byte) : apexCrc32 data = crc32 data := rfl

/-- `apex_build_frame`: the return value and the buffer afterwards. The size
of the buffer is its length. -/
def apexBuildFrame (cmd : Byte) (payload frameBuf : List Byte) : Int × List Byte :=
  if payload.length > maxPayload then (-emsgsize, frameBuf)
  else
    let totalLen := hdrSize + payload.length + crc32Size
    if totalLen > frameBuf.length then (-emsgsize, frameBuf)
    else
      let fields := [syncByte, cmd] ++ leBytes 2 payload.length ++ leBytes 4 0
      let buf := writeAt frameBuf 0 fields
      let crc64Val := apexCrc64 (buf.take 8)
      let buf := writeAt buf 8 (leBytes 8 crc64Val.toNat)
      let buf := writeAt buf hdrSize payload
      let crc32Val := apexCrc32 ((buf.drop hdrSize).take payload.length)
      let buf := writeAt buf (hdrSize + payload.length) (leBytes 4 crc32Val.toNat)
      (totalLen, buf)

/-- What the checker hands back about an accepted frame. -/
structure Received where
  cmd : Byte
  payload : List Byte
deriving DecidableEq, Repr

/-- `apex_validate_frame` on a frame of length `frame.length`. -/
def apexValidateFrame (frame : List Byte) : Except Int Received :=
  if frame.length < hdrSize then .error (-ebadmsg)
  else if frame.head? ≠ some syncByte then .error (-ebadmsg)
  else if (apexCrc64 (frame.take 8)).toNat ≠ crcField frame then .error (-ebadmsg)
  else
    let len := lenField frame
    if len > maxPayload then .error (-ebadmsg)
    else if frame.length < hdrSize + len + crc32Size then .error (-ebadmsg)
    else
      let payload := (frame.drop hdrSize).take len
      let expectedCrc32 := leValue ((frame.drop (hdrSize + len)).take 4)
      if len > 0 ∧ (apexCrc32 payload).toNat ≠ expectedCrc32 then .error (-ebadmsg)
      else .ok ⟨frame.getD 1 0, payload⟩

/-- Every admissible request is built, and the buffer then starts with its
frame and is otherwise untouched. -/
theorem apexBuildFrame_ok (cmd : Byte) (payload frameBuf : List Byte)
    (hlen : payload.length ≤ maxPayload) (hfit : 20 + payload.length ≤ frameBuf.length) :
    apexBuildFrame cmd payload frameBuf =
      (((20 + payload.length : Nat) : Int),
        encode cmd payload ++ frameBuf.drop (20 + payload.length)) := by
  have hsize : hdrSize = 16 := rfl
  have htrail : crc32Size = 4 := rfl
  let fields := headerFields cmd payload.length 0
  have hfields : [syncByte, cmd] ++ leBytes 2 payload.length ++ leBytes 4 0 = fields := rfl
  have hfieldsLen : fields.length = 8 := headerFields_length ..
  have hhdr : fields ++ leBytes 8 (crc64 fields).toNat = header cmd payload.length 0 := rfl
  have h1 : writeAt frameBuf 0 fields = fields ++ frameBuf.drop 8 := by
    simpa [hfieldsLen] using writeAt_append [] frameBuf fields
  have h2 : writeAt (fields ++ frameBuf.drop 8) 8 (leBytes 8 (crc64 fields).toNat) =
      header cmd payload.length 0 ++ frameBuf.drop 16 := by
    have h := writeAt_append fields (frameBuf.drop 8) (leBytes 8 (crc64 fields).toNat)
    rwa [hfieldsLen, hhdr, leBytes_length, List.drop_drop] at h
  have h3 : writeAt (header cmd payload.length 0 ++ frameBuf.drop 16) 16 payload =
      header cmd payload.length 0 ++ payload ++ frameBuf.drop (16 + payload.length) := by
    have h := writeAt_append (header cmd payload.length 0) (frameBuf.drop 16) payload
    rwa [header_length, hsize, List.drop_drop] at h
  have h4 : writeAt
      (header cmd payload.length 0 ++ payload ++ frameBuf.drop (16 + payload.length))
      (16 + payload.length) (leBytes 4 (crc32 payload).toNat) =
      encode cmd payload ++ frameBuf.drop (20 + payload.length) := by
    have h := writeAt_append (header cmd payload.length 0 ++ payload)
      (frameBuf.drop (16 + payload.length)) (leBytes 4 (crc32 payload).toNat)
    rw [List.length_append, header_length, hsize, leBytes_length, List.drop_drop] at h
    rw [h, encode, rawFrame, List.append_assoc (header _ _ _)]
    congr 2
    omega
  have htake : (fields ++ frameBuf.drop 8).take 8 = fields := by
    rw [List.take_append_of_le_length (by omega), List.take_of_length_le (by omega)]
  have hpayload : ((header cmd payload.length 0 ++ payload ++
      frameBuf.drop (16 + payload.length)).drop 16).take payload.length = payload := by
    rw [List.append_assoc, List.drop_append_of_le_length (by simp [hsize]),
      List.drop_of_length_le (by simp [hsize]), List.nil_append, List.take_left]
  have hnot1 : ¬ payload.length > maxPayload := by omega
  have hnot2 : ¬ 16 + payload.length + 4 > frameBuf.length := by omega
  simp only [apexBuildFrame, hsize, htrail, if_neg hnot1, if_neg hnot2, hfields, h1, htake,
    apexCrc64_eq, h2, h3, hpayload, apexCrc32_eq, h4]
  congr 2
  omega

/-- What the checker accepts: a frame whose reserved field is arbitrary and
whose trailer is arbitrary too when the payload is empty, followed by
anything. -/
theorem apexValidateFrame_ok_iff (w : List Byte) (r : Received) :
    apexValidateFrame w = .ok r ↔
      r.payload.length ≤ maxPayload ∧ ∃ reserved trailer rest,
        w = rawFrame r.cmd r.payload reserved trailer ++ rest ∧
          (r.payload ≠ [] → trailer = crc32 r.payload) := by
  constructor
  · intro h
    simp only [apexValidateFrame] at h
    split at h
    · cases h
    next hlong =>
    split at h
    · cases h
    next hsync =>
    split at h
    · cases h
    next hcrc =>
    split at h
    · cases h
    next hmax =>
    split at h
    · cases h
    next htotal =>
    split at h
    · cases h
    next hpay =>
    simp only [Except.ok.injEq] at h
    subst h
    simp only [not_lt, ne_eq, not_not] at hlong hsync hcrc hmax htotal
    have hplen := payloadPart_length w htotal
    change (payloadPart w).length ≤ maxPayload ∧ ∃ reserved trailer rest,
      w = rawFrame (w.getD 1 0) (payloadPart w) reserved trailer ++ rest ∧
        (payloadPart w ≠ [] → trailer = crc32 (payloadPart w))
    refine ⟨by omega, _, _, _, frame_of_prefix w htotal hsync hcrc.symm, ?_⟩
    intro hne
    have hpos : lenField w > 0 := by
      rw [← hplen]
      exact List.length_pos_iff.mpr hne
    have hval : (apexCrc32 (payloadPart w)).toNat = trailerField w := by
      by_contra hdiff
      exact hpay ⟨hpos, hdiff⟩
    rw [← hval, BitVec.ofNat_toNat, BitVec.setWidth_eq, apexCrc32_eq]
  · rintro ⟨hlen, reserved, trailer, rest, rfl, htrailer⟩
    obtain ⟨cmd, payload⟩ := r
    simp only at hlen htrailer ⊢
    have hsize : hdrSize = 16 := rfl
    have htrail : crc32Size = 4 := rfl
    have hmax : maxPayload = 4092 := rfl
    have hfield : lenField (rawFrame cmd payload reserved trailer ++ rest) = payload.length :=
      rawFrame_lenField _ _ _ _ _ (by omega)
    have hcrc : (apexCrc64 ((rawFrame cmd payload reserved trailer ++ rest).take 8)).toNat =
        crcField (rawFrame cmd payload reserved trailer ++ rest) :=
      (rawFrame_crcField cmd payload reserved trailer rest).symm
    have hpayload : ((rawFrame cmd payload reserved trailer ++ rest).drop hdrSize).take
        payload.length = payload := by
      rw [rawFrame_drop_header, List.take_left]
    have htail : leValue (((rawFrame cmd payload reserved trailer ++ rest).drop
        (hdrSize + payload.length)).take 4) = trailer.toNat := by
      rw [rawFrame_trailer]
      exact leValue_leBytes_of_lt 4 _ (by simpa using trailer.isLt)
    have hlong : ¬ (rawFrame cmd payload reserved trailer ++ rest).length < hdrSize := by
      simp [hsize]
      omega
    have htotal : ¬ (rawFrame cmd payload reserved trailer ++ rest).length <
        hdrSize + payload.length + crc32Size := by
      simp [hsize, htrail]
      omega
    have hpay : ¬ (payload.length > 0 ∧ (apexCrc32 payload).toNat ≠ trailer.toNat) := by
      rintro ⟨hpos, hdiff⟩
      exact hdiff (by rw [htrailer (List.length_pos_iff.mp hpos), apexCrc32_eq])
    have hhead : (rawFrame cmd payload reserved trailer ++ rest).head? = some syncByte := rfl
    have hcmd : (rawFrame cmd payload reserved trailer ++ rest).getD 1 0 = cmd := rfl
    simp only [apexValidateFrame, if_neg hlong, hhead, hcrc, ne_eq, not_true_eq_false, if_false,
      hfield, if_neg (show ¬ payload.length > maxPayload by omega), if_neg htotal, hpayload,
      htail, if_neg hpay, hcmd]

/-- A built frame is accepted, whatever follows it, and yields its contents. -/
theorem apexValidateFrame_encode (cmd : Byte) (payload rest : List Byte)
    (hlen : payload.length ≤ maxPayload) :
    apexValidateFrame (encode cmd payload ++ rest) = .ok ⟨cmd, payload⟩ :=
  (apexValidateFrame_ok_iff _ _).mpr ⟨hlen, 0, crc32 payload, rest, rfl, fun _ => rfl⟩

end GhostBlade.Host
