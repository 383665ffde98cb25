import GhostBlade.Library.Crc

/-!
The bridge frame as a byte format, independent of the three programs that
build and check it. A header is eight field bytes followed by their CRC-64; a
frame is a header, the payload the length field announces, and the CRC-32 of
the payload. `rawFrame` leaves the reserved field and the trailer free, so
that the frames of each receiver can be told apart; `encode` is the frame both
builders are meant to produce.
-/

namespace GhostBlade.Protocol

open GhostBlade.Library

def syncByte : Byte := 0xAA#8
def hdrSize : Nat := 16
def maxPayload : Nat := 4092
def crc32Size : Nat := 4
def frameSizeMax : Nat := hdrSize + maxPayload + crc32Size

def crc64Poly : BitVec 64 := 0x42F0E1EBA9EA3693#64
def crc32Poly : BitVec 32 := 0xEDB88320#32

def crc64 (data : List Byte) : BitVec 64 :=
  Crc.bitwise crc64Poly 0xFFFFFFFFFFFFFFFF#64 data ^^^ 0xFFFFFFFFFFFFFFFF#64

def crc32 (data : List Byte) : BitVec 32 :=
  Crc.bitwise crc32Poly 0xFFFFFFFF#32 data ^^^ 0xFFFFFFFF#32

/-- Header bytes 0 to 7: sync, command, length, reserved. -/
def headerFields (cmd : Byte) (len : Nat) (reserved : BitVec 32) : List Byte :=
  syncByte :: cmd :: (leBytes 2 len ++ leBytes 4 reserved.toNat)

def header (cmd : Byte) (len : Nat) (reserved : BitVec 32) : List Byte :=
  headerFields cmd len reserved ++ leBytes 8 (crc64 (headerFields cmd len reserved)).toNat

def rawFrame (cmd : Byte) (payload : List Byte) (reserved trailer : BitVec 32) : List Byte :=
  header cmd payload.length reserved ++ (payload ++ leBytes 4 trailer.toNat)

/-- The frame for a command and its payload. -/
def encode (cmd : Byte) (payload : List Byte) : List Byte :=
  rawFrame cmd payload 0 (crc32 payload)

/-- The little-endian fields of a header. -/
def lenField (hdr : List Byte) : Nat := leValue ((hdr.drop 2).take 2)
def reservedField (hdr : List Byte) : Nat := leValue ((hdr.drop 4).take 4)
def crcField (hdr : List Byte) : Nat := leValue ((hdr.drop 8).take 8)

@[simp] theorem headerFields_length (cmd : Byte) (len : Nat) (reserved : BitVec 32) :
    (headerFields cmd len reserved).length = 8 := by
  simp [headerFields]

@[simp] theorem header_length (cmd : Byte) (len : Nat) (reserved : BitVec 32) :
    (header cmd len reserved).length = hdrSize := by
  simp [header, hdrSize]

@[simp] theorem rawFrame_length (cmd : Byte) (payload : List Byte)
    (reserved trailer : BitVec 32) :
    (rawFrame cmd payload reserved trailer).length = 20 + payload.length := by
  simp only [rawFrame, List.length_append, header_length, leBytes_length, hdrSize]
  omega

@[simp] theorem encode_length (cmd : Byte) (payload : List Byte) :
    (encode cmd payload).length = 20 + payload.length :=
  rawFrame_length ..

theorem encode_ne_nil (cmd : Byte) (payload : List Byte) : encode cmd payload ≠ [] := by
  intro h
  have hlen := encode_length cmd payload
  rw [h, List.length_nil] at hlen
  omega

section

variable (cmd : Byte) (len : Nat) (reserved : BitVec 32) (rest : List Byte)

theorem header_take_fields :
    (header cmd len reserved ++ rest).take 8 = headerFields cmd len reserved := by
  rw [header, List.append_assoc, List.take_append_of_le_length (by simp),
    List.take_of_length_le (by simp)]

theorem header_lenField (h : len < 65536) :
    lenField (header cmd len reserved ++ rest) = len := by
  have hfield : ((header cmd len reserved ++ rest).drop 2).take 2 = leBytes 2 len := by
    simp [header, headerFields]
  rw [lenField, hfield]
  exact leValue_leBytes_of_lt 2 len (by simpa using h)

theorem header_reservedField :
    reservedField (header cmd len reserved ++ rest) = reserved.toNat := by
  have hfield : ((header cmd len reserved ++ rest).drop 4).take 4 =
      leBytes 4 reserved.toNat := by
    have hdrop : (header cmd len reserved ++ rest).drop 4 =
        leBytes 4 reserved.toNat ++
          (leBytes 8 (crc64 (headerFields cmd len reserved)).toNat ++ rest) := by
      simp [header, headerFields, leBytes]
    rw [hdrop, List.take_append_of_le_length (by simp), List.take_of_length_le (by simp)]
  rw [reservedField, hfield]
  exact leValue_leBytes_of_lt 4 _ (by simpa using reserved.isLt)

theorem header_crcField :
    crcField (header cmd len reserved ++ rest) =
      (crc64 (headerFields cmd len reserved)).toNat := by
  have hfield : ((header cmd len reserved ++ rest).drop 8).take 8 =
      leBytes 8 (crc64 (headerFields cmd len reserved)).toNat := by
    rw [header, List.append_assoc, List.drop_append_of_le_length (by simp),
      List.drop_of_length_le (by simp), List.nil_append,
      List.take_append_of_le_length (by simp), List.take_of_length_le (by simp)]
  rw [crcField, hfield]
  exact leValue_leBytes_of_lt 8 _ (by simpa using (crc64 _).isLt)

end

/-- Sixteen bytes that open with the sync byte and carry the CRC-64 of their
first eight are a header. -/
theorem header_of_fields (hdr : List Byte) (hsize : hdr.length = hdrSize)
    (hsync : hdr.head? = some syncByte)
    (hcrc : crcField hdr = (crc64 (hdr.take 8)).toNat) :
    hdr = header (hdr.getD 1 0) (lenField hdr) (BitVec.ofNat 32 (reservedField hdr)) := by
  have hfields : hdr.take 8 =
      headerFields (hdr.getD 1 0) (lenField hdr) (BitVec.ofNat 32 (reservedField hdr)) := by
    obtain ⟨b0, b1, rest, rfl⟩ : ∃ b0 b1 rest, hdr = b0 :: b1 :: rest := by
      rcases hdr with _ | ⟨b0, _ | ⟨b1, rest⟩⟩
      · simp [hdrSize] at hsize
      · simp [hdrSize] at hsize
      · exact ⟨b0, b1, rest, rfl⟩
    have hb0 : b0 = syncByte := by simpa using hsync
    have hrest : rest.length = 14 := by simpa [hdrSize] using hsize
    have hlen : leBytes 2 (leValue (rest.take 2)) = rest.take 2 := by
      have h2 : (rest.take 2).length = 2 := by simp [hrest]
      simpa only [h2] using leBytes_leValue (rest.take 2)
    have hres : leBytes 4 (BitVec.ofNat 32 (leValue ((rest.drop 2).take 4))).toNat =
        (rest.drop 2).take 4 := by
      have h4 : ((rest.drop 2).take 4).length = 4 := by simp [hrest]
      simpa only [h4] using
        leBytes_toNat_ofNat_leValue (w := 32) ((rest.drop 2).take 4) (by rw [h4])
    have hsplit : rest.take 6 = rest.take 2 ++ (rest.drop 2).take 4 := by
      rw [← List.take_add]
    simp only [headerFields, lenField, reservedField, List.take_succ_cons, List.drop_succ_cons,
      List.drop_zero, List.getD_cons_succ, List.getD_cons_zero, hb0, hlen, hres, hsplit]
  have hcrcBytes : hdr.drop 8 = leBytes 8 (crc64 (hdr.take 8)).toNat := by
    have h8 : (hdr.drop 8).length = 8 := by simp [hsize, hdrSize]
    have htake : (hdr.drop 8).take 8 = hdr.drop 8 := List.take_of_length_le (by omega)
    rw [← hcrc, crcField, htake]
    simpa only [h8] using (leBytes_leValue (hdr.drop 8)).symm
  calc hdr = hdr.take 8 ++ hdr.drop 8 := (List.take_append_drop 8 hdr).symm
    _ = _ := by rw [hcrcBytes, hfields, header]

/-- The same for a byte string that goes on behind the header. -/
theorem header_of_prefix (w : List Byte) (hsize : hdrSize ≤ w.length)
    (hsync : w.head? = some syncByte) (hcrc : crcField w = (crc64 (w.take 8)).toNat) :
    w = header (w.getD 1 0) (lenField w) (BitVec.ofNat 32 (reservedField w)) ++
      w.drop hdrSize := by
  have hcmd : (w.take hdrSize).getD 1 0 = w.getD 1 0 := by
    simp [List.getD_eq_getElem?_getD, hdrSize]
  have hlen : lenField (w.take hdrSize) = lenField w := by
    simp [lenField, hdrSize, List.drop_take, List.take_take]
  have hres : reservedField (w.take hdrSize) = reservedField w := by
    simp [reservedField, hdrSize, List.drop_take, List.take_take]
  have hfield : crcField (w.take hdrSize) = crcField w := by
    simp [crcField, hdrSize, List.drop_take, List.take_take]
  have hopens : (w.take hdrSize).head? = some syncByte := by
    cases w with
    | nil => simp at hsync
    | cons b rest => simpa [hdrSize] using hsync
  have hhdr := header_of_fields (w.take hdrSize) (by simpa using hsize) hopens (by
    rw [hfield, hcrc, List.take_take]
    rfl)
  rw [hcmd, hlen, hres] at hhdr
  calc w = w.take hdrSize ++ w.drop hdrSize := (List.take_append_drop _ w).symm
    _ = _ := by rw [← hhdr]

/-- The payload a byte string announces, and the four bytes behind it. -/
def payloadPart (w : List Byte) : List Byte := (w.drop hdrSize).take (lenField w)
def trailerField (w : List Byte) : Nat := leValue ((w.drop (hdrSize + lenField w)).take 4)

theorem payloadPart_length (w : List Byte)
    (htotal : hdrSize + lenField w + crc32Size ≤ w.length) :
    (payloadPart w).length = lenField w := by
  simp only [payloadPart, List.length_take, List.length_drop]
  omega

section

variable (cmd : Byte) (payload : List Byte) (reserved trailer : BitVec 32) (rest : List Byte)

theorem rawFrame_append :
    rawFrame cmd payload reserved trailer ++ rest =
      header cmd payload.length reserved ++ (payload ++ (leBytes 4 trailer.toNat ++ rest)) := by
  simp [rawFrame]

theorem rawFrame_lenField (h : payload.length < 65536) :
    lenField (rawFrame cmd payload reserved trailer ++ rest) = payload.length := by
  rw [rawFrame_append]
  exact header_lenField _ _ _ _ h

theorem rawFrame_crcField :
    crcField (rawFrame cmd payload reserved trailer ++ rest) =
      (crc64 ((rawFrame cmd payload reserved trailer ++ rest).take 8)).toNat := by
  rw [rawFrame_append, header_crcField, header_take_fields]

theorem rawFrame_drop_header :
    (rawFrame cmd payload reserved trailer ++ rest).drop hdrSize =
      payload ++ (leBytes 4 trailer.toNat ++ rest) := by
  rw [rawFrame_append]
  exact List.drop_left' (header_length cmd payload.length reserved)

theorem rawFrame_drop_payload :
    (rawFrame cmd payload reserved trailer ++ rest).drop (hdrSize + payload.length) =
      leBytes 4 trailer.toNat ++ rest := by
  rw [← List.drop_drop, rawFrame_drop_header, List.drop_left]

/-- The four bytes behind the payload. -/
theorem rawFrame_trailer :
    ((rawFrame cmd payload reserved trailer ++ rest).drop (hdrSize + payload.length)).take 4 =
      leBytes 4 trailer.toNat := by
  rw [rawFrame_drop_payload]
  exact List.take_left' (leBytes_length 4 _)

theorem rawFrame_payloadPart (h : payload.length < 65536) :
    payloadPart (rawFrame cmd payload reserved trailer ++ rest) = payload := by
  rw [payloadPart, rawFrame_lenField _ _ _ _ _ h, rawFrame_drop_header, List.take_left]

end

/-- A byte string that opens with a header and is long enough for the payload
it announces is a frame followed by something. -/
theorem frame_of_prefix (w : List Byte)
    (htotal : hdrSize + lenField w + crc32Size ≤ w.length)
    (hsync : w.head? = some syncByte) (hcrc : crcField w = (crc64 (w.take 8)).toNat) :
    w = rawFrame (w.getD 1 0) (payloadPart w) (BitVec.ofNat 32 (reservedField w))
      (BitVec.ofNat 32 (trailerField w)) ++ w.drop (hdrSize + lenField w + 4) := by
  have hcrcSize : crc32Size = 4 := rfl
  have htl : ((w.drop (hdrSize + lenField w)).take 4).length = 4 := by
    simp only [List.length_take, List.length_drop]
    omega
  have htrailer : leBytes 4 (BitVec.ofNat 32 (trailerField w)).toNat =
      (w.drop (hdrSize + lenField w)).take 4 := by
    have h := leBytes_toNat_ofNat_leValue (w := 32)
      ((w.drop (hdrSize + lenField w)).take 4) (by rw [htl])
    rwa [htl] at h
  have hsplit : payloadPart w ++
      ((w.drop (hdrSize + lenField w)).take 4 ++ w.drop (hdrSize + lenField w + 4)) =
      w.drop hdrSize := by
    rw [← List.drop_drop (i := 4), List.take_append_drop, payloadPart, ← List.drop_drop,
      List.take_append_drop]
  have hhdr := header_of_prefix w (by omega) hsync hcrc
  rw [rawFrame, payloadPart_length w htotal, htrailer, List.append_assoc, List.append_assoc,
    hsplit]
  exact hhdr

/-- Frames that differ in a field differ. -/
theorem rawFrame_inj {cmd cmd' : Byte} {payload payload' : List Byte}
    {reserved reserved' trailer trailer' : BitVec 32}
    (hlen : payload.length < 65536) (hlen' : payload'.length < 65536)
    (h : rawFrame cmd payload reserved trailer = rawFrame cmd' payload' reserved' trailer') :
    cmd = cmd' ∧ payload = payload' ∧ reserved = reserved' ∧ trailer = trailer' := by
  obtain ⟨hhdr, hbody⟩ := List.append_inj h (by simp)
  have hcmd := congrArg (fun l => List.getD l 1 0) hhdr
  have hres := congrArg reservedField hhdr
  have hpl : payload.length = payload'.length := by
    have hl := congrArg lenField hhdr
    have e := header_lenField cmd payload.length reserved [] hlen
    have e' := header_lenField cmd' payload'.length reserved' [] hlen'
    rw [List.append_nil] at e e'
    rwa [e, e'] at hl
  have e := header_reservedField cmd payload.length reserved []
  have e' := header_reservedField cmd' payload'.length reserved' []
  rw [List.append_nil] at e e'
  rw [e, e'] at hres
  obtain ⟨hpayload, htrailer⟩ := List.append_inj hbody hpl
  refine ⟨hcmd, hpayload, BitVec.eq_of_toNat_eq hres, BitVec.eq_of_toNat_eq ?_⟩
  have hv := congrArg leValue htrailer
  rwa [leValue_leBytes_of_lt 4 _ (by simpa using trailer.isLt),
    leValue_leBytes_of_lt 4 _ (by simpa using trailer'.isLt)] at hv

end GhostBlade.Protocol
