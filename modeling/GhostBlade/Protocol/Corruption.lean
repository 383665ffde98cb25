import GhostBlade.Library.CrcErrors
import GhostBlade.Protocol.Receiver

/-!
Frames damaged in transit. Neither checksum of the format lets the damage it
is meant for through: the CRC-32 has its top bit, so that it sees every burst
no wider than itself; the CRC-64 has not, and forgets exactly one error of its
own length, but that error changes the sync byte.
-/

namespace GhostBlade.Protocol

open GhostBlade.Library GhostBlade.Library.Crc GhostBlade.Library.Framing

/-- A frame, or its header alone, with an error on header bytes 0 to 7. -/
def corruptHeader (frame error : List Byte) : List Byte :=
  xorBytes (frame.take 8) error ++ frame.drop 8

/-- A frame with an error on its payload. -/
def corruptPayload (frame error : List Byte) : List Byte :=
  frame.take hdrSize ++
    (xorBytes (payloadPart frame) error ++ frame.drop (hdrSize + lenField frame))

/-- The bit step of the header check is not injective. -/
theorem bitStep_crc64Poly_not_injective : ¬ Function.Injective (bitStep crc64Poly) := by
  intro hinj
  have hsame : bitStep crc64Poly 0x85E1C3D753D46D27#64 = bitStep crc64Poly 0#64 := by decide
  exact absurd (hinj hsame) (by decide)

theorem crc64_corrupt_ne (fields error : List Byte) (hsize : fields.length = 8)
    (herror : error.length = 8) (hne : ∃ b ∈ error, b ≠ 0)
    (hsync : (xorBytes fields error).head? = fields.head?) :
    crc64 (xorBytes fields error) ≠ crc64 fields := by
  intro heq
  have hzero : bitwise crc64Poly 0#64 error = 0#64 := by
    by_contra hcheck
    exact bitwise_xor_ne crc64Poly _ fields error (by omega) hcheck
      ((BitVec.xor_left_inj _).mp heq)
  obtain ⟨b, hb, hb0⟩ := hne
  rcases bitwise_eq_zero (w := 63) (by omega) crc64Poly (by decide) (by decide) (by omega)
    hzero with hall | hgenerator
  · exact hb0 (hall b hb)
  · -- the one error that is forgotten has 0x27 in its first byte
    obtain ⟨f, fields, rfl⟩ := List.exists_cons_of_length_eq_add_one hsize
    obtain ⟨e, error, rfl⟩ := List.exists_cons_of_length_eq_add_one herror
    have hfirst : e = 0 := by
      have hsame : f ^^^ e = f := by simpa [xorBytes] using hsync
      calc e = f ^^^ (f ^^^ e) := by rw [← BitVec.xor_assoc, BitVec.xor_self, BitVec.zero_xor]
        _ = 0 := by rw [hsame, BitVec.xor_self]; rfl
    have hlow := congrArg (· % 256) hgenerator
    rw [hfirst] at hlow
    simp [leValue, crc64Poly] at hlow

/-- A damaged header that still opens with the sync byte no longer carries its
checksum, whatever follows it. -/
theorem corruptHeader_detected (hdr error rest : List Byte) (hsize : hdr.length = hdrSize)
    (hsync : hdr.head? = some syncByte) (hcrc : crcField hdr = (crc64 (hdr.take 8)).toNat)
    (herror : error.length = 8) (hne : ∃ b ∈ error, b ≠ 0)
    (hopens : (corruptHeader hdr error ++ rest).head? = some syncByte) :
    crcField (corruptHeader hdr error ++ rest) ≠
      (crc64 ((corruptHeader hdr error ++ rest).take 8)).toNat := by
  have hsixteen : hdrSize = 16 := rfl
  have hfields : (hdr.take 8).length = 8 := by
    rw [List.length_take, hsize]
    rfl
  have hsum : (xorBytes (hdr.take 8) error).length = 8 := by
    rw [xorBytes_length _ _ (by omega), hfields]
  have htake : (corruptHeader hdr error ++ rest).take 8 = xorBytes (hdr.take 8) error := by
    rw [corruptHeader, List.append_assoc]
    exact List.take_left' hsum
  have hdrop : (corruptHeader hdr error ++ rest).drop 8 = hdr.drop 8 ++ rest := by
    rw [corruptHeader, List.append_assoc]
    exact List.drop_left' hsum
  have hfield : crcField (corruptHeader hdr error ++ rest) = crcField hdr := by
    rw [crcField, hdrop, crcField, List.take_append_of_le_length]
    rw [List.length_drop]
    omega
  have hfirst : (xorBytes (hdr.take 8) error).head? = (hdr.take 8).head? := by
    rw [← htake, List.head?_take, List.head?_take, hopens, hsync]
  rw [hfield, hcrc, htake]
  intro heq
  exact crc64_corrupt_ne _ error hfields herror hne hfirst (BitVec.eq_of_toNat_eq heq).symm

/-- No receiver starts on the body of a damaged header. -/
theorem corruptHeader_scan (P : Policy) (hdr error : List Byte) (hsize : hdr.length = hdrSize)
    (hsync : hdr.head? = some syncByte) (hcrc : crcField hdr = (crc64 (hdr.take 8)).toNat)
    (herror : error.length = 8) (hne : ∃ b ∈ error, b ≠ 0) (hdr' got : List Byte)
    (want : Nat) : P.format.scan .idle (corruptHeader hdr error) ≠ .body hdr' got want := by
  intro hbody
  have hlen : (corruptHeader hdr error).length ≤ P.format.hdrSize := by
    have hsixteen : hdrSize = 16 := rfl
    have hfields : (hdr.take 8).length = 8 := by
      rw [List.length_take, hsize]
      rfl
    change (corruptHeader hdr error).length ≤ hdrSize
    rw [corruptHeader, List.length_append, xorBytes_length _ _ (by omega), hfields,
      List.length_drop]
    omega
  obtain ⟨rfl, hopens, hannounced⟩ := P.format.idle_body hlen hbody
  have hkept := ((P.bodyLen_eq_some_iff _ _).mp hannounced).2.1
  have hdetected := corruptHeader_detected hdr error [] hsize hsync hcrc herror hne
  rw [List.append_nil] at hdetected
  exact hdetected hopens hkept

theorem crc32_corrupt_ne (payload error : List Byte) (hlen : error.length = payload.length)
    (hburst : Burst 32 error) : crc32 (xorBytes payload error) ≠ crc32 payload := by
  intro heq
  have hcheck : bitwise crc32Poly 0#32 error ≠ 0#32 :=
    bitwise_burst_ne (by omega) crc32Poly (by decide) hburst
  exact bitwise_xor_ne crc32Poly _ payload error hlen hcheck ((BitVec.xor_left_inj _).mp heq)

/-- A frame with a damaged payload is a frame that carries the old trailer. -/
theorem corruptPayload_rawFrame (cmd : Byte) (payload error : List Byte)
    (reserved trailer : BitVec 32) (rest : List Byte) (hlen : payload.length < 65536)
    (herror : error.length = payload.length) :
    corruptPayload (rawFrame cmd payload reserved trailer ++ rest) error =
      rawFrame cmd (xorBytes payload error) reserved trailer ++ rest := by
  have hhdr : (rawFrame cmd payload reserved trailer ++ rest).take hdrSize =
      header cmd payload.length reserved := by
    rw [rawFrame_append]
    exact List.take_left' (header_length cmd payload.length reserved)
  rw [corruptPayload, hhdr, rawFrame_payloadPart _ _ _ _ _ hlen,
    rawFrame_lenField _ _ _ _ _ hlen, rawFrame_drop_payload, rawFrame_append,
    xorBytes_length payload error herror]

end GhostBlade.Protocol
