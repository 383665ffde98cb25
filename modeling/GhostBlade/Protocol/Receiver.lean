import GhostBlade.Library.Framing
import GhostBlade.Protocol.Frame

/-!
What a receiver of bridge frames does with a byte stream, apart from how it
stores it. Both receivers of the firmware cut the stream in the same way and
check the header and the trailer; a `Policy` says which of the two optional
checks a receiver makes. The words a receiver takes as one frame, from the
first byte to the last, are characterised for any policy.
-/

namespace GhostBlade.Protocol

open GhostBlade.Library GhostBlade.Library.Framing

/-- Which checks a receiver makes: that the reserved field is zero, and that
the trailer of an empty payload is right. -/
structure Policy where
  reservedZero : Bool
  emptyTrailer : Bool

variable (P : Policy)

/-- The body length a header announces, the trailer included. -/
def Policy.bodyLen (hdr : List Byte) : Option Nat :=
  if P.reservedZero = true ∧ reservedField hdr ≠ 0 then none
  else if crcField hdr ≠ (crc64 (hdr.take 8)).toNat then none
  else if lenField hdr > maxPayload then none
  else some (lenField hdr + crc32Size)

theorem Policy.bodyLen_eq_some_iff (hdr : List Byte) (n : Nat) :
    P.bodyLen hdr = some n ↔
      (P.reservedZero = true → reservedField hdr = 0) ∧
        crcField hdr = (crc64 (hdr.take 8)).toNat ∧ lenField hdr ≤ maxPayload ∧
          n = lenField hdr + crc32Size := by
  unfold Policy.bodyLen
  split
  · next h => simp [h.1, h.2]
  · next h =>
    have hres : P.reservedZero = true → reservedField hdr = 0 := by
      intro hstrict
      by_contra hne
      exact h ⟨hstrict, hne⟩
    split
    · next hcrc => simp [hcrc]
    · next hcrc =>
      split
      · next hlen =>
        have hnot : ¬ lenField hdr ≤ maxPayload := by omega
        simp [hnot]
      · next hlen =>
        simp only [ne_eq, not_not] at hcrc
        have hle : lenField hdr ≤ maxPayload := by omega
        constructor
        · intro hn
          simp only [Option.some.injEq] at hn
          exact ⟨hres, hcrc, hle, hn.symm⟩
        · rintro ⟨_, _, _, hn⟩
          rw [hn]

def Policy.format : Format Byte where
  sync := syncByte
  hdrSize := hdrSize
  bodyLen := P.bodyLen
  one_lt_hdrSize := by decide
  bodyLen_pos := by
    intro hdr n h
    have hn := ((P.bodyLen_eq_some_iff hdr n).mp h).2.2.2
    simp [hn, crc32Size]

def bodyPayload (body : List Byte) : List Byte := body.take (body.length - crc32Size)
def bodyTrailer (body : List Byte) : Nat := leValue (body.drop (body.length - crc32Size))

/-- Whether the receiver takes a complete body. -/
def Policy.bodyOk (body : List Byte) : Bool :=
  (P.emptyTrailer = false ∧ bodyPayload body = []) ∨
    bodyTrailer body = (crc32 (bodyPayload body)).toNat

section

variable (payload : List Byte) (trailer : BitVec 32)

@[simp] theorem bodyPayload_append :
    bodyPayload (payload ++ leBytes 4 trailer.toNat) = payload := by
  simp [bodyPayload, crc32Size]

@[simp] theorem bodyTrailer_append :
    bodyTrailer (payload ++ leBytes 4 trailer.toNat) = trailer.toNat := by
  have hdrop : (payload ++ leBytes 4 trailer.toNat).drop
      ((payload ++ leBytes 4 trailer.toNat).length - crc32Size) = leBytes 4 trailer.toNat := by
    simp [crc32Size]
  rw [bodyTrailer, hdrop]
  exact leValue_leBytes_of_lt 4 _ (by simpa using trailer.isLt)

theorem Policy.bodyOk_append_iff :
    P.bodyOk (payload ++ leBytes 4 trailer.toNat) = true ↔
      (payload ≠ [] ∨ P.emptyTrailer = true → trailer = crc32 payload) := by
  have hval : trailer.toNat = (crc32 payload).toNat ↔ trailer = crc32 payload :=
    ⟨BitVec.eq_of_toNat_eq, congrArg _⟩
  simp only [Policy.bodyOk, bodyPayload_append, bodyTrailer_append, hval, Bool.decide_or,
    Bool.or_eq_true, decide_eq_true_eq]
  by_cases hempty : payload = [] <;> cases P.emptyTrailer <;> simp [hempty]

end

/-- The header and body a receiver of this policy cuts out are those of a raw
frame. -/
theorem Policy.fits_iff (hdr body : List Byte) :
    P.format.Fits hdr body ↔
      ∃ (cmd : Byte) (payload : List Byte) (reserved trailer : BitVec 32),
        payload.length ≤ maxPayload ∧
        (P.reservedZero = true → reserved = 0) ∧
        hdr = header cmd payload.length reserved ∧
        body = payload ++ leBytes 4 trailer.toNat := by
  constructor
  · rintro ⟨hsize, hopens, hann⟩
    obtain ⟨hres, hcrc, hmax, hbody⟩ := (P.bodyLen_eq_some_iff hdr _).mp hann
    have hshape := header_of_fields hdr hsize hopens hcrc
    have hsplit := List.take_append_drop (lenField hdr) body
    have hplen : (body.take (lenField hdr)).length = lenField hdr := by
      simp only [List.length_take]
      omega
    have htlen : (body.drop (lenField hdr)).length = 4 := by
      simp only [List.length_drop, crc32Size] at hbody ⊢
      omega
    have htrailer := leBytes_toNat_ofNat_leValue (w := 32) (body.drop (lenField hdr))
      (by omega)
    rw [htlen] at htrailer
    refine ⟨hdr.getD 1 0, body.take (lenField hdr), BitVec.ofNat 32 (reservedField hdr),
      BitVec.ofNat 32 (leValue (body.drop (lenField hdr))), by omega, ?_, ?_, ?_⟩
    · intro hstrict
      rw [hres hstrict]
      rfl
    · rw [hplen]
      exact hshape
    · rw [htrailer, hsplit]
  · rintro ⟨cmd, payload, reserved, trailer, hlen, hres, rfl, rfl⟩
    have hmax : maxPayload = 4092 := rfl
    have hlenField := header_lenField cmd payload.length reserved [] (by omega)
    have hresField := header_reservedField cmd payload.length reserved []
    have hcrcField := header_crcField cmd payload.length reserved []
    have hfields := header_take_fields cmd payload.length reserved []
    rw [List.append_nil] at hlenField hresField hcrcField hfields
    refine ⟨by simp [Policy.format], rfl, ?_⟩
    apply (P.bodyLen_eq_some_iff _ _).mpr
    refine ⟨?_, by rw [hcrcField, hfields], by rw [hlenField]; exact hlen, ?_⟩
    · intro hstrict
      rw [hresField, hres hstrict]
      rfl
    · rw [hlenField]
      simp [crc32Size]

/-- The word keeps the receiver busy from its first byte to its last, and the
last byte completes a frame the receiver takes. -/
def Policy.Takes (w : List Byte) : Prop :=
  ∃ hdr body, P.format.Busy w ∧ P.format.Completes w hdr body ∧ P.bodyOk body = true

theorem Policy.takes_iff (w : List Byte) :
    P.Takes w ↔
      ∃ (cmd : Byte) (payload : List Byte) (reserved trailer : BitVec 32),
        payload.length ≤ maxPayload ∧
        w = rawFrame cmd payload reserved trailer ∧
        (P.reservedZero = true → reserved = 0) ∧
        (payload ≠ [] ∨ P.emptyTrailer = true → trailer = crc32 payload) := by
  constructor
  · rintro ⟨hdr, body, hbusy, hcompletes, hok⟩
    obtain ⟨hw, hfits⟩ := (P.format.busy_completes_iff w hdr body).mp ⟨hbusy, hcompletes⟩
    obtain ⟨cmd, payload, reserved, trailer, hlen, hres, rfl, rfl⟩ :=
      (P.fits_iff hdr body).mp hfits
    exact ⟨cmd, payload, reserved, trailer, hlen, hw, hres,
      (P.bodyOk_append_iff payload trailer).mp hok⟩
  · rintro ⟨cmd, payload, reserved, trailer, hlen, hw, hres, htrailer⟩
    have hfits := (P.fits_iff _ _).mpr ⟨cmd, payload, reserved, trailer, hlen, hres, rfl, rfl⟩
    obtain ⟨hbusy, hcompletes⟩ := (P.format.busy_completes_iff w _ _).mpr ⟨hw, hfits⟩
    exact ⟨_, _, hbusy, hcompletes, (P.bodyOk_append_iff payload trailer).mpr htrailer⟩

/-- Every receiver cuts an encoded frame out as a whole and takes it. -/
theorem Policy.fits_encode (cmd : Byte) (payload : List Byte)
    (hlen : payload.length ≤ maxPayload) :
    P.format.Fits (header cmd payload.length 0) (payload ++ leBytes 4 (crc32 payload).toNat) ∧
      P.bodyOk (payload ++ leBytes 4 (crc32 payload).toNat) = true :=
  ⟨(P.fits_iff _ _).mpr ⟨cmd, payload, 0, crc32 payload, hlen, fun _ => rfl, rfl, rfl⟩,
    (P.bodyOk_append_iff payload _).mpr fun _ => rfl⟩

end GhostBlade.Protocol
