import GhostBlade.Library.CrcOrder
import GhostBlade.Protocol.Corruption

/-!
Frames damaged behind their header, in the payload, in the trailer or across
both. The generator of the CRC-32 is primitive: a register steps through all its
non-zero values before it returns, so that two flipped bits of a frame never
cancel. Whether any other damage does is a division.
-/

namespace GhostBlade.Protocol

open GhostBlade.Library GhostBlade.Library.Crc Function

/-- A frame with an error on its payload and its trailer. -/
def corruptBody (frame error : List Byte) : List Byte :=
  frame.take hdrSize ++
    (xorBytes ((frame.drop hdrSize).take (lenField frame + crc32Size)) error ++
      frame.drop (hdrSize + lenField frame + crc32Size))

/-! ### The period of the generator -/

theorem prime_dvd_crc32_period {p : Nat} (hp : p.Prime) (h : p ∣ 2 ^ 32 - 1) :
    p = 3 ∨ p = 5 ∨ p = 17 ∨ p = 257 ∨ p = 65537 := by
  have hfactors : 2 ^ 32 - 1 = 3 * (5 * (17 * (257 * 65537))) := by norm_num
  have hsame {q : Nat} (hq : q.Prime) (hdvd : p ∣ q) : p = q :=
    (Nat.prime_dvd_prime_iff_eq hp hq).mp hdvd
  rw [hfactors] at h
  rcases hp.dvd_mul.mp h with h | h
  · exact .inl (hsame (by norm_num) h)
  rcases hp.dvd_mul.mp h with h | h
  · exact .inr (.inl (hsame (by norm_num) h))
  rcases hp.dvd_mul.mp h with h | h
  · exact .inr (.inr (.inl (hsame (by norm_num) h)))
  rcases hp.dvd_mul.mp h with h | h
  · exact .inr (.inr (.inr (.inl (hsame (by norm_num) h))))
  · exact .inr (.inr (.inr (.inr (hsame (by norm_num) h))))

/-- The register returns after `2 ^ 32 - 1` steps and not before. -/
theorem crc32_period : minimalPeriod (bitStep crc32Poly) (one 32) = 2 ^ 32 - 1 := by
  have hperiod (n : Nat) (hn : n < 2 ^ 32) :
      IsPeriodicPt (bitStep crc32Poly) n (one 32) ↔ power crc32Poly 32 n = one 32 := by
    rw [power_eq crc32Poly 32 n hn]
    exact Iff.rfl
  apply minimalPeriod_of_primes
  · rw [hperiod _ (by norm_num)]
    decide +kernel
  · intro p hp hdvd
    rw [hperiod _ (lt_of_le_of_lt (Nat.div_le_self _ _) (by norm_num))]
    rcases prime_dvd_crc32_period hp hdvd with rfl | rfl | rfl | rfl | rfl
    all_goals decide +kernel

/-- No two bits of a frame are a period apart. -/
theorem crc32_flipsTwo_ne {i j : Nat} {error : List Byte} (h : FlipsTwo i j error) (hij : i < j)
    (hlen : error.length ≤ maxPayload + crc32Size) : bitwise crc32Poly 0#32 error ≠ 0#32 := by
  have hj : j < 8 * error.length := bitAt_lt ((h j).mpr (.inr rfl))
  have hmax : maxPayload + crc32Size = 4096 := rfl
  intro hzero
  rw [bitwise_flipsTwo_eq_zero_iff (by omega) (by decide) h hij, crc32_period] at hzero
  have hle := Nat.le_of_dvd (by omega) hzero
  omega

theorem crc32_burst_ne {error : List Byte} (h : Burst 32 error) :
    bitwise crc32Poly 0#32 error ≠ 0#32 :=
  bitwise_burst_ne (by omega) crc32Poly (by decide) h

/-! ### The damaged frame -/

theorem bitAt_xorBytes (xs es : List Byte) (h : es.length = xs.length) (i : Nat) :
    bitAt (xorBytes xs es) i = (bitAt xs i ^^ bitAt es i) := by
  have hbyte : (xorBytes xs es).getD (i / 8) 0 = xs.getD (i / 8) 0 ^^^ es.getD (i / 8) 0 := by
    simp only [xorBytes, List.getD_eq_getElem?_getD, List.getElem?_zipWith]
    by_cases hi : i / 8 < xs.length
    · have hi' : i / 8 < es.length := by omega
      simp [hi, hi']
    · have hi' : ¬ i / 8 < es.length := by omega
      simp [hi, hi']
  rw [bitAt, hbyte, BitVec.getLsbD_xor]
  rfl

theorem leValue_xorBytes (xs es : List Byte) (h : es.length = xs.length) :
    leValue (xorBytes xs es) = leValue xs ^^^ leValue es := by
  apply Nat.eq_of_testBit_eq
  intro i
  rw [Nat.testBit_xor, testBit_leValue, testBit_leValue, testBit_leValue, bitAt_xorBytes xs es h]

theorem xorBytes_leBytes (trailer : BitVec 32) (es : List Byte) (h : es.length = 4) :
    xorBytes (leBytes 4 trailer.toNat) es =
      leBytes 4 (trailer ^^^ BitVec.ofNat 32 (leValue es)).toNat := by
  have hlen : es.length = (leBytes 4 trailer.toNat).length := by
    rw [h, leBytes_length]
  have hsum : (xorBytes (leBytes 4 trailer.toNat) es).length = 4 := by
    rw [xorBytes_length _ _ hlen, leBytes_length]
  have hlt : leValue es < 2 ^ 32 := by
    have hbytes := leValue_lt es
    rw [h] at hbytes
    exact hbytes
  have hvalue : leValue (xorBytes (leBytes 4 trailer.toNat) es) =
      (trailer ^^^ BitVec.ofNat 32 (leValue es)).toNat := by
    rw [leValue_xorBytes _ _ hlen, leValue_leBytes_of_lt 4 _ (by simpa using trailer.isLt),
      BitVec.toNat_xor, BitVec.toNat_ofNat, Nat.mod_eq_of_lt hlt]
  have hbytes := leBytes_leValue (xorBytes (leBytes 4 trailer.toNat) es)
  rw [hsum, hvalue] at hbytes
  exact hbytes.symm

theorem xorBytes_append (xs ys es : List Byte) (h : xs.length ≤ es.length) :
    xorBytes (xs ++ ys) es =
      xorBytes xs (es.take xs.length) ++ xorBytes ys (es.drop xs.length) := by
  have hsplit : es = es.take xs.length ++ es.drop xs.length := (List.take_append_drop _ _).symm
  have hlen : xs.length = (es.take xs.length).length := by
    rw [List.length_take]
    omega
  conv_lhs => rw [hsplit]
  exact List.zipWith_append hlen

/-- A frame damaged behind its header is the frame of the damaged payload with
the damaged trailer. -/
theorem corruptBody_rawFrame (cmd : Byte) (payload error : List Byte)
    (reserved trailer : BitVec 32) (rest : List Byte) (hlen : payload.length < 65536)
    (herror : error.length = payload.length + crc32Size) :
    corruptBody (rawFrame cmd payload reserved trailer ++ rest) error =
      rawFrame cmd (xorBytes payload (error.take payload.length)) reserved
        (trailer ^^^ BitVec.ofNat 32 (leValue (error.drop payload.length))) ++ rest := by
  have hsize : crc32Size = 4 := rfl
  have hhdr : (rawFrame cmd payload reserved trailer ++ rest).take hdrSize =
      header cmd payload.length reserved := by
    rw [rawFrame_append]
    exact List.take_left' (header_length cmd payload.length reserved)
  have hbody : ((rawFrame cmd payload reserved trailer ++ rest).drop hdrSize).take
      (payload.length + crc32Size) = payload ++ leBytes 4 trailer.toNat := by
    rw [rawFrame_drop_header, ← List.append_assoc]
    exact List.take_left' (by simp [hsize])
  have hrest : (rawFrame cmd payload reserved trailer ++ rest).drop
      (hdrSize + payload.length + crc32Size) = rest := by
    rw [← List.drop_drop, rawFrame_drop_payload]
    exact List.drop_left' (leBytes_length 4 _)
  have htake : (error.take payload.length).length = payload.length := by
    rw [List.length_take]
    omega
  rw [corruptBody, hhdr, rawFrame_lenField _ _ _ _ _ hlen, hbody, hrest,
    xorBytes_append _ _ _ (by omega), xorBytes_leBytes _ _ (by rw [List.length_drop]; omega),
    rawFrame_append, xorBytes_length _ _ htake, List.append_assoc]

/-- The damaged trailer is right for the damaged payload exactly when the
generator divides the damage. -/
theorem trailer_kept_iff (payload error : List Byte)
    (herror : error.length = payload.length + crc32Size) :
    crc32 payload ^^^ BitVec.ofNat 32 (leValue (error.drop payload.length)) =
        crc32 (xorBytes payload (error.take payload.length)) ↔
      bitwise crc32Poly 0#32 error = 0#32 := by
  have hsize : crc32Size = 4 := rfl
  have htake : (error.take payload.length).length = payload.length := by
    rw [List.length_take]
    omega
  have hsplit : error = error.take payload.length ++ error.drop payload.length :=
    (List.take_append_drop _ _).symm
  have hcheck : crc32 (xorBytes payload (error.take payload.length)) =
      crc32 payload ^^^ bitwise crc32Poly 0#32 (error.take payload.length) := by
    have hsum := bitwise_xor crc32Poly 0xFFFFFFFF#32 0#32 payload _ htake
    rw [BitVec.xor_zero] at hsum
    rw [crc32, crc32, hsum]
    ac_rfl
  have hzero : bitwise crc32Poly 0#32 error = 0#32 ↔
      bitwise crc32Poly 0#32 (error.take payload.length) =
        BitVec.ofNat 32 (leValue (error.drop payload.length)) := by
    conv_lhs => rw [hsplit]
    exact bitwise_append_eq_zero_iff (by omega) (by decide) _ _ (by rw [List.length_drop]; omega)
  rw [hcheck, hzero, BitVec.xor_right_inj]
  exact eq_comm

end GhostBlade.Protocol
