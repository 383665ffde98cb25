import GhostBlade.Firmware.SpiProtocol

/-!
What `build_response_frame` does to the TX ring. The masked subtraction gives
the number of unread bytes, so a frame is stored exactly when it fits behind
them, and refusing one changes nothing but a counter.
-/

namespace GhostBlade.Firmware

open GhostBlade.Library GhostBlade.Protocol

theorem txUsed_toNat (tx : Ring Byte 4096) : (txUsed tx).toNat = tx.used := by
  have hhead := tx.head.isLt
  have htail := tx.tail.isLt
  have hmask : (4095#32).toNat = 2 ^ 12 - 1 := rfl
  have hused : tx.used = (4096 - tx.tail.val + tx.head.val) % 4096 := rfl
  rw [txUsed, BitVec.toNat_and, hmask, Nat.and_two_pow_sub_one_eq_mod, BitVec.toNat_sub,
    BitVec.toNat_ofNat, BitVec.toNat_ofNat, hused]
  omega

theorem avail_toNat (tx : Ring Byte 4096) :
    (4096#32 - txUsed tx - 1#32).toNat = 4095 - tx.used := by
  have hused := tx.used_lt
  have hval := txUsed_toNat tx
  rw [BitVec.toNat_sub, BitVec.toNat_sub, hval]
  simp only [BitVec.toNat_ofNat]
  omega

/-- The check of `build_response_frame`: does the frame fit behind the unread bytes? -/
theorem no_room_iff (tx : Ring Byte 4096) {payload : List Byte}
    (hlen : payload.length ≤ maxPayload) :
    BitVec.ofNat 32 (hdrSize + payload.length + crc32Size) > 4096#32 - txUsed tx - 1#32 ↔
      ¬ tx.used + (20 + payload.length) < 4096 := by
  have hmax : maxPayload = 4092 := rfl
  have hused := tx.used_lt
  rw [gt_iff_lt, BitVec.lt_def, avail_toNat, BitVec.toNat_ofNat]
  simp only [hdrSize, crc32Size]
  omega

/-- A frame is queued when it fits behind the unread bytes. -/
theorem buildResponseFrame_fits (cmd : Byte) (payload : List Byte) (p : SpiProtocol)
    (hlen : payload.length ≤ maxPayload) (hfit : p.tx.used + (20 + payload.length) < 4096) :
    buildResponseFrame cmd payload p =
      (0, { p with tx := p.tx.putAll (encode cmd payload), board := intReqAssert p.board }) := by
  have hmax : maxPayload = 4092 := rfl
  have hroom := mt (no_room_iff p.tx hlen).mp (not_not.mpr hfit)
  unfold buildResponseFrame
  rw [if_neg (by omega)]
  dsimp only
  rw [if_neg hroom, responseFrame_eq cmd payload (by omega)]

theorem buildResponseFrame_full (cmd : Byte) (payload : List Byte) (p : SpiProtocol)
    (hlen : payload.length ≤ maxPayload) (hfull : ¬ p.tx.used + (20 + payload.length) < 4096) :
    buildResponseFrame cmd payload p =
      (-1, { p with stats := { p.stats with txOverruns := p.stats.txOverruns + 1 } }) := by
  have hmax : maxPayload = 4092 := rfl
  unfold buildResponseFrame
  rw [if_neg (by omega)]
  dsimp only
  rw [if_pos ((no_room_iff p.tx hlen).mpr hfull)]

/-- A queued frame is appended to the unread bytes. -/
theorem putAll_encode_unread (tx : Ring Byte 4096) (cmd : Byte) (payload : List Byte)
    (hfit : tx.used + (20 + payload.length) < 4096) :
    (tx.putAll (encode cmd payload)).unread = tx.unread ++ encode cmd payload ∧
      (tx.putAll (encode cmd payload)).tail = tx.tail := by
  apply Ring.putAll_unread
  rw [encode_length]
  omega

/-- What a call of `build_response_frame` can do. -/
theorem buildResponseFrame_cases (cmd : Byte) (payload : List Byte) (p : SpiProtocol)
    (hlen : payload.length ≤ maxPayload) :
    buildResponseFrame cmd payload p =
        (-1, { p with stats := { p.stats with txOverruns := p.stats.txOverruns + 1 } }) ∨
      ∃ tx : Ring Byte 4096,
        buildResponseFrame cmd payload p =
            (0, { p with tx := tx, board := intReqAssert p.board }) ∧
          tx.unread = p.tx.unread ++ encode cmd payload ∧ tx.tail = p.tx.tail := by
  by_cases hfit : p.tx.used + (20 + payload.length) < 4096
  · exact .inr ⟨_, buildResponseFrame_fits cmd payload p hlen hfit,
      putAll_encode_unread p.tx cmd payload hfit⟩
  · exact .inl (buildResponseFrame_full cmd payload p hlen hfit)

/-- The parser, the device state and the dispatch log are what they were. -/
structure SpiProtocol.Untouched (p p' : SpiProtocol) : Prop where
  rx : p'.rx = p.rx
  device : p'.device = p.device
  dispatched : p'.dispatched = p.dispatched

section

variable (p : SpiProtocol)

theorem SpiProtocol.Untouched.refl : p.Untouched p := ⟨rfl, rfl, rfl⟩

theorem SpiProtocol.Untouched.stats {p q : SpiProtocol} (h : p.Untouched q) (stats : ProtoStats) :
    p.Untouched { q with stats := stats } := ⟨h.rx, h.device, h.dispatched⟩

theorem buildResponseFrame_untouched (cmd : Byte) (payload : List Byte) :
    p.Untouched (buildResponseFrame cmd payload p).2 := by
  unfold buildResponseFrame
  dsimp only
  split_ifs
  · exact .refl p
  · exact ⟨rfl, rfl, rfl⟩
  · exact ⟨rfl, rfl, rfl⟩

theorem sendTelemetry_untouched : p.Untouched (spiProtocolSendTelemetry p) :=
  (buildResponseFrame_untouched p cmdTelemetry p.device.telemetry).stats _

theorem sendIqChunk_untouched (data : List Byte) :
    p.Untouched (spiProtocolSendIqChunk data p) := by
  unfold spiProtocolSendIqChunk
  split_ifs
  · exact .refl p
  · exact (buildResponseFrame_untouched p cmdSdrIqChunk (data.take maxPayload)).stats _

end

end GhostBlade.Firmware
