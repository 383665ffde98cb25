import GhostBlade.Firmware.RxPath

/-!
What holds of the frame assembly whatever bytes it is given: its indices stay
inside their buffers, it never enters the two states that have no case of their
own, and its counters account for each other and for the values the calls
return.
-/

namespace GhostBlade.Firmware

open GhostBlade.Library GhostBlade.Protocol

/-- The index the next byte is written at and the size of the buffer it is
written to. -/
def RxCtx.nextWrite (c : RxCtx) : Option (Nat × Nat) :=
  match c.state with
  | .idle => some (0, 16)
  | .header => some (c.hdrIdx, 16)
  | .payload => some (c.payloadIdx, 4092)
  | .crc32 => some (c.crc32Idx, 4)
  | .complete | .error => none

/-- Where the indices stand in each state. -/
structure RxCtx.InBounds (c : RxCtx) : Prop where
  header : c.state = .header → 1 ≤ c.hdrIdx ∧ c.hdrIdx ≤ 15
  payload : c.state = .payload →
    c.payloadIdx < c.expectedPayloadLen.toNat ∧ c.expectedPayloadLen.toNat ≤ 4092
  crc32 : c.state = .crc32 → c.crc32Idx < 4 ∧ c.expectedPayloadLen.toNat ≤ 4092
  complete : c.state ≠ .complete
  error : c.state ≠ .error
  write : ∀ i size, c.nextWrite = some (i, size) → i < size

theorem RxCtx.Valid.inBounds {c : RxCtx} (h : c.Valid) : c.InBounds where
  header hs := by
    obtain ⟨-, hone, hlt⟩ := (RxCtx.valid_header hs).mp h
    omega
  payload hs := by
    obtain ⟨hok, hlt⟩ := (RxCtx.valid_payload hs).mp h
    exact ⟨hlt, hok.expected_le⟩
  crc32 hs := by
    obtain ⟨hok, hlt⟩ := (RxCtx.valid_crc32 hs).mp h
    exact ⟨hlt, hok.expected_le⟩
  complete hs := by simp [RxCtx.Valid, hs] at h
  error hs := by simp [RxCtx.Valid, hs] at h
  write i size hwrite := by
    cases hs : c.state with
    | idle => grind [RxCtx.nextWrite]
    | header =>
        obtain ⟨-, -, hlt⟩ := (RxCtx.valid_header hs).mp h
        grind [RxCtx.nextWrite]
    | payload =>
        obtain ⟨hok, hlt⟩ := (RxCtx.valid_payload hs).mp h
        have hmax : c.expectedPayloadLen.toNat ≤ 4092 := hok.expected_le
        grind [RxCtx.nextWrite]
    | crc32 =>
        obtain ⟨-, hlt⟩ := (RxCtx.valid_crc32 hs).mp h
        grind [RxCtx.nextWrite]
    | complete => simp [RxCtx.nextWrite, hs] at hwrite
    | error => simp [RxCtx.nextWrite, hs] at hwrite

/-- Frames received and not dispatched, less the errors counted. -/
def RxCtx.balance (c : RxCtx) : BitVec 32 :=
  c.framesReceived - c.framesDispatched - c.framesCrcError

/-- How the counters move when so many headers are rejected and frames
dispatched. -/
structure Counted (c c' : RxCtx) (rejected done : Nat) : Prop where
  balance : c'.balance + BitVec.ofNat 32 rejected = c.balance
  dispatched : c'.framesDispatched = c.framesDispatched + BitVec.ofNat 32 done

theorem Counted.of_same {c c' : RxCtx} (hreceived : c'.framesReceived = c.framesReceived)
    (hdispatched : c'.framesDispatched = c.framesDispatched)
    (hcrcError : c'.framesCrcError = c.framesCrcError) : Counted c c' 0 0 where
  balance := by simp [RxCtx.balance, hreceived, hdispatched, hcrcError]
  dispatched := by simp [hdispatched]

theorem Counted.of_refused {c c' : RxCtx} (hreceived : c'.framesReceived = c.framesReceived + 1)
    (hdispatched : c'.framesDispatched = c.framesDispatched)
    (hcrcError : c'.framesCrcError = c.framesCrcError + 1) : Counted c c' 0 0 where
  balance := by
    simp only [RxCtx.balance, hreceived, hdispatched, hcrcError]
    grind
  dispatched := by simp [hdispatched]

theorem Counted.of_rejected {c c' : RxCtx} (hreceived : c'.framesReceived = c.framesReceived)
    (hdispatched : c'.framesDispatched = c.framesDispatched)
    (hcrcError : c'.framesCrcError = c.framesCrcError + 1) : Counted c c' 1 0 where
  balance := by
    simp only [RxCtx.balance, hreceived, hdispatched, hcrcError]
    grind
  dispatched := by simp [hdispatched]

/-- Only a header can leave the header state for the idle state. -/
theorem headersRejected_of_ne {before after : RxState} (h : before ≠ .header) :
    headersRejected before after = 0 := if_neg fun hboth => h hboth.1

/-- A complete header is counted as an error exactly when it is thrown away. -/
theorem headerComplete_counted (c : RxCtx) (hopens : c.hdrBuf.toList.head? = some syncByte) :
    Counted c c.headerComplete (headersRejected .header c.headerComplete.state) 0 := by
  have rejected (c' : RxCtx) (hstate : c'.state = .idle)
      (hreceived : c'.framesReceived = c.framesReceived)
      (hdispatched : c'.framesDispatched = c.framesDispatched)
      (hcrcError : c'.framesCrcError = c.framesCrcError + 1) :
      Counted c c' (headersRejected .header c'.state) 0 := by
    have hone : headersRejected .header c'.state = 1 := by
      rw [hstate]
      rfl
    rw [hone]
    exact Counted.of_rejected hreceived hdispatched hcrcError
  have kept (c' : RxCtx) (hstate : c'.state ≠ .idle)
      (hreceived : c'.framesReceived = c.framesReceived)
      (hdispatched : c'.framesDispatched = c.framesDispatched)
      (hcrcError : c'.framesCrcError = c.framesCrcError) :
      Counted c c' (headersRejected .header c'.state) 0 := by
    have hzero : headersRejected .header c'.state = 0 := if_neg fun hboth => hstate hboth.2
    rw [hzero]
    exact Counted.of_same hreceived hdispatched hcrcError
  rcases validateFrameHeader_cases c hopens with ⟨hval, -, -⟩ | ⟨hret, hctx, -⟩
  · simp only [RxCtx.headerComplete, hval, if_true]
    split
    · exact rejected _ rfl rfl rfl rfl
    · split
      · exact kept _ (by simp) rfl rfl rfl
      · exact kept _ (by simp) rfl rfl rfl
  · have hdone : c.headerComplete = { c.validateFrameHeader.2 with state := .idle } := by
      unfold RxCtx.headerComplete
      exact if_neg hret
    rw [hdone, hctx]
    exact rejected _ rfl rfl rfl rfl

theorem onHeader_counted (c : RxCtx) (b : Byte) (hstate : c.state = .header) (h : c.Valid) :
    Counted c (c.onHeader b) (headersRejected .header (c.onHeader b).state) 0 := by
  obtain ⟨hopens, hone, -⟩ := (RxCtx.valid_header hstate).mp h
  have hopens' : (c.hdrBuf.setIfInBounds c.hdrIdx b).toList.head? = some syncByte := by
    rw [Vector.toList_setIfInBounds, List.head?_eq_getElem?,
      List.getElem?_set_ne (by omega), ← List.head?_eq_getElem?]
    exact hopens
  unfold RxCtx.onHeader
  dsimp only
  split
  · have hcounted := headerComplete_counted
      { c with hdrBuf := c.hdrBuf.setIfInBounds c.hdrIdx b, hdrIdx := c.hdrIdx + 1 } hopens'
    exact ⟨hcounted.balance, hcounted.dispatched⟩
  · have hkept : headersRejected .header c.state = 0 := by
      rw [hstate]
      rfl
    dsimp only
    rw [hkept]
    exact Counted.of_same rfl rfl rfl

/-- The context forgets its frame after dispatching it. -/
theorem Counted.of_dispatch (p q : SpiProtocol) (c : RxCtx)
    (hstep : DispatchStep { p with rx := c } q)
    (hreceived : c.framesReceived = p.rx.framesReceived + 1)
    (hdispatched : c.framesDispatched = p.rx.framesDispatched)
    (hcrcError : c.framesCrcError = p.rx.framesCrcError) :
    Counted p.rx { q.rx with state := .idle } 0 1 where
  balance := by
    simp only [RxCtx.balance, hstep.rx, hreceived, hdispatched, hcrcError]
    grind
  dispatched := by
    simp only [hstep.rx, hdispatched]
    rfl

/-- A complete frame is received, and dispatched or counted as an error. -/
theorem frameComplete_counted (p : SpiProtocol) :
    Counted p.rx p.frameComplete.1.rx 0 p.frameComplete.2 := by
  by_cases hok : p.rx.validateFramePayload.1 = 0
  · rw [frameComplete_ok hok]
    exact Counted.of_dispatch p _ p.rx.received (dispatchFrame_step _) rfl rfl rfl
  · rw [frameComplete_bad hok]
    exact Counted.of_refused rfl rfl rfl

theorem onCrc32_counted (p : SpiProtocol) (b : Byte) :
    Counted p.rx (p.onCrc32 b).1.rx 0 (p.onCrc32 b).2 := by
  unfold SpiProtocol.onCrc32
  dsimp only
  split
  · have hcounted := frameComplete_counted
      { p with
        rx := { p.rx with
          crc32Buf := p.rx.crc32Buf.setIfInBounds p.rx.crc32Idx b
          crc32Idx := p.rx.crc32Idx + 1 } }
    exact ⟨hcounted.balance, hcounted.dispatched⟩
  · exact Counted.of_same rfl rfl rfl

theorem onIdle_counted (c : RxCtx) (b : Byte) : Counted c (c.onIdle b) 0 0 := by
  unfold RxCtx.onIdle
  split
  · exact Counted.of_same rfl rfl rfl
  · exact Counted.of_same rfl rfl rfl

theorem onPayload_counted (c : RxCtx) (b : Byte) : Counted c (c.onPayload b) 0 0 := by
  unfold RxCtx.onPayload
  dsimp only
  split
  · exact Counted.of_same rfl rfl rfl
  · exact Counted.of_same rfl rfl rfl

theorem rxByte_counted (p : SpiProtocol) (b : Byte) (h : p.rx.Valid) :
    Counted p.rx (p.rxByte b).1.rx (headersRejected p.rx.state (p.rxByte b).1.rx.state)
      (p.rxByte b).2 := by
  cases hstate : p.rx.state with
  | header =>
      simp only [SpiProtocol.rxByte, hstate]
      exact onHeader_counted p.rx b hstate h
  | idle =>
      rw [headersRejected_of_ne (by simp)]
      simp only [SpiProtocol.rxByte, hstate]
      exact onIdle_counted p.rx b
  | payload =>
      rw [headersRejected_of_ne (by simp)]
      simp only [SpiProtocol.rxByte, hstate]
      exact onPayload_counted p.rx b
  | crc32 =>
      rw [headersRejected_of_ne (by simp)]
      simp only [SpiProtocol.rxByte, hstate]
      exact onCrc32_counted p b
  | complete => simp [RxCtx.Valid, hstate] at h
  | error => simp [RxCtx.Valid, hstate] at h

/-- The invariant of the receive path. -/
structure RxPath.Sound (s : RxPath) : Prop where
  valid : s.fw.proto.rx.Valid
  syncError : s.fw.proto.rx.framesSyncError = 0
  balance : s.fw.proto.rx.balance + BitVec.ofNat 32 s.rejected = 0
  returned : s.fw.proto.rx.framesDispatched =
    BitVec.ofNat 32 (s.returned.sum + s.frames.getD 0)

theorem RxPath.Sound.takeByte {s : RxPath} {frames : Nat} (h : s.Sound)
    (hf : s.frames = some frames) : (s.takeByte frames).Sound := by
  let b := s.fw.spiRx.cells s.fw.spiRx.tail
  have hfollows := rxByte_follows s.fw.proto b h.valid
  have hcounted := rxByte_counted s.fw.proto b h.valid
  have hbalance := hcounted.balance
  have hreturned := h.returned
  rw [hf, Option.getD_some] at hreturned
  refine ⟨hfollows.valid, hfollows.syncError.trans h.syncError, ?_, ?_⟩
  · have hzero := h.balance
    rw [← hbalance, BitVec.add_assoc, ← BitVec.ofNat_add] at hzero
    rw [← hzero, Nat.add_comm]
    rfl
  · refine hcounted.dispatched.trans ?_
    rw [hreturned, ← BitVec.ofNat_add, Nat.add_assoc]
    rfl

theorem RxPath.Sound.step {s : RxPath} (h : s.Sound) (e : RxEvent) : (s.step e).Sound := by
  rcases s.step_cases e with ⟨rxFifo, -, hstep⟩ | ⟨-, hf, hstep⟩ | ⟨frames, -, hf, -, hstep⟩ |
    ⟨frames, -, hf, -, hstep⟩
  · have hproto := weakSpi0Handler_proto rxFifo s.fw
    rw [hstep]
    exact ⟨by simp [hproto, h.valid], by simp [hproto, h.syncError],
      by simp [hproto, h.balance], by simp [hproto, h.returned]⟩
  · rw [hstep]
    refine ⟨h.valid, h.syncError, h.balance, ?_⟩
    simpa [hf] using h.returned
  · rw [hstep]
    refine ⟨h.valid, h.syncError, h.balance, ?_⟩
    simpa [hf] using h.returned
  · rw [hstep]
    exact h.takeByte hf

theorem RxPath.Sound.init (fw : Mcu) :
    (RxPath.start { fw with proto := spiProtocolInit fw.proto }).Sound where
  valid := RxCtx.valid_of_idle rfl
  syncError := rfl
  balance := by
    simp [RxPath.start, spiProtocolInit, RxCtx.zero, RxCtx.balance]
  returned := by
    simp [RxPath.start, spiProtocolInit, RxCtx.zero]

/-- Whatever is received, in whatever portions and calls, after
`spi_protocol_init`. -/
theorem parser_invariant (fw : Mcu) (es : List RxEvent) :
    let s := run RxPath.step (RxPath.start { fw with proto := spiProtocolInit fw.proto }) es
    let c := s.fw.proto.rx
    c.InBounds ∧ c.framesSyncError = 0 ∧
      c.framesReceived - c.framesDispatched + BitVec.ofNat 32 s.rejected = c.framesCrcError ∧
      BitVec.ofNat 32 (s.returned.sum + s.frames.getD 0) = c.framesDispatched := by
  intro s c
  have h : s.Sound := run_invariant (fun _ e hs => hs.step e) (RxPath.Sound.init fw) es
  refine ⟨h.valid.inBounds, h.syncError, ?_, h.returned.symm⟩
  have hbalance := h.balance
  simp only [RxCtx.balance] at hbalance
  grind

end GhostBlade.Firmware
