import GhostBlade.Firmware.Effects
import GhostBlade.Library.Run

/-!
What the bytes that earlier frames leave in the receive buffers can influence:
nothing. Two contexts that agree on the part of their buffers the current frame
has filled stay in agreement whatever arrives, and the handlers make the same
calls to the device layer, with the same arguments.
-/

namespace GhostBlade.Firmware

open GhostBlade.Library GhostBlade.Protocol

/-- The calls the last trailer byte leads to. -/
def SpiProtocol.frameCompleteCalls (p : SpiProtocol) : List DeviceCall :=
  if p.rx.validateFramePayload.1 = 0 then
    deviceCalls (p.rx.hdrBuf.toList.getD 1 0) p.rx.payloadBuf.toList p.rx.expectedPayloadLen
      p.device
  else []

/-- The calls made on one received byte. -/
def SpiProtocol.byteCalls (p : SpiProtocol) (byte : Byte) : List DeviceCall :=
  if p.rx.state = .crc32 ∧ p.rx.crc32Idx + 1 ≥ crc32Size then
    SpiProtocol.frameCompleteCalls
      { p with
        rx :=
          { p.rx with
            crc32Buf := p.rx.crc32Buf.setIfInBounds p.rx.crc32Idx byte
            crc32Idx := p.rx.crc32Idx + 1 } }
  else []

/-- The calls made while some bytes are received, in order. -/
def SpiProtocol.feedCalls (p : SpiProtocol) (w : List Byte) : List DeviceCall :=
  observe (fun p b => (p.rxByte b).1) SpiProtocol.byteCalls p w

theorem dispatchFrame_board (p : SpiProtocol) :
    (dispatchFrame p).board =
      (deviceCalls (p.rx.hdrBuf.toList.getD 1 0) p.rx.payloadBuf.toList
        p.rx.expectedPayloadLen p.device).foldl DeviceCall.run p.board := by
  have hframe := handleCmd_frame p.rx.payloadBuf.toList p.rx.expectedPayloadLen
    { p.rx with framesDispatched := p.rx.framesDispatched + 1 } p.tx
    (p.dispatched ++ [p.rx.pending]) p (p.rx.hdrBuf.toList.getD 1 0)
  unfold dispatchFrame
  dsimp only
  unfold RxCtx.pending at hframe
  rw [hframe]
  exact handleCmd_board _ _ p _

theorem forget_board (q : SpiProtocol) : q.forget.board = q.board := rfl

theorem frameComplete_board (p : SpiProtocol) :
    p.frameComplete.1.board = p.frameCompleteCalls.foldl DeviceCall.run p.board := by
  unfold SpiProtocol.frameCompleteCalls
  by_cases hok : p.rx.validateFramePayload.1 = 0
  · have hdispatch := dispatchFrame_board { p with rx := p.rx.received }
    rw [frameComplete_ok hok, if_pos hok]
    exact (forget_board _).trans hdispatch
  · rw [frameComplete_bad hok, if_neg hok]
    rfl

theorem rxByte_board (p : SpiProtocol) (b : Byte) :
    (p.rxByte b).1.board = (p.byteCalls b).foldl DeviceCall.run p.board := by
  unfold SpiProtocol.rxByte SpiProtocol.byteCalls
  cases p.rx.state with
  | idle => rfl
  | header => rfl
  | payload => rfl
  | complete => rfl
  | error => rfl
  | crc32 =>
      dsimp only [SpiProtocol.onCrc32]
      by_cases hlast : p.rx.crc32Idx + 1 ≥ crc32Size
      · rw [if_pos hlast, if_pos ⟨rfl, hlast⟩]
        exact frameComplete_board _
      · rw [if_neg hlast, if_neg fun h => hlast h.2]
        rfl

/-- The calls are all that reception does to the board. -/
theorem feed_board (p : SpiProtocol) (w : List Byte) :
    (p.feed w).board = (p.feedCalls w).foldl DeviceCall.run p.board := by
  induction w generalizing p with
  | nil => rfl
  | cons b w ih =>
      have hrest := ih (p.rxByte b).1
      rw [rxByte_board, ← List.foldl_append] at hrest
      exact hrest

/-- The counters `spi_protocol_get_stats` reports for the receive path. -/
def RxCtx.counters (c : RxCtx) : BitVec 32 × BitVec 32 × BitVec 32 × BitVec 32 :=
  (c.framesReceived, c.framesCrcError, c.framesSyncError, c.framesDispatched)

theorem RxCtx.counters_eq_iff {c c' : RxCtx} : c.counters = c'.counters ↔
    c.framesReceived = c'.framesReceived ∧ c.framesCrcError = c'.framesCrcError ∧
      c.framesSyncError = c'.framesSyncError ∧ c.framesDispatched = c'.framesDispatched := by
  simp only [RxCtx.counters, Prod.mk.injEq]

/-- Agreement in what the current frame has filled: the state, the counters
and the buffers up to the index of the next byte. -/
structure RxCtx.Agree (c c' : RxCtx) : Prop where
  state : c.state = c'.state
  counters : c.counters = c'.counters
  header : c.state = .header →
    c.hdrIdx = c'.hdrIdx ∧ c.hdrBuf.toList.take c.hdrIdx = c'.hdrBuf.toList.take c.hdrIdx
  announced : c.state = .payload ∨ c.state = .crc32 →
    c.hdrBuf = c'.hdrBuf ∧ c.expectedPayloadLen = c'.expectedPayloadLen
  payload : c.state = .payload → c.payloadIdx = c'.payloadIdx ∧
    c.payloadBuf.toList.take c.payloadIdx = c'.payloadBuf.toList.take c.payloadIdx
  trailer : c.state = .crc32 → c.crc32Idx = c'.crc32Idx ∧
    c.payloadBuf.toList.take c.expectedPayloadLen.toNat =
      c'.payloadBuf.toList.take c.expectedPayloadLen.toNat ∧
    c.crc32Buf.toList.take c.crc32Idx = c'.crc32Buf.toList.take c.crc32Idx

section

variable {c c' : RxCtx} (hcounters : c.counters = c'.counters)

include hcounters

theorem RxCtx.Agree.of_idle (h : c.state = .idle) (h' : c'.state = .idle) : c.Agree c' where
  state := h.trans h'.symm
  counters := hcounters
  header := by simp [h]
  announced := by simp [h]
  payload := by simp [h]
  trailer := by simp [h]

theorem RxCtx.Agree.of_header (h : c.state = .header) (h' : c'.state = .header)
    (hidx : c.hdrIdx = c'.hdrIdx)
    (hbuf : c.hdrBuf.toList.take c.hdrIdx = c'.hdrBuf.toList.take c.hdrIdx) : c.Agree c' where
  state := h.trans h'.symm
  counters := hcounters
  header _ := ⟨hidx, hbuf⟩
  announced := by simp [h]
  payload := by simp [h]
  trailer := by simp [h]

theorem RxCtx.Agree.of_payload (h : c.state = .payload) (h' : c'.state = .payload)
    (hhdr : c.hdrBuf = c'.hdrBuf) (hlen : c.expectedPayloadLen = c'.expectedPayloadLen)
    (hidx : c.payloadIdx = c'.payloadIdx)
    (hbuf : c.payloadBuf.toList.take c.payloadIdx = c'.payloadBuf.toList.take c.payloadIdx) :
    c.Agree c' where
  state := h.trans h'.symm
  counters := hcounters
  header := by simp [h]
  announced _ := ⟨hhdr, hlen⟩
  payload _ := ⟨hidx, hbuf⟩
  trailer := by simp [h]

theorem RxCtx.Agree.of_crc32 (h : c.state = .crc32) (h' : c'.state = .crc32)
    (hhdr : c.hdrBuf = c'.hdrBuf) (hlen : c.expectedPayloadLen = c'.expectedPayloadLen)
    (hpayload : c.payloadBuf.toList.take c.expectedPayloadLen.toNat =
      c'.payloadBuf.toList.take c.expectedPayloadLen.toNat)
    (hidx : c.crc32Idx = c'.crc32Idx)
    (hbuf : c.crc32Buf.toList.take c.crc32Idx = c'.crc32Buf.toList.take c.crc32Idx) :
    c.Agree c' where
  state := h.trans h'.symm
  counters := hcounters
  header := by simp [h]
  announced _ := ⟨hhdr, hlen⟩
  payload := by simp [h]
  trailer _ := ⟨hidx, hpayload, hbuf⟩

theorem onIdle_agree (b : Byte) (h : c.state = .idle) (h' : c'.state = .idle) :
    (c.onIdle b).Agree (c'.onIdle b) := by
  unfold RxCtx.onIdle
  split
  · exact .of_header hcounters rfl rfl rfl (take_setIfInBounds_congr b rfl)
  · exact .of_idle hcounters h h'

theorem validateFrameHeader_agree (hhdr : c.hdrBuf = c'.hdrBuf) :
    c.validateFrameHeader.1 = c'.validateFrameHeader.1 ∧
      c.validateFrameHeader.2.counters = c'.validateFrameHeader.2.counters ∧
        c.validateFrameHeader.2.hdrBuf = c'.validateFrameHeader.2.hdrBuf := by
  obtain ⟨hreceived, hcrc, hsync, hdispatched⟩ := RxCtx.counters_eq_iff.mp hcounters
  unfold RxCtx.validateFrameHeader RxCtx.counters
  rw [hhdr, hreceived, hcrc, hsync, hdispatched]
  dsimp only
  split_ifs
  · exact ⟨rfl, rfl, rfl⟩
  · exact ⟨rfl, rfl, rfl⟩
  · exact ⟨rfl, rfl, rfl⟩
  · exact ⟨rfl, by rw [hreceived, hcrc, hsync, hdispatched], hhdr⟩

/-- The header decides what comes next, and nothing else does. -/
theorem headerComplete_agree (hhdr : c.hdrBuf = c'.hdrBuf) :
    c.headerComplete.Agree c'.headerComplete := by
  obtain ⟨hret, hcount, hbuf⟩ := validateFrameHeader_agree hcounters hhdr
  unfold RxCtx.headerComplete
  generalize c.validateFrameHeader = r at hret hcount hbuf ⊢
  generalize c'.validateFrameHeader = r' at hret hcount hbuf ⊢
  obtain ⟨ret, d⟩ := r
  obtain ⟨ret', d'⟩ := r'
  dsimp only at hret hcount hbuf ⊢
  subst hret
  rw [← hbuf]
  split_ifs with _ _ hpos
  · apply RxCtx.Agree.of_idle
    · obtain ⟨hreceived, hcrc, hsync, hdispatched⟩ := RxCtx.counters_eq_iff.mp hcount
      exact RxCtx.counters_eq_iff.mpr ⟨hreceived, by rw [hcrc], hsync, hdispatched⟩
    · rfl
    · rfl
  · exact .of_payload hcount rfl rfl rfl rfl rfl rfl
  · have hempty : (readLe16 (d.hdrBuf.toList.drop 2)).toNat = 0 := by
      rw [gt_iff_lt, BitVec.lt_def] at hpos
      simpa using hpos
    exact .of_crc32 hcount rfl rfl rfl rfl (by rw [hempty]; rfl) rfl rfl
  · exact .of_idle hcount rfl rfl

theorem onHeader_agree (b : Byte) (h : c.state = .header) (h' : c'.state = .header)
    (hidx : c.hdrIdx = c'.hdrIdx)
    (hbuf : c.hdrBuf.toList.take c.hdrIdx = c'.hdrBuf.toList.take c.hdrIdx) :
    (c.onHeader b).Agree (c'.onHeader b) := by
  have hstored : (c.hdrBuf.setIfInBounds c.hdrIdx b).toList.take (c.hdrIdx + 1) =
      (c'.hdrBuf.setIfInBounds c.hdrIdx b).toList.take (c.hdrIdx + 1) :=
    take_setIfInBounds_congr b hbuf
  unfold RxCtx.onHeader
  dsimp only
  rw [← hidx]
  split_ifs with hfull
  · have hsize : hdrSize = 16 := rfl
    apply headerComplete_agree
    · exact hcounters
    · apply Vector.toList_inj.mp
      rwa [List.take_of_length_le (by simp; omega), List.take_of_length_le (by simp; omega)]
        at hstored
  · exact .of_header hcounters h h' rfl hstored

theorem onPayload_agree (b : Byte) (h : c.state = .payload) (h' : c'.state = .payload)
    (hhdr : c.hdrBuf = c'.hdrBuf) (hlen : c.expectedPayloadLen = c'.expectedPayloadLen)
    (hidx : c.payloadIdx = c'.payloadIdx)
    (hbuf : c.payloadBuf.toList.take c.payloadIdx = c'.payloadBuf.toList.take c.payloadIdx) :
    (c.onPayload b).Agree (c'.onPayload b) := by
  have hstored : (c.payloadBuf.setIfInBounds c.payloadIdx b).toList.take (c.payloadIdx + 1) =
      (c'.payloadBuf.setIfInBounds c.payloadIdx b).toList.take (c.payloadIdx + 1) :=
    take_setIfInBounds_congr b hbuf
  unfold RxCtx.onPayload
  dsimp only
  rw [← hidx, ← hlen]
  split_ifs with hfull
  · apply RxCtx.Agree.of_crc32
    · exact hcounters
    · rfl
    · rfl
    · exact hhdr
    · rfl
    · have hprefix := congrArg (List.take c.expectedPayloadLen.toNat) hstored
      rwa [List.take_take, List.take_take, min_eq_left (by omega)] at hprefix
    · rfl
    · rfl
  · exact .of_payload hcounters h h' hhdr rfl rfl hstored

/-- The trailer check sees the payload and the trailer. -/
theorem validateFramePayload_agree (hlen : c.expectedPayloadLen = c'.expectedPayloadLen)
    (hpayload : c.payloadBuf.toList.take c.expectedPayloadLen.toNat =
      c'.payloadBuf.toList.take c.expectedPayloadLen.toNat) (hcrc : c.crc32Buf = c'.crc32Buf) :
    c.validateFramePayload.1 = c'.validateFramePayload.1 ∧
      c.validateFramePayload.2.counters = c'.validateFramePayload.2.counters := by
  obtain ⟨hreceived, hcrcError, hsync, hdispatched⟩ := RxCtx.counters_eq_iff.mp hcounters
  unfold RxCtx.validateFramePayload
  rw [← hlen, hpayload, hcrc]
  split_ifs
  · exact ⟨rfl, hcounters⟩
  · refine ⟨rfl, ?_⟩
    unfold RxCtx.counters
    rw [hreceived, hcrcError, hsync, hdispatched]
  · exact ⟨rfl, hcounters⟩

end

/-- Two histories the next frame cannot tell apart. -/
structure SpiProtocol.Agree (p q : SpiProtocol) : Prop where
  rx : p.rx.Agree q.rx
  stats : p.stats = q.stats
  device : p.device = q.device
  board : p.board = q.board

/-- A handler sees the counters, the device state and the board only. -/
theorem handle_agree {p q : SpiProtocol} (hstats : p.stats = q.stats)
    (hdevice : p.device = q.device) (hboard : p.board = q.board) (d : Dispatched) :
    (p.handle d).stats = (q.handle d).stats ∧ (p.handle d).device = (q.handle d).device ∧
      (p.handle d).board = (q.handle d).board := by
  have hp : p = { q with rx := p.rx, tx := p.tx, dispatched := p.dispatched } := by
    rw [← hstats, ← hdevice, ← hboard]
  unfold SpiProtocol.handle
  rw [hp, handleCmd_frame]
  exact ⟨rfl, rfl, rfl⟩

section

variable {p q : SpiProtocol} (hstats : p.stats = q.stats) (hdevice : p.device = q.device)
  (hboard : p.board = q.board) (hcounters : p.rx.counters = q.rx.counters)
  (hhdr : p.rx.hdrBuf = q.rx.hdrBuf)
  (hlen : p.rx.expectedPayloadLen = q.rx.expectedPayloadLen)
  (hpayload : p.rx.payloadBuf.toList.take p.rx.expectedPayloadLen.toNat =
    q.rx.payloadBuf.toList.take p.rx.expectedPayloadLen.toNat)

include hhdr hlen hpayload

theorem pending_agree : p.rx.pending = q.rx.pending := by
  unfold RxCtx.pending
  rw [← hhdr, ← hlen, hpayload]

include hdevice

theorem frameCompleteCalls_agree (hcrc : p.rx.crc32Buf = q.rx.crc32Buf)
    (hcounters : p.rx.counters = q.rx.counters) :
    p.frameCompleteCalls = q.frameCompleteCalls := by
  have hcheck := (validateFramePayload_agree hcounters hlen hpayload hcrc).1
  have hcalls := deviceCalls_take (p.rx.hdrBuf.toList.getD 1 0) p.rx.payloadBuf.toList
    p.rx.expectedPayloadLen p.device
  have hcalls' := deviceCalls_take (q.rx.hdrBuf.toList.getD 1 0) q.rx.payloadBuf.toList
    q.rx.expectedPayloadLen q.device
  unfold SpiProtocol.frameCompleteCalls
  rw [hcheck, ← hcalls, ← hcalls', hpayload, hhdr, hlen, hdevice]

include hstats hboard hcounters

theorem dispatchFrame_agree :
    (dispatchFrame p).stats = (dispatchFrame q).stats ∧
      (dispatchFrame p).device = (dispatchFrame q).device ∧
        (dispatchFrame p).board = (dispatchFrame q).board ∧
          (dispatchFrame p).rx.counters = (dispatchFrame q).rx.counters := by
  have hp := dispatchFrame_devices p
  have hq := dispatchFrame_devices q
  rw [← pending_agree hhdr hlen hpayload] at hq
  obtain ⟨hs, hd, hb⟩ := handle_agree hstats hdevice hboard p.rx.pending
  refine ⟨?_, ?_, ?_, ?_⟩
  · rw [hp.stats, hs, hq.stats]
  · rw [hp.device, hd, hq.device]
  · rw [hp.board, hb, hq.board]
  · rw [(dispatchFrame_step p).rx, (dispatchFrame_step q).rx]
    obtain ⟨hreceived, hcrcError, hsync, hdispatched⟩ := RxCtx.counters_eq_iff.mp hcounters
    exact RxCtx.counters_eq_iff.mpr ⟨hreceived, hcrcError, hsync, by rw [hdispatched]⟩

omit hstats hdevice hboard hcounters hhdr hlen hpayload in
/-- Back in idle only the counters of the context count. -/
theorem SpiProtocol.Agree.of_idle {p q : SpiProtocol} (hstats : p.stats = q.stats)
    (hdevice : p.device = q.device) (hboard : p.board = q.board)
    (hcounters : p.rx.counters = q.rx.counters) :
    SpiProtocol.Agree { p with rx := { p.rx with state := .idle } }
      { q with rx := { q.rx with state := .idle } } where
  rx := RxCtx.Agree.of_idle hcounters rfl rfl
  stats := hstats
  device := hdevice
  board := hboard

theorem frameComplete_agree (hcrc : p.rx.crc32Buf = q.rx.crc32Buf) :
    p.frameComplete.1.Agree q.frameComplete.1 := by
  obtain ⟨hret, -⟩ := validateFramePayload_agree hcounters hlen hpayload hcrc
  obtain ⟨hreceived, hcrcError, hsync, hdispatched⟩ := RxCtx.counters_eq_iff.mp hcounters
  by_cases hok : p.rx.validateFramePayload.1 = 0
  · have hok' : q.rx.validateFramePayload.1 = 0 := by rw [← hret, hok]
    have hcount' : p.rx.received.counters = q.rx.received.counters := by
      simp only [RxCtx.counters, RxCtx.received, hreceived, hcrcError, hsync, hdispatched]
    obtain ⟨hs, hd, hb, hn⟩ := dispatchFrame_agree (p := { p with rx := p.rx.received })
      (q := { q with rx := q.rx.received }) hstats hdevice hboard hcount' hhdr hlen hpayload
    rw [frameComplete_ok hok, frameComplete_ok hok']
    exact .of_idle hs hd hb hn
  · have hbad' : q.rx.validateFramePayload.1 ≠ 0 := by rwa [← hret]
    rw [frameComplete_bad hok, frameComplete_bad hbad']
    refine .of_idle hstats hdevice hboard ?_
    simp only [RxCtx.counters, RxCtx.received, hreceived, hcrcError, hsync, hdispatched]

end

/-- One byte keeps the agreement and leads to the same calls. -/
theorem rxByte_agree {p q : SpiProtocol} (h : p.Agree q) (b : Byte) :
    (p.rxByte b).1.Agree (q.rxByte b).1 ∧ p.byteCalls b = q.byteCalls b := by
  have hquiet (hne : p.rx.state ≠ .crc32) : p.byteCalls b = q.byteCalls b := by
    have hne' : q.rx.state ≠ .crc32 := by rwa [← h.rx.state]
    rw [SpiProtocol.byteCalls, SpiProtocol.byteCalls, if_neg fun hs => hne hs.1,
      if_neg fun hs => hne' hs.1]
  have hs' := h.rx.state
  unfold SpiProtocol.rxByte
  cases hs : p.rx.state with
  | idle =>
      rw [hs] at hs'
      rw [← hs']
      refine ⟨⟨onIdle_agree h.rx.counters b hs hs'.symm, h.stats, h.device, h.board⟩, ?_⟩
      exact hquiet (by simp [hs])
  | header =>
      rw [hs] at hs'
      rw [← hs']
      obtain ⟨hidx, hbuf⟩ := h.rx.header hs
      refine ⟨⟨onHeader_agree h.rx.counters b hs hs'.symm hidx hbuf, h.stats, h.device,
        h.board⟩, ?_⟩
      exact hquiet (by simp [hs])
  | payload =>
      rw [hs] at hs'
      rw [← hs']
      obtain ⟨hhdr, hlen⟩ := h.rx.announced (.inl hs)
      obtain ⟨hidx, hbuf⟩ := h.rx.payload hs
      refine ⟨⟨onPayload_agree h.rx.counters b hs hs'.symm hhdr hlen hidx hbuf, h.stats,
        h.device, h.board⟩, ?_⟩
      exact hquiet (by simp [hs])
  | crc32 =>
      rw [hs] at hs'
      rw [← hs']
      obtain ⟨hhdr, hlen⟩ := h.rx.announced (.inr hs)
      obtain ⟨hidx, hpayload, hbuf⟩ := h.rx.trailer hs
      have hstored : (p.rx.crc32Buf.setIfInBounds p.rx.crc32Idx b).toList.take
          (p.rx.crc32Idx + 1) =
          (q.rx.crc32Buf.setIfInBounds p.rx.crc32Idx b).toList.take (p.rx.crc32Idx + 1) :=
        take_setIfInBounds_congr b hbuf
      unfold SpiProtocol.byteCalls
      dsimp only [SpiProtocol.onCrc32]
      rw [← hidx, hs, ← hs']
      by_cases hlast : p.rx.crc32Idx + 1 ≥ crc32Size
      · have hsize : crc32Size = 4 := rfl
        have hfull : p.rx.crc32Buf.setIfInBounds p.rx.crc32Idx b =
            q.rx.crc32Buf.setIfInBounds p.rx.crc32Idx b := by
          apply Vector.toList_inj.mp
          rwa [List.take_of_length_le (by simp; omega),
            List.take_of_length_le (by simp; omega)] at hstored
        simp only [hlast, and_self, if_true]
        constructor
        · apply frameComplete_agree
          · exact h.stats
          · exact h.device
          · exact h.board
          · exact h.rx.counters
          · exact hhdr
          · exact hlen
          · exact hpayload
          · exact hfull
        · apply frameCompleteCalls_agree
          · exact h.device
          · exact hhdr
          · exact hlen
          · exact hpayload
          · exact hfull
          · exact h.rx.counters
      · simp only [hlast, and_false, if_false]
        exact ⟨⟨RxCtx.Agree.of_crc32 h.rx.counters rfl rfl hhdr hlen hpayload rfl hstored,
          h.stats, h.device, h.board⟩, trivial⟩
  | complete =>
      rw [hs] at hs'
      rw [← hs']
      exact ⟨.of_idle h.stats h.device h.board h.rx.counters, hquiet (by simp [hs])⟩
  | error =>
      rw [hs] at hs'
      rw [← hs']
      exact ⟨.of_idle h.stats h.device h.board h.rx.counters, hquiet (by simp [hs])⟩

theorem feed_agree {p q : SpiProtocol} (h : p.Agree q) (w : List Byte) :
    (p.feed w).Agree (q.feed w) ∧ p.feedCalls w = q.feedCalls w := by
  induction w generalizing p q with
  | nil => exact ⟨h, rfl⟩
  | cons b w ih =>
      obtain ⟨hstep, hcalls⟩ := rxByte_agree h b
      obtain ⟨hrest, hmore⟩ := ih hstep
      refine ⟨hrest, ?_⟩
      calc p.feedCalls (b :: w) = p.byteCalls b ++ (p.rxByte b).1.feedCalls w := rfl
        _ = q.byteCalls b ++ (q.rxByte b).1.feedCalls w := by rw [hcalls, hmore]

/-- Two idle histories with the same device state, counters and board receive
the same bytes alike, whatever their buffers hold; and no handler reads behind
the payload of its frame. -/
theorem dispatch_depends_on_frame (p q : SpiProtocol) (hp : p.rx.state = .idle)
    (hq : q.rx.state = .idle) (hdevice : p.device = q.device) (hstats : p.stats = q.stats)
    (hcounters : p.rx.counters = q.rx.counters) (hboard : p.board = q.board)
    (w : List Byte) :
    ((p.feed w).device = (q.feed w).device ∧ (p.feed w).stats = (q.feed w).stats ∧
      (p.feed w).rx.counters = (q.feed w).rx.counters ∧
        (p.feed w).board = (q.feed w).board ∧ p.feedCalls w = q.feedCalls w) ∧
      ∀ (cmd : Byte) (payload : List Byte) (len : BitVec 16),
        ∀ i ∈ payloadReads cmd payload len, i < len.toNat := by
  have hstart : p.Agree q := ⟨RxCtx.Agree.of_idle hcounters hp hq, hstats, hdevice, hboard⟩
  obtain ⟨hagree, hcalls⟩ := feed_agree hstart w
  refine ⟨⟨hagree.device, hagree.stats, hagree.rx.counters, hagree.board, hcalls⟩, ?_⟩
  intro cmd payload len
  exact payloadReads_lt payload len cmd

/-- A register write after a reset and after a buffer full of old bytes. -/
theorem dispatch_depends_on_frame_cc1101 :
    (SpiProtocol.mk RxCtx.zero ProtoStats.zero DeviceState.zero ⟨fun _ => 0, 0, 0⟩ ⟨0, []⟩
        []).feedCalls (encode 0x04#8 [0x02, 1, 0x55]) =
      (SpiProtocol.mk { RxCtx.zero with payloadBuf := Vector.replicate 4092 0xFF }
        ProtoStats.zero DeviceState.zero ⟨fun _ => 0, 0, 0⟩ ⟨0, []⟩
        []).feedCalls (encode 0x04#8 [0x02, 1, 0x55]) :=
  (dispatch_depends_on_frame
    (SpiProtocol.mk RxCtx.zero ProtoStats.zero DeviceState.zero ⟨fun _ => 0, 0, 0⟩ ⟨0, []⟩ [])
    (SpiProtocol.mk { RxCtx.zero with payloadBuf := Vector.replicate 4092 0xFF }
      ProtoStats.zero DeviceState.zero ⟨fun _ => 0, 0, 0⟩ ⟨0, []⟩ [])
    rfl rfl rfl rfl rfl rfl (encode 0x04#8 [0x02, 1, 0x55])).1.2.2.2.2

end GhostBlade.Firmware
