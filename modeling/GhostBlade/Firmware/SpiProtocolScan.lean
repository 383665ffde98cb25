import GhostBlade.Firmware.SpiProtocol
import GhostBlade.Protocol.Receiver

/-!
The frame assembly of `spi_protocol.c` is the frame scanner. `RxCtx.scan` reads
the scanner state off the buffers and indices; one byte of the handler is one
step of the scanner, and what the scanner reports determines the dispatch log
and the error counters.
-/

namespace GhostBlade.Firmware

open GhostBlade.Library GhostBlade.Library.Framing GhostBlade.Protocol

/-- The handler insists on a zero reserved field and does not look at the
trailer of an empty payload. -/
def mainPolicy : Policy := ⟨true, false⟩

def RxCtx.scan (c : RxCtx) : Scan Byte :=
  match c.state with
  | .header => .header (c.hdrBuf.toList.take c.hdrIdx)
  | .payload =>
      .body c.hdrBuf.toList (c.payloadBuf.toList.take c.payloadIdx)
        (c.expectedPayloadLen.toNat + crc32Size)
  | .crc32 =>
      .body c.hdrBuf.toList
        (c.payloadBuf.toList.take c.expectedPayloadLen.toNat ++
          c.crc32Buf.toList.take c.crc32Idx)
        (c.expectedPayloadLen.toNat + crc32Size)
  | .idle | .complete | .error => .idle

/-- The header buffer holds an accepted header announcing the payload that is
being collected. -/
structure RxCtx.HeaderOk (c : RxCtx) : Prop where
  opens : c.hdrBuf.toList.head? = some syncByte
  announces : mainPolicy.bodyLen c.hdrBuf.toList =
    some (c.expectedPayloadLen.toNat + crc32Size)

/-- The states a run can reach. -/
def RxCtx.Valid (c : RxCtx) : Prop :=
  match c.state with
  | .idle => True
  | .header =>
      c.hdrBuf.toList.head? = some syncByte ∧ 1 ≤ c.hdrIdx ∧ c.hdrIdx < hdrSize
  | .payload => c.HeaderOk ∧ c.payloadIdx < c.expectedPayloadLen.toNat
  | .crc32 => c.HeaderOk ∧ c.crc32Idx < crc32Size
  | .complete | .error => False

theorem RxCtx.scan_header {c : RxCtx} (h : c.state = .header) :
    c.scan = .header (c.hdrBuf.toList.take c.hdrIdx) := by
  simp [RxCtx.scan, h]

theorem RxCtx.scan_payload {c : RxCtx} (h : c.state = .payload) :
    c.scan = .body c.hdrBuf.toList (c.payloadBuf.toList.take c.payloadIdx)
      (c.expectedPayloadLen.toNat + crc32Size) := by
  simp [RxCtx.scan, h]

theorem RxCtx.scan_crc32 {c : RxCtx} (h : c.state = .crc32) :
    c.scan = .body c.hdrBuf.toList
      (c.payloadBuf.toList.take c.expectedPayloadLen.toNat ++ c.crc32Buf.toList.take c.crc32Idx)
      (c.expectedPayloadLen.toNat + crc32Size) := by
  simp [RxCtx.scan, h]

theorem RxCtx.valid_header {c : RxCtx} (h : c.state = .header) :
    c.Valid ↔ c.hdrBuf.toList.head? = some syncByte ∧ 1 ≤ c.hdrIdx ∧ c.hdrIdx < 16 := by
  simp [RxCtx.Valid, h, hdrSize]

theorem RxCtx.valid_payload {c : RxCtx} (h : c.state = .payload) :
    c.Valid ↔ c.HeaderOk ∧ c.payloadIdx < c.expectedPayloadLen.toNat := by
  simp [RxCtx.Valid, h]

theorem RxCtx.valid_crc32 {c : RxCtx} (h : c.state = .crc32) :
    c.Valid ↔ c.HeaderOk ∧ c.crc32Idx < 4 := by
  simp [RxCtx.Valid, h, crc32Size]

theorem RxCtx.HeaderOk.expected_le {c : RxCtx} (h : c.HeaderOk) :
    c.expectedPayloadLen.toNat ≤ maxPayload := by
  obtain ⟨_, _, hmax, hlen⟩ := (mainPolicy.bodyLen_eq_some_iff _ _).mp h.announces
  omega

theorem RxCtx.sound_scan (c : RxCtx) (h : c.Valid) : mainPolicy.format.Sound c.scan := by
  unfold RxCtx.Valid at h
  unfold RxCtx.scan
  cases hs : c.state with
  | idle => trivial
  | header =>
      simp only [hs] at h ⊢
      obtain ⟨hopens, hone, hlt⟩ := h
      refine ⟨?_, ?_⟩
      · rw [List.head?_take, if_neg (by omega)]
        exact hopens
      · simp only [List.length_take, Vector.length_toList]
        change min c.hdrIdx 16 < hdrSize
        omega
  | payload =>
      simp only [hs] at h ⊢
      obtain ⟨hok, hlt⟩ := h
      refine ⟨by simp [Policy.format, hdrSize], hok.opens, hok.announces, ?_⟩
      simp only [List.length_take, Vector.length_toList]
      omega
  | crc32 =>
      simp only [hs] at h ⊢
      obtain ⟨hok, hlt⟩ := h
      have hmax := hok.expected_le
      refine ⟨by simp [Policy.format, hdrSize], hok.opens, hok.announces, ?_⟩
      simp only [List.length_append, List.length_take, Vector.length_toList]
      omega
  | complete => simp [hs] at h
  | error => simp [hs] at h

theorem RxCtx.idle_of_scan {c : RxCtx} (h : c.Valid) (hscan : c.scan = .idle) :
    c.state = .idle := by
  unfold RxCtx.Valid at h
  unfold RxCtx.scan at hscan
  cases hs : c.state <;> simp_all

theorem RxCtx.valid_of_idle {c : RxCtx} (h : c.state = .idle) : c.Valid := by
  simp [RxCtx.Valid, h]

theorem RxCtx.scan_of_idle {c : RxCtx} (h : c.state = .idle) : c.scan = .idle := by
  simp [RxCtx.scan, h]

/-- The frames that are dispatched, as the handlers see them. -/
def mainAccepts : Signal Byte → Option Dispatched
  | .rejected _ => none
  | .frame hdr body =>
      if mainPolicy.bodyOk body then
        some ⟨hdr.getD 1 0, BitVec.ofNat 16 (bodyPayload body).length, bodyPayload body⟩
      else none

/-- How a state follows another after some signals: the scanner has moved to
`s`, and every signal has been dispatched or counted as an error. -/
structure Follows (p p' : SpiProtocol) (s : Scan Byte) (sigs : List (Signal Byte)) : Prop where
  valid : p'.rx.Valid
  scan : p'.rx.scan = s
  dispatched : p'.dispatched = p.dispatched ++ sigs.filterMap mainAccepts
  crcError : p'.rx.framesCrcError =
    p.rx.framesCrcError + BitVec.ofNat 32 (sigs.countP fun sig => (mainAccepts sig).isNone)
  syncError : p'.rx.framesSyncError = p.rx.framesSyncError

theorem Follows.refl (p : SpiProtocol) (h : p.rx.Valid) : Follows p p p.rx.scan [] where
  valid := h
  scan := rfl
  dispatched := by simp
  crcError := by simp
  syncError := rfl

theorem Follows.trans {p p' p'' : SpiProtocol} {s' s'' : Scan Byte} {u v : List (Signal Byte)}
    (h : Follows p p' s' u) (h' : Follows p' p'' s'' v) : Follows p p'' s'' (u ++ v) where
  valid := h'.valid
  scan := h'.scan
  dispatched := by
    rw [h'.dispatched, h.dispatched, List.filterMap_append, List.append_assoc]
  crcError := by
    rw [h'.crcError, h.crcError, List.countP_append, BitVec.ofNat_add, BitVec.add_assoc]
  syncError := by rw [h'.syncError, h.syncError]

/-- A context change alone, with nothing reported. -/
theorem Follows.of_rx (p : SpiProtocol) (c : RxCtx) {s : Scan Byte} (hvalid : c.Valid)
    (hscan : c.scan = s) (hcrc : c.framesCrcError = p.rx.framesCrcError)
    (hsync : c.framesSyncError = p.rx.framesSyncError) :
    Follows p { p with rx := c } s [] where
  valid := hvalid
  scan := hscan
  dispatched := by simp
  crcError := by simpa using hcrc
  syncError := hsync

/-- A header or frame that is thrown away counts as one error. -/
theorem Follows.of_reject (p : SpiProtocol) (c : RxCtx) (sig : Signal Byte)
    (hstate : c.state = .idle) (hreject : mainAccepts sig = none)
    (hcrc : c.framesCrcError = p.rx.framesCrcError + 1)
    (hsync : c.framesSyncError = p.rx.framesSyncError) :
    Follows p { p with rx := c } .idle [sig] where
  valid := RxCtx.valid_of_idle hstate
  scan := RxCtx.scan_of_idle hstate
  dispatched := by simp [hreject]
  crcError := by simpa [hreject] using hcrc
  syncError := hsync

/-- What a command handler leaves alone. -/
structure Preserves (p p' : SpiProtocol) : Prop where
  rx : p'.rx = p.rx
  tx : p'.tx = p.tx
  dispatched : p'.dispatched = p.dispatched
  intReq : p'.board.intReqLow = p.board.intReqLow

theorem handleCmdSdrStream_preserves (payload : List Byte) (len : BitVec 16) (p : SpiProtocol) :
    Preserves p (handleCmdSdrStream payload len p) := by
  unfold handleCmdSdrStream
  dsimp only
  split
  · exact ⟨rfl, rfl, rfl, rfl⟩
  · split
    · exact ⟨rfl, rfl, rfl, by simp⟩
    · split
      · exact ⟨rfl, rfl, rfl, by simp⟩
      · exact ⟨rfl, rfl, rfl, rfl⟩

theorem handleCmdAntSelect_preserves (payload : List Byte) (len : BitVec 16) (p : SpiProtocol) :
    Preserves p (handleCmdAntSelect payload len p) := by
  unfold handleCmdAntSelect
  dsimp only
  split
  · exact ⟨rfl, rfl, rfl, rfl⟩
  · split
    · exact ⟨rfl, rfl, rfl, rfl⟩
    · exact ⟨rfl, rfl, rfl, by simp⟩

theorem handleCmdCc1101Cfg_preserves (payload : List Byte) (len : BitVec 16) (p : SpiProtocol) :
    Preserves p (handleCmdCc1101Cfg payload len p) := by
  unfold handleCmdCc1101Cfg
  dsimp only
  split
  · exact ⟨rfl, rfl, rfl, rfl⟩
  repeat' split
  all_goals first
    | exact ⟨rfl, rfl, rfl, rfl⟩
    | exact ⟨rfl, rfl, rfl, by simp⟩

theorem handleCmdNfcTransact_preserves (payload : List Byte) (len : BitVec 16)
    (p : SpiProtocol) : Preserves p (handleCmdNfcTransact payload len p) := by
  unfold handleCmdNfcTransact
  dsimp only
  repeat' split
  all_goals exact ⟨rfl, rfl, rfl, rfl⟩

theorem handleCmd_preserves (cmd : Byte) (payload : List Byte) (len : BitVec 16)
    (p : SpiProtocol) : Preserves p (handleCmd cmd payload len p) := by
  unfold handleCmd
  repeat' split
  · exact ⟨rfl, rfl, rfl, rfl⟩
  · exact ⟨rfl, rfl, rfl, rfl⟩
  · exact handleCmdSdrStream_preserves ..
  · exact handleCmdAntSelect_preserves ..
  · exact handleCmdCc1101Cfg_preserves ..
  · exact handleCmdNfcTransact_preserves ..
  · exact ⟨rfl, rfl, rfl, rfl⟩

/-- The call of `dispatch_frame` the context stands for. -/
def RxCtx.pending (c : RxCtx) : Dispatched :=
  ⟨c.hdrBuf.toList.getD 1 0, c.expectedPayloadLen,
    c.payloadBuf.toList.take c.expectedPayloadLen.toNat⟩

/-- What dispatching a frame does beside what the handler does. -/
structure DispatchStep (p p' : SpiProtocol) : Prop where
  dispatched : p'.dispatched = p.dispatched ++ [p.rx.pending]
  rx : p'.rx =
    { p.rx with
      framesDispatched := p.rx.framesDispatched + 1
      payloadBuf := secureWipe p.rx.payloadBuf p.rx.expectedPayloadLen.toNat }
  tx : p'.tx = p.tx
  intReq : p'.board.intReqLow = p.board.intReqLow

theorem dispatchFrame_step (p : SpiProtocol) : DispatchStep p (dispatchFrame p) := by
  let logged : SpiProtocol :=
    { p with
      rx := { p.rx with framesDispatched := p.rx.framesDispatched + 1 }
      dispatched := p.dispatched ++ [p.rx.pending] }
  let handled := handleCmd (p.rx.hdrBuf.toList.getD 1 0) p.rx.payloadBuf.toList
    p.rx.expectedPayloadLen logged
  have hhandled : Preserves logged handled := handleCmd_preserves ..
  have hdef : dispatchFrame p =
      { handled with
        rx := { handled.rx with
          payloadBuf := secureWipe handled.rx.payloadBuf p.rx.expectedPayloadLen.toNat } } := by
    unfold dispatchFrame
    rfl
  rw [hdef]
  exact ⟨hhandled.dispatched, by rw [hhandled.rx], hhandled.tx, hhandled.intReq⟩

theorem onIdle_follows (p : SpiProtocol) (b : Byte) (h : p.rx.state = .idle) :
    Follows p { p with rx := p.rx.onIdle b } (mainPolicy.format.next .idle b)
      (mainPolicy.format.signal .idle b).toList := by
  have hsync : mainPolicy.format.sync = syncByte := rfl
  simp only [Format.signal, Option.toList_none, Format.next, RxCtx.onIdle, hsync]
  split
  · next hb =>
    have hhead : (p.rx.hdrBuf.setIfInBounds 0 b).toList.head? = some b := by
      rw [Vector.toList_setIfInBounds, List.head?_eq_getElem?, List.getElem?_set_self (by simp)]
    have hone := take_setIfInBounds_succ p.rx.hdrBuf 0 b (by omega)
    apply Follows.of_rx
    · apply (RxCtx.valid_header rfl).mpr
      exact ⟨by rw [hhead, hb], le_refl 1, show 1 < 16 by omega⟩
    · exact (RxCtx.scan_header rfl).trans (congrArg Scan.header hone)
    · rfl
    · rfl
  · have hfollows := Follows.refl p (RxCtx.valid_of_idle h)
    rwa [RxCtx.scan_of_idle h] at hfollows

/-- The length the header checks settle on is the one the format announces. -/
theorem validateFrameHeader_cases (c : RxCtx) (hopens : c.hdrBuf.toList.head? = some syncByte) :
    (c.validateFrameHeader = (0, c) ∧ reservedField c.hdrBuf.toList = 0 ∧
        crcField c.hdrBuf.toList = (crc64 (c.hdrBuf.toList.take 8)).toNat) ∨
      (c.validateFrameHeader.1 ≠ 0 ∧
        c.validateFrameHeader.2 = { c with framesCrcError := c.framesCrcError + 1 } ∧
        mainPolicy.bodyLen c.hdrBuf.toList = none) := by
  have hsync : c.hdrBuf.toList.getD 0 0 = syncByte := by
    rw [List.getD_eq_getElem?_getD, ← List.head?_eq_getElem?, hopens]
    rfl
  have hres : readLe32 (c.hdrBuf.toList.drop 4) = 0 ↔ reservedField c.hdrBuf.toList = 0 := by
    rw [← BitVec.toNat_inj, readLe32_toNat]
    rfl
  have hcrc : readLe64 (c.hdrBuf.toList.drop 8) = crc64Compute (c.hdrBuf.toList.take 8) ↔
      crcField c.hdrBuf.toList = (crc64 (c.hdrBuf.toList.take 8)).toNat := by
    rw [← BitVec.toNat_inj, readLe64_toNat, crc64Compute_eq]
    rfl
  simp only [RxCtx.validateFrameHeader, hsync, ne_eq, not_true_eq_false, if_false, hres, hcrc,
    Policy.bodyLen, mainPolicy, true_and]
  by_cases hr : reservedField c.hdrBuf.toList = 0
  · by_cases hc : crcField c.hdrBuf.toList = (crc64 (c.hdrBuf.toList.take 8)).toNat
    · left
      simp [hr, hc]
    · right
      simp [hr, hc]
  · right
    simp [hr]

/-- A complete header opens a body or is counted as an error. -/
theorem headerComplete_follows (p : SpiProtocol) (c : RxCtx)
    (hopens : c.hdrBuf.toList.head? = some syncByte)
    (hcrcErr : c.framesCrcError = p.rx.framesCrcError)
    (hsyncErr : c.framesSyncError = p.rx.framesSyncError) :
    (mainPolicy.bodyLen c.hdrBuf.toList = none →
      Follows p { p with rx := c.headerComplete } .idle [.rejected c.hdrBuf.toList]) ∧
    (∀ want, mainPolicy.bodyLen c.hdrBuf.toList = some want →
      Follows p { p with rx := c.headerComplete } (.body c.hdrBuf.toList [] want) []) := by
  have rejected (c' : RxCtx) (hstate : c'.state = .idle)
      (herr : c'.framesCrcError = c.framesCrcError + 1)
      (hsync : c'.framesSyncError = c.framesSyncError) :
      Follows p { p with rx := c' } .idle [.rejected c.hdrBuf.toList] :=
    Follows.of_reject p c' _ hstate rfl (by rw [herr, hcrcErr]) (hsync.trans hsyncErr)
  rcases validateFrameHeader_cases c hopens with ⟨hval, hres, hcrc⟩ | ⟨hret, hctx, hnone⟩
  · have hlen : (readLe16 (c.hdrBuf.toList.drop 2)).toNat = lenField c.hdrBuf.toList :=
      readLe16_toNat _
    simp only [RxCtx.headerComplete, hval, if_true, hlen]
    by_cases hmax : lenField c.hdrBuf.toList > maxPayload
    · have hnone : mainPolicy.bodyLen c.hdrBuf.toList = none := by
        simp [Policy.bodyLen, hres, hcrc, hmax]
      rw [if_pos hmax]
      refine ⟨fun _ => rejected _ rfl rfl rfl, ?_⟩
      intro want hwant
      rw [hnone] at hwant
      cases hwant
    · have hsome : mainPolicy.bodyLen c.hdrBuf.toList =
          some (lenField c.hdrBuf.toList + crc32Size) := by
        simp [Policy.bodyLen, hres, hcrc, hmax]
      rw [if_neg hmax]
      refine ⟨fun hnone => absurd (hsome.symm.trans hnone) (Option.some_ne_none _), ?_⟩
      intro want hwant
      rw [hsome, Option.some.injEq] at hwant
      subst hwant
      have hok : RxCtx.HeaderOk
          { c with expectedPayloadLen := readLe16 (c.hdrBuf.toList.drop 2) } :=
        ⟨hopens, by rw [hlen]; exact hsome⟩
      by_cases hpos : readLe16 (c.hdrBuf.toList.drop 2) > 0#16
      · rw [if_pos hpos]
        apply Follows.of_rx
        · apply (RxCtx.valid_payload rfl).mpr
          exact ⟨⟨hok.opens, hok.announces⟩, hpos⟩
        · rw [RxCtx.scan_payload rfl]
          simp only [hlen, List.take_zero]
        · exact hcrcErr
        · exact hsyncErr
      · rw [if_neg hpos]
        have hzero : (readLe16 (c.hdrBuf.toList.drop 2)).toNat = 0 :=
          Nat.eq_zero_of_not_pos hpos
        apply Follows.of_rx
        · apply (RxCtx.valid_crc32 rfl).mpr
          exact ⟨⟨hok.opens, hok.announces⟩, show 0 < 4 by omega⟩
        · rw [RxCtx.scan_crc32 rfl]
          simp only [hzero, ← hlen, List.take_zero, List.append_nil]
        · exact hcrcErr
        · exact hsyncErr
  · have hdone : c.headerComplete = { c.validateFrameHeader.2 with state := .idle } := by
      unfold RxCtx.headerComplete
      exact if_neg hret
    rw [hnone, hdone, hctx]
    refine ⟨fun _ => rejected _ rfl rfl rfl, ?_⟩
    intro want hwant
    cases hwant

theorem onHeader_follows (p : SpiProtocol) (b : Byte) (hstate : p.rx.state = .header)
    (h : p.rx.Valid) :
    Follows p { p with rx := p.rx.onHeader b } (mainPolicy.format.next p.rx.scan b)
      (mainPolicy.format.signal p.rx.scan b).toList := by
  obtain ⟨hopens, hone, hlt⟩ := (RxCtx.valid_header hstate).mp h
  have hsize : mainPolicy.format.hdrSize = 16 := rfl
  have hsize' : hdrSize = 16 := rfl
  have hgot : (p.rx.hdrBuf.toList.take p.rx.hdrIdx).length = p.rx.hdrIdx := by
    simp
    omega
  have htake := take_setIfInBounds_succ p.rx.hdrBuf p.rx.hdrIdx b hlt
  have hopens' : (p.rx.hdrBuf.setIfInBounds p.rx.hdrIdx b).toList.head? = some syncByte := by
    rw [Vector.toList_setIfInBounds, List.head?_eq_getElem?,
      List.getElem?_set_ne (by omega), ← List.head?_eq_getElem?]
    exact hopens
  rw [RxCtx.scan_header hstate]
  unfold RxCtx.onHeader
  by_cases hmore : p.rx.hdrIdx + 1 < 16
  · obtain ⟨hnext, hsig⟩ := mainPolicy.format.next_header _ b (by rw [hgot, hsize]; exact hmore)
    rw [hnext, hsig, if_neg (by dsimp only; omega)]
    apply Follows.of_rx
    · refine (RxCtx.valid_header (by exact hstate)).mpr ⟨hopens', ?_, hmore⟩
      dsimp only
      omega
    · exact (RxCtx.scan_header (by exact hstate)).trans (congrArg Scan.header htake)
    · rfl
    · rfl
  · have hlast : p.rx.hdrIdx = 15 := by omega
    have hfull : p.rx.hdrBuf.toList.take p.rx.hdrIdx ++ [b] =
        (p.rx.hdrBuf.setIfInBounds p.rx.hdrIdx b).toList := by
      rw [← htake, hlast]
      exact List.take_of_length_le (by simp)
    obtain ⟨hnone, hsome⟩ := mainPolicy.format.next_header_last _ b
      (by rw [hgot, hsize]; exact hmore)
    obtain ⟨hrejected, haccepted⟩ := headerComplete_follows p
      { p.rx with
        hdrBuf := p.rx.hdrBuf.setIfInBounds p.rx.hdrIdx b
        hdrIdx := p.rx.hdrIdx + 1 } hopens' rfl rfl
    rw [hfull] at hnone hsome
    rw [if_pos (by dsimp only; omega)]
    cases hlen : mainPolicy.format.bodyLen (p.rx.hdrBuf.setIfInBounds p.rx.hdrIdx b).toList with
    | none =>
        rw [(hnone hlen).1, (hnone hlen).2]
        exact hrejected hlen
    | some want =>
        rw [(hsome want hlen).1, (hsome want hlen).2]
        exact haccepted want hlen

theorem onPayload_follows (p : SpiProtocol) (b : Byte) (hstate : p.rx.state = .payload)
    (h : p.rx.Valid) :
    Follows p { p with rx := p.rx.onPayload b } (mainPolicy.format.next p.rx.scan b)
      (mainPolicy.format.signal p.rx.scan b).toList := by
  obtain ⟨hok, hidx⟩ := (RxCtx.valid_payload hstate).mp h
  have hmax : p.rx.expectedPayloadLen.toNat ≤ 4092 := hok.expected_le
  have hgot : (p.rx.payloadBuf.toList.take p.rx.payloadIdx).length = p.rx.payloadIdx := by
    simp
    omega
  have htake := take_setIfInBounds_succ p.rx.payloadBuf p.rx.payloadIdx b (by omega)
  have hmore : p.rx.payloadIdx + 1 < p.rx.expectedPayloadLen.toNat + crc32Size := by
    have hsize : crc32Size = 4 := rfl
    omega
  obtain ⟨hnext, hsig⟩ := mainPolicy.format.next_body p.rx.hdrBuf.toList _
    (p.rx.expectedPayloadLen.toNat + crc32Size) b (by rw [hgot]; exact hmore)
  rw [RxCtx.scan_payload hstate, hnext, hsig]
  unfold RxCtx.onPayload
  by_cases hlast : p.rx.payloadIdx + 1 ≥ p.rx.expectedPayloadLen.toNat
  · have hexp : p.rx.expectedPayloadLen.toNat = p.rx.payloadIdx + 1 := by omega
    rw [if_pos hlast]
    apply Follows.of_rx
    · apply (RxCtx.valid_crc32 rfl).mpr
      exact ⟨⟨hok.opens, hok.announces⟩, show 0 < 4 by omega⟩
    · rw [RxCtx.scan_crc32 rfl]
      dsimp only
      rw [List.take_zero, List.append_nil, hexp, htake]
    · rfl
    · rfl
  · rw [if_neg hlast]
    apply Follows.of_rx
    · refine (RxCtx.valid_payload (by exact hstate)).mpr ⟨⟨hok.opens, hok.announces⟩, ?_⟩
      dsimp only
      omega
    · refine (RxCtx.scan_payload (by exact hstate)).trans ?_
      dsimp only
      rw [htake]
    · rfl
    · rfl

theorem validateFramePayload_eq (c : RxCtx) : c.validateFramePayload = (0, c) ∨
    c.validateFramePayload = (-1, { c with framesCrcError := c.framesCrcError + 1 }) := by
  unfold RxCtx.validateFramePayload
  split
  · exact .inl rfl
  · split
    · exact .inr rfl
    · exact .inl rfl

/-- The trailer check is the one of the policy. -/
theorem validateFramePayload_cases (c : RxCtx) (hmax : c.expectedPayloadLen.toNat ≤ maxPayload) :
    let body := c.payloadBuf.toList.take c.expectedPayloadLen.toNat ++ c.crc32Buf.toList
    bodyPayload body = c.payloadBuf.toList.take c.expectedPayloadLen.toNat ∧
      ((c.validateFramePayload = (0, c) ∧ mainPolicy.bodyOk body = true) ∨
        (c.validateFramePayload = (-1, { c with framesCrcError := c.framesCrcError + 1 }) ∧
          mainPolicy.bodyOk body = false)) := by
  intro body
  have hcrcLen : c.crc32Buf.toList.length = 4 := by simp
  have hplen : (c.payloadBuf.toList.take c.expectedPayloadLen.toNat).length =
      c.expectedPayloadLen.toNat := by
    have hmax' : c.expectedPayloadLen.toNat ≤ 4092 := hmax
    simp
    omega
  have htrailer := leBytes_toNat_ofNat_leValue (w := 32) c.crc32Buf.toList (by omega)
  rw [hcrcLen] at htrailer
  have hbody : body = c.payloadBuf.toList.take c.expectedPayloadLen.toNat ++
      leBytes 4 (BitVec.ofNat 32 (leValue c.crc32Buf.toList)).toNat := by
    rw [htrailer]
  have hread : readLe32 c.crc32Buf.toList = BitVec.ofNat 32 (leValue c.crc32Buf.toList) := by
    apply BitVec.eq_of_toNat_eq
    rw [readLe32_toNat, BitVec.toNat_ofNat, List.take_of_length_le (by omega),
      Nat.mod_eq_of_lt (by simpa [hcrcLen] using leValue_lt c.crc32Buf.toList)]
  have hempty : c.payloadBuf.toList.take c.expectedPayloadLen.toNat ≠ [] ↔
      c.expectedPayloadLen ≠ 0 := by
    rw [← List.length_pos_iff, hplen, Nat.pos_iff_ne_zero]
    exact not_congr ⟨fun h => BitVec.eq_of_toNat_eq h, fun h => by rw [h]; rfl⟩
  have hok : mainPolicy.bodyOk body = true ↔ (c.expectedPayloadLen ≠ 0 →
      readLe32 c.crc32Buf.toList =
        crc32Compute (c.payloadBuf.toList.take c.expectedPayloadLen.toNat)) := by
    rw [hbody, Policy.bodyOk_append_iff, hempty, hread, crc32Compute_eq]
    simp [mainPolicy]
  refine ⟨by rw [hbody, bodyPayload_append], ?_⟩
  unfold RxCtx.validateFramePayload
  by_cases hzero : c.expectedPayloadLen = 0
  · left
    exact ⟨if_pos hzero, hok.mpr fun h => absurd hzero h⟩
  · rw [if_neg hzero]
    by_cases hcrc : readLe32 c.crc32Buf.toList =
        crc32Compute (c.payloadBuf.toList.take c.expectedPayloadLen.toNat)
    · left
      exact ⟨if_neg (not_not.mpr hcrc), hok.mpr fun _ => hcrc⟩
    · right
      refine ⟨if_pos hcrc, ?_⟩
      rw [Bool.eq_false_iff]
      exact fun h => hcrc (hok.mp h hzero)

/-- The context with one more frame received. -/
def RxCtx.received (c : RxCtx) : RxCtx := { c with framesReceived := c.framesReceived + 1 }

/-- The handler with its frame forgotten. -/
def SpiProtocol.forget (p : SpiProtocol) : SpiProtocol :=
  { p with rx := { p.rx with state := .idle } }

/-- The received counter has no part in the trailer check. -/
theorem validateFramePayload_received (c : RxCtx) :
    c.received.validateFramePayload =
      (c.validateFramePayload.1, c.validateFramePayload.2.received) := by
  unfold RxCtx.validateFramePayload RxCtx.received
  dsimp only
  split_ifs <;> rfl

/-- A frame that passes the trailer check is dispatched. -/
theorem frameComplete_ok {p : SpiProtocol} (h : p.rx.validateFramePayload.1 = 0) :
    p.frameComplete = ((dispatchFrame { p with rx := p.rx.received }).forget, 1) := by
  have hval : p.rx.received.validateFramePayload = (0, p.rx.received) := by
    rcases validateFramePayload_eq p.rx with heq | heq
    · rw [validateFramePayload_received, heq]
    · rw [heq] at h
      exact absurd h (show (-1 : Int) ≠ 0 by decide)
  have hctx : p.rx.received =
      { p.rx with framesReceived := p.rx.framesReceived + 1 } := rfl
  unfold SpiProtocol.frameComplete
  dsimp only
  rw [← hctx, hval]
  exact if_pos rfl

/-- Any other is counted as an error. -/
theorem frameComplete_bad {p : SpiProtocol} (h : p.rx.validateFramePayload.1 ≠ 0) :
    p.frameComplete =
      (SpiProtocol.forget
        { p with
          rx := { p.rx.received with framesCrcError := p.rx.framesCrcError + 1 } }, 0) := by
  have hval : p.rx.received.validateFramePayload =
      (-1, { p.rx.received with framesCrcError := p.rx.framesCrcError + 1 }) := by
    rcases validateFramePayload_eq p.rx with heq | heq
    · rw [heq] at h
      exact absurd rfl h
    · rw [validateFramePayload_received, heq]
      rfl
  have hctx : p.rx.received =
      { p.rx with framesReceived := p.rx.framesReceived + 1 } := rfl
  have hne : ¬ (-1 : Int) = 0 := by decide
  unfold SpiProtocol.frameComplete
  dsimp only
  rw [← hctx, hval]
  exact if_neg hne

/-- The context forgets its frame after dispatching it. -/
theorem Follows.of_dispatch (p q : SpiProtocol) (c : RxCtx) (sig : Signal Byte)
    (hstep : DispatchStep { p with rx := c } q) (haccept : mainAccepts sig = some c.pending)
    (hcrc : c.framesCrcError = p.rx.framesCrcError)
    (hsync : c.framesSyncError = p.rx.framesSyncError) :
    Follows p { q with rx := { q.rx with state := .idle } } .idle [sig] where
  valid := RxCtx.valid_of_idle rfl
  scan := RxCtx.scan_of_idle rfl
  dispatched := by
    rw [List.filterMap_cons_some haccept]
    exact hstep.dispatched
  crcError := by
    have herr : q.rx.framesCrcError = c.framesCrcError := by rw [hstep.rx]
    simpa [haccept, hcrc] using herr
  syncError := by
    have herr : q.rx.framesSyncError = c.framesSyncError := by rw [hstep.rx]
    exact herr.trans hsync

/-- A frame the context holds completely is dispatched or counted as an error. -/
theorem frameComplete_follows (p : SpiProtocol)
    (hmax : p.rx.expectedPayloadLen.toNat ≤ maxPayload) :
    Follows p p.frameComplete.1 .idle
      [.frame p.rx.hdrBuf.toList (p.rx.payloadBuf.toList.take p.rx.expectedPayloadLen.toNat ++
        p.rx.crc32Buf.toList)] := by
  obtain ⟨hpayload, hcases⟩ := validateFramePayload_cases p.rx hmax
  generalize hbody : p.rx.payloadBuf.toList.take p.rx.expectedPayloadLen.toNat ++
    p.rx.crc32Buf.toList = body at hpayload hcases ⊢
  rcases hcases with ⟨hret, hok⟩ | ⟨hret, hok⟩
  · have hplen : (bodyPayload body).length = p.rx.expectedPayloadLen.toNat := by
      have hmax' : p.rx.expectedPayloadLen.toNat ≤ 4092 := hmax
      rw [hpayload, List.length_take, Vector.length_toList]
      omega
    have haccept : mainAccepts (.frame p.rx.hdrBuf.toList body) = some p.rx.pending := by
      rw [mainAccepts, if_pos hok, hplen, hpayload, BitVec.ofNat_toNat, BitVec.setWidth_eq]
      rfl
    rw [frameComplete_ok (congrArg Prod.fst hret)]
    exact Follows.of_dispatch p _ p.rx.received _ (dispatchFrame_step _) haccept rfl rfl
  · have hreject : mainAccepts (.frame p.rx.hdrBuf.toList body) = none := by
      rw [mainAccepts, hok]
      rfl
    have hne : p.rx.validateFramePayload.1 ≠ 0 := by
      rw [hret]
      exact show (-1 : Int) ≠ 0 by decide
    rw [frameComplete_bad hne]
    exact Follows.of_reject p _ _ rfl hreject rfl rfl

/-- A frame of which only the trailer is missing in part. -/
theorem onCrc32_follows (p : SpiProtocol) (b : Byte) (hstate : p.rx.state = .crc32)
    (h : p.rx.Valid) :
    Follows p (p.onCrc32 b).1 (mainPolicy.format.next p.rx.scan b)
      (mainPolicy.format.signal p.rx.scan b).toList := by
  obtain ⟨hok, hidx⟩ := (RxCtx.valid_crc32 hstate).mp h
  have hmax : p.rx.expectedPayloadLen.toNat ≤ 4092 := hok.expected_le
  have hsize : crc32Size = 4 := rfl
  have hgot : (p.rx.payloadBuf.toList.take p.rx.expectedPayloadLen.toNat ++
      p.rx.crc32Buf.toList.take p.rx.crc32Idx).length =
      p.rx.expectedPayloadLen.toNat + p.rx.crc32Idx := by
    simp only [List.length_append, List.length_take, Vector.length_toList]
    omega
  have htake := take_setIfInBounds_succ p.rx.crc32Buf p.rx.crc32Idx b (by omega)
  rw [RxCtx.scan_crc32 hstate]
  unfold SpiProtocol.onCrc32
  by_cases hmore : p.rx.crc32Idx + 1 < 4
  · obtain ⟨hnext, hsig⟩ := mainPolicy.format.next_body p.rx.hdrBuf.toList _
      (p.rx.expectedPayloadLen.toNat + crc32Size) b (by rw [hgot]; omega)
    rw [hnext, hsig, if_neg (by dsimp only; omega)]
    apply Follows.of_rx
    · refine (RxCtx.valid_crc32 (by exact hstate)).mpr ⟨⟨hok.opens, hok.announces⟩, ?_⟩
      dsimp only
      omega
    · refine (RxCtx.scan_crc32 (by exact hstate)).trans ?_
      dsimp only
      rw [htake, List.append_assoc]
    · rfl
    · rfl
  · obtain ⟨hnext, hsig⟩ := mainPolicy.format.next_body_last p.rx.hdrBuf.toList _
      (p.rx.expectedPayloadLen.toNat + crc32Size) b (by rw [hgot]; omega)
    have hfull : p.rx.crc32Buf.toList.take p.rx.crc32Idx ++ [b] =
        (p.rx.crc32Buf.setIfInBounds p.rx.crc32Idx b).toList := by
      rw [← htake]
      apply List.take_of_length_le
      simp only [Vector.length_toList]
      omega
    rw [hnext, hsig, if_pos (by dsimp only; omega), List.append_assoc, hfull]
    have hdone := frameComplete_follows
      { p with
        rx := { p.rx with
          crc32Buf := p.rx.crc32Buf.setIfInBounds p.rx.crc32Idx b
          crc32Idx := p.rx.crc32Idx + 1 } } hok.expected_le
    exact
      { valid := hdone.valid
        scan := hdone.scan
        dispatched := hdone.dispatched
        crcError := hdone.crcError
        syncError := hdone.syncError }

/-- One byte of the handler is one step of the scanner. -/
theorem rxByte_follows (p : SpiProtocol) (b : Byte) (h : p.rx.Valid) :
    Follows p (p.rxByte b).1 (mainPolicy.format.next p.rx.scan b)
      (mainPolicy.format.signal p.rx.scan b).toList := by
  unfold SpiProtocol.rxByte
  cases hstate : p.rx.state with
  | idle =>
      rw [RxCtx.scan_of_idle hstate]
      exact onIdle_follows p b hstate
  | header => exact onHeader_follows p b hstate h
  | payload => exact onPayload_follows p b hstate h
  | crc32 => exact onCrc32_follows p b hstate h
  | complete => simp [RxCtx.Valid, hstate] at h
  | error => simp [RxCtx.Valid, hstate] at h

/-- The handler after a word of received bytes. -/
def SpiProtocol.feed (p : SpiProtocol) (w : List Byte) : SpiProtocol :=
  w.foldl (fun p b => (p.rxByte b).1) p

theorem feed_append (p : SpiProtocol) (u v : List Byte) :
    p.feed (u ++ v) = (p.feed u).feed v :=
  List.foldl_append

/-- A run of the handler is a run of the scanner. -/
theorem feed_follows (p : SpiProtocol) (w : List Byte) (h : p.rx.Valid) :
    Follows p (p.feed w) (mainPolicy.format.scan p.rx.scan w)
      (mainPolicy.format.signals p.rx.scan w) := by
  induction w generalizing p with
  | nil => exact Follows.refl p h
  | cons b w ih =>
      have hstep := rxByte_follows p b h
      have hrest := ih (p.rxByte b).1 hstep.valid
      rw [hstep.scan] at hrest
      exact hstep.trans hrest

/-- Draining the RX ring feeds its unread bytes and leaves it empty. -/
theorem drain_eq (fuel : Nat) (p : SpiProtocol) (spiRx : Ring Byte 8192) (frames : Nat)
    (hfuel : fuel = spiRx.used) :
    (drain fuel p spiRx frames).1 = p.feed spiRx.unread ∧
      (drain fuel p spiRx frames).2.1.unread = [] := by
  induction fuel generalizing p spiRx frames with
  | zero =>
      have hnil : spiRx.unread = [] := by
        rw [← List.length_eq_zero_iff, Ring.unread_length, ← hfuel]
      rw [drain, hnil]
      exact ⟨rfl, rfl⟩
  | succ fuel ih =>
      have hne : spiRx.head ≠ spiRx.tail := by
        intro heq
        have hzero := (spiRx.used_eq_zero_iff).mpr heq
        omega
      have hused := spiRx.advance_used hne
      rw [drain, if_neg hne, spiRx.unread_cons hne]
      exact ih _ _ _ (by omega)

theorem spiProtocolProcess_eq (p : SpiProtocol) (spiRx : Ring Byte 8192) :
    (spiProtocolProcess p spiRx).1 = p.feed spiRx.unread ∧
      (spiProtocolProcess p spiRx).2.1.unread = [] :=
  drain_eq _ p spiRx 0 rfl

end GhostBlade.Firmware
