import GhostBlade.Firmware.FrameHandoff
import GhostBlade.Firmware.Telemetry

/-!
What is left of a received payload once its frame is over. Dispatching a frame
and releasing one erase it; a frame refused for its payload CRC is not erased,
and stays in the buffer until later frames overwrite it.
-/

namespace GhostBlade.Firmware

open GhostBlade.Library GhostBlade.Library.Framing GhostBlade.Protocol

/-- The cells from `lo` up to `hi` are zero. -/
def ZeroIn {n : Nat} (buf : Vector Byte n) (lo hi : Nat) : Prop :=
  ∀ i, (h : i < n) → lo ≤ i → i < hi → buf[i] = 0

section

variable {n lo mid hi : Nat} {buf : Vector Byte n}

theorem ZeroIn.mono (h : ZeroIn buf lo hi) {lo' hi' : Nat} (hlo : lo ≤ lo') (hhi : hi' ≤ hi) :
    ZeroIn buf lo' hi' := by
  intro i hi hleft hright
  exact h i hi (hlo.trans hleft) (hright.trans_le hhi)

theorem ZeroIn.join (h : ZeroIn buf lo mid) (h' : ZeroIn buf mid hi) : ZeroIn buf lo hi := by
  intro i hi hleft hright
  rcases Nat.lt_or_ge i mid with hbelow | habove
  · exact h i hi hleft hbelow
  · exact h' i hi habove hright

/-- A byte stored below the range does not matter. -/
theorem ZeroIn.store (h : ZeroIn buf lo hi) (k : Nat) (b : Byte) {lo' : Nat} (hlo : lo ≤ lo')
    (hk : k < lo') : ZeroIn (buf.setIfInBounds k b) lo' hi := by
  intro i hi hleft hright
  have hne : k ≠ i := by omega
  rw [Vector.getElem_setIfInBounds_ne hi hne]
  exact h i hi (hlo.trans hleft) hright

/-- A zero stored at the end of the range extends it. -/
theorem ZeroIn.erase (h : ZeroIn buf lo hi) : ZeroIn (buf.setIfInBounds hi 0) lo (hi + 1) := by
  intro i hi' hleft hright
  rw [Vector.getElem_setIfInBounds hi']
  split
  · rfl
  · exact h i hi' hleft (by omega)

theorem ZeroIn.secureWipe (h : ZeroIn buf mid hi) : ZeroIn (secureWipe buf mid) 0 hi := by
  intro i hi' _ hright
  have hcell : (Firmware.secureWipe buf mid)[i] = if i < mid then 0 else buf[i] :=
    Vector.getElem_ofFn hi'
  rw [hcell]
  split
  · rfl
  · exact h i hi' (by omega) hright

theorem zeroIn_replicate : ZeroIn (Vector.replicate n (0 : Byte)) lo hi := by
  intro i hi _ _
  exact Vector.getElem_replicate hi

end

/-! ### The parser of `spi_protocol.c` -/

/-- How many cells of the payload buffer the current frame has filled. -/
def RxCtx.filled (c : RxCtx) : Nat :=
  match c.state with
  | .payload => c.payloadIdx
  | .crc32 => c.expectedPayloadLen.toNat
  | .idle | .header | .complete | .error => 0

/-- Nothing of an earlier frame is left. -/
def RxCtx.Clean (c : RxCtx) : Prop := ZeroIn c.payloadBuf c.filled 4092

theorem RxCtx.clean_of_idle {c : RxCtx} (h : c.state = .idle) :
    c.Clean ↔ ZeroIn c.payloadBuf 0 4092 := by
  rw [RxCtx.Clean, RxCtx.filled, h]

theorem onIdle_clean {c : RxCtx} (h : c.Clean) (hstate : c.state = .idle) (b : Byte) :
    (c.onIdle b).Clean := by
  rw [RxCtx.clean_of_idle hstate] at h
  unfold RxCtx.onIdle
  split
  · exact h
  · exact (RxCtx.clean_of_idle hstate).mpr h

/-- The header checks leave the payload buffer alone, and nothing is in it when
they are done. -/
theorem headerComplete_clean {c : RxCtx} (h : ZeroIn c.payloadBuf 0 4092) :
    c.headerComplete.Clean := by
  have hvalidate : c.validateFrameHeader.2.payloadBuf = c.payloadBuf := by
    unfold RxCtx.validateFrameHeader
    dsimp only
    split_ifs <;> rfl
  rw [← hvalidate] at h
  unfold RxCtx.headerComplete
  dsimp only
  split_ifs with _ _ hpos
  · exact h
  · exact h
  · have hempty : (readLe16 (c.validateFrameHeader.2.hdrBuf.toList.drop 2)).toNat = 0 := by
      rw [gt_iff_lt, BitVec.lt_def] at hpos
      simp only [BitVec.toNat_ofNat] at hpos
      omega
    unfold RxCtx.Clean RxCtx.filled
    dsimp only
    rw [hempty]
    exact h
  · exact h

theorem onHeader_clean {c : RxCtx} (h : c.Clean) (hstate : c.state = .header) (b : Byte) :
    (c.onHeader b).Clean := by
  have hzero : ZeroIn c.payloadBuf 0 4092 := by rwa [RxCtx.Clean, RxCtx.filled, hstate] at h
  unfold RxCtx.onHeader
  dsimp only
  split_ifs
  · exact headerComplete_clean hzero
  · unfold RxCtx.Clean RxCtx.filled
    dsimp only
    rw [hstate]
    exact hzero

theorem onPayload_clean {c : RxCtx} (h : c.Clean) (hstate : c.state = .payload)
    (hvalid : c.Valid) (b : Byte) : (c.onPayload b).Clean := by
  obtain ⟨-, hidx⟩ := (RxCtx.valid_payload hstate).mp hvalid
  have hrest : ZeroIn c.payloadBuf c.payloadIdx 4092 := by
    rwa [RxCtx.Clean, RxCtx.filled, hstate] at h
  have hstored := hrest.store c.payloadIdx b (Nat.le_succ _) (Nat.lt_succ_self _)
  unfold RxCtx.onPayload
  dsimp only
  split_ifs with hlast
  · have hall : c.expectedPayloadLen.toNat = c.payloadIdx + 1 := by omega
    unfold RxCtx.Clean RxCtx.filled
    dsimp only
    rw [hall]
    exact hstored
  · unfold RxCtx.Clean RxCtx.filled
    dsimp only
    rw [hstate]
    exact hstored

section

variable {p : SpiProtocol}

/-- A frame that `validate_frame_payload` refuses carries nothing but zeros. -/
def SpiProtocol.RefusesOnlyZeros (p : SpiProtocol) : ProtocolCall → Prop
  | .byte b =>
      p.rx.state = .crc32 → p.crcFails b = true →
        ZeroIn p.rx.payloadBuf 0 p.rx.expectedPayloadLen.toNat
  | _ => True

/-- The context with the next trailer byte stored. -/
def RxCtx.withTrailerByte (c : RxCtx) (b : Byte) : RxCtx :=
  { c with crc32Buf := c.crc32Buf.setIfInBounds c.crc32Idx b, crc32Idx := c.crc32Idx + 1 }

/-- What the next trailer byte does: it is stored, or it completes a frame that
is dispatched and erased, or one that is refused and kept. -/
theorem onCrc32_cases (b : Byte) (hstate : p.rx.state = .crc32) :
    (p.crcFails b = false ∧ (p.onCrc32 b).1.rx = p.rx.withTrailerByte b) ∨
      (p.crcFails b = false ∧ (p.onCrc32 b).1.rx.state = .idle ∧
        (p.onCrc32 b).1.rx.payloadBuf =
          secureWipe p.rx.payloadBuf p.rx.expectedPayloadLen.toNat) ∨
      (p.crcFails b = true ∧ (p.onCrc32 b).1.rx.state = .idle ∧
        (p.onCrc32 b).1.rx.payloadBuf = p.rx.payloadBuf) := by
  let c := p.rx.withTrailerByte b
  have hfails : p.crcFails b =
      decide (c.crc32Idx ≥ crc32Size ∧ c.validateFramePayload.1 = -1) := by
    unfold SpiProtocol.crcFails
    rw [hstate]
    rfl
  have hcrc32 : p.onCrc32 b = if c.crc32Idx ≥ crc32Size then
      SpiProtocol.frameComplete { p with rx := c } else ({ p with rx := c }, 0) := rfl
  rw [hfails, hcrc32]
  by_cases hlast : c.crc32Idx ≥ crc32Size
  · rw [if_pos hlast]
    rcases validateFramePayload_eq c with heq | heq
    · have hok : c.validateFramePayload.1 = 0 := congrArg Prod.fst heq
      have hstep := dispatchFrame_step { p with rx := c.received }
      refine .inr (.inl ⟨by simp [hok], ?_⟩)
      have hbuf := congrArg RxCtx.payloadBuf hstep.rx
      rw [frameComplete_ok (p := { p with rx := c }) hok]
      unfold SpiProtocol.forget
      exact ⟨rfl, hbuf⟩
    · have hbad : c.validateFramePayload.1 = -1 := congrArg Prod.fst heq
      have hne : c.validateFramePayload.1 ≠ 0 := by omega
      refine .inr (.inr ⟨by simp [hbad, hlast], ?_⟩)
      rw [frameComplete_bad (p := { p with rx := c }) hne]
      exact ⟨rfl, rfl⟩
  · rw [if_neg hlast]
    exact .inl ⟨by simp [hlast], rfl⟩

/-- The context is left clean unless a refused frame was not all zero. -/
theorem onCrc32_clean (h : p.rx.Clean) (hstate : p.rx.state = .crc32) {b : Byte}
    (hzero : p.crcFails b = true → ZeroIn p.rx.payloadBuf 0 p.rx.expectedPayloadLen.toNat) :
    (p.onCrc32 b).1.rx.Clean := by
  have hrest : ZeroIn p.rx.payloadBuf p.rx.expectedPayloadLen.toNat 4092 := by
    rwa [RxCtx.Clean, RxCtx.filled, hstate] at h
  rcases onCrc32_cases b hstate with ⟨-, hrx⟩ | ⟨-, hidle, hbuf⟩ | ⟨hfails, hidle, hbuf⟩
  · rw [hrx]
    unfold RxCtx.Clean RxCtx.filled RxCtx.withTrailerByte
    dsimp only
    rw [hstate]
    exact hrest
  · rw [RxCtx.clean_of_idle hidle, hbuf]
    exact hrest.secureWipe
  · rw [RxCtx.clean_of_idle hidle, hbuf]
    exact (hzero hfails).join hrest

/-- A context that is valid and clean. -/
def SpiProtocol.Erased (p : SpiProtocol) : Prop := p.rx.Valid ∧ p.rx.Clean

theorem rxByte_clean (h : p.Erased) {b : Byte} (hzero : p.RefusesOnlyZeros (.byte b)) :
    (p.rxByte b).1.rx.Clean := by
  obtain ⟨hvalid, hclean⟩ := h
  unfold SpiProtocol.rxByte
  cases hstate : p.rx.state with
  | idle => exact onIdle_clean hclean hstate b
  | header => exact onHeader_clean hclean hstate b
  | payload => exact onPayload_clean hclean hstate hvalid b
  | crc32 => exact onCrc32_clean hclean hstate (hzero hstate)
  | complete => simp [RxCtx.Valid, hstate] at hvalid
  | error => simp [RxCtx.Valid, hstate] at hvalid

/-- Only received bytes change the receive context. -/
theorem call_rx {c : ProtocolCall} (hc : ∀ b, c ≠ .byte b) : (p.call c).rx = p.rx := by
  cases c with
  | byte b => exact absurd rfl (hc b)
  | updateTelemetry _ _ _ _ _ => rfl
  | setBrownout _ => rfl
  | tick => rfl
  | sendIqChunk data => exact (sendIqChunk_untouched p data).rx
  | sendTelemetry => exact (sendTelemetry_untouched p).rx

theorem SpiProtocol.Erased.call (h : p.Erased) {c : ProtocolCall} (hzero : p.RefusesOnlyZeros c) :
    (p.call c).Erased := by
  cases c with
  | byte b => exact ⟨(rxByte_follows p b h.1).valid, rxByte_clean h hzero⟩
  | updateTelemetry _ _ _ _ _ => exact h
  | setBrownout _ => exact h
  | tick => exact h
  | sendIqChunk data =>
      rw [SpiProtocol.Erased, call_rx (by simp)]
      exact h
  | sendTelemetry =>
      rw [SpiProtocol.Erased, call_rx (by simp)]
      exact h

/-- An idle parser keeps nothing. -/
def SpiProtocol.IdleErased (p : SpiProtocol) : Prop :=
  p.rx.state = .idle → ZeroIn p.rx.payloadBuf 0 4092

theorem SpiProtocol.IdleErased.refusesOnlyZeros {c : ProtocolCall}
    (h : (p.call c).IdleErased) : p.RefusesOnlyZeros c := by
  cases c with
  | byte b =>
      intro hstate hfails
      have hbyte : (p.call (.byte b)).rx = (p.onCrc32 b).1.rx := by
        unfold SpiProtocol.call SpiProtocol.rxByte
        dsimp only
        rw [hstate]
      have hkept := onCrc32_cases b hstate
      rw [hfails] at hkept
      unfold SpiProtocol.IdleErased at h
      rw [hbyte] at h
      rcases hkept with ⟨hok, -⟩ | ⟨hok, -⟩ | ⟨-, hidle, hbuf⟩
      · cases hok
      · cases hok
      · rw [← hbuf]
        intro i hi hleft hright
        exact h hidle i hi hleft hi
  | updateTelemetry _ _ _ _ _ => trivial
  | setBrownout _ => trivial
  | tick => trivial
  | sendIqChunk _ => trivial
  | sendTelemetry => trivial

end

/-- The parser never keeps a payload in idle exactly when every frame it refuses
is all zero. -/
theorem parser_erases_iff (p : SpiProtocol) (es : List ProtocolCall) :
    (∀ us, us <+: es → (run SpiProtocol.call (spiProtocolInit p) us).IdleErased) ↔
      Along SpiProtocol.call SpiProtocol.RefusesOnlyZeros (spiProtocolInit p) es := by
  apply property_iff_along (I := SpiProtocol.Erased)
  · intro q h hidle
    exact (RxCtx.clean_of_idle hidle).mp h.2
  · exact fun q c h hzero => h.call hzero
  · exact fun q c _ hidle => hidle.refusesOnlyZeros
  · exact ⟨RxCtx.valid_of_idle rfl, zeroIn_replicate⟩

/-! ### The handler of `spi0_isr.c` -/

/-- How many cells of the frame buffer the header and the current frame have
filled. -/
def Spi0Rx.filled (r : Spi0Rx) : Nat :=
  match r.state with
  | .payload | .complete => max hdrSize r.pos
  | .idle | .header | .error => hdrSize

def Spi0Rx.Clean (r : Spi0Rx) : Prop := ZeroIn r.buf r.filled 4112

theorem Spi0Rx.clean_payload {r : Spi0Rx} (h : r.state = .payload) :
    r.Clean ↔ ZeroIn r.buf (max hdrSize r.pos) 4112 := by
  rw [Spi0Rx.Clean, Spi0Rx.filled, h]

theorem Spi0Rx.clean_complete {r : Spi0Rx} (h : r.state = .complete) :
    r.Clean ↔ ZeroIn r.buf (max hdrSize r.pos) 4112 := by
  rw [Spi0Rx.Clean, Spi0Rx.filled, h]

theorem Spi0Rx.clean_empty {r : Spi0Rx}
    (h : r.state = .idle ∨ r.state = .header ∨ r.state = .error) :
    r.Clean ↔ ZeroIn r.buf hdrSize 4112 := by
  rcases h with h | h | h <;> rw [Spi0Rx.Clean, Spi0Rx.filled, h]

/-- Neither the payload nor the trailer of a frame that the handler refuses has
a byte other than zero. -/
def Spi0.RefusesOnlyZeros (s : Spi0) (b : Byte) : Prop :=
  s.rx.state = .payload → s.rx.pos + 1 = hdrSize + s.rx.payloadLen.toNat + crc32Size →
    validatePayloadCrc32 (s.storeByte b).rx.buf.toList s.rx.payloadLen = false →
      ZeroIn (s.storeByte b).rx.buf hdrSize (s.rx.pos + 1)

section

variable {s : Spi0}

theorem startFrame_clean (h : ZeroIn s.rx.buf hdrSize 4112) (b : Byte) :
    (s.startFrame b).rx.Clean :=
  (Spi0Rx.clean_empty (.inr (.inl rfl))).mpr (h.store 0 b le_rfl (by decide))

/-- A complete header is in the first 16 cells only. -/
theorem isrHeaderComplete_clean (h : ZeroIn s.rx.buf hdrSize 4112) (hpos : s.rx.pos = hdrSize) :
    s.headerComplete.rx.Clean := by
  unfold Spi0.headerComplete
  dsimp only
  split_ifs
  · exact h
  · exact h
  · apply (Spi0Rx.clean_payload rfl).mpr
    simp only [hpos, max_self]
    exact h

theorem isrOnHeader_clean (h : s.rx.Clean) (hstate : s.rx.state = .header) (b : Byte) :
    (s.onHeader b).rx.Clean := by
  have hzero := (Spi0Rx.clean_empty (.inr (.inl hstate))).mp h
  unfold Spi0.onHeader
  dsimp only
  split_ifs with hroom hlast
  · exact isrHeaderComplete_clean (hzero.store s.rx.pos b le_rfl hroom) hlast
  · have hkept : (s.storeByte b).rx.state = .header := hstate
    exact (Spi0Rx.clean_empty (.inr (.inl hkept))).mpr (hzero.store s.rx.pos b le_rfl hroom)
  · exact h

/-- The last byte of a frame: it is held, or refused and kept. -/
theorem isrOnPayload_clean (h : s.rx.Clean) (hstate : s.rx.state = .payload)
    (hvalid : s.rx.Valid) {b : Byte} (hzero : s.RefusesOnlyZeros b) :
    (s.onPayload b).rx.Clean := by
  obtain ⟨-, -, -, hlow, hhigh⟩ := (Spi0Rx.valid_payload hstate).mp hvalid
  have hhdr : hdrSize = 16 := rfl
  have hcrc : crc32Size = 4 := rfl
  have hrest := (Spi0Rx.clean_payload hstate).mp h
  have hstored : ZeroIn (s.storeByte b).rx.buf (max hdrSize (s.rx.pos + 1)) 4112 :=
    hrest.store s.rx.pos b (by omega) (by omega)
  unfold Spi0.onPayload
  dsimp only
  split_ifs with hroom hlast
  · unfold Spi0.frameComplete
    split_ifs with hok
    · exact hstored
    · have hbody := hzero hstate hlast ((Bool.not_eq_true _).mp hok)
      exact hbody.join (hstored.mono (by omega) le_rfl)
  · have hkept : (s.storeByte b).rx.state = .payload := hstate
    exact (Spi0Rx.clean_payload hkept).mpr hstored
  · omega

theorem processByte_clean (h : s.rx.Clean) (hvalid : s.rx.Valid) {b : Byte}
    (hzero : s.RefusesOnlyZeros b) : (s.processByte b).rx.Clean := by
  unfold Spi0.processByte
  dsimp only
  generalize hcounted : Spi0.mk s.rx s.tx _ = t
  have hrx : t.rx = s.rx := by rw [← hcounted]
  have hzero' : t.RefusesOnlyZeros b := by
    unfold Spi0.RefusesOnlyZeros Spi0.storeByte at hzero ⊢
    rwa [hrx]
  rw [← hrx] at h hvalid ⊢
  cases hs : t.rx.state with
  | idle =>
      dsimp only
      split
      · exact startFrame_clean ((Spi0Rx.clean_empty (.inl hs)).mp h) b
      · exact h
  | header => exact isrOnHeader_clean h hs b
  | payload => exact isrOnPayload_clean h hs hvalid hzero'
  | complete => exact h
  | error =>
      dsimp only
      split
      · exact startFrame_clean ((Spi0Rx.clean_empty (.inr (.inr hs))).mp h) b
      · exact h

/-- A refused frame stays in the buffer. -/
theorem refused_kept {b : Byte} (hstate : s.rx.state = .payload)
    (hlast : s.rx.pos + 1 = hdrSize + s.rx.payloadLen.toNat + crc32Size)
    (hbad : validatePayloadCrc32 (s.storeByte b).rx.buf.toList s.rx.payloadLen = false) :
    (s.processByte b).rx.state = .error ∧
      (s.processByte b).rx.buf = (s.storeByte b).rx.buf := by
  unfold Spi0.storeByte at hbad
  simp only [Spi0.processByte, hstate, Spi0.onPayload, Spi0.storeByte, hlast, if_true,
    show s.rx.pos < hdrSize + s.rx.payloadLen.toNat + crc32Size by omega,
    Spi0.frameComplete, hbad, Bool.false_eq_true, if_false, and_self]

end

/-- How far the buffer is erased before each statement of the main loop. -/
def Handoff.CleanAt (h : Handoff) : HandoffPc → Prop
  | .loop | .getting => h.spi.rx.Clean
  | .wiping i =>
      ZeroIn h.spi.rx.buf hdrSize i ∧ ZeroIn h.spi.rx.buf (max hdrSize h.spi.rx.pos) 4112
  | .clearReady | .clearPos | .clearLen | .clearState => ZeroIn h.spi.rx.buf hdrSize 4112

structure Handoff.Erased (h : Handoff) : Prop where
  inv : h.Inv
  clean : h.CleanAt h.pc

/-- A frame refused meanwhile is all zero. -/
def Handoff.RefusesOnlyZeros (h : Handoff) : HandoffEvent → Prop
  | .byte b => h.spi.RefusesOnlyZeros b
  | .getFrame | .releaseFrame | .step => True

/-- A handler that waits for a frame keeps nothing of an earlier one. -/
def Handoff.IdleErased (h : Handoff) : Prop :=
  h.spi.rx.state = .idle ∨ h.spi.rx.state = .error → ZeroIn h.spi.rx.buf hdrSize 4112

section

variable {h : Handoff}

/-- Once the handler has stopped, bytes change nothing. -/
theorem Handoff.CleanAt.byte {pc : HandoffPc} (hclean : h.CleanAt pc)
    (hinv : h.InvAt pc) {b : Byte} (hzero : h.spi.RefusesOnlyZeros b) :
    (h.step (.byte b)).CleanAt pc := by
  have hkeep (hst : h.Stopped) : (h.step (.byte b)).spi.rx = h.spi.rx :=
    processByte_complete h.spi b hst.state
  cases pc with
  | loop => exact processByte_clean hclean hinv.1.valid hzero
  | getting => exact processByte_clean hclean hinv.1.valid hzero
  | wiping i =>
      rw [Handoff.CleanAt, hkeep hinv]
      exact hclean
  | clearReady =>
      rw [Handoff.CleanAt, hkeep hinv]
      exact hclean
  | clearPos =>
      rw [Handoff.CleanAt, hkeep hinv.1]
      exact hclean
  | clearLen =>
      rw [Handoff.CleanAt, hkeep hinv.1]
      exact hclean
  | clearState =>
      rw [Handoff.CleanAt, hkeep hinv.1]
      exact hclean

/-- The wipe goes on by one cell; the other statements of a release leave the
erased buffer alone. -/
theorem Handoff.clean_advance {pc : HandoffPc} (hpc : h.pc = pc) (hclean : h.CleanAt pc) :
    h.advance.CleanAt h.advance.pc := by
  have hhdr : hdrSize = 16 := rfl
  unfold Handoff.advance
  rw [hpc]
  cases pc with
  | loop =>
      dsimp only
      rw [hpc]
      exact hclean
  | getting => exact hclean
  | wiping i =>
      obtain ⟨hdone, hrest⟩ := hclean
      dsimp only
      split_ifs with hmore
      · exact ⟨hdone.erase, hrest.store i 0 le_rfl (hmore.trans_le (le_max_right _ _))⟩
      · intro k hk hleft hright
        rcases Nat.lt_or_ge k i with hbelow | habove
        · exact hdone k hk hleft hbelow
        · exact hrest k hk (by omega) hright
  | clearReady => exact hclean
  | clearPos => exact hclean
  | clearLen => exact hclean
  | clearState => exact (Spi0Rx.clean_empty (.inl rfl)).mpr hclean

theorem Handoff.Erased.step (he : h.Erased) {e : HandoffEvent} (hzero : h.RefusesOnlyZeros e) :
    (h.step e).Erased := by
  obtain ⟨hinv, hclean⟩ := he
  refine ⟨Handoff.inv_step h e hinv, ?_⟩
  cases e with
  | byte b => exact Handoff.CleanAt.byte hclean hinv hzero
  | getFrame =>
      dsimp only [Handoff.step]
      split_ifs with hcall
      · rw [hcall.1] at hclean
        exact hclean
      · exact hclean
  | releaseFrame =>
      dsimp only [Handoff.step]
      split_ifs with hcall
      · obtain ⟨-, howns⟩ := (Handoff.inv_at hcall.1).mp hinv
        obtain ⟨w, hw⟩ := Option.isSome_iff_exists.mp hcall.2
        rw [hcall.1] at hclean
        refine ⟨?_, (Spi0Rx.clean_complete (howns w hw).1).mp hclean⟩
        intro k _ _ hright
        omega
      · exact hclean
  | step => exact Handoff.clean_advance rfl hclean

theorem Handoff.Erased.idleErased (he : h.Erased) : h.IdleErased := by
  intro hstate
  obtain ⟨hinv, hclean⟩ := he
  unfold Handoff.Inv at hinv
  have hempty : h.spi.rx.state = .idle ∨ h.spi.rx.state = .header ∨ h.spi.rx.state = .error := by
    tauto
  generalize h.pc = pc at hinv hclean
  have hbusy (hst : h.Stopped) : False := by
    rw [hst.state] at hstate
    rcases hstate with hidle | herror
    · cases hidle
    · cases herror
  cases pc with
  | loop => exact (Spi0Rx.clean_empty hempty).mp hclean
  | getting => exact (Spi0Rx.clean_empty hempty).mp hclean
  | wiping i => exact (hbusy hinv).elim
  | clearReady => exact hclean
  | clearPos => exact hclean
  | clearLen => exact hclean
  | clearState => exact hclean

theorem Handoff.IdleErased.refusesOnlyZeros {e : HandoffEvent} (herased : (h.step e).IdleErased) :
    h.RefusesOnlyZeros e := by
  cases e with
  | byte b =>
      intro hstate hlast hbad
      obtain ⟨herror, hbuf⟩ := refused_kept hstate hlast hbad
      have hzero := herased (.inr herror)
      rw [← hbuf]
      intro k hk hleft _
      exact hzero k hk hleft hk
  | getFrame => trivial
  | releaseFrame => trivial
  | step => trivial

end

theorem isr_erases_iff (s : Spi0) (es : List HandoffEvent) :
    (∀ us, us <+: es → (run Handoff.step (Handoff.start s) us).IdleErased) ↔
      Along Handoff.step Handoff.RefusesOnlyZeros (Handoff.start s) es := by
  apply property_iff_along (I := Handoff.Erased)
  · exact fun h he => he.idleErased
  · exact fun h e he hzero => he.step hzero
  · exact fun h e _ herased => herased.refusesOnlyZeros
  · exact ⟨Handoff.inv_start s, zeroIn_replicate⟩

/-- A receiver that waits for a frame has erased all earlier payloads exactly
when no frame with anything but zeros in it has been refused for its payload
CRC. -/
theorem payloads_erased_iff (p : SpiProtocol) (calls : List ProtocolCall) (s : Spi0)
    (es : List HandoffEvent) :
    ((∀ us, us <+: calls → (run SpiProtocol.call (spiProtocolInit p) us).IdleErased) ↔
      Along SpiProtocol.call SpiProtocol.RefusesOnlyZeros (spiProtocolInit p) calls) ∧
    ((∀ us, us <+: es → (run Handoff.step (Handoff.start s) us).IdleErased) ↔
      Along Handoff.step Handoff.RefusesOnlyZeros (Handoff.start s) es) :=
  ⟨parser_erases_iff p calls, isr_erases_iff s es⟩

theorem parser_lingers {p : SpiProtocol} (hidle : p.rx.state = .idle)
    (hcell : p.rx.payloadBuf[0] ≠ 0) : ¬ p.IdleErased :=
  fun herased => hcell (herased hidle 0 (by decide) le_rfl (by decide))

theorem isr_lingers {h : Handoff} (herror : h.spi.rx.state = .error)
    (hcell : h.spi.rx.buf[16] ≠ 0) : ¬ h.IdleErased :=
  fun herased => hcell (herased (.inr herror) 16 (by decide) le_rfl (by decide))

/-- A frame of an NFC command with four payload bytes and no good trailer. -/
def refusedFrame : List Byte := rawFrame cmdNfcTransact [1, 2, 3, 4] 0 0

/-- Both receivers refuse the frame and keep its payload. -/
theorem refused_payload_lingers :
    let init : SpiProtocol :=
      ⟨RxCtx.zero, ProtoStats.zero, DeviceState.zero, ⟨fun _ => 0, 0, 0⟩, ⟨0, []⟩, []⟩
    ¬ (run SpiProtocol.call (spiProtocolInit init) (refusedFrame.map .byte)).IdleErased ∧
      ¬ (run Handoff.step (Handoff.start Spi0.zero) (refusedFrame.map .byte)).IdleErased := by
  intro init
  have hparser : (run SpiProtocol.call (spiProtocolInit init) (refusedFrame.map .byte)).rx.state =
        .idle ∧
      (run SpiProtocol.call (spiProtocolInit init) (refusedFrame.map .byte)).rx.payloadBuf[0] ≠
        0 := by decide +kernel
  have hisr : (run Handoff.step (Handoff.start Spi0.zero)
        (refusedFrame.map .byte)).spi.rx.state = .error ∧
      (run Handoff.step (Handoff.start Spi0.zero)
        (refusedFrame.map .byte)).spi.rx.buf[16] ≠ 0 := by decide +kernel
  exact ⟨parser_lingers hparser.1 hparser.2, isr_lingers hisr.1 hisr.2⟩

end GhostBlade.Firmware
