import GhostBlade.Firmware.Spi0IsrScan
import GhostBlade.Library.Run

/-!
The hand-off of complete frames from the interrupt handler to the main loop
(`spi0_isr.c`). Both sides work on one receive context without a lock: bytes
may arrive between any two statements of the main loop. What protects the
context is that a complete frame stops the handler, and that the release
resets the state last.
-/

namespace GhostBlade.Firmware

open GhostBlade.Library GhostBlade.Library.Framing GhostBlade.Protocol

/-- Where the main loop stands: outside its calls, in `spi0_rx_get_frame` past
the test of the flag, or before a statement of `spi0_rx_release_frame`. -/
inductive HandoffPc where
  | loop
  | getting
  | wiping (i : Nat)
  | clearReady
  | clearPos
  | clearLen
  | clearState
deriving DecidableEq

/-- The context of `spi0_isr.c` and the main loop. The code has neither of the
last two components: the frame the main loop was last given and still owns, and
the bytes received since the context was last reset or released. -/
structure Handoff where
  spi : Spi0
  pc : HandoffPc
  held : Option (List Byte)
  since : List Byte

/-- A received byte, a call of the main loop, or its next statement. -/
inductive HandoffEvent where
  | byte (b : Byte)
  | getFrame
  | releaseFrame
  | step
deriving DecidableEq

def Handoff.start (s : Spi0) : Handoff := ⟨s.rxReset, .loop, none, []⟩

/-- The next statement of the call the main loop is in. -/
def Handoff.advance (h : Handoff) : Handoff :=
  match h.pc with
  | .loop => h
  | .getting =>
      { h with held := some (h.spi.rx.buf.toList.take h.spi.rx.pos), pc := .loop }
  | .wiping i =>
      if i < h.spi.rx.pos then
        { h with
          spi := { h.spi with rx := { h.spi.rx with buf := h.spi.rx.buf.setIfInBounds i 0 } }
          pc := .wiping (i + 1) }
      else { h with pc := .clearReady }
  | .clearReady =>
      { h with spi := { h.spi with rx := { h.spi.rx with frameReady := false } }, pc := .clearPos }
  | .clearPos =>
      { h with spi := { h.spi with rx := { h.spi.rx with pos := 0 } }, pc := .clearLen }
  | .clearLen =>
      { h with spi := { h.spi with rx := { h.spi.rx with payloadLen := 0 } }, pc := .clearState }
  | .clearState =>
      { h with
        spi := { h.spi with rx := { h.spi.rx with state := .idle } }
        pc := .loop
        since := [] }

/-- The main loop starts one call at a time, and releases only a frame that it
owns; an event that does not apply changes nothing. -/
def Handoff.step (h : Handoff) : HandoffEvent → Handoff
  | .byte b => { h with spi := h.spi.processByte b, since := h.since ++ [b] }
  | .getFrame =>
      if h.pc = .loop ∧ h.spi.rx.frameReady = true then { h with pc := .getting } else h
  | .releaseFrame =>
      if h.pc = .loop ∧ h.held.isSome = true then { h with pc := .wiping 0, held := none } else h
  | .step => h.advance

/-- The buffer after the wipe of `n` cells from cell `i` on. -/
def wiped (buf : Vector Byte 4112) (i n : Nat) : Vector Byte 4112 :=
  Vector.ofFn fun k => if i ≤ k.val ∧ k.val < i + n then 0 else buf.get k

theorem getElem_wiped (buf : Vector Byte 4112) (i n k : Nat) (hk : k < 4112) :
    (wiped buf i n)[k] = if i ≤ k ∧ k < i + n then 0 else buf[k] :=
  Vector.getElem_ofFn hk

theorem wiped_zero (buf : Vector Byte 4112) (i : Nat) : wiped buf i 0 = buf := by
  apply Vector.ext
  intro k hk
  rw [getElem_wiped, if_neg (by omega)]

theorem wiped_succ (buf : Vector Byte 4112) (i n : Nat) :
    wiped (buf.setIfInBounds i 0) (i + 1) n = wiped buf i (n + 1) := by
  apply Vector.ext
  intro k hk
  rw [getElem_wiped, getElem_wiped, Vector.getElem_setIfInBounds hk]
  split_ifs
  all_goals first | rfl | omega

theorem rxReleaseFrame_eq (s : Spi0) :
    s.rxReleaseFrame = { s with rx := ⟨wiped s.rx.buf 0 s.rx.pos, 0, .idle, 0, false⟩ } := by
  simp [Spi0.rxReleaseFrame, wiped]

/-- The statements of a release that has `n` cells left to wipe. -/
theorem release_run (h : Handoff) (i n : Nat) (hpc : h.pc = .wiping i)
    (hpos : h.spi.rx.pos = i + n) :
    run Handoff.step h (List.replicate (n + 5) .step) =
      ⟨{ h.spi with rx := ⟨wiped h.spi.rx.buf i n, 0, .idle, 0, false⟩ }, .loop, h.held, []⟩ := by
  induction n generalizing h i with
  | zero =>
      have hend : h.step .step = { h with pc := .clearReady } := by
        simp [Handoff.step, Handoff.advance, hpc, hpos]
      rw [wiped_zero, Nat.zero_add, List.replicate_succ, run_cons, hend]
      rfl
  | succ n ih =>
      have hone : h.step .step =
          { h with
            spi :=
              { h.spi with rx := { h.spi.rx with buf := h.spi.rx.buf.setIfInBounds i 0 } }
            pc := .wiping (i + 1) } := by
        simp [Handoff.step, Handoff.advance, hpc, hpos]
      have hrest := ih (h.step .step) (i + 1) (by rw [hone]) (by rw [hone, hpos]; omega)
      rw [Nat.add_right_comm, List.replicate_succ, run_cons, hrest, hone, wiped_succ]

/-- Without interrupts the statements of the release are `spi0_rx_release_frame`. -/
theorem release_alone (h : Handoff) (hpc : h.pc = .loop) (hheld : h.held.isSome = true) :
    run Handoff.step h (.releaseFrame :: List.replicate (h.spi.rx.pos + 5) .step) =
      ⟨h.spi.rxReleaseFrame, .loop, none, []⟩ := by
  have hcall : h.step .releaseFrame = { h with pc := .wiping 0, held := none } := by
    simp [Handoff.step, hpc, hheld]
  generalize hbegun : h.step .releaseFrame = t at hcall
  have hspi : t.spi = h.spi := by rw [hcall]
  have hrun := release_run t 0 h.spi.rx.pos (by rw [hcall]) (by rw [hspi, Nat.zero_add])
  rw [run_cons, hbegun, hrun, hspi, rxReleaseFrame_eq, hcall]

/-- The cells of the buffer a received byte reads or writes. -/
def Spi0Rx.touched (r : Spi0Rx) (b : Byte) : List Nat :=
  match r.state with
  | .idle | .error => if validateSyncByte b then [0] else []
  | .header =>
      if r.pos < hdrSize then
        if r.pos + 1 = hdrSize then r.pos :: List.range hdrSize else [r.pos]
      else []
  | .payload =>
      let total := hdrSize + r.payloadLen.toNat + crc32Size
      if r.pos < total then
        if r.pos + 1 = total then
          r.pos :: List.range' hdrSize (r.payloadLen.toNat + crc32Size)
        else [r.pos]
      else []
  | .complete => []

/-- The same for any event; the owner of a frame may read all of it. -/
def Handoff.touched (h : Handoff) : HandoffEvent → List Nat
  | .byte b => h.spi.rx.touched b
  | .getFrame | .releaseFrame => []
  | .step =>
      match h.pc, h.held with
      | .wiping i, _ => if i < h.spi.rx.pos then [i] else []
      | _, some w => List.range w.length
      | _, none => []

/-- The context with another buffer. -/
def Spi0.withBuf (s : Spi0) (buf : Vector Byte 4112) : Spi0 :=
  { s with rx := { s.rx with buf := buf } }

/-- Two buffers that agree in some of their cells. -/
def SameCells (is : List Nat) (buf buf' : Vector Byte 4112) : Prop :=
  ∀ i ∈ is, buf[i]? = buf'[i]?

section

variable {is : List Nat} {buf buf' : Vector Byte 4112}

theorem SameCells.store (h : SameCells is buf buf') (k : Nat) (b : Byte) :
    SameCells is (buf.setIfInBounds k b) (buf'.setIfInBounds k b) := by
  intro i hi
  rw [Vector.getElem?_setIfInBounds, Vector.getElem?_setIfInBounds, h i hi]

theorem SameCells.slice (h : SameCells is buf buf') (k n : Nat)
    (hsub : ∀ i ∈ List.range' k n, i ∈ is) :
    (buf.toList.drop k).take n = (buf'.toList.drop k).take n := by
  apply drop_take_congr k n
  intro i hi
  rw [Vector.getElem?_toList, Vector.getElem?_toList]
  exact h i (hsub i hi)

end

/-- What follows the last header byte reads the header. -/
theorem headerComplete_withBuf (s : Spi0) {buf : Vector Byte 4112}
    (h : SameCells (List.range hdrSize) buf s.rx.buf) :
    (s.withBuf buf).headerComplete = s.headerComplete.withBuf buf := by
  have hslice (k n : Nat) (hkn : k + n ≤ hdrSize) :
      (buf.toList.drop k).take n = (s.rx.buf.toList.drop k).take n := by
    apply h.slice
    intro i hi
    have := List.mem_range'_1.mp hi
    exact List.mem_range.mpr (by omega)
  have hcrc : validateHeaderCrc64 buf.toList = validateHeaderCrc64 s.rx.buf.toList := by
    have hfields := hslice 0 8 (by decide)
    rw [List.drop_zero, List.drop_zero] at hfields
    rw [validateHeaderCrc64, validateHeaderCrc64, hfields, hslice 8 8 (by decide)]
  have hlen : extractPayloadLength buf.toList = extractPayloadLength s.rx.buf.toList := by
    rw [extractPayloadLength, extractPayloadLength, hslice 2 2 (by decide)]
  unfold Spi0.headerComplete
  simp only [Spi0.withBuf, hcrc, hlen]
  split_ifs <;> rfl

/-- What follows the last trailer byte reads the payload and the trailer. -/
theorem frameComplete_withBuf (s : Spi0) {buf : Vector Byte 4112}
    (h : SameCells (List.range' hdrSize (s.rx.payloadLen.toNat + crc32Size)) buf s.rx.buf) :
    (s.withBuf buf).frameComplete = s.frameComplete.withBuf buf := by
  have hcrc32 : crc32Size = 4 := rfl
  have hpayload : (buf.toList.drop hdrSize).take s.rx.payloadLen.toNat =
      (s.rx.buf.toList.drop hdrSize).take s.rx.payloadLen.toNat := by
    apply h.slice
    intro i hi
    have := List.mem_range'_1.mp hi
    exact List.mem_range'_1.mpr (by omega)
  have htrailer : (buf.toList.drop (hdrSize + s.rx.payloadLen.toNat)).take 4 =
      (s.rx.buf.toList.drop (hdrSize + s.rx.payloadLen.toNat)).take 4 := by
    apply h.slice
    intro i hi
    have := List.mem_range'_1.mp hi
    exact List.mem_range'_1.mpr (by omega)
  have hcrc : validatePayloadCrc32 buf.toList s.rx.payloadLen =
      validatePayloadCrc32 s.rx.buf.toList s.rx.payloadLen := by
    rw [validatePayloadCrc32, validatePayloadCrc32, hpayload, htrailer]
  unfold Spi0.frameComplete
  simp only [Spi0.withBuf, hcrc]
  split_ifs <;> rfl

/-- What the handler does to the buffer stays in the cells `is`: it changes no
other cell, and with other values in the others it does the same. -/
structure Spi0.Confined (s : Spi0) (b : Byte) (is : List Nat) : Prop where
  writes : ∀ i ∉ is, (s.processByte b).rx.buf[i]? = s.rx.buf[i]?
  reads : ∀ buf, SameCells is buf s.rx.buf → ∃ buf',
    (s.withBuf buf).processByte b = (s.processByte b).withBuf buf' ∧
      SameCells is buf' (s.processByte b).rx.buf

/-- A byte that leaves the buffer alone. -/
theorem Spi0.Confined.of_keep {s : Spi0} {b : Byte} {is : List Nat}
    (h : ∀ buf, (s.withBuf buf).processByte b = (s.processByte b).withBuf buf) :
    s.Confined b is := by
  have hbuf : (s.processByte b).rx.buf = s.rx.buf := congrArg (·.rx.buf) (h s.rx.buf)
  exact ⟨fun i _ => by rw [hbuf], fun buf hsame => ⟨buf, h buf, by rw [hbuf]; exact hsame⟩⟩

/-- A byte that is stored in one of the cells. -/
theorem Spi0.Confined.of_store {s : Spi0} {b : Byte} {is : List Nat} {k : Nat} (hk : k ∈ is)
    (h : ∀ buf, SameCells is buf s.rx.buf →
      (s.withBuf buf).processByte b = (s.processByte b).withBuf (buf.setIfInBounds k b)) :
    s.Confined b is := by
  have hbuf : (s.processByte b).rx.buf = s.rx.buf.setIfInBounds k b :=
    congrArg (·.rx.buf) (h s.rx.buf fun _ _ => rfl)
  constructor
  · intro i hi
    have hne : k ≠ i := fun heq => hi (heq ▸ hk)
    rw [hbuf, Vector.getElem?_setIfInBounds_ne hne]
  · intro buf hsame
    refine ⟨buf.setIfInBounds k b, h buf hsame, ?_⟩
    rw [hbuf]
    exact hsame.store k b

section

variable (s : Spi0) (b : Byte) (buf : Vector Byte 4112)

@[simp] theorem withBuf_pos : (s.withBuf buf).rx.pos = s.rx.pos := rfl

@[simp] theorem withBuf_state : (s.withBuf buf).rx.state = s.rx.state := rfl

@[simp] theorem withBuf_payloadLen : (s.withBuf buf).rx.payloadLen = s.rx.payloadLen := rfl

@[simp] theorem storeByte_pos : (s.storeByte b).rx.pos = s.rx.pos + 1 := rfl

@[simp] theorem storeByte_payloadLen : (s.storeByte b).rx.payloadLen = s.rx.payloadLen := rfl

theorem storeByte_withBuf :
    (s.withBuf buf).storeByte b = (s.storeByte b).withBuf (buf.setIfInBounds s.rx.pos b) := rfl

variable {buf}

theorem onHeader_withBuf (hlt : s.rx.pos < hdrSize)
    (h : s.rx.pos + 1 = hdrSize → SameCells (List.range hdrSize) buf s.rx.buf) :
    (s.withBuf buf).onHeader b = (s.onHeader b).withBuf (buf.setIfInBounds s.rx.pos b) := by
  by_cases hlast : s.rx.pos + 1 = hdrSize
  · have hsame := (h hlast).store s.rx.pos b
    simpa [Spi0.onHeader, storeByte_withBuf, hlt, hlast] using
      headerComplete_withBuf (s.storeByte b) hsame
  · simp [Spi0.onHeader, storeByte_withBuf, hlt, hlast]

theorem onPayload_withBuf (hlt : s.rx.pos < hdrSize + s.rx.payloadLen.toNat + crc32Size)
    (h : s.rx.pos + 1 = hdrSize + s.rx.payloadLen.toNat + crc32Size →
      SameCells (List.range' hdrSize (s.rx.payloadLen.toNat + crc32Size)) buf s.rx.buf) :
    (s.withBuf buf).onPayload b = (s.onPayload b).withBuf (buf.setIfInBounds s.rx.pos b) := by
  by_cases hlast : s.rx.pos + 1 = hdrSize + s.rx.payloadLen.toNat + crc32Size
  · have hsame := (h hlast).store s.rx.pos b
    simpa [Spi0.onPayload, storeByte_withBuf, hlt, hlast] using
      frameComplete_withBuf (s.storeByte b) hsame
  · simp [Spi0.onPayload, storeByte_withBuf, hlt, hlast]

end

/-- The cells `touched` are all that a byte reads or writes. -/
theorem processByte_confined (s : Spi0) (b : Byte) : s.Confined b (s.rx.touched b) := by
  let counted : Spi0 :=
    { s with stats := { s.stats with bytesReceived := s.stats.bytesReceived + 1 } }
  unfold Spi0Rx.touched
  cases hs : s.rx.state with
  | idle | error =>
      dsimp only
      split_ifs with hsync
      · refine .of_store (List.mem_singleton.mpr rfl) fun buf _ => ?_
        simp [Spi0.processByte, Spi0.withBuf, Spi0.startFrame, hs, hsync]
      · refine .of_keep fun buf => ?_
        simp [Spi0.processByte, Spi0.withBuf, hs, hsync]
  | header =>
      dsimp only
      split_ifs with hlt hlast
      · refine .of_store List.mem_cons_self fun buf hsame => ?_
        simp only [Spi0.processByte, hs, withBuf_state]
        exact onHeader_withBuf counted b hlt fun _ i hi => hsame i (List.mem_cons_of_mem _ hi)
      · refine .of_store (List.mem_singleton.mpr rfl) fun buf _ => ?_
        simp only [Spi0.processByte, hs, withBuf_state]
        exact onHeader_withBuf counted b hlt fun h => absurd h hlast
      · refine .of_keep fun buf => ?_
        simp [Spi0.processByte, Spi0.withBuf, Spi0.onHeader, hs, hlt]
  | payload =>
      dsimp only
      split_ifs with hlt hlast
      · refine .of_store List.mem_cons_self fun buf hsame => ?_
        simp only [Spi0.processByte, hs, withBuf_state]
        exact onPayload_withBuf counted b hlt fun _ i hi => hsame i (List.mem_cons_of_mem _ hi)
      · refine .of_store (List.mem_singleton.mpr rfl) fun buf _ => ?_
        simp only [Spi0.processByte, hs, withBuf_state]
        exact onPayload_withBuf counted b hlt fun h => absurd h hlast
      · refine .of_keep fun buf => ?_
        simp [Spi0.processByte, Spi0.withBuf, Spi0.onPayload, hs, hlt]
  | complete =>
      refine .of_keep fun buf => ?_
      simp [Spi0.processByte, Spi0.withBuf, hs]

/-- What the handler has checked when it completes a frame. -/
structure FrameChecks (w : List Byte) : Prop where
  sync : w.head? = some syncByte
  headerCrc : crcField w = (crc64 (w.take 8)).toNat
  bounded : lenField w ≤ maxPayload
  payloadCrc : trailerField w = (crc32 (payloadPart w)).toNat
  size : w.length = 20 + lenField w

theorem frameChecks_rawFrame (cmd : Byte) (payload : List Byte) (reserved : BitVec 32)
    (hlen : payload.length ≤ maxPayload) :
    FrameChecks (rawFrame cmd payload reserved (crc32 payload)) := by
  have hmax : maxPayload = 4092 := rfl
  have hlenField : lenField (rawFrame cmd payload reserved (crc32 payload)) = payload.length := by
    rw [rawFrame, header_lenField _ _ _ _ (by omega)]
  have hdrop : (rawFrame cmd payload reserved (crc32 payload)).drop hdrSize =
      payload ++ leBytes 4 (crc32 payload).toNat := by
    rw [rawFrame]
    exact List.drop_left' (by simp)
  have hpart : payloadPart (rawFrame cmd payload reserved (crc32 payload)) = payload := by
    rw [payloadPart, hlenField, hdrop, List.take_left]
  constructor
  · rfl
  · rw [rawFrame, header_crcField, header_take_fields]
  · rw [hlenField]
    exact hlen
  · rw [hpart, trailerField, hlenField, ← List.drop_drop, hdrop, List.drop_left]
    have hfour : (leBytes 4 (crc32 payload).toNat).take 4 = leBytes 4 (crc32 payload).toNat :=
      List.take_of_length_le (by simp)
    rw [hfour]
    exact leValue_leBytes_of_lt 4 _ (by simpa using (crc32 payload).isLt)
  · rw [hlenField]
    simp [rawFrame, hdrSize]
    omega

/-- The first frame the handler completes when it starts from idle. -/
def firstFrame (w : List Byte) : Option (List Byte) :=
  ((isrPolicy.format.signals .idle w).filterMap isrAccepts).head?

theorem firstFrame_checks {w f : List Byte} (h : firstFrame w = some f) : FrameChecks f := by
  obtain ⟨sig, hmem, hsig⟩ := List.mem_filterMap.mp (List.mem_of_head? h)
  cases sig with
  | rejected hdr => cases hsig
  | frame hdr body =>
      have hfits := Format.signals_fits isrPolicy.format (s := .idle) trivial hmem
      simp only [isrAccepts, Option.ite_none_right_eq_some, Option.some.injEq] at hsig
      obtain ⟨cmd, payload, reserved, trailer, hlen, _, rfl, rfl⟩ :=
        (isrPolicy.fits_iff hdr body).mp hfits
      have htrailer := (isrPolicy.bodyOk_append_iff payload trailer).mp hsig.1 (.inr rfl)
      rw [← hsig.2, htrailer, ← List.append_assoc]
      exact frameChecks_rawFrame cmd payload reserved hlen

theorem firstFrame_snoc (w : List Byte) (b : Byte) :
    firstFrame (w ++ [b]) = (firstFrame w).or
      ((isrPolicy.format.signal (isrPolicy.format.scan .idle w) b).bind isrAccepts) := by
  rw [firstFrame, Format.signals_append, List.filterMap_append, List.head?_append, firstFrame,
    Format.signals_cons, Format.signals_nil, List.append_nil]
  congr 1
  cases isrPolicy.format.signal (isrPolicy.format.scan .idle w) b with
  | none => rfl
  | some sig => cases hsig : isrAccepts sig <;> simp [hsig]

/-- A context that has received exactly `w` since it was last idle. -/
structure Spi0Rx.Follows (r : Spi0Rx) (w : List Byte) : Prop where
  valid : r.Valid
  fits : r.pos ≤ frameSizeMax
  fresh : w = [] → r.state = .idle ∧ r.pos = 0
  assembling : r.state ≠ .complete → firstFrame w = none ∧ r.scan = isrPolicy.format.scan .idle w
  complete : r.state = .complete → firstFrame w = some (r.buf.toList.take r.pos)

theorem Spi0Rx.Valid.frameReady_iff {r : Spi0Rx} (h : r.Valid) :
    r.frameReady = true ↔ r.state = .complete := by
  unfold Spi0Rx.Valid at h
  cases hs : r.state with
  | idle | error => simp_all
  | header | payload => simp_all
  | complete => simp_all

theorem headerComplete_pos (s : Spi0) : s.headerComplete.rx.pos = s.rx.pos := by
  unfold Spi0.headerComplete
  dsimp only
  repeat' split
  all_goals rfl

theorem frameComplete_pos (s : Spi0) : s.frameComplete.rx.pos = s.rx.pos := by
  unfold Spi0.frameComplete
  split <;> rfl

/-- The position never passes the end of the largest frame. -/
theorem processByte_pos (s : Spi0) (b : Byte) (hvalid : s.rx.Valid)
    (hfits : s.rx.pos ≤ frameSizeMax) : (s.processByte b).rx.pos ≤ frameSizeMax := by
  have hmax : frameSizeMax = 4112 := rfl
  unfold Spi0.processByte
  dsimp only
  generalize hcounted : Spi0.mk s.rx s.tx _ = t
  have hrx : t.rx = s.rx := by rw [← hcounted]
  rw [← hrx] at hvalid hfits ⊢
  have hstart : (t.startFrame b).rx.pos ≤ frameSizeMax := by
    change 1 ≤ _
    omega
  cases hs : t.rx.state with
  | idle | error =>
      dsimp only
      split
      · exact hstart
      · exact hfits
  | header =>
      obtain ⟨_, _, _, hlt⟩ := (Spi0Rx.valid_header hs).mp hvalid
      have hstore : (t.storeByte b).rx.pos ≤ frameSizeMax := by
        change t.rx.pos + 1 ≤ _
        omega
      dsimp only [Spi0.onHeader]
      repeat' split
      · rw [headerComplete_pos]
        exact hstore
      · exact hstore
      · exact hfits
  | payload =>
      obtain ⟨_, _, hann, _, hlt⟩ := (Spi0Rx.valid_payload hs).mp hvalid
      have hlen := payloadLen_le hann
      have hstore : (t.storeByte b).rx.pos ≤ frameSizeMax := by
        change t.rx.pos + 1 ≤ _
        omega
      dsimp only [Spi0.onPayload]
      repeat' split
      · rw [frameComplete_pos]
        exact hstore
      · exact hstore
      · exact hfits
  | complete => exact hfits

/-- Every byte is taken in as the scanner takes it, up to a complete frame. -/
theorem Spi0Rx.Follows.byte {s : Spi0} {w : List Byte} (h : s.rx.Follows w) (b : Byte) :
    (s.processByte b).rx.Follows (w ++ [b]) := by
  by_cases hs : s.rx.state = .complete
  · rw [processByte_complete s b hs]
    exact
      { h with
        fresh := by simp
        assembling := fun hne => absurd hs hne
        complete := fun _ => by rw [firstFrame_snoc, h.complete hs, Option.some_or] }
  · obtain ⟨hnone, hscan⟩ := h.assembling hs
    have hstep := processByte_assembles s b h.valid hs
    have hfirst := firstFrame_snoc w b
    rw [hnone, Option.none_or, ← hscan] at hfirst
    refine ⟨hstep.valid, processByte_pos s b h.valid h.fits, by simp, fun hne => ?_, fun hc => ?_⟩
    · constructor
      · rw [hfirst]
        exact Option.not_isSome_iff_eq_none.mp (fun hsome => hne (hstep.complete.mpr hsome))
      · rw [hstep.scan, hscan, Format.scan_append]
        rfl
    · obtain ⟨f, hf⟩ := Option.isSome_iff_exists.mp (hstep.complete.mp hc)
      rw [hfirst, hf, hstep.frame f hf]

/-- Everything a byte touches lies in the buffer. -/
theorem Spi0Rx.touched_lt {r : Spi0Rx} {b : Byte} {i : Nat} (h : r.Valid) (hi : i ∈ r.touched b) :
    i < frameSizeMax := by
  have hmax : frameSizeMax = 4112 := rfl
  have hhdr : hdrSize = 16 := rfl
  have hcrc : crc32Size = 4 := rfl
  unfold Spi0Rx.touched at hi
  cases hs : r.state with
  | idle | error =>
      simp only [hs, List.mem_ite_nil_right, List.mem_singleton] at hi
      omega
  | header =>
      simp only [hs, List.mem_ite_nil_right] at hi
      obtain ⟨hlt, hi⟩ := hi
      split at hi
      · rcases List.mem_cons.mp hi with rfl | hi
        · omega
        · have := List.mem_range.mp hi
          omega
      · have := List.mem_singleton.mp hi
        omega
  | payload =>
      obtain ⟨_, _, hann, _, _⟩ := (Spi0Rx.valid_payload hs).mp h
      have hlen := payloadLen_le hann
      simp only [hs, List.mem_ite_nil_right] at hi
      obtain ⟨hlt, hi⟩ := hi
      split at hi
      · rcases List.mem_cons.mp hi with rfl | hi
        · omega
        · have := List.mem_range'_1.mp hi
          omega
      · have := List.mem_singleton.mp hi
        omega
  | complete => simp [hs] at hi

/-- The frame the main loop owns is in the buffer, whole and alone. -/
def Handoff.Owns (h : Handoff) : Prop :=
  ∀ w, h.held = some w → h.spi.rx.state = .complete ∧ h.spi.rx.buf.toList.take h.spi.rx.pos = w

/-- A release has begun: the handler stands still. -/
structure Handoff.Stopped (h : Handoff) : Prop where
  state : h.spi.rx.state = .complete
  fits : h.spi.rx.pos ≤ frameSizeMax
  given : h.held = none

/-- What holds before each statement of the main loop. -/
def Handoff.InvAt (h : Handoff) : HandoffPc → Prop
  | .loop => h.spi.rx.Follows h.since ∧ h.Owns
  | .getting => h.spi.rx.Follows h.since ∧ h.Owns ∧ h.spi.rx.state = .complete
  | .wiping _ | .clearReady => h.Stopped
  | .clearPos => h.Stopped ∧ h.spi.rx.frameReady = false
  | .clearLen | .clearState => h.Stopped ∧ h.spi.rx.frameReady = false ∧ h.spi.rx.pos = 0

def Handoff.Inv (h : Handoff) : Prop := h.InvAt h.pc

theorem Handoff.inv_at {h : Handoff} {pc : HandoffPc} (hpc : h.pc = pc) : h.Inv ↔ h.InvAt pc := by
  rw [Handoff.Inv, hpc]

/-- A release in progress has stopped the handler. -/
theorem Handoff.InvAt.stopped {h : Handoff} {pc : HandoffPc} (hinv : h.InvAt pc)
    (hloop : pc ≠ .loop) (hget : pc ≠ .getting) : h.Stopped := by
  cases pc with
  | loop => exact absurd rfl hloop
  | getting => exact absurd rfl hget
  | wiping i => exact hinv
  | clearReady => exact hinv
  | clearPos | clearLen | clearState => exact hinv.1

theorem Spi0Rx.follows_nil {r : Spi0Rx} (hstate : r.state = .idle) (hready : r.frameReady = false)
    (hpos : r.pos = 0) : r.Follows [] where
  valid := by simp [Spi0Rx.Valid, hstate, hready]
  fits := by simp [hpos]
  fresh := fun _ => ⟨hstate, hpos⟩
  assembling := fun _ => ⟨rfl, by simp [Spi0Rx.scan, hstate]⟩
  complete := by simp [hstate]

theorem Handoff.inv_start (s : Spi0) : (Handoff.start s).Inv :=
  ⟨Spi0Rx.follows_nil rfl rfl rfl, by rintro w ⟨⟩⟩

/-- A byte is assembled, or finds a complete frame and leaves it alone. -/
theorem Handoff.inv_byte {h : Handoff} (hinv : h.Inv) (b : Byte) : (h.step (.byte b)).Inv := by
  have hkeep (hs : h.spi.rx.state = .complete) : (h.step (.byte b)).spi.rx = h.spi.rx :=
    processByte_complete h.spi b hs
  have howns (ho : h.Owns) : (h.step (.byte b)).Owns := by
    intro w hw
    rw [hkeep (ho w hw).1]
    exact ho w hw
  have hstopped (hst : h.Stopped) : (h.step (.byte b)).Stopped := by
    constructor
    · rw [hkeep hst.state, hst.state]
    · rw [hkeep hst.state]
      exact hst.fits
    · exact hst.given
  change (h.step (.byte b)).InvAt h.pc
  unfold Handoff.Inv at hinv
  generalize h.pc = pc at hinv ⊢
  cases pc with
  | loop => exact ⟨hinv.1.byte b, howns hinv.2⟩
  | getting => exact ⟨hinv.1.byte b, howns hinv.2.1, by rw [hkeep hinv.2.2, hinv.2.2]⟩
  | wiping i => exact hstopped hinv
  | clearReady => exact hstopped hinv
  | clearPos => exact ⟨hstopped hinv.1, by rw [hkeep hinv.1.state, hinv.2]⟩
  | clearLen | clearState =>
      rw [Handoff.InvAt, hkeep hinv.1.state]
      exact ⟨hstopped hinv.1, hinv.2⟩

/-- One statement of the main loop. -/
theorem Handoff.inv_advance {h : Handoff} (hinv : h.Inv) : h.advance.Inv := by
  unfold Handoff.Inv at hinv
  unfold Handoff.advance
  cases hpc : h.pc with
  | loop => exact (Handoff.inv_at hpc).mpr (hpc ▸ hinv)
  | getting =>
      rw [hpc] at hinv
      obtain ⟨hfollows, _, hstate⟩ := hinv
      refine ⟨hfollows, ?_⟩
      rintro w ⟨rfl⟩
      exact ⟨hstate, rfl⟩
  | wiping i =>
      rw [hpc] at hinv
      dsimp only
      split
      · exact ⟨hinv.state, hinv.fits, hinv.given⟩
      · exact ⟨hinv.state, hinv.fits, hinv.given⟩
  | clearReady =>
      rw [hpc] at hinv
      exact ⟨⟨hinv.state, hinv.fits, hinv.given⟩, rfl⟩
  | clearPos =>
      rw [hpc] at hinv
      obtain ⟨hst, hready⟩ := hinv
      exact ⟨⟨hst.state, Nat.zero_le _, hst.given⟩, hready, rfl⟩
  | clearLen =>
      rw [hpc] at hinv
      obtain ⟨hst, hready, hpos⟩ := hinv
      exact ⟨⟨hst.state, hst.fits, hst.given⟩, hready, hpos⟩
  | clearState =>
      -- The state is reset last: only now does the handler run again, and it
      -- finds everything else reset.
      rw [hpc] at hinv
      obtain ⟨hst, hready, hpos⟩ := hinv
      refine ⟨Spi0Rx.follows_nil rfl hready hpos, ?_⟩
      intro w hw
      have hnone : h.held = some w := hw
      rw [hst.given] at hnone
      cases hnone

theorem Handoff.inv_step (h : Handoff) (e : HandoffEvent) (hinv : h.Inv) : (h.step e).Inv := by
  cases e with
  | byte b => exact Handoff.inv_byte hinv b
  | getFrame =>
      dsimp only [Handoff.step]
      split
      · next hcall =>
        obtain ⟨hfollows, howns⟩ := (Handoff.inv_at hcall.1).mp hinv
        exact ⟨hfollows, howns, hfollows.valid.frameReady_iff.mp hcall.2⟩
      · exact hinv
  | releaseFrame =>
      dsimp only [Handoff.step]
      split
      · next hcall =>
        obtain ⟨hfollows, howns⟩ := (Handoff.inv_at hcall.1).mp hinv
        obtain ⟨w, hw⟩ := Option.isSome_iff_exists.mp hcall.2
        exact ⟨(howns w hw).1, hfollows.fits, rfl⟩
      · exact hinv
  | step => exact Handoff.inv_advance hinv

theorem Handoff.inv_run (s : Spi0) (es : List HandoffEvent) :
    (run Handoff.step (Handoff.start s) es).Inv :=
  run_invariant Handoff.inv_step (Handoff.inv_start s) es

/-- The bytes go on being assembled unless a release is in progress. -/
theorem Handoff.Inv.receiving_or_stopped {h : Handoff} (hinv : h.Inv) :
    (h.spi.rx.Follows h.since ∧ h.Owns) ∨ h.Stopped := by
  unfold Handoff.Inv at hinv
  by_cases hloop : h.pc = .loop
  · rw [hloop] at hinv
    exact .inl hinv
  · by_cases hget : h.pc = .getting
    · rw [hget] at hinv
      exact .inl ⟨hinv.1, hinv.2.1⟩
    · exact .inr (hinv.stopped hloop hget)

theorem Handoff.Inv.owned {h : Handoff} (hinv : h.Inv) {w : List Byte} (hw : h.held = some w) :
    h.spi.rx.Follows h.since ∧ h.spi.rx.state = .complete ∧
      h.spi.rx.buf.toList.take h.spi.rx.pos = w := by
  rcases hinv.receiving_or_stopped with ⟨hfollows, howns⟩ | hst
  · exact ⟨hfollows, howns w hw⟩
  · have hnone := hst.given
    rw [hw] at hnone
    cases hnone

theorem Handoff.Inv.fits {h : Handoff} (hinv : h.Inv) : h.spi.rx.pos ≤ frameSizeMax := by
  rcases hinv.receiving_or_stopped with ⟨hfollows, _⟩ | hst
  · exact hfollows.fits
  · exact hst.fits

/-- Between its calls the main loop is offered the first frame of the bytes
since the last release. -/
theorem Handoff.Inv.rxGetFrame {h : Handoff} (hinv : h.Inv) (hpc : h.pc = .loop) :
    h.spi.rxGetFrame = firstFrame h.since := by
  obtain ⟨hfollows, _⟩ := (Handoff.inv_at hpc).mp hinv
  unfold Spi0.rxGetFrame
  split
  · next hready =>
    exact (hfollows.complete (hfollows.valid.frameReady_iff.mp hready)).symm
  · next hready =>
    exact (hfollows.assembling fun hs => hready (hfollows.valid.frameReady_iff.mpr hs)).1.symm

/-- A frame that the main loop owns is the first of the bytes received. -/
theorem Handoff.Inv.held_checks {h : Handoff} (hinv : h.Inv) {w : List Byte}
    (hw : h.held = some w) : FrameChecks w := by
  obtain ⟨hfollows, hstate, htake⟩ := hinv.owned hw
  exact firstFrame_checks (htake ▸ hfollows.complete hstate)

theorem Handoff.Inv.held_length {h : Handoff} (hinv : h.Inv) {w : List Byte}
    (hw : h.held = some w) : h.spi.rx.pos = w.length := by
  have hfits := hinv.fits
  have hmax : frameSizeMax = 4112 := rfl
  rw [← (hinv.owned hw).2.2, List.length_take, Vector.length_toList]
  omega

/-- Nothing but a release takes the frame away. -/
theorem Handoff.held_step {h : Handoff} (hinv : h.Inv) {w : List Byte} (hw : h.held = some w)
    {e : HandoffEvent} (he : e ≠ .releaseFrame) : (h.step e).held = some w := by
  cases e with
  | byte b => exact hw
  | getFrame =>
      dsimp only [Handoff.step]
      split
      · exact hw
      · exact hw
  | releaseFrame => exact absurd rfl he
  | step =>
      dsimp only [Handoff.step, Handoff.advance]
      split
      · exact hw
      · rw [← (hinv.owned hw).2.2]
      · split
        · exact hw
        · exact hw
      all_goals exact hw

theorem Handoff.held_run {h : Handoff} (hinv : h.Inv) {w : List Byte} (hw : h.held = some w)
    {es : List HandoffEvent} (hes : .releaseFrame ∉ es) :
    (run Handoff.step h es).Inv ∧ (run Handoff.step h es).held = some w := by
  induction es generalizing h with
  | nil => exact ⟨hinv, hw⟩
  | cons e es ih =>
      rw [List.mem_cons, not_or] at hes
      exact ih (Handoff.inv_step h e hinv) (Handoff.held_step hinv hw (Ne.symm hes.1)) hes.2

/-- Every access of either side lies in the buffer. -/
theorem Handoff.touched_lt {h : Handoff} (hinv : h.Inv) {e : HandoffEvent} {i : Nat}
    (hi : i ∈ h.touched e) : i < frameSizeMax := by
  have hfits := hinv.fits
  cases e with
  | byte b =>
      rcases hinv.receiving_or_stopped with ⟨hfollows, _⟩ | hst
      · exact Spi0Rx.touched_lt hfollows.valid hi
      · have hnone : h.spi.rx.touched b = [] := by simp [Spi0Rx.touched, hst.state]
        change i ∈ h.spi.rx.touched b at hi
        rw [hnone] at hi
        cases hi
  | getFrame | releaseFrame => cases hi
  | step =>
      dsimp only [Handoff.touched] at hi
      split at hi
      · obtain ⟨hlt, hmem⟩ := List.mem_ite_nil_right.mp hi
        have := List.mem_singleton.mp hmem
        omega
      · next hw _ =>
        have hlen := hinv.held_length hw
        have := List.mem_range.mp hi
        omega
      · cases hi

theorem since_bytes (h : Handoff) (ws : List Byte) (hpc : h.pc = .loop) :
    (run Handoff.step h (ws.map .byte)).pc = .loop ∧
      (run Handoff.step h (ws.map .byte)).since = h.since ++ ws := by
  induction ws generalizing h with
  | nil => exact ⟨hpc, (List.append_nil _).symm⟩
  | cons b ws ih =>
      obtain ⟨hpc', hsince⟩ := ih (h.step (.byte b)) hpc
      exact ⟨hpc', hsince.trans (List.append_assoc h.since [b] ws)⟩

/-- The hand-off of a frame: what the main loop is given is a checked frame, it
stays as it is until it is released, every access is in bounds (a byte reads and
writes no other cell), and from the last statement of a release on the bytes are
assembled from idle. -/
theorem frame_handoff (s : Spi0) (es : List HandoffEvent) :
    let h := run Handoff.step (Handoff.start s) es
    (∀ w, h.held = some w → FrameChecks w) ∧
    (∀ w fs, h.held = some w → .releaseFrame ∉ fs →
      let t := run Handoff.step h fs
      t.held = some w ∧ t.spi.rx.buf.toList.take w.length = w ∧ t.spi.rx.pos = w.length) ∧
    h.spi.rx.pos ≤ frameSizeMax ∧
    (∀ e, ∀ i ∈ h.touched e, i < frameSizeMax) ∧
    (∀ b, h.spi.Confined b (h.touched (.byte b))) ∧
    (h.pc = .clearState → ∀ ws,
      let t := run Handoff.step h (.step :: ws.map .byte)
      t.spi.rxGetFrame = firstFrame ws ∧ (ws = [] → t.spi.rx.state = .idle)) := by
  have hinv := Handoff.inv_run s es
  generalize run Handoff.step (Handoff.start s) es = h at hinv ⊢
  refine ⟨fun w hw => hinv.held_checks hw, ?_, hinv.fits,
    fun e i hi => Handoff.touched_lt hinv hi, processByte_confined h.spi, ?_⟩
  · intro w fs hw hfs
    obtain ⟨hinv', hw'⟩ := Handoff.held_run hinv hw hfs
    have hlen := hinv'.held_length hw'
    exact ⟨hw', hlen ▸ (hinv'.owned hw').2.2, hlen⟩
  · intro hpc ws
    have hinv' := run_invariant Handoff.inv_step hinv (.step :: ws.map .byte)
    have hreleased : (h.step .step).pc = .loop ∧ (h.step .step).since = [] := by
      simp [Handoff.step, Handoff.advance, hpc]
    obtain ⟨hloop, hsince⟩ := since_bytes (h.step .step) ws hreleased.1
    rw [hreleased.2, List.nil_append] at hsince
    rw [run_cons] at hinv' ⊢
    refine ⟨(hinv'.rxGetFrame hloop).trans (congrArg firstFrame hsince), ?_⟩
    rintro rfl
    obtain ⟨hfollows, _⟩ := (Handoff.inv_at hloop).mp hinv'
    exact (hfollows.fresh hsince).1

end GhostBlade.Firmware
