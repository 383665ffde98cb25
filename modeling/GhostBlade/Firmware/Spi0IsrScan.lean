import GhostBlade.Firmware.Spi0Isr
import GhostBlade.Protocol.Receiver

/-!
The frame assembly of `spi0_isr.c` is the frame scanner as well, up to the
complete state: the error state is as good as idle, and a complete frame stops
the scanner until it is released. The interrupt handler ignores the reserved
field and checks the trailer of every frame.
-/

namespace GhostBlade.Firmware

open GhostBlade.Library GhostBlade.Library.Framing GhostBlade.Protocol

def isrPolicy : Policy := ⟨false, true⟩

def Spi0Rx.scan (r : Spi0Rx) : Scan Byte :=
  match r.state with
  | .header => .header (r.buf.toList.take r.pos)
  | .payload =>
      .body (r.buf.toList.take hdrSize) ((r.buf.toList.take r.pos).drop hdrSize)
        (r.payloadLen.toNat + crc32Size)
  | .idle | .complete | .error => .idle

/-- The states a run can reach. -/
def Spi0Rx.Valid (r : Spi0Rx) : Prop :=
  match r.state with
  | .idle | .error => r.frameReady = false
  | .header =>
      r.frameReady = false ∧ r.buf.toList.head? = some syncByte ∧ 1 ≤ r.pos ∧ r.pos < 16
  | .payload =>
      r.frameReady = false ∧ r.buf.toList.head? = some syncByte ∧
        isrPolicy.bodyLen (r.buf.toList.take hdrSize) = some (r.payloadLen.toNat + crc32Size) ∧
        16 ≤ r.pos ∧ r.pos < 20 + r.payloadLen.toNat
  | .complete => r.frameReady = true

theorem Spi0Rx.scan_header {r : Spi0Rx} (h : r.state = .header) :
    r.scan = .header (r.buf.toList.take r.pos) := by
  simp [Spi0Rx.scan, h]

theorem Spi0Rx.scan_payload {r : Spi0Rx} (h : r.state = .payload) :
    r.scan = .body (r.buf.toList.take hdrSize) ((r.buf.toList.take r.pos).drop hdrSize)
      (r.payloadLen.toNat + crc32Size) := by
  simp [Spi0Rx.scan, h]

theorem Spi0Rx.valid_header {r : Spi0Rx} (h : r.state = .header) :
    r.Valid ↔ r.frameReady = false ∧ r.buf.toList.head? = some syncByte ∧
      1 ≤ r.pos ∧ r.pos < 16 := by
  simp [Spi0Rx.Valid, h]

theorem Spi0Rx.valid_payload {r : Spi0Rx} (h : r.state = .payload) :
    r.Valid ↔ r.frameReady = false ∧ r.buf.toList.head? = some syncByte ∧
      isrPolicy.bodyLen (r.buf.toList.take hdrSize) = some (r.payloadLen.toNat + crc32Size) ∧
      16 ≤ r.pos ∧ r.pos < 20 + r.payloadLen.toNat := by
  simp [Spi0Rx.Valid, h]

theorem payloadLen_le {hdr : List Byte} {len : Nat}
    (h : isrPolicy.bodyLen hdr = some (len + crc32Size)) : len ≤ 4092 := by
  obtain ⟨_, _, hmax, hlen⟩ := (isrPolicy.bodyLen_eq_some_iff _ _).mp h
  have hmax' : lenField hdr ≤ 4092 := hmax
  omega

theorem head?_take {w : List Byte} {n : Nat} (hn : 1 ≤ n) : (w.take n).head? = w.head? := by
  rw [List.head?_take, if_neg (by omega)]

theorem Spi0Rx.sound_scan (r : Spi0Rx) (h : r.Valid) : isrPolicy.format.Sound r.scan := by
  have hsize : isrPolicy.format.hdrSize = 16 := rfl
  cases hs : r.state with
  | idle => simp [Spi0Rx.scan, hs, Format.Sound]
  | header =>
      obtain ⟨_, hopens, hone, hlt⟩ := (Spi0Rx.valid_header hs).mp h
      rw [Spi0Rx.scan_header hs]
      refine ⟨(head?_take hone).trans hopens, ?_⟩
      rw [hsize, List.length_take, Vector.length_toList]
      omega
  | payload =>
      obtain ⟨_, hopens, hann, hlow, hhigh⟩ := (Spi0Rx.valid_payload hs).mp h
      have hmax := payloadLen_le hann
      rw [Spi0Rx.scan_payload hs]
      refine ⟨?_, (head?_take (by decide)).trans hopens, hann, ?_⟩
      · rw [hsize, List.length_take, Vector.length_toList]
        decide
      · simp only [List.length_drop, List.length_take, Vector.length_toList, hdrSize, crc32Size]
        omega
  | complete => simp [Spi0Rx.scan, hs, Format.Sound]
  | error => simp [Spi0Rx.scan, hs, Format.Sound]

/-- Whether a report of the scanner is a frame the interrupt handler completes. -/
def isrAccepts : Signal Byte → Option (List Byte)
  | .rejected _ => none
  | .frame hdr body => if isrPolicy.bodyOk body then some (hdr ++ body) else none

/-- How the context follows one byte: the scanner has moved, and the context is
complete exactly when the scanner reports an acceptable frame, which the
buffer then holds. -/
structure Assembles (r : Spi0Rx) (s : Scan Byte) (sig : Option (Signal Byte)) : Prop where
  valid : r.Valid
  scan : r.scan = s
  complete : r.state = .complete ↔ (sig.bind isrAccepts).isSome = true
  frame : ∀ w, sig.bind isrAccepts = some w → r.buf.toList.take r.pos = w

theorem Assembles.of_silent {r : Spi0Rx} {s : Scan Byte} (hvalid : r.Valid) (hscan : r.scan = s)
    (hstate : r.state ≠ .complete) : Assembles r s none where
  valid := hvalid
  scan := hscan
  complete := by simp [hstate]
  frame := by simp

/-- A rejected header or frame leads to the error state. -/
theorem Assembles.of_error {r : Spi0Rx} {sig : Option (Signal Byte)} (hstate : r.state = .error)
    (hready : r.frameReady = false) (hsig : sig.bind isrAccepts = none) :
    Assembles r .idle sig where
  valid := by simp [Spi0Rx.Valid, hstate, hready]
  scan := by simp [Spi0Rx.scan, hstate]
  complete := by simp [hstate, hsig]
  frame := by simp [hsig]

theorem startFrame_assembles (s : Spi0) (b : Byte) (hb : b = syncByte)
    (hready : s.rx.frameReady = false) :
    Assembles (s.startFrame b).rx (.header [b]) none := by
  have hhead : (s.rx.buf.setIfInBounds 0 b).toList.head? = some syncByte := by
    rw [Vector.toList_setIfInBounds, List.head?_eq_getElem?, List.getElem?_set_self (by simp), hb]
  have hone := take_setIfInBounds_succ s.rx.buf 0 b (by omega)
  apply Assembles.of_silent
  · exact (Spi0Rx.valid_header rfl).mpr ⟨hready, hhead, le_refl 1, show 1 < 16 by omega⟩
  · exact (Spi0Rx.scan_header rfl).trans (congrArg Scan.header hone)
  · exact FrameState.noConfusion

/-- Idle and error wait for the sync byte. -/
theorem waiting_assembles (s s' : Spi0) (b : Byte)
    (hready : s.rx.frameReady = false) (hsync : b = syncByte → s' = s.startFrame b)
    (hother : b ≠ syncByte → s'.rx = s.rx)
    (hstate : s.rx.state = .idle ∨ s.rx.state = .error) :
    Assembles s'.rx (isrPolicy.format.next .idle b) (isrPolicy.format.signal .idle b) := by
  by_cases hb : b = syncByte
  · have hnext : isrPolicy.format.next .idle b = .header [b] := if_pos hb
    rw [hsync hb, hnext]
    exact startFrame_assembles s b hb hready
  · have hnext : isrPolicy.format.next .idle b = .idle := if_neg hb
    rw [hother hb, hnext]
    apply Assembles.of_silent
    · rcases hstate with hs | hs <;> simp [Spi0Rx.Valid, hs, hready]
    · rcases hstate with hs | hs <;> simp [Spi0Rx.scan, hs]
    · rcases hstate with hs | hs <;> simp [hs]

/-- The header checks of the handler decide as the format does. -/
theorem headerComplete_assembles (s : Spi0) (hpos : s.rx.pos = 16)
    (hready : s.rx.frameReady = false)
    (hopens : s.rx.buf.toList.head? = some syncByte) :
    (isrPolicy.bodyLen (s.rx.buf.toList.take 16) = none →
      Assembles s.headerComplete.rx .idle (some (.rejected (s.rx.buf.toList.take 16)))) ∧
    (∀ want, isrPolicy.bodyLen (s.rx.buf.toList.take 16) = some want →
      Assembles s.headerComplete.rx (.body (s.rx.buf.toList.take 16) [] want) none) := by
  have hfields : (s.rx.buf.toList.take 16).take 8 = s.rx.buf.toList.take 8 := by
    rw [List.take_take]
    rfl
  have hcrcField : crcField (s.rx.buf.toList.take 16) =
      leValue ((s.rx.buf.toList.drop 8).take 8) := by
    rw [crcField, List.drop_take, List.take_take]
    rfl
  have hlenField : lenField (s.rx.buf.toList.take 16) =
      leValue ((s.rx.buf.toList.drop 2).take 2) := by
    rw [lenField, List.drop_take, List.take_take]
    rfl
  have hread64 : (orBytes 0 0 ((s.rx.buf.toList.drop 8).take 8) : BitVec 64).toNat =
      crcField (s.rx.buf.toList.take 16) := by
    have h := orBytes_toNat (w := 64) 0 0 ((s.rx.buf.toList.drop 8).take 8) (by simp)
      (by simp)
    simpa [hcrcField] using h
  have hread16 : (extractPayloadLength s.rx.buf.toList).toNat =
      lenField (s.rx.buf.toList.take 16) := by
    have h := orBytes_toNat (w := 16) 0 0 ((s.rx.buf.toList.drop 2).take 2) (by simp)
      (by simp)
    simpa [hlenField, extractPayloadLength] using h
  have hcrc : validateHeaderCrc64 s.rx.buf.toList = true ↔
      crcField (s.rx.buf.toList.take 16) = (crc64 ((s.rx.buf.toList.take 16).take 8)).toNat := by
    rw [validateHeaderCrc64, decide_eq_true_eq, ← BitVec.toNat_inj, hread64, crc64Compute_eq,
      hfields]
    exact eq_comm
  have hbody (want : Nat) : isrPolicy.bodyLen (s.rx.buf.toList.take 16) = some want ↔
      validateHeaderCrc64 s.rx.buf.toList = true ∧
        (extractPayloadLength s.rx.buf.toList).toNat ≤ maxPayload ∧
          want = (extractPayloadLength s.rx.buf.toList).toNat + crc32Size := by
    rw [Policy.bodyLen_eq_some_iff, hcrc, hread16]
    simp [isrPolicy]
  unfold Spi0.headerComplete
  by_cases hok : validateHeaderCrc64 s.rx.buf.toList = true
  · rw [if_neg (by simp [hok])]
    dsimp only
    by_cases hmax : (extractPayloadLength s.rx.buf.toList).toNat > maxPayload
    · rw [if_pos hmax]
      refine ⟨fun _ => Assembles.of_error rfl hready rfl, ?_⟩
      intro want hwant
      have hle := ((hbody want).mp hwant).2.1
      omega
    · have hsome := (hbody _).mpr ⟨hok, by omega, rfl⟩
      rw [if_neg hmax]
      refine ⟨fun hnone => absurd (hsome.symm.trans hnone) (Option.some_ne_none _), ?_⟩
      intro want hwant
      rw [hsome, Option.some.injEq] at hwant
      subst hwant
      apply Assembles.of_silent
      · refine (Spi0Rx.valid_payload rfl).mpr ⟨hready, hopens, hsome, ?_, ?_⟩
        · exact hpos.ge
        · change s.rx.pos < 20 + _
          omega
      · refine (Spi0Rx.scan_payload rfl).trans ?_
        have hnil : (s.rx.buf.toList.take s.rx.pos).drop 16 = [] := by
          rw [hpos]
          exact List.drop_of_length_le (by simp)
        exact congrArg (fun got => Scan.body _ got _) hnil
      · exact FrameState.noConfusion
  · rw [if_pos (by simpa using hok)]
    refine ⟨fun _ => Assembles.of_error rfl hready rfl, ?_⟩
    intro want hwant
    exact absurd ((hbody want).mp hwant).1 hok

theorem onHeader_assembles (s : Spi0) (b : Byte) (hstate : s.rx.state = .header)
    (h : s.rx.Valid) :
    Assembles (s.onHeader b).rx (isrPolicy.format.next s.rx.scan b)
      (isrPolicy.format.signal s.rx.scan b) := by
  obtain ⟨hready, hopens, hone, hlt⟩ := (Spi0Rx.valid_header hstate).mp h
  have hsize : isrPolicy.format.hdrSize = 16 := rfl
  have hsize' : hdrSize = 16 := rfl
  have hgot : (s.rx.buf.toList.take s.rx.pos).length = s.rx.pos := by
    rw [List.length_take, Vector.length_toList]
    omega
  have htake := take_setIfInBounds_succ s.rx.buf s.rx.pos b (by omega)
  have hopens' : (s.storeByte b).rx.buf.toList.head? = some syncByte := by
    change (s.rx.buf.setIfInBounds s.rx.pos b).toList.head? = _
    rw [Vector.toList_setIfInBounds, List.head?_eq_getElem?,
      List.getElem?_set_ne (by omega), ← List.head?_eq_getElem?]
    exact hopens
  have hpos : (s.storeByte b).rx.pos = s.rx.pos + 1 := rfl
  rw [Spi0Rx.scan_header hstate]
  unfold Spi0.onHeader
  rw [hsize', if_pos hlt]
  dsimp only
  by_cases hmore : s.rx.pos + 1 < 16
  · obtain ⟨hnext, hsig⟩ := isrPolicy.format.next_header _ b (by rw [hgot, hsize]; exact hmore)
    rw [hnext, hsig, if_neg (by omega)]
    apply Assembles.of_silent
    · refine (Spi0Rx.valid_header (by exact hstate)).mpr ⟨hready, hopens', ?_, ?_⟩
      · omega
      · omega
    · exact (Spi0Rx.scan_header (by exact hstate)).trans (congrArg Scan.header htake)
    · change s.rx.state ≠ _
      rw [hstate]
      exact FrameState.noConfusion
  · have hlast : s.rx.pos + 1 = 16 := by omega
    have hfull : s.rx.buf.toList.take s.rx.pos ++ [b] =
        (s.storeByte b).rx.buf.toList.take 16 := by
      rw [← htake, hlast]
      rfl
    obtain ⟨hnone, hsome⟩ := isrPolicy.format.next_header_last _ b
      (by rw [hgot, hsize]; exact hmore)
    obtain ⟨hrejected, haccepted⟩ := headerComplete_assembles (s.storeByte b)
      (by omega) hready hopens'
    rw [hfull] at hnone hsome
    rw [if_pos (by omega)]
    cases hlen : isrPolicy.format.bodyLen ((s.storeByte b).rx.buf.toList.take 16) with
    | none =>
        rw [(hnone hlen).1, (hnone hlen).2]
        exact hrejected hlen
    | some want =>
        rw [(hsome want hlen).1, (hsome want hlen).2]
        exact haccepted want hlen

/-- The trailer check of the handler is the one of the policy. -/
theorem frameComplete_assembles (s : Spi0) (hdr body : List Byte)
    (hready : s.rx.frameReady = false)
    (hlen : body.length = s.rx.payloadLen.toNat + crc32Size)
    (hsize : hdr.length = hdrSize)
    (hbuf : s.rx.buf.toList.take (20 + s.rx.payloadLen.toNat) = hdr ++ body)
    (hpos : s.rx.pos = 20 + s.rx.payloadLen.toNat) :
    Assembles s.frameComplete.rx .idle (some (.frame hdr body)) := by
  have hsize' : hdr.length = 16 := hsize
  have hbody : (s.rx.buf.toList.drop 16).take (s.rx.payloadLen.toNat + 4) = body := by
    have hdrop : (s.rx.buf.toList.take (20 + s.rx.payloadLen.toNat)).drop 16 = body := by
      rw [hbuf]
      exact List.drop_left' hsize'
    have hcut : 20 + s.rx.payloadLen.toNat - 16 = s.rx.payloadLen.toNat + 4 := by omega
    rwa [List.drop_take, hcut] at hdrop
  have hcut : body.length - crc32Size = s.rx.payloadLen.toNat := by
    rw [hlen, Nat.add_sub_cancel]
  have hpayload : (s.rx.buf.toList.drop 16).take s.rx.payloadLen.toNat = bodyPayload body := by
    rw [bodyPayload, hcut, ← hbody, List.take_take, Nat.min_eq_left (by omega)]
  have htrailer : leValue ((s.rx.buf.toList.drop (16 + s.rx.payloadLen.toNat)).take 4) =
      bodyTrailer body := by
    rw [bodyTrailer, hcut, ← hbody, List.drop_take, List.drop_drop, Nat.add_sub_cancel_left]
  have hread : (orBytes 0 0 ((s.rx.buf.toList.drop (16 + s.rx.payloadLen.toNat)).take 4) :
      BitVec 32).toNat = bodyTrailer body := by
    have h := orBytes_toNat (w := 32) 0 0
      ((s.rx.buf.toList.drop (16 + s.rx.payloadLen.toNat)).take 4) (by simp)
      (by simp only [List.length_take]; omega)
    simpa [htrailer] using h
  have hcomputed : (if s.rx.payloadLen = 0 then crc32Compute []
      else crc32Compute ((s.rx.buf.toList.drop hdrSize).take s.rx.payloadLen.toNat)) =
      crc32 (bodyPayload body) := by
    rw [crc32Compute_eq, crc32Compute_eq, ← hpayload]
    split
    · next hzero => rw [hzero]; rfl
    · rfl
  have hcheck : validatePayloadCrc32 s.rx.buf.toList s.rx.payloadLen = true ↔
      isrPolicy.bodyOk body = true := by
    have hok : isrPolicy.bodyOk body = true ↔
        bodyTrailer body = (crc32 (bodyPayload body)).toNat := by
      simp [Policy.bodyOk, isrPolicy]
    rw [hok, validatePayloadCrc32, hcomputed, decide_eq_true_eq, ← BitVec.toNat_inj]
    rw [show hdrSize = 16 from rfl, hread]
    exact eq_comm
  unfold Spi0.frameComplete
  by_cases hok : isrPolicy.bodyOk body = true
  · have haccept : isrAccepts (.frame hdr body) = some (hdr ++ body) := if_pos hok
    rw [if_pos (hcheck.mpr hok)]
    exact
      { valid := rfl
        scan := rfl
        complete := by simp [haccept]
        frame := by
          intro w hw
          rw [Option.bind_some, haccept, Option.some.injEq] at hw
          rw [← hw, ← hbuf, ← hpos] }
  · have hreject : isrAccepts (.frame hdr body) = none := if_neg hok
    rw [if_neg (fun h => hok (hcheck.mp h))]
    exact Assembles.of_error rfl hready (by simp [hreject])

theorem onPayload_assembles (s : Spi0) (b : Byte) (hstate : s.rx.state = .payload)
    (h : s.rx.Valid) :
    Assembles (s.onPayload b).rx (isrPolicy.format.next s.rx.scan b)
      (isrPolicy.format.signal s.rx.scan b) := by
  obtain ⟨hready, hopens, hann, hlow, hhigh⟩ := (Spi0Rx.valid_payload hstate).mp h
  have hmax := payloadLen_le hann
  have hsize : hdrSize = 16 := rfl
  have hcrcSize : crc32Size = 4 := rfl
  have hgot : ((s.rx.buf.toList.take s.rx.pos).drop 16).length = s.rx.pos - 16 := by
    rw [List.length_drop, List.length_take, Vector.length_toList]
    omega
  have htake := take_setIfInBounds_succ s.rx.buf s.rx.pos b (by omega)
  have hlenBuf : (s.rx.buf.toList.take s.rx.pos).length = s.rx.pos := by
    rw [List.length_take, Vector.length_toList]
    omega
  have hhdr : (s.storeByte b).rx.buf.toList.take 16 = s.rx.buf.toList.take 16 := by
    change (s.rx.buf.setIfInBounds s.rx.pos b).toList.take 16 = _
    rw [Vector.toList_setIfInBounds, List.take_set_of_le hlow]
  have hdrop : ((s.storeByte b).rx.buf.toList.take (s.rx.pos + 1)).drop 16 =
      (s.rx.buf.toList.take s.rx.pos).drop 16 ++ [b] := by
    change ((s.rx.buf.setIfInBounds s.rx.pos b).toList.take (s.rx.pos + 1)).drop 16 = _
    rw [htake, List.drop_append_of_le_length (by omega)]
  rw [Spi0Rx.scan_payload hstate]
  unfold Spi0.onPayload
  rw [hsize, if_pos (by omega)]
  dsimp only
  by_cases hmore : s.rx.pos + 1 < 20 + s.rx.payloadLen.toNat
  · obtain ⟨hnext, hsig⟩ := isrPolicy.format.next_body (s.rx.buf.toList.take 16) _
      (s.rx.payloadLen.toNat + crc32Size) b (by rw [hgot]; omega)
    rw [hnext, hsig, if_neg (by change ¬ s.rx.pos + 1 = 16 + s.rx.payloadLen.toNat + _; omega)]
    apply Assembles.of_silent
    · refine (Spi0Rx.valid_payload (by exact hstate)).mpr ⟨hready, ?_, ?_, ?_, ?_⟩
      · rw [← head?_take (show 1 ≤ 16 by omega), hhdr, head?_take (by omega)]
        exact hopens
      · rw [hsize, hhdr]
        exact hann
      · change 16 ≤ s.rx.pos + 1
        omega
      · exact hmore
    · refine (Spi0Rx.scan_payload (by exact hstate)).trans ?_
      rw [hsize, hhdr]
      exact congrArg (fun got => Scan.body _ got _) hdrop
    · change s.rx.state ≠ _
      rw [hstate]
      exact FrameState.noConfusion
  · have hlast : s.rx.pos + 1 = 20 + s.rx.payloadLen.toNat := by omega
    obtain ⟨hnext, hsig⟩ := isrPolicy.format.next_body_last (s.rx.buf.toList.take 16) _
      (s.rx.payloadLen.toNat + crc32Size) b (by rw [hgot]; omega)
    rw [hnext, hsig, if_pos (by change s.rx.pos + 1 = 16 + s.rx.payloadLen.toNat + _; omega)]
    apply frameComplete_assembles (s.storeByte b)
    · exact hready
    · change _ = s.rx.payloadLen.toNat + crc32Size
      rw [List.length_append, hgot, List.length_singleton]
      omega
    · rw [List.length_take, Vector.length_toList]
      rfl
    · change (s.rx.buf.setIfInBounds s.rx.pos b).toList.take (20 + s.rx.payloadLen.toNat) = _
      have hsplit := List.take_append_drop 16 (s.rx.buf.toList.take s.rx.pos)
      rw [List.take_take, Nat.min_eq_left hlow] at hsplit
      rw [← hlast, htake, ← List.append_assoc, hsplit]
    · exact hlast

/-- One byte outside the complete state is one step of the scanner. -/
theorem processByte_assembles (s : Spi0) (b : Byte) (h : s.rx.Valid)
    (hne : s.rx.state ≠ .complete) :
    Assembles (s.processByte b).rx (isrPolicy.format.next s.rx.scan b)
      (isrPolicy.format.signal s.rx.scan b) := by
  have hready (hs : s.rx.state = .idle ∨ s.rx.state = .error) : s.rx.frameReady = false := by
    rcases hs with hs | hs <;> simpa [Spi0Rx.Valid, hs] using h
  have hidle (hs : s.rx.state = .idle ∨ s.rx.state = .error) : s.rx.scan = .idle := by
    rcases hs with hs | hs <;> simp [Spi0Rx.scan, hs]
  unfold Spi0.processByte
  dsimp only
  generalize hcounted : Spi0.mk s.rx s.tx _ = t
  have hrx : t.rx = s.rx := by rw [← hcounted]
  cases hs : s.rx.state with
  | idle =>
      rw [hidle (.inl hs)]
      apply waiting_assembles t
      · rw [hrx]
        exact hready (.inl hs)
      · intro hb
        exact if_pos (decide_eq_true hb)
      · intro hb
        rw [if_neg (by simp [validateSyncByte, hb])]
        exact hrx.symm
      · rw [hrx]
        exact .inl hs
  | header =>
      rw [← hrx] at h hs ⊢
      exact onHeader_assembles t b hs h
  | payload =>
      rw [← hrx] at h hs ⊢
      exact onPayload_assembles t b hs h
  | complete => exact absurd hs hne
  | error =>
      rw [hidle (.inr hs)]
      apply waiting_assembles t
      · rw [hrx]
        exact hready (.inr hs)
      · intro hb
        exact if_pos (decide_eq_true hb)
      · intro hb
        dsimp only
        rw [if_neg (by simp [validateSyncByte, hb])]
      · rw [hrx]
        exact .inr hs

/-- A complete frame stays until it is released. -/
theorem processByte_complete (s : Spi0) (b : Byte) (h : s.rx.state = .complete) :
    (s.processByte b).rx = s.rx := by
  simp [Spi0.processByte, h]

end GhostBlade.Firmware
