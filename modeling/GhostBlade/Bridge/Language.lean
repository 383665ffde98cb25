import GhostBlade.Bridge.RoundTrip
import GhostBlade.Firmware.Spi0IsrScan

/-!
The byte strings the four ends of the bridge take as one frame: what the
driver's builder writes, what the driver's checker accepts, and what each of
the firmware's two receivers takes from its first byte to its last. Each of the
four languages is determined; they differ in the reserved field and in the
trailer of an empty payload.
-/

namespace GhostBlade.Bridge

open GhostBlade.Library GhostBlade.Library.Framing GhostBlade.Protocol GhostBlade.Host
open GhostBlade.Firmware

/-- The driver's builder writes `w`. -/
def Built (w : List Byte) : Prop := ∃ r : Request, w = r.encoding

/-- The driver's checker accepts the whole of `w`. -/
def HostAccepts (w : List Byte) : Prop :=
  ∃ r, apexValidateFrame w = .ok r ∧ 20 + r.payload.length = w.length

/-- The protocol handler leaves idle with the first byte of `w`, stays outside
until the last one and dispatches a frame on it. -/
def MainTakes (p : SpiProtocol) (w : List Byte) : Prop :=
  (∀ u v, w = u ++ v → u ≠ [] → v ≠ [] → (p.feed u).rx.state ≠ .idle) ∧
    ∃ u b d, w = u ++ [b] ∧ (p.feed w).dispatched = (p.feed u).dispatched ++ [d]

/-- The interrupt handler's context after a word. -/
def isrFeed (s : Spi0) (w : List Byte) : Spi0 := w.foldl Spi0.processByte s

/-- The interrupt handler assembles from the first byte of `w` on and completes
a frame on the last one. -/
def IsrTakes (s : Spi0) (w : List Byte) : Prop :=
  (∀ u v, w = u ++ v → u ≠ [] → v ≠ [] →
    (isrFeed s u).rx.state = .header ∨ (isrFeed s u).rx.state = .payload) ∧
      (isrFeed s w).rx.state = .complete

theorem isrFeed_append (s : Spi0) (u v : List Byte) :
    isrFeed s (u ++ v) = isrFeed (isrFeed s u) v :=
  List.foldl_append

theorem built_iff (w : List Byte) :
    Built w ↔ ∃ cmd payload, payload.length ≤ maxPayload ∧
      w = rawFrame cmd payload 0 (crc32 payload) := by
  constructor
  · rintro ⟨r, rfl⟩
    exact ⟨r.cmd, r.payload, r.payload_le, r.encoding_eq⟩
  · rintro ⟨cmd, payload, hlen, rfl⟩
    exact ⟨Request.of cmd payload hlen, (Request.of cmd payload hlen).encoding_eq.symm⟩

theorem hostAccepts_iff (w : List Byte) :
    HostAccepts w ↔ ∃ (cmd : Byte) (payload : List Byte) (reserved trailer : BitVec 32),
      payload.length ≤ maxPayload ∧ w = rawFrame cmd payload reserved trailer ∧
        (payload ≠ [] → trailer = crc32 payload) := by
  constructor
  · rintro ⟨⟨cmd, payload⟩, hok, hlen⟩
    obtain ⟨hmax, reserved, trailer, rest, hw, htrailer⟩ := (apexValidateFrame_ok_iff w _).mp hok
    have hrest : rest = [] := by
      rw [hw, List.length_append, rawFrame_length] at hlen
      apply List.eq_nil_of_length_eq_zero
      dsimp only at hlen
      omega
    rw [hrest, List.append_nil] at hw
    exact ⟨cmd, payload, reserved, trailer, hmax, hw, htrailer⟩
  · rintro ⟨cmd, payload, reserved, trailer, hmax, rfl, htrailer⟩
    refine ⟨⟨cmd, payload⟩, ?_, ?_⟩
    · apply (apexValidateFrame_ok_iff _ _).mpr
      exact ⟨hmax, reserved, trailer, [], by rw [List.append_nil], htrailer⟩
    · rw [rawFrame_length]

/-- Idle is idle for the scanner as well. -/
theorem feed_idle_iff (p : SpiProtocol) (hidle : p.rx.state = .idle) (u : List Byte) :
    (p.feed u).rx.state = .idle ↔ mainPolicy.format.scan .idle u = .idle := by
  have hfollows := feed_follows p u (RxCtx.valid_of_idle hidle)
  rw [RxCtx.scan_of_idle hidle] at hfollows
  rw [← hfollows.scan]
  exact ⟨RxCtx.scan_of_idle, RxCtx.idle_of_scan hfollows.valid⟩

/-- A byte is dispatched on exactly when the scanner reports a good frame. -/
theorem feed_dispatches_iff (p : SpiProtocol) (hidle : p.rx.state = .idle) (u : List Byte)
    (b : Byte) :
    (∃ d, (p.feed (u ++ [b])).dispatched = (p.feed u).dispatched ++ [d]) ↔
      ∃ hdr body, mainPolicy.format.signal (mainPolicy.format.scan .idle u) b =
        some (.frame hdr body) ∧ mainPolicy.bodyOk body = true := by
  have hu := feed_follows p u (RxCtx.valid_of_idle hidle)
  rw [RxCtx.scan_of_idle hidle] at hu
  have hb := rxByte_follows (p.feed u) b hu.valid
  rw [hu.scan] at hb
  have hdisp : (p.feed (u ++ [b])).dispatched = (p.feed u).dispatched ++
      (mainPolicy.format.signal (mainPolicy.format.scan .idle u) b).toList.filterMap
        mainAccepts := by
    rw [feed_append]
    exact hb.dispatched
  rw [hdisp]
  simp only [List.append_cancel_left_eq]
  cases mainPolicy.format.signal (mainPolicy.format.scan .idle u) b with
  | none => simp
  | some sig =>
      cases sig with
      | rejected hdr =>
          have hnone : mainAccepts (.rejected hdr) = none := rfl
          simp [hnone]
      | frame hdr body =>
          by_cases hok : mainPolicy.bodyOk body = true <;> simp [mainAccepts, hok]

theorem mainTakes_iff (p : SpiProtocol) (hidle : p.rx.state = .idle) (w : List Byte) :
    MainTakes p w ↔ mainPolicy.Takes w := by
  constructor
  · rintro ⟨hbusy, u, b, d, rfl, hdisp⟩
    obtain ⟨hdr, body, hsig, hok⟩ := (feed_dispatches_iff p hidle u b).mp ⟨d, hdisp⟩
    refine ⟨hdr, body, ?_, ⟨u, b, rfl, hsig⟩, hok⟩
    intro x y heq hx hy
    exact mt (feed_idle_iff p hidle x).mpr (hbusy x y heq hx hy)
  · rintro ⟨hdr, body, hbusy, ⟨u, b, rfl, hsig⟩, hok⟩
    refine ⟨?_, ?_⟩
    · intro x y heq hx hy
      exact mt (feed_idle_iff p hidle x).mp (hbusy x y heq hx hy)
    · obtain ⟨d, hdisp⟩ := (feed_dispatches_iff p hidle u b).mpr ⟨hdr, body, hsig, hok⟩
      exact ⟨u, b, d, rfl, hdisp⟩

/-- While it is not stopped by a complete frame, the interrupt handler's context
follows the scanner. -/
theorem isrFeed_scan (s : Spi0) (w : List Byte) (hvalid : s.rx.Valid)
    (hne : ∀ u v, w = u ++ v → v ≠ [] → (isrFeed s u).rx.state ≠ .complete) :
    (isrFeed s w).rx.Valid ∧
      (isrFeed s w).rx.scan = isrPolicy.format.scan s.rx.scan w := by
  induction w generalizing s with
  | nil => exact ⟨hvalid, rfl⟩
  | cons b w ih =>
      have hstep := processByte_assembles s b hvalid (hne [] (b :: w) rfl (by simp))
      have hrest := ih (s.processByte b) hstep.valid (fun u v heq hv =>
        hne (b :: u) v (by rw [heq]; rfl) hv)
      rw [hstep.scan] at hrest
      exact hrest

/-- Collecting a header or a body is what a busy scanner does. -/
theorem collecting_iff (r : Spi0Rx) :
    r.state = .header ∨ r.state = .payload ↔ r.scan ≠ .idle := by
  unfold Spi0Rx.scan
  cases r.state <;> simp

theorem isrTakes_of_takes (w : List Byte) (h : isrPolicy.Takes w) : IsrTakes Spi0.zero w := by
  obtain ⟨hdr, body, hbusy, ⟨u, b, rfl, hsig⟩, hok⟩ := h
  -- every prefix in front of the last byte is still being collected
  have hprefix (x y : List Byte) (heq : u ++ [b] = x ++ y) (hy : y ≠ []) :
      (isrFeed Spi0.zero x).rx.Valid ∧
        (isrFeed Spi0.zero x).rx.scan = isrPolicy.format.scan .idle x ∧
          (isrFeed Spi0.zero x).rx.state ≠ .complete := by
    induction x using List.reverseRecOn generalizing y with
    | nil => exact ⟨rfl, rfl, FrameState.noConfusion⟩
    | append_singleton x c ih =>
        obtain ⟨hval, hscan, hne⟩ := ih (c :: y) (by simpa using heq) (by simp)
        have hstep := processByte_assembles (isrFeed Spi0.zero x) c hval hne
        have hscan' : (isrFeed Spi0.zero (x ++ [c])).rx.scan =
            isrPolicy.format.scan .idle (x ++ [c]) := by
          rw [isrFeed_append, isrPolicy.format.scan_append, ← hscan]
          exact hstep.scan
        have hcollect := hbusy (x ++ [c]) y heq (by simp) hy
        rw [← hscan'] at hcollect
        have hval' : (isrFeed Spi0.zero (x ++ [c])).rx.Valid := by
          rw [isrFeed_append]
          exact hstep.valid
        refine ⟨hval', hscan', ?_⟩
        rcases (collecting_iff _).mpr hcollect with hs | hs <;> simp [hs]
  refine ⟨?_, ?_⟩
  · intro x y heq hx hy
    obtain ⟨hval, hscan, _⟩ := hprefix x y heq hy
    apply (collecting_iff _).mpr
    rw [hscan]
    exact hbusy x y heq hx hy
  · obtain ⟨hval, hscan, hne⟩ := hprefix u [b] rfl (by simp)
    have hstep := processByte_assembles (isrFeed Spi0.zero u) b hval hne
    rw [hscan, hsig] at hstep
    rw [isrFeed_append]
    apply hstep.complete.mpr
    simp [isrAccepts, hok]

theorem takes_of_isrTakes (w : List Byte) (h : IsrTakes Spi0.zero w) : isrPolicy.Takes w := by
  obtain ⟨hcollect, hcomplete⟩ := h
  have hne (u v : List Byte) (heq : w = u ++ v) (hv : v ≠ []) :
      (isrFeed Spi0.zero u).rx.state ≠ .complete := by
    by_cases hu : u = []
    · rw [hu]
      exact FrameState.noConfusion
    · rcases hcollect u v heq hu hv with hs | hs <;> simp [hs]
  have hprefix (u v : List Byte) (heq : w = u ++ v) (hv : v ≠ []) :=
    isrFeed_scan Spi0.zero u rfl (fun x y hxy hy =>
      hne x (y ++ v) (by rw [heq, hxy, List.append_assoc]) (by simp [hy]))
  have hlast : w ≠ [] := by
    rintro rfl
    exact FrameState.noConfusion hcomplete
  obtain ⟨u, b, rfl⟩ : ∃ u b, w = u ++ [b] :=
    ⟨w.dropLast, w.getLast hlast, (List.dropLast_append_getLast hlast).symm⟩
  obtain ⟨hval, hscan⟩ := hprefix u [b] rfl (by simp)
  have hstep := processByte_assembles (isrFeed Spi0.zero u) b hval (hne u [b] rfl (by simp))
  rw [hscan] at hstep
  rw [isrFeed_append] at hcomplete
  have hsome := hstep.complete.mp hcomplete
  cases hsig : isrPolicy.format.signal (isrPolicy.format.scan Spi0.zero.rx.scan u) b with
  | none => simp [hsig] at hsome
  | some sig =>
      cases sig with
      | rejected hdr => simp [hsig, isrAccepts] at hsome
      | frame hdr body =>
          have hok : isrPolicy.bodyOk body = true := by
            by_contra hno
            simp [hsig, isrAccepts, hno] at hsome
          refine ⟨hdr, body, ?_, ⟨u, b, rfl, hsig⟩, hok⟩
          intro x y heq hx hy
          obtain ⟨hval', hscan'⟩ := hprefix x y heq hy
          have hbusy := (collecting_iff _).mp (hcollect x y heq hx hy)
          rw [hscan'] at hbusy
          exact hbusy

theorem isrTakes_iff (w : List Byte) : IsrTakes Spi0.zero w ↔ isrPolicy.Takes w :=
  ⟨takes_of_isrTakes w, isrTakes_of_takes w⟩

/-- A frame on which the receivers disagree: the payload checks out where it is
checked, but the reserved field is not zero, or the trailer behind an empty
payload is wrong. -/
def Disputed (w : List Byte) : Prop :=
  ∃ (cmd : Byte) (payload : List Byte) (reserved trailer : BitVec 32),
    payload.length ≤ maxPayload ∧ w = rawFrame cmd payload reserved trailer ∧
      (payload ≠ [] → trailer = crc32 payload) ∧ (reserved ≠ 0 ∨ trailer ≠ crc32 payload)

/-- A disputed frame is accepted by the driver's checker but written by no
builder. -/
theorem disputed_splits (w : List Byte) (h : Disputed w) : HostAccepts w ∧ ¬ Built w := by
  obtain ⟨cmd, payload, reserved, trailer, hlen, hw, htrailer, hdiff⟩ := h
  have hmax : maxPayload = 4092 := rfl
  refine ⟨(hostAccepts_iff w).mpr ⟨cmd, payload, reserved, trailer, hlen, hw, htrailer⟩, ?_⟩
  intro hbuilt
  obtain ⟨cmd', payload', hlen', hw'⟩ := (built_iff w).mp hbuilt
  obtain ⟨_, hpayload, hreserved, htrailer'⟩ :=
    rawFrame_inj (by omega) (by omega) (hw.symm.trans hw')
  rcases hdiff with hdiff | hdiff
  · exact hdiff hreserved
  · exact hdiff (by rw [htrailer', hpayload])

/-- The four ends of the bridge agree on a byte string exactly when it is no
disputed frame. -/
theorem receivers_agree_iff (p : SpiProtocol) (hidle : p.rx.state = .idle) (w : List Byte) :
    [Built w, HostAccepts w, MainTakes p w, IsrTakes Spi0.zero w].TFAE ↔ ¬ Disputed w := by
  constructor
  · intro htfae hdisp
    obtain ⟨haccepts, hnot⟩ := disputed_splits w hdisp
    exact hnot ((htfae.out 1 0).mp haccepts)
  · intro hnot
    have hraw (cmd : Byte) (payload : List Byte) (reserved trailer : BitVec 32)
        (hlen : payload.length ≤ maxPayload) (hw : w = rawFrame cmd payload reserved trailer)
        (htrailer : payload ≠ [] → trailer = crc32 payload) : Built w := by
      have hboth : reserved = 0 ∧ trailer = crc32 payload := by
        by_contra hdiff
        refine hnot ⟨cmd, payload, reserved, trailer, hlen, hw, htrailer, ?_⟩
        rwa [not_and_or] at hdiff
      rw [hboth.1, hboth.2] at hw
      exact (built_iff w).mpr ⟨cmd, payload, hlen, hw⟩
    tfae_have 1 → 2 := by
      intro hbuilt
      obtain ⟨cmd, payload, hlen, hw⟩ := (built_iff w).mp hbuilt
      exact (hostAccepts_iff w).mpr ⟨cmd, payload, 0, crc32 payload, hlen, hw, fun _ => rfl⟩
    tfae_have 1 → 3 := by
      intro hbuilt
      obtain ⟨cmd, payload, hlen, hw⟩ := (built_iff w).mp hbuilt
      exact (mainTakes_iff p hidle w).mpr ((mainPolicy.takes_iff w).mpr
        ⟨cmd, payload, 0, crc32 payload, hlen, hw, fun _ => rfl, fun _ => rfl⟩)
    tfae_have 1 → 4 := by
      intro hbuilt
      obtain ⟨cmd, payload, hlen, hw⟩ := (built_iff w).mp hbuilt
      exact (isrTakes_iff w).mpr ((isrPolicy.takes_iff w).mpr
        ⟨cmd, payload, 0, crc32 payload, hlen, hw, fun _ => rfl, fun _ => rfl⟩)
    tfae_have 2 → 1 := by
      intro haccepts
      obtain ⟨cmd, payload, reserved, trailer, hlen, hw, htrailer⟩ :=
        (hostAccepts_iff w).mp haccepts
      exact hraw cmd payload reserved trailer hlen hw htrailer
    tfae_have 3 → 1 := by
      intro htakes
      obtain ⟨cmd, payload, reserved, trailer, hlen, hw, _, htrailer⟩ :=
        (mainPolicy.takes_iff w).mp ((mainTakes_iff p hidle w).mp htakes)
      exact hraw cmd payload reserved trailer hlen hw fun hne => htrailer (.inl hne)
    tfae_have 4 → 1 := by
      intro htakes
      obtain ⟨cmd, payload, reserved, trailer, hlen, hw, _, htrailer⟩ :=
        (isrPolicy.takes_iff w).mp ((isrTakes_iff w).mp htakes)
      exact hraw cmd payload reserved trailer hlen hw fun hne => htrailer (.inl hne)
    tfae_finish

theorem receivers_agree_boot :
    [Built (encode cmdNop []), HostAccepts (encode cmdNop []),
      MainTakes (boot true true true).proto (encode cmdNop []),
      IsrTakes Spi0.zero (encode cmdNop [])].TFAE ↔ ¬ Disputed (encode cmdNop []) :=
  receivers_agree_iff (boot true true true).proto rfl (encode cmdNop [])

/-- A NOP frame whose reserved field is 1 and whose checksums are right is
accepted by the driver, but no builder writes it. -/
theorem receivers_disagree :
    ¬ [Built (rawFrame cmdNop [] 1 (crc32 [])), HostAccepts (rawFrame cmdNop [] 1 (crc32 [])),
      MainTakes (boot true true true).proto (rawFrame cmdNop [] 1 (crc32 [])),
      IsrTakes Spi0.zero (rawFrame cmdNop [] 1 (crc32 []))].TFAE := by
  intro htfae
  obtain ⟨haccepts, hnot⟩ := disputed_splits (rawFrame cmdNop [] 1 (crc32 []))
    ⟨cmdNop, [], 1, crc32 [], by decide, rfl, fun _ => rfl, .inl (by decide)⟩
  exact hnot ((htfae.out 1 0).mp haccepts)

end GhostBlade.Bridge
