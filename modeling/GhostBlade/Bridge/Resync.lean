import GhostBlade.Bridge.RoundTrip
import GhostBlade.Firmware.Spi0IsrScan
import GhostBlade.Library.Resync

/-!
Finding the frame boundaries again. Whatever either receiver has taken in, one
frame is now sent to it over and over. It locks on the copies exactly when the
walk from header to header, through the bytes it still holds and the copies
behind them, comes to a place where the stream spells the frame. A frame whose
only sync byte is its first is always found; one that carries sync bytes inside
can keep both receivers out of step for ever.
-/

namespace GhostBlade.Bridge

open GhostBlade.Library GhostBlade.Library.Framing GhostBlade.Protocol GhostBlade.Host
open GhostBlade.Firmware

/-- One byte of the interrupt handler, a complete frame being fetched and
released at once. -/
def serveByte (s : Spi0 × List (List Byte)) (b : Byte) : Spi0 × List (List Byte) :=
  let t := s.1.processByte b
  match t.rxGetFrame with
  | some frame => (t.rxReleaseFrame, s.2 ++ [frame])
  | none => (t, s.2)

/-- The handler after a word, with the frames it has delivered. -/
def serve (s : Spi0) (w : List Byte) : Spi0 × List (List Byte) := w.foldl serveByte (s, [])

/-- Between two bytes the handler never sits on a complete frame. -/
structure Released (s : Spi0) : Prop where
  valid : s.rx.Valid
  fetched : s.rx.state ≠ .complete

theorem serveByte_follows (s : Spi0) (out : List (List Byte)) (b : Byte) (h : Released s) :
    Released (serveByte (s, out) b).1 ∧
      (serveByte (s, out) b).1.rx.scan = isrPolicy.format.next s.rx.scan b ∧
      (serveByte (s, out) b).2 =
        out ++ ((isrPolicy.format.signal s.rx.scan b).bind isrAccepts).toList := by
  have hstep := processByte_assembles s b h.valid h.fetched
  generalize htaken : (isrPolicy.format.signal s.rx.scan b).bind isrAccepts = taken at hstep
  unfold serveByte
  dsimp only
  generalize s.processByte b = t at hstep ⊢
  have hready (hs : t.rx.state ≠ .complete) : t.rx.frameReady = false := by
    have hval := hstep.valid
    unfold Spi0Rx.Valid at hval
    cases hstate : t.rx.state with
    | complete => exact absurd hstate hs
    | idle => simpa [hstate] using hval
    | error => simpa [hstate] using hval
    | header => exact (by simpa [hstate] using hval : _ ∧ _).1
    | payload => exact (by simpa [hstate] using hval : _ ∧ _).1
  cases taken with
  | none =>
      have hne : t.rx.state ≠ .complete := by
        intro hs
        have hsome := hstep.complete.mp hs
        rw [htaken] at hsome
        exact Bool.noConfusion hsome
      rw [Spi0.rxGetFrame, hready hne]
      exact ⟨⟨hstep.valid, hne⟩, hstep.scan, (List.append_nil _).symm⟩
  | some w =>
      have hs : t.rx.state = .complete := hstep.complete.mpr (by rw [htaken]; rfl)
      have hval := hstep.valid
      simp only [Spi0Rx.Valid, hs] at hval
      have hidle : t.rx.scan = .idle := by simp [Spi0Rx.scan, hs]
      rw [Spi0.rxGetFrame, hval, if_pos rfl, hstep.frame w htaken]
      refine ⟨⟨rfl, FrameState.noConfusion⟩, ?_, rfl⟩
      rw [← hstep.scan, hidle]
      rfl

/-- The frames delivered during a word are those the scanner reports and the
policy accepts. -/
theorem serve_follows (s : Spi0) (w : List Byte) (h : Released s) :
    Released (serve s w).1 ∧
      (serve s w).1.rx.scan = isrPolicy.format.scan s.rx.scan w ∧
      (serve s w).2 = (isrPolicy.format.signals s.rx.scan w).filterMap isrAccepts := by
  have hrun (out : List (List Byte)) :
      Released (w.foldl serveByte (s, out)).1 ∧
        (w.foldl serveByte (s, out)).1.rx.scan = isrPolicy.format.scan s.rx.scan w ∧
        (w.foldl serveByte (s, out)).2 =
          out ++ (isrPolicy.format.signals s.rx.scan w).filterMap isrAccepts := by
    induction w generalizing s out with
    | nil => exact ⟨h, rfl, by simp⟩
    | cons b w ih =>
        obtain ⟨hopen, hscan, hout⟩ := serveByte_follows s out b h
        obtain ⟨hopen', hscan', hout'⟩ := ih (serveByte (s, out) b).1 hopen (serveByte (s, out) b).2
        rw [hscan] at hscan' hout'
        refine ⟨hopen', hscan', ?_⟩
        rw [List.foldl_cons, hout', hout, Format.signals_cons, List.filterMap_append,
          List.append_assoc]
        cases isrPolicy.format.signal s.rx.scan b with
        | none => rfl
        | some sig => cases hsig : isrAccepts sig <;> simp [hsig]
  exact hrun []

/-- What of a request's frame a receiver looks at: all of it, except that one
that ignores the trailer of an empty payload looks at the header alone. -/
def seenBy (P : Policy) (r : Request) : List Byte :=
  if P.emptyTrailer = false ∧ r.payload = [] then header r.cmd 0 0
  else r.encoding

/-- The frame a receiver cuts out is taken for the request. -/
def TakenFor (P : Policy) (r : Request) (hdr body : List Byte) : Prop :=
  hdr = header r.cmd r.payload.length 0 ∧ bodyPayload body = r.payload ∧ P.bodyOk body = true

/-- A checked body is the request's payload and its trailer. -/
theorem body_of_taken (P : Policy) (r : Request) (body : List Byte)
    (hlen : body.length = r.payload.length + crc32Size) (hpayload : bodyPayload body = r.payload)
    (hok : P.bodyOk body = true) (hchecked : ¬ (P.emptyTrailer = false ∧ r.payload = [])) :
    body = r.payload ++ leBytes 4 (crc32 r.payload).toNat := by
  have htrailer : bodyTrailer body = (crc32 r.payload).toNat := by
    unfold Policy.bodyOk at hok
    rw [hpayload, decide_eq_true_eq] at hok
    exact hok.resolve_left hchecked
  have hsplit := List.take_append_drop (body.length - crc32Size) body
  have hdrop : (body.drop (body.length - crc32Size)).length = 4 := by
    simp only [List.length_drop, hlen, crc32Size]
    omega
  have hval := leBytes_leValue (body.drop (body.length - crc32Size))
  rw [hdrop] at hval
  rw [← htrailer, ← hpayload, bodyTrailer, hval]
  exact hsplit.symm

/-- The stream spells a frame taken for the request at `q` exactly when it
shows there what the receiver looks at. -/
theorem taken_at_iff (P : Policy) (g : Nat → Byte) (q : Nat) (r : Request) :
    (∃ hdr body, P.format.FrameAt g q hdr body ∧ TakenFor P r hdr body) ↔
      window g q (seenBy P r).length = seenBy P r := by
  have hfits := (P.fits_encode r.cmd r.payload r.payload_le).1
  have hsize : P.format.hdrSize = 16 := rfl
  have hann : P.format.bodyLen (header r.cmd r.payload.length 0) =
      some (r.payload.length + crc32Size) := by
    rw [hfits.announces]
    simp [crc32Size]
  unfold seenBy
  split
  · next hbare =>
    obtain ⟨hpolicy, hempty⟩ := hbare
    constructor
    · rintro ⟨hdr, body, hat, hhdr, _, _⟩
      have hwin := hat.header
      rw [hhdr, hempty] at hwin
      rw [header_length]
      exact hwin
    · intro hwin
      rw [header_length] at hwin
      refine ⟨header r.cmd r.payload.length 0, window g (q + 16) 4, ?_, rfl, ?_, ?_⟩
      · refine ⟨?_, ?_, by rw [window_length, hsize]⟩
        · rw [hempty]
          exact hwin
        · rw [hann, hempty, window_length]
          rfl
      · simp [bodyPayload, crc32Size, hempty]
      · simp [Policy.bodyOk, bodyPayload, crc32Size, hpolicy]
  · next hfull =>
    rw [r.encoding_eq]
    have hencode : encode r.cmd r.payload =
        header r.cmd r.payload.length 0 ++ (r.payload ++ leBytes 4 (crc32 r.payload).toNat) := rfl
    have hlen : (encode r.cmd r.payload).length = 16 + (r.payload.length + 4) := by
      rw [encode_length]
      omega
    rw [hlen, window_add, hencode]
    constructor
    · rintro ⟨hdr, body, hat, rfl, hpayload, hok⟩
      have hwant := hat.announces
      rw [hann, Option.some.injEq] at hwant
      have hparts := body_of_taken P r body hwant.symm hpayload hok hfull
      have hcontent := hat.content
      rw [← hwant] at hcontent
      exact congrArg₂ (· ++ ·) hat.header (hcontent.trans hparts)
    · intro hwin
      obtain ⟨hhdr, hbody⟩ := List.append_inj hwin (by simp [hdrSize])
      refine ⟨_, _, ⟨hhdr, ?_, ?_⟩, rfl, bodyPayload_append _ _,
        (P.fits_encode r.cmd r.payload r.payload_le).2⟩
      · exact hfits.announces
      · rw [hsize, List.length_append, leBytes_length]
        exact hbody

/-- The walk through the held bytes and endless copies of the request's frame
comes to a place where the stream shows what the receiver looks at. -/
def Locks (P : Policy) (held : List Byte) (r : Request) : Prop :=
  ∃ q, P.format.Starts (followedBy held r.encoding 0) 0 q ∧
    window (followedBy held r.encoding 0) q (seenBy P r).length = seenBy P r

/-- A receiver that takes exactly the reported frames that carry the request
does so after finitely many copies exactly when its walk locks. -/
theorem locks_iff (P : Policy) (s : Scan Byte) (hs : P.format.Sound s) (r : Request) :
    (∃ k hdr body, .frame hdr body ∈ P.format.signals s (List.replicate k r.encoding).flatten ∧
        TakenFor P r hdr body) ↔ Locks P s.held r := by
  have hne : r.encoding ≠ [] := by
    rw [r.encoding_eq]
    exact encode_ne_nil r.cmd r.payload
  have hcopies (hdr body : List Byte) := P.format.copies_iff s hs r.encoding hne 0 hdr body
  constructor
  · rintro ⟨k, hdr, body, hmem, htaken⟩
    obtain ⟨q, hpath, hat⟩ := (hcopies hdr body).mp ⟨k, hmem⟩
    exact ⟨q, hpath, (taken_at_iff P _ q r).mp ⟨hdr, body, hat, htaken⟩⟩
  · rintro ⟨q, hpath, hwin⟩
    obtain ⟨hdr, body, hat, htaken⟩ := (taken_at_iff P _ q r).mpr hwin
    obtain ⟨k, hmem⟩ := (hcopies hdr body).mpr ⟨q, hpath, hat⟩
    exact ⟨k, hdr, body, hmem, htaken⟩

/-- After finitely many copies of its frame the protocol handler dispatches the
request. -/
def MainResyncs (p : SpiProtocol) (r : Request) : Prop :=
  ∃ k new, (p.feed (List.replicate k r.encoding).flatten).dispatched = p.dispatched ++ new ∧
    r.dispatched ∈ new

/-- After finitely many copies of its frame the interrupt handler delivers it. -/
def IsrResyncs (s : Spi0) (r : Request) : Prop :=
  ∃ k, r.encoding ∈ (serve s (List.replicate k r.encoding).flatten).2

theorem mainResyncs_signals (p : SpiProtocol) (h : p.rx.Valid) (r : Request) :
    MainResyncs p r ↔ ∃ k, ∃ sig ∈ mainPolicy.format.signals p.rx.scan
      (List.replicate k r.encoding).flatten, mainAccepts sig = some r.dispatched := by
  have hfeed (k : Nat) := (feed_follows p (List.replicate k r.encoding).flatten h).dispatched
  constructor
  · rintro ⟨k, new, hnew, hmem⟩
    have heq : new = _ := List.append_cancel_left (hnew.symm.trans (hfeed k))
    rw [heq, List.mem_filterMap] at hmem
    exact ⟨k, hmem⟩
  · rintro ⟨k, hmem⟩
    exact ⟨k, _, hfeed k, List.mem_filterMap.mpr hmem⟩

theorem isrResyncs_signals (s : Spi0) (h : Released s) (r : Request) :
    IsrResyncs s r ↔ ∃ k, ∃ sig ∈ isrPolicy.format.signals s.rx.scan
      (List.replicate k r.encoding).flatten, isrAccepts sig = some r.encoding := by
  unfold IsrResyncs
  apply exists_congr
  intro k
  rw [(serve_follows s _ h).2.2, List.mem_filterMap]

theorem mainResyncs_iff (p : SpiProtocol) (h : p.rx.Valid) (r : Request) :
    MainResyncs p r ↔ Locks mainPolicy p.rx.scan.held r := by
  have hsound := p.rx.sound_scan h
  have hmax : maxPayload = 4092 := rfl
  have hle := r.payload_le
  rw [mainResyncs_signals p h, ← locks_iff mainPolicy _ hsound]
  constructor
  · rintro ⟨k, sig, hmem, haccept⟩
    cases sig with
    | rejected hdr => cases haccept
    | frame hdr body =>
        refine ⟨k, hdr, body, hmem, ?_⟩
        have hfits := mainPolicy.format.signals_fits hsound hmem
        obtain ⟨cmd, payload, reserved, trailer, hlen, hres, rfl, rfl⟩ :=
          (mainPolicy.fits_iff hdr body).mp hfits
        simp only [mainAccepts] at haccept
        split at haccept
        · next hok =>
          rw [bodyPayload_append, Option.some.injEq, Request.dispatched,
            Dispatched.mk.injEq] at haccept
          obtain ⟨hcmd, _, rfl⟩ := haccept
          refine ⟨?_, bodyPayload_append _ _, hok⟩
          rw [hres rfl, ← hcmd]
          rfl
        · cases haccept
  · rintro ⟨k, hdr, body, hmem, rfl, hpayload, hok⟩
    refine ⟨k, _, hmem, ?_⟩
    rw [mainAccepts, if_pos hok, hpayload]
    rfl

theorem isrResyncs_iff (s : Spi0) (h : Released s) (r : Request) :
    IsrResyncs s r ↔ Locks isrPolicy s.rx.scan.held r := by
  have hsound := s.rx.sound_scan h.valid
  rw [isrResyncs_signals s h, ← locks_iff isrPolicy _ hsound]
  constructor
  · rintro ⟨k, sig, hmem, haccept⟩
    cases sig with
    | rejected hdr => cases haccept
    | frame hdr body =>
        refine ⟨k, hdr, body, hmem, ?_⟩
        have hfits := isrPolicy.format.signals_fits hsound hmem
        simp only [isrAccepts] at haccept
        split at haccept
        · next hok =>
          rw [Option.some.injEq, r.encoding_eq] at haccept
          obtain ⟨rfl, rfl⟩ := List.append_inj haccept (by rw [hfits.size, header_length]; rfl)
          exact ⟨rfl, bodyPayload_append _ _, hok⟩
        · cases haccept
  · rintro ⟨k, hdr, body, hmem, rfl, hpayload, hok⟩
    refine ⟨k, _, hmem, ?_⟩
    have hfits := isrPolicy.format.signals_fits hsound hmem
    have hann := (isrPolicy.fits_encode r.cmd r.payload r.payload_le).1.announces
    rw [hfits.announces, Option.some.injEq, List.length_append, leBytes_length] at hann
    have hparts := body_of_taken isrPolicy r body hann hpayload hok (by simp [isrPolicy])
    rw [isrAccepts, if_pos hok, r.encoding_eq, hparts]
    rfl

theorem main_reachable (battery cc1101 nfc : Bool) (history : List Byte) :
    ((boot battery cc1101 nfc).proto.feed history).rx.Valid :=
  (feed_follows _ history (RxCtx.valid_of_idle rfl)).valid

theorem isr_reachable (history : List Byte) : Released (serve Spi0.zero history).1 :=
  (serve_follows Spi0.zero history ⟨rfl, FrameState.noConfusion⟩).1

/-- From whatever history, each receiver finds the frame again exactly when its
walk locks on the copies. -/
theorem resyncs_iff (battery cc1101 nfc : Bool) (history : List Byte) (r : Request) :
    let p := (boot battery cc1101 nfc).proto.feed history
    let s := (serve Spi0.zero history).1
    (MainResyncs p r ↔ Locks mainPolicy p.rx.scan.held r) ∧
      (IsrResyncs s r ↔ Locks isrPolicy s.rx.scan.held r) :=
  ⟨mainResyncs_iff _ (main_reachable battery cc1101 nfc history) r,
    isrResyncs_iff _ (isr_reachable history) r⟩

theorem seenBy_prefix (P : Policy) (r : Request) : seenBy P r <+: r.encoding := by
  unfold seenBy
  split
  · next hbare =>
    rw [r.encoding_eq, hbare.2]
    exact List.prefix_append _ _
  · exact List.prefix_refl _

/-- A frame whose only sync byte is its first is found again whatever a
receiver holds. -/
theorem locks_of_lone_sync (P : Policy) (held : List Byte) (r : Request)
    (hlone : syncByte ∉ r.encoding.tail) : Locks P held r := by
  have hopens : r.encoding.head? = some P.format.sync := by
    rw [r.encoding_eq]
    rfl
  obtain ⟨k, hpath⟩ := P.format.starts_of_lone_sync held r.encoding 0 hopens hlone 0
  refine ⟨_, hpath, ?_⟩
  obtain ⟨rest, hrest⟩ := seenBy_prefix P r
  have hcopy := window_copy held r.encoding 0 k
  have hlen : r.encoding.length = (seenBy P r).length + rest.length := by
    rw [← hrest, List.length_append]
  rw [hlen, window_add, ← hlen] at hcopy
  exact (List.append_inj (hcopy.trans hrest.symm) (window_length ..)).1

theorem resyncs_of_lone_sync (battery cc1101 nfc : Bool) (history : List Byte) (r : Request)
    (hlone : syncByte ∉ r.encoding.tail) :
    MainResyncs ((boot battery cc1101 nfc).proto.feed history) r ∧
      IsrResyncs (serve Spi0.zero history).1 r := by
  have hmain := mainResyncs_iff _ (main_reachable battery cc1101 nfc history) r
  have hisr := isrResyncs_iff _ (isr_reachable history) r
  exact ⟨hmain.mpr (locks_of_lone_sync _ _ r hlone), hisr.mpr (locks_of_lone_sync _ _ r hlone)⟩

/-- The tail of a frame whose payload is one sync byte, from that byte on: a
receiver takes it for the start of a header. -/
def strandedTail : List Byte := (encode cmdSdrTune [syncByte]).drop 16

/-- A stray sync byte in front of this frame makes a receiver of any policy
discard a header at the stray byte, and then one at every copy's tail. -/
theorem stranded (P : Policy) :
    let frame := encode cmdSdrTune [syncByte]
    P.format.scan (.header [syncByte]) frame = .header strandedTail ∧
      P.format.scan (.header strandedTail) frame = .header strandedTail ∧
      P.format.signals (.header [syncByte]) frame = [.rejected (syncByte :: frame.take 15)] ∧
      P.format.signals (.header strandedTail) frame =
        [.rejected (strandedTail ++ frame.take 11)] := by
  cases P with
  | mk reservedZero emptyTrailer =>
      cases reservedZero <;> cases emptyTrailer <;> decide +kernel

theorem stranded_rejects (P : Policy) (k : Nat) (sig : Signal Byte)
    (hmem : sig ∈ P.format.signals (.header [syncByte])
      (List.replicate k (encode cmdSdrTune [syncByte])).flatten) :
    ∃ hdr, sig = .rejected hdr := by
  obtain ⟨hfirst, hagain, hsig, hsig'⟩ := stranded P
  rcases P.format.signals_replicate hfirst hagain k hmem with h | h
  · rw [hsig, List.mem_singleton] at h
    exact ⟨_, h⟩
  · rw [hsig', List.mem_singleton] at h
    exact ⟨_, h⟩

/-- One stray sync byte, and no number of copies of this frame gets either
receiver back into step. -/
theorem stray_sync_never_resyncs :
    let r := Request.of cmdSdrTune [syncByte] (by decide)
    ¬ MainResyncs ((boot true true true).proto.feed [syncByte]) r ∧
      ¬ IsrResyncs (serve Spi0.zero [syncByte]).1 r := by
  intro r
  have hencoding : r.encoding = encode cmdSdrTune [syncByte] := r.encoding_eq
  constructor
  · have hfed := feed_follows (boot true true true).proto [syncByte] (RxCtx.valid_of_idle rfl)
    rw [mainResyncs_signals _ hfed.valid, hfed.scan, hencoding]
    rintro ⟨k, sig, hmem, haccept⟩
    obtain ⟨hdr, rfl⟩ := stranded_rejects mainPolicy k sig hmem
    cases haccept
  · obtain ⟨hopen, hscan, _⟩ := serve_follows Spi0.zero [syncByte] ⟨rfl, FrameState.noConfusion⟩
    rw [isrResyncs_signals _ hopen, hscan, hencoding]
    rintro ⟨k, sig, hmem, haccept⟩
    obtain ⟨hdr, rfl⟩ := stranded_rejects isrPolicy k sig hmem
    cases haccept

end GhostBlade.Bridge
