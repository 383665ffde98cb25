import GhostBlade.Bridge.RoundTrip

/-!
The firmware as it is linked, over whole runs. The interrupt handler that is
linked keeps received bytes to itself, so the ring the main loop drains stays
empty and nothing is dispatched; and it sends from a buffer nobody fills, so
what the protocol handler queues in its own ring never reaches the wire.
-/

namespace GhostBlade.Bridge

open GhostBlade.Library GhostBlade.Protocol GhostBlade.Firmware

/-- The ring of the weak handler is empty and nothing has been dispatched. -/
structure Undispatched (fw : Mcu) : Prop where
  ring : fw.spiRx.unread = []
  log : fw.proto.dispatched = []

theorem process_undispatched (fw : Mcu) (h : Undispatched fw) :
    (spiProtocolProcess fw.proto fw.spiRx).1 = fw.proto ∧
      (spiProtocolProcess fw.proto fw.spiRx).2.1.unread = [] := by
  obtain ⟨hproto, hempty⟩ := spiProtocolProcess_eq fw.proto fw.spiRx
  rw [h.ring] at hproto
  exact ⟨hproto, hempty⟩

/-- Neither the linked interrupt handler nor a statement of the main loop
changes that. -/
theorem linkedStep_undispatched (fw : Mcu) (e : LinkedEvent) (h : Undispatched fw) :
    Undispatched (linkedStep fw e) := by
  cases e with
  | interrupt rxFifo tnf => exact ⟨h.ring, h.log⟩
  | main s =>
      change Undispatched (mainStep s fw)
      unfold mainStep
      cases fw.main.pc with
      | process =>
          obtain ⟨hproto, hempty⟩ := process_undispatched fw h
          exact ⟨hempty, (congrArg SpiProtocol.dispatched hproto).trans h.log⟩
      | tick => exact ⟨h.ring, h.log⟩
      | battery =>
          dsimp only
          split
          · exact ⟨h.ring, h.log⟩
          · exact ⟨h.ring, h.log⟩
      | telemetry =>
          dsimp only
          split
          · exact ⟨h.ring, (sendTelemetry_untouched fw.proto).dispatched.trans h.log⟩
          · exact ⟨h.ring, h.log⟩
      | brownout =>
          dsimp only
          split
          · exact ⟨h.ring, h.log⟩
          · exact ⟨h.ring, h.log⟩

theorem boot_undispatched (battery cc1101 nfc : Bool) : Undispatched (boot battery cc1101 nfc) :=
  ⟨(Ring.unread_eq_nil_iff _).mpr rfl, rfl⟩

/-- The bytes a run brings to the SPI0 RX FIFO. -/
def received : List LinkedEvent → List Byte
  | [] => []
  | .interrupt rxFifo _ :: es => rxFifo ++ received es
  | .main _ :: es => received es

/-- A run that brings the encodings of these requests and nothing else, at most
256 bytes per interrupt. -/
structure Carries (requests : List Request) (es : List LinkedEvent) : Prop where
  stream : received es = requests.flatMap Request.encoding
  chunks : ∀ rxFifo tnf, .interrupt rxFifo tnf ∈ es → rxFifo.length ≤ 256

/-- However the requests arrive, and however long the main loop runs on
afterwards, they have all been dispatched only if there were none. That the run brings
just these requests is what the list stands for; no run of the linked firmware
dispatches anything, so that the proof has no use for it. -/
theorem linked_dispatches_iff (battery cc1101 nfc : Bool) (requests : List Request)
    (es : List LinkedEvent) (_hes : Carries requests es) :
    (∃ later : List Sensors,
      (run linkedStep (boot battery cc1101 nfc) (es ++ later.map .main)).proto.dispatched =
        requests.map Request.dispatched) ↔ requests = [] := by
  have hlog (later : List Sensors) :
      (run linkedStep (boot battery cc1101 nfc) (es ++ later.map .main)).proto.dispatched = [] :=
    (run_invariant linkedStep_undispatched (boot_undispatched battery cc1101 nfc) _).log
  constructor
  · rintro ⟨later, hdisp⟩
    rw [hlog] at hdisp
    exact List.map_eq_nil_iff.mp hdisp.symm
  · rintro rfl
    exact ⟨[], hlog []⟩

/-- One NOP frame, in one interrupt. -/
def nopRun : List LinkedEvent :=
  [.interrupt (Request.of cmdNop [] (by decide)).encoding fun _ => true]

theorem nopRun_carries : Carries [Request.of cmdNop [] (by decide)] nopRun where
  stream := by simp [nopRun, received]
  chunks := by
    intro rxFifo tnf hmem
    simp only [nopRun, List.mem_singleton, LinkedEvent.interrupt.injEq] at hmem
    rw [hmem.1, Request.encoding_eq, encode_length]
    decide

theorem linked_dispatches_nop :
    (∃ later : List Sensors,
      (run linkedStep (boot true true true) (nopRun ++ later.map .main)).proto.dispatched =
        [Request.of cmdNop [] (by decide)].map Request.dispatched) ↔
      [Request.of cmdNop [] (by decide)] = [] :=
  linked_dispatches_iff true true true _ nopRun nopRun_carries

/-- The NOP frame is never dispatched. -/
theorem linked_never_dispatches_nop :
    ¬ ∃ later : List Sensors,
      (run linkedStep (boot true true true) (nopRun ++ later.map .main)).proto.dispatched =
        [Request.of cmdNop [] (by decide)].map Request.dispatched := by
  rintro ⟨later, hdisp⟩
  have hlog := (run_invariant linkedStep_undispatched (boot_undispatched true true true)
    (nopRun ++ later.map .main)).log
  rw [hlog] at hdisp
  exact absurd hdisp (by simp)

/-- The firmware and, next to it, all response bytes queued so far. -/
structure TxState where
  fw : Mcu
  queued : List Byte

/-- The calls that use the TX ring, and the interrupt that should serve it. A
command is dispatched from an arbitrary receive context. -/
inductive TxEvent where
  | dispatch (c : RxCtx)
  | sendTelemetry
  | sendIqChunk (data : List Byte)
  | interrupt (rxFifo : List Byte) (tnf : Nat → Bool)

/-- The frame a call of `build_response_frame` queues with result 0. -/
def queuedBy (cmd : Byte) (payload : List Byte) (p : SpiProtocol) : List Byte :=
  if (buildResponseFrame cmd payload p).1 = 0 then responseFrame cmd payload else []

def txStep (s : TxState) : TxEvent → TxState
  | .dispatch c => { s with fw := { s.fw with proto := dispatchFrame { s.fw.proto with rx := c } } }
  | .sendTelemetry =>
      { fw := { s.fw with proto := spiProtocolSendTelemetry s.fw.proto }
        queued := s.queued ++ queuedBy cmdTelemetry s.fw.proto.device.telemetry s.fw.proto }
  | .sendIqChunk data =>
      { fw := { s.fw with proto := spiProtocolSendIqChunk data s.fw.proto }
        queued := s.queued ++
          if s.fw.proto.device.sdrStreaming = false then []
          else queuedBy cmdSdrIqChunk (data.take maxPayload) s.fw.proto }
  | .interrupt rxFifo tnf => { s with fw := interrupt rxFifo tnf s.fw }

/-- What has been sent is a prefix of what has been queued, and the interrupt
line is low exactly when the TX ring holds unread bytes. -/
structure TxOk (s : TxState) : Prop where
  sent : s.fw.sspdr <+: s.queued
  line : s.fw.proto.board.intReqLow = true ↔ s.fw.proto.tx.head ≠ s.fw.proto.tx.tail

/-- The step moves some of the oldest unread bytes to the wire. -/
def Serves (s s' : TxState) : Prop :=
  ∃ n, 0 < n ∧ n ≤ s.fw.proto.tx.used ∧
    s'.fw.sspdr = s.fw.sspdr ++ s.fw.proto.tx.unread.take n ∧
    s'.fw.proto.tx.unread = s.fw.proto.tx.unread.drop n

/-- An interrupt finds unread bytes in the TX ring and space in the TX FIFO. -/
def Serviceable (s : TxState) (e : TxEvent) : Prop :=
  ∃ rxFifo tnf, e = .interrupt rxFifo tnf ∧ s.fw.proto.tx.head ≠ s.fw.proto.tx.tail ∧
    tnf 0 = true

/-- What a step owes: an honest state after it, and service where possible. -/
def TxStepOk (s : TxState) (e : TxEvent) : Prop :=
  TxOk (txStep s e) ∧ (Serviceable s e → Serves s (txStep s e))

/-- No byte has been sent, no response is pending in the handler's own buffer,
and the line reports the TX ring. -/
structure TxInv (s : TxState) : Prop where
  silent : s.fw.sspdr = []
  noResponse : s.fw.isr.tx.responsePending = false
  line : s.fw.proto.board.intReqLow = true ↔ s.fw.proto.tx.head ≠ s.fw.proto.tx.tail

theorem TxInv.ok {s : TxState} (h : TxInv s) : TxOk s where
  sent := by
    rw [h.silent]
    exact List.nil_prefix
  line := h.line

/-- Queueing a frame or refusing it keeps the line honest. -/
theorem buildResponseFrame_line (cmd : Byte) (payload : List Byte) (p : SpiProtocol)
    (hlen : payload.length ≤ maxPayload)
    (h : p.board.intReqLow = true ↔ p.tx.head ≠ p.tx.tail) :
    let p' := (buildResponseFrame cmd payload p).2
    p'.board.intReqLow = true ↔ p'.tx.head ≠ p'.tx.tail := by
  intro p'
  rcases buildResponseFrame_cases cmd payload p hlen with hfull | ⟨tx, hbuilt, hunread, _⟩
  · have hp : p' = { p with stats := { p.stats with txOverruns := p.stats.txOverruns + 1 } } :=
      congrArg Prod.snd hfull
    rw [hp]
    exact h
  · have hp : p' = { p with tx := tx, board := intReqAssert p.board } := congrArg Prod.snd hbuilt
    have hne : tx.head ≠ tx.tail := by
      intro heq
      have hnil := (tx.unread_eq_nil_iff).mpr heq
      rw [hunread] at hnil
      exact encode_ne_nil cmd payload (List.append_eq_nil_iff.mp hnil).2
    rw [hp]
    simp [hne]

theorem sendTelemetry_line (p : SpiProtocol)
    (h : p.board.intReqLow = true ↔ p.tx.head ≠ p.tx.tail) :
    (spiProtocolSendTelemetry p).board.intReqLow = true ↔
      (spiProtocolSendTelemetry p).tx.head ≠ (spiProtocolSendTelemetry p).tx.tail := by
  have hlen : p.device.telemetry.length ≤ maxPayload := by
    rw [telemetry_length]
    decide
  have hline := buildResponseFrame_line cmdTelemetry p.device.telemetry p hlen h
  unfold spiProtocolSendTelemetry
  dsimp only at hline ⊢
  generalize buildResponseFrame cmdTelemetry p.device.telemetry p = r at hline ⊢
  exact hline

theorem sendIqChunk_line (data : List Byte) (p : SpiProtocol)
    (h : p.board.intReqLow = true ↔ p.tx.head ≠ p.tx.tail) :
    (spiProtocolSendIqChunk data p).board.intReqLow = true ↔
      (spiProtocolSendIqChunk data p).tx.head ≠ (spiProtocolSendIqChunk data p).tx.tail := by
  unfold spiProtocolSendIqChunk
  split
  · exact h
  · exact buildResponseFrame_line cmdSdrIqChunk (data.take maxPayload) p (by simp) h

theorem txStep_inv (s : TxState) (e : TxEvent) (h : TxInv s) : TxInv (txStep s e) := by
  cases e with
  | dispatch c =>
      have hstep := dispatchFrame_step { s.fw.proto with rx := c }
      refine ⟨h.silent, h.noResponse, ?_⟩
      change (dispatchFrame { s.fw.proto with rx := c }).board.intReqLow = true ↔
        (dispatchFrame { s.fw.proto with rx := c }).tx.head ≠
          (dispatchFrame { s.fw.proto with rx := c }).tx.tail
      rw [hstep.tx, hstep.intReq]
      exact h.line
  | sendTelemetry =>
      have hfw : (txStep s .sendTelemetry).fw =
          { s.fw with proto := spiProtocolSendTelemetry s.fw.proto } := rfl
      have hline := sendTelemetry_line s.fw.proto h.line
      generalize spiProtocolSendTelemetry s.fw.proto = p at hfw hline
      exact ⟨by rw [hfw]; exact h.silent, by rw [hfw]; exact h.noResponse,
        by rw [hfw]; exact hline⟩
  | sendIqChunk data =>
      have hfw : (txStep s (.sendIqChunk data)).fw =
          { s.fw with proto := spiProtocolSendIqChunk data s.fw.proto } := rfl
      have hline := sendIqChunk_line data s.fw.proto h.line
      generalize spiProtocolSendIqChunk data s.fw.proto = p at hfw hline
      exact ⟨by rw [hfw]; exact h.silent, by rw [hfw]; exact h.noResponse,
        by rw [hfw]; exact hline⟩
  | interrupt rxFifo tnf =>
      have hquiet := spi0Handler_of_idle_tx rxFifo tnf s.fw.isr s.fw.proto.board h.noResponse
      have hdef : (txStep s (.interrupt rxFifo tnf)).fw =
          { s.fw with
            isr := (rxFifo.take 256).foldl Spi0.processByte s.fw.isr
            sspdr := s.fw.sspdr ++ [] } := by
        change interrupt rxFifo tnf s.fw = _
        rw [interrupt, hquiet]
      refine ⟨?_, ?_, ?_⟩
      · rw [hdef, h.silent]
        rfl
      · rw [hdef, processBytes_tx]
        exact h.noResponse
      · rw [hdef]
        exact h.line

/-- The linked handler serves nobody. -/
theorem not_serves (s : TxState) (e : TxEvent) (h : TxInv s) (hs : Serviceable s e) :
    ¬ Serves s (txStep s e) := by
  rintro ⟨n, hpos, hle, hsent, _⟩
  obtain ⟨rxFifo, tnf, rfl, hne, _⟩ := hs
  have hlen := congrArg List.length hsent
  rw [(txStep_inv s _ h).silent, h.silent, List.nil_append, List.length_take,
    Ring.unread_length, List.length_nil] at hlen
  omega

theorem txStepOk_iff (s : TxState) (e : TxEvent) (h : TxInv s) :
    TxStepOk s e ↔ ¬ Serviceable s e := by
  constructor
  · intro hok hs
    exact not_serves s e h hs (hok.2 hs)
  · intro hnot
    exact ⟨(txStep_inv s e h).ok, fun hs => absurd hs hnot⟩

/-- The state in which the main loop starts. -/
def txBoot (battery cc1101 nfc : Bool) : TxState := ⟨boot battery cc1101 nfc, []⟩

theorem txBoot_inv (battery cc1101 nfc : Bool) : TxInv (txBoot battery cc1101 nfc) where
  silent := rfl
  noResponse := rfl
  line := by
    have hhigh : (boot battery cc1101 nfc).proto.board.intReqLow = false := by
      simp [boot, Board.intReqLow, pinIntReq]
    constructor
    · intro hlow
      exact absurd (hhigh.symm.trans hlow) Bool.false_ne_true
    · intro hne
      exact absurd rfl hne

/-- Along a run the queued responses are sent and reported as they should be
exactly as long as no interrupt has one to send and room to send it. -/
theorem responses_sent_iff (battery cc1101 nfc : Bool) (es : List TxEvent) :
    (TxOk (txBoot battery cc1101 nfc) ∧
        Along txStep TxStepOk (txBoot battery cc1101 nfc) es) ↔
      Along txStep (fun s e => ¬ Serviceable s e) (txBoot battery cc1101 nfc) es := by
  have hinv := txBoot_inv battery cc1101 nfc
  have hcongr := along_congr txStep_inv txStepOk_iff hinv es
  constructor
  · intro h
    exact hcongr.mp h.2
  · intro h
    exact ⟨hinv.ok, hcongr.mpr h⟩

/-- A telemetry frame is queued, and an interrupt comes with room in the FIFO. -/
def telemetryThenInterrupt : List TxEvent := [.sendTelemetry, .interrupt [] fun _ => true]

/-- The telemetry frame is not sent. -/
theorem telemetry_not_sent :
    ¬ (TxOk (txBoot true true true) ∧
      Along txStep TxStepOk (txBoot true true true) telemetryThenInterrupt) := by
  rintro ⟨_, _, hok, _⟩
  have hinv := txBoot_inv true true true
  have hinv' := txStep_inv _ .sendTelemetry hinv
  have hqueued : (txStep (txBoot true true true) .sendTelemetry).fw.proto.board.intReqLow =
      true := by
    change (spiProtocolSendTelemetry (boot true true true).proto).board.intReqLow = true
    have hbuilt := buildResponseFrame_fits cmdTelemetry (boot true true true).proto.device.telemetry
      (boot true true true).proto (by rw [telemetry_length]; decide)
      (by rw [telemetry_length]; decide)
    unfold spiProtocolSendTelemetry
    dsimp only
    rw [hbuilt]
    exact intReqLow_assert _
  have hserve : Serviceable (txStep (txBoot true true true) .sendTelemetry)
      (.interrupt [] fun _ => true) := ⟨[], _, rfl, hinv'.line.mp hqueued, rfl⟩
  exact not_serves _ _ hinv' hserve (hok.2 hserve)

end GhostBlade.Bridge
