import GhostBlade.Firmware.Effects
import GhostBlade.Firmware.SdrDma

/-!
Whether the receiver streams is kept in five places: two flags of the device
state (`spi_protocol.c`), the two enable lines of the receive path, and the DMA
engine (`sdr_dma.c`). The stream command moves the first four together. Nothing
a frame can do reaches the fifth.
-/

namespace GhostBlade.Firmware

open GhostBlade.Library GhostBlade.Protocol

/-- No other handler calls either function. -/
def sdrCalls (p : SpiProtocol) (d : Dispatched) : List SdrCall :=
  if d.cmd = cmdSdrStream then sdrStreamCalls d.payload d.len p.device else []

/-- The protocol handler, the DMA engine and the levels last commanded on the
two enable lines. -/
structure SdrPath where
  proto : SpiProtocol
  dma : SdrDma
  rxLevel : Bool
  lnaLevel : Bool

def SdrPath.command (s : SdrPath) : SdrCall → SdrPath
  | .rxEnable enable => { s with rxLevel := enable }
  | .lnaEnable enable => { s with lnaLevel := enable }

/-- One dispatched frame. `spi_protocol.c` calls no function of `sdr_dma.c`. -/
def SdrPath.dispatch (s : SdrPath) (d : Dispatched) : SdrPath :=
  { (sdrCalls s.proto d).foldl SdrPath.command s with proto := s.proto.handle d }

/-- After `spi_protocol_init`, `sdr_dma_init` and the GPIO set-up, which leaves
both lines low. -/
def SdrPath.boot (p : SpiProtocol) (d : SdrDma) : SdrPath :=
  ⟨spiProtocolInit p, sdrDmaInit d, false, false⟩

/-- The four places the stream command knows about agree. -/
structure SdrPath.Commanded (s : SdrPath) : Prop where
  rxEnabled : s.proto.device.sdrRxEnabled = s.proto.device.sdrStreaming
  rxLevel : s.rxLevel = s.proto.device.sdrStreaming
  lnaLevel : s.lnaLevel = s.proto.device.sdrStreaming

/-- All five agree. -/
structure SdrPath.Coherent (s : SdrPath) : Prop extends s.Commanded where
  running : s.dma.dmaRunning = s.proto.device.sdrStreaming

/-- A stream command that asks for the stream. -/
def Dispatched.StartsStream (d : Dispatched) : Prop :=
  d.cmd = cmdSdrStream ∧ 1 ≤ d.len.toNat ∧ d.payload.getD 0 0 ≠ 0

/-- Every command but one leaves the two flags alone. -/
theorem handle_flags (p : SpiProtocol) (d : Dispatched) (h : d.cmd ≠ cmdSdrStream) :
    (p.handle d).device.sdrStreaming = p.device.sdrStreaming ∧
      (p.handle d).device.sdrRxEnabled = p.device.sdrRxEnabled := by
  have hant : (handleCmdAntSelect d.payload d.len p).device = p.device := by
    unfold handleCmdAntSelect
    dsimp only
    split_ifs <;> rfl
  have hcc : (handleCmdCc1101Cfg d.payload d.len p).device = p.device := by
    unfold handleCmdCc1101Cfg
    dsimp only
    split_ifs <;> rfl
  have hnfc : (handleCmdNfcTransact d.payload d.len p).device.sdrStreaming =
        p.device.sdrStreaming ∧
      (handleCmdNfcTransact d.payload d.len p).device.sdrRxEnabled = p.device.sdrRxEnabled := by
    unfold handleCmdNfcTransact
    dsimp only
    split_ifs <;> exact ⟨rfl, rfl⟩
  unfold SpiProtocol.handle handleCmd
  split_ifs
  · exact ⟨rfl, rfl⟩
  · exact ⟨rfl, rfl⟩
  · rw [hant]
    exact ⟨rfl, rfl⟩
  · rw [hcc]
    exact ⟨rfl, rfl⟩
  · exact hnfc
  · exact ⟨rfl, rfl⟩

/-- The two flags after a stream command with a payload. -/
theorem sdrStream_flags (payload : List Byte) (len : BitVec 16) (p : SpiProtocol)
    (h : p.device.sdrRxEnabled = p.device.sdrStreaming) (hlen : ¬ len < 1#16) :
    (handleCmdSdrStream payload len p).device.sdrStreaming = decide (payload.getD 0 0 ≠ 0) ∧
      (handleCmdSdrStream payload len p).device.sdrRxEnabled =
        (handleCmdSdrStream payload len p).device.sdrStreaming := by
  dsimp only [handleCmdSdrStream]
  rw [if_neg hlen]
  generalize payload.getD 0 0 = enable
  cases hs : p.device.sdrStreaming with
  | false =>
      by_cases henable : enable = 0#8
      · simp [henable, hs, h]
      · simp [henable]
  | true =>
      by_cases henable : enable = 0#8
      · simp [henable]
      · simp [henable, hs, h]

/-- What a stream command with a payload does, if it is not already done. -/
theorem sdrStream_effect (payload : List Byte) (len : BitVec 16) (s : SdrPath)
    (h : s.Commanded) (hlen : ¬ len < 1#16) :
    let t := (sdrStreamCalls payload len s.proto.device).foldl SdrPath.command s
    let p := handleCmdSdrStream payload len s.proto
    p.device.sdrStreaming = decide (payload.getD 0 0 ≠ 0) ∧
      p.device.sdrRxEnabled = p.device.sdrStreaming ∧
      t.rxLevel = p.device.sdrStreaming ∧ t.lnaLevel = p.device.sdrStreaming := by
  obtain ⟨hstreaming, henabled⟩ := sdrStream_flags payload len s.proto h.rxEnabled hlen
  refine ⟨hstreaming, henabled, ?_⟩
  rw [hstreaming]
  dsimp only [sdrStreamCalls]
  rw [if_neg hlen]
  generalize payload.getD 0 0 = enable
  cases hs : s.proto.device.sdrStreaming with
  | false =>
      by_cases henable : enable = 0#8
      · simp [henable, hs, h.rxLevel, h.lnaLevel]
      · simp [henable, SdrPath.command]
  | true =>
      by_cases henable : enable = 0#8
      · simp [henable, SdrPath.command]
      · simp [henable, hs, h.rxLevel, h.lnaLevel]

theorem sdrStream_short (payload : List Byte) (len : BitVec 16) (p : SpiProtocol)
    (hlen : len < 1#16) :
    sdrStreamCalls payload len p.device = [] ∧
      (handleCmdSdrStream payload len p).device = p.device := by
  simp [sdrStreamCalls, handleCmdSdrStream, hlen]

theorem handle_sdrStream (p : SpiProtocol) (d : Dispatched) (h : d.cmd = cmdSdrStream) :
    p.handle d = handleCmdSdrStream d.payload d.len p := by
  have hnop : cmdSdrStream ≠ cmdNop := by decide
  have htune : cmdSdrStream ≠ cmdSdrTune := by decide
  simp [SpiProtocol.handle, handleCmd, h, hnop, htune]

theorem command_dma (s : SdrPath) (calls : List SdrCall) :
    (calls.foldl SdrPath.command s).dma = s.dma := by
  induction calls generalizing s with
  | nil => rfl
  | cons c calls ih =>
      rw [List.foldl_cons, ih]
      cases c <;> rfl

theorem dispatch_dma (s : SdrPath) (d : Dispatched) : (s.dispatch d).dma = s.dma :=
  command_dma s (sdrCalls s.proto d)

/-- What leaves the two flags alone keeps the four in step. -/
theorem SdrPath.Commanded.frame {s : SdrPath} (h : s.Commanded) {p : SpiProtocol}
    (hstreaming : p.device.sdrStreaming = s.proto.device.sdrStreaming)
    (hrx : p.device.sdrRxEnabled = s.proto.device.sdrRxEnabled) :
    ({ s with proto := p } : SdrPath).Commanded := by
  refine ⟨?_, ?_, ?_⟩
  · exact (hrx.trans h.rxEnabled).trans hstreaming.symm
  · exact h.rxLevel.trans hstreaming.symm
  · exact h.lnaLevel.trans hstreaming.symm

/-- A dispatched frame keeps the four in step, and turns the stream on exactly
when it is on already or asked for. -/
theorem dispatch_commanded {s : SdrPath} (h : s.Commanded) (d : Dispatched) :
    (s.dispatch d).Commanded ∧
      (s.proto.device.sdrStreaming = false →
        ((s.dispatch d).proto.device.sdrStreaming = true ↔ d.StartsStream)) := by
  by_cases hcmd : d.cmd = cmdSdrStream
  · have hcalls : sdrCalls s.proto d = sdrStreamCalls d.payload d.len s.proto.device :=
      if_pos hcmd
    by_cases hlen : d.len < 1#16
    · obtain ⟨hnone, hdevice⟩ := sdrStream_short d.payload d.len s.proto hlen
      have hstep : s.dispatch d = { s with proto := s.proto.handle d } := by
        rw [SdrPath.dispatch, hcalls, hnone]
        rfl
      have hnot : ¬ d.StartsStream := by
        rintro ⟨_, hpos, _⟩
        have : d.len.toNat < 1 := hlen
        omega
      rw [hstep, handle_sdrStream s.proto d hcmd]
      refine ⟨h.frame (by rw [hdevice]) (by rw [hdevice]), fun hoff => ?_⟩
      rw [hdevice, hoff]
      exact iff_of_false Bool.false_ne_true hnot
    · obtain ⟨hstreaming, hrx, hrxl, hlna⟩ := sdrStream_effect d.payload d.len s h hlen
      have hpos : 1 ≤ d.len.toNat := toNat_of_not_lt d.len (by omega) hlen
      rw [SdrPath.dispatch, hcalls, handle_sdrStream s.proto d hcmd]
      refine ⟨⟨hrx, hrxl, hlna⟩, fun _ => ?_⟩
      rw [hstreaming, decide_eq_true_eq]
      exact ⟨fun hne => ⟨hcmd, hpos, hne⟩, fun hstarts => hstarts.2.2⟩
  · have hstep : s.dispatch d = { s with proto := s.proto.handle d } := by
      rw [SdrPath.dispatch, sdrCalls, if_neg hcmd]
      rfl
    obtain ⟨hstreaming, hrx⟩ := handle_flags s.proto d hcmd
    rw [hstep]
    refine ⟨h.frame hstreaming hrx, fun hoff => ?_⟩
    rw [hstreaming, hoff]
    exact iff_of_false Bool.false_ne_true fun hstarts => hcmd hstarts.1

/-- The stream and the engine are both off. -/
def SdrPath.Quiet (s : SdrPath) : Prop :=
  s.Commanded ∧ s.proto.device.sdrStreaming = false ∧ s.dma.dmaRunning = false

theorem SdrPath.Quiet.dispatch_iff {s : SdrPath} (h : s.Quiet) (d : Dispatched) :
    (s.dispatch d).Quiet ↔ ¬ d.StartsStream := by
  obtain ⟨hcommanded, hoff, hstopped⟩ := h
  obtain ⟨hnext, hstarts⟩ := dispatch_commanded hcommanded d
  rw [← hstarts hoff, Bool.not_eq_true]
  refine ⟨fun hquiet => hquiet.2.1, fun hoff' => ⟨hnext, hoff', ?_⟩⟩
  rw [dispatch_dma, hstopped]

theorem boot_quiet (p : SpiProtocol) (d : SdrDma) : (SdrPath.boot p d).Quiet :=
  ⟨⟨rfl, rfl, rfl⟩, rfl, rfl⟩

/-- Whatever is dispatched, the engine stays off and the other four agree. -/
theorem dispatched_commanded (p : SpiProtocol) (d : SdrDma) (ds : List Dispatched) :
    (run SdrPath.dispatch (SdrPath.boot p d) ds).Commanded ∧
      (run SdrPath.dispatch (SdrPath.boot p d) ds).dma.dmaRunning = false := by
  refine run_invariant (I := fun s : SdrPath => s.Commanded ∧ s.dma.dmaRunning = false) ?_
    ⟨(boot_quiet p d).1, rfl⟩ ds
  rintro s e ⟨hcommanded, hstopped⟩
  exact ⟨(dispatch_commanded hcommanded e).1, by rw [dispatch_dma, hstopped]⟩

/-- All five places agree after every dispatched frame exactly when no frame
asks for the stream. -/
theorem sdr_coherent_iff (p : SpiProtocol) (dma : SdrDma) (ds : List Dispatched) :
    (∀ us, us <+: ds → (run SdrPath.dispatch (SdrPath.boot p dma) us).Coherent) ↔
      ∀ d ∈ ds, ¬ d.StartsStream := by
  have hquiet (us : List Dispatched) :
      (run SdrPath.dispatch (SdrPath.boot p dma) us).Coherent ↔
        (run SdrPath.dispatch (SdrPath.boot p dma) us).Quiet := by
    obtain ⟨hcommanded, hstopped⟩ := dispatched_commanded p dma us
    constructor
    · intro hcoherent
      exact ⟨hcommanded, hcoherent.running ▸ hstopped, hstopped⟩
    · rintro ⟨_, hoff, _⟩
      exact ⟨hcommanded, hstopped.trans hoff.symm⟩
  have hiff := states_iff_along (I := SdrPath.Quiet) (C := fun _ d => ¬ d.StartsStream)
    (fun _ d hq => hq.dispatch_iff d) (boot_quiet p dma) ds
  simp only [hquiet]
  rw [hiff, along_iff]
  constructor
  · intro hall d hd
    obtain ⟨us, vs, heq⟩ := List.append_of_mem hd
    exact hall us d vs heq
  · rintro hall us d vs rfl
    exact hall d (by simp)

/-- One start command: the host has the stream on, and no block will ever come. -/
theorem start_command_incoherent :
    let s := run SdrPath.dispatch
      (SdrPath.boot ⟨RxCtx.zero, ProtoStats.zero, DeviceState.zero, ⟨fun _ => 0, 0, 0⟩,
        ⟨0, []⟩, []⟩ SdrDma.zero) [⟨cmdSdrStream, 1, [1]⟩]
    s.proto.device.sdrStreaming = true ∧ s.dma.dmaRunning = false ∧ ¬ s.Coherent := by
  refine ⟨rfl, rfl, fun h => ?_⟩
  exact absurd h.running (by decide)

end GhostBlade.Firmware
