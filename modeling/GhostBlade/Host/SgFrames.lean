import GhostBlade.Host.Frame
import GhostBlade.Host.SgFill
import GhostBlade.Host.SgOverrun

/-!
The data of a scatter-gather session. The MCU sends frames, some of them damaged;
each transfer clocks as many bytes of them as a buffer is long into its buffer.
The callback never looks at the data: a READY buffer exposes its bytes as they
came, and every transfer counts as one good frame.
-/

namespace GhostBlade.Host

open GhostBlade.Library GhostBlade.Protocol

/-- A frame as it is sent, with the two checksums it happens to carry. -/
structure WireFrame where
  cmd : Byte
  payload : List Byte
  fits : payload.length ≤ maxPayload
  hdrCrc : BitVec 64
  trailer : BitVec 32

namespace WireFrame

def bytes (f : WireFrame) : List Byte :=
  headerFields f.cmd f.payload.length 0 ++ leBytes 8 f.hdrCrc.toNat ++
    (f.payload ++ leBytes 4 f.trailer.toNat)

def Damaged (f : WireFrame) : Prop :=
  f.hdrCrc ≠ crc64 (headerFields f.cmd f.payload.length 0) ∨ f.trailer ≠ crc32 f.payload

instance Damaged.decidable (f : WireFrame) : Decidable f.Damaged :=
  inferInstanceAs (Decidable (_ ∨ _))

/-- A valid frame with IQ data. -/
def IsChunk (f : WireFrame) : Prop := f.cmd = apexCmdSdrIqChunk ∧ ¬ f.Damaged

instance IsChunk.decidable (f : WireFrame) : Decidable f.IsChunk :=
  inferInstanceAs (Decidable (_ ∧ _))

@[simp] theorem bytes_length (f : WireFrame) : f.bytes.length = 20 + f.payload.length := by
  simp only [bytes, List.length_append, headerFields_length, leBytes_length]
  omega

/-- Undamaged, it is the frame of its command and payload. -/
theorem bytes_eq {f : WireFrame} (h : ¬ f.Damaged) : f.bytes = encode f.cmd f.payload := by
  obtain ⟨hhdr, htrailer⟩ := not_or.mp h
  rw [bytes, not_not.mp hhdr, not_not.mp htrailer]
  rfl

/-- The frames that end within the first `n` bytes. -/
def contained : Nat → List WireFrame → List WireFrame
  | _, [] => []
  | n, f :: fs => if f.bytes.length ≤ n then f :: contained (n - f.bytes.length) fs else []

/-- The payload bytes of the valid IQ frames. -/
def iqData (fs : List WireFrame) : List Byte := (fs.filter IsChunk).flatMap payload

theorem contained_zero (fs : List WireFrame) : contained 0 fs = [] := by
  cases fs with
  | nil => rfl
  | cons f fs =>
      have hlen := f.bytes_length
      exact if_neg (by omega)

/-- Every frame takes more room than its payload. -/
theorem iqData_length_lt {n : Nat} (hn : 0 < n) (fs : List WireFrame) :
    (iqData (contained n fs)).length < n := by
  induction fs generalizing n with
  | nil => exact hn
  | cons f fs ih =>
      have hlen := f.bytes_length
      unfold contained
      split
      next hfits =>
        have hrest : (iqData (contained (n - f.bytes.length) fs)).length ≤ n - f.bytes.length := by
          rcases Nat.eq_zero_or_pos (n - f.bytes.length) with hzero | hpos
          · rw [hzero, contained_zero]
            exact Nat.le_refl _
          · exact Nat.le_of_lt (ih hpos)
        unfold iqData at hrest ⊢
        rw [List.filter_cons]
        split
        · rw [List.flatMap_cons, List.length_append]
          omega
        · omega
      · exact hn

end WireFrame

namespace SgSystem

variable {s s' : SgSystem}

/-- The worker leaves the frame counters and the callback to the callback. -/
theorem worker_frames (ok : Bool) (s : SgSystem) :
    (s.worker ok).eng.bufSize = s.eng.bufSize ∧ (s.worker ok).eng.framesRx = s.eng.framesRx ∧
      (s.worker ok).eng.framesCrcErr = s.eng.framesCrcErr ∧
        (s.worker ok).callback = s.callback := by
  have hset (idx : BitVec 32) (state : SgBufState) :
      (s.apexSgBufSetState idx state).callback = s.callback := by
    unfold apexSgBufSetState
    split
    · rfl
    · rfl
  unfold worker
  split
  case h_6 idx _ => exact ⟨by simp, by simp, by simp, hset idx .dmaActive⟩
  case h_8 idx _ => exact ⟨by simp, by simp, by simp, hset idx .free⟩
  case h_10 idx _ => exact ⟨by simp, by simp, by simp, hset idx .free⟩
  all_goals
    repeat' split
    all_goals exact ⟨rfl, rfl, rfl, rfl⟩

theorem step_frames {e : SgEvent} {rx crc : BitVec 32}
    (h : s.eng.framesRx = rx ∧ s.eng.framesCrcErr = crc) (hrun : e ≠ .startRun)
    (hworker : ∀ ok, e ≠ .worker ok) (hcallback : ∀ now, e ≠ .callback now) :
    (s.step e).eng.framesRx = rx ∧ (s.step e).eng.framesCrcErr = crc := by
  rw [step_engine hrun hworker hcallback]
  exact h

/-- Whatever transfers and is called back does so with a valid buffer size. -/
structure Sized (s : SgSystem) : Prop where
  starting : ∀ config, s.lock = .starting config → config.Valid
  engine : 4096 ≤ s.eng.bufSize.toNat ∨ (s.work = .idle ∧ s.inFlight = [] ∧ s.callback = none)
  held : ∀ t idx n, s.callback = some (.number t idx n) ∨ s.callback = some (.ready t idx n) →
    4096 ≤ n.toNat

theorem sized_init : init.Sized where
  starting := nofun
  engine := .inr ⟨rfl, rfl, rfl⟩
  held := by simp [init]

theorem Sized.control {e : SgEvent} (h : s.Sized) (hc : Control s e s') : s'.Sized := by
  cases hc with
  | refused => exact h
  | noBufs hlock hidle => exact ⟨h.starting, h.engine, h.held⟩
  | noSgl hlock hidle => exact ⟨h.starting, h.engine, h.held⟩
  | began config hvalid hlock hremove hidle =>
      refine ⟨?_, h.engine, h.held⟩
      rintro _ ⟨⟩
      exact hvalid
  | dma config b hlock hbufs hlt => exact ⟨h.starting, h.engine, h.held⟩
  | rolledBack config b hlock hbufs => exact ⟨nofun, h.engine, h.held⟩
  | ran config b hlock hbufs hlen =>
      exact ⟨nofun, .inl (h.starting config hlock).2.2.1, h.held⟩
  | stopping remove hlock hstate hremove => exact ⟨nofun, h.engine, h.held⟩
  | stopped remove hcancels hremove =>
      refine ⟨nofun, ?_, h.held⟩
      rcases h.engine with hsize | ⟨_, hquiet⟩
      · exact .inl hsize
      · exact .inr ⟨rfl, hquiet⟩
  | removed hlock hidle => exact ⟨h.starting, h.engine, h.held⟩
  | gone hstopped => exact ⟨h.starting, h.engine, h.held⟩

theorem Sized.worker (h : s.Sized) (ok : Bool) : (s.worker ok).Sized := by
  obtain ⟨hsize, _, _, hcallback⟩ := s.worker_frames ok
  rcases h.engine with hvalid | ⟨hidle, hquiet⟩
  · refine ⟨?_, .inl (by rwa [hsize]), ?_⟩
    · rw [(s.worker_memory ok).lock]
      exact h.starting
    · rw [hcallback]
      exact h.held
  · have hsame : s.worker ok = s := by simp [SgSystem.worker, hidle]
    rw [hsame]
    exact h

theorem Sized.finish (h : s.Sized) (k : Nat) : (s.finish k).Sized := by
  rcases h.engine with hvalid | ⟨hidle, hflight, hcallback⟩
  · refine ⟨?_, .inl (by rwa [(s.finish_state k).2.1]), ?_⟩
    · rw [(s.finish_memory k).lock]
      exact h.starting
    · unfold SgSystem.finish
      split
      · simp
      · exact h.held
  · have hsame : s.finish k = s := by simp [SgSystem.finish, hcallback, hflight]
    rw [hsame]
    exact h

theorem Sized.callback (h : s.Sized) (now : BitVec 64) : (s.apexSgDmaCallback now).Sized := by
  cases hcallback : s.callback with
  | none =>
      have hsame : s.apexSgDmaCallback now = s := by simp [apexSgDmaCallback, hcallback]
      rw [hsame]
      exact h
  | some c =>
      have hvalid : 4096 ≤ s.eng.bufSize.toNat := by
        rcases h.engine with hvalid | ⟨_, _, hnone⟩
        · exact hvalid
        · rw [hnone] at hcallback
          cases hcallback
      have hheld := h.held
      rw [hcallback] at hheld
      refine ⟨?_, .inl ?_, ?_⟩
      · rw [(s.callback_memory now).lock]
        exact h.starting
      · cases c <;> simpa [apexSgDmaCallback, hcallback] using hvalid
      · cases c with
        | load t =>
            simp only [apexSgDmaCallback, hcallback]
            rintro t' idx n (hnumber | hready)
            · cases hnumber
              exact hvalid
            · cases hready
        | number t idx n =>
            simp only [apexSgDmaCallback, hcallback]
            rintro t' idx' n' (hnumber | hready)
            · cases hnumber
            · cases hready
              exact hheld t idx n (.inl rfl)
        | ready t idx n => simp [apexSgDmaCallback, hcallback]
        | advance t => simp [apexSgDmaCallback, hcallback]
        | signal t => simp [apexSgDmaCallback, hcallback]

theorem Sized.step (h : s.Sized) (e : SgEvent) : (s.step e).Sized :=
  step_cases e (fun _ => h.control) (fun ok _ => h.worker ok) h.finish h.callback

end SgSystem

/-- The engine with the MCU's stream: the bytes of the session clocked out so far,
the DMA buffers, and what the session's READY buffers have exposed, in the order
of their sequence numbers. -/
structure SgStream where
  sys : SgSystem
  clocked : Nat
  memory : SgTransfer → Nat → Byte
  exposed : List Byte
  /-- The bytes in the session's completed buffers. -/
  filled : Nat

namespace SgStream

def init (memory : SgTransfer → Nat → Byte) : SgStream := ⟨.init, 0, memory, [], 0⟩

section

variable (frames : List WireFrame)

/-- A transfer brings the next bytes of the stream; behind it the line is idle. -/
def receive (t : SgTransfer) (n : Nat) (s : SgStream) : SgStream :=
  let data := padTake n ((frames.flatMap WireFrame.bytes).drop s.clocked)
  { s with
    clocked := s.clocked + n
    memory := Function.update s.memory t fun i => data.getD i (s.memory t i) }

/-- The callback marks a buffer READY: `data_len` of its bytes are exposed. -/
def expose (t : SgTransfer) (n : Nat) (s : SgStream) : SgStream :=
  { s with
    exposed := s.exposed ++ memBytes (s.memory t) n
    filled := s.filled + n }

/-- What a step of the engine means for the data. -/
def data (s : SgStream) : SgEvent → SgStream
  | .finish k =>
      match s.sys.callback, s.sys.inFlight[k]? with
      | none, some t => s.receive frames t s.sys.eng.bufSize.toNat
      | _, _ => s
  | .callback _ =>
      match s.sys.callback with
      | some (.ready t idx bufSize) => s.expose ⟨t.start, idx.toNat⟩ bufSize.toNat
      | _ => s
  | .startRun =>
      if s.sys.allocated then { s with clocked := 0, exposed := [], filled := 0 } else s
  | _ => s

def step (s : SgStream) (e : SgEvent) : SgStream := { s.data frames e with sys := s.sys.step e }

/-- The counters and the exposed bytes are those of the frames in the completed
buffers. -/
structure Accounted (s : SgStream) : Prop where
  framesRx : s.sys.eng.framesRx =
    BitVec.ofNat 32 ((WireFrame.contained s.filled frames).countP WireFrame.IsChunk)
  framesCrcErr : s.sys.eng.framesCrcErr =
    BitVec.ofNat 32 ((WireFrame.contained s.filled frames).countP WireFrame.Damaged)
  exposed : s.exposed = WireFrame.iqData (WireFrame.contained s.filled frames)

end

/-- The callback of a transfer marks its buffer READY. -/
def Completes (s : SgStream) : SgEvent → Prop
  | .callback _ => ∃ t idx bufSize, s.sys.callback = some (.ready t idx bufSize)
  | _ => False

/-- No buffer has been completed, and nothing is counted. -/
structure Silent (s : SgStream) : Prop where
  sized : s.sys.Sized
  framesRx : s.sys.eng.framesRx = 0
  framesCrcErr : s.sys.eng.framesCrcErr = 0
  exposed : s.exposed = []
  filled : s.filled = 0

theorem silent_init (memory : SgTransfer → Nat → Byte) : (init memory).Silent :=
  ⟨SgSystem.sized_init, rfl, rfl, rfl, rfl⟩

section

variable {frames : List WireFrame} {s : SgStream} {e : SgEvent}

theorem Silent.accounted (h : s.Silent) : s.Accounted frames where
  framesRx := by
    rw [h.filled, WireFrame.contained_zero]
    exact h.framesRx
  framesCrcErr := by
    rw [h.filled, WireFrame.contained_zero]
    exact h.framesCrcErr
  exposed := by
    rw [h.filled, WireFrame.contained_zero]
    exact h.exposed

/-- A step that completes no buffer neither counts nor exposes anything. -/
theorem Silent.counters (h : s.Silent) (he : ¬ s.Completes e) :
    (s.sys.step e).eng.framesRx = 0 ∧ (s.sys.step e).eng.framesCrcErr = 0 := by
  have hkept : s.sys.eng.framesRx = 0 ∧ s.sys.eng.framesCrcErr = 0 := ⟨h.framesRx, h.framesCrcErr⟩
  cases e with
  | worker ok =>
      obtain ⟨_, hrx, hcrc, _⟩ := s.sys.worker_frames ok
      exact ⟨hrx.trans h.framesRx, hcrc.trans h.framesCrcErr⟩
  | callback now =>
      simp only [SgSystem.step, SgSystem.apexSgDmaCallback]
      split
      case h_4 t idx n hready => exact absurd ⟨t, idx, n, hready⟩ he
      all_goals exact hkept
  | startRun =>
      simp only [SgSystem.step, SgSystem.startRun]
      repeat' split
      · exact ⟨rfl, rfl⟩
      all_goals exact hkept
  | _ => exact SgSystem.step_frames hkept (by simp) (by simp) (by simp)

theorem Silent.step (h : s.Silent) (he : ¬ s.Completes e) : (s.step frames e).Silent := by
  obtain ⟨hrx, hcrc⟩ := h.counters he
  have hdata : (s.data frames e).exposed = [] ∧ (s.data frames e).filled = 0 := by
    have hkept : s.exposed = [] ∧ s.filled = 0 := ⟨h.exposed, h.filled⟩
    unfold data
    split
    · split
      · exact hkept
      · exact hkept
    · split
      next t idx n hready => exact absurd ⟨t, idx, n, hready⟩ he
      · exact hkept
    · split
      · exact ⟨rfl, rfl⟩
      · exact hkept
    · exact hkept
  exact ⟨h.sized.step e, hrx, hcrc, hdata.1, hdata.2⟩

/-- Each completed buffer exposes all its bytes. -/
theorem exposed_length (memory : SgTransfer → Nat → Byte) (es : List SgEvent) :
    (run (SgStream.step frames) (init memory) es).exposed.length =
      (run (SgStream.step frames) (init memory) es).filled := by
  apply run_invariant (I := fun s : SgStream => s.exposed.length = s.filled) _ rfl
  intro s e h
  show (s.data frames e).exposed.length = (s.data frames e).filled
  unfold data
  split
  · split
    · exact h
    · exact h
  · split
    · simp only [expose, List.length_append, memBytes_length, h]
    · exact h
  · split
    · rfl
    · exact h
  · exact h

/-- The first completed buffer exposes as many bytes as it has, the headers and
checksums of the frames among them. -/
theorem Silent.completes (h : s.Silent) (hnext : (s.step frames e).Accounted frames) :
    ¬ s.Completes e := by
  intro hcompletes
  cases e with
  | callback now =>
      obtain ⟨t, idx, n, hready⟩ := hcompletes
      have hsize := h.sized.held t idx n (.inr hready)
      have hstep : s.step frames (.callback now) =
          { s.expose ⟨t.start, idx.toNat⟩ n.toNat with sys := s.sys.apexSgDmaCallback now } := by
        simp only [SgStream.step, data, hready, SgSystem.step]
      have hexposed := hnext.exposed
      rw [hstep] at hexposed
      have hlen := congrArg List.length hexposed
      simp only [expose, h.exposed, h.filled, List.nil_append, memBytes_length,
        Nat.zero_add] at hlen
      have hlt := WireFrame.iqData_length_lt (show 0 < n.toNat by omega) frames
      omega
  | _ => exact hcompletes

end

end SgStream

/-- For every stream of frames and every run of the engine: the frame counters and
the exposed bytes are those of the frames exactly as long as no buffer has been
completed. -/
theorem frames_accounted_iff (frames : List WireFrame) (memory : SgTransfer → Nat → Byte)
    (es : List SgEvent) :
    (∀ us, us <+: es → (run (SgStream.step frames) (.init memory) us).Accounted frames) ↔
      Along (SgStream.step frames) (fun s e => ¬ s.Completes e) (.init memory) es :=
  property_iff_along (I := SgStream.Silent) (fun _ h => h.accounted) (fun _ _ h he => h.step he)
    (fun _ _ h hnext => h.completes hnext) (SgStream.silent_init memory) es

def goodChunk : WireFrame :=
  ⟨apexCmdSdrIqChunk, [1, 2, 3, 4], by decide, crc64 (headerFields apexCmdSdrIqChunk 4 0),
    crc32 [1, 2, 3, 4]⟩

def badChunk : WireFrame := { goodChunk with trailer := goodChunk.trailer + 1 }

/-- Two good frames of four samples and one with a wrong trailer, all in one buffer:
they count as one good frame, and the buffer exposes 4096 bytes. -/
theorem frames_miscounted :
    let frames := [goodChunk, goodChunk, badChunk]
    let es := SgSystem.started ++ SgSystem.filled
    let s := run (SgStream.step frames) (.init fun _ _ => 0) es
    Along SgSystem.step SgSystem.Patient .init es ∧
      (WireFrame.contained s.filled frames).countP WireFrame.IsChunk = 2 ∧
      (WireFrame.contained s.filled frames).countP WireFrame.Damaged = 1 ∧
      s.sys.eng.framesRx = 1 ∧ s.sys.eng.framesCrcErr = 0 ∧ s.exposed.length = 4096 ∧
      ¬ s.Accounted frames := by
  intro frames es s
  have hpatient : Along SgSystem.step SgSystem.Patient .init es := by decide +kernel
  have hcounted : s.filled = 4096 ∧ s.sys.eng.framesRx = 1 ∧ s.sys.eng.framesCrcErr = 0 := by
    decide +kernel
  obtain ⟨hfilled, hrx, hcrc⟩ := hcounted
  have hexposed : s.exposed.length = 4096 :=
    (SgStream.exposed_length (fun _ _ => 0) es).trans hfilled
  have hgood : ¬ goodChunk.Damaged := by simp [WireFrame.Damaged, goodChunk]
  have hbad : badChunk.Damaged := .inr (SgConsumer.succ_ne _)
  have hall : WireFrame.contained s.filled frames = frames := by
    rw [hfilled]
    simp [frames, WireFrame.contained, goodChunk, badChunk]
  have hchunk : goodChunk.IsChunk := ⟨rfl, hgood⟩
  have hnochunk : ¬ badChunk.IsChunk := fun h => h.2 hbad
  refine ⟨hpatient, ?_, ?_, hrx, hcrc, hexposed, ?_⟩
  · rw [hall]
    simp [frames, hchunk, hnochunk]
  · rw [hall]
    simp [frames, hgood, hbad]
  · intro haccounted
    have hlen := congrArg List.length haccounted.exposed
    rw [hexposed, hfilled] at hlen
    have hlt := WireFrame.iqData_length_lt (show 0 < 4096 by decide) frames
    omega

end GhostBlade.Host
