import GhostBlade.Host.RxStream

/-!
`apex_sdr_read_iq` of the library takes every byte of `read()` for IQ data, but
the driver puts the payloads of all accepted frames into the one FIFO. What the
library returns is the IQ data exactly when no other frame brings a payload.
-/

namespace GhostBlade.Host

open GhostBlade.Library GhostBlade.Protocol

def apexOk : Int := 0
def apexErrInvalidArg : Int := -1
def apexErrComm : Int := -6

/-- What `apex_sdr_read_iq` returns, with the bytes it has put into the buffer;
`samples_read` is their number. -/
structure IqRead where
  dev : Dev
  ret : Int
  samples : List Byte

/-- `apex_sdr_read_iq` with a buffer of `bufLen` bytes, on a handle opened by
`apex_open`, hence a blocking one. -/
def apexSdrReadIq (bufLen : Nat) (sawEmpty : Bool) (waited : Int) (env : Env) (dev : Dev) :
    IqRead :=
  if bufLen = 0 then ⟨dev, apexErrInvalidArg, []⟩
  else
    let r := apexBridgeRead sawEmpty false waited bufLen { env with userCopy := fun _ => true } dev
    if r.ret < 0 then ⟨r.dev, apexErrComm, []⟩ else ⟨r.dev, apexOk, r.out⟩

/-- What happens while IQ data is streaming. -/
inductive StreamEvent where
  | rxWork (env : Env)
  | write (data : List Byte) (env : Env)
  | ioctl (cmd : BitVec 32) (arg : Nat → Byte) (env : Env)
  | readIq (bufLen : Nat) (sawEmpty : Bool) (waited : Int) (env : Env)

def streamStep (dev : Dev) : StreamEvent → Dev
  | .rxWork env => (apexRxWorkHandler env dev).dev
  | .write data env => (apexBridgeWrite data env dev).dev
  | .ioctl cmd arg env => (apexBridgeIoctl cmd arg env dev).dev
  | .readIq bufLen sawEmpty waited env => (apexSdrReadIq bufLen sawEmpty waited env dev).dev

/-- The bytes `apex_sdr_read_iq` returns in a step. -/
def iqOut (dev : Dev) : StreamEvent → List Byte
  | .readIq bufLen sawEmpty waited env => (apexSdrReadIq bufLen sawEmpty waited env dev).samples
  | .rxWork _ | .write .. | .ioctl .. => []

/-- The driver's operation behind an event. -/
def StreamEvent.toOp : StreamEvent → DriverOp × Env
  | .rxWork env => (.rxWork, env)
  | .write data env => (.write data, env)
  | .ioctl cmd arg env => (.ioctl cmd arg, env)
  | .readIq bufLen sawEmpty waited env =>
      (.read sawEmpty false waited bufLen, { env with userCopy := fun _ => true })

/-- A failed `read()` returns no bytes, and one of no bytes does nothing. -/
theorem apexBridgeRead_out (sawEmpty nonblock : Bool) (waited : Int) (count : Nat) (env : Env)
    (dev : Dev) :
    ((apexBridgeRead sawEmpty nonblock waited count env dev).ret < 0 →
        (apexBridgeRead sawEmpty nonblock waited count env dev).out = []) ∧
      (count = 0 → (apexBridgeRead sawEmpty nonblock waited count env dev).dev = dev ∧
        (apexBridgeRead sawEmpty nonblock waited count env dev).out = []) := by
  have hdone (ret : Int) : ((Result.done dev ret).ret < 0 → (Result.done dev ret).out = []) ∧
      (count = 0 → (Result.done dev ret).dev = dev ∧ (Result.done dev ret).out = []) :=
    ⟨fun _ => rfl, fun _ => ⟨rfl, rfl⟩⟩
  unfold apexBridgeRead
  dsimp only
  split
  · exact hdone _
  split
  · exact hdone _
  split
  · exact hdone _
  next hsome =>
  have hcount : count ≠ 0 := by
    rintro rfl
    exact hsome (Nat.zero_min _)
  split
  · exact hdone _
  split
  · refine ⟨?_, fun h => absurd h hcount⟩
    intro hneg
    exact absurd hneg (not_lt.mpr (Int.natCast_nonneg _))
  · exact ⟨fun _ => rfl, fun h => absurd h hcount⟩

/-- The library's read is the driver's. -/
theorem apexSdrReadIq_eq (bufLen : Nat) (sawEmpty : Bool) (waited : Int) (env : Env)
    (dev : Dev) :
    let r := apexBridgeRead sawEmpty false waited bufLen { env with userCopy := fun _ => true } dev
    (apexSdrReadIq bufLen sawEmpty waited env dev).dev = r.dev ∧
      (apexSdrReadIq bufLen sawEmpty waited env dev).samples = r.out := by
  obtain ⟨hfailed, hnone⟩ := apexBridgeRead_out sawEmpty false waited bufLen
    { env with userCopy := fun _ => true } dev
  intro r
  unfold apexSdrReadIq
  split
  · next hzero =>
    obtain ⟨hdev, hout⟩ := hnone hzero
    exact ⟨hdev.symm, hout.symm⟩
  · dsimp only
    split
    · next hneg => exact ⟨rfl, (hfailed hneg).symm⟩
    · exact ⟨rfl, rfl⟩

theorem streamStep_eq (dev : Dev) (e : StreamEvent) :
    streamStep dev e = driverStep dev e.toOp ∧ iqOut dev e = readOut e.toOp.1 e.toOp.2 dev := by
  cases e with
  | rxWork env => exact ⟨rfl, rfl⟩
  | write data env => exact ⟨rfl, rfl⟩
  | ioctl cmd arg env => exact ⟨rfl, rfl⟩
  | readIq bufLen sawEmpty waited env => exact apexSdrReadIq_eq bufLen sawEmpty waited env dev

/-- Everything `apex_sdr_read_iq` returns during a run. -/
def iqReturned (dev : Dev) (es : List StreamEvent) : List Byte := observe streamStep iqOut dev es

/-- The payloads of the IQ frames accepted during a run. -/
def iqChunks (dev : Dev) (es : List StreamEvent) : List (List Byte) :=
  ((receivedFrames dev (es.map StreamEvent.toOp)).filter (·.cmd = apexCmdSdrIqChunk)).map
    Received.payload

/-- Every payload handed to the FIFO in this step fits. -/
def NoOverflow (dev : Dev) (e : StreamEvent) : Prop :=
  ∀ r, driverStored e.toOp.1 e.toOp.2 dev = some r → r.payload.length ≤ dev.rxFifo.room

theorem stream_run (dev : Dev) (es : List StreamEvent) :
    run streamStep dev es = run driverStep dev (es.map StreamEvent.toOp) ∧
      iqReturned dev es = returned dev (es.map StreamEvent.toOp) := by
  have hstep : streamStep = fun dev e => driverStep dev (StreamEvent.toOp e) := by
    funext dev e
    exact (streamStep_eq dev e).1
  have hout : iqOut = fun dev e => readOut (StreamEvent.toOp e).1 (StreamEvent.toOp e).2 dev := by
    funext dev e
    exact (streamStep_eq dev e).2
  unfold iqReturned returned
  rw [run_map, observe_map, hstep, hout]
  exact ⟨rfl, rfl⟩

theorem roomy_of_noOverflow (dev : Dev) (e : StreamEvent) (h : NoOverflow dev e)
    (ret : List Byte) :
    Traffic.Roomy ⟨dev.rxFifo, ret⟩ (driverFifoOp e.toOp.1 e.toOp.2 dev) := by
  have hstored (stored : Option Received)
      (hfits : ∀ r, stored = some r → r.payload.length ≤ dev.rxFifo.room) :
      Traffic.Roomy ⟨dev.rxFifo, ret⟩ (storeOp stored) := by
    cases stored with
    | none => trivial
    | some r => exact hfits r rfl
  cases e with
  | rxWork env => exact hstored _ h
  | write data env => exact hstored _ h
  | ioctl cmd arg env => trivial
  | readIq bufLen sawEmpty waited env =>
      unfold StreamEvent.toOp driverFifoOp
      dsimp only
      repeat' split
      all_goals trivial

/-- An IQ frame is never dropped before the FIFO. -/
theorem received_iq_stored (dev : Dev) (es : List (DriverOp × Env)) :
    (receivedFrames dev es).filter (·.cmd = apexCmdSdrIqChunk) =
      (storedFrames dev es).filter (·.cmd = apexCmdSdrIqChunk) := by
  have hone (e : DriverOp × Env) (dev : Dev) :
      (driverReceived e.1 e.2 dev).toList.filter (·.cmd = apexCmdSdrIqChunk) =
        (driverStored e.1 e.2 dev).toList.filter (·.cmd = apexCmdSdrIqChunk) := by
    unfold driverStored
    generalize driverReceived e.1 e.2 dev = received
    split
    · cases received with
      | none => rfl
      | some r =>
          by_cases hiq : r.cmd = apexCmdSdrIqChunk
          · have hgood : r.malformed = false := by
              have h := iq_not_malformed r.payload
              rwa [← hiq] at h
            rw [Option.filter_some, hgood]
            rfl
          · rw [Option.filter_some]
            cases r.malformed <;> simp [hiq]
    · rfl
  induction es generalizing dev with
  | nil => rfl
  | cons e es ih =>
      unfold receivedFrames storedFrames at ih ⊢
      simp only [observe, List.filter_append, hone, ih]

/-- Leaving out some parts of a concatenation changes nothing exactly when these
parts are empty. -/
theorem flatten_filter_eq_iff {α β : Type*} (keep : β → Bool) (f : β → List α) (l : List β) :
    (l.map f).flatten = ((l.filter keep).map f).flatten ↔
      ∀ x ∈ l, keep x = false → f x = [] := by
  have hle (l : List β) : ((l.filter keep).map f).flatten.length ≤ (l.map f).flatten.length :=
    (List.filter_sublist.map f).flatten.length_le
  constructor
  · intro heq
    have hlen := congrArg List.length heq
    clear heq
    induction l with
    | nil => simp
    | cons y l ih =>
        have hrest := hle l
        cases hy : keep y with
        | true =>
            simp only [List.filter_cons_of_pos hy, List.map_cons, List.flatten_cons,
              List.length_append, Nat.add_left_cancel_iff] at hlen
            intro x hx hdrop
            rcases List.mem_cons.mp hx with rfl | hx
            · rw [hy] at hdrop
              cases hdrop
            · exact ih hlen x hx hdrop
        | false =>
            have hneg : ¬ keep y = true := by simp [hy]
            simp only [List.filter_cons_of_neg hneg, List.map_cons, List.flatten_cons,
              List.length_append] at hlen
            intro x hx hdrop
            rcases List.mem_cons.mp hx with rfl | hx
            · exact List.eq_nil_of_length_eq_zero (by omega)
            · exact ih (by omega) x hx hdrop
  · intro hempty
    induction l with
    | nil => rfl
    | cons y l ih =>
        have hrest := ih fun x hx => hempty x (List.mem_cons_of_mem _ hx)
        cases hy : keep y with
        | true => rw [List.filter_cons_of_pos hy, List.map_cons, List.map_cons, List.flatten_cons,
            List.flatten_cons, hrest]
        | false =>
            have hneg : ¬ keep y = true := by simp [hy]
            rw [List.filter_cons_of_neg hneg, List.map_cons, List.flatten_cons,
              hempty y List.mem_cons_self hy, List.nil_append, hrest]

/-- While the FIFO does not overflow, what the library has returned and what is
still in the FIFO are the IQ data exactly when no other frame has put a payload
into the FIFO. -/
theorem iq_stream_pure_iff (es : List StreamEvent)
    (h : Along streamStep NoOverflow Dev.probed es) :
    iqReturned Dev.probed es ++ (run streamStep Dev.probed es).rxFifo.items =
        (iqChunks Dev.probed es).flatten ↔
      ∀ r ∈ storedFrames Dev.probed (es.map StreamEvent.toOp),
        r.cmd ≠ apexCmdSdrIqChunk → r.payload = [] := by
  have hstep : streamStep = fun dev e => driverStep dev (StreamEvent.toOp e) := by
    funext dev e
    exact (streamStep_eq dev e).1
  have hroomy : Along driverStep
      (fun dev e => ∀ ret, Traffic.Roomy ⟨dev.rxFifo, ret⟩ (driverFifoOp e.1 e.2 dev))
      Dev.probed (es.map StreamEvent.toOp) := by
    rw [along_map, ← hstep]
    exact along_mono (I := fun _ => True) (fun _ _ _ _ => trivial)
      (fun dev e _ he => roomy_of_noOverflow dev e he) trivial h
  have hstream := Traffic.run_roomy ⟨Dev.probed.rxFifo, []⟩ _ (along_traffic [] hroomy)
  rw [run_traffic, List.nil_append, pushed_stored] at hstream
  obtain ⟨hrun, hreturned⟩ := stream_run Dev.probed es
  have hall : iqReturned Dev.probed es ++ (run streamStep Dev.probed es).rxFifo.items =
      ((storedFrames Dev.probed (es.map StreamEvent.toOp)).map Received.payload).flatten := by
    rw [hrun, hreturned]
    exact hstream
  rw [hall, iqChunks, received_iq_stored, flatten_filter_eq_iff]
  simp

theorem noOverflow_rxWork (dev : Dev) (cmd : Byte) (payload : List Byte)
    (hlen : payload.length ≤ maxPayload) (hgood : Received.malformed ⟨cmd, payload⟩ = false)
    (hroom : payload.length ≤ dev.rxFifo.room) :
    NoOverflow dev (.rxWork (.ok (encode cmd payload))) := by
  intro r hr
  have hreceived := (rxFrame_step dev cmd payload hlen hgood).1
  have heq := hreceived.symm.trans (driverStored_received hr)
  rw [← Option.some.inj heq]
  exact hroom

theorem noOverflow_readIq (dev : Dev) (bufLen : Nat) (sawEmpty : Bool) (waited : Int) (env : Env) :
    NoOverflow dev (.readIq bufLen sawEmpty waited env) :=
  fun _ hr => nomatch hr

/-- One IQ frame is read back. -/
theorem iq_stream_pure_one :
    let es := [StreamEvent.rxWork (.ok (encode apexCmdSdrIqChunk [1, 2])),
      .readIq 8 false 0 (.ok [])]
    iqReturned Dev.probed es ++ (run streamStep Dev.probed es).rxFifo.items =
        (iqChunks Dev.probed es).flatten ↔
      ∀ r ∈ storedFrames Dev.probed (es.map StreamEvent.toOp),
        r.cmd ≠ apexCmdSdrIqChunk → r.payload = [] := by
  apply iq_stream_pure_iff
  exact ⟨noOverflow_rxWork _ _ _ (by decide) (iq_not_malformed _)
    (show _ ≤ 65536 by decide), noOverflow_readIq _ _ _ _ _, trivial⟩

def telemetryPayload : List Byte := List.replicate telemetrySize 0

/-- A telemetry record behind some IQ data, and a read of everything. -/
theorem telemetry_then_read (dev : Dev) (h : dev.rxFifo.items.length ≤ 48) :
    let tail := [rxFrame apexCmdTelemetry telemetryPayload, readOf 64]
    NoOverflow dev (.rxWork (.ok (encode apexCmdTelemetry telemetryPayload))) ∧
      receivedFrames dev tail = [⟨apexCmdTelemetry, telemetryPayload⟩] ∧
      returned dev tail = dev.rxFifo.items ++ telemetryPayload := by
  have hgood : Received.malformed ⟨apexCmdTelemetry, telemetryPayload⟩ = false := by decide
  have hsize : telemetryPayload.length = 16 := rfl
  obtain ⟨hrecv, hfifo, hout⟩ :=
    rxFrame_step dev apexCmdTelemetry telemetryPayload (by decide) hgood
  have hroom : telemetryPayload.length ≤ dev.rxFifo.room := by
    have hcap : apexRxFifoSize = 65536 := rfl
    unfold Fifo.room
    omega
  have hitems := dev.rxFifo.push_items_of_fits _ hroom
  rw [← hfifo] at hitems
  obtain ⟨_, hall⟩ := readOf_all _ 64 (show _ ≤ 64 by rw [hitems, List.length_append]; omega)
  refine ⟨noOverflow_rxWork dev _ _ (by decide) hgood hroom, ?_, ?_⟩
  · simp only [receivedFrames, observe, hrecv]
    rfl
  · simp only [returned, observe, hout, hall, hitems]
    rw [List.nil_append, List.append_nil]

/-- A chunk of IQ data, a telemetry record, and a read of everything. -/
def mixedRun : List StreamEvent :=
  [.rxWork (.ok (encode apexCmdSdrIqChunk [1, 2])),
    .rxWork (.ok (encode apexCmdTelemetry telemetryPayload)), .readIq 64 false 0 (.ok [])]

/-- The library returns the telemetry as IQ data, though nothing has
overflowed. -/
theorem telemetry_read_as_iq :
    Along streamStep NoOverflow Dev.probed mixedRun ∧
      iqReturned Dev.probed mixedRun ≠ (iqChunks Dev.probed mixedRun).flatten := by
  have hops : mixedRun.map StreamEvent.toOp =
      [rxIq [1, 2], rxFrame apexCmdTelemetry telemetryPayload, readOf 64] := rfl
  have hroom : [1#8, 2#8].length ≤ Dev.probed.rxFifo.room := show _ ≤ 65536 by decide
  obtain ⟨hrecv, hfifo, hout⟩ := rxIq_step Dev.probed [1, 2] (by decide)
  have hitems : (driverStep Dev.probed (rxIq [1, 2])).rxFifo.items = [1, 2] := by
    rw [hfifo]
    exact Dev.probed.rxFifo.push_items_of_fits _ hroom
  obtain ⟨htwo, hrecv', hout'⟩ := telemetry_then_read (driverStep Dev.probed (rxIq [1, 2]))
    (by rw [hitems]; decide)
  rw [hitems] at hout'
  have hone := noOverflow_rxWork Dev.probed apexCmdSdrIqChunk [1, 2] (by decide)
    (iq_not_malformed _) hroom
  refine ⟨⟨hone, htwo, noOverflow_readIq _ _ _ _ _, trivial⟩, ?_⟩
  have hiq : iqReturned Dev.probed mixedRun = [1, 2] ++ telemetryPayload := by
    rw [(stream_run Dev.probed mixedRun).2, hops, ← hout']
    unfold returned
    rw [observe, hout, List.nil_append]
  have hchunks : iqChunks Dev.probed mixedRun = [[1, 2]] := by
    have hframes : receivedFrames Dev.probed (mixedRun.map StreamEvent.toOp) =
        [⟨apexCmdSdrIqChunk, [1, 2]⟩, ⟨apexCmdTelemetry, telemetryPayload⟩] := by
      rw [hops]
      unfold receivedFrames at hrecv' ⊢
      rw [observe, hrecv, hrecv']
      rfl
    rw [iqChunks, hframes]
    rfl
  rw [hiq, hchunks]
  decide

end GhostBlade.Host
