import GhostBlade.Bridge.RoundTrip
import GhostBlade.Host.RxStream

/-!
Two runs of the driver with the same requests and the same replies, whose
freshly allocated memory holds different bytes. Everything the driver keeps and
everything it transmits is the same in both, except behind the NOP frame of the
RX work: its transfer is as long as the largest frame, and the memory behind the
frame goes out with it. The runs transmit the same bytes exactly when that
memory happens to agree.
-/

namespace GhostBlade.Bridge

open GhostBlade.Library GhostBlade.Library.Framing GhostBlade.Protocol GhostBlade.Host
open GhostBlade.Firmware

/-- An operation as two runs perform it: in the same surroundings, but for what
fresh memory holds in the second one. -/
structure TwinEvent where
  op : DriverOp
  env : Env
  heap : Nat → Nat → Byte

def TwinEvent.first (e : TwinEvent) : DriverOp × Env := (e.op, e.env)

def TwinEvent.second (e : TwinEvent) : DriverOp × Env := (e.op, { e.env with heap := e.heap })

/-- The transmit buffers handed to `spi_sync` during a run. -/
def transmissions (dev : Dev) (es : List (DriverOp × Env)) : List (List Byte) :=
  observe driverStep (fun dev e => (driverOp e.1 e.2 dev).sent.toList) dev es

/-- If this is RX work that gets as far as its transfer, both runs find the same
bytes behind the NOP frame. -/
def TwinEvent.SameTail (e : TwinEvent) : Prop :=
  e.op = .rxWork → e.env.allocOk 0 = true ∧ e.env.allocOk 1 = true →
    ∀ i, 20 ≤ i → i < frameSizeMax → e.env.heap 1 i = e.heap 1 i

theorem memBytes_drop_eq_iff (mem mem' : Nat → Byte) (n k : Nat) :
    (memBytes mem n).drop k = (memBytes mem' n).drop k ↔
      ∀ i, k ≤ i → i < n → mem i = mem' i := by
  constructor
  · intro heq i hk hn
    have hat := congrArg (·[i - k]?) heq
    simpa [memBytes, List.getElem?_drop, Nat.add_sub_cancel' hk, hn] using hat
  · intro hall
    apply List.ext_getElem
    · simp
    · intro i hi hi'
      simp only [List.length_drop, memBytes_length] at hi
      simpa [memBytes] using hall (k + i) (by omega) (by omega)

theorem rxWorkTx_eq_iff (env : Env) (heap : Nat → Nat → Byte) :
    rxWorkTx env = rxWorkTx { env with heap := heap } ↔
      ∀ i, 20 ≤ i → i < frameSizeMax → env.heap 1 i = heap 1 i := by
  unfold rxWorkTx
  rw [List.append_cancel_left_eq]
  exact memBytes_drop_eq_iff _ _ _ _

/-- The device does not depend on fresh memory. -/
theorem driverOp_heap (op : DriverOp) (env : Env) (heap : Nat → Nat → Byte) (dev : Dev) :
    (driverOp op { env with heap := heap } dev).dev = (driverOp op env dev).dev := by
  cases op with
  | «open» pmGet => rfl
  | release => rfl
  | sgWorker work => rfl
  | read sawEmpty nonblock waited count =>
      simp only [driverOp, apexBridgeRead, Env.kmalloc]
      cases env.allocOk 0 <;> rfl
  | ioctl cmd arg =>
      obtain ⟨r, _, hr⟩ := apexBridgeIoctl_settled cmd arg env dev
      exact congrArg Result.dev ((hr heap).trans (hr env.heap).symm)
  | rxWork =>
      simp only [driverOp]
      rw [apexRxWorkHandler_eq, apexRxWorkHandler_eq]
      split <;> rfl
  | write data =>
      simp only [driverOp]
      rcases apexBridgeWrite_cases data env with ⟨ret, herror⟩ | ⟨_, hok⟩
      · exact congrArg Result.dev ((herror heap dev).trans (herror env.heap dev).symm)
      · exact congrArg Result.dev ((hok heap dev).trans (hok env.heap dev).symm)

/-- Whether an operation transmits is the same in both runs, and what it
transmits is the same exactly when the tails agree. -/
theorem twin_sent (e : TwinEvent) (dev : Dev) :
    (driverOp e.first.1 e.first.2 dev).sent.toList.length =
        (driverOp e.second.1 e.second.2 dev).sent.toList.length ∧
      ((driverOp e.first.1 e.first.2 dev).sent.toList =
        (driverOp e.second.1 e.second.2 dev).sent.toList ↔ e.SameTail) := by
  have hsame (h : (driverOp e.op e.env dev).sent =
      (driverOp e.op { e.env with heap := e.heap } dev).sent) (hop : e.op ≠ .rxWork) :
      (driverOp e.op e.env dev).sent.toList.length =
          (driverOp e.op { e.env with heap := e.heap } dev).sent.toList.length ∧
        ((driverOp e.op e.env dev).sent.toList =
          (driverOp e.op { e.env with heap := e.heap } dev).sent.toList ↔ e.SameTail) := by
    rw [h]
    exact ⟨rfl, fun _ hrx => absurd hrx hop, fun _ => rfl⟩
  obtain ⟨op, env, heap⟩ := e
  unfold TwinEvent.first TwinEvent.second
  cases op with
  | «open» pmGet => exact hsame rfl DriverOp.noConfusion
  | release => exact hsame rfl DriverOp.noConfusion
  | sgWorker work => exact hsame rfl DriverOp.noConfusion
  | read sawEmpty nonblock waited count =>
      apply hsame _ DriverOp.noConfusion
      simp only [driverOp, apexBridgeRead, Env.kmalloc]
      cases env.allocOk 0 <;> rfl
  | ioctl cmd arg =>
      apply hsame _ DriverOp.noConfusion
      obtain ⟨r, _, hr⟩ := apexBridgeIoctl_settled cmd arg env dev
      exact congrArg Result.sent ((hr env.heap).trans (hr heap).symm)
  | write data =>
      apply hsame _ DriverOp.noConfusion
      rcases apexBridgeWrite_cases data env with ⟨ret, herror⟩ | ⟨_, hok⟩
      · exact congrArg Result.sent ((herror env.heap dev).trans (herror heap dev).symm)
      · exact congrArg Result.sent ((hok env.heap dev).trans (hok heap dev).symm)
  | rxWork =>
      simp only [driverOp]
      rw [apexRxWorkHandler_eq, apexRxWorkHandler_eq]
      by_cases hbufs : env.allocOk 0 = true ∧ env.allocOk 1 = true
      · have htail := rxWorkTx_eq_iff env heap
        rw [if_pos hbufs, if_pos hbufs]
        dsimp only
        generalize rxWorkTx env = tx, rxWorkTx _ = tx' at htail ⊢
        refine ⟨rfl, ?_⟩
        rw [Option.toList_some, Option.toList_some, List.singleton_inj, htail]
        exact ⟨fun h _ _ => h, fun h => h rfl hbufs⟩
      · rw [if_neg hbufs, if_neg hbufs]
        exact ⟨rfl, fun _ _ h => absurd h hbufs, fun _ => rfl⟩

/-- The runs stay in step whatever memory holds. -/
theorem twin_step (e : TwinEvent) (dev : Dev) :
    driverStep dev e.second = driverStep dev e.first :=
  driverOp_heap e.op e.env e.heap dev

/-- Both runs transmit the same, and every MCU that listens ends in the same
state, exactly when each transfer of the RX work finds the same bytes behind its
NOP frame. -/
theorem transmissions_agree_iff (dev : Dev) (es : List TwinEvent) :
    (transmissions dev (es.map TwinEvent.first) = transmissions dev (es.map TwinEvent.second) ∧
        ∀ p : SpiProtocol, p.feed (transmissions dev (es.map TwinEvent.first)).flatten =
          p.feed (transmissions dev (es.map TwinEvent.second)).flatten) ↔
      ∀ e ∈ es, e.SameTail := by
  have hsent : transmissions dev (es.map TwinEvent.first) =
      transmissions dev (es.map TwinEvent.second) ↔ ∀ e ∈ es, e.SameTail := by
    induction es generalizing dev with
    | nil => simp [transmissions]
    | cons e es ih =>
        obtain ⟨hcount, hone⟩ := twin_sent e dev
        have hrest := ih (driverStep dev e.first)
        rw [List.forall_mem_cons, ← hone, ← hrest]
        unfold transmissions
        rw [List.map_cons, List.map_cons, observe, observe, twin_step]
        constructor
        · intro heq
          exact List.append_inj heq hcount
        · rintro ⟨h1, h2⟩
          rw [h1, h2]
  constructor
  · rintro ⟨heq, _⟩
    exact hsent.mp heq
  · intro hall
    have heq := hsent.mpr hall
    exact ⟨heq, fun p => by rw [heq]⟩

/-- Requests with silence behind them are dispatched like the requests alone. -/
theorem feed_requests_quiet (p : SpiProtocol) (hidle : p.rx.state = .idle)
    (requests : List Request) (rest : List Byte) (hquiet : syncByte ∉ rest) :
    (p.feed (requests.flatMap Request.encoding ++ rest)).dispatched =
      p.dispatched ++ requests.map Request.dispatched := by
  obtain ⟨hscan, hsigs, _⟩ := requests_scanned requests
  obtain ⟨_, hnone⟩ := mainPolicy.format.idle_quiet rest hquiet
  have hfed := (feed_follows p (requests.flatMap Request.encoding ++ rest)
    (RxCtx.valid_of_idle hidle)).dispatched
  rw [RxCtx.scan_of_idle hidle, Format.signals_append, hscan, hnone, List.append_nil, hsigs] at hfed
  exact hfed

/-- Memory in which a frame sits where the RX work puts the end of its own. -/
def staleHeap (frame : List Byte) : Nat → Nat → Byte := fun _ i => frame.getD (i - 20) 0

theorem memBytes_stale (frame : List Byte) :
    (memBytes (staleHeap frame 1) frameSizeMax).drop 20 = padTake 4092 frame := by
  have hsize : frameSizeMax = 4112 := rfl
  apply List.ext_getElem
  · rw [List.length_drop, memBytes_length, padTake_length, hsize]
  · intro i hi hi'
    rw [padTake_length] at hi'
    have hat : (padTake 4092 frame)[i]? = some (frame.getD i 0) := by
      rcases Nat.lt_or_ge i frame.length with hin | hout
      · rw [padTake, List.getElem?_append_left (by rw [List.length_take]; omega),
          List.getElem?_take_of_lt hi', List.getD_eq_getElem?_getD, List.getElem?_eq_getElem hin]
        rfl
      · rw [padTake, List.getElem?_append_right (by rw [List.length_take]; omega),
          List.getElem?_replicate_of_lt (by rw [List.length_take]; omega),
          List.getD_eq_getElem?_getD, List.getElem?_eq_none hout]
        rfl
    rw [List.getElem?_eq_getElem (by rw [padTake_length]; exact hi'), Option.some.injEq] at hat
    rw [hat]
    simp [memBytes, staleHeap]

theorem transmissions_rxWork (env : Env) (dev : Dev)
    (hbufs : env.allocOk 0 = true ∧ env.allocOk 1 = true) :
    transmissions dev [(.rxWork, env)] = [rxWorkTx env] := by
  unfold transmissions
  rw [observe, observe, List.append_nil]
  simp only [driverOp]
  rw [apexRxWorkHandler_eq, if_pos hbufs, Option.toList_some]

/-- What the MCU makes of the RX work's transfer when such a frame, or none, sits
behind the NOP frame. -/
theorem stale_transfer_dispatched (p : SpiProtocol) (hidle : p.rx.state = .idle)
    (requests : List Request) (hfit : (requests.flatMap Request.encoding).length ≤ 4092) :
    (p.feed (rxWorkTx { Env.ok [] with
        heap := staleHeap (requests.flatMap Request.encoding) })).dispatched =
      p.dispatched ++ ⟨cmdNop, 0, []⟩ :: requests.map Request.dispatched := by
  have hnop : (Request.of cmdNop [] (by decide)).encoding = encode apexCmdNop [] :=
    Request.encoding_eq _
  have hstream : rxWorkTx { Env.ok [] with
      heap := staleHeap (requests.flatMap Request.encoding) } =
      (Request.of cmdNop [] (by decide) :: requests).flatMap Request.encoding ++
        List.replicate (4092 - (requests.flatMap Request.encoding).length) 0 := by
    unfold rxWorkTx
    rw [memBytes_stale, padTake_of_le _ _ hfit, List.flatMap_cons, hnop, List.append_assoc]
  have hquiet : syncByte ∉
      List.replicate (4092 - (requests.flatMap Request.encoding).length) (0 : Byte) := by
    intro hmem
    have hzero := (List.mem_replicate.mp hmem).2
    revert hzero
    decide
  rw [hstream, feed_requests_quiet p hidle _ _ hquiet]
  rfl

/-- An RX work whose transmit buffer holds an old command in the second run. -/
def staleEvent : TwinEvent where
  op := .rxWork
  env := { Env.ok [] with heap := staleHeap [] }
  heap := staleHeap (encode cmdSdrStream [1])

/-- The old command goes out behind the NOP frame, and the MCU executes it. -/
theorem stale_command_dispatched :
    let first := transmissions Dev.probed [staleEvent.first]
    let second := transmissions Dev.probed [staleEvent.second]
    first ≠ second ∧
      ((boot true true true).proto.feed first.flatten).dispatched = [⟨cmdNop, 0, []⟩] ∧
      ((boot true true true).proto.feed second.flatten).dispatched =
        [⟨cmdNop, 0, []⟩, ⟨cmdSdrStream, 1, [1]⟩] := by
  intro first second
  let request := Request.of cmdSdrStream [1] (by decide)
  have hencoding : [request].flatMap Request.encoding = encode cmdSdrStream [1] := by
    rw [List.flatMap_singleton]
    exact request.encoding_eq
  have hfirst : ((boot true true true).proto.feed first.flatten).dispatched =
      [⟨cmdNop, 0, []⟩] := by
    have h := stale_transfer_dispatched (boot true true true).proto rfl [] (by decide)
    have htx : first = [rxWorkTx { Env.ok [] with heap := staleHeap [] }] :=
      transmissions_rxWork _ _ ⟨rfl, rfl⟩
    rw [htx, List.flatten_singleton]
    exact h
  have hsecond : ((boot true true true).proto.feed second.flatten).dispatched =
      [⟨cmdNop, 0, []⟩, ⟨cmdSdrStream, 1, [1]⟩] := by
    have h := stale_transfer_dispatched (boot true true true).proto rfl [request]
      (by rw [hencoding, encode_length]; decide)
    have htx : second = [rxWorkTx { Env.ok [] with heap := staleHeap (encode cmdSdrStream [1]) }] :=
      transmissions_rxWork _ _ ⟨rfl, rfl⟩
    rw [htx, List.flatten_singleton, ← hencoding]
    exact h
  refine ⟨?_, hfirst, hsecond⟩
  intro heq
  rw [heq, hsecond] at hfirst
  have hlen := congrArg List.length hfirst
  revert hlen
  decide

end GhostBlade.Bridge
