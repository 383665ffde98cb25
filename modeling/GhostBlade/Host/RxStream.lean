import GhostBlade.Host.Operations

/-!
What comes out of `read()`. The RX FIFO carries the payloads of accepted frames
as plain bytes; the operations of the driver are FIFO traffic. As long as no
payload is cut short by a nearly full FIFO and no read loses its bytes on the
way to the user, the readers receive whole payloads in the order of arrival.
-/

namespace GhostBlade.Host

open GhostBlade.Library GhostBlade.Protocol

/-- The frame an operation receives and accepts. -/
def driverReceived (op : DriverOp) (env : Env) (dev : Dev) : Option Received :=
  match op with
  | .rxWork => (rxWorkXfer env dev).bind fun x => accepted x.ret x.rxBuf
  | .write data =>
      match writeXfer data env dev with
      | .error _ => none
      | .ok x => accepted x.ret x.rxBuf
  | _ => none

theorem rxWork_received (env : Env) (dev : Dev) :
    driverReceived .rxWork env dev =
      if env.allocOk 0 = true ∧ env.allocOk 1 = true then env.reply frameSizeMax else none := by
  have hpos : 0 < (rxWorkTx env).length := by
    rw [rxWorkTx_length]
    decide
  have hreply := accepted_xfer (rxWorkTx env) (memBytes (env.heap 0) frameSizeMax) env dev
    (le_of_eq (rxWorkTx_length env)) hpos (memBytes_length _ _)
  rw [rxWorkTx_length] at hreply
  unfold driverReceived
  dsimp only
  rw [rxWorkXfer_eq]
  split
  · rw [Option.bind_some]
    exact hreply
  · rfl

/-- The frame whose payload an operation hands to `kfifo_in`. -/
def driverStored (op : DriverOp) (env : Env) (dev : Dev) : Option Received :=
  match op with
  | .rxWork => (driverReceived op env dev).filter fun r => !r.malformed
  | _ => driverReceived op env dev

theorem driverStored_received {op : DriverOp} {env : Env} {dev : Dev} {r : Received}
    (h : driverStored op env dev = some r) : driverReceived op env dev = some r := by
  unfold driverStored at h
  split at h
  · exact Option.eq_some_of_filter_eq_some h
  · exact h

/-- Storing the payload of a frame, if there is one. -/
def storeOp : Option Received → FifoOp Byte
  | none => .idle
  | some r => .push r.payload

theorem storeOp_pushed (stored : Option Received) :
    [storeOp stored].filterMap FifoOp.pushed = stored.toList.map Received.payload := by
  cases stored <;> rfl

/-- What an operation does to the RX FIFO. -/
def driverFifoOp (op : DriverOp) (env : Env) (dev : Dev) : FifoOp Byte :=
  match op with
  | .read sawEmpty nonblock waited count =>
      if sawEmpty ∧ nonblock then .idle
      else if sawEmpty ∧ waited ≠ 0 then .idle
      else if env.allocOk 0 = false then .idle
      else if env.userCopy 0 then .take (min count dev.rxFifo.items.length)
      else .lose (min count dev.rxFifo.items.length)
  | _ => storeOp (driverStored op env dev)

/-- The bytes an operation returns from `read()`. -/
def readOut (op : DriverOp) (env : Env) (dev : Dev) : List Byte :=
  match op with
  | .read .. => (driverOp op env dev).out
  | _ => []

/-- A read takes from the front of the FIFO what it returns. -/
theorem apexBridgeRead_fifo (sawEmpty nonblock : Bool) (waited : Int) (count : Nat) (env : Env)
    (dev : Dev) (ret : List Byte) :
    Traffic.step ⟨dev.rxFifo, ret⟩ (driverFifoOp (.read sawEmpty nonblock waited count) env dev) =
      ⟨(apexBridgeRead sawEmpty nonblock waited count env dev).dev.rxFifo,
        ret ++ (apexBridgeRead sawEmpty nonblock waited count env dev).out⟩ := by
  have hidle : Traffic.step ⟨dev.rxFifo, ret⟩ .idle = ⟨dev.rxFifo, ret ++ []⟩ := by
    rw [List.append_nil]
    rfl
  unfold apexBridgeRead driverFifoOp
  dsimp only
  split
  · exact hidle
  split
  · exact hidle
  generalize min count dev.rxFifo.items.length = n
  by_cases hzero : n = 0
  · rw [if_pos hzero, hzero]
    split
    · exact hidle
    · split
      · rfl
      · exact hidle
  · rw [if_neg hzero]
    cases halloc : env.allocOk 0 with
    | false =>
        simp only [Env.kmalloc, halloc, if_true]
        exact hidle
    | true =>
        simp only [Env.kmalloc, halloc, if_true, Bool.true_eq_false, if_false]
        split
        · rfl
        · exact congrArg (Traffic.mk _) (List.append_nil _).symm

/-- Every operation of the driver is FIFO traffic. -/
theorem driverOp_fifo (op : DriverOp) (env : Env) (dev : Dev) (ret : List Byte) :
    Traffic.step ⟨dev.rxFifo, ret⟩ (driverFifoOp op env dev) =
      ⟨(driverOp op env dev).dev.rxFifo, ret ++ readOut op env dev⟩ := by
  cases op with
  | «open» pmGet =>
      change Traffic.mk dev.rxFifo ret = ⟨(apexBridgeOpen pmGet dev).dev.rxFifo, ret ++ []⟩
      rw [List.append_nil]
      unfold apexBridgeOpen
      split
      · rfl
      · split <;> rfl
  | release => exact congrArg (Traffic.mk dev.rxFifo) (List.append_nil ret).symm
  | sgWorker work => exact congrArg (Traffic.mk dev.rxFifo) (List.append_nil ret).symm
  | ioctl cmd arg =>
      change Traffic.mk dev.rxFifo ret = ⟨(apexBridgeIoctl cmd arg env dev).dev.rxFifo, ret ++ []⟩
      rw [List.append_nil, (apexBridgeIoctl_quiet cmd arg env dev).rxFifo]
  | read sawEmpty nonblock waited count => exact apexBridgeRead_fifo ..
  | rxWork =>
      simp only [driverFifoOp, driverStored, rxWork_received, driverOp, readOut, List.append_nil]
      rw [apexRxWorkHandler_eq]
      split
      · cases env.reply frameSizeMax with
        | none => exact congrArg (fun f => Traffic.mk f ret) (env.afterXfer_rxFifo dev).symm
        | some r =>
            dsimp only
            rw [takeResponse_rxFifo, env.afterXfer_rxFifo, Option.filter_some]
            cases r.malformed <;> rfl
      · rfl
  | write data =>
      simp only [driverFifoOp, driverStored, driverReceived, driverOp, readOut, List.append_nil,
        apexBridgeWrite]
      rcases writeXfer_cases data env with ⟨code, herror⟩ | ⟨_, hok⟩
      · rw [show writeXfer data env dev = _ from herror env.heap dev]
        rfl
      · rw [show writeXfer data env dev = _ from hok env.heap dev]
        dsimp only
        rw [writeFinish_eq]
        cases accepted _ _ with
        | none => exact congrArg (fun f => Traffic.mk f ret) (apexSpiXfer_rxFifo ..).symm
        | some r =>
            exact congrArg (fun f => Traffic.mk (Fifo.push f r.payload) ret)
              (apexSpiXfer_rxFifo ..).symm

/-- The RX work fetching one frame. -/
def rxFrame (cmd : Byte) (payload : List Byte) : DriverOp × Env :=
  (.rxWork, .ok (encode cmd payload))

def rxIq (payload : List Byte) : DriverOp × Env := rxFrame apexCmdSdrIqChunk payload

/-- A read of at most `count` bytes from a FIFO that is not empty. -/
def readOf (count : Nat) : DriverOp × Env := (.read false false 0 count, .ok [])

/-- One operation after another, each in its surroundings. -/
def driverStep (dev : Dev) (e : DriverOp × Env) : Dev := (driverOp e.1 e.2 dev).dev

/-- Everything `read()` returns during a run. -/
def returned (dev : Dev) (es : List (DriverOp × Env)) : List Byte :=
  observe driverStep (fun dev e => readOut e.1 e.2 dev) dev es

/-- The frames accepted during a run, and those whose payload was handed to the
FIFO. -/
def receivedFrames (dev : Dev) (es : List (DriverOp × Env)) : List Received :=
  observe driverStep (fun dev e => (driverReceived e.1 e.2 dev).toList) dev es

def storedFrames (dev : Dev) (es : List (DriverOp × Env)) : List Received :=
  observe driverStep (fun dev e => (driverStored e.1 e.2 dev).toList) dev es

def arrived (dev : Dev) (es : List (DriverOp × Env)) : List (List Byte) :=
  (receivedFrames dev es).map Received.payload

def fifoOps (dev : Dev) (es : List (DriverOp × Env)) : List (FifoOp Byte) :=
  observe driverStep (fun dev e => [driverFifoOp e.1 e.2 dev]) dev es

/-- A payload goes into the FIFO as far as there is room. -/
theorem rxFrame_step (dev : Dev) (cmd : Byte) (payload : List Byte)
    (hlen : payload.length ≤ maxPayload) (hgood : Received.malformed ⟨cmd, payload⟩ = false) :
    driverReceived (rxFrame cmd payload).1 (rxFrame cmd payload).2 dev = some ⟨cmd, payload⟩ ∧
      (driverStep dev (rxFrame cmd payload)).rxFifo = dev.rxFifo.push payload ∧
      readOut (rxFrame cmd payload).1 (rxFrame cmd payload).2 dev = [] := by
  have hreceived : driverReceived (rxFrame cmd payload).1 (rxFrame cmd payload).2 dev =
      some ⟨cmd, payload⟩ := by
    apply (rxWork_received _ _).trans
    rw [if_pos ⟨rfl, rfl⟩]
    exact Env.reply_encode _ _ cmd payload [] (show ¬ (0 : Int) < 0 by decide) hlen
      (List.append_nil _).symm (encode_fits cmd payload hlen)
  have hstep := driverOp_fifo (rxFrame cmd payload).1 (rxFrame cmd payload).2 dev []
  have hop : driverFifoOp (rxFrame cmd payload).1 (rxFrame cmd payload).2 dev = .push payload := by
    unfold driverFifoOp driverStored
    simp only [rxFrame] at hreceived ⊢
    rw [hreceived, Option.filter_some, hgood]
    rfl
  rw [hop, Traffic.step, Traffic.mk.injEq] at hstep
  refine ⟨hreceived, ?_, rfl⟩
  unfold driverStep
  rw [← hstep.1]

theorem iq_not_malformed (payload : List Byte) :
    Received.malformed ⟨apexCmdSdrIqChunk, payload⟩ = false := by
  have hne : apexCmdSdrIqChunk ≠ apexCmdTelemetry := by decide
  simp [Received.malformed, hne]

theorem rxIq_step (dev : Dev) (payload : List Byte) (hlen : payload.length ≤ maxPayload) :
    driverReceived (rxIq payload).1 (rxIq payload).2 dev = some ⟨apexCmdSdrIqChunk, payload⟩ ∧
      (driverStep dev (rxIq payload)).rxFifo = dev.rxFifo.push payload ∧
      readOut (rxIq payload).1 (rxIq payload).2 dev = [] :=
  rxFrame_step dev apexCmdSdrIqChunk payload hlen (iq_not_malformed payload)

theorem readOf_step (dev : Dev) (count : Nat) :
    (driverStep dev (readOf count)).rxFifo =
        dev.rxFifo.pop (min count dev.rxFifo.items.length) ∧
      readOut (readOf count).1 (readOf count).2 dev =
        dev.rxFifo.front (min count dev.rxFifo.items.length) := by
  have hstep := driverOp_fifo (readOf count).1 (readOf count).2 dev []
  exact ⟨(congrArg Traffic.fifo hstep).symm, (congrArg Traffic.returned hstep).symm⟩

theorem readOf_all (dev : Dev) (count : Nat) (h : dev.rxFifo.items.length ≤ count) :
    (driverStep dev (readOf count)).rxFifo.items = [] ∧
      readOut (readOf count).1 (readOf count).2 dev = dev.rxFifo.items := by
  obtain ⟨hfifo, hout⟩ := readOf_step dev count
  rw [Nat.min_eq_right h] at hfifo hout
  rw [hfifo, hout]
  exact ⟨List.drop_of_length_le (le_refl _), List.take_of_length_le (le_refl _)⟩

/-- IQ payloads that all fit. -/
theorem rxIqs_run (dev : Dev) (payloads : List (List Byte))
    (hlen : ∀ payload ∈ payloads, payload.length ≤ maxPayload)
    (hfit : dev.rxFifo.items.length + payloads.flatten.length ≤ apexRxFifoSize) :
    (run driverStep dev (payloads.map rxIq)).rxFifo.items =
        dev.rxFifo.items ++ payloads.flatten ∧
      arrived dev (payloads.map rxIq) = payloads ∧ returned dev (payloads.map rxIq) = [] := by
  induction payloads generalizing dev with
  | nil => exact ⟨(List.append_nil _).symm, rfl, rfl⟩
  | cons payload payloads ih =>
      obtain ⟨hreceived, hfifo, hout⟩ := rxIq_step dev payload (hlen payload (by simp))
      rw [List.flatten_cons, List.length_append] at hfit
      have hroom : payload.length ≤ dev.rxFifo.room := by
        unfold Fifo.room
        omega
      have hitems := dev.rxFifo.push_items_of_fits payload hroom
      rw [← hfifo] at hitems
      obtain ⟨hrun, harrived, hreturned⟩ := ih (driverStep dev (rxIq payload))
        (fun p hp => hlen p (by simp [hp])) (by rw [hitems, List.length_append]; omega)
      refine ⟨?_, ?_, ?_⟩
      · rw [List.map_cons, run_cons, hrun, hitems, List.flatten_cons, List.append_assoc]
      · change ((driverReceived _ _ dev).toList ++ receivedFrames _ (payloads.map rxIq)).map _ = _
        rw [hreceived, List.map_append]
        exact congrArg (payload :: ·) harrived
      · change readOut _ _ dev ++ returned _ (payloads.map rxIq) = _
        rw [hout, hreturned]
        rfl

/-- A run of the driver is a run of FIFO traffic. -/
theorem run_traffic (dev : Dev) (ret : List Byte) (es : List (DriverOp × Env)) :
    run Traffic.step ⟨dev.rxFifo, ret⟩ (fifoOps dev es) =
      ⟨(run driverStep dev es).rxFifo, ret ++ returned dev es⟩ := by
  induction es generalizing dev ret with
  | nil => exact congrArg (Traffic.mk _) (List.append_nil ret).symm
  | cons e es ih =>
      change run Traffic.step (Traffic.step ⟨dev.rxFifo, ret⟩ (driverFifoOp e.1 e.2 dev))
        (fifoOps (driverStep dev e) es) = _
      rw [driverOp_fifo]
      apply (ih (driverStep dev e) (ret ++ readOut e.1 e.2 dev)).trans
      rw [List.append_assoc]
      rfl

/-- A condition on traffic that does not look at what was returned holds along
the traffic of a run when it holds along the run. -/
theorem along_traffic {C : Traffic Byte apexRxFifoSize → FifoOp Byte → Prop} {dev : Dev}
    {es : List (DriverOp × Env)} (ret : List Byte)
    (h : Along driverStep (fun dev e => ∀ ret, C ⟨dev.rxFifo, ret⟩ (driverFifoOp e.1 e.2 dev))
      dev es) : Along Traffic.step C ⟨dev.rxFifo, ret⟩ (fifoOps dev es) := by
  induction es generalizing dev ret with
  | nil => trivial
  | cons e es ih =>
      refine ⟨h.1 ret, ?_⟩
      have hstep := driverOp_fifo e.1 e.2 dev ret
      rw [hstep]
      exact ih (ret ++ readOut e.1 e.2 dev) h.2

/-- What is pushed are the payloads of the stored frames. -/
theorem pushed_stored (dev : Dev) (es : List (DriverOp × Env)) :
    (fifoOps dev es).filterMap FifoOp.pushed =
      (storedFrames dev es).map Received.payload := by
  have hone (op : DriverOp) (env : Env) (dev : Dev) :
      [driverFifoOp op env dev].filterMap FifoOp.pushed =
        (driverStored op env dev).toList.map Received.payload := by
    cases op with
    | read sawEmpty nonblock waited count =>
        unfold driverFifoOp
        dsimp only
        repeat' split
        all_goals rfl
    | rxWork => exact storeOp_pushed _
    | write data => exact storeOp_pushed _
    | «open» pmGet => rfl
    | release => rfl
    | ioctl cmd arg => rfl
    | sgWorker work => rfl
  induction es generalizing dev with
  | nil => rfl
  | cons e es ih =>
      change ([driverFifoOp e.1 e.2 dev] ++ fifoOps (driverStep dev e) es).filterMap
        FifoOp.pushed = ((driverStored e.1 e.2 dev).toList ++ storedFrames _ es).map _
      rw [List.filterMap_append, List.map_append, hone, ih]

theorem stored_sublist (dev : Dev) (es : List (DriverOp × Env)) :
    (storedFrames dev es).Sublist (receivedFrames dev es) := by
  induction es generalizing dev with
  | nil => exact List.Sublist.refl _
  | cons e es ih =>
      have hone : (driverStored e.1 e.2 dev).toList.Sublist
          (driverReceived e.1 e.2 dev).toList := by
        cases hs : driverStored e.1 e.2 dev with
        | none => exact List.nil_sublist _
        | some r => rw [driverStored_received hs]
      exact hone.append (ih (driverStep dev e))

/-- A read that takes bytes out of the FIFO. -/
def readTakes (sawEmpty nonblock : Bool) (waited : Int) (count : Nat) (env : Env)
    (dev : Dev) : Prop :=
  ¬ (sawEmpty ∧ nonblock) ∧ ¬ (sawEmpty ∧ waited ≠ 0) ∧ 0 < count ∧
    dev.rxFifo.items ≠ [] ∧ env.allocOk 0 = true

/-- No payload is cut short in this step, and no read loses its bytes. -/
def Unbroken (dev : Dev) (e : DriverOp × Env) : Prop :=
  match e.1 with
  | .read sawEmpty nonblock waited count =>
      readTakes sawEmpty nonblock waited count e.2 dev → e.2.userCopy 0 = true
  | op => ∀ r, driverStored op e.2 dev = some r →
      r.payload.length ≤ dev.rxFifo.room ∨ dev.rxFifo.room = 0

theorem whole_of_unbroken (dev : Dev) (e : DriverOp × Env) (h : Unbroken dev e)
    (ret : List Byte) : Traffic.Whole ⟨dev.rxFifo, ret⟩ (driverFifoOp e.1 e.2 dev) := by
  have hstored (stored : Option Received)
      (hfits : ∀ r, stored = some r →
        r.payload.length ≤ dev.rxFifo.room ∨ dev.rxFifo.room = 0) :
      Traffic.Whole ⟨dev.rxFifo, ret⟩ (storeOp stored) := by
    cases stored with
    | none => trivial
    | some r => exact hfits r rfl
  obtain ⟨op, env⟩ := e
  unfold Unbroken at h
  cases op with
  | read sawEmpty nonblock waited count =>
      dsimp only at h
      unfold driverFifoOp
      dsimp only
      split
      · trivial
      next hwait =>
      split
      · trivial
      next hbroken =>
      split
      · trivial
      next halloc =>
      split
      · trivial
      next hcopy =>
      -- a lost read has found nothing to take
      apply List.take_eq_nil_iff.mpr
      by_contra htakes
      rw [not_or] at htakes
      exact hcopy (h ⟨hwait, hbroken, by omega, htakes.2, by simpa using halloc⟩)
  | rxWork => exact hstored _ h
  | write data => exact hstored _ h
  | «open» pmGet => trivial
  | release => trivial
  | ioctl cmd arg => trivial
  | sgWorker work => trivial

/-- As long as no step breaks a payload, what `read()` has returned and what is
still in the FIFO are whole payloads, in the order of arrival. -/
theorem whole_payloads_read (es : List (DriverOp × Env))
    (h : Along driverStep Unbroken Dev.probed es) :
    ∃ kept : List (List Byte), kept.Sublist (arrived Dev.probed es) ∧
      returned Dev.probed es ++ (run driverStep Dev.probed es).rxFifo.items = kept.flatten := by
  have hwhole : Along driverStep
      (fun dev e => ∀ ret, Traffic.Whole ⟨dev.rxFifo, ret⟩ (driverFifoOp e.1 e.2 dev))
      Dev.probed es :=
    along_mono (I := fun _ => True) (fun _ _ _ _ => trivial)
      (fun dev e _ he => whole_of_unbroken dev e he) trivial h
  obtain ⟨kept, hkept, hstream⟩ := Traffic.run_whole ⟨Dev.probed.rxFifo, []⟩ _
    (along_traffic [] hwhole)
  rw [run_traffic, List.nil_append] at hstream
  rw [pushed_stored] at hkept
  exact ⟨kept, hkept.trans ((stored_sublist _ _).map _), hstream⟩

theorem unbroken_readOf (dev : Dev) (count : Nat) : Unbroken dev (readOf count) :=
  fun _ => rfl

theorem unbroken_rxIq (dev : Dev) (payload : List Byte) (hlen : payload.length ≤ maxPayload)
    (hroom : payload.length ≤ dev.rxFifo.room) : Unbroken dev (rxIq payload) := by
  intro r hr
  have hreceived := (rxIq_step dev payload hlen).1
  have heq := hreceived.symm.trans (driverStored_received hr)
  rw [← Option.some.inj heq]
  exact .inl hroom

/-- Two payloads are fetched and read. -/
theorem whole_payloads_read_two :
    ∃ kept : List (List Byte),
      kept.Sublist (arrived Dev.probed [rxIq [1, 2], rxIq [3], readOf 2]) ∧
        returned Dev.probed [rxIq [1, 2], rxIq [3], readOf 2] ++
          (run driverStep Dev.probed [rxIq [1, 2], rxIq [3], readOf 2]).rxFifo.items =
            kept.flatten := by
  apply whole_payloads_read
  have hempty : Dev.probed.rxFifo.room = 65536 := rfl
  refine ⟨unbroken_rxIq _ _ (by decide) ?_, unbroken_rxIq _ _ (by decide) ?_,
    unbroken_readOf _ _, trivial⟩
  · rw [hempty]
    decide
  · rw [(rxIq_step Dev.probed [1, 2] (by decide)).2.1, Fifo.room_push _ _ (by rw [hempty]; decide),
      hempty]
    decide

/-- With one byte left a payload of two arrives; everything is read; one more
payload arrives and is read. -/
def truncatedTail : List (DriverOp × Env) := [rxIq [1, 2], readOf 65536, rxIq [3], readOf 1]

theorem truncatedTail_reads (dev : Dev) (hlen : dev.rxFifo.items.length = 65535) :
    arrived dev truncatedTail = [[1, 2], [3]] ∧
      returned dev truncatedTail = dev.rxFifo.items ++ [1, 3] := by
  obtain ⟨hrecv1, hfifo1, hout1⟩ := rxIq_step dev [1, 2] (by decide)
  have hitems1 : (driverStep dev (rxIq [1, 2])).rxFifo.items = dev.rxFifo.items ++ [1] := by
    have hroom : dev.rxFifo.room = 1 := by
      rw [Fifo.room, hlen]
      rfl
    rw [hfifo1, Fifo.push_items, hroom]
    rfl
  have hlen1 : (driverStep dev (rxIq [1, 2])).rxFifo.items.length = 65536 := by
    rw [hitems1, List.length_append, hlen]
    rfl
  obtain ⟨hitems2, hout2⟩ := readOf_all (driverStep dev (rxIq [1, 2])) 65536 (le_of_eq hlen1)
  rw [hitems1] at hout2
  obtain ⟨hrecv3, hfifo3, hout3⟩ :=
    rxIq_step (driverStep (driverStep dev (rxIq [1, 2])) (readOf 65536)) [3] (by decide)
  have hitems3 := Fifo.push_items_of_fits
    (driverStep (driverStep dev (rxIq [1, 2])) (readOf 65536)).rxFifo [3]
    (by unfold Fifo.room; rw [hitems2]; decide)
  rw [hitems2, ← hfifo3] at hitems3
  obtain ⟨_, hout4⟩ := readOf_all
    (driverStep (driverStep (driverStep dev (rxIq [1, 2])) (readOf 65536)) (rxIq [3])) 1
    (by rw [hitems3]; decide)
  rw [hitems3] at hout4
  constructor
  · unfold truncatedTail arrived receivedFrames
    simp only [observe]
    rw [hrecv1, hrecv3]
    rfl
  · unfold truncatedTail returned
    simp only [observe]
    rw [hout1, hout2, hout3, hout4]
    simp

/-- IQ data up to the last free byte of the FIFO. -/
def fill : List (List Byte) :=
  List.replicate 16 (List.replicate maxPayload 0) ++ [List.replicate 63 0]

theorem fill_flatten : fill.flatten = List.replicate 65535 0 := by
  unfold fill
  rw [List.flatten_append, List.flatten_replicate_replicate, List.flatten_singleton,
    List.replicate_append_replicate]
  exact congrArg (List.replicate · 0) (by norm_num [maxPayload])

theorem fill_le : ∀ payload ∈ fill, payload.length ≤ maxPayload := by
  intro payload hmem
  unfold fill at hmem
  rcases List.mem_append.mp hmem with hfull | hlast
  · rw [(List.mem_replicate.mp hfull).2, List.length_replicate]
  · rw [List.mem_singleton.mp hlast, List.length_replicate]
    decide

def truncatedRun : List (DriverOp × Env) := fill.map rxIq ++ truncatedTail

theorem truncatedRun_reads :
    arrived Dev.probed truncatedRun = fill ++ [[1, 2], [3]] ∧
      returned Dev.probed truncatedRun = List.replicate 65535 0 ++ [1, 3] := by
  have hempty : Dev.probed.rxFifo.items = [] := rfl
  obtain ⟨hfull, harrived, hreturned⟩ := rxIqs_run Dev.probed fill fill_le
    (by rw [fill_flatten, List.length_replicate, hempty]; decide)
  rw [fill_flatten, hempty, List.nil_append] at hfull
  obtain ⟨harrived', hreturned'⟩ := truncatedTail_reads (run driverStep Dev.probed (fill.map rxIq))
    (by rw [hfull, List.length_replicate])
  rw [hfull] at hreturned'
  unfold arrived receivedFrames at harrived harrived' ⊢
  unfold returned at hreturned hreturned' ⊢
  unfold truncatedRun
  rw [observe_append, observe_append, List.map_append, harrived, harrived', hreturned, hreturned']
  exact ⟨rfl, rfl⟩

/-- A payload cut short by a nearly full FIFO runs into the next one: no choice
of whole payloads starts with what `read()` has returned. -/
theorem truncated_payload_read :
    ¬ ∃ kept : List (List Byte), kept.Sublist (arrived Dev.probed truncatedRun) ∧
      returned Dev.probed truncatedRun <+: kept.flatten := by
  rintro ⟨kept, hsub, hprefix⟩
  obtain ⟨harrived, hreturned⟩ := truncatedRun_reads
  rw [harrived] at hsub
  rw [hreturned] at hprefix
  obtain ⟨filler, tail, rfl, hfiller, htail⟩ := List.sublist_append_iff.mp hsub
  -- the filler is made of zeros, so the rest can be compared without it
  have hzero : filler.flatten.filter (· ≠ 0) = [] := by
    rw [List.filter_eq_nil_iff]
    intro b hb
    have hmem : b ∈ fill.flatten := hfiller.flatten.subset hb
    rw [fill_flatten] at hmem
    simp [(List.mem_replicate.mp hmem).2]
  have hrest := hprefix.filter (· ≠ 0)
  rw [List.filter_append, List.flatten_append, List.filter_append, hzero, List.nil_append,
    List.filter_replicate_of_neg (by simp), List.nil_append] at hrest
  have hcases : tail ∈ ([[1, 2], [3]] : List (List Byte)).sublists := List.mem_sublists.mpr htail
  have hnone : ∀ tail ∈ ([[1, 2], [3]] : List (List Byte)).sublists,
      ¬ ([1, 3] : List Byte).filter (· ≠ 0) <+: tail.flatten.filter (· ≠ 0) := by decide
  exact hnone tail hcases hrest

end GhostBlade.Host
