import GhostBlade.Host.Monitor
import GhostBlade.Library.WaitQueue

/-!
Threads that wait on `rx_waitq`: a blocking `read()` waits for the RX FIFO to be
filled, `poll()` for one of the conditions it was asked for. Whoever puts something
into the FIFO calls the wake-up afterwards. An SPI error and a reset of the MCU are
reported by `poll()` too, but wake nobody: who waits for one of them may sleep on.
-/

namespace GhostBlade.Host

open GhostBlade.Library GhostBlade.Protocol

def epollIn : BitVec 32 := 0x001#32
def epollPri : BitVec 32 := 0x002#32
def epollOut : BitVec 32 := 0x004#32
def epollErr : BitVec 32 := 0x008#32
def epollHup : BitVec 32 := 0x010#32
def epollRdNorm : BitVec 32 := 0x040#32
def epollWrNorm : BitVec 32 := 0x100#32

/-- The mask of `apex_bridge_poll`. -/
def apexBridgePoll (dev : Dev) : BitVec 32 :=
  let mask := 0#32
  let mask := if dev.rxFifo.items ≠ [] then mask ||| (epollIn ||| epollRdNorm) else mask
  let mask := if dev.flags.spiError then mask ||| epollErr else mask
  let mask := if dev.flags.mcuReset then mask ||| epollHup else mask
  let mask := if dev.flags.lowBattery then mask ||| epollPri else mask
  if dev.txFifo.room > 0 then mask ||| (epollOut ||| epollWrNorm) else mask

/-- The RX work calls the wake-up behind each `kfifo_in`. -/
def rxWorkWakes (env : Env) (dev : Dev) : Bool :=
  match rxWorkXfer env dev with
  | none => false
  | some x =>
      match accepted x.ret x.rxBuf with
      | none => false
      | some r => r.cmd ≠ apexCmdTelemetry ∨ r.payload.length = telemetrySize

def writeWakes (data : List Byte) (env : Env) (dev : Dev) : Bool :=
  match writeXfer data env dev with
  | .error _ => false
  | .ok x =>
      match accepted x.ret x.rxBuf with
      | none => false
      | some r => r.payload.length > 0

/-- The operation comes to a `wake_up_interruptible(&dev->rx_waitq)`. -/
def driverWakes (op : DriverOp) (env : Env) (dev : Dev) : Bool :=
  match op with
  | .write data => writeWakes data env dev
  | .rxWork => rxWorkWakes env dev
  | .open _ | .release | .read .. | .ioctl .. | .sgWorker _ => false

/-- Who waits: in `apex_bridge_read`, or for events in `poll()`. -/
inductive Waiter where
  | reader
  | poller (events : BitVec 32)

/-- What ends the wait. Errors and hang-ups are reported whether asked for or not. -/
def Waiter.holds : Waiter → Dev → Bool
  | .reader, dev => dev.rxFifo.items ≠ []
  | .poller events, dev => apexBridgePoll dev &&& (events ||| (epollErr ||| epollHup)) ≠ 0#32

def wokenEvents : BitVec 32 := epollIn ||| epollPri ||| epollOut ||| epollRdNorm ||| epollWrNorm

/-- What the driver wakes a waiting thread for. -/
def Waiter.promised : Waiter → Dev → Bool
  | .reader, dev => dev.rxFifo.items ≠ []
  | .poller events, dev => apexBridgePoll dev &&& wokenEvents &&& events ≠ 0#32

/-- Each operation of the driver with its surroundings; its wake-up comes later. -/
def rxWaitProtocol (waiter : Nat → Waiter) : WaitProtocol Dev (DriverOp × Env) Nat where
  act dev e := (driverOp e.1 e.2 dev).dev
  announces dev e := driverWakes e.1 e.2 dev
  holds i := (waiter i).holds

section

variable (env : Env) (dev : Dev)

theorem rxWorkWakes_eq :
    rxWorkWakes env dev =
      if env.allocOk 0 = true ∧ env.allocOk 1 = true then
        match env.reply frameSizeMax with
        | none => false
        | some r => !r.malformed
      else false := by
  have htx : (rxWorkTx env).length ≤ frameSizeMax := le_of_eq (rxWorkTx_length env)
  have hpos : 0 < (rxWorkTx env).length := by
    rw [rxWorkTx_length]
    decide
  have hreply := accepted_xfer (rxWorkTx env) (memBytes (env.heap 0) frameSizeMax) env dev htx hpos
    (memBytes_length _ _)
  rw [rxWorkTx_length] at hreply
  unfold rxWorkWakes
  rw [rxWorkXfer_eq]
  by_cases hbufs : env.allocOk 0 = true ∧ env.allocOk 1 = true
  · rw [if_pos hbufs, if_pos hbufs]
    dsimp only
    rw [hreply]
    cases env.reply frameSizeMax with
    | none => rfl
    | some r => simp [Received.malformed]
  · rw [if_neg hbufs, if_neg hbufs]

/-- Nothing comes into the FIFO without a wake-up. -/
theorem rxWork_silent (hsilent : rxWorkWakes env dev = false) :
    (apexRxWorkHandler env dev).dev.rxFifo = dev.rxFifo := by
  rw [rxWorkWakes_eq] at hsilent
  rw [apexRxWorkHandler_eq]
  split
  · next hbufs =>
      rw [if_pos hbufs] at hsilent
      cases hreply : env.reply frameSizeMax with
      | none => exact env.afterXfer_rxFifo dev
      | some r =>
          rw [hreply] at hsilent
          have hmalformed : r.malformed = true := by simpa using hsilent
          show ((env.afterXfer dev).takeResponse r).rxFifo = dev.rxFifo
          rw [takeResponse_rxFifo, hmalformed, if_pos rfl, env.afterXfer_rxFifo]
  · rfl

theorem write_silent {data : List Byte} (hsilent : writeWakes data env dev = false) :
    (apexBridgeWrite data env dev).dev.rxFifo = dev.rxFifo := by
  unfold writeWakes at hsilent
  rcases writeXfer_cases data env with ⟨ret, herror⟩ | ⟨_, hok⟩
  · rw [apexBridgeWrite, show writeXfer data env dev = .error ret from herror env.heap dev]
    rfl
  · have hxfer : writeXfer data env dev = .ok (apexSpiXfer (encode (data.getD 0 0) (data.drop 1))
        (memBytes (env.heap 2) frameSizeMax) env dev) := hok env.heap dev
    rw [hxfer] at hsilent
    rw [apexBridgeWrite, hxfer]
    generalize hx : apexSpiXfer (encode (data.getD 0 0) (data.drop 1))
      (memBytes (env.heap 2) frameSizeMax) env dev = x at hsilent ⊢
    have hfifo : x.dev.rxFifo = dev.rxFifo := hx ▸ apexSpiXfer_rxFifo ..
    dsimp only at hsilent ⊢
    rw [writeFinish_eq]
    cases haccepted : accepted x.ret x.rxBuf with
    | none => exact hfifo
    | some r =>
        have hempty : r.payload = [] := by simpa [haccepted] using hsilent
        dsimp only
        rw [Dev.pushRx, hempty, Fifo.push_nil]
        exact hfifo

theorem telemetryTaken_wakes {op : DriverOp} {payload : List Byte}
    (h : telemetryTaken op env = some payload) : driverWakes op env dev = true := by
  cases op with
  | rxWork =>
      simp only [telemetryTaken] at h
      rw [driverWakes, rxWorkWakes_eq]
      split at h
      · next hbufs =>
          rw [if_pos hbufs]
          cases hreply : env.reply frameSizeMax with
          | none => simp [hreply] at h
          | some r =>
              rw [hreply] at h
              have hlen : r.payload.length = telemetrySize := by
                by_contra hlen
                simp [Option.filter_some, hlen] at h
              simp [Received.malformed, hlen]
      · cases h
  | _ => cases h

/-- An operation that wakes nobody adds nothing to the FIFO, reports no low battery that
was not there, and makes no room. -/
theorem driverOp_silent {op : DriverOp} (hsilent : driverWakes op env dev = false) :
    ((driverOp op env dev).dev.rxFifo.items ≠ [] → dev.rxFifo.items ≠ []) ∧
      (driverOp op env dev).dev.flags.lowBattery = dev.flags.lowBattery ∧
        (driverOp op env dev).dev.txFifo = dev.txFifo := by
  refine ⟨?_, ?_, driverOp_txFifo op env dev⟩
  · cases op with
    | «open» pmGet =>
        have hfifo : (apexBridgeOpen pmGet dev).dev.rxFifo = dev.rxFifo := by
          unfold apexBridgeOpen
          split_ifs <;> rfl
        rw [driverOp, hfifo]
        exact id
    | release => exact id
    | sgWorker work => exact id
    | read sawEmpty nonblock waited count =>
        rw [driverOp, apexBridgeRead_dev]
        split
        · exact id
        · intro hleft hempty
          exact hleft (by simp [Fifo.pop, hempty])
    | write data =>
        rw [driverOp, write_silent env dev hsilent]
        exact id
    | ioctl cmd arg =>
        rw [driverOp, (apexBridgeIoctl_quiet cmd arg env dev).rxFifo]
        exact id
    | rxWork =>
        rw [driverOp, rxWork_silent env dev hsilent]
        exact id
  · have hbrownout := (driverOp_monitor env dev op).2
    cases htaken : telemetryTaken op env with
    | none =>
        rw [htaken] at hbrownout
        exact congrArg Brownout.lowBattery hbrownout
    | some payload =>
        rw [telemetryTaken_wakes env dev htaken] at hsilent
        cases hsilent

end

/-! ### What `poll()` reports -/

section

variable {dev dev' : Dev}

/-- The mask by its five conditions. -/
def pollMask (data spiError mcuReset lowBattery room : Bool) : BitVec 32 :=
  (if data then epollIn ||| epollRdNorm else 0#32) ||| (if spiError then epollErr else 0#32) |||
    (if mcuReset then epollHup else 0#32) ||| (if lowBattery then epollPri else 0#32) |||
      (if room then epollOut ||| epollWrNorm else 0#32)

theorem apexBridgePoll_eq (dev : Dev) :
    apexBridgePoll dev = pollMask (dev.rxFifo.items ≠ []) dev.flags.spiError
      dev.flags.mcuReset dev.flags.lowBattery (dev.txFifo.room > 0) := by
  have hbit (c : Prop) [Decidable c] (mask bits : BitVec 32) :
      (if c then mask ||| bits else mask) = mask ||| (if c then bits else 0#32) := by
    split
    · rfl
    · exact BitVec.or_zero.symm
  simp only [apexBridgePoll, pollMask, hbit, BitVec.zero_or, decide_eq_true_eq]

/-- Without a new condition there is nothing new in the mask. -/
theorem pollMask_silent : ∀ data data' spiError spiError' mcuReset mcuReset' lowBattery room : Bool,
    (data' → data) → (spiError' → spiError) → (mcuReset' → mcuReset) →
      pollMask data' spiError' mcuReset' lowBattery room &&&
          pollMask data spiError mcuReset lowBattery room =
        pollMask data' spiError' mcuReset' lowBattery room := by
  decide

/-- And of what the driver wakes a thread for there is nothing new without new data. -/
theorem pollMask_woken : ∀ data data' spiError spiError' mcuReset mcuReset' lowBattery room : Bool,
    (data' → data) →
      (pollMask data' spiError' mcuReset' lowBattery room &&& wokenEvents) &&&
          pollMask data spiError mcuReset lowBattery room =
        pollMask data' spiError' mcuReset' lowBattery room &&& wokenEvents := by
  decide

theorem Waiter.promised_silent (w : Waiter)
    (hitems : dev'.rxFifo.items ≠ [] → dev.rxFifo.items ≠ [])
    (hlow : dev'.flags.lowBattery = dev.flags.lowBattery) (htx : dev'.txFifo = dev.txFifo)
    (hdue : w.promised dev' = true) : w.promised dev = true := by
  cases w with
  | reader => simpa [Waiter.promised] using hitems (by simpa [Waiter.promised] using hdue)
  | poller events =>
      have hmask : (apexBridgePoll dev' &&& wokenEvents) &&& apexBridgePoll dev =
          apexBridgePoll dev' &&& wokenEvents := by
        rw [apexBridgePoll_eq, apexBridgePoll_eq, hlow, htx]
        exact pollMask_woken _ _ _ _ _ _ _ _ (by simpa using hitems)
      simp only [Waiter.promised, ne_eq, decide_eq_true_eq] at hdue ⊢
      intro hnone
      apply hdue
      rw [← hmask, BitVec.and_assoc, BitVec.and_assoc, ← BitVec.and_assoc wokenEvents,
        BitVec.and_comm wokenEvents, hnone, BitVec.and_zero]

/-- As long as no error and no reset is new, nothing at all is. -/
theorem Waiter.holds_silent (w : Waiter)
    (hitems : dev'.rxFifo.items ≠ [] → dev.rxFifo.items ≠ [])
    (hlow : dev'.flags.lowBattery = dev.flags.lowBattery) (htx : dev'.txFifo = dev.txFifo)
    (hspi : dev'.flags.spiError = true → dev.flags.spiError = true)
    (hreset : dev'.flags.mcuReset = true → dev.flags.mcuReset = true)
    (hdue : w.holds dev' = true) : w.holds dev = true := by
  cases w with
  | reader => simpa [Waiter.holds] using hitems (by simpa [Waiter.holds] using hdue)
  | poller events =>
      have hmask : apexBridgePoll dev' &&& apexBridgePoll dev =
          apexBridgePoll dev' := by
        rw [apexBridgePoll_eq, apexBridgePoll_eq, hlow, htx]
        exact pollMask_silent _ _ _ _ _ _ _ _ (by simpa using hitems) hspi hreset
      simp only [Waiter.holds, ne_eq, decide_eq_true_eq] at hdue ⊢
      intro hnone
      apply hdue
      rw [← hmask, BitVec.and_assoc, hnone, BitVec.and_zero]

theorem Waiter.promised_holds (w : Waiter) (hdue : w.promised dev = true) :
    w.holds dev = true := by
  cases w with
  | reader => exact hdue
  | poller events =>
      simp only [Waiter.promised, Waiter.holds, ne_eq, decide_eq_true_eq] at hdue ⊢
      intro hnone
      rw [BitVec.and_or_distrib_left, BitVec.or_eq_zero_iff] at hnone
      apply hdue
      rw [BitVec.and_assoc, BitVec.and_comm wokenEvents, ← BitVec.and_assoc, hnone.1,
        BitVec.zero_and]

end

/-- The event sets neither the flag of an SPI error nor that of a reset of the MCU. -/
def Unalarming (q : WaitQueue Dev Nat Nat) : WaitEvent (DriverOp × Env) Nat Nat → Prop
  | .act _ e =>
      ((driverOp e.1 e.2 q.shared).dev.flags.spiError = true → q.shared.flags.spiError = true) ∧
        ((driverOp e.1 e.2 q.shared).dev.flags.mcuReset = true → q.shared.flags.mcuReset = true)
  | .enter _ | .test _ | .resume _ | .interrupt _ | .wake _ => True

/-- Whatever the driver does and however threads and wake-ups fall between each other,
nobody sleeps on data, room or a low battery unless a wake-up is on its way; once there is
none, everybody with something to read or report comes back. As long as no transfer
fails and the MCU is not reset, that holds for all that `poll()` reports. -/
theorem waiting_threads_woken (waiter : Nat → Waiter) (dev : Dev)
    (es : List (WaitEvent (DriverOp × Env) Nat Nat)) :
    let step := WaitQueue.step (rxWaitProtocol waiter)
    let s := run step (.idle dev) es
    let Woken (due : Nat → Dev → Bool) : Prop :=
      s.Heard due ∧ (s.Settled → ∀ i, due i s.shared = true →
        (run step s [.resume i, .test i]).pc i = .away)
    Woken (fun i => (waiter i).promised) ∧
      (Along step Unalarming (.idle dev) es → Woken fun i => (waiter i).holds) := by
  intro step s Woken
  have hwoken (due : Nat → Dev → Bool)
      (htests : ∀ i dev, due i dev = true → (waiter i).holds dev = true)
      (hes : Along step (WaitQueue.Announced (rxWaitProtocol waiter) due) (.idle dev) es) :
      Woken due := by
    have hheard : s.Heard due := WaitQueue.run_heard htests hes
    exact ⟨hheard, fun hsettled i hdue => hheard.returns htests hsettled hdue⟩
  constructor
  · refine hwoken _ (fun i _ hdue => (waiter i).promised_holds hdue) (along_of_forall ?_ _ _)
    intro q e
    cases e with
    | act k e =>
        intro _ hsilent i hdue
        obtain ⟨hitems, hlow, htx⟩ := driverOp_silent e.2 q.shared hsilent
        exact (waiter i).promised_silent hitems hlow htx hdue
    | _ => trivial
  · intro hcalm
    refine hwoken _ (fun _ _ hdue => hdue)
      (along_mono (I := fun _ => True) (fun _ _ _ _ => trivial) ?_ trivial hcalm)
    intro q e _ hcalm
    cases e with
    | act k e =>
        intro _ hsilent i hdue
        obtain ⟨hitems, hlow, htx⟩ := driverOp_silent e.2 q.shared hsilent
        exact (waiter i).holds_silent hitems hlow htx hcalm.1 hcalm.2 hdue
    | _ => trivial

end GhostBlade.Host
