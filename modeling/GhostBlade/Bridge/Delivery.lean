import GhostBlade.Host.Transfers

/-!
Responses on their way from the MCU to the driver. The MCU follows the protocol:
it queues frames, shifts their bytes out from the start of every transaction,
reads as idle when it has nothing to send, and pulls the interrupt line low when
its queue becomes non-empty. On the other side run the RX work, one for each
falling edge, writes and requests, all of which clock bytes out of the MCU.

Every transaction takes what the MCU has to send, wanted or not. As long as each
takes one whole frame at most, leaves nothing behind that no RX work is going to
fetch, and finds room for what it has fetched, every response reaches the driver
exactly once.
-/

namespace GhostBlade.Bridge

open GhostBlade.Library GhostBlade.Protocol GhostBlade.Host

/-- A response the MCU may queue. -/
structure Response where
  cmd : Byte
  payload : List Byte
  payload_le : payload.length ≤ maxPayload

/-- The bytes of a frame with these contents. -/
def frameOf (r : Received) : List Byte := encode r.cmd r.payload

def Response.received (r : Response) : Received := ⟨r.cmd, r.payload⟩

/-- The RX work: not running, running but not yet at its transfer, or behind it
with what the transfer has returned and received. -/
inductive RxWork where
  | idle
  | started
  | transferred (rxLen : Int) (rxFrame : List Byte)
deriving DecidableEq

/-- The driver, the MCU's queue, and what lies between them: whether RX work is
scheduled, and the writes behind their transfer. The last three fields are the
record: the frames queued, the queued bytes shifted out, and the frames the
driver has stored. -/
structure Link where
  dev : Dev
  queue : List Byte
  pending : Bool
  work : RxWork
  writes : List (Int × List Byte)
  queued : List Received
  shifted : List Byte
  delivered : List Received

/-- Nothing queued and nothing going on. -/
def Link.start (dev : Dev) : Link := ⟨dev, [], false, .idle, [], [], [], []⟩

inductive LinkEvent where
  | queue (r : Response)
  | workStart
  | workXfer (env : Env)
  | workFinish
  | write (data : List Byte) (env : Env)
  | writeFinish (i : Nat)
  | ioctl (cmd : BitVec 32) (arg : Nat → Byte) (env : Env)
  | read (sawEmpty nonblock : Bool) (waited : Int) (count : Nat) (env : Env)

/-- The surroundings of a transfer: what comes back is what the MCU has queued. -/
def Link.surround (l : Link) (env : Env) : Env := { env with miso := l.queue }

/-- A transfer that takes place shifts as many bytes out of the queue as it
sends. -/
def Link.clock (l : Link) (env : Env) : Option (List Byte) → Link
  | none => l
  | some tx =>
      if env.spiSync < 0 then l
      else { l with
        queue := l.queue.drop tx.length
        shifted := l.shifted ++ l.queue.take tx.length }

/-- What an operation leaves on the driver's side. -/
def Link.leave (l : Link) (dev : Dev) (work : RxWork) (writes : List (Int × List Byte)) : Link :=
  { l with dev := dev, work := work, writes := writes }

/-- The accepted frame counts as delivered when its payload has gone into the RX
FIFO as a whole, or into the telemetry cache. -/
def deliveries (dev dev' : Dev) : Option Received → List Received
  | none => []
  | some r =>
      if dev'.rxFifo.items = dev.rxFifo.items ++ r.payload ∨
          (r.cmd = apexCmdTelemetry ∧ r.payload.length = telemetrySize ∧
            dev'.lastTelem = r.payload) then [r]
      else []

def linkStep (l : Link) : LinkEvent → Link
  | .queue r =>
      -- a falling edge when the queue was empty
      { l with
        queue := l.queue ++ frameOf r.received
        pending := l.pending || l.queue.isEmpty
        queued := l.queued ++ [r.received] }
  | .workStart =>
      match l.pending, l.work with
      | true, .idle => { l with pending := false, work := .started }
      | _, _ => l
  | .workXfer env =>
      match l.work with
      | .started =>
          match rxWorkXfer (l.surround env) l.dev with
          | none => l.leave l.dev .idle l.writes
          | some x => (l.clock env x.sent).leave x.dev (.transferred x.ret x.rxBuf) l.writes
      | _ => l
  | .workFinish =>
      match l.work with
      | .transferred rxLen rxFrame =>
          { l.leave (rxWorkFinish rxLen rxFrame l.dev) .idle l.writes with
            delivered := l.delivered ++
              deliveries l.dev (rxWorkFinish rxLen rxFrame l.dev) (accepted rxLen rxFrame) }
      | _ => l
  | .write data env =>
      match writeXfer data (l.surround env) l.dev with
      | .error _ => l
      | .ok x => (l.clock env x.sent).leave x.dev l.work (l.writes ++ [(x.ret, x.rxBuf)])
  | .writeFinish i =>
      match l.writes[i]? with
      | none => l
      | some (ret, rxBuf) =>
          { l.leave (writeFinish ret rxBuf l.dev) l.work (l.writes.eraseIdx i) with
            delivered := l.delivered ++
              deliveries l.dev (writeFinish ret rxBuf l.dev) (accepted ret rxBuf) }
  | .ioctl cmd arg env =>
      (l.clock env (apexBridgeIoctl cmd arg (l.surround env) l.dev).sent).leave
        (apexBridgeIoctl cmd arg (l.surround env) l.dev).dev l.work l.writes
  | .read sawEmpty nonblock waited count env =>
      l.leave (apexBridgeRead sawEmpty nonblock waited count env l.dev).dev l.work l.writes

/-- No RX work is pending and no transaction in progress. -/
structure Link.Quiet (l : Link) : Prop where
  pending : l.pending = false
  work : l.work = .idle
  writes : l.writes = []

/-- The MCU has nothing left to send, has shifted out the frames it queued, and
the driver has stored each of them exactly once. -/
structure Link.AllDelivered (l : Link) : Prop where
  queue : l.queue = []
  shifted : l.shifted = (l.queued.map frameOf).flatten
  delivered : l.queued.Perm l.delivered

/-- A transaction of `n` bytes takes nothing, or one whole frame; if it leaves
anything behind, RX work is still to come. -/
def Link.TakesOne (l : Link) (n : Nat) (again : Prop) : Prop :=
  l.queue = [] ∨ ∃ (r : Response) (rest : List Byte),
    l.queue = frameOf r.received ++ rest ∧ (frameOf r.received).length ≤ n ∧
      (rest = [] ∨ (frameOf r.received).length = n ∧ again)

/-- The step loses no response. -/
def Link.Safe (l : Link) : LinkEvent → Prop
  | .workXfer env =>
      l.work = .started →
        if env.allocOk 0 = true ∧ env.allocOk 1 = true ∧ ¬ env.spiSync < 0 then
          l.TakesOne frameSizeMax (l.pending = true)
        else l.queue = [] ∨ l.pending = true
  | .write data env =>
      writeTransfers data env → ¬ env.spiSync < 0 →
        l.TakesOne (encode (data.getD 0 0) (data.drop 1)).length
          (l.pending = true ∨ l.work = .started)
  | .ioctl cmd arg env => ioctlTransfers cmd arg env l.dev → ¬ env.spiSync < 0 → l.queue = []
  | .workFinish =>
      ∀ rxLen rxFrame r, l.work = .transferred rxLen rxFrame → accepted rxLen rxFrame = some r →
        if r.cmd = apexCmdTelemetry then r.payload.length = telemetrySize
        else r.payload.length ≤ l.dev.rxFifo.room
  | .writeFinish i =>
      ∀ rxLen rxBuf r, l.writes[i]? = some (rxLen, rxBuf) → accepted rxLen rxBuf = some r →
        r.payload.length ≤ l.dev.rxFifo.room
  | .queue _ | .workStart | .read .. => True

/-- The accepted frames of the transactions whose outcome is still to be stored. -/
def inFlight (work : RxWork) (writes : List (Int × List Byte)) : List Received :=
  (match work with
    | .transferred rxLen rxFrame => (accepted rxLen rxFrame).toList
    | .idle | .started => []) ++
    writes.flatMap fun w => (accepted w.1 w.2).toList

/-- The queued frames are those shifted out, each stored or in flight, and those
still waiting, which RX work is going to fetch. -/
structure Link.Sound (l : Link) (sent waiting : List Received) : Prop where
  queued : l.queued = sent ++ waiting
  legal : ∀ r ∈ waiting, r.payload.length ≤ maxPayload
  queue : l.queue = (waiting.map frameOf).flatten
  shifted : l.shifted = (sent.map frameOf).flatten
  accounted : (sent : Multiset Received) = l.delivered + inFlight l.work l.writes
  awaited : l.queue = [] ∨ l.pending = true ∨ l.work = .started

theorem frameOf_inj {r r' : Received} {rest rest' : List Byte}
    (hr : r.payload.length ≤ maxPayload) (hr' : r'.payload.length ≤ maxPayload)
    (h : frameOf r ++ rest = frameOf r' ++ rest') : r = r' ∧ rest = rest' := by
  have hvalid := apexValidateFrame_encode r.cmd r.payload rest hr
  have hvalid' := apexValidateFrame_encode r'.cmd r'.payload rest' hr'
  unfold frameOf at h
  rw [h, hvalid'] at hvalid
  have heq : r' = r := Except.ok.inj hvalid
  subst heq
  exact ⟨rfl, List.append_cancel_left h⟩

theorem frameOf_ne_nil (r : Received) : frameOf r ≠ [] := by
  apply List.ne_nil_of_length_pos
  unfold frameOf
  rw [encode_length]
  omega

section

variable {l : Link} {sent waiting : List Received}

/-- What a transaction brings when it takes one frame at most: the frame it
takes, which is then shifted out. -/
theorem Link.Sound.clock (h : l.Sound sent waiting) (env : Env) (tx : List Byte) (again : Prop)
    (htakes : ¬ env.spiSync < 0 → l.TakesOne tx.length again)
    (hfailed : env.spiSync < 0 → l.queue = [] ∨ again) :
    ∃ (taken : Option Received) (behind : List Received),
      waiting = taken.toList ++ behind ∧ (l.surround env).reply tx.length = taken ∧
        (l.clock env (some tx)).queue = (behind.map frameOf).flatten ∧
        (l.clock env (some tx)).shifted = l.shifted ++ (taken.toList.map frameOf).flatten ∧
        ((l.clock env (some tx)).queue = [] ∨ again) := by
  unfold Link.clock
  dsimp only
  by_cases hspi : env.spiSync < 0
  · rw [if_pos hspi]
    refine ⟨none, waiting, rfl, if_pos hspi, h.queue, (List.append_nil _).symm, hfailed hspi⟩
  rw [if_neg hspi]
  dsimp only
  rcases htakes hspi with hempty | ⟨r, rest, hqueue, hfit, hbehind⟩
  · refine ⟨none, waiting, rfl, (l.surround env).reply_idle _ hempty, ?_, ?_, .inl ?_⟩
    · rw [← h.queue, hempty, List.drop_nil]
    · rw [hempty, List.take_nil]
      rfl
    · rw [hempty, List.drop_nil]
  · have hreply := (l.surround env).reply_encode tx.length r.cmd r.payload rest hspi r.payload_le
      hqueue hfit
    obtain ⟨behind, rfl, rfl⟩ : ∃ behind, waiting = r.received :: behind ∧
        rest = (behind.map frameOf).flatten := by
      have hflat := h.queue.symm.trans hqueue
      cases waiting with
      | nil => exact absurd hflat.symm (List.append_ne_nil_of_left_ne_nil (frameOf_ne_nil _) _)
      | cons r' behind =>
          rw [List.map_cons, List.flatten_cons] at hflat
          obtain ⟨rfl, hrest⟩ := frameOf_inj (h.legal r' List.mem_cons_self) r.payload_le hflat
          exact ⟨behind, rfl, hrest.symm⟩
    have hdrop : l.queue.drop tx.length = (behind.map frameOf).flatten := by
      rcases hbehind with hlast | ⟨hexact, _⟩
      · rw [hqueue, hlast, List.append_nil, List.drop_of_length_le hfit]
      · rw [hqueue, ← hexact, List.drop_left]
    have htake : l.queue.take tx.length = frameOf r.received := by
      rcases hbehind with hlast | ⟨hexact, _⟩
      · rw [hqueue, hlast, List.append_nil, List.take_of_length_le hfit]
      · rw [hqueue, ← hexact, List.take_left]
    refine ⟨some r.received, behind, rfl, hreply, hdrop, ?_, ?_⟩
    · rw [htake]
      simp
    · rw [hdrop]
      exact hbehind.imp id And.right

/-- A transaction whose outcome is in flight. -/
theorem Link.Sound.transferred (h : l.Sound sent waiting) (env : Env) (tx : List Byte)
    (again : Prop) (htakes : ¬ env.spiSync < 0 → l.TakesOne tx.length again)
    (hfailed : env.spiSync < 0 → l.queue = [] ∨ again) (dev : Dev) (work : RxWork)
    (writes : List (Int × List Byte)) (hagain : again → l.pending = true ∨ work = .started)
    (hflight : (inFlight work writes : Multiset Received) =
      inFlight l.work l.writes + ((l.surround env).reply tx.length).toList) :
    ∃ sent' waiting', ((l.clock env (some tx)).leave dev work writes).Sound sent' waiting' := by
  obtain ⟨taken, behind, rfl, hreply, hqueue, hshifted, hawaited⟩ :=
    h.clock env tx again htakes hfailed
  rw [hreply] at hflight
  obtain ⟨hqueued, hdelivered, hpending⟩ : (l.clock env (some tx)).queued = l.queued ∧
      (l.clock env (some tx)).delivered = l.delivered ∧
        (l.clock env (some tx)).pending = l.pending := by
    unfold Link.clock
    dsimp only
    split <;> exact ⟨rfl, rfl, rfl⟩
  refine ⟨sent ++ taken.toList, behind,
    { queued := ?_, legal := ?_, queue := hqueue, shifted := ?_, accounted := ?_, awaited := ?_ }⟩
  · exact (hqueued.trans h.queued).trans (List.append_assoc ..).symm
  · intro r hr
    exact h.legal r (List.mem_append_right _ hr)
  · refine hshifted.trans ?_
    rw [h.shifted, List.map_append, List.flatten_append]
  · unfold Link.leave
    dsimp only
    rw [hdelivered, hflight, ← Multiset.coe_add, h.accounted, add_assoc]
  · unfold Link.leave
    dsimp only
    rw [hpending]
    exact hawaited.imp id hagain

/-- A finished transaction hands over what it brought. -/
theorem Link.Sound.finished (h : l.Sound sent waiting) (dev : Dev) (work : RxWork)
    (writes : List (Int × List Byte)) (stored : List Received)
    (hwork : l.work = .started → work = .started)
    (hflight : (inFlight l.work l.writes : Multiset Received) = stored + inFlight work writes) :
    ({ l.leave dev work writes with delivered := l.delivered ++ stored } : Link).Sound
      sent waiting where
  queued := h.queued
  legal := h.legal
  queue := h.queue
  shifted := h.shifted
  accounted := by
    rw [h.accounted, hflight, ← Multiset.coe_add, add_assoc]
    rfl
  awaited := h.awaited.imp id (Or.imp id hwork)

/-- An operation that neither transfers nor stores anything. -/
theorem Link.Sound.left (h : l.Sound sent waiting) (dev : Dev) :
    (l.leave dev l.work l.writes).Sound sent waiting :=
  ⟨h.queued, h.legal, h.queue, h.shifted, h.accounted, h.awaited⟩

end

/-- A frame that finds room is stored. -/
theorem deliveries_takeResponse (dev : Dev) (r : Received)
    (h : if r.cmd = apexCmdTelemetry then r.payload.length = telemetrySize
      else r.payload.length ≤ dev.rxFifo.room) :
    deliveries dev (dev.takeResponse r) (some r) = [r] := by
  unfold deliveries
  apply if_pos
  by_cases htelem : r.cmd = apexCmdTelemetry
  · rw [if_pos htelem] at h
    refine .inr ⟨htelem, h, ?_⟩
    unfold Dev.takeResponse Dev.cacheTelemetry Dev.pushRx
    rw [if_pos htelem, if_pos h]
    dsimp only
    split <;> rfl
  · rw [if_neg htelem] at h
    have hgood : r.malformed = false := by simp [Received.malformed, htelem]
    refine .inl ?_
    rw [takeResponse_rxFifo, hgood, if_neg Bool.false_ne_true, Fifo.push_items_of_fits _ _ h]

theorem deliveries_pushRx (dev : Dev) (r : Received) (h : r.payload.length ≤ dev.rxFifo.room) :
    deliveries dev (dev.pushRx r.payload) (some r) = [r] :=
  if_pos (.inl (Fifo.push_items_of_fits _ _ h))

/-- Started RX work with both buffers transfers, and what it brings is in flight. -/
theorem linkStep_workXfer (l : Link) (env : Env) (hstarted : l.work = .started)
    (hbufs : env.allocOk 0 = true ∧ env.allocOk 1 = true) :
    ∃ rxLen rxFrame, accepted rxLen rxFrame = (l.surround env).reply frameSizeMax ∧
      linkStep l (.workXfer env) = (l.clock env (some (rxWorkTx env))).leave
        ((l.surround env).afterXfer l.dev) (.transferred rxLen rxFrame) l.writes := by
  have hpos : 0 < (rxWorkTx env).length := by
    rw [rxWorkTx_length]
    decide
  have hreply := accepted_xfer (rxWorkTx env) (memBytes (env.heap 0) frameSizeMax)
    (l.surround env) l.dev (le_of_eq (rxWorkTx_length env)) hpos (memBytes_length _ _)
  obtain ⟨hdev, _, hsent⟩ := apexSpiXfer_eq (rxWorkTx env) (memBytes (env.heap 0) frameSizeMax)
    (l.surround env) l.dev (le_of_eq (rxWorkTx_length env)) (memBytes_length _ _)
  rw [rxWorkTx_length] at hreply
  refine ⟨_, _, hreply, ?_⟩
  have hxfer := (rxWorkXfer_eq (l.surround env) l.dev).trans (if_pos hbufs)
  unfold linkStep
  rw [hstarted]
  dsimp only
  rw [hxfer, ← hdev, ← hsent]
  rfl

/-- Without its buffers it gives up. -/
theorem linkStep_workXfer_failed (l : Link) (env : Env) (hstarted : l.work = .started)
    (hbufs : ¬ (env.allocOk 0 = true ∧ env.allocOk 1 = true)) :
    linkStep l (.workXfer env) = l.leave l.dev .idle l.writes := by
  have hxfer := (rxWorkXfer_eq (l.surround env) l.dev).trans (if_neg hbufs)
  unfold linkStep
  rw [hstarted]
  dsimp only
  rw [hxfer]

/-- A write gives up without a transfer, or what its frame brings is in flight. -/
theorem linkStep_write (l : Link) (data : List Byte) (env : Env) :
    linkStep l (.write data env) = l ∨
      (writeTransfers data env ∧ ∃ ret rxBuf,
        accepted ret rxBuf =
            (l.surround env).reply (encode (data.getD 0 0) (data.drop 1)).length ∧
          linkStep l (.write data env) =
            (l.clock env (some (encode (data.getD 0 0) (data.drop 1)))).leave
              ((l.surround env).afterXfer l.dev) l.work (l.writes ++ [(ret, rxBuf)])) := by
  rcases writeXfer_cases data (l.surround env) with ⟨ret, herror⟩ | ⟨hlen, hok⟩
  · have hxfer : writeXfer data (l.surround env) l.dev = .error ret := herror env.heap l.dev
    refine .inl ?_
    unfold linkStep
    dsimp only
    rw [hxfer]
  · have hfit := encode_fits (data.getD 0 0) (data.drop 1) (by rw [List.length_drop]; omega)
    have hpos : 0 < (encode (data.getD 0 0) (data.drop 1)).length := by
      rw [encode_length]
      omega
    have hreply := accepted_xfer (encode (data.getD 0 0) (data.drop 1))
      (memBytes (env.heap 2) frameSizeMax) (l.surround env) l.dev hfit hpos (memBytes_length _ _)
    obtain ⟨hdev, _, hsent⟩ := apexSpiXfer_eq (encode (data.getD 0 0) (data.drop 1))
      (memBytes (env.heap 2) frameSizeMax) (l.surround env) l.dev hfit (memBytes_length _ _)
    have hxfer : writeXfer data (l.surround env) l.dev =
        .ok (apexSpiXfer (encode (data.getD 0 0) (data.drop 1))
          (memBytes (env.heap 2) frameSizeMax) (l.surround env) l.dev) := hok env.heap l.dev
    have htransfers : writeTransfers data (l.surround env) := writeTransfers_of_ok hxfer
    refine .inr ⟨htransfers, _, _, hreply, ?_⟩
    unfold linkStep
    dsimp only
    rw [hxfer, ← hdev, ← hsent]

section

variable {l : Link} {sent waiting : List Received}

theorem Link.Sound.queue_step (h : l.Sound sent waiting) (r : Response) :
    (linkStep l (.queue r)).Sound sent (waiting ++ [r.received]) where
  queued := (congrArg (· ++ [r.received]) h.queued).trans (List.append_assoc ..)
  legal := by
    intro r' hr'
    rcases List.mem_append.mp hr' with hold | hnew
    · exact h.legal r' hold
    · rw [List.mem_singleton.mp hnew]
      exact r.payload_le
  queue := by
    rw [List.map_append, List.flatten_append, ← h.queue, List.map_singleton,
      List.flatten_singleton]
    rfl
  shifted := h.shifted
  accounted := h.accounted
  awaited := by
    refine .inr ?_
    show (l.pending || l.queue.isEmpty) = true ∨ l.work = .started
    rcases h.awaited with hempty | hpending | hstarted
    · exact .inl (by simp [hempty])
    · exact .inl (by simp [hpending])
    · exact .inr hstarted

theorem Link.Sound.workStart_step (h : l.Sound sent waiting) :
    (linkStep l .workStart).Sound sent waiting := by
  unfold linkStep
  dsimp only
  split
  · next hpending hidle =>
    have haccounted := h.accounted
    rw [hidle] at haccounted
    exact ⟨h.queued, h.legal, h.queue, h.shifted, haccounted, .inr (.inr rfl)⟩
  · exact h

theorem Link.Sound.workXfer_step (h : l.Sound sent waiting) (env : Env)
    (hsafe : l.Safe (.workXfer env)) :
    ∃ sent' waiting', (linkStep l (.workXfer env)).Sound sent' waiting' := by
  by_cases hstarted : l.work = .started
  · have hcond := hsafe hstarted
    by_cases hbufs : env.allocOk 0 = true ∧ env.allocOk 1 = true
    · obtain ⟨rxLen, rxFrame, hreply, hstep⟩ := linkStep_workXfer l env hstarted hbufs
      rw [hstep]
      apply h.transferred env (rxWorkTx env) (l.pending = true)
      · intro hspi
        rw [rxWorkTx_length]
        rwa [if_pos ⟨hbufs.1, hbufs.2, hspi⟩] at hcond
      · intro hspi
        rwa [if_neg fun hno => hno.2.2 hspi] at hcond
      · exact .inl
      · rw [rxWorkTx_length, ← hreply, hstarted, add_comm]
        rfl
    · rw [if_neg fun hno => hbufs ⟨hno.1, hno.2.1⟩] at hcond
      rw [linkStep_workXfer_failed l env hstarted hbufs]
      have haccounted := h.accounted
      rw [hstarted] at haccounted
      exact ⟨sent, waiting, h.queued, h.legal, h.queue, h.shifted, haccounted,
        hcond.imp id .inl⟩
  · refine ⟨sent, waiting, ?_⟩
    unfold linkStep
    dsimp only
    split
    · contradiction
    · exact h

theorem Link.Sound.workFinish_step (h : l.Sound sent waiting) (hsafe : l.Safe .workFinish) :
    (linkStep l .workFinish).Sound sent waiting := by
  unfold linkStep
  dsimp only
  split
  · next rxLen rxFrame hwork =>
    have hstored : deliveries l.dev (rxWorkFinish rxLen rxFrame l.dev)
        (accepted rxLen rxFrame) = (accepted rxLen rxFrame).toList := by
      rw [rxWorkFinish_eq]
      cases haccepted : accepted rxLen rxFrame with
      | none => rfl
      | some r => exact deliveries_takeResponse l.dev r (hsafe rxLen rxFrame r hwork haccepted)
    rw [hstored]
    apply h.finished
    · rw [hwork]
      exact nofun
    · rw [hwork]
      exact (Multiset.coe_add _ _).symm
  · exact h

theorem Link.Sound.write_step (h : l.Sound sent waiting) (data : List Byte) (env : Env)
    (hsafe : l.Safe (.write data env)) :
    ∃ sent' waiting', (linkStep l (.write data env)).Sound sent' waiting' := by
  rcases linkStep_write l data env with hnone | ⟨htransfers, ret, rxBuf, hreply, hstep⟩
  · rw [hnone]
    exact ⟨sent, waiting, h⟩
  · rw [hstep]
    apply h.transferred env _ (l.pending = true ∨ l.work = .started)
    · exact hsafe htransfers
    · exact fun _ => h.awaited
    · exact id
    · unfold inFlight
      rw [← hreply, List.flatMap_append, Multiset.coe_add, List.append_assoc]
      simp

theorem Link.Sound.writeFinish_step (h : l.Sound sent waiting) (i : Nat)
    (hsafe : l.Safe (.writeFinish i)) : (linkStep l (.writeFinish i)).Sound sent waiting := by
  unfold linkStep
  dsimp only
  split
  · exact h
  next ret rxBuf hget =>
  have hstored : deliveries l.dev (writeFinish ret rxBuf l.dev) (accepted ret rxBuf) =
      (accepted ret rxBuf).toList := by
    rw [writeFinish_eq]
    cases haccepted : accepted ret rxBuf with
    | none => rfl
    | some r => exact deliveries_pushRx l.dev r (hsafe ret rxBuf r hget haccepted)
  obtain ⟨hi, hi'⟩ := List.getElem?_eq_some_iff.mp hget
  have hperm := (List.getElem_cons_eraseIdx_perm hi).flatMap_right
    fun w : Int × List Byte => (accepted w.1 w.2).toList
  rw [hi', List.flatMap_cons] at hperm
  rw [hstored]
  apply h.finished
  · exact id
  · unfold inFlight
    rw [Multiset.coe_add]
    refine Multiset.coe_eq_coe.mpr ?_
    exact (hperm.symm.append_left _).trans (List.perm_append_comm_assoc ..)

theorem Link.Sound.ioctl_step (h : l.Sound sent waiting) (cmd : BitVec 32) (arg : Nat → Byte)
    (env : Env) (hsafe : l.Safe (.ioctl cmd arg env)) :
    ∃ sent' waiting', (linkStep l (.ioctl cmd arg env)).Sound sent' waiting' := by
  unfold linkStep
  dsimp only
  cases hsent : (apexBridgeIoctl cmd arg (l.surround env) l.dev).sent with
  | none => exact ⟨sent, waiting, h.left _⟩
  | some tx =>
      have hsome : (apexBridgeIoctl cmd arg (l.surround env) l.dev).sent ≠ none := by
        rw [hsent]
        exact nofun
      have htransfers := ioctlTransfers_of_sent hsome
      apply h.transferred env tx (l.pending = true ∨ l.work = .started)
      · exact fun hspi => .inl (hsafe htransfers hspi)
      · exact fun _ => h.awaited
      · exact id
      · have hreply : (l.surround env).reply tx.length = none := by
          by_cases hspi : env.spiSync < 0
          · exact if_pos hspi
          · exact (l.surround env).reply_idle _ (hsafe htransfers hspi)
        rw [hreply]
        exact (add_zero _).symm

end

/-- Every frame queued so far is accounted for. -/
def Link.Accounted (l : Link) : Prop := ∃ sent waiting, l.Sound sent waiting

theorem Link.start_accounted (dev : Dev) : (Link.start dev).Accounted :=
  ⟨[], [], ⟨rfl, nofun, rfl, rfl, rfl, .inl rfl⟩⟩

theorem linkStep_accounted (l : Link) (e : LinkEvent) (h : l.Accounted) (hsafe : l.Safe e) :
    (linkStep l e).Accounted := by
  obtain ⟨sent, waiting, h⟩ := h
  cases e with
  | queue r => exact ⟨_, _, h.queue_step r⟩
  | workStart => exact ⟨_, _, h.workStart_step⟩
  | workXfer env => exact h.workXfer_step env hsafe
  | workFinish => exact ⟨_, _, h.workFinish_step hsafe⟩
  | write data env => exact h.write_step data env hsafe
  | writeFinish i => exact ⟨_, _, h.writeFinish_step i hsafe⟩
  | ioctl cmd arg env => exact h.ioctl_step cmd arg env hsafe
  | read sawEmpty nonblock waited count env => exact ⟨_, _, h.left _⟩

/-- In a quiet state nothing waits and nothing is in flight. -/
theorem Link.Accounted.allDelivered {l : Link} (h : l.Accounted) (hquiet : l.Quiet) :
    l.AllDelivered := by
  obtain ⟨sent, waiting, h⟩ := h
  have hempty : l.queue = [] := by
    rcases h.awaited with hempty | hpending | hstarted
    · exact hempty
    · rw [hquiet.pending] at hpending
      cases hpending
    · rw [hquiet.work] at hstarted
      cases hstarted
  have hwaiting : waiting = [] := by
    cases waiting with
    | nil => rfl
    | cons r behind =>
        have hflat := h.queue.symm.trans hempty
        rw [List.map_cons, List.flatten_cons] at hflat
        exact absurd (List.append_eq_nil_iff.mp hflat).1 (frameOf_ne_nil r)
  subst hwaiting
  have hsent : l.queued = sent := h.queued.trans (List.append_nil sent)
  refine ⟨hempty, hsent ▸ h.shifted, ?_⟩
  have haccounted := h.accounted
  rw [hquiet.work, hquiet.writes] at haccounted
  rw [hsent]
  exact Multiset.coe_eq_coe.mp (haccounted.trans (add_zero _))

/-- Along a run of safe steps no response is lost: whenever things are quiet, each
has been delivered exactly once. -/
theorem responses_delivered (dev : Dev) (es : List LinkEvent)
    (h : Along linkStep Link.Safe (Link.start dev) es)
    (hquiet : (run linkStep (Link.start dev) es).Quiet) :
    (run linkStep (Link.start dev) es).AllDelivered := by
  have haccounted := run_invariant_along linkStep_accounted (Link.start_accounted dev) h
  exact haccounted.allDelivered hquiet

/-- A response of one payload byte. -/
def shortResponse : Response := ⟨apexCmdSdrTune, [7], by decide⟩

/-- The RX work with nothing in its way. -/
def fetch : List LinkEvent := [.workStart, .workXfer (.ok []), .workFinish]

/-- The only response in the queue is fetched and finds room. -/
theorem safe_fetched (l : Link) (r : Response) (hstarted : l.work = .started)
    (hqueue : l.queue = frameOf r.received) (hcmd : r.cmd ≠ apexCmdTelemetry)
    (hroom : r.payload.length ≤ l.dev.rxFifo.room) :
    (linkStep l (.workXfer (.ok []))).Safe .workFinish := by
  intro rxLen rxFrame r' hwork haccepted
  obtain ⟨n, buf, hreply, hstep⟩ := linkStep_workXfer l (.ok []) hstarted ⟨rfl, rfl⟩
  rw [Env.reply_encode (l.surround (.ok [])) frameSizeMax r.cmd r.payload []
    (show ¬ (0 : Int) < 0 by decide) r.payload_le (hqueue.trans (List.append_nil _).symm)
    (encode_fits r.cmd r.payload r.payload_le)] at hreply
  rw [hstep] at hwork ⊢
  obtain ⟨rfl, rfl⟩ := RxWork.transferred.inj hwork
  rw [← Option.some.inj (hreply.symm.trans haccepted), if_neg hcmd]
  exact hroom

/-- One response is queued, fetched and stored. -/
theorem responses_delivered_one :
    (run linkStep (Link.start Dev.probed) (.queue shortResponse :: fetch)).AllDelivered := by
  apply responses_delivered
  · refine ⟨trivial, trivial, ?_, ?_, trivial⟩
    · intro _
      rw [if_pos ⟨rfl, rfl, by decide⟩]
      exact .inr ⟨shortResponse, [], rfl, by decide, .inl rfl⟩
    · exact safe_fetched (run linkStep (Link.start Dev.probed) [.queue shortResponse, .workStart])
        shortResponse rfl rfl (by decide) (show _ ≤ 65536 by decide)
  · have hquiet : (run linkStep (Link.start Dev.probed) (.queue shortResponse :: fetch)).pending =
        false ∧
      (run linkStep (Link.start Dev.probed) (.queue shortResponse :: fetch)).work = .idle ∧
      (run linkStep (Link.start Dev.probed) (.queue shortResponse :: fetch)).writes = [] := by
      decide +kernel
    exact ⟨hquiet.1, hquiet.2.1, hquiet.2.2⟩

/-- A request overtakes the RX work, clocks the response out and drops it. -/
theorem response_lost_to_request :
    let l := run linkStep (Link.start Dev.probed)
      (.queue shortResponse :: .ioctl apexIocSdrStream (fun _ => 1) (.ok []) :: fetch)
    l.Quiet ∧ ¬ l.AllDelivered := by
  intro l
  obtain ⟨hpending, hwork, hwrites, hqueued, hdelivered⟩ : l.pending = false ∧ l.work = .idle ∧
      l.writes = [] ∧ l.queued = [shortResponse.received] ∧ l.delivered = [] := by
    decide +kernel
  refine ⟨⟨hpending, hwork, hwrites⟩, ?_⟩
  intro hall
  have hlost := hall.delivered
  rw [hqueued, hdelivered] at hlost
  exact List.cons_ne_nil _ _ hlost.eq_nil

end GhostBlade.Bridge
