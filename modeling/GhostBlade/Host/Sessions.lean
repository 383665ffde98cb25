import GhostBlade.Host.Monitor
import GhostBlade.Host.RxStream

/-!
Two users of the device, one after the other. The release of the first wipes the
cached telemetry and leaves the RX FIFO alone; it also lets the next user in
before it wipes. `Store` is what a session can leave behind for the next one: the
FIFO, the cached record, and what the RX work and the writes still hold.
-/

namespace GhostBlade.Host

open GhostBlade.Library GhostBlade.Protocol

/-- How far the release of the first user is: not called, behind
`pm_runtime_put_autosuspend`, behind `atomic_set`, and behind the wipe. -/
inductive Release where
  | no
  | begun
  | counted
  | wiped
deriving DecidableEq

/-- The driver with two users. `work` is what the RX work holds behind its
transfer, `writes` the same for the writes; `second` says that the second user's
open has succeeded. `fresh` records whether a telemetry frame has been cached
since the release began. -/
structure Sessions where
  dev : Dev
  work : Option (Int × List Byte)
  writes : List (Int × List Byte)
  release : Release
  second : Bool
  fresh : Bool

/-- The steps of the RX work, of the file operations and of the release. A file
operation is the first user's before the release, and the second user's after. -/
inductive SessionEvent where
  | workXfer (env : Env)
  | workFinish
  | write (data : List Byte) (env : Env)
  | writeFinish (i : Nat)
  | ioctl (cmd : BitVec 32) (arg : Nat → Byte) (env : Env)
  | read (sawEmpty nonblock : Bool) (waited : Int) (count : Nat) (env : Env)
  | releaseBegin
  | releaseCount
  | releaseWipe
  | open (pmGet : Int)

/-- A telemetry frame of the right length goes into the cache. -/
def Received.cached (r : Received) : Bool :=
  r.cmd = apexCmdTelemetry ∧ r.payload.length = telemetrySize

namespace Sessions

/-- The first user has opened the device. -/
def start : Sessions := ⟨(apexBridgeOpen 0 .probed).dev, none, [], .no, false, false⟩

/-- Somebody has the device open. -/
def InUse (s : Sessions) : Prop := s.release = .no ∨ s.second = true

instance InUse.decidable (s : Sessions) : Decidable s.InUse := inferInstanceAs (Decidable (_ ∨ _))

/-- A release waits for the writes of its session. -/
def step (s : Sessions) : SessionEvent → Sessions
  | .workXfer env =>
      match s.work, rxWorkXfer env s.dev with
      | none, some x => { s with dev := x.dev, work := some (x.ret, x.rxBuf) }
      | _, _ => s
  | .workFinish =>
      match s.work with
      | some (rxLen, rxFrame) =>
          { s with
            dev := rxWorkFinish rxLen rxFrame s.dev
            work := none
            fresh := s.fresh || (accepted rxLen rxFrame).any Received.cached }
      | none => s
  | .write data env =>
      if s.InUse then
        match writeXfer data env s.dev with
        | .ok x => { s with dev := x.dev, writes := s.writes ++ [(x.ret, x.rxBuf)] }
        | .error _ => s
      else s
  | .writeFinish i =>
      match s.writes[i]? with
      | some (ret, rxBuf) =>
          { s with dev := writeFinish ret rxBuf s.dev, writes := s.writes.eraseIdx i }
      | none => s
  | .ioctl cmd arg env =>
      if s.InUse then { s with dev := (apexBridgeIoctl cmd arg env s.dev).dev } else s
  | .read sawEmpty nonblock waited count env =>
      if s.InUse then
        { s with dev := (apexBridgeRead sawEmpty nonblock waited count env s.dev).dev }
      else s
  | .releaseBegin =>
      if s.release = .no ∧ s.writes = [] then { s with release := .begun, fresh := false } else s
  | .releaseCount =>
      if s.release = .begun then
        { s with dev := { s.dev with opened := false }, release := .counted }
      else s
  | .releaseWipe =>
      if s.release = .counted then
        { s with
          dev := { s.dev with lastTelem := List.replicate telemetrySize 0 }
          release := .wiped }
      else s
  | .open pmGet =>
      { s with
        dev := (apexBridgeOpen pmGet s.dev).dev
        second := s.second || (apexBridgeOpen pmGet s.dev).ret = 0 }

/-- The steps of an undisturbed release make up `apex_bridge_release`, and those
of an undisturbed RX work and write the whole functions. -/
theorem release_steps {s : Sessions} (hrelease : s.release = .no) (hwrites : s.writes = []) :
    (run step s [.releaseBegin, .releaseCount, .releaseWipe]).dev =
      (apexBridgeRelease s.dev).dev := by
  simp [step, hrelease, hwrites, apexBridgeRelease, Result.done]

theorem work_steps {s : Sessions} (env : Env) (hwork : s.work = none) :
    (run step s [.workXfer env, .workFinish]).dev = (apexRxWorkHandler env s.dev).dev := by
  unfold apexRxWorkHandler
  cases hxfer : rxWorkXfer env s.dev with
  | none => simp [step, hwork, hxfer, Result.done]
  | some x => simp [step, hwork, hxfer]

theorem write_steps {s : Sessions} (data : List Byte) (env : Env) (huse : s.InUse)
    (hwrites : s.writes = []) :
    (run step s [.write data env, .writeFinish 0]).dev = (apexBridgeWrite data env s.dev).dev := by
  unfold apexBridgeWrite
  cases hxfer : writeXfer data env s.dev with
  | error code => simp [step, huse, hwrites, hxfer, Result.done]
  | ok x => simp [step, huse, hwrites, hxfer]

/-- What the second user gets from `read` and `APEX_IOC_GET_TELEMETRY`. -/
def obtained (s : Sessions) (e : SessionEvent) : List (Int × List Byte) :=
  if s.second then
    match e with
    | .read sawEmpty nonblock waited count env =>
        let r := apexBridgeRead sawEmpty nonblock waited count env s.dev
        [(r.ret, r.out)]
    | .ioctl cmd arg env =>
        if cmd = apexIocGetTelemetry then
          let r := apexBridgeIoctl cmd arg env s.dev
          [(r.ret, r.out)]
        else []
    | _ => []
  else []

end Sessions

/-! ### What a session leaves behind -/

structure Store where
  fifo : Fifo Byte apexRxFifoSize
  telem : List Byte
  opened : Bool
  work : Option (Option Received)
  writes : List (Option Received)
  release : Release
  second : Bool
  fresh : Bool

inductive StoreEvent where
  | nothing
  | fetch (r : Option Received)
  | store
  | write (r : Option Received)
  | writeStore (i : Nat)
  | take (count : Nat)
  | releaseBegin
  | releaseCount
  | releaseWipe
  | open (resumed : Bool)

namespace Store

def InUse (s : Store) : Prop := s.release = .no ∨ s.second = true

instance InUse.decidable (s : Store) : Decidable s.InUse := inferInstanceAs (Decidable (_ ∨ _))

def accept (s : Store) (r : Received) : Store :=
  { s with
    fifo := if r.malformed then s.fifo else s.fifo.push r.payload
    telem := if r.cached then r.payload else s.telem
    fresh := s.fresh || r.cached }

def step (s : Store) : StoreEvent → Store
  | .nothing => s
  | .fetch r => if s.work = none then { s with work := some r } else s
  | .store =>
      match s.work with
      | some (some r) => { s.accept r with work := none }
      | some none => { s with work := none }
      | none => s
  | .write r => if s.InUse then { s with writes := s.writes ++ [r] } else s
  | .writeStore i =>
      match s.writes[i]? with
      | some (some r) => { s with fifo := s.fifo.push r.payload, writes := s.writes.eraseIdx i }
      | some none => { s with writes := s.writes.eraseIdx i }
      | none => s
  | .take count =>
      if s.InUse then { s with fifo := s.fifo.pop (min count s.fifo.items.length) } else s
  | .releaseBegin =>
      if s.release = .no ∧ s.writes = [] then { s with release := .begun, fresh := false } else s
  | .releaseCount =>
      if s.release = .begun then { s with opened := false, release := .counted } else s
  | .releaseWipe =>
      if s.release = .counted then
        { s with telem := List.replicate telemetrySize 0, release := .wiped }
      else s
  | .open resumed =>
      if s.opened = false ∧ resumed = true then { s with opened := true, second := true } else s

end Store

def Sessions.store (s : Sessions) : Store where
  fifo := s.dev.rxFifo
  telem := s.dev.lastTelem
  opened := s.dev.opened
  work := s.work.map fun w => accepted w.1 w.2
  writes := s.writes.map fun w => accepted w.1 w.2
  release := s.release
  second := s.second
  fresh := s.fresh

/-- The frame that an event's transfer brings. -/
def SessionEvent.reception : SessionEvent → Option Received
  | .workXfer env => env.reply frameSizeMax
  | .write data env => env.reply (encode (data.getD 0 0) (data.drop 1)).length
  | _ => none

def SessionEvent.stored (e : SessionEvent) : StoreEvent :=
  match e with
  | .workXfer env =>
      if env.allocOk 0 = true ∧ env.allocOk 1 = true then .fetch e.reception else .nothing
  | .workFinish => .store
  | .write data env => if writeTransfers data env then .write e.reception else .nothing
  | .writeFinish i => .writeStore i
  | .ioctl .. => .nothing
  | .read sawEmpty nonblock waited count env =>
      if sawEmpty ∧ nonblock ∨ sawEmpty ∧ waited ≠ 0 ∨ env.allocOk 0 = false then .nothing
      else .take count
  | .releaseBegin => .releaseBegin
  | .releaseCount => .releaseCount
  | .releaseWipe => .releaseWipe
  | .open pmGet => .open (0 ≤ pmGet)

theorem Env.afterXfer_opened (env : Env) (dev : Dev) : (env.afterXfer dev).opened = dev.opened := by
  unfold Env.afterXfer
  split
  · rfl
  · rfl

theorem ioctl_opened (env : Env) (dev : Dev) (cmd : BitVec 32) (arg : Nat → Byte) :
    (apexBridgeIoctl cmd arg env dev).dev.opened = dev.opened := by
  by_cases hcmd : cmd = apexIocMcuReset
  · rw [hcmd, apexBridgeIoctl_mcuReset]
    split
    · rfl
    · unfold Dev.mcuReset
      split
      · rfl
      · rfl
  · obtain ⟨eng, hdev⟩ := apexBridgeIoctl_sends env dev arg hcmd
    rw [hdev, Env.afterSending]
    split
    · rfl
    · exact env.afterXfer_opened _

theorem takeResponse_lastTelem (r : Received) (dev : Dev) :
    (dev.takeResponse r).lastTelem = if r.cached then r.payload else dev.lastTelem := by
  unfold Dev.takeResponse Received.cached
  by_cases htelem : r.cmd = apexCmdTelemetry
  · by_cases hlen : r.payload.length = telemetrySize
    · simp only [htelem, hlen, Dev.pushRx, Dev.cacheTelemetry, and_self, if_true, decide_true]
      split <;> rfl
    · simp [htelem, hlen]
  · simp only [htelem, if_false, false_and, decide_false, Bool.false_eq_true]
    split <;> rfl

theorem takeResponse_opened (r : Received) (dev : Dev) :
    (dev.takeResponse r).opened = dev.opened := by
  unfold Dev.takeResponse Dev.cacheTelemetry
  dsimp only
  repeat' split
  all_goals rfl

namespace Sessions

variable (s : Sessions)

theorem workXfer_store (env : Env) :
    (s.step (.workXfer env)).store = s.store.step (SessionEvent.workXfer env).stored := by
  have hpos : 0 < (rxWorkTx env).length := by
    rw [rxWorkTx_length]
    decide
  have hle : (rxWorkTx env).length ≤ frameSizeMax := le_of_eq (rxWorkTx_length env)
  have hrx : (memBytes (env.heap 0) frameSizeMax).length = frameSizeMax := memBytes_length _ _
  simp only [step, SessionEvent.stored]
  rw [rxWorkXfer_eq]
  by_cases hbufs : env.allocOk 0 = true ∧ env.allocOk 1 = true
  · rw [if_pos hbufs, if_pos hbufs]
    have haccepted := accepted_xfer _ _ env s.dev hle hpos hrx
    have hdev := (apexSpiXfer_eq _ _ env s.dev hle hrx).1
    rw [rxWorkTx_length] at haccepted
    cases hw : s.work with
    | none =>
        simp only [store, hw, hdev, haccepted, Option.map_none, Option.map_some, Store.step,
          if_true, SessionEvent.reception, Env.afterXfer_rxFifo, Env.afterXfer_lastTelem,
          Env.afterXfer_opened]
    | some w => simp [store, hw, Store.step]
  · rw [if_neg hbufs, if_neg hbufs]
    cases s.work <;> rfl

theorem workFinish_store : (s.step .workFinish).store = s.store.step .store := by
  cases hw : s.work with
  | none => simp [step, hw, store, Store.step]
  | some w =>
      obtain ⟨n, buf⟩ := w
      simp only [step, hw]
      rw [rxWorkFinish_eq]
      cases hr : accepted n buf with
      | none => simp [store, hw, hr, Store.step]
      | some r =>
          simp [store, hw, hr, Store.step, Store.accept, takeResponse_rxFifo,
            takeResponse_lastTelem, takeResponse_opened]

theorem write_store (data : List Byte) (env : Env) :
    (s.step (.write data env)).store = s.store.step (SessionEvent.write data env).stored := by
  simp only [step, SessionEvent.stored]
  by_cases huse : s.InUse
  · have huse' : s.store.InUse := huse
    rw [if_pos huse]
    by_cases hdata : writeTransfers data env
    · have hfit := encode_fits (data.getD 0 0) (data.drop 1) (by
        have hmax := hdata.2.1
        rw [List.length_drop]
        omega)
      have hpos : 0 < (encode (data.getD 0 0) (data.drop 1)).length := by
        rw [encode_length]
        omega
      have hrx : (memBytes (env.heap 2) frameSizeMax).length = frameSizeMax := memBytes_length _ _
      have haccepted := accepted_xfer _ _ env s.dev hfit hpos hrx
      have hdev := (apexSpiXfer_eq _ _ env s.dev hfit hrx).1
      rw [if_pos hdata, writeXfer_ok s.dev hdata, Store.step, if_pos huse']
      simp only [store, hdev, haccepted, SessionEvent.reception, List.map_append,
        List.map_singleton, Env.afterXfer_rxFifo, Env.afterXfer_lastTelem, Env.afterXfer_opened]
    · rw [if_neg hdata]
      cases hx : writeXfer data env s.dev with
      | error ret => rfl
      | ok x => exact absurd (writeTransfers_of_ok hx) hdata
  · have huse' : ¬ s.store.InUse := huse
    rw [if_neg huse]
    split
    · exact (if_neg huse').symm
    · rfl

theorem writeFinish_store (i : Nat) :
    (s.step (.writeFinish i)).store = s.store.step (.writeStore i) := by
  cases hw : s.writes[i]? with
  | none => simp [step, hw, store, Store.step]
  | some w =>
      obtain ⟨n, buf⟩ := w
      simp only [step, hw]
      rw [writeFinish_eq]
      cases hr : accepted n buf with
      | none => simp [store, hw, hr, Store.step, List.eraseIdx_map]
      | some r => simp [store, hw, hr, Store.step, List.eraseIdx_map, Dev.pushRx]

theorem ioctl_store (cmd : BitVec 32) (arg : Nat → Byte) (env : Env) :
    (s.step (.ioctl cmd arg env)).store = s.store := by
  have hquiet := apexBridgeIoctl_quiet cmd arg env s.dev
  simp only [step]
  split
  · simp only [store, hquiet.rxFifo, hquiet.lastTelem, ioctl_opened env s.dev cmd arg]
  · rfl

theorem read_store (sawEmpty nonblock : Bool) (waited : Int) (count : Nat) (env : Env) :
    (s.step (.read sawEmpty nonblock waited count env)).store =
      s.store.step (SessionEvent.read sawEmpty nonblock waited count env).stored := by
  have hread := apexBridgeRead_dev sawEmpty nonblock waited count env s.dev
  by_cases huse : s.InUse
  · have huse' : s.store.InUse := huse
    simp only [step, if_pos huse, SessionEvent.stored]
    rw [hread]
    split
    · rfl
    · rw [Store.step, if_pos huse']
      rfl
  · have huse' : ¬ s.store.InUse := huse
    simp only [step, if_neg huse, SessionEvent.stored]
    split
    · rfl
    · exact (if_neg huse').symm

theorem open_store (pmGet : Int) :
    (s.step (.open pmGet)).store = s.store.step (.open (0 ≤ pmGet)) := by
  by_cases hopened : s.dev.opened = true
  · have hres : apexBridgeOpen pmGet s.dev = .done s.dev (-ebusy) := if_pos hopened
    simp [step, hres, Result.done, ebusy, store, Store.step, hopened]
  · have hclosed : s.dev.opened = false := Bool.eq_false_of_not_eq_true hopened
    by_cases hresume : pmGet < 0
    · have hres : apexBridgeOpen pmGet s.dev = .done s.dev pmGet :=
        (if_neg hopened).trans (if_pos hresume)
      have hret : pmGet ≠ 0 := by omega
      simp [step, hres, Result.done, store, Store.step, hret, hresume]
    · have hres : apexBridgeOpen pmGet s.dev = .done { s.dev with opened := true } 0 :=
        (if_neg hopened).trans (if_neg hresume)
      have hle : 0 ≤ pmGet := by omega
      simp [step, hres, Result.done, store, Store.step, hclosed, hle]

theorem step_store (e : SessionEvent) : (s.step e).store = s.store.step e.stored := by
  cases e with
  | workXfer env => exact s.workXfer_store env
  | workFinish => exact s.workFinish_store
  | write data env => exact s.write_store data env
  | writeFinish i => exact s.writeFinish_store i
  | ioctl cmd arg env => exact s.ioctl_store cmd arg env
  | read sawEmpty nonblock waited count env => exact s.read_store ..
  | releaseBegin =>
      simp only [step, SessionEvent.stored, Store.step, store, List.map_eq_nil_iff]
      split <;> rfl
  | releaseCount =>
      by_cases h : s.release = .begun <;>
        simp [step, SessionEvent.stored, Store.step, store, h]
  | releaseWipe =>
      by_cases h : s.release = .counted <;>
        simp [step, SessionEvent.stored, Store.step, store, h]
  | «open» pmGet => exact s.open_store pmGet

end Sessions

/-! ### Two runs -/

/-- What the runs agree on before the release: everything but the contents. -/
def Received.shape (r : Received) : Byte × Nat := (r.cmd, r.payload.length)

/-- The event with other bytes from the MCU. -/
def SessionEvent.withMiso (miso : List Byte) : SessionEvent → SessionEvent
  | .workXfer env => .workXfer { env with miso := miso }
  | .write data env => .write data { env with miso := miso }
  | .ioctl cmd arg env => .ioctl cmd arg { env with miso := miso }
  | e => e

/-- Up to the begin of the release the runs differ in the payloads of the frames
received, and not at all from there on. -/
def Similar (p : Sessions × Sessions) (e : SessionEvent × SessionEvent) : Prop :=
  if p.1.release = .no then
    (∃ miso, e.2 = e.1.withMiso miso) ∧
      e.1.reception.map Received.shape = e.2.reception.map Received.shape
  else e.2 = e.1

/-- The first user has read everything when the release begins, and no RX work
holds a frame; the second user asks for telemetry when the old record has been
wiped or replaced. -/
def Sessions.Careful (s : Sessions) : SessionEvent → Prop
  | .releaseBegin => s.release = .no → s.writes = [] →
      s.dev.rxFifo.items = [] ∧ ∀ w, s.work = some w → accepted w.1 w.2 = none
  | .ioctl cmd _ _ => s.second = true → cmd = apexIocGetTelemetry →
      s.release = .wiped ∨ s.fresh = true
  | _ => True

namespace Store

inductive Alike : StoreEvent → StoreEvent → Prop where
  | refl (e : StoreEvent) : Alike e e
  | fetch (r r' : Option Received) (h : r.map Received.shape = r'.map Received.shape) :
      Alike (.fetch r) (.fetch r')
  | write (r r' : Option Received) (h : r.map Received.shape = r'.map Received.shape) :
      Alike (.write r) (.write r')

/-- The two runs during the first session. -/
structure Hidden (s s' : Store) : Prop where
  release : s.release = .no ∧ s'.release = .no
  second : s.second = false ∧ s'.second = false
  opened : s.opened = true ∧ s'.opened = true
  fifo : s.fifo.items.length = s'.fifo.items.length
  work : s.work.map (Option.map Received.shape) = s'.work.map (Option.map Received.shape)
  writes : s.writes.map (Option.map Received.shape) = s'.writes.map (Option.map Received.shape)

/-- The two runs from the begin of the release on: only the old record may still
differ, until it is wiped or replaced. -/
structure Public (s s' : Store) : Prop where
  same : s' = { s with telem := s'.telem }
  began : s.release ≠ .no
  telem : s'.telem = s.telem ∨ s.fresh = false ∧ s.release ≠ .wiped

/-- A choice that does not look at the record. -/
theorem Public.ite {c c' : Prop} [Decidable c] [Decidable c'] (hiff : c ↔ c')
    {s s' t t' : Store} (h : c → Public s s') (h' : Public t t') :
    Public (if c then s else t) (if c' then s' else t') := by
  by_cases hc : c
  · rw [if_pos hc, if_pos (hiff.mp hc)]
    exact h hc
  · rw [if_neg hc, if_neg fun hc' => hc (hiff.mpr hc')]
    exact h'

theorem Public.step {s s' : Store} (h : Public s s') (e : StoreEvent) :
    Public (s.step e) (s'.step e) := by
  obtain ⟨hsame, hbegan, htelem⟩ := h
  generalize s'.telem = telem at hsame htelem
  subst hsame
  have hstay : Public s { s with telem := telem } := ⟨rfl, hbegan, htelem⟩
  cases e with
  | nothing => exact hstay
  | fetch r => exact .ite Iff.rfl (fun _ => ⟨rfl, hbegan, htelem⟩) hstay
  | store =>
      simp only [Store.step]
      split
      next r hwork =>
          cases hcached : r.cached with
          | true => exact ⟨by simp [accept, hcached], hbegan, .inl (by simp [accept, hcached])⟩
          | false =>
              refine ⟨by simp [accept, hcached], hbegan, ?_⟩
              simpa [accept, hcached] using htelem
      · exact ⟨rfl, hbegan, htelem⟩
      · exact hstay
  | write r => exact .ite Iff.rfl (fun _ => ⟨rfl, hbegan, htelem⟩) hstay
  | writeStore i =>
      simp only [Store.step]
      split <;> exact ⟨rfl, hbegan, htelem⟩
  | take count => exact .ite Iff.rfl (fun _ => ⟨rfl, hbegan, htelem⟩) hstay
  | releaseBegin => exact .ite Iff.rfl (fun hbegin => absurd hbegin.1 hbegan) hstay
  | releaseCount =>
      exact .ite Iff.rfl (fun _ => ⟨rfl, nofun, htelem.imp id fun h => ⟨h.1, nofun⟩⟩) hstay
  | releaseWipe => exact .ite Iff.rfl (fun _ => ⟨rfl, nofun, .inl rfl⟩) hstay
  | «open» resumed => exact .ite Iff.rfl (fun _ => ⟨rfl, hbegan, htelem⟩) hstay

theorem accept_length {s s' : Store} {r r' : Received}
    (h : s.fifo.items.length = s'.fifo.items.length) (hr : r.shape = r'.shape) :
    (s.accept r).fifo.items.length = (s'.accept r').fifo.items.length := by
  obtain ⟨hcmd, hlen⟩ := Prod.mk.inj hr
  have hmalformed : r.malformed = r'.malformed := by simp only [Received.malformed, hcmd, hlen]
  simp only [accept, hmalformed]
  split
  · exact h
  · simp only [Fifo.push_items, List.length_append, List.length_take, Fifo.room, h, hlen]

/-- The release begins with everything read, and nothing but the old record is
left to tell the runs apart. -/
theorem Hidden.begin_step {s s' : Store} (h : Hidden s s') (hwrites : s.writes = [])
    (hfifo : s.fifo.items = []) (hwork : ∀ r, s.work = some r → r = none) :
    Public (s.step .releaseBegin) (s'.step .releaseBegin) := by
  have hwrites' : s'.writes = [] := by
    have hmap := h.writes
    rw [hwrites] at hmap
    exact List.map_eq_nil_iff.mp hmap.symm
  have hfifo' : s'.fifo = s.fifo := by
    have hlen := h.fifo
    rw [hfifo, List.length_nil] at hlen
    exact Fifo.eq_of_items ((List.length_eq_zero_iff.mp hlen.symm).trans hfifo.symm)
  have hwork' : s'.work = s.work := by
    have hmap := h.work
    cases hw : s.work with
    | none =>
        rw [hw] at hmap
        exact Option.map_eq_none_iff.mp hmap.symm
    | some r =>
        obtain rfl := hwork r hw
        rw [hw] at hmap
        obtain ⟨r', hw', hr'⟩ := Option.map_eq_some_iff.mp hmap.symm
        rw [hw', Option.map_eq_none_iff.mp hr']
  rw [Store.step, Store.step, if_pos ⟨h.release.1, hwrites⟩, if_pos ⟨h.release.2, hwrites'⟩]
  refine ⟨?_, nofun, .inr ⟨rfl, nofun⟩⟩
  obtain ⟨fifo, telem, opened, work, writes, release, second, fresh⟩ := s
  obtain ⟨fifo', telem', opened', work', writes', release', second', fresh'⟩ := s'
  simp only at hfifo' hwork' hwrites hwrites'
  have hopened := h.opened.2.trans h.opened.1.symm
  have hsecond := h.second.2.trans h.second.1.symm
  simp only at hopened hsecond
  simp only [hfifo', hwork', hwrites, hwrites', hopened, hsecond]

section Hidden

variable {s s' : Store} (h : Hidden s s')

include h

theorem Hidden.fetch {r r' : Option Received}
    (hr : r.map Received.shape = r'.map Received.shape) :
    Hidden (s.step (.fetch r)) (s'.step (.fetch r')) := by
  have hmap := h.work
  rw [Store.step, Store.step]
  cases hw : s.work with
  | none =>
      rw [hw, Option.map_none] at hmap
      rw [Option.map_eq_none_iff.mp hmap.symm, if_pos rfl, if_pos rfl]
      exact { h with work := congrArg some hr }
  | some w =>
      rw [hw] at hmap
      obtain ⟨w', hw', -⟩ := Option.map_eq_some_iff.mp hmap.symm
      rw [hw', if_neg (Option.some_ne_none _), if_neg (Option.some_ne_none _)]
      exact h

theorem Hidden.store : Hidden (s.step .store) (s'.step .store) := by
  have hmap := h.work
  cases hw : s.work with
  | none =>
      rw [hw, Option.map_none] at hmap
      have hw' := Option.map_eq_none_iff.mp hmap.symm
      simp only [Store.step, hw, hw']
      exact h
  | some w =>
      rw [hw, Option.map_some] at hmap
      obtain ⟨w', hw', hshape⟩ := Option.map_eq_some_iff.mp hmap.symm
      cases w with
      | none =>
          obtain rfl := Option.map_eq_none_iff.mp hshape
          simp only [Store.step, hw, hw']
          exact { h with work := rfl }
      | some r =>
          obtain ⟨r', rfl, hr⟩ := Option.map_eq_some_iff.mp hshape
          simp only [Store.step, hw, hw']
          exact { h with fifo := accept_length h.fifo hr.symm, work := rfl }

theorem Hidden.write {r r' : Option Received}
    (hr : r.map Received.shape = r'.map Received.shape) :
    Hidden (s.step (.write r)) (s'.step (.write r')) := by
  have huse : s.InUse := .inl h.release.1
  have huse' : s'.InUse := .inl h.release.2
  rw [Store.step, Store.step, if_pos huse, if_pos huse']
  refine { h with writes := ?_ }
  rw [List.map_append, List.map_append, h.writes]
  simp only [List.map_cons, hr, List.map_nil]

theorem Hidden.writeStore (i : Nat) :
    Hidden (s.step (.writeStore i)) (s'.step (.writeStore i)) := by
  have hat : s.writes[i]?.map (Option.map Received.shape) =
      s'.writes[i]?.map (Option.map Received.shape) := by
    rw [← List.getElem?_map, h.writes, List.getElem?_map]
  have herase : (s.writes.eraseIdx i).map (Option.map Received.shape) =
      (s'.writes.eraseIdx i).map (Option.map Received.shape) := by
    rw [← List.eraseIdx_map, h.writes, List.eraseIdx_map]
  cases hw : s.writes[i]? with
  | none =>
      rw [hw, Option.map_none] at hat
      have hw' := Option.map_eq_none_iff.mp hat.symm
      simp only [Store.step, hw, hw']
      exact h
  | some w =>
      rw [hw, Option.map_some] at hat
      obtain ⟨w', hw', hshape⟩ := Option.map_eq_some_iff.mp hat.symm
      cases w with
      | none =>
          obtain rfl := Option.map_eq_none_iff.mp hshape
          simp only [Store.step, hw, hw']
          exact { h with writes := herase }
      | some r =>
          obtain ⟨r', rfl, hr⟩ := Option.map_eq_some_iff.mp hshape
          simp only [Store.step, hw, hw']
          refine { h with fifo := ?_, writes := herase }
          have hlen := (Prod.mk.inj hr).2
          simp only [Fifo.push_items, List.length_append, List.length_take, Fifo.room, h.fifo, hlen]

/-- A step of the first session shows nothing but lengths. -/
theorem Hidden.step {e e' : StoreEvent} (he : Alike e e')
    (hbegin : e = .releaseBegin → s.writes ≠ []) : Hidden (s.step e) (s'.step e') := by
  cases he with
  | fetch r r' hr => exact h.fetch hr
  | write r r' hr => exact h.write hr
  | refl =>
    cases e with
    | nothing => exact h
    | fetch r => exact h.fetch rfl
    | store => exact h.store
    | write r => exact h.write rfl
    | writeStore i => exact h.writeStore i
    | take count =>
        have huse : s.InUse := .inl h.release.1
        have huse' : s'.InUse := .inl h.release.2
        rw [Store.step, Store.step, if_pos huse, if_pos huse']
        refine { h with fifo := ?_ }
        simp only [Fifo.pop, List.length_drop, h.fifo]
    | releaseBegin =>
        have hwrites := hbegin rfl
        have hwrites' : s'.writes ≠ [] := by
          intro hnil
          have hmap := h.writes
          rw [hnil] at hmap
          exact hwrites (List.map_eq_nil_iff.mp hmap)
        rw [Store.step, Store.step, if_neg fun hb => hwrites hb.2, if_neg fun hb => hwrites' hb.2]
        exact h
    | releaseCount =>
        rw [Store.step, Store.step, h.release.1, h.release.2]
        exact h
    | releaseWipe =>
        rw [Store.step, Store.step, h.release.1, h.release.2]
        exact h
    | «open» resumed =>
        rw [Store.step, Store.step, h.opened.1, h.opened.2]
        simpa using h

end Hidden

end Store

theorem SessionEvent.stored_alike {e : SessionEvent} {miso : List Byte}
    (h : e.reception.map Received.shape = (e.withMiso miso).reception.map Received.shape) :
    Store.Alike e.stored (e.withMiso miso).stored := by
  cases e with
  | workXfer env =>
      simp only [stored, withMiso]
      split
      · exact .fetch _ _ h
      · exact .refl _
  | write data env =>
      have hmiso : writeTransfers data { env with miso := miso } ↔ writeTransfers data env :=
        Iff.rfl
      by_cases hdata : writeTransfers data env
      · rw [stored, withMiso, stored, if_pos hdata, if_pos (hmiso.mpr hdata)]
        exact .write _ _ h
      · rw [stored, withMiso, stored, if_neg hdata, if_neg fun hd => hdata (hmiso.mp hd)]
        exact .refl _
  | _ => exact .refl _

theorem SessionEvent.stored_begin {e : SessionEvent} (h : e.stored = .releaseBegin) :
    e = .releaseBegin := by
  cases e with
  | releaseBegin => rfl
  | workXfer env | write data env | read sawEmpty nonblock waited count env =>
      simp only [stored] at h
      split at h <;> cases h
  | _ => cases h

namespace Sessions

/-- How the two runs are related throughout. -/
def Related (p : Sessions × Sessions) : Prop :=
  Store.Hidden p.1.store p.2.store ∨ Store.Public p.1.store p.2.store

theorem related_start : Related (start, start) :=
  .inl ⟨⟨rfl, rfl⟩, ⟨rfl, rfl⟩, ⟨rfl, rfl⟩, rfl, rfl, rfl⟩

theorem related_step (p : Sessions × Sessions) (e : SessionEvent × SessionEvent) (h : Related p)
    (hsim : Similar p e) (hcareful : p.1.Careful e.1) : Related (twinStep step p e) := by
  obtain ⟨s, s'⟩ := p
  obtain ⟨e, e'⟩ := e
  simp only [Related, twinStep, step_store]
  rcases h with h | h
  · have hno : s.release = .no := h.release.1
    rw [Similar, if_pos hno] at hsim
    obtain ⟨⟨miso, he⟩, hshape⟩ := hsim
    change e' = e.withMiso miso at he
    subst he
    by_cases hbegin : e = .releaseBegin ∧ s.writes = []
    · obtain ⟨rfl, hwrites⟩ := hbegin
      obtain ⟨hfifo, hwork⟩ := hcareful hno hwrites
      refine .inr (h.begin_step (congrArg _ hwrites) hfifo ?_)
      intro r hr
      obtain ⟨w, hw, rfl⟩ := Option.map_eq_some_iff.mp hr
      exact hwork w hw
    · refine .inl (h.step (SessionEvent.stored_alike hshape) ?_)
      intro hstored hwrites
      exact hbegin ⟨SessionEvent.stored_begin hstored, List.map_eq_nil_iff.mp hwrites⟩
  · have hbegan : s.release ≠ .no := h.began
    rw [Similar, if_neg hbegan] at hsim
    change e' = e at hsim
    subst hsim
    exact .inr (h.step e'.stored)

theorem read_result {dev dev' : Dev} (h : dev'.rxFifo = dev.rxFifo) (sawEmpty nonblock : Bool)
    (waited : Int) (count : Nat) (env : Env) :
    (apexBridgeRead sawEmpty nonblock waited count env dev').ret =
        (apexBridgeRead sawEmpty nonblock waited count env dev).ret ∧
      (apexBridgeRead sawEmpty nonblock waited count env dev').out =
        (apexBridgeRead sawEmpty nonblock waited count env dev).out := by
  unfold apexBridgeRead
  rw [h]
  dsimp only
  repeat' split
  all_goals exact ⟨rfl, rfl⟩

theorem telemetry_result {dev dev' : Dev} (h : dev'.lastTelem = dev.lastTelem) (arg : Nat → Byte)
    (env : Env) :
    (apexBridgeIoctl apexIocGetTelemetry arg env dev').ret =
        (apexBridgeIoctl apexIocGetTelemetry arg env dev).ret ∧
      (apexBridgeIoctl apexIocGetTelemetry arg env dev').out =
        (apexBridgeIoctl apexIocGetTelemetry arg env dev).out := by
  have hswitch (frame rxBuf : List Byte) (dev : Dev) :
      ioctlSwitch apexIocGetTelemetry arg frame rxBuf env dev = copyOut dev.lastTelem env dev := rfl
  unfold apexBridgeIoctl
  simp only [hswitch, h, copyOut]
  repeat' split
  all_goals exact ⟨rfl, rfl⟩

/-- From the begin of the release on, a careful second user obtains the same. -/
theorem obtained_public {s s' : Sessions} {e : SessionEvent} (h : Store.Public s.store s'.store)
    (hcareful : s.Careful e) : s.obtained e = s'.obtained e := by
  have hsecond : s'.second = s.second := congrArg Store.second h.same
  have hfifo : s'.dev.rxFifo = s.dev.rxFifo := congrArg Store.fifo h.same
  unfold obtained
  rw [hsecond]
  split
  next huse =>
      cases e with
      | read sawEmpty nonblock waited count env =>
          obtain ⟨hret, hout⟩ := read_result hfifo sawEmpty nonblock waited count env
          simp only [hret, hout]
      | ioctl cmd arg env =>
          dsimp only
          split
          next hcmd =>
              have htelem : s'.dev.lastTelem = s.dev.lastTelem := by
                rcases h.telem with hsame | ⟨hfresh, hwipe⟩
                · exact hsame
                · rcases hcareful huse hcmd with hwiped | hnew
                  · exact absurd hwiped hwipe
                  · exact absurd hnew (Bool.eq_false_iff.mp hfresh)
              obtain ⟨hret, hout⟩ := telemetry_result htelem arg env
              rw [hcmd, hret, hout]
          next => rfl
      | _ => rfl
  next => rfl

/-- The second user cannot tell the runs apart. -/
theorem related_obtained (p : Sessions × Sessions) (e : SessionEvent × SessionEvent)
    (h : Related p) (hsim : Similar p e) (hcareful : p.1.Careful e.1) :
    p.1.obtained e.1 = p.2.obtained e.2 := by
  obtain ⟨s, s'⟩ := p
  obtain ⟨e, e'⟩ := e
  rcases h with h | h
  · have hsecond : s.second = false := h.second.1
    have hsecond' : s'.second = false := h.second.2
    simp [obtained, hsecond, hsecond']
  · have hbegan : s.release ≠ .no := h.began
    rw [Similar, if_neg hbegan] at hsim
    change e' = e at hsim
    subst hsim
    exact obtained_public h hcareful

/-- The RX work fetching a frame of IQ data. -/
def fetchIq (payload : List Byte) : SessionEvent :=
  .workXfer (.ok (encode apexCmdSdrIqChunk payload))

def readAll : SessionEvent := .read false false 0 65536 (.ok [])

def getTelemetry : SessionEvent := .ioctl apexIocGetTelemetry (fun _ => 0) (.ok [])

theorem fetchIq_reception {payload : List Byte} (hlen : payload.length ≤ maxPayload) :
    (fetchIq payload).reception = some ⟨apexCmdSdrIqChunk, payload⟩ :=
  Env.reply_encode _ _ apexCmdSdrIqChunk payload [] (show ¬ (0 : Int) < 0 by decide) hlen
    (List.append_nil _).symm (encode_fits apexCmdSdrIqChunk payload hlen)

theorem fetchIq_stored {payload : List Byte} (hlen : payload.length ≤ maxPayload) :
    (fetchIq payload).stored = .fetch (some ⟨apexCmdSdrIqChunk, payload⟩) := by
  unfold fetchIq SessionEvent.stored
  dsimp only
  rw [if_pos ⟨rfl, rfl⟩]
  exact congrArg StoreEvent.fetch (fetchIq_reception hlen)

theorem run_store (s : Sessions) (es : List SessionEvent) :
    (run step s es).store = run Store.step s.store (es.map SessionEvent.stored) := by
  induction es generalizing s with
  | nil => rfl
  | cons e es ih => rw [run_cons, ih, step_store, List.map_cons, run_cons]

theorem fetchIq_run_store {payload : List Byte} (hlen : payload.length ≤ maxPayload)
    (es : List SessionEvent) : (run step start (fetchIq payload :: es)).store =
      run Store.step start.store
        (.fetch (some ⟨apexCmdSdrIqChunk, payload⟩) :: es.map SessionEvent.stored) := by
  rw [run_store, List.map_cons, fetchIq_stored hlen]

theorem careful_begin {s : Sessions} (hitems : s.store.fifo.items = [])
    (hwork : s.store.work = none) : s.Careful .releaseBegin := by
  rintro - -
  refine ⟨hitems, fun w hw => ?_⟩
  cases hw.symm.trans (Option.map_eq_none_iff.mp hwork)

theorem careful_telemetry {s : Sessions} (hwiped : s.store.release = .wiped) :
    s.Careful getTelemetry :=
  fun _ _ => .inl hwiped

/-- Events that are the same in both runs. -/
theorem along_same {es : List SessionEvent} (h : ∀ e ∈ es, ∃ miso, e = e.withMiso miso)
    (p : Sessions × Sessions) : Along (twinStep step) Similar p (es.map fun e => (e, e)) := by
  induction es generalizing p with
  | nil => trivial
  | cons e es ih =>
      refine ⟨?_, ih (fun f hf => h f (List.mem_cons_of_mem e hf)) _⟩
      unfold Similar
      split
      · exact ⟨h e List.mem_cons_self, rfl⟩
      · rfl

theorem similar_fetchIq (p : Sessions × Sessions) {payload payload' : List Byte}
    (hlen : payload.length ≤ maxPayload) (heq : payload.length = payload'.length)
    (hno : p.1.release = .no) : Similar p (fetchIq payload, fetchIq payload') := by
  refine (if_pos hno).mpr ⟨⟨_, rfl⟩, ?_⟩
  rw [fetchIq_reception hlen, fetchIq_reception (heq ▸ hlen)]
  simp only [Option.map_some, Received.shape, heq]

/-- The second user reads what is in the FIFO. -/
theorem obtained_readAll {s : Sessions} (hsecond : s.second = true) :
    (s.obtained readAll).map Prod.snd = [s.dev.rxFifo.items] := by
  have hout := (readOf_all s.dev 65536 s.dev.rxFifo.bounded).2
  exact (congrArg (List.map Prod.snd) (if_pos hsecond)).trans (congrArg ([·]) hout)

def handover : List SessionEvent := [.releaseBegin, .releaseCount, .releaseWipe, .open 0]

/-- A frame that the first user has not read stays for the second. -/
theorem unread_kept {payload : List Byte} (hlen : payload.length ≤ maxPayload) :
    (run step start (fetchIq payload :: .workFinish :: handover)).second = true ∧
      (run step start (fetchIq payload :: .workFinish :: handover)).dev.rxFifo.items = payload := by
  have hstore := fetchIq_run_store hlen (.workFinish :: handover)
  have hfits : payload.length ≤ (Fifo.empty : Fifo Byte apexRxFifoSize).room :=
    hlen.trans (by decide)
  have hgood := iq_not_malformed payload
  have hwork : start.store.work = none := rfl
  have hwrites : start.store.writes = [] := rfl
  have hrelease : start.store.release = .no := rfl
  have hfifo : start.store.fifo = .empty := rfl
  generalize run step start (fetchIq payload :: .workFinish :: handover) = s at hstore
  change s.store.second = true ∧ s.store.fifo.items = payload
  rw [hstore]
  simp [handover, SessionEvent.stored, Store.step, Store.accept, hwork, hwrites, hrelease, hgood,
    hfifo, List.take_of_length_le hfits]

theorem unread_obtained {payload : List Byte} (hlen : payload.length ≤ maxPayload) :
    (observe step obtained start
      ((fetchIq payload :: .workFinish :: handover) ++ [readAll])).map Prod.snd = [payload] := by
  have hquiet : observe step obtained start (fetchIq payload :: .workFinish :: handover) = [] := by
    apply observe_eq_nil
    intro s e he
    simp only [handover, List.mem_cons, List.not_mem_nil, or_false] at he
    rcases he with rfl | rfl | rfl | rfl | rfl | rfl <;> exact ite_self []
  obtain ⟨hsecond, hitems⟩ := unread_kept hlen
  have hread := obtained_readAll hsecond
  rw [hitems] at hread
  rw [observe_append, hquiet, observe, observe, List.append_nil, List.nil_append, hread]

/-- Whatever differed in the first session, the second obtains the same. -/
theorem sessions_isolated {es : List (SessionEvent × SessionEvent)}
    (hsim : Along (twinStep step) Similar (start, start) es)
    (hcareful : Along step Careful start (es.map Prod.fst)) :
    observe step obtained start (es.map Prod.fst) =
      observe step obtained start (es.map Prod.snd) :=
  observe_twin (R := Related) (fun p e h hC => related_step p e h hC.1 hC.2)
    (fun p e h hC => related_obtained p e h hC.1 hC.2) related_start
    (along_and hsim (along_fst.mpr hcareful))

/-- The first user reads everything before closing; the second opens before the
wipe, asks for telemetry after it and receives a frame. -/
def readBeforeClose : List SessionEvent :=
  [.workFinish, readAll, .releaseBegin, .releaseCount, .open 0, .releaseWipe, getTelemetry,
    fetchIq [3], .workFinish, readAll]

theorem readBeforeClose_careful : Along step Careful start (fetchIq [1] :: readBeforeClose) := by
  have hread := @fetchIq_run_store [1] (by decide) [.workFinish, readAll]
  have hwiped := @fetchIq_run_store [1] (by decide)
    [.workFinish, readAll, .releaseBegin, .releaseCount, .open 0, .releaseWipe]
  have hsplit : fetchIq [1] :: readBeforeClose =
      [fetchIq [1], .workFinish, readAll] ++
        (.releaseBegin :: [.releaseCount, .open 0, .releaseWipe] ++
          (getTelemetry :: [fetchIq [3], .workFinish, readAll])) := rfl
  rw [hsplit, along_append, along_append, ← run_append]
  refine ⟨⟨trivial, trivial, trivial, trivial⟩, ⟨?_, trivial, trivial, trivial, trivial⟩,
    ⟨?_, trivial, trivial, trivial, trivial⟩⟩
  · exact careful_begin (by rw [hread]; decide) (by rw [hread]; decide)
  · exact careful_telemetry ((congrArg Store.release hwiped).trans (by decide))

theorem sessions_isolated_read :
    let es := (fetchIq [1], fetchIq [2]) :: readBeforeClose.map fun e => (e, e)
    observe step obtained start (es.map Prod.fst) =
      observe step obtained start (es.map Prod.snd) := by
  apply sessions_isolated
  · refine ⟨similar_fetchIq _ (by decide) rfl rfl, along_same ?_ _⟩
    intro e he
    simp only [readBeforeClose, List.mem_cons, List.not_mem_nil, or_false] at he
    rcases he with rfl | rfl | rfl | rfl | rfl | rfl | rfl | rfl | rfl | rfl
    all_goals first | exact ⟨[], rfl⟩ | exact ⟨_, rfl⟩
  · rw [List.map_cons, List.map_map]
    exact (congrArg _ (List.map_id _)).mpr readBeforeClose_careful

/-- A user who reads nothing leaves the payloads to the next one, who receives no
frame at all. -/
theorem unread_leaks :
    ¬ ∀ es, Along (twinStep step) Similar (start, start) es →
      Along (twinStep step) (fun p e => p.1.second = true → e.1.reception = none)
        (start, start) es →
      observe step obtained start (es.map Prod.fst) =
        observe step obtained start (es.map Prod.snd) := by
  intro h
  have hobs := h ((fetchIq [1], fetchIq [2]) ::
    ((.workFinish :: handover) ++ [readAll]).map fun e => (e, e)) ?_ ?_
  · have hout := congrArg (List.map Prod.snd) hobs
    have hleft := @unread_obtained [1] (by decide)
    have hright := @unread_obtained [2] (by decide)
    have heq : ([[1]] : List (List Byte)) = [[2]] := hleft.symm.trans (hout.trans hright)
    cases heq
  · refine ⟨similar_fetchIq _ (by decide) rfl rfl, along_same ?_ _⟩
    intro e he
    simp only [handover, List.cons_append, List.nil_append, List.mem_cons, List.not_mem_nil,
      or_false] at he
    rcases he with rfl | rfl | rfl | rfl | rfl | rfl <;> exact ⟨[], rfl⟩
  · refine ⟨nofun, (along_map _).mpr (along_iff.mpr ?_)⟩
    rintro us e vs heq -
    have he : e ∈ (SessionEvent.workFinish :: handover) ++ [readAll] := by simp [heq]
    simp only [handover, List.cons_append, List.nil_append, List.mem_cons, List.not_mem_nil,
      or_false] at he
    rcases he with rfl | rfl | rfl | rfl | rfl | rfl <;> rfl

end Sessions

end GhostBlade.Host
