import GhostBlade.Bridge.RemoteControl
import GhostBlade.Host.LibraryCalls

/-!
The radios in the hands of a program that uses the library, with all that lies between:
the library's checks, the driver's requests, the frames on the wire, interrupts that
store what they take and the main loop of the MCU. The program sees what its calls
return. From that alone it can tell how the MCU's reset line, the receiver and the
antenna switch stand; and it cannot reach the CC1101 or the NFC controller at all.
-/

namespace GhostBlade.Bridge

open GhostBlade.Library GhostBlade.Library.Framing GhostBlade.Protocol GhostBlade.Host
open GhostBlade.Firmware

/-- A call of the program, or anything else that happens. -/
inductive LibEvent where
  | call (c : LibCall) (stack : Nat → Byte) (env : Env) (handle : Option ApexDevice)
      (up : Startup)
  | other (e : RemoteEvent)

/-- The driver, the wire and the MCU, and what the program's calls have returned. -/
structure LibSystem where
  remote : Remote
  past : List (LibCall × Int)

def LibSystem.start (up : Startup) : LibSystem := ⟨.start up, []⟩

/-- An operation of the driver has left `dev` and clocked out some bytes. -/
def Remote.operated (s : Remote) (dev : Dev) (bytes : List Byte) (up : Startup) : Remote :=
  if s.up then
    if dev.gpioMcuReset then { s with dev := dev, wire := s.wire ++ bytes }
    else { s with dev := dev, wire := [] }
  else if dev.gpioMcuReset then ⟨dev, [], up.boot, up.regs⟩
  else { s with dev := dev }

/-- What nobody asks the driver for. -/
def Unasked : RemoteEvent → Prop
  | .host op _ _ =>
      match op with
      | .write _ | .ioctl .. => False
      | .open _ | .release | .read .. | .rxWork | .sgWorker _ => True
  | .interrupt _ | .pass | .main _ => True

/-- Only the library asks the driver for something. -/
def LibSystem.Reliable (s : LibSystem) : LibEvent → Prop
  | .call .. => True
  | .other e => Unasked e ∧ s.remote.Reliable e

/-! ### What the program can tell -/

structure Settings where
  inReset : Bool
  streaming : Bool
  antenna : Option Byte
deriving DecidableEq

def Settings.start : Settings := ⟨false, false, none⟩

/-- A call that has returned; one that failed, or falls into a reset, changes nothing. -/
def Settings.after (x : Settings) (e : LibCall × Int) : Settings :=
  if e.2 ≠ apexOk then x
  else
    match e.1 with
    | .mcuReset true => { x with inReset := true }
    | .mcuReset false => if x.inReset then .start else x
    | .sdrStreamStart => if x.inReset then x else { x with streaming := true }
    | .sdrStreamStop => if x.inReset then x else { x with streaming := false }
    | .antSelect ant => if x.inReset then x else { x with antenna := some (ant.setWidth 8) }
    | _ => x

structure Radio.Stands (r : Radio) (x : Settings) (regs : Nat → Byte) : Prop where
  streaming : r.streaming = x.streaming
  antenna : r.antenna = x.antenna
  regs : r.regs = regs
  nfc : r.nfcActive = false

section

variable {r : Radio} {x : Settings} {regs : Nat → Byte}

theorem Radio.Stands.idle (h : r.Stands x regs) {c : Command} (hc : c.order = none) :
    (r.serve c).Stands x regs := by
  rw [Radio.serve, hc]
  exact ⟨h.streaming, h.antenna, h.regs, h.nfc⟩

theorem Radio.Stands.serves (h : r.Stands x regs) {cs : List Command}
    (hcs : ∀ c ∈ cs, c.order = none) : (cs.foldl Radio.serve r).Stands x regs := by
  induction cs generalizing r with
  | nil => exact h
  | cons c cs ih =>
      exact ih (h.idle (hcs c List.mem_cons_self)) fun c' hc' => hcs c' (List.mem_cons_of_mem c hc')

theorem Radio.Stands.stream (h : r.Stands x regs) (b : Byte) :
    (r.serve ⟨apexCmdSdrStream, [b]⟩).Stands { x with streaming := b ≠ 0 } regs :=
  ⟨rfl, h.antenna, h.regs, h.nfc⟩

theorem Radio.Stands.select (h : r.Stands x regs) {id : Byte} (hid : id.toNat ≤ 3) :
    (r.serve ⟨apexCmdAntSelect, [id]⟩).Stands { x with antenna := some id } regs := by
  have horder : Command.order ⟨apexCmdAntSelect, [id]⟩ = some (.antenna id) := if_pos hid
  rw [Radio.serve, horder]
  exact ⟨h.streaming, rfl, h.regs, h.nfc⟩

end

/-! ### The requests of the library -/

section

variable {request : BitVec 32} {arg : Nat → Byte} {env : Env} {dev : Dev}

theorem requestResult_ret (cmd : Byte) (payload : List Byte) :
    0 ≤ (requestResult cmd payload env dev).ret ↔ ¬ env.spiSync < 0 := by
  unfold requestResult
  dsimp only
  split_ifs with hspi
  · exact iff_of_false (by omega) (not_not.mpr hspi)
  · exact iff_of_true (by omega) hspi

/-- The requests of the library that transfer something. -/
def Transferring (request : BitVec 32) : Prop :=
  request = apexIocSdrTune ∨ request = apexIocSdrStream ∨ request = apexIocAntSelect

theorem Transferring.granted (hrequest : Transferring request)
    (h : ioctlTransfers request arg env dev) : env.allocOk 0 = true ∧ env.allocOk 1 = true ∧
      env.accessOk = true ∧ env.userCopy 0 = true ∧
        (request = apexIocAntSelect → (arg 0).toNat ≤ apexAntTerminated) := by
  obtain ⟨h0, h1, ⟨hstop, -⟩ | ⟨haccess, hcopy, hcmd⟩⟩ := h
  · rcases hrequest with rfl | rfl | rfl <;> exact absurd hstop (by decide)
  · refine ⟨h0, h1, haccess, hcopy, ?_⟩
    rintro rfl
    obtain h | h | ⟨-, hant⟩ | ⟨h, -⟩ | ⟨h, -⟩ | ⟨h, -⟩ := hcmd
    · exact absurd h (by decide)
    · exact absurd h (by decide)
    · exact hant
    · exact absurd h (by decide)
    · exact absurd h (by decide)
    · exact absurd h (by decide)

theorem Transferring.result (hrequest : Transferring request)
    (h : ioctlTransfers request arg env dev) :
    apexBridgeIoctl request arg env dev =
      requestResult (ioctlRequest request arg).1 (ioctlRequest request arg).2 env dev := by
  obtain ⟨h0, h1, haccess, hcopy, hant⟩ := hrequest.granted h
  have hcopied : ¬ env.userCopy 0 = false := by simp [hcopy]
  rcases hrequest with rfl | rfl | rfl
  all_goals rw [apexBridgeIoctl_checked (by decide) (by decide) (.inr haccess) h0 h1]
  · change ioctlSdrTune arg _ _ env dev = _
    rw [ioctlSdrTune, if_neg hcopied]
    exact buildAndXfer_eq _ _ _ _ env dev (by simp [maxPayload]) (memBytes_length _ _)
      (memBytes_length _ _)
  · change ioctlSdrStream arg _ _ env dev = _
    rw [ioctlSdrStream, if_neg hcopied]
    exact buildAndXfer_eq _ _ _ _ env dev (by simp [maxPayload]) (memBytes_length _ _)
      (memBytes_length _ _)
  · change ioctlAntSelect arg _ _ env dev = _
    rw [ioctlAntSelect, if_neg hcopied, if_neg (not_lt.mpr (hant rfl))]
    exact buildAndXfer_eq _ _ _ _ env dev (by simp [maxPayload]) (memBytes_length _ _)
      (memBytes_length _ _)

/-- Such a request succeeds when its frame gets through. -/
theorem Transferring.returns (hrequest : Transferring request) :
    0 ≤ (apexBridgeIoctl request arg env dev).ret ↔
      ioctlTransfers request arg env dev ∧ ¬ env.spiSync < 0 := by
  constructor
  · intro hret
    have hdir : (request >>> 30).toNat &&& iocWrite ≠ 0 := by
      rcases hrequest with rfl | rfl | rfl <;> decide
    obtain ⟨haccess, h0, h1, frame, rxBuf, hswitch⟩ := ioctl_nonneg hdir hret
    have htransfers : ioctlTransfers request arg env dev := by
      rcases hrequest with rfl | rfl | rfl
      · change 0 ≤ (ioctlSdrTune arg frame rxBuf env dev).ret at hswitch
        obtain ⟨hcopy, -⟩ := done_nonneg (by decide) hswitch
        exact ⟨h0, h1, .inr ⟨haccess, by simpa using hcopy, .inl rfl⟩⟩
      · change 0 ≤ (ioctlSdrStream arg frame rxBuf env dev).ret at hswitch
        obtain ⟨hcopy, -⟩ := done_nonneg (by decide) hswitch
        exact ⟨h0, h1, .inr ⟨haccess, by simpa using hcopy, .inr (.inl rfl)⟩⟩
      · change 0 ≤ (ioctlAntSelect arg frame rxBuf env dev).ret at hswitch
        obtain ⟨hcopy, hswitch⟩ := done_nonneg (by decide) hswitch
        obtain ⟨hant, -⟩ := done_nonneg (by decide) hswitch
        exact ⟨h0, h1, .inr ⟨haccess, by simpa using hcopy,
          .inr (.inr (.inl ⟨rfl, not_lt.mp hant⟩))⟩⟩
    rw [hrequest.result htransfers] at hret
    exact ⟨htransfers, (requestResult_ret _ _).mp hret⟩
  · rintro ⟨htransfers, hspi⟩
    rw [hrequest.result htransfers]
    exact (requestResult_ret _ _).mpr hspi

/-- What it asks of the MCU, told by what it returns. -/
theorem Transferring.asked (hrequest : Transferring request) :
    asked (.ioctl request arg) env dev =
      if 0 ≤ (apexBridgeIoctl request arg env dev).ret then
        [⟨(ioctlRequest request arg).1, (ioctlRequest request arg).2⟩]
      else [] := by
  have hreturns : 0 ≤ (apexBridgeIoctl request arg env dev).ret ↔
      ioctlTransfers request arg env dev ∧ ¬ env.spiSync < 0 := hrequest.returns
  unfold Bridge.asked requested
  dsimp only
  by_cases hspi : env.spiSync < 0
  · rw [if_pos hspi, if_neg fun hret => (hreturns.mp hret).2 hspi]
  · rw [if_neg hspi]
    by_cases htransfers : ioctlTransfers request arg env dev
    · rw [if_pos htransfers, if_pos (hreturns.mpr ⟨htransfers, hspi⟩)]
      rfl
    · rw [if_neg htransfers, if_neg fun hret => htransfers (hreturns.mp hret).1]
      rfl

theorem reset_returns :
    0 ≤ (apexBridgeIoctl apexIocMcuReset arg env dev).ret ↔
      resetRequest (.ioctl apexIocMcuReset arg) env = some (arg 0) := by
  unfold resetRequest
  dsimp only
  constructor
  · intro hret
    obtain ⟨haccess, h0, h1, frame, rxBuf, hswitch⟩ := ioctl_nonneg (by decide) hret
    change 0 ≤ (ioctlMcuReset arg env dev).ret at hswitch
    obtain ⟨hcopy, -⟩ := done_nonneg (by decide) hswitch
    exact if_pos ⟨rfl, haccess, h0, h1, by simpa using hcopy⟩
  · intro hsome
    obtain ⟨-, haccess, h0, h1, hcopy⟩ : apexIocMcuReset = apexIocMcuReset ∧ _ := by
      by_contra hno
      rw [if_neg hno] at hsome
      cases hsome
    rw [apexBridgeIoctl_checked (by decide) (by decide) (.inr haccess) h0 h1]
    change 0 ≤ (ioctlMcuReset arg env dev).ret
    rw [ioctlMcuReset, if_neg (by simp [hcopy])]
    split_ifs <;> exact le_refl 0

theorem reset_asked : asked (.ioctl apexIocMcuReset arg) env dev = [] := by
  have hnone : ¬ ioctlTransfers apexIocMcuReset arg env dev := by
    rintro ⟨-, -, ⟨h, -⟩ | ⟨-, -, h | h | ⟨h, -⟩ | ⟨h, -⟩ | ⟨h, -⟩ | ⟨h, -⟩⟩⟩
    all_goals exact absurd h (by decide)
  unfold asked requested
  dsimp only
  rw [if_neg hnone]
  exact ite_self _

end

/-! ### Step by step -/

/-- The settings hold above, where a command is served as soon as it is asked for. -/
structure Remote.Tracks (s : Remote) (t : Controlled) (x : Settings) : Prop where
  shows : s.Shows t
  reset : t.dev.gpioMcuReset = !x.inReset
  radio : t.dev.gpioMcuReset = true → t.radio.Stands x s.regs

section

variable {handler : SpiHandler} {s : Remote} {t : Controlled} {x : Settings}

/-- An operation that leaves the reset line alone. -/
theorem Remote.Tracks.keeps (h : s.Tracks t x) (op : DriverOp) (env : Env) (up : Startup)
    (hquiet : syncByte ∉ trailing op env)
    (hline : (driverOp op env t.dev).dev.gpioMcuReset = t.dev.gpioMcuReset) {x' : Settings}
    (hreset : x'.inReset = x.inReset)
    (hserve : t.dev.gpioMcuReset = true → ∀ r : Radio, r.Stands x s.regs →
      ((asked op env t.dev).foldl Radio.serve r).Stands x' s.regs) :
    (remoteStep handler s (.host op env up)).Tracks (controlledStep t (.host op env up)) x' := by
  have hshows : (remoteStep handler s (.host op env up)).Shows
      (controlledStep t (.host op env up)) := h.shows.host op up hquiet
  have hdev := h.shows.dev
  unfold remoteStep controlledStep Remote.up at hshows ⊢
  dsimp only at hshows ⊢
  rw [← hdev] at hline hshows hserve ⊢
  by_cases hup : s.dev.gpioMcuReset = true
  · simp only [hline, hup, if_true] at hshows ⊢
    refine ⟨hshows, ?_, fun _ => ?_⟩
    · rw [hline, hreset, hdev]
      exact h.reset
    · exact hserve hup t.radio (h.radio (hdev ▸ hup))
  · simp only [hline, hup, Bool.false_eq_true, if_false] at hshows ⊢
    refine ⟨hshows, ?_, fun hhigh => absurd (hline.symm.trans hhigh) hup⟩
    rw [hline, hreset, hdev]
    exact h.reset

theorem asked_unasked {op : DriverOp} {env : Env} {up : Startup} (h : Unasked (.host op env up))
    (dev : Dev) : ∀ c ∈ asked op env dev, c.order = none := by
  intro c hc
  unfold asked at hc
  split_ifs at hc
  · cases hc
  cases op with
  | write | ioctl => exact absurd h not_false
  | «open» | release | read | sgWorker => cases hc
  | rxWork =>
      unfold requested at hc
      dsimp only at hc
      split_ifs at hc
      · obtain rfl := List.mem_singleton.mp hc
        rfl
      · cases hc

/-- What nobody asks for changes no setting. -/
theorem Remote.Tracks.unasked (h : s.Tracks t x) (hstores : handler.Stores) {e : RemoteEvent}
    (he : Unasked e) (hsafe : s.Reliable e) :
    (remoteStep handler s e).Tracks (controlledStep t e) x := by
  cases e with
  | host op env up =>
      have hnone : resetRequest op env = none := by
        cases op with
        | write | ioctl => exact absurd he not_false
        | «open» | release | read | rxWork | sgWorker => rfl
      have hlines := (driverOp_monitor env t.dev op).1
      rw [hnone] at hlines
      exact h.keeps op env up hsafe (congrArg ResetLines.gpioMcuReset hlines) rfl fun _ _ hr =>
        hr.serves (asked_unasked he t.dev)
  | interrupt | pass | main =>
      refine ⟨h.shows.step hstores _ hsafe, h.reset, fun hhigh => ?_⟩
      rw [remoteStep]
      split_ifs <;> exact h.radio hhigh

theorem Remote.Tracks.run (h : s.Tracks t x) (hstores : handler.Stores) {es : List RemoteEvent}
    (hes : ∀ e ∈ es, Unasked e) (hsafe : Along (remoteStep handler) Remote.Reliable s es) :
    ∃ t', (Library.run (remoteStep handler) s es).Tracks t' x := by
  induction es generalizing s t with
  | nil => exact ⟨t, h⟩
  | cons e es ih =>
      exact ih (h.unasked hstores (hes e List.mem_cons_self) hsafe.1)
        (fun e' he' => hes e' (List.mem_cons_of_mem e he')) hsafe.2

theorem Remote.operated_self (s : Remote) (up : Startup) : s.operated s.dev [] up = s := by
  unfold Remote.operated Remote.up
  split_ifs
  · rw [List.append_nil]
  · rfl

/-- A transferring request; `ret` is what the call behind it returns. -/
theorem Remote.Tracks.transfer (h : s.Tracks t x) {request : BitVec 32} {arg : Nat → Byte}
    {env : Env} (up : Startup) (hrequest : Transferring request) {ret : Int}
    (hok : ret = apexOk ↔ 0 ≤ (apexBridgeIoctl request arg env s.dev).ret) {x' : Settings}
    (hreset : x'.inReset = x.inReset)
    (hserve : ∀ r : Radio, r.Stands x s.regs →
      (r.serve ⟨(ioctlRequest request arg).1, (ioctlRequest request arg).2⟩).Stands x' s.regs) :
    (remoteStep handler s (.host (.ioctl request arg) env up)).Tracks
      (controlledStep t (.host (.ioctl request arg) env up))
      (if ret = apexOk ∧ x.inReset = false then x' else x) := by
  have hne : request ≠ apexIocMcuReset := by
    rcases hrequest with rfl | rfl | rfl <;> decide
  have hline := (apexBridgeIoctl_unmonitored env t.dev arg hne).resetLines
  refine h.keeps (.ioctl request arg) env up List.not_mem_nil
    (congrArg ResetLines.gpioMcuReset hline) ?_ fun hhigh r hr => ?_
  · split_ifs
    · exact hreset
    · rfl
  · have hawake : x.inReset = false := by
      have hlevel := h.reset
      rw [hhigh] at hlevel
      simpa using hlevel.symm
    rw [hrequest.asked, ← h.shows.dev]
    by_cases hret : 0 ≤ (apexBridgeIoctl request arg env s.dev).ret
    · rw [if_pos hret, if_pos ⟨hok.mpr hret, hawake⟩]
      exact hserve r hr
    · rw [if_neg hret, if_neg fun hboth => hret (hok.mp hboth.1)]
      exact hr

/-- Starting or stopping the receiver. -/
theorem Remote.Tracks.stream (h : s.Tracks t x) (b : Byte) {stack : Nat → Byte} {env : Env}
    (up : Startup) {ret : Int} (hok : ret = apexOk ↔
      0 ≤ (apexBridgeIoctl apexIocSdrStream (onStack [b] stack) env s.dev).ret) :
    (remoteStep handler s (.host (.ioctl apexIocSdrStream (onStack [b] stack)) env up)).Tracks
      (controlledStep t (.host (.ioctl apexIocSdrStream (onStack [b] stack)) env up))
      (if ret = apexOk ∧ x.inReset = false then { x with streaming := b ≠ 0 } else x) :=
  h.transfer up (.inr (.inl rfl)) hok rfl fun _ hr => hr.stream b

theorem controlled_dev (op : DriverOp) (env : Env) (up : Startup) :
    (controlledStep t (.host op env up)).dev = (driverOp op env t.dev).dev := by
  unfold controlledStep
  dsimp only
  split_ifs <;> rfl

/-- The reset request, as the call behind it returns. -/
theorem Remote.Tracks.resets (h : s.Tracks t x) {arg : Nat → Byte} {env : Env} (up : Startup)
    {ret : Int} {assert : Bool} (harg : arg 0 = if assert then 1 else 0)
    (hok : ret = apexOk ↔ 0 ≤ (apexBridgeIoctl apexIocMcuReset arg env s.dev).ret) :
    (remoteStep handler s (.host (.ioctl apexIocMcuReset arg) env up)).Tracks
      (controlledStep t (.host (.ioctl apexIocMcuReset arg) env up))
      (x.after (.mcuReset assert, ret)) := by
  have hshows : (remoteStep handler s (.host (.ioctl apexIocMcuReset arg) env up)).Shows
      (controlledStep t (.host (.ioctl apexIocMcuReset arg) env up)) :=
    h.shows.host _ up List.not_mem_nil
  have hdev : (driverOp (.ioctl apexIocMcuReset arg) env t.dev).dev = _ :=
    apexBridgeIoctl_mcuReset env t.dev arg
  have hidle : t.dev.gpioMcuReset = true → ∀ r : Radio, r.Stands x s.regs →
      ((asked (.ioctl apexIocMcuReset arg) env t.dev).foldl Radio.serve r).Stands x s.regs := by
    intro _ r hr
    rw [reset_asked]
    exact hr
  by_cases hret : 0 ≤ (apexBridgeIoctl apexIocMcuReset arg env s.dev).ret
  · rw [reset_returns.mp hret, harg] at hdev
    have hafter : ret = apexOk := hok.mpr hret
    cases assert with
    | true =>
        have hlow : (driverOp (.ioctl apexIocMcuReset arg) env t.dev).dev.gpioMcuReset = false := by
          rw [hdev]
          rfl
        have hx : x.after (.mcuReset true, ret) = { x with inReset := true } := by
          rw [Settings.after, if_neg (not_not.mpr hafter)]
        refine ⟨hshows, ?_, fun hhigh => ?_⟩
        · rw [controlled_dev, hlow, hx]
          rfl
        · rw [controlled_dev, hlow] at hhigh
          cases hhigh
    | false =>
        have hhigh : (driverOp (.ioctl apexIocMcuReset arg) env t.dev).dev.gpioMcuReset = true := by
          rw [hdev]
          rfl
        have hx : x.after (.mcuReset false, ret) = if x.inReset then .start else x := by
          rw [Settings.after, if_neg (not_not.mpr hafter)]
        have hreset := h.reset
        cases hlevel : t.dev.gpioMcuReset with
        | true =>
            rw [hlevel] at hreset
            rw [hx, if_neg (by simpa using hreset.symm)]
            exact h.keeps _ env up List.not_mem_nil (hhigh.trans hlevel.symm) rfl hidle
        | false =>
            rw [hlevel] at hreset
            rw [hx, if_pos (by simpa using hreset.symm)]
            refine ⟨hshows, ?_, fun _ => ?_⟩
            · rw [controlled_dev, hhigh]
              rfl
            · have hdown : s.up = false := (congrArg Dev.gpioMcuReset h.shows.dev).trans hlevel
              unfold remoteStep controlledStep
              dsimp only
              rw [h.shows.dev, hdown, hhigh, hlevel]
              exact ⟨rfl, rfl, rfl, rfl⟩
  · have hnone : resetRequest (.ioctl apexIocMcuReset arg) env = none := by
      by_contra hsome
      refine hret (reset_returns.mpr ?_)
      unfold resetRequest at hsome ⊢
      dsimp only at hsome ⊢
      split_ifs at hsome ⊢
      · rfl
      · exact absurd rfl hsome
    rw [hnone] at hdev
    have hfailed : ret ≠ apexOk := fun heq => hret (hok.mp heq)
    rw [Settings.after, if_pos hfailed]
    exact h.keeps _ env up List.not_mem_nil (congrArg Dev.gpioMcuReset hdev) rfl hidle

theorem after_unrequested {c : LibCall} {ret : Int} (h : ret = apexOk → c.request = none) :
    x.after (c, ret) = x := by
  unfold Settings.after
  by_cases hok : ret = apexOk
  · have hnone := h hok
    rw [if_neg (not_not.mpr hok)]
    cases c with
    | sdrStreamStart | sdrStreamStop | antSelect | mcuReset => cases hnone
    | _ => rfl
  · rw [if_pos hok]

/-- A setting that a reset holds off. -/
theorem after_awake (ret : Int) (x x' : Settings) :
    (if ret ≠ apexOk then x else if x.inReset = true then x else x') =
      if ret = apexOk ∧ x.inReset = false then x' else x := by
  by_cases hok : ret = apexOk
  · cases hreset : x.inReset with
    | true => simp [hok]
    | false => simp [hok]
  · simp [hok]

theorem Remote.Tracks.call (h : s.Tracks t x) (c : LibCall) (stack : Nat → Byte) (env : Env)
    (handle : Option ApexDevice) (up : Startup) :
    let l := c.result stack env handle s.dev
    ∃ t', (s.operated l.dev (if env.spiSync < 0 then [] else l.sent.getD []) up).Tracks t'
      (x.after (c, l.ret)) := by
  intro l
  rcases c.result_cases with ⟨hsilent, hnone⟩ | ⟨request, bytes, hrequest, hvalid, hpass⟩
  · refine ⟨t, ?_⟩
    rw [hsilent.dev, hsilent.sent, Option.getD_none, ite_self, s.operated_self,
      after_unrequested hnone]
    exact h
  -- An operation of the driver is the same with every handler.
  have hevent : s.operated l.dev (if env.spiSync < 0 then [] else l.sent.getD []) up =
      remoteStep weakSpi0Handler s (.host (.ioctl request (onStack bytes stack)) env up) := by
    rw [hpass.device, hpass.sent]
    rfl
  refine ⟨controlledStep t (.host (.ioctl request (onStack bytes stack)) env up), ?_⟩
  rw [hevent]
  cases c with
  | sdrTune freqHz bwKhz gainDbX10 =>
      obtain ⟨rfl, rfl⟩ := Prod.mk.inj (Option.some.inj hrequest)
      have htracks : (remoteStep weakSpi0Handler s (.host (.ioctl apexIocSdrTune _) env up)).Tracks
          _ _ := h.transfer up (.inl rfl) hpass.ok rfl fun _ hr => hr.idle rfl
      rw [ite_self] at htracks
      rw [Settings.after, ite_self]
      exact htracks
  | sdrStreamStart =>
      obtain ⟨rfl, rfl⟩ := Prod.mk.inj (Option.some.inj hrequest)
      rw [Settings.after, after_awake]
      exact h.stream 1 up hpass.ok
  | sdrStreamStop =>
      obtain ⟨rfl, rfl⟩ := Prod.mk.inj (Option.some.inj hrequest)
      rw [Settings.after, after_awake]
      exact h.stream 0 up hpass.ok
  | antSelect ant =>
      obtain ⟨rfl, rfl⟩ := Prod.mk.inj (Option.some.inj hrequest)
      have hid : (ant.setWidth 8).toNat ≤ 3 := by
        rw [BitVec.toNat_setWidth]
        exact (Nat.mod_le _ _).trans hvalid
      rw [Settings.after, after_awake]
      exact h.transfer up (.inr (.inr rfl)) hpass.ok rfl fun _ hr => hr.select hid
  | mcuReset assert =>
      obtain ⟨rfl, rfl⟩ := Prod.mk.inj (Option.some.inj hrequest)
      exact h.resets up rfl hpass.ok
  | _ => cases hrequest

end

/-! ### Whole runs -/

end GhostBlade.Bridge
