import GhostBlade.Bridge.RoundTrip
import GhostBlade.Firmware.Cc1101
import GhostBlade.Host.Libapex

/-!
CC1101 requests from the library down to the chip. The library's request number
is not the driver's, so that no write gets past the driver. With the driver's
number a request reaches `handle_cmd_cc1101_cfg`, which knows no other access
than a burst write: a read of registers overwrites them with zeros.
-/

namespace GhostBlade.Bridge

open GhostBlade.Library GhostBlade.Library.Framing GhostBlade.Protocol GhostBlade.Host
open GhostBlade.Firmware

/-- The protocol handler after what a call has sent, over a link that loses
nothing. -/
def receive (p : SpiProtocol) (sent : Option (List Byte)) : SpiProtocol :=
  match sent with
  | none => p
  | some frame => p.feed frame

/-- The calls of `apex_cc1101_write_burst` because of what has been sent: their
addresses and data. -/
def bursts (p : SpiProtocol) (sent : Option (List Byte)) : List (Byte × List Byte) :=
  ((receive p sent).dispatched.drop p.dispatched.length).filterMap fun d =>
    if d.cmd = cmdCc1101Cfg then cc1101Burst d.payload d.len else none

/-- One frame, received by an idle handler. -/
theorem receive_frame (p : SpiProtocol) (cmd : Byte) (payload : List Byte)
    (hidle : p.rx.state = .idle) (hlen : payload.length ≤ maxPayload) :
    let d : Dispatched := ⟨cmd, BitVec.ofNat 16 payload.length, payload⟩
    let p' := receive p (some (encode cmd payload))
    p'.dispatched = p.dispatched ++ [d] ∧ SameDevices p' (p.handle d) := by
  let request := Request.of cmd payload hlen
  have hstream : [request].flatMap Request.encoding = encode cmd payload := by
    rw [List.flatMap_singleton]
    exact request.encoding_eq
  obtain ⟨-, hsigs, -⟩ := requests_scanned [request]
  have hlog := (feed_follows p (encode cmd payload) (RxCtx.valid_of_idle hidle)).dispatched
  rw [hstream] at hsigs
  rw [RxCtx.scan_of_idle hidle, hsigs] at hlog
  exact ⟨hlog, feed_devices p (encode cmd payload) _ hlog⟩

/-- A CC1101 frame leads to the burst its payload stands for. -/
theorem receive_cc1101 (p : SpiProtocol) (payload : List Byte) (hidle : p.rx.state = .idle)
    (hlen : payload.length ≤ maxPayload) :
    let frame := some (encode apexCmdCc1101Cfg payload)
    let burst := cc1101Burst payload (BitVec.ofNat 16 payload.length)
    bursts p frame = burst.toList ∧
      (receive p frame).board =
        match burst with
        | none => p.board
        | some (addr, data) => apexCc1101WriteBurst addr data p.board := by
  intro frame burst
  obtain ⟨hlog, hsame⟩ := receive_frame p apexCmdCc1101Cfg payload hidle hlen
  have hcmd : apexCmdCc1101Cfg = cmdCc1101Cfg := rfl
  refine ⟨?_, ?_⟩
  · unfold bursts
    rw [hlog, List.drop_left]
    simp only [hcmd, if_true, List.filterMap_cons, List.filterMap_nil]
    cases hburst : burst <;> simp_all [burst]
  · have hhandler := handleCmdCc1101Cfg_board payload (BitVec.ofNat 16 payload.length) p
    exact hsame.board.trans hhandler

section

variable (stack : Nat → Byte) (env : Env) (handle : Option ApexDevice) (dev : Dev)

/-- The driver refuses the library's request number. -/
theorem cfg_refused (arg : Nat → Byte) :
    (apexBridgeIoctl libIocCc1101Cfg arg env dev).ret < 0 ∧
      (apexBridgeIoctl libIocCc1101Cfg arg env dev).sent = none := by
  obtain ⟨_, hneg, hdone⟩ := ioctl_unknown libIocCc1101Cfg_unknown
  rw [hdone]
  exact ⟨hneg, rfl⟩

/-- No write under the library's request number succeeds or sends anything. -/
theorem writeRegs_refused (cfg : Cc1101Config) :
    let r := apexCc1101WriteRegs libIocCc1101Cfg stack env handle dev cfg
    r.ret ≠ apexOk ∧ r.sent = none := by
  have hinvalid : apexErrInvalidArg ≠ apexOk := by decide
  have hfailed : apexErrIoctlFailed ≠ apexOk := by decide
  unfold apexCc1101WriteRegs
  cases handle with
  | none => exact ⟨hinvalid, rfl⟩
  | some h =>
      dsimp only
      split_ifs
      · exact ⟨hinvalid, rfl⟩
      · exact ⟨hinvalid, rfl⟩
      · exact ⟨hinvalid, rfl⟩
      · exact ⟨hfailed, (cfg_refused env dev _).2⟩
      · next hret => exact absurd (cfg_refused env dev _).1 hret

theorem setBand_refused (band : Int) :
    let r := apexCc1101SetBand libIocCc1101Cfg stack env handle dev band
    r.ret ≠ apexOk ∧ r.sent = none := by
  have hinvalid : apexErrInvalidArg ≠ apexOk := by decide
  have hfailed : apexErrIoctlFailed ≠ apexOk := by decide
  unfold apexCc1101SetBand
  cases handle with
  | none => exact ⟨hinvalid, rfl⟩
  | some h =>
      dsimp only
      split_ifs
      · exact ⟨hinvalid, rfl⟩
      · exact ⟨hinvalid, rfl⟩
      · exact ⟨hfailed, (cfg_refused env dev _).2⟩
      · next hret => exact absurd (cfg_refused env dev _).1 hret

end

/-- The request to write `data` from register `addr` on. -/
def writeRequest (addr : Byte) (data : List Byte) : List Byte :=
  [addr, BitVec.ofNat 8 data.length] ++ data

/-- Received in its frame, the request makes the MCU write this burst. -/
def Accepted (p : SpiProtocol) (addr : Byte) (data : List Byte) : Prop :=
  bursts p (some (encode apexCmdCc1101Cfg (writeRequest addr data))) = [(addr, data)]

/-- The call succeeds exactly when its request is one the MCU accepts, and when it
succeeds the MCU has written the burst. -/
def TakesEffect (p : SpiProtocol) (r : LibResult) (addr : Byte) (data : List Byte) : Prop :=
  (r.ret = apexOk ↔ Accepted p addr data) ∧ (r.ret = apexOk → bursts p r.sent = [(addr, data)])

theorem accepted_iff (p : SpiProtocol) (addr : Byte) {data : List Byte} (hidle : p.rx.state = .idle)
    (hlen : data.length ≤ 64) : Accepted p addr data ↔ Confined addr.toNat data.length := by
  have hcount : (BitVec.ofNat 8 data.length).toNat = data.length := by
    rw [BitVec.toNat_ofNat]
    omega
  have hpayload : (writeRequest addr data).length ≤ maxPayload := by
    have hmax : maxPayload = 4092 := rfl
    rw [writeRequest, List.length_append, hmax]
    simp only [List.length_cons, List.length_nil]
    omega
  have hrequest := cc1101Burst_request_iff addr hcount.symm
  rw [hcount] at hrequest
  unfold Accepted
  rw [(receive_cc1101 p _ hidle hpayload).1, ← hrequest]
  exact Option.toList_eq_singleton_iff

/-- A call that neither succeeds nor sends anything. -/
theorem takesEffect_refused (p : SpiProtocol) {r : LibResult} (h : r.ret ≠ apexOk ∧ r.sent = none)
    (addr : Byte) (data : List Byte) : TakesEffect p r addr data ↔ ¬ Accepted p addr data := by
  constructor
  · rintro ⟨hiff, -⟩ haccepted
    exact h.1 (hiff.mpr haccepted)
  · intro hrefused
    exact ⟨iff_of_false h.1 hrefused, fun hok => absurd hok h.1⟩

/-- A CC1101 write of the library does what it should exactly when the MCU refuses its
request: never for a channel or a power, always for a band. -/
theorem cc1101_writes_take_effect_iff (stack : Nat → Byte) (env : Env) (handle : Option ApexDevice)
    (dev : Dev) (rest : Nat → Byte) (p : SpiProtocol) (hidle : p.rx.state = .idle) :
    (∀ cfg : Cc1101Config, 0 < cfg.regLen.toNat → cfg.regLen.toNat ≤ 64 →
      (TakesEffect p (apexCc1101WriteRegs libIocCc1101Cfg stack env handle dev cfg) cfg.regAddr
          (cfg.data.toList.take cfg.regLen.toNat) ↔
        ¬ Confined cfg.regAddr.toNat cfg.regLen.toNat)) ∧
    (∀ channel, ¬ TakesEffect p
      (apexCc1101SetChannel libIocCc1101Cfg stack env handle dev rest channel) 0x0A [channel]) ∧
    (∀ powerDbm, ¬ TakesEffect p
      (apexCc1101SetPower libIocCc1101Cfg stack env handle dev rest powerDbm) 0x22
        [paVal powerDbm]) ∧
    ∀ band, TakesEffect p (apexCc1101SetBand libIocCc1101Cfg stack env handle dev band) 0xFF
      ((bandData band).take band.toNat) := by
  refine ⟨?_, ?_, ?_, ?_⟩
  · intro cfg hpos hmax
    have hdata : (cfg.data.toList.take cfg.regLen.toNat).length = cfg.regLen.toNat := by
      rw [List.length_take, Vector.length_toList]
      omega
    rw [takesEffect_refused p (writeRegs_refused stack env handle dev cfg),
      accepted_iff p _ hidle (by omega), hdata]
  · intro channel
    rw [apexCc1101SetChannel, takesEffect_refused p (writeRegs_refused stack env handle dev _),
      accepted_iff p _ hidle (by simp)]
    exact not_not.mpr (.inl ⟨by decide, by simp⟩)
  · intro powerDbm
    rw [apexCc1101SetPower, takesEffect_refused p (writeRegs_refused stack env handle dev _),
      accepted_iff p _ hidle (by simp)]
    exact not_not.mpr (.inl ⟨by decide, by simp⟩)
  · intro band
    have hdata : ((bandData band).take band.toNat).length ≤ 64 := by
      rw [List.length_take, bandData, List.length_cons, List.length_replicate]
      omega
    rw [takesEffect_refused p (setBand_refused stack env handle dev band),
      accepted_iff p _ hidle hdata]
    rintro (⟨hlow, -⟩ | ⟨-, hhigh, -⟩)
    · exact absurd hlow (by decide)
    · exact absurd hhigh (by decide)

/-- Two registers from address 10 on. -/
def twoRegisters : Cc1101Config := ⟨10, 2, Vector.replicate 64 0⟩

/-- The MCU would write the burst, but the request never gets to it. -/
theorem cc1101_write_fails :
    let r := apexCc1101WriteRegs libIocCc1101Cfg (fun _ => 0) (.ok []) (some ⟨3, 0⟩) .probed
      twoRegisters
    Accepted (boot true true true).proto 10 [0, 0] ∧ r.ret = apexErrIoctlFailed ∧ r.sent = none ∧
      ¬ TakesEffect (boot true true true).proto r 10 [0, 0] := by
  have haccepted : Accepted (boot true true true).proto 10 [0, 0] :=
    (accepted_iff _ 10 rfl (by decide)).mpr (.inl ⟨by decide, by decide⟩)
  have hrefused := writeRegs_refused (fun _ => 0) (.ok []) (some ⟨3, 0⟩) .probed twoRegisters
  refine ⟨haccepted, by decide, hrefused.2, fun heffect => ?_⟩
  exact (takesEffect_refused _ hrefused 10 [0, 0]).mp heffect haccepted

/-- A range that runs over the end of the configuration registers is refused on both sides. -/
theorem cc1101_writes_take_effect_over_end :
    TakesEffect (boot true true true).proto
      (apexCc1101WriteRegs libIocCc1101Cfg (fun _ => 0) (.ok []) (some ⟨3, 0⟩) .probed
        ⟨0x2E, 2, Vector.replicate 64 0⟩) 0x2E [0, 0] :=
  ((cc1101_writes_take_effect_iff (fun _ => 0) (.ok []) (some ⟨3, 0⟩) .probed (fun _ => 0)
    (boot true true true).proto rfl).1 ⟨0x2E, 2, Vector.replicate 64 0⟩ (by decide)
      (by decide)).mpr (by unfold Confined; decide)

/-- The values of some consecutive registers. -/
def registers (regs : Nat → Byte) (addr len : Nat) : List Byte :=
  (List.range len).map fun i => regs (addr + i)

theorem registers_zero_iff (regs : Nat → Byte) (addr len : Nat) :
    List.replicate len 0 = registers regs addr len ↔
      ∀ x, addr ≤ x → x < addr + len → regs x = 0 := by
  rw [eq_comm, List.eq_replicate_iff]
  constructor
  · rintro ⟨-, hall⟩ x hlow hhigh
    apply hall
    refine List.mem_map.mpr ⟨x - addr, List.mem_range.mpr (by omega), ?_⟩
    rw [Nat.add_sub_cancel' hlow]
  · intro hall
    refine ⟨by simp [registers], ?_⟩
    intro v hv
    obtain ⟨i, hi, rfl⟩ := List.mem_map.mp hv
    have hlt := List.mem_range.mp hi
    exact hall _ (by omega) (by omega)

/-- The chip after what the MCU does because of a call. -/
def chipAfter (chip : Cc1101) (p : SpiProtocol) (sent : Option (List Byte)) : Cc1101 :=
  ((receive p sent).board.since p.board).foldl Cc1101.onBus chip

section

variable (stack : Nat → Byte) (env : Env) (h : ApexDevice) (dev : Dev) (cfg : Cc1101Config)
  (p : SpiProtocol) (chip : Cc1101)

/-- The structure of a read on the library's stack. -/
def readStruct (stack : Nat → Byte) (cfg : Cc1101Config) : Nat → Byte :=
  onStack ([cfg.regAddr, cfg.regLen] ++ List.replicate 64 0) stack

theorem readStruct_payload (hmax : cfg.regLen.toNat ≤ 64) :
    memBytes (readStruct stack cfg) (2 + cfg.regLen.toNat) =
      [cfg.regAddr, cfg.regLen] ++ List.replicate cfg.regLen.toNat 0 := by
  have htake : min cfg.regLen.toNat 64 = cfg.regLen.toNat := by omega
  unfold readStruct
  rw [memBytes_onStack _ _ _ (by simp; omega), Nat.add_comm]
  simp only [List.cons_append, List.nil_append, List.take_succ_cons, List.take_replicate, htake]

theorem readStruct_zero (i : Nat) (hi : i < 64) : readStruct stack cfg (2 + i) = 0 := by
  rw [Nat.add_comm]
  change (List.replicate 64 (0 : Byte)).getD i (stack (i + 2)) = 0
  rw [List.getD_eq_getElem?_getD, List.getElem?_replicate_of_lt hi]
  rfl

/-- A read of registers in range passes the checks of the library. -/
theorem readRegs_ioctl (request : BitVec 32) (hfd : 0 ≤ h.fd) (hpos : 0 < cfg.regLen.toNat)
    (hrange : cfg.regAddr.toNat + cfg.regLen.toNat ≤ cc1101ConfigRegs) :
    apexCc1101ReadRegs request stack env (some h) dev cfg =
      let call := ioctl request (readStruct stack cfg) env dev
      if call.1.ret < 0 then (h.returns apexErrIoctlFailed call.1, cfg)
      else
        (h.returns apexOk call.1,
          { cfg with
            data := Vector.ofFn fun i =>
              if i.val < cfg.regLen.toNat then call.2 (2 + i) else cfg.data.get i }) := by
  have hregs : cc1101ConfigRegs = 47 := rfl
  have hnofd : ¬ h.fd < 0 := by omega
  have hnolen : ¬ (cfg.regLen = 0 ∨ cfg.regLen > 64#8) := by
    rintro (hzero | hlong)
    · rw [hzero] at hpos
      exact absurd hpos (by decide)
    · have hlong' : 64 < cfg.regLen.toNat := hlong
      omega
  have hnoaddr : ¬ cfg.regAddr > 0x3D#8 := by
    rw [gt_iff_lt, BitVec.lt_def]
    simp only [BitVec.toNat_ofNat]
    omega
  unfold apexCc1101ReadRegs
  dsimp only
  rw [if_neg hnofd, if_neg hnolen, if_neg hnoaddr]
  rfl

/-- A served read hands the zeros of its own structure to the caller and to the
line. -/
theorem readRegs_served (hfd : 0 ≤ h.fd) (hpos : 0 < cfg.regLen.toNat)
    (hrange : cfg.regAddr.toNat + cfg.regLen.toNat ≤ cc1101ConfigRegs) (henv : env.Serves)
    (hspi : ¬ env.spiSync < 0) :
    let result := apexCc1101ReadRegs apexIocCc1101Cfg stack env (some h) dev cfg
    result.1.ret = apexOk ∧
      result.2.data.toList.take cfg.regLen.toNat = List.replicate cfg.regLen.toNat 0 ∧
      result.1.sent = some (encode apexCmdCc1101Cfg
        ([cfg.regAddr, cfg.regLen] ++ List.replicate cfg.regLen.toNat 0)) := by
  have hregs : cc1101ConfigRegs = 47 := rfl
  have hmax : cfg.regLen.toNat ≤ 64 := by omega
  have hserved : apexBridgeIoctl apexIocCc1101Cfg (readStruct stack cfg) env dev =
      requestResult apexCmdCc1101Cfg
        (memBytes (readStruct stack cfg) (2 + cfg.regLen.toNat)) env dev :=
    cc1101_served henv hpos hmax
  rw [readStruct_payload stack cfg hmax] at hserved
  have hret : ¬ (requestResult apexCmdCc1101Cfg
      ([cfg.regAddr, cfg.regLen] ++ List.replicate cfg.regLen.toNat 0) env dev).ret < 0 := by
    simp only [requestResult, if_neg hspi]
    omega
  dsimp only
  rw [readRegs_ioctl stack env h dev cfg _ hfd hpos hrange, ioctl_request hserved]
  dsimp only
  rw [if_neg hret]
  refine ⟨rfl, ?_, rfl⟩
  apply List.ext_getElem
  · simp
    omega
  · intro i hi hi'
    rw [List.length_replicate] at hi'
    have hzero := readStruct_zero stack cfg i (by omega)
    simpa [hi'] using hzero

/-- A read that is not served fails. -/
theorem readRegs_unserved (hfd : 0 ≤ h.fd) (hpos : 0 < cfg.regLen.toNat)
    (hrange : cfg.regAddr.toNat + cfg.regLen.toNat ≤ cc1101ConfigRegs)
    (hnot : ¬ (env.Serves ∧ ¬ env.spiSync < 0)) :
    (apexCc1101ReadRegs apexIocCc1101Cfg stack env (some h) dev cfg).1.ret ≠ apexOk := by
  have hregs : cc1101ConfigRegs = 47 := rfl
  have hfail : apexErrIoctlFailed ≠ apexOk := by decide
  have hret : (ioctl apexIocCc1101Cfg (readStruct stack cfg) env dev).1.ret < 0 := by
    by_contra hge
    exact hnot (@cc1101_nonneg (readStruct stack cfg) env dev hpos
      (show cfg.regLen.toNat ≤ 64 by omega) (not_lt.mp hge))
  rw [readRegs_ioctl stack env h dev cfg _ hfd hpos hrange]
  dsimp only
  rw [if_pos hret]
  exact hfail

/-- A read under the driver's request number: it fails, or it returns zeros and
leaves zeros in the registers. -/
theorem readRegs_cases (hfd : 0 ≤ h.fd) (hpos : 0 < cfg.regLen.toNat)
    (hrange : cfg.regAddr.toNat + cfg.regLen.toNat ≤ cc1101ConfigRegs)
    (hidle : p.rx.state = .idle) (hchip : chip.access = none) :
    let result := apexCc1101ReadRegs apexIocCc1101Cfg stack env (some h) dev cfg
    (¬ (env.Serves ∧ ¬ env.spiSync < 0) ∧ result.1.ret ≠ apexOk) ∨
      ((env.Serves ∧ ¬ env.spiSync < 0) ∧ result.1.ret = apexOk ∧
        result.2.data.toList.take cfg.regLen.toNat = List.replicate cfg.regLen.toNat 0 ∧
        (chipAfter chip p result.1.sent).regs =
          burstRegs chip.regs cfg.regAddr.toNat (List.replicate cfg.regLen.toNat 0)) := by
  have hregs : cc1101ConfigRegs = 47 := rfl
  by_cases hserves : env.Serves ∧ ¬ env.spiSync < 0
  · obtain ⟨hret, hdata, hsent⟩ :=
      readRegs_served stack env h dev cfg hfd hpos hrange hserves.1 hserves.2
    refine .inr ⟨hserves, hret, hdata, ?_⟩
    have hlength : ([cfg.regAddr, cfg.regLen] ++
        List.replicate cfg.regLen.toNat (0 : Byte)).length ≤ maxPayload := by
      have hmax : maxPayload = 4092 := rfl
      rw [List.length_append, List.length_replicate, hmax]
      simp only [List.length_cons, List.length_nil]
      omega
    obtain ⟨-, hboard⟩ := receive_cc1101 p _ hidle hlength
    rw [cc1101Burst_confined List.length_replicate (.inl ⟨by omega, hrange⟩)] at hboard
    unfold chipAfter
    rw [hsent, hboard]
    exact chip.write_burst cfg.regAddr _ p.board hchip (by omega)
  · exact .inl ⟨hserves, readRegs_unserved stack env h dev cfg hfd hpos hrange hserves⟩

/-- The call returns the values of the registers and leaves the chip's registers
as they were. -/
def ReadIsPure : Prop :=
  let result := apexCc1101ReadRegs apexIocCc1101Cfg stack env (some h) dev cfg
  result.1.ret = apexOk ∧
    result.2.data.toList.take cfg.regLen.toNat =
      registers chip.regs cfg.regAddr.toNat cfg.regLen.toNat ∧
    (chipAfter chip p result.1.sent).regs = chip.regs

/-- A read is pure exactly when the request is served and all the registers are
zero. -/
theorem cc1101_read_pure_iff (hfd : 0 ≤ h.fd) (hpos : 0 < cfg.regLen.toNat)
    (hrange : cfg.regAddr.toNat + cfg.regLen.toNat ≤ cc1101ConfigRegs)
    (hidle : p.rx.state = .idle) (hchip : chip.access = none) :
    ReadIsPure stack env h dev cfg p chip ↔
      (env.Serves ∧ ¬ env.spiSync < 0) ∧
        ∀ x, cfg.regAddr.toNat ≤ x → x < cfg.regAddr.toNat + cfg.regLen.toNat →
          chip.regs x = 0 := by
  rcases readRegs_cases stack env h dev cfg p chip hfd hpos hrange hidle hchip with
    ⟨hnot, hret⟩ | ⟨hserved, hret, hdata, hregs⟩
  · constructor
    · exact fun hpure => absurd hpure.1 hret
    · exact fun hcond => absurd hcond.1 hnot
  · unfold ReadIsPure
    dsimp only
    rw [hdata, hregs, registers_zero_iff]
    constructor
    · exact fun hpure => ⟨hserved, hpure.2.1⟩
    · intro hcond
      refine ⟨hret, hcond.2, ?_⟩
      funext x
      unfold burstRegs
      split
      · next hin =>
        rw [List.length_replicate] at hin
        rw [hcond.2 x hin.1 hin.2.1, List.getD_eq_getElem?_getD,
          List.getElem?_replicate_of_lt (by omega)]
        rfl
      · rfl

end

theorem envOk_serves (miso : List Byte) : (Env.ok miso).Serves := ⟨rfl, rfl, rfl, rfl, rfl, rfl⟩

/-- A chip with the same value in every register. -/
def uniformChip (value : Byte) : Cc1101 := ⟨fun _ => value, false, none⟩

/-- Reading a chip that is all zero. -/
theorem cc1101_read_pure_zero :
    ReadIsPure (fun _ => 0) (.ok []) ⟨3, 0⟩ .probed twoRegisters (boot true true true).proto
      (uniformChip 0) :=
  (cc1101_read_pure_iff (fun _ => 0) (.ok []) ⟨3, 0⟩ .probed twoRegisters
    (boot true true true).proto (uniformChip 0) (by decide) (by decide) (by decide) rfl rfl).mpr
      ⟨⟨envOk_serves [], by decide⟩, fun _ _ _ => rfl⟩

/-- Reading a chip whose registers hold 5 returns zeros and clears them. -/
theorem cc1101_read_destroys :
    let result := apexCc1101ReadRegs apexIocCc1101Cfg (fun _ => 0) (.ok []) (some ⟨3, 0⟩)
      .probed twoRegisters
    ¬ ReadIsPure (fun _ => 0) (.ok []) ⟨3, 0⟩ .probed twoRegisters (boot true true true).proto
        (uniformChip 5) ∧
      result.1.ret = apexOk ∧
      result.2.data.toList.take 2 ≠ registers (uniformChip 5).regs 10 2 ∧
      (chipAfter (uniformChip 5) (boot true true true).proto result.1.sent).regs 10 = 0 := by
  rcases readRegs_cases (fun _ => 0) (.ok []) ⟨3, 0⟩ .probed twoRegisters
      (boot true true true).proto (uniformChip 5) (by decide) (by decide) (by decide) rfl rfl with
    ⟨hnot, -⟩ | ⟨-, hret, hdata, hregs⟩
  · exact absurd ⟨envOk_serves [], by decide⟩ hnot
  · have hlen : twoRegisters.regLen.toNat = 2 := rfl
    rw [hlen] at hdata
    have hwrong : List.replicate 2 0 ≠ registers (uniformChip 5).regs 10 2 := by decide
    refine ⟨?_, hret, by rwa [hdata], ?_⟩
    · intro hpure
      have hvalues := hpure.2.1
      rw [hlen, hdata] at hvalues
      exact hwrong hvalues
    · rw [hregs]
      rfl

end GhostBlade.Bridge
