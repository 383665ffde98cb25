import GhostBlade.Host.Transfers

/-!
What the driver keeps about the MCU beside the data it moves: the two control
lines with the flags that stand for them, and the brownout account. Only the
reset request changes the first, only accepted telemetry the second.
-/

namespace GhostBlade.Host

open GhostBlade.Library GhostBlade.Protocol

structure ResetLines where
  mcuReady : Bool
  mcuReset : Bool
  gpioMcuReset : Bool
  gpioHostRdy : Bool

structure Brownout where
  lowBattery : Bool
  count : BitVec 32
  prevFlag : Bool

def Dev.resetLines (dev : Dev) : ResetLines :=
  ⟨dev.flags.mcuReady, dev.flags.mcuReset, dev.gpioMcuReset, dev.gpioHostRdy⟩

def Dev.brownout (dev : Dev) : Brownout :=
  ⟨dev.flags.lowBattery, dev.brownoutCount, dev.brownoutPrevFlag⟩

/-- The step from `dev` to `dev'` changes neither the lines nor the account. -/
structure Unmonitored (dev dev' : Dev) : Prop where
  resetLines : dev'.resetLines = dev.resetLines
  brownout : dev'.brownout = dev.brownout

theorem Unmonitored.rfl {dev : Dev} : Unmonitored dev dev := ⟨Eq.refl _, Eq.refl _⟩

theorem Unmonitored.trans {dev dev' dev'' : Dev} (h : Unmonitored dev dev')
    (h' : Unmonitored dev' dev'') : Unmonitored dev dev'' :=
  ⟨h'.resetLines.trans h.resetLines, h'.brownout.trans h.brownout⟩

section

variable (env : Env) (dev : Dev)

theorem afterXfer_unmonitored : Unmonitored dev (env.afterXfer dev) := by
  unfold Env.afterXfer
  split
  · exact ⟨rfl, rfl⟩
  · exact .rfl

theorem pushRx_unmonitored (payload : List Byte) : Unmonitored dev (dev.pushRx payload) :=
  ⟨rfl, rfl⟩

/-- Neither a failed transfer nor the engine is monitored. -/
theorem Sends.unmonitored {env : Env} {dev : Dev} {r : Result} (h : Sends env dev r) :
    Unmonitored dev r.dev := by
  obtain ⟨eng, hdev⟩ := h
  have hengine : Unmonitored dev { dev with sgEngine := eng } := ⟨rfl, rfl⟩
  rw [hdev, Env.afterSending]
  split
  · exact hengine
  · exact hengine.trans (afterXfer_unmonitored env _)

/-- The byte of a reset request that reaches its `copy_from_user` and is
copied. -/
def resetRequest (op : DriverOp) (env : Env) : Option Byte :=
  match op with
  | .ioctl cmd arg =>
      if cmd = apexIocMcuReset ∧ env.accessOk = true ∧ env.allocOk 0 = true ∧
          env.allocOk 1 = true ∧ env.userCopy 0 = true then some (arg 0)
      else none
  | _ => none

/-- `apex_mcu_reset_assert` or `apex_mcu_reset_release`, as the byte says. -/
def Dev.mcuReset (dev : Dev) (resetAssert : Byte) : Dev :=
  if resetAssert ≠ 0 then apexMcuResetAssert dev else apexMcuResetRelease dev

theorem ioctlMcuReset_dev (arg : Nat → Byte) :
    (ioctlMcuReset arg env dev).dev =
      if env.userCopy 0 = true then dev.mcuReset (arg 0) else dev := by
  unfold ioctlMcuReset Dev.mcuReset
  cases env.userCopy 0
  · rfl
  · simp only [Bool.true_eq_false, if_false, if_true]
    split_ifs <;> rfl

theorem apexBridgeIoctl_unmonitored {cmd : BitVec 32} (arg : Nat → Byte)
    (hcmd : cmd ≠ apexIocMcuReset) : Unmonitored dev (apexBridgeIoctl cmd arg env dev).dev :=
  (apexBridgeIoctl_sends env dev arg hcmd).unmonitored

/-- The reset request does nothing or what its byte says. -/
theorem apexBridgeIoctl_mcuReset (arg : Nat → Byte) :
    (apexBridgeIoctl apexIocMcuReset arg env dev).dev =
      match resetRequest (.ioctl apexIocMcuReset arg) env with
      | none => dev
      | some resetAssert => dev.mcuReset resetAssert := by
  have hmagic : ¬ (apexIocMcuReset >>> 8) &&& 0xFF#32 ≠ 0x41#32 := by decide
  have hnr : ¬ ((apexIocMcuReset &&& 0xFF#32).toNat < 1 ∨
      (apexIocMcuReset &&& 0xFF#32).toNat > 11) := by decide
  have hwrite : (apexIocMcuReset >>> 30).toNat &&& iocWrite ≠ 0 := by decide
  have hread : ¬ (apexIocMcuReset >>> 30).toNat &&& iocRead ≠ 0 := by decide
  have hswitch (frame rxBuf : List Byte) :
      ioctlSwitch apexIocMcuReset arg frame rxBuf env dev = ioctlMcuReset arg env dev := rfl
  unfold apexBridgeIoctl resetRequest Env.kmalloc
  simp only [if_neg hmagic, if_neg hnr, hwrite, hread, hswitch, ne_eq, not_false_eq_true,
    true_and, false_and, if_false]
  cases haccess : env.accessOk with
  | false => simp [Result.done]
  | true =>
      cases h0 : env.allocOk 0 with
      | false => simp [Result.done]
      | true =>
          cases h1 : env.allocOk 1 with
          | false => simp [Result.done]
          | true =>
              simp only [if_true, Bool.true_eq_false, if_false, true_and, ioctlMcuReset_dev]
              split_ifs <;> rfl

/-- The telemetry payload that the RX work takes from its reply. -/
def telemetryTaken (op : DriverOp) (env : Env) : Option (List Byte) :=
  match op with
  | .rxWork =>
      if env.allocOk 0 = true ∧ env.allocOk 1 = true then
        ((env.reply frameSizeMax).filter fun r =>
          r.cmd = apexCmdTelemetry ∧ r.payload.length = telemetrySize).map Received.payload
      else none
  | _ => none

theorem apexBridgeWrite_unmonitored (data : List Byte) :
    Unmonitored dev (apexBridgeWrite data env dev).dev := by
  rcases apexBridgeWrite_result data env dev with ⟨ret, hdone⟩ | hsent
  · rw [hdone]
    exact .rfl
  · rw [hsent, writeResult]
    dsimp only
    split
    · exact afterXfer_unmonitored env dev
    · exact (afterXfer_unmonitored env dev).trans (pushRx_unmonitored _ _)

theorem apexBridgeRead_unmonitored (sawEmpty nonblock : Bool) (waited : Int) (count : Nat) :
    Unmonitored dev (apexBridgeRead sawEmpty nonblock waited count env dev).dev := by
  rw [apexBridgeRead_dev]
  split
  · exact .rfl
  · exact ⟨rfl, rfl⟩

/-- `atomic_xchg` on the previous flag sees the rising edges of the flag the
driver tests. -/
def Brownout.take (account : Brownout) (word : BitVec 16) : Brownout :=
  if word &&& 3#16 ≠ 0#16 then
    { lowBattery := true
      count := if account.prevFlag = false then account.count + 1 else account.count
      prevFlag := true }
  else { account with lowBattery := false, prevFlag := false }

/-- The `flags` field of a telemetry payload. -/
def flagsWord (payload : List Byte) : BitVec 16 :=
  BitVec.ofNat 16 (leValue ((payload.drop 10).take 2))

theorem cacheTelemetry_monitor (payload : List Byte) :
    (dev.cacheTelemetry payload).resetLines = dev.resetLines ∧
      (dev.cacheTelemetry payload).brownout = dev.brownout.take (flagsWord payload) := by
  unfold Dev.cacheTelemetry Brownout.take flagsWord
  by_cases hlow : BitVec.ofNat 16 (leValue ((payload.drop 10).take 2)) &&& 3#16 ≠ 0#16
  · simp only [if_pos hlow]
    exact ⟨rfl, rfl⟩
  · simp only [if_neg hlow]
    exact ⟨rfl, rfl⟩

/-- The RX work takes a telemetry payload or leaves everything alone. -/
theorem apexRxWorkHandler_monitor :
    (apexRxWorkHandler env dev).dev.resetLines = dev.resetLines ∧
      (apexRxWorkHandler env dev).dev.brownout =
        match telemetryTaken .rxWork env with
        | none => dev.brownout
        | some payload => dev.brownout.take (flagsWord payload) := by
  have hxfer := afterXfer_unmonitored env dev
  rw [apexRxWorkHandler_eq, telemetryTaken]
  by_cases hbufs : env.allocOk 0 = true ∧ env.allocOk 1 = true
  · rw [if_pos hbufs, if_pos hbufs]
    cases env.reply frameSizeMax with
    | none => exact ⟨hxfer.resetLines, hxfer.brownout⟩
    | some r =>
        dsimp only
        unfold Dev.takeResponse
        by_cases htelem : r.cmd = apexCmdTelemetry
        · by_cases hlen : r.payload.length = telemetrySize
          · obtain ⟨hlines, hbrownout⟩ := cacheTelemetry_monitor (env.afterXfer dev) r.payload
            have hpush := pushRx_unmonitored ((env.afterXfer dev).cacheTelemetry r.payload)
              r.payload
            rw [if_pos htelem, if_pos hlen, hpush.resetLines, hpush.brownout, hlines, hbrownout,
              hxfer.resetLines, hxfer.brownout]
            simp [htelem, hlen, Option.filter_some]
          · simp [htelem, hlen, Option.filter_some, hxfer.resetLines, hxfer.brownout]
        · have hpush := hxfer.trans (pushRx_unmonitored (env.afterXfer dev) r.payload)
          simp [htelem, Option.filter_some, hpush.resetLines, hpush.brownout]
  · rw [if_neg hbufs, if_neg hbufs]
    exact ⟨rfl, rfl⟩

theorem mcuReset_brownout (resetAssert : Byte) :
    (dev.mcuReset resetAssert).brownout = dev.brownout := by
  unfold Dev.mcuReset
  split_ifs <;> rfl

theorem apexBridgeOpen_unmonitored (pmGet : Int) :
    Unmonitored dev (apexBridgeOpen pmGet dev).dev := by
  unfold apexBridgeOpen
  split_ifs
  · exact .rfl
  · exact .rfl
  · exact ⟨rfl, rfl⟩

/-- What one operation of the driver does to the lines with their flags and to
the account. -/
theorem driverOp_monitor (op : DriverOp) :
    ((driverOp op env dev).dev.resetLines =
      match resetRequest op env with
      | none => dev.resetLines
      | some resetAssert => (dev.mcuReset resetAssert).resetLines) ∧
    (driverOp op env dev).dev.brownout =
      match telemetryTaken op env with
      | none => dev.brownout
      | some payload => dev.brownout.take (flagsWord payload) := by
  cases op with
  | «open» pmGet =>
      have hkeeps := apexBridgeOpen_unmonitored dev pmGet
      exact ⟨hkeeps.resetLines, hkeeps.brownout⟩
  | release => exact ⟨rfl, rfl⟩
  | read sawEmpty nonblock waited count =>
      have hkeeps := apexBridgeRead_unmonitored env dev sawEmpty nonblock waited count
      exact ⟨hkeeps.resetLines, hkeeps.brownout⟩
  | write data =>
      have hkeeps := apexBridgeWrite_unmonitored env dev data
      exact ⟨hkeeps.resetLines, hkeeps.brownout⟩
  | ioctl cmd arg =>
      by_cases hcmd : cmd = apexIocMcuReset
      · subst hcmd
        rw [driverOp, apexBridgeIoctl_mcuReset]
        cases resetRequest (.ioctl apexIocMcuReset arg) env with
        | none => exact ⟨rfl, rfl⟩
        | some resetAssert => exact ⟨rfl, mcuReset_brownout dev resetAssert⟩
      · have hkeeps := apexBridgeIoctl_unmonitored env dev arg hcmd
        simp only [resetRequest, hcmd, false_and, if_false]
        exact ⟨hkeeps.resetLines, hkeeps.brownout⟩
  | rxWork => exact apexRxWorkHandler_monitor env dev
  | sgWorker work => exact ⟨rfl, rfl⟩

end

end GhostBlade.Host
