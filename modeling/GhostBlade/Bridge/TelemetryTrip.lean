import GhostBlade.Firmware.TxStatistics
import GhostBlade.Host.Brownout
import GhostBlade.Host.Libapex
import GhostBlade.Host.Sessions

/-!
A telemetry record on its way from the MCU to the application: the payload the
firmware packs, the frame in its TX ring, the driver's cache and the structure
that `apex_get_telemetry` fills in.
-/

namespace GhostBlade.Bridge

open GhostBlade.Library GhostBlade.Protocol GhostBlade.Host GhostBlade.Firmware

/-- The measurements, the flags and the uptime the MCU holds. -/
def measured (d : DeviceState) : ApexTelemetry where
  rssiDbmX10 := d.lastRssiDbmX10.toInt
  tempCX10 := d.lastTempCX10.toInt
  vbatMv := d.lastVbatMv.toNat
  cc1101RssiX10 := d.lastCcRssiX10.toInt
  nfcFieldMv := d.lastNfcFieldMv.toNat
  flags := d.telemetryFlags
  uptimeMs := d.uptimeMs.toNat

section

variable (v : BitVec 16) (u : BitVec 32) (rest : List Byte)

theorem structField_writeLe16 (bytes : List Byte) (offset : Nat)
    (h : bytes.drop offset = writeLe16 v ++ rest) : structField 16 bytes offset = v := by
  have htwo : (writeLe16 v ++ rest).take 2 = leBytes 2 v.toNat := by
    rw [writeLe16, shiftBytes_eq, List.take_left' (leBytes_length 2 _)]
  rw [structField, h, htwo, leValue_leBytes_of_lt 2 _ v.isLt, BitVec.ofNat_toNat,
    BitVec.setWidth_eq]

theorem structField_writeLe32 (bytes : List Byte) (offset : Nat)
    (h : bytes.drop offset = writeLe32 u ++ rest) : structField 32 bytes offset = u := by
  have hfour : (writeLe32 u ++ rest).take 4 = leBytes 4 u.toNat := by
    rw [writeLe32, shiftBytes_eq, List.take_left' (leBytes_length 4 _)]
  rw [structField, h, hfour, leValue_leBytes_of_lt 4 _ u.isLt, BitVec.ofNat_toNat,
    BitVec.setWidth_eq]

end

/-- Each field of the payload is read back where the firmware has put it. -/
theorem ofKernel_telemetry (d : DeviceState) : ApexTelemetry.ofKernel d.telemetry = measured d := by
  have hrssi := structField_writeLe16 d.lastRssiDbmX10 _ d.telemetry 0 rfl
  have htemp := structField_writeLe16 d.lastTempCX10 _ d.telemetry 2 rfl
  have hvbat := structField_writeLe16 d.lastVbatMv _ d.telemetry 4 rfl
  have hcc := structField_writeLe16 d.lastCcRssiX10 _ d.telemetry 6 rfl
  have hnfc := structField_writeLe16 d.lastNfcFieldMv _ d.telemetry 8 rfl
  have hflags := structField_writeLe16 d.telemetryFlags _ d.telemetry 10 rfl
  have huptime := structField_writeLe32 d.uptimeMs [] d.telemetry 12 rfl
  unfold ApexTelemetry.ofKernel measured
  rw [hrssi, htemp, hvbat, hcc, hnfc, hflags, huptime]

theorem telemetry_length (d : DeviceState) : d.telemetry.length = telemetrySize := rfl

/-- The bytes behind those that were unread before are the frame. -/
theorem sendTelemetry_queued (p : SpiProtocol)
    (hqueued : (buildResponseFrame cmdTelemetry p.device.telemetry p).1 = 0) :
    (spiProtocolSendTelemetry p).tx.unread.drop p.tx.used =
      encode cmdTelemetry p.device.telemetry := by
  have hlen : p.device.telemetry.length ≤ maxPayload := by
    rw [telemetry_length]
    decide
  have hfit := (buildResponseFrame_ret ⟨cmdTelemetry, p.device.telemetry⟩ p hlen).mp hqueued
  have hput := (putAll_encode_unread p.tx cmdTelemetry p.device.telemetry hfit).1
  have hsend := sendTelemetry_eq p
  rw [buildResponseFrame_fits _ _ p hlen hfit] at hsend
  dsimp only at hsend
  rw [hsend]
  dsimp only
  rw [hput, List.drop_left' p.tx.unread_length]

/-! ### The cached record -/

section

variable (env : Env) (dev : Dev)

theorem apexBridgeOpen_lastTelem (pmGet : Int) :
    (apexBridgeOpen pmGet dev).dev.lastTelem = dev.lastTelem := by
  unfold apexBridgeOpen
  split_ifs
  · rfl
  · rfl
  · rfl

theorem apexBridgeWrite_lastTelem (data : List Byte) :
    (apexBridgeWrite data env dev).dev.lastTelem = dev.lastTelem := by
  rcases apexBridgeWrite_result data env dev with ⟨ret, hdone⟩ | hsent
  · rw [hdone]
    rfl
  · rw [hsent, writeResult]
    dsimp only
    split
    · exact env.afterXfer_lastTelem dev
    · exact env.afterXfer_lastTelem dev

theorem apexRxWorkHandler_lastTelem :
    (apexRxWorkHandler env dev).dev.lastTelem =
      (telemetryTaken .rxWork env).getD dev.lastTelem := by
  rw [apexRxWorkHandler_eq, telemetryTaken]
  by_cases hbufs : env.allocOk 0 = true ∧ env.allocOk 1 = true
  · rw [if_pos hbufs, if_pos hbufs]
    cases env.reply frameSizeMax with
    | none => exact env.afterXfer_lastTelem dev
    | some r =>
        dsimp only
        rw [takeResponse_lastTelem, env.afterXfer_lastTelem, Option.filter_some]
        unfold Received.cached
        split <;> rfl
  · rw [if_neg hbufs, if_neg hbufs]
    rfl

/-- Until the file is closed only an accepted telemetry frame replaces the cached
payload. -/
theorem driverOp_lastTelem {op : DriverOp} (hop : op ≠ .release) :
    (driverOp op env dev).dev.lastTelem = (telemetryTaken op env).getD dev.lastTelem := by
  cases op with
  | «open» pmGet => exact apexBridgeOpen_lastTelem dev pmGet
  | release => exact absurd rfl hop
  | read sawEmpty nonblock waited count =>
      rw [driverOp, apexBridgeRead_dev]
      split
      · rfl
      · rfl
  | write data => exact apexBridgeWrite_lastTelem env dev data
  | ioctl cmd arg => exact (apexBridgeIoctl_quiet cmd arg env dev).lastTelem
  | rxWork => exact apexRxWorkHandler_lastTelem env dev
  | sgWorker work => rfl

end

/-- Operations that neither close the file nor bring another record. -/
def Quiescent (e : DriverOp × Env) : Prop :=
  e.1 ≠ .release ∧ telemetryTaken e.1 e.2 = none

theorem run_lastTelem (dev : Dev) {es : List (DriverOp × Env)} (h : ∀ e ∈ es, Quiescent e) :
    (run driverStep dev es).lastTelem = dev.lastTelem := by
  induction es generalizing dev with
  | nil => rfl
  | cons e es ih =>
      obtain ⟨hop, hnone⟩ := h e List.mem_cons_self
      have hstep : (driverStep dev e).lastTelem = dev.lastTelem := by
        unfold driverStep
        rw [driverOp_lastTelem e.2 dev hop, hnone, Option.getD_none]
      rw [run_cons, ih (driverStep dev e) fun e he => h e (List.mem_cons_of_mem _ he), hstep]

/-- RX work that gets a telemetry frame caches its payload. -/
theorem rxWork_caches (env : Env) (dev : Dev) {payload rest : List Byte}
    (hmiso : env.miso = encode cmdTelemetry payload ++ rest)
    (hlen : payload.length = telemetrySize)
    (hbufs : env.allocOk 0 = true ∧ env.allocOk 1 = true) (hspi : ¬ env.spiSync < 0) :
    (driverOp .rxWork env dev).dev.lastTelem = payload := by
  have hshort : payload.length ≤ maxPayload := by
    rw [hlen]
    decide
  have hreply := env.reply_encode frameSizeMax cmdTelemetry payload rest hspi hshort hmiso
    (encode_fits cmdTelemetry payload hshort)
  have hcmd : cmdTelemetry = apexCmdTelemetry := rfl
  have htaken : telemetryTaken .rxWork env = some payload := by
    rw [telemetryTaken, if_pos hbufs, hreply, Option.filter_some]
    simp [hcmd, hlen]
  rw [driverOp_lastTelem env dev (by simp), htaken, Option.getD_some]

/-- The library's structure is the cached payload taken apart. -/
theorem apexGetTelemetry_eq (stack : Nat → Byte) (env : Env) {h : ApexDevice} (dev : Dev)
    (telem : ApexTelemetry) (hfd : 0 ≤ h.fd) (hcached : dev.lastTelem.length = telemetrySize) :
    let result := apexGetTelemetry libIocGetTelemetry stack env (some h) dev (some telem)
    (result.1.ret = apexOk ↔ env.CopiesOut) ∧
      (env.CopiesOut → result.2 = some (.ofKernel dev.lastTelem)) := by
  intro result
  have hopen : ¬ h.fd < 0 := by omega
  have hsame : libIocGetTelemetry = apexIocGetTelemetry := rfl
  rcases getTelemetry_cases stack env dev with ⟨hno, ret, hneg, hfails⟩ | ⟨hyes, hcopies⟩
  · have hresult : result.1.ret = apexErrIoctlFailed := by
      simp only [result, apexGetTelemetry, if_neg hopen, ioctl, hsame, hfails, Result.done,
        if_pos hneg, ApexDevice.returns]
    rw [hresult]
    exact ⟨⟨fun hok => absurd hok (by decide), fun hyes => absurd hyes hno⟩,
      fun hyes => absurd hyes hno⟩
  · have hzero : ¬ (0 : Int) < 0 := by decide
    have hread := memBytes_onStack dev.lastTelem stack telemetrySize (by omega)
    rw [List.take_of_length_le (by omega)] at hread
    have hresult : result = (h.returns apexOk ⟨dev, 0, none, dev.lastTelem⟩,
        some (.ofKernel (memBytes (onStack dev.lastTelem stack) telemetrySize))) := by
      simp only [result, apexGetTelemetry, if_neg hopen, ioctl, hsame, hcopies, if_neg hzero]
      rfl
    rw [hresult, hread]
    exact ⟨⟨fun _ => hyes, fun _ => rfl⟩, fun _ => rfl⟩

/-- A record that the firmware has queued and the RX work has fetched is what the
library returns, until the next record or the close. -/
theorem telemetry_survives (p : SpiProtocol) (dev : Dev) (env env' : Env) (rest : List Byte)
    (es : List (DriverOp × Env)) (stack : Nat → Byte) (h : ApexDevice) (telem : ApexTelemetry)
    (hqueued : (buildResponseFrame cmdTelemetry p.device.telemetry p).1 = 0)
    (hmiso : env.miso = (spiProtocolSendTelemetry p).tx.unread.drop p.tx.used ++ rest)
    (hbufs : env.allocOk 0 = true ∧ env.allocOk 1 = true) (hspi : ¬ env.spiSync < 0)
    (hes : ∀ e ∈ es, Quiescent e) (hfd : 0 ≤ h.fd) :
    let dev' := run driverStep (driverOp .rxWork env dev).dev es
    let result := apexGetTelemetry libIocGetTelemetry stack env' (some h) dev' (some telem)
    (result.1.ret = apexOk ↔ env'.CopiesOut) ∧
      (result.1.ret = apexOk → result.2 = some (measured p.device)) := by
  intro dev' result
  rw [sendTelemetry_queued p hqueued] at hmiso
  have hcached : dev'.lastTelem = p.device.telemetry :=
    (run_lastTelem _ hes).trans
      (rxWork_caches env dev hmiso (telemetry_length p.device) hbufs hspi)
  have hlength : dev'.lastTelem.length = telemetrySize := by
    rw [hcached, telemetry_length]
  obtain ⟨hret, hvalue⟩ := apexGetTelemetry_eq stack env' dev' telem hfd hlength
  refine ⟨hret, ?_⟩
  intro hok
  rw [hvalue (hret.mp hok), hcached, ofKernel_telemetry]

/-- A handler with a negative temperature and a weak signal. -/
def coldProtocol : SpiProtocol :=
  { freshProtocol with
    device :=
      { freshProtocol.device with lastRssiDbmX10 := -905, lastTempCX10 := -15, uptimeMs := 7 } }

theorem telemetry_survives_cold :
    let queued := (spiProtocolSendTelemetry coldProtocol).tx.unread.drop coldProtocol.tx.used
    let dev := run driverStep (driverOp .rxWork (.ok (queued ++ [])) .probed).dev [readOf 16]
    (apexGetTelemetry libIocGetTelemetry (fun _ => 0xAA) (.ok []) (some ⟨3, 0⟩) dev
        (some ⟨0, 0, 0, 0, 0, 0, 0⟩)).2 =
      some ⟨-905, -15, 0, 0, 0, coldProtocol.device.telemetryFlags, 7⟩ := by
  intro queued dev
  have hused : coldProtocol.tx.used = 0 := coldProtocol.tx.used_eq_zero_iff.mpr rfl
  have hlen : coldProtocol.device.telemetry.length ≤ maxPayload := by
    rw [telemetry_length]
    decide
  have hqueued := (buildResponseFrame_ret ⟨cmdTelemetry, coldProtocol.device.telemetry⟩
    coldProtocol hlen).mpr (by simp [Response.Fits, hused])
  have hread : ∀ e ∈ [readOf 16], Quiescent e := by
    intro e he
    rw [List.mem_singleton.mp he]
    exact ⟨nofun, rfl⟩
  have hvalues : measured coldProtocol.device =
      ⟨-905, -15, 0, 0, 0, coldProtocol.device.telemetryFlags, 7⟩ := rfl
  have hspi : ¬ (0 : Int) < 0 := by decide
  have hfd : (0 : Int) ≤ 3 := by decide
  have htrip := telemetry_survives coldProtocol .probed (.ok (queued ++ [])) (.ok []) []
    [readOf 16] (fun _ => 0xAA) ⟨3, 0⟩ ⟨0, 0, 0, 0, 0, 0, 0⟩ hqueued rfl ⟨rfl, rfl⟩ hspi hread hfd
  rw [← hvalues]
  exact htrip.2 (htrip.1.mpr ⟨rfl, rfl, rfl, rfl⟩)

end GhostBlade.Bridge
