import GhostBlade.Host.IqRead
import GhostBlade.Host.Transfers

/-!
The calls of the user library (`libapex.c`) that configure the CC1101, talk to
the NFC controller and fetch the telemetry. Each has the driver's structure on
its stack and passes it to `ioctl`; the request number is a parameter, since the library
computes it from structures of its own. `stack` is what the part of the
structure the library does not fill in holds.
-/

namespace GhostBlade.Host

open GhostBlade.Library GhostBlade.Protocol

def apexErrIoctlFailed : Int := -4
def apexErrTimeout : Int := -5

/-- The library's own request numbers: its structures have room for the data. -/
def libIocCc1101Cfg : BitVec 32 := ioc iocWrite 4 66
def libIocNfcTransact : BitVec 32 := ioc iocWrite 5 260
def libIocGetTelemetry : BitVec 32 := ioc iocRead 6 16

structure ApexDevice where
  fd : Int
  lastError : Int

structure Cc1101Config where
  regAddr : Byte
  regLen : Byte
  data : Vector Byte 64

structure NfcTransact where
  cmd : Byte
  flags : Byte
  dataLen : BitVec 16
  data : Vector Byte 256

/-- `apex_telemetry_t`. -/
structure ApexTelemetry where
  rssiDbmX10 : Int
  tempCX10 : Int
  vbatMv : Nat
  cc1101RssiX10 : Int
  nfcFieldMv : Nat
  flags : BitVec 16
  uptimeMs : Nat

/-- A field of a packed structure. -/
def structField (w : Nat) (bytes : List Byte) (offset : Nat) : BitVec w :=
  BitVec.ofNat w (leValue ((bytes.drop offset).take (w / 8)))

/-- The conversion from `struct kernel_telemetry`, with its casts to `int16_t`. -/
def ApexTelemetry.ofKernel (ktelem : List Byte) : ApexTelemetry where
  rssiDbmX10 := (structField 16 ktelem 0).toInt
  tempCX10 := (structField 16 ktelem 2).toInt
  vbatMv := (structField 16 ktelem 4).toNat
  cc1101RssiX10 := (structField 16 ktelem 6).toInt
  nfcFieldMv := (structField 16 ktelem 8).toNat
  flags := structField 16 ktelem 10
  uptimeMs := (structField 32 ktelem 12).toNat

/-- What a library call returns and what the driver has sent for it. -/
structure LibResult where
  ret : Int
  handle : Option ApexDevice
  dev : Dev
  sent : Option (List Byte)

/-- The driver's result, and the caller's memory with what it copied out. -/
def ioctl (request : BitVec 32) (arg : Nat → Byte) (env : Env) (dev : Dev) :
    Result × (Nat → Byte) :=
  let r := apexBridgeIoctl request arg env dev
  (r, fun i => r.out.getD i (arg i))

/-- A structure on the stack whose first bytes are filled in. -/
def onStack (bytes : List Byte) (stack : Nat → Byte) : Nat → Byte :=
  fun i => bytes.getD i (stack i)

/-- The first bytes of a structure on the stack are those filled in. -/
theorem memBytes_onStack (bytes : List Byte) (stack : Nat → Byte) (n : Nat)
    (h : n ≤ bytes.length) : memBytes (onStack bytes stack) n = bytes.take n := by
  apply List.ext_getElem
  · simp [h]
  · intro i hi hi'
    have hlt : i < bytes.length := by
      rw [memBytes_length] at hi
      omega
    simp [memBytes, onStack, hlt]

def LibResult.invalidArg (handle : Option ApexDevice) (dev : Dev) : LibResult :=
  ⟨apexErrInvalidArg, handle, dev, none⟩

/-- The code is also kept as the handle's last error. -/
def ApexDevice.returns (h : ApexDevice) (ret : Int) (r : Result) : LibResult :=
  ⟨ret, some { h with lastError := ret }, r.dev, r.sent⟩

section

variable (request : BitVec 32) (stack : Nat → Byte) (env : Env) (handle : Option ApexDevice)
  (dev : Dev)

def apexCc1101WriteRegs (cfg : Cc1101Config) : LibResult :=
  match handle with
  | none => .invalidArg handle dev
  | some h =>
    if h.fd < 0 then .invalidArg handle dev
    else if cfg.regLen = 0 ∨ cfg.regLen > 64#8 then .invalidArg handle dev
    else if cfg.regAddr > 0x3D#8 then .invalidArg handle dev
    else
      let kcmd := onStack ([cfg.regAddr, cfg.regLen] ++ cfg.data.toList.take cfg.regLen.toNat) stack
      let (r, _) := ioctl request kcmd env dev
      if r.ret < 0 then h.returns apexErrIoctlFailed r else h.returns apexOk r

/-- A configuration of one register; `rest` is the rest of its data array. -/
def oneRegister (regAddr value : Byte) (rest : Nat → Byte) : Cc1101Config :=
  ⟨regAddr, 1, Vector.ofFn fun i => if i.val = 0 then value else rest i⟩

def apexCc1101SetChannel (rest : Nat → Byte) (channel : Byte) : LibResult :=
  apexCc1101WriteRegs request stack env handle dev (oneRegister 0x0A channel rest)

/-- The PA setting for a power in dBm. -/
def paVal (powerDbm : BitVec 8) : Byte :=
  if powerDbm.toInt ≤ -30 then 0x00
  else if powerDbm.toInt ≤ -20 then 0x01
  else if powerDbm.toInt ≤ -15 then 0x02
  else if powerDbm.toInt ≤ -10 then 0x34
  else if powerDbm.toInt ≤ 0 then 0x60
  else if powerDbm.toInt ≤ 5 then 0x84
  else if powerDbm.toInt ≤ 7 then 0xA0
  else 0xC0

def apexCc1101SetPower (rest : Nat → Byte) (powerDbm : BitVec 8) : LibResult :=
  apexCc1101WriteRegs request stack env handle dev (oneRegister 0x22 (paVal powerDbm) rest)

/-- The data of a band switch: the band again, and zeros. -/
def bandData (band : Int) : List Byte := BitVec.ofInt 8 band :: List.replicate 63 0

def apexCc1101SetBand (band : Int) : LibResult :=
  match handle with
  | none => .invalidArg handle dev
  | some h =>
    if h.fd < 0 then .invalidArg handle dev
    else if band < 0 ∨ band > 2 then .invalidArg handle dev
    else
      let kcmd := onStack ([0xFF#8, BitVec.ofInt 8 band] ++ bandData band) stack
      let (r, _) := ioctl request kcmd env dev
      if r.ret < 0 then h.returns apexErrIoctlFailed r else h.returns apexOk r

/-- `apex_cc1101_read_regs`, with the caller's configuration afterwards. -/
def apexCc1101ReadRegs (cfg : Cc1101Config) : LibResult × Cc1101Config :=
  match handle with
  | none => (.invalidArg handle dev, cfg)
  | some h =>
    if h.fd < 0 then (.invalidArg handle dev, cfg)
    else if cfg.regLen = 0 ∨ cfg.regLen > 64#8 then (.invalidArg handle dev, cfg)
    else if cfg.regAddr > 0x3D#8 then (.invalidArg handle dev, cfg)
    else
      let kcmd := onStack ([cfg.regAddr, cfg.regLen] ++ List.replicate 64 0) stack
      let (r, kcmd) := ioctl request kcmd env dev
      if r.ret < 0 then (h.returns apexErrIoctlFailed r, cfg)
      else
        (h.returns apexOk r,
          { cfg with
            data := Vector.ofFn fun i =>
              if i.val < cfg.regLen.toNat then kcmd (2 + i) else cfg.data.get i })

/-- `apex_nfc_transact`, with the caller's transaction afterwards. -/
def apexNfcTransact (txn : NfcTransact) : LibResult × NfcTransact :=
  match handle with
  | none => (.invalidArg handle dev, txn)
  | some h =>
    if h.fd < 0 then (.invalidArg handle dev, txn)
    else if txn.dataLen > 256#16 then (.invalidArg handle dev, txn)
    else
      let ktxn := onStack ([txn.cmd, txn.flags] ++ leBytes 2 txn.dataLen.toNat ++
        txn.data.toList.take txn.dataLen.toNat) stack
      let (r, ktxn) := ioctl request ktxn env dev
      if r.ret < 0 then (h.returns apexErrIoctlFailed r, txn)
      else
        let respLen := leValue [ktxn 2, ktxn 3]
        if respLen > 0 then
          let copyLen := min (min respLen 256) 256
          (h.returns apexOk r,
            { txn with
              dataLen := BitVec.ofNat 16 copyLen
              data := Vector.ofFn fun i =>
                if i.val < copyLen then ktxn (4 + i) else txn.data.get i })
        else (h.returns apexOk r, { txn with dataLen := 0 })

/-- The request of `apex_nfc_poll`. -/
def pollTransact (timeoutMs : BitVec 32) : NfcTransact :=
  ⟨0x03, if timeoutMs > 0#32 then 0x01 else 0x00, 0, Vector.replicate 256 0⟩

/-- `apex_get_telemetry`, with the caller's structure afterwards; `none` is the
null pointer. -/
def apexGetTelemetry (telem : Option ApexTelemetry) : LibResult × Option ApexTelemetry :=
  match handle, telem with
  | some h, some _ =>
      if h.fd < 0 then (.invalidArg handle dev, telem)
      else
        let (r, ktelem) := ioctl request stack env dev
        if r.ret < 0 then (h.returns apexErrIoctlFailed r, telem)
        else (h.returns apexOk r, some (.ofKernel (memBytes ktelem telemetrySize)))
  | none, _ | _, none => (.invalidArg handle dev, telem)

def apexNfcPoll (timeoutMs : BitVec 32) : LibResult :=
  match handle with
  | none => .invalidArg handle dev
  | some h =>
    if h.fd < 0 then .invalidArg handle dev
    else
      let (r, txn) := apexNfcTransact request stack env handle dev (pollTransact timeoutMs)
      if r.ret ≠ apexOk then { r with ret := (r.handle.getD h).lastError }
      else if txn.dataLen > 0#16 then r
      else { r with ret := apexErrTimeout }

end

/-- Every allocation, check and user copy of a request with data succeeds. -/
structure Env.Serves (env : Env) : Prop where
  access : env.accessOk = true
  frame : env.allocOk 0 = true
  rxBuf : env.allocOk 1 = true
  buf : env.allocOk 2 = true
  head : env.userCopy 0 = true
  data : env.userCopy 1 = true

/-- What is tested before the switch of `apex_bridge_ioctl`. -/
theorem apexBridgeIoctl_switch {request : BitVec 32} {env : Env} (arg : Nat → Byte) (dev : Dev)
    (hmagic : (request >>> 8) &&& 0xFF#32 = 0x41#32)
    (hnr : 1 ≤ (request &&& 0xFF#32).toNat ∧ (request &&& 0xFF#32).toNat ≤ 11)
    (henv : env.Serves) :
    apexBridgeIoctl request arg env dev =
      ioctlSwitch request arg (memBytes (env.heap 0) frameSizeMax)
        (memBytes (env.heap 1) frameSizeMax) env dev := by
  have haccess : ¬ env.accessOk = false := by simp [henv.access]
  unfold apexBridgeIoctl Env.kmalloc
  rw [if_neg (not_not.mpr hmagic), if_neg (by omega), if_neg (fun h => haccess h.2),
    if_neg (fun h => haccess h.2)]
  simp only [henv.frame, henv.rxBuf, if_true]

section

variable {request : BitVec 32} {arg : Nat → Byte} {env : Env} {dev : Dev}

/-- A CC1101 request with a legal length is transferred as it is. -/
theorem cc1101_served (henv : env.Serves) (hlen : 0 < (arg 1).toNat)
    (hmax : (arg 1).toNat ≤ 64) :
    apexBridgeIoctl apexIocCc1101Cfg arg env dev =
      requestResult apexCmdCc1101Cfg (memBytes arg (2 + (arg 1).toNat)) env dev := by
  have hregs : ¬ ((arg 1).toNat = 0 ∨ (arg 1).toNat > apexCc1101MaxRegLen) := by
    have hmax' : apexCc1101MaxRegLen = 64 := rfl
    omega
  have hfit : (memBytes arg (2 + (arg 1).toNat)).length ≤ maxPayload := by
    have hpay : maxPayload = 4092 := rfl
    rw [memBytes_length]
    omega
  have hswitch (frame rxBuf : List Byte) : ioctlSwitch apexIocCc1101Cfg arg frame rxBuf env dev =
      ioctlCc1101Cfg arg frame rxBuf env dev := by
    have htune : apexIocCc1101Cfg ≠ apexIocSdrTune := by decide
    have hstream : apexIocCc1101Cfg ≠ apexIocSdrStream := by decide
    have hant : apexIocCc1101Cfg ≠ apexIocAntSelect := by decide
    unfold ioctlSwitch
    rw [if_neg htune, if_neg hstream, if_neg hant, if_pos rfl]
  rw [apexBridgeIoctl_switch arg dev (by decide) (by decide) henv, hswitch]
  unfold ioctlCc1101Cfg
  rw [if_neg (by simp [henv.head])]
  dsimp only
  rw [if_neg hregs, if_neg (by simp [henv.buf]), if_neg (by simp [henv.data])]
  exact buildAndXfer_eq _ _ _ _ env dev hfit (memBytes_length _ _) (memBytes_length _ _)

/-- An NFC request with a legal length is transferred as it is. -/
theorem nfc_served (henv : env.Serves) (hlen : leValue [arg 2, arg 3] ≤ 256) :
    apexBridgeIoctl apexIocNfcTransact arg env dev =
      requestResult apexCmdNfcTransact (memBytes arg (4 + leValue [arg 2, arg 3])) env dev := by
  have hdata : ¬ leValue [arg 2, arg 3] > apexNfcMaxDataLen := by
    have hmax : apexNfcMaxDataLen = 256 := rfl
    omega
  have hfit : (memBytes arg (4 + leValue [arg 2, arg 3])).length ≤ maxPayload := by
    have hpay : maxPayload = 4092 := rfl
    rw [memBytes_length]
    omega
  have hswitch (frame rxBuf : List Byte) :
      ioctlSwitch apexIocNfcTransact arg frame rxBuf env dev =
        ioctlNfcTransact arg frame rxBuf env dev := by
    have htune : apexIocNfcTransact ≠ apexIocSdrTune := by decide
    have hstream : apexIocNfcTransact ≠ apexIocSdrStream := by decide
    have hant : apexIocNfcTransact ≠ apexIocAntSelect := by decide
    have hcc : apexIocNfcTransact ≠ apexIocCc1101Cfg := by decide
    unfold ioctlSwitch
    rw [if_neg htune, if_neg hstream, if_neg hant, if_neg hcc, if_pos rfl]
  rw [apexBridgeIoctl_switch arg dev (by decide) (by decide) henv, hswitch]
  unfold ioctlNfcTransact
  rw [if_neg (by simp [henv.head])]
  dsimp only
  rw [if_neg hdata, if_neg (by simp [henv.buf]), if_neg (fun h => by simp [henv.data] at h)]
  exact buildAndXfer_eq _ _ _ _ env dev hfit (memBytes_length _ _) (memBytes_length _ _)

/-- A request that copies nothing to the user leaves the structure as it is. -/
theorem ioctl_request {cmd : Byte} {payload : List Byte}
    (h : apexBridgeIoctl request arg env dev = requestResult cmd payload env dev) :
    ioctl request arg env dev = (requestResult cmd payload env dev, arg) := by
  unfold ioctl
  rw [h]
  rfl

/-- A request that does not fail gets past a test behind which it gives up. -/
theorem done_nonneg {c : Prop} [Decidable c] {ret : Int} {r : Result} (hret : ret < 0)
    (h : 0 ≤ (if c then .done dev ret else r).ret) : ¬ c ∧ 0 ≤ r.ret := by
  by_cases hc : c
  · rw [if_pos hc] at h
    exact absurd h (not_le.mpr hret)
  · exact ⟨hc, by rwa [if_neg hc] at h⟩

theorem ioctl_nonneg (hdir : (request >>> 30).toNat &&& iocWrite ≠ 0)
    (h : 0 ≤ (apexBridgeIoctl request arg env dev).ret) :
    env.accessOk = true ∧ env.allocOk 0 = true ∧ env.allocOk 1 = true ∧
      ∃ frame rxBuf, 0 ≤ (ioctlSwitch request arg frame rxBuf env dev).ret := by
  unfold apexBridgeIoctl Env.kmalloc at h
  obtain ⟨_, h⟩ := done_nonneg (by decide) h
  obtain ⟨_, h⟩ := done_nonneg (by decide) h
  obtain ⟨haccess, h⟩ := done_nonneg (by decide) h
  obtain ⟨_, h⟩ := done_nonneg (by decide) h
  have hnomem : ¬ (0 : Int) ≤ -enomem := by decide
  refine ⟨by simpa using fun hno => haccess ⟨hdir, hno⟩, ?_⟩
  cases h0 : env.allocOk 0 with
  | false =>
      simp only [h0, Bool.false_eq_true, if_false] at h
      exact absurd h hnomem
  | true =>
      cases h1 : env.allocOk 1 with
      | false =>
          simp only [h0, h1, Bool.false_eq_true, if_false, if_true] at h
          exact absurd h hnomem
      | true =>
          simp only [h0, h1, if_true] at h
          exact ⟨rfl, rfl, _, _, h⟩

/-- A CC1101 request that does not fail has been served and transferred. -/
theorem cc1101_nonneg (hlen : 0 < (arg 1).toNat) (hmax : (arg 1).toNat ≤ 64)
    (h : 0 ≤ (apexBridgeIoctl apexIocCc1101Cfg arg env dev).ret) :
    env.Serves ∧ ¬ env.spiSync < 0 := by
  obtain ⟨haccess, h0, h1, frame, rxBuf, hswitch⟩ := ioctl_nonneg (by decide) h
  have htune : apexIocCc1101Cfg ≠ apexIocSdrTune := by decide
  have hstream : apexIocCc1101Cfg ≠ apexIocSdrStream := by decide
  have hant : apexIocCc1101Cfg ≠ apexIocAntSelect := by decide
  unfold ioctlSwitch at hswitch
  rw [if_neg htune, if_neg hstream, if_neg hant, if_pos rfl] at hswitch
  obtain ⟨hhead, hswitch⟩ := done_nonneg (by decide) hswitch
  obtain ⟨_, hswitch⟩ := done_nonneg (by decide) hswitch
  obtain ⟨hbuf, hswitch⟩ := done_nonneg (by decide) hswitch
  obtain ⟨hdata, _⟩ := done_nonneg (by decide) hswitch
  have henv : env.Serves :=
    ⟨haccess, h0, h1, by simpa using hbuf, by simpa using hhead, by simpa using hdata⟩
  refine ⟨henv, ?_⟩
  intro hspi
  rw [cc1101_served henv hlen hmax] at h
  simp only [requestResult, if_pos hspi] at h
  omega

/-- A request number the driver does not know. -/
theorem ioctl_unknown (h : request ∉ [apexIocSdrTune, apexIocSdrStream, apexIocAntSelect,
      apexIocCc1101Cfg, apexIocNfcTransact, apexIocGetTelemetry, apexIocMcuReset,
      apexIocGetStatus, apexIocSgStart, apexIocSgStop, apexIocSgGetStatus]) :
    ∃ ret < 0, apexBridgeIoctl request arg env dev = .done dev ret := by
  have hswitch (frame rxBuf : List Byte) :
      ioctlSwitch request arg frame rxBuf env dev = .done dev (-enotty) := by
    simp only [List.mem_cons, List.not_mem_nil, or_false, not_or] at h
    obtain ⟨h1, h2, h3, h4, h5, h6, h7, h8, h9, h10, h11⟩ := h
    unfold ioctlSwitch
    rw [if_neg h1, if_neg h2, if_neg h3, if_neg h4, if_neg h5, if_neg h6, if_neg h7, if_neg h8,
      if_neg h9, if_neg h10, if_neg h11]
  unfold apexBridgeIoctl Env.kmalloc
  dsimp only
  split
  · exact ⟨_, by decide, rfl⟩
  split
  · exact ⟨_, by decide, rfl⟩
  split
  · exact ⟨_, by decide, rfl⟩
  split
  · exact ⟨_, by decide, rfl⟩
  cases h0 : env.allocOk 0 with
  | false => exact ⟨-enomem, by decide, rfl⟩
  | true =>
      cases h1 : env.allocOk 1 with
      | false => exact ⟨-enomem, by decide, rfl⟩
      | true => exact ⟨-enotty, by decide, hswitch _ _⟩

end

/-- What the driver has to be granted for a request that only copies out. -/
def Env.CopiesOut (env : Env) : Prop :=
  env.accessOk = true ∧ env.allocOk 0 = true ∧ env.allocOk 1 = true ∧ env.userCopy 0 = true

/-- The telemetry request fails, or copies out the cached payload. -/
theorem getTelemetry_cases (arg : Nat → Byte) (env : Env) (dev : Dev) :
    (¬ env.CopiesOut ∧ ∃ ret < 0, apexBridgeIoctl apexIocGetTelemetry arg env dev =
        .done dev ret) ∨
      (env.CopiesOut ∧ apexBridgeIoctl apexIocGetTelemetry arg env dev =
        ⟨dev, 0, none, dev.lastTelem⟩) := by
  have hmagic : ¬ (apexIocGetTelemetry >>> 8) &&& 0xFF#32 ≠ 0x41#32 := by decide
  have hnr : ¬ ((apexIocGetTelemetry &&& 0xFF#32).toNat < 1 ∨
      (apexIocGetTelemetry &&& 0xFF#32).toNat > 11) := by decide
  have hwrite : ¬ (apexIocGetTelemetry >>> 30).toNat &&& iocWrite ≠ 0 := by decide
  have hread : (apexIocGetTelemetry >>> 30).toNat &&& iocRead ≠ 0 := by decide
  have hfault : -efault < 0 := by decide
  have hnomem : -enomem < 0 := by decide
  have hswitch (frame rxBuf : List Byte) :
      ioctlSwitch apexIocGetTelemetry arg frame rxBuf env dev = copyOut dev.lastTelem env dev := rfl
  unfold apexBridgeIoctl Env.CopiesOut Env.kmalloc
  simp only [if_neg hmagic, if_neg hnr, hwrite, hread, hswitch, ne_eq, not_false_eq_true,
    true_and, false_and, if_false, copyOut]
  cases env.accessOk with
  | false => exact .inl ⟨by simp, _, hfault, rfl⟩
  | true =>
      cases env.allocOk 0 with
      | false => exact .inl ⟨by simp, _, hnomem, rfl⟩
      | true =>
          cases env.allocOk 1 with
          | false => exact .inl ⟨by simp, _, hnomem, rfl⟩
          | true =>
              cases env.userCopy 0 with
              | false => exact .inl ⟨by simp, _, hfault, rfl⟩
              | true => exact .inr ⟨by simp, rfl⟩

/-- The library's CC1101 request is none of the driver's: its size field says 66
bytes, the driver's 2. -/
theorem libIocCc1101Cfg_unknown : libIocCc1101Cfg ∉ [apexIocSdrTune, apexIocSdrStream,
    apexIocAntSelect, apexIocCc1101Cfg, apexIocNfcTransact, apexIocGetTelemetry, apexIocMcuReset,
    apexIocGetStatus, apexIocSgStart, apexIocSgStop, apexIocSgGetStatus] := by
  decide

end GhostBlade.Host
