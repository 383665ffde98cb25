import GhostBlade.Host.Libapex
import GhostBlade.Host.Monitor
import GhostBlade.Host.Requests

/-!
The other control calls of the user library, with the request numbers it computes from
its own structures, and all of its calls as one interface. A call either leaves the
driver alone or is one of its requests; the requests for the CC1101 and the NFC
controller carry sizes the driver does not know.
-/

namespace GhostBlade.Host

open GhostBlade.Library GhostBlade.Protocol

def libIocSdrTune : BitVec 32 := ioc iocWrite 1 8
def libIocSdrStream : BitVec 32 := ioc iocWrite 2 1
def libIocAntSelect : BitVec 32 := ioc iocWrite 3 1
def libIocMcuReset : BitVec 32 := ioc iocWrite 7 1
def libIocGetStatus : BitVec 32 := ioc iocRead 8 4

/-- `apex_status_t`. -/
structure ApexStatus where
  driverFlags : BitVec 32
  mcuReady : Bool
  mcuInReset : Bool
  spiError : Bool

def ApexStatus.ofFlags (drvFlags : BitVec 32) : ApexStatus where
  driverFlags := drvFlags
  mcuReady := drvFlags &&& 0x01 ≠ 0
  mcuInReset := drvFlags &&& 0x02 ≠ 0
  spiError := drvFlags &&& 0x04 ≠ 0

section

variable (stack : Nat → Byte) (env : Env) (handle : Option ApexDevice) (dev : Dev)

/-- A call that hands a structure to the driver once it has found its arguments valid. -/
def passStructure (valid : Bool) (request : BitVec 32) (bytes : List Byte) : LibResult :=
  match handle with
  | none => .invalidArg handle dev
  | some h =>
    if h.fd < 0 then .invalidArg handle dev
    else if valid = false then .invalidArg handle dev
    else
      let (r, _) := ioctl request (onStack bytes stack) env dev
      if r.ret < 0 then h.returns apexErrIoctlFailed r else h.returns apexOk r

def tuneStruct (freqHz : BitVec 32) (bwKhz gainDbX10 : BitVec 16) : List Byte :=
  leBytes 4 freqHz.toNat ++ leBytes 2 bwKhz.toNat ++ leBytes 2 gainDbX10.toNat

/-- `apex_sdr_tune`; the gain is what `gain_db * 10.0f` has been converted to. -/
def apexSdrTune (freqHz : BitVec 32) (bwKhz gainDbX10 : BitVec 16) : LibResult :=
  passStructure stack env handle dev
    (¬ (freqHz.toNat < 100000 ∨ freqHz.toNat > 3800000000)) libIocSdrTune
    (tuneStruct freqHz bwKhz gainDbX10)

def apexSdrStreamStart : LibResult :=
  passStructure stack env handle dev true libIocSdrStream [1]

def apexSdrStreamStop : LibResult :=
  passStructure stack env handle dev true libIocSdrStream [0]

def apexAntSelect (ant : BitVec 32) : LibResult :=
  passStructure stack env handle dev (¬ ant.toNat > apexAntTerminated) libIocAntSelect
    [ant.setWidth 8]

def apexMcuReset (assert : Bool) : LibResult :=
  passStructure stack env handle dev true libIocMcuReset [if assert then 1 else 0]

def fieldTransact (cmd : Byte) : NfcTransact := ⟨cmd, 0x00, 0, Vector.replicate 256 0⟩

def apexNfcFieldOn : LibResult :=
  (apexNfcTransact libIocNfcTransact stack env handle dev (fieldTransact 0x01)).1

def apexNfcFieldOff : LibResult :=
  (apexNfcTransact libIocNfcTransact stack env handle dev (fieldTransact 0x02)).1

/-- `apex_get_status`, with the caller's structure afterwards. -/
def apexGetStatus (status : Option ApexStatus) : LibResult × Option ApexStatus :=
  match handle, status with
  | some h, some _ =>
      if h.fd < 0 then (.invalidArg handle dev, status)
      else
        let (r, drvFlags) := ioctl libIocGetStatus (onStack (leBytes 4 0) stack) env dev
        if r.ret < 0 then (h.returns apexErrIoctlFailed r, status)
        else (h.returns apexOk r,
          some (.ofFlags (BitVec.ofNat 32 (leValue (memBytes drvFlags 4)))))
  | none, _ | _, none => (.invalidArg handle dev, status)

end

/-! ### All calls -/

inductive LibCall where
  | sdrTune (freqHz : BitVec 32) (bwKhz gainDbX10 : BitVec 16)
  | sdrStreamStart
  | sdrStreamStop
  | antSelect (ant : BitVec 32)
  | cc1101WriteRegs (cfg : Cc1101Config)
  | cc1101SetChannel (rest : Nat → Byte) (channel : Byte)
  | cc1101SetPower (rest : Nat → Byte) (powerDbm : BitVec 8)
  | cc1101ReadRegs (cfg : Cc1101Config)
  | cc1101SetBand (band : Int)
  | nfcTransact (txn : NfcTransact)
  | nfcFieldOn
  | nfcFieldOff
  | nfcPoll (timeoutMs : BitVec 32)
  | getTelemetry (telem : Option ApexTelemetry)
  | getStatus (status : Option ApexStatus)
  | mcuReset (assert : Bool)

namespace LibCall

section

variable (stack : Nat → Byte) (env : Env) (handle : Option ApexDevice) (dev : Dev)

/-- A call, with the library's own request numbers. -/
def result : LibCall → LibResult
  | sdrTune freqHz bwKhz gainDbX10 => apexSdrTune stack env handle dev freqHz bwKhz gainDbX10
  | sdrStreamStart => apexSdrStreamStart stack env handle dev
  | sdrStreamStop => apexSdrStreamStop stack env handle dev
  | antSelect ant => apexAntSelect stack env handle dev ant
  | cc1101WriteRegs cfg => apexCc1101WriteRegs libIocCc1101Cfg stack env handle dev cfg
  | cc1101SetChannel rest channel =>
      apexCc1101SetChannel libIocCc1101Cfg stack env handle dev rest channel
  | cc1101SetPower rest powerDbm =>
      apexCc1101SetPower libIocCc1101Cfg stack env handle dev rest powerDbm
  | cc1101ReadRegs cfg => (apexCc1101ReadRegs libIocCc1101Cfg stack env handle dev cfg).1
  | cc1101SetBand band => apexCc1101SetBand libIocCc1101Cfg stack env handle dev band
  | nfcTransact txn => (apexNfcTransact libIocNfcTransact stack env handle dev txn).1
  | nfcFieldOn => apexNfcFieldOn stack env handle dev
  | nfcFieldOff => apexNfcFieldOff stack env handle dev
  | nfcPoll timeoutMs => apexNfcPoll libIocNfcTransact stack env handle dev timeoutMs
  | getTelemetry telem => (apexGetTelemetry libIocGetTelemetry stack env handle dev telem).1
  | getStatus status => (apexGetStatus stack env handle dev status).1
  | mcuReset assert => apexMcuReset stack env handle dev assert

end

/-- The request and the structure of a call that may change something. -/
def request : LibCall → Option (BitVec 32 × List Byte)
  | sdrTune freqHz bwKhz gainDbX10 => some (libIocSdrTune, tuneStruct freqHz bwKhz gainDbX10)
  | sdrStreamStart => some (libIocSdrStream, [1])
  | sdrStreamStop => some (libIocSdrStream, [0])
  | antSelect ant => some (libIocAntSelect, [ant.setWidth 8])
  | mcuReset assert => some (libIocMcuReset, [if assert then 1 else 0])
  | cc1101WriteRegs _ | cc1101SetChannel .. | cc1101SetPower .. | cc1101ReadRegs _
  | cc1101SetBand _ | nfcTransact _ | nfcFieldOn | nfcFieldOff | nfcPoll _ | getTelemetry _
  | getStatus _ => none

end LibCall

/-! ### What a call does to the driver -/

section

variable {stack : Nat → Byte} {env : Env} {handle : Option ApexDevice} {dev : Dev}

/-- The driver is as before and nothing has been sent. -/
structure LibResult.Silent (r : LibResult) (dev : Dev) : Prop where
  dev : r.dev = dev
  sent : r.sent = none

theorem silent_invalidArg : (LibResult.invalidArg handle dev).Silent dev := ⟨rfl, rfl⟩

theorem silent_returns (h : ApexDevice) (ret : Int) {r : Result} (hdev : r.dev = dev)
    (hsent : r.sent = none) : (h.returns ret r).Silent dev := ⟨hdev, hsent⟩

/-- The library's NFC request is none of the driver's either. -/
theorem libIocNfcTransact_unknown : libIocNfcTransact ∉ [apexIocSdrTune, apexIocSdrStream,
    apexIocAntSelect, apexIocCc1101Cfg, apexIocNfcTransact, apexIocGetTelemetry, apexIocMcuReset,
    apexIocGetStatus, apexIocSgStart, apexIocSgStop, apexIocSgGetStatus] := by
  decide

/-- A request the driver answers without a transfer and leaves its state for. -/
def Unanswered (request : BitVec 32) (env : Env) (dev : Dev) : Prop :=
  ∀ arg, (ioctl request arg env dev).1.ret < 0 ∧ (ioctl request arg env dev).1.dev = dev ∧
    (ioctl request arg env dev).1.sent = none

theorem unanswered {request : BitVec 32} (h : request ∉ [apexIocSdrTune, apexIocSdrStream,
      apexIocAntSelect, apexIocCc1101Cfg, apexIocNfcTransact, apexIocGetTelemetry,
      apexIocMcuReset, apexIocGetStatus, apexIocSgStart, apexIocSgStop, apexIocSgGetStatus]) :
    Unanswered request env dev := by
  intro arg
  obtain ⟨ret, hneg, hdone⟩ : ∃ ret < 0, apexBridgeIoctl request arg env dev = .done dev ret :=
    ioctl_unknown h
  rw [ioctl, hdone]
  exact ⟨hneg, rfl, rfl⟩

theorem writeRegs_silent {request : BitVec 32} (h : Unanswered request env dev)
    (cfg : Cc1101Config) :
    (apexCc1101WriteRegs request stack env handle dev cfg).Silent dev := by
  unfold apexCc1101WriteRegs
  cases handle with
  | none => exact silent_invalidArg
  | some device =>
      dsimp only
      split_ifs
      · exact silent_invalidArg
      · exact silent_invalidArg
      · exact silent_invalidArg
      · exact silent_returns _ _ (h _).2.1 (h _).2.2
      · exact silent_returns _ _ (h _).2.1 (h _).2.2

theorem setBand_silent {request : BitVec 32} (h : Unanswered request env dev) (band : Int) :
    (apexCc1101SetBand request stack env handle dev band).Silent dev := by
  unfold apexCc1101SetBand
  cases handle with
  | none => exact silent_invalidArg
  | some device =>
      dsimp only
      split_ifs
      · exact silent_invalidArg
      · exact silent_invalidArg
      · exact silent_returns _ _ (h _).2.1 (h _).2.2
      · exact silent_returns _ _ (h _).2.1 (h _).2.2

theorem readRegs_silent {request : BitVec 32} (h : Unanswered request env dev)
    (cfg : Cc1101Config) :
    (apexCc1101ReadRegs request stack env handle dev cfg).1.Silent dev := by
  unfold apexCc1101ReadRegs
  cases handle with
  | none => exact silent_invalidArg
  | some device =>
      dsimp only
      split_ifs
      · exact silent_invalidArg
      · exact silent_invalidArg
      · exact silent_invalidArg
      · exact silent_returns _ _ (h _).2.1 (h _).2.2
      · exact silent_returns _ _ (h _).2.1 (h _).2.2

theorem transact_silent {request : BitVec 32} (h : Unanswered request env dev)
    (txn : NfcTransact) :
    (apexNfcTransact request stack env handle dev txn).1.Silent dev := by
  unfold apexNfcTransact
  cases handle with
  | none => exact silent_invalidArg
  | some device =>
      dsimp only
      split_ifs
      · exact silent_invalidArg
      · exact silent_invalidArg
      · exact silent_returns _ _ (h _).2.1 (h _).2.2
      · exact silent_returns _ _ (h _).2.1 (h _).2.2
      · exact silent_returns _ _ (h _).2.1 (h _).2.2

theorem poll_silent {request : BitVec 32} (h : Unanswered request env dev)
    (timeoutMs : BitVec 32) :
    (apexNfcPoll request stack env handle dev timeoutMs).Silent dev := by
  obtain ⟨hdev, hsent⟩ :
      (apexNfcTransact request stack env handle dev (pollTransact timeoutMs)).1.Silent dev :=
    transact_silent h _
  unfold apexNfcPoll
  cases handle with
  | none => exact silent_invalidArg
  | some device =>
      dsimp only
      split_ifs
      · exact silent_invalidArg
      · exact ⟨hdev, hsent⟩
      · exact ⟨hdev, hsent⟩
      · exact ⟨hdev, hsent⟩

/-- A request whose branch only copies out. -/
theorem copyOut_silent {request : BitVec 32} {arg : Nat → Byte} (bytes : List Byte)
    (hswitch : ∀ frame rxBuf,
      ioctlSwitch request arg frame rxBuf env dev = copyOut bytes env dev) :
    (ioctl request arg env dev).1.dev = dev ∧ (ioctl request arg env dev).1.sent = none := by
  have hcopies : (copyOut bytes env dev).dev = dev ∧ (copyOut bytes env dev).sent = none := by
    unfold copyOut
    split_ifs <;> exact ⟨rfl, rfl⟩
  unfold ioctl apexBridgeIoctl Env.kmalloc
  dsimp only
  cases env.allocOk 0 with
  | false =>
      simp only [Bool.false_eq_true, if_false]
      split_ifs <;> exact ⟨rfl, rfl⟩
  | true =>
      cases env.allocOk 1 with
      | false =>
          simp only [Bool.false_eq_true, if_false, if_true]
          split_ifs <;> exact ⟨rfl, rfl⟩
      | true =>
          simp only [if_true, hswitch]
          split_ifs
          · exact ⟨rfl, rfl⟩
          · exact ⟨rfl, rfl⟩
          · exact ⟨rfl, rfl⟩
          · exact ⟨rfl, rfl⟩
          · exact hcopies

theorem getTelemetry_silent (telem : Option ApexTelemetry) :
    (apexGetTelemetry libIocGetTelemetry stack env handle dev telem).1.Silent dev := by
  have hcopy : (ioctl libIocGetTelemetry stack env dev).1.dev = dev ∧
      (ioctl libIocGetTelemetry stack env dev).1.sent = none :=
    copyOut_silent dev.lastTelem fun _ _ => rfl
  unfold apexGetTelemetry
  cases handle with
  | none => exact silent_invalidArg
  | some device =>
      cases telem with
      | none => exact silent_invalidArg
      | some telem =>
          dsimp only
          split_ifs
          · exact silent_invalidArg
          · exact silent_returns _ _ hcopy.1 hcopy.2
          · exact silent_returns _ _ hcopy.1 hcopy.2

theorem getStatus_silent (status : Option ApexStatus) :
    (apexGetStatus stack env handle dev status).1.Silent dev := by
  have hcopy (arg : Nat → Byte) : (ioctl libIocGetStatus arg env dev).1.dev = dev ∧
      (ioctl libIocGetStatus arg env dev).1.sent = none :=
    copyOut_silent (leBytes 4 dev.flags.status) fun _ _ => rfl
  unfold apexGetStatus
  cases handle with
  | none => exact silent_invalidArg
  | some device =>
      cases status with
      | none => exact silent_invalidArg
      | some status =>
          dsimp only
          split_ifs
          · exact silent_invalidArg
          · exact silent_returns _ _ (hcopy _).1 (hcopy _).2
          · exact silent_returns _ _ (hcopy _).1 (hcopy _).2

/-- The call is a request of the driver, and succeeds as that does. -/
structure LibResult.Passes (l : LibResult) (request : BitVec 32) (arg : Nat → Byte) (env : Env)
    (dev : Dev) : Prop where
  device : l.dev = (apexBridgeIoctl request arg env dev).dev
  sent : l.sent = (apexBridgeIoctl request arg env dev).sent
  ok : l.ret = apexOk ↔ 0 ≤ (apexBridgeIoctl request arg env dev).ret

theorem passStructure_cases (valid : Bool) (request : BitVec 32) (bytes : List Byte) :
    ((passStructure stack env handle dev valid request bytes).Silent dev ∧
        (passStructure stack env handle dev valid request bytes).ret ≠ apexOk) ∨
      (valid = true ∧ (passStructure stack env handle dev valid request bytes).Passes request
        (onStack bytes stack) env dev) := by
  have hrefused : apexErrInvalidArg ≠ apexOk := by decide
  unfold passStructure
  cases handle with
  | none => exact .inl ⟨silent_invalidArg, hrefused⟩
  | some device =>
      dsimp only
      by_cases hfd : device.fd < 0
      · rw [if_pos hfd]
        exact .inl ⟨silent_invalidArg, hrefused⟩
      rw [if_neg hfd]
      cases valid with
      | false => exact .inl ⟨silent_invalidArg, hrefused⟩
      | true =>
          refine .inr ⟨rfl, ?_⟩
          rw [if_neg (by simp), ioctl]
          dsimp only
          by_cases hret : (apexBridgeIoctl request (onStack bytes stack) env dev).ret < 0
          · rw [if_pos hret]
            exact ⟨rfl, rfl, iff_of_false (by decide : apexErrIoctlFailed ≠ apexOk) (by omega)⟩
          · rw [if_neg hret]
            exact ⟨rfl, rfl, iff_of_true rfl (by omega)⟩

namespace LibCall

/-- The arguments a call lets through to the driver. -/
def Valid : LibCall → Prop
  | sdrTune freqHz _ _ => 100000 ≤ freqHz.toNat ∧ freqHz.toNat ≤ 3800000000
  | antSelect ant => ant.toNat ≤ apexAntTerminated
  | _ => True

/-- A call leaves the driver alone, and then has changed nothing when it says that it
succeeded, or it is its request. -/
theorem result_cases (c : LibCall) :
    ((c.result stack env handle dev).Silent dev ∧
        ((c.result stack env handle dev).ret = apexOk → c.request = none)) ∨
      ∃ request bytes, c.request = some (request, bytes) ∧ c.Valid ∧
        (c.result stack env handle dev).Passes request (onStack bytes stack) env dev := by
  have hpasses {valid : Bool} {request : BitVec 32} {bytes : List Byte}
      (hresult : c.result stack env handle dev =
        passStructure stack env handle dev valid request bytes)
      (hrequest : c.request = some (request, bytes)) (hvalid : valid = true → c.Valid) :
      ((c.result stack env handle dev).Silent dev ∧
          ((c.result stack env handle dev).ret = apexOk → c.request = none)) ∨
        ∃ request bytes, c.request = some (request, bytes) ∧ c.Valid ∧
          (c.result stack env handle dev).Passes request (onStack bytes stack) env dev := by
    rw [hresult]
    rcases passStructure_cases valid request bytes with ⟨hsilent, hret⟩ | ⟨hyes, hpass⟩
    · exact .inl ⟨hsilent, fun hok => absurd hok hret⟩
    · exact .inr ⟨request, bytes, hrequest, hvalid hyes, hpass⟩
  have hcc1101 : Unanswered libIocCc1101Cfg env dev := unanswered libIocCc1101Cfg_unknown
  have hnfc : Unanswered libIocNfcTransact env dev := unanswered libIocNfcTransact_unknown
  cases c with
  | sdrTune freqHz bwKhz gainDbX10 =>
      refine hpasses rfl rfl fun hvalid => ?_
      have hrange := of_decide_eq_true hvalid
      exact ⟨by omega, by omega⟩
  | sdrStreamStart => exact hpasses rfl rfl fun _ => trivial
  | sdrStreamStop => exact hpasses rfl rfl fun _ => trivial
  | antSelect ant =>
      exact hpasses rfl rfl fun hvalid => not_lt.mp (of_decide_eq_true hvalid)
  | mcuReset assert => exact hpasses rfl rfl fun _ => trivial
  | cc1101WriteRegs cfg => exact .inl ⟨writeRegs_silent hcc1101 cfg, fun _ => rfl⟩
  | cc1101SetChannel | cc1101SetPower =>
      exact .inl ⟨writeRegs_silent hcc1101 _, fun _ => rfl⟩
  | cc1101ReadRegs cfg => exact .inl ⟨readRegs_silent hcc1101 cfg, fun _ => rfl⟩
  | cc1101SetBand band => exact .inl ⟨setBand_silent hcc1101 band, fun _ => rfl⟩
  | nfcTransact txn => exact .inl ⟨transact_silent hnfc txn, fun _ => rfl⟩
  | nfcFieldOn | nfcFieldOff => exact .inl ⟨transact_silent hnfc _, fun _ => rfl⟩
  | nfcPoll timeoutMs => exact .inl ⟨poll_silent hnfc timeoutMs, fun _ => rfl⟩
  | getTelemetry telem => exact .inl ⟨getTelemetry_silent telem, fun _ => rfl⟩
  | getStatus status => exact .inl ⟨getStatus_silent status, fun _ => rfl⟩

end LibCall

end

end GhostBlade.Host
