import GhostBlade.Bridge.TelemetryTrip
import GhostBlade.Host.Requests
import GhostBlade.Host.SpiErrors
import GhostBlade.Library.Numerals

/-!
The attributes of the driver under `sysfs`. Each is a line of text with one number or
one word, printed from the state of the device. What a reader gets out of the line is
a matter of the run so far: the last telemetry the RX work has taken, the failed
transfers, how often bit 0 or 1 of the telemetry's flags has come up, which the driver
takes for a brownout; and it is what the status requests copy out.
-/

namespace GhostBlade.Bridge

open GhostBlade.Library GhostBlade.Protocol GhostBlade.Host GhostBlade.Firmware

/-- The page behind `buf`. -/
def pageSize : Nat := 4096

/-- What a `show` function returns, and the text it leaves. -/
abbrev Shown := Int × List Byte

/-- A `show` function; the driver's data may be gone. -/
def showLine (text : Dev → List Byte) : Option Dev → Shown
  | none => (-enodev, [])
  | some adev => ((text adev).length, text adev)

def showNumber (c : Conversion) (value : Dev → Int) : Option Dev → Shown :=
  showLine fun adev => c.line (value adev)

/-! ### The cached telemetry -/

def rssiDbmX10Show := showNumber .signed fun adev => (structField 16 adev.lastTelem 0).toInt

def tempCX10Show := showNumber .signed fun adev => (structField 16 adev.lastTelem 2).toInt

def vbatMvShow := showNumber .unsigned fun adev => (structField 16 adev.lastTelem 4).toNat

def cc1101RssiX10Show := showNumber .signed fun adev => (structField 16 adev.lastTelem 6).toInt

def nfcFieldMvShow := showNumber .unsigned fun adev => (structField 16 adev.lastTelem 8).toNat

def mcuFlagsShow := showNumber (.hex 4) fun adev => (structField 16 adev.lastTelem 10).toNat

def uptimeMsShow := showNumber .unsigned fun adev => (structField 32 adev.lastTelem 12).toNat

/-! ### The driver -/

def driverStatusShow := showNumber (.hex 8) fun adev => adev.flags.status

def spiErrorsShow := showNumber .unsigned fun adev => adev.spiErrCount.toNat

def rxFifoCountShow := showNumber .unsigned fun adev => adev.rxFifo.items.length

def txFifoCountShow := showNumber .unsigned fun adev => adev.txFifo.items.length

def brownoutCountShow := showNumber .unsigned fun adev => adev.brownoutCount.toNat

def lowBatteryShow :=
  showNumber .unsigned fun adev => (if adev.flags.lowBattery then 1 else 0 : ℕ)

/-! ### The scatter-gather engine -/

/-- The words of `sg_state_show`. -/
def stateStr : SgState → List Byte
  | .idle => [0x69, 0x64, 0x6C, 0x65]
  | .running => [0x72, 0x75, 0x6E, 0x6E, 0x69, 0x6E, 0x67]
  | .error => [0x65, 0x72, 0x72, 0x6F, 0x72]

def sgStateShow := showLine fun adev => stateStr adev.sgEngine.state ++ [newline]

def sgTotalBytesShow := showNumber .unsigned fun adev => adev.sgEngine.totalTransferred.toNat

def sgOverrunsShow := showNumber .unsigned fun adev => adev.sgEngine.overruns.toNat

def sgErrorsShow := showNumber .unsigned fun adev => adev.sgEngine.errors.toNat

def sgFramesRxShow := showNumber .unsigned fun adev => adev.sgEngine.framesRx.toNat

def sgBufCountShow := showNumber .unsigned fun adev => adev.sgEngine.bufCount.toNat

def sgBufSizeShow := showNumber .unsigned fun adev => adev.sgEngine.bufSize.toNat

def sgFramesCrcErrShow := showNumber .unsigned fun adev => adev.sgEngine.framesCrcErr.toNat

/-! ### The attributes -/

/-- `apex_bridge_attrs`. -/
inductive Attribute where
  | rssiDbmX10
  | tempCX10
  | vbatMv
  | cc1101RssiX10
  | nfcFieldMv
  | mcuFlags
  | uptimeMs
  | driverStatus
  | spiErrors
  | rxFifoCount
  | txFifoCount
  | brownoutCount
  | lowBattery
  | sgState
  | sgTotalBytes
  | sgOverruns
  | sgErrors
  | sgFramesRx
  | sgBufCount
  | sgBufSize
  | sgFramesCrcErr

def Attribute.shows : Attribute → Option Dev → Shown
  | rssiDbmX10 => rssiDbmX10Show
  | tempCX10 => tempCX10Show
  | vbatMv => vbatMvShow
  | cc1101RssiX10 => cc1101RssiX10Show
  | nfcFieldMv => nfcFieldMvShow
  | mcuFlags => mcuFlagsShow
  | uptimeMs => uptimeMsShow
  | driverStatus => driverStatusShow
  | spiErrors => spiErrorsShow
  | rxFifoCount => rxFifoCountShow
  | txFifoCount => txFifoCountShow
  | brownoutCount => brownoutCountShow
  | lowBattery => lowBatteryShow
  | sgState => sgStateShow
  | sgTotalBytes => sgTotalBytesShow
  | sgOverruns => sgOverrunsShow
  | sgErrors => sgErrorsShow
  | sgFramesRx => sgFramesRxShow
  | sgBufCount => sgBufCountShow
  | sgBufSize => sgBufSizeShow
  | sgFramesCrcErr => sgFramesCrcErrShow

/-! ### The readers -/

/-- The number behind the word of a state. -/
def readState (text : List Byte) : Option Int :=
  [SgState.idle, .running, .error].findSome? fun state =>
    if text = stateStr state ++ [newline] then some (state.code : Int) else none

/-- How a reader takes the line of an attribute. -/
def Attribute.reads : Attribute → List Byte → Option Int
  | rssiDbmX10 | tempCX10 | cc1101RssiX10 => Conversion.signed.readLine
  | mcuFlags => (Conversion.hex 4).readLine
  | driverStatus => (Conversion.hex 8).readLine
  | sgState => readState
  | _ => Conversion.unsigned.readLine

/-- The request that copies out the same number, and where it stands in the copy. -/
def Attribute.request : Attribute → Option (BitVec 32 × (List Byte → Int))
  | rssiDbmX10 => some (apexIocGetTelemetry, fun out => (ApexTelemetry.ofKernel out).rssiDbmX10)
  | tempCX10 => some (apexIocGetTelemetry, fun out => (ApexTelemetry.ofKernel out).tempCX10)
  | vbatMv => some (apexIocGetTelemetry, fun out => (ApexTelemetry.ofKernel out).vbatMv)
  | cc1101RssiX10 =>
      some (apexIocGetTelemetry, fun out => (ApexTelemetry.ofKernel out).cc1101RssiX10)
  | nfcFieldMv => some (apexIocGetTelemetry, fun out => (ApexTelemetry.ofKernel out).nfcFieldMv)
  | mcuFlags => some (apexIocGetTelemetry, fun out => (ApexTelemetry.ofKernel out).flags.toNat)
  | uptimeMs => some (apexIocGetTelemetry, fun out => (ApexTelemetry.ofKernel out).uptimeMs)
  | driverStatus => some (apexIocGetStatus, fun out => (structField 32 out 0).toNat)
  | sgState => some (apexIocSgGetStatus, fun out => (structField 32 out 0).toNat)
  | sgBufCount => some (apexIocSgGetStatus, fun out => (structField 32 out 4).toNat)
  | sgBufSize => some (apexIocSgGetStatus, fun out => (structField 32 out 8).toNat)
  | sgTotalBytes => some (apexIocSgGetStatus, fun out => (structField 64 out 16).toNat)
  | sgOverruns => some (apexIocSgGetStatus, fun out => (structField 32 out 24).toNat)
  | sgErrors => some (apexIocSgGetStatus, fun out => (structField 32 out 28).toNat)
  | sgFramesRx => some (apexIocSgGetStatus, fun out => (structField 32 out 32).toNat)
  | sgFramesCrcErr => some (apexIocSgGetStatus, fun out => (structField 32 out 36).toNat)
  | spiErrors | rxFifoCount | txFifoCount | brownoutCount | lowBattery => none

/-! ### What a run has to tell -/

/-- The telemetry that the RX work has taken last; zeros before, and behind a close. -/
def cachedRecord (es : List (DriverOp × Env)) : List Byte :=
  es.foldl (fun record e =>
    match e.1 with
    | .release => List.replicate telemetrySize 0
    | op => (telemetryTaken op e.2).getD record) (List.replicate telemetrySize 0)

/-- The numbers of a run, those of the telemetry and of the accounts told by what has
happened in it. What the driver counts as brownouts are the rises of its test mask, flag
bits 0 and 1, over all telemetry taken. -/
def Attribute.value (es : List (DriverOp × Env)) (a : Attribute) : Int :=
  let telem := ApexTelemetry.ofKernel (cachedRecord es)
  let bits := (telemetryWords es).map testedBits
  let adev := run driverStep .probed es
  match a with
  | rssiDbmX10 => telem.rssiDbmX10
  | tempCX10 => telem.tempCX10
  | vbatMv => telem.vbatMv
  | cc1101RssiX10 => telem.cc1101RssiX10
  | nfcFieldMv => telem.nfcFieldMv
  | mcuFlags => telem.flags.toNat
  | uptimeMs => telem.uptimeMs
  | driverStatus => adev.flags.status
  | spiErrors => ((run SpiErrors.step .start es).failed % 2 ^ 32 : ℕ)
  | rxFifoCount => adev.rxFifo.items.length
  | txFifoCount => 0
  | brownoutCount => (rises false bits % 2 ^ 32 : ℕ)
  | lowBattery => (if bits.getLastD false then 1 else 0 : ℕ)
  | sgState => adev.sgEngine.state.code
  | sgTotalBytes => adev.sgEngine.totalTransferred.toNat
  | sgOverruns => adev.sgEngine.overruns.toNat
  | sgErrors => adev.sgEngine.errors.toNat
  | sgFramesRx => adev.sgEngine.framesRx.toNat
  | sgBufCount => adev.sgEngine.bufCount.toNat
  | sgBufSize => adev.sgEngine.bufSize.toNat
  | sgFramesCrcErr => adev.sgEngine.framesCrcErr.toNat

section

variable (es : List (DriverOp × Env))

theorem run_cachedRecord : (run driverStep .probed es).lastTelem = cachedRecord es := by
  have hrun (dev : Dev) : (run driverStep dev es).lastTelem = es.foldl (fun record e =>
      match e.1 with
      | .release => List.replicate telemetrySize 0
      | op => (telemetryTaken op e.2).getD record) dev.lastTelem := by
    induction es generalizing dev with
    | nil => rfl
    | cons e es ih =>
        obtain ⟨op, env⟩ := e
        rw [run_cons, ih, List.foldl_cons]
        congr 1
        cases op with
        | release => rfl
        | «open» | read | write | ioctl | rxWork | sgWorker =>
            exact driverOp_lastTelem env dev (by simp)
  exact hrun .probed

theorem run_failedTransfers : (run driverStep .probed es).spiErrCount =
    BitVec.ofNat 32 (run SpiErrors.step .start es).failed := by
  have hrun (s : SpiErrors) (h : s.dev.spiErrCount = BitVec.ofNat 32 s.failed) :
      (run driverStep s.dev es).spiErrCount =
        BitVec.ofNat 32 (run SpiErrors.step s es).failed := by
    induction es generalizing s with
    | nil => exact h
    | cons e es ih =>
        rw [run_cons, run_cons]
        refine ih (s.step e) ?_
        have haccount := SpiErrors.step_account (s := s) (e := e)
        by_cases hfails : transferFails e.1 e.2 s.dev
        · rw [if_pos hfails] at haccount
          rw [SpiErrors.step_failed hfails, BitVec.ofNat_add, ← h]
          exact (Prod.mk.inj haccount).1
        · rw [if_neg hfails] at haccount
          rw [SpiErrors.step_works hfails, ← h]
          exact (Prod.mk.inj haccount).1
  exact hrun .start rfl

theorem run_txFifo : (run driverStep .probed es).txFifo = .empty :=
  run_invariant (I := fun dev => dev.txFifo = .empty)
    (fun dev e h => (driverOp_txFifo e.1 e.2 dev).trans h) rfl es

theorem run_accountedBrownouts :
    let bits := (telemetryWords es).map testedBits
    (run driverStep .probed es).brownoutCount = BitVec.ofNat 32 (rises false bits) ∧
      (run driverStep .probed es).flags.lowBattery = bits.getLastD false := by
  have hrun : (run driverStep .probed es).brownout = _ :=
    (run_brownout .probed es).trans (take_foldl (telemetryWords es))
  exact ⟨congrArg Brownout.count hrun, congrArg Brownout.lowBattery hrun⟩

end

/-! ### The lines -/

/-- The line fits the page and is read as the number. -/
def Attribute.Tells (a : Attribute) (adev : Dev) (n : Int) : Prop :=
  ∃ text, a.shows (some adev) = (text.length, text) ∧ text.length ≤ pageSize ∧
    a.reads text = some n

/-- The request that tells the attribute copies out the same number. -/
def Attribute.Copies (a : Attribute) (adev : Dev) (n : Int) : Prop :=
  ∀ cmd place, a.request = some (cmd, place) → ∀ (arg : Nat → Byte) (env : Env), env.CopiesOut →
    ∃ out, apexBridgeIoctl cmd arg env adev = ⟨adev, 0, none, out⟩ ∧ place out = n

section

variable {a : Attribute} {adev : Dev}

theorem tells_signed {v : Dev → BitVec 16}
    (hshow : a.shows = showNumber .signed fun adev => (v adev).toInt)
    (hread : a.reads = Conversion.signed.readLine) : a.Tells adev (v adev).toInt := by
  have hlow := (v adev).le_toInt
  have hhigh := (v adev).toInt_lt
  have hlength := Conversion.signed.line_length_le (n := (v adev).toInt) (by omega)
  refine ⟨_, congrFun hshow (some adev), hlength.trans (by decide), ?_⟩
  rw [hread]
  exact Conversion.readLine_line fun hsigned => absurd rfl hsigned

theorem tells_natural {c : Conversion} {v : Dev → Nat} {m : Nat}
    (hshow : a.shows = showNumber c fun adev => (v adev : Int)) (hread : a.reads = c.readLine)
    (hvalue : v adev = m) (hsmall : m < 2 ^ 64) (hwidth : c.width ≤ 8) : a.Tells adev m := by
  have hlength : (c.line (m : Int)).length ≤ 22 + c.width :=
    c.line_length_le (by rwa [Int.natAbs_natCast])
  refine ⟨c.line (m : Int), ?_, hlength.trans (by unfold pageSize; omega), ?_⟩
  · rw [hshow, showNumber, showLine, hvalue]
  · rw [hread]
    exact Conversion.readLine_line fun _ => Int.natCast_nonneg m

theorem readState_stateStr (s : SgState) : (stateStr s ++ [newline]).length ≤ pageSize ∧
    readState (stateStr s ++ [newline]) = some (s.code : Int) := by
  cases s with
  | idle => exact ⟨by decide, rfl⟩
  | running => exact ⟨by decide, rfl⟩
  | error => exact ⟨by decide, rfl⟩

theorem tells_state : Attribute.sgState.Tells adev adev.sgEngine.state.code :=
  have ⟨hlength, hread⟩ := readState_stateStr adev.sgEngine.state
  ⟨_, rfl, hlength, hread⟩

theorem status_lt (f : DriverFlags) : f.status < 8 := by
  obtain ⟨ready, reset, error, low⟩ := f
  cases ready <;> cases reset <;> cases error <;> cases low <;> decide

theorem tells_value (es : List (DriverOp × Env)) (a : Attribute) :
    a.Tells (run driverStep .probed es) (a.value es) := by
  have hrecord := run_cachedRecord es
  obtain ⟨hcount, hlow⟩ := run_accountedBrownouts es
  have hsmall {w : Nat} (v : BitVec w) (hw : w ≤ 64) : v.toNat < 2 ^ 64 :=
    v.isLt.trans_le (Nat.pow_le_pow_right (by decide) hw)
  cases a with
  | rssiDbmX10 =>
      dsimp only [Attribute.value, ApexTelemetry.ofKernel]
      rw [← hrecord]
      exact tells_signed (v := fun adev => structField 16 adev.lastTelem 0) rfl rfl
  | tempCX10 =>
      dsimp only [Attribute.value, ApexTelemetry.ofKernel]
      rw [← hrecord]
      exact tells_signed (v := fun adev => structField 16 adev.lastTelem 2) rfl rfl
  | cc1101RssiX10 =>
      dsimp only [Attribute.value, ApexTelemetry.ofKernel]
      rw [← hrecord]
      exact tells_signed (v := fun adev => structField 16 adev.lastTelem 6) rfl rfl
  | vbatMv | nfcFieldMv | mcuFlags | uptimeMs =>
      dsimp only [Attribute.value, ApexTelemetry.ofKernel]
      rw [← hrecord]
      exact tells_natural rfl rfl rfl (hsmall _ (by decide)) (by decide)
  | driverStatus =>
      exact tells_natural rfl rfl rfl ((status_lt _).trans (by decide)) (by decide)
  | spiErrors =>
      have hvalue := congrArg BitVec.toNat (run_failedTransfers es)
      rw [BitVec.toNat_ofNat] at hvalue
      exact tells_natural rfl rfl hvalue ((Nat.mod_lt _ (by decide)).trans (by decide)) (by decide)
  | rxFifoCount =>
      have hbound := (run driverStep .probed es).rxFifo.bounded
      exact tells_natural rfl rfl rfl (hbound.trans_lt (by decide)) (by decide)
  | txFifoCount =>
      have hvalue := congrArg (fun fifo => fifo.items.length) (run_txFifo es)
      exact tells_natural rfl rfl hvalue (by decide) (by decide)
  | brownoutCount =>
      have hvalue := congrArg BitVec.toNat hcount
      rw [BitVec.toNat_ofNat] at hvalue
      exact tells_natural rfl rfl hvalue ((Nat.mod_lt _ (by decide)).trans (by decide)) (by decide)
  | lowBattery =>
      dsimp only [Attribute.value]
      rw [← hlow]
      exact tells_natural rfl rfl rfl (by split <;> decide) (by decide)
  | sgState => exact tells_state
  | sgTotalBytes | sgOverruns | sgErrors | sgFramesRx | sgBufCount | sgBufSize | sgFramesCrcErr =>
      exact tells_natural rfl rfl rfl (hsmall _ (by decide)) (by decide)

/-! ### The requests -/

theorem structField_leBytes {w : Nat} (v : BitVec w) (hw : 8 * (w / 8) = w) (rest : List Byte)
    {bytes : List Byte} {offset : Nat} (h : bytes.drop offset = leBytes (w / 8) v.toNat ++ rest) :
    structField w bytes offset = v := by
  have hlt : v.toNat < 256 ^ (w / 8) := by
    rw [show 256 = 2 ^ 8 from rfl, ← Nat.pow_mul, hw]
    exact v.isLt
  rw [structField, h, List.take_left' (leBytes_length _ _), leValue_leBytes_of_lt _ _ hlt,
    BitVec.ofNat_toNat, BitVec.setWidth_eq]

/-- A request that only copies out, with all it has to be granted. -/
theorem copyOut_served {cmd : BitVec 32} {arg : Nat → Byte} {env : Env} {bytes : List Byte}
    (hmagic : (cmd >>> 8) &&& 0xFF#32 = 0x41#32)
    (hnr : 1 ≤ (cmd &&& 0xFF#32).toNat ∧ (cmd &&& 0xFF#32).toNat ≤ 11)
    (hswitch : ∀ frame rxBuf, ioctlSwitch cmd arg frame rxBuf env adev = copyOut bytes env adev)
    (henv : env.CopiesOut) : apexBridgeIoctl cmd arg env adev = ⟨adev, 0, none, bytes⟩ := by
  obtain ⟨haccess, h0, h1, hcopy⟩ := henv
  rw [apexBridgeIoctl_checked hmagic hnr (.inr haccess) h0 h1, hswitch, copyOut,
    hcopy, if_neg Bool.noConfusion]

theorem copies_value (es : List (DriverOp × Env)) (a : Attribute) :
    a.Copies (run driverStep .probed es) (a.value es) := by
  intro cmd place hrequest arg env henv
  have htelem : apexBridgeIoctl apexIocGetTelemetry arg env (run driverStep .probed es) =
      ⟨run driverStep .probed es, 0, none, cachedRecord es⟩ := by
    rw [← run_cachedRecord]
    exact copyOut_served (by decide) (by decide) (fun _ _ => rfl) henv
  have hstatus : apexBridgeIoctl apexIocGetStatus arg env (run driverStep .probed es) =
      ⟨run driverStep .probed es, 0, none,
        leBytes 4 (run driverStep .probed es).flags.status⟩ :=
    copyOut_served (by decide) (by decide) (fun _ _ => rfl) henv
  have hengine : apexBridgeIoctl apexIocSgGetStatus arg env (run driverStep .probed es) =
      ⟨run driverStep .probed es, 0, none, (run driverStep .probed es).sgEngine.status⟩ :=
    copyOut_served (by decide) (by decide) (fun _ _ => rfl) henv
  have hword {bytes : List Byte} {offset : Nat} (rest : List Byte) (v : BitVec 32)
      (h : bytes.drop offset = leBytes 4 v.toNat ++ rest) :
      ((structField 32 bytes offset).toNat : Int) = v.toNat := by
    rw [structField_leBytes v rfl rest h]
  have hsmall {m : Nat} (hm : m < 8) : (BitVec.ofNat 32 m).toNat = m := by
    rw [BitVec.toNat_ofNat, Nat.mod_eq_of_lt (by omega)]
  cases a with
  | rssiDbmX10 | tempCX10 | vbatMv | cc1101RssiX10 | nfcFieldMv | mcuFlags | uptimeMs =>
      obtain ⟨rfl, rfl⟩ := Prod.mk.inj (Option.some.inj hrequest)
      exact ⟨_, htelem, rfl⟩
  | driverStatus =>
      obtain ⟨rfl, rfl⟩ := Prod.mk.inj (Option.some.inj hrequest)
      have hvalue := hsmall (status_lt (run driverStep .probed es).flags)
      refine ⟨_, hstatus, ?_⟩
      dsimp only [Attribute.value]
      rw [← hvalue]
      exact hword [] _ (by rw [hvalue, List.append_nil]; rfl)
  | sgState =>
      obtain ⟨rfl, rfl⟩ := Prod.mk.inj (Option.some.inj hrequest)
      have hcode : (run driverStep .probed es).sgEngine.state.code < 8 := by
        cases (run driverStep .probed es).sgEngine.state <;> decide
      refine ⟨_, hengine, ?_⟩
      dsimp only [Attribute.value]
      rw [← hsmall hcode]
      exact hword _ _ (by rw [hsmall hcode]; rfl)
  | sgTotalBytes =>
      obtain ⟨rfl, rfl⟩ := Prod.mk.inj (Option.some.inj hrequest)
      refine ⟨_, hengine, ?_⟩
      dsimp only [Attribute.value]
      rw [structField_leBytes (run driverStep .probed es).sgEngine.totalTransferred rfl _ rfl]
  | sgBufCount | sgBufSize | sgOverruns | sgErrors | sgFramesRx =>
      obtain ⟨rfl, rfl⟩ := Prod.mk.inj (Option.some.inj hrequest)
      exact ⟨_, hengine, hword _ _ rfl⟩
  | sgFramesCrcErr =>
      obtain ⟨rfl, rfl⟩ := Prod.mk.inj (Option.some.inj hrequest)
      exact ⟨_, hengine, hword [] _ (List.append_nil _).symm⟩
  | spiErrors | rxFifoCount | txFifoCount | brownoutCount | lowBattery => cases hrequest

end

/-- After any run of the driver each attribute is a line that reads as the number the run
has to tell, and as what the status requests copy out. -/
theorem sysfs_tells (es : List (DriverOp × Env)) (a : Attribute) :
    a.Tells (run driverStep .probed es) (a.value es) ∧
      a.Copies (run driverStep .probed es) (a.value es) :=
  ⟨tells_value es a, copies_value es a⟩

end GhostBlade.Bridge
