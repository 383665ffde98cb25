import GhostBlade.Host.Frame
import GhostBlade.Library.Fifo

/-!
The Linux driver of the bridge (`apex_bridge.c`): the RX work that fetches what
the MCU has to send, the file operations, and the start and stop of the
scatter-gather engine. An operation takes its surroundings as an `Env`: which
allocations and user copies succeed, what freshly allocated memory holds, and
what the SPI core answers. It returns the device, its result, the bytes it
handed to `spi_sync` and the bytes it copied to the user.
-/

namespace GhostBlade.Host

open GhostBlade.Library GhostBlade.Protocol

def apexCmdNop : Byte := 0xFF#8
def apexCmdSdrTune : Byte := 0x01#8
def apexCmdSdrStream : Byte := 0x02#8
def apexCmdAntSelect : Byte := 0x03#8
def apexCmdCc1101Cfg : Byte := 0x04#8
def apexCmdNfcTransact : Byte := 0x05#8
def apexCmdTelemetry : Byte := 0x81#8
def apexCmdSdrIqChunk : Byte := 0x82#8

def apexAntTerminated : Nat := 3
def apexCc1101MaxRegLen : Nat := 64
def apexNfcMaxDataLen : Nat := 256
abbrev apexRxFifoSize : Nat := 64 * 1024
abbrev apexTxFifoSize : Nat := 64 * 1024

/-- The size of `struct apex_telemetry`. -/
def telemetrySize : Nat := 16

/-- What the kernel and the bus answer during one operation. -/
structure Env where
  /-- Whether the `k`-th allocation succeeds. -/
  allocOk : Nat → Bool
  /-- What the memory of the `k`-th allocation holds. -/
  heap : Nat → Nat → Byte
  accessOk : Bool
  /-- Whether the `k`-th copy from or to the user succeeds. -/
  userCopy : Nat → Bool
  spiSync : Int
  /-- What the MCU has to send; behind it the line is idle and reads zero. -/
  miso : List Byte

/-- The first `n` bytes of a memory. -/
def memBytes (mem : Nat → Byte) (n : Nat) : List Byte := (List.range n).map mem

/-- The `k`-th `kmalloc` of an operation. -/
def Env.kmalloc (env : Env) (k size : Nat) : Option (List Byte) :=
  if env.allocOk k then some (memBytes (env.heap k) size) else none

/-- `APEX_FLAG_MCU_READY` to `APEX_FLAG_LOW_BATTERY`. -/
structure DriverFlags where
  mcuReady : Bool
  mcuReset : Bool
  spiError : Bool
  lowBattery : Bool

inductive SgState where
  | idle
  | running
  | error
deriving DecidableEq, Repr

def SgState.code : SgState → Nat
  | .idle => 0
  | .running => 1
  | .error => 2

/-- The part of `struct apex_sg_engine` that start, stop and the status request
use. -/
structure SgEngine where
  state : SgState
  bufCount : BitVec 32
  bufSize : BitVec 32
  timeoutMs : BitVec 32
  continuous : Bool
  currentIdx : BitVec 32
  totalTransferred : BitVec 64
  overruns : BitVec 32
  errors : BitVec 32
  framesRx : BitVec 32
  framesCrcErr : BitVec 32
  sequence : BitVec 32

structure Dev where
  rxFifo : Fifo Byte apexRxFifoSize
  lastTelem : List Byte
  flags : DriverFlags
  spiErrCount : BitVec 32
  brownoutCount : BitVec 32
  brownoutPrevFlag : Bool
  opened : Bool
  gpioMcuReset : Bool
  gpioHostRdy : Bool
  sgEngine : SgEngine
  /-- Allocated by the probe; its room and its length are all that is ever looked at. -/
  txFifo : Fifo Byte apexTxFifoSize

structure Result where
  dev : Dev
  ret : Int
  sent : Option (List Byte)
  out : List Byte

/-- An operation that returns without a transfer and without output. -/
def Result.done (dev : Dev) (ret : Int) : Result := ⟨dev, ret, none, []⟩

/-- What `apex_spi_xfer` returns, with the receive buffer and the transfer. -/
structure Xfer where
  ret : Int
  rxBuf : List Byte
  dev : Dev
  sent : Option (List Byte)

/-- `apex_spi_xfer`: the transmit buffer is given up to the transfer length. -/
def apexSpiXfer (tx rxBuf : List Byte) (env : Env) (dev : Dev) : Xfer :=
  if tx.length > frameSizeMax then ⟨-emsgsize, rxBuf, dev, none⟩
  else if env.spiSync < 0 then
    ⟨env.spiSync, rxBuf,
      { dev with
        flags := { dev.flags with spiError := true }
        spiErrCount := dev.spiErrCount + 1 }, some tx⟩
  else
    ⟨if tx.length > rxBuf.length then rxBuf.length else tx.length,
      writeAt rxBuf 0 (padTake tx.length env.miso), dev, some tx⟩

def Dev.pushRx (dev : Dev) (payload : List Byte) : Dev :=
  { dev with rxFifo := dev.rxFifo.push payload }

/-- The telemetry branch of the RX work: the driver's `APEX_FLAG_LOW_BATTERY`
is 3 and hides the mask of that name. -/
def Dev.cacheTelemetry (dev : Dev) (payload : List Byte) : Dev :=
  let dev := { dev with lastTelem := payload }
  if BitVec.ofNat 16 (leValue ((payload.drop 10).take 2)) &&& 3#16 ≠ 0#16 then
    { dev with
      flags := { dev.flags with lowBattery := true }
      brownoutPrevFlag := true
      brownoutCount :=
        if dev.brownoutPrevFlag = false then dev.brownoutCount + 1 else dev.brownoutCount }
  else
    { dev with flags := { dev.flags with lowBattery := false }, brownoutPrevFlag := false }

/-- What the RX work does with an accepted frame. -/
def Dev.takeResponse (dev : Dev) (r : Received) : Dev :=
  if r.cmd = apexCmdTelemetry then
    if r.payload.length = telemetrySize then (dev.cacheTelemetry r.payload).pushRx r.payload
    else dev
  else if r.cmd = apexCmdSdrIqChunk then dev.pushRx r.payload
  else dev.pushRx r.payload

/-- The RX work up to its transfer: `none` when it gives up before. The second
component of the pair is the receive frame. -/
def rxWorkXfer (env : Env) (dev : Dev) : Option Xfer :=
  match env.kmalloc 0 frameSizeMax with
  | none => none
  | some rxFrame =>
    match env.kmalloc 1 frameSizeMax with
    | none => none
    | some txFrame =>
      let (ret, txFrame) := apexBuildFrame apexCmdNop [] txFrame
      if ret < 0 then none else some (apexSpiXfer (txFrame.take frameSizeMax) rxFrame env dev)

/-- The RX work behind its transfer. -/
def rxWorkFinish (rxLen : Int) (rxFrame : List Byte) (dev : Dev) : Dev :=
  if rxLen < 0 then dev
  else
    match apexValidateFrame (rxFrame.take rxLen.toNat) with
    | .error _ => dev
    | .ok r => dev.takeResponse r

/-- `apex_rx_work_handler`. -/
def apexRxWorkHandler (env : Env) (dev : Dev) : Result :=
  match rxWorkXfer env dev with
  | none => .done dev 0
  | some x => ⟨rxWorkFinish x.ret x.rxBuf x.dev, 0, x.sent, []⟩

/-- `apex_bridge_open`, with the result of `pm_runtime_get_sync`. -/
def apexBridgeOpen (pmGet : Int) (dev : Dev) : Result :=
  if dev.opened then .done dev (-ebusy)
  else if pmGet < 0 then .done dev pmGet
  else .done { dev with opened := true } 0

/-- `apex_bridge_release`. -/
def apexBridgeRelease (dev : Dev) : Result :=
  .done { dev with opened := false, lastTelem := List.replicate telemetrySize 0 } 0

/-- `apex_bridge_read`. The first test may have seen another FIFO than the locked
section does; `waited` is the result of the wait. -/
def apexBridgeRead (sawEmpty nonblock : Bool) (waited : Int) (count : Nat) (env : Env)
    (dev : Dev) : Result :=
  if sawEmpty ∧ nonblock then .done dev (-eagain)
  else if sawEmpty ∧ waited ≠ 0 then .done dev waited
  else
    let toCopy := min count dev.rxFifo.items.length
    if toCopy = 0 then .done dev 0
    else
      match env.kmalloc 0 toCopy with
      | none => .done dev (-enomem)
      | some _ =>
        let copied := dev.rxFifo.front toCopy
        let dev := { dev with rxFifo := dev.rxFifo.pop toCopy }
        if env.userCopy 0 then ⟨dev, copied.length, none, copied⟩
        else .done dev (-efault)

/-- `apex_bridge_write` up to its transfer: the return value when it gives up
before. -/
def writeXfer (data : List Byte) (env : Env) (dev : Dev) : Except Int Xfer :=
  if data.length < 1 then .error (-einval)
  else if data.length > maxPayload then .error (-emsgsize)
  else if env.allocOk 0 = false then .error (-enomem)
  else if env.userCopy 0 = false then .error (-efault)
  else
    match env.kmalloc 1 frameSizeMax with
    | none => .error (-enomem)
    | some frame =>
      match env.kmalloc 2 frameSizeMax with
      | none => .error (-enomem)
      | some rxBuf =>
        let (frameLen, frame) := apexBuildFrame (data.getD 0 0) (data.drop 1) frame
        if frameLen < 0 then .error frameLen
        else .ok (apexSpiXfer (frame.take frameLen.toNat) rxBuf env dev)

/-- `apex_bridge_write` behind its transfer. -/
def writeFinish (ret : Int) (rxBuf : List Byte) (dev : Dev) : Dev :=
  if ret > 0 then
    match apexValidateFrame (rxBuf.take ret.toNat) with
    | .error _ => dev
    | .ok r => if r.payload.length > 0 then dev.pushRx r.payload else dev
  else dev

/-- `apex_bridge_write`. -/
def apexBridgeWrite (data : List Byte) (env : Env) (dev : Dev) : Result :=
  match writeXfer data env dev with
  | .error ret => .done dev ret
  | .ok x => ⟨writeFinish x.ret x.rxBuf x.dev, data.length, x.sent, []⟩

/-- `_IOC` with the driver's magic number. -/
def ioc (dir nr size : Nat) : BitVec 32 :=
  BitVec.ofNat 32 (dir <<< 30 ||| size <<< 16 ||| 0x41 <<< 8 ||| nr)

def iocNone : Nat := 0
def iocWrite : Nat := 1
def iocRead : Nat := 2

def apexIocSdrTune : BitVec 32 := ioc iocWrite 1 8
def apexIocSdrStream : BitVec 32 := ioc iocWrite 2 1
def apexIocAntSelect : BitVec 32 := ioc iocWrite 3 1
def apexIocCc1101Cfg : BitVec 32 := ioc iocWrite 4 2
def apexIocNfcTransact : BitVec 32 := ioc iocWrite 5 4
def apexIocGetTelemetry : BitVec 32 := ioc iocRead 6 16
def apexIocMcuReset : BitVec 32 := ioc iocWrite 7 1
def apexIocGetStatus : BitVec 32 := ioc iocRead 8 4
def apexIocSgStart : BitVec 32 := ioc iocWrite 9 20
def apexIocSgStop : BitVec 32 := ioc iocNone 10 0
def apexIocSgGetStatus : BitVec 32 := ioc iocRead 11 40

/-- Build a frame for the user's request and transfer just that frame. -/
def buildAndXfer (cmd : Byte) (payload frame rxBuf : List Byte) (env : Env) (dev : Dev) :
    Result :=
  let (frameLen, frame) := apexBuildFrame cmd payload frame
  if frameLen < 0 then .done dev frameLen
  else
    let x := apexSpiXfer (frame.take frameLen.toNat) rxBuf env dev
    ⟨x.dev, x.ret, x.sent, []⟩

def ioctlSdrTune (arg : Nat → Byte) (frame rxBuf : List Byte) (env : Env) (dev : Dev) :
    Result :=
  if env.userCopy 0 = false then .done dev (-efault)
  else buildAndXfer apexCmdSdrTune (memBytes arg 8) frame rxBuf env dev

def ioctlSdrStream (arg : Nat → Byte) (frame rxBuf : List Byte) (env : Env) (dev : Dev) :
    Result :=
  if env.userCopy 0 = false then .done dev (-efault)
  else buildAndXfer apexCmdSdrStream (memBytes arg 1) frame rxBuf env dev

def ioctlAntSelect (arg : Nat → Byte) (frame rxBuf : List Byte) (env : Env) (dev : Dev) :
    Result :=
  if env.userCopy 0 = false then .done dev (-efault)
  else if (arg 0).toNat > apexAntTerminated then .done dev (-einval)
  else buildAndXfer apexCmdAntSelect (memBytes arg 1) frame rxBuf env dev

def ioctlCc1101Cfg (arg : Nat → Byte) (frame rxBuf : List Byte) (env : Env) (dev : Dev) :
    Result :=
  if env.userCopy 0 = false then .done dev (-efault)
  else
    let regLen := (arg 1).toNat
    if regLen = 0 ∨ regLen > apexCc1101MaxRegLen then .done dev (-einval)
    else if env.allocOk 2 = false then .done dev (-enomem)
    else if env.userCopy 1 = false then .done dev (-efault)
    else buildAndXfer apexCmdCc1101Cfg (memBytes arg (2 + regLen)) frame rxBuf env dev

def ioctlNfcTransact (arg : Nat → Byte) (frame rxBuf : List Byte) (env : Env) (dev : Dev) :
    Result :=
  if env.userCopy 0 = false then .done dev (-efault)
  else
    let dataLen := leValue [arg 2, arg 3]
    if dataLen > apexNfcMaxDataLen then .done dev (-einval)
    else if env.allocOk 2 = false then .done dev (-enomem)
    else if dataLen > 0 ∧ env.userCopy 1 = false then .done dev (-efault)
    else buildAndXfer apexCmdNfcTransact (memBytes arg (4 + dataLen)) frame rxBuf env dev

/-- `apex_mcu_reset_assert`. -/
def apexMcuResetAssert (dev : Dev) : Dev :=
  { dev with gpioMcuReset := false, flags := { dev.flags with mcuReset := true } }

/-- `apex_mcu_reset_release`. -/
def apexMcuResetRelease (dev : Dev) : Dev :=
  { dev with
    gpioMcuReset := true
    gpioHostRdy := false
    flags := { dev.flags with mcuReset := false, mcuReady := true } }

def ioctlMcuReset (arg : Nat → Byte) (env : Env) (dev : Dev) : Result :=
  if env.userCopy 0 = false then .done dev (-efault)
  else if arg 0 ≠ 0 then .done (apexMcuResetAssert dev) 0
  else .done (apexMcuResetRelease dev) 0

/-- A request that only copies something to the user. -/
def copyOut (bytes : List Byte) (env : Env) (dev : Dev) : Result :=
  if env.userCopy 0 = false then .done dev (-efault) else ⟨dev, 0, none, bytes⟩

def DriverFlags.status (f : DriverFlags) : Nat :=
  (if f.mcuReady then 1 else 0) ||| (if f.mcuReset then 2 else 0) |||
    (if f.spiError then 4 else 0)

/-- `struct apex_sg_status`, with the padding the compiler inserts. -/
def SgEngine.status (eng : SgEngine) : List Byte :=
  leBytes 4 eng.state.code ++ leBytes 4 eng.bufCount.toNat ++ leBytes 4 eng.bufSize.toNat ++
    leBytes 4 0 ++ leBytes 8 eng.totalTransferred.toNat ++ leBytes 4 eng.overruns.toNat ++
      leBytes 4 eng.errors.toNat ++ leBytes 4 eng.framesRx.toNat ++
        leBytes 4 eng.framesCrcErr.toNat

structure SgConfig where
  bufCount : BitVec 32
  bufSize : BitVec 32
  timeoutMs : BitVec 32
  continuous : Byte

def SgConfig.ofUser (arg : Nat → Byte) : SgConfig where
  bufCount := BitVec.ofNat 32 (leValue (memBytes arg 4))
  bufSize := BitVec.ofNat 32 (leValue ((memBytes arg 8).drop 4))
  timeoutMs := BitVec.ofNat 32 (leValue ((memBytes arg 12).drop 8))
  continuous := arg 16

/-- The stream command that starts and stops the engine; its two buffers are the
`k`-th allocation and the next. -/
def sgSendStream (enable : Byte) (k : Nat) (env : Env) (dev : Dev) : Dev × Option (List Byte) :=
  match env.kmalloc k frameSizeMax, env.kmalloc (k + 1) frameSizeMax with
  | some frame, some rx =>
      let (frameLen, frame) := apexBuildFrame apexCmdSdrStream [enable] frame
      if frameLen > 0 then
        let x := apexSpiXfer (frame.take frameLen.toNat) rx env dev
        (x.dev, x.sent)
      else (dev, none)
  | _, _ => (dev, none)

/-- `apex_sg_engine_start`; its allocations follow the two of the request. -/
def apexSgEngineStart (config : SgConfig) (env : Env) (dev : Dev) : Result :=
  let count := config.bufCount.toNat
  if count < 2 ∨ count > 64 then .done dev (-einval)
  else if config.bufSize.toNat < 4096 ∨ config.bufSize.toNat > 262144 then .done dev (-einval)
  else if config.bufSize.toNat % 4 ≠ 0 then .done dev (-einval)
  else if dev.sgEngine.state ≠ .idle then .done dev (-ebusy)
  else if env.allocOk 2 = false then .done dev (-enomem)
  else if env.allocOk 3 = false then .done dev (-enomem)
  else if ((List.range count).all fun i => env.allocOk (4 + i)) = false then
    .done dev (-enomem)
  else
    let dev :=
      { dev with
        sgEngine :=
          { state := .running
            bufCount := config.bufCount
            bufSize := config.bufSize
            timeoutMs := config.timeoutMs
            continuous := config.continuous ≠ 0
            currentIdx := 0
            totalTransferred := 0
            overruns := 0
            errors := 0
            framesRx := 0
            framesCrcErr := 0
            sequence := 0 } }
    let (dev, sent) := sgSendStream 1 (4 + count) env dev
    ⟨dev, 0, sent, []⟩

/-- `apex_sg_engine_stop`. -/
def apexSgEngineStop (env : Env) (dev : Dev) : Result :=
  if dev.sgEngine.state = .idle then .done dev 0
  else
    let dev := { dev with sgEngine := { dev.sgEngine with state := .idle } }
    let (dev, sent) := sgSendStream 0 2 env dev
    ⟨dev, 0, sent, []⟩

/-- The `switch` of `apex_bridge_ioctl`. -/
def ioctlSwitch (cmd : BitVec 32) (arg : Nat → Byte) (frame rxBuf : List Byte) (env : Env)
    (dev : Dev) : Result :=
  if cmd = apexIocSdrTune then ioctlSdrTune arg frame rxBuf env dev
  else if cmd = apexIocSdrStream then ioctlSdrStream arg frame rxBuf env dev
  else if cmd = apexIocAntSelect then ioctlAntSelect arg frame rxBuf env dev
  else if cmd = apexIocCc1101Cfg then ioctlCc1101Cfg arg frame rxBuf env dev
  else if cmd = apexIocNfcTransact then ioctlNfcTransact arg frame rxBuf env dev
  else if cmd = apexIocGetTelemetry then copyOut dev.lastTelem env dev
  else if cmd = apexIocMcuReset then ioctlMcuReset arg env dev
  else if cmd = apexIocGetStatus then copyOut (leBytes 4 dev.flags.status) env dev
  else if cmd = apexIocSgStart then
    if env.userCopy 0 = false then .done dev (-efault)
    else apexSgEngineStart (SgConfig.ofUser arg) env dev
  else if cmd = apexIocSgStop then apexSgEngineStop env dev
  else if cmd = apexIocSgGetStatus then copyOut dev.sgEngine.status env dev
  else .done dev (-enotty)

/-- `apex_bridge_ioctl`; `arg` is the user memory the argument points to. -/
def apexBridgeIoctl (cmd : BitVec 32) (arg : Nat → Byte) (env : Env) (dev : Dev) : Result :=
  let nr := (cmd &&& 0xFF#32).toNat
  let dir := (cmd >>> 30).toNat
  if (cmd >>> 8) &&& 0xFF#32 ≠ 0x41#32 then .done dev (-enotty)
  else if nr < 1 ∨ nr > 11 then .done dev (-enotty)
  else if dir &&& iocWrite ≠ 0 ∧ env.accessOk = false then .done dev (-efault)
  else if dir &&& iocRead ≠ 0 ∧ env.accessOk = false then .done dev (-efault)
  else
    match env.kmalloc 0 frameSizeMax with
    | none => .done dev (-enomem)
    | some frame =>
      match env.kmalloc 1 frameSizeMax with
      | none => .done dev (-enomem)
      | some rxBuf => ioctlSwitch cmd arg frame rxBuf env dev

/-- What the driver is asked to do. The RX work follows an interrupt; the worker
of the scatter-gather engine changes nothing but the engine. -/
inductive DriverOp where
  | open (pmGet : Int)
  | release
  | read (sawEmpty nonblock : Bool) (waited : Int) (count : Nat)
  | write (data : List Byte)
  | ioctl (cmd : BitVec 32) (arg : Nat → Byte)
  | rxWork
  | sgWorker (work : SgEngine → SgEngine)

def driverOp (op : DriverOp) (env : Env) (dev : Dev) : Result :=
  match op with
  | .open pmGet => apexBridgeOpen pmGet dev
  | .release => apexBridgeRelease dev
  | .read sawEmpty nonblock waited count => apexBridgeRead sawEmpty nonblock waited count env dev
  | .write data => apexBridgeWrite data env dev
  | .ioctl cmd arg => apexBridgeIoctl cmd arg env dev
  | .rxWork => apexRxWorkHandler env dev
  | .sgWorker work => .done { dev with sgEngine := work dev.sgEngine } 0

/-- The device after a successful `apex_bridge_probe`. -/
def Dev.probed : Dev where
  rxFifo := .empty
  lastTelem := List.replicate telemetrySize 0
  flags := ⟨true, false, false, false⟩
  spiErrCount := 0
  brownoutCount := 0
  brownoutPrevFlag := false
  opened := false
  gpioMcuReset := true
  gpioHostRdy := false
  sgEngine := ⟨.idle, 0, 0, 0, false, 0, 0, 0, 0, 0, 0, 0⟩
  txFifo := .empty

end GhostBlade.Host
