import GhostBlade.Host.Driver
import GhostBlade.Library.Routines

/-!
The operations of the driver call by call: which lock they take, what they allocate,
where they may sleep, and when they touch the device structure. Run alone, with the
kernel answering as its surroundings say, each is the operation it spells out.
-/

namespace GhostBlade.Host

open GhostBlade.Library GhostBlade.Protocol

/-- The locks of the driver, from the outermost on. A fault in a copy from or to the user
takes the lock of the address space; a running work item is waited for like a lock. -/
inductive BridgeLock where
  | mmapLock
  | sgLock
  | sgWork
  | rxWork
  | busLock
  | rxLock
  | txLock
deriving DecidableEq

inductive KernelCall where
  | lock (l : BridgeLock)
  | unlock (l : BridgeLock)
  /-- The `k`-th `kmalloc` of an operation; `atomic` is `GFP_ATOMIC`. -/
  | kmalloc (k size : Nat) (atomic : Bool)
  | kfree (k : Nat)
  | accessOk
  /-- The `k`-th copy from or to the user. -/
  | copyUser (k : Nat)
  | pmGet
  | pmPut
  | spiSync (tx : List Byte)
  | fifoIsEmpty
  | waitRx
  | wakeRx
  | msleep
  | cmpxchgOpen
  /-- Look at the device structure, under this lock or without one. -/
  | load (guard : Option BridgeLock)
  | store (guard : Option BridgeLock) (change : Dev → Dev)
  /-- An array, or a DMA buffer, of the scatter-gather engine. -/
  | engineAlloc (k : Nat)
  | engineFree
  | scheduleSgWork
  | scheduleRxWork
  /-- The state of the buffer that is next is `APEX_SG_BUF_USERSPACE`. -/
  | bufInUse
  | spiAsync
  /-- Whether the transfer completes before the timeout. -/
  | waitDma
  | dmaMmap

def KernelCall.Answer : KernelCall → Type
  | .lock _ | .unlock _ | .kfree _ | .pmPut | .wakeRx | .msleep | .store .. | .engineFree
  | .scheduleSgWork | .scheduleRxWork => Unit
  | .kmalloc .. => Option (List Byte)
  | .accessOk | .copyUser _ | .fifoIsEmpty | .cmpxchgOpen | .engineAlloc _ | .bufInUse
  | .waitDma => Bool
  | .pmGet | .waitRx | .spiAsync | .dmaMmap => Int
  | .spiSync _ => Int × List Byte
  | .load _ => Dev

abbrev KernelProg := Prog KernelCall KernelCall.Answer

/-- What an operation returns and what it has sent and handed out on its way. -/
structure Outcome where
  ret : Int
  sent : Option (List Byte)
  out : List Byte

def Outcome.done (ret : Int) : Outcome := ⟨ret, none, []⟩

namespace Calls

def lock (l : BridgeLock) : KernelProg Unit := .perform (KernelCall.lock l)

def unlock (l : BridgeLock) : KernelProg Unit := .perform (KernelCall.unlock l)

def kmalloc (k size : Nat) : KernelProg (Option (List Byte)) :=
  .perform (KernelCall.kmalloc k size false)

def kmallocAtomic (k size : Nat) : KernelProg (Option (List Byte)) :=
  .perform (KernelCall.kmalloc k size true)

def kfree (k : Nat) : KernelProg Unit := .perform (KernelCall.kfree k)

def accessOk : KernelProg Bool := .perform KernelCall.accessOk

def pmGet : KernelProg Int := .perform KernelCall.pmGet

def pmPut : KernelProg Unit := .perform KernelCall.pmPut

def spiSync (tx : List Byte) : KernelProg (Int × List Byte) := .perform (KernelCall.spiSync tx)

def fifoIsEmpty : KernelProg Bool := .perform KernelCall.fifoIsEmpty

def waitRx : KernelProg Int := .perform KernelCall.waitRx

def wakeRx : KernelProg Unit := .perform KernelCall.wakeRx

def msleep : KernelProg Unit := .perform KernelCall.msleep

def cmpxchgOpen : KernelProg Bool := .perform KernelCall.cmpxchgOpen

def load : KernelProg Dev := .perform (KernelCall.load none)

def store (change : Dev → Dev) : KernelProg Unit := .perform (KernelCall.store none change)

/-- Access to the device structure under a lock. -/
def loadUnder (l : BridgeLock) : KernelProg Dev := .perform (KernelCall.load (some l))

def storeUnder (l : BridgeLock) (change : Dev → Dev) : KernelProg Unit :=
  .perform (KernelCall.store (some l) change)

def engineAlloc (k : Nat) : KernelProg Bool := .perform (KernelCall.engineAlloc k)

def engineFree : KernelProg Unit := .perform KernelCall.engineFree

def scheduleSgWork : KernelProg Unit := .perform KernelCall.scheduleSgWork

def scheduleRxWork : KernelProg Unit := .perform KernelCall.scheduleRxWork

def bufInUse : KernelProg Bool := .perform KernelCall.bufInUse

def spiAsync : KernelProg Int := .perform KernelCall.spiAsync

def waitDma : KernelProg Bool := .perform KernelCall.waitDma

def dmaMmap : KernelProg Int := .perform KernelCall.dmaMmap

def locked {α : Type} (l : BridgeLock) (p : KernelProg α) : KernelProg α := do
  lock l
  let a ← p
  unlock l
  return a

def copyUser (k : Nat) : KernelProg Bool := locked .mmapLock (.perform (KernelCall.copyUser k))

/-- `kfree` of a pointer that may be null. -/
def kfreeIf (p : Option (List Byte)) (k : Nat) : KernelProg Unit :=
  match p with
  | none => return ()
  | some _ => kfree k

structure XferOut where
  ret : Int
  rxBuf : List Byte
  sent : Option (List Byte)

def apexSpiXfer (tx rxBuf : List Byte) : KernelProg XferOut := do
  if tx.length > frameSizeMax then return ⟨-emsgsize, rxBuf, none⟩
  let (ret, miso) ← locked .busLock (spiSync tx)
  if ret < 0 then
    store (fun dev =>
      { dev with
        flags := { dev.flags with spiError := true }
        spiErrCount := dev.spiErrCount + 1 })
    return ⟨ret, rxBuf, some tx⟩
  return ⟨if tx.length > rxBuf.length then rxBuf.length else tx.length,
    writeAt rxBuf 0 (padTake tx.length miso), some tx⟩

/-- `kfifo_in` with what goes with it, under the lock, and the wake-up. -/
def pushRx (change : Dev → Dev) : KernelProg Unit := do
  locked .rxLock (storeUnder .rxLock change)
  wakeRx

/-- The `switch` of the RX work. -/
def takeResponse (r : Received) : KernelProg Unit :=
  if r.cmd = apexCmdTelemetry then
    if r.payload.length = telemetrySize then
      pushRx fun dev => (dev.cacheTelemetry r.payload).pushRx r.payload
    else return ()
  else if r.cmd = apexCmdSdrIqChunk then pushRx fun dev => dev.pushRx r.payload
  else pushRx fun dev => dev.pushRx r.payload

def rxWorkFinish (rxLen : Int) (rxFrame : List Byte) : KernelProg Unit :=
  if rxLen < 0 then return ()
  else
    match apexValidateFrame (rxFrame.take rxLen.toNat) with
    | .error _ => return ()
    | .ok r => takeResponse r

/-- The RX work with its two frames. -/
def rxWorkXfer (rxFrame txFrame : List Byte) : KernelProg (Option (List Byte)) := do
  let (ret, txFrame) := apexBuildFrame apexCmdNop [] txFrame
  if ret < 0 then return none
  let x ← apexSpiXfer (txFrame.take frameSizeMax) rxFrame
  rxWorkFinish x.ret x.rxBuf
  return x.sent

def rxWorkFrames : KernelProg (Option (List Byte)) := do
  match ← kmalloc 0 frameSizeMax with
  | none => return none
  | some rxFrame =>
    match ← kmalloc 1 frameSizeMax with
    | none =>
      kfree 0
      return none
    | some txFrame =>
      let sent ← rxWorkXfer rxFrame txFrame
      kfree 0
      kfree 1
      return sent

def apexRxWorkHandler : KernelProg Outcome := locked .rxWork do
  let _ ← pmGet
  let sent ← rxWorkFrames
  pmPut
  return ⟨0, sent, []⟩

def apexBridgeOpen : KernelProg Outcome := do
  let free ← cmpxchgOpen
  if free = false then return .done (-ebusy)
  let ret ← pmGet
  if ret < 0 then
    store (fun dev => { dev with opened := false })
    pmPut
    return .done ret
  return .done 0

def apexBridgeRelease : KernelProg Outcome := do
  pmPut
  store (fun dev =>
    { dev with opened := false, lastTelem := List.replicate telemetrySize 0 })
  return .done 0

/-- `apex_bridge_read` behind its wait: `none` is for a call that has nothing to copy and
returns what is beside it. -/
def takeRx (count : Nat) : KernelProg (Except Int (List Byte)) := do
  let dev ← loadUnder .rxLock
  let toCopy := min count dev.rxFifo.items.length
  if toCopy = 0 then return .error 0
  match ← kmallocAtomic 0 toCopy with
  | none => return .error (-enomem)
  | some _ =>
    storeUnder .rxLock fun dev => { dev with rxFifo := dev.rxFifo.pop toCopy }
    return .ok (dev.rxFifo.front toCopy)

def readRx (count : Nat) : KernelProg Outcome := do
  match ← locked .rxLock (takeRx count) with
  | .error ret => return .done ret
  | .ok copied =>
    let ok ← copyUser 0
    kfree 0
    return if ok then ⟨copied.length, none, copied⟩ else .done (-efault)

def apexBridgeRead (nonblock : Bool) (count : Nat) : KernelProg Outcome := do
  if ← fifoIsEmpty then
    if nonblock then return .done (-eagain)
    let waited ← waitRx
    if waited ≠ 0 then return .done waited
  readRx count

def writeFinish (ret : Int) (rxBuf : List Byte) : KernelProg Unit :=
  if ret > 0 then
    match apexValidateFrame (rxBuf.take ret.toNat) with
    | .error _ => return ()
    | .ok r => if r.payload.length > 0 then pushRx fun dev => dev.pushRx r.payload else return ()
  else return ()

/-- `apex_bridge_write` with its three buffers. -/
def writeXfer (data frame rxBuf : List Byte) : KernelProg Outcome := do
  let (frameLen, frame) := apexBuildFrame (data.getD 0 0) (data.drop 1) frame
  if frameLen < 0 then return .done frameLen
  let x ← apexSpiXfer (frame.take frameLen.toNat) rxBuf
  writeFinish x.ret x.rxBuf
  return ⟨data.length, x.sent, []⟩

/-- `apex_bridge_write` with its copy of the user's bytes. -/
def writeFrames (data : List Byte) : KernelProg Outcome := do
  if (← copyUser 0) = false then return .done (-efault)
  match ← kmalloc 1 frameSizeMax with
  | none => return .done (-enomem)
  | some frame =>
    match ← kmalloc 2 frameSizeMax with
    | none =>
      kfree 1
      return .done (-enomem)
    | some rxBuf =>
      let result ← writeXfer data frame rxBuf
      kfree 1
      kfree 2
      return result

def apexBridgeWrite (data : List Byte) : KernelProg Outcome := do
  if data.length < 1 then return .done (-einval)
  if data.length > maxPayload then return .done (-emsgsize)
  match ← kmalloc 0 data.length with
  | none => return .done (-enomem)
  | some _ =>
    let result ← writeFrames data
    kfree 0
    return result

/-! ### Requests -/

/-- Build a frame for the user's request and transfer just that frame. -/
def buildAndXfer (cmd : Byte) (payload frame rxBuf : List Byte) : KernelProg Outcome := do
  let (frameLen, frame) := apexBuildFrame cmd payload frame
  if frameLen < 0 then return .done frameLen
  let x ← apexSpiXfer (frame.take frameLen.toNat) rxBuf
  return ⟨x.ret, x.sent, []⟩

def ioctlSdrTune (arg : Nat → Byte) (frame rxBuf : List Byte) : KernelProg Outcome := do
  if (← copyUser 0) = false then return .done (-efault)
  buildAndXfer apexCmdSdrTune (memBytes arg 8) frame rxBuf

def ioctlSdrStream (arg : Nat → Byte) (frame rxBuf : List Byte) : KernelProg Outcome := do
  if (← copyUser 0) = false then return .done (-efault)
  buildAndXfer apexCmdSdrStream (memBytes arg 1) frame rxBuf

def ioctlAntSelect (arg : Nat → Byte) (frame rxBuf : List Byte) : KernelProg Outcome := do
  if (← copyUser 0) = false then return .done (-efault)
  if (arg 0).toNat > apexAntTerminated then return .done (-einval)
  buildAndXfer apexCmdAntSelect (memBytes arg 1) frame rxBuf

/-- The request is put together in a buffer of its own, which is free again before the
transfer. -/
def gathered (copied : KernelProg Bool) (size : Nat) (cmd : Byte)
    (payload frame rxBuf : List Byte) : KernelProg Outcome := do
  match ← kmalloc 2 size with
  | none => return .done (-enomem)
  | some _ =>
    let ok ← copied
    kfree 2
    if ok then buildAndXfer cmd payload frame rxBuf else return .done (-efault)

def ioctlCc1101Cfg (arg : Nat → Byte) (frame rxBuf : List Byte) : KernelProg Outcome := do
  if (← copyUser 0) = false then return .done (-efault)
  let regLen := (arg 1).toNat
  if regLen = 0 ∨ regLen > apexCc1101MaxRegLen then return .done (-einval)
  gathered (copyUser 1) (2 + regLen) apexCmdCc1101Cfg (memBytes arg (2 + regLen)) frame rxBuf

def ioctlNfcTransact (arg : Nat → Byte) (frame rxBuf : List Byte) : KernelProg Outcome := do
  if (← copyUser 0) = false then return .done (-efault)
  let dataLen := leValue [arg 2, arg 3]
  if dataLen > apexNfcMaxDataLen then return .done (-einval)
  gathered (if dataLen > 0 then copyUser 1 else pure true) (4 + dataLen) apexCmdNfcTransact
    (memBytes arg (4 + dataLen)) frame rxBuf

def copyOut (bytes : List Byte) : KernelProg Outcome := do
  if (← copyUser 0) = false then return .done (-efault)
  return ⟨0, none, bytes⟩

def ioctlGetTelemetry : KernelProg Outcome := do
  let dev ← locked .rxLock (loadUnder .rxLock)
  copyOut dev.lastTelem

def apexMcuResetAssert : KernelProg Unit := do
  store Host.apexMcuResetAssert
  msleep

/-- HOST_RDY and the flag follow after the MCU has had time to boot. -/
def apexMcuResetRelease : KernelProg Unit := do
  store fun dev => { dev with gpioMcuReset := true, flags := { dev.flags with mcuReset := false } }
  msleep
  store fun dev => { dev with gpioHostRdy := false, flags := { dev.flags with mcuReady := true } }

def ioctlMcuReset (arg : Nat → Byte) : KernelProg Outcome := do
  if (← copyUser 0) = false then return .done (-efault)
  if arg 0 ≠ 0 then apexMcuResetAssert else apexMcuResetRelease
  return .done 0

def ioctlGetStatus : KernelProg Outcome := do
  let dev ← load
  copyOut (leBytes 4 dev.flags.status)

def ioctlSgGetStatus : KernelProg Outcome := do
  let dev ← locked .sgLock (loadUnder .sgLock)
  copyOut dev.sgEngine.status

def sgStreamXfer (enable : Byte) : Option (List Byte) → Option (List Byte) →
    KernelProg (Option (List Byte))
  | some frame, some rx => do
    let (frameLen, frame) := apexBuildFrame apexCmdSdrStream [enable] frame
    if frameLen > 0 then
      let x ← apexSpiXfer (frame.take frameLen.toNat) rx
      return x.sent
    return none
  | _, _ => return none

/-- The stream command that starts and stops the engine. -/
def sgSendStream (enable : Byte) (k : Nat) : KernelProg (Option (List Byte)) := do
  let frame ← kmalloc k frameSizeMax
  let rx ← kmalloc (k + 1) frameSizeMax
  let sent ← sgStreamXfer enable frame rx
  kfreeIf frame k
  kfreeIf rx (k + 1)
  return sent

def engineFrees : Nat → KernelProg Unit
  | 0 => return ()
  | n + 1 => do
    engineFree
    engineFrees n

/-- The DMA buffers from the `done`-th on; when one of them fails those before it are given
back. -/
def dmaBuffers (done : Nat) : Nat → KernelProg Bool
  | 0 => return true
  | left + 1 => do
    if ← engineAlloc (4 + done) then dmaBuffers (done + 1) left
    else
      engineFrees done
      return false

/-- `apex_sg_engine_start` under its lock. -/
def sgStart (config : SgConfig) : KernelProg Outcome := do
  let dev ← loadUnder .sgLock
  if dev.sgEngine.state ≠ .idle then return .done (-ebusy)
  if (← engineAlloc 2) = false then return .done (-enomem)
  if (← engineAlloc 3) = false then
    engineFree
    return .done (-enomem)
  if (← dmaBuffers 0 config.bufCount.toNat) = false then
    engineFrees 2
    return .done (-enomem)
  storeUnder .sgLock fun dev =>
    { dev with
      sgEngine :=
        { state := .running
          bufCount := config.bufCount
          bufSize := config.bufSize
          timeoutMs := config.timeoutMs
          continuous := config.continuous ≠ 0
          currentIdx := 0
          totalTransferred := 0
          overruns := 0
          errors := 0
          framesRx := 0
          framesCrcErr := 0
          sequence := 0 } }
  let sent ← sgSendStream 1 (4 + config.bufCount.toNat)
  scheduleSgWork
  return ⟨0, sent, []⟩

def apexSgEngineStart (config : SgConfig) : KernelProg Outcome := do
  let count := config.bufCount.toNat
  if count < 2 ∨ count > 64 then return .done (-einval)
  if config.bufSize.toNat < 4096 ∨ config.bufSize.toNat > 262144 then return .done (-einval)
  if config.bufSize.toNat % 4 ≠ 0 then return .done (-einval)
  locked .sgLock (sgStart config)

/-- `cancel_work_sync`. -/
def cancelWorkSync (l : BridgeLock) : KernelProg Unit := locked l (pure ())

/-- `apex_sg_engine_stop` under its lock. -/
def sgStop : KernelProg Outcome := do
  let dev ← loadUnder .sgLock
  if dev.sgEngine.state = .idle then return .done 0
  storeUnder .sgLock fun dev => { dev with sgEngine := { dev.sgEngine with state := .idle } }
  cancelWorkSync .sgWork
  let sent ← sgSendStream 0 2
  engineFrees (dev.sgEngine.bufCount.toNat + 2)
  return ⟨0, sent, []⟩

def apexSgEngineStop : KernelProg Outcome := locked .sgLock sgStop

def ioctlSgStart (arg : Nat → Byte) : KernelProg Outcome := do
  if (← copyUser 0) = false then return .done (-efault)
  apexSgEngineStart (SgConfig.ofUser arg)

def ioctlSwitch (cmd : BitVec 32) (arg : Nat → Byte) (frame rxBuf : List Byte) :
    KernelProg Outcome :=
  if cmd = apexIocSdrTune then ioctlSdrTune arg frame rxBuf
  else if cmd = apexIocSdrStream then ioctlSdrStream arg frame rxBuf
  else if cmd = apexIocAntSelect then ioctlAntSelect arg frame rxBuf
  else if cmd = apexIocCc1101Cfg then ioctlCc1101Cfg arg frame rxBuf
  else if cmd = apexIocNfcTransact then ioctlNfcTransact arg frame rxBuf
  else if cmd = apexIocGetTelemetry then ioctlGetTelemetry
  else if cmd = apexIocMcuReset then ioctlMcuReset arg
  else if cmd = apexIocGetStatus then ioctlGetStatus
  else if cmd = apexIocSgStart then ioctlSgStart arg
  else if cmd = apexIocSgStop then apexSgEngineStop
  else if cmd = apexIocSgGetStatus then ioctlSgGetStatus
  else return .done (-enotty)

/-- `apex_bridge_ioctl` behind its checks. -/
def requestFrames (cmd : BitVec 32) (arg : Nat → Byte) : KernelProg Outcome := do
  match ← kmalloc 0 frameSizeMax with
  | none => return .done (-enomem)
  | some frame =>
    match ← kmalloc 1 frameSizeMax with
    | none =>
      kfree 0
      return .done (-enomem)
    | some rxBuf =>
      let result ← ioctlSwitch cmd arg frame rxBuf
      kfree 0
      kfree 1
      return result

/-- Requests that read have the user's buffer checked for it. -/
def readAccess (cmd : BitVec 32) (arg : Nat → Byte) : KernelProg Outcome := do
  if (cmd >>> 30).toNat &&& iocRead ≠ 0 then
    if (← accessOk) = false then return .done (-efault)
  requestFrames cmd arg

def apexBridgeIoctl (cmd : BitVec 32) (arg : Nat → Byte) : KernelProg Outcome := do
  let nr := (cmd &&& 0xFF#32).toNat
  if (cmd >>> 8) &&& 0xFF#32 ≠ 0x41#32 then return .done (-enotty)
  if nr < 1 ∨ nr > 11 then return .done (-enotty)
  if (cmd >>> 30).toNat &&& iocWrite ≠ 0 then
    if (← accessOk) = false then return .done (-efault)
  readAccess cmd arg

def storeEngine (change : SgEngine → SgEngine) : KernelProg Unit :=
  store fun dev => { dev with sgEngine := change dev.sgEngine }

/-- One round of the loop of `apex_sg_work_handler`, which takes no lock for the engine. -/
def sgRound : KernelProg (Option Unit) := do
  let dev ← load
  if dev.sgEngine.state ≠ .running then return some ()
  if ← bufInUse then
    storeEngine fun eng =>
      { eng with
        overruns := eng.overruns + 1
        currentIdx := (dev.sgEngine.currentIdx + 1) % eng.bufCount }
    return none
  let ret ← locked .busLock spiAsync
  if ret < 0 then
    storeEngine fun eng => { eng with errors := eng.errors + 1 }
    let dev ← load
    if dev.sgEngine.errors > 100 then
      storeEngine fun eng => { eng with state := .error }
      return some ()
    msleep
    return none
  if (← waitDma) = false then storeEngine fun eng => { eng with errors := eng.errors + 1 }
  let dev ← load
  if dev.sgEngine.continuous = false ∧ dev.sgEngine.sequence ≥ dev.sgEngine.bufCount then
    storeEngine fun eng => { eng with state := .idle }
    return some ()
  return none

/-- `apex_sg_work_handler`, for at most so many rounds. -/
def apexSgWorkHandler (rounds : Nat) : KernelProg Outcome := locked .sgWork do
  let _ ← Prog.loop sgRound rounds
  return .done 0

/-- `apex_bridge_mmap` is called with the lock of the address space taken. -/
def apexBridgeMmap (pageShift vsize pgoff : Nat) : KernelProg Outcome := locked .mmapLock do
  let dev ← locked .sgLock (loadUnder .sgLock)
  let psize := dev.sgEngine.bufCount.toNat * dev.sgEngine.bufSize.toNat
  if dev.sgEngine.state = .idle then return .done (-enodev)
  if vsize > psize then return .done (-einval)
  if pgoff ≥ psize >>> pageShift then return .done (-einval)
  return .done (← dmaMmap)

def apexIrqHandler : KernelProg Outcome := do
  scheduleRxWork
  return .done 1

/-- An attribute of sysfs, read under its lock or without one. -/
def attributeShow (guard : Option BridgeLock) (render : Dev → List Byte) : KernelProg Outcome := do
  let dev ← match guard with
    | none => load
    | some l => locked l (loadUnder l)
  let text := render dev
  return ⟨text.length, none, text⟩

/-- `apex_bridge_remove` up to where it takes the driver apart. -/
def apexBridgeRemove : KernelProg Outcome := do
  apexMcuResetAssert
  pmPut
  cancelWorkSync .rxWork
  apexSgEngineStop

end Calls

/-- The calls of an operation. The worker is whatever it does to the engine. -/
def driverCalls : DriverOp → KernelProg Outcome
  | .open _ => Calls.apexBridgeOpen
  | .release => Calls.apexBridgeRelease
  | .read _ nonblock _ count => Calls.apexBridgeRead nonblock count
  | .write data => Calls.apexBridgeWrite data
  | .ioctl cmd arg => Calls.apexBridgeIoctl cmd arg
  | .rxWork => Calls.apexRxWorkHandler
  | .sgWorker work => do
      Calls.storeEngine work
      return .done 0

/-! ### Run alone -/

/-- What the kernel answers besides the surroundings of the operation. -/
structure Kernel where
  env : Env
  resumed : Int
  sawEmpty : Bool
  waited : Int

def DriverOp.kernel (op : DriverOp) (env : Env) : Kernel :=
  match op with
  | .open pmGet => ⟨env, pmGet, false, 0⟩
  | .read sawEmpty _ waited _ => ⟨env, 0, sawEmpty, waited⟩
  | .release | .write _ | .ioctl .. | .rxWork | .sgWorker _ => ⟨env, 0, false, 0⟩

def Kernel.device (k : Kernel) : Device KernelCall KernelCall.Answer Dev
  | .lock _, dev | .unlock _, dev | .kfree _, dev | .pmPut, dev | .wakeRx, dev | .msleep, dev
  | .engineFree, dev | .scheduleSgWork, dev | .scheduleRxWork, dev => ((), dev)
  | .kmalloc i size _, dev => (k.env.kmalloc i size, dev)
  | .accessOk, dev => (k.env.accessOk, dev)
  | .copyUser i, dev => (k.env.userCopy i, dev)
  | .pmGet, dev => (k.resumed, dev)
  | .spiSync _, dev => ((k.env.spiSync, k.env.miso), dev)
  | .fifoIsEmpty, dev => (k.sawEmpty, dev)
  | .waitRx, dev => (k.waited, dev)
  | .cmpxchgOpen, dev => (!dev.opened, { dev with opened := true })
  | .load _, dev => (dev, dev)
  | .store _ change, dev => ((), change dev)
  | .engineAlloc i, dev => (k.env.allocOk i, dev)
  | .bufInUse, dev => (false, dev)
  | .spiAsync, dev => ((0 : Int), dev)
  | .waitDma, dev => (true, dev)
  | .dmaMmap, dev => ((0 : Int), dev)

/-- The result of a program and the device behind it. -/
def Kernel.run {α : Type} (k : Kernel) (p : KernelProg α) (dev : Dev) : α × Dev :=
  let e := p.exec k.device dev
  (e.result, e.state)

def Outcome.on (r : Outcome) (dev : Dev) : Result := ⟨dev, r.ret, r.sent, r.out⟩

namespace Kernel

open Calls

variable {α β : Type} (k : Kernel) (dev : Dev)

@[simp] theorem run_pure (a : α) : k.run (pure a) dev = (a, dev) := rfl

@[simp] theorem run_bind (p : KernelProg α) (f : α → KernelProg β) :
    k.run (p >>= f) dev = k.run (f (k.run p dev).1) (k.run p dev).2 := by
  simp [Kernel.run, Prog.exec_bind]

@[simp] theorem run_perform (op : KernelCall) :
    k.run (.perform op) dev = k.device op dev := rfl

/-- Locks do nothing to a program that runs alone. -/
@[simp] theorem run_locked (l : BridgeLock) (p : KernelProg α) :
    k.run (locked l p) dev = k.run p dev := by
  unfold locked
  simp only [run_bind, run_pure]
  rfl

@[simp] theorem run_copyUser (i : Nat) : k.run (copyUser i) dev = (k.env.userCopy i, dev) :=
  run_locked k dev .mmapLock _

@[simp] theorem run_kmalloc (i size : Nat) :
    k.run (kmalloc i size) dev = (k.env.kmalloc i size, dev) := rfl

@[simp] theorem run_kmallocAtomic (i size : Nat) :
    k.run (kmallocAtomic i size) dev = (k.env.kmalloc i size, dev) := rfl

@[simp] theorem run_kfree (i : Nat) : k.run (kfree i) dev = ((), dev) := rfl

@[simp] theorem run_wakeRx : k.run wakeRx dev = ((), dev) := rfl

@[simp] theorem run_msleep : k.run msleep dev = ((), dev) := rfl

@[simp] theorem run_pmGet : k.run Calls.pmGet dev = (k.resumed, dev) := rfl

@[simp] theorem run_pmPut : k.run pmPut dev = ((), dev) := rfl

@[simp] theorem run_load : k.run load dev = (dev, dev) := rfl

@[simp] theorem run_loadUnder (l : BridgeLock) : k.run (loadUnder l) dev = (dev, dev) := rfl

@[simp] theorem run_store (change : Dev → Dev) : k.run (store change) dev = ((), change dev) := rfl

@[simp] theorem run_storeUnder (l : BridgeLock) (change : Dev → Dev) :
    k.run (storeUnder l change) dev = ((), change dev) := rfl

@[simp] theorem run_spiSync (tx : List Byte) :
    k.run (spiSync tx) dev = ((k.env.spiSync, k.env.miso), dev) := rfl

@[simp] theorem run_accessOk : k.run accessOk dev = (k.env.accessOk, dev) := rfl

@[simp] theorem run_engineAlloc (i : Nat) :
    k.run (engineAlloc i) dev = (k.env.allocOk i, dev) := rfl

@[simp] theorem run_engineFree : k.run engineFree dev = ((), dev) := rfl

@[simp] theorem run_scheduleSgWork : k.run scheduleSgWork dev = ((), dev) := rfl

@[simp] theorem run_cmpxchgOpen :
    k.run cmpxchgOpen dev = (!dev.opened, { dev with opened := true }) := rfl

@[simp] theorem run_fifoIsEmpty : k.run fifoIsEmpty dev = (k.sawEmpty, dev) := rfl

@[simp] theorem run_waitRx : k.run waitRx dev = (k.waited, dev) := rfl

theorem run_apexSpiXfer (tx rxBuf : List Byte) :
    k.run (Calls.apexSpiXfer tx rxBuf) dev =
      let x := Host.apexSpiXfer tx rxBuf k.env dev
      (⟨x.ret, x.rxBuf, x.sent⟩, x.dev) := by
  unfold Calls.apexSpiXfer Host.apexSpiXfer
  dsimp only
  split
  · rfl
  · simp only [run_bind, run_locked, run_spiSync]
    split
    · simp
    · simp

theorem run_pushRx (change : Dev → Dev) : k.run (Calls.pushRx change) dev = ((), change dev) := by
  unfold Calls.pushRx
  simp

theorem run_takeResponse (r : Received) :
    k.run (Calls.takeResponse r) dev = ((), dev.takeResponse r) := by
  unfold Calls.takeResponse Dev.takeResponse
  split_ifs <;> simp [run_pushRx]

theorem run_rxWorkFinish (rxLen : Int) (rxFrame : List Byte) :
    k.run (Calls.rxWorkFinish rxLen rxFrame) dev = ((), Host.rxWorkFinish rxLen rxFrame dev) := by
  unfold Calls.rxWorkFinish Host.rxWorkFinish
  split
  · rfl
  · cases apexValidateFrame (rxFrame.take rxLen.toNat) with
    | error code => rfl
    | ok r => exact run_takeResponse k dev r

theorem run_apexRxWorkHandler :
    let r := k.run Calls.apexRxWorkHandler dev
    r.1.on r.2 = Host.apexRxWorkHandler k.env dev := by
  unfold Calls.apexRxWorkHandler Calls.rxWorkFrames Calls.rxWorkXfer Host.apexRxWorkHandler
    Host.rxWorkXfer
  cases h0 : k.env.kmalloc 0 frameSizeMax with
  | none => simp [h0, Outcome.on, Result.done]
  | some rxFrame =>
      cases h1 : k.env.kmalloc 1 frameSizeMax with
      | none => simp [h0, h1, Outcome.on, Result.done]
      | some txFrame =>
          simp only [run_locked, run_bind, run_pmGet, run_kmalloc, h0, h1]
          split
          · simp [Outcome.on, Result.done]
          · simp [run_apexSpiXfer, run_rxWorkFinish, Outcome.on]

theorem run_apexBridgeOpen {pmGet : Int} (hresumed : k.resumed = pmGet) :
    let r := k.run Calls.apexBridgeOpen dev
    r.1.on r.2 = Host.apexBridgeOpen pmGet dev := by
  unfold Calls.apexBridgeOpen Host.apexBridgeOpen
  obtain ⟨rxFifo, lastTelem, flags, spiErrCount, brownoutCount, brownoutPrevFlag, opened,
    gpioMcuReset, gpioHostRdy, sgEngine, txFifo⟩ := dev
  cases opened with
  | true => simp [Outcome.on, Outcome.done, Result.done]
  | false =>
      by_cases hneg : pmGet < 0
      · simp [hresumed, hneg, Outcome.on, Outcome.done, Result.done]
      · simp [hresumed, hneg, Outcome.on, Outcome.done, Result.done]

theorem run_apexBridgeRelease :
    let r := k.run Calls.apexBridgeRelease dev
    r.1.on r.2 = Host.apexBridgeRelease dev := by
  simp [Calls.apexBridgeRelease, Host.apexBridgeRelease, Outcome.on, Outcome.done, Result.done]

theorem run_writeFinish (ret : Int) (rxBuf : List Byte) :
    k.run (Calls.writeFinish ret rxBuf) dev = ((), Host.writeFinish ret rxBuf dev) := by
  unfold Calls.writeFinish Host.writeFinish
  split
  · cases apexValidateFrame (rxBuf.take ret.toNat) with
    | error code => rfl
    | ok r =>
        dsimp only
        split
        · exact run_pushRx k dev _
        · rfl
  · rfl

theorem run_readRx (count : Nat) :
    let r := k.run (Calls.readRx count) dev
    r.1.on r.2 = Host.apexBridgeRead false false 0 count k.env dev := by
  unfold Calls.readRx Calls.takeRx Host.apexBridgeRead
  simp only [Bool.false_eq_true, false_and, if_false, run_bind, run_locked, run_loadUnder]
  by_cases hnone : min count dev.rxFifo.items.length = 0
  · simp [hnone, Outcome.on, Outcome.done, Result.done]
  cases hbuf : k.env.kmalloc 0 (min count dev.rxFifo.items.length) with
  | none => simp [hnone, hbuf, Outcome.on, Outcome.done, Result.done]
  | some kbuf =>
      cases hcopy : k.env.userCopy 0 <;>
        simp [hnone, hbuf, hcopy, Outcome.on, Outcome.done, Result.done]

theorem run_apexBridgeRead (nonblock : Bool) (count : Nat) :
    let r := k.run (Calls.apexBridgeRead nonblock count) dev
    r.1.on r.2 = Host.apexBridgeRead k.sawEmpty nonblock k.waited count k.env dev := by
  have hlocked := run_readRx k dev count
  unfold Calls.apexBridgeRead
  cases hsaw : k.sawEmpty with
  | false => simpa [hsaw, Host.apexBridgeRead] using hlocked
  | true =>
      cases nonblock with
      | true => simp [hsaw, Host.apexBridgeRead, Outcome.on, Outcome.done, Result.done]
      | false =>
          by_cases hwaited : k.waited = 0
          · simpa [hsaw, hwaited, Host.apexBridgeRead] using hlocked
          · simp [hsaw, hwaited, Host.apexBridgeRead, Outcome.on, Outcome.done, Result.done]

/-- A buffer is the memory of its allocation. -/
theorem kmalloc_of_ok {env : Env} {i : Nat} (h : env.allocOk i = true) (size : Nat) :
    env.kmalloc i size = some (memBytes (env.heap i) size) := if_pos h

theorem kmalloc_of_fail {env : Env} {i : Nat} (h : env.allocOk i = false) (size : Nat) :
    env.kmalloc i size = none := if_neg (by simp [h])

theorem run_apexBridgeWrite (data : List Byte) :
    let r := k.run (Calls.apexBridgeWrite data) dev
    r.1.on r.2 = Host.apexBridgeWrite data k.env dev := by
  unfold Calls.apexBridgeWrite Calls.writeFrames Calls.writeXfer Host.apexBridgeWrite
    Host.writeXfer
  by_cases hshort : data.length < 1
  · simp only [if_pos hshort]
    rfl
  by_cases hlong : data.length > maxPayload
  · simp only [if_neg hshort, if_pos hlong]
    rfl
  simp only [if_neg hshort, if_neg hlong, run_bind, run_kmalloc]
  cases h0 : k.env.allocOk 0 with
  | false => simp [kmalloc_of_fail h0, Outcome.on, Outcome.done, Result.done]
  | true =>
      cases hcopy : k.env.userCopy 0 with
      | false => simp [kmalloc_of_ok h0, hcopy, Outcome.on, Outcome.done, Result.done]
      | true =>
          cases h1 : k.env.kmalloc 1 frameSizeMax with
          | none => simp [kmalloc_of_ok h0, hcopy, h1, Outcome.on, Outcome.done, Result.done]
          | some frame =>
              cases h2 : k.env.kmalloc 2 frameSizeMax with
              | none =>
                  simp [kmalloc_of_ok h0, hcopy, h1, h2, Outcome.on, Outcome.done, Result.done]
              | some rxBuf =>
                  simp only [kmalloc_of_ok h0, run_bind, run_copyUser, hcopy, Bool.true_eq_false,
                    if_false, run_kmalloc, h1, h2]
                  split
                  · rfl
                  · simp [run_apexSpiXfer, run_writeFinish, Outcome.on]

theorem run_buildAndXfer (cmd : Byte) (payload frame rxBuf : List Byte) :
    let r := k.run (Calls.buildAndXfer cmd payload frame rxBuf) dev
    r.1.on r.2 = Host.buildAndXfer cmd payload frame rxBuf k.env dev := by
  unfold Calls.buildAndXfer Host.buildAndXfer
  dsimp only
  split
  · rfl
  · simp [run_apexSpiXfer, Outcome.on]

section

variable (arg : Nat → Byte) (frame rxBuf : List Byte)

theorem run_ioctlSdrTune :
    let r := k.run (Calls.ioctlSdrTune arg frame rxBuf) dev
    r.1.on r.2 = Host.ioctlSdrTune arg frame rxBuf k.env dev := by
  unfold Calls.ioctlSdrTune Host.ioctlSdrTune
  cases hcopy : k.env.userCopy 0 with
  | false => simp [hcopy, Outcome.on, Outcome.done, Result.done]
  | true => simpa [hcopy] using run_buildAndXfer k dev ..

theorem run_ioctlSdrStream :
    let r := k.run (Calls.ioctlSdrStream arg frame rxBuf) dev
    r.1.on r.2 = Host.ioctlSdrStream arg frame rxBuf k.env dev := by
  unfold Calls.ioctlSdrStream Host.ioctlSdrStream
  cases hcopy : k.env.userCopy 0 with
  | false => simp [hcopy, Outcome.on, Outcome.done, Result.done]
  | true => simpa [hcopy] using run_buildAndXfer k dev ..

theorem run_ioctlAntSelect :
    let r := k.run (Calls.ioctlAntSelect arg frame rxBuf) dev
    r.1.on r.2 = Host.ioctlAntSelect arg frame rxBuf k.env dev := by
  unfold Calls.ioctlAntSelect Host.ioctlAntSelect
  cases hcopy : k.env.userCopy 0 with
  | false => simp [hcopy, Outcome.on, Outcome.done, Result.done]
  | true =>
      by_cases hrange : (arg 0).toNat > apexAntTerminated
      · simp [hcopy, hrange, Outcome.on, Outcome.done, Result.done]
      · simpa [hcopy, hrange] using run_buildAndXfer k dev ..

theorem run_gathered {copied : KernelProg Bool} {ok : Bool}
    (hcopied : k.run copied dev = (ok, dev)) (size : Nat) (cmd : Byte) (payload : List Byte) :
    let r := k.run (Calls.gathered copied size cmd payload frame rxBuf) dev
    r.1.on r.2 =
      if k.env.allocOk 2 = false then .done dev (-enomem)
      else if ok = false then .done dev (-efault)
      else Host.buildAndXfer cmd payload frame rxBuf k.env dev := by
  unfold Calls.gathered
  cases h2 : k.env.allocOk 2 with
  | false => simp [kmalloc_of_fail h2, Outcome.on, Outcome.done, Result.done]
  | true =>
      cases ok with
      | false => simp [kmalloc_of_ok h2, hcopied, Outcome.on, Outcome.done, Result.done]
      | true => simpa [kmalloc_of_ok h2, hcopied] using run_buildAndXfer k dev ..

theorem run_ioctlCc1101Cfg :
    let r := k.run (Calls.ioctlCc1101Cfg arg frame rxBuf) dev
    r.1.on r.2 = Host.ioctlCc1101Cfg arg frame rxBuf k.env dev := by
  unfold Calls.ioctlCc1101Cfg Host.ioctlCc1101Cfg
  cases hcopy : k.env.userCopy 0 with
  | false => simp [hcopy, Outcome.on, Outcome.done, Result.done]
  | true =>
      by_cases hlen : (arg 1).toNat = 0 ∨ (arg 1).toNat > apexCc1101MaxRegLen
      · simp [hcopy, hlen, Outcome.on, Outcome.done, Result.done]
      · simpa [hcopy, hlen] using run_gathered k dev frame rxBuf (run_copyUser k dev 1)
          (2 + (arg 1).toNat) apexCmdCc1101Cfg (memBytes arg (2 + (arg 1).toNat))

theorem run_ioctlNfcTransact :
    let r := k.run (Calls.ioctlNfcTransact arg frame rxBuf) dev
    r.1.on r.2 = Host.ioctlNfcTransact arg frame rxBuf k.env dev := by
  unfold Calls.ioctlNfcTransact Host.ioctlNfcTransact
  cases hcopy : k.env.userCopy 0 with
  | false => simp [hcopy, Outcome.on, Outcome.done, Result.done]
  | true =>
      by_cases hlen : leValue [arg 2, arg 3] > apexNfcMaxDataLen
      · simp [hcopy, hlen, Outcome.on, Outcome.done, Result.done]
      · have hcopied : k.run (if leValue [arg 2, arg 3] > 0 then copyUser 1 else pure true) dev =
            (if leValue [arg 2, arg 3] > 0 then k.env.userCopy 1 else true, dev) := by
          split
          · exact run_copyUser k dev 1
          · rfl
        have hrun := run_gathered k dev frame rxBuf hcopied (4 + leValue [arg 2, arg 3])
          apexCmdNfcTransact (memBytes arg (4 + leValue [arg 2, arg 3]))
        simp only [run_bind, run_copyUser, hcopy, Bool.true_eq_false, if_false, if_neg hlen]
        rw [hrun]
        by_cases hdata : leValue [arg 2, arg 3] > 0
        · simp only [hdata, true_and, if_true]
        · simp only [hdata, false_and, if_false, Bool.true_eq_false]

theorem run_copyOut (bytes : List Byte) :
    let r := k.run (Calls.copyOut bytes) dev
    r.1.on r.2 = Host.copyOut bytes k.env dev := by
  unfold Calls.copyOut Host.copyOut
  cases hcopy : k.env.userCopy 0 <;> simp [hcopy, Outcome.on, Outcome.done, Result.done]

theorem run_ioctlMcuReset :
    let r := k.run (Calls.ioctlMcuReset arg) dev
    r.1.on r.2 = Host.ioctlMcuReset arg k.env dev := by
  unfold Calls.ioctlMcuReset Host.ioctlMcuReset Calls.apexMcuResetAssert
    Calls.apexMcuResetRelease
  cases hcopy : k.env.userCopy 0 with
  | false => simp [hcopy, Outcome.on, Outcome.done, Result.done]
  | true =>
      by_cases hzero : arg 0 ≠ 0
      · simp only [run_bind, run_copyUser, hcopy, Bool.true_eq_false, if_false, if_pos hzero]
        rfl
      · simp only [run_bind, run_copyUser, hcopy, Bool.true_eq_false, if_false, if_neg hzero]
        rfl

end

theorem run_kfreeIf (buf : Option (List Byte)) (i : Nat) :
    k.run (kfreeIf buf i) dev = ((), dev) := by
  cases buf <;> rfl

theorem run_sgSendStream (enable : Byte) (i : Nat) :
    k.run (Calls.sgSendStream enable i) dev =
      let r := Host.sgSendStream enable i k.env dev
      (r.2, r.1) := by
  unfold Calls.sgSendStream Host.sgSendStream
  simp only [run_bind, run_kmalloc, run_kfreeIf, run_pure]
  cases k.env.kmalloc i frameSizeMax with
  | none => rfl
  | some frame =>
      cases k.env.kmalloc (i + 1) frameSizeMax with
      | none => rfl
      | some rx =>
          dsimp only
          unfold Calls.sgStreamXfer
          dsimp only
          split
          · simp [run_apexSpiXfer]
          · rfl

theorem run_engineFrees (n : Nat) : k.run (Calls.engineFrees n) dev = ((), dev) := by
  induction n with
  | zero => rfl
  | succ n ih => simp [Calls.engineFrees, ih]

theorem run_dmaBuffers (done left : Nat) :
    k.run (Calls.dmaBuffers done left) dev =
      ((List.range left).all fun i => k.env.allocOk (4 + (done + i)), dev) := by
  induction left generalizing done with
  | zero => rfl
  | succ left ih =>
      have hrange : (List.range (left + 1)).all (fun i => k.env.allocOk (4 + (done + i))) =
          (k.env.allocOk (4 + done) &&
            (List.range left).all fun i => k.env.allocOk (4 + (done + 1 + i))) := by
        rw [List.range_succ_eq_map, List.all_cons, List.all_map]
        congr 2
        funext i
        show k.env.allocOk (4 + (done + (i + 1))) = k.env.allocOk (4 + (done + 1 + i))
        congr 2
        omega
      rw [hrange]
      cases halloc : k.env.allocOk (4 + done) with
      | false => simp [Calls.dmaBuffers, halloc, run_engineFrees]
      | true => simp [Calls.dmaBuffers, halloc, ih]

theorem run_sgStart (config : SgConfig) :
    let r := k.run (Calls.apexSgEngineStart config) dev
    r.1.on r.2 = Host.apexSgEngineStart config k.env dev := by
  unfold Calls.apexSgEngineStart Calls.sgStart Host.apexSgEngineStart
  dsimp only
  by_cases hcount : config.bufCount.toNat < 2 ∨ config.bufCount.toNat > 64
  · simp only [if_pos hcount]
    rfl
  by_cases hsize : config.bufSize.toNat < 4096 ∨ config.bufSize.toNat > 262144
  · simp only [if_neg hcount, if_pos hsize]
    rfl
  by_cases halign : config.bufSize.toNat % 4 ≠ 0
  · simp only [if_neg hcount, if_neg hsize, if_pos halign]
    rfl
  simp only [if_neg hcount, if_neg hsize, if_neg halign, run_locked, run_bind, run_loadUnder]
  by_cases hidle : dev.sgEngine.state = .idle
  swap
  · simp only [hidle, ne_eq, not_false_eq_true, if_true]
    rfl
  simp only [hidle, ne_eq, not_true_eq_false, if_false, run_bind, run_engineAlloc]
  rcases Bool.eq_false_or_eq_true (k.env.allocOk 2) with h2 | h2
  swap
  · simp [h2, Outcome.on, Outcome.done, Result.done]
  rcases Bool.eq_false_or_eq_true (k.env.allocOk 3) with h3 | h3
  swap
  · simp [h2, h3, Outcome.on, Outcome.done, Result.done]
  simp only [h2, h3, Bool.true_eq_false, if_false, run_bind, run_engineAlloc, run_dmaBuffers,
    Nat.zero_add]
  rcases Bool.eq_false_or_eq_true ((List.range config.bufCount.toNat).all fun i =>
    k.env.allocOk (4 + i)) with hdma | hdma
  · simp [hdma, run_sgSendStream, Outcome.on]
  · simp [hdma, run_engineFrees, Outcome.on, Outcome.done, Result.done]

theorem run_sgStop :
    let r := k.run Calls.apexSgEngineStop dev
    r.1.on r.2 = Host.apexSgEngineStop k.env dev := by
  unfold Calls.apexSgEngineStop Calls.sgStop Host.apexSgEngineStop cancelWorkSync
  simp only [run_locked, run_bind, run_loadUnder]
  by_cases hidle : dev.sgEngine.state = .idle
  · simp [hidle, Outcome.on, Outcome.done, Result.done]
  · simp [hidle, run_sgSendStream, run_engineFrees, Outcome.on]

/-- The two branches of a choice, each against its own result. -/
theorem run_ite {c : Prop} [Decidable c] {p q : KernelProg Outcome} {r s : Result}
    (hp : c → (k.run p dev).1.on (k.run p dev).2 = r)
    (hq : ¬ c → (k.run q dev).1.on (k.run q dev).2 = s) :
    (k.run (if c then p else q) dev).1.on (k.run (if c then p else q) dev).2 =
      if c then r else s := by
  split
  · next h => exact hp h
  · next h => exact hq h

theorem run_ioctlSgStart (arg : Nat → Byte) :
    let r := k.run (Calls.ioctlSgStart arg) dev
    r.1.on r.2 =
      if k.env.userCopy 0 = false then .done dev (-efault)
      else Host.apexSgEngineStart (SgConfig.ofUser arg) k.env dev := by
  unfold Calls.ioctlSgStart
  cases hcopy : k.env.userCopy 0 with
  | false => simp [hcopy, Outcome.on, Outcome.done, Result.done]
  | true => simpa [hcopy] using run_sgStart k dev (SgConfig.ofUser arg)

theorem run_ioctlSwitch (cmd : BitVec 32) (arg : Nat → Byte) (frame rxBuf : List Byte) :
    let r := k.run (Calls.ioctlSwitch cmd arg frame rxBuf) dev
    r.1.on r.2 = Host.ioctlSwitch cmd arg frame rxBuf k.env dev := by
  unfold Calls.ioctlSwitch Host.ioctlSwitch
  refine run_ite k dev (fun _ => run_ioctlSdrTune k dev ..) fun _ => ?_
  refine run_ite k dev (fun _ => run_ioctlSdrStream k dev ..) fun _ => ?_
  refine run_ite k dev (fun _ => run_ioctlAntSelect k dev ..) fun _ => ?_
  refine run_ite k dev (fun _ => run_ioctlCc1101Cfg k dev ..) fun _ => ?_
  refine run_ite k dev (fun _ => run_ioctlNfcTransact k dev ..) fun _ => ?_
  refine run_ite k dev (fun _ => ?_) fun _ => ?_
  · simpa [ioctlGetTelemetry] using run_copyOut k dev dev.lastTelem
  refine run_ite k dev (fun _ => run_ioctlMcuReset k dev ..) fun _ => ?_
  refine run_ite k dev (fun _ => ?_) fun _ => ?_
  · simpa [ioctlGetStatus] using run_copyOut k dev (leBytes 4 dev.flags.status)
  refine run_ite k dev (fun _ => run_ioctlSgStart k dev ..) fun _ => ?_
  refine run_ite k dev (fun _ => run_sgStop k dev) fun _ => ?_
  refine run_ite k dev (fun _ => ?_) fun _ => rfl
  simpa [ioctlSgGetStatus] using run_copyOut k dev dev.sgEngine.status

/-- The request with its two frames. -/
def framesResult (cmd : BitVec 32) (arg : Nat → Byte) (env : Env) (dev : Dev) : Result :=
  match env.kmalloc 0 frameSizeMax with
  | none => .done dev (-enomem)
  | some frame =>
    match env.kmalloc 1 frameSizeMax with
    | none => .done dev (-enomem)
    | some rxBuf => Host.ioctlSwitch cmd arg frame rxBuf env dev

section

variable (cmd : BitVec 32) (arg : Nat → Byte)

theorem run_requestFrames :
    let r := k.run (Calls.requestFrames cmd arg) dev
    r.1.on r.2 = framesResult cmd arg k.env dev := by
  unfold Calls.requestFrames framesResult
  cases h0 : k.env.kmalloc 0 frameSizeMax with
  | none => simp [h0, Outcome.on, Outcome.done, Result.done]
  | some frame =>
      cases h1 : k.env.kmalloc 1 frameSizeMax with
      | none => simp [h0, h1, Outcome.on, Outcome.done, Result.done]
      | some rxBuf => simpa [h0, h1] using run_ioctlSwitch k dev cmd arg frame rxBuf

theorem run_readAccess :
    let r := k.run (Calls.readAccess cmd arg) dev
    r.1.on r.2 =
      if (cmd >>> 30).toNat &&& iocRead ≠ 0 ∧ k.env.accessOk = false then .done dev (-efault)
      else framesResult cmd arg k.env dev := by
  have hframes := run_requestFrames k dev cmd arg
  unfold Calls.readAccess
  generalize (cmd >>> 30).toNat &&& iocRead = dir
  by_cases hdir : dir = 0
  · simpa [hdir] using hframes
  · cases haccess : k.env.accessOk with
    | false => simp [hdir, haccess, Outcome.on, Outcome.done, Result.done]
    | true => simpa [hdir, haccess] using hframes

theorem run_apexBridgeIoctl :
    let r := k.run (Calls.apexBridgeIoctl cmd arg) dev
    r.1.on r.2 = Host.apexBridgeIoctl cmd arg k.env dev := by
  have hread := run_readAccess k dev cmd arg
  show _ = ite _ _ (ite _ _ (ite _ _ (ite _ _ (framesResult cmd arg k.env dev))))
  unfold Calls.apexBridgeIoctl
  refine run_ite k dev (fun _ => rfl) fun _ => ?_
  refine run_ite k dev (fun _ => rfl) fun _ => ?_
  rw [← hread]
  generalize (cmd >>> 30).toNat &&& iocWrite = dir
  by_cases hdir : dir = 0
  · simp [hdir]
  · cases haccess : k.env.accessOk with
    | false => simp [hdir, haccess, Outcome.on, Outcome.done, Result.done]
    | true => simp [hdir, haccess]

end

end Kernel

/-- Run alone, the calls of an operation do what the operation says. -/
theorem driverCalls_run (op : DriverOp) (env : Env) (dev : Dev) :
    let r := (op.kernel env).run (driverCalls op) dev
    r.1.on r.2 = driverOp op env dev := by
  cases op with
  | «open» pmGet => exact Kernel.run_apexBridgeOpen _ dev rfl
  | release => exact Kernel.run_apexBridgeRelease _ dev
  | read sawEmpty nonblock waited count => exact Kernel.run_apexBridgeRead _ dev nonblock count
  | write data => exact Kernel.run_apexBridgeWrite _ dev data
  | ioctl cmd arg => exact Kernel.run_apexBridgeIoctl _ dev cmd arg
  | rxWork => exact Kernel.run_apexRxWorkHandler _ dev
  | sgWorker work => rfl

end GhostBlade.Host
