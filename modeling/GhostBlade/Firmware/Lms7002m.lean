import GhostBlade.Firmware.Lms7002mPll
import GhostBlade.Library.Routines

/-!
The driver of the SDR transceiver (`lms7002m_driver.c`). Its calls are programs
over the 32-bit transfers to the chip, the millisecond clock and the buffers of
the caller; they take the driver's state and return it with their result. A
register read hands its 16 bits on as a signed number, where negative numbers
are errors. The wait for a register has no count of its own: it is given a
number of rounds here, and a call that is still waiting behind them has no
result.
-/

namespace GhostBlade.Firmware

open GhostBlade.Library

inductive LmsOp where
  | xfer (cmd : BitVec 32)
  | timestampMs
  | delayMs (ms : BitVec 32)
  | store (i : Nat) (val : BitVec 16)
deriving DecidableEq

abbrev LmsOp.Answer : LmsOp → Type
  | .xfer _ => BitVec 32
  | .timestampMs => BitVec 32
  | _ => Unit

abbrev LmsProg := Prog LmsOp LmsOp.Answer

abbrev LmsDevice := Device LmsOp LmsOp.Answer

namespace Lms7002m

open Prog

/-! ### State -/

def regTop : BitVec 16 := 0x0020
def regRev : BitVec 16 := 0x0021
def regReset : BitVec 16 := 0x0022
def regSxrPllInt : BitVec 16 := 0x0110
def regSxrPllFracH : BitVec 16 := 0x0111
def regSxrPllFracL : BitVec 16 := 0x0112
def regSxrDiv : BitVec 16 := 0x0113
def regSxrVcoCtrl : BitVec 16 := 0x0114
def regSxtPllInt : BitVec 16 := 0x0120
def regSxtPllFracH : BitVec 16 := 0x0121
def regSxtPllFracL : BitVec 16 := 0x0122
def regSxtDiv : BitVec 16 := 0x0123
def regSxtVcoCtrl : BitVec 16 := 0x0124
def regRxGainLna : BitVec 16 := 0x0130
def regRxGainPga : BitVec 16 := 0x0131
def regTxGain : BitVec 16 := 0x0140
def regAdcDecimation : BitVec 16 := 0x0150
def regDacInterpolation : BitVec 16 := 0x0151
def regFifoCtrl : BitVec 16 := 0x0160
def regFifoStatus : BitVec 16 := 0x0161
def regStreamCtrl : BitVec 16 := 0x0162
def regCalCtrl : BitVec 16 := 0x0170
def regCalStatus : BitVec 16 := 0x0171
def regCalResultH : BitVec 16 := 0x0172
def regCalResultL : BitVec 16 := 0x0173

/-- `enum lms7002m_channel`; the values from `LMS7002M_CH_COUNT` on are no channels. -/
abbrev Channel := BitVec 32

def chA : Channel := 0
def chB : Channel := 1
def chCount : Channel := 2

structure PllConfig where
  nint : BitVec 16
  nfrac : BitVec 32
  divOut : BitVec 8
  vcoHigh : Bool
deriving DecidableEq

structure GainConfig where
  lnaGain : BitVec 8
  tiaEnable : Bool
  pgaGain : BitVec 8
  txGain : BitVec 8
deriving DecidableEq

structure RateConfig where
  sampleRate : BitVec 32
  decimation : BitVec 8
  interpolation : BitVec 8
deriving DecidableEq

structure FifoConfig where
  watermark : BitVec 16
  enabled : Bool
  format : BitVec 8
deriving DecidableEq

structure CalResult where
  dcComplete : Bool
  iqGainComplete : Bool
  iqPhaseComplete : Bool
  dcOffsetI : BitVec 16
  dcOffsetQ : BitVec 16
  iqGainCorr : BitVec 16
  iqPhaseCorr : BitVec 16
deriving DecidableEq

structure Driver where
  initialized : Bool
  activeChannel : Channel
  rxPll : PllConfig
  txPll : PllConfig
  rxGain : GainConfig
  txGain : GainConfig
  rate : RateConfig
  fifo : FifoConfig
  cal : CalResult
  rxFrequencyHz : BitVec 64
  txFrequencyHz : BitVec 64
  spiSpeedHz : BitVec 32
deriving DecidableEq

/-- What `memset` leaves. -/
def Driver.zero : Driver where
  initialized := false
  activeChannel := 0
  rxPll := ⟨0, 0, 0, false⟩
  txPll := ⟨0, 0, 0, false⟩
  rxGain := ⟨0, false, 0, 0⟩
  txGain := ⟨0, false, 0, 0⟩
  rate := ⟨0, 0, 0⟩
  fifo := ⟨0, false, 0⟩
  cal := ⟨false, false, false, 0, 0, 0, 0⟩
  rxFrequencyHz := 0
  txFrequencyHz := 0
  spiSpeedHz := 0

/-! ### Register access -/

def cmdWrite (addr data : BitVec 16) : BitVec 32 :=
  (addr &&& 0x3FFF).setWidth 32 <<< 16 ||| data.setWidth 32

def cmdRead (addr : BitVec 16) : BitVec 32 := ((addr &&& 0x3FFF) ||| 0x8000).setWidth 32 <<< 16

/-- `(int16_t)(resp & 0xFFFF)`, as an `int`. -/
def readValue (resp : BitVec 32) : Int := (resp.setWidth 16).toInt

def spiRead (drv : Driver) (addr : BitVec 16) : LmsProg Int :=
  if !drv.initialized then return errNotInitialized
  else do
    let resp ← perform (LmsOp.xfer (cmdRead addr))
    return readValue resp

def spiWrite (addr data : BitVec 16) : LmsProg Int := do
  let _ ← perform (LmsOp.xfer (cmdWrite addr data))
  return ok

/-- Writes in a row, up to the first that fails. -/
def spiWrites : List (BitVec 16 × BitVec 16) → LmsProg Int
  | [] => return ok
  | (addr, data) :: rest => do
      let ret ← spiWrite addr data
      if ret ≠ ok then return ret else spiWrites rest

/-- Reads in a row into the buffer from index `i` on, up to the first that fails. -/
def spiReads (drv : Driver) : Nat → List (BitVec 16) → LmsProg Int
  | _, [] => return ok
  | i, addr :: rest => do
      let val ← spiRead drv addr
      if val < 0 then return val
      else do
        perform (LmsOp.store i (.ofInt 16 val))
        spiReads drv (i + 1) rest

/-- A block of registers that does not wrap around. -/
def validBlock (startAddr numRegs : BitVec 16) : Bool :=
  numRegs ≠ 0 && startAddr.toNat + numRegs.toNat ≤ 0x4000

def blockAddrs (startAddr numRegs : BitVec 16) : List (BitVec 16) :=
  (List.range numRegs.toNat).map fun i => startAddr + .ofNat 16 i

def spiReadBurst (drv : Driver) (startAddr : BitVec 16) (buf : Bool) (numRegs : BitVec 16) :
    LmsProg Int :=
  if !buf then return errInvalidParam
  else if !validBlock startAddr numRegs then return errInvalidParam
  else do
    let ret ← spiReads drv 0 (blockAddrs startAddr numRegs)
    if ret < 0 then return ret else return numRegs.toNat

def spiWriteBurst (startAddr : BitVec 16) (data : Option (Nat → BitVec 16)) (numRegs : BitVec 16) :
    LmsProg Int :=
  match data with
  | none => return errInvalidParam
  | some data =>
      if !validBlock startAddr numRegs then return errInvalidParam
      else do
        let words := (List.range numRegs.toNat).map data
        let ret ← spiWrites ((blockAddrs startAddr numRegs).zip words)
        if ret ≠ ok then return ret else return numRegs.toNat

/-! ### Waiting -/

/-- One round of the wait, which may end it. -/
def pollBitmask (drv : Driver) (addr mask value : BitVec 16) (timeoutMs start : BitVec 32) :
    LmsProg (Option Int) := do
  let regVal ← spiRead drv addr
  if regVal < 0 then return some regVal
  else if .ofInt 16 regVal &&& mask = value then return some ok
  else do
    let now ← perform LmsOp.timestampMs
    if now - start ≥ timeoutMs then return some errTimeout
    else do
      perform (LmsOp.delayMs 1)
      return none

def waitForBitmask (rounds : Nat) (drv : Driver) (addr mask value : BitVec 16)
    (timeoutMs : BitVec 32) : LmsProg (Option Int) := do
  let start ← perform LmsOp.timestampMs
  loop (pollBitmask drv addr mask value timeoutMs start) rounds

/-! ### Initialisation -/

def resetTimeoutMs : BitVec 32 := 50

def reset : LmsProg Int := do
  let ret ← spiWrite regReset 0x0001
  if ret ≠ ok then return ret
  else do
    perform (LmsOp.delayMs 10)
    let ret ← spiWrite regReset 0x0000
    if ret ≠ ok then return ret
    else do
      perform (LmsOp.delayMs resetTimeoutMs)
      return ok

def setChannel (drv : Driver) (ch : Channel) : LmsProg Driver :=
  if ch ≥ chCount then return drv
  else do
    let _ ← spiWrite regTop (if ch = chB then 0x0002 else 0x0001)
    return { drv with activeChannel := ch }

/-- The defaults of `lms7002m_init`. -/
def Driver.withDefaults (drv : Driver) : Driver :=
  { drv with
    activeChannel := chA
    rxGain := { drv.rxGain with lnaGain := 0, tiaEnable := true, pgaGain := 0 }
    txGain := { drv.txGain with txGain := 0 }
    rate := ⟨2000000, 4, 4⟩
    fifo := ⟨2048, false, 0⟩ }

def init (drv : Driver) (spiSpeedHz : BitVec 32) : LmsProg (Int × Driver) :=
  if spiSpeedHz > 20000000 then return (errInvalidParam, drv)
  else do
    let drv := { Driver.zero with spiSpeedHz := spiSpeedHz }
    let ret ← reset
    if ret ≠ ok then return (ret, drv)
    else do
      let rev ← spiRead drv regRev
      if rev < 0 then return (errSpi, drv)
      else do
        let drv := drv.withDefaults
        let ret ← spiWrite regTop 0x0001
        if ret ≠ ok then return (ret, drv)
        else return (ok, { drv with initialized := true })

/-! ### Streaming -/

def startRx (drv : Driver) : LmsProg (Int × Driver) :=
  if !drv.initialized then return (errNotInitialized, drv)
  else do
    let fifoCtrl := 0x0001 ||| drv.fifo.format.setWidth 16 <<< 1
    let ret ← spiWrite regFifoCtrl fifoCtrl
    if ret ≠ ok then return (ret, drv)
    else do
      let drv := { drv with fifo := { drv.fifo with enabled := true } }
      let ret ← spiWrite regStreamCtrl 0x0001
      if ret ≠ ok then return (ret, drv) else return (ok, drv)

def stopRx (drv : Driver) : LmsProg Driver :=
  if !drv.initialized then return drv
  else do
    let _ ← spiWrite regStreamCtrl 0x0000
    let _ ← spiWrite regFifoCtrl 0x0000
    return { drv with fifo := { drv.fifo with enabled := false } }

def startTx (drv : Driver) : LmsProg (Int × Driver) :=
  if !drv.initialized then return (errNotInitialized, drv)
  else do
    let ret ← spiWrite regStreamCtrl 0x0002
    if ret ≠ ok then return (ret, drv) else return (ok, drv)

def stopTx (drv : Driver) : LmsProg Driver :=
  if !drv.initialized then return drv
  else do
    let _ ← spiWrite regStreamCtrl 0x0000
    return drv

def deinit (drv : Driver) : LmsProg Driver :=
  if !drv.initialized then return drv
  else do
    let drv ← stopRx drv
    let drv ← stopTx drv
    let drv := { drv with fifo := { drv.fifo with enabled := false } }
    let _ ← spiWrite regFifoCtrl 0x0000
    let _ ← spiWrite regTop 0x0000
    return { drv with initialized := false }

/-! ### Tuning and gain -/

def pllLockTimeoutMs : BitVec 32 := 100
def sampleRateMin : BitVec 32 := 100000
def sampleRateMax : BitVec 32 := 10000000
def vcoHThresholdHz : BitVec 64 := 3720000000

/-- The decimation or interpolation for a sample rate. -/
def rateDivider (sampleRate : BitVec 32) : BitVec 8 :=
  if sampleRate ≥ 5000000 then 1
  else if sampleRate ≥ 2500000 then 2
  else if sampleRate ≥ 1250000 then 4
  else if sampleRate ≥ 625000 then 8
  else if sampleRate ≥ 312500 then 16
  else 32

/-- The registers of one synthesizer and of its converter, and where the driver
keeps what it has set. -/
structure Synthesizer where
  pllInt : BitVec 16
  pllFracH : BitVec 16
  pllFracL : BitVec 16
  div : BitVec 16
  vcoCtrl : BitVec 16
  converter : BitVec 16
  save : Driver → BitVec 64 → PllConfig → BitVec 32 → BitVec 8 → Driver

def rxSynthesizer : Synthesizer where
  pllInt := regSxrPllInt
  pllFracH := regSxrPllFracH
  pllFracL := regSxrPllFracL
  div := regSxrDiv
  vcoCtrl := regSxrVcoCtrl
  converter := regAdcDecimation
  save drv freqHz pll sampleRate decimation :=
    { drv with
      rxFrequencyHz := freqHz
      rxPll := pll
      rate := { drv.rate with sampleRate := sampleRate, decimation := decimation } }

/-- The sample rate itself is kept for reception only. -/
def txSynthesizer : Synthesizer where
  pllInt := regSxtPllInt
  pllFracH := regSxtPllFracH
  pllFracL := regSxtPllFracL
  div := regSxtDiv
  vcoCtrl := regSxtVcoCtrl
  converter := regDacInterpolation
  save drv freqHz pll _ interpolation :=
    { drv with
      txFrequencyHz := freqHz
      txPll := pll
      rate := { drv.rate with interpolation := interpolation } }

def Synthesizer.pllWrites (sx : Synthesizer) (pll : PllParams) : List (BitVec 16 × BitVec 16) :=
  [(sx.pllInt, pll.nint), (sx.pllFracH, ((pll.nfrac >>> 16) &&& 0xFF).setWidth 16),
    (sx.pllFracL, (pll.nfrac &&& 0xFFFF).setWidth 16), (sx.div, pll.divOut.setWidth 16),
    (sx.vcoCtrl, 0x0001)]

/-- What a call keeps of its parameters. -/
def PllParams.config (pll : PllParams) (freqHz : BitVec 64) : PllConfig :=
  ⟨pll.nint, pll.nfrac, pll.divOut, freqHz * pll.divOut.setWidth 64 ≥ vcoHThresholdHz⟩

/-- The checks of a configuration call, and the parameters they lead to. -/
def checkConfig (drv : Driver) (freqHz : BitVec 64) (sampleRate : BitVec 32) (ch : Channel) :
    Except Int PllParams :=
  if !drv.initialized then .error errNotInitialized
  else if freqHz < freqMin ∨ freqHz > freqMax then .error errInvalidParam
  else if sampleRate < sampleRateMin ∨ sampleRate > sampleRateMax then .error errInvalidParam
  else if ch ≥ chCount then .error errInvalidParam
  else calculatePllParams freqHz refClkHz

/-- What follows the wait for the lock. -/
def Synthesizer.finish (sx : Synthesizer) (drv : Driver) (freqHz : BitVec 64) (pll : PllParams)
    (sampleRate : BitVec 32) (locked : Int) : LmsProg (Int × Driver) :=
  if locked ≠ ok then return (errPllLock, drv)
  else do
    let divider := rateDivider sampleRate
    let ret ← spiWrite sx.converter (divider.setWidth 16)
    if ret ≠ ok then return (ret, drv)
    else return (ok, sx.save drv freqHz (pll.config freqHz) sampleRate divider)

def Synthesizer.configure (sx : Synthesizer) (rounds : Nat) (drv : Driver) (freqHz : BitVec 64)
    (sampleRate : BitVec 32) (ch : Channel) : LmsProg (Option Int × Driver) :=
  match checkConfig drv freqHz sampleRate ch with
  | .error code => return (some code, drv)
  | .ok pll => do
      let drv ← setChannel drv ch
      let ret ← spiWrites (sx.pllWrites pll)
      if ret ≠ ok then return (some ret, drv)
      else do
        match ← waitForBitmask rounds drv sx.vcoCtrl 0x0002 0x0002 pllLockTimeoutMs with
        | none => return (none, drv)
        | some locked => do
            let (code, drv) ← sx.finish drv freqHz pll sampleRate locked
            return (some code, drv)

def configureRx (rounds : Nat) (drv : Driver) (freqHz : BitVec 64) (sampleRate : BitVec 32)
    (ch : Channel) : LmsProg (Option Int × Driver) :=
  rxSynthesizer.configure rounds drv freqHz sampleRate ch

def configureTx (rounds : Nat) (drv : Driver) (freqHz : BitVec 64) (sampleRate : BitVec 32)
    (ch : Channel) : LmsProg (Option Int × Driver) :=
  txSynthesizer.configure rounds drv freqHz sampleRate ch

/-- The gain of the first and of the last stage for a total in tenths of a decibel. -/
def splitRxGain (tiaEnable : Bool) (gainDbX10 : Int) : BitVec 8 × BitVec 8 :=
  let remaining := if tiaEnable then gainDbX10 - 120 else gainDbX10
  let remaining := if remaining < 0 then 0 else remaining
  if remaining ≤ 730 then (.ofInt 8 (remaining.tdiv 10), 0)
  else
    let remaining := remaining - 730
    let remaining := if remaining > 310 then 310 else remaining
    (73, .ofInt 8 (remaining.tdiv 10))

def setRxGain (drv : Driver) (gainDbX10 : BitVec 16) : LmsProg (Int × Driver) :=
  if !drv.initialized then return (errNotInitialized, drv)
  else if gainDbX10.toInt < 0 ∨ gainDbX10.toInt > 1160 then return (errInvalidParam, drv)
  else do
    let (lnaGain, pgaGain) := splitRxGain drv.rxGain.tiaEnable gainDbX10.toInt
    let ret ← spiWrites [(regRxGainLna, lnaGain.setWidth 16), (regRxGainPga, pgaGain.setWidth 16)]
    if ret ≠ ok then return (ret, drv)
    else
      return (ok, { drv with rxGain := { drv.rxGain with lnaGain := lnaGain, pgaGain := pgaGain } })

def setTxGain (drv : Driver) (gainDbX10 : BitVec 16) : LmsProg (Int × Driver) :=
  if !drv.initialized then return (errNotInitialized, drv)
  else if gainDbX10.toInt < 0 ∨ gainDbX10.toInt > 520 then return (errInvalidParam, drv)
  else do
    let txGainIdx : BitVec 8 := .ofInt 8 (gainDbX10.toInt.tdiv 10)
    let ret ← spiWrite regTxGain (txGainIdx.setWidth 16)
    if ret ≠ ok then return (ret, drv)
    else return (ok, { drv with txGain := { drv.txGain with txGain := txGainIdx } })

/-! ### Calibration -/

def dcCalTimeoutMs : BitVec 32 := 500
def iqCalTimeoutMs : BitVec 32 := 1000

/-- What both calibrations end with: the two result words, then the enable bits
are cleared. -/
def readResults (drv : Driver) (save : BitVec 32 → BitVec 32 → CalResult) :
    LmsProg (Int × Driver) := do
  let resultH ← spiRead drv regCalResultH
  let resultL ← spiRead drv regCalResultL
  if resultH < 0 ∨ resultL < 0 then return (errSpi, drv)
  else do
    let drv := { drv with cal := save (.ofInt 32 resultH) (.ofInt 32 resultL) }
    let _ ← spiWrite regCalCtrl 0x0000
    return (ok, drv)

def CalResult.withDc (cal : CalResult) (resultH resultL : BitVec 32) : CalResult :=
  { cal with
    dcOffsetI := (resultH <<< 8 ||| (resultL >>> 8 &&& 0xFF)).setWidth 16
    dcOffsetQ := ((resultL &&& 0xFF) - if resultL &&& 0x80 ≠ 0 then 0x100 else 0).setWidth 16
    dcComplete := true }

def CalResult.withIq (cal : CalResult) (resultH resultL : BitVec 32) : CalResult :=
  { cal with
    iqGainCorr := (resultH &&& 0x3FF).setWidth 16
    iqPhaseCorr := (resultL &&& 0x1FF).setWidth 16
    iqGainComplete := true
    iqPhaseComplete := true }

/-- The waits for bits of `CAL_STATUS`, one after the other, and then the rest. -/
def waitCalibrated (rounds : Nat) (drv : Driver) (timeoutMs : BitVec 32)
    (rest : LmsProg (Int × Driver)) : List (BitVec 16) → LmsProg (Option Int × Driver)
  | [] => do
      let (code, drv) ← rest
      return (some code, drv)
  | bit :: bits => do
      match ← waitForBitmask rounds drv regCalStatus bit bit timeoutMs with
      | none => return (none, drv)
      | some code =>
          if code ≠ ok then return (some errCalibration, drv)
          else waitCalibrated rounds drv timeoutMs rest bits

/-- The course of a calibration: `enable` starts it, `bits` tell its end. -/
def calibrate (rounds : Nat) (drv : Driver) (ch : Channel) (enable : BitVec 16)
    (bits : List (BitVec 16)) (timeoutMs : BitVec 32)
    (save : CalResult → BitVec 32 → BitVec 32 → CalResult) : LmsProg (Option Int × Driver) :=
  if !drv.initialized then return (some errNotInitialized, drv)
  else if ch ≥ chCount then return (some errInvalidParam, drv)
  else do
    let drv ← setChannel drv ch
    let ret ← spiWrite regCalCtrl enable
    if ret ≠ ok then return (some ret, drv)
    else waitCalibrated rounds drv timeoutMs (readResults drv (save drv.cal)) bits

def calibrateDc (rounds : Nat) (drv : Driver) (ch : Channel) (timeoutMs : BitVec 32) :
    LmsProg (Option Int × Driver) :=
  calibrate rounds drv ch 0x0001 [0x0001] (if timeoutMs ≠ 0 then timeoutMs else dcCalTimeoutMs)
    CalResult.withDc

inductive Direction where
  | rx
  | tx
deriving DecidableEq

/-- The direction is not looked at. -/
def calibrateIq (rounds : Nat) (drv : Driver) (_direction : Direction) (ch : Channel)
    (timeoutMs : BitVec 32) : LmsProg (Option Int × Driver) :=
  calibrate rounds drv ch 0x0006 [0x0002, 0x0004]
    (if timeoutMs ≠ 0 then timeoutMs else iqCalTimeoutMs) CalResult.withIq

/-! ### Status and samples -/

/-- The fill level and the lock flag, both wanted. -/
def getStatus (drv : Driver) : LmsProg (Except Int (BitVec 16 × Bool)) :=
  if !drv.initialized then return .error errNotInitialized
  else do
    let status ← spiRead drv regFifoStatus
    if status < 0 then return .error status
    else
      let word : BitVec 32 := .ofInt 32 status
      return .ok ((word &&& 0x0FFF).setWidth 16, word &&& 0x8000 ≠ 0)

/-- I and Q of a sample are two reads in a row, stored in a row. -/
def readFifo (drv : Driver) (buf : Bool) (numSamples : BitVec 16) : LmsProg Int :=
  if !drv.initialized then return errNotInitialized
  else if !buf || numSamples = 0 then return errInvalidParam
  else do
    match ← getStatus drv with
    | .error code => return code
    | .ok (fifoFill, _) =>
        let numSamples := if fifoFill < numSamples then fifoFill else numSamples
        let ret ← spiReads drv 0 (List.replicate (2 * numSamples.toNat) regFifoStatus)
        if ret < 0 then return ret else return numSamples.toNat

def writeFifo (drv : Driver) (buf : Option (Nat → BitVec 16)) (numSamples : BitVec 16) :
    LmsProg Int :=
  if !drv.initialized then return errNotInitialized
  else
    match buf with
    | none => return errInvalidParam
    | some buf =>
        if numSamples = 0 then return errInvalidParam
        else do
          let words := (List.range (2 * numSamples.toNat)).map fun i => (regFifoStatus, buf i)
          let ret ← spiWrites words
          if ret ≠ ok then return ret else return numSamples.toNat

/-! ### The public functions -/

inductive Call where
  | init (spiSpeedHz : BitVec 32)
  | deinit
  | configureRx (freqHz : BitVec 64) (sampleRate : BitVec 32) (ch : Channel)
  | configureTx (freqHz : BitVec 64) (sampleRate : BitVec 32) (ch : Channel)
  | setRxGain (gainDbX10 : BitVec 16)
  | setTxGain (gainDbX10 : BitVec 16)
  | startRx
  | stopRx
  | startTx
  | stopTx
  | calibrateDc (ch : Channel) (timeoutMs : BitVec 32)
  | calibrateIq (direction : Direction) (ch : Channel) (timeoutMs : BitVec 32)
  | readFifo (buf : Bool) (numSamples : BitVec 16)
  | writeFifo (buf : Option (Nat → BitVec 16)) (numSamples : BitVec 16)
  | getStatus
  | spiRead (addr : BitVec 16)
  | spiWrite (addr data : BitVec 16)
  | spiReadBurst (startAddr : BitVec 16) (buf : Bool) (numRegs : BitVec 16)
  | spiWriteBurst (startAddr : BitVec 16) (data : Option (Nat → BitVec 16)) (numRegs : BitVec 16)
  | reset
  | setChannel (ch : Channel)

/-- The result of a call and the driver behind it; a function without a result
counts as successful. -/
def Call.prog (rounds : Nat) (drv : Driver) : Call → LmsProg (Option Int × Driver)
  | .init spiSpeedHz => return Prod.map some id (← Lms7002m.init drv spiSpeedHz)
  | .deinit => return (some ok, ← Lms7002m.deinit drv)
  | .configureRx freqHz sampleRate ch => Lms7002m.configureRx rounds drv freqHz sampleRate ch
  | .configureTx freqHz sampleRate ch => Lms7002m.configureTx rounds drv freqHz sampleRate ch
  | .setRxGain gainDbX10 => return Prod.map some id (← Lms7002m.setRxGain drv gainDbX10)
  | .setTxGain gainDbX10 => return Prod.map some id (← Lms7002m.setTxGain drv gainDbX10)
  | .startRx => return Prod.map some id (← Lms7002m.startRx drv)
  | .stopRx => return (some ok, ← Lms7002m.stopRx drv)
  | .startTx => return Prod.map some id (← Lms7002m.startTx drv)
  | .stopTx => return (some ok, ← Lms7002m.stopTx drv)
  | .calibrateDc ch timeoutMs => Lms7002m.calibrateDc rounds drv ch timeoutMs
  | .calibrateIq direction ch timeoutMs => Lms7002m.calibrateIq rounds drv direction ch timeoutMs
  | .readFifo buf numSamples => return (some (← Lms7002m.readFifo drv buf numSamples), drv)
  | .writeFifo buf numSamples => return (some (← Lms7002m.writeFifo drv buf numSamples), drv)
  | .getStatus => do
      match ← Lms7002m.getStatus drv with
      | .error code => return (some code, drv)
      | .ok _ => return (some ok, drv)
  | .spiRead addr => return (some (← Lms7002m.spiRead drv addr), drv)
  | .spiWrite addr data => return (some (← Lms7002m.spiWrite addr data), drv)
  | .spiReadBurst startAddr buf numRegs =>
      return (some (← Lms7002m.spiReadBurst drv startAddr buf numRegs), drv)
  | .spiWriteBurst startAddr data numRegs =>
      return (some (← Lms7002m.spiWriteBurst startAddr data numRegs), drv)
  | .reset => return (some (← Lms7002m.reset), drv)
  | .setChannel ch => return (some ok, ← Lms7002m.setChannel drv ch)

end Lms7002m

end GhostBlade.Firmware
