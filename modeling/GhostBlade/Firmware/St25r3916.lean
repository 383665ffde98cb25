import GhostBlade.Library.Bytes
import GhostBlade.Library.Interaction

/-!
The driver of the NFC reader (`st25r3916_init.c`). Its calls are programs over
the transfers on the bus of the chip and the accesses to the buffers of the
caller, and the chip is any device that answers the register reads. Whatever it
answers, a transaction that switches the field on switches it off, and stays
within the buffers.
-/

namespace GhostBlade.Firmware

open GhostBlade.Library

/-- A register write or read, a direct command with the chip select around it,
and the accesses of a call to `tx_data`, `rx_data` and `*rx_len`. -/
inductive NfcOp where
  | writeRegister (addr val : Byte)
  | readRegister (addr : Byte)
  | directCommand (byte : Byte)
  | loadTx (i : Nat)
  | storeRx (i : Nat) (val : Byte)
  | storeRxLen (len : BitVec 16)
deriving DecidableEq

abbrev NfcOp.Answer : NfcOp → Type
  | .readRegister _ => Byte
  | _ => Unit

abbrev NfcProg := Prog NfcOp NfcOp.Answer

abbrev NfcDevice := Device NfcOp NfcOp.Answer

namespace St25r3916

open Prog

/-! ### Registers, commands and flags -/

def regIcIdentity : Byte := 0x00
def regIoConf1 : Byte := 0x02
def regIoConf2 : Byte := 0x03
def regOpCtrl : Byte := 0x04
def regModeDef : Byte := 0x05
def regBitRate : Byte := 0x06
def regIso14443aMode : Byte := 0x07
def regAntCalTarget : Byte := 0x0B
def regAntCalTime : Byte := 0x0C
def regRxConf1 : Byte := 0x12
def regRxConf2 : Byte := 0x13
def regRxConf3 : Byte := 0x14
def regRxConf4 : Byte := 0x15
def regTxDriver : Byte := 0x16
def regTxCurrent : Byte := 0x17
def regCorrConf1 : Byte := 0x1B
def regCorrConf2 : Byte := 0x1C
def regTimerEmv : Byte := 0x1D
def regTimer1 : Byte := 0x1E
def regTimer2 : Byte := 0x1F
def regTimer3 : Byte := 0x20
def regIrqMask1 : Byte := 0x21
def regIrqMask2 : Byte := 0x22
def regIrqMask3 : Byte := 0x23
def regIrqMask4 : Byte := 0x24
def regIrqMask5 : Byte := 0x25
def regNumTxBytes1 : Byte := 0x26
def regNumTxBytes2 : Byte := 0x27
def regNumTxBytes3 : Byte := 0x28
def regNumRxBytes1 : Byte := 0x2A
def regNumRxBytes2 : Byte := 0x2B
def regWupTimer : Byte := 0x2F
def regWupTimerGran : Byte := 0x30
def regSlpTimer : Byte := 0x31
def regSlpTimerGran : Byte := 0x32
def regAgcConfig : Byte := 0x34
def regAmConfig : Byte := 0x35
def regAmGrange1 : Byte := 0x36
def regAmGrange2 : Byte := 0x37
def regAmGrange3 : Byte := 0x38
def regOscConf : Byte := 0x3E
def regVregConf : Byte := 0x3F

def regIrqStatus1 : Byte := 0x04
def regIrqStatus2 : Byte := 0x05
def regIrqStatus3 : Byte := 0x06
def regIrqStatus4 : Byte := 0x07
def regIrqStatus5 : Byte := 0x08

/-- Written, the address of timer 2 is the TX FIFO. -/
def regTxFifo : Byte := 0x1F
def regRxFifo : Byte := 0x1F

def cmdSetDefault : Byte := 0xC1
def cmdInitializeDpo : Byte := 0xC3
def cmdClearIrqs : Byte := 0xC4
def cmdTxOn : Byte := 0xC6
def cmdTxOff : Byte := 0xC7
def cmdCalibrateAntenna : Byte := 0xC8

def irq1Osc : Byte := 1 <<< 0
def irq1Nfca : Byte := 1 <<< 2
def irq1Txe : Byte := 1 <<< 6
def irq1Rxe : Byte := 1 <<< 7
def irq2Rxs : Byte := 1 <<< 4
def irq3Crc : Byte := 1 <<< 2
def irq3Eon : Byte := 1 <<< 3
def irq3Eof : Byte := 1 <<< 4

def nfcCmdReqa : Byte := 0x26
def nfcCmdWupa : Byte := 0x52

def fifoSizeVal : BitVec 16 := 512

/-! ### Register access -/

def writeReg (addr val : Byte) : NfcProg Unit :=
  if addr > 0x3F then pure () else perform (NfcOp.writeRegister addr val)

def readReg (addr : Byte) : NfcProg Byte :=
  if addr > 0x3F then pure 0xFF else perform (NfcOp.readRegister addr)

def sendCommand (cmd : Byte) : NfcProg Unit :=
  if cmd < 0xC1 ∨ cmd > 0xD3 then pure () else perform (NfcOp.directCommand (cmd ||| 0x80))

theorem writeReg_of_le {addr : Byte} (h : addr ≤ 0x3F) (val : Byte) :
    writeReg addr val = perform (NfcOp.writeRegister addr val) :=
  if_neg (BitVec.not_lt.mpr h)

theorem readReg_of_le {addr : Byte} (h : addr ≤ 0x3F) :
    readReg addr = perform (NfcOp.readRegister addr) :=
  if_neg (BitVec.not_lt.mpr h)

/-- The commands all have the bit that the transfer sets. -/
theorem command_bit7 : ∀ cmd : Byte, 0xC1 ≤ cmd → cmd ||| 0x80 = cmd := by decide

theorem sendCommand_of_mem {cmd : Byte} (hlow : 0xC1 ≤ cmd) (hhigh : cmd ≤ 0xD3) :
    sendCommand cmd = perform (NfcOp.directCommand cmd) := by
  unfold sendCommand
  rw [if_neg (by bv_omega), command_bit7 cmd hlow]

/-- The variables for the flags, 0 where a register is not read. -/
structure IrqStatus where
  irq1 : Byte
  irq2 : Byte
  irq3 : Byte
  irq4 : Byte
  irq5 : Byte

def readIrq (wanted : Bool) (addr : Byte) : NfcProg Byte :=
  if wanted then readReg addr else pure 0

def clearInterrupts (irq1 irq2 irq3 irq4 irq5 : Bool) : NfcProg IrqStatus := do
  let irq1 ← readIrq irq1 regIrqStatus1
  let irq2 ← readIrq irq2 regIrqStatus2
  let irq3 ← readIrq irq3 regIrqStatus3
  let irq4 ← readIrq irq4 regIrqStatus4
  let irq5 ← readIrq irq5 regIrqStatus5
  sendCommand cmdClearIrqs
  return ⟨irq1, irq2, irq3, irq4, irq5⟩

/-! ### Initialisation -/

/-- The registers of steps 3 to 19, in the order they are written. -/
def configuration : List (Byte × Byte) :=
  [(regOscConf, 0x18), (regIoConf1, 0x01), (regIoConf2, 0x00), (regOpCtrl, 0x00),
    (regModeDef, 0x01), (regBitRate, 0x00), (regIso14443aMode, 0x0D), (regRxConf1, 0x12),
    (regRxConf2, 0x2D), (regRxConf3, 0x01), (regRxConf4, 0x00), (regAgcConfig, 0x00),
    (regAmConfig, 0x02), (regAmGrange1, 0xFF), (regAmGrange2, 0xFF), (regAmGrange3, 0xFF),
    (regTxDriver, 0x08), (regTxCurrent, 0x40), (regCorrConf1, 0x00), (regCorrConf2, 0x00),
    (regTimerEmv, 0x0A), (regTimer1, 0x0A), (regTimer2, 0x0A), (regTimer3, 0x21),
    (regWupTimer, 0x00), (regWupTimerGran, 0x00), (regSlpTimer, 0x00), (regSlpTimerGran, 0x00),
    (regVregConf, 0x00), (regIrqMask1, irq1Osc ||| irq1Txe ||| irq1Rxe ||| irq1Nfca),
    (regIrqMask2, irq2Rxs), (regIrqMask3, irq3Eon ||| irq3Eof), (regIrqMask4, 0x00),
    (regIrqMask5, 0x00)]

/-- Steps 3 to 24; the delays are left out. -/
def configure : NfcProg Int := do
  sendCommand cmdSetDefault
  configuration.forM fun (addr, val) => writeReg addr val
  sendCommand cmdClearIrqs
  writeReg regAntCalTarget 0x05
  writeReg regAntCalTime 0x07
  sendCommand cmdCalibrateAntenna
  writeReg regOpCtrl 0x03
  let irq ← clearInterrupts true false false false false
  if irq.irq1 &&& irq1Osc = 0 then
    let irq ← clearInterrupts true false false false false
    if irq.irq1 &&& irq1Osc = 0 then
      return -2
  sendCommand cmdInitializeDpo
  return 0

/-- `st25r3916_init`. -/
def init : NfcProg Int := do
  let icId ← readReg regIcIdentity
  if icId ≠ 0x39 ∧ icId ≠ 0x89 then return -1 else configure

/-! ### Transactions -/

def iso14443aReqa : NfcProg Int := do
  sendCommand cmdClearIrqs
  writeReg regNumTxBytes1 0x01
  writeReg regNumTxBytes2 0x00
  writeReg regNumTxBytes3 0x00
  writeReg regTxFifo 0x26
  sendCommand cmdTxOn
  let irq ← clearInterrupts true false false false false
  if irq.irq1 &&& irq1Rxe ≠ 0 then
    return 0
  else
    return -1

/-- The arguments: a pointer to data to send with what it points to, whether
`rx_data` is given, and `*rx_len` where `rx_len` is. -/
structure TransactArgs where
  cmd : Byte
  txData : Option (Nat → Byte)
  txLen : BitVec 16
  rxData : Bool
  rxLen : Option (BitVec 16)
  timeoutMs : BitVec 32

namespace TransactArgs

variable (a : TransactArgs)

def invalid : Bool :=
  (0#16 < a.txLen && a.txData.isNone) || a.rxLen.any (fun len => 0#16 < len && !a.rxData) ||
    (a.rxData && a.rxLen.isNone)

def clampedTxLen : BitVec 16 := if a.txLen > fifoSizeVal then fifoSizeVal else a.txLen

def timeoutCount : BitVec 32 := (if a.timeoutMs = 0#32 then 100 else a.timeoutMs) * 1500

/-- Commands that are sent as a frame of their own. -/
def shortFrame : Bool := a.cmd = nfcCmdReqa || a.cmd = nfcCmdWupa

/-- Where the received bytes go, if the caller wants them. -/
def rxBuffer : Option (BitVec 16) := if a.rxData then a.rxLen else none

end TransactArgs

def writeTxCount (bytes : BitVec 16) : NfcProg Unit := do
  writeReg regNumTxBytes1 ((bytes &&& 0xFF).setWidth 8)
  writeReg regNumTxBytes2 ((bytes >>> 8 &&& 0xFF).setWidth 8)
  writeReg regNumTxBytes3 0x00

def writeTxFifo (txData : Nat → Byte) (txLen : Nat) : NfcProg Unit :=
  (List.range txLen).forM fun i => do
    perform (NfcOp.loadTx i)
    writeReg regTxFifo (txData i)

def writeShortFrame (a : TransactArgs) : NfcProg Unit :=
  if a.shortFrame then writeReg regTxFifo a.cmd else pure ()

/-- Step 2. -/
def programTxCount (a : TransactArgs) : NfcProg Unit :=
  if 0#16 < a.clampedTxLen ∨ a.shortFrame then
    writeTxCount (if 0#16 < a.clampedTxLen then a.clampedTxLen else 1)
  else
    pure ()

/-- Step 3. -/
def writeRequest (a : TransactArgs) : NfcProg Unit :=
  match a.txData with
  | some txData =>
      if 0#16 < a.clampedTxLen then writeTxFifo txData a.clampedTxLen.toNat else writeShortFrame a
  | none => writeShortFrame a

/-- What precedes the transmission. -/
def prepare (a : TransactArgs) : NfcProg Unit := do
  sendCommand cmdClearIrqs
  programTxCount a
  writeRequest a

/-- The three reads of one poll. -/
def pollStatus : NfcProg IrqStatus := do
  let irq1 ← readReg regIrqStatus1
  let irq2 ← readReg regIrqStatus2
  let irq3 ← readReg regIrqStatus3
  return ⟨irq1, irq2, irq3, 0, 0⟩

/-- Step 5; an error where the loop returns from the call. -/
def pollLoop : Nat → NfcProg (Option Int)
  | 0 => return none
  | n + 1 => do
      let irq ← pollStatus
      if irq.irq1 &&& irq1Rxe ≠ 0 then
        return none
      else if irq.irq3 &&& irq3Crc ≠ 0 then
        sendCommand cmdClearIrqs
        sendCommand cmdTxOff
        return some (-2)
      else
        pollLoop n

def clampRx (rxBytes rxLen : BitVec 16) : BitVec 16 :=
  let rxBytes := if rxBytes > fifoSizeVal then fifoSizeVal else rxBytes
  if rxBytes > rxLen then rxLen else rxBytes

def readRxCount : NfcProg (BitVec 16) := do
  let low ← readReg regNumRxBytes1
  let high ← readReg regNumRxBytes2
  return (low &&& 0xFF).setWidth 16 ||| (high &&& 0xFF).setWidth 16 <<< 8

def readRxFifo (rxBytes : Nat) : NfcProg Unit :=
  (List.range rxBytes).forM fun i => do
    let val ← readReg regRxFifo
    perform (NfcOp.storeRx i val)

/-- Step 6, with both pointers given. -/
def receive (rxLen : BitVec 16) : NfcProg Unit := do
  let rxBytes := clampRx (← readRxCount) rxLen
  readRxFifo rxBytes.toNat
  perform (NfcOp.storeRxLen rxBytes)

/-- The check for a timeout and what follows it. -/
def finish (a : TransactArgs) (irq : IrqStatus) : NfcProg Int :=
  if irq.irq1 &&& irq1Rxe = 0 then do
    sendCommand cmdTxOff
    return -1
  else do
    match a.rxBuffer with
    | some rxLen => receive rxLen
    | none => pure ()
    sendCommand cmdTxOff
    return 0

/-- What follows the polls: the last look at the flags decides. -/
def conclude (a : TransactArgs) : NfcProg Int := do
  let irq ← clearInterrupts true true true false false
  finish a irq

def transact (a : TransactArgs) : NfcProg Int :=
  if a.invalid then return -3 else do
    prepare a
    sendCommand cmdTxOn
    match ← pollLoop a.timeoutCount.toNat with
    | some error => return error
    | none => conclude a

end St25r3916

end GhostBlade.Firmware
