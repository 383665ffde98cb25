import GhostBlade.Library.Bytes

/-!
The peripherals the command handlers touch (`rp2350b_init.c`): the GPIO output
register, the FIFO of the antenna state machine and the SPI1 bus to the radio
chips. Next to the current output register the board keeps everything written
to these three, in order.
-/

namespace GhostBlade.Firmware

open GhostBlade.Library

inductive BusWrite where
  | gpioOut (value : BitVec 32)
  | pio0Txf0 (word : Byte)
  | spi1 (byte : Byte)
deriving DecidableEq, Repr

structure Board where
  gpioOut : BitVec 32
  writes : List BusWrite

def pinCcSpiCsn : Nat := 10
def pinIntReq : Nat := 20
def pinSdrReset : Nat := 31
def pinSdrGpio0 : Nat := 32
def pinSdrGpio1 : Nat := 33
def pinSdrLnaEn : Nat := 34
def pinNfcSpiCsn : Nat := 43

/-- `1UL << n` in the 32-bit output register: no bit at all from 32 on. -/
def pinMask (n : Nat) : BitVec 32 := BitVec.twoPow 32 n

def Board.writeGpioOut (b : Board) (value : BitVec 32) : Board :=
  ⟨value, b.writes ++ [.gpioOut value]⟩

def Board.setPin (b : Board) (n : Nat) : Board := b.writeGpioOut (b.gpioOut ||| pinMask n)

def Board.clearPin (b : Board) (n : Nat) : Board := b.writeGpioOut (b.gpioOut &&& ~~~pinMask n)

def Board.level (b : Board) (n : Nat) : Bool := b.gpioOut.getLsbD n

theorem pinMask_getLsbD (n m : Nat) : (pinMask n).getLsbD m = (decide (n < 32) && n == m) := by
  simp [pinMask, BitVec.getLsbD_twoPow, beq_eq_decide]

@[simp] theorem Board.setPin_level (b : Board) (n m : Nat) :
    (b.setPin n).level m = (b.level m || (decide (n < 32) && n == m)) := by
  simp [Board.setPin, Board.writeGpioOut, Board.level, pinMask_getLsbD]

@[simp] theorem Board.clearPin_level (b : Board) (n m : Nat) :
    (b.clearPin n).level m = (b.level m && !(decide (n < 32) && n == m)) := by
  simp only [Board.clearPin, Board.writeGpioOut, Board.level, BitVec.getLsbD_and,
    BitVec.getLsbD_not, pinMask_getLsbD]
  by_cases hm : m < 32
  · simp [hm]
  · have hout : b.gpioOut.getLsbD m = false := BitVec.getLsbD_of_ge _ _ (by omega)
    simp [hout]

/-- The output register `gpio_init` writes: the idle level of every output. -/
def gpioInit (b : Board) : Board :=
  b.writeGpioOut
    (pinMask pinIntReq ||| pinMask pinSdrReset ||| pinMask pinCcSpiCsn ||| pinMask pinNfcSpiCsn)

def intReqAssert (b : Board) : Board := b.clearPin pinIntReq

def intReqDeassert (b : Board) : Board := b.setPin pinIntReq

/-- The interrupt line to the host is active low. -/
def Board.intReqLow (b : Board) : Bool := !b.level pinIntReq

def apexSdrTxEnable (enable : Bool) (b : Board) : Board :=
  if enable then b.setPin pinSdrGpio0 else b.clearPin pinSdrGpio0

def apexSdrRxEnable (enable : Bool) (b : Board) : Board :=
  if enable then b.setPin pinSdrGpio1 else b.clearPin pinSdrGpio1

def apexSdrLnaEnable (enable : Bool) (b : Board) : Board :=
  if enable then b.setPin pinSdrLnaEn else b.clearPin pinSdrLnaEn

def apexAntennaSelect (antId : Byte) (b : Board) : Board :=
  { b with writes := b.writes ++ [.pio0Txf0 (antId &&& 0x03#8)] }

def apexCc1101CsAssert (b : Board) : Board := b.clearPin pinCcSpiCsn

def apexCc1101CsRelease (b : Board) : Board := b.setPin pinCcSpiCsn

/-- The byte that comes back is dropped by every caller modelled here. -/
def apexCc1101SpiXfer (txByte : Byte) (b : Board) : Board :=
  { b with writes := b.writes ++ [.spi1 txByte] }

def apexCc1101WriteBurst (addr : Byte) (data : List Byte) (b : Board) : Board :=
  let b := apexCc1101CsAssert b
  let b := apexCc1101SpiXfer (addr ||| 0x40#8) b
  let b := data.foldl (fun b x => apexCc1101SpiXfer x b) b
  apexCc1101CsRelease b

@[simp] theorem intReqLow_assert (b : Board) : (intReqAssert b).intReqLow = true := by
  simp [intReqAssert, Board.intReqLow, pinIntReq]

@[simp] theorem intReqLow_deassert (b : Board) : (intReqDeassert b).intReqLow = false := by
  simp [intReqDeassert, Board.intReqLow, pinIntReq]

@[simp] theorem intReqLow_antennaSelect (antId : Byte) (b : Board) :
    (apexAntennaSelect antId b).intReqLow = b.intReqLow := rfl

@[simp] theorem intReqLow_sdrRxEnable (enable : Bool) (b : Board) :
    (apexSdrRxEnable enable b).intReqLow = b.intReqLow := by
  cases enable <;> simp [apexSdrRxEnable, Board.intReqLow, pinIntReq, pinSdrGpio1]

@[simp] theorem intReqLow_sdrLnaEnable (enable : Bool) (b : Board) :
    (apexSdrLnaEnable enable b).intReqLow = b.intReqLow := by
  cases enable <;> simp [apexSdrLnaEnable, Board.intReqLow, pinIntReq, pinSdrLnaEn]

theorem spiXfers_level (data : List Byte) (b : Board) (n : Nat) :
    (data.foldl (fun b x => apexCc1101SpiXfer x b) b).level n = b.level n := by
  induction data generalizing b with
  | nil => rfl
  | cons x data ih =>
      rw [List.foldl_cons, ih]
      rfl

@[simp] theorem intReqLow_cc1101WriteBurst (addr : Byte) (data : List Byte) (b : Board) :
    (apexCc1101WriteBurst addr data b).intReqLow = b.intReqLow := by
  have hbus : (apexCc1101SpiXfer (addr ||| 0x40#8) (apexCc1101CsAssert b)).level pinIntReq =
      b.level pinIntReq := by
    change (b.clearPin pinCcSpiCsn).level pinIntReq = _
    simp [pinIntReq, pinCcSpiCsn]
  have hcs : (apexCc1101WriteBurst addr data b).level pinIntReq = b.level pinIntReq := by
    simp only [apexCc1101WriteBurst, apexCc1101CsRelease, Board.setPin_level, spiXfers_level, hbus]
    simp [pinIntReq, pinCcSpiCsn]
  rw [Board.intReqLow, Board.intReqLow, hcs]

end GhostBlade.Firmware
