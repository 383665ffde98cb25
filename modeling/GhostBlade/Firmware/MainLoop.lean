import GhostBlade.Firmware.SpiProtocol
import GhostBlade.Firmware.Spi0Isr
import GhostBlade.Library.Run

/-!
The firmware as it is linked: all modules' variables, the two versions of the
SPI0 interrupt handler, and the main loop. `rp2350b_init.c` brings a weak
handler that stores received bytes in a ring; `spi0_isr.c` is linked too and its
handler replaces it. The main loop drains the ring of the weak handler.
-/

namespace GhostBlade.Firmware

open GhostBlade.Library GhostBlade.Protocol

/-- Where the main loop is within an iteration. -/
inductive LoopPc where
  | process
  | tick
  | battery
  | telemetry
  | brownout
deriving DecidableEq, Repr

/-- The variables of `main` and its record of initialised modules. -/
structure MainState where
  pc : LoopPc
  now : BitVec 32
  lastTelemTime : BitVec 32
  lastBattTime : BitVec 32
  brownoutActive : Bool
  batteryMonitorReady : Bool
  cc1101Ready : Bool
  st25r3916Ready : Bool
  loopCount : BitVec 32

structure Mcu where
  proto : SpiProtocol
  spiRx : Ring Byte 8192
  spiRxOverrun : BitVec 32
  isr : Spi0
  sspdr : List Byte
  main : MainState

/-- What the main loop reads from the clock and the sensors. -/
structure Sensors where
  nowMs : BitVec 32
  vbatMv : BitVec 16
  tempCX10 : BitVec 16
  ccRssiX10 : BitVec 16
  nfcFieldMv : BitVec 16

/-- The body of the loop in the weak `spi0_handler`. -/
def storeRxByte (fw : Mcu) (byte : Byte) : Mcu :=
  if fw.spiRx.head + 1 ≠ fw.spiRx.tail then { fw with spiRx := fw.spiRx.put byte }
  else { fw with spiRxOverrun := fw.spiRxOverrun + 1 }

/-- The weak `spi0_handler` of `rp2350b_init.c`. -/
def weakSpi0Handler (rxFifo : List Byte) (fw : Mcu) : Mcu :=
  rxFifo.foldl storeRxByte fw

/-- The interrupt as linked: the handler of `spi0_isr.c`. -/
def interrupt (rxFifo : List Byte) (tnf : Nat → Bool) (fw : Mcu) : Mcu :=
  let (isr, board, sent) := spi0Handler rxFifo tnf fw.isr fw.proto.board
  { fw with isr := isr, proto := { fw.proto with board := board }, sspdr := fw.sspdr ++ sent }

/-- `battery_is_brownout`: the result is the new state of the flag. -/
def batteryIsBrownout (vbatMv : BitVec 16) (brownoutActive : Bool) : Bool :=
  if brownoutActive then decide ¬ vbatMv ≥ 3000#16 else decide (vbatMv < 2800#16)

def collectTelemetry (m : MainState) (s : Sensors) (p : SpiProtocol) : SpiProtocol :=
  spiProtocolUpdateTelemetry 0
    (if m.batteryMonitorReady then s.tempCX10 else 0)
    (if m.batteryMonitorReady then s.vbatMv else 0)
    (if m.cc1101Ready then s.ccRssiX10 else 0)
    (if m.st25r3916Ready then s.nfcFieldMv else 0) p

/-- The next statement of the main loop. -/
def mainStep (s : Sensors) (fw : Mcu) : Mcu :=
  match fw.main.pc with
  | .process =>
      let (p, spiRx, _) := spiProtocolProcess fw.proto fw.spiRx
      { fw with proto := p, spiRx := spiRx, main := { fw.main with pc := .tick } }
  | .tick =>
      { fw with
        proto := spiProtocolTick fw.proto
        main := { fw.main with pc := .battery, now := s.nowMs } }
  | .battery =>
      if fw.main.now - fw.main.lastBattTime ≥ 1000#32 then
        { fw with
          proto := collectTelemetry fw.main s fw.proto
          main := { fw.main with pc := .telemetry, lastBattTime := fw.main.now } }
      else { fw with main := { fw.main with pc := .telemetry } }
  | .telemetry =>
      if fw.main.now - fw.main.lastTelemTime ≥ 100#32 then
        { fw with
          proto := spiProtocolSendTelemetry fw.proto
          main := { fw.main with pc := .brownout, lastTelemTime := fw.main.now } }
      else { fw with main := { fw.main with pc := .brownout } }
  | .brownout =>
      let main := { fw.main with pc := .process, loopCount := fw.main.loopCount + 1 }
      if fw.main.batteryMonitorReady then
        let brownout := batteryIsBrownout s.vbatMv fw.main.brownoutActive
        { fw with
          proto := spiProtocolSetBrownout brownout fw.proto
          main := { main with brownoutActive := brownout } }
      else { fw with main := main }

/-- What happens in the linked firmware: an SPI0 interrupt, or the next
statement of the main loop. -/
inductive LinkedEvent where
  | interrupt (rxFifo : List Byte) (tnf : Nat → Bool)
  | main (s : Sensors)

def linkedStep (fw : Mcu) : LinkedEvent → Mcu
  | .interrupt rxFifo tnf => interrupt rxFifo tnf fw
  | .main s => mainStep s fw

/-- The variables after `init_peripherals` and the last write to the interrupt
line before the loop; the flags say which peripherals came up. -/
def boot (batteryMonitorReady cc1101Ready st25r3916Ready : Bool) : Mcu where
  proto :=
    let p : SpiProtocol :=
      { rx := RxCtx.zero
        stats := ProtoStats.zero
        device := DeviceState.zero
        tx := ⟨fun _ => 0, 0, 0⟩
        board := gpioInit ⟨0, []⟩
        dispatched := [] }
    let p := spiProtocolInit p
    { p with board := p.board.setPin pinIntReq }
  spiRx := ⟨fun _ => 0, 0, 0⟩
  spiRxOverrun := 0
  isr := Spi0.zero
  sspdr := []
  main :=
    { pc := .process
      now := 0
      lastTelemTime := 0
      lastBattTime := 0
      brownoutActive := false
      batteryMonitorReady := batteryMonitorReady
      cc1101Ready := cc1101Ready
      st25r3916Ready := st25r3916Ready
      loopCount := 0 }

/-- As long as the ring is not full the weak handler stores what it reads. -/
theorem storeRxByte_unread (fw : Mcu) (byte : Byte) (h : fw.spiRx.used + 1 < 8192) :
    storeRxByte fw byte = { fw with spiRx := fw.spiRx.put byte } ∧
      (fw.spiRx.put byte).unread = fw.spiRx.unread ++ [byte] := by
  have hroom : fw.spiRx.head + 1 ≠ fw.spiRx.tail := by
    intro heq
    have hused := fw.spiRx.put_used byte h
    have hempty : (fw.spiRx.put byte).used = 0 := (Ring.used_eq_zero_iff _).mpr heq
    omega
  exact ⟨if_pos hroom, fw.spiRx.put_unread byte h⟩

/-- The fallback firmware on one byte: the weak handler, then the main loop's
call of `spi_protocol_process`. -/
def fallbackByte (fw : Mcu) (byte : Byte) : Mcu :=
  let fw := weakSpi0Handler [byte] fw
  let (p, spiRx, _) := spiProtocolProcess fw.proto fw.spiRx
  { fw with proto := p, spiRx := spiRx }

end GhostBlade.Firmware
