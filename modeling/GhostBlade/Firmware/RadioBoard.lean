import GhostBlade.Firmware.Cc1101

/-!
The antenna switch and the CC1101 as everything written to the board leaves them.
Between two calls of the command handlers the chip is in no access, so that only
a whole burst changes its registers.
-/

namespace GhostBlade.Firmware

open GhostBlade.Library GhostBlade.Protocol

instance Confined.decidable (addr len : Nat) : Decidable (Confined addr len) :=
  inferInstanceAs (Decidable (_ ∨ _))

/-- The word a write puts into the FIFO of the antenna state machine. -/
def BusWrite.antenna : BusWrite → Option Byte
  | .pio0Txf0 word => some word
  | .gpioOut _ | .spi1 _ => none

/-- The antenna that the switch was last told to select. -/
def Board.antenna (b : Board) : Option Byte := (b.writes.filterMap BusWrite.antenna).getLast?

/-- The CC1101 behind the board, from the registers it had before all writes. -/
def Board.chip (b : Board) (regs : Nat → Byte) : Cc1101 :=
  run Cc1101.onBus ⟨regs, false, none⟩ b.writes

/-- The chip is in no access and has these registers. -/
structure Cc1101.Holds (c : Cc1101) (regs : Nat → Byte) : Prop where
  access : c.access = none
  regs : c.regs = regs

theorem Cc1101.Holds.burst {c : Cc1101} {regs : Nat → Byte} (h : c.Holds regs) (out : BitVec 32)
    {addr : Byte} (haddr : addr.toNat < 0x40) (data : List Byte) :
    (run Cc1101.onBus c (burstWindow out addr data)).Holds
      (burstRegs regs addr.toNat data) := by
  have hopen := c.open_burst out addr h.access haddr
  have hdata := Cc1101.burst_data
    { regs := c.regs, selected := true, access := some ⟨true, true, addr.toNat⟩ }
    addr.toNat data rfl rfl
  have hhigh : (releasedOut out).getLsbD pinCcSpiCsn = true := by
    rw [(window_levels out pinCcSpiCsn (by decide)).2, beq_self_eq_true, Bool.or_true]
  rw [burstWindow, run_append, run_append, hopen, run_cons, run_nil, Cc1101.onBus, if_pos hhigh]
  exact ⟨rfl, hdata.trans (by rw [h.regs])⟩

section

variable (b : Board) (regs : Nat → Byte)

theorem writeBurst_writes (addr : Byte) (data : List Byte) :
    (apexCc1101WriteBurst addr data b).writes = b.writes ++ burstWindow b.gpioOut addr data := by
  let opened := apexCc1101SpiXfer (addr ||| 0x40#8) (apexCc1101CsAssert b)
  have hwrites := spiXfers_writes data opened
  have hout : (data.foldl (fun b x => apexCc1101SpiXfer x b) opened).gpioOut =
      selectedOut b.gpioOut := spiXfers_gpioOut data opened
  have hopened : opened.writes =
      b.writes ++ [.gpioOut (selectedOut b.gpioOut), .spi1 (addr ||| 0x40#8)] :=
    List.append_assoc ..
  change (data.foldl (fun b x => apexCc1101SpiXfer x b) opened).writes ++
    [.gpioOut ((data.foldl (fun b x => apexCc1101SpiXfer x b) opened).gpioOut |||
      pinMask pinCcSpiCsn)] = _
  rw [hwrites, hout, hopened, burstWindow]
  simp only [List.append_assoc]
  rfl

@[simp] theorem antenna_writeGpioOut (value : BitVec 32) :
    (b.writeGpioOut value).antenna = b.antenna := by
  simp [Board.antenna, Board.writeGpioOut, BusWrite.antenna]

theorem antenna_select (id : Byte) :
    (apexAntennaSelect id b).antenna = some (id &&& 3#8) := by
  simp [Board.antenna, apexAntennaSelect, BusWrite.antenna]

theorem antenna_writeBurst (addr : Byte) (data : List Byte) :
    (apexCc1101WriteBurst addr data b).antenna = b.antenna := by
  have hwindow : (burstWindow b.gpioOut addr data).filterMap BusWrite.antenna = [] := by
    rw [List.filterMap_eq_nil_iff]
    intro w hw
    simp only [burstWindow, List.mem_append, List.mem_cons, List.not_mem_nil, or_false,
      List.mem_map] at hw
    obtain ((rfl | rfl) | ⟨x, -, rfl⟩) | rfl := hw <;> rfl
  rw [Board.antenna, writeBurst_writes, List.filterMap_append, hwindow, List.append_nil,
    Board.antenna]

/-- A write to the output register finds no access and starts none. -/
theorem chip_writeGpioOut {regs' : Nat → Byte} (h : (b.chip regs).Holds regs')
    (value : BitVec 32) : ((b.writeGpioOut value).chip regs).Holds regs' := by
  have hstep : (b.writeGpioOut value).chip regs = (b.chip regs).onBus (.gpioOut value) :=
    run_append ..
  rw [hstep, Cc1101.onBus]
  split_ifs
  · exact ⟨rfl, h.regs⟩
  · exact ⟨h.access, h.regs⟩

theorem chip_select (id : Byte) : (apexAntennaSelect id b).chip regs = b.chip regs :=
  run_append ..

theorem chip_writeBurst {regs' : Nat → Byte} (h : (b.chip regs).Holds regs') {addr : Byte}
    (haddr : addr.toNat < 0x40) (data : List Byte) :
    ((apexCc1101WriteBurst addr data b).chip regs).Holds (burstRegs regs' addr.toNat data) := by
  have hrun : (apexCc1101WriteBurst addr data b).chip regs =
      run Cc1101.onBus (b.chip regs) (burstWindow b.gpioOut addr data) := by
    rw [Board.chip, writeBurst_writes, run_append]
    rfl
  rw [hrun]
  exact h.burst _ haddr data

end

/-- The receive path of the SDR and the amplifier are pins of the output register. -/
theorem SdrCall.onBoard_eq (b : Board) (call : SdrCall) :
    ∃ value, call.onBoard b = b.writeGpioOut value := by
  cases call with
  | rxEnable enable => cases enable <;> exact ⟨_, rfl⟩
  | lnaEnable enable => cases enable <;> exact ⟨_, rfl⟩

end GhostBlade.Firmware
