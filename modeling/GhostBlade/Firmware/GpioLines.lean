import GhostBlade.Firmware.Board

/-!
The control lines the firmware drives by hand (`rp2350b_init.c`,
`spi_protocol.c`, `spi0_isr.c`). Every call shifts a one to the line's pin
number in a 32-bit word and sets or clears that bit of the output register; the
direction register is written the same way, once. Lines below pin 32 are
independent of each other and carry the level last commanded. The bits of the
other lines fall out of the word: those lines are never made outputs.
-/

namespace GhostBlade.Firmware

open GhostBlade.Library

def pinAntSel0 : Nat := 2
def pinAntSel1 : Nat := 3

/-- What `gpio_init` writes to the direction register; nothing else does. -/
def gpioInitOe : BitVec 32 :=
  pinMask pinAntSel0 ||| pinMask pinAntSel1 ||| pinMask pinIntReq ||| pinMask pinSdrReset |||
    pinMask pinSdrGpio0 ||| pinMask pinSdrGpio1 ||| pinMask pinSdrLnaEn |||
    pinMask pinCcSpiCsn ||| pinMask pinNfcSpiCsn

def apexSdrResetAssert (b : Board) : Board := b.clearPin pinSdrReset

def apexSdrResetRelease (b : Board) : Board := b.setPin pinSdrReset

def apexNfcCsAssert (b : Board) : Board := b.clearPin pinNfcSpiCsn

def apexNfcCsRelease (b : Board) : Board := b.setPin pinNfcSpiCsn

/-- The control lines. -/
inductive Line where
  | intReq
  | sdrReset
  | sdrTx
  | sdrRx
  | sdrLna
  | cc1101Cs
  | nfcCs
deriving DecidableEq, Repr

def Line.pin : Line → Nat
  | .intReq => pinIntReq
  | .sdrReset => pinSdrReset
  | .sdrTx => pinSdrGpio0
  | .sdrRx => pinSdrGpio1
  | .sdrLna => pinSdrLnaEn
  | .cc1101Cs => pinCcSpiCsn
  | .nfcCs => pinNfcSpiCsn

/-- The level `gpio_init` asks for. -/
def Line.initial : Line → Bool
  | .intReq | .sdrReset | .cc1101Cs | .nfcCs => true
  | .sdrTx | .sdrRx | .sdrLna => false

inductive LineCall where
  | sdrResetAssert
  | sdrResetRelease
  | sdrTxEnable (enable : Bool)
  | sdrRxEnable (enable : Bool)
  | sdrLnaEnable (enable : Bool)
  | cc1101CsAssert
  | cc1101CsRelease
  | nfcCsAssert
  | nfcCsRelease
  | intReqAssert
  | intReqDeassert
deriving DecidableEq, Repr

def LineCall.run (b : Board) : LineCall → Board
  | .sdrResetAssert => apexSdrResetAssert b
  | .sdrResetRelease => apexSdrResetRelease b
  | .sdrTxEnable enable => apexSdrTxEnable enable b
  | .sdrRxEnable enable => apexSdrRxEnable enable b
  | .sdrLnaEnable enable => apexSdrLnaEnable enable b
  | .cc1101CsAssert => apexCc1101CsAssert b
  | .cc1101CsRelease => apexCc1101CsRelease b
  | .nfcCsAssert => apexNfcCsAssert b
  | .nfcCsRelease => apexNfcCsRelease b
  | .intReqAssert => Firmware.intReqAssert b
  | .intReqDeassert => Firmware.intReqDeassert b

/-- The line a call is about, and the level it asks for. -/
def LineCall.line : LineCall → Line
  | .sdrResetAssert | .sdrResetRelease => .sdrReset
  | .sdrTxEnable _ => .sdrTx
  | .sdrRxEnable _ => .sdrRx
  | .sdrLnaEnable _ => .sdrLna
  | .cc1101CsAssert | .cc1101CsRelease => .cc1101Cs
  | .nfcCsAssert | .nfcCsRelease => .nfcCs
  | .intReqAssert | .intReqDeassert => .intReq

def LineCall.level : LineCall → Bool
  | .sdrTxEnable enable | .sdrRxEnable enable | .sdrLnaEnable enable => enable
  | .sdrResetAssert | .cc1101CsAssert | .nfcCsAssert | .intReqAssert => false
  | .sdrResetRelease | .cc1101CsRelease | .nfcCsRelease | .intReqDeassert => true

/-- The register value with one pin driven: all a read-modify-write computes. -/
def driven (value : BitVec 32) (n : Nat) (level : Bool) : BitVec 32 :=
  if level then value ||| pinMask n else value &&& ~~~pinMask n

/-- Driving a pin of the register changes that pin and no other; driving any
other pin changes nothing. -/
theorem driven_getLsbD (value : BitVec 32) (n m : Nat) (level : Bool) :
    (driven value n level).getLsbD m = if n < 32 ∧ n = m then level else value.getLsbD m := by
  cases level with
  | false =>
      have hclear := Board.clearPin_level ⟨value, []⟩ n m
      simp only [Board.level, Board.clearPin, Board.writeGpioOut] at hclear
      rw [driven, if_neg (by simp), hclear]
      split_ifs with h
      · obtain ⟨hlt, rfl⟩ := h
        simp [hlt]
      · have hout : (decide (n < 32) && n == m) = false := by simpa using h
        rw [hout, Bool.not_false, Bool.and_true]
  | true =>
      have hset := Board.setPin_level ⟨value, []⟩ n m
      simp only [Board.level, Board.setPin, Board.writeGpioOut] at hset
      rw [driven, if_pos rfl, hset]
      split_ifs with h
      · obtain ⟨hlt, rfl⟩ := h
        simp [hlt]
      · have hout : (decide (n < 32) && n == m) = false := by simpa using h
        rw [hout, Bool.or_false]

/-- Every call reads the register and writes it with the pin of its line driven
to its level. -/
theorem LineCall.run_eq (b : Board) (c : LineCall) :
    c.run b = b.writeGpioOut (driven b.gpioOut c.line.pin c.level) := by
  cases c with
  | sdrTxEnable enable => cases enable <;> rfl
  | sdrRxEnable enable => cases enable <;> rfl
  | sdrLnaEnable enable => cases enable <;> rfl
  | sdrResetAssert => rfl
  | sdrResetRelease => rfl
  | cc1101CsAssert => rfl
  | cc1101CsRelease => rfl
  | nfcCsAssert => rfl
  | nfcCsRelease => rfl
  | intReqAssert => rfl
  | intReqDeassert => rfl

theorem LineCall.run_level (b : Board) (c : LineCall) (n : Nat) :
    (c.run b).level n = if c.line.pin < 32 ∧ c.line.pin = n then c.level else b.level n := by
  rw [LineCall.run_eq]
  exact driven_getLsbD b.gpioOut c.line.pin n c.level

theorem Line.pin_injective : Function.Injective Line.pin := by
  intro l l' h
  cases l <;> cases l' <;> first | rfl | exact absurd h (by decide)

theorem gpioInitOe_pin (line : Line) : gpioInitOe.getLsbD line.pin = true ↔ line.pin < 32 := by
  cases line <;> decide

theorem gpioInit_level (b : Board) (line : Line) (h : line.pin < 32) :
    (gpioInit b).level line.pin = line.initial := by
  -- the word does not depend on what the register held before
  have hword : (gpioInit b).level line.pin = (gpioInit ⟨0, []⟩).level line.pin := rfl
  rw [hword]
  cases line with
  | intReq => decide
  | sdrReset => decide
  | cc1101Cs => decide
  | sdrTx => exact absurd h (by decide)
  | sdrRx => exact absurd h (by decide)
  | sdrLna => exact absurd h (by decide)
  | nfcCs => exact absurd h (by decide)

/-- The board after `gpio_init` and some calls. -/
def boardAfter (b : Board) (calls : List LineCall) : Board :=
  calls.foldl LineCall.run (gpioInit b)

/-- The level last commanded for a line. -/
def commanded (line : Line) (calls : List LineCall) : Bool :=
  calls.foldl (fun level c => if c.line = line then c.level else level) line.initial

theorem boardAfter_snoc (b : Board) (calls : List LineCall) (c : LineCall) :
    boardAfter b (calls ++ [c]) = c.run (boardAfter b calls) := by
  rw [boardAfter, boardAfter, List.foldl_concat]

theorem commanded_snoc (line : Line) (calls : List LineCall) (c : LineCall) :
    commanded line (calls ++ [c]) = if c.line = line then c.level else commanded line calls := by
  rw [commanded, commanded, List.foldl_concat]

/-- The line is an output, carries the level last commanded for it, and has
not been changed by any call for another line. -/
structure LineFaithful (b : Board) (calls : List LineCall) (line : Line) : Prop where
  output : gpioInitOe.getLsbD line.pin = true
  level : (boardAfter b calls).level line.pin = commanded line calls
  frame : ∀ done c rest, calls = done ++ c :: rest → c.line ≠ line →
    (boardAfter b (done ++ [c])).level line.pin = (boardAfter b done).level line.pin

/-- A call for another line leaves a line alone. -/
theorem run_frame (b : Board) (c : LineCall) (line : Line) (h : c.line ≠ line) :
    (c.run b).level line.pin = b.level line.pin := by
  rw [LineCall.run_level, if_neg]
  rintro ⟨_, hpin⟩
  exact h (Line.pin_injective hpin)

theorem boardAfter_level (b : Board) (calls : List LineCall) (line : Line)
    (hpin : line.pin < 32) : (boardAfter b calls).level line.pin = commanded line calls := by
  induction calls using List.reverseRecOn with
  | nil => exact gpioInit_level b line hpin
  | append_singleton calls c ih =>
      rw [boardAfter_snoc, commanded_snoc]
      split_ifs with hline
      · rw [LineCall.run_level, hline, if_pos ⟨hpin, rfl⟩]
      · rw [run_frame _ c line hline, ih]

/-- The lines that work are those below pin 32. -/
theorem line_faithful_iff (b : Board) (calls : List LineCall) (line : Line) :
    LineFaithful b calls line ↔ line.pin < 32 := by
  constructor
  · intro h
    exact (gpioInitOe_pin line).mp h.output
  · intro hpin
    refine ⟨(gpioInitOe_pin line).mpr hpin, boardAfter_level b calls line hpin, ?_⟩
    intro done c rest _ hline
    rw [boardAfter_snoc]
    exact run_frame _ c line hline

/-- Enabling SDR transmission: pin 32 is no output and stays low. -/
theorem sdr_tx_not_driven :
    ¬ LineFaithful ⟨0, []⟩ [.sdrTxEnable true] .sdrTx ∧
      gpioInitOe.getLsbD Line.sdrTx.pin = false ∧
        commanded .sdrTx [.sdrTxEnable true] = true ∧
          (boardAfter ⟨0, []⟩ [.sdrTxEnable true]).level Line.sdrTx.pin = false := by
  have hlevel : (boardAfter ⟨0, []⟩ [.sdrTxEnable true]).level Line.sdrTx.pin = false := by decide
  refine ⟨?_, by decide, by decide, hlevel⟩
  intro h
  have hcommanded := h.level
  rw [hlevel] at hcommanded
  exact absurd hcommanded (by decide)

end GhostBlade.Firmware
