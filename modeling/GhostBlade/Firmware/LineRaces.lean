import GhostBlade.Firmware.GpioLines
import GhostBlade.Firmware.Spi0Isr
import GhostBlade.Library.Run

/-!
The main loop drives its lines by reading the output register and writing it
back, and the SPI0 interrupt, which releases INT_REQ once a response is sent,
may run in between. What the write in flight will leave is what has been
commanded, unless an interrupt finishes a response between the two halves of an
update that asserts INT_REQ, or that has read INT_REQ asserted: its write then
puts INT_REQ back.
-/

namespace GhostBlade.Firmware

open GhostBlade.Library GhostBlade.Protocol

/-- Where the main loop is: between updates, about to assert INT_REQ for a
response it has stored, or between the read and the write of an update. -/
inductive LinePc where
  | idle
  | stored
  | loaded (call : LineCall) (value : BitVec 32)

/-- The machine, and the level commanded last for every line: by an update of
the main loop from its read on, by the interrupt when it runs. -/
structure LineState where
  isr : Spi0
  board : Board
  pc : LinePc
  commanded : Line → Bool

inductive LineEvent where
  | call (c : LineCall)
  | queueResponse (frame : List Byte)
  | read
  | write
  | interrupt (rxFifo : List Byte) (tnf : Nat → Bool)

/-- The read half of an update. -/
def LineState.load (s : LineState) (c : LineCall) : LineState :=
  { s with
    pc := .loaded c s.board.gpioOut
    commanded := Function.update s.commanded c.line c.level }

/-- Whether the interrupt handler would finish the response and release INT_REQ. -/
def Spi0.Finishes (s : Spi0) (tnf : Nat → Bool) : Prop :=
  s.tx.responsePending = true ∧ s.tx.len.toNat ≤ txLoaded s.tx.len.toNat tnf 16 0

instance (s : Spi0) (tnf : Nat → Bool) : Decidable (s.Finishes tnf) :=
  inferInstanceAs (Decidable (_ ∧ _))

def LineState.step (s : LineState) : LineEvent → LineState
  | .call c =>
      match s.pc with
      | .idle => s.load c
      | _ => s
  | .queueResponse frame =>
      -- `spi0_tx_queue_response` up to its assertion of INT_REQ
      match s.pc with
      | .idle =>
          if frame.length > frameSizeMax then s
          else { s with isr := (s.isr.txQueueResponse frame s.board).1, pc := .stored }
      | _ => s
  | .read =>
      match s.pc with
      | .stored => s.load .intReqAssert
      | _ => s
  | .write =>
      match s.pc with
      | .loaded c value =>
          { s with
            board := s.board.writeGpioOut (driven value c.line.pin c.level)
            pc := .idle }
      | _ => s
  | .interrupt rxFifo tnf =>
      let (isr, board, _) := spi0Handler rxFifo tnf s.isr s.board
      { s with
        isr := isr
        board := board
        commanded :=
          if s.isr.Finishes tnf then Function.update s.commanded .intReq true
          else s.commanded }

/-- After `gpio_init`. -/
def LineState.init (isr : Spi0) (b : Board) : LineState :=
  ⟨isr, gpioInit b, .idle, Line.initial⟩

/-- The register once the write in flight, if any, is done. -/
def LineState.settled (s : LineState) : BitVec 32 :=
  match s.pc with
  | .loaded c value => driven value c.line.pin c.level
  | _ => s.board.gpioOut

/-- Every line below pin 32 ends at the level commanded last for it. -/
def LineState.Faithful (s : LineState) : Prop :=
  ∀ line : Line, line.pin < 32 → s.settled.getLsbD line.pin = s.commanded line

/-- The update in flight will leave INT_REQ asserted. -/
def LinePc.Asserts : LinePc → Prop
  | .loaded c value => if c.line = .intReq then c.level = false else value.getLsbD pinIntReq = false
  | _ => False

/-- No interrupt finishes a response while an update is in flight that will
leave INT_REQ asserted. -/
def LineState.NotUndone (s : LineState) : LineEvent → Prop
  | .interrupt _ tnf => s.isr.Finishes tnf → ¬ s.pc.Asserts
  | _ => True

/-- The handler touches the board only to release INT_REQ. -/
theorem spi0Handler_board (rxFifo : List Byte) (tnf : Nat → Bool) (s : Spi0) (b : Board) :
    (spi0Handler rxFifo tnf s b).2.1 = if s.Finishes tnf then intReqDeassert b else b := by
  have htx : ((rxFifo.take 256).foldl Spi0.processByte s).tx = s.tx := processBytes_tx s _
  unfold spi0Handler Spi0.Finishes
  dsimp only
  rw [htx]
  by_cases hpending : s.tx.responsePending = true
  · simp only [hpending, if_true, true_and, ge_iff_le]
    split_ifs <;> rfl
  · simp [hpending]

/-- Driving the pin of a line below 32 sets that line among the faithful ones. -/
theorem driven_faithful {value : BitVec 32} {levels : Line → Bool}
    (h : ∀ line : Line, line.pin < 32 → value.getLsbD line.pin = levels line)
    (target : Line) (level : Bool) (line : Line) (hpin : line.pin < 32) :
    (driven value target.pin level).getLsbD line.pin =
      Function.update levels target level line := by
  rw [driven_getLsbD]
  by_cases hline : line = target
  · subst hline
    rw [if_pos ⟨hpin, rfl⟩, Function.update_self]
  · have hne : ¬ (target.pin < 32 ∧ target.pin = line.pin) := by
      rintro ⟨_, hsame⟩
      exact hline (Line.pin_injective hsame).symm
    rw [if_neg hne, Function.update_of_ne hline]
    exact h line hpin

theorem LineState.Faithful.load {s : LineState} (h : s.Faithful)
    (hsettled : s.settled = s.board.gpioOut) (c : LineCall) : (s.load c).Faithful := by
  intro line hpin
  rw [LineState.Faithful, hsettled] at h
  exact driven_faithful h c.line c.level line hpin

/-- With no update in flight a release of INT_REQ is what it says. -/
theorem LineState.Faithful.release {s : LineState} (h : s.Faithful)
    (hsettled : s.settled = s.board.gpioOut) (line : Line) (hpin : line.pin < 32) :
    (Firmware.intReqDeassert s.board).gpioOut.getLsbD line.pin =
      Function.update s.commanded .intReq true line := by
  rw [LineState.Faithful, hsettled] at h
  exact driven_faithful h .intReq true line hpin

/-- Releasing INT_REQ behind the back of an update keeps the faith exactly when
the update will not put INT_REQ back. -/
theorem settled_iff_not_asserts {s : LineState} (h : s.Faithful) (isr : Spi0) :
    LineState.Faithful
        { s with
          isr := isr
          board := Firmware.intReqDeassert s.board
          commanded := Function.update s.commanded .intReq true } ↔ ¬ s.pc.Asserts := by
  cases hpc : s.pc with
  | idle =>
      have hreleased := h.release (by simp only [LineState.settled, hpc])
      exact iff_of_true hreleased not_false
  | stored =>
      have hreleased := h.release (by simp only [LineState.settled, hpc])
      exact iff_of_true hreleased not_false
  | loaded c value =>
      have hlevels : ∀ line : Line, line.pin < 32 →
          (driven value c.line.pin c.level).getLsbD line.pin = s.commanded line := by
        simpa only [LineState.Faithful, LineState.settled, hpc] using h
      have hasserts : ¬ (LinePc.loaded c value).Asserts ↔
          (driven value c.line.pin c.level).getLsbD Line.intReq.pin = true := by
        rw [driven_getLsbD]
        simp only [LinePc.Asserts]
        by_cases hline : c.line = .intReq
        · simp [hline, Line.pin, pinIntReq]
        · have hne : ¬ (c.line.pin < 32 ∧ c.line.pin = Line.intReq.pin) := by
            rintro ⟨_, hsame⟩
            exact hline (Line.pin_injective hsame)
          rw [if_neg hline, if_neg hne, Bool.not_eq_false]
          rfl
      rw [hasserts]
      constructor
      · intro hfaithful
        simpa [LineState.settled] using hfaithful .intReq (by decide)
      · intro hkept line hpin
        simp only [LineState.settled]
        by_cases hline : line = .intReq
        · rw [hline, Function.update_self, hkept]
        · rw [Function.update_of_ne hline]
          exact hlevels line hpin

/-- What one step does to a faithful state. -/
theorem LineState.Faithful.step_iff {s : LineState} (h : s.Faithful) (e : LineEvent) :
    (s.step e).Faithful ↔ s.NotUndone e := by
  cases e with
  | call c =>
      simp only [LineState.step, LineState.NotUndone, iff_true]
      cases hpc : s.pc with
      | idle => exact h.load (by simp [LineState.settled, hpc]) c
      | stored => exact h
      | loaded _ _ => exact h
  | queueResponse frame =>
      simp only [LineState.step, LineState.NotUndone, iff_true]
      cases hpc : s.pc with
      | idle =>
          dsimp only
          split_ifs
          · exact h
          · simpa only [LineState.Faithful, LineState.settled, hpc] using h
      | stored => exact h
      | loaded _ _ => exact h
  | read =>
      simp only [LineState.step, LineState.NotUndone, iff_true]
      cases hpc : s.pc with
      | stored => exact h.load (by simp [LineState.settled, hpc]) .intReqAssert
      | idle => exact h
      | loaded _ _ => exact h
  | write =>
      simp only [LineState.step, LineState.NotUndone, iff_true]
      cases hpc : s.pc with
      | loaded c value =>
          simpa only [LineState.Faithful, LineState.settled, hpc, Board.writeGpioOut] using h
      | idle => exact h
      | stored => exact h
  | interrupt rxFifo tnf =>
      simp only [LineState.step, LineState.NotUndone, spi0Handler_board]
      by_cases hfinish : s.isr.Finishes tnf
      · rw [if_pos hfinish, if_pos hfinish]
        exact (settled_iff_not_asserts h _).trans ⟨fun hnot _ => hnot, fun hnot => hnot hfinish⟩
      · rw [if_neg hfinish, if_neg hfinish]
        exact ⟨fun _ hf => absurd hf hfinish, fun _ => h⟩

theorem init_faithful (isr : Spi0) (b : Board) : (LineState.init isr b).Faithful :=
  fun line hpin => gpioInit_level b line hpin

/-- In a run from boot every line is always about to be at the level commanded
last for it, exactly when no release of INT_REQ is undone. -/
theorem lines_faithful_iff (isr : Spi0) (b : Board) (es : List LineEvent) :
    (∀ us, us <+: es → (run LineState.step (LineState.init isr b) us).Faithful) ↔
      Along LineState.step LineState.NotUndone (LineState.init isr b) es :=
  states_iff_along (fun _ e h => h.step_iff e) (init_faithful isr b) es

/-- A response is finished while the CC1101 is being selected: the select puts
INT_REQ back, and it stays asserted with nothing to send. -/
theorem int_req_restored :
    let s := run LineState.step (LineState.init Spi0.zero ⟨0, []⟩)
      [.queueResponse [0xAA#8], .read, .write, .call .cc1101CsAssert,
        .interrupt [] (fun _ => true), .write]
    ¬ s.Faithful ∧ s.board.level pinIntReq = false ∧ s.commanded .intReq = true ∧
      s.isr.tx.responsePending = false := by
  intro s
  have hlevel : s.board.level pinIntReq = false := by decide
  have hcommanded : s.commanded .intReq = true := by decide
  refine ⟨?_, hlevel, hcommanded, by decide⟩
  intro h
  have hkept : s.board.level pinIntReq = s.commanded .intReq := h .intReq (by decide)
  rw [hlevel, hcommanded] at hkept
  exact absurd hkept (by decide)

end GhostBlade.Firmware
