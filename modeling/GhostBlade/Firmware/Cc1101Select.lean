import GhostBlade.Firmware.Cc1101Driver

/-!
The select line of the radio. Every access opens its window and closes it again,
and the functions that drive the line by hand release it on all their ways out
but one: where the chip does not come up, `cc1101_init` returns with the line
still low.
-/

namespace GhostBlade.Firmware.Cc1101Driver

open GhostBlade.Library Prog

/-! ### Windows -/

/-- Whether a window is open behind an operation. -/
def windowOpen (isOpen : Bool) : BusOp → Bool
  | .csAssert => true
  | .csRelease => false
  | .xfer _ | .readGpioIn => isOpen

/-- A byte is exchanged in an open window only. -/
def Inside (isOpen : Bool) : BusOp → Prop
  | .xfer _ => isOpen = true
  | .csAssert | .csRelease | .readGpioIn => True

/-- Every byte lies in a window opened by the operations themselves. -/
def BytesInWindows (ops : List BusOp) : Prop := Along windowOpen Inside false ops

theorem along_xfers {isOpen : Bool} (h : isOpen = true) (bytes : List Byte) :
    Along windowOpen Inside isOpen (bytes.map .xfer) := by
  induction bytes with
  | nil => trivial
  | cons b bytes ih => exact ⟨h, ih⟩

theorem along_windowOps (isOpen : Bool) (bytes : List Byte) :
    Along windowOpen Inside isOpen (windowOps bytes) := by
  refine ⟨trivial, along_append.mpr ⟨along_xfers rfl bytes, trivial, trivial⟩⟩

theorem along_busOps (isOpen : Bool) (op : AccessOp) :
    Along windowOpen Inside isOpen op.busOps := by
  cases op with
  | strobe | readStatus | readReg | writeReg | writeBurst | readBurst | window =>
      exact along_windowOps isOpen _
  | csAssert | csRelease | gpioIn => exact ⟨trivial, trivial⟩

theorem bytesInWindows (ops : List AccessOp) : BytesInWindows (ops.flatMap AccessOp.busOps) := by
  have hall (isOpen : Bool) : Along windowOpen Inside isOpen (ops.flatMap AccessOp.busOps) := by
    induction ops generalizing isOpen with
    | nil => trivial
    | cons op ops ih =>
        rw [List.flatMap_cons]
        exact along_append.mpr ⟨along_busOps isOpen op, ih _⟩
  exact hall false

/-! ### The line -/

/-- The line is high, chip not selected. -/
def csHigh (b : Board) : Bool := b.level pinCcSpiCsn

/-- The line behind an access. -/
def lineAfter (high : Bool) : AccessOp → Bool
  | .csAssert => false
  | .gpioIn => high
  | _ => true

theorem csHigh_busOps (b : Board) (op : AccessOp) :
    csHigh (run onBoard b op.busOps) = lineAfter (csHigh b) op := by
  have hrelease (b : Board) : csHigh (apexCc1101CsRelease b) = true := by
    simp [csHigh, apexCc1101CsRelease, pinCcSpiCsn]
  have hassert : csHigh (apexCc1101CsAssert b) = false := by
    simp [csHigh, apexCc1101CsAssert, pinCcSpiCsn]
  have hwindow (bytes : List Byte) : csHigh (run onBoard b (windowOps bytes)) = true := by
    rw [windowOps, run_append]
    exact hrelease _
  cases op with
  | strobe | readStatus | readReg | writeReg | writeBurst | readBurst | window => exact hwindow _
  | csAssert => exact hassert
  | csRelease => exact hrelease b
  | gpioIn => rfl

theorem csHigh_flatMap (b : Board) (ops : List AccessOp) :
    csHigh (run onBoard b (ops.flatMap AccessOp.busOps)) = run lineAfter (csHigh b) ops := by
  induction ops generalizing b with
  | nil => rfl
  | cons op ops ih => rw [List.flatMap_cons, run_append, ih, csHigh_busOps, run_cons]

/-- Without an assertion by hand the line stays released. -/
theorem lineAfter_high {ops : List AccessOp} (h : ∀ op ∈ ops, op ≠ .csAssert) :
    run lineAfter true ops = true := by
  induction ops with
  | nil => rfl
  | cons op ops ih =>
      have hop : lineAfter true op = true := by
        have hne := h op List.mem_cons_self
        cases op with
        | csAssert => exact absurd rfl hne
        | _ => rfl
      rw [run_cons, hop]
      exact ih fun op' hop' => h op' (List.mem_cons_of_mem op hop')

/-- Looking at the inputs leaves the line alone. -/
theorem lineAfter_gpioIn {ops : List AccessOp} (h : ∀ op ∈ ops, op = .gpioIn) (high : Bool) :
    run lineAfter high ops = high := by
  induction ops with
  | nil => rfl
  | cons op ops ih =>
      obtain rfl := h op List.mem_cons_self
      exact ih fun op' hop' => h op' (List.mem_cons_of_mem _ hop')

/-! ### Calls -/

/-- The chip with the board that drives it. -/
structure RadioSystem (σ : Type) where
  chip : σ
  board : Board

section

variable {σ : Type} (d : BusDevice σ) (s : RadioSystem σ)

def RadioSystem.step (c : Call) : RadioSystem σ :=
  let e := (c.prog.inline AccessOp.routine).exec (d.recorded onBoard) (s.board, s.chip)
  ⟨e.state.2, e.state.1⟩

/-- The bus operations of a call. -/
def RadioSystem.busOps (c : Call) : List BusOp :=
  ((c.prog.inline AccessOp.routine).exec d s.chip).trace

/-- The accesses of a call. -/
def RadioSystem.accesses (c : Call) : List AccessOp :=
  (c.prog.exec (d.through AccessOp.routine) s.chip).trace

/-- The line is released behind the call, and its bytes lie in its own windows. -/
def KeepsSelect (c : Call) : Prop :=
  csHigh (s.step d c).board = true ∧ BytesInWindows (s.busOps d c)

/-- The chip shows itself ready to the first wait of an initialisation. -/
def ComesUp : Call → Prop
  | .init => ChipReady (d.through AccessOp.routine) (d .csAssert s.chip).2
  | _ => True

variable {d s}

theorem step_board (c : Call) : (s.step d c).board = run onBoard s.board (s.busOps d c) := by
  rw [RadioSystem.step, exec_recorded]
  rfl

theorem busOps_eq (c : Call) : s.busOps d c = (s.accesses d c).flatMap AccessOp.busOps :=
  inline_trace c.prog d s.chip

theorem csHigh_step (c : Call) :
    csHigh (s.step d c).board = run lineAfter (csHigh s.board) (s.accesses d c) := by
  rw [step_board, busOps_eq, csHigh_flatMap]

theorem tame_ne_csAssert {ops : List AccessOp} (h : ∀ op ∈ ops, op.Tame) :
    ∀ op ∈ ops, op ≠ .csAssert := by
  rintro op hop rfl
  exact h _ hop

/-- From the ready chip on, an initialisation releases the line. -/
theorem initReady_releases {τ : Type} (e : AccessDevice τ) (t : τ) (high : Bool) :
    run lineAfter high (initReady.exec e t).trace = true := by
  have hconfigure := only_configure (cc1101Config_addr 0x21 0x62 0x76)
  rw [initReady_trace, run_append, run_cons]
  split
  · rfl
  · exact lineAfter_high (tame_ne_csAssert hconfigure.exec)

/-- An initialisation releases the line exactly if the chip comes up. -/
theorem init_releases_iff : csHigh (s.step d .init).board = true ↔ ComesUp d s .init := by
  let wait := waitMiso.exec (d.through AccessOp.routine) (d .csAssert s.chip).2
  have haccesses : s.accesses d .init =
      (init.exec (d.through AccessOp.routine) s.chip).trace := by
    simp [RadioSystem.accesses, Call.prog]
  have hlow : run lineAfter (csHigh s.board) (.csAssert :: wait.trace) = false :=
    lineAfter_gpioIn only_waitMiso.exec false
  have hassert : (d.through AccessOp.routine) .csAssert s.chip = d .csAssert s.chip := rfl
  rw [csHigh_step, ComesUp, ← waitMiso_iff, haccesses, init_trace, hassert]
  dsimp only
  rw [run_append, hlow]
  split
  · next hwait =>
      rw [hwait]
      exact iff_of_false nofun nofun
  · next hwait => exact iff_of_true (initReady_releases _ _ false) hwait

theorem keepsSelect_iff (hhigh : csHigh s.board = true) (c : Call) :
    KeepsSelect d s c ↔ ComesUp d s c := by
  have hbytes : BytesInWindows (s.busOps d c) := by
    rw [busOps_eq]
    exact bytesInWindows _
  rw [KeepsSelect, and_iff_left hbytes]
  by_cases hinit : c = .init
  · rw [hinit]
    exact init_releases_iff
  · have hreleased : csHigh (s.step d c).board = true := by
      rw [csHigh_step, hhigh]
      exact lineAfter_high (tame_ne_csAssert (Call.tame hinit).exec)
    refine iff_of_true hreleased ?_
    cases c with
    | init => exact absurd rfl hinit
    | _ => trivial

/-- Whatever the chip does: from a released line on, every call of a run releases
the line and keeps its bytes in its own windows exactly if the chip comes up in
every initialisation. -/
theorem select_released_iff (d : BusDevice σ) (s : RadioSystem σ) (hhigh : csHigh s.board = true)
    (calls : List Call) :
    Along (RadioSystem.step d) (KeepsSelect d) s calls ↔
      Along (RadioSystem.step d) (ComesUp d) s calls := by
  have hkeep (t : RadioSystem σ) (c : Call) (_ : csHigh t.board = true) (_ : True)
      (hright : KeepsSelect d t c) : csHigh (t.step d c).board = true := hright.1
  have hiff (t : RadioSystem σ) (c : Call) (ht : csHigh t.board = true) (_ : True) :
      KeepsSelect d t c ↔ ComesUp d t c := keepsSelect_iff ht c
  exact along_congr_of hkeep hiff hhigh (along_of_forall (fun _ _ => trivial) s calls)

end

def releasedBoard : Board := ⟨pinMask pinCcSpiCsn, []⟩

/-- MISO is low at once. -/
theorem select_released_iff_low_miso :
    Along (RadioSystem.step (constantRadio 0)) (KeepsSelect (constantRadio 0))
        ⟨(), releasedBoard⟩ [.init, .getRssiX10] ↔
      Along (RadioSystem.step (constantRadio 0)) (ComesUp (constantRadio 0))
        ⟨(), releasedBoard⟩ [.init, .getRssiX10] :=
  select_released_iff (constantRadio 0) ⟨(), releasedBoard⟩ (by decide) _

/-- MISO stays high: the initialisation fails and leaves the chip selected. -/
theorem init_leaves_selected :
    let d := constantRadio (pinMask pinCcSpiRx)
    ((init.inline AccessOp.routine).exec d ()).result = -2 ∧
      csHigh releasedBoard = true ∧
      csHigh (RadioSystem.step d ⟨(), releasedBoard⟩ .init).board = false := by
  intro d
  have hstuck : ¬ComesUp d ⟨(), releasedBoard⟩ .init := by
    rintro ⟨k, -, hlow⟩
    have hhigh : (pinMask pinCcSpiRx).getLsbD pinCcSpiRx = true := by decide
    exact Bool.false_ne_true (hlow.symm.trans hhigh)
  have hwait : (waitMiso.exec (d.through AccessOp.routine) ()).result = none := by
    cases hwait : (waitMiso.exec (d.through AccessOp.routine) ()).result with
    | none => rfl
    | some => exact absurd (waitMiso_iff.mp hwait) hstuck
  have hassert : (d.through AccessOp.routine) .csAssert () = ((), ()) := rfl
  refine ⟨?_, by decide, ?_⟩
  · rw [(exec_inline init).1]
    simp [init, hassert, hwait]
  · exact Bool.eq_false_of_not_eq_true fun h => hstuck (init_releases_iff.mp h)

end GhostBlade.Firmware.Cc1101Driver
