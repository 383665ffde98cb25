import GhostBlade.Firmware.Cc1101Strobes
import GhostBlade.Library.Simulation
import GhostBlade.Library.Tracking

/-!
What the configuration registers of the radio hold over the calls of the driver. The
strobe `SRES` puts them back to their reset values, and the part number is queried with
the header of that strobe. So the initialisation and each change of the band undo what
they have configured when they look at the part number at their end. Some registers the
chip also writes by itself, or loses; nothing is said about these.
-/

namespace GhostBlade.Firmware.Cc1101Driver

open GhostBlade.Library Prog

abbrev Registers := Nat → Byte

/-! ### The chip -/

section

variable (reset : Registers)

/-- The protocol of the chip's bus: what the bytes do to a chip that does nothing by itself.
`reset` is what the registers hold after `SRES`. -/
def decode (c : Cc1101) : BusOp → Cc1101
  | .csAssert => { c with selected := true }
  | .csRelease => { c with selected := false, access := none }
  | .readGpioIn => c
  | .xfer b =>
      if c.selected then
        if c.access.isNone && isStrobe b then
          if addrOf b = sres then { c with regs := reset } else c
        else c.onByte b
      else c

/-- Two chips that differ in these registers at most. -/
structure Agrees (own : Set ℕ) (c c' : Cc1101) : Prop where
  selected : c.selected = c'.selected
  access : c.access = c'.access
  regs : Set.EqOn c.regs c'.regs ownᶜ

/-- A chip of any kind, with answers of any kind, that takes each operation as the protocol
has it and writes only its `own` registers by itself. -/
def Follows {σ : Type} (own : Set ℕ) (chip : BusDevice σ) (view : σ → Cc1101) : Prop :=
  ∀ op s, Agrees own (view (chip op s).2) (decode reset (view s) op)

/-- The results of the calibration, `FSCAL3` to `FSCAL1`, and the test registers, which are
lost in sleep. -/
def ownRegisters : Set ℕ := {addr | 0x23 ≤ addr ∧ addr ≤ 0x25 ∨ 0x29 ≤ addr ∧ addr ≤ 0x2E}

/-! ### Accesses -/

/-- What the functions keep to: bursts go to the FIFO and the power table only. -/
def AccessOp.Plain : AccessOp → Prop
  | .strobe addr | .readStatus addr => 0x30 ≤ addr ∧ addr ≤ 0x3D
  | .writeReg addr _ => addr ≤ 0x2E
  | .writeBurst addr _ => addr = fifo
  | .window header data =>
      header = Cc1101Driver.writeBurst patable ∨ header = writeSingle patable ∧ data.length = 1
  | .readReg _ | .readBurst .. | .csAssert | .csRelease | .gpioIn => True

instance (op : AccessOp) : Decidable op.Plain :=
  match op with
  | .strobe addr | .readStatus addr => inferInstanceAs (Decidable (0x30 ≤ addr ∧ addr ≤ 0x3D))
  | .writeReg addr _ => inferInstanceAs (Decidable (addr ≤ 0x2E))
  | .writeBurst addr _ => inferInstanceAs (Decidable (addr = fifo))
  | .window header data => inferInstanceAs (Decidable (header = Cc1101Driver.writeBurst patable ∨
      header = writeSingle patable ∧ data.length = 1))
  | .readReg _ | .readBurst .. | .csAssert | .csRelease | .gpioIn =>
      inferInstanceAs (Decidable True)

/-- The registers after an access. -/
def AccessOp.leaves (regs : Registers) : AccessOp → Registers
  | .strobe addr | .readStatus addr => if addr = sres then reset else regs
  | .readReg addr => if addrOf addr = sres then reset else regs
  | .writeReg addr val => Function.update regs addr.toNat val
  | .writeBurst .. | .readBurst .. | .window .. | .csAssert | .csRelease | .gpioIn => regs

variable {reset} {c : Cc1101}

/-- The bytes of a window fall on a chip that is selected; behind them it is idle again. -/
theorem decode_windowOps (bytes : List Byte) :
    run (decode reset) c (windowOps bytes) =
      { run (decode reset) { c with selected := true } (bytes.map .xfer) with
        selected := false
        access := none } := by
  rw [windowOps, run_append]
  rfl

theorem decode_strobe {b : Byte} (hidle : c.access = none) (hstrobe : isStrobe b = true) :
    decode reset { c with selected := true } (.xfer b) =
      { c with selected := true, regs := if addrOf b = sres then reset else c.regs } := by
  simp only [decode, hidle, hstrobe, Option.isNone_none, Bool.and_true, if_true]
  split <;> rfl

theorem decode_header {b : Byte} (hidle : c.access = none) (hstrobe : isStrobe b = false) :
    decode reset { c with selected := true } (.xfer b) =
      { c with
        selected := true
        access := some ⟨!b.getLsbD 7, b.getLsbD 6, (b &&& 0x3F#8).toNat⟩ } := by
  simp [decode, Cc1101.onByte, hidle, hstrobe]

/-- The one byte of an access that is no burst. -/
theorem decode_data {write : Bool} {addr : Nat} (val : Byte) :
    (decode reset { c with selected := true, access := some ⟨write, false, addr⟩ }
      (.xfer val)).regs =
      if write ∧ addr < cc1101ConfigRegs then Function.update c.regs addr val else c.regs := by
  simp [decode, Cc1101.onByte]

/-- Data of a burst that reads, or that writes behind the configuration registers. -/
theorem decode_burst {a : Cc1101Access} (haccess : c.access = some a) (hburst : a.burst = true)
    (hoff : a.write = false ∨ cc1101ConfigRegs ≤ a.addr) (data : List Byte) :
    (run (decode reset) c (data.map .xfer)).regs = c.regs := by
  induction data generalizing c a with
  | nil => rfl
  | cons b data ih =>
      have hbyte : (decode reset c (.xfer b)).regs = c.regs ∧
          ∃ a', (decode reset c (.xfer b)).access = some a' ∧ a'.burst = true ∧
            (a'.write = false ∨ cc1101ConfigRegs ≤ a'.addr) := by
        have hkept : ¬ (a.write = true ∧ a.addr < cc1101ConfigRegs) := by
          rintro ⟨hwrite, hlow⟩
          rcases hoff with hread | hhigh
          · rw [hread] at hwrite
            cases hwrite
          · omega
        rw [decode]
        split
        · simp only [haccess, Option.isNone_some, Bool.false_and, Bool.false_eq_true, if_false,
            Cc1101.onByte, if_neg hkept, hburst, if_true]
          exact ⟨trivial, _, rfl, rfl, hoff.imp id fun h => Nat.le_succ_of_le h⟩
        · exact ⟨rfl, a, haccess, hburst, hoff⟩
      obtain ⟨hregs, a', haccess', hburst', hoff'⟩ := hbyte
      rw [List.map_cons, run_cons, ih haccess' hburst' hoff', hregs]

/-- A window of such a burst. -/
theorem decode_burst_window {header : Byte} (hidle : c.access = none)
    (hburst : header.getLsbD 6 = true)
    (hoff : header.getLsbD 7 = true ∨ cc1101ConfigRegs ≤ (header &&& 0x3F#8).toNat)
    (data : List Byte) :
    (run (decode reset) c (windowOps (header :: data))).regs = c.regs := by
  rw [decode_windowOps, List.map_cons, run_cons, decode_header hidle (isStrobe_of_burst hburst)]
  exact decode_burst rfl hburst (hoff.imp (fun h => by rw [h]; rfl) id) data

/-- A window with one more byte behind its header. -/
theorem decode_pair {header val : Byte} (hidle : c.access = none)
    (hstrobe : isStrobe header = false) (hsingle : header.getLsbD 6 = false) :
    (run (decode reset) c (windowOps [header, val])).regs =
      if header.getLsbD 7 = false ∧ (header &&& 0x3F#8).toNat < cc1101ConfigRegs then
        Function.update c.regs (header &&& 0x3F#8).toNat val
      else c.regs := by
  rw [decode_windowOps, List.map_cons, run_cons, decode_header hidle hstrobe, hsingle]
  show (decode reset { c with
    selected := true
    access := some ⟨!header.getLsbD 7, false, (header &&& 0x3F#8).toNat⟩ } (.xfer val)).regs = _
  rw [decode_data]
  exact if_congr (by rw [Bool.not_eq_true']) rfl rfl

/-- A window that reads one byte: a strobe, or a read. -/
theorem decode_read {header : Byte} (hidle : c.access = none) (hread : header.getLsbD 7 = true)
    (hsingle : header.getLsbD 6 = false) :
    (run (decode reset) c (windowOps [header, 0x00])).regs =
      if isStrobe header = true ∧ addrOf header = sres then reset else c.regs := by
  cases hstrobe : isStrobe header with
  | true =>
      rw [decode_windowOps, List.map_cons, run_cons, decode_strobe hidle hstrobe]
      let c' : Cc1101 := { c with regs := if addrOf header = sres then reset else c.regs }
      show (decode reset { c' with selected := true } (.xfer 0x00)).regs = _
      have hidle' : c'.access = none := hidle
      rw [decode_header hidle' (show isStrobe 0x00 = false from rfl)]
      simp [c']
  | false =>
      rw [decode_pair hidle hstrobe hsingle, hread]
      simp

theorem readSingle_bits (addr : Byte) :
    (readSingle addr).getLsbD 7 = true ∧ (readSingle addr).getLsbD 6 = false ∧
      addrOf (readSingle addr) = addrOf addr ∧
        (addrOf addr = sres → isStrobe (readSingle addr) = true) := by
  revert addr
  decide

/-- A chip that is idle is idle again behind an access, and its registers are what the
access leaves. -/
theorem decode_busOps {op : AccessOp} (h : op.Plain) (hidle : c.access = none) :
    (run (decode reset) c op.busOps).regs = op.leaves reset c.regs ∧
      (run (decode reset) c op.busOps).access = none := by
  have hclosed (bytes : List Byte) : (run (decode reset) c (windowOps bytes)).access = none := by
    rw [decode_windowOps]
  cases op with
  | strobe cmd =>
      refine ⟨?_, hclosed _⟩
      obtain ⟨hstrobe, haddr⟩ := strobe_header h
      show (run (decode reset) c (windowOps [Cc1101Driver.strobe cmd])).regs =
        if cmd = sres then _ else _
      rw [decode_windowOps, List.map_cons, run_cons, decode_strobe hidle hstrobe, haddr]
      rfl
  | readStatus addr =>
      refine ⟨?_, hclosed _⟩
      obtain ⟨hread, hsingle, -, -⟩ := readSingle_bits addr
      obtain ⟨hstrobe, haddr⟩ := readSingle_status h
      refine (decode_read hidle hread hsingle).trans ?_
      simp [AccessOp.leaves, hstrobe, haddr]
  | readReg addr =>
      refine ⟨?_, hclosed _⟩
      obtain ⟨hread, hsingle, haddr, hstrobe⟩ := readSingle_bits addr
      refine (decode_read hidle hread hsingle).trans (if_congr ?_ rfl rfl)
      rw [haddr]
      exact and_iff_right_of_imp hstrobe
  | writeReg addr val =>
      refine ⟨?_, hclosed _⟩
      have hheader : ∀ addr : Byte, addr ≤ 0x2E → (writeSingle addr).getLsbD 7 = false ∧
          (writeSingle addr).getLsbD 6 = false ∧ writeSingle addr &&& 0x3F#8 = addr ∧
            addr.toNat < cc1101ConfigRegs := by decide
      obtain ⟨hwrite, hsingle, haddr, hlow⟩ := hheader addr h
      refine (decode_pair hidle (config_header h).1 hsingle).trans ?_
      rw [haddr, if_pos ⟨hwrite, hlow⟩]
      rfl
  | writeBurst addr data =>
      obtain rfl : addr = fifo := h
      exact ⟨decode_burst_window hidle rfl (.inr (by decide)) data, hclosed _⟩
  | readBurst addr len =>
      refine ⟨decode_burst_window hidle (burst_bit addr).2 (.inl ?_) _, hclosed _⟩
      simp
  | window header data =>
      refine ⟨?_, hclosed _⟩
      rcases h with rfl | ⟨rfl, hlen⟩
      · exact decode_burst_window hidle rfl (.inr (by decide)) data
      · obtain ⟨b, rfl⟩ := List.length_eq_one_iff.mp hlen
        exact decode_pair hidle rfl rfl
  | csAssert => exact ⟨rfl, hidle⟩
  | csRelease => exact ⟨rfl, rfl⟩
  | gpioIn => exact ⟨rfl, hidle⟩

end

/-! ### Functions -/

/-- The registers after the entries of a table. -/
def overlay (regs : Registers) (table : List (Byte × Byte)) : Registers :=
  table.foldl (fun regs entry => Function.update regs entry.1.toNat entry.2) regs

/-- What the accesses of a function do to the registers. -/
def configured (reset : Registers) : Tracker AccessOp AccessOp.Answer Registers := fun regs op _ =>
  if op.Plain then some (op.leaves reset regs) else none

section

variable {reset regs : Registers} {α β : Type} {Q : β → Registers → Prop}

/-- The function keeps to plain accesses, and its result and the registers meet `Q`. -/
def Leaves (reset regs : Registers) (p : AccessProg β) (Q : β → Registers → Prop) : Prop :=
  Tracks (configured reset) regs p Q

theorem leaves_pure {b : β} (hQ : Q b regs) : Leaves reset regs (pure b) Q := hQ

theorem leaves_perform (op : AccessOp) (h : op.Plain) :
    Leaves reset regs (perform op) fun _ regs' => regs' = op.leaves reset regs := by
  refine tracks_perform fun x => ⟨op.leaves reset regs, ?_, rfl⟩
  rw [configured, if_pos h]

theorem leaves_bind {p : AccessProg α} {f : α → AccessProg β} {regs' : Registers}
    (hp : Leaves reset regs p fun _ r => r = regs') (hf : ∀ a, Leaves reset regs' (f a) Q) :
    Leaves reset regs (p >>= f) Q :=
  tracks_then hp hf

/-- An access and what comes behind it. -/
theorem leaves_access (op : AccessOp) {f : op.Answer → AccessProg β} (h : op.Plain)
    (hf : ∀ x, Leaves reset (op.leaves reset regs) (f x) Q) :
    Leaves reset regs (perform op >>= f) Q :=
  leaves_bind (leaves_perform op h) hf

/-- A call whose result is dropped. -/
theorem leaves_drop {p : AccessProg α} {regs' : Registers}
    (hp : Leaves reset regs p fun _ r => r = regs') :
    Leaves reset regs (do let _ ← p) fun _ r => r = regs' :=
  leaves_bind hp fun _ => leaves_pure rfl

theorem leaves_waitMiso : Leaves reset regs waitMiso fun _ r => r = regs := by
  refine tracks_loop ?_ 3000
  exact leaves_access .gpioIn trivial fun _ => leaves_pure rfl

theorem leaves_getMarcstate : Leaves reset regs getMarcstate fun _ r => r = regs :=
  leaves_access (.readStatus marcstate) (by decide) fun _ => leaves_pure rfl

theorem leaves_waitIdle : Leaves reset regs waitIdle fun _ r => r = regs := by
  refine tracks_loop ?_ 1000
  exact leaves_bind leaves_getMarcstate fun _ => leaves_pure rfl

theorem leaves_writeTable {table : List (Byte × Byte)} (h : ∀ entry ∈ table, entry.1 ≤ 0x2E) :
    Leaves reset regs (writeTable table) fun _ r => r = overlay regs table := by
  induction table generalizing regs with
  | nil => exact leaves_pure rfl
  | cons entry table ih =>
      refine leaves_access (.writeReg entry.1 entry.2) (h entry List.mem_cons_self) fun _ => ?_
      exact ih fun e he => h e (List.mem_cons_of_mem entry he)

/-- The part number is asked for with `SRES`. -/
theorem leaves_configure {table : List (Byte × Byte)} (h : ∀ entry ∈ table, entry.1 ≤ 0x2E) :
    Leaves reset regs (configure table) fun ret r =>
      ret ≠ -2 ∧ ret ≠ -3 ∧ r = if ret = -4 then overlay regs table else reset := by
  unfold configure
  refine leaves_bind (leaves_writeTable h) fun _ => ?_
  refine leaves_access (.window ..) (.inl rfl) fun _ => ?_
  refine leaves_access (.strobe scal) (by decide) fun _ => ?_
  refine leaves_bind leaves_waitIdle fun idle => ?_
  cases idle with
  | none => exact leaves_pure ⟨by decide, by decide, rfl⟩
  | some =>
      refine leaves_access (.readStatus partnum) (by decide) fun part => ?_
      split
      · exact leaves_pure ⟨by decide, by decide, rfl⟩
      · refine leaves_access (.strobe sidle) (by decide) fun _ => ?_
        exact leaves_pure ⟨by decide, by decide, rfl⟩

/-! ### Calls -/

/-- What a call returns; 0 stands for nothing. -/
def Call.returns : Call → AccessProg Int
  | .init => Cc1101Driver.init
  | .setBand band => Cc1101Driver.setBand band
  | c => do
      c.prog
      return 0

/-- The calls that configure the chip as a whole. -/
def Call.configures : Call → Bool
  | .init => true
  | .setBand band => (bandTable band).isSome
  | _ => false

/-- The registers after one of the other calls. -/
def Call.settles (reset regs : Registers) : Call → Registers
  | .setSyncWord syncHi syncLo =>
      Function.update (Function.update regs sync1.toNat syncHi) sync0.toNat syncLo
  | .getPartnum => reset
  | .readReg addr => if addrOf addr = sres then reset else regs
  | .readConfigReg addr => if addr = sres then reset else regs
  | _ => regs

/-- The registers after a call with its result. -/
def Call.Reconfigures (reset regs : Registers) (ret : Int) (regs' : Registers) : Call → Prop
  | .init =>
      regs' =
        if ret = -2 then regs
        else if ret = -4 then overlay reset cc1101Config868mhz
        else reset
  | .setBand band =>
      match bandTable band with
      | none => ret = -1 ∧ regs' = regs
      | some table =>
          if ret = -4 then regs' = regs ∨ regs' = overlay regs table else regs' = reset
  | c => regs' = c.settles reset regs

theorem leaves_init : Leaves reset regs Cc1101Driver.init fun ret regs' =>
    Call.Reconfigures reset regs ret regs' .init := by
  unfold Cc1101Driver.init
  refine leaves_access .csAssert trivial fun _ => ?_
  refine leaves_bind leaves_waitMiso fun ready => ?_
  cases ready with
  | none => exact leaves_pure rfl
  | some =>
      dsimp only
      unfold initReady
      refine leaves_access .csRelease trivial fun _ => ?_
      refine leaves_access (.strobe sres) (by decide) fun _ => ?_
      refine leaves_access .csAssert trivial fun _ => ?_
      refine leaves_bind leaves_waitMiso fun ready => ?_
      cases ready with
      | none =>
          refine leaves_access .csRelease trivial fun _ => ?_
          exact leaves_pure rfl
      | some =>
          refine leaves_access .csRelease trivial fun _ => ?_
          refine (leaves_configure (cc1101Config_addr _ _ _)).mono fun ret regs' hret => ?_
          show regs' = if ret = -2 then regs else _
          rw [if_neg hret.1]
          exact hret.2.2

/-- The two ways to fail with the wait for the idle state: before the table, and behind it. -/
theorem reconfigures_band {band ret : Int} {regs' : Registers} {table : List (Byte × Byte)}
    (hband : bandTable band = some table) :
    Call.Reconfigures reset regs ret regs' (.setBand band) ↔
      if ret = -4 then regs' = regs ∨ regs' = overlay regs table else regs' = reset := by
  rw [Call.Reconfigures, hband]

theorem leaves_setBand (band : Int) : Leaves reset regs (Cc1101Driver.setBand band) fun ret regs' =>
    Call.Reconfigures reset regs ret regs' (.setBand band) := by
  unfold Cc1101Driver.setBand
  cases hband : bandTable band with
  | none =>
      refine leaves_pure ?_
      rw [Call.Reconfigures, hband]
      exact ⟨rfl, rfl⟩
  | some table =>
      refine leaves_access (.strobe sidle) (by decide) fun _ => ?_
      refine leaves_bind leaves_waitIdle fun idle => ?_
      cases idle with
      | none => exact leaves_pure ((reconfigures_band hband).mpr (.inl rfl))
      | some =>
          refine leaves_access (.strobe sfrx) (by decide) fun _ => ?_
          refine leaves_access (.strobe sftx) (by decide) fun _ => ?_
          refine (leaves_configure (bandTable_addr hband)).mono fun ret regs' hret => ?_
          rw [reconfigures_band hband]
          split
          · next hlate =>
              rw [if_pos hlate] at hret
              exact .inr hret.2.2
          · next hother =>
              rw [if_neg hother] at hret
              exact hret.2.2

theorem leaves_readConfigReg (addr : Byte) :
    Leaves reset regs (readConfigReg addr) fun _ r => r = if addr = sres then reset else regs := by
  unfold readConfigReg
  split
  · next hlow =>
      have hplain : ∀ addr : Byte, addr ≤ 0x2E → ¬ addrOf addr = sres ∧ ¬ addr = sres := by decide
      rw [if_neg (hplain addr hlow).2]
      refine (leaves_perform (.readReg addr) trivial).mono fun _ r hr => hr.trans ?_
      exact if_neg (hplain addr hlow).1
  · split
    · next hstatus => exact leaves_perform (.readStatus addr) hstatus
    · next hhigh =>
        refine leaves_pure (if_neg ?_).symm
        rintro rfl
        exact hhigh (by decide)

/-- What a call does to the registers, whatever the chip answers. -/
theorem leaves_call (c : Call) : Leaves reset regs c.returns fun ret regs' =>
    c.Reconfigures reset regs ret regs' := by
  have hother {c : Call} {regs' : Registers}
      (hc : Leaves reset regs c.prog fun _ r => r = regs') :
      Leaves reset regs (do c.prog; return 0 : AccessProg Int) fun _ r => r = regs' :=
    leaves_bind hc fun _ => leaves_pure rfl
  have hstrobe (addr : Byte) (haddr : 0x30 ≤ addr ∧ addr ≤ 0x3D) (hres : ¬ addr = sres) :
      Leaves reset regs (do let _ ← perform (AccessOp.strobe addr)) fun _ r => r = regs :=
    leaves_access (.strobe addr) haddr fun _ => leaves_pure (if_neg hres)
  have hstatus (addr : Byte) (haddr : 0x30 ≤ addr ∧ addr ≤ 0x3D) (hres : ¬ addr = sres) :
      Leaves reset regs (do let _ ← perform (AccessOp.readStatus addr)) fun _ r => r = regs :=
    leaves_access (.readStatus addr) haddr fun _ => leaves_pure (if_neg hres)
  cases c with
  | init => exact leaves_init
  | setBand band => exact leaves_setBand band
  | enterRx =>
      refine hother (leaves_access (.strobe sfrx) (by decide) fun _ => ?_)
      exact hstrobe srx (by decide) (by decide)
  | enterTx =>
      refine hother (leaves_access (.strobe sftx) (by decide) fun _ => ?_)
      exact hstrobe stx (by decide) (by decide)
  | enterIdle => exact hother (hstrobe sidle (by decide) (by decide))
  | enterSleep =>
      refine hother (leaves_access (.strobe sidle) (by decide) fun _ => ?_)
      exact leaves_bind leaves_waitIdle fun _ => hstrobe spwd (by decide) (by decide)
  | writeTxFifo data len =>
      refine hother ?_
      show Leaves reset regs (writeTxFifo data len) _
      unfold writeTxFifo
      split
      · exact leaves_pure rfl
      · split
        · exact leaves_pure rfl
        · exact leaves_perform (.writeBurst ..) rfl
  | readRxFifo data len =>
      refine hother (leaves_drop ?_)
      unfold readRxFifo
      split
      · exact leaves_pure rfl
      · exact leaves_perform (.readBurst ..) trivial
  | getRssiX10 =>
      refine hother (leaves_drop (leaves_access (.readStatus rssi) (by decide) fun _ => ?_))
      exact leaves_pure rfl
  | getMarcstate => exact hother (leaves_drop leaves_getMarcstate)
  | getPartnum =>
      exact hother (leaves_access (.readStatus partnum) (by decide) fun _ => leaves_pure rfl)
  | getVersion | getRxBytes | getTxBytes | getPktStatus | getLqi =>
      exact hother (hstatus _ (by decide) (by decide))
  | setSyncWord syncHi syncLo =>
      refine hother (leaves_access (.writeReg sync1 syncHi) (by decide : sync1 ≤ 0x2E) fun _ => ?_)
      exact leaves_perform (.writeReg sync0 syncLo) (by decide : sync0 ≤ 0x2E)
  | setTxPower powerDbm => exact hother (leaves_perform (.window ..) (.inr ⟨rfl, rfl⟩))
  | readReg addr =>
      exact hother (leaves_access (.readReg addr) trivial fun _ => leaves_pure rfl)
  | readConfigReg addr => exact hother (leaves_drop (leaves_readConfigReg addr))

theorem Call.Reconfigures.settled {c : Call} {ret : Int} {regs' : Registers}
    (h : c.Reconfigures reset regs ret regs') (hc : c.configures = false) :
    regs' = c.settles reset regs := by
  cases c with
  | init => cases hc
  | setBand band =>
      cases hband : bandTable band with
      | none =>
          rw [Call.Reconfigures, hband] at h
          exact h.2
      | some table => simp [Call.configures, hband] at hc
  | _ => exact h

/-- A call that reports its success has lost what it has configured. -/
theorem Call.Reconfigures.success {c : Call} {ret : Int} {regs' : Registers}
    (h : c.Reconfigures reset regs ret regs') (hc : c.configures = true) (hret : ret = 0) :
    regs' = reset := by
  subst hret
  cases c with
  | init => exact h
  | setBand band =>
      obtain ⟨table, hband⟩ := Option.isSome_iff_exists.mp (show (bandTable band).isSome from hc)
      exact (reconfigures_band hband).mp h
  | _ => cases hc

end

/-! ### A chip that writes registers of its own -/

section

variable {reset regs regs' : Registers} {own : Set ℕ} {c c' : Cc1101}

theorem eqOn_update (h : Set.EqOn regs regs' ownᶜ) (addr : ℕ) (val : Byte) :
    Set.EqOn (Function.update regs addr val) (Function.update regs' addr val) ownᶜ := by
  intro x hx
  by_cases haddr : x = addr
  · subst haddr
    simp
  · simp [Function.update_of_ne haddr, h hx]

theorem Agrees.refl (c : Cc1101) : Agrees own c c := ⟨rfl, rfl, fun _ _ => rfl⟩

theorem Agrees.trans {c'' : Cc1101} (h : Agrees own c c') (h' : Agrees own c' c'') :
    Agrees own c c'' :=
  ⟨h.selected.trans h'.selected, h.access.trans h'.access, h.regs.trans h'.regs⟩

theorem Agrees.onByte (h : Agrees own c c') (b : Byte) : Agrees own (c.onByte b) (c'.onByte b) := by
  obtain ⟨regs, selected, access⟩ := c
  obtain ⟨regs', _, _⟩ := c'
  obtain ⟨rfl, rfl, hregs⟩ := h
  cases access with
  | none => exact ⟨rfl, rfl, hregs⟩
  | some a =>
      refine ⟨rfl, rfl, ?_⟩
      dsimp only [Cc1101.onByte]
      split
      · exact eqOn_update hregs a.addr b
      · exact hregs

theorem Agrees.decode (h : Agrees own c c') (op : BusOp) :
    Agrees own (decode reset c op) (decode reset c' op) := by
  cases op with
  | csAssert => exact ⟨rfl, h.access, h.regs⟩
  | csRelease => exact ⟨rfl, rfl, h.regs⟩
  | readGpioIn => exact h
  | xfer b =>
      unfold Cc1101Driver.decode
      dsimp only
      rw [h.selected, h.access]
      split_ifs
      · exact ⟨rfl, rfl, fun _ _ => rfl⟩
      · exact h
      · exact h.onByte b
      · exact h

/-- What an access leaves of two files that agree, agrees. -/
theorem leaves_eqOn (h : Set.EqOn regs regs' ownᶜ) (op : AccessOp) :
    Set.EqOn (op.leaves reset regs) (op.leaves reset regs') ownᶜ := by
  cases op with
  | strobe addr | readStatus addr | readReg addr =>
      dsimp only [AccessOp.leaves]
      split
      · exact fun _ _ => rfl
      · exact h
  | writeReg addr val => exact eqOn_update h addr.toNat val
  | writeBurst | readBurst | window | csAssert | csRelease | gpioIn => exact h

theorem settles_eqOn (h : Set.EqOn regs regs' ownᶜ) (c : Call) :
    Set.EqOn (c.settles reset regs) (c.settles reset regs') ownᶜ := by
  cases c with
  | setSyncWord syncHi syncLo => exact eqOn_update (eqOn_update h _ syncHi) _ syncLo
  | getPartnum => exact fun _ _ => rfl
  | readReg addr | readConfigReg addr =>
      dsimp only [Call.settles]
      split
      · exact fun _ _ => rfl
      · exact h
  | init | setBand | enterRx | enterTx | enterIdle | enterSleep | writeTxFifo | readRxFifo
  | getRssiX10 | getMarcstate | getVersion | getRxBytes | getTxBytes | getPktStatus | getLqi
  | setTxPower => exact h

theorem run_settles_eqOn (h : Set.EqOn regs regs' ownᶜ) (cs : List Call) :
    Set.EqOn (run (fun regs c => Call.settles reset regs c) regs cs)
      (run (fun regs c => Call.settles reset regs c) regs' cs) ownᶜ :=
  run_simulates (R := fun regs regs' => Set.EqOn regs regs' ownᶜ)
    (fun _ _ c h => settles_eqOn h c) h cs

end

/-! ### Runs -/

section

variable {σ : Type} {reset : Registers} {own : Set ℕ} (chip : BusDevice σ) {view : σ → Cc1101}

/-- The accesses on the chip. -/
def accessesOn : AccessDevice σ := chip.through AccessOp.routine

def callOn (s : σ) (c : Call) : σ := (c.returns.exec (accessesOn chip) s).state

def resultOn (s : σ) (c : Call) : Int := (c.returns.exec (accessesOn chip) s).result

variable {chip} {s : σ} (hchip : Follows reset own chip view)

include hchip

theorem chip_after (op : AccessOp) :
    Agrees own (view (accessesOn chip op s).2) (run (decode reset) (view s) op.busOps) := by
  have hbus (op : BusOp) (s : σ) (c : Cc1101) (h : Agrees own (view s) c) :
      Agrees own (view (chip op s).2) (decode reset c op) := (hchip op s).trans (h.decode op)
  have hroutine := exec_simulates chip s hbus (Agrees.refl (view s)) op.routine
  rwa [op.ensures_routine.exec] at hroutine

/-- What a call does to the chip, from any state in which it is idle. -/
theorem callOn_reconfigures (hidle : (view s).access = none) (c : Call) :
    (∃ left, c.Reconfigures reset (view s).regs (resultOn chip s c) left ∧
        Set.EqOn (view (callOn chip s c)).regs left ownᶜ) ∧
      (view (callOn chip s c)).access = none := by
  have hstep (regs : Registers) (s : σ) (op : AccessOp) (regs' : Registers)
      (hs : Set.EqOn (view s).regs regs ownᶜ ∧ (view s).access = none)
      (hafter : configured reset regs op (accessesOn chip op s).1 = some regs') :
      Set.EqOn (view (accessesOn chip op s).2).regs regs' ownᶜ ∧
        (view (accessesOn chip op s).2).access = none := by
    obtain ⟨hregs, hidle⟩ := hs
    unfold configured at hafter
    split at hafter
    · next hplain =>
        obtain rfl := Option.some.inj hafter
        have hafter := chip_after hchip (s := s) op
        obtain ⟨hdecoded, hidle'⟩ :
            (run (decode reset) (view s) op.busOps).regs = op.leaves reset (view s).regs ∧
              (run (decode reset) (view s) op.busOps).access = none :=
          decode_busOps hplain hidle
        refine ⟨hafter.regs.trans ?_, hafter.access.trans hidle'⟩
        rw [hdecoded]
        exact leaves_eqOn hregs op
    · cases hafter
  have hleaves : Leaves reset (view s).regs c.returns _ := leaves_call c
  obtain ⟨left, ⟨hregs, hidle'⟩, hcall⟩ := hleaves.exec hstep ⟨fun _ _ => rfl, hidle⟩
  exact ⟨⟨left, hcall, hregs⟩, hidle'⟩

theorem run_callOn_idle (hidle : (view s).access = none) (cs : List Call) :
    (view (run (callOn chip) s cs)).access = none :=
  run_invariant (I := fun s => (view s).access = none)
    (fun _ c h => (callOn_reconfigures hchip h c).2) hidle cs

theorem run_settles (hidle : (view s).access = none) {cs : List Call}
    (hcs : ∀ c ∈ cs, c.configures = false) :
    Set.EqOn (view (run (callOn chip) s cs)).regs
      (run (fun regs c => Call.settles reset regs c) (view s).regs cs) ownᶜ := by
  induction cs generalizing s with
  | nil => exact fun _ _ => rfl
  | cons c cs ih =>
      obtain ⟨⟨left, hcall, hregs⟩, hidle'⟩ := callOn_reconfigures hchip hidle c
      obtain rfl := hcall.settled (hcs c List.mem_cons_self)
      have hrest := ih hidle' fun c' hc' => hcs c' (List.mem_cons_of_mem c hc')
      exact hrest.trans (run_settles_eqOn hregs cs)

/-- In every run from an idle chip, whatever it answers, the registers it does not write by
itself are what the last configuring call has left, changed by the calls behind it; and a
configuring call that reports its success has left the reset values, not its table. -/
theorem configuration_lost (hidle : (view s).access = none) (cs : List Call) (c : Call)
    {cs' : List Call} (hcs' : ∀ c' ∈ cs', c'.configures = false) :
    let before := run (callOn chip) s cs
    let after := run (callOn chip) (callOn chip before c) cs'
    (∃ left, c.Reconfigures reset (view before).regs (resultOn chip before c) left ∧
        Set.EqOn (view after).regs (run (fun regs c' => Call.settles reset regs c') left cs')
          ownᶜ) ∧
      (c.configures = true → resultOn chip before c = 0 →
        Set.EqOn (view after).regs (run (fun regs c' => Call.settles reset regs c') reset cs')
          ownᶜ) := by
  intro before after
  have hbefore : (view before).access = none := run_callOn_idle hchip hidle cs
  obtain ⟨⟨left, hcall, hregs⟩, hidle'⟩ := callOn_reconfigures hchip hbefore c
  have hafter := (run_settles hchip hidle' hcs').trans (run_settles_eqOn hregs cs')
  refine ⟨⟨left, hcall, hafter⟩, fun hc hret => ?_⟩
  rw [hcall.success hc hret] at hafter
  exact hafter

end

/-- What a chip does by itself when it has taken a strobe: `SCAL` writes the results of the
calibration, `SPWD` loses the test registers. -/
def selfWrites (regs : Registers) (b : Byte) : Registers := fun addr =>
  if b = strobe scal ∧ 0x23 ≤ addr ∧ addr ≤ 0x25 then 0x0A
  else if b = strobe spwd ∧ 0x29 ≤ addr ∧ addr ≤ 0x2E then 0x00
  else regs addr

/-- A chip that is always idle and has the right part number. The state is the chip and the
last byte it was sent. -/
def wellAnswering : BusDevice (Cc1101 × Byte)
  | .xfer b, (c, last) =>
      let c := decode (fun _ => 0x29) c (.xfer b)
      (if last = readSingle marcstate then 0x01 else 0x00,
        { c with regs := selfWrites c.regs b }, b)
  | .readGpioIn, t => (0x00, t)
  | .csAssert, (c, last) => ((), decode (fun _ => 0x29) c .csAssert, last)
  | .csRelease, (c, last) => ((), decode (fun _ => 0x29) c .csRelease, last)

theorem wellAnswering_follows : Follows (fun _ => 0x29) ownRegisters wellAnswering Prod.fst := by
  rintro op ⟨c, last⟩
  cases op with
  | csAssert | csRelease | readGpioIn => exact Agrees.refl _
  | xfer b =>
      refine ⟨rfl, rfl, fun addr hother => ?_⟩
      have hcal : ¬ (0x23 ≤ addr ∧ addr ≤ 0x25) := fun h => hother (.inl h)
      have htest : ¬ (0x29 ≤ addr ∧ addr ≤ 0x2E) := fun h => hother (.inr h)
      dsimp only [wellAnswering, selfWrites]
      rw [if_neg fun h => hcal h.2, if_neg fun h => htest h.2]

/-- The band is set with success, and the radio sleeps: the sync word set behind it is there,
the table of the band is not. -/
theorem configuration_lost_band :
    let chip : Cc1101 × Byte := (⟨fun _ => 0x00, false, none⟩, 0x00)
    let after := callOn wellAnswering chip (.setBand 0)
    resultOn wellAnswering chip (.setBand 0) = 0 ∧
      Set.EqOn (run (callOn wellAnswering) after [.setSyncWord 0xAA 0x55, .enterSleep]).1.regs
        (Function.update (Function.update (fun _ => 0x29) 4 0xAA) 5 0x55) ownRegistersᶜ := by
  intro chip after
  have hret : resultOn wellAnswering (⟨fun _ => 0x00, false, none⟩, 0x00) (.setBand 0) = 0 := by
    decide +kernel
  have hcs' : ∀ c' ∈ [Call.setSyncWord 0xAA 0x55, .enterSleep], c'.configures = false := by
    simp [Call.configures]
  have hlost := configuration_lost wellAnswering_follows (s := chip) rfl [] (.setBand 0) hcs'
  dsimp only [run_nil] at hlost
  exact ⟨hret, hlost.2 rfl hret⟩

end GhostBlade.Firmware.Cc1101Driver
