import GhostBlade.Firmware.Cc1101Driver

/-!
The command strobes of the radio. They share their addresses with the status
registers, and only the burst bit of the header tells the two apart. The driver
reads its status registers with the bit clear, so that the chip executes a strobe
for each query.
-/

namespace GhostBlade.Firmware.Cc1101Driver

open GhostBlade.Library Prog

/-! ### The chip -/

def addrOf (header : Byte) : Byte := header &&& 0x3F

/-- A header from `0x30` to `0x3D` without the burst bit is a command strobe. -/
def isStrobe (header : Byte) : Bool :=
  !header.getLsbD 6 && decide (0x30 ≤ addrOf header) && decide (addrOf header ≤ 0x3D)

/-- The chip and the strobes it has executed. -/
structure Radio extends Cc1101 where
  executed : List Byte

namespace Radio

def onByte (r : Radio) (b : Byte) : Radio :=
  if r.access.isNone && isStrobe b then { r with executed := r.executed ++ [addrOf b] }
  else { r with toCc1101 := r.toCc1101.onByte b }

def onOp (r : Radio) : BusOp → Radio
  | .csAssert => { r with selected := true }
  | .csRelease => { r with selected := false, access := none }
  | .xfer b => if r.selected then r.onByte b else r
  | .readGpioIn => r

/-- The status register that the next byte answers with: its header had the read
and the burst bit. -/
def pendingStatus (r : Radio) : Option Byte :=
  match r.access with
  | some ⟨false, true, addr⟩ =>
      if r.selected ∧ 0x30 ≤ addr ∧ addr ≤ 0x3D then some (.ofNat 8 addr) else none
  | _ => none

end Radio

/-- What surrounds the chip's decoder: the other answers on the bus, and the values
of the status registers. -/
structure Environment (σ : Type) where
  bus : BusDevice σ
  status : σ → Byte → Byte

namespace Environment

variable {σ : Type} (env : Environment σ)

def radio : BusDevice (Radio × σ)
  | .xfer b, (r, s) =>
      let (x, s') := env.bus (.xfer b) s
      ((r.pendingStatus.map (env.status s)).getD x, r.onOp (.xfer b), s')
  | .readGpioIn, (r, s) =>
      let (x, s') := env.bus .readGpioIn s
      (x, r, s')
  | .csAssert, (r, s) => ((), r.onOp .csAssert, (env.bus .csAssert s).2)
  | .csRelease, (r, s) => ((), r.onOp .csRelease, (env.bus .csRelease s).2)

/-- The value of a status register when the second byte of a query is exchanged. -/
def statusAt (s : σ) (addr : Byte) : Byte :=
  env.status (env.bus (.xfer (readSingle addr)) (env.bus .csAssert s).2).2 addr

end Environment

/-- The strobes issued through `cc1101_strobe`, and whether every status query has
returned the value of its register. -/
structure Log where
  issued : List Byte
  answered : Bool

section

variable {σ : Type} (env : Environment σ)

def Log.note (log : Log) (s : σ) : (op : AccessOp) → op.Answer → Log
  | .strobe cmd, _ => { log with issued := log.issued ++ [cmd] }
  | .readStatus addr, val => { log with answered := log.answered && val == env.statusAt s addr }
  | _, _ => log

/-- The accesses on the radio, with a log beside it. -/
def logged : AccessDevice (Log × Radio × σ) := fun op t =>
  let e := op.routine.exec env.radio t.2
  (e.result, t.1.note env t.2.2 op e.result, e.state)

def callStep (t : Log × Radio × σ) (c : Call) : Log × Radio × σ :=
  (c.prog.exec (logged env) t).state

/-- The chip has executed what was issued, in order, and every query was answered. -/
def StrobesRight (t : Log × Radio × σ) : Prop :=
  t.2.1.executed = t.1.issued ∧ t.1.answered = true

end

/-! ### Headers -/

theorem strobe_header {cmd : Byte} (h : 0x30 ≤ cmd ∧ cmd ≤ 0x3D) :
    isStrobe (strobe cmd) = true ∧ addrOf (strobe cmd) = cmd := by
  have hall : ∀ cmd : Byte, 0x30 ≤ cmd ∧ cmd ≤ 0x3D →
      isStrobe (strobe cmd) = true ∧ addrOf (strobe cmd) = cmd := by decide
  exact hall cmd h

/-- A single read of a status address is a strobe. -/
theorem readSingle_status {addr : Byte} (h : 0x30 ≤ addr ∧ addr ≤ 0x3D) :
    isStrobe (readSingle addr) = true ∧ addrOf (readSingle addr) = addr := by
  have hall : ∀ addr : Byte, 0x30 ≤ addr ∧ addr ≤ 0x3D →
      isStrobe (readSingle addr) = true ∧ addrOf (readSingle addr) = addr := by decide
  exact hall addr h

/-- Below `0x2F` a header is none. -/
theorem config_header {addr : Byte} (h : addr ≤ 0x2E) :
    isStrobe (writeSingle addr) = false ∧ isStrobe (readSingle addr) = false := by
  have hall : ∀ addr : Byte, addr ≤ 0x2E →
      isStrobe (writeSingle addr) = false ∧ isStrobe (readSingle addr) = false := by decide
  exact hall addr h

theorem burst_bit (addr : Byte) :
    (addr ||| 0x40#8).getLsbD 6 = true ∧ (addr ||| 0xC0#8).getLsbD 6 = true := by
  simp

theorem isStrobe_of_burst {header : Byte} (h : header.getLsbD 6 = true) :
    isStrobe header = false := by
  rw [isStrobe, h]
  rfl

/-! ### Windows -/

namespace Radio

/-- Data of a burst is no header. -/
theorem executed_burst {r : Radio} {a : Cc1101Access} (haccess : r.access = some a)
    (hburst : a.burst = true) (data : List Byte) :
    (run onOp r (data.map .xfer)).executed = r.executed := by
  induction data generalizing r a with
  | nil => rfl
  | cons b data ih =>
      have hbyte : (r.onOp (.xfer b)).executed = r.executed ∧
          ∃ a', (r.onOp (.xfer b)).access = some a' ∧ a'.burst = true := by
        rw [onOp]
        split
        · simp [onByte, Cc1101.onByte, haccess, hburst]
        · exact ⟨rfl, a, haccess, hburst⟩
      obtain ⟨hexecuted, a', haccess', hburst'⟩ := hbyte
      rw [List.map_cons, run_cons, ih haccess' hburst', hexecuted]

/-- A header that opens an access. -/
theorem onOp_header {r : Radio} {header : Byte} (hselected : r.selected = true)
    (hidle : r.access = none) (h : isStrobe header = false) :
    r.onOp (.xfer header) = { r with
      access := some ⟨!header.getLsbD 7, header.getLsbD 6, (header &&& 0x3F#8).toNat⟩ } := by
  simp [onOp, onByte, Cc1101.onByte, hselected, hidle, h]

/-- A header that is a strobe. -/
theorem onOp_strobe {r : Radio} {header : Byte} (hselected : r.selected = true)
    (hidle : r.access = none) (h : isStrobe header = true) :
    r.onOp (.xfer header) = { r with executed := r.executed ++ [addrOf header] } := by
  simp [onOp, onByte, hselected, hidle, h]

theorem onOp_windowOps (r : Radio) (bytes : List Byte) :
    (run onOp r (windowOps bytes)).access = none := by
  rw [windowOps, run_append]
  rfl

theorem executed_windowOps (r : Radio) (bytes : List Byte) :
    (run onOp r (windowOps bytes)).executed =
      (run onOp { r with selected := true } (bytes.map .xfer)).executed := by
  rw [windowOps, run_append]
  rfl

/-- A window that opens with another header executes nothing. -/
theorem executed_window {r : Radio} {header : Byte} {data : List Byte} (hidle : r.access = none)
    (hheader : isStrobe header = false) (hdata : header.getLsbD 6 = true ∨ data.length ≤ 1) :
    (run onOp r (windowOps (header :: data))).executed = r.executed := by
  have hopen := onOp_header (r := { r with selected := true }) rfl hidle hheader
  rw [executed_windowOps, List.map_cons, run_cons, hopen]
  rcases hdata with hburst | hshort
  · exact executed_burst rfl hburst data
  · match data, hshort with
    | [], _ => rfl
    | [b], _ => simp [onOp, onByte]

/-- A window that opens with a strobe executes it, and no zero behind it. -/
theorem executed_strobe {r : Radio} {header : Byte} (hidle : r.access = none)
    (hheader : isStrobe header = true) :
    (run onOp r (windowOps [header])).executed = r.executed ++ [addrOf header] ∧
      (run onOp r (windowOps [header, 0x00])).executed = r.executed ++ [addrOf header] := by
  have hopen := onOp_strobe (r := { r with selected := true }) rfl hidle hheader
  have hzero := onOp_header
    (r := { r with selected := true, executed := r.executed ++ [addrOf header] }) rfl hidle
    (show isStrobe 0x00 = false from rfl)
  rw [executed_windowOps, executed_windowOps, List.map_cons, List.map_cons, run_cons, run_cons,
    hopen, List.map_cons, run_cons, hzero]
  exact ⟨rfl, rfl⟩

end Radio

/-! ### Accesses -/

namespace AccessOp

/-- The strobes that the chip executes in an access. -/
def executes : AccessOp → List Byte
  | .strobe cmd => [cmd]
  | .readStatus addr => [addr]
  | .readReg addr => if isStrobe (readSingle addr) then [addrOf (readSingle addr)] else []
  | .writeReg .. | .writeBurst .. | .readBurst .. | .window .. | .csAssert | .csRelease
  | .gpioIn => []

/-- The strobes that are issued through `cc1101_strobe`. -/
def issues : AccessOp → List Byte
  | .strobe cmd => [cmd]
  | .readStatus _ | .readReg _ => []
  | .writeReg .. | .writeBurst .. | .readBurst .. | .window .. | .csAssert | .csRelease
  | .gpioIn => []

/-- An access that reads at the address of a status register. -/
def readsStatus : AccessOp → Bool
  | .readStatus _ => true
  | .readReg addr => isStrobe (readSingle addr)
  | .strobe _ => false
  | .writeReg .. | .writeBurst .. | .readBurst .. | .window .. | .csAssert | .csRelease
  | .gpioIn => false

/-- What all functions keep to. -/
def Known (op : AccessOp) : Prop := op.Tame ∨ op = .csAssert

theorem executed_busOps {op : AccessOp} {r : Radio} (h : op.Known) (hidle : r.access = none) :
    (run Radio.onOp r op.busOps).executed = r.executed ++ op.executes ∧
      (run Radio.onOp r op.busOps).access = none := by
  rcases h with h | rfl
  · cases op with
    | strobe cmd =>
        obtain ⟨hstrobe, haddr⟩ := strobe_header h
        have hwindow := (Radio.executed_strobe hidle hstrobe).1
        rw [haddr] at hwindow
        exact ⟨hwindow, r.onOp_windowOps _⟩
    | readStatus addr =>
        obtain ⟨hstrobe, haddr⟩ := readSingle_status h
        have hwindow := (Radio.executed_strobe hidle hstrobe).2
        rw [haddr] at hwindow
        exact ⟨hwindow, r.onOp_windowOps _⟩
    | readReg addr =>
        refine ⟨?_, r.onOp_windowOps _⟩
        cases hstrobe : isStrobe (readSingle addr) with
        | true =>
            rw [executes, if_pos hstrobe]
            exact (Radio.executed_strobe hidle hstrobe).2
        | false =>
            rw [executes, hstrobe, if_neg Bool.false_ne_true, List.append_nil]
            exact Radio.executed_window hidle hstrobe (.inr (le_refl 1))
    | writeReg addr val =>
        refine ⟨?_, r.onOp_windowOps _⟩
        rw [executes, List.append_nil]
        exact Radio.executed_window hidle (config_header h).1 (.inr (le_refl 1))
    | writeBurst addr data =>
        refine ⟨?_, r.onOp_windowOps _⟩
        have hburst := (burst_bit addr).1
        rw [executes, List.append_nil]
        exact Radio.executed_window hidle (isStrobe_of_burst hburst) (.inl hburst)
    | readBurst addr len =>
        refine ⟨?_, r.onOp_windowOps _⟩
        have hburst := (burst_bit addr).2
        rw [executes, List.append_nil]
        exact Radio.executed_window hidle (isStrobe_of_burst hburst) (.inl hburst)
    | window header data =>
        refine ⟨?_, r.onOp_windowOps _⟩
        rw [executes, List.append_nil]
        rcases h with hburst | ⟨rfl, hlen⟩
        · exact Radio.executed_window hidle (isStrobe_of_burst hburst) (.inl hburst)
        · exact Radio.executed_window hidle rfl (.inr hlen.le)
    | csAssert => exact absurd h not_false
    | csRelease => exact ⟨(List.append_nil _).symm, rfl⟩
    | gpioIn => exact ⟨(List.append_nil _).symm, hidle⟩
  · exact ⟨(List.append_nil _).symm, hidle⟩

/-- Each access that reads a status register executes one strobe more than it issues. -/
theorem length_executes (ops : List AccessOp) :
    (ops.flatMap executes).length = (ops.flatMap issues).length + ops.countP readsStatus := by
  have hone (op : AccessOp) :
      op.executes.length = op.issues.length + if op.readsStatus then 1 else 0 := by
    cases op with
    | readReg addr =>
        rw [executes, issues, readsStatus]
        split <;> rfl
    | _ => rfl
  induction ops with
  | nil => rfl
  | cons op ops ih =>
      rw [List.flatMap_cons, List.flatMap_cons, List.length_append, List.length_append, ih, hone op,
        List.countP_cons]
      omega

/-- Without such an access what is executed is what is issued. -/
theorem executes_eq {ops : List AccessOp} (h : ∀ op ∈ ops, op.readsStatus = false) :
    ops.flatMap executes = ops.flatMap issues := by
  apply List.flatMap_congr
  intro op hop
  have hreads := h op hop
  cases op with
  | readStatus => cases hreads
  | readReg addr =>
      have hheader : isStrobe (readSingle addr) = false := hreads
      rw [executes, hheader, if_neg Bool.false_ne_true]
      rfl
  | _ => rfl

end AccessOp

/-! ### Runs of accesses -/

section

variable {α σ : Type} {env : Environment σ} {t : Log × Radio × σ}

theorem radio_after (op : AccessOp) :
    (logged env op t).2.2.1 = run Radio.onOp t.2.1 op.busOps := by
  have hbus (op : BusOp) (s : Radio × σ) : (env.radio op s).2.1 = Radio.onOp s.1 op := by
    cases op with
    | xfer | readGpioIn | csAssert | csRelease => rfl
  have hroutine := exec_component env.radio t.2 hbus op.routine
  rwa [op.ensures_routine.exec] at hroutine

/-- The strobes executed and issued so far. -/
def strobes (t : Log × Radio × σ) : List Byte × List Byte := (t.2.1.executed, t.1.issued)

def noteStrobes (l : List Byte × List Byte) (op : AccessOp) : List Byte × List Byte :=
  (l.1 ++ op.executes, l.2 ++ op.issues)

theorem run_noteStrobes (l : List Byte × List Byte) (ops : List AccessOp) :
    run noteStrobes l ops =
      (l.1 ++ ops.flatMap AccessOp.executes, l.2 ++ ops.flatMap AccessOp.issues) := by
  induction ops generalizing l with
  | nil => simp
  | cons op ops ih =>
      rw [run_cons, ih, noteStrobes, List.flatMap_cons, List.flatMap_cons, List.append_assoc,
        List.append_assoc]

variable (env) in
theorem strobes_step {op : AccessOp} (hop : op.Known) (hidle : t.2.1.access = none) :
    strobes (logged env op t).2 = noteStrobes (strobes t) op ∧
      (logged env op t).2.2.1.access = none := by
  obtain ⟨hexecuted, haccess⟩ := AccessOp.executed_busOps hop hidle
  have hissued : (logged env op t).2.1.issued = t.1.issued ++ op.issues := by
    cases op with
    | strobe => rfl
    | _ => exact (List.append_nil _).symm
  rw [strobes, radio_after, hexecuted, hissued]
  exact ⟨rfl, haccess⟩

variable (env) in
/-- What a program executes and issues are the strobes of its accesses. -/
theorem exec_strobes {p : AccessProg α} (hp : Only AccessOp.Known p)
    (hidle : t.2.1.access = none) :
    let e := p.exec (logged env) t
    strobes e.state = (t.2.1.executed ++ e.trace.flatMap AccessOp.executes,
        t.1.issued ++ e.trace.flatMap AccessOp.issues) ∧
      e.state.2.1.access = none := by
  intro e
  have hstep (op : AccessOp) (t : Log × Radio × σ) (hop : op.Known)
      (hidle : t.2.1.access = none) := strobes_step env hop hidle
  have hrun := exec_component_of hstep hp.exec hidle
  rw [run_noteStrobes] at hrun
  exact hrun

/-- Without a query every query has been answered. -/
theorem exec_answered {p : AccessProg α}
    (hp : ∀ op ∈ (p.exec (logged env) t).trace, op.readsStatus = false)
    (h : t.1.answered = true) : (p.exec (logged env) t).state.1.answered = true := by
  have hstep (op : AccessOp) (t : Log × Radio × σ) (hop : op.readsStatus = false)
      (ht : t.1.answered = true) : (logged env op t).2.1.answered = true := by
    cases op with
    | readStatus => cases hop
    | _ => exact ht
  exact exec_invariant_of hstep hp h

/-- The strobes stay right exactly if no access reads a status register. -/
theorem strobesRight_exec {p : AccessProg α} (hp : Only AccessOp.Known p)
    (hidle : t.2.1.access = none) (hright : StrobesRight t) :
    StrobesRight (p.exec (logged env) t).state ↔
      ∀ op ∈ (p.exec (logged env) t).trace, op.readsStatus = false := by
  obtain ⟨hexecuted, hissued⟩ := Prod.mk.inj (exec_strobes env hp hidle).1
  constructor
  · rintro ⟨hequal, -⟩ op hop
    have hlength := AccessOp.length_executes (p.exec (logged env) t).trace
    rw [hexecuted, hissued, hright.1] at hequal
    rw [List.append_cancel_left hequal] at hlength
    have hnone : (p.exec (logged env) t).trace.countP AccessOp.readsStatus = 0 := by omega
    exact Bool.eq_false_of_not_eq_true (List.countP_eq_zero.mp hnone op hop)
  · intro hnone
    refine ⟨?_, exec_answered hnone hright.2⟩
    rw [hexecuted, hissued, hright.1, AccessOp.executes_eq hnone]

end

/-! ### Calls -/

section

variable {σ : Type} (d : AccessDevice σ) (s : σ)

/-- MISO is low for the first time at the `k`-th look. -/
def FirstLow (k : ℕ) : Prop :=
  (∀ j < k, (d .gpioIn (misoPolled d s j)).1.getLsbD pinCcSpiRx = true) ∧
    (d .gpioIn (misoPolled d s k)).1.getLsbD pinCcSpiRx = false

/-- The chip reset and selected for the second wait of an initialisation. -/
def afterReset : σ := (d .csAssert (d (.strobe sres) (d .csRelease s).2).2).2

/-- Both waits of an initialisation, from the first look on, find MISO low. -/
def BothReady : Prop :=
  ∃ k < 3000, FirstLow d s k ∧ ChipReady d (afterReset d (misoPolled d s (k + 1)))

/-- The calls that read a status register. -/
def Call.ReadsStatus : Call → Prop
  | .init => BothReady d (d .csAssert s).2
  | .setBand band => (bandTable band).isSome
  | .readReg addr => isStrobe (readSingle addr)
  | .readConfigReg addr => 0x30 ≤ addr ∧ addr ≤ 0x3D
  | .enterSleep | .getRssiX10 | .getMarcstate | .getPartnum | .getVersion | .getRxBytes
  | .getTxBytes | .getPktStatus | .getLqi => True
  | .enterRx | .enterTx | .enterIdle | .writeTxFifo .. | .readRxFifo .. | .setSyncWord ..
  | .setTxPower _ => False

variable {d s} {α : Type} {p : AccessProg α}

/-- Some access of a run reads a status register. -/
def SomeRead (ops : List AccessOp) : Prop := ∃ op ∈ ops, op.readsStatus = true

theorem not_someRead {ops : List AccessOp} :
    ¬SomeRead ops ↔ ∀ op ∈ ops, op.readsStatus = false := by
  simp [SomeRead]

theorem someRead_append {ops ops' : List AccessOp} :
    SomeRead (ops ++ ops') ↔ SomeRead ops ∨ SomeRead ops' := by
  simp [SomeRead, or_and_right, exists_or]

/-- An access that reads nothing, before others. -/
theorem someRead_cons {op : AccessOp} {ops : List AccessOp} (h : op.readsStatus = false) :
    SomeRead (op :: ops) ↔ SomeRead ops := by
  simp [SomeRead, h]

theorem someRead_does (h : Does (·.readsStatus = true) p) : SomeRead (p.exec d s).trace := h.exec

theorem not_someRead_only (h : Only (·.readsStatus = false) p) :
    ¬SomeRead (p.exec d s).trace := not_someRead.mpr h.exec

theorem does_read (op : AccessOp) (h : op.readsStatus = true) :
    Does (·.readsStatus = true) (perform op : AccessProg op.Answer) := does_perform h

theorem only_silent (op : AccessOp) (h : op.readsStatus = false) :
    Only (·.readsStatus = false) (perform op : AccessProg op.Answer) := only_perform h

theorem does_waitIdle : Does (·.readsStatus = true) waitIdle :=
  (((does_read (.readStatus marcstate) rfl).bind _).bind _).loop 999

theorem does_configure (table : List (Byte × Byte)) :
    Does (·.readsStatus = true) (configure table) :=
  does_bind _ fun _ => does_bind _ fun _ => does_bind _ fun _ => does_waitIdle.bind _

/-- A call other than an initialisation. -/
theorem someRead_call {c : Call} (hc : c ≠ .init) :
    SomeRead (c.prog.exec d s).trace ↔ c.ReadsStatus d s := by
  have hdrop {α : Type} {p : AccessProg α} (hp : Only (·.readsStatus = false) p) :
      Only (·.readsStatus = false) (do let _ ← p) := only_bind hp fun _ => only_pure _
  have hstrobe (cmd : Byte) := only_silent (.strobe cmd) rfl
  have hread (addr : Byte) := does_read (.readStatus addr) rfl
  cases c with
  | init => exact absurd rfl hc
  | setBand band =>
      rw [Call.ReadsStatus]
      cases hband : bandTable band with
      | none =>
          refine iff_of_false (not_someRead_only (hdrop ?_)) nofun
          rw [setBand, hband]
          exact only_pure _
      | some table =>
          refine iff_of_true (someRead_does (Does.bind ?_ _)) rfl
          rw [setBand, hband]
          exact does_bind _ fun _ => does_waitIdle.bind _
  | enterRx | enterTx =>
      exact iff_of_false (not_someRead_only (only_bind (hstrobe _) fun _ => hdrop (hstrobe _))) id
  | enterIdle => exact iff_of_false (not_someRead_only (hdrop (hstrobe _))) id
  | enterSleep =>
      exact iff_of_true (someRead_does (does_bind _ fun _ => does_waitIdle.bind _)) trivial
  | writeTxFifo data len =>
      exact iff_of_false (not_someRead_only (only_writeTxFifo (fun _ => rfl) data len)) id
  | readRxFifo data len =>
      exact iff_of_false (not_someRead_only (hdrop (only_readRxFifo (fun _ => rfl) data len))) id
  | getRssiX10 | getMarcstate =>
      exact iff_of_true (someRead_does (((hread _).bind _).bind _)) trivial
  | getPartnum | getVersion | getRxBytes | getTxBytes | getPktStatus | getLqi =>
      exact iff_of_true (someRead_does ((hread _).bind _)) trivial
  | setSyncWord syncHi syncLo =>
      have hwrite (addr val : Byte) := only_silent (.writeReg addr val) rfl
      exact iff_of_false
        (not_someRead_only (only_bind (hwrite sync1 syncHi) fun _ => hwrite sync0 syncLo)) id
  | setTxPower powerDbm => exact iff_of_false (not_someRead_only (only_silent _ rfl)) id
  | readReg addr =>
      cases haddr : isStrobe (readSingle addr) with
      | true =>
          exact iff_of_true (someRead_does ((does_read (.readReg addr) haddr).bind _)) haddr
      | false =>
          exact iff_of_false (not_someRead_only (hdrop (only_silent (.readReg addr) haddr)))
            (Bool.eq_false_iff.mp haddr)
  | readConfigReg addr =>
      rw [Call.ReadsStatus]
      by_cases hconfig : addr ≤ 0x2E
      · refine iff_of_false (not_someRead_only (hdrop ?_)) ?_
        · rw [readConfigReg, if_pos hconfig]
          exact only_silent _ (config_header hconfig).2
        · rintro ⟨hlow, -⟩
          exact absurd (BitVec.le_trans hlow hconfig) (by decide)
      · by_cases hstatus : 0x30 ≤ addr ∧ addr ≤ 0x3D
        · refine iff_of_true (someRead_does (Does.bind ?_ _)) hstatus
          rw [readConfigReg, if_neg hconfig, if_pos hstatus]
          exact hread addr
        · refine iff_of_false (not_someRead_only (hdrop ?_)) hstatus
          rw [readConfigReg, if_neg hconfig, if_neg hstatus]
          exact only_pure _

theorem firstLow_iff {k : ℕ} : LeavesAt d pollMiso s k () ↔ FirstLow d s k := by
  have hnone (j : ℕ) : said d pollMiso s j = none ↔
      (d .gpioIn (misoPolled d s j)).1.getLsbD pinCcSpiRx = true := by
    rw [said_pollMiso]
    split <;> simp_all
  have hsome : said d pollMiso s k = some () ↔
      (d .gpioIn (misoPolled d s k)).1.getLsbD pinCcSpiRx = false := by
    rw [said_pollMiso]
    split <;> simp_all
  exact and_congr (forall₂_congr fun j _ => hnone j) hsome

theorem waitMiso_trace : ¬SomeRead (waitMiso.exec d s).trace := by
  have hsilent : Only (·.readsStatus = false) waitMiso :=
    only_waitMiso.mono fun op hop => by rw [hop]; rfl
  exact not_someRead_only hsilent

/-- From the ready chip on, an initialisation reads its status registers once the
reset is over. -/
theorem someRead_initReady :
    SomeRead (initReady.exec d s).trace ↔ ChipReady d (afterReset d s) := by
  rw [← waitMiso_iff, initReady_trace]
  dsimp only [List.cons_append, List.nil_append]
  rw [someRead_cons rfl, someRead_cons rfl, someRead_cons rfl, someRead_append,
    or_iff_right waitMiso_trace, someRead_cons rfl]
  split
  · next hwait =>
      rw [afterReset, hwait]
      exact iff_of_false (by simp [SomeRead]) nofun
  · next hwait => exact iff_of_true (someRead_does (does_configure _)) hwait

theorem someRead_init : SomeRead (init.exec d s).trace ↔ BothReady d (d .csAssert s).2 := by
  rw [init_trace, List.cons_append, someRead_cons rfl, someRead_append,
    or_iff_right waitMiso_trace]
  rcases leaves_or_stays d pollMiso (d .csAssert s).2 3000 with ⟨k, hk, ⟨⟩, hleaves⟩ | hstays
  · have hwait := hleaves.exec hk
    rw [waitMiso, hwait]
    dsimp only
    rw [someRead_initReady]
    constructor
    · exact fun hready => ⟨k, hk, firstLow_iff.mp hleaves, hready⟩
    · rintro ⟨m, -, hlow, hready⟩
      obtain ⟨rfl, -⟩ := hleaves.unique (firstLow_iff.mpr hlow)
      exact hready
  · have hwait := exec_loop_stays hstays
    rw [waitMiso, hwait]
    refine iff_of_false (by simp [SomeRead]) ?_
    rintro ⟨k, hk, hlow, -⟩
    have hnone := hstays k hk
    rw [(firstLow_iff.mpr hlow).2] at hnone
    cases hnone

theorem readsStatus_iff (c : Call) : SomeRead (c.prog.exec d s).trace ↔ c.ReadsStatus d s := by
  by_cases hinit : c = .init
  · have htrace : (Call.init.prog.exec d s).trace = (init.exec d s).trace := by
      simp [Call.prog]
    rw [hinit, htrace]
    exact someRead_init
  · exact someRead_call hinit

end

theorem only_init : Only AccessOp.Known init := by
  have hconfigure : Only AccessOp.Known (configure cc1101Config868mhz) :=
    (only_configure (cc1101Config_addr 0x21 0x62 0x76)).mono fun _ => .inl
  have hwait : Only AccessOp.Known waitMiso :=
    only_waitMiso.mono fun op hop => .inl (by rw [hop]; trivial)
  have htame (op : AccessOp) (h : op.Tame) :
      Only AccessOp.Known (perform op : AccessProg op.Answer) := only_perform (.inl h)
  have hassert : Only AccessOp.Known (perform AccessOp.csAssert : AccessProg Unit) :=
    only_perform (C := AccessOp.Known) (.inr rfl)
  apply only_bind hassert
  intro _
  apply only_bind hwait
  intro ready
  cases ready with
  | none => exact only_pure _
  | some =>
      apply only_bind (htame .csRelease trivial)
      intro _
      apply only_bind (htame (.strobe sres) (by decide))
      intro _
      apply only_bind hassert
      intro _
      apply only_bind hwait
      intro ready
      cases ready with
      | none => exact only_bind (htame .csRelease trivial) fun _ => only_pure _
      | some => exact only_bind (htame .csRelease trivial) fun _ => hconfigure

theorem Call.known (c : Call) : Only AccessOp.Known c.prog := by
  by_cases hinit : c = .init
  · rw [hinit]
    exact only_bind only_init fun _ => only_pure _
  · exact (Call.tame hinit).mono fun _ => .inl

/-- Whatever surrounds the chip: in every state of a run the strobes executed are
those issued and the queries have been answered, exactly if no call of the run
reads a status register. -/
theorem strobes_right_iff {σ : Type} (env : Environment σ) (t : Log × Radio × σ)
    (hidle : t.2.1.access = none) (hright : StrobesRight t) (calls : List Call) :
    (∀ us, us <+: calls → StrobesRight (run (callStep env) t us)) ↔
      Along (callStep env) (fun u c => ¬c.ReadsStatus (logged env) u) t calls := by
  have hcall (u : Log × Radio × σ) (c : Call) (hu : u.2.1.access = none ∧ StrobesRight u) :
      StrobesRight (callStep env u c) ↔ ¬c.ReadsStatus (logged env) u := by
    rw [callStep, strobesRight_exec c.known hu.1 hu.2, ← not_someRead, readsStatus_iff]
  have hkeep (u : Log × Radio × σ) (c : Call) (hu : u.2.1.access = none ∧ StrobesRight u)
      (hc : ¬c.ReadsStatus (logged env) u) :
      (callStep env u c).2.1.access = none ∧ StrobesRight (callStep env u c) :=
    ⟨(exec_strobes env c.known hu.1).2, (hcall u c hu).mpr hc⟩
  exact property_iff_along (fun _ hu => hu.2) hkeep (fun u c hu => (hcall u c hu).mp)
    ⟨hidle, hright⟩ calls

/-- Zeros on the bus, and a strong signal. -/
def loudEnvironment : Environment Unit := ⟨constantRadio 0, fun _ _ => 0x20⟩

def idleRadio : Radio := ⟨⟨fun _ => 0, false, none⟩, []⟩

theorem strobes_right_iff_enter_rx :
    (∀ us, us <+: [Call.enterRx, .enterIdle] →
        StrobesRight (run (callStep loudEnvironment) (⟨[], true⟩, idleRadio, ()) us)) ↔
      Along (callStep loudEnvironment) (fun u c => ¬c.ReadsStatus (logged loudEnvironment) u)
        (⟨[], true⟩, idleRadio, ()) [.enterRx, .enterIdle] :=
  strobes_right_iff loudEnvironment (⟨[], true⟩, idleRadio, ()) rfl ⟨rfl, rfl⟩ _

/-- Asking for the signal strength sends the chip into reception. -/
theorem getRssi_enters_rx :
    let before : Log × Radio × Unit := (⟨[], true⟩, idleRadio, ())
    let after := run (callStep loudEnvironment) before [.getRssiX10]
    StrobesRight before ∧ after.2.1.executed = [srx] ∧ after.1.issued = [] ∧
      after.1.answered = false ∧ ¬StrobesRight after := by
  refine ⟨⟨rfl, rfl⟩, by decide, by decide, by decide, ?_⟩
  rintro ⟨hexecuted, -⟩
  have hlength := congrArg List.length hexecuted
  exact absurd hlength (by decide)

end GhostBlade.Firmware.Cc1101Driver
