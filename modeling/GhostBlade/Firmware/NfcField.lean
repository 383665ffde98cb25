import GhostBlade.Firmware.NfcTransmit
import GhostBlade.Library.Latch
import GhostBlade.Library.Tracking

/-!
The field of the NFC reader over the calls of its driver. The carrier is switched by
direct commands and goes out while the operation control enables the transmitter. A
transaction switches the carrier but enables nothing, so that between a call that
disables the transmitter and the next that enables it the reader stays silent.
-/

namespace GhostBlade.Firmware.St25r3916

open GhostBlade.Library Prog

/-! ### Functions -/

def regRssi : Byte := 0x3A
def regObsvConf1 : Byte := 0x3B

def cmdMeasureVdd : Byte := 0xC5
def cmdMeasureAmplitude : Byte := 0xC9
def cmdGotoSleep : Byte := 0xD1

def fieldOn : NfcProg Unit := sendCommand cmdTxOn

def fieldOff : NfcProg Unit := sendCommand cmdTxOff

/-- A measured byte in mV, full scale at 5 V. -/
def millivolts (result : Byte) : BitVec 16 := .ofNat 16 (result.toNat * 5000 / 255)

def measureVdd : NfcProg (BitVec 16) := do
  sendCommand cmdMeasureVdd
  let result ← readReg regObsvConf1
  return millivolts result

def getRssi : NfcProg Byte := readReg regRssi

def sleep : NfcProg Unit := do
  fieldOff
  writeReg regOpCtrl 0x00
  sendCommand cmdGotoSleep

def stopPolling : NfcProg Unit := do
  fieldOff
  writeReg regOpCtrl 0x00
  sendCommand cmdClearIrqs

def startPolling : NfcProg Unit := do
  sendCommand cmdClearIrqs
  writeReg regOpCtrl 0x03
  sendCommand cmdTxOn

def writeMultipleRegs (startAddr : Byte) (values : Option (Nat → Byte)) (len : Byte) :
    NfcProg Unit :=
  match values with
  | none => pure ()
  | some values =>
      if len = 0 then pure ()
      else if startAddr.toNat + len.toNat > 0x40 then pure ()
      else (List.range len.toNat).forM fun i => writeReg (startAddr + .ofNat 8 i) (values i)

/-- The other name of `sendCommand`. -/
def strobe (cmd : Byte) : NfcProg Byte := do
  sendCommand cmd
  return 0

/-- One look at the bit of a measurement that is done. -/
def pollAmplitude : NfcProg (Option Unit) := do
  let irq1 ← readReg regIrqStatus1
  return if irq1 &&& 0x01 ≠ 0 then some () else none

def getFieldStrengthMv : NfcProg (BitVec 16) := do
  sendCommand cmdMeasureAmplitude
  let _ ← loop pollAmplitude 5000
  let result ← readReg regRssi
  return millivolts result

/-! ### The chip -/

/-- Bit 0 of `OP_CTRL` and the carrier, and whether the field has been switched on. No
other register and no other command than the three of `onCommand` has a part in it. -/
structure Field where
  txEn : Bool
  carrier : Bool
  lit : Bool

namespace Field

variable (f : Field)

def radiates : Bool := f.txEn && f.carrier

/-- The field is on behind a command or a write. -/
def noted : Field := { f with lit := f.lit || f.radiates }

def onCommand (cmd : Byte) : Field :=
  if cmd = cmdTxOn then noted { f with carrier := true }
  else if cmd = cmdTxOff then { f with carrier := false }
  else if cmd = cmdSetDefault then { f with txEn := false, carrier := false }
  else f

/-- Behind a write to `OP_CTRL`, if there is one. -/
def written : Option Byte → Field
  | some val => noted { f with txEn := val.getLsbD 0 }
  | none => f

def after : NfcOp → Field
  | .directCommand cmd => f.onCommand cmd
  | .writeRegister addr val =>
      if addr = regOpCtrl then noted { f with txEn := val.getLsbD 0 } else f
  | .readRegister _ | .loadTx _ | .storeRx .. | .storeRxLen _ => f

end Field

/-- The chip with its field, and answers of any kind. -/
def fieldChip {σ : Type} (answer : Field → NfcDevice σ) : NfcDevice (Field × σ) := fun op t =>
  let (x, s) := answer t.1 op t.2
  (x, t.1.after op, s)

def fieldOf : Tracker NfcOp NfcOp.Answer Field := fun f op _ => some (f.after op)

/-! ### Calls -/

inductive ReaderCall where
  | init
  | iso14443aReqa
  | fieldOn
  | fieldOff
  | measureVdd
  | getRssi
  | sleep
  | stopPolling
  | startPolling
  | transact (a : TransactArgs)
  | getFieldStrengthMv
  | writeReg (addr val : Byte)
  | readReg (addr : Byte)
  | writeMultipleRegs (startAddr : Byte) (values : Option (Nat → Byte)) (len : Byte)
  | sendCommand (cmd : Byte)
  | strobe (cmd : Byte)
  | clearInterrupts (irq1 irq2 irq3 irq4 irq5 : Bool)

/-- A call with its result, as a number; 0 stands for nothing. -/
def ReaderCall.prog : ReaderCall → NfcProg Int
  | .init => St25r3916.init
  | .iso14443aReqa => St25r3916.iso14443aReqa
  | .fieldOn => do
      St25r3916.fieldOn
      return 0
  | .fieldOff => do
      St25r3916.fieldOff
      return 0
  | .measureVdd => return (← St25r3916.measureVdd).toNat
  | .getRssi => return (← St25r3916.getRssi).toNat
  | .sleep => do
      St25r3916.sleep
      return 0
  | .stopPolling => do
      St25r3916.stopPolling
      return 0
  | .startPolling => do
      St25r3916.startPolling
      return 0
  | .transact a => St25r3916.transact a
  | .getFieldStrengthMv => return (← St25r3916.getFieldStrengthMv).toNat
  | .writeReg addr val => do
      St25r3916.writeReg addr val
      return 0
  | .readReg addr => return (← St25r3916.readReg addr).toNat
  | .writeMultipleRegs startAddr values len => do
      St25r3916.writeMultipleRegs startAddr values len
      return 0
  | .sendCommand cmd => do
      St25r3916.sendCommand cmd
      return 0
  | .strobe cmd => return (← St25r3916.strobe cmd).toNat
  | .clearInterrupts irq1 irq2 irq3 irq4 irq5 => do
      let _ ← St25r3916.clearInterrupts irq1 irq2 irq3 irq4 irq5
      return 0

/-- What a call that writes registers writes to `OP_CTRL`. -/
def ReaderCall.opCtrl : ReaderCall → Option Byte
  | .writeReg addr val => if addr = regOpCtrl then some val else none
  | .writeMultipleRegs startAddr (some values) len =>
      let past := startAddr.toNat + len.toNat
      if past ≤ 0x40 ∧ startAddr.toNat ≤ regOpCtrl.toNat ∧ regOpCtrl.toNat < past then
        some (values (regOpCtrl.toNat - startAddr.toNat))
      else none
  | _ => none

/-- The field after a call that has returned `ret`. -/
def ReaderCall.leaves (f : Field) (ret : Int) : ReaderCall → Field
  | .init => if ret = -1 then f else ⟨true, false, f.lit⟩
  | .iso14443aReqa | .fieldOn => Field.noted { f with carrier := true }
  | .fieldOff => { f with carrier := false }
  | .sleep | .stopPolling => { f with txEn := false, carrier := false }
  | .startPolling => ⟨true, true, true⟩
  | .transact _ =>
      if ret = -3 then f else { Field.noted { f with carrier := true } with carrier := false }
  | .sendCommand cmd | .strobe cmd => f.onCommand cmd
  | .measureVdd | .getRssi | .getFieldStrengthMv | .readReg _ | .clearInterrupts .. => f
  | .writeReg addr val => f.written (ReaderCall.writeReg addr val).opCtrl
  | .writeMultipleRegs startAddr values len =>
      f.written (ReaderCall.writeMultipleRegs startAddr values len).opCtrl

/-- A call with its result, as the history of the reader has it. -/
abbrev ReaderEvent := ReaderCall × Int

/-- The carrier is on behind the call. -/
def switchesOn (e : ReaderEvent) : Bool :=
  match e.1 with
  | .iso14443aReqa | .fieldOn | .startPolling => true
  | .sendCommand cmd | .strobe cmd => cmd = cmdTxOn
  | _ => false

/-- The carrier is what it was. -/
def keepsCarrier (e : ReaderEvent) : Bool :=
  match e.1 with
  | .measureVdd | .getRssi | .getFieldStrengthMv | .writeReg .. | .readReg _
  | .writeMultipleRegs .. | .clearInterrupts .. => true
  | .sendCommand cmd | .strobe cmd => cmd ≠ cmdTxOff ∧ cmd ≠ cmdSetDefault
  | .init => e.2 = -1
  | .transact _ => e.2 = -3
  | _ => false

def enables (e : ReaderEvent) : Bool :=
  match e.1 with
  | .init => e.2 ≠ -1
  | .startPolling => true
  | c => c.opCtrl.any fun val => val.getLsbD 0

def disables (e : ReaderEvent) : Bool :=
  match e.1 with
  | .sleep | .stopPolling => true
  | .sendCommand cmd | .strobe cmd => cmd = cmdSetDefault
  | c => c.opCtrl.any fun val => !val.getLsbD 0

/-! ### Programs -/

section

variable {f : Field} {α : Type}

/-- The field is what it was. -/
def Keeps (f : Field) (p : NfcProg α) : Prop := Tracks fieldOf f p fun _ f' => f' = f

theorem keeps_pure (a : α) : Keeps f (pure a) := rfl

theorem tracks_perform_after (op : NfcOp) :
    Tracks fieldOf f (perform op : NfcProg op.Answer) fun _ g => g = f.after op :=
  tracks_perform fun _ => ⟨_, rfl, rfl⟩

theorem keeps_readReg (addr : Byte) : Keeps f (readReg addr) := by
  unfold readReg
  split
  · exact keeps_pure _
  · exact tracks_perform_after _

theorem keeps_writeReg {addr : Byte} (h : addr ≠ regOpCtrl) (val : Byte) :
    Keeps f (writeReg addr val) := by
  unfold writeReg
  split
  · exact keeps_pure _
  · exact (tracks_perform_after (.writeRegister addr val)).mono fun _ _ hg => hg.trans (if_neg h)

theorem tracks_opCtrl (val : Byte) : Tracks fieldOf f (writeReg regOpCtrl val) fun _ g =>
    g = Field.noted { f with txEn := val.getLsbD 0 } := by
  rw [writeReg_of_le (by decide)]
  exact tracks_perform_after (.writeRegister regOpCtrl val)

theorem tracks_sendCommand {cmd : Byte} (hlow : 0xC1 ≤ cmd) (hhigh : cmd ≤ 0xD3) :
    Tracks fieldOf f (sendCommand cmd) fun _ g => g = f.onCommand cmd := by
  rw [sendCommand_of_mem hlow hhigh]
  exact tracks_perform_after (.directCommand cmd)

/-- A command out of range does nothing, sent or not. -/
theorem tracks_anyCommand (cmd : Byte) : Tracks fieldOf f (sendCommand cmd) fun _ g =>
    g = f.onCommand cmd := by
  by_cases hrange : cmd < 0xC1 ∨ cmd > 0xD3
  · have hother : cmd ≠ cmdTxOn ∧ cmd ≠ cmdTxOff ∧ cmd ≠ cmdSetDefault := by
      refine ⟨?_, ?_, ?_⟩ <;> rintro rfl <;> exact absurd hrange (by decide)
    rw [sendCommand, if_pos hrange, Field.onCommand, if_neg hother.1, if_neg hother.2.1,
      if_neg hother.2.2]
    exact tracks_pure rfl
  · obtain ⟨hlow, hhigh⟩ := not_or.mp hrange
    exact tracks_sendCommand (BitVec.not_lt.mp hlow) (BitVec.not_lt.mp hhigh)

theorem keeps_clearIrqs : Keeps f (sendCommand cmdClearIrqs) :=
  tracks_sendCommand (by decide) (by decide)

theorem tracks_txOff : Tracks fieldOf f (sendCommand cmdTxOff) fun _ g =>
    g = { f with carrier := false } :=
  tracks_sendCommand (by decide) (by decide)

theorem tracks_txOn : Tracks fieldOf f (sendCommand cmdTxOn) fun _ g =>
    g = Field.noted { f with carrier := true } :=
  tracks_sendCommand (by decide) (by decide)

theorem keeps_clearInterrupts (irq1 irq2 irq3 irq4 irq5 : Bool) :
    Keeps f (clearInterrupts irq1 irq2 irq3 irq4 irq5) := by
  have hread (wanted : Bool) (addr : Byte) : Keeps f (readIrq wanted addr) := by
    unfold readIrq
    split
    · exact keeps_readReg addr
    · exact keeps_pure _
  refine tracks_then (hread ..) fun _ => tracks_then (hread ..) fun _ => ?_
  refine tracks_then (hread ..) fun _ => tracks_then (hread ..) fun _ => ?_
  exact tracks_then (hread ..) fun _ => tracks_then keeps_clearIrqs fun _ => keeps_pure _

/-! ### Registers -/

theorem tracks_writeReg (addr val : Byte) : Tracks fieldOf f (writeReg addr val) fun _ g =>
    g = f.written (ReaderCall.writeReg addr val).opCtrl := by
  rw [ReaderCall.opCtrl]
  split
  · next haddr =>
      subst haddr
      exact tracks_opCtrl val
  · next haddr => exact keeps_writeReg haddr val

/-- The writes from the `i`-th on. One of them at most goes to `OP_CTRL`. -/
theorem tracks_writesFrom (startAddr : Byte) (values : Nat → Byte) {i n : Nat}
    (hend : startAddr.toNat + i + n ≤ 0x40) :
    Tracks fieldOf f
      ((List.range' i n).forM fun i => writeReg (startAddr + .ofNat 8 i) (values i)) fun _ g =>
      g = if startAddr.toNat + i ≤ 4 ∧ 4 < startAddr.toNat + i + n then
        f.written (some (values (4 - startAddr.toNat)))
      else f := by
  induction n generalizing i f with
  | zero => exact tracks_pure (if_neg (by omega)).symm
  | succ n ih =>
      have haddr : startAddr + .ofNat 8 i = regOpCtrl ↔ startAddr.toNat + i = 4 := by
        rw [← BitVec.toNat_inj, BitVec.toNat_add, BitVec.toNat_ofNat,
          show regOpCtrl.toNat = 4 from rfl]
        omega
      rw [List.range'_succ]
      by_cases hhere : startAddr.toNat + i = 4
      · have hwrite := tracks_opCtrl (f := f) (values i)
        rw [← haddr.mpr hhere] at hwrite
        refine tracks_then hwrite fun _ => (ih (by omega)).mono fun _ g hg => ?_
        rw [if_neg (by omega)] at hg
        rw [if_pos (by omega), hg, show 4 - startAddr.toNat = i by omega]
        rfl
      · refine tracks_then (keeps_writeReg (mt haddr.mp hhere) _) fun _ => ?_
        refine (ih (by omega)).mono fun _ g hg => hg.trans (if_congr ?_ rfl rfl)
        omega

theorem tracks_writeMultipleRegs (startAddr : Byte) (values : Option (Nat → Byte)) (len : Byte) :
    Tracks fieldOf f (writeMultipleRegs startAddr values len) fun _ g =>
      g = f.written (ReaderCall.writeMultipleRegs startAddr values len).opCtrl := by
  have hopCtrl : regOpCtrl.toNat = 4 := rfl
  cases values with
  | none => exact tracks_pure rfl
  | some values =>
      rw [writeMultipleRegs, ReaderCall.opCtrl, hopCtrl]
      split
      · next hzero =>
          have hlen : len.toNat = 0 := congrArg BitVec.toNat hzero
          refine tracks_pure ?_
          rw [hlen, if_neg (by omega)]
          rfl
      · split
        · refine tracks_pure ?_
          rw [if_neg (by omega)]
          rfl
        · rw [List.range_eq_range']
          refine (tracks_writesFrom startAddr values (by omega)).mono fun _ g hg => hg.trans ?_
          rw [apply_ite f.written]
          exact if_congr (by omega) rfl rfl

/-! ### Transactions -/

theorem keeps_prepare (a : TransactArgs) : Keeps f (prepare a) := by
  have hcount (bytes : BitVec 16) : Keeps f (writeTxCount bytes) := by
    refine tracks_then (keeps_writeReg (by decide) _) fun _ => ?_
    exact tracks_then (keeps_writeReg (by decide) _) fun _ => keeps_writeReg (by decide) _
  have hshort : Keeps f (writeShortFrame a) := by
    unfold writeShortFrame
    split
    · exact keeps_writeReg (by decide) _
    · exact keeps_pure _
  have hprogram : Keeps f (programTxCount a) := by
    unfold programTxCount
    split
    · exact hcount _
    · exact keeps_pure _
  have hrequest : Keeps f (writeRequest a) := by
    unfold writeRequest
    split
    · split
      · refine tracks_forM fun i _ => tracks_then (tracks_perform_after (.loadTx i)) fun _ => ?_
        exact keeps_writeReg (by decide) _
      · exact hshort
    · exact hshort
  exact tracks_then keeps_clearIrqs fun _ => tracks_then hprogram fun _ => hrequest

/-- The polls leave the field alone but where an error ends the transaction. -/
theorem tracks_pollLoop (n : Nat) : Tracks fieldOf f (pollLoop n) fun r g =>
    match r with
    | some error => error ≠ -3 ∧ g = { f with carrier := false }
    | none => g = f := by
  induction n with
  | zero => exact tracks_pure rfl
  | succ n ih =>
      have hpoll : Keeps f pollStatus := by
        refine tracks_then (keeps_readReg _) fun _ => tracks_then (keeps_readReg _) fun _ => ?_
        exact tracks_then (keeps_readReg _) fun _ => keeps_pure _
      refine tracks_then hpoll fun irq => ?_
      split
      · exact tracks_pure rfl
      · split
        · refine tracks_then keeps_clearIrqs fun _ => tracks_then tracks_txOff fun _ => ?_
          exact tracks_pure ⟨by decide, rfl⟩
        · exact ih

theorem tracks_conclude (a : TransactArgs) : Tracks fieldOf f (conclude a) fun ret g =>
    ret ≠ -3 ∧ g = { f with carrier := false } := by
  have hreceive (len : BitVec 16) : Keeps f (receive len) := by
    have hcount : Keeps f readRxCount :=
      tracks_then (keeps_readReg _) fun _ => tracks_then (keeps_readReg _) fun _ => keeps_pure _
    refine tracks_then hcount fun _ => tracks_then ?_ fun _ => tracks_perform_after (.storeRxLen _)
    refine tracks_forM fun i _ => tracks_then (keeps_readReg _) fun val => ?_
    exact tracks_perform_after (.storeRx i val)
  refine tracks_then (keeps_clearInterrupts ..) fun irq => ?_
  unfold finish
  split
  · exact tracks_then tracks_txOff fun _ => tracks_pure ⟨by decide, rfl⟩
  · split
    · refine tracks_then (hreceive _) fun _ => tracks_then tracks_txOff fun _ => ?_
      exact tracks_pure ⟨by decide, rfl⟩
    · exact tracks_then tracks_txOff fun _ => tracks_pure ⟨by decide, rfl⟩

theorem tracks_transact (a : TransactArgs) : Tracks fieldOf f (transact a) fun ret g =>
    g = (ReaderCall.transact a).leaves f ret := by
  have hended {ret : Int} {g : Field}
      (h : ret ≠ -3 ∧ g = { Field.noted { f with carrier := true } with carrier := false }) :
      g = (ReaderCall.transact a).leaves f ret := by
    rw [ReaderCall.leaves, if_neg h.1]
    exact h.2
  unfold transact
  split
  · exact tracks_pure rfl
  · refine tracks_then (keeps_prepare a) fun _ => tracks_then tracks_txOn fun _ => ?_
    apply tracks_bind (tracks_pollLoop _)
    intro r g hr
    cases r with
    | some error => exact tracks_pure (hended hr)
    | none =>
        dsimp only at hr ⊢
        rw [hr]
        exact (tracks_conclude a).mono fun _ _ => hended

/-! ### The other calls -/

/-- The configuration leaves the transmitter disabled. -/
theorem configuration_opCtrl : ∀ e ∈ configuration, e.1 = regOpCtrl → e.2 = 0x00 := by
  have hall : (configuration.all fun e => decide (e.1 = regOpCtrl → e.2 = 0x00)) = true := by
    decide
  exact fun e he => of_decide_eq_true (List.all_eq_true.mp hall e he)

theorem tracks_init : Tracks fieldOf f init fun ret g => g = ReaderCall.init.leaves f ret := by
  have hwrites (entries : List (Byte × Byte)) (hoff : ∀ e ∈ entries, e.1 = regOpCtrl → e.2 = 0x00)
      {g : Field} (hdark : g.txEn = false) :
      Keeps g (entries.forM fun e => writeReg e.1 e.2) := by
    refine tracks_forM fun e he => ?_
    by_cases haddr : e.1 = regOpCtrl
    · rw [haddr, hoff e he haddr]
      refine (tracks_opCtrl 0x00).mono fun _ g' hg' => hg'.trans ?_
      obtain ⟨txEn, carrier, lit⟩ := g
      obtain rfl : txEn = false := hdark
      simp [Field.noted, Field.radiates]
    · exact keeps_writeReg haddr _
  let dark : Field := { f with txEn := false, carrier := false }
  let enabled : Field := ⟨true, false, f.lit⟩
  have hdefault : Tracks fieldOf f (sendCommand cmdSetDefault) fun _ g => g = dark :=
    tracks_sendCommand (by decide) (by decide)
  have henable : Tracks fieldOf dark (writeReg regOpCtrl 0x03) fun _ g => g = enabled := by
    refine (tracks_opCtrl 0x03).mono fun _ g hg => hg.trans ?_
    simp [Field.noted, Field.radiates, dark, enabled]
  unfold init
  refine tracks_then (keeps_readReg _) fun icId => ?_
  split
  · exact tracks_pure rfl
  · refine tracks_then hdefault fun _ => ?_
    refine tracks_then (hwrites configuration configuration_opCtrl rfl) fun _ => ?_
    refine tracks_then keeps_clearIrqs fun _ => ?_
    refine tracks_then (keeps_writeReg (by decide) _) fun _ => ?_
    refine tracks_then (keeps_writeReg (by decide) _) fun _ => ?_
    refine tracks_then (tracks_sendCommand (by decide) (by decide)) fun _ => ?_
    refine tracks_then henable fun _ => ?_
    have hdpo : Tracks fieldOf enabled (do sendCommand cmdInitializeDpo; return 0) fun ret g =>
        g = ReaderCall.init.leaves f ret :=
      tracks_then (tracks_sendCommand (by decide) (by decide)) fun _ => tracks_pure rfl
    refine tracks_then (keeps_clearInterrupts ..) fun irq => ?_
    split
    · refine tracks_then (keeps_clearInterrupts ..) fun irq => ?_
      split
      · exact tracks_pure rfl
      · exact hdpo
    · exact hdpo

/-- What a call does to the field, whatever the chip answers. -/
theorem tracks_call (c : ReaderCall) : Tracks fieldOf f c.prog fun ret g => g = c.leaves f ret := by
  have hdisable : Tracks fieldOf { f with carrier := false } (writeReg regOpCtrl 0x00) fun _ g =>
      g = { f with txEn := false, carrier := false } := by
    refine (tracks_opCtrl 0x00).mono fun _ g hg => hg.trans ?_
    simp [Field.noted, Field.radiates]
  have hcommand {cmd : Byte} (hlow : 0xC1 ≤ cmd) (hhigh : cmd ≤ 0xD3)
      (hkeeps : ∀ g : Field, g.onCommand cmd = g) {g : Field} : Keeps g (sendCommand cmd) :=
    (tracks_sendCommand hlow hhigh).mono fun _ _ hg => hg.trans (hkeeps g)
  cases c with
  | init => exact tracks_init
  | iso14443aReqa =>
      refine tracks_then keeps_clearIrqs fun _ => ?_
      refine tracks_then (keeps_writeReg (by decide) _) fun _ => ?_
      refine tracks_then (keeps_writeReg (by decide) _) fun _ => ?_
      refine tracks_then (keeps_writeReg (by decide) _) fun _ => ?_
      refine tracks_then (keeps_writeReg (by decide) _) fun _ => ?_
      refine tracks_then tracks_txOn fun _ => ?_
      refine tracks_then (keeps_clearInterrupts ..) fun irq => ?_
      split
      · exact tracks_pure rfl
      · exact tracks_pure rfl
  | fieldOn => exact tracks_then tracks_txOn fun _ => tracks_pure rfl
  | fieldOff => exact tracks_then tracks_txOff fun _ => tracks_pure rfl
  | measureVdd =>
      have hmeasure : Keeps f measureVdd :=
        tracks_then (hcommand (by decide) (by decide) fun _ => rfl) fun _ =>
          tracks_then (keeps_readReg _) fun _ => keeps_pure _
      exact tracks_then hmeasure fun _ => tracks_pure rfl
  | getRssi => exact tracks_then (keeps_readReg _) fun _ => tracks_pure rfl
  | sleep =>
      have hsleep : Tracks fieldOf f sleep fun _ g =>
          g = { f with txEn := false, carrier := false } :=
        tracks_then tracks_txOff fun _ => tracks_then hdisable fun _ =>
          hcommand (by decide) (by decide) fun _ => rfl
      exact tracks_then hsleep fun _ => tracks_pure rfl
  | stopPolling =>
      have hstop : Tracks fieldOf f stopPolling fun _ g =>
          g = { f with txEn := false, carrier := false } :=
        tracks_then tracks_txOff fun _ => tracks_then hdisable fun _ => keeps_clearIrqs
      exact tracks_then hstop fun _ => tracks_pure rfl
  | startPolling =>
      have hstart : Tracks fieldOf f startPolling fun _ g => g = ⟨true, true, true⟩ := by
        refine tracks_then keeps_clearIrqs fun _ => tracks_then (tracks_opCtrl 0x03) fun _ => ?_
        refine tracks_txOn.mono fun _ g hg => hg.trans ?_
        simp [Field.noted, Field.radiates]
      exact tracks_then hstart fun _ => tracks_pure rfl
  | transact a => exact tracks_transact a
  | getFieldStrengthMv =>
      have hpoll : Keeps f pollAmplitude := tracks_then (keeps_readReg _) fun _ => keeps_pure _
      have hmeasure : Keeps f getFieldStrengthMv :=
        tracks_then (hcommand (by decide) (by decide) fun _ => rfl) fun _ =>
          tracks_then (tracks_loop hpoll 5000) fun _ =>
            tracks_then (keeps_readReg _) fun _ => keeps_pure _
      exact tracks_then hmeasure fun _ => tracks_pure rfl
  | writeReg addr val => exact tracks_then (tracks_writeReg addr val) fun _ => tracks_pure rfl
  | readReg addr => exact tracks_then (keeps_readReg addr) fun _ => tracks_pure rfl
  | writeMultipleRegs startAddr values len =>
      exact tracks_then (tracks_writeMultipleRegs startAddr values len) fun _ => tracks_pure rfl
  | sendCommand cmd => exact tracks_then (tracks_anyCommand cmd) fun _ => tracks_pure rfl
  | strobe cmd =>
      have hstrobe : Tracks fieldOf f (strobe cmd) fun _ g => g = f.onCommand cmd :=
        tracks_then (tracks_anyCommand cmd) fun _ => tracks_pure rfl
      exact tracks_then hstrobe fun _ => tracks_pure rfl
  | clearInterrupts => exact tracks_then (keeps_clearInterrupts ..) fun _ => tracks_pure rfl

end

/-! ### Runs -/

def fieldStep (f : Field) (e : ReaderEvent) : Field := e.1.leaves f e.2

/-- A flag of the field behind a write to `OP_CTRL`, and behind a command. -/
theorem Field.written_carrier (f : Field) (val : Option Byte) :
    (f.written val).carrier = f.carrier := by
  cases val <;> rfl

theorem Field.written_txEn (f : Field) (val : Option Byte) :
    (f.written val).txEn = true ↔
      (val.any fun val => val.getLsbD 0) = true ∨
        ¬ (val.any fun val => !val.getLsbD 0) = true ∧ f.txEn = true := by
  cases val with
  | none => simp [Field.written]
  | some val => cases hbit : val.getLsbD 0 <;> simp_all [Field.written, Field.noted]

theorem Field.onCommand_carrier (f : Field) (cmd : Byte) :
    (f.onCommand cmd).carrier = true ↔
      cmd = cmdTxOn ∨ (cmd ≠ cmdTxOff ∧ cmd ≠ cmdSetDefault) ∧ f.carrier = true := by
  unfold Field.onCommand
  split_ifs with hon hoff hdefault
  · exact iff_of_true rfl (.inl hon)
  · exact iff_of_false nofun fun h => h.elim hon fun h => h.1.1 hoff
  · exact iff_of_false nofun fun h => h.elim hon fun h => h.1.2 hdefault
  · simp [hon, hoff, hdefault]

theorem Field.onCommand_txEn (f : Field) (cmd : Byte) :
    (f.onCommand cmd).txEn = true ↔ ¬ cmd = cmdSetDefault ∧ f.txEn = true := by
  unfold Field.onCommand
  split_ifs with hon hoff hdefault
  · rw [hon]
    exact (and_iff_right (by decide)).symm
  · rw [hoff]
    exact (and_iff_right (by decide)).symm
  · simp [hdefault]
  · exact (and_iff_right hdefault).symm

theorem fieldStep_carrier (f : Field) (e : ReaderEvent) :
    (fieldStep f e).carrier = true ↔
      switchesOn e = true ∨ keepsCarrier e = true ∧ f.carrier = true := by
  obtain ⟨c, ret⟩ := e
  cases c with
  | init | transact =>
      simp only [fieldStep, ReaderCall.leaves, switchesOn, keepsCarrier]
      split <;> simp_all
  | sendCommand cmd | strobe cmd =>
      simpa [fieldStep, ReaderCall.leaves, switchesOn, keepsCarrier] using f.onCommand_carrier cmd
  | writeReg | writeMultipleRegs =>
      simp [fieldStep, ReaderCall.leaves, switchesOn, keepsCarrier, Field.written_carrier]
  | _ => simp [fieldStep, ReaderCall.leaves, switchesOn, keepsCarrier, Field.noted]

theorem fieldStep_txEn (f : Field) (e : ReaderEvent) :
    (fieldStep f e).txEn = true ↔ enables e = true ∨ ¬ disables e = true ∧ f.txEn = true := by
  obtain ⟨c, ret⟩ := e
  cases c with
  | init | transact =>
      simp only [fieldStep, ReaderCall.leaves, enables, disables, ReaderCall.opCtrl]
      split <;> simp_all [Field.noted]
  | sendCommand cmd | strobe cmd =>
      simpa [fieldStep, ReaderCall.leaves, enables, disables, ReaderCall.opCtrl] using
        f.onCommand_txEn cmd
  | writeReg addr val => exact f.written_txEn _
  | writeMultipleRegs startAddr values len => exact f.written_txEn _
  | _ => simp [fieldStep, ReaderCall.leaves, enables, disables, ReaderCall.opCtrl, Field.noted]

/-- With its transmitter disabled the reader goes on without a field. -/
theorem fieldStep_dark {f : Field} {e : ReaderEvent} (hdark : f.txEn = false)
    (he : enables e = false) :
    (fieldStep f e).txEn = false ∧ (fieldStep f e).lit = f.lit := by
  have hwritten (val : Option Byte) (hval : (val.any fun val => val.getLsbD 0) = false) :
      (f.written val).txEn = false ∧ (f.written val).lit = f.lit := by
    cases val with
    | none => exact ⟨hdark, rfl⟩
    | some val =>
        have hbit : val.getLsbD 0 = false := hval
        simp only [Field.written, Field.noted, Field.radiates, hbit, Bool.false_and, Bool.or_false]
        exact ⟨trivial, trivial⟩
  have hcommand (cmd : Byte) : (f.onCommand cmd).txEn = false ∧ (f.onCommand cmd).lit = f.lit := by
    unfold Field.onCommand
    split_ifs <;> simp [Field.noted, Field.radiates, hdark]
  obtain ⟨c, ret⟩ := e
  cases c with
  | init | transact =>
      simp only [fieldStep, ReaderCall.leaves]
      split <;> simp_all [Field.noted, Field.radiates, enables]
  | startPolling => cases he
  | sendCommand cmd | strobe cmd => exact hcommand cmd
  | writeReg addr val => exact hwritten _ he
  | writeMultipleRegs startAddr values len => exact hwritten _ he
  | _ => simp [fieldStep, ReaderCall.leaves, Field.noted, Field.radiates, hdark]

section

variable {σ : Type} (answer : Field → NfcDevice σ)

def readerStep (t : Field × σ) (c : ReaderCall) : Field × σ :=
  (c.prog.exec (fieldChip answer) t).state

/-- The calls of a run with what they return. -/
def history (t : Field × σ) : List ReaderCall → List ReaderEvent
  | [] => []
  | c :: cs => (c, (c.prog.exec (fieldChip answer) t).result) :: history (readerStep answer t c) cs

theorem readerStep_field (t : Field × σ) (c : ReaderCall) :
    (readerStep answer t c).1 = fieldStep t.1 (c, (c.prog.exec (fieldChip answer) t).result) := by
  have hstep (f : Field) (t : Field × σ) (op : NfcOp) (f' : Field) (ht : t.1 = f)
      (hafter : fieldOf f op (fieldChip answer op t).1 = some f') :
      (fieldChip answer op t).2.1 = f' := by
    subst ht
    exact Option.some.inj hafter
  obtain ⟨f', hf', hcall⟩ := (tracks_call (f := t.1) c).exec hstep rfl
  exact hf'.trans hcall

theorem run_field (t : Field × σ) (cs : List ReaderCall) :
    (run (readerStep answer) t cs).1 = run fieldStep t.1 (history answer t cs) := by
  induction cs generalizing t with
  | nil => rfl
  | cons c cs ih => rw [run_cons, ih, history, run_cons, readerStep_field]

theorem run_dark {f : Field} (hdark : f.txEn = false) {es : List ReaderEvent}
    (hes : ∀ e ∈ es, enables e = false) :
    (run fieldStep f es).txEn = false ∧ (run fieldStep f es).lit = f.lit := by
  induction es generalizing f with
  | nil => exact ⟨hdark, rfl⟩
  | cons e es ih =>
      obtain ⟨hoff, hlit⟩ := fieldStep_dark hdark (hes e List.mem_cons_self)
      obtain ⟨hoff', hlit'⟩ := ih hoff fun e' he' => hes e' (List.mem_cons_of_mem e he')
      exact ⟨hoff', hlit'.trans hlit⟩

/-- After any calls from power-on, whatever the chip answers, the reader radiates exactly
when the carrier has been switched on and left alone since, and the transmitter has been
enabled and not disabled since. While it is not enabled nothing that is called lights the
field, a transaction no more than the rest. -/
theorem reader_field (s : σ) (cs : List ReaderCall) {cs' : List ReaderCall} :
    let t := run (readerStep answer) (⟨false, false, false⟩, s) cs
    let past := history answer (⟨false, false, false⟩, s) cs
    let next := history answer t cs'
    (t.1.radiates = true ↔
        Since (fun e => keepsCarrier e = true) (fun e => switchesOn e = true) past ∧
          Since (fun e => ¬ disables e = true) (fun e => enables e = true) past) ∧
      (¬ Since (fun e => ¬ disables e = true) (fun e => enables e = true) past →
        (∀ e ∈ next, enables e = false) →
          (run (readerStep answer) t cs').1.lit = t.1.lit ∧
            (run (readerStep answer) t cs').1.radiates = false) := by
  intro t past next
  have hfield : t.1 = run fieldStep ⟨false, false, false⟩ past := run_field answer _ cs
  have hcarrier : t.1.carrier = true ↔ _ :=
    hfield ▸
      latch (P := fun f : Field => f.carrier = true) fieldStep_carrier Bool.false_ne_true past
  have htxEn : t.1.txEn = true ↔ _ :=
    hfield ▸ latch (P := fun f : Field => f.txEn = true) fieldStep_txEn Bool.false_ne_true past
  refine ⟨?_, fun hpast hnext => ?_⟩
  · rw [Field.radiates, Bool.and_eq_true, htxEn, hcarrier, and_comm]
  · have hdark : t.1.txEn = false := Bool.eq_false_of_not_eq_true fun h => hpast (htxEn.mp h)
    obtain ⟨hoff, hlit⟩ := run_dark hdark hnext
    rw [run_field]
    refine ⟨hlit, ?_⟩
    rw [Field.radiates, hoff]
    rfl

/-- A chip whose registers read zero. -/
def silentReader (_ : Field) : NfcDevice Unit
  | .readRegister _, _ => (0x00, ())
  | .writeRegister .., _ | .directCommand _, _ | .loadTx _, _ | .storeRx .., _
  | .storeRxLen _, _ => ((), ())

theorem reader_field_silent :
    let t := run (readerStep silentReader) (⟨false, false, false⟩, ())
      [.startPolling, .stopPolling]
    let last := run (readerStep silentReader) t [.transact ⟨nfcCmdReqa, none, 0, false, none, 1⟩]
    last.1.lit = t.1.lit ∧ last.1.radiates = false := by
  refine (reader_field silentReader () [.startPolling, .stopPolling]).2 ?_ ?_
  · rw [show history silentReader _ [.startPolling, .stopPolling] =
      [(.startPolling, 0)] ++ [(.stopPolling, 0)] from rfl, since_snoc]
    simp [enables, disables, ReaderCall.opCtrl]
  · simp [history, enables, ReaderCall.opCtrl]

end

end GhostBlade.Firmware.St25r3916
