import GhostBlade.Firmware.Cc1101
import GhostBlade.Library.Routines

/-!
The driver of the sub-GHz radio (`cc1101_init.c`). Its functions are programs
over the accesses to the chip, and over the select line where they drive it by
hand; an access is itself a program over the select line and the bytes on the
bus. A loop that polls has the number of rounds of its source.
-/

namespace GhostBlade.Firmware.Cc1101Driver

open GhostBlade.Library Prog

/-! ### Bus -/

inductive BusOp where
  | csAssert
  | csRelease
  | xfer (txByte : Byte)
  | readGpioIn
deriving DecidableEq

abbrev BusOp.Answer : BusOp → Type
  | .xfer _ => Byte
  | .readGpioIn => BitVec 32
  | .csAssert | .csRelease => Unit

abbrev BusProg := Prog BusOp BusOp.Answer

abbrev BusDevice := Device BusOp BusOp.Answer

/-- What an operation does on the board. -/
def onBoard (b : Board) : BusOp → Board
  | .csAssert => apexCc1101CsAssert b
  | .csRelease => apexCc1101CsRelease b
  | .xfer txByte => apexCc1101SpiXfer txByte b
  | .readGpioIn => b

/-- A chip that answers zeros, under inputs that stay as they are. -/
def constantRadio (gpioIn : BitVec 32) : BusDevice Unit
  | .xfer _, _ => (0x00, ())
  | .readGpioIn, _ => (gpioIn, ())
  | .csAssert, _ | .csRelease, _ => ((), ())

/-! ### Accesses -/

/-- `CC1101_WRITE_SINGLE` -/
def writeSingle (addr : Byte) : Byte := addr &&& 0x3F

/-- `CC1101_WRITE_BURST` -/
def writeBurst (addr : Byte) : Byte := (addr &&& 0x3F) ||| 0x40

/-- `CC1101_READ_SINGLE` -/
def readSingle (addr : Byte) : Byte := (addr &&& 0x3F) ||| 0x80

/-- `CC1101_STROBE` -/
def strobe (cmd : Byte) : Byte := cmd &&& 0x3F

/-- The access functions, the bursts of the board, a window written out in place,
and the select line and the inputs by themselves. -/
inductive AccessOp where
  | strobe (cmd : Byte)
  | readStatus (addr : Byte)
  | readReg (addr : Byte)
  | writeReg (addr val : Byte)
  | writeBurst (addr : Byte) (data : List Byte)
  | readBurst (addr : Byte) (len : Nat)
  | window (header : Byte) (data : List Byte)
  | csAssert
  | csRelease
  | gpioIn
deriving DecidableEq

abbrev AccessOp.Answer : AccessOp → Type
  | .strobe _ | .readStatus _ | .readReg _ => Byte
  | .readBurst _ _ => List Byte
  | .gpioIn => BitVec 32
  | _ => Unit

abbrev AccessProg := Prog AccessOp AccessOp.Answer

abbrev AccessDevice := Device AccessOp AccessOp.Answer

/-- Bytes whose answers are dropped. -/
def send : List Byte → BusProg Unit
  | [] => return ()
  | txByte :: rest => do
      let _ ← perform (BusOp.xfer txByte)
      send rest

/-- The answers to so many zeros. -/
def receive : Nat → BusProg (List Byte)
  | 0 => return []
  | n + 1 => do
      let byte ← perform (BusOp.xfer 0x00)
      return byte :: (← receive n)

def AccessOp.routine : (op : AccessOp) → BusProg op.Answer
  | .strobe cmd => do
      perform BusOp.csAssert
      let status ← perform (BusOp.xfer (Cc1101Driver.strobe cmd))
      perform BusOp.csRelease
      return status
  | .readStatus addr => do
      perform BusOp.csAssert
      let _ ← perform (BusOp.xfer (readSingle addr))
      let val ← perform (BusOp.xfer 0x00)
      perform BusOp.csRelease
      return val
  | .readReg addr => do
      perform BusOp.csAssert
      let _ ← perform (BusOp.xfer (readSingle addr))
      let val ← perform (BusOp.xfer 0x00)
      perform BusOp.csRelease
      return val
  | .writeReg addr val => do
      perform BusOp.csAssert
      let _ ← perform (BusOp.xfer (writeSingle addr))
      let _ ← perform (BusOp.xfer val)
      perform BusOp.csRelease
  | .writeBurst addr data => do
      perform BusOp.csAssert
      let _ ← perform (BusOp.xfer (addr ||| 0x40))
      send data
      perform BusOp.csRelease
  | .readBurst addr len => do
      perform BusOp.csAssert
      let _ ← perform (BusOp.xfer (addr ||| 0xC0))
      let data ← receive len
      perform BusOp.csRelease
      return data
  | .window header data => do
      perform BusOp.csAssert
      let _ ← perform (BusOp.xfer header)
      send data
      perform BusOp.csRelease
  | .csAssert => perform BusOp.csAssert
  | .csRelease => perform BusOp.csRelease
  | .gpioIn => perform BusOp.readGpioIn

/-- A window: the select line goes low around some bytes. -/
def windowOps (bytes : List Byte) : List BusOp := .csAssert :: bytes.map .xfer ++ [.csRelease]

/-- The operations of an access, whatever the chip answers. -/
def AccessOp.busOps : AccessOp → List BusOp
  | .strobe cmd => windowOps [Cc1101Driver.strobe cmd]
  | .readStatus addr | .readReg addr => windowOps [readSingle addr, 0x00]
  | .writeReg addr val => windowOps [writeSingle addr, val]
  | .writeBurst addr data => windowOps ((addr ||| 0x40) :: data)
  | .readBurst addr len => windowOps ((addr ||| 0xC0) :: List.replicate len 0x00)
  | .window header data => windowOps (header :: data)
  | .csAssert => [.csAssert]
  | .csRelease => [.csRelease]
  | .gpioIn => [.readGpioIn]

theorem ensures_send (data : List Byte) :
    (send data).Ensures fun t _ => t = data.map BusOp.xfer := by
  induction data with
  | nil => rfl
  | cons txByte rest ih =>
      intro _
      exact ih.mono fun t _ ht => congrArg (BusOp.xfer txByte :: ·) ht

theorem ensures_receive (len : Nat) :
    (receive len).Ensures fun t _ => t = (List.replicate len 0x00).map BusOp.xfer := by
  induction len with
  | zero => rfl
  | succ len ih =>
      intro _
      apply ensures_bind ih
      intro t data ht
      apply ensures_pure
      rw [List.append_nil, ht, List.replicate_succ, List.map_cons]

theorem AccessOp.ensures_routine (op : AccessOp) : op.routine.Ensures fun t _ => t = op.busOps := by
  cases op with
  | strobe => exact fun _ _ _ => rfl
  | readStatus | readReg | writeReg => exact fun _ _ _ _ => rfl
  | csAssert | csRelease | gpioIn => exact fun _ => rfl
  | writeBurst _ data | window _ data =>
      intro _ _
      apply ensures_bind (ensures_send data)
      rintro t _ rfl
      exact fun _ => rfl
  | readBurst _ len =>
      intro _ _
      apply ensures_bind (ensures_receive len)
      rintro t _ rfl
      exact fun _ => rfl

/-- On the bus a program does the operations of its accesses. -/
theorem inline_trace {α σ : Type} (p : AccessProg α) (d : BusDevice σ) (s : σ) :
    ((p.inline AccessOp.routine).exec d s).trace =
      (p.exec (d.through AccessOp.routine) s).trace.flatMap AccessOp.busOps := by
  obtain ⟨ts, htrace, hts⟩ := exec_inline_trace (d := d) (s := s) AccessOp.ensures_routine p
  have heq (ops : List AccessOp) (ts : List (List BusOp))
      (h : List.Forall₂ (fun op t => t = op.busOps) ops ts) : ts = ops.map AccessOp.busOps := by
    induction h with
    | nil => rfl
    | cons hop _ ih => rw [List.map_cons, hop, ih]
  rw [htrace, heq _ ts hts, List.flatMap]

/-! ### Configuration -/

/-- The tables of the three bands differ in the frequency word only. -/
def cc1101Config (freq2 freq1 freq0 : Byte) : List (Byte × Byte) :=
  [(0x00, 0x0B), (0x01, 0x2E), (0x02, 0x06), (0x03, 0x07), (0x04, 0xD3), (0x05, 0x91),
    (0x06, 0xFF), (0x07, 0x04), (0x08, 0x05), (0x09, 0x00), (0x0A, 0x00), (0x0B, 0x0C),
    (0x0C, 0x00), (0x0D, freq2), (0x0E, freq1), (0x0F, freq0), (0x10, 0x0D), (0x11, 0x55),
    (0x12, 0x13), (0x13, 0x22), (0x14, 0x22), (0x15, 0x63), (0x16, 0x07), (0x17, 0x30),
    (0x18, 0x18), (0x19, 0x16), (0x1A, 0x6C), (0x1B, 0x03), (0x1C, 0x40), (0x1D, 0x91),
    (0x1E, 0x87), (0x1F, 0x6B), (0x20, 0xFB), (0x21, 0x56), (0x22, 0x10), (0x23, 0xE9),
    (0x24, 0x2A), (0x25, 0x00), (0x26, 0x1F), (0x27, 0x41), (0x28, 0x00)]

def cc1101Config868mhz : List (Byte × Byte) := cc1101Config 0x21 0x62 0x76
def cc1101Config433mhz : List (Byte × Byte) := cc1101Config 0x10 0xA7 0x62
def cc1101Config915mhz : List (Byte × Byte) := cc1101Config 0x23 0x31 0x3B

def sres : Byte := 0x30
def scal : Byte := 0x33
def srx : Byte := 0x34
def stx : Byte := 0x35
def sidle : Byte := 0x36
def spwd : Byte := 0x39
def sfrx : Byte := 0x3A
def sftx : Byte := 0x3B

def partnum : Byte := 0x30
def version : Byte := 0x31
def lqi : Byte := 0x33
def rssi : Byte := 0x34
def marcstate : Byte := 0x35
def pktstatus : Byte := 0x38
def txbytes : Byte := 0x3A
def rxbytes : Byte := 0x3B

def sync1 : Byte := 0x04
def sync0 : Byte := 0x05
def patable : Byte := 0x3E
def fifo : Byte := 0x3F

/-- MISO is GPIO 12. -/
def pinCcSpiRx : Nat := 12

def pollMiso : AccessProg (Option Unit) := do
  let gpioIn ← perform AccessOp.gpioIn
  return if gpioIn.getLsbD pinCcSpiRx then none else some ()

def waitMiso : AccessProg (Option Unit) := loop pollMiso 3000

def getMarcstate : AccessProg Byte := do
  let val ← perform (AccessOp.readStatus marcstate)
  return val &&& 0x1F

def pollIdle : AccessProg (Option Unit) := do
  let state ← getMarcstate
  return if state = 0x01 then some () else none

def waitIdle : AccessProg (Option Unit) := loop pollIdle 1000

def writeTable (table : List (Byte × Byte)) : AccessProg Unit :=
  table.forM fun entry => perform (AccessOp.writeReg entry.1 entry.2)

/-- What `cc1101_init` and `cc1101_set_band` end with: table, PATABLE, calibration,
part number. -/
def configure (table : List (Byte × Byte)) : AccessProg Int := do
  writeTable table
  perform (AccessOp.window (writeBurst patable) (List.replicate 8 0x60))
  let _ ← perform (AccessOp.strobe scal)
  match ← waitIdle with
  | none => return -4
  | some () =>
      let part ← perform (AccessOp.readStatus partnum)
      if part ≠ 0x00 then return -1
      else do
        let _ ← perform (AccessOp.strobe sidle)
        return 0

/-! ### Functions -/

/-- `cc1101_init` from the ready chip on. -/
def initReady : AccessProg Int := do
  perform AccessOp.csRelease
  let _ ← perform (AccessOp.strobe sres)
  perform AccessOp.csAssert
  match ← waitMiso with
  | none => do
      perform AccessOp.csRelease
      return -3
  | some () => do
      perform AccessOp.csRelease
      configure cc1101Config868mhz

def init : AccessProg Int := do
  perform AccessOp.csAssert
  match ← waitMiso with
  | none => return -2
  | some () => initReady

/-- The table of a band, from `CC1101_BAND_433` on. -/
def bandTable (band : Int) : Option (List (Byte × Byte)) :=
  if band = 0 then some cc1101Config433mhz
  else if band = 1 then some cc1101Config868mhz
  else if band = 2 then some cc1101Config915mhz
  else none

def setBand (band : Int) : AccessProg Int :=
  match bandTable band with
  | none => return -1
  | some table => do
      let _ ← perform (AccessOp.strobe sidle)
      match ← waitIdle with
      | none => return -4
      | some () => do
          let _ ← perform (AccessOp.strobe sfrx)
          let _ ← perform (AccessOp.strobe sftx)
          configure table

def enterRx : AccessProg Unit := do
  let _ ← perform (AccessOp.strobe sfrx)
  let _ ← perform (AccessOp.strobe srx)

def enterTx : AccessProg Unit := do
  let _ ← perform (AccessOp.strobe sftx)
  let _ ← perform (AccessOp.strobe stx)

def enterIdle : AccessProg Unit := do
  let _ ← perform (AccessOp.strobe sidle)

def enterSleep : AccessProg Unit := do
  let _ ← perform (AccessOp.strobe sidle)
  let _ ← waitIdle
  let _ ← perform (AccessOp.strobe spwd)

/-- The bytes that are moved of a FIFO access. -/
def clampLen (len : Byte) : Nat := if len > 64 then 64 else len.toNat

def writeTxFifo (data : Option (Nat → Byte)) (len : Byte) : AccessProg Unit :=
  match data with
  | none => return ()
  | some data =>
      if len = 0 then return ()
      else perform (AccessOp.writeBurst fifo ((List.range (clampLen len)).map data))

/-- The bytes read, in order, if there is a buffer for them. -/
def readRxFifo (data : Bool) (len : Byte) : AccessProg (List Byte) :=
  if !data || len = 0 then return []
  else perform (AccessOp.readBurst fifo (clampLen len))

def getRssiDbm (rssiDec : Byte) : Int :=
  if rssiDec.toNat ≥ 128 then ((rssiDec.toNat : Int) - 256).tdiv 2 - 74
  else (rssiDec.toNat : Int).tdiv 2 - 74

def getRssiX10 : AccessProg Int := do
  let rssiRaw ← perform (AccessOp.readStatus rssi)
  return getRssiDbm rssiRaw * 10

def getPartnum : AccessProg Byte := perform (AccessOp.readStatus partnum)

def getVersion : AccessProg Byte := perform (AccessOp.readStatus version)

def getRxBytes : AccessProg Byte := perform (AccessOp.readStatus rxbytes)

def getTxBytes : AccessProg Byte := perform (AccessOp.readStatus txbytes)

def getPktStatus : AccessProg Byte := perform (AccessOp.readStatus pktstatus)

def getLqi : AccessProg Byte := perform (AccessOp.readStatus lqi)

def setSyncWord (syncHi syncLo : Byte) : AccessProg Unit := do
  perform (AccessOp.writeReg sync1 syncHi)
  perform (AccessOp.writeReg sync0 syncLo)

/-- The entry of the power table for a level in dBm. -/
def paVal (powerDbm : Int) : Byte :=
  if powerDbm ≤ -30 then 0x03
  else if powerDbm ≤ -20 then 0x17
  else if powerDbm ≤ -15 then 0x1D
  else if powerDbm ≤ -10 then 0x26
  else if powerDbm ≤ 0 then 0x50
  else if powerDbm ≤ 5 then 0x86
  else if powerDbm ≤ 7 then 0xA0
  else 0xC0

def setTxPower (powerDbm : BitVec 8) : AccessProg Unit :=
  perform (AccessOp.window (writeSingle patable) [paVal powerDbm.toInt])

def readConfigReg (addr : Byte) : AccessProg Byte :=
  if addr ≤ 0x2E then perform (AccessOp.readReg addr)
  else if addr ≥ 0x30 ∧ addr ≤ 0x3D then perform (AccessOp.readStatus addr)
  else return 0xFF

/-! ### The public functions -/

inductive Call where
  | init
  | setBand (band : Int)
  | enterRx
  | enterTx
  | enterIdle
  | enterSleep
  | writeTxFifo (data : Option (Nat → Byte)) (len : Byte)
  | readRxFifo (data : Bool) (len : Byte)
  | getRssiX10
  | getMarcstate
  | getPartnum
  | getVersion
  | getRxBytes
  | getTxBytes
  | getPktStatus
  | getLqi
  | setSyncWord (syncHi syncLo : Byte)
  | setTxPower (powerDbm : BitVec 8)
  | readReg (addr : Byte)
  | readConfigReg (addr : Byte)

/-- A call, its result dropped. -/
def Call.prog : Call → AccessProg Unit
  | .init => do let _ ← Cc1101Driver.init
  | .setBand band => do let _ ← Cc1101Driver.setBand band
  | .enterRx => Cc1101Driver.enterRx
  | .enterTx => Cc1101Driver.enterTx
  | .enterIdle => Cc1101Driver.enterIdle
  | .enterSleep => Cc1101Driver.enterSleep
  | .writeTxFifo data len => Cc1101Driver.writeTxFifo data len
  | .readRxFifo data len => do let _ ← Cc1101Driver.readRxFifo data len
  | .getRssiX10 => do let _ ← Cc1101Driver.getRssiX10
  | .getMarcstate => do let _ ← Cc1101Driver.getMarcstate
  | .getPartnum => do let _ ← Cc1101Driver.getPartnum
  | .getVersion => do let _ ← Cc1101Driver.getVersion
  | .getRxBytes => do let _ ← Cc1101Driver.getRxBytes
  | .getTxBytes => do let _ ← Cc1101Driver.getTxBytes
  | .getPktStatus => do let _ ← Cc1101Driver.getPktStatus
  | .getLqi => do let _ ← Cc1101Driver.getLqi
  | .setSyncWord syncHi syncLo => Cc1101Driver.setSyncWord syncHi syncLo
  | .setTxPower powerDbm => Cc1101Driver.setTxPower powerDbm
  | .readReg addr => do let _ ← perform (AccessOp.readReg addr)
  | .readConfigReg addr => do let _ ← Cc1101Driver.readConfigReg addr

/-! ### Accesses of the functions -/

/-- What all functions but `cc1101_init` keep to: strobes and status registers in
their range, configuration registers for single writes, and windows with a burst
or one entry of the power table. -/
def AccessOp.Tame : AccessOp → Prop
  | .strobe addr | .readStatus addr => 0x30 ≤ addr ∧ addr ≤ 0x3D
  | .writeReg addr _ => addr ≤ 0x2E
  | .window header data => header.getLsbD 6 = true ∨ header = 0x3E ∧ data.length = 1
  | .csAssert => False
  | .readReg _ | .writeBurst .. | .readBurst .. | .csRelease | .gpioIn => True

instance (op : AccessOp) : Decidable op.Tame := by
  unfold AccessOp.Tame
  split <;> infer_instance

theorem only_waitMiso : Only (· = AccessOp.gpioIn) waitMiso := by
  have hpoll : Only (· = AccessOp.gpioIn) pollMiso :=
    only_bind (only_perform (C := (· = AccessOp.gpioIn)) rfl) fun _ => only_pure _
  exact only_loop hpoll 3000

theorem only_tame (op : AccessOp) (h : op.Tame) :
    Only AccessOp.Tame (perform op : AccessProg op.Answer) := only_perform h

theorem only_getMarcstate : Only AccessOp.Tame getMarcstate :=
  only_bind (only_tame (.readStatus marcstate) (by decide)) fun _ => only_pure _

theorem only_waitIdle : Only AccessOp.Tame waitIdle :=
  only_loop (only_bind only_getMarcstate fun _ => only_pure _) 1000

theorem only_configure {table : List (Byte × Byte)} (h : ∀ entry ∈ table, entry.1 ≤ 0x2E) :
    Only AccessOp.Tame (configure table) := by
  apply only_bind (only_forM fun entry hentry => only_tame (.writeReg ..) (h entry hentry))
  intro _
  apply only_bind (only_tame (.window ..) (.inl (by decide)))
  intro _
  apply only_bind (only_tame (.strobe scal) (by decide))
  intro _
  apply only_bind only_waitIdle
  intro idle
  cases idle with
  | none => exact only_pure _
  | some =>
      apply only_bind (only_tame (.readStatus partnum) (by decide))
      intro part
      split
      · exact only_pure _
      · exact only_bind (only_tame (.strobe sidle) (by decide)) fun _ => only_pure _

theorem cc1101Config_addr (freq2 freq1 freq0 : Byte) :
    ∀ entry ∈ cc1101Config freq2 freq1 freq0, entry.1 ≤ 0x2E := by
  intro entry hentry
  have haddr : entry.1 ∈ (cc1101Config freq2 freq1 freq0).map Prod.fst := List.mem_map_of_mem hentry
  have hall : ∀ addr ∈ (cc1101Config freq2 freq1 freq0).map Prod.fst, addr ≤ 0x2E#8 := by
    change ∀ addr ∈ (List.range 0x29).map (BitVec.ofNat 8), addr ≤ 0x2E#8
    decide
  exact hall entry.1 haddr

theorem bandTable_addr {band : Int} {table : List (Byte × Byte)} (h : bandTable band = some table) :
    ∀ entry ∈ table, entry.1 ≤ 0x2E := by
  unfold bandTable at h
  split_ifs at h
  · cases h
    exact cc1101Config_addr _ _ _
  · cases h
    exact cc1101Config_addr _ _ _
  · cases h
    exact cc1101Config_addr _ _ _

theorem only_setBand (band : Int) : Only AccessOp.Tame (setBand band) := by
  unfold setBand
  cases hband : bandTable band with
  | none => exact only_pure _
  | some table =>
      apply only_bind (only_tame (.strobe sidle) (by decide))
      intro _
      apply only_bind only_waitIdle
      intro idle
      cases idle with
      | none => exact only_pure _
      | some =>
          apply only_bind (only_tame (.strobe sfrx) (by decide))
          intro _
          apply only_bind (only_tame (.strobe sftx) (by decide))
          intro _
          exact only_configure (bandTable_addr hband)

theorem only_enterSleep : Only AccessOp.Tame enterSleep := by
  apply only_bind (only_tame (.strobe sidle) (by decide))
  intro _
  apply only_bind only_waitIdle
  intro _
  exact only_bind (only_tame (.strobe spwd) (by decide)) fun _ => only_pure _

theorem only_writeTxFifo {C : AccessOp → Prop} (h : ∀ bytes, C (.writeBurst fifo bytes))
    (data : Option (Nat → Byte)) (len : Byte) : Only C (writeTxFifo data len) := by
  unfold writeTxFifo
  split
  · exact only_pure _
  · split
    · exact only_pure _
    · exact only_perform (h _)

theorem only_readRxFifo {C : AccessOp → Prop} (h : ∀ n, C (.readBurst fifo n)) (data : Bool)
    (len : Byte) : Only C (readRxFifo data len) := by
  unfold readRxFifo
  split
  · exact only_pure _
  · exact only_perform (h _)

theorem only_readConfigReg (addr : Byte) : Only AccessOp.Tame (readConfigReg addr) := by
  unfold readConfigReg
  split
  · exact only_tame (.readReg addr) trivial
  · split
    · next haddr => exact only_tame (.readStatus addr) haddr
    · exact only_pure _

theorem Call.tame {c : Call} (h : c ≠ .init) : Only AccessOp.Tame c.prog := by
  have hdrop {α : Type} {p : AccessProg α} (hp : Only AccessOp.Tame p) :
      Only AccessOp.Tame (do let _ ← p) := only_bind hp fun _ => only_pure _
  have hstrobe {cmd : Byte} (hcmd : 0x30 ≤ cmd ∧ cmd ≤ 0x3D) :
      Only AccessOp.Tame (do let _ ← perform (AccessOp.strobe cmd)) :=
    hdrop (only_tame (.strobe cmd) hcmd)
  have hstatus {addr : Byte} (haddr : 0x30 ≤ addr ∧ addr ≤ 0x3D) :
      Only AccessOp.Tame (do let _ ← perform (AccessOp.readStatus addr)) :=
    hdrop (only_tame (.readStatus addr) haddr)
  cases c with
  | init => exact absurd rfl h
  | setBand band => exact hdrop (only_setBand band)
  | enterRx => exact only_bind (only_tame (.strobe sfrx) (by decide)) fun _ => hstrobe (by decide)
  | enterTx => exact only_bind (only_tame (.strobe sftx) (by decide)) fun _ => hstrobe (by decide)
  | enterIdle => exact hstrobe (by decide)
  | enterSleep => exact only_enterSleep
  | writeTxFifo data len => exact only_writeTxFifo (fun _ => trivial) data len
  | readRxFifo data len => exact hdrop (only_readRxFifo (fun _ => trivial) data len)
  | getRssiX10 =>
      exact hdrop (only_bind (only_tame (.readStatus rssi) (by decide)) fun _ => only_pure _)
  | getMarcstate => exact hdrop only_getMarcstate
  | getPartnum | getVersion | getRxBytes | getTxBytes | getPktStatus | getLqi =>
      exact hstatus (by decide)
  | setSyncWord syncHi syncLo =>
      have haddr : sync1 ≤ 0x2E ∧ sync0 ≤ 0x2E := by decide
      exact only_bind (only_tame (.writeReg sync1 syncHi) haddr.1) fun _ =>
        only_tame (.writeReg sync0 syncLo) haddr.2
  | setTxPower powerDbm => exact only_tame (.window ..) (.inr ⟨by decide, rfl⟩)
  | readReg addr => exact hdrop (only_tame (.readReg addr) trivial)
  | readConfigReg addr => exact hdrop (only_readConfigReg addr)

/-! ### Waiting for the chip -/

section

variable {σ : Type} (d : AccessDevice σ) (s : σ)

/-- The chip before the `k`-th look at MISO, from 0. -/
def misoPolled (k : ℕ) : σ := (fun t => (d .gpioIn t).2)^[k] s

/-- MISO is low within the 3000 looks of a wait. -/
def ChipReady : Prop :=
  ∃ k < 3000, (d .gpioIn (misoPolled d s k)).1.getLsbD pinCcSpiRx = false

variable {d s}

theorem said_pollMiso (k : ℕ) :
    said d pollMiso s k =
      if (d .gpioIn (misoPolled d s k)).1.getLsbD pinCcSpiRx then none else some () := rfl

theorem waitMiso_iff : (waitMiso.exec d s).result = some () ↔ ChipReady d s := by
  rw [waitMiso, loop_eq_some]
  constructor
  · rintro ⟨k, hk, hleaves⟩
    have hsaid := hleaves.2
    rw [said_pollMiso] at hsaid
    split at hsaid
    · cases hsaid
    · next hlow => exact ⟨k, hk, Bool.eq_false_of_not_eq_true hlow⟩
  · rintro ⟨k, hk, hlow⟩
    rcases leaves_or_stays d pollMiso s 3000 with ⟨m, hm, ⟨⟩, hleaves⟩ | hstays
    · exact ⟨m, hm, hleaves⟩
    · have hsaid := hstays k hk
      rw [said_pollMiso, hlow] at hsaid
      cases hsaid

/-- The accesses of an initialisation: a wait, and the rest if the chip comes up. -/
theorem init_trace :
    (init.exec d s).trace =
      let wait := waitMiso.exec d (d .csAssert s).2
      .csAssert :: wait.trace ++ match wait.result with
        | none => []
        | some () => (initReady.exec d wait.state).trace := by
  cases hwait : (waitMiso.exec d (d .csAssert s).2).result with
  | none => simp [init, hwait]
  | some => simp [init, hwait]

/-- The accesses from the ready chip on: the reset, a wait, and the rest if the chip
comes up again. -/
theorem initReady_trace :
    (initReady.exec d s).trace =
      let wait := waitMiso.exec d (d .csAssert (d (.strobe sres) (d .csRelease s).2).2).2
      [.csRelease, .strobe sres, .csAssert] ++ wait.trace ++ .csRelease ::
        match wait.result with
        | none => []
        | some () => ((configure cc1101Config868mhz).exec d (d .csRelease wait.state).2).trace := by
  cases hwait :
      (waitMiso.exec d (d .csAssert (d (.strobe sres) (d .csRelease s).2).2).2).result with
  | none => simp [initReady, hwait]
  | some => simp [initReady, hwait]

end

end GhostBlade.Firmware.Cc1101Driver
