import GhostBlade.Firmware.NfcOutcome

/-!
What a call sends. The chip's TX FIFO is a queue that only a transmission of the
programmed number of bytes empties; the transmitter takes part in no answer, so
its state is that of the transfers so far. A call appends its request to what
the FIFO already holds, and programs a byte count only for a request.
-/

namespace GhostBlade.Firmware.St25r3916

open GhostBlade.Library Prog

/-! ### The transmitter -/

/-- The programmed byte count, in three registers, and the TX FIFO. -/
structure Transmitter where
  numTxBytes1 : Byte
  numTxBytes2 : Byte
  numTxBytes3 : Byte
  fifo : List Byte
deriving DecidableEq

namespace Transmitter

variable (x : Transmitter)

def count : Nat := leValue [x.numTxBytes1, x.numTxBytes2, x.numTxBytes3]

def write (addr val : Byte) : Transmitter :=
  if addr = regTxFifo then { x with fifo := x.fifo ++ [val] }
  else if addr = regNumTxBytes1 then { x with numTxBytes1 := val }
  else if addr = regNumTxBytes2 then { x with numTxBytes2 := val }
  else if addr = regNumTxBytes3 then { x with numTxBytes3 := val }
  else x

def transmit : Transmitter := { x with fifo := x.fifo.drop x.count }

def step : NfcOp → Transmitter
  | .writeRegister addr val => x.write addr val
  | .directCommand byte =>
      if byte = cmdTxOn then
        x.transmit
      else if byte = cmdSetDefault then
        { x with numTxBytes1 := 0, numTxBytes2 := 0, numTxBytes3 := 0 }
      else
        x
  | _ => x

end Transmitter

/-- The transmitter at each TX_ON. -/
def transmissions (x : Transmitter) (t : List NfcOp) : List Transmitter :=
  observe Transmitter.step (fun x op => if op = .directCommand cmdTxOn then [x] else []) x t

/-- From `x` the transfers lead to `y`, and send what `sent` lists. -/
structure TxEffect (x y : Transmitter) (sent : List Transmitter) (t : List NfcOp) : Prop where
  run : run Transmitter.step x t = y
  sent : transmissions x t = sent

variable {x y z : Transmitter} {sent sent' : List Transmitter}

theorem TxEffect.nil : TxEffect x x [] [] := ⟨rfl, rfl⟩

theorem TxEffect.append {t u : List NfcOp} (ht : TxEffect x y sent t)
    (hu : TxEffect y z sent' u) : TxEffect x z (sent ++ sent') (t ++ u) where
  run := by rw [run_append, ht.run, hu.run]
  sent := by
    have happend := observe_append Transmitter.step
      (fun x op => if op = .directCommand cmdTxOn then [x] else []) x t u
    rw [ht.run] at happend
    rw [← ht.sent, ← hu.sent]
    exact happend

theorem txEffect_then {α β : Type} {p : NfcProg α} {f : α → NfcProg β}
    (hp : p.Ensures fun t _ => TxEffect x y sent t)
    (hf : ∀ v, (f v).Ensures fun t _ => TxEffect y z sent' t) :
    (p >>= f).Ensures fun t _ => TxEffect x z (sent ++ sent') t :=
  ensures_bind hp fun _ v ht => (hf v).mono fun _ _ hu => ht.append hu

/-- A transfer that neither changes the transmitter nor sends. -/
structure Idle (op : NfcOp) : Prop where
  keeps : ∀ x : Transmitter, x.step op = x
  silent : op ≠ .directCommand cmdTxOn

theorem TxEffect.of_idle {t : List NfcOp} (h : ∀ op ∈ t, Idle op) : TxEffect x x [] t := by
  induction t with
  | nil => exact .nil
  | cons op t ih =>
      have hop := h op List.mem_cons_self
      have hrest : TxEffect x x [] t := ih fun op' hop' => h op' (List.mem_cons_of_mem op hop')
      have hone : TxEffect x x [] [op] := by
        constructor
        · exact hop.keeps x
        · simp [transmissions, observe, hop.silent]
      exact hone.append hrest

theorem txEffect_of_only {α : Type} {p : NfcProg α} (h : Only Idle p) :
    p.Ensures fun t _ => TxEffect x x [] t :=
  Ensures.mono h fun _ _ ht => .of_idle ht

theorem idle_clearIrqs : Idle (.directCommand cmdClearIrqs) := ⟨fun _ => rfl, by decide⟩

theorem idle_txOff : Idle (.directCommand cmdTxOff) := ⟨fun _ => rfl, by decide⟩

/-- Idle, and nothing is taken from the RX FIFO. -/
structure Listening (op : NfcOp) : Prop extends Idle op where
  keepsRx : op ≠ .readRegister regRxFifo

theorem listening_readRegister {addr : Byte} (h : addr ≠ regRxFifo) :
    Listening (.readRegister addr) where
  keeps _ := rfl
  silent := by simp
  keepsRx := by simpa using h

theorem listening_clearIrqs : Listening (.directCommand cmdClearIrqs) :=
  { idle_clearIrqs with keepsRx := by simp }

theorem listening_txOff : Listening (.directCommand cmdTxOff) :=
  { idle_txOff with keepsRx := by simp }

section

variable {C : NfcOp → Prop}

theorem only_readReg {addr : Byte} (h : C (.readRegister addr)) : Only C (readReg addr) := by
  unfold readReg
  split
  · exact only_pure _
  · exact only_perform h

theorem only_sendCommand {cmd : Byte} (hlow : 0xC1 ≤ cmd) (hhigh : cmd ≤ 0xD3)
    (h : C (.directCommand cmd)) : Only C (sendCommand cmd) := by
  rw [sendCommand_of_mem hlow hhigh]
  exact only_perform h

end

theorem listening_clearIrqsCommand : Only Listening (sendCommand cmdClearIrqs) :=
  only_sendCommand (by decide) (by decide) listening_clearIrqs

theorem listening_txOffCommand : Only Listening (sendCommand cmdTxOff) :=
  only_sendCommand (by decide) (by decide) listening_txOff

theorem listening_pollStatus : Only Listening pollStatus :=
  only_bind (only_readReg (listening_readRegister (by decide))) fun _ =>
    only_bind (only_readReg (listening_readRegister (by decide))) fun _ =>
    only_bind (only_readReg (listening_readRegister (by decide))) fun _ => only_pure _

theorem listening_pollLoop (n : Nat) : Only Listening (pollLoop n) := by
  induction n with
  | zero => exact only_pure _
  | succ n ih =>
      apply only_bind listening_pollStatus
      intro irq
      split
      · exact only_pure _
      · split
        · apply only_bind listening_clearIrqsCommand
          intro _
          exact only_bind listening_txOffCommand fun _ => only_pure _
        · exact ih

theorem listening_clearInterrupts (irq1 irq2 irq3 irq4 irq5 : Bool) :
    Only Listening (clearInterrupts irq1 irq2 irq3 irq4 irq5) := by
  have hread : ∀ wanted addr, addr ≠ regRxFifo → Only Listening (readIrq wanted addr) := by
    intro wanted addr haddr
    unfold readIrq
    split
    · exact only_readReg (listening_readRegister haddr)
    · exact only_pure _
  exact only_bind (hread _ _ (by decide)) fun _ => only_bind (hread _ _ (by decide)) fun _ =>
    only_bind (hread _ _ (by decide)) fun _ => only_bind (hread _ _ (by decide)) fun _ =>
    only_bind (hread _ _ (by decide)) fun _ =>
    only_bind listening_clearIrqsCommand fun _ => only_pure _

theorem idle_pollLoop (n : Nat) : Only Idle (pollLoop n) :=
  (listening_pollLoop n).mono fun _ h => h.toIdle

theorem idle_clearInterrupts (irq1 irq2 irq3 irq4 irq5 : Bool) :
    Only Idle (clearInterrupts irq1 irq2 irq3 irq4 irq5) :=
  (listening_clearInterrupts irq1 irq2 irq3 irq4 irq5).mono fun _ h => h.toIdle

theorem idle_receive (len : BitVec 16) : Only Idle (receive len) := by
  have hread : ∀ addr, Only Idle (readReg addr) := fun addr =>
    only_readReg ⟨fun _ => rfl, by simp⟩
  have hcount : Only Idle readRxCount :=
    only_bind (hread _) fun _ => only_bind (hread _) fun _ => only_pure _
  have hfifo : ∀ n, Only Idle (readRxFifo n) := fun n =>
    only_forM fun i _ => only_bind (hread _) fun _ => only_perform ⟨fun _ => rfl, by simp⟩
  exact only_bind hcount fun _ => only_bind (hfifo _) fun _ =>
    only_perform ⟨fun _ => rfl, by simp⟩

theorem idle_finish (a : TransactArgs) (irq : IrqStatus) : Only Idle (finish a irq) := by
  have hoff : Only Idle (sendCommand cmdTxOff) :=
    listening_txOffCommand.mono fun _ h => h.toIdle
  unfold finish
  split
  · exact only_bind hoff fun _ => only_pure _
  · split
    · exact only_bind (idle_receive _) fun _ => only_bind hoff fun _ => only_pure _
    · exact only_bind hoff fun _ => only_pure _

theorem idle_conclude (a : TransactArgs) : Only Idle (conclude a) :=
  only_bind (idle_clearInterrupts _ _ _ _ _) fun irq => idle_finish a irq

theorem txEffect_clearIrqs :
    (sendCommand cmdClearIrqs).Ensures fun t _ => TxEffect x x [] t := by
  rw [sendCommand_of_mem (by decide) (by decide)]
  exact txEffect_of_only (only_perform idle_clearIrqs)

theorem txEffect_writeReg {addr : Byte} (h : addr ≤ 0x3F) (val : Byte) :
    (writeReg addr val).Ensures fun t _ => TxEffect x (x.write addr val) [] t := by
  rw [writeReg_of_le h]
  apply ensures_perform
  intro _
  constructor
  · rfl
  · simp [transmissions, observe]

theorem txEffect_txOn :
    (sendCommand cmdTxOn).Ensures fun t _ => TxEffect x x.transmit [x] t := by
  rw [sendCommand_of_mem (by decide) (by decide)]
  exact ensures_perform fun _ => ⟨rfl, rfl⟩

/-! ### The request of a transaction -/

def TransactArgs.shortRequest (a : TransactArgs) : List Byte :=
  if a.shortFrame then [a.cmd] else []

/-- The bytes a transaction is to send. -/
def TransactArgs.request (a : TransactArgs) : List Byte :=
  match a.txData with
  | some txData =>
      if 0#16 < a.clampedTxLen then (List.range a.clampedTxLen.toNat).map txData else a.shortRequest
  | none => a.shortRequest

/-- The byte count that a transaction programs, if it does. -/
def Transmitter.programmed (x : Transmitter) (a : TransactArgs) : Transmitter :=
  if 0#16 < a.clampedTxLen ∨ a.shortFrame then
    let bytes := if 0#16 < a.clampedTxLen then a.clampedTxLen else 1
    { x with
      numTxBytes1 := (bytes &&& 0xFF).setWidth 8
      numTxBytes2 := (bytes >>> 8 &&& 0xFF).setWidth 8
      numTxBytes3 := 0 }
  else
    x

/-- The transmitter before the TX_ON of a transaction. -/
def Transmitter.prepared (x : Transmitter) (a : TransactArgs) : Transmitter :=
  { x.programmed a with fifo := x.fifo ++ a.request }

theorem txEffect_writeTxCount (bytes : BitVec 16) :
    (writeTxCount bytes).Ensures fun t _ => TxEffect x
      { x with
        numTxBytes1 := (bytes &&& 0xFF).setWidth 8
        numTxBytes2 := (bytes >>> 8 &&& 0xFF).setWidth 8
        numTxBytes3 := 0 } [] t :=
  txEffect_then (txEffect_writeReg (by decide) _) fun _ =>
    txEffect_then (txEffect_writeReg (by decide) _) fun _ => txEffect_writeReg (by decide) _

theorem txEffect_programTxCount (a : TransactArgs) :
    (programTxCount a).Ensures fun t _ => TxEffect x (x.programmed a) [] t := by
  unfold programTxCount Transmitter.programmed
  split
  · exact txEffect_writeTxCount _
  · exact ensures_pure .nil

theorem txEffect_writeTxFifo (txData : Nat → Byte) (txLen : Nat) :
    (writeTxFifo txData txLen).Ensures fun t _ =>
      TxEffect x { x with fifo := x.fifo ++ (List.range txLen).map txData } [] t := by
  apply ensures_forM
    (Q := fun us t => TxEffect x { x with fifo := x.fifo ++ us.map txData } [] t)
  · simp [TxEffect.nil]
  · intro us i _ t ht
    have hload : (perform (NfcOp.loadTx i) : NfcProg Unit).Ensures
        fun t _ => TxEffect { x with fifo := x.fifo ++ us.map txData }
          { x with fifo := x.fifo ++ us.map txData } [] t :=
      ensures_perform fun _ => ⟨rfl, rfl⟩
    have hfifo : regTxFifo ≤ 0x3F := by decide
    have hbyte := txEffect_then hload fun _ => txEffect_writeReg hfifo (txData i)
    apply hbyte.mono
    intro u _ hu
    have hall := ht.append hu
    simpa [Transmitter.write, List.append_assoc] using hall

theorem txEffect_writeRequest (a : TransactArgs) :
    (writeRequest a).Ensures
      fun t _ => TxEffect x { x with fifo := x.fifo ++ a.request } [] t := by
  have hshort : (writeShortFrame a).Ensures
      fun t _ => TxEffect x { x with fifo := x.fifo ++ a.shortRequest } [] t := by
    unfold writeShortFrame TransactArgs.shortRequest
    split
    · exact txEffect_writeReg (by decide) a.cmd
    · apply ensures_pure
      simp [TxEffect.nil]
  cases hdata : a.txData with
  | none =>
      simp only [writeRequest, TransactArgs.request, hdata]
      exact hshort
  | some txData =>
      simp only [writeRequest, TransactArgs.request, hdata]
      split
      · exact txEffect_writeTxFifo txData a.clampedTxLen.toNat
      · exact hshort

theorem txEffect_prepare (a : TransactArgs) :
    (prepare a).Ensures fun t _ => TxEffect x (x.prepared a) [] t := by
  have hall := txEffect_then (txEffect_clearIrqs (x := x)) fun _ =>
    txEffect_then (txEffect_programTxCount a) fun _ => txEffect_writeRequest a
  have hfifo : (x.programmed a).fifo = x.fifo := by
    unfold Transmitter.programmed
    split <;> rfl
  rw [hfifo] at hall
  exact hall

theorem count_of_bytes (bytes : BitVec 16) :
    leValue [(bytes &&& 0xFF).setWidth 8, (bytes >>> 8 &&& 0xFF).setWidth 8, (0 : Byte)] =
      bytes.toNat := by
  have hmask : ∀ n : Nat, n &&& 255 = n % 256 := fun n => Nat.and_two_pow_sub_one_eq_mod n 8
  have h255 : (0xFF : BitVec 16).toNat = 255 := rfl
  have hzero : (0 : Byte).toNat = 0 := rfl
  have hlt := bytes.isLt
  simp only [leValue, BitVec.toNat_setWidth, BitVec.toNat_and, BitVec.toNat_ushiftRight, h255,
    hzero, hmask, Nat.shiftRight_eq_div_pow]
  omega

theorem programmed_count (a : TransactArgs) :
    (x.programmed a).count = if 0#16 < a.clampedTxLen ∨ a.shortFrame then
      (if 0#16 < a.clampedTxLen then a.clampedTxLen else 1).toNat else x.count := by
  unfold Transmitter.programmed
  split
  · exact count_of_bytes _
  · rfl

theorem request_of_data {a : TransactArgs} (hvalid : a.invalid = false)
    (hlen : 0#16 < a.clampedTxLen) : a.request.length = a.clampedTxLen.toNat := by
  have htx : 0#16 < a.txLen := by
    unfold TransactArgs.clampedTxLen at hlen
    split at hlen
    · next hlong =>
        have hfifo : 0#16 < fifoSizeVal := by decide
        bv_omega
    · exact hlen
  cases hdata : a.txData with
  | none => simp [TransactArgs.invalid, hdata, htx] at hvalid
  | some txData => simp [TransactArgs.request, hdata, hlen]

theorem request_of_short {a : TransactArgs} (hlen : ¬ 0#16 < a.clampedTxLen) :
    a.request = a.shortRequest := by
  unfold TransactArgs.request
  split
  · rw [if_neg hlen]
  · rfl

/-- The count is that of the request, where there is a request. -/
theorem prepared_count {a : TransactArgs} (hvalid : a.invalid = false) :
    (x.prepared a).count = if a.request = [] then x.count else a.request.length := by
  have hcount : (x.prepared a).count = (x.programmed a).count := rfl
  rw [hcount, programmed_count]
  by_cases hlen : 0#16 < a.clampedTxLen
  · have hlength := request_of_data hvalid hlen
    have hne : a.request ≠ [] := by
      intro hnil
      rw [hnil, List.length_nil] at hlength
      exact absurd hlen (by rw [BitVec.lt_def, ← hlength]; exact Nat.lt_irrefl 0)
    rw [if_pos (.inl hlen), if_pos hlen, if_neg hne, hlength]
  · rw [request_of_short hlen, TransactArgs.shortRequest, if_neg hlen]
    cases a.shortFrame with
    | true => simp
    | false => simp [hlen]

/-! ### Calls -/

theorem transact_transmits {a : TransactArgs} (hvalid : a.invalid = false) :
    (transact a).Ensures fun t _ => TxEffect x (x.prepared a).transmit [x.prepared a] t := by
  unfold transact
  simp only [hvalid, Bool.false_eq_true, if_false]
  apply ensures_bind (txEffect_prepare (x := x) a)
  intro t _ ht
  apply ensures_bind txEffect_txOn
  intro u _ hu
  apply ensures_bind (txEffect_of_only (idle_pollLoop _))
  intro v polled hv
  cases polled with
  | some error =>
      apply ensures_pure
      rw [List.append_nil]
      exact ht.append (hu.append hv)
  | none =>
      apply (txEffect_of_only (idle_conclude a)).mono
      intro w _ hw
      exact ht.append (hu.append (hv.append hw))

/-- The transmitter before the TX_ON of REQA. -/
def Transmitter.preparedReqa (x : Transmitter) : Transmitter :=
  ⟨0x01, 0x00, 0x00, x.fifo ++ [0x26]⟩

theorem iso14443aReqa_transmits :
    iso14443aReqa.Ensures fun t _ => TxEffect x x.preparedReqa.transmit [x.preparedReqa] t := by
  have hcount1 : regNumTxBytes1 ≤ 0x3F := by decide
  have hcount2 : regNumTxBytes2 ≤ 0x3F := by decide
  have hcount3 : regNumTxBytes3 ≤ 0x3F := by decide
  have hfifo : regTxFifo ≤ 0x3F := by decide
  have hend : ∀ irq : IrqStatus, (if irq.irq1 &&& irq1Rxe ≠ 0 then return 0 else return -1 :
      NfcProg Int).Ensures
        fun t _ => TxEffect x.preparedReqa.transmit x.preparedReqa.transmit [] t := by
    intro irq
    split <;> exact ensures_pure .nil
  exact txEffect_then (txEffect_clearIrqs (x := x)) fun _ =>
    txEffect_then (txEffect_writeReg hcount1 0x01) fun _ =>
    txEffect_then (txEffect_writeReg hcount2 0x00) fun _ =>
    txEffect_then (txEffect_writeReg hcount3 0x00) fun _ =>
    txEffect_then (txEffect_writeReg hfifo 0x26) fun _ =>
    txEffect_then txEffect_txOn fun _ =>
    txEffect_then (txEffect_of_only (idle_clearInterrupts _ _ _ _ _)) hend

/-- Every register of the table has an address on the bus. -/
theorem configuration_addr : ∀ entry ∈ configuration, entry.1 ≤ 0x3F := by
  have hall : configuration.all (fun entry => entry.1 ≤ 0x3F) = true := by decide +kernel
  intro entry hentry
  simpa using List.all_eq_true.mp hall entry hentry

def Transmitter.writeEntry (x : Transmitter) (entry : Byte × Byte) : Transmitter :=
  x.write entry.1 entry.2

theorem txEffect_configuration :
    (configuration.forM fun (addr, val) => writeReg addr val).Ensures
      fun t _ => TxEffect x (configuration.foldl Transmitter.writeEntry x) [] t := by
  apply ensures_forM (Q := fun us t => TxEffect x (us.foldl Transmitter.writeEntry x) [] t)
  · exact .nil
  · intro us entry hentry t ht
    apply (txEffect_writeReg (configuration_addr entry hentry) entry.2).mono
    intro u _ hu
    rw [List.foldl_append]
    exact ht.append hu

theorem idle_writeReg {addr : Byte} (hfifo : addr ≠ regTxFifo)
    (hcount : addr ∉ [regNumTxBytes1, regNumTxBytes2, regNumTxBytes3]) (val : Byte) :
    Only Idle (writeReg addr val) := by
  simp only [List.mem_cons, List.not_mem_nil, or_false, not_or] at hcount
  unfold writeReg
  split
  · exact only_pure _
  · apply only_perform
    constructor
    · intro x
      simp [Transmitter.step, Transmitter.write, hfifo, hcount]
    · simp

theorem idle_sendCommand {cmd : Byte} (hlow : 0xC1 ≤ cmd) (hhigh : cmd ≤ 0xD3)
    (hon : cmd ≠ cmdTxOn) (hdefault : cmd ≠ cmdSetDefault) : Only Idle (sendCommand cmd) := by
  apply only_sendCommand hlow hhigh
  constructor
  · intro x
    simp [Transmitter.step, hon, hdefault]
  · simpa using hon

/-- What the initialisation leaves of the transmitter: no byte count, and the
value for timer 2 in the TX FIFO. -/
def Transmitter.configured (x : Transmitter) : Transmitter := ⟨0, 0, 0, x.fifo ++ [0x0A]⟩

/-- The initialisation sends nothing. -/
theorem configure_transmits :
    configure.Ensures fun t _ => TxEffect x x.configured [] t := by
  have hdefault : (sendCommand cmdSetDefault).Ensures
      fun t _ => TxEffect x ⟨0, 0, 0, x.fifo⟩ [] t := by
    rw [sendCommand_of_mem (by decide) (by decide)]
    exact ensures_perform fun _ => ⟨rfl, rfl⟩
  have hconfiguration := txEffect_configuration (x := ⟨0, 0, 0, x.fifo⟩)
  have hdpo : Only Idle (do sendCommand cmdInitializeDpo; return 0 : NfcProg Int) :=
    only_bind (idle_sendCommand (by decide) (by decide) (by decide) (by decide)) fun _ =>
      only_pure _
  apply txEffect_then hdefault
  intro _
  apply txEffect_then hconfiguration
  intro _
  apply txEffect_of_only
  apply only_bind (idle_sendCommand (by decide) (by decide) (by decide) (by decide))
  intro _
  apply only_bind (idle_writeReg (by decide) (by decide) 0x05)
  intro _
  apply only_bind (idle_writeReg (by decide) (by decide) 0x07)
  intro _
  apply only_bind (idle_sendCommand (by decide) (by decide) (by decide) (by decide))
  intro _
  apply only_bind (idle_writeReg (by decide) (by decide) 0x03)
  intro _
  apply only_bind (idle_clearInterrupts _ _ _ _ _)
  intro irq
  split
  · apply only_bind (idle_clearInterrupts _ _ _ _ _)
    intro irq
    split
    · exact only_pure _
    · exact hdpo
  · exact hdpo

end GhostBlade.Firmware.St25r3916
