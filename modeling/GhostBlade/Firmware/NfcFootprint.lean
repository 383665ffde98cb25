import GhostBlade.Firmware.St25r3916

/-!
What a transaction touches, on every device. A footprint lists the direct
commands and the bytes of `tx_data` read, and bounds the reads of the flags and
the bytes of `rx_data` written; footprints of consecutive parts add up.
-/

namespace GhostBlade.Firmware.St25r3916

open GhostBlade.Library Prog

/-- The direct commands, in order. -/
def commands (t : List NfcOp) : List Byte :=
  t.filterMap fun op => match op with
    | .directCommand byte => some byte
    | _ => none

/-- The indices of `tx_data` read, in order. -/
def loads (t : List NfcOp) : List Nat :=
  t.filterMap fun op => match op with
    | .loadTx i => some i
    | _ => none

/-- The first status register is read once in each poll and once after the polls. -/
def statusReads (t : List NfcOp) : Nat := t.count (.readRegister regIrqStatus1)

/-- Here `b` is the length of the buffer that may be written, if there is one. -/
structure Footprint (b : Option (BitVec 16)) (sent : List Byte) (read : List Nat) (polls : Nat)
    (t : List NfcOp) : Prop where
  commands : commands t = sent
  loads : loads t = read
  statusReads : statusReads t ≤ polls
  stores : ∀ i val, .storeRx i val ∈ t → ∃ len, b = some len ∧ i < min 512 len.toNat
  lengths : ∀ len, .storeRxLen len ∈ t → b.isSome

variable {a : TransactArgs} {b : Option (BitVec 16)} {sent sent' : List Byte}
  {read read' : List Nat} {polls polls' : Nat}

theorem Footprint.nil : Footprint b [] [] 0 [] := by
  constructor <;> simp [St25r3916.commands, St25r3916.loads, St25r3916.statusReads]

theorem Footprint.append {t u : List NfcOp} (ht : Footprint b sent read polls t)
    (hu : Footprint b sent' read' polls' u) :
    Footprint b (sent ++ sent') (read ++ read') (polls + polls') (t ++ u) where
  commands := by
    rw [← ht.commands, ← hu.commands]
    exact List.filterMap_append
  loads := by
    rw [← ht.loads, ← hu.loads]
    exact List.filterMap_append
  statusReads := by
    have hcount : St25r3916.statusReads (t ++ u) =
        St25r3916.statusReads t + St25r3916.statusReads u := List.count_append
    rw [hcount]
    exact Nat.add_le_add ht.statusReads hu.statusReads
  stores := by
    intro i val hop
    rcases List.mem_append.mp hop with hfirst | hsecond
    · exact ht.stores i val hfirst
    · exact hu.stores i val hsecond
  lengths := by
    intro len hop
    rcases List.mem_append.mp hop with hfirst | hsecond
    · exact ht.lengths len hfirst
    · exact hu.lengths len hsecond

theorem Footprint.mono {t : List NfcOp} (ht : Footprint b sent read polls t)
    (hpolls : polls ≤ polls') : Footprint b sent read polls' t :=
  { ht with statusReads := ht.statusReads.trans hpolls }

/-- What writes nothing may be done where something may be written. -/
theorem Footprint.widen {t : List NfcOp} (ht : Footprint none sent read polls t)
    (b : Option (BitVec 16)) : Footprint b sent read polls t where
  commands := ht.commands
  loads := ht.loads
  statusReads := ht.statusReads
  stores := by
    intro i val hop
    obtain ⟨_, hnone, _⟩ := ht.stores i val hop
    cases hnone
  lengths := by
    intro len hop
    cases ht.lengths len hop

theorem footprint_then {α β : Type} {p : NfcProg α} {f : α → NfcProg β}
    (hp : p.Ensures fun t _ => Footprint b sent read polls t)
    (hf : ∀ x, (f x).Ensures fun t _ => Footprint b sent' read' polls' t) :
    (p >>= f).Ensures fun t _ => Footprint b (sent ++ sent') (read ++ read') (polls + polls') t :=
  ensures_bind hp fun _ x ht => (hf x).mono fun _ _ hu => ht.append hu

/-! ### Register access -/

/-- One transfer, or one read of `tx_data`. -/
theorem footprint_perform {op : NfcOp} (hrx : ∀ i val, op ≠ .storeRx i val)
    (hlen : ∀ len, op ≠ .storeRxLen len) :
    (perform op : NfcProg (NfcOp.Answer op)).Ensures
      fun t _ => Footprint b (commands [op]) (loads [op]) (statusReads [op]) t := by
  apply ensures_perform
  intro _
  constructor
  · rfl
  · rfl
  · exact le_rfl
  · intro i val hop
    exact absurd (List.mem_singleton.mp hop).symm (hrx i val)
  · intro len hop
    exact absurd (List.mem_singleton.mp hop).symm (hlen len)

theorem footprint_writeReg (addr val : Byte) :
    (writeReg addr val).Ensures fun t _ => Footprint b [] [] 0 t := by
  unfold writeReg
  split
  · exact ensures_pure .nil
  · exact footprint_perform (by simp) (by simp)

theorem footprint_readReg (addr : Byte) :
    (readReg addr).Ensures
      fun t _ => Footprint b [] [] (if addr = regIrqStatus1 then 1 else 0) t := by
  unfold readReg
  split
  · exact ensures_pure (Footprint.nil.mono (Nat.zero_le _))
  · have hread : (perform (NfcOp.readRegister addr) : NfcProg Byte).Ensures
        fun t _ => Footprint b [] [] (statusReads [.readRegister addr]) t :=
      footprint_perform (by simp) (by simp)
    apply hread.mono
    intro t _ ht
    exact ht.mono (by simp [statusReads, List.count_singleton])

theorem footprint_readIrq (wanted : Bool) (addr : Byte) :
    (readIrq wanted addr).Ensures
      fun t _ => Footprint b [] [] (if addr = regIrqStatus1 then 1 else 0) t := by
  unfold readIrq
  split
  · exact footprint_readReg addr
  · exact ensures_pure (Footprint.nil.mono (Nat.zero_le _))

theorem footprint_sendCommand {cmd : Byte} (hlow : 0xC1 ≤ cmd) (hhigh : cmd ≤ 0xD3) :
    (sendCommand cmd).Ensures fun t _ => Footprint b [cmd] [] 0 t := by
  rw [sendCommand_of_mem hlow hhigh]
  exact footprint_perform (by simp) (by simp)

theorem footprint_clearIrqs :
    (sendCommand cmdClearIrqs).Ensures fun t _ => Footprint b [cmdClearIrqs] [] 0 t :=
  footprint_sendCommand (by decide) (by decide)

theorem footprint_txOn :
    (sendCommand cmdTxOn).Ensures fun t _ => Footprint b [cmdTxOn] [] 0 t :=
  footprint_sendCommand (by decide) (by decide)

theorem footprint_txOff :
    (sendCommand cmdTxOff).Ensures fun t _ => Footprint b [cmdTxOff] [] 0 t :=
  footprint_sendCommand (by decide) (by decide)

theorem footprint_clearInterrupts (irq1 irq2 irq3 irq4 irq5 : Bool) :
    (clearInterrupts irq1 irq2 irq3 irq4 irq5).Ensures
      fun t _ => Footprint b [cmdClearIrqs] [] 1 t := by
  unfold clearInterrupts
  have hreads := footprint_then (footprint_readIrq (b := b) irq1 regIrqStatus1) fun irq1 =>
    footprint_then (footprint_readIrq irq2 regIrqStatus2) fun irq2 =>
    footprint_then (footprint_readIrq irq3 regIrqStatus3) fun irq3 =>
    footprint_then (footprint_readIrq irq4 regIrqStatus4) fun irq4 =>
    footprint_then (footprint_readIrq irq5 regIrqStatus5) fun irq5 =>
    footprint_then footprint_clearIrqs fun _ =>
    ensures_pure (a := IrqStatus.mk irq1 irq2 irq3 irq4 irq5) Footprint.nil
  exact hreads.mono fun _ _ ht => ht.mono (by decide)

/-! ### The request -/

theorem footprint_writeTxCount (bytes : BitVec 16) :
    (writeTxCount bytes).Ensures fun t _ => Footprint b [] [] 0 t :=
  footprint_then (footprint_writeReg _ _) fun _ =>
    footprint_then (footprint_writeReg _ _) fun _ => footprint_writeReg _ _

theorem footprint_writeTxFifo (txData : Nat → Byte) (txLen : Nat) :
    (writeTxFifo txData txLen).Ensures fun t _ => Footprint b [] (List.range txLen) 0 t := by
  have hload : ∀ i, (perform (NfcOp.loadTx i) : NfcProg Unit).Ensures
      fun t _ => Footprint b [] [i] 0 t := fun i => footprint_perform (by simp) (by simp)
  apply ensures_forM (Q := fun us t => Footprint b [] us 0 t) Footprint.nil
  intro us i _ t ht
  have hbyte := footprint_then (hload i) fun _ => footprint_writeReg regTxFifo (txData i)
  exact hbyte.mono fun u _ hu => ht.append hu

theorem footprint_writeShortFrame :
    (writeShortFrame a).Ensures fun t _ => Footprint b [] [] 0 t := by
  unfold writeShortFrame
  split
  · exact footprint_writeReg _ _
  · exact ensures_pure .nil

/-- The data is read in order up to the clamped length, or not at all. -/
def ReadsData (a : TransactArgs) (read : List Nat) : Prop :=
  read = [] ∨ a.txData.isSome ∧ read = List.range a.clampedTxLen.toNat

theorem footprint_programTxCount :
    (programTxCount a).Ensures fun t _ => Footprint b [] [] 0 t := by
  unfold programTxCount
  split
  · exact footprint_writeTxCount _
  · exact ensures_pure .nil

theorem footprint_writeRequest :
    (writeRequest a).Ensures fun t _ => ∃ read, ReadsData a read ∧ Footprint b [] read 0 t := by
  have hshort : (writeShortFrame a).Ensures
      fun t _ => ∃ read, ReadsData a read ∧ Footprint b [] read 0 t :=
    footprint_writeShortFrame.mono fun t _ ht => ⟨[], .inl rfl, ht⟩
  unfold writeRequest
  split
  · next txData hdata =>
      split
      · apply (footprint_writeTxFifo (b := b) txData a.clampedTxLen.toNat).mono
        intro t _ ht
        exact ⟨_, .inr ⟨by simp [hdata], rfl⟩, ht⟩
      · exact hshort
  · exact hshort

theorem footprint_prepare :
    (prepare a).Ensures fun t _ => ∃ read, ReadsData a read ∧
      Footprint b [cmdClearIrqs] read 0 t := by
  apply ensures_bind footprint_clearIrqs
  intro t _ ht
  apply ensures_bind footprint_programTxCount
  intro u _ hu
  apply footprint_writeRequest.mono
  rintro v _ ⟨read, hread, hv⟩
  exact ⟨read, hread, ht.append (hu.append hv)⟩

/-! ### The response -/

theorem footprint_pollStatus : pollStatus.Ensures fun t _ => Footprint b [] [] 1 t := by
  have hreads := footprint_then (footprint_readReg (b := b) regIrqStatus1) fun irq1 =>
    footprint_then (footprint_readReg regIrqStatus2) fun irq2 =>
    footprint_then (footprint_readReg regIrqStatus3) fun irq3 =>
    ensures_pure (a := IrqStatus.mk irq1 irq2 irq3 0 0) Footprint.nil
  exact hreads.mono fun _ _ ht => ht.mono (by decide)

/-- The loop polls at most as often as it may, and sends commands only where it
returns from the call. -/
theorem footprint_pollLoop (n : Nat) :
    (pollLoop n).Ensures fun t polled => match polled with
      | none => Footprint b [] [] n t
      | some error => error = -2 ∧ Footprint b [cmdClearIrqs, cmdTxOff] [] n t := by
  induction n with
  | zero => exact ensures_pure .nil
  | succ n ih =>
      apply ensures_bind (footprint_pollStatus (b := b))
      intro t irq ht
      split
      · apply ensures_pure
        rw [List.append_nil]
        exact ht.mono (by omega)
      · split
        · apply ensures_bind (footprint_clearIrqs (b := b))
          intro u _ hu
          apply ensures_bind (footprint_txOff (b := b))
          intro v _ hv
          have herror := ht.append (hu.append hv)
          apply ensures_pure
          rw [List.append_nil]
          exact ⟨rfl, herror.mono (by omega)⟩
        · apply ih.mono
          intro u polled hu
          cases polled with
          | none => exact (ht.append hu).mono (by omega)
          | some error => exact ⟨hu.1, (ht.append hu.2).mono (by omega)⟩

theorem clampRx_toNat (rxBytes rxLen : BitVec 16) :
    (clampRx rxBytes rxLen).toNat = min (min rxBytes.toNat 512) rxLen.toNat := by
  have hfifo : fifoSizeVal.toNat = 512 := rfl
  unfold clampRx
  dsimp only
  split <;> split <;> simp only [gt_iff_lt, BitVec.lt_def] at * <;> omega

theorem footprint_readRxCount : readRxCount.Ensures fun t _ => Footprint b [] [] 0 t := by
  have hreads := footprint_then (footprint_readReg (b := b) regNumRxBytes1) fun low =>
    footprint_then (footprint_readReg regNumRxBytes2) fun high =>
    ensures_pure (a := (low &&& 0xFF).setWidth 16 ||| (high &&& 0xFF).setWidth 16 <<< 8)
      Footprint.nil
  exact hreads.mono fun _ _ ht => ht.mono (by decide)

theorem footprint_readRxFifo {len : BitVec 16} {rxBytes : Nat}
    (hbytes : rxBytes ≤ min 512 len.toNat) :
    (readRxFifo rxBytes).Ensures fun t _ => Footprint (some len) [] [] 0 t := by
  have hstore : ∀ i val, i < rxBytes → (perform (NfcOp.storeRx i val) : NfcProg Unit).Ensures
      fun t _ => Footprint (some len) [] [] 0 t := by
    intro i val hi
    apply ensures_perform
    intro _
    constructor
    case stores =>
      intro j v hop
      cases List.mem_singleton.mp hop
      exact ⟨len, rfl, by omega⟩
    all_goals simp [St25r3916.commands, St25r3916.loads, St25r3916.statusReads]
  apply ensures_forM (Q := fun _ t => Footprint (some len) [] [] 0 t) Footprint.nil
  intro _ i hi t ht
  have hbyte := footprint_then (footprint_readReg (b := some len) regRxFifo) fun val =>
    hstore i val (List.mem_range.mp hi)
  apply hbyte.mono
  intro u _ hu
  have hzero : Footprint (some len) [] [] 0 u := hu.mono (by decide)
  exact ht.append hzero

theorem footprint_receive (len : BitVec 16) :
    (receive len).Ensures fun t _ => Footprint (some len) [] [] 0 t := by
  have hlen : ∀ val, (perform (NfcOp.storeRxLen val) : NfcProg Unit).Ensures
      fun t _ => Footprint (some len) [] [] 0 t := by
    intro val
    apply ensures_perform
    intro _
    constructor <;> simp [St25r3916.commands, St25r3916.loads, St25r3916.statusReads]
  have hbytes : ∀ rxBytes, (clampRx rxBytes len).toNat ≤ min 512 len.toNat := by
    intro rxBytes
    rw [clampRx_toNat]
    omega
  exact footprint_then footprint_readRxCount fun rxBytes =>
    footprint_then (footprint_readRxFifo (hbytes rxBytes)) fun _ =>
      hlen (clampRx rxBytes len)

/-- The buffer that a call with this result may have written. -/
def writtenBuffer (a : TransactArgs) (result : Int) : Option (BitVec 16) :=
  if result = 0 then a.rxBuffer else none

theorem footprint_finish (irq : IrqStatus) :
    (finish a irq).Ensures fun t result => (result = -1 ∨ result = 0) ∧
      Footprint (writtenBuffer a result) [cmdTxOff] [] 0 t := by
  have hend : ∀ result : Int, (do sendCommand cmdTxOff; return result : NfcProg Int).Ensures
      fun t r => r = result ∧ Footprint none [cmdTxOff] [] 0 t := by
    intro result
    apply ensures_bind footprint_txOff
    intro t _ ht
    apply ensures_pure
    rw [List.append_nil]
    exact ⟨rfl, ht⟩
  unfold finish
  split
  · apply (hend (-1)).mono
    rintro t result ⟨hresult, ht⟩
    exact ⟨.inl hresult, ht.widen _⟩
  · split
    · next len hbuffer =>
        apply ensures_bind (footprint_receive len)
        intro t _ ht
        apply (hend 0).mono
        rintro u result ⟨hresult, hu⟩
        rw [writtenBuffer, if_pos hresult, hbuffer]
        exact ⟨.inr hresult, ht.append (hu.widen _)⟩
    · apply (hend 0).mono
      rintro t result ⟨hresult, ht⟩
      exact ⟨.inr hresult, ht.widen _⟩

theorem footprint_conclude :
    (conclude a).Ensures fun t result => (result = -1 ∨ result = 0) ∧
      Footprint (writtenBuffer a result) [cmdClearIrqs, cmdTxOff] [] 1 t := by
  apply ensures_bind (footprint_clearInterrupts (b := none) true true true false false)
  intro t irq ht
  apply (footprint_finish irq).mono
  rintro u result ⟨hresult, hu⟩
  exact ⟨hresult, (ht.widen _).append hu⟩

theorem footprint_transact (hvalid : a.invalid = false) :
    (transact a).Ensures fun t result => ∃ read, ReadsData a read ∧ result ≠ -3 ∧
      Footprint (writtenBuffer a result) [cmdClearIrqs, cmdTxOn, cmdClearIrqs, cmdTxOff] read
        (a.timeoutCount.toNat + if result = -2 then 0 else 1) t := by
  unfold transact
  simp only [hvalid, Bool.false_eq_true, if_false]
  apply ensures_bind (footprint_prepare (b := none))
  rintro t _ ⟨read, hread, ht⟩
  apply ensures_bind (footprint_txOn (b := none))
  intro u _ hu
  apply ensures_bind (footprint_pollLoop (b := none) a.timeoutCount.toNat)
  intro v polled hv
  cases polled with
  | none =>
      apply footprint_conclude.mono
      rintro w result ⟨hresult, hw⟩
      have hall := (ht.widen _).append ((hu.widen _).append ((hv.widen _).append hw))
      have hread' : read ++ ([] ++ ([] ++ [])) = read := by simp
      rw [hread', zero_add, zero_add] at hall
      refine ⟨read, hread, by omega, ?_⟩
      rw [if_neg (by omega)]
      exact hall
  | some error =>
      obtain ⟨rfl, hv⟩ := hv
      have hall := ht.append (hu.append hv)
      have hread' : read ++ ([] ++ []) = read := by simp
      rw [hread', zero_add, zero_add] at hall
      apply ensures_pure
      rw [List.append_nil]
      exact ⟨read, hread, by decide, hall.widen _⟩

/-- REQA leaves the field on. -/
theorem footprint_iso14443aReqa :
    iso14443aReqa.Ensures
      fun t _ => Footprint none [cmdClearIrqs, cmdTxOn, cmdClearIrqs] [] 1 t := by
  have hend : ∀ irq : IrqStatus, (if irq.irq1 &&& irq1Rxe ≠ 0 then return 0 else return -1 :
      NfcProg Int).Ensures fun t _ => Footprint none [] [] 0 t := by
    intro irq
    split <;> exact ensures_pure .nil
  exact footprint_then footprint_clearIrqs fun _ =>
    footprint_then (footprint_writeReg _ _) fun _ =>
    footprint_then (footprint_writeReg _ _) fun _ =>
    footprint_then (footprint_writeReg _ _) fun _ =>
    footprint_then (footprint_writeReg _ _) fun _ =>
    footprint_then footprint_txOn fun _ =>
    footprint_then (footprint_clearInterrupts true false false false false) hend

/-! ### Field and buffers -/

theorem clampedTxLen_toNat : a.clampedTxLen.toNat = min a.txLen.toNat 512 := by
  have hfifo : fifoSizeVal.toNat = 512 := rfl
  unfold TransactArgs.clampedTxLen
  split <;> simp only [gt_iff_lt, BitVec.lt_def] at * <;> omega

theorem ReadsData.bounded {read : List Nat} (h : ReadsData a read) :
    read.length ≤ min a.txLen.toNat 512 ∧
      ∀ i ∈ read, a.txData.isSome ∧ i < min a.txLen.toNat 512 := by
  rcases h with rfl | ⟨hdata, rfl⟩
  · simp
  · rw [clampedTxLen_toNat, List.length_range]
    refine ⟨le_refl _, ?_⟩
    intro i hi
    exact ⟨hdata, List.mem_range.mp hi⟩

theorem rxBuffer_eq_some {len : BitVec 16} :
    a.rxBuffer = some len ↔ a.rxData = true ∧ a.rxLen = some len := by
  unfold TransactArgs.rxBuffer
  cases a.rxData <;> simp

theorem writtenBuffer_eq_some {result : Int} {len : BitVec 16}
    (h : writtenBuffer a result = some len) : a.rxData = true ∧ a.rxLen = some len := by
  unfold writtenBuffer at h
  split at h
  · exact rxBuffer_eq_some.mp h
  · cases h

/-- A transaction is refused and touches nothing, or it switches the field on
and, as its last command, off, polls at most `timeout_count` times before the
last look at the flags, and stays within the buffers. -/
theorem transact_field_and_buffers {σ : Type} (d : NfcDevice σ) (s : σ) (a : TransactArgs) :
    let e := (transact a).exec d s
    (e.result = -3 ∧ e.trace = []) ∨
      (e.result ≠ -3 ∧ commands e.trace = [cmdClearIrqs, cmdTxOn, cmdClearIrqs, cmdTxOff] ∧
        (loads e.trace).length ≤ min a.txLen.toNat 512 ∧
        (∀ i, .loadTx i ∈ e.trace → a.txData.isSome ∧ i < min a.txLen.toNat 512) ∧
        (∀ i val, .storeRx i val ∈ e.trace →
          a.rxData = true ∧ ∃ len, a.rxLen = some len ∧ i < min 512 len.toNat) ∧
        (∀ len, .storeRxLen len ∈ e.trace → a.rxLen.isSome) ∧
        statusReads e.trace ≤ a.timeoutCount.toNat + if e.result = -2 then 0 else 1) := by
  dsimp only
  cases hvalid : a.invalid with
  | true =>
      apply Or.inl
      unfold transact
      simp [hvalid]
  | false =>
      obtain ⟨read, hread, hresult, hfoot⟩ := (footprint_transact hvalid).exec (d := d) (s := s)
      have hbounded := hread.bounded
      rw [← hfoot.loads] at hbounded
      refine .inr ⟨hresult, hfoot.commands, hbounded.1, ?_, ?_, ?_, hfoot.statusReads⟩
      · intro i hop
        apply hbounded.2
        exact List.mem_filterMap.mpr ⟨_, hop, rfl⟩
      · intro i val hop
        obtain ⟨len, hbuffer, hi⟩ := hfoot.stores i val hop
        obtain ⟨hdata, hlen⟩ := writtenBuffer_eq_some hbuffer
        exact ⟨hdata, len, hlen, hi⟩
      · intro len hop
        obtain ⟨capacity, hbuffer⟩ := Option.isSome_iff_exists.mp (hfoot.lengths len hop)
        rw [(writtenBuffer_eq_some hbuffer).2]
        rfl

end GhostBlade.Firmware.St25r3916
