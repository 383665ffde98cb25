import GhostBlade.Firmware.NfcPolls

/-!
The outcome of a transaction on a chip whose status registers are cleared by a
read. The last look at the flags, which decides, does not find what the poll
before it found: a response is reported when RXE is raised once more.
-/

namespace GhostBlade.Firmware.St25r3916

open GhostBlade.Library Prog

/-! ### The received bytes -/

section

variable {σ : Type} {d : NfcDevice σ} {s : σ} {a : TransactArgs}

/-- What a call stores into `rx_data`, with the indices. -/
def stored (t : List NfcOp) : List (Nat × Byte) :=
  t.filterMap fun op => match op with
    | .storeRx i val => some (i, val)
    | _ => none

/-- What a call stores into `*rx_len`. -/
def storedLen (t : List NfcOp) : List (BitVec 16) :=
  t.filterMap fun op => match op with
    | .storeRxLen len => some len
    | _ => none

@[simp] theorem stored_nil : stored [] = [] := rfl

@[simp] theorem storedLen_nil : storedLen [] = [] := rfl

theorem stored_append (t u : List NfcOp) : stored (t ++ u) = stored t ++ stored u :=
  List.filterMap_append

theorem storedLen_append (t u : List NfcOp) : storedLen (t ++ u) = storedLen t ++ storedLen u :=
  List.filterMap_append

variable (d s) in
/-- Bytes read from the FIFO one after the other. -/
def fifoBytes : Nat → σ → List Byte
  | 0, _ => []
  | n + 1, s =>
      let val := (readReg regRxFifo).exec d s
      val.result :: fifoBytes n val.state

variable (d s) in
/-- The number of bytes handed over when the caller has room for `len`. -/
def rxCount (len : BitVec 16) : Nat := min (min (readRxCount.exec d s).result.toNat 512) len.toNat

/-- After a call that read the response in state `s`: what `rx_data` holds, and
`*rx_len`. -/
structure Delivered (d : NfcDevice σ) (s : σ) (a : TransactArgs) (t : List NfcOp) : Prop where
  bytes : ∀ len, a.rxLen = some len →
    stored t = (List.range (rxCount d s len)).zip
      (fifoBytes d (rxCount d s len) (readRxCount.exec d s).state)
  length : ∀ len, a.rxLen = some len →
    ((storedLen t).getLast?.getD len).toNat = rxCount d s len
  nothing : a.rxLen = none → stored t = []

theorem Footprint.stored_eq_nil {sent : List Byte} {read : List Nat} {polls : Nat}
    {t : List NfcOp} (h : Footprint none sent read polls t) : stored t = [] ∧ storedLen t = [] := by
  constructor
  · apply List.filterMap_eq_nil_iff.mpr
    intro op hop
    cases op with
    | storeRx i val =>
        obtain ⟨_, hnone, _⟩ := h.stores i val hop
        cases hnone
    | _ => rfl
  · apply List.filterMap_eq_nil_iff.mpr
    intro op hop
    cases op with
    | storeRxLen len => cases h.lengths len hop
    | _ => rfl

theorem stored_readRxFifo (hstore : ∀ i val s, (d (.storeRx i val) s).2 = s) (n : Nat) :
    stored ((readRxFifo n).exec d s).trace = (List.range n).zip (fifoBytes d n s) := by
  have hloop : ∀ (is : List Nat) (s : σ), stored ((is.forM fun i => do
      let val ← readReg regRxFifo
      perform (NfcOp.storeRx i val) : NfcProg Unit).exec d s).trace =
        is.zip (fifoBytes d is.length s) := by
    intro is
    induction is with
    | nil => exact fun s => rfl
    | cons i is ih =>
        intro s
        have hread := (footprint_readReg (b := none) regRxFifo).exec (d := d) (s := s)
        have hnone := hread.stored_eq_nil.1
        rw [List.forM_eq_forM] at ih
        simp only [List.forM_eq_forM, List.forM_cons, exec_bind_trace, exec_bind_state,
          exec_perform, hstore, stored_append, hnone, ih]
        rfl
  have hrange := hloop (List.range n) s
  rw [List.length_range] at hrange
  exact hrange

theorem stored_receive (hstore : ∀ i val s, (d (.storeRx i val) s).2 = s) (len : BitVec 16) :
    stored ((receive len).exec d s).trace =
      (List.range (rxCount d s len)).zip
        (fifoBytes d (rxCount d s len) (readRxCount.exec d s).state) := by
  have hcount := ((footprint_readRxCount (b := none)).exec (d := d) (s := s)).stored_eq_nil.1
  rw [receive, exec_bind_trace, stored_append, hcount, List.nil_append, exec_bind_trace,
    stored_append, stored_readRxFifo hstore, clampRx_toNat]
  exact List.append_nil _

theorem storedLen_readRxFifo (n : Nat) :
    (readRxFifo n).Ensures fun t _ => storedLen t = [] := by
  apply ensures_forM (Q := fun _ t => storedLen t = []) rfl
  intro _ i _ t ht
  apply ensures_bind (footprint_readReg (b := none) regRxFifo)
  intro u val hu
  apply ensures_perform
  intro _
  rw [storedLen_append, storedLen_append, ht, hu.stored_eq_nil.2]
  rfl

theorem storedLen_receive (len : BitVec 16) :
    storedLen ((receive len).exec d s).trace = [clampRx (readRxCount.exec d s).result len] := by
  have hcount := ((footprint_readRxCount (b := none)).exec (d := d) (s := s)).stored_eq_nil.2
  have hfifo := (storedLen_readRxFifo (clampRx (readRxCount.exec d s).result len).toNat).exec
    (d := d) (s := (readRxCount.exec d s).state)
  rw [receive, exec_bind_trace, storedLen_append, hcount, List.nil_append, exec_bind_trace,
    storedLen_append, hfifo]
  rfl

/-- The end of a call that finds RXE: what it stores is what `receive` does. -/
theorem conclude_stores (h : rxe d s 0 = true) :
    let r := ((clearInterrupts true true true false false).exec d s).state
    let received := match a.rxBuffer with
      | some len => ((receive len).exec d r).trace
      | none => []
    stored ((conclude a).exec d s).trace = stored received ∧
      storedLen ((conclude a).exec d s).trace = storedLen received := by
  have hclear := ((footprint_clearInterrupts (b := none) true true true false false).exec
    (d := d) (s := s)).stored_eq_nil
  have hoff : ∀ r, stored ((sendCommand cmdTxOff).exec d r).trace = [] ∧
      storedLen ((sendCommand cmdTxOff).exec d r).trace = [] := fun r =>
    ((footprint_txOff (b := none)).exec (d := d) (s := r)).stored_eq_nil
  rw [rxe_zero, bne_iff_ne, ← clearInterrupts_irq1] at h
  dsimp only
  rw [conclude, exec_bind_trace, finish, if_neg h]
  cases hbuffer : a.rxBuffer with
  | none => simp [stored_append, storedLen_append, hclear, hoff]
  | some len => simp [stored_append, storedLen_append, hclear, hoff]

theorem delivered_of_conclude (hvalid : a.invalid = false)
    (hstore : ∀ i val s, (d (.storeRx i val) s).2 = s) (h : rxe d s 0 = true) :
    Delivered d ((clearInterrupts true true true false false).exec d s).state a
      ((conclude a).exec d s).trace := by
  obtain ⟨hbytes, hlength⟩ := conclude_stores (a := a) h
  cases hlen : a.rxLen with
  | none =>
      have hbuffer : a.rxBuffer = none := by simp [TransactArgs.rxBuffer, hlen]
      rw [hbuffer] at hbytes
      exact ⟨by simp [hlen], by simp [hlen], fun _ => hbytes⟩
  | some len =>
      cases hdata : a.rxData with
      | true =>
          have hbuffer : a.rxBuffer = some len := by simp [TransactArgs.rxBuffer, hlen, hdata]
          rw [hbuffer] at hbytes hlength
          constructor
          · intro len' hlen'
            obtain rfl := Option.some.inj (hlen.symm.trans hlen')
            exact hbytes.trans (stored_receive hstore len)
          · intro len' hlen'
            obtain rfl := Option.some.inj (hlen.symm.trans hlen')
            rw [hlength, storedLen_receive, List.getLast?_singleton]
            exact clampRx_toNat _ len
          · simp [hlen]
      | false =>
          -- without a buffer a length is 0, and nothing is stored
          have hbuffer : a.rxBuffer = none := by simp [TransactArgs.rxBuffer, hdata]
          obtain ⟨_, hzero⟩ : (0#16 < a.txLen → a.txData.isSome = true) ∧ len = 0#16 := by
            simpa [TransactArgs.invalid, hlen, hdata] using hvalid
          rw [hbuffer] at hbytes hlength
          constructor
          · intro len' hlen'
            obtain rfl := Option.some.inj (hlen.symm.trans hlen')
            simp [hbytes, rxCount, hzero]
          · intro len' hlen'
            obtain rfl := Option.some.inj (hlen.symm.trans hlen')
            simp [hlength, rxCount, hzero]
          · simp [hlen]

/-- Before the end of the call nothing is stored. -/
theorem transact_stores (hvalid : a.invalid = false)
    (hpolls : ((pollLoop a.timeoutCount.toNat).exec d (transmitted d s a)).result = none) :
    let last := (conclude a).exec d
      ((pollLoop a.timeoutCount.toNat).exec d (transmitted d s a)).state
    stored ((transact a).exec d s).trace = stored last.trace ∧
      storedLen ((transact a).exec d s).trace = storedLen last.trace := by
  obtain ⟨_, _, hprepare⟩ :=
    (footprint_prepare (a := a) (b := none)).exec (d := d) (s := s)
  have hon := (footprint_txOn (b := none)).exec (d := d) (s := ((prepare a).exec d s).state)
  have hloop := (footprint_pollLoop (b := none) a.timeoutCount.toNat).exec (d := d)
    (s := transmitted d s a)
  rw [hpolls] at hloop
  have hquiet := (hprepare.append (hon.append hloop)).stored_eq_nil
  simp only [stored_append, storedLen_append, List.append_eq_nil_iff] at hquiet
  unfold transmitted at hpolls hquiet ⊢
  simp only [transact, hvalid, Bool.false_eq_true, if_false, exec_bind_trace, hpolls,
    stored_append, storedLen_append, hquiet, List.nil_append]
  trivial

/-- The polls of a call that succeeds did not end in an error. -/
theorem polls_of_success (hvalid : a.invalid = false) (h : ((transact a).exec d s).result = 0) :
    ((pollLoop a.timeoutCount.toNat).exec d (transmitted d s a)).result = none := by
  have hloop := (footprint_pollLoop (b := none) a.timeoutCount.toNat).exec (d := d)
    (s := transmitted d s a)
  rw [transact_result hvalid] at h
  dsimp only at h
  cases hpolls : ((pollLoop a.timeoutCount.toNat).exec d (transmitted d s a)).result with
  | none => rfl
  | some error =>
      rw [hpolls] at h hloop
      rw [show error = 0 from h] at hloop
      exact absurd hloop.1 (by decide)

theorem transact_delivered (hvalid : a.invalid = false)
    (hstore : ∀ i val s, (d (.storeRx i val) s).2 = s) (h : ((transact a).exec d s).result = 0) :
    Delivered d (concluded d s a) a ((transact a).exec d s).trace := by
  have hpolls := polls_of_success hvalid h
  obtain ⟨hbytes, hlength⟩ := transact_stores hvalid hpolls
  rw [transact_result hvalid] at h
  simp only [hpolls, conclude_result] at h
  have hrxe : rxe d ((pollLoop a.timeoutCount.toNat).exec d (transmitted d s a)).state 0 =
      true := by
    by_contra hnone
    simp [hnone] at h
  have hlast := delivered_of_conclude hvalid hstore hrxe
  constructor
  · rw [hbytes]
    exact hlast.bytes
  · rw [hlength]
    exact hlast.length
  · rw [hbytes]
    exact hlast.nothing

end

/-! ### The chip -/

/-- What surrounds the chip: the flags raised before the next transfer, by
status register, what the other registers read, and how it goes on. -/
structure NfcAir (σ : Type) where
  raises : σ → Byte → Byte
  reads : Byte → σ → Byte
  next : NfcOp → σ → σ

structure IrqChip (σ : Type) where
  pending : Byte → Byte
  air : σ

variable {σ : Type}

def isIrqStatus (addr : Byte) : Bool := regIrqStatus1 ≤ addr && addr ≤ regIrqStatus5

def IrqChip.flags (air : NfcAir σ) (c : IrqChip σ) (addr : Byte) : Byte :=
  c.pending addr ||| air.raises c.air addr

/-- A status register is cleared by its read, and all of them by a command. -/
def irqChip (air : NfcAir σ) : NfcDevice (IrqChip σ)
  | .writeRegister addr val, c => ((), ⟨c.flags air, air.next (.writeRegister addr val) c.air⟩)
  | .readRegister addr, c =>
      let after := air.next (.readRegister addr) c.air
      if isIrqStatus addr then
        (c.flags air addr, ⟨Function.update (c.flags air) addr 0, after⟩)
      else
        (air.reads addr c.air, ⟨c.flags air, after⟩)
  | .directCommand byte, c =>
      let after := air.next (.directCommand byte) c.air
      if byte = cmdClearIrqs then ((), ⟨fun _ => 0, after⟩) else ((), ⟨c.flags air, after⟩)
  | .loadTx _, c => ((), c)
  | .storeRx _ _, c => ((), c)
  | .storeRxLen _, c => ((), c)

theorem irqChip_status_fst {air : NfcAir σ} {addr : Byte} (h : isIrqStatus addr = true)
    (c : IrqChip σ) : (irqChip air (.readRegister addr) c).1 = c.flags air addr := by
  simp [irqChip, h]

theorem irqChip_status_snd {air : NfcAir σ} {addr : Byte} (h : isIrqStatus addr = true)
    (c : IrqChip σ) : (irqChip air (.readRegister addr) c).2 =
      ⟨Function.update (c.flags air) addr 0, air.next (.readRegister addr) c.air⟩ := by
  simp [irqChip, h]

/-- A poll leaves nothing of the first register behind: the next one finds what
has been raised since. -/
theorem pollStatus_forgets (air : NfcAir σ) (c : IrqChip σ) :
    let after1 := air.next (.readRegister regIrqStatus1) c.air
    let after2 := air.next (.readRegister regIrqStatus2) after1
    let after3 := air.next (.readRegister regIrqStatus3) after2
    (pollStatus.exec (irqChip air) (pollStatus.exec (irqChip air) c).state).result.irq1 =
      air.raises after1 regIrqStatus1 ||| air.raises after2 regIrqStatus1 |||
        air.raises after3 regIrqStatus1 := by
  have h1 : readReg regIrqStatus1 = perform (NfcOp.readRegister regIrqStatus1) :=
    readReg_of_le (by decide)
  have h2 : readReg regIrqStatus2 = perform (NfcOp.readRegister regIrqStatus2) :=
    readReg_of_le (by decide)
  have h3 : readReg regIrqStatus3 = perform (NfcOp.readRegister regIrqStatus3) :=
    readReg_of_le (by decide)
  have h21 : regIrqStatus1 ≠ regIrqStatus2 := by decide
  have h31 : regIrqStatus1 ≠ regIrqStatus3 := by decide
  simp only [pollStatus, h1, h2, h3, exec_bind_result, exec_bind_state, exec_perform, exec_pure]
  rw [irqChip_status_fst (by decide), irqChip_status_snd (by decide),
    irqChip_status_snd (by decide), irqChip_status_snd (by decide)]
  simp [IrqChip.flags, h21, h31]

/-- The polls a call is allowed: 1500 for each millisecond, none when it is
refused. -/
def TransactArgs.pollLimit (a : TransactArgs) : Nat :=
  if a.invalid then 0 else (if a.timeoutMs = 0#32 then 100 else a.timeoutMs.toNat) * 1500

theorem timeoutCount_le_pollLimit {a : TransactArgs} (hvalid : a.invalid = false) :
    a.timeoutCount.toNat ≤ a.pollLimit := by
  have hms : (if a.timeoutMs = 0#32 then 100 else a.timeoutMs).toNat =
      if a.timeoutMs = 0#32 then 100 else a.timeoutMs.toNat := by
    split <;> rfl
  simp only [TransactArgs.timeoutCount, TransactArgs.pollLimit, hvalid, Bool.false_eq_true,
    if_false, BitVec.toNat_mul, hms]
  exact Nat.mod_le _ _

/-- A call has the outcome that the first flag calls for exactly when it is
refused, when no flag is found at all, nor by the look behind the last allowed
poll, or when the first flag is CRC alone, or RXE alone and RXE is found again
by the next look, or RXE alone and the polls were over just before it. -/
theorem transact_outcome_iff (air : NfcAir σ) (c : IrqChip σ) (a : TransactArgs) :
    let d := irqChip air
    let t := transmitted d c a
    let e := (transact a).exec d c
    Outcome (rxe d t) (crc d t) a.pollLimit (Delivered d (concluded d c a) a e.trace) e.result ↔
      a.invalid = true ∨ OutcomeWhen (rxe d t) (crc d t) a.timeoutCount.toNat a.pollLimit := by
  dsimp only
  cases hvalid : a.invalid with
  | true =>
      have hlimit : a.pollLimit = 0 := by simp [TransactArgs.pollLimit, hvalid]
      have hresult : ((transact a).exec (irqChip air) c).result = -3 := by simp [transact, hvalid]
      rw [hlimit, hresult]
      apply iff_of_true _ (.inl rfl)
      constructor <;> simp
  | false =>
      have hdelivered := transact_delivered (d := irqChip air) (s := c) hvalid fun _ _ _ => rfl
      rw [(transact_verdict hvalid).outcome_iff (timeoutCount_le_pollLimit hvalid) hdelivered]
      simp

/-- RXE is raised once, before the first transfer after the request. -/
def answeringOnce : NfcAir Nat where
  raises n addr := if n = 6 ∧ addr = regIrqStatus1 then irq1Rxe else 0
  reads _ _ := 0
  next _ n := n + 1

def idleChip : IrqChip Nat := ⟨fun _ => 0, 0⟩

/-- REQA without data, with 1500 polls. -/
def reqaForOneMs : TransactArgs := ⟨nfcCmdReqa, none, 0, false, none, 1⟩

/-- The first poll finds RXE, and the call ends as if there had been no answer. -/
theorem response_taken_for_timeout :
    let d := irqChip answeringOnce
    let t := transmitted d idleChip reqaForOneMs
    let e := (transact reqaForOneMs).exec d idleChip
    rxe d t 0 = true ∧ crc d t 0 = false ∧ e.result = -1 ∧
      ¬ Outcome (rxe d t) (crc d t) reqaForOneMs.pollLimit
        (Delivered d (concluded d idleChip reqaForOneMs) reqaForOneMs e.trace) e.result := by
  dsimp only
  have hrxe : rxe (irqChip answeringOnce)
      (transmitted (irqChip answeringOnce) idleChip reqaForOneMs) 0 = true := by decide +kernel
  have hcrc : crc (irqChip answeringOnce)
      (transmitted (irqChip answeringOnce) idleChip reqaForOneMs) 0 = false := by decide +kernel
  have hresult : ((transact reqaForOneMs).exec (irqChip answeringOnce) idleChip).result = -1 := by
    decide +kernel
  refine ⟨hrxe, hcrc, hresult, ?_⟩
  intro h
  have hdone := h.success.mpr ⟨0, by decide, hrxe, fun j hj => by rwa [Nat.le_zero.mp hj]⟩
  rw [hresult] at hdone
  exact absurd hdone.1 (by decide)

end GhostBlade.Firmware.St25r3916
