import GhostBlade.Firmware.NfcTransmit

/-!
Both FIFOs of the chip over runs of calls. Nothing in the driver empties them:
the initialisation writes to the TX FIFO in place of timer 2, and whatever stays
behind in either is in front of the next call's bytes. A call sends its request
and returns its own response when it finds both FIFOs empty.
-/

namespace GhostBlade.Firmware.St25r3916

open GhostBlade.Library Prog

/-! ### The chip -/

/-- What surrounds the chip: the bytes that arrive behind a transfer, what the
other registers read, and how it goes on. -/
structure FifoAir (σ : Type) where
  arrives : NfcOp → σ → List Byte
  reads : Byte → σ → Byte
  next : NfcOp → σ → σ

/-- `response` is what has arrived since the last TX_ON. -/
structure FifoChip (σ : Type) where
  transmitter : Transmitter
  rxFifo : List Byte
  response : List Byte
  air : σ

variable {σ : Type} (air : FifoAir σ) (c : FifoChip σ)

/-- No byte arrives between the reads of the two halves of the count. -/
def FifoAir.arrivals (op : NfcOp) (s : σ) : List Byte :=
  if op = .readRegister regNumRxBytes1 then [] else air.arrives op s

def FifoChip.after (op : NfcOp) : FifoChip σ where
  transmitter := c.transmitter.step op
  rxFifo := (if op = .readRegister regRxFifo then c.rxFifo.tail else c.rxFifo) ++
    air.arrivals op c.air
  response := (if op = .directCommand cmdTxOn then [] else c.response) ++ air.arrivals op c.air
  air := air.next op c.air

/-- The answer to a read: the head of the FIFO, a half of the number of bytes in
it, or what the register says. -/
def FifoChip.read (addr : Byte) : Byte :=
  if addr = regRxFifo then c.rxFifo.headD (air.reads addr c.air)
  else if addr = regNumRxBytes1 then BitVec.ofNat 8 c.rxFifo.length
  else if addr = regNumRxBytes2 then BitVec.ofNat 8 (c.rxFifo.length / 256)
  else air.reads addr c.air

def fifoChip : NfcDevice (FifoChip σ)
  | .writeRegister addr val, c => ((), c.after air (.writeRegister addr val))
  | .readRegister addr, c => (c.read air addr, c.after air (.readRegister addr))
  | .directCommand byte, c => ((), c.after air (.directCommand byte))
  | .loadTx _, c => ((), c)
  | .storeRx _ _, c => ((), c)
  | .storeRxLen _, c => ((), c)

theorem fifoChip_transmitter (op : NfcOp) :
    (fifoChip air op c).2.transmitter = c.transmitter.step op := by
  cases op <;> rfl

/-! ### Calls -/

inductive NfcCall where
  | iso14443aReqa
  | transact (a : TransactArgs)

def NfcCall.prog : NfcCall → NfcProg Int
  | .iso14443aReqa => St25r3916.iso14443aReqa
  | .transact a => St25r3916.transact a

def NfcCall.request : NfcCall → List Byte
  | .iso14443aReqa => [nfcCmdReqa]
  | .transact a => a.request

def NfcCall.refused : NfcCall → Bool
  | .iso14443aReqa => false
  | .transact a => a.invalid

def callStep (c : FifoChip σ) (call : NfcCall) : FifoChip σ :=
  (call.prog.exec (fifoChip air) c).state

/-- At every TX_ON of a call the FIFO holds its request and the count is the
length of it, and what it returns is the beginning of its response. -/
structure SendsItsOwn (c : FifoChip σ) (call : NfcCall) : Prop where
  sent : ∀ x ∈ transmissions c.transmitter (call.prog.exec (fifoChip air) c).trace,
    x.fifo = call.request ∧ x.count = call.request.length
  returned : (stored (call.prog.exec (fifoChip air) c).trace).map Prod.snd <+:
    (callStep air c call).response

/-- The transmitter is fit for a request: nothing is left in the FIFO, and if
there is nothing to send no byte is programmed. -/
def Transmitter.FitFor (x : Transmitter) (request : List Byte) : Prop :=
  x.fifo = [] ∧ (request ≠ [] ∨ x.count = 0)

/-- Nothing is in the RX FIFO when the request goes out, if bytes are to be
returned. -/
def RxClear (c : FifoChip σ) : NfcCall → Prop
  | .iso14443aReqa => True
  | .transact a => a.rxBuffer = none ∨ ((prepare a).exec (fifoChip air) c).state.rxFifo = []

def FindsEmpty (c : FifoChip σ) (call : NfcCall) : Prop :=
  call.refused = true ∨ c.transmitter.FitFor call.request ∧ RxClear air c call

/-! ### What is sent -/

theorem call_refused {call : NfcCall} (h : call.refused = true) :
    (call.prog.exec (fifoChip air) c).trace = [] ∧ callStep air c call = c := by
  cases call with
  | iso14443aReqa => cases h
  | transact a =>
      have hinvalid : a.invalid = true := h
      simp [callStep, NfcCall.prog, transact, hinvalid]

/-- A call that is not refused transmits once. -/
theorem call_transmits {call : NfcCall} (h : call.refused = false) :
    ∃ x, transmissions c.transmitter (call.prog.exec (fifoChip air) c).trace = [x] ∧
      x.fifo = c.transmitter.fifo ++ call.request ∧
      x.count = if call.request = [] then c.transmitter.count else call.request.length := by
  cases call with
  | iso14443aReqa =>
      have heffect := (iso14443aReqa_transmits (x := c.transmitter)).exec (d := fifoChip air)
        (s := c)
      exact ⟨_, heffect.sent, rfl, rfl⟩
  | transact a =>
      have hvalid : a.invalid = false := h
      have heffect := (transact_transmits (x := c.transmitter) hvalid).exec (d := fifoChip air)
        (s := c)
      exact ⟨_, heffect.sent, rfl, prepared_count hvalid⟩

theorem sent_iff {call : NfcCall} (h : call.refused = false) :
    (∀ x ∈ transmissions c.transmitter (call.prog.exec (fifoChip air) c).trace,
      x.fifo = call.request ∧ x.count = call.request.length) ↔
      c.transmitter.FitFor call.request := by
  obtain ⟨x, hsent, hfifo, hcount⟩ := call_transmits air c h
  rw [hsent]
  unfold Transmitter.FitFor
  simp only [List.mem_singleton, forall_eq, hfifo, hcount, List.append_left_eq_self]
  apply and_congr_right
  intro _
  cases call.request with
  | nil => simp
  | cons b bs => simp

/-! ### What is returned -/

variable {air c}

/-- While the driver only listens, the RX FIFO grows with the response. -/
theorem Listening.keeps_response {op : NfcOp} (h : Listening op)
    (hc : c.rxFifo = c.response) :
    (fifoChip air op c).2.rxFifo = (fifoChip air op c).2.response := by
  have hafter : (c.after air op).rxFifo = (c.after air op).response := by
    simp only [FifoChip.after, if_neg h.keepsRx, if_neg h.silent, hc]
  cases op with
  | writeRegister addr val => exact hafter
  | readRegister addr => exact hafter
  | directCommand byte => exact hafter
  | loadTx i => exact hc
  | storeRx i val => exact hc
  | storeRxLen len => exact hc

theorem Idle.extends_response {op : NfcOp} (h : Idle op) {bytes : List Byte}
    (hc : bytes <+: c.response) : bytes <+: (fifoChip air op c).2.response := by
  have hafter : bytes <+: (c.after air op).response := by
    simp only [FifoChip.after, if_neg h.silent]
    exact hc.trans (List.prefix_append _ _)
  cases op with
  | writeRegister addr val => exact hafter
  | readRegister addr => exact hafter
  | directCommand byte => exact hafter
  | loadTx i => exact hc
  | storeRx i val => exact hc
  | storeRxLen len => exact hc

theorem response_prefix {α : Type} {p : NfcProg α} (h : Only Idle p) :
    c.response <+: (p.exec (fifoChip air) c).state.response :=
  h.exec_invariant (I := fun s : FifoChip σ => c.response <+: s.response)
    (fun _ _ hop hs => hop.extends_response hs) List.prefix_rfl

variable (air c) in
theorem exec_readReg {addr : Byte} (h : addr ≤ 0x3F) :
    ((readReg addr).exec (fifoChip air) c).result = c.read air addr ∧
      ((readReg addr).exec (fifoChip air) c).state = c.after air (.readRegister addr) := by
  rw [readReg_of_le h]
  exact ⟨rfl, rfl⟩

/-- As many bytes as the FIFO holds come out as they stand in it. -/
theorem fifoBytes_eq_take {n : Nat} (h : n ≤ c.rxFifo.length) :
    fifoBytes (d := fifoChip air) n c = c.rxFifo.take n := by
  induction n generalizing c with
  | zero => rfl
  | succ n ih =>
      have hfifo : regRxFifo ≤ 0x3F := by decide
      obtain ⟨hval, hstate⟩ := exec_readReg air c hfifo
      cases hrx : c.rxFifo with
      | nil => simp [hrx] at h
      | cons b bs =>
          have hnext : (c.after air (.readRegister regRxFifo)).rxFifo =
              bs ++ air.arrivals (.readRegister regRxFifo) c.air := by
            simp [FifoChip.after, hrx]
          have hhead : c.read air regRxFifo = b := by simp [FifoChip.read, hrx]
          have hlen : n ≤ bs.length := by simpa [hrx] using h
          rw [fifoBytes, hval, hstate, hhead, ih (by rw [hnext, List.length_append]; omega), hnext,
            List.take_append_of_le_length hlen, List.take_succ_cons]

theorem halves_toNat (low high : Byte) :
    ((low &&& 0xFF).setWidth 16 ||| (high &&& 0xFF).setWidth 16 <<< 8 : BitVec 16).toNat =
      low.toNat + 256 * high.toNat := by
  have hmask : (0xFF : Byte) = BitVec.allOnes 8 := rfl
  have hlow : (low.setWidth 16).toNat = low.toNat := setWidth_byte_toNat low (by omega)
  have hbytes := orBytes_toNat 8 (low.setWidth 16) [high] (by rw [hlow]; exact low.isLt) (by simp)
  rw [hmask, BitVec.and_allOnes, BitVec.and_allOnes]
  simpa [orBytes, leValue, hlow] using hbytes

variable (air c) in
/-- The count is at most the number of bytes in the FIFO, and they stay. -/
theorem readRxCount_le :
    (readRxCount.exec (fifoChip air) c).result.toNat ≤ c.rxFifo.length ∧
      c.rxFifo <+: (readRxCount.exec (fifoChip air) c).state.rxFifo := by
  have h1 : regNumRxBytes1 ≤ 0x3F := by decide
  have h2 : regNumRxBytes2 ≤ 0x3F := by decide
  obtain ⟨hlow, hbetween⟩ := exec_readReg air c h1
  obtain ⟨hhigh, hbehind⟩ := exec_readReg air (c.after air (.readRegister regNumRxBytes1)) h2
  have hsame : (c.after air (.readRegister regNumRxBytes1)).rxFifo = c.rxFifo := by
    simp [FifoChip.after, FifoAir.arrivals, regNumRxBytes1, regRxFifo]
  have hread1 : c.read air regNumRxBytes1 = BitVec.ofNat 8 c.rxFifo.length := by
    rw [FifoChip.read, if_neg (by decide), if_pos rfl]
  have hread2 : (c.after air (.readRegister regNumRxBytes1)).read air regNumRxBytes2 =
      BitVec.ofNat 8 (c.rxFifo.length / 256) := by
    rw [FifoChip.read, if_neg (by decide), if_neg (by decide), if_pos rfl, hsame]
  constructor
  · simp only [readRxCount, exec_bind_result, hlow, hbetween, hhigh, exec_pure, halves_toNat,
      hread1, hread2, BitVec.toNat_ofNat]
    omega
  · simp only [readRxCount, exec_bind_state, hbetween, hbehind, exec_pure]
    rw [FifoChip.after, hsame]
    dsimp only
    rw [if_neg (by decide)]
    exact List.prefix_append _ _

/-! ### Calls and runs -/

theorem transmitted_response {a : TransactArgs}
    (h : ((prepare a).exec (fifoChip air) c).state.rxFifo = []) :
    (transmitted (fifoChip air) c a).rxFifo = (transmitted (fifoChip air) c a).response := by
  unfold transmitted
  rw [sendCommand_of_mem (by decide) (by decide)]
  generalize ((prepare a).exec (fifoChip air) c).state = t at h
  change (t.after air (.directCommand cmdTxOn)).rxFifo =
    (t.after air (.directCommand cmdTxOn)).response
  simp [FifoChip.after, h]

/-- When the flags have been looked at, the RX FIFO holds the response. -/
theorem concluded_response {a : TransactArgs}
    (h : ((prepare a).exec (fifoChip air) c).state.rxFifo = []) :
    (concluded (fifoChip air) c a).rxFifo = (concluded (fifoChip air) c a).response := by
  have hkeep : ∀ op (c : FifoChip σ), Listening op → c.rxFifo = c.response →
      (fifoChip air op c).2.rxFifo = (fifoChip air op c).2.response :=
    fun _ _ hop hc => hop.keeps_response hc
  have hpolls := (listening_pollLoop a.timeoutCount.toNat).exec_invariant hkeep
    (transmitted_response h)
  exact (listening_clearInterrupts _ _ _ _ _).exec_invariant hkeep hpolls

theorem concluded_prefix {a : TransactArgs} (hvalid : a.invalid = false)
    (h : ((transact a).exec (fifoChip air) c).result = 0) :
    (concluded (fifoChip air) c a).response <+:
      ((transact a).exec (fifoChip air) c).state.response := by
  have hpolls := polls_of_success hvalid h
  unfold concluded
  unfold transmitted at hpolls ⊢
  simp only [transact, hvalid, Bool.false_eq_true, if_false, exec_bind_state, hpolls, conclude]
  exact response_prefix (idle_finish a _)

/-- What a transaction returns is the beginning of its response when nothing
was in the RX FIFO before it. -/
theorem returned_prefix {a : TransactArgs} (hvalid : a.invalid = false)
    (h : RxClear air c (.transact a)) :
    (stored ((transact a).exec (fifoChip air) c).trace).map Prod.snd <+:
      ((transact a).exec (fifoChip air) c).state.response := by
  obtain ⟨_, _, _, hfoot⟩ := (footprint_transact hvalid).exec (d := fifoChip air) (s := c)
  cases hwritten : writtenBuffer a ((transact a).exec (fifoChip air) c).result with
  | none =>
      rw [hwritten] at hfoot
      rw [hfoot.stored_eq_nil.1]
      exact List.nil_prefix
  | some len =>
      have hlen := (writtenBuffer_eq_some hwritten).2
      have hresult : ((transact a).exec (fifoChip air) c).result = 0 := by
        by_contra hfailed
        simp [writtenBuffer, hfailed] at hwritten
      have hempty : ((prepare a).exec (fifoChip air) c).state.rxFifo = [] := by
        rcases h with hnone | hempty
        · simp [writtenBuffer, hresult, hnone] at hwritten
        · exact hempty
      have hbytes := (transact_delivered hvalid (fun _ _ _ => rfl) hresult).bytes len hlen
      have hheld := concluded_response hempty
      obtain ⟨hcount, hstay⟩ := readRxCount_le air (concluded (fifoChip air) c a)
      obtain ⟨behind, hbehind⟩ := hstay
      have hprefix := concluded_prefix hvalid hresult
      generalize hr : concluded (fifoChip air) c a = r at *
      have hn : rxCount (fifoChip air) r len ≤ r.rxFifo.length := by
        unfold rxCount
        omega
      have hlength : rxCount (fifoChip air) r len ≤
          (readRxCount.exec (fifoChip air) r).state.rxFifo.length := by
        rw [← hbehind, List.length_append]
        omega
      rw [hbytes, fifoBytes_eq_take hlength, List.map_snd_zip (by simp), ← hbehind,
        List.take_append_of_le_length hn, hheld]
      exact (List.take_prefix _ _).trans hprefix

theorem sendsItsOwn_of_refused {call : NfcCall} (h : call.refused = true) :
    SendsItsOwn air c call := by
  obtain ⟨htrace, _⟩ := call_refused air c h
  constructor
  · rw [htrace]
    simp [transmissions, observe]
  · rw [htrace]
    exact List.nil_prefix

theorem sendsItsOwn_of_findsEmpty {call : NfcCall} (h : FindsEmpty air c call) :
    SendsItsOwn air c call := by
  cases hrefused : call.refused with
  | true => exact sendsItsOwn_of_refused hrefused
  | false =>
      obtain ⟨hfit, hrx⟩ := h.resolve_left (by simp [hrefused])
      refine ⟨(sent_iff air c hrefused).mpr hfit, ?_⟩
      cases call with
      | iso14443aReqa =>
          have hfoot := footprint_iso14443aReqa.exec (d := fifoChip air) (s := c)
          have hstored := hfoot.stored_eq_nil.1
          unfold NfcCall.prog
          rw [hstored]
          exact List.nil_prefix
      | transact a => exact returned_prefix hrefused hrx

/-- The chip answers with an identity that the initialisation accepts. -/
def Identified (air : FifoAir σ) (c : FifoChip σ) : Prop :=
  air.reads regIcIdentity c.air = 0x39 ∨ air.reads regIcIdentity c.air = 0x89

theorem exec_transmitter {α : Type} (p : NfcProg α) :
    (p.exec (fifoChip air) c).state.transmitter =
      run Transmitter.step c.transmitter (p.exec (fifoChip air) c).trace := by
  have hstep : ∀ op s, FifoChip.transmitter (fifoChip air op s).2 =
      Transmitter.step (FifoChip.transmitter s) op := fun op s => fifoChip_transmitter air s op
  exact exec_component (fifoChip air) c hstep p

/-- The initialisation sends nothing. -/
theorem init_transmits : transmissions c.transmitter (init.exec (fifoChip air) c).trace = [] := by
  have hread : Only Idle (readReg regIcIdentity) := only_readReg ⟨fun _ => rfl, by simp⟩
  have hsilent : init.Ensures fun t _ => transmissions c.transmitter t = [] := by
    apply ensures_bind (txEffect_of_only (x := c.transmitter) hread)
    intro t icId ht
    split
    · apply ensures_pure
      rw [List.append_nil]
      exact ht.sent
    · exact configure_transmits.mono fun u _ hu => (ht.append hu).sent
  exact hsilent.exec

theorem init_transmitter (h : Identified air c) :
    (init.exec (fifoChip air) c).state.transmitter = c.transmitter.configured := by
  have haddr : regIcIdentity ≤ 0x3F := by decide
  obtain ⟨hid, hstate⟩ := exec_readReg air c haddr
  have hread : c.read air regIcIdentity = air.reads regIcIdentity c.air := by
    simp [FifoChip.read, regIcIdentity, regRxFifo, regNumRxBytes1, regNumRxBytes2]
  have haccepted : ¬ (air.reads regIcIdentity c.air ≠ 0x39 ∧
      air.reads regIcIdentity c.air ≠ 0x89) := by
    unfold Identified at h
    tauto
  have hsame : (c.after air (.readRegister regIcIdentity)).transmitter = c.transmitter := rfl
  have heffect := (configure_transmits (x := c.transmitter)).exec (d := fifoChip air)
    (s := c.after air (.readRegister regIcIdentity))
  rw [init, exec_bind_state, hid, hread, if_neg haccepted, hstate, exec_transmitter, hsame]
  exact heffect.run

/-- With something left in the TX FIFO, only refused calls send their own. -/
theorem along_of_leftover {calls : List NfcCall} (h : c.transmitter.fifo ≠ []) :
    Along (callStep air) (SendsItsOwn air) c calls ↔ ∀ call ∈ calls, call.refused = true := by
  induction calls with
  | nil => simp [Along]
  | cons call calls ih =>
      rw [Along, List.forall_mem_cons]
      cases hrefused : call.refused with
      | true =>
          rw [(call_refused air c hrefused).2, ih]
          simp [sendsItsOwn_of_refused hrefused]
      | false =>
          have hnot : ¬ SendsItsOwn air c call := fun hown =>
            h ((sent_iff air c hrefused).mp hown.sent).1
          simp [hnot]

/-- Every run sends nothing before the first call. A run whose calls all find
the FIFOs empty sends and returns what it should, and one that does so finds the
TX FIFO empty throughout; behind an initialisation that accepts the chip this
is never so, and every call that is not refused sends something else. -/
theorem run_sends_its_own (air : FifoAir σ) (c : FifoChip σ) (calls : List NfcCall) :
    let start := (init.exec (fifoChip air) c).state
    transmissions c.transmitter (init.exec (fifoChip air) c).trace = [] ∧
      (Along (callStep air) (FindsEmpty air) start calls →
        Along (callStep air) (SendsItsOwn air) start calls) ∧
      (Along (callStep air) (SendsItsOwn air) start calls →
        Along (callStep air) (fun c call => call.refused = true ∨
          c.transmitter.FitFor call.request) start calls) ∧
      (Identified air c → (Along (callStep air) (SendsItsOwn air) start calls ↔
        ∀ call ∈ calls, call.refused = true)) := by
  dsimp only
  refine ⟨init_transmits, ?_, ?_, ?_⟩
  · exact along_mono (I := fun _ => True) (fun _ _ _ _ => trivial)
      (fun _ _ _ h => sendsItsOwn_of_findsEmpty h) trivial
  · apply along_mono (I := fun _ => True) (fun _ _ _ _ => trivial) _ trivial
    intro c call _ hown
    cases hrefused : call.refused with
    | true => exact .inl rfl
    | false => exact .inr ((sent_iff air c hrefused).mp hown.sent)
  · intro h
    apply along_of_leftover
    rw [init_transmitter h]
    simp [Transmitter.configured]

/-- Every register reads the same, and nothing arrives. -/
def constantAir (val : Byte) : FifoAir Unit where
  arrives _ _ := []
  reads _ _ := val
  next _ s := s

def emptyChip : FifoChip Unit := ⟨⟨0, 0, 0, []⟩, [], [], ()⟩

/-- A chip of an unknown kind that answers each request with two bytes. -/
def answeringAir : FifoAir Unit where
  arrives op _ := if op = .directCommand cmdTxOn then [0x44, 0x00] else []
  reads addr _ := if addr = regIrqStatus1 then irq1Rxe else 0x00
  next _ s := s

/-- One byte is sent, and up to four are wanted. -/
def oneByteArgs : TransactArgs := ⟨0x60, some fun _ => 0x60, 1, true, some 4, 1⟩

/-- The initialisation is refused. A transaction behind it returns the answer, and a REQA
goes out as it should. -/
theorem run_sends_its_own_unidentified :
    let start := (init.exec (fifoChip answeringAir) emptyChip).state
    (stored ((transact oneByteArgs).exec (fifoChip answeringAir) start).trace).map Prod.snd =
        [0x44, 0x00] ∧
      Along (callStep answeringAir) (SendsItsOwn answeringAir) start
        [.transact oneByteArgs, .iso14443aReqa] := by
  intro start
  have hreturned : (stored ((transact oneByteArgs).exec (fifoChip answeringAir)
      (init.exec (fifoChip answeringAir) emptyChip).state).trace).map Prod.snd =
        [0x44, 0x00] := by decide +kernel
  have hfirst : (init.exec (fifoChip answeringAir) emptyChip).state.transmitter.fifo = [] := by
    decide +kernel
  have hclear : ((prepare oneByteArgs).exec (fifoChip answeringAir)
      (init.exec (fifoChip answeringAir) emptyChip).state).state.rxFifo = [] := by decide +kernel
  have hsecond : (callStep answeringAir (init.exec (fifoChip answeringAir) emptyChip).state
      (.transact oneByteArgs)).transmitter.fifo = [] := by decide +kernel
  refine ⟨hreturned, (run_sends_its_own answeringAir emptyChip
    [.transact oneByteArgs, .iso14443aReqa]).2.1 ?_⟩
  exact ⟨.inr ⟨⟨hfirst, .inl (by decide)⟩, .inr hclear⟩,
    .inr ⟨⟨hsecond, .inl (by decide)⟩, trivial⟩, trivial⟩

/-- The first REQA behind a successful initialisation: the FIFO starts with the
value for timer 2, and that is what is sent. -/
theorem reqa_sends_timer_value :
    let air := constantAir 0x39
    let start := (init.exec (fifoChip air) emptyChip).state
    (init.exec (fifoChip air) emptyChip).result = 0 ∧
      transmissions start.transmitter (iso14443aReqa.exec (fifoChip air) start).trace =
        [⟨0x01, 0x00, 0x00, [0x0A, 0x26]⟩] ∧
      ¬ Along (callStep air) (SendsItsOwn air) start [.iso14443aReqa] := by
  dsimp only
  have hsent : transmissions (init.exec (fifoChip (constantAir 0x39)) emptyChip).state.transmitter
      (iso14443aReqa.exec (fifoChip (constantAir 0x39))
        (init.exec (fifoChip (constantAir 0x39)) emptyChip).state).trace =
      [⟨0x01, 0x00, 0x00, [0x0A, 0x26]⟩] := by decide +kernel
  refine ⟨by decide +kernel, hsent, ?_⟩
  rintro ⟨hown, _⟩
  have hfifo := (hown.sent ⟨0x01, 0x00, 0x00, [0x0A, 0x26]⟩ (by
    unfold NfcCall.prog
    rw [hsent]
    exact List.mem_singleton_self _)).1
  exact absurd hfifo (by decide)

end GhostBlade.Firmware.St25r3916
