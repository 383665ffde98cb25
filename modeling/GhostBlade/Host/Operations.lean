import GhostBlade.Host.Driver

/-!
What the driver's operations can do, said once for each: what they transfer,
what becomes of the reply, and how they change the RX FIFO. Nothing but the
frame the RX work sends depends on what freshly allocated memory holds.
-/

namespace GhostBlade.Host

open GhostBlade.Library GhostBlade.Protocol

@[simp] theorem memBytes_length (mem : Nat → Byte) (n : Nat) : (memBytes mem n).length = n := by
  simp [memBytes]

@[simp] theorem writeAt_zero_take (buf bytes : List Byte) :
    (writeAt buf 0 bytes).take bytes.length = bytes := by
  simp [writeAt]

/-- The device behind a transfer: a failed one is counted. -/
def Env.afterXfer (env : Env) (dev : Dev) : Dev :=
  if env.spiSync < 0 then
    { dev with
      flags := { dev.flags with spiError := true }
      spiErrCount := dev.spiErrCount + 1 }
  else dev

@[simp] theorem Env.afterXfer_rxFifo (env : Env) (dev : Dev) :
    (env.afterXfer dev).rxFifo = dev.rxFifo := by
  unfold Env.afterXfer
  split <;> rfl

@[simp] theorem Env.afterXfer_lastTelem (env : Env) (dev : Dev) :
    (env.afterXfer dev).lastTelem = dev.lastTelem := by
  unfold Env.afterXfer
  split <;> rfl

@[simp] theorem Env.afterXfer_txFifo (env : Env) (dev : Dev) :
    (env.afterXfer dev).txFifo = dev.txFifo := by
  unfold Env.afterXfer
  split <;> rfl

section

variable (tx rxBuf : List Byte) (env : Env) (dev : Dev)

/-- Everything about a transfer but what it received. -/
theorem apexSpiXfer_eq (htx : tx.length ≤ frameSizeMax) (hrx : rxBuf.length = frameSizeMax) :
    (apexSpiXfer tx rxBuf env dev).dev = env.afterXfer dev ∧
      (apexSpiXfer tx rxBuf env dev).ret =
        (if env.spiSync < 0 then env.spiSync else (tx.length : Int)) ∧
      (apexSpiXfer tx rxBuf env dev).sent = some tx := by
  have hfits : ¬ tx.length > frameSizeMax := by omega
  have hroom : ¬ tx.length > rxBuf.length := by omega
  unfold apexSpiXfer Env.afterXfer
  rw [if_neg hfits, if_neg hroom]
  split
  · exact ⟨rfl, rfl, rfl⟩
  · exact ⟨rfl, rfl, rfl⟩

@[simp] theorem apexSpiXfer_rxFifo : (apexSpiXfer tx rxBuf env dev).dev.rxFifo = dev.rxFifo := by
  unfold apexSpiXfer
  split
  · rfl
  · split <;> rfl

/-- A transfer that the SPI core carries out brings what the MCU has to send. -/
theorem apexSpiXfer_rxBuf (htx : tx.length ≤ frameSizeMax) (hspi : ¬ env.spiSync < 0) :
    (apexSpiXfer tx rxBuf env dev).rxBuf.take tx.length = padTake tx.length env.miso := by
  have hfits : ¬ tx.length > frameSizeMax := by omega
  have hread := writeAt_zero_take rxBuf (padTake tx.length env.miso)
  rw [padTake_length] at hread
  unfold apexSpiXfer
  rw [if_neg hfits, if_neg hspi]
  exact hread

end

/-- Building into a fresh frame buffer and cutting at the returned length. -/
theorem buildFrame_take (cmd : Byte) (payload frame : List Byte)
    (hlen : payload.length ≤ maxPayload) (hframe : frame.length = frameSizeMax) :
    (apexBuildFrame cmd payload frame).1 = ((20 + payload.length : Nat) : Int) ∧
      (apexBuildFrame cmd payload frame).2.take (20 + payload.length) = encode cmd payload := by
  have hmax : maxPayload = 4092 := rfl
  have hsize : frameSizeMax = 4112 := rfl
  rw [apexBuildFrame_ok cmd payload frame hlen (by omega)]
  have hcut : 20 + payload.length = (encode cmd payload).length := (encode_length ..).symm
  refine ⟨rfl, ?_⟩
  dsimp only
  rw [hcut, List.take_left]

theorem encode_fits (cmd : Byte) (payload : List Byte) (hlen : payload.length ≤ maxPayload) :
    (encode cmd payload).length ≤ frameSizeMax := by
  have hmax : maxPayload = 4092 := rfl
  have hsize : frameSizeMax = 4112 := rfl
  rw [encode_length]
  omega

/-- The outcome of transferring just the frame of a request. -/
def requestResult (cmd : Byte) (payload : List Byte) (env : Env) (dev : Dev) : Result :=
  ⟨env.afterXfer dev, if env.spiSync < 0 then env.spiSync else (encode cmd payload).length,
    some (encode cmd payload), []⟩

theorem buildAndXfer_eq (cmd : Byte) (payload frame rxBuf : List Byte) (env : Env) (dev : Dev)
    (hlen : payload.length ≤ maxPayload) (hframe : frame.length = frameSizeMax)
    (hrx : rxBuf.length = frameSizeMax) :
    buildAndXfer cmd payload frame rxBuf env dev = requestResult cmd payload env dev := by
  obtain ⟨hret, htake⟩ := buildFrame_take cmd payload frame hlen hframe
  obtain ⟨hdev, hxret, hsent⟩ := apexSpiXfer_eq (encode cmd payload) rxBuf env dev
    (encode_fits cmd payload hlen) hrx
  have hpos : ¬ (((20 + payload.length : Nat) : Int) < 0) := by omega
  simp only [buildAndXfer, hret, if_neg hpos, Int.toNat_natCast, htake, hdev, hxret, hsent]
  rfl

/-- The NOP frame of the RX work, and behind it whatever its buffer held. -/
def rxWorkTx (env : Env) : List Byte :=
  encode apexCmdNop [] ++ (memBytes (env.heap 1) frameSizeMax).drop 20

@[simp] theorem rxWorkTx_length (env : Env) : (rxWorkTx env).length = frameSizeMax := by
  simp [rxWorkTx, frameSizeMax, hdrSize, maxPayload, crc32Size]

/-- With both buffers allocated the RX work always gets to its transfer. -/
theorem rxWorkXfer_eq (env : Env) (dev : Dev) :
    rxWorkXfer env dev =
      if env.allocOk 0 = true ∧ env.allocOk 1 = true then
        some (apexSpiXfer (rxWorkTx env) (memBytes (env.heap 0) frameSizeMax) env dev)
      else none := by
  have hbuilt : apexBuildFrame apexCmdNop [] (memBytes (env.heap 1) frameSizeMax) =
      (((20 : Nat) : Int), rxWorkTx env) :=
    apexBuildFrame_ok apexCmdNop [] _ (Nat.zero_le _)
      (by simp [frameSizeMax, hdrSize, maxPayload, crc32Size])
  have hwhole : (rxWorkTx env).take frameSizeMax = rxWorkTx env :=
    List.take_of_length_le (le_of_eq (rxWorkTx_length env))
  have hpos : ¬ (((20 : Nat) : Int) < 0) := by omega
  unfold rxWorkXfer Env.kmalloc
  cases h0 : env.allocOk 0 <;> cases h1 : env.allocOk 1
  · simp
  · simp
  · simp
  · simp only [if_true, hbuilt, and_self, if_neg hpos, hwhole]

/-- A write either gives up without a transfer or transfers the frame of its
first byte and the rest. -/
theorem writeXfer_cases (data : List Byte) (env : Env) :
    (∃ ret, ∀ heap dev, writeXfer data { env with heap := heap } dev = .error ret) ∨
      (data.length ≤ maxPayload ∧ ∀ heap dev, writeXfer data { env with heap := heap } dev =
        .ok (apexSpiXfer (encode (data.getD 0 0) (data.drop 1))
          (memBytes (heap 2) frameSizeMax) { env with heap := heap } dev)) := by
  by_cases hshort : data.length < 1
  · exact .inl ⟨-einval, fun _ _ => by simp only [writeXfer, if_pos hshort]⟩
  by_cases hlong : data.length > maxPayload
  · exact .inl ⟨-emsgsize, fun _ _ => by simp only [writeXfer, if_neg hshort, if_pos hlong]⟩
  cases h0 : env.allocOk 0 with
  | false => exact .inl ⟨-enomem, fun _ _ => by simp [writeXfer, hshort, hlong, h0]⟩
  | true =>
    cases hcopy : env.userCopy 0 with
    | false => exact .inl ⟨-efault, fun _ _ => by simp [writeXfer, hshort, hlong, h0, hcopy]⟩
    | true =>
      cases h1 : env.allocOk 1 with
      | false =>
          exact .inl ⟨-enomem, fun _ _ => by
            simp [writeXfer, hshort, hlong, h0, hcopy, Env.kmalloc, h1]⟩
      | true =>
        cases h2 : env.allocOk 2 with
        | false =>
            exact .inl ⟨-enomem, fun _ _ => by
              simp [writeXfer, hshort, hlong, h0, hcopy, Env.kmalloc, h1, h2]⟩
        | true =>
            have hmax : (data.drop 1).length ≤ maxPayload := by
              rw [List.length_drop]
              omega
            refine .inr ⟨by omega, ?_⟩
            intro heap dev
            obtain ⟨hret, htake⟩ := buildFrame_take (data.getD 0 0) (data.drop 1)
              (memBytes (heap 1) frameSizeMax) hmax (memBytes_length _ _)
            have hpos : ¬ (((20 + (data.drop 1).length : Nat) : Int) < 0) := by omega
            simp only [writeXfer, if_neg hshort, if_neg hlong, h0, hcopy, Bool.true_eq_false,
              if_false, Env.kmalloc, h1, h2, if_true, hret, if_neg hpos, Int.toNat_natCast, htake]

/-- The frame accepted from the first `n` bytes of a receive buffer. -/
def accepted (n : Int) (buf : List Byte) : Option Received :=
  if n > 0 then (apexValidateFrame (buf.take n.toNat)).toOption else none

/-- A telemetry frame of the wrong length is dropped by the RX work. -/
def Received.malformed (r : Received) : Bool :=
  r.cmd = apexCmdTelemetry ∧ r.payload.length ≠ telemetrySize

theorem rxWorkFinish_eq (n : Int) (buf : List Byte) (dev : Dev) :
    rxWorkFinish n buf dev =
      match accepted n buf with
      | none => dev
      | some r => dev.takeResponse r := by
  unfold rxWorkFinish accepted
  rcases lt_trichotomy n 0 with hneg | rfl | hpos
  · rw [if_pos hneg, if_neg (by omega)]
  · rw [if_neg (by omega), if_neg (by omega)]
    rfl
  · rw [if_neg (by omega), if_pos hpos]
    cases apexValidateFrame (buf.take n.toNat) <;> rfl

theorem writeFinish_eq (n : Int) (buf : List Byte) (dev : Dev) :
    writeFinish n buf dev =
      match accepted n buf with
      | none => dev
      | some r => dev.pushRx r.payload := by
  unfold writeFinish accepted
  split
  · cases apexValidateFrame (buf.take n.toNat) with
    | error code => rfl
    | ok r =>
        dsimp only [Except.toOption]
        split
        · rfl
        · next hempty =>
          have hnil : r.payload = [] := List.eq_nil_of_length_eq_zero (by omega)
          rw [hnil, Dev.pushRx, Fifo.push_nil]
  · rfl

theorem takeResponse_rxFifo (r : Received) (dev : Dev) :
    (dev.takeResponse r).rxFifo =
      if r.malformed then dev.rxFifo else dev.rxFifo.push r.payload := by
  have hcache (dev : Dev) (payload : List Byte) :
      (dev.cacheTelemetry payload).rxFifo = dev.rxFifo := by
    unfold Dev.cacheTelemetry
    dsimp only
    split <;> rfl
  unfold Dev.takeResponse
  by_cases htelem : r.cmd = apexCmdTelemetry
  · by_cases hlen : r.payload.length = telemetrySize
    · have hgood : r.malformed = false := by simp [Received.malformed, hlen]
      rw [if_pos htelem, if_pos hlen, hgood, if_neg Bool.false_ne_true, Dev.pushRx, hcache]
    · have hbad : r.malformed = true := by simp [Received.malformed, htelem, hlen]
      rw [if_pos htelem, if_neg hlen, hbad, if_pos rfl]
  · have hgood : r.malformed = false := by simp [Received.malformed, htelem]
    rw [if_neg htelem, hgood, if_neg Bool.false_ne_true]
    split <;> rfl

/-- Surroundings in which everything succeeds. -/
def Env.ok (miso : List Byte) : Env :=
  ⟨fun _ => true, fun _ _ => 0, true, fun _ => true, 0, miso⟩

/-- The frame a transfer of `n` bytes brings. -/
def Env.reply (env : Env) (n : Nat) : Option Received :=
  if env.spiSync < 0 then none else (apexValidateFrame (padTake n env.miso)).toOption

/-- An MCU that sends a frame and perhaps more is understood. -/
theorem Env.reply_encode (env : Env) (n : Nat) (cmd : Byte) (payload rest : List Byte)
    (hspi : ¬ env.spiSync < 0) (hlen : payload.length ≤ maxPayload)
    (hmiso : env.miso = encode cmd payload ++ rest) (hfit : (encode cmd payload).length ≤ n) :
    env.reply n = some ⟨cmd, payload⟩ := by
  have hpad : padTake n env.miso = encode cmd payload ++
      (rest.take (n - (encode cmd payload).length) ++
        List.replicate (n - env.miso.length) 0) := by
    rw [hmiso, padTake, List.take_append, List.take_of_length_le hfit, List.append_assoc]
  rw [Env.reply, if_neg hspi, hpad, apexValidateFrame_encode cmd payload _ hlen]
  rfl

/-- An MCU with nothing to send is not. -/
theorem Env.reply_idle (env : Env) (n : Nat) (hmiso : env.miso = []) : env.reply n = none := by
  have hzeros : padTake n env.miso = List.replicate n 0 := by
    rw [hmiso, padTake, List.take_nil, List.nil_append, List.length_nil, Nat.sub_zero]
  have hinvalid : apexValidateFrame (List.replicate n 0) = .error (-ebadmsg) := by
    unfold apexValidateFrame
    split
    · rfl
    · next hlong =>
      have hhead : (List.replicate n (0 : Byte)).head? ≠ some syncByte := by
        cases n with
        | zero => simp
        | succ n =>
            rw [List.replicate_succ, List.head?_cons, ne_eq, Option.some.injEq]
            decide
      rw [if_pos hhead]
  rw [Env.reply, hzeros, hinvalid]
  split <;> rfl

theorem accepted_xfer (tx rxBuf : List Byte) (env : Env) (dev : Dev)
    (htx : tx.length ≤ frameSizeMax) (hpos : 0 < tx.length) (hrx : rxBuf.length = frameSizeMax) :
    accepted (apexSpiXfer tx rxBuf env dev).ret (apexSpiXfer tx rxBuf env dev).rxBuf =
      env.reply tx.length := by
  obtain ⟨_, hret, _⟩ := apexSpiXfer_eq tx rxBuf env dev htx hrx
  unfold accepted Env.reply
  rw [hret]
  by_cases hspi : env.spiSync < 0
  · rw [if_pos hspi, if_pos hspi, if_neg (by omega)]
  · rw [if_neg hspi, if_neg hspi, if_pos (by omega), Int.toNat_natCast,
      apexSpiXfer_rxBuf tx rxBuf env dev htx hspi]

/-- The RX work: with both buffers it transfers its whole transmit buffer and
takes the frame it gets. -/
theorem apexRxWorkHandler_eq (env : Env) (dev : Dev) :
    apexRxWorkHandler env dev =
      if env.allocOk 0 = true ∧ env.allocOk 1 = true then
        ⟨match env.reply frameSizeMax with
          | none => env.afterXfer dev
          | some r => (env.afterXfer dev).takeResponse r, 0, some (rxWorkTx env), []⟩
      else .done dev 0 := by
  have htx : (rxWorkTx env).length ≤ frameSizeMax := le_of_eq (rxWorkTx_length env)
  have hpos : 0 < (rxWorkTx env).length := by
    rw [rxWorkTx_length]
    decide
  obtain ⟨hdev, _, hsent⟩ := apexSpiXfer_eq (rxWorkTx env) (memBytes (env.heap 0) frameSizeMax)
    env dev htx (memBytes_length _ _)
  have hreply := accepted_xfer (rxWorkTx env) (memBytes (env.heap 0) frameSizeMax) env dev htx hpos
    (memBytes_length _ _)
  rw [rxWorkTx_length] at hreply
  unfold apexRxWorkHandler
  rw [rxWorkXfer_eq]
  by_cases hbufs : env.allocOk 0 = true ∧ env.allocOk 1 = true
  · rw [if_pos hbufs, if_pos hbufs]
    dsimp only
    rw [rxWorkFinish_eq, hreply, hdev, hsent]
  · rw [if_neg hbufs, if_neg hbufs]

/-- A write gives up without a transfer, or transfers its frame and stores the
payload of the frame it gets. -/
theorem apexBridgeWrite_cases (data : List Byte) (env : Env) :
    (∃ ret, ∀ heap dev, apexBridgeWrite data { env with heap := heap } dev = .done dev ret) ∨
      (data.length ≤ maxPayload ∧
        ∀ heap dev, apexBridgeWrite data { env with heap := heap } dev =
          ⟨match env.reply (encode (data.getD 0 0) (data.drop 1)).length with
            | none => env.afterXfer dev
            | some r => (env.afterXfer dev).pushRx r.payload,
            data.length, some (encode (data.getD 0 0) (data.drop 1)), []⟩) := by
  rcases writeXfer_cases data env with ⟨ret, herror⟩ | ⟨hlen, hok⟩
  · refine .inl ⟨ret, ?_⟩
    intro heap dev
    rw [apexBridgeWrite, herror heap dev]
  · refine .inr ⟨hlen, ?_⟩
    intro heap dev
    have hfit := encode_fits (data.getD 0 0) (data.drop 1) (by rw [List.length_drop]; omega)
    have hpos : 0 < (encode (data.getD 0 0) (data.drop 1)).length := by
      rw [encode_length]
      omega
    obtain ⟨hdev, _, hsent⟩ := apexSpiXfer_eq (encode (data.getD 0 0) (data.drop 1))
      (memBytes (heap 2) frameSizeMax) { env with heap := heap } dev hfit (memBytes_length _ _)
    have hreply := accepted_xfer (encode (data.getD 0 0) (data.drop 1))
      (memBytes (heap 2) frameSizeMax) { env with heap := heap } dev hfit hpos
      (memBytes_length _ _)
    rw [apexBridgeWrite, hok heap dev]
    dsimp only
    rw [writeFinish_eq, hreply, hdev, hsent]
    rfl

/-- The outcome of a write that gets to its transfer. -/
def writeResult (data : List Byte) (env : Env) (dev : Dev) : Result :=
  ⟨match env.reply (encode (data.getD 0 0) (data.drop 1)).length with
    | none => env.afterXfer dev
    | some r => (env.afterXfer dev).pushRx r.payload,
    data.length, some (encode (data.getD 0 0) (data.drop 1)), []⟩

theorem apexBridgeWrite_result (data : List Byte) (env : Env) (dev : Dev) :
    (∃ ret, apexBridgeWrite data env dev = .done dev ret) ∨
      apexBridgeWrite data env dev = writeResult data env dev := by
  rcases apexBridgeWrite_cases data env with ⟨ret, hdone⟩ | ⟨_, hsent⟩
  · exact .inl ⟨ret, hdone env.heap dev⟩
  · exact .inr (hsent env.heap dev)

/-- A read takes what it can get, or nothing. -/
theorem apexBridgeRead_dev (sawEmpty nonblock : Bool) (waited : Int) (count : Nat) (env : Env)
    (dev : Dev) :
    (apexBridgeRead sawEmpty nonblock waited count env dev).dev =
      if sawEmpty ∧ nonblock ∨ sawEmpty ∧ waited ≠ 0 ∨ env.allocOk 0 = false then dev
      else { dev with rxFifo := dev.rxFifo.pop (min count dev.rxFifo.items.length) } := by
  unfold apexBridgeRead
  dsimp only
  by_cases hagain : sawEmpty ∧ nonblock
  · simp [hagain, Result.done]
  by_cases hwait : sawEmpty ∧ waited ≠ 0
  · rw [if_neg hagain, if_pos hwait, if_pos (.inr (.inl hwait))]
    rfl
  rw [if_neg hagain, if_neg hwait]
  cases halloc : env.allocOk 0 with
  | false =>
      simp only [Env.kmalloc, halloc, or_true, if_true, Bool.false_eq_true, if_false]
      split <;> rfl
  | true =>
      have hgo : ¬ (sawEmpty ∧ nonblock ∨ sawEmpty ∧ waited ≠ 0 ∨ true = false) := by
        rintro (h | h | h)
        · exact hagain h
        · exact hwait h
        · cases h
      rw [if_neg hgo]
      simp only [Env.kmalloc, halloc, if_true]
      split
      next hzero => rw [hzero]; rfl
      next => split <;> rfl

/-- The operation leaves what was received alone, and what it sends is a whole
frame. -/
structure Quiet (dev : Dev) (r : Result) : Prop where
  rxFifo : r.dev.rxFifo = dev.rxFifo
  lastTelem : r.dev.lastTelem = dev.lastTelem
  txFifo : r.dev.txFifo = dev.txFifo
  sent : ∀ tx, r.sent = some tx → ∃ cmd payload,
    payload.length ≤ maxPayload ∧ tx = encode cmd payload

theorem Quiet.of_done {dev dev' : Dev} (ret : Int) (out : List Byte)
    (hfifo : dev'.rxFifo = dev.rxFifo) (htelem : dev'.lastTelem = dev.lastTelem)
    (htx : dev'.txFifo = dev.txFifo) : Quiet dev ⟨dev', ret, none, out⟩ where
  rxFifo := hfifo
  lastTelem := htelem
  txFifo := htx
  sent := fun _ h => nomatch h

theorem quiet_request (cmd : Byte) (payload : List Byte) (env : Env) (dev : Dev)
    (hlen : payload.length ≤ maxPayload) : Quiet dev (requestResult cmd payload env dev) where
  rxFifo := env.afterXfer_rxFifo dev
  lastTelem := env.afterXfer_lastTelem dev
  txFifo := env.afterXfer_txFifo dev
  sent := by
    intro tx h
    exact ⟨cmd, payload, hlen, (Option.some.inj h).symm⟩

/-- The outcome is a quiet one and the same whatever the frame buffer, the
receive buffer and other fresh memory hold. -/
def Settled (env : Env) (dev : Dev) (f : List Byte → List Byte → Env → Result) : Prop :=
  ∃ r, Quiet dev r ∧ ∀ frame rxBuf heap, frame.length = frameSizeMax →
    rxBuf.length = frameSizeMax → f frame rxBuf { env with heap := heap } = r

section

variable {env : Env} {dev : Dev}

theorem Settled.of_const {r : Result} (h : Quiet dev r) : Settled env dev fun _ _ _ => r :=
  ⟨r, h, fun _ _ _ _ _ => rfl⟩

theorem Settled.done (ret : Int) : Settled env dev fun _ _ _ => .done dev ret :=
  .of_const (.of_done ret [] rfl rfl rfl)

theorem Settled.ite {c : Env → Prop} [∀ env, Decidable (c env)]
    {f g : List Byte → List Byte → Env → Result}
    (hc : ∀ heap, c { env with heap := heap } ↔ c env) (hf : c env → Settled env dev f)
    (hg : ¬ c env → Settled env dev g) :
    Settled env dev fun frame rxBuf env' =>
      if c env' then f frame rxBuf env' else g frame rxBuf env' := by
  by_cases h : c env
  · obtain ⟨r, hquiet, hr⟩ := hf h
    refine ⟨r, hquiet, ?_⟩
    intro frame rxBuf heap hframe hrx
    exact (if_pos ((hc heap).mpr h)).trans (hr frame rxBuf heap hframe hrx)
  · obtain ⟨r, hquiet, hr⟩ := hg h
    refine ⟨r, hquiet, ?_⟩
    intro frame rxBuf heap hframe hrx
    exact (if_neg (fun hno => h ((hc heap).mp hno))).trans (hr frame rxBuf heap hframe hrx)

/-- Requests whose user copy fails return before anything else. -/
theorem Settled.copied {f : List Byte → List Byte → Env → Result} (h : Settled env dev f) :
    Settled env dev fun frame rxBuf env' =>
      if env'.userCopy 0 = false then .done dev (-efault) else f frame rxBuf env' :=
  .ite (c := fun env' => env'.userCopy 0 = false) (fun _ => Iff.rfl) (fun _ => .done _)
    (fun _ => h)

theorem settled_request (cmd : Byte) (payload : List Byte) (hlen : payload.length ≤ maxPayload) :
    Settled env dev fun frame rxBuf env' => buildAndXfer cmd payload frame rxBuf env' dev :=
  ⟨requestResult cmd payload env dev, quiet_request cmd payload env dev hlen,
    fun frame rxBuf _ hframe hrx => buildAndXfer_eq cmd payload frame rxBuf _ dev hlen hframe hrx⟩

section

variable (arg : Nat → Byte)

theorem ioctlSdrTune_settled :
    Settled env dev fun frame rxBuf env' => ioctlSdrTune arg frame rxBuf env' dev :=
  .copied (settled_request _ _ (by simp [maxPayload]))

theorem ioctlSdrStream_settled :
    Settled env dev fun frame rxBuf env' => ioctlSdrStream arg frame rxBuf env' dev :=
  .copied (settled_request _ _ (by simp [maxPayload]))

theorem ioctlAntSelect_settled :
    Settled env dev fun frame rxBuf env' => ioctlAntSelect arg frame rxBuf env' dev := by
  apply Settled.copied
  apply Settled.ite (c := fun _ => (arg 0).toNat > apexAntTerminated)
  · exact fun _ => Iff.rfl
  · exact fun _ => .done _
  · exact fun _ => settled_request _ _ (by simp [maxPayload])

theorem ioctlCc1101Cfg_settled :
    Settled env dev fun frame rxBuf env' => ioctlCc1101Cfg arg frame rxBuf env' dev := by
  apply Settled.copied
  apply Settled.ite (c := fun _ => (arg 1).toNat = 0 ∨ (arg 1).toNat > apexCc1101MaxRegLen)
  · exact fun _ => Iff.rfl
  · exact fun _ => .done _
  intro hlen
  apply Settled.ite (c := fun env' => env'.allocOk 2 = false)
  · exact fun _ => Iff.rfl
  · exact fun _ => .done _
  intro _
  apply Settled.ite (c := fun env' => env'.userCopy 1 = false)
  · exact fun _ => Iff.rfl
  · exact fun _ => .done _
  intro _
  apply settled_request
  simp only [apexCc1101MaxRegLen, memBytes_length, maxPayload] at hlen ⊢
  omega

theorem ioctlNfcTransact_settled :
    Settled env dev fun frame rxBuf env' => ioctlNfcTransact arg frame rxBuf env' dev := by
  apply Settled.copied
  apply Settled.ite (c := fun _ => leValue [arg 2, arg 3] > apexNfcMaxDataLen)
  · exact fun _ => Iff.rfl
  · exact fun _ => .done _
  intro hlen
  apply Settled.ite (c := fun env' => env'.allocOk 2 = false)
  · exact fun _ => Iff.rfl
  · exact fun _ => .done _
  intro _
  apply Settled.ite (c := fun env' => leValue [arg 2, arg 3] > 0 ∧ env'.userCopy 1 = false)
  · exact fun _ => Iff.rfl
  · exact fun _ => .done _
  intro _
  apply settled_request
  simp only [apexNfcMaxDataLen, memBytes_length, maxPayload] at hlen ⊢
  omega

theorem ioctlMcuReset_settled :
    Settled env dev fun _ _ env' => ioctlMcuReset arg env' dev := by
  apply Settled.copied (f := fun _ _ _ => _)
  apply Settled.of_const
  split
  · exact .of_done 0 [] rfl rfl rfl
  · exact .of_done 0 [] rfl rfl rfl

theorem copyOut_settled (bytes : List Byte) :
    Settled env dev fun _ _ env' => copyOut bytes env' dev :=
  .copied (.of_const (.of_done 0 bytes rfl rfl rfl))

end

/-- The stream command of the scatter-gather engine, sent or not. -/
theorem sgSendStream_settled (enable : Byte) (k : Nat) (dev' : Dev)
    (hfifo : dev'.rxFifo = dev.rxFifo) (htelem : dev'.lastTelem = dev.lastTelem)
    (htx : dev'.txFifo = dev.txFifo) :
    Settled env dev fun _ _ env' =>
      ⟨(sgSendStream enable k env' dev').1, 0, (sgSendStream enable k env' dev').2, []⟩ := by
  have hlen : [enable].length ≤ maxPayload := by simp [maxPayload]
  by_cases hbufs : env.allocOk k = true ∧ env.allocOk (k + 1) = true
  · obtain ⟨hk, hk1⟩ := hbufs
    refine ⟨⟨env.afterXfer dev', 0, some (encode apexCmdSdrStream [enable]), []⟩, ?_, ?_⟩
    · exact
        { rxFifo := (env.afterXfer_rxFifo dev').trans hfifo
          lastTelem := (env.afterXfer_lastTelem dev').trans htelem
          txFifo := (env.afterXfer_txFifo dev').trans htx
          sent := fun tx h => ⟨_, _, hlen, (Option.some.inj h).symm⟩ }
    · intro _ _ heap _ _
      obtain ⟨hret, htake⟩ := buildFrame_take apexCmdSdrStream [enable]
        (memBytes (heap k) frameSizeMax) hlen (memBytes_length _ _)
      obtain ⟨hdev, _, hsent⟩ := apexSpiXfer_eq (encode apexCmdSdrStream [enable])
        (memBytes (heap (k + 1)) frameSizeMax) { env with heap := heap } dev'
        (encode_fits _ _ hlen) (memBytes_length _ _)
      have hpos : (((20 + [enable].length : Nat) : Int) > 0) := by simp
      simp only [sgSendStream, Env.kmalloc, hk, hk1, if_true, hret, if_pos hpos,
        Int.toNat_natCast, htake, hdev, hsent]
      rfl
  · refine ⟨⟨dev', 0, none, []⟩, .of_done 0 [] hfifo htelem htx, ?_⟩
    intro _ _ heap _ _
    unfold sgSendStream Env.kmalloc
    dsimp only
    cases hk : env.allocOk k <;> cases hk1 : env.allocOk (k + 1)
    · rfl
    · rfl
    · rfl
    · exact absurd ⟨hk, hk1⟩ hbufs

theorem apexSgEngineStart_settled (config : SgConfig) :
    Settled env dev fun _ _ env' => apexSgEngineStart config env' dev := by
  unfold apexSgEngineStart
  apply Settled.ite (c := fun _ => config.bufCount.toNat < 2 ∨ config.bufCount.toNat > 64)
  · exact fun _ => Iff.rfl
  · exact fun _ => .done _
  intro _
  apply Settled.ite
    (c := fun _ => config.bufSize.toNat < 4096 ∨ config.bufSize.toNat > 262144)
  · exact fun _ => Iff.rfl
  · exact fun _ => .done _
  intro _
  apply Settled.ite (c := fun _ => config.bufSize.toNat % 4 ≠ 0)
  · exact fun _ => Iff.rfl
  · exact fun _ => .done _
  intro _
  apply Settled.ite (c := fun _ => dev.sgEngine.state ≠ .idle)
  · exact fun _ => Iff.rfl
  · exact fun _ => .done _
  intro _
  apply Settled.ite (c := fun env' => env'.allocOk 2 = false)
  · exact fun _ => Iff.rfl
  · exact fun _ => .done _
  intro _
  apply Settled.ite (c := fun env' => env'.allocOk 3 = false)
  · exact fun _ => Iff.rfl
  · exact fun _ => .done _
  intro _
  apply Settled.ite (c := fun env' =>
    ((List.range config.bufCount.toNat).all fun i => env'.allocOk (4 + i)) = false)
  · exact fun _ => Iff.rfl
  · exact fun _ => .done _
  intro _
  exact sgSendStream_settled 1 _ _ rfl rfl rfl

theorem apexSgEngineStop_settled :
    Settled env dev fun _ _ env' => apexSgEngineStop env' dev := by
  unfold apexSgEngineStop
  apply Settled.ite (c := fun _ => dev.sgEngine.state = .idle)
  · exact fun _ => Iff.rfl
  · exact fun _ => .done _
  intro _
  exact sgSendStream_settled 0 _ _ rfl rfl rfl

theorem ioctlSwitch_settled (cmd : BitVec 32) (arg : Nat → Byte) :
    Settled env dev fun frame rxBuf env' => ioctlSwitch cmd arg frame rxBuf env' dev := by
  unfold ioctlSwitch
  apply Settled.ite (c := fun _ => cmd = apexIocSdrTune) (fun _ => Iff.rfl)
  · exact fun _ => ioctlSdrTune_settled arg
  intro _
  apply Settled.ite (c := fun _ => cmd = apexIocSdrStream) (fun _ => Iff.rfl)
  · exact fun _ => ioctlSdrStream_settled arg
  intro _
  apply Settled.ite (c := fun _ => cmd = apexIocAntSelect) (fun _ => Iff.rfl)
  · exact fun _ => ioctlAntSelect_settled arg
  intro _
  apply Settled.ite (c := fun _ => cmd = apexIocCc1101Cfg) (fun _ => Iff.rfl)
  · exact fun _ => ioctlCc1101Cfg_settled arg
  intro _
  apply Settled.ite (c := fun _ => cmd = apexIocNfcTransact) (fun _ => Iff.rfl)
  · exact fun _ => ioctlNfcTransact_settled arg
  intro _
  apply Settled.ite (c := fun _ => cmd = apexIocGetTelemetry) (fun _ => Iff.rfl)
  · exact fun _ => copyOut_settled _
  intro _
  apply Settled.ite (c := fun _ => cmd = apexIocMcuReset) (fun _ => Iff.rfl)
  · exact fun _ => ioctlMcuReset_settled arg
  intro _
  apply Settled.ite (c := fun _ => cmd = apexIocGetStatus) (fun _ => Iff.rfl)
  · exact fun _ => copyOut_settled _
  intro _
  apply Settled.ite (c := fun _ => cmd = apexIocSgStart) (fun _ => Iff.rfl)
  · exact fun _ => .copied (apexSgEngineStart_settled _)
  intro _
  apply Settled.ite (c := fun _ => cmd = apexIocSgStop) (fun _ => Iff.rfl)
  · exact fun _ => apexSgEngineStop_settled
  intro _
  apply Settled.ite (c := fun _ => cmd = apexIocSgGetStatus) (fun _ => Iff.rfl)
  · exact fun _ => copyOut_settled _
  · exact fun _ => .done _

end

/-- A request neither depends on fresh memory nor touches what was received. -/
theorem apexBridgeIoctl_settled (cmd : BitVec 32) (arg : Nat → Byte) (env : Env) (dev : Dev) :
    ∃ r, Quiet dev r ∧ ∀ heap, apexBridgeIoctl cmd arg { env with heap := heap } dev = r := by
  have hsettled : Settled env dev fun _ _ env' => apexBridgeIoctl cmd arg env' dev := by
    unfold apexBridgeIoctl
    apply Settled.ite (c := fun _ => (cmd >>> 8) &&& 0xFF#32 ≠ 0x41#32) (fun _ => Iff.rfl)
    · exact fun _ => .done _
    intro _
    apply Settled.ite (c := fun _ =>
      (cmd &&& 0xFF#32).toNat < 1 ∨ (cmd &&& 0xFF#32).toNat > 11) (fun _ => Iff.rfl)
    · exact fun _ => .done _
    intro _
    apply Settled.ite (c := fun env' =>
      (cmd >>> 30).toNat &&& iocWrite ≠ 0 ∧ env'.accessOk = false) (fun _ => Iff.rfl)
    · exact fun _ => .done _
    intro _
    apply Settled.ite (c := fun env' =>
      (cmd >>> 30).toNat &&& iocRead ≠ 0 ∧ env'.accessOk = false) (fun _ => Iff.rfl)
    · exact fun _ => .done _
    intro _
    have hswitch : Settled env dev fun frame rxBuf env' =>
        ioctlSwitch cmd arg frame rxBuf env' dev := ioctlSwitch_settled cmd arg
    obtain ⟨r, hquiet, hr⟩ := hswitch
    have hnomem : Quiet dev (.done dev (-enomem)) := .of_done _ [] rfl rfl rfl
    cases h0 : env.allocOk 0 with
    | false =>
        refine ⟨_, hnomem, ?_⟩
        intro _ _ heap _ _
        simp only [Env.kmalloc, h0]
        rfl
    | true =>
      cases h1 : env.allocOk 1 with
      | false =>
          refine ⟨_, hnomem, ?_⟩
          intro _ _ heap _ _
          simp only [Env.kmalloc, h0, h1]
          rfl
      | true =>
          refine ⟨r, hquiet, ?_⟩
          intro _ _ heap _ _
          simp only [Env.kmalloc, h0, h1, if_true]
          exact hr _ _ heap (memBytes_length _ _) (memBytes_length _ _)
  obtain ⟨r, hquiet, hr⟩ := hsettled
  exact ⟨r, hquiet, fun heap => hr (List.replicate frameSizeMax 0) (List.replicate frameSizeMax 0)
    heap List.length_replicate List.length_replicate⟩

theorem apexBridgeIoctl_quiet (cmd : BitVec 32) (arg : Nat → Byte) (env : Env) (dev : Dev) :
    Quiet dev (apexBridgeIoctl cmd arg env dev) := by
  obtain ⟨r, hquiet, hr⟩ := apexBridgeIoctl_settled cmd arg env dev
  have hresult : apexBridgeIoctl cmd arg env dev = r := hr env.heap
  rw [hresult]
  exact hquiet

theorem takeResponse_txFifo (r : Received) (dev : Dev) :
    (dev.takeResponse r).txFifo = dev.txFifo := by
  unfold Dev.takeResponse Dev.cacheTelemetry Dev.pushRx
  split_ifs <;> rfl

/-- Nothing goes through the TX FIFO. -/
theorem driverOp_txFifo (op : DriverOp) (env : Env) (dev : Dev) :
    (driverOp op env dev).dev.txFifo = dev.txFifo := by
  cases op with
  | «open» pmGet =>
      rw [driverOp, apexBridgeOpen]
      split_ifs <;> rfl
  | release | sgWorker work => rfl
  | read sawEmpty nonblock waited count =>
      rw [driverOp, apexBridgeRead_dev]
      split <;> rfl
  | write data =>
      rw [driverOp]
      rcases apexBridgeWrite_result data env dev with ⟨ret, hdone⟩ | hsent
      · rw [hdone]
        rfl
      · rw [hsent, writeResult]
        dsimp only
        split
        · exact env.afterXfer_txFifo dev
        · exact env.afterXfer_txFifo dev
  | ioctl cmd arg => exact (apexBridgeIoctl_quiet cmd arg env dev).txFifo
  | rxWork =>
      rw [driverOp, apexRxWorkHandler_eq]
      split
      · cases env.reply frameSizeMax with
        | none => exact env.afterXfer_txFifo dev
        | some r => exact (takeResponse_txFifo r _).trans (env.afterXfer_txFifo dev)
      · rfl

end GhostBlade.Host
