import GhostBlade.Host.Monitor
import GhostBlade.Host.RxStream

/-!
The SPI error account of the driver. `spi_err_count` and `APEX_FLAG_SPI_ERROR`
follow the transfers that the SPI core fails, in whatever operation. Frames that
arrive damaged are in nobody's account: the RX work warns, a write says nothing,
and the requests do not look at what they receive.
-/

namespace GhostBlade.Host

open GhostBlade.Library GhostBlade.Protocol

/-- The account: the number that `spi_errors` shows, and the flag. -/
def Dev.spiAccount (dev : Dev) : BitVec 32 × Bool := (dev.spiErrCount, dev.flags.spiError)

/-- The operation gets to a transfer, which fails. -/
def transferFails (op : DriverOp) (env : Env) (dev : Dev) : Prop :=
  (driverOp op env dev).sent ≠ none ∧ env.spiSync < 0

instance transferFails.decidable (op : DriverOp) (env : Env) (dev : Dev) :
    Decidable (transferFails op env dev) :=
  inferInstanceAs (Decidable (_ ∧ _))

/-- Bytes that start like a frame and are not a valid one. -/
def rejectedFrame (bytes : List Byte) : Bool :=
  bytes.head? = some syncByte ∧ (apexValidateFrame bytes).toOption.isNone

/-- The operation gets to a transfer, which brings such bytes. -/
def frameRejected (op : DriverOp) (env : Env) (dev : Dev) : Bool :=
  match (driverOp op env dev).sent with
  | some tx => ¬ env.spiSync < 0 ∧ rejectedFrame (padTake tx.length env.miso)
  | none => false

section

variable (env : Env) (dev : Dev)

/-- What becomes of the account depends on nothing else of the device. -/
theorem afterSending_spiAccount (sent : Option (List Byte)) :
    (env.afterSending sent dev).spiAccount =
      if sent ≠ none ∧ env.spiSync < 0 then (dev.spiErrCount + 1, true) else dev.spiAccount := by
  unfold Env.afterSending Env.afterXfer
  cases sent with
  | none => simp
  | some tx =>
      by_cases hspi : env.spiSync < 0
      · simp [hspi, Dev.spiAccount]
      · simp [hspi]

theorem takeResponse_spiAccount (r : Received) :
    (dev.takeResponse r).spiAccount = dev.spiAccount := by
  have hcache (payload : List Byte) :
      ((dev.cacheTelemetry payload).pushRx payload).spiAccount = dev.spiAccount := by
    unfold Dev.cacheTelemetry
    dsimp only
    split
    · rfl
    · rfl
  unfold Dev.takeResponse
  split
  · split
    · exact hcache r.payload
    · rfl
  split
  · rfl
  · rfl

/-- The account knows of the operation what `afterSending` says. -/
def Accounts (r : Result) : Prop := r.dev.spiAccount = (env.afterSending r.sent dev).spiAccount

theorem Sends.accounts {env : Env} {dev : Dev} {r : Result} (h : Sends env dev r) :
    Accounts env dev r := by
  obtain ⟨eng, hdev⟩ := h
  unfold Accounts
  rw [hdev, afterSending_spiAccount, afterSending_spiAccount]
  rfl

theorem accounts_silent {r : Result} (hsent : r.sent = none)
    (hdev : r.dev.spiAccount = dev.spiAccount) : Accounts env dev r := by
  unfold Accounts Env.afterSending
  rw [if_pos hsent]
  exact hdev

theorem apexBridgeRead_accounts (sawEmpty nonblock : Bool) (waited : Int) (count : Nat) :
    Accounts env dev (apexBridgeRead sawEmpty nonblock waited count env dev) := by
  unfold apexBridgeRead
  dsimp only
  split
  · exact accounts_silent env dev rfl rfl
  split
  · exact accounts_silent env dev rfl rfl
  split
  · exact accounts_silent env dev rfl rfl
  split
  · exact accounts_silent env dev rfl rfl
  split
  · exact accounts_silent env dev rfl rfl
  · exact accounts_silent env dev rfl rfl

theorem apexBridgeWrite_accounts (data : List Byte) :
    Accounts env dev (apexBridgeWrite data env dev) := by
  rcases apexBridgeWrite_result data env dev with ⟨ret, hdone⟩ | hsent
  · rw [hdone]
    exact accounts_silent env dev rfl rfl
  · rw [hsent]
    unfold Accounts writeResult
    dsimp only
    split
    · rfl
    · rfl

theorem apexRxWorkHandler_accounts : Accounts env dev (apexRxWorkHandler env dev) := by
  rw [apexRxWorkHandler_eq]
  split
  · unfold Accounts
    dsimp only
    split
    · rfl
    · exact takeResponse_spiAccount _ _
  · exact accounts_silent env dev rfl rfl

theorem mcuReset_sent (arg : Nat → Byte) :
    (apexBridgeIoctl apexIocMcuReset arg env dev).sent = none := by
  by_contra hsent
  obtain ⟨_, _, ⟨h, _⟩ | ⟨_, _, h | h | ⟨h, _⟩ | ⟨h, _⟩ | ⟨h, _⟩ | ⟨h, _⟩⟩⟩ :=
    ioctlTransfers_of_sent hsent
  all_goals exact absurd h (by decide)

theorem apexBridgeIoctl_accounts (cmd : BitVec 32) (arg : Nat → Byte) :
    Accounts env dev (apexBridgeIoctl cmd arg env dev) := by
  by_cases hcmd : cmd = apexIocMcuReset
  · rw [hcmd]
    apply accounts_silent env dev (mcuReset_sent env dev arg)
    rw [apexBridgeIoctl_mcuReset]
    split
    · rfl
    · unfold Dev.mcuReset
      split
      · rfl
      · rfl
  · exact (apexBridgeIoctl_sends env dev arg hcmd).accounts

theorem apexBridgeOpen_accounts (pmGet : Int) : Accounts env dev (apexBridgeOpen pmGet dev) := by
  unfold apexBridgeOpen
  split
  · exact accounts_silent env dev rfl rfl
  split
  · exact accounts_silent env dev rfl rfl
  · exact accounts_silent env dev rfl rfl

/-- Every operation enters its failed transfer, and nothing else. -/
theorem driverOp_accounts (op : DriverOp) : Accounts env dev (driverOp op env dev) := by
  cases op with
  | «open» pmGet => exact apexBridgeOpen_accounts env dev pmGet
  | release => exact accounts_silent env dev rfl rfl
  | read sawEmpty nonblock waited count =>
      exact apexBridgeRead_accounts env dev sawEmpty nonblock waited count
  | write data => exact apexBridgeWrite_accounts env dev data
  | ioctl cmd arg => exact apexBridgeIoctl_accounts env dev cmd arg
  | rxWork => exact apexRxWorkHandler_accounts env dev
  | sgWorker work => exact accounts_silent env dev rfl rfl

end

/-- The device, with the numbers of failed transfers and of rejected frames. -/
structure SpiErrors where
  dev : Dev
  failed : Nat
  rejected : Nat

namespace SpiErrors

def start : SpiErrors := ⟨.probed, 0, 0⟩

def step (s : SpiErrors) (e : DriverOp × Env) : SpiErrors where
  dev := driverStep s.dev e
  failed := if transferFails e.1 e.2 s.dev then s.failed + 1 else s.failed
  rejected := if frameRejected e.1 e.2 s.dev then s.rejected + 1 else s.rejected

/-- `spi_errors` shows the number of errors, and the flag whether there were any. -/
structure Exact (s : SpiErrors) : Prop where
  count : s.dev.spiErrCount.toNat = (s.failed + s.rejected) % 2 ^ 32
  flag : s.dev.flags.spiError = true ↔ s.failed + s.rejected ≠ 0

/-- The account is that of the failed transfers, the only errors so far. -/
structure Clean (s : SpiErrors) : Prop where
  rejected : s.rejected = 0
  count : s.dev.spiErrCount = BitVec.ofNat 32 s.failed
  flag : s.dev.flags.spiError = true ↔ s.failed ≠ 0

theorem clean_start : start.Clean where
  rejected := rfl
  count := rfl
  flag := by simp [start, Dev.probed]

variable {s : SpiErrors} {e : DriverOp × Env}

theorem step_failed (h : transferFails e.1 e.2 s.dev) : (s.step e).failed = s.failed + 1 := if_pos h

theorem step_works (h : ¬ transferFails e.1 e.2 s.dev) : (s.step e).failed = s.failed := if_neg h

theorem step_rejected (h : frameRejected e.1 e.2 s.dev = true) :
    (s.step e).rejected = s.rejected + 1 := if_pos h

theorem step_accepted (h : frameRejected e.1 e.2 s.dev = false) :
    (s.step e).rejected = s.rejected := if_neg (by rw [h]; exact Bool.false_ne_true)

/-- What a step does to the account. -/
theorem step_account : (s.step e).dev.spiAccount =
    if transferFails e.1 e.2 s.dev then (s.dev.spiErrCount + 1, true) else s.dev.spiAccount :=
  (driverOp_accounts e.2 s.dev e.1).trans (afterSending_spiAccount e.2 s.dev _)

theorem Clean.exact (h : s.Clean) : s.Exact where
  count := by rw [h.count, h.rejected, BitVec.toNat_ofNat, Nat.add_zero]
  flag := by rw [h.flag, h.rejected, Nat.add_zero]

/-- The account moves with the number of failed transfers. -/
theorem Clean.account (h : s.Clean) :
    (s.step e).dev.spiErrCount = BitVec.ofNat 32 (s.step e).failed ∧
      ((s.step e).dev.flags.spiError = true ↔ (s.step e).failed ≠ 0) := by
  have haccount := step_account (s := s) (e := e)
  by_cases hfails : transferFails e.1 e.2 s.dev
  · rw [if_pos hfails] at haccount
    obtain ⟨hcount, hflag⟩ := Prod.mk.inj haccount
    rw [step_failed hfails, BitVec.ofNat_add, ← h.count]
    exact ⟨hcount, iff_of_true hflag (Nat.succ_ne_zero _)⟩
  · rw [if_neg hfails] at haccount
    obtain ⟨hcount, hflag⟩ := Prod.mk.inj haccount
    rw [step_works hfails, ← h.count, ← h.flag]
    exact ⟨hcount, by rw [← hflag]⟩

theorem Clean.step (h : s.Clean) (he : frameRejected e.1 e.2 s.dev = false) :
    (s.step e).Clean where
  rejected := (step_accepted he).trans h.rejected
  count := h.account.1
  flag := h.account.2

/-- A rejected frame is an error that the account does not know. -/
theorem Clean.accepted (h : s.Clean) (hnext : (s.step e).Exact) :
    frameRejected e.1 e.2 s.dev = false := by
  by_contra hno
  have hrejects : frameRejected e.1 e.2 s.dev = true := by simpa using hno
  have hrejected : (s.step e).rejected = 1 := by rw [step_rejected hrejects, h.rejected]
  have hcount := hnext.count
  rw [h.account.1, hrejected, BitVec.toNat_ofNat] at hcount
  omega

end SpiErrors

/-- In every run of the driver: the number that `spi_errors` shows and the flag are
those of all errors exactly when no transfer brings a frame that is rejected. -/
theorem spi_errors_exact_iff (es : List (DriverOp × Env)) :
    (∀ us, us <+: es → (run SpiErrors.step .start us).Exact) ↔
      Along SpiErrors.step (fun s e => frameRejected e.1 e.2 s.dev = false) .start es :=
  property_iff_along (I := SpiErrors.Clean) (fun _ h => h.exact) (fun _ _ h he => h.step he)
    (fun _ _ h hnext => h.accepted hnext) SpiErrors.clean_start es

/-- Telemetry whose payload checksum has not survived. -/
def damagedTelemetry : List Byte := rawFrame apexCmdTelemetry (List.replicate 16 0) 0 0

/-- The RX work gets a damaged frame: one error, and the account stays empty. -/
theorem damaged_frame_uncounted :
    let s := SpiErrors.start.step (.rxWork, .ok damagedTelemetry)
    s.failed = 0 ∧ s.rejected = 1 ∧ s.dev.spiAccount = (0, false) ∧ ¬ s.Exact := by
  let e : DriverOp × Env := (.rxWork, .ok damagedTelemetry)
  have hsent : (driverOp e.1 e.2 .probed).sent = some (rxWorkTx e.2) := by
    rw [driverOp, apexRxWorkHandler_eq, if_pos ⟨rfl, rfl⟩]
  have hspi : ¬ e.2.spiSync < 0 := show ¬ (0 : Int) < 0 by decide
  have hdamaged : rejectedFrame (padTake frameSizeMax damagedTelemetry) = true := by
    decide +kernel
  have hrejects : frameRejected e.1 e.2 .probed = true := by
    unfold frameRejected
    rw [hsent]
    dsimp only
    rw [rxWorkTx_length]
    exact decide_eq_true ⟨hspi, hdamaged⟩
  have hworks : ¬ transferFails e.1 e.2 SpiErrors.start.dev := fun h => hspi h.2
  have hfailed : (SpiErrors.start.step e).failed = 0 := SpiErrors.step_works hworks
  have hrejected : (SpiErrors.start.step e).rejected = 1 :=
    SpiErrors.step_rejected (s := .start) (e := e) hrejects
  have haccount := SpiErrors.step_account (s := .start) (e := e)
  rw [if_neg hworks] at haccount
  have hcount : (SpiErrors.start.step e).dev.spiErrCount = 0 := (Prod.mk.inj haccount).1
  refine ⟨hfailed, hrejected, haccount, ?_⟩
  intro hexact
  have hshown := hexact.count
  rw [hfailed, hrejected, hcount] at hshown
  exact absurd hshown (by decide)

end GhostBlade.Host
