import GhostBlade.Host.SgSystem

/-!
What the driver's operations ask of the MCU: the command and the payload of the
frame behind each of them. Operations that give up before their transfer ask for
nothing; those that get there hand over one whole frame, with the RX work adding
what its buffer holds behind it.
-/

namespace GhostBlade.Host

open GhostBlade.Library GhostBlade.Protocol

instance ioctlTransfers.decidable (cmd : BitVec 32) (arg : Nat → Byte) (env : Env) (dev : Dev) :
    Decidable (ioctlTransfers cmd arg env dev) :=
  inferInstanceAs (Decidable (_ ∧ _ ∧ (_ ∨ _)))

/-- The command behind a request number that transfers. -/
def ioctlRequest (cmd : BitVec 32) (arg : Nat → Byte) : Byte × List Byte :=
  if cmd = apexIocSdrTune then (apexCmdSdrTune, memBytes arg 8)
  else if cmd = apexIocSdrStream then (apexCmdSdrStream, memBytes arg 1)
  else if cmd = apexIocAntSelect then (apexCmdAntSelect, memBytes arg 1)
  else if cmd = apexIocCc1101Cfg then (apexCmdCc1101Cfg, memBytes arg (2 + (arg 1).toNat))
  else if cmd = apexIocNfcTransact then
    (apexCmdNfcTransact, memBytes arg (4 + leValue [arg 2, arg 3]))
  else if cmd = apexIocSgStart then (apexCmdSdrStream, [1])
  else (apexCmdSdrStream, [0])

/-- The command an operation asks for. -/
def requested (op : DriverOp) (env : Env) (dev : Dev) : Option (Byte × List Byte) :=
  match op with
  | .write data => if writeTransfers data env then some (data.getD 0 0, data.drop 1) else none
  | .ioctl cmd arg => if ioctlTransfers cmd arg env dev then some (ioctlRequest cmd arg) else none
  | .rxWork => if env.allocOk 0 = true ∧ env.allocOk 1 = true then some (apexCmdNop, []) else none
  | .open _ | .release | .read _ _ _ _ | .sgWorker _ => none

/-- What goes out behind the frame. -/
def trailing (op : DriverOp) (env : Env) : List Byte :=
  match op with
  | .rxWork => (memBytes (env.heap 1) frameSizeMax).drop 20
  | _ => []

section

variable {arg : Nat → Byte} {frame rxBuf : List Byte} {env : Env} {dev : Dev}

/-- A request that is built and transferred. -/
theorem buildAndXfer_sent (cmd : Byte) {payload : List Byte} (hlen : payload.length ≤ maxPayload)
    (hframe : frame.length = frameSizeMax) (hrx : rxBuf.length = frameSizeMax) :
    (buildAndXfer cmd payload frame rxBuf env dev).sent = some (encode cmd payload) := by
  rw [buildAndXfer_eq cmd payload frame rxBuf env dev hlen hframe hrx]
  rfl

theorem sgSendStream_encode (enable : Byte) {k : Nat} (hk : env.allocOk k = true)
    (hk' : env.allocOk (k + 1) = true) :
    (sgSendStream enable k env dev).2 = some (encode apexCmdSdrStream [enable]) := by
  have hlen : [enable].length ≤ maxPayload := by simp [maxPayload]
  obtain ⟨hret, htake⟩ := buildFrame_take apexCmdSdrStream [enable]
    (memBytes (env.heap k) frameSizeMax) hlen (memBytes_length _ _)
  obtain ⟨-, -, hsent⟩ := apexSpiXfer_eq (encode apexCmdSdrStream [enable])
    (memBytes (env.heap (k + 1)) frameSizeMax) env dev (encode_fits _ _ hlen) (memBytes_length _ _)
  have hpos : ((20 + [enable].length : Nat) : Int) > 0 := by simp
  simp only [sgSendStream, Env.kmalloc, hk, hk', if_true, hret, if_pos hpos, Int.toNat_natCast,
    htake, hsent]

theorem apexSgEngineStart_encode {config : SgConfig} (hvalid : config.Valid)
    (hidle : dev.sgEngine.state = .idle)
    (hallocs : ∀ k < 6 + config.bufCount.toNat, env.allocOk k = true) :
    (apexSgEngineStart config env dev).sent = some (encode apexCmdSdrStream [1]) := by
  obtain ⟨hmin, hmax, hsmall, hlarge, hquad⟩ := hvalid
  have hbufs : ((List.range config.bufCount.toNat).all fun i => env.allocOk (4 + i)) = true := by
    rw [List.all_eq_true]
    intro i hi
    exact hallocs _ (by have := List.mem_range.mp hi; omega)
  unfold apexSgEngineStart
  rw [if_neg (by omega), if_neg (by omega), if_neg (by omega), if_neg (not_not.mpr hidle),
    if_neg (by simp [hallocs 2 (by omega)]), if_neg (by simp [hallocs 3 (by omega)]),
    if_neg (by simp [hbufs])]
  exact sgSendStream_encode 1 (hallocs _ (by omega)) (hallocs _ (by omega))

theorem apexSgEngineStop_encode (hbusy : dev.sgEngine.state ≠ .idle)
    (h2 : env.allocOk 2 = true) (h3 : env.allocOk 3 = true) :
    (apexSgEngineStop env dev).sent = some (encode apexCmdSdrStream [0]) := by
  unfold apexSgEngineStop
  rw [if_neg hbusy]
  exact sgSendStream_encode 0 h2 h3

end

section

variable {arg : Nat → Byte} {env : Env} {dev : Dev}

/-- The checks before the switch, for a request number of the driver. -/
theorem apexBridgeIoctl_checked {cmd : BitVec 32} (hmagic : (cmd >>> 8) &&& 0xFF#32 = 0x41#32)
    (hnr : 1 ≤ (cmd &&& 0xFF#32).toNat ∧ (cmd &&& 0xFF#32).toNat ≤ 11)
    (haccess : cmd >>> 30 = 0#32 ∨ env.accessOk = true) (h0 : env.allocOk 0 = true)
    (h1 : env.allocOk 1 = true) :
    apexBridgeIoctl cmd arg env dev =
      ioctlSwitch cmd arg (memBytes (env.heap 0) frameSizeMax)
        (memBytes (env.heap 1) frameSizeMax) env dev := by
  have hpass (dir : Nat) :
      ¬ ((cmd >>> 30).toNat &&& dir ≠ 0 ∧ env.accessOk = false) := by
    rintro ⟨hdir, hdenied⟩
    rcases haccess with hnone | hok
    · rw [hnone] at hdir
      exact hdir (Nat.zero_and dir)
    · rw [hok] at hdenied
      cases hdenied
  unfold apexBridgeIoctl Env.kmalloc
  rw [if_neg (not_not.mpr hmagic), if_neg (by omega), if_neg (hpass _), if_neg (hpass _)]
  simp only [h0, h1, if_true]

/-- A request that passes its tests hands over its frame. -/
theorem ioctl_encode {cmd : BitVec 32} (h : ioctlTransfers cmd arg env dev) :
    (apexBridgeIoctl cmd arg env dev).sent =
      some (encode (ioctlRequest cmd arg).1 (ioctlRequest cmd arg).2) := by
  obtain ⟨h0, h1, ⟨rfl, hbusy, h2, h3⟩ | ⟨haccess, hcopy, hcmd⟩⟩ := h
  · rw [apexBridgeIoctl_checked (by decide) (by decide) (.inl (by decide)) h0 h1]
    exact apexSgEngineStop_encode hbusy h2 h3
  have hcopied : ¬ env.userCopy 0 = false := by simp [hcopy]
  obtain rfl | rfl | ⟨rfl, hant⟩ | ⟨rfl, hpos, hmax, h2, hregs⟩ | ⟨rfl, hmax, h2, hdata⟩ |
    ⟨rfl, hvalid, hidle, hallocs⟩ := hcmd
  all_goals rw [apexBridgeIoctl_checked (by decide) (by decide) (.inr haccess) h0 h1]
  · change (ioctlSdrTune arg _ _ env dev).sent = _
    rw [ioctlSdrTune, if_neg hcopied]
    exact buildAndXfer_sent _ (by simp [maxPayload]) (memBytes_length _ _) (memBytes_length _ _)
  · change (ioctlSdrStream arg _ _ env dev).sent = _
    rw [ioctlSdrStream, if_neg hcopied]
    exact buildAndXfer_sent _ (by simp [maxPayload]) (memBytes_length _ _) (memBytes_length _ _)
  · change (ioctlAntSelect arg _ _ env dev).sent = _
    rw [ioctlAntSelect, if_neg hcopied, if_neg (by omega)]
    exact buildAndXfer_sent _ (by simp [maxPayload]) (memBytes_length _ _) (memBytes_length _ _)
  · have hlimit : apexCc1101MaxRegLen = 64 := rfl
    change (ioctlCc1101Cfg arg _ _ env dev).sent = _
    rw [ioctlCc1101Cfg, if_neg hcopied]
    dsimp only
    rw [if_neg (by omega), if_neg (by simp [h2]), if_neg (by simp [hregs])]
    refine buildAndXfer_sent _ ?_ (memBytes_length _ _) (memBytes_length _ _)
    rw [memBytes_length, maxPayload]
    omega
  · have hlimit : apexNfcMaxDataLen = 256 := rfl
    have hcopied' : ¬ (leValue [arg 2, arg 3] > 0 ∧ env.userCopy 1 = false) := by
      rintro ⟨hsome, hfailed⟩
      rcases hdata with hnone | hok
      · omega
      · rw [hok] at hfailed
        cases hfailed
    change (ioctlNfcTransact arg _ _ env dev).sent = _
    rw [ioctlNfcTransact, if_neg hcopied]
    dsimp only
    rw [if_neg (by omega), if_neg (by simp [h2]), if_neg hcopied']
    refine buildAndXfer_sent _ ?_ (memBytes_length _ _) (memBytes_length _ _)
    rw [memBytes_length, maxPayload]
    omega
  · change (if env.userCopy 0 = false then _ else
      apexSgEngineStart (SgConfig.ofUser arg) env dev).sent = _
    rw [if_neg hcopied]
    exact apexSgEngineStart_encode hvalid hidle hallocs

end

/-- Every operation hands over the frame of the command it asks for, or nothing. -/
theorem driverOp_sent (op : DriverOp) (env : Env) (dev : Dev) :
    (driverOp op env dev).sent =
      (requested op env dev).map fun r => encode r.1 r.2 ++ trailing op env := by
  cases op with
  | «open» pmGet =>
      unfold driverOp apexBridgeOpen
      dsimp only
      split_ifs <;> rfl
  | release => rfl
  | sgWorker work => rfl
  | read sawEmpty nonblock waited count =>
      unfold driverOp apexBridgeRead Env.kmalloc
      dsimp only
      split_ifs <;> rfl
  | rxWork =>
      unfold driverOp requested
      dsimp only
      rw [apexRxWorkHandler_eq]
      split_ifs <;> rfl
  | write data =>
      unfold driverOp requested apexBridgeWrite
      dsimp only
      split_ifs with htransfers
      · rw [writeXfer_ok dev htransfers]
        have hfit := encode_fits (data.getD 0 0) (data.drop 1)
          (by rw [List.length_drop]; have := htransfers.2.1; omega)
        obtain ⟨-, -, hsent⟩ := apexSpiXfer_eq (encode (data.getD 0 0) (data.drop 1))
          (memBytes (env.heap 2) frameSizeMax) env dev hfit (memBytes_length _ _)
        exact hsent.trans (congrArg some (List.append_nil _).symm)
      · cases hxfer : writeXfer data env dev with
        | error ret => rfl
        | ok x => exact absurd (writeTransfers_of_ok hxfer) htransfers
  | ioctl cmd arg =>
      unfold driverOp requested
      dsimp only
      split_ifs with htransfers
      · exact (ioctl_encode htransfers).trans (congrArg some (List.append_nil _).symm)
      · by_contra hsome
        exact htransfers (ioctlTransfers_of_sent hsome)

/-- Whatever is asked for fits into a frame. -/
theorem requested_length {op : DriverOp} {env : Env} {dev : Dev} {r : Byte × List Byte}
    (h : requested op env dev = some r) : r.2.length ≤ maxPayload := by
  have hlimit : maxPayload = 4092 := rfl
  unfold requested at h
  split at h
  · split_ifs at h with htransfers
    obtain rfl := Option.some.inj h
    have hmax := htransfers.2.1
    rw [List.length_drop]
    omega
  next cmd arg =>
    split_ifs at h with htransfers
    obtain rfl := Option.some.inj h
    have hquiet := (apexBridgeIoctl_quiet cmd arg env dev).sent _ (ioctl_encode htransfers)
    obtain ⟨cmd', payload, hlen, heq⟩ := hquiet
    have hlength := congrArg List.length heq
    rw [encode_length, encode_length] at hlength
    omega
  · split_ifs at h
    obtain rfl := Option.some.inj h
    exact Nat.zero_le _
  all_goals cases h

end GhostBlade.Host
