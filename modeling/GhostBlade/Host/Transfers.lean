import GhostBlade.Host.Operations

/-!
Which writes and requests get to their transfer, in terms of the arguments, the
allocations and the user copies alone, and what a request can change: beside a
failed transfer, which is counted, only the scatter-gather engine.
-/

namespace GhostBlade.Host

open GhostBlade.Library GhostBlade.Protocol

/-- A write that gets to its transfer. -/
def writeTransfers (data : List Byte) (env : Env) : Prop :=
  0 < data.length ∧ data.length ≤ maxPayload ∧ env.allocOk 0 = true ∧ env.userCopy 0 = true ∧
    env.allocOk 1 = true ∧ env.allocOk 2 = true

instance writeTransfers.decidable (data : List Byte) (env : Env) :
    Decidable (writeTransfers data env) :=
  inferInstanceAs (Decidable (_ ∧ _))

theorem writeTransfers_of_ok {data : List Byte} {env : Env} {dev : Dev} {x : Xfer}
    (h : writeXfer data env dev = .ok x) : writeTransfers data env := by
  unfold writeXfer Env.kmalloc at h
  split at h
  · cases h
  next hshort =>
  split at h
  · cases h
  next hlong =>
  split at h
  · cases h
  next h0 =>
  split at h
  · cases h
  next hcopy =>
  cases h1 : env.allocOk 1 with
  | false =>
      rw [h1] at h
      cases h
  | true =>
    cases h2 : env.allocOk 2 with
    | false =>
        rw [h1, h2] at h
        cases h
    | true =>
        exact ⟨by omega, by omega, by simpa using h0, by simpa using hcopy, h1, h2⟩

/-- A write that passes its checks gets to its transfer. -/
theorem writeXfer_ok {data : List Byte} {env : Env} (dev : Dev) (h : writeTransfers data env) :
    writeXfer data env dev = .ok (apexSpiXfer (encode (data.getD 0 0) (data.drop 1))
      (memBytes (env.heap 2) frameSizeMax) env dev) := by
  obtain ⟨hpos, hmax, h0, hcopy, h1, h2⟩ := h
  have hfit : (data.drop 1).length ≤ maxPayload := by
    rw [List.length_drop]
    omega
  obtain ⟨hret, htake⟩ := buildFrame_take (data.getD 0 0) (data.drop 1)
    (memBytes (env.heap 1) frameSizeMax) hfit (memBytes_length _ _)
  have hbuilt : ¬ (((20 + (data.drop 1).length : Nat) : Int) < 0) := by omega
  have hshort : ¬ data.length < 1 := by omega
  have hlong : ¬ data.length > maxPayload := by omega
  simp only [writeXfer, if_neg hshort, if_neg hlong, h0, hcopy, Bool.true_eq_false, if_false,
    Env.kmalloc, h1, h2, if_true, hret, if_neg hbuilt, Int.toNat_natCast, htake]

/-- A configuration that `apex_sg_engine_start` accepts. -/
def SgConfig.Valid (config : SgConfig) : Prop :=
  2 ≤ config.bufCount.toNat ∧ config.bufCount.toNat ≤ 64 ∧ 4096 ≤ config.bufSize.toNat ∧
    config.bufSize.toNat ≤ 262144 ∧ config.bufSize.toNat % 4 = 0

/-- A request that gets to its transfer. -/
def ioctlTransfers (cmd : BitVec 32) (arg : Nat → Byte) (env : Env) (dev : Dev) : Prop :=
  env.allocOk 0 = true ∧ env.allocOk 1 = true ∧
    (cmd = apexIocSgStop ∧ dev.sgEngine.state ≠ .idle ∧ env.allocOk 2 = true ∧
        env.allocOk 3 = true ∨
      env.accessOk = true ∧ env.userCopy 0 = true ∧
        (cmd = apexIocSdrTune ∨ cmd = apexIocSdrStream ∨
          cmd = apexIocAntSelect ∧ (arg 0).toNat ≤ apexAntTerminated ∨
          cmd = apexIocCc1101Cfg ∧ 0 < (arg 1).toNat ∧ (arg 1).toNat ≤ apexCc1101MaxRegLen ∧
            env.allocOk 2 = true ∧ env.userCopy 1 = true ∨
          cmd = apexIocNfcTransact ∧ leValue [arg 2, arg 3] ≤ apexNfcMaxDataLen ∧
            env.allocOk 2 = true ∧ (leValue [arg 2, arg 3] = 0 ∨ env.userCopy 1 = true) ∨
          cmd = apexIocSgStart ∧ (SgConfig.ofUser arg).Valid ∧ dev.sgEngine.state = .idle ∧
            ∀ k < 6 + (SgConfig.ofUser arg).bufCount.toNat, env.allocOk k = true))

theorem ite_sent {c : Prop} [Decidable c] {r r' : Result} (h : (if c then r else r').sent ≠ none) :
    c ∧ r.sent ≠ none ∨ ¬ c ∧ r'.sent ≠ none := by
  by_cases hc : c
  · exact .inl ⟨hc, by rwa [if_pos hc] at h⟩
  · exact .inr ⟨hc, by rwa [if_neg hc] at h⟩

/-- A request that gets past a test behind which it gives up. -/
theorem done_sent {c : Prop} [Decidable c] {ret : Int} {dev : Dev} {r : Result}
    (h : (if c then .done dev ret else r).sent ≠ none) : ¬ c ∧ r.sent ≠ none := by
  rcases ite_sent h with ⟨_, hnone⟩ | hnext
  · exact absurd rfl hnone
  · exact hnext

theorem userCopy_sent {k : Nat} {env : Env} {ret : Int} {dev : Dev} {r : Result}
    (h : (if env.userCopy k = false then .done dev ret else r).sent ≠ none) :
    env.userCopy k = true ∧ r.sent ≠ none := by
  obtain ⟨hcopy, hnext⟩ := done_sent h
  exact ⟨by simpa using hcopy, hnext⟩

theorem allocOk_sent {k : Nat} {env : Env} {ret : Int} {dev : Dev} {r : Result}
    (h : (if env.allocOk k = false then .done dev ret else r).sent ≠ none) :
    env.allocOk k = true ∧ r.sent ≠ none := by
  obtain ⟨halloc, hnext⟩ := done_sent h
  exact ⟨by simpa using halloc, hnext⟩

section

variable {arg : Nat → Byte} {frame rxBuf : List Byte} {env : Env} {dev : Dev}

theorem ioctlSdrTune_sent (h : (ioctlSdrTune arg frame rxBuf env dev).sent ≠ none) :
    env.userCopy 0 = true :=
  (userCopy_sent h).1

theorem ioctlSdrStream_sent (h : (ioctlSdrStream arg frame rxBuf env dev).sent ≠ none) :
    env.userCopy 0 = true :=
  (userCopy_sent h).1

theorem ioctlAntSelect_sent (h : (ioctlAntSelect arg frame rxBuf env dev).sent ≠ none) :
    env.userCopy 0 = true ∧ (arg 0).toNat ≤ apexAntTerminated := by
  obtain ⟨hcopy, h⟩ := userCopy_sent h
  obtain ⟨harg, _⟩ := done_sent h
  exact ⟨hcopy, by omega⟩

theorem ioctlCc1101Cfg_sent (h : (ioctlCc1101Cfg arg frame rxBuf env dev).sent ≠ none) :
    env.userCopy 0 = true ∧ 0 < (arg 1).toNat ∧ (arg 1).toNat ≤ apexCc1101MaxRegLen ∧
      env.allocOk 2 = true ∧ env.userCopy 1 = true := by
  obtain ⟨hcopy, h⟩ := userCopy_sent h
  obtain ⟨hlen, h⟩ := done_sent h
  obtain ⟨halloc, h⟩ := allocOk_sent h
  obtain ⟨hregs, _⟩ := userCopy_sent h
  exact ⟨hcopy, by omega, by omega, halloc, hregs⟩

theorem ioctlNfcTransact_sent (h : (ioctlNfcTransact arg frame rxBuf env dev).sent ≠ none) :
    env.userCopy 0 = true ∧ leValue [arg 2, arg 3] ≤ apexNfcMaxDataLen ∧ env.allocOk 2 = true ∧
      (leValue [arg 2, arg 3] = 0 ∨ env.userCopy 1 = true) := by
  obtain ⟨hcopy, h⟩ := userCopy_sent h
  obtain ⟨hlen, h⟩ := done_sent h
  obtain ⟨halloc, h⟩ := allocOk_sent h
  obtain ⟨hdata, _⟩ := done_sent h
  refine ⟨hcopy, by omega, halloc, ?_⟩
  rcases Nat.eq_zero_or_pos (leValue [arg 2, arg 3]) with hzero | hpos
  · exact .inl hzero
  · exact .inr (by simpa using fun hno => hdata ⟨hpos, hno⟩)

theorem ioctlMcuReset_sent : (ioctlMcuReset arg env dev).sent = none := by
  unfold ioctlMcuReset
  split
  · rfl
  · split <;> rfl

theorem copyOut_sent (bytes : List Byte) : (copyOut bytes env dev).sent = none := by
  unfold copyOut
  split <;> rfl

theorem sgSendStream_sent {enable : Byte} {k : Nat}
    (h : (sgSendStream enable k env dev).2 ≠ none) :
    env.allocOk k = true ∧ env.allocOk (k + 1) = true := by
  unfold sgSendStream Env.kmalloc at h
  cases hk : env.allocOk k <;> cases hk1 : env.allocOk (k + 1)
  · simp [hk, hk1] at h
  · simp [hk, hk1] at h
  · simp [hk, hk1] at h
  · exact ⟨rfl, rfl⟩

theorem apexSgEngineStart_sent {config : SgConfig}
    (h : (apexSgEngineStart config env dev).sent ≠ none) :
    config.Valid ∧ dev.sgEngine.state = .idle ∧
      ∀ k, 2 ≤ k → k < 6 + config.bufCount.toNat → env.allocOk k = true := by
  obtain ⟨hcount, h⟩ := done_sent h
  obtain ⟨hsize, h⟩ := done_sent h
  obtain ⟨haligned, h⟩ := done_sent h
  obtain ⟨hidle, h⟩ := done_sent h
  obtain ⟨h2, h⟩ := allocOk_sent h
  obtain ⟨h3, h⟩ := allocOk_sent h
  obtain ⟨hbufs, h⟩ := done_sent h
  obtain ⟨hframe, hrx⟩ := sgSendStream_sent h
  refine ⟨⟨by omega, by omega, by omega, by omega, by omega⟩, by simpa using hidle, ?_⟩
  intro k hlow hhigh
  have hall : ∀ i < config.bufCount.toNat, env.allocOk (4 + i) = true := by
    simpa using hbufs
  rcases Nat.lt_or_ge k 4 with hk | hk
  · obtain rfl | rfl : k = 2 ∨ k = 3 := by omega
    · exact h2
    · exact h3
  rcases Nat.lt_or_ge k (4 + config.bufCount.toNat) with hbuf | hbehind
  · rw [show k = 4 + (k - 4) by omega]
    exact hall (k - 4) (by omega)
  · obtain rfl | rfl : k = 4 + config.bufCount.toNat ∨ k = 4 + config.bufCount.toNat + 1 := by
      omega
    · exact hframe
    · exact hrx

theorem apexSgEngineStop_sent (h : (apexSgEngineStop env dev).sent ≠ none) :
    dev.sgEngine.state ≠ .idle ∧ env.allocOk 2 = true ∧ env.allocOk 3 = true := by
  obtain ⟨hbusy, h⟩ := done_sent h
  exact ⟨hbusy, sgSendStream_sent h⟩

theorem ioctlSwitch_sent {cmd : BitVec 32}
    (h : (ioctlSwitch cmd arg frame rxBuf env dev).sent ≠ none)
    (haccess : (cmd >>> 30).toNat &&& iocWrite ≠ 0 → env.accessOk = true)
    (h0 : env.allocOk 0 = true) (h1 : env.allocOk 1 = true) :
    ioctlTransfers cmd arg env dev := by
  unfold ioctlSwitch at h
  refine ⟨h0, h1, ?_⟩
  rcases ite_sent h with ⟨hcmd, h⟩ | ⟨_, h⟩
  · exact .inr ⟨haccess (by rw [hcmd]; decide), ioctlSdrTune_sent h, .inl hcmd⟩
  rcases ite_sent h with ⟨hcmd, h⟩ | ⟨_, h⟩
  · exact .inr ⟨haccess (by rw [hcmd]; decide), ioctlSdrStream_sent h, .inr (.inl hcmd)⟩
  rcases ite_sent h with ⟨hcmd, h⟩ | ⟨_, h⟩
  · obtain ⟨hcopy, harg⟩ := ioctlAntSelect_sent h
    exact .inr ⟨haccess (by rw [hcmd]; decide), hcopy, .inr (.inr (.inl ⟨hcmd, harg⟩))⟩
  rcases ite_sent h with ⟨hcmd, h⟩ | ⟨_, h⟩
  · obtain ⟨hcopy, hregs⟩ := ioctlCc1101Cfg_sent h
    exact .inr ⟨haccess (by rw [hcmd]; decide), hcopy, .inr (.inr (.inr (.inl ⟨hcmd, hregs⟩)))⟩
  rcases ite_sent h with ⟨hcmd, h⟩ | ⟨_, h⟩
  · obtain ⟨hcopy, hdata⟩ := ioctlNfcTransact_sent h
    exact .inr ⟨haccess (by rw [hcmd]; decide), hcopy,
      .inr (.inr (.inr (.inr (.inl ⟨hcmd, hdata⟩))))⟩
  rcases ite_sent h with ⟨_, h⟩ | ⟨_, h⟩
  · exact absurd (copyOut_sent _) h
  rcases ite_sent h with ⟨_, h⟩ | ⟨_, h⟩
  · exact absurd ioctlMcuReset_sent h
  rcases ite_sent h with ⟨_, h⟩ | ⟨_, h⟩
  · exact absurd (copyOut_sent _) h
  rcases ite_sent h with ⟨hcmd, h⟩ | ⟨_, h⟩
  · obtain ⟨hcopy, h⟩ := userCopy_sent h
    obtain ⟨hvalid, hidle, hallocs⟩ := apexSgEngineStart_sent h
    refine .inr ⟨haccess (by rw [hcmd]; decide), hcopy,
      .inr (.inr (.inr (.inr (.inr ⟨hcmd, hvalid, hidle, ?_⟩))))⟩
    intro k hk
    rcases Nat.lt_or_ge k 2 with hlow | hlow
    · obtain rfl | rfl : k = 0 ∨ k = 1 := by omega
      · exact h0
      · exact h1
    · exact hallocs k hlow hk
  rcases ite_sent h with ⟨hcmd, h⟩ | ⟨_, h⟩
  · exact .inl ⟨hcmd, apexSgEngineStop_sent h⟩
  rcases ite_sent h with ⟨_, h⟩ | ⟨_, h⟩
  · exact absurd (copyOut_sent _) h
  · exact absurd rfl h

theorem ioctlTransfers_of_sent {cmd : BitVec 32}
    (h : (apexBridgeIoctl cmd arg env dev).sent ≠ none) : ioctlTransfers cmd arg env dev := by
  unfold apexBridgeIoctl Env.kmalloc at h
  obtain ⟨_, h⟩ := done_sent h
  obtain ⟨_, h⟩ := done_sent h
  obtain ⟨hwrite, h⟩ := done_sent h
  obtain ⟨_, h⟩ := done_sent h
  cases h0 : env.allocOk 0 with
  | false => simp [h0, Result.done] at h
  | true =>
    cases h1 : env.allocOk 1 with
    | false => simp [h0, h1, Result.done] at h
    | true =>
        simp only [h0, h1, if_true] at h
        refine ioctlSwitch_sent h ?_ h0 h1
        intro hdir
        simpa using fun hno => hwrite ⟨hdir, hno⟩

end

/-! ### What a request does to the device -/

/-- The device behind an operation that sent these bytes, or none. -/
def Env.afterSending (env : Env) (sent : Option (List Byte)) (dev : Dev) : Dev :=
  if sent = none then dev else env.afterXfer dev

/-- Beside a failed transfer, which it counts, the request changes at most the
scatter-gather engine. -/
def Sends (env : Env) (dev : Dev) (r : Result) : Prop :=
  ∃ eng, r.dev = env.afterSending r.sent { dev with sgEngine := eng }

section

variable {env : Env} {dev : Dev}

theorem Sends.done (ret : Int) (out : List Byte) : Sends env dev ⟨dev, ret, none, out⟩ :=
  ⟨dev.sgEngine, rfl⟩

theorem Sends.ite {c : Prop} [Decidable c] {r r' : Result} (h : c → Sends env dev r)
    (h' : ¬ c → Sends env dev r') : Sends env dev (if c then r else r') := by
  split
  next hc => exact h hc
  next hc => exact h' hc

/-- A request that gives up when a test fails. -/
theorem Sends.check {c : Prop} [Decidable c] {ret : Int} {r : Result}
    (h : ¬ c → Sends env dev r) : Sends env dev (if c then .done dev ret else r) :=
  .ite (fun _ => .done ret []) h

end

section

variable (env : Env) (dev : Dev)

theorem apexSpiXfer_afterSending (tx rxBuf : List Byte) :
    (apexSpiXfer tx rxBuf env dev).dev =
      env.afterSending (apexSpiXfer tx rxBuf env dev).sent dev := by
  unfold apexSpiXfer Env.afterSending Env.afterXfer
  split
  · rfl
  split
  · rfl
  · rfl

theorem buildAndXfer_sends (cmd : Byte) (payload frame rxBuf : List Byte) :
    Sends env dev (buildAndXfer cmd payload frame rxBuf env dev) := by
  unfold buildAndXfer
  dsimp only
  apply Sends.check
  intro _
  exact ⟨dev.sgEngine, apexSpiXfer_afterSending env dev _ rxBuf⟩

theorem sgSendStream_afterSending (enable : Byte) (k : Nat) :
    (sgSendStream enable k env dev).1 =
      env.afterSending (sgSendStream enable k env dev).2 dev := by
  unfold sgSendStream
  split
  · dsimp only
    split
    · exact apexSpiXfer_afterSending env dev _ _
    · rfl
  · rfl

theorem apexSgEngineStart_sends (config : SgConfig) :
    Sends env dev (apexSgEngineStart config env dev) := by
  unfold apexSgEngineStart
  refine .check fun _ => .check fun _ => .check fun _ => .check fun _ => .check fun _ =>
    .check fun _ => .check fun _ => ?_
  exact ⟨_, sgSendStream_afterSending env _ 1 _⟩

theorem apexSgEngineStop_sends : Sends env dev (apexSgEngineStop env dev) := by
  unfold apexSgEngineStop
  apply Sends.check
  intro _
  exact ⟨_, sgSendStream_afterSending env _ 0 2⟩

theorem copyOut_sends (bytes : List Byte) : Sends env dev (copyOut bytes env dev) :=
  .check fun _ => .done 0 bytes

section

variable (arg : Nat → Byte) (frame rxBuf : List Byte)

theorem ioctlSdrTune_sends : Sends env dev (ioctlSdrTune arg frame rxBuf env dev) :=
  .check fun _ => buildAndXfer_sends env dev _ _ frame rxBuf

theorem ioctlSdrStream_sends : Sends env dev (ioctlSdrStream arg frame rxBuf env dev) :=
  .check fun _ => buildAndXfer_sends env dev _ _ frame rxBuf

theorem ioctlAntSelect_sends : Sends env dev (ioctlAntSelect arg frame rxBuf env dev) :=
  .check fun _ => .check fun _ => buildAndXfer_sends env dev _ _ frame rxBuf

theorem ioctlCc1101Cfg_sends : Sends env dev (ioctlCc1101Cfg arg frame rxBuf env dev) :=
  .check fun _ => .check fun _ => .check fun _ => .check fun _ =>
    buildAndXfer_sends env dev _ _ frame rxBuf

theorem ioctlNfcTransact_sends : Sends env dev (ioctlNfcTransact arg frame rxBuf env dev) :=
  .check fun _ => .check fun _ => .check fun _ => .check fun _ =>
    buildAndXfer_sends env dev _ _ frame rxBuf

/-- Every request but the reset request. -/
theorem ioctlSwitch_sends {cmd : BitVec 32} (hcmd : cmd ≠ apexIocMcuReset) :
    Sends env dev (ioctlSwitch cmd arg frame rxBuf env dev) := by
  unfold ioctlSwitch
  apply Sends.ite (fun _ => ioctlSdrTune_sends env dev arg frame rxBuf)
  intro _
  apply Sends.ite (fun _ => ioctlSdrStream_sends env dev arg frame rxBuf)
  intro _
  apply Sends.ite (fun _ => ioctlAntSelect_sends env dev arg frame rxBuf)
  intro _
  apply Sends.ite (fun _ => ioctlCc1101Cfg_sends env dev arg frame rxBuf)
  intro _
  apply Sends.ite (fun _ => ioctlNfcTransact_sends env dev arg frame rxBuf)
  intro _
  apply Sends.ite (fun _ => copyOut_sends env dev _)
  intro _
  apply Sends.ite (fun hreset => absurd hreset hcmd)
  intro _
  apply Sends.ite (fun _ => copyOut_sends env dev _)
  intro _
  apply Sends.ite (fun _ => .check fun _ => apexSgEngineStart_sends env dev _)
  intro _
  apply Sends.ite (fun _ => apexSgEngineStop_sends env dev)
  intro _
  exact .ite (fun _ => copyOut_sends env dev _) (fun _ => .done _ [])

theorem apexBridgeIoctl_sends {cmd : BitVec 32} (hcmd : cmd ≠ apexIocMcuReset) :
    Sends env dev (apexBridgeIoctl cmd arg env dev) := by
  unfold apexBridgeIoctl
  refine .check fun _ => .check fun _ => .check fun _ => .check fun _ => ?_
  cases env.kmalloc 0 frameSizeMax with
  | none => exact .done _ []
  | some frame =>
      cases env.kmalloc 1 frameSizeMax with
      | none => exact .done _ []
      | some rxBuf => exact ioctlSwitch_sends env dev arg frame rxBuf hcmd

end

end

end GhostBlade.Host
