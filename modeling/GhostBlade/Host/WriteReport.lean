import GhostBlade.Host.Transfers
import GhostBlade.Library.Ledger

/-!
What `write()` reports. The buffers of `apex_bridge_write` are freed on every way
out, and the RX FIFO changes only by a valid response. The result of the
transfer is overwritten: a write whose transfer fails reports that everything
was written.
-/

namespace GhostBlade.Host

open GhostBlade.Library GhostBlade.Protocol

/-- The buffers a write allocates. -/
inductive WriteBuf where
  | kbuf
  | frame
  | rxBuf
deriving DecidableEq, Repr

/-- `apex_bridge_write` with the account of its buffers. -/
def apexBridgeWriteBufs (data : List Byte) (env : Env) (dev : Dev) : Result × Ledger WriteBuf :=
  let bufs := Ledger.empty
  if data.length < 1 then (.done dev (-einval), bufs)
  else if data.length > maxPayload then (.done dev (-emsgsize), bufs)
  else if env.allocOk 0 = false then (.done dev (-enomem), bufs)
  else
    let bufs := bufs.alloc [.kbuf]
    if env.userCopy 0 = false then (.done dev (-efault), bufs.free [.kbuf])
    else
      match env.kmalloc 1 frameSizeMax with
      | none => (.done dev (-enomem), bufs.free [.kbuf])
      | some frame =>
        let bufs := bufs.alloc [.frame]
        match env.kmalloc 2 frameSizeMax with
        | none => (.done dev (-enomem), bufs.free [.kbuf, .frame])
        | some rxBuf =>
          let bufs := bufs.alloc [.rxBuf]
          let (frameLen, frame) := apexBuildFrame (data.getD 0 0) (data.drop 1) frame
          let result :=
            if frameLen < 0 then .done dev frameLen
            else
              let x := apexSpiXfer (frame.take frameLen.toNat) rxBuf env dev
              ⟨writeFinish x.ret x.rxBuf x.dev, data.length, x.sent, []⟩
          -- `out`
          (result, bufs.free [.kbuf, .frame, .rxBuf])

section

variable (data : List Byte) (env : Env) (dev : Dev)

theorem apexBridgeWriteBufs_result :
    (apexBridgeWriteBufs data env dev).1 = apexBridgeWrite data env dev := by
  unfold apexBridgeWriteBufs apexBridgeWrite writeXfer
  dsimp only
  by_cases hshort : data.length < 1
  · simp only [if_pos hshort]
  by_cases hlong : data.length > maxPayload
  · simp only [if_neg hshort, if_pos hlong]
  cases halloc : env.allocOk 0 with
  | false => simp only [if_neg hshort, if_neg hlong, if_true]
  | true =>
    cases hcopy : env.userCopy 0 with
    | false => simp only [if_neg hshort, if_neg hlong, Bool.true_eq_false, if_false, if_true]
    | true =>
        simp only [if_neg hshort, if_neg hlong, Bool.true_eq_false, if_false]
        cases env.kmalloc 1 frameSizeMax with
        | none => rfl
        | some frame =>
            cases env.kmalloc 2 frameSizeMax with
            | none => rfl
            | some rxBuf =>
                dsimp only
                split
                · rfl
                · rfl

/-- On every way out each buffer that was allocated has been freed, and only once. -/
theorem apexBridgeWriteBufs_balanced : (apexBridgeWriteBufs data env dev).2.Balanced [] := by
  have hone : ((Ledger.empty.alloc [WriteBuf.kbuf]).free [.kbuf]).Balanced [] :=
    ⟨by decide, by decide⟩
  have htwo : (((Ledger.empty.alloc [WriteBuf.kbuf]).alloc [.frame]).free
      [.kbuf, .frame]).Balanced [] := ⟨by decide, by decide⟩
  have hthree : ((((Ledger.empty.alloc [WriteBuf.kbuf]).alloc [.frame]).alloc [.rxBuf]).free
      [.kbuf, .frame, .rxBuf]).Balanced [] := ⟨by decide, by decide⟩
  unfold apexBridgeWriteBufs
  dsimp only
  split
  · exact .empty
  split
  · exact .empty
  split
  · exact .empty
  split
  · exact hone
  split
  · exact hone
  split
  · exact htwo
  · exact hthree

/-- The frame `apex_build_frame` makes of the first byte and the rest. -/
def builtFrame (frame : List Byte) : List Byte :=
  let built := apexBuildFrame (data.getD 0 0) (data.drop 1) frame
  built.2.take built.1.toNat

theorem builtFrame_eq {data : List Byte} (hlen : data.length ≤ maxPayload) {frame : List Byte}
    (hframe : frame.length = frameSizeMax) :
    builtFrame data frame = encode (data.getD 0 0) (data.drop 1) := by
  have hfit : (data.drop 1).length ≤ maxPayload := by
    rw [List.length_drop]
    omega
  obtain ⟨hret, htake⟩ := buildFrame_take (data.getD 0 0) (data.drop 1) frame hfit hframe
  unfold builtFrame
  dsimp only
  rw [hret, Int.toNat_natCast, htake]

/-- The write has reported what happened to it. -/
structure Reported (r : Result) (bufs : Ledger WriteBuf) : Prop where
  /-- Success is reported only for a frame that was transferred. -/
  delivered : 0 < r.ret → ¬ env.spiSync < 0 ∧
    ∀ frame, frame.length = frameSizeMax → r.sent = some (builtFrame data frame)
  /-- A failed transfer is reported with its code. -/
  failed : r.sent ≠ none → env.spiSync < 0 → r.ret = env.spiSync
  freed : bufs.Balanced []
  /-- Without a valid response the RX FIFO is what it was. -/
  unanswered : (∀ tx, r.sent = some tx → env.reply tx.length = none) → r.dev.rxFifo = dev.rxFifo

theorem apexBridgeWrite_transfers (h : writeTransfers data env) :
    apexBridgeWrite data env dev = writeResult data env dev := by
  rcases apexBridgeWrite_result data env dev with ⟨ret, hdone⟩ | hsent
  · have hok := writeXfer_ok dev h
    have hfit := encode_fits (data.getD 0 0) (data.drop 1) (by
      have hmax := h.2.1
      rw [List.length_drop]
      omega)
    have hxfer := (apexSpiXfer_eq _ (memBytes (env.heap 2) frameSizeMax) env dev hfit
      (memBytes_length _ _)).2.2
    have hnone : (apexBridgeWrite data env dev).sent = none := by
      rw [hdone]
      rfl
    rw [apexBridgeWrite, hok] at hnone
    cases hxfer.symm.trans hnone
  · exact hsent

end

theorem writeXfer_error {data : List Byte} {env : Env} {dev : Dev} {ret : Int}
    (h : writeXfer data env dev = .error ret) : ret < 0 := by
  have hinval : -einval < 0 := by decide
  have hmsgsize : -emsgsize < 0 := by decide
  have hnomem : -enomem < 0 := by decide
  have hfault : -efault < 0 := by decide
  unfold writeXfer at h
  split at h
  · cases h
    exact hinval
  split at h
  · cases h
    exact hmsgsize
  split at h
  · cases h
    exact hnomem
  split at h
  · cases h
    exact hfault
  split at h
  · cases h
    exact hnomem
  split at h
  · cases h
    exact hnomem
  dsimp only at h
  split at h
  next hneg =>
    cases h
    exact hneg
  · cases h

/-- A write that gives up before its transfer returns an error. -/
theorem apexBridgeWrite_gives_up {data : List Byte} {env : Env} (dev : Dev)
    (h : ¬ writeTransfers data env) : ∃ ret < 0, apexBridgeWrite data env dev = .done dev ret := by
  cases hxfer : writeXfer data env dev with
  | error ret =>
      refine ⟨ret, writeXfer_error hxfer, ?_⟩
      rw [apexBridgeWrite, hxfer]
  | ok x => exact absurd (writeTransfers_of_ok hxfer) h

theorem reported_gives_up {data : List Byte} {env : Env} {dev : Dev} {ret : Int}
    {bufs : Ledger WriteBuf} (hret : ret < 0) (hbufs : bufs.Balanced []) :
    Reported data env dev (.done dev ret) bufs where
  delivered := by
    intro hpos
    have hpos' : 0 < ret := hpos
    omega
  failed := fun hsent => absurd rfl hsent
  freed := hbufs
  unanswered := fun _ => rfl

/-- For every buffer: the write reports what happened unless it gets to its
transfer and the transfer fails. -/
theorem write_reports_iff (data : List Byte) (env : Env) (dev : Dev) :
    let w := apexBridgeWriteBufs data env dev
    Reported data env dev w.1 w.2 ↔ (writeTransfers data env → ¬ env.spiSync < 0) := by
  intro w
  have hbalanced : w.2.Balanced [] := apexBridgeWriteBufs_balanced data env dev
  rw [show w.1 = _ from apexBridgeWriteBufs_result data env dev]
  by_cases htransfers : writeTransfers data env
  · have hwrite := apexBridgeWrite_transfers data env dev htransfers
    have hpos : 0 < data.length := htransfers.1
    have hlen : data.length ≤ maxPayload := htransfers.2.1
    rw [hwrite, writeResult]
    constructor
    · intro hreported _ hspi
      have hret : (data.length : Int) = env.spiSync := hreported.failed (Option.some_ne_none _) hspi
      omega
    · intro hok
      have hspi := hok htransfers
      exact
        { delivered := fun _ => ⟨hspi, fun frame hframe => by rw [builtFrame_eq hlen hframe]⟩
          failed := fun _ hneg => absurd hneg hspi
          freed := hbalanced
          unanswered := by
            intro hnone
            rw [hnone _ rfl]
            exact env.afterXfer_rxFifo dev }
  · obtain ⟨ret, hneg, hdone⟩ := apexBridgeWrite_gives_up dev htransfers
    rw [hdone]
    exact ⟨fun _ h => absurd h htransfers, fun _ => reported_gives_up hneg hbalanced⟩

/-- A failed transfer is reported as a full write. -/
theorem apexBridgeWrite_failed {data : List Byte} {env : Env} (dev : Dev)
    (htransfers : writeTransfers data env) (hspi : env.spiSync < 0) :
    apexBridgeWrite data env dev =
      ⟨env.afterXfer dev, data.length, some (encode (data.getD 0 0) (data.drop 1)), []⟩ := by
  have hreply : env.reply (encode (data.getD 0 0) (data.drop 1)).length = none := if_pos hspi
  rw [apexBridgeWrite_transfers data env dev htransfers, writeResult, hreply]

/-- A tune command on a bus that fails with `-EIO`: the write returns 9. -/
theorem failed_write_reported :
    let data : List Byte := [0x01, 0x1B, 0xB7, 0, 0, 0, 0, 0, 0]
    let env : Env := { Env.ok [] with spiSync := -5 }
    let w := apexBridgeWriteBufs data env .probed
    w.1.ret = 9 ∧ w.1.sent ≠ none ∧ w.1.dev.spiErrCount = 1 ∧
      ¬ Reported data env .probed w.1 w.2 := by
  intro data env w
  have hspi : env.spiSync < 0 := show (-5 : Int) < 0 by decide
  have hwrite : w.1 = _ := (apexBridgeWriteBufs_result data env .probed).trans
    (apexBridgeWrite_failed .probed (by decide) hspi)
  rw [hwrite]
  refine ⟨rfl, Option.some_ne_none _, rfl, ?_⟩
  intro hreported
  have hcode : (9 : Int) = -5 := hreported.failed (Option.some_ne_none _) hspi
  omega

end GhostBlade.Host
