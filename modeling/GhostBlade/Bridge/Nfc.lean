import GhostBlade.Bridge.Cc1101

/-!
NFC exchanges. The library expects the driver to put the response of the MCU
into the structure it passed; the driver transfers the request and leaves the
structure alone. Whatever the line brings, the caller gets its own request data
back.
-/

namespace GhostBlade.Bridge

open GhostBlade.Library GhostBlade.Protocol GhostBlade.Host GhostBlade.Firmware

section

variable (stack : Nat → Byte) (env : Env) (h : ApexDevice) (dev : Dev) (txn : NfcTransact)

/-- The structure on the library's stack. -/
def nfcStruct (stack : Nat → Byte) (txn : NfcTransact) : Nat → Byte :=
  onStack ([txn.cmd, txn.flags] ++ leBytes 2 txn.dataLen.toNat ++
    txn.data.toList.take txn.dataLen.toNat) stack

theorem nfcStruct_len : leValue [nfcStruct stack txn 2, nfcStruct stack txn 3] =
    txn.dataLen.toNat := by
  have hbytes : [nfcStruct stack txn 2, nfcStruct stack txn 3] = leBytes 2 txn.dataLen.toNat := by
    rfl
  rw [hbytes]
  exact leValue_leBytes_of_lt 2 _ txn.dataLen.isLt

theorem nfcStruct_data (i : Nat) (hi : i < txn.dataLen.toNat) (hi' : i < 256) :
    nfcStruct stack txn (4 + i) = txn.data.get ⟨i, hi'⟩ := by
  have hshift : nfcStruct stack txn (4 + i) =
      (txn.data.toList.take txn.dataLen.toNat).getD i (stack (4 + i)) := by
    rw [Nat.add_comm]
    rfl
  rw [hshift, List.getD_eq_getElem?_getD, List.getElem?_take_of_lt hi,
    List.getElem?_eq_getElem (by simpa using hi')]
  simp [Vector.get]

/-- The copy back of data that is still in the structure. -/
theorem copyBack_take :
    (Vector.ofFn fun i : Fin 256 =>
      if i.val < txn.dataLen.toNat then nfcStruct stack txn (4 + i)
      else txn.data.get i).toList.take txn.dataLen.toNat =
        txn.data.toList.take txn.dataLen.toNat := by
  apply List.ext_getElem
  · simp
  · intro i hi hi'
    simp only [List.length_take, Vector.length_toList] at hi'
    have hi256 : i < 256 := by omega
    have hin : i < txn.dataLen.toNat := by omega
    have hdata := nfcStruct_data stack txn i hin hi256
    simpa [hin, Vector.get] using hdata

/-- Under the driver's request number a served exchange succeeds and hands the
request's data back. -/
theorem nfcTransact_echo (hfd : 0 ≤ h.fd) (hlen : txn.dataLen.toNat ≤ 256)
    (henv : env.Serves) (hspi : ¬ env.spiSync < 0) :
    let result := apexNfcTransact apexIocNfcTransact stack env (some h) dev txn
    result.1.ret = apexOk ∧ result.2.dataLen = txn.dataLen ∧
      result.2.data.toList.take txn.dataLen.toNat =
        txn.data.toList.take txn.dataLen.toNat := by
  have hnofd : ¬ h.fd < 0 := by omega
  have hnolong : ¬ txn.dataLen > 256#16 := by
    intro hlong
    have hlong' : 256 < txn.dataLen.toNat := hlong
    omega
  have hserved : ioctl apexIocNfcTransact (onStack ([txn.cmd, txn.flags] ++
      leBytes 2 txn.dataLen.toNat ++ txn.data.toList.take txn.dataLen.toNat) stack) env dev =
        (_, nfcStruct stack txn) :=
    ioctl_request (@nfc_served (nfcStruct stack txn) env dev henv
      (by rw [nfcStruct_len]; exact hlen))
  have hret (payload : List Byte) :
      ¬ (requestResult apexCmdNfcTransact payload env dev).ret < 0 := by
    simp only [requestResult, if_neg hspi]
    omega
  unfold apexNfcTransact
  dsimp only
  rw [if_neg hnofd, if_neg hnolong, hserved]
  dsimp only
  rw [if_neg (hret _), nfcStruct_len]
  rcases Nat.eq_zero_or_pos txn.dataLen.toNat with hzero | hpos
  · have hzero' : txn.dataLen = 0 := BitVec.eq_of_toNat_eq hzero
    rw [if_neg (by omega), hzero]
    exact ⟨rfl, hzero'.symm, rfl⟩
  · have hcopy : min (min txn.dataLen.toNat 256) 256 = txn.dataLen.toNat := by omega
    rw [if_pos hpos, hcopy]
    exact ⟨rfl, by simp, copyBack_take stack txn⟩

/-- A poll never succeeds. -/
theorem nfcPoll_times_out (hfd : 0 ≤ h.fd) (henv : env.Serves) (hspi : ¬ env.spiSync < 0)
    (timeoutMs : BitVec 32) :
    (apexNfcPoll apexIocNfcTransact stack env (some h) dev timeoutMs).ret = apexErrTimeout := by
  have hnofd : ¬ h.fd < 0 := by omega
  obtain ⟨hret, hlen, -⟩ := nfcTransact_echo stack env h dev (pollTransact timeoutMs) hfd
    (Nat.zero_le _) henv hspi
  have hnone : ¬ (pollTransact timeoutMs).dataLen > 0#16 := BitVec.lt_irrefl _
  unfold apexNfcPoll
  dsimp only
  rw [if_neg hnofd, if_neg (not_not.mpr hret), hlen, if_neg hnone]

/-- The exchange returns the response `r`. -/
def NfcAnswered (r : List Byte) : Prop :=
  let result := apexNfcTransact apexIocNfcTransact stack env (some h) dev txn
  result.1.ret = apexOk ∧ result.2.dataLen.toNat = r.length ∧
    result.2.data.toList.take r.length = r

/-- A poll succeeds exactly when there is a response. -/
def PollAnswered (timeoutMs : BitVec 32) (r : List Byte) : Prop :=
  (apexNfcPoll apexIocNfcTransact stack env (some h) dev timeoutMs).ret = apexOk ↔ r ≠ []

/-- An exchange returns the response exactly when that is the request's own
data, and a poll, which has none, tells whether there is one exactly when there
is none. -/
theorem nfc_answered_iff (hfd : 0 ≤ h.fd) (hlen : txn.dataLen.toNat ≤ 256) (henv : env.Serves)
    (hspi : ¬ env.spiSync < 0) (timeoutMs : BitVec 32) (r : List Byte) :
    (NfcAnswered stack env h dev txn r ↔ txn.data.toList.take txn.dataLen.toNat = r) ∧
      (PollAnswered stack env h dev timeoutMs r ↔ r = []) := by
  obtain ⟨hret, hlen', hdata⟩ := nfcTransact_echo stack env h dev txn hfd hlen henv hspi
  have hlength : (txn.data.toList.take txn.dataLen.toNat).length = txn.dataLen.toNat := by
    simp [hlen]
  refine ⟨?_, ?_⟩
  · unfold NfcAnswered
    dsimp only
    rw [hlen']
    constructor
    · rintro ⟨-, hsize, hr⟩
      rwa [← hsize, hdata] at hr
    · intro hr
      have hsize : r.length = txn.dataLen.toNat := by rw [← hr, hlength]
      exact ⟨hret, hsize.symm, by rw [hsize, hdata, hr]⟩
  · have hpoll := nfcPoll_times_out stack env h dev hfd henv hspi timeoutMs
    have hno : apexErrTimeout ≠ apexOk := by decide
    unfold PollAnswered
    rw [hpoll]
    constructor
    · intro hiff
      by_contra hsome
      exact hno (hiff.mpr hsome)
    · exact fun hnil => ⟨fun hok => absurd hok hno, fun hsome => absurd hnil hsome⟩

end

/-- An exchange of one byte. -/
def oneByteTransact : NfcTransact := ⟨0x01, 0, 1, Vector.replicate 256 7⟩

/-- The MCU answers with the byte it was sent; a poll finds nothing. -/
theorem nfc_answered_echo :
    NfcAnswered (fun _ => 0) (.ok (encode apexCmdNfcTransact [7])) ⟨3, 0⟩ .probed
      oneByteTransact [7] ∧
    ¬ PollAnswered (fun _ => 0) (.ok (encode apexCmdNfcTransact [7])) ⟨3, 0⟩ .probed 100 [7] := by
  obtain ⟨htransact, hpoll⟩ := nfc_answered_iff (fun _ => 0)
    (.ok (encode apexCmdNfcTransact [7])) ⟨3, 0⟩ .probed oneByteTransact (by decide) (by decide)
    (envOk_serves _) (by decide) 100 [7]
  exact ⟨htransact.mpr (by decide), fun h => List.cons_ne_nil 7 [] (hpoll.mp h)⟩

/-- The MCU answers with another byte: the caller sees its own. -/
theorem nfc_answer_lost :
    ¬ NfcAnswered (fun _ => 0) (.ok (encode apexCmdNfcTransact [9])) ⟨3, 0⟩ .probed
        oneByteTransact [9] ∧
      ¬ PollAnswered (fun _ => 0) (.ok (encode apexCmdNfcTransact [9])) ⟨3, 0⟩ .probed 100
        [9] := by
  have henv := envOk_serves (encode apexCmdNfcTransact [9])
  obtain ⟨-, hlen, hdata⟩ := nfcTransact_echo (fun _ => 0) (.ok (encode apexCmdNfcTransact [9]))
    ⟨3, 0⟩ .probed oneByteTransact (by decide) (by decide) henv (by decide)
  have hpoll := nfcPoll_times_out (fun _ => 0) (.ok (encode apexCmdNfcTransact [9])) ⟨3, 0⟩
    .probed (by decide) henv (by decide) 100
  refine ⟨?_, ?_⟩
  · rintro ⟨-, -, hr⟩
    have hsame := hdata.symm.trans hr
    revert hsame
    decide
  · intro hiff
    have hok := hpoll.symm.trans (hiff.mpr (List.cons_ne_nil 9 []))
    revert hok
    decide

end GhostBlade.Bridge
