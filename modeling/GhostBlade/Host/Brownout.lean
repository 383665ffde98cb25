import GhostBlade.Host.Monitor
import GhostBlade.Host.RxStream
import GhostBlade.Library.Edges

/-!
The brownout account of the driver. The driver's own `APEX_FLAG_LOW_BATTERY` is
the number of a bit of its state, 3, and hides the wire mask of that name, bit 7
of the telemetry flags: with it the account follows bits 0 and 1, which tell
that the SDR receives or transmits.
-/

namespace GhostBlade.Host

open GhostBlade.Library GhostBlade.Protocol

/-- Bit 7 of the telemetry flags: `TELEM_FLAG_LOW_BATTERY` of the firmware and
`APEX_FLAG_LOW_BATTERY` of the register header. -/
def lowBatteryBit (word : BitVec 16) : Bool := word.getLsbD 7

/-- What `new_flags & APEX_FLAG_LOW_BATTERY` tests in the driver. -/
def testedBits (word : BitVec 16) : Bool := word.getLsbD 0 || word.getLsbD 1

/-- The flags words of the telemetry the driver accepts during a run. -/
def telemetryWords (es : List (DriverOp × Env)) : List (BitVec 16) :=
  es.filterMap fun e => (telemetryTaken e.1 e.2).map flagsWord

/-- The state bit shows bit 7 of the last flags word, and the count is that of
the rising edges of bit 7. -/
def Dev.Accounts (dev : Dev) (words : List (BitVec 16)) : Prop :=
  dev.flags.lowBattery = (words.map lowBatteryBit).getLastD false ∧
    dev.brownoutCount.toNat = rises false (words.map lowBatteryBit)

theorem mask_getLsbD (word : BitVec 16) (i : Nat) :
    (word &&& 3#16).getLsbD i = (word.getLsbD i && decide (i < 2)) := by
  have hmask : (3#16).getLsbD i = decide (i < 2) := by
    rw [BitVec.getLsbD_ofNat, show 3 = 2 ^ 2 - 1 from rfl, Nat.testBit_two_pow_sub_one]
    by_cases hi : i < 2
    · simp [hi, Nat.lt_trans hi (show 2 < 16 by decide)]
    · simp [hi]
  rw [BitVec.getLsbD_and, hmask]

theorem mask_eq_testedBits (word : BitVec 16) :
    word &&& 3#16 ≠ 0#16 ↔ testedBits word = true := by
  rw [not_iff_comm, Bool.not_eq_true]
  constructor
  · intro hclear
    have hzero : word.getLsbD 0 = false ∧ word.getLsbD 1 = false := by
      simpa only [testedBits, Bool.or_eq_false_iff] using hclear
    apply BitVec.eq_of_getLsbD_eq
    intro i _
    rw [mask_getLsbD, BitVec.getLsbD_zero]
    match i with
    | 0 => rw [hzero.1, Bool.false_and]
    | 1 => rw [hzero.2, Bool.false_and]
    | i + 2 => simp
  · intro heq
    have hbit (i : Nat) (hi : i < 2) : word.getLsbD i = false := by
      have h := mask_getLsbD word i
      rw [heq, BitVec.getLsbD_zero] at h
      simpa [hi] using h.symm
    rw [testedBits, hbit 0 (by omega), hbit 1 (by omega), Bool.or_false]

theorem Brownout.take_eq (account : Brownout) (word : BitVec 16) :
    account.take word = ⟨testedBits word,
      account.count + if account.prevFlag = false ∧ testedBits word = true then 1 else 0,
      testedBits word⟩ := by
  unfold Brownout.take
  by_cases htest : testedBits word = true
  · rw [if_pos ((mask_eq_testedBits word).mpr htest), htest]
    cases account.prevFlag <;> simp
  · rw [if_neg (fun hne => htest ((mask_eq_testedBits word).mp hne))]
    rw [Bool.not_eq_true] at htest
    simp [htest]

/-- The account after a sequence of flags words is that of the tested bits. -/
theorem take_foldl (words : List (BitVec 16)) :
    words.foldl Brownout.take ⟨false, 0, false⟩ =
      ⟨(words.map testedBits).getLastD false,
        BitVec.ofNat 32 (rises false (words.map testedBits)),
        (words.map testedBits).getLastD false⟩ := by
  induction words using List.reverseRecOn with
  | nil => rfl
  | append_singleton words word ih =>
      rw [List.foldl_append, ih, List.foldl_cons, List.foldl_nil, Brownout.take_eq,
        List.map_append, List.map_singleton, List.getLastD_concat, rises_snoc, BitVec.ofNat_add]
      split_ifs <;> rfl

theorem run_brownout (dev : Dev) (es : List (DriverOp × Env)) :
    (run driverStep dev es).brownout =
      (telemetryWords es).foldl Brownout.take dev.brownout := by
  induction es generalizing dev with
  | nil => rfl
  | cons e es ih =>
      have hstep : (driverStep dev e).brownout = _ := (driverOp_monitor e.2 dev e.1).2
      rw [run_cons, ih, hstep, telemetryWords, telemetryWords]
      cases htaken : telemetryTaken e.1 e.2 with
      | none => simp [htaken]
      | some payload => simp [htaken]

/-- The account after a run, told by the flags words of its telemetry. -/
theorem accounts_iff (es : List (DriverOp × Env)) (words : List (BitVec 16))
    (hwords : telemetryWords es = words) :
    (run driverStep .probed es).Accounts words ↔
      (words.map testedBits).getLastD false = (words.map lowBatteryBit).getLastD false ∧
        rises false (words.map testedBits) % 2 ^ 32 = rises false (words.map lowBatteryBit) := by
  have hrun : (run driverStep .probed es).brownout = _ := (run_brownout .probed es).trans
    (congrArg (·.foldl Brownout.take Dev.probed.brownout) hwords |>.trans (take_foldl words))
  have hlow := congrArg Brownout.lowBattery hrun
  have hcount := congrArg Brownout.count hrun
  unfold Dev.Accounts
  rw [show (run driverStep .probed es).flags.lowBattery = _ from hlow,
    show (run driverStep .probed es).brownoutCount = _ from hcount, BitVec.toNat_ofNat]

/-- The driver keeps the account of bit 7 after every telemetry frame exactly
when bit 7 is always what bits 0 and 1 say together, and has risen no more often
than 32 bits count. -/
theorem brownout_accounts_iff (es : List (DriverOp × Env)) :
    (∀ us, us <+: es → (run driverStep .probed us).Accounts (telemetryWords us)) ↔
      (∀ word ∈ telemetryWords es, lowBatteryBit word = testedBits word) ∧
        rises false ((telemetryWords es).map lowBatteryBit) < 2 ^ 32 := by
  constructor
  · intro hall
    have hbits : ∀ word ∈ telemetryWords es, lowBatteryBit word = testedBits word := by
      intro word hword
      obtain ⟨e, he, htaken⟩ := List.mem_filterMap.mp hword
      obtain ⟨us, vs, rfl⟩ := List.append_of_mem he
      have hsnoc : telemetryWords (us ++ [e]) = telemetryWords us ++ [word] := by
        rw [telemetryWords, telemetryWords, List.filterMap_append, List.filterMap_cons, htaken]
        rfl
      have hlast := ((accounts_iff (us ++ [e]) _ hsnoc).mp
        (hsnoc ▸ hall (us ++ [e]) ⟨vs, by simp⟩)).1
      simp only [List.map_append, List.map_singleton, List.getLastD_concat] at hlast
      exact hlast.symm
    refine ⟨hbits, ?_⟩
    have hcount := ((accounts_iff es _ rfl).mp (hall es (List.prefix_refl es))).2
    rw [← hcount]
    exact Nat.mod_lt _ (by norm_num)
  · rintro ⟨hbits, hcount⟩ us ⟨vs, rfl⟩
    have hsplit : telemetryWords (us ++ vs) = telemetryWords us ++ telemetryWords vs :=
      List.filterMap_append
    rw [hsplit] at hbits hcount
    have hsame : (telemetryWords us).map testedBits = (telemetryWords us).map lowBatteryBit :=
      List.map_congr_left fun word hword =>
        (hbits word (List.mem_append_left _ hword)).symm
    rw [List.map_append] at hcount
    rw [accounts_iff us _ rfl, hsame]
    exact ⟨rfl, Nat.mod_eq_of_lt ((rises_le_append _ _ _).trans_lt hcount)⟩

/-- A telemetry frame with these flags. -/
def telemetryFrame (word : BitVec 16) : DriverOp × Env :=
  rxFrame apexCmdTelemetry
    (List.replicate 10 0 ++ leBytes 2 word.toNat ++ List.replicate 4 0)

/-- Every sequence of flags words can arrive. -/
theorem telemetryWords_frames (words : List (BitVec 16)) :
    telemetryWords (words.map telemetryFrame) = words := by
  have hframe (word : BitVec 16) :
      (telemetryTaken (telemetryFrame word).1 (telemetryFrame word).2).map flagsWord =
        some word := by
    have hlen : (List.replicate 10 (0 : Byte) ++ leBytes 2 word.toNat ++
        List.replicate 4 0).length = telemetrySize := by simp [telemetrySize]
    have hmax : telemetrySize ≤ maxPayload := by decide
    have hreply : (telemetryFrame word).2.reply frameSizeMax =
        some ⟨apexCmdTelemetry, _⟩ :=
      Env.reply_encode _ _ apexCmdTelemetry _ [] (show ¬ (0 : Int) < 0 by decide)
        (hlen.trans_le hmax) (List.append_nil _).symm (encode_fits _ _ (hlen.trans_le hmax))
    have hflags : (((List.replicate 10 (0 : Byte) ++ leBytes 2 word.toNat ++
        List.replicate 4 0).drop 10).take 2) = leBytes 2 word.toNat := by simp
    have hbound : word.toNat < 256 ^ 2 := word.isLt
    have htaken : telemetryTaken (telemetryFrame word).1 (telemetryFrame word).2 =
        some (List.replicate 10 0 ++ leBytes 2 word.toNat ++ List.replicate 4 0) := by
      simp only [telemetryTaken, telemetryFrame, rxFrame] at hreply ⊢
      rw [hreply]
      simp [Env.ok, Option.filter_some, telemetrySize]
    rw [htaken, Option.map_some, flagsWord, hflags, leValue_leBytes_of_lt 2 _ hbound,
      BitVec.ofNat_toNat, BitVec.setWidth_eq]
  rw [telemetryWords, List.filterMap_map]
  simp only [Function.comp_def, hframe]
  exact List.filterMap_some

/-- A low battery is not noticed, and a receiving SDR is counted as one. -/
theorem brownout_miscounted :
    ¬ (run driverStep .probed [telemetryFrame 0x0080]).Accounts [0x0080] ∧
      ¬ (run driverStep .probed [telemetryFrame 0x0001]).Accounts [0x0001] := by
  have hword (word : BitVec 16) : telemetryWords [telemetryFrame word] = [word] :=
    telemetryWords_frames [word]
  rw [accounts_iff _ _ (hword 0x0080), accounts_iff _ _ (hword 0x0001)]
  decide

end GhostBlade.Host
