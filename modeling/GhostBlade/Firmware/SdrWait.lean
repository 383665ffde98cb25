import GhostBlade.Firmware.SdrRegisters
import GhostBlade.Library.WrappingClock

/-!
The wait for bits of a register (`wait_for_bitmask`). It has no count of its
own: it goes on as long as the words it reads are no error and do not match and
the wrapped difference of the clock stays below the timeout. On a clock that
moves in every round, and never by much, it ends after at most one read more
than the timeout has milliseconds.
-/

namespace GhostBlade.Firmware.Lms7002m

open GhostBlade.Library Prog

/-- What is waited for, and for how long. -/
structure Wait where
  addr : BitVec 16
  mask : BitVec 16
  value : BitVec 16
  timeoutMs : BitVec 32
deriving DecidableEq

def Wait.prog (w : Wait) (rounds : Nat) (drv : Driver) : LmsProg (Option Int) :=
  waitForBitmask rounds drv w.addr w.mask w.value w.timeoutMs

namespace Wait

section

variable {σ : Type} (w : Wait) (d : LmsDevice σ) (s : σ)

/-! ### Rounds -/

/-- The word that a poll reads. -/
def pollWord (t : σ) : BitVec 16 := (d (.xfer (cmdRead w.addr)) t).1.setWidth 16

/-- The time that it then sees. -/
def pollTime (t : σ) : BitVec 32 := (d .timestampMs (d (.xfer (cmdRead w.addr)) t).2).1

/-- The chip behind it, when the wait goes on. -/
def pollNext (t : σ) : σ :=
  (d (.delayMs 1) (d .timestampMs (d (.xfer (cmdRead w.addr)) t).2).2).2

/-- The time the wait starts at. -/
def started : BitVec 32 := (d .timestampMs s).1

/-- The chip before the `k`-th poll, from 0, of a wait that has not ended. -/
def polled (k : ℕ) : σ := (w.pollNext d)^[k] (d .timestampMs s).2

/-- The word of the `k`-th poll. -/
def word (k : ℕ) : BitVec 16 := w.pollWord d (w.polled d s k)

/-- The time of the `k`-th poll. -/
def clock (k : ℕ) : BitVec 32 := w.pollTime d (w.polled d s k)

/-- The wait goes on behind the `k`-th poll. -/
def Waits (k : ℕ) : Prop :=
  w.word d s k < 0x8000 ∧ w.word d s k &&& w.mask ≠ w.value ∧
    w.clock d s k - started d s < w.timeoutMs

/-- The `k`-th poll is the one that finds the value. -/
def MatchesAt (k : ℕ) : Prop :=
  (∀ j < k, w.Waits d s j) ∧ w.word d s k < 0x8000 ∧ w.word d s k &&& w.mask = w.value

/-- The value comes in time. -/
def Matches : Prop := ∃ k, w.MatchesAt d s k

/-- What a poll makes of the word and the time. -/
def verdict (word : BitVec 16) (waited : BitVec 32) : Option Int :=
  if word.toInt < 0 then some word.toInt
  else if word &&& w.mask = w.value then some ok
  else if waited ≥ w.timeoutMs then some errTimeout
  else none

theorem polled_succ (k : ℕ) : w.polled d s (k + 1) = w.pollNext d (w.polled d s k) :=
  Function.iterate_succ_apply' _ _ _

variable {w d s} {drv : Driver} {rounds : ℕ}

theorem toInt_neg_iff (word : BitVec 16) : word.toInt < 0 ↔ ¬word < 0x8000 := by
  rw [BitVec.lt_def, BitVec.toInt_eq_toNat_cond]
  have hword := word.isLt
  simp only [BitVec.reduceToNat]
  split <;> omega

theorem waits_iff (k : ℕ) :
    w.Waits d s k ↔ w.verdict (w.word d s k) (w.clock d s k - started d s) = none := by
  unfold Waits verdict
  by_cases hneg : (w.word d s k).toInt < 0
  · rw [if_pos hneg]
    exact iff_of_false (fun h => (toInt_neg_iff _).mp hneg h.1) nofun
  · rw [if_neg hneg]
    have hsmall : w.word d s k < 0x8000 := not_not.mp fun h => hneg ((toInt_neg_iff _).mpr h)
    by_cases hmatch : w.word d s k &&& w.mask = w.value
    · rw [if_pos hmatch]
      exact iff_of_false (fun h => h.2.1 hmatch) nofun
    · rw [if_neg hmatch]
      by_cases htime : w.clock d s k - started d s ≥ w.timeoutMs
      · rw [if_pos htime]
        exact iff_of_false (fun h => BitVec.not_lt.mpr htime h.2.2) nofun
      · rw [if_neg htime]
        exact iff_of_true ⟨hsmall, hmatch, BitVec.not_le.mp htime⟩ rfl

theorem verdict_ok_iff (word : BitVec 16) (waited : BitVec 32) :
    w.verdict word waited = some ok ↔ word < 0x8000 ∧ word &&& w.mask = w.value := by
  rw [verdict]
  by_cases hneg : word.toInt < 0
  · rw [if_pos hneg]
    refine iff_of_false (fun h => ?_) fun h => (toInt_neg_iff word).mp hneg h.1
    rw [Option.some.inj h] at hneg
    exact absurd hneg (by decide)
  · have hsmall : word < 0x8000 := not_not.mp fun h => hneg ((toInt_neg_iff word).mpr h)
    rw [if_neg hneg]
    by_cases hmatch : word &&& w.mask = w.value
    · rw [if_pos hmatch]
      exact iff_of_true rfl ⟨hsmall, hmatch⟩
    · rw [if_neg hmatch]
      refine iff_of_false (fun h => ?_) fun h => hmatch h.2
      split at h
      · exact absurd (Option.some.inj h) (by decide)
      · cases h

variable (w d) in
/-- A poll reads the register once and says what the word and the time come to. -/
theorem exec_pollBitmask (hinit : drv.initialized = true) (start : BitVec 32) (t : σ) :
    let e := (pollBitmask drv w.addr w.mask w.value w.timeoutMs start).exec d t
    e.result = w.verdict (w.pollWord d t) (w.pollTime d t - start) ∧
      (e.result = none → e.state = w.pollNext d t) ∧
      (e.result = some ok → e.state = (d (.xfer (cmdRead w.addr)) t).2) ∧
      e.trace.count (.xfer (cmdRead w.addr)) = 1 := by
  have hread : (spiRead drv w.addr).exec d t =
      ⟨(w.pollWord d t).toInt, [.xfer (cmdRead w.addr)], (d (.xfer (cmdRead w.addr)) t).2⟩ :=
    exec_spiRead d t hinit w.addr
  have herror : errTimeout ≠ ok := by decide
  rw [pollBitmask, exec_bind, hread]
  dsimp only
  rw [BitVec.ofInt_toInt, verdict]
  by_cases hneg : (w.pollWord d t).toInt < 0
  · simp [hneg]
  · by_cases hmatch : w.pollWord d t &&& w.mask = w.value
    · simp [hneg, hmatch]
    · rw [if_neg hneg, if_neg hmatch, if_neg hneg, if_neg hmatch, exec_bind]
      dsimp only [exec_perform]
      by_cases htime : w.pollTime d t - start ≥ w.timeoutMs
      · have htime' := htime
        unfold pollTime at htime'
        simp [htime, htime', herror]
      · have htime' := htime
        unfold pollTime at htime'
        simp [htime, htime', pollNext]

/-! ### Runs -/

variable (w d s drv) in
/-- The rounds of the wait, which all look at the same start. -/
def round : LmsProg (Option Int) :=
  pollBitmask drv w.addr w.mask w.value w.timeoutMs (started d s)

theorem exec_prog :
    (w.prog rounds drv).exec d s =
      let polls := (loop (w.round d s drv) rounds).exec d (d .timestampMs s).2
      ⟨polls.result, .timestampMs :: polls.trace, polls.state⟩ := exec_bind d s _ _

theorem rounds_eq (hinit : drv.initialized = true) {k : ℕ} (h : ∀ j < k, w.Waits d s j) :
    Prog.rounds d (w.round d s drv) (d .timestampMs s).2 k = w.polled d s k := by
  induction k with
  | zero => rfl
  | succ k ih =>
      have hbefore := ih fun j hj => h j (by omega)
      obtain ⟨hsaid, hnext, _⟩ := exec_pollBitmask w d hinit (started d s) (w.polled d s k)
      rw [rounds_step, hbefore, polled_succ]
      exact hnext (hsaid.trans ((waits_iff k).mp (h k (Nat.lt_succ_self k))))

theorem said_eq (hinit : drv.initialized = true) {k : ℕ} (h : ∀ j < k, w.Waits d s j) :
    said d (w.round d s drv) (d .timestampMs s).2 k =
      w.verdict (w.word d s k) (w.clock d s k - started d s) := by
  rw [said, rounds_eq hinit h]
  exact (exec_pollBitmask w d hinit (started d s) (w.polled d s k)).1

theorem stays_iff (hinit : drv.initialized = true) (k : ℕ) :
    (∀ j < k, said d (w.round d s drv) (d .timestampMs s).2 j = none) ↔
      ∀ j < k, w.Waits d s j := by
  constructor
  · intro h j
    induction j using Nat.strong_induction_on with
    | h j ih =>
        intro hj
        have hbefore : ∀ i < j, w.Waits d s i := fun i hi => ih i hi (by omega)
        rw [waits_iff, ← said_eq hinit hbefore]
        exact h j hj
  · intro h j hj
    rw [said_eq hinit fun i hi => h i (by omega)]
    exact (waits_iff j).mp (h j hj)

theorem leavesAt_iff (hinit : drv.initialized = true) (k : ℕ) (code : Int) :
    LeavesAt d (w.round d s drv) (d .timestampMs s).2 k code ↔
      (∀ j < k, w.Waits d s j) ∧
        w.verdict (w.word d s k) (w.clock d s k - started d s) = some code := by
  rw [LeavesAt, stays_iff hinit]
  exact and_congr_right fun h => by rw [said_eq hinit h]

theorem matchesAt_iff (hinit : drv.initialized = true) (k : ℕ) :
    w.MatchesAt d s k ↔ LeavesAt d (w.round d s drv) (d .timestampMs s).2 k ok := by
  rw [leavesAt_iff hinit, verdict_ok_iff]
  rfl

/-- A wait that ends succeeds if the value comes in time. -/
theorem ok_iff (hinit : drv.initialized = true) {code : Int}
    (hcode : ((w.prog rounds drv).exec d s).result = some code) :
    code = ok ↔ w.Matches d s := by
  rw [exec_prog] at hcode
  obtain ⟨k, _, hleaves⟩ := loop_eq_some.mp hcode
  constructor
  · rintro rfl
    exact ⟨k, (matchesAt_iff hinit k).mpr hleaves⟩
  · rintro ⟨m, hm⟩
    exact (hleaves.unique ((matchesAt_iff hinit m).mp hm)).2

/-- The chip behind a wait that ends with the `k`-th poll. -/
theorem state_of_matchesAt (hinit : drv.initialized = true) {k : ℕ} (h : w.MatchesAt d s k)
    {code : Int} (hcode : ((w.prog rounds drv).exec d s).result = some code) :
    ((w.prog rounds drv).exec d s).state = (d (.xfer (cmdRead w.addr)) (w.polled d s k)).2 := by
  have hleaves := (matchesAt_iff hinit k).mp h
  rw [exec_prog] at hcode ⊢
  obtain ⟨m, hm, hleaves'⟩ := loop_eq_some.mp hcode
  obtain ⟨rfl, rfl⟩ := hleaves.unique hleaves'
  have hsaid := (exec_pollBitmask w d hinit (started d s) (w.polled d s k)).1
  rw [hleaves.exec hm]
  dsimp only
  rw [rounds_step, rounds_eq hinit h.1]
  exact (exec_pollBitmask w d hinit (started d s) (w.polled d s k)).2.2.1
    (hsaid.trans ((verdict_ok_iff _ _).mpr h.2))

/-! ### Bound -/

variable (w d s) in
/-- From one poll to the next the clock moves, by at most a second. -/
def SteadyClock : Prop :=
  ∀ k, 1 ≤ (w.clock d s (k + 1) - w.clock d s k).toNat ∧
    (w.clock d s (k + 1) - w.clock d s k).toNat ≤ 1000

theorem elapsed_eq (hclock : w.SteadyClock d s) (hroom : w.timeoutMs.toNat + 1000 < 2 ^ 32)
    {k : ℕ} (h : ∀ j < k, w.Waits d s j) :
    (w.clock d s k - started d s).toNat = elapsed (w.clock d s) (started d s) k :=
  elapsed_exact (fun k => (hclock k).2) hroom fun j hj => (h j hj).2.2

theorem not_waits (hclock : w.SteadyClock d s) (hroom : w.timeoutMs.toNat + 1000 < 2 ^ 32)
    {k : ℕ} (hk : w.timeoutMs.toNat ≤ k) (h : ∀ j < k, w.Waits d s j) : ¬w.Waits d s k := by
  rintro ⟨_, _, htime⟩
  have helapsed := le_elapsed (started d s) (fun k => (hclock k).1) k
  rw [BitVec.lt_def, elapsed_eq hclock hroom h] at htime
  omega

/-- A wait that is left has read the register once in every round. -/
theorem reads_of_leavesAt (hinit : drv.initialized = true) {k : ℕ} {code : Int}
    (h : LeavesAt d (w.round d s drv) (d .timestampMs s).2 k code) (hk : k < rounds) :
    ((w.prog rounds drv).exec d s).trace.count (.xfer (cmdRead w.addr)) = k + 1 := by
  have hround (t : σ) : ((w.round d s drv).exec d t).trace.count (.xfer (cmdRead w.addr)) = 1 :=
    (exec_pollBitmask w d hinit (started d s) t).2.2.2
  rw [exec_prog, h.exec hk, List.count_cons_of_ne (by simp), List.count_flatMap]
  simp [Function.comp_def, hround]

/-- Whatever small words the register takes, the wait ends after at most one read
more than the timeout has milliseconds. It succeeds only on a word that matches,
and times out only when the time is over and no word has matched. -/
theorem waitForBitmask_bounded (w : Wait) (d : LmsDevice σ) (s : σ) (drv : Driver) (rounds : ℕ)
    (hinit : drv.initialized = true) (hwords : ∀ k, w.word d s k < 0x8000)
    (hclock : w.SteadyClock d s) (hroom : w.timeoutMs.toNat + 1000 < 2 ^ 32)
    (hrounds : w.timeoutMs.toNat + 1 ≤ rounds) :
    let e := (waitForBitmask rounds drv w.addr w.mask w.value w.timeoutMs).exec d s
    ∃ k ≤ w.timeoutMs.toNat, e.trace.count (.xfer (cmdRead w.addr)) = k + 1 ∧
      (e.result = some ok ∧ w.word d s k &&& w.mask = w.value ∨
        e.result = some errTimeout ∧
          w.timeoutMs.toNat ≤ elapsed (w.clock d s) (started d s) k ∧
          ∀ j ≤ k, w.word d s j &&& w.mask ≠ w.value) := by
  obtain ⟨k, hk, code, hleaves⟩ : ∃ k < w.timeoutMs.toNat + 1, ∃ code,
      LeavesAt d (w.round d s drv) (d .timestampMs s).2 k code := by
    rcases leaves_or_stays d (w.round d s drv) (d .timestampMs s).2 (w.timeoutMs.toNat + 1) with
      hleaves | hstays
    · exact hleaves
    · have hwaits := (stays_iff hinit _).mp hstays
      exact absurd (hwaits _ (Nat.lt_succ_self _))
        (not_waits hclock hroom (Nat.le_refl _) fun j hj => hwaits j (by omega))
  have hreads := reads_of_leavesAt hinit hleaves (show k < rounds by omega)
  have hresult : ((w.prog rounds drv).exec d s).result = some code := by
    rw [exec_prog, hleaves.exec (show k < rounds by omega)]
  obtain ⟨hbefore, hverdict⟩ := (leavesAt_iff hinit k code).mp hleaves
  refine ⟨k, by omega, hreads, ?_⟩
  have hpos : ¬(w.word d s k).toInt < 0 := fun h => (toInt_neg_iff _).mp h (hwords k)
  rw [verdict, if_neg hpos] at hverdict
  by_cases hmatch : w.word d s k &&& w.mask = w.value
  · rw [if_pos hmatch] at hverdict
    exact .inl ⟨hresult.trans hverdict.symm, hmatch⟩
  · rw [if_neg hmatch] at hverdict
    split at hverdict
    · next htime =>
        refine .inr ⟨hresult.trans hverdict.symm, ?_, ?_⟩
        · rwa [ge_iff_le, BitVec.le_def, elapsed_eq hclock hroom hbefore] at htime
        · intro j hj
          rcases Nat.lt_or_eq_of_le hj with hlt | rfl
          · exact (hbefore j hlt).2.1
          · exact hmatch
    · cases hverdict

end

section

variable (w : Wait) (resp now : BitVec 32) (k : ℕ)

theorem constantChip_word : w.word (constantChip resp) now k = resp.setWidth 16 := rfl

theorem constantChip_clock :
    w.clock (constantChip resp) now (k + 1) - w.clock (constantChip resp) now k = 1 := by
  have hclock (j : ℕ) : w.clock (constantChip resp) now j = w.polled (constantChip resp) now j :=
    rfl
  have hnext : w.polled (constantChip resp) now (k + 1) = w.polled (constantChip resp) now k + 1 :=
    polled_succ w (constantChip resp) now k
  rw [hclock, hclock, hnext]
  grind

end

/-- Five milliseconds over the turn of the clock. -/
theorem waitForBitmask_bounded_over_turn :
    let w : Wait := ⟨regSxrVcoCtrl, 0x0002, 0x0002, 5⟩
    let d := constantChip 0
    let drv := { Driver.zero with initialized := true }
    let e := (waitForBitmask 6 drv w.addr w.mask w.value w.timeoutMs).exec d 0xFFFFFFFE
    ∃ k ≤ 5, e.trace.count (.xfer (cmdRead w.addr)) = k + 1 ∧
      (e.result = some ok ∧ w.word d 0xFFFFFFFE k &&& w.mask = w.value ∨
        e.result = some errTimeout ∧
          5 ≤ elapsed (w.clock d 0xFFFFFFFE) (started d 0xFFFFFFFE) k ∧
          ∀ j ≤ k, w.word d 0xFFFFFFFE j &&& w.mask ≠ w.value) := by
  intro w d drv
  have hclock : w.SteadyClock d 0xFFFFFFFE := by
    intro k
    rw [constantChip_clock]
    decide
  have hwords : ∀ k, w.word d 0xFFFFFFFE k < 0x8000 := by
    intro k
    rw [constantChip_word]
    decide
  exact waitForBitmask_bounded w d 0xFFFFFFFE drv 6 rfl hwords hclock (by decide) (by decide)

end Wait

end GhostBlade.Firmware.Lms7002m
