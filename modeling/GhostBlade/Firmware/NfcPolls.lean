import GhostBlade.Firmware.NfcFootprint

/-!
The polls of a transaction. The flags are those that polls in a row would find
on the device; the code stops at the first of them and answers by what the next
look at the flags finds. What it answers is compared with what the first flag
calls for.
-/

namespace GhostBlade.Firmware.St25r3916

open GhostBlade.Library Prog

/-! ### Polls -/

section

variable {σ : Type} (d : NfcDevice σ) (s : σ)

/-- The device after polls in a row. -/
def polled (k : Nat) : σ := (fun s => (pollStatus.exec d s).state)^[k] s

/-- What the `k`-th poll, from 0, would find of RXE. -/
def rxe (k : Nat) : Bool := (pollStatus.exec d (polled d s k)).result.irq1 &&& irq1Rxe != 0

def crc (k : Nat) : Bool := (pollStatus.exec d (polled d s k)).result.irq3 &&& irq3Crc != 0

/-- None of the first polls finds a flag. -/
def Quiet (rxe crc : Nat → Bool) (n : Nat) : Prop := ∀ i < n, rxe i = false ∧ crc i = false

variable {d s} {n m : Nat}

theorem rxe_zero : rxe d s 0 = ((pollStatus.exec d s).result.irq1 &&& irq1Rxe != 0) := rfl

theorem crc_zero : crc d s 0 = ((pollStatus.exec d s).result.irq3 &&& irq3Crc != 0) := rfl

theorem rxe_polled (k : Nat) : rxe d (polled d s m) k = rxe d s (m + k) := by
  unfold rxe polled
  rw [← Function.iterate_add_apply, Nat.add_comm]

theorem crc_polled (k : Nat) : crc d (polled d s m) k = crc d s (m + k) := by
  unfold crc polled
  rw [← Function.iterate_add_apply, Nat.add_comm]

/-- RXE ends the loop, whatever else was found. -/
theorem pollLoop_rxe (h : rxe d s 0 = true) :
    ((pollLoop (n + 1)).exec d s).result = none ∧
      ((pollLoop (n + 1)).exec d s).state = polled d s 1 := by
  rw [rxe_zero, bne_iff_ne] at h
  rw [pollLoop, exec_bind_result, exec_bind_state, if_pos h]
  exact ⟨rfl, rfl⟩

theorem pollLoop_crc (h : rxe d s 0 = false) (hcrc : crc d s 0 = true) :
    ((pollLoop (n + 1)).exec d s).result = some (-2) := by
  rw [rxe_zero, bne_eq_false_iff_eq] at h
  rw [crc_zero, bne_iff_ne] at hcrc
  rw [pollLoop, exec_bind_result, if_neg (not_not.mpr h), if_pos hcrc]
  simp

theorem pollLoop_silent (h : rxe d s 0 = false) (hcrc : crc d s 0 = false) :
    ((pollLoop (n + 1)).exec d s).result = ((pollLoop n).exec d (polled d s 1)).result ∧
      ((pollLoop (n + 1)).exec d s).state = ((pollLoop n).exec d (polled d s 1)).state := by
  rw [rxe_zero, bne_eq_false_iff_eq] at h
  rw [crc_zero, bne_eq_false_iff_eq] at hcrc
  rw [pollLoop, exec_bind_result, exec_bind_state, if_neg (not_not.mpr h),
    if_neg (not_not.mpr hcrc)]
  exact ⟨rfl, rfl⟩

/-- Polls that find nothing are gone through. -/
theorem pollLoop_skip (hquiet : Quiet (rxe d s) (crc d s) m) :
    ((pollLoop (m + n)).exec d s).result = ((pollLoop n).exec d (polled d s m)).result ∧
      ((pollLoop (m + n)).exec d s).state = ((pollLoop n).exec d (polled d s m)).state := by
  induction m generalizing s with
  | zero => simp [polled]
  | succ m ih =>
      have hfirst := hquiet 0 (by omega)
      have hrest : Quiet (rxe d (polled d s 1)) (crc d (polled d s 1)) m := by
        intro i hi
        rw [rxe_polled, crc_polled]
        exact hquiet (1 + i) (by omega)
      have hstep := pollLoop_silent (n := m + n) hfirst.1 hfirst.2
      have hskip := ih hrest
      have hstate : polled d (polled d s 1) m = polled d s (m + 1) := rfl
      rw [show m + 1 + n = m + n + 1 by omega, hstep.1, hstep.2, hskip.1, hskip.2, hstate]
      exact ⟨rfl, rfl⟩

/-- What ends the call looks at the flags as one more poll would. -/
theorem clearInterrupts_irq1 :
    ((clearInterrupts true true true false false).exec d s).result.irq1 =
      (pollStatus.exec d s).result.irq1 := by
  simp [clearInterrupts, readIrq, pollStatus]

theorem conclude_result (a : TransactArgs) :
    ((conclude a).exec d s).result = if rxe d s 0 then 0 else -1 := by
  rw [conclude, exec_bind_result, finish, clearInterrupts_irq1, rxe_zero]
  split
  · next h => simp [h]
  · next h =>
      have hrxe := bne_iff_ne.mpr h
      rw [if_pos hrxe]
      split <;> simp

end

/-! ### The first flag -/

section

variable {rxe crc : Nat → Bool} {n m limit : Nat} {result : Int} {delivered : Prop}

/-- The `m`-th poll is the first to find a flag. -/
def First (rxe crc : Nat → Bool) (m : Nat) : Prop :=
  Quiet rxe crc m ∧ (rxe m = true ∨ crc m = true)

/-- The outcome when a transaction may poll `limit` times. -/
structure Outcome (rxe crc : Nat → Bool) (limit : Nat) (delivered : Prop) (result : Int) :
    Prop where
  success : result = 0 ∧ delivered ↔ ∃ i < limit, rxe i = true ∧ ∀ j ≤ i, crc j = false
  crcError : (∃ i < limit, crc i = true ∧ ∀ j < i, rxe j = false) → result = -2
  timeout : result = -1 → Quiet rxe crc limit

/-- The condition, for a transaction that polls `n` times. -/
def OutcomeWhen (rxe crc : Nat → Bool) (n limit : Nat) : Prop :=
  Quiet rxe crc limit ∧ ¬ (n = limit ∧ rxe limit = true) ∨
    ∃ m < limit, First rxe crc m ∧
      (m < n ∧ (crc m = true ∧ rxe m = false ∨ crc m = false ∧ rxe (m + 1) = true) ∨
        m = n ∧ crc m = false)

theorem first_or_quiet (rxe crc : Nat → Bool) (n : Nat) :
    (∃ m < n, First rxe crc m) ∨ Quiet rxe crc n := by
  induction n with
  | zero => exact .inr fun i hi => absurd hi (Nat.not_lt_zero i)
  | succ n ih =>
      rcases ih with ⟨m, hm, hfirst⟩ | hquiet
      · exact .inl ⟨m, by omega, hfirst⟩
      · by_cases hflag : rxe n = true ∨ crc n = true
        · exact .inl ⟨n, by omega, hquiet, hflag⟩
        · apply Or.inr
          intro i hi
          rcases Nat.lt_succ_iff_lt_or_eq.mp hi with hlt | rfl
          · exact hquiet i hlt
          · simpa using hflag

theorem First.le_of_quiet (h : First rxe crc m) (hquiet : Quiet rxe crc n) : n ≤ m := by
  apply Nat.le_of_not_lt
  intro hlt
  have hnone := hquiet m hlt
  rcases h.2 with hrxe | hcrc
  · simp [hrxe] at hnone
  · simp [hcrc] at hnone

theorem First.unique (h : First rxe crc m) (hn : First rxe crc n) : m = n :=
  Nat.le_antisymm (hn.le_of_quiet h.1) (h.le_of_quiet hn.1)

theorem outcome_of_quiet (h : Quiet rxe crc limit) :
    Outcome rxe crc limit delivered result ↔ ¬ (result = 0 ∧ delivered) := by
  have hsuccess : ¬ ∃ i < limit, rxe i = true ∧ ∀ j ≤ i, crc j = false := by
    rintro ⟨i, hi, hrxe, _⟩
    simp [(h i hi).1] at hrxe
  constructor
  · intro houtcome hdone
    exact hsuccess (houtcome.success.mp hdone)
  · intro hdone
    refine ⟨iff_of_false hdone hsuccess, ?_, fun _ => h⟩
    rintro ⟨i, hi, hcrc, _⟩
    simp [(h i hi).2] at hcrc

theorem outcome_of_crc (h : First rxe crc m) (hm : m < limit) (hcrc : crc m = true) :
    Outcome rxe crc limit delivered result ↔ result = -2 := by
  constructor
  · intro houtcome
    exact houtcome.crcError ⟨m, hm, hcrc, fun j hj => (h.1 j hj).1⟩
  · rintro rfl
    refine ⟨iff_of_false (by simp) ?_, fun _ => rfl, by simp⟩
    rintro ⟨i, hi, hrxe, hnone⟩
    have hlt : i < m := by
      apply Nat.lt_of_not_le
      intro hle
      simp [hnone m hle] at hcrc
    simp [(h.1 i hlt).1] at hrxe

theorem outcome_of_rxe (h : First rxe crc m) (hm : m < limit) (hcrc : crc m = false) :
    Outcome rxe crc limit delivered result ↔ result = 0 ∧ delivered := by
  have hrxe : rxe m = true := by simpa [hcrc] using h.2
  have hsuccess : ∃ i < limit, rxe i = true ∧ ∀ j ≤ i, crc j = false := by
    refine ⟨m, hm, hrxe, ?_⟩
    intro j hj
    rcases Nat.lt_or_eq_of_le hj with hlt | rfl
    · exact (h.1 j hlt).2
    · exact hcrc
  constructor
  · intro houtcome
    exact houtcome.success.mpr hsuccess
  · intro hdone
    refine ⟨iff_of_true hdone hsuccess, ?_, by simp [hdone.1]⟩
    rintro ⟨i, hi, hi', hnone⟩
    have hle : m < i := by
      apply Nat.lt_of_not_le
      intro hle
      rcases Nat.lt_or_eq_of_le hle with hlt | rfl
      · simp [(h.1 i hlt).2] at hi'
      · simp [hcrc] at hi'
    simp [hnone m hle] at hrxe

theorem outcomeWhen_of_quiet (h : Quiet rxe crc limit) :
    OutcomeWhen rxe crc n limit ↔ ¬ (n = limit ∧ rxe limit = true) := by
  constructor
  · rintro (⟨_, hlate⟩ | ⟨m, hm, hfirst, _⟩)
    · exact hlate
    · exact absurd (hfirst.le_of_quiet h) (by omega)
  · exact fun hlate => .inl ⟨h, hlate⟩

theorem outcomeWhen_of_first (h : First rxe crc m) (hm : m < limit) :
    OutcomeWhen rxe crc n limit ↔
      m < n ∧ (crc m = true ∧ rxe m = false ∨ crc m = false ∧ rxe (m + 1) = true) ∨
        m = n ∧ crc m = false := by
  constructor
  · rintro (⟨hquiet, _⟩ | ⟨k, _, hfirst, hcond⟩)
    · exact absurd (h.le_of_quiet hquiet) (by omega)
    · rwa [h.unique hfirst]
  · exact fun hcond => .inr ⟨m, hm, h, hcond⟩

/-- What the code answers when it polls `n` times: after a poll with RXE and
after the last poll, the next look at the flags decides. -/
inductive Verdict (rxe crc : Nat → Bool) (n : Nat) : Int → Prop where
  | silent (hquiet : Quiet rxe crc n) : Verdict rxe crc n (if rxe n then 0 else -1)
  | received (m : Nat) (hm : m < n) (hfirst : First rxe crc m) (hrxe : rxe m = true) :
      Verdict rxe crc n (if rxe (m + 1) then 0 else -1)
  | crcError (m : Nat) (hm : m < n) (hfirst : First rxe crc m) (hrxe : rxe m = false) :
      Verdict rxe crc n (-2)

theorem Verdict.of_quiet (h : Verdict rxe crc n result) (hquiet : Quiet rxe crc limit)
    (hn : n ≤ limit) : result = 0 ↔ n = limit ∧ rxe limit = true := by
  cases h with
  | silent _ =>
      rcases Nat.lt_or_eq_of_le hn with hlt | rfl
      · simp [(hquiet n hlt).1, hlt.ne]
      · cases rxe n <;> simp
  | received m hm hfirst _ => exact absurd (hfirst.le_of_quiet hquiet) (by omega)
  | crcError m hm hfirst _ => exact absurd (hfirst.le_of_quiet hquiet) (by omega)

theorem Verdict.of_crc (h : Verdict rxe crc n result) (hfirst : First rxe crc m) :
    result = -2 ↔ m < n ∧ rxe m = false := by
  cases h with
  | silent hquiet =>
      have hle := hfirst.le_of_quiet hquiet
      cases rxe n <;> simp <;> omega
  | received k hk hfirst' hrxe =>
      obtain rfl := hfirst.unique hfirst'
      cases rxe (m + 1) <;> simp [hrxe]
  | crcError k hk hfirst' hrxe =>
      obtain rfl := hfirst.unique hfirst'
      simp [hk, hrxe]

theorem Verdict.of_rxe (h : Verdict rxe crc n result) (hfirst : First rxe crc m)
    (hcrc : crc m = false) : result = 0 ↔ m < n ∧ rxe (m + 1) = true ∨ m = n := by
  have hrxe : rxe m = true := by simpa [hcrc] using hfirst.2
  cases h with
  | silent hquiet =>
      rcases Nat.lt_or_eq_of_le (hfirst.le_of_quiet hquiet) with hlt | rfl
      · simp only [(hfirst.1 n hlt).1, Bool.false_eq_true, if_false]
        omega
      · simp [hrxe]
  | received k hk hfirst' _ =>
      obtain rfl := hfirst.unique hfirst'
      cases rxe (m + 1) <;> simp <;> omega
  | crcError k hk hfirst' hrxe' =>
      obtain rfl := hfirst.unique hfirst'
      simp [hrxe] at hrxe'

theorem Verdict.outcome_iff (h : Verdict rxe crc n result) (hn : n ≤ limit)
    (hdelivered : result = 0 → delivered) :
    Outcome rxe crc limit delivered result ↔ OutcomeWhen rxe crc n limit := by
  have hdone : result = 0 ∧ delivered ↔ result = 0 := and_iff_left_of_imp hdelivered
  rcases first_or_quiet rxe crc limit with ⟨m, hm, hfirst⟩ | hquiet
  · rw [outcomeWhen_of_first hfirst hm]
    cases hcrc : crc m with
    | true =>
        rw [outcome_of_crc hfirst hm hcrc, h.of_crc hfirst]
        simp
    | false =>
        rw [outcome_of_rxe hfirst hm hcrc, hdone, h.of_rxe hfirst hcrc]
        simp
  · rw [outcome_of_quiet hquiet, outcomeWhen_of_quiet hquiet, hdone, h.of_quiet hquiet hn]

end

/-! ### Transactions -/

section

variable {σ : Type} (d : NfcDevice σ) (s : σ) (a : TransactArgs)

/-- The device when the request has been sent. -/
def transmitted : σ := ((sendCommand cmdTxOn).exec d ((prepare a).exec d s).state).state

/-- The device when the flags have been looked at for the last time. -/
def concluded : σ :=
  ((clearInterrupts true true true false false).exec d
    ((pollLoop a.timeoutCount.toNat).exec d (transmitted d s a)).state).state

variable {d s a}

theorem transact_result (hvalid : a.invalid = false) :
    ((transact a).exec d s).result =
      let polls := (pollLoop a.timeoutCount.toNat).exec d (transmitted d s a)
      match polls.result with
      | some error => error
      | none => ((conclude a).exec d polls.state).result := by
  simp only [transact, hvalid, Bool.false_eq_true, if_false, exec_bind_result, transmitted]
  generalize (pollLoop a.timeoutCount.toNat).exec d _ = polls
  cases polls.result with
  | some error => rfl
  | none => rfl

theorem transact_verdict (hvalid : a.invalid = false) :
    Verdict (rxe d (transmitted d s a)) (crc d (transmitted d s a)) a.timeoutCount.toNat
      ((transact a).exec d s).result := by
  rw [transact_result hvalid]
  generalize transmitted d s a = t
  generalize a.timeoutCount.toNat = n
  dsimp only
  rcases first_or_quiet (rxe d t) (crc d t) n with ⟨m, hm, hfirst⟩ | hquiet
  · obtain ⟨k, rfl⟩ : ∃ k, n = m + (k + 1) := ⟨n - m - 1, by omega⟩
    have hskip := pollLoop_skip (n := k + 1) hfirst.1
    rw [hskip.1, hskip.2]
    cases hrxe : rxe d t m with
    | true =>
        have hloop := pollLoop_rxe (d := d) (s := polled d t m) (n := k) (by rwa [rxe_polled])
        rw [hloop.1, hloop.2, conclude_result, rxe_polled, rxe_polled]
        exact .received m (by omega) hfirst hrxe
    | false =>
        have hcrc : crc d t m = true := by simpa [hrxe] using hfirst.2
        rw [pollLoop_crc (by rwa [rxe_polled]) (by rwa [crc_polled])]
        exact .crcError m (by omega) hfirst hrxe
  · have hskip := pollLoop_skip (n := 0) hquiet
    rw [Nat.add_zero] at hskip
    rw [hskip.1, hskip.2]
    simp only [pollLoop, exec_pure, conclude_result, rxe_polled, Nat.add_zero]
    exact .silent hquiet

end

end GhostBlade.Firmware.St25r3916
