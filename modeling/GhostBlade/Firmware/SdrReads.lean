import GhostBlade.Firmware.SdrRegisters

/-!
What the reads hand on of the words of the chip. The accessor returns a word as
a signed number, where negative numbers are errors; so a word arrives exactly
when its top bit is clear, and what is built from several words needs that of
all of them.
-/

namespace GhostBlade.Firmware.Lms7002m

open GhostBlade.Library Prog

/-! ### Words -/

/-- The 16 data bits of a response. -/
def low (resp : BitVec 32) : BitVec 16 := resp.setWidth 16

/-- The top data bit is clear. -/
def Fits (resp : BitVec 32) : Prop := resp.getLsbD 15 = false

instance (resp : BitVec 32) : Decidable (Fits resp) := inferInstanceAs (Decidable (_ = _))

/-- Bits 0 to 11 of the status word. -/
def fillOf (resp : BitVec 32) : BitVec 16 := (resp.extractLsb' 0 12).setWidth 16

/-- Bit 15 of the status word. -/
def lockedOf (resp : BitVec 32) : Bool := resp.getLsbD 15

section

variable (resp : BitVec 32)

theorem readValue_neg_iff : readValue resp < 0 ↔ ¬Fits resp := by
  have hmsb : (low resp).msb = resp.getLsbD 15 := by
    simp [low, BitVec.msb_setWidth]
  rw [readValue, Fits, ← hmsb, BitVec.msb_eq_toInt]
  simp [low]

theorem readValue_eq_iff : readValue resp = (low resp).toNat ↔ Fits resp := by
  constructor
  · intro h
    by_contra hunfit
    have hneg := (readValue_neg_iff resp).mpr hunfit
    omega
  · intro h
    have hpos : ¬readValue resp < 0 := fun hneg => (readValue_neg_iff resp).mp hneg h
    rw [readValue] at hpos ⊢
    rw [low]
    have hcond := BitVec.toInt_eq_toNat_cond (resp.setWidth 16)
    split at hcond <;> omega

/-- The status word as `lms7002m_get_status` sees it. -/
theorem ofInt_of_fits (h : Fits resp) :
    BitVec.ofInt 32 (readValue resp) = (low resp).setWidth 32 := by
  rw [(readValue_eq_iff resp).mpr h, BitVec.ofInt_natCast, BitVec.ofNat_toNat]

theorem fill_of_fits (h : Fits resp) :
    ((BitVec.ofInt 32 (readValue resp)) &&& 0x0FFF).setWidth 16 = fillOf resp := by
  have hmask : ∀ i (hi : i < 16), (0x0FFF#16)[i] = decide (i < 12) := by decide
  rw [ofInt_of_fits resp h]
  ext i hi
  have hwide : i < 32 := by omega
  simp [fillOf, low, hmask i hi, hwide, Bool.and_comm]

theorem locked_of_fits (h : Fits resp) :
    decide (BitVec.ofInt 32 (readValue resp) &&& 0x8000 ≠ 0) = lockedOf resp := by
  have hbit : (0x8000 : BitVec 32) = BitVec.twoPow 32 15 := by decide
  have hclear : ((low resp).setWidth 32).getLsbD 15 = false := by
    rw [low, BitVec.getLsbD_setWidth, BitVec.getLsbD_setWidth, h]
    rfl
  rw [ofInt_of_fits resp h, hbit, BitVec.and_twoPow, hclear, lockedOf, h]
  simp

end

/-! ### The chip's words in order -/

/-- A chip that answers with one response after the other; the state counts them. -/
def replay (responses : ℕ → BitVec 32) : LmsDevice ℕ
  | .xfer _, n => (responses n, n + 1)
  | .timestampMs, n => (0, n)
  | .delayMs _, n | .store _ _, n => ((), n)

/-- What went into the caller's buffer. -/
def stored (ops : List LmsOp) : List (ℕ × BitVec 16) :=
  ops.filterMap fun
    | .store i val => some (i, val)
    | _ => none

/-- The words of `count` responses from the `n`-th on, with their places. -/
def words (responses : ℕ → BitVec 32) (n count : ℕ) : List (ℕ × BitVec 16) :=
  (List.range count).map fun j => (j, low (responses (n + j)))

theorem stored_append (ops ops' : List LmsOp) :
    stored (ops ++ ops') = stored ops ++ stored ops' := List.filterMap_append

section

variable (responses : ℕ → BitVec 32) {drv : Driver}

/-- Reads in a row go through exactly if every word fits, and then store them all. -/
theorem exec_spiReads (hinit : drv.initialized = true) (addrs : List (BitVec 16)) (i n : ℕ) :
    let e := (spiReads drv i addrs).exec (replay responses) n
    ((∀ j < addrs.length, Fits (responses (n + j))) → e.result = ok ∧
        stored e.trace =
          (List.range addrs.length).map fun j => (i + j, low (responses (n + j)))) ∧
      (¬(∀ j < addrs.length, Fits (responses (n + j))) → e.result < 0) := by
  induction addrs generalizing i n with
  | nil => exact ⟨fun _ => ⟨rfl, rfl⟩, fun h => absurd nofun h⟩
  | cons addr rest ih =>
      have hread : (spiRead drv addr).exec (replay responses) n =
          ⟨readValue (responses n), [.xfer (cmdRead addr)], n + 1⟩ :=
        exec_spiRead (replay responses) n hinit addr
      have hall : (∀ j < (addr :: rest).length, Fits (responses (n + j))) ↔
          Fits (responses n) ∧ ∀ j < rest.length, Fits (responses (n + 1 + j)) := by
        rw [List.length_cons, Nat.forall_lt_succ_left]
        simp only [Nat.add_zero, Nat.add_assoc, Nat.add_comm 1]
      rw [spiReads, exec_bind, hread, hall]
      dsimp only
      by_cases hfits : Fits (responses n)
      · obtain ⟨hgood, hbad⟩ := ih (i + 1) (n + 1)
        have hpos : ¬readValue (responses n) < 0 := fun h => (readValue_neg_iff _).mp h hfits
        rw [if_neg hpos, exec_bind, and_iff_right hfits]
        refine ⟨fun h => ?_, hbad⟩
        obtain ⟨hok, hstored⟩ := hgood h
        refine ⟨hok, ?_⟩
        have hfirst : BitVec.ofInt 16 (readValue (responses n)) = low (responses n) :=
          BitVec.ofInt_toInt
        change (i, BitVec.ofInt 16 (readValue (responses n))) ::
          stored ((spiReads drv (i + 1) rest).exec (replay responses) (n + 1)).trace = _
        rw [hfirst, hstored, List.length_cons, List.range_succ_eq_map, List.map_cons, List.map_map]
        simp only [Nat.add_zero, Function.comp_def, Nat.succ_eq_add_one, Nat.add_assoc,
          Nat.add_comm 1]
      · have hneg := (readValue_neg_iff (responses n)).mpr hfits
        rw [if_pos hneg]
        exact ⟨fun h => absurd h.1 hfits, fun _ => hneg⟩

theorem exec_getStatus (hinit : drv.initialized = true) (n : ℕ) :
    ((getStatus drv).exec (replay responses) n).state = n + 1 ∧
      (stored ((getStatus drv).exec (replay responses) n).trace = []) ∧
      (Fits (responses n) → ((getStatus drv).exec (replay responses) n).result =
        .ok (fillOf (responses n), lockedOf (responses n))) ∧
      (¬Fits (responses n) → ((getStatus drv).exec (replay responses) n).result =
        .error (readValue (responses n))) := by
  rw [getStatus, if_neg (guard_passed hinit), exec_bind, exec_spiRead _ _ hinit]
  dsimp only [replay]
  by_cases hfits : Fits (responses n)
  · have hpos : ¬readValue (responses n) < 0 := fun h => (readValue_neg_iff _).mp h hfits
    rw [if_neg hpos]
    refine ⟨rfl, rfl, fun _ => ?_, fun h => absurd hfits h⟩
    dsimp only [exec_pure]
    rw [fill_of_fits _ hfits, locked_of_fits _ hfits]
  · rw [if_pos ((readValue_neg_iff _).mpr hfits)]
    exact ⟨rfl, rfl, fun h => absurd h hfits, fun _ => rfl⟩

theorem exec_spiReadBurst (hinit : drv.initialized = true) {startAddr numRegs : BitVec 16}
    (hvalid : validBlock startAddr numRegs = true) (n : ℕ) :
    let e := (spiReadBurst drv startAddr true numRegs).exec (replay responses) n
    ((∀ j < numRegs.toNat, Fits (responses (n + j))) → e.result = numRegs.toNat ∧
        stored e.trace = words responses n numRegs.toNat) ∧
      (¬(∀ j < numRegs.toNat, Fits (responses (n + j))) → e.result < 0) := by
  have hlength : (blockAddrs startAddr numRegs).length = numRegs.toNat := by
    simp [blockAddrs]
  have hreads := exec_spiReads responses hinit (blockAddrs startAddr numRegs) 0 n
  rw [hlength] at hreads
  obtain ⟨hgood, hbad⟩ := hreads
  have hblock : ¬(!validBlock startAddr numRegs) = true := by simp [hvalid]
  rw [spiReadBurst, if_neg (by decide), if_neg hblock, exec_bind]
  dsimp only
  refine ⟨fun h => ?_, fun h => ?_⟩
  · obtain ⟨hok, hstored⟩ := hgood h
    rw [hok, if_neg (by decide)]
    dsimp only [exec_pure]
    rw [List.append_nil, hstored]
    simp [words]
  · rw [if_pos (hbad h)]
    exact hbad h

theorem exec_readFifo (hinit : drv.initialized = true) {numSamples : BitVec 16}
    (hnum : numSamples ≠ 0) (n : ℕ) :
    let e := (readFifo drv true numSamples).exec (replay responses) n
    let count := min numSamples.toNat (fillOf (responses n)).toNat
    let fits := Fits (responses n) ∧ ∀ j < 2 * count, Fits (responses (n + 1 + j))
    (fits → e.result = count ∧ stored e.trace = words responses (n + 1) (2 * count)) ∧
      (¬fits → e.result < 0) := by
  have hvalid : ¬(!true || decide (numSamples = 0)) = true := by simpa using hnum
  obtain ⟨hnext, hquiet, hgood, hbad⟩ := exec_getStatus responses hinit n
  rw [readFifo, if_neg (guard_passed hinit), if_neg hvalid, exec_bind]
  dsimp only
  by_cases hfits : Fits (responses n)
  · rw [hgood hfits, hnext, and_iff_right hfits, exec_bind]
    dsimp only
    generalize hcapped : (if fillOf (responses n) < numSamples then fillOf (responses n)
      else numSamples) = capped
    have hcount : min numSamples.toNat (fillOf (responses n)).toNat = capped.toNat := by
      rw [← hcapped]
      split
      · next hless => exact Nat.min_eq_right (Nat.le_of_lt hless)
      · next hmore => exact Nat.min_eq_left (Nat.le_of_not_lt hmore)
    obtain ⟨hread, hfail⟩ := exec_spiReads responses hinit
      (List.replicate (2 * capped.toNat) regFifoStatus) 0 (n + 1)
    rw [hcount]
    rw [List.length_replicate] at hread hfail
    refine ⟨fun h => ?_, fun h => ?_⟩
    · obtain ⟨hok, hstored⟩ := hread h
      rw [hok, if_neg (by decide)]
      refine ⟨rfl, ?_⟩
      dsimp only [exec_pure]
      rw [List.append_nil, stored_append, hquiet, hstored, List.nil_append]
      simp [words]
    · rw [if_pos (hfail h)]
      exact hfail h
  · rw [hbad hfits]
    exact ⟨fun h => absurd h.1 hfits, fun _ => (readValue_neg_iff _).mpr hfits⟩

end

/-! ### Calls -/

inductive ReadCall where
  | spiRead (addr : BitVec 16)
  | spiReadBurst (startAddr numRegs : BitVec 16)
  | getStatus
  | readFifo (numSamples : BitVec 16)

namespace ReadCall

/-- The arguments are accepted. -/
def Valid : ReadCall → Prop
  | .spiReadBurst startAddr numRegs => validBlock startAddr numRegs = true
  | .readFifo numSamples => numSamples ≠ 0
  | .spiRead _ | .getStatus => True

/-- How many samples a read of the FIFO is to bring. -/
def available (responses : ℕ → BitVec 32) (n : ℕ) (numSamples : BitVec 16) : ℕ :=
  min numSamples.toNat (fillOf (responses n)).toNat

/-- The call hands on the words of the chip, from the `n`-th response on. -/
def Carries (responses : ℕ → BitVec 32) (drv : Driver) (n : ℕ) : ReadCall → Prop
  | .spiRead addr =>
      ((Lms7002m.spiRead drv addr).exec (replay responses) n).result = (low (responses n)).toNat
  | .spiReadBurst startAddr numRegs =>
      let e := (Lms7002m.spiReadBurst drv startAddr true numRegs).exec (replay responses) n
      e.result = numRegs.toNat ∧ stored e.trace = words responses n numRegs.toNat
  | .getStatus =>
      ((Lms7002m.getStatus drv).exec (replay responses) n).result =
        .ok (fillOf (responses n), lockedOf (responses n))
  | .readFifo numSamples =>
      let e := (Lms7002m.readFifo drv true numSamples).exec (replay responses) n
      let count := available responses n numSamples
      e.result = count ∧ stored e.trace = words responses (n + 1) (2 * count)

/-- No response that the call needs has its top data bit set. -/
def AllFit (responses : ℕ → BitVec 32) (n : ℕ) : ReadCall → Prop
  | .spiRead _ | .getStatus => Fits (responses n)
  | .spiReadBurst _ numRegs => ∀ j < numRegs.toNat, Fits (responses (n + j))
  | .readFifo numSamples =>
      Fits (responses n) ∧
        ∀ j < 2 * available responses n numSamples, Fits (responses (n + 1 + j))

end ReadCall

/-- A read brings what the chip has sent exactly if no word of it has the top bit
set; otherwise the word is returned as an error. -/
theorem reads_carry_iff (responses : ℕ → BitVec 32) (drv : Driver) (n : ℕ) (c : ReadCall)
    (hinit : drv.initialized = true) (hvalid : c.Valid) :
    c.Carries responses drv n ↔ c.AllFit responses n := by
  have hpos {e : Int} {count : ℕ} (hneg : e < 0) : e ≠ count := by omega
  cases c with
  | spiRead addr =>
      rw [ReadCall.Carries, exec_spiRead _ _ hinit]
      exact readValue_eq_iff (responses n)
  | spiReadBurst startAddr numRegs =>
      obtain ⟨hgood, hbad⟩ := exec_spiReadBurst responses hinit hvalid n
      exact ⟨fun h => not_not.mp fun hunfit => hpos (hbad hunfit) h.1, hgood⟩
  | getStatus =>
      obtain ⟨_, _, hgood, hbad⟩ := exec_getStatus responses hinit n
      refine ⟨fun h => not_not.mp fun hunfit => ?_, hgood⟩
      rw [ReadCall.Carries, hbad hunfit] at h
      cases h
  | readFifo numSamples =>
      obtain ⟨hgood, hbad⟩ := exec_readFifo responses hinit hvalid n
      exact ⟨fun h => not_not.mp fun hunfit => hpos (hbad hunfit) h.1, hgood⟩

theorem reads_carry_iff_positive_samples :
    let drv := { Driver.zero with initialized := true }
    (ReadCall.readFifo 2).Carries (fun _ => 0x0003) drv 0 ↔
      (ReadCall.readFifo 2).AllFit (fun _ => 0x0003) 0 :=
  reads_carry_iff (fun _ => 0x0003) { Driver.zero with initialized := true } 0 (.readFifo 2) rfl
    (show (2 : BitVec 16) ≠ 0 by decide)

/-- The status word 0x8005 says locked and five samples in the FIFO; it arrives as
an error. -/
theorem locked_status_is_error :
    let drv := { Driver.zero with initialized := true }
    let e := (getStatus drv).exec (replay fun _ => 0x8005) 0
    lockedOf 0x8005 = true ∧ fillOf 0x8005 = 5 ∧ e.result = .error (-32763) ∧
      ¬ReadCall.getStatus.Carries (fun _ => 0x8005) drv 0 := by
  intro drv e
  have herror : e.result = .error (-32763) := rfl
  refine ⟨by decide, by decide, herror, fun h => ?_⟩
  cases herror.symm.trans h

end GhostBlade.Firmware.Lms7002m
