import Mathlib.Dynamics.PeriodicPts.Lemmas
import Mathlib.Data.Nat.Prime.Basic
import GhostBlade.Library.CrcErrors

/-!
How far apart two flipped bits have to be before a cyclic redundancy check
takes them for none. A bit step multiplies the register by the indeterminate,
modulo the generator; two errors cancel when the steps between them are a
period of the register. The register after a number of steps is computed by
squaring, so that a period can be checked, and the divisors of a period ruled
out, without taking that many steps.
-/

namespace GhostBlade.Library.Crc

open GhostBlade.Library Function

variable {w : Nat}

/-- The register with its top bit alone: the constant 1 as a polynomial. -/
def one (w : Nat) : BitVec w := BitVec.twoPow w (w - 1)

/-- The product of two registers modulo the generator. The top bit of a register
is its constant coefficient. -/
def product (poly b c : BitVec w) : BitVec w :=
  (List.range' 0 w).foldr
    (fun m acc => (if b.getMsbD m then c else 0#w) ^^^ bitStep poly acc) 0#w

/-- The register `one` after `n` steps, for `n` of at most as many binary digits
as the first argument says. -/
def power (poly : BitVec w) : Nat → Nat → BitVec w
  | 0, _ => one w
  | digits + 1, n =>
      let half := power poly digits (n / 2)
      let square := product poly half half
      if n % 2 = 1 then bitStep poly square else square

theorem bitStep_zero (poly : BitVec w) : bitStep poly 0#w = 0#w := by
  simp [bitStep]

theorem iterate_bitStep_zero (poly : BitVec w) (n : Nat) : (bitStep poly)^[n] 0#w = 0#w :=
  iterate_fixed (bitStep_zero poly) n

/-! ### The product -/

/-- Steps pass through a product to its second factor. -/
theorem iterate_product (poly b c : BitVec w) (n : Nat) :
    (bitStep poly)^[n] (product poly b c) = product poly b ((bitStep poly)^[n] c) := by
  unfold product
  induction List.range' 0 w with
  | nil => exact iterate_bitStep_zero poly n
  | cons m ms ih =>
      have hcommute (x : BitVec w) :
          (bitStep poly)^[n] (bitStep poly x) = bitStep poly ((bitStep poly)^[n] x) :=
        (Commute.iterate_self (bitStep poly) n).eq x
      rw [List.foldr_cons, List.foldr_cons, iterate_bitStep_xor, hcommute, ih]
      cases b.getMsbD m with
      | false => rw [if_neg (by decide), if_neg (by decide), iterate_bitStep_zero]
      | true => rw [if_pos rfl, if_pos rfl]

/-- A register without its top `s` bits, and the next of them. -/
theorem shiftLeft_top (b : BitVec w) (s : Nat) (hs : s < w) :
    b <<< s = (if b.getMsbD s then one w else 0#w) ^^^ (b <<< (s + 1)) >>> 1 := by
  apply BitVec.eq_of_getLsbD_eq
  intro i hi
  have hmsb : b.getMsbD s = b.getLsbD (w - 1 - s) := by
    simp [BitVec.getMsbD, hs]
  have hone : (if b.getMsbD s then one w else 0#w).getLsbD i =
      (b.getMsbD s && decide (i = w - 1)) := by
    cases b.getMsbD s with
    | false => simp
    | true => simp [one, hi]
  rw [BitVec.getLsbD_xor, hone, hmsb, BitVec.getLsbD_ushiftRight, BitVec.getLsbD_shiftLeft,
    BitVec.getLsbD_shiftLeft]
  by_cases htop : i = w - 1
  · subst htop
    have hlast : ¬ 1 + (w - 1) < w := by omega
    have hlow : ¬ w - 1 < s := by omega
    simp [hi, hlast, hlow]
  · have hnext : 1 + i < w := by omega
    have hsame : 1 + i - (s + 1) = i - s := by omega
    have hlow : (1 + i < s + 1) = (i < s) := by
      apply propext
      omega
    simp [hi, htop, hnext, hsame, hlow]

theorem product_one (poly b : BitVec w) : product poly b (one w) = b := by
  have htail (k : Nat) (hk : k ≤ w) : (List.range' (w - k) k).foldr
      (fun m acc => (if b.getMsbD m then one w else 0#w) ^^^ bitStep poly acc) 0#w =
        b <<< (w - k) := by
    induction k with
    | zero => simp
    | succ k ih =>
        have hnext : w - k = w - (k + 1) + 1 := by omega
        have hlow : (b <<< (w - k)).getLsbD 0 = false := by
          rw [BitVec.getLsbD_shiftLeft]
          have hshift : 0 < w - k := by omega
          simp [hshift]
        have hstep : bitStep poly (b <<< (w - k)) = (b <<< (w - k)) >>> 1 := by
          rw [bitStep, hlow]
          rfl
        rw [List.range'_succ, List.foldr_cons, ← hnext, ih (by omega), hstep, hnext]
        exact (shiftLeft_top b (w - (k + 1)) (by omega)).symm
  have hall := htail w le_rfl
  rwa [Nat.sub_self, BitVec.shiftLeft_zero] at hall

theorem power_eq (poly : BitVec w) (digits n : Nat) (hn : n < 2 ^ digits) :
    power poly digits n = (bitStep poly)^[n] (one w) := by
  induction digits generalizing n with
  | zero =>
      have hzero : n = 0 := by simpa using hn
      rw [hzero]
      rfl
  | succ digits ih =>
      have hhalf := ih (n / 2) (by omega)
      have hsquare : product poly (power poly digits (n / 2)) (power poly digits (n / 2)) =
          (bitStep poly)^[n / 2 + n / 2] (one w) := by
        calc product poly (power poly digits (n / 2)) (power poly digits (n / 2))
            = (bitStep poly)^[n / 2] (product poly (power poly digits (n / 2)) (one w)) := by
              rw [iterate_product, ← hhalf]
          _ = (bitStep poly)^[n / 2 + n / 2] (one w) := by
              rw [product_one, hhalf, iterate_add_apply]
      rw [power, hsquare]
      by_cases hodd : n % 2 = 1
      · have hsum : (n / 2 + n / 2).succ = n := by omega
        rw [if_pos hodd, ← iterate_succ_apply' (bitStep poly), hsum]
      · have hsum : n = n / 2 + n / 2 := by omega
        rw [if_neg hodd, ← hsum]

/-! ### Periods -/

/-- A period none of whose quotients by its prime divisors is one is the
smallest. -/
theorem minimalPeriod_of_primes {α : Type*} {f : α → α} {x : α} {n : Nat}
    (hperiod : IsPeriodicPt f n x)
    (hprime : ∀ p, p.Prime → p ∣ n → ¬ IsPeriodicPt f (n / p) x) : minimalPeriod f x = n := by
  obtain ⟨k, hk⟩ := hperiod.minimalPeriod_dvd
  by_cases hone : k = 1
  · rw [hk, hone, mul_one]
  · obtain ⟨p, hp, l, rfl⟩ := Nat.exists_prime_and_dvd hone
    have hquotient : n / p = minimalPeriod f x * l := by
      apply Nat.div_eq_of_eq_mul_right hp.pos
      rw [hk]
      ring
    refine absurd ?_ (hprime p hp ⟨minimalPeriod f x * l, ?_⟩)
    · rw [hquotient, isPeriodicPt_iff_minimalPeriod_dvd]
      exact ⟨l, rfl⟩
    · rw [hk]
      ring

/-- A polynomial with its top bit loses nothing in a step. -/
theorem bitStep_injective {poly : BitVec w} (htop : 2 ^ w ≤ 2 * poly.toNat) :
    Injective (bitStep poly) := by
  intro x y hxy
  have hzero : bitStep poly (x ^^^ y) = 0#w := by
    rw [bitStep_xor, hxy, BitVec.xor_self]
  have hnat := divStep_toNat poly (x ^^^ y)
  rw [hzero, BitVec.toNat_ofNat, Nat.zero_mod] at hnat
  have hlt := (x ^^^ y).isLt
  rcases divStep_eq_zero hnat with hsum | hgenerator
  · exact BitVec.xor_eq_zero_iff.mp (BitVec.eq_of_toNat_eq (by simpa using hsum))
  · omega

/-- The lowest bit has the periods of the top bit, from which `w - 1` steps lead
to it. -/
theorem isPeriodicPt_lowBit (hw : 0 < w) {poly : BitVec w} (htop : 2 ^ w ≤ 2 * poly.toNat)
    (n : Nat) :
    IsPeriodicPt (bitStep poly) n 1#w ↔ minimalPeriod (bitStep poly) (one w) ∣ n := by
  have hlow : (bitStep poly)^[w - 1] (one w) = 1#w := by
    rw [iterate_bitStep_of_low_zero]
    · apply BitVec.eq_of_getLsbD_eq
      intro i hi
      have hbit : (w - 1 = w - 1 + i) = (i = 0) := by
        apply propext
        omega
      have hin : w - 1 + i < w ∨ i ≠ 0 := by omega
      rw [BitVec.getLsbD_ushiftRight, one, BitVec.getLsbD_twoPow, BitVec.getLsbD_one]
      rcases Nat.eq_zero_or_pos i with rfl | hpos
      · simp [hw]
      · have hne : w - 1 ≠ w - 1 + i := by omega
        have hi0 : i ≠ 0 := by omega
        simp [hi0]
    · intro i hi
      rw [one, BitVec.getLsbD_twoPow]
      have hne : w - 1 ≠ i := by omega
      simp [hne]
  have hinjective := (bitStep_injective htop).iterate (w - 1)
  rw [← isPeriodicPt_iff_minimalPeriod_dvd, IsPeriodicPt, IsPeriodicPt, IsFixedPt, IsFixedPt,
    ← hlow, ← iterate_add_apply, Nat.add_comm n, iterate_add_apply]
  exact hinjective.eq_iff

/-! ### Two flipped bits -/

/-- The two bits of a byte string that an error flips. -/
def FlipsTwo (i j : Nat) (error : List Byte) : Prop :=
  ∀ k, bitAt error k = true ↔ k = i ∨ k = j

theorem bitAt_lt {bytes : List Byte} {i : Nat} (h : bitAt bytes i = true) :
    i < 8 * bytes.length := by
  by_contra hout
  have hbyte : bytes.length ≤ i / 8 := by omega
  rw [bitAt, List.getD_eq_getElem?_getD, List.getElem?_eq_none hbyte] at h
  simp at h

theorem FlipsTwo.value {i j : Nat} {error : List Byte} (h : FlipsTwo i j error) (hij : i < j) :
    leValue error = 1 <<< i ^^^ 1 <<< j := by
  apply Nat.eq_of_testBit_eq
  intro k
  have hbit := h k
  have hpow (m : Nat) : (1 <<< m).testBit k = decide (m = k) := by
    rw [Nat.shiftLeft_eq, one_mul, Nat.testBit_two_pow]
  rw [testBit_leValue, Nat.testBit_xor, hpow, hpow, Bool.eq_iff_iff, hbit]
  by_cases hi : i = k
  · have hj : j ≠ k := by omega
    simp [hi, hj]
  · simp [hi, Ne.symm hi, eq_comm]

/-- A single bit of the string, divided as far as it goes and then stepped in the
register. -/
theorem iterate_divStep_bit (hw : 0 < w) (poly : BitVec w) {i n : Nat} (hin : i ≤ n) :
    (divStep poly.toNat)^[n] (1 <<< i) = ((bitStep poly)^[n - i] 1#w).toNat := by
  have hone : (1#w).toNat = 1 := by
    have hlt : 1 < 2 ^ w := Nat.one_lt_two_pow (by omega)
    rw [BitVec.toNat_ofNat, Nat.mod_eq_of_lt hlt]
  calc (divStep poly.toNat)^[n] (1 <<< i)
      = (divStep poly.toNat)^[n - i] ((divStep poly.toNat)^[i] (1 <<< i)) := by
        rw [← iterate_add_apply, Nat.sub_add_cancel hin]
    _ = (divStep poly.toNat)^[n - i] (1#w).toNat := by
        rw [iterate_divStep_shiftLeft, hone]
    _ = _ := iterate_divStep_toNat poly _ _

/-- Two flipped bits go unnoticed exactly when the bits between them are a
multiple of the register's period. -/
theorem bitwise_flipsTwo_eq_zero_iff (hw : 8 ≤ w) {poly : BitVec w}
    (htop : 2 ^ w ≤ 2 * poly.toNat) {i j : Nat} {error : List Byte} (h : FlipsTwo i j error)
    (hij : i < j) :
    bitwise poly 0#w error = 0#w ↔ minimalPeriod (bitStep poly) (one w) ∣ j - i := by
  have hj : j < 8 * error.length := bitAt_lt ((h j).mpr (.inr rfl))
  have hdiv := bitwise_toNat hw poly 0#w error
  rw [BitVec.toNat_ofNat, Nat.zero_mod, Nat.zero_xor, h.value hij, iterate_divStep_xor,
    iterate_divStep_bit (by omega) poly (by omega), iterate_divStep_bit (by omega) poly hj.le,
    ← BitVec.toNat_xor] at hdiv
  have hsteps : 8 * error.length - i = (8 * error.length - j) + (j - i) := by omega
  rw [← isPeriodicPt_lowBit (by omega) htop, BitVec.eq_of_toNat_eq hdiv, BitVec.xor_eq_zero_iff,
    hsteps, iterate_add_apply]
  exact ((bitStep_injective htop).iterate _).eq_iff

/-! ### A string and its check behind it -/

/-- Bytes that fit into the register are added to it and stepped through. -/
theorem bitwise_short (hw : 8 ≤ w) (poly r : BitVec w) (bytes : List Byte)
    (hlen : 8 * bytes.length ≤ w) :
    bitwise poly r bytes =
      (bitStep poly)^[8 * bytes.length] (r ^^^ BitVec.ofNat w (leValue bytes)) := by
  have hfits : leValue bytes < 2 ^ w := by
    calc leValue bytes < 256 ^ bytes.length := leValue_lt bytes
      _ = 2 ^ (8 * bytes.length) := by rw [Nat.pow_mul]
      _ ≤ 2 ^ w := Nat.pow_le_pow_right (by omega) hlen
  have hsum : r.toNat ^^^ leValue bytes = (r ^^^ BitVec.ofNat w (leValue bytes)).toNat := by
    rw [BitVec.toNat_xor, BitVec.toNat_ofNat, Nat.mod_eq_of_lt hfits]
  apply BitVec.eq_of_toNat_eq
  rw [bitwise_toNat hw, hsum, iterate_divStep_toNat]

/-- An error on a string and on the check behind it goes unnoticed exactly when
the error on the check is the check of the error on the string. -/
theorem bitwise_append_eq_zero_iff (hw : 8 ≤ w) {poly : BitVec w}
    (htop : 2 ^ w ≤ 2 * poly.toNat) (es check : List Byte) (hlen : 8 * check.length ≤ w) :
    bitwise poly 0#w (es ++ check) = 0#w ↔
      bitwise poly 0#w es = BitVec.ofNat w (leValue check) := by
  have hsplit : bitwise poly 0#w (es ++ check) = bitwise poly (bitwise poly 0#w es) check :=
    List.foldl_append
  have hzero := iterate_bitStep_zero poly (8 * check.length)
  rw [hsplit, bitwise_short hw poly _ check hlen]
  constructor
  · intro h
    exact BitVec.xor_eq_zero_iff.mp (((bitStep_injective htop).iterate _) (h.trans hzero.symm))
  · intro h
    rw [BitVec.xor_eq_zero_iff.mpr h, hzero]

end GhostBlade.Library.Crc
