import Mathlib.Data.LawfulXor.Basic
import GhostBlade.Library.Crc

/-!
Which errors a reflected cyclic redundancy check detects. The check of a sum
is the sum of the checks, so an error goes unnoticed exactly when its own
check, from the zero register, is zero. That check is a division: the register
and everything still to come are one number, and every bit step divides it
once by the generator. A step forgets a number only when it is the generator
itself, one bit wider than the register if the polynomial has its top bit.
-/

namespace GhostBlade.Library.Crc

open GhostBlade.Library

variable {w : Nat}

/-- Two byte strings added bit by bit. -/
def xorBytes (xs es : List Byte) : List Byte := List.zipWith (· ^^^ ·) xs es

/-- Bit `i` of a byte string, the bytes in order and each from its least
significant bit. -/
def bitAt (bytes : List Byte) (i : Nat) : Bool := (bytes.getD (i / 8) 0).getLsbD (i % 8)

/-- A non-zero error confined to `width` consecutive bits. -/
structure Burst (width : Nat) (error : List Byte) : Prop where
  nonzero : ∃ b ∈ error, b ≠ 0
  confined : ∃ start, ∀ i, bitAt error i = true → start ≤ i ∧ i < start + width

@[simp] theorem xorBytes_length (xs es : List Byte) (h : es.length = xs.length) :
    (xorBytes xs es).length = xs.length := by
  simp [xorBytes, h]

theorem byteStep_xor (poly x y : BitVec w) (b e : Byte) :
    byteStep poly (x ^^^ y) (b ^^^ e) = byteStep poly x b ^^^ byteStep poly y e := by
  have hsum : (x ^^^ y) ^^^ (b ^^^ e).setWidth w =
      (x ^^^ b.setWidth w) ^^^ (y ^^^ e.setWidth w) := by
    rw [BitVec.setWidth_xor]
    ac_rfl
  simp only [byteStep, hsum, iterate_bitStep_xor]

/-- The check is linear. -/
theorem bitwise_xor (poly x y : BitVec w) (xs es : List Byte) (h : es.length = xs.length) :
    bitwise poly (x ^^^ y) (xorBytes xs es) = bitwise poly x xs ^^^ bitwise poly y es := by
  induction xs generalizing es x y with
  | nil =>
      have hnil : es = [] := by simpa using h
      simp [hnil, xorBytes, bitwise]
  | cons b xs ih =>
      cases es with
      | nil => simp at h
      | cons e es =>
          have hrest := ih (byteStep poly x b) (byteStep poly y e) es (by simpa using h)
          simp only [xorBytes, List.zipWith_cons_cons, bitwise, List.foldl_cons] at hrest ⊢
          rw [byteStep_xor, hrest]

/-- An error is noticed when its own check is not zero. -/
theorem bitwise_xor_ne (poly init : BitVec w) (xs es : List Byte) (h : es.length = xs.length)
    (hes : bitwise poly 0#w es ≠ 0#w) :
    bitwise poly init (xorBytes xs es) ≠ bitwise poly init xs := by
  have hsum := bitwise_xor poly init 0#w xs es h
  rw [BitVec.xor_zero] at hsum
  intro heq
  apply hes
  calc bitwise poly 0#w es
      = bitwise poly init xs ^^^ (bitwise poly init xs ^^^ bitwise poly 0#w es) := by
        rw [← BitVec.xor_assoc, BitVec.xor_self, BitVec.zero_xor]
    _ = 0#w := by rw [← hsum, heq, BitVec.xor_self]

/-- One bit step on the register and all that is still to come. -/
def divStep (poly m : Nat) : Nat := if m.testBit 0 then (m >>> 1) ^^^ poly else m >>> 1

theorem divStep_toNat (poly x : BitVec w) :
    divStep poly.toNat x.toNat = (bitStep poly x).toNat := by
  unfold divStep bitStep
  rw [BitVec.testBit_toNat]
  split
  · rw [BitVec.toNat_xor, BitVec.toNat_ushiftRight]
  · rw [BitVec.toNat_ushiftRight]

theorem iterate_divStep_toNat (poly x : BitVec w) (n : Nat) :
    (divStep poly.toNat)^[n] x.toNat = ((bitStep poly)^[n] x).toNat := by
  induction n generalizing x with
  | zero => rfl
  | succ n ih => rw [Function.iterate_succ_apply, divStep_toNat, ih, Function.iterate_succ_apply]

theorem divStep_xor (poly a b : Nat) :
    divStep poly (a ^^^ b) = divStep poly a ^^^ divStep poly b := by
  simp only [divStep, Nat.testBit_xor, Nat.shiftRight_xor_distrib]
  cases a.testBit 0 <;> cases b.testBit 0
  · simp
  · simp [Nat.xor_assoc]
  · simp only [Bool.xor_false, if_true, Bool.false_eq_true, if_false]
    ac_rfl
  · simp only [Bool.xor_self, Bool.false_eq_true, if_false, if_true]
    calc (a >>> 1) ^^^ (b >>> 1)
        = ((a >>> 1) ^^^ (b >>> 1)) ^^^ (poly ^^^ poly) := by simp
      _ = ((a >>> 1) ^^^ poly) ^^^ ((b >>> 1) ^^^ poly) := by ac_rfl

theorem iterate_divStep_xor (poly n a b : Nat) :
    (divStep poly)^[n] (a ^^^ b) = (divStep poly)^[n] a ^^^ (divStep poly)^[n] b := by
  induction n generalizing a b with
  | zero => rfl
  | succ n ih => simp only [Function.iterate_succ_apply, divStep_xor, ih]

theorem divStep_shiftLeft (poly m n : Nat) : divStep poly (m <<< (n + 1)) = m <<< n := by
  have hlow : (m <<< (n + 1)).testBit 0 = false := by
    simp
  rw [divStep, hlow, Nat.shiftLeft_succ, Nat.shiftRight_one]
  simp only [Bool.false_eq_true, if_false]
  omega

theorem iterate_divStep_shiftLeft (poly m n : Nat) :
    (divStep poly)^[n] (m <<< n) = m := by
  induction n with
  | zero => rfl
  | succ n ih => rw [Function.iterate_succ_apply, divStep_shiftLeft, ih]

theorem leValue_cons (b : Byte) (rest : List Byte) :
    leValue (b :: rest) = b.toNat ^^^ (leValue rest <<< 8) := by
  have hb : b.toNat < 2 ^ 8 := b.isLt
  have hor := Nat.shiftLeft_add_eq_or_of_lt hb (leValue rest)
  have hcons : leValue (b :: rest) = leValue rest <<< 8 + b.toNat := by
    rw [leValue, Nat.shiftLeft_eq]
    omega
  rw [hcons, hor]
  apply Nat.eq_of_testBit_eq
  intro i
  rw [Nat.testBit_or, Nat.testBit_xor, Nat.testBit_shiftLeft]
  by_cases hi : 8 ≤ i
  · have hout : b.toNat.testBit i = false := by
      apply Nat.testBit_lt_two_pow
      calc b.toNat < 2 ^ 8 := hb
        _ ≤ 2 ^ i := Nat.pow_le_pow_right (by omega) hi
    simp [hi, hout]
  · simp [hi]

/-- The register after a byte string: the division of register and string by
as many steps as the string has bits. -/
theorem bitwise_toNat (hw : 8 ≤ w) (poly r : BitVec w) (data : List Byte) :
    (bitwise poly r data).toNat =
      (divStep poly.toNat)^[8 * data.length] (r.toNat ^^^ leValue data) := by
  induction data generalizing r with
  | nil => simp [bitwise, leValue]
  | cons b rest ih =>
      have hbyte : b.toNat = (b.setWidth w).toNat := (setWidth_byte_toNat b hw).symm
      have hload : r.toNat ^^^ leValue (b :: rest) =
          (r ^^^ b.setWidth w).toNat ^^^ (leValue rest <<< 8) := by
        rw [leValue_cons, hbyte, BitVec.toNat_xor, Nat.xor_assoc]
      have hsteps : 8 * (b :: rest).length = 8 * rest.length + 8 := by
        rw [List.length_cons]
        omega
      calc (bitwise poly r (b :: rest)).toNat
          = (bitwise poly (byteStep poly r b) rest).toNat := rfl
        _ = (divStep poly.toNat)^[8 * rest.length]
              ((byteStep poly r b).toNat ^^^ leValue rest) := ih _
        _ = (divStep poly.toNat)^[8 * rest.length]
              ((divStep poly.toNat)^[8]
                ((r ^^^ b.setWidth w).toNat ^^^ (leValue rest <<< 8))) := by
            rw [iterate_divStep_xor poly.toNat 8, iterate_divStep_toNat,
              iterate_divStep_shiftLeft, byteStep]
        _ = _ := by rw [hload, hsteps, Function.iterate_add_apply]

/-- What a step forgets. -/
theorem divStep_eq_zero {poly m : Nat} (h : divStep poly m = 0) :
    m = 0 ∨ m = 2 * poly + 1 := by
  rw [divStep, Nat.testBit_zero, Nat.shiftRight_one] at h
  split at h
  · next hodd =>
    have hhalf : m / 2 = poly := xor_eq_zero_iff.mp h
    have hone : m % 2 = 1 := by simpa using hodd
    right
    omega
  · next heven =>
    have hzero : m % 2 ≠ 1 := by simpa using heven
    left
    omega

/-- A step shortens what is wider than the register by one bit. -/
theorem divStep_lt {poly m : Nat} (hpoly : poly < 2 ^ w) (hm : m < 2 ^ (w + 1)) :
    divStep poly m < 2 ^ w := by
  have hhalf : m >>> 1 < 2 ^ w := by
    rw [Nat.shiftRight_one]
    omega
  unfold divStep
  split
  · exact Nat.xor_lt_two_pow hhalf hpoly
  · exact hhalf

/-- A polynomial without its top bit but with the one below it: the generator
fits into the register, and it is the only number that is forgotten at all. -/
theorem iterate_divStep_eq_zero {poly m : Nat} (n : Nat) (hlow : poly < 2 ^ w)
    (hhigh : 2 ^ w ≤ 2 * poly) (hm : m < 2 ^ (w + 1))
    (h : (divStep poly)^[n] m = 0) : m = 0 ∨ m = 2 * poly + 1 := by
  induction n generalizing m with
  | zero => exact .inl h
  | succ n ih =>
      rw [Function.iterate_succ_apply] at h
      have hbound := divStep_lt hlow hm
      rcases ih (by omega) h with hzero | hgenerator
      · exact divStep_eq_zero hzero
      · omega

/-- A polynomial with its top bit: the generator is wider than the register,
and nothing that fits into the register is forgotten. -/
theorem iterate_divStep_ne_zero {poly b k : Nat} (n : Nat) (htop : 2 ^ w ≤ 2 * poly)
    (hfits : poly < 2 ^ w) (hb : b ≠ 0) (hbw : b < 2 ^ w) :
    (divStep poly)^[n] (b <<< k) ≠ 0 := by
  induction n generalizing b k with
  | zero => simp [Nat.shiftLeft_eq, hb]
  | succ n ih =>
      rw [Function.iterate_succ_apply]
      cases k with
      | succ k =>
          rw [divStep_shiftLeft]
          exact ih hb hbw
      | zero =>
          rw [Nat.shiftLeft_zero]
          have hne : divStep poly b ≠ 0 := by
            intro hzero
            rcases divStep_eq_zero hzero with hb0 | hgenerator
            · exact hb hb0
            · omega
          exact ih (k := 0) hne (divStep_lt hfits (by omega))

theorem testBit_leValue (bytes : List Byte) (i : Nat) :
    (leValue bytes).testBit i = bitAt bytes i := by
  induction bytes generalizing i with
  | nil => simp [leValue, bitAt]
  | cons b rest ih =>
      have hb : b.toNat < 2 ^ 8 := b.isLt
      have hcons : leValue (b :: rest) = 2 ^ 8 * leValue rest + b.toNat := by
        rw [leValue]
        omega
      rw [hcons, Nat.testBit_two_pow_mul_add _ hb]
      by_cases hi : i < 8
      · have hbyte : i / 8 = 0 := by omega
        have hbit : i % 8 = i := by omega
        simp [hi, bitAt, hbyte, hbit, BitVec.testBit_toNat]
      · have hbyte : i / 8 = (i - 8) / 8 + 1 := by omega
        have hbit : i % 8 = (i - 8) % 8 := by omega
        rw [if_neg hi, ih, bitAt, bitAt, hbyte, hbit, List.getD_cons_succ]

theorem leValue_eq_zero {bytes : List Byte} (h : leValue bytes = 0) : ∀ b ∈ bytes, b = 0 := by
  induction bytes with
  | nil => simp
  | cons b rest ih =>
      rw [leValue] at h
      have hb : b = 0 := BitVec.eq_of_toNat_eq (by simp; omega)
      simp only [List.mem_cons, forall_eq_or_imp]
      exact ⟨hb, ih (by omega)⟩

/-- A burst as a number: some bits that fit the width, moved up. -/
theorem Burst.value {width : Nat} {error : List Byte} (h : Burst width error) :
    ∃ b k, leValue error = b <<< k ∧ b ≠ 0 ∧ b < 2 ^ width := by
  obtain ⟨⟨x, hx, hne⟩, start, hconfined⟩ := h
  have hvalue : leValue error ≠ 0 := by
    intro hzero
    exact hne (leValue_eq_zero hzero x hx)
  have hshift : leValue error = (leValue error >>> start) <<< start := by
    apply Nat.eq_of_testBit_eq
    intro i
    rw [Nat.testBit_shiftLeft, Nat.testBit_shiftRight]
    by_cases hi : start ≤ i
    · simp [hi]
    · have hout : (leValue error).testBit i = false := by
        rw [testBit_leValue, Bool.eq_false_iff]
        intro hbit
        exact hi (hconfined i hbit).1
      simp [hi, hout]
  refine ⟨leValue error >>> start, start, hshift, ?_, ?_⟩
  · intro hzero
    rw [hzero, Nat.zero_shiftLeft] at hshift
    exact hvalue hshift
  · apply Nat.lt_pow_two_of_testBit
    intro i hi
    rw [Nat.testBit_shiftRight, testBit_leValue, Bool.eq_false_iff]
    intro hbit
    have hlt := (hconfined _ hbit).2
    omega

/-- Every burst no wider than the register has a non-zero check. -/
theorem bitwise_burst_ne (hw : 8 ≤ w) (poly : BitVec w) (htop : 2 ^ w ≤ 2 * poly.toNat)
    {error : List Byte} (h : Burst w error) : bitwise poly 0#w error ≠ 0#w := by
  obtain ⟨b, k, hvalue, hb, hbw⟩ := h.value
  intro hzero
  have hdiv := bitwise_toNat hw poly 0#w error
  rw [hzero, hvalue] at hdiv
  rw [BitVec.toNat_ofNat, Nat.zero_mod, Nat.zero_xor] at hdiv
  exact iterate_divStep_ne_zero _ htop poly.isLt hb hbw hdiv.symm

/-- With a polynomial one bit short of its width, an error no longer than the
register has a zero check only if it is the generator. -/
theorem bitwise_eq_zero (hw : 8 ≤ w + 1) (poly : BitVec (w + 1)) (hlow : poly.toNat < 2 ^ w)
    (hhigh : 2 ^ w ≤ 2 * poly.toNat) {error : List Byte} (hlen : 8 * error.length ≤ w + 1)
    (h : bitwise poly 0#(w + 1) error = 0#(w + 1)) :
    (∀ b ∈ error, b = 0) ∨ leValue error = 2 * poly.toNat + 1 := by
  have hdiv := bitwise_toNat hw poly 0#(w + 1) error
  rw [h] at hdiv
  rw [BitVec.toNat_ofNat, Nat.zero_mod, Nat.zero_xor] at hdiv
  have hbound : leValue error < 2 ^ (w + 1) := by
    calc leValue error < 256 ^ error.length := leValue_lt error
      _ = 2 ^ (8 * error.length) := by rw [Nat.pow_mul]
      _ ≤ 2 ^ (w + 1) := Nat.pow_le_pow_right (by omega) hlen
  rcases iterate_divStep_eq_zero _ hlow hhigh hbound hdiv.symm with hzero | hgenerator
  · exact .inl (leValue_eq_zero hzero)
  · exact .inr hgenerator

end GhostBlade.Library.Crc
