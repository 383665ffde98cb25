import GhostBlade.Library.Bytes

/-!
Reflected cyclic redundancy checks of any width. The bitwise form shifts the
register right once per bit; the table form shifts it right by a whole byte
and adds a precomputed entry. Both are the same function because one bit step
is linear over exclusive or: a register splits into its low byte, which the
table answers for, and the rest, which a byte of steps merely shifts.
-/

namespace GhostBlade.Library.Crc

open GhostBlade.Library

variable {w : Nat}

/-- Shift right by one bit and add the polynomial when a one falls out. -/
def bitStep (poly crc : BitVec w) : BitVec w :=
  if crc.getLsbD 0 then (crc >>> 1) ^^^ poly else crc >>> 1

/-- Add one byte to the register and step eight times. -/
def byteStep (poly crc : BitVec w) (b : Byte) : BitVec w :=
  (bitStep poly)^[8] (crc ^^^ b.setWidth w)

def bitwise (poly init : BitVec w) (data : List Byte) : BitVec w :=
  data.foldl (byteStep poly) init

def tableEntry (poly : BitVec w) (index : Byte) : BitVec w :=
  (bitStep poly)^[8] (index.setWidth w)

/-- One byte with a lookup table: the low byte of the sum selects the entry,
the other bytes move down. -/
def tableStep (table : Byte → BitVec w) (crc : BitVec w) (b : Byte) : BitVec w :=
  table ((crc ^^^ b.setWidth w).setWidth 8) ^^^ (crc >>> 8)

def tabled (table : Byte → BitVec w) (init : BitVec w) (data : List Byte) : BitVec w :=
  data.foldl (tableStep table) init

theorem bitStep_xor (poly x y : BitVec w) :
    bitStep poly (x ^^^ y) = bitStep poly x ^^^ bitStep poly y := by
  simp only [bitStep, BitVec.getLsbD_xor, BitVec.ushiftRight_xor_distrib]
  cases x.getLsbD 0 <;> cases y.getLsbD 0
  · simp
  · simp [BitVec.xor_assoc]
  · simp only [Bool.xor_false, if_true, Bool.false_eq_true, if_false]
    ac_rfl
  · simp only [Bool.xor_self, Bool.false_eq_true, if_false, if_true]
    calc (x >>> 1) ^^^ (y >>> 1)
        = ((x >>> 1) ^^^ (y >>> 1)) ^^^ (poly ^^^ poly) := by simp
      _ = ((x >>> 1) ^^^ poly) ^^^ ((y >>> 1) ^^^ poly) := by ac_rfl

theorem iterate_bitStep_xor (poly : BitVec w) (n : Nat) (x y : BitVec w) :
    (bitStep poly)^[n] (x ^^^ y) = (bitStep poly)^[n] x ^^^ (bitStep poly)^[n] y := by
  induction n generalizing x y with
  | zero => rfl
  | succ n ih => simp only [Function.iterate_succ_apply, bitStep_xor, ih]

/-- As long as only zeros fall out, stepping is shifting. -/
theorem iterate_bitStep_of_low_zero (poly x : BitVec w) (n : Nat)
    (hlow : ∀ i < n, x.getLsbD i = false) :
    (bitStep poly)^[n] x = x >>> n := by
  induction n with
  | zero => simp
  | succ n ih =>
      have hprefix := ih (fun i hi => hlow i (by omega))
      have hbit : (x >>> n).getLsbD 0 = false := by
        simpa using hlow n (by omega)
      rw [Function.iterate_succ_apply', hprefix, bitStep, hbit, BitVec.shiftRight_add]
      simp

/-- A register is its low byte plus the rest. -/
theorem split_low_byte (x : BitVec w) :
    x = (x >>> 8) <<< 8 ^^^ (x.setWidth 8).setWidth w := by
  apply BitVec.eq_of_getLsbD_eq
  intro i hi
  simp only [BitVec.getLsbD_xor, BitVec.getLsbD_shiftLeft, BitVec.getLsbD_ushiftRight,
    BitVec.getLsbD_setWidth, hi, decide_true, Bool.true_and]
  by_cases hlow : i < 8
  · simp [hlow]
  · have hback : 8 + (i - 8) = i := by omega
    simp [hlow, hback]

theorem shiftRight_of_high_part (x : BitVec w) : ((x >>> 8) <<< 8) >>> 8 = x >>> 8 := by
  apply BitVec.eq_of_getLsbD_eq
  intro i _
  simp only [BitVec.getLsbD_ushiftRight, BitVec.getLsbD_shiftLeft]
  by_cases hi : 8 + i < w
  · simp [hi]
  · have hout : x.getLsbD (8 + i) = false := BitVec.getLsbD_of_ge x _ (by omega)
    simp [hi, hout]

/-- The register byte by byte: what the table says about the low byte, added
to the remaining bytes moved down. -/
theorem iterate_eight (poly x : BitVec w) :
    (bitStep poly)^[8] x = tableEntry poly (x.setWidth 8) ^^^ (x >>> 8) := by
  have hhigh : (bitStep poly)^[8] ((x >>> 8) <<< 8) = x >>> 8 := by
    rw [iterate_bitStep_of_low_zero, shiftRight_of_high_part]
    intro i hi
    simp [BitVec.getLsbD_shiftLeft, hi]
  calc (bitStep poly)^[8] x
      = (bitStep poly)^[8] ((x >>> 8) <<< 8 ^^^ (x.setWidth 8).setWidth w) := by
        rw [← split_low_byte]
    _ = (bitStep poly)^[8] ((x >>> 8) <<< 8) ^^^ tableEntry poly (x.setWidth 8) :=
        iterate_bitStep_xor _ _ _ _
    _ = tableEntry poly (x.setWidth 8) ^^^ (x >>> 8) := by
        rw [hhigh, BitVec.xor_comm]

theorem byte_shiftRight_eight (b : Byte) : (b.setWidth w) >>> 8 = 0#w := by
  apply BitVec.eq_of_getLsbD_eq
  intro i _
  simp [BitVec.getLsbD_ushiftRight, BitVec.getLsbD_setWidth]

/-- One step of the table form is one step of the bitwise form. -/
theorem tableStep_eq_byteStep (poly crc : BitVec w) (b : Byte) :
    tableStep (tableEntry poly) crc b = byteStep poly crc b := by
  rw [byteStep, iterate_eight, BitVec.ushiftRight_xor_distrib, byte_shiftRight_eight,
    BitVec.xor_zero, tableStep]

theorem tabled_eq_bitwise (poly init : BitVec w) (data : List Byte) :
    tabled (tableEntry poly) init data = bitwise poly init data := by
  have hstep : tableStep (tableEntry poly) = byteStep poly := by
    funext crc b
    exact tableStep_eq_byteStep poly crc b
  rw [tabled, bitwise, hstep]

end GhostBlade.Library.Crc
