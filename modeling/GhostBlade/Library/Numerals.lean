import Mathlib.Data.Nat.Digits.Lemmas
import GhostBlade.Library.Bytes

/-!
Numbers as text: ASCII digits of a base up to 16, the most significant first. What is
written is read back, with any zeros in front of it, and so is a line that the usual
conversions print.
-/

namespace GhostBlade.Library

/-- The digit as a character, in lower case. -/
def digitChar (d : Nat) : Byte := .ofNat 8 (if d < 10 then 0x30 + d else 0x57 + d)

def digitValue (b : Byte) : Option Nat :=
  if 0x30 ≤ b.toNat ∧ b.toNat < 0x3A then some (b.toNat - 0x30)
  else if 0x61 ≤ b.toNat ∧ b.toNat < 0x67 then some (b.toNat - 0x57)
  else none

def charDigit (base : Nat) (b : Byte) : Option Nat := (digitValue b).filter (· < base)

/-- Zero is one digit too. -/
def numeral (base n : Nat) : List Byte :=
  if n = 0 then [digitChar 0] else (Nat.digits base n).reverse.map digitChar

/-- At least `width` digits. -/
def padded (base width n : Nat) : List Byte :=
  List.replicate (width - (numeral base n).length) (digitChar 0) ++ numeral base n

def readDigits (base : Nat) : List Byte → Option (List Nat)
  | [] => some []
  | b :: text => do
      let d ← charDigit base b
      let ds ← readDigits base text
      return d :: ds

def readNumeral (base : Nat) (text : List Byte) : Option Nat :=
  if text = [] then none
  else (readDigits base text).map fun ds => Nat.ofDigits base ds.reverse

section

variable {base : Nat}

theorem digitValue_digitChar {d : Nat} (hd : d < 16) : digitValue (digitChar d) = some d := by
  unfold digitValue
  by_cases hten : d < 10
  · have hvalue : (digitChar d).toNat = 0x30 + d := by
      rw [digitChar, if_pos hten, BitVec.toNat_ofNat, Nat.mod_eq_of_lt (by omega)]
    rw [hvalue, if_pos (by omega), Nat.add_sub_cancel_left]
  · have hvalue : (digitChar d).toNat = 0x57 + d := by
      rw [digitChar, if_neg hten, BitVec.toNat_ofNat, Nat.mod_eq_of_lt (by omega)]
    rw [hvalue, if_neg (by omega), if_pos (by omega), Nat.add_sub_cancel_left]

theorem charDigit_digitChar (hbase : base ≤ 16) {d : Nat} (hd : d < base) :
    charDigit base (digitChar d) = some d := by
  rw [charDigit, digitValue_digitChar (by omega), Option.filter_some_pos (by simpa using hd)]

theorem readDigits_map (hbase : base ≤ 16) {ds : List Nat} (hds : ∀ d ∈ ds, d < base) :
    readDigits base (ds.map digitChar) = some ds := by
  induction ds with
  | nil => rfl
  | cons d ds ih =>
      have hd := charDigit_digitChar hbase (hds d List.mem_cons_self)
      have hrest := ih fun e he => hds e (List.mem_cons_of_mem d he)
      rw [List.map_cons, readDigits, hd, hrest]
      rfl

/-- Digits with zeros in front of them. -/
theorem readNumeral_map (hbase : base ≤ 16) (hzero : 0 < base) {ds : List Nat}
    (hds : ∀ d ∈ ds, d < base) (hne : ds ≠ []) (zeros : Nat) :
    readNumeral base (List.replicate zeros (digitChar 0) ++ ds.reverse.map digitChar) =
      some (Nat.ofDigits base ds) := by
  have htext : List.replicate zeros (digitChar 0) ++ ds.reverse.map digitChar =
      (List.replicate zeros 0 ++ ds.reverse).map digitChar := by
    rw [List.map_append, List.map_replicate]
  have hall : ∀ d ∈ List.replicate zeros 0 ++ ds.reverse, d < base := by
    intro d hd
    rcases List.mem_append.mp hd with hfront | hback
    · rwa [List.eq_of_mem_replicate hfront]
    · exact hds d (List.mem_reverse.mp hback)
  have hfull : (List.replicate zeros 0 ++ ds.reverse).map digitChar ≠ [] := by simp [hne]
  rw [htext, readNumeral, if_neg hfull, readDigits_map hbase hall, Option.map_some,
    List.reverse_append, List.reverse_reverse, List.reverse_replicate,
    Nat.ofDigits_append_replicate_zero]

/-- The digits of a number, its least significant one first. -/
theorem numeral_eq (base n : Nat) : ∃ ds : List Nat, ds ≠ [] ∧ (1 < base → ∀ d ∈ ds, d < base) ∧
    Nat.ofDigits base ds = n ∧ numeral base n = ds.reverse.map digitChar := by
  by_cases hn : n = 0
  · refine ⟨[0], by simp, fun hbase d hd => ?_, ?_, ?_⟩
    · rw [List.mem_singleton.mp hd]
      omega
    · rw [hn, Nat.ofDigits_singleton]
    · rw [numeral, if_pos hn]
      rfl
  · refine ⟨Nat.digits base n, Nat.digits_ne_nil_iff_ne_zero.mpr hn, ?_, ?_, ?_⟩
    · exact fun hbase d hd => Nat.digits_lt_base hbase hd
    · exact Nat.ofDigits_digits base n
    · rw [numeral, if_neg hn]

theorem readNumeral_zeros (hlow : 1 < base) (hhigh : base ≤ 16) (zeros n : Nat) :
    readNumeral base (List.replicate zeros (digitChar 0) ++ numeral base n) = some n := by
  obtain ⟨ds, hne, hds, hvalue, htext⟩ := numeral_eq base n
  rw [htext, readNumeral_map hhigh (by omega) (hds hlow) hne zeros, hvalue]

theorem readNumeral_numeral (hlow : 1 < base) (hhigh : base ≤ 16) (n : Nat) :
    readNumeral base (numeral base n) = some n :=
  readNumeral_zeros hlow hhigh 0 n

theorem readNumeral_padded (hlow : 1 < base) (hhigh : base ≤ 16) (width n : Nat) :
    readNumeral base (padded base width n) = some n :=
  readNumeral_zeros hlow hhigh _ n

/-- A numeral starts with a digit. -/
theorem numeral_head (hlow : 1 < base) (n : Nat) :
    ∃ d < base, ∃ rest, numeral base n = digitChar d :: rest := by
  obtain ⟨ds, hne, hds, -, htext⟩ := numeral_eq base n
  cases hrev : ds.reverse with
  | nil => exact absurd (List.reverse_eq_nil_iff.mp hrev) hne
  | cons d rest =>
      refine ⟨d, hds hlow d ?_, rest.map digitChar, ?_⟩
      · rw [← List.mem_reverse, hrev]
        exact List.mem_cons_self
      · rw [htext, hrev, List.map_cons]

theorem numeral_length_le (hlow : 1 < base) {n k : Nat} (hk : 0 < k) (hn : n < base ^ k) :
    (numeral base n).length ≤ k := by
  unfold numeral
  split
  · exact hk
  · rw [List.length_map, List.length_reverse, Nat.digits_length_le_iff hlow]
    exact hn

end

/-! ### Lines -/

def newline : Byte := 0x0A
def minus : Byte := 0x2D

/-- `%d`, `%u`, and `0x%0*x` with its width. -/
inductive Conversion where
  | signed
  | unsigned
  | hex (width : Nat)

namespace Conversion

/-- A sign is only written by the signed conversion. -/
def Takes (c : Conversion) (n : Int) : Prop := c ≠ .signed → 0 ≤ n

def print (c : Conversion) (n : Int) : List Byte :=
  match c with
  | .signed => if n < 0 then minus :: numeral 10 n.natAbs else numeral 10 n.natAbs
  | .unsigned => numeral 10 n.natAbs
  | .hex width => [0x30, 0x78] ++ padded 16 width n.natAbs

def read (c : Conversion) (text : List Byte) : Option Int :=
  match c with
  | .signed =>
      if text.head? = some minus then (readNumeral 10 text.tail).map fun m : Nat => -Int.ofNat m
      else (readNumeral 10 text).map Int.ofNat
  | .unsigned => (readNumeral 10 text).map Int.ofNat
  | .hex _ =>
      if text.take 2 = [0x30, 0x78] then (readNumeral 16 (text.drop 2)).map Int.ofNat else none

def line (c : Conversion) (n : Int) : List Byte := c.print n ++ [newline]

def readLine (c : Conversion) (text : List Byte) : Option Int :=
  if text.getLast? = some newline then c.read text.dropLast else none

variable {c : Conversion} {n : Int}

/-- No digit is a minus sign. -/
theorem numeral_head_ne (m : Nat) : (numeral 10 m).head? ≠ some minus := by
  obtain ⟨d, hd, rest, htext⟩ : ∃ d < 10, ∃ rest, numeral 10 m = digitChar d :: rest :=
    numeral_head (by decide) m
  have hdigits : ∀ d < 10, digitChar d ≠ minus := by decide
  rw [htext, List.head?_cons, Ne, Option.some.injEq]
  exact hdigits d hd

theorem read_print (h : c.Takes n) : c.read (c.print n) = some n := by
  have hdecimal : readNumeral 10 (numeral 10 n.natAbs) = some n.natAbs :=
    readNumeral_numeral (by decide) (by decide) _
  have hnatural (hn : 0 ≤ n) : Int.ofNat n.natAbs = n := Int.natAbs_of_nonneg hn
  cases c with
  | signed =>
      unfold read print
      dsimp only
      by_cases hneg : n < 0
      · rw [if_pos hneg, List.head?_cons, if_pos rfl, List.tail_cons, hdecimal, Option.map_some]
        exact congrArg some (by change -(n.natAbs : Int) = n; omega)
      · rw [if_neg hneg, if_neg (numeral_head_ne _), hdecimal, Option.map_some,
          hnatural (by omega)]
  | unsigned =>
      have hn : 0 ≤ n := h (by simp)
      unfold read print
      dsimp only
      rw [hdecimal, Option.map_some, hnatural hn]
  | hex width =>
      have hn : 0 ≤ n := h (by simp)
      have htext : readNumeral 16 (padded 16 width n.natAbs) = some n.natAbs :=
        readNumeral_padded (by decide) (by decide) width _
      have hfront (text : List Byte) : ([0x30, 0x78] ++ text).take 2 = [0x30, 0x78] := rfl
      have hback (text : List Byte) : ([0x30, 0x78] ++ text).drop 2 = text := rfl
      unfold read print
      dsimp only
      rw [if_pos (hfront _), hback, htext, Option.map_some, hnatural hn]

theorem readLine_line (h : c.Takes n) : c.readLine (c.line n) = some n := by
  rw [readLine, line, List.getLast?_concat, if_pos rfl, List.dropLast_concat, read_print h]

def width : Conversion → Nat
  | .hex width => width
  | _ => 0

/-- A number of 64 bits makes a short line. -/
theorem line_length_le (c : Conversion) (hn : n.natAbs < 2 ^ 64) :
    (c.line n).length ≤ 22 + c.width := by
  have hdecimal : (numeral 10 n.natAbs).length ≤ 20 :=
    numeral_length_le (by decide) (by decide) (hn.trans (by norm_num))
  have hhex : (numeral 16 n.natAbs).length ≤ 16 :=
    numeral_length_le (by decide) (by decide) (hn.trans_eq (by norm_num))
  rw [line, List.length_append, List.length_singleton]
  cases c with
  | signed =>
      unfold print
      dsimp only
      split
      · rw [List.length_cons]
        omega
      · omega
  | unsigned =>
      unfold print
      dsimp only
      omega
  | hex width =>
      simp only [print, padded, Conversion.width, List.length_append, List.length_cons,
        List.length_nil, List.length_replicate]
      omega

end Conversion

end GhostBlade.Library
