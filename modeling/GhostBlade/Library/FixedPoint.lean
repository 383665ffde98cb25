import Mathlib.Tactic

/-!
Fixed-point arithmetic on machine integers. Two's complement wraps a result
into a number of bits, division truncates towards zero, and a clamp cuts a
value off at two bounds. A correction line through two points is fitted and
applied with such divisions; its errors at the two points are the remainders.
-/

namespace GhostBlade.Library

/-- The value in two's complement of `w` bits that is congruent to `x`. -/
def wrapSigned (w : Nat) (x : Int) : Int := x.bmod (2 ^ w)

def FitsSigned (w : Nat) (x : Int) : Prop := -2 ^ w ≤ 2 * x ∧ 2 * x < 2 ^ w

instance (w : Nat) (x : Int) : Decidable (FitsSigned w x) :=
  inferInstanceAs (Decidable (_ ∧ _))

def clamp (lo hi x : Int) : Int := max lo (min hi x)

variable {w : Nat} {x y : Int}

theorem wrapSigned_of_fits (h : FitsSigned w x) : wrapSigned w x = x := by
  have hlow : -((2 ^ w : Nat) : Int) ≤ x * 2 := by
    have hleft := h.1
    push_cast
    omega
  have hhigh : x * 2 < ((2 ^ w : Nat) : Int) := by
    have hright := h.2
    push_cast
    omega
  exact Int.bmod_eq_of_le_mul_two hlow hhigh

/-- The wrapped value differs by a multiple of the modulus. -/
theorem wrapSigned_congr (w : Nat) (x : Int) : ∃ k, x - wrapSigned w x = 2 ^ w * k := by
  refine ⟨Int.bdiv x (2 ^ w), ?_⟩
  have hself := Int.bmod_eq_self_sub_mul_bdiv x (2 ^ w)
  rw [wrapSigned, hself]
  push_cast
  ring

theorem wrapSigned_fits (hw : 0 < w) (x : Int) : FitsSigned w (wrapSigned w x) := by
  obtain ⟨n, rfl⟩ : ∃ n, w = n + 1 := ⟨w - 1, by omega⟩
  have hpos : 0 < (2 ^ (n + 1) : Nat) := Nat.two_pow_pos _
  have hlow := Int.le_bmod (x := x) hpos
  have hhigh := Int.bmod_lt (x := x) hpos
  have hhalf : ((2 ^ (n + 1) : Nat) : Int) = 2 * 2 ^ n := by
    push_cast
    ring
  rw [hhalf] at hlow hhigh
  unfold FitsSigned wrapSigned
  have hpow : (2 : Int) ^ (n + 1) = 2 * 2 ^ n := by ring
  rw [hpow]
  omega

theorem wrapSigned_eq_self_iff (hw : 0 < w) : wrapSigned w x = x ↔ FitsSigned w x := by
  constructor
  · intro h
    have hfits := wrapSigned_fits hw x
    rwa [h] at hfits
  · exact wrapSigned_of_fits

/-! ### Truncating division -/

/-- The quotient as a multiple of the divisor, on either side of zero. -/
theorem tdiv_bounds {d : Int} (hd : 0 < d) (x : Int) :
    (0 ≤ x → d * x.tdiv d ≤ x ∧ x < d * x.tdiv d + d) ∧
      (x < 0 → x ≤ d * x.tdiv d ∧ d * x.tdiv d < x + d) := by
  have hsplit := Int.mul_tdiv_add_tmod x d
  constructor
  · intro hx
    have hlow := Int.tmod_nonneg d hx
    have hhigh := Int.tmod_lt_of_pos x hd
    omega
  · intro hx
    have hlow := Int.lt_tmod_of_pos x hd
    have hhigh := Int.tmod_nonneg d (show 0 ≤ -x by omega)
    rw [Int.neg_tmod] at hhigh
    omega

/-- A product that wraps is noticed behind a division by less than half the modulus. -/
theorem tdiv_wrapSigned_iff {d : Int} (hw : 0 < w) (hd : 0 < d) (hsmall : 2 * d ≤ 2 ^ w) :
    (wrapSigned w x).tdiv d = x.tdiv d ↔ FitsSigned w x := by
  constructor
  · intro heq
    obtain ⟨k, hk⟩ := wrapSigned_congr w x
    have hx := tdiv_bounds hd x
    have hwrapped := tdiv_bounds hd (wrapSigned w x)
    rw [heq] at hwrapped
    have hfits := wrapSigned_fits hw x
    rw [← wrapSigned_eq_self_iff hw]
    rcases lt_trichotomy k 0 with hneg | hzero | hpos
    · have hprod : 2 ^ w * k ≤ -2 ^ w := by nlinarith
      omega
    · rw [hzero] at hk
      omega
    · have hprod : 2 ^ w ≤ 2 ^ w * k := by nlinarith
      omega
  · intro h
    rw [wrapSigned_of_fits h]

/-! ### Clamping -/

theorem clamp_mono (lo hi : Int) (h : x ≤ y) : clamp lo hi x ≤ clamp lo hi y := by
  unfold clamp
  omega

theorem clamp_of_mem {lo hi : Int} (h : lo ≤ x ∧ x ≤ hi) : clamp lo hi x = x := by
  unfold clamp
  omega

/-! ### The line through two points -/

section Line

variable (K x₁ y₁ x₂ y₂ : Int)

/-- The slope of the line, as a multiple of `1 / K`. -/
def lineGain : Int := (y₂ - y₁) * K / (x₂ - x₁)

/-- The offset that puts the first point on the line. -/
def lineOffset (g : Int) : Int := y₁ - x₁ * g / K

/-- The line applied the other way round: the offset first, then the gain. -/
def lineApply (o g x : Int) : Int := (x + o) * g / K

variable {K x₁ y₁ x₂ y₂} {g o : Int}

/-- The error at the first point, in parts of `K`. -/
theorem lineApply_first (hK : 0 < K) (ho : o = lineOffset K x₁ y₁ g) :
    lineApply K o g x₁ = y₁ + (x₁ * g % K + o * (g - K)) / K := by
  have hdiv := Int.mul_ediv_add_emod (x₁ * g) K
  have hoffset : o = y₁ - x₁ * g / K := ho
  have hsum : (x₁ + o) * g = x₁ * g % K + o * (g - K) + y₁ * K := by
    linear_combination -hdiv + K * hoffset
  rw [lineApply, hsum, Int.add_mul_ediv_right _ _ hK.ne']
  exact add_comm _ _

/-- The error at the second point: the remainder of the slope counts as well. -/
theorem lineApply_second (hK : 0 < K) (hg : g = lineGain K x₁ y₁ x₂ y₂)
    (ho : o = lineOffset K x₁ y₁ g) :
    lineApply K o g x₂ =
      y₂ + (x₁ * g % K - (y₂ - y₁) * K % (x₂ - x₁) + o * (g - K)) / K := by
  have hslope := Int.mul_ediv_add_emod ((y₂ - y₁) * K) (x₂ - x₁)
  have hdiv := Int.mul_ediv_add_emod (x₁ * g) K
  have hoffset : o = y₁ - x₁ * g / K := ho
  have hgain : (y₂ - y₁) * K / (x₂ - x₁) = g := hg.symm
  rw [hgain] at hslope
  have hsum : (x₂ + o) * g =
      x₁ * g % K - (y₂ - y₁) * K % (x₂ - x₁) + o * (g - K) + y₂ * K := by
    linear_combination -hdiv + K * hoffset + hslope
  rw [lineApply, hsum, Int.add_mul_ediv_right _ _ hK.ne']
  exact add_comm _ _

end Line

/-! ### A quotient with binary places -/

section Quotient

variable {x d : Nat} (b : Nat)

/-- The quotient rounded down to `b` binary places, as a multiple of the last place. -/
def places (x d : Nat) : Nat := x * 2 ^ b / d

theorem places_integer : places b x d / 2 ^ b = x / d := by
  rw [places, Nat.div_div_eq_div_mul, Nat.mul_comm d, ← Nat.div_div_eq_div_mul,
    Nat.mul_div_cancel _ (Nat.two_pow_pos b)]

/-- The places behind the point are those of the remainder. -/
theorem places_fraction (hd : 0 < d) : places b x d % 2 ^ b = places b (x % d) d := by
  have hlt : places b (x % d) d < 2 ^ b := by
    rw [places, Nat.div_lt_iff_lt_mul hd, Nat.mul_comm (2 ^ b)]
    exact Nat.mul_lt_mul_of_pos_right (Nat.mod_lt x hd) (Nat.two_pow_pos b)
  have hsplit : places b x d = places b (x % d) d + 2 ^ b * (x / d) := by
    have hx : x * 2 ^ b = x % d * 2 ^ b + d * (2 ^ b * (x / d)) := by
      calc x * 2 ^ b = (d * (x / d) + x % d) * 2 ^ b := by rw [Nat.div_add_mod]
        _ = x % d * 2 ^ b + d * (2 ^ b * (x / d)) := by ring
    rw [places, hx, Nat.add_mul_div_left _ _ hd]
    rfl
  rw [hsplit, Nat.add_mul_mod_self_left, Nat.mod_eq_of_lt hlt]

theorem places_lt_iff (hd : 0 < d) {n : Nat} : places b x d < n ↔ x * 2 ^ b < n * d :=
  Nat.div_lt_iff_lt_mul hd

/-- The product falls short of the dividend by the remainder. -/
theorem places_error (x d : Nat) : d * places b x d + x * 2 ^ b % d = x * 2 ^ b :=
  Nat.div_add_mod _ _

end Quotient

end GhostBlade.Library
