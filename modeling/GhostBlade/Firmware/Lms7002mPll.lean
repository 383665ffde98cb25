import GhostBlade.Library.FixedPoint

/-!
The synthesizer of the SDR transceiver (`lms7002m_driver.c`). For a frequency
the driver looks for a power of two that takes it into the range of the
oscillator and divides by the reference clock with 24 binary places; the
fraction is cut off at half of what fits. The frequency that the parameters
stand for is exact to the last place unless the fraction is cut off.
-/

namespace GhostBlade.Firmware.Lms7002m

open GhostBlade.Library

/-! ### Parameters -/

def ok : Int := 0
def errSpi : Int := -2
def errInvalidParam : Int := -3
def errTimeout : Int := -4
def errCalibration : Int := -5
def errNotInitialized : Int := -6
def errPllLock : Int := -7

def refClkHz : BitVec 32 := 30720000
def freqMin : BitVec 64 := 100000
def freqMax : BitVec 64 := 3800000000
def vcoMinHz : BitVec 64 := 1880000000
def vcoMaxHz : BitVec 64 := 5800000000
def pllIntMin : BitVec 32 := 1
def pllIntMax : BitVec 32 := 255

/-- What the call stores behind its three pointers. -/
structure PllParams where
  nint : BitVec 16
  nfrac : BitVec 32
  divOut : BitVec 8
deriving DecidableEq

def inVcoRange (vcoFreq : BitVec 64) : Bool := vcoFreq ≥ vcoMinHz && vcoFreq ≤ vcoMaxHz

/-- The divisors that are tried, in order. -/
def dividers : List (BitVec 32) := [1, 2, 4, 8, 16, 32]

def selectDivider (freqHz : BitVec 64) : Option (BitVec 32) :=
  dividers.find? fun div => inVcoRange (freqHz * div.setWidth 64)

/-- The parameters for an oscillator frequency. -/
def splitRatio (vcoFreq : BitVec 64) (refClk div : BitVec 32) : Except Int PllParams :=
  let pllRatio := (vcoFreq <<< 24) / refClk.setWidth 64
  let nintVal := (pllRatio >>> 24).setWidth 32
  let nfracVal := (pllRatio &&& 0x00FFFFFF).setWidth 32
  if nintVal < pllIntMin ∨ nintVal > pllIntMax then .error errInvalidParam
  else
    .ok ⟨nintVal.setWidth 16, if nfracVal > 0x7FFFFF then 0x7FFFFF else nfracVal, div.setWidth 8⟩

/-- `lms7002m_calculate_pll_params` with all pointers given. -/
def calculatePllParams (freqHz : BitVec 64) (refClk : BitVec 32) : Except Int PllParams :=
  if freqHz < freqMin ∨ freqHz > freqMax then .error errInvalidParam
  else if refClk = 0 then .error errInvalidParam
  else
    match selectDivider freqHz with
    | none => .error errInvalidParam
    | some div => splitRatio (freqHz * div.setWidth 64) refClk div

/-! ### Accuracy -/

/-- The frequency of the oscillator falls short of the wanted one by less than
the last place of the fraction. -/
def PllParams.Accurate (p : PllParams) (freqHz refClk : Nat) : Prop :=
  let error : ℚ := freqHz * p.divOut.toNat - refClk * (p.nint.toNat + p.nfrac.toNat / 2 ^ 24)
  0 ≤ error ∧ error < refClk / 2 ^ 24

/-- The power of two that takes the frequency into the range. -/
def LeastPower (freqHz k : Nat) : Prop :=
  k ≤ 5 ∧ 1880000000 ≤ freqHz * 2 ^ k ∧ ∀ j < k, freqHz * 2 ^ j < 1880000000

variable {freqHz : BitVec 64} {refClk : BitVec 32} {k : Nat}

theorem leastPower_or_low (f : Nat) : (∃ k, LeastPower f k) ∨ f < 58750000 := by
  rcases Nat.lt_or_ge f 58750000 with hlow | hhigh
  · exact .inr hlow
  · have hfive : 1880000000 ≤ f * 2 ^ 5 := by omega
    have hfirst : ∃ k, 1880000000 ≤ f * 2 ^ k := ⟨5, hfive⟩
    refine .inl ⟨Nat.find hfirst, Nat.find_min' hfirst hfive, Nat.find_spec hfirst, ?_⟩
    intro j hj
    exact Nat.lt_of_not_le (Nat.find_min hfirst hj)

theorem LeastPower.le {f : Nat} (h : LeastPower f k) : 58750000 ≤ f := by
  obtain ⟨hk, hreach, _⟩ := h
  have hpow : f * 2 ^ k ≤ f * 2 ^ 5 := Nat.mul_le_mul_left f (Nat.pow_le_pow_right (by omega) hk)
  omega

/-- One step before the least power the frequency is too low. -/
theorem LeastPower.vco_le {f : Nat} (h : LeastPower f k) (hf : f ≤ 3800000000) :
    f * 2 ^ k ≤ 3800000000 := by
  obtain ⟨_, _, hleast⟩ := h
  cases k with
  | zero => simpa using hf
  | succ k =>
      have hbefore := hleast k (Nat.lt_succ_self k)
      rw [pow_succ, ← Nat.mul_assoc]
      omega

theorem LeastPower.unique {f m : Nat} (h : LeastPower f k) (h' : LeastPower f m) : k = m := by
  have hle {k m : Nat} (h : LeastPower f k) (h' : LeastPower f m) : k ≤ m := by
    apply Nat.le_of_not_lt
    intro hlt
    have hbefore := h.2.2 m hlt
    have hreach := h'.2.1
    omega
  exact Nat.le_antisymm (hle h h') (hle h' h)

/-! ### The search -/

theorem dividers_eq : dividers = (List.range 6).map fun k => BitVec.ofNat 32 (2 ^ k) := by decide

theorem divider_toNat (hk : k ≤ 5) : (BitVec.ofNat 32 (2 ^ k)).toNat = 2 ^ k := by
  have hpow : 2 ^ k ≤ 2 ^ 5 := Nat.pow_le_pow_right (by omega) hk
  rw [BitVec.toNat_ofNat, Nat.mod_eq_of_lt (by omega)]

theorem vco_toNat (hf : freqHz.toNat ≤ 3800000000) (hk : k ≤ 5) :
    (freqHz * (BitVec.ofNat 32 (2 ^ k)).setWidth 64).toNat = freqHz.toNat * 2 ^ k := by
  have hpow : 2 ^ k ≤ 2 ^ 5 := Nat.pow_le_pow_right (by omega) hk
  have hprod : freqHz.toNat * 2 ^ k ≤ 3800000000 * 2 ^ 5 := Nat.mul_le_mul hf hpow
  rw [BitVec.toNat_mul, BitVec.toNat_setWidth, divider_toNat hk,
    Nat.mod_eq_of_lt (show 2 ^ k < 2 ^ 64 by omega), Nat.mod_eq_of_lt (by omega)]

theorem inVcoRange_iff (hf : freqHz.toNat ≤ 3800000000) (hk : k ≤ 5) :
    inVcoRange (freqHz * (BitVec.ofNat 32 (2 ^ k)).setWidth 64) = true ↔
      1880000000 ≤ freqHz.toNat * 2 ^ k ∧ freqHz.toNat * 2 ^ k ≤ 5800000000 := by
  have hmin : vcoMinHz.toNat = 1880000000 := rfl
  have hmax : vcoMaxHz.toNat = 5800000000 := rfl
  simp only [inVcoRange, ge_iff_le, Bool.and_eq_true, decide_eq_true_eq, BitVec.le_def,
    vco_toNat hf hk, hmin, hmax]

theorem selectDivider_some (hf : freqHz.toNat ≤ 3800000000) (h : LeastPower freqHz.toNat k) :
    selectDivider freqHz = some (BitVec.ofNat 32 (2 ^ k)) := by
  have hle := h.vco_le hf
  obtain ⟨hk, hreach, hleast⟩ := h
  have hfound : (List.range 6).find? (fun k =>
      inVcoRange (freqHz * (BitVec.ofNat 32 (2 ^ k)).setWidth 64)) = some k := by
    rw [List.find?_range_eq_some]
    refine ⟨(inVcoRange_iff hf hk).mpr ⟨hreach, by omega⟩, List.mem_range.mpr (by omega), ?_⟩
    intro j hj
    rw [Bool.not_eq_true', Bool.eq_false_iff, ne_eq, inVcoRange_iff hf (by omega)]
    have hlow := hleast j hj
    omega
  rw [selectDivider, dividers_eq, List.find?_map]
  exact congrArg (Option.map _) hfound

theorem selectDivider_none (hf : freqHz.toNat < 58750000) : selectDivider freqHz = none := by
  rw [selectDivider, dividers_eq, List.find?_map, Option.map_eq_none_iff, List.find?_eq_none]
  intro k hk
  have hle : k ≤ 5 := by
    have hmem := List.mem_range.mp hk
    omega
  have hpow : freqHz.toNat * 2 ^ k ≤ freqHz.toNat * 2 ^ 5 :=
    Nat.mul_le_mul_left _ (Nat.pow_le_pow_right (by omega) hle)
  rw [Function.comp_apply, inVcoRange_iff (by omega) hle]
  omega

/-! ### The ratio -/

/-- The fraction that the parameters hold, when `x` is left over. -/
def cutFraction (x d : Nat) : Nat := min (places 24 x d) 0x7FFFFF

theorem splitRatio_eq {vcoFreq : BitVec 64} {div : BitVec 32} (hvco : vcoFreq.toNat ≤ 3800000000)
    (href : 0 < refClk.toNat) :
    splitRatio vcoFreq refClk div =
      if vcoFreq.toNat / refClk.toNat < 1 ∨ vcoFreq.toNat / refClk.toNat > 255 then
        .error errInvalidParam
      else
        .ok ⟨.ofNat 16 (vcoFreq.toNat / refClk.toNat),
          .ofNat 32 (cutFraction (vcoFreq.toNat % refClk.toNat) refClk.toNat),
          div.setWidth 8⟩ := by
  let v := vcoFreq.toNat
  let r := refClk.toNat
  have hclk : r < 2 ^ 32 := refClk.isLt
  have hquotient : v / r ≤ v := Nat.div_le_self v r
  have hratio : ((vcoFreq <<< 24) / refClk.setWidth 64).toNat = places 24 v r := by
    rw [BitVec.toNat_udiv, BitVec.toNat_shiftLeft, Nat.shiftLeft_eq, BitVec.toNat_setWidth,
      Nat.mod_eq_of_lt (show v * 2 ^ 24 < 2 ^ 64 by omega),
      Nat.mod_eq_of_lt (show r < 2 ^ 64 by omega)]
    rfl
  have hint : ((((vcoFreq <<< 24) / refClk.setWidth 64) >>> 24).setWidth 32).toNat = v / r := by
    rw [BitVec.toNat_setWidth, BitVec.toNat_ushiftRight, hratio, Nat.shiftRight_eq_div_pow,
      places_integer, Nat.mod_eq_of_lt (by omega)]
  have hfrac : ((((vcoFreq <<< 24) / refClk.setWidth 64) &&& 0x00FFFFFF).setWidth 32).toNat =
      places 24 (v % r) r := by
    have hmask : (0x00FFFFFF : BitVec 64).toNat = 2 ^ 24 - 1 := rfl
    have hmod := Nat.mod_lt (places 24 v r) (Nat.two_pow_pos 24)
    rw [BitVec.toNat_setWidth, BitVec.toNat_and, hratio, hmask, Nat.and_two_pow_sub_one_eq_mod,
      Nat.mod_eq_of_lt (by omega), places_fraction 24 href]
  unfold splitRatio
  dsimp only
  generalize (((vcoFreq <<< 24) / refClk.setWidth 64) >>> 24).setWidth 32 = nintVal at hint ⊢
  generalize (((vcoFreq <<< 24) / refClk.setWidth 64) &&& 0x00FFFFFF).setWidth 32 = nfracVal
    at hfrac ⊢
  have hmin : pllIntMin.toNat = 1 := rfl
  have hmax : pllIntMax.toNat = 255 := rfl
  have hrange : nintVal < pllIntMin ∨ nintVal > pllIntMax ↔ v / r < 1 ∨ v / r > 255 := by
    rw [gt_iff_lt, BitVec.lt_def, BitVec.lt_def, hint, hmin, hmax]
  have hnint : nintVal.setWidth 16 = BitVec.ofNat 16 (v / r) := by
    apply BitVec.eq_of_toNat_eq
    rw [BitVec.toNat_setWidth, hint, BitVec.toNat_ofNat]
  have hnfrac : (if nfracVal > 0x7FFFFF then 0x7FFFFF else nfracVal) =
      BitVec.ofNat 32 (cutFraction (v % r) r) := by
    have hcut : (0x7FFFFF : BitVec 32).toNat = 0x7FFFFF := rfl
    unfold cutFraction
    split
    · next hover =>
        rw [gt_iff_lt, BitVec.lt_def, hfrac, hcut] at hover
        rw [Nat.min_eq_right (by omega)]
        rfl
    · next hfits =>
        rw [gt_iff_lt, BitVec.lt_def, hfrac, hcut] at hfits
        rw [Nat.min_eq_left (by omega), ← hfrac, BitVec.ofNat_toNat, BitVec.setWidth_eq]
  simp only [hrange, hnint, hnfrac]
  rfl

/-! ### The condition -/

/-- The fraction is cut off where it is a half or more. -/
theorem cutFraction_error {x d : Nat} (hd : 0 < d) :
    d * cutFraction x d ≤ x * 2 ^ 24 ∧ (x * 2 ^ 24 < d * cutFraction x d + d ↔ 2 * x < d) := by
  have herror := places_error 24 x d
  have hrest := Nat.mod_lt (x * 2 ^ 24) hd
  have hhalf : places 24 x d < 2 ^ 23 ↔ 2 * x < d := by
    rw [places_lt_iff 24 hd]
    omega
  have hcut : d * cutFraction x d ≤ d * places 24 x d := Nat.mul_le_mul_left d (Nat.min_le_left _ _)
  refine ⟨by omega, ?_⟩
  rw [← hhalf]
  constructor
  · intro hlt
    by_contra hover
    have hclamped : cutFraction x d = 0x7FFFFF := Nat.min_eq_right (by omega)
    have hmore : d * (0x7FFFFF + 1) ≤ d * places 24 x d := Nat.mul_le_mul_left d (by omega)
    rw [hclamped] at hlt
    rw [Nat.mul_add] at hmore
    omega
  · intro hfits
    have hsame : cutFraction x d = places 24 x d := Nat.min_eq_left (by omega)
    rw [hsame]
    omega

/-- The parameters for an oscillator frequency. -/
def pllParamsOf (freqHz refClk k : Nat) : PllParams where
  nint := .ofNat 16 (freqHz * 2 ^ k / refClk)
  nfrac := .ofNat 32 (cutFraction (freqHz * 2 ^ k % refClk) refClk)
  divOut := (BitVec.ofNat 32 (2 ^ k)).setWidth 8

theorem divOut_toNat {f r : Nat} (hk : k ≤ 5) : (pllParamsOf f r k).divOut.toNat = 2 ^ k := by
  have hpow : 2 ^ k ≤ 2 ^ 5 := Nat.pow_le_pow_right (by omega) hk
  rw [pllParamsOf, BitVec.toNat_setWidth, divider_toNat hk, Nat.mod_eq_of_lt (by omega)]

theorem accurate_iff {f r : Nat} (hk : k ≤ 5) (hr : 0 < r) (hint : f * 2 ^ k / r ≤ 255) :
    (pllParamsOf f r k).Accurate f r ↔ 2 * (f * 2 ^ k % r) < r := by
  have hcut : cutFraction (f * 2 ^ k % r) r ≤ 0x7FFFFF := Nat.min_le_right _ _
  have hnint : (pllParamsOf f r k).nint.toNat = f * 2 ^ k / r := by
    rw [pllParamsOf, BitVec.toNat_ofNat, Nat.mod_eq_of_lt (by omega)]
  have hnfrac : (pllParamsOf f r k).nfrac.toNat = cutFraction (f * 2 ^ k % r) r := by
    rw [pllParamsOf, BitVec.toNat_ofNat, Nat.mod_eq_of_lt (by omega)]
  obtain ⟨hle, hlt⟩ := cutFraction_error (x := f * 2 ^ k % r) hr
  have hsplit : (f : ℚ) * (2 ^ k : Nat) =
      r * (f * 2 ^ k / r : Nat) + (f * 2 ^ k % r : Nat) := by
    exact_mod_cast (Nat.div_add_mod (f * 2 ^ k) r).symm
  rw [PllParams.Accurate, hnint, hnfrac, divOut_toNat hk, ← hlt, hsplit]
  have herror : (r * (f * 2 ^ k / r : Nat) + (f * 2 ^ k % r : Nat) -
      r * ((f * 2 ^ k / r : Nat) + (cutFraction (f * 2 ^ k % r) r : Nat) / 2 ^ 24) : ℚ) =
        ((f * 2 ^ k % r : Nat) * 2 ^ 24 - r * (cutFraction (f * 2 ^ k % r) r : Nat)) / 2 ^ 24 := by
    ring
  simp only [herror]
  rw [div_lt_div_iff_of_pos_right (by norm_num), sub_lt_iff_lt_add]
  have hnonneg : (0 : ℚ) ≤
      ((f * 2 ^ k % r : Nat) * 2 ^ 24 - r * (cutFraction (f * 2 ^ k % r) r : Nat)) / 2 ^ 24 := by
    apply div_nonneg _ (by norm_num)
    rw [sub_nonneg]
    exact_mod_cast hle
  rw [and_iff_right hnonneg, add_comm]
  exact_mod_cast Iff.rfl

theorem refClk_pos (href : refClk ≠ 0) : 0 < refClk.toNat := by
  apply Nat.pos_of_ne_zero
  intro hzero
  exact href (BitVec.eq_of_toNat_eq hzero)

theorem calculate_of_power (hlow : freqMin ≤ freqHz) (hhigh : freqHz ≤ freqMax) (href : refClk ≠ 0)
    (h : LeastPower freqHz.toNat k) :
    calculatePllParams freqHz refClk =
      if freqHz.toNat * 2 ^ k / refClk.toNat < 1 ∨ freqHz.toNat * 2 ^ k / refClk.toNat > 255 then
        .error errInvalidParam
      else .ok (pllParamsOf freqHz.toNat refClk.toNat k) := by
  have hf : freqHz.toNat ≤ 3800000000 := hhigh
  have hvco := h.vco_le hf
  have hpos := refClk_pos href
  rw [calculatePllParams, if_neg (by bv_omega), if_neg href, selectDivider_some hf h]
  dsimp only
  rw [splitRatio_eq (by rwa [vco_toNat hf h.1]) hpos, vco_toNat hf h.1]
  rfl

theorem calculate_of_low (hlow : freqHz.toNat < 58750000) :
    calculatePllParams freqHz refClk = .error errInvalidParam := by
  rw [calculatePllParams, selectDivider_none hlow]
  split
  · rfl
  · split
    · rfl
    · rfl

/-- With the clock of the board there are parameters, and with every clock the
parameters are accurate. -/
structure PllRight (freqHz : BitVec 64) (refClk : BitVec 32) : Prop where
  reaches : refClk = refClkHz → ∃ p, calculatePllParams freqHz refClk = .ok p ∧
    p.divOut.toNat ∈ [1, 2, 4, 8, 16, 32] ∧ 1880000000 ≤ freqHz.toNat * p.divOut.toNat ∧
    freqHz.toNat * p.divOut.toNat ≤ 5800000000
  accurate : ∀ p, calculatePllParams freqHz refClk = .ok p →
    p.Accurate freqHz.toNat refClk.toNat

/-- From 58.75 MHz on with the clock of the board, and with less than half a clock
left over wherever the ratio is one the synthesizer takes. -/
def PllWhen (freqHz refClk : Nat) : Prop :=
  (refClk = 30720000 → 58750000 ≤ freqHz) ∧
    ∀ k, LeastPower freqHz k → 1 ≤ freqHz * 2 ^ k / refClk → freqHz * 2 ^ k / refClk ≤ 255 →
      2 * (freqHz * 2 ^ k % refClk) < refClk

theorem reaches_iff (hlow : freqMin ≤ freqHz) (hhigh : freqHz ≤ freqMax) :
    (∃ p, calculatePllParams freqHz refClkHz = .ok p ∧
      p.divOut.toNat ∈ [1, 2, 4, 8, 16, 32] ∧ 1880000000 ≤ freqHz.toNat * p.divOut.toNat ∧
      freqHz.toNat * p.divOut.toNat ≤ 5800000000) ↔ 58750000 ≤ freqHz.toNat := by
  constructor
  · rintro ⟨p, hp, _⟩
    by_contra hless
    rw [calculate_of_low (by omega)] at hp
    cases hp
  · intro hle
    obtain ⟨k, h⟩ := (leastPower_or_low freqHz.toNat).resolve_right (by omega)
    have hclk : refClkHz.toNat = 30720000 := rfl
    have hvco := h.vco_le hhigh
    have hreach := h.2.1
    have hint : ¬ (freqHz.toNat * 2 ^ k / refClkHz.toNat < 1 ∨
        freqHz.toNat * 2 ^ k / refClkHz.toNat > 255) := by
      rw [hclk]
      omega
    have href : refClkHz ≠ 0 := by decide
    have hcalc := calculate_of_power hlow hhigh href h
    rw [if_neg hint] at hcalc
    refine ⟨_, hcalc, ?_⟩
    rw [divOut_toNat h.1]
    refine ⟨?_, hreach, by omega⟩
    have hk := h.1
    interval_cases k <;> decide

theorem accurate_all_iff (hlow : freqMin ≤ freqHz) (hhigh : freqHz ≤ freqMax)
    (href : refClk ≠ 0) :
    (∀ p, calculatePllParams freqHz refClk = .ok p → p.Accurate freqHz.toNat refClk.toNat) ↔
      ∀ k, LeastPower freqHz.toNat k → 1 ≤ freqHz.toNat * 2 ^ k / refClk.toNat →
        freqHz.toNat * 2 ^ k / refClk.toNat ≤ 255 →
          2 * (freqHz.toNat * 2 ^ k % refClk.toNat) < refClk.toNat := by
  have hpos := refClk_pos href
  constructor
  · intro h k hk hmin hmax
    have hcalc := calculate_of_power hlow hhigh href hk
    rw [if_neg (by omega)] at hcalc
    exact (accurate_iff hk.1 hpos hmax).mp (h _ hcalc)
  · intro h p hp
    rcases leastPower_or_low freqHz.toNat with ⟨k, hk⟩ | hless
    · rw [calculate_of_power hlow hhigh href hk] at hp
      split at hp
      · cases hp
      · next hint =>
          cases hp
          exact (accurate_iff hk.1 hpos (by omega)).mpr (h k hk (by omega) (by omega))
    · rw [calculate_of_low hless] at hp
      cases hp

theorem pll_right_iff (freqHz : BitVec 64) (refClk : BitVec 32) (hlow : freqMin ≤ freqHz)
    (hhigh : freqHz ≤ freqMax) (href : refClk ≠ 0) :
    PllRight freqHz refClk ↔ PllWhen freqHz.toNat refClk.toNat := by
  have hclk : refClk = refClkHz ↔ refClk.toNat = 30720000 := BitVec.toNat_inj.symm
  have hreaches := reaches_iff hlow hhigh
  have haccurate := accurate_all_iff hlow hhigh href
  constructor
  · rintro ⟨hreach, hall⟩
    refine ⟨?_, haccurate.mp hall⟩
    intro h30
    obtain rfl := hclk.mpr h30
    exact hreaches.mp (hreach rfl)
  · rintro ⟨hfrom, hhalf⟩
    refine ⟨?_, haccurate.mpr hhalf⟩
    rintro rfl
    exact hreaches.mpr (hfrom rfl)

/-- At 868 MHz 0.02 of a clock is left over. -/
theorem pll_right_868_megahertz : PllRight 868000000 refClkHz := by
  apply (pll_right_iff 868000000 refClkHz (by decide) (by decide) (by decide)).mpr
  refine ⟨by decide, ?_⟩
  intro k hk _ _
  obtain rfl := hk.unique (m := 2) ⟨by decide, by decide, by decide⟩
  decide

/-- At 433 MHz 0.76 of a clock is left over, and the oscillator misses its
frequency; at 100 kHz there are no parameters at all. -/
theorem pll_misses_433_megahertz :
    ¬ PllRight 433000000 refClkHz ∧ ¬ PllRight 100000 refClkHz := by
  have hlow : calculatePllParams 100000 refClkHz = .error errInvalidParam := by decide
  have hcalc : calculatePllParams 433000000 refClkHz = .ok (pllParamsOf 433000000 30720000 3) := by
    decide
  constructor
  · intro h
    have hmiss := (accurate_iff (by decide) (by decide) (by decide)).mp (h.accurate _ hcalc)
    exact absurd hmiss (by decide)
  · intro h
    obtain ⟨p, hp, _⟩ := h.reaches rfl
    rw [hlow] at hp
    cases hp

end GhostBlade.Firmware.Lms7002m
