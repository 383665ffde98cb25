import GhostBlade.Firmware.AdcCalibration

/-!
The arithmetic of the calibration. Codes are converted to millivolts in 32 bits
and the line through the two points is fitted with truncating divisions; the
formula that applies it is not the one it was fitted for.
-/

namespace GhostBlade.Firmware

open GhostBlade.Library

/-! ### Against unbounded integers -/

/-- The formulas of the calibration over unbounded integers. -/
def exactMv (raw : BitVec 16) : Int := ((raw.toNat : Int) * 3249700 + 500) / 1000000

def exactGain (vbatLowMv vbatHighMv rawLow rawHigh : BitVec 16) : Int :=
  (((vbatHighMv.toNat : Int) - vbatLowMv.toNat) * 1000).tdiv (exactMv rawHigh - exactMv rawLow)

def exactOffset (vbatLowMv vbatHighMv rawLow rawHigh : BitVec 16) : Int :=
  (vbatLowMv.toNat : Int) -
    (exactMv rawLow * exactGain vbatLowMv vbatHighMv rawLow rawHigh).tdiv 1000

theorem measuredMv_toNat (raw : BitVec 16) :
    (measuredMv raw).toNat = (raw.toNat * 3249700 + 500) % 4294967296 / 1000000 := by
  have hraw := raw.isLt
  have hnumerator : (3249700#32).toNat = 3249700 := by decide
  have hrounding : (500#32).toNat = 500 := by decide
  have hdenominator : (1000000#32).toNat = 1000000 := by decide
  have hword : raw.toNat % 2 ^ 32 = raw.toNat := Nat.mod_eq_of_lt (by omega)
  have hnarrow : (raw.toNat * 3249700 + 500) % 4294967296 / 1000000 < 65536 := by omega
  rw [measuredMv, BitVec.toNat_setWidth, BitVec.toNat_udiv, BitVec.toNat_add, BitVec.toNat_mul,
    BitVec.toNat_setWidth, hnumerator, hrounding, hdenominator, hword, Nat.mod_add_mod]
  exact Nat.mod_eq_of_lt hnarrow

/-- No converted code is above what 32 bits of microvolts hold. -/
theorem measuredMv_le (raw : BitVec 16) : (measuredMv raw).toNat ≤ 4294 := by
  rw [measuredMv_toNat]
  omega

/-- From code 1322 on, at 4.296 V, the product does not fit into 32 bits. -/
theorem measuredMv_exact_iff (raw : BitVec 16) :
    ((measuredMv raw).toNat : Int) = exactMv raw ↔ raw.toNat ≤ 1321 := by
  have hraw := raw.isLt
  rw [measuredMv_toNat, exactMv]
  omega

/-- The values of a calibration are those of the formulas over unbounded
integers, and so is its outcome. -/
def CalibratesExactly (timeUs : BitVec 32) (vbatLowMv vbatHighMv : BitVec 16) (s : AdcSystem) :
    Prop :=
  let low := measuredMv (rawLow s)
  let high := measuredMv (rawHigh s)
  let gain := gainX1000 vbatLowMv vbatHighMv low high
  (low.toNat : Int) = exactMv (rawLow s) ∧ (high.toNat : Int) = exactMv (rawHigh s) ∧
    (high ≠ low → gain = exactGain vbatLowMv vbatHighMv (rawLow s) (rawHigh s) ∧
      offsetMv vbatLowMv low gain = exactOffset vbatLowMv vbatHighMv (rawLow s) (rawHigh s)) ∧
    ((adcCalFactoryCalibrate soundFlash timeUs vbatLowMv vbatHighMv s).1 = 0 ↔
      exactMv (rawHigh s) ≠ exactMv (rawLow s) ∧
        (900 ≤ exactGain vbatLowMv vbatHighMv (rawLow s) (rawHigh s) ∧
          exactGain vbatLowMv vbatHighMv (rawLow s) (rawHigh s) ≤ 1100) ∧
        (-200 ≤ exactOffset vbatLowMv vbatHighMv (rawLow s) (rawHigh s) ∧
          exactOffset vbatLowMv vbatHighMv (rawLow s) (rawHigh s) ≤ 200))

section

variable {vbatLowMv vbatHighMv : BitVec 16} {s : AdcSystem}

theorem gain_exact (vbatLowMv vbatHighMv : BitVec 16)
    (hlow : ((measuredMv (rawLow s)).toNat : Int) = exactMv (rawLow s))
    (hhigh : ((measuredMv (rawHigh s)).toNat : Int) = exactMv (rawHigh s)) :
    gainX1000 vbatLowMv vbatHighMv (measuredMv (rawLow s)) (measuredMv (rawHigh s)) =
      exactGain vbatLowMv vbatHighMv (rawLow s) (rawHigh s) := by
  rw [gainX1000, hlow, hhigh, exactGain]

/-- The product of the offset is formed in 32 bits. -/
theorem offset_exact_iff (vbatLowMv vbatHighMv : BitVec 16)
    (hlow : ((measuredMv (rawLow s)).toNat : Int) = exactMv (rawLow s)) :
    offsetMv vbatLowMv (measuredMv (rawLow s))
        (exactGain vbatLowMv vbatHighMv (rawLow s) (rawHigh s)) =
      exactOffset vbatLowMv vbatHighMv (rawLow s) (rawHigh s) ↔
    FitsSigned 32
      (exactMv (rawLow s) * exactGain vbatLowMv vbatHighMv (rawLow s) (rawHigh s)) := by
  rw [offsetMv, exactOffset, hlow, sub_right_inj]
  exact tdiv_wrapSigned_iff (by decide) (by decide) (by norm_num)

/-- With sound flash a calibration succeeds when it passes its checks. -/
theorem success_iff (timeUs : BitVec 32) :
    (adcCalFactoryCalibrate soundFlash timeUs vbatLowMv vbatHighMv s).1 = 0 ↔
      calibrationError vbatLowMv vbatHighMv (rawLow s) (rawHigh s) = 0 := by
  constructor
  · exact calibrationError_of_success soundFlash timeUs vbatLowMv vbatHighMv s
  · intro herror
    rw [factoryCalibrate_accepted soundFlash timeUs vbatLowMv vbatHighMv s herror]
    simp [soundFlash]

/-- Between valid references the calibration is exact when both codes are at
most 1321 and the product of the offset fits into 32 bits. -/
theorem calibration_exact_iff (timeUs : BitVec 32) (hlow : 2800#16 ≤ vbatLowMv)
    (horder : vbatLowMv < vbatHighMv) (hhigh : vbatHighMv ≤ 4500#16) :
    CalibratesExactly timeUs vbatLowMv vbatHighMv s ↔
      (rawLow s).toNat ≤ 1321 ∧ (rawHigh s).toNat ≤ 1321 ∧
        (exactMv (rawHigh s) ≠ exactMv (rawLow s) →
          FitsSigned 32
            (exactMv (rawLow s) * exactGain vbatLowMv vbatHighMv (rawLow s) (rawHigh s))) := by
  constructor
  · rintro ⟨hmvLow, hmvHigh, hline, -⟩
    refine ⟨(measuredMv_exact_iff _).mp hmvLow, (measuredMv_exact_iff _).mp hmvHigh, ?_⟩
    intro hdiffer
    have hcodes : measuredMv (rawHigh s) ≠ measuredMv (rawLow s) := by
      intro hsame
      rw [← hmvLow, ← hmvHigh, hsame] at hdiffer
      exact hdiffer rfl
    obtain ⟨hgain, hoffset⟩ := hline hcodes
    rw [hgain] at hoffset
    exact (offset_exact_iff vbatLowMv vbatHighMv hmvLow).mp hoffset
  · rintro ⟨hcodeLow, hcodeHigh, hfits⟩
    have hmvLow := (measuredMv_exact_iff _).mpr hcodeLow
    have hmvHigh := (measuredMv_exact_iff _).mpr hcodeHigh
    have hgain := gain_exact vbatLowMv vbatHighMv hmvLow hmvHigh
    have hdiffer : measuredMv (rawHigh s) ≠ measuredMv (rawLow s) ↔
        exactMv (rawHigh s) ≠ exactMv (rawLow s) := by
      rw [← hmvLow, ← hmvHigh, Nat.cast_inj.ne, ne_eq, ne_eq, BitVec.toNat_inj]
    have hoffset (h : exactMv (rawHigh s) ≠ exactMv (rawLow s)) :=
      (offset_exact_iff vbatLowMv vbatHighMv hmvLow).mpr (hfits h)
    refine ⟨hmvLow, hmvHigh, ?_, ?_⟩
    · intro hcodes
      rw [hgain]
      exact ⟨rfl, hoffset (hdiffer.mp hcodes)⟩
    · have hvalidLow : ¬ (vbatLowMv < 2800#16 ∨ vbatLowMv > 4500#16) := by bv_omega
      have hvalidHigh : ¬ (vbatHighMv < 2800#16 ∨ vbatHighMv > 4500#16) := by bv_omega
      have hincreasing : ¬ vbatHighMv ≤ vbatLowMv := by bv_omega
      rw [success_iff, calibrationError_eq_zero]
      simp only [hgain, hvalidLow, hvalidHigh, hincreasing, not_false_eq_true, true_and]
      rw [hdiffer]
      apply and_congr_right
      intro hcodes
      rw [hoffset hcodes]
      simp only [not_or, not_lt, gt_iff_lt]

end

/-- Readings at 3.3 V and 4.4 V, which the calibration accepts as a reference. -/
def highReferenceBench : AdcSystem := { calibrationBench with adc := steppedPort 66 1016 1354 }

theorem calibration_exact_iff_bench :
    2800#16 ≤ 3300#16 ∧ 3300#16 < 4100#16 ∧ 4100#16 ≤ 4500#16 ∧
      (CalibratesExactly 0 3300#16 4100#16 calibrationBench ↔
        (rawLow calibrationBench).toNat ≤ 1321 ∧ (rawHigh calibrationBench).toNat ≤ 1321 ∧
          (exactMv (rawHigh calibrationBench) ≠ exactMv (rawLow calibrationBench) →
            FitsSigned 32 (exactMv (rawLow calibrationBench) *
              exactGain 3300#16 4100#16 (rawLow calibrationBench) (rawHigh calibrationBench)))) := by
  have hlow : 2800#16 ≤ 3300#16 := by decide
  have horder : 3300#16 < 4100#16 := by decide
  have hhigh : 4100#16 ≤ 4500#16 := by decide
  exact ⟨hlow, horder, hhigh, calibration_exact_iff 0 hlow horder hhigh⟩

/-- The code at 4.4 V is taken for 105 mV, and the calibration refuses a board
on which the exact values are in range. -/
theorem calibration_overflows :
    2800#16 ≤ 3300#16 ∧ 3300#16 < 4400#16 ∧ 4400#16 ≤ 4500#16 ∧
      (rawHigh highReferenceBench).toNat = 1354 ∧
      ¬ CalibratesExactly 0 3300 4400 highReferenceBench := by
  have hmeasured : ((measuredMv (rawHigh highReferenceBench)).toNat : Int) ≠
      exactMv (rawHigh highReferenceBench) := by
    decide +kernel
  have hcode : (rawHigh highReferenceBench).toNat = 1354 := by decide +kernel
  exact ⟨by decide, by decide, by decide, hcode, fun h => hmeasured h.2.1⟩

/-! ### The two points -/

/-- Within 5 mV. -/
def Near (refMv mv : BitVec 16) : Prop :=
  -5 ≤ (mv.toNat : Int) - refMv.toNat ∧ (mv.toNat : Int) - refMv.toNat ≤ 5

/-- The remainders of the line through the points (`x₁`, `y₁`) and (`x₂`, `y₂`),
fitted with a gain in thousandths, and the product of its offset with the
deviation of its gain stay within five thousand. -/
def LineWithin5 (x₁ y₁ x₂ y₂ : Int) : Prop :=
  let gain := lineGain 1000 x₁ y₁ x₂ y₂
  let rest := x₁ * gain % 1000 + lineOffset 1000 x₁ y₁ gain * (gain - 1000)
  (y₂ - y₁) * 1000 % (x₂ - x₁) - 5000 ≤ rest ∧ rest < 6000

/-- The line misses its points by less than the remainders allow. -/
theorem lineWithin5_iff {x₁ y₁ x₂ y₂ gain offset : Int} (h : x₁ < x₂)
    (hgain : gain = lineGain 1000 x₁ y₁ x₂ y₂) (hoffset : offset = lineOffset 1000 x₁ y₁ gain) :
    ((-5 ≤ lineApply 1000 offset gain x₁ - y₁ ∧ lineApply 1000 offset gain x₁ - y₁ ≤ 5) ∧
      (-5 ≤ lineApply 1000 offset gain x₂ - y₂ ∧ lineApply 1000 offset gain x₂ - y₂ ≤ 5)) ↔
      LineWithin5 x₁ y₁ x₂ y₂ := by
  have hfirst := lineApply_first (by decide) hoffset
  have hsecond := lineApply_second (by decide) hgain hoffset
  have hremainder := Int.emod_nonneg ((y₂ - y₁) * 1000) (show x₂ - x₁ ≠ 0 by omega)
  rw [LineWithin5, ← hgain, ← hoffset, hfirst, hsecond]
  generalize offset * (gain - 1000) = product
  omega

section

variable {vbatLowMv vbatHighMv : BitVec 16} {s : AdcSystem}

/-- A calibration that passes its checks fits the line with an increasing
pair of points; no product overflows and no quotient is negative. -/
theorem calibration_line
    (h : calibrationError vbatLowMv vbatHighMv (rawLow s) (rawHigh s) = 0) :
    let x₁ : Int := (measuredMv (rawLow s)).toNat
    let x₂ : Int := (measuredMv (rawHigh s)).toNat
    let gain := gainX1000 vbatLowMv vbatHighMv (measuredMv (rawLow s)) (measuredMv (rawHigh s))
    let offset := offsetMv vbatLowMv (measuredMv (rawLow s)) gain
    x₁ < x₂ ∧ gain = lineGain 1000 x₁ vbatLowMv.toNat x₂ vbatHighMv.toNat ∧
      offset = lineOffset 1000 x₁ vbatLowMv.toNat gain ∧ (900 ≤ gain ∧ gain ≤ 1100) ∧
      (-200 ≤ offset ∧ offset ≤ 200) := by
  intro x₁ x₂ gain offset
  obtain ⟨hlow, hhigh, horder, hdiffer, hgain, hoffset⟩ := calibrationError_eq_zero.mp h
  have hrange : 900 ≤ gain ∧ gain ≤ 1100 := by
    simpa only [not_or, not_lt, gt_iff_lt] using hgain
  have hoffsetRange : -200 ≤ offset ∧ offset ≤ 200 := by
    simpa only [not_or, not_lt, gt_iff_lt] using hoffset
  have hspan : 0 < ((vbatHighMv.toNat : Int) - vbatLowMv.toNat) * 1000 := by bv_omega
  have hpoints : x₁ < x₂ := by
    by_contra hnot
    have hnonpos : gain ≤ 0 := by
      apply Int.tdiv_nonpos_of_nonneg_of_nonpos hspan.le
      omega
    omega
  have hcodes := measuredMv_le (rawLow s)
  have hgainLine : gain = lineGain 1000 x₁ vbatLowMv.toNat x₂ vbatHighMv.toNat :=
    Int.tdiv_eq_ediv_of_nonneg hspan.le
  have hproduct : 0 ≤ x₁ * gain ∧ x₁ * gain ≤ 4294 * 1100 := by
    constructor
    · exact Int.mul_nonneg (by omega) (by omega)
    · apply Int.mul_le_mul <;> omega
  have hoffsetLine : offset = lineOffset 1000 x₁ vbatLowMv.toNat gain := by
    have hfits : wrapSigned 32 (x₁ * gain) = x₁ * gain := by
      apply wrapSigned_of_fits
      unfold FitsSigned
      omega
    calc
      offset = vbatLowMv.toNat - (wrapSigned 32 (x₁ * gain)).tdiv 1000 := by rfl
      _ = lineOffset 1000 x₁ vbatLowMv.toNat gain := by
        rw [hfits, Int.tdiv_eq_ediv_of_nonneg hproduct.1, lineOffset]
  exact ⟨hpoints, hgainLine, hoffsetLine, hrange, hoffsetRange⟩

/-- With coefficients in the accepted ranges, a reading that stays positive is
corrected by the line. -/
theorem applyVbat_line {c : AdcCal} {offset gain : Int} (hloaded : c.loaded = true)
    (hoffsetCoeff : c.coeffs.vbatOffsetMv = BitVec.ofInt 16 offset)
    (hgainCoeff : c.coeffs.vbatGainX1000 = BitVec.ofInt 16 gain)
    (hoffset : -200 ≤ offset ∧ offset ≤ 200) (hgain : 900 ≤ gain ∧ gain ≤ 1100)
    (raw : BitVec 16) (hraw : raw.toNat ≤ 4294) (hpos : 0 ≤ raw.toNat + offset) :
    ((adcCalApplyVbat c raw).toNat : Int) = lineApply 1000 offset gain raw.toNat := by
  have hoffsetInt : (BitVec.ofInt 16 offset).toInt = offset := by
    rw [BitVec.toInt_ofInt]
    apply Int.bmod_eq_of_le_mul_two <;> omega
  have hgainNat : ((BitVec.ofInt 16 gain).toNat : Int) = gain := by
    rw [BitVec.toNat_ofInt]
    omega
  have hproduct : 0 ≤ (raw.toNat + offset) * gain ∧
      (raw.toNat + offset) * gain ≤ 4494 * 1100 := by
    constructor
    · exact Int.mul_nonneg hpos (by omega)
    · apply Int.mul_le_mul <;> omega
  have hfits : wrapSigned 32 ((raw.toNat + offset) * gain) = (raw.toNat + offset) * gain := by
    apply wrapSigned_of_fits
    unfold FitsSigned
    omega
  have hquotient := Int.tdiv_eq_ediv_of_nonneg (b := 1000) hproduct.1
  have hbounds : 0 ≤ (raw.toNat + offset) * gain / 1000 ∧
      (raw.toNat + offset) * gain / 1000 < 65536 := by
    omega
  unfold adcCalApplyVbat lineApply
  dsimp only
  rw [if_pos hloaded, hoffsetCoeff, hgainCoeff, hoffsetInt, hgainNat, hfits, hquotient,
    if_neg (by omega), if_neg (by omega), BitVec.toNat_ofInt]
  omega

/-- A successful calibration hits both points within 5 mV exactly when the
remainders of its line allow it; a module that is not initialised applies no
correction. -/
theorem calibration_points_iff (flash : FlashBehaviour) (timeUs : BitVec 32)
    (vbatLowMv vbatHighMv : BitVec 16) (s : AdcSystem)
    (h : (adcCalFactoryCalibrate flash timeUs vbatLowMv vbatHighMv s).1 = 0) :
    let c := (adcCalFactoryCalibrate flash timeUs vbatLowMv vbatHighMv s).2.cal
    let measuredLowMv := measuredMv (rawLow s)
    let measuredHighMv := measuredMv (rawHigh s)
    (Near vbatLowMv (adcCalApplyVbat c measuredLowMv) ∧
      Near vbatHighMv (adcCalApplyVbat c measuredHighMv)) ↔
    if s.cal.loaded then
      LineWithin5 measuredLowMv.toNat vbatLowMv.toNat measuredHighMv.toNat vbatHighMv.toNat
    else Near vbatLowMv measuredLowMv ∧ Near vbatHighMv measuredHighMv := by
  intro c measuredLowMv measuredHighMv
  have herror := calibrationError_of_success flash timeUs vbatLowMv vbatHighMv s h
  have hresult := factoryCalibrate_accepted flash timeUs vbatLowMv vbatHighMv s herror
  have hcal : c = { s.cal with
      coeffs := calibratedCoeffs vbatLowMv vbatHighMv (rawLow s) (rawHigh s) } :=
    congrArg (fun r => r.2.cal) hresult
  cases hloaded : s.cal.loaded with
  | false =>
      have hraw (raw : BitVec 16) : adcCalApplyVbat c raw = raw := by
        rw [hcal, adcCalApplyVbat]
        simp [hloaded]
      simp [hraw]
  | true =>
      obtain ⟨hpoints, hgainLine, hoffsetLine, hgain, hoffset⟩ := calibration_line herror
      obtain ⟨hlow, -, -, -, -, -⟩ := calibrationError_eq_zero.mp herror
      generalize hg : gainX1000 vbatLowMv vbatHighMv (measuredMv (rawLow s))
        (measuredMv (rawHigh s)) = gain at hgainLine hoffsetLine hgain hoffset
      generalize ho : offsetMv vbatLowMv (measuredMv (rawLow s)) gain = offset
        at hoffsetLine hoffset
      have hloadedC : c.loaded = true := by rw [hcal, hloaded]
      have hoffsetCoeff : c.coeffs.vbatOffsetMv = BitVec.ofInt 16 offset := by
        rw [hcal, ← ho, ← hg]
        rfl
      have hgainCoeff : c.coeffs.vbatGainX1000 = BitVec.ofInt 16 gain := by
        rw [hcal, ← hg]
        rfl
      have hincreasing : (measuredLowMv.toNat : Int) < measuredHighMv.toNat := hpoints
      -- a low reading would need an offset beyond the accepted range
      have hpositive : 0 ≤ (measuredLowMv.toNat : Int) + offset := by
        have hlowRef : 2800 ≤ vbatLowMv.toNat := by bv_omega
        have hquotient : offset = vbatLowMv.toNat - measuredLowMv.toNat * gain / 1000 := hoffsetLine
        have hproduct : (measuredLowMv.toNat : Int) * gain ≤ measuredLowMv.toNat * 1100 :=
          Int.mul_le_mul_of_nonneg_left hgain.2 (by omega)
        omega
      have happly (raw : BitVec 16) (hraw : raw.toNat ≤ 4294) (hpos : 0 ≤ raw.toNat + offset) :=
        applyVbat_line hloadedC hoffsetCoeff hgainCoeff hoffset hgain raw hraw hpos
      rw [if_pos rfl, ← lineWithin5_iff hincreasing hgainLine hoffsetLine, Near, Near,
        happly measuredLowMv (measuredMv_le _) hpositive,
        happly measuredHighMv (measuredMv_le _) (by omega)]

end

theorem calibration_points_iff_bench :
    (adcCalFactoryCalibrate soundFlash 0 3300 4100 calibrationBench).1 = 0 ∧
      let c := (adcCalFactoryCalibrate soundFlash 0 3300 4100 calibrationBench).2.cal
      let measuredLowMv := measuredMv (rawLow calibrationBench)
      let measuredHighMv := measuredMv (rawHigh calibrationBench)
      ((Near 3300 (adcCalApplyVbat c measuredLowMv) ∧
          Near 4100 (adcCalApplyVbat c measuredHighMv)) ↔
        if calibrationBench.cal.loaded then
          LineWithin5 measuredLowMv.toNat (3300 : BitVec 16).toNat measuredHighMv.toNat
            (4100 : BitVec 16).toNat
        else Near 3300 measuredLowMv ∧ Near 4100 measuredHighMv) := by
  have hsuccess : (adcCalFactoryCalibrate soundFlash 0 3300 4100 calibrationBench).1 = 0 := by
    decide +kernel
  exact ⟨hsuccess, calibration_points_iff soundFlash 0 3300 4100 calibrationBench hsuccess⟩

/-- Codes 870 and 1300 at 2.8 V and 4.1 V: the gain is 930 and the offset
171 mV, and the low point is missed by 12 mV. -/
def skewedBench : AdcSystem := { calibrationBench with adc := steppedPort 66 870 1300 }

theorem calibration_misses_point :
    let result := adcCalFactoryCalibrate soundFlash 0 2800 4100 skewedBench
    ¬ (result.1 = 0 →
      Near 2800 (adcCalApplyVbat result.2.cal (measuredMv (rawLow skewedBench))) ∧
        Near 4100 (adcCalApplyVbat result.2.cal (measuredMv (rawHigh skewedBench)))) := by
  unfold Near
  decide +kernel

/-! ### Any accepted record -/

def exactVbat (c : AdcCalCoeffs) (raw : BitVec 16) : Int :=
  (((raw.toNat : Int) + c.vbatOffsetMv.toInt) * c.vbatGainX1000.toNat).tdiv 1000

def exactTemp (c : AdcCalCoeffs) (raw : BitVec 16) : Int :=
  (raw.toInt * c.tempGainX1000.toNat).tdiv 1000 + c.tempOffsetDcx10.toInt

/-- The signed results on the way to the two corrections. -/
def applyIntermediates (c : AdcCalCoeffs) (raw : BitVec 16) : List Int :=
  [raw.toNat + c.vbatOffsetMv.toInt,
    (raw.toNat + c.vbatOffsetMv.toInt) * c.vbatGainX1000.toNat, exactVbat c raw,
    raw.toInt * c.tempGainX1000.toNat, (raw.toInt * c.tempGainX1000.toNat).tdiv 1000,
    exactTemp c raw]

/-- Both corrections are the clamped formulas, nothing overflows on the way, and
a larger reading is never corrected to a smaller one. -/
structure AppliesExactly (c : AdcCal) : Prop where
  vbat : ∀ raw, ((adcCalApplyVbat c raw).toNat : Int) = clamp 0 65535 (exactVbat c.coeffs raw)
  temp : ∀ raw, (adcCalApplyTemp c raw).toInt = clamp (-32768) 32767 (exactTemp c.coeffs raw)
  fits : ∀ raw, ∀ x ∈ applyIntermediates c.coeffs raw, FitsSigned 32 x
  vbatMono : ∀ raw raw' : BitVec 16, raw ≤ raw' → adcCalApplyVbat c raw ≤ adcCalApplyVbat c raw'
  tempMono : ∀ raw raw' : BitVec 16, raw.toInt ≤ raw'.toInt →
    (adcCalApplyTemp c raw).toInt ≤ (adcCalApplyTemp c raw').toInt

/-- The largest reading overflows nothing, and the extreme temperatures stay in
16 bits. -/
def CoeffsInRange (c : AdcCalCoeffs) : Prop :=
  (65535 + c.vbatOffsetMv.toInt) * c.vbatGainX1000.toNat < 2147483648 ∧
    32767 * (c.tempGainX1000.toNat : Int) / 1000 + c.tempOffsetDcx10.toInt ≤ 32767 ∧
    -32768 ≤ c.tempOffsetDcx10.toInt - 32768 * (c.tempGainX1000.toNat : Int) / 1000

section

variable (c : AdcCalCoeffs) (raw : BitVec 16)

theorem exactVbat_mono (raw raw' : BitVec 16) (h : raw ≤ raw') :
    exactVbat c raw ≤ exactVbat c raw' := by
  have hword : (raw.toNat : Int) ≤ raw'.toNat := by bv_omega
  apply Int.tdiv_le_tdiv (by decide)
  apply Int.mul_le_mul_of_nonneg_right <;> omega

theorem exactTemp_mono (raw raw' : BitVec 16) (h : raw.toInt ≤ raw'.toInt) :
    exactTemp c raw ≤ exactTemp c raw' := by
  apply Int.add_le_add_right
  apply Int.tdiv_le_tdiv (by decide)
  apply Int.mul_le_mul_of_nonneg_right h
  omega

/-- A temperature times a gain always fits. -/
theorem tempProduct_bounds :
    -2147450880 ≤ raw.toInt * c.tempGainX1000.toNat ∧
      raw.toInt * c.tempGainX1000.toNat ≤ 2147385345 := by
  have hlow : -32768 ≤ raw.toInt := raw.le_toInt
  have hhigh : raw.toInt ≤ 32767 := by
    have hlt : raw.toInt < 32768 := raw.toInt_lt
    omega
  have hgain : (c.tempGainX1000.toNat : Int) ≤ 65535 := by
    have hlt := c.tempGainX1000.isLt
    omega
  have hfromLow : -32768 * (c.tempGainX1000.toNat : Int) ≤ raw.toInt * c.tempGainX1000.toNat :=
    Int.mul_le_mul_of_nonneg_right hlow (by omega)
  have hfromHigh : raw.toInt * c.tempGainX1000.toNat ≤ 32767 * (c.tempGainX1000.toNat : Int) :=
    Int.mul_le_mul_of_nonneg_right hhigh (by omega)
  omega

/-- The correction of a temperature is cut to 16 bits, not clamped. -/
theorem applyTemp_eq {c : AdcCal} (hloaded : c.loaded = true) (raw : BitVec 16) :
    (adcCalApplyTemp c raw).toInt = wrapSigned 16 (exactTemp c.coeffs raw) := by
  have hbounds := tempProduct_bounds c.coeffs raw
  have hfits : wrapSigned 32 (raw.toInt * c.coeffs.tempGainX1000.toNat) =
      raw.toInt * c.coeffs.tempGainX1000.toNat := by
    apply wrapSigned_of_fits
    unfold FitsSigned
    omega
  unfold adcCalApplyTemp
  rw [if_pos hloaded, hfits]
  exact BitVec.toInt_ofInt _

/-- The correction of a voltage is clamped when its product fits. -/
theorem applyVbat_eq {c : AdcCal} (hloaded : c.loaded = true) (raw : BitVec 16)
    (hfits : FitsSigned 32
      ((raw.toNat + c.coeffs.vbatOffsetMv.toInt) * c.coeffs.vbatGainX1000.toNat)) :
    ((adcCalApplyVbat c raw).toNat : Int) = clamp 0 65535 (exactVbat c.coeffs raw) := by
  unfold adcCalApplyVbat
  dsimp only
  rw [if_pos hloaded, wrapSigned_of_fits hfits, BitVec.toNat_ofInt]
  change _ = clamp 0 65535
    (((raw.toNat + c.coeffs.vbatOffsetMv.toInt) * c.coeffs.vbatGainX1000.toNat).tdiv 1000)
  generalize ((raw.toNat + c.coeffs.vbatOffsetMv.toInt) *
    (c.coeffs.vbatGainX1000.toNat : Int)).tdiv 1000 = x
  unfold clamp
  split_ifs <;> omega

/-- The temperatures at the ends of the range and next to them. -/
theorem exactTemp_ends :
    let g : Int := c.tempGainX1000.toNat
    let o := c.tempOffsetDcx10.toInt
    exactTemp c 32767#16 = 32767 * g / 1000 + o ∧ exactTemp c 32766#16 = 32766 * g / 1000 + o ∧
      exactTemp c 32768#16 = o - 32768 * g / 1000 ∧
      exactTemp c 32769#16 = o - 32767 * g / 1000 := by
  intro g o
  have hnonneg (k : Int) (hk : 0 ≤ k) : (k * g).tdiv 1000 = k * g / 1000 :=
    Int.tdiv_eq_ediv_of_nonneg (Int.mul_nonneg hk (by omega))
  have hneg (k : Int) (hk : 0 ≤ k) : (-k * g).tdiv 1000 = -(k * g / 1000) := by
    rw [Int.neg_mul, Int.neg_tdiv, hnonneg k hk]
  have hvalues : (32767#16).toInt = 32767 ∧ (32766#16).toInt = 32766 ∧
      (32768#16).toInt = -32768 ∧ (32769#16).toInt = -32767 := by
    decide
  obtain ⟨h₁, h₂, h₃, h₄⟩ := hvalues
  unfold exactTemp
  rw [h₁, h₂, h₃, h₄, hnonneg 32767 (by decide), hnonneg 32766 (by decide),
    hneg 32768 (by decide), hneg 32767 (by decide)]
  omega

/-- If cutting never differs from clamping, nothing is ever cut: a temperature
that leaves the range at an end by a multiple of 65536 leaves it one step before
as well, by something else. -/
theorem tempInRange_of_clamped
    (h : ∀ raw, wrapSigned 16 (exactTemp c raw) = clamp (-32768) 32767 (exactTemp c raw)) :
    32767 * (c.tempGainX1000.toNat : Int) / 1000 + c.tempOffsetDcx10.toInt ≤ 32767 ∧
      -32768 ≤ c.tempOffsetDcx10.toInt - 32768 * (c.tempGainX1000.toNat : Int) / 1000 := by
  have hoffsetLow : -32768 ≤ c.tempOffsetDcx10.toInt := c.tempOffsetDcx10.le_toInt
  have hoffsetHigh : c.tempOffsetDcx10.toInt < 32768 := c.tempOffsetDcx10.toInt_lt
  have hgain : (c.tempGainX1000.toNat : Int) ≤ 65535 := by
    have hlt := c.tempGainX1000.isLt
    omega
  obtain ⟨hmax, hnext, hmin, hprev⟩ := exactTemp_ends c
  have hcongr (raw : BitVec 16) : ∃ k, exactTemp c raw -
      clamp (-32768) 32767 (exactTemp c raw) = 65536 * k := by
    rw [← h raw]
    exact wrapSigned_congr 16 (exactTemp c raw)
  generalize (c.tempGainX1000.toNat : Int) = g at *
  constructor
  · by_contra hout
    obtain ⟨k, hk⟩ := hcongr 32767#16
    obtain ⟨j, hj⟩ := hcongr 32766#16
    rw [hmax] at hk
    rw [hnext] at hj
    unfold clamp at hk hj
    have hgainLow : 2001 ≤ g := by omega
    have hstep : 32766 * g / 1000 + 2 ≤ 32767 * g / 1000 ∧
        32767 * g / 1000 ≤ 32766 * g / 1000 + 66 := by
      omega
    omega
  · by_contra hout
    obtain ⟨k, hk⟩ := hcongr 32768#16
    obtain ⟨j, hj⟩ := hcongr 32769#16
    rw [hmin] at hk
    rw [hprev] at hj
    unfold clamp at hk hj
    have hgainLow : 2000 ≤ g := by omega
    have hstep : 32767 * g / 1000 + 2 ≤ 32768 * g / 1000 ∧
        32768 * g / 1000 ≤ 32767 * g / 1000 + 66 := by
      omega
    omega

/-- No reading overflows if the largest does not. -/
theorem vbatProduct_fits (h : (65535 + c.vbatOffsetMv.toInt) * c.vbatGainX1000.toNat < 2147483648) :
    FitsSigned 32 ((raw.toNat + c.vbatOffsetMv.toInt) * c.vbatGainX1000.toNat) := by
  have hlow : -32768 ≤ c.vbatOffsetMv.toInt := c.vbatOffsetMv.le_toInt
  have hraw := raw.isLt
  have hgain := c.vbatGainX1000.isLt
  have hfromLow : -32768 * (c.vbatGainX1000.toNat : Int) ≤
      (raw.toNat + c.vbatOffsetMv.toInt) * c.vbatGainX1000.toNat := by
    apply Int.mul_le_mul_of_nonneg_right <;> omega
  have hfromHigh : (raw.toNat + c.vbatOffsetMv.toInt) * c.vbatGainX1000.toNat ≤
      (65535 + c.vbatOffsetMv.toInt) * c.vbatGainX1000.toNat := by
    apply Int.mul_le_mul_of_nonneg_right <;> omega
  unfold FitsSigned
  omega

/-- Every result on the way fits when the product of the voltage does. -/
theorem applyIntermediates_fit (h : FitsSigned 32
      ((raw.toNat + c.vbatOffsetMv.toInt) * c.vbatGainX1000.toNat)) :
    ∀ x ∈ applyIntermediates c raw, FitsSigned 32 x := by
  have hraw := raw.isLt
  have hoffsetLow : -32768 ≤ c.vbatOffsetMv.toInt := c.vbatOffsetMv.le_toInt
  have hoffsetHigh : c.vbatOffsetMv.toInt < 32768 := c.vbatOffsetMv.toInt_lt
  have htempLow : -32768 ≤ c.tempOffsetDcx10.toInt := c.tempOffsetDcx10.le_toInt
  have htempHigh : c.tempOffsetDcx10.toInt < 32768 := c.tempOffsetDcx10.toInt_lt
  have hproduct := tempProduct_bounds c raw
  have hvbat := tdiv_bounds (show (0 : Int) < 1000 by decide)
    ((raw.toNat + c.vbatOffsetMv.toInt) * c.vbatGainX1000.toNat)
  have htemp := tdiv_bounds (show (0 : Int) < 1000 by decide)
    (raw.toInt * c.tempGainX1000.toNat)
  unfold FitsSigned at h
  simp only [applyIntermediates, exactVbat, exactTemp, List.forall_mem_cons, List.not_mem_nil,
    false_imp_iff, implies_true, and_true, FitsSigned]
  refine ⟨?_, h, ?_, ?_, ?_, ?_⟩ <;> omega

/-- The coefficients of an accepted record correct every reading as meant
exactly when the extreme readings stay in range. -/
theorem stored_coeffs_apply_iff (s : AdcSystem) (h : AdcCalAccepts s.flash) :
    AppliesExactly (adcCalInit s).2.cal ↔ CoeffsInRange (imageRecord s.flash).coeffs := by
  have hcoeffs : (adcCalInit s).2.cal.coeffs = (imageRecord s.flash).coeffs := if_pos h
  have hloaded : (adcCalInit s).2.cal.loaded = true := by rfl
  rw [← hcoeffs]
  generalize (adcCalInit s).2.cal = cal at hloaded
  constructor
  · intro happlies
    have hlargest := happlies.fits 65535#16 ((65535 + cal.coeffs.vbatOffsetMv.toInt) *
      cal.coeffs.vbatGainX1000.toNat) (by simp [applyIntermediates])
    have hclamped (raw : BitVec 16) : wrapSigned 16 (exactTemp cal.coeffs raw) =
        clamp (-32768) 32767 (exactTemp cal.coeffs raw) := by
      rw [← applyTemp_eq hloaded, happlies.temp]
    unfold FitsSigned at hlargest
    exact ⟨by omega, tempInRange_of_clamped cal.coeffs hclamped⟩
  · rintro ⟨hlargest, hhot, hcold⟩
    have hfits (raw : BitVec 16) := vbatProduct_fits cal.coeffs raw hlargest
    have hvbat (raw : BitVec 16) := applyVbat_eq hloaded raw (hfits raw)
    obtain ⟨hmax, -, hmin, -⟩ := exactTemp_ends cal.coeffs
    have hrange (raw : BitVec 16) : -32768 ≤ exactTemp cal.coeffs raw ∧
        exactTemp cal.coeffs raw ≤ 32767 := by
      have hlow : (32768#16).toInt ≤ raw.toInt := raw.le_toInt
      have hhigh : raw.toInt ≤ (32767#16).toInt := by
        have hlt : raw.toInt < 32768 := raw.toInt_lt
        have hvalue : (32767#16).toInt = 32767 := by decide
        omega
      have hlower := exactTemp_mono cal.coeffs 32768#16 raw hlow
      have hupper := exactTemp_mono cal.coeffs raw 32767#16 hhigh
      omega
    have htemp (raw : BitVec 16) : (adcCalApplyTemp cal raw).toInt = exactTemp cal.coeffs raw := by
      have hword := hrange raw
      rw [applyTemp_eq hloaded]
      apply wrapSigned_of_fits
      unfold FitsSigned
      omega
    refine ⟨hvbat, ?_, fun raw => applyIntermediates_fit cal.coeffs raw (hfits raw), ?_, ?_⟩
    · intro raw
      rw [htemp, clamp_of_mem (hrange raw)]
    · intro raw raw' hle
      have hmono := clamp_mono 0 65535 (exactVbat_mono cal.coeffs raw raw' hle)
      rw [← hvbat, ← hvbat] at hmono
      bv_omega
    · intro raw raw' hle
      rw [htemp, htemp]
      exact exactTemp_mono cal.coeffs raw raw' hle

end

/-- A board whose flash holds a record with a voltage gain and a time. -/
def recordBench (vbatGainX1000 : BitVec 16) (timestamp : BitVec 32) : AdcSystem :=
  let coeffs : AdcCalCoeffs := ⟨0, vbatGainX1000, 0, 1000, true, 1, 0⟩
  { calibrationBench with flash := (AdcCalRecord.mk adcCalMagic 1 coeffs timestamp 0).image }

theorem stored_coeffs_apply_iff_unity :
    AdcCalAccepts (recordBench 1000 176).flash ∧
      (AppliesExactly (adcCalInit (recordBench 1000 176)).2.cal ↔
        CoeffsInRange (imageRecord (recordBench 1000 176).flash).coeffs) := by
  have haccepted : AdcCalAccepts (recordBench 1000 176).flash := by decide +kernel
  exact ⟨haccepted, stored_coeffs_apply_iff _ haccepted⟩

/-- An accepted record under which the largest reading is corrected to zero. -/
theorem stored_coeffs_wrap :
    AdcCalAccepts (recordBench 65535 157).flash ∧
      ¬ AppliesExactly (adcCalInit (recordBench 65535 157)).2.cal := by
  have haccepted : AdcCalAccepts (recordBench 65535 157).flash := by decide +kernel
  have hwrapped : ((adcCalApplyVbat (adcCalInit (recordBench 65535 157)).2.cal 65535).toNat : Int) ≠
      clamp 0 65535 (exactVbat (adcCalInit (recordBench 65535 157)).2.cal.coeffs 65535) := by
    decide +kernel
  exact ⟨haccepted, fun h => hwrapped (h.vbat 65535)⟩

end GhostBlade.Firmware
