import GhostBlade.Library.Bytes
import GhostBlade.Library.FixedPoint

/-!
The calibration of the battery and temperature channels (`adc_calibration.c`).
A two-point calibration computes coefficients, puts them into use and writes
them to flash in a record with a checksum; the module loads the record at boot
and corrects readings with it.
-/

namespace GhostBlade.Firmware

open GhostBlade.Library

/-- `struct adc_cal_coeffs`; the two offsets are signed. -/
structure AdcCalCoeffs where
  vbatOffsetMv : BitVec 16
  vbatGainX1000 : BitVec 16
  tempOffsetDcx10 : BitVec 16
  tempGainX1000 : BitVec 16
  calibrated : Bool
  calVersion : Byte
  reserved : BitVec 16
deriving DecidableEq

structure AdcCalRecord where
  magic : BitVec 16
  version : Byte
  coeffs : AdcCalCoeffs
  timestamp : BitVec 32
  checksum : Byte
deriving DecidableEq

/-- `cal_state`. -/
structure AdcCal where
  coeffs : AdcCalCoeffs
  loaded : Bool
  vrefMv : BitVec 16
deriving DecidableEq

/-- The bytes of one record, at the start of the last flash sector. -/
abbrev RecordImage := Vector Byte 24

/-- The converter: the results on each channel, in the order of the conversions. -/
structure AdcPort where
  samples : Nat → Nat → BitVec 16
  selected : Nat
  taken : Nat

structure AdcSystem where
  cal : AdcCal
  flash : RecordImage
  adc : AdcPort

/-- What the sector reads after it was erased and programmed, by its old content
and the bytes programmed. -/
abbrev FlashBehaviour := RecordImage → RecordImage → RecordImage

/-- Flash that returns what was programmed. -/
def soundFlash : FlashBehaviour := fun _ image => image

/-! ### The record in memory -/

def AdcCalCoeffs.bytes (c : AdcCalCoeffs) : List Byte :=
  leBytes 2 c.vbatOffsetMv.toNat ++ leBytes 2 c.vbatGainX1000.toNat ++
    leBytes 2 c.tempOffsetDcx10.toNat ++ leBytes 2 c.tempGainX1000.toNat ++
    [if c.calibrated then 1 else 0, c.calVersion] ++ leBytes 2 c.reserved.toNat

/-- A record built in cleared memory: a byte of padding follows the version and
three follow the checksum. -/
def AdcCalRecord.image (r : AdcCalRecord) : RecordImage :=
  ⟨(leBytes 2 r.magic.toNat ++ [r.version, 0] ++ r.coeffs.bytes ++
    leBytes 4 r.timestamp.toNat ++ [r.checksum, 0, 0, 0]).toArray, by simp [AdcCalCoeffs.bytes]⟩

def imageRecord (m : RecordImage) : AdcCalRecord where
  magic := BitVec.ofNat 16 (leValue [m[0], m[1]])
  version := m[2]
  coeffs :=
    { vbatOffsetMv := BitVec.ofNat 16 (leValue [m[4], m[5]])
      vbatGainX1000 := BitVec.ofNat 16 (leValue [m[6], m[7]])
      tempOffsetDcx10 := BitVec.ofNat 16 (leValue [m[8], m[9]])
      tempGainX1000 := BitVec.ofNat 16 (leValue [m[10], m[11]])
      calibrated := m[12] != 0
      calVersion := m[13]
      reserved := BitVec.ofNat 16 (leValue [m[14], m[15]]) }
  timestamp := BitVec.ofNat 32 (leValue [m[16], m[17], m[18], m[19]])
  checksum := m[20]

/-- The bytes are added up to the last one of the structure. -/
def computeChecksum (m : RecordImage) : Byte := (m.toList.take (24 - 1)).foldl (· + ·) 0

/-! ### Readings -/

def adcSelectInput (channel : Nat) (p : AdcPort) : AdcPort := { p with selected := channel }

def adcRead (p : AdcPort) : BitVec 16 × AdcPort :=
  (p.samples p.selected p.taken, { p with taken := p.taken + 1 })

def adcReadSum : Nat → BitVec 32 → AdcPort → BitVec 32 × AdcPort
  | 0, sum, p => (sum, p)
  | n + 1, sum, p =>
      let (x, p) := adcRead p
      adcReadSum n (sum + x.setWidth 32) p

def adcReadChannelAveraged (channel numSamples : Nat) (p : AdcPort) : BitVec 16 × AdcPort :=
  if channel > 4 ∨ numSamples = 0 then (0, p)
  else
    let p := adcSelectInput channel p
    let (_, p) := adcRead p
    let (sum, p) := adcReadSum numSamples 0 p
    ((sum / BitVec.ofNat 32 numSamples).setWidth 16, p)

/-- `adc_cal_compute_vref`, which only calls `adc_cal_read_vref_int`. -/
def adcCalComputeVref (p : AdcPort) : BitVec 16 × AdcPort :=
  let (vrefRaw, p) := adcReadChannelAveraged 4 16 p
  if vrefRaw = 0 then (0, p)
  else
    let half := (vrefRaw / 2).setWidth 32
    (((1200#32 * 4095#32 + half) / vrefRaw.setWidth 32).setWidth 16, p)

/-! ### Loading and applying -/

def adcCalMagic : BitVec 16 := 0xADCA#16

def nominalCoeffs : AdcCalCoeffs where
  vbatOffsetMv := 0
  vbatGainX1000 := 1000
  tempOffsetDcx10 := 0
  tempGainX1000 := 1000
  calibrated := false
  calVersion := 1
  reserved := 0

/-- The check of the record in flash. -/
def AdcCalAccepts (m : RecordImage) : Prop :=
  (imageRecord m).magic = adcCalMagic ∧ (imageRecord m).version = 1 ∧
    (imageRecord m).checksum = computeChecksum m ∧ (imageRecord m).coeffs.calibrated = true

instance (m : RecordImage) : Decidable (AdcCalAccepts m) :=
  inferInstanceAs (Decidable (_ ∧ _))

def adcCalInit (s : AdcSystem) : Int × AdcSystem :=
  let coeffs := if AdcCalAccepts s.flash then (imageRecord s.flash).coeffs else nominalCoeffs
  let (vrefMv, adc) := adcCalComputeVref s.adc
  (0, { s with cal := ⟨coeffs, true, vrefMv⟩, adc := adc })

/-- The product is formed in 32 bits. -/
def adcCalApplyVbat (c : AdcCal) (rawMv : BitVec 16) : BitVec 16 :=
  if c.loaded then
    let calibrated : Int := rawMv.toNat + c.coeffs.vbatOffsetMv.toInt
    let calibrated := (wrapSigned 32 (calibrated * c.coeffs.vbatGainX1000.toNat)).tdiv 1000
    let calibrated := if calibrated < 0 then 0 else calibrated
    let calibrated := if calibrated > 65535 then 65535 else calibrated
    BitVec.ofInt 16 calibrated
  else rawMv

def adcCalApplyTemp (c : AdcCal) (rawTempCX10 : BitVec 16) : BitVec 16 :=
  if c.loaded then
    let calibrated :=
      (wrapSigned 32 (rawTempCX10.toInt * c.coeffs.tempGainX1000.toNat)).tdiv 1000
    let calibrated := calibrated + c.coeffs.tempOffsetDcx10.toInt
    BitVec.ofInt 16 calibrated
  else rawTempCX10

/-! ### The two-point calibration -/

/-- A raw code in millivolts, with the constants and the width of `unsigned long`. -/
def measuredMv (raw : BitVec 16) : BitVec 16 :=
  ((raw.setWidth 32 * 3249700#32 + 500#32) / 1000000#32).setWidth 16

def gainX1000 (vbatLowMv vbatHighMv measuredLowMv measuredHighMv : BitVec 16) : Int :=
  (((vbatHighMv.toNat : Int) - vbatLowMv.toNat) * 1000).tdiv
    ((measuredHighMv.toNat : Int) - measuredLowMv.toNat)

def offsetMv (vbatLowMv measuredLowMv : BitVec 16) (gain : Int) : Int :=
  (vbatLowMv.toNat : Int) - (wrapSigned 32 (measuredLowMv.toNat * gain)).tdiv 1000

/-- The checks up to the point where the coefficients are put into use. -/
def calibrationError (vbatLowMv vbatHighMv rawLow rawHigh : BitVec 16) : Int :=
  if vbatLowMv < 2800#16 ∨ vbatLowMv > 4500#16 then -1
  else if vbatHighMv < 2800#16 ∨ vbatHighMv > 4500#16 then -1
  else if vbatHighMv ≤ vbatLowMv then -1
  else if measuredMv rawHigh = measuredMv rawLow then -2
  else
    let gain := gainX1000 vbatLowMv vbatHighMv (measuredMv rawLow) (measuredMv rawHigh)
    if gain < 900 ∨ gain > 1100 then -3
    else if offsetMv vbatLowMv (measuredMv rawLow) gain < -200 ∨
        offsetMv vbatLowMv (measuredMv rawLow) gain > 200 then -4
    else 0

/-- The coefficients of a calibration that passes the checks. -/
def calibratedCoeffs (vbatLowMv vbatHighMv rawLow rawHigh : BitVec 16) : AdcCalCoeffs :=
  let gain := gainX1000 vbatLowMv vbatHighMv (measuredMv rawLow) (measuredMv rawHigh)
  { vbatOffsetMv := BitVec.ofInt 16 (offsetMv vbatLowMv (measuredMv rawLow) gain)
    vbatGainX1000 := BitVec.ofInt 16 gain
    tempOffsetDcx10 := 0
    tempGainX1000 := 1000
    calibrated := true
    calVersion := 1
    reserved := 0 }

/-- The record; its checksum is computed while the field for it is zero. -/
def calibrationRecord (coeffs : AdcCalCoeffs) (timestamp : BitVec 32) : AdcCalRecord :=
  let record : AdcCalRecord := ⟨adcCalMagic, 1, coeffs, timestamp, 0⟩
  { record with checksum := computeChecksum record.image }

/-- The two averaged codes, and the converter behind them. -/
def calibrationReadings (p : AdcPort) : BitVec 16 × BitVec 16 × AdcPort :=
  let (_, p) := adcRead (adcSelectInput 0 p)
  let (rawLow, p) := adcReadChannelAveraged 0 64 p
  let (rawHigh, p) := adcReadChannelAveraged 0 64 p
  (rawLow, rawHigh, p)

/-- `adc_cal_factory_calibrate`, with the flash and the clock it uses. -/
def adcCalFactoryCalibrate (flash : FlashBehaviour) (timeUs : BitVec 32)
    (vbatLowMv vbatHighMv : BitVec 16) (s : AdcSystem) : Int × AdcSystem :=
  if vbatLowMv < 2800#16 ∨ vbatLowMv > 4500#16 then (-1, s)
  else if vbatHighMv < 2800#16 ∨ vbatHighMv > 4500#16 then (-1, s)
  else if vbatHighMv ≤ vbatLowMv then (-1, s)
  else
    let (rawLow, rawHigh, adc) := calibrationReadings s.adc
    let s := { s with adc := adc }
    let measuredLowMv := measuredMv rawLow
    let measuredHighMv := measuredMv rawHigh
    if measuredHighMv = measuredLowMv then (-2, s)
    else
      let gain := gainX1000 vbatLowMv vbatHighMv measuredLowMv measuredHighMv
      let offset := offsetMv vbatLowMv measuredLowMv gain
      if gain < 900 ∨ gain > 1100 then (-3, s)
      else if offset < -200 ∨ offset > 200 then (-4, s)
      else
        let coeffs : AdcCalCoeffs :=
          { vbatOffsetMv := BitVec.ofInt 16 offset
            vbatGainX1000 := BitVec.ofInt 16 gain
            tempOffsetDcx10 := 0
            tempGainX1000 := 1000
            calibrated := true
            calVersion := 1
            reserved := 0 }
        let record := calibrationRecord coeffs timeUs
        let s :=
          { s with
            cal := { s.cal with coeffs := coeffs }
            flash := flash s.flash record.image }
        if s.flash ≠ record.image then (-5, s) else (0, s)

/-! ### What a calibration does -/

section

variable (flash : FlashBehaviour) (timeUs : BitVec 32) (vbatLowMv vbatHighMv : BitVec 16)
  (s : AdcSystem)

/-- The two codes a calibration in a system works with. -/
def rawLow (s : AdcSystem) : BitVec 16 := (calibrationReadings s.adc).1
def rawHigh (s : AdcSystem) : BitVec 16 := (calibrationReadings s.adc).2.1

/-- The bytes a calibration programs. -/
def calibrationImage : RecordImage :=
  (calibrationRecord (calibratedCoeffs vbatLowMv vbatHighMv (rawLow s) (rawHigh s)) timeUs).image

/-- A calibration that fails one of the checks changes no coefficient and does
not touch the flash. -/
theorem factoryCalibrate_refused
    (h : calibrationError vbatLowMv vbatHighMv (rawLow s) (rawHigh s) ≠ 0) :
    let result := adcCalFactoryCalibrate flash timeUs vbatLowMv vbatHighMv s
    result.1 = calibrationError vbatLowMv vbatHighMv (rawLow s) (rawHigh s) ∧
      result.2.cal = s.cal ∧ result.2.flash = s.flash := by
  rcases hreadings : calibrationReadings s.adc with ⟨lowCode, highCode, adc⟩
  have hrawLow : rawLow s = lowCode := by rw [rawLow, hreadings]
  have hrawHigh : rawHigh s = highCode := by rw [rawHigh, hreadings]
  rw [hrawLow, hrawHigh] at h ⊢
  unfold calibrationError at h ⊢
  unfold adcCalFactoryCalibrate
  by_cases hlow : vbatLowMv < 2800#16 ∨ vbatLowMv > 4500#16
  · simp only [if_pos hlow, and_self]
  by_cases hhigh : vbatHighMv < 2800#16 ∨ vbatHighMv > 4500#16
  · simp only [if_neg hlow, if_pos hhigh, and_self]
  by_cases horder : vbatHighMv ≤ vbatLowMv
  · simp only [if_neg hlow, if_neg hhigh, if_pos horder, and_self]
  simp only [if_neg hlow, if_neg hhigh, if_neg horder, hreadings] at h ⊢
  split at h
  · rename_i hsame
    simp only [if_pos hsame, and_self]
  rename_i hsame
  split at h
  · rename_i hgain
    simp only [if_neg hsame, if_pos hgain, and_self]
  rename_i hgain
  split at h
  · rename_i hoffset
    simp only [if_neg hsame, if_neg hgain, if_pos hoffset, and_self]
  · exact absurd rfl h

/-- What the checks leave. -/
theorem calibrationError_eq_zero {vbatLowMv vbatHighMv rawLow rawHigh : BitVec 16} :
    calibrationError vbatLowMv vbatHighMv rawLow rawHigh = 0 ↔
      ¬ (vbatLowMv < 2800#16 ∨ vbatLowMv > 4500#16) ∧
        ¬ (vbatHighMv < 2800#16 ∨ vbatHighMv > 4500#16) ∧ ¬ vbatHighMv ≤ vbatLowMv ∧
        measuredMv rawHigh ≠ measuredMv rawLow ∧
        let gain := gainX1000 vbatLowMv vbatHighMv (measuredMv rawLow) (measuredMv rawHigh)
        ¬ (gain < 900 ∨ gain > 1100) ∧
          ¬ (offsetMv vbatLowMv (measuredMv rawLow) gain < -200 ∨
            offsetMv vbatLowMv (measuredMv rawLow) gain > 200) := by
  unfold calibrationError
  dsimp only
  split_ifs <;> simp_all

/-- One that passes them puts the new coefficients into use and writes the
record; only then can it still report an error. -/
theorem factoryCalibrate_accepted
    (h : calibrationError vbatLowMv vbatHighMv (rawLow s) (rawHigh s) = 0) :
    let coeffs := calibratedCoeffs vbatLowMv vbatHighMv (rawLow s) (rawHigh s)
    let image := calibrationImage timeUs vbatLowMv vbatHighMv s
    adcCalFactoryCalibrate flash timeUs vbatLowMv vbatHighMv s =
      (if flash s.flash image ≠ image then -5 else 0,
        { cal := { s.cal with coeffs := coeffs }
          flash := flash s.flash image
          adc := (calibrationReadings s.adc).2.2 }) := by
  obtain ⟨hlow, hhigh, horder, hsame, hgain, hoffset⟩ := calibrationError_eq_zero.mp h
  unfold adcCalFactoryCalibrate
  rw [rawLow, rawHigh] at hsame hgain hoffset
  simp only [if_neg hlow, if_neg hhigh, if_neg horder, if_neg hsame, if_neg hgain,
    if_neg hoffset]
  by_cases hprogrammed : flash s.flash (calibrationImage timeUs vbatLowMv vbatHighMv s) =
      calibrationImage timeUs vbatLowMv vbatHighMv s
  · rw [if_neg (not_not.mpr hprogrammed)]
    exact if_neg (not_not.mpr hprogrammed)
  · rw [if_pos hprogrammed]
    exact if_pos hprogrammed

/-- Success means that the checks passed. -/
theorem calibrationError_of_success
    (h : (adcCalFactoryCalibrate flash timeUs vbatLowMv vbatHighMv s).1 = 0) :
    calibrationError vbatLowMv vbatHighMv (rawLow s) (rawHigh s) = 0 := by
  by_contra herror
  have hret := (factoryCalibrate_refused flash timeUs vbatLowMv vbatHighMv s herror).1
  exact herror (hret.symm.trans h)

/-! ### A calibration that fails -/

/-- The coefficients readings are corrected with, if any are. -/
def AdcCal.inUse (c : AdcCal) : Option (BitVec 16 × BitVec 16 × BitVec 16 × BitVec 16) :=
  if c.loaded then
    some (c.coeffs.vbatOffsetMv, c.coeffs.vbatGainX1000, c.coeffs.tempOffsetDcx10,
      c.coeffs.tempGainX1000)
  else none

/-- Readings are corrected by nothing else. -/
theorem apply_congr {c c' : AdcCal} (h : c.inUse = c'.inUse) (raw : BitVec 16) :
    adcCalApplyVbat c raw = adcCalApplyVbat c' raw ∧
      adcCalApplyTemp c raw = adcCalApplyTemp c' raw := by
  unfold AdcCal.inUse at h
  unfold adcCalApplyVbat adcCalApplyTemp
  cases hc : c.loaded <;> cases hc' : c'.loaded <;> simp_all

end

/-- A calibration that reports an error leaves the coefficients in use alone
unless it passed its checks and the flash then reads back something else. -/
theorem failed_calibration_keeps_coeffs_iff (flash : FlashBehaviour) (timeUs : BitVec 32)
    (vbatLowMv vbatHighMv : BitVec 16) (s : AdcSystem) :
    let result := adcCalFactoryCalibrate flash timeUs vbatLowMv vbatHighMv s
    let coeffs := calibratedCoeffs vbatLowMv vbatHighMv (rawLow s) (rawHigh s)
    let image := calibrationImage timeUs vbatLowMv vbatHighMv s
    (result.1 < 0 → result.2.cal.inUse = s.cal.inUse) ↔
      s.cal.loaded = false ∨
        calibrationError vbatLowMv vbatHighMv (rawLow s) (rawHigh s) ≠ 0 ∨
        flash s.flash image = image ∨
        AdcCal.inUse { s.cal with coeffs := coeffs } = s.cal.inUse := by
  intro result coeffs image
  by_cases herror : calibrationError vbatLowMv vbatHighMv (rawLow s) (rawHigh s) = 0
  · have hresult := factoryCalibrate_accepted flash timeUs vbatLowMv vbatHighMv s herror
    have hret : result.1 = if flash s.flash image ≠ image then -5 else 0 := by
      exact congrArg Prod.fst hresult
    have hcal : result.2.cal = { s.cal with coeffs := coeffs } := by
      exact congrArg (fun r => r.2.cal) hresult
    rw [hret, hcal]
    cases hloaded : s.cal.loaded with
    | false => simp [AdcCal.inUse, hloaded]
    | true =>
        by_cases hprogrammed : flash s.flash image = image
        · simp [hprogrammed]
        · simp [hprogrammed, herror]
  · have hresult := factoryCalibrate_refused flash timeUs vbatLowMv vbatHighMv s herror
    have hcal : result.2.cal = s.cal := hresult.2.1
    simp [hcal, herror]

/-- A converter on whose channels the first `n` conversions give one code and
all later ones another. -/
def steppedPort (n : Nat) (first later : BitVec 16) : AdcPort :=
  ⟨fun _ k => if k < n then first else later, 0, 0⟩

/-- A module with nominal coefficients, erased flash, and readings at two
voltages near 3.3 V and 4.1 V. -/
def calibrationBench : AdcSystem where
  cal := ⟨nominalCoeffs, true, 3300⟩
  flash := Vector.replicate 24 0xFF
  adc := steppedPort 66 1016 1263

/-- Flash that stays erased whatever is programmed. -/
def deadFlash : FlashBehaviour := fun _ _ => Vector.replicate 24 0xFF

/-- The verification fails and the new coefficients stay in use. -/
theorem failed_calibration_changes_coeffs :
    let result := adcCalFactoryCalibrate deadFlash 0 3300 4100 calibrationBench
    ¬ (result.1 < 0 → result.2.cal.inUse = calibrationBench.cal.inUse) := by
  decide +kernel

end GhostBlade.Firmware
