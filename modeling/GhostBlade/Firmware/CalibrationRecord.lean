import Mathlib.Data.BitVec
import GhostBlade.Firmware.AdcCalibration

/-!
The calibration record across a boot. The checksum is the last field of the
record but not its last byte: three bytes of padding follow, and the sum runs
over two of them and over the checksum itself. The writer sums while the field
is zero, the reader when it is filled, so the record is only taken for a valid
one when its bytes add up to zero.
-/

namespace GhostBlade.Firmware

open GhostBlade.Library

/-- A sum that is stored among the terms it is a sum of. -/
theorem sum_insert_eq_iff {G : Type*} [AddCommGroup G] (before after : List G) (c : G) :
    c = (before ++ c :: after).sum ↔ (before ++ after).sum = 0 := by
  rw [List.sum_append, List.sum_append, List.sum_cons, add_left_comm]
  constructor
  · intro h
    exact left_eq_add.mp h
  · intro h
    rw [h, add_zero]

/-- The bytes in front of the checksum. -/
def AdcCalRecord.payload (r : AdcCalRecord) : List Byte :=
  leBytes 2 r.magic.toNat ++ [r.version, 0] ++ r.coeffs.bytes ++ leBytes 4 r.timestamp.toNat

theorem payload_length (r : AdcCalRecord) : r.payload.length = 20 := by
  simp [AdcCalRecord.payload, AdcCalCoeffs.bytes]

theorem image_toList (r : AdcCalRecord) :
    r.image.toList = r.payload ++ [r.checksum, 0, 0, 0] := by
  rfl

/-- The checksum routine on a record in cleared memory. -/
theorem computeChecksum_image (r : AdcCalRecord) :
    computeChecksum r.image = (r.payload ++ r.checksum :: [0, 0]).sum := by
  have hlength := payload_length r
  have htake : (r.payload ++ [r.checksum, 0, 0, 0]).take (24 - 1) =
      r.payload ++ r.checksum :: [0, 0] := by
    rw [List.take_append, List.take_of_length_le (by omega), hlength]
    rfl
  rw [computeChecksum, image_toList, htake, List.sum_eq_foldl]

theorem ofNat_leBytes {w n : Nat} (v : BitVec w) (hw : 8 * n = w) :
    BitVec.ofNat w (leValue (leBytes n v.toNat)) = v := by
  have hlt : v.toNat < 256 ^ n := by
    have hpow : (256 : Nat) ^ n = 2 ^ w := by
      rw [← hw, Nat.pow_mul]
    rw [hpow]
    exact v.isLt
  rw [leValue_leBytes_of_lt n _ hlt, BitVec.ofNat_toNat, BitVec.setWidth_eq]

/-- The fields of a record are read back from its bytes. -/
theorem imageRecord_image (r : AdcCalRecord) : imageRecord r.image = r := by
  have h16 (v : BitVec 16) := ofNat_leBytes (n := 2) v (by decide)
  have h32 (v : BitVec 32) := ofNat_leBytes (n := 4) v (by decide)
  have hflag : ((if r.coeffs.calibrated then 1 else 0 : Byte) != 0) = r.coeffs.calibrated := by
    cases r.coeffs.calibrated <;> rfl
  have hread : imageRecord r.image =
      { magic := BitVec.ofNat 16 (leValue (leBytes 2 r.magic.toNat))
        version := r.version
        coeffs :=
          { vbatOffsetMv := BitVec.ofNat 16 (leValue (leBytes 2 r.coeffs.vbatOffsetMv.toNat))
            vbatGainX1000 := BitVec.ofNat 16 (leValue (leBytes 2 r.coeffs.vbatGainX1000.toNat))
            tempOffsetDcx10 :=
              BitVec.ofNat 16 (leValue (leBytes 2 r.coeffs.tempOffsetDcx10.toNat))
            tempGainX1000 := BitVec.ofNat 16 (leValue (leBytes 2 r.coeffs.tempGainX1000.toNat))
            calibrated := (if r.coeffs.calibrated then 1 else 0 : Byte) != 0
            calVersion := r.coeffs.calVersion
            reserved := BitVec.ofNat 16 (leValue (leBytes 2 r.coeffs.reserved.toNat)) }
        timestamp := BitVec.ofNat 32 (leValue (leBytes 4 r.timestamp.toNat))
        checksum := r.checksum } := by
    rfl
  rw [hread, h16, h16, h16, h16, h16, h16, h32, hflag]

/-- The writer's checksum is the sum of the bytes in front of it. -/
theorem calibrationRecord_checksum (coeffs : AdcCalCoeffs) (timestamp : BitVec 32) :
    (calibrationRecord coeffs timestamp).checksum =
      (calibrationRecord coeffs timestamp).payload.sum := by
  have hzero : (calibrationRecord coeffs timestamp).checksum =
      ((calibrationRecord coeffs timestamp).payload ++ (0 : Byte) :: [0, 0]).sum := by
    exact computeChecksum_image ⟨adcCalMagic, 1, coeffs, timestamp, 0⟩
  simpa using hzero

/-- A written record is accepted exactly when its bytes add up to zero. -/
theorem calibrationRecord_accepted_iff (coeffs : AdcCalCoeffs) (timestamp : BitVec 32)
    (h : coeffs.calibrated = true) :
    AdcCalAccepts (calibrationRecord coeffs timestamp).image ↔
      (calibrationRecord coeffs timestamp).payload.sum = 0 := by
  have hcalibrated : (calibrationRecord coeffs timestamp).coeffs.calibrated = true := h
  have hsum : (calibrationRecord coeffs timestamp).checksum =
      computeChecksum (calibrationRecord coeffs timestamp).image ↔
        (calibrationRecord coeffs timestamp).payload.sum = 0 := by
    have hinsert := sum_insert_eq_iff (calibrationRecord coeffs timestamp).payload [0, 0]
      (calibrationRecord coeffs timestamp).checksum
    rw [computeChecksum_image]
    apply hinsert.trans
    simp
  have hmagic : (calibrationRecord coeffs timestamp).magic = adcCalMagic := by rfl
  have hversion : (calibrationRecord coeffs timestamp).version = 1 := by rfl
  rw [AdcCalAccepts, imageRecord_image, hsum]
  simp [hmagic, hversion, hcalibrated]

/-- The bytes of a calibration that are not the same in every record. -/
def varyingBytes (vbatLowMv vbatHighMv rawLow rawHigh : BitVec 16) (timeUs : BitVec 32) :
    List Byte :=
  let gain := gainX1000 vbatLowMv vbatHighMv (measuredMv rawLow) (measuredMv rawHigh)
  let offset := offsetMv vbatLowMv (measuredMv rawLow) gain
  leBytes 2 (BitVec.ofInt 16 offset).toNat ++ leBytes 2 (BitVec.ofInt 16 gain).toNat ++
    leBytes 4 timeUs.toNat

/-- The bytes that are the same in every record add up to 101. -/
theorem payload_sum (vbatLowMv vbatHighMv rawLow rawHigh : BitVec 16) (timeUs : BitVec 32) :
    (calibrationRecord (calibratedCoeffs vbatLowMv vbatHighMv rawLow rawHigh) timeUs).payload.sum =
      101 + (varyingBytes vbatLowMv vbatHighMv rawLow rawHigh timeUs).sum := by
  have hfixed : (leBytes 2 adcCalMagic.toNat ++ [1, 0]).sum +
      (leBytes 2 0 ++ leBytes 2 1000 ++ [1, 1] ++ leBytes 2 0).sum = (101 : Byte) := by
    decide
  let gain := gainX1000 vbatLowMv vbatHighMv (measuredMv rawLow) (measuredMv rawHigh)
  let offset := offsetMv vbatLowMv (measuredMv rawLow) gain
  have hpayload :
      (calibrationRecord (calibratedCoeffs vbatLowMv vbatHighMv rawLow rawHigh) timeUs).payload =
        leBytes 2 adcCalMagic.toNat ++ [1, 0] ++ (leBytes 2 (BitVec.ofInt 16 offset).toNat ++
          leBytes 2 (BitVec.ofInt 16 gain).toNat ++ leBytes 2 0 ++ leBytes 2 1000 ++ [1, 1] ++
          leBytes 2 0) ++ leBytes 4 timeUs.toNat := by
    rfl
  have hvarying : varyingBytes vbatLowMv vbatHighMv rawLow rawHigh timeUs =
      leBytes 2 (BitVec.ofInt 16 offset).toNat ++ leBytes 2 (BitVec.ofInt 16 gain).toNat ++
        leBytes 4 timeUs.toNat := by
    rfl
  rw [hpayload, hvarying, ← hfixed]
  simp only [List.sum_append]
  abel

/-- After a boot the module has the coefficients of a successful calibration
exactly when the bytes of the offset, the gain and the time add up to 155;
otherwise it falls back on the nominal ones. -/
theorem calibration_loaded_iff (timeUs : BitVec 32) (vbatLowMv vbatHighMv : BitVec 16)
    (s : AdcSystem) (cal : AdcCal) (port : AdcPort)
    (h : (adcCalFactoryCalibrate soundFlash timeUs vbatLowMv vbatHighMv s).1 = 0) :
    let done := (adcCalFactoryCalibrate soundFlash timeUs vbatLowMv vbatHighMv s).2
    let booted := (adcCalInit ⟨cal, done.flash, port⟩).2
    (booted.cal.coeffs = done.cal.coeffs ∧ booted.cal.coeffs.calibrated = true) ↔
      (varyingBytes vbatLowMv vbatHighMv (rawLow s) (rawHigh s) timeUs).sum = 155 := by
  intro done booted
  let coeffs := calibratedCoeffs vbatLowMv vbatHighMv (rawLow s) (rawHigh s)
  have hresult := factoryCalibrate_accepted soundFlash timeUs vbatLowMv vbatHighMv s
    (calibrationError_of_success soundFlash timeUs vbatLowMv vbatHighMv s h)
  have hdone : done.cal.coeffs = coeffs := congrArg (fun r => r.2.cal.coeffs) hresult
  have hflash : done.flash = (calibrationRecord coeffs timeUs).image :=
    congrArg (fun r => r.2.flash) hresult
  have hbooted : booted.cal.coeffs =
      if AdcCalAccepts done.flash then (imageRecord done.flash).coeffs else nominalCoeffs := by
    rfl
  have hsum : (calibrationRecord coeffs timeUs).payload.sum = 0 ↔
      (varyingBytes vbatLowMv vbatHighMv (rawLow s) (rawHigh s) timeUs).sum = 155 := by
    rw [payload_sum, add_comm, add_eq_zero_iff_eq_neg]
    exact Iff.rfl
  have haccepted := calibrationRecord_accepted_iff coeffs timeUs rfl
  rw [hbooted, hdone, hflash, ← hsum, ← haccepted]
  by_cases hvalid : AdcCalAccepts (calibrationRecord coeffs timeUs).image
  · rw [if_pos hvalid, imageRecord_image]
    exact ⟨fun _ => hvalid, fun _ => ⟨rfl, rfl⟩⟩
  · rw [if_neg hvalid]
    simp [hvalid, nominalCoeffs]

/-- A calibration at a time at which the bytes happen to add up. -/
theorem calibration_loaded_iff_lucky :
    (adcCalFactoryCalibrate soundFlash 167 3300 4100 calibrationBench).1 = 0 ∧
      let done := (adcCalFactoryCalibrate soundFlash 167 3300 4100 calibrationBench).2
      let booted := (adcCalInit ⟨calibrationBench.cal, done.flash, calibrationBench.adc⟩).2
      ((booted.cal.coeffs = done.cal.coeffs ∧ booted.cal.coeffs.calibrated = true) ↔
        (varyingBytes 3300 4100 (rawLow calibrationBench) (rawHigh calibrationBench) 167).sum =
          155) ∧ booted.cal.coeffs.vbatOffsetMv = 13 := by
  have hsuccess : (adcCalFactoryCalibrate soundFlash 167 3300 4100 calibrationBench).1 = 0 := by
    decide +kernel
  have hiff := calibration_loaded_iff 167 3300 4100 calibrationBench calibrationBench.cal
    calibrationBench.adc hsuccess
  exact ⟨hsuccess, hiff, by decide +kernel⟩

/-- At any other time the board boots with the nominal coefficients. -/
theorem calibration_lost :
    let result := adcCalFactoryCalibrate soundFlash 0 3300 4100 calibrationBench
    let booted := (adcCalInit ⟨calibrationBench.cal, result.2.flash, calibrationBench.adc⟩).2
    ¬ (result.1 = 0 →
      booted.cal.coeffs = result.2.cal.coeffs ∧ booted.cal.coeffs.calibrated = true) := by
  decide +kernel

end GhostBlade.Firmware
