import GhostBlade.Library.FixedPoint
import GhostBlade.Firmware.PowerState

/-!
Battery and temperature readings (`battery_monitor.c`). Eight conversions of a
channel are averaged and scaled in integers. The die temperature divides a
difference in microvolts by the slope in microvolts per degree and takes the
quotient for tenths of a degree.
-/

namespace GhostBlade.Firmware

open GhostBlade.Library

namespace BatteryMonitor

/-- The converter: what the result register holds after each conversion, by the
channel and the number of conversions before. -/
structure AdcBlock where
  result : Byte → Nat → BitVec 32
  conversions : Nat

def adcReadChannel (channel : Byte) (a : AdcBlock) : BitVec 16 × AdcBlock :=
  ((a.result channel a.conversions &&& 0xFFF#32).setWidth 16,
    { a with conversions := a.conversions + 1 })

def adcReadChannelSum (channel : Byte) : Nat → BitVec 32 → AdcBlock → BitVec 32 × AdcBlock
  | 0, sum, a => (sum, a)
  | n + 1, sum, a =>
      let (x, a) := adcReadChannel channel a
      adcReadChannelSum channel n (sum + x.setWidth 32) a

def adcReadChannelAveraged (channel samples : Byte) (a : AdcBlock) : BitVec 16 × AdcBlock :=
  let n : Byte := if samples < 1 then 1 else if samples > 16 then 16 else samples
  let (sum, a) := adcReadChannelSum channel n.toNat 0 a
  ((sum / n.setWidth 32).setWidth 16, a)

def batteryReadVoltageMv (a : AdcBlock) : BitVec 16 × AdcBlock :=
  let (adcRaw, a) := adcReadChannelAveraged 0 8 a
  (((adcRaw.setWidth 32 * 29260#32 + 4504#32) / 9009#32).setWidth 16, a)

def batteryGetPercent (vbatMv : BitVec 16) : Byte :=
  if vbatMv ≥ 4200#16 then 100
  else if vbatMv ≤ 3000#16 then 0
  else if vbatMv ≥ 3700#16 then
    ((vbatMv - 3700#16).setWidth 32 * 50#32 / 500#32 + 50#32).setWidth 8
  else if vbatMv ≥ 3300#16 then
    ((vbatMv - 3300#16).setWidth 32 * 40#32 / 400#32 + 10#32).setWidth 8
  else ((vbatMv - 3000#16).setWidth 32 * 10#32 / 300#32).setWidth 8

/-- A code in tenths of a degree; no intermediate leaves 32 bits. -/
def tempDc10 (adcRaw : BitVec 16) : Int :=
  let vTempUv : Int := adcRaw.toNat * 806
  let deltaUv := vTempUv - 706000
  let deltaDc := deltaUv.tdiv 1721
  270 - deltaDc

def temperatureReadDc10 (a : AdcBlock) : BitVec 16 × AdcBlock :=
  let (adcRaw, a) := adcReadChannelAveraged 4 8 a
  (BitVec.ofInt 16 (tempDc10 adcRaw), a)

def temperatureIsOvertemp (tempDc10 : BitVec 16) : Bool := (850#16).slt tempDc10

structure Reading where
  vbatMv : BitVec 16
  tempDc10 : BitVec 16
  battPct : Byte
  flags : Byte
deriving DecidableEq

/-- `battery_monitor_read`; the caller takes the values it has a pointer for. -/
def batteryMonitorRead (a : AdcBlock) : Reading × AdcBlock :=
  let (vbat, a) := batteryReadVoltageMv a
  let (temp, a) := temperatureReadDc10 a
  let f : Byte := 0
  let f := if batteryIsLow vbat then f ||| 1#8 <<< 0 else f
  let f := if batteryIsCritical vbat then f ||| 1#8 <<< 1 else f
  let f := if temperatureIsOvertemp temp then f ||| 1#8 <<< 2 else f
  let f := if temperatureIsCritical temp then f ||| 1#8 <<< 3 else f
  let f := if vbat < 2800#16 then f ||| 1#8 <<< 4 else f
  (⟨vbat, temp, batteryGetPercent vbat, f⟩, a)

/-! ### What is read -/

/-- The `n` next samples of a channel. -/
def samples (channel : Byte) (n : Nat) (a : AdcBlock) : List Nat :=
  (List.range n).map fun i => (a.result channel (a.conversions + i) &&& 0xFFF#32).toNat

theorem samples_succ (channel : Byte) (n : Nat) (a : AdcBlock) :
    samples channel (n + 1) a = (adcReadChannel channel a).1.toNat ::
      samples channel n (adcReadChannel channel a).2 := by
  have hmask : (a.result channel a.conversions &&& 0xFFF#32).toNat % 2 ^ 16 =
      (a.result channel a.conversions &&& 0xFFF#32).toNat := by
    have hle := Nat.and_le_right (n := (a.result channel a.conversions).toNat) (m := 0xFFF)
    apply Nat.mod_eq_of_lt
    rw [BitVec.toNat_and]
    exact lt_of_le_of_lt hle (by decide)
  simp only [samples, List.range_succ_eq_map, List.map_cons, List.map_map, adcReadChannel,
    BitVec.toNat_setWidth, hmask, Nat.add_zero]
  congr 2
  funext i
  have hshift : a.conversions + (i + 1) = a.conversions + 1 + i := by omega
  simp only [Function.comp_apply, Nat.succ_eq_add_one, hshift]

theorem samples_sum_le (channel : Byte) (n : Nat) (a : AdcBlock) :
    (samples channel n a).sum ≤ 4095 * n := by
  have hle : ∀ x ∈ samples channel n a, x ≤ 4095 := by
    simp only [samples, List.mem_map]
    rintro x ⟨i, -, rfl⟩
    rw [BitVec.toNat_and]
    exact Nat.and_le_right
  have hsum := List.sum_le_card_nsmul _ 4095 hle
  simpa [samples, Nat.mul_comm] using hsum

/-- The accumulator takes all samples while it has room for them. -/
theorem adcReadChannelSum_eq (channel : Byte) (n : Nat) (sum : BitVec 32) (a : AdcBlock)
    (h : sum.toNat + 4095 * n < 4294967296) :
    (adcReadChannelSum channel n sum a).1.toNat = sum.toNat + (samples channel n a).sum ∧
      (adcReadChannelSum channel n sum a).2 = { a with conversions := a.conversions + n } := by
  induction n generalizing sum a with
  | zero => exact ⟨by simp [adcReadChannelSum, samples], rfl⟩
  | succ n ih =>
      have hfirst := samples_sum_le channel 1 a
      rw [samples_succ] at hfirst
      simp only [List.sum_cons] at hfirst
      have hnext : (sum + (adcReadChannel channel a).1.setWidth 32).toNat =
          sum.toNat + (adcReadChannel channel a).1.toNat := by
        have hword := (adcReadChannel channel a).1.isLt
        rw [BitVec.toNat_add, BitVec.toNat_setWidth]
        omega
      obtain ⟨hsum, hport⟩ := ih (sum + (adcReadChannel channel a).1.setWidth 32)
        (adcReadChannel channel a).2 (by omega)
      constructor
      · rw [samples_succ, List.sum_cons, ← Nat.add_assoc, ← hnext]
        exact hsum
      · have hcount : a.conversions + 1 + n = a.conversions + (n + 1) := by omega
        rw [← hcount]
        exact hport

theorem adcReadChannelAveraged_eq (channel : Byte) (a : AdcBlock) :
    (adcReadChannelAveraged channel 8 a).1.toNat = (samples channel 8 a).sum / 8 ∧
      (adcReadChannelAveraged channel 8 a).2 = { a with conversions := a.conversions + 8 } := by
  obtain ⟨hsum, hport⟩ := adcReadChannelSum_eq channel 8 0 a (by decide)
  have hbound := samples_sum_le channel 8 a
  refine ⟨?_, hport⟩
  have havg : (adcReadChannelAveraged channel 8 a).1 =
      ((adcReadChannelSum channel 8 0 a).1 / 8#32).setWidth 16 := by
    rfl
  have height : (8#32).toNat = 8 := by decide
  have hzero : (0 : BitVec 32).toNat = 0 := by decide
  rw [hzero, Nat.zero_add] at hsum
  rw [havg, BitVec.toNat_setWidth, BitVec.toNat_udiv, height, hsum]
  omega

/-! ### The temperature -/

/-- Ten times `27 - (V - 0.706) / 0.001721`, where `V` is the mean of eight codes
with the given sum times `3.3 / 4095`. -/
def documentedDc10 (sum : Nat) : ℚ :=
  10 * (27 - (((sum : ℚ) / 8) * 3.3 / 4095 - 0.706) / 0.001721)

/-- In the range of the sensor the reported temperature is within a degree of
the formula, and each of the two flags differs from the comparison only within a
degree of its threshold. -/
def TemperatureRight (r : Reading) (exact : ℚ) : Prop :=
  (-400 ≤ exact ∧ exact ≤ 1250 → |(r.tempDc10.toInt : ℚ) - exact| ≤ 10) ∧
    ((r.flags.getLsbD 2 = true ↔ 850 < exact) ∨ |exact - 850| ≤ 10) ∧
    ((r.flags.getLsbD 3 = true ↔ 1050 < exact) ∨ |exact - 1050| ≤ 10)

/-- The samples the temperature is computed from: the battery channel is read
first. -/
def temperatureSum (a : AdcBlock) : Nat :=
  (samples 4 8 { a with conversions := a.conversions + 8 }).sum

/-- The formula as a fraction of integers. -/
theorem documentedDc10_eq (sum : Nat) :
    documentedDc10 sum = ((2054234910 - 275000 * (sum : Int) : Int) : ℚ) / 469833 := by
  unfold documentedDc10
  push_cast
  ring

theorem le_documentedDc10 (k : Int) (sum : Nat) :
    (k : ℚ) ≤ documentedDc10 sum ↔ k * 469833 ≤ 2054234910 - 275000 * (sum : Int) := by
  have hscale : (469833 : ℚ) = ((469833 : Int) : ℚ) := by norm_num
  rw [documentedDc10_eq, le_div_iff₀ (by norm_num), hscale, ← Int.cast_mul, Int.cast_le]

theorem documentedDc10_le (k : Int) (sum : Nat) :
    documentedDc10 sum ≤ (k : ℚ) ↔ 2054234910 - 275000 * (sum : Int) ≤ k * 469833 := by
  have hscale : (469833 : ℚ) = ((469833 : Int) : ℚ) := by norm_num
  rw [documentedDc10_eq, div_le_iff₀ (by norm_num), hscale, ← Int.cast_mul, Int.cast_le]

/-- Being within a degree, between bounds in whole tenths. -/
theorem within_degree_iff (k : Int) (sum : Nat) :
    |(k : ℚ) - documentedDc10 sum| ≤ 10 ↔
      (k - 10) * 469833 ≤ 2054234910 - 275000 * (sum : Int) ∧
        2054234910 - 275000 * (sum : Int) ≤ (k + 10) * 469833 := by
  rw [← le_documentedDc10, ← documentedDc10_le, abs_le]
  push_cast
  constructor
  · rintro ⟨hlow, hhigh⟩
    exact ⟨by linarith, by linarith⟩
  · rintro ⟨hlow, hhigh⟩
    exact ⟨by linarith, by linarith⟩

/-- The quotient of the formula of the source. -/
theorem tempQuotient_bounds {code : Nat} (h : code ≤ 4095) :
    -410 ≤ (806 * (code : Int) - 706000).tdiv 1721 ∧
      (806 * (code : Int) - 706000).tdiv 1721 ≤ 1507 := by
  have hquotient := tdiv_bounds (show (0 : Int) < 1721 by decide) (806 * (code : Int) - 706000)
  omega

/-- What the readings report of the temperature. -/
theorem batteryMonitorRead_temp (a : AdcBlock) :
    (batteryMonitorRead a).1.tempDc10.toInt =
      270 - (806 * (temperatureSum a / 8 : Nat) - 706000 : Int).tdiv 1721 := by
  have hport := (adcReadChannelAveraged_eq 0 a).2
  have hcode := (adcReadChannelAveraged_eq 4 { a with conversions := a.conversions + 8 }).1
  have hsum : temperatureSum a ≤ 4095 * 8 := samples_sum_le ..
  have hbounds := tempQuotient_bounds (show temperatureSum a / 8 ≤ 4095 by omega)
  have htemp : (batteryMonitorRead a).1.tempDc10 =
      BitVec.ofInt 16
        (tempDc10 (adcReadChannelAveraged 4 8 (adcReadChannelAveraged 0 8 a).2).1) := by
    rfl
  have hvalue : tempDc10 (adcReadChannelAveraged 4 8 (adcReadChannelAveraged 0 8 a).2).1 =
      270 - (806 * (temperatureSum a / 8 : Nat) - 706000 : Int).tdiv 1721 := by
    rw [hport, temperatureSum, ← hcode, mul_comm]
    rfl
  rw [htemp, hvalue, BitVec.toInt_ofInt]
  apply wrapSigned_of_fits
  unfold FitsSigned
  omega

/-- The two flags are the two comparisons. -/
theorem batteryMonitorRead_flags (a : AdcBlock) :
    (batteryMonitorRead a).1.flags.getLsbD 2 =
        temperatureIsOvertemp (batteryMonitorRead a).1.tempDc10 ∧
      (batteryMonitorRead a).1.flags.getLsbD 3 =
        temperatureIsCritical (batteryMonitorRead a).1.tempDc10 := by
  have hbits (low critical hot burning brownout : Bool) :
      let f : Byte := 0
      let f := if low then f ||| 1#8 <<< 0 else f
      let f := if critical then f ||| 1#8 <<< 1 else f
      let f := if hot then f ||| 1#8 <<< 2 else f
      let f := if burning then f ||| 1#8 <<< 3 else f
      let f := if brownout then f ||| 1#8 <<< 4 else f
      f.getLsbD 2 = hot ∧ f.getLsbD 3 = burning := by
    decide +revert
  have hread := hbits (batteryIsLow (batteryReadVoltageMv a).1)
    (batteryIsCritical (batteryReadVoltageMv a).1)
    (temperatureIsOvertemp (temperatureReadDc10 (batteryReadVoltageMv a).2).1)
    (temperatureIsCritical (temperatureReadDc10 (batteryReadVoltageMv a).2).1)
    (decide ((batteryReadVoltageMv a).1 < 2800#16))
  simp only [decide_eq_true_eq] at hread
  exact hread

/-- The reported temperature is right exactly between 26.0 and 28.1 degrees, and
below -40 degrees, where nothing is asked of it. -/
theorem temperature_right_iff (a : AdcBlock) :
    TemperatureRight (batteryMonitorRead a).1 (documentedDc10 (temperatureSum a)) ↔
      6990 ≤ temperatureSum a ∧ temperatureSum a ≤ 7025 ∨ 8154 ≤ temperatureSum a := by
  have htemp := batteryMonitorRead_temp a
  obtain ⟨hover, hcritical⟩ := batteryMonitorRead_flags a
  have hsum : temperatureSum a ≤ 4095 * 8 := samples_sum_le ..
  generalize (batteryMonitorRead a).1 = r at htemp hover hcritical ⊢
  generalize temperatureSum a = sum at htemp hsum ⊢
  have hquotient := tdiv_bounds (show (0 : Int) < 1721 by decide)
    (806 * (sum / 8 : Nat) - 706000 : Int)
  have hcool : temperatureIsOvertemp r.tempDc10 = false ∧
      temperatureIsCritical r.tempDc10 = false := by
    have h850 : (850#16).toInt = 850 := by decide
    have h1050 : (1050#16).toInt = 1050 := by decide
    simp only [temperatureIsOvertemp, temperatureIsCritical, BitVec.slt_eq_decide, h850, h1050,
      htemp, decide_eq_false_iff_not]
    omega
  have hflag (k : Int) : (((false = true) ↔ (k : ℚ) < documentedDc10 sum) ∨
      |documentedDc10 sum - k| ≤ 10) ↔
        2054234910 - 275000 * (sum : Int) ≤ (k + 10) * 469833 := by
    rw [abs_sub_comm, within_degree_iff, ← not_le, documentedDc10_le]
    simp only [Bool.false_eq_true, false_iff, not_not]
    omega
  have hlow := le_documentedDc10 (-400) sum
  have hhigh := documentedDc10_le 1250 sum
  have hover850 := hflag 850
  have hover1050 := hflag 1050
  have hnear := within_degree_iff r.tempDc10.toInt sum
  simp only [Int.cast_neg, Int.cast_ofNat] at hlow hhigh hover850 hover1050
  rw [TemperatureRight, hover, hcritical, hcool.1, hcool.2, hlow, hhigh, hover850, hover1050,
    hnear, htemp]
  generalize hcode : sum / 8 = code at hquotient ⊢
  generalize (806 * (code : Int) - 706000).tdiv 1721 = quotient at hquotient ⊢
  constructor
  · rintro ⟨hwithin, hflag850, -⟩
    by_cases hcold : 8154 ≤ sum
    · exact .inr hcold
    · obtain ⟨hbelow, habove⟩ := hwithin (by omega)
      -- within a degree, the mean code is next to the one at the reference
      have hcodeHigh : code ≤ 878 := by omega
      have hcodeLow : 873 ≤ code := by omega
      interval_cases code <;> omega
  · intro hrange
    rcases hrange with hmiddle | hcold
    · have hcodeHigh : code ≤ 878 := by omega
      have hcodeLow : 873 ≤ code := by omega
      omega
    · omega

/-- Eight times the code 700, which is 109 degrees by the formula. -/
def hotBlock : AdcBlock := ⟨fun _ _ => 700, 0⟩

/-- It is reported as 35 degrees, and no flag is up. -/
theorem temperature_wrong :
    (batteryMonitorRead hotBlock).1.tempDc10 = 352 ∧
      ¬ TemperatureRight (batteryMonitorRead hotBlock).1
        (documentedDc10 (temperatureSum hotBlock)) := by
  have htemp : (batteryMonitorRead hotBlock).1.tempDc10 = 352 := by decide +kernel
  have hvalue : (352 : BitVec 16).toInt = 352 := by decide
  have hsum : temperatureSum hotBlock = 5600 := by decide +kernel
  refine ⟨htemp, ?_⟩
  rintro ⟨hwithin, -⟩
  rw [htemp, hsum, hvalue] at hwithin
  norm_num [documentedDc10, abs_le] at hwithin

end BatteryMonitor

end GhostBlade.Firmware
