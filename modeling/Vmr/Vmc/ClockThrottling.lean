import Mathlib.Algebra.Order.Field.Rat
import Mathlib.Data.Rat.Floor
import Mathlib.Tactic.GCongr
import Mathlib.Tactic.Linarith
import Mathlib.Tactic.NormNum
import Mathlib.Tactic.Positivity

/-!
# Clock throttling

Every 100 ms the power of the rails is held against their limits and against the limit
of the thermal stage; the largest quotient decides how many of 128 clock edges the
kernels get.  The arithmetic of `float` is exact here.

A limit of the thermal stage below zero makes its quotient negative, and a negative
quotient never is the largest: the hottest board is not throttled by its heat.
-/

namespace Vmr.Vmc.Throttling

def activityMax : UInt32 := 128
def reduceGappingDemandRateToFivePercentage : UInt32 := 7
def maskClockThrottlingEnableThrottling : UInt32 := 0x100000

/-! ## The control function -/

def rateLinear (kernelPower kernelTarget rateCurrent : ℚ) (readingsHaveChanged : Bool) : ℚ :=
  if readingsHaveChanged = true then kernelTarget * rateCurrent / kernelPower else rateCurrent

def controlActivity (kernelPower kernelTarget : ℚ) (readingsHaveChanged : Bool)
    (activity : UInt32) : UInt32 :=
  if kernelTarget < 0 then 0
  else if 0 < kernelPower then
    let rateCurrent : ℚ := activity.toNat / activityMax.toNat
    let linear := rateLinear kernelPower kernelTarget rateCurrent readingsHaveChanged
    if linear < rateCurrent then UInt32.ofNat ⌊linear * activityMax.toNat⌋₊
    else if activity < activityMax then activity + 1
    else activityMax
  else activityMax

def limitedActivity (activity : UInt32) : UInt32 :=
  if activity < reduceGappingDemandRateToFivePercentage then reduceGappingDemandRateToFivePercentage
  else activity

def nextActivity (kernelPower kernelTarget : ℚ) (readingsHaveChanged : Bool) (activity : UInt32) :
    UInt32 :=
  limitedActivity (controlActivity kernelPower kernelTarget readingsHaveChanged activity)

section Control

variable {kernelPower kernelPower' kernelTarget : ℚ} {readingsHaveChanged : Bool}
  {activity activity' : UInt32}

private theorem limitedActivity_mono (h : activity ≤ activity') :
    limitedActivity activity ≤ limitedActivity activity' := by
  unfold limitedActivity reduceGappingDemandRateToFivePercentage
  grind

private theorem limitedActivity_range (h : activity ≤ activityMax) :
    reduceGappingDemandRateToFivePercentage ≤ limitedActivity activity ∧
      limitedActivity activity ≤ activityMax := by
  unfold limitedActivity
  unfold reduceGappingDemandRateToFivePercentage activityMax at *
  grind

private theorem activityMax_pos : (0 : ℚ) < activityMax.toNat := by decide

private theorem toNat_attack {linear : ℚ}
    (h : linear < (activity.toNat : ℚ) / activityMax.toNat) :
    (UInt32.ofNat ⌊linear * activityMax.toNat⌋₊).toNat = ⌊linear * activityMax.toNat⌋₊ ∧
      ⌊linear * activityMax.toNat⌋₊ ≤ activity.toNat := by
  have hfloor : ⌊linear * activityMax.toNat⌋₊ ≤ activity.toNat :=
    Nat.floor_le_of_le ((lt_div_iff₀ activityMax_pos).1 h).le
  rw [UInt32.toNat_ofNat']
  exact ⟨Nat.mod_eq_of_lt (hfloor.trans_lt activity.toNat_lt), hfloor⟩

private theorem attack_le {linear : ℚ}
    (h : linear < (activity.toNat : ℚ) / activityMax.toNat) :
    UInt32.ofNat ⌊linear * activityMax.toNat⌋₊ ≤ activity := by
  obtain ⟨hfloor, hle⟩ := toNat_attack h
  rw [UInt32.le_iff_toNat_le, hfloor]
  exact hle

private theorem le_decay (hactivity : activity ≤ activityMax) :
    activity ≤ (if activity < activityMax then activity + 1 else activityMax) ∧
      (if activity < activityMax then activity + 1 else activityMax) ≤ activityMax := by
  unfold activityMax at *
  grind

private theorem controlActivity_le (hactivity : activity ≤ activityMax) :
    controlActivity kernelPower kernelTarget readingsHaveChanged activity ≤ activityMax := by
  unfold controlActivity
  split
  · decide
  · split
    · dsimp only
      split
      · rename_i hattack
        exact UInt32.le_trans (attack_le hattack) hactivity
      · exact (le_decay hactivity).2
    · exact UInt32.le_refl _

private theorem nextActivity_range (hactivity : activity ≤ activityMax) :
    reduceGappingDemandRateToFivePercentage ≤
        nextActivity kernelPower kernelTarget readingsHaveChanged activity ∧
      nextActivity kernelPower kernelTarget readingsHaveChanged activity ≤ activityMax :=
  limitedActivity_range (controlActivity_le hactivity)

private theorem rateLinear_antitone {rateCurrent : ℚ} (hrate : 0 ≤ rateCurrent)
    (htarget : 0 ≤ kernelTarget)
    (hpower : 0 < kernelPower) (h : kernelPower ≤ kernelPower') :
    rateLinear kernelPower' kernelTarget rateCurrent readingsHaveChanged ≤
      rateLinear kernelPower kernelTarget rateCurrent readingsHaveChanged := by
  unfold rateLinear
  split
  · exact div_le_div_of_nonneg_left (mul_nonneg htarget hrate) hpower h
  · exact le_rfl

private theorem controlActivity_antitone (hactivity : activity ≤ activityMax)
    (h : kernelPower ≤ kernelPower') :
    controlActivity kernelPower' kernelTarget readingsHaveChanged activity ≤
      controlActivity kernelPower kernelTarget readingsHaveChanged activity := by
  by_cases htarget : kernelTarget < 0
  · rw [controlActivity, controlActivity, if_pos htarget, if_pos htarget]
    exact UInt32.le_refl _
  by_cases hpower : 0 < kernelPower
  · have hpower' : 0 < kernelPower' := hpower.trans_le h
    have hrate : (0 : ℚ) ≤ activity.toNat / activityMax.toNat := by positivity
    have hlinear := @rateLinear_antitone _ _ _ readingsHaveChanged _ hrate (not_lt.1 htarget)
      hpower h
    simp only [controlActivity, htarget, hpower, hpower', if_true, if_false]
    by_cases hattack : rateLinear kernelPower kernelTarget
        ((activity.toNat : ℚ) / activityMax.toNat) readingsHaveChanged <
          (activity.toNat : ℚ) / activityMax.toNat
    · -- both attack
      have hattack' := hlinear.trans_lt hattack
      rw [if_pos hattack, if_pos hattack', UInt32.le_iff_toNat_le,
        (toNat_attack hattack).1, (toNat_attack hattack').1]
      exact Nat.floor_mono (mul_le_mul_of_nonneg_right hlinear activityMax_pos.le)
    · rw [if_neg hattack]
      split
      · rename_i hattack'
        exact UInt32.le_trans (attack_le hattack') (le_decay hactivity).1
      · exact UInt32.le_refl _
  · have hmax : controlActivity kernelPower kernelTarget readingsHaveChanged activity =
        activityMax := by
      rw [controlActivity, if_neg htarget, if_neg hpower]
    rw [hmax]
    exact controlActivity_le hactivity

private theorem nextActivity_antitone (hactivity : activity ≤ activityMax)
    (h : kernelPower ≤ kernelPower') :
    nextActivity kernelPower' kernelTarget readingsHaveChanged activity ≤
      nextActivity kernelPower kernelTarget readingsHaveChanged activity :=
  limitedActivity_mono (controlActivity_antitone hactivity h)

end Control

/-! ## The context -/

structure ClockThrottlingRail where
  voltage : UInt16
  current : UInt16
  throttlingThresholdCurrent : UInt16
  deriving DecidableEq, Repr

structure RailParameters where
  voltageSensorId : UInt8
  currentSensorId : UInt8
  previousReading : ClockThrottlingRail
  latestReading : ClockThrottlingRail
  nominalVoltage : UInt16
  measuredPower : UInt32
  throttledThresholdPower : UInt32
  railNormalizedPower : ℚ
  deriving DecidableEq

structure ClockThrottlingHandle where
  railParameters : List RailParameters
  boardThrottlingThresholdPower : UInt32
  boardMeasuredPower : UInt32
  userNormalizedPower : ℚ
  boardNormalizedPower : ℚ
  kernelPower : ℚ
  kernelTarget : ℚ
  idlePower : ℚ
  activity : UInt32
  tempGainKpFpga : ℚ
  tempGainKi : ℚ
  tempGainKpVccInt : ℚ
  tempGainKaw : ℚ
  thermalThrottlingThresholdPower : ℚ
  lastThermalThrottlingThresholdPower : ℚ
  thermalNormalisedPower : ℚ
  fpgaTempThrottlingLimit : UInt32
  bVccIntThermalThrottlingEnabled : Bool
  vccIntTempThrottlingLimit : UInt32
  thermalThrottlingLoopJustEnabled : Bool
  integrationSum : ℚ
  powerOverRideEnabled : Bool
  bUserThrottlingTempLimitEnabled : Bool
  xrtSuppliedBoardThrottlingThresholdPower : UInt32
  xrtSuppliedUserThrottlingTempLimit : UInt32
  /-- `ClockThrottling_Initialize` sets the maximum, and every run keeps below it. -/
  activity_le : activity ≤ activityMax

structure ProfileRail where
  voltageSensorId : UInt8
  currentSensorId : UInt8
  nominalVoltage : UInt16
  throttlingThresholdCurrent : UInt16
  deriving DecidableEq, Repr

structure ClockThrottlingProfile where
  rails : List ProfileRail
  idlePower : ℚ
  bVccIntThermalThrottling : Bool
  fpgaTempThrottlingLimit : UInt32
  vccIntTempThrottlingLimit : UInt32
  tempGainKpFpga : ℚ
  tempGainKi : ℚ
  tempGainKpVccInt : ℚ
  tempGainKaw : ℚ
  integrationSumInitial : ℚ

/-- The context is static: what is not set here is zero. -/
def clockThrottlingInitialize (throttling : ClockThrottlingProfile) : ClockThrottlingHandle where
  railParameters := throttling.rails.map fun rail =>
    { voltageSensorId := rail.voltageSensorId
      currentSensorId := rail.currentSensorId
      previousReading := ⟨0, 0, 0⟩
      latestReading := ⟨0, 0, rail.throttlingThresholdCurrent⟩
      nominalVoltage := rail.nominalVoltage
      measuredPower := 0
      throttledThresholdPower := 0
      railNormalizedPower := 0 }
  boardThrottlingThresholdPower := 0
  boardMeasuredPower := 0
  userNormalizedPower := 0
  boardNormalizedPower := 0
  kernelPower := 0
  kernelTarget := 0
  idlePower := throttling.idlePower
  activity := activityMax
  tempGainKpFpga := throttling.tempGainKpFpga
  tempGainKi := throttling.tempGainKi
  tempGainKpVccInt := throttling.tempGainKpVccInt
  tempGainKaw := throttling.tempGainKaw
  thermalThrottlingThresholdPower := 1
  lastThermalThrottlingThresholdPower := throttling.integrationSumInitial
  thermalNormalisedPower := 0
  fpgaTempThrottlingLimit := throttling.fpgaTempThrottlingLimit
  bVccIntThermalThrottlingEnabled := throttling.bVccIntThermalThrottling
  vccIntTempThrottlingLimit := throttling.vccIntTempThrottlingLimit
  thermalThrottlingLoopJustEnabled := false
  integrationSum := throttling.integrationSumInitial
  powerOverRideEnabled := false
  bUserThrottlingTempLimitEnabled := false
  xrtSuppliedBoardThrottlingThresholdPower := 0
  xrtSuppliedUserThrottlingTempLimit := 0
  activity_le := UInt32.le_refl _

structure SensorReadings where
  voltage : UInt8 → ℚ
  current : UInt8 → ℚ

def toU16 (x : ℚ) : UInt16 := UInt16.ofNat ⌊x⌋₊

/-! ## The power stage -/

namespace RailParameters

def read (readings : SensorReadings) (rail : RailParameters) : RailParameters :=
  { rail with
    latestReading :=
      { rail.latestReading with
        voltage := toU16 (readings.voltage rail.voltageSensorId)
        current := toU16 (readings.current rail.currentSensorId) } }

def hasChanged (rail : RailParameters) : Bool :=
  rail.latestReading.current ≠ rail.previousReading.current

def measure (rail : RailParameters) : RailParameters :=
  let measuredPower := rail.latestReading.current.toUInt32 * rail.latestReading.voltage.toUInt32
  let throttledThresholdPower :=
    rail.nominalVoltage.toUInt32 * rail.latestReading.throttlingThresholdCurrent.toUInt32
  { rail with
    measuredPower
    throttledThresholdPower
    railNormalizedPower := measuredPower.toNat / throttledThresholdPower.toNat
    previousReading := rail.latestReading }

end RailParameters

def raised (power other : ℚ) : ℚ := if power < other then other else power

private theorem raised_eq_max (power other : ℚ) : raised power other = max power other := by
  unfold raised
  split
  · rename_i hlt
    exact (max_eq_right hlt.le).symm
  · rename_i hge
    exact (max_eq_left (not_lt.1 hge)).symm

namespace ClockThrottlingHandle

variable (context : ClockThrottlingHandle)

/-- The limit the kernel's power and its target are relative to. -/
def powerLimit : UInt32 :=
  if context.powerOverRideEnabled = true ∧
      context.xrtSuppliedBoardThrottlingThresholdPower < context.boardThrottlingThresholdPower then
    context.xrtSuppliedBoardThrottlingThresholdPower
  else context.boardThrottlingThresholdPower

/-- The context behind the algorithm, and what is written to `VMR_EP_GAPPING_DEMAND`. -/
def clockThrottlingAlgorithm (readingsHaveChanged : Bool) : ClockThrottlingHandle × UInt32 :=
  let idle := context.idlePower / context.powerLimit.toNat
  let kernelPower := context.boardNormalizedPower - idle
  let kernelTarget := 1 - idle
  let activity := nextActivity kernelPower kernelTarget readingsHaveChanged context.activity
  ({ context with
      kernelPower
      kernelTarget
      activity
      activity_le := (nextActivity_range context.activity_le).2 },
    activity ||| maskClockThrottlingEnableThrottling)

def measured (readings : SensorReadings) : ClockThrottlingHandle :=
  let railParameters := (context.railParameters.map (·.read readings)).map (·.measure)
  { context with
    railParameters
    boardThrottlingThresholdPower :=
      railParameters.foldl (fun sum rail => sum + rail.throttledThresholdPower) 0
    boardMeasuredPower := railParameters.foldl (fun sum rail => sum + rail.measuredPower) 0 }

def userLimit : UInt32 :=
  if context.powerOverRideEnabled = true then context.xrtSuppliedBoardThrottlingThresholdPower
  else context.boardThrottlingThresholdPower

def normalised : ClockThrottlingHandle :=
  let thermalNormalisedPower :=
    context.boardMeasuredPower.toNat / context.thermalThrottlingThresholdPower
  let userNormalizedPower : ℚ := context.boardMeasuredPower.toNat / context.userLimit.toNat
  let boardNormalizedPower := context.railParameters.foldl (fun power rail =>
    raised power rail.railNormalizedPower) 0
  let boardNormalizedPower := raised boardNormalizedPower userNormalizedPower
  let boardNormalizedPower := raised boardNormalizedPower thermalNormalisedPower
  { context with thermalNormalisedPower, userNormalizedPower, boardNormalizedPower }

def clockThrottlingAlgorithmPower (clkScalingEnable : Bool) (readings : SensorReadings) :
    ClockThrottlingHandle × Option UInt32 :=
  if clkScalingEnable = true then
    let readingsHaveChanged :=
      (context.railParameters.map (·.read readings)).any RailParameters.hasChanged
    let run := (context.measured readings).normalised.clockThrottlingAlgorithm readingsHaveChanged
    (run.1, some run.2)
  else
    ({ context with boardThrottlingThresholdPower := 0, boardMeasuredPower := 0 }, none)

end ClockThrottlingHandle

/-! ## The thermal stage -/

structure MovingAverage where
  buffer : List ℚ
  sum : ℚ
  pos : Nat
  isFilled : Bool
  deriving DecidableEq

def MovingAverage.add (average : MovingAverage) (newElement : ℚ) : ℚ × MovingAverage :=
  let sum := average.sum - average.buffer.getD average.pos 0 + newElement
  let pos := average.pos + 1
  let wraps := average.buffer.length ≤ pos
  let average : MovingAverage :=
    { buffer := average.buffer.set average.pos newElement
      sum
      pos := if wraps then 0 else pos
      isFilled := average.isFilled || wraps }
  (sum / (if average.isFilled = true then average.buffer.length else average.pos : Nat), average)

structure TemperatureAverages where
  fpgaTemp : MovingAverage
  vccintTemp : MovingAverage

namespace ClockThrottlingHandle

variable (context : ClockThrottlingHandle)

def clockThrottlingPiLoopFpga (bUserThrottlingTempLimitEnabled bUseIntegrationSum : Bool)
    (passedInThrottlingTempLimit measuredTemp : ℚ) : ℚ × ClockThrottlingHandle :=
  let throttlingTempLimit :=
    if bUserThrottlingTempLimitEnabled = true then
      min passedInThrottlingTempLimit context.xrtSuppliedUserThrottlingTempLimit.toNat
    else passedInThrottlingTempLimit
  let deltaTemp := throttlingTempLimit - measuredTemp
  if bUseIntegrationSum = true then
    let integrationAntiWindup := context.tempGainKaw *
      (context.boardMeasuredPower.toNat - context.lastThermalThrottlingThresholdPower)
    let integrationSum :=
      if context.thermalThrottlingLoopJustEnabled = true then context.integrationSum
      else context.integrationSum + deltaTemp * context.tempGainKi + integrationAntiWindup
    let threshold := deltaTemp * context.tempGainKpFpga + integrationSum
    (threshold,
      { context with
        integrationSum
        thermalThrottlingLoopJustEnabled := false
        lastThermalThrottlingThresholdPower := threshold })
  else (deltaTemp * context.tempGainKpVccInt, context)

def clockThrottlingAlgorithmTemperature (averages : TemperatureAverages)
    (sysmonMaxTemp vccintTemp : ℚ) : ClockThrottlingHandle × TemperatureAverages :=
  let (fpgaMeasuredTemp, fpgaTempAv) := averages.fpgaTemp.add sysmonMaxTemp
  let (vccIntMeasuredTemp, vccintTempAv) := averages.vccintTemp.add vccintTemp
  let (fpgaThreshold, context) := context.clockThrottlingPiLoopFpga
    context.bUserThrottlingTempLimitEnabled true context.fpgaTempThrottlingLimit.toNat
    fpgaMeasuredTemp
  let vccIntThreshold :=
    (context.vccIntTempThrottlingLimit.toNat - vccIntMeasuredTemp) * context.tempGainKpVccInt
  let threshold :=
    if context.bVccIntThermalThrottlingEnabled = true ∧ vccIntThreshold < fpgaThreshold then
      vccIntThreshold
    else fpgaThreshold
  ({ context with thermalThrottlingThresholdPower := threshold }, ⟨fpgaTempAv, vccintTempAv⟩)

end ClockThrottlingHandle

section Thermal

variable {context : ClockThrottlingHandle}

private theorem MovingAverage.add_mono (average : MovingAverage) {element element' : ℚ}
    (h : element ≤ element') : (average.add element).1 ≤ (average.add element').1 := by
  simp only [MovingAverage.add, List.length_set]
  exact div_le_div_of_nonneg_right (by linarith) (Nat.cast_nonneg _)

/-- No gain of the thermal stage is negative. -/
structure ClockThrottlingHandle.Damped (context : ClockThrottlingHandle) : Prop where
  kpFpga : 0 ≤ context.tempGainKpFpga
  ki : 0 ≤ context.tempGainKi
  kpVccInt : 0 ≤ context.tempGainKpVccInt

private theorem piLoop_antitone (hdamped : context.Damped) (user : Bool) (limit : ℚ)
    {temp temp' : ℚ}
    (h : temp ≤ temp') :
    (context.clockThrottlingPiLoopFpga user true limit temp').1 ≤
      (context.clockThrottlingPiLoopFpga user true limit temp).1 := by
  have hp := mul_le_mul_of_nonneg_right h hdamped.kpFpga
  have hi := mul_le_mul_of_nonneg_right h hdamped.ki
  simp only [ClockThrottlingHandle.clockThrottlingPiLoopFpga, if_true]
  split <;> split <;> linarith

private theorem smaller_antitone {enabled : Prop} [Decidable enabled] {a a' b b' : ℚ} (ha : a' ≤ a)
    (hb : b' ≤ b) :
    (if enabled ∧ b' < a' then b' else a') ≤ if enabled ∧ b < a then b else a := by
  split
  · rename_i hsmaller'
    split
    · exact hb
    · exact hsmaller'.2.le.trans ha
  · rename_i hlarger'
    split
    · rename_i hsmaller
      exact (not_lt.1 fun hlt => hlarger' ⟨hsmaller.1, hlt⟩).trans hb
    · exact ha

theorem thermalThrottlingThresholdPower_antitone (hdamped : context.Damped)
    (averages : TemperatureAverages) {fpga fpga' vccint vccint' : ℚ} (hfpga : fpga ≤ fpga')
    (hvccint : vccint ≤ vccint') :
    (context.clockThrottlingAlgorithmTemperature averages fpga'
        vccint').1.thermalThrottlingThresholdPower ≤
      (context.clockThrottlingAlgorithmTemperature averages fpga
        vccint).1.thermalThrottlingThresholdPower := by
  have hloop := piLoop_antitone hdamped context.bUserThrottlingTempLimitEnabled
    context.fpgaTempThrottlingLimit.toNat (averages.fpgaTemp.add_mono hfpga)
  have hproportional := mul_le_mul_of_nonneg_right
    (sub_le_sub_left (averages.vccintTemp.add_mono hvccint)
      (context.vccIntTempThrottlingLimit.toNat : ℚ)) hdamped.kpVccInt
  exact smaller_antitone hloop hproportional

end Thermal

/-! ## Monotone in heat -/

namespace ClockThrottlingHandle

variable (context : ClockThrottlingHandle)

def withThermalLimit (limit : ℚ) : ClockThrottlingHandle :=
  { context with thermalThrottlingThresholdPower := limit }

structure NonzeroDivisors (readings : SensorReadings) : Prop where
  rails : ∀ rail ∈ (context.measured readings).railParameters, rail.throttledThresholdPower ≠ 0
  board : (context.measured readings).boardThrottlingThresholdPower ≠ 0
  user : (context.measured readings).userLimit ≠ 0
  thermal : context.thermalThrottlingThresholdPower ≠ 0

end ClockThrottlingHandle

private theorem ClockThrottlingHandle.NonzeroDivisors.withThermalLimit
    {context : ClockThrottlingHandle}
    {readings : SensorReadings} (h : context.NonzeroDivisors readings) {limit : ℚ}
    (hlimit : limit ≠ 0) : (context.withThermalLimit limit).NonzeroDivisors readings :=
  ⟨h.rails, h.board, h.user, hlimit⟩

/-- What is written enables throttling, between the floor and the maximum. -/
def GappingInRange (written : Option UInt32) : Prop :=
  ∀ demand, written = some demand → ∃ activity,
    demand = activity ||| maskClockThrottlingEnableThrottling ∧
      reduceGappingDemandRateToFivePercentage ≤ activity ∧ activity ≤ activityMax

/-- The board with the lower limit is not left the faster one, and both stay in range. -/
def MonotoneInHeat (limit limit' : ℚ) : Prop :=
  ∀ (context : ClockThrottlingHandle) (clkScalingEnable : Bool) (readings : SensorReadings),
    (context.withThermalLimit limit).NonzeroDivisors readings →
    (context.withThermalLimit limit').NonzeroDivisors readings →
    limit' < limit →
    let run := (context.withThermalLimit limit).clockThrottlingAlgorithmPower clkScalingEnable
      readings
    let run' := (context.withThermalLimit limit').clockThrottlingAlgorithmPower clkScalingEnable
      readings
    run'.1.activity ≤ run.1.activity ∧ GappingInRange run.2 ∧ GappingInRange run'.2

section Monotone

variable (context : ClockThrottlingHandle) (readings : SensorReadings)

def ClockThrottlingHandle.electricalPower (context : ClockThrottlingHandle)
    (readings : SensorReadings) : ℚ :=
  let context := context.measured readings
  max ((context.railParameters.foldl (fun power rail => raised power rail.railNormalizedPower) 0))
    (context.boardMeasuredPower.toNat / context.userLimit.toNat)

private theorem electricalPower_nonneg : 0 ≤ context.electricalPower readings := by
  have hrails : ∀ (rails : List RailParameters) (power : ℚ), 0 ≤ power →
      0 ≤ rails.foldl (fun power rail => raised power rail.railNormalizedPower) power := by
    intro rails
    induction rails with
    | nil => exact fun _ h => h
    | cons rail rails ih =>
        intro power hpower
        refine ih (raised power rail.railNormalizedPower) ?_
        rw [raised_eq_max]
        exact hpower.trans (le_max_left _ _)
  exact (hrails _ _ le_rfl).trans (le_max_left _ _)

private theorem gappingInRange_run (clkScalingEnable : Bool) :
    GappingInRange (context.clockThrottlingAlgorithmPower clkScalingEnable readings).2 := by
  unfold ClockThrottlingHandle.clockThrottlingAlgorithmPower
  split
  · rintro demand hdemand
    obtain rfl := Option.some.inj hdemand
    exact ⟨_, rfl, nextActivity_range context.activity_le⟩
  · rintro demand hdemand
    cases hdemand

private theorem activity_run (limit : ℚ) :
    ((context.withThermalLimit limit).clockThrottlingAlgorithmPower true readings).1.activity =
      nextActivity
        (max (context.electricalPower readings)
            ((context.measured readings).boardMeasuredPower.toNat / limit) -
          context.idlePower / (context.measured readings).powerLimit.toNat)
        (1 - context.idlePower / (context.measured readings).powerLimit.toNat)
        ((context.railParameters.map (·.read readings)).any RailParameters.hasChanged)
        context.activity := by
  rw [ClockThrottlingHandle.electricalPower, ← raised_eq_max, ← raised_eq_max]
  rfl

private theorem activity_run_le {limit limit' : ℚ}
    (h : (context.measured readings).boardMeasuredPower.toNat / limit ≤
      max (context.electricalPower readings)
        ((context.measured readings).boardMeasuredPower.toNat / limit')) :
    ((context.withThermalLimit limit').clockThrottlingAlgorithmPower true readings).1.activity ≤
      ((context.withThermalLimit limit).clockThrottlingAlgorithmPower true readings).1.activity := by
  rw [activity_run, activity_run]
  exact nextActivity_antitone context.activity_le
    (sub_le_sub_right (max_le (le_max_left _ _) h) _)

end Monotone

/-! ## Boards -/

def profileOf (rails : List ProfileRail) (idlePower : ℚ) : ClockThrottlingProfile :=
  ⟨rails, idlePower, true, 95, 105, 1000000, 10000, 1000000, 0, 60000000⟩

def idleBoard : ClockThrottlingHandle :=
  let reading : ClockThrottlingRail := ⟨1, 1, 65535⟩
  let rail : RailParameters := ⟨0, 0, reading, reading, 65535, 0, 0, 0⟩
  { clockThrottlingInitialize (profileOf [] (2 * 4294705154 / 4294967295)) with
    railParameters := [rail, rail]
    activity := 7
    powerOverRideEnabled := true
    xrtSuppliedBoardThrottlingThresholdPower := 4294967295
    activity_le := by decide }

def unitReadings : SensorReadings := ⟨fun _ => 1, fun _ => 1⟩

private theorem idleBoard_measured :
    (idleBoard.measured unitReadings).boardMeasuredPower = 2 ∧
      (idleBoard.measured unitReadings).powerLimit = 4294705154 ∧
      idleBoard.electricalPower unitReadings = 2 / 4294967295 ∧
      (idleBoard.railParameters.map (·.read unitReadings)).any RailParameters.hasChanged = false := by
  decide +kernel

private theorem idleBoard_divisors : idleBoard.NonzeroDivisors unitReadings :=
  ⟨by decide +kernel, by decide +kernel, by decide +kernel, by decide⟩

private theorem idleBoard_activity (limit : ℚ) :
    ((idleBoard.withThermalLimit limit).clockThrottlingAlgorithmPower true
        unitReadings).1.activity =
      nextActivity (max (2 / 4294967295) (2 / limit) - 2 / 4294967295) (1 - 2 / 4294967295)
        false 7 := by
  obtain ⟨hpower, hboard, helectrical, hchanged⟩ := idleBoard_measured
  have hidle : idleBoard.idlePower / ((4294705154 : UInt32).toNat : ℚ) = 2 / 4294967295 := by
    decide +kernel
  rw [activity_run, hpower, hboard, helectrical, hchanged, hidle]
  rfl

private theorem idleBoard_slow {limit : ℚ} (hpos : 0 < limit) (hlimit : limit < 4294967295) :
    ((idleBoard.withThermalLimit limit).clockThrottlingAlgorithmPower true
      unitReadings).1.activity = 8 := by
  have hthermal : (2 : ℚ) / 4294967295 < 2 / limit := div_lt_div_of_pos_left (by norm_num) hpos hlimit
  rw [idleBoard_activity, max_eq_right hthermal.le, nextActivity, controlActivity,
    if_neg (by norm_num), if_pos (sub_pos.2 hthermal)]
  simp only [rateLinear, Bool.false_eq_true, if_false, lt_irrefl]
  rfl

private theorem idleBoard_fast {limit : ℚ} (hneg : limit < 0) :
    ((idleBoard.withThermalLimit limit).clockThrottlingAlgorithmPower true
      unitReadings).1.activity = 128 := by
  have hthermal : (2 : ℚ) / limit ≤ 2 / 4294967295 :=
    (div_nonpos_of_nonneg_of_nonpos (by norm_num) hneg.le).trans (by norm_num)
  rw [idleBoard_activity, max_eq_left hthermal, sub_self, nextActivity, controlActivity,
    if_neg (by norm_num), if_neg (lt_irrefl _)]
  rfl

/-! ## When throttling is monotone -/

private theorem thermal_le_electrical (context : ClockThrottlingHandle) (readings : SensorReadings)
    (huser : (context.measured readings).userLimit ≠ 0) {limit : ℚ} (hlimit : 4294967295 ≤ limit) :
    (context.measured readings).boardMeasuredPower.toNat / limit ≤
      context.electricalPower readings := by
  have hpos : (0 : ℚ) < (context.measured readings).userLimit.toNat := by
    refine Nat.cast_pos.2 (Nat.pos_of_ne_zero fun hzero => huser ?_)
    exact UInt32.toNat_inj.1 hzero
  have hmost : ((context.measured readings).userLimit.toNat : ℚ) ≤ 4294967295 := by
    have hlt := (context.measured readings).userLimit.toNat_lt
    exact_mod_cast Nat.le_of_lt_succ hlt
  exact (div_le_div_of_nonneg_left (Nat.cast_nonneg _) hpos (hmost.trans hlimit)).trans
    (le_max_right _ _)

/-- `2 ^ 32 - 1` microwatts is the largest limit of a board or a user. -/
theorem throttling_monotone_iff (limit limit' : ℚ) :
    MonotoneInHeat limit limit' ↔ ¬ (limit' < 0 ∧ 0 < limit ∧ limit < 2 ^ 32 - 1) := by
  constructor
  · rintro hmonotone ⟨hneg, hpos, hlimit⟩
    have hrun := (hmonotone idleBoard true unitReadings (idleBoard_divisors.withThermalLimit hpos.ne')
      (idleBoard_divisors.withThermalLimit hneg.ne) (hneg.trans hpos)).1
    rw [idleBoard_slow hpos (by linarith), idleBoard_fast hneg] at hrun
    exact absurd hrun (by decide)
  · intro hsigns context clkScalingEnable readings hdivisors hdivisors' hlower
    refine ⟨?_, gappingInRange_run _ _ _, gappingInRange_run _ _ _⟩
    cases clkScalingEnable with
    | false => exact UInt32.le_refl _
    | true =>
        refine activity_run_le context readings ?_
        have hpower : (0 : ℚ) ≤ (context.measured readings).boardMeasuredPower.toNat :=
          Nat.cast_nonneg _
        rcases lt_or_gt_of_ne hdivisors'.thermal with hneg' | hpos'
        · refine le_max_of_le_left ?_
          rcases lt_or_gt_of_ne hdivisors.thermal with hneg | hpos
          · -- neither quotient counts
            exact (div_nonpos_of_nonneg_of_nonpos hpower hneg.le).trans
              (electricalPower_nonneg context readings)
          · have hlimit : (4294967295 : ℚ) ≤ limit := by
              by_contra hsmall
              exact hsigns ⟨hneg', hpos, by linarith⟩
            exact thermal_le_electrical context readings hdivisors.user hlimit
        · -- both count, and the lower limit has the larger quotient
          exact le_max_of_le_right (div_le_div_of_nonneg_left hpower hpos' hlower.le)

def hotBoard : ClockThrottlingHandle :=
  { clockThrottlingInitialize (profileOf [⟨0, 0, 12000, 5500⟩] 24000000) with
    activity := 64
    activity_le := by decide }

def hotReadings : SensorReadings := ⟨fun _ => 12000, fun _ => 4000⟩

/-- At 48 W: with a thermal limit of 30 W the clock goes down to 32, with one below zero up to 65. -/
theorem not_monotone_hotBoard :
    ¬ MonotoneInHeat 30000000 (-1000000) ∧
      ((hotBoard.withThermalLimit 30000000).clockThrottlingAlgorithmPower true
        hotReadings).1.activity = 32 ∧
      ((hotBoard.withThermalLimit (-1000000)).clockThrottlingAlgorithmPower true
        hotReadings).1.activity = 65 := by
  have hcool : ((hotBoard.withThermalLimit 30000000).clockThrottlingAlgorithmPower true
      hotReadings).1.activity = 32 := by decide +kernel
  have hhot : ((hotBoard.withThermalLimit (-1000000)).clockThrottlingAlgorithmPower true
      hotReadings).1.activity = 65 := by decide +kernel
  have hdivisors : hotBoard.NonzeroDivisors hotReadings :=
    ⟨by decide +kernel, by decide +kernel, by decide +kernel, by decide⟩
  refine ⟨fun hmonotone => ?_, hcool, hhot⟩
  have hrun := (hmonotone hotBoard true hotReadings (hdivisors.withThermalLimit (by norm_num))
    (hdivisors.withThermalLimit (by norm_num)) (by norm_num)).1
  rw [hcool, hhot] at hrun
  exact absurd hrun (by decide)

end Vmr.Vmc.Throttling
