import Vmr.Lib.Errno
import Vmr.Lib.Transition

/-!
# The override of clock scaling

A request of the host changes the parameters field by field; `clockThrottling`
hands them to the algorithm.  A limit sent as 0 is left as the requests before
have set it.
-/

namespace Vmr.Vmc

open Vmr.Lib

def clClkScalingRead : BitVec 3 := 1
def clClkScalingSet : BitVec 3 := 2

def tempFpgaCriticalThreshold : UInt8 := 100
def wattsToMicrowatts : UInt32 := 1000000

inductive Platform
  | vck5000 | v70 | v80
  deriving DecidableEq, Repr

namespace Platform

def powerThrottlingThresholdLimit : Platform → UInt16
  | vck5000 => 66 + 75 + 150
  | v70 => 75
  | v80 => 75

def tempThrottlingThresholdLimit : Platform → UInt16
  | vck5000 => 95
  | v70 => 97
  | v80 => 97

end Platform

/-! ## The request -/

structure ClkScalingPayload where
  aid : BitVec 3
  scalingEn : Bool
  pwrScalingOvrdLimit : UInt16
  tempScalingOvrdLimit : UInt8
  reset : Bool
  pwrOvrdEn : Bool
  tempOvrdEn : Bool
  deriving DecidableEq, Repr

structure ClkThrottlingParams where
  clkScalingEnable : Bool
  throttleLimitTemp : UInt8
  throttleLimitPwr : UInt16
  tempThrottlingEnabled : Bool
  powerThrottlingEnabled : Bool
  limitsUpdateReq : Bool
  deriving DecidableEq, Repr

structure ClockThrottlingHandle where
  featureEnabled : Bool
  powerOverRideEnabled : Bool
  bUserThrottlingTempLimitEnabled : Bool
  xrtSuppliedBoardThrottlingThresholdPower : UInt32
  xrtSuppliedUserThrottlingTempLimit : UInt32
  powerThrottlingLimit : UInt16
  tempThrottlingLimit : UInt16
  deriving DecidableEq, Repr

structure ClockScaling where
  params : ClkThrottlingParams
  algorithm : ClockThrottlingHandle
  deriving DecidableEq, Repr

-- the enable field is one bit wide, so its check never fails
def validateClkScalingPayload (algorithm : ClockThrottlingHandle)
    (payload : ClkScalingPayload) : Int :=
  if payload.aid = 0 then -einval
  else if payload.pwrScalingOvrdLimit > algorithm.powerThrottlingLimit then -einval
  else if payload.tempScalingOvrdLimit > tempFpgaCriticalThreshold then -einval
  else 0

def ClkThrottlingParams.disableOverride (params : ClkThrottlingParams)
    (algorithm : ClockThrottlingHandle) : ClkThrottlingParams :=
  { params with
    tempThrottlingEnabled := false
    powerThrottlingEnabled := false
    throttleLimitTemp := algorithm.tempThrottlingLimit.toUInt8
    throttleLimitPwr := algorithm.powerThrottlingLimit }

def ClkThrottlingParams.overrideTemp (params : ClkThrottlingParams)
    (payload : ClkScalingPayload) : ClkThrottlingParams :=
  if payload.tempOvrdEn = true ∧ payload.tempScalingOvrdLimit > 0 then
    { params with
      throttleLimitTemp := payload.tempScalingOvrdLimit
      tempThrottlingEnabled := true }
  else params

def ClkThrottlingParams.overridePwr (params : ClkThrottlingParams)
    (payload : ClkScalingPayload) : ClkThrottlingParams :=
  if payload.pwrOvrdEn = true ∧ payload.pwrScalingOvrdLimit > 0 then
    { params with
      throttleLimitPwr := payload.pwrScalingOvrdLimit
      powerThrottlingEnabled := true }
  else params

def ClkThrottlingParams.requestUpdate (params : ClkThrottlingParams) (enable : Bool) :
    ClkThrottlingParams :=
  { params with
    limitsUpdateReq := true
    clkScalingEnable := enable }

def vmcSetClkThrottlingOverride (payload : ClkScalingPayload) (s : ClockScaling) :
    ClockScaling :=
  if payload.reset = false then
    if payload.scalingEn = true then
      { s with
        params := ((s.params.requestUpdate payload.scalingEn).overrideTemp payload).overridePwr
          payload }
    else
      { s with
        params := (s.params.requestUpdate payload.scalingEn).disableOverride s.algorithm }
  else { s with params := (s.params.requestUpdate false).disableOverride s.algorithm }

def clVmcClkScaling (payload : ClkScalingPayload) (s : ClockScaling) : Int × ClockScaling :=
  let ret := validateClkScalingPayload s.algorithm payload
  if ret ≠ 0 then (ret, s)
  else if payload.aid = clClkScalingRead then (0, s)
  else if payload.aid = clClkScalingSet then (0, vmcSetClkThrottlingOverride payload s)
  else (-einval, s)

/-- The fields of the algorithm that its two loops only read. -/
def clockThrottling (s : ClockScaling) : ClockScaling :=
  if s.params.limitsUpdateReq = true then
    { params := { s.params with limitsUpdateReq := false }
      algorithm := { s.algorithm with
        featureEnabled := s.params.clkScalingEnable
        bUserThrottlingTempLimitEnabled := s.params.tempThrottlingEnabled
        powerOverRideEnabled := s.params.powerThrottlingEnabled
        xrtSuppliedUserThrottlingTempLimit := s.params.throttleLimitTemp.toUInt32
        xrtSuppliedBoardThrottlingThresholdPower :=
          s.params.throttleLimitPwr.toUInt32 * wattsToMicrowatts } }
  else s

def ClockScaling.initial (platform : Platform) : ClockScaling where
  params :=
    { clkScalingEnable := false
      throttleLimitTemp := platform.tempThrottlingThresholdLimit.toUInt8
      throttleLimitPwr := platform.powerThrottlingThresholdLimit
      tempThrottlingEnabled := false
      powerThrottlingEnabled := false
      limitsUpdateReq := false }
  algorithm :=
    { featureEnabled := false
      powerOverRideEnabled := false
      bUserThrottlingTempLimitEnabled := false
      xrtSuppliedBoardThrottlingThresholdPower := 0
      xrtSuppliedUserThrottlingTempLimit := 0
      powerThrottlingLimit := platform.powerThrottlingThresholdLimit
      tempThrottlingLimit := platform.tempThrottlingThresholdLimit }

/-! ## Histories -/

def ClkScalingPayload.Accepted (payload : ClkScalingPayload) (s : ClockScaling) : Prop :=
  payload.aid = clClkScalingSet ∧ (clVmcClkScaling payload s).1 = 0

instance (payload : ClkScalingPayload) (s : ClockScaling) : Decidable (payload.Accepted s) :=
  inferInstanceAs (Decidable (_ ∧ _))

inductive ClockScalingEvent
  | set (payload : ClkScalingPayload)
  | throttle

def clockScalingSystem (platform : Platform) :
    TransitionSystem ClockScaling ClockScalingEvent where
  init s := s = ClockScaling.initial platform
  step s event s' :=
    match event with
    | .set payload => payload.Accepted s ∧ s' = (clVmcClkScaling payload s).2
    | .throttle => s' = clockThrottling s

def DefaultLimits (platform : Platform) (s : ClockScaling) : Prop :=
  s.algorithm.powerThrottlingLimit = platform.powerThrottlingThresholdLimit ∧
    s.algorithm.tempThrottlingLimit = platform.tempThrottlingThresholdLimit

@[simp] theorem algorithm_vmcSetClkThrottlingOverride (payload : ClkScalingPayload)
    (s : ClockScaling) :
    (vmcSetClkThrottlingOverride payload s).algorithm = s.algorithm := by
  unfold vmcSetClkThrottlingOverride
  split
  · split <;> rfl
  · rfl

@[simp] theorem algorithm_clVmcClkScaling (payload : ClkScalingPayload) (s : ClockScaling) :
    (clVmcClkScaling payload s).2.algorithm = s.algorithm := by
  unfold clVmcClkScaling
  dsimp only
  split
  · rfl
  · split
    · rfl
    · split
      · exact algorithm_vmcSetClkThrottlingOverride payload s
      · rfl

private theorem DefaultLimits.clockThrottling {platform : Platform} {s : ClockScaling}
    (h : DefaultLimits platform s) : DefaultLimits platform (clockThrottling s) := by
  unfold Vmc.clockThrottling
  split
  · exact h
  · exact h

private theorem invariant_defaultLimits (platform : Platform) :
    (clockScalingSystem platform).Invariant (DefaultLimits platform) where
  init s hs := by
    rw [show s = ClockScaling.initial platform from hs]
    exact ⟨rfl, rfl⟩
  step s event s' h hstep := by
    cases event with
    | set payload =>
        rw [hstep.2, DefaultLimits, algorithm_clVmcClkScaling]
        exact h
    | throttle =>
        rw [show s' = clockThrottling s from hstep]
        exact h.clockThrottling

private theorem validateClkScalingPayload_congr {algorithm algorithm' : ClockThrottlingHandle}
    (h : algorithm.powerThrottlingLimit = algorithm'.powerThrottlingLimit)
    (payload : ClkScalingPayload) :
    validateClkScalingPayload algorithm payload =
      validateClkScalingPayload algorithm' payload := by
  unfold validateClkScalingPayload
  rw [h]

theorem ClkScalingPayload.Accepted.validate {payload : ClkScalingPayload} {s : ClockScaling}
    (h : payload.Accepted s) : validateClkScalingPayload s.algorithm payload = 0 := by
  by_contra hvalidate
  have hret := h.2
  unfold clVmcClkScaling at hret
  dsimp only at hret
  rw [if_pos hvalidate] at hret
  exact hvalidate hret

private theorem clVmcClkScaling_of_accepted {payload : ClkScalingPayload} {s : ClockScaling}
    (h : payload.Accepted s) :
    clVmcClkScaling payload s = (0, vmcSetClkThrottlingOverride payload s) := by
  have hread : payload.aid ≠ clClkScalingRead := by
    rw [h.1]
    decide
  unfold clVmcClkScaling
  dsimp only
  rw [if_neg (not_not_intro h.validate), if_neg hread, if_pos h.1]

private theorem accepted_of_validate {payload : ClkScalingPayload} {s : ClockScaling}
    (haid : payload.aid = clClkScalingSet)
    (h : validateClkScalingPayload s.algorithm payload = 0) : payload.Accepted s := by
  have hread : payload.aid ≠ clClkScalingRead := by
    rw [haid]
    decide
  refine ⟨haid, ?_⟩
  unfold clVmcClkScaling
  dsimp only
  rw [if_neg (not_not_intro h), if_neg hread, if_pos haid]

theorem DefaultLimits.accepted {platform : Platform} {s s' : ClockScaling}
    (hs : DefaultLimits platform s) (hs' : DefaultLimits platform s')
    {payload : ClkScalingPayload} (h : payload.Accepted s) : payload.Accepted s' := by
  refine accepted_of_validate h.1 ?_
  rw [validateClkScalingPayload_congr (hs'.1.trans hs.1.symm)]
  exact h.validate

/-! ## What the algorithm sees -/

structure Override where
  tempLimit : UInt32
  powerLimit : UInt32
  tempEnabled : Bool
  powerEnabled : Bool
  deriving DecidableEq, Repr

def ClockThrottlingHandle.override (algorithm : ClockThrottlingHandle) : Override where
  tempLimit := algorithm.xrtSuppliedUserThrottlingTempLimit
  powerLimit := algorithm.xrtSuppliedBoardThrottlingThresholdPower
  tempEnabled := algorithm.bUserThrottlingTempLimitEnabled
  powerEnabled := algorithm.powerOverRideEnabled

def overrideAfter (payload : ClkScalingPayload) (s : ClockScaling) : Override :=
  (clockThrottling (clVmcClkScaling payload s).2).algorithm.override

def Platform.defaultOverride (platform : Platform) : Override where
  tempLimit := platform.tempThrottlingThresholdLimit.toUInt8.toUInt32
  powerLimit := platform.powerThrottlingThresholdLimit.toUInt32 * wattsToMicrowatts
  tempEnabled := false
  powerEnabled := false

def ClkScalingPayload.sentOverride (payload : ClkScalingPayload) : Override where
  tempLimit := payload.tempScalingOvrdLimit.toUInt32
  powerLimit := payload.pwrScalingOvrdLimit.toUInt32 * wattsToMicrowatts
  tempEnabled := true
  powerEnabled := true

/-- The request is a reset, or it disables scaling, or it has both overrides. -/
def ClkScalingPayload.Complete (payload : ClkScalingPayload) : Prop :=
  payload.reset = true ∨ payload.scalingEn = false ∨
    (payload.scalingEn = true ∧ payload.tempOvrdEn = true ∧ payload.pwrOvrdEn = true)

/-- The last request alone determines the override; the limit 0 is the default. -/
structure FunctionOfRequest (platform : Platform) (payload : ClkScalingPayload) : Prop where
  same : ∀ s s', (clockScalingSystem platform).Reachable s →
    (clockScalingSystem platform).Reachable s' →
    overrideAfter payload s = overrideAfter payload s'
  defaultTemp : ∀ s, (clockScalingSystem platform).Reachable s →
    payload.tempScalingOvrdLimit = 0 →
    (overrideAfter payload s).tempLimit = platform.defaultOverride.tempLimit
  defaultPower : ∀ s, (clockScalingSystem platform).Reachable s →
    payload.pwrScalingOvrdLimit = 0 →
    (overrideAfter payload s).powerLimit = platform.defaultOverride.powerLimit

private theorem limitsUpdateReq_override (payload : ClkScalingPayload) (s : ClockScaling) :
    (vmcSetClkThrottlingOverride payload s).params.limitsUpdateReq = true := by
  unfold vmcSetClkThrottlingOverride ClkThrottlingParams.overridePwr
    ClkThrottlingParams.overrideTemp
  split_ifs <;> rfl

private theorem overrideAfter_of_accepted {payload : ClkScalingPayload} {s : ClockScaling}
    (h : payload.Accepted s) :
    overrideAfter payload s =
      { tempLimit :=
          (vmcSetClkThrottlingOverride payload s).params.throttleLimitTemp.toUInt32
        powerLimit :=
          (vmcSetClkThrottlingOverride payload s).params.throttleLimitPwr.toUInt32 *
            wattsToMicrowatts
        tempEnabled := (vmcSetClkThrottlingOverride payload s).params.tempThrottlingEnabled
        powerEnabled :=
          (vmcSetClkThrottlingOverride payload s).params.powerThrottlingEnabled } := by
  unfold overrideAfter
  rw [clVmcClkScaling_of_accepted h]
  dsimp only
  rw [clockThrottling, if_pos (limitsUpdateReq_override payload s)]
  rfl

private theorem overrideAfter_default {platform : Platform} {payload : ClkScalingPayload}
    {s : ClockScaling} (h : payload.Accepted s) (hs : DefaultLimits platform s)
    (hoff : payload.reset = true ∨ payload.scalingEn = false) :
    overrideAfter payload s = platform.defaultOverride := by
  have hparams : ∃ enable, (vmcSetClkThrottlingOverride payload s).params =
      (s.params.requestUpdate enable).disableOverride s.algorithm := by
    unfold vmcSetClkThrottlingOverride
    rcases Bool.eq_false_or_eq_true payload.reset with hreset | hreset
    · exact ⟨false, by simp [hreset]⟩
    · have henable : payload.scalingEn = false := by simpa [hreset] using hoff
      exact ⟨payload.scalingEn, by simp [hreset, henable]⟩
  obtain ⟨enable, hparams⟩ := hparams
  rw [overrideAfter_of_accepted h, hparams]
  simp only [ClkThrottlingParams.disableOverride, hs.1, hs.2]
  rfl

private theorem params_override_of_enable {payload : ClkScalingPayload} {s : ClockScaling}
    (hreset : payload.reset = false) (henable : payload.scalingEn = true) :
    (vmcSetClkThrottlingOverride payload s).params =
      ((s.params.requestUpdate true).overrideTemp payload).overridePwr payload := by
  simp [vmcSetClkThrottlingOverride, hreset, henable]

private theorem overrideAfter_sent {payload : ClkScalingPayload} {s : ClockScaling}
    (h : payload.Accepted s) (hreset : payload.reset = false)
    (henable : payload.scalingEn = true) (htemp : payload.tempOvrdEn = true)
    (hpwr : payload.pwrOvrdEn = true) (htempLimit : 0 < payload.tempScalingOvrdLimit)
    (hpwrLimit : 0 < payload.pwrScalingOvrdLimit) :
    overrideAfter payload s = payload.sentOverride := by
  rw [overrideAfter_of_accepted h, params_override_of_enable hreset henable]
  unfold ClkThrottlingParams.overridePwr
  rw [if_pos ⟨hpwr, hpwrLimit⟩]
  unfold ClkThrottlingParams.overrideTemp
  rw [if_pos ⟨htemp, htempLimit⟩]
  rfl

private theorem tempEnabled_overrideAfter {payload : ClkScalingPayload} {s : ClockScaling}
    (h : payload.Accepted s) (hreset : payload.reset = false)
    (henable : payload.scalingEn = true) (hlimit : payload.tempScalingOvrdLimit = 0) :
    (overrideAfter payload s).tempEnabled = s.params.tempThrottlingEnabled := by
  rw [overrideAfter_of_accepted h, params_override_of_enable hreset henable]
  dsimp only
  unfold ClkThrottlingParams.overridePwr ClkThrottlingParams.overrideTemp
  rw [hlimit]
  split_ifs <;> simp_all [ClkThrottlingParams.requestUpdate]

private theorem powerEnabled_overrideAfter {payload : ClkScalingPayload} {s : ClockScaling}
    (h : payload.Accepted s) (hreset : payload.reset = false)
    (henable : payload.scalingEn = true) (hlimit : payload.pwrScalingOvrdLimit = 0) :
    (overrideAfter payload s).powerEnabled = s.params.powerThrottlingEnabled := by
  rw [overrideAfter_of_accepted h, params_override_of_enable hreset henable]
  dsimp only
  unfold ClkThrottlingParams.overridePwr ClkThrottlingParams.overrideTemp
  rw [hlimit]
  split_ifs <;> simp_all [ClkThrottlingParams.requestUpdate]

/-! ## Two histories -/

def overrideBoth (pwrLimit : UInt16) (tempLimit : UInt8) : ClkScalingPayload where
  aid := clClkScalingSet
  scalingEn := true
  pwrScalingOvrdLimit := pwrLimit
  tempScalingOvrdLimit := tempLimit
  reset := false
  pwrOvrdEn := true
  tempOvrdEn := true

private theorem accepted_overrideBoth (platform : Platform) :
    (overrideBoth 1 1).Accepted (ClockScaling.initial platform) := by
  cases platform <;> decide

-- no request at all, and one that sets both overrides
private theorem reachable_initial (platform : Platform) :
    (clockScalingSystem platform).Reachable (ClockScaling.initial platform) :=
  .init rfl

private theorem reachable_overrideBoth (platform : Platform) :
    (clockScalingSystem platform).Reachable
      (vmcSetClkThrottlingOverride (overrideBoth 1 1) (ClockScaling.initial platform)) := by
  have haccepted := accepted_overrideBoth platform
  have hstep : (clockScalingSystem platform).step (ClockScaling.initial platform)
      (.set (overrideBoth 1 1))
      (vmcSetClkThrottlingOverride (overrideBoth 1 1) (ClockScaling.initial platform)) :=
    ⟨haccepted, by rw [clVmcClkScaling_of_accepted haccepted]⟩
  exact .step (reachable_initial platform) hstep

private theorem functionOfRequest_of_default {platform : Platform} {payload : ClkScalingPayload}
    (haccepted : payload.Accepted (ClockScaling.initial platform))
    (hoff : payload.reset = true ∨ payload.scalingEn = false) :
    FunctionOfRequest platform payload := by
  have hdefault : ∀ s, (clockScalingSystem platform).Reachable s →
      overrideAfter payload s = platform.defaultOverride := by
    intro s hs
    have hlimits := hs.invariant (invariant_defaultLimits platform)
    exact overrideAfter_default (DefaultLimits.accepted ⟨rfl, rfl⟩ hlimits haccepted)
      hlimits hoff
  constructor
  · intro s s' hs hs'
    rw [hdefault s hs, hdefault s' hs']
  · intro s hs _
    rw [hdefault s hs]
  · intro s hs _
    rw [hdefault s hs]

private theorem functionOfRequest_of_sent {platform : Platform} {payload : ClkScalingPayload}
    (haccepted : payload.Accepted (ClockScaling.initial platform))
    (hreset : payload.reset = false) (henable : payload.scalingEn = true)
    (htemp : payload.tempOvrdEn = true) (hpwr : payload.pwrOvrdEn = true)
    (htempLimit : 0 < payload.tempScalingOvrdLimit)
    (hpwrLimit : 0 < payload.pwrScalingOvrdLimit) :
    FunctionOfRequest platform payload := by
  have hsent : ∀ s, (clockScalingSystem platform).Reachable s →
      overrideAfter payload s = payload.sentOverride := by
    intro s hs
    have hlimits := hs.invariant (invariant_defaultLimits platform)
    exact overrideAfter_sent (DefaultLimits.accepted ⟨rfl, rfl⟩ hlimits haccepted)
      hreset henable htemp hpwr htempLimit hpwrLimit
  constructor
  · intro s s' hs hs'
    rw [hsent s hs, hsent s' hs']
  · intro s hs hzero
    rw [hzero] at htempLimit
    exact absurd htempLimit (by decide)
  · intro s hs hzero
    rw [hzero] at hpwrLimit
    exact absurd hpwrLimit (by decide)

private theorem limits_pos_of_same {platform : Platform} {payload : ClkScalingPayload}
    (haccepted : payload.Accepted (ClockScaling.initial platform))
    (hreset : payload.reset = false) (henable : payload.scalingEn = true)
    (hsame : FunctionOfRequest platform payload) :
    0 < payload.tempScalingOvrdLimit ∧ 0 < payload.pwrScalingOvrdLimit := by
  have hsecond : payload.Accepted
      (vmcSetClkThrottlingOverride (overrideBoth 1 1) (ClockScaling.initial platform)) :=
    DefaultLimits.accepted ⟨rfl, rfl⟩
      ((reachable_overrideBoth platform).invariant (invariant_defaultLimits platform)) haccepted
  have heq := hsame.same _ _ (reachable_initial platform) (reachable_overrideBoth platform)
  constructor
  · by_contra hzero
    have hlimit : payload.tempScalingOvrdLimit = 0 := by simpa using hzero
    have hflag := congrArg Override.tempEnabled heq
    rw [tempEnabled_overrideAfter haccepted hreset henable hlimit,
      tempEnabled_overrideAfter hsecond hreset henable hlimit] at hflag
    exact absurd hflag (by cases platform <;> decide)
  · by_contra hzero
    have hlimit : payload.pwrScalingOvrdLimit = 0 := by simpa using hzero
    have hflag := congrArg Override.powerEnabled heq
    rw [powerEnabled_overrideAfter haccepted hreset henable hlimit,
      powerEnabled_overrideAfter hsecond hreset henable hlimit] at hflag
    exact absurd hflag (by cases platform <;> decide)

/--
The override is a function of the request exactly when the request is a reset,
disables scaling, or sends two limits that are not 0.
-/
theorem functionOfRequest_iff (platform : Platform) (payload : ClkScalingPayload)
    (haccepted : payload.Accepted (ClockScaling.initial platform))
    (hcomplete : payload.Complete) :
    FunctionOfRequest platform payload ↔
      payload.reset = true ∨ payload.scalingEn = false ∨
        (0 < payload.tempScalingOvrdLimit ∧ 0 < payload.pwrScalingOvrdLimit) := by
  rcases Bool.eq_false_or_eq_true payload.reset with hreset | hreset
  · exact iff_of_true (functionOfRequest_of_default haccepted (.inl hreset)) (.inl hreset)
  rcases Bool.eq_false_or_eq_true payload.scalingEn with henable | henable
  · have hovrd : payload.tempOvrdEn = true ∧ payload.pwrOvrdEn = true := by
      simpa [ClkScalingPayload.Complete, hreset, henable] using hcomplete
    constructor
    · intro hsame
      exact .inr (.inr (limits_pos_of_same haccepted hreset henable hsame))
    · intro hcondition
      have hlimits : 0 < payload.tempScalingOvrdLimit ∧ 0 < payload.pwrScalingOvrdLimit := by
        simpa [hreset, henable] using hcondition
      exact functionOfRequest_of_sent haccepted hreset henable hovrd.1 hovrd.2
        hlimits.1 hlimits.2
  · exact iff_of_true (functionOfRequest_of_default haccepted (.inr henable))
      (.inr (.inl henable))

theorem functionOfRequest_sent :
    FunctionOfRequest .v80 (overrideBoth 50 80) ↔
      (overrideBoth 50 80).reset = true ∨ (overrideBoth 50 80).scalingEn = false ∨
        (0 < (overrideBoth 50 80).tempScalingOvrdLimit ∧
          0 < (overrideBoth 50 80).pwrScalingOvrdLimit) :=
  functionOfRequest_iff .v80 (overrideBoth 50 80) (by decide) (.inr (.inr ⟨rfl, rfl, rfl⟩))

/-- The limit 0 keeps the temperature limit of the request before. -/
theorem not_functionOfRequest_zero :
    (overrideBoth 50 0).Accepted (ClockScaling.initial .v80) ∧ (overrideBoth 50 0).Complete ∧
      ¬ FunctionOfRequest .v80 (overrideBoth 50 0) := by
  refine ⟨by decide, .inr (.inr ⟨rfl, rfl, rfl⟩), ?_⟩
  intro h
  have heq := h.same _ _ (reachable_initial .v80) (reachable_overrideBoth .v80)
  exact absurd heq (by decide)

end Vmr.Vmc
