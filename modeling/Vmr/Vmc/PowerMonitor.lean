import Vmr.Lib.Runs

/-!
# Power at the critical limit

Every 100 ms a monitor compares the power of the supply rails with their
critical limits, and a rail that stays at its limit for a second has the user
clocks shut down.  A counter is at one when the monitor starts and behind a
shutdown, but at zero behind a sample below the limit.

Readings and powers are of single precision, and what is between them is of
double precision.
-/

namespace Vmr.Vmc

open Vmr.Lib Float.Model

def maxCountToWait1Sec : UInt8 := 10
def powerMode300W : UInt8 := 3

/-! ## Single and double precision -/

def roundedTo (format : Format) : UnpackedFloat → UnpackedFloat
  | .finite sign mantissa exponent _ => UnpackedFloat.round format sign mantissa exponent
  | special => special

def toDouble (x : Float32) : Float := .ofModel (.pack (roundedTo .binary64 x.toModel.unpack))

def toSingle (x : Float) : Float32 := .ofModel (.pack (roundedTo .binary32 x.toModel.unpack))

def reaches (limit : Float) (power : Float32) : Bool := limit ≤ toDouble power

def below (limit : Float) (power : Float32) : Bool := toDouble power < limit

/-! ## The counters -/

/-- What every counter makes of a sample, and whether it calls `ucs_clock_shutdown`. -/
def criticalPower (exceeded harmless : Bool) (count : UInt8) : Bool × UInt8 :=
  if exceeded = true then
    if count = maxCountToWait1Sec then (true, 0 + 1) else (false, count + 1)
  else if count ≠ 0 ∧ harmless = true then (false, 0)
  else (false, count)

private theorem criticalPower_eq {count : UInt8} (h : count.toNat ≤ 10) {exceeded harmless : Bool}
    (hvalid : (exceeded || harmless) = true) :
    (criticalPower exceeded harmless count).1 = (countStep 10 exceeded count.toNat).1 ∧
      (criticalPower exceeded harmless count).2.toNat = (countStep 10 exceeded count.toNat).2 := by
  have hfull : count = maxCountToWait1Sec ↔ count.toNat = 10 := UInt8.toNat_inj.symm
  cases exceeded with
  | false =>
      have hharmless : harmless = true := by simpa using hvalid
      by_cases hzero : count = 0 <;> simp [criticalPower, countStep, hzero, hharmless]
  | true =>
      by_cases hcount : count.toNat = 10
      · simp [criticalPower, countStep, hfull, hcount]
      · have hadd : (count + 1).toNat = count.toNat + 1 := by
          rw [UInt8.toNat_add, UInt8.toNat_one]
          omega
        simp [criticalPower, countStep, hfull, hcount, hadd]

private theorem criticalPower_rests {exceeded harmless : Bool}
    (hvalid : (exceeded || harmless) = false)
    (count : UInt8) : (criticalPower exceeded harmless count).2 = count := by
  obtain ⟨rfl, rfl⟩ := Bool.or_eq_false_iff.1 hvalid
  simp [criticalPower]

/-! ## The V80 and the V70 -/

structure PexReadings where
  voltage12vPex : Float32
  current12vPex : Float32
  voltage3v3Pex : Float32
  current3v3Pex : Float32

namespace PexReadings

def power12vPex (readings : PexReadings) : Float32 :=
  toSingle (toDouble readings.current12vPex / 1000.0 * (toDouble readings.voltage12vPex / 1000.0))

def power3v3Pex (readings : PexReadings) : Float32 :=
  toSingle (toDouble readings.current3v3Pex / 1000.0 * (toDouble readings.voltage3v3Pex / 1000.0))

end PexReadings

structure PexMonitor where
  totalPower : Float32
  count12vpex : UInt8
  count3v3pex : UInt8

def PexMonitor.initial : PexMonitor := ⟨0.0, 1, 1⟩

structure PexShutdown where
  pex12v : Bool
  pex3v3 : Bool
  deriving DecidableEq, Repr

def pexPowerMonitor (critical12v critical3v3 : Float) (s : PexMonitor) (readings : PexReadings) :
    PexShutdown × PexMonitor :=
  let power12vPex := readings.power12vPex
  let power3v3Pex := readings.power3v3Pex
  let pex12v := criticalPower (reaches critical12v power12vPex) (below critical12v power12vPex)
    s.count12vpex
  let pex3v3 := criticalPower (reaches critical3v3 power3v3Pex) (below critical3v3 power3v3Pex)
    s.count3v3pex
  (⟨pex12v.1, pex3v3.1⟩,
    { totalPower :=
        -- a rail at zero is one whose sensor could not be read
        if power12vPex == 0.0 || power3v3Pex == 0.0 then 0.0 else power12vPex + power3v3Pex
      count12vpex := pex12v.2
      count3v3pex := pex3v3.2 })

def v80Power12vpexCriticalThreshold : Float := 69.000
def v80Power3v3pexCriticalThreshold : Float := 10.400

def vV80PowerMonitor : PexMonitor → PexReadings → PexShutdown × PexMonitor :=
  pexPowerMonitor v80Power12vpexCriticalThreshold v80Power3v3pexCriticalThreshold

section Pex

variable (critical12v critical3v3 : Float)

def classified12vPex (readings : PexReadings) : Bool :=
  reaches critical12v readings.power12vPex || below critical12v readings.power12vPex

def classified3v3Pex (readings : PexReadings) : Bool :=
  reaches critical3v3 readings.power3v3Pex || below critical3v3 readings.power3v3Pex

private theorem counts_pex12v :
    Counts 10 (pexPowerMonitor critical12v critical3v3) (classified12vPex critical12v)
      (fun readings => reaches critical12v readings.power12vPex)
      (fun s => s.count12vpex.toNat) PexShutdown.pex12v where
  takes _ _ hle hvalid := criticalPower_eq hle hvalid
  rests s _ hvalid := congrArg UInt8.toNat (criticalPower_rests hvalid s.count12vpex)

private theorem counts_pex3v3 :
    Counts 10 (pexPowerMonitor critical12v critical3v3) (classified3v3Pex critical3v3)
      (fun readings => reaches critical3v3 readings.power3v3Pex)
      (fun s => s.count3v3pex.toNat) PexShutdown.pex3v3 where
  takes _ _ hle hvalid := criticalPower_eq hle hvalid
  rests s _ hvalid := congrArg UInt8.toNat (criticalPower_rests hvalid s.count3v3pex)

end Pex

namespace V70

def power12vpexCriticalThreshold : Float := 69.000
def power3v3pexCriticalThreshold : Float := 10.400

def v70PowerMonitor : PexMonitor → PexReadings → PexShutdown × PexMonitor :=
  pexPowerMonitor power12vpexCriticalThreshold power3v3pexCriticalThreshold

end V70

/-! ## The VCK5000 -/

/-- The power mode and the readings the satellite controller has sent last. -/
structure Vck5000Readings where
  powerMode : UInt8
  pex12v : UInt16
  pex12vIIn : UInt16
  aux12v : UInt16
  v12InAux0I : UInt16
  aux1_12v : UInt16
  v12InAux1I : UInt16
  deriving DecidableEq, Repr

namespace Vck5000

def power12vpexCriticalThreshold : Float := 69.000
def power12vaux2x3CriticalThreshold : Float := 78.000
def power12vaux2x4CriticalThreshold : Float := 153.000

def power (millivolts milliamperes : UInt16) : Float32 :=
  toSingle (millivolts.toFloat / 1000.0 * milliamperes.toFloat / 1000.0)

structure Monitor where
  totalPower : Float32
  count12vpex : UInt8
  count12vaux2x4_2x3 : UInt8
  count12vaux2x4 : UInt8

def Monitor.initial : Monitor := ⟨0.0, 1, 1, 1⟩

structure Shutdown where
  pex12v : Bool
  aux : Bool
  deriving DecidableEq, Repr

def vck5000PowerMonitor (s : Monitor) (readings : Vck5000Readings) : Shutdown × Monitor :=
  let pexPower := power readings.pex12v readings.pex12vIIn
  let aux0Power := power readings.aux12v readings.v12InAux0I
  let aux1Power := power readings.aux1_12v readings.v12InAux1I
  let totalPower := pexPower + aux0Power + aux1Power
  let pex12v := criticalPower (reaches power12vpexCriticalThreshold pexPower)
    (below power12vpexCriticalThreshold pexPower) s.count12vpex
  -- a connector of its own has each mode, and the counter of the other one rests
  if readings.powerMode = powerMode300W then
    let aux := criticalPower
      (reaches power12vaux2x4CriticalThreshold aux0Power ||
        reaches power12vaux2x3CriticalThreshold aux1Power)
      (below power12vaux2x4CriticalThreshold aux0Power &&
        below power12vaux2x3CriticalThreshold aux1Power)
      s.count12vaux2x4_2x3
    (⟨pex12v.1, aux.1⟩, ⟨totalPower, pex12v.2, aux.2, s.count12vaux2x4⟩)
  else
    let aux := criticalPower (reaches power12vaux2x4CriticalThreshold aux0Power)
      (below power12vaux2x4CriticalThreshold aux0Power) s.count12vaux2x4
    (⟨pex12v.1, aux.1⟩, ⟨totalPower, pex12v.2, s.count12vaux2x4_2x3, aux.2⟩)

/-! ## Who counts what -/

def over12vPex (readings : Vck5000Readings) : Bool :=
  reaches power12vpexCriticalThreshold (power readings.pex12v readings.pex12vIIn)

def overAux0 (readings : Vck5000Readings) : Bool :=
  reaches power12vaux2x4CriticalThreshold (power readings.aux12v readings.v12InAux0I)

/-- The 2x3 connector is in use at 300 W only. -/
def overAux1 (readings : Vck5000Readings) : Bool :=
  readings.powerMode == powerMode300W &&
    reaches power12vaux2x3CriticalThreshold (power readings.aux1_12v readings.v12InAux1I)

def overAux (readings : Vck5000Readings) : Bool := overAux0 readings || overAux1 readings

def bothAux (readings : Vck5000Readings) : Bool := readings.powerMode == powerMode300W

def classified12vPex (readings : Vck5000Readings) : Bool :=
  over12vPex readings ||
    below power12vpexCriticalThreshold (power readings.pex12v readings.pex12vIIn)

def harmlessAux (readings : Vck5000Readings) : Bool :=
  below power12vaux2x4CriticalThreshold (power readings.aux12v readings.v12InAux0I) &&
    (!bothAux readings ||
      below power12vaux2x3CriticalThreshold (power readings.aux1_12v readings.v12InAux1I))

def classifiedAux (readings : Vck5000Readings) : Bool := overAux readings || harmlessAux readings

def Monitor.auxCount (s : Monitor) (both : Bool) : UInt8 :=
  if both = true then s.count12vaux2x4_2x3 else s.count12vaux2x4

private theorem aux_vck5000PowerMonitor (s : Monitor) (readings : Vck5000Readings) :
    (vck5000PowerMonitor s readings).1.aux = (criticalPower (overAux readings) (harmlessAux readings)
        (s.auxCount (bothAux readings))).1 ∧
      ∀ both, (vck5000PowerMonitor s readings).2.auxCount both =
        if both = bothAux readings then (criticalPower (overAux readings) (harmlessAux readings)
          (s.auxCount both)).2 else s.auxCount both := by
  by_cases hmode : readings.powerMode = powerMode300W
  · have hboth : bothAux readings = true := by simp [bothAux, hmode]
    refine ⟨?_, fun both => ?_⟩
    · simp [vck5000PowerMonitor, Monitor.auxCount, overAux, overAux0, overAux1, harmlessAux, hmode,
        hboth]
    · cases both <;> simp [vck5000PowerMonitor, Monitor.auxCount, overAux, overAux0, overAux1,
        harmlessAux, hmode, hboth]
  · have hboth : bothAux readings = false := by simp [bothAux, hmode]
    have hone : (readings.powerMode == powerMode300W) = false := by simp [hmode]
    refine ⟨?_, fun both => ?_⟩
    · simp [vck5000PowerMonitor, Monitor.auxCount, overAux, overAux0, overAux1, harmlessAux, hmode,
        hone, hboth]
    · cases both <;> simp [vck5000PowerMonitor, Monitor.auxCount, overAux, overAux0, overAux1,
        harmlessAux, hmode, hone, hboth]

private theorem counts_pex12v :
    Counts 10 vck5000PowerMonitor classified12vPex over12vPex
      (fun s => s.count12vpex.toNat) Shutdown.pex12v where
  takes s readings hle hvalid := by
    have h := criticalPower_eq hle hvalid
    unfold vck5000PowerMonitor
    split <;> exact h
  rests s readings hvalid := by
    have h := criticalPower_rests hvalid s.count12vpex
    unfold vck5000PowerMonitor
    split <;> exact congrArg UInt8.toNat h

private theorem counts_aux (both : Bool) :
    Counts 10 vck5000PowerMonitor (fun readings => classifiedAux readings && bothAux readings == both)
      overAux (fun s => (s.auxCount both).toNat) Shutdown.aux where
  takes s readings hle hchosen := by
    rw [Bool.and_eq_true, beq_iff_eq] at hchosen
    obtain ⟨hvalid, rfl⟩ := hchosen
    obtain ⟨hcall, hcount⟩ := aux_vck5000PowerMonitor s readings
    rw [hcall, hcount, if_pos rfl]
    exact criticalPower_eq hle hvalid
  rests s readings hchosen := by
    rw [(aux_vck5000PowerMonitor s readings).2]
    split
    next hmode =>
      have hvalid : classifiedAux readings = false := by simpa [hmode] using hchosen
      exact congrArg UInt8.toNat (criticalPower_rests hvalid _)
    next => rfl

/-! ## The calls -/

def shutsDown (rail : Shutdown → Bool) (readings : Vck5000Readings)
    (earlier : List Vck5000Readings) : Bool :=
  rail (outputAt vck5000PowerMonitor .initial readings earlier)

/-- A call is for the connectors that are at their limit. -/
def shutsDownAux (atLimit : Vck5000Readings → Bool) (readings : Vck5000Readings)
    (earlier : List Vck5000Readings) : Bool :=
  atLimit readings && shutsDown Shutdown.aux readings earlier

/-- The two counters keep step with the runs of both connectors. -/
def AuxInStep (history : List Vck5000Readings) : Prop :=
  InStep 10 vck5000PowerMonitor .initial bothAux (fun both s => (s.auxCount both).toNat) overAux
    history

private theorem debounced_aux {history : List Vck5000Readings} (hstep : AuxInStep history)
    (hvalid : ∀ readings ∈ history, classifiedAux readings = true)
    {atLimit : Vck5000Readings → Bool} (hleads : Leads atLimit overAux history)
    (hlimit : ∀ readings, atLimit readings = true → overAux readings = true) :
    Debounced 10 atLimit (shutsDownAux atLimit) history :=
  (InStep.debounced counts_aux (by decide) (fun both => by cases both <;> rfl) hstep
    hvalid).of_leads hleads hlimit

end Vck5000

/-! ## One second at the limit -/

def PexMonitor.shutsDown (monitor : PexMonitor → PexReadings → PexShutdown × PexMonitor)
    (rail : PexShutdown → Bool) (readings : PexReadings) (earlier : List PexReadings) : Bool :=
  rail (outputAt monitor .initial readings earlier)

def V80.over12vPex (readings : PexReadings) : Bool :=
  reaches v80Power12vpexCriticalThreshold readings.power12vPex

def V80.over3v3Pex (readings : PexReadings) : Bool :=
  reaches v80Power3v3pexCriticalThreshold readings.power3v3Pex

def V70.over12vPex (readings : PexReadings) : Bool :=
  reaches power12vpexCriticalThreshold readings.power12vPex

def V70.over3v3Pex (readings : PexReadings) : Bool :=
  reaches power3v3pexCriticalThreshold readings.power3v3Pex

/-- A counter that takes every sample is a debouncer unless a run of ten is behind a dip. -/
theorem debounced_iff_of_counts {σ α β : Type} {step : σ → α → β × σ} {valid held : α → Bool}
    {count : σ → Nat} {output : β → Bool} (h : Counts 10 step valid held count output) {init : σ}
    (hinit : count init = 1) {history : List α} (hvalid : ∀ sample ∈ history, valid sample = true) :
    Debounced 10 held (fun sample earlier => output (outputAt step init sample earlier)) history ↔
      ¬ CompletesBehindDip 10 held history := by
  refine debounced_iff (by decide) fun sample earlier hsuffix => ?_
  rw [h.output_outputAt (by decide) hinit (hvalid sample (hsuffix.subset List.mem_cons_self)),
    List.filter_eq_self.2 fun other hother => hvalid other (hsuffix.subset hother)]

def PexClassified (history : List PexReadings) : Prop :=
  ∀ readings ∈ history, classified12vPex 69.000 readings = true ∧
    classified3v3Pex 10.400 readings = true

def Vck5000Classified (history : List Vck5000Readings) : Prop :=
  ∀ readings ∈ history, Vck5000.classified12vPex readings = true ∧
    Vck5000.classifiedAux readings = true

def PexReadings.high : PexReadings := ⟨12000, 6000, 3300, 1000⟩

def PexReadings.low : PexReadings := ⟨12000, 1000, 3300, 1000⟩

def Vck5000Readings.drawing (powerMode : UInt8) (aux0 aux1 : UInt16) : Vck5000Readings :=
  ⟨powerMode, 12000, 1000, 12000, aux0, 12000, aux1⟩

def Vck5000Readings.twoModes : List Vck5000Readings :=
  List.replicate 10 (.drawing 2 13000 1000) ++ List.replicate 10 (.drawing powerMode300W 13000 1000)

private theorem overAux0_twoModes : ∀ readings ∈ Vck5000Readings.twoModes,
    Vck5000.overAux0 readings = true := by
  decide +kernel

/-- The last sample has not changed which of the counters stand. -/
def Vck5000.keepsCounts : List Vck5000Readings → Bool
  | sample :: previous :: earlier => decide
      (standing vck5000PowerMonitor .initial bothAux (fun both s => (s.auxCount both).toNat) sample
          (previous :: earlier) =
        standing vck5000PowerMonitor .initial bothAux (fun both s => (s.auxCount both).toNat)
          previous (previous :: earlier))
  | _ => true

private theorem auxInStep_twoModes : Vck5000.AuxInStep Vck5000Readings.twoModes where
  starts run first earlier hsuffix _ hfirst := by
    cases earlier with
    | nil =>
        rw [standing]
        exact .inl (by cases Vck5000.bothAux first <;> rfl)
    | cons previous earlier =>
        have hmem : previous ∈ Vck5000Readings.twoModes := hsuffix.subset (by simp)
        exact absurd (by simp [Vck5000.overAux, overAux0_twoModes previous hmem]) hfirst.fresh
  changes sample previous earlier hsuffix _ _ := by
    have hall : ∀ tail ∈ Vck5000Readings.twoModes.tails, Vck5000.keepsCounts tail = true := by
      decide +kernel
    exact of_decide_eq_true (hall _ ((List.mem_tails _ _).2 hsuffix))

end Vmr.Vmc
