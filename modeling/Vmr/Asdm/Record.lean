import Vmr.Lib.Memory

/-!
# Sensor data records

`Init_Asdm` turns the metadata of a platform's sensors into the records of five
repositories.  This module has the data of both sides and the initialisation of
one record.  A pointer of the source is an `Option`, `none` for NULL; what a
copy reads past the end of its source is a parameter, `behind`.
-/

namespace Vmr.Asdm

open Vmr.Lib

/-! ## Repositories, metadata and records -/

inductive RepositoryType where
  | boardInfoSdr | temperatureSdr | voltageSdr | currentSdr | powerSdr
  deriving DecidableEq, Repr

def RepositoryType.code : RepositoryType → UInt8
  | .boardInfoSdr => 0xC0
  | .temperatureSdr => 0xC1
  | .voltageSdr => 0xC2
  | .currentSdr => 0xC3
  | .powerSdr => 0xC4

def asdmHeaderVer : UInt8 := 1
def lengthBitmask : UInt8 := 0x3F
def sensorNameMax : Nat := 30
def sensorTypeNum : UInt8 := 0x00
def sensorTypeAscii : UInt8 := 0xC0
def sensorPresentAndValid : UInt8 := 1

structure AsdmHeader where
  repositoryType : RepositoryType
  repositoryVersion : UInt8
  noOfRecords : UInt8
  noOfBytes : UInt8
  deriving DecidableEq, Repr

inductive Threshold where
  | upperWarning | upperCritical | upperFatal | lowerWarning | lowerCritical | lowerFatal
  deriving DecidableEq, Repr

def Threshold.mask : Threshold → UInt8
  | .upperWarning => 0x01
  | .upperCritical => 0x02
  | .upperFatal => 0x04
  | .lowerWarning => 0x08
  | .lowerCritical => 0x10
  | .lowerFatal => 0x20

def sensorAvgValSupport : UInt8 := 0x40
def sensorMaxValSupport : UInt8 := 0x80

abbrev Name := List UInt8

def text (s : String) : Name := s.toList.map fun c => UInt8.ofNat c.toNat

structure SensorMetaData where
  repoType : RepositoryType
  sensorName : Name
  snsrValTypeLength : UInt8
  defaultValue : Option (List UInt8)
  snsrUnitModifier : UInt8
  supportedThreshold : UInt8
  sensorInstance : UInt8
  /-- The name of an instance, where there is more than one. -/
  getSensorName : Nat → Name
  sampleCount : UInt8

structure SensorRecord where
  sensorId : UInt8
  sensorNameTypeLength : UInt8
  sensorName : Option (List UInt8)
  sensorValueTypeLength : UInt8
  sensorValue : Option (List UInt8)
  sensorBaseUnitTypeLength : UInt8
  sensorBaseUnit : Option (List UInt8)
  sensorUnitModifierByte : UInt8
  thresholdSupportByte : UInt8
  limit : Threshold → Option (List UInt8)
  sensorStatus : UInt8
  sensorMaxValue : Option (List UInt8)
  sensorAverageValue : Option (List UInt8)
  sampleCount : UInt32
  sensorInstance : UInt8

/-- An uninitialised count means one instance. -/
def SensorMetaData.totalSensorInstances (metaData : SensorMetaData) : Nat :=
  if metaData.sensorInstance ≤ 1 then 1 else metaData.sensorInstance.toNat

theorem SensorMetaData.one_le_totalSensorInstances (metaData : SensorMetaData) :
    1 ≤ metaData.totalSensorInstances := by
  unfold totalSensorInstances
  split
  · exact Nat.le_refl 1
  · rename_i h
    have hlt : 1 < metaData.sensorInstance := UInt8.not_le.1 h
    exact Nat.le_of_lt (UInt8.lt_iff_toNat_lt.1 hlt)

def lengthOf (typeLength : UInt8) : Nat := (typeLength &&& lengthBitmask).toNat

/-! ## Memory -/

/-- Why a call does not come to its end: it returns an error, an assertion fails, it reads where
there is nothing to read, or it goes round for ever. -/
inductive Stop where
  | failed | assertion | outside | endless
  deriving DecidableEq, Repr

abbrev Checked := Except Stop

theorem checked_ok_bind {α β : Type} (a : α) (f : α → Checked β) : (.ok a >>= f) = f a := rfl

theorem checked_bind_ok {α β : Type} {x : Checked α} {f : α → Checked β} {b : β}
    (h : x >>= f = .ok b) : ∃ a, x = .ok a ∧ f a = .ok b := by
  cases x with
  | error stop => cases h
  | ok a => exact ⟨a, rfl, h⟩

inductive Field where
  | sensorName | sensorValue | sensorBaseUnit | limit (threshold : Threshold)
  | sensorMaxValue | sensorAverageValue
  deriving DecidableEq, Repr

def allocate (granted : Bool) : Checked Unit :=
  if granted then .ok () else .error .failed

def readBytes (behind : Memory) (source : List UInt8) (size : Nat) : List UInt8 :=
  (List.range size).map fun index => source.getD index (behind index)

@[simp] theorem length_readBytes (behind : Memory) (source : List UInt8) (size : Nat) :
    (readBytes behind source size).length = size := by
  simp [readBytes]

def secureMemcpy (behind : Memory) (dstSize : Nat) (source : Option (List UInt8))
    (srcSize : Nat) : Checked (List UInt8) :=
  match source with
  | none => .error .assertion
  | some bytes =>
      if dstSize ≠ 0 ∧ srcSize ≠ 0 ∧ srcSize ≤ dstSize then
        .ok (readBytes behind bytes srcSize)
      else .error .assertion

theorem secureMemcpy_ok {behind : Memory} {dstSize srcSize : Nat} {source : Option (List UInt8)}
    {copied : List UInt8} (h : secureMemcpy behind dstSize source srcSize = .ok copied) :
    srcSize ≠ 0 ∧ srcSize ≤ dstSize ∧ copied.length = srcSize := by
  unfold secureMemcpy at h
  split at h
  · cases h
  · split at h
    · rename_i hsize
      cases h
      exact ⟨hsize.2.1, hsize.2.2, by simp⟩
    · cases h

/-! ## One record -/

structure ThresholdRow where
  sensorName : Name
  /-- Lower warning, critical, fatal, then upper warning, critical, fatal; two bytes each. -/
  limits : List UInt8

section Record

variable (table : List ThresholdRow) (malloc : Field → Bool) (behind : Memory)

structure SensorUnit where
  sensorUnitTypeLen : UInt8
  baseUnit : Name

def sensorUnitTbl : RepositoryType → SensorUnit
  | .boardInfoSdr => ⟨0x00, text "NA"⟩
  | .temperatureSdr => ⟨0xC8, text "Celsius"⟩
  | .voltageSdr => ⟨0xC6, text "Volts"⟩
  | .currentSdr => ⟨0xC5, text "Amps"⟩
  | .powerSdr => ⟨0xC6, text "Watts"⟩

def thresholdRow (name : String) (warning critical fatal : UInt8) : ThresholdRow :=
  { sensorName := text name
    limits := [0, 0, 0, 0, 0, 0, warning, 0, critical, 0, fatal, 0] }

def thresholdsLimitTbl : List ThresholdRow :=
  [thresholdRow "PCB" 80 85 95,
    thresholdRow "device" 88 97 107,
    thresholdRow "vccint" 100 110 125,
    thresholdRow "cage_temp_0" 80 85 90,
    thresholdRow "cage_temp_1" 80 85 90,
    thresholdRow "cage_temp_2" 80 85 90,
    thresholdRow "cage_temp_3" 80 85 90]

def Threshold.offset : Threshold → Nat
  | .lowerWarning => 0
  | .lowerCritical => 2
  | .lowerFatal => 4
  | .upperWarning => 6
  | .upperCritical => 8
  | .upperFatal => 10

def sameStart (a b : Name) (size : Nat) : Bool := (a ++ [0]).take size == (b ++ [0]).take size

def shortenedLen (snsrNameLen : UInt8) : Nat := (snsrNameLen.toNat + (2 ^ 32 - 2)) % 2 ^ 32

/--
The row of a sensor is looked up by its name less the last character; where
none fits the index stays what it was.  The loop counts in eight bits.
-/
def getThresholdIdx (threshIdx : Nat) (snsrName : Name) (snsrNameLen : UInt8) : Checked Nat :=
  let size := shortenedLen snsrNameLen
  if table.isEmpty then .ok threshIdx
  else if size = 0 then .error .assertion
  else match (table.take 256).findIdx? fun row => sameStart snsrName row.sensorName size with
    | some found => .ok found
    | none => if table.length < 256 then .ok threshIdx else .error .endless

def initLimit (threshIdx valueLen : Nat) (support : UInt8) (threshold : Threshold) :
    Checked (Option (List UInt8)) :=
  if support &&& threshold.mask ≠ 0 then do
    allocate (malloc (.limit threshold))
    let row := (table[threshIdx]?.map ThresholdRow.limits).getD []
    some <$> secureMemcpy behind valueLen (some (row.drop threshold.offset)) valueLen
  else return none

def initLimits (threshIdx valueLen : Nat) (support : UInt8) :
    Checked (Threshold → Option (List UInt8)) := do
  let lowerFatal ← initLimit table malloc behind threshIdx valueLen support .lowerFatal
  let lowerCritical ← initLimit table malloc behind threshIdx valueLen support .lowerCritical
  let lowerWarning ← initLimit table malloc behind threshIdx valueLen support .lowerWarning
  let upperFatal ← initLimit table malloc behind threshIdx valueLen support .upperFatal
  let upperCritical ← initLimit table malloc behind threshIdx valueLen support .upperCritical
  let upperWarning ← initLimit table malloc behind threshIdx valueLen support .upperWarning
  return fun
    | .lowerFatal => lowerFatal
    | .lowerCritical => lowerCritical
    | .lowerWarning => lowerWarning
    | .upperFatal => upperFatal
    | .upperCritical => upperCritical
    | .upperWarning => upperWarning

section Limits

variable {table malloc behind} {threshIdx valueLen : Nat} {support : UInt8}

theorem initLimit_ok {threshold : Threshold} {limit : Option (List UInt8)}
    (h : initLimit table malloc behind threshIdx valueLen support threshold = .ok limit) :
    if support &&& threshold.mask ≠ 0 then
      ∃ bytes, limit = some bytes ∧ secureMemcpy behind valueLen
        (some (((table[threshIdx]?.map ThresholdRow.limits).getD []).drop threshold.offset))
        valueLen = .ok bytes
    else limit = none := by
  unfold initLimit at h
  split at h
  · rename_i hmask
    obtain ⟨-, -, h⟩ := checked_bind_ok h
    rw [map_eq_pure_bind] at h
    obtain ⟨bytes, hbytes, h⟩ := checked_bind_ok h
    cases h
    rw [if_pos hmask]
    exact ⟨bytes, rfl, hbytes⟩
  · rename_i hmask
    cases h
    rw [if_neg hmask]

theorem initLimits_ok {limits : Threshold → Option (List UInt8)}
    (h : initLimits table malloc behind threshIdx valueLen support = .ok limits)
    (threshold : Threshold) :
    initLimit table malloc behind threshIdx valueLen support threshold =
      .ok (limits threshold) := by
  unfold initLimits at h
  obtain ⟨lowerFatal, hlowerFatal, h⟩ := checked_bind_ok h
  obtain ⟨lowerCritical, hlowerCritical, h⟩ := checked_bind_ok h
  obtain ⟨lowerWarning, hlowerWarning, h⟩ := checked_bind_ok h
  obtain ⟨upperFatal, hupperFatal, h⟩ := checked_bind_ok h
  obtain ⟨upperCritical, hupperCritical, h⟩ := checked_bind_ok h
  obtain ⟨upperWarning, hupperWarning, h⟩ := checked_bind_ok h
  cases h
  cases threshold with
  | upperWarning => exact hupperWarning
  | upperCritical => exact hupperCritical
  | upperFatal => exact hupperFatal
  | lowerWarning => exact hlowerWarning
  | lowerCritical => exact hlowerCritical
  | lowerFatal => exact hlowerFatal

end Limits

def initThresholds (repo : RepositoryType) (snsrName : Name) (snsrNameLen : UInt8)
    (valueLen : Nat) (support : UInt8) (threshIdx : Nat) :
    Checked ((Threshold → Option (List UInt8)) × Nat) := do
  if repo = .boardInfoSdr then
    return (fun _ => none, threshIdx)
  else
    let threshIdx ← getThresholdIdx table threshIdx snsrName snsrNameLen
    let limits ← initLimits table malloc behind threshIdx valueLen support
    return (limits, threshIdx)

def initDynamic (field : Field) (sampleCount : UInt8) (valueLen : Nat) :
    Checked (Option (List UInt8)) :=
  if 0 < sampleCount then do
    allocate (malloc field)
    return some (List.replicate valueLen 0)
  else return none

/-- The voltage of `vccint` has four bytes, whatever its metadata says. -/
def valueTypeLength (repo : RepositoryType) (snsrName : Name) (metaData : SensorMetaData) :
    UInt8 :=
  if repo = .voltageSdr ∧ snsrName = text "vccint" then sensorTypeNum ||| 4
  else metaData.snsrValTypeLength

def initValue (metaData : SensorMetaData) (valueLen : Nat) : Checked (List UInt8) := do
  allocate (malloc .sensorValue)
  match metaData.defaultValue with
  | none => return List.replicate valueLen 0
  | some value => secureMemcpy behind valueLen (some value) valueLen

def initBaseUnit (repo : RepositoryType) : Checked (Option (List UInt8)) :=
  let unit := sensorUnitTbl repo
  if unit.sensorUnitTypeLen ≠ 0 then do
    allocate (malloc .sensorBaseUnit)
    let size := lengthOf unit.sensorUnitTypeLen
    some <$> secureMemcpy behind size (some (unit.baseUnit ++ [0])) size
  else return none

def initRecord (repo : RepositoryType) (metaData : SensorMetaData) (idx sensorInstance : Nat)
    (threshIdx : Nat) : Checked (SensorRecord × Nat) := do
  let name := if 1 < metaData.totalSensorInstances then metaData.getSensorName sensorInstance
    else metaData.sensorName
  let snsrNameLen := UInt8.ofNat (name.length + 1)
  allocate (malloc .sensorName)
  let sensorName ← secureMemcpy behind sensorNameMax (some (name ++ [0])) snsrNameLen.toNat
  let typeLength := valueTypeLength repo name metaData
  let valueLen := lengthOf typeLength
  let sensorValue ← initValue malloc behind metaData valueLen
  let sensorBaseUnit ← initBaseUnit malloc behind repo
  let (limit, threshIdx) ← initThresholds table malloc behind repo name snsrNameLen valueLen
    metaData.supportedThreshold threshIdx
  let sensorMaxValue ← initDynamic malloc .sensorMaxValue metaData.sampleCount valueLen
  let sensorAverageValue ← initDynamic malloc .sensorAverageValue metaData.sampleCount valueLen
  return (
    { sensorId := UInt8.ofNat (idx + 1)
      sensorNameTypeLength := sensorTypeAscii ||| (snsrNameLen &&& lengthBitmask)
      sensorName := some sensorName
      sensorValueTypeLength := typeLength
      sensorValue := some sensorValue
      sensorBaseUnitTypeLength := (sensorUnitTbl repo).sensorUnitTypeLen
      sensorBaseUnit
      sensorUnitModifierByte := metaData.snsrUnitModifier
      thresholdSupportByte := metaData.supportedThreshold
      limit
      sensorStatus := sensorPresentAndValid
      sensorMaxValue
      sensorAverageValue
      sampleCount := metaData.sampleCount.toUInt32
      sensorInstance := UInt8.ofNat sensorInstance }, threshIdx)

end Record

end Vmr.Asdm
