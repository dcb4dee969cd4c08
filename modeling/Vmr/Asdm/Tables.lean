import Vmr.Asdm.Construction
import Mathlib.Data.List.Forall2

/-!
# The tables an initialisation builds

Behind a successful `Init_Asdm` every repository has all its records, and a
record has the fields its own bytes announce, save two: board information has
no limits, whatever its threshold byte says, and a static sensor has neither
maximum nor average.
-/

namespace Vmr.Asdm

open Vmr.Lib

def Copyable (source : Option (List UInt8)) (size : Nat) : Prop :=
  size ≠ 0 ∧ ∃ bytes, source = some bytes ∧ size ≤ bytes.length

def SensorRecord.valueLen (record : SensorRecord) : Nat := lengthOf record.sensorValueTypeLength

structure WellFormed (repo : RepositoryType) (record : SensorRecord) : Prop where
  name : Copyable record.sensorName (lengthOf record.sensorNameTypeLength)
  value : ∃ bytes, record.sensorValue = some bytes ∧ bytes.length = record.valueLen
  baseUnit : lengthOf record.sensorBaseUnitTypeLength ≠ 0 →
    Copyable record.sensorBaseUnit (lengthOf record.sensorBaseUnitTypeLength)
  limits : ∀ threshold, record.thresholdSupportByte &&& threshold.mask ≠ 0 →
    if repo = .boardInfoSdr then record.limit threshold = none
    else Copyable (record.limit threshold) record.valueLen
  maxValue : record.sensorMaxValue =
    if 0 < record.sampleCount then some (List.replicate record.valueLen 0) else none
  averageValue : record.sensorAverageValue =
    if 0 < record.sampleCount then some (List.replicate record.valueLen 0) else none

theorem lengthOf_name {length : UInt8} (h : length.toNat ≤ sensorNameMax) :
    lengthOf (sensorTypeAscii ||| (length &&& lengthBitmask)) = length.toNat := by
  have hsmall : ∀ n ≤ sensorNameMax,
      lengthOf (sensorTypeAscii ||| (UInt8.ofNat n &&& lengthBitmask)) = n := by
    decide
  have heq := hsmall length.toNat h
  rwa [UInt8.ofNat_toNat] at heq

private theorem initLimit_copyable {table : List ThresholdRow} {malloc : Field → Bool}
    {behind : Memory} {threshIdx valueLen : Nat} {support : UInt8} {threshold : Threshold} {limit : Option (List UInt8)}
    (h : initLimit table malloc behind threshIdx valueLen support threshold = .ok limit)
    (hsupport : support &&& threshold.mask ≠ 0) : Copyable limit valueLen := by
  have hlimit := initLimit_ok h
  rw [if_pos hsupport] at hlimit
  obtain ⟨bytes, rfl, hbytes⟩ := hlimit
  obtain ⟨hsize, -, hlength⟩ := secureMemcpy_ok hbytes
  exact ⟨hsize, bytes, rfl, Nat.le_of_eq hlength.symm⟩

private theorem initLimits_copyable {table : List ThresholdRow} {malloc : Field → Bool}
    {behind : Memory} {threshIdx valueLen : Nat} {support : UInt8} {limits : Threshold → Option (List UInt8)}
    (h : initLimits table malloc behind threshIdx valueLen support = .ok limits)
    (threshold : Threshold) (hsupport : support &&& threshold.mask ≠ 0) :
    Copyable (limits threshold) valueLen :=
  initLimit_copyable (initLimits_ok h threshold) hsupport

private theorem initThresholds_limits {table : List ThresholdRow} {malloc : Field → Bool}
    {behind : Memory} {repo : RepositoryType} {name : Name} {nameLen : UInt8} {valueLen threshIdx threshIdx' : Nat} {support : UInt8}
    {limits : Threshold → Option (List UInt8)}
    (h : initThresholds table malloc behind repo name nameLen valueLen support threshIdx =
      .ok (limits, threshIdx'))
    (threshold : Threshold) (hsupport : support &&& threshold.mask ≠ 0) :
    if repo = .boardInfoSdr then limits threshold = none
    else Copyable (limits threshold) valueLen := by
  unfold initThresholds at h
  split at h
  · rename_i hrepo
    cases h
    rw [if_pos hrepo]
  · rename_i hrepo
    obtain ⟨found, -, h⟩ := checked_bind_ok h
    obtain ⟨limits', hlimits, h⟩ := checked_bind_ok h
    cases h
    rw [if_neg hrepo]
    exact initLimits_copyable hlimits threshold hsupport

private theorem initDynamic_eq {malloc : Field → Bool} {field : Field} {sampleCount : UInt8}
    {valueLen : Nat} {value : Option (List UInt8)}
    (h : initDynamic malloc field sampleCount valueLen = .ok value) :
    value = if 0 < sampleCount.toUInt32 then some (List.replicate valueLen 0) else none := by
  have hcount : 0 < sampleCount.toUInt32 ↔ 0 < sampleCount := by
    simp [UInt32.lt_iff_toNat_lt, UInt8.lt_iff_toNat_lt]
  simp only [hcount]
  unfold initDynamic at h
  split at h
  · rename_i hpos
    obtain ⟨-, -, h⟩ := checked_bind_ok h
    cases h
    rw [if_pos hpos]
  · rename_i hzero
    cases h
    rw [if_neg hzero]

theorem initValue_length {malloc : Field → Bool} {behind : Memory} {metaData : SensorMetaData}
    {valueLen : Nat} {value : List UInt8}
    (h : initValue malloc behind metaData valueLen = .ok value) : value.length = valueLen := by
  unfold initValue at h
  obtain ⟨-, -, h⟩ := checked_bind_ok h
  split at h
  · cases h
    simp
  · exact (secureMemcpy_ok h).2.2

private theorem initBaseUnit_copyable {malloc : Field → Bool} {behind : Memory}
    {repo : RepositoryType}
    {baseUnit : Option (List UInt8)} (h : initBaseUnit malloc behind repo = .ok baseUnit)
    (hlength : lengthOf (sensorUnitTbl repo).sensorUnitTypeLen ≠ 0) :
    Copyable baseUnit (lengthOf (sensorUnitTbl repo).sensorUnitTypeLen) := by
  unfold initBaseUnit at h
  simp only at h
  split at h
  · obtain ⟨-, -, h⟩ := checked_bind_ok h
    rw [map_eq_pure_bind] at h
    obtain ⟨bytes, hbytes, h⟩ := checked_bind_ok h
    cases h
    exact ⟨hlength, bytes, rfl, Nat.le_of_eq (secureMemcpy_ok hbytes).2.2.symm⟩
  · rename_i hzero
    rw [not_not.1 hzero] at hlength
    exact absurd rfl hlength

theorem initRecord_wellFormed {table : List ThresholdRow} {malloc : Field → Bool}
    {behind : Memory} {repo : RepositoryType} {metaData : SensorMetaData} {idx sensorInstance threshIdx threshIdx' : Nat}
    {record : SensorRecord}
    (h : initRecord table malloc behind repo metaData idx sensorInstance threshIdx =
      .ok (record, threshIdx')) : WellFormed repo record := by
  obtain ⟨name, value, baseUnit, limits, maxValue, averageValue, hname, hvalue, hbaseUnit, hlimits,
    hmaxValue, haverageValue, rfl⟩ := initRecord_ok h
  obtain ⟨hnameLen, hmax, hlength⟩ := secureMemcpy_ok hname
  constructor
  · refine ⟨?_, name, rfl, ?_⟩ <;> rw [lengthOf_name hmax]
    · exact hnameLen
    · exact Nat.le_of_eq hlength.symm
  · exact ⟨value, rfl, initValue_length hvalue⟩
  · exact initBaseUnit_copyable hbaseUnit
  · exact initThresholds_limits hlimits
  · exact initDynamic_eq hmaxValue
  · exact initDynamic_eq haverageValue

/-! ## Repositories -/

structure Complete (header : AsdmHeader) (sdr : Sdr) : Prop where
  repositoryType : sdr.header.repositoryType = header.repositoryType
  length : sdr.sensorRecord.length = sdr.header.noOfRecords.toNat
  wellFormed : ∀ record ∈ sdr.sensorRecord, WellFormed header.repositoryType record
  asdmEor : sdr.asdmEor = text "END" ++ [0]

section Init

variable {table : List ThresholdRow} {malloc : Allocation → Bool} {behind : Memory}

private theorem initInstances_wellFormed {repo : Nat} {repoType : RepositoryType} {entry : Nat}
    {metaData : SensorMetaData} {left idx sensorInstance threshIdx threshIdx' : Nat}
    {writes : List RecordWrite}
    (h : initInstances table malloc behind repo repoType entry metaData left idx sensorInstance
      threshIdx = .ok (writes, threshIdx')) :
    writes.length = left ∧ ∀ write ∈ writes, WellFormed repoType write.record := by
  induction left generalizing idx sensorInstance threshIdx writes with
  | zero =>
      cases h
      simp
  | succ left ih =>
      obtain ⟨record, threshIdx₁, further, hrecord, hfurther, rfl⟩ := initInstances_succ h
      obtain ⟨hlength, hwellFormed⟩ := ih hfurther
      refine ⟨congrArg Nat.succ hlength, fun write hmem => ?_⟩
      rcases List.mem_cons.1 hmem with rfl | hmem
      · exact initRecord_wellFormed hrecord
      · exact hwellFormed write hmem

theorem initRepository_wellFormed {repo : Nat} {repoType : RepositoryType}
    {metaData : Nat → SensorMetaData} {noOfRecords rounds idx entry entry' : Nat}
    {threshIdx threshIdx' : Nat} {writes : List RecordWrite}
    (hrounds : noOfRecords ≤ idx + rounds)
    (h : initRepository table malloc behind repo repoType metaData noOfRecords rounds idx entry
      threshIdx = .ok (writes, entry', threshIdx')) :
    noOfRecords ≤ idx + writes.length ∧ ∀ write ∈ writes, WellFormed repoType write.record := by
  induction rounds generalizing idx entry threshIdx writes with
  | zero =>
      cases h
      exact ⟨hrounds, by simp⟩
  | succ rounds ih =>
      rcases initRepository_succ h with ⟨-, first, threshIdx₁, further, hfirst, hfurther, rfl⟩ |
        ⟨hidx, rfl, rfl, rfl⟩
      · obtain ⟨hlength, hwellFormed⟩ := initInstances_wellFormed hfirst
        have hone := (metaData entry).one_le_totalSensorInstances
        obtain ⟨henough, hrest⟩ := ih (by omega) hfurther
        refine ⟨by rw [List.length_append]; omega, fun write hmem => ?_⟩
        rcases List.mem_append.1 hmem with hmem | hmem
        · exact hwellFormed write hmem
        · exact hrest write hmem
      · exact ⟨hidx, by simp⟩

private theorem initRepositories_complete {metaData : Nat → SensorMetaData}
    {headers : List AsdmHeader}
    {sdrCount entry threshIdx : Nat} {sdrs : List Sdr} {writes : List RecordWrite}
    (h : initRepositories table malloc behind metaData headers sdrCount entry threshIdx =
      .ok (sdrs, writes)) : List.Forall₂ Complete headers sdrs := by
  induction headers generalizing sdrCount entry threshIdx sdrs writes with
  | nil =>
      cases h
      exact .nil
  | cons header headers ih =>
      obtain ⟨first, entry₁, threshIdx₁, sdrs', further, hfirst, hfurther, rfl, rfl⟩ :=
        initRepositories_cons h
      obtain ⟨henough, hwellFormed⟩ := initRepository_wellFormed (by simp) hfirst
      refine .cons ⟨rfl, ?_, fun record hmem => ?_, rfl⟩ (ih hfurther)
      · rw [Nat.zero_add] at henough
        simpa [sdrOf, List.length_take] using Nat.min_eq_left henough
      · obtain ⟨write, hwrite, rfl⟩ := List.mem_map.1 (List.mem_of_mem_take hmem)
        exact hwellFormed write hwrite

theorem initAsdm_complete {headers : List AsdmHeader} {metaData : List SensorMetaData}
    {beyond : Nat → SensorMetaData} {sdrs : List Sdr} {writes : List RecordWrite}
    (h : initAsdm malloc behind headers metaData beyond = .ok (sdrs, writes)) :
    List.Forall₂ Complete headers sdrs := by
  unfold initAsdm initAsdmIn at h
  obtain ⟨-, -, h⟩ := checked_bind_ok h
  obtain ⟨-, -, h⟩ := checked_bind_ok h
  exact initRepositories_complete h

end Init

/-! ## What a record was made from -/

/-- The index of the thresholds lies in the table, unless the table is empty. -/
def IndexIn (table : List ThresholdRow) (threshIdx : Nat) : Prop :=
  table ≠ [] → threshIdx < table.length

/-- The record of a write is the one of its source, behind some record before it. -/
def Made (table : List ThresholdRow) (malloc : Allocation → Bool) (behind : Memory)
    (repoType : RepositoryType) (metaData : Nat → SensorMetaData) (write : RecordWrite) : Prop :=
  ∃ threshIdx threshIdx', IndexIn table threshIdx ∧
    initRecord table (fun field => malloc (.field write.repo write.idx field)) behind repoType
      (metaData write.entry) write.idx write.sensorInstance threshIdx =
        .ok (write.record, threshIdx')

section Made

variable {table : List ThresholdRow}

theorem getThresholdIdx_in {threshIdx threshIdx' : Nat} {name : Name} {nameLen : UInt8}
    (h : getThresholdIdx table threshIdx name nameLen = .ok threshIdx')
    (hindex : IndexIn table threshIdx) : IndexIn table threshIdx' := by
  unfold getThresholdIdx at h
  simp only at h
  split at h
  · cases h
    exact hindex
  · split at h
    · cases h
    · split at h
      · rename_i found hfound
        cases h
        obtain ⟨hlt, -⟩ := List.findIdx?_eq_some_iff_getElem.1 hfound
        rw [List.length_take] at hlt
        exact fun _ => by omega
      · split at h
        · cases h
          exact hindex
        · cases h

private theorem initRecord_in {malloc : Field → Bool} {behind : Memory} {repo : RepositoryType}
    {metaData : SensorMetaData} {idx sensorInstance threshIdx threshIdx' : Nat}
    {record : SensorRecord}
    (h : initRecord table malloc behind repo metaData idx sensorInstance threshIdx =
      .ok (record, threshIdx')) (hindex : IndexIn table threshIdx) : IndexIn table threshIdx' := by
  obtain ⟨name, value, baseUnit, limits, maxValue, averageValue, -, -, -, hlimits, -, -, rfl⟩ :=
    initRecord_ok h
  unfold initThresholds at hlimits
  split at hlimits
  · cases hlimits
    exact hindex
  · obtain ⟨found, hfound, hlimits⟩ := checked_bind_ok hlimits
    obtain ⟨limits', -, hlimits⟩ := checked_bind_ok hlimits
    cases hlimits
    exact getThresholdIdx_in hfound hindex

variable {malloc : Allocation → Bool} {behind : Memory} {metaData : Nat → SensorMetaData}

private theorem initInstances_made {repo : Nat} {repoType : RepositoryType} {entry : Nat}
    {left idx sensorInstance threshIdx threshIdx' : Nat} {writes : List RecordWrite}
    (h : initInstances table malloc behind repo repoType entry (metaData entry) left idx
      sensorInstance threshIdx = .ok (writes, threshIdx')) (hindex : IndexIn table threshIdx) :
    IndexIn table threshIdx' ∧ ∀ write ∈ writes, Made table malloc behind repoType metaData write := by
  induction left generalizing idx sensorInstance threshIdx writes with
  | zero =>
      cases h
      exact ⟨hindex, by simp⟩
  | succ left ih =>
      obtain ⟨record, threshIdx₁, further, hrecord, hfurther, rfl⟩ := initInstances_succ h
      obtain ⟨hlast, hmade⟩ := ih hfurther (initRecord_in hrecord hindex)
      refine ⟨hlast, fun write hmem => ?_⟩
      rcases List.mem_cons.1 hmem with rfl | hmem
      · exact ⟨threshIdx, threshIdx₁, hindex, hrecord⟩
      · exact hmade write hmem

theorem initRepository_made {repo : Nat} {repoType : RepositoryType}
    {noOfRecords rounds idx entry entry' threshIdx threshIdx' : Nat} {writes : List RecordWrite}
    (h : initRepository table malloc behind repo repoType metaData noOfRecords rounds idx entry
      threshIdx = .ok (writes, entry', threshIdx')) (hindex : IndexIn table threshIdx) :
    IndexIn table threshIdx' ∧ ∀ write ∈ writes, Made table malloc behind repoType metaData write := by
  induction rounds generalizing idx entry threshIdx writes with
  | zero =>
      cases h
      exact ⟨hindex, by simp⟩
  | succ rounds ih =>
      rcases initRepository_succ h with ⟨-, first, threshIdx₁, further, hfirst, hfurther, rfl⟩ |
        ⟨-, rfl, rfl, rfl⟩
      · obtain ⟨hmiddle, hfirstMade⟩ := initInstances_made hfirst hindex
        obtain ⟨hlast, hfurtherMade⟩ := ih hfurther hmiddle
        exact ⟨hlast, List.forall_mem_append.2 ⟨hfirstMade, hfurtherMade⟩⟩
      · exact ⟨hindex, by simp⟩

private theorem initRepositories_made {headers : List AsdmHeader} {sdrCount entry threshIdx : Nat}
    {sdrs : List Sdr} {writes : List RecordWrite}
    (h : initRepositories table malloc behind metaData headers sdrCount entry threshIdx =
      .ok (sdrs, writes)) (hindex : IndexIn table threshIdx) :
    ∀ write ∈ writes, ∃ position header, headers[position]? = some header ∧
      write.repo = sdrCount + position ∧
      Made table malloc behind header.repositoryType metaData write := by
  induction headers generalizing sdrCount entry threshIdx sdrs writes with
  | nil =>
      cases h
      simp
  | cons header headers ih =>
      obtain ⟨first, entry₁, threshIdx₁, sdrs', further, hfirst, hfurther, rfl, rfl⟩ :=
        initRepositories_cons h
      obtain ⟨hnext, hmade⟩ := initRepository_made hfirst hindex
      refine List.forall_mem_append.2 ⟨fun write hmem => ?_, fun write hmem => ?_⟩
      · exact ⟨0, header, rfl, (initRepository_filled (by simp) hfirst).repo write hmem,
          hmade write hmem⟩
      · obtain ⟨position, header', hheader, hrepo, hwrite⟩ := ih hfurther hnext write hmem
        exact ⟨position + 1, header', by simpa using hheader, by omega, hwrite⟩

/-- Every record is made from an entry of the list, for the type of its repository. -/
theorem initAsdmIn_made {headers : List AsdmHeader} {list : List SensorMetaData}
    {beyond : Nat → SensorMetaData} {sdrs : List Sdr} {writes : List RecordWrite}
    (h : initAsdmIn table malloc behind headers list beyond = .ok (sdrs, writes)) :
    ∀ write ∈ writes, ∃ header, headers[write.repo]? = some header ∧
      Made table malloc behind header.repositoryType
        (fun entry => list.getD entry (beyond entry)) write := by
  unfold initAsdmIn at h
  obtain ⟨-, -, h⟩ := checked_bind_ok h
  obtain ⟨-, -, h⟩ := checked_bind_ok h
  intro write hmem
  obtain ⟨position, header, hheader, hrepo, hmade⟩ :=
    initRepositories_made h List.length_pos_iff.2 write hmem
  rw [Nat.zero_add] at hrepo
  exact ⟨header, hrepo ▸ hheader, hmade⟩

end Made

end Vmr.Asdm
