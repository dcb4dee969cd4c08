import Vmr.Asdm.Decode
import Vmr.Asdm.Upkeep

/-!
# The size of a repository and its content

`Init_Asdm` adds up what it allocates, `Asdm_Get_Sensor_Repository` writes what
the threshold bytes announce.  Where every record announces what it has, and
every repository has the records its header counts, `Asdm_Get_SDR_Size` tells
the size up to the padding to eight bytes.
-/

namespace Vmr.Asdm

open Vmr.Lib

/-! ## Sizes of records -/

def sizeIf (support mask : UInt8) (valueLen : Nat) : Nat :=
  if support &&& mask != 0 then valueLen else 0

def announcedSize (nameLen valueLen unitLen : Nat) (support : UInt8) : Nat :=
  7 + nameLen + valueLen + unitLen +
    (thresholdOrder.map fun threshold => sizeIf support threshold.mask valueLen).sum +
    sizeIf support sensorAvgValSupport valueLen + sizeIf support sensorMaxValSupport valueLen

def SensorRecord.announcedSize (record : SensorRecord) : Nat :=
  Asdm.announcedSize (lengthOf record.sensorNameTypeLength) record.valueLen
    (lengthOf record.sensorBaseUnitTypeLength) record.thresholdSupportByte

private theorem getD_length (field : Option (List UInt8)) :
    (field.map List.length).getD 0 = (field.getD []).length := by
  cases field <;> rfl

theorem Announced.length {record : SensorRecord} {mask : UInt8} {field : Option (List UInt8)}
    (h : Announced record mask field) :
    (field.getD []).length = sizeIf record.thresholdSupportByte mask record.valueLen := by
  unfold Announced at h
  unfold sizeIf
  split at h
  · rename_i hmask
    obtain ⟨bytes, rfl, hlength⟩ := h
    rw [if_pos hmask]
    exact hlength
  · rename_i hmask
    rw [if_neg hmask, h]
    rfl

private theorem Announced.length_optionalBytes {record : SensorRecord} {mask : UInt8}
    {field : Option (List UInt8)} (h : Announced record mask field) :
    (optionalBytes (record.thresholdSupportByte &&& mask != 0) field record.valueLen).length =
      sizeIf record.thresholdSupportByte mask record.valueLen := by
  have hlength := h.length
  unfold sizeIf at hlength ⊢
  unfold optionalBytes
  split
  · rename_i hmask
    rw [if_pos hmask] at hlength
    rw [fieldBytes, ← hlength, List.take_length]
  · rfl

theorem length_fieldBytes {field : Option (List UInt8)} {size : Nat}
    (h : (field.getD []).length = size) : (fieldBytes field size).length = size := by
  rw [fieldBytes, ← h, List.take_length]

private theorem length_optionalField {field : Option (List UInt8)} {size : Nat}
    (h : (field.getD []).length = size) : (optionalBytes (size != 0) field size).length = size := by
  cases size with
  | zero => rfl
  | succ size => exact length_fieldBytes h

private theorem Consistent.length_recordBytes {record : SensorRecord} (h : Consistent record) :
    (recordBytes record).length = record.announcedSize := by
  have hlimits : (thresholdOrder.flatMap fun threshold =>
      optionalBytes (record.thresholdSupportByte &&& threshold.mask != 0) (record.limit threshold)
        record.valueLen).length = (thresholdOrder.map fun threshold =>
      sizeIf record.thresholdSupportByte threshold.mask record.valueLen).sum := by
    rw [List.length_flatMap]
    exact congrArg List.sum
      (List.map_congr_left fun threshold _ => (h.limit threshold).length_optionalBytes)
  simp only [recordBytes, List.length_append, List.length_cons, List.length_nil, hlimits,
    length_fieldBytes h.name, length_optionalField h.value, length_optionalField h.baseUnit,
    h.average.length_optionalBytes, h.maximum.length_optionalBytes, SensorRecord.announcedSize,
    announcedSize]
  omega

theorem Consistent.byteCount {record : SensorRecord} (h : Consistent record) :
    record.byteCount = record.announcedSize := by
  have hlimits : thresholdOrder.map (fun threshold => ((record.limit threshold).getD []).length) =
      thresholdOrder.map fun threshold =>
        sizeIf record.thresholdSupportByte threshold.mask record.valueLen :=
    List.map_congr_left fun threshold _ => (h.limit threshold).length
  have hvalue := h.value
  simp only [SensorRecord.byteCount, getD_length, h.name, hvalue, h.baseUnit, h.average.length,
    h.maximum.length, SensorRecord.announcedSize, announcedSize]
  rw [← hlimits]
  simp only [thresholdOrder]
  omega

/-! ## A repository of a known size -/

private theorem bytesOf_bounds {records : List SensorRecord}
    (h : 8 + (records.map SensorRecord.byteCount).sum ≤ 512) :
    (records.map SensorRecord.byteCount).sum + 3 ≤ 8 * (bytesOf records).toNat ∧
      8 * (bytesOf records).toNat < (records.map SensorRecord.byteCount).sum + 11 := by
  unfold bytesOf
  generalize (records.map SensorRecord.byteCount).sum = size at h ⊢
  have hword : (UInt16.ofNat (size + 3)).toNat = size + 3 :=
    UInt16.toNat_ofNat_of_lt' (show size + 3 < 2 ^ 16 by omega)
  generalize UInt16.ofNat (size + 3) = byteCount at hword
  have height : (8 : UInt16).toNat = 8 := rfl
  have hmod : byteCount % 8 ≤ 8 := by
    rw [UInt16.le_iff_toNat_le, UInt16.toNat_mod, height]
    omega
  have hzero : byteCount % 8 = 0 ↔ (size + 3) % 8 = 0 := by
    rw [← UInt16.toNat_inj, UInt16.toNat_mod, hword, height]
    rfl
  simp only [ne_eq, hzero]
  split
  · rw [UInt16.toNat_toUInt8, UInt16.toNat_div, UInt16.toNat_add,
      UInt16.toNat_sub_of_le _ _ hmod, UInt16.toNat_mod, hword, height]
    omega
  · rw [UInt16.toNat_toUInt8, UInt16.toNat_div, hword, height]
    omega

structure SizedSdr (sdr : Sdr) : Prop where
  consistent : ConsistentSdr sdr
  serialisable : ∀ record ∈ sdr.sensorRecord, Serialisable record
  room : 8 + (sdr.sensorRecord.map SensorRecord.byteCount).sum ≤ 512
  noOfBytes : (sdr.sensorRecord.map SensorRecord.byteCount).sum + 3 ≤
      8 * sdr.header.noOfBytes.toNat ∧
    8 * sdr.header.noOfBytes.toNat < (sdr.sensorRecord.map SensorRecord.byteCount).sum + 11

theorem ConsistentSdr.length_flatMap {sdr : Sdr} (h : ConsistentSdr sdr) :
    (sdr.sensorRecord.flatMap recordBytes).length =
      (sdr.sensorRecord.map SensorRecord.byteCount).sum := by
  rw [List.length_flatMap]
  refine congrArg List.sum (List.map_congr_left fun record hmem => ?_)
  rw [(h.consistent record hmem).length_recordBytes, (h.consistent record hmem).byteCount]

/-! ## The answers -/

def respBufferSize : Nat := 512

/-- Both answers, and what they say about each other. -/
def SizeAgrees (headers : List AsdmHeader) (sdrInfo : List Sdr) (req : SensorRequest) : Prop :=
  ∃ size repository low high,
    asdmGetSdrSize headers sdrInfo req = .ok size ∧
    size.resp 2 = some low ∧ size.resp 3 = some high ∧
    asdmGetSensorRepository headers sdrInfo true req = .ok repository ∧
    (∀ index, (repository.resp index).isSome ↔ index < repository.respSize.toNat) ∧
    repository.respSize.toNat - 1 ≤ littleEndian [low, high] ∧
    littleEndian [low, high] < repository.respSize.toNat - 1 + 8 ∧
    repository.respSize.toNat ≤ respBufferSize

private theorem asdmGetSdrSize_bytes {headers : List AsdmHeader} {sdrInfo : List Sdr}
    {req : SensorRequest} {sdr : Sdr}
    (h : sdrAt sdrInfo (getSdrIndex headers req.sid) = .ok sdr) :
    ∃ size low high, asdmGetSdrSize headers sdrInfo req = .ok size ∧
      size.resp 2 = some low ∧ size.resp 3 = some high ∧
      littleEndian [low, high] = 4 + 8 * sdr.header.noOfBytes.toNat := by
  refine ⟨_, _, _, by rw [asdmGetSdrSize, h]; rfl, rfl, rfl, ?_⟩
  have hbound := sdr.header.noOfBytes.toNat_lt
  have hword : (4 + sdr.header.noOfBytes.toUInt16 * 8).toNat =
      4 + 8 * sdr.header.noOfBytes.toNat := by
    rw [UInt16.toNat_add, UInt16.toNat_mul, UInt8.toNat_toUInt16]
    simp
    omega
  simp only [littleEndian, UInt16.toNat_toUInt8, UInt16.toNat_shiftRight, hword]
  simp [Nat.shiftRight_eq_div_pow]
  omega

private theorem SizedSdr.sizeAgrees {headers : List AsdmHeader} {sdrInfo : List Sdr}
    {req : SensorRequest} {sdr : Sdr} (h : SizedSdr sdr)
    (hfound : Found headers sdrInfo req.sid sdr) : SizeAgrees headers sdrInfo req := by
  have hlength := h.consistent.length_flatMap
  have hroom := h.room
  have hbytes := h.noOfBytes
  obtain ⟨size, low, high, hsize, hlow, hhigh, hreported⟩ := asdmGetSdrSize_bytes hfound.found
  obtain ⟨answer, hanswer, hrespSize, hcode, hstored⟩ :=
    asdmGetSensorRepository_contains hfound h.consistent.complete h.consistent.asdmEor
      (fun record hmem resp =>
        (h.consistent.consistent record hmem).putRecord (h.serialisable record hmem) resp)
      (by omega)
  rw [hlength] at hrespSize
  refine ⟨size, answer, low, high, hsize, hlow, hhigh, hanswer, fun index => ?_, ?_, ?_, ?_⟩
  · cases index with
    | zero => simp [hcode, hrespSize]
    | succ offset =>
        rw [Nat.add_comm, hstored, isSome_getElem?]
        simp only [List.length_append, hlength, show (headerBytes sdr.header).length = 4 from rfl,
          show (text "END").length = 3 from rfl]
        rw [hrespSize]
        constructor <;> intro hlt <;> omega
  · omega
  · omega
  · rw [hrespSize, respBufferSize]
    omega

/-! ## At any later time -/

private theorem length_blank (field : Option (List UInt8)) :
    ((blank field).getD []).length = (field.getD []).length := by
  cases field with
  | none => rfl
  | some bytes => simp [blank]

private theorem announced_blank {record : SensorRecord} {mask : UInt8}
    {field : Option (List UInt8)} :
    Announced record.blank mask (blank field) ↔ Announced record mask field := by
  unfold Announced
  change (if record.thresholdSupportByte &&& mask != 0 then _ else _) ↔ _
  split
  · cases field with
    | none => simp [blank]
    | some bytes => simp [blank, SensorRecord.valueLen, SensorRecord.blank]
  · cases field <;> simp [blank]

private theorem consistent_blank {record : SensorRecord} :
    Consistent record.blank ↔ Consistent record := by
  constructor
  · intro h
    exact ⟨h.name, (length_blank _).symm.trans h.value, h.baseUnit, h.limit,
      announced_blank.1 h.average, announced_blank.1 h.maximum⟩
  · intro h
    exact ⟨h.name, (length_blank _).trans h.value, h.baseUnit, h.limit,
      announced_blank.2 h.average, announced_blank.2 h.maximum⟩

private theorem byteCount_blank (record : SensorRecord) :
    record.blank.byteCount = record.byteCount := by
  simp only [SensorRecord.byteCount, getD_length, SensorRecord.blank, length_blank]

private theorem serialisable_blank {record : SensorRecord} :
    Serialisable record.blank ↔ Serialisable record :=
  ⟨fun h => ⟨h.name, h.value⟩, fun h => ⟨h.name, h.value⟩⟩

private theorem sizedSdr_blank {sdr : Sdr} : SizedSdr sdr.blank ↔ SizedSdr sdr := by
  have hsum : (sdr.blank.sensorRecord.map SensorRecord.byteCount).sum =
      (sdr.sensorRecord.map SensorRecord.byteCount).sum := by
    rw [Sdr.blank, List.map_map]
    exact congrArg List.sum (List.map_congr_left fun record _ => byteCount_blank record)
  have hlength : sdr.blank.sensorRecord.length = sdr.sensorRecord.length := by simp [Sdr.blank]
  constructor
  · rintro ⟨⟨hcomplete, hconsistent, heor⟩, hserialisable, hroom, hbytes⟩
    rw [hsum] at hroom hbytes
    exact ⟨⟨hlength ▸ hcomplete, fun record hmem =>
        consistent_blank.1 (hconsistent _ (List.mem_map_of_mem hmem)), heor⟩,
      fun record hmem => serialisable_blank.1 (hserialisable _ (List.mem_map_of_mem hmem)),
      hroom, hbytes⟩
  · rintro ⟨⟨hcomplete, hconsistent, heor⟩, hserialisable, hroom, hbytes⟩
    refine ⟨⟨hlength ▸ hcomplete, fun record hmem => ?_, heor⟩, fun record hmem => ?_,
      hsum ▸ hroom, hsum ▸ hbytes⟩
    · obtain ⟨record, hrecord, rfl⟩ := List.mem_map.1 hmem
      exact consistent_blank.2 (hconsistent record hrecord)
    · obtain ⟨record, hrecord, rfl⟩ := List.mem_map.1 hmem
      exact serialisable_blank.2 (hserialisable record hrecord)

theorem Later.sized {headers : List AsdmHeader} {sdrInfo sdrInfo' : List Sdr}
    (h : Later headers sdrInfo sdrInfo') (hsized : ∀ sdr ∈ sdrInfo, SizedSdr sdr) :
    ∀ sdr ∈ sdrInfo', SizedSdr sdr := by
  intro sdr hmem
  have hblank : sdr.blank ∈ sdrInfo.map Sdr.blank := h.blank ▸ List.mem_map_of_mem hmem
  obtain ⟨sdr₀, hmem₀, heq⟩ := List.mem_map.1 hblank
  exact sizedSdr_blank.1 (heq ▸ sizedSdr_blank.2 (hsized sdr₀ hmem₀))

/-! ## The initialisation -/

def recordSize (repo : RepositoryType) (metaData : SensorMetaData) (sensorInstance : Nat) : Nat :=
  let name := metaData.nameOf sensorInstance
  announcedSize (UInt8.ofNat (name.length + 1)).toNat (lengthOf (valueTypeLength repo name metaData))
    (lengthOf (sensorUnitTbl repo).sensorUnitTypeLen) metaData.supportedThreshold

/--
The threshold byte announces what is allocated: limits outside the board
information, and both statistics exactly for a dynamic sensor, with a value.
-/
structure Regular (repo : RepositoryType) (metaData : SensorMetaData) (sensorInstance : Nat) :
    Prop where
  limits : repo = .boardInfoSdr →
    ∀ threshold : Threshold, metaData.supportedThreshold &&& threshold.mask = 0
  average : metaData.supportedThreshold &&& sensorAvgValSupport ≠ 0 ↔ 0 < metaData.sampleCount
  maximum : metaData.supportedThreshold &&& sensorMaxValSupport ≠ 0 ↔ 0 < metaData.sampleCount
  value : 0 < metaData.sampleCount →
    lengthOf (valueTypeLength repo (metaData.nameOf sensorInstance) metaData) ≠ 0

/--
The metadata falls into one group for each header, with as many instances as
the header has records; the instances are regular and fit the response buffer.
-/
inductive Sized : List AsdmHeader → List SensorMetaData → Prop
  | nil {rest : List SensorMetaData} : Sized [] rest
  | cons {header : AsdmHeader} {headers : List AsdmHeader} {group rest : List SensorMetaData}
      (hregular : ∀ metaData ∈ group, ∀ sensorInstance < metaData.totalSensorInstances,
        Regular header.repositoryType metaData sensorInstance)
      (hcount : (group.map SensorMetaData.totalSensorInstances).sum = header.noOfRecords.toNat)
      (hroom : 8 + (group.map fun metaData => ((List.range metaData.totalSensorInstances).map
        (recordSize header.repositoryType metaData)).sum).sum ≤ respBufferSize)
      (h : Sized headers rest) : Sized (header :: headers) (group ++ rest)

section Init

variable {table : List ThresholdRow} {malloc : Field → Bool} {behind : Memory}
  {repo : RepositoryType} {valueLen : Nat} {support : UInt8}

private theorem initLimit_announced {threshIdx : Nat} {threshold : Threshold}
    {limit : Option (List UInt8)}
    (h : initLimit table malloc behind threshIdx valueLen support threshold = .ok limit) :
    if support &&& threshold.mask != 0 then ∃ bytes, limit = some bytes ∧ bytes.length = valueLen
    else limit = none := by
  have hlimit := initLimit_ok h
  by_cases hmask : support &&& threshold.mask = 0
  · simpa [hmask] using hlimit
  · simp only [hmask, ne_eq, not_false_eq_true, if_true] at hlimit
    obtain ⟨bytes, rfl, hbytes⟩ := hlimit
    simpa [hmask] using (secureMemcpy_ok hbytes).2.2

private theorem initBaseUnit_length {baseUnit : Option (List UInt8)}
    (h : initBaseUnit malloc behind repo = .ok baseUnit) :
    (baseUnit.getD []).length = lengthOf (sensorUnitTbl repo).sensorUnitTypeLen := by
  unfold initBaseUnit at h
  simp only at h
  split at h
  · obtain ⟨-, -, h⟩ := checked_bind_ok h
    rw [map_eq_pure_bind] at h
    obtain ⟨bytes, hbytes, h⟩ := checked_bind_ok h
    cases h
    exact (secureMemcpy_ok hbytes).2.2
  · rename_i hzero
    cases h
    rw [not_not.1 hzero]
    rfl

private theorem initLimits_announced {threshIdx : Nat} {limits : Threshold → Option (List UInt8)}
    (h : initLimits table malloc behind threshIdx valueLen support = .ok limits)
    (threshold : Threshold) : if support &&& threshold.mask != 0 then
      ∃ bytes, limits threshold = some bytes ∧ bytes.length = valueLen
    else limits threshold = none :=
  initLimit_announced (initLimits_ok h threshold)

private theorem initThresholds_announced {name : Name} {nameLen : UInt8}
    {threshIdx threshIdx' : Nat}
    {limits : Threshold → Option (List UInt8)}
    (h : initThresholds table malloc behind repo name nameLen valueLen support threshIdx =
      .ok (limits, threshIdx'))
    (hboard : repo = .boardInfoSdr → ∀ threshold : Threshold, support &&& threshold.mask = 0)
    (threshold : Threshold) : if support &&& threshold.mask != 0 then
      ∃ bytes, limits threshold = some bytes ∧ bytes.length = valueLen
    else limits threshold = none := by
  unfold initThresholds at h
  split at h
  · rename_i hrepo
    cases h
    rw [if_neg (by simpa using hboard hrepo threshold)]
  · obtain ⟨found, -, h⟩ := checked_bind_ok h
    obtain ⟨limits', hlimits, h⟩ := checked_bind_ok h
    cases h
    exact initLimits_announced hlimits threshold

private theorem initDynamic_announced {field : Field} {sampleCount mask : UInt8}
    {value : Option (List UInt8)} (h : initDynamic malloc field sampleCount valueLen = .ok value)
    (hmask : support &&& mask ≠ 0 ↔ 0 < sampleCount) : if support &&& mask != 0 then
      ∃ bytes, value = some bytes ∧ bytes.length = valueLen
    else value = none := by
  unfold initDynamic at h
  split at h
  · rename_i hcount
    obtain ⟨-, -, h⟩ := checked_bind_ok h
    cases h
    rw [if_pos (by simpa using hmask.2 hcount)]
    exact ⟨_, rfl, by simp⟩
  · rename_i hcount
    cases h
    rw [if_neg (by simpa using mt hmask.1 hcount)]

private theorem announces_of_ne_zero (h : support ≠ 0) :
    (∃ threshold : Threshold, support &&& threshold.mask ≠ 0) ∨
      support &&& sensorAvgValSupport ≠ 0 ∨ support &&& sensorMaxValSupport ≠ 0 := by
  have hbits : ∀ n < 256, UInt8.ofNat n ≠ 0 →
      (thresholdOrder.any fun threshold => UInt8.ofNat n &&& threshold.mask != 0) = true ∨
        UInt8.ofNat n &&& sensorAvgValSupport ≠ 0 ∨ UInt8.ofNat n &&& sensorMaxValSupport ≠ 0 := by
    decide +kernel
  have hsupport := hbits support.toNat support.toNat_lt
  rw [UInt8.ofNat_toNat] at hsupport
  refine (hsupport h).imp_left fun hany => ?_
  obtain ⟨threshold, -, hmask⟩ := List.any_eq_true.1 hany
  exact ⟨threshold, by simpa using hmask⟩

private theorem initRecord_consistent {metaData : SensorMetaData}
    {idx sensorInstance threshIdx threshIdx' : Nat} {record : SensorRecord}
    (h : initRecord table malloc behind repo metaData idx sensorInstance threshIdx =
      .ok (record, threshIdx')) (hregular : Regular repo metaData sensorInstance) :
    Consistent record ∧ Serialisable record ∧
      record.announcedSize = recordSize repo metaData sensorInstance := by
  have hwellFormed := initRecord_wellFormed h
  obtain ⟨name, value, baseUnit, limits, maxValue, averageValue, hname, hvalue, hbaseUnit, hlimits,
    hmaxValue, haverageValue, rfl⟩ := initRecord_ok h
  obtain ⟨hnameLen, hmax, hlength⟩ := secureMemcpy_ok hname
  have hnameOf := lengthOf_name hmax
  refine ⟨⟨?_, ?_, ?_, ?_, ?_, ?_⟩, ⟨?_, fun hsupport => ?_⟩, ?_⟩
  · exact hlength.trans hnameOf.symm
  · exact initValue_length hvalue
  · exact initBaseUnit_length hbaseUnit
  · exact initThresholds_announced hlimits hregular.limits
  · exact initDynamic_announced haverageValue hregular.average
  · exact initDynamic_announced hmaxValue hregular.maximum
  · exact hwellFormed.name.1
  · rcases announces_of_ne_zero hsupport with ⟨threshold, hlimit⟩ | haverage | hmaximum
    · have hcopyable := hwellFormed.limits threshold hlimit
      split at hcopyable
      · rename_i hrepo
        exact absurd (hregular.limits hrepo threshold) hlimit
      · exact hcopyable.1
    · exact hregular.value (hregular.average.1 haverage)
    · exact hregular.value (hregular.maximum.1 hmaximum)
  · rw [SensorRecord.announcedSize, recordSize]
    exact congrArg (fun nameLen => announcedSize nameLen _ _ _) hnameOf

end Init

section Repositories

variable {table : List ThresholdRow} {malloc : Allocation → Bool} {behind : Memory}
  {metaData : Nat → SensorMetaData}

private theorem length_sources (entry count : Nat) :
    (sources metaData entry count).length = instances metaData entry count := by
  simp [sources, instances, List.length_flatMap]

private theorem sum_sources (size : SensorMetaData → Nat → Nat) (entry count : Nat) :
    ((sources metaData entry count).map fun source => size (metaData source.1) source.2).sum =
      (((List.range' entry count).map metaData).map fun taken =>
        ((List.range taken.totalSensorInstances).map (size taken)).sum).sum := by
  rw [sources, List.map_flatMap, List.flatMap, List.sum_flatten, List.map_map, List.map_map]
  refine congrArg List.sum (List.map_congr_left fun taken _ => ?_)
  simp only [Function.comp_apply, List.map_map]
  rfl

private theorem sdrOf_sized {header : AsdmHeader} {repo entry entry' : Nat}
    {writes : List RecordWrite}
    {group : List SensorMetaData}
    (hfilled : Filled metaData repo header.noOfRecords.toNat 0 entry writes entry')
    (hmade : ∀ write ∈ writes, Made table malloc behind header.repositoryType metaData write)
    (hgroup : (List.range' entry group.length).map metaData = group)
    (hregular : ∀ taken ∈ group, ∀ sensorInstance < taken.totalSensorInstances,
      Regular header.repositoryType taken sensorInstance)
    (hcount : (group.map SensorMetaData.totalSensorInstances).sum = header.noOfRecords.toNat)
    (hroom : 8 + (group.map fun taken => ((List.range taken.totalSensorInstances).map
      (recordSize header.repositoryType taken)).sum).sum ≤ respBufferSize) :
    entry' = entry + group.length ∧ SizedSdr (sdrOf header writes) := by
  have hsum : 0 + instances metaData entry group.length = header.noOfRecords.toNat := by
    rw [Nat.zero_add, instances_eq_sum, hgroup, hcount]
  obtain ⟨hentry, -⟩ := hfilled.bounded_of_instances hsum
  obtain ⟨count, hsame, hsources⟩ := hfilled.sources
  obtain rfl : count = group.length := by omega
  have hlength : writes.length = header.noOfRecords.toNat := by
    rw [← List.length_map RecordWrite.source, hsources, length_sources, ← hsum, Nat.zero_add]
  have hrecords : (sdrOf header writes).sensorRecord = writes.map RecordWrite.record :=
    List.take_of_length_le (by simp [hlength])
  have hwrite (write : RecordWrite) (hmem : write ∈ writes) :
      Consistent write.record ∧ Serialisable write.record ∧ write.record.announcedSize =
        recordSize header.repositoryType (metaData write.entry) write.sensorInstance := by
    have hsource := List.mem_map_of_mem (f := RecordWrite.source) hmem
    rw [hsources, mem_sources] at hsource
    have htaken : metaData write.entry ∈ group := by
      rw [← hgroup]
      exact List.mem_map_of_mem (List.mem_range'_1.2 hsource.1)
    obtain ⟨_, _, -, hrecord⟩ := hmade write hmem
    exact initRecord_consistent hrecord (hregular _ htaken _ hsource.2)
  have hsize : ((sdrOf header writes).sensorRecord.map SensorRecord.byteCount).sum =
      (group.map fun taken => ((List.range taken.totalSensorInstances).map
        (recordSize header.repositoryType taken)).sum).sum := by
    calc ((sdrOf header writes).sensorRecord.map SensorRecord.byteCount).sum
        = (writes.map fun write => recordSize header.repositoryType (metaData write.entry)
            write.sensorInstance).sum := by
          rw [hrecords, List.map_map]
          refine congrArg List.sum (List.map_congr_left fun write hmem => ?_)
          exact (hwrite write hmem).1.byteCount.trans (hwrite write hmem).2.2
      _ = ((sources metaData entry group.length).map fun source =>
            recordSize header.repositoryType (metaData source.1) source.2).sum := by
          rw [← hsources, List.map_map]
          rfl
      _ = _ := by rw [sum_sources, hgroup]
  have hfits : 8 + ((sdrOf header writes).sensorRecord.map SensorRecord.byteCount).sum ≤ 512 :=
    hsize ▸ hroom
  refine ⟨hentry, ⟨?_, fun record hmem => ?_, rfl⟩, fun record hmem => ?_, hfits, ?_⟩
  · rw [hrecords, List.length_map]
    exact hlength
  · rw [hrecords] at hmem
    obtain ⟨write, hwritten, rfl⟩ := List.mem_map.1 hmem
    exact (hwrite write hwritten).1
  · rw [hrecords] at hmem
    obtain ⟨write, hwritten, rfl⟩ := List.mem_map.1 hmem
    exact (hwrite write hwritten).2.1
  · rw [hrecords] at hfits ⊢
    exact bytesOf_bounds hfits

private theorem initRepositories_sized {headers : List AsdmHeader} {sdrCount entry threshIdx : Nat}
    {sdrs : List Sdr} {writes : List RecordWrite} {list : List SensorMetaData}
    (h : initRepositories table malloc behind metaData headers sdrCount entry threshIdx =
      .ok (sdrs, writes)) (hindex : IndexIn table threshIdx) (hsized : Sized headers list)
    (hlist : (List.range' entry list.length).map metaData = list) :
    sdrs.length = headers.length ∧ ∀ sdr ∈ sdrs, SizedSdr sdr := by
  induction headers generalizing sdrCount entry threshIdx sdrs writes list with
  | nil =>
      cases h
      simp
  | cons header headers ih =>
      obtain ⟨first, entry₁, threshIdx₁, sdrs', further, hfirst, hfurther, rfl, rfl⟩ :=
        initRepositories_cons h
      cases hsized with
      | @cons _ _ group rest hregular hcount hroom hrest =>
          rw [List.length_append, ← List.range'_append_1, List.map_append] at hlist
          obtain ⟨hgroup, hafter⟩ := List.append_inj hlist (by simp)
          obtain ⟨hnext, hmade⟩ := initRepository_made hfirst hindex
          obtain ⟨rfl, hsdr⟩ := sdrOf_sized (initRepository_filled (by simp) hfirst) hmade hgroup
            hregular hcount hroom
          obtain ⟨hlength, hsdrs⟩ := ih hfurther hnext hrest hafter
          exact ⟨congrArg Nat.succ hlength, List.forall_mem_cons.2 ⟨hsdr, hsdrs⟩⟩

private theorem getSdrIndex_lt {headers : List AsdmHeader} {sid : UInt8}
    (h : getSdrIndex headers sid ≠ -1) :
    ∃ position, position < headers.length ∧ getSdrIndex headers sid = (position : Int) := by
  rcases foldl_getSdrIndex headers sid 0 (-1) with
    ⟨-, heq⟩ | ⟨-, position, header, hheader, -, heq⟩
  · exact absurd heq h
  · rw [Nat.zero_add] at heq
    exact ⟨position, (List.getElem?_eq_some_iff.1 hheader).1, heq⟩

/-- At any time behind an initialisation with sized metadata the size and the content agree. -/
theorem sizeAgrees_of_sized {headers : List AsdmHeader} {list : List SensorMetaData}
    {beyond : Nat → SensorMetaData} {sdrInfo sdrInfo' : List Sdr} {writes : List RecordWrite}
    (hinit : initAsdm malloc behind headers list beyond = .ok (sdrInfo, writes))
    (hsized : Sized headers list) (hlater : Later headers sdrInfo sdrInfo') {req : SensorRequest}
    (hindex : getSdrIndex headers req.sid ≠ -1) : SizeAgrees headers sdrInfo' req := by
  obtain ⟨hlength, hsdrs⟩ : sdrInfo.length = headers.length ∧ ∀ sdr ∈ sdrInfo, SizedSdr sdr := by
    unfold initAsdm initAsdmIn at hinit
    obtain ⟨-, -, hinit⟩ := checked_bind_ok hinit
    obtain ⟨-, -, hinit⟩ := checked_bind_ok hinit
    exact initRepositories_sized hinit (fun _ => by decide) hsized (map_range'_getD list beyond)
  obtain ⟨position, hlt, hposition⟩ := getSdrIndex_lt hindex
  have hlater' : sdrInfo'.length = sdrInfo.length := by
    simpa using congrArg List.length hlater.blank
  have hsdr : position < sdrInfo'.length := by omega
  refine (hlater.sized hsdrs _ (List.getElem_mem hsdr)).sizeAgrees ⟨hindex, ?_⟩
  rw [hposition, sdrAt, if_neg (by omega), Int.toNat_natCast, List.getElem?_eq_getElem hsdr]

end Repositories

/-! ## V80 and VCK5000 -/

instance (repo : RepositoryType) (metaData : SensorMetaData) (sensorInstance : Nat) :
    Decidable (Regular repo metaData sensorInstance) :=
  decidable_of_iff ((repo = .boardInfoSdr →
      ∀ threshold ∈ thresholdOrder, metaData.supportedThreshold &&& threshold.mask = 0) ∧
    (metaData.supportedThreshold &&& sensorAvgValSupport ≠ 0 ↔ 0 < metaData.sampleCount) ∧
    (metaData.supportedThreshold &&& sensorMaxValSupport ≠ 0 ↔ 0 < metaData.sampleCount) ∧
    (0 < metaData.sampleCount →
      lengthOf (valueTypeLength repo (metaData.nameOf sensorInstance) metaData) ≠ 0))
    ⟨fun ⟨hlimits, haverage, hmaximum, hvalue⟩ =>
      ⟨fun hrepo threshold => hlimits hrepo threshold (by cases threshold <;> decide), haverage,
        hmaximum, hvalue⟩,
      fun h => ⟨fun hrepo threshold _ => h.limits hrepo threshold, h.average, h.maximum, h.value⟩⟩

def sizedCheck : List AsdmHeader → List SensorMetaData → Bool
  | [], _ => true
  | header :: headers, metaData =>
      let isType (entry : SensorMetaData) : Bool := entry.repoType = header.repositoryType
      decide (
        (∀ entry ∈ metaData.takeWhile isType, ∀ sensorInstance < entry.totalSensorInstances,
          Regular header.repositoryType entry sensorInstance) ∧
        ((metaData.takeWhile isType).map SensorMetaData.totalSensorInstances).sum =
          header.noOfRecords.toNat ∧
        8 + ((metaData.takeWhile isType).map fun entry =>
          ((List.range entry.totalSensorInstances).map
            (recordSize header.repositoryType entry)).sum).sum ≤ respBufferSize) &&
        sizedCheck headers (metaData.dropWhile isType)

private theorem sized_of_check {headers : List AsdmHeader} {metaData : List SensorMetaData}
    (h : sizedCheck headers metaData = true) : Sized headers metaData := by
  induction headers generalizing metaData with
  | nil => exact .nil
  | cons header headers ih =>
      simp only [sizedCheck, Bool.and_eq_true, decide_eq_true_eq] at h
      obtain ⟨⟨hregular, hcount, hroom⟩, hrest⟩ := h
      rw [← List.takeWhile_append_dropWhile (p := fun entry : SensorMetaData =>
        decide (entry.repoType = header.repositoryType)) (l := metaData)]
      exact .cons hregular hcount hroom (ih hrest)

/-- The temperatures of V80, behind a reading of the board temperature. -/
theorem v80_temperatures_sizeAgrees :
    ∃ sdrInfo writes sdrInfo', v80.init = .ok (sdrInfo, writes) ∧
      upkeep v80.headers sdrInfo (.sensorValue ⟨0xC1, 1, some (temperatureRead 30 1)⟩) =
        .ok sdrInfo' ∧
      SizeAgrees v80.headers sdrInfo' ⟨asdmCmdGetSdr, 0xC1, 0⟩ := by
  obtain ⟨sdrInfo, writes, sdr, record, hinit, hlocated, hdynamic, hsize⟩ := v80_board_temperature
  have htracks := tracks_init hinit hlocated hdynamic
  rw [hsize] at htracks
  obtain ⟨record', hupdate, -⟩ := updateRecord_tracks htracks (.inr (.inl rfl))
    (rfl : (temperatureRead 30 1).sensorValueSize.toNat = 2) (by decide)
  have hevent : upkeep v80.headers sdrInfo
      (.sensorValue ⟨0xC1, 1, some (temperatureRead 30 1)⟩) =
        .ok (withRecord sdrInfo 1 sdr 0 record') := by
    rw [upkeep, hlocated.updateSensorValue hupdate]
    rfl
  refine ⟨sdrInfo, writes, _, hinit, hevent, sizeAgrees_of_sized hinit
    (sized_of_check (by decide +kernel))
    ⟨[.sensorValue ⟨0xC1, 1, some (temperatureRead 30 1)⟩], ?_⟩ (by decide +kernel)⟩
  rw [List.foldlM_cons, hevent]
  rfl

private theorem not_sizeAgrees {headers : List AsdmHeader} {sdrInfo : List Sdr}
    {req : SensorRequest}
    {low high : UInt8} {respSize : UInt16}
    (hsize : (asdmGetSdrSize headers sdrInfo req).toOption.map (fun size =>
      (size.resp 2, size.resp 3)) = some (some low, some high))
    (hrepository : (asdmGetSensorRepository headers sdrInfo true req).toOption.map
      Answer.respSize = some respSize)
    (hfar : respSize.toNat - 1 + 8 ≤ littleEndian [low, high]) :
    ¬ SizeAgrees headers sdrInfo req := by
  rintro ⟨size, repository, low', high', hsize', hlow, hhigh, hrepository', -, -, hnear, -⟩
  rw [hsize'] at hsize
  rw [hrepository'] at hrepository
  obtain ⟨hlow', hhigh'⟩ := Prod.mk.inj (Option.some.inj hsize)
  obtain rfl := Option.some.inj (hlow.symm.trans hlow')
  obtain rfl := Option.some.inj (hhigh.symm.trans hhigh')
  rw [← Option.some.inj hrepository] at hfar
  omega

/-- A dynamic temperature whose threshold byte announces no statistics. -/
def unannounced : SensorMetaData :=
  { Platform.dynamicMetaData .temperatureSdr "PCB" 4 0 0 0 [] with supportedThreshold := 0 }

/--
The five temperatures of VCK5000 are written, and the size of seven is reported;
so are the statistics of a sensor that does not announce them.
-/
theorem vck5000_not_sizeAgrees :
    (∃ sdrInfo writes, vck5000.init = .ok (sdrInfo, writes) ∧
      ¬ SizeAgrees vck5000.headers sdrInfo ⟨asdmCmdGetSdr, 0xC1, 0⟩) ∧
    ∃ sdrInfo writes, initAsdm (fun _ => true) (fun _ => 0)
        [⟨.temperatureSdr, asdmHeaderVer, 1, 0⟩] [unannounced] (fun _ => unannounced) =
          .ok (sdrInfo, writes) ∧
      ¬ SizeAgrees [⟨.temperatureSdr, asdmHeaderVer, 1, 0⟩] sdrInfo ⟨asdmCmdGetSdr, 0xC1, 0⟩ := by
  let req : SensorRequest := ⟨asdmCmdGetSdr, 0xC1, 0⟩
  let sizes (headers : List AsdmHeader) (built : List Sdr × List RecordWrite) :=
    ((asdmGetSdrSize headers built.1 req).toOption.map fun size => (size.resp 2, size.resp 3),
      (asdmGetSensorRepository headers built.1 true req).toOption.map Answer.respSize)
  have hrun : vck5000.init.toOption.map (sizes vck5000.headers) =
      some (some (some 244, some 0), some 185) := by
    decide +kernel
  have hrun' : (initAsdm (fun _ => true) (fun _ => 0) [⟨.temperatureSdr, asdmHeaderVer, 1, 0⟩]
      [unannounced] fun _ => unannounced).toOption.map
        (sizes [⟨.temperatureSdr, asdmHeaderVer, 1, 0⟩]) =
      some (some (some 44, some 0), some 31) := by
    decide +kernel
  constructor
  · match hinit : vck5000.init with
    | .error stop => simp [hinit, Except.toOption] at hrun
    | .ok (sdrInfo, writes) =>
        rw [hinit] at hrun
        obtain ⟨hsize, hrepository⟩ := Prod.mk.inj (Option.some.inj hrun)
        exact ⟨sdrInfo, writes, rfl, not_sizeAgrees hsize hrepository (by decide)⟩
  · match hinit : initAsdm (fun _ => true) (fun _ => 0)
        [⟨.temperatureSdr, asdmHeaderVer, 1, 0⟩] [unannounced] fun _ => unannounced with
    | .error stop => simp [hinit, Except.toOption] at hrun'
    | .ok (sdrInfo, writes) =>
        rw [hinit] at hrun'
        obtain ⟨hsize, hrepository⟩ := Prod.mk.inj (Option.some.inj hrun')
        exact ⟨sdrInfo, writes, rfl, not_sizeAgrees hsize hrepository (by decide)⟩

end Vmr.Asdm
