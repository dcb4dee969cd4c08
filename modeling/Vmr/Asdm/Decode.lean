import Vmr.Asdm.Bulk
import Vmr.Lib.Decoder

/-!
# Reading a repository back

A host walks the answer of `Asdm_Get_Sensor_Repository` with nothing but the
record count of the header, the type-length bytes and the threshold-support
byte.  Where the answer fits the 16 bits of its size, the walk finds every
field of every record and stops at the end marker.
-/

namespace Vmr.Asdm

open Vmr.Lib

/-! ## The decoder -/

structure RecordFields where
  sensorId : UInt8
  nameTypeLength : UInt8
  name : List UInt8
  valueTypeLength : UInt8
  value : List UInt8
  baseUnitTypeLength : UInt8
  baseUnit : List UInt8
  unitModifier : UInt8
  thresholdSupport : UInt8
  limits : List (Option (List UInt8))
  status : UInt8
  average : Option (List UInt8)
  maximum : Option (List UInt8)
  deriving DecidableEq

def decodeOptional (support mask valueTypeLength : UInt8) : Decoder (Option (List UInt8)) :=
  Decoder.optional (support &&& mask != 0) (Decoder.bytes (lengthOf valueTypeLength))

def decodeRecord : Decoder RecordFields := do
  let sensorId ← Decoder.byte
  let nameTypeLength ← Decoder.byte
  let name ← Decoder.bytes (lengthOf nameTypeLength)
  let valueTypeLength ← Decoder.byte
  let value ← Decoder.bytes (lengthOf valueTypeLength)
  let baseUnitTypeLength ← Decoder.byte
  let baseUnit ← Decoder.bytes (lengthOf baseUnitTypeLength)
  let unitModifier ← Decoder.byte
  let thresholdSupport ← Decoder.byte
  let limits ← thresholdOrder.mapM fun threshold =>
    decodeOptional thresholdSupport threshold.mask valueTypeLength
  let status ← Decoder.byte
  let average ← decodeOptional thresholdSupport sensorAvgValSupport valueTypeLength
  let maximum ← decodeOptional thresholdSupport sensorMaxValSupport valueTypeLength
  return {
    sensorId, nameTypeLength, name, valueTypeLength, value, baseUnitTypeLength, baseUnit
    unitModifier, thresholdSupport, limits, status, average, maximum }

def decodeRepository : Decoder (List RecordFields) := do
  let header ← Decoder.bytes 4
  Decoder.times decodeRecord (header.getD 2 0).toNat

/-! ## Consistent records -/

/-- A limit or a statistic is there, with the size of a value, exactly if its bit is set. -/
def Announced (record : SensorRecord) (mask : UInt8) (field : Option (List UInt8)) : Prop :=
  if record.thresholdSupportByte &&& mask != 0 then
    ∃ bytes, field = some bytes ∧ bytes.length = record.valueLen
  else field = none

structure Consistent (record : SensorRecord) : Prop where
  name : (record.sensorName.getD []).length = lengthOf record.sensorNameTypeLength
  value : (record.sensorValue.getD []).length = record.valueLen
  baseUnit : (record.sensorBaseUnit.getD []).length = lengthOf record.sensorBaseUnitTypeLength
  limit : ∀ threshold : Threshold, Announced record threshold.mask (record.limit threshold)
  average : Announced record sensorAvgValSupport record.sensorAverageValue
  maximum : Announced record sensorMaxValSupport record.sensorMaxValue

def fieldsOf (record : SensorRecord) : RecordFields where
  sensorId := record.sensorId
  nameTypeLength := record.sensorNameTypeLength
  name := record.sensorName.getD []
  valueTypeLength := record.sensorValueTypeLength
  value := record.sensorValue.getD []
  baseUnitTypeLength := record.sensorBaseUnitTypeLength
  baseUnit := record.sensorBaseUnit.getD []
  unitModifier := record.sensorUnitModifierByte
  thresholdSupport := record.thresholdSupportByte
  limits := thresholdOrder.map record.limit
  status := record.sensorStatus
  average := record.sensorAverageValue
  maximum := record.sensorMaxValue

private theorem reads_field (field : Option (List UInt8)) {size : Nat}
    (h : (field.getD []).length = size) :
    Reads (Decoder.bytes size) (fieldBytes field size) (field.getD []) := by
  subst h
  simpa [fieldBytes] using Reads.bytes (field.getD [])

private theorem reads_optionalField {field : Option (List UInt8)} {size : Nat}
    (h : (field.getD []).length = size) :
    Reads (Decoder.bytes size) (optionalBytes (size != 0) field size) (field.getD []) := by
  cases size with
  | zero =>
      rw [List.length_eq_zero_iff] at h
      rw [h]
      exact Reads.bytes []
  | succ size => exact reads_field field h

private theorem reads_announced {record : SensorRecord} {mask : UInt8} {field : Option (List UInt8)}
    (h : Announced record mask field) :
    Reads (decodeOptional record.thresholdSupportByte mask record.sensorValueTypeLength)
      (optionalBytes (record.thresholdSupportByte &&& mask != 0) field record.valueLen) field := by
  unfold Announced at h
  unfold decodeOptional optionalBytes
  split at h
  · rename_i hmask
    obtain ⟨bytes, rfl, hlength⟩ := h
    rw [hmask, if_pos rfl]
    exact (reads_field (some bytes) hlength).optional_some
  · rename_i hmask
    rw [Bool.not_eq_true] at hmask
    rw [hmask, h]
    exact Reads.optional_none _

theorem Consistent.reads {record : SensorRecord} (h : Consistent record) :
    Reads decodeRecord (recordBytes record) (fieldsOf record) := by
  have hpair (first second : UInt8) : [first, second] = [first] ++ [second] := rfl
  simp only [recordBytes, hpair, List.append_assoc]
  rw [← List.append_nil (optionalBytes (record.thresholdSupportByte &&& sensorMaxValSupport != 0)
    record.sensorMaxValue record.valueLen)]
  exact (Reads.byte _).bind <| (Reads.byte _).bind <| (reads_field _ h.name).bind <|
    (Reads.byte _).bind <| (reads_optionalField h.value).bind <| (Reads.byte _).bind <|
    (reads_optionalField h.baseUnit).bind <| (Reads.byte _).bind <| (Reads.byte _).bind <|
    (Reads.mapM (fun threshold => reads_announced (h.limit threshold)) thresholdOrder).bind <|
    (Reads.byte _).bind <| (reads_announced h.average).bind <|
    (reads_announced h.maximum).bind <| Reads.pure _

/-! ## The repository -/

structure ConsistentSdr (sdr : Sdr) : Prop where
  complete : sdr.sensorRecord.length = sdr.header.noOfRecords.toNat
  consistent : ∀ record ∈ sdr.sensorRecord, Consistent record
  asdmEor : sdr.asdmEor = text "END" ++ [0]

structure Found (headers : List AsdmHeader) (sdrInfo : List Sdr) (sid : UInt8) (sdr : Sdr) :
    Prop where
  supported : getSdrIndex headers sid ≠ -1
  found : sdrAt sdrInfo (getSdrIndex headers sid) = .ok sdr

/-- The bytes behind the completion code decode to the records, up to the end marker. -/
def Decodes (headers : List AsdmHeader) (sdrInfo : List Sdr) (req : SensorRequest) (sdr : Sdr) :
    Prop :=
  ∃ answer bytes, asdmGetSensorRepository headers sdrInfo true req = .ok answer ∧
    answer.respSize.toNat = 1 + bytes.length ∧
    (∀ offset, answer.resp (1 + offset) = bytes[offset]?) ∧
    decodeRepository bytes = some (sdr.sensorRecord.map fieldsOf, text "END")

theorem ConsistentSdr.reads {sdr : Sdr} (h : ConsistentSdr sdr) :
    Reads decodeRepository (headerBytes sdr.header ++ sdr.sensorRecord.flatMap recordBytes)
      (sdr.sensorRecord.map fieldsOf) := by
  refine (Reads.bytes (headerBytes sdr.header)).bind ?_
  change Reads (Decoder.times decodeRecord sdr.header.noOfRecords.toNat) _ _
  rw [← h.complete]
  exact Reads.times fun record hmem => (h.consistent record hmem).reads

/-- What the copies ask for beyond consistency: no copy is of no bytes. -/
structure Serialisable (record : SensorRecord) : Prop where
  name : lengthOf record.sensorNameTypeLength ≠ 0
  value : record.thresholdSupportByte ≠ 0 → record.valueLen ≠ 0

private theorem copyable_of_length {field : Option (List UInt8)} {size : Nat}
    (h : (field.getD []).length = size) (hsize : size ≠ 0) : Copyable field size := by
  cases field with
  | none => exact absurd h.symm hsize
  | some bytes => exact ⟨hsize, bytes, rfl, h.ge⟩

theorem Announced.copyable {record : SensorRecord} {mask : UInt8} {field : Option (List UInt8)}
    (h : Announced record mask field) (hrecord : Serialisable record)
    (hmask : (record.thresholdSupportByte &&& mask != 0) = true) :
    Copyable field record.valueLen := by
  rw [Announced, if_pos hmask] at h
  obtain ⟨bytes, rfl, hlength⟩ := h
  refine ⟨hrecord.value fun hzero => ?_, bytes, rfl, hlength.ge⟩
  simp [hzero] at hmask

theorem Consistent.putRecord {record : SensorRecord} (h : Consistent record)
    (hrecord : Serialisable record) (resp : Response) :
    ∃ resp', putRecord record resp = .ok resp' :=
  (granted_putRecord record resp).2
    ⟨copyable_of_length h.name hrecord.name,
      fun hsize => copyable_of_length h.value (by simpa using hsize),
      fun hsize => copyable_of_length h.baseUnit (by simpa using hsize),
      fun threshold _ => (h.limit threshold).copyable hrecord,
      h.average.copyable hrecord, h.maximum.copyable hrecord⟩

private theorem putRecords_contains {records : List SensorRecord} {resp : Response}
    (h : ∀ record ∈ records, ∀ resp, ∃ resp', putRecord record resp = .ok resp') {start : Nat}
    {bytes : List UInt8} (hresp : resp.Contains start bytes)
    (hroom : start + (bytes ++ records.flatMap recordBytes).length < 2 ^ 16) :
    ∃ resp', records.foldlM (fun resp record => putRecord record resp) resp = .ok resp' ∧
      resp'.Contains start (bytes ++ records.flatMap recordBytes) := by
  induction records generalizing resp bytes with
  | nil => exact ⟨resp, rfl, by simpa using hresp⟩
  | cons record records ih =>
      rw [List.forall_mem_cons] at h
      rw [List.flatMap_cons, ← List.append_assoc] at hroom ⊢
      obtain ⟨next, hput⟩ := h.1 resp
      have hnext := putRecord_contains hput hresp (by
        rw [List.length_append] at hroom
        omega)
      obtain ⟨resp', hrun, hcontains⟩ := ih h.2 hnext hroom
      refine ⟨resp', ?_, hcontains⟩
      rw [List.foldlM_cons, hput]
      exact hrun

theorem asdmGetSensorRepository_contains {headers : List AsdmHeader} {sdrInfo : List Sdr}
    {req : SensorRequest} {sdr : Sdr} (hfound : Found headers sdrInfo req.sid sdr)
    (hcomplete : sdr.sensorRecord.length = sdr.header.noOfRecords.toNat)
    (heor : sdr.asdmEor = text "END" ++ [0])
    (h : ∀ record ∈ sdr.sensorRecord, ∀ resp, ∃ resp', putRecord record resp = .ok resp')
    (hroom : 8 + (sdr.sensorRecord.flatMap recordBytes).length < 2 ^ 16) :
    ∃ answer, asdmGetSensorRepository headers sdrInfo true req = .ok answer ∧
      answer.respSize.toNat = 8 + (sdr.sensorRecord.flatMap recordBytes).length ∧
      answer.resp 0 = some asdmCcOperationSuccess ∧
      ∀ offset, answer.resp (1 + offset) =
        (headerBytes sdr.header ++ sdr.sensorRecord.flatMap recordBytes ++ text "END")[offset]? := by
  have hheader : (headerBytes sdr.header).length = 4 := rfl
  have hempty : Response.Contains { bytes := fun _ => none, respIndex := 1 } 1 [] :=
    ⟨rfl, fun offset => rfl⟩
  obtain ⟨resp₁, hfirst⟩ := (granted_copy { bytes := fun _ => none, respIndex := 1 }
    (some (headerBytes sdr.header)) 4).2 ⟨by decide, _, rfl, hheader.ge⟩
  have hcontains₁ := hempty.copy hfirst (by simp [fieldBytes, hheader])
  obtain ⟨resp₂, hrun, hcontains₂⟩ := putRecords_contains h hcontains₁ (by
    simp only [fieldBytes, List.length_append, List.length_nil, List.length_take,
      Option.getD_some, hheader]
    omega)
  obtain ⟨resp₃, hlast⟩ := (granted_copy resp₂ (some sdr.asdmEor) 3).2
    ⟨by decide, _, rfl, by rw [heor]; decide⟩
  have hmarker : fieldBytes (some sdr.asdmEor) 3 = text "END" := by
    rw [heor]
    decide
  have hcontains₃ := hcontains₂.copy hlast (by
    rw [hmarker]
    simp only [fieldBytes, List.length_append, List.length_nil, List.length_take,
      Option.getD_some, hheader, show (text "END").length = 3 from rfl]
    omega)
  have hloop := (foldlM_recordAt sdr (fun resp record => putRecord record resp) resp₁).trans hrun
  rw [hcomplete] at hloop
  have hall : asdmGetSensorRepository headers sdrInfo true req = (do
      let resp ← Response.copy { bytes := fun _ => none, respIndex := 1 }
        (some (headerBytes sdr.header)) 4
      let resp ← (List.range sdr.header.noOfRecords.toNat).foldlM (fun resp idx => do
        let record ← sdr.recordAt idx
        putRecord record resp) resp
      let resp ← resp.copy (some sdr.asdmEor) 3
      return { status := 0
               resp := Function.update resp.bytes 0 (some asdmCcOperationSuccess)
               respSize := resp.respIndex }) := by
    rw [asdmGetSensorRepository, if_neg hfound.supported, if_pos rfl, hfound.found]
    rfl
  refine ⟨{ status := 0
            resp := Function.update resp₃.bytes 0 (some asdmCcOperationSuccess)
            respSize := resp₃.respIndex }, ?_, ?_, by simp, ?_⟩
  · rw [hall, hfirst, checked_ok_bind, hloop, checked_ok_bind, hlast]
    rfl
  · rw [hcontains₃.respIndex, hmarker]
    simp only [fieldBytes, List.length_append, List.length_nil, List.length_take,
      Option.getD_some, hheader, show (text "END").length = 3 from rfl]
    omega
  · intro offset
    simp only
    rw [Function.update_of_ne (by omega), hcontains₃.stored, hmarker]
    rfl

theorem decodes_of_serialisable {headers : List AsdmHeader} {sdrInfo : List Sdr}
    {req : SensorRequest} {sdr : Sdr} (hfound : Found headers sdrInfo req.sid sdr)
    (h : ConsistentSdr sdr) (hrecords : ∀ record ∈ sdr.sensorRecord, Serialisable record)
    (hroom : 8 + (sdr.sensorRecord.flatMap recordBytes).length < 2 ^ 16) :
    Decodes headers sdrInfo req sdr := by
  obtain ⟨answer, hanswer, hsize, -, hstored⟩ := asdmGetSensorRepository_contains hfound h.complete
    h.asdmEor (fun record hmem resp =>
      (h.consistent record hmem).putRecord (hrecords record hmem) resp) hroom
  refine ⟨answer, _, hanswer, ?_, hstored, h.reads (text "END")⟩
  rw [hsize, List.length_append, List.length_append, show (headerBytes sdr.header).length = 4
    from rfl, show (text "END").length = 3 from rfl]
  omega

def limitedRecord (support : UInt8) : SensorRecord :=
  { temperatureRecord 0 with
    thresholdSupportByte := support
    limit := fun threshold =>
      if support &&& threshold.mask != 0 then some [threshold.mask, 0] else none
    sensorAverageValue := if support &&& sensorAvgValSupport != 0 then some [37, 0] else none
    sensorMaxValue := if support &&& sensorMaxValSupport != 0 then some [45, 0] else none }

def limitedTemperatures : Sdr where
  header := ⟨.temperatureSdr, asdmHeaderVer, 2, 0⟩
  sensorRecord := [limitedRecord 0xC7, limitedRecord 0x49]
  asdmEor := text "END" ++ [0]

private theorem limitedRecord_consistent (support : UInt8) :
    Consistent (limitedRecord support) := by
  have hname : 2 = lengthOf 0xC2 := by decide
  have hvalue : 2 = lengthOf 2 := by decide
  have hunit : (text "Celsius" ++ [0]).length = lengthOf 0xC8 := by decide
  have hannounced (mask : UInt8) (low high : UInt8) : Announced (limitedRecord support) mask
      (if support &&& mask != 0 then some [low, high] else none) := by
    change if support &&& mask != 0 then _ else _
    split
    · exact ⟨_, rfl, hvalue⟩
    · rfl
  exact ⟨hname, hvalue, hunit, fun threshold => hannounced _ _ _, hannounced _ _ _,
    hannounced _ _ _⟩

theorem limitedTemperatures_decodes :
    Decodes [limitedTemperatures.header] [limitedTemperatures] ⟨asdmCmdGetSdr, 0xC1, 0⟩
      limitedTemperatures := by
  have hrecord (record : SensorRecord) (hmem : record ∈ limitedTemperatures.sensorRecord) :
      ∃ support, record = limitedRecord support := by
    simp only [limitedTemperatures, List.mem_cons, List.not_mem_nil, or_false] at hmem
    rcases hmem with rfl | rfl
    · exact ⟨_, rfl⟩
    · exact ⟨_, rfl⟩
  refine decodes_of_serialisable ⟨by decide, rfl⟩ ⟨rfl, fun record hmem => ?_, rfl⟩
    (fun record hmem => ?_) (by decide)
  · obtain ⟨support, rfl⟩ := hrecord record hmem
    exact limitedRecord_consistent support
  · obtain ⟨support, rfl⟩ := hrecord record hmem
    have hname : lengthOf 0xC2 ≠ 0 := by decide
    have hvalue : lengthOf 2 ≠ 0 := by decide
    exact ⟨hname, fun _ => hvalue⟩

/-! ## Repositories that are not read back -/

def zeroRecord (nameLen valueLen unitLen support : UInt8) : SensorRecord where
  sensorId := 1
  sensorNameTypeLength := sensorTypeAscii ||| nameLen
  sensorName := some (List.replicate nameLen.toNat 0)
  sensorValueTypeLength := valueLen
  sensorValue := some (List.replicate valueLen.toNat 0)
  sensorBaseUnitTypeLength := sensorTypeAscii ||| unitLen
  sensorBaseUnit := some (List.replicate unitLen.toNat 0)
  sensorUnitModifierByte := 0
  thresholdSupportByte := support
  limit threshold :=
    if support &&& threshold.mask != 0 then some (List.replicate valueLen.toNat 0) else none
  sensorStatus := sensorPresentAndValid
  sensorMaxValue :=
    if support &&& sensorMaxValSupport != 0 then some (List.replicate valueLen.toNat 0) else none
  sensorAverageValue :=
    if support &&& sensorAvgValSupport != 0 then some (List.replicate valueLen.toNat 0) else none
  sampleCount := 0
  sensorInstance := 1

def zeroSdr (count : UInt8) (record : SensorRecord) : Sdr where
  header := ⟨.temperatureSdr, asdmHeaderVer, count, 0⟩
  sensorRecord := List.replicate count.toNat record
  asdmEor := text "END" ++ [0]

def nameless : Sdr := zeroSdr 1 (zeroRecord 0 1 1 0)

def valueless : Sdr := zeroSdr 1 (zeroRecord 1 0 1 0x01)

/-- 94 records of 700 bytes each. -/
def oversized : Sdr := zeroSdr 94 (zeroRecord 63 63 63 0xFF)

private theorem zeroSdr_consistent {record : SensorRecord} (h : Consistent record) (count : UInt8) :
    ConsistentSdr (zeroSdr count record) := by
  refine ⟨by simp [zeroSdr], fun record' hmem => ?_, rfl⟩
  rw [List.eq_of_mem_replicate hmem]
  exact h

private theorem zeroRecord_consistent {nameLen valueLen unitLen : UInt8}
    (hname : lengthOf (sensorTypeAscii ||| nameLen) = nameLen.toNat)
    (hvalue : lengthOf valueLen = valueLen.toNat)
    (hunit : lengthOf (sensorTypeAscii ||| unitLen) = unitLen.toNat) (support : UInt8) :
    Consistent (zeroRecord nameLen valueLen unitLen support) := by
  have hannounced (mask : UInt8) : Announced (zeroRecord nameLen valueLen unitLen support) mask
      (if support &&& mask != 0 then some (List.replicate valueLen.toNat 0) else none) := by
    unfold Announced
    change if support &&& mask != 0 then _ else _
    split
    · exact ⟨_, rfl, by simp [SensorRecord.valueLen, zeroRecord, hvalue]⟩
    · rfl
  refine ⟨?_, ?_, ?_, fun threshold => hannounced _, hannounced _, hannounced _⟩
  · simp [zeroRecord, hname]
  · simp [zeroRecord, SensorRecord.valueLen, hvalue]
  · simp [zeroRecord, hunit]

private theorem oversized_written : (asdmGetSensorRepository [oversized.header] [oversized] true
    ⟨asdmCmdGetSdr, 0xC1, 0⟩).toOption.map (fun answer =>
      (answer.respSize, (answer.resp 1000).isSome)) = some (272, true) := by
  decide +kernel

/--
A name or a limit of no bytes fails an assertion of the copy; the 65808 bytes of
the third repository run over the 16 bits of the index.
-/
theorem consistent_not_decodes :
    (ConsistentSdr nameless ∧
      ¬ Decodes [nameless.header] [nameless] ⟨asdmCmdGetSdr, 0xC1, 0⟩ nameless) ∧
    (ConsistentSdr valueless ∧
      ¬ Decodes [valueless.header] [valueless] ⟨asdmCmdGetSdr, 0xC1, 0⟩ valueless) ∧
    ConsistentSdr oversized ∧
      ¬ Decodes [oversized.header] [oversized] ⟨asdmCmdGetSdr, 0xC1, 0⟩ oversized := by
  refine ⟨⟨?_, ?_⟩, ⟨?_, ?_⟩, ?_, ?_⟩
  · exact zeroSdr_consistent (zeroRecord_consistent (by decide) (by decide) (by decide) _) _
  · rintro ⟨answer, bytes, hanswer, -⟩
    cases hanswer
  · exact zeroSdr_consistent (zeroRecord_consistent (by decide) (by decide) (by decide) _) _
  · rintro ⟨answer, bytes, hanswer, -⟩
    cases hanswer
  · exact zeroSdr_consistent (zeroRecord_consistent (by decide) (by decide) (by decide) _) _
  · rintro ⟨answer, bytes, hanswer, hsize, hstored, -⟩
    have hwritten := oversized_written
    rw [hanswer] at hwritten
    simp only [Except.toOption, Option.map_some, Option.some.injEq, Prod.mk.injEq] at hwritten
    rw [hwritten.1] at hsize
    have hnone : bytes[999]? = none := List.getElem?_eq_none (by
      change 272 = _ at hsize
      omega)
    rw [hstored 999, hnone] at hwritten
    exact absurd hwritten.2 (by decide)

end Vmr.Asdm
