import Vmr.Asdm.ResponseBytes

/-!
# All sensors at once, and one after another

`Asdm_Get_All_Sensor_Data` and `Asdm_Get_Sensor_Data` encode a sensor in the
same bytes.  The one adds the sizes up in eight bits, and takes the length of
its response from that sum.
-/

namespace Vmr.Asdm

open Vmr.Lib

/-! ## Dynamic repositories -/

structure Readable (record : SensorRecord) : Prop where
  value : Copyable record.sensorValue record.valueLen
  maximum : Copyable record.sensorMaxValue record.valueLen
  average : Copyable record.sensorAverageValue record.valueLen

/-- The repository of a type, of which all records are dynamic. -/
structure DynamicRepository (headers : List AsdmHeader) (sdrInfo : List Sdr) (sid : UInt8)
    (sdr : Sdr) : Prop where
  supported : getSdrIndex headers sid ≠ -1
  found : sdrAt sdrInfo (getSdrIndex headers sid) = .ok sdr
  complete : sdr.sensorRecord.length = sdr.header.noOfRecords.toNat
  readable : ∀ record ∈ sdr.sensorRecord, Readable record

def bodyOf (answer : Answer) : List (Option UInt8) :=
  (List.range (answer.respSize.toNat - 2)).map fun offset => answer.resp (2 + offset)

def singleBodies (headers : List AsdmHeader) (sdrInfo : List Sdr) (sid : UInt8) (count : Nat) :
    Checked (List (List (Option UInt8))) :=
  (List.range count).mapM fun idx => bodyOf <$> asdmGetSensorData headers sdrInfo true
    ⟨asdmCmdGetSingleSensorData, sid, UInt8.ofNat (idx + 1)⟩

/-- The bulk answer holds the single ones, and says how long it is. -/
def BulkAgrees (headers : List AsdmHeader) (sdrInfo : List Sdr) (sid : UInt8) (sdr : Sdr) :
    Prop :=
  ∃ bulk bodies payloadSize,
    asdmGetAllSensorData headers sdrInfo true ⟨asdmCmdGetAllSensorData, sid, 0⟩ = .ok bulk ∧
    singleBodies headers sdrInfo sid sdr.header.noOfRecords.toNat = .ok bodies ∧
    (∀ offset, bulk.resp (3 + offset) = bodies.flatten[offset]?.join) ∧
    bulk.resp 2 = some payloadSize ∧ payloadSize.toNat = bodies.flatten.length ∧
    bulk.respSize.toNat = 3 + bodies.flatten.length

/-! ## Loops over records -/

theorem foldlM_recordAt {β : Type} (sdr : Sdr) (f : β → SensorRecord → Checked β) (b : β) :
    ((List.range sdr.sensorRecord.length).foldlM (fun b idx => do
      let record ← sdr.recordAt idx
      f b record) b) = sdr.sensorRecord.foldlM f b := by
  obtain ⟨header, records, asdmEor⟩ := sdr
  simp only [Sdr.recordAt]
  induction records generalizing b with
  | nil => rfl
  | cons record records ih =>
      rw [List.length_cons, List.range_succ_eq_map, List.foldlM_cons, List.foldlM_cons]
      change f b record >>= _ = _
      congr 1
      funext next
      rw [List.foldlM_map]
      exact ih next

private theorem mapM_ok {α β : Type} {f : α → Checked β} {g : α → β} {list : List α}
    (h : ∀ a ∈ list, f a = .ok (g a)) : list.mapM f = .ok (list.map g) := by
  induction list with
  | nil => rfl
  | cons a list ih =>
      rw [List.forall_mem_cons] at h
      rw [List.mapM_cons, h.1, ih h.2]
      rfl

private theorem lengthOf_le (typeLength : UInt8) : lengthOf typeLength ≤ 63 := by
  rw [lengthOf, UInt8.toNat_and]
  exact Nat.and_le_right

/-! ## The answers -/

theorem Readable.putSensorData {record : SensorRecord} (h : Readable record) (resp : Response) :
    ∃ resp', putSensorData record resp = .ok resp' :=
  (granted_putSensorData record resp).2 ⟨h.value, h.maximum, h.average⟩

theorem Readable.length_dataBytes {record : SensorRecord} (h : Readable record) :
    (dataBytes record).length = 2 + 3 * record.valueLen := by
  obtain ⟨resp, hput⟩ := h.putSensorData { bytes := fun _ => none, respIndex := 0 }
  exact Asdm.length_dataBytes hput

private theorem bodyOf_contains {resp : Response} {bytes : List UInt8} (h : resp.Contains 2 bytes)
    (status : Int) :
    bodyOf { status, resp := resp.bytes, respSize := resp.respIndex } = bytes.map some := by
  rw [bodyOf, h.respIndex, Nat.add_sub_cancel_left]
  refine List.ext_getElem (by simp) fun offset hleft hright => ?_
  simp only [List.length_map] at hright
  simp [h.stored, List.getElem?_eq_getElem hright]

private theorem contains_header (sid : UInt8) {start : UInt16} (hstart : 2 ≤ start.toNat) :
    Response.Contains
      { (({ bytes := fun _ => none, respIndex := 0 } : Response).byte
          asdmCcOperationSuccess).byte sid with respIndex := start } start.toNat [] := by
  refine ⟨rfl, fun offset => ?_⟩
  simp only [Response.byte, List.getElem?_nil]
  rw [Function.update_of_ne, Function.update_of_ne]
  · have hzero : (0 : UInt16).toNat = 0 := rfl
    omega
  · have hone : (0 + 1 : UInt16).toNat = 1 := rfl
    omega

section Answers

variable {headers : List AsdmHeader} {sdrInfo : List Sdr} {sid : UInt8} {sdr : Sdr}

private theorem DynamicRepository.single (h : DynamicRepository headers sdrInfo sid sdr) {idx : Nat}
    {record : SensorRecord} (hrecord : sdr.sensorRecord[idx]? = some record) :
    bodyOf <$> asdmGetSensorData headers sdrInfo true
      ⟨asdmCmdGetSingleSensorData, sid, UInt8.ofNat (idx + 1)⟩ =
        .ok ((dataBytes record).map some) := by
  have hreadable := h.readable record (List.mem_of_getElem? hrecord)
  have hlt : idx < 255 := by
    have hbound := sdr.header.noOfRecords.toNat_lt
    have hidx := (List.getElem?_eq_some_iff.1 hrecord).1
    rw [h.complete] at hidx
    omega
  have hindex : (UInt8.ofNat (idx + 1) - 1).toNat = idx := by
    rw [UInt8.toNat_sub, UInt8.toNat_ofNat', UInt8.toNat_one]
    omega
  have hstart : Response.Contains (({ bytes := fun _ => none, respIndex := 0 } : Response).byte
      asdmCcOperationSuccess |>.byte sid) 2 [] := @contains_header sid 2 (by decide)
  have hrecordAt : sdr.recordAt idx = .ok record := by
    simp [Sdr.recordAt, hrecord]
  obtain ⟨resp, hput⟩ := hreadable.putSensorData
    (({ bytes := fun _ => none, respIndex := 0 } : Response).byte asdmCcOperationSuccess |>.byte
      sid)
  have hlen := lengthOf_le record.sensorValueTypeLength
  have hcontains := putSensorData_contains hput hstart (by
    rw [List.nil_append, hreadable.length_dataBytes, SensorRecord.valueLen]
    omega)
  rw [asdmGetSensorData, if_neg h.supported, if_pos rfl, h.found]
  change bodyOf <$> (sdr.recordAt (UInt8.ofNat (idx + 1) - 1).toNat >>= _) = _
  rw [hindex, hrecordAt]
  change bodyOf <$> (putSensorData record _ >>= _) = _
  rw [hput]
  exact congrArg Except.ok (bodyOf_contains hcontains 0)

theorem DynamicRepository.singleBodies (h : DynamicRepository headers sdrInfo sid sdr) :
    singleBodies headers sdrInfo sid sdr.header.noOfRecords.toNat =
      .ok (sdr.sensorRecord.map fun record => (dataBytes record).map some) := by
  have hmap : sdr.sensorRecord.map (fun record => (dataBytes record).map some) =
      (List.range sdr.header.noOfRecords.toNat).map fun idx =>
        ((sdr.sensorRecord[idx]?).map fun record => (dataBytes record).map some).getD [] := by
    refine List.ext_getElem (by simp [h.complete]) fun idx hleft hright => ?_
    rw [List.length_map] at hleft
    simp [List.getElem?_eq_getElem hleft]
  rw [hmap]
  refine mapM_ok fun idx hidx => ?_
  have hlt : idx < sdr.sensorRecord.length := h.complete ▸ List.mem_range.1 hidx
  have hrecord := List.getElem?_eq_getElem hlt
  rw [h.single hrecord, hrecord]
  rfl

def bulkStep (built : Response × UInt8) (record : SensorRecord) : Checked (Response × UInt8) := do
  let resp ← putSensorData record built.1
  return (resp, built.2 + (1 + 3 * (record.sensorValueTypeLength &&& lengthBitmask) + 1))

private theorem bulkLoop {records : List SensorRecord}
    (hreadable : ∀ record ∈ records, Readable record)
    {resp : Response} (payloadSize : UInt8) {bytes : List UInt8} (h : resp.Contains 3 bytes)
    (hroom : bytes.length + 191 * records.length < 2 ^ 16 - 3) :
    ∃ resp' payloadSize',
      records.foldlM bulkStep (resp, payloadSize) = .ok (resp', payloadSize') ∧
      resp'.Contains 3 (bytes ++ records.flatMap dataBytes) ∧
      payloadSize'.toNat = (payloadSize.toNat + (records.flatMap dataBytes).length) % 2 ^ 8 := by
  induction records generalizing resp payloadSize bytes with
  | nil =>
      refine ⟨resp, payloadSize, rfl, by simpa using h, ?_⟩
      exact (Nat.mod_eq_of_lt payloadSize.toNat_lt).symm
  | cons record records ih =>
      rw [List.forall_mem_cons] at hreadable
      have hlen := lengthOf_le record.sensorValueTypeLength
      have hdata := hreadable.1.length_dataBytes
      rw [SensorRecord.valueLen] at hdata
      rw [List.length_cons] at hroom
      obtain ⟨next, hput⟩ := hreadable.1.putSensorData resp
      have hnext := putSensorData_contains hput h (by rw [List.length_append, hdata]; omega)
      obtain ⟨resp', payloadSize', hrun, hcontains, hsize⟩ := ih hreadable.2 _ hnext (by
        rw [List.length_append, hdata]
        omega)
      refine ⟨resp', payloadSize', ?_, ?_, ?_⟩
      · rw [List.foldlM_cons]
        simp only [bulkStep, hput]
        exact hrun
      · rw [List.flatMap_cons, ← List.append_assoc]
        exact hcontains
      · rw [hsize, List.flatMap_cons, List.length_append, hdata]
        simp only [lengthOf] at hdata ⊢
        simp only [UInt8.toNat_add, UInt8.toNat_mul, UInt8.reduceToNat]
        omega

private theorem DynamicRepository.bulk (h : DynamicRepository headers sdrInfo sid sdr) :
    ∃ resp payloadSize,
      asdmGetAllSensorData headers sdrInfo true ⟨asdmCmdGetAllSensorData, sid, 0⟩ =
        .ok { status := 0, resp := Function.update resp 2 (some payloadSize),
              respSize := 3 + payloadSize.toUInt16 } ∧
      (∀ offset, resp (3 + offset) = (sdr.sensorRecord.flatMap dataBytes)[offset]?) ∧
      payloadSize.toNat = (sdr.sensorRecord.flatMap dataBytes).length % 2 ^ 8 := by
  have hbound := sdr.header.noOfRecords.toNat_lt
  let resp := (({ bytes := fun _ => none, respIndex := 0 } : Response).byte
    asdmCcOperationSuccess).byte sid
  have hstart : Response.Contains { resp with respIndex := 3 } 3 [] :=
    @contains_header sid 3 (by decide)
  obtain ⟨resp', payloadSize, hrun, hcontains, hsize⟩ := bulkLoop h.readable 0 hstart (by
    rw [h.complete, List.length_nil]
    omega)
  have hloop := (foldlM_recordAt sdr bulkStep ({ resp with respIndex := 3 }, 0)).trans hrun
  rw [h.complete] at hloop
  have hall : asdmGetAllSensorData headers sdrInfo true ⟨asdmCmdGetAllSensorData, sid, 0⟩ = (do
      let built ← (List.range sdr.header.noOfRecords.toNat).foldlM (fun built idx => do
        let record ← sdr.recordAt idx
        bulkStep built record) ({ resp with respIndex := 3 }, 0)
      return { status := 0
               resp := Function.update built.1.bytes 2 (some built.2)
               respSize := 3 + built.2.toUInt16 }) := by
    rw [asdmGetAllSensorData, if_neg h.supported, if_pos rfl, h.found]
    rfl
  refine ⟨resp'.bytes, payloadSize, ?_, by simpa using hcontains.stored, by simpa using hsize⟩
  rw [hall, hloop]
  rfl

/--
The bulk answer agrees with the single ones exactly if the size of its body fits
the eight bits it is added up in.
-/
theorem bulkAgrees_iff (h : DynamicRepository headers sdrInfo sid sdr) :
    BulkAgrees headers sdrInfo sid sdr ↔
      (sdr.sensorRecord.map fun record => 2 + 3 * record.valueLen).sum ≤ 255 := by
  have hlength : (sdr.sensorRecord.flatMap dataBytes).length =
      (sdr.sensorRecord.map fun record => 2 + 3 * record.valueLen).sum := by
    rw [List.length_flatMap]
    exact congrArg List.sum (List.map_congr_left fun record hmem =>
      (h.readable record hmem).length_dataBytes)
  have hbodies : (sdr.sensorRecord.map fun record => (dataBytes record).map some).flatten =
      (sdr.sensorRecord.flatMap dataBytes).map some := by
    rw [List.flatMap, List.map_flatten, List.map_map]
    rfl
  obtain ⟨resp, payloadSize, hbulk, hstored, hsize⟩ := h.bulk
  rw [← hlength]
  constructor
  · rintro ⟨bulk, bodies, payloadSize', hbulk', hsingles, -, hpayload, hexact, -⟩
    rw [h.singleBodies] at hsingles
    cases hsingles
    rw [hbulk] at hbulk'
    cases hbulk'
    simp only [Function.update_self, Option.some.injEq] at hpayload
    subst hpayload
    have hbound := payloadSize.toNat_lt
    rw [hbodies, List.length_map] at hexact
    omega
  · intro hfits
    have hexact : payloadSize.toNat = (sdr.sensorRecord.flatMap dataBytes).length := by omega
    refine ⟨_, _, payloadSize, hbulk, h.singleBodies, fun offset => ?_, by simp, ?_, ?_⟩
    · simp only
      rw [Function.update_of_ne (by omega), hstored, hbodies, List.getElem?_map]
      cases (sdr.sensorRecord.flatMap dataBytes)[offset]? <;> rfl
    · rw [hbodies, List.length_map, hexact]
    · rw [hbodies, List.length_map, UInt16.toNat_add, UInt8.toNat_toUInt16, hexact,
        show (3 : UInt16).toNat = 3 from rfl]
      omega

end Answers

def temperatureRecord (idx : Nat) : SensorRecord where
  sensorId := UInt8.ofNat (idx + 1)
  sensorNameTypeLength := 0xC2
  sensorName := some [0x54, 0]
  sensorValueTypeLength := 2
  sensorValue := some [30, 0]
  sensorBaseUnitTypeLength := 0xC8
  sensorBaseUnit := some (text "Celsius" ++ [0])
  sensorUnitModifierByte := 0
  thresholdSupportByte := snsrMaxAvg
  limit := fun _ => none
  sensorStatus := sensorPresentAndValid
  sensorMaxValue := some [45, 0]
  sensorAverageValue := some [37, 0]
  sampleCount := 3
  sensorInstance := UInt8.ofNat idx

def temperatures (count : UInt8) : Sdr where
  header := ⟨.temperatureSdr, asdmHeaderVer, count, 0⟩
  sensorRecord := (List.range count.toNat).map temperatureRecord
  asdmEor := text "END" ++ [0]

private theorem temperatures_dynamic (count : UInt8) :
    DynamicRepository [(temperatures count).header] [temperatures count] 0xC1
      (temperatures count) := by
  have hindex : getSdrIndex [(temperatures count).header] 0xC1 = 0 := rfl
  have hlen (idx : Nat) : (temperatureRecord idx).valueLen = 2 := by
    change lengthOf 2 = 2
    decide
  refine ⟨by simp [hindex], by rw [hindex]; rfl, by simp [temperatures], fun record hmem => ?_⟩
  obtain ⟨idx, -, rfl⟩ := List.mem_map.1 hmem
  constructor <;> rw [hlen] <;> exact ⟨by decide, _, rfl, by simp⟩

/-- Two records take 16 bytes. -/
theorem temperatures_two_agree :
    BulkAgrees [(temperatures 2).header] [temperatures 2] 0xC1 (temperatures 2) :=
  (bulkAgrees_iff (temperatures_dynamic 2)).2 (by decide)

/-- 32 records take 256 bytes, and the answer says that it has none of them. -/
theorem temperatures_32_not_agree :
    ¬ BulkAgrees [(temperatures 32).header] [temperatures 32] 0xC1 (temperatures 32) := by
  rintro ⟨bulk, bodies, payloadSize, hbulk, hsingles, -, -, -, hsize⟩
  have hresp : (asdmGetAllSensorData [(temperatures 32).header] [temperatures 32] true
      ⟨asdmCmdGetAllSensorData, 0xC1, 0⟩).toOption.map Answer.respSize = some 3 := by
    decide +kernel
  have hlength : (singleBodies [(temperatures 32).header] [temperatures 32] 0xC1
      32).toOption.map (fun bodies => bodies.flatten.length) = some 256 := by
    decide +kernel
  rw [hbulk] at hresp
  change singleBodies _ _ _ 32 = _ at hsingles
  rw [hsingles] at hlength
  have hflatten : bodies.flatten.length = 256 := Option.some.inj hlength
  rw [Option.some.inj hresp, hflatten] at hsize
  exact absurd hsize (by decide)

end Vmr.Asdm
