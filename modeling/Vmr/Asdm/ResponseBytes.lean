import Vmr.Asdm.Request

/-!
# The bytes of a response

Every handler writes its response from front to back.  Up to 16 bits of index
the response is a list of bytes from a first index on, and a store appends to
the list.
-/

namespace Vmr.Asdm

open Vmr.Lib

/-! ## Appending -/

/-- From `start` on the response holds these bytes, and nothing behind them. -/
structure Response.Contains (resp : Response) (start : Nat) (bytes : List UInt8) : Prop where
  respIndex : resp.respIndex.toNat = start + bytes.length
  stored : ∀ offset, resp.bytes (start + offset) = bytes[offset]?

def fieldBytes (field : Option (List UInt8)) (size : Nat) : List UInt8 := (field.getD []).take size

theorem Copyable.length_fieldBytes {field : Option (List UInt8)} {size : Nat}
    (h : Copyable field size) : (fieldBytes field size).length = size := by
  obtain ⟨-, bytes, rfl, hsize⟩ := h
  simp [fieldBytes, Nat.min_eq_left hsize]

section Contains

variable {resp resp' : Response} {start : Nat} {bytes : List UInt8}

theorem Response.Contains.append (h : resp.Contains start bytes) {new : List UInt8}
    (hindex : resp'.respIndex.toNat = resp.respIndex.toNat + new.length)
    (hnew : ∀ offset < new.length, resp'.bytes (resp.respIndex.toNat + offset) = new[offset]?)
    (hother : ∀ index, index < resp.respIndex.toNat ∨ resp.respIndex.toNat + new.length ≤ index →
      resp'.bytes index = resp.bytes index) : resp'.Contains start (bytes ++ new) := by
  have hend := h.respIndex
  constructor
  · rw [hindex, hend, List.length_append, Nat.add_assoc]
  · intro offset
    rcases Nat.lt_or_ge offset bytes.length with hlow | hhigh
    · rw [hother _ (.inl (by omega)), h.stored, List.getElem?_append_left hlow]
    · rw [List.getElem?_append_right hhigh]
      rcases Nat.lt_or_ge (offset - bytes.length) new.length with hin | hout
      · rw [← hnew _ hin, hend]
        congr 1
        omega
      · rw [hother _ (.inr (by omega)), h.stored, List.getElem?_eq_none hhigh,
          List.getElem?_eq_none hout]

private theorem room_before {before later : List UInt8}
    (h : start + (before ++ later).length < 2 ^ 16) : start + before.length < 2 ^ 16 := by
  rw [List.length_append] at h
  omega

theorem Response.Contains.byte (h : resp.Contains start bytes) (value : UInt8)
    (hroom : start + (bytes ++ [value]).length < 2 ^ 16) :
    (resp.byte value).Contains start (bytes ++ [value]) := by
  have hend := h.respIndex
  refine h.append ?_ ?_ ?_
  · rw [List.length_append, List.length_singleton] at hroom
    simp only [Response.byte, UInt16.toNat_add, List.length_singleton]
    simp
    omega
  · intro offset hoffset
    have hzero : offset = 0 := by simpa using hoffset
    simp [Response.byte, hzero]
  · intro index hindex
    rw [List.length_singleton] at hindex
    exact Function.update_of_ne (by omega) _ _

theorem Response.Contains.copy {source : Option (List UInt8)} {size : Nat}
    (h : resp.Contains start bytes) (hcopy : resp.copy source size = .ok resp')
    (hroom : start + (bytes ++ fieldBytes source size).length < 2 ^ 16) :
    resp'.Contains start (bytes ++ fieldBytes source size) := by
  have hend := h.respIndex
  have hcopyable := (granted_copy resp source size).1 ⟨_, hcopy⟩
  have hlength := hcopyable.length_fieldBytes
  rw [List.length_append, hlength] at hroom
  obtain ⟨hsize, content, rfl, hlong⟩ := hcopyable
  rw [Response.copy, if_neg hsize, if_neg (Nat.not_lt.2 hlong)] at hcopy
  cases hcopy
  refine h.append ?_ ?_ ?_
  · rw [hlength, UInt16.toNat_add, UInt16.toNat_ofNat']
    omega
  · intro offset hoffset
    rw [hlength] at hoffset
    simp [fieldBytes, hoffset]
  · intro index hindex
    rw [hlength] at hindex
    simp only
    rw [if_neg (by omega)]

def optionalBytes (condition : Bool) (field : Option (List UInt8)) (size : Nat) : List UInt8 :=
  if condition then fieldBytes field size else []

theorem Response.Contains.copyIf {condition : Bool} {source : Option (List UInt8)} {size : Nat}
    (h : resp.Contains start bytes) (hcopy : resp.copyIf condition source size = .ok resp')
    (hroom : start + (bytes ++ optionalBytes condition source size).length < 2 ^ 16) :
    resp'.Contains start (bytes ++ optionalBytes condition source size) := by
  cases condition with
  | false =>
      cases hcopy
      simpa [optionalBytes] using h
  | true => exact h.copy hcopy hroom

end Contains

/-! ## Records -/

def dataBytes (record : SensorRecord) : List UInt8 :=
  [record.sensorValueTypeLength &&& lengthBitmask] ++
    fieldBytes record.sensorValue record.valueLen ++
    fieldBytes record.sensorMaxValue record.valueLen ++
    fieldBytes record.sensorAverageValue record.valueLen ++ [record.sensorStatus]

def recordBytes (record : SensorRecord) : List UInt8 :=
  [record.sensorId, record.sensorNameTypeLength] ++
    fieldBytes record.sensorName (lengthOf record.sensorNameTypeLength) ++
    [record.sensorValueTypeLength] ++
    optionalBytes (record.valueLen != 0) record.sensorValue record.valueLen ++
    [record.sensorBaseUnitTypeLength] ++
    optionalBytes (lengthOf record.sensorBaseUnitTypeLength != 0) record.sensorBaseUnit
      (lengthOf record.sensorBaseUnitTypeLength) ++
    [record.sensorUnitModifierByte, record.thresholdSupportByte] ++
    thresholdOrder.flatMap (fun threshold =>
      optionalBytes (record.thresholdSupportByte &&& threshold.mask != 0)
        (record.limit threshold) record.valueLen) ++
    [record.sensorStatus] ++
    optionalBytes (record.thresholdSupportByte &&& sensorAvgValSupport != 0)
      record.sensorAverageValue record.valueLen ++
    optionalBytes (record.thresholdSupportByte &&& sensorMaxValSupport != 0)
      record.sensorMaxValue record.valueLen

section Put

variable {record : SensorRecord} {resp resp' : Response} {start : Nat} {bytes : List UInt8}

theorem putSensorData_contains (hput : putSensorData record resp = .ok resp')
    (h : resp.Contains start bytes)
    (hroom : start + (bytes ++ dataBytes record).length < 2 ^ 16) :
    resp'.Contains start (bytes ++ dataBytes record) := by
  unfold putSensorData at hput
  obtain ⟨resp₁, hvalue, hput⟩ := checked_bind_ok hput
  obtain ⟨resp₂, hmaximum, hput⟩ := checked_bind_ok hput
  obtain ⟨resp₃, haverage, hstatus⟩ := checked_bind_ok hput
  simp only [dataBytes, ← List.append_assoc, SensorRecord.valueLen] at hroom ⊢
  have hroomAverage := room_before hroom
  have hroomMaximum := room_before hroomAverage
  have hroomValue := room_before hroomMaximum
  have hlength := h.byte (record.sensorValueTypeLength &&& lengthBitmask) (room_before hroomValue)
  have hvalueBytes := hlength.copy hvalue hroomValue
  have hmaximumBytes := hvalueBytes.copy hmaximum hroomMaximum
  have haverageBytes := hmaximumBytes.copy haverage hroomAverage
  exact haverageBytes.copy hstatus hroom

theorem length_dataBytes (hput : putSensorData record resp = .ok resp') :
    (dataBytes record).length = 2 + 3 * record.valueLen := by
  obtain ⟨hvalue, hmaximum, haverage⟩ := (granted_putSensorData record resp).1 ⟨_, hput⟩
  simp only [dataBytes, List.length_append, List.length_singleton, SensorRecord.valueLen]
  rw [hvalue.length_fieldBytes, hmaximum.length_fieldBytes, haverage.length_fieldBytes]
  omega

private theorem putLimits_contains {valueLen : Nat} {thresholds : List Threshold}
    (hput : thresholds.foldlM (fun resp threshold =>
      resp.copyIf (record.thresholdSupportByte &&& threshold.mask != 0) (record.limit threshold)
        valueLen) resp = .ok resp')
    (h : resp.Contains start bytes)
    (hroom : start + (bytes ++ thresholds.flatMap (fun threshold =>
      optionalBytes (record.thresholdSupportByte &&& threshold.mask != 0)
        (record.limit threshold) valueLen)).length < 2 ^ 16) :
    resp'.Contains start (bytes ++ thresholds.flatMap (fun threshold =>
      optionalBytes (record.thresholdSupportByte &&& threshold.mask != 0)
        (record.limit threshold) valueLen)) := by
  induction thresholds generalizing resp bytes with
  | nil =>
      cases hput
      simpa using h
  | cons threshold thresholds ih =>
      rw [List.foldlM_cons] at hput
      obtain ⟨resp₁, hfirst, hrest⟩ := checked_bind_ok hput
      rw [List.flatMap_cons, ← List.append_assoc] at hroom ⊢
      exact ih hrest (h.copyIf hfirst (room_before hroom)) hroom

theorem putRecord_contains (hput : putRecord record resp = .ok resp')
    (h : resp.Contains start bytes)
    (hroom : start + (bytes ++ recordBytes record).length < 2 ^ 16) :
    resp'.Contains start (bytes ++ recordBytes record) := by
  unfold putRecord at hput
  obtain ⟨resp₁, hname, hput⟩ := checked_bind_ok hput
  obtain ⟨resp₂, hvalue, hput⟩ := checked_bind_ok hput
  obtain ⟨resp₃, hunit, hput⟩ := checked_bind_ok hput
  obtain ⟨resp₄, hlimits, hput⟩ := checked_bind_ok hput
  obtain ⟨resp₅, haverage, hmaximum⟩ := checked_bind_ok hput
  have hpair (first second : UInt8) : [first, second] = [first] ++ [second] := rfl
  simp only [recordBytes, hpair, ← List.append_assoc, SensorRecord.valueLen] at hroom ⊢
  have hroomAverage := room_before hroom
  have hroomStatus := room_before hroomAverage
  have hroomLimits := room_before hroomStatus
  have hroomSupport := room_before hroomLimits
  have hroomModifier := room_before hroomSupport
  have hroomUnit := room_before hroomModifier
  have hroomUnitLength := room_before hroomUnit
  have hroomValue := room_before hroomUnitLength
  have hroomValueLength := room_before hroomValue
  have hroomName := room_before hroomValueLength
  have hroomNameLength := room_before hroomName
  have hid := h.byte record.sensorId (room_before hroomNameLength)
  have hnameLength := hid.byte record.sensorNameTypeLength hroomNameLength
  have hnameBytes := hnameLength.copy hname hroomName
  have hvalueLength := hnameBytes.byte record.sensorValueTypeLength hroomValueLength
  have hvalueBytes := hvalueLength.copyIf hvalue hroomValue
  have hunitLength := hvalueBytes.byte record.sensorBaseUnitTypeLength hroomUnitLength
  have hunitBytes := hunitLength.copyIf hunit hroomUnit
  have hmodifier := hunitBytes.byte record.sensorUnitModifierByte hroomModifier
  have hsupport := hmodifier.byte record.thresholdSupportByte hroomSupport
  have hlimitBytes := putLimits_contains hlimits hsupport hroomLimits
  have hstatus := hlimitBytes.byte record.sensorStatus hroomStatus
  have haverageBytes := hstatus.copyIf haverage hroomAverage
  exact haverageBytes.copyIf hmaximum hroom

end Put

end Vmr.Asdm
