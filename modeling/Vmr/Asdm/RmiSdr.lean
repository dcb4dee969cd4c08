import Vmr.Asdm.Bulk
import Vmr.Lib.Word

/-!
# The sensor records for RMI

`xGet_Sdr_Api` writes a header and the records of every repository but the first.  Its
offset starts behind the header and so counts it; the size it reports adds the header
once more.  What the RMI library declares is `RmiApi`.
-/

namespace Vmr.Asdm

open Vmr.Lib

/-! ## What the library declares -/

structure RmiSdrHeader where
  repositoryType : UInt8
  repositoryVersion : UInt8
  noOfRecords : Nat
  noOfBytes : Nat
  deriving DecidableEq, Repr

structure RmiApi where
  sizeofSdrHeader : Nat
  recordBits : Nat
  byteBits : Nat
  headerBytes : RmiSdrHeader → List UInt8
  length_headerBytes : ∀ header, (headerBytes header).length = sizeofSdrHeader
  sizeof_pos : 0 < sizeofSdrHeader
  sizeof_lt : sizeofSdrHeader < 2 ^ 16
  apiRequestHeaderSize : UInt16
  apiResponseHeaderSize : UInt16
  apiIdIndex : Nat
  apiCompletionCodeIndex : Nat
  apiResponseRepoTypeIndex : Nat
  apiResponsePayloadSizeLsb : Nat
  apiResponsePayloadSizeMsb : Nat
  apiCmdGetSdrApiId : UInt8
  apiCmdGetAllSensorDataApiId : UInt8
  eRmiSdr : UInt8
  eRmiCcOperationSuccess : UInt8

inductive RmiErrorCode where
  | success | generic | invalidArgument | invalidApiId
  deriving DecidableEq, Repr

/-! ## The payload -/

/-- What was stored behind `pucPayload`, `xOffset`, and the records that were stored. -/
structure Payload where
  bytes : Nat → Option UInt8
  xOffset : Nat
  records : Nat

namespace Payload

def empty : Payload := ⟨fun _ => none, 0, 0⟩

def put (payload : Payload) (new : List UInt8) : Payload :=
  { payload with
    bytes := fun index =>
      if payload.xOffset ≤ index ∧ index < payload.xOffset + new.length then
        new[index - payload.xOffset]?
      else payload.bytes index
    xOffset := payload.xOffset + new.length }

@[simp] theorem put_nil (payload : Payload) : payload.put [] = payload := by
  have hbytes : (payload.put []).bytes = payload.bytes := by
    funext index
    exact if_neg (by rw [List.length_nil]; omega)
  exact congrArg (Payload.mk · payload.xOffset payload.records) hbytes

def copy (payload : Payload) (source : Option (List UInt8)) (size : Nat) : Checked Payload :=
  match source with
  | none => .error .assertion
  | some content =>
      if size = 0 then .error .assertion
      else if content.length < size then .error .outside
      else return payload.put (content.take size)

def copySome (payload : Payload) (source : Option (List UInt8)) (size : Nat) : Checked Payload :=
  if source.isSome then payload.copy source size else return payload

end Payload

def putSdrRecord (record : SensorRecord) (payload : Payload) : Checked Payload := do
  let valueLen := lengthOf record.sensorValueTypeLength
  let payload := payload.put [record.sensorId]
  let payload := payload.put [record.sensorNameTypeLength]
  let payload ← payload.copy record.sensorName (lengthOf record.sensorNameTypeLength)
  let payload := payload.put [record.sensorValueTypeLength]
  let payload ← payload.copy record.sensorValue valueLen
  let payload := payload.put [record.sensorBaseUnitTypeLength]
  let payload ← payload.copySome record.sensorBaseUnit (lengthOf record.sensorBaseUnitTypeLength)
  let payload := payload.put [record.sensorUnitModifierByte]
  let payload := payload.put [record.thresholdSupportByte]
  let payload ← thresholdOrder.foldlM (fun payload threshold =>
    payload.copySome (record.limit threshold) valueLen) payload
  let payload := payload.put [record.sensorStatus]
  return { payload with records := payload.records + 1 }

def putSdrRepository (sdr : Sdr) (payload : Payload) : Checked Payload :=
  (List.range sdr.header.noOfRecords.toNat).foldlM (fun payload j => do
    let record ← sdr.recordAt j
    putSdrRecord record payload) payload

section Handler

variable (api : RmiApi)

structure SdrPayload where
  payload : Payload
  header : RmiSdrHeader
  payloadSize : UInt16

def storeNoOfBytes (header : RmiSdrHeader) (payload : Payload) : RmiSdrHeader × Payload :=
  let header := { header with noOfBytes := payload.xOffset % 2 ^ api.byteBits }
  (header, { payload with
    bytes := fun index =>
      if index < api.sizeofSdrHeader then (api.headerBytes header)[index]?
      else payload.bytes index })

def buildSdr (sdrInfo : List Sdr) : Checked SdrPayload := do
  let ulTotalRecords := ((sdrInfo.drop 1).map fun sdr => sdr.header.noOfRecords.toNat).sum
  let header : RmiSdrHeader :=
    { repositoryType := api.eRmiSdr
      repositoryVersion := 0
      noOfRecords := ulTotalRecords % 2 ^ api.recordBits
      noOfBytes := 0 }
  let payload := Payload.empty.put (api.headerBytes header)
  let payload ← (sdrInfo.drop 1).foldlM (fun payload sdr => putSdrRepository sdr payload) payload
  let (header, payload) := storeNoOfBytes api header payload
  return { payload, header, payloadSize := UInt16.ofNat (api.sizeofSdrHeader + payload.xOffset) }

/-- `taken` and `given`: how the lock answers. -/
def xGetSdrApi (taken given : Bool) (sdrInfo : List Sdr) :
    Checked (RmiErrorCode × Option SdrPayload) :=
  if taken = false then return (.generic, none)
  else do
    let built ← buildSdr api sdrInfo
    return (if given = true then .success else .generic, some built)

structure RmiAnswer where
  err : RmiErrorCode
  resp : Nat → Option UInt8
  respSize : Option UInt16

structure RmiRequest where
  pucReq : Option Memory
  pusReqSize : Option UInt16
  hasResp : Bool
  hasRespSize : Bool

def RmiApi.respond (payload : Nat → Option UInt8) (payloadSize : UInt16) (ucApiId : UInt8) :
    RmiAnswer :=
  let start := api.apiResponseHeaderSize.toNat
  let resp : Nat → Option UInt8 := fun index =>
    if start ≤ index then payload (index - start) else none
  let resp := Function.update resp api.apiIdIndex (some ucApiId)
  let resp := Function.update resp api.apiCompletionCodeIndex (some api.eRmiCcOperationSuccess)
  let resp := Function.update resp api.apiResponseRepoTypeIndex (some api.eRmiSdr)
  let resp := Function.update resp api.apiResponsePayloadSizeLsb (some payloadSize.toUInt8)
  let resp := Function.update resp api.apiResponsePayloadSizeMsb (some (payloadSize >>> 8).toUInt8)
  { err := .success, resp, respSize := some (api.apiResponseHeaderSize + payloadSize) }

def RmiAnswer.failed (err : RmiErrorCode) : RmiAnswer := ⟨err, fun _ => none, none⟩

def xRmiRequestHandler (allSensorData : Checked (RmiErrorCode × (Nat → Option UInt8) × UInt16))
    (taken given : Bool) (sdrInfo : List Sdr) (request : RmiRequest) : Checked RmiAnswer :=
  match request.pusReqSize with
  | none => return .failed .invalidArgument
  | some reqSize =>
      if api.apiRequestHeaderSize ≤ reqSize ∧ request.hasRespSize = true ∧ request.hasResp = true then
        match request.pucReq with
        | none => return .failed .invalidArgument
        | some pucReq =>
            let ucApiId := pucReq api.apiIdIndex
            if ucApiId = api.apiCmdGetSdrApiId then do
              let (err, built) ← xGetSdrApi api taken given sdrInfo
              match err, built with
              | .success, some built =>
                  return api.respond built.payload.bytes built.payloadSize ucApiId
              | _, _ => return .failed .generic
            else if ucApiId = api.apiCmdGetAllSensorDataApiId then do
              let (err, payload, payloadSize) ← allSensorData
              if err = .success then return api.respond payload payloadSize ucApiId
              else return .failed .generic
            else return .failed .invalidApiId
      else return .failed .invalidArgument

structure RmiRequest.AsksSdr (request : RmiRequest) : Prop where
  asked : ∃ pucReq, request.pucReq = some pucReq ∧ pucReq api.apiIdIndex = api.apiCmdGetSdrApiId
  size : ∃ reqSize, request.pusReqSize = some reqSize ∧ api.apiRequestHeaderSize ≤ reqSize
  hasResp : request.hasResp = true
  hasRespSize : request.hasRespSize = true

/-- The payload is these bytes, and everything that is said of it is true. -/
structure ExactSdr (built : SdrPayload) (answer : RmiAnswer) (bytes : List UInt8) : Prop where
  written : ∀ index, built.payload.bytes index = bytes[index]?
  payloadSize : built.payloadSize.toNat = bytes.length
  noOfRecords : built.header.noOfRecords = built.payload.records
  respSize : answer.respSize.map UInt16.toNat =
    some (api.apiResponseHeaderSize.toNat + bytes.length)
  sizeBytes : ∃ low high, answer.resp api.apiResponsePayloadSizeLsb = some low ∧
    answer.resp api.apiResponsePayloadSizeMsb = some high ∧
    low.toNat + 256 * high.toNat = bytes.length

def AnswersExactly (sdrInfo : List Sdr) (request : RmiRequest) : Prop :=
  ∃ allSensorData built answer bytes,
    xGetSdrApi api true true sdrInfo = .ok (.success, some built) ∧
    xRmiRequestHandler api allSensorData true true sdrInfo request = .ok answer ∧
    ExactSdr api built answer bytes

end Handler

/-! ## What is written -/

def rmiRecordBytes (record : SensorRecord) : List UInt8 :=
  [record.sensorId, record.sensorNameTypeLength] ++
    fieldBytes record.sensorName (lengthOf record.sensorNameTypeLength) ++
    [record.sensorValueTypeLength] ++ fieldBytes record.sensorValue record.valueLen ++
    [record.sensorBaseUnitTypeLength] ++
    fieldBytes record.sensorBaseUnit (lengthOf record.sensorBaseUnitTypeLength) ++
    [record.sensorUnitModifierByte, record.thresholdSupportByte] ++
    thresholdOrder.flatMap (fun threshold => fieldBytes (record.limit threshold) record.valueLen) ++
    [record.sensorStatus]

structure Payload.Holds (payload : Payload) (bytes : List UInt8) : Prop where
  xOffset : payload.xOffset = bytes.length
  stored : ∀ index, payload.bytes index = bytes[index]?

section Holds

variable {payload payload' : Payload} {bytes : List UInt8}

theorem Payload.Holds.empty : Payload.empty.Holds [] := ⟨rfl, fun _ => rfl⟩

theorem Payload.Holds.put (h : payload.Holds bytes) (new : List UInt8) :
    (payload.put new).Holds (bytes ++ new) := by
  refine ⟨by simp [Payload.put, h.xOffset], fun index => ?_⟩
  simp only [Payload.put, h.xOffset, h.stored]
  split
  · rename_i hnew
    rw [List.getElem?_append_right hnew.1]
  · rename_i hold
    rcases Nat.lt_or_ge index bytes.length with hlow | hhigh
    · rw [List.getElem?_append_left hlow]
    · rw [List.getElem?_eq_none hhigh, List.getElem?_eq_none (by rw [List.length_append]; omega)]

private theorem copy_put {source : Option (List UInt8)} {size : Nat}
    (h : payload.copy source size = .ok payload') : payload' = payload.put (fieldBytes source size) := by
  unfold Payload.copy at h
  split at h
  · cases h
  · split at h
    · cases h
    · split at h
      · cases h
      · exact (Except.ok.inj h).symm

private theorem copySome_put {source : Option (List UInt8)} {size : Nat}
    (h : payload.copySome source size = .ok payload') :
    payload' = payload.put (fieldBytes source size) := by
  unfold Payload.copySome at h
  split at h
  · exact copy_put h
  · rename_i hnone
    have hsource : source = none := by simpa using hnone
    subst hsource
    cases h
    simp [fieldBytes]

private theorem putLimits_holds {limit : Threshold → Option (List UInt8)} {size : Nat}
    {thresholds : List Threshold}
    (hput : thresholds.foldlM (fun payload threshold =>
      payload.copySome (limit threshold) size) payload = .ok payload')
    (h : payload.Holds bytes) :
    payload'.Holds (bytes ++ thresholds.flatMap fun threshold => fieldBytes (limit threshold) size) ∧
      payload'.records = payload.records := by
  induction thresholds generalizing payload bytes with
  | nil =>
      cases hput
      exact ⟨by simpa using h, rfl⟩
  | cons threshold thresholds ih =>
      rw [List.foldlM_cons] at hput
      obtain ⟨payload₁, hfirst, hrest⟩ := checked_bind_ok hput
      obtain rfl := copySome_put hfirst
      obtain ⟨hholds, hrecords⟩ := ih hrest (h.put _)
      rw [List.flatMap_cons, ← List.append_assoc]
      exact ⟨hholds, hrecords⟩

private theorem putSdrRecord_holds {record : SensorRecord}
    (hput : putSdrRecord record payload = .ok payload')
    (h : payload.Holds bytes) :
    payload'.Holds (bytes ++ rmiRecordBytes record) ∧ payload'.records = payload.records + 1 := by
  unfold putSdrRecord at hput
  obtain ⟨payload₁, hname, hput⟩ := checked_bind_ok hput
  obtain ⟨payload₂, hvalue, hput⟩ := checked_bind_ok hput
  obtain ⟨payload₃, hunit, hput⟩ := checked_bind_ok hput
  obtain ⟨payload₄, hlimits, hput⟩ := checked_bind_ok hput
  cases hput
  obtain rfl := copy_put hname
  obtain rfl := copy_put hvalue
  obtain rfl := copySome_put hunit
  have hbefore := ((((((((h.put [record.sensorId]).put [record.sensorNameTypeLength]).put
    (fieldBytes record.sensorName (lengthOf record.sensorNameTypeLength))).put
    [record.sensorValueTypeLength]).put (fieldBytes record.sensorValue record.valueLen)).put
    [record.sensorBaseUnitTypeLength]).put (fieldBytes record.sensorBaseUnit
      (lengthOf record.sensorBaseUnitTypeLength))).put [record.sensorUnitModifierByte]).put
    [record.thresholdSupportByte]
  obtain ⟨hholds, hrecords⟩ := putLimits_holds hlimits hbefore
  have hall := hholds.put [record.sensorStatus]
  refine ⟨⟨?_, fun index => ?_⟩, congrArg Nat.succ hrecords⟩
  · simpa [rmiRecordBytes, SensorRecord.valueLen] using hall.xOffset
  · simpa [rmiRecordBytes, SensorRecord.valueLen] using hall.stored index

private theorem putRounds_holds {sdr : Sdr} {rounds : List Nat}
    (hput : rounds.foldlM (fun payload j => do
      let record ← sdr.recordAt j
      putSdrRecord record payload) payload = .ok payload')
    (h : payload.Holds bytes) :
    ∃ records : List SensorRecord,
      rounds.map (fun j => sdr.sensorRecord[j]?) = records.map some ∧
      payload'.Holds (bytes ++ records.flatMap rmiRecordBytes) ∧
      payload'.records = payload.records + records.length := by
  induction rounds generalizing payload bytes with
  | nil =>
      cases hput
      exact ⟨[], rfl, by simpa using h, rfl⟩
  | cons j rounds ih =>
      rw [List.foldlM_cons] at hput
      obtain ⟨payload₁, hround, hrest⟩ := checked_bind_ok hput
      obtain ⟨record, hrecord, hround⟩ := checked_bind_ok hround
      obtain ⟨hfirst, hcount⟩ := putSdrRecord_holds hround h
      obtain ⟨records, hrecords, hholds, hcounts⟩ := ih hrest hfirst
      have hread : sdr.sensorRecord[j]? = some record := by
        unfold Sdr.recordAt at hrecord
        split at hrecord
        · cases hrecord
        · rename_i hfound
          rw [hfound, Except.ok.inj hrecord]
      refine ⟨record :: records, by rw [List.map_cons, List.map_cons, hread, hrecords], ?_, ?_⟩
      · rwa [List.flatMap_cons, ← List.append_assoc]
      · rw [hcounts, hcount, List.length_cons, Nat.add_assoc, Nat.add_comm 1]

private theorem putSdrRepository_holds {sdr : Sdr}
    (hput : putSdrRepository sdr payload = .ok payload')
    (h : payload.Holds bytes) :
    payload'.Holds (bytes ++
        (sdr.sensorRecord.take sdr.header.noOfRecords.toNat).flatMap rmiRecordBytes) ∧
      payload'.records = payload.records + sdr.header.noOfRecords.toNat := by
  obtain ⟨records, hrecords, hholds, hcount⟩ := putRounds_holds hput h
  have hlength : records.length = sdr.header.noOfRecords.toNat := by
    simpa using (congrArg List.length hrecords).symm
  have htake : records = sdr.sensorRecord.take sdr.header.noOfRecords.toNat := by
    refine List.ext_getElem? fun index => ?_
    rcases Nat.lt_or_ge index sdr.header.noOfRecords.toNat with hlt | hge
    · have hread := congrArg (fun list => list[index]?) hrecords
      rw [List.getElem?_map, List.getElem?_range hlt, List.getElem?_map,
        List.getElem?_eq_getElem (hlength ▸ hlt)] at hread
      rw [List.getElem?_eq_getElem (hlength ▸ hlt), List.getElem?_take_of_lt hlt]
      exact (Option.some.inj hread).symm
    · rw [List.getElem?_eq_none (hlength ▸ hge),
        List.getElem?_eq_none (by rw [List.length_take]; omega)]
  rw [← htake, hcount, hlength]
  exact ⟨hholds, rfl⟩

private theorem putRepositories_holds {sdrs : List Sdr}
    (hput : sdrs.foldlM (fun payload sdr => putSdrRepository sdr payload) payload = .ok payload')
    (h : payload.Holds bytes) :
    payload'.Holds (bytes ++ sdrs.flatMap fun sdr =>
        (sdr.sensorRecord.take sdr.header.noOfRecords.toNat).flatMap rmiRecordBytes) ∧
      payload'.records = payload.records + (sdrs.map fun sdr => sdr.header.noOfRecords.toNat).sum := by
  induction sdrs generalizing payload bytes with
  | nil =>
      cases hput
      exact ⟨by simpa using h, rfl⟩
  | cons sdr sdrs ih =>
      rw [List.foldlM_cons] at hput
      obtain ⟨payload₁, hfirst, hrest⟩ := checked_bind_ok hput
      obtain ⟨hholds, hcount⟩ := putSdrRepository_holds hfirst h
      obtain ⟨hall, hcounts⟩ := ih hrest hholds
      rw [List.flatMap_cons, ← List.append_assoc]
      refine ⟨hall, ?_⟩
      rw [hcounts, hcount, List.map_cons, List.sum_cons, Nat.add_assoc]

end Holds

/-! ## What is reported -/

section Reported

variable {api : RmiApi} {sdrInfo : List Sdr} {built : SdrPayload}

def sentBytes (sdrInfo : List Sdr) : List UInt8 :=
  (sdrInfo.drop 1).flatMap fun sdr =>
    (sdr.sensorRecord.take sdr.header.noOfRecords.toNat).flatMap rmiRecordBytes

/-- The payload is right, its count fits its field or is cut, and its size is reported too long. -/
structure BuiltSdr (api : RmiApi) (sdrInfo : List Sdr) (built : SdrPayload) : Prop where
  holds : built.payload.Holds (api.headerBytes built.header ++ sentBytes sdrInfo)
  noOfRecords : built.header.noOfRecords = built.payload.records % 2 ^ api.recordBits
  payloadSize : built.payloadSize = UInt16.ofNat (api.sizeofSdrHeader + built.payload.xOffset)

private theorem buildSdr_built (h : buildSdr api sdrInfo = .ok built) :
    BuiltSdr api sdrInfo built := by
  unfold buildSdr at h
  obtain ⟨payload, hput, h⟩ := checked_bind_ok h
  cases h
  obtain ⟨hholds, hcount⟩ := putRepositories_holds hput (Payload.Holds.empty.put _)
  rw [List.nil_append] at hholds
  refine ⟨⟨?_, fun index => ?_⟩, ?_, rfl⟩
  · have hoffset := hholds.xOffset
    rw [List.length_append, api.length_headerBytes] at hoffset ⊢
    exact hoffset
  · -- the header is stored again, over the first one
    change (if index < api.sizeofSdrHeader then (api.headerBytes _)[index]?
      else payload.bytes index) = _
    split
    · rename_i hheader
      exact (List.getElem?_append_left (by rwa [api.length_headerBytes])).symm
    · rename_i hbehind
      have hlength := api.length_headerBytes
      rw [hholds.stored, List.getElem?_append_right (by rw [hlength]; omega),
        List.getElem?_append_right (by rw [hlength]; omega), hlength, hlength]
      rfl
  · change _ % _ = payload.records % _
    rw [hcount]
    exact congrArg (· % _) (Nat.zero_add _).symm

private theorem BuiltSdr.payloadSize_ne (h : BuiltSdr api sdrInfo built) {bytes : List UInt8}
    (hwritten : ∀ index, built.payload.bytes index = bytes[index]?) :
    built.payloadSize.toNat ≠ bytes.length := by
  have hbytes : bytes = api.headerBytes built.header ++ sentBytes sdrInfo :=
    List.ext_getElem? fun index => (hwritten index).symm.trans (h.holds.stored index)
  have hoffset := h.holds.xOffset
  rw [← hbytes] at hoffset
  rw [h.payloadSize, UInt16.toNat_ofNat', hoffset]
  have hpos := api.sizeof_pos
  have hlt := api.sizeof_lt
  omega

theorem xRmiRequestHandler_asksSdr {request : RmiRequest} (hasks : request.AsksSdr api)
    (h : buildSdr api sdrInfo = .ok built)
    (allSensorData : Checked (RmiErrorCode × (Nat → Option UInt8) × UInt16)) :
    xRmiRequestHandler api allSensorData true true sdrInfo request =
      .ok (api.respond built.payload.bytes built.payloadSize api.apiCmdGetSdrApiId) := by
  obtain ⟨⟨pucReq, hreq, hid⟩, ⟨reqSize, hreqSize, hsize⟩, hresp, hrespSize⟩ := hasks
  simp [xRmiRequestHandler, xGetSdrApi, hreq, hid, hreqSize, hsize, hresp, hrespSize, h,
    checked_ok_bind]
  rfl

theorem rmiSdr_never_exact (api : RmiApi) (sdrInfo : List Sdr) (request : RmiRequest) :
    ¬ AnswersExactly api sdrInfo request := by
  rintro ⟨allSensorData, built, answer, bytes, hbuilt, -, hexact⟩
  have hbuild : buildSdr api sdrInfo = .ok built := by
    obtain ⟨built', hbuild, hret⟩ := checked_bind_ok hbuilt
    cases hret
    exact hbuild
  exact (buildSdr_built hbuild).payloadSize_ne hexact.written hexact.payloadSize

end Reported

/-! ## One temperature -/

/-- A header of two bytes and two counts of 16 bits. -/
def sixByteHeader : RmiApi where
  sizeofSdrHeader := 6
  recordBits := 16
  byteBits := 16
  headerBytes header :=
    [header.repositoryType, header.repositoryVersion, byteAt header.noOfRecords 0,
      byteAt header.noOfRecords 1, byteAt header.noOfBytes 0, byteAt header.noOfBytes 1]
  length_headerBytes _ := rfl
  sizeof_pos := by decide
  sizeof_lt := by decide
  apiRequestHeaderSize := 1
  apiResponseHeaderSize := 5
  apiIdIndex := 0
  apiCompletionCodeIndex := 1
  apiResponseRepoTypeIndex := 2
  apiResponsePayloadSizeLsb := 3
  apiResponsePayloadSizeMsb := 4
  apiCmdGetSdrApiId := 1
  apiCmdGetAllSensorDataApiId := 2
  eRmiSdr := 1
  eRmiCcOperationSuccess := 1

def sdrRequest : RmiRequest := ⟨some fun _ => 1, some 1, true, true⟩

theorem sdrRequest_asksSdr : sdrRequest.AsksSdr sixByteHeader :=
  ⟨⟨_, rfl, rfl⟩, ⟨1, rfl, by decide⟩, rfl, rfl⟩

def oneTemperature : List Sdr :=
  [⟨⟨.boardInfoSdr, asdmHeaderVer, 0, 0⟩, [], text "END" ++ [0]⟩, temperatures 1]

/-- A header and 19 bytes are written, and six more are reported. -/
theorem not_answersExactly_oneTemperature :
    (∃ built, buildSdr sixByteHeader oneTemperature = .ok built ∧
        built.payload.xOffset = 25 ∧ built.payloadSize = 31) ∧
      ¬ AnswersExactly sixByteHeader oneTemperature sdrRequest := by
  have hrun : (buildSdr sixByteHeader oneTemperature).toOption.map
      (fun built => (built.payload.xOffset, built.payloadSize)) = some (25, 31) := by
    decide +kernel
  match hbuild : buildSdr sixByteHeader oneTemperature with
  | .error stop => simp [hbuild, Except.toOption] at hrun
  | .ok built =>
      rw [hbuild] at hrun
      obtain ⟨hoffset, hsize⟩ := Prod.mk.inj (Option.some.inj hrun)
      refine ⟨⟨built, rfl, hoffset, hsize⟩, ?_⟩
      rintro ⟨allSensorData, built', answer, bytes, hbuilt, -, hexact⟩
      rw [xGetSdrApi, if_neg (by decide), hbuild] at hbuilt
      obtain rfl := Option.some.inj (Prod.mk.inj (Except.ok.inj hbuilt)).2
      -- the payload ends behind byte 24
      have hlast := (buildSdr_built hbuild).holds
      have hnone := (hlast.stored 25).symm.trans (hexact.written 25)
      rw [List.getElem?_eq_none (Nat.le_of_eq (hlast.xOffset.symm.trans hoffset))] at hnone
      have hshort := List.getElem?_eq_none_iff.1 hnone.symm
      have hreported := hexact.payloadSize
      rw [hsize] at hreported
      exact absurd (hreported ▸ hshort) (by decide)

end Vmr.Asdm
