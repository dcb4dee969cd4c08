import Vmr.Asdm.Platforms
import Vmr.Asdm.Tables

/-!
# Sensor requests

A request names an operation, a repository and a sensor; the handlers copy the
records of the repository into the response.  What they would read where there
is nothing, and every assertion of a copy, stops the model.
-/

namespace Vmr.Asdm

/-! ## Responses -/

structure Response where
  bytes : Nat → Option UInt8
  respIndex : UInt16

namespace Response

def byte (resp : Response) (value : UInt8) : Response :=
  { bytes := Function.update resp.bytes resp.respIndex.toNat (some value)
    respIndex := resp.respIndex + 1 }

def copy (resp : Response) (source : Option (List UInt8)) (size : Nat) : Checked Response :=
  match source with
  | none => .error .assertion
  | some bytes =>
      if size = 0 then .error .assertion
      else if bytes.length < size then .error .outside
      else
        let start := resp.respIndex.toNat
        .ok { bytes := fun index =>
                if start ≤ index ∧ index < start + size then bytes[index - start]?
                else resp.bytes index
              respIndex := resp.respIndex + UInt16.ofNat size }

def copyIf (resp : Response) (condition : Bool) (source : Option (List UInt8)) (size : Nat) :
    Checked Response :=
  if condition then resp.copy source size else return resp

end Response

structure Answer where
  status : Int
  resp : Nat → Option UInt8
  respSize : UInt16

def asdmCcNotAvailable : UInt8 := 0
def asdmCcOperationSuccess : UInt8 := 1
def asdmCcOperationFailed : UInt8 := 2

def asdmCmdGetSize : UInt8 := 1
def asdmCmdGetSdr : UInt8 := 2
def asdmCmdGetSingleSensorData : UInt8 := 3
def asdmCmdGetAllSensorData : UInt8 := 4

structure SensorRequest where
  aid : UInt8
  sid : UInt8
  sensorId : UInt8
  deriving DecidableEq, Repr

/-! ## Repositories and records -/

section Handlers

variable (headers : List AsdmHeader) (sdrInfo : List Sdr)

def isRepoTypeSupported (sensorType : UInt8) : Bool :=
  headers.any fun header => header.repositoryType.code == sensorType

/-- The last repository of the type, or -1. -/
def getSdrIndex (repoType : UInt8) : Int :=
  headers.zipIdx.foldl (fun scRet header =>
    if header.1.repositoryType.code = repoType then header.2 else scRet) (-1)

def sdrAt (sdrIndex : Int) : Checked Sdr :=
  if sdrIndex < 0 then .error .outside
  else match sdrInfo[sdrIndex.toNat]? with
    | none => .error .outside
    | some sdr => .ok sdr

def Sdr.recordAt (sdr : Sdr) (idx : Nat) : Checked SensorRecord :=
  match sdr.sensorRecord[idx]? with
  | none => .error .outside
  | some record => .ok record

/-! ## The handlers -/

def lockFailed (status : Int) : Answer :=
  { status, resp := Function.update (fun _ => none) 0 (some asdmCcOperationFailed), respSize := 1 }

def Answer.failed : Answer := { status := -1, resp := fun _ => none, respSize := 0 }

def asdmGetSdrSize (req : SensorRequest) : Checked Answer := do
  let sdr ← sdrAt sdrInfo (getSdrIndex headers req.sid)
  let sdrSize : UInt16 := 4 + sdr.header.noOfBytes.toUInt16 * 8
  let resp : Response := { bytes := fun _ => none, respIndex := 0 }
  let resp := (resp.byte asdmCcOperationSuccess).byte req.sid
  let resp ← resp.copy (some [sdrSize.toUInt8, (sdrSize >>> 8).toUInt8]) 2
  return { status := 0, resp := resp.bytes, respSize := 4 }

def thresholdOrder : List Threshold :=
  [.lowerFatal, .lowerCritical, .lowerWarning, .upperFatal, .upperCritical, .upperWarning]

def putRecord (record : SensorRecord) (resp : Response) : Checked Response := do
  let valueLen := lengthOf record.sensorValueTypeLength
  let baseUnitLen := lengthOf record.sensorBaseUnitTypeLength
  let support := record.thresholdSupportByte
  let resp := (resp.byte record.sensorId).byte record.sensorNameTypeLength
  let resp ← resp.copy record.sensorName (lengthOf record.sensorNameTypeLength)
  let resp := resp.byte record.sensorValueTypeLength
  let resp ← resp.copyIf (valueLen != 0) record.sensorValue valueLen
  let resp := resp.byte record.sensorBaseUnitTypeLength
  let resp ← resp.copyIf (baseUnitLen != 0) record.sensorBaseUnit baseUnitLen
  let resp := (resp.byte record.sensorUnitModifierByte).byte support
  let resp ← thresholdOrder.foldlM (fun resp threshold =>
    resp.copyIf (support &&& threshold.mask != 0) (record.limit threshold) valueLen) resp
  let resp := resp.byte record.sensorStatus
  let resp ← resp.copyIf (support &&& sensorAvgValSupport != 0) record.sensorAverageValue valueLen
  resp.copyIf (support &&& sensorMaxValSupport != 0) record.sensorMaxValue valueLen

def headerBytes (header : AsdmHeader) : List UInt8 :=
  [header.repositoryType.code, header.repositoryVersion, header.noOfRecords, header.noOfBytes]

def asdmGetSensorRepository (locked : Bool) (req : SensorRequest) : Checked Answer := do
  let sdrIndex := getSdrIndex headers req.sid
  if sdrIndex = -1 then return .failed
  else if locked then do
    let sdr ← sdrAt sdrInfo sdrIndex
    -- the completion code is stored at the end
    let resp : Response := { bytes := fun _ => none, respIndex := 1 }
    let resp ← resp.copy (some (headerBytes sdr.header)) 4
    let resp ← (List.range sdr.header.noOfRecords.toNat).foldlM (fun resp idx => do
      let record ← sdr.recordAt idx
      putRecord record resp) resp
    let resp ← resp.copy (some sdr.asdmEor) 3
    return { status := 0
             resp := Function.update resp.bytes 0 (some asdmCcOperationSuccess)
             respSize := resp.respIndex }
  else return lockFailed (-1)

def putSensorData (record : SensorRecord) (resp : Response) : Checked Response := do
  let valueLen := lengthOf record.sensorValueTypeLength
  let resp := resp.byte (record.sensorValueTypeLength &&& lengthBitmask)
  let resp ← resp.copy record.sensorValue valueLen
  let resp ← resp.copy record.sensorMaxValue valueLen
  let resp ← resp.copy record.sensorAverageValue valueLen
  resp.copy (some [record.sensorStatus]) 1

def asdmGetAllSensorData (locked : Bool) (req : SensorRequest) : Checked Answer := do
  let sdrIndex := getSdrIndex headers req.sid
  if sdrIndex = -1 then return .failed
  else if locked then do
    let sdr ← sdrAt sdrInfo sdrIndex
    let resp : Response := { bytes := fun _ => none, respIndex := 0 }
    let resp := (resp.byte asdmCcOperationSuccess).byte req.sid
    let resp := { resp with respIndex := 3 }
    let (resp, payloadSize) ← (List.range sdr.header.noOfRecords.toNat).foldlM
      (fun (built : Response × UInt8) snsrIndex => do
        let record ← sdr.recordAt snsrIndex
        let valueLen := record.sensorValueTypeLength &&& lengthBitmask
        let resp ← putSensorData record built.1
        return (resp, built.2 + (1 + 3 * valueLen + 1))) (resp, 0)
    return { status := 0
             resp := Function.update resp.bytes 2 (some payloadSize)
             respSize := 3 + payloadSize.toUInt16 }
  else return lockFailed 0

def asdmGetSensorData (locked : Bool) (req : SensorRequest) : Checked Answer := do
  let sdrIndex := getSdrIndex headers req.sid
  if sdrIndex = -1 then return .failed
  else
    -- sensor ids start at 1, records at 0; id 0 wraps around to 255
    let snsrIndex := req.sensorId - 1
    if locked then do
      let sdr ← sdrAt sdrInfo sdrIndex
      let resp : Response := { bytes := fun _ => none, respIndex := 0 }
      let resp := (resp.byte asdmCcOperationSuccess).byte req.sid
      let record ← sdr.recordAt snsrIndex.toNat
      let resp ← putSensorData record resp
      return { status := 0, resp := resp.bytes, respSize := resp.respIndex }
    else return lockFailed 0

def asdmProcessSensorRequest (asdmInitSuccess locked : Bool) (req : SensorRequest) :
    Checked Answer :=
  if asdmInitSuccess = false then return .failed
  else if req.aid = asdmCmdGetSize then asdmGetSdrSize headers sdrInfo req
  else if isRepoTypeSupported headers req.sid = false then
    return { status := 0
             resp := Function.update (Function.update (fun _ => none) 0 (some asdmCcNotAvailable))
               1 (some req.aid)
             respSize := 2 }
  else if req.aid = asdmCmdGetSdr then asdmGetSensorRepository headers sdrInfo locked req
  else if req.aid = asdmCmdGetSingleSensorData then
    asdmGetSensorData headers sdrInfo locked req
  else if req.aid = asdmCmdGetAllSensorData then asdmGetAllSensorData headers sdrInfo locked req
  else return { status := 0, resp := fun _ => none, respSize := 0 }

end Handlers

/-! ## What a request needs -/

def Granted {α : Type} (x : Checked α) : Prop := ∃ a, x = .ok a

@[simp] theorem granted_ok {α : Type} (a : α) : Granted (.ok a : Checked α) ↔ True :=
  ⟨fun _ => trivial, fun _ => ⟨a, rfl⟩⟩

@[simp] theorem granted_pure {α : Type} (a : α) : Granted (pure a : Checked α) ↔ True :=
  granted_ok a

@[simp] theorem granted_error {α : Type} (stop : Stop) :
    Granted (.error stop : Checked α) ↔ False :=
  ⟨fun ⟨_, h⟩ => (by cases h), False.elim⟩

private theorem granted_bind {α β : Type} {x : Checked α} {f : α → Checked β} {first next : Prop}
    (hx : Granted x ↔ first) (hf : ∀ a, Granted (f a) ↔ next) :
    Granted (x >>= f) ↔ first ∧ next := by
  cases x with
  | error stop =>
      change Granted (.error stop : Checked β) ↔ _
      rw [granted_error] at hx ⊢
      simp [← hx]
  | ok a =>
      change Granted (f a) ↔ _
      rw [granted_ok] at hx
      simp [hf a, ← hx]

private theorem granted_foldlM {α β : Type} {f : β → α → Checked β} {each : α → Prop}
    (h : ∀ b a, Granted (f b a) ↔ each a) (list : List α) (b : β) :
    Granted (list.foldlM f b) ↔ ∀ a ∈ list, each a := by
  induction list generalizing b with
  | nil => simp
  | cons a list ih =>
      rw [List.foldlM_cons, granted_bind (h b a) ih, List.forall_mem_cons]

theorem granted_copy (resp : Response) (source : Option (List UInt8)) (size : Nat) :
    Granted (resp.copy source size) ↔ Copyable source size := by
  unfold Response.copy Copyable
  cases source with
  | none => simp
  | some bytes =>
      simp only [Option.some.injEq]
      split
      · rename_i hsize
        simp [hsize]
      · rename_i hsize
        split
        · rename_i hshort
          simp [hsize, Nat.not_le.2 hshort]
        · rename_i hlong
          simp [hsize, Nat.not_lt.1 hlong]

private theorem granted_copyIf (resp : Response) (condition : Bool) (source : Option (List UInt8))
    (size : Nat) :
    Granted (resp.copyIf condition source size) ↔ (condition = true → Copyable source size) := by
  unfold Response.copyIf
  split
  · rename_i h
    simp [h, granted_copy]
  · rename_i h
    simp [h]

theorem granted_putRecord (record : SensorRecord) (resp : Response) :
    Granted (putRecord record resp) ↔
      Copyable record.sensorName (lengthOf record.sensorNameTypeLength) ∧
      ((lengthOf record.sensorValueTypeLength != 0) = true →
        Copyable record.sensorValue (lengthOf record.sensorValueTypeLength)) ∧
      ((lengthOf record.sensorBaseUnitTypeLength != 0) = true →
        Copyable record.sensorBaseUnit (lengthOf record.sensorBaseUnitTypeLength)) ∧
      (∀ threshold ∈ thresholdOrder, (record.thresholdSupportByte &&& threshold.mask != 0) = true →
        Copyable (record.limit threshold) (lengthOf record.sensorValueTypeLength)) ∧
      ((record.thresholdSupportByte &&& sensorAvgValSupport != 0) = true →
        Copyable record.sensorAverageValue (lengthOf record.sensorValueTypeLength)) ∧
      ((record.thresholdSupportByte &&& sensorMaxValSupport != 0) = true →
        Copyable record.sensorMaxValue (lengthOf record.sensorValueTypeLength)) := by
  have hlimits := granted_foldlM (fun resp threshold => granted_copyIf resp
    (record.thresholdSupportByte &&& threshold.mask != 0) (record.limit threshold)
    (lengthOf record.sensorValueTypeLength)) thresholdOrder
  exact granted_bind (granted_copy _ _ _) fun _ => granted_bind (granted_copyIf _ _ _ _) fun _ =>
    granted_bind (granted_copyIf _ _ _ _) fun _ => granted_bind (hlimits _) fun _ =>
    granted_bind (granted_copyIf _ _ _ _) fun _ => granted_copyIf _ _ _ _

theorem granted_putSensorData (record : SensorRecord) (resp : Response) :
    Granted (putSensorData record resp) ↔
      Copyable record.sensorValue (lengthOf record.sensorValueTypeLength) ∧
      Copyable record.sensorMaxValue (lengthOf record.sensorValueTypeLength) ∧
      Copyable record.sensorAverageValue (lengthOf record.sensorValueTypeLength) := by
  have hstatus (resp : Response) : Granted (resp.copy (some [record.sensorStatus]) 1) ↔ True := by
    simp [granted_copy, Copyable]
  refine Iff.trans (granted_bind (granted_copy _ _ _) fun _ =>
    granted_bind (granted_copy _ _ _) fun _ => granted_bind (granted_copy _ _ _) fun _ =>
    hstatus _) ?_
  simp

/-! ## The records of a built repository -/

def Measured (record : SensorRecord) : Prop := 0 < record.sampleCount ∧ record.valueLen ≠ 0

def Described (repo : RepositoryType) (record : SensorRecord) : Prop :=
  (∀ threshold, record.thresholdSupportByte &&& Threshold.mask threshold ≠ 0 →
    repo ≠ .boardInfoSdr) ∧
  (record.thresholdSupportByte &&& sensorAvgValSupport ≠ 0 ∨
    record.thresholdSupportByte &&& sensorMaxValSupport ≠ 0 → Measured record)

section WellFormed

variable {repo : RepositoryType} {record : SensorRecord}

private theorem copyable_measured {value : Option (List UInt8)}
    (h : value = if 0 < record.sampleCount then some (List.replicate record.valueLen 0) else none) :
    Copyable value record.valueLen ↔ Measured record := by
  subst h
  unfold Copyable Measured
  split
  · rename_i hcount
    simp [hcount]
  · rename_i hcount
    simp [hcount]

theorem WellFormed.granted_putRecord (h : WellFormed repo record) (resp : Response) :
    Granted (putRecord record resp) ↔ Described repo record := by
  have hmem (threshold : Threshold) : threshold ∈ thresholdOrder := by
    cases threshold <;> decide
  obtain ⟨bytes, hvalue, hlength⟩ := h.value
  rw [Asdm.granted_putRecord]
  change _ ∧ _ ∧ _ ∧ _ ∧ (_ → Copyable _ record.valueLen) ∧ (_ → Copyable _ record.valueLen) ↔ _
  simp only [copyable_measured h.maxValue, copyable_measured h.averageValue, bne_iff_ne, hmem,
    true_implies]
  constructor
  · rintro ⟨-, -, -, hlimits, haverage, hmax⟩
    refine ⟨fun threshold hsupport hrepo => ?_, ?_⟩
    · have hnone := h.limits threshold hsupport
      rw [if_pos hrepo] at hnone
      obtain ⟨-, bytes, hsome, -⟩ := hlimits threshold hsupport
      rw [hnone] at hsome
      cases hsome
    · rintro (hsupport | hsupport)
      · exact haverage hsupport
      · exact hmax hsupport
  · rintro ⟨hlimits, hmeasured⟩
    refine ⟨h.name, fun hlen => ⟨hlen, bytes, hvalue, Nat.le_of_eq hlength.symm⟩, h.baseUnit,
      fun threshold hsupport => ?_, fun hsupport => hmeasured (.inl hsupport),
      fun hsupport => hmeasured (.inr hsupport)⟩
    have hlimit := h.limits threshold hsupport
    rwa [if_neg (hlimits threshold hsupport)] at hlimit

theorem WellFormed.granted_putSensorData (h : WellFormed repo record) (resp : Response) :
    Granted (putSensorData record resp) ↔ Measured record := by
  obtain ⟨bytes, hvalue, hlength⟩ := h.value
  rw [Asdm.granted_putSensorData]
  change Copyable _ record.valueLen ∧ Copyable _ record.valueLen ∧ Copyable _ record.valueLen ↔ _
  rw [copyable_measured h.maxValue, copyable_measured h.averageValue]
  constructor
  · exact fun hall => hall.2.1
  · exact fun hmeasured =>
      ⟨⟨hmeasured.2, bytes, hvalue, Nat.le_of_eq hlength.symm⟩, hmeasured, hmeasured⟩

end WellFormed

private theorem granted_recordAt {α : Type} (sdr : Sdr) (idx : Nat) (f : SensorRecord → Checked α) :
    Granted (sdr.recordAt idx >>= f) ↔
      ∃ record, sdr.sensorRecord[idx]? = some record ∧ Granted (f record) := by
  unfold Sdr.recordAt
  cases sdr.sensorRecord[idx]? with
  | none =>
      change Granted (.error .outside : Checked α) ↔ _
      simp
  | some record =>
      change Granted (f record) ↔ _
      simp

private theorem Complete.forall_records {header : AsdmHeader} {sdr : Sdr} (h : Complete header sdr)
    (each : SensorRecord → Prop) :
    (∀ idx ∈ List.range sdr.header.noOfRecords.toNat,
      ∃ record, sdr.sensorRecord[idx]? = some record ∧ each record) ↔
      ∀ record ∈ sdr.sensorRecord, each record := by
  rw [← h.length]
  constructor
  · intro hall record hmem
    obtain ⟨idx, hlt, rfl⟩ := List.getElem_of_mem hmem
    obtain ⟨record, hrecord, heach⟩ := hall idx (List.mem_range.2 hlt)
    rw [List.getElem?_eq_getElem hlt] at hrecord
    cases hrecord
    exact heach
  · intro hall idx hidx
    have hlt := List.mem_range.1 hidx
    exact ⟨_, List.getElem?_eq_getElem hlt, hall _ (List.getElem_mem hlt)⟩

/-! ## The repository of a request -/

section Lookup

variable {headers : List AsdmHeader} {sdrInfo : List Sdr} {sid : UInt8}

theorem foldl_getSdrIndex (headers : List AsdmHeader) (sid : UInt8) (start : Nat) (scRet : Int) :
    let found := (headers.zipIdx start).foldl (fun scRet header =>
      if header.1.repositoryType.code = sid then (header.2 : Int) else scRet) scRet
    (isRepoTypeSupported headers sid = false ∧ found = scRet) ∨
      (isRepoTypeSupported headers sid = true ∧ ∃ position header,
        headers[position]? = some header ∧ header.repositoryType.code = sid ∧
          found = (start + position : Nat)) := by
  induction headers generalizing start scRet with
  | nil => exact .inl ⟨rfl, rfl⟩
  | cons header headers ih =>
      simp only [List.zipIdx_cons, List.foldl_cons]
      have hsupported : isRepoTypeSupported (header :: headers) sid =
          (header.repositoryType.code == sid || isRepoTypeSupported headers sid) := by
        simp [isRepoTypeSupported]
      rcases ih (start + 1) (if header.repositoryType.code = sid then (start : Int) else scRet) with
        ⟨hnot, heq⟩ | ⟨hfound, position, header', hheader, hcode, heq⟩
      · rw [heq, hsupported, hnot, Bool.or_false]
        split
        · rename_i hcode
          exact .inr ⟨by simpa using hcode, 0, header, rfl, hcode, rfl⟩
        · rename_i hcode
          exact .inl ⟨by simpa using hcode, rfl⟩
      · refine .inr ⟨by rw [hsupported, hfound, Bool.or_true], position + 1, header', ?_, hcode, ?_⟩
        · simpa using hheader
        · rw [heq]
          congr 1
          omega

private theorem lookup_spec (hcomplete : List.Forall₂ Complete headers sdrInfo) (sid : UInt8) :
    (isRepoTypeSupported headers sid = false ∧ getSdrIndex headers sid = -1) ∨
      (isRepoTypeSupported headers sid = true ∧ getSdrIndex headers sid ≠ -1 ∧
        ∃ header sdr, sdrAt sdrInfo (getSdrIndex headers sid) = .ok sdr ∧ sdr ∈ sdrInfo ∧
          Complete header sdr ∧ header.repositoryType.code = sid) := by
  rcases foldl_getSdrIndex headers sid 0 (-1) with
    ⟨hnot, heq⟩ | ⟨hfound, position, header, hheader, hcode, heq⟩
  · exact .inl ⟨hnot, heq⟩
  · have hindex : getSdrIndex headers sid = (position : Int) := by
      rw [Nat.zero_add] at heq
      exact heq
    obtain ⟨hlt, hget⟩ := List.getElem?_eq_some_iff.1 hheader
    have hsdr : position < sdrInfo.length := hcomplete.length_eq ▸ hlt
    refine .inr ⟨hfound, by omega, header, sdrInfo[position], ?_, List.getElem_mem hsdr, ?_, hcode⟩
    · rw [hindex, sdrAt, if_neg (by omega), Int.toNat_natCast, List.getElem?_eq_getElem hsdr]
    · have hboth := List.forall₂_iff_get.1 hcomplete
      exact hget ▸ hboth.2 position hlt hsdr

private theorem isRepoTypeSupported_of_mem (hcomplete : List.Forall₂ Complete headers sdrInfo)
    {sdr : Sdr} (hmem : sdr ∈ sdrInfo) (hsid : sdr.header.repositoryType.code = sid) :
    isRepoTypeSupported headers sid = true := by
  obtain ⟨position, hlt, rfl⟩ := List.getElem_of_mem hmem
  have hheader : position < headers.length := hcomplete.length_eq ▸ hlt
  have hboth := (List.forall₂_iff_get.1 hcomplete).2 position hheader hlt
  refine List.any_eq_true.2 ⟨headers[position], List.getElem_mem hheader, ?_⟩
  have htype : sdrInfo[position].header.repositoryType = headers[position].repositoryType :=
    hboth.repositoryType
  rw [← htype, beq_iff_eq, hsid]

theorem code_injective : Function.Injective RepositoryType.code := by
  intro first second h
  revert h
  cases first <;> cases second <;> decide

theorem asdmUpdateRecordCount_types (headers : List AsdmHeader)
    (infos : List (RepositoryType × UInt8)) :
    (asdmUpdateRecordCount headers infos).map AsdmHeader.repositoryType =
      headers.map AsdmHeader.repositoryType := by
  induction headers generalizing infos with
  | nil => rfl
  | cons header headers ih =>
      cases infos with
      | nil => rfl
      | cons info infos =>
          rw [asdmUpdateRecordCount, List.map_cons, List.map_cons, ih]
          split <;> rfl

private theorem eq_of_code {infos : List (RepositoryType × UInt8)}
    (hcomplete : List.Forall₂ Complete (asdmUpdateRecordCount asdmHeaderInfo infos) sdrInfo)
    {first second : Sdr} (hfirst : first ∈ sdrInfo) (hsecond : second ∈ sdrInfo)
    (h : first.header.repositoryType.code = second.header.repositoryType.code) :
    first = second := by
  have htypes : sdrInfo.map (fun sdr => sdr.header.repositoryType) =
      asdmHeaderInfo.map AsdmHeader.repositoryType := by
    rw [← asdmUpdateRecordCount_types asdmHeaderInfo infos]
    refine List.ext_getElem (by simp [hcomplete.length_eq]) fun position hlt hlt' => ?_
    rw [List.length_map] at hlt hlt'
    simpa using ((List.forall₂_iff_get.1 hcomplete).2 position hlt' hlt).repositoryType
  have hnodup : (sdrInfo.map fun sdr => sdr.header.repositoryType).Nodup := by
    rw [htypes]
    decide
  exact List.inj_on_of_nodup_map hnodup hfirst hsecond (code_injective h)

end Lookup

/-! ## Safe answers -/

def Answered (answer : Answer) : Prop := answer.status = -1 ∨ (answer.resp 0).isSome

/-- The request comes to its end, and is answered. -/
def SafelyAnswered (headers : List AsdmHeader) (sdrInfo : List Sdr) (locked : Bool)
    (req : SensorRequest) : Prop :=
  ∃ answer, asdmProcessSensorRequest headers sdrInfo true locked req = .ok answer ∧ Answered answer

inductive Operates (locked : Bool) (req : SensorRequest) (sdr : Sdr) : Prop
  | repository (haid : req.aid = asdmCmdGetSdr) (h : locked = true →
      ∀ record ∈ sdr.sensorRecord, Described sdr.header.repositoryType record)
  | sensor (haid : req.aid = asdmCmdGetSingleSensorData) (h : locked = true →
      ∃ record, sdr.sensorRecord[(req.sensorId - 1).toNat]? = some record ∧ Measured record)
  | all (haid : req.aid = asdmCmdGetAllSensorData) (h : locked = true →
      ∀ record ∈ sdr.sensorRecord, Measured record)

/-- What the request needs of the tables. -/
def Serviceable (sdrInfo : List Sdr) (locked : Bool) (req : SensorRequest) : Prop :=
  if req.aid = asdmCmdGetSize then
    ∃ sdr ∈ sdrInfo, sdr.header.repositoryType.code = req.sid
  else
    ∀ sdr ∈ sdrInfo, sdr.header.repositoryType.code = req.sid → Operates locked req sdr

section Stored

private theorem isSome_byte {resp : Response} {index : Nat} (h : (resp.bytes index).isSome)
    (value : UInt8) : ((resp.byte value).bytes index).isSome := by
  unfold Response.byte
  by_cases heq : index = resp.respIndex.toNat
  · simp [heq]
  · simpa [Function.update_of_ne heq] using h

private theorem isSome_copy {resp resp' : Response} {source : Option (List UInt8)}
    {size index : Nat}
    (hcopy : resp.copy source size = .ok resp') (h : (resp.bytes index).isSome) :
    (resp'.bytes index).isSome := by
  unfold Response.copy at hcopy
  split at hcopy
  · cases hcopy
  · split at hcopy
    · cases hcopy
    · split at hcopy
      · cases hcopy
      · rename_i hlong
        cases hcopy
        simp only
        split
        · rename_i hinside
          rw [List.getElem?_eq_getElem (by omega)]
          rfl
        · exact h

private theorem isSome_putSensorData {record : SensorRecord} {resp resp' : Response} {index : Nat}
    (hput : putSensorData record resp = .ok resp') (h : (resp.bytes index).isSome) :
    (resp'.bytes index).isSome := by
  unfold putSensorData at hput
  obtain ⟨resp₁, hvalue, hput⟩ := checked_bind_ok hput
  obtain ⟨resp₂, hmax, hput⟩ := checked_bind_ok hput
  obtain ⟨resp₃, haverage, hput⟩ := checked_bind_ok hput
  exact isSome_copy hput (isSome_copy haverage (isSome_copy hmax
    (isSome_copy hvalue (isSome_byte h _))))

end Stored

private theorem answered_guarded {sdrIndex status : Int} {locked : Bool} {body : Checked Answer}
    {answer : Answer} (hbody : body = .ok answer → Answered answer)
    (h : (if sdrIndex = -1 then .ok .failed
      else if locked = true then body else .ok (lockFailed status)) = Except.ok answer) :
    Answered answer := by
  split at h
  · cases h
    exact .inl rfl
  · split at h
    · exact hbody h
    · cases h
      exact .inr rfl

section Handlers

variable {headers : List AsdmHeader} {sdrInfo : List Sdr} {locked : Bool} {req : SensorRequest}
  {header : AsdmHeader} {sdr : Sdr}

private theorem Complete.granted_loop {β : Type} (h : Complete header sdr)
    {f : β → SensorRecord → Checked β} {each : SensorRecord → Prop}
    (hf : ∀ b, ∀ record ∈ sdr.sensorRecord, (Granted (f b record) ↔ each record)) (b : β) :
    Granted ((List.range sdr.header.noOfRecords.toNat).foldlM (fun b idx => do
      let record ← sdr.recordAt idx
      f b record) b) ↔ ∀ record ∈ sdr.sensorRecord, each record := by
  rw [← h.forall_records each]
  refine granted_foldlM (fun b idx => ?_) _ b
  rw [granted_recordAt]
  constructor
  · rintro ⟨record, hrecord, hgranted⟩
    exact ⟨record, hrecord, (hf b record (List.mem_of_getElem? hrecord)).1 hgranted⟩
  · rintro ⟨record, hrecord, heach⟩
    exact ⟨record, hrecord, (hf b record (List.mem_of_getElem? hrecord)).2 heach⟩

private theorem granted_sdrAt {α : Type} {sdrIndex : Int} (h : sdrAt sdrInfo sdrIndex = .ok sdr)
    (f : Sdr → Checked α) : Granted (sdrAt sdrInfo sdrIndex >>= f) ↔ Granted (f sdr) := by
  rw [h]
  rfl

private theorem asdmGetSensorRepository_granted (hindex : getSdrIndex headers req.sid ≠ -1)
    (hsdr : sdrAt sdrInfo (getSdrIndex headers req.sid) = .ok sdr) (h : Complete header sdr) :
    Granted (asdmGetSensorRepository headers sdrInfo locked req) ↔ (locked = true →
      ∀ record ∈ sdr.sensorRecord, Described sdr.header.repositoryType record) := by
  unfold asdmGetSensorRepository
  rw [if_neg hindex]
  cases locked with
  | false => simp
  | true =>
      have hheader (resp : Response) :
          Granted (resp.copy (some (headerBytes sdr.header)) 4) ↔ True := by
        simp [granted_copy, Copyable, headerBytes]
      have heor (resp : Response) : Granted (resp.copy (some sdr.asdmEor) 3) ↔ True := by
        rw [granted_copy, h.asdmEor]
        simp [Copyable, text]
      have hrecords := h.granted_loop fun resp record hmem =>
        ((h.repositoryType ▸ h.wellFormed record hmem : WellFormed sdr.header.repositoryType
          record).granted_putRecord resp)
      rw [if_pos rfl, granted_sdrAt hsdr, granted_bind (hheader _) fun resp =>
        granted_bind (hrecords resp) fun resp => granted_bind (heor resp) fun resp => granted_pure _]
      simp

private theorem asdmGetSensorRepository_answered {answer : Answer}
    (h : asdmGetSensorRepository headers sdrInfo locked req = .ok answer) : Answered answer := by
  unfold asdmGetSensorRepository at h
  refine answered_guarded (fun h => ?_) h
  obtain ⟨sdr, -, h⟩ := checked_bind_ok h
  obtain ⟨resp₁, -, h⟩ := checked_bind_ok h
  obtain ⟨resp₂, -, h⟩ := checked_bind_ok h
  obtain ⟨resp₃, -, h⟩ := checked_bind_ok h
  cases h
  exact .inr (by simp)

private theorem asdmGetSensorData_granted (hindex : getSdrIndex headers req.sid ≠ -1)
    (hsdr : sdrAt sdrInfo (getSdrIndex headers req.sid) = .ok sdr) (h : Complete header sdr) :
    Granted (asdmGetSensorData headers sdrInfo locked req) ↔ (locked = true →
      ∃ record, sdr.sensorRecord[(req.sensorId - 1).toNat]? = some record ∧ Measured record) := by
  unfold asdmGetSensorData
  rw [if_neg hindex]
  cases locked with
  | false => simp
  | true =>
      rw [if_pos rfl, granted_sdrAt hsdr, granted_recordAt]
      have hrecord (record : SensorRecord) (hmem : record ∈ sdr.sensorRecord) (resp : Response) :
          Granted (do
            let resp ← putSensorData record resp
            return { status := 0, resp := resp.bytes, respSize := resp.respIndex : Answer }) ↔
            Measured record := by
        rw [granted_bind ((h.wellFormed record hmem).granted_putSensorData resp) fun resp =>
          granted_pure _, and_true]
      simp only [true_implies]
      constructor
      · rintro ⟨record, hget, hgranted⟩
        exact ⟨record, hget, (hrecord record (List.mem_of_getElem? hget) _).1 hgranted⟩
      · rintro ⟨record, hget, hmeasured⟩
        exact ⟨record, hget, (hrecord record (List.mem_of_getElem? hget) _).2 hmeasured⟩

private theorem asdmGetSensorData_answered {answer : Answer}
    (h : asdmGetSensorData headers sdrInfo locked req = .ok answer) : Answered answer := by
  unfold asdmGetSensorData at h
  refine answered_guarded (fun h => ?_) h
  obtain ⟨sdr, -, h⟩ := checked_bind_ok h
  obtain ⟨record, -, h⟩ := checked_bind_ok h
  obtain ⟨resp, hresp, h⟩ := checked_bind_ok h
  cases h
  exact .inr (isSome_putSensorData hresp (isSome_byte (by simp [Response.byte]) _))

private theorem asdmGetAllSensorData_granted (hindex : getSdrIndex headers req.sid ≠ -1)
    (hsdr : sdrAt sdrInfo (getSdrIndex headers req.sid) = .ok sdr) (h : Complete header sdr) :
    Granted (asdmGetAllSensorData headers sdrInfo locked req) ↔ (locked = true →
      ∀ record ∈ sdr.sensorRecord, Measured record) := by
  unfold asdmGetAllSensorData
  rw [if_neg hindex]
  cases locked with
  | false => simp
  | true =>
      have hrecords := h.granted_loop (f := fun (built : Response × UInt8) record => do
          let resp ← putSensorData record built.1
          return (resp, built.2 + (1 + 3 * (record.sensorValueTypeLength &&& lengthBitmask) + 1)))
        fun built record hmem => by
          rw [granted_bind ((h.wellFormed record hmem).granted_putSensorData built.1) fun resp =>
            granted_pure _, and_true]
      rw [if_pos rfl, granted_sdrAt hsdr, granted_bind (hrecords _) fun built => granted_pure _]
      simp

private theorem isSome_allSensorData {built built' : Response × UInt8} {list : List Nat}
    {index : Nat}
    (hfold : list.foldlM (fun (built : Response × UInt8) snsrIndex => do
        let record ← sdr.recordAt snsrIndex
        let resp ← putSensorData record built.1
        return (resp, built.2 + (1 + 3 * (record.sensorValueTypeLength &&& lengthBitmask) + 1)))
      built = .ok built') (h : (built.1.bytes index).isSome) : (built'.1.bytes index).isSome := by
  induction list generalizing built with
  | nil =>
      cases hfold
      exact h
  | cons snsrIndex list ih =>
      rw [List.foldlM_cons] at hfold
      obtain ⟨next, hnext, hfold⟩ := checked_bind_ok hfold
      obtain ⟨record, -, hnext⟩ := checked_bind_ok hnext
      obtain ⟨resp, hresp, hnext⟩ := checked_bind_ok hnext
      cases hnext
      exact ih hfold (isSome_putSensorData hresp h)

private theorem asdmGetAllSensorData_answered {answer : Answer}
    (h : asdmGetAllSensorData headers sdrInfo locked req = .ok answer) : Answered answer := by
  unfold asdmGetAllSensorData at h
  refine answered_guarded (fun h => ?_) h
  obtain ⟨sdr, -, h⟩ := checked_bind_ok h
  obtain ⟨built, hbuilt, h⟩ := checked_bind_ok h
  cases h
  have hcode : (built.1.bytes 0).isSome := by
    refine isSome_allSensorData hbuilt ?_
    simp [Response.byte]
  exact .inr (by simpa using hcode)

private theorem asdmGetSdrSize_granted :
    Granted (asdmGetSdrSize headers sdrInfo req) ↔
      Granted (sdrAt sdrInfo (getSdrIndex headers req.sid)) := by
  have hsize (resp : Response) (first second : UInt8) :
      Granted (resp.copy (some [first, second]) 2) ↔ True := by
    simp [granted_copy, Copyable]
  unfold asdmGetSdrSize
  rw [granted_bind Iff.rfl fun sdr => granted_bind (hsize _ _ _) fun resp => granted_pure _]
  simp

private theorem asdmGetSdrSize_answered {answer : Answer}
    (h : asdmGetSdrSize headers sdrInfo req = .ok answer) : Answered answer := by
  unfold asdmGetSdrSize at h
  obtain ⟨sdr, -, h⟩ := checked_bind_ok h
  obtain ⟨resp, hresp, h⟩ := checked_bind_ok h
  cases h
  refine .inr (isSome_copy hresp ?_)
  simp [Response.byte]

private theorem answered_iff {handler : Checked Answer}
    (h : ∀ answer, handler = .ok answer → Answered answer) :
    (∃ answer, handler = .ok answer ∧ Answered answer) ↔ Granted handler := by
  constructor
  · rintro ⟨answer, hanswer, -⟩
    exact ⟨answer, hanswer⟩
  · rintro ⟨answer, hanswer⟩
    exact ⟨answer, hanswer, h answer hanswer⟩

end Handlers

private theorem operates_repository {locked : Bool} {req : SensorRequest} {sdr : Sdr}
    (haid : req.aid = asdmCmdGetSdr) :
    Operates locked req sdr ↔ (locked = true →
      ∀ record ∈ sdr.sensorRecord, Described sdr.header.repositoryType record) := by
  refine ⟨fun h => ?_, .repository haid⟩
  cases h with
  | repository _ hdescribed => exact hdescribed
  | sensor hother _ => rw [haid] at hother; cases hother
  | all hother _ => rw [haid] at hother; cases hother

private theorem operates_sensor {locked : Bool} {req : SensorRequest} {sdr : Sdr}
    (haid : req.aid = asdmCmdGetSingleSensorData) :
    Operates locked req sdr ↔ (locked = true →
      ∃ record, sdr.sensorRecord[(req.sensorId - 1).toNat]? = some record ∧ Measured record) := by
  refine ⟨fun h => ?_, .sensor haid⟩
  cases h with
  | repository hother _ => rw [haid] at hother; cases hother
  | sensor _ hmeasured => exact hmeasured
  | all hother _ => rw [haid] at hother; cases hother

private theorem operates_all {locked : Bool} {req : SensorRequest} {sdr : Sdr}
    (haid : req.aid = asdmCmdGetAllSensorData) :
    Operates locked req sdr ↔
      (locked = true → ∀ record ∈ sdr.sensorRecord, Measured record) := by
  refine ⟨fun h => ?_, .all haid⟩
  cases h with
  | repository hother _ => rw [haid] at hother; cases hother
  | sensor hother _ => rw [haid] at hother; cases hother
  | all _ hmeasured => exact hmeasured

/--
On the tables of a successful initialisation a request is answered safely
exactly if the tables serve it.
-/
theorem asdmProcessSensorRequest_safe {malloc : Allocation → Bool} {behind : Lib.Memory}
    {infos : List (RepositoryType × UInt8)} {metaData : List SensorMetaData}
    {beyond : Nat → SensorMetaData} {sdrInfo : List Sdr} {writes : List RecordWrite}
    (h : initAsdm malloc behind (asdmUpdateRecordCount asdmHeaderInfo infos) metaData beyond =
      .ok (sdrInfo, writes)) (locked : Bool) (req : SensorRequest) :
    SafelyAnswered (asdmUpdateRecordCount asdmHeaderInfo infos) sdrInfo locked req ↔
      Serviceable sdrInfo locked req := by
  have hcomplete := initAsdm_complete h
  have hmissing (hnot : isRepoTypeSupported (asdmUpdateRecordCount asdmHeaderInfo infos) req.sid =
      false) (sdr : Sdr) (hmem : sdr ∈ sdrInfo) :
      sdr.header.repositoryType.code ≠ req.sid := by
    intro hsid
    rw [isRepoTypeSupported_of_mem hcomplete hmem hsid] at hnot
    cases hnot
  unfold SafelyAnswered Serviceable asdmProcessSensorRequest
  rw [if_neg (by decide)]
  rcases lookup_spec hcomplete req.sid with
    ⟨hnot, hindex⟩ | ⟨hsupported, hindex, header, sdr, hsdr, hmem, hheader, hcode⟩
  · split
    · rw [answered_iff fun _ => asdmGetSdrSize_answered, asdmGetSdrSize_granted, hindex]
      constructor
      · rintro ⟨_, hsdr⟩
        cases hsdr
      · rintro ⟨sdr, hmem, hsid⟩
        exact absurd hsid (hmissing hnot sdr hmem)
    · exact ⟨fun _ sdr hmem hsid => absurd hsid (hmissing hnot sdr hmem),
        fun _ => ⟨_, rfl, .inr (by simp)⟩⟩
  · have hsid : sdr.header.repositoryType.code = req.sid := hheader.repositoryType ▸ hcode
    have honly : (∀ sdr ∈ sdrInfo, sdr.header.repositoryType.code = req.sid →
        Operates locked req sdr) ↔ Operates locked req sdr := by
      constructor
      · exact fun hall => hall sdr hmem hsid
      · intro hoperates other hother hcode
        rwa [eq_of_code hcomplete hother hmem (hcode.trans hsid.symm)]
    have hsupported' : ¬ isRepoTypeSupported (asdmUpdateRecordCount asdmHeaderInfo infos)
        req.sid = false := by
      simp [hsupported]
    rw [honly, if_neg hsupported']
    split
    · rw [answered_iff fun _ => asdmGetSdrSize_answered, asdmGetSdrSize_granted]
      exact ⟨fun _ => ⟨sdr, hmem, hsid⟩, fun _ => ⟨sdr, hsdr⟩⟩
    split
    · rename_i haid
      rw [answered_iff fun _ => asdmGetSensorRepository_answered, operates_repository haid,
        asdmGetSensorRepository_granted hindex hsdr hheader]
    split
    · rename_i haid
      rw [answered_iff fun _ => asdmGetSensorData_answered, operates_sensor haid,
        asdmGetSensorData_granted hindex hsdr hheader]
    split
    · rename_i haid
      rw [answered_iff fun _ => asdmGetAllSensorData_answered, operates_all haid,
        asdmGetAllSensorData_granted hindex hsdr hheader]
    -- a command the function does not know ends without an answer
    rename_i hrepository hsensor hall
    constructor
    · rintro ⟨_, heq, hanswered⟩
      cases heq
      rcases hanswered with hstatus | hcode
      · exact absurd hstatus (by decide)
      · exact absurd hcode (by simp)
    · intro hoperates
      cases hoperates with
      | repository haid _ => exact absurd haid hrepository
      | sensor haid _ => exact absurd haid hsensor
      | all haid _ => exact absurd haid hall

theorem v80_board_temperature_served :
    ∃ sdrInfo writes, v80.init = .ok (sdrInfo, writes) ∧
      SafelyAnswered v80.headers sdrInfo true ⟨asdmCmdGetSingleSensorData, 0xC1, 1⟩ := by
  have hrun : v80.init.toOption.map (fun built => built.1.all fun sdr =>
      sdr.header.repositoryType.code != 0xC1 || (sdr.sensorRecord[0]?.any fun record =>
        decide (0 < record.sampleCount) && record.valueLen != 0)) = some true := by
    decide +kernel
  match hinit : v80.init with
  | .error stop => simp [hinit, Except.toOption] at hrun
  | .ok (sdrInfo, writes) =>
      refine ⟨sdrInfo, writes, rfl, (asdmProcessSensorRequest_safe hinit true _).2 ?_⟩
      rw [hinit] at hrun
      intro sdr hmem hsid
      have hsdr := List.all_eq_true.1 (Option.some.inj hrun) sdr hmem
      simp only [hsid, bne_self_eq_false, Bool.false_or, Option.any_eq_true, Bool.and_eq_true,
        decide_eq_true_eq, bne_iff_ne] at hsdr
      exact .sensor rfl fun _ => hsdr

/-- The data of all board information is asked for, and none of it has a maximum. -/
theorem v80_board_information_not_served :
    ∃ sdrInfo writes, v80.init = .ok (sdrInfo, writes) ∧
      ¬ SafelyAnswered v80.headers sdrInfo true ⟨asdmCmdGetAllSensorData, 0xC0, 0⟩ := by
  have hrun : v80.init.toOption.map (fun built => (asdmProcessSensorRequest v80.headers built.1
      true true ⟨asdmCmdGetAllSensorData, 0xC0, 0⟩).isOk) = some false := by
    decide +kernel
  match hinit : v80.init with
  | .error stop => simp [hinit, Except.toOption] at hrun
  | .ok (sdrInfo, writes) =>
      refine ⟨sdrInfo, writes, rfl, ?_⟩
      rintro ⟨answer, hanswer, -⟩
      rw [hinit] at hrun
      have hstopped : (asdmProcessSensorRequest v80.headers sdrInfo true true
          ⟨asdmCmdGetAllSensorData, 0xC0, 0⟩).isOk = false := Option.some.inj hrun
      rw [hanswer] at hstopped
      cases hstopped

end Vmr.Asdm
