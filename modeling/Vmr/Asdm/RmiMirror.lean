import Vmr.Asdm.Platforms
import Vmr.Asdm.Request
import Vmr.Lib.Blocks

/-!
# The mirror of the sensors for RMI

`Asdm_Update_Sensors` copies the value of every record outside the board information to
an entry of the mirror.  The entries are meant for the records of these repositories,
laid end to end; the mirror is allocated with one entry for each repository.
-/

namespace Vmr.Asdm

open Vmr.Lib

structure SensorsDs where
  id : UInt8
  size : UInt8
  value : List UInt8
  deriving DecidableEq, Repr

/-! ## The buffers -/

def dynamicSensorCount (headers : List AsdmHeader) : UInt8 :=
  headers.foldl (fun count header =>
    if header.repositoryType ≠ .boardInfoSdr then count + 1 else count) 0

def vmcInitRmiSensorBuffer (fresh : Nat → SensorsDs) (pVmcRmiSensors : Option (List SensorsDs))
    (counts : UInt32) : List SensorsDs :=
  match pVmcRmiSensors with
  | some buffer => buffer
  | none => (List.range counts.toNat).map fresh

def clRmiInitSensors (fresh : Nat → SensorsDs) (headers : List AsdmHeader) :
    List SensorsDs × List SensorsDs :=
  let dynamicSensorsCount := dynamicSensorCount headers
  let pVmcSensors := vmcInitRmiSensorBuffer fresh none dynamicSensorsCount.toUInt32
  let pSensors := (List.range dynamicSensorsCount.toNat).map fresh
  let numbered (buffer : List SensorsDs) : List SensorsDs :=
    buffer.mapIdx fun idx sensor =>
      if idx < dynamicSensorsCount.toNat then { sensor with id := UInt8.ofNat (idx + 1) }
      else sensor
  (numbered pSensors, numbered pVmcSensors)

/-! ## The entry of a record -/

section Update

variable (headers : List AsdmHeader) (sdrInfo : List Sdr)

/-- The records of the repositories before `sdr_idx`, and those before the record, in eight bits. -/
def rmiRecordCount (sensorIdx : UInt8) (sdrIdx : Nat) : UInt8 :=
  (sdrInfo.take sdrIdx).foldl (fun recordCount sdr =>
    if sdr.header.repositoryType ≠ .boardInfoSdr then recordCount + sdr.header.noOfRecords
    else recordCount) 0 + (sensorIdx - 1)

def updateVmcRmiSensorValue (behind : Memory) (pSensors : List SensorsDs)
    (repoType : RepositoryType) (sensorIdx : UInt8) (sdrIdx : Nat) : Checked (List SensorsDs) :=
  if repoType = .boardInfoSdr then return pSensors
  else do
    let sdr ← sdrAt sdrInfo (getSdrIndex headers repoType.code)
    -- `sensorRecord[sensorIdx - 1]` lies before the records
    if sensorIdx = 0 then .error .outside
    else
      let record ← sdr.recordAt (sensorIdx.toNat - 1)
      let recordCount := rmiRecordCount sdrInfo sensorIdx sdrIdx
      let snsrValLen := lengthOf record.sensorValueTypeLength
      match record.sensorValue with
      | none => return pSensors
      | some value =>
          match pSensors[recordCount.toNat]? with
          | none => .error .outside
          | some sensor =>
              let value ← secureMemcpy behind snsrValLen (some value) snsrValLen
              return pSensors.set recordCount.toNat
                { sensor with value, size := UInt8.ofNat snsrValLen }

structure Visit where
  sdrIdx : Nat
  repoType : RepositoryType
  sensorIdx : UInt8
  deriving DecidableEq, Repr

def visitsFrom : Nat → List Sdr → List Visit
  | _, [] => []
  | sdrIdx, sdr :: sdrs =>
      (sdr.sensorRecord.take sdr.header.noOfRecords.toNat).map (fun record =>
        ⟨sdrIdx, sdr.header.repositoryType, record.sensorId⟩) ++ visitsFrom (sdrIdx + 1) sdrs

def visits : List Visit := visitsFrom 0 sdrInfo

def dynamicVisits : List Visit := (visits sdrInfo).filter (·.repoType ≠ .boardInfoSdr)

def Visit.slot (visit : Visit) : UInt8 := rmiRecordCount sdrInfo visit.sensorIdx visit.sdrIdx

/-- The entries are there, and no two records share one. -/
structure MirrorSafe (entries : Nat) : Prop where
  inRange : ∀ visit ∈ dynamicVisits sdrInfo, (visit.slot sdrInfo).toNat < entries
  distinct : ∀ visit ∈ dynamicVisits sdrInfo, ∀ visit' ∈ dynamicVisits sdrInfo,
    visit.slot sdrInfo = visit'.slot sdrInfo → visit = visit'

end Update

/-! ## The records are numbered from one -/

structure Numbered (header : AsdmHeader) (sdr : Sdr) : Prop where
  repositoryType : sdr.header.repositoryType = header.repositoryType
  noOfRecords : sdr.header.noOfRecords = header.noOfRecords
  sensorIds : sdr.sensorRecord.map SensorRecord.sensorId =
    (List.range header.noOfRecords.toNat).map fun idx => UInt8.ofNat (idx + 1)

section Init

variable {table : List ThresholdRow} {malloc : Allocation → Bool} {behind : Memory}

private theorem Filled.map_idx {metaData : Nat → SensorMetaData}
    {repo noOfRecords idx entry entry' : Nat}
    {writes : List RecordWrite} (h : Filled metaData repo noOfRecords idx entry writes entry') :
    writes.map RecordWrite.idx = List.range' idx writes.length := by
  induction h with
  | full _ => rfl
  | @entry idx entry entry' writes further _ hwrites _ ih =>
      have hfirst : writes.map RecordWrite.idx =
          List.range' idx (metaData entry).totalSensorInstances := by
        have hmap := congrArg (List.map fun place => place.2.1) hwrites
        rw [List.map_map, List.map_map] at hmap
        rw [List.range'_eq_map_range]
        exact hmap
      have hlength : writes.length = (metaData entry).totalSensorInstances := by
        simpa using congrArg List.length hwrites
      rw [List.map_append, hfirst, ih, List.length_append, hlength, List.range'_append_1]

theorem Made.sensorId {repoType : RepositoryType} {metaData : Nat → SensorMetaData}
    {write : RecordWrite} (h : Made table malloc behind repoType metaData write) :
    write.record.sensorId = UInt8.ofNat (write.idx + 1) := by
  obtain ⟨threshIdx, threshIdx', -, h⟩ := h
  obtain ⟨_, _, _, _, _, _, -, -, -, -, -, -, hrecord⟩ := initRecord_ok h
  rw [hrecord]

private theorem sdrOf_numbered {header : AsdmHeader} {writes : List RecordWrite}
    (hidx : writes.map RecordWrite.idx = List.range' 0 writes.length)
    (hid : ∀ write ∈ writes, write.record.sensorId = UInt8.ofNat (write.idx + 1))
    (henough : header.noOfRecords.toNat ≤ writes.length) : Numbered header (sdrOf header writes) := by
  refine ⟨rfl, rfl, ?_⟩
  have hids : writes.map (fun write => write.record.sensorId) =
      (List.range' 0 writes.length).map fun idx => UInt8.ofNat (idx + 1) := by
    rw [← hidx, List.map_map]
    exact List.map_congr_left hid
  change ((writes.map RecordWrite.record).take header.noOfRecords.toNat).map _ = _
  rw [List.map_take, List.map_map]
  change (writes.map fun write => write.record.sensorId).take _ = _
  rw [hids, ← List.map_take, ← List.range_eq_range', List.take_range, Nat.min_eq_left henough]

private theorem initRepositories_numbered {metaData : Nat → SensorMetaData}
    {headers : List AsdmHeader}
    {sdrCount entry threshIdx : Nat} {sdrs : List Sdr} {writes : List RecordWrite}
    (h : initRepositories table malloc behind metaData headers sdrCount entry threshIdx =
      .ok (sdrs, writes)) (hindex : IndexIn table threshIdx) :
    List.Forall₂ Numbered headers sdrs := by
  induction headers generalizing sdrCount entry threshIdx sdrs writes with
  | nil =>
      cases h
      exact .nil
  | cons header headers ih =>
      obtain ⟨first, entry₁, threshIdx₁, sdrs', further, hfirst, hfurther, rfl, rfl⟩ :=
        initRepositories_cons h
      obtain ⟨hnext, hmade⟩ := initRepository_made hfirst hindex
      have henough := (initRepository_wellFormed (by simp) hfirst).1
      rw [Nat.zero_add] at henough
      exact .cons (sdrOf_numbered (initRepository_filled (by simp) hfirst).map_idx
        (fun write hmem => (hmade write hmem).sensorId) henough) (ih hfurther hnext)

theorem initAsdm_numbered {headers : List AsdmHeader} {metaData : List SensorMetaData}
    {beyond : Nat → SensorMetaData} {sdrs : List Sdr} {writes : List RecordWrite}
    (h : initAsdm malloc behind headers metaData beyond = .ok (sdrs, writes)) :
    List.Forall₂ Numbered headers sdrs := by
  unfold initAsdm initAsdmIn at h
  obtain ⟨-, -, h⟩ := checked_bind_ok h
  obtain ⟨-, -, h⟩ := checked_bind_ok h
  exact initRepositories_numbered h List.length_pos_iff.2

end Init

/-! ## The entries are the places of the records laid end to end -/

def mirroredRecords (header : AsdmHeader) : Nat :=
  if header.repositoryType ≠ .boardInfoSdr then header.noOfRecords.toNat else 0

section Places

variable {headers : List AsdmHeader} {sdrInfo : List Sdr}

private theorem mem_visitsFrom (h : List.Forall₂ Numbered headers sdrInfo) {sdrIdx : Nat}
    {visit : Visit} :
    visit ∈ visitsFrom sdrIdx sdrInfo ↔
      ∃ k header idx, headers[k]? = some header ∧ idx < header.noOfRecords.toNat ∧
        visit = ⟨sdrIdx + k, header.repositoryType, UInt8.ofNat (idx + 1)⟩ := by
  induction h generalizing sdrIdx with
  | nil => simp [visitsFrom]
  | @cons header sdr headers sdrs hnumbered _ ih =>
      have hfirst : (sdr.sensorRecord.take sdr.header.noOfRecords.toNat).map (fun record =>
          (⟨sdrIdx, sdr.header.repositoryType, record.sensorId⟩ : Visit)) =
            (List.range header.noOfRecords.toNat).map fun idx =>
              ⟨sdrIdx, header.repositoryType, UInt8.ofNat (idx + 1)⟩ := by
        have hids := hnumbered.sensorIds
        have hlength : sdr.sensorRecord.length = header.noOfRecords.toNat := by
          simpa using congrArg List.length hids
        rw [hnumbered.noOfRecords, List.take_of_length_le (Nat.le_of_eq hlength),
          hnumbered.repositoryType]
        have hmap := congrArg (List.map fun id => (⟨sdrIdx, header.repositoryType, id⟩ : Visit)) hids
        rwa [List.map_map, List.map_map] at hmap
      rw [visitsFrom, hfirst, List.mem_append, ih, List.mem_map]
      constructor
      · rintro (⟨idx, hidx, rfl⟩ | ⟨k, header', idx, hheader, hidx, rfl⟩)
        · exact ⟨0, header, idx, rfl, List.mem_range.1 hidx, rfl⟩
        · exact ⟨k + 1, header', idx, hheader, hidx, by rw [Nat.add_assoc, Nat.add_comm 1]⟩
      · rintro ⟨k, header', idx, hheader, hidx, rfl⟩
        cases k with
        | zero =>
            obtain rfl := Option.some.inj hheader
            exact .inl ⟨idx, List.mem_range.2 hidx, rfl⟩
        | succ k =>
            exact .inr ⟨k, header', idx, hheader, hidx, by rw [Nat.add_assoc, Nat.add_comm 1]⟩

private theorem sum_records (sdrs : List Sdr) (start : UInt8) :
    sdrs.foldl (fun recordCount sdr =>
        if sdr.header.repositoryType ≠ .boardInfoSdr then recordCount + sdr.header.noOfRecords
        else recordCount) start =
      start + UInt8.ofNat (sdrs.map fun sdr => mirroredRecords sdr.header).sum := by
  induction sdrs generalizing start with
  | nil => simp
  | cons sdr sdrs ih =>
      rw [List.foldl_cons, ih, List.map_cons, List.sum_cons, UInt8.ofNat_add, mirroredRecords]
      split
      · rw [UInt8.ofNat_toNat, UInt8.add_assoc]
      · simp

private theorem Numbered.mirroredRecords {header : AsdmHeader} {sdr : Sdr}
    (h : Numbered header sdr) :
    Asdm.mirroredRecords sdr.header = Asdm.mirroredRecords header := by
  rw [Asdm.mirroredRecords, Asdm.mirroredRecords, h.repositoryType, h.noOfRecords]

private theorem rmiRecordCount_eq (h : List.Forall₂ Numbered headers sdrInfo) (k idx : Nat) :
    rmiRecordCount sdrInfo (UInt8.ofNat (idx + 1)) k =
      UInt8.ofNat (Blocks.start (headers.map mirroredRecords) k + idx) := by
  have hsizes : sdrInfo.map (fun sdr => mirroredRecords sdr.header) =
      headers.map mirroredRecords := by
    induction h with
    | nil => rfl
    | cons hnumbered _ ih => rw [List.map_cons, List.map_cons, ih, hnumbered.mirroredRecords]
  rw [rmiRecordCount, sum_records, List.map_take, hsizes, Blocks.start]
  simp

def visitAt (headers : List AsdmHeader) (k idx : Nat) : Visit :=
  ⟨k, (headers[k]?.map AsdmHeader.repositoryType).getD .boardInfoSdr, UInt8.ofNat (idx + 1)⟩

private theorem mem_dynamicVisits (h : List.Forall₂ Numbered headers sdrInfo) {visit : Visit} :
    visit ∈ dynamicVisits sdrInfo ↔
      ∃ k idx, idx < (headers.map mirroredRecords).getD k 0 ∧ visit = visitAt headers k idx := by
  rw [dynamicVisits, List.mem_filter, visits, mem_visitsFrom h]
  constructor
  · rintro ⟨⟨k, header, idx, hheader, hidx, rfl⟩, hdynamic⟩
    have htype : header.repositoryType ≠ .boardInfoSdr := of_decide_eq_true hdynamic
    refine ⟨k, idx, ?_, by simp [visitAt, hheader]⟩
    simpa [hheader, mirroredRecords, htype] using hidx
  · rintro ⟨k, idx, hidx, rfl⟩
    cases hheader : headers[k]? with
    | none => simp [hheader] at hidx
    | some header =>
        by_cases htype : header.repositoryType = .boardInfoSdr
        · simp [hheader, mirroredRecords, htype] at hidx
        · refine ⟨⟨k, header, idx, hheader, ?_, by simp [visitAt, hheader]⟩, ?_⟩
          · simpa [hheader, mirroredRecords, htype] using hidx
          · simpa [visitAt, hheader] using htype

private theorem visitAt_slot (h : List.Forall₂ Numbered headers sdrInfo) (k idx : Nat) :
    (visitAt headers k idx).slot sdrInfo =
      UInt8.ofNat (Blocks.start (headers.map mirroredRecords) k + idx) :=
  rmiRecordCount_eq h k idx

private theorem mirrorSafe_iff_sum (h : List.Forall₂ Numbered headers sdrInfo) {entries : Nat}
    (hentries : entries < 256) :
    MirrorSafe sdrInfo entries ↔ (headers.map mirroredRecords).sum ≤ entries := by
  constructor
  · intro hsafe
    by_contra hmany
    -- the first record behind the mirror
    obtain ⟨k, idx, hidx, hplace⟩ := Blocks.exists_place (Nat.lt_of_not_le hmany)
    have hslot := hsafe.inRange _ ((mem_dynamicVisits h).2 ⟨k, idx, hidx, rfl⟩)
    rw [visitAt_slot h, hplace, UInt8.toNat_ofNat', Nat.mod_eq_of_lt hentries] at hslot
    exact Nat.lt_irrefl _ hslot
  · intro hsum
    have hplace : ∀ k idx, idx < (headers.map mirroredRecords).getD k 0 →
        ((visitAt headers k idx).slot sdrInfo).toNat =
          Blocks.start (headers.map mirroredRecords) k + idx ∧
        Blocks.start (headers.map mirroredRecords) k + idx < entries := by
      intro k idx hidx
      have hlt := Blocks.start_add_lt hidx
      rw [visitAt_slot h, UInt8.toNat_ofNat', Nat.mod_eq_of_lt (by omega)]
      exact ⟨rfl, by omega⟩
    refine ⟨fun visit hvisit => ?_, fun visit hvisit visit' hvisit' hslot => ?_⟩
    · obtain ⟨k, idx, hidx, rfl⟩ := (mem_dynamicVisits h).1 hvisit
      obtain ⟨hslot, hlt⟩ := hplace k idx hidx
      rwa [hslot]
    · obtain ⟨k, idx, hidx, rfl⟩ := (mem_dynamicVisits h).1 hvisit
      obtain ⟨k', idx', hidx', rfl⟩ := (mem_dynamicVisits h).1 hvisit'
      have heq := congrArg UInt8.toNat hslot
      rw [(hplace k idx hidx).1, (hplace k' idx' hidx').1] at heq
      obtain ⟨rfl, rfl⟩ := Blocks.start_add_inj hidx hidx' heq
      rfl

private theorem clRmiInitSensors_length (fresh : Nat → SensorsDs) (headers : List AsdmHeader) :
    (clRmiInitSensors fresh headers).1.length = (dynamicSensorCount headers).toNat ∧
      (clRmiInitSensors fresh headers).2.length = (dynamicSensorCount headers).toNat := by
  simp [clRmiInitSensors, vmcInitRmiSensorBuffer]

end Places

/-! ## The tables of the source -/

def headersWith (counts : RepositoryType → UInt8) : List AsdmHeader :=
  asdmHeaderInfo.map fun header => { header with noOfRecords := counts header.repositoryType }

def dynamicRecords (counts : RepositoryType → UInt8) : Nat :=
  (counts .temperatureSdr).toNat + (counts .voltageSdr).toNat + (counts .currentSdr).toNat +
    (counts .powerSdr).toNat

/-- Both buffers have room for the slots of all records, and no slot is used twice. -/
def RmiMirrored (fresh : Nat → SensorsDs) (headers : List AsdmHeader) (sdrInfo : List Sdr) : Prop :=
  MirrorSafe sdrInfo (clRmiInitSensors fresh headers).1.length ∧
    MirrorSafe sdrInfo (clRmiInitSensors fresh headers).2.length

theorem rmiMirrored_iff {counts : RepositoryType → UInt8} {malloc : Allocation → Bool}
    {behind : Memory} {metaData : List SensorMetaData} {beyond : Nat → SensorMetaData}
    {sdrInfo : List Sdr} {writes : List RecordWrite} (fresh : Nat → SensorsDs)
    (h : initAsdm malloc behind (headersWith counts) metaData beyond = .ok (sdrInfo, writes)) :
    RmiMirrored fresh (headersWith counts) sdrInfo ↔ dynamicRecords counts ≤ 4 := by
  have hcount : (dynamicSensorCount (headersWith counts)).toNat = 4 := rfl
  have hsum : ((headersWith counts).map mirroredRecords).sum = dynamicRecords counts := by
    simp [headersWith, asdmHeaderInfo, mirroredRecords, dynamicRecords, Nat.add_assoc]
  rw [RmiMirrored, (clRmiInitSensors_length fresh _).1, (clRmiInitSensors_length fresh _).2,
    and_self, hcount, mirrorSafe_iff_sum (initAsdm_numbered h) (by decide), hsum]

def oneEach : Platform :=
  { v80 with
    asdmHeaderInfo := [(.boardInfoSdr, 1), (.temperatureSdr, 1), (.voltageSdr, 1),
      (.currentSdr, 1), (.powerSdr, 1)]
    supportedSensors := [.productName, .tempBoard, .voltageGroupSensors, .currentGroupSensors,
      .powerTotal]
    voltageInstances := 1
    currentInstances := 1 }

theorem rmiMirrored_oneEach :
    ∃ sdrInfo writes, oneEach.init = .ok (sdrInfo, writes) ∧
      RmiMirrored (fun _ => ⟨0, 0, []⟩) (headersWith fun _ => 1) sdrInfo := by
  have hok : oneEach.init.isOk = true := by decide +kernel
  match hinit : oneEach.init with
  | .error stop => simp [hinit, Except.isOk, Except.toBool] at hok
  | .ok (sdrInfo, writes) =>
      have hheaders : oneEach.headers = headersWith fun _ => 1 := by decide
      rw [Platform.init, hheaders] at hinit
      exact ⟨sdrInfo, writes, rfl, (rmiMirrored_iff _ hinit).2 (by decide)⟩

/-- Thirty records and four entries. -/
theorem v80_not_rmiMirrored :
    ∃ sdrInfo writes, v80.init = .ok (sdrInfo, writes) ∧
      ¬ RmiMirrored (fun _ => ⟨0, 0, []⟩) v80.headers sdrInfo := by
  have hrun : v80.init.toOption.map (fun built => (dynamicVisits built.1).any fun visit =>
      decide ((clRmiInitSensors (fun _ => ⟨0, 0, []⟩) v80.headers).1.length ≤
        (visit.slot built.1).toNat)) = some true := by
    decide +kernel
  match hinit : v80.init with
  | .error stop => simp [hinit, Except.toOption] at hrun
  | .ok (sdrInfo, writes) =>
      refine ⟨sdrInfo, writes, rfl, fun hmirrored => ?_⟩
      rw [hinit] at hrun
      obtain ⟨visit, hmem, hslot⟩ := List.any_eq_true.1 (Option.some.inj hrun)
      exact absurd (hmirrored.1.inRange visit hmem) (Nat.not_lt.2 (of_decide_eq_true hslot))

end Vmr.Asdm
