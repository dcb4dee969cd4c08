import Vmr.Asdm.Statistics

/-!
# What changes behind an initialisation

`Asdm_Update_Sensors` stores readings and the two versions of the satellite
controller.  Nothing else writes to the repositories, and none of this changes
a size: what a run leaves as it was are the records with zeros for their
readings.
-/

namespace Vmr.Asdm

open Vmr.Lib

/-! ## The versions of the satellite controller -/

def activeScVer : Name := text "Active SC Ver"
def targetScVer : Name := text "Target SC Ver"

def nameStarts (name : Name) (record : SensorRecord) : Checked Bool :=
  match record.sensorName with
  | none => .error .assertion
  | some bytes => return bytes.take name.length == name

/-- From `sensorRecord[idx - 1]` down to the first record; the name found ends the loop. -/
def updateMspRecord (name : Name) (version : List UInt8) (sdr : Sdr) :
    Nat → Checked (Option (Nat × SensorRecord))
  | 0 => return none
  | idx + 1 => do
      let record ← sdr.recordAt idx
      if ← nameStarts name record then
        let value ← copyOver record.sensorValue (some version) version.length
        return some (idx, { record with sensorValue := some value })
      else updateMspRecord name version sdr idx

/-- `s8 idx = no_of_records - 1` is negative for more than 128 records. -/
def mspRounds (noOfRecords : UInt8) : Nat := if noOfRecords ≤ 128 then noOfRecords.toNat else 0

section Upkeep

variable (headers : List AsdmHeader)

def updateMspSensor (name : Name) (version : List UInt8) (sdrInfo : List Sdr) :
    Checked (List Sdr) := do
  let repo := getSdrIndex headers RepositoryType.boardInfoSdr.code
  let sdr ← sdrAt sdrInfo repo
  match ← updateMspRecord name version sdr (mspRounds sdr.header.noOfRecords) with
  | none => return sdrInfo
  | some (idx, record) => return withRecord sdrInfo repo.toNat sdr idx record

def asdmUpdateActiveMspSensor (scVersion : List UInt8) (sdrInfo : List Sdr) :
    Checked (List Sdr) := updateMspSensor headers activeScVer scVersion sdrInfo

def asdmUpdateTargetMspSensor (fptScVersion : List UInt8) (sdrInfo : List Sdr) :
    Checked (List Sdr) := updateMspSensor headers targetScVer fptScVersion sdrInfo

inductive Upkeep where
  | sensorValue (call : UpdateCall)
  | activeMspSensor (scVersion : List UInt8) (h : scVersion.length = 4)
  | targetMspSensor (fptScVersion : List UInt8) (h : fptScVersion.length = 3)

def upkeep (sdrInfo : List Sdr) : Upkeep → Checked (List Sdr)
  | .sensorValue call => Prod.snd <$> updateSensorValue headers sdrInfo call
  | .activeMspSensor scVersion _ => asdmUpdateActiveMspSensor headers scVersion sdrInfo
  | .targetMspSensor fptScVersion _ => asdmUpdateTargetMspSensor headers fptScVersion sdrInfo

/-- The repositories at any later time. -/
def Later (sdrInfo sdrInfo' : List Sdr) : Prop :=
  ∃ events : List Upkeep, events.foldlM (upkeep headers) sdrInfo = .ok sdrInfo'

end Upkeep

/-! ## What stays -/

/-- Zeros in the place of the bytes. -/
def blank (field : Option (List UInt8)) : Option (List UInt8) :=
  field.map fun bytes => List.replicate bytes.length 0

def SensorRecord.blank (record : SensorRecord) : SensorRecord :=
  { record with
    sensorValue := Asdm.blank record.sensorValue
    sensorMaxValue := Asdm.blank record.sensorMaxValue
    sensorAverageValue := Asdm.blank record.sensorAverageValue
    sensorStatus := 0
    sampleCount := 0 }

def Sdr.blank (sdr : Sdr) : Sdr :=
  { sdr with sensorRecord := sdr.sensorRecord.map SensorRecord.blank }

private theorem blank_of_length {old new : List UInt8} (h : new.length = old.length) :
    blank (some new) = blank (some old) := by
  simp [blank, h]

private theorem copyOver_blank {destination source : Option (List UInt8)} {size : Nat}
    {copied : List UInt8} (h : copyOver destination source size = .ok copied) :
    blank (some copied) = blank destination := by
  unfold copyOver at h
  split at h
  · rename_i old new
    split at h
    · cases h
    · split at h
      · cases h
      · cases h
        refine blank_of_length ?_
        rw [List.length_append, List.length_take, List.length_drop]
        omega
  · cases h

private theorem storeWord_blank {field : Option (List UInt8)} {size : Nat} {word : UInt32}
    {stored : List UInt8} (h : storeWord field size word = .ok stored) :
    blank (some stored) = blank field := by
  unfold storeWord at h
  split at h
  · cases h
  · rename_i bytes
    split at h
    · cases h
    · cases h
      refine blank_of_length ?_
      rw [List.length_append, length_lowBytes, List.length_drop]
      omega

private theorem storeReading_blank {info : SnsrRead} {record record' : SensorRecord}
    (h : storeReading info record = .ok record') : record'.blank = record.blank := by
  unfold storeReading at h
  split at h
  · obtain ⟨value, hvalue, h⟩ := checked_bind_ok h
    cases h
    simp [SensorRecord.blank, copyOver_blank hvalue]
  · cases h
    rfl

private theorem updatedMaxValue_blank {size : Nat} {record : SensorRecord}
    {maxValue : Option (List UInt8)} (h : updatedMaxValue size record = .ok maxValue) :
    blank maxValue = blank record.sensorMaxValue := by
  unfold updatedMaxValue at h
  obtain ⟨value, -, h⟩ := checked_bind_ok h
  obtain ⟨old, -, h⟩ := checked_bind_ok h
  split at h
  · rw [map_eq_pure_bind] at h
    obtain ⟨copied, hcopied, h⟩ := checked_bind_ok h
    cases h
    exact copyOver_blank hcopied
  · cases h
    rfl

private theorem updatedAverageValue_blank {size : Nat} {record : SensorRecord}
    {average : List UInt8}
    (h : updatedAverageValue size record = .ok average) :
    blank (some average) = blank record.sensorAverageValue := by
  unfold updatedAverageValue at h
  obtain ⟨old, -, h⟩ := checked_bind_ok h
  obtain ⟨less, -, h⟩ := checked_bind_ok h
  obtain ⟨value, -, h⟩ := checked_bind_ok h
  obtain ⟨more, -, h⟩ := checked_bind_ok h
  exact storeWord_blank h

private theorem updateStatistics_blank {size : Nat} {record record' : SensorRecord}
    (h : updateStatistics size record = .ok record') : record'.blank = record.blank := by
  unfold updateStatistics at h
  split at h
  · obtain ⟨maxValue, hmaxValue, h⟩ := checked_bind_ok h
    obtain ⟨average, haverage, h⟩ := checked_bind_ok h
    cases h
    simp [SensorRecord.blank, updatedMaxValue_blank hmaxValue, updatedAverageValue_blank haverage]
  · cases h
    rfl

theorem updateRecord_blank {info : SnsrRead} {record record' : SensorRecord}
    (h : updateRecord info record = .ok record') : record'.blank = record.blank := by
  unfold updateRecord at h
  obtain ⟨stored, hstored, h⟩ := checked_bind_ok h
  rw [← storeReading_blank hstored]
  split at h
  · simp only at h
    split at h
    · obtain ⟨updated, hupdated, h⟩ := checked_bind_ok h
      cases h
      have hblank := updateStatistics_blank hupdated
      exact hblank
    · cases h
      rfl
  · cases h
    rfl

private theorem updateMspRecord_blank {name : Name} {version : List UInt8} {sdr : Sdr}
    {rounds idx : Nat}
    {record' : SensorRecord}
    (h : updateMspRecord name version sdr rounds = .ok (some (idx, record'))) :
    ∃ record, sdr.recordAt idx = .ok record ∧ record'.blank = record.blank := by
  induction rounds with
  | zero => cases h
  | succ rounds ih =>
      rw [updateMspRecord] at h
      obtain ⟨record, hrecord, h⟩ := checked_bind_ok h
      obtain ⟨found, -, h⟩ := checked_bind_ok h
      cases found with
      | false => exact ih h
      | true =>
          obtain ⟨value, hvalue, h⟩ := checked_bind_ok h
          cases h
          exact ⟨record, hrecord, by simp [SensorRecord.blank, copyOver_blank hvalue]⟩

/-! ## Runs -/

private theorem recordAt_ok {sdr : Sdr} {idx : Nat} {record : SensorRecord}
    (h : sdr.recordAt idx = .ok record) : sdr.sensorRecord[idx]? = some record := by
  unfold Sdr.recordAt at h
  split at h
  · cases h
  · rename_i hrecord
    cases h
    exact hrecord

private theorem sdrAt_ok {sdrInfo : List Sdr} {repo : Int} {sdr : Sdr}
    (h : sdrAt sdrInfo repo = .ok sdr) : sdrInfo[repo.toNat]? = some sdr := by
  unfold sdrAt at h
  split at h
  · cases h
  · split at h
    · cases h
    · rename_i hsdr
      cases h
      exact hsdr

theorem withRecord_blank {sdrInfo : List Sdr} {repo idx : Nat} {sdr : Sdr}
    {record record' : SensorRecord} (hsdr : sdrInfo[repo]? = some sdr)
    (hrecord : sdr.sensorRecord[idx]? = some record) (h : record'.blank = record.blank) :
    (withRecord sdrInfo repo sdr idx record').map Sdr.blank = sdrInfo.map Sdr.blank := by
  obtain ⟨hidx, rfl⟩ := List.getElem?_eq_some_iff.1 hrecord
  obtain ⟨hrepo, rfl⟩ := List.getElem?_eq_some_iff.1 hsdr
  have hrecords : (sdrInfo[repo].sensorRecord.set idx record').map SensorRecord.blank =
      sdrInfo[repo].sensorRecord.map SensorRecord.blank := by
    rw [List.map_set, h, ← List.map_set, List.set_getElem_self]
  have hblank : Sdr.blank { sdrInfo[repo] with
      sensorRecord := sdrInfo[repo].sensorRecord.set idx record' } = sdrInfo[repo].blank := by
    simp only [Sdr.blank, hrecords]
  rw [withRecord, List.map_set, hblank, ← List.map_set, List.set_getElem_self]

section Run

variable {headers : List AsdmHeader} {sdrInfo sdrInfo' : List Sdr}

private theorem updateSensorValue_blank {call : UpdateCall} {status : Int}
    (h : updateSensorValue headers sdrInfo call = .ok (status, sdrInfo')) :
    sdrInfo'.map Sdr.blank = sdrInfo.map Sdr.blank := by
  unfold updateSensorValue at h
  split at h
  · cases h
    rfl
  · simp only at h
    split at h
    · cases h
      rfl
    · split at h
      · cases h
      · obtain ⟨sdr, hsdr, h⟩ := checked_bind_ok h
        obtain ⟨record, hrecord, h⟩ := checked_bind_ok h
        obtain ⟨record', hrecord', h⟩ := checked_bind_ok h
        cases h
        exact withRecord_blank (sdrAt_ok hsdr) (recordAt_ok hrecord) (updateRecord_blank hrecord')

theorem updateMspSensor_blank {name : Name} {version : List UInt8}
    (h : updateMspSensor headers name version sdrInfo = .ok sdrInfo') :
    sdrInfo'.map Sdr.blank = sdrInfo.map Sdr.blank := by
  unfold updateMspSensor at h
  obtain ⟨sdr, hsdr, h⟩ := checked_bind_ok h
  obtain ⟨found, hfound, h⟩ := checked_bind_ok h
  cases found with
  | none =>
      cases h
      rfl
  | some found =>
      cases h
      obtain ⟨record, hrecord, hblank⟩ := updateMspRecord_blank hfound
      exact withRecord_blank (sdrAt_ok hsdr) (recordAt_ok hrecord) hblank

private theorem upkeep_blank {event : Upkeep} (h : upkeep headers sdrInfo event = .ok sdrInfo') :
    sdrInfo'.map Sdr.blank = sdrInfo.map Sdr.blank := by
  cases event with
  | sensorValue call =>
      rw [upkeep, map_eq_pure_bind] at h
      obtain ⟨result, hresult, h⟩ := checked_bind_ok h
      cases h
      exact updateSensorValue_blank hresult
  | activeMspSensor scVersion _ => exact updateMspSensor_blank h
  | targetMspSensor fptScVersion _ => exact updateMspSensor_blank h

theorem Later.blank (h : Later headers sdrInfo sdrInfo') :
    sdrInfo'.map Sdr.blank = sdrInfo.map Sdr.blank := by
  obtain ⟨events, h⟩ := h
  induction events generalizing sdrInfo with
  | nil =>
      cases h
      rfl
  | cons event events ih =>
      rw [List.foldlM_cons] at h
      obtain ⟨next, hnext, h⟩ := checked_bind_ok h
      rw [ih h, upkeep_blank hnext]

end Run

end Vmr.Asdm
