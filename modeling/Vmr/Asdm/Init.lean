import Vmr.Asdm.Record
import Mathlib.Algebra.BigOperators.Group.List.Basic
import Mathlib.Data.List.Nodup

/-!
# Building the repositories

`Init_Asdm` walks the headers and fills each repository from the metadata list,
one entry after another, until the repository has as many records as its header
says.  An entry with several instances fills as many records, all of them, even
where the repository is full before the last one; neither the type of an entry
nor the end of the list is looked at.
-/

namespace Vmr.Asdm

open Vmr.Lib

/-! ## The loops -/

structure RecordWrite where
  repo : Nat
  idx : Nat
  entry : Nat
  sensorInstance : Nat
  record : SensorRecord

def RecordWrite.source (write : RecordWrite) : Nat × Nat := (write.entry, write.sensorInstance)

inductive Allocation where
  | metaData | sdrInfo | sensorRecord (repo : Nat) | field (repo idx : Nat) (field : Field)
  deriving DecidableEq, Repr

structure Sdr where
  header : AsdmHeader
  sensorRecord : List SensorRecord
  asdmEor : List UInt8

section Init

variable (table : List ThresholdRow) (malloc : Allocation → Bool) (behind : Memory)

section Repository

variable (repo : Nat) (repoType : RepositoryType)

/-- `while (sensorInstance < totalSensorInstances)`, with the number that is left. -/
def initInstances (entry : Nat) (metaData : SensorMetaData) :
    Nat → Nat → Nat → Nat → Checked (List RecordWrite × Nat)
  | 0, _, _, threshIdx => return ([], threshIdx)
  | left + 1, idx, sensorInstance, threshIdx => do
      let (record, threshIdx) ← initRecord table (fun field => malloc (.field repo idx field))
        behind repoType metaData idx sensorInstance threshIdx
      let (writes, threshIdx) ← initInstances entry metaData left (idx + 1)
        (sensorInstance + 1) threshIdx
      return ({ repo, idx, entry, sensorInstance, record } :: writes, threshIdx)

/--
`for (idx = 0; idx < no_of_records; )`.  A round takes one entry of the
metadata and raises `idx`, so there are at most `no_of_records` of them.
-/
def initRepository (metaData : Nat → SensorMetaData) (noOfRecords : Nat) :
    Nat → Nat → Nat → Nat → Checked (List RecordWrite × Nat × Nat)
  | 0, _, totalRecords, threshIdx => return ([], totalRecords, threshIdx)
  | rounds + 1, idx, totalRecords, threshIdx =>
      if idx < noOfRecords then do
        let total := (metaData totalRecords).totalSensorInstances
        let (writes, threshIdx) ← initInstances table malloc behind repo repoType totalRecords
          (metaData totalRecords) total idx 0 threshIdx
        let (further, totalRecords, threshIdx) ← initRepository metaData noOfRecords rounds
          (idx + total) (totalRecords + 1) threshIdx
        return (writes ++ further, totalRecords, threshIdx)
      else return ([], totalRecords, threshIdx)

end Repository

def SensorRecord.byteCount (record : SensorRecord) : Nat :=
  let length (field : Option (List UInt8)) := (field.map List.length).getD 0
  7 + length record.sensorName + length record.sensorValue + length record.sensorBaseUnit +
    ([.lowerFatal, .lowerCritical, .lowerWarning, .upperFatal, .upperCritical,
      .upperWarning].map fun threshold => length (record.limit threshold)).sum +
    length record.sensorMaxValue + length record.sensorAverageValue

def bytesOf (records : List SensorRecord) : UInt8 :=
  let byteCount := UInt16.ofNat ((records.map SensorRecord.byteCount).sum + 3)
  let byteCount := if byteCount % 8 ≠ 0 then byteCount + (8 - byteCount % 8) else byteCount
  (byteCount / 8).toUInt8

def sdrOf (header : AsdmHeader) (writes : List RecordWrite) : Sdr :=
  { header := { header with noOfBytes := bytesOf (writes.map RecordWrite.record) }
    sensorRecord := (writes.map RecordWrite.record).take header.noOfRecords.toNat
    asdmEor := text "END" ++ [0] }

def initRepositories (metaData : Nat → SensorMetaData) :
    List AsdmHeader → Nat → Nat → Nat → Checked (List Sdr × List RecordWrite)
  | [], _, _, _ => return ([], [])
  | header :: headers, sdrCount, totalRecords, threshIdx => do
      allocate (malloc (.sensorRecord sdrCount))
      let noOfRecords := header.noOfRecords.toNat
      let (writes, totalRecords, threshIdx) ← initRepository table malloc behind sdrCount
        header.repositoryType metaData noOfRecords noOfRecords 0 totalRecords threshIdx
      let (sdrs, further) ← initRepositories metaData headers (sdrCount + 1) totalRecords threshIdx
      return (sdrOf header writes :: sdrs, writes ++ further)

/--
`Init_Asdm`.  That the counts of the headers do not add up to the length of the
metadata is logged, and the initialisation goes on.  What lies behind the
metadata list is read as metadata, too: `beyond`.
-/
def initAsdmIn (asdmHeaderInfo : List AsdmHeader) (metaData : List SensorMetaData)
    (beyond : Nat → SensorMetaData) : Checked (List Sdr × List RecordWrite) := do
  allocate (malloc .metaData)
  allocate (malloc .sdrInfo)
  initRepositories table malloc behind (fun entry => metaData.getD entry (beyond entry))
    asdmHeaderInfo 0 0 0

def initAsdm (asdmHeaderInfo : List AsdmHeader) (metaData : List SensorMetaData)
    (beyond : Nat → SensorMetaData) : Checked (List Sdr × List RecordWrite) :=
  initAsdmIn thresholdsLimitTbl malloc behind asdmHeaderInfo metaData beyond

end Init

/-! ## The headers of a platform -/

def asdmHeaderInfo : List AsdmHeader :=
  [⟨.boardInfoSdr, asdmHeaderVer, 0, 0x7F⟩, ⟨.temperatureSdr, asdmHeaderVer, 0, 0x7F⟩,
    ⟨.voltageSdr, asdmHeaderVer, 0, 0x7F⟩, ⟨.currentSdr, asdmHeaderVer, 0, 0x7F⟩,
    ⟨.powerSdr, asdmHeaderVer, 0, 0x7F⟩]

def asdmUpdateRecordCount : List AsdmHeader → List (RepositoryType × UInt8) → List AsdmHeader
  | header :: headers, info :: infos =>
      (if header.repositoryType = info.1 then { header with noOfRecords := info.2 } else header) ::
        asdmUpdateRecordCount headers infos
  | headers, _ => headers

end Vmr.Asdm
