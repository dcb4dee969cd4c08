import Vmr.Asdm.Init

/-!
# Where the records of a platform land

A successful initialisation took the entries of the metadata in order.  It
stayed inside its repositories and made every record exactly once just when the
metadata falls into one group for each header, of the header's type and with as
many instances as the header has records.
-/

namespace Vmr.Asdm

open Vmr.Lib

/-! ## Successful runs -/

def RecordWrite.place (write : RecordWrite) : Nat × Nat × Nat × Nat :=
  (write.repo, write.idx, write.entry, write.sensorInstance)

def SensorMetaData.nameOf (metaData : SensorMetaData) (sensorInstance : Nat) : Name :=
  if 1 < metaData.totalSensorInstances then metaData.getSensorName sensorInstance
  else metaData.sensorName

theorem initRecord_ok {table : List ThresholdRow} {malloc : Field → Bool} {behind : Memory}
    {repo : RepositoryType} {metaData : SensorMetaData}
    {idx sensorInstance threshIdx threshIdx' : Nat} {record : SensorRecord}
    (h : initRecord table malloc behind repo metaData idx sensorInstance threshIdx =
      .ok (record, threshIdx')) :
    let name := metaData.nameOf sensorInstance
    let snsrNameLen := UInt8.ofNat (name.length + 1)
    let typeLength := valueTypeLength repo name metaData
    let valueLen := lengthOf typeLength
    ∃ sensorName sensorValue sensorBaseUnit limit sensorMaxValue sensorAverageValue,
      secureMemcpy behind sensorNameMax (some (name ++ [0])) snsrNameLen.toNat = .ok sensorName ∧
      initValue malloc behind metaData valueLen = .ok sensorValue ∧
      initBaseUnit malloc behind repo = .ok sensorBaseUnit ∧
      initThresholds table malloc behind repo name snsrNameLen valueLen
        metaData.supportedThreshold threshIdx = .ok (limit, threshIdx') ∧
      initDynamic malloc .sensorMaxValue metaData.sampleCount valueLen = .ok sensorMaxValue ∧
      initDynamic malloc .sensorAverageValue metaData.sampleCount valueLen =
        .ok sensorAverageValue ∧
      record =
        { sensorId := UInt8.ofNat (idx + 1)
          sensorNameTypeLength := sensorTypeAscii ||| (snsrNameLen &&& lengthBitmask)
          sensorName := some sensorName
          sensorValueTypeLength := typeLength
          sensorValue := some sensorValue
          sensorBaseUnitTypeLength := (sensorUnitTbl repo).sensorUnitTypeLen
          sensorBaseUnit
          sensorUnitModifierByte := metaData.snsrUnitModifier
          thresholdSupportByte := metaData.supportedThreshold
          limit
          sensorStatus := sensorPresentAndValid
          sensorMaxValue
          sensorAverageValue
          sampleCount := metaData.sampleCount.toUInt32
          sensorInstance := UInt8.ofNat sensorInstance } := by
  unfold initRecord at h
  obtain ⟨-, -, h⟩ := checked_bind_ok h
  obtain ⟨name, hname, h⟩ := checked_bind_ok h
  obtain ⟨value, hvalue, h⟩ := checked_bind_ok h
  obtain ⟨baseUnit, hbaseUnit, h⟩ := checked_bind_ok h
  obtain ⟨⟨limits, threshIdx₁⟩, hlimits, h⟩ := checked_bind_ok h
  obtain ⟨maxValue, hmaxValue, h⟩ := checked_bind_ok h
  obtain ⟨averageValue, haverageValue, h⟩ := checked_bind_ok h
  cases h
  exact ⟨name, value, baseUnit, limits, maxValue, averageValue, hname, hvalue, hbaseUnit,
    hlimits, hmaxValue, haverageValue, rfl⟩

theorem initInstances_succ {table : List ThresholdRow} {malloc : Allocation → Bool}
    {behind : Memory} {repo : Nat} {repoType : RepositoryType} {entry : Nat}
    {metaData : SensorMetaData} {left idx sensorInstance threshIdx threshIdx' : Nat}
    {writes : List RecordWrite}
    (h : initInstances table malloc behind repo repoType entry metaData (left + 1) idx
      sensorInstance threshIdx = .ok (writes, threshIdx')) :
    ∃ record threshIdx₁ further,
      initRecord table (fun field => malloc (.field repo idx field)) behind repoType metaData idx
        sensorInstance threshIdx = .ok (record, threshIdx₁) ∧
      initInstances table malloc behind repo repoType entry metaData left (idx + 1)
        (sensorInstance + 1) threshIdx₁ = .ok (further, threshIdx') ∧
      writes = { repo, idx, entry, sensorInstance, record } :: further := by
  rw [initInstances] at h
  obtain ⟨⟨record, threshIdx₁⟩, hrecord, h⟩ := checked_bind_ok h
  obtain ⟨⟨further, threshIdx₂⟩, hfurther, h⟩ := checked_bind_ok h
  cases h
  exact ⟨record, threshIdx₁, further, hrecord, hfurther, rfl⟩

theorem initRepository_succ {table : List ThresholdRow} {malloc : Allocation → Bool}
    {behind : Memory} {repo : Nat} {repoType : RepositoryType} {metaData : Nat → SensorMetaData}
    {noOfRecords rounds idx entry entry' threshIdx threshIdx' : Nat} {writes : List RecordWrite}
    (h : initRepository table malloc behind repo repoType metaData noOfRecords (rounds + 1) idx
      entry threshIdx = .ok (writes, entry', threshIdx')) :
    (idx < noOfRecords ∧ ∃ first threshIdx₁ further,
      initInstances table malloc behind repo repoType entry (metaData entry)
        (metaData entry).totalSensorInstances idx 0 threshIdx = .ok (first, threshIdx₁) ∧
      initRepository table malloc behind repo repoType metaData noOfRecords rounds
        (idx + (metaData entry).totalSensorInstances) (entry + 1) threshIdx₁ =
          .ok (further, entry', threshIdx') ∧
      writes = first ++ further) ∨
    (noOfRecords ≤ idx ∧ writes = [] ∧ entry' = entry ∧ threshIdx' = threshIdx) := by
  rw [initRepository] at h
  split at h
  · rename_i hidx
    obtain ⟨⟨first, threshIdx₁⟩, hfirst, h⟩ := checked_bind_ok h
    obtain ⟨⟨further, entry₂, threshIdx₂⟩, hfurther, h⟩ := checked_bind_ok h
    cases h
    exact .inl ⟨hidx, first, threshIdx₁, further, hfirst, hfurther, rfl⟩
  · rename_i hidx
    cases h
    exact .inr ⟨Nat.le_of_not_lt hidx, rfl, rfl, rfl⟩

theorem initRepositories_cons {table : List ThresholdRow} {malloc : Allocation → Bool}
    {behind : Memory} {metaData : Nat → SensorMetaData} {header : AsdmHeader}
    {headers : List AsdmHeader} {sdrCount entry threshIdx : Nat} {sdrs : List Sdr}
    {writes : List RecordWrite}
    (h : initRepositories table malloc behind metaData (header :: headers) sdrCount entry
      threshIdx = .ok (sdrs, writes)) :
    ∃ first entry' threshIdx' sdrs' further,
      initRepository table malloc behind sdrCount header.repositoryType metaData
        header.noOfRecords.toNat header.noOfRecords.toNat 0 entry threshIdx =
          .ok (first, entry', threshIdx') ∧
      initRepositories table malloc behind metaData headers (sdrCount + 1) entry' threshIdx' =
        .ok (sdrs', further) ∧
      sdrs = sdrOf header first :: sdrs' ∧ writes = first ++ further := by
  rw [initRepositories] at h
  obtain ⟨-, -, h⟩ := checked_bind_ok h
  obtain ⟨⟨first, entry', threshIdx'⟩, hfirst, h⟩ := checked_bind_ok h
  obtain ⟨⟨sdrs', further⟩, hfurther, h⟩ := checked_bind_ok h
  cases h
  exact ⟨first, entry', threshIdx', sdrs', further, hfirst, hfurther, rfl, rfl⟩

section Runs

variable (metaData : Nat → SensorMetaData)

/-- The writes of one repository, from `idx` on and from `entry` to the last entry taken. -/
inductive Filled (repo noOfRecords : Nat) : Nat → Nat → List RecordWrite → Nat → Prop
  | full {idx entry : Nat} (h : noOfRecords ≤ idx) : Filled repo noOfRecords idx entry [] entry
  | entry {idx entry entry' : Nat} {writes further : List RecordWrite} (h : idx < noOfRecords)
      (hwrites : writes.map RecordWrite.place =
        (List.range (metaData entry).totalSensorInstances).map
          fun sensorInstance => (repo, idx + sensorInstance, entry, sensorInstance))
      (rest : Filled repo noOfRecords (idx + (metaData entry).totalSensorInstances) (entry + 1)
        further entry') : Filled repo noOfRecords idx entry (writes ++ further) entry'

inductive Built : List AsdmHeader → Nat → Nat → List RecordWrite → Nat → Prop
  | nil {sdrCount entry : Nat} : Built [] sdrCount entry [] entry
  | cons {header : AsdmHeader} {headers : List AsdmHeader} {sdrCount entry entry' entry'' : Nat}
      {writes further : List RecordWrite}
      (h : Filled metaData sdrCount header.noOfRecords.toNat 0 entry writes entry')
      (rest : Built headers (sdrCount + 1) entry' further entry'') :
      Built (header :: headers) sdrCount entry (writes ++ further) entry''

variable {metaData} {table : List ThresholdRow} {malloc : Allocation → Bool} {behind : Memory}

private theorem initInstances_places {repo : Nat} {repoType : RepositoryType} {entry : Nat}
    {record : SensorMetaData} {left idx sensorInstance threshIdx threshIdx' : Nat}
    {writes : List RecordWrite}
    (h : initInstances table malloc behind repo repoType entry record left idx sensorInstance threshIdx =
      .ok (writes, threshIdx')) :
    writes.map RecordWrite.place = (List.range left).map
      fun further => (repo, idx + further, entry, sensorInstance + further) := by
  induction left generalizing idx sensorInstance threshIdx writes with
  | zero =>
      cases h
      rfl
  | succ left ih =>
      obtain ⟨first, threshIdx₁, writes', -, hwrites, rfl⟩ := initInstances_succ h
      rw [List.map_cons, ih hwrites, List.range_succ_eq_map, List.map_cons, List.map_map]
      refine congrArg₂ _ rfl (List.map_congr_left fun further _ => ?_)
      simp only [Function.comp_apply, Nat.succ_eq_add_one]
      rw [Nat.add_right_comm, Nat.add_assoc idx, Nat.add_right_comm sensorInstance,
        Nat.add_assoc sensorInstance]

theorem initRepository_filled {repo : Nat} {repoType : RepositoryType} {noOfRecords rounds : Nat}
    {idx entry entry' threshIdx threshIdx' : Nat} {writes : List RecordWrite}
    (hrounds : noOfRecords ≤ idx + rounds)
    (h : initRepository table malloc behind repo repoType metaData noOfRecords rounds idx entry
      threshIdx = .ok (writes, entry', threshIdx')) :
    Filled metaData repo noOfRecords idx entry writes entry' := by
  induction rounds generalizing idx entry threshIdx writes with
  | zero =>
      cases h
      exact .full hrounds
  | succ rounds ih =>
      rcases initRepository_succ h with ⟨hidx, first, threshIdx₁, further, hfirst, hfurther, rfl⟩ |
        ⟨hidx, rfl, rfl, rfl⟩
      · have hone := (metaData entry).one_le_totalSensorInstances
        refine .entry hidx ?_ (ih (by omega) hfurther)
        simpa using initInstances_places hfirst
      · exact .full hidx

private theorem initRepositories_built {headers : List AsdmHeader} {sdrCount entry threshIdx : Nat}
    {sdrs : List Sdr} {writes : List RecordWrite}
    (h : initRepositories table malloc behind metaData headers sdrCount entry threshIdx =
      .ok (sdrs, writes)) :
    ∃ entry', Built metaData headers sdrCount entry writes entry' := by
  induction headers generalizing sdrCount entry threshIdx sdrs writes with
  | nil =>
      cases h
      exact ⟨entry, .nil⟩
  | cons header headers ih =>
      obtain ⟨first, entry₁, threshIdx₁, sdrs', further, hfirst, hfurther, rfl, rfl⟩ :=
        initRepositories_cons h
      obtain ⟨entry', hbuilt⟩ := ih hfurther
      exact ⟨entry', .cons (initRepository_filled (by simp) hfirst) hbuilt⟩

/-! ## Every entry taken makes its records once -/

def sources (metaData : Nat → SensorMetaData) (entry count : Nat) : List (Nat × Nat) :=
  (List.range' entry count).flatMap fun taken =>
    (List.range (metaData taken).totalSensorInstances).map fun sensorInstance =>
      (taken, sensorInstance)

def instances (metaData : Nat → SensorMetaData) (entry count : Nat) : Nat :=
  ((List.range' entry count).map fun taken => (metaData taken).totalSensorInstances).sum

@[simp] theorem sources_zero (entry : Nat) : sources metaData entry 0 = [] := rfl

private theorem sources_succ (entry count : Nat) :
    sources metaData entry (count + 1) =
      (List.range (metaData entry).totalSensorInstances).map (fun sensorInstance =>
        (entry, sensorInstance)) ++ sources metaData (entry + 1) count := by
  simp [sources, List.range'_succ]

private theorem sources_add (entry count further : Nat) :
    sources metaData entry (count + further) =
      sources metaData entry count ++ sources metaData (entry + count) further := by
  rw [sources, ← List.range'_append_1, List.flatMap_append]
  rfl

@[simp] theorem instances_zero (entry : Nat) : instances metaData entry 0 = 0 := rfl

private theorem instances_succ (entry count : Nat) :
    instances metaData entry (count + 1) =
      (metaData entry).totalSensorInstances + instances metaData (entry + 1) count := by
  simp [instances, List.range'_succ]

theorem mem_sources {entry count : Nat} {source : Nat × Nat} :
    source ∈ sources metaData entry count ↔
      (entry ≤ source.1 ∧ source.1 < entry + count) ∧
        source.2 < (metaData source.1).totalSensorInstances := by
  obtain ⟨taken, sensorInstance⟩ := source
  simp only [sources, List.mem_flatMap, List.mem_range'_1, List.mem_map, List.mem_range,
    Prod.mk.injEq]
  constructor
  · rintro ⟨_, hrange, _, hinstance, rfl, rfl⟩
    exact ⟨hrange, hinstance⟩
  · rintro ⟨hrange, hinstance⟩
    exact ⟨taken, hrange, sensorInstance, hinstance, rfl, rfl⟩

private theorem nodup_sources (entry count : Nat) : (sources metaData entry count).Nodup := by
  induction count generalizing entry with
  | zero => exact List.nodup_nil
  | succ count ih =>
      rw [sources_succ]
      refine List.Nodup.append ?_ (ih _) ?_
      · exact List.nodup_range.map fun _ _ h => (Prod.mk.inj h).2
      · intro source hfirst hlater
        obtain ⟨sensorInstance, -, rfl⟩ := List.mem_map.1 hfirst
        have hentry : entry + 1 ≤ entry := (mem_sources.1 hlater).1.1
        omega

theorem Filled.sources {repo noOfRecords idx entry entry' : Nat} {writes : List RecordWrite}
    (h : Filled metaData repo noOfRecords idx entry writes entry') :
    ∃ count, entry' = entry + count ∧
      writes.map RecordWrite.source = sources metaData entry count := by
  induction h with
  | full _ => exact ⟨0, rfl, rfl⟩
  | @entry idx entry entry' writes further _ hwrites _ ih =>
      obtain ⟨count, rfl, hfurther⟩ := ih
      refine ⟨count + 1, by omega, ?_⟩
      have hfirst := congrArg (List.map fun place => (place.2.2.1, place.2.2.2)) hwrites
      rw [List.map_map, List.map_map] at hfirst
      rw [List.map_append, hfurther, sources_succ]
      exact congrArg (· ++ _) hfirst

theorem Built.sources {headers : List AsdmHeader} {sdrCount entry entry' : Nat}
    {writes : List RecordWrite} (h : Built metaData headers sdrCount entry writes entry') :
    ∃ count, entry' = entry + count ∧
      writes.map RecordWrite.source = sources metaData entry count := by
  induction h with
  | nil => exact ⟨0, rfl, rfl⟩
  | cons hfilled _ ih =>
      obtain ⟨count, rfl, hwrites⟩ := hfilled.sources
      obtain ⟨further, rfl, hfurther⟩ := ih
      refine ⟨count + further, by omega, ?_⟩
      rw [List.map_append, hwrites, hfurther, sources_add]

/-! ## A repository is filled exactly by as many instances as it has records -/

theorem Filled.repo {repo noOfRecords idx entry entry' : Nat} {writes : List RecordWrite}
    (h : Filled metaData repo noOfRecords idx entry writes entry') :
    ∀ write ∈ writes, write.repo = repo := by
  induction h with
  | full _ => simp
  | entry _ hwrites _ ih =>
      intro write hmem
      rcases List.mem_append.1 hmem with hmem | hmem
      · have hplace := List.mem_map_of_mem (f := RecordWrite.place) hmem
        rw [hwrites] at hplace
        obtain ⟨sensorInstance, -, heq⟩ := List.mem_map.1 hplace
        exact (congrArg Prod.fst heq).symm
      · exact ih write hmem

theorem Built.repo {headers : List AsdmHeader} {sdrCount entry entry' : Nat}
    {writes : List RecordWrite} (h : Built metaData headers sdrCount entry writes entry') :
    ∀ write ∈ writes, sdrCount ≤ write.repo := by
  induction h with
  | nil => simp
  | cons hfilled _ ih =>
      intro write hmem
      rcases List.mem_append.1 hmem with hmem | hmem
      · exact Nat.le_of_eq (hfilled.repo write hmem).symm
      · exact Nat.le_of_succ_le (ih write hmem)

theorem Filled.bounded_of_instances {repo noOfRecords idx entry entry' count : Nat}
    {writes : List RecordWrite} (h : Filled metaData repo noOfRecords idx entry writes entry')
    (hcount : idx + instances metaData entry count = noOfRecords) :
    entry' = entry + count ∧ ∀ write ∈ writes, write.idx < noOfRecords := by
  induction h generalizing count with
  | @full idx entry hfull =>
      refine ⟨?_, by simp⟩
      cases count with
      | zero => rfl
      | succ count =>
          rw [instances_succ] at hcount
          have hone := (metaData entry).one_le_totalSensorInstances
          omega
  | @entry idx entry entry' writes further hidx hwrites _ ih =>
      cases count with
      | zero =>
          rw [instances_zero] at hcount
          omega
      | succ count =>
          rw [instances_succ] at hcount
          obtain ⟨hentry, hfurther⟩ := @ih count (by omega)
          refine ⟨by omega, fun write hmem => ?_⟩
          rcases List.mem_append.1 hmem with hmem | hmem
          · have hplace : write.place ∈ writes.map RecordWrite.place := List.mem_map_of_mem hmem
            rw [hwrites] at hplace
            obtain ⟨sensorInstance, hlt, heq⟩ := List.mem_map.1 hplace
            rw [List.mem_range] at hlt
            simp only [RecordWrite.place, Prod.mk.injEq] at heq
            omega
          · exact hfurther write hmem

private theorem Filled.instances_of_bounded {repo noOfRecords idx entry entry' : Nat}
    {writes : List RecordWrite} (h : Filled metaData repo noOfRecords idx entry writes entry')
    (hidx : idx ≤ noOfRecords) (hbounded : ∀ write ∈ writes, write.idx < noOfRecords) :
    ∃ count, entry' = entry + count ∧ idx + instances metaData entry count = noOfRecords := by
  induction h with
  | full hfull => exact ⟨0, rfl, Nat.le_antisymm hidx hfull⟩
  | @entry idx entry entry' writes further _ hwrites _ ih =>
      have hone := (metaData entry).one_le_totalSensorInstances
      -- the last instance of the entry is still inside
      have hlast : idx + ((metaData entry).totalSensorInstances - 1) < noOfRecords := by
        have hplace : (repo, idx + ((metaData entry).totalSensorInstances - 1), entry,
            (metaData entry).totalSensorInstances - 1) ∈ writes.map RecordWrite.place := by
          rw [hwrites]
          exact List.mem_map.2 ⟨_, List.mem_range.2 (by omega), rfl⟩
        obtain ⟨write, hmem, heq⟩ := List.mem_map.1 hplace
        have hwrite := hbounded write (List.mem_append_left _ hmem)
        simp only [RecordWrite.place, Prod.mk.injEq] at heq
        omega
      obtain ⟨count, rfl, hcount⟩ := ih (by omega) fun write hmem =>
        hbounded write (List.mem_append_right _ hmem)
      refine ⟨count + 1, by omega, ?_⟩
      rw [instances_succ]
      omega

theorem instances_eq_sum (entry count : Nat) :
    instances metaData entry count = (((List.range' entry count).map metaData).map
      SensorMetaData.totalSensorInstances).sum := by
  rw [instances, List.map_map]
  rfl

/-! ## Metadata that fits the headers -/

inductive Fitting : List AsdmHeader → List SensorMetaData → Prop
  | nil : Fitting [] []
  | cons {header : AsdmHeader} {headers : List AsdmHeader} {group rest : List SensorMetaData}
      (htype : ∀ metaData ∈ group, metaData.repoType = header.repositoryType)
      (hcount : (group.map SensorMetaData.totalSensorInstances).sum = header.noOfRecords.toNat)
      (h : Fitting headers rest) : Fitting (header :: headers) (group ++ rest)

/-- A record inside its repository and from an entry of its type; `sdrCount` headers precede. -/
def Fits (metaData : Nat → SensorMetaData) (headers : List AsdmHeader) (sdrCount : Nat)
    (write : RecordWrite) : Prop :=
  ∃ position header, headers[position]? = some header ∧ write.repo = sdrCount + position ∧
    write.idx < header.noOfRecords.toNat ∧
    (metaData write.entry).repoType = header.repositoryType

theorem Fits.cons {headers : List AsdmHeader} {sdrCount : Nat} {write : RecordWrite}
    (h : Fits metaData headers (sdrCount + 1) write) (header : AsdmHeader) :
    Fits metaData (header :: headers) sdrCount write := by
  obtain ⟨position, header', hheader, hrepo, hbounded⟩ := h
  exact ⟨position + 1, header', by simpa using hheader, by omega, hbounded⟩

theorem Fits.tail {header : AsdmHeader} {headers : List AsdmHeader} {sdrCount : Nat}
    {write : RecordWrite} (h : Fits metaData (header :: headers) sdrCount write)
    (hrepo : sdrCount + 1 ≤ write.repo) : Fits metaData headers (sdrCount + 1) write := by
  obtain ⟨position, header', hheader, heq, hbounded⟩ := h
  cases position with
  | zero => omega
  | succ position => exact ⟨position, header', by simpa using hheader, by omega, hbounded⟩

theorem Fits.head {header : AsdmHeader} {headers : List AsdmHeader} {sdrCount : Nat}
    {write : RecordWrite} (h : Fits metaData (header :: headers) sdrCount write)
    (hrepo : write.repo = sdrCount) : write.idx < header.noOfRecords.toNat ∧
      (metaData write.entry).repoType = header.repositoryType := by
  obtain ⟨position, header', hheader, heq, hbounded⟩ := h
  obtain rfl : position = 0 := by omega
  cases hheader
  exact hbounded

theorem Built.fits {headers : List AsdmHeader} {sdrCount entry entry' : Nat}
    {writes : List RecordWrite} {list : List SensorMetaData}
    (h : Built metaData headers sdrCount entry writes entry') (hfitting : Fitting headers list)
    (hlist : (List.range' entry list.length).map metaData = list) :
    entry' = entry + list.length ∧ ∀ write ∈ writes, Fits metaData headers sdrCount write := by
  induction h generalizing list with
  | nil =>
      cases hfitting
      simp
  | @cons header headers sdrCount entry entry' entry'' writes further hfilled _ ih =>
      cases hfitting with
      | @cons _ _ group rest htype hcount hrest =>
          rw [List.length_append, ← List.range'_append_1, List.map_append] at hlist
          obtain ⟨hgroup, hafter⟩ := List.append_inj hlist (by simp)
          have hsum : 0 + instances metaData entry group.length = header.noOfRecords.toNat := by
            rw [Nat.zero_add, instances_eq_sum, hgroup, hcount]
          obtain ⟨rfl, hbounded⟩ := hfilled.bounded_of_instances hsum
          obtain ⟨hend, hfits⟩ := ih hrest hafter
          refine ⟨by rw [hend, List.length_append, Nat.add_assoc], fun write hmem => ?_⟩
          rcases List.mem_append.1 hmem with hmem | hmem
          · refine ⟨0, header, rfl, hfilled.repo write hmem, hbounded write hmem, htype _ ?_⟩
            obtain ⟨count, hsame, hsources⟩ := hfilled.sources
            have hsource := List.mem_map_of_mem (f := RecordWrite.source) hmem
            rw [hsources] at hsource
            rw [← hgroup]
            refine List.mem_map_of_mem (List.mem_range'_1.2 ?_)
            have hrange := (mem_sources.1 hsource).1
            simp only [RecordWrite.source] at hrange
            omega
          · exact (hfits write hmem).cons header

theorem Built.fitting {headers : List AsdmHeader} {sdrCount entry entry' : Nat}
    {writes : List RecordWrite} (h : Built metaData headers sdrCount entry writes entry')
    (hfits : ∀ write ∈ writes, Fits metaData headers sdrCount write) :
    ∃ count, entry' = entry + count ∧
      Fitting headers ((List.range' entry count).map metaData) := by
  induction h with
  | nil => exact ⟨0, rfl, .nil⟩
  | @cons header headers sdrCount entry entry' entry'' writes further hfilled hrest ih =>
      have hhead (write : RecordWrite) (hmem : write ∈ writes) :=
        (hfits write (List.mem_append_left _ hmem)).head (hfilled.repo write hmem)
      obtain ⟨count, rfl, hcount⟩ :=
        hfilled.instances_of_bounded (Nat.zero_le _) fun write hmem => (hhead write hmem).1
      obtain ⟨further', rfl, hfitting⟩ := ih fun write hmem =>
        (hfits write (List.mem_append_right _ hmem)).tail (hrest.repo write hmem)
      refine ⟨count + further', by omega, ?_⟩
      rw [← List.range'_append_1, List.map_append]
      refine .cons ?_ ?_ hfitting
      · intro _ hmem
        obtain ⟨taken, htaken, rfl⟩ := List.mem_map.1 hmem
        obtain ⟨count', hsame, hsources⟩ := hfilled.sources
        have hsource : (taken, 0) ∈ writes.map RecordWrite.source := by
          rw [hsources, mem_sources]
          have hrange := List.mem_range'_1.1 htaken
          exact ⟨by simp only; omega, (metaData taken).one_le_totalSensorInstances⟩
        obtain ⟨write, hwrite, heq⟩ := List.mem_map.1 hsource
        obtain rfl : write.entry = taken := congrArg Prod.fst heq
        exact (hhead write hwrite).2
      · rw [← instances_eq_sum]
        omega

end Runs

/-! ## The initialisation -/

/-- What a successful initialisation is to have written. -/
structure Constructed (headers : List AsdmHeader) (metaData : List SensorMetaData)
    (writes : List RecordWrite) : Prop where
  /-- Each record is inside its repository and from an entry of the list that has its type. -/
  placed : ∀ write ∈ writes, ∃ header entry, headers[write.repo]? = some header ∧
    metaData[write.entry]? = some entry ∧ write.idx < header.noOfRecords.toNat ∧
    entry.repoType = header.repositoryType
  /-- Each instance of each entry has one record. -/
  once : ∀ entry (h : entry < metaData.length), ∀ sensorInstance,
    sensorInstance < metaData[entry].totalSensorInstances →
      (writes.map RecordWrite.source).count (entry, sensorInstance) = 1

theorem map_range'_getD (metaData : List SensorMetaData) (beyond : Nat → SensorMetaData) :
    (List.range' 0 metaData.length).map (fun entry => metaData.getD entry (beyond entry)) =
      metaData := by
  refine List.ext_getElem (by simp) fun entry _ h => ?_
  simp [List.getElem?_eq_getElem h]

theorem initAsdm_constructed {malloc : Allocation → Bool} {behind : Memory}
    {headers : List AsdmHeader} {metaData : List SensorMetaData} {beyond : Nat → SensorMetaData}
    {sdrs : List Sdr} {writes : List RecordWrite}
    (h : initAsdm malloc behind headers metaData beyond = .ok (sdrs, writes)) :
    Constructed headers metaData writes ↔ Fitting headers metaData := by
  let read : Nat → SensorMetaData := fun entry => metaData.getD entry (beyond entry)
  have hread {entry : Nat} (hentry : entry < metaData.length) : read entry = metaData[entry] := by
    simp [read, List.getElem?_eq_getElem hentry]
  obtain ⟨entry', hbuilt⟩ : ∃ entry', Built read headers 0 0 writes entry' := by
    unfold initAsdm initAsdmIn at h
    obtain ⟨-, -, h⟩ := checked_bind_ok h
    obtain ⟨-, -, h⟩ := checked_bind_ok h
    exact initRepositories_built h
  obtain ⟨taken, hend, hsources⟩ := hbuilt.sources
  constructor
  · intro hconstructed
    obtain ⟨count, hcount, hfitting⟩ := hbuilt.fitting fun write hmem => by
      obtain ⟨header, entry, hheader, hentry, hidx, htype⟩ := hconstructed.placed write hmem
      obtain ⟨hlt, heq⟩ := List.getElem?_eq_some_iff.1 hentry
      refine ⟨write.repo, header, hheader, (Nat.zero_add _).symm, hidx, ?_⟩
      rw [hread hlt, heq, htype]
    have hlength : count = metaData.length := by
      obtain rfl : taken = count := by omega
      apply Nat.le_antisymm
      · by_contra hlong
        -- the last entry taken is not one of the list
        have hlast : (taken - 1, 0) ∈ writes.map RecordWrite.source := by
          rw [hsources, mem_sources]
          exact ⟨by simp only; omega, (read (taken - 1)).one_le_totalSensorInstances⟩
        obtain ⟨write, hmem, heq⟩ := List.mem_map.1 hlast
        obtain ⟨-, entry, -, hentry, -⟩ := hconstructed.placed write hmem
        obtain ⟨hlt, -⟩ := List.getElem?_eq_some_iff.1 hentry
        have hwrite : write.entry = taken - 1 := congrArg Prod.fst heq
        omega
      · by_contra hshort
        have htaken : taken < metaData.length := by omega
        have hone := hconstructed.once taken htaken 0
          metaData[taken].one_le_totalSensorInstances
        have hmem := List.count_pos_iff.1 (hone.symm ▸ Nat.one_pos)
        rw [hsources, mem_sources] at hmem
        have hrange := hmem.1.2
        simp only at hrange
        omega
    rw [hlength, map_range'_getD] at hfitting
    exact hfitting
  · intro hfitting
    obtain ⟨hlength, hfits⟩ := hbuilt.fits hfitting (map_range'_getD metaData beyond)
    obtain rfl : taken = metaData.length := by omega
    refine ⟨fun write hmem => ?_, fun entry hentry sensorInstance hinstance => ?_⟩
    · obtain ⟨position, header, hheader, hrepo, hidx, htype⟩ := hfits write hmem
      have hsource := List.mem_map_of_mem (f := RecordWrite.source) hmem
      rw [hsources, mem_sources] at hsource
      have hlt : write.entry < metaData.length := by
        have hrange := hsource.1.2
        simp only [RecordWrite.source] at hrange
        omega
      refine ⟨header, metaData[write.entry], ?_, List.getElem?_eq_getElem hlt, hidx, ?_⟩
      · rw [hrepo, Nat.zero_add, hheader]
      · rw [← hread hlt, htype]
    · refine List.count_eq_one_of_mem (hsources ▸ nodup_sources 0 _) ?_
      rw [hsources, mem_sources]
      exact ⟨by simp only; omega, (hread hentry).symm ▸ hinstance⟩

end Vmr.Asdm
