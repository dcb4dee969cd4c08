import Vmr.Asdm.Request
import Vmr.Lib.Word

/-!
# Whose limits a sensor carries

`Init_Asdm` finds the row of a sensor in the table of thresholds by the name
less its last character, and keeps the row of the sensor before where none
fits.  So the limits are the right ones exactly where the first row that fits
the shortened name has those of the row with the full name.
-/

namespace Vmr.Asdm

open Vmr.Lib

/-! ## What the limits are to be -/

def Advertises (metaData : SensorMetaData) : Prop :=
  ∃ threshold ∈ thresholdOrder, metaData.supportedThreshold &&& threshold.mask ≠ 0

def entryOf (table : List ThresholdRow) (name : Name) : Option ThresholdRow :=
  table.find? fun row => row.sensorName == name

def ThresholdRow.limit (row : ThresholdRow) (threshold : Threshold) : Nat :=
  littleEndian ((row.limits.drop threshold.offset).take 2)

def ThresholdRow.copied (row : ThresholdRow) (behind : Memory) (threshold : Threshold)
    (valueLen : Nat) : List UInt8 :=
  readBytes behind (row.limits.drop threshold.offset) valueLen

def Carries (row : ThresholdRow) (record : SensorRecord) : Prop :=
  ∀ threshold : Threshold, record.thresholdSupportByte &&& threshold.mask ≠ 0 →
    ∃ bytes, record.limit threshold = some bytes ∧ littleEndian bytes = row.limit threshold

def TakenFrom (behind : Memory) (row : ThresholdRow) (record : SensorRecord) : Prop :=
  ∀ threshold : Threshold, record.thresholdSupportByte &&& threshold.mask ≠ 0 →
    record.limit threshold = some (row.copied behind threshold record.valueLen)

def metaDataAt (list : List SensorMetaData) (beyond : Nat → SensorMetaData) (entry : Nat) :
    SensorMetaData :=
  list.getD entry (beyond entry)

/-- Wherever else an initialisation makes the instance, it has the same limits. -/
def Independent (table : List ThresholdRow) (behind : Memory) (repoType : RepositoryType)
    (metaData : SensorMetaData) (sensorInstance : Nat) (record : SensorRecord) : Prop :=
  ∀ malloc headers list beyond sdrs writes,
    initAsdmIn table malloc behind headers list beyond = .ok (sdrs, writes) →
    ∀ write ∈ writes, ∀ header, headers[write.repo]? = some header →
      header.repositoryType = repoType → metaDataAt list beyond write.entry = metaData →
      write.sensorInstance = sensorInstance → write.record.limit = record.limit

structure OwnLimits (table : List ThresholdRow) (behind : Memory) (repoType : RepositoryType)
    (metaData : SensorMetaData) (sensorInstance : Nat) (record : SensorRecord) : Prop where
  entry : 0 < metaData.sampleCount →
    ∀ row ∈ entryOf table (metaData.nameOf sensorInstance), Carries row record
  noEntry : entryOf table (metaData.nameOf sensorInstance) = none →
    ∀ row ∈ table, ¬ TakenFrom behind row record
  independent : Independent table behind repoType metaData sensorInstance record

/-- The claim of an initialisation: the limits of every sensor that announces some are its own. -/
def ThresholdsBelong (table : List ThresholdRow) (behind : Memory) (headers : List AsdmHeader)
    (list : List SensorMetaData) (beyond : Nat → SensorMetaData) (writes : List RecordWrite) :
    Prop :=
  ∀ write ∈ writes, ∀ header, headers[write.repo]? = some header →
    Advertises (metaDataAt list beyond write.entry) →
      OwnLimits table behind header.repositoryType (metaDataAt list beyond write.entry)
        write.sensorInstance write.record

/-! ## The row that is found -/

def shortenedEntryOf (table : List ThresholdRow) (name : Name) : Option ThresholdRow :=
  (table.take 256).find? fun row =>
    sameStart name row.sensorName (shortenedLen (UInt8.ofNat (name.length + 1)))

/--
A sensor without a row finds none, and one that is read finds a row with the
limits of its own; there are no limits in the board information.
-/
structure Unambiguous (table : List ThresholdRow) (behind : Memory) (repoType : RepositoryType)
    (metaData : SensorMetaData) (sensorInstance : Nat) : Prop where
  entry : 0 < metaData.sampleCount →
    ∀ row ∈ entryOf table (metaData.nameOf sensorInstance), repoType ≠ .boardInfoSdr ∧
      ∃ found ∈ shortenedEntryOf table (metaData.nameOf sensorInstance),
        ∀ threshold ∈ thresholdOrder, metaData.supportedThreshold &&& threshold.mask ≠ 0 →
          littleEndian (found.copied behind threshold (lengthOf (valueTypeLength repoType
            (metaData.nameOf sensorInstance) metaData))) = row.limit threshold
  noEntry : entryOf table (metaData.nameOf sensorInstance) = none →
    table = [] ∨ repoType = .boardInfoSdr

private theorem mem_thresholdOrder (threshold : Threshold) : threshold ∈ thresholdOrder := by
  cases threshold <;> decide

def limitsAt (table : List ThresholdRow) (threshIdx : Nat) : List UInt8 :=
  (table[threshIdx]?.map ThresholdRow.limits).getD []

section Record

variable {table : List ThresholdRow} {malloc : Field → Bool} {behind : Memory}

private theorem initLimit_eq {threshIdx valueLen : Nat} {support : UInt8} {threshold : Threshold}
    {limit : Option (List UInt8)}
    (h : initLimit table malloc behind threshIdx valueLen support threshold = .ok limit) :
    limit = if support &&& threshold.mask ≠ 0 then
      some (readBytes behind ((limitsAt table threshIdx).drop threshold.offset) valueLen)
    else none := by
  have hlimit := initLimit_ok h
  split at hlimit
  · rename_i hmask
    obtain ⟨bytes, rfl, hbytes⟩ := hlimit
    unfold secureMemcpy at hbytes
    simp only at hbytes
    split at hbytes
    · cases hbytes
      rw [if_pos hmask]
      rfl
    · cases hbytes
  · rename_i hmask
    rw [hlimit, if_neg hmask]

private theorem initLimits_eq {threshIdx valueLen : Nat} {support : UInt8}
    {limits : Threshold → Option (List UInt8)}
    (h : initLimits table malloc behind threshIdx valueLen support = .ok limits)
    (threshold : Threshold) : limits threshold = if support &&& threshold.mask ≠ 0 then
      some (readBytes behind ((limitsAt table threshIdx).drop threshold.offset) valueLen)
    else none :=
  initLimit_eq (initLimits_ok h threshold)

/-- The limits of a record: those of one index, none in the board information. -/
inductive LimitsFrom (table : List ThresholdRow) (behind : Memory) (repo : RepositoryType)
    (name : Name) (threshIdx : Nat) (record : SensorRecord) : Prop
  | board (hrepo : repo = .boardInfoSdr) (h : record.limit = fun _ => none)
  | table (found : Nat) (hrepo : repo ≠ .boardInfoSdr)
      (hfound : getThresholdIdx table threshIdx name (UInt8.ofNat (name.length + 1)) = .ok found)
      (h : ∀ threshold : Threshold, record.limit threshold =
        if record.thresholdSupportByte &&& threshold.mask ≠ 0 then
          some (readBytes behind ((limitsAt table found).drop threshold.offset) record.valueLen)
        else none)

private theorem initRecord_limits {repo : RepositoryType} {metaData : SensorMetaData}
    {idx sensorInstance threshIdx threshIdx' : Nat} {record : SensorRecord}
    (h : initRecord table malloc behind repo metaData idx sensorInstance threshIdx =
      .ok (record, threshIdx')) :
    record.thresholdSupportByte = metaData.supportedThreshold ∧
      record.valueLen =
        lengthOf (valueTypeLength repo (metaData.nameOf sensorInstance) metaData) ∧
      LimitsFrom table behind repo (metaData.nameOf sensorInstance) threshIdx record := by
  obtain ⟨name, value, baseUnit, limits, maxValue, averageValue, hname, hvalue, hbaseUnit, hlimits,
    hmaxValue, haverageValue, rfl⟩ := initRecord_ok h
  refine ⟨rfl, rfl, ?_⟩
  unfold initThresholds at hlimits
  split at hlimits
  · rename_i hrepo
    cases hlimits
    exact .board hrepo rfl
  · rename_i hrepo
    obtain ⟨found, hfound, hlimits⟩ := checked_bind_ok hlimits
    obtain ⟨limits', hlimits', hlimits⟩ := checked_bind_ok hlimits
    cases hlimits
    exact .table _ hrepo hfound (initLimits_eq hlimits')

private theorem getThresholdIdx_spec {threshIdx found : Nat} {name : Name}
    (h : getThresholdIdx table threshIdx name (UInt8.ofNat (name.length + 1)) = .ok found) :
    (∃ row, shortenedEntryOf table name = some row ∧ table[found]? = some row) ∨
      (shortenedEntryOf table name = none ∧ found = threshIdx ∧ table.length < 256) := by
  unfold getThresholdIdx at h
  simp only at h
  split at h
  · rename_i hempty
    cases h
    rw [List.isEmpty_iff.1 hempty]
    exact .inr ⟨rfl, rfl, by decide⟩
  · split at h
    · cases h
    · split at h
      · rename_i hindex
        cases h
        obtain ⟨hlt, hmatch, hbefore⟩ := List.findIdx?_eq_some_iff_getElem.1 hindex
        refine .inl ⟨(table.take 256)[found], ?_, ?_⟩
        · refine List.find?_eq_some_iff_getElem.2 ⟨hmatch, found, hlt, rfl, fun other hother => ?_⟩
          simpa using hbefore other hother
        · rw [List.getElem_take]
          exact List.getElem?_eq_getElem _
      · rename_i hnone
        split at h
        · rename_i hshort
          cases h
          refine .inr ⟨List.find?_eq_none.2 fun row hmem => ?_, rfl, hshort⟩
          simpa using List.findIdx?_eq_none_iff.1 hnone row hmem
        · cases h

private theorem shortenedEntryOf_isSome {threshIdx found : Nat} {name : Name} {row : ThresholdRow}
    (h : getThresholdIdx table threshIdx name (UInt8.ofNat (name.length + 1)) = .ok found)
    (hentry : entryOf table name = some row) : (shortenedEntryOf table name).isSome := by
  rcases getThresholdIdx_spec h with ⟨row, hrow, -⟩ | ⟨hnone, -, hshort⟩
  · simp [hrow]
  · have hname : row.sensorName = name := by simpa using List.find?_some hentry
    have hmem : row ∈ table.take 256 := by
      rw [List.take_of_length_le (Nat.le_of_lt hshort)]
      exact List.mem_of_find?_eq_some hentry
    have hno := List.find?_eq_none.1 hnone row hmem
    rw [hname] at hno
    simp [sameStart] at hno

theorem LimitsFrom.found {repo : RepositoryType} {name : Name} {threshIdx : Nat}
    {record : SensorRecord} (h : LimitsFrom table behind repo name threshIdx record)
    (hrepo : repo ≠ .boardInfoSdr) {row : ThresholdRow}
    (hrow : shortenedEntryOf table name = some row) (threshold : Threshold) :
    record.limit threshold = if record.thresholdSupportByte &&& threshold.mask ≠ 0 then
      some (row.copied behind threshold record.valueLen) else none := by
  cases h with
  | board hboard _ => exact absurd hboard hrepo
  | table found _ hfound hlimit =>
      rcases getThresholdIdx_spec hfound with ⟨row', hrow', hat⟩ | ⟨hnone, -⟩
      · obtain rfl : row = row' := Option.some.inj (hrow.symm.trans hrow')
        rw [hlimit, limitsAt, hat]
        rfl
      · rw [hnone] at hrow
        cases hrow

theorem LimitsFrom.unique {repo : RepositoryType} {name : Name} {threshIdx threshIdx' : Nat}
    {record record' : SensorRecord} (h : LimitsFrom table behind repo name threshIdx record)
    (h' : LimitsFrom table behind repo name threshIdx' record')
    (hsupport : record'.thresholdSupportByte = record.thresholdSupportByte)
    (hlen : record'.valueLen = record.valueLen)
    (hrow : table = [] ∨ repo = .boardInfoSdr ∨ (shortenedEntryOf table name).isSome) :
    record'.limit = record.limit := by
  funext threshold
  by_cases hrepo : repo = .boardInfoSdr
  · have hboard {threshIdx : Nat} {record : SensorRecord}
        (h : LimitsFrom table behind repo name threshIdx record) :
        record.limit = fun _ => none := by
      cases h with
      | board _ hlimit => exact hlimit
      | table _ hnot _ _ => exact absurd hrepo hnot
    rw [hboard h, hboard h']
  · rcases hrow with rfl | hboard | hsome
    · cases h with
      | board hboard _ => exact absurd hboard hrepo
      | table found _ _ hlimit =>
          cases h' with
          | board hboard _ => exact absurd hboard hrepo
          | table found' _ _ hlimit' =>
              rw [hlimit, hlimit', hsupport, hlen]
              rfl
    · exact absurd hboard hrepo
    · obtain ⟨row, hrow⟩ := Option.isSome_iff_exists.1 hsome
      rw [h.found hrepo hrow, h'.found hrepo hrow, hsupport, hlen]

end Record

/-! ## The initialisation -/

section Init

variable {table : List ThresholdRow} {malloc : Allocation → Bool} {behind : Memory}
  {repoType : RepositoryType} {metaData : Nat → SensorMetaData} {write : RecordWrite}

theorem Made.limits (h : Made table malloc behind repoType metaData write) :
    ∃ threshIdx, IndexIn table threshIdx ∧
      write.record.thresholdSupportByte = (metaData write.entry).supportedThreshold ∧
      write.record.valueLen = lengthOf (valueTypeLength repoType
        ((metaData write.entry).nameOf write.sensorInstance) (metaData write.entry)) ∧
      LimitsFrom table behind repoType ((metaData write.entry).nameOf write.sensorInstance)
        threshIdx write.record := by
  obtain ⟨threshIdx, _, hindex, hrecord⟩ := h
  exact ⟨threshIdx, hindex, initRecord_limits hrecord⟩

private theorem LimitsFrom.takenFrom {name : Name} {threshIdx : Nat} {record : SensorRecord}
    (h : LimitsFrom table behind repoType name threshIdx record) (hindex : IndexIn table threshIdx)
    (hrepo : repoType ≠ .boardInfoSdr) (htable : table ≠ []) :
    ∃ row ∈ table, TakenFrom behind row record := by
  cases h with
  | board hboard _ => exact absurd hboard hrepo
  | table found _ hfound hlimit =>
      have hlt := getThresholdIdx_in hfound hindex htable
      refine ⟨table[found], List.getElem_mem hlt, fun threshold hmask => ?_⟩
      rw [hlimit, if_pos hmask, limitsAt, List.getElem?_eq_getElem hlt]
      rfl

private theorem LimitsFrom.settled {name : Name} {threshIdx : Nat} {record : SensorRecord}
    (h : LimitsFrom table behind repoType name threshIdx record)
    (hnone : entryOf table name = none → table = [] ∨ repoType = .boardInfoSdr) :
    table = [] ∨ repoType = .boardInfoSdr ∨ (shortenedEntryOf table name).isSome := by
  match hentry : entryOf table name with
  | none => exact (hnone hentry).imp_right .inl
  | some row =>
      cases h with
      | board hboard _ => exact .inr (.inl hboard)
      | table found _ hfound _ => exact .inr (.inr (shortenedEntryOf_isSome hfound hentry))

private theorem independent_of_settled {sensorInstance : Nat} {taken : SensorMetaData}
    {threshIdx : Nat}
    {record : SensorRecord} (hsupport : record.thresholdSupportByte = taken.supportedThreshold)
    (hlen : record.valueLen =
      lengthOf (valueTypeLength repoType (taken.nameOf sensorInstance) taken))
    (h : LimitsFrom table behind repoType (taken.nameOf sensorInstance) threshIdx record)
    (hsettled : table = [] ∨ repoType = .boardInfoSdr ∨
      (shortenedEntryOf table (taken.nameOf sensorInstance)).isSome) :
    Independent table behind repoType taken sensorInstance record := by
  rintro malloc headers list beyond sdrs writes hinit write hmem header hheader rfl rfl rfl
  obtain ⟨header', hheader', hmade⟩ := initAsdmIn_made hinit write hmem
  obtain rfl : header = header' := Option.some.inj (hheader.symm.trans hheader')
  obtain ⟨threshIdx', -, hsupport', hlen', hlimits⟩ := hmade.limits
  exact h.unique hlimits (hsupport'.trans hsupport.symm) (hlen'.trans hlen.symm) hsettled

private theorem Made.ownLimits_iff (h : Made table malloc behind repoType metaData write)
    (hadvertises : Advertises (metaData write.entry)) :
    OwnLimits table behind repoType (metaData write.entry) write.sensorInstance write.record ↔
      Unambiguous table behind repoType (metaData write.entry) write.sensorInstance := by
  obtain ⟨threshIdx, hindex, hsupport, hlen, hlimits⟩ := h.limits
  obtain ⟨advertised, -, hadvertised⟩ := hadvertises
  rw [← hsupport] at hadvertised
  constructor
  · intro hown
    refine ⟨fun hdynamic row hrow => ?_, fun hnone => ?_⟩
    · have hcarries := hown.entry hdynamic row hrow
      cases hlimits with
      | board hboard hlimit =>
          obtain ⟨bytes, hbytes, -⟩ := hcarries advertised hadvertised
          rw [hlimit] at hbytes
          cases hbytes
      | table found hrepo hfound hlimit =>
          obtain ⟨row', hrow'⟩ := Option.isSome_iff_exists.1 (shortenedEntryOf_isSome hfound hrow)
          refine ⟨hrepo, row', hrow', fun threshold _ hmask => ?_⟩
          rw [← hsupport] at hmask
          obtain ⟨bytes, hbytes, hnumber⟩ := hcarries threshold hmask
          rw [LimitsFrom.found (.table found hrepo hfound hlimit) hrepo hrow', if_pos hmask] at hbytes
          cases hbytes
          rwa [hlen] at hnumber
    · by_contra hambiguous
      obtain ⟨htable, hrepo⟩ := not_or.1 hambiguous
      obtain ⟨row, hrow, htaken⟩ := hlimits.takenFrom hindex hrepo htable
      exact hown.noEntry hnone row hrow htaken
  · intro hunambiguous
    refine ⟨fun hdynamic row hrow threshold hmask => ?_, fun hnone row hrow htaken => ?_,
      independent_of_settled hsupport hlen hlimits (hlimits.settled hunambiguous.noEntry)⟩
    · obtain ⟨hrepo, found, hfound, hlimit⟩ := hunambiguous.entry hdynamic row hrow
      refine ⟨_, (hlimits.found hrepo hfound threshold).trans (if_pos hmask), ?_⟩
      rw [hlen]
      exact hlimit threshold (mem_thresholdOrder threshold) (hsupport ▸ hmask)
    · rcases hunambiguous.noEntry hnone with rfl | hboard
      · cases hrow
      · cases hlimits with
        | board _ hlimit =>
            have hnothing := htaken advertised hadvertised
            rw [hlimit] at hnothing
            cases hnothing
        | table _ hrepo _ _ => exact hrepo hboard

/--
Behind a successful initialisation every sensor has its own limits exactly if
the row of every sensor that announces some is unambiguous.
-/
theorem thresholdsBelong_iff {headers : List AsdmHeader} {list : List SensorMetaData}
    {beyond : Nat → SensorMetaData} {sdrs : List Sdr} {writes : List RecordWrite}
    (h : initAsdmIn table malloc behind headers list beyond = .ok (sdrs, writes)) :
    ThresholdsBelong table behind headers list beyond writes ↔
      ∀ write ∈ writes, ∀ header, headers[write.repo]? = some header →
        Advertises (metaDataAt list beyond write.entry) →
          Unambiguous table behind header.repositoryType (metaDataAt list beyond write.entry)
            write.sensorInstance := by
  have hmade (write : RecordWrite) (hmem : write ∈ writes) (header : AsdmHeader)
      (hheader : headers[write.repo]? = some header) :
      Made table malloc behind header.repositoryType (metaDataAt list beyond) write := by
    obtain ⟨header', hheader', hmade⟩ := initAsdmIn_made h write hmem
    obtain rfl : header = header' := Option.some.inj (hheader.symm.trans hheader')
    exact hmade
  constructor
  · intro hbelong write hmem header hheader hadvertises
    exact ((hmade write hmem header hheader).ownLimits_iff hadvertises).1
      (hbelong write hmem header hheader hadvertises)
  · intro hunambiguous write hmem header hheader hadvertises
    exact ((hmade write hmem header hheader).ownLimits_iff hadvertises).2
      (hunambiguous write hmem header hheader hadvertises)

end Init

/-! ## V70 and V80 -/

instance (metaData : SensorMetaData) : Decidable (Advertises metaData) :=
  inferInstanceAs (Decidable (∃ threshold ∈ thresholdOrder, _ ≠ _))

instance (table : List ThresholdRow) (behind : Memory) (repoType : RepositoryType)
    (metaData : SensorMetaData) (sensorInstance : Nat) :
    Decidable (Unambiguous table behind repoType metaData sensorInstance) :=
  decidable_of_iff ((0 < metaData.sampleCount →
      ∀ row ∈ entryOf table (metaData.nameOf sensorInstance), repoType ≠ .boardInfoSdr ∧
        ∃ found ∈ shortenedEntryOf table (metaData.nameOf sensorInstance),
          ∀ threshold ∈ thresholdOrder, metaData.supportedThreshold &&& threshold.mask ≠ 0 →
            littleEndian (found.copied behind threshold (lengthOf (valueTypeLength repoType
              (metaData.nameOf sensorInstance) metaData))) = row.limit threshold) ∧
    ((entryOf table (metaData.nameOf sensorInstance)).isNone = true →
      table.isEmpty = true ∨ repoType = .boardInfoSdr))
    ⟨fun ⟨hentry, hnone⟩ => ⟨hentry, fun h => (hnone (by simp [h])).imp_left List.isEmpty_iff.1⟩,
      fun h => ⟨h.entry, fun hnone =>
        (h.noEntry (Option.isNone_iff_eq_none.1 hnone)).imp_left List.isEmpty_iff.2⟩⟩

private theorem Platform.init_eq (platform : Platform) :
    platform.init = initAsdmIn thresholdsLimitTbl (fun _ => true) (fun _ => 0) platform.headers
      platform.metaData fun _ => platform.metaDataOf .powerTotal := rfl

def Platform.unambiguous (platform : Platform) (write : RecordWrite) : Bool :=
  platform.headers[write.repo]?.all fun header =>
    let taken := metaDataAt platform.metaData (fun _ => platform.metaDataOf .powerTotal) write.entry
    decide (Advertises taken → Unambiguous thresholdsLimitTbl (fun _ => 0) header.repositoryType
      taken write.sensorInstance)

/-- Board, device and VCCINT have rows of their own. -/
theorem v70_thresholdsBelong :
    ∃ sdrs writes, v70.init = .ok (sdrs, writes) ∧
      ThresholdsBelong thresholdsLimitTbl (fun _ => 0) v70.headers v70.metaData
        (fun _ => v70.metaDataOf .powerTotal) writes := by
  have hrun : v70.init.toOption.any (fun built => built.2.all v70.unambiguous) = true := by
    decide +kernel
  match hinit : v70.init with
  | .error stop => simp [hinit, Except.toOption] at hrun
  | .ok (sdrs, writes) =>
      rw [hinit] at hrun
      rw [Platform.init_eq] at hinit
      simp only [Except.toOption, Option.any_some, List.all_eq_true] at hrun
      refine ⟨sdrs, writes, rfl, (thresholdsBelong_iff hinit).2
        fun write hmem header hheader hadvertises => ?_⟩
      have hwrite := hrun write hmem
      rw [Platform.unambiguous, hheader] at hwrite
      exact of_decide_eq_true hwrite hadvertises

/-- `VCCHBM` has no row and carries the limits of `vccint` before it. -/
theorem v80_not_thresholdsBelong :
    ∃ sdrs writes, v80.init = .ok (sdrs, writes) ∧
      ¬ ThresholdsBelong thresholdsLimitTbl (fun _ => 0) v80.headers v80.metaData
        (fun _ => v80.metaDataOf .powerTotal) writes := by
  have hrun : v80.init.toOption.any (fun built => built.2.any fun write =>
      !v80.unambiguous write) = true := by
    decide +kernel
  match hinit : v80.init with
  | .error stop => simp [hinit, Except.toOption] at hrun
  | .ok (sdrs, writes) =>
      rw [hinit] at hrun
      rw [Platform.init_eq] at hinit
      simp only [Except.toOption, Option.any_some, List.any_eq_true, Bool.not_eq_true'] at hrun
      obtain ⟨write, hmem, hwrite⟩ := hrun
      obtain ⟨header, hheader, hmade⟩ := initAsdmIn_made hinit write hmem
      change Made _ _ _ _ (metaDataAt v80.metaData fun _ => v80.metaDataOf .powerTotal) _ at hmade
      rw [Platform.unambiguous, hheader] at hwrite
      obtain ⟨hadvertises, hambiguous⟩ := Classical.not_imp.1 (of_decide_eq_false hwrite)
      refine ⟨sdrs, writes, rfl, fun hbelong => hambiguous ?_⟩
      exact (hmade.ownLimits_iff hadvertises).1 (hbelong write hmem header hheader hadvertises)

end Vmr.Asdm
