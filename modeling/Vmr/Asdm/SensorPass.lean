import Vmr.Asdm.Bulk
import Vmr.Asdm.RmiMirror
import Vmr.Asdm.Upkeep
import Vmr.Lib.Loop

/-!
# Passes over the sensors

`Asdm_Update_Sensors` calls the monitoring function of each record and hands what it
read to `Update_Sensor_Value`, which looks the record up again by its repository's type
and its id.  Over any number of passes each sensor is a register of its own: the host is
given the value, the maximum and the average of its own readings.
-/

namespace Vmr.Asdm

open Vmr.Lib

/-! ## A pass -/

/-- What the monitoring functions leave in `snsrData`; `none` where none is registered. -/
abbrev Readings := Nat → Nat → Option SnsrRead

/-- What one call of `Asdm_Update_Sensors` meets. -/
structure SensorPass where
  scVersion : List UInt8
  fptScVersion : List UInt8
  /-- `sdr_lock` was taken. -/
  locked : Bool
  read : Readings
  length_scVersion : scVersion.length = 4
  length_fptScVersion : fptScVersion.length = 3

section Pass

variable (headers : List AsdmHeader)

def updateSensor (read : Readings) (sdrIndex : Nat) (sdrInfo : List Sdr) (idx : Nat) :
    Checked (List Sdr) := do
  let sdr ← sdrAt sdrInfo sdrIndex
  let record ← sdr.recordAt idx
  match read sdrIndex idx with
  | none => return sdrInfo
  | some snsrData =>
      Prod.snd <$> updateSensorValue headers sdrInfo
        ⟨sdr.header.repositoryType.code, record.sensorId, some snsrData⟩

def updateRepository (read : Readings) (sdrInfo : List Sdr) (sdrIndex : Nat) :
    Checked (List Sdr) := do
  let sdr ← sdrAt sdrInfo sdrIndex
  (List.range sdr.header.noOfRecords.toNat).foldlM (updateSensor headers read sdrIndex) sdrInfo

def asdmUpdateSensors (sdrInfo : List Sdr) (pass : SensorPass) : Checked (List Sdr) := do
  let sdrInfo ← asdmUpdateActiveMspSensor headers pass.scVersion sdrInfo
  let sdrInfo ← asdmUpdateTargetMspSensor headers pass.fptScVersion sdrInfo
  if pass.locked = true then
    (List.range headers.length).foldlM (updateRepository headers pass.read) sdrInfo
  else return sdrInfo

end Pass

/-! ## A sensor -/

def SensorPass.reading (pass : SensorPass) (repo idx : Nat) : Option SnsrRead :=
  if pass.locked = true then pass.read repo idx else none

def readingsOf (passes : List SensorPass) (repo idx : Nat) : List SnsrRead :=
  passes.filterMap fun pass => pass.reading repo idx

/-- A reading without a size leaves the value as it is. -/
def latest (readings : List SnsrRead) : Nat :=
  readings.foldl (fun value info => if info.sensorValueSize = 0 then value else info.number) 0

def lastStatus (readings : List SnsrRead) : UInt8 :=
  readings.foldl (fun _ info => info.snsrSatus) sensorPresentAndValid

def sensorBody (valueLen : Nat) (readings : List SnsrRead) : List UInt8 :=
  [UInt8.ofNat valueLen] ++ lowBytes valueLen (latest readings) ++
    lowBytes valueLen ((normals readings).foldl max 0) ++
    lowBytes valueLen (meanFrom 0 1 (normals readings)) ++ [lastStatus readings]

def OfSize (size : Nat) (info : SnsrRead) : Prop :=
  info.sensorValueSize.toNat = size ∨
    info.sensorValueSize = 0 ∧ info.snsrSatus ≠ vmcSnsrStateNormal

instance (size : Nat) (info : SnsrRead) : Decidable (OfSize size info) :=
  inferInstanceAs (Decidable (_ ∨ _))

def HoldsLow (field : Option (List UInt8)) (valueLen size number : Nat) : Prop :=
  Holds field valueLen number ∧ number < 2 ^ (8 * size)

/-- The record is the register of the readings. -/
structure Observed (valueLen size : Nat) (readings : List SnsrRead) (record : SensorRecord) :
    Prop where
  value : HoldsLow record.sensorValue valueLen size (latest readings)
  maximum : HoldsLow record.sensorMaxValue valueLen size ((normals readings).foldl max 0)
  average : HoldsLow record.sensorAverageValue valueLen size (meanFrom 0 1 (normals readings))
  count : record.sampleCount.toNat = 1 + (normals readings).length
  status : record.sensorStatus = lastStatus readings

section Words

variable {field : Option (List UInt8)} {valueLen size number : Nat}

theorem HoldsLow.loadWord (h : HoldsLow field valueLen size number) (hsize : size ≤ valueLen) :
    loadWord field size = .ok (UInt32.ofNat number) := by
  obtain ⟨⟨bytes, rfl, rfl, rfl⟩, hlow⟩ := h
  obtain ⟨htake, -⟩ := littleEndian_split hsize hlow
  simp only [Asdm.loadWord, if_neg (Nat.not_lt.2 hsize), htake]

private theorem holdsLow_put {bytes new : List UInt8} (hsize : size ≤ bytes.length)
    (hlow : littleEndian bytes < 2 ^ (8 * size)) (hnew : new.length = size) :
    HoldsLow (some (new ++ bytes.drop size)) bytes.length size (littleEndian new) := by
  obtain ⟨-, hhigh⟩ := littleEndian_split hsize hlow
  refine ⟨⟨_, rfl, ?_, ?_⟩, hnew ▸ littleEndian_lt new⟩
  · rw [List.length_append, List.length_drop, hnew]
    omega
  · rw [littleEndian_append, hhigh, Nat.mul_zero, Nat.add_zero]

theorem HoldsLow.storeWord (h : HoldsLow field valueLen size number) (hsize : size ≤ valueLen)
    (word : UInt32) (hword : word.toNat < 2 ^ (8 * size)) :
    ∃ bytes, storeWord field size word = .ok bytes ∧
      HoldsLow (some bytes) valueLen size word.toNat := by
  obtain ⟨⟨bytes, rfl, rfl, rfl⟩, hlow⟩ := h
  refine ⟨_, by simp only [Asdm.storeWord, if_neg (Nat.not_lt.2 hsize)]; rfl, ?_⟩
  have hput := holdsLow_put hsize hlow (length_lowBytes size word.toNat)
  rwa [littleEndian_lowBytes, Nat.mod_eq_of_lt hword] at hput

theorem HoldsLow.copyOver {source : List UInt8} (h : HoldsLow field valueLen size number)
    (hsize : size ≤ valueLen) (hpos : size ≠ 0) (hsource : size ≤ source.length) :
    ∃ bytes, copyOver field (some source) size = .ok bytes ∧
      HoldsLow (some bytes) valueLen size (littleEndian (source.take size)) := by
  obtain ⟨⟨bytes, rfl, rfl, rfl⟩, hlow⟩ := h
  refine ⟨source.take size ++ bytes.drop size, ?_,
    holdsLow_put hsize hlow (List.length_take_of_le hsource)⟩
  have hroom : ¬ (source.length < size ∨ bytes.length < size) := by omega
  simp only [Asdm.copyOver, if_neg hpos, if_neg hroom]

end Words

/-! ## One reading -/

section Record

variable {record : SensorRecord} {valueLen size : Nat} {readings : List SnsrRead} {info : SnsrRead}

private theorem updatedMaxValue_low {maximum value : Nat}
    (hmaximum : HoldsLow record.sensorMaxValue valueLen size maximum)
    (hvalue : HoldsLow record.sensorValue valueLen size value) (hsize : size ≤ valueLen)
    (hpos : size ≠ 0) (hword : size ≤ 4) :
    ∃ field, updatedMaxValue size record = .ok field ∧
      HoldsLow field valueLen size (max maximum value) := by
  have hbound := Nat.pow_le_pow_right (by decide : 0 < 2) (show 8 * size ≤ 32 by omega)
  have hlt : UInt32.ofNat maximum < UInt32.ofNat value ↔ maximum < value := by
    rw [UInt32.lt_iff_toNat_lt, UInt32.toNat_ofNat_of_lt' (Nat.lt_of_lt_of_le hmaximum.2 hbound),
      UInt32.toNat_ofNat_of_lt' (Nat.lt_of_lt_of_le hvalue.2 hbound)]
  simp only [updatedMaxValue, hvalue.loadWord hsize, hmaximum.loadWord hsize, checked_ok_bind, hlt]
  split
  · next hlarger =>
    obtain ⟨⟨bytes, hbytes, hlength, hnumber⟩, hlow⟩ := hvalue
    obtain ⟨copied, hcopied, hholds⟩ := hmaximum.copyOver hsize hpos (hlength ▸ hsize)
    have htake := (littleEndian_split (hlength ▸ hsize) (hnumber ▸ hlow)).1
    refine ⟨some copied, by rw [hbytes, hcopied]; rfl, ?_⟩
    rwa [Nat.max_eq_right (Nat.le_of_lt hlarger), ← hnumber, ← htake]
  · next hsmaller =>
    refine ⟨record.sensorMaxValue, rfl, ?_⟩
    rwa [Nat.max_eq_left (Nat.le_of_not_lt hsmaller)]

private theorem updatedAverageValue_low {average value : Nat}
    (haverage : HoldsLow record.sensorAverageValue valueLen size average)
    (hvalue : HoldsLow record.sensorValue valueLen size value) (hsize : size ≤ valueLen)
    (hword : size ≤ 4) (hcount : 0 < record.sampleCount.toNat) :
    ∃ bytes, updatedAverageValue size record = .ok bytes ∧
      HoldsLow (some bytes) valueLen size (meanStep average record.sampleCount.toNat value) := by
  have hnonzero : record.sampleCount ≠ 0 := by
    intro hzero
    rw [hzero] at hcount
    exact absurd hcount (by decide)
  have hpow := Nat.pow_le_pow_right (by decide : 0 < 2) (show 8 * size ≤ 32 by omega)
  have hbound := meanStep_between hcount ⟨Nat.zero_le _, Nat.le_sub_one_of_lt haverage.2⟩
    ⟨Nat.zero_le _, Nat.le_sub_one_of_lt hvalue.2⟩
  have hpos := Nat.two_pow_pos (8 * size)
  have hmean := @toNat_mean (UInt32.ofNat average) (UInt32.ofNat value) _ hcount
  rw [UInt32.toNat_ofNat_of_lt' (Nat.lt_of_lt_of_le haverage.2 hpow),
    UInt32.toNat_ofNat_of_lt' (Nat.lt_of_lt_of_le hvalue.2 hpow)] at hmean
  obtain ⟨bytes, hstored, hholds⟩ := haverage.storeWord hsize _ (by rw [hmean]; omega)
  refine ⟨bytes, ?_, hmean ▸ hholds⟩
  simpa only [updatedAverageValue, divide, haverage.loadWord hsize, hvalue.loadWord hsize,
    checked_ok_bind, if_neg hnonzero] using hstored

private theorem latest_concat : latest (readings ++ [info]) =
    if info.sensorValueSize = 0 then latest readings else info.number := by
  rw [latest, List.foldl_append]
  rfl

private theorem lastStatus_concat : lastStatus (readings ++ [info]) = info.snsrSatus := by
  rw [lastStatus, List.foldl_append]
  rfl

private theorem normals_concat :
    normals (readings ++ [info]) = normals readings ++ info.counted := by
  rw [normals, List.flatMap_append, List.flatMap_singleton]
  rfl

private theorem storeReading_low (h : Observed valueLen size readings record)
    (hinfo : OfSize size info)
    (hsize : size ≤ valueLen) (hpos : size ≠ 0) (hword : size ≤ 4) :
    ∃ value, storeReading info record = .ok { record with sensorValue := value } ∧
      HoldsLow value valueLen size (latest (readings ++ [info])) := by
  rw [latest_concat, storeReading]
  by_cases hzero : info.sensorValueSize = 0
  · rw [if_neg fun hsome => hsome.1 hzero, if_pos hzero]
    exact ⟨record.sensorValue, rfl, h.value⟩
  · have hexact : info.sensorValueSize.toNat = size :=
      hinfo.resolve_right fun hfail => hzero hfail.1
    have hsome : record.sensorValue.isSome := by
      obtain ⟨⟨bytes, hbytes, -⟩, -⟩ := h.value
      rw [hbytes]
      rfl
    have hroom : size ≤ info.snsrValue.length := info.length_snsrValue ▸ hword
    obtain ⟨bytes, hcopied, hholds⟩ := h.value.copyOver hsize hpos hroom
    rw [if_pos ⟨hzero, hsome⟩, if_neg hzero, hexact, hcopied, SnsrRead.number, hexact]
    exact ⟨some bytes, rfl, hholds⟩

private theorem updateStatistics_low {value : Nat} {values : List Nat}
    (hvalue : HoldsLow record.sensorValue valueLen size value)
    (hmaximum : HoldsLow record.sensorMaxValue valueLen size (values.foldl max 0))
    (haverage : HoldsLow record.sensorAverageValue valueLen size (meanFrom 0 1 values))
    (hcount : record.sampleCount.toNat = 1 + values.length)
    (hsize : size ≤ valueLen) (hthree : size = 1 ∨ size = 2 ∨ size = 4) :
    ∃ maximum average, updateStatistics size record =
        .ok { record with sensorMaxValue := maximum, sensorAverageValue := some average } ∧
      HoldsLow maximum valueLen size ((values ++ [value]).foldl max 0) ∧
      HoldsLow (some average) valueLen size (meanFrom 0 1 (values ++ [value])) := by
  obtain ⟨maximum, hmax, hmaxHolds⟩ :=
    updatedMaxValue_low hmaximum hvalue hsize (by omega) (by omega)
  obtain ⟨average, hmean, hmeanHolds⟩ :=
    updatedAverageValue_low haverage hvalue hsize (by omega) (by omega)
  refine ⟨maximum, average, ?_, ?_, ?_⟩
  · rw [updateStatistics, if_pos (by omega), hmax, hmean]
    rfl
  · rwa [List.foldl_append]
  · rwa [meanFrom_append, ← hcount]

private theorem updateRecord_observed (h : Observed valueLen size readings record)
    (hinfo : OfSize size info) (hsize : size ≤ valueLen) (hthree : size = 1 ∨ size = 2 ∨ size = 4)
    (hroom : readings.length + 2 < 2 ^ 32) :
    ∃ record', updateRecord info record = .ok record' ∧
      Observed valueLen size (readings ++ [info]) record' := by
  obtain ⟨value, hstored, hvalue⟩ := storeReading_low h hinfo hsize (by omega) (by omega)
  have hpos : 0 < record.sampleCount := by
    rw [UInt32.lt_iff_toNat_lt, h.count]
    exact Nat.lt_add_right _ Nat.one_pos
  rw [updateRecord, hstored, checked_ok_bind, if_pos hpos]
  by_cases hnormal : info.snsrSatus = vmcSnsrStateNormal
  · have hexact : info.sensorValueSize.toNat = size :=
      hinfo.resolve_right fun hfail => hfail.2 hnormal
    have hsome : info.sensorValueSize ≠ 0 := by
      intro hzero
      rw [hzero] at hexact
      have hnone : 0 = size := hexact
      omega
    rw [latest_concat, if_neg hsome] at hvalue
    obtain ⟨maximum, average, hupdated, hmaximum, haverage⟩ := @updateStatistics_low
      { record with sensorValue := value, sensorStatus := info.snsrSatus } valueLen size _ _ hvalue
      h.maximum h.average h.count hsize hthree
    have hcounted : normals (readings ++ [info]) = normals readings ++ [info.number] := by
      rw [normals_concat, SnsrRead.counted, if_pos hnormal]
    rw [hexact]
    simp only [if_pos hnormal, hupdated]
    refine ⟨_, rfl, ?_, hcounted ▸ hmaximum, hcounted ▸ haverage, ?_, lastStatus_concat.symm⟩
    · rwa [latest_concat, if_neg hsome]
    · have hcount := h.count
      have hle := length_normals_le readings
      rw [hcounted, List.length_append, List.length_singleton]
      change (record.sampleCount + 1).toNat = _
      rw [UInt32.toNat_add, hcount]
      simp only [UInt32.toNat_one]
      omega
  · have hcounted : normals (readings ++ [info]) = normals readings := by
      rw [normals_concat, SnsrRead.counted, if_neg hnormal, List.append_nil]
    simp only [if_neg hnormal]
    exact ⟨_, rfl, hvalue, hcounted ▸ h.maximum, hcounted ▸ h.average, hcounted ▸ h.count,
      lastStatus_concat.symm⟩

end Record

/-! ## The repositories -/

def Standard (headers : List AsdmHeader) : Prop :=
  headers.map AsdmHeader.repositoryType = asdmHeaderInfo.map AsdmHeader.repositoryType

structure Fresh (record : SensorRecord) : Prop where
  sampleCount : record.sampleCount = 1
  value : record.sensorValue = some (List.replicate record.valueLen 0)
  valueLen : record.valueLen ≠ 0

/-- The sensors a platform monitors are read in their own sizes. -/
def Monitors (sdrInfo : List Sdr) (size : Nat → Nat → Nat) (read : Readings) : Prop :=
  ∀ repo idx sdr record info, sdrInfo[repo]? = some sdr → sdr.sensorRecord[idx]? = some record →
    read repo idx = some info → sdr.header.repositoryType ≠ .boardInfoSdr ∧
      Fresh record ∧ size repo idx ≤ record.valueLen ∧
      (size repo idx = 1 ∨ size repo idx = 2 ∨ size repo idx = 4) ∧ OfSize (size repo idx) info

def VersionRoom (sdrInfo : List Sdr) : Prop :=
  ∀ sdr ∈ sdrInfo, sdr.header.repositoryType = .boardInfoSdr → ∀ record ∈ sdr.sensorRecord,
    ∀ name ∈ record.sensorName,
      (name.take activeScVer.length = activeScVer → 4 ≤ record.valueLen) ∧
      (name.take targetScVer.length = targetScVer → 3 ≤ record.valueLen)

instance (sdrInfo : List Sdr) : Decidable (VersionRoom sdrInfo) :=
  inferInstanceAs (Decidable (∀ sdr ∈ sdrInfo, _ → ∀ record ∈ sdr.sensorRecord,
    ∀ name ∈ record.sensorName, _ ∧ _))

instance (record : SensorRecord) : Decidable (Fresh record) :=
  decidable_of_iff (record.sampleCount = 1 ∧
      record.sensorValue = some (List.replicate record.valueLen 0) ∧ record.valueLen ≠ 0)
    ⟨fun ⟨hcount, hvalue, hlen⟩ => ⟨hcount, hvalue, hlen⟩,
      fun ⟨hcount, hvalue, hlen⟩ => ⟨hcount, hvalue, hlen⟩⟩

/-- Every dynamic record is the register of its own readings. -/
structure Follows (size : Nat → Nat → Nat) (sdrInfo sdrInfo' : List Sdr)
    (done : Nat → Nat → List SnsrRead) : Prop where
  blank : sdrInfo'.map Sdr.blank = sdrInfo.map Sdr.blank
  observed : ∀ repo idx sdr record, sdrInfo[repo]? = some sdr →
    sdr.sensorRecord[idx]? = some record → sdr.header.repositoryType ≠ .boardInfoSdr →
    Fresh record → ∃ sdr' record', sdrInfo'[repo]? = some sdr' ∧
      sdr'.sensorRecord[idx]? = some record' ∧
      Observed record.valueLen (size repo idx) (done repo idx) record'

section Repositories

variable {headers : List AsdmHeader} {sdrInfo sdrInfo' : List Sdr} {repo idx : Nat} {sdr : Sdr}
  {record record' : SensorRecord}

theorem Standard.getSdrIndex (h : Standard headers) {header : AsdmHeader}
    (hheader : headers[repo]? = some header) :
    Asdm.getSdrIndex headers header.repositoryType.code = (repo : Int) := by
  have hnodup : (headers.map AsdmHeader.repositoryType).Nodup := by
    rw [h]
    decide
  rcases foldl_getSdrIndex headers header.repositoryType.code 0 (-1) with
    ⟨hnot, -⟩ | ⟨-, position, found, hfound, hcode, heq⟩
  · have hmem := List.mem_of_getElem? hheader
    have hsupported : isRepoTypeSupported headers header.repositoryType.code = true :=
      List.any_eq_true.2 ⟨header, hmem, beq_self_eq_true _⟩
    rw [hnot] at hsupported
    cases hsupported
  · have hsame : position = repo := by
      have hposition : (headers.map AsdmHeader.repositoryType)[position]? =
          (headers.map AsdmHeader.repositoryType)[repo]? := by
        rw [List.getElem?_map, List.getElem?_map, hfound, hheader]
        exact congrArg some (code_injective hcode)
      refine (List.getElem?_inj ?_ hnodup).1 hposition
      rw [List.length_map]
      exact (List.getElem?_eq_some_iff.1 hfound).1
    rw [Nat.zero_add, hsame] at heq
    exact heq

private theorem getElem?_of_map_eq {α β : Type} {f : α → β} {list list' : List α} {i : Nat} {a : α}
    (h : list'.map f = list.map f) (ha : list[i]? = some a) :
    ∃ a', list'[i]? = some a' ∧ f a' = f a := by
  have hi := congrArg (fun images => images[i]?) h
  simp only [List.getElem?_map, ha, Option.map_some] at hi
  exact Option.map_eq_some_iff.1 hi

private theorem sdr_of_blank (h : sdrInfo'.map Sdr.blank = sdrInfo.map Sdr.blank)
    (hsdr : sdrInfo[repo]? = some sdr) :
    ∃ sdr', sdrInfo'[repo]? = some sdr' ∧ sdr'.header = sdr.header ∧
      sdr'.sensorRecord.map SensorRecord.blank = sdr.sensorRecord.map SensorRecord.blank := by
  obtain ⟨sdr', hsdr', hblank⟩ := getElem?_of_map_eq h hsdr
  have hheader := congrArg Sdr.header hblank
  have hrecords := congrArg Sdr.sensorRecord hblank
  exact ⟨sdr', hsdr', hheader, hrecords⟩

theorem withRecord_self (hsdr : sdrInfo[repo]? = some sdr)
    (hrecord : sdr.sensorRecord[idx]? = some record) :
    ∃ sdr', (withRecord sdrInfo repo sdr idx record')[repo]? = some sdr' ∧
      sdr'.sensorRecord[idx]? = some record' := by
  obtain ⟨hrepo, -⟩ := List.getElem?_eq_some_iff.1 hsdr
  obtain ⟨hidx, -⟩ := List.getElem?_eq_some_iff.1 hrecord
  refine ⟨_, List.getElem?_set_self hrepo, List.getElem?_set_self hidx⟩

private theorem withRecord_other {r i : Nat} {other : Sdr} {kept : SensorRecord}
    (hne : ¬ (r = repo ∧ i = idx)) (hsdr : sdrInfo[repo]? = some sdr)
    (hother : sdrInfo[r]? = some other) (hkept : other.sensorRecord[i]? = some kept) :
    ∃ other', (withRecord sdrInfo repo sdr idx record')[r]? = some other' ∧
      other'.sensorRecord[i]? = some kept := by
  obtain ⟨hrepo, -⟩ := List.getElem?_eq_some_iff.1 hsdr
  by_cases hr : r = repo
  · subst hr
    rw [hsdr] at hother
    cases hother
    refine ⟨_, List.getElem?_set_self hrepo, ?_⟩
    rw [List.getElem?_set_ne fun hi => hne ⟨rfl, hi.symm⟩]
    exact hkept
  · exact ⟨other, by rw [withRecord, List.getElem?_set_ne (Ne.symm hr)]; exact hother, hkept⟩

end Repositories

/-! ## A pass keeps to the registers -/

section Steps

variable {headers : List AsdmHeader} {size : Nat → Nat → Nat} {sdrInfo sdrInfo' : List Sdr}
  {done done' : Nat → Nat → List SnsrRead} {read : Readings} {repo idx : Nat} {sdr : Sdr}

structure Ready (headers : List AsdmHeader) (sdrInfo : List Sdr) : Prop where
  standard : Standard headers
  numbered : List.Forall₂ Numbered headers sdrInfo
  complete : List.Forall₂ Complete headers sdrInfo

theorem Ready.header (h : Ready headers sdrInfo) (hsdr : sdrInfo[repo]? = some sdr) :
    ∃ header, headers[repo]? = some header ∧ Numbered header sdr ∧ Complete header sdr := by
  obtain ⟨hrepo, rfl⟩ := List.getElem?_eq_some_iff.1 hsdr
  have hheader : repo < headers.length := h.complete.length_eq ▸ hrepo
  exact ⟨headers[repo], List.getElem?_eq_getElem hheader,
    (List.forall₂_iff_get.1 h.numbered).2 repo hheader hrepo,
    (List.forall₂_iff_get.1 h.complete).2 repo hheader hrepo⟩

theorem Follows.congr (h : Follows size sdrInfo sdrInfo' done)
    (hsame : ∀ repo idx sdr, sdrInfo[repo]? = some sdr → idx < sdr.sensorRecord.length →
      done repo idx = done' repo idx) :
    Follows size sdrInfo sdrInfo' done' where
  blank := h.blank
  observed repo idx sdr record hsdr hrecord htype hfresh := by
    obtain ⟨sdr', record', hsdr', hrecord', hobserved⟩ :=
      h.observed repo idx sdr record hsdr hrecord htype hfresh
    have hidx := (List.getElem?_eq_some_iff.1 hrecord).1
    exact ⟨sdr', record', hsdr', hrecord', hsame repo idx sdr hsdr hidx ▸ hobserved⟩

theorem Ready.located (h : Ready headers sdrInfo)
    (hblank : sdrInfo'.map Sdr.blank = sdrInfo.map Sdr.blank) (hsdr : sdrInfo[repo]? = some sdr)
    {record : SensorRecord} (hrecord : sdr.sensorRecord[idx]? = some record) :
    ∃ sdr' record', Located headers sdrInfo' sdr'.header.repositoryType.code record'.sensorId repo
      idx sdr' record' ∧ sdr'.header = sdr.header ∧ record'.blank = record.blank := by
  obtain ⟨header, hheader, hnumbered, hcomplete⟩ := h.header hsdr
  obtain ⟨sdr', hsdr', hsame, hrecords⟩ := sdr_of_blank hblank hsdr
  obtain ⟨record', hrecord', hblank'⟩ := getElem?_of_map_eq hrecords hrecord
  have hidx := (List.getElem?_eq_some_iff.1 hrecord).1
  have hid : record'.sensorId = UInt8.ofNat (idx + 1) := by
    have hids := congrArg (fun ids => ids[idx]?) hnumbered.sensorIds
    rw [hcomplete.length, hnumbered.noOfRecords] at hidx
    simp only [List.getElem?_map, hrecord, Option.map_some, List.getElem?_range hidx] at hids
    have hkept := congrArg SensorRecord.sensorId hblank'
    exact hkept.trans (Option.some.inj hids)
  have hlt : idx + 1 < 256 := by
    have hbound := sdr.header.noOfRecords.toNat_lt
    rw [hcomplete.length] at hidx
    omega
  refine ⟨sdr', record', ⟨?_, hsdr', ?_, hrecord'⟩, hsame, hblank'⟩
  · rw [hsame, hnumbered.repositoryType]
    exact h.standard.getSdrIndex hheader
  · rw [hid, UInt8.toNat_ofNat', Nat.mod_eq_of_lt hlt]

private theorem updateSensor_follows (hready : Ready headers sdrInfo)
    (hmonitors : Monitors sdrInfo size read) (h : Follows size sdrInfo sdrInfo' done)
    (hsdr : sdrInfo[repo]? = some sdr) (hidx : idx < sdr.sensorRecord.length)
    (hroom : (done repo idx).length + 2 < 2 ^ 32) :
    ∃ sdrInfo'', updateSensor headers read repo sdrInfo' idx = .ok sdrInfo'' ∧
      Follows size sdrInfo sdrInfo'' fun r i =>
        if r = repo ∧ i = idx then done r i ++ (read r i).toList else done r i := by
  have hrecord := List.getElem?_eq_getElem hidx
  obtain ⟨sdr', record', hlocated, hheader, hblank⟩ := hready.located h.blank hsdr hrecord
  have hsdrAt : sdrAt sdrInfo' (repo : Int) = .ok sdr' := by
    simp [sdrAt, hlocated.repository]
  have hrecordAt : sdr'.recordAt idx = .ok record' := by
    simp [Sdr.recordAt, hlocated.stored]
  rw [updateSensor, hsdrAt, checked_ok_bind, hrecordAt, checked_ok_bind]
  cases hread : read repo idx with
  | none =>
      refine ⟨sdrInfo', rfl, h.congr fun r i _ _ _ => ?_⟩
      split
      · next hplace =>
        rw [hplace.1, hplace.2, hread, Option.toList_none, List.append_nil]
      · rfl
  | some info =>
      obtain ⟨htype, hfresh, hsize, hthree, hsized⟩ :=
        hmonitors repo idx sdr _ info hsdr hrecord hread
      obtain ⟨found, stored, hfound, hstored, hobserved⟩ :=
        h.observed repo idx sdr _ hsdr hrecord htype hfresh
      obtain rfl : sdr' = found := Option.some.inj (hlocated.repository.symm.trans hfound)
      obtain rfl : record' = stored := Option.some.inj (hlocated.stored.symm.trans hstored)
      obtain ⟨next, hnext, hgoes⟩ :=
        updateRecord_observed hobserved hsized hsize hthree hroom
      refine ⟨withRecord sdrInfo' repo sdr' idx next, ?_, ?_, ?_⟩
      · change Prod.snd <$> updateSensorValue _ _ _ = _
        rw [hlocated.updateSensorValue hnext]
        rfl
      · exact (withRecord_blank hfound hstored (updateRecord_blank hnext)).trans h.blank
      · intro r i other kept hother hkept htype' hfresh'
        by_cases hplace : r = repo ∧ i = idx
        · obtain ⟨rfl, rfl⟩ := hplace
          rw [hsdr] at hother
          cases hother
          rw [hrecord] at hkept
          cases hkept
          obtain ⟨sdr'', hsdr'', hrecord''⟩ :=
            @withRecord_self sdrInfo' r i sdr' record' next hfound hstored
          refine ⟨sdr'', next, hsdr'', hrecord'', ?_⟩
          rw [if_pos ⟨rfl, rfl⟩, hread, Option.toList_some]
          exact hgoes
        · obtain ⟨other', kept', hother', hkept', hobserved'⟩ :=
            h.observed r i other kept hother hkept htype' hfresh'
          obtain ⟨sdr'', hsdr'', hrecord''⟩ :=
            @withRecord_other sdrInfo' repo idx sdr' next r i other' kept' hplace hfound hother'
              hkept'
          refine ⟨sdr'', kept', hsdr'', hrecord'', ?_⟩
          rw [if_neg hplace]
          exact hobserved'

private theorem updateRepository_follows (hready : Ready headers sdrInfo)
    (hmonitors : Monitors sdrInfo size read) (h : Follows size sdrInfo sdrInfo' done)
    (hsdr : sdrInfo[repo]? = some sdr) (hroom : ∀ i, (done repo i).length + 2 < 2 ^ 32) :
    ∃ sdrInfo'', updateRepository headers read sdrInfo' repo = .ok sdrInfo'' ∧
      Follows size sdrInfo sdrInfo'' fun r i =>
        if r = repo ∧ i < sdr.sensorRecord.length then done r i ++ (read r i).toList
        else done r i := by
  obtain ⟨header, -, -, hcomplete⟩ := hready.header hsdr
  obtain ⟨sdr', hsdr', hheader, -⟩ := sdr_of_blank h.blank hsdr
  have hsdrAt : sdrAt sdrInfo' (repo : Int) = .ok sdr' := by
    simp [sdrAt, hsdr']
  rw [updateRepository, hsdrAt, checked_ok_bind, hheader, ← hcomplete.length]
  refine @foldlM_range_ok _ _ _ _ (fun count sdrInfo'' => Follows size sdrInfo sdrInfo'' fun r i =>
    if r = repo ∧ i < count then done r i ++ (read r i).toList else done r i) _ ?_ ?_
  · exact h.congr fun r i _ _ _ => (if_neg fun hplace => Nat.not_lt_zero i hplace.2).symm
  · intro idx sdrInfo'' hidx hfollows
    have hfresh : (if repo = repo ∧ idx < idx then done repo idx ++ (read repo idx).toList
        else done repo idx) = done repo idx := if_neg fun hplace => Nat.lt_irrefl idx hplace.2
    obtain ⟨next, hnext, hgoes⟩ := updateSensor_follows hready hmonitors hfollows hsdr hidx
      (by rw [hfresh]; exact hroom idx)
    refine ⟨next, hnext, hgoes.congr fun r i _ _ _ => ?_⟩
    by_cases hplace : r = repo ∧ i = idx
    · obtain ⟨rfl, rfl⟩ := hplace
      rw [if_pos ⟨rfl, rfl⟩, hfresh, if_pos ⟨rfl, Nat.lt_succ_self i⟩]
    · rw [if_neg hplace]
      have hiff : (r = repo ∧ i < idx) ↔ (r = repo ∧ i < idx + 1) := by omega
      simp only [hiff]

private theorem updateMspRecord_ok {name : Name} {version : List UInt8} {rounds : Nat}
    (hversion : version.length ≠ 0) (hrounds : rounds ≤ sdr.sensorRecord.length)
    (hfits : ∀ record ∈ sdr.sensorRecord, ∃ stored bytes, record.sensorName = some stored ∧
      record.sensorValue = some bytes ∧
      (stored.take name.length = name → version.length ≤ bytes.length)) :
    ∃ found, updateMspRecord name version sdr rounds = .ok found := by
  induction rounds with
  | zero => exact ⟨none, rfl⟩
  | succ idx ih =>
      have hrecord := List.getElem?_eq_getElem (Nat.lt_of_succ_le hrounds)
      have hrecordAt : sdr.recordAt idx = .ok sdr.sensorRecord[idx] := by
        simp [Sdr.recordAt, hrecord]
      obtain ⟨stored, bytes, hstored, hbytes, hroom⟩ :=
        hfits _ (List.mem_of_getElem? hrecord)
      rw [updateMspRecord, hrecordAt, checked_ok_bind, nameStarts, hstored]
      by_cases hstarts : stored.take name.length = name
      · have hlength : ¬ (version.length < version.length ∨ bytes.length < version.length) :=
          fun hshort => hshort.elim (Nat.lt_irrefl _) (Nat.not_lt.2 (hroom hstarts))
        rw [pure_bind, if_pos (beq_iff_eq.2 hstarts), hbytes, copyOver, if_neg hversion,
          if_neg hlength]
        exact ⟨_, rfl⟩
      · rw [pure_bind, if_neg fun heq => hstarts (beq_iff_eq.1 heq)]
        exact ih (Nat.le_of_succ_le hrounds)

theorem Ready.boardInfo (h : Ready headers sdrInfo) :
    ∃ sdr header, sdrInfo[0]? = some sdr ∧ headers[0]? = some header ∧
      header.repositoryType = .boardInfoSdr ∧ sdr.header.repositoryType = .boardInfoSdr ∧
      Complete header sdr := by
  obtain ⟨header, hheader, htype⟩ := getElem?_of_map_eq (i := 0) h.standard rfl
  have hlt : 0 < sdrInfo.length := h.complete.length_eq ▸ (List.getElem?_eq_some_iff.1 hheader).1
  have hsdr := List.getElem?_eq_getElem hlt
  obtain ⟨header', hheader', -, hcomplete⟩ := h.header hsdr
  rw [hheader] at hheader'
  cases hheader'
  exact ⟨_, header, hsdr, hheader, htype, hcomplete.repositoryType.trans htype, hcomplete⟩

private theorem length_of_blank {field field' : Option (List UInt8)} {bytes : List UInt8}
    (h : blank field' = blank field) (hfield : field = some bytes) :
    ∃ bytes', field' = some bytes' ∧ bytes'.length = bytes.length := by
  subst hfield
  cases field' with
  | none => cases h
  | some bytes' =>
      refine ⟨bytes', rfl, ?_⟩
      have hlength := congrArg List.length (Option.some.inj h)
      rwa [List.length_replicate, List.length_replicate] at hlength

private theorem updateMspSensor_follows (hready : Ready headers sdrInfo)
    (h : Follows size sdrInfo sdrInfo' done) {name : Name} {version : List UInt8}
    (hversion : version.length ≠ 0)
    (hfits : ∀ sdr ∈ sdrInfo, sdr.header.repositoryType = .boardInfoSdr →
      ∀ record ∈ sdr.sensorRecord, ∀ stored, record.sensorName = some stored →
        stored.take name.length = name → version.length ≤ record.valueLen) :
    ∃ sdrInfo'', updateMspSensor headers name version sdrInfo' = .ok sdrInfo'' ∧
      Follows size sdrInfo sdrInfo'' done := by
  obtain ⟨sdr, header, hsdr, hheader, hboard, htype, hcomplete⟩ := hready.boardInfo
  obtain ⟨sdr', hsdr', hsame, hrecords⟩ := sdr_of_blank h.blank hsdr
  have hindex : getSdrIndex headers RepositoryType.boardInfoSdr.code = 0 :=
    hboard ▸ hready.standard.getSdrIndex hheader
  have hsdrAt : sdrAt sdrInfo' 0 = .ok sdr' := by
    simp [sdrAt, hsdr']
  have hlength : sdr'.sensorRecord.length = sdr'.header.noOfRecords.toNat := by
    have hmap := congrArg List.length hrecords
    rw [List.length_map, List.length_map, hcomplete.length] at hmap
    rw [hmap, hsame]
  have hrounds : mspRounds sdr'.header.noOfRecords ≤ sdr'.sensorRecord.length := by
    rw [hlength, mspRounds]
    split
    · exact Nat.le_refl _
    · exact Nat.zero_le _
  have hroom : ∀ record' ∈ sdr'.sensorRecord, ∃ stored bytes,
      record'.sensorName = some stored ∧ record'.sensorValue = some bytes ∧
        (stored.take name.length = name → version.length ≤ bytes.length) := by
    intro record' hmem
    obtain ⟨idx, hidx, hrecord'⟩ := List.getElem_of_mem hmem
    obtain ⟨record, hrecord, hblank⟩ := getElem?_of_map_eq hrecords.symm
      (hrecord' ▸ List.getElem?_eq_getElem hidx)
    have hin := List.mem_of_getElem? hrecord
    have hwellFormed := hcomplete.wellFormed record hin
    obtain ⟨-, stored, hstored, -⟩ := hwellFormed.name
    obtain ⟨bytes, hbytes, hvalueLen⟩ := hwellFormed.value
    have hname := congrArg SensorRecord.sensorName hblank
    obtain ⟨bytes', hbytes', hkept⟩ :=
      length_of_blank (congrArg SensorRecord.sensorValue hblank).symm hbytes
    refine ⟨stored, bytes', hname.symm.trans hstored, hbytes', fun hstarts => ?_⟩
    rw [hkept, hvalueLen]
    exact hfits sdr (List.mem_of_getElem? hsdr) htype record hin stored hstored hstarts
  obtain ⟨found, hfound⟩ := updateMspRecord_ok hversion hrounds hroom
  have hrun : updateMspSensor headers name version sdrInfo' = .ok (found.elim sdrInfo'
      fun place => withRecord sdrInfo' 0 sdr' place.1 place.2) := by
    rw [updateMspSensor, hindex, hsdrAt, checked_ok_bind, hfound, checked_ok_bind]
    cases found <;> rfl
  cases found with
  | none => exact ⟨sdrInfo', hrun, h⟩
  | some found =>
      refine ⟨_, hrun, (updateMspSensor_blank hrun).trans h.blank, ?_⟩
      intro r i other kept hother hkept htype' hfresh
      obtain ⟨other', kept', hother', hkept', hobserved⟩ :=
        h.observed r i other kept hother hkept htype' hfresh
      have hne : r ≠ 0 := by
        rintro rfl
        rw [hsdr] at hother
        cases hother
        exact htype' htype
      obtain ⟨sdr'', hsdr'', hrecord''⟩ := @withRecord_other sdrInfo' 0 found.1 sdr' found.2 r i
        other' kept' (fun hplace => hne hplace.1) hsdr' hother' hkept'
      exact ⟨sdr'', kept', hsdr'', hrecord'', hobserved⟩

private theorem asdmUpdateSensors_follows (hready : Ready headers sdrInfo) {pass : SensorPass}
    (hmonitors : Monitors sdrInfo size pass.read) (hversions : VersionRoom sdrInfo)
    (h : Follows size sdrInfo sdrInfo' done) (hroom : ∀ r i, (done r i).length + 2 < 2 ^ 32) :
    ∃ sdrInfo'', asdmUpdateSensors headers sdrInfo' pass = .ok sdrInfo'' ∧
      Follows size sdrInfo sdrInfo'' fun r i => done r i ++ (pass.reading r i).toList := by
  obtain ⟨active, hactive, hfollows⟩ := @updateMspSensor_follows headers size sdrInfo sdrInfo' done
    hready h activeScVer pass.scVersion (by
      rw [pass.length_scVersion]
      decide) fun sdr hmem htype record hrecord name hname hstarts => by
        rw [pass.length_scVersion]
        exact (hversions sdr hmem htype record hrecord name hname).1 hstarts
  obtain ⟨target, htarget, hfollows⟩ := @updateMspSensor_follows headers size sdrInfo active done
    hready hfollows targetScVer pass.fptScVersion (by
      rw [pass.length_fptScVersion]
      decide) fun sdr hmem htype record hrecord name hname hstarts => by
        rw [pass.length_fptScVersion]
        exact (hversions sdr hmem htype record hrecord name hname).2 hstarts
  rw [asdmUpdateSensors, asdmUpdateActiveMspSensor, hactive, checked_ok_bind,
    asdmUpdateTargetMspSensor, htarget, checked_ok_bind]
  unfold SensorPass.reading
  by_cases hlocked : pass.locked = true
  swap
  · rw [if_neg hlocked]
    refine ⟨target, rfl, hfollows.congr fun r i _ _ _ => ?_⟩
    rw [if_neg hlocked, Option.toList_none, List.append_nil]
  rw [if_pos hlocked]
  have hloop := @foldlM_range_ok _ _ target (updateRepository headers pass.read)
    (fun count sdrInfo'' => Follows size sdrInfo sdrInfo'' fun r i =>
      if r < count then done r i ++ (pass.read r i).toList else done r i) headers.length
    (hfollows.congr fun r i _ _ _ => (if_neg (Nat.not_lt_zero r)).symm) ?_
  · obtain ⟨last, hrun, hend⟩ := hloop
    refine ⟨last, hrun, hend.congr fun r i _ hr _ => ?_⟩
    rw [if_pos (hready.complete.length_eq ▸ (List.getElem?_eq_some_iff.1 hr).1), if_pos hlocked]
  · intro repo sdrInfo'' hrepo hfollows'
    have hlt : repo < sdrInfo.length := hready.complete.length_eq ▸ hrepo
    have hsdr := List.getElem?_eq_getElem hlt
    have hfresh : ∀ i, (if repo < repo then done repo i ++ (pass.read repo i).toList
        else done repo i) = done repo i := fun i => if_neg (Nat.lt_irrefl repo)
    obtain ⟨next, hnext, hgoes⟩ := updateRepository_follows hready hmonitors hfollows' hsdr
      fun i => by rw [hfresh]; exact hroom repo i
    refine ⟨next, hnext, hgoes.congr fun r i sdr hsdr' hi => ?_⟩
    by_cases hr : r = repo
    · subst hr
      rw [hsdr] at hsdr'
      cases hsdr'
      rw [if_pos ⟨rfl, hi⟩, hfresh, if_pos (Nat.lt_succ_self r)]
    · rw [if_neg fun hplace => hr hplace.1]
      have hiff : r < repo ↔ r < repo + 1 := by omega
      simp only [hiff]

end Steps

/-! ## From the initialisation on -/

structure SensorRepository (sdr : Sdr) : Prop where
  sensors : sdr.header.repositoryType ≠ .boardInfoSdr
  fresh : ∀ record ∈ sdr.sensorRecord, Fresh record

private theorem readingsOf_concat (passes : List SensorPass) (pass : SensorPass) (repo idx : Nat) :
    readingsOf (passes ++ [pass]) repo idx =
      readingsOf passes repo idx ++ (pass.reading repo idx).toList := by
  rw [readingsOf, List.filterMap_append]
  cases hreading : pass.reading repo idx <;> simp [hreading, readingsOf]

private theorem length_readingsOf_le (passes : List SensorPass) (repo idx : Nat) :
    (readingsOf passes repo idx).length ≤ passes.length :=
  List.length_filterMap_le _ _

section Runs

variable {infos : List (RepositoryType × UInt8)} {malloc : Allocation → Bool} {behind : Memory}
  {headers : List AsdmHeader} {metaData : List SensorMetaData} {beyond : Nat → SensorMetaData}
  {sdrInfo sdrInfo' : List Sdr} {writes : List RecordWrite} {size : Nat → Nat → Nat}
  {done : Nat → Nat → List SnsrRead} {repo : Nat} {sdr : Sdr}

private theorem initRepositories_records {table : List ThresholdRow}
    {metaData : Nat → SensorMetaData}
    {sdrCount entry threshIdx : Nat} {sdrs : List Sdr}
    (h : initRepositories table malloc behind metaData headers sdrCount entry threshIdx =
      .ok (sdrs, writes)) :
    ∀ sdr ∈ sdrs, ∀ record ∈ sdr.sensorRecord, ∃ write ∈ writes, write.record = record := by
  induction headers generalizing sdrCount entry threshIdx sdrs writes with
  | nil =>
      cases h
      simp
  | cons header headers ih =>
      obtain ⟨first, entry', threshIdx', sdrs', further, -, hfurther, rfl, rfl⟩ :=
        initRepositories_cons h
      rw [List.forall_mem_cons]
      refine ⟨fun record hmem => ?_, fun sdr hsdr record hmem => ?_⟩
      · obtain ⟨write, hwrite, hrecord⟩ := List.mem_map.1 (List.mem_of_mem_take hmem)
        exact ⟨write, List.mem_append_left _ hwrite, hrecord⟩
      · obtain ⟨write, hwrite, hrecord⟩ := ih hfurther sdr hsdr record hmem
        exact ⟨write, List.mem_append_right _ hwrite, hrecord⟩

theorem Made.sensorStatus {table : List ThresholdRow} {repoType : RepositoryType}
    {metaData : Nat → SensorMetaData} {write : RecordWrite}
    (h : Made table malloc behind repoType metaData write) :
    write.record.sensorStatus = sensorPresentAndValid := by
  obtain ⟨threshIdx, threshIdx', -, h⟩ := h
  obtain ⟨_, _, _, _, _, _, -, -, -, -, -, -, hrecord⟩ := initRecord_ok h
  rw [hrecord]

private theorem initAsdm_sensorStatus
    (h : initAsdm malloc behind headers metaData beyond = .ok (sdrInfo, writes)) :
    ∀ sdr ∈ sdrInfo, ∀ record ∈ sdr.sensorRecord, record.sensorStatus = sensorPresentAndValid := by
  intro sdr hsdr record hmem
  have hmade := initAsdmIn_made h
  unfold initAsdm initAsdmIn at h
  obtain ⟨-, -, h⟩ := checked_bind_ok h
  obtain ⟨-, -, h⟩ := checked_bind_ok h
  obtain ⟨write, hwrite, rfl⟩ := initRepositories_records h sdr hsdr record hmem
  obtain ⟨header, -, hrecord⟩ := hmade write hwrite
  exact hrecord.sensorStatus

private theorem ready_of_init
    (h : initAsdm malloc behind (asdmUpdateRecordCount asdmHeaderInfo infos) metaData beyond =
      .ok (sdrInfo, writes)) : Ready (asdmUpdateRecordCount asdmHeaderInfo infos) sdrInfo where
  standard := asdmUpdateRecordCount_types asdmHeaderInfo infos
  numbered := initAsdm_numbered h
  complete := initAsdm_complete h

private theorem holdsLow_zeros (valueLen size : Nat) :
    HoldsLow (some (List.replicate valueLen 0)) valueLen size 0 :=
  ⟨holds_zeros valueLen, Nat.two_pow_pos _⟩

theorem Ready.follows (h : Ready headers sdrInfo)
    (hstatus : ∀ sdr ∈ sdrInfo, ∀ record ∈ sdr.sensorRecord,
      record.sensorStatus = sensorPresentAndValid) :
    Follows size sdrInfo sdrInfo fun _ _ => [] := by
  refine ⟨rfl, fun repo idx sdr record hsdr hrecord _ hfresh => ?_⟩
  obtain ⟨header, -, -, hcomplete⟩ := h.header hsdr
  have hin := List.mem_of_getElem? hrecord
  have hwellFormed := hcomplete.wellFormed record hin
  have hpos : 0 < record.sampleCount := hfresh.sampleCount ▸ by decide
  have hmaximum := hwellFormed.maxValue
  have haverage := hwellFormed.averageValue
  rw [if_pos hpos] at hmaximum haverage
  refine ⟨sdr, record, hsdr, hrecord, ?_, ?_, ?_, ?_, ?_⟩
  · rw [hfresh.value]
    exact holdsLow_zeros _ _
  · rw [hmaximum]
    exact holdsLow_zeros _ _
  · rw [haverage]
    exact holdsLow_zeros _ _
  · rw [hfresh.sampleCount]
    rfl
  · exact hstatus sdr (List.mem_of_getElem? hsdr) record hin

private theorem passes_follow (hready : Ready headers sdrInfo) (passes : List SensorPass)
    (hmonitors : ∀ pass ∈ passes, Monitors sdrInfo size pass.read)
    (hversions : VersionRoom sdrInfo) (hstart : Follows size sdrInfo sdrInfo fun _ _ => [])
    (hroom : passes.length + 1 < 2 ^ 32) :
    ∃ sdrInfo', passes.foldlM (asdmUpdateSensors headers) sdrInfo = .ok sdrInfo' ∧
      Follows size sdrInfo sdrInfo' (readingsOf passes) := by
  refine @foldlM_ok _ _ _ sdrInfo (asdmUpdateSensors headers)
    (fun taken sdrInfo' => Follows size sdrInfo sdrInfo' (readingsOf taken)) passes hstart ?_
  intro taken pass rest sdrInfo' hpasses hfollows
  have hmem : pass ∈ passes := hpasses ▸ List.mem_append_right taken List.mem_cons_self
  have htaken : taken.length + 1 ≤ passes.length := by
    rw [hpasses, List.length_append, List.length_cons]
    omega
  obtain ⟨next, hnext, hgoes⟩ := asdmUpdateSensors_follows hready (hmonitors pass hmem) hversions
    hfollows fun r i => by
      have hle := length_readingsOf_le taken r i
      omega
  exact ⟨next, hnext, hgoes.congr fun r i _ _ _ => (readingsOf_concat taken pass r i).symm⟩

theorem HoldsLow.fieldBytes {field : Option (List UInt8)} {valueLen size number : Nat}
    (h : HoldsLow field valueLen size number) :
    fieldBytes field valueLen = lowBytes valueLen number := by
  obtain ⟨⟨bytes, rfl, rfl, rfl⟩, -⟩ := h
  rw [lowBytes_littleEndian]
  exact List.take_length

theorem Observed.dataBytes {valueLen size : Nat} {readings : List SnsrRead} {record : SensorRecord}
    (h : Observed valueLen size readings record) (hlength : record.valueLen = valueLen) :
    dataBytes record = sensorBody valueLen readings := by
  subst hlength
  have htype : record.sensorValueTypeLength &&& lengthBitmask = UInt8.ofNat record.valueLen :=
    UInt8.ofNat_toNat.symm
  rw [Asdm.dataBytes, sensorBody, h.value.fieldBytes, h.maximum.fieldBytes, h.average.fieldBytes,
    h.status, htype]

theorem HoldsLow.copyable {field : Option (List UInt8)} {valueLen size number : Nat}
    (h : HoldsLow field valueLen size number) (hvalueLen : valueLen ≠ 0) :
    Copyable field valueLen := by
  obtain ⟨⟨bytes, hbytes, hlength, -⟩, -⟩ := h
  exact ⟨hvalueLen, bytes, hbytes, hlength.ge⟩

theorem Follows.singleBodies (hready : Ready headers sdrInfo)
    (h : Follows size sdrInfo sdrInfo' done) (hsdr : sdrInfo[repo]? = some sdr)
    (hsensors : SensorRepository sdr) :
    singleBodies headers sdrInfo' sdr.header.repositoryType.code sdr.header.noOfRecords.toNat =
      .ok (sdr.sensorRecord.mapIdx fun idx record =>
        (sensorBody record.valueLen (done repo idx)).map some) := by
  obtain ⟨header, hheader, -, hcomplete⟩ := hready.header hsdr
  obtain ⟨sdr', hsdr', hsame, hrecords⟩ := sdr_of_blank h.blank hsdr
  have hlength : sdr'.sensorRecord.length = sdr.sensorRecord.length := by
    simpa using congrArg List.length hrecords
  have hindex : getSdrIndex headers sdr.header.repositoryType.code = (repo : Int) :=
    hcomplete.repositoryType ▸ hready.standard.getSdrIndex hheader
  have hobserved : ∀ idx record record', sdr.sensorRecord[idx]? = some record →
      sdr'.sensorRecord[idx]? = some record' →
        record'.valueLen = record.valueLen ∧ record.valueLen ≠ 0 ∧
        Observed record.valueLen (size repo idx) (done repo idx) record' := by
    intro idx record record' hrecord hrecord'
    have hfresh := hsensors.fresh record (List.mem_of_getElem? hrecord)
    obtain ⟨found, stored, hfound, hstored, hobserved⟩ :=
      h.observed repo idx sdr record hsdr hrecord hsensors.sensors hfresh
    obtain rfl : sdr' = found := Option.some.inj (hsdr'.symm.trans hfound)
    obtain rfl : record' = stored := Option.some.inj (hrecord'.symm.trans hstored)
    obtain ⟨kept, hkept, hblank⟩ := getElem?_of_map_eq hrecords hrecord
    obtain rfl : record' = kept := Option.some.inj (hrecord'.symm.trans hkept)
    have htype := congrArg SensorRecord.sensorValueTypeLength hblank
    exact ⟨congrArg lengthOf htype, hfresh.valueLen, hobserved⟩
  have hdynamic : DynamicRepository headers sdrInfo' sdr.header.repositoryType.code sdr' := by
    refine ⟨?_, ?_, ?_, fun record' hmem => ?_⟩
    · rw [hindex]
      omega
    · rw [hindex]
      simp [sdrAt, hsdr']
    · rw [hlength, hsame, hcomplete.length]
    · obtain ⟨idx, hidx, rfl⟩ := List.getElem_of_mem hmem
      have hrecord' := List.getElem?_eq_getElem hidx
      have hrecord := List.getElem?_eq_getElem (hlength ▸ hidx)
      obtain ⟨hvalueLen, hnonzero, hregister⟩ := hobserved idx _ _ hrecord hrecord'
      exact ⟨hvalueLen ▸ hregister.value.copyable hnonzero,
        hvalueLen ▸ hregister.maximum.copyable hnonzero,
        hvalueLen ▸ hregister.average.copyable hnonzero⟩
  have hsingles := hdynamic.singleBodies
  rw [hsame] at hsingles
  rw [hsingles]
  congr 1
  refine List.ext_getElem (by simp [hlength]) fun idx hleft hright => ?_
  rw [List.length_map] at hleft
  have hrecord' := List.getElem?_eq_getElem hleft
  have hrecord := List.getElem?_eq_getElem (hlength ▸ hleft)
  obtain ⟨hvalueLen, -, hregister⟩ := hobserved idx _ _ hrecord hrecord'
  rw [List.getElem_map, List.getElem_mapIdx, hregister.dataBytes hvalueLen]

end Runs

def temperaturePass : SensorPass where
  scVersion := [4, 4, 35, 0]
  fptScVersion := [4, 4, 35]
  locked := true
  read := fun repo idx => if repo = 1 then
      some { sensorValueSize := 2, snsrValue := [UInt8.ofNat (30 + idx), 0, 0, 0]
             snsrSatus := vmcSnsrStateNormal, length_snsrValue := rfl }
    else none
  length_scVersion := rfl
  length_fptScVersion := rfl

end Vmr.Asdm
