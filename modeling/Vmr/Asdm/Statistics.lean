import Vmr.Asdm.Request
import Vmr.Lib.RunningMean
import Vmr.Lib.Word

/-!
# The statistics of a sensor

`Update_Sensor_Value` stores a reading in the record of its sensor and, where
the status of the reading is normal, carries the maximum and the average of the
readings along.  The sums are those of 32-bit words, whatever the width of the
value; a division by zero stops the model.
-/

namespace Vmr.Asdm

open Vmr.Lib

/-! ## Readings -/

def vmcSnsrStateNormal : UInt8 := 1

structure SnsrRead where
  snsrValue : List UInt8
  sensorValueSize : UInt8
  snsrSatus : UInt8
  length_snsrValue : snsrValue.length = 4

def copyOver (destination source : Option (List UInt8)) (size : Nat) : Checked (List UInt8) :=
  match destination, source with
  | some old, some new =>
      if size = 0 then .error .assertion
      else if new.length < size ∨ old.length < size then .error .outside
      else .ok (new.take size ++ old.drop size)
  | _, _ => .error .assertion

def loadWord (field : Option (List UInt8)) (size : Nat) : Checked UInt32 :=
  match field with
  | none => .error .outside
  | some bytes =>
      if bytes.length < size then .error .outside
      else .ok (UInt32.ofNat (littleEndian (bytes.take size)))

def storeWord (field : Option (List UInt8)) (size : Nat) (word : UInt32) :
    Checked (List UInt8) :=
  match field with
  | none => .error .outside
  | some bytes =>
      if bytes.length < size then .error .outside
      else .ok (lowBytes size word.toNat ++ bytes.drop size)

def divide (dividend divisor : UInt32) : Checked UInt32 :=
  if divisor = 0 then .error .assertion else .ok (dividend / divisor)

/-! ## The update -/

def updatedMaxValue (size : Nat) (record : SensorRecord) : Checked (Option (List UInt8)) := do
  let value ← loadWord record.sensorValue size
  let maxValue ← loadWord record.sensorMaxValue size
  if maxValue < value then some <$> copyOver record.sensorMaxValue record.sensorValue size
  else return record.sensorMaxValue

def updatedAverageValue (size : Nat) (record : SensorRecord) : Checked (List UInt8) := do
  let average ← loadWord record.sensorAverageValue size
  let less ← divide average record.sampleCount
  let value ← loadWord record.sensorValue size
  let more ← divide value record.sampleCount
  storeWord record.sensorAverageValue size (average - less + more)

/-- The blocks for `u32`, `u16` and `u8`; a reading of another size changes nothing here. -/
def updateStatistics (size : Nat) (record : SensorRecord) : Checked SensorRecord :=
  if size = 4 ∨ size = 2 ∨ size = 1 then do
    let sensorMaxValue ← updatedMaxValue size record
    let sensorAverageValue ← updatedAverageValue size record
    return { record with sensorMaxValue, sensorAverageValue := some sensorAverageValue }
  else return record

def storeReading (info : SnsrRead) (record : SensorRecord) : Checked SensorRecord :=
  if info.sensorValueSize ≠ 0 ∧ record.sensorValue.isSome then do
    let value ← copyOver record.sensorValue (some info.snsrValue) info.sensorValueSize.toNat
    return { record with sensorValue := some value }
  else return record

def updateRecord (info : SnsrRead) (record : SensorRecord) : Checked SensorRecord := do
  let record ← storeReading info record
  if 0 < record.sampleCount then
    let record := { record with sensorStatus := info.snsrSatus }
    if record.sensorStatus = vmcSnsrStateNormal then
      let record ← updateStatistics info.sensorValueSize.toNat record
      return { record with sampleCount := record.sampleCount + 1 }
    else return record
  else return record

structure UpdateCall where
  repoType : UInt8
  sensorIdx : UInt8
  /-- `none` for NULL. -/
  snsrInfo : Option SnsrRead

def withRecord (sdrInfo : List Sdr) (repo : Nat) (sdr : Sdr) (idx : Nat)
    (record : SensorRecord) : List Sdr :=
  sdrInfo.set repo { sdr with sensorRecord := sdr.sensorRecord.set idx record }

section Update

variable (headers : List AsdmHeader)

def updateSensorValue (sdrInfo : List Sdr) (call : UpdateCall) : Checked (Int × List Sdr) :=
  match call.snsrInfo with
  | none => return (-1, sdrInfo)
  | some info =>
      let repoIndex := getSdrIndex headers call.repoType
      if repoIndex = -1 then return (-1, sdrInfo)
      -- `sensorRecord[sensorIdx - 1]` lies before the records
      else if call.sensorIdx = 0 then .error .outside
      else do
        let idx := call.sensorIdx.toNat - 1
        let sdr ← sdrAt sdrInfo repoIndex
        let record ← sdr.recordAt idx
        let record ← updateRecord info record
        return (0, withRecord sdrInfo repoIndex.toNat sdr idx record)

def updateSensorValues (sdrInfo : List Sdr) (calls : List UpdateCall) : Checked (List Sdr) :=
  calls.foldlM (fun sdrInfo call => Prod.snd <$> updateSensorValue headers sdrInfo call) sdrInfo

end Update

/-! ## One reading -/

def SnsrRead.number (info : SnsrRead) : Nat :=
  littleEndian (info.snsrValue.take info.sensorValueSize.toNat)

def SnsrRead.counted (info : SnsrRead) : List Nat :=
  if info.snsrSatus = vmcSnsrStateNormal then [info.number] else []

def Holds (field : Option (List UInt8)) (size number : Nat) : Prop :=
  ∃ bytes, field = some bytes ∧ bytes.length = size ∧ littleEndian bytes = number

/-- The record has the statistics of the values. -/
structure Tracks (size : Nat) (record : SensorRecord) (values : List Nat) : Prop where
  value : ∃ number, Holds record.sensorValue size number
  maximum : Holds record.sensorMaxValue size (values.foldl max 0)
  average : Holds record.sensorAverageValue size (meanFrom 0 1 values)
  count : record.sampleCount.toNat = 1 + values.length

section Words

variable {field : Option (List UInt8)} {size number : Nat}

private theorem Holds.lt (h : Holds field size number) : number < 2 ^ (8 * size) := by
  obtain ⟨bytes, -, hlength, hnumber⟩ := h
  exact hlength ▸ hnumber ▸ littleEndian_lt bytes

private theorem Holds.lt_word (h : Holds field size number) (hsize : size ≤ 4) : number < 2 ^ 32 :=
  Nat.lt_of_lt_of_le h.lt (Nat.pow_le_pow_right (by decide) (by omega))

theorem Holds.loadWord (h : Holds field size number) :
    loadWord field size = .ok (UInt32.ofNat number) := by
  obtain ⟨bytes, hfield, hlength, hnumber⟩ := h
  simp [Asdm.loadWord, hfield, ← hlength, hnumber]

theorem Holds.storeWord (h : Holds field size number) (word : UInt32)
    (hword : word.toNat < 2 ^ (8 * size)) :
    ∃ bytes, storeWord field size word = .ok bytes ∧ Holds (some bytes) size word.toNat := by
  obtain ⟨bytes, hfield, hlength, -⟩ := h
  refine ⟨lowBytes size word.toNat, ?_, _, rfl, by simp, ?_⟩
  · simp [Asdm.storeWord, hfield, ← hlength]
  · rw [littleEndian_lowBytes, Nat.mod_eq_of_lt hword]

theorem Holds.copyOver {source : List UInt8} (h : Holds field size number) (hsize : size ≠ 0)
    (hsource : size ≤ source.length) :
    ∃ bytes, copyOver field (some source) size = .ok bytes ∧
      Holds (some bytes) size (littleEndian (source.take size)) := by
  obtain ⟨bytes, hfield, hlength, -⟩ := h
  refine ⟨source.take size, ?_, _, rfl, by simpa using hsource, rfl⟩
  have hroom : ¬ (source.length < size ∨ bytes.length < size) := by omega
  simp only [Asdm.copyOver, hfield, if_neg hsize, if_neg hroom]
  simp [← hlength]

end Words

theorem toNat_mean {average value count : UInt32} (hcount : 0 < count.toNat) :
    (average - average / count + value / count).toNat =
      meanStep average.toNat count.toNat value.toNat := by
  have hless : average / count ≤ average := by
    rw [UInt32.le_iff_toNat_le, UInt32.toNat_div]
    exact Nat.div_le_self _ _
  have hbound : meanStep average.toNat count.toNat value.toNat < 2 ^ 32 := by
    have hbetween := meanStep_between hcount ⟨Nat.zero_le _, Nat.le_sub_one_of_lt average.toNat_lt⟩
      ⟨Nat.zero_le _, Nat.le_sub_one_of_lt value.toNat_lt⟩
    omega
  unfold meanStep at hbound ⊢
  rw [UInt32.toNat_add, UInt32.toNat_sub_of_le _ _ hless, UInt32.toNat_div, UInt32.toNat_div]
  exact Nat.mod_eq_of_lt hbound

private theorem updatedMaxValue_holds {record : SensorRecord} {size maximum value : Nat}
    (hmaximum : Holds record.sensorMaxValue size maximum)
    (hvalue : Holds record.sensorValue size value) (hsize : size ≠ 0) (hmax : size ≤ 4) :
    ∃ field, updatedMaxValue size record = .ok field ∧ Holds field size (max maximum value) := by
  have hlt : UInt32.ofNat maximum < UInt32.ofNat value ↔ maximum < value := by
    rw [UInt32.lt_iff_toNat_lt, UInt32.toNat_ofNat_of_lt' (hmaximum.lt_word hmax),
      UInt32.toNat_ofNat_of_lt' (hvalue.lt_word hmax)]
  simp only [updatedMaxValue, hvalue.loadWord, hmaximum.loadWord, checked_ok_bind, hlt]
  obtain ⟨bytes, hbytes, hlength, hnumber⟩ := hvalue
  split
  · rename_i hlarger
    obtain ⟨copied, hcopied, hholds⟩ := hmaximum.copyOver hsize (Nat.le_of_eq hlength.symm)
    refine ⟨some copied, by rw [hbytes, hcopied]; rfl, ?_⟩
    rw [Nat.max_eq_right (Nat.le_of_lt hlarger)]
    rwa [← hlength, List.take_length, hnumber, hlength] at hholds
  · rename_i hsmaller
    refine ⟨record.sensorMaxValue, rfl, ?_⟩
    rwa [Nat.max_eq_left (Nat.le_of_not_lt hsmaller)]

private theorem updatedAverageValue_holds {record : SensorRecord} {size average value : Nat}
    (haverage : Holds record.sensorAverageValue size average)
    (hvalue : Holds record.sensorValue size value) (hmax : size ≤ 4)
    (hcount : 0 < record.sampleCount.toNat) :
    ∃ bytes, updatedAverageValue size record = .ok bytes ∧
      Holds (some bytes) size (meanStep average record.sampleCount.toNat value) := by
  have hnonzero : record.sampleCount ≠ 0 := by
    intro hzero
    rw [hzero] at hcount
    exact absurd hcount (by decide)
  have hbound := meanStep_between hcount ⟨Nat.zero_le _, Nat.le_sub_one_of_lt haverage.lt⟩
    ⟨Nat.zero_le _, Nat.le_sub_one_of_lt hvalue.lt⟩
  have hpos := Nat.two_pow_pos (8 * size)
  have hmean := @toNat_mean (UInt32.ofNat average) (UInt32.ofNat value) _ hcount
  rw [UInt32.toNat_ofNat_of_lt' (haverage.lt_word hmax),
    UInt32.toNat_ofNat_of_lt' (hvalue.lt_word hmax)] at hmean
  obtain ⟨bytes, hstored, hholds⟩ := haverage.storeWord _ (by rw [hmean]; omega)
  refine ⟨bytes, ?_, hmean ▸ hholds⟩
  simpa only [updatedAverageValue, divide, haverage.loadWord, hvalue.loadWord, checked_ok_bind,
    if_neg hnonzero] using hstored

private theorem storeReading_tracks {size : Nat} {record : SensorRecord} {values : List Nat}
    (h : Tracks size record values) {info : SnsrRead} (hsize : size ≠ 0) (hmax : size ≤ 4)
    (hinfo : info.sensorValueSize.toNat = size) :
    ∃ record', storeReading info record = .ok record' ∧ Tracks size record' values ∧
      Holds record'.sensorValue size info.number := by
  obtain ⟨old, hvalue⟩ := h.value
  have hfour : size ≤ info.snsrValue.length := info.length_snsrValue ▸ hmax
  obtain ⟨bytes, hcopied, hholds⟩ := hvalue.copyOver hsize hfour
  have hsome : record.sensorValue.isSome := by
    obtain ⟨stored, hstored, -⟩ := hvalue
    simp [hstored]
  have hnonzero : info.sensorValueSize ≠ 0 := by
    intro hzero
    rw [hzero] at hinfo
    exact hsize hinfo.symm
  refine ⟨{ record with sensorValue := some bytes }, ?_, ⟨⟨_, hholds⟩, h.maximum, h.average,
    h.count⟩, ?_⟩
  · rw [storeReading, if_pos ⟨hnonzero, hsome⟩, hinfo, hcopied]
    rfl
  · rw [SnsrRead.number, hinfo]
    exact hholds

private theorem updateStatistics_tracks {size value : Nat} {record : SensorRecord}
    {values : List Nat}
    (h : Tracks size record values) (hvalue : Holds record.sensorValue size value)
    (hsize : size = 1 ∨ size = 2 ∨ size = 4) :
    ∃ record', updateStatistics size record = .ok record' ∧
      record'.sensorValue = record.sensorValue ∧
      Holds record'.sensorMaxValue size ((values ++ [value]).foldl max 0) ∧
      Holds record'.sensorAverageValue size (meanFrom 0 1 (values ++ [value])) ∧
      record'.sampleCount = record.sampleCount := by
  have hcount : 0 < record.sampleCount.toNat := by
    rw [h.count]
    omega
  obtain ⟨maximum, hmaximum, hmaximumHolds⟩ :=
    updatedMaxValue_holds h.maximum hvalue (by omega) (by omega)
  obtain ⟨average, haverage, haverageHolds⟩ :=
    updatedAverageValue_holds h.average hvalue (by omega) hcount
  refine ⟨{ record with sensorMaxValue := maximum, sensorAverageValue := some average }, ?_, rfl,
    ?_, ?_, rfl⟩
  · rw [updateStatistics, if_pos (by omega), hmaximum, haverage]
    rfl
  · simpa using hmaximumHolds
  · rw [meanFrom_append, ← h.count]
    exact haverageHolds

theorem updateRecord_tracks {size : Nat} {record : SensorRecord} {values : List Nat}
    (h : Tracks size record values) {info : SnsrRead} (hsize : size = 1 ∨ size = 2 ∨ size = 4)
    (hinfo : info.sensorValueSize.toNat = size) (hroom : values.length + 2 < 2 ^ 32) :
    ∃ record', updateRecord info record = .ok record' ∧
      Tracks size record' (values ++ info.counted) := by
  obtain ⟨stored, hstored, htracks, hvalue⟩ :=
    storeReading_tracks h (by omega) (by omega) hinfo
  have hpos : 0 < stored.sampleCount := by
    rw [UInt32.lt_iff_toNat_lt, htracks.count]
    simp
  rw [updateRecord, hstored, checked_ok_bind, if_pos hpos]
  simp only [SnsrRead.counted]
  split
  · obtain ⟨updated, hupdated, hsame, hmaximum, haverage, hcount⟩ :=
      @updateStatistics_tracks _ _ { stored with sensorStatus := info.snsrSatus } _
        ⟨htracks.value, htracks.maximum, htracks.average, htracks.count⟩ hvalue hsize
    rw [hinfo, hupdated]
    refine ⟨{ updated with sampleCount := updated.sampleCount + 1 }, rfl, ⟨_, hsame ▸ hvalue⟩,
      hmaximum, haverage, ?_⟩
    have hcountNat := htracks.count
    rw [UInt32.toNat_add, hcount, hcountNat]
    simp
    omega
  · refine ⟨_, rfl, ?_⟩
    rw [List.append_nil]
    exact ⟨htracks.value, htracks.maximum, htracks.average, htracks.count⟩

/-! ## Runs -/

structure Located (headers : List AsdmHeader) (sdrInfo : List Sdr) (repoType sensorIdx : UInt8)
    (repo idx : Nat) (sdr : Sdr) (record : SensorRecord) : Prop where
  repoIndex : getSdrIndex headers repoType = (repo : Int)
  repository : sdrInfo[repo]? = some sdr
  recordIndex : sensorIdx.toNat = idx + 1
  stored : sdr.sensorRecord[idx]? = some record

section Runs

variable {headers : List AsdmHeader} {sdrInfo : List Sdr} {repoType sensorIdx : UInt8}
  {repo idx : Nat} {sdr : Sdr} {record record' : SensorRecord}

theorem Located.updateSensorValue
    (h : Located headers sdrInfo repoType sensorIdx repo idx sdr record) {info : SnsrRead}
    (hupdate : updateRecord info record = .ok record') :
    updateSensorValue headers sdrInfo ⟨repoType, sensorIdx, some info⟩ =
      .ok (0, withRecord sdrInfo repo sdr idx record') := by
  have hindex : sensorIdx ≠ 0 := by
    intro hzero
    have hidx := h.recordIndex
    rw [hzero] at hidx
    cases hidx
  have hidx : sensorIdx.toNat - 1 = idx := by
    rw [h.recordIndex, Nat.add_sub_cancel]
  have hsdr : sdrAt sdrInfo (repo : Int) = .ok sdr := by
    simp [sdrAt, h.repository]
  have hrecord : sdr.recordAt idx = .ok record := by
    simp [Sdr.recordAt, h.stored]
  have hfound : (repo : Int) ≠ -1 := by omega
  simp only [Asdm.updateSensorValue, h.repoIndex, if_neg hfound, if_neg hindex, hidx, hsdr,
    checked_ok_bind, hrecord, hupdate]
  rfl

theorem Located.withRecord (h : Located headers sdrInfo repoType sensorIdx repo idx sdr record) :
    Located headers (withRecord sdrInfo repo sdr idx record') repoType sensorIdx repo idx
      { sdr with sensorRecord := sdr.sensorRecord.set idx record' } record' := by
  obtain ⟨hsdr, -⟩ := List.getElem?_eq_some_iff.1 h.repository
  obtain ⟨hrecord, -⟩ := List.getElem?_eq_some_iff.1 h.stored
  exact ⟨h.repoIndex, by simp [Asdm.withRecord, hsdr], h.recordIndex, by simp [hrecord]⟩

theorem Located.withRecord_self
    (h : Located headers sdrInfo repoType sensorIdx repo idx sdr record) :
    Asdm.withRecord sdrInfo repo sdr idx record = sdrInfo := by
  obtain ⟨hrepo, rfl⟩ := List.getElem?_eq_some_iff.1 h.repository
  obtain ⟨hidx, rfl⟩ := List.getElem?_eq_some_iff.1 h.stored
  rw [Asdm.withRecord, List.set_getElem_self]
  exact List.set_getElem_self hrepo

def normals (readings : List SnsrRead) : List Nat := readings.flatMap SnsrRead.counted

theorem length_normals_le (readings : List SnsrRead) :
    (normals readings).length ≤ readings.length := by
  induction readings with
  | nil => simp [normals]
  | cons info readings ih =>
      have hone : info.counted.length ≤ 1 := by
        unfold SnsrRead.counted
        split <;> simp
      rw [normals, List.flatMap_cons, ← normals, List.length_append, List.length_cons]
      omega

private theorem updateSensorValues_tracks {size : Nat} {values : List Nat}
    (h : Located headers sdrInfo repoType sensorIdx repo idx sdr record)
    (htracks : Tracks size record values) (hsize : size = 1 ∨ size = 2 ∨ size = 4)
    (readings : List SnsrRead) (hreadings : ∀ info ∈ readings, info.sensorValueSize.toNat = size)
    (hroom : values.length + readings.length + 1 < 2 ^ 32) :
    ∃ record', updateSensorValues headers sdrInfo
        (readings.map fun info => ⟨repoType, sensorIdx, some info⟩) =
          .ok (withRecord sdrInfo repo sdr idx record') ∧
      Tracks size record' (values ++ normals readings) := by
  induction readings generalizing sdrInfo sdr record values with
  | nil =>
      refine ⟨record, ?_, by simpa [normals] using htracks⟩
      rw [h.withRecord_self]
      rfl
  | cons info readings ih =>
      rw [List.forall_mem_cons] at hreadings
      rw [List.length_cons] at hroom
      obtain ⟨updated, hupdated, hnext⟩ :=
        updateRecord_tracks htracks hsize hreadings.1 (by omega)
      have hone : (values ++ info.counted).length ≤ values.length + 1 := by
        rw [List.length_append, SnsrRead.counted]
        split <;> simp
      obtain ⟨record', hrun, hlast⟩ := ih h.withRecord hnext hreadings.2 (by omega)
      refine ⟨record', ?_, ?_⟩
      · rw [updateSensorValues, List.map_cons, List.foldlM_cons, h.updateSensorValue hupdated]
        change updateSensorValues headers (withRecord sdrInfo repo sdr idx updated) _ = _
        rw [hrun]
        simp [withRecord]
      · rw [List.append_assoc] at hlast
        exact hlast

end Runs

/-! ## From the initialisation on -/

theorem holds_zeros (size : Nat) : Holds (some (List.replicate size 0)) size 0 := by
  refine ⟨_, rfl, by simp, ?_⟩
  induction size with
  | zero => rfl
  | succ size ih => simp [List.replicate_succ, littleEndian, ih]

/-- What the code says about the normal readings of a sensor. -/
structure Statistics (size : Nat) (readings : List SnsrRead) (record : SensorRecord) : Prop where
  maximum : Holds record.sensorMaxValue size ((normals readings).foldl max 0)
  /-- The average is the one of unbounded numbers, so no word of the sums wrapped around. -/
  average : Holds record.sensorAverageValue size (meanFrom 0 1 (normals readings))
  between : normals readings ≠ [] →
    ∃ low ∈ normals readings, ∃ high ∈ normals readings,
      low ≤ meanFrom 0 1 (normals readings) ∧ meanFrom 0 1 (normals readings) ≤ high
  sampleCount : record.sampleCount.toNat = 1 + (normals readings).length

section Init

variable {malloc : Allocation → Bool} {behind : Memory} {headers : List AsdmHeader}
  {metaData : List SensorMetaData} {beyond : Nat → SensorMetaData} {sdrInfo : List Sdr}
  {writes : List RecordWrite} {repoType sensorIdx : UInt8} {repo idx : Nat} {sdr : Sdr}
  {record : SensorRecord}

theorem tracks_init
    (hinit : initAsdm malloc behind headers metaData beyond = .ok (sdrInfo, writes))
    (h : Located headers sdrInfo repoType sensorIdx repo idx sdr record)
    (hdynamic : record.sampleCount = 1) : Tracks record.valueLen record [] := by
  have hcomplete := List.forall₂_iff_get.1 (initAsdm_complete hinit)
  obtain ⟨hsdr, rfl⟩ := List.getElem?_eq_some_iff.1 h.repository
  have hwellFormed := (hcomplete.2 repo (hcomplete.1 ▸ hsdr) hsdr).wellFormed record
    (List.mem_of_getElem? h.stored)
  have hpos : 0 < record.sampleCount := hdynamic ▸ by decide
  obtain ⟨bytes, hvalue, hlength⟩ := hwellFormed.value
  have hmaximum := hwellFormed.maxValue
  have haverage := hwellFormed.averageValue
  rw [if_pos hpos] at hmaximum haverage
  constructor
  · exact ⟨_, bytes, hvalue, hlength, rfl⟩
  · rw [hmaximum]
    exact holds_zeros _
  · rw [haverage]
    exact holds_zeros _
  · rw [hdynamic]
    rfl

/-- Behind the readings the stored average is less than 2 away from their mean. -/
def AverageNear (headers : List AsdmHeader) (sdrInfo : List Sdr) (repoType sensorIdx : UInt8)
    (size : Nat) (readings : List SnsrRead) : Prop :=
  ∃ sdrInfo' repo idx sdr record average,
    updateSensorValues headers sdrInfo
      (readings.map fun info => ⟨repoType, sensorIdx, some info⟩) = .ok sdrInfo' ∧
    Located headers sdrInfo' repoType sensorIdx repo idx sdr record ∧
    Holds record.sensorAverageValue size average ∧
    NearMean 2 average (readings.map SnsrRead.number)

theorem Holds.unique {field : Option (List UInt8)} {size number number' : Nat}
    (h : Holds field size number) (h' : Holds field size number') : number = number' := by
  obtain ⟨bytes, hfield, -, hnumber⟩ := h
  obtain ⟨bytes', hfield', -, hnumber'⟩ := h'
  rw [hfield] at hfield'
  cases hfield'
  exact hnumber ▸ hnumber'

theorem Located.unique {repo' idx' : Nat} {sdr' : Sdr} {record' : SensorRecord}
    (h : Located headers sdrInfo repoType sensorIdx repo idx sdr record)
    (h' : Located headers sdrInfo repoType sensorIdx repo' idx' sdr' record') :
    record = record' := by
  have hrepo : repo = repo' := by
    have heq := h.repoIndex.symm.trans h'.repoIndex
    omega
  have hidx : idx = idx' := by
    have heq := h.recordIndex.symm.trans h'.recordIndex
    omega
  subst hrepo hidx
  have hsdr := h'.repository
  rw [h.repository] at hsdr
  cases hsdr
  have hrecord := h'.stored
  rw [h.stored] at hrecord
  exact Option.some.inj hrecord

private theorem normals_of_normal {readings : List SnsrRead}
    (hnormal : ∀ info ∈ readings, info.snsrSatus = vmcSnsrStateNormal) :
    normals readings = readings.map SnsrRead.number := by
  induction readings with
  | nil => rfl
  | cons info readings ih =>
      rw [List.forall_mem_cons] at hnormal
      rw [normals, List.flatMap_cons, ← normals, ih hnormal.2, SnsrRead.counted,
        if_pos hnormal.1]
      rfl

private theorem averageNear_iff_nearMean
    (hinit : initAsdm malloc behind headers metaData beyond = .ok (sdrInfo, writes))
    (hlocated : Located headers sdrInfo repoType sensorIdx repo idx sdr record)
    (hdynamic : record.sampleCount = 1)
    (hsize : record.valueLen = 1 ∨ record.valueLen = 2 ∨ record.valueLen = 4)
    (readings : List SnsrRead)
    (hreadings : ∀ info ∈ readings, info.sensorValueSize.toNat = record.valueLen)
    (hnormal : ∀ info ∈ readings, info.snsrSatus = vmcSnsrStateNormal)
    (hlength : readings.length < 2 ^ 32 - 1) :
    AverageNear headers sdrInfo repoType sensorIdx record.valueLen readings ↔
      NearMean 2 (meanFrom 0 1 (readings.map SnsrRead.number))
        (readings.map SnsrRead.number) := by
  obtain ⟨record', hrun, htracks⟩ := updateSensorValues_tracks hlocated
    (tracks_init hinit hlocated hdynamic) hsize readings hreadings (by simp; omega)
  have haverage := htracks.average
  rw [List.nil_append, normals_of_normal hnormal] at haverage
  constructor
  · rintro ⟨_, repo', idx', sdr', found, average, hrun', hlocated', hholds, hnear⟩
    rw [hrun] at hrun'
    cases hrun'
    rw [← hlocated.withRecord.unique hlocated'] at hholds
    exact haverage.unique hholds ▸ hnear
  · exact fun hnear => ⟨_, repo, idx, _, record', _, hrun, hlocated.withRecord, haverage, hnear⟩

/--
The average of normal readings is near their mean exactly if what the steps
dropped adds up to less than 2 for each reading, as it does where no step drops
more than 2.
-/
theorem averageNear_iff
    (hinit : initAsdm malloc behind headers metaData beyond = .ok (sdrInfo, writes))
    (hlocated : Located headers sdrInfo repoType sensorIdx repo idx sdr record)
    (hdynamic : record.sampleCount = 1)
    (hsize : record.valueLen = 1 ∨ record.valueLen = 2 ∨ record.valueLen = 4)
    (readings : List SnsrRead) (hsome : readings ≠ [])
    (hreadings : ∀ info ∈ readings, info.sensorValueSize.toNat = record.valueLen)
    (hnormal : ∀ info ∈ readings, info.snsrSatus = vmcSnsrStateNormal)
    (hlength : readings.length < 2 ^ 32 - 1) :
    (AverageNear headers sdrInfo repoType sensorIdx record.valueLen readings ↔
      |droppedFrom 0 1 (readings.map SnsrRead.number)| < 2 * readings.length) ∧
    (SmallDrops 2 0 1 (readings.map SnsrRead.number) →
      AverageNear headers sdrInfo repoType sensorIdx record.valueLen readings) := by
  have hmap : readings.map SnsrRead.number ≠ [] := by simpa using hsome
  have hnear := averageNear_iff_nearMean hinit hlocated hdynamic hsize readings hreadings hnormal
    hlength
  constructor
  · rw [hnear, nearMean_meanFrom_iff 2 hmap, List.length_map]
    rfl
  · exact fun hdrops => hnear.2 (hdrops.nearMean (by decide) hmap)

end Init

/-! ## A temperature of V80 -/

def temperatureRead (value snsrSatus : UInt8) : SnsrRead where
  snsrValue := [value, 0, 0, 0]
  sensorValueSize := 2
  snsrSatus
  length_snsrValue := rfl

theorem v80_board_temperature :
    ∃ sdrInfo writes sdr record, v80.init = .ok (sdrInfo, writes) ∧
      Located v80.headers sdrInfo 0xC1 1 1 0 sdr record ∧ record.sampleCount = 1 ∧
      record.valueLen = 2 := by
  have hrun : v80.init.toOption.any (fun built => built.1[1]?.any fun sdr =>
      sdr.sensorRecord[0]?.any fun record => decide (record.sampleCount = 1) &&
        decide (record.valueLen = 2)) = true := by
    decide +kernel
  match hinit : v80.init with
  | .error stop => simp [hinit, Except.toOption] at hrun
  | .ok (sdrInfo, writes) =>
      rw [hinit] at hrun
      simp only [Except.toOption, Option.any_some, Option.any_eq_true, Bool.and_eq_true,
        decide_eq_true_eq] at hrun
      obtain ⟨sdr, hsdr, record, hrecord, hdynamic, hsize⟩ := hrun
      exact ⟨sdrInfo, writes, sdr, record, rfl, ⟨by decide +kernel, hsdr, rfl, hrecord⟩,
        hdynamic, hsize⟩

/-- 30 and 45 degrees have the stored average 37. -/
theorem v80_board_temperature_averageNear :
    ∃ sdrInfo writes, v80.init = .ok (sdrInfo, writes) ∧
      AverageNear v80.headers sdrInfo 0xC1 1 2 [temperatureRead 30 1, temperatureRead 45 1] := by
  obtain ⟨sdrInfo, writes, sdr, record, hinit, hlocated, hdynamic, hsize⟩ := v80_board_temperature
  have hnear := averageNear_iff hinit hlocated hdynamic (.inr (.inl hsize))
    [temperatureRead 30 1, temperatureRead 45 1] (by simp)
    (by simp [hsize, temperatureRead]) (by simp [temperatureRead, vmcSnsrStateNormal]) (by decide)
  rw [hsize] at hnear
  refine ⟨sdrInfo, writes, hinit, hnear.2 ?_⟩
  simp [SmallDrops, dropped, temperatureRead, SnsrRead.number, littleEndian]

/-- The readings 0, 1, 2, 3 and 4 have the mean 2 and the stored average 0. -/
theorem v80_board_temperature_not_averageNear :
    ∃ sdrInfo writes, v80.init = .ok (sdrInfo, writes) ∧
      ¬ AverageNear v80.headers sdrInfo 0xC1 1 2
        ([0, 1, 2, 3, 4].map fun value => temperatureRead value 1) := by
  obtain ⟨sdrInfo, writes, sdr, record, hinit, hlocated, hdynamic, hsize⟩ := v80_board_temperature
  have hnear := averageNear_iff_nearMean hinit hlocated hdynamic (.inr (.inl hsize))
    ([0, 1, 2, 3, 4].map fun value => temperatureRead value 1)
    (by simp [hsize, temperatureRead]) (by simp [temperatureRead, vmcSnsrStateNormal]) (by decide)
  rw [hsize] at hnear
  refine ⟨sdrInfo, writes, hinit, fun h => ?_⟩
  have hmean := hnear.1 h
  rw [nearMean_meanFrom_iff 2 (by simp)] at hmean
  revert hmean
  decide

end Vmr.Asdm
