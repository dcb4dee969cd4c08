import Vmr.Vmc.MacTable

/-!
# What a successful read of the EEPROM says

All reads share one status, which each of them overwrites, and a byte that looks like an
unprogrammed one becomes a zero also where the field is no text.  So a success says that
the last byte of the version, of the product name and of the last field could be read.
-/

namespace Vmr.Vmc.Eeprom

open Vmr.Lib

namespace Field

def binary : Field → Bool
  | .boardTotMacId | .boardMac | .boardConfigMode | .mfgDate | .uuid | .pcieInfo | .maxPowerMode
  | .oemidSize | .capabilityWord => true
  | .productName | .boardRev | .boardSerial | .boardActPas | .partNum | .memSize => false

/-- Only the MAC is read as it is. -/
def padded (field : Field) : Bool := field != .boardMac

end Field

def byteOf (version : Version) (content : UInt16 → UInt8) (field : Field) (i : Nat) : UInt8 :=
  content ((version.offsetSize field).offset + UInt16.ofNat (0x100 * i))

def presentFields (version : Version) : List Field :=
  [.productName, .boardRev, .boardSerial] ++
    (if (version.offsetSize .boardTotMacId).offset ≠ notPresent then [.boardTotMacId] else []) ++
    [.boardMac] ++ fieldsBehindMac version

/-- A text agrees with its bytes up to the first one that is not programmed. -/
structure Agrees (content : UInt16 → UInt8) (boardInfo : Memory) (version : Version) : Prop where
  characters : ∀ i < 3, (∀ j ≤ i, content (UInt16.ofNat (0x100 * j)) ≠ eepromDefaultVal) →
    boardInfo i = content (UInt16.ofNat (0x100 * i))
  text : ∀ field ∈ presentFields version, field.binary = false →
    ∀ i < (version.offsetSize field).size,
      (∀ j ≤ i, byteOf version content field j ≠ eepromDefaultVal) →
        boardInfo (field.place + i) = byteOf version content field i
  binary : ∀ field ∈ presentFields version, field.binary = true →
    ∀ i < (version.offsetSize field).size,
      boardInfo (field.place + i) = byteOf version content field i

/-- What a success is to say. -/
def Truthful (device : Device) (s : BoardRun) : Prop :=
  (versalEepromReadBoardInfo device s).1 = xstSuccess →
    device.Succeeds s.transfers (versalEepromReadBoardInfo device s).2.transfers ∧
      ∃ version, versionOf device.content = some version ∧
        Agrees device.content (versalEepromReadBoardInfo device s).2.boardInfo version

/-! ## The transfers of the function -/

def transfersOf (version : Version) : Nat :=
  4 + (version.offsetSize .productName).size + totalSize version [.boardRev, .boardSerial] +
    macCountTransfers version + 6 + totalSize version (fieldsBehindMac version)

def characterLeft (device : Device) (s : BoardRun) (i : Nat) : UInt8 :=
  unpadded true ((device.transfer (s.transfers + 1 + i)).value
    (device.content (UInt16.ofNat (0x100 * i))) (s.boardInfo i))

/-- The three transfers that decide, and a known version. -/
def LastBytesRead (device : Device) (s : BoardRun) (version : Version) : Prop :=
  device.transfer (s.transfers + 3) = .success ∧
    detect (characterLeft device s 0) (characterLeft device s 1) (characterLeft device s 2) =
      some version ∧
    device.transfer (s.transfers + 4 + (version.offsetSize .productName).size - 1) = .success ∧
    device.transfer (s.transfers + transfersOf version - 1) = .success

section Status

variable {device : Device} {s : BoardRun} {version : Version}

private theorem status_eq_success {transfer : Transfer} :
    transfer.status = xstSuccess ↔ transfer = .success := by
  cases transfer with
  | success => simp [Transfer.status]
  | failure left => simp [Transfer.status, xstFailure, xstSuccess]

private theorem boardInfo_readVersion {i : Nat} (hi : i < 3) :
    (readVersion device s).2.boardInfo i = characterLeft device s i := by
  have h := boardInfo_updateBoardInfoData device 0 0x0000 3 (verifyChecksum device s).2 hi
  rw [Nat.zero_add, UInt16.zero_add] at h
  exact h

private theorem foundVersion_readVersion :
    foundVersion (readVersion device s).2.boardInfo =
      detect (characterLeft device s 0) (characterLeft device s 1) (characterLeft device s 2) := by
  rw [foundVersion, boardInfo_readVersion (by decide), boardInfo_readVersion (by decide),
    boardInfo_readVersion (by decide)]

private theorem status_readVersion :
    (readVersion device s).1 = xstSuccess ↔ device.transfer (s.transfers + 3) = .success := by
  rw [readVersion, status_updateBoardInfoData _ _ _ _ _ (by decide), status_eq_success]
  rfl

theorem size_pos (version : Version) :
    ∀ field ∈ presentFields version, 0 < (version.offsetSize field).size := by
  cases version <;> decide

private theorem transfers_readFields :
    (readFields device version s).2.transfers = s.transfers +
      totalSize version [.boardRev, .boardSerial] + macCountTransfers version + 6 +
      totalSize version (fieldsBehindMac version) := by
  rw [readFields, transfers_updateFields, transfers_fillMacTable, transfers_readMacCount,
    transfers_updateFields]

private theorem status_readFields :
    (readFields device version s).1 = xstSuccess ↔
      device.transfer ((readFields device version s).2.transfers - 1) = .success := by
  have hne : fieldsBehindMac version ≠ [] := by cases version <;> decide
  have hsize : ∀ field ∈ fieldsBehindMac version, 0 < (version.offsetSize field).size := by
    cases version <;> decide
  rw [transfers_readFields, readFields, status_updateFields hne hsize, status_eq_success,
    transfers_fillMacTable, transfers_readMacCount, transfers_updateFields]

private theorem status_updateField_productName :
    (updateField device version .productName (readVersion device s).2).1 = xstSuccess ↔
      device.transfer (s.transfers + 4 + (version.offsetSize .productName).size - 1) =
        .success := by
  have hsize : 0 < (version.offsetSize .productName).size := by cases version <;> decide
  rw [updateField, status_updateBoardInfoData _ _ _ _ _ hsize, status_eq_success,
    transfers_readVersion]

private theorem transfers_whole :
    (readFields device version (updateField device version .productName
      (readVersion device s).2).2).2.transfers = s.transfers + transfersOf version := by
  rw [transfers_readFields, updateField, transfers_updateBoardInfoData, transfers_readVersion,
    transfersOf]
  omega

private theorem status_eq_success_iff :
    (versalEepromReadBoardInfo device s).1 = xstSuccess ↔
      ∃ version, LastBytesRead device s version := by
  simp only [status_versalEepromReadBoardInfo, status_readVersion, foundVersion_readVersion,
    status_updateField_productName, status_readFields, transfers_whole, LastBytesRead,
    exists_and_left]

private theorem eq_readFields (h : LastBytesRead device s version) :
    versalEepromReadBoardInfo device s =
      readFields device version (updateField device version .productName
        (readVersion device s).2).2 :=
  versalEepromReadBoardInfo_of_found (status_readVersion.2 h.1)
    (foundVersion_readVersion.trans h.2.1) (status_updateField_productName.2 h.2.2.1)

end Status

/-! ## The fields, when no transfer fails -/

section Fields

variable {device : Device} {s : BoardRun} {version : Version}

private theorem boardInfo_readFields_below {other : Nat} (h : other < Field.boardRev.place) :
    (readFields device version s).2.boardInfo other = s.boardInfo other := by
  have hbehind : ∀ field ∈ fieldsBehindMac version, Field.boardRev.place ≤ field.place := by
    cases version <;> decide
  have hbefore : ∀ field ∈ [Field.boardRev, Field.boardSerial],
      Field.boardRev.place ≤ field.place := by decide
  have hcount : Field.boardRev.place ≤ Field.boardTotMacId.place := by decide
  have hmac : Field.boardRev.place ≤ Field.boardMac.place := by decide
  rw [readFields,
    boardInfo_updateFields_below _ _ fun field hfield =>
      Nat.lt_of_lt_of_le h (hbehind field hfield),
    boardInfo_fillMacTable_outside (.inl (by omega)), boardInfo_readMacCount_below _ (by omega),
    boardInfo_updateFields_below _ _ fun field hfield =>
      Nat.lt_of_lt_of_le h (hbefore field hfield)]

private theorem behind_padded (version : Version) :
    ∀ field ∈ fieldsBehindMac version, Field.boardActPas.place ≤ field.place ∧
      field.padded = true := by
  cases version <;> decide

private theorem behind_order (version : Version) :
    (fieldsBehindMac version).Pairwise (Field.Before version) := by
  cases version <;> decide

private theorem before_order (version : Version) :
    [Field.boardRev, Field.boardSerial].Pairwise (Field.Before version) ∧
      ∀ field ∈ [Field.boardRev, Field.boardSerial],
        field.place + (version.offsetSize field).size < Field.boardTotMacId.place ∧
          field.padded = true := by
  cases version <;> decide

private theorem mem_presentFields {field : Field} (h : field ∈ presentFields version) :
    field = .productName ∨ field ∈ [Field.boardRev, Field.boardSerial] ∨
      (field = .boardTotMacId ∧ (version.offsetSize .boardTotMacId).offset ≠ notPresent) ∨
      field = .boardMac ∨ field ∈ fieldsBehindMac version := by
  unfold presentFields at h
  split at h
  · simp only [List.mem_append, List.mem_cons, List.not_mem_nil, or_false] at h ⊢
    tauto
  · simp only [List.mem_append, List.mem_cons, List.not_mem_nil, or_false] at h ⊢
    tauto

private theorem boardInfo_readFields
    (hsuccess : device.Succeeds s.transfers (readFields device version s).2.transfers)
    {field : Field} (hfield : field ∈ presentFields version) (hname : field ≠ .productName)
    {i : Nat} (hi : i < (version.offsetSize field).size) :
    (readFields device version s).2.boardInfo (field.place + i) =
      unpadded field.padded (byteOf version device.content field i) := by
  rw [transfers_readFields] at hsuccess
  have hbehind (status : UInt8) (t : BoardRun) {other : Nat}
      (h : other < Field.boardActPas.place) :
      (updateFields device version (fieldsBehindMac version) status t).2.boardInfo other =
        t.boardInfo other :=
    boardInfo_updateFields_below _ _ fun field hmem =>
      Nat.lt_of_lt_of_le h (behind_padded version field hmem).1
  obtain ⟨horder, hbefore⟩ := before_order version
  have hplaces : Field.boardTotMacId.place < Field.boardMac.place ∧
      Field.boardMac.place + 6 < Field.boardActPas.place := by decide
  rw [readFields]
  rcases mem_presentFields hfield with h | hmem | ⟨rfl, hpresent⟩ | rfl | hmem
  · exact absurd h hname
  · obtain ⟨hplace, hpadded⟩ := hbefore field hmem
    rw [hbehind _ _ (by omega), boardInfo_fillMacTable_outside (.inl (by omega)),
      boardInfo_readMacCount_below _ (by omega),
      boardInfo_updateFields _ _ horder (hsuccess.mono (Nat.le_refl _) (by omega)) hmem hi, hpadded]
    rfl
  · obtain rfl : i = 0 := by
      cases version with
      | v2_0 => exact absurd rfl hpresent
      | v3_0 => exact Nat.lt_one_iff.1 hi
    rw [Nat.add_zero, hbehind _ _ (by omega), boardInfo_fillMacTable_outside (.inl (by omega)),
      boardInfo_readMacCount, macCountByte, if_pos hpresent]
    · have hpadded : Field.boardTotMacId.padded = true := rfl
      simp [byteOf, hpadded]
    · rw [transfers_updateFields]
      exact hsuccess.mono (by omega) (by omega)
  · rw [size_boardMac] at hi
    rw [hbehind _ _ (by omega), boardInfo_fillMacTable_first (by omega), boardInfo_firstRow _ hi,
      hsuccess _ (by rw [transfers_readMacCount, transfers_updateFields]; omega)
        (by rw [transfers_readMacCount, transfers_updateFields]; omega)]
    simp [Transfer.value, unpadded, Field.padded, byteOf]
  · rw [boardInfo_updateFields _ _ (behind_order version) _ hmem hi, (behind_padded version field
      hmem).2]
    · rfl
    · rw [transfers_fillMacTable, transfers_readMacCount, transfers_updateFields]
      exact hsuccess.mono (by omega) (by omega)

private theorem boardInfo_whole (hlast : LastBytesRead device s version)
    (hsuccess : device.Succeeds s.transfers (s.transfers + transfersOf version)) {field : Field}
    (hfield : field ∈ presentFields version) {i : Nat}
    (hi : i < (version.offsetSize field).size) :
    (versalEepromReadBoardInfo device s).2.boardInfo (field.place + i) =
      unpadded field.padded (byteOf version device.content field i) := by
  have htransfers := @transfers_whole device s version
  rw [eq_readFields hlast]
  by_cases hname : field = .productName
  · subst hname
    have hsize : Field.productName.place + (version.offsetSize .productName).size <
        Field.boardRev.place := by cases version <;> decide
    rw [boardInfo_readFields_below (by omega), updateField,
      boardInfo_updateBoardInfoData _ _ _ _ _ hi, transfers_readVersion,
      hsuccess _ (by omega) (by rw [transfersOf]; omega)]
    rfl
  · refine boardInfo_readFields (hsuccess.mono ?_ ?_) hfield hname hi
    · rw [updateField, transfers_updateBoardInfoData, transfers_readVersion]
      omega
    · rw [htransfers]

private theorem boardInfo_whole_character (hlast : LastBytesRead device s version)
    (hsuccess : device.Succeeds s.transfers (s.transfers + transfersOf version)) {i : Nat}
    (hi : i < 3) :
    (versalEepromReadBoardInfo device s).2.boardInfo i =
      unpadded true (device.content (UInt16.ofNat (0x100 * i))) := by
  rw [eq_readFields hlast, boardInfo_readFields_below (by simp only [Field.place]; omega),
    updateField, boardInfo_updateBoardInfoData_outside _ _ _ _ _
      (.inl (by simp only [Field.place]; omega)),
    boardInfo_readVersion hi, characterLeft,
    hsuccess _ (by omega) (by rw [transfersOf]; omega)]
  rfl

private theorem versionOf_of_success (hlast : LastBytesRead device s version)
    (hsuccess : device.Succeeds s.transfers (s.transfers + transfersOf version)) :
    versionOf device.content = some version := by
  have hcharacter (i : Nat) (hi : i < 3) :
      characterLeft device s i = unpadded true (device.content (UInt16.ofNat (0x100 * i))) := by
    rw [characterLeft, hsuccess _ (by omega) (by rw [transfersOf]; omega)]
    rfl
  rw [← hlast.2.1, hcharacter 0 (by decide), hcharacter 1 (by decide), hcharacter 2 (by decide)]
  rfl

end Fields

/-! ## When a success is true -/

/-- No byte of a binary field looks as if it were not programmed; the MAC may. -/
def NoDefault (version : Version) (content : UInt16 → UInt8) : Prop :=
  ∀ field ∈ presentFields version, field.binary = true → field ≠ .boardMac →
    ∀ i < (version.offsetSize field).size, byteOf version content field i ≠ eepromDefaultVal

private theorem unpadded_of_ne (padded : Bool) {byte : UInt8} (h : byte ≠ eepromDefaultVal) :
    unpadded padded byte = byte := if_neg fun hdefault => h hdefault.2

private theorem ne_of_unpadded {byte : UInt8} (h : unpadded true byte = byte) :
    byte ≠ eepromDefaultVal := by
  rintro rfl
  exact absurd h (by decide)

private theorem Field.padded_of_ne {field : Field} (h : field ≠ .boardMac) : field.padded = true :=
  bne_iff_ne.2 h

theorem truthful_iff (device : Device) (s : BoardRun) :
    Truthful device s ↔ ∀ version, LastBytesRead device s version →
      device.Succeeds s.transfers (s.transfers + transfersOf version) ∧
        NoDefault version device.content := by
  constructor
  · intro h version hlast
    obtain ⟨hsuccess, found, hfound, hagrees⟩ := h (status_eq_success_iff.2 ⟨version, hlast⟩)
    rw [eq_readFields hlast, transfers_whole] at hsuccess
    obtain rfl : version = found :=
      Option.some_inj.1 ((versionOf_of_success hlast hsuccess).symm.trans hfound)
    refine ⟨hsuccess, fun field hfield hbinary hmac i hi => ne_of_unpadded ?_⟩
    have hwhole := boardInfo_whole hlast hsuccess hfield hi
    rw [hagrees.binary field hfield hbinary i hi, Field.padded_of_ne hmac] at hwhole
    exact hwhole.symm
  · intro h hstatus
    obtain ⟨version, hlast⟩ := status_eq_success_iff.1 hstatus
    obtain ⟨hsuccess, hdefault⟩ := h version hlast
    refine ⟨?_, version, versionOf_of_success hlast hsuccess, ?_, ?_, ?_⟩
    · rw [eq_readFields hlast, transfers_whole]
      exact hsuccess
    · intro i hi hprogrammed
      rw [boardInfo_whole_character hlast hsuccess hi,
        unpadded_of_ne _ (hprogrammed i (Nat.le_refl i))]
    · intro field hfield _ i hi hprogrammed
      rw [boardInfo_whole hlast hsuccess hfield hi,
        unpadded_of_ne _ (hprogrammed i (Nat.le_refl i))]
    · intro field hfield hbinary i hi
      rw [boardInfo_whole hlast hsuccess hfield hi]
      by_cases hmac : field = .boardMac
      · simp [hmac, Field.padded, unpadded]
      · exact unpadded_of_ne _ (hdefault field hfield hbinary hmac i hi)

def filled (byte : UInt8) (offset : UInt16) : UInt8 :=
  if offset = 0x0000 then 0x33
  else if offset = 0x0100 then 0x2E
  else if offset = 0x0200 then 0x30
  else byte

def oneFailure : Device := ⟨filled 0x41, fun n => if n = 10 then .failure none else .success⟩

theorem not_truthful :
    ¬ Truthful oneFailure ⟨fun _ => 0, 0⟩ ∧ ¬ Truthful (.reliable (filled 0xFF)) ⟨fun _ => 0, 0⟩ := by
  constructor
  · intro h
    have hlast : LastBytesRead oneFailure ⟨fun _ => 0, 0⟩ .v3_0 :=
      ⟨by decide, by decide, by decide, by decide⟩
    obtain ⟨hsuccess, -⟩ := h (status_eq_success_iff.2 ⟨.v3_0, hlast⟩)
    rw [eq_readFields hlast, transfers_whole] at hsuccess
    exact absurd (hsuccess 10 (by decide) (by decide)) (by decide)
  · intro h
    have hlast : LastBytesRead (.reliable (filled 0xFF)) ⟨fun _ => 0, 0⟩ .v3_0 :=
      ⟨rfl, by decide, rfl, rfl⟩
    obtain ⟨hsuccess, found, hfound, hagrees⟩ := h (status_eq_success_iff.2 ⟨.v3_0, hlast⟩)
    obtain rfl : found = .v3_0 :=
      Option.some_inj.1 (hfound.symm.trans (versionOf_of_success hlast (succeeds_reliable _ _ _)))
    have huuid := hagrees.binary .uuid (by decide) rfl 0 (by decide)
    rw [boardInfo_whole hlast (succeeds_reliable _ _ _) (by decide) (by decide)] at huuid
    exact absurd huuid (by decide)

end Vmr.Vmc.Eeprom
