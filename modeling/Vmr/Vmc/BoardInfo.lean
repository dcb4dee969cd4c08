import Mathlib.Logic.Function.Iterate
import Vmr.Lib.Memory
import Vmr.Lib.Word
import Vmr.Vmc.Qsfp

/-!
# The board information in the EEPROM

The fields are read byte by byte, at offsets that depend on the version of the EEPROM.
A byte that has not been programmed becomes a zero, and every field gets a zero behind
it.  The status is that of the last byte; only behind the version and the product name
is it looked at.
-/

namespace Vmr.Vmc

open Vmr.Lib

namespace Eeprom

def eepromV3_0 : UInt32 := 0x332E30
def eepromV2_0 : UInt32 := 0x322E30
def eepromDefaultVal : UInt8 := 0xFF

inductive Version
  | v2_0 | v3_0
  deriving DecidableEq, Repr

inductive Field
  | productName | boardRev | boardSerial | boardTotMacId | boardMac | boardActPas
  | boardConfigMode | mfgDate | partNum | uuid | pcieInfo | maxPowerMode | memSize | oemidSize
  | capabilityWord
  deriving DecidableEq, Repr

structure ContentDetails where
  offset : UInt16
  size : Nat
  deriving DecidableEq, Repr

def ver3_0OffsetSize : Field → ContentDetails
  | .productName => ⟨0x0800, 24⟩
  | .boardRev => ⟨0x2000, 8⟩
  | .boardSerial => ⟨0x2800, 14⟩
  | .boardTotMacId => ⟨0x3600, 1⟩
  | .boardMac => ⟨0x3700, 6⟩
  | .boardActPas => ⟨0x3D00, 1⟩
  | .boardConfigMode => ⟨0x3E00, 1⟩
  | .mfgDate => ⟨0x3F00, 3⟩
  | .partNum => ⟨0x4200, 24⟩
  | .uuid => ⟨0x5A00, 16⟩
  | .pcieInfo => ⟨0x6A00, 8⟩
  | .maxPowerMode => ⟨0x7200, 1⟩
  | .memSize => ⟨0x7300, 4⟩
  | .oemidSize => ⟨0x7700, 4⟩
  | .capabilityWord => ⟨0x7B00, 2⟩

def notPresent : UInt16 := 0xFFFF

/-- The size of what has no count of its own is the count. -/
def ver2_0OffsetSize : Field → ContentDetails
  | .productName => ⟨0x0300, 16⟩
  | .boardRev => ⟨0x1300, 8⟩
  | .boardSerial => ⟨0x1B00, 14⟩
  | .boardTotMacId => ⟨notPresent, 2⟩
  | .boardMac => ⟨0x2900, 6⟩
  | .boardActPas => ⟨0x4100, 1⟩
  | .boardConfigMode => ⟨0x4200, 1⟩
  | .mfgDate => ⟨0x4300, 3⟩
  | .partNum => ⟨0x4600, 9⟩
  | .uuid => ⟨0x4F00, 16⟩
  | .pcieInfo => ⟨0x5F00, 8⟩
  | .maxPowerMode => ⟨0x6700, 1⟩
  | .memSize => ⟨0x6800, 4⟩
  | .oemidSize => ⟨0x6C00, 4⟩
  | .capabilityWord => ⟨notPresent, 0⟩

def Version.offsetSize : Version → Field → ContentDetails
  | .v2_0 => ver2_0OffsetSize
  | .v3_0 => ver3_0OffsetSize

def Field.place : Field → Nat
  | .productName => 4
  | .boardRev => 29
  | .boardSerial => 38
  | .boardTotMacId => 53
  | .boardMac => 54
  | .boardActPas => 82
  | .boardConfigMode => 84
  | .mfgDate => 86
  | .partNum => 90
  | .uuid => 115
  | .pcieInfo => 132
  | .maxPowerMode => 141
  | .memSize => 143
  | .oemidSize => 148
  | .capabilityWord => 158

def macTableSize : Nat := 4 * 7

/-! ## Reads -/

/-- How a transfer goes; one that fails may still leave a byte. -/
inductive Transfer
  | success
  | failure (left : Option UInt8)
  deriving DecidableEq, Repr

namespace Transfer

def status : Transfer → UInt8
  | success => xstSuccess
  | failure _ => xstFailure

def value (byte old : UInt8) : Transfer → UInt8
  | success => byte
  | failure left => left.getD old

end Transfer

/-- What the device holds, and how the transfers go, one after another. -/
structure Device where
  content : UInt16 → UInt8
  transfer : Nat → Transfer

def Device.Succeeds (device : Device) (first last : Nat) : Prop :=
  ∀ n, first ≤ n → n < last → device.transfer n = .success

theorem Device.Succeeds.mono {device : Device} {first last first' last' : Nat}
    (h : device.Succeeds first last) (hfirst : first ≤ first') (hlast : last' ≤ last) :
    device.Succeeds first' last' :=
  fun n hle hlt => h n (Nat.le_trans hfirst hle) (Nat.lt_of_lt_of_le hlt hlast)

structure BoardRun where
  boardInfo : Memory
  transfers : Nat

def BoardRun.store (s : BoardRun) (place : Nat) (byte : UInt8) : BoardRun :=
  { s with boardInfo := Function.update s.boardInfo place byte }

section Reads

variable (device : Device)

def m24c128ReadByte (offset : UInt16) (place : Nat) (s : BoardRun) : UInt8 × BoardRun :=
  let transfer := device.transfer s.transfers
  (transfer.status,
    { s.store place (transfer.value (device.content offset) (s.boardInfo place)) with
      transfers := s.transfers + 1 })

def BoardRun.pad (padded : Bool) (place : Nat) (s : BoardRun) : BoardRun :=
  if padded = true ∧ s.boardInfo place = eepromDefaultVal then s.store place 0 else s

def readBytes (padded : Bool) : Nat → UInt16 → Nat → UInt8 → BoardRun → UInt8 × BoardRun
  | 0, _, _, status, s => (status, s)
  | size + 1, offset, place, _, s =>
      let read := m24c128ReadByte device offset place s
      readBytes padded size (offset + 0x0100) (place + 1) read.1 (read.2.pad padded place)

def updateBoardInfoData (place : Nat) (offset : UInt16) (size : Nat) (s : BoardRun) :
    UInt8 × BoardRun :=
  let read := readBytes device true size offset place xstSuccess s
  (read.1, read.2.store (place + size) 0)

def updateField (version : Version) (field : Field) (s : BoardRun) : UInt8 × BoardRun :=
  updateBoardInfoData device field.place (version.offsetSize field).offset
    (version.offsetSize field).size s

/-- One field after another; a status is lost with the next field. -/
def updateFields (version : Version) : List Field → UInt8 → BoardRun → UInt8 × BoardRun
  | [], status, s => (status, s)
  | field :: fields, _, s =>
      let read := updateField device version field s
      updateFields version fields read.1 read.2

/-- One transfer for all bytes; nobody looks at the answer. -/
def verifyChecksum (s : BoardRun) : Bool × BoardRun :=
  let buf (i : Nat) : UInt8 :=
    if device.transfer s.transfers = .success then device.content (UInt16.ofNat (i * 0x100)) else 0
  let expected := (buf 7).toUInt16 <<< 8 ||| (buf 6).toUInt16
  let checksum := (List.range' 8 117).foldl (fun sum i => sum + (buf i).toUInt16) 0
  (0 - checksum = expected, { s with transfers := s.transfers + 1 })

end Reads

/-! ## The MAC table -/

/-- The carry loop, from the last byte on. -/
def incrementMac : List UInt8 → List UInt8
  | [] => []
  | byte :: bytes => if byte.toNat + 1 > 255 then 0 :: incrementMac bytes else (byte + 1) :: bytes

def nextMac (mac : List UInt8) : List UInt8 := (incrementMac mac.reverse).reverse

/-- So many rows of seven bytes, a MAC and a zero, behind the row of a MAC. -/
def expandMacRows : Nat → Nat → List UInt8 → Memory → Memory
  | 0, _, _, boardInfo => boardInfo
  | rows + 1, row, mac, boardInfo =>
      expandMacRows rows (row + 1) (nextMac mac)
        (boardInfo.putBytes (Field.boardMac.place + 7 * row) (nextMac mac ++ [0]))

section Function

variable (device : Device) (version : Version)

def readMacCount (s : BoardRun) : BoardRun :=
  if (version.offsetSize .boardTotMacId).offset ≠ notPresent then
    (updateField device version .boardTotMacId s).2
  else s.store Field.boardTotMacId.place (UInt8.ofNat (version.offsetSize .boardTotMacId).size)

def expandMacTable (size : Nat) (s : BoardRun) : BoardRun :=
  { s with
    boardInfo := expandMacRows ((s.boardInfo Field.boardTotMacId.place).toNat - 1) 1
      (s.boardInfo.slice Field.boardMac.place size) s.boardInfo }

def fillMacTable (s : BoardRun) : BoardRun :=
  let details := version.offsetSize .boardMac
  let read := readBytes device false details.size details.offset Field.boardMac.place xstSuccess s
  expandMacTable details.size (read.2.store (Field.boardMac.place + details.size) 0)

def fieldsBehindMac : List Field :=
  [.boardActPas, .boardConfigMode, .mfgDate, .partNum, .uuid, .pcieInfo, .maxPowerMode, .memSize,
    .oemidSize] ++
    if (version.offsetSize .capabilityWord).offset ≠ notPresent then [.capabilityWord] else []

/-- The version by its three characters. -/
def detect (b0 b1 b2 : UInt8) : Option Version :=
  let eepromVer := b0.toUInt32 <<< 16 ||| b1.toUInt32 <<< 8 ||| b2.toUInt32
  if eepromVer = eepromV3_0 then some .v3_0
  else if eepromVer = eepromV2_0 then some .v2_0
  else none

/-- The checksum is verified first. -/
def readVersion (s : BoardRun) : UInt8 × BoardRun :=
  updateBoardInfoData device 0 0x0000 3 (verifyChecksum device s).2

def foundVersion (boardInfo : Memory) : Option Version :=
  detect (boardInfo 0) (boardInfo 1) (boardInfo 2)

def readFields (s : BoardRun) : UInt8 × BoardRun :=
  let before := updateFields device version [.boardRev, .boardSerial] xstSuccess s
  updateFields device version (fieldsBehindMac version) xstSuccess
    (fillMacTable device version (readMacCount device version before.2))

def versalEepromReadBoardInfo (device : Device) (s : BoardRun) : UInt8 × BoardRun :=
  let read := readVersion device s
  if read.1 ≠ xstSuccess then (xstFailure, read.2)
  else
    match foundVersion read.2.boardInfo with
    | none => (xstFailure, read.2)
    | some version =>
        let name := updateField device version .productName read.2
        if name.1 ≠ xstSuccess then (xstFailure, name.2)
        else readFields device version name.2

end Function

/-! ## Reading some bytes -/

@[simp] theorem boardInfo_store (s : BoardRun) (place : Nat) (byte : UInt8) :
    (s.store place byte).boardInfo = Function.update s.boardInfo place byte := rfl

@[simp] theorem transfers_store (s : BoardRun) (place : Nat) (byte : UInt8) :
    (s.store place byte).transfers = s.transfers := rfl

@[simp] theorem transfers_pad (padded : Bool) (place : Nat) (s : BoardRun) :
    (s.pad padded place).transfers = s.transfers := by
  unfold BoardRun.pad
  split <;> rfl

def unpadded (padded : Bool) (byte : UInt8) : UInt8 :=
  if padded = true ∧ byte = eepromDefaultVal then 0 else byte

private theorem boardInfo_pad_self (padded : Bool) (place : Nat) (s : BoardRun) :
    (s.pad padded place).boardInfo place = unpadded padded (s.boardInfo place) := by
  unfold BoardRun.pad unpadded
  split <;> simp

private theorem boardInfo_pad_of_ne (padded : Bool) {place other : Nat} (h : other ≠ place)
    (s : BoardRun) : (s.pad padded place).boardInfo other = s.boardInfo other := by
  unfold BoardRun.pad
  split <;> simp [h]

section ReadBytes

variable (device : Device) (padded : Bool)

@[simp] theorem transfers_readBytes (size : Nat) (offset : UInt16) (place : Nat) (status : UInt8)
    (s : BoardRun) :
    (readBytes device padded size offset place status s).2.transfers = s.transfers + size := by
  induction size generalizing offset place status s with
  | zero => rfl
  | succ size ih =>
      rw [readBytes, ih, transfers_pad, m24c128ReadByte]
      simp only
      omega

theorem boardInfo_readBytes_outside {size place other : Nat} (offset : UInt16) (status : UInt8)
    (s : BoardRun) (h : other < place ∨ place + size ≤ other) :
    (readBytes device padded size offset place status s).2.boardInfo other =
      s.boardInfo other := by
  induction size generalizing offset place status s with
  | zero => rfl
  | succ size ih =>
      have hne : other ≠ place := by omega
      rw [readBytes, ih _ _ _ (by omega), boardInfo_pad_of_ne _ hne]
      simp [m24c128ReadByte, hne]

theorem boardInfo_readBytes {size : Nat} (offset : UInt16) (place : Nat) (status : UInt8)
    (s : BoardRun) {i : Nat} (hi : i < size) :
    (readBytes device padded size offset place status s).2.boardInfo (place + i) =
      unpadded padded ((device.transfer (s.transfers + i)).value
        (device.content (offset + UInt16.ofNat (0x100 * i))) (s.boardInfo (place + i))) := by
  induction size generalizing offset place status s i with
  | zero => omega
  | succ size ih =>
      rw [readBytes]
      cases i with
      | zero =>
          rw [boardInfo_readBytes_outside device padded _ _ _ (by omega), Nat.add_zero,
            boardInfo_pad_self]
          simp [m24c128ReadByte]
      | succ i =>
          have hne : place + (i + 1) ≠ place := by omega
          have hoffset : offset + 0x0100 + UInt16.ofNat (0x100 * i) =
              offset + UInt16.ofNat (0x100 * (i + 1)) := by
            rw [Nat.mul_add_one, Nat.add_comm, UInt16.ofNat_add, ← UInt16.add_assoc]
            rfl
          have hnext := ih (offset + 0x0100) (place + 1)
            (m24c128ReadByte device offset place s).1
            ((m24c128ReadByte device offset place s).2.pad padded place) (i := i) (by omega)
          rw [Nat.add_assoc, Nat.add_comm 1 i, hoffset, boardInfo_pad_of_ne _ hne,
            transfers_pad] at hnext
          rw [hnext]
          simp only [m24c128ReadByte, boardInfo_store, Function.update_of_ne hne]
          rw [Nat.add_assoc s.transfers 1 i, Nat.add_comm 1 i]

private theorem status_readBytes {size : Nat} (hsize : 0 < size) (offset : UInt16) (place : Nat)
    (status : UInt8) (s : BoardRun) :
    (readBytes device padded size offset place status s).1 =
      (device.transfer (s.transfers + size - 1)).status := by
  induction size generalizing offset place status s with
  | zero => omega
  | succ size ih =>
      rw [readBytes]
      cases size with
      | zero => rfl
      | succ size =>
          rw [ih (by omega), transfers_pad]
          simp only [m24c128ReadByte]
          congr 2
          omega

end ReadBytes

/-! ## Reading a field -/

section UpdateData

variable (device : Device) (place : Nat) (offset : UInt16) (size : Nat) (s : BoardRun)

@[simp] theorem transfers_updateBoardInfoData :
    (updateBoardInfoData device place offset size s).2.transfers = s.transfers + size := by
  simp [updateBoardInfoData]

theorem boardInfo_updateBoardInfoData_outside {other : Nat}
    (h : other < place ∨ place + size < other) :
    (updateBoardInfoData device place offset size s).2.boardInfo other = s.boardInfo other := by
  rw [updateBoardInfoData, boardInfo_store, Function.update_of_ne (by omega),
    boardInfo_readBytes_outside device true _ _ _ (by omega)]

theorem boardInfo_updateBoardInfoData {i : Nat} (hi : i < size) :
    (updateBoardInfoData device place offset size s).2.boardInfo (place + i) =
      unpadded true ((device.transfer (s.transfers + i)).value
        (device.content (offset + UInt16.ofNat (0x100 * i))) (s.boardInfo (place + i))) := by
  rw [updateBoardInfoData, boardInfo_store, Function.update_of_ne (by omega),
    boardInfo_readBytes device true _ _ _ _ hi]

theorem status_updateBoardInfoData (hsize : 0 < size) :
    (updateBoardInfoData device place offset size s).1 =
      (device.transfer (s.transfers + size - 1)).status :=
  status_readBytes device true hsize _ _ _ _

end UpdateData

/-! ## Reading fields one after another -/

section UpdateFields

variable {device : Device} {version : Version}

def totalSize (version : Version) (fields : List Field) : Nat :=
  (fields.map fun field => (version.offsetSize field).size).sum

def Field.Before (version : Version) (field field' : Field) : Prop :=
  field.place + (version.offsetSize field).size < field'.place

instance (field field' : Field) : Decidable (field.Before version field') :=
  inferInstanceAs (Decidable (_ < _))

theorem transfers_updateFields (fields : List Field) (status : UInt8) (s : BoardRun) :
    (updateFields device version fields status s).2.transfers =
      s.transfers + totalSize version fields := by
  induction fields generalizing status s with
  | nil => rfl
  | cons field fields ih =>
      rw [updateFields, ih, updateField, transfers_updateBoardInfoData, totalSize, totalSize,
        List.map_cons, List.sum_cons]
      omega

theorem boardInfo_updateFields_below {fields : List Field} (status : UInt8) (s : BoardRun)
    {other : Nat} (h : ∀ field ∈ fields, other < field.place) :
    (updateFields device version fields status s).2.boardInfo other = s.boardInfo other := by
  induction fields generalizing status s with
  | nil => rfl
  | cons field fields ih =>
      obtain ⟨hfield, hfields⟩ := List.forall_mem_cons.1 h
      rw [updateFields, ih _ _ hfields, updateField,
        boardInfo_updateBoardInfoData_outside _ _ _ _ _ (.inl hfield)]

theorem boardInfo_updateFields {fields : List Field} (status : UInt8) (s : BoardRun)
    (horder : fields.Pairwise (Field.Before version))
    (hsuccess : device.Succeeds s.transfers (s.transfers + totalSize version fields))
    {field : Field} (hfield : field ∈ fields) {i : Nat}
    (hi : i < (version.offsetSize field).size) :
    (updateFields device version fields status s).2.boardInfo (field.place + i) =
      unpadded true (device.content
        ((version.offsetSize field).offset + UInt16.ofNat (0x100 * i))) := by
  induction fields generalizing status s with
  | nil => exact absurd hfield List.not_mem_nil
  | cons first fields ih =>
      rw [totalSize, List.map_cons, List.sum_cons, ← totalSize] at hsuccess
      obtain ⟨hbefore, horder⟩ := List.pairwise_cons.1 horder
      rw [updateFields]
      rcases List.mem_cons.1 hfield with rfl | hmem
      · have hbelow (field' : Field) (h : field' ∈ fields) : field.place + i < field'.place := by
          have := hbefore field' h
          unfold Field.Before at this
          omega
        rw [boardInfo_updateFields_below _ _ hbelow, updateField,
          boardInfo_updateBoardInfoData _ _ _ _ _ hi, hsuccess _ (by omega) (by omega)]
        rfl
      · refine ih _ _ horder (hsuccess.mono ?_ ?_) hmem <;>
          rw [updateField, transfers_updateBoardInfoData] <;> omega

theorem status_updateFields {fields : List Field} (hfields : fields ≠ [])
    (hsize : ∀ field ∈ fields, 0 < (version.offsetSize field).size) (status : UInt8)
    (s : BoardRun) :
    (updateFields device version fields status s).1 =
      (device.transfer (s.transfers + totalSize version fields - 1)).status := by
  induction fields generalizing status s with
  | nil => exact absurd rfl hfields
  | cons field fields ih =>
      obtain ⟨hfirst, hrest⟩ := List.forall_mem_cons.1 hsize
      rw [updateFields]
      rw [totalSize, List.map_cons, List.sum_cons, ← totalSize]
      cases fields with
      | nil =>
          rw [updateFields, updateField, status_updateBoardInfoData _ _ _ _ _ hfirst]
          rfl
      | cons next fields =>
          rw [ih (List.cons_ne_nil next fields) hrest, updateField, transfers_updateBoardInfoData,
            Nat.add_assoc]

end UpdateFields

/-! ## The count and the table -/

section MacTable

variable {device : Device} {version : Version}

/-- What becomes of the count, whose byte may not be programmed. -/
def macCountByte (version : Version) (content : UInt16 → UInt8) : UInt8 :=
  if (version.offsetSize .boardTotMacId).offset ≠ notPresent then
    unpadded true (content (version.offsetSize .boardTotMacId).offset)
  else UInt8.ofNat (version.offsetSize .boardTotMacId).size

def macCountTransfers : Version → Nat
  | .v2_0 => 0
  | .v3_0 => 1

@[simp] theorem transfers_readMacCount (s : BoardRun) :
    (readMacCount device version s).transfers = s.transfers + macCountTransfers version := by
  cases version <;> simp [readMacCount, Version.offsetSize, ver2_0OffsetSize, ver3_0OffsetSize,
    notPresent, updateField, macCountTransfers]

theorem boardInfo_readMacCount_below (s : BoardRun) {other : Nat}
    (h : other < Field.boardTotMacId.place) :
    (readMacCount device version s).boardInfo other = s.boardInfo other := by
  unfold readMacCount
  split
  · exact boardInfo_updateBoardInfoData_outside _ _ _ _ _ (.inl h)
  · rw [boardInfo_store, Function.update_of_ne (by omega)]

theorem boardInfo_readMacCount {s : BoardRun}
    (hsuccess : device.Succeeds s.transfers (s.transfers + macCountTransfers version)) :
    (readMacCount device version s).boardInfo Field.boardTotMacId.place =
      macCountByte version device.content := by
  cases version with
  | v2_0 => simp [readMacCount, macCountByte, Version.offsetSize, ver2_0OffsetSize]
  | v3_0 =>
      have hread := boardInfo_updateBoardInfoData device Field.boardTotMacId.place 0x3600 1 s
        Nat.one_pos
      rw [hsuccess _ (by omega) (by simp [macCountTransfers])] at hread
      exact hread

private theorem length_incrementMac (mac : List UInt8) :
    (incrementMac mac).length = mac.length := by
  induction mac with
  | nil => rfl
  | cons byte bytes ih =>
      rw [incrementMac]
      split <;> simp [ih]

@[simp] theorem length_nextMac (mac : List UInt8) : (nextMac mac).length = mac.length := by
  rw [nextMac, List.length_reverse, length_incrementMac, List.length_reverse]

theorem expandMacRows_outside {rows row : Nat} {mac : List UInt8} (hmac : mac.length = 6)
    (boardInfo : Memory) {other : Nat} (h : other < Field.boardMac.place + 7 * row ∨
      Field.boardMac.place + 7 * (row + rows) ≤ other) :
    expandMacRows rows row mac boardInfo other = boardInfo other := by
  induction rows generalizing row mac boardInfo with
  | zero => rfl
  | succ rows ih =>
      have hlength : (nextMac mac ++ [0]).length = 7 := by
        rw [List.length_append, length_nextMac, hmac]
        rfl
      rw [expandMacRows, ih (by rw [length_nextMac, hmac]) _ (by omega),
        Memory.putBytes_outside _ _ (by omega)]

theorem slice_expandMacRows {rows row : Nat} {mac : List UInt8} (hmac : mac.length = 6)
    (boardInfo : Memory) {k : Nat} (hk : k < rows) :
    (expandMacRows rows row mac boardInfo).slice (Field.boardMac.place + 7 * (row + k)) 7 =
      nextMac^[k + 1] mac ++ [0] := by
  induction rows generalizing row mac boardInfo k with
  | zero => omega
  | succ rows ih =>
      have hnext : (nextMac mac).length = 6 := by rw [length_nextMac, hmac]
      rw [expandMacRows]
      cases k with
      | zero =>
          have hput := Memory.slice_putBytes boardInfo (Field.boardMac.place + 7 * row)
            (nextMac mac ++ [0])
          rw [List.length_append, hnext] at hput
          refine (Memory.slice_congr fun a hle hlt => ?_).trans hput
          exact expandMacRows_outside hnext _ (.inl (by omega))
      | succ k =>
          rw [show row + (k + 1) = row + 1 + k by omega, ih hnext _ (by omega)]
          rfl

end MacTable

/-! ## The whole function -/

section Whole

variable {device : Device} {s : BoardRun}

theorem transfers_readVersion :
    (readVersion device s).2.transfers = s.transfers + 4 := by
  simp [readVersion, verifyChecksum]

theorem versalEepromReadBoardInfo_of_found {version : Version}
    (hread : (readVersion device s).1 = xstSuccess)
    (hfound : foundVersion (readVersion device s).2.boardInfo = some version)
    (hname : (updateField device version .productName (readVersion device s).2).1 = xstSuccess) :
    versalEepromReadBoardInfo device s =
      readFields device version (updateField device version .productName
        (readVersion device s).2).2 := by
  simp [versalEepromReadBoardInfo, hread, hfound, hname]

theorem status_versalEepromReadBoardInfo :
    (versalEepromReadBoardInfo device s).1 = xstSuccess ↔
      (readVersion device s).1 = xstSuccess ∧
        ∃ version, foundVersion (readVersion device s).2.boardInfo = some version ∧
          (updateField device version .productName (readVersion device s).2).1 = xstSuccess ∧
          (readFields device version (updateField device version .productName
            (readVersion device s).2).2).1 = xstSuccess := by
  have hfailure : xstFailure ≠ xstSuccess := by decide
  constructor
  · intro h
    unfold versalEepromReadBoardInfo at h
    by_cases hread : (readVersion device s).1 = xstSuccess
    · cases hfound : foundVersion (readVersion device s).2.boardInfo with
      | none => simp [hread, hfound, hfailure] at h
      | some version =>
          by_cases hname : (updateField device version .productName
              (readVersion device s).2).1 = xstSuccess
          · exact ⟨hread, version, rfl, hname, by simpa [hread, hfound, hname] using h⟩
          · simp [hread, hfound, hname, hfailure] at h
    · simp [hread, hfailure] at h
  · rintro ⟨hread, version, hfound, hname, hfields⟩
    rw [versalEepromReadBoardInfo_of_found hread hfound hname, hfields]

end Whole

end Eeprom

end Vmr.Vmc
