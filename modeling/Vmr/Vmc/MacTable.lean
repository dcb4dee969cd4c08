import Vmr.Vmc.BoardInfo

/-!
# The MAC table of a board

The EEPROM has one MAC and a count.  The table has room for four MACs, and each is the
one before plus one, carried over all six bytes.
-/

namespace Vmr.Vmc.Eeprom

open Vmr.Lib

def macNumber (mac : List UInt8) : Nat := littleEndian mac.reverse

def baseMac (version : Version) (content : UInt16 → UInt8) : List UInt8 :=
  (List.range 6).map fun i =>
    content ((version.offsetSize .boardMac).offset + UInt16.ofNat (0x100 * i))

@[simp] theorem length_baseMac (version : Version) (content : UInt16 → UInt8) :
    (baseMac version content).length = 6 := by
  simp [baseMac]

/-! ## One more -/

private theorem littleEndian_incrementMac (mac : List UInt8) :
    littleEndian (incrementMac mac) = (littleEndian mac + 1) % 2 ^ (8 * mac.length) := by
  induction mac with
  | nil => rfl
  | cons byte bytes ih =>
      have hlt := littleEndian_lt bytes
      have hbyte := byte.toNat_lt
      have hpow : 2 ^ (8 * (bytes.length + 1)) = 2 ^ 8 * 2 ^ (8 * bytes.length) := by
        rw [Nat.mul_add_one, Nat.pow_add, Nat.mul_comm]
      rw [incrementMac, List.length_cons, hpow]
      split
      · have hfull : byte.toNat = 255 := by omega
        simp only [littleEndian, ih, hfull, UInt8.toNat_zero]
        rw [show 255 + 2 ^ 8 * littleEndian bytes + 1 = 2 ^ 8 * (littleEndian bytes + 1) by omega,
          Nat.mul_mod_mul_left]
        omega
      · have hadd : (byte + 1).toNat = byte.toNat + 1 := by
          rw [UInt8.toNat_add, UInt8.toNat_one]
          omega
        simp only [littleEndian, hadd]
        rw [Nat.mod_eq_of_lt] <;> omega

private theorem macNumber_nextMac (mac : List UInt8) :
    macNumber (nextMac mac) = (macNumber mac + 1) % 2 ^ (8 * mac.length) := by
  rw [macNumber, nextMac, List.reverse_reverse, littleEndian_incrementMac, List.length_reverse]
  rfl

@[simp] theorem length_iterate_nextMac (k : Nat) (mac : List UInt8) :
    (nextMac^[k] mac).length = mac.length := by
  induction k with
  | zero => rfl
  | succ k ih => rw [Function.iterate_succ_apply', length_nextMac, ih]

private theorem macNumber_iterate (k : Nat) (mac : List UInt8) :
    macNumber (nextMac^[k] mac) = (macNumber mac + k) % 2 ^ (8 * mac.length) := by
  induction k with
  | zero =>
      have hlt := littleEndian_lt mac.reverse
      rw [List.length_reverse] at hlt
      exact (Nat.mod_eq_of_lt hlt).symm
  | succ k ih =>
      rw [Function.iterate_succ_apply', macNumber_nextMac, ih, length_iterate_nextMac,
        Nat.mod_add_mod, Nat.add_assoc]

/-! ## The table behind a read -/

section Filled

variable {device : Device} {version : Version} (s : BoardRun)

theorem size_boardMac (version : Version) : (version.offsetSize .boardMac).size = 6 := by
  cases version <;> rfl

/-- The first row and its terminator, before the others are made of it. -/
def firstRow (device : Device) (version : Version) (s : BoardRun) : BoardRun :=
  (readBytes device false 6 (version.offsetSize .boardMac).offset Field.boardMac.place xstSuccess
    s).2.store (Field.boardMac.place + 6) 0

private theorem fillMacTable_eq :
    fillMacTable device version s = expandMacTable 6 (firstRow device version s) := by
  rw [fillMacTable, size_boardMac]
  rfl

@[simp] theorem transfers_fillMacTable :
    (fillMacTable device version s).transfers = s.transfers + 6 := by
  rw [fillMacTable_eq]
  simp [expandMacTable, firstRow]

private theorem boardInfo_firstRow_outside {other : Nat}
    (h : other < Field.boardMac.place ∨ Field.boardMac.place + 7 ≤ other) :
    (firstRow device version s).boardInfo other = s.boardInfo other := by
  rw [firstRow, boardInfo_store, Function.update_of_ne (by omega),
    boardInfo_readBytes_outside device false _ _ _ (by omega)]

theorem boardInfo_firstRow {i : Nat} (hi : i < 6) :
    (firstRow device version s).boardInfo (Field.boardMac.place + i) =
      (device.transfer (s.transfers + i)).value
        (device.content ((version.offsetSize .boardMac).offset + UInt16.ofNat (0x100 * i)))
        (s.boardInfo (Field.boardMac.place + i)) := by
  rw [firstRow, boardInfo_store, Function.update_of_ne (by omega),
    boardInfo_readBytes device false _ _ _ _ hi]
  simp [unpadded]

private theorem slice_firstRow {s : BoardRun}
    (hsuccess : device.Succeeds s.transfers (s.transfers + 6)) :
    (firstRow device version s).boardInfo.slice Field.boardMac.place 7 =
      baseMac version device.content ++ [0] := by
  have hbytes : (firstRow device version s).boardInfo.slice Field.boardMac.place 6 =
      baseMac version device.content := by
    rw [Memory.slice, List.range'_eq_map_range, List.map_map]
    refine List.map_congr_left fun i hi => ?_
    have hlt := List.mem_range.1 hi
    rw [Function.comp_apply, boardInfo_firstRow s hlt, hsuccess _ (by omega) (by omega)]
    rfl
  rw [Memory.slice_add _ _ 6 1, hbytes, Memory.slice_succ, Memory.slice_zero]
  simp [firstRow]

variable {s}

private theorem slice_fillMacTable (hsuccess : device.Succeeds s.transfers (s.transfers + 6))
    {k : Nat} (hk : k = 0 ∨ k < (s.boardInfo Field.boardTotMacId.place).toNat) :
    (fillMacTable device version s).boardInfo.slice (Field.boardMac.place + 7 * k) 7 =
      nextMac^[k] (baseMac version device.content) ++ [0] := by
  have hrow := @slice_firstRow device version s hsuccess
  have hbase := length_baseMac version device.content
  have hmac : (firstRow device version s).boardInfo.slice Field.boardMac.place 6 =
      baseMac version device.content := by
    rw [Memory.slice_add _ _ 6 1] at hrow
    exact (List.append_inj hrow (by simp [hbase])).1
  have hcount : (firstRow device version s).boardInfo Field.boardTotMacId.place =
      s.boardInfo Field.boardTotMacId.place :=
    boardInfo_firstRow_outside s (.inl (by decide))
  rw [fillMacTable_eq, expandMacTable]
  simp only [hcount, hmac]
  cases k with
  | zero =>
      refine (Memory.slice_congr fun a hle hlt => ?_).trans hrow
      exact expandMacRows_outside hbase _ (.inl (by omega))
  | succ k =>
      have hlt : k < (s.boardInfo Field.boardTotMacId.place).toNat - 1 := by omega
      rw [show Field.boardMac.place + 7 * (k + 1) = Field.boardMac.place + 7 * (1 + k) by omega]
      exact slice_expandMacRows hbase _ hlt

theorem boardInfo_fillMacTable_outside {other : Nat}
    (h : other < Field.boardMac.place ∨ Field.boardMac.place + 7 ≤ other ∧
      Field.boardMac.place + 7 * (s.boardInfo Field.boardTotMacId.place).toNat ≤ other) :
    (fillMacTable device version s).boardInfo other = s.boardInfo other := by
  have hcount : (firstRow device version s).boardInfo Field.boardTotMacId.place =
      s.boardInfo Field.boardTotMacId.place :=
    boardInfo_firstRow_outside s (.inl (by decide))
  rw [fillMacTable_eq, expandMacTable]
  simp only [hcount]
  rw [expandMacRows_outside (Memory.length_slice _ _ 6) _ (by omega),
    boardInfo_firstRow_outside s (by omega)]

theorem boardInfo_fillMacTable_first {i : Nat} (hi : i < 7) :
    (fillMacTable device version s).boardInfo (Field.boardMac.place + i) =
      (firstRow device version s).boardInfo (Field.boardMac.place + i) := by
  rw [fillMacTable_eq, expandMacTable]
  exact expandMacRows_outside (Memory.length_slice _ _ 6) _ (.inl (by omega))

end Filled

/-! ## The whole function, when no read fails -/

def Device.reliable (content : UInt16 → UInt8) : Device := ⟨content, fun _ => .success⟩

@[simp] theorem content_reliable (content : UInt16 → UInt8) :
    (Device.reliable content).content = content := rfl

theorem succeeds_reliable (content : UInt16 → UInt8) (first last : Nat) :
    (Device.reliable content).Succeeds first last := fun _ _ _ => rfl

def versionOf (content : UInt16 → UInt8) : Option Version :=
  detect (unpadded true (content 0x0000)) (unpadded true (content 0x0100))
    (unpadded true (content 0x0200))

def macCount (version : Version) (content : UInt16 → UInt8) : Nat :=
  (macCountByte version content).toNat

/-- The table has the MACs the count promises, and nothing is written outside of it. -/
structure FillsMacTable (content : UInt16 → UInt8) (s : BoardRun) : Prop where
  rows : ∀ version, versionOf content = some version → ∀ k < macCount version content,
    let row := (versalEepromReadBoardInfo (.reliable content) s).2.boardInfo.slice
      (Field.boardMac.place + 7 * k) 7
    macNumber (row.take 6) = (macNumber (baseMac version content) + k) % 2 ^ 48 ∧
      row.drop 6 = [0]
  inside : ∀ version, versionOf content = some version → ∀ before : BoardRun,
    before.boardInfo Field.boardTotMacId.place = macCountByte version content →
      ∀ other, (other < Field.boardMac.place ∨ Field.boardMac.place + macTableSize ≤ other) →
        (fillMacTable (.reliable content) version before).boardInfo other =
          before.boardInfo other

section Function

variable {content : UInt16 → UInt8} {version : Version}

private theorem foundVersion_reliable (s : BoardRun) :
    foundVersion (readVersion (.reliable content) s).2.boardInfo = versionOf content := by
  have hbyte (i : Nat) (hi : i < 3) :
      (readVersion (.reliable content) s).2.boardInfo i =
        unpadded true (content (UInt16.ofNat (0x100 * i))) := by
    have h := boardInfo_updateBoardInfoData (.reliable content) 0 0x0000 3
      (verifyChecksum (.reliable content) s).2 hi
    rw [Nat.zero_add, UInt16.zero_add] at h
    exact h
  rw [foundVersion, hbyte 0 (by decide), hbyte 1 (by decide), hbyte 2 (by decide)]
  rfl

private theorem versalEepromReadBoardInfo_of_version (hversion : versionOf content = some version)
    (s : BoardRun) :
    versalEepromReadBoardInfo (.reliable content) s =
      readFields (.reliable content) version
        (updateField (.reliable content) version .productName
          (readVersion (.reliable content) s).2).2 := by
  refine versalEepromReadBoardInfo_of_found ?_ ?_ ?_
  · exact status_updateBoardInfoData _ _ _ _ _ (by decide)
  · rw [foundVersion_reliable, hversion]
  · refine status_updateBoardInfoData _ _ _ _ _ ?_
    cases version <;> decide

private theorem boardInfo_readFields_table (s : BoardRun) {other : Nat}
    (h : other < Field.boardMac.place + macTableSize) :
    (readFields (.reliable content) version s).2.boardInfo other =
      (fillMacTable (.reliable content) version (readMacCount (.reliable content) version
        (updateFields (.reliable content) version [.boardRev, .boardSerial] xstSuccess
          s).2)).boardInfo other := by
  refine boardInfo_updateFields_below _ _ fun field hfield => Nat.lt_of_lt_of_le h ?_
  have hall : ∀ field ∈ fieldsBehindMac version,
      Field.boardMac.place + macTableSize ≤ field.place := by
    cases version <;> decide
  exact hall field hfield

private theorem not_fillsMacTable {s : BoardRun} (hversion : versionOf content = some version)
    (hmany : 4 < macCount version content) : ¬ FillsMacTable content s := by
  intro h
  let before : BoardRun :=
    ⟨Function.update (fun _ => 1) Field.boardTotMacId.place (macCountByte version content), 0⟩
  have hcount : before.boardInfo Field.boardTotMacId.place = macCountByte version content := by
    simp [before]
  have hsame := h.inside version hversion before hcount
    (Field.boardMac.place + 7 * 4 + 6) (.inr (by decide))
  have hrow := @slice_fillMacTable (.reliable content) version before (succeeds_reliable _ _ _) 4
    (.inr (by rw [hcount]; exact hmany))
  have hlast : (fillMacTable (.reliable content) version before).boardInfo
      (Field.boardMac.place + 7 * 4 + 6) = 0 := by
    rw [Memory.slice_add _ _ 6 1] at hrow
    have hlength : (nextMac^[4] (baseMac version content)).length = 6 := by
      rw [length_iterate_nextMac, length_baseMac]
    exact List.singleton_inj.1 (List.append_inj hrow (by rw [Memory.length_slice, content_reliable,
      hlength])).2
  rw [hlast] at hsame
  exact absurd hsame.symm (by simp [before, Field.place])

theorem fillsMacTable_iff (content : UInt16 → UInt8) (s : BoardRun) :
    FillsMacTable content s ↔
      ∀ version, versionOf content = some version → macCount version content ≤ 4 := by
  constructor
  · intro h version hversion
    exact Nat.le_of_not_lt fun hmany => not_fillsMacTable hversion hmany h
  · intro h
    refine ⟨fun version hversion k hk => ?_, fun version hversion before hcount other hother => ?_⟩
    · have hk4 : k < 4 := Nat.lt_of_lt_of_le hk (h version hversion)
      rw [versalEepromReadBoardInfo_of_version hversion]
      have hsame := @boardInfo_readFields_table content version
        (updateField (.reliable content) version .productName
          (readVersion (.reliable content) s).2).2
      have hcount := @boardInfo_readMacCount (.reliable content) version
        (updateFields (.reliable content) version [.boardRev, .boardSerial] xstSuccess
          (updateField (.reliable content) version .productName
            (readVersion (.reliable content) s).2).2).2 (succeeds_reliable _ _ _)
      have hrow := @slice_fillMacTable (.reliable content) version _ (succeeds_reliable _ _ _) k
        (.inr (by rw [hcount]; exact hk))
      have hfinal := (Memory.slice_congr fun a _ hlt => @hsame a (by
        rw [macTableSize]
        omega)).trans hrow
      have hlength : (nextMac^[k] (baseMac version content)).length = 6 := by
        rw [length_iterate_nextMac, length_baseMac]
      rw [content_reliable] at hfinal
      refine ⟨?_, ?_⟩
      · rw [hfinal, List.take_left' hlength, macNumber_iterate, length_baseMac]
      · rw [hfinal, List.drop_left' hlength]
    · refine boardInfo_fillMacTable_outside ?_
      have hfew : (macCountByte version content).toNat ≤ 4 := h version hversion
      rw [hcount]
      rw [macTableSize] at hother
      omega

def fiveMacs (offset : UInt16) : UInt8 :=
  if offset = 0x0000 then 0x33
  else if offset = 0x0100 then 0x2E
  else if offset = 0x0200 then 0x30
  else if offset = 0x3600 then 5
  else 0

theorem not_fillsMacTable_fiveMacs : ¬ FillsMacTable fiveMacs ⟨fun _ => 0, 0⟩ :=
  @not_fillsMacTable fiveMacs .v3_0 _ (by decide) (by decide)

end Function

end Vmr.Vmc.Eeprom
