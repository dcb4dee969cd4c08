import Vmr.Xclbin.Axlf

/-!
# What the removal of one section does

The data behind the section moves down over it, then everything behind its
header moves down over the header.  The other sections keep kind, size and data.
-/

namespace Vmr.Xclbin

open Vmr.Lib

@[ext] structure SectionHeader where
  kind : UInt32
  offset : UInt64
  size : UInt64
  deriving DecidableEq, Repr

def sectionHeader (xclbin : Memory) (index : Nat) : SectionHeader :=
  { kind := mSectionKind xclbin index
    offset := mSectionOffset xclbin index
    size := mSectionSize xclbin index }

def SectionHeader.moved (header : SectionHeader) (bytes : UInt64) : SectionHeader :=
  { header with offset := header.offset - bytes }

private theorem SectionHeader.toNat_moved (header : SectionHeader) (bytes : UInt64)
    (h : bytes.toNat ≤ header.offset.toNat) :
    (header.moved bytes).offset.toNat + bytes.toNat = header.offset.toNat := by
  have hsub := UInt64.toNat_sub_of_le header.offset bytes (UInt64.le_iff_toNat_le.2 h)
  rw [SectionHeader.moved, hsub]
  exact Nat.sub_add_cancel h

/-! ## Frames -/

private theorem sectionHeader_shift {xclbin xclbin' : Memory} {index index' : Nat}
    (h : ∀ offset < sectionHeaderSize, xclbin' (sectionHeaderAddr index' + offset) =
      xclbin (sectionHeaderAddr index + offset)) :
    sectionHeader xclbin' index' = sectionHeader xclbin index := by
  have hfield (position length : Nat) (hfits : position + length ≤ sectionHeaderSize) :
      xclbin'.number (sectionHeaderAddr index' + position) length =
        xclbin.number (sectionHeaderAddr index + position) length :=
    Memory.number_shift fun offset hoffset => by
      rw [Nat.add_assoc, Nat.add_assoc]
      exact h _ (by omega)
  ext1
  · exact congrArg UInt32.ofNat (hfield 0 4 (by decide))
  · exact congrArg UInt64.ofNat (hfield 24 8 (by decide))
  · exact congrArg UInt64.ofNat (hfield 32 8 (by decide))

private theorem sectionHeader_congr {xclbin xclbin' : Memory} {index : Nat}
    (h : xclbin.AgreeOn xclbin' (sectionHeaderAddr index) sectionHeaderSize) :
    sectionHeader xclbin' index = sectionHeader xclbin index :=
  sectionHeader_shift fun offset hoffset => h _ (by omega) (by omega)

theorem sectionHeaderAddr_mono {index index' : Nat} (h : index ≤ index') :
    sectionHeaderAddr index ≤ sectionHeaderAddr index' :=
  Nat.add_le_add_left (Nat.mul_le_mul_left _ h) _

theorem sectionHeaderAddr_le {index index' : Nat} (h : index < index') :
    sectionHeaderAddr index + sectionHeaderSize ≤ sectionHeaderAddr index' := by
  simp only [sectionHeaderAddr, sectionHeaderSize]
  omega

theorem sectionsAddr_le (index : Nat) : sectionsAddr ≤ sectionHeaderAddr index :=
  Nat.le_add_right _ _

theorem sectionHeaderAddr_succ (index : Nat) :
    sectionHeaderAddr (index + 1) = sectionHeaderAddr index + sectionHeaderSize := by
  rw [sectionHeaderAddr, Nat.mul_add, Nat.mul_one, ← Nat.add_assoc]
  rfl

private theorem mLength_congr {xclbin xclbin' : Memory}
    (h : xclbin.AgreeOn xclbin' 0 sectionsAddr) :
    mLength xclbin' = mLength xclbin :=
  (h.sub (by decide) (by decide)).load64

private theorem mNumSections_congr {xclbin xclbin' : Memory}
    (h : xclbin.AgreeOn xclbin' 0 sectionsAddr) :
    mNumSections xclbin' = mNumSections xclbin :=
  (h.sub (by decide) (by decide)).load32

@[simp] theorem mLength_setLength (xclbin : Memory) (length : UInt64) :
    mLength (setLength xclbin length) = length := by
  simp [mLength, setLength]

@[simp] theorem mNumSections_setLength (xclbin : Memory) (length : UInt64) :
    mNumSections (setLength xclbin length) = mNumSections xclbin :=
  (Memory.agreeOn_store _ _ (.inl (by decide))).load32

@[simp] theorem sectionHeader_setLength (xclbin : Memory) (length : UInt64) (index : Nat) :
    sectionHeader (setLength xclbin length) index = sectionHeader xclbin index :=
  sectionHeader_congr (Memory.agreeOn_store _ _
    (.inl (Nat.le_trans (by decide) (sectionsAddr_le index))))

@[simp] theorem mNumSections_setNumSections (xclbin : Memory) (numSections : UInt32) :
    mNumSections (setNumSections xclbin numSections) = numSections := by
  simp [mNumSections, setNumSections]

@[simp] theorem mLength_setNumSections (xclbin : Memory) (numSections : UInt32) :
    mLength (setNumSections xclbin numSections) = mLength xclbin :=
  (Memory.agreeOn_store _ _ (.inr (by decide))).load64

@[simp] theorem sectionHeader_setNumSections (xclbin : Memory) (numSections : UInt32)
    (index : Nat) :
    sectionHeader (setNumSections xclbin numSections) index = sectionHeader xclbin index :=
  sectionHeader_congr (Memory.agreeOn_store _ _
    (.inl (Nat.le_trans (by decide) (sectionsAddr_le index))))

theorem setLength_above (xclbin : Memory) (length : UInt64) {address : Nat}
    (h : sectionsAddr ≤ address) : setLength xclbin length address = xclbin address :=
  xclbin.store_outside _ (.inr (Nat.le_trans (by decide) h))

theorem setNumSections_above (xclbin : Memory) (numSections : UInt32) {address : Nat}
    (h : sectionsAddr ≤ address) : setNumSections xclbin numSections address = xclbin address :=
  xclbin.store_outside _ (.inr (Nat.le_trans (by decide) h))

/-! ## The offsets -/

private theorem sectionHeader_setSectionOffset (xclbin : Memory) (index index' : Nat)
    (offset : UInt64) :
    sectionHeader (setSectionOffset xclbin index offset) index' =
      if index' = index then { sectionHeader xclbin index with offset }
      else sectionHeader xclbin index' := by
  split
  · next heq =>
      subst heq
      ext1
      · exact (Memory.agreeOn_store _ _ (.inr (by omega))).load32
      · exact Memory.load64_store64 _ _ _
      · exact (Memory.agreeOn_store _ _ (.inl (by omega))).load64
  · next hne =>
      apply sectionHeader_congr
      apply Memory.agreeOn_store
      rcases Nat.lt_or_gt_of_ne hne with hlt | hgt
      · exact .inr (Nat.le_trans (sectionHeaderAddr_le hlt) (Nat.le_add_right _ _))
      · have hnext := sectionHeaderAddr_le hgt
        simp only [sectionHeaderSize] at hnext
        exact .inl (by omega)

theorem subtractOffsets_outside (bytes : UInt64) (first count : Nat) (xclbin : Memory)
    {address : Nat}
    (h : address < sectionHeaderAddr first ∨ sectionHeaderAddr (first + count) ≤ address) :
    subtractOffsets bytes first count xclbin address = xclbin address := by
  induction count generalizing first xclbin with
  | zero => rfl
  | succ count ih =>
      have hfirst := sectionHeaderAddr_le (Nat.lt_add_one first)
      have hlast := sectionHeaderAddr_le (show first < first + (count + 1) by omega)
      simp only [sectionHeaderSize] at hfirst hlast
      rw [subtractOffsets, ih]
      · exact xclbin.store_outside _ (by omega)
      · rw [show first + 1 + count = first + (count + 1) by omega]
        omega

private theorem subtractOffsets_agreeOn (bytes : UInt64) (first count : Nat) (xclbin : Memory) :
    xclbin.AgreeOn (subtractOffsets bytes first count xclbin) 0 sectionsAddr := by
  intro address _ hhigh
  have hle := sectionsAddr_le first
  exact subtractOffsets_outside bytes first count xclbin (.inl (by omega))

@[simp] theorem mLength_subtractOffsets (bytes : UInt64) (first count : Nat) (xclbin : Memory) :
    mLength (subtractOffsets bytes first count xclbin) = mLength xclbin :=
  mLength_congr (subtractOffsets_agreeOn bytes first count xclbin)

@[simp] theorem mNumSections_subtractOffsets (bytes : UInt64) (first count : Nat)
    (xclbin : Memory) :
    mNumSections (subtractOffsets bytes first count xclbin) = mNumSections xclbin :=
  mNumSections_congr (subtractOffsets_agreeOn bytes first count xclbin)

private theorem sectionHeader_subtractOffsets (bytes : UInt64) (first count : Nat) (xclbin : Memory)
    (index : Nat) :
    sectionHeader (subtractOffsets bytes first count xclbin) index =
      if first ≤ index ∧ index < first + count then (sectionHeader xclbin index).moved bytes
      else sectionHeader xclbin index := by
  induction count generalizing first xclbin with
  | zero => rw [if_neg (by omega)]; rfl
  | succ count ih =>
      rw [subtractOffsets, ih, sectionHeader_setSectionOffset]
      by_cases hfirst : index = first
      · subst hfirst
        rw [if_neg (by omega), if_pos rfl, if_pos (by omega)]
        rfl
      · rw [if_neg hfirst]
        by_cases hin : first + 1 ≤ index ∧ index < first + 1 + count
        · rw [if_pos hin, if_pos (by omega)]
        · rw [if_neg hin, if_neg (by omega)]

/-! ## Well-formed containers -/

/-- The header array and behind it the sections, in order and without overlap. -/
structure WellFormed (xclbin : Memory) : Prop where
  headers : sectionHeaderAddr (mNumSections xclbin).toNat ≤ (mLength xclbin).toNat
  behind : ∀ index < (mNumSections xclbin).toNat,
    sectionHeaderAddr (mNumSections xclbin).toNat ≤ (mSectionOffset xclbin index).toNat
  ordered : ∀ index, index + 1 < (mNumSections xclbin).toNat →
    (mSectionOffset xclbin index).toNat + (mSectionSize xclbin index).toNat ≤
      (mSectionOffset xclbin (index + 1)).toNat
  inside : ∀ index < (mNumSections xclbin).toNat,
    (mSectionOffset xclbin index).toNat + (mSectionSize xclbin index).toNat ≤
      (mLength xclbin).toNat

instance (xclbin : Memory) : Decidable (WellFormed xclbin) :=
  decidable_of_iff
    (sectionHeaderAddr (mNumSections xclbin).toNat ≤ (mLength xclbin).toNat ∧
      (∀ index < (mNumSections xclbin).toNat, sectionHeaderAddr (mNumSections xclbin).toNat ≤
        (mSectionOffset xclbin index).toNat) ∧
      (∀ index < (mNumSections xclbin).toNat - 1,
        (mSectionOffset xclbin index).toNat + (mSectionSize xclbin index).toNat ≤
          (mSectionOffset xclbin (index + 1)).toNat) ∧
      ∀ index < (mNumSections xclbin).toNat,
        (mSectionOffset xclbin index).toNat + (mSectionSize xclbin index).toNat ≤
          (mLength xclbin).toNat)
    ⟨fun ⟨headers, behind, ordered, inside⟩ =>
      ⟨headers, behind, fun index hindex => ordered index (by omega), inside⟩,
      fun h => ⟨h.headers, h.behind, fun index hindex => h.ordered index (by omega), h.inside⟩⟩

theorem WellFormed.before {xclbin : Memory} (h : WellFormed xclbin) {index index' : Nat}
    (hlt : index < index') (hindex' : index' < (mNumSections xclbin).toNat) :
    (mSectionOffset xclbin index).toNat + (mSectionSize xclbin index).toNat ≤
      (mSectionOffset xclbin index').toNat := by
  induction index' with
  | zero => cases hlt
  | succ last ih =>
      have hlast := h.ordered last hindex'
      rcases Nat.lt_or_ge index last with hbefore | hge
      · have hrest := ih hbefore (by omega)
        omega
      · obtain rfl : index = last := by omega
        exact hlast

/-! ## The data moves down -/

def startFrom (xclbin : Memory) (index : Nat) : UInt64 :=
  if index + 1 = (mNumSections xclbin).toNat then
    mSectionOffset xclbin index + mSectionSize xclbin index
  else mSectionOffset xclbin (index + 1)

def bytesRemoved (xclbin : Memory) (index : Nat) : UInt64 :=
  startFrom xclbin index - mSectionOffset xclbin index

def removeData (index : Nat) (xclbin : Memory) : Memory :=
  let bytesToCopy := mLength xclbin - startFrom xclbin index
  let moved :=
    if bytesToCopy ≠ 0 then
      xclbin.copyForward (mSectionOffset xclbin index).toNat (startFrom xclbin index).toNat
        bytesToCopy.toNat
    else xclbin
  let moved := setLength moved (mLength moved - bytesRemoved xclbin index)
  subtractOffsets (bytesRemoved xclbin index) (index + 1)
    ((mNumSections moved).toNat - (index + 1)) moved

def removeEntry (index : Nat) (xclbin : Memory) : Memory :=
  let bytesToShift := mLength xclbin - UInt64.ofNat (sectionHeaderAddr (index + 1))
  let xclbin := xclbin.copyForward (sectionHeaderAddr index) (sectionHeaderAddr (index + 1))
    bytesToShift.toNat
  let xclbin := setNumSections xclbin (mNumSections xclbin - 1)
  let xclbin := setLength xclbin (mLength xclbin - UInt64.ofNat sectionHeaderSize)
  subtractOffsets (UInt64.ofNat sectionHeaderSize) 0 (mNumSections xclbin).toNat xclbin

def clearEntry (xclbin : Memory) : Memory :=
  setSectionSize (setSectionOffset (setSectionKind (setNumSections xclbin 0) 0 0) 0 0) 0 0

theorem removeSection_eq (index : Nat) (xclbin : Memory) :
    removeSection index xclbin =
      if mNumSections (removeData index xclbin) = 1 then clearEntry (removeData index xclbin)
      else removeEntry index (removeData index xclbin) := rfl

section Data

variable {xclbin : Memory} {index : Nat}

theorem toNat_startFrom (h : WellFormed xclbin) (hindex : index < (mNumSections xclbin).toNat) :
    (startFrom xclbin index).toNat =
      if index + 1 = (mNumSections xclbin).toNat then
        (mSectionOffset xclbin index).toNat + (mSectionSize xclbin index).toNat
      else (mSectionOffset xclbin (index + 1)).toNat := by
  rw [startFrom]
  split
  · rw [UInt64.toNat_add]
    exact Nat.mod_eq_of_lt (Nat.lt_of_le_of_lt (h.inside index hindex) (UInt64.toNat_lt _))
  · rfl

theorem startFrom_ge (h : WellFormed xclbin) (hindex : index < (mNumSections xclbin).toNat) :
    (mSectionOffset xclbin index).toNat + (mSectionSize xclbin index).toNat ≤
      (startFrom xclbin index).toNat := by
  rw [toNat_startFrom h hindex]
  split
  · exact Nat.le_refl _
  · exact h.ordered index (by omega)

theorem startFrom_le (h : WellFormed xclbin) (hindex : index < (mNumSections xclbin).toNat) :
    (startFrom xclbin index).toNat ≤ (mLength xclbin).toNat := by
  rw [toNat_startFrom h hindex]
  split
  · exact h.inside index hindex
  · have hnext := h.inside (index + 1) (by omega)
    omega

theorem toNat_bytesRemoved (h : WellFormed xclbin) (hindex : index < (mNumSections xclbin).toNat) :
    (bytesRemoved xclbin index).toNat + (mSectionOffset xclbin index).toNat =
      (startFrom xclbin index).toNat := by
  have hge := startFrom_ge h hindex
  rw [bytesRemoved, UInt64.toNat_sub_of_le _ _ (UInt64.le_iff_toNat_le.2 (by omega))]
  omega

private theorem copyData (h : WellFormed xclbin) (hindex : index < (mNumSections xclbin).toNat)
    (address : Nat) :
    (if mLength xclbin - startFrom xclbin index ≠ 0 then
      xclbin.copyForward (mSectionOffset xclbin index).toNat (startFrom xclbin index).toNat
        (mLength xclbin - startFrom xclbin index).toNat
    else xclbin) address =
      if (mSectionOffset xclbin index).toNat ≤ address ∧
          address + (bytesRemoved xclbin index).toNat < (mLength xclbin).toNat then
        xclbin (address + (bytesRemoved xclbin index).toNat)
      else xclbin address := by
  have hge := startFrom_ge h hindex
  have hle := startFrom_le h hindex
  have hremoved := toNat_bytesRemoved h hindex
  have hcopy : (mLength xclbin - startFrom xclbin index).toNat =
      (mLength xclbin).toNat - (startFrom xclbin index).toNat :=
    UInt64.toNat_sub_of_le _ _ (UInt64.le_iff_toNat_le.2 hle)
  by_cases hzero : mLength xclbin - startFrom xclbin index = 0
  · rw [hzero] at hcopy
    rw [if_neg (not_not.2 hzero), if_neg]
    simp only [UInt64.toNat_zero] at hcopy
    omega
  · rw [if_pos hzero]
    split
    · next hin =>
        obtain ⟨offset, rfl⟩ := Nat.exists_eq_add_of_le hin.1
        rw [Memory.copyForward_inside _ (by omega) (by omega)]
        refine congrArg xclbin ?_
        omega
    · next hout => exact Memory.copyForward_outside _ (by omega)

private theorem copyData_headers (h : WellFormed xclbin)
    (hindex : index < (mNumSections xclbin).toNat)
    {start length : Nat}
    (hhigh : start + length ≤ sectionHeaderAddr (mNumSections xclbin).toNat) :
    xclbin.AgreeOn (if mLength xclbin - startFrom xclbin index ≠ 0 then
      xclbin.copyForward (mSectionOffset xclbin index).toNat (startFrom xclbin index).toNat
        (mLength xclbin - startFrom xclbin index).toNat
    else xclbin) start length := by
  intro address _ hend
  have hbehind := h.behind index hindex
  rw [copyData h hindex, if_neg (by omega)]

theorem mNumSections_removeData (h : WellFormed xclbin)
    (hindex : index < (mNumSections xclbin).toNat) :
    mNumSections (removeData index xclbin) = mNumSections xclbin := by
  simp only [removeData, mNumSections_subtractOffsets, mNumSections_setLength]
  exact mNumSections_congr (copyData_headers h hindex (by simp [sectionsAddr_le]))

theorem mLength_removeData (h : WellFormed xclbin)
    (hindex : index < (mNumSections xclbin).toNat) :
    (mLength (removeData index xclbin)).toNat + (bytesRemoved xclbin index).toNat =
      (mLength xclbin).toNat := by
  have hremoved := toNat_bytesRemoved h hindex
  have hle := startFrom_le h hindex
  have hlength : mLength (removeData index xclbin) =
      mLength xclbin - bytesRemoved xclbin index := by
    simp only [removeData, mLength_subtractOffsets, mLength_setLength]
    rw [mLength_congr (copyData_headers h hindex (by simp [sectionsAddr_le]))]
  rw [hlength, UInt64.toNat_sub_of_le _ _ (UInt64.le_iff_toNat_le.2 (by omega))]
  omega

private theorem sectionHeader_removeData (h : WellFormed xclbin)
    (hindex : index < (mNumSections xclbin).toNat) {other : Nat}
    (hother : other < (mNumSections xclbin).toNat) :
    sectionHeader (removeData index xclbin) other =
      if index < other then (sectionHeader xclbin other).moved (bytesRemoved xclbin index)
      else sectionHeader xclbin other := by
  have hnum := mNumSections_removeData h hindex
  simp only [removeData, mNumSections_subtractOffsets] at hnum
  simp only [removeData, sectionHeader_subtractOffsets, hnum, sectionHeader_setLength]
  rw [sectionHeader_congr (copyData_headers h hindex (sectionHeaderAddr_le hother))]
  by_cases hlt : index < other
  · rw [if_pos hlt, if_pos (by omega)]
  · rw [if_neg hlt, if_neg (by omega)]

theorem removeData_apply (h : WellFormed xclbin) (hindex : index < (mNumSections xclbin).toNat)
    {address : Nat} (haddress : sectionHeaderAddr (mNumSections xclbin).toNat ≤ address) :
    removeData index xclbin address =
      if (mSectionOffset xclbin index).toNat ≤ address ∧
          address + (bytesRemoved xclbin index).toNat < (mLength xclbin).toNat then
        xclbin (address + (bytesRemoved xclbin index).toNat)
      else xclbin address := by
  have hnum := mNumSections_removeData h hindex
  simp only [removeData, mNumSections_subtractOffsets] at hnum
  simp only [removeData, hnum]
  rw [subtractOffsets_outside, setLength_above _ _ (Nat.le_trans (sectionsAddr_le _) haddress)]
  · exact copyData h hindex address
  · rw [Nat.add_sub_cancel' hindex]
    exact .inr haddress

end Data

/-! ## The header array moves down -/

section Entry

variable {xclbin : Memory} {index : Nat}

theorem toNat_behindEntry (hindex : index < (mNumSections xclbin).toNat)
    (hheaders : sectionHeaderAddr (mNumSections xclbin).toNat ≤ (mLength xclbin).toNat) :
    sectionHeaderAddr (index + 1) ≤ (mLength xclbin).toNat ∧
      (mLength xclbin - UInt64.ofNat (sectionHeaderAddr (index + 1))).toNat =
        (mLength xclbin).toNat - sectionHeaderAddr (index + 1) := by
  have hle : sectionHeaderAddr (index + 1) ≤ (mLength xclbin).toNat :=
    Nat.le_trans (sectionHeaderAddr_mono hindex) hheaders
  have hsmall : (UInt64.ofNat (sectionHeaderAddr (index + 1))).toNat =
      sectionHeaderAddr (index + 1) :=
    UInt64.toNat_ofNat_of_lt' (Nat.lt_of_le_of_lt hle (UInt64.toNat_lt _))
  refine ⟨hle, ?_⟩
  rw [UInt64.toNat_sub_of_le _ _ (UInt64.le_iff_toNat_le.2 (by omega)), hsmall]

theorem copyEntry (hindex : index < (mNumSections xclbin).toNat)
    (hheaders : sectionHeaderAddr (mNumSections xclbin).toNat ≤ (mLength xclbin).toNat)
    (address : Nat) :
    xclbin.copyForward (sectionHeaderAddr index) (sectionHeaderAddr (index + 1))
      (mLength xclbin - UInt64.ofNat (sectionHeaderAddr (index + 1))).toNat address =
        if sectionHeaderAddr index ≤ address ∧
            address + sectionHeaderSize < (mLength xclbin).toNat then
          xclbin (address + sectionHeaderSize)
        else xclbin address := by
  have hnext := sectionHeaderAddr_succ index
  obtain ⟨hle, hshift⟩ := toNat_behindEntry hindex hheaders
  rw [hshift]
  split
  · next hin =>
      obtain ⟨offset, rfl⟩ := Nat.exists_eq_add_of_le hin.1
      rw [Memory.copyForward_inside _ (by omega) (by omega), hnext]
      refine congrArg xclbin ?_
      omega
  · next hout => exact Memory.copyForward_outside _ (by omega)

private theorem copyEntry_low (hindex : index < (mNumSections xclbin).toNat)
    (hheaders : sectionHeaderAddr (mNumSections xclbin).toNat ≤ (mLength xclbin).toNat)
    {start length : Nat} (hhigh : start + length ≤ sectionHeaderAddr index) :
    xclbin.AgreeOn (xclbin.copyForward (sectionHeaderAddr index) (sectionHeaderAddr (index + 1))
      (mLength xclbin - UInt64.ofNat (sectionHeaderAddr (index + 1))).toNat) start length := by
  intro address _ hend
  rw [copyEntry hindex hheaders, if_neg (by omega)]

private theorem mNumSections_removeEntry (hindex : index < (mNumSections xclbin).toNat)
    (hheaders : sectionHeaderAddr (mNumSections xclbin).toNat ≤ (mLength xclbin).toNat) :
    mNumSections (removeEntry index xclbin) = mNumSections xclbin - 1 := by
  simp only [removeEntry, mNumSections_subtractOffsets, mNumSections_setLength,
    mNumSections_setNumSections]
  rw [mNumSections_congr (copyEntry_low hindex hheaders (by simp [sectionsAddr_le]))]

theorem toNat_mNumSections_removeEntry (hindex : index < (mNumSections xclbin).toNat)
    (hheaders : sectionHeaderAddr (mNumSections xclbin).toNat ≤ (mLength xclbin).toNat) :
    (mNumSections (removeEntry index xclbin)).toNat = (mNumSections xclbin).toNat - 1 := by
  rw [mNumSections_removeEntry hindex hheaders,
    UInt32.toNat_sub_of_le _ _ (UInt32.le_iff_toNat_le.2 (by simpa using (by omega)))]
  rfl

private theorem mLength_removeEntry (hindex : index < (mNumSections xclbin).toNat)
    (hheaders : sectionHeaderAddr (mNumSections xclbin).toNat ≤ (mLength xclbin).toNat) :
    (mLength (removeEntry index xclbin)).toNat + sectionHeaderSize = (mLength xclbin).toNat := by
  have hlength : mLength (removeEntry index xclbin) =
      mLength xclbin - UInt64.ofNat sectionHeaderSize := by
    simp only [removeEntry, mLength_subtractOffsets, mLength_setLength, mLength_setNumSections]
    rw [mLength_congr (copyEntry_low hindex hheaders (by simp [sectionsAddr_le]))]
  have hfits : sectionHeaderSize ≤ (mLength xclbin).toNat :=
    Nat.le_trans (Nat.le_trans (by decide) (sectionsAddr_le _)) hheaders
  have hle : UInt64.ofNat sectionHeaderSize ≤ mLength xclbin := UInt64.le_iff_toNat_le.2 hfits
  rw [hlength, UInt64.toNat_sub_of_le _ _ hle]
  exact Nat.sub_add_cancel hfits

private theorem sectionHeader_removeEntry (hindex : index < (mNumSections xclbin).toNat)
    (hheaders : sectionHeaderAddr (mNumSections xclbin).toNat ≤ (mLength xclbin).toNat)
    {other : Nat} (hother : other + 1 < (mNumSections xclbin).toNat) :
    sectionHeader (removeEntry index xclbin) other =
      (sectionHeader xclbin (if other < index then other else other + 1)).moved
        (UInt64.ofNat sectionHeaderSize) := by
  have hnum := toNat_mNumSections_removeEntry hindex hheaders
  simp only [removeEntry, mNumSections_subtractOffsets] at hnum
  simp only [removeEntry, sectionHeader_subtractOffsets, hnum, sectionHeader_setLength,
    sectionHeader_setNumSections]
  rw [if_pos (by omega)]
  refine congrArg (SectionHeader.moved · _) ?_
  split
  · next hlt =>
      exact sectionHeader_congr (copyEntry_low hindex hheaders (sectionHeaderAddr_le hlt))
  · next hge =>
      apply sectionHeader_shift
      intro offset hoffset
      have hlast := sectionHeaderAddr_le hother
      have hnext := sectionHeaderAddr_succ other
      have hfirst : sectionHeaderAddr index ≤ sectionHeaderAddr other := by
        simp only [sectionHeaderAddr, sectionHeaderSize]
        omega
      rw [copyEntry hindex hheaders, if_pos (by omega), hnext]
      refine congrArg xclbin ?_
      omega

private theorem removeEntry_apply (hindex : index < (mNumSections xclbin).toNat)
    (hheaders : sectionHeaderAddr (mNumSections xclbin).toNat ≤ (mLength xclbin).toNat)
    (address : Nat)
    (haddress : sectionHeaderAddr (mNumSections xclbin).toNat ≤ address + sectionHeaderSize)
    (hinside : address + sectionHeaderSize < (mLength xclbin).toNat) :
    removeEntry index xclbin address = xclbin (address + sectionHeaderSize) := by
  have hnum := toNat_mNumSections_removeEntry hindex hheaders
  simp only [removeEntry, mNumSections_subtractOffsets] at hnum
  have harray : sectionHeaderAddr ((mNumSections xclbin).toNat - 1) ≤ address := by
    simp only [sectionHeaderAddr, sectionHeaderSize] at haddress ⊢
    omega
  have hfirst : sectionHeaderAddr index ≤ address := by
    simp only [sectionHeaderAddr, sectionHeaderSize] at haddress ⊢
    omega
  have habove := Nat.le_trans (sectionsAddr_le _) hfirst
  simp only [removeEntry, hnum]
  rw [subtractOffsets_outside, setLength_above _ _ habove, setNumSections_above _ _ habove,
    copyEntry hindex hheaders, if_pos ⟨hfirst, hinside⟩]
  rw [Nat.zero_add]
  exact .inr harray

end Entry

/-! ## One section less -/

def formerIndex (index other : Nat) : Nat := if other < index then other else other + 1

/-- How far the data of a remaining section moves besides the size of a header. -/
def dataShift (xclbin : Memory) (index other : Nat) : Nat :=
  if other < index then 0 else (bytesRemoved xclbin index).toNat

section Step

variable {xclbin : Memory} {index : Nat}

private theorem formerIndex_lt (index : Nat) {other : Nat}
    (hother : other + 1 < (mNumSections xclbin).toNat) :
    formerIndex index other < (mNumSections xclbin).toNat := by
  rw [formerIndex]
  split <;> omega

theorem removeSection_of_many (h : WellFormed xclbin)
    (hindex : index < (mNumSections xclbin).toNat) (hmany : (mNumSections xclbin).toNat ≠ 1) :
    removeSection index xclbin = removeEntry index (removeData index xclbin) := by
  rw [removeSection_eq, mNumSections_removeData h hindex, if_neg]
  intro hone
  exact hmany (congrArg UInt32.toNat hone)

theorem headers_removeData (h : WellFormed xclbin) (hindex : index < (mNumSections xclbin).toNat) :
    sectionHeaderAddr (mNumSections (removeData index xclbin)).toNat ≤
      (mLength (removeData index xclbin)).toNat := by
  have hbehind := h.behind index hindex
  have hremoved := toNat_bytesRemoved h hindex
  have hle := startFrom_le h hindex
  have hlength := mLength_removeData h hindex
  rw [mNumSections_removeData h hindex]
  omega

theorem index_lt_removeData (h : WellFormed xclbin)
    (hindex : index < (mNumSections xclbin).toNat) :
    index < (mNumSections (removeData index xclbin)).toNat := by
  rwa [mNumSections_removeData h hindex]

theorem mNumSections_removeSection (h : WellFormed xclbin)
    (hindex : index < (mNumSections xclbin).toNat) (hmany : (mNumSections xclbin).toNat ≠ 1) :
    (mNumSections (removeSection index xclbin)).toNat = (mNumSections xclbin).toNat - 1 := by
  rw [removeSection_of_many h hindex hmany, toNat_mNumSections_removeEntry
    (index_lt_removeData h hindex) (headers_removeData h hindex), mNumSections_removeData h hindex]

theorem mLength_removeSection (h : WellFormed xclbin)
    (hindex : index < (mNumSections xclbin).toNat) (hmany : (mNumSections xclbin).toNat ≠ 1) :
    (mLength (removeSection index xclbin)).toNat + (bytesRemoved xclbin index).toNat +
      sectionHeaderSize = (mLength xclbin).toNat := by
  have hentry := mLength_removeEntry (index_lt_removeData h hindex) (headers_removeData h hindex)
  have hdata := mLength_removeData h hindex
  rw [removeSection_of_many h hindex hmany]
  omega

private theorem sectionHeader_removeSection (h : WellFormed xclbin)
    (hindex : index < (mNumSections xclbin).toNat) (hmany : (mNumSections xclbin).toNat ≠ 1)
    {other : Nat} (hother : other + 1 < (mNumSections xclbin).toNat) :
    sectionHeader (removeSection index xclbin) other =
      (if other < index then sectionHeader xclbin (formerIndex index other)
      else (sectionHeader xclbin (formerIndex index other)).moved
        (bytesRemoved xclbin index)).moved (UInt64.ofNat sectionHeaderSize) := by
  have hformer := formerIndex_lt index hother
  rw [removeSection_of_many h hindex hmany, sectionHeader_removeEntry (index_lt_removeData h hindex)
    (headers_removeData h hindex) (by rwa [mNumSections_removeData h hindex])]
  change (sectionHeader (removeData index xclbin) (formerIndex index other)).moved _ = _
  rw [sectionHeader_removeData h hindex hformer]
  rw [formerIndex]
  split
  · next hlt => rw [if_neg (by omega)]
  · next hge => rw [if_pos (by omega)]

private theorem dataShift_le (h : WellFormed xclbin) (hindex : index < (mNumSections xclbin).toNat)
    {other : Nat} (hother : other + 1 < (mNumSections xclbin).toNat) :
    sectionHeaderAddr (mNumSections xclbin).toNat + dataShift xclbin index other ≤
      (mSectionOffset xclbin (formerIndex index other)).toNat := by
  rw [dataShift, formerIndex]
  split
  · exact h.behind other (by omega)
  · next hge =>
      have hbehind := h.behind index hindex
      have hremoved := toNat_bytesRemoved h hindex
      have hstart := toNat_startFrom h hindex
      rw [if_neg (by omega)] at hstart
      rcases Nat.lt_or_ge index other with hlt | hle
      · have hbefore := h.before (show index + 1 < other + 1 by omega) hother
        omega
      · obtain rfl : other = index := by omega
        omega

theorem kind_removeSection (h : WellFormed xclbin) (hindex : index < (mNumSections xclbin).toNat)
    (hmany : (mNumSections xclbin).toNat ≠ 1) {other : Nat}
    (hother : other + 1 < (mNumSections xclbin).toNat) :
    mSectionKind (removeSection index xclbin) other =
      mSectionKind xclbin (formerIndex index other) := by
  have hheader := congrArg SectionHeader.kind (sectionHeader_removeSection h hindex hmany hother)
  refine hheader.trans ?_
  split <;> rfl

theorem size_removeSection (h : WellFormed xclbin) (hindex : index < (mNumSections xclbin).toNat)
    (hmany : (mNumSections xclbin).toNat ≠ 1) {other : Nat}
    (hother : other + 1 < (mNumSections xclbin).toNat) :
    mSectionSize (removeSection index xclbin) other =
      mSectionSize xclbin (formerIndex index other) := by
  have hheader := congrArg SectionHeader.size (sectionHeader_removeSection h hindex hmany hother)
  refine hheader.trans ?_
  split <;> rfl

theorem offset_removeSection (h : WellFormed xclbin) (hindex : index < (mNumSections xclbin).toNat)
    (hmany : (mNumSections xclbin).toNat ≠ 1) {other : Nat}
    (hother : other + 1 < (mNumSections xclbin).toNat) :
    (mSectionOffset (removeSection index xclbin) other).toNat + sectionHeaderSize +
      dataShift xclbin index other = (mSectionOffset xclbin (formerIndex index other)).toNat := by
  have hheader := congrArg SectionHeader.offset (sectionHeader_removeSection h hindex hmany hother)
  have hshift := dataShift_le h hindex hother
  have hsize : sectionHeaderSize ≤ sectionHeaderAddr (mNumSections xclbin).toNat :=
    Nat.le_trans (by decide) (sectionsAddr_le _)
  have hsmall : (UInt64.ofNat sectionHeaderSize).toNat = sectionHeaderSize := rfl
  have hoffset (place : Nat) :
      (mSectionOffset xclbin place).toNat = (sectionHeader xclbin place).offset.toNat := rfl
  change (sectionHeader (removeSection index xclbin) other).offset.toNat + _ + _ = _
  rw [hheader]
  rw [hoffset] at hshift ⊢
  rw [dataShift] at hshift ⊢
  by_cases hlt : other < index
  · rw [if_pos hlt] at hshift ⊢
    have hentry := (sectionHeader xclbin (formerIndex index other)).toNat_moved
      (UInt64.ofNat sectionHeaderSize) (by rw [hsmall]; omega)
    rw [hsmall] at hentry
    rw [if_pos hlt]
    omega
  · rw [if_neg hlt] at hshift ⊢
    have hdata := (sectionHeader xclbin (formerIndex index other)).toNat_moved
      (bytesRemoved xclbin index) (by omega)
    have hentry := ((sectionHeader xclbin (formerIndex index other)).moved
      (bytesRemoved xclbin index)).toNat_moved (UInt64.ofNat sectionHeaderSize)
        (by rw [hsmall]; omega)
    rw [hsmall] at hentry
    rw [if_neg hlt]
    omega

private theorem lt_mLength_removeData (h : WellFormed xclbin)
    (hindex : index < (mNumSections xclbin).toNat) :
    (mSectionOffset xclbin index).toNat ≤ (mLength (removeData index xclbin)).toNat := by
  have hremoved := toNat_bytesRemoved h hindex
  have hle := startFrom_le h hindex
  have hlength := mLength_removeData h hindex
  omega

theorem data_removeSection (h : WellFormed xclbin) (hindex : index < (mNumSections xclbin).toNat)
    (hmany : (mNumSections xclbin).toNat ≠ 1) {other : Nat}
    (hother : other + 1 < (mNumSections xclbin).toNat) :
    (removeSection index xclbin).slice (mSectionOffset (removeSection index xclbin) other).toNat
        (mSectionSize (removeSection index xclbin) other).toNat =
      xclbin.slice (mSectionOffset xclbin (formerIndex index other)).toNat
        (mSectionSize xclbin (formerIndex index other)).toNat := by
  have hoffset := offset_removeSection h hindex hmany hother
  have hshift := dataShift_le h hindex hother
  have hlength := mLength_removeData h hindex
  have hroom := lt_mLength_removeData h hindex
  have hinside := h.inside _ (formerIndex_lt index hother)
  rw [size_removeSection h hindex hmany hother]
  apply Memory.slice_shift
  intro offset hsize
  rw [dataShift, formerIndex] at hoffset hshift
  rw [formerIndex] at hsize hinside ⊢
  have hentry := removeEntry_apply (index_lt_removeData h hindex) (headers_removeData h hindex)
    ((mSectionOffset (removeSection index xclbin) other).toNat + offset)
  rw [mNumSections_removeData h hindex, ← removeSection_of_many h hindex hmany] at hentry
  by_cases hlt : other < index
  · have hbefore := h.before hlt hindex
    rw [if_pos hlt] at hoffset hshift hsize hinside ⊢
    rw [if_pos hlt] at hoffset hshift
    rw [hentry (by omega) (by omega), removeData_apply h hindex (by omega), if_neg (by omega)]
    refine congrArg xclbin ?_
    omega
  · have hstart := toNat_startFrom h hindex
    have hremoved := toNat_bytesRemoved h hindex
    rw [if_neg (by omega)] at hstart
    rw [if_neg hlt] at hoffset hshift hsize hinside ⊢
    rw [if_neg hlt] at hoffset hshift
    have hbehind : (mSectionOffset xclbin (index + 1)).toNat ≤
        (mSectionOffset xclbin (other + 1)).toNat := by
      rcases Nat.lt_or_ge index other with hafter | hle
      · have hbefore := h.before (show index + 1 < other + 1 by omega) hother
        omega
      · obtain rfl : other = index := by omega
        exact Nat.le_refl _
    rw [hentry (by omega) (by omega), removeData_apply h hindex (by omega), if_pos (by omega)]
    refine congrArg xclbin ?_
    omega

private theorem WellFormed.removeSection_many (h : WellFormed xclbin)
    (hindex : index < (mNumSections xclbin).toNat) (hmany : (mNumSections xclbin).toNat ≠ 1) :
    WellFormed (removeSection index xclbin) := by
  have hnum := mNumSections_removeSection h hindex hmany
  have hlength := mLength_removeSection h hindex hmany
  have hremoved := toNat_bytesRemoved h hindex
  have hbehind := h.behind index hindex
  have hfrom := startFrom_le h hindex
  have harray := sectionHeaderAddr_succ ((mNumSections xclbin).toNat - 1)
  rw [Nat.sub_add_cancel (by omega)] at harray
  constructor
  · rw [hnum]
    omega
  · intro other hother
    rw [hnum] at hother ⊢
    have hoffset := offset_removeSection h hindex hmany (show other + 1 < _ by omega)
    have hshift := dataShift_le h hindex (show other + 1 < _ by omega)
    omega
  · intro other hother
    rw [hnum] at hother
    have hoffset := offset_removeSection h hindex hmany (show other + 1 < _ by omega)
    have hnext := offset_removeSection h hindex hmany (show other + 1 + 1 < _ by omega)
    rw [size_removeSection h hindex hmany (by omega)]
    simp only [dataShift, formerIndex] at hoffset hnext ⊢
    by_cases hlt : other + 1 < index
    · have hordered := h.ordered other (by omega)
      rw [if_pos (by omega), if_pos (by omega)] at hoffset
      rw [if_pos hlt, if_pos hlt] at hnext
      rw [if_pos (by omega)]
      omega
    · have hordered := h.ordered (other + 1) (by omega)
      rw [if_neg hlt, if_neg hlt] at hnext
      by_cases heq : other + 1 = index
      · -- the section in front of the removed one and the section behind it
        have hbefore := h.ordered other (by omega)
        have hstart := toNat_startFrom h hindex
        subst heq
        rw [if_neg (by omega)] at hstart
        rw [if_pos (by omega), if_pos (by omega)] at hoffset
        rw [if_pos (by omega)]
        omega
      · rw [if_neg (by omega), if_neg (by omega)] at hoffset
        rw [if_neg (by omega)]
        omega
  · intro other hother
    rw [hnum] at hother
    have hoffset := offset_removeSection h hindex hmany (show other + 1 < _ by omega)
    have hinside := h.inside _ (formerIndex_lt index (show other + 1 < _ by omega))
    rw [size_removeSection h hindex hmany (by omega)]
    simp only [dataShift, formerIndex] at hoffset hinside ⊢
    by_cases hlt : other < index
    · have hbefore := h.before hlt hindex
      rw [if_pos hlt, if_pos hlt] at hoffset
      rw [if_pos hlt]
      omega
    · rw [if_neg hlt, if_neg hlt] at hoffset
      rw [if_neg hlt] at hinside ⊢
      omega

/-! ## The last section -/

theorem removeSection_of_one (h : WellFormed xclbin) (hone : (mNumSections xclbin).toNat = 1) :
    mNumSections (removeSection 0 xclbin) = 0 ∧
      (mLength (removeSection 0 xclbin)).toNat + (mSectionSize xclbin 0).toNat =
        (mLength xclbin).toNat := by
  have hindex : 0 < (mNumSections xclbin).toNat := by omega
  have hsingle : mNumSections xclbin = 1 := UInt32.toNat_inj.1 hone
  have hstart := toNat_startFrom h hindex
  have hremoved := toNat_bytesRemoved h hindex
  have hlength := mLength_removeData h hindex
  have habove (memory : Memory) :
      memory.AgreeOn (setSectionSize (setSectionOffset (setSectionKind memory 0 0) 0 0) 0 0) 0
        sectionsAddr := by
    refine ((Memory.agreeOn_store _ _ ?_).trans (Memory.agreeOn_store _ _ ?_)).trans
      (Memory.agreeOn_store _ _ ?_) <;> exact .inr (by decide)
  rw [if_pos (by omega)] at hstart
  rw [removeSection_eq, mNumSections_removeData h hindex, if_pos hsingle, clearEntry]
  constructor
  · rw [mNumSections_congr (habove _), mNumSections_setNumSections]
  · rw [mLength_congr (habove _), mLength_setNumSections]
    omega

theorem WellFormed.removeSection (h : WellFormed xclbin)
    (hindex : index < (mNumSections xclbin).toNat) : WellFormed (removeSection index xclbin) := by
  by_cases hmany : (mNumSections xclbin).toNat = 1
  · obtain rfl : index = 0 := by omega
    obtain ⟨hnum, hlength⟩ := removeSection_of_one h hmany
    have hinside := h.inside 0 hindex
    have hbehind := h.behind 0 hindex
    have hzero : (mNumSections (Xclbin.removeSection 0 xclbin)).toNat = 0 := by rw [hnum]; rfl
    constructor
    · rw [hzero]
      have hmono := sectionHeaderAddr_le hindex
      omega
    all_goals
      intro other hother
      rw [hzero] at hother
      omega
  · exact h.removeSection_many hindex hmany

end Step

end Vmr.Xclbin
