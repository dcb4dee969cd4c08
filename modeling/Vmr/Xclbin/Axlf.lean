import Vmr.Lib.Cell

/-!
# The xclbin container

An xclbin lies in memory as a `struct axlf`: a header with the length of the
container and the number of sections, the array of section headers, and the data
of the sections.  Addresses count from its start.  `rmgmt_xclbin_section_info`
looks a section up, `rmgmt_xclbin_section_remove` takes the sections of a kind
out in place.
-/

namespace Vmr.Xclbin

open Vmr.Lib

def xclbinMaxNumSection : UInt32 := 0x10000

def lengthAddr : Nat := 304

def numSectionsAddr : Nat := 448

def sectionsAddr : Nat := 456

def sectionHeaderSize : Nat := 40

def sectionHeaderAddr (index : Nat) : Nat := sectionsAddr + sectionHeaderSize * index

section Fields

variable (xclbin : Memory)

def mLength : UInt64 := xclbin.load64 lengthAddr
def mNumSections : UInt32 := xclbin.load32 numSectionsAddr
def mSectionKind (index : Nat) : UInt32 := xclbin.load32 (sectionHeaderAddr index)
def mSectionOffset (index : Nat) : UInt64 := xclbin.load64 (sectionHeaderAddr index + 24)
def mSectionSize (index : Nat) : UInt64 := xclbin.load64 (sectionHeaderAddr index + 32)

def setLength (length : UInt64) : Memory := xclbin.store64 lengthAddr length
def setNumSections (numSections : UInt32) : Memory := xclbin.store32 numSectionsAddr numSections
def setSectionKind (index : Nat) (kind : UInt32) : Memory :=
  xclbin.store32 (sectionHeaderAddr index) kind
def setSectionOffset (index : Nat) (offset : UInt64) : Memory :=
  xclbin.store64 (sectionHeaderAddr index + 24) offset
def setSectionSize (index : Nat) (size : UInt64) : Memory :=
  xclbin.store64 (sectionHeaderAddr index + 32) size

/-! ## Looking a section up -/

def rmgmtXclbinGetSectionHdr (kind : UInt32) : Option Nat :=
  if mNumSections xclbin > xclbinMaxNumSection then none
  else (List.range (mNumSections xclbin).toNat).find? fun index =>
    mSectionKind xclbin index == kind

def rmgmtXclbinCheckSectionHdr (index : Nat) (xclbinLen : UInt64) : Bool :=
  ¬ mSectionOffset xclbin index + mSectionSize xclbin index > xclbinLen

def rmgmtXclbinSectionInfo (kind : UInt32) : Option (UInt64 × UInt64) :=
  match rmgmtXclbinGetSectionHdr xclbin kind with
  | none => none
  | some index =>
      if rmgmtXclbinCheckSectionHdr xclbin index (mLength xclbin) then
        some (mSectionOffset xclbin index, mSectionSize xclbin index)
      else none

end Fields

/-! ## Removing the sections of a kind -/

def subtractOffsets (bytes : UInt64) : Nat → Nat → Memory → Memory
  | _, 0, xclbin => xclbin
  | first, count + 1, xclbin =>
      subtractOffsets bytes (first + 1) count
        (setSectionOffset xclbin first (mSectionOffset xclbin first - bytes))

def removeSection (index : Nat) (xclbin : Memory) : Memory :=
  let bufferSize := mLength xclbin
  let startToOffset := mSectionOffset xclbin index
  let startFromOffset :=
    if index + 1 = (mNumSections xclbin).toNat then
      mSectionOffset xclbin index + mSectionSize xclbin index
    else mSectionOffset xclbin (index + 1)
  let bytesToCopy := bufferSize - startFromOffset
  let bytesRemoved := startFromOffset - startToOffset
  let xclbin :=
    if bytesToCopy ≠ 0 then
      xclbin.copyForward startToOffset.toNat startFromOffset.toNat bytesToCopy.toNat
    else xclbin
  -- clean up data structures
  let xclbin := setLength xclbin (mLength xclbin - bytesRemoved)
  let xclbin :=
    subtractOffsets bytesRemoved (index + 1) ((mNumSections xclbin).toNat - (index + 1)) xclbin
  if mNumSections xclbin = 1 then
    -- handle last section
    let xclbin := setNumSections xclbin 0
    let xclbin := setSectionKind xclbin 0 0
    let xclbin := setSectionOffset xclbin 0 0
    setSectionSize xclbin 0 0
  else
    -- remove the array entry
    let bytesToShift := mLength xclbin - UInt64.ofNat (sectionHeaderAddr (index + 1))
    let xclbin := xclbin.copyForward (sectionHeaderAddr index) (sectionHeaderAddr (index + 1))
      bytesToShift.toNat
    -- update data elements
    let xclbin := setNumSections xclbin (mNumSections xclbin - 1)
    let xclbin := setLength xclbin (mLength xclbin - UInt64.ofNat sectionHeaderSize)
    subtractOffsets (UInt64.ofNat sectionHeaderSize) 0 (mNumSections xclbin).toNat xclbin

/-- The loop over the headers; there are as many rounds as headers, at most. -/
def removeFrom (kind : UInt32) : Nat → Nat → Memory → Memory
  | 0, _, xclbin => xclbin
  | rounds + 1, index, xclbin =>
      if index < (mNumSections xclbin).toNat then
        if mSectionKind xclbin index = kind then
          removeFrom kind rounds (index + 1) (removeSection index xclbin)
        else removeFrom kind rounds (index + 1) xclbin
      else xclbin

def rmgmtXclbinSectionRemove (xclbin : Memory) (kind : UInt32) : Memory :=
  removeFrom kind (mNumSections xclbin).toNat 0 xclbin

end Vmr.Xclbin
