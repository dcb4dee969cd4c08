import Vmr.Lib.Area
import Vmr.Xclbin.Trim

/-!
# What a removal writes

The areas that `rmgmt_xclbin_section_remove` writes, for any container.  In a
well-formed container they all lie between its length and its end.
-/

namespace Vmr.Xclbin

open Vmr.Lib

section Areas

variable (index : Nat) (xclbin : Memory)

def dataAreas : List Area :=
  [⟨(mSectionOffset xclbin index).toNat, (mLength xclbin - startFrom xclbin index).toNat⟩,
    ⟨lengthAddr, 8⟩,
    ⟨sectionHeaderAddr (index + 1), sectionHeaderSize *
      ((mNumSections (removeData index xclbin)).toNat - (index + 1))⟩]

def entryAreas : List Area :=
  [⟨sectionHeaderAddr index,
      (mLength xclbin - UInt64.ofNat (sectionHeaderAddr (index + 1))).toNat⟩,
    ⟨numSectionsAddr, 4⟩, ⟨lengthAddr, 8⟩,
    ⟨sectionHeaderAddr 0, sectionHeaderSize * (mNumSections (removeEntry index xclbin)).toNat⟩]

def clearAreas : List Area := [⟨numSectionsAddr, 4⟩, ⟨sectionHeaderAddr 0, sectionHeaderSize⟩]

def sectionAreas : List Area :=
  dataAreas index xclbin ++
    if mNumSections (removeData index xclbin) = 1 then clearAreas
    else entryAreas index (removeData index xclbin)

end Areas

def removeAreas (kind : UInt32) : Nat → Nat → Memory → List Area
  | 0, _, _ => []
  | rounds + 1, index, xclbin =>
      if index < (mNumSections xclbin).toNat then
        if mSectionKind xclbin index = kind then
          sectionAreas index xclbin ++
            removeAreas kind rounds (index + 1) (removeSection index xclbin)
        else removeAreas kind rounds (index + 1) xclbin
      else []

/-! ## Nothing else is written -/

def Outside (areas : List Area) (address : Nat) : Prop := ∀ area ∈ areas, address ∉ area.cells

private theorem outside_cons {area : Area} {areas : List Area} {address : Nat} :
    Outside (area :: areas) address ↔
      (address < area.start ∨ area.start + area.size ≤ address) ∧ Outside areas address := by
  simp only [Outside, List.forall_mem_cons, Area.mem_cells]
  refine and_congr_left fun _ => ?_
  omega

theorem outside_append {areas areas' : List Area} {address : Nat} :
    Outside (areas ++ areas') address ↔ Outside areas address ∧ Outside areas' address :=
  List.forall_mem_append

section Frame

variable {index : Nat} {xclbin : Memory} {address : Nat}

private theorem sectionHeaderAddr_add (first count : Nat) :
    sectionHeaderAddr first + sectionHeaderSize * count = sectionHeaderAddr (first + count) := by
  rw [sectionHeaderAddr, sectionHeaderAddr, Nat.mul_add, Nat.add_assoc]

private theorem removeData_outside (h : Outside (dataAreas index xclbin) address) :
    removeData index xclbin address = xclbin address := by
  rw [dataAreas, outside_cons, outside_cons, outside_cons] at h
  obtain ⟨hdata, hlength, hoffsets, -⟩ := h
  rw [sectionHeaderAddr_add] at hoffsets
  simp only [removeData, mNumSections_subtractOffsets] at hoffsets ⊢
  rw [subtractOffsets_outside _ _ _ _ hoffsets, setLength, Memory.store64,
    Memory.store_outside _ _ hlength]
  split
  · exact Memory.copyForward_outside _ hdata
  · rfl

private theorem removeEntry_outside (h : Outside (entryAreas index xclbin) address) :
    removeEntry index xclbin address = xclbin address := by
  rw [entryAreas, outside_cons, outside_cons, outside_cons, outside_cons] at h
  obtain ⟨hentry, hnum, hlength, hoffsets, -⟩ := h
  rw [sectionHeaderAddr_add] at hoffsets
  simp only [removeEntry, mNumSections_subtractOffsets] at hoffsets ⊢
  rw [subtractOffsets_outside _ _ _ _ hoffsets, setLength, Memory.store64,
    Memory.store_outside _ _ hlength, setNumSections, Memory.store32,
    Memory.store_outside _ _ hnum]
  exact Memory.copyForward_outside _ hentry

private theorem clearEntry_outside (h : Outside clearAreas address) :
    clearEntry xclbin address = xclbin address := by
  rw [clearAreas, outside_cons, outside_cons] at h
  obtain ⟨hnum, hheader, -⟩ := h
  simp only [sectionHeaderSize] at hheader
  simp only [clearEntry, setSectionSize, setSectionOffset, setSectionKind, setNumSections,
    Memory.store32, Memory.store64]
  rw [Memory.store_outside _ _ (by omega), Memory.store_outside _ _ (by omega),
    Memory.store_outside _ _ (by omega), Memory.store_outside _ _ hnum]

private theorem removeSection_outside (h : Outside (sectionAreas index xclbin) address) :
    removeSection index xclbin address = xclbin address := by
  rw [sectionAreas, outside_append] at h
  obtain ⟨hdata, hentry⟩ := h
  rw [removeSection_eq]
  split
  next hone =>
    rw [if_pos hone] at hentry
    rw [clearEntry_outside hentry, removeData_outside hdata]
  next hmany =>
    rw [if_neg hmany] at hentry
    rw [removeEntry_outside hentry, removeData_outside hdata]

theorem removeFrom_outside (kind : UInt32) (rounds : Nat)
    (h : Outside (removeAreas kind rounds index xclbin) address) :
    removeFrom kind rounds index xclbin address = xclbin address := by
  induction rounds generalizing index xclbin with
  | zero => rfl
  | succ rounds ih =>
      rw [removeAreas] at h
      rw [removeFrom]
      split
      next hindex =>
        rw [if_pos hindex] at h
        split
        next hkind =>
          rw [if_pos hkind, outside_append] at h
          rw [ih h.2, removeSection_outside h.1]
        next hkind =>
          rw [if_neg hkind] at h
          exact ih h
      next => rfl

end Frame

/-! ## Well-formed containers -/

section WellFormed

variable {index : Nat} {xclbin : Memory}

private theorem dataAreas_inside (h : WellFormed xclbin)
    (hindex : index < (mNumSections xclbin).toNat) :
    ∀ area ∈ dataAreas index xclbin,
      lengthAddr ≤ area.start ∧ area.start + area.size ≤ (mLength xclbin).toNat := by
  have hge := startFrom_ge h hindex
  have hle := startFrom_le h hindex
  have hcopy : (mLength xclbin - startFrom xclbin index).toNat =
      (mLength xclbin).toNat - (startFrom xclbin index).toNat :=
    UInt64.toNat_sub_of_le _ _ (UInt64.le_iff_toNat_le.2 hle)
  have hheaders := h.headers
  have hbehind := h.behind index hindex
  have hfirst := sectionsAddr_le (mNumSections xclbin).toNat
  have hlength : lengthAddr + 8 ≤ sectionsAddr := by decide
  simp only [dataAreas, List.forall_mem_cons, List.not_mem_nil, false_implies, implies_true,
    and_true]
  refine ⟨by omega, by omega, ?_, ?_⟩
  · exact Nat.le_trans (by decide) (sectionsAddr_le (index + 1))
  · rw [sectionHeaderAddr_add, mNumSections_removeData h hindex, Nat.add_sub_cancel' hindex]
    exact hheaders

private theorem entryAreas_inside (hindex : index < (mNumSections xclbin).toNat)
    (hheaders : sectionHeaderAddr (mNumSections xclbin).toNat ≤ (mLength xclbin).toNat) :
    ∀ area ∈ entryAreas index xclbin,
      lengthAddr ≤ area.start ∧ area.start + area.size ≤ (mLength xclbin).toNat := by
  have hnext := sectionHeaderAddr_succ index
  obtain ⟨hle, hshift⟩ := toNat_behindEntry hindex hheaders
  have hfirst := sectionsAddr_le (mNumSections xclbin).toNat
  have hentry := sectionsAddr_le index
  have hlength : lengthAddr + 8 ≤ sectionsAddr := by decide
  have hnum : lengthAddr ≤ numSectionsAddr ∧ numSectionsAddr + 4 ≤ sectionsAddr := by decide
  simp only [entryAreas, List.forall_mem_cons, List.not_mem_nil, false_implies, implies_true,
    and_true]
  refine ⟨by omega, by omega, by omega, ?_, ?_⟩
  · exact Nat.le_trans (by decide) (sectionsAddr_le 0)
  · rw [sectionHeaderAddr_add, toNat_mNumSections_removeEntry hindex hheaders]
    exact Nat.le_trans (sectionHeaderAddr_mono (by omega)) hheaders

private theorem sectionAreas_inside (h : WellFormed xclbin)
    (hindex : index < (mNumSections xclbin).toNat) :
    ∀ area ∈ sectionAreas index xclbin,
      lengthAddr ≤ area.start ∧ area.start + area.size ≤ (mLength xclbin).toNat := by
  have hlength := mLength_removeData h hindex
  have hheaders := headers_removeData h hindex
  rw [sectionAreas, List.forall_mem_append]
  refine ⟨dataAreas_inside h hindex, ?_⟩
  split
  next hone =>
    have hfirst := sectionHeaderAddr_le (index_lt_removeData h hindex)
    have hlow := sectionsAddr_le index
    simp only [clearAreas, List.forall_mem_cons, List.not_mem_nil, false_implies, implies_true,
      and_true]
    simp only [sectionHeaderAddr, sectionHeaderSize, sectionsAddr, numSectionsAddr,
      lengthAddr] at *
    omega
  next =>
    intro area harea
    have hinside := entryAreas_inside (index_lt_removeData h hindex) hheaders area harea
    omega

theorem removeAreas_inside (kind : UInt32) (rounds : Nat) (h : WellFormed xclbin) :
    ∀ area ∈ removeAreas kind rounds index xclbin,
      lengthAddr ≤ area.start ∧ area.start + area.size ≤ (mLength xclbin).toNat := by
  induction rounds generalizing index xclbin with
  | zero => simp [removeAreas]
  | succ rounds ih =>
      rw [removeAreas]
      split
      next hindex =>
        split
        next =>
          rw [List.forall_mem_append]
          refine ⟨sectionAreas_inside h hindex, fun area harea => ?_⟩
          have hshorter := mLength_removeSection_le h hindex
          have hinside := ih (h.removeSection hindex) area harea
          omega
        next => exact ih h
      next => simp

end WellFormed

end Vmr.Xclbin
