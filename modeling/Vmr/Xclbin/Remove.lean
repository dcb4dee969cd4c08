import Mathlib.Algebra.BigOperators.Intervals
import Vmr.Xclbin.Removal

/-!
# Removing the sections of a kind

The loop goes on with the next position after it has removed a section, and so
passes over the section that has moved to the position of the removed one.  The
sections of a kind are all removed exactly when no two of them are neighbours.
-/

namespace Vmr.Xclbin

open Vmr.Lib

structure Section where
  kind : UInt32
  data : List UInt8
  deriving DecidableEq, Repr

def sectionAt (xclbin : Memory) (index : Nat) : Section :=
  { kind := mSectionKind xclbin index
    data := xclbin.slice (mSectionOffset xclbin index).toNat (mSectionSize xclbin index).toNat }

def sections (xclbin : Memory) : List Section :=
  (List.range (mNumSections xclbin).toNat).map (sectionAt xclbin)

@[simp] theorem length_sections (xclbin : Memory) :
    (sections xclbin).length = (mNumSections xclbin).toNat := by
  simp [sections]

def sectionData (xclbin : Memory) (kind : UInt32) : Option (List UInt8) :=
  (rmgmtXclbinSectionInfo xclbin kind).map fun info =>
    xclbin.slice info.1.toNat info.2.toNat

theorem sectionData_eq {xclbin : Memory} (h : WellFormed xclbin) (kind : UInt32) :
    sectionData xclbin kind =
      if mNumSections xclbin > xclbinMaxNumSection then none
      else ((sections xclbin).find? fun found => found.kind == kind).map Section.data := by
  rw [sectionData, rmgmtXclbinSectionInfo, rmgmtXclbinGetSectionHdr]
  by_cases hmany : mNumSections xclbin > xclbinMaxNumSection
  · rw [if_pos hmany, if_pos hmany, Option.map_none]
  · rw [if_neg hmany, if_neg hmany, sections, List.find?_map]
    cases hfind : (List.range (mNumSections xclbin).toNat).find? fun index =>
      mSectionKind xclbin index == kind with
    | none =>
        rw [show (List.range (mNumSections xclbin).toNat).find?
          ((fun found => found.kind == kind) ∘ sectionAt xclbin) = none from hfind]
        simp only [Option.map_none]
    | some index =>
        have hindex := List.mem_range.1 (List.mem_of_find?_eq_some hfind)
        have hinside := h.inside index hindex
        have hcheck : rmgmtXclbinCheckSectionHdr xclbin index (mLength xclbin) = true := by
          have hlength := (mLength xclbin).toNat_lt
          simp only [rmgmtXclbinCheckSectionHdr, gt_iff_lt, UInt64.lt_iff_toNat_lt,
            UInt64.toNat_add, decide_not, Bool.not_eq_true', decide_eq_false_iff_not]
          omega
        rw [show (List.range (mNumSections xclbin).toNat).find?
          ((fun found => found.kind == kind) ∘ sectionAt xclbin) = some index from hfind]
        simp only [hcheck, if_true, Option.map_some, sectionAt]

/-! ## One section of the list -/

private theorem sections_removeSection {xclbin : Memory} {index : Nat} (h : WellFormed xclbin)
    (hindex : index < (mNumSections xclbin).toNat) :
    sections (removeSection index xclbin) = (sections xclbin).eraseIdx index := by
  by_cases hone : (mNumSections xclbin).toNat = 1
  · obtain rfl : index = 0 := by omega
    have hnum := (removeSection_of_one h hone).1
    have hempty : sections (removeSection 0 xclbin) = [] :=
      List.eq_nil_of_length_eq_zero (by rw [length_sections, hnum]; rfl)
    rw [hempty]
    symm
    apply List.eq_nil_of_length_eq_zero
    rw [List.length_eraseIdx_of_lt (by rwa [length_sections]), length_sections, hone]
  · have hnum := mNumSections_removeSection h hindex hone
    apply List.ext_getElem
    · rw [length_sections, hnum, List.length_eraseIdx_of_lt (by rwa [length_sections]),
        length_sections]
    · intro other hother hother'
      rw [length_sections, hnum] at hother
      have hnext : other + 1 < (mNumSections xclbin).toNat := by omega
      have hsection : sectionAt (removeSection index xclbin) other =
          sectionAt xclbin (formerIndex index other) := by
        rw [sectionAt, kind_removeSection h hindex hone hnext,
          data_removeSection h hindex hone hnext]
        rfl
      rw [List.getElem_eraseIdx]
      simp only [sections, List.getElem_map, List.getElem_range, hsection, formerIndex]
      split <;> rfl

/-- What the loop leaves: the section behind a removed one is passed over. -/
def removeSkipping (kind : UInt32) : List Section → List Section
  | [] => []
  | [last] => if last.kind = kind then [] else [last]
  | first :: second :: rest =>
      if first.kind = kind then second :: removeSkipping kind rest
      else first :: removeSkipping kind (second :: rest)

theorem removeSkipping_of_kind {kind : UInt32} {first : Section} (h : first.kind = kind)
    (rest : List Section) :
    removeSkipping kind (first :: rest) = rest.take 1 ++ removeSkipping kind (rest.drop 1) := by
  cases rest with
  | nil => simp [removeSkipping, h]
  | cons second rest => simp [removeSkipping, h]

theorem removeSkipping_of_ne {kind : UInt32} {first : Section} (h : first.kind ≠ kind)
    (rest : List Section) :
    removeSkipping kind (first :: rest) = first :: removeSkipping kind rest := by
  cases rest with
  | nil => simp [removeSkipping, h]
  | cons second rest => simp [removeSkipping, h]

private theorem split_behind {front : List Section} {index : Nat} (h : front.length = index)
    (rest : List Section) :
    (front ++ rest).take (index + 1) = front ++ rest.take 1 ∧
      (front ++ rest).drop (index + 1) = rest.drop 1 := by
  subst h
  exact ⟨List.take_length_add_append 1, List.drop_length_add_append 1⟩

private theorem removeFrom_spec (kind : UInt32) (rounds : Nat) {index : Nat} {xclbin : Memory}
    (h : WellFormed xclbin) (hrounds : (mNumSections xclbin).toNat ≤ index + rounds) :
    WellFormed (removeFrom kind rounds index xclbin) ∧
      sections (removeFrom kind rounds index xclbin) =
        (sections xclbin).take index ++ removeSkipping kind ((sections xclbin).drop index) := by
  have hdone {xclbin : Memory} {index : Nat} (hend : (mNumSections xclbin).toNat ≤ index) :
      sections xclbin =
        (sections xclbin).take index ++ removeSkipping kind ((sections xclbin).drop index) := by
    rw [← length_sections] at hend
    rw [List.drop_eq_nil_of_le hend, List.take_of_length_le hend, removeSkipping, List.append_nil]
  induction rounds generalizing index xclbin with
  | zero => exact ⟨h, hdone hrounds⟩
  | succ rounds ih =>
      rw [removeFrom]
      by_cases hindex : index < (mNumSections xclbin).toNat
      · rw [if_pos hindex]
        have hlength : index < (sections xclbin).length := by rwa [length_sections]
        have hkind : (sections xclbin)[index].kind = mSectionKind xclbin index := by
          simp [sections, sectionAt]
        rw [List.drop_eq_getElem_cons hlength]
        by_cases hremoved : mSectionKind xclbin index = kind
        · rw [if_pos hremoved, removeSkipping_of_kind (hkind.trans hremoved)]
          have hstep := sections_removeSection h hindex
          have hfewer : (mNumSections (removeSection index xclbin)).toNat =
              (mNumSections xclbin).toNat - 1 := by
            rw [← length_sections, hstep, List.length_eraseIdx_of_lt hlength, length_sections]
          obtain ⟨hwell, hsections⟩ := ih (h.removeSection hindex)
            (by omega : (mNumSections (removeSection index xclbin)).toNat ≤ index + 1 + rounds)
          refine ⟨hwell, hsections.trans ?_⟩
          have htake : ((sections xclbin).take index).length = index := by
            rw [List.length_take, length_sections]
            omega
          obtain ⟨hleft, hright⟩ := split_behind htake ((sections xclbin).drop (index + 1))
          rw [hstep, List.eraseIdx_eq_take_drop_succ, hleft, hright, List.append_assoc]
        · rw [if_neg hremoved, removeSkipping_of_ne (hkind.trans_ne hremoved)]
          obtain ⟨hwell, hsections⟩ := ih h
            (by omega : (mNumSections xclbin).toNat ≤ index + 1 + rounds)
          refine ⟨hwell, hsections.trans ?_⟩
          rw [List.take_add_one, List.getElem?_eq_getElem hlength, List.append_assoc]
          rfl
      · rw [if_neg hindex]
        exact ⟨h, hdone (by omega)⟩

/-! ## Neighbours of the kind -/

def NoNeighbours (kind : UInt32) (found : List Section) : Prop :=
  found.IsChain fun first second => ¬ (first.kind = kind ∧ second.kind = kind)

/-- A list that starts with two sections of the kind keeps the second one. -/
theorem removeSkipping_eq_filter_iff (kind : UInt32) (found : List Section) :
    (removeSkipping kind found = found.filter fun other => other.kind ≠ kind) ↔
      NoNeighbours kind found := by
  induction found using removeSkipping.induct kind with
  | case1 => simp [removeSkipping, NoNeighbours]
  | case2 last hkind => simp [removeSkipping, NoNeighbours, hkind]
  | case3 last hkind => simp [removeSkipping, NoNeighbours, hkind]
  | case4 first second rest hkind ih =>
      rw [removeSkipping_of_kind hkind, NoNeighbours, List.isChain_cons_cons]
      by_cases hsecond : second.kind = kind
      · constructor
        · intro heq
          have hmem : second ∈ (first :: second :: rest).filter fun other => other.kind ≠ kind := by
            rw [← heq]
            simp
          simp [hsecond] at hmem
        · exact fun hchain => absurd ⟨hkind, hsecond⟩ hchain.1
      · have hrest : (second :: rest).IsChain (fun first second =>
            ¬ (first.kind = kind ∧ second.kind = kind)) ↔ NoNeighbours kind rest := by
          cases rest <;> simp [NoNeighbours, hsecond]
        rw [hrest, ← ih]
        simp [hkind, hsecond]
  | case5 first second rest hkind ih =>
      rw [removeSkipping_of_ne hkind, NoNeighbours, List.isChain_cons_cons, ← NoNeighbours, ← ih,
        List.filter_cons_of_pos (by simpa using hkind)]
      simp [hkind]

/-! ## The length -/

/-- The header array; `struct axlf` has room for one header at least. -/
def arraySize (numSections : Nat) : Nat := sectionHeaderSize * max numSections 1

/-- The bytes of the sections of the kind from a position on, with what lies between each of
them and the next section. -/
def removedBytes (xclbin : Memory) (kind : UInt32) (first : Nat) : Nat :=
  ∑ index ∈ Finset.Ico first (mNumSections xclbin).toNat,
    if mSectionKind xclbin index = kind then (bytesRemoved xclbin index).toNat else 0

private theorem removedBytes_of_le {xclbin : Memory} {kind : UInt32} {first : Nat}
    (h : (mNumSections xclbin).toNat ≤ first) : removedBytes xclbin kind first = 0 := by
  rw [removedBytes, Finset.Ico_eq_empty (by omega), Finset.sum_empty]

private theorem removedBytes_of_lt {xclbin : Memory} {kind : UInt32} {first : Nat}
    (h : first < (mNumSections xclbin).toNat) :
    removedBytes xclbin kind first =
      (if mSectionKind xclbin first = kind then (bytesRemoved xclbin first).toNat else 0) +
        removedBytes xclbin kind (first + 1) :=
  Finset.sum_eq_sum_Ico_succ_bot h _

private theorem bytesRemoved_removeSection {xclbin : Memory} {index other : Nat}
    (h : WellFormed xclbin)
    (hindex : index < (mNumSections xclbin).toNat) (hmany : (mNumSections xclbin).toNat ≠ 1)
    (hle : index ≤ other) (hother : other + 1 < (mNumSections xclbin).toNat) :
    bytesRemoved (removeSection index xclbin) other = bytesRemoved xclbin (other + 1) := by
  have hnum := mNumSections_removeSection h hindex hmany
  have hfewer : other < (mNumSections (removeSection index xclbin)).toNat := by omega
  have hnew := toNat_bytesRemoved (h.removeSection hindex) hfewer
  have hold := toNat_bytesRemoved h hother
  have hoffset := offset_removeSection h hindex hmany hother
  have hsize := size_removeSection h hindex hmany hother
  rw [toNat_startFrom (h.removeSection hindex) hfewer, hnum, hsize] at hnew
  rw [toNat_startFrom h hother] at hold
  simp only [dataShift, formerIndex, if_neg (Nat.not_lt.2 hle)] at hoffset hnew
  rw [← UInt64.toNat_inj]
  by_cases hlast : other + 1 + 1 = (mNumSections xclbin).toNat
  · rw [if_pos (by omega)] at hnew hold
    omega
  · have hnext := offset_removeSection h hindex hmany (show other + 1 + 1 < _ by omega)
    simp only [dataShift, formerIndex, if_neg (Nat.not_lt.2 (Nat.le_succ_of_le hle))] at hnext
    rw [if_neg (by omega)] at hnew hold
    omega

private theorem removedBytes_removeSection {xclbin : Memory} {kind : UInt32} {index : Nat}
    (h : WellFormed xclbin) (hindex : index < (mNumSections xclbin).toNat)
    (hmany : (mNumSections xclbin).toNat ≠ 1) :
    removedBytes (removeSection index xclbin) kind (index + 1) =
      removedBytes xclbin kind (index + 2) := by
  have hnum := mNumSections_removeSection h hindex hmany
  have hshift := Finset.sum_Ico_add' (fun other => if mSectionKind xclbin other = kind then
    (bytesRemoved xclbin other).toNat else 0) (index + 1) ((mNumSections xclbin).toNat - 1) 1
  rw [Nat.sub_add_cancel (by omega)] at hshift
  rw [removedBytes, removedBytes, hnum, ← hshift]
  apply Finset.sum_congr rfl
  intro other hother
  obtain ⟨hlow, hhigh⟩ := Finset.mem_Ico.1 hother
  have hnext : other + 1 < (mNumSections xclbin).toNat := by omega
  have hformer : formerIndex index other = other + 1 := if_neg (by omega)
  rw [kind_removeSection h hindex hmany hnext, hformer,
    bytesRemoved_removeSection h hindex hmany (by omega) hnext]

private theorem removeFrom_length (kind : UInt32) (rounds : Nat) {index : Nat} {xclbin : Memory}
    (h : WellFormed xclbin) (hrounds : (mNumSections xclbin).toNat ≤ index + rounds)
    (hneighbours : ∀ first, index ≤ first → first + 1 < (mNumSections xclbin).toNat →
      ¬ (mSectionKind xclbin first = kind ∧ mSectionKind xclbin (first + 1) = kind)) :
    (mLength (removeFrom kind rounds index xclbin)).toNat + removedBytes xclbin kind index +
        arraySize (mNumSections xclbin).toNat =
      (mLength xclbin).toNat +
        arraySize (mNumSections (removeFrom kind rounds index xclbin)).toNat := by
  induction rounds generalizing index xclbin with
  | zero =>
      rw [removedBytes_of_le (show _ ≤ index by omega), removeFrom, Nat.add_zero]
  | succ rounds ih =>
      rw [removeFrom]
      by_cases hindex : index < (mNumSections xclbin).toNat
      · rw [if_pos hindex, removedBytes_of_lt hindex]
        by_cases hkind : mSectionKind xclbin index = kind
        · rw [if_pos hkind, if_pos hkind]
          by_cases hone : (mNumSections xclbin).toNat = 1
          · obtain rfl : index = 0 := by omega
            obtain ⟨hnum, hlength⟩ := removeSection_of_one h hone
            have hzero : (mNumSections (removeSection 0 xclbin)).toNat = 0 := by rw [hnum]; rfl
            have hrest := ih (h.removeSection hindex)
              (show (mNumSections (removeSection 0 xclbin)).toNat ≤ 0 + 1 + rounds by omega)
              (by omega)
            have hremoved := toNat_bytesRemoved h hindex
            rw [toNat_startFrom h hindex, if_pos (by omega)] at hremoved
            rw [removedBytes_of_le (by omega), hzero] at hrest
            rw [removedBytes_of_le (by omega), hone]
            have hroom : arraySize 0 = arraySize 1 := rfl
            omega
          · have hnum := mNumSections_removeSection h hindex hone
            have hlength := mLength_removeSection h hindex hone
            have hrest := ih (h.removeSection hindex)
              (show (mNumSections (removeSection index xclbin)).toNat ≤ index + 1 + rounds by omega)
              (by
                intro first hlow hhigh
                rw [hnum] at hhigh
                rw [kind_removeSection h hindex hone (by omega),
                  kind_removeSection h hindex hone (by omega), formerIndex, formerIndex,
                  if_neg (by omega), if_neg (by omega)]
                exact hneighbours (first + 1) (by omega) (by omega))
            have hnext : removedBytes xclbin kind (index + 1) =
                removedBytes xclbin kind (index + 2) := by
              rcases Nat.lt_or_ge (index + 1) (mNumSections xclbin).toNat with hlt | hge
              · have hother := hneighbours index (Nat.le_refl _) hlt
                rw [removedBytes_of_lt hlt, if_neg fun hsecond => hother ⟨hkind, hsecond⟩,
                  Nat.zero_add]
              · rw [removedBytes_of_le hge, removedBytes_of_le (by omega)]
            rw [removedBytes_removeSection h hindex hone, hnum] at hrest
            rw [hnext]
            have harray : arraySize (mNumSections xclbin).toNat =
                arraySize ((mNumSections xclbin).toNat - 1) + sectionHeaderSize := by
              simp only [arraySize, sectionHeaderSize]
              omega
            omega
        · rw [if_neg hkind, if_neg hkind, Nat.zero_add]
          exact ih h (by omega) fun first hlow => hneighbours first (by omega)
      · rw [if_neg hindex, removedBytes_of_le (by omega), Nat.add_zero]

/-! ## What is promised of the removal -/

structure SectionRemoved (xclbin xclbin' : Memory) (kind : UInt32) : Prop where
  gone : rmgmtXclbinSectionInfo xclbin' kind = none
  kept : ∀ other, other ≠ kind → sectionData xclbin' other = sectionData xclbin other
  wellFormed : WellFormed xclbin'
  remaining : sections xclbin' = (sections xclbin).filter fun found => found.kind ≠ kind
  length : (mLength xclbin').toNat + removedBytes xclbin kind 0 +
      arraySize (mNumSections xclbin).toNat =
    (mLength xclbin).toNat + arraySize (mNumSections xclbin').toNat

theorem sections_sectionRemove {xclbin : Memory} (h : WellFormed xclbin) (kind : UInt32) :
    WellFormed (rmgmtXclbinSectionRemove xclbin kind) ∧
      sections (rmgmtXclbinSectionRemove xclbin kind) =
        removeSkipping kind (sections xclbin) := by
  have hspec := removeFrom_spec kind (mNumSections xclbin).toNat h
    (Nat.le_of_eq (Nat.zero_add _).symm)
  rwa [List.take_zero, List.drop_zero, List.nil_append] at hspec

private theorem NoNeighbours.kinds {xclbin : Memory} {kind : UInt32}
    (h : NoNeighbours kind (sections xclbin)) {first : Nat}
    (hfirst : first + 1 < (mNumSections xclbin).toNat) :
    ¬ (mSectionKind xclbin first = kind ∧ mSectionKind xclbin (first + 1) = kind) := by
  have hchain := List.isChain_iff_getElem.1 h first (by rwa [length_sections])
  simpa [sections, sectionAt] using hchain

private theorem NoNeighbours.filter_ne_nil {kind : UInt32} {found : List Section}
    (h : NoNeighbours kind found) (hmany : 1 < found.length) :
    (found.filter fun other => other.kind ≠ kind) ≠ [] := by
  match found with
  | first :: second :: rest =>
      have hnot := (List.isChain_cons_cons.1 h).1
      intro hnil
      rw [List.filter_eq_nil_iff] at hnil
      have hfirst := hnil first (by simp)
      have hsecond := hnil second (by simp)
      simp only [ne_eq, decide_not, Bool.not_eq_true', decide_eq_false_iff_not, not_not]
        at hfirst hsecond
      exact hnot ⟨hfirst, hsecond⟩

private theorem sectionInfo_eq_none {xclbin : Memory} {kind : UInt32} :
    rmgmtXclbinSectionInfo xclbin kind = none ↔ sectionData xclbin kind = none := by
  rw [sectionData, Option.map_eq_none_iff]

private theorem mNumSections_gt_iff (xclbin : Memory) :
    mNumSections xclbin > xclbinMaxNumSection ↔ 0x10000 < (sections xclbin).length := by
  rw [gt_iff_lt, UInt32.lt_iff_toNat_lt, length_sections]
  rfl

/-- A removal keeps its promise exactly when no two sections of the kind are neighbours and it
does not bring the number of sections down to what a lookup accepts. -/
theorem sectionRemove_iff {xclbin : Memory} (h : WellFormed xclbin) (kind : UInt32) :
    SectionRemoved xclbin (rmgmtXclbinSectionRemove xclbin kind) kind ↔
      NoNeighbours kind (sections xclbin) ∧
        ((sections xclbin).length ≤ 0x10000 ∨
          0x10000 < ((sections xclbin).filter fun found => found.kind ≠ kind).length) := by
  obtain ⟨hwell, hsections⟩ := sections_sectionRemove h kind
  constructor
  · intro hremoved
    have hneighbours := (removeSkipping_eq_filter_iff kind (sections xclbin)).1
      (hsections.symm.trans hremoved.remaining)
    refine ⟨hneighbours, ?_⟩
    by_contra hlimit
    obtain ⟨hbefore, hafter⟩ := not_or.1 hlimit
    rw [Nat.not_le] at hbefore
    obtain ⟨found, hfound⟩ := List.exists_mem_of_ne_nil _
      (hneighbours.filter_ne_nil (Nat.lt_trans (by decide) hbefore))
    have hkind : found.kind ≠ kind := by simpa using (List.mem_filter.1 hfound).2
    have hkept := hremoved.kept found.kind hkind
    rw [← hremoved.remaining, ← mNumSections_gt_iff] at hafter
    rw [sectionData_eq hwell, if_neg hafter, sectionData_eq h,
      if_pos ((mNumSections_gt_iff xclbin).2 hbefore), Option.map_eq_none_iff,
      List.find?_eq_none, hremoved.remaining] at hkept
    exact hkept found hfound (by simp)
  · rintro ⟨hneighbours, hlimit⟩
    have hremaining := hsections.trans ((removeSkipping_eq_filter_iff kind _).2 hneighbours)
    have hkept (other : UInt32) (hother : other ≠ kind) :
        ((sections xclbin).filter fun found => found.kind ≠ kind).find? (fun found =>
          found.kind == other) = (sections xclbin).find? fun found => found.kind == other := by
      rw [List.find?_filter]
      refine congrArg (List.find? · (sections xclbin)) (funext fun found => ?_)
      by_cases heq : found.kind = other <;> simp [heq, hother]
    have hlength := List.length_filter_le (fun found => decide (found.kind ≠ kind)) (sections xclbin)
    have hcounts : mNumSections (rmgmtXclbinSectionRemove xclbin kind) > xclbinMaxNumSection ↔
        mNumSections xclbin > xclbinMaxNumSection := by
      have hafter := mNumSections_gt_iff (rmgmtXclbinSectionRemove xclbin kind)
      rw [hremaining] at hafter
      refine hafter.trans (Iff.trans ?_ (mNumSections_gt_iff xclbin).symm)
      omega
    constructor
    · rw [sectionInfo_eq_none, sectionData_eq hwell, hremaining, List.find?_filter,
        List.find?_eq_none.2 (by simp), Option.map_none, ite_self]
    · intro other hother
      rw [sectionData_eq hwell, sectionData_eq h, hremaining, hkept other hother]
      simp only [hcounts]
    · exact hwell
    · exact hremaining
    · exact removeFrom_length kind _ h (Nat.le_of_eq (Nat.zero_add _).symm)
        fun first _ hfirst => hneighbours.kinds hfirst

def containerOf (length : UInt64) (headers : List SectionHeader) : Memory :=
  headers.zipIdx.foldl
    (fun xclbin header => setSectionSize (setSectionOffset (setSectionKind xclbin header.2
      header.1.kind) header.2 header.1.offset) header.2 header.1.size)
    (setNumSections (setLength (fun _ => 0) length) (UInt32.ofNat headers.length))

/-- Two sections of kind 5 with one of kind 6 between them are removed. -/
theorem sectionRemove_apart :
    let xclbin := containerOf 580 [⟨5, 576, 1⟩, ⟨6, 577, 2⟩, ⟨5, 579, 1⟩]
    SectionRemoved xclbin (rmgmtXclbinSectionRemove xclbin 5) 5 := by
  have hwell : WellFormed (containerOf 580 [⟨5, 576, 1⟩, ⟨6, 577, 2⟩, ⟨5, 579, 1⟩]) := by
    decide +kernel
  refine (sectionRemove_iff hwell 5).2 ⟨?_, .inl (by decide +kernel)⟩
  rw [NoNeighbours]
  decide +kernel

/-- Of two neighbours of kind 5 the second one is still found. -/
theorem sectionRemove_neighbours :
    let xclbin := containerOf 538 [⟨5, 536, 1⟩, ⟨5, 537, 1⟩]
    WellFormed xclbin ∧
      rmgmtXclbinSectionInfo (rmgmtXclbinSectionRemove xclbin 5) 5 = some (496, 1) ∧
      ¬ SectionRemoved xclbin (rmgmtXclbinSectionRemove xclbin 5) 5 := by
  have hfound : rmgmtXclbinSectionInfo
      (rmgmtXclbinSectionRemove (containerOf 538 [⟨5, 536, 1⟩, ⟨5, 537, 1⟩]) 5) 5 =
        some (496, 1) := by
    decide +kernel
  refine ⟨by decide +kernel, hfound, fun hremoved => ?_⟩
  have hgone := hremoved.gone
  rw [hfound] at hgone
  cases hgone

end Vmr.Xclbin
