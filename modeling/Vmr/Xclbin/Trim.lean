import Vmr.Xclbin.Remove

/-!
# Taking out one section

When the first section of a kind is the only one that a removal comes to, the rest
of the container is the rest of the list, and every byte behind the header array
comes from a known place.
-/

namespace Vmr.Xclbin

open Vmr.Lib

/-! ## The list -/

def withoutFirst (kind : UInt32) (found : List Section) : List Section :=
  found.eraseIdx (found.findIdx fun other => other.kind == kind)

/-- The loop comes to no other section of the kind than the first one. -/
def TrimsOne (kind : UInt32) (found : List Section) : Prop :=
  ∀ other ∈ found.drop ((found.findIdx fun other => other.kind == kind) + 2), other.kind ≠ kind

instance (kind : UInt32) (found : List Section) : Decidable (TrimsOne kind found) :=
  List.decidableBAll _ _

variable {kind : UInt32}

private theorem withoutFirst_of_kind {first : Section} (h : first.kind = kind)
    (rest : List Section) :
    withoutFirst kind (first :: rest) = rest := by
  simp [withoutFirst, List.findIdx_cons, h]

private theorem withoutFirst_of_ne {first : Section} (h : first.kind ≠ kind) (rest : List Section) :
    withoutFirst kind (first :: rest) = first :: withoutFirst kind rest := by
  have hne : (first.kind == kind) = false := beq_eq_false_iff_ne.2 h
  simp [withoutFirst, List.findIdx_cons, hne]

private theorem trimsOne_of_kind {first : Section} (h : first.kind = kind) (rest : List Section) :
    TrimsOne kind (first :: rest) ↔ ∀ other ∈ rest.drop 1, other.kind ≠ kind := by
  simp [TrimsOne, List.findIdx_cons, h]

private theorem trimsOne_of_ne {first : Section} (h : first.kind ≠ kind) (rest : List Section) :
    TrimsOne kind (first :: rest) ↔ TrimsOne kind rest := by
  have hne : (first.kind == kind) = false := beq_eq_false_iff_ne.2 h
  simp [TrimsOne, List.findIdx_cons, hne]

theorem removeSkipping_sublist (kind : UInt32) (found : List Section) :
    (removeSkipping kind found).Sublist found := by
  induction found using removeSkipping.induct kind with
  | case1 => exact .slnil
  | case2 last hkind => simp [removeSkipping, hkind]
  | case3 last hkind => simp [removeSkipping, hkind]
  | case4 first second rest hkind ih =>
      rw [removeSkipping_of_kind hkind]
      exact (ih.cons_cons second).cons first
  | case5 first second rest hkind ih =>
      rw [removeSkipping_of_ne hkind]
      exact ih.cons_cons first

theorem removeSkipping_sublist_withoutFirst (kind : UInt32) (found : List Section) :
    (removeSkipping kind found).Sublist (withoutFirst kind found) := by
  induction found with
  | nil => exact .slnil
  | cons first rest ih =>
      by_cases hkind : first.kind = kind
      · rw [removeSkipping_of_kind hkind, withoutFirst_of_kind hkind]
        conv_rhs => rw [← List.take_append_drop 1 rest]
        exact (List.append_sublist_append_left _).2 (removeSkipping_sublist kind _)
      · rw [removeSkipping_of_ne hkind, withoutFirst_of_ne hkind]
        exact ih.cons_cons first

private theorem removeSkipping_eq_self_iff (kind : UInt32) (found : List Section) :
    removeSkipping kind found = found ↔ ∀ other ∈ found, other.kind ≠ kind := by
  induction found with
  | nil => simp [removeSkipping]
  | cons first rest ih =>
      by_cases hkind : first.kind = kind
      · refine iff_of_false (fun hsame => ?_) fun hnone => hnone first List.mem_cons_self hkind
        have hshorter := (removeSkipping_sublist_withoutFirst kind (first :: rest)).length_le
        rw [hsame, withoutFirst_of_kind hkind] at hshorter
        exact absurd hshorter (by simp)
      · rw [removeSkipping_of_ne hkind, List.forall_mem_cons, List.cons.injEq, ih]
        simp [hkind]

theorem removeSkipping_eq_withoutFirst_iff (kind : UInt32) (found : List Section) :
    removeSkipping kind found = withoutFirst kind found ↔ TrimsOne kind found := by
  induction found with
  | nil => simp [removeSkipping, withoutFirst, TrimsOne]
  | cons first rest ih =>
      by_cases hkind : first.kind = kind
      · rw [removeSkipping_of_kind hkind, withoutFirst_of_kind hkind, trimsOne_of_kind hkind,
          ← removeSkipping_eq_self_iff]
        conv_lhs => rhs; rw [← List.take_append_drop 1 rest]
        exact List.append_right_inj _
      · rw [removeSkipping_of_ne hkind, withoutFirst_of_ne hkind, trimsOne_of_ne hkind, ← ih,
          List.cons.injEq]
        exact and_iff_right rfl

theorem find?_removeSkipping {other : UInt32} (h : other ≠ kind) (found : List Section) :
    (removeSkipping kind found).find? (fun entry => entry.kind == other) =
      found.find? fun entry => entry.kind == other := by
  have hskip {first : Section} (hkind : first.kind = kind) : (first.kind == other) = false := by
    rw [hkind]
    exact beq_eq_false_iff_ne.2 (Ne.symm h)
  induction found using removeSkipping.induct kind with
  | case1 => rfl
  | case2 last hkind => simp [removeSkipping, hkind, Ne.symm h]
  | case3 last hkind => simp [removeSkipping, hkind]
  | case4 first second rest hkind ih =>
      rw [removeSkipping_of_kind hkind, List.find?_cons, hskip hkind]
      simp [List.find?_cons, ih]
  | case5 first second rest hkind ih =>
      rw [removeSkipping_of_ne hkind, List.find?_cons, List.find?_cons, ih]

theorem find?_withoutFirst {other : UInt32} (h : other ≠ kind) (found : List Section) :
    (withoutFirst kind found).find? (fun entry => entry.kind == other) =
      found.find? fun entry => entry.kind == other := by
  induction found with
  | nil => rfl
  | cons first rest ih =>
      by_cases hkind : first.kind = kind
      · have hskip : (first.kind == other) = false := by
          rw [hkind]
          exact beq_eq_false_iff_ne.2 (Ne.symm h)
        rw [withoutFirst_of_kind hkind, List.find?_cons, hskip]
      · rw [withoutFirst_of_ne hkind, List.find?_cons, List.find?_cons, ih]

theorem length_withoutFirst {found : List Section}
    (h : (found.find? fun entry => entry.kind == kind) ≠ none) :
    (withoutFirst kind found).length + 1 = found.length := by
  have hindex : (found.findIdx fun entry => entry.kind == kind) < found.length := by
    rw [List.findIdx_lt_length]
    obtain ⟨entry, hentry⟩ := Option.ne_none_iff_exists'.1 h
    have hkind := List.find?_some hentry
    exact ⟨entry, List.mem_of_find?_eq_some hentry, hkind⟩
  rw [withoutFirst, List.length_eraseIdx_of_lt hindex]
  omega

/-! ## The container -/

section Container

variable {xclbin : Memory} {index : Nat}

theorem mLength_removeSection_le (h : WellFormed xclbin)
    (hindex : index < (mNumSections xclbin).toNat) :
    (mLength (removeSection index xclbin)).toNat ≤ (mLength xclbin).toNat := by
  by_cases hone : (mNumSections xclbin).toNat = 1
  · obtain rfl : index = 0 := by omega
    have hlength := (removeSection_of_one h hone).2
    omega
  · have hlength := mLength_removeSection h hindex hone
    omega

theorem mLength_removeFrom_le (kind : UInt32) (rounds : Nat) (h : WellFormed xclbin) :
    (mLength (removeFrom kind rounds index xclbin)).toNat ≤ (mLength xclbin).toNat := by
  induction rounds generalizing index xclbin with
  | zero => exact Nat.le_refl _
  | succ rounds ih =>
      rw [removeFrom]
      split
      next hindex =>
        split
        next => exact Nat.le_trans (ih (h.removeSection hindex)) (mLength_removeSection_le h hindex)
        next => exact ih h
      next => exact Nat.le_refl _

private theorem removeFrom_of_none {rounds : Nat}
    (hnone : ∀ other, index ≤ other → other < (mNumSections xclbin).toNat →
      mSectionKind xclbin other ≠ kind) : removeFrom kind rounds index xclbin = xclbin := by
  induction rounds generalizing index with
  | zero => rfl
  | succ rounds ih =>
      rw [removeFrom]
      split
      next hindex =>
        rw [if_neg (hnone index (Nat.le_refl _) hindex)]
        exact ih fun other hlow => hnone other (by omega)
      next => rfl

private theorem removeFrom_one {rounds start : Nat} (h : WellFormed xclbin)
    (hindex : index < (mNumSections xclbin).toNat) (hstart : start ≤ index)
    (hrounds : index < start + rounds)
    (hbefore : ∀ other, start ≤ other → other < index → mSectionKind xclbin other ≠ kind)
    (hkind : mSectionKind xclbin index = kind)
    (hbehind : ∀ other, index + 2 ≤ other → other < (mNumSections xclbin).toNat →
      mSectionKind xclbin other ≠ kind) :
    removeFrom kind rounds start xclbin = removeSection index xclbin := by
  induction rounds generalizing start with
  | zero => omega
  | succ rounds ih =>
      rw [removeFrom, if_pos (by omega)]
      rcases Nat.lt_or_eq_of_le hstart with hlt | rfl
      · rw [if_neg (hbefore start (Nat.le_refl _) hlt)]
        exact ih hlt (by omega) fun other hlow => hbefore other (by omega)
      · rw [if_pos hkind]
        refine removeFrom_of_none fun other hlow hhigh => ?_
        by_cases hone : (mNumSections xclbin).toNat = 1
        · obtain rfl : start = 0 := by omega
          rw [(removeSection_of_one h hone).1] at hhigh
          exact absurd hhigh (Nat.not_lt_zero _)
        · have hnum := mNumSections_removeSection h hindex hone
          have hother : other + 1 < (mNumSections xclbin).toNat := by omega
          rw [kind_removeSection h hindex hone hother, formerIndex, if_neg (by omega)]
          exact hbehind (other + 1) (by omega) hother

theorem getSectionHdr_some (hfound : rmgmtXclbinGetSectionHdr xclbin kind = some index) :
    index < (mNumSections xclbin).toNat ∧ mSectionKind xclbin index = kind ∧
      (∀ other < index, mSectionKind xclbin other ≠ kind) ∧
      (sections xclbin).findIdx (fun entry => entry.kind == kind) = index := by
  rw [rmgmtXclbinGetSectionHdr] at hfound
  split at hfound
  · cases hfound
  · rw [List.find?_range_eq_some] at hfound
    obtain ⟨hkind, hindex, hbefore⟩ := hfound
    rw [List.mem_range] at hindex
    have hnot (other : Nat) (hother : other < index) : mSectionKind xclbin other ≠ kind := by
      simpa using hbefore other hother
    refine ⟨hindex, by simpa using hkind, hnot, ?_⟩
    rw [List.findIdx_eq (by rwa [length_sections])]
    constructor
    · simpa [sections, sectionAt] using hkind
    · intro other hother
      simpa [sections, sectionAt] using hnot other hother

theorem sectionRemove_one (h : WellFormed xclbin)
    (hfound : rmgmtXclbinGetSectionHdr xclbin kind = some index)
    (hone : TrimsOne kind (sections xclbin)) :
    rmgmtXclbinSectionRemove xclbin kind = removeSection index xclbin := by
  obtain ⟨hindex, hkind, hbefore, hfirst⟩ := getSectionHdr_some hfound
  refine removeFrom_one h hindex (Nat.zero_le _) (by omega) (fun other _ => hbefore other) hkind ?_
  intro other hlow hhigh
  rw [TrimsOne, hfirst] at hone
  have hmem : sectionAt xclbin other ∈ (sections xclbin).drop (index + 2) := by
    rw [List.mem_drop_iff_getElem]
    refine ⟨other - (index + 2), by rw [length_sections]; omega, ?_⟩
    simp only [sections, List.getElem_map, List.getElem_range]
    congr 1
    omega
  exact hone _ hmem

def movedFrom (xclbin : Memory) (index address : Nat) : Nat :=
  let removed := (bytesRemoved xclbin index).toNat
  let length := (mLength xclbin).toNat
  let behind := if address + sectionHeaderSize + removed < length then address + sectionHeaderSize
    else address
  if (mSectionOffset xclbin index).toNat ≤ behind ∧ behind + removed < length then behind + removed
  else behind

theorem removeSection_apply (h : WellFormed xclbin) (hindex : index < (mNumSections xclbin).toNat)
    (hmany : (mNumSections xclbin).toNat ≠ 1) {address : Nat}
    (haddress : sectionHeaderAddr (mNumSections xclbin).toNat ≤ address) :
    removeSection index xclbin address = xclbin (movedFrom xclbin index address) := by
  have hindex' := index_lt_removeData h hindex
  have hheaders := headers_removeData h hindex
  have hnum := toNat_mNumSections_removeEntry hindex' hheaders
  have hlength := mLength_removeData h hindex
  have hsame := mNumSections_removeData h hindex
  simp only [removeEntry, mNumSections_subtractOffsets] at hnum
  have harray : sectionHeaderAddr ((mNumSections xclbin).toNat - 1) ≤ address := by
    simp only [sectionHeaderAddr, sectionHeaderSize] at haddress ⊢
    omega
  have hfirst : sectionHeaderAddr index ≤ address := by
    simp only [sectionHeaderAddr, sectionHeaderSize] at haddress ⊢
    omega
  have habove := Nat.le_trans (sectionsAddr_le _) hfirst
  rw [removeSection_of_many h hindex hmany]
  simp only [removeEntry, hnum]
  rw [subtractOffsets_outside, setLength_above _ _ habove, setNumSections_above _ _ habove,
    copyEntry hindex' hheaders]
  · rw [movedFrom]
    by_cases hinside : address + sectionHeaderSize + (bytesRemoved xclbin index).toNat <
        (mLength xclbin).toNat
    · rw [if_pos ⟨hfirst, by omega⟩, removeData_apply h hindex (by omega)]
      simp only [if_pos hinside]
      split <;> rfl
    · rw [if_neg (by omega), removeData_apply h hindex haddress]
      simp only [if_neg hinside]
      split <;> rfl
  · rw [Nat.zero_add, hsame]
    exact .inr harray

end Container

end Vmr.Xclbin
