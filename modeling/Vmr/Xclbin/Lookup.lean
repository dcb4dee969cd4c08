import Vmr.Xclbin.Remove

/-!
# The range of a lookup

`rmgmt_xclbin_section_info` compares the end of a section, with 64 bits, with the
length that the container gives itself.  How much of it was received is not looked
at.
-/

namespace Vmr.Xclbin

open Vmr.Lib

section Lookup

variable (xclbin : Memory) (kind : UInt32) (rhDataSize : UInt32)

def sectionEnd (index : Nat) : Nat :=
  (mSectionOffset xclbin index).toNat + (mSectionSize xclbin index).toNat

/-- What is found lies in the data that was received, and so does the header that was read. -/
def LookupInside : Prop :=
  ∀ index, rmgmtXclbinGetSectionHdr xclbin kind = some index →
    ∀ offset size, rmgmtXclbinSectionInfo xclbin kind = some (offset, size) →
      offset.toNat + size.toNat ≤ rhDataSize.toNat ∧
        sectionHeaderAddr (index + 1) ≤ rhDataSize.toNat

variable {xclbin kind rhDataSize}

private theorem toNat_sectionEnd (index : Nat) :
    (mSectionOffset xclbin index + mSectionSize xclbin index).toNat =
      sectionEnd xclbin index % 2 ^ 64 :=
  UInt64.toNat_add _ _

private theorem rmgmtXclbinCheckSectionHdr_iff {index : Nat} {xclbinLen : UInt64} :
    rmgmtXclbinCheckSectionHdr xclbin index xclbinLen = true ↔
      sectionEnd xclbin index % 2 ^ 64 ≤ xclbinLen.toNat := by
  rw [← toNat_sectionEnd, ← UInt64.le_iff_toNat_le, rmgmtXclbinCheckSectionHdr]
  simp

theorem rmgmtXclbinSectionInfo_of_hdr {index : Nat}
    (hfound : rmgmtXclbinGetSectionHdr xclbin kind = some index) {offset size : UInt64} :
    rmgmtXclbinSectionInfo xclbin kind = some (offset, size) ↔
      sectionEnd xclbin index % 2 ^ 64 ≤ (mLength xclbin).toNat ∧
        mSectionOffset xclbin index = offset ∧ mSectionSize xclbin index = size := by
  rw [← rmgmtXclbinCheckSectionHdr_iff, rmgmtXclbinSectionInfo, hfound]
  dsimp only
  split
  next hcheck => simp [hcheck]
  next hcheck => simp [hcheck]

/-- A lookup is inside what was received exactly when the first header of the kind was received,
the end of its section does not wrap, and the length of the container was received too; otherwise
the section has to end early or the header has to be refused. -/
theorem lookupInside_iff :
    LookupInside xclbin kind rhDataSize ↔
      ∀ index, rmgmtXclbinGetSectionHdr xclbin kind = some index →
        (mLength xclbin).toNat < sectionEnd xclbin index % 2 ^ 64 ∨
        sectionHeaderAddr (index + 1) ≤ rhDataSize.toNat ∧ sectionEnd xclbin index < 2 ^ 64 ∧
          ((mLength xclbin).toNat ≤ rhDataSize.toNat ∨
            sectionEnd xclbin index ≤ rhDataSize.toNat) := by
  refine forall_congr' fun index => imp_congr_right fun hfound => ?_
  have hsize := rhDataSize.toNat_lt
  constructor
  · intro hinside
    rcases Nat.lt_or_ge (mLength xclbin).toNat (sectionEnd xclbin index % 2 ^ 64) with hrefused | hle
    · exact .inl hrefused
    · obtain ⟨hend, hheader⟩ := hinside _ _ ((rmgmtXclbinSectionInfo_of_hdr hfound).2 ⟨hle, rfl, rfl⟩)
      have hshort : sectionEnd xclbin index ≤ rhDataSize.toNat := hend
      exact .inr ⟨hheader, by omega, .inr hshort⟩
  · rintro hcondition offset size hinfo
    obtain ⟨hle, rfl, rfl⟩ := (rmgmtXclbinSectionInfo_of_hdr hfound).1 hinfo
    rcases hcondition with hrefused | ⟨hheader, hspace, hlength⟩
    · exact absurd hle (Nat.not_le_of_lt hrefused)
    · rw [Nat.mod_eq_of_lt hspace] at hle
      refine ⟨?_, hheader⟩
      change sectionEnd xclbin index ≤ rhDataSize.toNat
      rcases hlength with hreceived | hshort
      · exact Nat.le_trans hle hreceived
      · exact hshort

/-- A PDI whose offset and size add up to 256 more than 64 bits can hold. -/
theorem not_lookupInside_wrapped :
    ¬ LookupInside (containerOf 496 [⟨18, 0xFFFFFFFFFFFFFF00, 0x200⟩]) 18 496 := by
  intro hinside
  have hend := (hinside 0 (by decide +kernel) 0xFFFFFFFFFFFFFF00 0x200 (by decide +kernel)).1
  exact absurd hend (by decide)

end Lookup

end Vmr.Xclbin
