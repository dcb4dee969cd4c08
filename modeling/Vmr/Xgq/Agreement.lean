import Vmr.Xgq.Header

/-!
# Both sides compute the same layout

What `xgq_attach` finds in memory is what the allocation computed, the rings are
empty on both sides and their areas lie apart inside the length that was
returned, provided that the lengths did not overflow 32 bits on the way and the
number of slots was not limited to one that is no power of two.
-/

namespace Vmr.Xgq

open Vmr.Lib

/-! ## What is agreed on -/

def slotArea (base : UInt64) (ring : PlacedRing) : Area :=
  ⟨(ring.slotAddr - base).toNat, ring.slotNum.toNat * ring.slotSz.toNat⟩

def queueAreas (base : UInt64) (queue : UInt64 × StructXgq) : List Area :=
  [⟨(queue.1 - base).toNat, headerSize⟩, slotArea base queue.2.sq, slotArea base queue.2.cq]

/-- The allocation and an attachment to each of its queues agree. -/
structure Agreed (flags base sqProduced cqProduced : UInt64) (queues : Queues)
    (ringLen : UInt32) (mem : Words) : Prop where
  attached : ∀ queue ∈ queues, ∃ attached mem',
    xgqAttach flags queue.1 sqProduced cqProduced mem = .ok (attached, mem') ∧
      SameQueue queue.2 attached
  apart : (queues.flatMap (queueAreas base)).Pairwise Area.Apart
  inside : ∀ area ∈ queues.flatMap (queueAreas base), area.start + area.size ≤ ringLen.toNat

/-! ## Lengths -/

private theorem le_trueLen {slotSizes : List UInt32} {slotSize : UInt32} (h : slotSize ∈ slotSizes)
    (numslots : Nat) : headerSize + numslots * (slotSize.toNat + 16) ≤
      trueLen slotSizes numslots := by
  induction slotSizes with
  | nil => cases h
  | cons first slotSizes ih =>
      simp only [trueLen, List.map_cons, List.sum_cons] at ih ⊢
      rcases List.mem_cons.1 h with rfl | h
      · omega
      · have hrest := ih h
        omega

def SeemsToFit (rlen : UInt32) (slotSizes : List UInt32) (bits : Nat) : Prop :=
  ∀ tried, 1 ≤ tried → tried ≤ bits → trueLen slotSizes (2 ^ tried) % 2 ^ 32 ≤ rlen.toNat

theorem SeemsToFit.mono {rlen : UInt32} {slotSizes : List UInt32} {bits bits' : Nat}
    (h : SeemsToFit rlen slotSizes bits) (hle : bits' ≤ bits) : SeemsToFit rlen slotSizes bits' :=
  fun tried hone htried => h tried hone (Nat.le_trans htried hle)

private theorem seemsToFit_of_last {rlen : UInt32} {slotSizes : List UInt32} {bits : Nat}
    (hbefore : SeemsToFit rlen slotSizes (bits - 1))
    (hlast : bits = 0 ∨ trueLen slotSizes (2 ^ bits) % 2 ^ 32 ≤ rlen.toNat) :
    SeemsToFit rlen slotSizes bits := by
  intro tried hone htried
  rcases Nat.lt_or_ge (bits - 1) tried with hlt | hge
  · obtain rfl : tried = bits := by omega
    exact hlast.resolve_left (by omega)
  · exact hbefore tried hone hge

private theorem numSlotsFrom_spec (rlen : UInt32) (slotSizes : List UInt32) (rounds : Nat)
    {bits : Nat} {numslots total : UInt32} (hrounds : bits + rounds = 31)
    (hslots : numslots.toNat = 2 ^ bits)
    (htotal : total ≤ rlen ↔ bits = 0 ∨ trueLen slotSizes (2 ^ bits) % 2 ^ 32 ≤ rlen.toNat)
    (hbefore : SeemsToFit rlen slotSizes (bits - 1)) :
    ∃ found ≤ 30, (numSlotsFrom rlen slotSizes rounds numslots total).toNat = 2 ^ found ∧
      SeemsToFit rlen slotSizes found ∧
      (found = 30 ∨ ¬ SeemsToFit rlen slotSizes (found + 1)) := by
  have hhalf : bits ≠ 0 → (numslots >>> 1).toNat = 2 ^ (bits - 1) := by
    intro hbits
    obtain ⟨bits, rfl⟩ := Nat.exists_eq_succ_of_ne_zero hbits
    rw [UInt32.toNat_shiftRight, hslots, Nat.shiftRight_eq_div_pow]
    simp [Nat.pow_succ]
  induction rounds generalizing bits numslots total with
  | zero =>
      obtain rfl : bits = 31 := by omega
      exact ⟨30, Nat.le_refl _, hhalf (by omega), hbefore, .inl rfl⟩
  | succ rounds ih =>
      have hsmall : numslots < 0x80000000 := by
        rw [UInt32.lt_iff_toNat_lt, hslots]
        exact Nat.pow_lt_pow_right (by omega) (by omega : bits < 31)
      rw [numSlotsFrom]
      by_cases hfits : total ≤ rlen
      · rw [if_pos ⟨hfits, hsmall⟩]
        have hdouble : (numslots <<< 1).toNat = 2 ^ (bits + 1) := by
          have hbound : 2 ^ (bits + 1) < 2 ^ 32 :=
            Nat.pow_lt_pow_right (by omega) (by omega : bits + 1 < 32)
          rw [UInt32.toNat_shiftLeft, hslots, Nat.shiftLeft_eq, ← Nat.pow_add]
          exact Nat.mod_eq_of_lt hbound
        have hshift : (numslots <<< 1 >>> 1).toNat = 2 ^ bits := by
          rw [UInt32.toNat_shiftRight, hdouble, Nat.shiftRight_eq_div_pow]
          simp [Nat.pow_succ]
        refine ih (by omega) hdouble ?_ ?_ fun _ => hshift
        · rw [UInt32.le_iff_toNat_le, toNat_totalLen, hdouble]
          simp
        · exact seemsToFit_of_last hbefore (htotal.1 hfits)
      · rw [if_neg fun h => hfits h.1]
        rw [htotal, not_or] at hfits
        refine ⟨bits - 1, by omega, hhalf hfits.1, hbefore, .inr fun h => hfits.2 ?_⟩
        exact h bits (by omega) (by omega)

private theorem xgqAllocNumSlots_spec (rlen : UInt32) (slotSizes : List UInt32) :
    ∃ found ≤ 30, (xgqAllocNumSlots rlen slotSizes).toNat = 2 ^ found ∧
      SeemsToFit rlen slotSizes found ∧
      (found = 30 ∨ ¬ SeemsToFit rlen slotSizes (found + 1)) := by
  refine numSlotsFrom_spec rlen slotSizes 31 (rfl : 0 + 31 = 31) rfl ?_ ?_
  · simp
  · intro tried hone htried
    omega

/-! ## The condition on the parameters -/

def limited (maxSlots : UInt32) (numslots : Nat) : Nat :=
  if maxSlots ≠ 0 ∧ maxSlots.toNat < numslots then maxSlots.toNat else numslots

def Attachable (slotSizes : List UInt32) (numslots : Nat) : Prop :=
  trueLen slotSizes numslots < 2 ^ 32 ∧
    (slotSizes = [] ∨ 2 ≤ numslots ∧ numslots.isPowerOfTwo)

/-- Every number of slots that seems to fit the ring can be attached once it is limited. -/
def LayoutFits (rlen : UInt32) (slotSizes : List UInt32) (maxSlots : UInt32) : Prop :=
  ∀ bits, 1 ≤ bits → bits ≤ 30 → SeemsToFit rlen slotSizes bits →
    Attachable slotSizes (limited maxSlots (2 ^ bits))

private theorem limited_mono (maxSlots : UInt32) {numslots numslots' : Nat}
    (h : numslots ≤ numslots') :
    limited maxSlots numslots ≤ limited maxSlots numslots' := by
  simp only [limited]
  grind

private theorem two_le_two_pow {bits : Nat} (h : 1 ≤ bits) : 2 ≤ 2 ^ bits :=
  Nat.pow_le_pow_right (by omega : 2 > 0) h

/-- It is enough to look at the number of slots that the loop ends with. -/
theorem layoutFits_iff {rlen maxSlots : UInt32} {slotSizes : List UInt32} {found : Nat}
    (hone : 1 ≤ found) (hbound : found ≤ 30) (hfits : SeemsToFit rlen slotSizes found)
    (hlast : found = 30 ∨ ¬ SeemsToFit rlen slotSizes (found + 1)) :
    LayoutFits rlen slotSizes maxSlots ↔
      Attachable slotSizes (limited maxSlots (2 ^ found)) := by
  constructor
  · exact fun h => h found hone hbound hfits
  · rintro ⟨hlen, hslots⟩ bits hbits hmax hseems
    have hle : bits ≤ found := by
      by_contra hlt
      rcases hlast with rfl | hlast
      · exact hlt hmax
      · exact hlast (hseems.mono (by omega))
    have hpow : 2 ^ bits ≤ 2 ^ found := Nat.pow_le_pow_right (by omega) hle
    refine ⟨Nat.lt_of_le_of_lt (trueLen_mono slotSizes (limited_mono maxSlots hpow)) hlen, ?_⟩
    refine hslots.imp_right fun hslots => ?_
    by_cases hlimit : maxSlots ≠ 0 ∧ maxSlots.toNat < 2 ^ bits
    · -- the limit applies to both numbers
      have hsame : limited maxSlots (2 ^ bits) = limited maxSlots (2 ^ found) := by
        rw [limited, limited, if_pos hlimit, if_pos ⟨hlimit.1, Nat.lt_of_lt_of_le hlimit.2 hpow⟩]
      rwa [hsame]
    · rw [limited, if_neg hlimit]
      exact ⟨two_le_two_pow hbits, bits, rfl⟩

/-! ## One queue -/

section Queue

variable (flags ringAddr sqProduced cqProduced : UInt64) (nSlots slotSize : UInt32) (mem : Words)

private theorem sum_queueAreas (base : UInt64) :
    ((queueAreas base (ringAddr, (xgqInit flags ringAddr sqProduced cqProduced nSlots slotSize
      mem).1)).map Area.size).sum = headerSize + nSlots.toNat * (slotSize.toNat + 16) := by
  change headerSize + (nSlots.toNat * slotSize.toNat + (nSlots.toNat * 16 + 0)) = _
  rw [Nat.mul_add, Nat.add_zero]

variable {nSlots slotSize}

private theorem toNat_mul_of_fits (h : headerSize + nSlots.toNat * (slotSize.toNat + 16) < 2 ^ 32) :
    (nSlots * slotSize).toNat = nSlots.toNat * slotSize.toNat := by
  rw [Nat.mul_add] at h
  rw [UInt32.toNat_mul]
  exact Nat.mod_eq_of_lt (by omega)

private theorem toNat_offset (base : UInt64) {offset : Nat} (h : offset < 2 ^ 64) :
    (base + UInt64.ofNat offset - base).toNat = offset := by
  rw [UInt64.add_comm, UInt64.add_sub_cancel, UInt64.toNat_ofNat_of_lt' h]

private theorem cqSlotAddr_eq (h : headerSize + nSlots.toNat * (slotSize.toNat + 16) < 2 ^ 32) :
    (xgqInit flags ringAddr sqProduced cqProduced nSlots slotSize mem).1.cq.slotAddr =
      ringAddr + UInt64.ofNat (headerSize + nSlots.toNat * slotSize.toNat) := by
  have hslots : (nSlots * slotSize).toUInt64 =
      UInt64.ofNat (nSlots.toNat * slotSize.toNat) := by
    rw [← toNat_mul_of_fits h, ← UInt64.toNat_inj, UInt32.toNat_toUInt64,
      UInt64.toNat_ofNat_of_lt' (Nat.lt_trans (UInt32.toNat_lt _) (by decide))]
  change ringAddr + UInt64.ofNat headerSize + (nSlots * slotSize).toUInt64 = _
  rw [hslots, UInt64.ofNat_add, UInt64.add_assoc]

private theorem xgqInit_laidOut (h : headerSize + nSlots.toNat * (slotSize.toNat + 16) < 2 ^ 32) :
    LaidOut ringAddr
      (xgqInit flags ringAddr sqProduced cqProduced nSlots slotSize mem).1 where
  cqSlotNum := rfl
  cqSlotSz := rfl
  sqConsumedAddr := rfl
  cqConsumedAddr := rfl
  sqOffset := by
    change (ringAddr + UInt64.ofNat headerSize - ringAddr).toNat < 2 ^ 32
    rw [toNat_offset ringAddr (by decide)]
    decide
  cqOffset := by
    rw [Nat.mul_add] at h
    rw [cqSlotAddr_eq _ _ _ _ _ (by rw [Nat.mul_add]; exact h), toNat_offset _ (by omega)]
    omega
  sqEmpty := rfl
  cqEmpty := rfl

private theorem queueAreas_eq (base : UInt64) {offset : Nat} (hoffset : offset < 2 ^ 32)
    (h : headerSize + nSlots.toNat * (slotSize.toNat + 16) < 2 ^ 32) :
    queueAreas base (base + UInt64.ofNat offset, (xgqInit flags (base + UInt64.ofNat offset)
      sqProduced cqProduced nSlots slotSize mem).1) =
        Area.pack offset [headerSize, nSlots.toNat * slotSize.toNat, nSlots.toNat * 16] := by
  have hsmall := h
  rw [Nat.mul_add] at hsmall
  have hsq : (base + UInt64.ofNat offset + UInt64.ofNat headerSize - base).toNat =
      offset + headerSize := by
    rw [UInt64.add_assoc, ← UInt64.ofNat_add]
    exact toNat_offset base (by simp only [headerSize]; omega)
  have hcq : ((xgqInit flags (base + UInt64.ofNat offset) sqProduced cqProduced nSlots slotSize
      mem).1.cq.slotAddr - base).toNat =
        offset + headerSize + nSlots.toNat * slotSize.toNat := by
    rw [cqSlotAddr_eq _ _ _ _ _ h, UInt64.add_assoc, ← UInt64.ofNat_add,
      toNat_offset base (by omega), Nat.add_assoc]
  simp only [queueAreas, slotArea, Area.pack, hcq]
  rw [toNat_offset base (by omega)]
  exact congrArg (fun start => _ :: Area.mk start _ :: _) hsq

end Queue

/-! ## A group of queues -/

section Group

variable (flags : UInt64) (numslots : UInt32)

private theorem mem_xgqInitAll {slotSizes : List UInt32} {raddr : UInt64} {mem : Words}
    {queue : UInt64 × StructXgq} (h : queue ∈ (xgqInitAll flags numslots slotSizes raddr mem).1) :
    ∃ slotSize ∈ slotSizes, ∃ mem',
      queue.2 = (xgqInit flags queue.1 0 0 numslots slotSize mem').1 := by
  induction slotSizes generalizing raddr mem with
  | nil => cases h
  | cons slotSize slotSizes ih =>
      rcases List.mem_cons.1 h with rfl | h
      · exact ⟨slotSize, List.mem_cons_self, mem, rfl⟩
      · obtain ⟨slotSize', hsize, hqueue⟩ := ih h
        exact ⟨slotSize', List.mem_cons_of_mem _ hsize, hqueue⟩

private theorem xgqInitAll_eq_nil {slotSizes : List UInt32} {raddr : UInt64} {mem : Words} :
    (xgqInitAll flags numslots slotSizes raddr mem).1 = [] ↔ slotSizes = [] := by
  cases slotSizes <;> simp [xgqInitAll]

private theorem sum_groupAreas (base : UInt64) (slotSizes : List UInt32) (raddr : UInt64)
    (mem : Words) :
    ((((xgqInitAll flags numslots slotSizes raddr mem).1.flatMap
      (queueAreas base)).map Area.size).sum) = trueLen slotSizes numslots.toNat := by
  induction slotSizes generalizing raddr mem with
  | nil => rfl
  | cons slotSize slotSizes ih =>
      simp only [xgqInitAll, List.flatMap_cons, List.map_append, List.sum_append, ih,
        sum_queueAreas, trueLen, List.map_cons, List.sum_cons]

def areaSizes (slotSizes : List UInt32) (numslots : Nat) : List Nat :=
  slotSizes.flatMap fun slotSize => [headerSize, numslots * slotSize.toNat, numslots * 16]

private theorem sum_areaSizes (slotSizes : List UInt32) (numslots : Nat) :
    (areaSizes slotSizes numslots).sum = trueLen slotSizes numslots := by
  induction slotSizes with
  | nil => rfl
  | cons slotSize slotSizes ih =>
      simp only [areaSizes, trueLen] at ih
      simp only [areaSizes, trueLen, List.flatMap_cons, List.sum_append, ih, List.map_cons,
        List.sum_cons, List.sum_nil, Nat.mul_add]
      omega

private theorem raddr_next {numslots : UInt32} (base : UInt64) {offset : Nat} {slotSize : UInt32}
    (h : headerSize + numslots.toNat * (slotSize.toNat + 16) < 2 ^ 32) :
    base + UInt64.ofNat offset + (xgqRingLen numslots slotSize).toUInt64 =
      base + UInt64.ofNat (offset + (headerSize + numslots.toNat * (slotSize.toNat + 16))) := by
  have hlen : (xgqRingLen numslots slotSize).toUInt64 =
      UInt64.ofNat (headerSize + numslots.toNat * (slotSize.toNat + 16)) := by
    rw [← UInt64.toNat_inj, UInt32.toNat_toUInt64, toNat_xgqRingLen, Nat.mod_eq_of_lt h,
      UInt64.toNat_ofNat_of_lt' (Nat.lt_trans h (by decide))]
  rw [hlen, UInt64.add_assoc, ← UInt64.ofNat_add]

private theorem xgqInitAll_layout (base : UInt64) (slotSizes : List UInt32) (offset : Nat)
    (mem : Words)
    (h : offset + trueLen slotSizes numslots.toNat < 2 ^ 32) :
    (xgqInitAll flags numslots slotSizes (base + UInt64.ofNat offset) mem).1.flatMap
        (queueAreas base) = Area.pack offset (areaSizes slotSizes numslots.toNat) ∧
      (xgqInitAll flags numslots slotSizes (base + UInt64.ofNat offset) mem).2.1 =
        base + UInt64.ofNat (offset + trueLen slotSizes numslots.toNat) := by
  induction slotSizes generalizing offset mem with
  | nil => exact ⟨rfl, rfl⟩
  | cons slotSize slotSizes ih =>
      simp only [trueLen, List.map_cons, List.sum_cons] at h ih ⊢
      have hfits : headerSize + numslots.toNat * (slotSize.toNat + 16) < 2 ^ 32 := by omega
      simp only [xgqInitAll, raddr_next base hfits, areaSizes, List.flatMap_cons]
      obtain ⟨hareas, hend⟩ := ih _ (xgqInit flags (base + UInt64.ofNat offset) 0 0 numslots
        slotSize mem).2 (by omega : offset + (headerSize + numslots.toNat * (slotSize.toNat + 16)) +
          _ < 2 ^ 32)
      constructor
      · rw [hareas, queueAreas_eq _ _ _ _ base (by omega) hfits, Area.pack_append]
        congr 2
        simp only [List.sum_cons, List.sum_nil, Nat.mul_add]
        omega
      · rw [hend, Nat.add_assoc]

variable {flags numslots}

private theorem xgqInit_frame (hflags : xgqIsInMemProd flags.toUInt32 = true)
    {ringAddr address sqProduced cqProduced : UInt64} {slotSize : UInt32} (mem : Words)
    (h : ∀ index < 11, address ≠ headerWord ringAddr index) :
    (xgqInit flags ringAddr sqProduced cqProduced numslots slotSize mem).2 address =
      mem address := by
  simp only [xgqInit, hflags, if_true]
  refine (publish_frame rfl rfl (h 0 (by omega)) (h 6 (by omega)) (h 7 (by omega))).trans ?_
  exact xgqCopyToRing_frame mem _ h

private theorem xgqInitAll_frame (hflags : xgqIsInMemProd flags.toUInt32 = true) (base : UInt64)
    {slotSizes : List UInt32} {offset : Nat} {mem : Words} {address : UInt64}
    (h : offset + trueLen slotSizes numslots.toNat < 2 ^ 32)
    (haddress : ∀ offset', offset ≤ offset' →
      offset' < offset + trueLen slotSizes numslots.toNat → address ≠ base + UInt64.ofNat offset') :
    (xgqInitAll flags numslots slotSizes (base + UInt64.ofNat offset) mem).2.2 address =
      mem address := by
  induction slotSizes generalizing offset mem with
  | nil => rfl
  | cons slotSize slotSizes ih =>
      simp only [trueLen, List.map_cons, List.sum_cons] at h haddress ih
      simp only [xgqInitAll, raddr_next base (by omega : headerSize + numslots.toNat *
        (slotSize.toNat + 16) < 2 ^ 32)]
      rw [ih (by omega) fun offset' hlow hhigh => haddress offset' (by omega) (by omega)]
      apply xgqInit_frame hflags
      intro index hindex
      rw [headerWord, UInt64.add_assoc, ← UInt64.ofNat_add]
      exact haddress _ (by omega) (by simp only [headerSize]; omega)

private theorem headerWord_kept (hflags : xgqIsInMemProd flags.toUInt32 = true) (base : UInt64)
    {slotSizes : List UInt32} {offset offset' : Nat} (mem : Words) {index : Nat}
    (hbehind : offset + headerSize ≤ offset')
    (h : offset' + trueLen slotSizes numslots.toNat < 2 ^ 32) (hindex : index < 11) :
    (xgqInitAll flags numslots slotSizes (base + UInt64.ofNat offset') mem).2.2
        (headerWord (base + UInt64.ofNat offset) index) =
      mem (headerWord (base + UInt64.ofNat offset) index) := by
  apply xgqInitAll_frame hflags base h
  intro other hlow hhigh
  simp only [headerSize] at hbehind
  rw [headerWord, UInt64.add_assoc, ← UInt64.ofNat_add]
  exact offset_ne base (by omega) (by omega) (by omega)

private theorem inMem_pointers (hflags : xgqIsInMemProd flags.toUInt32 = true)
    (ringAddr sqProduced cqProduced : UInt64) (numslots slotSize : UInt32) (mem : Words) :
    (xgqInit flags ringAddr sqProduced cqProduced numslots slotSize mem).1.sq.producedAddr =
        headerWord ringAddr 9 ∧
      (xgqInit flags ringAddr sqProduced cqProduced numslots slotSize mem).1.cq.producedAddr =
        headerWord ringAddr 10 :=
  ⟨if_pos hflags, if_pos hflags⟩

private theorem xgqInit_published_inMem (hflags : xgqIsInMemProd flags.toUInt32 = true)
    (ringAddr sqProduced cqProduced : UInt64) (numslots slotSize : UInt32) (mem : Words) :
    Published (xgqInit flags ringAddr sqProduced cqProduced numslots slotSize mem).2 ringAddr
      (xgqInit flags ringAddr sqProduced cqProduced numslots slotSize mem).1 := by
  obtain ⟨hsq, hcq⟩ := inMem_pointers hflags ringAddr sqProduced cqProduced numslots slotSize mem
  apply xgqInit_published
  · intro index hindex
    rw [hsq]
    exact headerWord_ne ringAddr (by omega) (by omega) (by omega)
  · intro index hindex
    rw [hcq]
    exact headerWord_ne ringAddr (by omega) (by omega) (by omega)

private theorem xgqInitAll_published (hflags : xgqIsInMemProd flags.toUInt32 = true) (base : UInt64)
    (slotSizes : List UInt32) (offset : Nat) (mem : Words) {queue : UInt64 × StructXgq}
    (h : offset + trueLen slotSizes numslots.toNat < 2 ^ 32)
    (hqueue : queue ∈
      (xgqInitAll flags numslots slotSizes (base + UInt64.ofNat offset) mem).1) :
    Published (xgqInitAll flags numslots slotSizes (base + UInt64.ofNat offset) mem).2.2
      queue.1 queue.2 := by
  induction slotSizes generalizing offset mem with
  | nil => cases hqueue
  | cons slotSize slotSizes ih =>
      have hlen := h
      simp only [trueLen, List.map_cons, List.sum_cons] at hlen ih
      have hfits : headerSize + numslots.toNat * (slotSize.toNat + 16) < 2 ^ 32 := by omega
      simp only [xgqInitAll, raddr_next base hfits] at hqueue ⊢
      rcases List.mem_cons.1 hqueue with rfl | hqueue
      · have hbehind : offset + headerSize ≤
            offset + (headerSize + numslots.toNat * (slotSize.toNat + 16)) := by omega
        have hkept (index : Nat) (hindex : index < 11) := headerWord_kept hflags base
          (xgqInit flags (base + UInt64.ofNat offset) 0 0 numslots slotSize mem).2 hbehind
          (by rw [trueLen]; omega : _ + trueLen slotSizes numslots.toNat < 2 ^ 32) hindex
        obtain ⟨hsq, hcq⟩ := inMem_pointers hflags (base + UInt64.ofNat offset) 0 0 numslots
          slotSize mem
        refine (xgqInit_published_inMem hflags _ 0 0 numslots slotSize mem).frame
          (fun index hindex => hkept index (by omega)) ?_ ?_
        · simp only [hsq]
          exact hkept 9 (by omega)
        · simp only [hcq]
          exact hkept 10 (by omega)
      · exact ih _ _ (by omega) hqueue

end Group

/-! ## When the two sides agree -/

private theorem Agreed.sum_lt {flags base sqProduced cqProduced : UInt64} {queues : Queues}
    {ringLen : UInt32} {mem : Words}
    (h : Agreed flags base sqProduced cqProduced queues ringLen mem) :
    ((queues.flatMap (queueAreas base)).map Area.size).sum < 2 ^ 32 :=
  Nat.lt_of_le_of_lt (Area.sum_size_le h.apart h.inside) ringLen.toNat_lt

private theorem Agreed.attach_ne {flags base sqProduced cqProduced : UInt64} {queues : Queues}
    {ringLen : UInt32} {mem : Words} {queue : UInt64 × StructXgq} {error : XgqError}
    (h : Agreed flags base sqProduced cqProduced queues ringLen mem) (hqueue : queue ∈ queues) :
    xgqAttach flags queue.1 sqProduced cqProduced mem ≠ .error error := by
  obtain ⟨attached, mem', hattach, -⟩ := h.attached queue hqueue
  rw [hattach]
  intro heq
  cases heq

section Iff

variable {flags attachFlags ringAddr sqProduced cqProduced : UInt64} {mem : Words}

private theorem xgqInitAll_agreed_iff (hflags : xgqIsInMemProd flags.toUInt32 = true)
    {numslots : UInt32} {slotSizes : List UInt32} {queues : Queues} {raddr : UInt64}
    {mem' : Words} (hinit : xgqInitAll flags numslots slotSizes ringAddr mem =
      (queues, raddr, mem')) :
    Agreed attachFlags ringAddr sqProduced cqProduced queues (raddr - ringAddr).toUInt32 mem' ↔
      trueLen slotSizes numslots.toNat < 2 ^ 32 ∧
        (slotSizes = [] ∨ 2 ≤ numslots.toNat ∧ numslots.toNat.isPowerOfTwo) := by
  have hzero : ringAddr + UInt64.ofNat 0 = ringAddr := by simp
  have hpublished (h : trueLen slotSizes numslots.toNat < 2 ^ 32) (queue : UInt64 × StructXgq)
      (hqueue : queue ∈ queues) : Published mem' queue.1 queue.2 := by
    have hall := @xgqInitAll_published flags numslots hflags ringAddr slotSizes 0 mem queue
      (by omega)
    rw [hzero, hinit] at hall
    exact hall hqueue
  have hmem (queue : UInt64 × StructXgq) (hqueue : queue ∈ queues) : ∃ slotSize ∈ slotSizes, ∃ before,
      queue.2 = (xgqInit flags queue.1 0 0 numslots slotSize before).1 := by
    apply @mem_xgqInitAll flags numslots slotSizes ringAddr mem
    rwa [hinit]
  constructor
  · intro hagreed
    have hlen := hagreed.sum_lt
    have hsum := sum_groupAreas flags numslots ringAddr slotSizes ringAddr mem
    rw [hinit] at hsum
    rw [hsum] at hlen
    refine ⟨hlen, or_iff_not_imp_left.2 fun hne => ?_⟩
    have hqueues : queues ≠ [] := by
      have hnil := @xgqInitAll_eq_nil flags numslots slotSizes ringAddr mem
      rw [hinit] at hnil
      exact mt hnil.1 hne
    obtain ⟨queue, hqueue⟩ := List.exists_mem_of_ne_nil _ hqueues
    obtain ⟨slotSize, -, before, hinitial⟩ := hmem queue hqueue
    by_contra hrejected
    exact hagreed.attach_ne hqueue (xgqAttach_rejected (hpublished hlen queue hqueue)
      (by rw [hinitial]; exact hrejected))
  · rintro ⟨hlen, haccepted⟩
    obtain ⟨hareas, hend⟩ := xgqInitAll_layout flags numslots ringAddr slotSizes 0 mem (by omega)
    rw [hzero, hinit] at hareas hend
    simp only [Nat.zero_add] at hareas hend
    constructor
    · intro queue hqueue
      obtain ⟨slotSize, hsize, before, hinitial⟩ := hmem queue hqueue
      have hpub := hpublished hlen queue hqueue
      have hfits := Nat.lt_of_le_of_lt (le_trueLen hsize numslots.toNat) hlen
      obtain ⟨hsq, hcq⟩ := inMem_pointers hflags queue.1 0 0 numslots slotSize before
      rw [← hinitial] at hsq hcq
      have hslots : 2 ≤ numslots.toNat ∧ numslots.toNat.isPowerOfTwo :=
        haccepted.resolve_left (List.ne_nil_of_mem hsize)
      obtain ⟨attached, hattach, hsame⟩ := xgqAttach_accepted attachFlags sqProduced cqProduced true hpub
        (by rw [hinitial]; exact xgqInit_laidOut _ _ _ _ _ hfits)
        (by rw [hinitial]; exact hslots)
        (by rw [hinitial, Bool.or_eq_true]; exact .inr hflags) rfl hpub hsq hcq
      exact ⟨attached, mem', hattach, hsame⟩
    · rw [hareas]
      exact Area.pack_apart _ _
    · intro area harea
      rw [hareas] at harea
      have hinside := (Area.pack_inside harea).2
      rw [sum_areaSizes, Nat.zero_add] at hinside
      rw [hend, UInt64.toNat_toUInt32, toNat_offset ringAddr (by omega), Nat.mod_eq_of_lt hlen]
      exact hinside

/-- The registers of a queue are not words of its header, nor is the interrupt enable register
of the submission queue the pointer of the completion queue. -/
structure RegistersApart (flags ringAddr sqProduced cqProduced : UInt64) : Prop where
  sq : xgqIsInMemProd flags.toUInt32 = false → OutsideLayout ringAddr sqProduced
  cq : xgqIsInMemProd flags.toUInt32 = false → OutsideLayout ringAddr cqProduced
  enable : xgqIsInMemProd flags.toUInt32 = false →
    OutsideLayout ringAddr (sqProduced + xgqIntrEnableOffset)
  other : xgqIsInMemProd flags.toUInt32 = false →
    cqProduced ≠ sqProduced + xgqIntrEnableOffset

private theorem xgqInit_published_registers
    (hregisters : RegistersApart flags ringAddr sqProduced cqProduced)
    (numslots slotSize : UInt32) :
    Published (xgqInit flags ringAddr sqProduced cqProduced numslots slotSize mem).2 ringAddr
      (xgqInit flags ringAddr sqProduced cqProduced numslots slotSize mem).1 := by
  cases hflags : xgqIsInMemProd flags.toUInt32 with
  | true => exact xgqInit_published_inMem hflags _ _ _ _ _ _
  | false =>
      apply xgqInit_published
      · simpa [xgqInit, xgqSoftReset, xgqInitRing, hflags] using hregisters.sq hflags
      · simpa [xgqInit, xgqSoftReset, xgqInitRing, hflags] using hregisters.cq hflags

private theorem published_after_attach
    (hregisters : RegistersApart flags ringAddr sqProduced cqProduced) {queue : StructXgq}
    (h : Published mem ringAddr queue)
    (hsq : queue.sq.producedAddr =
      if xgqIsInMemProd flags.toUInt32 then headerWord ringAddr 9 else sqProduced)
    (hcq : queue.cq.producedAddr =
      if xgqIsInMemProd flags.toUInt32 then headerWord ringAddr 10 else cqProduced) :
    Published (if xgqIsInMemProd flags.toUInt32 then mem
      else Function.update mem (queue.sq.producedAddr + xgqIntrEnableOffset) 1) ringAddr queue := by
  cases hflags : xgqIsInMemProd flags.toUInt32 with
  | true => exact h
  | false =>
      rw [hflags] at hsq hcq
      simp only [Bool.false_eq_true, if_false] at hsq hcq ⊢
      apply h.frame
      · intro index hindex
        refine Function.update_of_ne ?_ _ _
        rw [hsq]
        exact (hregisters.enable hflags index hindex).symm
      · refine Function.update_of_ne ?_ _ _
        rw [hsq, ne_eq, UInt64.left_eq_add]
        decide
      · refine Function.update_of_ne ?_ _ _
        rw [hsq, hcq]
        exact hregisters.other hflags

private theorem xgqInit_agreed_iff
    (hregisters : RegistersApart flags ringAddr sqProduced cqProduced)
    {numslots slotSize : UInt32} (hslots : 2 ≤ numslots.toNat ∧ numslots.toNat.isPowerOfTwo) :
    Agreed flags ringAddr sqProduced cqProduced
        [(ringAddr, (xgqInit flags ringAddr sqProduced cqProduced numslots slotSize mem).1)]
        (xgqRingLen numslots slotSize)
        (xgqInit flags ringAddr sqProduced cqProduced numslots slotSize mem).2 ↔
      trueLen [slotSize] numslots.toNat < 2 ^ 32 := by
  have hlen : trueLen [slotSize] numslots.toNat =
      headerSize + numslots.toNat * (slotSize.toNat + 16) := by simp [trueLen]
  rw [hlen]
  constructor
  · intro hagreed
    have hsum := hagreed.sum_lt
    rwa [List.flatMap_singleton, sum_queueAreas] at hsum
  · intro hfits
    have hareas := queueAreas_eq flags sqProduced cqProduced mem ringAddr
      (by omega : 0 < 2 ^ 32) hfits
    have hzero : ringAddr + UInt64.ofNat 0 = ringAddr := by simp
    rw [hzero] at hareas
    have hpub := @xgqInit_published_registers flags ringAddr sqProduced cqProduced mem hregisters
      numslots slotSize
    constructor
    · intro queue hqueue
      obtain rfl := List.mem_singleton.1 hqueue
      obtain ⟨attached, hattach, hsame⟩ := xgqAttach_accepted flags sqProduced cqProduced
        (xgqIsInMemProd flags.toUInt32) hpub (xgqInit_laidOut _ _ _ _ _ hfits) hslots
        (Bool.or_self _) rfl (published_after_attach hregisters hpub rfl rfl) rfl rfl
      exact ⟨attached, _, hattach, hsame⟩
    · rw [List.flatMap_singleton, hareas]
      exact Area.pack_apart _ _
    · intro area harea
      rw [List.flatMap_singleton, hareas] at harea
      have hinside := (Area.pack_inside harea).2
      simp only [List.sum_cons, List.sum_nil] at hinside
      rw [toNat_xgqRingLen, Nat.mod_eq_of_lt hfits, Nat.mul_add]
      omega

private theorem isInMemProd_or (flags : UInt32) :
    xgqIsInMemProd (flags ||| xgqInMemProd.toUInt64.toUInt32) = true := by
  simp only [xgqIsInMemProd, xgqInMemProd, bne_iff_ne, ne_eq, ← UInt32.toBitVec_inj,
    UInt32.toBitVec_and, UInt32.toBitVec_or]
  intro hzero
  have hbit := congrArg (fun bits => bits.getLsbD 2) hzero
  simp [BitVec.getLsbD] at hbit
  exact absurd (hbit (.inr rfl)) (by decide)

private theorem numSlots_of_ge_min {rlen : UInt32} {slotSizes : List UInt32}
    (h : ¬ xgqAllocNumSlots rlen slotSizes < xgqMinNumSlots) (maxSlots : UInt32) :
    ∃ bits, 1 ≤ bits ∧ (xgqAllocNumSlots rlen slotSizes).toNat = 2 ^ bits ∧
      (LayoutFits rlen slotSizes maxSlots ↔
        Attachable slotSizes (limited maxSlots (2 ^ bits))) := by
  obtain ⟨found, hbound, hslots, hfits, hlast⟩ := xgqAllocNumSlots_spec rlen slotSizes
  have hone : 1 ≤ found := by
    by_contra hzero
    obtain rfl : found = 0 := by omega
    rw [UInt32.lt_iff_toNat_lt, hslots] at h
    exact h (by decide)
  exact ⟨found, hone, hslots, layoutFits_iff hone hbound hfits hlast⟩

private theorem xgqAlloc_agreed_iff {ringLen slotSize len : UInt32} {queue : StructXgq}
    {mem' : Words}
    (hregisters : RegistersApart flags ringAddr sqProduced cqProduced)
    (halloc : xgqAlloc flags ringAddr ringLen slotSize sqProduced cqProduced mem =
      .ok (queue, len, mem')) :
    Agreed flags ringAddr sqProduced cqProduced [(ringAddr, queue)] len mem' ↔
      LayoutFits ringLen [slotSize] 0 := by
  unfold xgqAlloc at halloc
  dsimp only at halloc
  split at halloc
  · cases halloc
  split at halloc
  · cases halloc
  rename_i hmin
  cases halloc
  obtain ⟨bits, hone, hslots, hiff⟩ := numSlots_of_ge_min hmin 0
  have haccepted : 2 ≤ 2 ^ bits ∧ (2 ^ bits).isPowerOfTwo := ⟨two_le_two_pow hone, bits, rfl⟩
  rw [hiff, limited, if_neg (by simp), ← hslots]
  rw [← hslots] at haccepted
  refine (xgqInit_agreed_iff hregisters haccepted).trans ?_
  exact ⟨fun hlen => ⟨hlen, .inr haccepted⟩, And.left⟩

private theorem xgqGroupAlloc_agreed_iff {ringLen maxSlots len : UInt32} {slotSizes : List UInt32}
    {queues : Queues} {mem' : Words}
    (halloc : xgqGroupAlloc flags ringAddr ringLen slotSizes maxSlots mem =
      .ok (queues, len, mem')) :
    Agreed attachFlags ringAddr sqProduced cqProduced queues len mem' ↔
      LayoutFits ringLen slotSizes maxSlots := by
  unfold xgqGroupAlloc at halloc
  dsimp only at halloc
  split at halloc
  · cases halloc
  split at halloc
  · cases halloc
  rename_i hmin
  cases halloc
  have hflags : xgqIsInMemProd (flags ||| xgqInMemProd.toUInt64).toUInt32 = true := by
    rw [UInt64.toUInt32_or]
    exact isInMemProd_or _
  obtain ⟨bits, -, hslots, hiff⟩ := numSlots_of_ge_min hmin maxSlots
  have hlimited : (if maxSlots ≠ 0 ∧ maxSlots < xgqAllocNumSlots ringLen slotSizes then maxSlots
      else xgqAllocNumSlots ringLen slotSizes).toNat = limited maxSlots (2 ^ bits) := by
    simp only [limited, ← hslots, UInt32.lt_iff_toNat_lt]
    split <;> rfl
  rw [hiff, ← hlimited]
  exact xgqInitAll_agreed_iff hflags rfl

end Iff

/-- Whoever attaches agrees with the allocation, of one queue or of a group, exactly when the
layout fits. -/
theorem alloc_agreed_iff_layoutFits (flags attachFlags ringAddr sqProduced cqProduced : UInt64)
    (ringLen slotSize maxSlots : UInt32) (slotSizes : List UInt32) (mem : Words) :
    (∀ queue len mem', RegistersApart flags ringAddr sqProduced cqProduced →
      xgqAlloc flags ringAddr ringLen slotSize sqProduced cqProduced mem =
        .ok (queue, len, mem') →
      (Agreed flags ringAddr sqProduced cqProduced [(ringAddr, queue)] len mem' ↔
        LayoutFits ringLen [slotSize] 0)) ∧
    ∀ queues len mem',
      xgqGroupAlloc flags ringAddr ringLen slotSizes maxSlots mem = .ok (queues, len, mem') →
      (Agreed attachFlags ringAddr sqProduced cqProduced queues len mem' ↔
        LayoutFits ringLen slotSizes maxSlots) := by
  constructor
  · intro queue len mem' hregisters halloc
    exact xgqAlloc_agreed_iff hregisters halloc
  · intro queues len mem' halloc
    exact xgqGroupAlloc_agreed_iff halloc

/-- A ring of 4096 bytes: one queue with its pointers in registers, or a group of two. -/
theorem alloc_agreed_rpu_ring :
    (∃ queue len mem',
      xgqAlloc 0 0x38001000 4096 512 0x80010000 0x80010100 (fun _ => 0) = .ok (queue, len, mem') ∧
        Agreed 0 0x38001000 0x80010000 0x80010100 [(0x38001000, queue)] len mem') ∧
    ∃ queues len mem', xgqGroupAlloc 0 0x38001000 4096 [512, 256] 4 (fun _ => 0) =
      .ok (queues, len, mem') ∧ Agreed 0 0x38001000 0 0 queues len mem' := by
  have hfits (slotSizes : List UInt32) (maxSlots : UInt32)
      (hlarge : 4096 < trueLen slotSizes (2 ^ 3) % 2 ^ 32)
      (hone : Attachable slotSizes (limited maxSlots (2 ^ 1)))
      (htwo : Attachable slotSizes (limited maxSlots (2 ^ 2))) :
      LayoutFits 4096 slotSizes maxSlots := by
    intro bits hbits _ hseems
    have hsmall : bits ≤ 2 := by
      by_contra hlt
      exact absurd (hseems 3 (by omega) (by omega)) (Nat.not_le.2 hlarge)
    obtain rfl | rfl : bits = 1 ∨ bits = 2 := by omega
    · exact hone
    · exact htwo
  constructor
  · refine ⟨_, _, _, rfl, ((alloc_agreed_iff_layoutFits 0 0 0x38001000 0x80010000 0x80010100 4096
      512 0 [] fun _ => 0).1 _ _ _ ?_ rfl).2 (hfits _ _ (by decide) ?_ ?_)⟩
    · exact ⟨fun _ => by unfold OutsideLayout; decide, fun _ => by unfold OutsideLayout; decide,
        fun _ => by unfold OutsideLayout; decide, fun _ => by decide⟩
    · exact ⟨by decide, .inr ⟨by decide, 1, rfl⟩⟩
    · exact ⟨by decide, .inr ⟨by decide, 2, rfl⟩⟩
  · refine ⟨_, _, _, rfl, ((alloc_agreed_iff_layoutFits 0 0 0x38001000 0 0 4096 0 4 [512, 256]
      fun _ => 0).2 _ _ _ rfl).2 (hfits _ _ (by decide) ?_ ?_)⟩
    · exact ⟨by decide, .inr ⟨by decide, 1, rfl⟩⟩
    · exact ⟨by decide, .inr ⟨by decide, 2, rfl⟩⟩

/-- With a limit of three slots the allocation succeeds, and the attachment fails. -/
theorem groupAlloc_three_slots : ∃ queues len mem',
    xgqGroupAlloc 0 0x38001000 4096 [512] 3 (fun _ => 0) = .ok (queues, len, mem') ∧
      (∀ queue ∈ queues, xgqAttach 0 queue.1 0 0 mem' = .error .eProto) ∧
      ¬ Agreed 0 0x38001000 0 0 queues len mem' := by
  have hrejected : ∀ queue ∈ (xgqInitAll 4 3 [512] 0x38001000 fun _ => 0).1,
      xgqAttach 0 queue.1 0 0 (xgqInitAll 4 3 [512] 0x38001000 fun _ => 0).2.2 =
        .error .eProto := by
    intro queue hqueue
    obtain rfl := List.mem_singleton.1 hqueue
    exact xgqAttach_rejected (xgqInit_published_inMem rfl 0x38001000 0 0 3 512 fun _ => 0) (by decide)
  refine ⟨_, _, _, rfl, hrejected, fun hagreed => ?_⟩
  exact hagreed.attach_ne List.mem_cons_self (hrejected _ List.mem_cons_self)

end Vmr.Xgq
