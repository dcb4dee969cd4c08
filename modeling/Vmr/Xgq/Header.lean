import Vmr.Xgq.Alloc

/-!
# What the header says of a queue

The initialisation publishes the layout of a queue in the words of its header.
Whoever attaches to a published queue finds the same rings, and finds them empty.
-/

namespace Vmr.Xgq

open Vmr.Lib

structure SameRing (alloced attached : PlacedRing) : Prop where
  slotNum : attached.slotNum = alloced.slotNum
  slotSz : attached.slotSz = alloced.slotSz
  slotAddr : attached.slotAddr = alloced.slotAddr
  producedAddr : attached.producedAddr = alloced.producedAddr
  consumedAddr : attached.consumedAddr = alloced.consumedAddr
  allocedEmpty : xgqRingEmpty alloced.toXgqRing = true
  attachedEmpty : xgqRingEmpty attached.toXgqRing = true

structure SameQueue (alloced attached : StructXgq) : Prop where
  sq : SameRing alloced.sq attached.sq
  cq : SameRing alloced.cq attached.cq

/-! ## Words of a header -/

theorem offset_ne (addr : UInt64) {offset offset' : Nat} (h : offset ≠ offset')
    (hoffset : offset < 2 ^ 64) (hoffset' : offset' < 2 ^ 64) :
    addr + UInt64.ofNat offset ≠ addr + UInt64.ofNat offset' := by
  intro heq
  have hnat := congrArg UInt64.toNat (UInt64.add_right_inj addr |>.1 heq)
  rw [UInt64.toNat_ofNat_of_lt' hoffset, UInt64.toNat_ofNat_of_lt' hoffset'] at hnat
  exact h hnat

theorem headerWord_ne (ringAddr : UInt64) {index index' : Nat} (h : index ≠ index')
    (hindex : index < 11) (hindex' : index' < 11) :
    headerWord ringAddr index ≠ headerWord ringAddr index' :=
  offset_ne ringAddr (by omega) (by omega) (by omega)

private theorem copyToRing_frame (mem : Words) (words : List UInt32) (target address : UInt64)
    (first : Nat) (h : ∀ index, first ≤ index → index < first + words.length →
      address ≠ headerWord target index) :
    (words.zipIdx first).foldl
      (fun mem word => Function.update mem (headerWord target word.2) word.1) mem address =
        mem address := by
  induction words generalizing mem first with
  | nil => rfl
  | cons word words ih =>
      rw [List.length_cons] at h
      rw [List.zipIdx_cons, List.foldl_cons, ih _ (first + 1)]
      · exact Function.update_of_ne (h first (Nat.le_refl _) (by omega)) _ _
      · exact fun index hlow hhigh => h index (by omega) (by omega)

private theorem copyToRing_get (mem : Words) (words : List UInt32) (target : UInt64)
    (first index : Nat)
    (hfirst : first + words.length ≤ 11) (hindex : index < words.length) :
    (words.zipIdx first).foldl
      (fun mem word => Function.update mem (headerWord target word.2) word.1) mem
        (headerWord target (first + index)) = words[index] := by
  induction words generalizing mem first index with
  | nil => cases hindex
  | cons word words ih =>
      rw [List.length_cons] at hfirst hindex
      rw [List.zipIdx_cons, List.foldl_cons]
      cases index with
      | zero =>
          rw [copyToRing_frame]
          · exact Function.update_self _ _ _
          · intro other hlow hhigh
            exact headerWord_ne target (by omega) (by omega) (by omega)
      | succ index =>
          rw [show first + (index + 1) = first + 1 + index from by omega]
          exact ih _ (first + 1) index (by omega) (by omega)

theorem xgqCopyToRing_frame (mem : Words) (words : List UInt32) {target address : UInt64}
    (h : ∀ index < words.length, address ≠ headerWord target index) :
    xgqCopyToRing mem words target address = mem address :=
  copyToRing_frame mem words target address 0 fun index _ hindex => h index (by omega)

private theorem xgqCopyToRing_get (mem : Words) (words : List UInt32) (target : UInt64)
    {index : Nat}
    (hlength : words.length ≤ 11) (hindex : index < words.length) :
    xgqCopyToRing mem words target (headerWord target index) = words[index] := by
  have hget := copyToRing_get mem words target 0 index (by omega) hindex
  rwa [Nat.zero_add] at hget

/-! ## A published queue -/

structure Published (mem : Words) (ringAddr : UInt64) (queue : StructXgq) : Prop where
  magic : mem (headerWord ringAddr 0) = xgqAllocMagic
  version : mem (headerWord ringAddr 1) = xgqVersion
  slotNum : mem (headerWord ringAddr 2) = queue.sq.slotNum
  sqOffset : mem (headerWord ringAddr 3) = (queue.sq.slotAddr - ringAddr).toUInt32
  sqSlotSize : mem (headerWord ringAddr 4) = queue.sq.slotSz
  cqOffset : mem (headerWord ringAddr 5) = (queue.cq.slotAddr - ringAddr).toUInt32
  sqConsumed : mem (headerWord ringAddr 6) = queue.sq.consumed
  cqConsumed : mem (headerWord ringAddr 7) = queue.cq.consumed
  flags : mem (headerWord ringAddr 8) = queue.flags
  sqProduced : mem queue.sq.producedAddr = queue.sq.produced
  cqProduced : mem queue.cq.producedAddr = queue.cq.produced

theorem Published.frame {mem mem' : Words} {ringAddr : UInt64} {queue : StructXgq}
    (h : Published mem ringAddr queue)
    (hheader : ∀ index < 9, mem' (headerWord ringAddr index) = mem (headerWord ringAddr index))
    (hsq : mem' queue.sq.producedAddr = mem queue.sq.producedAddr)
    (hcq : mem' queue.cq.producedAddr = mem queue.cq.producedAddr) :
    Published mem' ringAddr queue where
  magic := (hheader 0 (by omega)).trans h.magic
  version := (hheader 1 (by omega)).trans h.version
  slotNum := (hheader 2 (by omega)).trans h.slotNum
  sqOffset := (hheader 3 (by omega)).trans h.sqOffset
  sqSlotSize := (hheader 4 (by omega)).trans h.sqSlotSize
  cqOffset := (hheader 5 (by omega)).trans h.cqOffset
  sqConsumed := (hheader 6 (by omega)).trans h.sqConsumed
  cqConsumed := (hheader 7 (by omega)).trans h.cqConsumed
  flags := (hheader 8 (by omega)).trans h.flags
  sqProduced := hsq.trans h.sqProduced
  cqProduced := hcq.trans h.cqProduced

/-! ## The initialisation publishes the queue -/

def publish (ringAddr : UInt64) (sq cq : PlacedRing) (mem : Words) : Words :=
  xgqCopyToRing (xgqSoftReset (xgqSoftReset mem sq).2 cq).2 [xgqAllocMagic] ringAddr

section Publish

variable {mem : Words} {ringAddr : UInt64} {sq cq : PlacedRing}

private theorem publish_magic :
    publish ringAddr sq cq mem (headerWord ringAddr 0) = xgqAllocMagic :=
  xgqCopyToRing_get _ [xgqAllocMagic] ringAddr (by simp) (by simp)

private theorem publish_of_ne_magic {address : UInt64} (h : address ≠ headerWord ringAddr 0) :
    publish ringAddr sq cq mem address = (xgqSoftReset (xgqSoftReset mem sq).2 cq).2 address := by
  apply xgqCopyToRing_frame
  intro index hindex
  obtain rfl : index = 0 := by simpa using hindex
  exact h

theorem publish_frame (hsq : sq.consumedAddr = headerWord ringAddr 6)
    (hcq : cq.consumedAddr = headerWord ringAddr 7) {address : UInt64}
    (hmagic : address ≠ headerWord ringAddr 0) (hsqConsumed : address ≠ headerWord ringAddr 6)
    (hcqConsumed : address ≠ headerWord ringAddr 7) :
    publish ringAddr sq cq mem address = mem address := by
  rw [publish_of_ne_magic hmagic]
  simp only [xgqSoftReset, hsq, hcq]
  rw [Function.update_of_ne hcqConsumed, Function.update_of_ne hsqConsumed]

private theorem publish_sqConsumed (hsq : sq.consumedAddr = headerWord ringAddr 6)
    (hcq : cq.consumedAddr = headerWord ringAddr 7) :
    publish ringAddr sq cq mem (headerWord ringAddr 6) = (xgqSoftReset mem sq).1.consumed := by
  rw [publish_of_ne_magic (headerWord_ne ringAddr (by omega) (by omega) (by omega))]
  simp only [xgqSoftReset, hsq, hcq]
  rw [Function.update_of_ne (headerWord_ne ringAddr (by omega) (by omega) (by omega)),
    Function.update_self]

private theorem publish_cqConsumed (hcq : cq.consumedAddr = headerWord ringAddr 7) :
    publish ringAddr sq cq mem (headerWord ringAddr 7) =
      (xgqSoftReset (xgqSoftReset mem sq).2 cq).1.consumed := by
  rw [publish_of_ne_magic (headerWord_ne ringAddr (by omega) (by omega) (by omega))]
  simp only [xgqSoftReset, hcq]
  rw [Function.update_self]

private theorem publish_word (hdr : XgqHeader) (hsq : sq.consumedAddr = headerWord ringAddr 6)
    (hcq : cq.consumedAddr = headerWord ringAddr 7) {index : Nat} (hindex : index < 11)
    (hmagic : index ≠ 0) (hsqConsumed : index ≠ 6) (hcqConsumed : index ≠ 7) :
    publish ringAddr sq cq (xgqCopyToRing mem hdr.words ringAddr) (headerWord ringAddr index) =
      hdr.words.get ⟨index, hindex⟩ := by
  rw [publish_frame hsq hcq (headerWord_ne ringAddr hmagic (by omega) (by omega))
    (headerWord_ne ringAddr hsqConsumed (by omega) (by omega))
    (headerWord_ne ringAddr hcqConsumed (by omega) (by omega))]
  exact xgqCopyToRing_get mem hdr.words ringAddr (Nat.le_refl 11) hindex

end Publish

section Init

variable (flags ringAddr sqProduced cqProduced : UInt64) (nSlots slotSize : UInt32) (mem : Words)

def OutsideLayout (ringAddr address : UInt64) : Prop :=
  ∀ index < 9, address ≠ headerWord ringAddr index

theorem xgqInit_published
    (hsq : OutsideLayout ringAddr (xgqInit flags ringAddr sqProduced cqProduced nSlots slotSize
      mem).1.sq.producedAddr)
    (hcq : OutsideLayout ringAddr (xgqInit flags ringAddr sqProduced cqProduced nSlots slotSize
      mem).1.cq.producedAddr) :
    Published (xgqInit flags ringAddr sqProduced cqProduced nSlots slotSize mem).2 ringAddr
      (xgqInit flags ringAddr sqProduced cqProduced nSlots slotSize mem).1 where
  magic := publish_magic
  version := publish_word _ rfl rfl (by decide) (by decide) (by decide) (by decide)
  slotNum := publish_word _ rfl rfl (by decide) (by decide) (by decide) (by decide)
  sqOffset := publish_word _ rfl rfl (by decide) (by decide) (by decide) (by decide)
  sqSlotSize := publish_word _ rfl rfl (by decide) (by decide) (by decide) (by decide)
  cqOffset := publish_word _ rfl rfl (by decide) (by decide) (by decide) (by decide)
  sqConsumed := publish_sqConsumed rfl rfl
  cqConsumed := publish_cqConsumed rfl
  flags := publish_word _ rfl rfl (by decide) (by decide) (by decide) (by decide)
  sqProduced := publish_frame rfl rfl (hsq 0 (by omega)) (hsq 6 (by omega)) (hsq 7 (by omega))
  cqProduced := by
    refine (publish_frame rfl rfl (hcq 0 (by omega)) (hcq 6 (by omega)) (hcq 7 (by omega))).trans ?_
    exact (Function.update_of_ne (hcq 6 (by omega)) _ _).symm

end Init

/-! ## Attaching to a published queue -/

private theorem slotNum_rejected_iff (slotNum : UInt32) :
    (slotNum < xgqMinNumSlots ∨ slotNum &&& (slotNum - 1) ≠ 0) ↔
      ¬ (2 ≤ slotNum.toNat ∧ slotNum.toNat.isPowerOfTwo) := by
  rcases Nat.lt_or_ge slotNum.toNat 2 with hlt | hge
  · have hfew : slotNum < xgqMinNumSlots := UInt32.lt_iff_toNat_lt.2 hlt
    simp [hfew, Nat.not_le.2 hlt]
  · have hmany : ¬ slotNum < xgqMinNumSlots := by
      rw [UInt32.lt_iff_toNat_lt]
      exact Nat.not_lt.2 hge
    have hsub : (slotNum - 1).toNat = slotNum.toNat - 1 := by
      rw [UInt32.toNat_sub_of_le _ _ (UInt32.le_iff_toNat_le.2 (Nat.le_trans (by decide) hge))]
      rfl
    have hpow := Nat.and_sub_one_eq_zero_iff_isPowerOfTwo (n := slotNum.toNat) (by omega)
    rw [← hsub, ← UInt32.toNat_and] at hpow
    simp only [hmany, false_or, hge, true_and, ← hpow, ne_eq]
    rw [not_iff_not, ← UInt32.toNat_inj]
    rfl

private theorem isInMemProd_attach (flags headerFlags : UInt32) :
    xgqIsInMemProd (flags ||| (headerFlags &&& xgqDoubleRead) ||| (headerFlags &&& xgqInMemProd)) =
      (xgqIsInMemProd flags || xgqIsInMemProd headerFlags) := by
  have hmask : (flags ||| (headerFlags &&& xgqDoubleRead) ||| (headerFlags &&& xgqInMemProd)) &&&
      xgqInMemProd = (flags &&& xgqInMemProd) ||| (headerFlags &&& xgqInMemProd) := by
    simp only [xgqInMemProd, xgqDoubleRead, ← UInt32.toBitVec_inj, UInt32.toBitVec_and,
      UInt32.toBitVec_or]
    ext bit hbit
    simp only [BitVec.getElem_and, BitVec.getElem_or]
    grind
  rw [xgqIsInMemProd, hmask]
  simp only [xgqIsInMemProd]
  grind

structure LaidOut (ringAddr : UInt64) (queue : StructXgq) : Prop where
  cqSlotNum : queue.cq.slotNum = queue.sq.slotNum
  cqSlotSz : queue.cq.slotSz = comQueueEntrySize
  sqConsumedAddr : queue.sq.consumedAddr = headerWord ringAddr 6
  cqConsumedAddr : queue.cq.consumedAddr = headerWord ringAddr 7
  sqOffset : (queue.sq.slotAddr - ringAddr).toNat < 2 ^ 32
  cqOffset : (queue.cq.slotAddr - ringAddr).toNat < 2 ^ 32
  sqEmpty : queue.sq.consumed = queue.sq.produced
  cqEmpty : queue.cq.consumed = queue.cq.produced

section Attach

variable {flags ringAddr sqProduced cqProduced : UInt64} {mem : Words} {queue : StructXgq}

theorem xgqAttach_rejected (h : Published mem ringAddr queue)
    (hslots : ¬ (2 ≤ queue.sq.slotNum.toNat ∧ queue.sq.slotNum.toNat.isPowerOfTwo)) :
    xgqAttach flags ringAddr sqProduced cqProduced mem = .error .eProto := by
  rw [← slotNum_rejected_iff] at hslots
  simp only [xgqAttach, xgqCopyFromRing, h.magic, h.version, h.slotNum]
  rw [if_neg (by simp), if_neg (by decide), if_pos hslots]

private theorem slotAddr_of_offset {slotAddr : UInt64} (h : (slotAddr - ringAddr).toNat < 2 ^ 32) :
    ringAddr + (slotAddr - ringAddr).toUInt32.toUInt64 = slotAddr := by
  have hoffset : (slotAddr - ringAddr).toUInt32.toUInt64 = slotAddr - ringAddr := by
    rw [← UInt64.toNat_inj, UInt32.toNat_toUInt64, UInt64.toNat_toUInt32]
    exact Nat.mod_eq_of_lt h
  rw [hoffset, UInt64.add_comm, UInt64.sub_add_cancel]

private theorem fastForward_same {alloced : PlacedRing}
    (hproduced : mem alloced.producedAddr = alloced.produced)
    (hconsumed : mem alloced.consumedAddr = alloced.consumed)
    (hempty : alloced.consumed = alloced.produced) :
    SameRing alloced (xgqFastForward mem (xgqInitRing alloced.producedAddr alloced.consumedAddr
      alloced.slotAddr alloced.slotNum alloced.slotSz)) where
  slotNum := rfl
  slotSz := rfl
  slotAddr := rfl
  producedAddr := rfl
  consumedAddr := rfl
  allocedEmpty := by simp [xgqRingEmpty, hempty]
  attachedEmpty := by
    simp [xgqRingEmpty, xgqFastForward, xgqInitRing, hproduced, hconsumed, hempty]

/-- The interrupt enable register is written before the pointers are read. -/
theorem xgqAttach_accepted (flags sqProduced cqProduced : UInt64) (inMem : Bool) {mem' : Words}
    (h : Published mem ringAddr queue)
    (hlaid : LaidOut ringAddr queue)
    (hslots : 2 ≤ queue.sq.slotNum.toNat ∧ queue.sq.slotNum.toNat.isPowerOfTwo)
    (hinMem : (xgqIsInMemProd flags.toUInt32 || xgqIsInMemProd queue.flags) = inMem)
    (hmem' : mem' = if inMem then mem
      else Function.update mem (queue.sq.producedAddr + xgqIntrEnableOffset) 1)
    (hafter : Published mem' ringAddr queue)
    (hsq : queue.sq.producedAddr = if inMem then headerWord ringAddr 9 else sqProduced)
    (hcq : queue.cq.producedAddr = if inMem then headerWord ringAddr 10 else cqProduced) :
    ∃ attached, xgqAttach flags ringAddr sqProduced cqProduced mem = .ok (attached, mem') ∧
      SameQueue queue attached := by
  have haccepted := mt (slotNum_rejected_iff queue.sq.slotNum).1 (not_not.2 hslots)
  have hsqRing := fastForward_same hafter.sqProduced
    (by rw [hlaid.sqConsumedAddr, hafter.sqConsumed]) hlaid.sqEmpty
  have hcqRing := fastForward_same hafter.cqProduced
    (by rw [hlaid.cqConsumedAddr, hafter.cqConsumed]) hlaid.cqEmpty
  refine ⟨⟨flags.toUInt32 ||| (queue.flags &&& xgqDoubleRead) ||| (queue.flags &&& xgqInMemProd),
    _, _⟩, ?_, hsqRing, hcqRing⟩
  simp only [xgqAttach, xgqCopyFromRing, h.magic, h.version, h.slotNum, h.sqOffset, h.sqSlotSize,
    h.cqOffset, h.flags]
  rw [if_neg (by simp), if_neg (by decide), if_neg haccepted]
  simp only [isInMemProd_attach, hinMem, slotAddr_of_offset hlaid.sqOffset,
    slotAddr_of_offset hlaid.cqOffset, ← hlaid.sqConsumedAddr, ← hlaid.cqConsumedAddr,
    ← hlaid.cqSlotSz, ← hsq, ← hcq, ← hmem']
  rw [hlaid.cqSlotNum]
  rfl

end Attach

end Vmr.Xgq
