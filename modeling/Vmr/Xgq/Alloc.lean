import Vmr.Lib.Area
import Vmr.Xgq.Ring

/-!
# Allocating and attaching a queue

`xgq_alloc` lays a queue out in memory: a header of eleven words, the slots of
the submission ring and the slots of the completion ring.  `xgq_group_alloc`
lays out several queues one behind the other.  `xgq_attach` reads the header and
computes the layout anew.  A `size_t` has 32 bits, as on the RPU.  Memory and
registers are words at addresses; a register that is read twice answers the
same twice, so the variants that read twice are not told apart.
-/

namespace Vmr.Xgq

open Vmr.Lib

abbrev Words := UInt64 → UInt32

def xgqAllocMagic : UInt32 := 0x5847513F
def xgqMajor : UInt32 := 1
def xgqMinor : UInt32 := 0
def xgqMinNumSlots : UInt32 := 2
def xgqVersion : UInt32 := (xgqMajor <<< 16) + xgqMinor
def getXgqMajor (version : UInt32) : UInt32 := version >>> 16
def xgqDoubleRead : UInt32 := 2
def xgqInMemProd : UInt32 := 4
def xgqIntrEnableOffset : UInt64 := 12

def headerSize : Nat := 44

def comQueueEntrySize : UInt32 := 16

inductive XgqError where
  | eInval | e2Big | eAgain | eOpNotSupp | eProto
  deriving DecidableEq, Repr

structure XgqHeader where
  magic : UInt32
  version : UInt32
  slotNum : UInt32
  sqOffset : UInt32
  sqSlotSize : UInt32
  cqOffset : UInt32
  sqConsumed : UInt32
  cqConsumed : UInt32
  flags : UInt32
  sqProduced : UInt32
  cqProduced : UInt32
  deriving DecidableEq, Repr

def XgqHeader.words (hdr : XgqHeader) : List UInt32 :=
  [hdr.magic, hdr.version, hdr.slotNum, hdr.sqOffset, hdr.sqSlotSize, hdr.cqOffset,
    hdr.sqConsumed, hdr.cqConsumed, hdr.flags, hdr.sqProduced, hdr.cqProduced]

def headerWord (ringAddr : UInt64) (index : Nat) : UInt64 := ringAddr + UInt64.ofNat (4 * index)

structure PlacedRing extends XgqRing where
  producedAddr : UInt64
  consumedAddr : UInt64
  deriving DecidableEq, Repr

/-- `struct xgq`, without the handle and the header address, which nothing reads. -/
structure StructXgq where
  flags : UInt32
  sq : PlacedRing
  cq : PlacedRing
  deriving DecidableEq, Repr

def xgqIsInMemProd (flags : UInt32) : Bool := flags &&& xgqInMemProd != 0

def xgqCopyToRing (mem : Words) (words : List UInt32) (target : UInt64) : Words :=
  words.zipIdx.foldl (fun mem word => Function.update mem (headerWord target word.2) word.1) mem

def xgqCopyFromRing (mem : Words) (source : UInt64) : XgqHeader :=
  { magic := mem (headerWord source 0)
    version := mem (headerWord source 1)
    slotNum := mem (headerWord source 2)
    sqOffset := mem (headerWord source 3)
    sqSlotSize := mem (headerWord source 4)
    cqOffset := mem (headerWord source 5)
    sqConsumed := mem (headerWord source 6)
    cqConsumed := mem (headerWord source 7)
    flags := mem (headerWord source 8)
    sqProduced := mem (headerWord source 9)
    cqProduced := mem (headerWord source 10) }

def xgqInitRing (produced consumed slots : UInt64) (slotNum slotSize : UInt32) : PlacedRing :=
  { producedAddr := produced
    consumedAddr := consumed
    slotAddr := slots
    slotSz := slotSize
    slotNum := slotNum
    produced := 0
    consumed := 0 }

def xgqSoftReset (mem : Words) (ring : PlacedRing) : PlacedRing × Words :=
  let produced := mem ring.producedAddr
  ({ ring with produced, consumed := produced },
    Function.update mem ring.consumedAddr produced)

def xgqFastForward (mem : Words) (ring : PlacedRing) : PlacedRing :=
  { ring with produced := mem ring.producedAddr, consumed := mem ring.consumedAddr }

def xgqRingLen (nslots slotsz : UInt32) : UInt32 :=
  UInt32.ofNat headerSize + nslots * (slotsz + comQueueEntrySize)

section Init

variable (flags ringAddr sqProduced cqProduced : UInt64)

def xgqInit (nSlots slotSize : UInt32) (mem : Words) : StructXgq × Words :=
  let xqFlags := flags.toUInt32
  let inMem := xgqIsInMemProd xqFlags
  let sqprod := if inMem then headerWord ringAddr 9 else sqProduced
  let cqprod := if inMem then headerWord ringAddr 10 else cqProduced
  let mem := if inMem then mem else Function.update mem (cqprod + xgqIntrEnableOffset) 1
  let slots := ringAddr + UInt64.ofNat headerSize
  let sq := xgqInitRing sqprod (headerWord ringAddr 6) slots nSlots slotSize
  let cq := xgqInitRing cqprod (headerWord ringAddr 7) (slots + (nSlots * slotSize).toUInt64)
    nSlots comQueueEntrySize
  let hdr : XgqHeader :=
    { magic := 0
      version := xgqVersion
      slotNum := nSlots
      sqOffset := (sq.slotAddr - ringAddr).toUInt32
      sqSlotSize := slotSize
      cqOffset := (cq.slotAddr - ringAddr).toUInt32
      sqConsumed := 0
      cqConsumed := 0
      flags := xqFlags
      sqProduced := 0
      cqProduced := 0 }
  let mem := xgqCopyToRing mem hdr.words ringAddr
  let (sq, mem) := xgqSoftReset mem sq
  let (cq, mem) := xgqSoftReset mem cq
  -- the magic number confirms that the header is complete
  let mem := xgqCopyToRing mem [xgqAllocMagic] ringAddr
  ({ flags := xqFlags, sq, cq }, mem)

def xgqAttach (mem : Words) : Except XgqError (StructXgq × Words) :=
  let hdr := xgqCopyFromRing mem ringAddr
  if hdr.magic ≠ xgqAllocMagic then .error .eAgain
  else if getXgqMajor hdr.version ≠ xgqMajor then .error .eOpNotSupp
  else if hdr.slotNum < xgqMinNumSlots ∨ hdr.slotNum &&& (hdr.slotNum - 1) ≠ 0 then .error .eProto
  else
    let xqFlags := flags.toUInt32 ||| (hdr.flags &&& xgqDoubleRead) |||
      (hdr.flags &&& xgqInMemProd)
    let inMem := xgqIsInMemProd xqFlags
    let sqprod := if inMem then headerWord ringAddr 9 else sqProduced
    let cqprod := if inMem then headerWord ringAddr 10 else cqProduced
    let mem := if inMem then mem else Function.update mem (sqprod + xgqIntrEnableOffset) 1
    let sq := xgqInitRing sqprod (headerWord ringAddr 6) (ringAddr + hdr.sqOffset.toUInt64)
      hdr.slotNum hdr.sqSlotSize
    let cq := xgqInitRing cqprod (headerWord ringAddr 7) (ringAddr + hdr.cqOffset.toUInt64)
      hdr.slotNum comQueueEntrySize
    .ok ({ flags := xqFlags, sq := xgqFastForward mem sq, cq := xgqFastForward mem cq }, mem)

end Init

/-! ## The number of slots -/

def totalLen (slotSizes : List UInt32) (numslots : UInt32) : UInt32 :=
  slotSizes.foldl (fun total slotSize => total + xgqRingLen numslots slotSize) 0

/-- The length of the queues with `numslots` slots each. -/
def trueLen (slotSizes : List UInt32) (numslots : Nat) : Nat :=
  (slotSizes.map fun slotSize => headerSize + numslots * (slotSize.toNat + 16)).sum

theorem trueLen_mono (slotSizes : List UInt32) {numslots numslots' : Nat}
    (h : numslots ≤ numslots') : trueLen slotSizes numslots ≤ trueLen slotSizes numslots' := by
  induction slotSizes with
  | nil => exact Nat.le_refl _
  | cons slotSize slotSizes ih =>
      simp only [trueLen, List.map_cons, List.sum_cons] at ih ⊢
      have hmul := Nat.mul_le_mul_right (slotSize.toNat + 16) h
      omega

theorem toNat_xgqRingLen (numslots slotSize : UInt32) :
    (xgqRingLen numslots slotSize).toNat =
      (headerSize + numslots.toNat * (slotSize.toNat + 16)) % 2 ^ 32 := by
  simp [xgqRingLen, comQueueEntrySize, headerSize, UInt32.toNat_add, UInt32.toNat_mul, Nat.add_mod,
    Nat.mul_mod]

theorem toNat_totalLen (slotSizes : List UInt32) (numslots : UInt32) :
    (totalLen slotSizes numslots).toNat = trueLen slotSizes numslots.toNat % 2 ^ 32 := by
  have hfold (total : UInt32) :
      (slotSizes.foldl (fun total slotSize => total + xgqRingLen numslots slotSize) total).toNat =
        (total.toNat + trueLen slotSizes numslots.toNat) % 2 ^ 32 := by
    induction slotSizes generalizing total with
    | nil => simp [trueLen, Nat.mod_eq_of_lt total.toNat_lt]
    | cons slotSize slotSizes ih =>
        rw [List.foldl_cons, ih, UInt32.toNat_add, toNat_xgqRingLen]
        simp only [trueLen, List.map_cons, List.sum_cons]
        omega
  rw [totalLen, hfold]
  simp

/-- `while ((total_len <= rlen) && (numslots < (0x1U << (numbits - 1))))`; 31 rounds at most. -/
def numSlotsFrom (rlen : UInt32) (slotSizes : List UInt32) : Nat → UInt32 → UInt32 → UInt32
  | 0, numslots, _ => numslots >>> 1
  | rounds + 1, numslots, total =>
      if total ≤ rlen ∧ numslots < 0x80000000 then
        let numslots := numslots <<< 1
        numSlotsFrom rlen slotSizes rounds numslots (totalLen slotSizes numslots)
      else numslots >>> 1

def xgqAllocNumSlots (rlen : UInt32) (slotSizes : List UInt32) : UInt32 :=
  numSlotsFrom rlen slotSizes 31 1 0

/-! ## Allocation -/

abbrev Queues := List (UInt64 × StructXgq)

def xgqAlloc (flags ringAddr : UInt64) (ringLen slotSize : UInt32)
    (sqProduced cqProduced : UInt64) (mem : Words) : Except XgqError (StructXgq × UInt32 × Words) :=
  if slotSize % 4 ≠ 0 then .error .eInval
  else
    let numslots := xgqAllocNumSlots ringLen [slotSize]
    if numslots < xgqMinNumSlots then .error .e2Big
    else
      let (xgq, mem) := xgqInit flags ringAddr sqProduced cqProduced numslots slotSize mem
      .ok (xgq, xgqRingLen numslots slotSize, mem)

def xgqInitAll (flags : UInt64) (numslots : UInt32) :
    List UInt32 → UInt64 → Words → Queues × UInt64 × Words
  | [], raddr, mem => ([], raddr, mem)
  | slotSize :: slotSizes, raddr, mem =>
      let (xgq, mem) := xgqInit flags raddr 0 0 numslots slotSize mem
      let (queues, raddr', mem) := xgqInitAll flags numslots slotSizes
        (raddr + (xgqRingLen numslots slotSize).toUInt64) mem
      ((raddr, xgq) :: queues, raddr', mem)

def xgqGroupAlloc (flags ringAddr : UInt64) (ringLen : UInt32) (slotSizes : List UInt32)
    (maxSlots : UInt32) (mem : Words) : Except XgqError (Queues × UInt32 × Words) :=
  let flags := flags ||| xgqInMemProd.toUInt64
  if slotSizes.any fun slotSize => slotSize % 4 != 0 then .error .eInval
  else
    let numslots := xgqAllocNumSlots ringLen slotSizes
    if numslots < xgqMinNumSlots then .error .e2Big
    else
      let numslots := if maxSlots ≠ 0 ∧ maxSlots < numslots then maxSlots else numslots
      let (queues, raddr, mem) := xgqInitAll flags numslots slotSizes ringAddr mem
      .ok (queues, (raddr - ringAddr).toUInt32, mem)

end Vmr.Xgq
