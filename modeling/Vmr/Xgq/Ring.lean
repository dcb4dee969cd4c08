import Vmr.Lib.Counter
import Vmr.Lib.Memory
import Mathlib.Logic.Function.Basic

/-!
# One ring of an XGQ

`XgqRing` is `struct xgq_ring` of `xgq_impl.h`.  Each side of a ring keeps its
own copy: it advances one counter itself and caches the peer's.  The functions
take the word they may read from shared memory as an argument, and do what the
source does with it.

`RingLayout` is what both sides agree on: how many slots there are, how large
they are and where they lie.
-/

namespace Vmr.Xgq

open Vmr.Lib

structure XgqRing where
  slotNum : UInt32
  slotSz : UInt32
  produced : UInt32
  consumed : UInt32
  slotAddr : UInt64
  deriving DecidableEq, Repr

def xgqRingFull (ring : XgqRing) : Bool :=
  ring.slotNum ≤ ring.produced - ring.consumed

def xgqRingEmpty (ring : XgqRing) : Bool :=
  ring.produced == ring.consumed

def xgqRingReadProduced (word : UInt32) (ring : XgqRing) : XgqRing :=
  { ring with produced := word }

def xgqRingReadConsumed (word : UInt32) (ring : XgqRing) : XgqRing :=
  { ring with consumed := word }

/-- The multiplication is one of two 32-bit integers, as in the source. -/
def xgqRingSlotPtr (ring : XgqRing) (counter : UInt32) : UInt64 :=
  ring.slotAddr + (ring.slotSz * (counter &&& (ring.slotNum - 1))).toUInt64

def xgqRingSlotPtrProduced (ring : XgqRing) : UInt64 :=
  xgqRingSlotPtr ring ring.produced

def xgqRingSlotPtrConsumed (ring : XgqRing) : UInt64 :=
  xgqRingSlotPtr ring ring.consumed

/-- The peer's counter is read again only when the cached one says full. -/
def xgqCanProduce (consumedWord : UInt32) (ring : XgqRing) : Bool × XgqRing :=
  if !xgqRingFull ring then
    (true, ring)
  else
    let ring := xgqRingReadConsumed consumedWord ring
    (!xgqRingFull ring, ring)

def xgqCanConsume (producedWord : UInt32) (ring : XgqRing) : Bool × XgqRing :=
  if !xgqRingEmpty ring then
    (true, ring)
  else
    let ring := xgqRingReadProduced producedWord ring
    (!xgqRingEmpty ring, ring)

/-- `none` is `-ENOSPC`; no slot address is written then. -/
def xgqProduce (consumedWord : UInt32) (ring : XgqRing) :
    Option UInt64 × XgqRing :=
  match xgqCanProduce consumedWord ring with
  | (false, ring) => (none, ring)
  | (true, ring) =>
      (some (xgqRingSlotPtrProduced ring),
        { ring with produced := ring.produced + 1 })

def xgqConsume (producedWord : UInt32) (ring : XgqRing) :
    Option UInt64 × XgqRing :=
  match xgqCanConsume producedWord ring with
  | (false, ring) => (none, ring)
  | (true, ring) =>
      (some (xgqRingSlotPtrConsumed ring),
        { ring with consumed := ring.consumed + 1 })

/-! ## Layout -/

/--
Where the slots of a ring lie.  The number of slots is a power of two, and the
slots end inside the 64-bit address space.
-/
structure RingLayout where
  slotNum : UInt32
  slotSz : UInt32
  slotAddr : UInt64
  bits : Nat
  slotNum_eq : slotNum.toNat = 2 ^ bits
  slotSz_pos : 0 < slotSz.toNat
  inside : slotAddr.toNat + slotSz.toNat * 2 ^ bits ≤ 2 ^ 64

namespace RingLayout

variable (layout : RingLayout)

def size : Nat := layout.slotSz.toNat * 2 ^ layout.bits

/-- The slots span at most `2 ^ 32` bytes, so a slot offset fits 32 bits. -/
def Fits : Prop := layout.size ≤ 2 ^ 32

instance : Decidable layout.Fits := inferInstanceAs (Decidable (_ ≤ _))

def ring (produced consumed : UInt32) : XgqRing :=
  { slotNum := layout.slotNum, slotSz := layout.slotSz, produced, consumed,
    slotAddr := layout.slotAddr }

def slotPtr (base : UInt32) (index : Nat) : UInt64 :=
  xgqRingSlotPtr (layout.ring 0 0) (wrapped base index)

theorem pow_bits_le : 2 ^ layout.bits ≤ 2 ^ 31 := by
  have hlt := layout.slotNum.toNat_lt
  rw [layout.slotNum_eq] at hlt
  have hbits := (Nat.pow_lt_pow_iff_right (by omega : 1 < 2)).1 hlt
  exact Nat.pow_le_pow_right (by omega) (by omega)

variable {layout}

private theorem toNat_slotPtr (hfits : layout.Fits) (base : UInt32) (index : Nat) :
    (layout.slotPtr base index).toNat =
      layout.slotAddr.toNat +
        layout.slotSz.toNat * slotIndex base layout.bits index := by
  have hindex := slotIndex_lt base layout.bits index
  have hmul : layout.slotSz.toNat * (slotIndex base layout.bits index + 1) ≤
      layout.slotSz.toNat * 2 ^ layout.bits :=
    Nat.mul_le_mul_left _ hindex
  have hsize : layout.slotSz.toNat * 2 ^ layout.bits ≤ 2 ^ 32 := hfits
  have hpos := layout.slotSz_pos
  have hinside := layout.inside
  rw [Nat.mul_add, Nat.mul_one] at hmul
  have hmask := toNat_wrapped_and_mask base layout.slotNum layout.slotNum_eq index
  simp only [slotPtr, xgqRingSlotPtr, ring, UInt64.toNat_add, UInt32.toNat_toUInt64,
    UInt32.toNat_mul, hmask]
  rw [Nat.mod_eq_of_lt (b := 2 ^ 32) (by omega), Nat.mod_eq_of_lt (by omega)]

theorem slotPtr_inside (hfits : layout.Fits) (base : UInt32) (index : Nat) :
    layout.slotAddr.toNat ≤ (layout.slotPtr base index).toNat ∧
      (layout.slotPtr base index).toNat + layout.slotSz.toNat ≤
        layout.slotAddr.toNat + layout.size := by
  have hindex := slotIndex_lt base layout.bits index
  have hmul : layout.slotSz.toNat * (slotIndex base layout.bits index + 1) ≤
      layout.slotSz.toNat * 2 ^ layout.bits :=
    Nat.mul_le_mul_left _ hindex
  rw [toNat_slotPtr hfits, size]
  rw [Nat.mul_add, Nat.mul_one] at hmul
  omega

theorem slotPtr_apart (hfits : layout.Fits) (base : UInt32) {i j : Nat}
    (hlt : i < j) (hwindow : j - i < 2 ^ layout.bits) :
    Apart (layout.slotPtr base i).toNat layout.slotSz.toNat
      (layout.slotPtr base j).toNat layout.slotSz.toNat := by
  have hne := slotIndex_ne base hlt hwindow
  rw [toNat_slotPtr hfits, toNat_slotPtr hfits]
  have between : ∀ a b : Nat, a < b →
      layout.slotSz.toNat * a + layout.slotSz.toNat ≤ layout.slotSz.toNat * b := by
    intro a b hab
    have hmul := Nat.mul_le_mul_left layout.slotSz.toNat (Nat.succ_le_of_lt hab)
    rwa [Nat.succ_eq_add_one, Nat.mul_add, Nat.mul_one] at hmul
  rcases Nat.lt_or_gt_of_ne hne with h | h
  · have hle := between _ _ h
    exact .inl (by omega)
  · have hle := between _ _ h
    exact .inr (by omega)

end RingLayout
end Vmr.Xgq
