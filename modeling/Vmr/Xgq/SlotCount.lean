import Mathlib.Order.Monotone.Basic
import Vmr.Xgq.Alloc

/-!
# The number of slots

`xgq_alloc_num_slots` doubles the number of slots until the rings no longer fit.
The total of the lengths is kept in 32 bits whatever a `size_t` is, and so is the
exact sum modulo 2^32.
-/

namespace Vmr.Xgq

open Vmr.Lib

inductive SizeT
  | bits32 | bits64
  deriving DecidableEq, Repr

def SizeT.bits : SizeT → Nat
  | .bits32 => 32
  | .bits64 => 64

private theorem SizeT.le_bits (sizeT : SizeT) : 32 ≤ sizeT.bits := by
  cases sizeT <;> decide

section Width

variable (sizeT : SizeT)

def toSize (word : UInt32) : BitVec sizeT.bits := word.toBitVec.setWidth _

def ofSize (size : BitVec sizeT.bits) : UInt32 := UInt32.ofBitVec (size.setWidth 32)

def ringLen (nslots slotsz : BitVec sizeT.bits) : BitVec sizeT.bits :=
  BitVec.ofNat _ headerSize + nslots * (slotsz + toSize sizeT comQueueEntrySize)

def totalLenOf (slotSizes : List UInt32) (numslots : UInt32) : UInt32 :=
  slotSizes.foldl (fun total slotSize => ofSize sizeT (toSize sizeT total +
    ringLen sizeT (toSize sizeT numslots) (toSize sizeT slotSize))) 0

def allocLoop (rlen : BitVec sizeT.bits) (slotSizes : List UInt32) :
    Nat → UInt32 → UInt32 → Option UInt32
  | 0, _, _ => none
  | rounds + 1, numslots, total =>
      if toSize sizeT total ≤ rlen ∧ numslots < 0x80000000 then
        let numslots := numslots <<< 1
        allocLoop rlen slotSizes rounds numslots (totalLenOf sizeT slotSizes numslots)
      else some (numslots >>> 1)

/-- `xgq_alloc_num_slots`, with 32 rounds to terminate in. -/
def allocNumSlots (rlen : BitVec sizeT.bits) (slotSizes : List UInt32) : Option UInt32 :=
  allocLoop sizeT rlen slotSizes 32 1 0

end Width

/-! ## The total -/

section Total

variable {sizeT : SizeT}

private theorem toNat_toSize (word : UInt32) : (toSize sizeT word).toNat = word.toNat := by
  have hword := Nat.lt_of_lt_of_le word.toNat_lt (Nat.pow_le_pow_right (by decide) sizeT.le_bits)
  rw [toSize, BitVec.toNat_setWidth, UInt32.toNat_toBitVec, Nat.mod_eq_of_lt hword]

private theorem ofSize_add_ringLen (total numslots slotSize : UInt32) :
    ofSize sizeT (toSize sizeT total +
        ringLen sizeT (toSize sizeT numslots) (toSize sizeT slotSize)) =
      total + xgqRingLen numslots slotSize := by
  have hbits := sizeT.le_bits
  rw [← UInt32.toBitVec_inj]
  simp only [ofSize, toSize, ringLen, xgqRingLen, BitVec.setWidth_add _ _ hbits,
    BitVec.setWidth_mul _ _ hbits, BitVec.setWidth_setWidth_of_le _ hbits, BitVec.setWidth_eq,
    BitVec.setWidth_ofNat_of_le hbits, UInt32.toBitVec_add, UInt32.toBitVec_mul]
  rfl

private theorem totalLenOf_eq (slotSizes : List UInt32) (numslots : UInt32) :
    totalLenOf sizeT slotSizes numslots = totalLen slotSizes numslots := by
  simp only [totalLenOf, ofSize_add_ringLen]
  rfl

private theorem toNat_totalLenOf (slotSizes : List UInt32) (numslots : UInt32) :
    (totalLenOf sizeT slotSizes numslots).toNat = trueLen slotSizes numslots.toNat % 2 ^ 32 := by
  rw [totalLenOf_eq, toNat_totalLen]

end Total

/-! ## The loop -/

def totalAt (slotSizes : List UInt32) (k : Nat) : Nat :=
  if k = 0 then 0 else trueLen slotSizes (2 ^ k) % 2 ^ 32

section Loop

variable {sizeT : SizeT} {rlen : BitVec sizeT.bits} {slotSizes : List UInt32}

private theorem toNat_shiftLeft_one {numslots : UInt32} {k : Nat} (hk : k < 31)
    (h : numslots.toNat = 2 ^ k) : (numslots <<< 1).toNat = 2 ^ (k + 1) := by
  have hpow : 2 ^ (k + 1) < 2 ^ 32 := Nat.pow_lt_pow_right (by decide) (by omega)
  rw [UInt32.toNat_shiftLeft, h, Nat.shiftLeft_eq, show UInt32.toNat 1 % 32 = 1 from rfl,
    ← Nat.pow_add, Nat.mod_eq_of_lt hpow]

private theorem allocLoop_spec {rounds k : Nat} (hk : k ≤ 31) (hrounds : 31 < k + rounds)
    {numslots total : UInt32} (hnumslots : numslots.toNat = 2 ^ k)
    (htotal : total.toNat = totalAt slotSizes k) :
    ∃ last, k ≤ last ∧ last ≤ 31 ∧
      (∀ i, k ≤ i → i < last → totalAt slotSizes i ≤ rlen.toNat) ∧
      (last = 31 ∨ rlen.toNat < totalAt slotSizes last) ∧
      ∃ found, allocLoop sizeT rlen slotSizes rounds numslots total = some found ∧
        found.toNat = 2 ^ last / 2 := by
  induction rounds generalizing k numslots total with
  | zero => omega
  | succ rounds ih =>
      have hbound : numslots < 0x80000000 ↔ k < 31 := by
        rw [UInt32.lt_iff_toNat_lt, hnumslots, show UInt32.toNat 0x80000000 = 2 ^ 31 from rfl,
          Nat.pow_lt_pow_iff_right (by decide)]
      have hfits : toSize sizeT total ≤ rlen ↔ totalAt slotSizes k ≤ rlen.toNat := by
        rw [BitVec.le_def, toNat_toSize, htotal]
      rw [allocLoop]
      by_cases hmore : totalAt slotSizes k ≤ rlen.toNat ∧ k < 31
      · rw [if_pos ⟨hfits.2 hmore.1, hbound.2 hmore.2⟩]
        have hnext := toNat_shiftLeft_one hmore.2 hnumslots
        obtain ⟨last, hlow, hhigh, hbefore, hend, hfound⟩ :=
          @ih (k + 1) (by omega) (by omega) (numslots <<< 1)
            (totalLenOf sizeT slotSizes (numslots <<< 1)) hnext (by
              rw [toNat_totalLenOf, hnext, totalAt, if_neg (Nat.succ_ne_zero k)])
        refine ⟨last, by omega, hhigh, fun i hi hlt => ?_, hend, hfound⟩
        rcases Nat.lt_or_eq_of_le hi with hafter | rfl
        · exact hbefore i hafter hlt
        · exact hmore.1
      · have hstop : ¬ (toSize sizeT total ≤ rlen ∧ numslots < 0x80000000) := by
          rwa [hfits, hbound]
        rw [if_neg hstop]
        refine ⟨k, Nat.le_refl k, hk, fun i hi hlt => absurd hlt (Nat.not_lt.2 hi), by omega, _, rfl, ?_⟩
        rw [UInt32.toNat_shiftRight, hnumslots]
        exact Nat.shiftRight_eq_div_pow _ 1

end Loop

/-! ## The largest number of slots -/

/-- The largest power of two up to `2 ^ 30` for which the rings fit, or less than 2 if there is none. -/
def IsMaximal (rlen : Nat) (slotSizes : List UInt32) (numslots : Nat) : Prop :=
  (∃ k ≤ 30, numslots = 2 ^ k ∧ trueLen slotSizes (2 ^ k) ≤ rlen ∧
    ∀ other ≤ 30, trueLen slotSizes (2 ^ other) ≤ rlen → other ≤ k) ∨
  (∀ k ≤ 30, rlen < trueLen slotSizes (2 ^ k)) ∧ numslots < 2

def CountsSlots (sizeT : SizeT) (rlen : BitVec sizeT.bits) (slotSizes : List UInt32) : Prop :=
  ∃ numslots, allocNumSlots sizeT rlen slotSizes = some numslots ∧
    IsMaximal rlen.toNat slotSizes numslots.toNat

/-- The first number of slots for which the rings do not fit is seen to be too large. -/
def FirstExcessSeen (rlen : Nat) (slotSizes : List UInt32) : Prop :=
  ∀ k, 1 ≤ k → k ≤ 30 → rlen < trueLen slotSizes (2 ^ k) →
    (∀ i, 1 ≤ i → i < k → trueLen slotSizes (2 ^ i) ≤ rlen) →
      rlen < trueLen slotSizes (2 ^ k) % 2 ^ 32

section Maximal

variable {rlen : Nat} {slotSizes : List UInt32} {last : Nat}

private theorem trueLen_pow_mono (slotSizes : List UInt32) {few many : Nat} (h : few ≤ many) :
    trueLen slotSizes (2 ^ few) ≤ trueLen slotSizes (2 ^ many) :=
  trueLen_mono slotSizes (Nat.pow_le_pow_right (by decide) h)

private theorem fits_before_last (hlast : last ≤ 31) (hseen : FirstExcessSeen rlen slotSizes)
    (hbefore : ∀ i, 1 ≤ i → i < last → trueLen slotSizes (2 ^ i) % 2 ^ 32 ≤ rlen) {i : Nat}
    (hpos : 1 ≤ i) (hi : i < last) : trueLen slotSizes (2 ^ i) ≤ rlen := by
  induction i using Nat.strong_induction_on with
  | h i ih =>
      by_contra hexcess
      have hlarge := hseen i hpos (by omega) (Nat.not_le.1 hexcess) fun j hj hlt =>
        ih j hlt hj (Nat.lt_trans hlt hi)
      exact absurd (hbefore i hpos hi) (Nat.not_le.2 hlarge)

private theorem isMaximal_iff (hpos : 1 ≤ last) (hlast : last ≤ 31)
    (hbefore : ∀ i, 1 ≤ i → i < last → trueLen slotSizes (2 ^ i) % 2 ^ 32 ≤ rlen)
    (hend : last = 31 ∨ rlen < trueLen slotSizes (2 ^ last) % 2 ^ 32) :
    IsMaximal rlen slotSizes (2 ^ (last - 1)) ↔ FirstExcessSeen rlen slotSizes := by
  have hexcess : last = 31 ∨ rlen < trueLen slotSizes (2 ^ last) :=
    hend.imp_right fun hlarge => Nat.lt_of_lt_of_le hlarge (Nat.mod_le _ _)
  constructor
  · intro hmaximal k hk hk30 hlarge hfits
    rcases Nat.lt_trichotomy last k with hlt | rfl | hgt
    · have hsmall := hfits last hpos hlt
      omega
    · exact hend.resolve_left (by omega)
    · have hmono := trueLen_pow_mono slotSizes (show k ≤ last - 1 by omega)
      rcases hmaximal with ⟨found, -, heq, hfound, -⟩ | ⟨-, htwo⟩
      · obtain rfl := Nat.pow_right_injective (Nat.le_refl 2) heq
        omega
      · have htwo' := Nat.pow_le_pow_right (show 0 < 2 by decide) (show 1 ≤ last - 1 by omega)
        omega
  · intro hseen
    have hfits := @fits_before_last rlen slotSizes last hlast hseen hbefore
    have hmaximum : ∀ other ≤ 30, trueLen slotSizes (2 ^ other) ≤ rlen → other ≤ last - 1 := by
      intro other hother hsmall
      by_contra hbehind
      have hmono := trueLen_pow_mono slotSizes (show last ≤ other by omega)
      omega
    by_cases hone : last = 1
    · subst hone
      by_cases hfirst : trueLen slotSizes (2 ^ 0) ≤ rlen
      · exact .inl ⟨0, by decide, rfl, hfirst, hmaximum⟩
      · refine .inr ⟨fun k _ => ?_, by decide⟩
        have hmono := trueLen_pow_mono slotSizes (Nat.zero_le k)
        omega
    · exact .inl ⟨last - 1, by omega, rfl, hfits (by omega) (by omega), hmaximum⟩

end Maximal

/-- The number of slots is the largest one exactly when the first total that is too large is still
too large modulo `2 ^ 32`. -/
theorem countsSlots_iff (sizeT : SizeT) (rlen : BitVec sizeT.bits) (slotSizes : List UInt32) :
    CountsSlots sizeT rlen slotSizes ↔ FirstExcessSeen rlen.toNat slotSizes := by
  obtain ⟨last, -, hlast, hbefore, hend, numslots, hfound, hvalue⟩ :=
    @allocLoop_spec sizeT rlen slotSizes 32 0 (by decide) (by decide) 1 0 rfl rfl
  have hpos : 1 ≤ last := by
    rcases Nat.eq_zero_or_pos last with rfl | hpos
    · rcases hend with hend | hend
      · cases hend
      · cases hend
    · exact hpos
  have hat {i : Nat} (hi : 1 ≤ i) :
      totalAt slotSizes i = trueLen slotSizes (2 ^ i) % 2 ^ 32 := if_neg (by omega)
  rw [← isMaximal_iff hpos hlast (fun i hi hlt => hat hi ▸ hbefore i (Nat.zero_le i) hlt)
    (hat hpos ▸ hend)]
  have hhalf : numslots.toNat = 2 ^ (last - 1) := by
    rw [hvalue, ← Nat.pow_div hpos (by decide), Nat.pow_one]
  rw [← hhalf]
  constructor
  · rintro ⟨other, hother, hmaximal⟩
    obtain rfl := Option.some.inj (hfound.symm.trans hother)
    exact hmaximal
  · exact fun hmaximal => ⟨numslots, hfound, hmaximal⟩

private theorem allocLoop_bits32 (rlen : UInt32) (slotSizes : List UInt32) {rounds k : Nat}
    (hrounds : k + rounds = 31) {numslots total : UInt32} (hnumslots : numslots.toNat = 2 ^ k) :
    allocLoop .bits32 (toSize .bits32 rlen) slotSizes (rounds + 1) numslots total =
      some (numSlotsFrom rlen slotSizes rounds numslots total) := by
  induction rounds generalizing k numslots total with
  | zero =>
      have hlarge : ¬ numslots < 0x80000000 := by
        rw [UInt32.lt_iff_toNat_lt, hnumslots, show k = 31 by omega]
        decide
      rw [allocLoop, if_neg fun hmore => hlarge hmore.2, numSlotsFrom]
  | succ rounds ih =>
      have hle : toSize .bits32 total ≤ toSize .bits32 rlen ↔ total ≤ rlen := by
        rw [BitVec.le_def, toNat_toSize, toNat_toSize, UInt32.le_iff_toNat_le]
      rw [allocLoop, numSlotsFrom]
      by_cases hmore : total ≤ rlen ∧ numslots < 0x80000000
      · rw [if_pos ⟨hle.2 hmore.1, hmore.2⟩, if_pos hmore]
        dsimp only
        rw [totalLenOf_eq]
        exact @ih (k + 1) (by omega) _ _ (toNat_shiftLeft_one (by omega) hnumslots)
      · rw [if_neg hmore, if_neg fun hmore' => hmore ⟨hle.1 hmore'.1, hmore'.2⟩]

theorem allocNumSlots_bits32 (rlen : UInt32) (slotSizes : List UInt32) :
    allocNumSlots .bits32 (toSize .bits32 rlen) slotSizes = some (xgqAllocNumSlots rlen slotSizes) :=
  @allocLoop_bits32 rlen slotSizes 31 0 rfl 1 0 rfl

private theorem not_countsSlots {sizeT : SizeT} {rlen : BitVec sizeT.bits} {slotSizes : List UInt32}
    {numslots : UInt32} (hfound : allocNumSlots sizeT rlen slotSizes = some numslots)
    (hlarge : rlen.toNat < trueLen slotSizes (2 ^ 0)) (hmany : 2 ≤ numslots.toNat) :
    ¬ CountsSlots sizeT rlen slotSizes := by
  rintro ⟨other, hother, hmaximal⟩
  obtain rfl := Option.some.inj (hfound.symm.trans hother)
  rcases hmaximal with ⟨k, -, -, hfits, -⟩ | ⟨-, hfew⟩
  · have hmono := trueLen_pow_mono slotSizes (Nat.zero_le k)
    omega
  · omega

/-- Slots of almost 2 GiB on a ring of 100 bytes: from two slots on the total is 44. -/
theorem not_countsSlots_wrapped :
    ¬ CountsSlots .bits32 (toSize .bits32 100) [0x7FFFFFF0] ∧
      ¬ CountsSlots .bits64 (toSize .bits64 100) [0x7FFFFFF0] :=
  ⟨@not_countsSlots _ _ _ 0x40000000 (by decide +kernel) (by decide +kernel) (by decide),
    @not_countsSlots _ _ _ 0x40000000 (by decide +kernel) (by decide +kernel) (by decide)⟩

end Vmr.Xgq
