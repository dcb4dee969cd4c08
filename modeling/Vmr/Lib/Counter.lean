import Mathlib.Algebra.Ring.Nat
import Mathlib.Tactic.Common

/-!
# Wrapping counters

A free-running 32-bit counter is read as `wrapped base k`: it started at `base`
and has been advanced `k` times.  Differences and equality of two such words
are those of the true counts as long as the counts are less than `2 ^ 32`
apart, and masking with a power of two minus one selects the slot.
-/

namespace Vmr.Lib

def wrapped (base : UInt32) (count : Nat) : UInt32 :=
  base + UInt32.ofNat count

@[simp] theorem wrapped_zero (base : UInt32) : wrapped base 0 = base := by
  simp [wrapped]

private theorem toNat_wrapped (base : UInt32) (count : Nat) :
    (wrapped base count).toNat = (base.toNat + count) % 2 ^ 32 := by
  simp [wrapped]

theorem wrapped_succ (base : UInt32) (count : Nat) :
    wrapped base count + 1 = wrapped base (count + 1) := by
  apply UInt32.toNat_inj.1
  rw [UInt32.toNat_add, toNat_wrapped, toNat_wrapped]
  simp only [UInt32.toNat_one]
  omega

theorem toNat_wrapped_sub (base : UInt32) {behind ahead : Nat}
    (hle : behind ≤ ahead) (hlt : ahead - behind < 2 ^ 32) :
    (wrapped base ahead - wrapped base behind).toNat = ahead - behind := by
  rw [UInt32.toNat_sub, toNat_wrapped, toNat_wrapped]
  omega

theorem wrapped_eq_iff (base : UInt32) {behind ahead : Nat}
    (hle : behind ≤ ahead) (hlt : ahead - behind < 2 ^ 32) :
    wrapped base ahead = wrapped base behind ↔ ahead = behind := by
  constructor
  · intro h
    have hsub := toNat_wrapped_sub base hle hlt
    rw [h, UInt32.sub_self, UInt32.toNat_zero] at hsub
    omega
  · rintro rfl
    rfl

/-! ## Slots -/

private theorem toNat_and_mask (word size : UInt32) {bits : Nat}
    (hsize : size.toNat = 2 ^ bits) :
    (word &&& (size - 1)).toNat = word.toNat % 2 ^ bits := by
  have hpos := Nat.two_pow_pos bits
  have hlt := size.toNat_lt
  have hmask : (size - 1).toNat = 2 ^ bits - 1 := by
    rw [UInt32.toNat_sub, UInt32.toNat_one]
    omega
  rw [UInt32.toNat_and, hmask, Nat.and_two_pow_sub_one_eq_mod]

def slotIndex (base : UInt32) (bits count : Nat) : Nat :=
  (base.toNat + count) % 2 ^ bits

theorem slotIndex_lt (base : UInt32) (bits count : Nat) :
    slotIndex base bits count < 2 ^ bits :=
  Nat.mod_lt _ (Nat.two_pow_pos bits)

theorem toNat_wrapped_and_mask (base size : UInt32) {bits : Nat}
    (hsize : size.toNat = 2 ^ bits) (count : Nat) :
    (wrapped base count &&& (size - 1)).toNat = slotIndex base bits count := by
  have hbits : bits ≤ 32 := by
    by_contra hgt
    have hpow := Nat.pow_lt_pow_right (a := 2) (by omega) (Nat.lt_of_not_le hgt)
    have hlt := size.toNat_lt
    omega
  rw [toNat_and_mask _ _ hsize, toNat_wrapped, slotIndex,
    Nat.mod_mod_of_dvd _ (Nat.pow_dvd_pow 2 hbits)]

theorem slotIndex_ne (base : UInt32) {bits behind ahead : Nat}
    (hlt : behind < ahead) (hwindow : ahead - behind < 2 ^ bits) :
    slotIndex base bits behind ≠ slotIndex base bits ahead := by
  intro heq
  have hdvd : 2 ^ bits ∣ (base.toNat + ahead) - (base.toNat + behind) :=
    Nat.dvd_of_mod_eq_zero (Nat.sub_mod_eq_zero_of_mod_eq heq.symm)
  have hle := Nat.le_of_dvd (by omega) hdvd
  omega

end Vmr.Lib
