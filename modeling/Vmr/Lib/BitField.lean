import Mathlib.Data.Nat.Bitwise
import Mathlib.Tactic.Common

/-!
# Bit fields

Some consecutive bits of a word, read as a number and written without the others
being touched.
-/

namespace Vmr.Lib

structure BitField where
  start : Nat
  width : Nat
  deriving DecidableEq, Repr

namespace BitField

variable {n : Nat} (field field' : BitField)

def Covers (k : Nat) : Prop := field.start ≤ k ∧ k < field.start + field.width

instance (k : Nat) : Decidable (field.Covers k) := inferInstanceAs (Decidable (_ ∧ _))

def mask (n : Nat) : BitVec n := BitVec.ofNat n ((2 ^ field.width - 1) <<< field.start)

def get (word : BitVec n) : Nat := word.toNat / 2 ^ field.start % 2 ^ field.width

/-- What does not fit is lost. -/
def set (word value : BitVec n) : BitVec n :=
  (word &&& ~~~ field.mask n) ||| ((value <<< field.start) &&& field.mask n)

def Apart : Prop :=
  field.start + field.width ≤ field'.start ∨ field'.start + field'.width ≤ field.start

instance : Decidable (Apart field field') := inferInstanceAs (Decidable (_ ∨ _))

theorem getLsbD_mask (k : Nat) :
    (field.mask n).getLsbD k = (decide (k < n) && decide (field.Covers k)) := by
  rw [mask, BitVec.getLsbD_ofNat, Nat.testBit_shiftLeft, Nat.testBit_two_pow_sub_one]
  congr 1
  rw [← Bool.decide_and, decide_eq_decide, Covers]
  omega

theorem getLsbD_set (word value : BitVec n) {k : Nat} (hk : k < n) :
    (field.set word value).getLsbD k =
      if field.Covers k then value.getLsbD (k - field.start) else word.getLsbD k := by
  rw [set, BitVec.getLsbD_or, BitVec.getLsbD_and, BitVec.getLsbD_and, BitVec.getLsbD_not,
    getLsbD_mask, BitVec.getLsbD_shiftLeft]
  by_cases hcovers : field.Covers k
  · simp [hk, hcovers, Nat.not_lt.2 hcovers.1]
  · simp [hk, hcovers]

theorem testBit_get (word : BitVec n) (k : Nat) :
    (field.get word).testBit k = (decide (k < field.width) && word.getLsbD (field.start + k)) := by
  rw [get, Nat.testBit_mod_two_pow, Nat.testBit_div_two_pow, BitVec.getLsbD, Nat.add_comm]

theorem get_set (word value : BitVec n) (hfits : field.start + field.width ≤ n) :
    field.get (field.set word value) = value.toNat % 2 ^ field.width := by
  apply Nat.eq_of_testBit_eq
  intro k
  rw [testBit_get, Nat.testBit_mod_two_pow]
  by_cases hk : k < field.width
  · have hcovers : field.Covers (field.start + k) := ⟨Nat.le_add_right _ _, by omega⟩
    rw [getLsbD_set _ _ _ (by omega), if_pos hcovers, Nat.add_sub_cancel_left]
    rfl
  · simp [hk]

theorem get_set_of_apart {field field' : BitField} (h : Apart field field') (word value : BitVec n)
    (hfits : field.start + field.width ≤ n) :
    field.get (field'.set word value) = field.get word := by
  apply Nat.eq_of_testBit_eq
  intro k
  rw [testBit_get, testBit_get]
  by_cases hk : k < field.width
  · have hcovers : ¬ field'.Covers (field.start + k) := by
      rintro ⟨hlow, hhigh⟩
      rcases h with h | h <;> omega
    rw [getLsbD_set _ _ _ (by omega), if_neg hcovers]
  · simp [hk]

theorem getLsbD_set_of_not_covers (word value : BitVec n) {k : Nat} (h : ¬ field.Covers k) :
    (field.set word value).getLsbD k = word.getLsbD k := by
  by_cases hk : k < n
  · rw [getLsbD_set _ _ _ hk, if_neg h]
  · rw [BitVec.getLsbD_of_ge _ _ (Nat.le_of_not_lt hk), BitVec.getLsbD_of_ge _ _ (Nat.le_of_not_lt hk)]

end BitField

end Vmr.Lib
