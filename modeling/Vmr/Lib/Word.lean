import Mathlib.Algebra.Ring.Nat
import Mathlib.Tactic.Common

/-!
# Words and their bytes

Little-endian and big-endian words put together from bytes, and the bytes of a
word by position.
-/

namespace Vmr.Lib

def le16 (b0 b1 : UInt8) : UInt16 :=
  UInt16.ofNat (b0.toNat + 2 ^ 8 * b1.toNat)

def le32 (b0 b1 b2 b3 : UInt8) : UInt32 :=
  UInt32.ofNat (b0.toNat + 2 ^ 8 * b1.toNat + 2 ^ 16 * b2.toNat + 2 ^ 24 * b3.toNat)

def be32 (b0 b1 b2 b3 : UInt8) : UInt32 := le32 b3 b2 b1 b0

def byteAt (value index : Nat) : UInt8 := UInt8.ofNat (value / 2 ^ (8 * index))

theorem toNat_le16 (b0 b1 : UInt8) :
    (le16 b0 b1).toNat = b0.toNat + 2 ^ 8 * b1.toNat := by
  have h0 := b0.toNat_lt
  have h1 := b1.toNat_lt
  simp only [le16, UInt16.toNat_ofNat']
  omega

theorem toNat_le32 (b0 b1 b2 b3 : UInt8) :
    (le32 b0 b1 b2 b3).toNat =
      b0.toNat + 2 ^ 8 * b1.toNat + 2 ^ 16 * b2.toNat + 2 ^ 24 * b3.toNat := by
  have h0 := b0.toNat_lt
  have h1 := b1.toNat_lt
  have h2 := b2.toNat_lt
  have h3 := b3.toNat_lt
  simp only [le32, UInt32.toNat_ofNat']
  omega

theorem toNat_min (a b : UInt32) : (min a b).toNat = min a.toNat b.toNat := by
  rw [show min a b = if a ≤ b then a else b from rfl]
  split
  · rename_i hle
    exact (Nat.min_eq_left (UInt32.le_iff_toNat_le.1 hle)).symm
  · rename_i hlt
    exact (Nat.min_eq_right (Nat.le_of_lt (UInt32.lt_iff_toNat_lt.1 (UInt32.not_le.1 hlt)))).symm

theorem toNat_byteAt (value index : Nat) :
    (byteAt value index).toNat = value / 2 ^ (8 * index) % 2 ^ 8 := by
  simp [byteAt]

@[simp] theorem le16_byteAt (word : UInt16) :
    le16 (byteAt word.toNat 0) (byteAt word.toNat 1) = word := by
  have hlt := word.toNat_lt
  apply UInt16.toNat_inj.1
  simp only [toNat_le16, toNat_byteAt]
  omega

@[simp] theorem le32_byteAt (word : UInt32) :
    le32 (byteAt word.toNat 0) (byteAt word.toNat 1) (byteAt word.toNat 2)
      (byteAt word.toNat 3) = word := by
  have hlt := word.toNat_lt
  apply UInt32.toNat_inj.1
  simp only [toNat_le32, toNat_byteAt]
  omega

@[simp] theorem byteAt_le16_zero (b0 b1 : UInt8) : byteAt (le16 b0 b1).toNat 0 = b0 := by
  have h0 := b0.toNat_lt
  apply UInt8.toNat_inj.1
  simp only [toNat_le16, toNat_byteAt]
  omega

@[simp] theorem byteAt_le16_one (b0 b1 : UInt8) : byteAt (le16 b0 b1).toNat 1 = b1 := by
  have h0 := b0.toNat_lt
  have h1 := b1.toNat_lt
  apply UInt8.toNat_inj.1
  simp only [toNat_le16, toNat_byteAt]
  omega

/-! ## Fields of a number -/

theorem and_field (value start width : Nat) :
    value &&& (2 ^ width - 1) * 2 ^ start = value / 2 ^ start % 2 ^ width * 2 ^ start := by
  apply Nat.eq_of_testBit_eq
  intro i
  simp only [Nat.testBit_and, Nat.testBit_mul_two_pow, Nat.testBit_two_pow_sub_one,
    Nat.testBit_mod_two_pow, Nat.testBit_div_two_pow]
  by_cases hi : start ≤ i
  · simp [hi, Bool.and_comm]
  · simp [hi]

theorem or_field {low start : Nat} (high : Nat) (h : low < 2 ^ start) :
    low ||| high * 2 ^ start = low + high * 2 ^ start := by
  rw [Nat.or_comm, ← Nat.shiftLeft_eq, ← Nat.shiftLeft_add_eq_or_of_lt h, Nat.add_comm]

/-! ## Numbers of any length -/

def littleEndian : List UInt8 → Nat
  | [] => 0
  | byte :: bytes => byte.toNat + 2 ^ 8 * littleEndian bytes

theorem littleEndian_lt (bytes : List UInt8) : littleEndian bytes < 2 ^ (8 * bytes.length) := by
  induction bytes with
  | nil => simp [littleEndian]
  | cons byte bytes ih =>
      have hbyte := byte.toNat_lt
      rw [littleEndian, List.length_cons, Nat.mul_succ, Nat.pow_add]
      omega

theorem byteAt_succ (value index : Nat) :
    byteAt value (index + 1) = byteAt (value / 2 ^ 8) index := by
  rw [byteAt, byteAt, Nat.div_div_eq_div_mul, ← Nat.pow_add, Nat.mul_succ, Nat.add_comm (8 * index)]

def lowBytes (size value : Nat) : List UInt8 := (List.range size).map (byteAt value)

@[simp] theorem length_lowBytes (size value : Nat) : (lowBytes size value).length = size := by
  simp [lowBytes]

theorem littleEndian_lowBytes (size value : Nat) :
    littleEndian (lowBytes size value) = value % 2 ^ (8 * size) := by
  induction size generalizing value with
  | zero => simp [lowBytes, littleEndian, Nat.mod_one]
  | succ size ih =>
      have htail : (List.range size).map (byteAt value ∘ Nat.succ) =
          lowBytes size (value / 2 ^ 8) :=
        List.map_congr_left fun index _ => byteAt_succ value index
      rw [lowBytes, List.range_succ_eq_map, List.map_cons, List.map_map, htail, littleEndian, ih,
        toNat_byteAt, Nat.mul_succ, Nat.add_comm (8 * size), Nat.pow_add, Nat.mod_mul]
      simp

theorem littleEndian_append (low high : List UInt8) :
    littleEndian (low ++ high) = littleEndian low + 2 ^ (8 * low.length) * littleEndian high := by
  induction low with
  | nil => simp [littleEndian]
  | cons byte low ih =>
      rw [List.cons_append, littleEndian, littleEndian, ih, List.length_cons, Nat.mul_succ,
        Nat.add_comm (8 * low.length), Nat.pow_add, Nat.mul_add, Nat.mul_assoc, Nat.add_assoc]

theorem littleEndian_split {bytes : List UInt8} {size : Nat} (hsize : size ≤ bytes.length)
    (h : littleEndian bytes < 2 ^ (8 * size)) :
    littleEndian (bytes.take size) = littleEndian bytes ∧ littleEndian (bytes.drop size) = 0 := by
  have hsplit := littleEndian_append (bytes.take size) (bytes.drop size)
  rw [List.take_append_drop, List.length_take_of_le hsize] at hsplit
  have hhigh : littleEndian (bytes.drop size) = 0 := by
    by_contra hsome
    have hle := Nat.le_mul_of_pos_right (2 ^ (8 * size)) (Nat.pos_of_ne_zero hsome)
    omega
  rw [hhigh, Nat.mul_zero, Nat.add_zero] at hsplit
  exact ⟨hsplit.symm, hhigh⟩

theorem lowBytes_littleEndian (bytes : List UInt8) :
    lowBytes bytes.length (littleEndian bytes) = bytes := by
  induction bytes with
  | nil => rfl
  | cons byte bytes ih =>
      have hbyte := byte.toNat_lt
      have htail : (List.range bytes.length).map
          (byteAt (byte.toNat + 2 ^ 8 * littleEndian bytes) ∘ Nat.succ) = bytes := by
        refine Eq.trans (List.map_congr_left fun index _ => ?_) ih
        rw [Function.comp_apply, Nat.succ_eq_add_one, byteAt_succ]
        congr 1
        omega
      rw [List.length_cons, lowBytes, littleEndian, List.range_succ_eq_map, List.map_cons,
        List.map_map, htail, byteAt]
      congr 1
      rw [Nat.mul_zero, Nat.pow_zero, Nat.div_one, ← UInt8.toNat_inj, UInt8.toNat_ofNat']
      omega

end Vmr.Lib
