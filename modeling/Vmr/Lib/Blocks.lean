import Mathlib.Algebra.BigOperators.Group.List.Basic
import Mathlib.Algebra.Ring.Nat
import Mathlib.Tactic.Common

/-!
# Blocks laid end to end

Blocks of the given sizes follow each other without a gap.  Every number below the
sum of the sizes is the place of one entry of one block.
-/

namespace Vmr.Lib.Blocks

def start (sizes : List Nat) (k : Nat) : Nat := (sizes.take k).sum

variable {sizes : List Nat} {size k k' i i' : Nat}

@[simp] theorem start_zero (sizes : List Nat) : start sizes 0 = 0 := rfl

@[simp] theorem start_cons_succ (size : Nat) (sizes : List Nat) (k : Nat) :
    start (size :: sizes) (k + 1) = size + start sizes k := by
  simp [start]

theorem start_add_lt (h : i < sizes.getD k 0) : start sizes k + i < sizes.sum := by
  induction sizes generalizing k with
  | nil => simp at h
  | cons size sizes ih =>
      rw [List.sum_cons]
      cases k with
      | zero =>
          have hi : i < size := h
          rw [start_zero]
          omega
      | succ k =>
          have hrest := ih (k := k) h
          rw [start_cons_succ]
          omega

theorem start_add_inj (h : i < sizes.getD k 0) (h' : i' < sizes.getD k' 0)
    (heq : start sizes k + i = start sizes k' + i') : k = k' ∧ i = i' := by
  induction sizes generalizing k k' with
  | nil => simp at h
  | cons size sizes ih =>
      cases k with
      | zero =>
          have hi : i < size := h
          cases k' with
          | zero => simpa using heq
          | succ k' =>
              rw [start_zero, start_cons_succ] at heq
              omega
      | succ k =>
          cases k' with
          | zero =>
              have hi : i' < size := h'
              rw [start_zero, start_cons_succ] at heq
              omega
          | succ k' =>
              rw [start_cons_succ, start_cons_succ, Nat.add_assoc, Nat.add_assoc] at heq
              obtain ⟨rfl, rfl⟩ := @ih k k' h h' (Nat.add_left_cancel heq)
              exact ⟨rfl, rfl⟩

theorem exists_place {place : Nat} (h : place < sizes.sum) :
    ∃ k i, i < sizes.getD k 0 ∧ start sizes k + i = place := by
  induction sizes generalizing place with
  | nil => simp at h
  | cons size sizes ih =>
      by_cases hfirst : place < size
      · exact ⟨0, place, hfirst, by simp⟩
      · rw [List.sum_cons] at h
        obtain ⟨k, i, hi, hplace⟩ := @ih (place - size) (by omega)
        refine ⟨k + 1, i, hi, ?_⟩
        rw [start_cons_succ]
        omega

end Vmr.Lib.Blocks
