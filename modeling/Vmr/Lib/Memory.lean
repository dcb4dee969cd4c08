import Mathlib.Algebra.Ring.Nat
import Mathlib.Logic.Function.Basic
import Mathlib.Tactic.Common

/-!
# Byte memory

Memory is a function from addresses to bytes.  `store` overwrites one range
and leaves everything else alone; `slice` reads a range as a list and
`putBytes` writes a list byte by byte.
-/

namespace Vmr.Lib

abbrev Memory := Nat → UInt8

namespace Memory

def store (memory : Memory) (addr len : Nat) (data : Nat → UInt8) : Memory :=
  fun a => if addr ≤ a ∧ a < addr + len then data (a - addr) else memory a

theorem store_inside (memory : Memory) {addr len offset : Nat}
    (data : Nat → UInt8) (h : offset < len) :
    memory.store addr len data (addr + offset) = data offset := by
  rw [store, if_pos (by omega), Nat.add_sub_cancel_left]

theorem store_outside (memory : Memory) {addr len a : Nat}
    (data : Nat → UInt8) (h : a < addr ∨ addr + len ≤ a) :
    memory.store addr len data a = memory a := by
  rw [store, if_neg (by omega)]

theorem store_add (memory : Memory) (addr first second : Nat) (data : Nat → UInt8) :
    (memory.store addr first data).store (addr + first) second (fun offset => data (first + offset)) =
      memory.store addr (first + second) data := by
  funext a
  unfold store
  split_ifs <;> first | rfl | omega | exact congrArg data (by omega)

@[simp] theorem store_zero (memory : Memory) (addr : Nat) (data : Nat → UInt8) :
    memory.store addr 0 data = memory := by
  funext a
  exact memory.store_outside data (by omega)

theorem update_eq_store (memory : Memory) (addr : Nat) (data : Nat → UInt8) :
    Function.update memory addr (data 0) = memory.store addr 1 data := by
  funext a
  by_cases ha : a = addr
  · rw [ha, Function.update_self, store, if_pos (by omega), Nat.sub_self]
  · rw [Function.update_of_ne ha, store_outside _ _ (by omega)]

theorem store_congr (memory : Memory) {addr len : Nat} {data data' : Nat → UInt8}
    (h : ∀ offset < len, data offset = data' offset) :
    memory.store addr len data = memory.store addr len data' := by
  funext a
  unfold store
  split
  · exact h _ (by omega)
  · rfl

def slice (memory : Memory) (start length : Nat) : List UInt8 :=
  (List.range' start length).map memory

def putBytes (memory : Memory) : Nat → List UInt8 → Memory
  | _, [] => memory
  | start, byte :: bytes => putBytes (Function.update memory start byte) (start + 1) bytes

@[simp] theorem length_slice (memory : Memory) (start length : Nat) :
    (memory.slice start length).length = length := by
  simp [slice]

@[simp] theorem slice_zero (memory : Memory) (start : Nat) :
    memory.slice start 0 = [] := rfl

theorem slice_succ (memory : Memory) (start length : Nat) :
    memory.slice start (length + 1) = memory start :: memory.slice (start + 1) length := rfl

theorem slice_add (memory : Memory) (start first second : Nat) :
    memory.slice start (first + second) =
      memory.slice start first ++ memory.slice (start + first) second := by
  rw [slice, ← List.range'_append_1, List.map_append]
  rfl

theorem slice_congr {memory memory' : Memory} {start length : Nat}
    (h : ∀ a, start ≤ a → a < start + length → memory a = memory' a) :
    memory.slice start length = memory'.slice start length := by
  apply List.map_congr_left
  intro a ha
  rw [List.mem_range'_1] at ha
  exact h a ha.1 ha.2

theorem slice_eq_slice_iff {memory memory' : Memory} {start start' length : Nat} :
    memory.slice start length = memory'.slice start' length ↔
      ∀ offset < length, memory (start + offset) = memory' (start' + offset) := by
  induction length generalizing start start' with
  | zero => simp
  | succ length ih =>
      rw [slice_succ, slice_succ, List.cons.injEq, ih]
      constructor
      · rintro ⟨hfirst, hrest⟩ (_ | offset) hoffset
        · exact hfirst
        · rw [Nat.add_comm offset, ← Nat.add_assoc, ← Nat.add_assoc]
          exact hrest offset (by omega)
      · intro hall
        refine ⟨hall 0 (by omega), fun offset hoffset => ?_⟩
        rw [Nat.add_assoc, Nat.add_assoc, Nat.add_comm 1]
        exact hall (offset + 1) (by omega)

theorem putBytes_outside (memory : Memory) {start a : Nat} (bytes : List UInt8)
    (h : a < start ∨ start + bytes.length ≤ a) :
    memory.putBytes start bytes a = memory a := by
  induction bytes generalizing memory start with
  | nil => rfl
  | cons byte bytes ih =>
      rw [List.length_cons] at h
      rw [putBytes, ih _ (by omega), Function.update_of_ne (by omega)]

theorem slice_putBytes (memory : Memory) (start : Nat) (bytes : List UInt8) :
    (memory.putBytes start bytes).slice start bytes.length = bytes := by
  induction bytes generalizing memory start with
  | nil => rfl
  | cons byte bytes ih =>
      rw [List.length_cons, slice_succ, putBytes, ih, putBytes_outside _ _ (by omega),
        Function.update_self]

theorem slice_putBytes_add (memory : Memory) (start : Nat) (bytes : List UInt8) (rest : Nat) :
    (memory.putBytes start bytes).slice start (bytes.length + rest) =
      bytes ++ memory.slice (start + bytes.length) rest := by
  have hbehind : (memory.putBytes start bytes).slice (start + bytes.length) rest =
      memory.slice (start + bytes.length) rest :=
    slice_congr fun a hlow _ => memory.putBytes_outside bytes (.inr hlow)
  rw [slice_add, slice_putBytes, hbehind]

end Memory

def Apart (addr len addr' len' : Nat) : Prop :=
  addr + len ≤ addr' ∨ addr' + len' ≤ addr

theorem Apart.symm {addr len addr' len' : Nat} (h : Apart addr len addr' len') :
    Apart addr' len' addr len := Or.symm h

theorem Memory.store_apart (memory : Memory) {addr len addr' len' offset : Nat}
    (data : Nat → UInt8) (h : Apart addr len addr' len') (hoffset : offset < len') :
    memory.store addr len data (addr' + offset) = memory (addr' + offset) :=
  memory.store_outside data (by rcases h with h | h <;> omega)

end Vmr.Lib
