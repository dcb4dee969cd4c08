import Mathlib.Data.List.Rotate
import Mathlib.Tactic.Common

/-!
# A history in a ring of slots

Each value takes the slot of the oldest one.  Read from the next slot on, a ring
has its values in the order in which they came; behind a run these are the last
of the values that were in it and that came.
-/

namespace Vmr.Lib

def recent {α : Type*} (count : Nat) (values : List α) : List α :=
  values.drop (values.length - count)

@[simp] theorem length_recent {α : Type*} (count : Nat) (values : List α) :
    (recent count values).length = min values.length count := by
  rw [recent, List.length_drop]
  omega

@[ext]
structure RingBuffer (α : Type*) where
  slots : List α
  next : Nat
  next_lt : next < slots.length

theorem map_range_set {α : Type*} {count place : Nat} {entry entry' : Nat → α} {value : α}
    (hplace : place < count → entry' place = value)
    (hkept : ∀ index < count, index ≠ place → entry' index = entry index) :
    (List.range count).map entry' = ((List.range count).map entry).set place value := by
  apply List.ext_getElem
  · simp
  · intro index hindex hindex'
    have hlt : index < count := by simpa using hindex
    rw [List.getElem_set]
    split
    · rename_i hsame
      subst hsame
      simpa using hplace hlt
    · rename_i hother
      simpa using hkept index hlt (Ne.symm hother)

namespace RingBuffer

variable {α : Type*} (ring : RingBuffer α)

def contents : List α := ring.slots.rotate ring.next

def push (value : α) : RingBuffer α where
  slots := ring.slots.set ring.next value
  next := (ring.next + 1) % ring.slots.length
  next_lt := by
    rw [List.length_set]
    exact Nat.mod_lt _ (Nat.lt_of_le_of_lt (Nat.zero_le _) ring.next_lt)

def pushAll (values : List α) : RingBuffer α := values.foldl push ring

def back (steps : Nat) : Option α :=
  ring.slots[(ring.next + ring.slots.length - 1 - steps) % ring.slots.length]?

@[simp] theorem length_push (value : α) :
    (ring.push value).slots.length = ring.slots.length := List.length_set

@[simp] theorem length_contents : ring.contents.length = ring.slots.length :=
  List.length_rotate _ _

@[simp] theorem pushAll_nil : ring.pushAll [] = ring := rfl

@[simp] theorem pushAll_cons (value : α) (values : List α) :
    ring.pushAll (value :: values) = (ring.push value).pushAll values := rfl

@[simp] theorem pushAll_concat (values : List α) (value : α) :
    ring.pushAll (values ++ [value]) = (ring.pushAll values).push value := by
  simp [pushAll]

@[simp] theorem length_pushAll (values : List α) :
    (ring.pushAll values).slots.length = ring.slots.length := by
  induction values generalizing ring with
  | nil => rfl
  | cons value values ih => rw [pushAll_cons, ih, length_push]

theorem next_pushAll (values : List α) :
    (ring.pushAll values).next = (ring.next + values.length) % ring.slots.length := by
  induction values generalizing ring with
  | nil => exact (Nat.mod_eq_of_lt ring.next_lt).symm
  | cons value values ih =>
      rw [pushAll_cons, ih, length_push, push, Nat.mod_add_mod, List.length_cons]
      congr 1
      omega

theorem contents_push (value : α) :
    (ring.push value).contents = ring.contents.tail ++ [value] := by
  have hnext := ring.next_lt
  have hlength : ring.slots.length = (ring.slots.set ring.next value).length := by simp
  have htake : (ring.slots.set ring.next value).take (ring.next + 1) =
      ring.slots.take ring.next ++ [value] := by
    rw [List.take_succ_eq_append_getElem (by omega), List.take_set_of_le (Nat.le_refl _)]
    simp
  have hdrop : (ring.slots.set ring.next value).drop (ring.next + 1) =
      ring.slots.drop (ring.next + 1) := List.drop_set_of_lt (Nat.lt_succ_self _)
  calc (ring.push value).contents
      = (ring.slots.set ring.next value).rotate (ring.next + 1) := by
        have hmod := List.rotate_mod (ring.slots.set ring.next value) (ring.next + 1)
        rwa [List.length_set] at hmod
    _ = ring.slots.drop (ring.next + 1) ++ (ring.slots.take ring.next ++ [value]) := by
        rw [List.rotate_eq_drop_append_take (by omega), htake, hdrop]
    _ = ring.contents.tail ++ [value] := by
        have hsome : ring.slots.drop ring.next ≠ [] := by simpa using hnext
        rw [contents, List.rotate_eq_drop_append_take (Nat.le_of_lt hnext),
          List.tail_append_of_ne_nil hsome, List.tail_drop, List.append_assoc]

theorem contents_pushAll (values : List α) :
    (ring.pushAll values).contents = (ring.contents ++ values).drop values.length := by
  induction values generalizing ring with
  | nil => simp
  | cons value values ih =>
      have hsome : ring.contents ≠ [] := by
        rw [← List.length_pos_iff, length_contents]
        exact Nat.lt_of_le_of_lt (Nat.zero_le _) ring.next_lt
      obtain ⟨oldest, rest, hcontents⟩ := List.exists_cons_of_ne_nil hsome
      rw [pushAll_cons, ih, contents_push, hcontents]
      simp

theorem back_eq {steps : Nat} (h : steps < ring.slots.length) :
    ring.back steps = ring.contents.reverse[steps]? := by
  have hplace : ring.slots.length - 1 - steps + ring.next =
      ring.next + ring.slots.length - 1 - steps := by omega
  rw [List.getElem?_reverse (by simpa using h), length_contents, contents,
    List.getElem?_rotate (by omega), hplace, back]

theorem back_pushAll {values : List α} {steps : Nat} (hring : steps < ring.slots.length)
    (hvalues : steps < values.length) :
    (ring.pushAll values).back steps = values.reverse[steps]? := by
  have hlength := ring.length_contents
  have hplace : values.length + (ring.slots.length - 1 - steps) =
      ring.contents.length + (values.length - 1 - steps) := by omega
  have hkept : ((ring.contents ++ values).drop values.length).length = ring.slots.length := by
    simp
  rw [back_eq _ (by rwa [length_pushAll]), contents_pushAll,
    List.getElem?_reverse (by omega), hkept, List.getElem?_drop, hplace,
    List.getElem?_append_right (by omega), Nat.add_sub_cancel_left, List.getElem?_reverse hvalues]

end RingBuffer

end Vmr.Lib
