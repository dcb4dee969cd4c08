import Mathlib.Logic.Function.Basic
import Mathlib.Tactic.Common

/-!
# Writes one after another

A store is a function, and a list of writes is applied to it from the left.
What a place holds afterwards is the last value written to it, or what it held
before.
-/

namespace Vmr.Lib

variable {κ β : Type} [DecidableEq κ]

def updates (store : κ → β) (writes : List (κ × β)) : κ → β :=
  writes.foldl (fun store write => Function.update store write.1 write.2) store

def lastWrite (place : κ) : List (κ × β) → Option β
  | [] => none
  | write :: writes =>
      (lastWrite place writes).or (if write.1 = place then some write.2 else none)

theorem updates_apply (store : κ → β) (writes : List (κ × β)) (place : κ) :
    updates store writes place = (lastWrite place writes).getD (store place) := by
  induction writes generalizing store with
  | nil => rfl
  | cons write writes ih =>
      rw [updates, List.foldl_cons, ← updates, ih, lastWrite]
      cases lastWrite place writes with
      | some value => simp
      | none =>
          by_cases hplace : write.1 = place
          · simp [hplace]
          · simp [hplace, Function.update_of_ne (Ne.symm hplace)]

theorem updates_append (store : κ → β) (first second : List (κ × β)) :
    updates store (first ++ second) = updates (updates store first) second :=
  List.foldl_append

theorem lastWrite_append (place : κ) (first second : List (κ × β)) :
    lastWrite place (first ++ second) = (lastWrite place second).or (lastWrite place first) := by
  induction first with
  | nil => rw [List.nil_append, lastWrite, Option.or_none]
  | cons write first ih => rw [List.cons_append, lastWrite, lastWrite, ih, Option.or_assoc]

theorem lastWrite_eq_none_iff {place : κ} {writes : List (κ × β)} :
    lastWrite place writes = none ↔ ∀ write ∈ writes, write.1 ≠ place := by
  induction writes with
  | nil => simp [lastWrite]
  | cons write writes ih => simp [lastWrite, ih, and_comm]

theorem lastWrite_map {ι γ : Type} [DecidableEq ι] {place : ι → κ}
    (hplace : Function.Injective place) (value : ι → γ → β) (entries : List (ι × γ)) (key : ι) :
    lastWrite (place key) (entries.map fun entry => (place entry.1, value entry.1 entry.2)) =
      (lastWrite key entries).map (value key) := by
  induction entries with
  | nil => rfl
  | cons entry entries ih =>
      rw [List.map_cons, lastWrite, lastWrite, ih, Option.map_or]
      congr 1
      by_cases hkey : entry.1 = key
      · simp [hkey]
      · simp [hkey, hplace.ne hkey]

end Vmr.Lib
