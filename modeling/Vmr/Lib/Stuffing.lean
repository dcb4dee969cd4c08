import Mathlib.Data.List.Basic
import Mathlib.Tactic.Common

/-!
# Escape stuffing

A frame ends in an escape symbol and a terminator; an escape symbol of the data
is sent twice.  `unstuff` reads up to the terminator and answers the data and
what follows the frame.
-/

namespace Vmr.Lib

variable {α : Type} [DecidableEq α]

def stuff (esc : α) : List α → List α
  | [] => []
  | symbol :: symbols =>
      if symbol = esc then esc :: symbol :: stuff esc symbols
      else symbol :: stuff esc symbols

def unstuff (esc terminator : α) : List α → Option (List α × List α)
  | [] => none
  | [_] => none
  | first :: second :: symbols =>
      if first = esc then
        if second = terminator then some ([], symbols)
        else if second = esc then
          (unstuff esc terminator symbols).map fun (data, rest) => (esc :: data, rest)
        else none
      else
        (unstuff esc terminator (second :: symbols)).map fun (data, rest) =>
          (first :: data, rest)

theorem stuff_append (esc : α) (xs ys : List α) :
    stuff esc (xs ++ ys) = stuff esc xs ++ stuff esc ys := by
  induction xs with
  | nil => rfl
  | cons x xs ih =>
      rw [List.cons_append, stuff, stuff, ih]
      split <;> rfl

theorem length_stuff (esc : α) (xs : List α) :
    (stuff esc xs).length = xs.length + xs.count esc := by
  induction xs with
  | nil => rfl
  | cons x xs ih =>
      rw [stuff]
      split
      · rename_i h
        subst h
        simp only [List.length_cons, ih, List.count_cons_self]
        omega
      · rename_i h
        simp only [List.length_cons, ih, List.count_cons_of_ne h]
        omega

private theorem unstuff_cons_of_ne {esc terminator x : α} (hx : x ≠ esc) {symbols : List α}
    (hne : symbols ≠ []) :
    unstuff esc terminator (x :: symbols) =
      (unstuff esc terminator symbols).map fun (data, rest) => (x :: data, rest) := by
  cases symbols with
  | nil => exact absurd rfl hne
  | cons second symbols => rw [unstuff, if_neg hx]

theorem unstuff_stuff {esc terminator : α} (h : terminator ≠ esc) (xs rest : List α) :
    unstuff esc terminator (stuff esc xs ++ esc :: terminator :: rest) =
      some (xs, rest) := by
  induction xs with
  | nil =>
      rw [stuff, List.nil_append, unstuff, if_pos rfl, if_pos rfl]
  | cons x xs ih =>
      rw [stuff]
      split
      · rename_i hx
        subst hx
        rw [List.cons_append, List.cons_append, unstuff, if_pos rfl, if_neg h.symm, if_pos rfl,
          ih]
        rfl
      · rename_i hx
        rw [List.cons_append, unstuff_cons_of_ne hx (by simp), ih]
        rfl

end Vmr.Lib
