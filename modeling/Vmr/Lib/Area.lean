import Mathlib.Algebra.Ring.Nat
import Mathlib.Algebra.BigOperators.Group.List.Basic
import Mathlib.Data.Finset.Card
import Mathlib.Order.Interval.Finset.Nat

/-!
# Areas of a memory

An area is a range of addresses.  Areas laid one behind the other are disjoint;
disjoint areas inside a range do not need more room than it has.
-/

namespace Vmr.Lib

structure Area where
  start : Nat
  size : Nat
  deriving DecidableEq, Repr

namespace Area

def cells (area : Area) : Finset Nat := Finset.Ico area.start (area.start + area.size)

@[simp] theorem mem_cells {area : Area} {address : Nat} :
    address ∈ area.cells ↔ area.start ≤ address ∧ address < area.start + area.size :=
  Finset.mem_Ico

@[simp] theorem card_cells (area : Area) : area.cells.card = area.size := by
  simp [cells]

def Apart (first second : Area) : Prop := Disjoint first.cells second.cells

theorem apart_of_le {first second : Area} (h : first.start + first.size ≤ second.start) :
    first.Apart second := by
  refine Finset.disjoint_left.2 fun address hfirst hsecond => ?_
  rw [mem_cells] at hfirst hsecond
  omega

theorem Apart.not_mem {first second : Area} (h : first.Apart second) {address : Nat}
    (hfirst : address ∈ first.cells) : address ∉ second.cells :=
  Finset.disjoint_left.1 h hfirst

def pack : Nat → List Nat → List Area
  | _, [] => []
  | start, size :: sizes => ⟨start, size⟩ :: pack (start + size) sizes

theorem pack_append (start : Nat) (sizes sizes' : List Nat) :
    pack start (sizes ++ sizes') = pack start sizes ++ pack (start + sizes.sum) sizes' := by
  induction sizes generalizing start with
  | nil => simp [pack]
  | cons size sizes ih => simp [pack, ih, Nat.add_assoc]

theorem pack_inside {start : Nat} {sizes : List Nat} {area : Area} (h : area ∈ pack start sizes) :
    start ≤ area.start ∧ area.start + area.size ≤ start + sizes.sum := by
  induction sizes generalizing start with
  | nil => cases h
  | cons size sizes ih =>
      rw [List.sum_cons]
      rcases List.mem_cons.1 h with rfl | h
      · exact ⟨Nat.le_refl _, by simp only; omega⟩
      · have hrest := ih h
        omega

theorem pack_apart (start : Nat) (sizes : List Nat) : (pack start sizes).Pairwise Apart := by
  induction sizes generalizing start with
  | nil => exact .nil
  | cons size sizes ih =>
      exact .cons (fun area h => apart_of_le (pack_inside h).1) (ih _)

theorem sum_size_le {areas : List Area} {limit : Nat} (hapart : areas.Pairwise Apart)
    (hinside : ∀ area ∈ areas, area.start + area.size ≤ limit) :
    (areas.map size).sum ≤ limit := by
  -- together the areas hold as many addresses as their sizes say, all below the limit
  have hcells : ∃ cells : Finset Nat, cells.card = (areas.map size).sum ∧
      ∀ address, address ∈ cells ↔ ∃ area ∈ areas, address ∈ area.cells := by
    clear hinside
    induction areas with
    | nil => exact ⟨∅, by simp⟩
    | cons area areas ih =>
        obtain ⟨happart, hrest⟩ := List.pairwise_cons.1 hapart
        obtain ⟨cells, hcard, hmem⟩ := ih hrest
        have hdisjoint : Disjoint area.cells cells := by
          refine Finset.disjoint_left.2 fun address harea hcells => ?_
          obtain ⟨other, hother, haddress⟩ := (hmem address).1 hcells
          exact (happart other hother).not_mem harea haddress
        refine ⟨area.cells ∪ cells, ?_, fun address => ?_⟩
        · rw [Finset.card_union_of_disjoint hdisjoint, hcard]
          simp
        · simp [hmem]
  obtain ⟨cells, hcard, hmem⟩ := hcells
  have hsubset : cells ⊆ Finset.range limit := by
    intro address haddress
    obtain ⟨area, harea, hcell⟩ := (hmem address).1 haddress
    have hlimit := hinside area harea
    rw [mem_cells] at hcell
    exact Finset.mem_range.2 (by omega)
  rw [← hcard]
  exact (Finset.card_le_card hsubset).trans_eq (Finset.card_range limit)

end Area

end Vmr.Lib
