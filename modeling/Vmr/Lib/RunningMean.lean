import Mathlib.Algebra.BigOperators.Group.List.Basic
import Mathlib.Algebra.Order.Field.Basic
import Mathlib.Algebra.Order.Field.Rat
import Mathlib.Algebra.Order.Group.Unbundled.Int
import Mathlib.Tactic.FieldSimp
import Mathlib.Tactic.Linarith
import Mathlib.Tactic.LinearCombination
import Mathlib.Tactic.Ring

/-!
# A mean kept with truncated quotients

A mean of whole numbers can be carried along without the sum: the `count`-th
value takes the `count`-th part of the old mean away and adds its own
`count`-th part.  With truncated quotients the mean stays between the values,
but what the truncations drop is never made up for.
-/

namespace Vmr.Lib

def meanStep (mean count value : Nat) : Nat := mean - mean / count + value / count

/-- The mean behind more values, of which the first is the `count`-th. -/
def meanFrom (mean count : Nat) : List Nat → Nat
  | [] => mean
  | value :: values => meanFrom (meanStep mean count value) (count + 1) values

/-! ## Between the values -/

private theorem div_le_div_add {small large count : Nat} (hcount : 0 < count) (h : small ≤ large) :
    large / count ≤ small / count + (large - small) := by
  calc large / count ≤ (small + (large - small) * count) / count := by
        refine Nat.div_le_div_right ?_
        have := Nat.le_mul_of_pos_right (large - small) hcount
        omega
    _ = small / count + (large - small) := Nat.add_mul_div_right _ _ hcount

private theorem meanStep_of_le {mean count value : Nat} (hcount : 0 < count) (h : mean ≤ value) :
    mean ≤ meanStep mean count value ∧ meanStep mean count value ≤ value := by
  have hself := Nat.div_le_self mean count
  have hlow : mean / count ≤ value / count := Nat.div_le_div_right h
  have hhigh := div_le_div_add hcount h
  unfold meanStep
  omega

private theorem meanStep_of_ge {mean count value : Nat} (hcount : 0 < count) (h : value ≤ mean) :
    value ≤ meanStep mean count value ∧ meanStep mean count value ≤ mean := by
  have hself := Nat.div_le_self mean count
  have hlow : value / count ≤ mean / count := Nat.div_le_div_right h
  have hhigh := div_le_div_add hcount h
  unfold meanStep
  omega

theorem meanStep_between {mean count value low high : Nat} (hcount : 0 < count)
    (hmean : low ≤ mean ∧ mean ≤ high) (hvalue : low ≤ value ∧ value ≤ high) :
    low ≤ meanStep mean count value ∧ meanStep mean count value ≤ high := by
  rcases Nat.le_total mean value with h | h
  · have hstep := meanStep_of_le hcount h
    omega
  · have hstep := meanStep_of_ge hcount h
    omega

theorem exists_le_meanFrom {mean count : Nat} (hcount : 0 < count) (values : List Nat) :
    ∃ low ∈ mean :: values, low ≤ meanFrom mean count values := by
  induction values generalizing mean count with
  | nil => exact ⟨mean, List.mem_singleton_self mean, Nat.le_refl mean⟩
  | cons value values ih =>
      obtain ⟨low, hlow, hle⟩ := @ih (meanStep mean count value) (count + 1) (Nat.succ_pos count)
      rcases List.mem_cons.1 hlow with rfl | hmem
      · rcases Nat.le_total mean value with h | h
        · exact ⟨mean, by simp, Nat.le_trans (meanStep_of_le hcount h).1 hle⟩
        · exact ⟨value, by simp, Nat.le_trans (meanStep_of_ge hcount h).1 hle⟩
      · exact ⟨low, by simp [hmem], hle⟩

theorem exists_meanFrom_le {mean count : Nat} (hcount : 0 < count) (values : List Nat) :
    ∃ high ∈ mean :: values, meanFrom mean count values ≤ high := by
  induction values generalizing mean count with
  | nil => exact ⟨mean, List.mem_singleton_self mean, Nat.le_refl mean⟩
  | cons value values ih =>
      obtain ⟨high, hhigh, hle⟩ := @ih (meanStep mean count value) (count + 1) (Nat.succ_pos count)
      rcases List.mem_cons.1 hhigh with rfl | hmem
      · rcases Nat.le_total mean value with h | h
        · exact ⟨value, by simp, Nat.le_trans hle (meanStep_of_le hcount h).2⟩
        · exact ⟨mean, by simp, Nat.le_trans hle (meanStep_of_ge hcount h).2⟩
      · exact ⟨high, by simp [hmem], hle⟩

@[simp] theorem meanStep_first (mean value : Nat) : meanStep mean 1 value = value := by
  simp [meanStep]

theorem meanFrom_append (mean count : Nat) (values further : List Nat) :
    meanFrom mean count (values ++ further) =
      meanFrom (meanFrom mean count values) (count + values.length) further := by
  induction values generalizing mean count with
  | nil => rfl
  | cons value values ih =>
      rw [List.cons_append, meanFrom, ih, meanFrom, List.length_cons, Nat.add_right_comm,
        Nat.add_assoc]

/-! ## What is dropped -/

/-- What a step drops of the value, less what it keeps too much of the mean. -/
def dropped (mean count value : Nat) : Int := (value % count : Nat) - (mean % count : Nat)

def droppedFrom (mean count : Nat) : List Nat → Int
  | [] => 0
  | value :: values =>
      dropped mean count value + droppedFrom (meanStep mean count value) (count + 1) values

private theorem meanStep_dropped (mean count value : Nat) :
    (count : Int) * meanStep mean count value + dropped mean count value =
      (count - 1) * mean + value := by
  have hmean := Nat.div_add_mod mean count
  have hvalue := Nat.div_add_mod value count
  have hself := Nat.div_le_self mean count
  unfold meanStep dropped
  push_cast [Nat.cast_sub hself]
  have hmean' : (count : Int) * (mean / count : Nat) + (mean % count : Nat) = mean := by
    exact_mod_cast hmean
  have hvalue' : (count : Int) * (value / count : Nat) + (value % count : Nat) = value := by
    exact_mod_cast hvalue
  push_cast at hmean' hvalue'
  linear_combination hvalue' - hmean'

private theorem meanFrom_dropped (mean count : Nat) (values : List Nat) :
    (count - 1 + values.length : Int) * meanFrom mean count values +
        droppedFrom mean count values =
      (count - 1) * mean + (values.sum : Nat) := by
  induction values generalizing mean count with
  | nil => simp [meanFrom, droppedFrom]
  | cons value values ih =>
      have hstep := meanStep_dropped mean count value
      have hrest := ih (meanStep mean count value) (count + 1)
      simp only [meanFrom, droppedFrom, List.length_cons, List.sum_cons]
      push_cast at hrest ⊢
      linear_combination hrest + hstep

/-- At every step of the run the remainders differ by at most `bound`. -/
def SmallDrops (bound : Int) (mean count : Nat) : List Nat → Prop
  | [] => True
  | value :: values =>
      |dropped mean count value| ≤ bound ∧
        SmallDrops bound (meanStep mean count value) (count + 1) values

private theorem SmallDrops.abs_droppedFrom {bound : Int} {mean count : Nat} {values : List Nat}
    (h : SmallDrops bound mean count values) :
    |droppedFrom mean count values| ≤ bound * values.length := by
  induction values generalizing mean count with
  | nil => simp [droppedFrom]
  | cons value values ih =>
      have hrest := ih h.2
      have hsum := abs_add_le (dropped mean count value)
        (droppedFrom (meanStep mean count value) (count + 1) values)
      rw [droppedFrom, List.length_cons]
      push_cast
      linarith [h.1]

/-! ## How far the mean is off -/

def NearMean (bound : Nat) (mean : Nat) (values : List Nat) : Prop :=
  |(mean : ℚ) - (values.sum : ℚ) / values.length| < bound

theorem nearMean_meanFrom_iff (bound : Nat) {values : List Nat} (hvalues : values ≠ []) :
    NearMean bound (meanFrom 0 1 values) values ↔
      |droppedFrom 0 1 values| < bound * values.length := by
  have hlength : (0 : ℚ) < values.length := by
    exact_mod_cast List.length_pos_iff.2 hvalues
  have haccount := meanFrom_dropped 0 1 values
  have hdropped : (meanFrom 0 1 values : ℚ) - (values.sum : ℚ) / values.length =
      -(droppedFrom 0 1 values : ℚ) / values.length := by
    have hcast : (values.length : ℚ) * meanFrom 0 1 values + droppedFrom 0 1 values =
        values.sum := by
      have hint : (values.length : Int) * meanFrom 0 1 values + droppedFrom 0 1 values =
          values.sum := by
        simpa using haccount
      have hrat := congrArg (Int.cast : Int → ℚ) hint
      simpa only [Int.cast_add, Int.cast_mul, Int.cast_natCast] using hrat
    rw [← hcast]
    field_simp
    ring
  rw [NearMean, hdropped, abs_div, abs_neg, abs_of_pos hlength, div_lt_iff₀ hlength]
  exact_mod_cast Iff.rfl

/-- The first step drops nothing, so a loss of `bound` at every other step is less than `bound`
for each value. -/
theorem SmallDrops.nearMean {bound : Nat} (hbound : 0 < bound) {values : List Nat}
    (hvalues : values ≠ []) (h : SmallDrops bound 0 1 values) :
    NearMean bound (meanFrom 0 1 values) values := by
  rw [nearMean_meanFrom_iff bound hvalues]
  cases values with
  | nil => exact absurd rfl hvalues
  | cons value values =>
      have hrest := h.2.abs_droppedFrom
      have hfirst : dropped 0 1 value = 0 := by
        simp [dropped, Nat.mod_one]
      rw [droppedFrom, hfirst, zero_add, List.length_cons]
      push_cast
      have hpos : (0 : Int) < bound := by exact_mod_cast hbound
      linarith

end Vmr.Lib
