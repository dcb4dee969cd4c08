import Mathlib.Algebra.BigOperators.Group.List.Basic
import Mathlib.Data.List.GetD
import Mathlib.Tactic.Ring
import Vmr.Lib.History
import Vmr.Vmc.ClockThrottling

/-!
# Averages of the last readings

A moving average keeps the last readings in a ring and their sum beside it.
Until the ring has been filled, the mean is that of the readings so far.
-/

namespace Vmr.Vmc.Throttling

open Vmr.Lib

def allocateMovingAverage (bufferAllocated : Bool) (len : UInt8) : Option MovingAverage :=
  if bufferAllocated = true then
    some { buffer := List.replicate len.toNat 0, sum := 0, pos := 0, isFilled := false }
  else none

def MovingAverage.addAll (average : MovingAverage) (readings : List ℚ) : MovingAverage :=
  readings.foldl (fun average reading => (average.add reading).2) average

def arithmeticMean (values : List ℚ) : ℚ := values.sum / values.length

def zeros (len : Nat) (hlen : 0 < len) : RingBuffer ℚ where
  slots := List.replicate len 0
  next := 0
  next_lt := by rwa [List.length_replicate]

section Window

variable {len : Nat} (hlen : 0 < len) (readings : List ℚ)

/-- The buffer is the ring of the readings, and the sum is its sum. -/
structure Tracks (average : MovingAverage) : Prop where
  buffer : average.buffer = ((zeros len hlen).pushAll readings).slots
  pos : average.pos = ((zeros len hlen).pushAll readings).next
  sum : average.sum = average.buffer.sum
  isFilled : average.isFilled = true ↔ len ≤ readings.length

private theorem slots_zeros : (zeros len hlen).slots.length = len := List.length_replicate

private theorem next_zeros : ((zeros len hlen).pushAll readings).next = readings.length % len := by
  rw [RingBuffer.next_pushAll, slots_zeros]
  exact congrArg (· % len) (Nat.zero_add _)

private theorem sum_slots_zeros :
    ((zeros len hlen).pushAll readings).slots.sum = (recent len readings).sum := by
  have hstart : (zeros len hlen).contents = List.replicate len 0 := List.rotate_zero _
  calc ((zeros len hlen).pushAll readings).slots.sum
      = ((zeros len hlen).pushAll readings).contents.sum :=
        (List.rotate_perm _ _).sum_eq.symm
    _ = ((List.replicate len 0 ++ readings).drop readings.length).sum := by
        rw [RingBuffer.contents_pushAll, hstart]
    _ = (recent len readings).sum := by
        rw [List.drop_append, List.sum_append, List.drop_replicate, List.sum_replicate,
          nsmul_zero, zero_add, List.length_replicate, recent]

variable {hlen readings}

private theorem sum_set (buffer : List ℚ) {pos : Nat} (hpos : pos < buffer.length) (element : ℚ) :
    (buffer.set pos element).sum = buffer.sum - buffer.getD pos 0 + element := by
  rw [List.sum_set', dif_pos hpos, List.getD_eq_getElem _ _ hpos]
  ring

private theorem Tracks.length_buffer {average : MovingAverage} (h : Tracks hlen readings average) :
    average.buffer.length = len := by
  rw [h.buffer, RingBuffer.length_pushAll, slots_zeros]

private theorem Tracks.pos_eq {average : MovingAverage} (h : Tracks hlen readings average) :
    average.pos = readings.length % len := by
  rw [h.pos, next_zeros]

private theorem Tracks.pos_lt {average : MovingAverage} (h : Tracks hlen readings average) :
    average.pos < len := by
  rw [h.pos_eq]
  exact Nat.mod_lt _ hlen

theorem Tracks.add {average : MovingAverage} (h : Tracks hlen readings average) (reading : ℚ) :
    Tracks hlen (readings ++ [reading]) (average.add reading).2 := by
  have hlength := h.length_buffer
  have hpos := h.pos_lt
  have hplace := h.pos_eq
  constructor
  · rw [RingBuffer.pushAll_concat, RingBuffer.push, MovingAverage.add, h.buffer, h.pos]
  · have hstep : (readings.length + 1) % len = (average.pos + 1) % len := by
      rw [hplace, Nat.mod_add_mod]
    rw [next_zeros, List.length_append, List.length_singleton, hstep, MovingAverage.add, hlength]
    rcases Nat.lt_or_ge (average.pos + 1) len with hinside | hround
    · rw [Nat.mod_eq_of_lt hinside]
      exact if_neg (Nat.not_le.2 hinside)
    · have hend : average.pos + 1 = len := by omega
      rw [hend, Nat.mod_self]
      exact if_pos (Nat.le_refl _)
  · rw [MovingAverage.add, sum_set _ (by omega), h.sum]
  · have hfilled := h.isFilled
    rw [MovingAverage.add, hlength, List.length_append, List.length_singleton]
    simp only [Bool.or_eq_true, decide_eq_true_eq, hfilled]
    rcases Nat.lt_or_ge readings.length len with hless | hmore
    · rw [Nat.mod_eq_of_lt hless] at hplace
      omega
    · omega

theorem Tracks.mean {average : MovingAverage} (h : Tracks hlen readings average) (reading : ℚ) :
    (average.add reading).1 = arithmeticMean (recent len (readings ++ [reading])) := by
  have hnext := h.add reading
  have hlength := hnext.length_buffer
  have hplace := hnext.pos_eq
  have hfilled := hnext.isFilled
  rw [List.length_append, List.length_singleton] at hplace hfilled
  have hcount : (if (average.add reading).2.isFilled = true then
      (average.add reading).2.buffer.length else (average.add reading).2.pos) =
        min (readings.length + 1) len := by
    rw [hlength]
    split
    · rename_i htrue
      rw [Nat.min_eq_right (hfilled.1 htrue)]
    · rename_i hfalse
      have hless : readings.length + 1 < len := Nat.lt_of_not_le (mt hfilled.2 hfalse)
      rw [hplace, Nat.mod_eq_of_lt hless, Nat.min_eq_left (Nat.le_of_lt hless)]
  have hresult : (average.add reading).1 = (average.add reading).2.sum /
      (if (average.add reading).2.isFilled = true then
        (average.add reading).2.buffer.length else (average.add reading).2.pos : Nat) := rfl
  rw [hresult, hcount, hnext.sum, hnext.buffer, sum_slots_zeros, arithmeticMean, length_recent,
    List.length_append, List.length_singleton]

private theorem Tracks.addAll {average : MovingAverage} {further : List ℚ}
    (h : Tracks hlen readings average) :
    Tracks hlen (readings ++ further) (average.addAll further) := by
  induction further generalizing readings average with
  | nil => rwa [List.append_nil]
  | cons reading further ih =>
      rw [List.append_cons]
      exact ih (h.add reading)

end Window

private theorem tracks_allocateMovingAverage {bufferAllocated : Bool} {len : UInt8}
    (hlen : 0 < len.toNat) {average : MovingAverage}
    (h : allocateMovingAverage bufferAllocated len = some average) : Tracks hlen [] average := by
  rw [allocateMovingAverage] at h
  split at h
  · cases h
    refine ⟨rfl, rfl, ?_, ?_⟩
    · exact (List.sum_replicate _ _).trans (nsmul_zero _) |>.symm
    · simpa using Nat.ne_of_gt hlen
  · cases h

/-- At every call. -/
theorem movingAverage_mean (bufferAllocated : Bool) (len : UInt8) (hlen : 1 ≤ len.toNat)
    (fresh : MovingAverage) (h : allocateMovingAverage bufferAllocated len = some fresh)
    (readings : List ℚ) (reading : ℚ) :
    ((fresh.addAll readings).add reading).1 =
        arithmeticMean (recent len.toNat (readings ++ [reading])) ∧
      (recent len.toNat (readings ++ [reading])).length = min (readings.length + 1) len.toNat ∧
      (fresh.addAll readings).sum = (fresh.addAll readings).buffer.sum ∧
      (fresh.addAll readings).pos < len.toNat := by
  have htracks : Tracks hlen readings (fresh.addAll readings) :=
    (tracks_allocateMovingAverage hlen h).addAll
  refine ⟨htracks.mean reading, ?_, htracks.sum, htracks.pos_lt⟩
  rw [length_recent, List.length_append, List.length_singleton]

/-- The first of three readings has left a buffer of two. -/
theorem movingAverage_mean_two :
    ((MovingAverage.addAll ⟨[0, 0], 0, 0, false⟩ [20, 24]).add 30).1 = 27 ∧
      (MovingAverage.addAll ⟨[0, 0], 0, 0, false⟩ [20, 24]).pos < 2 := by
  have h := movingAverage_mean true 2 (by decide) ⟨[0, 0], 0, 0, false⟩ rfl [20, 24] 30
  have hrecent : recent (UInt8.toNat 2) ([20, 24] ++ [30] : List ℚ) = [24, 30] := rfl
  refine ⟨?_, h.2.2.2⟩
  rw [h.1, hrecent, arithmeticMean]
  norm_num

end Vmr.Vmc.Throttling
