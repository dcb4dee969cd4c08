import Vmr.Lib.Memory
import Vmr.Lib.Word

/-!
# Words in a byte memory

Little-endian words of four and eight bytes, and a copy that goes forward byte
by byte, as `memcpy` does: towards lower addresses the ranges may overlap.
-/

namespace Vmr.Lib.Memory

def number (memory : Memory) : Nat → Nat → Nat
  | _, 0 => 0
  | start, length + 1 => (memory start).toNat + 2 ^ 8 * number memory (start + 1) length

def load32 (memory : Memory) (start : Nat) : UInt32 := UInt32.ofNat (memory.number start 4)

def load64 (memory : Memory) (start : Nat) : UInt64 := UInt64.ofNat (memory.number start 8)

def store32 (memory : Memory) (start : Nat) (word : UInt32) : Memory :=
  memory.store start 4 (byteAt word.toNat)

def store64 (memory : Memory) (start : Nat) (word : UInt64) : Memory :=
  memory.store start 8 (byteAt word.toNat)

def AgreeOn (memory memory' : Memory) (start length : Nat) : Prop :=
  ∀ address, start ≤ address → address < start + length → memory' address = memory address

theorem AgreeOn.sub {memory memory' : Memory} {start length start' length' : Nat}
    (h : AgreeOn memory memory' start length) (hlow : start ≤ start')
    (hhigh : start' + length' ≤ start + length) : AgreeOn memory memory' start' length' :=
  fun address hstart hend => h address (by omega) (by omega)

theorem AgreeOn.trans {memory memory' memory'' : Memory} {start length : Nat}
    (h : AgreeOn memory memory' start length) (h' : AgreeOn memory' memory'' start length) :
    AgreeOn memory memory'' start length :=
  fun address hlow hhigh => (h' address hlow hhigh).trans (h address hlow hhigh)

theorem AgreeOn.slice {memory memory' : Memory} {start length : Nat}
    (h : AgreeOn memory memory' start length) :
    memory'.slice start length = memory.slice start length :=
  slice_congr h

theorem agreeOn_store (memory : Memory) {addr len start length : Nat} (data : Nat → UInt8)
    (h : Apart addr len start length) : AgreeOn memory (memory.store addr len data) start length :=
  fun address hlow hhigh => memory.store_outside data (by rcases h with h | h <;> omega)

theorem slice_shift {memory memory' : Memory} {start start' length : Nat}
    (h : ∀ offset < length, memory' (start' + offset) = memory (start + offset)) :
    memory'.slice start' length = memory.slice start length := by
  induction length generalizing start start' with
  | zero => rfl
  | succ length ih =>
      rw [slice_succ, slice_succ]
      congr 1
      · exact h 0 (by omega)
      · refine ih fun offset hoffset => ?_
        have hnext := h (offset + 1) (by omega)
        rwa [Nat.add_comm offset, ← Nat.add_assoc, ← Nat.add_assoc] at hnext

/-! ## Reading what was written -/

theorem number_shift {memory memory' : Memory} {start start' length : Nat}
    (h : ∀ offset < length, memory' (start' + offset) = memory (start + offset)) :
    memory'.number start' length = memory.number start length := by
  induction length generalizing start start' with
  | zero => rfl
  | succ length ih =>
      have hfirst := h 0 (by omega)
      rw [Nat.add_zero, Nat.add_zero] at hfirst
      rw [number, number, hfirst, ih fun offset hoffset => ?_]
      have hnext := h (offset + 1) (by omega)
      rwa [Nat.add_comm offset, ← Nat.add_assoc, ← Nat.add_assoc] at hnext

theorem AgreeOn.number {memory memory' : Memory} {start length : Nat}
    (h : AgreeOn memory memory' start length) :
    memory'.number start length = memory.number start length :=
  number_shift fun offset hoffset => h (start + offset) (by omega) (by omega)

theorem AgreeOn.load32 {memory memory' : Memory} {start : Nat}
    (h : AgreeOn memory memory' start 4) : memory'.load32 start = memory.load32 start :=
  congrArg UInt32.ofNat h.number

theorem AgreeOn.load64 {memory memory' : Memory} {start : Nat}
    (h : AgreeOn memory memory' start 8) : memory'.load64 start = memory.load64 start :=
  congrArg UInt64.ofNat h.number

private theorem number_bytes (memory : Memory) (value start length : Nat) (position : Nat)
    (h : ∀ offset < length, memory (start + offset) = byteAt value (position + offset)) :
    memory.number start length = value / 2 ^ (8 * position) % 2 ^ (8 * length) := by
  induction length generalizing start position with
  | zero => simp [number, Nat.mod_one]
  | succ length ih =>
      have hfirst := h 0 (by omega)
      rw [Nat.add_zero, Nat.add_zero] at hfirst
      rw [number, hfirst, toNat_byteAt, ih (start + 1) (position + 1) fun offset hoffset => ?_]
      · rw [Nat.mul_add 8 position, Nat.pow_add, ← Nat.div_div_eq_div_mul, Nat.mul_add 8 length,
          Nat.add_comm (8 * length), Nat.pow_add, Nat.mod_mul]
      · have hnext := h (offset + 1) (by omega)
        rwa [Nat.add_comm offset, ← Nat.add_assoc, ← Nat.add_assoc] at hnext

private theorem byteAt_number (memory : Memory) {start length index : Nat} (h : index < length) :
    byteAt (memory.number start length) index = memory (start + index) := by
  induction length generalizing start index with
  | zero => cases h
  | succ length ih =>
      have hbyte := (memory start).toNat_lt
      apply UInt8.toNat_inj.1
      rw [number, toNat_byteAt]
      cases index with
      | zero => simp only [Nat.mul_zero, Nat.pow_zero, Nat.div_one, Nat.add_zero]; omega
      | succ index =>
          have hrest := congrArg UInt8.toNat (@ih (start + 1) index (Nat.lt_of_succ_lt_succ h))
          rw [toNat_byteAt] at hrest
          have hshift : ((memory start).toNat + 2 ^ 8 * memory.number (start + 1) length) / 2 ^ 8 =
              memory.number (start + 1) length := by
            omega
          rw [Nat.mul_succ, Nat.add_comm (8 * index), Nat.pow_add, ← Nat.div_div_eq_div_mul, hshift,
            hrest, Nat.add_assoc, Nat.add_comm 1]

theorem byteAt_load32 (memory : Memory) (start : Nat) {index : Nat} (h : index < 4) :
    byteAt (memory.load32 start).toNat index = memory (start + index) := by
  have hlt : memory.number start 4 < 2 ^ 32 := by
    have h0 := (memory start).toNat_lt
    have h1 := (memory (start + 1)).toNat_lt
    have h2 := (memory (start + 1 + 1)).toNat_lt
    have h3 := (memory (start + 1 + 1 + 1)).toNat_lt
    simp only [number]
    omega
  rw [load32, UInt32.toNat_ofNat_of_lt' hlt]
  exact byteAt_number memory h

theorem bytes_load32 (memory : Memory) (start : Nat) :
    (List.range 4).map (byteAt (memory.load32 start).toNat) = memory.slice start 4 := by
  rw [slice, List.range'_eq_map_range, List.map_map]
  apply List.map_congr_left
  intro index hindex
  exact byteAt_load32 memory start (List.mem_range.1 hindex)

theorem store32_load32 (memory : Memory) (start : Nat) (word : UInt32) :
    (memory.store32 start word).store32 start (memory.load32 start) = memory := by
  funext address
  by_cases hinside : start ≤ address ∧ address < start + 4
  · obtain ⟨offset, rfl⟩ := Nat.exists_eq_add_of_le hinside.1
    rw [store32, store_inside _ _ (by omega), byteAt_load32 memory start (by omega)]
  · rw [store32, store_outside _ _ (by omega), store32, store_outside _ _ (by omega)]

private theorem number_store (memory : Memory) (start length value : Nat) :
    (memory.store start length (byteAt value)).number start length =
      value % 2 ^ (8 * length) := by
  have hbytes := number_bytes (memory.store start length (byteAt value)) value start length 0
    fun offset hoffset => by rw [memory.store_inside _ hoffset, Nat.zero_add]
  simpa using hbytes

@[simp] theorem load32_store32 (memory : Memory) (start : Nat) (word : UInt32) :
    (memory.store32 start word).load32 start = word := by
  rw [load32, store32, number_store, Nat.mod_eq_of_lt word.toNat_lt, UInt32.ofNat_toNat]

@[simp] theorem load64_store64 (memory : Memory) (start : Nat) (word : UInt64) :
    (memory.store64 start word).load64 start = word := by
  rw [load64, store64, number_store, Nat.mod_eq_of_lt word.toNat_lt, UInt64.ofNat_toNat]

/-! ## Words one behind the other -/

def storeWords (memory : Memory) (start : Nat) (words : List (UInt32 × Nat)) : Memory :=
  words.foldl (fun memory word => memory.store32 (start + 4 * word.2) word.1) memory

theorem agreeOn_storeWords (memory : Memory) {start first low length : Nat} (words : List UInt32)
    (h : low + length ≤ start + 4 * first) :
    memory.AgreeOn (memory.storeWords start (words.zipIdx first)) low length := by
  induction words generalizing memory first with
  | nil => exact fun _ _ _ => rfl
  | cons word words ih =>
      rw [List.zipIdx_cons, storeWords, List.foldl_cons]
      exact (memory.agreeOn_store _ (.inr h)).trans (ih _ (by omega))

theorem storeWords_outside (memory : Memory) {start first a : Nat} (words : List UInt32)
    (h : a < start + 4 * first ∨ start + 4 * (first + words.length) ≤ a) :
    memory.storeWords start (words.zipIdx first) a = memory a := by
  induction words generalizing memory first with
  | nil => rfl
  | cons word words ih =>
      rw [List.length_cons] at h
      rw [List.zipIdx_cons, storeWords, List.foldl_cons, ← storeWords, ih _ (by omega)]
      exact memory.store_outside _ (by omega)

theorem load32_storeWords (memory : Memory) (start first : Nat) (words : List UInt32) {index : Nat}
    (h : index < words.length) :
    (memory.storeWords start (words.zipIdx first)).load32 (start + 4 * (first + index)) =
      words[index] := by
  induction words generalizing memory first index with
  | nil => exact absurd h (Nat.not_lt_zero index)
  | cons word words ih =>
      rw [List.zipIdx_cons, storeWords, List.foldl_cons, ← storeWords]
      cases index with
      | zero =>
          rw [(agreeOn_storeWords _ words (by omega)).load32]
          exact memory.load32_store32 _ word
      | succ index =>
          have hrest := ih (memory.store32 (start + 4 * first) word) (first + 1)
            (Nat.lt_of_succ_lt_succ h)
          rwa [Nat.add_assoc, Nat.add_comm 1] at hrest

/-! ## Copying forward -/

def copyForward (memory : Memory) : Nat → Nat → Nat → Memory
  | _, _, 0 => memory
  | target, source, length + 1 =>
      copyForward (Function.update memory target (memory source)) (target + 1) (source + 1) length

theorem copyForward_outside (memory : Memory) {target source length address : Nat}
    (h : address < target ∨ target + length ≤ address) :
    memory.copyForward target source length address = memory address := by
  induction length generalizing memory target source with
  | zero => rfl
  | succ length ih =>
      rw [copyForward, ih _ (by omega), Function.update_of_ne (by omega)]

theorem copyForward_inside (memory : Memory) {target source length offset : Nat}
    (hle : target ≤ source) (hoffset : offset < length) :
    memory.copyForward target source length (target + offset) = memory (source + offset) := by
  induction length generalizing memory target source offset with
  | zero => cases hoffset
  | succ length ih =>
      rw [copyForward]
      cases offset with
      | zero => rw [copyForward_outside _ (by omega), Nat.add_zero, Function.update_self,
          Nat.add_zero]
      | succ offset =>
          rw [show target + (offset + 1) = target + 1 + offset by omega,
            ih _ (by omega) (Nat.lt_of_succ_lt_succ hoffset), Function.update_of_ne (by omega)]
          congr 1
          omega

end Vmr.Lib.Memory
