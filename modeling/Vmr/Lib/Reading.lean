import Vmr.Lib.Bus

/-!
# Computations that remember what they read

A computation over a byte memory has a value and the addresses that were read for
it, in order.  The addresses have 32 bits and wrap.  The string functions of C read
up to the end of a text, wherever that is.
-/

namespace Vmr.Lib

structure Reading (α : Type) where
  value : α
  reads : List UInt32

namespace Reading

variable {α β : Type}

instance : Monad Reading where
  pure value := ⟨value, []⟩
  bind reading next := ⟨(next reading.value).value, reading.reads ++ (next reading.value).reads⟩

@[simp] theorem value_pure (value : α) : (pure value : Reading α).value = value := rfl

@[simp] theorem value_bind (reading : Reading α) (next : α → Reading β) :
    (reading >>= next).value = (next reading.value).value := rfl

def Within (allowed : UInt32 → Prop) (reading : Reading α) : Prop :=
  ∀ address ∈ reading.reads, allowed address

variable {allowed : UInt32 → Prop}

@[simp] theorem within_pure (value : α) : (pure value : Reading α).Within allowed :=
  fun _ hread => absurd hread List.not_mem_nil

theorem within_bind {reading : Reading α} {next : α → Reading β} :
    (reading >>= next).Within allowed ↔
      reading.Within allowed ∧ (next reading.value).Within allowed :=
  List.forall_mem_append

end Reading

open Reading

/-! ## Words -/

def read8 (memory : Memory) (address : UInt32) : Reading UInt8 := ⟨memory address.toNat, [address]⟩

def read32 (memory : Memory) (address : UInt32) : Reading UInt32 := do
  let b0 ← read8 memory address
  let b1 ← read8 memory (address + 1)
  let b2 ← read8 memory (address + 2)
  let b3 ← read8 memory (address + 3)
  return le32 b0 b1 b2 b3

section Words

variable {allowed : UInt32 → Prop} {memory : Memory}

@[simp] theorem value_read8 (memory : Memory) (address : UInt32) :
    (read8 memory address).value = memory address.toNat := rfl

@[simp] theorem within_read8 {address : UInt32} :
    (read8 memory address).Within allowed ↔ allowed address :=
  List.forall_mem_singleton

theorem within_read32 {address : UInt32} :
    (read32 memory address).Within allowed ↔ ∀ offset < 4, allowed (address + UInt32.ofNat offset) := by
  rw [read32]
  simp only [within_bind, within_read8, within_pure, and_true]
  constructor
  · rintro ⟨h0, h1, h2, h3⟩ offset hoffset
    match offset, hoffset with
    | 0, _ => simpa using h0
    | 1, _ => exact h1
    | 2, _ => exact h2
    | 3, _ => exact h3
  · intro h
    have h0 := h 0 (by decide)
    refine ⟨?_, h 1 (by decide), h 2 (by decide), h 3 (by decide)⟩
    simpa using h0

theorem toNat_add_lt {address : UInt32} {offset : Nat} (h : address.toNat + offset < 2 ^ 32) :
    (address + UInt32.ofNat offset).toNat = address.toNat + offset := by
  rw [toNat_add_ofNat, Nat.mod_eq_of_lt h]

theorem value_read32 {address : UInt32} (h : address.toNat + 4 ≤ 2 ^ 32) :
    (read32 memory address).value =
      le32 (memory address.toNat) (memory (address.toNat + 1)) (memory (address.toNat + 2))
        (memory (address.toNat + 3)) := by
  have h1 : (address + 1).toNat = address.toNat + 1 := @toNat_add_lt address 1 (by omega)
  have h2 : (address + 2).toNat = address.toNat + 2 := @toNat_add_lt address 2 (by omega)
  have h3 : (address + 3).toNat = address.toNat + 3 := @toNat_add_lt address 3 (by omega)
  rw [read32]
  simp only [value_bind, value_pure, value_read8, h1, h2, h3]

end Words

/-! ## Strings -/

def strlen (memory : Memory) : Nat → UInt32 → Reading Nat
  | 0, _ => return 0
  | limit + 1, s => do
      let byte ← read8 memory s
      if byte = 0 then return 0
      else
        let length ← strlen memory limit (s + 1)
        return length + 1

def textLength (memory : Memory) : Nat → UInt32 → Nat
  | 0, _ => 0
  | limit + 1, s => if memory s.toNat = 0 then 0 else textLength memory limit (s + 1) + 1

def textSize (memory : Memory) (limit : Nat) (s : UInt32) : Nat :=
  min limit (textLength memory limit s + 1)

def strncmp (memory : Memory) : UInt32 → List UInt8 → Reading Bool
  | _, [] => return true
  | s, char :: chars => do
      let byte ← read8 memory s
      if byte = char then strncmp memory (s + 1) chars else return false

def comparedSize (memory : Memory) : UInt32 → List UInt8 → Nat
  | _, [] => 0
  | s, char :: chars =>
      if memory s.toNat = char then comparedSize memory (s + 1) chars + 1 else 1

def strncpy (memory : Memory) : UInt32 → Nat → Reading (List UInt8)
  | _, 0 => return []
  | s, n + 1 => do
      let byte ← read8 memory s
      if byte = 0 then return List.replicate (n + 1) 0
      else
        let bytes ← strncpy memory (s + 1) n
        return byte :: bytes

def padded (n : Nat) (text : List UInt8) : List UInt8 :=
  text.take n ++ List.replicate (n - text.length) 0

def cText (bytes : List UInt8) : List UInt8 := bytes.takeWhile (· ≠ 0)

theorem zero_not_mem_cText (bytes : List UInt8) : 0 ∉ cText bytes := fun hmem => by
  simpa using List.all_eq_true.1 List.all_takeWhile 0 hmem

private theorem cText_end {text : List UInt8} (h : 0 ∉ text) (rest : List UInt8) :
    cText (text ++ 0 :: rest) = text := by
  have hall : ∀ byte ∈ text, decide (byte ≠ 0) = true := fun byte hbyte =>
    decide_eq_true fun hzero => h (hzero ▸ hbyte)
  rw [cText, List.takeWhile_append_of_pos hall, List.takeWhile_cons_of_neg (by simp),
    List.append_nil]

theorem cText_head {byte first : UInt8} {rest : List UInt8} (h : cText (first :: rest) = [byte]) :
    first = byte := by
  by_cases hfirst : first = 0
  · rw [cText, List.takeWhile_cons_of_neg (by simpa using hfirst)] at h
    exact absurd h (List.cons_ne_nil _ _).symm
  · rw [cText, List.takeWhile_cons_of_pos (by simpa using hfirst)] at h
    exact (List.cons.inj h).1

theorem cText_slice_putBytes (memory : Memory) (start : Nat) {text : List UInt8} {length : Nat}
    (htext : 0 ∉ text) (hlength : text.length < length) :
    cText ((memory.putBytes start (text ++ [0])).slice start length) = text := by
  have hput : (text ++ [0]).length = text.length.succ := by simp
  obtain ⟨rest, rfl⟩ := Nat.exists_eq_add_of_le hlength
  rw [← hput, Memory.slice_putBytes_add, List.append_assoc]
  exact cText_end htext _

def bytesFrom (memory : Memory) : UInt32 → Nat → List UInt8
  | _, 0 => []
  | s, n + 1 => memory s.toNat :: bytesFrom memory (s + 1) n

section Strings

variable {allowed : UInt32 → Prop} {memory : Memory}

theorem bytesFrom_eq_slice {s : UInt32} {n : Nat} (h : s.toNat + n ≤ 2 ^ 32) :
    bytesFrom memory s n = memory.slice s.toNat n := by
  induction n generalizing s with
  | zero => rfl
  | succ n ih =>
      rw [bytesFrom, Memory.slice_succ]
      rcases Nat.eq_zero_or_pos n with rfl | hpos
      · rfl
      · have hnext : (s + 1).toNat = s.toNat + 1 := @toNat_add_lt s 1 (by omega)
        rw [ih (by omega), hnext]

private theorem add_one_add (s : UInt32) (offset : Nat) :
    s + 1 + UInt32.ofNat offset = s + UInt32.ofNat (offset + 1) := by
  rw [UInt32.add_assoc, Nat.add_comm offset, UInt32.ofNat_add]
  rfl

private theorem forall_next {n : Nat} {s : UInt32} :
    (∀ offset < n + 1, allowed (s + UInt32.ofNat offset)) ↔
      allowed s ∧ ∀ offset < n, allowed (s + 1 + UInt32.ofNat offset) := by
  rw [Nat.forall_lt_succ_left]
  simp [add_one_add]

theorem value_strlen_eq (memory : Memory) (limit : Nat) (s : UInt32) :
    (strlen memory limit s).value = textLength memory limit s := by
  induction limit generalizing s with
  | zero => rfl
  | succ limit ih =>
      rw [strlen, value_bind, value_read8, textLength]
      by_cases hend : memory s.toNat = 0 <;> simp [hend, ih]

private theorem textSize_succ (memory : Memory) (limit : Nat) (s : UInt32) :
    textSize memory (limit + 1) s =
      if memory s.toNat = 0 then 1 else textSize memory limit (s + 1) + 1 := by
  rw [textSize, textLength, textSize]
  split <;> omega

theorem within_strlen {limit : Nat} {s : UInt32} :
    (strlen memory limit s).Within allowed ↔
      ∀ offset < textSize memory limit s, allowed (s + UInt32.ofNat offset) := by
  induction limit generalizing s with
  | zero => simp [strlen, textSize]
  | succ limit ih =>
      rw [strlen, within_bind, within_read8, textSize_succ]
      by_cases hend : memory s.toNat = 0
      · simp [hend]
      · rw [if_neg hend, forall_next]
        simp [hend, within_bind, ih]

theorem within_strncpy {n : Nat} {s : UInt32} :
    (strncpy memory s n).Within allowed ↔
      ∀ offset < textSize memory n s, allowed (s + UInt32.ofNat offset) := by
  induction n generalizing s with
  | zero => simp [strncpy, textSize]
  | succ n ih =>
      rw [strncpy, within_bind, within_read8, textSize_succ]
      by_cases hend : memory s.toNat = 0
      · simp [hend]
      · rw [if_neg hend, forall_next]
        simp [hend, within_bind, ih]

theorem within_strncmp {text : List UInt8} {s : UInt32} :
    (strncmp memory s text).Within allowed ↔
      ∀ offset < comparedSize memory s text, allowed (s + UInt32.ofNat offset) := by
  induction text generalizing s with
  | nil => simp [strncmp, comparedSize]
  | cons char chars ih =>
      rw [strncmp, within_bind, within_read8, comparedSize]
      by_cases hsame : memory s.toNat = char
      · rw [if_pos hsame, forall_next]
        simp [hsame, ih]
      · simp [hsame]

theorem textSize_le {limit n : Nat} {s : UInt32} (hend : memory (s + UInt32.ofNat n).toNat = 0) :
    textSize memory limit s ≤ n + 1 := by
  induction n generalizing limit s with
  | zero =>
      rw [show s + UInt32.ofNat 0 = s from UInt32.add_zero s] at hend
      cases limit with
      | zero => exact Nat.zero_le _
      | succ limit => rw [textSize_succ, if_pos hend]
  | succ n ih =>
      cases limit with
      | zero => exact Nat.zero_le _
      | succ limit =>
          rw [← add_one_add] at hend
          have hrest := @ih limit _ hend
          rw [textSize_succ]
          split <;> omega

theorem comparedSize_le {text : List UInt8} {n : Nat} {s : UInt32} (htext : 0 ∉ text)
    (hend : memory (s + UInt32.ofNat n).toNat = 0) : comparedSize memory s text ≤ n + 1 := by
  induction text generalizing n s with
  | nil => exact Nat.zero_le _
  | cons char chars ih =>
      rw [List.mem_cons, not_or] at htext
      rw [comparedSize]
      split
      · next hsame =>
        cases n with
        | zero =>
            rw [show s + UInt32.ofNat 0 = s from UInt32.add_zero s, hsame] at hend
            exact absurd hend.symm htext.1
        | succ n =>
            rw [← add_one_add] at hend
            have hrest := ih htext.2 hend
            omega
      · omega

theorem value_strlen {limit : Nat} {s : UInt32} {text : List UInt8}
    (h : bytesFrom memory s (text.length + 1) = text ++ [0]) (htext : 0 ∉ text)
    (hlimit : text.length < limit) : (strlen memory limit s).value = text.length := by
  induction text generalizing limit s with
  | nil =>
      obtain _ | limit := limit
      · cases hlimit
      · have hend : memory s.toNat = 0 := List.head_eq_of_cons_eq h
        simp [strlen, hend]
  | cons char text ih =>
      obtain _ | limit := limit
      · cases hlimit
      · rw [List.length_cons, bytesFrom, List.cons_append] at h
        obtain ⟨hchar, hrest⟩ := List.cons.inj h
        rw [List.mem_cons, not_or] at htext
        have hne : memory s.toNat ≠ 0 := by
          rw [hchar]
          exact Ne.symm htext.1
        rw [List.length_cons] at hlimit
        have hlength := ih hrest htext.2 (Nat.lt_of_succ_lt_succ hlimit)
        simp [strlen, hne, hlength]

theorem value_strncmp {text : List UInt8} {s : UInt32} :
    (strncmp memory s text).value = true ↔ bytesFrom memory s text.length = text := by
  induction text generalizing s with
  | nil => simp [strncmp, bytesFrom]
  | cons char chars ih =>
      rw [strncmp, value_bind, value_read8, List.length_cons, bytesFrom]
      by_cases hsame : memory s.toNat = char
      · simp [hsame, ih]
      · simp [hsame]

theorem value_strncmp_prefix {name text : List UInt8} {s : UInt32}
    (h : bytesFrom memory s (name.length + 1) = name ++ [0]) (htext : 0 ∉ text) :
    (strncmp memory s text).value = true ↔ text <+: name := by
  induction text generalizing s name with
  | nil => simp [strncmp]
  | cons char chars ih =>
      rw [List.mem_cons, not_or] at htext
      rw [strncmp, value_bind, value_read8]
      cases name with
      | nil =>
          have hend : memory s.toNat = 0 := List.head_eq_of_cons_eq h
          simp [hend, htext.1]
      | cons first name =>
          rw [List.length_cons, bytesFrom, List.cons_append] at h
          obtain ⟨hfirst, hrest⟩ := List.cons.inj h
          rw [hfirst, List.cons_prefix_cons]
          by_cases hsame : first = char
          · simp [hsame, ih hrest htext.2]
          · simp [hsame, Ne.symm hsame]

theorem value_strncpy {n : Nat} {s : UInt32} {text : List UInt8}
    (h : bytesFrom memory s (text.length + 1) = text ++ [0]) :
    (strncpy memory s n).value = padded n (cText text) := by
  induction n generalizing s text with
  | zero => simp [strncpy, padded]
  | succ n ih =>
      cases text with
      | nil =>
          have hend : memory s.toNat = 0 := List.head_eq_of_cons_eq h
          simp [strncpy, hend, padded, cText]
      | cons char text =>
          rw [List.length_cons, bytesFrom, List.cons_append] at h
          obtain ⟨hchar, hrest⟩ := List.cons.inj h
          by_cases hend : char = 0
          · simp [strncpy, hchar, hend, padded, cText]
          · simp [strncpy, hchar, hend, padded, cText, ih hrest]

end Strings

end Vmr.Lib
