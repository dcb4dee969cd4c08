import Mathlib.Algebra.BigOperators.Group.List.Basic
import Vmr.Lib.Memory

/-!
# Printing into a buffer of bounded size

Texts are lists of bytes.  `snprintf` prints as much of a text as fits and
returns the length of the whole text; a sequence of texts is printed one behind
the other until one of them does not fit.
-/

namespace Vmr.Lib

def ascii (text : String) : List UInt8 := text.toList.map fun char => UInt8.ofNat char.toNat

def unsignedDecimal (value : Nat) : List UInt8 :=
  (Nat.toDigits 10 value).map fun char => UInt8.ofNat char.toNat

def signedDecimal (value : Int) : List UInt8 :=
  if value < 0 then ascii "-" ++ unsignedDecimal value.natAbs else unsignedDecimal value.natAbs

def hexadecimal (value : Nat) : List UInt8 :=
  (Nat.toDigits 16 value).map fun char => UInt8.ofNat char.toNat

def padRight (width : Nat) (text : List UInt8) : List UInt8 :=
  text ++ List.replicate (width - text.length) 0x20

def snprintf (buf : Memory) (position size : Nat) (text : List UInt8) : Memory × Nat :=
  (if size = 0 then buf else buf.putBytes position (text.take (size - 1) ++ [0]), text.length)

@[simp] theorem snprintf_count (buf : Memory) (position size : Nat) (text : List UInt8) :
    (snprintf buf position size text).2 = text.length := rfl

def totalLength (texts : List (List UInt8)) : Nat := (texts.map List.length).sum

@[simp] theorem totalLength_nil : totalLength [] = 0 := rfl

@[simp] theorem totalLength_cons (text : List UInt8) (texts : List (List UInt8)) :
    totalLength (text :: texts) = text.length + totalLength texts := by
  simp [totalLength]

def printAll (size : Nat) : List (List UInt8) → Memory → Nat → Memory × Nat
  | [], buf, count => (buf, count)
  | text :: texts, buf, count =>
      let printed := snprintf buf count (size - count) text
      if count + printed.2 > size then (printed.1, size)
      else printAll size texts printed.1 (count + printed.2)

theorem printAll_count {size : Nat} {texts : List (List UInt8)} {buf : Memory} {count : Nat}
    (h : count ≤ size) :
    (printAll size texts buf count).2 = min (count + totalLength texts) size := by
  induction texts generalizing buf count with
  | nil => simp [printAll, h]
  | cons text texts ih =>
      rw [printAll, totalLength_cons]
      have hprinted := snprintf_count buf count (size - count) text
      by_cases hlong : count + (snprintf buf count (size - count) text).2 > size
      · rw [if_pos hlong]
        simp only
        omega
      · rw [if_neg hlong, ih (by omega), hprinted, Nat.add_assoc]

/-- Print the texts until the buffer is full; the count says how long they were up to there.
The room that is left is computed in 32 bits and is large once the buffer is full. -/
def printUntilFull (size : Nat) : List (List UInt8) → Memory → Nat → Memory × Nat
  | [], buf, count => (buf, count)
  | text :: texts, buf, count =>
      let printed := snprintf buf count ((size + 2 ^ 32 - count) % 2 ^ 32) text
      if count + printed.2 ≥ size then (printed.1, count + printed.2)
      else printUntilFull size texts printed.1 (count + printed.2)

theorem printUntilFull_count {size : Nat} {texts : List (List UInt8)} {buf : Memory} {count : Nat} :
    min (printUntilFull size texts buf count).2 size = min (count + totalLength texts) size := by
  induction texts generalizing buf count with
  | nil => simp [printUntilFull]
  | cons text texts ih =>
      rw [printUntilFull, totalLength_cons]
      have hprinted := snprintf_count buf count ((size + 2 ^ 32 - count) % 2 ^ 32) text
      by_cases hfull :
        count + (snprintf buf count ((size + 2 ^ 32 - count) % 2 ^ 32) text).2 ≥ size
      · rw [if_pos hfull, hprinted]
        omega
      · rw [if_neg hfull, ih, hprinted, Nat.add_assoc]

/-! ## What is in the buffer -/

section Printed

variable {size : Nat} {texts : List (List UInt8)} {buf : Memory} {count position : Nat}
  {text : List UInt8}

theorem length_flatten (texts : List (List UInt8)) : texts.flatten.length = totalLength texts :=
  List.length_flatten

theorem snprintf_fits (h : text.length < size) :
    (snprintf buf position size text).1.slice 0 (position + text.length) =
      buf.slice 0 position ++ text := by
  have hwritten := Memory.slice_putBytes buf position (text ++ [0])
  rw [List.length_append, Memory.slice_add] at hwritten
  obtain ⟨htext, -⟩ := List.append_inj hwritten (Memory.length_slice _ _ _)
  rw [snprintf, if_neg (by omega), List.take_of_length_le (by omega), Memory.slice_add, Nat.zero_add,
    htext]
  exact congrArg (· ++ text) (Memory.slice_congr fun a _ ha =>
    Memory.putBytes_outside _ _ (.inl (by omega)))

theorem snprintf_full (h : text.length = size) (hpos : 0 < size) :
    (snprintf buf position size text).1 (position + size - 1) = 0 := by
  have hlength : (text.take (size - 1)).length = size - 1 := by
    rw [List.length_take]
    omega
  have hwritten := Memory.slice_putBytes buf position (text.take (size - 1) ++ [0])
  rw [List.length_append, Memory.slice_add] at hwritten
  obtain ⟨-, hend⟩ := List.append_inj hwritten (Memory.length_slice _ _ _)
  rw [hlength] at hend
  rw [snprintf, if_neg (by omega), show position + size - 1 = position + (size - 1) by omega]
  exact List.head_eq_of_cons_eq hend

theorem printUntilFull_fits (hsize : size < 2 ^ 32) (h : count + totalLength texts < size) :
    (printUntilFull size texts buf count).1.slice 0 (count + totalLength texts) =
      buf.slice 0 count ++ texts.flatten := by
  induction texts generalizing buf count with
  | nil => exact (List.append_nil _).symm
  | cons text texts ih =>
      rw [totalLength_cons] at h ⊢
      have hroom : (size + 2 ^ 32 - count) % 2 ^ 32 = size - count := by omega
      have hprinted := snprintf_count buf count (size - count) text
      have hfits := @snprintf_fits (size - count) buf count text (by omega)
      rw [printUntilFull, hroom]
      rw [hprinted, if_neg (by omega), ← Nat.add_assoc, ih (by omega), hfits, List.flatten_cons,
        List.append_assoc]

theorem printUntilFull_full (hsize : size < 2 ^ 32) (hcount : count < size)
    (h : count + totalLength texts = size) : (printUntilFull size texts buf count).1 (size - 1) = 0 := by
  induction texts generalizing buf count with
  | nil => exact absurd h (Nat.ne_of_lt hcount)
  | cons text texts ih =>
      rw [totalLength_cons] at h
      have hroom : (size + 2 ^ 32 - count) % 2 ^ 32 = size - count := by omega
      have hprinted := snprintf_count buf count (size - count) text
      rw [printUntilFull, hroom]
      rw [hprinted]
      by_cases hlast : count + text.length ≥ size
      · rw [if_pos hlast]
        have hend := @snprintf_full (size - count) buf count text (by omega) (by omega)
        rwa [show count + (size - count) - 1 = size - 1 by omega] at hend
      · rw [if_neg hlast]
        exact ih (by omega) (by omega)

end Printed

/-! ## The calls of a chain -/

structure PrintCall where
  offset : UInt32
  room : UInt32
  text : List UInt8

/-- The call starts in a buffer of this size or at its end, and is given what is left of it. -/
structure PrintCall.Inside (size : UInt32) (call : PrintCall) : Prop where
  offset_le : call.offset ≤ size
  room_eq : call.offset.toNat + call.room.toNat = size.toNat

/-- Each text is printed behind the texts before it until the count tells that the buffer is full;
`last` is what is then returned of the count. -/
def printChain (size : UInt32) (full : UInt32 → Bool) (last : UInt32 → UInt32) :
    List (List UInt8) → UInt32 → List PrintCall × UInt32
  | [], count => ([], count)
  | text :: texts, count =>
      let call : PrintCall := ⟨count, size - count, text⟩
      let count := count + UInt32.ofNat text.length
      if full count = true then ([call], last count)
      else
        let rest := printChain size full last texts count
        (call :: rest.1, rest.2)

def replay (buf : Memory) (calls : List PrintCall) : Memory :=
  calls.foldl (fun buf call => (snprintf buf call.offset.toNat call.room.toNat call.text).1) buf

section Chain

variable {size count : UInt32} {full : UInt32 → Bool} {last : UInt32 → UInt32}
  {texts : List (List UInt8)}

theorem inside_of_le (text : List UInt8) (h : count ≤ size) :
    PrintCall.Inside size ⟨count, size - count, text⟩ := by
  refine ⟨h, ?_⟩
  rw [UInt32.toNat_sub_of_le _ _ h]
  exact Nat.add_sub_of_le (UInt32.le_iff_toNat_le.1 h)

theorem inside_printChain (hfull : ∀ count, full count = false → count ≤ size) (h : count ≤ size) :
    ∀ call ∈ (printChain size full last texts count).1, call.Inside size := by
  induction texts generalizing count with
  | nil => simp [printChain]
  | cons text texts ih =>
      have hfirst := inside_of_le text h
      rw [printChain]
      cases hstop : full (count + UInt32.ofNat text.length) with
      | true =>
          intro call hcall
          rw [if_pos rfl, List.mem_singleton] at hcall
          rwa [hcall]
      | false =>
          intro call hcall
          rw [if_neg Bool.false_ne_true] at hcall
          rcases List.mem_cons.1 hcall with rfl | hrest
          · exact hfirst
          · exact ih (hfull _ hstop) call hrest

theorem printChain_count_le (hfull : ∀ count, full count = false → count ≤ size)
    (hlast : ∀ count, last count ≤ size) (h : count ≤ size) :
    (printChain size full last texts count).2 ≤ size := by
  induction texts generalizing count with
  | nil => exact h
  | cons text texts ih =>
      rw [printChain]
      cases hstop : full (count + UInt32.ofNat text.length) with
      | true =>
          rw [if_pos rfl]
          exact hlast _
      | false =>
          rw [if_neg Bool.false_ne_true]
          exact ih (hfull _ hstop)

end Chain

/-! ### The chains with a buffer -/

section Replay

variable {size count : Nat} {texts : List (List UInt8)}

private theorem toNat_ofNat_room (hsize : size < 2 ^ 32) (hcount : count < 2 ^ 32) :
    (UInt32.ofNat size - UInt32.ofNat count).toNat = (size + 2 ^ 32 - count) % 2 ^ 32 := by
  rw [UInt32.toNat_sub, UInt32.toNat_ofNat_of_lt' hsize, UInt32.toNat_ofNat_of_lt' hcount]
  omega

private theorem ofNat_le_ofNat (hsize : size < 2 ^ 32) (hcount : count < 2 ^ 32) :
    UInt32.ofNat size ≤ UInt32.ofNat count ↔ size ≤ count := by
  rw [UInt32.le_iff_toNat_le, UInt32.toNat_ofNat_of_lt' hsize, UInt32.toNat_ofNat_of_lt' hcount]

private theorem ofNat_lt_ofNat (hsize : size < 2 ^ 32) (hcount : count < 2 ^ 32) :
    UInt32.ofNat size < UInt32.ofNat count ↔ size < count := by
  rw [UInt32.lt_iff_toNat_lt, UInt32.toNat_ofNat_of_lt' hsize, UInt32.toNat_ofNat_of_lt' hcount]

@[simp] theorem replay_nil (buf : Memory) : replay buf [] = buf := rfl

@[simp] theorem replay_cons (buf : Memory) (call : PrintCall) (calls : List PrintCall) :
    replay buf (call :: calls) =
      replay (snprintf buf call.offset.toNat call.room.toNat call.text).1 calls := rfl

theorem printUntilFull_eq (buf : Memory) (hsize : size < 2 ^ 32)
    (h : count + totalLength texts < 2 ^ 32) :
    let chain := printChain (UInt32.ofNat size) (fun count => UInt32.ofNat size ≤ count) id texts
      (UInt32.ofNat count)
    printUntilFull size texts buf count = (replay buf chain.1, chain.2.toNat) := by
  induction texts generalizing buf count with
  | nil =>
      have hvalue : (UInt32.ofNat count).toNat = count := UInt32.toNat_ofNat_of_lt' h
      simp only [printUntilFull, printChain, replay_nil, hvalue]
  | cons text texts ih =>
      rw [totalLength_cons, ← Nat.add_assoc] at h
      have hcount : count < 2 ^ 32 := by omega
      have hnext : count + text.length < 2 ^ 32 := by omega
      have hroom := toNat_ofNat_room hsize hcount
      rw [printUntilFull, printChain, ← UInt32.ofNat_add]
      generalize (size + 2 ^ 32 - count) % 2 ^ 32 = room at hroom ⊢
      simp only [snprintf_count, decide_eq_true_eq, ofNat_le_ofNat hsize hnext, ge_iff_le]
      by_cases hstop : size ≤ count + text.length
      · rw [if_pos hstop, if_pos hstop, replay_cons, replay_nil]
        simp only [hroom, UInt32.toNat_ofNat_of_lt' hcount, id_eq, UInt32.toNat_ofNat_of_lt' hnext]
      · rw [if_neg hstop, if_neg hstop, replay_cons]
        simp only [hroom, UInt32.toNat_ofNat_of_lt' hcount]
        exact ih _ h

theorem printAll_eq (buf : Memory) (hsize : size < 2 ^ 32) (hle : count ≤ size)
    (h : count + totalLength texts < 2 ^ 32) :
    let chain := printChain (UInt32.ofNat size) (fun count => UInt32.ofNat size < count)
      (fun _ => UInt32.ofNat size) texts (UInt32.ofNat count)
    printAll size texts buf count = (replay buf chain.1, chain.2.toNat) := by
  induction texts generalizing buf count with
  | nil =>
      have hvalue : (UInt32.ofNat count).toNat = count := UInt32.toNat_ofNat_of_lt' h
      simp only [printAll, printChain, replay_nil, hvalue]
  | cons text texts ih =>
      rw [totalLength_cons, ← Nat.add_assoc] at h
      have hcount : count < 2 ^ 32 := by omega
      have hnext : count + text.length < 2 ^ 32 := by omega
      have hroom : (size + 2 ^ 32 - count) % 2 ^ 32 = size - count := by omega
      rw [printAll, printChain, ← UInt32.ofNat_add]
      simp only [snprintf_count, decide_eq_true_eq, ofNat_lt_ofNat hsize hnext, gt_iff_lt]
      split
      · simp only [replay_cons, replay_nil, UInt32.toNat_ofNat_of_lt' hsize,
          UInt32.toNat_ofNat_of_lt' hcount, toNat_ofNat_room hsize hcount, hroom]
      · simp only [replay_cons, UInt32.toNat_ofNat_of_lt' hcount, toNat_ofNat_room hsize hcount,
          hroom]
        exact ih _ (by omega) h

end Replay

end Vmr.Lib
