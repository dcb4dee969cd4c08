import Vmr.Lib.Memory

/-!
# NOR flash

Programming a cell clears bits and never sets one; erasing sets all of them.
Programming the same data twice is the same as programming it once, and erased
cells take the data as it is.
-/

namespace Vmr.Lib.Memory

def program (flash : Memory) (addr len : Nat) (data : Nat → UInt8) : Memory :=
  fun a => if addr ≤ a ∧ a < addr + len then flash a &&& data (a - addr) else flash a

def erase (flash : Memory) (addr len : Nat) : Memory :=
  fun a => if addr ≤ a ∧ a < addr + len then 0xFF else flash a

def Blank (flash : Memory) (addr len : Nat) : Prop :=
  ∀ a, addr ≤ a → a < addr + len → flash a = 0xFF

@[simp] theorem full_and (byte : UInt8) : (0xFF : UInt8) &&& byte = byte := by
  apply UInt8.toBitVec_inj.1
  rw [UInt8.toBitVec_and]
  exact BitVec.allOnes_and

@[simp] theorem and_full (byte : UInt8) : byte &&& (0xFF : UInt8) = byte := by
  rw [UInt8.and_comm, full_and]

theorem program_inside (flash : Memory) {addr len offset : Nat} (data : Nat → UInt8)
    (h : offset < len) :
    flash.program addr len data (addr + offset) = flash (addr + offset) &&& data offset := by
  rw [program, if_pos (by omega), Nat.add_sub_cancel_left]

theorem program_outside (flash : Memory) {addr len a : Nat} (data : Nat → UInt8)
    (h : a < addr ∨ addr + len ≤ a) : flash.program addr len data a = flash a := by
  rw [program, if_neg (by omega)]

@[simp] theorem program_zero (flash : Memory) (addr : Nat) (data : Nat → UInt8) :
    flash.program addr 0 data = flash :=
  funext fun a => flash.program_outside data (by omega)

theorem program_add (flash : Memory) (addr first second : Nat) (data : Nat → UInt8) :
    flash.program addr (first + second) data =
      (flash.program addr first data).program (addr + first) second
        fun offset => data (first + offset) := by
  funext a
  rcases Nat.lt_or_ge a (addr + first) with hlt | hge
  · rw [program_outside _ _ (.inl hlt), program, program]
    by_cases hlow : addr ≤ a
    · rw [if_pos (by omega), if_pos (by omega)]
    · rw [if_neg (by omega), if_neg (by omega)]
  · rw [program, program, program_outside _ _ (.inr hge)]
    by_cases hhigh : a < addr + first + second
    · rw [if_pos (by omega), if_pos (by omega), Nat.sub_add_eq,
        Nat.add_sub_cancel' (by omega : first ≤ a - addr)]
    · rw [if_neg (by omega), if_neg (by omega)]

theorem program_congr (flash : Memory) {addr len : Nat} {data data' : Nat → UInt8}
    (h : ∀ offset < len, data offset = data' offset) :
    flash.program addr len data = flash.program addr len data' := by
  funext a
  rw [program, program]
  split
  · rw [h _ (by omega)]
  · rfl

theorem program_blank {flash : Memory} {addr len offset : Nat} (data : Nat → UInt8)
    (hblank : flash.Blank addr len) (h : offset < len) :
    flash.program addr len data (addr + offset) = data offset := by
  rw [program_inside _ _ h, hblank _ (by omega) (by omega), full_and]

theorem erase_inside (flash : Memory) {addr len a : Nat} (hlow : addr ≤ a)
    (hhigh : a < addr + len) : flash.erase addr len a = 0xFF := by
  rw [erase, if_pos ⟨hlow, hhigh⟩]

theorem erase_outside (flash : Memory) {addr len a : Nat} (h : a < addr ∨ addr + len ≤ a) :
    flash.erase addr len a = flash a := by
  rw [erase, if_neg (by omega)]

theorem blank_erase (flash : Memory) (addr len : Nat) : (flash.erase addr len).Blank addr len :=
  fun _ => flash.erase_inside

@[simp] theorem erase_zero (flash : Memory) (addr : Nat) : flash.erase addr 0 = flash :=
  funext fun a => flash.erase_outside (by omega)

theorem erase_add (flash : Memory) (addr first second : Nat) :
    flash.erase addr (first + second) = (flash.erase addr first).erase (addr + first) second := by
  funext a
  simp only [erase]
  by_cases hsecond : addr + first ≤ a ∧ a < addr + first + second
  · rw [if_pos hsecond, if_pos (by omega)]
  · rw [if_neg hsecond]
    by_cases hfirst : addr ≤ a ∧ a < addr + first
    · rw [if_pos hfirst, if_pos (by omega)]
    · rw [if_neg hfirst, if_neg (by omega)]

theorem Blank.sub {flash : Memory} {addr len addr' len' : Nat} (h : flash.Blank addr len)
    (hlow : addr ≤ addr') (hhigh : addr' + len' ≤ addr + len) : flash.Blank addr' len' :=
  fun a hstart hend => h a (by omega) (by omega)

end Vmr.Lib.Memory
