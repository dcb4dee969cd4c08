import Vmr.Lib.Cell

/-!
# A bus that remembers what was written

The addresses of the bus have 32 bits and wrap.  Beside its memory a bus keeps
the addresses that were written, the last one first.  A block of bytes is
written byte by byte; it stays inside a window exactly when both of its ends do.
-/

namespace Vmr.Lib

structure Bus where
  memory : Memory
  written : List Nat

def Covers (addr : UInt32) (length address : Nat) : Prop :=
  ∃ offset < length, address = (addr.toNat + offset) % 2 ^ 32

@[simp] theorem not_covers_zero (addr : UInt32) (address : Nat) : ¬ Covers addr 0 address := by
  rintro ⟨offset, hoffset, _⟩
  exact absurd hoffset (Nat.not_lt_zero offset)

theorem toNat_add_ofNat (addr : UInt32) (offset : Nat) :
    (addr + UInt32.ofNat offset).toNat = (addr.toNat + offset) % 2 ^ 32 := by
  simp [UInt32.toNat_add]

theorem covers_add {addr : UInt32} {first second address : Nat} :
    Covers addr (first + second) address ↔
      Covers addr first address ∨ Covers (addr + UInt32.ofNat first) second address := by
  constructor
  · rintro ⟨offset, hoffset, rfl⟩
    rcases Nat.lt_or_ge offset first with hlt | hge
    · exact .inl ⟨offset, hlt, rfl⟩
    · refine .inr ⟨offset - first, by omega, ?_⟩
      rw [toNat_add_ofNat]
      omega
  · rintro (⟨offset, hoffset, rfl⟩ | ⟨offset, hoffset, rfl⟩)
    · exact ⟨offset, by omega, rfl⟩
    · refine ⟨first + offset, by omega, ?_⟩
      rw [toNat_add_ofNat]
      omega

theorem covers_one {addr : UInt32} {address : Nat} :
    Covers addr 1 address ↔ address = addr.toNat := by
  have hlt := addr.toNat_lt
  constructor
  · rintro ⟨offset, hoffset, rfl⟩
    omega
  · rintro rfl
    exact ⟨0, by omega, by omega⟩

theorem covers_succ {addr : UInt32} {length address : Nat} :
    Covers addr (length + 1) address ↔
      address = addr.toNat ∨ Covers (addr + 1) length address := by
  rw [Nat.add_comm, covers_add, covers_one]
  rfl

theorem covers_inside_iff {addr : UInt32} {length low high : Nat} (hhigh : high < 2 ^ 32) :
    (∀ address, Covers addr length address → low ≤ address ∧ address < high) ↔
      length = 0 ∨ (low ≤ addr.toNat ∧ addr.toNat + length ≤ high) := by
  have hlt := addr.toNat_lt
  constructor
  · intro hinside
    rcases Nat.eq_zero_or_pos length with hzero | hpos
    · exact .inl hzero
    · have hfirst := hinside addr.toNat ⟨0, hpos, by omega⟩
      refine .inr ⟨hfirst.1, ?_⟩
      by_contra hlong
      have hbehind := hinside high ⟨high - addr.toNat, by omega, by omega⟩
      exact Nat.lt_irrefl _ hbehind.2
  · rintro (rfl | ⟨hlow, hlong⟩) address hcovers
    · exact absurd hcovers (not_covers_zero addr address)
    · obtain ⟨offset, hoffset, rfl⟩ := hcovers
      omega

namespace Bus

def read8 (bus : Bus) (addr : UInt32) : UInt8 := bus.memory addr.toNat

def write8 (bus : Bus) (addr : UInt32) (value : UInt8) : Bus where
  memory := Function.update bus.memory addr.toNat value
  written := addr.toNat :: bus.written

def writeBytes (bus : Bus) : UInt32 → List UInt8 → Bus
  | _, [] => bus
  | addr, byte :: bytes => writeBytes (bus.write8 addr byte) (addr + 1) bytes

def write32 (bus : Bus) (addr : UInt32) (word : UInt32) : Bus :=
  bus.writeBytes addr ((List.range 4).map (byteAt word.toNat))

def view (bus : Bus) (addr : UInt32) : Memory := fun offset => bus.read8 (addr + UInt32.ofNat offset)

def read32 (bus : Bus) (addr : UInt32) : UInt32 := (bus.view addr).load32 0

def copy (bus : Bus) : UInt32 → UInt32 → Nat → Bus
  | _, _, 0 => bus
  | target, source, length + 1 =>
      copy (bus.write8 target (bus.read8 source)) (target + 1) (source + 1) length

@[simp] theorem writeBytes_nil (bus : Bus) (addr : UInt32) : bus.writeBytes addr [] = bus := rfl

theorem writeBytes_append (bus : Bus) (addr : UInt32) (bytes bytes' : List UInt8) :
    bus.writeBytes addr (bytes ++ bytes') =
      (bus.writeBytes addr bytes).writeBytes (addr + UInt32.ofNat bytes.length) bytes' := by
  induction bytes generalizing bus addr with
  | nil => simp
  | cons byte bytes ih =>
      rw [List.cons_append, writeBytes, ih, writeBytes, List.length_cons, Nat.add_comm,
        UInt32.ofNat_add, UInt32.add_assoc]
      rfl

theorem view_add (bus : Bus) (addr : UInt32) (first : Nat) :
    bus.view (addr + UInt32.ofNat first) = fun offset => bus.view addr (first + offset) := by
  funext offset
  rw [view, view, UInt32.ofNat_add, UInt32.add_assoc]

theorem view_inside (bus : Bus) {addr : UInt32} {offset : Nat}
    (hfits : addr.toNat + offset < 2 ^ 32) :
    bus.view addr offset = bus.memory (addr.toNat + offset) := by
  rw [view, read8, toNat_add_ofNat, Nat.mod_eq_of_lt hfits]

theorem mem_written_write8 {bus : Bus} {addr : UInt32} {value : UInt8} {address : Nat} :
    address ∈ (bus.write8 addr value).written ↔ address = addr.toNat ∨ address ∈ bus.written :=
  List.mem_cons

theorem mem_written_writeBytes {bus : Bus} {addr : UInt32} {bytes : List UInt8} {address : Nat} :
    address ∈ (bus.writeBytes addr bytes).written ↔
      Covers addr bytes.length address ∨ address ∈ bus.written := by
  induction bytes generalizing bus addr with
  | nil => simp
  | cons byte bytes ih =>
      rw [writeBytes, ih, mem_written_write8, List.length_cons, covers_succ]
      exact or_left_comm.trans or_assoc.symm

theorem mem_written_copy {bus : Bus} {target source : UInt32} {length address : Nat} :
    address ∈ (bus.copy target source length).written ↔
      Covers target length address ∨ address ∈ bus.written := by
  induction length generalizing bus target source with
  | zero => simp [copy]
  | succ length ih =>
      rw [copy, ih, mem_written_write8, covers_succ]
      exact or_left_comm.trans or_assoc.symm

theorem writeBytes_outside (bus : Bus) {addr : UInt32} {bytes : List UInt8}
    (hfits : addr.toNat + bytes.length ≤ 2 ^ 32) {address : Nat} (h : address < addr.toNat) :
    (bus.writeBytes addr bytes).memory address = bus.memory address := by
  induction bytes generalizing bus addr with
  | nil => rfl
  | cons byte bytes ih =>
      rw [List.length_cons] at hfits
      rw [writeBytes]
      cases bytes with
      | nil => exact Function.update_of_ne (Nat.ne_of_lt h) _ _
      | cons next bytes =>
          rw [List.length_cons] at hfits
          have hnext : (addr + 1).toNat = addr.toNat + 1 := by
            rw [UInt32.toNat_add]
            exact Nat.mod_eq_of_lt (by simp only [UInt32.reduceToNat]; omega)
          rw [ih _ (by rw [hnext, List.length_cons]; omega) (by omega)]
          exact Function.update_of_ne (Nat.ne_of_lt h) _ _

theorem slice_writeBytes (bus : Bus) {addr : UInt32} {bytes : List UInt8}
    (hfits : addr.toNat + bytes.length ≤ 2 ^ 32) :
    (bus.writeBytes addr bytes).memory.slice addr.toNat bytes.length = bytes := by
  induction bytes generalizing bus addr with
  | nil => rfl
  | cons byte bytes ih =>
      rw [List.length_cons] at hfits
      rw [writeBytes, List.length_cons, Memory.slice_succ]
      cases bytes with
      | nil => exact congrArg (· :: []) (Function.update_self _ _ _)
      | cons next bytes =>
          rw [List.length_cons] at hfits
          have hnext : (addr + 1).toNat = addr.toNat + 1 := by
            rw [UInt32.toNat_add]
            exact Nat.mod_eq_of_lt (by simp only [UInt32.reduceToNat]; omega)
          have hfits' : (addr + 1).toNat + (next :: bytes).length ≤ 2 ^ 32 := by
            rw [hnext, List.length_cons]
            omega
          rw [← hnext, ih _ hfits', writeBytes_outside _ hfits' (by omega)]
          exact congrArg (· :: _) (Function.update_self _ _ _)

theorem memory_writeBytes (bus : Bus) {addr : UInt32} (buf : Memory) (start : Nat) {length : Nat}
    (hfits : addr.toNat + length ≤ 2 ^ 32) :
    (bus.writeBytes addr (buf.slice start length)).memory =
      bus.memory.store addr.toNat length fun offset => buf (start + offset) := by
  induction length generalizing bus addr start with
  | zero => rw [Memory.slice_zero, writeBytes_nil, Memory.store_zero]
  | succ length ih =>
      have hfirst : (bus.write8 addr (buf start)).memory =
          bus.memory.store addr.toNat 1 fun offset => buf (start + offset) :=
        bus.memory.update_eq_store addr.toNat fun offset => buf (start + offset)
      rw [Memory.slice_succ, writeBytes]
      cases length with
      | zero => exact hfirst
      | succ length =>
          have hnext : (addr + 1).toNat = addr.toNat + 1 := by
            rw [UInt32.toNat_add]
            exact Nat.mod_eq_of_lt (by simp only [UInt32.reduceToNat]; omega)
          have hjoin := bus.memory.store_add addr.toNat 1 (length + 1)
            fun offset => buf (start + offset)
          rw [ih _ (start + 1) (by omega), hfirst, hnext, Nat.add_comm (length + 1), ← hjoin]
          simp only [Nat.add_assoc]

theorem memory_write32 (bus : Bus) {addr : UInt32} (word : UInt32)
    (hfits : addr.toNat + 4 ≤ 2 ^ 32) :
    (bus.write32 addr word).memory = bus.memory.store32 addr.toNat word := by
  have hbytes : (List.range 4).map (byteAt word.toNat) = Memory.slice (byteAt word.toNat) 0 4 := rfl
  rw [write32, hbytes, memory_writeBytes _ _ _ hfits, Memory.store32]
  exact Memory.store_congr _ fun offset _ => by rw [Nat.zero_add]

theorem read32_eq (bus : Bus) {addr : UInt32} (hfits : addr.toNat + 4 ≤ 2 ^ 32) :
    bus.read32 addr = bus.memory.load32 addr.toNat := by
  refine congrArg UInt32.ofNat (Memory.number_shift fun offset hoffset => ?_)
  rw [Nat.zero_add, view_inside bus (by omega)]

/-! ## Copies that run into themselves -/

def distance (target source : UInt32) : Nat := (target - source).toNat

/-- The bytes from `source` on repeat those in front of them, so far back as the target lies
behind. -/
def Repeats (bus : Bus) (target source : UInt32) (length : Nat) : Prop :=
  ∀ offset, distance target source ≤ offset → offset < length →
    bus.view source offset = bus.view source (offset - distance target source)

theorem memory_write8 (bus : Bus) (addr : UInt32) (value : UInt8) :
    (bus.write8 addr value).memory = Function.update bus.memory addr.toNat value := rfl

theorem copy_succ (bus : Bus) (target source : UInt32) (length : Nat) :
    bus.copy target source (length + 1) =
      (bus.copy target source length).write8 (target + UInt32.ofNat length)
        ((bus.copy target source length).view source length) := by
  induction length generalizing bus target source with
  | zero => simp [copy, view]
  | succ length ih =>
      rw [copy, ih, view, view, UInt32.add_assoc, UInt32.add_assoc, ← UInt32.ofNat_one,
        ← UInt32.ofNat_add, Nat.add_comm 1]
      rfl

theorem copy_outside (bus : Bus) {target source : UInt32} {length address : Nat}
    (h : ¬ Covers target length address) :
    (bus.copy target source length).memory address = bus.memory address := by
  induction length with
  | zero => rfl
  | succ length ih =>
      rw [covers_add, not_or, covers_one] at h
      rw [copy_succ, memory_write8, Function.update_of_ne h.2, ih h.1]

theorem copy_inside (bus : Bus) {target source : UInt32} {length : Nat}
    (hfits : target.toNat + length ≤ 2 ^ 32) {offset : Nat} (hoffset : offset < length) :
    (bus.copy target source length).memory (target.toNat + offset) =
      bus.view source (offset % distance target source) := by
  induction length generalizing offset with
  | zero => exact absurd hoffset (Nat.not_lt_zero offset)
  | succ length ih =>
      have hlast : (target + UInt32.ofNat length).toNat = target.toNat + length := by
        rw [toNat_add_ofNat]
        exact Nat.mod_eq_of_lt (by omega)
      rw [copy_succ, memory_write8, hlast]
      rcases Nat.lt_or_ge offset length with hlt | hge
      · rw [Function.update_of_ne (by omega), ih (by omega) hlt]
      obtain rfl : offset = length := by omega
      rw [Function.update_self, view, read8, toNat_add_ofNat]
      have hsource := source.toNat_lt
      have hdistance : distance target source = (2 ^ 32 - source.toNat + target.toNat) % 2 ^ 32 :=
        UInt32.toNat_sub target source
      by_cases hback : 0 < distance target source ∧ distance target source ≤ offset
      · -- the byte has been written by this copy
        obtain ⟨hpos, hle⟩ := hback
        rw [show (source.toNat + offset) % 2 ^ 32 =
            target.toNat + (offset - distance target source) by omega,
          ih (by omega) (by omega), ← Nat.mod_eq_sub_mod hle]
      · have hmod : offset % distance target source = offset := by
          rcases Nat.eq_zero_or_pos (distance target source) with hzero | hpos
          · rw [hzero, Nat.mod_zero]
          · exact Nat.mod_eq_of_lt (by omega)
        rw [copy_outside, hmod, view, read8, toNat_add_ofNat]
        rintro ⟨before, hbefore, haddress⟩
        omega

theorem Repeats.view_mod {bus : Bus} {target source : UInt32} {length : Nat}
    (h : bus.Repeats target source length) {offset : Nat} (hoffset : offset < length) :
    bus.view source offset = bus.view source (offset % distance target source) := by
  induction offset using Nat.strong_induction_on with
  | _ offset ih =>
      rcases Nat.lt_or_ge offset (distance target source) with hlt | hge
      · rw [Nat.mod_eq_of_lt hlt]
      rcases Nat.eq_zero_or_pos (distance target source) with hzero | hpos
      · rw [hzero, Nat.mod_zero]
      · rw [h offset hge hoffset, ih _ (by omega) (by omega), ← Nat.mod_eq_sub_mod hge]

/-- A copy brings the bytes of the source to the target unless it runs into itself. -/
theorem slice_copy_iff (bus : Bus) {target source : UInt32} {length : Nat}
    (hfits : target.toNat + length ≤ 2 ^ 32) :
    (bus.copy target source length).memory.slice target.toNat length =
        (bus.view source).slice 0 length ↔ bus.Repeats target source length := by
  rw [Memory.slice_eq_slice_iff]
  constructor
  · intro hcopied offset hback hoffset
    have hbefore := hcopied (offset - distance target source) (by omega)
    have hhere := hcopied offset hoffset
    rw [bus.copy_inside hfits hoffset, Nat.zero_add] at hhere
    rw [bus.copy_inside hfits (by omega), Nat.zero_add] at hbefore
    rw [← hhere, ← hbefore, ← Nat.mod_eq_sub_mod hback]
  · intro hrepeats offset hoffset
    rw [bus.copy_inside hfits hoffset, Nat.zero_add, ← hrepeats.view_mod hoffset]

theorem repeats_of_apart {bus : Bus} {target source : UInt32} {length : Nat}
    (h : length ≤ distance target source) : bus.Repeats target source length :=
  fun _ hback hoffset => absurd (Nat.lt_of_lt_of_le hoffset h) (Nat.not_lt.2 hback)

/-! ## What was not written has not changed -/

/-- The writes that lead from one bus to another. -/
inductive Leads : Bus → Bus → Prop
  | refl (bus : Bus) : Leads bus bus
  | write8 {bus bus' : Bus} (addr : UInt32) (value : UInt8) (h : Leads bus bus') :
      Leads bus (bus'.write8 addr value)

theorem Leads.trans {bus bus' bus'' : Bus} (h : Leads bus bus') (h' : Leads bus' bus'') :
    Leads bus bus'' := by
  induction h' with
  | refl => exact h
  | write8 addr value _ ih => exact ih.write8 addr value

theorem leads_writeBytes (bus : Bus) (addr : UInt32) (bytes : List UInt8) :
    Leads bus (bus.writeBytes addr bytes) := by
  induction bytes generalizing bus addr with
  | nil => exact .refl bus
  | cons byte bytes ih => exact (Leads.refl bus).write8 addr byte |>.trans (ih _ _)

theorem leads_copy (bus : Bus) (target source : UInt32) (length : Nat) :
    Leads bus (bus.copy target source length) := by
  induction length generalizing bus target source with
  | zero => exact .refl bus
  | succ length ih => exact (Leads.refl bus).write8 target _ |>.trans (ih _ _ _)

theorem Leads.written {bus bus' : Bus} (h : Leads bus bus') {address : Nat}
    (haddress : address ∈ bus.written) : address ∈ bus'.written := by
  induction h with
  | refl => exact haddress
  | write8 addr value _ ih => exact mem_written_write8.2 (.inr ih)

theorem Leads.unwritten {bus bus' : Bus} (h : Leads bus bus') {address : Nat}
    (haddress : address ∉ bus'.written) : bus'.memory address = bus.memory address := by
  induction h with
  | refl => rfl
  | write8 addr value _ ih =>
      rw [mem_written_write8, not_or] at haddress
      exact (Function.update_of_ne haddress.1 _ _).trans (ih haddress.2)

end Bus

end Vmr.Lib
