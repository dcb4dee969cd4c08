import Vmr.Lib.Bus

/-!
# Shared memory and the copies into it

The addresses of the shared memory of the RPU, and the copy functions of
`cl_io.h`.  Each copy is the same as writing its bytes one after another.
-/

namespace Vmr.Shm

open Vmr.Lib

def vmrEpRpuSharedMemoryStart : UInt32 := 0x38000000
def vmrEpRpuSharedMemoryEnd : UInt32 := 0x3FFFF000

def rpuSharedMemoryAddr (offset : UInt32) : UInt32 := vmrEpRpuSharedMemoryStart + offset

/-- A `size_t` that is returned as an `int`. -/
def asInt (size : Nat) : Int := (UInt32.ofNat size).toBitVec.toInt

/-! ## To the bus -/

def copyWords (buf : Memory) : UInt32 → Nat → Nat → Bus → Bus
  | _, _, 0, bus => bus
  | dst, start, words + 1, bus =>
      copyWords buf (dst + 4) (start + 4) words (bus.write32 dst (buf.load32 start))

def clMemcpyToio32 (dst : UInt32) (buf : Memory) (start len : Nat) (bus : Bus) : Int × Bus :=
  if len % 4 ≠ 0 then (-1, bus) else (asInt len, copyWords buf dst start (len / 4) bus)

def copyBytes (buf : Memory) : UInt32 → Nat → Nat → Bus → Bus
  | _, _, 0, bus => bus
  | dst, start, bytes + 1, bus =>
      copyBytes buf (dst + 1) (start + 1) bytes (bus.write8 dst (buf start))

def clMemcpyToio8 (dst : UInt32) (buf : Memory) (start len : Nat) (bus : Bus) : Int × Bus :=
  (asInt len, copyBytes buf dst start len bus)

def clMemcpyToio (dst : UInt32) (buf : Memory) (len : Nat) (bus : Bus) : Int × Bus :=
  -- the bytes behind the last whole word are written one by one
  let lastTrunkSize := len % 4
  let (ret, bus) := clMemcpyToio32 dst buf 0 (len - lastTrunkSize) bus
  -- what was returned is compared as an unsigned number
  if UInt32.ofInt ret ≠ UInt32.ofNat (len - lastTrunkSize) then (ret, bus)
  else if lastTrunkSize ≠ 0 then
    let (ret, bus) := clMemcpyToio8 (dst + UInt32.ofNat (len - lastTrunkSize)) buf
      (len - lastTrunkSize) lastTrunkSize bus
    if UInt32.ofInt ret ≠ UInt32.ofNat lastTrunkSize then (ret, bus) else (asInt len, bus)
  else (asInt len, bus)

def clMemcpy (dstAddr srcAddr : UInt32) (n : Nat) (bus : Bus) : Bus := bus.copy dstAddr srcAddr n

/-! ## From the bus -/

def fetchWords (bus : Bus) : UInt32 → Nat → Nat → Memory → Memory
  | _, _, 0, buf => buf
  | src, start, words + 1, buf =>
      fetchWords bus (src + 4) (start + 4) words (buf.store32 start (bus.read32 src))

def clMemcpyFromio32 (src : UInt32) (buf : Memory) (start len : Nat) (bus : Bus) : Int × Memory :=
  if len % 4 ≠ 0 then (-1, buf) else (asInt len, fetchWords bus src start (len / 4) buf)

def fetchBytes (bus : Bus) : UInt32 → Nat → Nat → Memory → Memory
  | _, _, 0, buf => buf
  | src, start, bytes + 1, buf =>
      fetchBytes bus (src + 1) (start + 1) bytes (Function.update buf start (bus.read8 src))

def clMemcpyFromio8 (src : UInt32) (buf : Memory) (start len : Nat) (bus : Bus) : Int × Memory :=
  (asInt len, fetchBytes bus src start len buf)

def clMemcpyFromio (src : UInt32) (buf : Memory) (len : Nat) (bus : Bus) : Int × Memory :=
  let lastTrunkSize := len % 4
  let (ret, buf) := clMemcpyFromio32 src buf 0 (len - lastTrunkSize) bus
  if UInt32.ofInt ret ≠ UInt32.ofNat (len - lastTrunkSize) then (ret, buf)
  else if lastTrunkSize ≠ 0 then
    let (ret, buf) := clMemcpyFromio8 (src + UInt32.ofNat (len - lastTrunkSize)) buf
      (len - lastTrunkSize) lastTrunkSize bus
    if UInt32.ofInt ret ≠ UInt32.ofNat lastTrunkSize then (ret, buf) else (asInt len, buf)
  else (asInt len, buf)

/-! ## What a copy writes -/

private theorem copyWords_eq (buf : Memory) (dst : UInt32) (start words : Nat) (bus : Bus) :
    copyWords buf dst start words bus = bus.writeBytes dst (buf.slice start (4 * words)) := by
  induction words generalizing dst start bus with
  | zero => rfl
  | succ words ih =>
      rw [copyWords, ih, Nat.mul_succ, Nat.add_comm (4 * words), Memory.slice_add,
        Bus.writeBytes_append, Memory.length_slice, Bus.write32, Memory.bytes_load32]
      rfl

theorem copyBytes_eq (buf : Memory) (dst : UInt32) (start len : Nat) (bus : Bus) :
    copyBytes buf dst start len bus = bus.writeBytes dst (buf.slice start len) := by
  induction len generalizing dst start bus with
  | zero => rfl
  | succ len ih => rw [copyBytes, ih, Memory.slice_succ, Bus.writeBytes]

private theorem ofInt_asInt (size : Nat) : UInt32.ofInt (asInt size) = UInt32.ofNat size := by
  have hmod : asInt size % 2 ^ 32 = ((UInt32.ofNat size).toNat : Int) := by
    have hlt := (UInt32.ofNat size).toNat_lt
    rw [asInt, BitVec.toInt_eq_toNat_cond, UInt32.toNat_toBitVec]
    split <;> omega
  rw [UInt32.ofInt, hmod, Int.toNat_natCast, UInt32.ofNat_toNat]

theorem asInt_of_lt {size : Nat} (h : size < 2 ^ 31) : asInt size = size := by
  have hsize : (UInt32.ofNat size).toNat = size := UInt32.toNat_ofNat_of_lt' (show size < 2 ^ 32 by omega)
  rw [asInt, BitVec.toInt_eq_toNat_of_lt (by rw [UInt32.toNat_toBitVec]; omega),
    UInt32.toNat_toBitVec, hsize]

theorem clMemcpyToio_eq (dst : UInt32) (buf : Memory) (len : Nat) (bus : Bus) :
    clMemcpyToio dst buf len bus = (asInt len, bus.writeBytes dst (buf.slice 0 len)) := by
  have hwhole : (len - len % 4) % 4 = 0 := by omega
  have hwords : 4 * ((len - len % 4) / 4) = len - len % 4 := by omega
  have hsplit : len = (len - len % 4) + len % 4 := by omega
  rw [clMemcpyToio, clMemcpyToio32, if_neg (not_not.2 hwhole), copyWords_eq, hwords]
  simp only [ofInt_asInt, ne_eq, not_true_eq_false, if_false, clMemcpyToio8, copyBytes_eq]
  by_cases hlast : len % 4 = 0
  · rw [if_neg (not_not.2 hlast), hlast, Nat.sub_zero]
  · rw [if_pos hlast]
    conv_rhs => rw [hsplit, Memory.slice_add, Bus.writeBytes_append, Memory.length_slice,
      Nat.zero_add]
    rw [← hsplit]

/-! ## What a copy fetches -/

private theorem fetchWords_eq (bus : Bus) (src : UInt32) (start words : Nat) (buf : Memory) :
    fetchWords bus src start words buf = buf.store start (4 * words) (bus.view src) := by
  induction words generalizing src start buf with
  | zero => rw [Nat.mul_zero, Memory.store_zero, fetchWords]
  | succ words ih =>
      have hword : buf.store32 start (bus.read32 src) = buf.store start 4 (bus.view src) :=
        buf.store_congr fun offset hoffset => by
          rw [Bus.read32, Memory.byteAt_load32 _ _ hoffset, Nat.zero_add]
      rw [fetchWords, ih, hword, Nat.mul_succ, Nat.add_comm (4 * words), ← Memory.store_add]
      exact congrArg _ (bus.view_add src 4)

private theorem fetchBytes_eq (bus : Bus) (src : UInt32) (start len : Nat) (buf : Memory) :
    fetchBytes bus src start len buf = buf.store start len (bus.view src) := by
  induction len generalizing src start buf with
  | zero => rw [Memory.store_zero, fetchBytes]
  | succ len ih =>
      have hbyte : Function.update buf start (bus.read8 src) = buf.store start 1 (bus.view src) := by
        rw [← Memory.update_eq_store, Bus.view]
        simp
      rw [fetchBytes, ih, hbyte, Nat.add_comm len, ← Memory.store_add]
      exact congrArg _ (bus.view_add src 1)

theorem clMemcpyFromio_eq (src : UInt32) (buf : Memory) (len : Nat) (bus : Bus) :
    clMemcpyFromio src buf len bus = (asInt len, buf.store 0 len (bus.view src)) := by
  have hwhole : (len - len % 4) % 4 = 0 := by omega
  have hwords : 4 * ((len - len % 4) / 4) = len - len % 4 := by omega
  have hsplit : len = (len - len % 4) + len % 4 := by omega
  rw [clMemcpyFromio, clMemcpyFromio32, if_neg (not_not.2 hwhole), fetchWords_eq, hwords]
  simp only [ofInt_asInt, ne_eq, not_true_eq_false, if_false, clMemcpyFromio8, fetchBytes_eq]
  by_cases hlast : len % 4 = 0
  · rw [if_neg (not_not.2 hlast), hlast, Nat.sub_zero]
  · rw [if_pos hlast]
    conv_rhs => rw [hsplit, ← Memory.store_add, Nat.zero_add, ← Bus.view_add]
    rw [← hsplit]

/-! ## There and back -/

/-- The first bytes of the buffer are on the bus, and nothing else has changed there. -/
structure CopiedOut (dst : UInt32) (buf : Memory) (len : UInt32) (bus bus' : Bus) : Prop where
  copied : ∀ offset < len.toNat, bus'.memory (dst.toNat + offset) = buf offset
  kept : ∀ address, address < dst.toNat ∨ dst.toNat + len.toNat ≤ address →
    bus'.memory address = bus.memory address

/-- The bytes of the bus are at the start of the buffer, and the rest of it has not changed. -/
structure CopiedIn (src : UInt32) (len : UInt32) (bus : Bus) (buf buf' : Memory) : Prop where
  copied : ∀ offset < len.toNat, buf' offset = bus.memory (src.toNat + offset)
  kept : ∀ offset, len.toNat ≤ offset → buf' offset = buf offset

theorem memory_clMemcpyToio {dst : UInt32} (buf : Memory) {len : Nat} (bus : Bus)
    (hfits : dst.toNat + len ≤ 2 ^ 32) :
    (clMemcpyToio dst buf len bus).2.memory = bus.memory.store dst.toNat len buf := by
  rw [clMemcpyToio_eq]
  simpa using bus.memory_writeBytes buf 0 hfits

private theorem copiedOut_clMemcpyToio {dst len : UInt32} (buf : Memory) (bus : Bus)
    (hfits : dst.toNat + len.toNat ≤ 2 ^ 32) :
    CopiedOut dst buf len bus (clMemcpyToio dst buf len.toNat bus).2 := by
  have hmemory := memory_clMemcpyToio buf bus hfits
  constructor
  · intro offset hoffset
    rw [hmemory, bus.memory.store_inside buf hoffset]
  · intro address haddress
    rw [hmemory, bus.memory.store_outside buf haddress]

theorem copiedIn_clMemcpyFromio {src len : UInt32} (buf : Memory) (bus : Bus)
    (hfits : src.toNat + len.toNat ≤ 2 ^ 32) :
    CopiedIn src len bus buf (clMemcpyFromio src buf len.toNat bus).2 := by
  have hbuf : (clMemcpyFromio src buf len.toNat bus).2 =
      buf.store 0 len.toNat (bus.view src) := by rw [clMemcpyFromio_eq]
  constructor
  · intro offset hoffset
    have hstored := @Memory.store_inside buf 0 len.toNat offset (bus.view src) hoffset
    rw [Nat.zero_add] at hstored
    rw [hbuf, hstored, bus.view_inside (by omega)]
  · intro offset hoffset
    rw [hbuf, buf.store_outside _ (by omega)]

/-- What is returned is the length as far as an `int` holds it. -/
theorem clMemcpy_exact (dst src len : UInt32) (buf buf' : Memory) (bus : Bus)
    (hdst : dst.toNat + len.toNat ≤ 2 ^ 32) (hsrc : src.toNat + len.toNat ≤ 2 ^ 32) :
    CopiedOut dst buf len bus (clMemcpyToio dst buf len.toNat bus).2 ∧
      CopiedIn src len bus buf' (clMemcpyFromio src buf' len.toNat bus).2 ∧
      (∀ offset, (clMemcpyFromio dst buf' len.toNat (clMemcpyToio dst buf len.toNat bus).2).2 offset =
        if offset < len.toNat then buf offset else buf' offset) ∧
      (clMemcpyToio dst buf len.toNat bus).1 = asInt len.toNat ∧
      (clMemcpyFromio src buf' len.toNat bus).1 = asInt len.toNat ∧
      (len.toNat < 2 ^ 31 → asInt len.toNat = len.toNat) := by
  have hout := copiedOut_clMemcpyToio buf bus hdst
  have hback := copiedIn_clMemcpyFromio buf' (clMemcpyToio dst buf len.toNat bus).2 hdst
  refine ⟨hout, copiedIn_clMemcpyFromio buf' bus hsrc, ?_, ?_, ?_, asInt_of_lt⟩
  · intro offset
    split
    · rename_i hinside
      rw [hback.copied offset hinside, hout.copied offset hinside]
    · rename_i houtside
      exact hback.kept offset (Nat.le_of_not_lt houtside)
  · rw [clMemcpyToio_eq]
  · rw [clMemcpyFromio_eq]

theorem clMemcpy_exact_seven :
    let bus : Bus := ⟨fun _ => 0, []⟩
    (0x38000000 : UInt32).toNat + (7 : UInt32).toNat ≤ 2 ^ 32 ∧
      CopiedOut 0x38000000 (fun _ => 0x41) 7 bus (clMemcpyToio 0x38000000 (fun _ => 0x41) 7 bus).2 :=
  ⟨by decide, (clMemcpy_exact 0x38000000 0x38000000 7 (fun _ => 0x41) (fun _ => 0) _
    (by decide) (by decide)).1⟩

/-- Half of the address space is more than an `int` holds. -/
theorem clMemcpy_long :
    (clMemcpyToio 0 (fun _ => 0) 0x80000000 ⟨fun _ => 0, []⟩).1 ≠ 0x80000000 ∧
      (clMemcpyFromio 0 (fun _ => 0) 0x80000000 ⟨fun _ => 0, []⟩).1 ≠ 0x80000000 := by
  rw [clMemcpyToio_eq, clMemcpyFromio_eq]
  decide

end Vmr.Shm
