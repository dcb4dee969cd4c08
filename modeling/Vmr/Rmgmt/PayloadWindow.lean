import Vmr.Rmgmt.LogSources

/-!
# The window of a request

A request names a window of the shared memory by an address, which counts from the
start of the memory, and a size.  The validators compute the end of the window with
32 bits and compare it with the end of the memory.
-/

namespace Vmr.Rmgmt

open Vmr.Lib Vmr.Shm

structure DataPayload where
  address : UInt32
  size : UInt32

structure SensorPayload where
  address : UInt32
  size : UInt32

def bitstreamSize : UInt32 := 0x8000000

def sensorRespBufferSize : UInt32 := 512

def validateDataPayload (rhDataMaxSize : UInt32) (payload : DataPayload) : Int :=
  let address := rpuSharedMemoryAddr payload.address
  let size := payload.size
  -- check address is 32bit aligned
  if address &&& 3 ≠ 0 then -einval
  else if address + size ≥ vmrEpRpuSharedMemoryEnd then -einval
  else if size > rhDataMaxSize then -einval
  else 0

def validateSensorPayload (payload : SensorPayload) : Int :=
  let address := rpuSharedMemoryAddr payload.address
  if address + sensorRespBufferSize ≥ vmrEpRpuSharedMemoryEnd then -einval
  else if sensorRespBufferSize > payload.size then -einval
  else 0

/-! ## The end of a window -/

def windowEnd (address size : UInt32) : Nat :=
  vmrEpRpuSharedMemoryStart.toNat + address.toNat + size.toNat

/-- The window lies in the shared memory. -/
def WindowInside (address size : UInt32) : Prop :=
  vmrEpRpuSharedMemoryStart.toNat ≤ vmrEpRpuSharedMemoryStart.toNat + address.toNat ∧
    windowEnd address size ≤ vmrEpRpuSharedMemoryEnd.toNat

private theorem toNat_windowEnd (address size : UInt32) :
    (rpuSharedMemoryAddr address + size).toNat = windowEnd address size % 2 ^ 32 := by
  rw [rpuSharedMemoryAddr, UInt32.toNat_add, UInt32.toNat_add, Nat.mod_add_mod, windowEnd]

private theorem windowInside_of_lt {address size : UInt32} (h : windowEnd address size < 2 ^ 32)
    (hend : rpuSharedMemoryAddr address + size < vmrEpRpuSharedMemoryEnd) :
    WindowInside address size := by
  rw [UInt32.lt_iff_toNat_lt, toNat_windowEnd, Nat.mod_eq_of_lt h] at hend
  exact ⟨Nat.le_add_right _ _, Nat.le_of_lt hend⟩

private theorem not_windowInside_of_le {address size : UInt32}
    (h : 2 ^ 32 ≤ windowEnd address size) :
    ¬ WindowInside address size := by
  rintro ⟨-, hend⟩
  exact absurd (Nat.le_trans h hend) (by decide)

private theorem rpuSharedMemoryAddr_aligned_iff (address : UInt32) :
    rpuSharedMemoryAddr address &&& 3 = 0 ↔ address.toNat % 4 = 0 := by
  rw [← UInt32.toNat_inj, UInt32.toNat_and, rpuSharedMemoryAddr, UInt32.toNat_add,
    show (3 : UInt32).toNat = 2 ^ 2 - 1 from rfl, Nat.and_two_pow_sub_one_eq_mod,
    show vmrEpRpuSharedMemoryStart.toNat = 0x38000000 from rfl, UInt32.toNat_zero]
  omega

/-! ## Accepted windows -/

private theorem validateDataPayload_eq_zero_iff {rhDataMaxSize : UInt32} {payload : DataPayload} :
    validateDataPayload rhDataMaxSize payload = 0 ↔
      payload.address.toNat % 4 = 0 ∧
        windowEnd payload.address payload.size % 2 ^ 32 < vmrEpRpuSharedMemoryEnd.toNat ∧
        payload.size ≤ rhDataMaxSize := by
  rw [← rpuSharedMemoryAddr_aligned_iff, ← toNat_windowEnd, ← UInt32.lt_iff_toNat_lt,
    validateDataPayload]
  split
  next hunaligned => exact iff_of_false (by decide) fun h => hunaligned h.1
  next haligned =>
    split
    next hend => exact iff_of_false (by decide) fun h => UInt32.not_lt.2 hend h.2.1
    next hend =>
      split
      next hsize => exact iff_of_false (by decide) fun h => UInt32.not_lt.2 h.2.2 hsize
      next hsize =>
        exact iff_of_true rfl ⟨not_not.1 haligned, UInt32.not_le.1 hend, UInt32.not_lt.1 hsize⟩

private theorem validateSensorPayload_eq_zero_iff {payload : SensorPayload} :
    validateSensorPayload payload = 0 ↔
      windowEnd payload.address sensorRespBufferSize % 2 ^ 32 < vmrEpRpuSharedMemoryEnd.toNat ∧
        sensorRespBufferSize ≤ payload.size := by
  rw [← toNat_windowEnd, ← UInt32.lt_iff_toNat_lt, validateSensorPayload]
  split
  next hend => exact iff_of_false (by decide) fun h => UInt32.not_lt.2 hend h.1
  next hend =>
    split
    next hsize => exact iff_of_false (by decide) fun h => UInt32.not_lt.2 h.2 hsize
    next hsize => exact iff_of_true rfl ⟨UInt32.not_le.1 hend, UInt32.not_lt.1 hsize⟩

/-- The window of a data request that is accepted lies in the shared memory. -/
def DataInside (rhDataMaxSize : UInt32) (payload : DataPayload) : Prop :=
  validateDataPayload rhDataMaxSize payload = 0 → WindowInside payload.address payload.size

def SensorInside (payload : SensorPayload) : Prop :=
  validateSensorPayload payload = 0 → WindowInside payload.address sensorRespBufferSize

theorem accepted_iff {accepts others : Prop} {address size : UInt32}
    (haccepts : accepts ↔
      windowEnd address size % 2 ^ 32 < vmrEpRpuSharedMemoryEnd.toNat ∧ others) :
    (accepts → WindowInside address size) ↔
      windowEnd address size < 2 ^ 32 ∨
        vmrEpRpuSharedMemoryEnd.toNat ≤ windowEnd address size % 2 ^ 32 ∨ ¬ others := by
  rw [haccepts]
  constructor
  · intro hinside
    by_contra hwraps
    obtain ⟨hspace, hrest⟩ := not_or.1 hwraps
    obtain ⟨hend, hothers⟩ := not_or.1 hrest
    exact not_windowInside_of_le (Nat.not_lt.1 hspace)
      (hinside ⟨Nat.not_le.1 hend, not_not.1 hothers⟩)
  · rintro hcondition ⟨hend, hothers⟩
    rcases hcondition with hspace | hlarge | hnot
    · refine windowInside_of_lt hspace ?_
      rwa [UInt32.lt_iff_toNat_lt, toNat_windowEnd]
    · exact absurd hend (Nat.not_lt.2 hlarge)
    · exact absurd hothers hnot

/-- An accepted window is inside the shared memory exactly when the sum of start, address and size
fits in 32 bits; other windows have to be refused for another reason. -/
theorem windowsInside_iff (rhDataMaxSize : UInt32) (data : DataPayload) (sensor : SensorPayload) :
    (DataInside rhDataMaxSize data ↔
      windowEnd data.address data.size < 2 ^ 32 ∨
        vmrEpRpuSharedMemoryEnd.toNat ≤ windowEnd data.address data.size % 2 ^ 32 ∨
        data.address.toNat % 4 ≠ 0 ∨ rhDataMaxSize < data.size) ∧
    (SensorInside sensor ↔
      windowEnd sensor.address sensorRespBufferSize < 2 ^ 32 ∨
        vmrEpRpuSharedMemoryEnd.toNat ≤ windowEnd sensor.address sensorRespBufferSize % 2 ^ 32 ∨
        sensor.size < sensorRespBufferSize) := by
  constructor
  · rw [DataInside, accepted_iff (validateDataPayload_eq_zero_iff.trans and_left_comm),
      not_and_or, UInt32.not_le]
  · rw [SensorInside, accepted_iff validateSensorPayload_eq_zero_iff, UInt32.not_le]

/-- The last quarter of the address space wraps to address 0, below the shared memory. -/
theorem not_windowsInside_wrapped :
    ¬ DataInside bitstreamSize ⟨0xC8000000, 4⟩ ∧ ¬ SensorInside ⟨0xC8000000, 512⟩ :=
  ⟨fun hinside => absurd (hinside (by decide)).2 (by decide),
    fun hinside => absurd (hinside (by decide)).2 (by decide)⟩

end Vmr.Rmgmt
