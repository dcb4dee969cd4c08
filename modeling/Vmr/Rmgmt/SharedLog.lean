import Mathlib.Data.Nat.ModEq
import Vmr.Lib.History
import Vmr.Lib.Reading
import Vmr.Rmgmt.SharedMemory

/-!
# The log in shared memory

`cl_printf` leaves its lines in a ring of records behind the status word.  The
index of the next record is a word of the partition table; it is used as it is
found there and reduced only when it is put back.
-/

namespace Vmr.Rmgmt

open Vmr.Lib Vmr.Shm

def vmrLogEntrySize : Nat := 96
def vmrLogMaxRecs : Nat := 50
def maxLogLen : Nat := 80
def maxBufLen : Nat := 256
def clLogLevelPrnt : UInt8 := 3

/-! ## The lines -/

/-- A call of `cl_printf` and what it meets: the level that is set, whether the lock can be taken,
the time since boot, and the bytes on the stack where the record is put together. -/
structure PrintfCall where
  name : List UInt8
  line : UInt32
  logLevel : UInt8
  appName : List UInt8
  /-- The whole text that the format and the arguments make. -/
  text : List UInt8
  logLevelGl : UInt8
  lockTaken : Bool
  currentSecond : UInt32
  currentMS : UInt32
  stack : Memory

namespace PrintfCall

variable (call : PrintfCall)

def buf : List UInt8 := cText (call.text.take (maxLogLen - 1))

def logBuf : List UInt8 :=
  let line :=
    if call.logLevel = clLogLevelPrnt then call.buf
    else ascii "[ " ++ signedDecimal (signed32 call.currentSecond) ++ ascii "." ++
      signedDecimal (signed32 call.currentMS) ++ ascii "] " ++ cText call.appName ++ ascii ":" ++
      cText call.name ++ ascii ":" ++ signedDecimal (signed32 call.line) ++ ascii ": " ++
      call.buf ++ ascii "\r\n"
  cText (line.take (maxBufLen - 1))

end PrintfCall

/-! ## The records -/

def logMsgIndexAddr : UInt32 := vmrEpRpuSharedMemoryStart + 20

def VmrSharedMem.ofBytes (bytes : Memory) : VmrSharedMem where
  vmrMagicNo := bytes.load32 0
  ringBufferOff := bytes.load32 4
  ringBufferLen := bytes.load32 8
  vmrStatusOff := bytes.load32 12
  vmrStatusLen := bytes.load32 16
  logMsgIndex := bytes.load32 20
  logMsgBufOff := bytes.load32 24
  logMsgBufLen := bytes.load32 28
  vmrDataStart := bytes.load32 32
  vmrDataEnd := bytes.load32 36

def vmrSharedMemSize : Nat := 40

def logRecord (buf : List UInt8) (stack : Memory) : Memory :=
  stack.putBytes 0 (buf.take (vmrLogEntrySize - 1) ++ [0])

def vmrLogCollect (msgIndexAddr msgBufAddr : UInt32) (buf : List UInt8) (stack : Memory)
    (bus : Bus) : Bus :=
  let logIdx := bus.read32 msgIndexAddr
  let bus := (clMemcpyToio (msgBufAddr + UInt32.ofNat vmrLogEntrySize * logIdx)
    (logRecord buf stack) vmrLogEntrySize bus).2
  bus.write32 msgIndexAddr ((logIdx + 1) % UInt32.ofNat vmrLogMaxRecs)

def readSharedMem (bus : Bus) : Int × VmrSharedMem :=
  let found := clMemcpyFromio vmrEpRpuSharedMemoryStart (fun _ => 0) vmrSharedMemSize bus
  (found.1, .ofBytes found.2)

def clPrintfImpl (call : PrintfCall) (bus : Bus) : Bus :=
  if call.logLevel > call.logLevelGl then bus
  else if call.lockTaken = false then bus
  else
    let (ret, mem) := readSharedMem bus
    if ret ≠ -1 ∧ mem.vmrMagicNo = vmrMagicNo then
      vmrLogCollect logMsgIndexAddr (vmrEpRpuSharedMemoryStart + mem.logMsgBufOff) call.logBuf
        call.stack bus
    else bus

def printfAll (calls : List PrintfCall) (bus : Bus) : Bus :=
  calls.foldl (fun bus call => clPrintfImpl call bus) bus

/-! ## What the host reads -/

def logMsgIndex (bus : Bus) : UInt32 := bus.memory.load32 logMsgIndexAddr.toNat

section Log

variable (ringLen : UInt32)

def logStart : Nat := vmrEpRpuSharedMemoryStart.toNat + (sharedMem ringLen).logMsgBufOff.toNat

def recordText (bus : Bus) (index : Nat) : List UInt8 :=
  cText (bus.memory.slice (logStart ringLen + vmrLogEntrySize * index) vmrLogEntrySize)

/-- The text `steps` records before the last one, walking backwards from the index. -/
def readBack (bus : Bus) (steps : Nat) : List UInt8 :=
  recordText ringLen bus (((logMsgIndex bus).toNat + vmrLogMaxRecs - 1 - steps) % vmrLogMaxRecs)

def nextRecord (bus : Bus) : UInt32 :=
  vmrEpRpuSharedMemoryStart + (readSharedMem bus).2.logMsgBufOff +
    UInt32.ofNat vmrLogEntrySize * bus.read32 logMsgIndexAddr

def PrintfCall.Logged (call : PrintfCall) (bus : Bus) : Prop :=
  call.logLevel ≤ call.logLevelGl ∧ call.lockTaken = true ∧ (readSharedMem bus).1 ≠ -1 ∧
    (readSharedMem bus).2.vmrMagicNo = vmrMagicNo

instance (call : PrintfCall) (bus : Bus) : Decidable (call.Logged bus) :=
  inferInstanceAs (Decidable (_ ∧ _ ∧ _ ∧ _))

def logged : List PrintfCall → Bus → List (UInt32 × List UInt8)
  | [], _ => []
  | call :: calls, bus =>
      let rest := logged calls (clPrintfImpl call bus)
      if call.Logged bus then (nextRecord bus, call.logBuf) :: rest else rest

/-- The records lie in the log, and the last lines can be read back. -/
structure LogKept (calls : List PrintfCall) (bus : Bus) : Prop where
  inside : ∀ entry ∈ logged calls bus, ∀ address, Covers entry.1 vmrLogEntrySize address →
    logStart ringLen ≤ address ∧ address < logStart ringLen + vmrLogEntrySize * vmrLogMaxRecs
  readBack : ∀ steps < min (logged calls bus).length vmrLogMaxRecs,
    some (readBack ringLen (printfAll calls bus) steps) =
      ((logged calls bus).map fun entry => entry.2.take (vmrLogEntrySize - 1)).reverse[steps]?

/-- The table is as it was written when the shared memory was set up, except for the index. -/
structure TableSet (bus : Bus) : Prop where
  ring : ringLen ≤ rpuRingBufferLen
  magic : bus.memory.load32 vmrEpRpuSharedMemoryStart.toNat = vmrMagicNo
  logMsgBufOff : bus.memory.load32 (vmrEpRpuSharedMemoryStart.toNat + 24) =
    (sharedMem ringLen).logMsgBufOff

/-- An index of a record, or one at the distance where the offset of a record wraps to it. -/
def GoodIndex (index : UInt32) : Prop := index.toNat % (50 * 2 ^ 26) < 50

/-! ## One call -/

variable {ringLen}

private theorem clPrintfImpl_eq (call : PrintfCall) (bus : Bus) :
    clPrintfImpl call bus =
      if call.Logged bus then
        vmrLogCollect logMsgIndexAddr
          (vmrEpRpuSharedMemoryStart + (readSharedMem bus).2.logMsgBufOff) call.logBuf call.stack bus
      else bus := by
  rw [clPrintfImpl]
  by_cases hlevel : call.logLevel > call.logLevelGl
  · rw [if_pos hlevel, if_neg fun h => absurd h.1 (UInt8.not_le.2 hlevel)]
  · rw [if_neg hlevel]
    by_cases hlock : call.lockTaken = false
    · rw [if_pos hlock, if_neg fun h => Bool.false_ne_true (hlock.symm.trans h.2.1)]
    · rw [if_neg hlock]
      by_cases hmem : (readSharedMem bus).1 ≠ -1 ∧ (readSharedMem bus).2.vmrMagicNo = vmrMagicNo
      · rw [if_pos ⟨UInt8.not_lt.1 hlevel, Bool.not_eq_false _ ▸ hlock, hmem⟩]
        exact if_pos hmem
      · rw [if_neg fun h => hmem h.2.2]
        exact if_neg hmem

private theorem readSharedMem_eq {bus : Bus} {offset : Nat}
    (hoffset : offset + 4 ≤ vmrSharedMemSize) :
    (clMemcpyFromio vmrEpRpuSharedMemoryStart (fun _ => 0) vmrSharedMemSize bus).2.load32 offset =
      bus.memory.load32 (vmrEpRpuSharedMemoryStart.toNat + offset) := by
  have hcopied := @copiedIn_clMemcpyFromio vmrEpRpuSharedMemoryStart
    (UInt32.ofNat vmrSharedMemSize) (fun _ => 0) bus (by decide)
  refine congrArg UInt32.ofNat (Memory.number_shift fun k hk => ?_)
  rw [Nat.add_assoc]
  exact hcopied.copied (offset + k) (by
    rw [show (UInt32.ofNat vmrSharedMemSize).toNat = vmrSharedMemSize by decide]
    omega)

theorem TableSet.readSharedMem {bus : Bus} (h : TableSet ringLen bus) :
    (readSharedMem bus).1 ≠ -1 ∧ (readSharedMem bus).2.vmrMagicNo = vmrMagicNo ∧
      (readSharedMem bus).2.logMsgBufOff = (sharedMem ringLen).logMsgBufOff := by
  refine ⟨?_, ?_, ?_⟩
  · rw [Rmgmt.readSharedMem, clMemcpyFromio_eq]
    exact (by decide : asInt vmrSharedMemSize ≠ -1)
  · exact (readSharedMem_eq (by decide)).trans h.magic
  · exact (readSharedMem_eq (by decide)).trans h.logMsgBufOff

private theorem logMsgIndexAddr_toNat : logMsgIndexAddr.toNat = 0x38000014 := rfl

private theorem logStart_eq (hring : ringLen ≤ rpuRingBufferLen) :
    logStart ringLen = 0x38000000 + (0x1000 + ringLen.toNat + 4) ∧ ringLen.toNat ≤ 0x1000 := by
  obtain ⟨-, hlog, -⟩ := toNat_vmrDataStart hring
  exact ⟨congrArg (0x38000000 + ·) hlog, UInt32.le_iff_toNat_le.1 hring⟩

private theorem read32_logMsgIndex (bus : Bus) : bus.read32 logMsgIndexAddr = logMsgIndex bus :=
  bus.read32_eq (by decide)

private theorem logMsgIndex_clPrintfImpl {call : PrintfCall} {bus : Bus}
    (hlogged : call.Logged bus) :
    logMsgIndex (clPrintfImpl call bus) = (logMsgIndex bus + 1) % UInt32.ofNat vmrLogMaxRecs := by
  rw [clPrintfImpl_eq, if_pos hlogged, vmrLogCollect, logMsgIndex,
    Bus.memory_write32 _ _ (by decide), Memory.load32_store32, read32_logMsgIndex]

private theorem toNat_logMsgIndex {call : PrintfCall} {bus : Bus} (hlogged : call.Logged bus) :
    (logMsgIndex (clPrintfImpl call bus)).toNat =
      ((logMsgIndex bus).toNat + 1) % 2 ^ 32 % vmrLogMaxRecs := by
  rw [logMsgIndex_clPrintfImpl hlogged, UInt32.toNat_mod, UInt32.toNat_add]
  rfl

private theorem nextRecord_eq {bus : Bus} (h : TableSet ringLen bus) :
    nextRecord bus = vmrEpRpuSharedMemoryStart + (sharedMem ringLen).logMsgBufOff +
      UInt32.ofNat vmrLogEntrySize * logMsgIndex bus := by
  rw [nextRecord, h.readSharedMem.2.2, read32_logMsgIndex]

private theorem toNat_nextRecord {bus : Bus} (h : TableSet ringLen bus) :
    (nextRecord bus).toNat =
      (logStart ringLen + vmrLogEntrySize * (logMsgIndex bus).toNat) % 2 ^ 32 := by
  have hsize : (UInt32.ofNat vmrLogEntrySize).toNat = vmrLogEntrySize := by decide
  rw [nextRecord_eq h, UInt32.toNat_add, UInt32.toNat_add, UInt32.toNat_mul, logStart, hsize,
    ← Nat.add_mod]

private theorem logBuf_ends (call : PrintfCall) : 0 ∉ call.logBuf := zero_not_mem_cText _

private theorem cText_logRecord {buf : List UInt8} (hbuf : 0 ∉ buf) (stack : Memory) :
    cText ((logRecord buf stack).slice 0 vmrLogEntrySize) = buf.take (vmrLogEntrySize - 1) := by
  have hlength := List.length_take_le (vmrLogEntrySize - 1) buf
  exact cText_slice_putBytes stack 0 (fun hzero => hbuf (List.mem_of_mem_take hzero))
    (by rw [vmrLogEntrySize] at hlength ⊢; omega)

private theorem memory_clPrintfImpl {call : PrintfCall} {bus : Bus} (hlogged : call.Logged bus)
    (hfits : (nextRecord bus).toNat + vmrLogEntrySize ≤ 2 ^ 32) :
    (clPrintfImpl call bus).memory =
      (bus.memory.store (nextRecord bus).toNat vmrLogEntrySize
        (logRecord call.logBuf call.stack)).store32 logMsgIndexAddr.toNat
          ((logMsgIndex bus + 1) % UInt32.ofNat vmrLogMaxRecs) := by
  rw [clPrintfImpl_eq, if_pos hlogged, vmrLogCollect, Bus.memory_write32 _ _ (by decide),
    read32_logMsgIndex]
  congr 1
  rw [nextRecord, read32_logMsgIndex] at hfits ⊢
  exact memory_clMemcpyToio _ _ hfits

/-! ## Runs -/

private theorem goodIndex_iff {index : UInt32} :
    GoodIndex index ↔
      index.toNat < 50 ∨ (50 * 2 ^ 26 ≤ index.toNat ∧ index.toNat < 50 * 2 ^ 26 + 50) := by
  have hlt := index.toNat_lt
  rw [GoodIndex]
  omega

def slot (bus : Bus) : Nat := (logMsgIndex bus).toNat % vmrLogMaxRecs

private theorem slot_lt (bus : Bus) : slot bus < vmrLogMaxRecs := Nat.mod_lt _ (by decide)

variable (ringLen) in
/-- The table is set, and the next record is the one that the index names. -/
structure LogReady (bus : Bus) : Prop extends TableSet ringLen bus where
  index : GoodIndex (logMsgIndex bus)

variable (ringLen) in
def records (bus : Bus) : RingBuffer (List UInt8) where
  slots := (List.range vmrLogMaxRecs).map (recordText ringLen bus)
  next := slot bus
  next_lt := by
    rw [List.length_map, List.length_range]
    exact slot_lt bus

@[simp] theorem length_records (bus : Bus) :
    (records ringLen bus).slots.length = vmrLogMaxRecs := by
  simp [records]

namespace LogReady

variable {bus : Bus} {call : PrintfCall}

private theorem toNat_nextRecord (h : LogReady ringLen bus) :
    (nextRecord bus).toNat = logStart ringLen + vmrLogEntrySize * slot bus ∧
      logStart ringLen + vmrLogEntrySize * vmrLogMaxRecs ≤ 0x38004000 := by
  obtain ⟨hstart, hlen⟩ := logStart_eq h.ring
  have hwrap : (logMsgIndex bus).toNat = slot bus ∨
      (logMsgIndex bus).toNat = 50 * 2 ^ 26 + slot bus := by
    rw [slot, vmrLogMaxRecs]
    rcases goodIndex_iff.1 h.index with hsmall | hlarge <;> omega
  have hslot := slot_lt bus
  rw [Rmgmt.toNat_nextRecord h.toTableSet]
  simp only [vmrLogEntrySize, vmrLogMaxRecs] at *
  -- 96 times the distance is 75 times the number of addresses
  rcases hwrap with hsame | hlarge <;> omega

private theorem slot_clPrintfImpl (h : LogReady ringLen bus) (hlogged : call.Logged bus) :
    slot (clPrintfImpl call bus) = (slot bus + 1) % vmrLogMaxRecs ∧
      GoodIndex (logMsgIndex (clPrintfImpl call bus)) := by
  have hnext : (logMsgIndex (clPrintfImpl call bus)).toNat =
      ((logMsgIndex bus).toNat + 1) % vmrLogMaxRecs := by
    have hnowrap : (logMsgIndex bus).toNat + 1 < 2 ^ 32 := by
      rcases goodIndex_iff.1 h.index with hsmall | hwraps <;> omega
    rw [toNat_logMsgIndex hlogged, Nat.mod_eq_of_lt hnowrap]
  rw [slot, slot, GoodIndex, hnext]
  simp only [vmrLogMaxRecs]
  omega

private theorem memory_clPrintfImpl (h : LogReady ringLen bus) (hlogged : call.Logged bus) :
    (clPrintfImpl call bus).memory =
      (bus.memory.store (logStart ringLen + vmrLogEntrySize * slot bus) vmrLogEntrySize
        (logRecord call.logBuf call.stack)).store32 logMsgIndexAddr.toNat
          ((logMsgIndex bus + 1) % UInt32.ofNat vmrLogMaxRecs) := by
  obtain ⟨hrecord, hend⟩ := h.toNat_nextRecord
  have hslot := slot_lt bus
  rw [← hrecord]
  refine Rmgmt.memory_clPrintfImpl hlogged ?_
  rw [hrecord]
  simp only [vmrLogEntrySize, vmrLogMaxRecs] at *
  omega

private theorem agreeOn_clPrintfImpl (h : LogReady ringLen bus) (hlogged : call.Logged bus)
    {start length : Nat}
    (hrecord : Apart (logStart ringLen + vmrLogEntrySize * slot bus) vmrLogEntrySize start length)
    (hindex : Apart logMsgIndexAddr.toNat 4 start length) :
    bus.memory.AgreeOn (clPrintfImpl call bus).memory start length := by
  rw [h.memory_clPrintfImpl hlogged]
  exact (bus.memory.agreeOn_store _ hrecord).trans (Memory.agreeOn_store _ _ hindex)

private theorem recordText_clPrintfImpl (h : LogReady ringLen bus) (hlogged : call.Logged bus) :
    recordText ringLen (clPrintfImpl call bus) (slot bus) =
        call.logBuf.take (vmrLogEntrySize - 1) ∧
      ∀ index < vmrLogMaxRecs, index ≠ slot bus →
        recordText ringLen (clPrintfImpl call bus) index = recordText ringLen bus index := by
  obtain ⟨hstart, -⟩ := logStart_eq h.ring
  have hslot := slot_lt bus
  have haddr := logMsgIndexAddr_toNat
  constructor
  · have hslice : (clPrintfImpl call bus).memory.slice
        (logStart ringLen + vmrLogEntrySize * slot bus) vmrLogEntrySize =
          (logRecord call.logBuf call.stack).slice 0 vmrLogEntrySize := by
      rw [h.memory_clPrintfImpl hlogged, Memory.store32,
        (Memory.agreeOn_store _ _ (.inl (by omega))).slice]
      refine Memory.slice_shift fun offset hoffset => ?_
      rw [Memory.store_inside _ _ hoffset, Nat.zero_add]
    rw [recordText, hslice]
    exact cText_logRecord (logBuf_ends call) call.stack
  · intro index hindex hother
    refine congrArg cText (h.agreeOn_clPrintfImpl hlogged ?_ (.inl (by omega))).slice
    simp only [Apart, vmrLogEntrySize] at *
    omega

private theorem clPrintfImpl_kept (h : LogReady ringLen bus) (hlogged : call.Logged bus) :
    LogReady ringLen (clPrintfImpl call bus) := by
  obtain ⟨hstart, -⟩ := logStart_eq h.ring
  have haddr := logMsgIndexAddr_toNat
  have hbase : vmrEpRpuSharedMemoryStart.toNat = 0x38000000 := rfl
  refine ⟨⟨h.ring, ?_, ?_⟩, (h.slot_clPrintfImpl hlogged).2⟩
  · rw [(h.agreeOn_clPrintfImpl hlogged (.inr (by omega)) (.inr (by omega))).load32]
    exact h.magic
  · rw [(h.agreeOn_clPrintfImpl hlogged (.inr (by omega)) (.inl (by omega))).load32]
    exact h.logMsgBufOff

private theorem records_clPrintfImpl (h : LogReady ringLen bus) (hlogged : call.Logged bus) :
    records ringLen (clPrintfImpl call bus) =
      (records ringLen bus).push (call.logBuf.take (vmrLogEntrySize - 1)) := by
  obtain ⟨hnew, hkept⟩ := h.recordText_clPrintfImpl hlogged
  refine RingBuffer.ext (map_range_set (fun _ => hnew) hkept) ?_
  exact (h.slot_clPrintfImpl hlogged).1.trans (congrArg _ (length_records bus).symm)

theorem inside (h : LogReady ringLen bus) (address : Nat)
    (hcovers : Covers (nextRecord bus) vmrLogEntrySize address) :
    logStart ringLen ≤ address ∧ address < logStart ringLen + vmrLogEntrySize * vmrLogMaxRecs := by
  obtain ⟨hrecord, hend⟩ := h.toNat_nextRecord
  have hslot := slot_lt bus
  refine (covers_inside_iff (by omega)).2 (.inr ?_) address hcovers
  simp only [vmrLogEntrySize, vmrLogMaxRecs] at *
  omega

end LogReady

private theorem logged_run (calls : List PrintfCall) {bus : Bus} (h : LogReady ringLen bus) :
    (∀ entry ∈ logged calls bus, ∀ address, Covers entry.1 vmrLogEntrySize address →
      logStart ringLen ≤ address ∧
        address < logStart ringLen + vmrLogEntrySize * vmrLogMaxRecs) ∧
      records ringLen (printfAll calls bus) = (records ringLen bus).pushAll
        ((logged calls bus).map fun entry => entry.2.take (vmrLogEntrySize - 1)) := by
  induction calls generalizing bus with
  | nil => exact ⟨fun _ hentry => absurd hentry List.not_mem_nil, rfl⟩
  | cons call calls ih =>
      rw [printfAll, List.foldl_cons, ← printfAll, logged]
      by_cases hlogged : call.Logged bus
      · obtain ⟨hinside, hrecords⟩ := ih (h.clPrintfImpl_kept hlogged)
        rw [if_pos hlogged]
        refine ⟨List.forall_mem_cons.2 ⟨h.inside, hinside⟩, ?_⟩
        rw [hrecords, h.records_clPrintfImpl hlogged, List.map_cons, RingBuffer.pushAll_cons]
      · rw [clPrintfImpl_eq, if_neg hlogged, if_neg hlogged]
        exact ih h

private theorem readBack_eq_back (bus : Bus) (steps : Nat) (hsteps : steps < vmrLogMaxRecs) :
    some (readBack ringLen bus steps) = (records ringLen bus).back steps := by
  have hplace : ((logMsgIndex bus).toNat + vmrLogMaxRecs - 1 - steps) % vmrLogMaxRecs =
      (slot bus + vmrLogMaxRecs - 1 - steps) % vmrLogMaxRecs := by
    rw [slot]
    simp only [vmrLogMaxRecs] at *
    omega
  rw [RingBuffer.back, length_records, readBack, hplace]
  simp only [records, List.getElem?_map]
  rw [List.getElem?_range (Nat.mod_lt _ (by decide)), Option.map_some]

private theorem LogReady.logKept {bus : Bus} (h : LogReady ringLen bus) (calls : List PrintfCall) :
    LogKept ringLen calls bus := by
  obtain ⟨hinside, hrecords⟩ := logged_run calls h
  refine ⟨hinside, fun steps hsteps => ?_⟩
  obtain ⟨hcount, hslots⟩ := Nat.lt_min.1 hsteps
  rw [readBack_eq_back _ _ hslots, hrecords]
  exact RingBuffer.back_pushAll _ (by rwa [length_records]) (by rwa [List.length_map])

/-! ## Where the index is good -/

def byteCall (byte : UInt8) : PrintfCall where
  name := []
  line := 0
  logLevel := clLogLevelPrnt
  appName := []
  text := [byte]
  logLevelGl := clLogLevelPrnt
  lockTaken := true
  currentSecond := 0
  currentMS := 0
  stack := fun _ => 0

private theorem logBuf_byteCall {byte : UInt8} (hbyte : byte ≠ 0) :
    (byteCall byte).logBuf = [byte] := by
  have htext : cText [byte] = [byte] := List.takeWhile_cons_of_pos (decide_eq_true hbyte)
  have hbuf : (byteCall byte).buf = [byte] := htext
  rw [PrintfCall.logBuf, byteCall, if_pos rfl, ← byteCall, hbuf]
  exact htext

private theorem logged_byteCall {bus : Bus} (h : TableSet ringLen bus) {byte : UInt8}
    (hbyte : byte ≠ 0) :
    (byteCall byte).Logged bus ∧ logged [byteCall byte] bus = [(nextRecord bus, [byte])] := by
  have hlogged : (byteCall byte).Logged bus :=
    ⟨UInt8.le_refl _, rfl, h.readSharedMem.1, h.readSharedMem.2.1⟩
  refine ⟨hlogged, ?_⟩
  rw [logged, if_pos hlogged, logBuf_byteCall hbyte, logged]

private theorem logRecord_byteCall {byte : UInt8} {offset : Nat}
    (h : logRecord [byte] (byteCall byte).stack offset = byte) (hbyte : byte ≠ 0) : offset = 0 := by
  by_contra hoffset
  refine hbyte (h.symm.trans ?_)
  rcases Nat.eq_or_lt_of_le (Nat.one_le_iff_ne_zero.2 hoffset) with rfl | hbehind
  · rfl
  · exact Memory.putBytes_outside _ _ (.inr hbehind)

private theorem exists_other_byte (byte : UInt8) : ∃ byte' : UInt8, byte' ≠ 0 ∧ byte' ≠ byte := by
  by_cases hone : byte = 1
  · exact ⟨2, by decide, by rw [hone]; decide⟩
  · exact ⟨1, by decide, Ne.symm hone⟩

def lastSlot (bus : Bus) : Nat :=
  (((logMsgIndex bus).toNat + 1) % 2 ^ 32 % vmrLogMaxRecs + vmrLogMaxRecs - 1) % vmrLogMaxRecs

/-- The byte is found where the host looks for it only if the record starts there. -/
theorem nextRecord_of_logKept {bus : Bus} (h : TableSet ringLen bus)
    (hkept : ∀ calls, LogKept ringLen calls bus) :
    (nextRecord bus).toNat = logStart ringLen + vmrLogEntrySize * lastSlot bus := by
  obtain ⟨byte, hbyte, hother⟩ :=
    exists_other_byte (bus.memory (logStart ringLen + vmrLogEntrySize * lastSlot bus))
  obtain ⟨hlogged, hentries⟩ := logged_byteCall h hbyte
  obtain ⟨hstart, hlen⟩ := logStart_eq h.ring
  have haddr := logMsgIndexAddr_toNat
  have hinside := (hkept [byteCall byte]).inside
  have hback := (hkept [byteCall byte]).readBack 0
  rw [hentries] at hinside hback
  have hrecord : (nextRecord bus).toNat + vmrLogEntrySize ≤ 2 ^ 32 := by
    have hbounds := (covers_inside_iff (by simp only [vmrLogEntrySize, vmrLogMaxRecs]; omega)).1
      (List.forall_mem_singleton.1 hinside)
    simp only [vmrLogEntrySize, vmrLogMaxRecs] at *
    omega
  have hread : recordText ringLen (clPrintfImpl (byteCall byte) bus) (lastSlot bus) = [byte] := by
    have hsome := hback (Nat.lt_min.2 ⟨Nat.zero_lt_one, by decide⟩)
    rw [printfAll, List.foldl_cons, List.foldl_nil, readBack, toNat_logMsgIndex hlogged] at hsome
    exact Option.some.inj hsome
  have hfirst := cText_head hread
  rw [memory_clPrintfImpl hlogged hrecord, Memory.store32, Memory.store_outside _ _ (by omega),
    logBuf_byteCall hbyte] at hfirst
  by_cases hplace : (nextRecord bus).toNat ≤ logStart ringLen + vmrLogEntrySize * lastSlot bus ∧
      logStart ringLen + vmrLogEntrySize * lastSlot bus < (nextRecord bus).toNat + vmrLogEntrySize
  · obtain ⟨offset, hoffset⟩ := Nat.exists_eq_add_of_le hplace.1
    rw [hoffset, Memory.store_inside _ _ (by omega)] at hfirst
    rw [hoffset, logRecord_byteCall hfirst hbyte, Nat.add_zero]
  · rw [Memory.store_outside _ _ (by omega)] at hfirst
    exact absurd hfirst.symm hother

private theorem succ_lt_of_mod {index : Nat} (hlt : index < 2 ^ 32) (hmod : index % 2 ^ 27 < 50) :
    index + 1 < 2 ^ 32 := by
  omega

private theorem mod_before (index : Nat) : ((index + 1) % 50 + 50 - 1) % 50 = index % 50 := by
  omega

private theorem mod_of_recordOffset {start index place : Nat} (hlt : index < 2 ^ 32)
    (hplace : place < 50)
    (hoffset : (start + 96 * index) % 2 ^ 32 = start + 96 * place)
    (hlast : ((index + 1) % 2 ^ 32 % 50 + 50 - 1) % 50 = place) :
    index % (50 * 2 ^ 26) = place := by
  have hstart : start + 96 * place < 2 ^ 32 := hoffset ▸ Nat.mod_lt _ (by decide)
  have hsum : start + 96 * index ≡ start + 96 * place [MOD 2 ^ 32] :=
    hoffset.trans (Nat.mod_eq_of_lt hstart).symm
  have hwide : index ≡ place [MOD 2 ^ 27] :=
    (Nat.ModEq.add_left_cancel' start hsum).cancel_left_div_gcd (by decide)
  have hrest : index % 2 ^ 27 = place := Nat.mod_eq_of_modEq hwide (hplace.trans (by decide))
  have hrecords : index % 50 = place := by
    rw [Nat.mod_eq_of_lt (succ_lt_of_mod hlt (hrest ▸ hplace)), mod_before] at hlast
    exact hlast
  have hnarrow : index ≡ place [MOD 25] :=
    Nat.ModEq.of_dvd (by decide) (hrecords.trans (Nat.mod_eq_of_lt hplace).symm)
  have hboth : index ≡ place [MOD 2 ^ 27 * 25] :=
    (Nat.modEq_and_modEq_iff_modEq_mul (by decide)).1 ⟨hwide, hnarrow⟩
  exact Nat.mod_eq_of_modEq hboth (hplace.trans (by decide))

private theorem goodIndex_of_logKept {bus : Bus} (h : TableSet ringLen bus)
    (hkept : ∀ calls, LogKept ringLen calls bus) : GoodIndex (logMsgIndex bus) := by
  have hplace : lastSlot bus < 50 := Nat.mod_lt _ (by decide)
  have hrecord := (toNat_nextRecord h).symm.trans (nextRecord_of_logKept h hkept)
  rw [GoodIndex, mod_of_recordOffset (logMsgIndex bus).toNat_lt hplace hrecord rfl]
  exact hplace

/-- The index is used before it is reduced; a good one stays good. -/
theorem logKept_iff (ringLen : UInt32) (bus : Bus) (h : TableSet ringLen bus) :
    (∀ calls, LogKept ringLen calls bus) ↔ GoodIndex (logMsgIndex bus) :=
  ⟨goodIndex_of_logKept h, fun hindex => LogReady.logKept ⟨h, hindex⟩⟩

private theorem load32_initVmrStatus (hring : ringLen ≤ rpuRingBufferLen) (memory : Memory)
    {index : Nat}
    (h : index < (sharedMem ringLen).words.length) :
    (initVmrStatus ringLen memory).load32 (vmrEpRpuSharedMemoryStart.toNat + 4 * index) =
      (sharedMem ringLen).words[index] := by
  obtain ⟨hstatus, -, -⟩ := toNat_vmrDataStart hring
  have hlen : ringLen.toNat ≤ 0x1000 := UInt32.le_iff_toNat_le.1 hring
  have hbase : vmrEpRpuSharedMemoryStart.toNat = 0x38000000 := rfl
  have hwords : (sharedMem ringLen).words.length = 10 := rfl
  have haddr : (rpuSharedMemoryAddr (sharedMem ringLen).vmrStatusOff).toNat =
      0x38000000 + (0x1000 + ringLen.toNat) := by
    rw [rpuSharedMemoryAddr, UInt32.toNat_add, hstatus, hbase]
    exact Nat.mod_eq_of_lt (by omega)
  have hword := memory.load32_storeWords vmrEpRpuSharedMemoryStart.toNat 0
    (sharedMem ringLen).words h
  rw [Nat.zero_add] at hword
  exact (Memory.agreeOn_store _ _ (.inr (by omega))).load32.trans hword

def foundTable (ringLen : UInt32) (memory : Memory) (index : UInt32) : Bus :=
  ⟨(initVmrStatus ringLen memory).store32 logMsgIndexAddr.toNat index, []⟩

private theorem tableSet_foundTable (hring : ringLen ≤ rpuRingBufferLen) (memory : Memory)
    (index : UInt32) :
    TableSet ringLen (foundTable ringLen memory index) ∧
      logMsgIndex (foundTable ringLen memory index) = index := by
  have haddr := logMsgIndexAddr_toNat
  have hbase : vmrEpRpuSharedMemoryStart.toNat = 0x38000000 := rfl
  refine ⟨⟨hring, ?_, ?_⟩, Memory.load32_store32 _ _ index⟩
  · exact (Memory.agreeOn_store _ _ (.inr (by omega))).load32.trans
      (@load32_initVmrStatus ringLen hring memory 0 (show 0 < 10 by decide))
  · exact (Memory.agreeOn_store _ _ (.inl (by omega))).load32.trans
      (@load32_initVmrStatus ringLen hring memory 6 (show 6 < 10 by decide))

end Log

/-- From the last record on the ring wraps. -/
theorem logKept_last :
    TableSet vmrRingLen (foundTable vmrRingLen (fun _ => 0) 49) ∧
      ∀ calls, LogKept vmrRingLen calls (foundTable vmrRingLen (fun _ => 0) 49) := by
  obtain ⟨htable, hindex⟩ := tableSet_foundTable vmrRingLen_le (fun _ => 0) 49
  refine ⟨htable, (logKept_iff _ _ htable).2 ?_⟩
  rw [hindex]
  exact goodIndex_iff.2 (.inl (by decide))

/-- With the index 50 the record lies behind the log, where the data area starts. -/
theorem not_logKept_behind :
    TableSet vmrRingLen (foundTable vmrRingLen (fun _ => 0) 50) ∧
      ¬ LogKept vmrRingLen [byteCall 0x41] (foundTable vmrRingLen (fun _ => 0) 50) := by
  obtain ⟨htable, hindex⟩ := tableSet_foundTable vmrRingLen_le (fun _ => 0) 50
  obtain ⟨hstart, hlen⟩ := logStart_eq vmrRingLen_le
  have hrecord : (nextRecord (foundTable vmrRingLen (fun _ => 0) 50)).toNat =
      logStart vmrRingLen + vmrLogEntrySize * vmrLogMaxRecs := by
    rw [toNat_nextRecord htable, hindex]
    exact Nat.mod_eq_of_lt (by simp only [vmrLogEntrySize, UInt32.reduceToNat]; omega)
  refine ⟨htable, fun hkept => ?_⟩
  have hinside := hkept.inside
  rw [(logged_byteCall htable (by decide)).2] at hinside
  have hfirst := List.forall_mem_singleton.1 hinside _
    ⟨0, by decide, (Nat.mod_eq_of_lt (UInt32.toNat_lt _)).symm⟩
  rw [hrecord] at hfirst
  exact Nat.lt_irrefl _ hfirst.2

end Vmr.Rmgmt
