import Vmr.Lib.Outcome
import Vmr.Rmgmt.LogSources
import Vmr.Xgq.Client

/-!
# Requests to the APU

`cl_xgq_client.c` as a program over the rings, the memory that is shared with the
APU and the lock of the data in it.  A request is produced, and once a second the
completion ring is looked at, up to `APU_XGQ_TIMEOUT` times; the first completion
is taken for the answer.
-/

namespace Vmr.Apu

open Vmr.Lib Vmr.Xgq Vmr.Rmgmt

def apuRingBufferSize : UInt32 := 0x1000
def vmrEpApuSharedMemoryStart : UInt32 := 0x37000000
def vmrEpApuSharedMemoryEnd : UInt32 := 0x37FF0000

def apuSharedMemoryAddr (offset : UInt32) : UInt32 := vmrEpApuSharedMemoryStart + offset

structure SharedMem where
  apuChannelReady : UInt32
  apuXgqRingBuffer : UInt32
  deriving DecidableEq, Repr

inductive Command
  | identify
  | logPage (address size offset : UInt32) (pid : UInt16)
  | trunk (address size remainSize : UInt32) (priv : UInt64)
  deriving DecidableEq, Repr

def Command.kind : Command → RequestKind
  | .identify => .identify
  | .logPage .. => .logPage
  | .trunk .. => .trunk

abbrev Semaphore := Nat

inductive ApuOp
  | readSharedMem
  | createMutex
  | deleteMutex (semaphore : Option Semaphore)
  | takeMutex (semaphore : Option Semaphore)
  | giveMutex (semaphore : Option Semaphore)
  | attach (ringAddr : UInt32)
  | produce
  | writeCommand (slot : UInt32) (command : Command)
  | notifyProduced
  | delay
  | consume
  | readCompletion (slot : UInt64)
  | notifyConsumed
  | copyTo (addr : UInt32) (data : List UInt8)
  | copyFrom (addr : UInt32)

def ApuAns : ApuOp → Type
  | .readSharedMem => Option SharedMem
  | .createMutex => Option Semaphore
  | .deleteMutex _ => Unit
  | .takeMutex _ => Bool
  | .giveMutex _ => Bool
  | .attach _ => Int
  | .produce => Int × UInt64
  | .writeCommand _ _ => Unit
  | .notifyProduced => Unit
  | .delay => Unit
  | .consume => Int × UInt64
  | .readCompletion _ => Entry
  | .notifyConsumed => Unit
  | .copyTo _ _ => Unit
  | .copyFrom _ => Memory

abbrev ApuProg := Prog ApuOp ApuAns

abbrev ApuEvent := Prog.Event ApuOp ApuAns

abbrev issue (o : ApuOp) : ApuProg (ApuAns o) := Prog.perform o

structure ApuClient where
  mem : SharedMem
  semaData : Option Semaphore
  xgqApuReady : Bool
  deriving DecidableEq, Repr

def ApuClient.init : ApuClient := ⟨⟨0, 0⟩, none, false⟩

def clRmgmtApuIsReady (client : ApuClient) : Bool := client.xgqApuReady

/-! ## Completions -/

def cqRcode (cq : Entry) : UInt32 := cq.word32 12

def cqCount (cq : Entry) : UInt32 := cq.word32 4

structure VmrCmdIdentify where
  major : UInt16
  minor : UInt16
  deriving DecidableEq, Repr

def cqIdentify (cq : Entry) : VmrCmdIdentify := ⟨cq.word16 6, cq.word16 4⟩

def cqCmdCompleteCheck (cq : Entry) : Int :=
  if cqCid cq ≠ apuMagicId then -einval
  else if cqRcode cq ≠ 0 then -eio
  else 0

def xclbinCmdComplete (cq : Entry) : UInt32 :=
  if cqCmdCompleteCheck cq ≠ 0 then 0 else cqCount cq

def identifyCmdComplete (cq : Entry) (idCmd : VmrCmdIdentify) : Int × VmrCmdIdentify :=
  let ret := cqCmdCompleteCheck cq
  if ret ≠ 0 then (ret, idCmd) else (0, cqIdentify cq)

section Requests

variable (client : ApuClient)

/-! ## The data area -/

def dataOff : UInt32 := client.mem.apuXgqRingBuffer + apuRingBufferSize

def dataSize : UInt32 := vmrEpApuSharedMemoryEnd - apuSharedMemoryAddr (dataOff client) + 1

def shmAcquireData : ApuProg (Option (UInt32 × UInt32)) := do
  let taken : Bool ← issue (.takeMutex client.semaData)
  if taken = false then return none else return some (dataOff client, dataSize client)

def shmReleaseData : ApuProg Bool := issue (.giveMutex client.semaData)

/-! ## Request and answer -/

def sendCommand (slot : UInt64) (command : Command) : ApuProg Unit := do
  let () ← issue (.writeCommand slot.toUInt32 command)
  issue .notifyProduced

def awaitCompletion {α : Type} (complete : Entry → ApuProg α) : Nat → Int → ApuProg (Except Int α)
  | 0, rval => return .error rval
  | rounds + 1, _ => do
      let () ← issue .delay
      let (rval, slot) ← issue .consume
      if rval ≠ 0 then awaitCompletion complete rounds rval
      else
        let cq : Entry ← issue (.readCompletion slot)
        let value ← complete cq
        let () ← issue .notifyConsumed
        return .ok value

/-! ## Identify -/

def rmgmtApuIdentify (idCmd : VmrCmdIdentify) : ApuProg (Int × VmrCmdIdentify) :=
  if clRmgmtApuIsReady client = false then return (-enodev, idCmd)
  else do
    let (rval, slot) ← issue .produce
    if rval ≠ 0 then return (rval, idCmd)
    else
      sendCommand slot .identify
      let answer ← awaitCompletion (fun cq => return identifyCmdComplete cq idCmd) apuXgqTimeout 0
      match answer with
      | .ok result => return result
      | .error _ => return (-ebusy, idCmd)

/-! ## Log pages -/

def logPageCmdComplete (cq : Entry) (address reqSize : UInt32) : ApuProg (Int × List UInt8) :=
  if cqCmdCompleteCheck cq ≠ 0 then return (0, [])
  else do
    let returnSize := min (cqCount cq) reqSize
    let shared : Memory ← issue (.copyFrom (apuSharedMemoryAddr address))
    return (signed32 returnSize, shared.slice 0 returnSize.toNat)

def requestLogPage (address reqSize off : UInt32) (pid : UInt16) : ApuProg (Int × List UInt8) := do
  let (rval, slot) ← issue .produce
  if rval ≠ 0 then return (0, [])
  else
    sendCommand slot (.logPage address reqSize off pid)
    let answer ← awaitCompletion (logPageCmdComplete · address reqSize) apuXgqTimeout rval
    match answer with
    | .ok result => return result
    | .error rval => return (rval, [])

def rmgmtApuLogPage (off reqSize : UInt32) (pid : UInt16) : ApuProg (Int × List UInt8) :=
  if clRmgmtApuIsReady client = false then return (0, [])
  else do
    match ← shmAcquireData client with
    | none => return (0, [])
    | some (logAddress, logSize) =>
        let result ← requestLogPage logAddress (min reqSize logSize) off pid
        let _ ← shmReleaseData client
        return result

def rmgmtApuInfo (size : UInt32) : ApuProg (Int × List UInt8) := rmgmtApuLogPage client 0 size 0x2

def rmgmtApuLog (off size : UInt32) : ApuProg (Int × List UInt8) :=
  rmgmtApuLogPage client off size 0x9

/-! ## Xclbins -/

/-- The error number of a client that is not ready is returned as a count. -/
def clXgqApuDownloadTrunk (data : List UInt8) (trunkSize remainSize baseOff : UInt32)
    (priv : UInt64) : ApuProg UInt32 :=
  if clRmgmtApuIsReady client = false then return UInt32.ofInt (-enodev)
  else do
    let () ← issue (.copyTo (apuSharedMemoryAddr baseOff) data)
    let (rval, slot) ← issue .produce
    if rval ≠ 0 then return 0
    else
      sendCommand slot (.trunk baseOff trunkSize remainSize priv)
      let answer ← awaitCompletion (fun cq => return xclbinCmdComplete cq) apuXgqTimeout 0
      match answer with
      | .ok count => return count
      | .error _ => return 0

def downloadTrunks (data : Memory) (priv : UInt64) (baseOff dataSize : UInt32) :
    Nat → UInt32 → UInt32 → ApuProg (Option Int)
  | 0, _, _ => return none
  | rounds + 1, remainSize, offset =>
      if remainSize = 0 then return some 0
      else do
        let trunkSize := if remainSize > dataSize then dataSize else remainSize
        let count ← clXgqApuDownloadTrunk client (data.slice offset.toNat trunkSize.toNat) trunkSize
          (remainSize - trunkSize) baseOff priv
        if count ≠ trunkSize then return some (-eio)
        else
          downloadTrunks data priv baseOff dataSize rounds (remainSize - trunkSize)
            (offset + trunkSize)

def downloadLocked (rounds : Nat) (data : Memory) (size : UInt32) (priv : UInt64) :
    ApuProg (Option Int) := do
  match ← shmAcquireData client with
  | none => return some (-ebusy)
  | some (baseOff, dataSize) =>
      match ← downloadTrunks client data priv baseOff dataSize rounds size 0 with
      | none => return none
      | some ret =>
          let _ ← shmReleaseData client
          return some ret

def rmgmtApuDownloadXclbin (rounds : Nat) (data : Option Memory) (size : UInt32) (priv : UInt64) :
    ApuProg (Option Int) :=
  if clRmgmtApuIsReady client = false then return some (-enodev)
  else match data with
    | none => return some (-einval)
    | some data =>
        if size = 0 then return some (-einval) else downloadLocked client rounds data size priv

/-! ## Probing the channel -/

def probeFailure : ApuProg (Int × ApuClient) := do
  let () ← issue (.deleteMutex client.semaData)
  return (-einval, { client with xgqApuReady := false })

/-- The client is ready already; what does not identify itself as supported is given up. -/
def probeIdentify : ApuProg (Int × ApuClient) := do
  let (ret, idCmd) ← rmgmtApuIdentify client ⟨0, 0⟩
  if ret ≠ 0 then probeFailure client
  else if idCmd.major ≠ 1 ∧ idCmd.minor ≠ 0 then probeFailure client
  else return (0, client)

def probeAttach : ApuProg (Int × ApuClient) := do
  let ret : Int ← issue (.attach (apuSharedMemoryAddr client.mem.apuXgqRingBuffer))
  if ret ≠ 0 then probeFailure client
  else probeIdentify { client with xgqApuReady := true }

def probeChannel : ApuProg (Int × ApuClient) :=
  if client.mem.apuChannelReady = 0 then return (-enodev, client)
  else do
    let semaData : Option Semaphore ← issue .createMutex
    if semaData = none then return (-enomem, { client with semaData })
    else probeAttach { client with semaData }

def clRmgmtApuChannelProbe : ApuProg (Int × ApuClient) :=
  if clRmgmtApuIsReady client then return (-enodev, client)
  else do
    let read : Option SharedMem ← issue .readSharedMem
    match read with
    | none => return (-enodev, client)
    | some mem => probeChannel { client with mem }

end Requests

/-! ## What a request was answered -/

def completions (events : List ApuEvent) : List Entry :=
  events.filterMap fun event => match event with
    | ⟨.readCompletion _, cq⟩ => some (show Entry from cq)
    | _ => none

theorem completions_append (first second : List ApuEvent) :
    completions (first ++ second) = completions first ++ completions second :=
  List.filterMap_append

/-- An APU that is up, with this completion in the ring, if any, whenever the ring is looked at. -/
def apuAnswering (completion : Option Entry) (s : Unit) : (o : ApuOp) → ApuAns o × Unit
  | .readSharedMem => (some ⟨1, 4⟩, s)
  | .createMutex => (some 1, s)
  | .deleteMutex _ => ((), s)
  | .takeMutex _ => (true, s)
  | .giveMutex _ => (true, s)
  | .attach _ => (show Int from 0, s)
  | .produce => ((0, 0x37000100), s)
  | .writeCommand _ _ => ((), s)
  | .notifyProduced => ((), s)
  | .delay => ((), s)
  | .consume => (if completion = none then (-2, 0) else (0, 0x37000200), s)
  | .readCompletion _ => (completion.getD fun _ => 0, s)
  | .notifyConsumed => ((), s)
  | .copyTo _ _ => ((), s)
  | .copyFrom _ => (fun _ => 0, s)

def countCq (count : UInt32) : Entry := fun offset =>
  if offset < 2 then byteAt apuMagicId.toNat offset
  else if offset < 4 then 0
  else if offset < 8 then byteAt count.toNat (offset - 4)
  else 0

/-! ## Waiting -/

inductive Waited : List ApuEvent → Prop
  | nil : Waited []
  | attempt {rval : Int} {slot : UInt64} {events : List ApuEvent} (hrval : rval ≠ 0)
      (rest : Waited events) :
      Waited (⟨.delay, ()⟩ :: ⟨.consume, (rval, slot)⟩ :: events)

def answered (slot : UInt64) (cq : Entry) (completing : List ApuEvent) : List ApuEvent :=
  ⟨.delay, ()⟩ :: ⟨.consume, ((0 : Int), slot)⟩ :: ⟨.readCompletion slot, cq⟩ ::
    (completing ++ [⟨.notifyConsumed, ()⟩])

theorem Waited.completions {events : List ApuEvent} (h : Waited events) :
    completions events = [] := by
  induction h with
  | nil => rfl
  | attempt _ _ ih => exact ih

theorem outcome_awaitCompletion {α : Type} {complete : Entry → ApuProg α} {rounds : Nat}
    {rval : Int} {events : List ApuEvent} {result : Except Int α}
    (run : Prog.Outcome (awaitCompletion complete rounds rval) events result) :
    (∃ waited slot cq completing value, Waited waited ∧
      events = waited ++ answered slot cq completing ∧ result = .ok value ∧
      Prog.Outcome (complete cq) completing value) ∨
    ∃ last, Waited events ∧ result = .error last ∧ (last = rval ∨ last ≠ 0) ∧
      (rounds ≠ 0 → last ≠ 0) := by
  induction rounds generalizing rval events with
  | zero =>
      obtain ⟨rfl, rfl⟩ := Prog.outcome_ret.1 run
      exact .inr ⟨rval, .nil, rfl, .inl rfl, fun h => absurd rfl h⟩
  | succ rounds ih =>
      obtain ⟨_, rest, rfl, hdelayed⟩ := Prog.outcome_perform_bind.1 run
      obtain ⟨⟨consumed, slot⟩, rest, rfl, hconsumed⟩ := Prog.outcome_perform_bind.1 hdelayed
      by_cases hfound : consumed = 0
      · subst hfound
        obtain ⟨cq, rest, rfl, hread⟩ := Prog.outcome_perform_bind.1 hconsumed
        obtain ⟨value, completing, rest, rfl, hcomplete, hend⟩ := Prog.outcome_bind.1 hread
        obtain ⟨_, rest, rfl, hnotified⟩ := Prog.outcome_perform_bind.1 hend
        obtain ⟨rfl, rfl⟩ := Prog.outcome_ret.1 hnotified
        exact .inl ⟨[], slot, cq, completing, value, .nil, rfl, rfl, hcomplete⟩
      · dsimp only at hconsumed
        rw [if_pos hfound] at hconsumed
        rcases ih hconsumed with ⟨waited, slot', cq, completing, value, hwaited, rfl, rfl, hcomplete⟩ |
          ⟨last, hwaited, rfl, hlast, -⟩
        · exact .inl ⟨_, slot', cq, completing, value, .attempt hfound hwaited, rfl, rfl, hcomplete⟩
        · have hlast : last ≠ 0 := by
            rcases hlast with rfl | hlast
            · exact hfound
            · exact hlast
          exact .inr ⟨last, .attempt hfound hwaited, rfl, .inr hlast, fun _ => hlast⟩

theorem outcome_request {α β : Type} (unsent : Int → ApuProg β) (start : Int → Int)
    {command : Command} {complete : Entry → ApuProg α} {rounds : Nat}
    {taken : Except Int α → ApuProg β} {events : List ApuEvent} {result : β}
    (run : Prog.Outcome (do
      let (rval, slot) ← issue .produce
      if rval ≠ 0 then unsent rval
      else
        sendCommand slot command
        let answer ← awaitCompletion complete rounds (start rval)
        taken answer) events result) :
    (∃ rval slot rest, rval ≠ 0 ∧ events = ⟨.produce, (rval, slot)⟩ :: rest ∧
      Prog.Outcome (unsent rval) rest result) ∨
    ∃ slot answer waiting rest,
      events = ⟨.produce, ((0 : Int), slot)⟩ :: ⟨.writeCommand slot.toUInt32 command, ()⟩ ::
        ⟨.notifyProduced, ()⟩ :: (waiting ++ rest) ∧
      Prog.Outcome (awaitCompletion complete rounds (start 0)) waiting answer ∧
      Prog.Outcome (taken answer) rest result := by
  obtain ⟨⟨rval, slot⟩, rest, rfl, hproduced⟩ := Prog.outcome_perform_bind.1 run
  by_cases hspace : rval = 0
  · subst hspace
    obtain ⟨_, rest, rfl, hwritten⟩ := Prog.outcome_perform_bind.1 hproduced
    obtain ⟨_, rest, rfl, hnotified⟩ := Prog.outcome_perform_bind.1 hwritten
    obtain ⟨answer, waiting, rest, rfl, hwait, hanswer⟩ := Prog.outcome_bind.1 hnotified
    exact .inr ⟨slot, answer, waiting, rest, rfl, hwait, hanswer⟩
  · dsimp only at hproduced
    rw [if_pos hspace] at hproduced
    exact .inl ⟨rval, slot, rest, hspace, rfl, hproduced⟩

end Vmr.Apu
