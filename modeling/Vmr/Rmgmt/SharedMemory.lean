import Mathlib.Data.Set.Basic
import Vmr.Asdm.Request
import Vmr.Lib.Transition
import Vmr.Rmgmt.FlashImage
import Vmr.Rmgmt.LogWindow
import Vmr.Rmgmt.PayloadWindow
import Vmr.Rmgmt.XclbinDownload
import Vmr.Xclbin.Cells
import Vmr.Xgq.Alloc

/-!
# Requests of the host and the layout of the shared memory

The shared memory holds the partition table, the ring, the status word and the log,
and behind them the data area.  Requests name addresses in it, and nothing compares
them with the start of the data area.
-/

namespace Vmr.Rmgmt

open Vmr.Lib Vmr.Shm Vmr.Xclbin Vmr.Flash

/-! ## The layout -/

def vmrMagicNo : UInt32 := 0x564D5230
def vmrPartitionTableSize : UInt32 := 0x1000
def rpuRingBufferLen : UInt32 := 0x1000
def logBufLen : UInt32 := 96 * 50

structure VmrSharedMem where
  vmrMagicNo : UInt32
  ringBufferOff : UInt32
  ringBufferLen : UInt32
  vmrStatusOff : UInt32
  vmrStatusLen : UInt32
  logMsgIndex : UInt32
  logMsgBufOff : UInt32
  logMsgBufLen : UInt32
  vmrDataStart : UInt32
  vmrDataEnd : UInt32

def VmrSharedMem.words (mem : VmrSharedMem) : List UInt32 :=
  [mem.vmrMagicNo, mem.ringBufferOff, mem.ringBufferLen, mem.vmrStatusOff, mem.vmrStatusLen,
    mem.logMsgIndex, mem.logMsgBufOff, mem.logMsgBufLen, mem.vmrDataStart, mem.vmrDataEnd]

def sharedMem (ringLen : UInt32) : VmrSharedMem :=
  let vmrStatusOff := vmrPartitionTableSize + ringLen
  let logMsgBufOff := vmrStatusOff + 4
  { vmrMagicNo := vmrMagicNo
    ringBufferOff := vmrPartitionTableSize
    ringBufferLen := ringLen
    vmrStatusOff := vmrStatusOff
    vmrStatusLen := 4
    logMsgIndex := 0
    logMsgBufOff := logMsgBufOff
    logMsgBufLen := logBufLen
    vmrDataStart := logMsgBufOff + logBufLen
    vmrDataEnd := vmrEpRpuSharedMemoryEnd - vmrEpRpuSharedMemoryStart }

def initVmrStatus (ringLen : UInt32) (memory : Memory) : Memory :=
  let mem := sharedMem ringLen
  let memory := mem.words.zipIdx.foldl (fun memory word =>
    memory.store32 (vmrEpRpuSharedMemoryStart.toNat + 4 * word.2) word.1) memory
  -- re-init device stat to 0
  memory.store32 (rpuSharedMemoryAddr mem.vmrStatusOff).toNat 0

section Layout

variable (ringLen : UInt32)

def areaAt (offset size : UInt32) : Area :=
  ⟨vmrEpRpuSharedMemoryStart.toNat + offset.toNat, size.toNat⟩

def controlAreas : List Area :=
  let mem := sharedMem ringLen
  [areaAt 0 vmrPartitionTableSize, areaAt mem.ringBufferOff mem.ringBufferLen,
    areaAt mem.vmrStatusOff mem.vmrStatusLen, areaAt mem.logMsgBufOff mem.logMsgBufLen]

def dataArea : Area :=
  let mem := sharedMem ringLen
  areaAt mem.vmrDataStart (mem.vmrDataEnd - mem.vmrDataStart)

variable {ringLen}

theorem toNat_vmrDataStart (hring : ringLen ≤ rpuRingBufferLen) :
    (sharedMem ringLen).vmrStatusOff.toNat = 0x1000 + ringLen.toNat ∧
      (sharedMem ringLen).logMsgBufOff.toNat = 0x1000 + ringLen.toNat + 4 ∧
      (sharedMem ringLen).vmrDataStart.toNat = 0x1000 + ringLen.toNat + 4 + 4800 := by
  have hlen : ringLen.toNat ≤ 0x1000 := UInt32.le_iff_toNat_le.1 hring
  have hstatus : (sharedMem ringLen).vmrStatusOff.toNat = 0x1000 + ringLen.toNat := by
    rw [sharedMem, UInt32.toNat_add]
    exact Nat.mod_eq_of_lt (by simp only [vmrPartitionTableSize, UInt32.reduceToNat]; omega)
  have hlog : (sharedMem ringLen).logMsgBufOff.toNat = 0x1000 + ringLen.toNat + 4 := by
    change ((sharedMem ringLen).vmrStatusOff + 4).toNat = _
    rw [UInt32.toNat_add, hstatus]
    exact Nat.mod_eq_of_lt (by simp only [UInt32.reduceToNat]; omega)
  refine ⟨hstatus, hlog, ?_⟩
  change ((sharedMem ringLen).logMsgBufOff + logBufLen).toNat = _
  rw [UInt32.toNat_add, hlog]
  exact Nat.mod_eq_of_lt (by simp only [logBufLen, UInt32.reduceToNat, UInt32.reduceMul]; omega)

private theorem layout_apart (hring : ringLen ≤ rpuRingBufferLen) :
    (controlAreas ringLen ++ [dataArea ringLen]).Pairwise Area.Apart := by
  obtain ⟨hstatus, hlog, hdata⟩ := toNat_vmrDataStart hring
  have hpack : controlAreas ringLen ++ [dataArea ringLen] =
      Area.pack vmrEpRpuSharedMemoryStart.toNat [0x1000, ringLen.toNat, 4, 4800,
        ((sharedMem ringLen).vmrDataEnd - (sharedMem ringLen).vmrDataStart).toNat] := by
    simp only [controlAreas, dataArea, areaAt, Area.pack, hstatus, hlog, hdata, List.cons_append,
      List.nil_append]
    simp only [sharedMem, vmrPartitionTableSize, logBufLen, UInt32.reduceToNat, UInt32.reduceMul,
      Nat.add_assoc, Nat.add_zero]
  rw [hpack]
  exact Area.pack_apart _ _

private theorem not_mem_control (hring : ringLen ≤ rpuRingBufferLen) {area : Area}
    (harea : area ∈ controlAreas ringLen) {address : Nat}
    (hdata : address ∈ (dataArea ringLen).cells) : address ∉ area.cells := fun haddress =>
  ((List.pairwise_append.1 (layout_apart hring)).2.2 area harea _
    (List.mem_singleton_self _)).not_mem haddress hdata

private theorem dataArea_end (hring : ringLen ≤ rpuRingBufferLen) :
    (dataArea ringLen).start + (dataArea ringLen).size = vmrEpRpuSharedMemoryEnd.toNat := by
  obtain ⟨-, -, hdata⟩ := toNat_vmrDataStart hring
  have hlen : ringLen.toNat ≤ 0x1000 := UInt32.le_iff_toNat_le.1 hring
  have hend : (sharedMem ringLen).vmrDataEnd.toNat = 0x7FFF000 := rfl
  have hsize := UInt32.toNat_sub_of_le (sharedMem ringLen).vmrDataEnd
    (sharedMem ringLen).vmrDataStart (UInt32.le_iff_toNat_le.2 (by omega))
  simp only [dataArea, areaAt, hsize, hdata, hend, vmrEpRpuSharedMemoryStart,
    vmrEpRpuSharedMemoryEnd, UInt32.reduceToNat]
  omega

end Layout

/-! ## Requests -/

structure DownloadRequest extends DataPayload where
  remainSize : UInt32

def DownloadRequest.base (request : DownloadRequest) : UInt32 :=
  rpuSharedMemoryAddr request.address

def DownloadRequest.Accepted (request : DownloadRequest) : Prop :=
  validateDataPayload bitstreamSize request.toDataPayload = 0 ∧ request.remainSize = 0

def clVmcSensorRequest (payload : SensorPayload) (answer : Asdm.Answer) (bus : Bus) : Int × Bus :=
  let ret := validateSensorPayload payload
  if ret ≠ 0 then (ret, bus)
  else if answer.status ≠ 0 then (-einval, bus)
  else if payload.size.toNat < answer.respSize.toNat then (-einval, bus)
  else (0, (clMemcpyToio8 (rpuSharedMemoryAddr payload.address)
    (fun index => (answer.resp index).getD 0) 0 answer.respSize.toNat bus).2)

def sensorLength (payload : SensorPayload) (answer : Asdm.Answer) : Nat :=
  if validateSensorPayload payload ≠ 0 ∨ answer.status ≠ 0 ∨
    payload.size.toNat < answer.respSize.toNat then 0
  else answer.respSize.toNat

namespace FlashCall

variable (call : FlashCall)

/-- The partition may be written, with the boot tag taken out of the image. -/
def MasksTag : Prop := call.rh.rhAlreadyFlashed = false ∧ call.request.flashToLegacy = false

def tagCells : Set Nat :=
  {address | call.MasksTag ∧ ∃ pdiData len, call.pdi = some (pdiData, len) ∧
    plmBootTagAddr pdiData ≤ address ∧ address < plmBootTagAddr pdiData + 4}

end FlashCall

section Trims

variable (xclbin : Memory)

def trimAreas (kind : UInt32) : List Area :=
  if sectionPointer xclbin kind = none then []
  else removeAreas kind (mNumSections xclbin).toNat 0 xclbin

def downloadAreas : List Area :=
  trimAreas xclbin bitstreamPartialPdi ++
    trimAreas (afterSection xclbin bitstreamPartialPdi) axlfPdi

def Trims : Prop :=
  sectionPointer xclbin bitstreamPartialPdi ≠ none ∨ sectionPointer xclbin axlfPdi ≠ none

end Trims

def putXclbin (memory : Memory) (base : UInt32) (xclbin : Memory) : Memory := fun address =>
  if base.toNat ≤ address then xclbin (address - base.toNat) else memory address

def downloadCells (base : UInt32) (xclbin : Memory) : Set Nat :=
  {address | ∃ area ∈ downloadAreas xclbin, ∃ offset ∈ area.cells, address = base.toNat + offset}

/-! ## Runs -/

/-- The memory, and what has been written for requests of the host. -/
structure ShmState where
  memory : Memory
  written : Set Nat

def ShmState.wrote (s : ShmState) (memory : Memory) (cells : Set Nat) : ShmState :=
  ⟨memory, s.written ∪ cells⟩

def ShmState.wroteBus (s : ShmState) (bus : Bus) : ShmState :=
  s.wrote bus.memory {address | address ∈ bus.written}

private theorem mem_written_wroteBus {s : ShmState} {bus : Bus} {address : Nat} :
    address ∈ (s.wroteBus bus).written ↔ address ∈ s.written ∨ address ∈ bus.written := Iff.rfl

inductive HostRequest
  | logPage (sources : LogSources) (request : LogPayload) (multiboot : MultibootPayload)
      (rhLog : Memory)
  | sensor (payload : SensorPayload) (answer : Asdm.Answer)
  | basePdi (request : DownloadRequest) (call : FlashCall)
  | xclbin (request : DownloadRequest)
  /-- The host fills the memory; the queue, the status and the log are served. -/
  | other

/-- What the flash and the consumers of an xclbin answer is left open. -/
def HostStep (s : ShmState) : HostRequest → ShmState → Prop
  | .logPage sources request multiboot rhLog, s' =>
      s' = s.wroteBus
        (clRmgmtLogPage sources (received request multiboot rhLog s.memory)).2.bus
  | .sensor payload answer, s' =>
      s' = s.wroteBus (clVmcSensorRequest payload answer ⟨s.memory, []⟩).2
  | .basePdi request call, s' =>
      (¬ request.Accepted ∧ s' = s) ∨
        request.Accepted ∧ call.env.memory = s.memory ∧ call.rh.rhDataBase = request.base ∧
        ∃ (σ : Type) (respond : σ → (op : OspiOp) → Option (OspiAns op × σ)) (flash flash' : σ)
          (result : FlashResult), call.prog.answers respond flash = some (result, flash') ∧
          s' = s.wrote result.memory call.tagCells
  | .xclbin request, s' =>
      (¬ request.Accepted ∧ s' = s) ∨
        request.Accepted ∧ ∃ result : DownloadResult,
          Prog.Returns anyAnswer ()
            (rmgmtFpgaDownload (dataAt s.memory request.base) request.size) result () ∧
          s' = s.wrote (putXclbin s.memory request.base result.xclbin)
            (downloadCells request.base (dataAt s.memory request.base))
  | .other, s' => s'.written = s.written

def hostRequests (ringLen : UInt32) : TransitionSystem ShmState HostRequest where
  init s := ∃ memory, s = ⟨initVmrStatus ringLen memory, ∅⟩
  step := HostStep

def InData (ringLen addr : UInt32) (length : Nat) : Prop :=
  length = 0 ∨ (dataArea ringLen).start ≤ addr.toNat ∧
    addr.toNat + length ≤ vmrEpRpuSharedMemoryEnd.toNat

/-- The request stays away from what lies in front of the data area. -/
def Fits (ringLen : UInt32) (s : ShmState) : HostRequest → Prop
  | .logPage sources request multiboot rhLog =>
      InData ringLen (rpuSharedMemoryAddr request.address)
        (pageLength sources (received request multiboot rhLog s.memory))
  | .sensor payload answer =>
      InData ringLen (rpuSharedMemoryAddr payload.address) (sensorLength payload answer)
  | .basePdi request call =>
      request.Accepted → call.MasksTag → ∀ pdiData len, call.pdi = some (pdiData, len) →
        (dataArea ringLen).start ≤ plmBootTagAddr pdiData ∧
          plmBootTagAddr pdiData + 4 ≤ vmrEpRpuSharedMemoryEnd.toNat
  | .xclbin request =>
      request.Accepted → Trims (dataAt s.memory request.base) →
        WellFormed (dataAt s.memory request.base) ∧
          (dataArea ringLen).start ≤ request.base.toNat + lengthAddr ∧
          request.base.toNat + (mLength (dataAt s.memory request.base)).toNat ≤
            vmrEpRpuSharedMemoryEnd.toNat
  | .other => True

/-! ## What a page does not write stays -/

section Leads

variable (sources : LogSources) (state : LogState)

private theorem leads_copyLog (rhLog : Memory) (dst : UInt32) (len : Nat) :
    state.bus.Leads ({ state with rhLog := rhLog }.copyLog dst len).bus := by
  rw [LogState.copyLog, clMemcpyToio_eq]
  exact Bus.leads_writeBytes _ _ _

private theorem leads_healthyCheck : state.bus.Leads (rmgmtHealthyCheck sources state).2.bus := by
  have hshutdown : state.bus.Leads (rmgmtLogClockShutdown sources state).2.bus := by
    unfold rmgmtLogClockShutdown
    dsimp only
    split
    · exact leads_copyLog state _ _ _
    · exact .refl _
  have hfirewall (state : LogState) : state.bus.Leads (rmgmtCheckFirewall sources state).2.bus := by
    unfold rmgmtCheckFirewall
    dsimp only
    split
    · exact leads_copyLog state _ _ _
    · exact .refl _
  have hthrottling (state : LogState) :
      state.bus.Leads (rmgmtLogClockThrottlingPercentage sources state).2.bus := by
    unfold rmgmtLogClockThrottlingPercentage
    dsimp only
    split
    · exact leads_copyLog state _ _ _
    · exact .refl _
  rw [rmgmtHealthyCheck]
  dsimp only
  split
  · exact hshutdown
  · split
    · exact hshutdown.trans (hfirewall _)
    · exact (hshutdown.trans (hfirewall _)).trans (hthrottling _)

private theorem leads_loadImage (found : MultibootPayload × Option (UInt32 × UInt32)) :
    state.bus.Leads (loadImage state found).2.bus := by
  unfold loadImage
  dsimp only
  split
  · exact .refl _
  · split
    · exact .refl _
    · exact Bus.leads_copy _ _ _ _

private theorem leads_copyFrom (buf : Memory) (len : Nat) (size : UInt32) :
    state.bus.Leads ((state.copyFrom buf len).setSize size).bus :=
  Bus.leads_writeBytes _ _ _

private theorem leads_loadFpt (type : FptType) :
    state.bus.Leads (rmgmtLoadFpt sources state type).2.bus := by
  unfold rmgmtLoadFpt
  dsimp only
  split
  · exact .refl _
  · split
    · exact .refl _
    · split
      · exact .refl _
      · exact leads_copyFrom state _ _ _

private theorem leads_loadShellInterfaceUuid :
    state.bus.Leads (rmgmtLoadShellInterfaceUuid sources state).2.bus := by
  unfold rmgmtLoadShellInterfaceUuid
  dsimp only
  split
  · exact .refl _
  · split
    · exact .refl _
    · split
      · exact .refl _
      · exact Bus.leads_writeBytes _ _ _

private theorem leads_syncPlmData : state.bus.Leads (rmgmtSyncPlmData state).2.bus := by
  unfold rmgmtSyncPlmData
  dsimp only
  split
  · exact .refl _
  · exact Bus.leads_copy _ _ _ _

private theorem leads_loadApuLog : state.bus.Leads (rmgmtLoadApuLog sources state).2.bus := by
  unfold rmgmtLoadApuLog
  dsimp only
  split
  · exact .refl _
  · exact Bus.leads_writeBytes _ _ _

private theorem leads_copyQueries {queries : List Query} {lengths : List Nat}
    (h : List.Forall₂ Prints queries lengths) (totalCount : Nat) :
    state.bus.Leads (copyQueries queries totalCount state).bus := by
  induction h generalizing state totalCount with
  | nil => exact .refl _
  | @cons query length queries lengths hquery _ ih =>
      have hprint : state.bus.Leads (query state rhLogMaxSize).1.bus := by
        rw [hquery.bus]
        exact .refl _
      rw [copyQueries]
      split
      · exact hprint
      · exact (hprint.trans (leads_copyLog (query state rhLogMaxSize).1 _ _ _)).trans (ih _ _)

private theorem leads_taskStats : state.bus.Leads (vmrRtosTaskStats sources state).2.bus := by
  unfold vmrRtosTaskStats
  dsimp only
  split
  · exact .refl _
  · exact leads_copyLog state _ _ _

private theorem leads_memStats : state.bus.Leads (vmrRtosMemStats sources state).2.bus := by
  unfold vmrRtosMemStats
  dsimp only
  -- Left as it is, the printed text would be run to unify the two copies.
  generalize snprintf state.rhLog 0 rhLogMaxSize (memStatsText sources.heapStats) = printed
  exact leads_copyLog state printed.1 _ _

private theorem leads_logPage : state.bus.Leads (clRmgmtLogPage sources state).2.bus := by
  rw [clRmgmtLogPage]
  cases clLogType state.payload.pid with
  | none => exact .refl _
  | some page =>
      cases page with
      | afCheck => exact leads_healthyCheck sources state
      | fw => exact leads_loadImage state _
      | info => exact leads_copyQueries state (prints_info sources) 0
      | afClear => exact .refl _
      | endpoint => exact leads_copyQueries state (prints_endpoint sources) 0
      | taskStats => exact leads_taskStats sources state
      | memStats => exact leads_memStats sources state
      | systemDtb => exact leads_loadImage state _
      | plmLog => exact leads_syncPlmData state
      | apuLog => exact leads_loadApuLog sources state
      | shellInterfaceUuid => exact leads_loadShellInterfaceUuid sources state
      | defaultFpt => exact leads_loadFpt sources state .default
      | backupFpt => exact leads_loadFpt sources state .backup

end Leads

/-! ## One step -/

/-- What a step has written, all in the data area, and the memory outside of it. -/
structure Confined (ringLen : UInt32) (s s' : ShmState) (cells : Set Nat) : Prop where
  inside : ∀ address ∈ cells, address ∈ (dataArea ringLen).cells
  written : s'.written = s.written ∪ cells
  outside : ∀ address, address ∉ cells → s'.memory address = s.memory address

section Step

variable {ringLen : UInt32} {s : ShmState}

private theorem confined_refl : Confined ringLen s s ∅ where
  inside _ haddress := haddress.elim
  written := (Set.union_empty _).symm
  outside _ _ := rfl

private theorem mem_dataArea (hring : ringLen ≤ rpuRingBufferLen) {address : Nat}
    (hlow : (dataArea ringLen).start ≤ address)
    (hhigh : address < vmrEpRpuSharedMemoryEnd.toNat) : address ∈ (dataArea ringLen).cells := by
  rw [Area.mem_cells, dataArea_end hring]
  exact ⟨hlow, hhigh⟩

private theorem confined_wroteBus (hring : ringLen ≤ rpuRingBufferLen) {addr : UInt32}
    {length : Nat}
    {bus : Bus} (hfits : InData ringLen addr length) (hleads : Bus.Leads ⟨s.memory, []⟩ bus)
    (hwritten : ∀ address, address ∈ bus.written → Covers addr length address) :
    Confined ringLen s (s.wroteBus bus) {address | address ∈ bus.written} where
  inside address haddress := by
    have hinside := (covers_inside_iff vmrEpRpuSharedMemoryEnd.toNat_lt).2 hfits address
      (hwritten address haddress)
    exact mem_dataArea hring hinside.1 hinside.2
  written := rfl
  outside _ haddress := hleads.unwritten haddress

private theorem confined_logPage (hring : ringLen ≤ rpuRingBufferLen) {sources : LogSources}
    {request : LogPayload} {multiboot : MultibootPayload} {rhLog : Memory}
    (hfits : Fits ringLen s (.logPage sources request multiboot rhLog)) :
    ∃ cells, Confined ringLen s (s.wroteBus
      (clRmgmtLogPage sources (received request multiboot rhLog s.memory)).2.bus) cells := by
  have hwrote := wrote_logPage sources (received request multiboot rhLog s.memory)
  have hleads := leads_logPage sources (received request multiboot rhLog s.memory)
  exact ⟨_, confined_wroteBus hring hfits hleads fun address haddress =>
    ((hwrote.written address).1 haddress).resolve_right List.not_mem_nil⟩

private theorem confined_sensor (hring : ringLen ≤ rpuRingBufferLen) {payload : SensorPayload}
    {answer : Asdm.Answer} (hfits : Fits ringLen s (.sensor payload answer)) :
    ∃ cells, Confined ringLen s
      (s.wroteBus (clVmcSensorRequest payload answer ⟨s.memory, []⟩).2) cells := by
  have hnone : Confined ringLen s (s.wroteBus ⟨s.memory, []⟩) _ :=
    @confined_wroteBus _ _ hring 0 0 _ (.inl rfl) (.refl _) fun _ h => absurd h List.not_mem_nil
  rw [clVmcSensorRequest]
  split
  · exact ⟨_, hnone⟩
  next hvalid =>
    split
    · exact ⟨_, hnone⟩
    next hstatus =>
      split
      · exact ⟨_, hnone⟩
      next hsize =>
        have hlength : sensorLength payload answer = answer.respSize.toNat :=
          if_neg (not_or.2 ⟨hvalid, not_or.2 ⟨hstatus, hsize⟩⟩)
        rw [Fits, hlength] at hfits
        simp only [clMemcpyToio8, copyBytes_eq]
        refine ⟨_, confined_wroteBus hring hfits (Bus.leads_writeBytes _ _ _) ?_⟩
        intro address haddress
        rw [Bus.mem_written_writeBytes, Memory.length_slice] at haddress
        exact haddress.resolve_right List.not_mem_nil

private theorem confined_basePdi (hring : ringLen ≤ rpuRingBufferLen) {request : DownloadRequest}
    {call : FlashCall} {s' : ShmState} (hstep : HostStep s (.basePdi request call) s')
    (hfits : Fits ringLen s (.basePdi request call)) : ∃ cells, Confined ringLen s s' cells := by
  rcases hstep with ⟨-, rfl⟩ | ⟨haccepted, hmemory, -, σ, respond, flash, flash', result, hrun, rfl⟩
  · exact ⟨∅, confined_refl⟩
  · refine ⟨call.tagCells, ?_, rfl, ?_⟩
    · rintro address ⟨hmasks, pdiData, len, hpdi, hlow, hhigh⟩
      have htag := hfits haccepted hmasks pdiData len hpdi
      exact mem_dataArea hring (by omega) (by omega)
    · intro address haddress
      change result.memory address = s.memory address
      rw [← hmemory]
      rcases memory_prog hrun with hkept | ⟨hfails, pdiData, len, hpdi, hmasked⟩
      · rw [hkept]
      · rw [hmasked]
        refine maskTag_outside _ _ ?_
        by_contra htag
        exact haddress ⟨⟨hfails.1, hfails.2.1⟩, pdiData, len, hpdi, by omega, by omega⟩

end Step

/-! ## Trimming -/

section Trimming

variable {image : Memory} {kind : UInt32}

private theorem afterSection_outside {address : Nat} (h : Outside (trimAreas image kind) address) :
    afterSection image kind address = image address := by
  rw [trimAreas] at h
  rw [afterSection]
  cases hpointer : sectionPointer image kind with
  | none => rfl
  | some pointer =>
      rw [hpointer, if_neg (Option.some_ne_none pointer)] at h
      exact removeFrom_outside kind _ h

private theorem trimAreas_inside (h : WellFormed image) : ∀ area ∈ trimAreas image kind,
    lengthAddr ≤ area.start ∧ area.start + area.size ≤ (mLength image).toNat := by
  rw [trimAreas]
  split
  · simp
  · exact removeAreas_inside kind _ h

private theorem downloadAreas_inside (h : WellFormed image)
    (hshort : (mLength image).toNat < 2 ^ 32) :
    ∀ area ∈ downloadAreas image,
      lengthAddr ≤ area.start ∧ area.start + area.size ≤ (mLength image).toNat := by
  have hlength : (mLength (afterSection image bitstreamPartialPdi)).toNat ≤
      (mLength image).toNat := by
    unfold afterSection
    split
    · exact Nat.le_refl _
    · exact mLength_removeFrom_le _ _ h
  rw [downloadAreas, List.forall_mem_append]
  refine ⟨trimAreas_inside h, fun area harea => ?_⟩
  have hinside := trimAreas_inside (afterSection_spec h hshort).1 area harea
  omega

private theorem downloadAreas_of_not_trims (h : ¬ Trims image) : downloadAreas image = [] := by
  obtain ⟨hfirst, hsecond⟩ := not_or.1 h
  have hsame : afterSection image bitstreamPartialPdi = image := by
    rw [afterSection, not_not.1 hfirst]
  rw [downloadAreas, hsame, trimAreas, if_pos (not_not.1 hfirst), trimAreas,
    if_pos (not_not.1 hsecond)]
  rfl

/-- An xclbin as the trims leave it, as far as they are reached. -/
def Trimmed (image xclbin : Memory) : Prop :=
  xclbin = image ∨ xclbin = afterSection image bitstreamPartialPdi ∨
    xclbin = afterSection (afterSection image bitstreamPartialPdi) axlfPdi

private theorem safe_downloadSection_trimmed (image : Memory) (kind : UInt32)
    (topo : Option (UInt32 × UInt32)) :
    Prog.Safe anyAnswer (fun _ _ => True)
      (fun trimmed _ => trimmed.1 ≠ 0 ∧ trimmed.2 = image ∨ trimmed.2 = afterSection image kind)
      (downloadSection image kind topo) () := by
  rw [downloadSection, afterSection]
  cases sectionPointer image kind with
  | none => exact .inr rfl
  | some pdi =>
      dsimp only
      rw [Prog.safe_bind, pdiDownload, Prog.safe_perform]
      refine ⟨trivial, fun ret _ _ => ?_⟩
      by_cases hret : ret ≠ 0
      · rw [if_pos hret]
        exact .inl ⟨hret, rfl⟩
      · rw [if_neg hret]
        exact .inr rfl

private theorem safe_apuDownload (image : Memory) :
    Prog.Safe anyAnswer (fun _ _ => True) (fun result _ => result.xclbin = image)
      (apuDownload image) () := by
  rw [apuDownload, Prog.safe_bind, Prog.safe_perform]
  exact ⟨trivial, fun _ _ _ => rfl⟩

private theorem safe_rmgmtFpgaDownload (image : Memory) (rhDataSize : UInt32) :
    Prog.Safe anyAnswer (fun _ _ => True) (fun result _ => Trimmed image result.xclbin)
      (rmgmtFpgaDownload image rhDataSize) () := by
  rw [rmgmtFpgaDownload, Prog.safe_bind, Prog.safe_perform]
  refine ⟨trivial, fun ret _ _ => ?_⟩
  by_cases hret : ret ≠ 0
  · rw [if_pos hret]
    exact .inl rfl
  · rw [if_neg hret]
    refine (safe_downloadSection_trimmed image bitstreamPartialPdi _).bind fun first _ hfirst => ?_
    by_cases hfailed : first.1 ≠ 0
    · rw [if_pos hfailed]
      change Trimmed image first.2
      rcases hfirst with ⟨-, hkept⟩ | htrimmed
      · exact .inl hkept
      · exact .inr (.inl htrimmed)
    · rw [if_neg hfailed]
      have htrimmed : first.2 = afterSection image bitstreamPartialPdi :=
        hfirst.resolve_left fun hkept => hfailed hkept.1
      refine (safe_downloadSection_trimmed first.2 axlfPdi _).bind fun second _ hsecond => ?_
      rw [htrimmed] at hsecond
      by_cases hfailed' : second.1 ≠ 0
      · rw [if_pos hfailed']
        change Trimmed image second.2
        rcases hsecond with ⟨-, hkept⟩ | htrimmed'
        · exact .inr (.inl hkept)
        · exact .inr (.inr htrimmed')
      · rw [if_neg hfailed']
        have htrimmed' := hsecond.resolve_left fun hkept => hfailed' hkept.1
        exact (safe_apuDownload second.2).weaken fun result _ hresult =>
          .inr (.inr (hresult.trans htrimmed'))

private theorem xclbin_outside {rhDataSize : UInt32} {result : DownloadResult}
    (h : Prog.Returns anyAnswer () (rmgmtFpgaDownload image rhDataSize) result ())
    {address : Nat} (haddress : Outside (downloadAreas image) address) :
    result.xclbin address = image address := by
  rw [downloadAreas, outside_append] at haddress
  have hfirst := afterSection_outside haddress.1
  rcases (safe_rmgmtFpgaDownload image rhDataSize).returns h with hresult | hresult | hresult
  · rw [hresult]
  · rw [hresult, hfirst]
  · rw [hresult, afterSection_outside haddress.2, hfirst]

end Trimming

section Runs

variable {ringLen : UInt32} {s : ShmState}

private theorem confined_xclbin (hring : ringLen ≤ rpuRingBufferLen) {request : DownloadRequest}
    {s' : ShmState} (hstep : HostStep s (.xclbin request) s')
    (hfits : Fits ringLen s (.xclbin request)) : ∃ cells, Confined ringLen s s' cells := by
  rcases hstep with ⟨-, rfl⟩ | ⟨haccepted, result, hreturns, rfl⟩
  · exact ⟨∅, confined_refl⟩
  · refine ⟨downloadCells request.base (dataAt s.memory request.base), ?_, rfl, ?_⟩
    · rintro _ ⟨area, harea, offset, hoffset, rfl⟩
      by_cases htrims : Trims (dataAt s.memory request.base)
      · obtain ⟨hwell, hlow, hhigh⟩ := hfits haccepted htrims
        have hend := vmrEpRpuSharedMemoryEnd.toNat_lt
        have hinside := downloadAreas_inside hwell (by omega) area harea
        rw [Area.mem_cells] at hoffset
        exact mem_dataArea hring (by omega) (by omega)
      · rw [downloadAreas_of_not_trims htrims] at harea
        exact absurd harea List.not_mem_nil
    · intro address haddress
      change putXclbin s.memory request.base result.xclbin address = s.memory address
      rw [putXclbin]
      split
      next hbase =>
        obtain ⟨offset, rfl⟩ := Nat.exists_eq_add_of_le hbase
        rw [Nat.add_sub_cancel_left]
        exact xclbin_outside hreturns fun area harea hoffset =>
          haddress ⟨area, harea, offset, hoffset, rfl⟩
      · rfl

private theorem confined_hostStep (hring : ringLen ≤ rpuRingBufferLen) {request : HostRequest}
    {s' : ShmState} (hstep : HostStep s request s') (hfits : Fits ringLen s request)
    (hrequest : request ≠ .other) : ∃ cells, Confined ringLen s s' cells := by
  cases request with
  | logPage sources request multiboot rhLog =>
      obtain rfl : s' = _ := hstep
      exact confined_logPage hring hfits
  | sensor payload answer =>
      obtain rfl : s' = _ := hstep
      exact confined_sensor hring hfits
  | basePdi request call => exact confined_basePdi hring hstep hfits
  | xclbin request => exact confined_xclbin hring hstep hfits
  | other => exact absurd rfl hrequest

private theorem written_invariant (hring : ringLen ≤ rpuRingBufferLen) :
    ((hostRequests ringLen).restrict (Fits ringLen)).Invariant fun s =>
      ∀ address ∈ s.written, address ∈ (dataArea ringLen).cells where
  init := by
    rintro _ ⟨memory, rfl⟩ address haddress
    exact haddress.elim
  step := by
    rintro s request s' hinside ⟨hfits, hstep⟩ address haddress
    by_cases hrequest : request = .other
    · subst hrequest
      rw [show s'.written = s.written from hstep] at haddress
      exact hinside address haddress
    · obtain ⟨cells, hconfined⟩ := confined_hostStep hring hstep hfits hrequest
      rw [hconfined.written] at haddress
      exact haddress.elim (hinside address) (hconfined.inside address)

end Runs

/-- When every request fits, all that was ever written for the host lies in the data area, and no
request changes the table, the ring, the status word or the log. -/
theorem control_kept {ringLen : UInt32} (hring : ringLen ≤ rpuRingBufferLen) {s : ShmState}
    (hs : ((hostRequests ringLen).restrict (Fits ringLen)).Reachable s) :
    (∀ address ∈ s.written, address ∈ (dataArea ringLen).cells) ∧
      ∀ request s', HostStep s request s' → Fits ringLen s request → request ≠ .other →
        ∀ area ∈ controlAreas ringLen, ∀ address ∈ area.cells,
          s'.memory address = s.memory address := by
  refine ⟨hs.invariant (written_invariant hring), ?_⟩
  intro request s' hstep hfits hrequest area harea address haddress
  obtain ⟨cells, hconfined⟩ := confined_hostStep hring hstep hfits hrequest
  refine hconfined.outside address fun hcell => ?_
  exact not_mem_control hring harea (hconfined.inside address hcell) haddress

/-! ## The statistics of the heap -/

def rpuXgqSlotSize : UInt32 := 512

def vmrRingLen : UInt32 :=
  Xgq.xgqRingLen (Xgq.xgqAllocNumSlots rpuRingBufferLen [rpuXgqSlotSize]) rpuXgqSlotSize

theorem vmrRingLen_le : vmrRingLen ≤ rpuRingBufferLen := by decide +kernel

def freshState : ShmState := ⟨initVmrStatus vmrRingLen fun _ => 0, ∅⟩

def memStatsAt (address : UInt32) : HostRequest :=
  .logPage idleSources ⟨address, 0x1000, 0, 0x7⟩ noPartitions fun _ => 0

def memStatsState (address : UInt32) : ShmState :=
  freshState.wroteBus (clRmgmtLogPage idleSources
    (received ⟨address, 0x1000, 0, 0x7⟩ noPartitions (fun _ => 0) freshState.memory)).2.bus

theorem control_kept_memStats :
    (∀ address ∈ (memStatsState 0x10000).written, address ∈ (dataArea vmrRingLen).cells) ∧
      ∀ request s', HostStep (memStatsState 0x10000) request s' →
        Fits vmrRingLen (memStatsState 0x10000) request → request ≠ .other →
          ∀ area ∈ controlAreas vmrRingLen, ∀ address ∈ area.cells,
            s'.memory address = (memStatsState 0x10000).memory address := by
  have hfits : Fits vmrRingLen freshState (memStatsAt 0x10000) :=
    .inr ⟨by decide +kernel, by decide +kernel⟩
  exact control_kept vmrRingLen_le (.step (.init ⟨_, rfl⟩) ⟨hfits, rfl⟩)

/-- At address 0 the page is written over the partition table. -/
theorem not_control_kept_memStats :
    ¬ ∀ s, (hostRequests vmrRingLen).Reachable s →
      ∀ address ∈ s.written, address ∈ (dataArea vmrRingLen).cells := by
  intro hkept
  have hwrote := wrote_logPage idleSources
    (received ⟨0, 0x1000, 0, 0x7⟩ noPartitions (fun _ => 0) freshState.memory)
  have hreachable : (hostRequests vmrRingLen).Reachable (memStatsState 0) :=
    @TransitionSystem.Reachable.step _ _ _ freshState (memStatsAt 0) _ (.init ⟨_, rfl⟩) rfl
  have hcovers : Covers (rpuSharedMemoryAddr 0) (pageLength idleSources
      (received ⟨0, 0x1000, 0, 0x7⟩ noPartitions (fun _ => 0) freshState.memory))
      vmrEpRpuSharedMemoryStart.toNat := ⟨0, by decide +kernel, by decide +kernel⟩
  have htable : vmrEpRpuSharedMemoryStart.toNat ∈ (memStatsState 0).written :=
    mem_written_wroteBus.2 (.inr ((hwrote.written _).2 (.inl hcovers)))
  have hinside := hkept _ hreachable _ htable
  rw [Area.mem_cells] at hinside
  exact absurd hinside.1 (by decide +kernel)

end Vmr.Rmgmt
