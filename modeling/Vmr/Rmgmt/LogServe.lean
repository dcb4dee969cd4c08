import Vmr.Rmgmt.LogWindow
import Vmr.Xgq.Command

/-!
# Log pages that can be served

What a page consists of, and for which requests it arrives.  The log of the APU has
a number above the last one that the check of the request lets through, the UUID is
checked against the size of the firmware, and the report about the health of the
card loses its last byte where that is also the last byte of the request.  An image
is copied from its first byte on, also where the window lies inside of it.
-/

namespace Vmr.Rmgmt

open Vmr.Lib Vmr.Shm

/-! ## What a page consists of -/

section Pages

variable (sources : LogSources) (state : LogState)

def healthTexts : List (List UInt8) :=
  if shutdownStatus sources ≠ 0 then [clockShutdownText (shutdownStatus sources)]
  else if firewallStatus sources ≠ 0 then firewallReport sources
  else if sources.clkScalingEnable ≠ 0 then
    [throttlingText (sources.registers 3) sources.vmrEpGappingDemand]
  else []

def printHealth (size : Nat) (rhLog : Memory) : Memory × Nat :=
  match healthTexts sources with
  | [] => (rhLog, 0)
  | text :: texts =>
      let printed := snprintf rhLog 0 size text
      printUntilFull size texts printed.1 printed.2

def printQueries : List Query → Nat → LogState → List UInt8
  | [], _, _ => []
  | query :: queries, totalCount, state =>
      let printed := query state rhLogMaxSize
      printed.1.rhLog.slice 0 printed.2 ++ printQueries queries (totalCount + printed.2)
        (printed.1.copyLog (printed.1.dstAddr + UInt32.ofNat totalCount) printed.2)

def printedBytes (printed : Memory × Nat) : List UInt8 :=
  printed.1.slice 0 (min printed.2 rhLogMaxSize)

def copiedImage (page : ClLogType) : Option (UInt32 × UInt32) :=
  match page with
  | .fw => firmware sources state
  | .systemDtb => systemDtb sources state
  | .plmLog => some (vmrPlmDataStartAddress, vmrPlmDataTotalSize)
  | _ => none

def imageContent (page : ClLogType) : Option (List UInt8) :=
  (copiedImage sources state page).map fun image =>
    (state.bus.view image.1).slice 0 image.2.toNat

def fptContent (type : FptType) : Option (List UInt8) :=
  if ¬ sources.fptBufAllocated then none
  else (sources.fptData type).map fun buf => buf.slice 0 fwCopySize64Kb

def uuidContent : Option (List UInt8) :=
  (firmware sources state).bind fun image =>
    let found := sources.fdtUuids image.1
    if found.1 ≠ 0 then none else some (found.2.slice 0 uuidBytesLen)

def apuContent : Option (List UInt8) :=
  let log := rmgmtApuLogPage (sources.apuLog state.payload.offset state.payload.size)
    state.payload.size
  if log.1 = log.2.length then some log.2 else none

def taskStatsContent : Option (List UInt8) :=
  sources.taskStatus.map fun tasks =>
    let printed := snprintf state.rhLog 0 rhLogMaxSize taskStatsHeader
    printedBytes (printUntilFull rhLogMaxSize (taskStatsTexts tasks sources.totalruntime)
      printed.1 printed.2)

def pageContent (page : ClLogType) : Option (List UInt8) :=
  match page with
  | .afCheck => some (printedBytes (printHealth sources rhLogMaxSize state.rhLog))
  | .afClear => some []
  | .info => some (printQueries [rmgmtRpuStatusQuery sources, rmgmtApuStatusQuery sources,
      rmgmtFptStatusQuery sources] 0 state)
  | .endpoint => some (printQueries [rmgmtEndpointsQuery sources] 0 state)
  | .taskStats => taskStatsContent sources state
  | .memStats => some (printedBytes (snprintf state.rhLog 0 rhLogMaxSize
      (memStatsText sources.heapStats)))
  | .fw | .systemDtb | .plmLog => imageContent sources state page
  | .apuLog => apuContent sources state
  | .shellInterfaceUuid => uuidContent sources state
  | .defaultFpt => fptContent sources .default
  | .backupFpt => fptContent sources .backup

/-- The size that the handler has checked before it delivers, if it has one checked. -/
def checkedSize (page : ClLogType) : Option UInt32 :=
  match page with
  | .fw | .shellInterfaceUuid => (firmware sources state).map Prod.snd
  | .systemDtb => (systemDtb sources state).map Prod.snd
  | .plmLog => some vmrPlmDataTotalSize
  | .apuLog => some state.payload.size
  | .defaultFpt | .backupFpt => some (UInt32.ofNat fwCopySize64Kb)
  | .afCheck | .afClear | .info | .endpoint | .taskStats | .memStats => none

/-! ## What is promised -/

/-- The content stands at the address of the request, and its size is reported. -/
def Arrived (content : List UInt8) (state state' : LogState) : Prop :=
  state'.bus.memory.slice state.dstAddr.toNat content.length = content ∧
    (content.length ≠ 0 → state'.payload.size.toNat = content.length)

structure Served (page : ClLogType) (content : List UInt8) : Prop where
  valid : ∀ size, checkedSize sources state page = some size →
    validateLogPayload state.payload size = 0
  arrived : Arrived content state (clRmgmtLogPage sources state).2

def sharedMemorySize : Nat := vmrEpRpuSharedMemoryEnd.toNat - vmrEpRpuSharedMemoryStart.toNat

/-- The request has a page number that the decoder knows, a window in the shared memory, and room
for the content. -/
structure Serviceable (page : ClLogType) (content : List UInt8) : Prop where
  decoded : ∃ xgqPid clPid, Xgq.convertClType Xgq.xgqCmdLogPageMap xgqPid = some clPid ∧
    state.payload.pid = clPid.toUInt16
  requested : clLogType state.payload.pid = some page
  available : pageContent sources state page = some content
  window : state.payload.address.toNat + state.payload.size.toNat ≤ sharedMemorySize
  room : content.length ≤ state.payload.size.toNat

/-- What it depends on besides. -/
structure CanServe (page : ClLogType) (content : List UInt8) : Prop where
  apuLog : page ≠ .apuLog
  uuid : page = .shellInterfaceUuid → ∀ image, firmware sources state = some image →
    image.2 ≤ state.payload.size
  start : checkedSize sources state page ≠ none → state.payload.address.toNat < sharedMemorySize
  lastByte : page = .afCheck → content.length = 0 ∨
    content.length < state.payload.size.toNat ∨ rhLogMaxSize ≤ state.payload.size.toNat
  image : ∀ image, copiedImage sources state page = some image →
    state.bus.Repeats state.dstAddr image.1 image.2.toNat

/-! ## The check of the request -/

variable {state}

private theorem dstAddr_toNat
    (hwindow : state.payload.address.toNat + state.payload.size.toNat ≤ sharedMemorySize) :
    state.dstAddr.toNat = vmrEpRpuSharedMemoryStart.toNat + state.payload.address.toNat := by
  have hsize : sharedMemorySize = 0x7FFF000 := rfl
  rw [LogState.dstAddr, rpuSharedMemoryAddr, UInt32.toNat_add]
  exact Nat.mod_eq_of_lt (by
    rw [show vmrEpRpuSharedMemoryStart.toNat = 0x38000000 from rfl]
    omega)

private theorem validateLogPayload_eq_zero {size : UInt32}
    (hwindow : state.payload.address.toNat + state.payload.size.toNat ≤ sharedMemorySize) :
    validateLogPayload state.payload size = 0 ↔
      state.payload.address.toNat < sharedMemorySize ∧ state.payload.pid < clLogMaxType ∧
        size ≤ state.payload.size := by
  have hsize : sharedMemorySize = 0x7FFF000 := rfl
  have hstart : vmrEpRpuSharedMemoryStart.toNat = 0x38000000 := rfl
  have hend : vmrEpRpuSharedMemoryEnd.toNat = 0x3FFFF000 := rfl
  have haddress := dstAddr_toNat hwindow
  rw [LogState.dstAddr] at haddress
  rw [validateLogPayload]
  by_cases hinside : rpuSharedMemoryAddr state.payload.address ≥ vmrEpRpuSharedMemoryEnd
  · rw [if_pos hinside]
    rw [ge_iff_le, UInt32.le_iff_toNat_le] at hinside
    exact iff_of_false (by decide) fun h => absurd h.1 (by omega)
  · rw [if_neg hinside]
    rw [ge_iff_le, UInt32.le_iff_toNat_le] at hinside
    by_cases hpid : state.payload.pid ≥ clLogMaxType
    · rw [if_pos hpid]
      exact iff_of_false (by decide) fun h => absurd h.2.1 (UInt16.not_lt.2 hpid)
    · rw [if_neg hpid]
      by_cases hroom : state.payload.size < size
      · rw [if_pos hroom]
        exact iff_of_false (by decide) fun h => absurd h.2.2 (UInt32.not_le.2 hroom)
      · rw [if_neg hroom]
        exact iff_of_true rfl ⟨by omega, UInt16.not_le.1 hpid, UInt32.not_lt.1 hroom⟩

private theorem pid_lt_iff {page : ClLogType} (h : clLogType state.payload.pid = some page) :
    state.payload.pid < clLogMaxType ↔ page ≠ .apuLog := by
  rw [UInt16.lt_iff_toNat_lt, show clLogMaxType.toNat = 0xd from rfl]
  rw [clLogType] at h
  split at h <;> cases h <;> simp [*]

variable {sources} {page : ClLogType} {content : List UInt8}

private theorem content_of_image {image : UInt32 × UInt32}
    (havailable : pageContent sources state page = some content)
    (himage : copiedImage sources state page = some image) :
    content = (state.bus.view image.1).slice 0 image.2.toNat := by
  have hcontent : imageContent sources state page = some content := by
    cases page with
    | fw | systemDtb | plmLog => exact havailable
    | _ => cases himage
  rw [imageContent, himage] at hcontent
  exact (Option.some.inj hcontent).symm

private theorem checkedSize_le (h : Serviceable sources state page content) {size : UInt32}
    (hchecked : checkedSize sources state page = some size)
    (huuid : page ≠ .shellInterfaceUuid) : size ≤ state.payload.size := by
  have hroom := h.room
  have havailable := h.available
  rw [UInt32.le_iff_toNat_le]
  cases page with
  | afCheck | afClear | info | endpoint | taskStats | memStats => cases hchecked
  | fw | systemDtb =>
      obtain ⟨image, himage, rfl⟩ := Option.map_eq_some_iff.1 hchecked
      rw [content_of_image havailable himage, Memory.length_slice] at hroom
      exact hroom
  | plmLog =>
      cases hchecked
      rw [content_of_image havailable rfl, Memory.length_slice] at hroom
      exact hroom
  | apuLog =>
      cases hchecked
      exact Nat.le_refl _
  | shellInterfaceUuid => exact absurd rfl huuid
  | defaultFpt | backupFpt =>
      cases hchecked
      rw [pageContent, fptContent] at havailable
      split at havailable
      · cases havailable
      · obtain ⟨buf, -, rfl⟩ := Option.map_eq_some_iff.1 havailable
        rw [Memory.length_slice] at hroom
        exact hroom

private theorem valid_iff (h : Serviceable sources state page content) :
    (∀ size, checkedSize sources state page = some size →
      validateLogPayload state.payload size = 0) ↔
      (checkedSize sources state page = none ∨ page ≠ .apuLog ∧
        state.payload.address.toNat < sharedMemorySize) ∧
      (page = .shellInterfaceUuid → ∀ image, firmware sources state = some image →
        image.2 ≤ state.payload.size) := by
  simp only [validateLogPayload_eq_zero h.window, pid_lt_iff h.requested]
  constructor
  · intro hvalid
    constructor
    · cases hchecked : checkedSize sources state page with
      | none => exact .inl rfl
      | some size =>
          obtain ⟨hstart, hpage, -⟩ := hvalid size hchecked
          exact .inr ⟨hpage, hstart⟩
    · rintro rfl image himage
      exact (hvalid image.2 (by rw [checkedSize, himage]; rfl)).2.2
  · rintro ⟨hchecked, huuid⟩ size hsize
    rcases hchecked with hnone | ⟨hpage, hstart⟩
    · rw [hnone] at hsize
      cases hsize
    · refine ⟨hstart, hpage, ?_⟩
      by_cases hkind : page = .shellInterfaceUuid
      · subst hkind
        obtain ⟨image, himage, rfl⟩ := Option.map_eq_some_iff.1 hsize
        exact huuid rfl image himage
      · exact checkedSize_le h hsize hkind

/-! ## What arrives -/

private theorem arrived_bytes {state' : LogState} {data rest : List UInt8}
    (hwindow : state.payload.address.toNat + state.payload.size.toNat ≤ sharedMemorySize)
    (hroom : (data ++ rest).length ≤ state.payload.size.toNat)
    (hbus : state'.bus = state.bus.writeBytes state.dstAddr (data ++ rest))
    (hsize : data.length ≠ 0 → state'.payload.size = UInt32.ofNat data.length) :
    Arrived data state state' := by
  have haddress := dstAddr_toNat hwindow
  have hshared : sharedMemorySize = 0x7FFF000 := rfl
  have hstart : vmrEpRpuSharedMemoryStart.toNat = 0x38000000 := rfl
  have hread := Bus.slice_writeBytes state.bus
    (show state.dstAddr.toNat + (data ++ rest).length ≤ 2 ^ 32 by omega)
  rw [List.length_append] at hread hroom
  rw [Memory.slice_add] at hread
  constructor
  · rw [hbus]
    exact (List.append_inj hread (Memory.length_slice _ _ _)).1
  · intro hlength
    have hlong : data.length < 2 ^ 32 := by omega
    rw [hsize hlength, UInt32.toNat_ofNat_of_lt' hlong]

private theorem arrived_block {state' : LogState} {data : List UInt8}
    (hwindow : state.payload.address.toNat + state.payload.size.toNat ≤ sharedMemorySize)
    (hroom : data.length ≤ state.payload.size.toNat)
    (hbus : state'.bus = state.bus.writeBytes state.dstAddr data)
    (hsize : data.length ≠ 0 → state'.payload.size = UInt32.ofNat data.length) :
    Arrived data state state' := by
  refine @arrived_bytes _ _ data [] hwindow ?_ ?_ hsize
  · rw [List.append_nil]
    exact hroom
  · rw [List.append_nil]
    exact hbus

private theorem arrived_copyLog {rhLog : Memory} {length copied : Nat}
    (hwindow : state.payload.address.toNat + state.payload.size.toNat ≤ sharedMemorySize)
    (hlength : length ≤ copied) (hroom : copied ≤ state.payload.size.toNat) :
    Arrived (rhLog.slice 0 length) state
      (({ state with rhLog := rhLog }.copyLog state.dstAddr copied).setSize
        (UInt32.ofNat length)) := by
  refine @arrived_bytes _ _ _ (rhLog.slice length (copied - length)) hwindow ?_ ?_ ?_
  · simp only [List.length_append, Memory.length_slice]
    omega
  · rw [LogState.setSize, LogState.copyLog]
    simp only [clMemcpyToio_eq]
    have hsplit := Memory.slice_add rhLog 0 length (copied - length)
    rw [Nat.zero_add, Nat.add_sub_cancel' hlength] at hsplit
    rw [← hsplit]
  · intro _
    rw [Memory.length_slice]
    rfl

/-- An image arrives unless the copy runs into itself. -/
theorem arrived_copyImage_iff {state' : LogState} (multiboot : MultibootPayload)
    {source size : UInt32}
    (hwindow : state.payload.address.toNat + state.payload.size.toNat ≤ sharedMemorySize)
    (hroom : size.toNat ≤ state.payload.size.toNat)
    (hstate : state' = { state with
      multiboot := multiboot
      bus := clMemcpy state.dstAddr source size.toNat state.bus }.setSize size) :
    Arrived ((state.bus.view source).slice 0 size.toNat) state state' ↔
      state.bus.Repeats state.dstAddr source size.toNat := by
  have haddress := dstAddr_toNat hwindow
  have hshared : sharedMemorySize = 0x7FFF000 := rfl
  have hstart : vmrEpRpuSharedMemoryStart.toNat = 0x38000000 := rfl
  have hlength := (state.bus.view source).length_slice 0 size.toNat
  subst hstate
  rw [← state.bus.slice_copy_iff (show state.dstAddr.toNat + size.toNat ≤ 2 ^ 32 by omega),
    ← clMemcpy]
  constructor
  · intro harrived
    have hbytes := harrived.1
    rw [hlength] at hbytes
    exact hbytes
  · intro hbytes
    constructor
    · rw [hlength]
      exact hbytes
    · intro _
      rw [hlength]
      rfl

private theorem arrived_copyFrom (buf : Memory) {length : Nat}
    (hwindow : state.payload.address.toNat + state.payload.size.toNat ≤ sharedMemorySize)
    (hroom : length ≤ state.payload.size.toNat) :
    Arrived (buf.slice 0 length) state
      ((state.copyFrom buf length).setSize (UInt32.ofNat length)) := by
  have hlength := buf.length_slice 0 length
  refine arrived_block hwindow (by omega) rfl fun _ => ?_
  rw [hlength]
  rfl

private theorem loadImage_eq {found : MultibootPayload × Option (UInt32 × UInt32)}
    {image : UInt32 × UInt32} (hfound : found.2 = some image)
    (hvalid : validateLogPayload state.payload image.2 = 0) :
    (loadImage state found).2 = { state with
      multiboot := found.1
      bus := clMemcpy state.dstAddr image.1 image.2.toNat state.bus }.setSize image.2 := by
  obtain ⟨multiboot, found⟩ := found
  cases hfound
  rw [loadImage]
  simp only
  rw [if_neg (not_not.2 hvalid)]
  rfl

private theorem rmgmtSyncPlmData_eq
    (hvalid : validateLogPayload state.payload vmrPlmDataTotalSize = 0)
    (hroom : vmrPlmDataTotalSize ≤ state.payload.size) :
    (rmgmtSyncPlmData state).2 = { state with
      bus := clMemcpy state.dstAddr vmrPlmDataStartAddress vmrPlmDataTotalSize.toNat
        state.bus }.setSize vmrPlmDataTotalSize := by
  rw [rmgmtSyncPlmData]
  simp only
  have hmin : min state.payload.size vmrPlmDataTotalSize = vmrPlmDataTotalSize := by
    apply UInt32.toNat_inj.1
    rw [toNat_min, Nat.min_eq_right (UInt32.le_iff_toNat_le.1 hroom)]
  rw [if_neg (not_not.2 hvalid), hmin]

private theorem image_arrived_iff (h : Serviceable sources state page content)
    (hvalid : ∀ size, checkedSize sources state page = some size →
      validateLogPayload state.payload size = 0) {image : UInt32 × UInt32}
    (himage : copiedImage sources state page = some image) :
    Arrived content state (clRmgmtLogPage sources state).2 ↔
      state.bus.Repeats state.dstAddr image.1 image.2.toNat := by
  have hroom := h.room
  obtain rfl := content_of_image h.available himage
  rw [Memory.length_slice] at hroom
  rw [clRmgmtLogPage, h.requested]
  cases page with
  | fw =>
      have hchecked := hvalid image.2 (by rw [checkedSize, ← copiedImage, himage]; rfl)
      have hloaded := loadImage_eq himage hchecked
      exact arrived_copyImage_iff _ h.window hroom hloaded
  | systemDtb =>
      have hchecked := hvalid image.2 (by rw [checkedSize, ← copiedImage, himage]; rfl)
      have hloaded := loadImage_eq himage hchecked
      exact arrived_copyImage_iff _ h.window hroom hloaded
  | plmLog =>
      obtain rfl := Option.some.inj himage
      have hchecked := hvalid vmrPlmDataTotalSize rfl
      have hsize : vmrPlmDataTotalSize ≤ state.payload.size := UInt32.le_iff_toNat_le.2 hroom
      have hsynced := rmgmtSyncPlmData_eq hchecked hsize
      exact arrived_copyImage_iff state.multiboot h.window hroom hsynced
  | _ => cases himage

private theorem arrived_loadFpt (h : Serviceable sources state page content) {type : FptType}
    (hcontent : fptContent sources type = some content)
    (hvalid : validateLogPayload state.payload (UInt32.ofNat fwCopySize64Kb) = 0) :
    Arrived content state (rmgmtLoadFpt sources state type).2 := by
  have hroom := h.room
  rw [fptContent] at hcontent
  rw [rmgmtLoadFpt]
  split at hcontent
  · cases hcontent
  · rename_i hallocated
    obtain ⟨buf, hbuf, rfl⟩ := Option.map_eq_some_iff.1 hcontent
    rw [if_neg hallocated, hbuf]
    simp only
    rw [if_neg (not_not.2 hvalid)]
    rw [Memory.length_slice] at hroom
    exact arrived_copyFrom _ h.window hroom

private theorem arrived_uuid (h : Serviceable sources state page content)
    (hcontent : uuidContent sources state = some content)
    (hvalid : ∀ image, firmware sources state = some image →
      validateLogPayload state.payload image.2 = 0) :
    Arrived content state (rmgmtLoadShellInterfaceUuid sources state).2 := by
  have hroom := h.room
  obtain ⟨image, himage, hcontent⟩ := Option.bind_eq_some_iff.1 hcontent
  have hchecked := hvalid image himage
  rw [firmware] at himage
  rw [rmgmtLoadShellInterfaceUuid]
  simp only [himage]
  rw [if_neg (not_not.2 hchecked)]
  by_cases hfailed : (sources.fdtUuids image.1).1 ≠ 0
  · rw [if_pos hfailed] at hcontent
    cases hcontent
  · rw [if_neg hfailed] at hcontent ⊢
    cases hcontent
    rw [Memory.length_slice] at hroom
    exact arrived_copyFrom _ h.window hroom

private theorem arrived_taskStats (h : Serviceable sources state page content)
    (hcontent : taskStatsContent sources state = some content) :
    Arrived content state (vmrRtosTaskStats sources state).2 := by
  have hroom := h.room
  obtain ⟨tasks, htasks, rfl⟩ := Option.map_eq_some_iff.1 hcontent
  rw [printedBytes, Memory.length_slice] at hroom
  rw [vmrRtosTaskStats, htasks]
  exact arrived_copyLog h.window (Nat.le_refl _) hroom

private theorem arrived_memStats (h : Serviceable sources state page content)
    (hcontent : printedBytes (snprintf state.rhLog 0 rhLogMaxSize
      (memStatsText sources.heapStats)) = content) :
    Arrived content state (vmrRtosMemStats sources state).2 := by
  have hroom := h.room
  subst hcontent
  rw [printedBytes, Memory.length_slice] at hroom
  exact arrived_copyLog h.window (Nat.le_refl _) hroom

private theorem copyQueries_fits {queries : List Query} {lengths : List Nat}
    (h : List.Forall₂ Prints queries lengths) {state : LogState} {total : Nat}
    (hroom : total + (printQueries queries total state).length ≤ state.payload.size.toNat) :
    (copyQueries queries total state).bus =
        state.bus.writeBytes (state.dstAddr + UInt32.ofNat total)
          (printQueries queries total state) ∧
      (copyQueries queries total state).payload.size =
        UInt32.ofNat (total + (printQueries queries total state).length) := by
  induction h generalizing state total with
  | nil => exact ⟨rfl, rfl⟩
  | @cons query length queries lengths hquery _ ih =>
      rw [printQueries] at hroom ⊢
      simp only [hquery.count, List.length_append, Memory.length_slice] at hroom ⊢
      rw [copyQueries]
      simp only [hquery.count]
      rw [hquery.payload, if_neg (by omega)]
      have hdst : (query state rhLogMaxSize).1.dstAddr = state.dstAddr := by
        rw [LogState.dstAddr, hquery.payload]
        rfl
      have hpayload : ((query state rhLogMaxSize).1.copyLog
          ((query state rhLogMaxSize).1.dstAddr + UInt32.ofNat total) length).payload =
            state.payload := hquery.payload state
      have hdst' : ((query state rhLogMaxSize).1.copyLog
          ((query state rhLogMaxSize).1.dstAddr + UInt32.ofNat total) length).dstAddr =
            state.dstAddr := hdst
      obtain ⟨hbus, hsize⟩ := @ih ((query state rhLogMaxSize).1.copyLog
        ((query state rhLogMaxSize).1.dstAddr + UInt32.ofNat total) length) (total + length)
          (by rw [hpayload]; omega)
      rw [hbus, hsize, hdst', ← Nat.add_assoc]
      refine ⟨?_, rfl⟩
      rw [Bus.writeBytes_append, Memory.length_slice, UInt32.add_assoc, ← UInt32.ofNat_add]
      simp only [LogState.copyLog, clMemcpyToio_eq]
      rw [hquery.bus, hdst]

private theorem arrived_copyQueries (h : Serviceable sources state page content)
    {queries : List Query}
    {lengths : List Nat} (hprints : List.Forall₂ Prints queries lengths)
    (hcontent : printQueries queries 0 state = content) :
    Arrived content state (copyQueries queries 0 state) := by
  have hroom := h.room
  subst hcontent
  obtain ⟨hbus, hsize⟩ := @copyQueries_fits _ _ hprints state 0 (by
    rw [Nat.zero_add]
    exact hroom)
  rw [Nat.zero_add] at hsize
  refine arrived_block h.window hroom ?_ fun _ => hsize
  rw [hbus]
  exact congrArg (state.bus.writeBytes · _) (by simp)

/-! ## The report about the health -/

/-- A text ends with a byte of its own, not with the end of the text. -/
def Ended (text : List UInt8) : Prop := ∃ front byte, byte ≠ 0 ∧ text = front ++ [byte]

theorem Ended.append {text : List UInt8} (h : Ended text) (front : List UInt8) :
    Ended (front ++ text) := by
  obtain ⟨rest, byte, hbyte, rfl⟩ := h
  exact ⟨front ++ rest, byte, hbyte, (List.append_assoc _ _ _).symm⟩

private theorem Ended.length_pos {text : List UInt8} (h : Ended text) : 0 < text.length := by
  obtain ⟨front, byte, -, rfl⟩ := h
  rw [List.length_append]
  exact Nat.succ_pos _

private theorem ended_flatten {texts : List (List UInt8)} (h : ∀ text ∈ texts, Ended text)
    (hsome : texts ≠ []) : Ended texts.flatten := by
  induction texts with
  | nil => exact absurd rfl hsome
  | cons text texts ih =>
      rw [List.forall_mem_cons] at h
      rw [List.flatten_cons]
      cases texts with
      | nil =>
          rw [List.flatten_nil, List.append_nil]
          exact h.1
      | cons next texts => exact (ih h.2 (List.cons_ne_nil _ _)).append text

variable (sources) in
private theorem ended_healthTexts : ∀ text ∈ healthTexts sources, Ended text := by
  have hnewline : Ended (ascii "\n") := ⟨[], 10, by decide, rfl⟩
  have hpoint : Ended (ascii ". ") := ⟨[46], 32, by decide, rfl⟩
  have hpercent : Ended (ascii "%.\n") := ⟨[37, 46], 10, by decide, rfl⟩
  intro text htext
  rw [healthTexts] at htext
  split at htext
  · rw [List.mem_singleton] at htext
    subst htext
    exact hnewline.append _
  · split at htext
    · rw [firewallReport, vmrAfs, List.flatMap_singleton, firewallTexts] at htext
      rcases List.mem_cons.1 htext with rfl | htext
      · exact hpoint.append _
      · rcases List.mem_cons.1 htext with rfl | htext
        · exact hpoint.append _
        · split at htext
          · cases htext
          · rw [List.mem_singleton] at htext
            subst htext
            exact hnewline.append _
    · split at htext
      · rw [List.mem_singleton] at htext
        subst htext
        exact hpercent.append _
      · cases htext

variable (sources) in
private theorem printHealth_count (size : Nat) (rhLog : Memory) :
    min (printHealth sources size rhLog).2 size =
      min (totalLength (healthTexts sources)) size := by
  rw [printHealth]
  cases healthTexts sources with
  | nil => rfl
  | cons text texts =>
      simp only
      rw [printUntilFull_count, snprintf_count, totalLength_cons]

private theorem printHealth_fits {size : Nat} (rhLog : Memory) (hsize : size < 2 ^ 32)
    (h : totalLength (healthTexts sources) < size) :
    (printHealth sources size rhLog).1.slice 0 (totalLength (healthTexts sources)) =
      (healthTexts sources).flatten := by
  rw [printHealth]
  cases htexts : healthTexts sources with
  | nil => rfl
  | cons text texts =>
      rw [htexts, totalLength_cons] at h
      have hfirst := @snprintf_fits size rhLog 0 text (by omega)
      rw [Nat.zero_add, Memory.slice_zero, List.nil_append] at hfirst
      have hrest := @printUntilFull_fits size texts (snprintf rhLog 0 size text).1 text.length
        hsize h
      rw [hfirst] at hrest
      rw [totalLength_cons]
      exact hrest

private theorem printHealth_full {size : Nat} (rhLog : Memory) (hsize : size < 2 ^ 32)
    (hpos : 0 < size)
    (h : totalLength (healthTexts sources) = size) :
    (printHealth sources size rhLog).1 (size - 1) = 0 := by
  have hended := ended_healthTexts sources
  rw [printHealth]
  cases htexts : healthTexts sources with
  | nil =>
      rw [htexts] at h
      exact absurd h (Nat.ne_of_lt hpos)
  | cons text texts =>
      rw [htexts] at h hended
      rw [totalLength_cons] at h
      simp only
      cases texts with
      | nil =>
          have hend := @snprintf_full size rhLog 0 text h hpos
          rw [Nat.zero_add] at hend
          exact hend
      | cons next texts =>
          have hnext := (hended next (by simp)).length_pos
          refine printUntilFull_full hsize ?_ h
          rw [totalLength_cons] at h
          rw [snprintf_count]
          omega

private theorem healthyCheck_eq (hsome : healthTexts sources ≠ []) :
    ∃ copied, min (printHealth sources state.safeSize state.rhLog).2 state.safeSize ≤ copied ∧
      copied ≤ state.safeSize ∧
      (rmgmtHealthyCheck sources state).2 =
        ({ state with rhLog := (printHealth sources state.safeSize state.rhLog).1 }.copyLog
          state.dstAddr copied).setSize
            (UInt32.ofNat (min (printHealth sources state.safeSize state.rhLog).2
              state.safeSize)) := by
  rw [healthTexts] at hsome
  rw [rmgmtHealthyCheck, rmgmtLogClockShutdown, ← shutdownStatus, printHealth, healthTexts]
  by_cases hshutdown : shutdownStatus sources ≠ 0
  · simp only [if_pos hshutdown]
    refine ⟨state.safeSize, Nat.min_le_right _ _, Nat.le_refl _, ?_⟩
    simp only [printUntilFull]
    congr 2
    split <;> omega
  · simp only [if_neg hshutdown] at hsome ⊢
    rw [rmgmtCheckFirewall, ← firewallStatus]
    by_cases hfirewall : firewallStatus sources ≠ 0
    · simp only [if_pos hfirewall]
      exact ⟨_, Nat.le_refl _, Nat.min_le_right _ _, rfl⟩
    · simp only [if_neg hfirewall] at hsome ⊢
      rw [rmgmtLogClockThrottlingPercentage]
      by_cases hthrottling : sources.clkScalingEnable ≠ 0
      · simp only [if_pos hthrottling]
        exact ⟨state.safeSize, Nat.min_le_right _ _, Nat.le_refl _, rfl⟩
      · rw [if_neg hthrottling] at hsome
        exact absurd rfl hsome

private theorem length_health :
    (printedBytes (printHealth sources rhLogMaxSize state.rhLog)).length =
      min (totalLength (healthTexts sources)) rhLogMaxSize := by
  rw [printedBytes, Memory.length_slice, printHealth_count]

private theorem healthTexts_ne_nil
    (hsome : (printedBytes (printHealth sources rhLogMaxSize state.rhLog)).length ≠ 0) :
    healthTexts sources ≠ [] := by
  intro hnone
  rw [length_health, hnone] at hsome
  exact hsome rfl

private theorem slice_printHealth
    (hlast : min (totalLength (healthTexts sources)) rhLogMaxSize < state.payload.size.toNat ∨
      rhLogMaxSize ≤ state.payload.size.toNat)
    (hroom : min (totalLength (healthTexts sources)) rhLogMaxSize ≤ state.payload.size.toNat) :
    (printHealth sources rhLogMaxSize state.rhLog).1.slice 0
        (min (printHealth sources rhLogMaxSize state.rhLog).2 rhLogMaxSize) =
      (printHealth sources state.safeSize state.rhLog).1.slice 0
        (min (printHealth sources state.safeSize state.rhLog).2 state.safeSize) := by
  have hmax : rhLogMaxSize = 0x1000 := rfl
  rw [printHealth_count, printHealth_count]
  by_cases hlong : rhLogMaxSize ≤ state.payload.size.toNat
  · rw [LogState.safeSize, if_neg (Nat.not_lt.2 hlong)]
  · have hfits : totalLength (healthTexts sources) < state.payload.size.toNat := by omega
    rw [LogState.safeSize, if_pos (Nat.not_le.1 hlong), Nat.min_eq_left (by omega),
      Nat.min_eq_left (by omega), printHealth_fits _ (by omega) (by omega),
      printHealth_fits _ (by omega) hfits]

private theorem health_arrived (h : Serviceable sources state .afCheck content)
    (hlast : content.length < state.payload.size.toNat ∨ rhLogMaxSize ≤ state.payload.size.toNat)
    (hsome : content.length ≠ 0) :
    Arrived content state (rmgmtHealthyCheck sources state).2 := by
  have hmax : rhLogMaxSize = 0x1000 := rfl
  have hroom := h.room
  have havailable := h.available
  rw [pageContent] at havailable
  cases havailable
  have htexts := healthTexts_ne_nil hsome
  obtain ⟨copied, hprinted, hcopied, hstate⟩ := healthyCheck_eq htexts
  have hsafe := safeSize_le state
  rw [length_health] at hroom hlast
  rw [hstate, printedBytes, slice_printHealth hlast (by omega)]
  exact arrived_copyLog h.window hprinted (by omega)

private theorem health_truncated (h : Serviceable sources state .afCheck content)
    (hexact : content.length = state.payload.size.toNat)
    (hshort : state.payload.size.toNat < rhLogMaxSize) (hsome : content.length ≠ 0) :
    ¬ Arrived content state (rmgmtHealthyCheck sources state).2 := by
  intro harrived
  have hmax : rhLogMaxSize = 0x1000 := rfl
  have havailable := h.available
  rw [pageContent] at havailable
  cases havailable
  have htexts := healthTexts_ne_nil hsome
  obtain ⟨copied, hprinted, hcopied, hstate⟩ := healthyCheck_eq htexts
  have hsafe : state.safeSize = state.payload.size.toNat := if_pos hshort
  rw [length_health] at hexact hsome
  have htotal : totalLength (healthTexts sources) = state.payload.size.toNat := by omega
  rw [hsafe] at hprinted hcopied hstate
  rw [printHealth_count, htotal, Nat.min_self] at hprinted
  have hall : copied = state.payload.size.toNat := Nat.le_antisymm hcopied hprinted
  subst hall
  rw [hstate, printHealth_count, htotal, Nat.min_self, printedBytes, printHealth_count, htotal,
    Nat.min_eq_left (Nat.le_of_lt hshort)] at harrived
  have hwhole := harrived.1
  have hcopy := (@arrived_copyLog state (printHealth sources state.payload.size.toNat
    state.rhLog).1 _ _ h.window (Nat.le_refl state.payload.size.toNat) (Nat.le_refl _)).1
  rw [Memory.length_slice] at hwhole
  rw [Memory.length_slice] at hcopy
  have hfits := printHealth_fits state.rhLog (show rhLogMaxSize < 2 ^ 32 by decide)
    (show totalLength (healthTexts sources) < rhLogMaxSize by omega)
  rw [htotal] at hfits
  -- the texts end with a byte of their own, what has arrived ends with the end of a text
  obtain ⟨front, byte, hbyte, htext⟩ := ended_flatten (ended_healthTexts sources) htexts
  have hlength := length_flatten (healthTexts sources)
  rw [htext, List.length_append, List.length_singleton] at hlength
  have hbytes : (printHealth sources state.payload.size.toNat state.rhLog).1.slice 0
      state.payload.size.toNat = front ++ [byte] := by
    rw [← hcopy, hwhole, hfits, htext]
  rw [show state.payload.size.toNat = front.length + 1 by omega, Memory.slice_add] at hbytes
  obtain ⟨-, hend⟩ := List.append_inj hbytes (Memory.length_slice _ _ _)
  have hfull := printHealth_full state.rhLog (by omega) (by omega) htotal
  rw [show state.payload.size.toNat = front.length + 1 by omega, Nat.add_sub_cancel] at hfull
  rw [Nat.zero_add] at hend
  exact hbyte ((List.head_eq_of_cons_eq hend).symm.trans hfull)

/-! ## All pages -/

private theorem arrived_page (h : Serviceable sources state page content)
    (hvalid : ∀ size, checkedSize sources state page = some size →
      validateLogPayload state.payload size = 0)
    (hhealth : page ≠ .afCheck) (hapu : page ≠ .apuLog)
    (himage : copiedImage sources state page = none) :
    Arrived content state (clRmgmtLogPage sources state).2 := by
  have havailable := h.available
  rw [clRmgmtLogPage, h.requested]
  cases page with
  | afCheck => exact absurd rfl hhealth
  | afClear =>
      cases havailable
      exact ⟨rfl, fun hsome => absurd rfl hsome⟩
  | fw | systemDtb | plmLog =>
      rw [pageContent, imageContent, himage] at havailable
      cases havailable
  | info =>
      cases havailable
      exact arrived_copyQueries h (prints_info sources) rfl
  | endpoint =>
      cases havailable
      exact arrived_copyQueries h (prints_endpoint sources) rfl
  | taskStats => exact arrived_taskStats h havailable
  | memStats =>
      rw [pageContent] at havailable
      exact arrived_memStats h (Option.some.inj havailable)
  | apuLog => exact absurd rfl hapu
  | shellInterfaceUuid =>
      exact arrived_uuid h havailable fun image himage =>
        hvalid image.2 (by rw [checkedSize, himage]; rfl)
  | defaultFpt => exact arrived_loadFpt h havailable (hvalid _ rfl)
  | backupFpt => exact arrived_loadFpt h havailable (hvalid _ rfl)

private theorem health_arrived_iff (h : Serviceable sources state .afCheck content) :
    Arrived content state (clRmgmtLogPage sources state).2 ↔
      content.length = 0 ∨ content.length < state.payload.size.toNat ∨
        rhLogMaxSize ≤ state.payload.size.toNat := by
  have hroom := h.room
  rw [clRmgmtLogPage, h.requested]
  constructor
  · intro harrived
    by_contra hlast
    rw [not_or, not_or] at hlast
    exact health_truncated h (by omega) (by omega) hlast.1 harrived
  · intro hcan
    by_cases hsome : content.length = 0
    · have havailable := h.available
      rw [pageContent] at havailable
      cases havailable
      refine ⟨?_, fun hsome' => absurd hsome hsome'⟩
      rw [printedBytes, Memory.length_slice] at hsome
      rw [printedBytes, hsome]
      rfl
    · exact health_arrived h (hcan.resolve_left hsome) hsome

end Pages

theorem served_iff (sources : LogSources) (state : LogState) (page : ClLogType)
    (content : List UInt8) (h : Serviceable sources state page content) :
    Served sources state page content ↔ CanServe sources state page content := by
  constructor
  · intro hserved
    obtain ⟨hchecked, huuid⟩ := (valid_iff h).1 hserved.valid
    constructor
    · rintro rfl
      rcases hchecked with hnone | ⟨hpage, -⟩
      · cases hnone
      · exact hpage rfl
    · exact huuid
    · intro hsome
      rcases hchecked with hnone | ⟨-, hstart⟩
      · exact absurd hnone hsome
      · exact hstart
    · rintro rfl
      exact (health_arrived_iff h).1 hserved.arrived
    · intro image himage
      exact (image_arrived_iff h hserved.valid himage).1 hserved.arrived
  · intro hcan
    have hvalid := (valid_iff h).2 ⟨or_iff_not_imp_left.2 fun hsome =>
      ⟨hcan.apuLog, hcan.start hsome⟩, hcan.uuid⟩
    refine ⟨hvalid, ?_⟩
    by_cases hpage : page = .afCheck
    · subst hpage
      exact (health_arrived_iff h).2 (hcan.lastByte rfl)
    · cases himage : copiedImage sources state page with
      | none => exact arrived_page h hvalid hpage hcan.apuLog himage
      | some image => exact (image_arrived_iff h hvalid himage).2 (hcan.image image himage)

/-! ## Requests -/

def requestFor (pid : UInt16) (size : UInt32) (memory : Memory) : LogState :=
  received { address := 0, size := size, offset := 0, pid := pid } noPartitions (fun _ => 0) memory

/-- The log of the PLM, with bytes of its own at every address. -/
theorem served_plmLog :
    let state := requestFor 0x9 vmrPlmDataTotalSize fun address => UInt8.ofNat (address % 251)
    Served idleSources state .plmLog
      ((List.range' vmrPlmDataStartAddress.toNat vmrPlmDataTotalSize.toNat).map fun address =>
        UInt8.ofNat (address % 251)) := by
  intro state
  have hcontent : pageContent idleSources state .plmLog =
      some ((List.range' vmrPlmDataStartAddress.toNat vmrPlmDataTotalSize.toNat).map fun address =>
        UInt8.ofNat (address % 251)) := by
    refine congrArg some (Memory.slice_eq_slice_iff.2 fun offset hoffset => ?_)
    rw [show vmrPlmDataTotalSize.toNat = 0x4000 from rfl] at hoffset
    rw [Nat.zero_add, state.bus.view_inside (by
      rw [show vmrPlmDataStartAddress.toNat = 0xF2019000 from rfl]
      omega)]
    rfl
  have hserviceable : Serviceable idleSources state .plmLog _ :=
    ⟨⟨0x8, 0x9, by decide, by decide⟩, by decide, hcontent, by decide, by
      rw [List.length_map, List.length_range']
      exact Nat.le_refl _⟩
  refine (served_iff _ _ _ _ hserviceable).2 ⟨by decide, ?_, fun _ => by decide, ?_, ?_⟩
  · intro huuid
    cases huuid
  · intro hhealth
    cases hhealth
  · intro image himage
    cases himage
    exact Bus.repeats_of_apart (by decide)

def apuLogSources : LogSources :=
  { idleSources with apuLog := fun _ _ => ⟨true, some 4, true, .ok ⟨false, 4, fun _ => 0x41, 0⟩⟩ }

def firmwareTable : Memory := fun address =>
  if address < 0x7FBF0000 then 0
  else match address - 0x7FBF0000 with
    | 0 => 0x63 | 1 => 0xC5 | 2 => 0x0B | 3 => 0x3A
    | 6 => 0x80 | 7 => 1
    | 0x80 => 0x02 | 0x81 => 0x0E
    | 0x91 => 0x10
    | _ => 0

def uuidSources : LogSources := { idleSources with fdtUuids := fun _ => (0, fun _ => 0x61) }

/-- The log of the APU is never served, and the UUID only to those who ask for as much as the
firmware has. -/
theorem not_served :
    (let state := requestFor 0x10 4096 fun _ => 0
     let content := [0x41, 0x41, 0x41, 0x41]
     Serviceable apuLogSources state .apuLog content ∧
      ¬ Served apuLogSources state .apuLog content) ∧
    (let state := requestFor 0xa 64 firmwareTable
     let content := List.replicate 33 0x61
     Serviceable uuidSources state .shellInterfaceUuid content ∧
      ¬ Served uuidSources state .shellInterfaceUuid content) := by
  constructor
  · intro state content
    refine ⟨⟨⟨0x9, 0x10, by decide, by decide⟩, by decide, rfl, by decide, by decide⟩, ?_⟩
    intro hserved
    exact absurd (hserved.valid 4096 rfl) (by decide)
  · intro state content
    have hfirmware : firmware uuidSources state = some (0, 0x1000) := by decide +kernel
    refine ⟨⟨⟨0xa, 0xa, by decide, by decide⟩, by decide, ?_, by decide, by decide⟩, ?_⟩
    · rw [pageContent, uuidContent, hfirmware]
      rfl
    · intro hserved
      exact absurd (hserved.valid 0x1000 (by rw [checkedSize, hfirmware]; rfl)) (by decide)

end Vmr.Rmgmt
