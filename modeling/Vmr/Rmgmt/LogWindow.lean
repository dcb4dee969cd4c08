import Vmr.Rmgmt.LogPage

/-!
# Log pages and the window of the request

A page writes a block that starts at the address of the request.  How long the
block is depends on the page: most pages respect the requested size, the
statistics pages and the UUID page do not, and no page looks at the end of the
block or at the start of the shared memory.
-/

namespace Vmr.Rmgmt

open Vmr.Lib Vmr.Shm

/-- The page went where the request allows, and not more is reported than was requested. -/
structure InWindow (request : LogPayload) (state : LogState) : Prop where
  written : ∀ address ∈ state.bus.written,
    ((rpuSharedMemoryAddr request.address).toNat ≤ address ∧
      address < (rpuSharedMemoryAddr request.address).toNat + request.size.toNat) ∧
    vmrEpRpuSharedMemoryStart.toNat ≤ address ∧ address < vmrEpRpuSharedMemoryEnd.toNat
  reported : state.payload.size ≤ request.size

/-- A block of this length from the requested address on has been written. -/
structure Wrote (state state' : LogState) (length : Nat) : Prop where
  written : ∀ address, address ∈ state'.bus.written ↔
    Covers state.dstAddr length address ∨ address ∈ state.bus.written
  reported : state'.payload.size = state.payload.size ∨ state'.payload.size.toNat ≤ length

theorem toNat_ofNat_le (value : Nat) : (UInt32.ofNat value).toNat ≤ value := by
  rw [UInt32.toNat_ofNat']
  exact Nat.mod_le _ _

private theorem Wrote.inWindow_iff {state state' : LogState} {length : Nat}
    (h : Wrote state state' length)
    (hclean : state.bus.written = []) :
    InWindow state.payload state' ↔
      length = 0 ∨
        vmrEpRpuSharedMemoryStart.toNat ≤ (rpuSharedMemoryAddr state.payload.address).toNat ∧
        (rpuSharedMemoryAddr state.payload.address).toNat + length ≤
          vmrEpRpuSharedMemoryEnd.toNat ∧
        length ≤ state.payload.size.toNat := by
  have hwritten (address : Nat) :
      address ∈ state'.bus.written ↔ Covers state.dstAddr length address := by
    rw [h.written, hclean]
    simp
  have hinside := @covers_inside_iff state.dstAddr length
    (max state.dstAddr.toNat vmrEpRpuSharedMemoryStart.toNat)
    (min (state.dstAddr.toNat + state.payload.size.toNat) vmrEpRpuSharedMemoryEnd.toNat)
    (Nat.lt_of_le_of_lt (Nat.min_le_right _ _) vmrEpRpuSharedMemoryEnd.toNat_lt)
  constructor
  · intro hwindow
    refine (hinside.1 fun address haddress => ?_).imp_right fun hends => ?_
    · have hplace := hwindow.written address ((hwritten address).2 haddress)
      simp only [LogState.dstAddr]
      omega
    · simp only [LogState.dstAddr] at hends
      omega
  · intro hends
    constructor
    · intro address haddress
      have hplace := hinside.2 (hends.imp_right fun hlong => by
        simp only [LogState.dstAddr]
        omega) address ((hwritten address).1 haddress)
      simp only [LogState.dstAddr] at hplace
      omega
    · rcases h.reported with hsame | hless
      · rw [hsame]
        exact UInt32.le_refl _
      · rw [UInt32.le_iff_toNat_le]
        omega

/-! ## Blocks -/

private theorem wrote_none {state state' : LogState} (hbus : state'.bus = state.bus)
    (hreported : state'.payload.size = state.payload.size ∨ state'.payload.size = 0) :
    Wrote state state' 0 := by
  constructor
  · intro address
    simp [hbus]
  · refine hreported.imp_right fun hzero => ?_
    rw [hzero]
    rfl

private theorem wrote_block {state state' : LogState} {length : Nat} {bytes : List UInt8}
    (hbus : state'.bus = state.bus.writeBytes state.dstAddr bytes) (hlength : bytes.length = length)
    (hreported : state'.payload.size.toNat ≤ length) : Wrote state state' length := by
  constructor
  · intro address
    rw [hbus, Bus.mem_written_writeBytes, hlength]
  · exact .inr hreported

private theorem wrote_copy {state state' : LogState} {length : Nat} {source : UInt32}
    (hbus : state'.bus = state.bus.copy state.dstAddr source length)
    (hreported : state'.payload.size.toNat ≤ length) : Wrote state state' length := by
  constructor
  · intro address
    rw [hbus, Bus.mem_written_copy]
  · exact .inr hreported

private theorem wrote_copyLog (state : LogState) (rhLog : Memory) {length size : Nat}
    (hreported : size ≤ length) :
    Wrote state (({ state with rhLog := rhLog }.copyLog state.dstAddr length).setSize
      (UInt32.ofNat size)) length := by
  refine @wrote_block state _ length (rhLog.slice 0 length) ?_ (Memory.length_slice _ _ _)
    (Nat.le_trans (toNat_ofNat_le size) hreported)
  simp only [LogState.setSize, LogState.copyLog, clMemcpyToio_eq]

/-! ## Health -/

section Pages

variable (sources : LogSources) (state : LogState)

def shutdownStatus : UInt32 :=
  checkClockShutdownStatus (sources.registers 0) sources.vmrEpGappingDemand

def firewallStatus : UInt32 :=
  checkFirewall (sources.registers 1) (vmrAfs sources.vmrEpFirewallUserBase)

def firewallReport : List (List UInt8) :=
  firewallText (firewallStatus sources) ::
    (vmrAfs sources.vmrEpFirewallUserBase).flatMap (firewallTexts (sources.registers 2))

/-- The text about a clock is copied with what lies behind it in the log buffer. -/
def healthLength : Nat :=
  if shutdownStatus sources ≠ 0 then state.safeSize
  else if firewallStatus sources ≠ 0 then min (totalLength (firewallReport sources)) state.safeSize
  else if sources.clkScalingEnable ≠ 0 then state.safeSize
  else 0

private theorem wrote_healthyCheck :
    Wrote state (rmgmtHealthyCheck sources state).2 (healthLength sources state) := by
  rw [rmgmtHealthyCheck, healthLength, rmgmtLogClockShutdown, ← shutdownStatus]
  by_cases hshutdown : shutdownStatus sources ≠ 0
  · simp only [if_pos hshutdown]
    refine wrote_copyLog state _ ?_
    split <;> omega
  · simp only [if_neg hshutdown]
    rw [rmgmtCheckFirewall, ← firewallStatus]
    by_cases hfirewall : firewallStatus sources ≠ 0
    · simp only [if_pos hfirewall]
      have hcount := @printUntilFull_count state.safeSize
        ((vmrAfs sources.vmrEpFirewallUserBase).flatMap (firewallTexts (sources.registers 2)))
        (snprintf state.rhLog 0 state.safeSize (firewallText (firewallStatus sources))).1
        (snprintf state.rhLog 0 state.safeSize (firewallText (firewallStatus sources))).2
      rw [firewallReport, totalLength_cons, ← snprintf_count state.rhLog 0 state.safeSize, ← hcount]
      exact wrote_copyLog state _ (Nat.le_refl _)
    · simp only [if_neg hfirewall]
      rw [rmgmtLogClockThrottlingPercentage]
      by_cases hthrottling : sources.clkScalingEnable ≠ 0
      · simp only [if_pos hthrottling]
        exact wrote_copyLog state _ (Nat.min_le_right _ _)
      · simp only [if_neg hthrottling]
        exact wrote_none rfl (.inr rfl)

/-! ## Images -/

def imageLength (found : Option (UInt32 × UInt32)) : Nat :=
  match found with
  | none => 0
  | some (_, fwSize) => if validateLogPayload state.payload fwSize ≠ 0 then 0 else fwSize.toNat

private theorem wrote_loadImage (found : MultibootPayload × Option (UInt32 × UInt32)) :
    Wrote state (loadImage state found).2 (imageLength state found.2) := by
  obtain ⟨multiboot, found⟩ := found
  cases found with
  | none => exact wrote_none rfl (.inl rfl)
  | some image =>
      rw [loadImage, imageLength]
      by_cases hinvalid : validateLogPayload state.payload image.2 ≠ 0
      · simp only [if_pos hinvalid]
        exact wrote_none rfl (.inl rfl)
      · simp only [if_neg hinvalid]
        exact wrote_copy rfl (Nat.le_refl _)

def fptLength (type : FptType) : Nat :=
  if ¬ sources.fptBufAllocated then 0
  else match sources.fptData type with
    | none => 0
    | some _ =>
        if validateLogPayload state.payload (UInt32.ofNat fwCopySize64Kb) ≠ 0 then 0
        else fwCopySize64Kb

private theorem wrote_copyFrom (buf : Memory) (length : Nat) :
    Wrote state ((state.copyFrom buf length).setSize (UInt32.ofNat length)) length :=
  wrote_block rfl (buf.length_slice 0 length) (toNat_ofNat_le length)

private theorem wrote_loadFpt (type : FptType) :
    Wrote state (rmgmtLoadFpt sources state type).2 (fptLength sources state type) := by
  rw [rmgmtLoadFpt, fptLength]
  by_cases hbuf : ¬ sources.fptBufAllocated
  · rw [if_pos hbuf, if_pos hbuf]
    exact wrote_none rfl (.inl rfl)
  · rw [if_neg hbuf, if_neg hbuf]
    cases sources.fptData type with
    | none => exact wrote_none rfl (.inl rfl)
    | some buf =>
        simp only
        by_cases hinvalid : validateLogPayload state.payload (UInt32.ofNat fwCopySize64Kb) ≠ 0
        · rw [if_pos hinvalid, if_pos hinvalid]
          exact wrote_none rfl (.inl rfl)
        · rw [if_neg hinvalid, if_neg hinvalid]
          exact wrote_copyFrom state buf fwCopySize64Kb

def firmware : Option (UInt32 × UInt32) :=
  (rmgmtFptGetXsabin state.bus.memory sources.vmrEpRpuPreloadFpt state.multiboot).2

def systemDtb : Option (UInt32 × UInt32) :=
  (rmgmtFptGetSystemdtb state.bus.memory sources.vmrEpRpuPreloadFpt state.multiboot).2

def uuidLength : Nat :=
  match firmware sources state with
  | none => 0
  | some (fwOffset, fwSize) =>
      if validateLogPayload state.payload fwSize ≠ 0 ∨ (sources.fdtUuids fwOffset).1 ≠ 0 then 0
      else uuidBytesLen

private theorem wrote_loadShellInterfaceUuid :
    Wrote state (rmgmtLoadShellInterfaceUuid sources state).2 (uuidLength sources state) := by
  rw [rmgmtLoadShellInterfaceUuid, uuidLength, firmware]
  cases (rmgmtFptGetXsabin state.bus.memory sources.vmrEpRpuPreloadFpt state.multiboot).2 with
  | none => exact wrote_none rfl (.inl rfl)
  | some image =>
      simp only
      by_cases hinvalid : validateLogPayload state.payload image.2 ≠ 0
      · rw [if_pos hinvalid, if_pos (.inl hinvalid)]
        exact wrote_none rfl (.inl rfl)
      · rw [if_neg hinvalid]
        by_cases hfailed : (sources.fdtUuids image.1).1 ≠ 0
        · rw [if_pos hfailed, if_pos (.inr hfailed)]
          exact wrote_none rfl (.inl rfl)
        · rw [if_neg hfailed, if_neg (not_or.2 ⟨hinvalid, hfailed⟩)]
          have hcopy := wrote_copyFrom { state with multiboot := (rmgmtFptGetXsabin state.bus.memory
            sources.vmrEpRpuPreloadFpt state.multiboot).1 } (sources.fdtUuids image.1).2 uuidBytesLen
          exact ⟨hcopy.1, hcopy.2⟩

def plmLength : Nat :=
  if validateLogPayload state.payload vmrPlmDataTotalSize ≠ 0 then 0
  else (min state.payload.size vmrPlmDataTotalSize).toNat

private theorem wrote_syncPlmData :
    Wrote state (rmgmtSyncPlmData state).2 (plmLength state) := by
  rw [rmgmtSyncPlmData, plmLength]
  by_cases hinvalid : validateLogPayload state.payload vmrPlmDataTotalSize ≠ 0
  · simp only [if_pos hinvalid]
    exact wrote_none rfl (.inl rfl)
  · simp only [if_neg hinvalid]
    exact wrote_copy rfl (Nat.le_refl _)

private theorem wrote_loadApuLog (h : clLogType state.payload.pid = some .apuLog) :
    Wrote state (rmgmtLoadApuLog sources state).2 0 := by
  have hpid : state.payload.pid ≥ clLogMaxType := by
    have hnumber : state.payload.pid.toNat = 0x10 := by
      rw [clLogType] at h
      split at h <;> cases h
      assumption
    rw [ge_iff_le, UInt16.le_iff_toNat_le, hnumber]
    decide
  have hinvalid : validateLogPayload state.payload state.payload.size ≠ 0 := by
    rw [validateLogPayload]
    by_cases hend : rpuSharedMemoryAddr state.payload.address ≥ vmrEpRpuSharedMemoryEnd
    · rw [if_pos hend]
      decide
    · rw [if_neg hend, if_pos hpid]
      decide
  rw [rmgmtLoadApuLog]
  simp only [if_pos hinvalid]
  exact wrote_none rfl (.inl rfl)

/-! ## Texts -/

def fitting : Nat → List Nat → Nat
  | _, [] => 0
  | room, length :: lengths =>
      if room < length then 0 else length + fitting (room - length) lengths

structure Prints (query : Query) (length : Nat) : Prop where
  count : ∀ state, (query state rhLogMaxSize).2 = length
  payload : ∀ state, (query state rhLogMaxSize).1.payload = state.payload
  bus : ∀ state, (query state rhLogMaxSize).1.bus = state.bus

private theorem copyQueries_spec {queries : List Query} {lengths : List Nat}
    (h : List.Forall₂ Prints queries lengths) {state : LogState} {total : Nat}
    (htotal : total ≤ state.payload.size.toNat) :
    (∀ address, address ∈ (copyQueries queries total state).bus.written ↔
      Covers (state.dstAddr + UInt32.ofNat total)
        (fitting (state.payload.size.toNat - total) lengths) address ∨
        address ∈ state.bus.written) ∧
      (copyQueries queries total state).payload.size.toNat ≤
        total + fitting (state.payload.size.toNat - total) lengths := by
  induction h generalizing state total with
  | nil =>
      refine ⟨fun address => ?_, toNat_ofNat_le total⟩
      simp [copyQueries, fitting, LogState.setSize]
  | @cons query length queries lengths hquery _ ih =>
      rw [copyQueries, fitting]
      simp only [hquery.count]
      rw [hquery.payload]
      by_cases hroom : state.payload.size.toNat < total + length
      · rw [if_pos hroom, if_pos (by omega)]
        refine ⟨fun address => ?_, toNat_ofNat_le total⟩
        simp [LogState.setSize, hquery.bus]
      · rw [if_neg hroom, if_neg (by omega)]
        have hsame : ((query state rhLogMaxSize).1.copyLog
            ((query state rhLogMaxSize).1.dstAddr + UInt32.ofNat total) length).payload =
              state.payload := hquery.payload state
        have hdst : (query state rhLogMaxSize).1.dstAddr = state.dstAddr := by
          rw [LogState.dstAddr, hquery.payload]
          rfl
        have hblock (address : Nat) : address ∈ ((query state rhLogMaxSize).1.copyLog
            ((query state rhLogMaxSize).1.dstAddr + UInt32.ofNat total) length).bus.written ↔
              Covers (state.dstAddr + UInt32.ofNat total) length address ∨
                address ∈ state.bus.written := by
          simp only [LogState.copyLog, clMemcpyToio_eq, Bus.mem_written_writeBytes,
            Memory.length_slice]
          rw [hquery.bus, hdst]
        obtain ⟨hwritten, hreported⟩ := @ih ((query state rhLogMaxSize).1.copyLog
          ((query state rhLogMaxSize).1.dstAddr + UInt32.ofNat total) length) (total + length)
            (by rw [hsame]; omega)
        have hnext : state.dstAddr + UInt32.ofNat (total + length) =
            state.dstAddr + UInt32.ofNat total + UInt32.ofNat length := by
          rw [UInt32.ofNat_add, UInt32.add_assoc]
        have hdst' : ((query state rhLogMaxSize).1.copyLog
            ((query state rhLogMaxSize).1.dstAddr + UInt32.ofNat total) length).dstAddr =
              state.dstAddr := hdst
        rw [hsame, ← Nat.sub_sub] at hreported
        refine ⟨fun address => ?_, by omega⟩
        rw [hwritten, hblock, hsame, hdst', hnext, ← Nat.sub_sub, covers_add, or_left_comm,
          or_assoc]

/-! ## The queries -/

private theorem prints_printAll (texts : List (List UInt8)) {query : Query}
    (hquery : ∀ state size, (query state size).2 = (printAll size texts state.rhLog 0).2)
    (hpayload : ∀ state size, (query state size).1.payload = state.payload)
    (hbus : ∀ state size, (query state size).1.bus = state.bus) :
    Prints query (min (totalLength texts) rhLogMaxSize) where
  count state := by rw [hquery, printAll_count (Nat.zero_le _), Nat.zero_add]
  payload state := hpayload state rhLogMaxSize
  bus state := hbus state rhLogMaxSize

def identifyLength : Nat :=
  match sources.apuIdentify with
  | none => 0
  | some (major, minor) => (apuIdentifyText major minor).length

private theorem printIdentify_count (buf : Memory) (size : Nat) :
    (printIdentify sources buf size).2 = identifyLength sources := by
  rw [printIdentify, identifyLength]
  cases sources.apuIdentify <;> rfl

def apuStatusLength : Nat :=
  if ¬ sources.apuIsReady then 0
  else if identifyLength sources > rhLogMaxSize then rhLogMaxSize
  else
    let left := UInt32.ofNat (rhLogMaxSize - identifyLength sources)
    min ((identifyLength sources + (rmgmtApuLogPage (sources.apuInfo left) left).1) % 2 ^ 32).toNat
      rhLogMaxSize

private theorem apuStatusQuery_spec :
    (rmgmtApuStatusQuery sources state rhLogMaxSize).2 = apuStatusLength sources ∧
      (rmgmtApuStatusQuery sources state rhLogMaxSize).1.payload = state.payload ∧
      (rmgmtApuStatusQuery sources state rhLogMaxSize).1.bus = state.bus := by
  have hprinted := printIdentify_count sources state.rhLog rhLogMaxSize
  rw [rmgmtApuStatusQuery, apuStatusLength]
  by_cases hready : ¬ sources.apuIsReady
  · rw [if_pos hready, if_pos hready]
    exact ⟨rfl, rfl, rfl⟩
  · rw [if_neg hready, if_neg hready, ← hprinted]
    by_cases hlong : (printIdentify sources state.rhLog rhLogMaxSize).2 > rhLogMaxSize
    · rw [if_pos hlong, if_pos hlong]
      exact ⟨rfl, rfl, rfl⟩
    · rw [if_neg hlong, if_neg hlong]
      simp only
      split
      · exact ⟨by rw [LogState.printed]; omega, rfl, rfl⟩
      · exact ⟨by rw [LogState.printed]; omega, rfl, rfl⟩

private theorem prints_apuStatusQuery :
    Prints (rmgmtApuStatusQuery sources) (apuStatusLength sources) where
  count state := (apuStatusQuery_spec sources state).1
  payload state := (apuStatusQuery_spec sources state).2.1
  bus state := (apuStatusQuery_spec sources state).2.2

def infoLengths : List Nat :=
  [min (totalLength (rpuStatusTexts sources.buildXrtOnly sources.version)) rhLogMaxSize,
   apuStatusLength sources,
   min (totalLength (fptStatusTexts sources.fptQuery sources.scfwVersion sources.ospiVersion))
    rhLogMaxSize]

def endpointLengths : List Nat :=
  [min (totalLength (sources.vmrEps.map endpointText)) rhLogMaxSize]

private theorem wrote_copyQueries {queries : List Query} {lengths : List Nat}
    (h : List.Forall₂ Prints queries lengths) :
    Wrote state (copyQueries queries 0 state) (fitting state.payload.size.toNat lengths) := by
  obtain ⟨hwritten, hreported⟩ := copyQueries_spec h (Nat.zero_le state.payload.size.toNat)
  rw [Nat.sub_zero] at hwritten hreported
  constructor
  · intro address
    rw [hwritten]
    simp
  · exact .inr (by omega)

theorem prints_info : List.Forall₂ Prints
    [rmgmtRpuStatusQuery sources, rmgmtApuStatusQuery sources, rmgmtFptStatusQuery sources]
    (infoLengths sources) := by
  refine .cons ?_ (.cons (prints_apuStatusQuery sources) (.cons ?_ .nil))
  · exact prints_printAll (rpuStatusTexts sources.buildXrtOnly sources.version)
      (fun _ _ => rfl) (fun _ _ => rfl) fun _ _ => rfl
  · refine prints_printAll (fptStatusTexts sources.fptQuery sources.scfwVersion sources.ospiVersion)
      (fun state size => ?_) (fun state size => ?_) fun state size => ?_
    · simp only [rmgmtFptStatusQuery, LogState.printed]
    · simp only [rmgmtFptStatusQuery, LogState.printed]
    · simp only [rmgmtFptStatusQuery, LogState.printed]

theorem prints_endpoint :
    List.Forall₂ Prints [rmgmtEndpointsQuery sources] (endpointLengths sources) :=
  .cons (prints_printAll _ (fun _ _ => rfl) (fun _ _ => rfl) fun _ _ => rfl) .nil

theorem wrote_verboseInfo :
    Wrote state (vmrVerboseInfo sources state).2
      (fitting state.payload.size.toNat (infoLengths sources)) :=
  wrote_copyQueries state (prints_info sources)

private theorem wrote_endpointInfo :
    Wrote state (vmrEndpointInfo sources state).2
      (fitting state.payload.size.toNat (endpointLengths sources)) :=
  wrote_copyQueries state (prints_endpoint sources)

/-! ## Statistics -/

def taskStatsLength : Nat :=
  match sources.taskStatus with
  | none => 0
  | some tasks =>
      min (totalLength (taskStatsHeader :: taskStatsTexts tasks sources.totalruntime)) rhLogMaxSize

private theorem wrote_taskStats :
    Wrote state (vmrRtosTaskStats sources state).2 (taskStatsLength sources) := by
  rw [vmrRtosTaskStats, taskStatsLength]
  cases sources.taskStatus with
  | none => exact wrote_none rfl (.inl rfl)
  | some tasks =>
      have hcount := @printUntilFull_count rhLogMaxSize
        (taskStatsTexts tasks sources.totalruntime)
        (snprintf state.rhLog 0 rhLogMaxSize taskStatsHeader).1
        (snprintf state.rhLog 0 rhLogMaxSize taskStatsHeader).2
      simp only
      rw [totalLength_cons, ← snprintf_count state.rhLog 0 rhLogMaxSize, ← hcount]
      exact wrote_copyLog state _ (Nat.le_refl _)

def memStatsLength : Nat := min (memStatsText sources.heapStats).length rhLogMaxSize

private theorem wrote_memStats :
    Wrote state (vmrRtosMemStats sources state).2 (memStatsLength sources) :=
  wrote_copyLog state _ (Nat.le_refl _)

/-! ## All pages -/

/-- How much the requested page writes. -/
def pageLength : Nat :=
  match clLogType state.payload.pid with
  | some .afCheck => healthLength sources state
  | some .fw => imageLength state (firmware sources state)
  | some .info => fitting state.payload.size.toNat (infoLengths sources)
  | some .endpoint => fitting state.payload.size.toNat (endpointLengths sources)
  | some .taskStats => taskStatsLength sources
  | some .memStats => memStatsLength sources
  | some .systemDtb => imageLength state (systemDtb sources state)
  | some .plmLog => plmLength state
  | some .shellInterfaceUuid => uuidLength sources state
  | some .defaultFpt => fptLength sources state .default
  | some .backupFpt => fptLength sources state .backup
  | some .afClear | some .apuLog | none => 0

theorem wrote_logPage :
    Wrote state (clRmgmtLogPage sources state).2 (pageLength sources state) := by
  rw [clRmgmtLogPage, pageLength]
  cases hpage : clLogType state.payload.pid with
  | none => exact wrote_none rfl (.inl rfl)
  | some page =>
      cases page with
      | afCheck => exact wrote_healthyCheck sources state
      | fw => exact wrote_loadImage state _
      | info => exact wrote_verboseInfo sources state
      | afClear => exact wrote_none rfl (.inl rfl)
      | endpoint => exact wrote_endpointInfo sources state
      | taskStats => exact wrote_taskStats sources state
      | memStats => exact wrote_memStats sources state
      | systemDtb => exact wrote_loadImage state _
      | plmLog => exact wrote_syncPlmData state
      | apuLog => exact wrote_loadApuLog sources state hpage
      | shellInterfaceUuid => exact wrote_loadShellInterfaceUuid sources state
      | defaultFpt => exact wrote_loadFpt sources state .default
      | backupFpt => exact wrote_loadFpt sources state .backup

/-! ## Pages that respect the requested size -/

/-- The statistics pages do not look at the requested size; for the UUID page it is compared
with the size of the firmware. -/
def ignoresSize (pid : UInt16) : Bool :=
  match clLogType pid with
  | some .taskStats | some .memStats | some .shellInterfaceUuid => true
  | _ => false

variable {state} in
private theorem le_of_validateLogPayload {size : UInt32}
    (h : ¬ validateLogPayload state.payload size ≠ 0) :
    size.toNat ≤ state.payload.size.toNat := by
  rw [not_not, validateLogPayload] at h
  by_contra hsmall
  have hless : state.payload.size < size := UInt32.lt_iff_toNat_lt.2 (by omega)
  rw [if_pos hless] at h
  split at h
  · exact absurd h (by decide)
  · split at h <;> exact absurd h (by decide)

theorem safeSize_le : state.safeSize ≤ state.payload.size.toNat := by
  rw [LogState.safeSize]
  split <;> omega

theorem fitting_le (room : Nat) (lengths : List Nat) : fitting room lengths ≤ room := by
  induction lengths generalizing room with
  | nil => exact Nat.zero_le room
  | cons length lengths ih =>
      rw [fitting]
      have hrest := ih (room - length)
      split <;> omega

private theorem healthLength_le : healthLength sources state ≤ state.payload.size.toNat := by
  have hsafe := safeSize_le state
  rw [healthLength]
  split
  · exact hsafe
  · split
    · omega
    · split <;> omega

private theorem imageLength_le (found : Option (UInt32 × UInt32)) :
    imageLength state found ≤ state.payload.size.toNat := by
  cases found with
  | none => exact Nat.zero_le _
  | some image =>
      rw [imageLength]
      split
      · exact Nat.zero_le _
      · rename_i hvalid
        exact le_of_validateLogPayload hvalid

private theorem fptLength_le (type : FptType) :
    fptLength sources state type ≤ state.payload.size.toNat := by
  rw [fptLength]
  split
  · exact Nat.zero_le _
  · split
    · exact Nat.zero_le _
    · split
      · exact Nat.zero_le _
      · rename_i hvalid
        exact le_of_validateLogPayload hvalid

private theorem plmLength_le : plmLength state ≤ state.payload.size.toNat := by
  rw [plmLength]
  split
  · exact Nat.zero_le _
  · rename_i hvalid
    have hroom := le_of_validateLogPayload hvalid
    rw [show min state.payload.size vmrPlmDataTotalSize =
      if state.payload.size ≤ vmrPlmDataTotalSize then state.payload.size
      else vmrPlmDataTotalSize from rfl]
    split
    · exact Nat.le_refl _
    · exact hroom

private theorem pageLength_le (h : ignoresSize state.payload.pid = false) :
    pageLength sources state ≤ state.payload.size.toNat := by
  rw [ignoresSize] at h
  rw [pageLength]
  cases hpage : clLogType state.payload.pid with
  | none => exact Nat.zero_le _
  | some page =>
      rw [hpage] at h
      cases page with
      | afCheck => exact healthLength_le sources state
      | fw => exact imageLength_le state _
      | info => exact fitting_le _ _
      | afClear => exact Nat.zero_le _
      | endpoint => exact fitting_le _ _
      | taskStats => cases h
      | memStats => cases h
      | systemDtb => exact imageLength_le state _
      | plmLog => exact plmLength_le state
      | apuLog => exact Nat.zero_le _
      | shellInterfaceUuid => cases h
      | defaultFpt => exact fptLength_le sources state .default
      | backupFpt => exact fptLength_le sources state .backup

/-! ## The window -/

def received (request : LogPayload) (multiboot : MultibootPayload) (rhLog memory : Memory) :
    LogState where
  payload := request
  multiboot := multiboot
  rhLog := rhLog
  bus := ⟨memory, []⟩

end Pages

/-- A page stays in its window exactly when it writes nothing or lies in the shared memory with
both ends, and the request has room for it where the page does not see to that itself. -/
theorem logPage_inWindow_iff (sources : LogSources) (request : LogPayload)
    (multiboot : MultibootPayload) (rhLog memory : Memory) :
    let state := received request multiboot rhLog memory
    InWindow request (clRmgmtLogPage sources state).2 ↔
      pageLength sources state = 0 ∨
        vmrEpRpuSharedMemoryStart.toNat ≤ (rpuSharedMemoryAddr request.address).toNat ∧
        (rpuSharedMemoryAddr request.address).toNat + pageLength sources state ≤
          vmrEpRpuSharedMemoryEnd.toNat ∧
        (ignoresSize request.pid → pageLength sources state ≤ request.size.toNat) := by
  intro state
  refine ((wrote_logPage sources state).inWindow_iff rfl).trans ?_
  refine or_congr_right (and_congr_right fun _ => and_congr_right fun _ => ?_)
  constructor
  · exact fun hroom _ => hroom
  · intro hroom
    cases hignores : ignoresSize request.pid with
    | true => exact hroom hignores
    | false => exact pageLength_le sources state hignores

def noPartitions : MultibootPayload where
  hasExtfpt := false
  hasExtXsabin := false
  hasExtScfw := false
  hasExtSysdtb := false
  defaultPartitionOffset := 0
  defaultPartitionSize := 0
  backupPartitionOffset := 0
  backupPartitionSize := 0
  scfwOffset := 0
  scfwSize := 0
  xsabinOffset := 0
  xsabinSize := 0
  sysdtbOffset := 0
  sysdtbSize := 0
  pdimetaSize := 0
  pdimetaBackupSize := 0

def idleSources : LogSources where
  registers _ _ := 0
  vmrEpFirewallUserBase := 0x80001000
  vmrEpGappingDemand := 0x80010000
  clkScalingEnable := 0
  vmrEpRpuPreloadFpt := 0x7FBF0000
  buildXrtOnly := false
  version := none
  fptQuery := noPartitions
  scfwVersion := ⟨0, 0, 0⟩
  ospiVersion := none
  apuIsReady := false
  apuIdentify := none
  apuInfo _ := ⟨false, none, false, .error (-2)⟩
  apuLog _ _ := ⟨false, none, false, .error (-2)⟩
  vmrEps := []
  taskStatus := none
  totalruntime := 0
  heapStats := ⟨0, 0, 0, 0, 0, 0, 0⟩
  fptBufAllocated := false
  fptData _ := none
  fdtUuids _ := (-2, fun _ => 0)

/-- The statistics of the heap are written although nothing was requested. -/
theorem memStats_outside :
    let request : LogPayload := { address := 0x10000, size := 0, offset := 0, pid := 0x7 }
    ¬ InWindow request
      (clRmgmtLogPage idleSources (received request noPartitions (fun _ => 0) fun _ => 0)).2 := by
  intro request hwindow
  have hwrote := wrote_logPage idleSources (received request noPartitions (fun _ => 0) fun _ => 0)
  rcases (hwrote.inWindow_iff rfl).1 hwindow with hnone | ⟨-, -, hroom⟩
  · exact absurd hnone (by decide +kernel)
  · exact absurd hroom (by decide +kernel)

end Vmr.Rmgmt
