import Vmr.Rmgmt.LogSources

/-!
# The log pages

`cl_rmgmt_log_page` lets the handler of the requested page write into shared
memory, from the address of the request on, and leaves in the request the size
that is reported back.  Text pages are printed into a log buffer first.
-/

namespace Vmr.Rmgmt

open Vmr.Lib Vmr.Shm

/-! ## Requests -/

inductive ClLogType
  | afCheck | fw | info | afClear | endpoint | taskStats | memStats | systemDtb | plmLog
  | apuLog | shellInterfaceUuid | defaultFpt | backupFpt
  deriving DecidableEq, Repr

def clLogType (pid : UInt16) : Option ClLogType :=
  match pid.toNat with
  | 0x1 => some .afCheck
  | 0x2 => some .fw
  | 0x3 => some .info
  | 0x4 => some .afClear
  | 0x5 => some .endpoint
  | 0x6 => some .taskStats
  | 0x7 => some .memStats
  | 0x8 => some .systemDtb
  | 0x9 => some .plmLog
  | 0x10 => some .apuLog
  | 0xa => some .shellInterfaceUuid
  | 0xb => some .defaultFpt
  | 0xc => some .backupFpt
  | _ => none

def clLogMaxType : UInt16 := 0xd

structure LogPayload where
  address : UInt32
  size : UInt32
  offset : UInt32
  pid : UInt16

structure LogState where
  payload : LogPayload
  multiboot : MultibootPayload
  rhLog : Memory
  bus : Bus

def rhLogMaxSize : Nat := 0x1000
def fwCopySize64Kb : Nat := 0x10000
def uuidBytesLen : Nat := 33
def vmrPlmDataStartAddress : UInt32 := 0xF2019000
def vmrPlmDataTotalSize : UInt32 := 4096 * 4

namespace LogState

variable (state : LogState)

def dstAddr : UInt32 := rpuSharedMemoryAddr state.payload.address

def setSize (size : UInt32) : LogState := { state with payload.size := size }

/-- What is printed is limited by the log buffer and by the request. -/
def safeSize : Nat :=
  if state.payload.size.toNat < rhLogMaxSize then state.payload.size.toNat else rhLogMaxSize

def copyLog (dst : UInt32) (len : Nat) : LogState :=
  { state with bus := (clMemcpyToio dst state.rhLog len state.bus).2 }

def copyFrom (buf : Memory) (len : Nat) : LogState :=
  { state with bus := state.bus.writeBytes state.dstAddr (buf.slice 0 len) }

end LogState

def validateLogPayload (payload : LogPayload) (size : UInt32) : Int :=
  if rpuSharedMemoryAddr payload.address ≥ vmrEpRpuSharedMemoryEnd then -einval
  else if payload.pid ≥ clLogMaxType then -einval
  else if payload.size < size then -einval
  else 0

section Handlers

variable (sources : LogSources) (state : LogState)

/-! ## Health -/

def rmgmtLogClockShutdown : UInt32 × LogState :=
  let val := checkClockShutdownStatus (sources.registers 0) sources.vmrEpGappingDemand
  if val ≠ 0 then
    let safeSize := state.safeSize
    let printed := snprintf state.rhLog 0 safeSize (clockShutdownText val)
    let state := { state with rhLog := printed.1 }.copyLog state.dstAddr safeSize
    let size := if safeSize > printed.2 then printed.2 else safeSize
    (val, state.setSize (UInt32.ofNat size))
  else (val, state)

def rmgmtCheckFirewall : UInt32 × LogState :=
  let afs := vmrAfs sources.vmrEpFirewallUserBase
  let val := checkFirewall (sources.registers 1) afs
  if val ≠ 0 then
    let safeSize := state.safeSize
    let printed := snprintf state.rhLog 0 safeSize (firewallText val)
    let printed := printUntilFull safeSize (afs.flatMap (firewallTexts (sources.registers 2)))
      printed.1 printed.2
    let count := min printed.2 safeSize
    let state := { state with rhLog := printed.1 }.copyLog state.dstAddr count
    (val, state.setSize (UInt32.ofNat count))
  else (val, state)

def rmgmtLogClockThrottlingPercentage : UInt32 × LogState :=
  if sources.clkScalingEnable ≠ 0 then
    let safeSize := state.safeSize
    let printed := snprintf state.rhLog 0 safeSize
      (throttlingText (sources.registers 3) sources.vmrEpGappingDemand)
    let state := { state with rhLog := printed.1 }.copyLog state.dstAddr safeSize
    (0, state.setSize (UInt32.ofNat (min printed.2 safeSize)))
  else (0, state.setSize 0)

def rmgmtHealthyCheck : Int × LogState :=
  let shutdown := rmgmtLogClockShutdown sources state
  if shutdown.1 ≠ 0 then (signed32 shutdown.1, shutdown.2)
  else
    let firewall := rmgmtCheckFirewall sources shutdown.2
    if firewall.1 ≠ 0 then (signed32 firewall.1, firewall.2)
    else
      let throttling := rmgmtLogClockThrottlingPercentage sources firewall.2
      (signed32 throttling.1, throttling.2)

def firewallRetryCount : Nat := 10

/-- Wait until the firewall is no longer busy; the last status that was read, and the moment. -/
def waitWhileBusy (afBase : UInt32) : Nat → Nat → UInt32 → UInt32 × Nat
  | 0, moment, val => (val, moment)
  | tries + 1, moment, _ =>
      let val := readFirewall (sources.registers moment) afBase
      if val &&& firewallStatusBusy ≠ 0 then waitWhileBusy afBase tries (moment + 1) val
      else (val, moment + 1)

def waitUntilClear : Nat → Nat → Int
  | 0, _ => -einval
  | tries + 1, moment =>
      if checkFirewall (sources.registers moment) (vmrAfs sources.vmrEpFirewallUserBase) = 0 then 0
      else waitUntilClear tries (moment + 1)

/-- Unblocks the firewall through one of its registers and leaves the memory alone. -/
def rmgmtClearFirewall : Int :=
  let afBase := sources.vmrEpFirewallUserBase
  if checkFirewall (sources.registers 0) (vmrAfs afBase) = 0 then 0
  else
    let waited := waitWhileBusy sources afBase firewallRetryCount 1 0
    if waited.1 &&& firewallStatusBusy ≠ 0 then -einval
    else waitUntilClear sources firewallRetryCount waited.2

/-! ## Images -/

def loadImage (found : MultibootPayload × Option (UInt32 × UInt32)) : Int × LogState :=
  let state := { state with multiboot := found.1 }
  match found.2 with
  | none => (-1, state)
  | some (fwOffset, fwSize) =>
      let ret := validateLogPayload state.payload fwSize
      if ret ≠ 0 then (ret, state)
      else (0, { state with
        bus := clMemcpy state.dstAddr fwOffset fwSize.toNat state.bus }.setSize fwSize)

def rmgmtLoadFirmware : Int × LogState :=
  loadImage state
    (rmgmtFptGetXsabin state.bus.memory sources.vmrEpRpuPreloadFpt state.multiboot)

def rmgmtLoadSystemDtb : Int × LogState :=
  loadImage state
    (rmgmtFptGetSystemdtb state.bus.memory sources.vmrEpRpuPreloadFpt state.multiboot)

def rmgmtLoadFpt (type : FptType) : Int × LogState :=
  if ¬ sources.fptBufAllocated then (-enomem, state)
  else match sources.fptData type with
    | none => (-einval, state)
    | some buf =>
        let ret := validateLogPayload state.payload (UInt32.ofNat fwCopySize64Kb)
        if ret ≠ 0 then (ret, state)
        else (0, (state.copyFrom buf fwCopySize64Kb).setSize (UInt32.ofNat fwCopySize64Kb))

/-- The request is checked against the size of the firmware; what is copied is the text of
an UUID. -/
def rmgmtLoadShellInterfaceUuid : Int × LogState :=
  let found := rmgmtFptGetXsabin state.bus.memory sources.vmrEpRpuPreloadFpt state.multiboot
  let state := { state with multiboot := found.1 }
  match found.2 with
  | none => (-einval, state)
  | some (fwOffset, fwSize) =>
      let ret := validateLogPayload state.payload fwSize
      if ret ≠ 0 then (ret, state)
      else
        let found := sources.fdtUuids fwOffset
        if found.1 ≠ 0 then (found.1, state)
        else (0, (state.copyFrom found.2 uuidBytesLen).setSize (UInt32.ofNat uuidBytesLen))

/-- Each time, the entire log is returned. -/
def rmgmtSyncPlmData : Int × LogState :=
  let ret := validateLogPayload state.payload vmrPlmDataTotalSize
  if ret ≠ 0 then (ret, state)
  else
    let len := min state.payload.size vmrPlmDataTotalSize
    (0, { state with
      bus := clMemcpy state.dstAddr vmrPlmDataStartAddress len.toNat state.bus }.setSize len)

def rmgmtLoadApuLog : Int × LogState :=
  let ret := validateLogPayload state.payload state.payload.size
  if ret ≠ 0 then (ret, state)
  else
    let size := state.payload.size
    let log := rmgmtApuLogPage (sources.apuLog state.payload.offset size) size
    (0, { state with bus := state.bus.writeBytes state.dstAddr log.2 }.setSize
      (UInt32.ofInt log.1))

/-! ## Texts -/

/-- A query prints into the log buffer, which has a size, and returns how much it has printed. -/
abbrev Query := LogState → Nat → LogState × Nat

def LogState.printed (state : LogState) (printed : Memory × Nat) : LogState × Nat :=
  ({ state with rhLog := printed.1 }, printed.2)

def rmgmtRpuStatusQuery : Query := fun state size =>
  state.printed
    (printAll size (rpuStatusTexts sources.buildXrtOnly sources.version) state.rhLog 0)

def printIdentify (buf : Memory) (size : Nat) : Memory × Nat :=
  match sources.apuIdentify with
  | none => (buf, 0)
  | some (major, minor) => snprintf buf 0 size (apuIdentifyText major minor)

def rmgmtApuStatusQuery : Query := fun state size =>
  if ¬ sources.apuIsReady then (state, 0)
  else
    let printed := printIdentify sources state.rhLog size
    if printed.2 > size then state.printed (printed.1, size)
    else
      let left := UInt32.ofNat (size - printed.2)
      let info := rmgmtApuLogPage (sources.apuInfo left) left
      let buf := printed.1.putBytes printed.2 info.2
      -- a negative result is added to the unsigned count as it is
      let count := ((printed.2 + info.1) % 2 ^ 32).toNat
      if count > size then state.printed (buf, size) else state.printed (buf, count)

def rmgmtFptStatusQuery : Query := fun state size =>
  { state with multiboot := sources.fptQuery }.printed
    (printAll size (fptStatusTexts sources.fptQuery sources.scfwVersion sources.ospiVersion)
      state.rhLog 0)

def rmgmtEndpointsQuery : Query := fun state size =>
  state.printed (printAll size (sources.vmrEps.map endpointText) state.rhLog 0)

def copyQueries : List Query → Nat → LogState → LogState
  | [], totalCount, state => state.setSize (UInt32.ofNat totalCount)
  | query :: queries, totalCount, state =>
      let printed := query state rhLogMaxSize
      let state := printed.1
      if state.payload.size.toNat < totalCount + printed.2 then
        state.setSize (UInt32.ofNat totalCount)
      else copyQueries queries (totalCount + printed.2)
        (state.copyLog (state.dstAddr + UInt32.ofNat totalCount) printed.2)

def vmrVerboseInfo : Int × LogState :=
  (0, copyQueries [rmgmtRpuStatusQuery sources, rmgmtApuStatusQuery sources,
    rmgmtFptStatusQuery sources] 0 state)

def vmrEndpointInfo : Int × LogState :=
  (0, copyQueries [rmgmtEndpointsQuery sources] 0 state)

def vmrRtosTaskStats : Int × LogState :=
  let safeSize := rhLogMaxSize
  match sources.taskStatus with
  | none => (-enomem, state)
  | some tasks =>
      let printed := snprintf state.rhLog 0 safeSize taskStatsHeader
      let printed := printUntilFull safeSize (taskStatsTexts tasks sources.totalruntime)
        printed.1 printed.2
      let count := min printed.2 safeSize
      (0, ({ state with rhLog := printed.1 }.copyLog state.dstAddr count).setSize
        (UInt32.ofNat count))

def vmrRtosMemStats : Int × LogState :=
  let safeSize := rhLogMaxSize
  let printed := snprintf state.rhLog 0 safeSize (memStatsText sources.heapStats)
  let count := min printed.2 safeSize
  (0, ({ state with rhLog := printed.1 }.copyLog state.dstAddr count).setSize
    (UInt32.ofNat count))

/-! ## Dispatch -/

def clRmgmtLogPage : Int × LogState :=
  match clLogType state.payload.pid with
  | some .afCheck => rmgmtHealthyCheck sources state
  | some .afClear => (rmgmtClearFirewall sources, state)
  | some .fw => rmgmtLoadFirmware sources state
  | some .info => vmrVerboseInfo sources state
  | some .endpoint => vmrEndpointInfo sources state
  | some .taskStats => vmrRtosTaskStats sources state
  | some .memStats => vmrRtosMemStats sources state
  | some .systemDtb => rmgmtLoadSystemDtb sources state
  | some .plmLog => rmgmtSyncPlmData state
  | some .apuLog => rmgmtLoadApuLog sources state
  | some .shellInterfaceUuid => rmgmtLoadShellInterfaceUuid sources state
  | some .defaultFpt => rmgmtLoadFpt sources state .default
  | some .backupFpt => rmgmtLoadFpt sources state .backup
  | none => (-einval, state)

end Handlers

end Vmr.Rmgmt
