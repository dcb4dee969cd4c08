import Vmr.Lib.Errno
import Vmr.Lib.Print
import Vmr.Shm.Copy

/-!
# What the log pages are made of

Registers, statistics of the operating system, the tables in flash and in
memory, and the replies of the APU, with the texts that are printed from them.
-/

namespace Vmr.Rmgmt

open Vmr.Lib Vmr.Shm

/-! ## Firewall and clocks -/

structure VmrEndpoint where
  vmrEpName : List UInt8
  vmrEpAddress : UInt32

abbrev Registers := UInt32 → UInt32

def faultStatus : UInt32 := 0x0
def ipVersion : UInt32 := 0x10
def siFaultStatus : UInt32 := 0x100
def maxContinuousWtransfersWaits : UInt32 := 0x130
def araddrLo : UInt32 := 0x210
def araddrHi : UInt32 := 0x214
def awaddrLo : UInt32 := 0x218
def awaddrHi : UInt32 := 0x21c
def aruser : UInt32 := 0x220
def awuser : UInt32 := 0x224

def ipVer11 : UInt32 := 1
def firewallStatusBusy : UInt32 := 0x10001

def isFired (val : UInt32) : UInt32 := val &&& ~~~firewallStatusBusy

def readFirewall (registers : Registers) (afBase : UInt32) : UInt32 :=
  let siMode := registers (afBase + ipVersion) ≥ ipVer11 ∧
    registers (afBase + maxContinuousWtransfersWaits) ≠ 0
  if siMode then registers (afBase + siFaultStatus) else registers (afBase + faultStatus)

def vmrAfs (firewallUserBase : UInt32) : List VmrEndpoint :=
  [⟨ascii "VMR_EP_FIREWALL_USER_BASE", firewallUserBase⟩]

/-- Once one level of the firewall has tripped, it is reported. -/
def checkFirewall (registers : Registers) : List VmrEndpoint → UInt32
  | [] => 0
  | af :: afs =>
      let val := isFired (readFirewall registers af.vmrEpAddress)
      if val ≠ 0 then val else checkFirewall registers afs

def readAddr (registers : Registers) (afBase high low : UInt32) : Nat :=
  (registers (afBase + high)).toNat * 2 ^ 32 + (registers (afBase + low)).toNat

def signed32 (word : UInt32) : Int := word.toBitVec.toInt

def firewallText (val : UInt32) : List UInt8 :=
  ascii "AXI Firewall User is tripped, status: 0x" ++ hexadecimal val.toNat ++ ascii ". "

def firewallTexts (registers : Registers) (af : VmrEndpoint) : List (List UInt8) :=
  let afBase := af.vmrEpAddress
  let version := registers (afBase + ipVersion)
  (ascii "Firewall IP Version: " ++ signedDecimal (signed32 version) ++ ascii ", EP: 0x" ++
      hexadecimal afBase.toNat ++ ascii ". ") ::
    if version < ipVer11 then []
    else [ascii "ARADDR 0x" ++ hexadecimal (readAddr registers afBase araddrHi araddrLo) ++
      ascii ", AWADDR 0x" ++ hexadecimal (readAddr registers afBase awaddrHi awaddrLo) ++
      ascii ", ARUSER 0x" ++ hexadecimal (registers (afBase + aruser)).toNat ++
      ascii ", AWUSER 0x" ++ hexadecimal (registers (afBase + awuser)).toNat ++ ascii "\n"]

def vmrEpUcsChannel2 : UInt32 := 0x8
def shutdownLatchedStatus : UInt32 := 0x01
def maxGappingDemandRate : UInt32 := 128

def checkClockShutdownStatus (registers : Registers) (gappingDemand : UInt32) : UInt32 :=
  registers (gappingDemand + vmrEpUcsChannel2) &&& shutdownLatchedStatus

def clockShutdownText (val : UInt32) : List UInt8 :=
  ascii "Clock shutdown due to power or temperature value reaching Critical threshold, status: 0x" ++
    hexadecimal val.toNat ++ ascii "\n"

/-- To get the percentage of throttling, what is left of the clock speed is taken off 100. -/
def throttlingText (registers : Registers) (gappingDemand : UInt32) : List UInt8 :=
  let epGapping := min (registers gappingDemand &&& 0xFF) maxGappingDemandRate
  ascii "kernel clocks throttled at " ++
    unsignedDecimal (100 - epGapping * 100 / maxGappingDemandRate).toNat ++ ascii "%.\n"

/-! ## Tasks and heap -/

inductive ETaskState
  | eRunning | eReady | eBlocked | eSuspended | eDeleted | eInvalid
  deriving DecidableEq, Repr

def eTaskStateName : ETaskState → List UInt8
  | .eRunning => ascii "Running"
  | .eReady => ascii "Ready"
  | .eBlocked => ascii "Blocked"
  | .eSuspended => ascii "Suspended"
  | .eDeleted => ascii "Deleted"
  | .eInvalid => ascii "Invalid"

structure TaskStatus where
  pcTaskName : List UInt8
  eCurrentState : ETaskState
  uxBasePriority : UInt32
  usStackHighWaterMark : UInt32
  pxStackBase : UInt32
  ulRunTimeCounter : UInt32

def taskStatsHeader : List UInt8 := ascii "Name\t\tState\tPriority\tStack\tBase\t\tRun Time\n"

def taskStatsLine (totalruntime : UInt32) (task : TaskStatus) : List UInt8 :=
  let percentageTime := if totalruntime > 0 then task.ulRunTimeCounter / totalruntime else 0
  padRight 16 task.pcTaskName ++ padRight 12 (eTaskStateName task.eCurrentState) ++
    padRight 4 (signedDecimal (signed32 task.uxBasePriority)) ++ ascii "\t" ++
    signedDecimal (signed32 task.usStackHighWaterMark) ++ ascii "\t0x" ++
    hexadecimal task.pxStackBase.toNat ++ ascii "\t" ++
    (if percentageTime > 0 then unsignedDecimal percentageTime.toNat else ascii "<1") ++
    ascii "%\n"

/-- The run time of all tasks comes in the same unit as theirs; one hundredth of it is used. -/
def taskStatsTexts (tasks : List TaskStatus) (totalruntime : UInt32) : List (List UInt8) :=
  tasks.map (taskStatsLine (totalruntime / 100))

structure HeapStats where
  xAvailableHeapSpaceInBytes : UInt32
  xSizeOfLargestFreeBlockInBytes : UInt32
  xSizeOfSmallestFreeBlockInBytes : UInt32
  xNumberOfFreeBlocks : UInt32
  xMinimumEverFreeBytesRemaining : UInt32
  xNumberOfSuccessfulAllocations : UInt32
  xNumberOfSuccessfulFrees : UInt32

def memStatsText (hp : HeapStats) : List UInt8 :=
  let line (name : String) (value : UInt32) : List UInt8 :=
    ascii name ++ signedDecimal (signed32 value) ++ ascii "\n"
  line "Available heap size: " hp.xAvailableHeapSpaceInBytes ++
    line "Max size of free blocks in bytes: " hp.xSizeOfLargestFreeBlockInBytes ++
    line "Min size of free blocks in bytes: " hp.xSizeOfSmallestFreeBlockInBytes ++
    line "Num of free blocks: " hp.xNumberOfFreeBlocks ++
    line "Min amount of free blocks since system booted: " hp.xMinimumEverFreeBytesRemaining ++
    line "Num of successful pvPortMalloc: " hp.xNumberOfSuccessfulAllocations ++
    line "Num of successful pvPortFree: " hp.xNumberOfSuccessfulFrees

/-! ## The flash partition tables -/

structure MultibootPayload where
  hasExtfpt : Bool
  hasExtXsabin : Bool
  hasExtScfw : Bool
  hasExtSysdtb : Bool
  defaultPartitionOffset : UInt32
  defaultPartitionSize : UInt32
  backupPartitionOffset : UInt32
  backupPartitionSize : UInt32
  scfwOffset : UInt32
  scfwSize : UInt32
  xsabinOffset : UInt32
  xsabinSize : UInt32
  sysdtbOffset : UInt32
  sysdtbSize : UInt32
  pdimetaSize : UInt32
  pdimetaBackupSize : UInt32

def fptMagic : UInt32 := 0x3A0BC563
def fptTypeScFw : UInt32 := 0x0C00
def fptTypeXsabin : UInt32 := 0x0E02
def fptTypeSysdtb : UInt32 := 0x0E04

def extensionFptEntry (memory : Memory) (address : UInt32) (multiboot : MultibootPayload) :
    MultibootPayload :=
  let partitionType := memory.load32 address.toNat
  let partitionBaseAddr := memory.load32 (address.toNat + 12)
  let partitionSize := memory.load32 (address.toNat + 16)
  if partitionType = fptTypeScFw then
    { multiboot with scfwOffset := partitionBaseAddr, scfwSize := partitionSize, hasExtScfw := true }
  else if partitionType = fptTypeXsabin then
    { multiboot with
      xsabinOffset := partitionBaseAddr, xsabinSize := partitionSize, hasExtXsabin := true }
  else if partitionType = fptTypeSysdtb then
    { multiboot with
      sysdtbOffset := partitionBaseAddr, sysdtbSize := partitionSize, hasExtSysdtb := true }
  else multiboot

def rmgmtExtensionFptQuery (memory : Memory) (preloadFpt : UInt32) (multiboot : MultibootPayload) :
    MultibootPayload :=
  let base := preloadFpt.toNat
  let multiboot := { multiboot with hasExtfpt := memory.load32 base == fptMagic }
  let fptEntrySize := memory (base + 6)
  let fptNumEntries := memory (base + 7)
  if multiboot.hasExtfpt = false then multiboot
  else (List.range' 1 fptNumEntries.toNat).foldl
    (fun multiboot index => extensionFptEntry memory
      (preloadFpt + UInt32.ofNat (fptEntrySize.toNat * index)) multiboot) multiboot

def rmgmtFptGetXsabin (memory : Memory) (preloadFpt : UInt32) (multiboot : MultibootPayload) :
    MultibootPayload × Option (UInt32 × UInt32) :=
  let multiboot := rmgmtExtensionFptQuery memory preloadFpt multiboot
  (multiboot, if multiboot.hasExtXsabin then
    some (multiboot.xsabinOffset, multiboot.xsabinSize) else none)

def rmgmtFptGetSystemdtb (memory : Memory) (preloadFpt : UInt32) (multiboot : MultibootPayload) :
    MultibootPayload × Option (UInt32 × UInt32) :=
  let multiboot := rmgmtExtensionFptQuery memory preloadFpt multiboot
  (multiboot, if multiboot.hasExtSysdtb then
    some (multiboot.sysdtbOffset, multiboot.sysdtbSize) else none)

inductive FptType
  | default | backup
  deriving DecidableEq, Repr

/-! ## Status texts -/

structure VmrVersion where
  toolVersion : List UInt8
  gitHash : List UInt8
  gitBranch : List UInt8
  gitHashDate : List UInt8
  buildVersionDate : List UInt8
  buildVersion : List UInt8

def rpuStatusTexts (buildXrtOnly : Bool) (version : Option VmrVersion) : List (List UInt8) :=
  (if buildXrtOnly then ascii "Build flags: -XRT\n"
    else ascii "Build flags: default full build\n") ::
  match version with
  | none => []
  | some version =>
      [ascii "vitis version: " ++ version.toolVersion ++ ascii "\ngit hash: " ++ version.gitHash ++
        ascii "\ngit branch: " ++ version.gitBranch ++ ascii "\ngit hash date: " ++
        version.gitHashDate ++ ascii "\n",
       ascii "vmr build date: " ++ version.buildVersionDate ++ ascii "\nvmr build version: " ++
        version.buildVersion ++ ascii "\n"]

structure FptScVersion where
  fsvMajor : UInt8
  fsvMinor : UInt8
  fsvRevision : UInt8

def imageText (name : String) (offset size capacity : UInt32) : List UInt8 :=
  ascii name ++ ascii " image offset: 0x" ++ hexadecimal offset.toNat ++ ascii "\n" ++
    ascii name ++ ascii " image size: 0x" ++ hexadecimal size.toNat ++ ascii "\n" ++
    ascii name ++ ascii " image capacity: 0x" ++ hexadecimal capacity.toNat ++ ascii "\n"

def fptStatusTexts (multiboot : MultibootPayload) (version : FptScVersion)
    (ospiVersion : Option (List UInt8)) : List (List UInt8) :=
  [imageText "default" multiboot.defaultPartitionOffset multiboot.pdimetaSize
      multiboot.defaultPartitionSize,
   imageText "backup" multiboot.backupPartitionOffset multiboot.pdimetaBackupSize
      multiboot.backupPartitionSize,
   ascii "SCFW image size: 0x" ++ hexadecimal multiboot.scfwSize.toNat ++ ascii "\n",
   ascii "SCFW image version: " ++ unsignedDecimal version.fsvMajor.toNat ++ ascii "." ++
      unsignedDecimal version.fsvMinor.toNat ++ ascii "." ++
      unsignedDecimal version.fsvRevision.toNat ++ ascii "\n",
   ascii "OSPI image version: " ++ ospiVersion.getD (ascii "N/A") ++ ascii "\n"]

def endpointText (endpoint : VmrEndpoint) : List UInt8 :=
  endpoint.vmrEpName ++ ascii ": 0x" ++ hexadecimal endpoint.vmrEpAddress.toNat ++ ascii "\n"

/-! ## The APU -/

structure LogPageCompletion where
  failed : Bool
  count : UInt32
  data : Memory
  address : Nat

/-- How a request to the APU goes.  A request that times out ends with the error of the last
attempt to consume a completion. -/
structure ApuReply where
  apuIsReady : Bool
  logSize : Option UInt32
  produced : Bool
  completion : Except Int LogPageCompletion

def logPageCmdComplete (completion : LogPageCompletion) (reqSize : UInt32) : Int × List UInt8 :=
  if completion.failed then (0, [])
  else
    let returnSize := min completion.count reqSize
    (signed32 returnSize, completion.data.slice completion.address returnSize.toNat)

def rmgmtApuLogPage (reply : ApuReply) (reqSize : UInt32) : Int × List UInt8 :=
  if ¬ reply.apuIsReady then (0, [])
  else match reply.logSize with
    | none => (0, [])
    | some logSize =>
        if ¬ reply.produced then (0, [])
        else match reply.completion with
          | .error rval => (rval, [])
          | .ok completion => logPageCmdComplete completion (min reqSize logSize)

def apuIdentifyText (major minor : UInt16) : List UInt8 :=
  ascii "APU XGQ Version: " ++ unsignedDecimal major.toNat ++ ascii "." ++
    unsignedDecimal minor.toNat ++ ascii "\n"

/-! ## All sources -/

structure LogSources where
  /-- The registers at successive moments. -/
  registers : Nat → Registers
  vmrEpFirewallUserBase : UInt32
  vmrEpGappingDemand : UInt32
  clkScalingEnable : UInt8
  vmrEpRpuPreloadFpt : UInt32
  buildXrtOnly : Bool
  version : Option VmrVersion
  /-- What `rmgmt_fpt_query` finds in flash. -/
  fptQuery : MultibootPayload
  scfwVersion : FptScVersion
  ospiVersion : Option (List UInt8)
  apuIsReady : Bool
  apuIdentify : Option (UInt16 × UInt16)
  /-- The reply to a request for information of this size. -/
  apuInfo : UInt32 → ApuReply
  /-- The reply to a request for the log from an offset, of this size. -/
  apuLog : UInt32 → UInt32 → ApuReply
  vmrEps : List VmrEndpoint
  /-- None when there is no memory for the array. -/
  taskStatus : Option (List TaskStatus)
  totalruntime : UInt32
  heapStats : HeapStats
  fptBufAllocated : Bool
  /-- The table in flash, or none when reading it fails. -/
  fptData : FptType → Option Memory
  /-- Result and buffer of `rmgmt_fdt_get_uuids`. -/
  fdtUuids : UInt32 → Int × Memory

end Vmr.Rmgmt
