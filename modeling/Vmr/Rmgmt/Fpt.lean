import Vmr.Flash.Ospi
import Vmr.Rmgmt.LogSources
import Vmr.Xclbin.Axlf

/-!
# The flash partition table

`rmgmt_fpt.c` reads the table from the flash into the message, keeps metadata of
the two boot images, copies the default image over the backup, and writes a new
base PDI into the default partition.
-/

namespace Vmr.Rmgmt

open Vmr.Lib Vmr.Flash Vmr.Xclbin

def fptPdimetaMagic : UInt32 := 0x4D494450
def fptDefaultOffset : UInt32 := 0x0
def fptBackupOffset : UInt32 := 0x20000
def fptTypeBoot : UInt32 := 0x0E00
def fptTypeBootBackup : UInt32 := 0x0E01
def fptTypePdimeta : UInt32 := 0x0E05
def fptTypePdimetaBackup : UInt32 := 0x0E06
def fptTypeOspiVersion : UInt32 := 0x0E07

/-- Boot images start at multiples of 32 KiB. -/
def multibootOff (offset : UInt32) : UInt32 := offset / 1024 / 32

def bootTagOffset : Nat := 0x14
def bootTagMask : UInt32 := 0xFFFFFFFF

def clDbgClear : UInt8 := 0

/-! ## What is read from the flash -/

structure FptHdr where
  fptMagic : UInt32
  fptEntrySize : UInt8
  fptNumEntries : UInt8

namespace FptHdr

def size : Nat := 12

def ofBytes (bytes : Memory) : FptHdr where
  fptMagic := bytes.load32 0
  fptEntrySize := bytes 6
  fptNumEntries := bytes 7

end FptHdr

structure FptEntry where
  partitionType : UInt32
  partitionBaseAddr : UInt32
  partitionSize : UInt32
  deriving DecidableEq, Repr

namespace FptEntry

def size : Nat := 28

def ofBytes (bytes : Memory) : FptEntry where
  partitionType := bytes.load32 0
  partitionBaseAddr := bytes.load32 12
  partitionSize := bytes.load32 16

end FptEntry

structure FptPdiMeta where
  fptPdiMagic : UInt32
  fptPdiVersion : UInt32
  fptPdiSize : UInt32
  fptPdiChecksum : UInt32
  fptPdiDebugType : UInt8
  fptPdiRsvd0 : Nat → UInt8

namespace FptPdiMeta

def ofBytes (bytes : Memory) : FptPdiMeta where
  fptPdiMagic := bytes.load32 0
  fptPdiVersion := bytes.load32 4
  fptPdiSize := bytes.load32 8
  fptPdiChecksum := bytes.load32 12
  fptPdiDebugType := bytes 16
  fptPdiRsvd0 := fun index => bytes (17 + index)

/-- A page that is zero behind the metadata. -/
def toPage (pdiMeta : FptPdiMeta) : Memory :=
  let page : Memory := fun _ => 0
  let page := page.store32 0 pdiMeta.fptPdiMagic
  let page := page.store32 4 pdiMeta.fptPdiVersion
  let page := page.store32 8 pdiMeta.fptPdiSize
  let page := page.store32 12 pdiMeta.fptPdiChecksum
  let page := page.store 16 1 fun _ => pdiMeta.fptPdiDebugType
  page.store 17 3 pdiMeta.fptPdiRsvd0

end FptPdiMeta

structure BootPayload extends MultibootPayload where
  reqType : UInt32
  hasFpt : Bool
  hasFptRecovery : Bool
  bootOnDefault : Bool
  bootOnBackup : Bool
  bootOnRecovery : Bool
  currentMultiBootOffset : UInt16
  bootOnOffset : UInt16
  pdimetaOffset : UInt32
  pdimetaBackupOffset : UInt32
  vmrDebugType : UInt8
  ospiVersionOffset : UInt32
  ospiVersionSize : UInt32

def BootPayload.zero : BootPayload where
  hasExtfpt := false
  hasExtXsabin := false
  hasExtScfw := false
  hasExtSysdtb := false
  defaultPartitionOffset := 0
  defaultPartitionSize := 0
  backupPartitionOffset := 0
  backupPartitionSize := 0
  scfwOffset := 0
  scfwSize := 0
  xsabinOffset := 0
  xsabinSize := 0
  sysdtbOffset := 0
  sysdtbSize := 0
  pdimetaSize := 0
  pdimetaBackupSize := 0
  reqType := 0
  hasFpt := false
  hasFptRecovery := false
  bootOnDefault := false
  bootOnBackup := false
  bootOnRecovery := false
  currentMultiBootOffset := 0
  bootOnOffset := 0
  pdimetaOffset := 0
  pdimetaBackupOffset := 0
  vmrDebugType := 0
  ospiVersionOffset := 0
  ospiVersionSize := 0

structure BootEnv where
  /-- The offset that was saved right after boot. -/
  rhBootOnOffset : UInt32
  /-- The register `VMR_EP_PLM_MULTIBOOT`. -/
  plmMultiboot : UInt32
  vmrEpRpuPreloadFpt : UInt32
  memory : Memory

/-! ## Metadata -/

def rmgmtFptPdiGetBase (payload : BootPayload) (fptType : UInt32) : UInt32 :=
  if fptType = fptTypePdimeta then payload.pdimetaOffset
  else if fptType = fptTypePdimetaBackup then payload.pdimetaBackupOffset
  else 0

def rmgmtFptPdiMetaErase (info : FlashInfo) (payload : BootPayload) (fptType : UInt32) :
    OspiProg Int :=
  let baseAddr := rmgmtFptPdiGetBase payload fptType
  if baseAddr = 0 then return -1
  else ospiFlashErase info.toSectorGeometry .clFlashBoot baseAddr
    (UInt32.ofNat ospiVersalPagesize)

def rmgmtFptPdiMetaGet (payload : BootPayload) (fptType : UInt32) :
    OspiProg (Except Int FptPdiMeta) :=
  let baseAddr := rmgmtFptPdiGetBase payload fptType
  if baseAddr = 0 then return .error (-1)
  else do
    match ← ospiFlashRead .clFlashBoot baseAddr ospiVersalPagesize with
    | none => return .error xstFailure
    | some buf => return .ok (.ofBytes buf)

def rmgmtFptPdiMetaSet (info : FlashInfo) (payload : BootPayload) (fptType : UInt32)
    (pdiMeta : FptPdiMeta) : OspiProg Int :=
  let baseAddr := rmgmtFptPdiGetBase payload fptType
  if baseAddr = 0 then return -1
  else ospiFlashSafeWrite info .clFlashBoot pdiMeta.toPage baseAddr
    (UInt32.ofNat ospiVersalPagesize)

/-! ## The query -/

def BootPayload.noteEntry (payload : BootPayload) (entry : FptEntry) : BootPayload :=
  if entry.partitionType = fptTypeBoot then
    { payload with
      defaultPartitionOffset := entry.partitionBaseAddr
      defaultPartitionSize := entry.partitionSize }
  else if entry.partitionType = fptTypeBootBackup then
    { payload with
      backupPartitionOffset := entry.partitionBaseAddr
      backupPartitionSize := entry.partitionSize }
  else if entry.partitionType = fptTypePdimeta then
    { payload with pdimetaOffset := entry.partitionBaseAddr }
  else if entry.partitionType = fptTypePdimetaBackup then
    { payload with pdimetaBackupOffset := entry.partitionBaseAddr }
  else if entry.partitionType = fptTypeOspiVersion then
    { payload with
      ospiVersionOffset := entry.partitionBaseAddr
      ospiVersionSize := entry.partitionSize }
  else payload

def queryEntries (fptEntrySize : UInt8) : List Nat → BootPayload →
    OspiProg (BootPayload × Bool)
  | [], payload => return (payload, true)
  | index :: indices, payload => do
      match ← ospiFlashRead .clFlashBoot (UInt32.ofNat (fptEntrySize.toNat * index))
        FptEntry.size with
      | none => return (payload, false)
      | some bytes =>
          queryEntries fptEntrySize indices (payload.noteEntry (FptEntry.ofBytes bytes))

def queryTable (payload : BootPayload) : OspiProg (BootPayload × Bool) := do
  match ← ospiFlashRead .clFlashBoot fptDefaultOffset FptHdr.size with
  | none => return (payload, false)
  | some bytes =>
      let hdr := FptHdr.ofBytes bytes
      let payload := { payload with hasFpt := hdr.fptMagic == fptMagic }
      if payload.hasFpt = false then return (payload, false)
      else queryEntries hdr.fptEntrySize (List.range' 1 hdr.fptNumEntries.toNat) payload

/-- The bits are only ever set here. -/
def BootPayload.reportBoot (payload : BootPayload) (env : BootEnv) (recovery : FptHdr) :
    BootPayload :=
  { payload with
    hasFptRecovery := recovery.fptMagic == fptMagic
    currentMultiBootOffset := env.plmMultiboot.toUInt16
    bootOnOffset := env.rhBootOnOffset.toUInt16
    bootOnDefault := payload.bootOnDefault ||
      env.rhBootOnOffset == multibootOff payload.defaultPartitionOffset
    bootOnBackup := payload.bootOnBackup ||
      env.rhBootOnOffset == multibootOff payload.backupPartitionOffset }

def BootPayload.noteMeta (payload : BootPayload) (pdiMeta : FptPdiMeta) : BootPayload :=
  if pdiMeta.fptPdiMagic = fptPdimetaMagic then { payload with pdimetaSize := pdiMeta.fptPdiSize }
  else payload

def BootPayload.noteMetaBackup (payload : BootPayload) (pdiMeta : FptPdiMeta) : BootPayload :=
  if pdiMeta.fptPdiMagic = fptPdimetaMagic then
    { payload with pdimetaBackupSize := pdiMeta.fptPdiSize }
  else payload

theorem noteMeta_eq (payload : BootPayload) (pdiMeta : FptPdiMeta) :
    ∃ size, payload.noteMeta pdiMeta = { payload with pdimetaSize := size } := by
  unfold BootPayload.noteMeta
  split
  · exact ⟨_, rfl⟩
  · exact ⟨payload.pdimetaSize, rfl⟩

theorem noteMetaBackup_eq (payload : BootPayload) (pdiMeta : FptPdiMeta) :
    ∃ size, payload.noteMetaBackup pdiMeta = { payload with pdimetaBackupSize := size } := by
  unfold BootPayload.noteMetaBackup
  split
  · exact ⟨_, rfl⟩
  · exact ⟨payload.pdimetaBackupSize, rfl⟩

def queryMeta (payload : BootPayload) : OspiProg BootPayload := do
  match ← rmgmtFptPdiMetaGet payload fptTypePdimeta with
  | .error _ => return payload
  | .ok pdiMeta =>
      let payload := payload.noteMeta pdiMeta
      match ← rmgmtFptPdiMetaGet payload fptTypePdimetaBackup with
      | .error _ => return payload
      | .ok pdiMeta => return payload.noteMetaBackup pdiMeta

def rmgmtBootFptQuery (env : BootEnv) (payload : BootPayload) : OspiProg BootPayload := do
  match ← queryTable payload with
  | (payload, false) => return payload
  | (payload, true) =>
      match ← ospiFlashRead .clFlashBoot fptBackupOffset FptHdr.size with
      | none => return payload
      | some bytes => queryMeta (payload.reportBoot env (FptHdr.ofBytes bytes))

def rmgmtFptQuery (env : BootEnv) (payload : BootPayload) : OspiProg BootPayload :=
  rmgmtBootFptQuery env
    { payload with
      toMultibootPayload :=
        rmgmtExtensionFptQuery env.memory env.vmrEpRpuPreloadFpt payload.toMultibootPayload }

structure SameBoot (multiboot multiboot' : MultibootPayload) : Prop where
  defaultOffset : multiboot'.defaultPartitionOffset = multiboot.defaultPartitionOffset
  defaultSize : multiboot'.defaultPartitionSize = multiboot.defaultPartitionSize
  backupOffset : multiboot'.backupPartitionOffset = multiboot.backupPartitionOffset

theorem SameBoot.trans {multiboot multiboot' multiboot'' : MultibootPayload}
    (h : SameBoot multiboot multiboot') (h' : SameBoot multiboot' multiboot'') :
    SameBoot multiboot multiboot'' where
  defaultOffset := h'.defaultOffset.trans h.defaultOffset
  defaultSize := h'.defaultSize.trans h.defaultSize
  backupOffset := h'.backupOffset.trans h.backupOffset

private theorem sameBoot_extensionFptEntry (memory : Memory) (address : UInt32)
    (multiboot : MultibootPayload) :
    SameBoot multiboot (extensionFptEntry memory address multiboot) := by
  unfold extensionFptEntry
  dsimp only
  split_ifs <;> exact ⟨rfl, rfl, rfl⟩

theorem sameBoot_rmgmtExtensionFptQuery (memory : Memory) (preloadFpt : UInt32)
    (multiboot : MultibootPayload) :
    SameBoot multiboot (rmgmtExtensionFptQuery memory preloadFpt multiboot) := by
  unfold rmgmtExtensionFptQuery
  dsimp only
  split
  · exact ⟨rfl, rfl, rfl⟩
  · generalize List.range' 1 (memory (preloadFpt.toNat + 7)).toNat = indices
    generalize hstart : ({ multiboot with
      hasExtfpt := memory.load32 preloadFpt.toNat == fptMagic } : MultibootPayload) = start
    have hsame : SameBoot multiboot start := by
      rw [← hstart]
      exact ⟨rfl, rfl, rfl⟩
    clear hstart
    induction indices generalizing start with
    | nil => exact hsame
    | cons index indices ih => exact ih _ (hsame.trans (sameBoot_extensionFptEntry _ _ start))

def rmgmtFptSetDebugType (info : FlashInfo) (env : BootEnv) (payload : BootPayload) :
    OspiProg (Int × BootPayload) := do
  let payload ← rmgmtBootFptQuery env payload
  match ← rmgmtFptPdiMetaGet payload fptTypePdimeta with
  | .error ret => return (ret, payload)
  | .ok pdiMeta =>
      let ret ← rmgmtFptPdiMetaSet info payload fptTypePdimeta
        { pdiMeta with fptPdiDebugType := payload.vmrDebugType }
      if ret ≠ 0 then return (ret, payload)
      else match ← rmgmtFptPdiMetaGet payload fptTypePdimeta with
        | .error ret => return (ret, payload)
        | .ok _ => return (0, payload)

/-! ## Copying the default image over the backup -/

/-- The copy itself, with the metadata of the backup. -/
def copyImage (info : FlashInfo) (payload : BootPayload) (srcSize : UInt32)
    (pdiMeta : FptPdiMeta) : OspiProg Int := do
  let ret ← ospiFlashErase info.toSectorGeometry .clFlashBoot payload.backupPartitionOffset srcSize
  if ret ≠ 0 then return ret
  else
    let ret ← ospiFlashCopy .clFlashBoot payload.defaultPartitionOffset
      payload.backupPartitionOffset srcSize
    if ret ≠ 0 then return ret
    else
      -- finally update the size in the metadata of the backup
      rmgmtFptPdiMetaSet info payload fptTypePdimetaBackup
        { pdiMeta with fptPdiSize := srcSize, fptPdiDebugType := clDbgClear }

def FptPdiMeta.reset (pdiMeta : FptPdiMeta) : FptPdiMeta :=
  if pdiMeta.fptPdiMagic ≠ fptPdimetaMagic then { pdiMeta with fptPdiMagic := fptPdimetaMagic }
  else pdiMeta

def rmgmtCopyDefaultToBackup (info : FlashInfo) (payload : BootPayload) : OspiProg Int :=
  if payload.bootOnBackup = true then return -1
  else if payload.defaultPartitionOffset = 0 ∨ payload.backupPartitionOffset = 0 then return -1
  else do
    match ← rmgmtFptPdiMetaGet payload fptTypePdimeta with
    | .error ret => return ret
    | .ok pdiMeta =>
        if pdiMeta.fptPdiMagic ≠ fptPdimetaMagic then return -1
        else if pdiMeta.fptPdiSize = 0 then return -1
        else if pdiMeta.fptPdiSize > payload.backupPartitionSize then return -1
        else
          let srcSize := pdiMeta.fptPdiSize
          match ← rmgmtFptPdiMetaGet payload fptTypePdimetaBackup with
          | .error ret => return ret
          | .ok pdiMeta => copyImage info payload srcSize pdiMeta.reset

/-! ## Flashing the base PDI -/

structure RmgmtHandler where
  rhDataBase : UInt32
  rhAlreadyFlashed : Bool

structure FlashRequest where
  flashNoBackup : Bool
  flashToLegacy : Bool

structure FlashResult where
  ret : Int
  memory : Memory
  rhAlreadyFlashed : Bool

def axlfPdi : UInt32 := 18

def dataAt (memory : Memory) (base : UInt32) : Memory := fun offset => memory (base.toNat + offset)

def plmBootTagAddr (data : UInt32) : Nat := data.toNat + bootTagOffset

def backupDefault (info : FlashInfo) (request : FlashRequest) (payload : BootPayload) :
    OspiProg Int :=
  if request.flashNoBackup = false ∧ payload.bootOnBackup = false then
    rmgmtCopyDefaultToBackup info payload
  else return 0

/-- The metadata is read before any write, and erased when it is invalid. -/
def prepareDefault (info : FlashInfo) (payload : BootPayload) (len : UInt32) :
    OspiProg (Except Int FptPdiMeta) := do
  if len > payload.defaultPartitionSize then return .error (-1)
  else if payload.defaultPartitionOffset = 0 then return .error (-1)
  else match ← rmgmtFptPdiMetaGet payload fptTypePdimeta with
    | .error ret => return .error ret
    | .ok pdiMeta =>
        let ret ←
          if pdiMeta.fptPdiMagic ≠ fptPdimetaMagic then
            rmgmtFptPdiMetaErase info payload fptTypePdimeta
          else pure 0
        if ret ≠ 0 then return .error ret
        else return .ok pdiMeta.reset

def maskTag (memory : Memory) (pdiData : UInt32) : Memory :=
  memory.store32 (plmBootTagAddr pdiData) bootTagMask

/-- The image without its boot tag, then its first page with the tag, then the metadata. -/
def programDefault (info : FlashInfo) (payload : BootPayload) (memory : Memory)
    (pdiData len : UInt32) (pdiMeta : FptPdiMeta) : OspiProg FlashResult := do
  let plmBootTag := memory.load32 (plmBootTagAddr pdiData)
  let masked := maskTag memory pdiData
  let ret ← ospiFlashWrite .clFlashBoot (dataAt masked pdiData) payload.defaultPartitionOffset len
  if ret ≠ 0 then return ⟨ret, masked, false⟩
  else
    let restored := masked.store32 (plmBootTagAddr pdiData) plmBootTag
    let ret ← ospiFlashWrite .clFlashBoot (dataAt restored pdiData) payload.defaultPartitionOffset
      (UInt32.ofNat ospiVersalPagesize)
    if ret ≠ 0 then return ⟨ret, restored, false⟩
    else
      let ret ← rmgmtFptPdiMetaSet info payload fptTypePdimeta
        { pdiMeta with fptPdiSize := len, fptPdiDebugType := clDbgClear }
      return ⟨ret, restored, ret == 0⟩

/-- Erase, then write: otherwise the data is corrupted. -/
def writeDefault (info : FlashInfo) (payload : BootPayload) (memory : Memory) (pdiData len : UInt32)
    (pdiMeta : FptPdiMeta) : OspiProg FlashResult := do
  let ret ← ospiFlashErase info.toSectorGeometry .clFlashBoot payload.defaultPartitionOffset len
  if ret ≠ 0 then return ⟨ret, memory, false⟩
  else programDefault info payload memory pdiData len pdiMeta

def prepareFlash (info : FlashInfo) (request : FlashRequest) (env : BootEnv)
    (payload : BootPayload) (len : UInt32) : OspiProg (Except Int (BootPayload × FptPdiMeta)) := do
  let payload ← rmgmtFptQuery env payload
  if payload.hasFpt = false then return .error (-1)
  else
    let ret ← backupDefault info request payload
    if ret ≠ 0 then return .error ret
    else match ← prepareDefault info payload len with
      | .error ret => return .error ret
      | .ok pdiMeta => return .ok (payload, pdiMeta)

def flashDefault (info : FlashInfo) (request : FlashRequest) (env : BootEnv)
    (payload : BootPayload) (pdiData len : UInt32) : OspiProg FlashResult := do
  match ← prepareFlash info request env payload len with
  | .error ret => return ⟨ret, env.memory, false⟩
  | .ok (payload, pdiMeta) => writeDefault info payload env.memory pdiData len pdiMeta

def flashLegacy (info : FlashInfo) (memory : Memory) (pdiData len : UInt32) :
    OspiProg FlashResult := do
  let ret ← ospiFlashErase info.toSectorGeometry .clFlashBoot 0 len
  if ret ≠ 0 then return ⟨ret, memory, false⟩
  else
    let ret ← ospiFlashWrite .clFlashBoot (dataAt memory pdiData) 0 len
    return ⟨ret, memory, ret == 0⟩

def rmgmtFlashRpuPdi (info : FlashInfo) (rh : RmgmtHandler) (request : FlashRequest)
    (env : BootEnv) (payload : BootPayload) : OspiProg FlashResult :=
  if rh.rhAlreadyFlashed = true then return ⟨-einval, env.memory, true⟩
  else match rmgmtXclbinSectionInfo (dataAt env.memory rh.rhDataBase) axlfPdi with
    | none => return ⟨-1, env.memory, false⟩
    | some (pdiOffset, pdiSize) =>
        let pdiData := rh.rhDataBase + pdiOffset.toUInt32
        let len := pdiSize.toUInt32
        if request.flashToLegacy = true then flashLegacy info env.memory pdiData len
        else flashDefault info request env payload pdiData len

end Vmr.Rmgmt
