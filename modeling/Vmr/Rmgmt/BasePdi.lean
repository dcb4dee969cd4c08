import Vmr.Rmgmt.BootLayout
import Vmr.Rmgmt.FlashImage

/-!
# From one flash to the next

A base PDI request copies the default image over the backup, writes the new image
into the default partition and updates the metadata of both.  When every transfer
goes well, the flash that is left is a function of the one before: the stages one
behind the other.
-/

namespace Vmr.Rmgmt

open Vmr.Lib Vmr.Flash

/-! ## Where the partitions are -/

structure Partition.Placed (partition : Partition) (info : FlashInfo) : Prop where
  aligned : partition.start % info.size = 0
  whole : partition.size.toNat % info.size = 0
  inside : partition.stop ≤ info.totalSize

structure MetaPlaced (info : FlashInfo) (layout : BootLayout) (base : UInt32) : Prop where
  aligned : base.toNat % info.size = 0
  inside : base.toNat + ospiVersalPagesize ≤ info.totalSize
  notDefault : ¬ layout.default.Has base.toNat
  notBackup : ¬ layout.backup.Has base.toNat

structure Placed (info : FlashInfo) (layout : BootLayout) : Prop where
  /-- As in every flash of `Flash_Config_Table`. -/
  sectors : 2 ^ 16 ≤ info.size
  default : layout.default.Placed info
  backup : layout.backup.Placed info
  pdimeta : MetaPlaced info layout layout.pdimeta
  pdimetaBackup : MetaPlaced info layout layout.pdimetaBackup
  apart : layout.default.stop ≤ layout.backup.start ∨ layout.backup.stop ≤ layout.default.start
  metaApart : layout.pdimeta ≠ layout.pdimetaBackup

theorem Placed.paged {info : FlashInfo} {layout : BootLayout} (h : Placed info layout) :
    ospiVersalPagesize < info.size :=
  Nat.lt_of_lt_of_le (by decide) h.sectors

/-- The default image can be copied over the backup: both partitions and their metadata are there,
and the size that is recorded fits. -/
structure Backable (content : Memory) (layout : BootLayout) : Prop where
  default : layout.default.base ≠ 0
  backup : layout.backup.base ≠ 0
  pdimeta : layout.pdimeta ≠ 0
  pdimetaBackup : layout.pdimetaBackup ≠ 0
  magic : (metaAt content layout.pdimeta).fptPdiMagic = fptPdimetaMagic
  nonempty : (metaAt content layout.pdimeta).fptPdiSize ≠ 0
  fits : (metaAt content layout.pdimeta).fptPdiSize ≤ layout.backup.size

/-! ## The stages -/

section Stages

variable (info : FlashInfo) (layout : BootLayout) (content : Memory)

def metaWritten (base : UInt32) (pdiMeta : FptPdiMeta) : Memory :=
  safeWritten info content pdiMeta.toPage base (UInt32.ofNat ospiVersalPagesize)

def imageCopied (size : UInt32) : Memory :=
  copiedPages (safeErased info content layout.backup.base size) layout.default.start
    layout.backup.start (size.toNat / 256 + 1)

/-- The metadata of the backup is what it was before the copy, with the size. -/
def backedUp (size : UInt32) : Memory :=
  metaWritten info (imageCopied info layout content size) layout.pdimetaBackup
    ((metaAt content layout.pdimetaBackup).updated size)

def metaReady : Memory :=
  if (metaAt content layout.pdimeta).fptPdiMagic ≠ fptPdimetaMagic then
    safeErased info content layout.pdimeta (UInt32.ofNat ospiVersalPagesize)
  else content

def imageWritten (memory : Memory) (pdiData len : UInt32) : Memory :=
  written (written (safeErased info content layout.default.base len) layout.default.base len
    (dataAt (maskTag memory pdiData) pdiData)) layout.default.base
      (UInt32.ofNat ospiVersalPagesize) (dataAt memory pdiData)

def flashed (memory : Memory) (pdiData len : UInt32) : Memory :=
  metaWritten info (imageWritten info layout (metaReady info layout content) memory pdiData len)
    layout.pdimeta ((metaAt content layout.pdimeta).updated len)

end Stages

/-- The flash when a base PDI request has returned 0. -/
def flashedWith (info : FlashInfo) (layout : BootLayout) (content memory : Memory)
    (pdiData len : UInt32) : Memory :=
  flashed info layout
    (backedUp info layout content (metaAt content layout.pdimeta).fptPdiSize) memory pdiData len

section Runs

variable {info : FlashInfo} {step : Chip → (op : OspiOp) → OspiAns op → Chip → Prop}
  {layout : BootLayout} {content : Memory} {chip : Chip} {payload : BootPayload}

def Leaves (step : Chip → (op : OspiOp) → OspiAns op → Chip → Prop) (content : Memory) (ret : Int)
    (chip : Chip) : Prop :=
  ret = 0 ∧ chip.content = content ∨ ret ≠ 0 ∧ OutOfMemory step

private theorem safe_metaWritten (hcontent : ByContent step)
    (htransfers : Transfers info.toSectorGeometry False step)
    (hpaged : ospiVersalPagesize < info.size) {fptType : UInt32}
    (hbase : rmgmtFptPdiGetBase payload fptType ≠ 0)
    (hplaced : MetaPlaced info layout (rmgmtFptPdiGetBase payload fptType)) (pdiMeta : FptPdiMeta)
    (hchip : chip.content = content) :
    Prog.Safe step (fun _ op => op ≠ .endless)
      (Leaves step (metaWritten info content (rmgmtFptPdiGetBase payload fptType) pdiMeta))
      (rmgmtFptPdiMetaSet info payload fptType pdiMeta) chip := by
  rw [rmgmtFptPdiMetaSet, if_neg hbase]
  exact safe_ospiFlashSafeWrite_page hcontent htransfers hpaged hplaced.aligned hplaced.inside hchip

theorem Partition.Placed.less {partition : Partition} (h : partition.Placed info) {count : Nat}
    (hbase : partition.base ≠ 0) (hcount : count ≤ partition.size.toNat) :
    count < info.totalSize := by
  have hinside := h.inside
  have hpos : 0 < partition.base.toNat := by
    rw [Nat.pos_iff_ne_zero, ne_eq, ← UInt32.toNat_zero, UInt32.toNat_inj]
    exact hbase
  rw [Partition.stop] at hinside
  omega

theorem pages_room (hpaged : ospiVersalPagesize < info.size) {start count : Nat}
    (h : start + count ≤ info.totalSize) : start + 256 * (count / 256 + 1) ≤ 2 ^ 32 := by
  have hroom := info.totalSize_add_size_le
  rw [ospiVersalPagesize] at hpaged
  omega

private theorem safe_imageCopied (hcontent : ByContent step)
    (htransfers : Transfers info.toSectorGeometry False step)
    (hplaced : Placed info payload.layout) (hbackup : payload.backupPartitionOffset ≠ 0)
    (hmeta : payload.pdimetaBackupOffset ≠ 0) {size : UInt32}
    (hfits : size ≤ payload.backupPartitionSize)
    (hsource : payload.defaultPartitionOffset.toNat + size.toNat ≤ info.totalSize)
    {pdiMeta : FptPdiMeta} (hlike : pdiMeta.Like (metaAt content payload.pdimetaBackupOffset))
    (hchip : chip.content = content) :
    Prog.Safe step (fun _ op => op ≠ .endless)
      (Leaves step (backedUp info payload.layout content size))
      (copyImage info payload size pdiMeta.reset) chip := by
  have hcapacity : size.toNat ≤ payload.backupPartitionSize.toNat := UInt32.le_iff_toNat_le.1 hfits
  have hless : size.toNat < info.totalSize := hplaced.backup.less hbackup hcapacity
  have hinside : payload.backupPartitionOffset.toNat + size.toNat ≤ info.totalSize :=
    Nat.le_trans (Nat.add_le_add_left hcapacity _) hplaced.backup.inside
  have hroom := info.totalSize_add_size_le
  have hpaged := hplaced.paged
  rw [copyImage]
  refine (safe_ospiFlashErase htransfers hinside hchip).bind ?_
  rintro _ chip₁ ⟨rfl, herased⟩
  rw [if_neg (by decide)]
  refine (safe_ospiFlashCopy_blank hcontent htransfers (pages_room hpaged hsource)
    (pages_room hpaged hinside) (by rw [ospiVersalPagesize] at hpaged; omega)
    (blank_safeErased hplaced.backup.aligned hless) herased).bind ?_
  rintro _ chip₂ ⟨rfl, hcopied⟩
  rw [if_neg (by decide)]
  have hpage : ({ pdiMeta.reset with fptPdiSize := size, fptPdiDebugType := clDbgClear } :
      FptPdiMeta).toPage = ((metaAt content payload.pdimetaBackupOffset).updated size).toPage :=
    hlike.updated size
  have hset := @safe_metaWritten info step payload.layout _ chip₂ payload hcontent htransfers hpaged
    fptTypePdimetaBackup hmeta hplaced.pdimetaBackup
    { pdiMeta.reset with fptPdiSize := size, fptPdiDebugType := clDbgClear } hcopied
  rw [metaWritten, hpage] at hset
  exact hset

private theorem safe_backedUp (hcontent : ByContent step)
    (htransfers : Transfers info.toSectorGeometry False step)
    (hplaced : Placed info payload.layout) (hboot : payload.bootOnBackup = false)
    (hsource : payload.defaultPartitionOffset.toNat +
      (metaAt content payload.pdimetaOffset).fptPdiSize.toNat ≤ info.totalSize)
    (hchip : chip.content = content) :
    Prog.Safe step (fun _ op => op ≠ .endless)
      (fun ret chip' => ret = 0 ∧ Backable content payload.layout ∧ chip'.content =
          backedUp info payload.layout content (metaAt content payload.pdimetaOffset).fptPdiSize ∨
        ret ≠ 0 ∧ (Backable content payload.layout → OutOfMemory step))
      (rmgmtCopyDefaultToBackup info payload) chip := by
  rw [rmgmtCopyDefaultToBackup, hboot, if_neg (by decide)]
  split
  next hzero =>
    exact .inr ⟨by decide, fun hback => (hzero.elim hback.default hback.backup).elim⟩
  next hnonzero =>
    obtain ⟨hdefault, hbackup⟩ := not_or.1 hnonzero
    refine Prog.Safe.bind ((safe_metaFound htransfers hchip payload fptTypePdimeta).mono
      (fun _ _ => Quiet.ne_endless) fun _ _ => id) ?_
    rintro (ret | pdiMeta) chip₁ hfound
    · refine .inr ⟨hfound.failed ret rfl, fun hback => ?_⟩
      rcases hfound.read.resolve_left id with hbase | ⟨pdiMeta, hsome⟩
      · exact absurd hbase hback.pdimeta
      · cases hsome
    obtain ⟨hbase, hlike⟩ := hfound.like pdiMeta rfl
    change pdiMeta.Like (metaAt content payload.pdimetaOffset) at hlike
    dsimp only
    rw [hlike.magic, hlike.size]
    split
    next hmagic => exact .inr ⟨by decide, fun hback => absurd hback.magic hmagic⟩
    next hmagic =>
      split
      next hempty => exact .inr ⟨by decide, fun hback => absurd hempty hback.nonempty⟩
      next hnonempty =>
        split
        next hlarge =>
          exact .inr ⟨by decide, fun hback => absurd hlarge (UInt32.not_lt.2 hback.fits)⟩
        next hfits =>
          refine Prog.Safe.bind ((safe_metaFound htransfers hfound.kept payload
            fptTypePdimetaBackup).mono (fun _ _ => Quiet.ne_endless) fun _ _ => id) ?_
          rintro (ret | pdiMeta') chip₂ hfound'
          · refine .inr ⟨hfound'.failed ret rfl, fun hback => ?_⟩
            rcases hfound'.read.resolve_left id with hbase | ⟨pdiMeta, hsome⟩
            · exact absurd hbase hback.pdimetaBackup
            · cases hsome
          obtain ⟨hbase', hlike'⟩ := hfound'.like pdiMeta' rfl
          have hback : Backable content payload.layout :=
            ⟨hdefault, hbackup, hbase, hbase', not_not.1 hmagic, hnonempty, UInt32.not_lt.1 hfits⟩
          refine (safe_imageCopied hcontent htransfers hplaced hbackup hbase' (UInt32.not_lt.1 hfits)
            hsource hlike' hfound'.kept).weaken ?_
          rintro ret chip₃ (⟨hret, hleft⟩ | ⟨hret, hmemory⟩)
          · exact .inl ⟨hret, hback, hleft⟩
          · exact .inr ⟨hret, fun _ => hmemory⟩

private theorem safe_metaReady (htransfers : Transfers info.toSectorGeometry False step)
    (hplaced : Placed info payload.layout) (hdefault : payload.defaultPartitionOffset ≠ 0)
    (hmeta : payload.pdimetaOffset ≠ 0) {len : UInt32} (hfits : len ≤ payload.defaultPartitionSize)
    (hchip : chip.content = content) :
    Prog.Safe step (fun _ op => op ≠ .endless)
      (fun result chip' => chip'.content = metaReady info payload.layout content ∧
        ∃ pdiMeta : FptPdiMeta, result = .ok pdiMeta.reset ∧
          pdiMeta.Like (metaAt content payload.pdimetaOffset))
      (prepareDefault info payload len) chip := by
  rw [prepareDefault, if_neg (UInt32.not_lt.2 hfits), if_neg hdefault]
  refine Prog.Safe.bind ((safe_metaFound htransfers hchip payload fptTypePdimeta).mono
    (fun _ _ => Quiet.ne_endless) fun _ _ => id) ?_
  rintro (ret | pdiMeta) chip₁ hfound
  · rcases hfound.read.resolve_left id with hbase | ⟨pdiMeta, hsome⟩
    · exact absurd hbase hmeta
    · cases hsome
  obtain ⟨hbase, hlike⟩ := hfound.like pdiMeta rfl
  change pdiMeta.Like (metaAt content payload.pdimetaOffset) at hlike
  have hready : metaReady info payload.layout content =
      if pdiMeta.fptPdiMagic ≠ fptPdimetaMagic then
        safeErased info content payload.pdimetaOffset (UInt32.ofNat ospiVersalPagesize)
      else content := by
    rw [metaReady, hlike.magic]
    rfl
  dsimp only
  rw [hready]
  split
  next hinvalid =>
    rw [rmgmtFptPdiMetaErase, if_neg hbase]
    refine (safe_ospiFlashErase htransfers hplaced.pdimeta.inside hfound.kept).bind ?_
    rintro _ chip₂ ⟨rfl, herased⟩
    rw [if_neg (by decide)]
    exact ⟨herased, pdiMeta, rfl, hlike⟩
  next => exact ⟨hfound.kept, pdiMeta, rfl, hlike⟩

theorem maskTag_and (memory : Memory) (pdiData : UInt32) (index : Nat) :
    dataAt (maskTag memory pdiData) pdiData index &&& dataAt memory pdiData index =
      dataAt memory pdiData index := by
  rw [dataAt, dataAt]
  by_cases htag : bootTagOffset ≤ index ∧ index < bootTagOffset + 4
  · obtain ⟨offset, rfl⟩ := Nat.exists_eq_add_of_le htag.1
    rw [← Nat.add_assoc]
    change maskTag memory pdiData (plmBootTagAddr pdiData + offset) &&& _ = _
    rw [maskTag_inside _ _ (by omega), Memory.full_and]
  · rw [maskTag_outside _ _ (by rw [plmBootTagAddr]; omega), and_self_byte]

private theorem safe_flashed (hcontent : ByContent step)
    (htransfers : Transfers info.toSectorGeometry False step)
    (hplaced : Placed info payload.layout) (hdefault : payload.defaultPartitionOffset ≠ 0)
    (hmeta : payload.pdimetaOffset ≠ 0) {len : UInt32} (hfits : len ≤ payload.defaultPartitionSize)
    (memory : Memory) (pdiData : UInt32) {pdiMeta : FptPdiMeta} {before : Memory}
    (hlike : pdiMeta.Like (metaAt before payload.pdimetaOffset)) (hchip : chip.content = content) :
    Prog.Safe step (fun _ op => op ≠ .endless)
      (fun result chip' => Leaves step (metaWritten info
        (imageWritten info payload.layout content memory pdiData len) payload.pdimetaOffset
          ((metaAt before payload.pdimetaOffset).updated len)) result.ret chip')
      (writeDefault info payload memory pdiData len pdiMeta.reset) chip := by
  have hpaged := hplaced.paged
  have hcapacity : len.toNat ≤ payload.defaultPartitionSize.toNat :=
    UInt32.le_iff_toNat_le.1 hfits
  have hless : len.toNat < info.totalSize := hplaced.default.less hdefault hcapacity
  have hinside : payload.defaultPartitionOffset.toNat + len.toNat ≤ info.totalSize :=
    Nat.le_trans (Nat.add_le_add_left hcapacity _) hplaced.default.inside
  have hroom := pages_room hpaged hinside
  have hround := extraPage_le len.toNat
  have hpages : roundUp len ≤ 256 * (len.toNat / 256 + 1) := by
    rw [roundUp, toNat_pageCount]
    omega
  have hblank := @blank_safeErased info content payload.defaultPartitionOffset len
    hplaced.default.aligned hless
  have htotal := info.totalSize_add_size_le
  have hfirstRoom : payload.defaultPartitionOffset.toNat +
      roundUp (UInt32.ofNat ospiVersalPagesize) ≤ 2 ^ 32 := by
    rw [roundUp_page]
    omega
  rw [writeDefault]
  refine (safe_ospiFlashErase htransfers hinside hchip).bind ?_
  rintro _ chip₁ ⟨rfl, herased⟩
  rw [if_neg (by decide), programDefault]
  refine (safe_ospiFlashWrite_fits htransfers (by rw [ospiVersalPagesize] at hpaged; omega)
    (by omega) herased fun i hi => ?_).bind ?_
  · rw [hblank _ (by omega) (by omega), Memory.full_and]
  rintro _ chip₂ ⟨rfl, hmasked⟩
  rw [if_neg (by decide)]
  have hrestored : (maskTag memory pdiData).store32 (plmBootTagAddr pdiData)
      (memory.load32 (plmBootTagAddr pdiData)) = memory :=
    Memory.store32_load32 memory (plmBootTagAddr pdiData) bootTagMask
  rw [hrestored]
  refine (safe_ospiFlashWrite_fits htransfers (by decide) hfirstRoom hmasked fun i hi => ?_).bind ?_
  · -- the first page holds the image with ones for its tag, or it is still erased
    have hfirst : i < 256 := hi
    have hfresh := hblank (payload.defaultPartitionOffset.toNat + i) (by omega) (by omega)
    rw [written, Memory.program]
    split
    · rw [hfresh, Memory.full_and, Nat.add_sub_cancel_left]
      exact maskTag_and memory pdiData i
    · rw [hfresh, Memory.full_and]
  rintro _ chip₃ ⟨rfl, himage⟩
  rw [if_neg (by decide)]
  have hpage : ({ pdiMeta.reset with fptPdiSize := len, fptPdiDebugType := clDbgClear } :
      FptPdiMeta).toPage = ((metaAt before payload.pdimetaOffset).updated len).toPage :=
    hlike.updated len
  have hset := @safe_metaWritten info step payload.layout _ chip₃ payload hcontent htransfers hpaged
    fptTypePdimeta hmeta hplaced.pdimeta
    { pdiMeta.reset with fptPdiSize := len, fptPdiDebugType := clDbgClear } himage
  rw [metaWritten, hpage] at hset
  exact hset.bind fun ret chip₄ hleft => hleft

end Runs

/-! ## The request -/

structure BasePdi (call : FlashCall) (pdiData len : UInt32) : Prop where
  message : call.payload = .zero
  image : call.pdi = some (pdiData, len)
  partitioned : call.request.flashToLegacy = false
  backup : call.request.flashNoBackup = false

/-- Nothing was flashed since the start, the image fits and the default image can be copied. -/
structure Accepts (call : FlashCall) (layout : BootLayout) (content : Memory) (len : UInt32) :
    Prop where
  fresh : call.rh.rhAlreadyFlashed = false
  backable : Backable content layout
  fits : len ≤ layout.default.size

section Request

variable {call : FlashCall} {pdiData len : UInt32} {layout : BootLayout} {content : Memory}
  {step : Chip → (op : OspiOp) → OspiAns op → Chip → Prop} {chip : Chip}

structure FlashEnd (step : Chip → (op : OspiOp) → OspiAns op → Chip → Prop) (call : FlashCall)
    (layout : BootLayout) (content : Memory) (pdiData len : UInt32) (result : FlashResult)
    (chip : Chip) : Prop where
  done : result.ret = 0 → Accepts call layout content len ∧
    chip.content = flashedWith call.info layout content call.env.memory pdiData len
  failed : result.ret ≠ 0 → Accepts call layout content len → OutOfMemory step

private theorem flashEnd_of_refused {result : FlashResult} (hret : result.ret ≠ 0)
    (hrefused : ¬ Accepts call layout content len) :
    FlashEnd step call layout content pdiData len result chip :=
  ⟨fun hzero => absurd hzero hret, fun _ haccepts => absurd haccepts hrefused⟩

/-- Everything in front of the first write: the backup is there, and the metadata is valid. -/
structure ReadyToFlash (info : FlashInfo) (layout : BootLayout) (content : Memory) (len : UInt32)
    (prepared : BootPayload × FptPdiMeta) (chip : Chip) : Prop where
  partitions : prepared.1.layout = layout
  backable : Backable content layout
  fits : len ≤ layout.default.size
  pdimeta : ∃ pdiMeta : FptPdiMeta, prepared.2 = pdiMeta.reset ∧ pdiMeta.Like
    (metaAt (backedUp info layout content (metaAt content layout.pdimeta).fptPdiSize) layout.pdimeta)
  flash : chip.content = metaReady info layout
    (backedUp info layout content (metaAt content layout.pdimeta).fptPdiSize)

theorem safe_prepared {info : FlashInfo} {request : FlashRequest} {env : BootEnv}
    (hcontent : ByContent step) (htransfers : Transfers info.toSectorGeometry False step)
    (hnamed : Named content layout) (hplaced : Placed info layout)
    (hbooted : BootedFromDefault env layout) (hbackup : request.flashNoBackup = false)
    (hsource : layout.default.start + (metaAt content layout.pdimeta).fptPdiSize.toNat ≤
      info.totalSize) (hchip : chip.content = content) :
    Prog.Safe step (fun _ op => op ≠ .endless)
      (fun result chip' =>
        (∀ prepared, result = .ok prepared → ReadyToFlash info layout content len prepared chip') ∧
        ∀ ret, result = .error ret → ret ≠ 0 ∧
          (Backable content layout → len ≤ layout.default.size → OutOfMemory step))
      (prepareFlash info request env .zero len) chip := by
  rw [prepareFlash]
  refine Prog.Safe.bind ((safe_queryFound htransfers (hears_of_transfers htransfers) hchip env).mono
    (fun _ _ => Quiet.ne_endless) fun _ _ => id) ?_
  rintro payload chip₁ hfound
  have hfpt := (hfound.read hnamed.magic).resolve_left id
  obtain ⟨count, -, hall, hnoted⟩ := hfound.noted hfpt
  obtain rfl := hall trivial
  have hlayout : payload.layout = layout := hnoted.trans hnamed.layout
  have hboot : payload.bootOnBackup = false :=
    Bool.eq_false_iff.2 fun hset => hbooted.notBackup (hnamed.layout ▸ hfound.onBackup hset)
  subst hlayout
  rw [if_neg (by rw [hfpt]; decide), backupDefault, if_pos ⟨hbackup, hboot⟩]
  refine (safe_backedUp hcontent htransfers hplaced hboot hsource hfound.kept).bind ?_
  rintro ret chip₂ (⟨rfl, hback, hbacked⟩ | ⟨hret, hfailed⟩)
  swap
  · rw [if_pos hret]
    refine ⟨fun _ hok => (by cases hok), fun ret hretEq => ?_⟩
    cases hretEq
    exact ⟨hret, fun hback _ => hfailed hback⟩
  rw [if_neg (by decide)]
  by_cases hfits : len ≤ payload.defaultPartitionSize
  · refine (safe_metaReady htransfers hplaced hback.default hback.pdimeta hfits hbacked).bind ?_
    rintro _ chip₃ ⟨hready, pdiMeta, rfl, hlike⟩
    refine ⟨fun _ hok => ?_, fun _ herror => by cases herror⟩
    cases hok
    exact ⟨rfl, hback, hfits, ⟨pdiMeta, rfl, hlike⟩, hready⟩
  · rw [prepareDefault, if_pos (UInt32.not_le.1 hfits)]
    refine ⟨fun _ hok => (by cases hok), fun ret herror => ?_⟩
    cases herror
    exact ⟨by decide, fun _ hfits' => absurd hfits' hfits⟩

theorem safe_flashEnd (hcall : BasePdi call pdiData len) (hcontent : ByContent step)
    (htransfers : Transfers call.info.toSectorGeometry False step)
    (hnamed : Named content layout) (hplaced : Placed call.info layout)
    (hbooted : BootedFromDefault call.env layout)
    (hsource : layout.default.start + (metaAt content layout.pdimeta).fptPdiSize.toNat ≤
      call.info.totalSize) (hchip : chip.content = content) :
    Prog.Safe step (fun _ op => op ≠ .endless)
      (FlashEnd step call layout content pdiData len) call.prog chip := by
  have himage := hcall.image
  unfold FlashCall.pdi FlashCall.xclbin at himage
  unfold FlashCall.prog rmgmtFlashRpuPdi
  rw [hcall.message]
  split
  next halready =>
    exact flashEnd_of_refused (show -einval ≠ 0 by decide) fun haccepts =>
      Bool.false_ne_true (haccepts.fresh.symm.trans halready)
  next hfresh =>
    obtain ⟨⟨pdiOffset, pdiSize⟩, hinfo, hpdi⟩ := Option.map_eq_some_iff.1 himage
    obtain ⟨rfl, rfl⟩ := Prod.mk.inj hpdi
    rw [hinfo]
    dsimp only
    rw [if_neg (by simp [hcall.partitioned]), flashDefault]
    refine (safe_prepared hcontent htransfers hnamed hplaced hbooted hcall.backup hsource
      hchip).bind ?_
    rintro (ret | ⟨payload, pdiMeta⟩) chip₁ ⟨hprepared, hfailed⟩
    · obtain ⟨hret, hmemory⟩ := hfailed ret rfl
      exact ⟨fun hzero => absurd hzero hret, fun _ haccepts =>
        hmemory haccepts.backable haccepts.fits⟩
    obtain ⟨hlayout, hback, hfits, ⟨pdiMeta', hreset, hlike⟩, hready⟩ := hprepared _ rfl
    change payload.layout = layout at hlayout
    change pdiMeta = pdiMeta'.reset at hreset
    subst hlayout hreset
    refine (safe_flashed hcontent htransfers hplaced hback.default hback.pdimeta hfits
      call.env.memory _ hlike hready).weaken ?_
    rintro result chip₂ (⟨hret, hleft⟩ | ⟨hret, hmemory⟩)
    · exact ⟨fun _ => ⟨⟨Bool.eq_false_iff.2 hfresh, hback, hfits⟩, hleft⟩,
        fun hfailed => absurd hret hfailed⟩
    · exact ⟨fun hzero => absurd hzero hret, fun _ _ => hmemory⟩

end Request

end Vmr.Rmgmt
