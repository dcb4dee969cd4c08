import Vmr.Flash.Content
import Vmr.Rmgmt.Fpt

/-!
# The partitions that the table names

The table in the flash, and what its query finds: the partitions of the entries
that could be read, and whether VMR runs from the backup.  A transfer may fail,
and so may a read of the table.
-/

namespace Vmr.Rmgmt

open Vmr.Lib Vmr.Flash

/-! ## The table in the flash -/

section Table

variable (content : Memory)

def tableHdr : FptHdr := .ofBytes content

def tableEntries : List FptEntry :=
  (List.range' 1 (tableHdr content).fptNumEntries.toNat).map fun index =>
    .ofBytes (dataAt content (UInt32.ofNat ((tableHdr content).fptEntrySize.toNat * index)))

def notedPartitions (entries : Nat) : BootPayload :=
  ((tableEntries content).take entries).foldl BootPayload.noteEntry .zero

def partitions : BootPayload := notedPartitions content (tableEntries content).length

end Table

theorem load32_congr {memory memory' : Memory} {start size : Nat}
    (h : ∀ offset < size, memory offset = memory' offset) (hinside : start + 4 ≤ size) :
    memory.load32 start = memory'.load32 start := by
  simp only [Memory.load32, Memory.number]
  rw [h start (by omega), h (start + 1) (by omega), h (start + 1 + 1) (by omega),
    h (start + 1 + 1 + 1) (by omega)]

theorem entry_congr {bytes bytes' : Memory}
    (h : ∀ offset < FptEntry.size, bytes offset = bytes' offset) :
    FptEntry.ofBytes bytes = FptEntry.ofBytes bytes' := by
  rw [FptEntry.ofBytes, FptEntry.ofBytes, load32_congr h (by decide), load32_congr h (by decide),
    load32_congr h (by decide)]

def entryAt (content : Memory) (fptEntrySize : UInt8) (index : Nat) : FptEntry :=
  .ofBytes (dataAt content (UInt32.ofNat (fptEntrySize.toNat * index)))

def TableRead : OspiOp → Prop
  | .read address count =>
      count = FptEntry.size ∨ address = fptBackupOffset ∧ count = FptHdr.size
  | _ => False

structure Partition where
  base : UInt32
  size : UInt32
  deriving DecidableEq, Repr

namespace Partition

def start (partition : Partition) : Nat := partition.base.toNat

def stop (partition : Partition) : Nat := partition.base.toNat + partition.size.toNat

def Has (partition : Partition) (a : Nat) : Prop := partition.start ≤ a ∧ a < partition.stop

end Partition

structure BootLayout where
  default : Partition
  backup : Partition
  pdimeta : UInt32
  pdimetaBackup : UInt32
  deriving DecidableEq, Repr

def BootPayload.layout (payload : BootPayload) : BootLayout where
  default := ⟨payload.defaultPartitionOffset, payload.defaultPartitionSize⟩
  backup := ⟨payload.backupPartitionOffset, payload.backupPartitionSize⟩
  pdimeta := payload.pdimetaOffset
  pdimetaBackup := payload.pdimetaBackupOffset

/-- The table in the flash names these partitions. -/
structure Named (content : Memory) (layout : BootLayout) : Prop where
  magic : (tableHdr content).fptMagic = fptMagic
  layout : (partitions content).layout = layout

structure BootedFromDefault (env : BootEnv) (layout : BootLayout) : Prop where
  default : env.rhBootOnOffset = multibootOff layout.default.base
  notBackup : env.rhBootOnOffset ≠ multibootOff layout.backup.base

def metaAt (content : Memory) (base : UInt32) : FptPdiMeta := .ofBytes (dataAt content base)

/-! ## Metadata that is read -/

structure FptPdiMeta.Like (pdiMeta pdiMeta' : FptPdiMeta) : Prop where
  magic : pdiMeta.fptPdiMagic = pdiMeta'.fptPdiMagic
  version : pdiMeta.fptPdiVersion = pdiMeta'.fptPdiVersion
  size : pdiMeta.fptPdiSize = pdiMeta'.fptPdiSize
  checksum : pdiMeta.fptPdiChecksum = pdiMeta'.fptPdiChecksum
  debugType : pdiMeta.fptPdiDebugType = pdiMeta'.fptPdiDebugType
  rsvd0 : ∀ index < 3, pdiMeta.fptPdiRsvd0 index = pdiMeta'.fptPdiRsvd0 index

section Like

variable {pdiMeta pdiMeta' : FptPdiMeta}

theorem like_of_bytes {bytes bytes' : Memory}
    (h : ∀ offset < ospiVersalPagesize, bytes offset = bytes' offset) :
    (FptPdiMeta.ofBytes bytes).Like (.ofBytes bytes') where
  magic := load32_congr h (by decide)
  version := load32_congr h (by decide)
  size := load32_congr h (by decide)
  checksum := load32_congr h (by decide)
  debugType := h 16 (by decide)
  rsvd0 index hindex := h (17 + index) (by rw [ospiVersalPagesize]; omega)

theorem FptPdiMeta.Like.reset (h : pdiMeta.Like pdiMeta') : pdiMeta.reset.Like pdiMeta'.reset := by
  rw [FptPdiMeta.reset, FptPdiMeta.reset, h.magic]
  split
  · exact ⟨rfl, h.version, h.size, h.checksum, h.debugType, h.rsvd0⟩
  · exact h

theorem FptPdiMeta.Like.toPage (h : pdiMeta.Like pdiMeta') : pdiMeta.toPage = pdiMeta'.toPage := by
  rw [FptPdiMeta.toPage, FptPdiMeta.toPage, h.magic, h.version, h.size, h.checksum, h.debugType]
  exact Memory.store_congr _ h.rsvd0

def FptPdiMeta.updated (pdiMeta : FptPdiMeta) (size : UInt32) : FptPdiMeta :=
  { pdiMeta.reset with fptPdiSize := size, fptPdiDebugType := clDbgClear }

theorem FptPdiMeta.Like.updated (h : pdiMeta.Like pdiMeta') (size : UInt32) :
    (pdiMeta.updated size).toPage = (pdiMeta'.updated size).toPage := by
  have hreset := h.reset
  refine FptPdiMeta.Like.toPage ⟨hreset.magic, hreset.version, rfl, hreset.checksum, rfl,
    hreset.rsvd0⟩

theorem reset_magic (pdiMeta : FptPdiMeta) : pdiMeta.reset.fptPdiMagic = fptPdimetaMagic := by
  rw [FptPdiMeta.reset]
  split
  · rfl
  next hmagic => exact not_not.1 hmagic

end Like

/-! ## The query -/

private theorem layout_noteEntry {payload payload' : BootPayload}
    (h : payload.layout = payload'.layout)
    (entry : FptEntry) : (payload.noteEntry entry).layout = (payload'.noteEntry entry).layout := by
  simp only [BootPayload.layout, BootLayout.mk.injEq, Partition.mk.injEq] at h
  obtain ⟨⟨hoffset, hsize⟩, ⟨hbackup, hcapacity⟩, hmeta, hmetaBackup⟩ := h
  unfold BootPayload.noteEntry BootPayload.layout
  split_ifs <;> simp only [*]

private theorem layout_foldl {payload payload' : BootPayload} (h : payload.layout = payload'.layout)
    (entries : List FptEntry) :
    (entries.foldl BootPayload.noteEntry payload).layout =
      (entries.foldl BootPayload.noteEntry payload').layout := by
  induction entries generalizing payload payload' with
  | nil => exact h
  | cons entry entries ih => exact ih (layout_noteEntry h entry)

private theorem status_foldl (payload : BootPayload) (entries : List FptEntry) :
    (entries.foldl BootPayload.noteEntry payload).hasFpt = payload.hasFpt ∧
      (entries.foldl BootPayload.noteEntry payload).bootOnBackup = payload.bootOnBackup := by
  induction entries generalizing payload with
  | nil => exact ⟨rfl, rfl⟩
  | cons entry entries ih =>
      obtain ⟨hfpt, hbackup⟩ := ih (payload.noteEntry entry)
      have hentry : (payload.noteEntry entry).hasFpt = payload.hasFpt ∧
          (payload.noteEntry entry).bootOnBackup = payload.bootOnBackup := by
        unfold BootPayload.noteEntry
        split_ifs <;> exact ⟨rfl, rfl⟩
      exact ⟨hfpt.trans hentry.1, hbackup.trans hentry.2⟩

/-- Nothing has been changed so far, and what follows is a read. -/
def Quiet (content : Memory) (chip : Chip) (op : OspiOp) : Prop :=
  chip.content = content ∧ ∃ address count, op = .read address count

theorem Quiet.ne_endless {content : Memory} {chip : Chip} {op : OspiOp}
    (h : Quiet content chip op) : op ≠ .endless := by
  obtain ⟨-, address, count, rfl⟩ := h
  exact OspiOp.noConfusion

theorem Quiet.changed_subset {content : Memory} {chip : Chip} {op : OspiOp}
    (h : Quiet content chip op) (info : SectorGeometry) (cells : Set Nat) :
    changed info op ⊆ cells := by
  obtain ⟨-, address, count, rfl⟩ := h
  exact Set.empty_subset _

/-- The table can be read, as far as this is known. -/
def Hears (heard : Prop) (step : Chip → (op : OspiOp) → OspiAns op → Chip → Prop) : Prop :=
  ∀ chip op answer chip', step chip op answer chip' → heard → TableRead op → Succeeds op answer

theorem hears_false (step : Chip → (op : OspiOp) → OspiAns op → Chip → Prop) : Hears False step :=
  fun _ _ _ _ _ hheard => hheard.elim

theorem hears_of_transfers {info : SectorGeometry}
    {step : Chip → (op : OspiOp) → OspiAns op → Chip → Prop}
    (htransfers : Transfers info False step) : Hears True step :=
  fun _ _ _ _ hstep _ _ => (htransfers _ _ _ _ hstep).2.resolve_left id

section Query

variable {info : SectorGeometry} {mayFail heard : Prop}
  {step : Chip → (op : OspiOp) → OspiAns op → Chip → Prop} {content : Memory} {chip : Chip}
  {env : BootEnv}

structure Found (mayFail heard : Prop) (content : Memory) (offset : UInt32) (len : Nat)
    (found : Option Memory) (chip' : Chip) : Prop where
  kept : chip'.content = content
  bytes : ∀ bytes, found = some bytes → ∀ index < len, bytes index = dataAt content offset index
  read : mayFail ∨ found.isSome
  heard : heard → TableRead (.read offset len) → found.isSome

private theorem safe_found (htransfers : Transfers info mayFail step) (hhears : Hears heard step)
    (hchip : chip.content = content) (offset : UInt32) (len : Nat) :
    Prog.Safe step (Quiet content) (Found mayFail heard content offset len)
      (ospiFlashRead .clFlashBoot offset len) chip := by
  rw [ospiFlashRead, boot_add]
  refine ⟨⟨hchip, offset, len, rfl⟩, fun (found : Option Memory) chip' hstep => ?_⟩
  obtain ⟨⟨rfl, hfound⟩, hread⟩ := htransfers _ _ _ _ hstep
  refine ⟨hchip, fun bytes hbytes index hindex => ?_, hread, hhears _ _ _ _ hstep⟩
  rw [hfound bytes hbytes index hindex, hchip]
  rfl

structure EntriesFound (heard : Prop) (content : Memory) (fptEntrySize : UInt8)
    (indices : List Nat) (payload : BootPayload) (result : BootPayload × Bool) (chip' : Chip) :
    Prop where
  kept : chip'.content = content
  heard : heard → result.2 = true
  noted : ∃ count ≤ indices.length, (result.2 = true → count = indices.length) ∧
    result.1 = ((indices.map (entryAt content fptEntrySize)).take count).foldl
      BootPayload.noteEntry payload

private theorem safe_entriesFound (htransfers : Transfers info mayFail step)
    (hhears : Hears heard step)
    (hchip : chip.content = content) (fptEntrySize : UInt8) (indices : List Nat)
    (payload : BootPayload) :
    Prog.Safe step (Quiet content) (EntriesFound heard content fptEntrySize indices payload)
      (queryEntries fptEntrySize indices payload) chip := by
  induction indices generalizing payload chip with
  | nil => exact ⟨hchip, fun _ => rfl, 0, Nat.le_refl _, fun _ => rfl, rfl⟩
  | cons index indices ih =>
      rw [queryEntries]
      refine (safe_found htransfers hhears hchip _ _).bind ?_
      rintro (_ | bytes) chip' hread
      · refine ⟨hread.kept, fun hheard => ?_, 0, Nat.zero_le _,
          fun hall => absurd hall Bool.false_ne_true, rfl⟩
        exact absurd (hread.heard hheard (.inl rfl)) Bool.false_ne_true
      · have hentry : FptEntry.ofBytes bytes = entryAt content fptEntrySize index :=
          entry_congr (hread.bytes bytes rfl)
        dsimp only
        rw [hentry]
        refine (ih hread.kept _).weaken fun result chip'' hend => ?_
        obtain ⟨count, hcount, hall, hnoted⟩ := hend.noted
        refine ⟨hend.kept, hend.heard, count + 1, Nat.succ_le_succ hcount, fun htrue => ?_, hnoted⟩
        rw [hall htrue, List.length_cons]

structure TableFound (mayFail heard : Prop) (content : Memory) (result : BootPayload × Bool)
    (chip' : Chip) : Prop where
  kept : chip'.content = content
  read : (tableHdr content).fptMagic = fptMagic → mayFail ∨ result.1.hasFpt = true
  heard : heard → result.1.hasFpt = true → result.2 = true
  hasFpt : result.2 = true → result.1.hasFpt = true
  noted : result.1.hasFpt = true → ∃ count ≤ (tableEntries content).length,
    (result.2 = true → count = (tableEntries content).length) ∧
    result.1.layout = (notedPartitions content count).layout
  notBackup : result.1.bootOnBackup = false

private theorem safe_tableFound (htransfers : Transfers info mayFail step)
    (hhears : Hears heard step)
    (hchip : chip.content = content) {payload : BootPayload} (hfresh : payload.hasFpt = false)
    (hboot : payload.bootOnBackup = false) (hsame : payload.layout = BootPayload.zero.layout) :
    Prog.Safe step (Quiet content) (TableFound mayFail heard content) (queryTable payload) chip := by
  rw [queryTable]
  refine (safe_found htransfers hhears hchip _ _).bind ?_
  rintro (_ | bytes) chip' hread
  · refine ⟨hread.kept, fun _ => .inl (hread.read.resolve_right Bool.false_ne_true), fun _ hfpt => ?_,
      fun hall => absurd hall Bool.false_ne_true, fun hfpt => ?_, hboot⟩
    · exact absurd (hfresh.symm.trans hfpt) Bool.false_ne_true
    · exact absurd (hfresh.symm.trans hfpt) Bool.false_ne_true
  · have hhdr : FptHdr.ofBytes bytes = tableHdr content := by
      have hstart : ∀ index < FptHdr.size, bytes index = content index := by
        intro index hindex
        rw [hread.bytes bytes rfl index hindex, dataAt]
        exact congrArg content (Nat.zero_add index)
      rw [tableHdr, FptHdr.ofBytes, FptHdr.ofBytes, load32_congr hstart (by decide),
        hstart 6 (by decide), hstart 7 (by decide)]
    dsimp only
    rw [hhdr]
    split
    next hnone =>
      refine ⟨hread.kept, fun hmagic => ?_, fun _ hfpt => ?_,
        fun hall => absurd hall Bool.false_ne_true, fun hfpt => ?_, hboot⟩
      · exact absurd hmagic (beq_eq_false_iff_ne.1 hnone)
      · exact absurd (hnone.symm.trans hfpt) Bool.false_ne_true
      · exact absurd (hnone.symm.trans hfpt) Bool.false_ne_true
    next hsome =>
      refine (safe_entriesFound htransfers hhears hread.kept _ _ _).weaken fun result chip'' hend => ?_
      obtain ⟨count, hcount, hall, hnoted⟩ := hend.noted
      obtain ⟨hfpt, hbackup⟩ := status_foldl
        { payload with hasFpt := (tableHdr content).fptMagic == fptMagic }
        (((List.range' 1 (tableHdr content).fptNumEntries.toNat).map
          (entryAt content (tableHdr content).fptEntrySize)).take count)
      rw [← hnoted] at hfpt hbackup
      have hmagic : result.1.hasFpt = true := hfpt.trans ((Bool.not_eq_false _).mp hsome)
      refine ⟨hend.kept, fun _ => .inr hmagic, fun hheard _ => hend.heard hheard, fun _ => hmagic,
        fun _ => ⟨count, ?_, fun htrue => ?_, ?_⟩, hbackup.trans hboot⟩
      · rw [tableEntries, List.length_map]
        exact hcount
      · rw [tableEntries, List.length_map]
        exact hall htrue
      · rw [hnoted]
        exact @layout_foldl { payload with hasFpt := (tableHdr content).fptMagic == fptMagic } .zero
          hsame _

structure MetaFound (mayFail : Prop) (content : Memory) (base : UInt32)
    (found : Except Int FptPdiMeta) (chip' : Chip) : Prop where
  kept : chip'.content = content
  like : ∀ pdiMeta, found = .ok pdiMeta → base ≠ 0 ∧ pdiMeta.Like (metaAt content base)
  read : mayFail ∨ base = 0 ∨ ∃ pdiMeta, found = .ok pdiMeta
  failed : ∀ ret, found = .error ret → ret ≠ 0

theorem safe_metaFound (htransfers : Transfers info mayFail step) (hchip : chip.content = content)
    (payload : BootPayload) (fptType : UInt32) :
    Prog.Safe step (Quiet content)
      (MetaFound mayFail content (rmgmtFptPdiGetBase payload fptType))
      (rmgmtFptPdiMetaGet payload fptType) chip := by
  unfold rmgmtFptPdiMetaGet
  dsimp only
  split
  next hbase =>
    refine ⟨hchip, fun pdiMeta hfound => ?_, .inr (.inl hbase), fun ret hfound => ?_⟩
    · cases hfound
    · cases hfound
      decide
  next hbase =>
    refine (safe_found htransfers (hears_false step) hchip _ _).bind ?_
    rintro (_ | bytes) chip' hread
    · refine ⟨hread.kept, fun pdiMeta hfound => ?_,
        .inl (hread.read.resolve_right Bool.false_ne_true), fun ret hfound => ?_⟩
      · cases hfound
      · cases hfound
        decide
    · refine ⟨hread.kept, fun pdiMeta hfound => ⟨hbase, ?_⟩, .inr (.inr ⟨_, rfl⟩),
        fun ret hfound => by cases hfound⟩
      rw [← Except.ok.inj hfound]
      exact like_of_bytes (hread.bytes bytes rfl)

private theorem safe_metaSizes (htransfers : Transfers info mayFail step)
    (hchip : chip.content = content)
    (payload : BootPayload) :
    Prog.Safe step (Quiet content)
      (fun payload' chip' => chip'.content = content ∧ ∃ size backupSize,
        payload' = { payload with pdimetaSize := size, pdimetaBackupSize := backupSize })
      (queryMeta payload) chip := by
  rw [queryMeta]
  refine (safe_metaFound htransfers hchip payload fptTypePdimeta).bind ?_
  rintro (ret | pdiMeta) chip' hfound
  · exact ⟨hfound.kept, _, _, rfl⟩
  · obtain ⟨size, hsize⟩ := noteMeta_eq payload pdiMeta
    dsimp only
    rw [hsize]
    refine (safe_metaFound htransfers hfound.kept _ fptTypePdimetaBackup).bind ?_
    rintro (ret | pdiMeta) chip'' hfound'
    · exact ⟨hfound'.kept, size, payload.pdimetaBackupSize, rfl⟩
    · obtain ⟨backupSize, hbackup⟩ := noteMetaBackup_eq { payload with pdimetaSize := size } pdiMeta
      exact ⟨hfound'.kept, size, backupSize, hbackup⟩

private theorem extensionFptQuery_keeps {α : Type} (field : MultibootPayload → α)
    (hheader : ∀ multiboot found, field { multiboot with hasExtfpt := found } = field multiboot)
    (hentry : ∀ memory address multiboot,
      field (extensionFptEntry memory address multiboot) = field multiboot)
    (memory : Memory) (preloadFpt : UInt32) (multiboot : MultibootPayload) :
    field (rmgmtExtensionFptQuery memory preloadFpt multiboot) = field multiboot := by
  have hfold : ∀ (indices : List Nat) (start : MultibootPayload),
      field (indices.foldl (fun multiboot index => extensionFptEntry memory
        (preloadFpt + UInt32.ofNat ((memory (preloadFpt.toNat + 6)).toNat * index)) multiboot)
          start) = field start := by
    intro indices
    induction indices with
    | nil => exact fun _ => rfl
    | cons index indices ih => exact fun start => (ih _).trans (hentry _ _ start)
  unfold rmgmtExtensionFptQuery
  dsimp only
  split
  · exact hheader _ _
  · exact (hfold _ _).trans (hheader _ _)

private theorem layout_extension (env : BootEnv) (payload : BootPayload) :
    ({ payload with
      toMultibootPayload := rmgmtExtensionFptQuery env.memory env.vmrEpRpuPreloadFpt
        payload.toMultibootPayload } : BootPayload).layout = payload.layout := by
  have hsame := sameBoot_rmgmtExtensionFptQuery env.memory env.vmrEpRpuPreloadFpt
    payload.toMultibootPayload
  have hcapacity := extensionFptQuery_keeps MultibootPayload.backupPartitionSize (fun _ _ => rfl)
    (fun memory address multiboot => by
      unfold extensionFptEntry
      dsimp only
      split_ifs <;> rfl) env.memory env.vmrEpRpuPreloadFpt payload.toMultibootPayload
  rw [BootPayload.layout, BootPayload.layout, hsame.defaultOffset, hsame.defaultSize,
    hsame.backupOffset, hcapacity]

/-- What the query finds.  The bit for the backup is set behind the last read that may end it. -/
structure QueryFound (mayFail heard : Prop) (content : Memory) (env : BootEnv)
    (payload : BootPayload) (chip' : Chip) : Prop where
  kept : chip'.content = content
  read : (tableHdr content).fptMagic = fptMagic → mayFail ∨ payload.hasFpt = true
  noted : payload.hasFpt = true → ∃ count ≤ (tableEntries content).length,
    (heard → count = (tableEntries content).length) ∧
    payload.layout = (notedPartitions content count).layout
  onBackup : payload.bootOnBackup = true →
    env.rhBootOnOffset = multibootOff (partitions content).backupPartitionOffset
  guarded : heard → payload.hasFpt = true →
    env.rhBootOnOffset = multibootOff (partitions content).backupPartitionOffset →
      payload.bootOnBackup = true

private theorem backupOffset_of_layout {payload payload' : BootPayload}
    (h : payload.layout = payload'.layout) :
    payload.backupPartitionOffset = payload'.backupPartitionOffset :=
  congrArg (fun layout => layout.backup.base) h

theorem safe_queryFound (htransfers : Transfers info mayFail step) (hhears : Hears heard step)
    (hchip : chip.content = content) (env : BootEnv) :
    Prog.Safe step (Quiet content) (QueryFound mayFail heard content env)
      (rmgmtFptQuery env .zero) chip := by
  have hlayout := layout_extension env .zero
  generalize hstart : ({ BootPayload.zero with
    toMultibootPayload := rmgmtExtensionFptQuery env.memory env.vmrEpRpuPreloadFpt
      BootPayload.zero.toMultibootPayload } : BootPayload) = start at hlayout
  have hfresh : start.hasFpt = false := by
    rw [← hstart]
    rfl
  have hboot : start.bootOnBackup = false := by
    rw [← hstart]
    rfl
  rw [rmgmtFptQuery, hstart, rmgmtBootFptQuery]
  refine (safe_tableFound htransfers hhears hchip hfresh hboot hlayout).bind ?_
  rintro ⟨payload, read⟩ chip₁ hend
  have hnotBackup : payload.bootOnBackup = false := hend.notBackup
  have hunset : payload.bootOnBackup = true →
      env.rhBootOnOffset = multibootOff (partitions content).backupPartitionOffset :=
    fun hset => absurd (hnotBackup.symm.trans hset) Bool.false_ne_true
  have hpartial : ¬ heard → ∀ hfpt : payload.hasFpt = true,
      ∃ count ≤ (tableEntries content).length, (heard → count = (tableEntries content).length) ∧
        payload.layout = (notedPartitions content count).layout := by
    intro hdeaf hfpt
    obtain ⟨count, hcount, -, hnoted⟩ := hend.noted hfpt
    exact ⟨count, hcount, fun hheard => absurd hheard hdeaf, hnoted⟩
  cases read with
  | false =>
      have hdeaf : payload.hasFpt = true → ¬ heard := fun hfpt hheard =>
        Bool.false_ne_true (hend.heard hheard hfpt)
      exact ⟨hend.kept, hend.read, fun hfpt => hpartial (hdeaf hfpt) hfpt, hunset,
        fun hheard hfpt => absurd hheard (hdeaf hfpt)⟩
  | true =>
      dsimp only
      refine (safe_found htransfers hhears hend.kept _ _).bind ?_
      rintro (_ | bytes) chip₂ hread
      · have hdeaf : ¬ heard := fun hheard =>
          Bool.false_ne_true (hread.heard hheard (.inr ⟨rfl, rfl⟩))
        exact ⟨hread.kept, hend.read, hpartial hdeaf, hunset, fun hheard => absurd hheard hdeaf⟩
      · refine (safe_metaSizes htransfers hread.kept _).weaken ?_
        rintro payload' chip₃ ⟨hkept, size, backupSize, rfl⟩
        obtain ⟨count, hcount, hall, hnoted⟩ := hend.noted (hend.hasFpt rfl)
        have hoffset : payload.backupPartitionOffset =
            (partitions content).backupPartitionOffset := by
          rw [partitions, ← hall rfl]
          exact backupOffset_of_layout hnoted
        refine ⟨hkept, hend.read, fun _ => ⟨count, hcount, fun _ => hall rfl, hnoted⟩, fun hset => ?_,
          fun _ _ hsame => ?_⟩
        · rw [BootPayload.reportBoot, hnotBackup, Bool.false_or, beq_iff_eq, hoffset] at hset
          exact hset
        · rw [BootPayload.reportBoot, hoffset, hsame, beq_self_eq_true, Bool.or_true]

end Query

end Vmr.Rmgmt
