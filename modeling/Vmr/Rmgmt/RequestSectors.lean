import Vmr.Rmgmt.BackupCopy
import Vmr.Rmgmt.BackupGuard

/-!
# The sectors that a base PDI request reaches

However the transfers go, and however much of the table can be read: the copy stays
in the backup and the writing in the default partition, each with the sector of its
metadata, unless a partition is filled up to the other one.
-/

namespace Vmr.Rmgmt

open Vmr.Lib Vmr.Flash

/-! ## The sectors of a range -/

def sectorsFrom (info : FlashInfo) (base : UInt32) (count : Nat) : Set Nat :=
  {a | base.toNat ≤ a ∧ a < base.toNat + (count / info.size + 1) * info.size}

section Sectors

variable {info : FlashInfo} {layout : BootLayout} {partition other : Partition}
  {base count : UInt32} {a : Nat}

private theorem mem_sectorsFrom_of_erased (haligned : base.toNat % info.size = 0)
    (hless : count.toNat < info.totalSize) (hinside : base.toNat + count.toNat ≤ info.totalSize)
    (h : a ∈ eraseCells info.toSectorGeometry base count) :
    a ∈ sectorsFrom info base count.toNat := by
  have hcells := mem_eraseCells hinside h
  rwa [eraseStart_of_aligned haligned, eraseEnd_of_aligned haligned hless] at hcells

private theorem mem_sectorsFrom_of_written (hroom : base.toNat + roundUp count ≤ 2 ^ 32)
    (h : a ∈ writeCells base count) : a ∈ sectorsFrom info base count.toNat := by
  obtain ⟨hlow, hhigh⟩ := mem_writeCells hroom h
  have hpages := pages_le_sectors info count.toNat
  have hround : roundUp count ≤ 256 * (count.toNat / 256 + 1) := by
    rw [roundUp, toNat_pageCount]
    omega
  exact ⟨hlow, by omega⟩

theorem mem_sectorsFrom_of_replaced (hpaged : ospiVersalPagesize < info.size)
    (hmeta : MetaPlaced info layout base)
    (h : a ∈ safeWriteCells info.toSectorGeometry base (UInt32.ofNat ospiVersalPagesize)) :
    a ∈ sectorsFrom info base ospiVersalPagesize := by
  have hlen : (UInt32.ofNat ospiVersalPagesize).toNat = ospiVersalPagesize := rfl
  have hsector : ospiVersalPagesize / info.size = 0 := Nat.div_eq_of_lt hpaged
  have hrest : ospiVersalPagesize % info.size ≠ 0 := by
    rw [Nat.mod_eq_of_lt hpaged]
    decide
  have hkept : keptEnd info base (UInt32.ofNat ospiVersalPagesize) = base.toNat + info.size := by
    rw [keptEnd, hlen, if_neg hrest, keptFrom, hlen, hsector, Nat.mul_zero, Nat.add_zero]
  have hinside := hmeta.inside
  have hroom := info.totalSize_add_size_le
  have hless : ospiVersalPagesize < info.totalSize :=
    Nat.lt_of_lt_of_le hpaged (by
      have hpos : 0 < ospiVersalPagesize := by decide
      rw [SectorGeometry.totalSize] at hinside ⊢
      refine Nat.le_mul_of_pos_right _ (Nat.pos_of_ne_zero fun hnone => ?_)
      rw [hnone, Nat.mul_zero] at hinside
      omega)
  obtain ⟨hlow, hhigh⟩ := mem_safeWriteCells hinside (by omega) h
  rw [eraseStart_of_aligned hmeta.aligned] at hlow
  rw [hkept, hlen, eraseEnd_of_aligned hmeta.aligned hless, hsector, Nat.zero_add, Nat.one_mul]
    at hhigh
  refine ⟨hlow, ?_⟩
  rw [hsector, Nat.zero_add, Nat.one_mul]
  exact hhigh.elim id id

theorem MetaPlaced.not_has (hpaged : ospiVersalPagesize < info.size)
    (hmeta : MetaPlaced info layout base) (hplaced : Placed info layout)
    (h : a ∈ sectorsFrom info base ospiVersalPagesize) :
    ¬ layout.default.Has a ∧ ¬ layout.backup.Has a := by
  rw [sectorsFrom, Nat.div_eq_of_lt hpaged, Nat.zero_add, Nat.one_mul] at h
  have hsector : a / info.size * info.size = base.toNat := by
    obtain ⟨sectors, hsectors⟩ := Nat.dvd_of_mod_eq_zero hmeta.aligned
    obtain ⟨offset, rfl⟩ := Nat.exists_eq_add_of_le h.1
    have hoffset : offset < info.size := Nat.lt_of_add_lt_add_left h.2
    rw [hsectors, Nat.mul_add_div info.size_pos, Nat.div_eq_of_lt hoffset, Nat.add_zero,
      Nat.mul_comm]
  refine ⟨fun hhas => hmeta.notDefault ?_, fun hhas => hmeta.notBackup ?_⟩
  · rw [← hsector]
    exact hplaced.default.has_sector hhas
  · rw [← hsector]
    exact hplaced.backup.has_sector hhas

theorem Partition.Placed.sectors_apart (hpartition : partition.Placed info)
    (hother : other.Placed info)
    (hapart : partition.stop ≤ other.start ∨ other.stop ≤ partition.start)
    (hfits : count ≤ partition.size)
    (hfree : count < partition.size ∨ partition.stop ≠ other.start)
    (h : a ∈ sectorsFrom info partition.base count.toNat) : ¬ other.Has a := by
  rintro ⟨hlow, hhigh⟩
  obtain ⟨hstart, hend⟩ := h
  change partition.start ≤ a at hstart
  change a < partition.start + _ at hend
  rcases hapart with hfirst | hfirst
  swap
  · omega
  rcases hfree with hcount | hstop
  · have hsectors := hpartition.sectors_le (UInt32.lt_iff_toNat_lt.1 hcount)
    omega
  · -- one sector more is still before the other partition
    obtain ⟨sectors, hsectors⟩ : info.size ∣ partition.stop :=
      Nat.dvd_add (Nat.dvd_of_mod_eq_zero hpartition.aligned)
        (Nat.dvd_of_mod_eq_zero hpartition.whole)
    obtain ⟨sectors', hsectors'⟩ := Nat.dvd_of_mod_eq_zero hother.aligned
    have hnext : sectors < sectors' := by
      refine @Nat.lt_of_mul_lt_mul_left info.size _ _ ?_
      rw [← hsectors, ← hsectors']
      exact Nat.lt_of_le_of_ne hfirst hstop
    have hsector := Nat.mul_le_mul_left info.size hnext
    rw [Nat.mul_succ, ← hsectors, ← hsectors'] at hsector
    have hwhole := Nat.div_mul_cancel (Nat.dvd_of_mod_eq_zero hpartition.whole)
    have hcount : (count.toNat / info.size + 1) * info.size ≤ partition.size.toNat + info.size := by
      rw [Nat.succ_mul, ← hwhole]
      refine Nat.add_le_add_right (Nat.mul_le_mul_right _ (Nat.div_le_div_right ?_)) _
      exact UInt32.le_iff_toNat_le.1 hfits
    have hstopEq : partition.stop = partition.start + partition.size.toNat := rfl
    omega

theorem size_le_of_aligned (haligned : base.toNat % info.size = 0) (hbase : base ≠ 0) :
    info.size ≤ base.toNat := by
  refine Nat.le_of_dvd ?_ (Nat.dvd_of_mod_eq_zero haligned)
  rw [Nat.pos_iff_ne_zero, ne_eq, ← UInt32.toNat_zero, UInt32.toNat_inj]
  exact hbase

private theorem first_le_of_sectorsFrom {count : Nat} (haligned : base.toNat % info.size = 0)
    (hbase : base ≠ 0) (h : a ∈ sectorsFrom info base count) : info.size ≤ a :=
  Nat.le_trans (size_le_of_aligned haligned hbase) h.1

end Sectors

/-! ## The table -/

def bootTypes : List UInt32 :=
  [fptTypeBoot, fptTypeBootBackup, fptTypePdimeta, fptTypePdimetaBackup]

def NamedOnce (content : Memory) : Prop :=
  (tableEntries content).Pairwise fun entry other =>
    entry.partitionType ∈ bootTypes → entry.partitionType ≠ other.partitionType

instance (content : Memory) : Decidable (NamedOnce content) :=
  inferInstanceAs (Decidable (List.Pairwise _ _))

section Table

variable {info : FlashInfo} {content content' : Memory}

theorem tableHdr_congr (hsectors : 2 ^ 16 ≤ info.size)
    (hsame : ∀ a < info.size, content' a = content a) : tableHdr content' = tableHdr content := by
  have hstart : ∀ index < FptHdr.size, content' index = content index := fun index hindex =>
    hsame index (Nat.lt_of_lt_of_le hindex (Nat.le_trans (by decide) hsectors))
  rw [tableHdr, tableHdr, FptHdr.ofBytes, FptHdr.ofBytes, load32_congr hstart (by decide),
    hstart 6 (by decide), hstart 7 (by decide)]

theorem tableEntries_congr (hsectors : 2 ^ 16 ≤ info.size)
    (hsame : ∀ a < info.size, content' a = content a) :
    tableEntries content' = tableEntries content := by
  rw [tableEntries, tableEntries, tableHdr_congr hsectors hsame]
  refine List.map_congr_left fun index hindex => entry_congr fun offset hoffset => hsame _ ?_
  obtain ⟨-, hlast⟩ := List.mem_range'_1.1 hindex
  have hcount := (tableHdr content).fptNumEntries.toNat_lt
  have hsize := (tableHdr content).fptEntrySize.toNat_lt
  have hproduct := Nat.mul_le_mul (show (tableHdr content).fptEntrySize.toNat ≤ 255 by omega)
    (show index ≤ 255 by omega)
  have hword : (UInt32.ofNat ((tableHdr content).fptEntrySize.toNat * index)).toNat ≤
      (tableHdr content).fptEntrySize.toNat * index := by
    rw [UInt32.toNat_ofNat']
    exact Nat.mod_le _ _
  rw [FptEntry.size] at hoffset
  omega

/-- A field that entries of one type set, and no others. -/
def SetBy {α : Type} (field : BootPayload → α) (fptType : UInt32) : Prop :=
  ∀ payload entry, entry.partitionType ≠ fptType → field (payload.noteEntry entry) = field payload

theorem SetBy.foldl {α : Type} {field : BootPayload → α} {fptType : UInt32}
    (h : SetBy field fptType) {entries : List FptEntry}
    (hnone : ∀ entry ∈ entries, entry.partitionType ≠ fptType) (payload : BootPayload) :
    field (entries.foldl BootPayload.noteEntry payload) = field payload := by
  induction entries generalizing payload with
  | nil => rfl
  | cons entry entries ih =>
      obtain ⟨hentry, hentries⟩ := List.forall_mem_cons.1 hnone
      exact (ih hentries _).trans (h _ _ hentry)

theorem SetBy.noted {α : Type} {field : BootPayload → α} {fptType : UInt32}
    (h : SetBy field fptType) (hboot : fptType ∈ bootTypes) (honce : NamedOnce content)
    (count : Nat) :
    field (notedPartitions content count) = field .zero ∨
      field (notedPartitions content count) = field (partitions content) := by
  by_cases hsome : ∃ entry ∈ (tableEntries content).take count, entry.partitionType = fptType
  · obtain ⟨entry, hmem, rfl⟩ := hsome
    have hsplit : partitions content = ((tableEntries content).drop count).foldl
        BootPayload.noteEntry (notedPartitions content count) := by
      rw [partitions, notedPartitions, notedPartitions, ← List.foldl_append, List.take_length,
        List.take_append_drop]
    refine .inr ?_
    rw [hsplit]
    refine (h.foldl (fun other hother => ?_) _).symm
    rw [NamedOnce, ← List.take_append_drop count (tableEntries content)] at honce
    exact Ne.symm ((List.pairwise_append.1 honce).2.2 entry hmem other hother hboot)
  · exact .inl (h.foldl (fun entry hmem htype => hsome ⟨entry, hmem, htype⟩) _)

private theorem setBy_default : SetBy (fun payload => payload.layout.default) fptTypeBoot := by
  intro payload entry htype
  unfold BootPayload.noteEntry BootPayload.layout
  split_ifs <;> first | contradiction | rfl

private theorem setBy_backup : SetBy (fun payload => payload.layout.backup) fptTypeBootBackup := by
  intro payload entry htype
  unfold BootPayload.noteEntry BootPayload.layout
  split_ifs <;> first | contradiction | rfl

private theorem setBy_pdimeta : SetBy (fun payload => payload.layout.pdimeta) fptTypePdimeta := by
  intro payload entry htype
  unfold BootPayload.noteEntry BootPayload.layout
  split_ifs <;> first | contradiction | rfl

private theorem setBy_pdimetaBackup :
    SetBy (fun payload => payload.layout.pdimetaBackup) fptTypePdimetaBackup := by
  intro payload entry htype
  unfold BootPayload.noteEntry BootPayload.layout
  split_ifs <;> first | contradiction | rfl

/-- What has been read of the table so far. -/
structure PartOf (read layout : BootLayout) : Prop where
  default : read.default.base = 0 ∨ read.default = layout.default
  backup : read.backup.base = 0 ∨ read.backup = layout.backup
  pdimeta : read.pdimeta = 0 ∨ read.pdimeta = layout.pdimeta
  pdimetaBackup : read.pdimetaBackup = 0 ∨ read.pdimetaBackup = layout.pdimetaBackup

theorem partOf_noted {layout : BootLayout} (hnamed : Named content layout)
    (honce : NamedOnce content) (count : Nat) :
    PartOf (notedPartitions content count).layout layout := by
  rw [← hnamed.layout]
  constructor
  · exact (setBy_default.noted (by decide) honce count).imp (congrArg Partition.base) id
  · exact (setBy_backup.noted (by decide) honce count).imp (congrArg Partition.base) id
  · exact setBy_pdimeta.noted (by decide) honce count
  · exact setBy_pdimetaBackup.noted (by decide) honce count

end Table

/-! ## The copy -/

def copySectors (info : FlashInfo) (layout : BootLayout) (size : UInt32) : Set Nat :=
  sectorsFrom info layout.backup.base size.toNat ∪
    sectorsFrom info layout.pdimetaBackup ospiVersalPagesize

section Copy

variable {info : FlashInfo} {mayFail : Prop}
  {step : Chip → (op : OspiOp) → OspiAns op → Chip → Prop} {content : Memory} {chip : Chip}
  {payload : BootPayload} {size : UInt32}

theorem reaches_copyImage (hplaced : Placed info payload.layout)
    (hbackup : payload.backupPartitionOffset ≠ 0) (hfits : size ≤ payload.backupPartitionSize)
    (pdiMeta : FptPdiMeta) :
    Reaches info.toSectorGeometry (copySectors info payload.layout size) step
      (copyImage info payload size pdiMeta) chip := by
  have hcapacity := UInt32.le_iff_toNat_le.1 hfits
  have hless : size.toNat < info.totalSize := hplaced.backup.less hbackup hcapacity
  have hinside : payload.backupPartitionOffset.toNat + size.toNat ≤ info.totalSize :=
    Nat.le_trans (Nat.add_le_add_left hcapacity _) hplaced.backup.inside
  have hroom := pages_room hplaced.paged hinside
  have hpages := pages_le_sectors info size.toNat
  rw [copyImage, ospiFlashErase, boot_add]
  refine ((reaches_flashErase _ _).mono fun a ha => .inl
    (mem_sectorsFrom_of_erased hplaced.backup.aligned hless hinside ha)).bind fun ret s => ?_
  split
  · exact reaches_ret _ _
  refine ((reaches_ospiFlashCopy _ _ _ hroom).mono fun a ha => .inl
    ⟨ha.1, Nat.lt_of_lt_of_le ha.2 (Nat.add_le_add_left hpages _)⟩).bind fun ret s => ?_
  split
  · exact reaches_ret _ _
  rw [rmgmtFptPdiMetaSet]
  split
  · exact reaches_ret _ _
  · exact (reaches_ospiFlashSafeWrite info _ _ _ _).mono fun a ha => .inr
      (mem_sectorsFrom_of_replaced hplaced.paged hplaced.pdimetaBackup ha.2)

end Copy

/-! ## The writing of the image -/

def flashSectors (info : FlashInfo) (layout : BootLayout) (len : UInt32) : Set Nat :=
  {a | len ≤ layout.default.size ∧ layout.default.base ≠ 0 ∧ layout.pdimeta ≠ 0 ∧
    (a ∈ sectorsFrom info layout.default.base len.toNat ∨
      a ∈ sectorsFrom info layout.pdimeta ospiVersalPagesize)}

section Flash

variable {info : FlashInfo} {layout : BootLayout} {payload : BootPayload} {len : UInt32}
  {step : Chip → (op : OspiOp) → OspiAns op → Chip → Prop} {chip : Chip}

theorem PartOf.accepted (h : PartOf payload.layout layout) (haccepted : Accepted payload len) :
    payload.layout.default = layout.default ∧ payload.pdimetaOffset = layout.pdimeta :=
  ⟨h.default.resolve_left haccepted.2.1, h.pdimeta.resolve_left haccepted.2.2⟩

theorem flashCells_subset (hplaced : Placed info layout) (hpart : PartOf payload.layout layout)
    (content : Memory) : flashCells content info payload len ⊆ flashSectors info layout len := by
  rintro a ⟨haccepted, hcells⟩
  obtain ⟨hdefault, hmeta⟩ := hpart.accepted haccepted
  have hoffset : payload.defaultPartitionOffset = layout.default.base :=
    congrArg Partition.base hdefault
  have hsize : payload.defaultPartitionSize = layout.default.size := congrArg Partition.size hdefault
  obtain ⟨hfits, hbase, hmetaBase⟩ := haccepted
  rw [hoffset, hmeta] at hcells
  rw [hsize] at hfits
  rw [hoffset] at hbase
  rw [hmeta] at hmetaBase
  have hcapacity := UInt32.le_iff_toNat_le.1 hfits
  have hless : len.toNat < info.totalSize := hplaced.default.less hbase hcapacity
  have hinside : layout.default.base.toNat + len.toNat ≤ info.totalSize :=
    Nat.le_trans (Nat.add_le_add_left hcapacity _) hplaced.default.inside
  have hroom := pages_room hplaced.paged hinside
  have hround : roundUp len ≤ 256 * (len.toNat / 256 + 1) := by
    rw [roundUp, toNat_pageCount]
    omega
  have hpaged := hplaced.paged
  have htotal := info.totalSize_add_size_le
  refine ⟨hfits, hbase, hmetaBase, ?_⟩
  rcases hcells with herase | hwrite | hpage | ⟨-, hreset⟩ | ⟨-, hupdate⟩
  · exact .inl (mem_sectorsFrom_of_erased hplaced.default.aligned hless hinside herase)
  · exact .inl (mem_sectorsFrom_of_written (by omega) hwrite)
  · -- the first page is in the first sector
    obtain ⟨hlow, hhigh⟩ := mem_writeCells (by rw [roundUp_page]; omega) hpage
    rw [roundUp_page] at hhigh
    have hone : info.size ≤ (len.toNat / info.size + 1) * info.size :=
      Nat.le_mul_of_pos_left _ (Nat.succ_pos _)
    exact .inl ⟨hlow, by omega⟩
  · refine .inr (@mem_sectorsFrom_of_erased info _ (UInt32.ofNat ospiVersalPagesize) _
      hplaced.pdimeta.aligned ?_ hplaced.pdimeta.inside hreset)
    change ospiVersalPagesize < info.totalSize
    have hpos : 0 < layout.pdimeta.toNat := by
      rw [Nat.pos_iff_ne_zero, ne_eq, ← UInt32.toNat_zero, UInt32.toNat_inj]
      exact hmetaBase
    have hinside' := hplaced.pdimeta.inside
    omega
  · exact .inr (mem_sectorsFrom_of_replaced hpaged hplaced.pdimeta hupdate)

theorem reaches_prepareDefault (hplaced : Placed info layout) (hpart : PartOf payload.layout layout) :
    Prog.Safe step (fun _ op => changed info.toSectorGeometry op ⊆ flashSectors info layout len)
      (fun found _ => ∀ pdiMeta, found = .ok pdiMeta → Accepted payload len)
      (prepareDefault info payload len) chip := by
  rw [prepareDefault]
  split
  · exact fun pdiMeta hfound => by cases hfound
  next hfits =>
    split
    · exact fun pdiMeta hfound => by cases hfound
    next hoffset =>
      by_cases hmeta : payload.pdimetaOffset = 0
      · have hbase : rmgmtFptPdiGetBase payload fptTypePdimeta = 0 := hmeta
        rw [rmgmtFptPdiMetaGet, if_pos hbase]
        exact fun pdiMeta hfound => by cases hfound
      have haccepted : Accepted payload len := ⟨UInt32.not_lt.1 hfits, hoffset, hmeta⟩
      have hread : Prog.Safe step
          (fun _ op => changed info.toSectorGeometry op ⊆ flashSectors info layout len)
          (fun _ _ => True) (rmgmtFptPdiMetaGet payload fptTypePdimeta) chip := by
        rw [rmgmtFptPdiMetaGet]
        split
        · trivial
        · rw [ospiFlashRead]
          refine ⟨Set.empty_subset _, fun (found : Option Memory) _ _ => ?_⟩
          cases found <;> trivial
      refine hread.bind ?_
      rintro (ret | pdiMeta) chip₁ -
      · exact fun pdiMeta hfound => by cases hfound
      dsimp only
      split
      next hinvalid =>
        -- the erase is of the cells for metadata with another magic number
        have herase : eraseCells info.toSectorGeometry payload.pdimetaOffset
            (UInt32.ofNat ospiVersalPagesize) ⊆ flashSectors info layout len := by
          refine Set.Subset.trans (fun a ha => ?_)
            (flashCells_subset hplaced hpart fun _ => 0)
          have hmagic : (FptPdiMeta.ofBytes (dataAt (fun _ => 0) payload.pdimetaOffset)).fptPdiMagic ≠
              fptPdimetaMagic := by
            change Memory.load32 (fun _ => 0) 0 ≠ _
            decide
          exact ⟨haccepted, .inr (.inr (.inr (.inl ⟨hmagic, ha⟩)))⟩
        rw [rmgmtFptPdiMetaErase]
        split
        · exact fun _ _ => haccepted
        rw [ospiFlashErase, boot_add]
        refine Prog.Safe.bind ((reaches_flashErase _ _).mono herase) ?_
        intro ret chip₂ _
        split
        · exact fun pdiMeta hfound => by cases hfound
        · exact fun _ _ => haccepted
      · exact fun _ _ => haccepted

theorem flashSectors_spared (hplaced : Placed info layout)
    (hfree : len < layout.default.size ∨ layout.default.stop ≠ layout.backup.start) {a : Nat}
    (h : a ∈ flashSectors info layout len) : ¬ layout.backup.Has a ∧ info.size ≤ a := by
  obtain ⟨hfits, hbase, hmeta, hsectors | hsectors⟩ := h
  · exact ⟨hplaced.default.sectors_apart hplaced.backup hplaced.apart hfits hfree hsectors,
      first_le_of_sectorsFrom hplaced.default.aligned hbase hsectors⟩
  · exact ⟨(hplaced.pdimeta.not_has hplaced.paged hplaced hsectors).2,
      first_le_of_sectorsFrom hplaced.pdimeta.aligned hmeta hsectors⟩

theorem copySectors_spared (hplaced : Placed info layout) {size : UInt32}
    (hbackup : layout.backup.base ≠ 0) (hmeta : layout.pdimetaBackup ≠ 0)
    (hfits : size ≤ layout.backup.size)
    (hfree : size < layout.backup.size ∨ layout.backup.stop ≠ layout.default.start) {a : Nat}
    (h : a ∈ copySectors info layout size) : ¬ layout.default.Has a ∧ info.size ≤ a := by
  rcases h with hsectors | hsectors
  · exact ⟨hplaced.backup.sectors_apart hplaced.default hplaced.apart.symm hfits hfree hsectors,
      first_le_of_sectorsFrom hplaced.backup.aligned hbackup hsectors⟩
  · exact ⟨(hplaced.pdimetaBackup.not_has hplaced.paged hplaced hsectors).1,
      first_le_of_sectorsFrom hplaced.pdimetaBackup.aligned hmeta hsectors⟩

end Flash

end Vmr.Rmgmt
