import Vmr.Lib.Transition
import Vmr.Rmgmt.BackupExact
import Vmr.Rmgmt.RequestSectors

/-!
# One whole image at every moment

Transfers may fail, a request may be cut off between any two of them, and VMR may
run from either partition.  As long as no request copies a default image that is not
whole, and no partition is filled up to the other one, there is always a partition
that holds a whole image, and the table stays what it was.
-/

namespace Vmr.Rmgmt

open Vmr.Lib Vmr.Flash

/-! ## What survives -/

def Partition.Boots (partition : Partition) (whole : List UInt8 → Prop) (flash : Memory) : Prop :=
  ∃ len ≤ partition.size.toNat, whole (flash.slice partition.start len)

def Bootable (whole : List UInt8 → Prop) (layout : BootLayout) (flash : Memory) : Prop :=
  layout.default.Boots whole flash ∨ layout.backup.Boots whole flash

/-- There is a whole image, and the first sector is as it was. -/
structure Survives (whole : List UInt8 → Prop) (info : FlashInfo) (layout : BootLayout)
    (content flash : Memory) : Prop where
  bootable : Bootable whole layout flash
  table : ∀ a < info.size, flash a = content a

/-- What is recorded of the default image is in its partition and has a whole image in front, and
the copy does not fill the backup up to that partition. -/
structure CopiesWhole (whole : List UInt8 → Prop) (layout : BootLayout) (flash : Memory) : Prop where
  fits : (metaAt flash layout.pdimeta).fptPdiSize ≤ layout.default.size
  whole : ∃ count ≤ (metaAt flash layout.pdimeta).fptPdiSize.toNat,
    whole (flash.slice layout.default.start count)
  free : (metaAt flash layout.pdimeta).fptPdiSize < layout.backup.size ∨
    layout.backup.stop ≠ layout.default.start

section Survives

variable {whole : List UInt8 → Prop} {info : FlashInfo} {layout : BootLayout}
  {content flash flash' : Memory} {partition : Partition} {cells : Set Nat}

theorem Partition.Boots.kept (h : partition.Boots whole flash)
    (hsame : ∀ a, partition.Has a → flash' a = flash a) : partition.Boots whole flash' := by
  obtain ⟨len, hlen, himage⟩ := h
  refine ⟨len, hlen, ?_⟩
  have hslice : flash'.slice partition.start len = flash.slice partition.start len :=
    Memory.slice_congr fun a hlow hhigh =>
      hsame a ⟨hlow, Nat.lt_of_lt_of_le hhigh (Nat.add_le_add_left hlen _)⟩
  rwa [hslice]

/-- Outside of cells that meet neither a bootable partition nor the first sector. -/
theorem survives_of_keptOutside {chip : Chip} (hkept : KeptOutside cells flash chip)
    (hboots : layout.default.Boots whole flash ∧ (∀ a ∈ cells, ¬ layout.default.Has a) ∨
      layout.backup.Boots whole flash ∧ ∀ a ∈ cells, ¬ layout.backup.Has a)
    (htable : ∀ a < info.size, flash a = content a) (hfirst : ∀ a ∈ cells, info.size ≤ a) :
    Survives whole info layout content chip.content := by
  refine ⟨hboots.imp ?_ ?_, fun a ha => ?_⟩
  · rintro ⟨hpartition, hapart⟩
    exact hpartition.kept fun a ha => hkept a fun hcell => hapart a hcell ha
  · rintro ⟨hpartition, hapart⟩
    exact hpartition.kept fun a ha => hkept a fun hcell => hapart a hcell ha
  · rw [hkept a fun hcell => absurd (hfirst a hcell) (Nat.not_le_of_lt ha)]
    exact htable a ha

end Survives

/-! ## A request -/

namespace FlashCall

variable (call : FlashCall) (layout : BootLayout)

def OnBackup : Prop := call.env.rhBootOnOffset = multibootOff layout.backup.base

/-- The default image may be copied: a backup is wanted, and it is not certain to be seen that VMR
runs from it. -/
def Copies (heard : Prop) : Prop :=
  call.request.flashNoBackup = false ∧ ¬ (heard ∧ call.OnBackup layout)

/-- What is copied is a whole image, or else there is one in the backup; and no partition is filled
up to the other one. -/
structure Trusted (whole : List UInt8 → Prop) (heard : Prop) (flash : Memory) (len : UInt32) :
    Prop where
  skipped : call.request.flashNoBackup = true ∨ call.OnBackup layout →
    layout.backup.Boots whole flash
  copied : call.Copies layout heard → Backable flash layout → CopiesWhole whole layout flash
  writeFree : len < layout.default.size ∨ layout.default.stop ≠ layout.backup.start

end FlashCall

section Copy

variable {info : FlashInfo} {mayFail : Prop}
  {step : Chip → (op : OspiOp) → OspiAns op → Chip → Prop} {content : Memory} {chip : Chip}
  {payload : BootPayload} {size : UInt32}

/-- The erase leaves the default image, and the pages are copied as it is then. -/
private theorem imageCopied_source {layout : BootLayout} (hplaced : Placed info layout)
    (hbackup : layout.backup.base ≠ 0) (hfits : size ≤ layout.backup.size)
    (hsource : size ≤ layout.default.size)
    (hfree : size < layout.backup.size ∨ layout.backup.stop ≠ layout.default.start) {i : Nat}
    (hi : i < size.toNat) :
    imageCopied info layout content size (layout.backup.start + i) =
      content (layout.default.start + i) := by
  have hless : size.toNat < info.totalSize :=
    hplaced.backup.less hbackup (UInt32.le_iff_toNat_le.1 hfits)
  have hhas : layout.default.Has (layout.default.start + i) :=
    ⟨Nat.le_add_right _ _, Nat.add_lt_add_left (Nat.lt_of_lt_of_le hi
      (UInt32.le_iff_toNat_le.1 hsource)) _⟩
  have hspared : layout.default.start + i ∉ sectorsFrom info layout.backup.base size.toNat :=
    fun hin => hplaced.backup.sectors_apart hplaced.default hplaced.apart.symm hfits hfree hin hhas
  have hapart : layout.default.start + i < layout.backup.start ∨
      layout.backup.start ≤ layout.default.start := by
    refine hplaced.apart.imp (fun happart => Nat.lt_of_lt_of_le hhas.2 happart) fun happart => ?_
    exact Nat.le_trans (Nat.le_add_right _ _) happart
  have hkept : safeErased info content layout.backup.base size (layout.default.start + i) =
      content (layout.default.start + i) := by
    refine safeErased_outside hplaced.backup.aligned hless ?_
    by_contra hin
    rw [not_or, Nat.not_lt, Nat.not_le] at hin
    exact hspared hin
  exact (imageCopied_inside hplaced hless hi hapart).trans hkept

private theorem safe_copyImage_done (hcontent : ByContent step)
    (htransfers : Transfers info.toSectorGeometry mayFail step)
    (hplaced : Placed info payload.layout) (hbackup : payload.backupPartitionOffset ≠ 0)
    (hfits : size ≤ payload.backupPartitionSize) (hsource : size ≤ payload.defaultPartitionSize)
    (hfree : size < payload.backupPartitionSize ∨
      payload.layout.backup.stop ≠ payload.layout.default.start)
    (pdiMeta : FptPdiMeta) (hchip : chip.content = content) :
    Prog.Safe step (fun _ _ => True)
      (fun ret chip' => ret = 0 → ∀ i < size.toNat, chip'.content (payload.layout.backup.start + i) =
        content (payload.layout.default.start + i))
      (copyImage info payload size pdiMeta) chip := by
  have hcapacity := UInt32.le_iff_toNat_le.1 hfits
  have hless : size.toNat < info.totalSize := hplaced.backup.less hbackup hcapacity
  have hinside : payload.backupPartitionOffset.toNat + size.toNat ≤ info.totalSize :=
    Nat.le_trans (Nat.add_le_add_left hcapacity _) hplaced.backup.inside
  have hreads : payload.defaultPartitionOffset.toNat + size.toNat ≤ info.totalSize :=
    Nat.le_trans (Nat.add_le_add_left (UInt32.le_iff_toNat_le.1 hsource) _) hplaced.default.inside
  have hroom := info.totalSize_add_size_le
  have hpaged := hplaced.paged
  rw [copyImage]
  refine (safe_ospiFlashErase_done htransfers hless hinside hchip).bind ?_
  rintro ret chip₁ herased
  by_cases hret : ret = 0
  swap
  · rw [if_pos hret]
    exact fun hzero => absurd hzero hret
  rw [if_neg (not_not_intro hret)]
  refine (safe_ospiFlashCopy_done hcontent htransfers (pages_room hpaged hreads)
    (pages_room hpaged hinside) (by rw [ospiVersalPagesize] at hpaged; omega)
    (herased hret)).bind ?_
  rintro ret chip₂ hdone
  by_cases hret : ret = 0
  swap
  · rw [if_pos hret]
    exact fun hzero => absurd hzero hret
  rw [if_neg (not_not_intro hret)]
  have hmeta : Reaches info.toSectorGeometry
      (sectorsFrom info payload.layout.pdimetaBackup ospiVersalPagesize) step
      (rmgmtFptPdiMetaSet info payload fptTypePdimetaBackup
        { pdiMeta with fptPdiSize := size, fptPdiDebugType := clDbgClear }) chip₂ := by
    rw [rmgmtFptPdiMetaSet]
    split
    · exact reaches_ret _ _
    · exact (reaches_ospiFlashSafeWrite info _ _ _ _).mono fun a ha =>
        mem_sectorsFrom_of_replaced hplaced.paged hplaced.pdimetaBackup ha.2
  refine (safe_keptOutside htransfers hmeta fun a _ => rfl).mono (fun _ _ _ => trivial) ?_
  rintro ret chip₃ ⟨-, hkept⟩ - i hi
  have hhas : payload.layout.backup.Has (payload.layout.backup.start + i) :=
    ⟨Nat.le_add_right _ _, Nat.add_lt_add_left (Nat.lt_of_lt_of_le hi hcapacity) _⟩
  rw [hkept _ fun hin => (hplaced.pdimetaBackup.not_has hpaged hplaced hin).2 hhas, hdone hret]
  exact imageCopied_source hplaced hbackup hfits hsource hfree hi

end Copy

section Request

variable {whole : List UInt8 → Prop} {info : FlashInfo} {layout : BootLayout} {mayFail heard : Prop}
  {step : Chip → (op : OspiOp) → OspiAns op → Chip → Prop} {content : Memory} {chip : Chip}
  {payload : BootPayload} {call : FlashCall} {len : UInt32}

/-- A copy that has been accepted: the default image survives until the backup is there. -/
theorem safe_copySurvives (hcontent : ByContent step)
    (htransfers : Transfers info.toSectorGeometry mayFail step) (hplaced : Placed info payload.layout)
    (hback : Backable content payload.layout)
    (hwhole : CopiesWhole whole payload.layout content) (pdiMeta : FptPdiMeta)
    (hchip : chip.content = content) :
    Prog.Safe step (fun chip' _ => Survives whole info payload.layout content chip'.content)
      (fun ret chip' => Survives whole info payload.layout content chip'.content ∧
        (ret = 0 → payload.layout.backup.Boots whole chip'.content))
      (copyImage info payload (metaAt content payload.layout.pdimeta).fptPdiSize pdiMeta) chip := by
  obtain ⟨hsource, ⟨count, hcount, himage⟩, hfree⟩ := hwhole
  have hdone := safe_copyImage_done hcontent htransfers hplaced hback.backup hback.fits hsource
    hfree pdiMeta hchip
  have hreach := @reaches_copyImage info step chip payload _ hplaced hback.backup hback.fits pdiMeta
  have hkept := safe_keptOutside htransfers hreach fun a _ => congrFun hchip a
  have hspared : ∀ a ∈ copySectors info payload.layout
      (metaAt content payload.layout.pdimeta).fptPdiSize,
      ¬ payload.layout.default.Has a ∧ info.size ≤ a := fun a ha =>
    copySectors_spared hplaced hback.backup hback.pdimetaBackup hback.fits hfree ha
  have hboots : payload.layout.default.Boots whole content :=
    ⟨count, Nat.le_trans hcount (UInt32.le_iff_toNat_le.1 hsource), himage⟩
  have hsurvives : ∀ chip' : Chip, KeptOutside (copySectors info payload.layout
      (metaAt content payload.layout.pdimeta).fptPdiSize) content chip' →
      Survives whole info payload.layout content chip'.content := fun chip' hkept =>
    survives_of_keptOutside hkept (.inl ⟨hboots, fun a ha => (hspared a ha).1⟩) (fun _ _ => rfl)
      fun a ha => (hspared a ha).2
  refine (hkept.and hdone).mono (fun chip' _ hop => hsurvives chip' hop.1) ?_
  rintro ret chip' ⟨⟨-, hkept⟩, hcopied⟩
  refine ⟨hsurvives chip' hkept, fun hzero =>
    ⟨count, Nat.le_trans hcount (UInt32.le_iff_toNat_le.1 hback.fits), ?_⟩⟩
  have hslice : chip'.content.slice payload.layout.backup.start count =
      content.slice payload.layout.default.start count :=
    Memory.slice_eq_slice_iff.2 fun i hi => hcopied hzero i (Nat.lt_of_lt_of_le hi hcount)
  rwa [hslice]

private theorem safe_backupSurvives (hcontent : ByContent step)
    (htransfers : Transfers info.toSectorGeometry mayFail step) (hplaced : Placed info layout)
    (hpart : PartOf payload.layout layout)
    (honBackup : payload.bootOnBackup = true → call.OnBackup layout)
    (hguarded : heard → call.OnBackup layout → payload.bootOnBackup = true)
    (hbootable : Bootable whole layout content)
    (htrusted : call.Trusted layout whole heard content len) (hchip : chip.content = content) :
    Prog.Safe step (fun chip' _ => Survives whole info layout content chip'.content)
      (fun ret chip' => Survives whole info layout content chip'.content ∧
        (ret = 0 → layout.backup.Boots whole chip'.content))
      (backupDefault info call.request payload) chip := by
  have hsame : ∀ chip' : Chip, chip'.content = content →
      Survives whole info layout content chip'.content := by
    rintro chip' hkept
    rw [hkept]
    exact ⟨hbootable, fun _ _ => rfl⟩
  have hquiet : ∀ (chip' : Chip) (op : OspiOp), Quiet content chip' op →
      Survives whole info layout content chip'.content := fun chip' _ hop => hsame chip' hop.1
  have hrefused : ∀ (ret : Int) (chip' : Chip), chip'.content = content → ret ≠ 0 →
      Survives whole info layout content chip'.content ∧
        (ret = 0 → layout.backup.Boots whole chip'.content) :=
    fun ret chip' hkept hret => ⟨hsame chip' hkept, fun hzero => absurd hzero hret⟩
  rw [backupDefault]
  split
  swap
  next hskip =>
    refine ⟨hsame chip hchip, fun _ => ?_⟩
    rw [hchip]
    refine htrusted.skipped ?_
    cases hrequest : call.request.flashNoBackup with
    | true => exact .inl rfl
    | false =>
        refine .inr (honBackup ((Bool.not_eq_false _).mp fun hboot => hskip ⟨hrequest, hboot⟩))
  next hgo =>
    obtain ⟨hwanted, hboot⟩ := hgo
    have hcopies : call.Copies layout heard := by
      refine ⟨hwanted, fun hseen => Bool.false_ne_true ?_⟩
      exact hboot.symm.trans (hguarded hseen.1 hseen.2)
    rw [rmgmtCopyDefaultToBackup, hboot, if_neg (by decide)]
    split
    · exact hrefused _ _ hchip (by decide)
    next hnonzero =>
      obtain ⟨hdefault, hbackup⟩ := not_or.1 hnonzero
      refine Prog.Safe.bind ((safe_metaFound htransfers hchip payload fptTypePdimeta).mono hquiet
        fun _ _ => id) ?_
      rintro (ret | pdiMeta) chip₁ hfound
      · exact hrefused _ _ hfound.kept (hfound.failed ret rfl)
      obtain ⟨hmeta, hlike⟩ := hfound.like pdiMeta rfl
      dsimp only
      rw [hlike.magic, hlike.size]
      split
      · exact hrefused _ _ hfound.kept (by decide)
      next hmagic =>
        split
        · exact hrefused _ _ hfound.kept (by decide)
        next hnonempty =>
          split
          · exact hrefused _ _ hfound.kept (by decide)
          next hfits =>
            refine Prog.Safe.bind ((safe_metaFound htransfers hfound.kept payload
              fptTypePdimetaBackup).mono hquiet fun _ _ => id) ?_
            rintro (ret | pdiMeta') chip₂ hfound'
            · exact hrefused _ _ hfound'.kept (hfound'.failed ret rfl)
            obtain ⟨hmetaBackup, -⟩ := hfound'.like pdiMeta' rfl
            -- all four have been read by now
            have hlayout : payload.layout = layout := by
              have hdefaultSame := hpart.default.resolve_left hdefault
              have hbackupSame := hpart.backup.resolve_left hbackup
              have hmetaSame := hpart.pdimeta.resolve_left hmeta
              have hmetaBackupSame := hpart.pdimetaBackup.resolve_left hmetaBackup
              cases layout
              exact BootLayout.mk.injEq .. ▸ ⟨hdefaultSame, hbackupSame, hmetaSame, hmetaBackupSame⟩
            subst hlayout
            have hback : Backable content payload.layout :=
              ⟨hdefault, hbackup, hmeta, hmetaBackup, not_not.1 hmagic, hnonempty,
                UInt32.not_lt.1 hfits⟩
            exact safe_copySurvives hcontent htransfers hplaced hback (htrusted.copied hcopies hback)
              pdiMeta'.reset hfound'.kept

private theorem safe_flashSurvives (htransfers : Transfers info.toSectorGeometry mayFail step)
    (hplaced : Placed info layout) (hpart : PartOf payload.layout layout)
    (hfree : len < layout.default.size ∨ layout.default.stop ≠ layout.backup.start)
    (hboots : layout.backup.Boots whole chip.content)
    (htable : ∀ a < info.size, chip.content a = content a) (memory : Memory) (pdiData : UInt32) :
    Prog.Safe step (fun chip' _ => Survives whole info layout content chip'.content)
      (fun _ chip' => Survives whole info layout content chip'.content)
      (prepareDefault info payload len >>= fun prepared => match prepared with
        | .error ret => .ret ⟨ret, memory, false⟩
        | .ok pdiMeta => writeDefault info payload memory pdiData len pdiMeta) chip := by
  have hreach : Reaches info.toSectorGeometry (flashSectors info layout len) step
      (prepareDefault info payload len >>= fun prepared => match prepared with
        | .error ret => .ret ⟨ret, memory, false⟩
        | .ok pdiMeta => writeDefault info payload memory pdiData len pdiMeta) chip := by
    refine Prog.Safe.bind (reaches_prepareDefault hplaced hpart) ?_
    rintro (ret | pdiMeta) chip₁ haccepted
    · exact reaches_ret _ _
    · exact (reaches_writeDefault (haccepted pdiMeta rfl) memory pdiData pdiMeta).mono
        (flashCells_subset hplaced hpart content)
  have hsurvives : ∀ chip' : Chip, KeptOutside (flashSectors info layout len) chip.content chip' →
      Survives whole info layout content chip'.content := fun chip' hkept =>
    survives_of_keptOutside hkept
      (.inr ⟨hboots, fun a ha => (flashSectors_spared hplaced hfree ha).1⟩) htable
      fun a ha => (flashSectors_spared hplaced hfree ha).2
  exact (safe_keptOutside htransfers hreach fun _ _ => rfl).mono (fun chip' _ => hsurvives chip')
    fun _ chip' hend => hsurvives chip' hend.2

end Request

/-! ## Any number of requests -/

/-- The table names these partitions once, and one of them boots. -/
structure Provisioned (whole : List UInt8 → Prop) (layout : BootLayout) (flash : Memory) : Prop where
  named : Named flash layout
  once : NamedOnce flash
  bootable : Bootable whole layout flash

theorem Named.congr {info : FlashInfo} {layout : BootLayout} {content flash : Memory}
    (h : Named content layout) (hsectors : 2 ^ 16 ≤ info.size)
    (hsame : ∀ a < info.size, flash a = content a) : Named flash layout := by
  constructor
  · rw [tableHdr_congr hsectors hsame]
    exact h.magic
  · rw [partitions, notedPartitions, tableEntries_congr hsectors hsame]
    exact h.layout

theorem Survives.provisioned {whole : List UInt8 → Prop} {info : FlashInfo} {layout : BootLayout}
    {content flash : Memory} (h : Survives whole info layout content flash)
    (hsectors : 2 ^ 16 ≤ info.size) (hbefore : Provisioned whole layout content) :
    Provisioned whole layout flash := by
  refine ⟨hbefore.named.congr hsectors h.table, ?_, h.bootable⟩
  rw [NamedOnce, tableEntries_congr hsectors h.table]
  exact hbefore.once

/-- A base PDI request for the partitions of the table. -/
structure Requested (info : FlashInfo) (call : FlashCall) : Prop where
  info : call.info = info
  message : call.payload = .zero
  partitioned : call.request.flashToLegacy = false

def FlashCall.TrustedOn (call : FlashCall) (layout : BootLayout) (whole : List UInt8 → Prop)
    (heard : Prop) (flash : Memory) : Prop :=
  ∀ pdiData len, call.pdi = some (pdiData, len) → call.Trusted layout whole heard flash len

section Requests

variable {whole : List UInt8 → Prop} {info : FlashInfo} {layout : BootLayout} {mayFail heard : Prop}
  {step : Chip → (op : OspiOp) → OspiAns op → Chip → Prop} {content : Memory} {chip : Chip}
  {call : FlashCall}

private theorem safe_survives (hcontent : ByContent step)
    (htransfers : Transfers info.toSectorGeometry mayFail step) (hhears : Hears heard step)
    (hplaced : Placed info layout) (hcall : Requested info call)
    (hbefore : Provisioned whole layout content) (hchip : chip.content = content)
    (htrusted : call.TrustedOn layout whole heard content) :
    Prog.Safe step (fun chip' _ => Survives whole info layout content chip'.content)
      (fun _ chip' => Survives whole info layout content chip'.content) call.prog chip := by
  obtain ⟨rfl, hmessage, hpartitioned⟩ := hcall
  have hsame : ∀ chip' : Chip, chip'.content = content →
      Survives whole call.info layout content chip'.content := by
    rintro chip' hkept
    rw [hkept]
    exact ⟨hbefore.bootable, fun _ _ => rfl⟩
  unfold FlashCall.prog rmgmtFlashRpuPdi
  rw [hmessage]
  split
  · exact hsame chip hchip
  split
  · exact hsame chip hchip
  next pdiOffset pdiSize hinfo =>
    have hpdi : call.pdi = some (call.rh.rhDataBase + pdiOffset.toUInt32, pdiSize.toUInt32) := by
      unfold FlashCall.pdi FlashCall.xclbin
      rw [hinfo]
      rfl
    have htrusted' := htrusted _ _ hpdi
    dsimp only
    rw [if_neg (by simp [hpartitioned]), flashDefault, prepareFlash, LawfulMonad.bind_assoc]
    refine Prog.Safe.bind ((safe_queryFound htransfers hhears hchip call.env).mono
      (fun chip' _ hop => hsame chip' hop.1) fun _ _ => id) ?_
    rintro payload chip₁ hfound
    by_cases hfpt : payload.hasFpt = false
    · rw [if_pos hfpt]
      exact hsame chip₁ hfound.kept
    have hsome : payload.hasFpt = true := (Bool.not_eq_false _).mp hfpt
    obtain ⟨count, -, -, hnoted⟩ := hfound.noted hsome
    have hpart : PartOf payload.layout layout := hnoted ▸ partOf_noted hbefore.named hbefore.once count
    have hoffset : (partitions content).backupPartitionOffset = layout.backup.base :=
      congrArg (fun layout => layout.backup.base) hbefore.named.layout
    have honBackup := hfound.onBackup
    have hguarded := fun hheard => hfound.guarded hheard hsome
    rw [hoffset] at honBackup hguarded
    rw [if_neg hfpt, LawfulMonad.bind_assoc]
    refine (safe_backupSurvives hcontent htransfers hplaced hpart honBackup hguarded
      hbefore.bootable htrusted' hfound.kept).bind ?_
    rintro ret chip₂ ⟨hsurvives, hbackup⟩
    by_cases hret : ret = 0
    swap
    · rw [if_pos hret]
      exact hsurvives
    rw [if_neg (not_not_intro hret), LawfulMonad.bind_assoc]
    have hflash := @safe_flashSurvives whole call.info layout mayFail step content chip₂ payload
      pdiSize.toUInt32 htransfers hplaced hpart htrusted'.writeFree (hbackup hret) hsurvives.table
      call.env.memory (call.rh.rhDataBase + pdiOffset.toUInt32)
    refine (Prog.safe_bind.1 hflash).bind ?_
    rintro (ret | pdiMeta) chip₃ hend
    · exact hend
    · exact hend

theorem survives_of_visits (hcontent : ByContent step)
    (htransfers : Transfers info.toSectorGeometry mayFail step) (hhears : Hears heard step)
    (hplaced : Placed info layout) (hcall : Requested info call) {origin : Memory}
    (hbefore : Provisioned whole layout origin)
    (hkept : Survives whole info layout origin chip.content)
    (htrusted : call.TrustedOn layout whole heard chip.content) {chip' : Chip}
    (hvisits : Prog.Visits step chip call.prog chip') :
    Survives whole info layout origin chip'.content := by
  have hsafe := safe_survives hcontent htransfers hhears hplaced hcall
    (hkept.provisioned hplaced.sectors hbefore) rfl htrusted
  have hsurvives : Survives whole info layout chip.content chip'.content :=
    hsafe.visits (fun _ _ => id) (fun _ _ => id) hvisits
  exact ⟨hsurvives.bootable, fun a ha => (hsurvives.table a ha).trans (hkept.table a ha)⟩

end Requests

/-- A request, and whether the table can be read while it is served. -/
structure Attempt where
  call : FlashCall
  heard : Bool

/-- As a NOR flash that lets the table be read. -/
def Attempt.step (attempt : Attempt) (info : SectorGeometry) (chip : Chip) (op : OspiOp)
    (answer : OspiAns op) (chip' : Chip) : Prop :=
  norStep info chip op answer chip' ∧ (attempt.heard = true → TableRead op → Succeeds op answer)

/-- Requests one behind the other, from this flash on.  Each may be cut off at any moment. -/
def flashing (info : FlashInfo) (origin : Memory) : TransitionSystem Chip Attempt where
  init chip := chip.content = origin
  step chip attempt chip' := Requested info attempt.call ∧
    Prog.Visits (attempt.step info.toSectorGeometry) chip attempt.call.prog chip'

def Attempt.Trusted (whole : List UInt8 → Prop) (layout : BootLayout) (chip : Chip)
    (attempt : Attempt) : Prop :=
  attempt.call.TrustedOn layout whole (attempt.heard = true) chip.content

section Attempts

variable {whole : List UInt8 → Prop} {info : FlashInfo} {layout : BootLayout} {origin : Memory}
  {chip : Chip}

/-- However the transfers go and wherever requests are cut off: as long as each finds a whole image
where it relies on one, there is one at every moment, and the table is what it was. -/
theorem bootable_of_reachable (hplaced : Placed info layout)
    (hbefore : Provisioned whole layout origin)
    (h : ((flashing info origin).restrict (Attempt.Trusted whole layout)).Reachable chip) :
    Bootable whole layout chip.content ∧ tableHdr chip.content = tableHdr origin ∧
      tableEntries chip.content = tableEntries origin := by
  have hinvariant : ((flashing info origin).restrict (Attempt.Trusted whole layout)).Invariant
      fun chip => Survives whole info layout origin chip.content := by
    constructor
    · rintro chip rfl
      exact ⟨hbefore.bootable, fun _ _ => rfl⟩
    · rintro chip attempt chip' hkept ⟨htrusted, hcall, hvisits⟩
      exact survives_of_visits ((byContent_norStep _).and _)
        (fun _ _ _ _ hstep => ⟨hstep.1, .inl trivial⟩) (fun _ _ _ _ hstep => hstep.2) hplaced hcall
        hbefore hkept htrusted hvisits
  have hsurvives := h.invariant hinvariant
  exact ⟨hsurvives.bootable, tableHdr_congr hplaced.sectors hsurvives.table,
    tableEntries_congr hplaced.sectors hsurvives.table⟩

end Attempts

def OnePage (bytes : List UInt8) : Prop :=
  bytes.length = 256 ∧ bytes.head? = some 0 ∧
    (bytes.drop bootTagOffset).take 4 = [0x58, 0x4E, 0x4C, 0x58]

instance (bytes : List UInt8) : Decidable (OnePage bytes) := inferInstanceAs (Decidable (_ ∧ _))

def pairFlash : Memory :=
  let flash := (abFlash.store32 0x80008 256).store32 0x90008 256
  (flash.store32 0x100014 0x584C4E58).store32 0x200014 0x584C4E58

theorem onePage_pairFlash : OnePage (pairFlash.slice abLayout.default.start 256) ∧
    OnePage (pairFlash.slice abLayout.backup.start 256) := by decide +kernel

theorem provisioned_pairFlash : Provisioned OnePage abLayout pairFlash where
  named := ⟨by decide +kernel, by decide +kernel⟩
  once := by decide +kernel
  bootable := .inl ⟨256, by decide, onePage_pairFlash.1⟩

theorem recorded_pairFlash : Recorded pairFlash abLayout.pdimeta 256 :=
  ⟨by decide +kernel, by decide +kernel⟩

theorem requested_defaultCall : Requested gigadeviceInfo defaultCall := ⟨rfl, rfl, rfl⟩

theorem accepts_pairFlash : Accepts defaultCall abLayout pairFlash 256 := by
  obtain ⟨hmagic, hsize⟩ := recorded_pairFlash
  exact ⟨rfl, ⟨by decide, by decide, by decide, by decide, hmagic, by rw [hsize]; decide,
    by rw [hsize]; decide⟩, by decide⟩

theorem copiesWhole_pairFlash : CopiesWhole OnePage abLayout pairFlash := by
  obtain ⟨-, hsize⟩ := recorded_pairFlash
  constructor
  · rw [hsize]
    decide
  · exact ⟨256, by rw [hsize]; decide, onePage_pairFlash.1⟩
  · rw [hsize]
    exact .inl (by decide)

theorem trustedOn_pairFlash (heard : Prop) :
    defaultCall.TrustedOn abLayout OnePage heard pairFlash := by
  intro pdiData len hpdi
  rw [basePdi_defaultCall.image] at hpdi
  cases hpdi
  exact ⟨fun _ => ⟨256, by decide, onePage_pairFlash.2⟩, fun _ _ => copiesWhole_pairFlash,
    .inl (by decide)⟩

/-- A request that succeeds ends with a whole image. -/
theorem bootable_pairFlash : ∃ result chip,
    Prog.Returns (norStep gigadeviceInfo.toSectorGeometry) ⟨pairFlash, []⟩ defaultCall.prog result
      chip ∧ result.ret = 0 ∧ Bootable OnePage abLayout chip.content ∧
      tableHdr chip.content = tableHdr pairFlash ∧
      tableEntries chip.content = tableEntries pairFlash := by
  obtain ⟨-, hsize⟩ := recorded_pairFlash
  obtain ⟨result, chip, hrun, hret, -⟩ := exists_flashedWith basePdi_defaultCall
    provisioned_pairFlash.named placed_abLayout bootedFromDefault_abLayout
    (by rw [hsize]; decide) accepts_pairFlash
  have hnor : Prog.Returns (norStep gigadeviceInfo.toSectorGeometry) ⟨pairFlash, []⟩
      defaultCall.prog result chip := hrun.mono fun _ _ _ _ => And.left
  have hattempt : Prog.Visits (Attempt.step ⟨defaultCall, false⟩ gigadeviceInfo.toSectorGeometry)
      ⟨pairFlash, []⟩ defaultCall.prog chip :=
    ⟨_, hnor.mono fun _ _ _ _ hstep => ⟨hstep, fun hheard => absurd hheard Bool.false_ne_true⟩⟩
  have hstart : ((flashing gigadeviceInfo pairFlash).restrict
      (Attempt.Trusted OnePage abLayout)).Reachable ⟨pairFlash, []⟩ := .init rfl
  have htrusted : Attempt.Trusted OnePage abLayout ⟨pairFlash, []⟩ ⟨defaultCall, false⟩ :=
    trustedOn_pairFlash _
  exact ⟨result, chip, hnor, hret, bootable_of_reachable placed_abLayout provisioned_pairFlash
    (hstart.step ⟨htrusted, requested_defaultCall, hattempt⟩)⟩

end Vmr.Rmgmt
