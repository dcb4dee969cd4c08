import Vmr.Rmgmt.BasePdi

/-!
# What a base PDI request changes

The new image, the copy of the old one and the metadata of both, and nothing
else: as long as neither partition is full and the copy does not read from the
backup.
-/

namespace Vmr.Rmgmt

open Vmr.Lib Vmr.Flash

def InPage (base : UInt32) (a : Nat) : Prop :=
  base.toNat ≤ a ∧ a < base.toNat + ospiVersalPagesize

def Recorded (flash : Memory) (base size : UInt32) : Prop :=
  (metaAt flash base).fptPdiMagic = fptPdimetaMagic ∧ (metaAt flash base).fptPdiSize = size

/-- The image is in the default partition, the old one in the backup, and nothing else has
changed. -/
structure Flashed (info : FlashInfo) (layout : BootLayout) (content : Memory) (image : Nat → UInt8)
    (size len : UInt32) (flash : Memory) : Prop where
  image : ∀ i < len.toNat, flash (layout.default.start + i) = image i
  recorded : Recorded flash layout.pdimeta len
  copied : ∀ i < size.toNat,
    flash (layout.backup.start + i) = content (layout.default.start + i)
  copyRecorded : Recorded flash layout.pdimetaBackup size
  kept : ∀ a < info.totalSize, ¬ layout.default.Has a → ¬ layout.backup.Has a →
    ¬ InPage layout.pdimeta a → ¬ InPage layout.pdimetaBackup a → flash a = content a

/-- Nothing is lost behind a partition, and the backup does not start inside the bytes that are
copied. -/
structure SpillFree (info : FlashInfo) (layout : BootLayout) (size len : UInt32) : Prop where
  backup : size.toNat < layout.backup.size.toNat ∨ layout.backup.stop = info.totalSize
  default : len.toNat < layout.default.size.toNat ∨ layout.default.stop = info.totalSize
  source : layout.default.start < layout.backup.start →
    layout.default.start + size.toNat ≤ layout.backup.start

/-! ## The metadata -/

private theorem load32_toPage (pdiMeta : FptPdiMeta) :
    pdiMeta.toPage.load32 0 = pdiMeta.fptPdiMagic ∧ pdiMeta.toPage.load32 8 = pdiMeta.fptPdiSize := by
  constructor
  · rw [FptPdiMeta.toPage, (Memory.agreeOn_store _ _ (.inr (by decide))).load32,
      (Memory.agreeOn_store _ _ (.inr (by decide))).load32, Memory.store32,
      (Memory.agreeOn_store _ _ (.inr (by decide))).load32, Memory.store32,
      (Memory.agreeOn_store _ _ (.inr (by decide))).load32, Memory.store32,
      (Memory.agreeOn_store _ _ (.inr (by decide))).load32]
    exact Memory.load32_store32 _ 0 _
  · rw [FptPdiMeta.toPage, (Memory.agreeOn_store _ _ (.inr (by decide))).load32,
      (Memory.agreeOn_store _ _ (.inr (by decide))).load32, Memory.store32,
      (Memory.agreeOn_store _ _ (.inr (by decide))).load32]
    exact Memory.load32_store32 _ 8 _

section Meta

variable {info : FlashInfo} {layout : BootLayout} {content : Memory} {base : UInt32}
  {pdiMeta : FptPdiMeta}

theorem metaWritten_outside (hpaged : ospiVersalPagesize < info.size)
    (hplaced : MetaPlaced info layout base) {a : Nat} (h : ¬ InPage base a) :
    metaWritten info content base pdiMeta a = content a := by
  rw [metaWritten, safeWritten_page hpaged hplaced.aligned hplaced.inside]
  exact if_neg h

private theorem recorded_metaWritten (hpaged : ospiVersalPagesize < info.size)
    (hplaced : MetaPlaced info layout base) (size : UInt32) :
    Recorded (metaWritten info content base (pdiMeta.updated size)) base size := by
  have hpage : ∀ offset < ospiVersalPagesize,
      dataAt (metaWritten info content base (pdiMeta.updated size)) base offset =
        (pdiMeta.updated size).toPage offset := by
    intro offset hoffset
    rw [dataAt, metaWritten, safeWritten_page hpaged hplaced.aligned hplaced.inside,
      if_pos (by omega), Nat.add_sub_cancel_left]
  obtain ⟨hmagic, hsize⟩ := load32_toPage (pdiMeta.updated size)
  have hlike := like_of_bytes hpage
  refine ⟨?_, ?_⟩
  · exact hlike.magic.trans (hmagic.trans (reset_magic pdiMeta))
  · exact hlike.size.trans hsize

theorem metaAt_like {content' : Memory}
    (h : ∀ a, InPage base a → content a = content' a) :
    (metaAt content base).Like (metaAt content' base) :=
  like_of_bytes fun _ hoffset => h _ ⟨Nat.le_add_right _ _, Nat.add_lt_add_left hoffset _⟩

end Meta

/-! ## Ranges inside a partition -/

section Inside

variable {info : FlashInfo} {partition : Partition} {content : Memory} {count : UInt32} {a : Nat}

theorem Partition.Placed.sectors_le (h : partition.Placed info)
    (hcount : count.toNat < partition.size.toNat) :
    partition.start + (count.toNat / info.size + 1) * info.size ≤ partition.stop := by
  have hwhole := Nat.div_mul_cancel (Nat.dvd_of_mod_eq_zero h.whole)
  have hsectors : count.toNat / info.size + 1 ≤ partition.size.toNat / info.size := by
    refine Nat.succ_le_of_lt (Nat.div_lt_of_lt_mul ?_)
    rwa [Nat.mul_comm, hwhole]
  have hend := Nat.mul_le_mul_right info.size hsectors
  rw [hwhole] at hend
  exact Nat.add_le_add_left hend _

theorem Partition.Placed.roundUp_le (h : partition.Placed info)
    (hcount : count ≤ partition.size) : partition.start + roundUp count ≤ partition.stop := by
  obtain ⟨pages, hpages⟩ : 256 ∣ partition.size.toNat :=
    Nat.dvd_trans info.wholePages (Nat.dvd_of_mod_eq_zero h.whole)
  have hle := UInt32.le_iff_toNat_le.1 hcount
  rw [Partition.stop, Partition.start, roundUp, toNat_pageCount]
  omega

theorem Partition.Placed.erased_outside (h : partition.Placed info)
    (hless : count.toNat < info.totalSize)
    (hfree : count.toNat < partition.size.toNat ∨ partition.stop = info.totalSize)
    (ha : a < info.totalSize) (hout : ¬ partition.Has a) :
    safeErased info content partition.base count a = content a := by
  refine safeErased_outside h.aligned hless ?_
  rw [Partition.Has, Partition.start] at hout
  rcases hfree with hcount | hstop
  · have hend := h.sectors_le hcount
    rw [Partition.start] at hend
    omega
  · omega

end Inside

section Stages

variable {info : FlashInfo} {layout : BootLayout} {content : Memory} {size len : UInt32} {a : Nat}

theorem imageCopied_outside (hplaced : Placed info layout) (hless : size.toNat < info.totalSize)
    (hfree : size.toNat < layout.backup.size.toNat ∨ layout.backup.stop = info.totalSize)
    (ha : a < info.totalSize) (hout : ¬ layout.backup.Has a) :
    imageCopied info layout content size a = content a := by
  have hpages := pages_le_sectors info size.toNat
  have hend : a < layout.backup.start ∨
      layout.backup.start + 256 * (size.toNat / 256 + 1) ≤ a := by
    rw [Partition.Has] at hout
    rcases hfree with hsize | hstop
    · have hsectors := hplaced.backup.sectors_le hsize
      omega
    · omega
  rw [imageCopied, copiedPages_outside hend, hplaced.backup.erased_outside hless hfree ha hout]

theorem imageCopied_inside (hplaced : Placed info layout) (hless : size.toNat < info.totalSize)
    {i : Nat} (hi : i < size.toNat)
    (hapart : layout.default.start + i < layout.backup.start ∨
      layout.backup.start ≤ layout.default.start) :
    imageCopied info layout content size (layout.backup.start + i) =
      safeErased info content layout.backup.base size (layout.default.start + i) := by
  have hblank := @blank_safeErased info content layout.backup.base size hplaced.backup.aligned hless
  exact copiedPages_same hblank (by omega) hapart

theorem imageWritten_outside (hplaced : Placed info layout) (hless : len.toNat < info.totalSize)
    (hfits : len ≤ layout.default.size)
    (hfree : len.toNat < layout.default.size.toNat ∨ layout.default.stop = info.totalSize)
    {memory : Memory} {pdiData : UInt32} (ha : a < info.totalSize)
    (hout : ¬ layout.default.Has a) :
    imageWritten info layout content memory pdiData len a = content a := by
  have hround : a < layout.default.base.toNat ∨ layout.default.base.toNat + roundUp len ≤ a := by
    have hround := hplaced.default.roundUp_le hfits
    rw [Partition.Has] at hout
    rw [Partition.start] at hround hout
    omega
  have hpage : a < layout.default.base.toNat ∨
      layout.default.base.toNat + roundUp (UInt32.ofNat ospiVersalPagesize) ≤ a := by
    rw [Partition.Has] at hout
    rw [roundUp_page, ospiVersalPagesize]
    rcases hfree with hlen | hstop
    · have hsectors := hplaced.default.sectors_le hlen
      have hpages := pages_le_sectors info len.toNat
      rw [Partition.start] at hsectors hout
      omega
    · rw [Partition.start] at hout
      omega
  rw [imageWritten, written_outside hpage, written_outside hround,
    hplaced.default.erased_outside hless hfree ha hout]

private theorem imageWritten_inside (hplaced : Placed info layout)
    (hless : len.toNat < info.totalSize)
    (memory : Memory) (pdiData : UInt32) {i : Nat} (hi : i < len.toNat) :
    imageWritten info layout content memory pdiData len (layout.default.start + i) =
      dataAt memory pdiData i := by
  have hblank := @blank_safeErased info content layout.default.base len hplaced.default.aligned hless
  have hround := @len_le_roundUp len
  have hmasked : written (safeErased info content layout.default.base len) layout.default.base len
      (dataAt (maskTag memory pdiData) pdiData) (layout.default.base.toNat + i) =
        dataAt (maskTag memory pdiData) pdiData i := by
    rw [written_inside (by omega), hblank _ (by omega) (by omega), Memory.full_and]
  rw [imageWritten, Partition.start]
  rcases Nat.lt_or_ge i (roundUp (UInt32.ofNat ospiVersalPagesize)) with hpage | hpage
  · rw [written_inside hpage, hmasked]
    exact maskTag_and memory pdiData i
  · rw [written_outside (.inr (Nat.add_le_add_left hpage _)), hmasked]
    rw [roundUp_page, ospiVersalPagesize] at hpage
    exact maskTag_outside memory pdiData (by
      rw [plmBootTagAddr, bootTagOffset]
      omega)

end Stages

/-! ## The pages of the metadata -/

section Pages

variable {info : FlashInfo} {layout : BootLayout} {partition : Partition} {base base' : UInt32}
  {a : Nat}

private theorem sector_of_page (hpaged : ospiVersalPagesize < info.size)
    (haligned : base.toNat % info.size = 0) (h : InPage base a) :
    a / info.size * info.size = base.toNat := by
  obtain ⟨sectors, hsectors⟩ := Nat.dvd_of_mod_eq_zero haligned
  obtain ⟨offset, rfl⟩ := Nat.exists_eq_add_of_le h.1
  have hoffset : offset < info.size := by
    have hend := h.2
    omega
  rw [hsectors, Nat.mul_add_div info.size_pos, Nat.div_eq_of_lt hoffset, Nat.add_zero, Nat.mul_comm]

private theorem InPage.base_eq (h : InPage base a) (h' : InPage base' a)
    (hpaged : ospiVersalPagesize < info.size) (haligned : base.toNat % info.size = 0)
    (haligned' : base'.toNat % info.size = 0) : base = base' := by
  rw [← UInt32.toNat_inj, ← sector_of_page hpaged haligned h, sector_of_page hpaged haligned' h']

theorem Partition.Placed.has_sector (hplaced : partition.Placed info) (h : partition.Has a) :
    partition.Has (a / info.size * info.size) := by
  obtain ⟨hlow, hhigh⟩ := h
  refine ⟨?_, Nat.lt_of_le_of_lt (Nat.div_mul_le_self _ _) hhigh⟩
  rw [← Nat.div_mul_cancel (Nat.dvd_of_mod_eq_zero hplaced.aligned)]
  exact Nat.mul_le_mul_right _ (Nat.div_le_div_right hlow)

theorem MetaPlaced.page (hmeta : MetaPlaced info layout base) (hplaced : Placed info layout)
    (h : InPage base a) :
    a < info.totalSize ∧ ¬ layout.default.Has a ∧ ¬ layout.backup.Has a := by
  have hsector := sector_of_page hplaced.paged hmeta.aligned h
  refine ⟨Nat.lt_of_lt_of_le h.2 hmeta.inside, fun hhas => hmeta.notDefault ?_,
    fun hhas => hmeta.notBackup ?_⟩
  · rw [← hsector]
    exact hplaced.default.has_sector hhas
  · rw [← hsector]
    exact hplaced.backup.has_sector hhas

theorem Placed.pages_apart (hplaced : Placed info layout) (h : InPage layout.pdimeta a) :
    ¬ InPage layout.pdimetaBackup a := fun hother =>
  hplaced.metaApart (h.base_eq hother hplaced.paged hplaced.pdimeta.aligned
    hplaced.pdimetaBackup.aligned)

theorem Placed.not_backup (hplaced : Placed info layout) (h : layout.default.Has a) :
    ¬ layout.backup.Has a := by
  intro hother
  rcases hplaced.apart with happart | happart
  · exact absurd hother.1 (Nat.not_le_of_lt (Nat.lt_of_lt_of_le h.2 happart))
  · exact absurd h.1 (Nat.not_le_of_lt (Nat.lt_of_lt_of_le hother.2 happart))

end Pages

/-! ## Neither partition is full -/

section Whole

variable {info : FlashInfo} {layout : BootLayout} {content : Memory} {size len : UInt32}
  {memory : Memory} {pdiData : UInt32} {a : Nat}

theorem backedUp_outside (hplaced : Placed info layout) (hless : size.toNat < info.totalSize)
    (hfree : size.toNat < layout.backup.size.toNat ∨ layout.backup.stop = info.totalSize)
    (ha : a < info.totalSize) (hout : ¬ layout.backup.Has a)
    (hpage : ¬ InPage layout.pdimetaBackup a) :
    backedUp info layout content size a = content a := by
  rw [backedUp, metaWritten_outside hplaced.paged hplaced.pdimetaBackup hpage,
    imageCopied_outside hplaced hless hfree ha hout]

theorem metaAt_backedUp (hplaced : Placed info layout)
    (hless : size.toNat < info.totalSize)
    (hfree : size.toNat < layout.backup.size.toNat ∨ layout.backup.stop = info.totalSize) :
    (metaAt (backedUp info layout content size) layout.pdimeta).Like
      (metaAt content layout.pdimeta) := by
  refine metaAt_like fun a ha => ?_
  obtain ⟨hinside, -, hnotBackup⟩ := hplaced.pdimeta.page hplaced ha
  exact backedUp_outside hplaced hless hfree hinside hnotBackup (hplaced.pages_apart ha)

theorem metaReady_of_magic
    (hmagic : (metaAt content layout.pdimeta).fptPdiMagic = fptPdimetaMagic) :
    metaReady info layout content = content :=
  if_neg (not_not_intro hmagic)

theorem flashed_outside (hplaced : Placed info layout) (hless : len.toNat < info.totalSize)
    (hfits : len ≤ layout.default.size)
    (hfree : len.toNat < layout.default.size.toNat ∨ layout.default.stop = info.totalSize)
    (hmagic : (metaAt content layout.pdimeta).fptPdiMagic = fptPdimetaMagic)
    (ha : a < info.totalSize) (hout : ¬ layout.default.Has a)
    (hpage : ¬ InPage layout.pdimeta a) :
    flashed info layout content memory pdiData len a = content a := by
  rw [flashed, metaWritten_outside hplaced.paged hplaced.pdimeta hpage,
    imageWritten_outside hplaced hless hfits hfree ha hout, metaReady_of_magic hmagic]

theorem flashed_flashedWith (hplaced : Placed info layout) (hback : Backable content layout)
    (hfits : len ≤ layout.default.size)
    (hsize : (metaAt content layout.pdimeta).fptPdiSize = size)
    (hsource : layout.default.start + size.toNat ≤ info.totalSize)
    (hfree : SpillFree info layout size len) :
    Flashed info layout content (dataAt memory pdiData) size len
      (flashedWith info layout content memory pdiData len) := by
  have hsizeFits : size ≤ layout.backup.size := hsize ▸ hback.fits
  have hpos : 0 < size.toNat := by
    rw [Nat.pos_iff_ne_zero, ne_eq, ← UInt32.toNat_zero, UInt32.toNat_inj, ← hsize]
    exact hback.nonempty
  have hless : size.toNat < info.totalSize :=
    hplaced.backup.less hback.backup (UInt32.le_iff_toNat_le.1 hsizeFits)
  have hlenLess : len.toNat < info.totalSize :=
    hplaced.default.less hback.default (UInt32.le_iff_toNat_le.1 hfits)
  have hlike := @metaAt_backedUp info layout content size hplaced hless hfree.backup
  have hmagic := hlike.magic.trans hback.magic
  rw [flashedWith, hsize]
  refine ⟨fun i hi => ?_, ?_, fun i hi => ?_, ?_, fun a ha hdefault hbackup hmeta hmetaBackup => ?_⟩
  · have hhas : layout.default.Has (layout.default.start + i) := by
      have hlen := UInt32.le_iff_toNat_le.1 hfits
      exact ⟨Nat.le_add_right _ _, Nat.add_lt_add_left (Nat.lt_of_lt_of_le hi hlen) _⟩
    have hpage : ¬ InPage layout.pdimeta (layout.default.start + i) :=
      fun hin => (hplaced.pdimeta.page hplaced hin).2.1 hhas
    rw [flashed, metaWritten_outside hplaced.paged hplaced.pdimeta hpage,
      imageWritten_inside hplaced hlenLess memory pdiData hi]
  · exact recorded_metaWritten hplaced.paged hplaced.pdimeta len
  · have hhas : layout.backup.Has (layout.backup.start + i) := by
      have hcount := UInt32.le_iff_toNat_le.1 hsizeFits
      exact ⟨Nat.le_add_right _ _, Nat.add_lt_add_left (Nat.lt_of_lt_of_le hi hcount) _⟩
    have hinside : layout.backup.start + i < info.totalSize :=
      Nat.lt_of_lt_of_le hhas.2 hplaced.backup.inside
    have hnotDefault : ¬ layout.default.Has (layout.backup.start + i) :=
      fun hin => hplaced.not_backup hin hhas
    have hpage : ¬ InPage layout.pdimeta (layout.backup.start + i) :=
      fun hin => (hplaced.pdimeta.page hplaced hin).2.2 hhas
    have hpageBackup : ¬ InPage layout.pdimetaBackup (layout.backup.start + i) :=
      fun hin => (hplaced.pdimetaBackup.page hplaced hin).2.2 hhas
    have hbefore : layout.default.start + i < info.totalSize := by omega
    -- the bytes that are copied are in front of the backup, or behind all of it
    have hapart : layout.default.start + i < layout.backup.start ∨
        layout.backup.stop ≤ layout.default.start := by
      rcases Nat.lt_or_ge layout.default.start layout.backup.start with hfirst | hfirst
      · have hend := hfree.source hfirst
        omega
      · refine .inr (hplaced.apart.resolve_left fun hempty => ?_)
        have hdefault := hfree.default
        rw [Partition.stop, ← Partition.start] at hempty hdefault
        omega
    have hnotBackup : ¬ layout.backup.Has (layout.default.start + i) := by
      rintro ⟨hlow, hhigh⟩
      omega
    have hfirst : layout.default.start + i < layout.backup.start ∨
        layout.backup.start ≤ layout.default.start :=
      hapart.imp_right (Nat.le_trans (Nat.le_add_right _ _))
    rw [flashed_outside hplaced hlenLess hfits hfree.default hmagic hinside hnotDefault hpage,
      backedUp, metaWritten_outside hplaced.paged hplaced.pdimetaBackup hpageBackup,
      imageCopied_inside hplaced hless hi hfirst,
      hplaced.backup.erased_outside hless hfree.backup hbefore hnotBackup]
  · have hkept : (metaAt (flashed info layout (backedUp info layout content size) memory pdiData len)
        layout.pdimetaBackup).Like
          (metaAt (backedUp info layout content size) layout.pdimetaBackup) := by
      refine metaAt_like fun a ha => ?_
      obtain ⟨hinside, hnotDefault, -⟩ := hplaced.pdimetaBackup.page hplaced ha
      exact flashed_outside hplaced hlenLess hfits hfree.default hmagic hinside hnotDefault
        fun hother => hplaced.pages_apart hother ha
    have hrecorded : Recorded (backedUp info layout content size) layout.pdimetaBackup size :=
      recorded_metaWritten hplaced.paged hplaced.pdimetaBackup size
    exact ⟨hkept.magic.trans hrecorded.1, hkept.size.trans hrecorded.2⟩
  · rw [flashed_outside hplaced hlenLess hfits hfree.default hmagic ha hdefault hmeta,
      backedUp_outside hplaced hless hfree.backup ha hbackup hmetaBackup]

end Whole

end Vmr.Rmgmt
