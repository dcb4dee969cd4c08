import Vmr.Rmgmt.BackupExact

/-!
# The flash that a base PDI request leaves

When no image fills its partition and every transfer goes well, each byte of the flash
behind a request that returns 0 is a byte of the new image, of the copy, of the
metadata of one of them, an erased byte, or what it was.
-/

namespace Vmr.Rmgmt

open Vmr.Lib Vmr.Flash

instance (base : UInt32) (a : Nat) : Decidable (InPage base a) := inferInstanceAs (Decidable (_ ∧ _))

instance (partition : Partition) (a : Nat) : Decidable (partition.Has a) :=
  inferInstanceAs (Decidable (_ ∧ _))

/-- Neither what is copied nor what is written fills a partition. -/
structure Roomy (layout : BootLayout) (size len : UInt32) : Prop where
  source : size < layout.default.size
  backup : size < layout.backup.size
  default : len < layout.default.size

/-- Data at the start of a partition, the rest of the sectors of its length erased, and the old
bytes behind them. -/
def rangeLeft (info : FlashInfo) (start count dataLen : Nat) (data : Nat → UInt8) (content : Memory) :
    Memory := fun a =>
  if a < start + dataLen then data (a - start)
  else if a < start + (count / info.size + 1) * info.size then 0xFF
  else content a

def leftFlash (info : FlashInfo) (layout : BootLayout) (content memory : Memory)
    (pdiData len : UInt32) : Memory := fun a =>
  let size := (metaAt content layout.pdimeta).fptPdiSize
  if InPage layout.pdimeta a then
    ((metaAt content layout.pdimeta).updated len).toPage (a - layout.pdimeta.toNat)
  else if InPage layout.pdimetaBackup a then
    ((metaAt content layout.pdimetaBackup).updated size).toPage (a - layout.pdimetaBackup.toNat)
  else if layout.default.Has a then
    -- whole pages, and one page at least
    rangeLeft info layout.default.start len.toNat (max ospiVersalPagesize (roundUp len))
      (dataAt memory pdiData) content a
  else if layout.backup.Has a then
    rangeLeft info layout.backup.start size.toNat (256 * (size.toNat / 256 + 1))
      (dataAt content layout.default.base) content a
  else content a

section Stages

variable {info : FlashInfo} {layout : BootLayout} {content memory : Memory}
  {pdiData size len : UInt32} {a : Nat}

private theorem metaWritten_page (hpaged : ospiVersalPagesize < info.size) {base : UInt32}
    (hplaced : MetaPlaced info layout base) (pdiMeta : FptPdiMeta) (h : InPage base a) :
    metaWritten info content base pdiMeta a = pdiMeta.toPage (a - base.toNat) := by
  rw [metaWritten, safeWritten_page hpaged hplaced.aligned hplaced.inside]
  exact if_pos h

private theorem imageCopied_eq (hplaced : Placed info layout) (hback : layout.backup.base ≠ 0)
    (hsource : size < layout.default.size) (hfits : size < layout.backup.size)
    (ha : a < info.totalSize) :
    imageCopied info layout content size a =
      if layout.backup.Has a then
        rangeLeft info layout.backup.start size.toNat (256 * (size.toNat / 256 + 1))
          (dataAt content layout.default.base) content a
      else content a := by
  have hsourceLt := UInt32.lt_iff_toNat_lt.1 hsource
  have hless : size.toNat < info.totalSize :=
    hplaced.backup.less hback (Nat.le_of_lt (UInt32.lt_iff_toNat_lt.1 hfits))
  have hfree := Or.inl (b := layout.backup.stop = info.totalSize) (UInt32.lt_iff_toNat_lt.1 hfits)
  have hblank := @blank_safeErased info content layout.backup.base size hplaced.backup.aligned hless
  by_cases hhas : layout.backup.Has a
  swap
  · rw [if_neg hhas, imageCopied_outside hplaced hless hfree ha hhas]
  obtain ⟨i, rfl⟩ := Nat.exists_eq_add_of_le hhas.1
  rw [if_pos hhas, rangeLeft, Nat.add_sub_cancel_left]
  split
  next hpage =>
    have hi : i < 256 * (size.toNat / 256 + 1) := Nat.lt_of_add_lt_add_left hpage
    obtain ⟨pages, hpages⟩ : 256 ∣ layout.default.size.toNat :=
      Nat.dvd_trans info.wholePages (Nat.dvd_of_mod_eq_zero hplaced.default.whole)
    have hin : layout.default.Has (layout.default.start + i) := by
      refine ⟨Nat.le_add_right _ _, ?_⟩
      change _ < layout.default.start + _
      omega
    have hbefore : layout.default.start + i < info.totalSize :=
      Nat.lt_of_lt_of_le hin.2 hplaced.default.inside
    have hapart : layout.default.start + i < layout.backup.start ∨
        layout.backup.start ≤ layout.default.start :=
      hplaced.apart.imp (Nat.lt_of_lt_of_le hin.2) (Nat.le_trans (Nat.le_add_right _ _))
    have hsame := @copiedPages_same _ layout.default.start _ _ hblank i hi hapart
    rw [imageCopied]
    refine hsame.trans ?_
    exact hplaced.backup.erased_outside hless hfree hbefore (hplaced.not_backup hin)
  next hpage =>
    rw [imageCopied, copiedPages_outside (.inr (Nat.le_of_not_lt hpage))]
    split
    next hsector =>
      exact safeErased_range hplaced.backup.aligned hless (Nat.le_add_right _ _) hsector
    next hsector => exact safeErased_outside hplaced.backup.aligned hless (.inr (Nat.le_of_not_lt hsector))

private theorem imageWritten_eq (hplaced : Placed info layout) (hdefault : layout.default.base ≠ 0)
    (hfits : len < layout.default.size) (ha : a < info.totalSize) :
    imageWritten info layout content memory pdiData len a =
      if layout.default.Has a then
        rangeLeft info layout.default.start len.toNat (max ospiVersalPagesize (roundUp len))
          (dataAt memory pdiData) content a
      else content a := by
  have hlenLt := UInt32.lt_iff_toNat_lt.1 hfits
  have hless : len.toNat < info.totalSize := hplaced.default.less hdefault (Nat.le_of_lt hlenLt)
  have hblank := @blank_safeErased info content layout.default.base len hplaced.default.aligned hless
  have hround : roundUp len ≤ 256 * (len.toNat / 256 + 1) := by
    rw [roundUp, toNat_pageCount]
    omega
  by_cases hhas : layout.default.Has a
  swap
  · rw [if_neg hhas, imageWritten_outside hplaced hless (UInt32.le_of_lt hfits) (.inl hlenLt) ha hhas]
  obtain ⟨i, rfl⟩ := Nat.exists_eq_add_of_le hhas.1
  rw [if_pos hhas, rangeLeft, Nat.add_sub_cancel_left, imageWritten, Partition.start]
  split
  next hdata =>
    have hi : i < max ospiVersalPagesize (roundUp len) := Nat.lt_of_add_lt_add_left hdata
    have hfresh : safeErased info content layout.default.base len (layout.default.base.toNat + i) =
        0xFF := by
      rw [ospiVersalPagesize] at hi
      exact hblank _ (Nat.le_add_right _ _) (by omega)
    rcases Nat.lt_or_ge i (roundUp (UInt32.ofNat ospiVersalPagesize)) with hfirst | hfirst
    · rw [written_inside hfirst]
      rcases Nat.lt_or_ge i (roundUp len) with hlen | hlen
      · rw [written_inside hlen, hfresh, Memory.full_and]
        exact maskTag_and memory pdiData i
      · rw [written_outside (.inr (Nat.add_le_add_left hlen _)), hfresh, Memory.full_and]
    · have hlen : i < roundUp len := by
        rw [roundUp_page] at hfirst
        omega
      rw [written_outside (.inr (Nat.add_le_add_left hfirst _)), written_inside hlen, hfresh,
        Memory.full_and]
      rw [roundUp_page, ospiVersalPagesize] at hfirst
      exact maskTag_outside memory pdiData (by
        rw [plmBootTagAddr, bootTagOffset]
        omega)
  next hdata =>
    have hlarge := Nat.le_of_add_le_add_left (Nat.le_of_not_lt hdata)
    have hpage : ospiVersalPagesize ≤ i := Nat.le_trans (Nat.le_max_left _ _) hlarge
    have hlen : roundUp len ≤ i := Nat.le_trans (Nat.le_max_right _ _) hlarge
    rw [written_outside (.inr (Nat.add_le_add_left hpage _)),
      written_outside (.inr (Nat.add_le_add_left hlen _))]
    split
    next hsector =>
      exact safeErased_range hplaced.default.aligned hless (Nat.le_add_right _ _) hsector
    next hsector =>
      exact safeErased_outside hplaced.default.aligned hless (.inr (Nat.le_of_not_lt hsector))

end Stages

section Left

variable {call : FlashCall} {layout : BootLayout} {content : Memory} {pdiData len : UInt32}

private theorem flashedWith_eq {info : FlashInfo} {memory : Memory} (hplaced : Placed info layout)
    (hback : Backable content layout)
    (hroomy : Roomy layout (metaAt content layout.pdimeta).fptPdiSize len) {a : Nat}
    (ha : a < info.totalSize) :
    flashedWith info layout content memory pdiData len a =
      leftFlash info layout content memory pdiData len a := by
  have hless := hplaced.backup.less hback.backup (UInt32.le_iff_toNat_le.1 hback.fits)
  have hfree := Or.inl (b := layout.backup.stop = info.totalSize)
    (UInt32.lt_iff_toNat_lt.1 hroomy.backup)
  have hlike := @metaAt_backedUp info layout content _ hplaced hless hfree
  have hcopied := @imageCopied_eq info layout content _ _ hplaced hback.backup hroomy.source
    hroomy.backup ha
  rw [flashedWith, flashed, metaReady_of_magic (hlike.magic.trans hback.magic), leftFlash]
  by_cases hpage : InPage layout.pdimeta a
  · rw [if_pos hpage, metaWritten_page hplaced.paged hplaced.pdimeta _ hpage, hlike.updated]
  rw [if_neg hpage, metaWritten_outside hplaced.paged hplaced.pdimeta hpage,
    imageWritten_eq hplaced hback.default hroomy.default ha, rangeLeft]
  by_cases hpageBackup : InPage layout.pdimetaBackup a
  · have hout := (hplaced.pdimetaBackup.page hplaced hpageBackup).2.1
    rw [if_pos hpageBackup, if_neg hout, backedUp,
      metaWritten_page hplaced.paged hplaced.pdimetaBackup _ hpageBackup]
  rw [if_neg hpageBackup, rangeLeft, backedUp,
    metaWritten_outside hplaced.paged hplaced.pdimetaBackup hpageBackup, hcopied]
  by_cases hhas : layout.default.Has a
  · rw [if_pos hhas, if_pos hhas, if_neg (hplaced.not_backup hhas)]
  · rw [if_neg hhas, if_neg hhas]

/-- When every transfer goes well a request can return 0 exactly if it is accepted, and then it
leaves this flash. -/
theorem returns_leftFlash_iff (hcall : BasePdi call pdiData len) (hnamed : Named content layout)
    (hplaced : Placed call.info layout) (hbooted : BootedFromDefault call.env layout)
    (hroomy : Roomy layout (metaAt content layout.pdimeta).fptPdiSize len) :
    ((∃ result chip, Prog.Returns (okStep call.info.toSectorGeometry) ⟨content, []⟩ call.prog
        result chip ∧ result.ret = 0) ↔ Accepts call layout content len) ∧
      ∀ result chip, Prog.Returns (okStep call.info.toSectorGeometry) ⟨content, []⟩ call.prog
        result chip → result.ret = 0 → ∀ a < call.info.totalSize,
          chip.content a = leftFlash call.info layout content call.env.memory pdiData len a := by
  have hsource : layout.default.start + (metaAt content layout.pdimeta).fptPdiSize.toNat ≤
      call.info.totalSize :=
    Nat.le_trans (Nat.add_le_add_left (Nat.le_of_lt (UInt32.lt_iff_toNat_lt.1 hroomy.source)) _)
      hplaced.default.inside
  have hend : ∀ result chip, Prog.Returns (okStep call.info.toSectorGeometry) ⟨content, []⟩ call.prog
      result chip → FlashEnd (okStep call.info.toSectorGeometry) call layout content pdiData len
        result chip := fun result chip hrun =>
    (@safe_flashEnd call pdiData len layout content _ ⟨content, []⟩ hcall (byContent_okStep _)
      (transfers_okStep _) hnamed hplaced hbooted hsource rfl).returns hrun
  refine ⟨⟨?_, fun haccepts => ?_⟩, fun result chip hrun hret a ha => ?_⟩
  · rintro ⟨result, chip, hrun, hret⟩
    exact ((hend result chip hrun).done hret).1
  · obtain ⟨result, chip, hrun, hret, -⟩ := exists_flashedWith hcall hnamed hplaced hbooted hsource
      haccepts
    exact ⟨result, chip, hrun, hret⟩
  · obtain ⟨haccepts, hleft⟩ := (hend result chip hrun).done hret
    rw [hleft]
    exact flashedWith_eq hplaced haccepts.backable hroomy ha

end Left

/-- An old image of 4 KiB is backed up, and one of a page is written. -/
theorem leftFlash_abLayout : ∃ result chip,
    Prog.Returns (okStep gigadeviceInfo.toSectorGeometry) ⟨layoutFlash abLayout 0x1000 1, []⟩
      defaultCall.prog result chip ∧ result.ret = 0 ∧ ∀ a < gigadeviceInfo.totalSize,
        chip.content a = leftFlash gigadeviceInfo abLayout (layoutFlash abLayout 0x1000 1)
          defaultCall.env.memory 0x11F0 256 a := by
  obtain ⟨⟨-, hsize⟩, -⟩ := @recorded_layoutFlash _ _ 0x1000 1 placed_abLayout
  obtain ⟨haccepted, hleft⟩ := @returns_leftFlash_iff defaultCall abLayout
    (layoutFlash abLayout 0x1000 1) 0x11F0 256 basePdi_defaultCall
    (named_layoutFlash (by decide) (by decide)) placed_abLayout bootedFromDefault_abLayout
    (by rw [hsize]; exact ⟨by decide, by decide, by decide⟩)
  obtain ⟨result, chip, hrun, hret⟩ := haccepted.2
    (@accepts_layoutFlash defaultCall abLayout 256 0x1000 placed_abLayout taken_abLayout (by decide) 1)
  exact ⟨result, chip, hrun, hret, hleft result chip hrun hret⟩

end Vmr.Rmgmt
