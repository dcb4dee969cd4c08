import Vmr.Rmgmt.BackupCopy

/-!
# What is lost behind a full partition

An erase takes one sector too many when its range ends with a sector, and a copy
one page too many.  For any partitions there is a flash on which that shows, so a
base PDI request is exact as long as neither partition is full in front of
another sector, and only then.
-/

namespace Vmr.Rmgmt

open Vmr.Lib Vmr.Flash

/-! ## A flash with such a table -/

section Example

variable (layout : BootLayout) (size : UInt32) (mark : UInt8)

def entryWords (fptType : UInt32) (partition : Partition) : List UInt32 :=
  [fptType, 0, 0, partition.base, partition.size, 0, 0]

def tableWords : List UInt32 :=
  [fptMagic, 0x041C0000, 0, 0, 0, 0, 0] ++ entryWords fptTypeBoot layout.default ++
    entryWords fptTypeBootBackup layout.backup ++
    entryWords fptTypePdimeta ⟨layout.pdimeta, 0⟩ ++
    entryWords fptTypePdimetaBackup ⟨layout.pdimetaBackup, 0⟩

def layoutTable : Memory :=
  Memory.storeWords (fun a => if a = layout.backup.start then mark else 0) 0
    (tableWords layout).zipIdx

def layoutFlash : Memory :=
  ((layoutTable layout mark).storeWords layout.pdimeta.toNat
    [fptPdimetaMagic, 0, size].zipIdx).storeWords layout.pdimetaBackup.toNat
      [fptPdimetaMagic, 0, 0].zipIdx

end Example

section Example

variable {info : FlashInfo} {layout : BootLayout} {size : UInt32} {mark : UInt8}

private theorem Placed.page_le (hplaced : Placed info layout) {base : UInt32} (hbase : base ≠ 0)
    (haligned : base.toNat % info.size = 0) : ospiVersalPagesize < base.toNat := by
  have hpos : 0 < base.toNat := by
    rw [Nat.pos_iff_ne_zero, ne_eq, ← UInt32.toNat_zero, UInt32.toNat_inj]
    exact hbase
  exact Nat.lt_of_lt_of_le hplaced.paged (Nat.le_of_dvd hpos (Nat.dvd_of_mod_eq_zero haligned))

private theorem layoutFlash_outside {a : Nat} (htable : ospiVersalPagesize ≤ a)
    (hpage : ¬ InPage layout.pdimeta a) (hpageBackup : ¬ InPage layout.pdimetaBackup a) :
    layoutFlash layout size mark a = if a = layout.backup.start then mark else 0 := by
  rw [InPage, ospiVersalPagesize] at hpage hpageBackup
  rw [ospiVersalPagesize] at htable
  have hlength : (tableWords layout).length = 35 := rfl
  rw [layoutFlash, Memory.storeWords_outside _ _ (by
      rw [List.length_cons, List.length_cons, List.length_cons, List.length_nil]
      omega),
    Memory.storeWords_outside _ _ (by
      rw [List.length_cons, List.length_cons, List.length_cons, List.length_nil]
      omega), layoutTable,
    Memory.storeWords_outside _ _ (by
      rw [hlength]
      omega)]

private theorem load32_dataAt (memory : Memory) (base : UInt32) (start : Nat) :
    (dataAt memory base).load32 start = memory.load32 (base.toNat + start) := by
  refine congrArg UInt32.ofNat (Memory.number_shift fun offset _ => ?_)
  rw [dataAt, Nat.add_assoc]

private theorem load32_table (hpdimeta : ospiVersalPagesize < layout.pdimeta.toNat)
    (hbackup : ospiVersalPagesize < layout.pdimetaBackup.toNat) {index : Nat} (hindex : index < 35) :
    (layoutFlash layout size mark).load32 (4 * index) = (tableWords layout).get ⟨index, hindex⟩ := by
  rw [ospiVersalPagesize] at hpdimeta hbackup
  rw [layoutFlash, (Memory.agreeOn_storeWords _ _ (by omega)).load32,
    (Memory.agreeOn_storeWords _ _ (by omega)).load32]
  have hword := Memory.load32_storeWords (fun a => if a = layout.backup.start then mark else 0) 0 0
    (tableWords layout) hindex
  rw [layoutTable]
  rwa [Nat.zero_add, Nat.zero_add] at hword

theorem recorded_layoutFlash (hplaced : Placed info layout) :
    Recorded (layoutFlash layout size mark) layout.pdimeta size ∧
      (metaAt (layoutFlash layout size mark) layout.pdimetaBackup).fptPdiMagic = fptPdimetaMagic := by
  have hword : ∀ offset, offset + 4 ≤ ospiVersalPagesize →
      (layoutFlash layout size mark).load32 (layout.pdimeta.toNat + offset) =
        ((layoutTable layout mark).storeWords layout.pdimeta.toNat
          [fptPdimetaMagic, 0, size].zipIdx).load32 (layout.pdimeta.toNat + offset) := by
    intro offset hoffset
    refine Memory.AgreeOn.load32 fun a hlow hhigh => Memory.storeWords_outside _ _ ?_
    have hother := @Placed.pages_apart _ _ a hplaced ⟨by omega, by omega⟩
    rw [InPage, ospiVersalPagesize] at hother
    rw [List.length_cons, List.length_cons, List.length_cons, List.length_nil]
    omega
  refine ⟨⟨?_, ?_⟩, ?_⟩
  · refine (load32_dataAt _ _ 0).trans ((hword 0 (by decide)).trans ?_)
    exact Memory.load32_storeWords _ layout.pdimeta.toNat 0 [fptPdimetaMagic, 0, size]
      (show 0 < 3 by decide)
  · refine (load32_dataAt _ _ 8).trans ((hword 8 (by decide)).trans ?_)
    exact Memory.load32_storeWords _ layout.pdimeta.toNat 0 [fptPdimetaMagic, 0, size]
      (show 2 < 3 by decide)
  · refine (load32_dataAt _ _ 0).trans ?_
    exact Memory.load32_storeWords _ layout.pdimetaBackup.toNat 0 [fptPdimetaMagic, 0, 0]
      (show 0 < 3 by decide)

private theorem tableEntries_layoutFlash (hpdimeta : ospiVersalPagesize < layout.pdimeta.toNat)
    (hbackup : ospiVersalPagesize < layout.pdimetaBackup.toNat) :
    (tableHdr (layoutFlash layout size mark)).fptMagic = fptMagic ∧
    tableEntries (layoutFlash layout size mark) =
      [⟨fptTypeBoot, layout.default.base, layout.default.size⟩,
        ⟨fptTypeBootBackup, layout.backup.base, layout.backup.size⟩,
        ⟨fptTypePdimeta, layout.pdimeta, 0⟩, ⟨fptTypePdimetaBackup, layout.pdimetaBackup, 0⟩] := by
  have hword : ∀ index, ∀ hindex : index < 35, (layoutFlash layout size mark).load32 (4 * index) =
      (tableWords layout).get ⟨index, hindex⟩ := fun index => load32_table hpdimeta hbackup
  have hsize : (layoutFlash layout size mark) 6 = 28 := by
    have hbyte := Memory.byteAt_load32 (layoutFlash layout size mark) 4 (show 2 < 4 by decide)
    rw [hword 1 (by decide)] at hbyte
    exact hbyte.symm.trans (show byteAt (0x041C0000 : UInt32).toNat 2 = 28 by decide)
  have hentries : (layoutFlash layout size mark) 7 = 4 := by
    have hbyte := Memory.byteAt_load32 (layoutFlash layout size mark) 4 (show 3 < 4 by decide)
    rw [hword 1 (by decide)] at hbyte
    exact hbyte.symm.trans (show byteAt (0x041C0000 : UInt32).toNat 3 = 4 by decide)
  refine ⟨hword 0 (by decide), ?_⟩
  have hentry : ∀ index, ∀ hindex : 7 * index + 4 < 35,
      FptEntry.ofBytes (dataAt (layoutFlash layout size mark) (UInt32.ofNat (28 * index))) =
        ⟨(tableWords layout).get ⟨7 * index, show 7 * index < 35 by omega⟩,
          (tableWords layout).get ⟨7 * index + 3, show 7 * index + 3 < 35 by omega⟩,
          (tableWords layout).get ⟨7 * index + 4, hindex⟩⟩ := by
    intro index hindex
    have hbase : (UInt32.ofNat (28 * index)).toNat = 28 * index :=
      UInt32.toNat_ofNat_of_lt' (show 28 * index < 2 ^ 32 by omega)
    rw [FptEntry.ofBytes, load32_dataAt, load32_dataAt, load32_dataAt, hbase, ← hword, ← hword,
      ← hword]
    congr 2 <;> omega
  rw [tableEntries, tableHdr, FptHdr.ofBytes, hsize, hentries]
  change [1, 2, 3, 4].map (fun index => FptEntry.ofBytes (dataAt (layoutFlash layout size mark)
    (UInt32.ofNat (28 * index)))) = _
  rw [List.map_cons, List.map_cons, List.map_cons, List.map_cons, List.map_nil,
    hentry 1 (by decide), hentry 2 (by decide), hentry 3 (by decide), hentry 4 (by decide)]
  rfl

theorem named_layoutFlash (hpdimeta : ospiVersalPagesize < layout.pdimeta.toNat)
    (hbackup : ospiVersalPagesize < layout.pdimetaBackup.toNat) :
    Named (layoutFlash layout size mark) layout := by
  obtain ⟨hmagic, hentries⟩ := @tableEntries_layoutFlash layout size mark hpdimeta hbackup
  refine ⟨hmagic, ?_⟩
  rw [partitions, notedPartitions, hentries]
  rfl

end Example

/-! ## What is lost behind a full partition -/

section Lost

variable {info : FlashInfo} {layout : BootLayout} {content : Memory} {size len : UInt32}
  {mark : UInt8} {memory : Memory} {pdiData : UInt32} {a : Nat}

def SecondPage (info : FlashInfo) (a : Nat) : Prop := a % info.size = ospiVersalPagesize

private theorem secondPage_add (hpaged : ospiVersalPagesize < info.size) {start : Nat}
    (haligned : start % info.size = 0) : SecondPage info (start + ospiVersalPagesize) := by
  rw [SecondPage, Nat.add_mod, haligned, Nat.zero_add, Nat.mod_mod, Nat.mod_eq_of_lt hpaged]

private theorem sector_of_secondPage (hpaged : ospiVersalPagesize < info.size) {start : Nat}
    (haligned : start % info.size = 0) :
    (start + ospiVersalPagesize) / info.size * info.size = start := by
  obtain ⟨sectors, rfl⟩ := Nat.dvd_of_mod_eq_zero haligned
  rw [Nat.mul_add_div info.size_pos, Nat.div_eq_of_lt hpaged, Nat.add_zero, Nat.mul_comm]

private theorem SecondPage.not_first (h : SecondPage info a) {start : Nat}
    (haligned : start % info.size = 0) : a < start ∨ start + ospiVersalPagesize ≤ a := by
  obtain ⟨sectors, hsectors⟩ := Nat.dvd_of_mod_eq_zero haligned
  rcases Nat.lt_or_ge a start with hlt | hge
  · exact .inl hlt
  · obtain ⟨offset, rfl⟩ := Nat.exists_eq_add_of_le hge
    rw [SecondPage, hsectors, Nat.mul_add_mod] at h
    have hle := Nat.mod_le offset info.size
    exact .inr (by omega)

private theorem SecondPage.not_inPage (h : SecondPage info a) {base : UInt32}
    (haligned : base.toNat % info.size = 0) : ¬ InPage base a := by
  have hfirst := h.not_first haligned
  rintro ⟨hlow, hhigh⟩
  omega

private theorem safeErased_full {offset count : UInt32} (h : content a = 0xFF) :
    safeErased info content offset count a = 0xFF := by
  rw [safeErased, Memory.erase]
  split
  · rfl
  · exact h

theorem safeErased_range {offset count : UInt32} (haligned : offset.toNat % info.size = 0)
    (hless : count.toNat < info.totalSize) (hlow : offset.toNat ≤ a)
    (hhigh : a < offset.toNat + (count.toNat / info.size + 1) * info.size) :
    safeErased info content offset count a = 0xFF := by
  rw [safeErased, eraseStart_of_aligned haligned, eraseEnd_of_aligned haligned hless,
    Nat.add_sub_cancel_left]
  exact Memory.erase_inside _ hlow hhigh

private theorem metaReady_full (h : content a = 0xFF) : metaReady info layout content a = 0xFF := by
  rw [metaReady]
  split
  · exact safeErased_full h
  · exact h

private theorem flashed_full (hplaced : Placed info layout)
    (hfull : safeErased info (metaReady info layout content) layout.default.base len a = 0xFF)
    (himage : a < layout.default.start ∨ layout.default.start + roundUp len ≤ a)
    (hfirst : a < layout.default.start ∨ layout.default.start + ospiVersalPagesize ≤ a)
    (hpage : ¬ InPage layout.pdimeta a) :
    flashed info layout content memory pdiData len a = 0xFF := by
  rw [flashed, metaWritten_outside hplaced.paged hplaced.pdimeta hpage, imageWritten,
    written_outside hfirst, written_outside himage, hfull]

private theorem Partition.Placed.erased_full {partition : Partition} (h : partition.Placed info)
    (hless : size.toNat < info.totalSize) (hfull : size.toNat = partition.size.toNat)
    (hlow : partition.start ≤ a) (hhigh : a < partition.stop + info.size) :
    safeErased info content partition.base size a = 0xFF := by
  have hwhole := Nat.div_mul_cancel (Nat.dvd_of_mod_eq_zero h.whole)
  have hstop : partition.stop = partition.start + size.toNat := by
    rw [hfull]
    rfl
  refine safeErased_range h.aligned hless hlow ?_
  change a < partition.start + _
  rw [Nat.succ_mul, hfull, hwhole]
  omega

private theorem imageCopied_behind (hplaced : Placed info layout)
    (hless : size.toNat < info.totalSize)
    (hfull : size.toNat = layout.backup.size.toNat)
    (hlow : layout.backup.stop + ospiVersalPagesize ≤ a)
    (hhigh : a < layout.backup.stop + info.size) :
    imageCopied info layout content size a = 0xFF := by
  have hpages : 256 * (size.toNat / 256 + 1) = size.toNat + 256 := by
    obtain ⟨pages, hpages⟩ : 256 ∣ layout.backup.size.toNat :=
      Nat.dvd_trans info.wholePages (Nat.dvd_of_mod_eq_zero hplaced.backup.whole)
    omega
  have hstop : layout.backup.stop = layout.backup.start + size.toNat := by
    rw [hfull]
    rfl
  rw [ospiVersalPagesize] at hlow
  rw [imageCopied, copiedPages_outside (by omega)]
  exact hplaced.backup.erased_full hless hfull (by omega) hhigh

private theorem Partition.Placed.stop_aligned {partition : Partition} (h : partition.Placed info) :
    partition.stop % info.size = 0 := by
  rw [Partition.stop, ← Partition.start, Nat.add_mod, h.aligned, h.whole]
  exact Nat.mod_eq_of_lt info.size_pos

private theorem Partition.Placed.sector_behind {partition : Partition} (h : partition.Placed info)
    (hstop : partition.stop ≠ info.totalSize) : partition.stop + info.size ≤ info.totalSize := by
  have hlt := Nat.lt_of_le_of_ne h.inside hstop
  obtain ⟨sectors, hsectors⟩ := Nat.dvd_of_mod_eq_zero h.stop_aligned
  rw [SectorGeometry.totalSize, hsectors] at hlt ⊢
  rw [← Nat.mul_succ]
  exact Nat.mul_le_mul_left _ (Nat.lt_of_mul_lt_mul_left hlt)

private theorem layoutFlash_zero (htable : ospiVersalPagesize ≤ a)
    (hpage : ¬ InPage layout.pdimeta a)
    (hpageBackup : ¬ InPage layout.pdimetaBackup a) (hstart : a ≠ layout.backup.start) :
    layoutFlash layout size mark a = 0 := by
  rw [layoutFlash_outside htable hpage hpageBackup, if_neg hstart]

private theorem flashed_behindBackup (hplaced : Placed info layout)
    (hbackup : layout.backup.base ≠ 0)
    (hfits : len ≤ layout.default.size) (hfull : size.toNat = layout.backup.size.toNat)
    (hstop : layout.backup.stop ≠ info.totalSize)
    (hout : ¬ layout.default.Has (layout.backup.stop + ospiVersalPagesize)) :
    flashed info layout (backedUp info layout content size) memory pdiData len
      (layout.backup.stop + ospiVersalPagesize) = 0xFF := by
  have hpaged := hplaced.paged
  have hbehind := hplaced.backup.sector_behind hstop
  have hless : size.toNat < info.totalSize := hplaced.backup.less hbackup (Nat.le_of_eq hfull)
  have hsecond := secondPage_add hpaged hplaced.backup.stop_aligned
  have hround := hplaced.default.roundUp_le hfits
  refine flashed_full hplaced (safeErased_full (metaReady_full ?_)) ?_
    (hsecond.not_first hplaced.default.aligned) (hsecond.not_inPage hplaced.pdimeta.aligned)
  · rw [backedUp, metaWritten_outside hpaged hplaced.pdimetaBackup
      (hsecond.not_inPage hplaced.pdimetaBackup.aligned)]
    exact imageCopied_behind hplaced hless hfull (Nat.le_refl _) (by omega)
  · rw [Partition.Has] at hout
    omega

private theorem not_flashed_fullBackup (hplaced : Placed info layout)
    (hbackup : layout.backup.base ≠ 0)
    (hdefault : layout.default.base ≠ 0) (hnonempty : 0 < size.toNat)
    (hfits : len ≤ layout.default.size) (hfull : size.toNat = layout.backup.size.toNat)
    (hstop : layout.backup.stop ≠ info.totalSize) {image : Nat → UInt8} :
    ¬ Flashed info layout (layoutFlash layout size mark) image size len
      (flashed info layout (backedUp info layout (layoutFlash layout size mark) size) memory
        pdiData len) := by
  have hpaged := hplaced.paged
  have haligned := hplaced.backup.stop_aligned
  have hbehind := hplaced.backup.sector_behind hstop
  have hless : size.toNat < info.totalSize := hplaced.backup.less hbackup (Nat.le_of_eq hfull)
  have hstart : layout.backup.start < layout.backup.stop := by
    rw [Partition.stop, ← Partition.start]
    omega
  intro hflashed
  by_cases hhas : layout.default.Has (layout.backup.stop + ospiVersalPagesize)
  · -- the default partition starts where the backup stops, and is erased before it is copied
    have hin : layout.default.Has layout.backup.stop := by
      rw [← sector_of_secondPage hpaged haligned]
      exact hplaced.default.has_sector hhas
    obtain ⟨hlow, hhigh⟩ := hin
    have hsame : layout.default.start = layout.backup.stop := by
      have happart := hplaced.apart
      omega
    have hstartDefault : layout.default.Has layout.default.start := ⟨Nat.le_refl _, by omega⟩
    have hstartBackup : layout.backup.Has layout.backup.start := ⟨Nat.le_refl _, hstart⟩
    have htable : ospiVersalPagesize < layout.default.start :=
      hplaced.page_le hdefault hplaced.default.aligned
    have hcopied := hflashed.copied 0 hnonempty
    rw [Nat.add_zero, Nat.add_zero, layoutFlash_zero (Nat.le_of_lt htable)
        (fun hin => (hplaced.pdimeta.page hplaced hin).2.1 hstartDefault)
        (fun hin => (hplaced.pdimetaBackup.page hplaced hin).2.1 hstartDefault) (by omega),
      flashed_full hplaced (safeErased_full (metaReady_full ?_)) (.inl (by omega)) (.inl (by omega))
        (fun hin => (hplaced.pdimeta.page hplaced hin).2.2 hstartBackup)] at hcopied
    · exact absurd hcopied (by decide)
    · have hfirst := @imageCopied_inside info layout (layoutFlash layout size mark) size hplaced hless
        0 hnonempty (.inr (by omega))
      rw [Nat.add_zero, Nat.add_zero] at hfirst
      rw [backedUp, metaWritten_outside hpaged hplaced.pdimetaBackup
        (fun hin => (hplaced.pdimetaBackup.page hplaced hin).2.2 hstartBackup), hfirst]
      exact hplaced.backup.erased_full hless hfull (by omega) (by omega)
  · have hsecond := secondPage_add hpaged haligned
    have hnotBackup : ¬ layout.backup.Has (layout.backup.stop + ospiVersalPagesize) :=
      fun hin => absurd hin.2 (Nat.not_lt_of_le (Nat.le_add_right _ _))
    have hpage := hsecond.not_inPage hplaced.pdimeta.aligned
    have hpageBackup := hsecond.not_inPage hplaced.pdimetaBackup.aligned
    have hkept := hflashed.kept (layout.backup.stop + ospiVersalPagesize) (by omega) hhas hnotBackup
      hpage hpageBackup
    rw [layoutFlash_zero (Nat.le_add_left _ _) hpage hpageBackup (by omega),
      flashed_behindBackup hplaced hbackup hfits hfull hstop hhas] at hkept
    exact absurd hkept (by decide)

/-- One page of an empty image is written all the same. -/
private theorem flashed_empty (hplaced : Placed info layout) (hless : len.toNat < info.totalSize)
    (hempty : len.toNat = 0) (hpage : ¬ InPage layout.pdimeta layout.default.start) :
    flashed info layout content memory pdiData len layout.default.start =
      dataAt memory pdiData 0 := by
  have hnone : roundUp len = 0 := by
    rw [roundUp, toNat_pageCount, hempty]
  have hfresh : safeErased info (metaReady info layout content) layout.default.base len
      layout.default.start = 0xFF :=
    safeErased_range hplaced.default.aligned hless (Nat.le_refl _)
      (Nat.lt_add_of_pos_right (Nat.mul_pos (Nat.succ_pos _) info.size_pos))
  have hbase : layout.default.start = layout.default.base.toNat + 0 := rfl
  rw [flashed, metaWritten_outside hplaced.paged hplaced.pdimeta hpage, imageWritten, hbase,
    written_inside (by decide), written_outside (.inr (by omega)), ← hbase, hfresh, Memory.full_and]

private theorem not_flashed_fullDefault (hplaced : Placed info layout)
    (hdefault : layout.default.base ≠ 0)
    (hnonempty : 0 < size.toNat) (hfits : len ≤ layout.default.size)
    (hfull : len.toNat = layout.default.size.toNat)
    (hstop : layout.default.stop ≠ info.totalSize) (hmark : mark ≠ dataAt memory pdiData 0) :
    ¬ Flashed info layout (layoutFlash layout size mark) (dataAt memory pdiData) size len
      (flashed info layout (backedUp info layout (layoutFlash layout size mark) size) memory
        pdiData len) := by
  have hpaged := hplaced.paged
  have haligned := hplaced.default.stop_aligned
  have hbehind := hplaced.default.sector_behind hstop
  have hless : len.toNat < info.totalSize := hplaced.default.less hdefault (Nat.le_of_eq hfull)
  have hround := hplaced.default.roundUp_le hfits
  have hstart : layout.default.stop = layout.default.start + len.toNat := by
    rw [hfull]
    rfl
  intro hflashed
  have hsecond := secondPage_add hpaged haligned
  by_cases hhas : layout.backup.Has (layout.default.stop + ospiVersalPagesize)
  · -- the backup starts where the default partition stops
    have hin : layout.backup.Has layout.default.stop := by
      rw [← sector_of_secondPage hpaged haligned]
      exact hplaced.backup.has_sector hhas
    obtain ⟨hlow, hhigh⟩ := hin
    have hsame : layout.backup.start = layout.default.stop := by
      have happart := hplaced.apart
      omega
    have hstartBackup : layout.backup.Has layout.backup.start := ⟨Nat.le_refl _, by omega⟩
    have htable : ospiVersalPagesize < layout.default.start :=
      hplaced.page_le hdefault hplaced.default.aligned
    have hnotPage := fun hin => (hplaced.pdimeta.page hplaced hin).2.2 hstartBackup
    have hcopied := hflashed.copied 0 hnonempty
    rw [Nat.add_zero, Nat.add_zero] at hcopied
    rcases Nat.eq_zero_or_pos len.toNat with hempty | hpos
    · have hat : layout.backup.start = layout.default.start := by omega
      have hmarked : layoutFlash layout size mark layout.backup.start = mark := by
        rw [layoutFlash_outside (by omega) hnotPage
          (fun hin => (hplaced.pdimetaBackup.page hplaced hin).2.2 hstartBackup), if_pos rfl]
      rw [hat, flashed_empty hplaced hless hempty (hat ▸ hnotPage), ← hat, hmarked] at hcopied
      exact hmark hcopied.symm
    · have hstartDefault : layout.default.Has layout.default.start := ⟨Nat.le_refl _, by omega⟩
      have hsectors : info.size ≤ len.toNat := by
        rw [hfull]
        exact Nat.le_of_dvd (by omega) (Nat.dvd_of_mod_eq_zero hplaced.default.whole)
      rw [layoutFlash_zero (Nat.le_of_lt htable)
          (fun hin => (hplaced.pdimeta.page hplaced hin).2.1 hstartDefault)
          (fun hin => (hplaced.pdimetaBackup.page hplaced hin).2.1 hstartDefault) (by omega),
        flashed_full hplaced (hplaced.default.erased_full hless hfull (by omega) (by omega))
          (.inr (by omega)) (.inr (by omega)) hnotPage] at hcopied
      exact absurd hcopied (by decide)
  · have hnotDefault : ¬ layout.default.Has (layout.default.stop + ospiVersalPagesize) :=
      fun hin => absurd hin.2 (Nat.not_lt_of_le (Nat.le_add_right _ _))
    have hpage := hsecond.not_inPage hplaced.pdimeta.aligned
    have hpageBackup := hsecond.not_inPage hplaced.pdimetaBackup.aligned
    have hkept := hflashed.kept (layout.default.stop + ospiVersalPagesize) (by omega) hnotDefault hhas
      hpage hpageBackup
    have hother : layout.default.stop + ospiVersalPagesize ≠ layout.backup.start := by
      have hfirst := hsecond.not_first hplaced.backup.aligned
      have hpos : 0 < ospiVersalPagesize := by decide
      omega
    rw [layoutFlash_zero (Nat.le_add_left _ _) hpage hpageBackup hother,
      flashed_full hplaced (hplaced.default.erased_full hless hfull (by omega) (by omega))
        (.inr (by omega)) (hsecond.not_first hplaced.default.aligned) hpage] at hkept
    exact absurd hkept (by decide)

private theorem not_flashed_overlap (hplaced : Placed info layout)
    (hbackup : layout.backup.base ≠ 0)
    (hdefault : layout.default.base ≠ 0) (hsize : size ≤ layout.backup.size)
    (hfits : len ≤ layout.default.size)
    (hfreeDefault : len.toNat < layout.default.size.toNat ∨ layout.default.stop = info.totalSize)
    (hfirst : layout.default.start < layout.backup.start)
    (hreach : layout.backup.start < layout.default.start + size.toNat) (hzero : mark ≠ 0)
    (hmagic : (metaAt (backedUp info layout (layoutFlash layout size mark) size)
      layout.pdimeta).fptPdiMagic = fptPdimetaMagic) {image : Nat → UInt8} :
    ¬ Flashed info layout (layoutFlash layout size mark) image size len
      (flashed info layout (backedUp info layout (layoutFlash layout size mark) size) memory
        pdiData len) := by
  have hpaged := hplaced.paged
  have hcapacity := UInt32.le_iff_toNat_le.1 hsize
  have hless : size.toNat < info.totalSize := hplaced.backup.less hbackup hcapacity
  have hlenLess : len.toNat < info.totalSize :=
    hplaced.default.less hdefault (UInt32.le_iff_toNat_le.1 hfits)
  obtain ⟨distance, hdistance⟩ := Nat.exists_eq_add_of_le (Nat.le_of_lt hfirst)
  have hstop : layout.backup.stop = layout.backup.start + layout.backup.size.toNat := rfl
  have hinside := hplaced.backup.inside
  have hfar : 256 ≤ distance := by
    have hle := Nat.le_of_dvd (Nat.sub_pos_of_lt hfirst) (Nat.dvd_sub
      (Nat.dvd_of_mod_eq_zero hplaced.backup.aligned) (Nat.dvd_of_mod_eq_zero hplaced.default.aligned))
    have hpage : 256 < info.size := hpaged
    omega
  have hhas : layout.backup.Has (layout.backup.start + distance) :=
    ⟨Nat.le_add_right _ _, by omega⟩
  have hstartBackup : layout.backup.Has layout.backup.start := ⟨Nat.le_refl _, by omega⟩
  have hstartDefault : layout.default.Has layout.default.start := by
    refine ⟨Nat.le_refl _, ?_⟩
    rcases hfreeDefault with hlen | hend
    · change _ < layout.default.start + layout.default.size.toNat
      omega
    · omega
  have htable : ospiVersalPagesize < layout.default.start :=
    hplaced.page_le hdefault hplaced.default.aligned
  have hblank := @blank_safeErased info (layoutFlash layout size mark) layout.backup.base size
    hplaced.backup.aligned hless
  -- the first page of the backup has been written when it is read
  have hvalue : imageCopied info layout (layoutFlash layout size mark) size
      (layout.backup.start + distance) = 0 := by
    have hagain : layout.default.start + distance = layout.backup.base.toNat + 0 := hdistance.symm
    rw [imageCopied, Partition.start, Partition.start, copiedPages_inside hblank (by omega)]
    change copiedPages _ layout.default.start _ _ (layout.default.start + distance) = 0
    rw [hagain, copiedPages_inside (hblank.sub (Nat.le_refl _) (by omega)) (by omega), Nat.zero_div,
      copiedPages, Nat.add_zero, safeErased_outside hplaced.backup.aligned hless (.inl hfirst)]
    exact layoutFlash_zero (Nat.le_of_lt htable)
      (fun hin => (hplaced.pdimeta.page hplaced hin).2.1 hstartDefault)
      (fun hin => (hplaced.pdimetaBackup.page hplaced hin).2.1 hstartDefault) (by omega)
  intro hflashed
  have hcopied := hflashed.copied distance (by omega)
  rw [flashed_outside hplaced hlenLess hfits hfreeDefault hmagic (by omega)
      (fun hin => hplaced.not_backup hin hhas)
      (fun hin => (hplaced.pdimeta.page hplaced hin).2.2 hhas), backedUp,
    metaWritten_outside hpaged hplaced.pdimetaBackup
      (fun hin => (hplaced.pdimetaBackup.page hplaced hin).2.2 hhas), hvalue, ← hdistance,
    layoutFlash_outside (by omega) (fun hin => (hplaced.pdimeta.page hplaced hin).2.2 hstartBackup)
      (fun hin => (hplaced.pdimetaBackup.page hplaced hin).2.2 hstartBackup), if_pos rfl] at hcopied
  exact hzero hcopied.symm

end Lost

/-! ## Exactly when nothing else changes -/

/-- The request is not refused on a flash with such partitions where this size is recorded. -/
structure Taken (call : FlashCall) (layout : BootLayout) (size : UInt32) : Prop where
  fresh : call.rh.rhAlreadyFlashed = false
  default : layout.default.base ≠ 0
  backup : layout.backup.base ≠ 0
  pdimeta : layout.pdimeta ≠ 0
  pdimetaBackup : layout.pdimetaBackup ≠ 0
  nonempty : size ≠ 0
  fits : size ≤ layout.backup.size

/-- Whatever else is on the flash: when 0 is returned, the flash holds what it has to. -/
def FlashesExactly (call : FlashCall) (layout : BootLayout) (size pdiData len : UInt32) : Prop :=
  ∀ content result chip, Named content layout → Recorded content layout.pdimeta size →
    (metaAt content layout.pdimetaBackup).fptPdiMagic = fptPdimetaMagic →
    Prog.Returns (okStep call.info.toSectorGeometry) ⟨content, []⟩ call.prog result chip →
    result.ret = 0 →
      Flashed call.info layout content (dataAt call.env.memory pdiData) size len chip.content

section Exactly

variable {call : FlashCall} {layout : BootLayout} {content : Memory} {pdiData len size : UInt32}

theorem exists_flashedWith (hcall : BasePdi call pdiData len) (hnamed : Named content layout)
    (hplaced : Placed call.info layout) (hbooted : BootedFromDefault call.env layout)
    (hsource : layout.default.start + (metaAt content layout.pdimeta).fptPdiSize.toNat ≤
      call.info.totalSize) (haccepts : Accepts call layout content len) :
    ∃ result chip, Prog.Returns (okStep call.info.toSectorGeometry) ⟨content, []⟩ call.prog
        result chip ∧ result.ret = 0 ∧
      chip.content = flashedWith call.info layout content call.env.memory pdiData len := by
  obtain ⟨result, chip, hrun, hend⟩ := (@safe_flashEnd call pdiData len layout content _
    ⟨content, []⟩ hcall (byContent_luckyStep _) (transfers_luckyStep _) hnamed hplaced hbooted hsource
      rfl).exists_returns fun chip op hop => luckyStep_progress _ chip hop
  have hret : result.ret = 0 := by
    by_contra hfailed
    exact not_outOfMemory_luckyStep _ (hend.failed hfailed haccepts)
  exact ⟨result, chip, hrun.mono fun _ _ _ _ => And.left, hret, (hend.done hret).2⟩

theorem accepts_layoutFlash (hplaced : Placed call.info layout) (htaken : Taken call layout size)
    (hfits : len ≤ layout.default.size) (mark : UInt8) :
    Accepts call layout (layoutFlash layout size mark) len := by
  obtain ⟨⟨hmagic, hsize⟩, -⟩ := @recorded_layoutFlash _ _ size mark hplaced
  refine ⟨htaken.fresh, ⟨htaken.default, htaken.backup, htaken.pdimeta, htaken.pdimetaBackup, hmagic,
    ?_, ?_⟩, hfits⟩
  · rw [hsize]
    exact htaken.nonempty
  · rw [hsize]
    exact htaken.fits

private theorem spillFree_of_flashesExactly (hcall : BasePdi call pdiData len)
    (hplaced : Placed call.info layout) (hbooted : BootedFromDefault call.env layout)
    (hfits : len ≤ layout.default.size)
    (hsource : layout.default.start + size.toNat ≤ call.info.totalSize)
    (hexactly : FlashesExactly call layout size pdiData len) (htaken : Taken call layout size) :
    SpillFree call.info layout size len := by
  obtain ⟨mark, hzero, hmark⟩ : ∃ mark : UInt8, mark ≠ 0 ∧ mark ≠ dataAt call.env.memory pdiData 0 := by
    by_cases hone : dataAt call.env.memory pdiData 0 = 1
    · exact ⟨2, by decide, by rw [hone]; decide⟩
    · exact ⟨1, by decide, fun hsame => hone hsame.symm⟩
  have hpdimeta := hplaced.page_le htaken.pdimeta hplaced.pdimeta.aligned
  have hbackup := hplaced.page_le htaken.pdimetaBackup hplaced.pdimetaBackup.aligned
  have hnamed := @named_layoutFlash layout size mark hpdimeta hbackup
  obtain ⟨hrecorded, hvalid⟩ := @recorded_layoutFlash _ _ size mark hplaced
  obtain ⟨result, chip, hrun, hret, hleft⟩ := exists_flashedWith hcall hnamed hplaced hbooted
    (by rw [hrecorded.2]; exact hsource) (accepts_layoutFlash hplaced htaken hfits mark)
  have hflashed := hexactly _ result chip hnamed hrecorded hvalid hrun hret
  rw [hleft, flashedWith, hrecorded.2] at hflashed
  have hnonempty : 0 < size.toNat := by
    rw [Nat.pos_iff_ne_zero, ne_eq, ← UInt32.toNat_zero, UInt32.toNat_inj]
    exact htaken.nonempty
  have hcapacity := UInt32.le_iff_toNat_le.1 htaken.fits
  have hlen := UInt32.le_iff_toNat_le.1 hfits
  have hfreeBackup : size.toNat < layout.backup.size.toNat ∨
      layout.backup.stop = call.info.totalSize := by
    by_contra hfull
    obtain ⟨hsize, hstop⟩ := not_or.1 hfull
    exact not_flashed_fullBackup hplaced htaken.backup htaken.default hnonempty hfits
      (Nat.le_antisymm hcapacity (Nat.le_of_not_lt hsize)) hstop hflashed
  have hfreeDefault : len.toNat < layout.default.size.toNat ∨
      layout.default.stop = call.info.totalSize := by
    by_contra hfull
    obtain ⟨hsize, hstop⟩ := not_or.1 hfull
    exact not_flashed_fullDefault hplaced htaken.default hnonempty hfits
      (Nat.le_antisymm hlen (Nat.le_of_not_lt hsize)) hstop hmark hflashed
  refine ⟨hfreeBackup, hfreeDefault, fun hfirst => ?_⟩
  by_contra hreach
  have hless : size.toNat < call.info.totalSize := hplaced.backup.less htaken.backup hcapacity
  have hlike := @metaAt_backedUp call.info layout (layoutFlash layout size mark) size hplaced hless
    hfreeBackup
  exact not_flashed_overlap hplaced htaken.backup htaken.default htaken.fits hfits hfreeDefault hfirst
    (Nat.lt_of_not_le hreach) hzero (hlike.magic.trans hrecorded.1) hflashed

/-- Whatever else is on the flash, a base PDI request that returns 0 leaves the new image, the copy of
the old one and the metadata of both, and nothing else has changed: exactly as long as neither
partition is full in front of another sector, and the bytes that are copied end before the backup. -/
theorem flashesExactly_iff (hcall : BasePdi call pdiData len) (hplaced : Placed call.info layout)
    (hbooted : BootedFromDefault call.env layout) (hfits : len ≤ layout.default.size)
    (hsource : layout.default.start + size.toNat ≤ call.info.totalSize) :
    FlashesExactly call layout size pdiData len ↔
      (Taken call layout size → SpillFree call.info layout size len) := by
  constructor
  · exact spillFree_of_flashesExactly hcall hplaced hbooted hfits hsource
  · intro hfree content result chip hnamed hrecorded _ hrun hret
    have hend := (@safe_flashEnd call pdiData len layout content _ ⟨content, []⟩ hcall
      (byContent_okStep _) (transfers_okStep _) hnamed hplaced hbooted
      (by rw [hrecorded.2]; exact hsource) rfl).returns hrun
    obtain ⟨haccepts, hleft⟩ := hend.done hret
    have hback := haccepts.backable
    have htaken : Taken call layout size := by
      refine ⟨haccepts.fresh, hback.default, hback.backup, hback.pdimeta, hback.pdimetaBackup, ?_, ?_⟩
      · rw [← hrecorded.2]
        exact hback.nonempty
      · rw [← hrecorded.2]
        exact hback.fits
    rw [hleft]
    exact flashed_flashedWith hplaced hback hfits hrecorded.2 hsource (hfree htaken)

end Exactly

def abLayout : BootLayout where
  default := ⟨0x100000, 0x100000⟩
  backup := ⟨0x200000, 0x100000⟩
  pdimeta := 0x80000
  pdimetaBackup := 0x90000

def defaultCall : FlashCall where
  info := gigadeviceInfo
  rh := ⟨0x1000, false⟩
  request := ⟨false, false⟩
  env := ⟨32, 32, 0x7FBF0000, pdiMemory⟩
  payload := BootPayload.zero

theorem basePdi_defaultCall : BasePdi defaultCall 0x11F0 256 :=
  ⟨rfl, by decide +kernel, rfl, rfl⟩

theorem placed_abLayout : Placed gigadeviceInfo abLayout where
  sectors := by decide
  default := ⟨by decide, by decide, by decide⟩
  backup := ⟨by decide, by decide, by decide⟩
  pdimeta := ⟨by decide, by decide, fun h => absurd h.1 (by decide), fun h => absurd h.1 (by decide)⟩
  pdimetaBackup :=
    ⟨by decide, by decide, fun h => absurd h.1 (by decide), fun h => absurd h.1 (by decide)⟩
  apart := .inl (by decide)
  metaApart := by decide

theorem bootedFromDefault_abLayout : BootedFromDefault defaultCall.env abLayout :=
  ⟨by decide, by decide⟩

theorem taken_abLayout : Taken defaultCall abLayout 0x1000 :=
  ⟨rfl, by decide, by decide, by decide, by decide, by decide, by decide⟩

/-- An image of 4 KiB is backed up as it has to be. -/
theorem flashed_abLayout : ∃ result chip,
    Prog.Returns (okStep gigadeviceInfo.toSectorGeometry) ⟨layoutFlash abLayout 0x1000 1, []⟩
      defaultCall.prog result chip ∧ result.ret = 0 ∧
    Flashed gigadeviceInfo abLayout (layoutFlash abLayout 0x1000 1)
      (dataAt defaultCall.env.memory 0x11F0) 0x1000 256 chip.content := by
  have hnamed := @named_layoutFlash abLayout 0x1000 1 (by decide) (by decide)
  obtain ⟨hrecorded, hvalid⟩ := @recorded_layoutFlash _ _ 0x1000 1 placed_abLayout
  obtain ⟨result, chip, hrun, hret, -⟩ := @exists_flashedWith defaultCall abLayout _ 0x11F0 256
    basePdi_defaultCall hnamed placed_abLayout bootedFromDefault_abLayout
    (by rw [hrecorded.2]; decide) (accepts_layoutFlash placed_abLayout taken_abLayout (by decide) 1)
  have hexactly : FlashesExactly defaultCall abLayout 0x1000 0x11F0 256 :=
    (flashesExactly_iff basePdi_defaultCall placed_abLayout bootedFromDefault_abLayout (by decide)
      (by decide)).2 fun _ => ⟨.inl (by decide), .inl (by decide), fun _ => by decide⟩
  have hflashed := hexactly _ result chip hnamed hrecorded hvalid hrun hret
  exact ⟨result, chip, hrun, hret, hflashed⟩

/-- With an old image of a whole mebibyte, the sector behind the backup is erased. -/
theorem not_flashesExactly_abLayout :
    ¬ FlashesExactly defaultCall abLayout 0x100000 0x11F0 256 ∧ ∃ result chip,
      Prog.Returns (okStep gigadeviceInfo.toSectorGeometry) ⟨layoutFlash abLayout 0x100000 1, []⟩
        defaultCall.prog result chip ∧ result.ret = 0 ∧
      layoutFlash abLayout 0x100000 1 0x300100 = 0 ∧ chip.content 0x300100 = 0xFF := by
  have hnamed := @named_layoutFlash abLayout 0x100000 1 (by decide) (by decide)
  obtain ⟨hrecorded, hvalid⟩ := @recorded_layoutFlash _ _ 0x100000 1 placed_abLayout
  have htaken : Taken defaultCall abLayout 0x100000 :=
    ⟨rfl, by decide, by decide, by decide, by decide, by decide, by decide⟩
  obtain ⟨result, chip, hrun, hret, hleft⟩ := @exists_flashedWith defaultCall abLayout _ 0x11F0 256
    basePdi_defaultCall hnamed placed_abLayout bootedFromDefault_abLayout
    (by rw [hrecorded.2]; decide) (accepts_layoutFlash placed_abLayout htaken (by decide) 1)
  have hpage : ¬ InPage abLayout.pdimeta 0x300100 := fun h => absurd h.2 (by decide)
  have hpageBackup : ¬ InPage abLayout.pdimetaBackup 0x300100 := fun h => absurd h.2 (by decide)
  have hbefore : layoutFlash abLayout 0x100000 1 0x300100 = 0 :=
    layoutFlash_zero (by decide) hpage hpageBackup (by decide)
  have haddress : abLayout.backup.stop + ospiVersalPagesize = 0x300100 := by decide
  have hout : ¬ abLayout.default.Has (abLayout.backup.stop + ospiVersalPagesize) :=
    fun h => absurd h.2 (by decide)
  have hafter : chip.content 0x300100 = 0xFF := by
    rw [hleft, flashedWith, hrecorded.2, ← haddress]
    exact flashed_behindBackup placed_abLayout (by decide) (by decide) (by decide) (by decide) hout
  refine ⟨fun hexactly => ?_, result, chip, hrun, hret, hbefore, hafter⟩
  have hflashed := hexactly _ result chip hnamed hrecorded hvalid hrun hret
  have hkept := hflashed.kept 0x300100 (by decide) (fun h => absurd h.2 (by decide))
    (fun h => absurd h.2 (by decide)) hpage hpageBackup
  rw [hafter, hbefore] at hkept
  exact absurd hkept (by decide)

end Vmr.Rmgmt
