import Vmr.Rmgmt.Redundancy

/-!
# When a request is tried again

The default partition is erased when an image cannot be written.  Its metadata still
records the old one, and the next request copies the erased bytes over the backup.
-/

namespace Vmr.Rmgmt

open Vmr.Lib Vmr.Flash

/-! ## Transfers that fail -/

/-- A NOR flash, with the transfers that fail noted. -/
def notedStep (info : SectorGeometry) (s : Chip × List OspiOp) (op : OspiOp) (answer : OspiAns op)
    (s' : Chip × List OspiOp) : Prop :=
  norStep info s.1 op answer s'.1 ∧
    (Succeeds op answer ∧ s'.2 = s.2 ∨ ¬ Succeeds op answer ∧ s'.2 = op :: s.2)

section Noted

variable {info : SectorGeometry} {chip chip' : Chip} {offset len : UInt32} {failed : List OspiOp}

private theorem returns_noted {α : Type} {p : OspiProg α} {value : α}
    (run : Prog.Returns (luckyStep info) chip p value chip') (failed : List OspiOp) :
    Prog.Returns (notedStep info) (chip, failed) p value (chip', failed) := by
  have hstep : ∀ (chip : Chip) (s : Chip × List OspiOp) op answer (chip' : Chip), s = (chip, failed) →
      luckyStep info chip op answer chip' →
      ∃ s', notedStep info s op answer s' ∧ s' = (chip', failed) := by
    rintro chip _ op answer chip' rfl hlucky
    exact ⟨(chip', failed), ⟨hlucky.1.1, .inl ⟨hlucky.1.2, rfl⟩⟩, rfl⟩
  obtain ⟨_, hrun, rfl⟩ := Prog.Exec.simulated hstep run rfl
  exact hrun

theorem returns_norStep {α : Type} {p : OspiProg α} {value : α} {s s' : Chip × List OspiOp}
    (run : Prog.Returns (notedStep info) s p value s') :
    Prog.Returns (norStep info) s.1 p value s'.1 := by
  have hstep : ∀ (s : Chip × List OspiOp) (chip : Chip) op answer (s' : Chip × List OspiOp),
      chip = s.1 → notedStep info s op answer s' →
      ∃ chip', norStep info chip op answer chip' ∧ chip' = s'.1 := by
    rintro s _ op answer s' rfl hnoted
    exact ⟨s'.1, hnoted.1, rfl⟩
  obtain ⟨_, hrun, rfl⟩ := Prog.Exec.simulated hstep run rfl
  exact hrun

private theorem exists_failedWrite (buf : Nat → UInt8) (hlen : len ≠ 0) :
    ∃ chip' data, Prog.Returns (notedStep info) (chip, failed)
        (ospiFlashWrite .clFlashBoot buf offset len) xstFailure
        (chip', .program offset 0 8 data :: failed) ∧ chip'.content = chip.content := by
  obtain ⟨pages, hpages⟩ : ∃ pages, (pageCount len).toNat = pages + 1 := by
    refine Nat.exists_eq_succ_of_ne_zero fun hnone => hlen ?_
    rw [toNat_pageCount] at hnone
    rw [← UInt32.toNat_inj, UInt32.toNat_zero]
    omega
  have haddress : getBaseAddress .clFlashBoot + offset + UInt32.ofNat (0 * ospiVersalPagesize) +
      UInt32.ofNat (8 * 0) = offset := by
    rw [boot_add, Nat.zero_mul, Nat.mul_zero]
    exact (UInt32.add_zero _).trans (UInt32.add_zero _)
  obtain ⟨chip', hrun, hkept⟩ : ∃ chip', Prog.Returns (notedStep info) (chip, failed)
      (ospiFlashWrite .clFlashBoot buf offset len) xstFailure
      (chip', .program (getBaseAddress .clFlashBoot + offset + UInt32.ofNat (0 * ospiVersalPagesize) +
        UInt32.ofNat (8 * 0)) 0 8 (fun i => buf (0 + i)) :: failed) ∧
      chip'.content = chip.content := by
    have hprogress : notedStep info (chip, failed) (.progress (UInt32.ofNat 0) (pageCount len)) ()
        (chip.issue (.progress (UInt32.ofNat 0) (pageCount len)), failed) :=
      ⟨rfl, .inl ⟨trivial, rfl⟩⟩
    have hprogram (chip : Chip) (address : UInt32) (source count : Nat) (data : Nat → UInt8) :
        notedStep info (chip, failed) (.program address source count data) false
          (chip.issue (.program address source count data),
            .program address source count data :: failed) :=
      ⟨.inr ⟨rfl, rfl⟩, .inr ⟨Bool.false_ne_true, rfl⟩⟩
    rw [ospiFlashWrite, hpages]
    exact ⟨_, .op hprogress (.op (hprogram _ _ _ _ _) (.refl _ _)), rfl⟩
  rw [haddress] at hrun
  exact ⟨chip', _, hrun, hkept⟩

private theorem exists_failedErase (hpart : len ≠ info.numSect * info.sectSize)
    (hsectors : (numSectors info (getBaseAddress .clFlashBoot + offset) len).toNat ≠ 0) :
    ∃ chip', Prog.Returns (notedStep info) (chip, failed)
        (ospiFlashErase info .clFlashBoot offset len) xstFailure
        (chip', .sectorErase offset :: failed) ∧ chip'.content = chip.content := by
  obtain ⟨sectors, hsectors⟩ := Nat.exists_eq_succ_of_ne_zero hsectors
  have haddress : getBaseAddress .clFlashBoot + offset + UInt32.ofNat 0 * info.sectSize = offset := by
    rw [boot_add]
    exact (congrArg (offset + ·) UInt32.zero_mul).trans (UInt32.add_zero _)
  obtain ⟨chip', hrun, hkept⟩ : ∃ chip', Prog.Returns (notedStep info) (chip, failed)
      (ospiFlashErase info .clFlashBoot offset len) xstFailure
      (chip', .sectorErase (getBaseAddress .clFlashBoot + offset + UInt32.ofNat 0 * info.sectSize) ::
        failed) ∧ chip'.content = chip.content := by
    rw [ospiFlashErase, flashErase, if_neg hpart, hsectors]
    exact ⟨chip.issue _, .op ⟨.inr ⟨rfl, rfl⟩, .inr ⟨Bool.false_ne_true, rfl⟩⟩ (.refl _ _), rfl⟩
  rw [haddress] at hrun
  exact ⟨chip', hrun, hkept⟩

end Noted

/-! ## Requests that fail -/

section Requests

variable {call : FlashCall} {layout : BootLayout} {content : Memory} {chip : Chip}
  {pdiData len : UInt32}

theorem prog_eq (hcall : BasePdi call pdiData len) (hfresh : call.rh.rhAlreadyFlashed = false) :
    call.prog = flashDefault call.info call.request call.env .zero pdiData len := by
  have himage := hcall.image
  unfold FlashCall.pdi FlashCall.xclbin at himage
  obtain ⟨⟨pdiOffset, pdiSize⟩, hinfo, hpdi⟩ := Option.map_eq_some_iff.1 himage
  obtain ⟨rfl, rfl⟩ := Prod.mk.inj hpdi
  unfold FlashCall.prog rmgmtFlashRpuPdi
  rw [hcall.message, hfresh, if_neg (by decide), hinfo]
  dsimp only
  rw [if_neg (by simp [hcall.partitioned])]

theorem exists_prepared (hcall : BasePdi call pdiData len) (hnamed : Named content layout)
    (hplaced : Placed call.info layout) (hbooted : BootedFromDefault call.env layout)
    (hsource : layout.default.start + (metaAt content layout.pdimeta).fptPdiSize.toNat ≤
      call.info.totalSize) (haccepts : Accepts call layout content len)
    (hchip : chip.content = content) :
    ∃ prepared chip', Prog.Returns (luckyStep call.info.toSectorGeometry) chip
        (prepareFlash call.info call.request call.env .zero len) (.ok prepared) chip' ∧
      ReadyToFlash call.info layout content len prepared chip' := by
  obtain ⟨result, chip', hrun, hprepared, hfailed⟩ := (@safe_prepared len layout content _ chip
    call.info call.request call.env (byContent_luckyStep _) (transfers_luckyStep _) hnamed hplaced
    hbooted hcall.backup hsource hchip).exists_returns fun chip op hop => luckyStep_progress _ chip hop
  cases result with
  | error ret =>
      exact absurd ((hfailed ret rfl).2 haccepts.backable haccepts.fits)
        (not_outOfMemory_luckyStep _)
  | ok prepared => exact ⟨prepared, chip', hrun, hprepared _ rfl⟩

theorem exists_erasedDefault (hcall : BasePdi call pdiData len) (hnamed : Named content layout)
    (hplaced : Placed call.info layout) (hbooted : BootedFromDefault call.env layout)
    (hsource : layout.default.start + (metaAt content layout.pdimeta).fptPdiSize.toNat ≤
      call.info.totalSize) (haccepts : Accepts call layout content len) (hlen : len ≠ 0)
    (hchip : chip.content = content) :
    ∃ result chip' data, Prog.Returns (notedStep call.info.toSectorGeometry) (chip, []) call.prog
        result (chip', [.program layout.default.base 0 8 data]) ∧
      result.ret ≠ 0 ∧ result.rhAlreadyFlashed = false ∧
      chip'.content = safeErased call.info (metaReady call.info layout (backedUp call.info layout
        content (metaAt content layout.pdimeta).fptPdiSize)) layout.default.base len := by
  obtain ⟨⟨payload, pdiMeta⟩, chip₁, hrun₁, hlayout, -, -, -, hready⟩ :=
    exists_prepared hcall hnamed hplaced hbooted hsource haccepts hchip
  change payload.layout = layout at hlayout
  subst hlayout
  have hinside : payload.defaultPartitionOffset.toNat + len.toNat ≤ call.info.totalSize :=
    Nat.le_trans (Nat.add_le_add_left (UInt32.le_iff_toNat_le.1 haccepts.fits) _)
      hplaced.default.inside
  obtain ⟨_, chip₂, hrun₂, rfl, herased⟩ := (safe_ospiFlashErase (transfers_luckyStep _) hinside
    hready).exists_returns fun chip op hop => luckyStep_progress _ chip hop
  obtain ⟨chip₃, data, hrun₃, hkept⟩ := @exists_failedWrite call.info.toSectorGeometry chip₂
    payload.defaultPartitionOffset len [] (dataAt (maskTag call.env.memory pdiData) pdiData) hlen
  refine ⟨⟨xstFailure, maskTag call.env.memory pdiData, false⟩, chip₃, data, ?_,
    show xstFailure ≠ 0 by decide, rfl, ?_⟩
  · rw [prog_eq hcall haccepts.fresh, flashDefault]
    refine (returns_noted hrun₁ []).bind ?_
    change Prog.Returns _ _ (writeDefault _ _ _ _ _ _) _ _
    rw [writeDefault]
    refine (returns_noted hrun₂ []).bind ?_
    rw [if_neg (by decide), programDefault]
    exact Prog.Returns.bind hrun₃ (.refl _ _)
  · rw [hkept, herased]
    rfl

private theorem exists_backedUp (hcall : BasePdi call pdiData len) (hnamed : Named content layout)
    (hplaced : Placed call.info layout) (hbooted : BootedFromDefault call.env layout)
    (hsource : layout.default.start + (metaAt content layout.pdimeta).fptPdiSize.toNat ≤
      call.info.totalSize) (haccepts : Accepts call layout content len)
    (hchip : chip.content = content) :
    ∃ result chip', Prog.Returns (notedStep call.info.toSectorGeometry) (chip, []) call.prog result
        (chip', [.sectorErase layout.default.base]) ∧
      result.ret ≠ 0 ∧ result.rhAlreadyFlashed = false ∧
      chip'.content = metaReady call.info layout (backedUp call.info layout content
        (metaAt content layout.pdimeta).fptPdiSize) := by
  obtain ⟨⟨payload, pdiMeta⟩, chip₁, hrun₁, hlayout, -, -, -, hready⟩ :=
    exists_prepared hcall hnamed hplaced hbooted hsource haccepts hchip
  change payload.layout = layout at hlayout
  subst hlayout
  have hcapacity := UInt32.le_iff_toNat_le.1 haccepts.fits
  have hinside : payload.defaultPartitionOffset.toNat + len.toNat ≤ call.info.totalSize :=
    Nat.le_trans (Nat.add_le_add_left hcapacity _) hplaced.default.inside
  have hless : len.toNat < call.info.totalSize :=
    hplaced.default.less haccepts.backable.default hcapacity
  obtain ⟨chip₂, hrun₂, hkept⟩ := @exists_failedErase call.info.toSectorGeometry chip₁
    payload.defaultPartitionOffset len []
    (fun hall => Nat.ne_of_lt hless (call.info.eq_wholeFlash_iff.1 hall)) (by
      rw [boot_add, toNat_numSectors hless hinside]
      exact Nat.ne_of_gt (Nat.add_pos_left (Nat.succ_pos _) _))
  refine ⟨⟨xstFailure, call.env.memory, false⟩, chip₂, ?_,
    show xstFailure ≠ 0 by decide, rfl, hkept.trans hready⟩
  rw [prog_eq hcall haccepts.fresh, flashDefault]
  refine (returns_noted hrun₁ []).bind ?_
  change Prog.Returns _ _ (writeDefault _ _ _ _ _ _) _ _
  rw [writeDefault]
  exact Prog.Returns.bind hrun₂ (.refl _ _)

private theorem not_boots {whole : List UInt8 → Prop} {partition : Partition} {flash : Memory}
    (hwhole : ∀ bytes, whole bytes → ∃ byte ∈ bytes.head?, byte ≠ 0xFF)
    (herased : flash partition.start = 0xFF) : ¬ partition.Boots whole flash := by
  rintro ⟨count, -, himage⟩
  obtain ⟨byte, hfirst, hbyte⟩ := hwhole _ himage
  cases count with
  | zero => cases hfirst
  | succ count =>
      rw [Memory.slice_succ, List.head?_cons, herased] at hfirst
      exact hbyte (Option.some.inj hfirst).symm

private theorem erasedDefault_outside {info : FlashInfo} {size : UInt32} {a : Nat}
    (hplaced : Placed info layout) (hless : size.toNat < info.totalSize)
    (hlenLess : len.toNat < info.totalSize) (hfree : SpillFree info layout size len)
    (ha : a < info.totalSize) (hdefault : ¬ layout.default.Has a) (hbackup : ¬ layout.backup.Has a)
    (hpage : ¬ InPage layout.pdimetaBackup a) :
    safeErased info (backedUp info layout content size) layout.default.base len a = content a := by
  rw [hplaced.default.erased_outside hlenLess hfree.default ha hdefault,
    backedUp_outside hplaced hless hfree.backup ha hbackup hpage]

private theorem metaAt_erasedDefault {info : FlashInfo} {size : UInt32}
    (hplaced : Placed info layout)
    (hless : size.toNat < info.totalSize) (hlenLess : len.toNat < info.totalSize)
    (hfree : SpillFree info layout size len) :
    (metaAt (safeErased info (backedUp info layout content size) layout.default.base len)
      layout.pdimeta).Like (metaAt content layout.pdimeta) := by
  refine metaAt_like fun a ha => ?_
  obtain ⟨hinside, hdefault, hbackup⟩ := hplaced.pdimeta.page hplaced ha
  exact erasedDefault_outside hplaced hless hlenLess hfree hinside hdefault hbackup
    (hplaced.pages_apart ha)

private theorem backedUp_erased {info : FlashInfo} {size : UInt32} (hplaced : Placed info layout)
    (hless : size.toNat < info.totalSize) (hnonempty : 0 < size.toNat)
    (hfits : size.toNat ≤ layout.backup.size.toNat) (hdefault : 0 < layout.default.size.toNat)
    (hfree : size.toNat < layout.backup.size.toNat ∨ layout.backup.stop = info.totalSize)
    (herased : content layout.default.start = 0xFF) :
    backedUp info layout content size layout.default.start = 0xFF ∧
      backedUp info layout content size layout.backup.start = 0xFF := by
  have hhas : layout.default.Has layout.default.start :=
    ⟨Nat.le_refl _, Nat.lt_add_of_pos_right hdefault⟩
  have hhasBackup : layout.backup.Has layout.backup.start :=
    ⟨Nat.le_refl _, Nat.lt_add_of_pos_right (Nat.lt_of_lt_of_le hnonempty hfits)⟩
  have hinside : layout.default.start < info.totalSize :=
    Nat.lt_of_lt_of_le hhas.2 hplaced.default.inside
  have happart : layout.default.start + 0 < layout.backup.start ∨
      layout.backup.start ≤ layout.default.start :=
    hplaced.apart.imp (Nat.lt_of_lt_of_le hhas.2) (Nat.le_trans (Nat.le_add_right _ _))
  constructor
  · rw [backedUp_outside hplaced hless hfree hinside (hplaced.not_backup hhas)
      fun hpage => (hplaced.pdimetaBackup.page hplaced hpage).2.1 hhas, herased]
  · have hcopied := @imageCopied_inside info layout content size hplaced hless 0 hnonempty happart
    rw [Nat.add_zero, Nat.add_zero,
      hplaced.backup.erased_outside hless hfree hinside (hplaced.not_backup hhas)] at hcopied
    rw [backedUp, metaWritten_outside hplaced.paged hplaced.pdimetaBackup
      fun hpage => (hplaced.pdimetaBackup.page hplaced hpage).2.2 hhasBackup, hcopied, herased]

/-- The default partition is erased, its metadata still records the old image, and the copy of what
is recorded leaves no image at all. -/
structure Retried (whole : List UInt8 → Prop) (info : FlashInfo) (layout : BootLayout)
    (size : UInt32) (flash : Memory) : Prop where
  named : Named flash layout
  backable : Backable flash layout
  recorded : (metaAt flash layout.pdimeta).fptPdiSize = size
  lost : ¬ Bootable whole layout (metaReady info layout (backedUp info layout flash size))

theorem retried_of_erasedDefault {whole : List UInt8 → Prop} {info : FlashInfo} {flash : Memory}
    (hwhole : ∀ bytes, whole bytes → ∃ byte ∈ bytes.head?, byte ≠ 0xFF) (hplaced : Placed info layout)
    (hnamed : Named content layout) (hback : Backable content layout)
    (hfits : len ≤ layout.default.size) (hlen : len ≠ 0)
    (hfree : SpillFree info layout (metaAt content layout.pdimeta).fptPdiSize len)
    (hleft : flash = safeErased info (metaReady info layout (backedUp info layout content
      (metaAt content layout.pdimeta).fptPdiSize)) layout.default.base len) :
    Retried whole info layout (metaAt content layout.pdimeta).fptPdiSize flash := by
  have hcapacity := UInt32.le_iff_toNat_le.1 hfits
  have hbackup := UInt32.le_iff_toNat_le.1 hback.fits
  have hless := hplaced.backup.less hback.backup hbackup
  have hlenLess := hplaced.default.less hback.default hcapacity
  have hnonempty : 0 < (metaAt content layout.pdimeta).fptPdiSize.toNat := by
    rw [Nat.pos_iff_ne_zero, ne_eq, ← UInt32.toNat_zero, UInt32.toNat_inj]
    exact hback.nonempty
  have hlenPos : 0 < len.toNat := by
    rw [Nat.pos_iff_ne_zero, ne_eq, ← UInt32.toNat_zero, UInt32.toNat_inj]
    exact hlen
  have hkept := @metaAt_backedUp info layout content _ hplaced hless hfree.backup
  rw [metaReady_of_magic (hkept.magic.trans hback.magic)] at hleft
  have hlike := @metaAt_erasedDefault layout content len info _ hplaced hless hlenLess hfree
  rw [← hleft] at hlike
  have htable : ∀ a < info.size, flash a = content a := by
    intro a ha
    have hdefault := size_le_of_aligned hplaced.default.aligned hback.default
    have hstart := size_le_of_aligned hplaced.backup.aligned hback.backup
    have hmeta := size_le_of_aligned hplaced.pdimetaBackup.aligned hback.pdimetaBackup
    have hinside : layout.default.start + layout.default.size.toNat ≤ info.totalSize :=
      hplaced.default.inside
    have hfirst : a < layout.default.start := Nat.lt_of_lt_of_le ha hdefault
    rw [hleft]
    refine erasedDefault_outside hplaced hless hlenLess hfree (by omega) ?_ ?_ ?_
    · exact fun hin => absurd hin.1 (Nat.not_le_of_lt hfirst)
    · exact fun hin => absurd hin.1 (Nat.not_le_of_lt (Nat.lt_of_lt_of_le ha hstart))
    · exact fun hin => absurd hin.1 (Nat.not_le_of_lt (Nat.lt_of_lt_of_le ha hmeta))
  have hback' : Backable flash layout :=
    ⟨hback.default, hback.backup, hback.pdimeta, hback.pdimetaBackup,
      hlike.magic.trans hback.magic, hlike.size ▸ hback.nonempty, hlike.size ▸ hback.fits⟩
  refine ⟨hnamed.congr hplaced.sectors htable, hback', hlike.size, ?_⟩
  have herased : flash layout.default.start = 0xFF := by
    rw [hleft]
    exact safeErased_range hplaced.default.aligned hlenLess (Nat.le_refl _)
      (Nat.lt_add_of_pos_right (Nat.mul_pos (Nat.succ_pos _) info.size_pos))
  obtain ⟨hdefault, hcopy⟩ := backedUp_erased hplaced hless hnonempty hbackup
    (Nat.lt_of_lt_of_le hlenPos hcapacity) hfree.backup herased
  have hkept' := @metaAt_backedUp info layout flash _ hplaced hless hfree.backup
  rw [metaReady_of_magic (hkept'.magic.trans hback'.magic)]
  rintro (hboots | hboots)
  · exact not_boots hwhole hdefault hboots
  · exact not_boots hwhole hcopy hboots

/-- A program that fails in a first request, and an erase that fails in a second one: then the copy
of the image is lost too, although both requests report their failure. -/
theorem lost_of_two_failures {whole : List UInt8 → Prop} {call' : FlashCall}
    {pdiData' len' : UInt32} (hwhole : ∀ bytes, whole bytes → ∃ byte ∈ bytes.head?, byte ≠ 0xFF)
    (hplaced : Placed call.info layout) (hbefore : Provisioned whole layout content)
    (hcall : BasePdi call pdiData len) (hcall' : BasePdi call' pdiData' len')
    (hinfo : call'.info = call.info) (hbooted : BootedFromDefault call.env layout)
    (hbooted' : BootedFromDefault call'.env layout) (haccepts : Accepts call layout content len)
    (hfresh' : call'.rh.rhAlreadyFlashed = false) (hfits' : len' ≤ layout.default.size)
    (hlen : len ≠ 0) (hsource : layout.default.start +
      (metaAt content layout.pdimeta).fptPdiSize.toNat ≤ call.info.totalSize)
    (hfree : SpillFree call.info layout (metaAt content layout.pdimeta).fptPdiSize len) :
    ∃ result chip₁ data result' chip₂,
      Prog.Returns (notedStep call.info.toSectorGeometry) (⟨content, []⟩, []) call.prog result
        (chip₁, [.program layout.default.base 0 8 data]) ∧
      result.ret ≠ 0 ∧ result.rhAlreadyFlashed = false ∧
      Prog.Returns (notedStep call.info.toSectorGeometry) (chip₁, []) call'.prog result'
        (chip₂, [.sectorErase layout.default.base]) ∧
      result'.ret ≠ 0 ∧ result'.rhAlreadyFlashed = false ∧ ¬ Bootable whole layout chip₂.content := by
  obtain ⟨result, chip₁, data, hrun, hret, hflag, hleft⟩ := exists_erasedDefault hcall hbefore.named
    hplaced hbooted hsource haccepts hlen (show (⟨content, []⟩ : Chip).content = content from rfl)
  have hretried := retried_of_erasedDefault hwhole hplaced hbefore.named haccepts.backable
    haccepts.fits hlen hfree hleft
  obtain ⟨result', chip₂, hrun', hret', hflag', hleft'⟩ := @exists_backedUp call' layout
    chip₁.content chip₁ _ _ hcall' hretried.named (hinfo ▸ hplaced) hbooted'
    (by rw [hretried.recorded, hinfo]; exact hsource) ⟨hfresh', hretried.backable, hfits'⟩ rfl
  refine ⟨result, chip₁, data, result', chip₂, hrun, hret, hflag, hinfo ▸ hrun', hret', hflag', ?_⟩
  rw [hleft', hretried.recorded, hinfo]
  exact hretried.lost

end Requests

theorem onePage_notErased (bytes : List UInt8) (h : OnePage bytes) :
    ∃ byte ∈ bytes.head?, byte ≠ 0xFF :=
  ⟨0, h.2.1, by decide⟩

theorem spillFree_pairFlash : SpillFree gigadeviceInfo abLayout
    (metaAt pairFlash abLayout.pdimeta).fptPdiSize 256 := by
  rw [recorded_pairFlash.2]
  exact ⟨.inl (by decide), .inl (by decide), fun _ => by decide⟩

theorem source_pairFlash : abLayout.default.start +
    (metaAt pairFlash abLayout.pdimeta).fptPdiSize.toNat ≤ gigadeviceInfo.totalSize := by
  rw [recorded_pairFlash.2]
  decide

theorem lost_pairFlash : ∃ result chip₁ data result' chip₂,
    Prog.Returns (notedStep gigadeviceInfo.toSectorGeometry) (⟨pairFlash, []⟩, []) defaultCall.prog
      result (chip₁, [.program 0x100000 0 8 data]) ∧
    result.ret ≠ 0 ∧ result.rhAlreadyFlashed = false ∧
    Prog.Returns (notedStep gigadeviceInfo.toSectorGeometry) (chip₁, []) defaultCall.prog result'
      (chip₂, [.sectorErase 0x100000]) ∧
    result'.ret ≠ 0 ∧ result'.rhAlreadyFlashed = false ∧ ¬ Bootable OnePage abLayout chip₂.content :=
  @lost_of_two_failures defaultCall abLayout pairFlash 0x11F0 256 OnePage defaultCall 0x11F0 256
    onePage_notErased placed_abLayout provisioned_pairFlash basePdi_defaultCall basePdi_defaultCall
    rfl bootedFromDefault_abLayout bootedFromDefault_abLayout accepts_pairFlash rfl (by decide)
    (by decide) source_pairFlash spillFree_pairFlash

end Vmr.Rmgmt
