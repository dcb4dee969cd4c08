import Vmr.Rmgmt.LostImage

/-!
# Requests with a backup

VMR runs from the default partition and every request asks for a backup.  From two
complete images on, there is one at every moment as long as no request copies a
default image that is not whole.  A request behind one that has failed does.
-/

namespace Vmr.Rmgmt

open Vmr.Lib Vmr.Flash

def Partition.Holds (partition : Partition) (whole : List UInt8 → Prop) (flash : Memory)
    (pdimeta : UInt32) : Prop :=
  ∃ size ≤ partition.size, Recorded flash pdimeta size ∧
    whole (flash.slice partition.start size.toNat)

/-- The table names these partitions once, and both hold a whole image. -/
structure Redundant (whole : List UInt8 → Prop) (layout : BootLayout) (flash : Memory) : Prop where
  named : Named flash layout
  once : NamedOnce flash
  default : layout.default.Holds whole flash layout.pdimeta
  backup : layout.backup.Holds whole flash layout.pdimetaBackup

theorem Redundant.provisioned {whole : List UInt8 → Prop} {layout : BootLayout} {flash : Memory}
    (h : Redundant whole layout flash) : Provisioned whole layout flash := by
  obtain ⟨size, hsize, -, hwhole⟩ := h.default
  exact ⟨h.named, h.once, .inl ⟨size.toNat, UInt32.le_iff_toNat_le.1 hsize, hwhole⟩⟩

structure Backed (info : FlashInfo) (layout : BootLayout) (call : FlashCall) : Prop
    extends Requested info call where
  backup : call.request.flashNoBackup = false
  booted : BootedFromDefault call.env layout

/-- Such requests one behind the other.  Each may be cut off at any moment. -/
def backedFlashing (info : FlashInfo) (layout : BootLayout) (origin : Memory) :
    TransitionSystem Chip FlashCall where
  init chip := chip.content = origin
  step chip call chip' := Backed info layout call ∧
    Prog.Visits (norStep info.toSectorGeometry) chip call.prog chip'

/-- When the default image can be copied it is whole, and the new one does not fill its partition up
to the backup. -/
def CopiesFrom (whole : List UInt8 → Prop) (layout : BootLayout) (chip : Chip) (call : FlashCall) :
    Prop :=
  (Backable chip.content layout → CopiesWhole whole layout chip.content) ∧
    ∀ pdiData len, call.pdi = some (pdiData, len) →
      len < layout.default.size ∨ layout.default.stop ≠ layout.backup.start

section Runs

variable {whole : List UInt8 → Prop} {info : FlashInfo} {layout : BootLayout} {origin : Memory}
  {chip : Chip} {call : FlashCall}

private theorem CopiesFrom.trustedOn (h : CopiesFrom whole layout chip call)
    (hbacked : Backed info layout call) : call.TrustedOn layout whole False chip.content := by
  intro pdiData len hpdi
  refine ⟨fun hskipped => ?_, fun _ hback => h.1 hback, h.2 pdiData len hpdi⟩
  rcases hskipped with hskip | honBackup
  · exact absurd (hbacked.backup.symm.trans hskip) Bool.false_ne_true
  · exact absurd honBackup hbacked.booted.notBackup

/-- As long as every request that can copy the default image copies a whole one, one of the
partitions holds a whole image at every moment, whichever transfers fail. -/
theorem bootable_of_copiesFrom (hplaced : Placed info layout)
    (horigin : Redundant whole layout origin)
    (h : ((backedFlashing info layout origin).restrict (CopiesFrom whole layout)).Reachable chip) :
    Bootable whole layout chip.content := by
  have hinvariant : ((backedFlashing info layout origin).restrict
      (CopiesFrom whole layout)).Invariant
        fun chip => Survives whole info layout origin chip.content := by
    constructor
    · rintro chip rfl
      exact ⟨horigin.provisioned.bootable, fun _ _ => rfl⟩
    · rintro chip call chip' hkept ⟨hcopies, hbacked, hvisits⟩
      exact survives_of_visits (byContent_norStep _) (transfers_norStep _) (hears_false _) hplaced
        hbacked.toRequested horigin.provisioned hkept (hcopies.trustedOn hbacked) hvisits
  exact (h.invariant hinvariant).bootable

end Runs

private theorem redundant_pairFlash : Redundant OnePage abLayout pairFlash where
  named := provisioned_pairFlash.named
  once := provisioned_pairFlash.once
  default := ⟨256, by decide, recorded_pairFlash, onePage_pairFlash.1⟩
  backup := ⟨256, by decide, ⟨by decide +kernel, by decide +kernel⟩, onePage_pairFlash.2⟩

private theorem backed_defaultCall : Backed gigadeviceInfo abLayout defaultCall where
  toRequested := requested_defaultCall
  backup := rfl
  booted := bootedFromDefault_abLayout

private theorem copiesFrom_pairFlash : CopiesFrom OnePage abLayout ⟨pairFlash, []⟩ defaultCall :=
  ⟨fun _ => copiesWhole_pairFlash, fun pdiData len hpdi =>
    (trustedOn_pairFlash False pdiData len hpdi).writeFree⟩

private theorem exists_firstFailure : ∃ result chip data,
    Prog.Returns (notedStep gigadeviceInfo.toSectorGeometry) (⟨pairFlash, []⟩, []) defaultCall.prog
      result (chip, [.program 0x100000 0 8 data]) ∧
    result.ret ≠ 0 ∧ result.rhAlreadyFlashed = false ∧
    Retried OnePage gigadeviceInfo abLayout (metaAt pairFlash abLayout.pdimeta).fptPdiSize
      chip.content := by
  obtain ⟨result, chip, data, hrun, hret, hflag, hleft⟩ := @exists_erasedDefault defaultCall abLayout
    pairFlash ⟨pairFlash, []⟩ 0x11F0 256 basePdi_defaultCall provisioned_pairFlash.named
    placed_abLayout bootedFromDefault_abLayout source_pairFlash accepts_pairFlash (by decide) rfl
  exact ⟨result, chip, data, hrun, hret, hflag, retried_of_erasedDefault onePage_notErased
    placed_abLayout provisioned_pairFlash.named accepts_pairFlash.backable (by decide) (by decide)
    spillFree_pairFlash hleft⟩

/-- Behind one request that fails the backup is still there. -/
theorem bootable_firstFailure : ∃ result chip data,
    Prog.Returns (notedStep gigadeviceInfo.toSectorGeometry) (⟨pairFlash, []⟩, []) defaultCall.prog
      result (chip, [.program 0x100000 0 8 data]) ∧
    result.ret ≠ 0 ∧ Bootable OnePage abLayout chip.content := by
  obtain ⟨result, chip, data, hrun, hret, -, -⟩ := exists_firstFailure
  have hstart : ((backedFlashing gigadeviceInfo abLayout pairFlash).restrict
      (CopiesFrom OnePage abLayout)).Reachable ⟨pairFlash, []⟩ := .init rfl
  exact ⟨result, chip, data, hrun, hret, bootable_of_copiesFrom placed_abLayout redundant_pairFlash
    (hstart.step ⟨copiesFrom_pairFlash, backed_defaultCall, _, returns_norStep hrun⟩)⟩

/-- The next request copies the erased bytes over the backup, with no other transfer that fails. -/
theorem not_bootable_retried : Redundant OnePage abLayout pairFlash ∧
    ∃ chip, (backedFlashing gigadeviceInfo abLayout pairFlash).Reachable chip ∧
      ¬ Bootable OnePage abLayout chip.content := by
  obtain ⟨result, chip₁, data, hrun, -, -, hretried⟩ := exists_firstFailure
  obtain ⟨prepared, chip₂, hrun', hready⟩ := @exists_prepared defaultCall abLayout chip₁.content chip₁
    0x11F0 256 basePdi_defaultCall hretried.named placed_abLayout bootedFromDefault_abLayout
    (by rw [hretried.recorded]; exact source_pairFlash) ⟨rfl, hretried.backable, by decide⟩ rfl
  have hstart : (backedFlashing gigadeviceInfo abLayout pairFlash).Reachable ⟨pairFlash, []⟩ :=
    .init rfl
  have hfailed : (backedFlashing gigadeviceInfo abLayout pairFlash).Reachable chip₁ :=
    hstart.step ⟨backed_defaultCall, _, returns_norStep hrun⟩
  have hvisits : Prog.Visits (norStep gigadeviceInfo.toSectorGeometry) chip₁ defaultCall.prog
      chip₂ := by
    have hprepared := hrun'.mono fun _ _ _ _ hstep => hstep.1.1
    rw [prog_eq basePdi_defaultCall rfl, flashDefault]
    exact ⟨_, hprepared.bind _⟩
  refine ⟨redundant_pairFlash, chip₂, hfailed.step ⟨backed_defaultCall, hvisits⟩, ?_⟩
  rw [hready.flash, hretried.recorded]
  exact hretried.lost

end Vmr.Rmgmt
