import Mathlib.Data.Nat.Bitwise
import Vmr.Flash.Reach

/-!
# The driver by what the flash holds

What a transfer does depends on what the flash holds, and not on the transfers
before it.  So what a function comes to on a flash without a journal, it comes to
on any flash with the same contents.  On erased ranges, and with every transfer
going well, a function returns 0 and leaves one flash, unless memory runs out.
-/

namespace Vmr.Flash

open Vmr.Lib

/-- Steps that look at the contents alone. -/
def ByContent (step : Chip → (op : OspiOp) → OspiAns op → Chip → Prop) : Prop :=
  ∀ chip other op answer other', chip.content = other.content → step other op answer other' →
    ∃ chip', step chip op answer chip' ∧ chip'.content = other'.content

theorem byContent_norStep (info : SectorGeometry) : ByContent (norStep info) := by
  intro chip other op answer other' hsame hstep
  cases op with
  | program address source count data =>
      rcases hstep with rfl | ⟨hfailed, rfl⟩
      · exact ⟨_, .inl rfl, by rw [Chip.update, Chip.update, hsame]⟩
      · exact ⟨_, .inr ⟨hfailed, rfl⟩, hsame⟩
  | sectorErase address =>
      rcases hstep with rfl | ⟨hfailed, rfl⟩
      · exact ⟨_, .inl rfl, by rw [Chip.update, Chip.update, hsame]⟩
      · exact ⟨_, .inr ⟨hfailed, rfl⟩, hsame⟩
  | chipErase =>
      rcases hstep with rfl | ⟨hfailed, rfl⟩
      · exact ⟨_, .inl rfl, by rw [Chip.update, Chip.update, hsame]⟩
      · exact ⟨_, .inr ⟨hfailed, rfl⟩, hsame⟩
  | read address count =>
      obtain ⟨rfl, hfound⟩ := hstep
      exact ⟨_, ⟨rfl, hsame ▸ hfound⟩, hsame⟩
  | progress | moduloByZero | malloc =>
      obtain rfl := hstep
      exact ⟨_, rfl, hsame⟩
  | endless => exact hstep.elim

theorem ByContent.and {step : Chip → (op : OspiOp) → OspiAns op → Chip → Prop}
    (h : ByContent step) (allowed : (op : OspiOp) → OspiAns op → Prop) :
    ByContent fun chip op answer chip' => step chip op answer chip' ∧ allowed op answer := by
  rintro chip other op answer other' hsame ⟨hstep, hallowed⟩
  obtain ⟨chip', hstep', hsame'⟩ := h chip other op answer other' hsame hstep
  exact ⟨chip', ⟨hstep', hallowed⟩, hsame'⟩

theorem byContent_okStep (info : SectorGeometry) : ByContent (okStep info) :=
  (byContent_norStep info).and Succeeds

theorem byContent_luckyStep (info : SectorGeometry) : ByContent (luckyStep info) :=
  (byContent_okStep info).and Lucky

theorem transfers_luckyStep (info : SectorGeometry) : Transfers info False (luckyStep info) :=
  fun _ _ _ _ hstep => ⟨hstep.1.1, .inr hstep.1.2⟩

private theorem safe_byContent {step : Chip → (op : OspiOp) → OspiAns op → Chip → Prop}
    (hcontent : ByContent step) {α : Type} {p : OspiProg α} {guard : OspiOp → Prop}
    {post : α → Memory → Prop} {content : Memory}
    (h : Prog.Safe step (fun _ op => guard op) (fun value chip => post value chip.content) p
      ⟨content, []⟩) {chip : Chip} (hchip : chip.content = content) :
    Prog.Safe step (fun _ op => guard op) (fun value chip => post value chip.content) p chip := by
  refine (@Prog.Safe.simulated _ _ _ _ step _ _ _ step
    (fun chip other => chip.content = other.content)
    (fun chip other op answer other' => hcontent chip other op answer other') p _ chip h
      hchip.symm).mono ?_ ?_
  · rintro _ op ⟨_, -, hguard⟩
    exact hguard
  · rintro value chip' ⟨_, hsame, hpost⟩
    rwa [hsame] at hpost

/-! ## A copy on to an erased range -/

section Pages

variable {content : Memory} {source target pages : Nat}

theorem copiedPages_outside {a : Nat} (h : a < target ∨ target + 256 * pages ≤ a) :
    copiedPages content source target pages a = content a := by
  induction pages with
  | zero => rfl
  | succ page ih =>
      rw [copiedPages, Memory.program_outside _ _ (by omega), ih (by omega)]

theorem copiedPages_inside (hblank : content.Blank target (256 * pages)) {offset : Nat}
    (hoffset : offset < 256 * pages) :
    copiedPages content source target pages (target + offset) =
      copiedPages content source target (offset / 256) (source + offset) := by
  induction pages with
  | zero => exact absurd hoffset (Nat.not_lt_zero offset)
  | succ page ih =>
      rcases Nat.lt_or_ge offset (256 * page) with hlt | hge
      · rw [copiedPages, Memory.program_outside _ _ (by omega),
          ih (hblank.sub (Nat.le_refl _) (by omega)) hlt]
      · obtain ⟨rest, rfl⟩ := Nat.exists_eq_add_of_le hge
        have hpage : (256 * page + rest) / 256 = page := by omega
        rw [copiedPages, ← Nat.add_assoc, Memory.program_inside _ _ (by omega),
          copiedPages_outside (by omega), hblank _ (by omega) (by omega), Memory.full_and,
          ← Nat.add_assoc, hpage]

theorem copiedPages_same (hblank : content.Blank target (256 * pages)) {offset : Nat}
    (hoffset : offset < 256 * pages) (hapart : source + offset < target ∨ target ≤ source) :
    copiedPages content source target pages (target + offset) = content (source + offset) := by
  rw [copiedPages_inside hblank hoffset, copiedPages_outside (by omega)]

private theorem not_copyReported_of_blank (hblank : content.Blank target (256 * pages)) {page : Nat}
    (hpage : page < pages) : ¬ CopyReported content source target page := by
  rw [CopyReported, misMatch_page_iff]
  rintro ⟨-, i, hi, hdiffers⟩
  apply hdiffers
  have hfresh : copiedPages content source target page (target + 256 * page + i) = 0xFF := by
    rw [copiedPages_outside (by omega), hblank _ (by omega) (by omega)]
  rw [copiedPages, Memory.program_inside _ _ hi, hfresh, Memory.full_and]

end Pages

section Written

variable {content : Memory} {base len : UInt32} {buf : Nat → UInt8}

theorem written_inside {i : Nat} (hi : i < roundUp len) :
    written content base len buf (base.toNat + i) = content (base.toNat + i) &&& buf i :=
  Memory.program_inside content buf hi

theorem written_outside {a : Nat} (h : a < base.toNat ∨ base.toNat + roundUp len ≤ a) :
    written content base len buf a = content a :=
  Memory.program_outside content buf h

end Written

/-! ## What a function leaves when every transfer goes well -/

def OutOfMemory (step : Chip → (op : OspiOp) → OspiAns op → Chip → Prop) : Prop :=
  ∃ size chip chip', step chip (.malloc size) false chip'

theorem not_outOfMemory_luckyStep (info : SectorGeometry) : ¬ OutOfMemory (luckyStep info) := by
  rintro ⟨size, chip, chip', hstep⟩
  cases hstep.2

section Functions

variable {info : FlashInfo} {step : Chip → (op : OspiOp) → OspiAns op → Chip → Prop}
  {content : Memory} {chip : Chip} {offset len : UInt32} {buf : Nat → UInt8}

theorem safe_ospiFlashErase (htransfers : Transfers info.toSectorGeometry False step)
    (hinside : offset.toNat + len.toNat ≤ info.totalSize) (hchip : chip.content = content) :
    Prog.Safe step (fun _ op => op ≠ .endless)
      (fun ret chip' => ret = 0 ∧ chip'.content = safeErased info content offset len)
      (ospiFlashErase info.toSectorGeometry .clFlashBoot offset len) chip := by
  rw [ospiFlashErase, boot_add]
  refine (safe_erase htransfers hinside chip).weaken ?_
  rintro ret chip' ⟨hret, herased⟩
  exact ⟨hret, by rw [herased, hchip]; rfl⟩

theorem safe_ospiFlashWrite_fits (htransfers : Transfers info.toSectorGeometry False step)
    (hlen : len.toNat ≤ 2 ^ 32 - 256) (hinside : offset.toNat + roundUp len ≤ 2 ^ 32)
    (hchip : chip.content = content)
    (hfits : ∀ i < len.toNat, content (offset.toNat + i) &&& buf i = buf i) :
    Prog.Safe step (fun _ op => op ≠ .endless)
      (fun ret chip' => ret = 0 ∧ chip'.content = written content offset len buf)
      (ospiFlashWrite .clFlashBoot buf offset len) chip := by
  subst hchip
  refine (safe_write htransfers (boot_add offset) hlen hinside chip).mono ?_ ?_
  · rintro chip' op ⟨hop, -⟩
    exact hop.ne_endless
  · intro ret chip' hend
    cases hend with
    | done hchecked => exact ⟨rfl, hchecked.sent.content_eq⟩
    | stopped hfalse => exact hfalse.elim
    | refused hrefused =>
        obtain ⟨page, hpage, -, -, hdiffers⟩ := hrefused.differs.resolve_left id
        have hround : roundUp len = 256 * (pageCount len).toNat := rfl
        refine absurd (fun i hi hbelow => ?_) hdiffers
        rw [pageAt, toNat_chunkAddress hinside (by omega), Nat.add_assoc, written,
          Memory.program_inside _ _ (by omega), hfits _ hbelow]

theorem safe_ospiFlashCopy_blank (hcontent : ByContent step)
    (htransfers : Transfers info.toSectorGeometry False step) {source target : UInt32}
    (hreads : source.toNat + 256 * (len.toNat / 256 + 1) ≤ 2 ^ 32)
    (hwrites : target.toNat + 256 * (len.toNat / 256 + 1) ≤ 2 ^ 32)
    (hlen : len.toNat < 2 ^ 32 - 256)
    (hblank : content.Blank target.toNat (256 * (len.toNat / 256 + 1)))
    (hchip : chip.content = content) :
    Prog.Safe step (fun _ op => op ≠ .endless)
      (fun ret chip' => ret = 0 ∧ chip'.content =
        copiedPages content source.toNat target.toNat (len.toNat / 256 + 1))
      (ospiFlashCopy .clFlashBoot source target len) chip := by
  refine @safe_byContent step hcontent _ _ (fun op => op ≠ .endless) (fun (ret : Int) flash =>
    ret = 0 ∧ flash = copiedPages content source.toNat target.toNat (len.toNat / 256 + 1))
      content ?_ chip hchip
  refine (@safe_copy info.toSectorGeometry False step .clFlashBoot content source target source
    target len htransfers (boot_add source) (boot_add target) hreads hwrites hlen).mono ?_ ?_
  · rintro chip' op ⟨hop, -⟩
    exact hop.ne_endless
  · rintro ret chip' (⟨hret, hcopied⟩ | ⟨-, page, hpage, hstopped⟩)
    · exact ⟨hret, hcopied.flash⟩
    · exact absurd (hstopped.reason.resolve_left id)
        (not_copyReported_of_blank hblank (Nat.lt_succ_of_le hpage))

end Functions

/-! ## A page in a sector -/

section Page

variable {info : FlashInfo} {step : Chip → (op : OspiOp) → OspiAns op → Chip → Prop}
  {content : Memory} {chip : Chip} {offset : UInt32} {buf : Nat → UInt8}

theorem roundUp_page : roundUp (UInt32.ofNat ospiVersalPagesize) = ospiVersalPagesize := rfl

private theorem sector_of_aligned {start : Nat} (haligned : start % info.size = 0) (count : Nat) :
    (info.sector (start + count) + 1) * info.size =
      start + (count / info.size + 1) * info.size := by
  obtain ⟨first, rfl⟩ := Nat.dvd_of_mod_eq_zero haligned
  rw [SectorGeometry.sector, Nat.mul_add_div info.size_pos, Nat.mul_comm info.size first,
    Nat.add_assoc, Nat.add_mul]

theorem eraseStart_of_aligned (haligned : offset.toNat % info.size = 0) :
    eraseStart info offset = offset.toNat :=
  Nat.div_mul_cancel (Nat.dvd_of_mod_eq_zero haligned)

theorem eraseEnd_of_aligned {start count : Nat} (haligned : start % info.size = 0)
    (hless : count < info.totalSize) : eraseEnd info.toSectorGeometry start count =
      start + (count / info.size + 1) * info.size := by
  rw [eraseEnd, if_neg (Nat.ne_of_lt hless), sector_of_aligned haligned]

theorem pages_le_sectors (info : FlashInfo) (count : Nat) :
    256 * (count / 256 + 1) ≤ (count / info.size + 1) * info.size := by
  obtain ⟨pages, hpages⟩ : 256 ∣ (count / info.size + 1) * info.size :=
    Dvd.dvd.mul_left info.wholePages _
  have hlt : count < (count / info.size + 1) * info.size := by
    rw [Nat.succ_mul]
    exact Nat.lt_div_mul_add info.size_pos
  rw [hpages] at hlt ⊢
  omega

section Erased

variable {len : UInt32}

theorem blank_safeErased (haligned : offset.toNat % info.size = 0)
    (hless : len.toNat < info.totalSize) :
    (safeErased info content offset len).Blank offset.toNat (256 * (len.toNat / 256 + 1)) := by
  have hpages := pages_le_sectors info len.toNat
  rw [safeErased, eraseStart_of_aligned haligned, eraseEnd_of_aligned haligned hless,
    Nat.add_sub_cancel_left]
  have hblank := Memory.blank_erase content offset.toNat ((len.toNat / info.size + 1) * info.size)
  exact hblank.sub (Nat.le_refl _) (Nat.add_le_add_left hpages _)

theorem safeErased_outside (haligned : offset.toNat % info.size = 0)
    (hless : len.toNat < info.totalSize) {a : Nat}
    (h : a < offset.toNat ∨ offset.toNat + (len.toNat / info.size + 1) * info.size ≤ a) :
    safeErased info content offset len a = content a := by
  rw [safeErased, eraseStart_of_aligned haligned, eraseEnd_of_aligned haligned hless,
    Nat.add_sub_cancel_left]
  exact Memory.erase_outside _ h

end Erased

theorem safeWritten_page (hpage : ospiVersalPagesize < info.size)
    (haligned : offset.toNat % info.size = 0)
    (hinside : offset.toNat + ospiVersalPagesize ≤ info.totalSize) (a : Nat) :
    safeWritten info content buf offset (UInt32.ofNat ospiVersalPagesize) a =
      if offset.toNat ≤ a ∧ a < offset.toNat + ospiVersalPagesize then buf (a - offset.toNat)
      else content a := by
  have hlen : (UInt32.ofNat ospiVersalPagesize).toNat = ospiVersalPagesize := rfl
  have hsector : ospiVersalPagesize / info.size = 0 := Nat.div_eq_of_lt hpage
  have hrest : ospiVersalPagesize % info.size ≠ 0 := by
    rw [Nat.mod_eq_of_lt hpage]
    decide
  have hkept : keptEnd info offset (UInt32.ofNat ospiVersalPagesize) = offset.toNat + info.size := by
    rw [keptEnd, hlen, if_neg hrest, keptFrom, hlen, hsector, Nat.mul_zero, Nat.add_zero]
  have hless : ospiVersalPagesize ≠ info.totalSize := by
    have hone : info.size ≤ info.totalSize := by
      rw [SectorGeometry.totalSize] at hinside ⊢
      refine Nat.le_mul_of_pos_right _ (Nat.pos_of_ne_zero fun hnone => ?_)
      rw [hnone, Nat.mul_zero] at hinside
      have hpos : 0 < ospiVersalPagesize := by decide
      omega
    omega
  have hend : eraseEnd info.toSectorGeometry offset.toNat ospiVersalPagesize =
      offset.toNat + info.size := by
    rw [eraseEnd, if_neg hless, sector_of_aligned haligned, hsector, Nat.zero_add,
      Nat.one_mul]
  rw [safeWritten, hlen, roundUp_page, hkept, eraseStart_of_aligned haligned, hend]
  -- behind the page the rest of the sector was kept
  by_cases hdata : offset.toNat ≤ a ∧ a < offset.toNat + ospiVersalPagesize
  · rw [if_pos hdata, if_pos hdata]
  · rw [if_neg hdata, if_neg hdata, if_neg hdata]
    split <;> rfl

private theorem and_page_of_aligned (hpage : ospiVersalPagesize < info.size)
    (haligned : offset.toNat % info.size = 0) :
    offset &&& UInt32.ofNat ospiVersalPagesize = 0 := by
  obtain ⟨bits, hbits⟩ := info.powerOfTwo
  obtain ⟨sectors, hsectors⟩ := Nat.dvd_of_mod_eq_zero haligned
  have hsize : info.size = 2 ^ bits := hbits
  have hmore : 8 < bits := by
    rw [hsize, show ospiVersalPagesize = 2 ^ 8 from rfl] at hpage
    exact (Nat.pow_lt_pow_iff_right (by decide)).1 hpage
  have hbit : offset.toNat.testBit 8 = false := by
    rw [hsectors, hsize, Nat.testBit_two_pow_mul, decide_eq_false (Nat.not_le_of_lt hmore),
      Bool.false_and]
  rw [← UInt32.toNat_inj, UInt32.toNat_and,
    show (UInt32.ofNat ospiVersalPagesize).toNat = 2 ^ 8 from rfl, Nat.and_two_pow, hbit]
  rfl

private theorem not_tailDiffers_page :
    ¬ TailDiffers content buf offset (UInt32.ofNat ospiVersalPagesize) := by
  rintro ⟨-, a, hlow, hhigh, -⟩
  rw [roundUp_page] at hhigh
  exact absurd hhigh (Nat.not_lt_of_le hlow)

theorem safe_ospiFlashSafeWrite_page (hcontent : ByContent step)
    (htransfers : Transfers info.toSectorGeometry False step)
    (hpage : ospiVersalPagesize < info.size) (haligned : offset.toNat % info.size = 0)
    (hinside : offset.toNat + ospiVersalPagesize ≤ info.totalSize)
    (hchip : chip.content = content) :
    Prog.Safe step (fun _ op => op ≠ .endless)
      (fun ret chip' => ret = 0 ∧ chip'.content =
          safeWritten info content buf offset (UInt32.ofNat ospiVersalPagesize) ∨
        ret ≠ 0 ∧ OutOfMemory step)
      (ospiFlashSafeWrite info .clFlashBoot buf offset (UInt32.ofNat ospiVersalPagesize)) chip := by
  have hpost : ∀ (ret : Int) (chip' : Chip), SafeWriteEnd step info content buf offset
      (UInt32.ofNat ospiVersalPagesize) ret chip' → ret = 0 ∧ chip'.content =
          safeWritten info content buf offset (UInt32.ofNat ospiVersalPagesize) ∨
        ret ≠ 0 ∧ OutOfMemory step := by
    rintro ret chip' (⟨hret, hresult, -⟩ | ⟨hret, hmemory | ⟨-, htail⟩⟩)
    · exact .inl ⟨hret, hresult⟩
    · exact .inr ⟨hret, hmemory⟩
    · exact absurd htail not_tailDiffers_page
  exact @safe_byContent step hcontent _ _ _ (fun (ret : Int) flash => ret = 0 ∧ flash =
      safeWritten info content buf offset (UInt32.ofNat ospiVersalPagesize) ∨
    ret ≠ 0 ∧ OutOfMemory step) content ((@safe_safeWrite info step content buf
      offset (UInt32.ofNat ospiVersalPagesize) htransfers (and_page_of_aligned hpage haligned)
        hinside).weaken hpost) chip hchip

end Page

/-! ## When transfers may fail -/

section Failing

variable {info : FlashInfo} {mayFail : Prop}
  {step : Chip → (op : OspiOp) → OspiAns op → Chip → Prop} {content : Memory} {chip : Chip}
  {cells : Set Nat}

def KeptOutside (cells : Set Nat) (content : Memory) (chip : Chip) : Prop :=
  ∀ a ∉ cells, chip.content a = content a

theorem safe_keptOutside (htransfers : Transfers info.toSectorGeometry mayFail step) {α : Type}
    {p : OspiProg α} {post : α → Chip → Prop}
    (h : Prog.Safe step (fun _ op => changed info.toSectorGeometry op ⊆ cells) post p chip)
    (hchip : KeptOutside cells content chip) :
    Prog.Safe step (fun chip' _ => KeptOutside cells content chip')
      (fun value chip' => post value chip' ∧ KeptOutside cells content chip') p chip := by
  induction p generalizing chip with
  | ret value => exact ⟨h, hchip⟩
  | op op next ih =>
      refine ⟨hchip, fun answer chip' hstep => ih answer (h.2 _ _ hstep) fun a ha => ?_⟩
      rw [content_of_norStep (htransfers _ _ _ _ hstep).1 fun hchanged => ha (h.1 hchanged)]
      exact hchip a ha

theorem safe_ospiFlashErase_done (htransfers : Transfers info.toSectorGeometry mayFail step)
    {offset len : UInt32} (hless : len.toNat < info.totalSize)
    (hinside : offset.toNat + len.toNat ≤ info.totalSize) (hchip : chip.content = content) :
    Prog.Safe step (fun _ _ => True)
      (fun ret chip' => ret = 0 → chip'.content = safeErased info content offset len)
      (ospiFlashErase info.toSectorGeometry .clFlashBoot offset len) chip := by
  subst hchip
  rw [ospiFlashErase, boot_add]
  refine (safe_flashErase htransfers hless hinside chip).mono (fun _ _ _ => trivial) ?_
  rintro ret chip' (⟨-, herased⟩ | ⟨hret, -⟩) hzero
  · rw [herased.content, safeErased, eraseStart, eraseEnd, if_neg (Nat.ne_of_lt hless),
      ← sector_add_numSectors hless hinside, Nat.add_mul, Nat.add_sub_cancel_left]
  · exact absurd hzero hret

theorem safe_ospiFlashCopy_done (hcontent : ByContent step)
    (htransfers : Transfers info.toSectorGeometry mayFail step) {source target len : UInt32}
    (hreads : source.toNat + 256 * (len.toNat / 256 + 1) ≤ 2 ^ 32)
    (hwrites : target.toNat + 256 * (len.toNat / 256 + 1) ≤ 2 ^ 32)
    (hlen : len.toNat < 2 ^ 32 - 256) (hchip : chip.content = content) :
    Prog.Safe step (fun _ _ => True)
      (fun ret chip' => ret = 0 → chip'.content =
        copiedPages content source.toNat target.toNat (len.toNat / 256 + 1))
      (ospiFlashCopy .clFlashBoot source target len) chip := by
  refine @safe_byContent step hcontent _ _ (fun _ => True) (fun (ret : Int) flash =>
    ret = 0 → flash = copiedPages content source.toNat target.toNat (len.toNat / 256 + 1))
      content ?_ chip hchip
  refine (@safe_copy info.toSectorGeometry mayFail step .clFlashBoot content source target source
    target len htransfers (boot_add source) (boot_add target) hreads hwrites hlen).mono
      (fun _ _ _ => trivial) ?_
  rintro ret chip' (⟨-, hcopied⟩ | ⟨rfl, -⟩) hzero
  · exact hcopied.flash
  · exact absurd hzero (by decide)

theorem reaches_ospiFlashCopy {σ : Type} {step : σ → (op : OspiOp) → OspiAns op → σ → Prop} {s : σ}
    (source target len : UInt32)
    (hinside : target.toNat + 256 * (len.toNat / 256 + 1) ≤ 2 ^ 32) :
    Reaches info.toSectorGeometry
      {a | target.toNat ≤ a ∧ a < target.toNat + 256 * (len.toNat / 256 + 1)} step
      (ospiFlashCopy .clFlashBoot source target len) s := by
  have hpage : ∀ page ≤ len.toNat / 256, ∀ s, Reaches info.toSectorGeometry
      {a | target.toNat ≤ a ∧ a < target.toNat + 256 * (len.toNat / 256 + 1)} step
        (copyPage .clFlashBoot source target len page) s := by
    intro page hpage s
    have hindex : page * ospiVersalPagesize = 256 * page := Nat.mul_comm _ _
    have hstart : (target + UInt32.ofNat (256 * page)).toNat = target.toNat + 256 * page :=
      toNat_chunkAddress hinside (by omega)
    have hroom : target.toNat + 256 * page + 256 ≤ target.toNat + 256 * (len.toNat / 256 + 1) :=
      pageEnd_le target.toNat hpage
    have hround : roundUp 256 = 256 := rfl
    rw [copyPage, hindex]
    refine reaches_op (Set.empty_subset _) fun _ s => ?_
    refine reaches_op (Set.empty_subset _) fun (found : Option Memory) s => ?_
    cases found with
    | none => exact reaches_ret _ _
    | some readBuffer =>
        refine ((reaches_ospiFlashWrite (boot_add _) readBuffer 256).mono fun a ha => ?_).bind
          fun ret s => reaches_ret _ _
        have hmem := mem_writeCells (by
          rw [hstart, hround]
          exact Nat.le_trans hroom hinside) ha
        rw [hstart, hround] at hmem
        exact ⟨Nat.le_trans (Nat.le_add_right _ _) hmem.1, Nat.lt_of_lt_of_le hmem.2 hroom⟩
  rw [ospiFlashCopy]
  refine Reaches.bind ((@Prog.Safe.forUntil _ _ _ _ step _ _ (fun _ _ => True) (fun _ _ => True)
    0 (len.toNat / 256 + 1) s trivial ?_).weaken fun _ _ _ => trivial) ?_
  · intro page s _ hindex _
    rw [Nat.zero_add] at hindex
    refine Prog.Safe.weaken (hpage page (Nat.le_of_lt_succ hindex) s) ?_
    rintro (_ | status) s' -
    · trivial
    · trivial
  · rintro (_ | status) s'
    · dsimp only
      split
      · exact reaches_op (Set.empty_subset _) fun never => never.elim
      · exact reaches_ret _ _
    · exact reaches_ret _ _

end Failing

end Vmr.Flash
