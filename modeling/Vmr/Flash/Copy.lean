import Vmr.Flash.Erase
import Vmr.Flash.Programmed

/-!
# Copying a range

The loop of `ospi_flash_copy` copies a page at a time, and goes on as long as the
index is at most the length.  When the length is a multiple of the page size one
page more is copied, on to whatever is behind the target range.
-/

namespace Vmr.Flash

open Vmr.Lib

private theorem pageCount_page : (pageCount 256).toNat = 1 := rfl

theorem pageEnd_le {page pages : Nat} (start : Nat) (h : page ≤ pages) :
    start + 256 * page + 256 * 1 ≤ start + 256 * (pages + 1) := by
  omega

theorem extraPage_le (len : Nat) : 256 * (len / 256 + 1) ≤ 256 * ((len + 255) / 256) + 256 := by
  omega

def roundUp (len : UInt32) : Nat := 256 * (pageCount len).toNat

/-! ## The flash after so many pages -/

section Pages

variable (content : Memory) (source target : Nat)

def copiedPages : Nat → Memory
  | 0 => content
  | page + 1 => (copiedPages page).program (target + 256 * page) 256 fun i =>
      copiedPages page (source + 256 * page + i)

def CopyReported (page : Nat) : Prop :=
  misMatch 256 0 (fun i => copiedPages content source target (page + 1) (target + 256 * page + i))
    (fun i => copiedPages content source target page (source + 256 * page + i)) = true

variable {content source target}

private theorem copiedPages_eq {pages : Nat}
    (hdisjoint : source + 256 * pages ≤ target ∨ target + 256 * pages ≤ source) :
    copiedPages content source target pages =
      content.program target (256 * pages) fun i => content (source + i) := by
  induction pages with
  | zero => rw [copiedPages, Nat.mul_zero, Memory.program_zero]
  | succ page ih =>
      rw [copiedPages, ih (by omega), Nat.mul_succ, Memory.program_add]
      refine Memory.program_congr _ fun i hi => ?_
      rw [Memory.program_outside _ _ (by omega), Nat.add_assoc]

end Pages

/-! ## The steps of the loop -/

inductive CopyOp (source target len : UInt32) : OspiOp → Prop
  | progress {page : Nat} (hpage : page ≤ len.toNat / 256) :
      CopyOp source target len (.progress (UInt32.ofNat (256 * page)) len)
  | read (page : Nat) : CopyOp source target len (readPage source page)
  | write {page : Nat} {buf : Nat → UInt8} {op : OspiOp} (hpage : page ≤ len.toNat / 256)
      (hop : WriteOp (target + UInt32.ofNat (256 * page)) 256 buf op) : CopyOp source target len op

theorem CopyOp.ne_endless {source target len : UInt32} {op : OspiOp}
    (h : CopyOp source target len op) : op ≠ .endless := by
  cases h with
  | progress | read => nofun
  | write _ hop => exact hop.ne_endless

/-- So many pages have been copied, each one was written and none was found to differ. -/
structure Copied (content : Memory) (source target len : UInt32) (pages : Nat) (chip : Chip) :
    Prop where
  flash : chip.content = copiedPages content source.toNat target.toNat pages
  journal : ∀ op ∈ chip.journal, CopyOp source target len op
  progress : ∀ page < pages, .progress (UInt32.ofNat (256 * page)) len ∈ chip.journal
  programs : ∀ page < pages, ∃ buf,
    programChunk (target + UInt32.ofNat (256 * page)) buf 0 ∈ chip.journal
  passed : ∀ page < pages, ¬ CopyReported content source.toNat target.toNat page

structure CopyStopped (mayFail : Prop) (content : Memory) (source target len : UInt32) (page : Nat)
    (chip : Chip) : Prop where
  journal : ∀ op ∈ chip.journal, CopyOp source target len op
  progress : ∀ page' ≤ page, .progress (UInt32.ofNat (256 * page')) len ∈ chip.journal
  reason : mayFail ∨ CopyReported content source.toNat target.toNat page

structure CopyStarted (content : Memory) (source target len : UInt32) (page : Nat) (chip : Chip) :
    Prop where
  flash : chip.content = copiedPages content source.toNat target.toNat page
  journal : ∀ op ∈ chip.journal, CopyOp source target len op
  progress : ∀ page' ≤ page, .progress (UInt32.ofNat (256 * page')) len ∈ chip.journal
  programs : ∀ page' < page, ∃ buf,
    programChunk (target + UInt32.ofNat (256 * page')) buf 0 ∈ chip.journal
  passed : ∀ page' < page, ¬ CopyReported content source.toNat target.toNat page'

section Started

variable {content : Memory} {source target len : UInt32} {page : Nat} {chip : Chip}

theorem Copied.started (h : Copied content source target len page chip)
    (hpage : page ≤ len.toNat / 256) : CopyStarted content source target len page
      (chip.issue (.progress (UInt32.ofNat (256 * page)) len)) where
  flash := h.flash
  journal op hmem := by
    rcases List.mem_cons.1 hmem with rfl | hmem
    · exact .progress hpage
    · exact h.journal op hmem
  progress page' hpage' := by
    rcases Nat.lt_or_eq_of_le hpage' with hlt | rfl
    · exact List.mem_cons_of_mem _ (h.progress page' hlt)
    · exact List.mem_cons_self
  programs page' hpage' := by
    obtain ⟨buf, hmem⟩ := h.programs page' hpage'
    exact ⟨buf, List.mem_cons_of_mem _ hmem⟩
  passed := h.passed

theorem CopyStarted.issue (h : CopyStarted content source target len page chip) {op : OspiOp}
    (hop : CopyOp source target len op) :
    CopyStarted content source target len page (chip.issue op) where
  flash := h.flash
  journal op' hmem := by
    rcases List.mem_cons.1 hmem with rfl | hmem
    · exact hop
    · exact h.journal op' hmem
  progress page' hpage' := List.mem_cons_of_mem _ (h.progress page' hpage')
  programs page' hpage' := by
    obtain ⟨buf, hmem⟩ := h.programs page' hpage'
    exact ⟨buf, List.mem_cons_of_mem _ hmem⟩
  passed := h.passed

private theorem CopyStarted.sent_journal (h : CopyStarted content source target len page chip)
    (hpage : page ≤ len.toNat / 256) {buf : Nat → UInt8} {chip' : Chip} {chunks : Nat}
    (hsent : Sent (target + UInt32.ofNat (256 * page)) 256 buf chip chip' chunks) :
    ∀ op ∈ chip'.journal, CopyOp source target len op := by
  intro op hmem
  rcases hsent.journal op hmem with hold | hnew
  · exact h.journal op hold
  · exact .write hpage hnew

end Started

section Copy

variable {info : SectorGeometry} {mayFail : Prop}
  {step : Chip → (op : OspiOp) → OspiAns op → Chip → Prop} {area : FlashArea}
  {content : Memory} {source target src tgt len : UInt32}

private theorem safe_writeCopy (htransfers : Transfers info mayFail step)
    (htarget : getBaseAddress area + tgt = target)
    (hwrites : target.toNat + 256 * (len.toNat / 256 + 1) ≤ 2 ^ 32) {page : Nat}
    (hpage : page ≤ len.toNat / 256) {chip : Chip}
    (h : CopyStarted content source target len page chip) {readBuffer : Nat → UInt8}
    (hread : ∀ i < 256, readBuffer i =
      copiedPages content source.toNat target.toNat page (source.toNat + 256 * page + i)) :
    Prog.Safe step
      (fun chip' op => CopyOp source target len op ∧ ∀ op' ∈ chip'.journal, CopyOp source target len op')
      (AfterLoop (Copied content source target len (page + 1))
        (CopyStopped mayFail content source target len page))
      (do
        let ret ← ospiFlashWrite area readBuffer (tgt + UInt32.ofNat (256 * page)) 256
        return if ret ≠ 0 then some ret else none) chip := by
  have hroom := Nat.le_trans (pageEnd_le target.toNat hpage) hwrites
  have hbase : (target + UInt32.ofNat (256 * page)).toNat = target.toNat + 256 * page :=
    toNat_chunkAddress hwrites (by omega)
  have hinside : (target + UInt32.ofNat (256 * page)).toNat + 256 * (pageCount 256).toNat ≤
      2 ^ 32 := by
    rw [hbase, pageCount_page]
    exact hroom
  have hwritten : written chip.content (target + UInt32.ofNat (256 * page)) 256 readBuffer =
      copiedPages content source.toNat target.toNat (page + 1) := by
    rw [copiedPages, written, hbase, h.flash]
    exact Memory.program_congr _ hread
  have hreported : Differs (written chip.content (target + UInt32.ofNat (256 * page)) 256 readBuffer)
      (target + UInt32.ofNat (256 * page)) 256 readBuffer 0 true ↔
        CopyReported content source.toNat target.toNat page := by
    have hbuf : ∀ i < 256, readBuffer (256 * 0 + i) =
        copiedPages content source.toNat target.toNat page
          (source.toNat + 256 * page + (256 * 0 + i)) := by
      intro i hi
      rw [Nat.mul_zero, Nat.zero_add]
      exact hread i hi
    rw [← misMatch_iff, hwritten, CopyReported, pageAt_zero, hbase,
      @misMatch_congr_buf _ _ _ readBuffer (fun i => copiedPages content source.toNat target.toNat
        page (source.toNat + 256 * page + i)) hbuf]
    rfl
  have hbaseAddress : getBaseAddress area + (tgt + UInt32.ofNat (256 * page)) =
      target + UInt32.ofNat (256 * page) := by
    rw [← UInt32.add_assoc, htarget]
  have hwrite := @safe_write info mayFail step _ 256 readBuffer htransfers area _ hbaseAddress
    (show (256 : UInt32).toNat ≤ 2 ^ 32 - 256 by decide) hinside chip
  refine Prog.Safe.bind (hwrite.mono ?_ fun _ _ => id) ?_
  · rintro chip' op ⟨hop, chunks, -, hsent⟩
    exact ⟨.write hpage hop, h.sent_journal hpage hsent⟩
  · intro ret chip' hend
    cases hend with
    | done hchecked =>
        refine ⟨?_, h.sent_journal hpage hchecked.sent, ?_, ?_, ?_⟩
        · rw [hchecked.sent.content_eq, hwritten]
        · intro page' hpage'
          exact hchecked.sent.kept _ (h.progress page' (Nat.le_of_lt_succ hpage'))
        · intro page' hpage'
          rcases Nat.lt_succ_iff_lt_or_eq.1 hpage' with hlt | rfl
          · obtain ⟨buf, hmem⟩ := h.programs page' hlt
            exact ⟨buf, hchecked.sent.kept _ hmem⟩
          · exact ⟨readBuffer, hchecked.sent.chunks 0 (by decide)⟩
        · intro page' hpage'
          rcases Nat.lt_succ_iff_lt_or_eq.1 hpage' with hlt | rfl
          · exact h.passed page' hlt
          · rw [← hreported]
            exact hchecked.sure 0 (by decide) (.inl rfl)
    | stopped hfail _ hsent =>
        exact ⟨rfl, h.sent_journal hpage hsent,
          fun page' hpage' => hsent.kept _ (h.progress page' hpage'), .inl hfail⟩
    | refused hrefused =>
        refine ⟨rfl, h.sent_journal hpage hrefused.sent,
          fun page' hpage' => hrefused.sent.kept _ (h.progress page' hpage'), ?_⟩
        refine hrefused.differs.imp_right ?_
        rintro ⟨page', hpage', -, hdiffers⟩
        obtain rfl : page' = 0 := Nat.lt_one_iff.1 hpage'
        exact hreported.1 hdiffers

private theorem safe_copyPage (htransfers : Transfers info mayFail step)
    (hsource : getBaseAddress area + src = source) (htarget : getBaseAddress area + tgt = target)
    (hreads : source.toNat + 256 * (len.toNat / 256 + 1) ≤ 2 ^ 32)
    (hwrites : target.toNat + 256 * (len.toNat / 256 + 1) ≤ 2 ^ 32) {page : Nat}
    (hpage : page ≤ len.toNat / 256) {chip : Chip}
    (h : Copied content source target len page chip) :
    Prog.Safe step
      (fun chip' op => CopyOp source target len op ∧ ∀ op' ∈ chip'.journal, CopyOp source target len op')
      (AfterLoop (Copied content source target len (page + 1))
        (CopyStopped mayFail content source target len page))
      (copyPage area src tgt len page) chip := by
  have hindex : page * ospiVersalPagesize = 256 * page := Nat.mul_comm _ _
  have hfrom : (source + UInt32.ofNat (256 * page)).toNat = source.toNat + 256 * page :=
    toNat_chunkAddress hreads (by omega)
  rw [copyPage, hindex]
  refine ⟨⟨.progress hpage, h.journal⟩, fun _ chip' hstep => ?_⟩
  obtain ⟨hnor, -⟩ := htransfers _ _ _ _ hstep
  obtain rfl : chip' = chip.issue (.progress (UInt32.ofNat (256 * page)) len) := hnor
  have hprogress := h.started hpage
  dsimp only
  rw [ospiFlashRead, ← UInt32.add_assoc, hsource]
  refine ⟨⟨.read page, hprogress.journal⟩, fun (found : Option Memory) chip' hstep => ?_⟩
  obtain ⟨⟨rfl, hfound⟩, hsucceeds⟩ := htransfers _ _ _ _ hstep
  have hread := hprogress.issue (.read page)
  cases found with
  | none => exact ⟨rfl, hread.journal, hread.progress, .inl (hsucceeds.resolve_right nofun)⟩
  | some readBuffer =>
      have hpageRead : ∀ i < 256, readBuffer i =
          copiedPages content source.toNat target.toNat page (source.toNat + 256 * page + i) := by
        intro i hi
        rw [hfound readBuffer rfl i hi, hfrom, ← h.flash]
        rfl
      exact safe_writeCopy htransfers htarget hwrites hpage hread hpageRead

def CopyEnd (mayFail : Prop) (content : Memory) (source target len : UInt32) (ret : Int)
    (chip : Chip) : Prop :=
  ret = 0 ∧ Copied content source target len (len.toNat / 256 + 1) chip ∨
    ret = xstFailure ∧ ∃ page ≤ len.toNat / 256,
      CopyStopped mayFail content source target len page chip

def CopyGuard (source target len : UInt32) (chip : Chip) (op : OspiOp) : Prop :=
  CopyOp source target len op ∧ ∀ op' ∈ chip.journal, CopyOp source target len op'

theorem safe_copy (htransfers : Transfers info mayFail step)
    (hsource : getBaseAddress area + src = source) (htarget : getBaseAddress area + tgt = target)
    (hreads : source.toNat + 256 * (len.toNat / 256 + 1) ≤ 2 ^ 32)
    (hwrites : target.toNat + 256 * (len.toNat / 256 + 1) ≤ 2 ^ 32)
    (hlen : len.toNat < 2 ^ 32 - 256) :
    Prog.Safe step (CopyGuard source target len) (CopyEnd mayFail content source target len)
      (ospiFlashCopy area src tgt len) ⟨content, []⟩ := by
  have hnone : Copied content source target len 0 ⟨content, []⟩ :=
    ⟨rfl, nofun, nofun, nofun, nofun⟩
  have hloop := @safe_loop _ step (CopyGuard source target len) (copyPage area src tgt len)
    (Copied content source target len)
    (fun chip => ∃ page ≤ len.toNat / 256,
      CopyStopped mayFail content source target len page chip) (len.toNat / 256 + 1) ⟨content, []⟩
    hnone fun page chip hpage hcopied => by
      have hpage := Nat.le_of_lt_succ hpage
      refine (safe_copyPage htransfers hsource htarget hreads hwrites hpage hcopied).weaken ?_
      rintro (_ | status) chip' hround
      · exact hround
      · exact ⟨hround.1, page, hpage, hround.2⟩
  rw [ospiFlashCopy]
  refine hloop.bind ?_
  rintro (_ | status) chip hround
  · have hends : ¬ (len.toNat / ospiVersalPagesize + 1) * ospiVersalPagesize % 2 ^ 32 ≤ len.toNat := by
      rw [ospiVersalPagesize]
      omega
    simp only [if_neg hends]
    exact .inl ⟨rfl, hround⟩
  · exact .inr hround

end Copy

/-! ## Copying exactly the range -/

def ProgressInOrder : OspiOp → Prop
  | .progress done total => total ≠ 0 ∧ done.toNat * 100 < 2 ^ 32
  | _ => True

def ProgramsInside (low high : Nat) : OspiOp → Prop
  | .program address _ count _ => low ≤ address.toNat ∧ address.toNat + count ≤ high
  | _ => True

/-- When the copy returns 0, the target range holds the bytes of the source range and nothing
outside of it has been programmed; and the progress is in order on the way. -/
structure CopiesRange (info : SectorGeometry) (content : Memory) (area : FlashArea)
    (src tgt len : UInt32) : Prop where
  copies : ∀ chip, Prog.Returns (norStep info) ⟨content, []⟩ (ospiFlashCopy area src tgt len) 0 chip →
    (∀ i < roundUp len, chip.content ((getBaseAddress area + tgt).toNat + i) =
      content ((getBaseAddress area + src).toNat + i)) ∧
    ∀ op ∈ chip.journal, ProgramsInside (getBaseAddress area + tgt).toNat
      ((getBaseAddress area + tgt).toNat + roundUp len) op
  progress : ∀ chip, Prog.Visits (norStep info) ⟨content, []⟩ (ospiFlashCopy area src tgt len) chip →
    ∀ op ∈ chip.journal, ProgressInOrder op

def pageBehind (content : Memory) (source target len : Nat) (i : Nat) : UInt8 :=
  if target ≤ source + len + i ∧ source + len + i < target + len then
    content (source + (source + len + i - target))
  else content (source + len + i)

/-- Copying the page behind the ranges fails: what is there already does not take all of it, and
starts with a word of ones all the same. -/
def ExtraPageFails (content : Memory) (source target len : Nat) : Prop :=
  (∀ i < 4, content (target + len + i) = 0xFF ∧ pageBehind content source target len i = 0xFF) ∧
    ∃ i < 256, content (target + len + i) &&& pageBehind content source target len i ≠
      pageBehind content source target len i

theorem and_eq_full_iff (byte byte' : UInt8) :
    byte &&& byte' = 0xFF ↔ byte = 0xFF ∧ byte' = 0xFF := by
  rw [← UInt8.toBitVec_inj, ← UInt8.toBitVec_inj, ← UInt8.toBitVec_inj, UInt8.toBitVec_and]
  exact BitVec.and_eq_allOnes_iff


theorem misMatch_page_iff {page buf : Nat → UInt8} :
    misMatch 256 0 page buf = true ↔
      (∀ i < 4, page i = 0xFF) ∧ ∃ i < 256, page i ≠ buf i := by
  rw [← not_iff_not, Bool.not_eq_true, misMatch_eq_false_iff, ← firstWordErased_iff, not_and_or,
    Bool.not_eq_true]
  refine or_congr_right ?_
  simp only [Nat.zero_add, not_exists, not_and, not_not]
  exact forall_congr' fun i => imp_congr_right fun hi => ⟨fun h => h hi, fun h _ => h⟩

section Range

variable {info : FlashInfo} {content : Memory} {area : FlashArea} {source target len : UInt32}
  {src tgt : UInt32}

theorem len_le_roundUp : len.toNat ≤ roundUp len := by
  rw [roundUp, toNat_pageCount]
  omega

private theorem roundUp_of_rest (h : len.toNat % 256 ≠ 0) :
    roundUp len = 256 * (len.toNat / 256 + 1) := by
  rw [roundUp, toNat_pageCount]
  omega

theorem roundUp_of_pages (h : len.toNat % 256 = 0) : roundUp len = len.toNat := by
  rw [roundUp, toNat_pageCount]
  omega

theorem page_le_size (info : FlashInfo) : 256 ≤ info.size :=
  Nat.le_of_dvd info.size_pos info.wholePages

private theorem extraPage_room {start : Nat} (h : start + roundUp len ≤ info.totalSize) :
    start + 256 * (len.toNat / 256 + 1) ≤ 2 ^ 32 := by
  have hextra := extraPage_le len.toNat
  rw [← toNat_pageCount] at hextra
  exact Nat.le_trans (Nat.le_trans (Nat.add_le_add_left hextra start)
    (Nat.add_assoc start _ 256 ▸ Nat.add_le_add h (page_le_size info))) info.totalSize_add_size_le

private theorem not_copyReported {source target : Nat} {page : Nat}
    (hpage : page < (pageCount len).toNat)
    (hdisjoint : source + roundUp len ≤ target ∨ target + roundUp len ≤ source)
    (hblank : content.Blank target (roundUp len)) :
    ¬ CopyReported content source target page := by
  have hinside : 256 * page + 256 ≤ roundUp len := by
    rw [roundUp]
    omega
  rw [CopyReported, misMatch_page_iff]
  rintro ⟨-, i, hi, hdiffers⟩
  apply hdiffers
  rw [copiedPages, Memory.program_inside _ _ hi, copiedPages_eq (by omega),
    Memory.program_outside _ _ (by omega), hblank _ (by omega) (by omega), Memory.full_and]

/-- Behind the ranges it depends on what is there. -/
theorem copyReported_extra {source target : Nat} (hpages : len.toNat % 256 = 0)
    (hdisjoint : source + roundUp len ≤ target ∨ target + roundUp len ≤ source)
    (hblank : content.Blank target (roundUp len)) :
    CopyReported content source target (len.toNat / 256) ↔
      ExtraPageFails content source target len.toNat := by
  have hwhole : 256 * (len.toNat / 256) = len.toNat := by omega
  have hround := roundUp_of_pages hpages
  have hcopied := @copiedPages_eq content source target (len.toNat / 256) (by omega)
  rw [hwhole] at hcopied
  have hbehind : ∀ i, copiedPages content source target (len.toNat / 256)
      (source + 256 * (len.toNat / 256) + i) = pageBehind content source target len.toNat i := by
    intro i
    rw [hwhole, hcopied, pageBehind, Memory.program]
    by_cases hin : target ≤ source + len.toNat + i ∧ source + len.toNat + i < target + len.toNat
    · rw [if_pos hin, if_pos hin, hblank _ (by omega) (by omega), Memory.full_and]
    · rw [if_neg hin, if_neg hin]
  have hresult : ∀ i < 256, copiedPages content source target (len.toNat / 256 + 1)
      (target + 256 * (len.toNat / 256) + i) =
        content (target + len.toNat + i) &&& pageBehind content source target len.toNat i := by
    intro i hi
    rw [copiedPages, Memory.program_inside _ _ hi, hbehind, hcopied, hwhole,
      Memory.program_outside _ _ (by omega)]
  rw [CopyReported, misMatch_page_iff, ExtraPageFails]
  refine and_congr (forall_congr' fun i => imp_congr_right fun hi => ?_)
    (exists_congr fun i => and_congr_right fun hi => ?_)
  · rw [hresult i (by omega), and_eq_full_iff]
  · rw [hresult i hi, hbehind]

private theorem CopyOp.programsInside
    (hwrites : target.toNat + 256 * (len.toNat / 256 + 1) ≤ 2 ^ 32)
    {op : OspiOp} (h : CopyOp source target len op) :
    ProgramsInside target.toNat (target.toNat + 256 * (len.toNat / 256 + 1)) op := by
  cases h with
  | progress | read => trivial
  | @write page buf _ hpage hop =>
      cases hop with
      | progress | read | modulo => trivial
      | @program chunk hchunk =>
          have hstart : (target + UInt32.ofNat (256 * page)).toNat = target.toNat + 256 * page :=
            toNat_chunkAddress hwrites (by omega)
          have hend := Nat.le_trans (pageEnd_le target.toNat hpage) hwrites
          have haddress := @toNat_chunkAddress (target + UInt32.ofNat (256 * page)) (8 * chunk)
            (256 * 1) (by rw [hstart]; exact hend) (by rw [pageCount_page] at hchunk; omega)
          rw [hstart] at haddress
          rw [pageCount_page] at hchunk
          refine ⟨?_, ?_⟩
          · rw [haddress]
            omega
          · rw [haddress]
            omega

private theorem CopyOp.progressInOrder (hpos : 0 < len.toNat)
    (hsmall : 25600 * (len.toNat / 256) < 2 ^ 32)
    {op : OspiOp} (h : CopyOp source target len op) : ProgressInOrder op := by
  cases h with
  | @progress page hpage =>
      have hvalue : (UInt32.ofNat (256 * page)).toNat = 256 * page :=
        UInt32.toNat_ofNat_of_lt' (show 256 * page < 2 ^ 32 by omega)
      refine ⟨?_, ?_⟩
      · rw [ne_eq, ← UInt32.toNat_inj, UInt32.toNat_zero]
        omega
      · rw [hvalue]
        omega
  | read => trivial
  | write hpage hop =>
      cases hop with
      | @progress page hpage =>
          obtain rfl : page = 0 := Nat.lt_one_iff.1 hpage
          exact ⟨by decide, by decide⟩
      | program | read | modulo => trivial

end Range

/-! ## When the copy is exact -/

section Exact

variable {info : FlashInfo} {content : Memory} {area : FlashArea} {src tgt len : UInt32}

private theorem length_lt
    (hsource : (getBaseAddress area + src).toNat + roundUp len ≤ info.totalSize)
    (htarget : (getBaseAddress area + tgt).toNat + roundUp len ≤ info.totalSize)
    (hdisjoint : (getBaseAddress area + src).toNat + roundUp len ≤ (getBaseAddress area + tgt).toNat ∨
      (getBaseAddress area + tgt).toNat + roundUp len ≤ (getBaseAddress area + src).toNat) :
    len.toNat < 2 ^ 32 - 256 := by
  have htotal := info.totalSize_lt
  have hround := @len_le_roundUp len
  omega

/-- There is a run in which every transfer succeeds. -/
theorem exists_copyEnd
    (hsource : (getBaseAddress area + src).toNat + roundUp len ≤ info.totalSize)
    (htarget : (getBaseAddress area + tgt).toNat + roundUp len ≤ info.totalSize)
    (hdisjoint : (getBaseAddress area + src).toNat + roundUp len ≤ (getBaseAddress area + tgt).toNat ∨
      (getBaseAddress area + tgt).toNat + roundUp len ≤ (getBaseAddress area + src).toNat) :
    ∃ ret chip, Prog.Returns (norStep info.toSectorGeometry) ⟨content, []⟩
      (ospiFlashCopy area src tgt len) ret chip ∧
      CopyEnd False content (getBaseAddress area + src) (getBaseAddress area + tgt) len ret chip := by
  have hsafe := @safe_copy info.toSectorGeometry False _ area content _ _ src tgt len
    (transfers_okStep _) rfl rfl (extraPage_room hsource) (extraPage_room htarget)
    (length_lt hsource htarget hdisjoint)
  obtain ⟨ret, chip, hrun, hend⟩ := hsafe.exists_returns
    fun chip op hguard => okStep_progress _ chip hguard.1.ne_endless
  exact ⟨ret, chip, hrun.mono fun _ _ _ _ => And.left, hend⟩

private theorem not_copiesRange_of_large
    (hsource : (getBaseAddress area + src).toNat + roundUp len ≤ info.totalSize)
    (htarget : (getBaseAddress area + tgt).toNat + roundUp len ≤ info.totalSize)
    (hdisjoint : (getBaseAddress area + src).toNat + roundUp len ≤ (getBaseAddress area + tgt).toNat ∨
      (getBaseAddress area + tgt).toNat + roundUp len ≤ (getBaseAddress area + src).toNat)
    (hblank : content.Blank (getBaseAddress area + tgt).toNat (roundUp len))
    (hlarge : 2 ^ 32 ≤ 25600 * (len.toNat / 256)) :
    ¬ CopiesRange info.toSectorGeometry content area src tgt len := by
  intro hcopies
  obtain ⟨ret, chip, hrun, hend⟩ := @exists_copyEnd info content area src tgt len hsource htarget
    hdisjoint
  have hlast : .progress (UInt32.ofNat (256 * (len.toNat / 256))) len ∈ chip.journal := by
    rcases hend with ⟨-, hcopied⟩ | ⟨-, page, hpage, hstopped⟩
    · exact hcopied.progress _ (Nat.lt_succ_self _)
    · have hreported := hstopped.reason.resolve_left id
      have hbehind : ¬ page < (pageCount len).toNat := fun hinside =>
        not_copyReported hinside hdisjoint hblank hreported
      rw [toNat_pageCount] at hbehind
      exact hstopped.progress _ (by omega)
  have hvalue : (UInt32.ofNat (256 * (len.toNat / 256))).toNat = 256 * (len.toNat / 256) := by
    have hlen := len.toNat_lt
    exact UInt32.toNat_ofNat_of_lt' (show 256 * (len.toNat / 256) < 2 ^ 32 by omega)
  have hproduct := (hcopies.progress chip ⟨_, hrun⟩ _ hlast).2
  rw [hvalue] at hproduct
  omega

private theorem not_copiesRange_of_extra
    (hsource : (getBaseAddress area + src).toNat + roundUp len ≤ info.totalSize)
    (htarget : (getBaseAddress area + tgt).toNat + roundUp len ≤ info.totalSize)
    (hdisjoint : (getBaseAddress area + src).toNat + roundUp len ≤ (getBaseAddress area + tgt).toNat ∨
      (getBaseAddress area + tgt).toNat + roundUp len ≤ (getBaseAddress area + src).toNat)
    (hblank : content.Blank (getBaseAddress area + tgt).toNat (roundUp len))
    (hpages : len.toNat % 256 = 0)
    (hextra : ¬ ExtraPageFails content (getBaseAddress area + src).toNat
      (getBaseAddress area + tgt).toNat len.toNat) :
    ¬ CopiesRange info.toSectorGeometry content area src tgt len := by
  intro hcopies
  obtain ⟨ret, chip, hrun, hend⟩ := @exists_copyEnd info content area src tgt len hsource htarget
    hdisjoint
  rcases hend with ⟨rfl, hcopied⟩ | ⟨-, page, hpage, hstopped⟩
  · obtain ⟨buf, hmem⟩ := hcopied.programs (len.toNat / 256) (Nat.lt_succ_self _)
    have hinside : ProgramsInside _ _ _ := (hcopies.copies chip hrun).2 _ hmem
    have haddress : (getBaseAddress area + tgt +
        UInt32.ofNat (256 * (len.toNat / 256))).toNat =
          (getBaseAddress area + tgt).toNat + 256 * (len.toNat / 256) :=
      toNat_chunkAddress (extraPage_room htarget) (by omega)
    have hend := hinside.2
    rw [roundUp_of_pages hpages, Nat.mul_zero, show UInt32.ofNat 0 = 0 from rfl, UInt32.add_zero,
      haddress] at hend
    omega
  · have hreported := hstopped.reason.resolve_left id
    have hbehind : ¬ page < (pageCount len).toNat := fun hinside =>
      not_copyReported hinside hdisjoint hblank hreported
    rw [toNat_pageCount] at hbehind
    obtain rfl : page = len.toNat / 256 := by omega
    exact hextra ((copyReported_extra hpages hdisjoint hblank).1 hreported)

/-- The copy is exact for a length that is not a multiple of the page size, as long as the product
of the percentage fits; and else only when the page behind the range makes it fail. -/
theorem copiesRange_iff (hpos : 0 < len.toNat)
    (hsource : (getBaseAddress area + src).toNat + roundUp len ≤ info.totalSize)
    (htarget : (getBaseAddress area + tgt).toNat + roundUp len ≤ info.totalSize)
    (hdisjoint : (getBaseAddress area + src).toNat + roundUp len ≤ (getBaseAddress area + tgt).toNat ∨
      (getBaseAddress area + tgt).toNat + roundUp len ≤ (getBaseAddress area + src).toNat)
    (hblank : content.Blank (getBaseAddress area + tgt).toNat (roundUp len)) :
    CopiesRange info.toSectorGeometry content area src tgt len ↔
      25600 * (len.toNat / 256) < 2 ^ 32 ∧
      (len.toNat % 256 ≠ 0 ∨ ExtraPageFails content (getBaseAddress area + src).toNat
        (getBaseAddress area + tgt).toNat len.toNat) := by
  constructor
  · intro hcopies
    refine ⟨?_, ?_⟩
    · by_contra hlarge
      exact not_copiesRange_of_large hsource htarget hdisjoint hblank (Nat.le_of_not_lt hlarge)
        hcopies
    · by_contra hnone
      obtain ⟨hpages, hextra⟩ := not_or.1 hnone
      exact not_copiesRange_of_extra hsource htarget hdisjoint hblank (not_not.1 hpages) hextra
        hcopies
  rintro ⟨hsmall, hcondition⟩
  have hsafe := @safe_copy info.toSectorGeometry True _ area content _ _ src tgt len
    (transfers_norStep _) rfl rfl (extraPage_room hsource) (extraPage_room htarget)
    (length_lt hsource htarget hdisjoint)
  refine ⟨fun chip hrun => ?_, fun chip hvisits => ?_⟩
  · rcases hsafe.returns hrun with ⟨-, hcopied⟩ | ⟨hret, -⟩
    · have hrest : len.toNat % 256 ≠ 0 := by
        intro hpages
        refine hcopied.passed (len.toNat / 256) (Nat.lt_succ_self _) ?_
        exact (copyReported_extra hpages hdisjoint hblank).2
          (hcondition.resolve_left (not_not_intro hpages))
      have hround := roundUp_of_rest hrest
      refine ⟨fun i hi => ?_, fun op hop => ?_⟩
      · rw [hround] at hdisjoint hi hblank
        rw [hcopied.flash, copiedPages_eq hdisjoint, Memory.program_blank _ hblank hi]
      · rw [hround]
        exact (hcopied.journal op hop).programsInside (extraPage_room htarget)
    · cases hret
  · have hops := hsafe.visits (fun _ _ hguard => hguard.2) (fun ret chip hend => ?_) hvisits
    · exact fun op hop => (hops op hop).progressInOrder hpos hsmall
    · rcases hend with ⟨-, hcopied⟩ | ⟨-, page, -, hstopped⟩
      · exact hcopied.journal
      · exact hstopped.journal

end Exact

private theorem wholePages64K : 256 ∣ gigadevice.sectSize.toNat := by decide

def gigadeviceInfo : FlashInfo where
  toSectorGeometry := gigadevice
  wholePages := wholePages64K

/-- A page and a part of the next one, that hold data. -/
theorem copiesRange_part :
    CopiesRange gigadevice (fun a => if a < 300 then UInt8.ofNat a else 0xFF) .clFlashBoot 0 0x20000
      300 := by
  have hblank : Memory.Blank (fun a => if a < 300 then UInt8.ofNat a else 0xFF)
      (getBaseAddress .clFlashBoot + 0x20000).toNat (roundUp 300) := by
    intro a hlow _
    have hstart : (getBaseAddress .clFlashBoot + 0x20000).toNat = 0x20000 := rfl
    exact if_neg (by omega)
  exact (@copiesRange_iff gigadeviceInfo _ .clFlashBoot 0 0x20000 300 (by decide) (by decide)
    (by decide) (by decide) hblank).2 ⟨by decide, .inl (by decide)⟩

/-- One page is to be copied, and the page behind it is programmed too. -/
theorem not_copiesRange_page :
    ¬ CopiesRange gigadevice (fun a => if a < 256 then 0xAA else 0xFF) .clFlashBoot 0 0x20000 256 := by
  refine @not_copiesRange_of_extra gigadeviceInfo (fun a => if a < 256 then 0xAA else 0xFF)
    .clFlashBoot 0 0x20000 256 (by decide) (by decide) (by decide) ?_ (by decide) ?_
  · intro a hlow _
    have hhigh : ¬ a < 256 := by
      have hstart : (getBaseAddress .clFlashBoot + 0x20000).toNat = 0x20000 := rfl
      omega
    exact if_neg hhigh
  · rintro ⟨-, i, hi, hdiffers⟩
    apply hdiffers
    have hbehind : pageBehind (fun a => if a < 256 then 0xAA else 0xFF) 0 0x20000 256 i = 0xFF := by
      rw [pageBehind, if_neg (by omega), if_neg (by omega)]
    have htarget : (fun a => if a < 256 then (0xAA : UInt8) else 0xFF) (0x20000 + 256 + i) = 0xFF :=
      if_neg (by omega)
    exact (congrArg₂ (· &&& ·) htarget hbehind).trans hbehind.symm

end Vmr.Flash
