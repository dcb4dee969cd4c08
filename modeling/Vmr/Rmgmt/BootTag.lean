import Vmr.Flash.SafeWrite
import Vmr.Rmgmt.FlashImage

/-!
# The boot tag goes in last

From the erase of the partition on, the boot tag on the flash is all ones until
the rest of the image is there.  What may break this is the metadata, whose
update erases its sector.
-/

namespace Vmr.Rmgmt

open Vmr.Lib Vmr.Flash

/-! ## The image on the flash -/

def TagByte (index : Nat) : Prop := bootTagOffset ≤ index ∧ index < bootTagOffset + 4

instance (index : Nat) : Decidable (TagByte index) := inferInstanceAs (Decidable (_ ∧ _))

section Image

variable (pdi : Nat → UInt8) (base len : Nat) (content : Memory)

def TagErased : Prop := ∀ index, TagByte index → content (base + index) = 0xFF

/-- All bytes of the image but the boot tag. -/
def Present : Prop := ∀ index < len, ¬ TagByte index → content (base + index) = pdi index

def TagLast : Prop := TagErased base content ∨ Present pdi base len content

variable {pdi base len content}

theorem TagErased.program {addr count : Nat} {data : Nat → UInt8} (h : TagErased base content)
    (hdata : ∀ index, TagByte index → addr ≤ base + index → data (base + index - addr) = 0xFF) :
    TagErased base (content.program addr count data) := by
  intro index hindex
  rw [Memory.program]
  split
  next hin => rw [h index hindex, hdata index hindex hin.1, Memory.full_and]
  · exact h index hindex

theorem Present.program {addr count : Nat} {data : Nat → UInt8} (h : Present pdi base len content)
    (hdata : ∀ index < len, ¬ TagByte index → addr ≤ base + index → base + index < addr + count →
      data (base + index - addr) = pdi index) :
    Present pdi base len (content.program addr count data) := by
  intro index hindex htag
  rw [Memory.program]
  split
  next hin =>
    rw [h index hindex htag, hdata index hindex htag hin.1 hin.2, and_self_byte]
  · exact h index hindex htag

theorem Present.erase {addr count : Nat} (h : Present pdi base len content)
    (hapart : base + len ≤ addr ∨ addr + count ≤ base) :
    Present pdi base len (content.erase addr count) := by
  intro index hindex htag
  rw [Memory.erase_outside _ (by omega)]
  exact h index hindex htag

end Image

/-! ## Writes and erases that keep the image -/

section Transfers

variable {info : FlashInfo} {mayFail : Prop}
  {step : Chip → (op : OspiOp) → OspiAns op → Chip → Prop} {pdi : Nat → UInt8} {base len : Nat}
  {chip : Chip}

def EraseApart (info : FlashInfo) (base len : Nat) (address byteCount : UInt32) : Prop :=
  base + len ≤ eraseStart info address ∨
    eraseEnd info.toSectorGeometry address.toNat byteCount.toNat ≤ base

private theorem safe_erase_present (htransfers : Transfers info.toSectorGeometry mayFail step)
    {address byteCount : UInt32} (hless : byteCount.toNat < info.totalSize)
    (hinside : address.toNat + byteCount.toNat ≤ info.totalSize)
    (hapart : EraseApart info base len address byteCount) (h : Present pdi base len chip.content) :
    Prog.Safe step (fun chip' _ => Present pdi base len chip'.content)
      (fun _ chip' => Present pdi base len chip'.content)
      (ospiFlashErase info.toSectorGeometry .clFlashBoot address byteCount) chip := by
  have hpart : ∀ done ≤ (numSectors info.toSectorGeometry address byteCount).toNat,
      Present pdi base len (chip.content.erase (info.sector address.toNat * info.size)
        (done * info.size)) := by
    intro done hdone
    refine h.erase (hapart.imp_right fun hend => ?_)
    rw [eraseEnd, if_neg (Nat.ne_of_lt hless), ← sector_add_numSectors hless hinside,
      Nat.add_mul] at hend
    exact Nat.le_trans (Nat.add_le_add_left (Nat.mul_le_mul_right _ hdone) _) hend
  rw [ospiFlashErase, getBaseAddress, UInt32.zero_add]
  refine (safe_flashErase htransfers hless hinside chip).mono ?_ ?_
  · rintro chip' op ⟨index, hindex, -, herased⟩
    rw [herased.content]
    exact hpart index (Nat.le_of_lt hindex)
  · rintro ret chip' (⟨-, herased⟩ | ⟨-, -, index, hindex, done, hdone, herased⟩)
    · rw [herased.content]
      exact hpart _ (Nat.le_refl _)
    · rw [herased.content]
      exact hpart done (by omega)

private theorem safe_write_keeps (htransfers : Transfers info.toSectorGeometry mayFail step)
    {offset count : UInt32} {buf : Nat → UInt8} (hcount : count.toNat ≤ 2 ^ 32 - 256)
    (hinside : offset.toNat + roundUp count ≤ 2 ^ 32) {keeps : Memory → Prop}
    (h : ∀ length ≤ roundUp count, keeps (chip.content.program offset.toNat length buf)) :
    Prog.Safe step (fun chip' _ => keeps chip'.content)
      (fun ret chip' => keeps chip'.content ∧
        (ret = 0 → chip'.content = chip.content.program offset.toNat (roundUp count) buf))
      (ospiFlashWrite .clFlashBoot buf offset count) chip := by
  have hsent : ∀ {chip' : Chip} {chunks : Nat}, chunks ≤ 32 * (pageCount count).toNat →
      Sent offset count buf chip chip' chunks → keeps chip'.content := by
    intro chip' chunks hchunks hsent
    rw [hsent.content]
    exact h _ (by rw [roundUp]; omega)
  refine (safe_write htransfers (UInt32.zero_add offset) hcount hinside chip).mono ?_ ?_
  · rintro chip' op ⟨-, chunks, hchunks, hsent'⟩
    exact hsent hchunks hsent'
  · intro ret chip' hend
    cases hend with
    | done hchecked =>
        exact ⟨hsent (Nat.le_refl _) hchecked.sent, fun _ => hchecked.sent.content_eq⟩
    | stopped hfail hchunks hsent' =>
        exact ⟨hsent hchunks hsent', fun hzero => absurd hzero (by decide)⟩
    | refused hrefused =>
        exact ⟨hsent (Nat.le_refl _) hrefused.sent, fun hzero => absurd hzero (by decide)⟩

private theorem safe_write_present (htransfers : Transfers info.toSectorGeometry mayFail step)
    {offset count : UInt32} {buf : Nat → UInt8} (hcount : count.toNat ≤ 2 ^ 32 - 256)
    (hinside : offset.toNat + roundUp count ≤ 2 ^ 32) (h : Present pdi base len chip.content)
    (hbuf : ∀ index < len, ¬ TagByte index → offset.toNat ≤ base + index →
      base + index < offset.toNat + roundUp count → buf (base + index - offset.toNat) = pdi index) :
    Prog.Safe step (fun chip' _ => Present pdi base len chip'.content)
      (fun _ chip' => Present pdi base len chip'.content)
      (ospiFlashWrite .clFlashBoot buf offset count) chip := by
  refine (@safe_write_keeps _ _ _ chip htransfers _ _ buf hcount hinside (Present pdi base len)
    fun length hlength => h.program fun index hindex htag hlow hhigh =>
      hbuf index hindex htag hlow (by omega)).weaken ?_
  exact fun ret chip' hend => hend.1

private theorem safe_eraseAndWrite_present
    (htransfers : Transfers info.toSectorGeometry mayFail step)
    {offset count : UInt32} {buf : Nat → UInt8} (hpos : 0 < count.toNat)
    (hpages : count.toNat % 256 = 0) (hless : count.toNat < info.totalSize)
    (hinside : offset.toNat + count.toNat ≤ info.totalSize)
    (hapart : EraseApart info base len offset count) (h : Present pdi base len chip.content)
    {cached : Option (Nat → UInt8)}
    (hcached : ∀ sector, cached = some sector → ∀ index < len, ¬ TagByte index →
      offset.toNat + keptFrom info count ≤ base + index →
      base + index < offset.toNat + keptFrom info count + info.size →
        sector (base + index - (offset.toNat + keptFrom info count)) = pdi index) :
    Prog.Safe step (fun chip' _ => Present pdi base len chip'.content)
      (fun _ chip' => Present pdi base len chip'.content)
      (eraseAndWrite info buf offset count cached) chip := by
  have hroom := info.totalSize_add_size_le
  have hpage := page_le_size info
  have hround := roundUp_of_pages hpages
  have hsectors := @keptFrom_add info count
  rw [eraseAndWrite]
  refine (safe_erase_present htransfers hless hinside hapart h).bind fun ret chip' h' => ?_
  split
  · exact h'
  refine (safe_write_present htransfers (by omega) (by omega) h' ?_).bind fun ret chip' h' => ?_
  · intro index hindex _ hlow hhigh
    have hstart := @eraseStart_le info offset
    have hend := le_eraseEnd hinside
    rcases hapart with hapart | hapart <;> omega
  split
  · exact h'
  cases cached with
  | none => exact h'
  | some sector =>
      have hbase : (offset + (count - count % info.sectSize)).toNat =
          offset.toNat + keptFrom info count := by
        rw [toNat_kept, Nat.mod_eq_of_lt (by omega)]
      have hsize : info.sectSize.toNat = info.size := rfl
      have hwhole : roundUp info.sectSize = info.size := roundUp_of_pages (by
        have hpages := info.wholePages
        omega)
      refine safe_write_present htransfers (by omega) (by omega) h' ?_
      rw [hbase, hwhole]
      exact hcached sector rfl

private theorem safe_safeWrite_present (htransfers : Transfers info.toSectorGeometry mayFail step)
    {area : FlashArea} {offset count : UInt32} {buf : Nat → UInt8} (hpos : 0 < count.toNat)
    (hpages : count.toNat % 256 = 0) (hless : count.toNat < info.totalSize)
    (hinside : offset.toNat + count.toNat ≤ info.totalSize)
    (hapart : EraseApart info base len offset count) (h : Present pdi base len chip.content) :
    Prog.Safe step (fun chip' _ => Present pdi base len chip'.content)
      (fun _ chip' => Present pdi base len chip'.content)
      (ospiFlashSafeWrite info area buf offset count) chip := by
  have hmod : (count % info.sectSize).toNat = count.toNat % info.size := UInt32.toNat_mod _ _
  have hsum := @keptFrom_add info count
  have hroom := info.totalSize_add_size_le
  have hpage := page_le_size info
  have hbase : (offset + (count - count % info.sectSize)).toNat =
      offset.toNat + keptFrom info count := by
    rw [toNat_kept, Nat.mod_eq_of_lt (by omega)]
  have hkept : (count - count % info.sectSize).toNat = keptFrom info count := by
    rw [UInt32.toNat_sub_of_le _ _ (UInt32.le_iff_toNat_le.2 (by omega)), hmod]
    omega
  rw [ospiFlashSafeWrite]
  split
  · exact h
  split
  · exact h
  split
  next =>
    refine ⟨h, fun (allocated : Bool) chip' hstep => ?_⟩
    obtain ⟨hnor, -⟩ := htransfers _ _ _ _ hstep
    obtain rfl : chip' = chip.issue (.malloc info.sectSize.toNat) := hnor
    cases allocated with
    | false => exact h
    | true =>
        change Prog.Safe step _ _ (ospiFlashRead .clFlashBoot (offset + (count - count % info.sectSize))
          info.sectSize.toNat >>= _) _
        rw [ospiFlashRead, boot_add]
        refine ⟨h, fun (found : Option Memory) chip' hstep => ?_⟩
        obtain ⟨⟨rfl, hfound⟩, -⟩ := htransfers _ _ _ _ hstep
        cases found with
        | none => exact h
        | some content =>
            have hread : Present pdi base len ((chip.issue (.malloc info.sectSize.toNat)).issue
                (.read (offset + (count - count % info.sectSize)) info.sectSize.toNat)).content := h
            refine @safe_eraseAndWrite_present info mayFail step pdi base len _ htransfers offset count
              buf hpos hpages hless hinside hapart hread (some (sectorBuffer content buf
                (count - count % info.sectSize).toNat (count % info.sectSize).toNat)) ?_
            intro sector hsector index hindex htag hlow hhigh
            obtain rfl := Option.some.inj hsector
            have hstart := @eraseStart_le info offset
            have hend := le_eraseEnd hinside
            have hbehind : ¬ base + index - (offset.toNat + keptFrom info count) <
                count.toNat % info.size := by
              rcases hapart with hapart | hapart <;> omega
            rw [sectorBuffer, hmod, if_neg hbehind, hfound content rfl _ (by
              change _ < info.size
              omega), hbase, Nat.add_sub_cancel' hlow]
            exact h index hindex htag
  · exact @safe_eraseAndWrite_present info mayFail step pdi base len chip htransfers offset
      count buf hpos hpages hless hinside hapart h none
        fun sector hsector => absurd hsector.symm (Option.some_ne_none sector)

private theorem safe_metaSet (htransfers : Transfers info.toSectorGeometry mayFail step)
    {payload : BootPayload} {fptType : UInt32} {pdiMeta : FptPdiMeta}
    (hless : ospiVersalPagesize < info.totalSize)
    (hinside : (rmgmtFptPdiGetBase payload fptType).toNat + ospiVersalPagesize ≤ info.totalSize)
    (hapart : EraseApart info base len (rmgmtFptPdiGetBase payload fptType)
      (UInt32.ofNat ospiVersalPagesize)) (h : Present pdi base len chip.content) :
    Prog.Safe step (fun chip' _ => Present pdi base len chip'.content)
      (fun _ chip' => Present pdi base len chip'.content)
      (rmgmtFptPdiMetaSet info payload fptType pdiMeta) chip := by
  rw [rmgmtFptPdiMetaSet]
  split
  · exact h
  · exact safe_safeWrite_present htransfers (by decide) (by decide) hless hinside hapart h

end Transfers

/-! ## A flash run -/

/-- Where the partition and its metadata have to be; the code does not check it. -/
structure TagLayout (info : FlashInfo) (payload : BootPayload) (len : UInt32) : Prop where
  inside : payload.defaultPartitionOffset.toNat + len.toNat ≤ info.totalSize
  /-- The first sector that is erased holds the boot tag. -/
  tagFirst : info.sector (payload.defaultPartitionOffset.toNat + (bootTagOffset + 3)) =
    info.sector payload.defaultPartitionOffset.toNat
  metaInside : payload.pdimetaOffset.toNat + ospiVersalPagesize ≤ info.totalSize
  metaApart : EraseApart info payload.defaultPartitionOffset.toNat len.toNat payload.pdimetaOffset
    (UInt32.ofNat ospiVersalPagesize)

/-- No sector has been erased yet; the erase of the first one may have been tried. -/
def NotErased (offset : UInt32) (chip₁ chip' : Chip) : Prop :=
  chip'.content = chip₁.content ∧ ∀ op ∈ chip'.journal, op ∈ chip₁.journal ∨ op = .sectorErase offset

section Run

variable {info : FlashInfo} {mayFail : Prop}
  {step : Chip → (op : OspiOp) → OspiAns op → Chip → Prop} {payload : BootPayload}
  {memory : Memory} {pdiData len : UInt32} {pdiMeta : FptPdiMeta} {chip : Chip}

private theorem TagLayout.tagErased (hlayout : TagLayout info payload len) {content : Memory}
    {sectors : Nat}
    (hsectors : 0 < sectors) : TagErased payload.defaultPartitionOffset.toNat (content.erase
      (info.sector payload.defaultPartitionOffset.toNat * info.size) (sectors * info.size)) := by
  rintro index ⟨hlow, hhigh⟩
  have hstart := Nat.div_mul_le_self payload.defaultPartitionOffset.toNat info.size
  have hend := @Nat.lt_div_mul_add (payload.defaultPartitionOffset.toNat + (bootTagOffset + 3)) _
    info.size_pos
  have htag : (payload.defaultPartitionOffset.toNat + (bootTagOffset + 3)) / info.size =
    payload.defaultPartitionOffset.toNat / info.size := hlayout.tagFirst
  have hfirst : 1 * info.size ≤ sectors * info.size := Nat.mul_le_mul_right _ hsectors
  rw [htag] at hend
  rw [SectorGeometry.sector]
  exact Memory.erase_inside _ (by omega) (by omega)

private theorem notErased_or_tagErased (hlayout : TagLayout info payload len) {chip' : Chip}
    {sent done : Nat} (hsent : sent ≤ done + 1)
    (h : Erased info.toSectorGeometry payload.defaultPartitionOffset chip chip' sent done) :
    NotErased payload.defaultPartitionOffset chip chip' ∨
      TagErased payload.defaultPartitionOffset.toNat chip'.content := by
  rcases Nat.eq_zero_or_pos done with rfl | hdone
  · refine .inl ⟨by rw [h.content, Nat.zero_mul, Memory.erase_zero], fun op hmem => ?_⟩
    rcases (h.journal op).1 hmem with ⟨index, hindex, rfl⟩ | hold
    · obtain rfl : index = 0 := by omega
      exact .inr (by rw [eraseAddress, show UInt32.ofNat 0 = 0 from rfl, UInt32.zero_mul, UInt32.add_zero])
    · exact .inl hold
  · rw [h.content]
    exact .inr (hlayout.tagErased hdone)

private theorem safe_eraseDefault (htransfers : Transfers info.toSectorGeometry mayFail step)
    (hlayout : TagLayout info payload len)
    (hless : len.toNat < info.totalSize) :
    Prog.Safe step
      (fun chip' _ => NotErased payload.defaultPartitionOffset chip chip' ∨
        TagErased payload.defaultPartitionOffset.toNat chip'.content)
      (fun ret chip' => (NotErased payload.defaultPartitionOffset chip chip' ∨
          TagErased payload.defaultPartitionOffset.toNat chip'.content) ∧
        (ret = 0 → TagErased payload.defaultPartitionOffset.toNat chip'.content ∧
          chip'.content.Blank payload.defaultPartitionOffset.toNat len.toNat))
      (ospiFlashErase info.toSectorGeometry .clFlashBoot payload.defaultPartitionOffset len)
      chip := by
  have hsectors := sector_add_numSectors hless hlayout.inside
  have hmono : info.sector payload.defaultPartitionOffset.toNat ≤
      info.sector (payload.defaultPartitionOffset.toNat + len.toNat) :=
    Nat.div_le_div_right (Nat.le_add_right _ _)
  rw [ospiFlashErase, boot_add]
  refine (safe_flashErase htransfers hless hlayout.inside chip).mono ?_ ?_
  · rintro chip' op ⟨index, -, -, herased⟩
    exact notErased_or_tagErased hlayout (Nat.le_succ index) herased
  · rintro ret chip' (⟨rfl, herased⟩ | ⟨hret, -, index, -, done, hdone, herased⟩)
    · refine ⟨notErased_or_tagErased hlayout (Nat.le_succ _) herased, fun _ => ?_⟩
      rw [herased.content]
      refine ⟨hlayout.tagErased (by omega), (Memory.blank_erase _ _ _).sub eraseStart_le ?_⟩
      have hend := le_eraseEnd hlayout.inside
      rwa [eraseEnd, if_neg (Nat.ne_of_lt hless), ← hsectors, Nat.add_mul] at hend
    · exact ⟨notErased_or_tagErased hlayout (by omega) herased, fun hzero => absurd hzero hret⟩

private theorem dataAt_maskTag_tag {index : Nat} (h : TagByte index) :
    dataAt (maskTag memory pdiData) pdiData index = 0xFF := by
  obtain ⟨position, rfl⟩ := Nat.exists_eq_add_of_le h.1
  have hposition := h.2
  rw [dataAt, ← Nat.add_assoc]
  exact maskTag_inside memory pdiData (by omega)

private theorem dataAt_maskTag_rest {index : Nat} (h : ¬ TagByte index) :
    dataAt (maskTag memory pdiData) pdiData index = dataAt memory pdiData index := by
  refine maskTag_outside memory pdiData ?_
  rw [TagByte] at h
  rw [plmBootTagAddr]
  omega

private theorem safe_programDefault (htransfers : Transfers info.toSectorGeometry mayFail step)
    (hlayout : TagLayout info payload len) (hless : len.toNat < info.totalSize)
    (hpage : ospiVersalPagesize ≤ len.toNat)
    (htag : TagErased payload.defaultPartitionOffset.toNat chip.content)
    (hblank : chip.content.Blank payload.defaultPartitionOffset.toNat len.toNat) :
    Prog.Safe step
      (fun chip' _ => TagLast (dataAt memory pdiData) payload.defaultPartitionOffset.toNat
        len.toNat chip'.content)
      (fun _ chip' => TagLast (dataAt memory pdiData) payload.defaultPartitionOffset.toNat
        len.toNat chip'.content)
      (programDefault info payload memory pdiData len pdiMeta) chip := by
  have hdata := @len_le_roundUp len
  have hroom := info.totalSize_add_size_le
  have hsize := page_le_size info
  have hinside := hlayout.inside
  have hround : roundUp len < len.toNat + 256 := by
    rw [roundUp, toNat_pageCount]
    omega
  have hrestored : (maskTag memory pdiData).store32 (plmBootTagAddr pdiData)
      (memory.load32 (plmBootTagAddr pdiData)) = memory :=
    Memory.store32_load32 memory _ bootTagMask
  rw [programDefault]
  refine Prog.Safe.bind ((@safe_write_keeps info mayFail step chip htransfers
    payload.defaultPartitionOffset len (dataAt (maskTag memory pdiData) pdiData) (by omega) (by omega)
    (TagErased payload.defaultPartitionOffset.toNat) fun length _ => htag.program fun index hindex _ => ?_).mono
    (fun _ _ => .inl) fun _ _ => id) ?_
  · rw [Nat.add_sub_cancel_left]
    exact dataAt_maskTag_tag hindex
  rintro ret chip' ⟨herased, hwritten⟩
  dsimp only
  split
  · exact .inl herased
  next hret =>
    have hpresent : Present (dataAt memory pdiData) payload.defaultPartitionOffset.toNat len.toNat
        chip'.content := by
      intro index hindex htag
      rw [hwritten (not_not.1 hret), Memory.program_inside _ _ (by omega),
        hblank _ (by omega) (by omega), Memory.full_and]
      exact dataAt_maskTag_rest htag
    rw [hrestored]
    refine Prog.Safe.bind ((safe_write_present htransfers (by decide) ?_ hpresent ?_).mono
      (fun _ _ => .inr) fun _ _ => id) ?_
    · rw [roundUp_of_pages (by decide)]
      change _ + ospiVersalPagesize ≤ _
      omega
    · intro index _ _ _ _
      rw [Nat.add_sub_cancel_left]
    intro ret chip' hpresent
    split
    · exact .inr hpresent
    · refine Prog.Safe.bind ((@safe_metaSet info mayFail step _ _ _ chip' htransfers payload
        fptTypePdimeta _ (by omega) hlayout.metaInside hlayout.metaApart hpresent).mono (fun _ _ => .inr) fun _ _ => id) ?_
      exact fun ret chip' hpresent => .inr hpresent

private theorem safe_writeDefault (htransfers : Transfers info.toSectorGeometry mayFail step)
    (hlayout : TagLayout info payload len) (hless : len.toNat < info.totalSize)
    (hpage : ospiVersalPagesize ≤ len.toNat) :
    Prog.Safe step
      (fun chip' _ => NotErased payload.defaultPartitionOffset chip chip' ∨
        TagLast (dataAt memory pdiData) payload.defaultPartitionOffset.toNat len.toNat chip'.content)
      (fun _ chip' => NotErased payload.defaultPartitionOffset chip chip' ∨
        TagLast (dataAt memory pdiData) payload.defaultPartitionOffset.toNat len.toNat chip'.content)
      (writeDefault info payload memory pdiData len pdiMeta) chip := by
  rw [writeDefault]
  refine Prog.Safe.bind ((safe_eraseDefault htransfers hlayout hless).mono
    (fun _ _ h => h.imp_right .inl) fun _ _ => id) ?_
  rintro ret chip' ⟨herase, herased⟩
  split
  · exact herase.imp_right .inl
  next hret =>
    obtain ⟨htag, hblank⟩ := herased (not_not.1 hret)
    exact (safe_programDefault htransfers hlayout hless hpage htag hblank).mono (fun _ _ => .inr)
      fun _ _ => .inr

end Run

/-- A flash state behind the preparations of a call with a partition table. -/
structure FlashRun (call : FlashCall) (chip : Chip) (payload : BootPayload) (pdiData len : UInt32)
    (chip₁ chip' : Chip) : Prop where
  fresh : call.rh.rhAlreadyFlashed = false
  partitioned : call.request.flashToLegacy = false
  pdi : call.pdi = some (pdiData, len)
  run : ∃ pdiMeta,
    Prog.Returns (norStep call.info.toSectorGeometry) chip
      (prepareFlash call.info call.request call.env call.payload len) (.ok (payload, pdiMeta)) chip₁ ∧
    Prog.Visits (norStep call.info.toSectorGeometry) chip₁
      (writeDefault call.info payload call.env.memory pdiData len pdiMeta) chip'

section FlashRun

variable {call : FlashCall} {chip chip₁ chip' : Chip} {payload : BootPayload} {pdiData len : UInt32}

private theorem FlashCall.prog_of_pdi (hfresh : call.rh.rhAlreadyFlashed = false)
    (hpartitioned : call.request.flashToLegacy = false) (hpdi : call.pdi = some (pdiData, len)) :
    call.prog = flashDefault call.info call.request call.env call.payload pdiData len := by
  obtain ⟨found, hinfo, heq⟩ := Option.map_eq_some_iff.1 hpdi
  obtain ⟨rfl, rfl⟩ := Prod.mk.inj heq
  unfold FlashCall.xclbin at hinfo
  unfold FlashCall.prog rmgmtFlashRpuPdi
  rw [if_neg (by simp [hfresh]), hinfo]
  dsimp only
  rw [if_neg (by simp [hpartitioned])]

theorem visits_prog_iff (hfresh : call.rh.rhAlreadyFlashed = false)
    (hpartitioned : call.request.flashToLegacy = false) (hpdi : call.pdi = some (pdiData, len)) :
    Prog.Visits (norStep call.info.toSectorGeometry) chip call.prog chip' ↔
      Prog.Visits (norStep call.info.toSectorGeometry) chip
        (prepareFlash call.info call.request call.env call.payload len) chip' ∨
      ∃ payload chip₁, FlashRun call chip payload pdiData len chip₁ chip' := by
  rw [FlashCall.prog_of_pdi hfresh hpartitioned hpdi, flashDefault]
  constructor
  · intro hvisits
    rcases Prog.visits_bind hvisits with hprepare | ⟨prepared, chip₁, hreturns, hrest⟩
    · exact .inl hprepare
    · cases prepared with
      | error ret =>
          obtain ⟨q, run⟩ := hrest
          cases run
          exact .inl ⟨_, hreturns⟩
      | ok prepared =>
          exact .inr ⟨prepared.1, chip₁, hfresh, hpartitioned, hpdi, prepared.2, hreturns, hrest⟩
  · rintro (⟨q, run⟩ | ⟨payload, chip₁, hrun⟩)
    · exact ⟨_, run.bind _⟩
    · obtain ⟨pdiMeta, hreturns, q, rest⟩ := hrun.run
      exact ⟨q, (Prog.Exec.bind hreturns _).trans rest⟩

private theorem prepareFlash_offset {pdiMeta : FptPdiMeta}
    (hreturns : Prog.Returns (norStep call.info.toSectorGeometry) chip
      (prepareFlash call.info call.request call.env call.payload len) (.ok (payload, pdiMeta)) chip₁) :
    payload.defaultPartitionOffset ≠ 0 := by
  obtain ⟨queried, s₁, -, hrest⟩ := Prog.returns_bind.1 hreturns
  split at hrest
  · cases (Prog.returns_ret.1 hrest).1
  obtain ⟨ret, s₂, -, hrest⟩ := Prog.returns_bind.1 hrest
  split at hrest
  · cases (Prog.returns_ret.1 hrest).1
  obtain ⟨prepared, s₃, hprepare, hrest⟩ := Prog.returns_bind.1 hrest
  cases prepared with
  | error ret => cases (Prog.returns_ret.1 hrest).1
  | ok found =>
      obtain ⟨rfl, -⟩ := Prod.mk.inj (Except.ok.inj (Prog.returns_ret.1 hrest).1)
      intro hzero
      rw [prepareDefault, if_pos hzero, ite_self] at hprepare
      cases (Prog.returns_ret.1 hprepare).1

/-- In every state behind the preparations, once the first sector of the partition is erased, the
boot tag on the flash is all ones or the rest of the image is there. -/
theorem tagLast_of_flashRun (hlayout : TagLayout call.info payload len)
    (hpage : ospiVersalPagesize ≤ len.toNat)
    (hrun : FlashRun call chip payload pdiData len chip₁ chip') :
    NotErased payload.defaultPartitionOffset chip₁ chip' ∨
      TagLast (dataAt call.env.memory pdiData) payload.defaultPartitionOffset.toNat len.toNat
        chip'.content := by
  obtain ⟨pdiMeta, hreturns, hvisits⟩ := hrun.run
  have hoffset := prepareFlash_offset hreturns
  have hless : len.toNat < call.info.totalSize := by
    have hinside := hlayout.inside
    have hpositive : payload.defaultPartitionOffset.toNat ≠ 0 :=
      fun hzero => hoffset (UInt32.toNat_inj.1 hzero)
    omega
  exact (safe_writeDefault (transfers_norStep _) hlayout hless hpage).visits (fun _ _ => id)
    (fun _ _ => id) hvisits

/-! ## Runs that are interrupted -/

def interrupted (info : SectorGeometry) (fails : OspiOp → Bool) (chip : Chip) :
    (op : OspiOp) → Option (OspiAns op × Chip)
  | .program address source count data =>
      if fails (.program address source count data) then
        some (false, chip.issue (.program address source count data))
      else some (true, chip.update (.program address source count data)
        (chip.content.program address.toNat count data))
  | .sectorErase address =>
      if fails (.sectorErase address) then some (false, chip.issue (.sectorErase address))
      else some (true, chip.update (.sectorErase address) (chip.content.erase
        (address.toNat / info.sectSize.toNat * info.sectSize.toNat) info.sectSize.toNat))
  | .read address count =>
      some (some fun offset => chip.content (address.toNat + offset),
        chip.issue (.read address count))
  | .progress done total => some ((), chip.issue (.progress done total))
  | .malloc size => some (true, chip.issue (.malloc size))
  | .moduloByZero _ | .chipErase | .endless => none

private theorem norStep_interrupted {info : SectorGeometry} {fails : OspiOp → Bool} (chip : Chip)
    (op : OspiOp) (answer : OspiAns op × Chip) (h : interrupted info fails chip op = some answer) :
    norStep info chip op answer.1 answer.2 := by
  cases op with
  | program | sectorErase =>
      rw [interrupted] at h
      split at h
      · obtain rfl := Option.some.inj h
        exact .inr ⟨rfl, rfl⟩
      · obtain rfl := Option.some.inj h
        exact .inl rfl
  | read address count =>
      obtain rfl := Option.some.inj h
      refine ⟨rfl, fun buf hbuf offset _ => ?_⟩
      rw [← Option.some.inj hbuf]
  | progress | malloc =>
      obtain rfl := Option.some.inj h
      rfl
  | moduloByZero | chipErase | endless => cases h

def FlashCall.states (call : FlashCall) (fails : OspiOp → Bool) (chip : Chip)
    (pdiData len : UInt32) : Option (BootPayload × Chip × Chip) :=
  let respond := interrupted call.info.toSectorGeometry fails
  ((prepareFlash call.info call.request call.env call.payload len).answers respond chip).bind
    fun prepared => match prepared.1 with
      | .error _ => none
      | .ok found =>
          ((writeDefault call.info found.1 call.env.memory pdiData len found.2).answers respond
            prepared.2).map fun written => (found.1, prepared.2, written.2)

private theorem flashRun_of_states {fails : OspiOp → Bool}
    (hfresh : call.rh.rhAlreadyFlashed = false)
    (hpartitioned : call.request.flashToLegacy = false) (hpdi : call.pdi = some (pdiData, len))
    (h : call.states fails chip pdiData len = some (payload, chip₁, chip')) :
    FlashRun call chip payload pdiData len chip₁ chip' := by
  obtain ⟨⟨prepared, chip₂⟩, hprepare, hrest⟩ := Option.bind_eq_some_iff.1 h
  cases prepared with
  | error ret => exact absurd hrest.symm (Option.some_ne_none _)
  | ok found =>
      obtain ⟨written, hwrite, heq⟩ := Option.map_eq_some_iff.1 hrest
      obtain ⟨rfl, hchips⟩ := Prod.mk.inj heq
      obtain ⟨rfl, rfl⟩ := Prod.mk.inj hchips
      exact ⟨hfresh, hpartitioned, hpdi, found.2, Prog.returns_answers norStep_interrupted hprepare,
        _, Prog.returns_answers norStep_interrupted hwrite⟩

/-- Whatever the partition table is. -/
def TagGoesLast (call : FlashCall) (chip : Chip) : Prop :=
  ∀ payload pdiData len chip₁ chip', ospiVersalPagesize ≤ len.toNat →
    FlashRun call chip payload pdiData len chip₁ chip' →
      NotErased payload.defaultPartitionOffset chip₁ chip' ∨
        TagLast (dataAt call.env.memory pdiData) payload.defaultPartitionOffset.toNat len.toNat
          chip'.content

def observe (index : Nat) (states : BootPayload × Chip × Chip) : UInt8 × UInt8 × UInt8 :=
  (states.2.1.content (states.1.defaultPartitionOffset.toNat + index),
    states.2.2.content (states.1.defaultPartitionOffset.toNat + index),
    states.2.2.content (states.1.defaultPartitionOffset.toNat + bootTagOffset))

private theorem not_tagGoesLast {fails : OspiOp → Bool} {index : Nat} {before after tag : UInt8}
    (hfresh : call.rh.rhAlreadyFlashed = false) (hpartitioned : call.request.flashToLegacy = false)
    (hpdi : call.pdi = some (pdiData, len)) (hpage : ospiVersalPagesize ≤ len.toNat)
    (hindex : index < len.toNat) (hrest : ¬ TagByte index)
    (hstates : (call.states fails chip pdiData len).map (observe index) = some (before, after, tag))
    (hchanged : after ≠ before) (hmissing : after ≠ dataAt call.env.memory pdiData index)
    (htag : tag ≠ 0xFF) : ¬ TagGoesLast call chip := by
  intro hlast
  obtain ⟨⟨payload, chip₁, chip'⟩, hrun, heq⟩ := Option.map_eq_some_iff.1 hstates
  obtain ⟨rfl, hafter⟩ := Prod.mk.inj heq
  obtain ⟨rfl, rfl⟩ := Prod.mk.inj hafter
  have hflash := flashRun_of_states hfresh hpartitioned hpdi hrun
  rcases hlast _ _ _ _ _ hpage hflash with hkept | herased | hpresent
  · exact hchanged (congrFun hkept.1 _)
  · exact htag (herased bootTagOffset ⟨Nat.le_refl _, by omega⟩)
  · exact hmissing (hpresent index hindex hrest)

end FlashRun

def bootTable (boot pdimeta : UInt32) : Memory :=
  let flash : Memory := fun _ => 0
  let flash := flash.store32 0 fptMagic
  let flash := (flash.store 6 1 fun _ => 0x20).store 7 1 fun _ => 2
  let flash := ((flash.store32 0x20 fptTypeBoot).store32 0x2C boot).store32 0x30 0x100000
  let flash := (flash.store32 0x40 fptTypePdimeta).store32 0x4C pdimeta
  flash.store32 pdimeta.toNat fptPdimetaMagic

private theorem wornCall_pdi : wornCall.pdi = some (0x11F0, 256) := by decide +kernel

def failsAt (position : Nat) : OspiOp → Bool
  | .program _ source _ _ => source == position
  | _ => false

def failsErase (address : UInt32) : OspiOp → Bool
  | .sectorErase address' => address' == address
  | _ => false

private theorem wornCall_layout :
    (wornCall.states (failsAt 0x100) ⟨bootTable 0x100000 0x80000, []⟩ 0x11F0 256).map (fun states =>
      (states.1.defaultPartitionOffset, states.1.pdimetaOffset)) = some (0x100000, 0x80000) := by
  decide +kernel

/-- A partition at 1 MiB with its metadata at 512 KiB, and a failure behind the metadata. -/
theorem tagLast_wornCall : ∃ payload chip₁ chip',
    FlashRun wornCall ⟨bootTable 0x100000 0x80000, []⟩ payload 0x11F0 256 chip₁ chip' ∧
      (NotErased payload.defaultPartitionOffset chip₁ chip' ∨
        TagLast (dataAt wornCall.env.memory 0x11F0) payload.defaultPartitionOffset.toNat
          (256 : UInt32).toNat chip'.content) := by
  obtain ⟨⟨payload, chip₁, chip'⟩, hstates, heq⟩ := Option.map_eq_some_iff.1 wornCall_layout
  obtain ⟨hoffset, hmeta⟩ := Prod.mk.inj heq
  have hlayout : TagLayout wornCall.info payload 256 := by
    constructor
    · rw [show payload.defaultPartitionOffset = 0x100000 from hoffset]
      decide
    · rw [show payload.defaultPartitionOffset = 0x100000 from hoffset]
      decide
    · rw [show payload.pdimetaOffset = 0x80000 from hmeta]
      decide
    · rw [show payload.defaultPartitionOffset = 0x100000 from hoffset,
        show payload.pdimetaOffset = 0x80000 from hmeta]
      exact .inr (by decide)
  have hrun := flashRun_of_states rfl rfl wornCall_pdi hstates
  exact ⟨payload, chip₁, chip', hrun, tagLast_of_flashRun hlayout (by decide) hrun⟩

/-- With the metadata in a sector of the image, the tag is written back before what follows it;
with the tag in the second sector, the erase of the first one leaves it. -/
theorem not_tagGoesLast_layouts :
    ¬ TagGoesLast wornCall ⟨bootTable 0x88000 0x87E00, []⟩ ∧
      ¬ TagGoesLast wornCall ⟨bootTable 0x10FFF0 0x80000, []⟩ := by
  constructor
  · exact @not_tagGoesLast wornCall _ _ _ (failsAt 0x218) 0x18 0 0xFF 0x58 rfl rfl wornCall_pdi
      (by decide) (by decide) (by decide) (by decide +kernel) (by decide) (by decide +kernel)
      (by decide)
  · exact @not_tagGoesLast wornCall _ _ _ (failsErase 0x11FFF0) 0 0 0xFF 0 rfl rfl wornCall_pdi
      (by decide) (by decide) (by decide) (by decide +kernel) (by decide) (by decide +kernel)
      (by decide)

end Vmr.Rmgmt
