import Vmr.Flash.Copy

/-!
# Read, modify, write

`ospi_flash_safe_write` keeps the contents of one sector's length from the last
whole sector of data on, erases the sectors of the range, and writes the data and
then what was kept.  What is erased in front of the offset, or behind the part
that was kept, is lost.
-/

namespace Vmr.Flash

open Vmr.Lib

theorem and_self_byte (byte : UInt8) : byte &&& byte = byte := by
  rw [← UInt8.toBitVec_inj, UInt8.toBitVec_and, BitVec.and_self]

/-- Programming what was there before gives it back. -/
theorem erase_and (flash : Memory) (addr len a : Nat) :
    flash.erase addr len a &&& flash a = flash a := by
  rw [Memory.erase]
  split
  · exact Memory.full_and _
  · exact and_self_byte _

/-! ## The ranges -/

section Ranges

variable (info : FlashInfo) (offset len : UInt32)

def keptFrom : Nat := info.size * (len.toNat / info.size)

/-- Where the part that is written ends: the data, or what was kept behind it. -/
def keptEnd : Nat :=
  if len.toNat % info.size = 0 then offset.toNat + len.toNat
  else offset.toNat + keptFrom info len + info.size

def eraseStart : Nat := info.sector offset.toNat * info.size

variable {info offset len}

theorem keptFrom_add : keptFrom info len + len.toNat % info.size = len.toNat :=
  Nat.div_add_mod _ _

private theorem rest_lt : len.toNat % info.size < info.size :=
  Nat.mod_lt _ info.size_pos

private theorem keptFrom_pages : ∃ pages, keptFrom info len = 256 * pages := by
  obtain ⟨pages, hpages⟩ : 256 ∣ info.size := info.wholePages
  refine ⟨pages * (len.toNat / info.size), ?_⟩
  rw [keptFrom, ← Nat.mul_assoc, ← hpages]

theorem roundUp_le :
    roundUp len ≤ keptFrom info len + info.size := by
  obtain ⟨pages, hpages⟩ := @keptFrom_pages info len
  obtain ⟨sectorPages, hsector⟩ : 256 ∣ info.size := info.wholePages
  have hsum := @keptFrom_add info len
  have hlt := @rest_lt info len
  rw [roundUp, toNat_pageCount]
  omega

private theorem roundUp_of_sectors (hrest : len.toNat % info.size = 0) :
    roundUp len = len.toNat := by
  obtain ⟨pages, hpages⟩ := @keptFrom_pages info len
  have hsum := @keptFrom_add info len
  exact roundUp_of_pages (by omega)

theorem eraseStart_le : eraseStart info offset ≤ offset.toNat :=
  Nat.div_mul_le_self _ _

theorem le_eraseEnd (hinside : offset.toNat + len.toNat ≤ info.totalSize) :
    offset.toNat + len.toNat ≤ eraseEnd info.toSectorGeometry offset.toNat len.toNat := by
  rw [eraseEnd]
  split
  · exact hinside
  · have hsector := Nat.div_add_mod (offset.toNat + len.toNat) info.size
    have hlt := Nat.mod_lt (offset.toNat + len.toNat) info.size_pos
    rw [SectorGeometry.sector, Nat.add_mul, Nat.one_mul, Nat.mul_comm]
    omega

end Ranges

/-! ## What is on the flash in the end -/

section Result

variable (info : FlashInfo) (content : Memory) (buf : Nat → UInt8) (offset len : UInt32)

def safeWritten : Memory := fun a =>
  if offset.toNat ≤ a ∧ a < offset.toNat + len.toNat then buf (a - offset.toNat)
  else if offset.toNat ≤ a ∧ a < offset.toNat + roundUp len then
    content a &&& buf (a - offset.toNat)
  else if offset.toNat ≤ a ∧ a < keptEnd info offset len then content a
  else if eraseStart info offset ≤ a ∧
      a < eraseEnd info.toSectorGeometry offset.toNat len.toNat then 0xFF
  else content a

def safeErased : Memory :=
  content.erase (eraseStart info offset)
    (eraseEnd info.toSectorGeometry offset.toNat len.toNat - eraseStart info offset)

def kept : Nat → UInt8 :=
  sectorBuffer (fun i => content (offset.toNat + keptFrom info len + i)) buf (keptFrom info len)
    (len.toNat % info.size)

variable {info content buf offset len}

private theorem safeErased_inside {a : Nat} (hinside : offset.toNat + len.toNat ≤ info.totalSize)
    (hlow : offset.toNat ≤ a) (hhigh : a < offset.toNat + len.toNat) :
    safeErased info content offset len a = 0xFF := by
  have hstart := @eraseStart_le info offset
  have hend := le_eraseEnd hinside
  exact Memory.erase_inside _ (by omega) (by omega)

private theorem safeErased_behind {a : Nat} (h : a < offset.toNat ∨ keptEnd info offset len ≤ a)
    (hdata : offset.toNat + len.toNat ≤ keptEnd info offset len)
    (hround : offset.toNat + roundUp len ≤ keptEnd info offset len) :
    safeWritten info content buf offset len a = safeErased info content offset len a := by
  rw [safeWritten, if_neg (by omega), if_neg (by omega), if_neg (by omega), safeErased,
    Memory.erase]
  by_cases hin : eraseStart info offset ≤ a ∧
      a < eraseEnd info.toSectorGeometry offset.toNat len.toNat
  · rw [if_pos hin, if_pos (by omega)]
  · rw [if_neg hin, if_neg (by omega)]

private theorem written_whole (hinside : offset.toNat + len.toNat ≤ info.totalSize)
    (hrest : len.toNat % info.size = 0) :
    written (safeErased info content offset len) offset len buf =
      safeWritten info content buf offset len := by
  have hround := roundUp_of_sectors hrest
  have hkept : keptEnd info offset len = offset.toNat + len.toNat := if_pos hrest
  funext a
  by_cases hin : offset.toNat ≤ a ∧ a < offset.toNat + len.toNat
  · rw [safeWritten, if_pos hin, written, Memory.program, ← roundUp, hround, if_pos hin,
      safeErased_inside hinside hin.1 hin.2, Memory.full_and]
  · rw [safeErased_behind (by omega) (by omega) (by omega), written,
      Memory.program_outside _ _ (by rw [← roundUp]; omega)]

private theorem written_rest (hinside : offset.toNat + len.toNat ≤ info.totalSize)
    (hrest : len.toNat % info.size ≠ 0) :
    (written (safeErased info content offset len) offset len buf).program
        (offset.toNat + keptFrom info len) info.size (kept info content buf offset len) =
      safeWritten info content buf offset len := by
  have hround := @roundUp_le info len
  have hsum := @keptFrom_add info len
  have hlt := @rest_lt info len
  have hdata := @len_le_roundUp len
  have hkept : keptEnd info offset len = offset.toNat + keptFrom info len + info.size :=
    if_neg hrest
  funext a
  by_cases hout : a < offset.toNat ∨ keptEnd info offset len ≤ a
  · rw [safeErased_behind hout (by omega) (by omega), Memory.program_outside _ _ (by omega),
      written, Memory.program_outside _ _ (by rw [← roundUp]; omega)]
  have hfirst : written (safeErased info content offset len) offset len buf a =
      if a < offset.toNat + roundUp len then
        safeErased info content offset len a &&& buf (a - offset.toNat)
      else safeErased info content offset len a := by
    rw [written, Memory.program, ← roundUp]
    by_cases hin : a < offset.toNat + roundUp len
    · rw [if_pos (by omega), if_pos hin]
    · rw [if_neg (by omega), if_neg hin]
  by_cases hin : a < offset.toNat + len.toNat
  · rw [safeWritten, if_pos (by omega)]
    have hdata : written (safeErased info content offset len) offset len buf a =
        buf (a - offset.toNat) := by
      rw [hfirst, if_pos (by omega), safeErased_inside hinside (by omega) hin, Memory.full_and]
    by_cases hlast : a < offset.toNat + keptFrom info len
    · rw [Memory.program_outside _ _ (.inl hlast), hdata]
    · rw [Memory.program, if_pos (by omega), hdata, kept, sectorBuffer, if_pos (by omega),
        show keptFrom info len + (a - (offset.toNat + keptFrom info len)) = a - offset.toNat by omega,
        and_self_byte]
  · have hback : kept info content buf offset len (a - (offset.toNat + keptFrom info len)) =
        content a := by
      rw [kept, sectorBuffer, if_neg (by omega), Nat.add_sub_cancel' (by omega)]
    have hpast : ¬ (offset.toNat ≤ a ∧ a < offset.toNat + len.toNat) := fun h => hin h.2
    rw [Memory.program, if_pos (by omega), hback, hfirst, safeWritten, if_neg hpast]
    by_cases hpage : a < offset.toNat + roundUp len
    · rw [if_pos hpage, if_pos (by omega), UInt8.and_assoc, UInt8.and_comm (buf _), ← UInt8.and_assoc,
        safeErased, erase_and]
    · have hmore : ¬ (offset.toNat ≤ a ∧ a < offset.toNat + roundUp len) := fun h => hpage h.2
      rw [if_neg hpage, if_neg hmore, if_pos (by omega), safeErased, erase_and]

end Result

/-! ## What the last read-back finds -/

section Tail

variable (info : FlashInfo) (content : Memory) (buf : Nat → UInt8) (offset len : UInt32)

def lastPage : Nat := 256 * (len.toNat / 256)

/-- The bytes of the last page behind the data are changed by the first write, and the page starts
with a word of ones. -/
def TailDiffers : Prop :=
  (∀ i < 4, buf (lastPage len + i) = 0xFF ∧
    (len.toNat ≤ lastPage len + i → content (offset.toNat + (lastPage len + i)) = 0xFF)) ∧
  ∃ a, offset.toNat + len.toNat ≤ a ∧ a < offset.toNat + roundUp len ∧
    content a &&& buf (a - offset.toNat) ≠ content a

variable {info content buf offset len}

private theorem kept_data {j : Nat} (hj : j < len.toNat % info.size) :
    kept info content buf offset len j = buf (keptFrom info len + j) := by
  rw [kept, sectorBuffer, if_pos hj]

private theorem kept_behind {j : Nat} (hj : len.toNat % info.size ≤ j) :
    kept info content buf offset len j = content (offset.toNat + keptFrom info len + j) := by
  rw [kept, sectorBuffer, if_neg (Nat.not_lt_of_le hj)]

private theorem safeWritten_data {n : Nat} (hn : n < len.toNat) :
    safeWritten info content buf offset len (offset.toNat + n) = buf n := by
  rw [safeWritten, if_pos (by omega), Nat.add_sub_cancel_left]

private theorem safeWritten_tail {n : Nat} (hn : len.toNat ≤ n) (hround : n < roundUp len) :
    safeWritten info content buf offset len (offset.toNat + n) =
      content (offset.toNat + n) &&& buf n := by
  rw [safeWritten, if_neg (by omega), if_pos (by omega), Nat.add_sub_cancel_left]

private theorem safeWritten_kept {n : Nat} (hround : roundUp len ≤ n)
    (hend : offset.toNat + n < keptEnd info offset len) :
    safeWritten info content buf offset len (offset.toNat + n) = content (offset.toNat + n) := by
  have hdata := @len_le_roundUp len
  rw [safeWritten, if_neg (by omega), if_neg (by omega), if_pos (by omega)]

private theorem pageAt_kept {base : UInt32} (hbase : base.toNat = offset.toNat + keptFrom info len)
    (hroom : base.toNat + info.size ≤ 2 ^ 32) {page : Nat} (hpage : 256 * page < info.size) (i : Nat)
    (flash : Memory) :
    pageAt flash base page i = flash (offset.toNat + (keptFrom info len + (256 * page + i))) := by
  rw [pageAt, toNat_chunkAddress hroom hpage, hbase]
  congr 1
  omega

private theorem safeWritten_full {n : Nat} (hround : n < roundUp len) :
    safeWritten info content buf offset len (offset.toNat + n) = 0xFF ↔
      buf n = 0xFF ∧ (len.toNat ≤ n → content (offset.toNat + n) = 0xFF) := by
  rcases Nat.lt_or_ge n len.toNat with hdata | hbehind
  · rw [safeWritten_data hdata]
    exact ⟨fun hones => ⟨hones, fun h => absurd h (Nat.not_le_of_lt hdata)⟩, fun h => h.1⟩
  · rw [safeWritten_tail hbehind hround, and_eq_full_iff]
    exact ⟨fun h => ⟨h.2, fun _ => h.1⟩, fun h => ⟨h.2 hbehind, h.1⟩⟩

private theorem safeWritten_ne_kept (hrest : len.toNat % info.size ≠ 0) {j : Nat}
    (hj : j < info.size) :
    safeWritten info content buf offset len (offset.toNat + (keptFrom info len + j)) ≠
        kept info content buf offset len j ↔
      len.toNat ≤ keptFrom info len + j ∧ keptFrom info len + j < roundUp len ∧
        content (offset.toNat + (keptFrom info len + j)) &&& buf (keptFrom info len + j) ≠
          content (offset.toNat + (keptFrom info len + j)) := by
  have hsum := @keptFrom_add info len
  have hend : keptEnd info offset len = offset.toNat + keptFrom info len + info.size := if_neg hrest
  rcases Nat.lt_or_ge j (len.toNat % info.size) with hdata | hbehind
  · rw [safeWritten_data (by omega), kept_data hdata]
    constructor
    · exact fun hno => absurd rfl hno
    · intro h
      omega
  · rw [kept_behind hbehind, Nat.add_assoc offset.toNat]
    rcases Nat.lt_or_ge (keptFrom info len + j) (roundUp len) with hin | hout
    · rw [safeWritten_tail (by omega) hin]
      exact ⟨fun hno => ⟨by omega, hin, hno⟩, fun h => h.2.2⟩
    · rw [safeWritten_kept hout (by omega)]
      constructor
      · exact fun hno => absurd rfl hno
      · intro h
        omega

private theorem differs_kept (hrest : len.toNat % info.size ≠ 0) {base : UInt32}
    (hbase : base.toNat = offset.toNat + keptFrom info len)
    (hroom : base.toNat + info.size ≤ 2 ^ 32) {page : Nat} (hpage : 256 * page < info.size) :
    Differs (safeWritten info content buf offset len) base info.sectSize
        (kept info content buf offset len) page true ↔
      page = len.toNat % info.size / 256 ∧ TailDiffers content buf offset len := by
  obtain ⟨pages, hpages⟩ := @keptFrom_pages info len
  obtain ⟨sectorPages, hsector⟩ : 256 ∣ info.size := info.wholePages
  have hsum := @keptFrom_add info len
  have hround : roundUp len = 256 * ((len.toNat + 255) / 256) := by rw [roundUp, toNat_pageCount]
  have hlast : page = len.toNat % info.size / 256 →
      lastPage len = keptFrom info len + 256 * page := by
    intro hsame
    rw [lastPage]
    omega
  have hmatches : ¬ PageMatches (safeWritten info content buf offset len) base info.sectSize
      (kept info content buf offset len) page ↔ page = len.toNat % info.size / 256 ∧
        ∃ a, offset.toNat + len.toNat ≤ a ∧ a < offset.toNat + roundUp len ∧
          content a &&& buf (a - offset.toNat) ≠ content a := by
    simp only [PageMatches, not_forall, pageAt_kept hbase hroom hpage]
    constructor
    · rintro ⟨i, hi, -, hdiffers⟩
      obtain ⟨hlow, hhigh, hbyte⟩ := (safeWritten_ne_kept hrest (by omega)).1 hdiffers
      refine ⟨by omega, offset.toNat + (keptFrom info len + (256 * page + i)), by omega, by omega, ?_⟩
      rwa [Nat.add_sub_cancel_left]
    · rintro ⟨hsame, a, hlow, hhigh, hbyte⟩
      have hin : a = offset.toNat + (keptFrom info len +
          (256 * page + (a - offset.toNat - keptFrom info len - 256 * page))) := by omega
      refine ⟨a - offset.toNat - keptFrom info len - 256 * page, by omega, ?_, ?_⟩
      · change _ < info.size
        omega
      · refine (safeWritten_ne_kept hrest (by omega)).2 ⟨by omega, by omega, ?_⟩
        rw [← hin, show keptFrom info len +
          (256 * page + (a - offset.toNat - keptFrom info len - 256 * page)) = a - offset.toNat by
            omega]
        exact hbyte
  rw [Differs, hmatches, TailDiffers, firstWordErased_iff, and_left_comm]
  refine and_congr_right fun hsame => and_congr_left fun _ => forall₂_congr fun i hi => ?_
  rw [pageAt_kept hbase hroom hpage, ← Nat.add_assoc (keptFrom info len), ← hlast hsame]
  exact safeWritten_full (by rw [lastPage]; omega)

end Tail

/-! ## The run -/

private theorem differs_congr_buf {content : Memory} {base len : UInt32} {buf buf' : Nat → UInt8}
    {page : Nat} {erased : Bool} (h : ∀ n < len.toNat, buf n = buf' n) :
    Differs content base len buf page erased ↔ Differs content base len buf' page erased := by
  refine and_congr_right fun _ => not_congr (forall_congr' fun i => imp_congr_right fun _ =>
    forall_congr' fun hbelow => ?_)
  rw [h _ hbelow]

section Run

variable {info : FlashInfo} {step : Chip → (op : OspiOp) → OspiAns op → Chip → Prop}
  {content : Memory} {buf : Nat → UInt8} {offset len : UInt32}

theorem toNat_kept : (offset + (len - len % info.sectSize)).toNat =
    (offset.toNat + keptFrom info len) % 2 ^ 32 := by
  have hle : len % info.sectSize ≤ len := by
    rw [UInt32.le_iff_toNat_le, UInt32.toNat_mod]
    exact Nat.mod_le _ _
  have hsum := @keptFrom_add info len
  have hsame : info.sectSize.toNat = info.size := rfl
  rw [UInt32.toNat_add, UInt32.toNat_sub_of_le _ _ hle, UInt32.toNat_mod, hsame]
  omega

theorem boot_add (offset : UInt32) : getBaseAddress .clFlashBoot + offset = offset :=
  UInt32.zero_add offset

private theorem safe_writeData (htransfers : Transfers info.toSectorGeometry False step)
    (hinside : offset.toNat + len.toNat ≤ info.totalSize) {chip : Chip}
    (hchip : chip.content = safeErased info content offset len) :
    Prog.Safe step (fun _ op => op ≠ .endless)
      (fun ret chip' => ret = 0 ∧
        chip'.content = written (safeErased info content offset len) offset len buf)
      (ospiFlashWrite .clFlashBoot buf offset len) chip := by
  have hroom := info.totalSize_add_size_le
  have hpage := page_le_size info
  have hround : offset.toNat + 256 * (pageCount len).toNat ≤ 2 ^ 32 := by
    rw [toNat_pageCount]
    omega
  refine (@safe_write info.toSectorGeometry False step offset len buf htransfers .clFlashBoot offset
    (boot_add offset) (by omega) hround chip).mono ?_ ?_
  · rintro chip' op ⟨hop, -⟩
    exact hop.ne_endless
  · intro ret chip' hend
    cases hend with
    | done hchecked =>
        rw [← hchip]
        exact ⟨rfl, hchecked.sent.content_eq⟩
    | stopped hfalse => exact hfalse.elim
    | refused hrefused =>
        obtain ⟨page, hpage, -, -, hdiffers⟩ := hrefused.differs.resolve_left id
        refine absurd (fun i hi hbelow => ?_) hdiffers
        have haddress := @toNat_chunkAddress offset (256 * page) _ hround (by omega)
        rw [pageAt, haddress, Nat.add_assoc, written, Memory.program_inside _ _ (by omega), hchip,
          safeErased_inside hinside (by omega) (by omega), Memory.full_and]

private theorem not_tailDiffers (hrest : len.toNat % info.size = 0) :
    ¬ TailDiffers content buf offset len := by
  rintro ⟨-, a, hlow, hhigh, -⟩
  rw [roundUp_of_sectors hrest] at hhigh
  omega

def SafeWriteEnd (step : Chip → (op : OspiOp) → OspiAns op → Chip → Prop) (info : FlashInfo)
    (content : Memory) (buf : Nat → UInt8) (offset len : UInt32) (ret : Int) (chip : Chip) : Prop :=
  ret = 0 ∧ chip.content = safeWritten info content buf offset len ∧
      ¬ (SurelySampled info.sectSize (len.toNat % info.size / 256) ∧
        TailDiffers content buf offset len) ∨
    ret ≠ 0 ∧ ((∃ size chip' chip'', step chip' (.malloc size) false chip'') ∨
      Sampled step info.sectSize (len.toNat % info.size / 256) ∧ TailDiffers content buf offset len)

private theorem toNat_pageCount_sector : (pageCount info.sectSize).toNat = info.size / 256 := by
  obtain ⟨pages, hpages⟩ : 256 ∣ info.size := info.wholePages
  rw [toNat_pageCount, show info.sectSize.toNat = info.size from rfl, hpages]
  omega

private theorem safe_writeKept (htransfers : Transfers info.toSectorGeometry False step)
    (hinside : offset.toNat + len.toNat ≤ info.totalSize) (hrest : len.toNat % info.size ≠ 0)
    {sector : Nat → UInt8} (hsector : ∀ n < info.size, sector n = kept info content buf offset len n)
    {chip : Chip}
    (hchip : chip.content = written (safeErased info content offset len) offset len buf) :
    Prog.Safe step (fun _ op => op ≠ .endless) (SafeWriteEnd step info content buf offset len)
      (ospiFlashWrite .clFlashBoot sector (offset + (len - len % info.sectSize)) info.sectSize)
      chip := by
  obtain ⟨sectorPages, hpages⟩ : 256 ∣ info.size := info.wholePages
  have hroom := info.totalSize_add_size_le
  have hpage := page_le_size info
  have hsize := @toNat_pageCount_sector info
  have hsum := @keptFrom_add info len
  have htotal := info.totalSize_lt
  have hbase : (offset + (len - len % info.sectSize)).toNat = offset.toNat + keptFrom info len := by
    rw [toNat_kept, Nat.mod_eq_of_lt (by omega)]
  have hwhole : 256 * (pageCount info.sectSize).toNat = info.size := by
    rw [hsize]
    omega
  have hspace : (offset + (len - len % info.sectSize)).toNat + info.size ≤ 2 ^ 32 := by
    rw [hbase]
    omega
  have hresult : written chip.content (offset + (len - len % info.sectSize)) info.sectSize sector =
      safeWritten info content buf offset len := by
    rw [written, hwhole, hbase, ← written_rest hinside hrest, hchip]
    exact Memory.program_congr _ hsector
  have hdiffers : ∀ page < (pageCount info.sectSize).toNat,
      (Differs (written chip.content (offset + (len - len % info.sectSize)) info.sectSize sector)
          (offset + (len - len % info.sectSize)) info.sectSize sector page true ↔
        page = len.toNat % info.size / 256 ∧ TailDiffers content buf offset len) := by
    intro page hpage
    rw [hresult, differs_congr_buf hsector]
    exact differs_kept hrest hbase hspace (by omega)
  have hlt := @rest_lt info len
  refine (@safe_write info.toSectorGeometry False step _ info.sectSize sector htransfers .clFlashBoot
    _ (boot_add _) ?_ ?_ chip).mono ?_ ?_
  · change info.size ≤ _
    have htwo : info.size ≤ info.totalSize := by
      rw [SectorGeometry.totalSize]
      refine Nat.le_mul_of_pos_right _ (Nat.pos_of_ne_zero fun hnone => ?_)
      rw [SectorGeometry.totalSize, hnone] at hinside
      omega
    omega
  · rw [hwhole]
    exact hspace
  · rintro chip' op ⟨hop, -⟩
    exact hop.ne_endless
  · intro ret chip' hend
    cases hend with
    | done hchecked =>
        refine .inl ⟨rfl, by rw [hchecked.sent.content_eq, hresult], ?_⟩
        rintro ⟨hsure, htail⟩
        have hin : len.toNat % info.size / 256 < (pageCount info.sectSize).toNat := by omega
        exact hchecked.sure _ hin hsure ((hdiffers _ hin).2 ⟨rfl, htail⟩)
    | stopped hfalse => exact hfalse.elim
    | refused hrefused =>
        obtain ⟨page, hin, hsampled, hreported⟩ := hrefused.differs.resolve_left id
        obtain ⟨rfl, htail⟩ := (hdiffers page hin).1 hreported
        exact .inr ⟨by decide, .inr ⟨hsampled, htail⟩⟩

private theorem safe_eraseAndWrite (htransfers : Transfers info.toSectorGeometry False step)
    (hinside : offset.toNat + len.toNat ≤ info.totalSize)
    {cached : Option (Nat → UInt8)} (hnone : cached = none → len.toNat % info.size = 0)
    (hsome : ∀ sector, cached = some sector → len.toNat % info.size ≠ 0 ∧
      ∀ n < info.size, sector n = kept info content buf offset len n)
    {chip : Chip} (hchip : chip.content = content) :
    Prog.Safe step (fun _ op => op ≠ .endless) (SafeWriteEnd step info content buf offset len)
      (eraseAndWrite info buf offset len cached) chip := by
  rw [eraseAndWrite, ospiFlashErase, boot_add]
  refine (safe_erase htransfers hinside chip).bind ?_
  rintro _ chip' ⟨rfl, herased⟩
  rw [hchip] at herased
  rw [if_neg (by decide)]
  refine (safe_writeData htransfers hinside herased).bind ?_
  rintro _ chip'' ⟨rfl, hwritten⟩
  rw [if_neg (by decide)]
  cases cached with
  | none =>
      refine .inl ⟨rfl, by rw [hwritten, written_whole hinside (hnone rfl)], fun htail => ?_⟩
      exact not_tailDiffers (hnone rfl) htail.2
  | some sector =>
      obtain ⟨hrest, hsector⟩ := hsome sector rfl
      exact safe_writeKept htransfers hinside hrest hsector hwritten

theorem safe_safeWrite (htransfers : Transfers info.toSectorGeometry False step)
    (haccept : offset &&& UInt32.ofNat ospiVersalPagesize = 0)
    (hinside : offset.toNat + len.toNat ≤ info.totalSize) :
    Prog.Safe step (fun _ op => op ≠ .endless) (SafeWriteEnd step info content buf offset len)
      (ospiFlashSafeWrite info .clFlashBoot buf offset len) ⟨content, []⟩ := by
  have hsame : info.sectSize.toNat = info.size := rfl
  have hmod : (len % info.sectSize).toNat = len.toNat % info.size := UInt32.toNat_mod _ _
  have hkept : (len - len % info.sectSize).toNat = keptFrom info len := by
    have hzero := @toNat_kept info 0 len
    have hlt := (len - len % info.sectSize).toNat_lt
    have hle := len.toNat_lt
    rw [UInt32.zero_add, UInt32.toNat_zero, Nat.zero_add] at hzero
    rw [hzero, Nat.mod_eq_of_lt]
    have hsum := @keptFrom_add info len
    omega
  have hsum := @keptFrom_add info len
  have htotal := info.totalSize_lt
  rw [ospiFlashSafeWrite, if_neg (by decide), if_neg (not_not_intro haccept)]
  by_cases hrest : len.toNat % info.size = 0
  · have hzero : len % info.sectSize = 0 := by rw [← UInt32.toNat_inj, hmod, hrest, UInt32.toNat_zero]
    rw [if_neg (not_not_intro hzero)]
    exact @safe_eraseAndWrite info step content buf offset len htransfers hinside none
      (fun _ => hrest) (fun _ hnone => absurd hnone.symm (Option.some_ne_none _)) ⟨content, []⟩ rfl
  · have hnonzero : len % info.sectSize ≠ 0 := by
      rw [ne_eq, ← UInt32.toNat_inj, hmod, UInt32.toNat_zero]
      exact hrest
    rw [if_pos hnonzero]
    refine ⟨OspiOp.noConfusion, fun (allocated : Bool) chip hstep => ?_⟩
    obtain ⟨hnor, -⟩ := htransfers _ _ _ _ hstep
    cases allocated with
    | false => exact .inr ⟨by decide, .inl ⟨_, _, _, hstep⟩⟩
    | true =>
        obtain rfl : chip = Chip.issue ⟨content, []⟩ (.malloc info.sectSize.toNat) := hnor
        change Prog.Safe step _ _ (ospiFlashRead .clFlashBoot (offset + (len - len % info.sectSize))
          info.sectSize.toNat >>= _) _
        rw [ospiFlashRead, boot_add]
        refine ⟨OspiOp.noConfusion, fun (found : Option Memory) chip' hstep => ?_⟩
        obtain ⟨⟨rfl, hfound⟩, hsucceeds⟩ := htransfers _ _ _ _ hstep
        cases found with
        | none => exact absurd (hsucceeds.resolve_left id) Bool.false_ne_true
        | some sector =>
            refine @safe_eraseAndWrite info step content buf offset len htransfers hinside
              (some (sectorBuffer sector buf (len - len % info.sectSize).toNat
                (len % info.sectSize).toNat)) (fun hnone => absurd hnone (Option.some_ne_none _)) ?_ _ rfl
            intro cached hcached
            obtain rfl := Option.some.inj hcached
            refine ⟨hrest, fun n hn => ?_⟩
            have hbyte := hfound sector rfl n hn
            rw [toNat_kept, Nat.mod_eq_of_lt (by omega)] at hbyte
            rw [sectorBuffer, hmod, hkept, kept, sectorBuffer, hbyte]
            rfl

end Run

/-! ## When nothing else changes -/

section SafelyWrites

variable (info : FlashInfo) (content : Memory) (buf : Nat → UInt8) (offset len : UInt32)

/-- In every run in which the transfers succeed, if 0 is returned then the range holds the data
and every other byte of the flash is unchanged. -/
def SafelyWrites : Prop :=
  ∀ chip, Prog.Returns (okStep info.toSectorGeometry) ⟨content, []⟩
      (ospiFlashSafeWrite info .clFlashBoot buf offset len) 0 chip →
    ∀ a < info.totalSize, chip.content a =
      if offset.toNat ≤ a ∧ a < offset.toNat + len.toNat then buf (a - offset.toNat) else content a

def RestBlank : Prop :=
  ∀ a < info.totalSize, eraseStart info offset ≤ a →
    a < eraseEnd info.toSectorGeometry offset.toNat len.toNat →
    a < offset.toNat ∨ keptEnd info offset len ≤ a → content a = 0xFF

/-- What the buffer holds behind the data does not change what was kept. -/
def TailKept : Prop :=
  ∀ a < info.totalSize, offset.toNat + len.toNat ≤ a → a < offset.toNat + roundUp len →
    content a &&& buf (a - offset.toNat) = content a

variable {info content buf offset len}

theorem roundUp_le_keptEnd : offset.toNat + roundUp len ≤ keptEnd info offset len := by
  by_cases hrest : len.toNat % info.size = 0
  · rw [roundUp_of_sectors hrest, keptEnd, if_pos hrest]
  · have hround := @roundUp_le info len
    rw [keptEnd, if_neg hrest]
    omega

private theorem safeWritten_unchanged_iff :
    (∀ a < info.totalSize, safeWritten info content buf offset len a =
      if offset.toNat ≤ a ∧ a < offset.toNat + len.toNat then buf (a - offset.toNat)
      else content a) ↔
    RestBlank info content offset len ∧ TailKept info content buf offset len := by
  have hdata := @len_le_roundUp len
  have hround := @roundUp_le_keptEnd info offset len
  constructor
  · intro hsame
    refine ⟨fun a htotal hlow hhigh hout => ?_, fun a htotal hlow hhigh => ?_⟩
    · have hbyte := hsame a htotal
      rw [if_neg (by omega), safeWritten, if_neg (by omega), if_neg (by omega), if_neg (by omega),
        if_pos ⟨hlow, hhigh⟩] at hbyte
      exact hbyte.symm
    · have hbyte := hsame a htotal
      rw [if_neg (by omega), safeWritten, if_neg (by omega), if_pos (by omega)] at hbyte
      exact hbyte
  · rintro ⟨hblank, htail⟩ a htotal
    rw [safeWritten]
    split
    · rfl
    next hdata' =>
      split
      next hin => exact htail a htotal (by omega) hin.2
      next hpast =>
        split
        · rfl
        next hout =>
          split
          next herased => exact (hblank a htotal herased.1 herased.2 (by omega)).symm
          · rfl

/-- Memory is there, and a remainder by zero is not zero. -/
def Lucky : (op : OspiOp) → OspiAns op → Prop
  | .malloc _, (allocated : Bool) => allocated = true
  | .moduloByZero _, (rest : UInt32) => rest ≠ 0
  | _, _ => True

def luckyStep (info : SectorGeometry) (chip : Chip) (op : OspiOp) (answer : OspiAns op)
    (chip' : Chip) : Prop :=
  okStep info chip op answer chip' ∧ Lucky op answer

theorem luckyStep_progress (info : SectorGeometry) (chip : Chip) {op : OspiOp} (h : op ≠ .endless) :
    ∃ answer chip', luckyStep info chip op answer chip' := by
  cases op with
  | malloc size => exact ⟨true, _, ⟨rfl, trivial⟩, rfl⟩
  | moduloByZero value => exact ⟨(1 : UInt32), _, ⟨rfl, trivial⟩, show (1 : UInt32) ≠ 0 by decide⟩
  | _ =>
      obtain ⟨answer, chip', hstep⟩ := okStep_progress info chip h
      exact ⟨answer, chip', hstep, trivial⟩

private theorem exists_safeWriteEnd (haccept : offset &&& UInt32.ofNat ospiVersalPagesize = 0)
    (_hpos : 0 < len.toNat) (hinside : offset.toNat + len.toNat ≤ info.totalSize)
    (hpass : ¬ (SurelySampled info.sectSize (len.toNat % info.size / 256) ∧
      TailDiffers content buf offset len)) :
    ∃ chip, Prog.Returns (okStep info.toSectorGeometry) ⟨content, []⟩
        (ospiFlashSafeWrite info .clFlashBoot buf offset len) 0 chip ∧
      chip.content = safeWritten info content buf offset len := by
  have htransfers : Transfers info.toSectorGeometry False (luckyStep info.toSectorGeometry) :=
    fun _ _ _ _ hstep => ⟨hstep.1.1, .inr hstep.1.2⟩
  obtain ⟨ret, chip, hrun, hend⟩ := (@safe_safeWrite info _ content buf offset len htransfers
    haccept hinside).exists_returns fun chip op hop => luckyStep_progress _ chip hop
  rcases hend with ⟨rfl, hresult, -⟩ | ⟨-, ⟨size, chip', chip'', hmalloc⟩ | ⟨hsampled, htail⟩⟩
  · exact ⟨chip, hrun.mono fun _ _ _ _ => And.left, hresult⟩
  · cases hmalloc.2
  · rcases hsampled with hsure | ⟨chip', chip'', hmodulo⟩
    · exact absurd ⟨hsure, htail⟩ hpass
    · exact absurd rfl hmodulo.2

/-- The rest of the flash is unchanged exactly when what is lost does not matter, unless the last
page makes the write fail. -/
theorem safelyWrites_iff (haccept : offset &&& UInt32.ofNat ospiVersalPagesize = 0)
    (hpos : 0 < len.toNat) (hinside : offset.toNat + len.toNat ≤ info.totalSize) :
    SafelyWrites info content buf offset len ↔
      (SurelySampled info.sectSize (len.toNat % info.size / 256) ∧
        TailDiffers content buf offset len) ∨
      RestBlank info content offset len ∧ TailKept info content buf offset len := by
  constructor
  · intro hwrites
    by_cases hpass : SurelySampled info.sectSize (len.toNat % info.size / 256) ∧
        TailDiffers content buf offset len
    · exact .inl hpass
    · obtain ⟨chip, hrun, hresult⟩ := @exists_safeWriteEnd info content buf offset len haccept hpos
        hinside hpass
      have hsame := hwrites chip hrun
      rw [hresult] at hsame
      exact .inr (safeWritten_unchanged_iff.1 hsame)
  · intro hcondition chip hrun
    rcases (safe_safeWrite (transfers_okStep _) haccept hinside).returns hrun with
      ⟨-, hresult, hpass⟩ | ⟨hfailed, -⟩
    · rw [hresult]
      exact safeWritten_unchanged_iff.2 (hcondition.resolve_left hpass)
    · exact absurd rfl hfailed

end SafelyWrites

/-- The first bytes of a sector, on a flash that holds other data everywhere. -/
theorem safelyWrites_sectorStart : SafelyWrites gigadeviceInfo (fun _ => 0x5A)
    (fun i => if i < 20 then UInt8.ofNat i else 0xFF) 0x20000 20 := by
  refine (@safelyWrites_iff gigadeviceInfo (fun _ => 0x5A)
    (fun i => if i < 20 then UInt8.ofNat i else 0xFF) 0x20000 20 rfl (by decide) (by decide)).2
    (.inr ⟨fun a _ hlow hhigh hout => ?_, fun a _ hlow _ => ?_⟩)
  · have hstart : eraseStart gigadeviceInfo 0x20000 = 0x20000 := rfl
    have hend : eraseEnd gigadeviceInfo.toSectorGeometry (0x20000 : UInt32).toNat
        (20 : UInt32).toNat = 0x30000 := rfl
    have hkept : keptEnd gigadeviceInfo 0x20000 20 = 0x30000 := rfl
    have hoffset : (0x20000 : UInt32).toNat = 0x20000 := rfl
    omega
  · have hbehind : ¬ a - (0x20000 : UInt32).toNat < 20 := by
      have hdata : (0x20000 : UInt32).toNat + (20 : UInt32).toNat = 0x20014 := rfl
      have hoffset : (0x20000 : UInt32).toNat = 0x20000 := rfl
      omega
    dsimp only
    rw [if_neg hbehind]
    rfl

/-- A whole sector is written, and the sector behind it is erased. -/
theorem not_safelyWrites_wholeSector :
    ¬ SafelyWrites gigadeviceInfo (fun _ => 0) (fun _ => 0) 0x20000 0x10000 := by
  intro hwrites
  obtain ⟨chip, hrun, hresult⟩ := @exists_safeWriteEnd gigadeviceInfo (fun _ => 0) (fun _ => 0)
    0x20000 0x10000 rfl (by decide) (by decide) fun hpass =>
      @not_tailDiffers gigadeviceInfo _ _ _ _ (by decide) hpass.2
  have hbyte := hwrites chip hrun 0x30000 (by decide)
  rw [hresult] at hbyte
  exact absurd hbyte (by decide)

end Vmr.Flash
