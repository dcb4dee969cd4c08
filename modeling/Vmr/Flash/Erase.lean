import Vmr.Flash.Ospi

/-!
# Erasing sectors

The number of sectors is a quotient plus one, corrected when the range reaches
into one sector more.  It is one too large exactly when the range ends at the
end of a sector.
-/

namespace Vmr.Flash

open Vmr.Lib

/-! ## Sectors of addresses -/

namespace SectorGeometry

variable (info : SectorGeometry)

def size : Nat := info.sectSize.toNat

def totalSize : Nat := info.size * info.numSect.toNat

def sector (address : Nat) : Nat := address / info.size

theorem size_pos : 0 < info.size := by
  obtain ⟨bits, hbits⟩ := info.powerOfTwo
  rw [size, hbits]
  exact Nat.two_pow_pos bits

theorem totalSize_lt : info.totalSize < 2 ^ 32 := info.total

theorem eq_wholeFlash_iff {byteCount : UInt32} :
    byteCount = info.numSect * info.sectSize ↔ byteCount.toNat = info.totalSize := by
  rw [← UInt32.toNat_inj, UInt32.toNat_mul, Nat.mul_comm]
  exact Eq.congr_right (Nat.mod_eq_of_lt info.totalSize_lt)

theorem totalSize_add_size_le : info.totalSize + info.size ≤ 2 ^ 32 := by
  obtain ⟨bits, hbits⟩ := info.powerOfTwo
  have hsize : info.size = 2 ^ bits := hbits
  have hlt : 2 ^ bits < 2 ^ 32 := hbits ▸ info.sectSize.toNat_lt
  have hbits32 : bits < 32 := (Nat.pow_lt_pow_iff_right (by omega)).1 hlt
  have hspace : 2 ^ 32 = 2 ^ bits * 2 ^ (32 - bits) := by
    rw [← Nat.pow_add, Nat.add_sub_cancel' (Nat.le_of_lt hbits32)]
  have htotal := info.totalSize_lt
  rw [totalSize, hsize, hspace] at htotal
  have hnum := Nat.lt_of_mul_lt_mul_left htotal
  rw [totalSize, hsize, hspace, ← Nat.mul_succ]
  exact Nat.mul_le_mul_left _ hnum

private theorem toNat_and_sectMask (address : UInt32) :
    (address &&& info.sectMask).toNat = info.sector address.toNat * info.size := by
  obtain ⟨bits, hbits⟩ := info.powerOfTwo
  have hsize : info.size = 2 ^ bits := hbits
  have hpos := Nat.two_pow_pos bits
  have hone : (1 : UInt32) ≤ info.sectSize := by
    rw [UInt32.le_iff_toNat_le, hbits]
    exact hpos
  have hmask : info.sectMask.toNat = 2 ^ 32 - (2 ^ bits - 1 + 1) := by
    rw [info.mask, UInt32.toNat_not, UInt32.toNat_sub_of_le _ _ hone, hbits]
    simp [UInt32.size]
  rw [UInt32.toNat_and, hmask, sector, hsize, ← Nat.shiftRight_eq_div_pow, ← Nat.shiftLeft_eq]
  apply Nat.eq_of_testBit_eq
  intro index
  have hlow : 2 ^ bits - 1 < 2 ^ 32 := by
    have hlt : 2 ^ bits < 2 ^ 32 := hbits ▸ info.sectSize.toNat_lt
    omega
  rw [Nat.testBit_and, Nat.testBit_two_pow_sub_succ hlow, Nat.testBit_two_pow_sub_one,
    Nat.testBit_shiftLeft, Nat.testBit_shiftRight]
  by_cases hindex : bits ≤ index
  · rw [Nat.add_sub_cancel' hindex]
    by_cases hhigh : index < 32
    · simp [hindex, hhigh]
    · have hbit : address.toNat.testBit index = false :=
        Nat.testBit_lt_two_pow (Nat.lt_of_lt_of_le address.toNat_lt
          (Nat.pow_le_pow_right (by omega) (by omega)))
      simp [hbit]
  · simp [hindex, Nat.lt_of_not_le hindex]

private theorem sectMask_eq_iff (address address' : UInt32) :
    address &&& info.sectMask = address' &&& info.sectMask ↔
      info.sector address.toNat = info.sector address'.toNat := by
  rw [← UInt32.toNat_inj, toNat_and_sectMask, toNat_and_sectMask]
  exact Nat.mul_left_inj (Nat.ne_of_gt info.size_pos)

end SectorGeometry

/-! ## The number of sectors -/

section Range

variable {info : SectorGeometry} {address byteCount : UInt32}

theorem toNat_numSectors (hless : byteCount.toNat < info.totalSize)
    (hinside : address.toNat + byteCount.toNat ≤ info.totalSize) :
    (numSectors info address byteCount).toNat = byteCount.toNat / info.size + 1 +
      if info.size ≤ address.toNat % info.size + byteCount.toNat % info.size then 1 else 0 := by
  have hsize := info.size_pos
  have hsame : info.sectSize.toNat = info.size := rfl
  have htotal := info.totalSize_lt
  have hroom := info.totalSize_add_size_le
  have hrest := Nat.mod_lt byteCount.toNat hsize
  have hsplit := Nat.div_add_mod byteCount.toNat info.size
  have hquotient : byteCount.toNat / info.size ≤ byteCount.toNat := Nat.div_le_self _ _
  have hcount : (byteCount / info.sectSize + 1).toNat = byteCount.toNat / info.size + 1 := by
    rw [UInt32.toNat_add, UInt32.toNat_div, hsame, UInt32.toNat_one, Nat.mod_eq_of_lt (by omega)]
  have hend : (address + byteCount).toNat = address.toNat + byteCount.toNat := by
    rw [UInt32.toNat_add]
    omega
  have hnext : (address + (byteCount / info.sectSize + 1) * info.sectSize).toNat =
      (address.toNat + (byteCount.toNat / info.size + 1) * info.size) % 2 ^ 32 := by
    rw [UInt32.toNat_add, UInt32.toNat_mul, hcount, Nat.add_mod_mod, hsame]
  have hproduct : (byteCount.toNat / info.size + 1) * info.size =
      info.size * (byteCount.toNat / info.size) + info.size := by
    rw [Nat.add_mul, Nat.mul_comm, Nat.one_mul]
  have hsector : info.sector (address.toNat + byteCount.toNat) =
      address.toNat / info.size + byteCount.toNat / info.size +
        if info.size ≤ address.toNat % info.size + byteCount.toNat % info.size then 1 else 0 :=
    Nat.add_div hsize
  have hcarry : info.sector (address.toNat + byteCount.toNat) = info.sector
      ((address.toNat + (byteCount.toNat / info.size + 1) * info.size) % 2 ^ 32) ↔
        info.size ≤ address.toNat % info.size + byteCount.toNat % info.size := by
    rcases Nat.lt_or_ge (address.toNat + (byteCount.toNat / info.size + 1) * info.size) (2 ^ 32)
      with hlt | hge
    · rw [Nat.mod_eq_of_lt hlt, hsector, SectorGeometry.sector, Nat.add_mul_div_right _ _ hsize]
      split <;> omega
    · -- the sector behind the end of the address space would be the first one
      have hwhole : byteCount.toNat % info.size = 0 := by omega
      have hlast : address.toNat + byteCount.toNat = info.totalSize := by omega
      have haligned : address.toNat % info.size = 0 := by
        have hmod : (address.toNat + byteCount.toNat) % info.size = 0 := by
          rw [hlast, SectorGeometry.totalSize, Nat.mul_mod_right]
        rw [Nat.add_mod, hwhole, Nat.add_zero, Nat.mod_mod] at hmod
        exact hmod
      have hzero : (address.toNat + (byteCount.toNat / info.size + 1) * info.size) % 2 ^ 32 = 0 := by
        omega
      have hnum : info.sector info.totalSize = info.numSect.toNat :=
        Nat.mul_div_cancel_left _ hsize
      have hpositive : info.numSect.toNat ≠ 0 := by
        intro hnone
        rw [SectorGeometry.totalSize, hnone] at hlast
        omega
      rw [hlast, hnum, hzero, hwhole, haligned, SectorGeometry.sector, Nat.zero_div]
      omega
  rw [numSectors]
  by_cases hmask : (address + byteCount) &&& info.sectMask =
      (address + (byteCount / info.sectSize + 1) * info.sectSize) &&& info.sectMask
  · rw [if_pos hmask]
    rw [info.sectMask_eq_iff, hend, hnext, hcarry] at hmask
    have hstart := Nat.mod_lt address.toNat hsize
    have htwo : 2 * (byteCount.toNat / info.size) ≤ info.size * (byteCount.toNat / info.size) :=
      Nat.mul_le_mul_right _ (by omega)
    rw [if_pos hmask, UInt32.toNat_add, hcount, UInt32.toNat_one, Nat.mod_eq_of_lt (by omega)]
  · rw [if_neg hmask]
    rw [info.sectMask_eq_iff, hend, hnext, hcarry] at hmask
    rw [if_neg hmask, hcount]

theorem sector_add_numSectors (hless : byteCount.toNat < info.totalSize)
    (hinside : address.toNat + byteCount.toNat ≤ info.totalSize) :
    info.sector address.toNat + (numSectors info address byteCount).toNat =
      info.sector (address.toNat + byteCount.toNat) + 1 := by
  rw [toNat_numSectors hless hinside, SectorGeometry.sector, SectorGeometry.sector,
    Nat.add_div info.size_pos]
  omega

def eraseAddress (info : SectorGeometry) (address : UInt32) (index : Nat) : UInt32 :=
  address + UInt32.ofNat index * info.sectSize

private theorem toNat_eraseAddress (hless : byteCount.toNat < info.totalSize)
    (hinside : address.toNat + byteCount.toNat ≤ info.totalSize) {index : Nat}
    (hindex : index < (numSectors info address byteCount).toNat) :
    (eraseAddress info address index).toNat = address.toNat + index * info.size := by
  have hsame : info.sectSize.toNat = info.size := rfl
  have hroom := info.totalSize_add_size_le
  have hstart := Nat.mod_lt address.toNat info.size_pos
  have hsplit := Nat.div_add_mod byteCount.toNat info.size
  have hbound : address.toNat + index * info.size < 2 ^ 32 := by
    rw [toNat_numSectors hless hinside] at hindex
    by_cases hcarry : info.size ≤ address.toNat % info.size + byteCount.toNat % info.size
    · rw [if_pos hcarry] at hindex
      have hlast : index * info.size ≤ (byteCount.toNat / info.size + 1) * info.size :=
        Nat.mul_le_mul_right _ (by omega)
      have hproduct : (byteCount.toNat / info.size + 1) * info.size =
          info.size * (byteCount.toNat / info.size) + info.size := by
        rw [Nat.add_mul, Nat.mul_comm, Nat.one_mul]
      omega
    · rw [if_neg hcarry] at hindex
      have hlast : index * info.size ≤ byteCount.toNat / info.size * info.size :=
        Nat.mul_le_mul_right _ (by omega)
      rw [Nat.mul_comm (byteCount.toNat / info.size)] at hlast
      omega
  have hword := (numSectors info address byteCount).toNat_lt
  rw [eraseAddress, UInt32.toNat_add, UInt32.toNat_mul, hsame, UInt32.toNat_ofNat_of_lt' (show index < 2 ^ 32 by omega),
    Nat.add_mod_mod, Nat.mod_eq_of_lt hbound]

theorem sector_eraseAddress (hless : byteCount.toNat < info.totalSize)
    (hinside : address.toNat + byteCount.toNat ≤ info.totalSize) {index : Nat}
    (hindex : index < (numSectors info address byteCount).toNat) :
    info.sector (eraseAddress info address index).toNat = info.sector address.toNat + index := by
  rw [toNat_eraseAddress hless hinside hindex, SectorGeometry.sector,
    Nat.add_mul_div_right _ _ info.size_pos]
  rfl

end Range

/-! ## The loop over the sectors -/

structure Erased (info : SectorGeometry) (address : UInt32) (chip chip' : Chip)
    (sent done : Nat) : Prop where
  content : chip'.content =
    chip.content.erase (info.sector address.toNat * info.size) (done * info.size)
  journal : ∀ op, op ∈ chip'.journal ↔
    (∃ index < sent, op = .sectorErase (eraseAddress info address index)) ∨ op ∈ chip.journal

private theorem erased_zero (info : SectorGeometry) (address : UInt32) (chip : Chip) :
    Erased info address chip chip 0 0 where
  content := by rw [Nat.zero_mul, Memory.erase_zero]
  journal op := by simp

private theorem sent_succ {op : OspiOp} {sends : Nat → OspiOp} {sent : Nat}
    {journal : List OspiOp} :
    (op = sends sent ∨ (∃ index < sent, op = sends index) ∨ op ∈ journal) ↔
      (∃ index < sent + 1, op = sends index) ∨ op ∈ journal := by
  constructor
  · rintro (rfl | ⟨index, hindex, rfl⟩ | hold)
    · exact .inl ⟨sent, Nat.lt_succ_self sent, rfl⟩
    · exact .inl ⟨index, Nat.lt_succ_of_lt hindex, rfl⟩
    · exact .inr hold
  · rintro (⟨index, hindex, rfl⟩ | hold)
    · rcases Nat.lt_succ_iff_lt_or_eq.1 hindex with hlt | rfl
      · exact .inr (.inl ⟨index, hlt, rfl⟩)
      · exact .inl rfl
    · exact .inr (.inr hold)

section Run

variable {info : SectorGeometry} {mayFail : Prop}
  {step : Chip → (op : OspiOp) → OspiAns op → Chip → Prop} {address byteCount : UInt32}

theorem Erased.next {chip chip' chip'' : Chip} {index : Nat}
    (hless : byteCount.toNat < info.totalSize)
    (hinside : address.toNat + byteCount.toNat ≤ info.totalSize)
    (hindex : index < (numSectors info address byteCount).toNat)
    (h : Erased info address chip chip' index index) {ok : Bool}
    (hstep : norStep info chip' (.sectorErase (eraseAddress info address index)) ok chip'') :
    ∃ done, (done = index + 1 ∨ ok = false ∧ done = index) ∧
      Erased info address chip chip'' (index + 1) done := by
  rcases hstep with rfl | ⟨hfailed, rfl⟩
  · refine ⟨index + 1, .inl rfl, ?_, fun op => ?_⟩
    · have hsector := sector_eraseAddress hless hinside hindex
      simp only [Chip.update, h.content]
      rw [Nat.succ_mul, Memory.erase_add, ← Nat.add_mul, ← hsector]
      rfl
    · simp only [Chip.update, List.mem_cons, h.journal]
      exact @sent_succ op (fun i => .sectorErase (eraseAddress info address i)) index chip.journal
  · refine ⟨index, .inr ⟨hfailed, rfl⟩, h.content, fun op => ?_⟩
    simp only [Chip.issue, List.mem_cons, h.journal]
    exact @sent_succ op (fun i => .sectorErase (eraseAddress info address i)) index chip.journal

theorem safe_flashErase (htransfers : Transfers info mayFail step)
    (hless : byteCount.toNat < info.totalSize)
    (hinside : address.toNat + byteCount.toNat ≤ info.totalSize) (chip : Chip) :
    Prog.Safe step
      (fun chip' op => ∃ index < (numSectors info address byteCount).toNat,
        op = .sectorErase (eraseAddress info address index) ∧
          Erased info address chip chip' index index)
      (fun ret chip' =>
        ret = 0 ∧ Erased info address chip chip' (numSectors info address byteCount).toNat
          (numSectors info address byteCount).toNat ∨
        ret ≠ 0 ∧ mayFail ∧ ∃ index < (numSectors info address byteCount).toNat,
          ∃ done, (done = index + 1 ∨ done = index) ∧
            Erased info address chip chip' (index + 1) done)
      (flashErase info address byteCount) chip := by
  have hpart := mt info.eq_wholeFlash_iff.1 (Nat.ne_of_lt hless)
  rw [flashErase, if_neg hpart]
  refine Prog.Safe.bind (@Prog.Safe.forUntil _ _ _ _ step _ _
    (fun index chip' => Erased info address chip chip' index index)
    (fun ret chip' => ret ≠ 0 ∧ mayFail ∧
      ∃ index < (numSectors info address byteCount).toNat,
        ∃ done, (done = index + 1 ∨ done = index) ∧
          Erased info address chip chip' (index + 1) done)
    0 (numSectors info address byteCount).toNat chip (erased_zero info address chip) ?_) ?_
  · intro index chip' _ hindex hinv
    rw [Nat.zero_add] at hindex
    refine ⟨⟨index, hindex, rfl, hinv⟩, fun (ok : Bool) chip'' hstep => ?_⟩
    obtain ⟨hnor, hsucceeds⟩ := htransfers _ _ _ _ hstep
    obtain ⟨done, hdone, herased⟩ := hinv.next hless hinside hindex hnor
    cases ok with
    | true =>
        rcases hdone with rfl | ⟨hfailed, -⟩
        · exact herased
        · cases hfailed
    | false =>
        refine ⟨by decide, hsucceeds.resolve_right nofun, index, hindex, done, ?_, herased⟩
        exact hdone.imp_right And.right
  · rintro (_ | ret) chip' hloop
    · exact .inl ⟨rfl, by rwa [Nat.zero_add] at hloop⟩
    · exact .inr hloop

def eraseEnd (info : SectorGeometry) (address byteCount : Nat) : Nat :=
  if byteCount = info.totalSize then info.totalSize
  else (info.sector (address + byteCount) + 1) * info.size

theorem safe_erase (htransfers : Transfers info False step)
    (hinside : address.toNat + byteCount.toNat ≤ info.totalSize) (chip : Chip) :
    Prog.Safe step (fun _ op => op ≠ .endless)
      (fun ret chip' => ret = 0 ∧ chip'.content =
        chip.content.erase (info.sector address.toNat * info.size)
          (eraseEnd info address.toNat byteCount.toNat - info.sector address.toNat * info.size))
      (flashErase info address byteCount) chip := by
  by_cases hall : byteCount.toNat = info.totalSize
  · have hword := info.eq_wholeFlash_iff.2 hall
    have hzero : address.toNat = 0 := by omega
    rw [flashErase, if_pos hword, eraseEnd, if_pos hall, hzero, SectorGeometry.sector, Nat.zero_div,
      Nat.zero_mul, Nat.sub_zero]
    refine ⟨nofun, fun (ok : Bool) chip' hstep => ⟨rfl, ?_⟩⟩
    obtain ⟨hnor, hsucceeds⟩ := htransfers _ _ _ _ hstep
    obtain rfl : ok = true := hsucceeds.resolve_left id
    rcases hnor with rfl | ⟨hfailed, -⟩
    · rfl
    · cases hfailed
  · refine (safe_flashErase htransfers (by omega) hinside chip).mono ?_ ?_
    · rintro chip' op ⟨index, -, rfl, -⟩
      exact OspiOp.noConfusion
    · rintro ret chip' (⟨rfl, herased⟩ | ⟨-, hfalse, -⟩)
      · refine ⟨rfl, ?_⟩
        rw [herased.content, eraseEnd, if_neg hall,
          ← sector_add_numSectors (by omega) hinside, Nat.add_mul, Nat.add_sub_cancel_left]
      · exact hfalse.elim

end Run

/-! ## Which sectors are sent the command -/

theorem okStep_progress (info : SectorGeometry) (chip : Chip) {op : OspiOp} (h : op ≠ .endless) :
    ∃ answer chip', okStep info chip op answer chip' := by
  cases op with
  | progress done total => exact ⟨(), _, rfl, trivial⟩
  | moduloByZero value => exact ⟨(0 : UInt32), _, rfl, trivial⟩
  | malloc size => exact ⟨true, _, rfl, trivial⟩
  | read address count =>
      refine ⟨some (fun offset => chip.content (address.toNat + offset) : Memory), _,
        ⟨rfl, ?_⟩, rfl⟩
      intro buf hbuf offset _
      rw [← Option.some.inj hbuf]
  | program address source count data => exact ⟨true, _, .inl rfl, rfl⟩
  | sectorErase address => exact ⟨true, _, .inl rfl, rfl⟩
  | chipErase => exact ⟨true, _, .inl rfl, rfl⟩
  | endless => exact absurd rfl h

def SentErase (info : SectorGeometry) (journal : List OspiOp) (sector : Nat) : Prop :=
  ∃ address, .sectorErase address ∈ journal ∧ info.sector address.toNat = sector

def Intersects (info : SectorGeometry) (address byteCount sector : Nat) : Prop :=
  ∃ a, address ≤ a ∧ a < address + byteCount ∧ info.sector a = sector

/-- In every run in which the transfers succeed, the sectors that intersect the range are
sent the command, and no other sector is. -/
def ErasesExactly (info : SectorGeometry) (address byteCount : UInt32) : Prop :=
  ∀ content ret chip',
    Prog.Returns (okStep info) ⟨content, []⟩ (flashErase info address byteCount) ret chip' →
    ∀ sector, SentErase info chip'.journal sector ↔
      Intersects info address.toNat byteCount.toNat sector

private theorem intersects_iff (info : SectorGeometry) {address byteCount sector : Nat}
    (hpos : 0 < byteCount) :
    Intersects info address byteCount sector ↔
      info.sector address ≤ sector ∧ sector ≤ info.sector (address + byteCount - 1) := by
  constructor
  · rintro ⟨a, hlow, hhigh, rfl⟩
    exact ⟨Nat.div_le_div_right hlow, Nat.div_le_div_right (Nat.le_sub_one_of_lt hhigh)⟩
  · rintro ⟨hlow, hhigh⟩
    have hsize := info.size_pos
    rcases Nat.lt_or_ge (sector * info.size) address with hlt | hge
    · -- the sector starts before the range, which then starts inside it
      refine ⟨address, Nat.le_refl _, by omega, Nat.le_antisymm hlow ?_⟩
      exact (Nat.le_div_iff_mul_le hsize).2 (Nat.le_of_lt hlt)
    · refine ⟨sector * info.size, hge, ?_, Nat.mul_div_cancel _ hsize⟩
      have hend := (Nat.le_div_iff_mul_le hsize).1 hhigh
      omega

section Exactly

variable {info : SectorGeometry} {address byteCount : UInt32}

private theorem erases_sectors (hless : byteCount.toNat < info.totalSize)
    (hinside : address.toNat + byteCount.toNat ≤ info.totalSize) (content : Memory) :
    Prog.Safe (okStep info) (fun _ op => op ≠ .endless)
      (fun _ chip' => ∀ sector, SentErase info chip'.journal sector ↔
        info.sector address.toNat ≤ sector ∧
          sector ≤ info.sector (address.toNat + byteCount.toNat))
      (flashErase info address byteCount) ⟨content, []⟩ := by
  refine (safe_flashErase (transfers_okStep info) hless hinside ⟨content, []⟩).mono ?_ ?_
  · rintro chip' op ⟨index, -, rfl, -⟩
    exact OspiOp.noConfusion
  rintro ret chip' (⟨-, herased⟩ | ⟨-, hfalse, -⟩) sector
  · have hlast := sector_add_numSectors hless hinside
    constructor
    · rintro ⟨sent, hsent, rfl⟩
      obtain ⟨index, hindex, hop⟩ | hnil := (herased.journal _).1 hsent
      · injection hop with hop
        rw [hop, sector_eraseAddress hless hinside hindex]
        omega
      · cases hnil
    · rintro ⟨hlow, hhigh⟩
      have hindex : sector - info.sector address.toNat <
          (numSectors info address byteCount).toNat := by omega
      refine ⟨eraseAddress info address (sector - info.sector address.toNat),
        (herased.journal _).2 (.inl ⟨_, hindex, rfl⟩), ?_⟩
      rw [sector_eraseAddress hless hinside hindex, Nat.add_sub_cancel' hlow]
  · exact hfalse.elim

/-- One sector too many is erased exactly when the range ends at the end of a sector. -/
theorem erasesExactly_iff (hpos : 0 < byteCount.toNat) (hless : byteCount.toNat < info.totalSize)
    (hinside : address.toNat + byteCount.toNat ≤ info.totalSize) :
    ErasesExactly info address byteCount ↔ (address.toNat + byteCount.toNat) % info.size ≠ 0 := by
  have hsize := info.size_pos
  have hend := Nat.div_add_mod (address.toNat + byteCount.toNat) info.size
  constructor
  · intro hexactly haligned
    have hsafe := erases_sectors hless hinside (fun _ => 0xFF)
    obtain ⟨ret, chip', hrun, hsent⟩ := hsafe.exists_returns
      fun chip op hop => okStep_progress info chip hop
    have hboth := (hexactly _ ret chip' hrun (info.sector (address.toNat + byteCount.toNat))).1
      ((hsent _).2 ⟨Nat.div_le_div_right (Nat.le_add_right _ _), Nat.le_refl _⟩)
    have hlast := ((intersects_iff info hpos).1 hboth).2
    have hmul := (Nat.le_div_iff_mul_le hsize).1 hlast
    rw [SectorGeometry.sector, Nat.mul_comm] at hmul
    omega
  · intro hrest content ret chip' hrun sector
    have hsafe := erases_sectors hless hinside content
    rw [hsafe.returns hrun sector, intersects_iff info hpos]
    have hsame : info.sector (address.toNat + byteCount.toNat - 1) =
        info.sector (address.toNat + byteCount.toNat) := by
      refine Nat.le_antisymm (Nat.div_le_div_right (Nat.sub_le _ _)) ?_
      refine (Nat.le_div_iff_mul_le hsize).2 ?_
      rw [SectorGeometry.sector, Nat.mul_comm]
      omega
    rw [hsame]

end Exactly

/-! ## A device of the table -/

private theorem sectorSize64K : ∃ bits, (0x10000 : UInt32).toNat = 2 ^ bits := ⟨16, rfl⟩

private theorem sectMask64K : (0xFFFF0000 : UInt32) = ~~~(0x10000 - 1) := rfl

private theorem deviceSize256M :
    (0x10000 : UInt32).toNat * (0x200 : UInt32).toNat < 2 ^ 32 := by decide

def gigadevice : SectorGeometry where
  sectSize := 0x10000
  numSect := 0x200
  sectMask := 0xFFFF0000
  powerOfTwo := sectorSize64K
  mask := sectMask64K
  total := deviceSize256M

/-- Bytes of one sector only, and not its last one. -/
theorem erasesExactly_gigadevice :
    ErasesExactly gigadevice 0x20000 0x8000 ∧ ¬ (0x20000 + 0x8000) % gigadevice.size = 0 :=
  ⟨(erasesExactly_iff (by decide) (by decide) (by decide)).2 (by decide), by decide⟩

/-- The whole sector 2 is to be erased, and sector 3 is erased with it. -/
theorem not_erasesExactly_wholeSector : ¬ ErasesExactly gigadevice 0x20000 0x10000 := by
  intro hexactly
  obtain ⟨ret, chip', hrun, hsent⟩ := (@erases_sectors gigadevice 0x20000 0x10000 (by decide)
    (by decide) fun _ => 0xFF).exists_returns fun chip op hop =>
      okStep_progress gigadevice chip hop
  have hboth := (hexactly _ ret chip' hrun 3).1 ((hsent 3).2 (by decide))
  exact absurd ((intersects_iff gigadevice (by decide)).1 hboth).2 (by decide)

end Vmr.Flash
