import Mathlib.Data.Set.Basic
import Vmr.Flash.SafeWrite

/-!
# What the driver reaches

The cells that the transfers of a function may change, for any address and length
and however the transfers go.
-/

namespace Vmr.Flash

open Vmr.Lib

def changed (info : SectorGeometry) : OspiOp → Set Nat
  | .program address _ count _ => {a | address.toNat ≤ a ∧ a < address.toNat + count}
  | .sectorErase address => {a | info.sector a = info.sector address.toNat}
  | .chipErase => {a | a < info.totalSize}
  | .progress .. | .moduloByZero _ | .malloc _ | .read .. | .endless => ∅

theorem content_of_norStep {info : SectorGeometry} {chip chip' : Chip} {op : OspiOp}
    {answer : OspiAns op} (hstep : norStep info chip op answer chip') {a : Nat}
    (h : a ∉ changed info op) : chip'.content a = chip.content a := by
  cases op with
  | program address source count data =>
      rcases hstep with rfl | ⟨-, rfl⟩
      · refine Memory.program_outside _ _ ?_
        rw [changed, Set.mem_ofPred_eq] at h
        omega
      · rfl
  | sectorErase address =>
      rcases hstep with rfl | ⟨-, rfl⟩
      · refine Memory.erase_outside _ ?_
        have hstart := Nat.div_mul_le_self a info.size
        have hend := @Nat.lt_div_mul_add a _ info.size_pos
        rw [changed, Set.mem_ofPred_eq, SectorGeometry.sector, SectorGeometry.sector] at h
        change a < address.toNat / info.size * info.size ∨
          address.toNat / info.size * info.size + info.size ≤ a
        rcases Nat.lt_or_gt_of_ne h with hlt | hgt
        · have hnext := Nat.mul_le_mul_right info.size hlt
          rw [Nat.succ_mul] at hnext
          omega
        · have hnext := Nat.mul_le_mul_right info.size hgt
          rw [Nat.succ_mul] at hnext
          omega
      · rfl
  | chipErase =>
      rcases hstep with rfl | ⟨-, rfl⟩
      · refine Memory.erase_outside _ ?_
        rw [changed, Set.mem_ofPred_eq] at h
        change a < 0 ∨ 0 + info.totalSize ≤ a
        omega
      · rfl
  | read => rw [hstep.1]; rfl
  | progress | moduloByZero | malloc => rw [hstep]; rfl
  | endless => exact hstep.elim

/-! ## The cells of a range -/

section Cells

variable (info : SectorGeometry)

def eraseCells (address byteCount : UInt32) : Set Nat :=
  if byteCount = info.numSect * info.sectSize then {a | a < info.totalSize}
  else {a | ∃ sector < (numSectors info address byteCount).toNat,
    info.sector a = info.sector (eraseAddress info address sector).toNat}

def writeCells (baseAddress len : UInt32) : Set Nat :=
  {a | ∃ chunk < 32 * (pageCount len).toNat,
    (baseAddress + UInt32.ofNat (8 * chunk)).toNat ≤ a ∧
      a < (baseAddress + UInt32.ofNat (8 * chunk)).toNat + 8}

def safeWriteCells (offset len : UInt32) : Set Nat :=
  eraseCells info offset len ∪ writeCells offset len ∪
    {a | len % info.sectSize ≠ 0 ∧
      a ∈ writeCells (offset + (len - len % info.sectSize)) info.sectSize}

end Cells

section Bounds

variable {info : FlashInfo} {address byteCount : UInt32}

theorem mem_eraseCells (hinside : address.toNat + byteCount.toNat ≤ info.totalSize) {a : Nat}
    (h : a ∈ eraseCells info.toSectorGeometry address byteCount) :
    eraseStart info address ≤ a ∧
      a < eraseEnd info.toSectorGeometry address.toNat byteCount.toNat := by
  by_cases hall : byteCount.toNat = info.totalSize
  · have hword := info.eq_wholeFlash_iff.2 hall
    have hzero : address.toNat = 0 := by omega
    rw [eraseCells, if_pos hword] at h
    rw [eraseStart, eraseEnd, if_pos hall, hzero, SectorGeometry.sector, Nat.zero_div, Nat.zero_mul]
    exact ⟨Nat.zero_le a, h⟩
  · have hless : byteCount.toNat < info.totalSize := by omega
    have hword := mt info.eq_wholeFlash_iff.1 hall
    rw [eraseCells, if_neg hword] at h
    obtain ⟨sector, hsector, hsame⟩ := h
    rw [sector_eraseAddress hless hinside hsector] at hsame
    have hlast := sector_add_numSectors hless hinside
    have hstart := Nat.mul_le_mul_right info.size (show info.sector address.toNat ≤ info.sector a by omega)
    have hend := Nat.mul_le_mul_right info.size (show info.sector a + 1 ≤
      info.sector (address.toNat + byteCount.toNat) + 1 by omega)
    have hlow : info.sector a * info.size ≤ a := Nat.div_mul_le_self a info.size
    have hhigh : a < info.sector a * info.size + info.size := Nat.lt_div_mul_add info.size_pos
    rw [eraseStart, eraseEnd, if_neg hall]
    rw [Nat.succ_mul] at hend
    exact ⟨Nat.le_trans hstart hlow, by omega⟩

theorem mem_writeCells (hinside : address.toNat + roundUp byteCount ≤ 2 ^ 32) {a : Nat}
    (h : a ∈ writeCells address byteCount) :
    address.toNat ≤ a ∧ a < address.toNat + roundUp byteCount := by
  obtain ⟨chunk, hchunk, hlow, hhigh⟩ := h
  have hround : roundUp byteCount = 256 * (pageCount byteCount).toNat := rfl
  rw [toNat_chunkAddress hinside (by omega)] at hlow hhigh
  omega

theorem mem_safeWriteCells (hinside : address.toNat + byteCount.toNat ≤ info.totalSize)
    (hroom : keptEnd info address byteCount ≤ 2 ^ 32) {a : Nat}
    (h : a ∈ safeWriteCells info.toSectorGeometry address byteCount) :
    eraseStart info address ≤ a ∧
      (a < eraseEnd info.toSectorGeometry address.toNat byteCount.toNat ∨
        a < keptEnd info address byteCount) := by
  have hstart := @eraseStart_le info address
  have hround := @roundUp_le_keptEnd info address byteCount
  rcases h with (herase | hwrite) | ⟨hrest, hkept⟩
  · obtain ⟨hlow, hhigh⟩ := mem_eraseCells hinside herase
    exact ⟨hlow, .inl hhigh⟩
  · obtain ⟨hlow, hhigh⟩ := mem_writeCells (by omega) hwrite
    exact ⟨by omega, .inr (by omega)⟩
  · have hmod : byteCount.toNat % info.size ≠ 0 := by
      intro hzero
      refine hrest ?_
      rw [← UInt32.toNat_inj, UInt32.toNat_mod]
      exact hzero
    have hbase : (address + (byteCount - byteCount % info.sectSize)).toNat =
        address.toNat + keptFrom info byteCount := by
      have hsum := @keptFrom_add info byteCount
      have htotal := info.totalSize_lt
      rw [toNat_kept, Nat.mod_eq_of_lt (by omega)]
    have hsize : info.sectSize.toNat = info.size := rfl
    have hpages := info.wholePages
    have hwhole : roundUp info.sectSize = info.size := roundUp_of_pages (by omega)
    have hend : keptEnd info address byteCount =
        address.toNat + keptFrom info byteCount + info.size := by rw [keptEnd, if_neg hmod]
    obtain ⟨hlow, hhigh⟩ := mem_writeCells (by omega) hkept
    exact ⟨by omega, .inr (by omega)⟩

end Bounds

section Rules

variable {info : SectorGeometry} {σ : Type}
  {step : σ → (op : OspiOp) → OspiAns op → σ → Prop} {s : σ}

/-- A program that changes nothing outside the cells. -/
def Reaches (info : SectorGeometry) (cells : Set Nat)
    (step : σ → (op : OspiOp) → OspiAns op → σ → Prop) {α : Type} (p : OspiProg α) (s : σ) : Prop :=
  Prog.Safe step (fun _ op => changed info op ⊆ cells) (fun _ _ => True) p s

theorem Reaches.bind {cells : Set Nat} {α β : Type} {p : OspiProg α} {f : α → OspiProg β}
    (h : Reaches info cells step p s) (hf : ∀ value s', Reaches info cells step (f value) s') :
    Reaches info cells step (p >>= f) s :=
  Prog.Safe.bind h fun value s' _ => hf value s'

theorem Reaches.mono {cells cells' : Set Nat} {α : Type} {p : OspiProg α}
    (h : Reaches info cells step p s) (hsub : cells ⊆ cells') : Reaches info cells' step p s :=
  Prog.Safe.mono h (fun _ _ hop => Set.Subset.trans hop hsub) fun _ _ => id

theorem reaches_ret (cells : Set Nat) {α : Type} (value : α) :
    Reaches info cells step (.ret value : OspiProg α) s := trivial

theorem reaches_op {cells : Set Nat} {α : Type} {op : OspiOp} {next : OspiAns op → OspiProg α}
    (hop : changed info op ⊆ cells) (hnext : ∀ answer s', Reaches info cells step (next answer) s') :
    Reaches info cells step (.op op next) s :=
  ⟨hop, fun answer s' _ => hnext answer s'⟩

theorem reaches_flashErase (address byteCount : UInt32) :
    Reaches info (eraseCells info address byteCount) step (flashErase info address byteCount) s := by
  rw [flashErase]
  split
  next hall =>
    refine reaches_op ?_ fun _ _ => reaches_ret _ _
    rw [eraseCells, if_pos hall]
    exact Set.Subset.rfl
  next hpart =>
    refine Reaches.bind ((@Prog.Safe.forUntil _ _ _ _ step _ _ (fun _ _ => True) (fun _ _ => True)
      0 _ s trivial ?_).weaken fun _ _ _ => trivial) ?_
    · intro sector s _ hsector _
      refine ⟨?_, fun (ok : Bool) s' _ => ?_⟩
      · rw [eraseCells, if_neg hpart]
        exact fun a ha => ⟨sector, by omega, ha⟩
      · cases ok <;> trivial
    · rintro (_ | status) s'
      · exact reaches_ret _ _
      · exact reaches_ret _ _

theorem reaches_ospiFlashWrite {area : FlashArea} {offset baseAddress : UInt32}
    (hbase : getBaseAddress area + offset = baseAddress) (buf : Nat → UInt8) (len : UInt32) :
    Reaches info (writeCells baseAddress len) step (ospiFlashWrite area buf offset len) s := by
  have hread (page : Nat) (s : σ) :
      ReadsBack step (fun _ op => changed info op ⊆ writeCells baseAddress len) baseAddress len buf
        page (fun _ => True) (fun _ => True) s := by
    refine ⟨Set.empty_subset _, fun found s' _ => ?_⟩
    cases found with
    | none => trivial
    | some readBuffer =>
        dsimp only
        split <;> trivial
  have hwrite : Prog.Safe step (fun _ op => changed info op ⊆ writeCells baseAddress len)
      (AfterLoop (fun _ => True) fun _ => True)
      (Prog.forUntil (writePage baseAddress len buf) 0 (pageCount len).toNat) s := by
    refine @safe_writePages _ _ _ _ _ _ _ (fun _ _ => True) (fun _ => True) _ trivial
      (fun _ _ _ _ => ⟨Set.empty_subset _, fun _ _ _ => trivial⟩) ?_
    intro chunk s hchunk _
    refine ⟨fun a ha => ⟨chunk, hchunk, ha⟩, fun ok s' _ => ?_⟩
    split <;> trivial
  have hverify (s : σ) : Prog.Safe step (fun _ op => changed info op ⊆ writeCells baseAddress len)
      (AfterLoop (fun _ => True) fun _ => True)
      (Prog.forUntil (verifyPage baseAddress len buf) 0 (pageCount len).toNat) s := by
    refine @safe_verifyPages _ _ _ _ _ _ (fun _ _ => True) (fun _ => True) _ trivial
      (fun page s _ _ _ => hread page s) (fun _ _ _ _ _ => trivial) ?_
    intro page s _ _ _ _
    refine ⟨Set.empty_subset _, fun rest s' _ => ?_⟩
    split
    · exact hread page s'
    · trivial
  exact (safe_ospiFlashWrite hbase hwrite (fun s _ => hverify s)
    fun _ _ _ => Set.empty_subset _).weaken fun _ _ _ => trivial

private theorem reaches_eraseAndWrite (info : FlashInfo) (buf : Nat → UInt8) (offset len : UInt32)
    {cached : Option (Nat → UInt8)} (hcached : cached.isSome → len % info.sectSize ≠ 0) :
    Reaches info.toSectorGeometry (safeWriteCells info.toSectorGeometry offset len) step
      (eraseAndWrite info buf offset len cached) s := by
  rw [eraseAndWrite, ospiFlashErase, boot_add]
  refine ((reaches_flashErase offset len).mono fun a ha => .inl (.inl ha)).bind fun ret s => ?_
  split
  · exact reaches_ret _ _
  refine ((reaches_ospiFlashWrite (boot_add offset) buf len).mono
    fun a ha => .inl (.inr ha)).bind fun ret s => ?_
  split
  · exact reaches_ret _ _
  cases cached with
  | none => exact reaches_ret _ _
  | some sector =>
      exact (reaches_ospiFlashWrite (boot_add _) sector info.sectSize).mono
        fun a ha => .inr ⟨hcached rfl, ha⟩

theorem reaches_ospiFlashSafeWrite (info : FlashInfo) (area : FlashArea) (buf : Nat → UInt8)
    (offset len : UInt32) :
    Reaches info.toSectorGeometry {a | offset &&& UInt32.ofNat ospiVersalPagesize = 0 ∧
        a ∈ safeWriteCells info.toSectorGeometry offset len} step
      (ospiFlashSafeWrite info area buf offset len) s := by
  rw [ospiFlashSafeWrite]
  split
  · exact reaches_ret _ _
  split
  · exact reaches_ret _ _
  next haccept =>
    have hsub : safeWriteCells info.toSectorGeometry offset len ⊆
        {a | offset &&& UInt32.ofNat ospiVersalPagesize = 0 ∧
          a ∈ safeWriteCells info.toSectorGeometry offset len} :=
      fun a ha => ⟨not_not.1 haccept, ha⟩
    split
    next hrest =>
      refine reaches_op (Set.empty_subset _) fun (allocated : Bool) s => ?_
      cases allocated with
      | false => exact reaches_ret _ _
      | true =>
          refine reaches_op (Set.empty_subset _) fun (found : Option Memory) s => ?_
          cases found with
          | none => exact reaches_ret _ _
          | some content =>
              have hreach := @reaches_eraseAndWrite _ step s info buf offset len (some (sectorBuffer
                content buf (len - len % info.sectSize).toNat (len % info.sectSize).toNat))
                fun _ => hrest
              exact hreach.mono hsub
    · have hreach := @reaches_eraseAndWrite _ step s info buf offset len none
        fun hsome => absurd hsome (by decide)
      exact hreach.mono hsub

end Rules

end Vmr.Flash
