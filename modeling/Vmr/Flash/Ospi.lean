import Vmr.Lib.Errno
import Vmr.Lib.Nor
import Vmr.Lib.Prog

/-!
# The OSPI flash driver

The functions of `cl_ospi_polled.c` as programs over the transfers to the flash.
A transfer may fail, and a failed one may still have had its effect.  The flash
itself is a NOR memory; it keeps a journal of the transfers.
-/

namespace Vmr.Flash

open Vmr.Lib

def xstFailure : Int := 1

def ospiVersalPagesize : Nat := 256

structure SectorGeometry where
  sectSize : UInt32
  numSect : UInt32
  sectMask : UInt32
  powerOfTwo : ∃ bits, sectSize.toNat = 2 ^ bits
  mask : sectMask = ~~~(sectSize - 1)
  total : sectSize.toNat * numSect.toNat < 2 ^ 32

/-- A sector holds whole pages. -/
structure FlashInfo extends SectorGeometry where
  wholePages : 256 ∣ sectSize.toNat

inductive FlashArea
  | clFlashBoot | clFlashApu | clFlashScImage
  deriving DecidableEq, Repr

def getBaseAddress : FlashArea → UInt32
  | .clFlashBoot => 0
  | .clFlashApu => 0x1000000
  | .clFlashScImage => 0xFFFFFFFF

/-! ## Transfers -/

inductive OspiOp
  /-- Set the progress to `done * 100 / total`. -/
  | progress (done total : UInt32)
  /-- A remainder is computed on division by zero. -/
  | moduloByZero (value : UInt32)
  | malloc (size : Nat)
  | read (address : UInt32) (count : Nat)
  /-- Program bytes that are taken from a position of the caller's buffer. -/
  | program (address : UInt32) (source count : Nat) (data : Nat → UInt8)
  | sectorErase (address : UInt32)
  | chipErase
  /-- A loop whose counter wraps before it meets its bound. -/
  | endless

def OspiAns : OspiOp → Type
  | .progress .. => Unit
  | .moduloByZero _ => UInt32
  | .malloc _ => Bool
  | .read .. => Option Memory
  | .program .. => Bool
  | .sectorErase _ => Bool
  | .chipErase => Bool
  | .endless => Empty

abbrev OspiProg := Prog OspiOp OspiAns

def perform (op : OspiOp) : OspiProg (OspiAns op) := Prog.perform op

/-! ## Transfers of the driver -/

def flashIoWrite (address : UInt32) (source byteCount : Nat) (buf : Nat → UInt8) :
    OspiProg (Option Int) :=
  Prog.forUntil (fun index => do
    let position := source + 8 * index
    let bytestowrite := min 8 (byteCount - 8 * index)
    let ok : Bool ← perform (.program (address + UInt32.ofNat (8 * index)) position bytestowrite
      fun offset => buf (position + offset))
    return if ok then none else some xstFailure) 0 ((byteCount + 7) / 8)

def numSectors (info : SectorGeometry) (address byteCount : UInt32) : UInt32 :=
  let numSect := byteCount / info.sectSize + 1
  if (address + byteCount) &&& info.sectMask =
      (address + numSect * info.sectSize) &&& info.sectMask then numSect + 1
  else numSect

def flashErase (info : SectorGeometry) (address byteCount : UInt32) : OspiProg Int :=
  if byteCount = info.numSect * info.sectSize then do
    -- the result of the chip erase is not looked at
    let _ : Bool ← perform .chipErase
    return 0
  else do
    match ← Prog.forUntil (fun sector => do
      let ok : Bool ← perform (.sectorErase (address + UInt32.ofNat sector * info.sectSize))
      return if ok then none else some xstFailure) 0 (numSectors info address byteCount).toNat with
    | some status => return status
    | none => return 0

/-! ## The interface of the driver -/

def ospiFlashRead (area : FlashArea) (offset : UInt32) (len : Nat) : OspiProg (Option Memory) :=
  perform (.read (getBaseAddress area + offset) len)

def pageCount (len : UInt32) : UInt32 :=
  if len % 256 ≠ 0 then len / 256 + 1 else len / 256

def writePage (baseAddress len : UInt32) (buf : Nat → UInt8) (page : Nat) :
    OspiProg (Option Int) := do
  let _ : Unit ← perform (.progress (UInt32.ofNat page) (pageCount len))
  let writeOffset := page * ospiVersalPagesize
  flashIoWrite (baseAddress + UInt32.ofNat writeOffset) writeOffset ospiVersalPagesize buf

def remainder (value divisor : UInt32) : OspiProg UInt32 :=
  if divisor = 0 then perform (.moduloByZero value) else return value % divisor

def firstWordErased (page : Nat → UInt8) : Bool :=
  page 0 = 0xFF ∧ page 1 = 0xFF ∧ page 2 = 0xFF ∧ page 3 = 0xFF

def misMatch (len count : Nat) (page buf : Nat → UInt8) : Bool :=
  (List.range ospiVersalPagesize).any fun i =>
    ¬ (firstWordErased page = false ∨ count + i ≥ len ∨ page i = buf (count + i))

def readBack (baseAddress len : UInt32) (buf : Nat → UInt8) (count : Nat) :
    OspiProg (Option Int) := do
  let found : Option Memory ← perform (.read (baseAddress + UInt32.ofNat count) ospiVersalPagesize)
  match found with
  | none => return some xstFailure
  | some readBuffer =>
      return if misMatch len.toNat count readBuffer buf then some xstFailure else none

def verifyPage (baseAddress len : UInt32) (buf : Nat → UInt8) (index : Nat) :
    OspiProg (Option Int) := do
  let count := index * ospiVersalPagesize
  let skipped ← if count ≠ 0 then remainder (UInt32.ofNat count) (pageCount len / 10)
    else pure 0
  if skipped ≠ 0 then return none
  else readBack baseAddress len buf count

def ospiFlashWrite (area : FlashArea) (buf : Nat → UInt8) (offset len : UInt32) : OspiProg Int := do
  let baseAddress := getBaseAddress area + offset
  match ← Prog.forUntil (writePage baseAddress len buf) 0 (pageCount len).toNat with
  | some status => return status
  | none =>
      -- read back: check some pages
      match ← Prog.forUntil (verifyPage baseAddress len buf) 0 (pageCount len).toNat with
      | some status => return status
      | none =>
          if (pageCount len).toNat * ospiVersalPagesize % 2 ^ 32 < len.toNat then
            let never : Empty ← perform .endless
            nomatch never
          else return 0

def ospiFlashErase (info : SectorGeometry) (area : FlashArea) (offset len : UInt32) :
    OspiProg Int :=
  flashErase info (getBaseAddress area + offset) len

def copyPage (area : FlashArea) (src tgt len : UInt32) (index : Nat) : OspiProg (Option Int) := do
  let idx := UInt32.ofNat (index * ospiVersalPagesize)
  let _ : Unit ← perform (.progress idx len)
  match ← ospiFlashRead area (src + idx) ospiVersalPagesize with
  | none => return some xstFailure
  | some readBuffer => do
      let ret ← ospiFlashWrite area readBuffer (tgt + idx) (UInt32.ofNat ospiVersalPagesize)
      return if ret ≠ 0 then some ret else none

/-- The loop goes on as long as `idx <= len`. -/
def ospiFlashCopy (area : FlashArea) (src tgt len : UInt32) : OspiProg Int := do
  let pages := len.toNat / ospiVersalPagesize + 1
  match ← Prog.forUntil (copyPage area src tgt len) 0 pages with
  | some ret => return ret
  | none =>
      if pages * ospiVersalPagesize % 2 ^ 32 ≤ len.toNat then
        let never : Empty ← perform .endless
        nomatch never
      else return 0

def sectorBuffer (found buf : Nat → UInt8) (lastSectorOff rest : Nat) : Nat → UInt8 :=
  fun offset => if offset < rest then buf (lastSectorOff + offset) else found offset

def eraseAndWrite (info : FlashInfo) (buf : Nat → UInt8) (offset len : UInt32)
    (cached : Option (Nat → UInt8)) : OspiProg Int := do
  let lastSectorOff := len - len % info.sectSize
  let ret ← ospiFlashErase info.toSectorGeometry .clFlashBoot offset len
  if ret ≠ 0 then return ret
  else
    let ret ← ospiFlashWrite .clFlashBoot buf offset len
    if ret ≠ 0 then return ret
    else match cached with
      | none => return ret
      | some sector => ospiFlashWrite .clFlashBoot sector (offset + lastSectorOff) info.sectSize

def ospiFlashSafeWrite (info : FlashInfo) (area : FlashArea) (buf : Nat → UInt8)
    (offset len : UInt32) : OspiProg Int :=
  if area ≠ .clFlashBoot then return -einval
  else if offset &&& UInt32.ofNat ospiVersalPagesize ≠ 0 then return -einval
  else if len % info.sectSize ≠ 0 then do
    let allocated : Bool ← perform (.malloc info.sectSize.toNat)
    if allocated = false then return -enomem
    else
      let lastSectorOff := len - len % info.sectSize
      match ← ospiFlashRead .clFlashBoot (offset + lastSectorOff) info.sectSize.toNat with
      | none => return xstFailure
      | some found =>
          eraseAndWrite info buf offset len
            (some (sectorBuffer found buf lastSectorOff.toNat (len % info.sectSize).toNat))
  else eraseAndWrite info buf offset len none

/-! ## The flash -/

structure Chip where
  content : Memory
  /-- The transfers and other operations, the last one first. -/
  journal : List OspiOp

namespace Chip

def issue (chip : Chip) (op : OspiOp) : Chip := { chip with journal := op :: chip.journal }

def update (chip : Chip) (op : OspiOp) (content : Memory) : Chip where
  content := content
  journal := op :: chip.journal

end Chip

/-- A transfer that fails may have taken effect all the same. -/
def norStep (info : SectorGeometry) (chip : Chip) : (op : OspiOp) → OspiAns op → Chip → Prop
  | .program address source count data, (ok : Bool), chip' =>
      chip' = chip.update (.program address source count data)
        (chip.content.program address.toNat count data) ∨
      ok = false ∧ chip' = chip.issue (.program address source count data)
  | .sectorErase address, (ok : Bool), chip' =>
      chip' = chip.update (.sectorErase address) (chip.content.erase
        (address.toNat / info.sectSize.toNat * info.sectSize.toNat) info.sectSize.toNat) ∨
      ok = false ∧ chip' = chip.issue (.sectorErase address)
  | .chipErase, (ok : Bool), chip' =>
      chip' = chip.update .chipErase
        (chip.content.erase 0 (info.sectSize.toNat * info.numSect.toNat)) ∨
      ok = false ∧ chip' = chip.issue .chipErase
  | .read address count, (found : Option Memory), chip' =>
      chip' = chip.issue (.read address count) ∧
      ∀ buf, found = some buf → ∀ offset < count,
        buf offset = chip.content (address.toNat + offset)
  | .progress done total, _, chip' => chip' = chip.issue (.progress done total)
  | .moduloByZero value, _, chip' => chip' = chip.issue (.moduloByZero value)
  | .malloc size, _, chip' => chip' = chip.issue (.malloc size)
  | .endless, _, _ => False

def Succeeds : (op : OspiOp) → OspiAns op → Prop
  | .program .., (ok : Bool) => ok = true
  | .sectorErase _, (ok : Bool) => ok = true
  | .chipErase, (ok : Bool) => ok = true
  | .read .., (found : Option Memory) => found.isSome
  | .progress .., _ | .moduloByZero _, _ | .malloc _, _ | .endless, _ => True

def okStep (info : SectorGeometry) (chip : Chip) (op : OspiOp) (answer : OspiAns op)
    (chip' : Chip) : Prop :=
  norStep info chip op answer chip' ∧ Succeeds op answer

/-- How transfers go: as those of a NOR flash, and successfully unless they may fail. -/
def Transfers (info : SectorGeometry) (mayFail : Prop)
    (step : Chip → (op : OspiOp) → OspiAns op → Chip → Prop) : Prop :=
  ∀ chip op answer chip', step chip op answer chip' →
    norStep info chip op answer chip' ∧ (mayFail ∨ Succeeds op answer)

theorem transfers_norStep (info : SectorGeometry) : Transfers info True (norStep info) :=
  fun _ _ _ _ hstep => ⟨hstep, .inl trivial⟩

theorem transfers_okStep (info : SectorGeometry) : Transfers info False (okStep info) :=
  fun _ _ _ _ hstep => ⟨hstep.1, .inr hstep.2⟩

end Vmr.Flash
