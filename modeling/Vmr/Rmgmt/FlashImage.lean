import Vmr.Flash.Copy
import Vmr.Rmgmt.Fpt

/-!
# The image of a base PDI in memory

While the partition is written, the boot tag of the image in memory is replaced
by ones.  A write that fails leaves it so.
-/

namespace Vmr.Rmgmt

open Vmr.Lib Vmr.Flash Vmr.Xclbin

structure FlashCall where
  info : FlashInfo
  rh : RmgmtHandler
  request : FlashRequest
  env : BootEnv
  payload : BootPayload

namespace FlashCall

variable (call : FlashCall)

def prog : OspiProg FlashResult :=
  rmgmtFlashRpuPdi call.info call.rh call.request call.env call.payload

def xclbin : Memory := dataAt call.env.memory call.rh.rhDataBase

def pdi : Option (UInt32 × UInt32) :=
  (rmgmtXclbinSectionInfo call.xclbin axlfPdi).map fun found =>
    (call.rh.rhDataBase + found.1.toUInt32, found.2.toUInt32)

def Inside (address : Nat) : Prop :=
  call.rh.rhDataBase.toNat ≤ address ∧
    address < call.rh.rhDataBase.toNat + (mLength call.xclbin).toNat

/-- What the xclbin has of the boot tag is all ones. -/
def TagMasked : Prop :=
  ∀ pdiData len, call.pdi = some (pdiData, len) → ∀ index < 4,
    call.Inside (plmBootTagAddr pdiData + index) →
      call.env.memory (plmBootTagAddr pdiData + index) = 0xFF

end FlashCall

section Answers

variable {σ : Type} (respond : σ → (op : OspiOp) → Option (OspiAns op × σ)) (s : σ)
  (call : FlashCall)

/-- When an error is returned, the bytes of the xclbin are what they were. -/
def KeepsImage : Prop :=
  ∀ result s', call.prog.answers respond s = some (result, s') → result.ret ≠ 0 →
    ∀ address, call.Inside address → result.memory address = call.env.memory address

/-- The partition is erased, and the write of the image without its boot tag fails. -/
def MaskedWriteFails : Prop :=
  call.rh.rhAlreadyFlashed = false ∧ call.request.flashToLegacy = false ∧
    ∃ pdiData len payload pdiMeta s₁ s₂ ret s₃, call.pdi = some (pdiData, len) ∧
      (prepareFlash call.info call.request call.env call.payload len).answers respond s =
        some (.ok (payload, pdiMeta), s₁) ∧
      (ospiFlashErase call.info.toSectorGeometry .clFlashBoot payload.defaultPartitionOffset
        len).answers respond s₁ = some (0, s₂) ∧
      (ospiFlashWrite .clFlashBoot (dataAt (maskTag call.env.memory pdiData) pdiData)
        payload.defaultPartitionOffset len).answers respond s₂ = some (ret, s₃) ∧
      ret ≠ 0

variable {respond s call}

theorem maskTag_inside (memory : Memory) (pdiData : UInt32) {index : Nat} (h : index < 4) :
    maskTag memory pdiData (plmBootTagAddr pdiData + index) = 0xFF := by
  rw [maskTag, Memory.store32, Memory.store_inside _ _ h]
  have hindex : index = 0 ∨ index = 1 ∨ index = 2 ∨ index = 3 := by omega
  rcases hindex with rfl | rfl | rfl | rfl <;> rfl

theorem maskTag_outside (memory : Memory) (pdiData : UInt32) {address : Nat}
    (h : address < plmBootTagAddr pdiData ∨ plmBootTagAddr pdiData + 4 ≤ address) :
    maskTag memory pdiData address = memory address :=
  Memory.store_outside _ _ h

private theorem memory_flashLegacy {info : FlashInfo} {memory : Memory} {pdiData len : UInt32}
    {result : FlashResult} {s' : σ}
    (hrun : (flashLegacy info memory pdiData len).answers respond s = some (result, s')) :
    result.memory = memory := by
  obtain ⟨ret, s₁, -, hrest⟩ := (Prog.answers_bind_eq_some _).1 hrun
  split at hrest
  · obtain ⟨rfl, -⟩ := Prod.mk.inj (Option.some.inj hrest)
    rfl
  · obtain ⟨ret, s₂, -, hrest⟩ := (Prog.answers_bind_eq_some _).1 hrest
    obtain ⟨rfl, -⟩ := Prod.mk.inj (Option.some.inj hrest)
    rfl

private theorem memory_programDefault {info : FlashInfo} {payload : BootPayload} {memory : Memory}
    {pdiData len : UInt32} {pdiMeta : FptPdiMeta} {result : FlashResult} {s' : σ}
    (hrun : (programDefault info payload memory pdiData len pdiMeta).answers respond s =
      some (result, s')) :
    result.memory = memory ∨ result.memory = maskTag memory pdiData ∧
      (ospiFlashWrite .clFlashBoot (dataAt (maskTag memory pdiData) pdiData)
        payload.defaultPartitionOffset len).answers respond s = some (result.ret, s') ∧
      result.ret ≠ 0 := by
  obtain ⟨ret, s₁, hwrite, hrest⟩ := (Prog.answers_bind_eq_some _).1 hrun
  split at hrest
  next hret =>
    obtain ⟨rfl, rfl⟩ := Prod.mk.inj (Option.some.inj hrest)
    exact .inr ⟨rfl, hwrite, hret⟩
  next =>
    have hrestored := Memory.store32_load32 memory (plmBootTagAddr pdiData) bootTagMask
    obtain ⟨ret, s₂, -, hrest⟩ := (Prog.answers_bind_eq_some _).1 hrest
    split at hrest
    · obtain ⟨rfl, -⟩ := Prod.mk.inj (Option.some.inj hrest)
      exact .inl hrestored
    · obtain ⟨ret, s₃, -, hrest⟩ := (Prog.answers_bind_eq_some _).1 hrest
      obtain ⟨rfl, -⟩ := Prod.mk.inj (Option.some.inj hrest)
      exact .inl hrestored

private theorem memory_writeDefault {info : FlashInfo} {payload : BootPayload} {memory : Memory}
    {pdiData len : UInt32} {pdiMeta : FptPdiMeta} {result : FlashResult} {s' : σ}
    (hrun : (writeDefault info payload memory pdiData len pdiMeta).answers respond s =
      some (result, s')) :
    result.memory = memory ∨ ∃ s₁, result.memory = maskTag memory pdiData ∧
      (ospiFlashErase info.toSectorGeometry .clFlashBoot payload.defaultPartitionOffset
        len).answers respond s = some (0, s₁) ∧
      (ospiFlashWrite .clFlashBoot (dataAt (maskTag memory pdiData) pdiData)
        payload.defaultPartitionOffset len).answers respond s₁ = some (result.ret, s') ∧
      result.ret ≠ 0 := by
  obtain ⟨ret, s₁, herase, hrest⟩ := (Prog.answers_bind_eq_some _).1 hrun
  split at hrest
  · obtain ⟨rfl, -⟩ := Prod.mk.inj (Option.some.inj hrest)
    exact .inl rfl
  next hret =>
    rw [not_not.1 hret] at herase
    exact (memory_programDefault hrest).imp_right fun hmasked =>
      ⟨s₁, hmasked.1, herase, hmasked.2⟩

theorem memory_prog {result : FlashResult} {s' : σ}
    (hrun : call.prog.answers respond s = some (result, s')) :
    result.memory = call.env.memory ∨ MaskedWriteFails respond s call ∧
      ∃ pdiData len, call.pdi = some (pdiData, len) ∧
        result.memory = maskTag call.env.memory pdiData := by
  unfold FlashCall.prog rmgmtFlashRpuPdi at hrun
  split at hrun
  · obtain ⟨rfl, -⟩ := Prod.mk.inj (Option.some.inj hrun)
    exact .inl rfl
  next halready =>
    cases hinfo : rmgmtXclbinSectionInfo (dataAt call.env.memory call.rh.rhDataBase) axlfPdi with
    | none =>
        rw [hinfo] at hrun
        obtain ⟨rfl, -⟩ := Prod.mk.inj (Option.some.inj hrun)
        exact .inl rfl
    | some found =>
        rw [hinfo] at hrun
        have hpdi : call.pdi =
            some (call.rh.rhDataBase + found.1.toUInt32, found.2.toUInt32) := by
          rw [FlashCall.pdi, FlashCall.xclbin, hinfo]
          rfl
        dsimp only at hrun
        split at hrun
        · exact .inl (memory_flashLegacy hrun)
        next hlegacy =>
          obtain ⟨prepared, s₁, hprepare, hrest⟩ := (Prog.answers_bind_eq_some _).1 hrun
          cases prepared with
          | error ret =>
              obtain ⟨rfl, -⟩ := Prod.mk.inj (Option.some.inj hrest)
              exact .inl rfl
          | ok prepared =>
              rcases memory_writeDefault hrest with hkept | ⟨s₂, hmasked, herase, hwrite, hret⟩
              · exact .inl hkept
              · exact .inr ⟨⟨by simpa using halready, by simpa using hlegacy, _, _, prepared.1,
                  prepared.2, s₁, s₂, _, _, hpdi, hprepare, herase, hwrite, hret⟩,
                  _, _, hpdi, hmasked⟩

private theorem prog_of_maskedWriteFails (h : MaskedWriteFails respond s call) :
    ∃ result s' pdiData len, call.prog.answers respond s = some (result, s') ∧ result.ret ≠ 0 ∧
      call.pdi = some (pdiData, len) ∧ result.memory = maskTag call.env.memory pdiData := by
  obtain ⟨halready, hlegacy, pdiData, len, payload, pdiMeta, s₁, s₂, ret, s₃, hpdi, hprepare,
    herase, hwrite, hret⟩ := h
  refine ⟨⟨ret, maskTag call.env.memory pdiData, false⟩, s₃, pdiData, len, ?_, hret, hpdi, rfl⟩
  obtain ⟨found, hinfo, heq⟩ := Option.map_eq_some_iff.1 hpdi
  obtain ⟨rfl, rfl⟩ := Prod.mk.inj heq
  unfold FlashCall.xclbin at hinfo
  unfold FlashCall.prog rmgmtFlashRpuPdi
  rw [if_neg (by simp [halready]), hinfo]
  dsimp only
  rw [if_neg (by simp [hlegacy])]
  refine (Prog.answers_bind_eq_some _).2 ⟨_, s₁, hprepare, ?_⟩
  refine (Prog.answers_bind_eq_some _).2 ⟨0, s₂, herase, ?_⟩
  rw [if_neg (by decide)]
  refine (Prog.answers_bind_eq_some _).2 ⟨ret, s₃, hwrite, ?_⟩
  rw [if_pos hret]
  rfl

/--
A failed call keeps the bytes of the xclbin exactly if the write without the boot tag does not
fail, or there is no boot tag to lose.
-/
theorem keepsImage_iff :
    KeepsImage respond s call ↔ (MaskedWriteFails respond s call → call.TagMasked) := by
  constructor
  · intro hkeeps hfails pdiData len hpdi index hindex hinside
    obtain ⟨result, s', pdiData', len', hrun, hret, hpdi', hmemory⟩ :=
      prog_of_maskedWriteFails hfails
    obtain ⟨rfl, -⟩ := Prod.mk.inj (Option.some.inj (hpdi.symm.trans hpdi'))
    rw [← hkeeps result s' hrun hret _ hinside, hmemory, maskTag_inside _ _ hindex]
  · intro hcondition result s' hrun _ address hinside
    rcases memory_prog hrun with hkept | ⟨hfails, pdiData, len, hpdi, hmasked⟩
    · rw [hkept]
    · rw [hmasked]
      by_cases htag : plmBootTagAddr pdiData ≤ address ∧ address < plmBootTagAddr pdiData + 4
      · obtain ⟨index, rfl⟩ := Nat.exists_eq_add_of_le htag.1
        have hindex : index < 4 := by omega
        rw [maskTag_inside _ _ hindex, hcondition hfails pdiData len hpdi index hindex hinside]
      · exact maskTag_outside _ _ (by omega)

end Answers

/-! ## A program transfer that fails -/

def worn (flash : Memory) : (op : OspiOp) → Option (OspiAns op × Memory)
  | .progress .. => some ((), flash)
  | .read address _ => some (some fun offset => flash (address.toNat + offset), flash)
  | .program .. => some (false, flash)
  | .sectorErase address => some (true,
      flash.erase (address.toNat / gigadevice.sectSize.toNat * gigadevice.sectSize.toNat)
        gigadevice.sectSize.toNat)
  | _ => none

def bootFlash : Memory :=
  let flash : Memory := fun _ => 0
  let flash := flash.store32 0 fptMagic
  let flash := (flash.store 6 1 fun _ => 0x20).store 7 1 fun _ => 2
  let flash := ((flash.store32 0x20 fptTypeBoot).store32 0x2C 0x100000).store32 0x30 0x100000
  let flash := (flash.store32 0x40 fptTypePdimeta).store32 0x4C 0x80000
  flash.store32 0x80000 fptPdimetaMagic

def pdiMemory : Memory :=
  let xclbin : Memory := setSectionSize (setSectionOffset (setSectionKind (setNumSections
    (setLength (fun _ => 0) 752) 1) 0 axlfPdi) 0 496) 0 256
  let xclbin := xclbin.store32 (496 + bootTagOffset) 0x584C4E58
  fun address => xclbin (address - 0x1000)

def wornCall : FlashCall where
  info := gigadeviceInfo
  rh := ⟨0x1000, false⟩
  request := ⟨true, false⟩
  env := ⟨32, 32, 0x7FBF0000, pdiMemory⟩
  payload := BootPayload.zero

private theorem wornCall_result : (wornCall.prog.answers worn bootFlash).map (fun result =>
    (result.1.ret, result.1.memory (0x1000 + 496 + bootTagOffset))) = some (xstFailure, 0xFF) := by
  decide +kernel

/-- The write fails, and the first byte of the boot tag is lost. -/
theorem not_keepsImage_worn : ¬ KeepsImage worn bootFlash wornCall := by
  intro hkeeps
  obtain ⟨⟨result, s'⟩, hrun, heq⟩ := Option.map_eq_some_iff.1 wornCall_result
  obtain ⟨hret, htag⟩ := Prod.mk.inj heq
  have hfailed : result.ret ≠ 0 := by
    rw [show result.ret = xstFailure from hret]
    decide
  have hkept := hkeeps result s' hrun hfailed (0x1000 + 496 + bootTagOffset)
    ⟨by decide, by decide +kernel⟩
  rw [show result.memory (0x1000 + 496 + bootTagOffset) = 0xFF from htag] at hkept
  exact absurd hkept (by decide +kernel)

end Vmr.Rmgmt
