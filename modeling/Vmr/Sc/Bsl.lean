import Vmr.Lib.Crc
import Vmr.Lib.Memory
import Vmr.Lib.Word
import Mathlib.Tactic.IntervalCases

/-!
# Frames of the bootstrap loader

`crc16` is the byte-wise checksum of `vmc_update_sc.c`; it is CRC-16-CCITT with
start value `0xFFFF`.  A request to the loader is `0x80`, a 16-bit length, the
core bytes and the checksum of the core; a reply is the same behind an
acknowledge byte.
-/

namespace Vmr.Sc

open Vmr.Lib

def bslMsgHeader : UInt8 := 0x80
def cmdRxDataBlock32 : UInt8 := 0x20
def bslRespLenOffsetL : Nat := 2
def bslRespLenOffsetH : Nat := 3
def bslRespCmdOffset : Nat := 4
def bslRespMsgOffset : Nat := 5

/-! ## The checksum -/

def crc16Step (crc : UInt16) (byte : UInt8) : UInt16 :=
  let x := ((crc >>> 8) ^^^ byte.toUInt16) &&& 0xff
  let x := x ^^^ (x >>> 4)
  (crc <<< 8) ^^^ (x <<< 12) ^^^ (x <<< 5) ^^^ x

def crc16 (msg : List UInt8) : UInt16 :=
  msg.foldl crc16Step 0xFFFF

def ccittPoly : UInt16 := 0x1021

private theorem low_byte_shifted : ∀ low < 256,
    (crcBit ccittPoly)^[8] (UInt16.ofNat low) = UInt16.ofNat low <<< 8 := by
  decide +kernel

private theorem high_byte_shifted : ∀ high < 256,
    (crcBit ccittPoly)^[8] (UInt16.ofNat high <<< 8) =
      (let x := UInt16.ofNat high ^^^ (UInt16.ofNat high >>> 4)
       (x <<< 12) ^^^ (x <<< 5) ^^^ x) := by
  decide +kernel

private theorem ofNat_toNat_and_ff (word : UInt16) :
    (word &&& 0xff).toNat < 256 ∧ UInt16.ofNat (word &&& 0xff).toNat = word &&& 0xff := by
  refine ⟨?_, by simp⟩
  have hle : (word &&& 0xff).toNat ≤ 255 := by
    rw [UInt16.toNat_and]
    exact Nat.and_le_right
  omega

private theorem register_split (crc : UInt16) (byte : UInt8) :
    crc ^^^ (byte.toUInt16 <<< 8) =
      (((crc >>> 8) ^^^ byte.toUInt16) &&& 0xff) <<< 8 ^^^ (crc &&& 0xff) := by
  apply UInt16.toBitVec_inj.1
  ext i hi
  interval_cases i <;> simp

private theorem low_byte_shift (crc : UInt16) : (crc &&& 0xff) <<< 8 = crc <<< 8 := by
  apply UInt16.toBitVec_inj.1
  ext i hi
  interval_cases i <;> simp

private theorem crc16Step_eq_crcByte (crc : UInt16) (byte : UInt8) :
    crc16Step crc byte = crcByte ccittPoly crc byte := by
  obtain ⟨hlow, hlowEq⟩ := ofNat_toNat_and_ff crc
  obtain ⟨hhigh, hhighEq⟩ := ofNat_toNat_and_ff ((crc >>> 8) ^^^ byte.toUInt16)
  have low := low_byte_shifted _ hlow
  have high := high_byte_shifted _ hhigh
  rw [hlowEq] at low
  rw [hhighEq] at high
  rw [crcByte, register_split, crcBit_iterate_xor, low, high, low_byte_shift]
  simp only [crc16Step]
  ac_rfl

theorem crc16_eq_crcBitwise (msg : List UInt8) :
    crc16 msg = crcBitwise ccittPoly 0xFFFF msg := by
  rw [crc16, crcBitwise]
  congr 1
  funext crc byte
  exact crc16Step_eq_crcByte crc byte

/-- The register that shifts out the message bit by bit, with `0xFFFF` in it at the start and as
it is at the end. -/
theorem crc16_eq_ccitt (msg : List UInt8) :
    crc16 msg = crcSerial ccittPoly 0xFFFF (messageBits msg) := by
  rw [crc16_eq_crcBitwise, crcBitwise_eq_crcSerial]

/-- The check value of CRC-16-CCITT, of the digits 1 to 9. -/
example : crc16 [0x31, 0x32, 0x33, 0x34, 0x35, 0x36, 0x37, 0x38, 0x39] = 0x29B1 := by decide

/-! ## Replies -/

/-- True for `SUCCESS`.  The declared length is not compared with `length`. -/
def vmcValidateBslResp (buffer : Memory) (length : Nat) : Bool :=
  if buffer 0 = 0x00 ∧ buffer 1 = bslMsgHeader then
    let dataLen := le16 (buffer bslRespLenOffsetL) (buffer bslRespLenOffsetH)
    let rcvdCrc := le16 (buffer (length - 2)) (buffer (length - 1))
    let calcCrc := crc16 (buffer.slice bslRespCmdOffset dataLen.toNat)
    rcvdCrc == calcCrc
  else false

def crcBytes (core : List UInt8) : List UInt8 :=
  let crc := crcBitwise ccittPoly 0xFFFF core
  [byteAt crc.toNat 0, byteAt crc.toNat 1]

def bslResponse (core : List UInt8) : List UInt8 :=
  [0x00, bslMsgHeader, byteAt core.length 0, byteAt core.length 1] ++ core ++ crcBytes core

theorem length_bslResponse (core : List UInt8) :
    (bslResponse core).length = core.length + 6 := by
  simp [bslResponse, crcBytes]

theorem eq_bslResponse {buffer : Memory} {size : Nat} (hsize : size < 2 ^ 16)
    (hvalid : vmcValidateBslResp buffer (size + 6) = true)
    (hdeclares : buffer.slice 2 2 = [byteAt size 0, byteAt size 1]) :
    buffer.slice 0 (size + 6) = bslResponse (buffer.slice 4 size) := by
  unfold vmcValidateBslResp at hvalid
  split at hvalid
  · rename_i hhead
    obtain ⟨h0, h1⟩ := hhead
    simp only [Memory.slice_succ, Memory.slice_zero, List.cons.injEq, and_true] at hdeclares
    obtain ⟨h2, h3⟩ := hdeclares
    have hlen : (le16 (buffer bslRespLenOffsetL) (buffer bslRespLenOffsetH)).toNat = size := by
      simp only [bslRespLenOffsetL, bslRespLenOffsetH, h2, h3, toNat_le16, toNat_byteAt]
      omega
    simp only [hlen, bslRespCmdOffset, beq_iff_eq] at hvalid
    have hcrc : buffer.slice (4 + size) 2 = crcBytes (buffer.slice 4 size) := by
      rw [crcBytes, ← crc16_eq_crcBitwise, ← hvalid, byteAt_le16_zero, byteAt_le16_one,
        show size + 6 - 2 = 4 + size by omega, show size + 6 - 1 = 4 + size + 1 by omega]
      rfl
    rw [show size + 6 = 4 + size + 2 by omega, Memory.slice_add, Memory.slice_add, Nat.zero_add,
      Nat.zero_add, hcrc, bslResponse]
    simp [Memory.slice_succ, h0, h1, h2, h3]
  · cases hvalid

theorem vmcValidateBslResp_bslResponse (buffer : Memory) (core : List UInt8)
    (hcore : core.length < 2 ^ 16)
    (hbuffer : buffer.slice 0 (core.length + 6) = bslResponse core) :
    vmcValidateBslResp buffer (core.length + 6) = true := by
  rw [show core.length + 6 = 4 + core.length + 2 by omega, Memory.slice_add, Memory.slice_add,
    Nat.zero_add, Nat.zero_add, bslResponse] at hbuffer
  obtain ⟨hframe, hcrc⟩ := List.append_inj' hbuffer (by simp [crcBytes])
  obtain ⟨hhead, hslice⟩ := List.append_inj' hframe (by simp)
  simp only [Memory.slice_succ, Memory.slice_zero, List.cons.injEq, and_true,
    Nat.reduceAdd] at hhead
  obtain ⟨h0, h1, h2, h3⟩ := hhead
  simp only [Memory.slice_succ, Memory.slice_zero, crcBytes, List.cons.injEq, and_true] at hcrc
  obtain ⟨hlow, hhigh⟩ := hcrc
  have hlen : (le16 (buffer bslRespLenOffsetL) (buffer bslRespLenOffsetH)).toNat =
      core.length := by
    simp only [bslRespLenOffsetL, bslRespLenOffsetH, h2, h3, toNat_le16, toNat_byteAt]
    omega
  rw [vmcValidateBslResp, if_pos ⟨h0, h1⟩]
  simp only [hlen, bslRespCmdOffset, hslice, beq_iff_eq]
  rw [show core.length + 6 - 2 = 4 + core.length by omega,
    show core.length + 6 - 1 = 4 + core.length + 1 by omega, hlow, hhigh, le16_byteAt,
    crc16_eq_crcBitwise]

/-! ## Replies of any length

The checksum is taken over as many bytes as the reply declares, and compared
with the last two bytes that came in. -/

def HasHeader (buffer : Memory) : Prop := buffer 0 = 0x00 ∧ buffer 1 = bslMsgHeader

def declaredLen (buffer : Memory) : Nat :=
  (le16 (buffer bslRespLenOffsetL) (buffer bslRespLenOffsetH)).toNat

private theorem slice_two (buffer : Memory) (start : Nat) :
    buffer.slice start 2 = [buffer start, buffer (start + 1)] := rfl

private theorem le16_eq_crc16_iff (low high : UInt8) (core : List UInt8) :
    le16 low high = crc16 core ↔ [low, high] = crcBytes core := by
  rw [crcBytes, ← crc16_eq_crcBitwise]
  constructor
  · intro h
    simp [← h]
  · intro h
    obtain ⟨rfl, rfl⟩ : low = _ ∧ high = _ := by simpa using h
    simp

private theorem vmcValidateBslResp_iff (buffer : Memory) (payload : Nat) :
    vmcValidateBslResp buffer (payload + 6) = true ↔
      HasHeader buffer ∧
        buffer.slice (4 + payload) 2 = crcBytes (buffer.slice 4 (declaredLen buffer)) := by
  have hlow : payload + 6 - 2 = 4 + payload := by omega
  have hhigh : payload + 6 - 1 = 4 + payload + 1 := by omega
  rw [slice_two, ← le16_eq_crc16_iff, vmcValidateBslResp, hlow, hhigh]
  split
  · rename_i hheader
    simp [HasHeader, hheader, declaredLen, bslRespCmdOffset]
  · rename_i hheader
    simp [HasHeader, hheader]

/-- A validation that looks at the reply only, and accepts only what the reply declares. -/
structure SoundlyValidated (buffer : Memory) (payload : Nat) : Prop where
  /-- Six bytes of a reply are its header, its length and its checksum. -/
  contained : HasHeader buffer → declaredLen buffer ≤ payload
  accepted : vmcValidateBslResp buffer (payload + 6) = true →
    declaredLen buffer = payload ∧
      buffer.slice (4 + payload) 2 = crcBytes (buffer.slice 4 payload)

/--
A reply with a header is validated soundly if it declares its own length, or if
it declares less and the last two bytes are not the checksum of the bytes declared.
-/
theorem soundlyValidated_iff (buffer : Memory) (payload : Nat) :
    SoundlyValidated buffer payload ↔
      (HasHeader buffer → declaredLen buffer = payload ∨
        declaredLen buffer < payload ∧
          buffer.slice (4 + payload) 2 ≠ crcBytes (buffer.slice 4 (declaredLen buffer))) := by
  constructor
  · intro h hheader
    rcases Nat.lt_or_eq_of_le (h.contained hheader) with hshort | hexact
    · refine .inr ⟨hshort, fun hcrc => ?_⟩
      have haccepted := (vmcValidateBslResp_iff buffer payload).2 ⟨hheader, hcrc⟩
      exact absurd (h.accepted haccepted).1 (Nat.ne_of_lt hshort)
    · exact .inl hexact
  · intro h
    constructor
    · intro hheader
      rcases h hheader with hexact | ⟨hshort, -⟩
      · exact Nat.le_of_eq hexact
      · exact Nat.le_of_lt hshort
    · intro haccepted
      obtain ⟨hheader, hcrc⟩ := (vmcValidateBslResp_iff buffer payload).1 haccepted
      rcases h hheader with hexact | ⟨-, hother⟩
      · exact ⟨hexact, hexact ▸ hcrc⟩
      · exact absurd hcrc hother

/-- Eight bytes whose header declares 65535. -/
theorem not_soundlyValidated_long :
    ¬ SoundlyValidated (fun index => [0x00, 0x80, 0xFF, 0xFF, 0x3B, 0, 0, 0].getD index 0xFF) 2 := by
  intro h
  have hlong := h.contained ⟨rfl, rfl⟩
  revert hlong
  decide

end Vmr.Sc
