import Mathlib.Logic.Function.Iterate
import Mathlib.Tactic.Common
import Mathlib.Tactic.IntervalCases

/-!
# CRC-16, bit by bit

The register is shifted left one bit at a time, most significant bit first, and
`poly` is subtracted whenever a one falls out.  A shift is linear for exclusive
or, so eight shifts of a register are the eight shifts of its high byte and of
its low byte put together; the low byte just moves up.  Serially, each bit of the
message is compared with the bit that falls out.
-/

namespace Vmr.Lib

def crcBit (poly register : UInt16) : UInt16 :=
  (register <<< 1) ^^^ (if register.toBitVec.msb then poly else 0)

def crcByte (poly register : UInt16) (byte : UInt8) : UInt16 :=
  (crcBit poly)^[8] (register ^^^ (byte.toUInt16 <<< 8))

def crcBitwise (poly start : UInt16) (message : List UInt8) : UInt16 :=
  message.foldl (crcByte poly) start

private theorem crcBit_xor (poly a b : UInt16) :
    crcBit poly (a ^^^ b) = crcBit poly a ^^^ crcBit poly b := by
  have hshift : (a ^^^ b) <<< 1 = (a <<< 1) ^^^ (b <<< 1) := by
    apply UInt16.toBitVec_inj.1
    simp [BitVec.shiftLeft_xor_distrib]
  simp only [crcBit, hshift, UInt16.toBitVec_xor, BitVec.msb_xor]
  cases a.toBitVec.msb <;> cases b.toBitVec.msb <;> simp
  · ac_rfl
  · ac_rfl
  · rw [show ∀ x y : UInt16, x ^^^ poly ^^^ (y ^^^ poly) = x ^^^ y ^^^ (poly ^^^ poly) by
      intro x y
      ac_rfl]
    simp

theorem crcBit_iterate_xor (poly : UInt16) (count : Nat) (a b : UInt16) :
    (crcBit poly)^[count] (a ^^^ b) =
      (crcBit poly)^[count] a ^^^ (crcBit poly)^[count] b := by
  induction count generalizing a b with
  | zero => rfl
  | succ count ih => simp only [Function.iterate_succ_apply, crcBit_xor, ih]

/-! ## One bit of the message after another -/

def crcFeed (poly register : UInt16) (bit : Bool) : UInt16 :=
  (register <<< 1) ^^^ (if (register.toBitVec.msb ^^ bit) = true then poly else 0)

def crcSerial (poly start : UInt16) (bits : List Bool) : UInt16 :=
  bits.foldl (crcFeed poly) start

def byteBits (byte : UInt8) : List Bool := (List.range 8).map byte.toBitVec.getMsbD

def messageBits (message : List UInt8) : List Bool := message.flatMap byteBits

def topBits : List Bool → UInt16
  | [] => 0
  | bit :: bits => (if bit then (0x8000 : UInt16) else 0) ^^^ (topBits bits >>> 1)

private theorem crcFeed_eq (poly register : UInt16) (bit : Bool) :
    crcFeed poly register bit =
      crcBit poly (register ^^^ (if bit then (0x8000 : UInt16) else 0)) := by
  rw [crcFeed, crcBit_xor]
  cases bit with
  | false => simp [crcBit]
  | true =>
      have hbit : crcBit poly 0x8000 = poly := by
        rw [crcBit, if_pos (by decide), show (0x8000 : UInt16) <<< 1 = 0 by decide,
          UInt16.zero_xor]
      rw [if_pos rfl, hbit, crcBit]
      cases register.toBitVec.msb with
      | false => simp
      | true =>
          rw [Bool.xor_self, if_neg (by decide), if_pos rfl, UInt16.xor_assoc, UInt16.xor_self]

private theorem getLsbD_topBits {bits : List Bool} {i : Nat} (h : i + bits.length < 16) :
    (topBits bits).toBitVec.getLsbD i = false := by
  induction bits generalizing i with
  | nil => simp [topBits]
  | cons bit bits ih =>
      rw [List.length_cons] at h
      have hrest := @ih (1 + i) (by omega)
      have hfirst : (if bit then (0x8000 : UInt16) else 0).toBitVec.getLsbD i = false := by
        have hi : i < 15 := by omega
        cases bit with
        | false => simp
        | true => interval_cases i <;> rfl
      simp [topBits, hrest, hfirst]

private theorem crcBit_topBits (poly : UInt16) {bits : List Bool} (h : bits.length < 16) :
    crcBit poly (topBits bits >>> 1) = topBits bits := by
  have hlow : (topBits bits).toBitVec.getLsbD 0 = false := getLsbD_topBits (by omega)
  have hmsb : (topBits bits >>> 1).toBitVec.msb = false := by simp
  rw [crcBit, hmsb, if_neg Bool.false_ne_true, UInt16.xor_zero]
  apply UInt16.toBitVec_inj.1
  apply BitVec.eq_of_getLsbD_eq
  intro i hi
  cases i with
  | zero => simpa using hlow
  | succ i => simp [hi, Nat.add_comm]

private theorem crcSerial_eq (poly register : UInt16) {bits : List Bool} (h : bits.length ≤ 16) :
    crcSerial poly register bits = (crcBit poly)^[bits.length] (register ^^^ topBits bits) := by
  induction bits generalizing register with
  | nil => simp [crcSerial, topBits]
  | cons bit bits ih =>
      rw [List.length_cons] at h
      calc crcSerial poly register (bit :: bits)
          = crcSerial poly (crcFeed poly register bit) bits := rfl
        _ = (crcBit poly)^[bits.length] (crcFeed poly register bit ^^^ topBits bits) :=
            ih _ (by omega)
        _ = (crcBit poly)^[bits.length] (crcBit poly (register ^^^ topBits (bit :: bits))) := by
            rw [topBits, ← UInt16.xor_assoc, crcBit_xor, crcBit_topBits poly (by omega),
              crcFeed_eq]
        _ = (crcBit poly)^[(bit :: bits).length] (register ^^^ topBits (bit :: bits)) :=
            (Function.iterate_succ_apply _ _ _).symm

private theorem topBits_byteBits (byte : UInt8) :
    topBits (byteBits byte) = byte.toUInt16 <<< 8 := by
  have hall : ∀ value < 256, topBits (byteBits (UInt8.ofNat value)) =
      (UInt8.ofNat value).toUInt16 <<< 8 := by decide +kernel
  have h := hall byte.toNat byte.toNat_lt
  rwa [UInt8.ofNat_toNat] at h

private theorem crcByte_eq_crcSerial (poly register : UInt16) (byte : UInt8) :
    crcByte poly register byte = crcSerial poly register (byteBits byte) := by
  rw [crcSerial_eq poly register (by simp [byteBits]), topBits_byteBits]
  rfl

theorem crcBitwise_eq_crcSerial (poly start : UInt16) (message : List UInt8) :
    crcBitwise poly start message = crcSerial poly start (messageBits message) := by
  induction message generalizing start with
  | nil => rfl
  | cons byte message ih =>
      calc crcBitwise poly start (byte :: message)
          = crcBitwise poly (crcByte poly start byte) message := rfl
        _ = crcSerial poly (crcSerial poly start (byteBits byte)) (messageBits message) := by
            rw [ih, crcByte_eq_crcSerial]
        _ = crcSerial poly start (messageBits (byte :: message)) := List.foldl_append.symm

end Vmr.Lib
