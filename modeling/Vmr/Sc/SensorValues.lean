import Vmr.Lib.Updates
import Vmr.Sc.PacketBounds

/-!
# The readings of a sensor payload

A payload is a list of entries: an id, a size, and a little-endian value of as
many bytes.  `VMC_Update_Sensors` decodes every value to 32 bits and stores it,
but only one of the places it stores to has 32 bits.
-/

namespace Vmr.Sc.Comms

open Vmr.Lib

/-! ## Well-formed payloads -/

inductive SensorBytes where
  | one (b0 : UInt8)
  | two (b0 b1 : UInt8)
  | four (b0 b1 b2 b3 : UInt8)
  deriving DecidableEq, Repr

namespace SensorBytes

def bytes : SensorBytes → List UInt8
  | .one b0 => [b0]
  | .two b0 b1 => [b0, b1]
  | .four b0 b1 b2 b3 => [b0, b1, b2, b3]

def size : SensorBytes → UInt8
  | .one _ => 1
  | .two _ _ => 2
  | .four _ _ _ _ => 4

def number (value : SensorBytes) : Nat := littleEndian value.bytes

@[simp] theorem length_bytes (value : SensorBytes) : value.bytes.length = value.size.toNat := by
  cases value <;> rfl

private theorem number_lt (value : SensorBytes) : value.number < 2 ^ 32 := by
  refine Nat.lt_of_lt_of_le (littleEndian_lt value.bytes) ?_
  cases value <;> simp [bytes]

end SensorBytes

/-- An id the code has a place for, with its value. -/
structure SensorReading where
  id : UInt8
  value : SensorBytes
  known : id.toNat < eScSensorIdMax ∨ id = eScVccintI

def SensorReading.bytes (reading : SensorReading) : List UInt8 :=
  reading.id :: reading.value.size :: reading.value.bytes

def payloadOf (readings : List SensorReading) : List UInt8 :=
  readings.flatMap SensorReading.bytes

def lastReading (readings : List SensorReading) (id : UInt8) : Option SensorBytes :=
  lastWrite id (readings.map fun reading => (reading.id, reading.value))

/-! ## What is stored -/

def Access.stored : Access → Option (Static × UInt32)
  | .read _ => none
  | .write target value => some (target, value)

def staticsAfter (buffer : Memory) (statics : Static → UInt32) (p : PacketProg Unit) :
    Static → UInt32 :=
  updates statics ((Prog.ops (answers buffer) p).filterMap Access.stored)

def slot (id : UInt8) : Static :=
  if id = eScVccintI then .vccintSensorValue else .sensorValues id.toNat

/-- What the place of an id keeps of a value. -/
def kept (id : UInt8) (value : SensorBytes) : UInt32 :=
  if id = eScVccintI then UInt32.ofNat value.number else UInt32.ofNat value.number &&& 0xFFFF

private theorem slot_injective : Function.Injective slot := by
  intro first second h
  unfold slot at h
  split at h <;> split at h
  · rename_i hfirst hsecond
    rw [hfirst, hsecond]
  · cases h
  · cases h
  · exact UInt8.toNat_inj.1 (Static.sensorValues.inj h)

theorem toNat_kept (id : UInt8) (value : SensorBytes) :
    (kept id value).toNat = if id = eScVccintI then value.number else value.number % 2 ^ 16 := by
  have hnumber := value.number_lt
  unfold kept
  split
  · exact UInt32.toNat_ofNat_of_lt' hnumber
  · rw [UInt32.toNat_and, UInt32.toNat_ofNat_of_lt' hnumber]
    exact Nat.and_two_pow_sub_one_eq_mod value.number 16

section Payload

variable {buffer : Memory} {reading : SensorReading}

private theorem readValue_bytes {i : Nat} (value : SensorBytes)
    (hbytes : buffer.slice (commsPayloadStartIndex + (i + 2)) value.size.toNat = value.bytes) :
    Prog.run (answers buffer) (readValue i value.size) = some (UInt32.ofNat value.number) ∧
      (Prog.ops (answers buffer) (readValue i value.size)).filterMap Access.stored = [] := by
  cases value with
  | one b0 =>
      have h0 : buffer (commsPayloadStartIndex + (i + 2)) = b0 := by
        simpa [SensorBytes.bytes, SensorBytes.size, Memory.slice_succ] using hbytes
      refine ⟨?_, by simp [readValue, SensorBytes.size, Access.stored]⟩
      simp [readValue, SensorBytes.size, h0, SensorBytes.number, SensorBytes.bytes, littleEndian]
  | two b0 b1 =>
      have hboth : buffer (commsPayloadStartIndex + (i + 2)) = b0 ∧
          buffer (commsPayloadStartIndex + (i + 3)) = b1 := by
        simpa [SensorBytes.bytes, SensorBytes.size, Memory.slice_succ, Nat.add_assoc] using hbytes
      refine ⟨?_, by simp [readValue, SensorBytes.size, Access.stored]⟩
      have hword : (le16 b0 b1).toUInt32 = UInt32.ofNat (SensorBytes.two b0 b1).number := by
        apply UInt32.toNat_inj.1
        rw [UInt16.toNat_toUInt32, toNat_le16,
          UInt32.toNat_ofNat_of_lt' (SensorBytes.number_lt _)]
        rfl
      change some (le16 (buffer (commsPayloadStartIndex + (i + 2)))
        (buffer (commsPayloadStartIndex + (i + 3)))).toUInt32 = _
      rw [hboth.1, hboth.2, hword]
  | four b0 b1 b2 b3 =>
      have hfour : buffer (commsPayloadStartIndex + (i + 2)) = b0 ∧
          buffer (commsPayloadStartIndex + (i + 3)) = b1 ∧
          buffer (commsPayloadStartIndex + (i + 4)) = b2 ∧
          buffer (commsPayloadStartIndex + (i + 5)) = b3 := by
        simpa [SensorBytes.bytes, SensorBytes.size, Memory.slice_succ, Nat.add_assoc] using hbytes
      refine ⟨?_, by simp [readValue, SensorBytes.size, Access.stored]⟩
      have hword : le32 b0 b1 b2 b3 = UInt32.ofNat (SensorBytes.four b0 b1 b2 b3).number := by
        rw [le32]
        congr 1
        simp only [SensorBytes.number, SensorBytes.bytes, littleEndian]
        omega
      obtain ⟨h0, h1, h2, h3⟩ := hfour
      change some (le32 (buffer (commsPayloadStartIndex + (i + 2)))
        (buffer (commsPayloadStartIndex + (i + 3))) (buffer (commsPayloadStartIndex + (i + 4)))
        (buffer (commsPayloadStartIndex + (i + 5)))) = _
      rw [h0, h1, h2, h3, hword]

private theorem vmcStoreSensorValue_stored (id : UInt8) (value : SensorBytes) :
    (Prog.ops (answers buffer) (vmcStoreSensorValue id (UInt32.ofNat value.number))).filterMap
      Access.stored = [(slot id, kept id value)] := by
  unfold vmcStoreSensorValue slot kept
  split <;> rfl

private theorem updateSensors_reading {length i : UInt16} (rounds : Nat) {rest : List UInt8}
    (hi : i.toNat + (reading.bytes ++ rest).length = length.toNat)
    (hbytes : buffer.slice (commsPayloadStartIndex + i.toNat) (reading.bytes ++ rest).length =
      reading.bytes ++ rest) :
    ∃ next : UInt16, next.toNat = i.toNat + reading.bytes.length ∧
      (Prog.ops (answers buffer) (updateSensors length (rounds + 1) i)).filterMap Access.stored =
        (slot reading.id, kept reading.id reading.value) ::
          (Prog.ops (answers buffer) (updateSensors length rounds next)).filterMap
            Access.stored := by
  have hlength : reading.bytes.length = 2 + reading.value.size.toNat := by
    simp [SensorReading.bytes]
    omega
  have hlt : i < length := by
    rw [UInt16.lt_iff_toNat_lt, ← hi, List.length_append]
    omega
  have hsize : (i + 2 + reading.value.size.toUInt16).toNat = i.toNat + reading.bytes.length := by
    have hbound := length.toNat_lt
    rw [List.length_append] at hi
    rw [UInt16.toNat_add, UInt16.toNat_add, UInt8.toNat_toUInt16]
    simp
    omega
  refine ⟨i + 2 + reading.value.size.toUInt16, hsize, ?_⟩
  rw [List.length_append, Memory.slice_add] at hbytes
  obtain ⟨hentry, -⟩ := List.append_inj hbytes (by simp)
  rw [hlength, SensorReading.bytes, Nat.add_comm 2, Memory.slice_succ, Memory.slice_succ] at hentry
  obtain ⟨hid, hsizeByte, hvalue⟩ := by simpa [Nat.add_assoc] using hentry
  obtain ⟨hrun, hnone⟩ := readValue_bytes reading.value hvalue
  rw [updateSensors, if_pos hlt]
  simp only [Prog.ops_bind, run_readPayload, ops_readPayload, hsizeByte, hrun, hid,
    List.filterMap_append, hnone, vmcStoreSensorValue_stored]
  rfl

private theorem updateSensors_stored (readings : List SensorReading) {length i : UInt16}
    {rounds : Nat}
    (hrounds : readings.length ≤ rounds)
    (hi : i.toNat + (payloadOf readings).length = length.toNat)
    (hbytes : buffer.slice (commsPayloadStartIndex + i.toNat) (payloadOf readings).length =
      payloadOf readings) :
    (Prog.ops (answers buffer) (updateSensors length rounds i)).filterMap Access.stored =
      readings.map fun reading => (slot reading.id, kept reading.id reading.value) := by
  induction readings generalizing i rounds with
  | nil =>
      have hge : ¬ i < length := by
        rw [UInt16.lt_iff_toNat_lt, ← hi]
        simp [payloadOf]
      cases rounds with
      | zero => rfl
      | succ rounds =>
          rw [updateSensors, if_neg hge]
          rfl
  | cons reading readings ih =>
      cases rounds with
      | zero => simp at hrounds
      | succ rounds =>
          have hsplit : payloadOf (reading :: readings) =
              reading.bytes ++ payloadOf readings := List.flatMap_cons
          rw [hsplit] at hi hbytes
          obtain ⟨next, hnext, hstored⟩ := updateSensors_reading rounds hi hbytes
          rw [hstored, List.map_cons]
          rw [List.length_append] at hi hbytes
          rw [Memory.slice_add, Nat.add_assoc, ← hnext] at hbytes
          congr 1
          exact ih (by simpa using hrounds) (by omega)
            (List.append_inj hbytes (by simp)).2

end Payload

/-! ## What is kept -/

/-- Behind the decoder every id has the full value of its last entry, and nothing else changed. -/
structure Decoded (readings : List SensorReading) (before after : Static → UInt32) : Prop where
  present : ∀ id value, lastReading readings id = some value →
    (after (slot id)).toNat = value.number
  others : ∀ target, (∀ reading ∈ readings, slot reading.id ≠ target) →
    after target = before target

private theorem length_le_payloadOf (readings : List SensorReading) :
    readings.length ≤ (payloadOf readings).length := by
  induction readings with
  | nil => simp
  | cons reading readings ih =>
      rw [payloadOf, List.flatMap_cons, ← payloadOf, List.length_append, SensorReading.bytes]
      simp only [List.length_cons]
      omega

theorem staticsAfter_updateSensors {buffer : Memory} {length : UInt16}
    (readings : List SensorReading) (statics : Static → UInt32)
    (hpayload : buffer.slice commsPayloadStartIndex length.toNat = payloadOf readings) :
    staticsAfter buffer statics (vmcUpdateSensors length) =
      updates statics
        (readings.map fun reading => (slot reading.id, kept reading.id reading.value)) := by
  have hlength : (payloadOf readings).length = length.toNat := by
    simp [← hpayload]
  have hrounds : readings.length ≤ length.toNat := hlength ▸ length_le_payloadOf readings
  rw [staticsAfter, vmcUpdateSensors, updateSensors_stored readings hrounds (by simpa using hlength)
    (by simpa [hlength] using hpayload)]

theorem lastWrite_kept (readings : List SensorReading) (id : UInt8) :
    lastWrite (slot id)
        (readings.map fun reading => (slot reading.id, kept reading.id reading.value)) =
      (lastReading readings id).map (kept id) := by
  rw [lastReading, ← lastWrite_map slot_injective kept, List.map_map]
  rfl

/--
The payload is decoded without loss exactly if the last value of every id but
`eSC_VCCINT_I` has at most 16 bits.
-/
theorem vmcUpdateSensors_decoded_iff {buffer : Memory} {length : UInt16}
    (readings : List SensorReading) (statics : Static → UInt32)
    (hpayload : buffer.slice commsPayloadStartIndex length.toNat = payloadOf readings) :
    Decoded readings statics (staticsAfter buffer statics (vmcUpdateSensors length)) ↔
      ∀ id value, lastReading readings id = some value → id ≠ eScVccintI →
        value.number < 2 ^ 16 := by
  rw [staticsAfter_updateSensors readings statics hpayload]
  have hstored (id : UInt8) (value : SensorBytes) (hlast : lastReading readings id = some value) :
      (updates statics (readings.map fun reading =>
        (slot reading.id, kept reading.id reading.value)) (slot id)).toNat =
        if id = eScVccintI then value.number else value.number % 2 ^ 16 := by
    rw [updates_apply, lastWrite_kept, hlast, Option.map_some, Option.getD_some, toNat_kept]
  constructor
  · intro h id value hlast hid
    have hpresent := h.present id value hlast
    rw [hstored id value hlast, if_neg hid] at hpresent
    exact hpresent ▸ Nat.mod_lt _ (by decide)
  · intro h
    constructor
    · intro id value hlast
      rw [hstored id value hlast]
      split
      · rfl
      · rename_i hid
        exact Nat.mod_eq_of_lt (h id value hlast hid)
    · intro target hother
      have hnone : lastWrite target (readings.map fun reading =>
          (slot reading.id, kept reading.id reading.value)) = none := by
        rw [lastWrite_eq_none_iff]
        simpa using hother
      rw [updates_apply, hnone, Option.getD_none]

def payloadBuffer (payload : List UInt8) : Memory := fun index =>
  payload.getD (index - commsPayloadStartIndex) 0

/-- 12000 millivolts in two bytes. -/
theorem pex12v_decoded :
    Decoded [⟨0, .two 0xE0 0x2E, by decide⟩] (fun _ => 0)
      (staticsAfter (payloadBuffer [0, 2, 0xE0, 0x2E]) (fun _ => 0) (vmcUpdateSensors 4)) := by
  refine (vmcUpdateSensors_decoded_iff [⟨0, .two 0xE0 0x2E, by decide⟩] _ (by decide)).2 ?_
  intro id value hlast _
  have hvalue : value = .two 0xE0 0x2E := by
    simp only [lastReading, lastWrite, List.map_cons, List.map_nil, Option.none_or] at hlast
    split at hlast
    · exact (Option.some.inj hlast).symm
    · cases hlast
  rw [hvalue]
  decide

/-- 65536 in four bytes is stored as 0. -/
theorem pex12v_not_decoded :
    ¬ Decoded [⟨0, .four 0 0 1 0, by decide⟩] (fun _ => 0)
      (staticsAfter (payloadBuffer [0, 4, 0, 0, 1, 0]) (fun _ => 0) (vmcUpdateSensors 6)) := by
  intro h
  have hpresent := h.present 0 (.four 0 0 1 0) (by decide)
  revert hpresent
  decide +kernel

end Vmr.Sc.Comms
