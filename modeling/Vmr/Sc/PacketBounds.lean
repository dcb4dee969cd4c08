import Vmr.Sc.Receive

/-!
# Which packets are received within their bounds

The code reads the header of a packet before it knows that there is one, takes
the declared length for the number of bytes, and takes the id of a sensor entry
for an index.  The packets it receives safely are those that stop it before, or
that are what they declare to be.
-/

namespace Vmr.Sc.Comms

open Vmr.Lib

/-! ## Safe reception -/

def answers (buffer : Memory) : (access : Access) → access.Answer
  | .read index => buffer index
  | .write _ _ => ()

def Access.Inside (count : Nat) : Access → Prop
  | .read index => index < count
  | .write (.sensorValues id) _ => id < eScSensorIdMax
  | .write _ _ => True

def copied (buffer : Memory) (count : Nat) : Memory := fun index =>
  if index < count then buffer index else 0

def declaredLength (buffer : Memory) : Nat :=
  if buffer flagOffset = msp432CommsNoFlag then (buffer payloadLenLOffset).toNat
  else (le16 (buffer payloadLenLOffset) (buffer payloadLenHOffset)).toNat

def payloadStart (buffer : Memory) : Nat :=
  if buffer flagOffset = msp432CommsNoFlag then 5 else 6

def Accepted (buffer : Memory) (count : Nat) : Prop :=
  Prog.run (answers buffer) (vmcValidateScPacket (UInt32.ofNat count)) = true

/-- Reception of a buffer of `count` bytes where `expectedMsgid` is awaited. -/
structure SafelyReceived (buffer : Memory) (count : Nat) (expectedMsgid : UInt8) : Prop where
  validate : ∀ access ∈ Prog.ops (answers buffer) (vmcValidateScPacket (UInt32.ofNat count)),
    access.Inside count
  /-- Header, declared payload, two bytes of checksum, two of terminator. -/
  exact_length : Accepted buffer count → payloadStart buffer + declaredLength buffer + 4 = count
  parse : Accepted buffer count →
    ∀ access ∈ Prog.ops (answers (copied buffer count)) (parseScData expectedMsgid),
      access.Inside count

/-! ## The packets -/

def Terminated (buffer : Memory) (count : Nat) : Prop :=
  buffer (count - 2) = escapeChar ∧ buffer (count - 1) = etx

def ChecksumMatches (buffer : Memory) (count : Nat) : Prop :=
  le16 (buffer (count - 4)) (buffer (count - 3)) =
    (buffer.slice (payloadStart buffer)
        (min (declaredLength buffer) (count - 4 - payloadStart buffer))).foldl
      (fun checksum byte => checksum + byte.toUInt16)
      ((buffer msgIdOffset).toUInt16 + (buffer flagOffset).toUInt16 +
        UInt16.ofNat (declaredLength buffer))

structure SensorEntry where
  position : Nat
  id : UInt8
  size : UInt8

instance (buffer : Memory) (count : Nat) : Decidable (Terminated buffer count) :=
  inferInstanceAs (Decidable (_ ∧ _))

instance (buffer : Memory) (count : Nat) : Decidable (ChecksumMatches buffer count) :=
  inferInstanceAs (Decidable (_ = _))

def sensorEntries (buffer : Memory) (length : Nat) : Nat → Nat → List SensorEntry
  | 0, _ => []
  | rounds + 1, position =>
      let size := buffer (commsPayloadStartIndex + (position + 1))
      if position < length ∧ (size = 1 ∨ size = 2 ∨ size = 4) then
        { position, id := buffer (commsPayloadStartIndex + position), size } ::
          sensorEntries buffer length rounds (position + 2 + size.toNat)
      else []

def SensorEntry.InRange (count : Nat) (entry : SensorEntry) : Prop :=
  entry.id.toNat < eScSensorIdMax ∧ (entry.size = 4 → entry.position + 10 < count)

instance (count : Nat) (entry : SensorEntry) : Decidable (entry.InRange count) :=
  inferInstanceAs (Decidable (_ ∧ (_ → _)))

def EntriesInRange (buffer : Memory) (count : Nat) (expectedMsgid : UInt8) : Prop :=
  buffer 0 = escapeChar ∧ buffer 1 = stx ∧ buffer 2 = expectedMsgid ∧
    isSensorResp expectedMsgid = true →
  ∀ entry ∈ sensorEntries buffer (buffer 4).toNat (buffer 4).toNat 0, entry.InRange count

instance (buffer : Memory) (count : Nat) (expectedMsgid : UInt8) :
    Decidable (EntriesInRange buffer count expectedMsgid) :=
  inferInstanceAs (Decidable (_ → _))

/--
A packet that is no packet for its end or its checksum, or that has the length
it declares and sensor entries in range.
-/
def Receivable (buffer : Memory) (count : Nat) (expectedMsgid : UInt8) : Prop :=
  Terminated buffer count →
    6 ≤ count ∧ (ChecksumMatches buffer count →
      payloadStart buffer + declaredLength buffer + 4 = count ∧
        EntriesInRange buffer count expectedMsgid)

instance (buffer : Memory) (count : Nat) (expectedMsgid : UInt8) :
    Decidable (Receivable buffer count expectedMsgid) :=
  inferInstanceAs (Decidable (_ → _))

/-! ## Validation -/

section Validate

variable {buffer : Memory} {count : Nat}

@[simp] theorem run_readByte (index : Nat) :
    Prog.run (answers buffer) (readByte index) = buffer index := rfl

@[simp] theorem ops_readByte (index : Nat) :
    Prog.ops (answers buffer) (readByte index) = [.read index] := rfl

@[simp] theorem ops_write (target : Static) (value : UInt32) :
    Prog.ops (answers buffer) (write target value) = [.write target value] := rfl

@[simp] theorem inside_read (index : Nat) :
    (Access.read index).Inside count ↔ index < count := Iff.rfl

private theorem toNat_length_sub (hcount : count ≤ 255) {offset : UInt32}
    (h : offset.toNat ≤ count) :
    (UInt32.ofNat count - offset).toNat = count - offset.toNat := by
  have hlength : (UInt32.ofNat count).toNat = count :=
    UInt32.toNat_ofNat_of_lt' (by simp only [UInt32.size]; omega)
  rw [UInt32.toNat_sub_of_le _ _ (UInt32.le_iff_toNat_le.2 (by omega)), hlength]

private theorem sumPayload_run (hcount : count ≤ 255) (hmin : 4 ≤ count) (left : Nat)
    (offset calcCsum : UInt16) (hoffset : offset.toNat ≤ 255) :
    Prog.run (answers buffer) (sumPayload (UInt32.ofNat count) left offset calcCsum) =
      (buffer.slice offset.toNat (min left (count - 4 - offset.toNat))).foldl
        (fun checksum byte => checksum + byte.toUInt16) calcCsum := by
  have hend : (UInt32.ofNat count - totalFooterSize).toNat = count - 4 :=
    toNat_length_sub hcount hmin
  induction left generalizing offset calcCsum with
  | zero => simp [sumPayload]
  | succ left ih =>
      rw [sumPayload]
      have hiff : offset.toUInt32 < UInt32.ofNat count - totalFooterSize ↔
          offset.toNat < count - 4 := by
        rw [UInt32.lt_iff_toNat_lt, hend, UInt16.toNat_toUInt32]
      by_cases hmore : offset.toNat < count - 4
      · have hnext : (offset + 1).toNat = offset.toNat + 1 := by
          rw [UInt16.toNat_add]
          exact Nat.mod_eq_of_lt (by simp; omega)
        have hsize : min (left + 1) (count - 4 - offset.toNat) =
            min left (count - 4 - (offset.toNat + 1)) + 1 := by omega
        rw [if_pos (hiff.2 hmore), Prog.run_bind, run_readByte, ih _ _ (by omega), hnext, hsize,
          Memory.slice_succ, List.foldl_cons]
      · have hsize : min (left + 1) (count - 4 - offset.toNat) = 0 := by omega
        rw [if_neg (fun h => hmore (hiff.1 h)), hsize]
        rfl

private theorem sumPayload_inside (hcount : count ≤ 255) (hmin : 4 ≤ count) (left : Nat)
    (offset calcCsum : UInt16) :
    ∀ access ∈ Prog.ops (answers buffer)
      (sumPayload (UInt32.ofNat count) left offset calcCsum), access.Inside count := by
  have hend : (UInt32.ofNat count - totalFooterSize).toNat = count - 4 :=
    toNat_length_sub hcount hmin
  induction left generalizing offset calcCsum with
  | zero => simp [sumPayload]
  | succ left ih =>
      rw [sumPayload]
      split
      · rename_i hmore
        rw [UInt32.lt_iff_toNat_lt, hend, UInt16.toNat_toUInt32] at hmore
        rw [Prog.ops_bind, ops_readByte]
        intro access hmem
        rcases List.mem_cons.1 hmem with rfl | hmem
        · exact (inside_read _).2 (by omega)
        · exact ih _ _ access hmem
      · simp

private theorem readLength_run :
    Prog.run (answers buffer) readLength =
      (UInt16.ofNat (declaredLength buffer), UInt16.ofNat (payloadStart buffer)) := by
  unfold readLength declaredLength payloadStart
  rw [Prog.run_bind, run_readByte]
  split
  · simp [payloadStartOffsetNoFlag]
  · simp [payloadStartOffsetWFlag]

private theorem readLength_ops :
    Prog.ops (answers buffer) readLength =
      .read 3 :: if buffer 3 = 0 then [.read 4] else [.read 5, .read 4] := by
  unfold readLength
  rw [Prog.ops_bind, run_readByte, ops_readByte, List.singleton_append]
  change _ :: Prog.ops _ (if buffer 3 = 0 then _ else _) = _
  split <;> rfl

private theorem readLength_inside (hmin : 6 ≤ count) :
    ∀ access ∈ Prog.ops (answers buffer) readLength, access.Inside count := by
  rw [readLength_ops]
  split
  · simp
    omega
  · simp
    omega

private theorem declaredLength_lt (buffer : Memory) : declaredLength buffer < 2 ^ 16 := by
  unfold declaredLength
  split
  · have := (buffer payloadLenLOffset).toNat_lt
    omega
  · exact UInt16.toNat_lt _

private theorem validateChecksum_run (hcount : count ≤ 255) (hmin : 6 ≤ count) :
    Prog.run (answers buffer) (validateChecksum (UInt32.ofNat count)) = true ↔
      ChecksumMatches buffer count := by
  have hstart : (UInt16.ofNat (payloadStart buffer)).toNat = payloadStart buffer := by
    unfold payloadStart
    split <;> rfl
  have hdeclared : (UInt16.ofNat (declaredLength buffer)).toNat = declaredLength buffer :=
    UInt16.toNat_ofNat_of_lt' (declaredLength_lt buffer)
  have hhigh : (UInt32.ofNat count - checksumHOffset).toNat = count - 3 :=
    toNat_length_sub hcount (by simp only [checksumHOffset, UInt32.reduceToNat]; omega)
  have hlow : (UInt32.ofNat count - checksumLOffset).toNat = count - 4 :=
    toNat_length_sub hcount (by simp only [checksumLOffset, UInt32.reduceToNat]; omega)
  have hoffset : payloadStart buffer ≤ 255 := by
    unfold payloadStart
    split <;> omega
  unfold validateChecksum ChecksumMatches
  simp only [Prog.run_bind, readLength_run, run_readByte, hhigh, hlow, Prog.pure_eq,
    Prog.run_ret]
  rw [sumPayload_run hcount (by omega) _ _ _ (by omega), hstart, hdeclared]
  exact ⟨of_decide_eq_true, decide_eq_true⟩

private theorem validateChecksum_inside (hcount : count ≤ 255) (hmin : 6 ≤ count) :
    ∀ access ∈ Prog.ops (answers buffer) (validateChecksum (UInt32.ofNat count)),
      access.Inside count := by
  have hhigh : (UInt32.ofNat count - checksumHOffset).toNat = count - 3 :=
    toNat_length_sub hcount (by simp only [checksumHOffset, UInt32.reduceToNat]; omega)
  have hlow : (UInt32.ofNat count - checksumLOffset).toNat = count - 4 :=
    toNat_length_sub hcount (by simp only [checksumLOffset, UInt32.reduceToNat]; omega)
  unfold validateChecksum
  simp only [Prog.ops_bind, readLength_run, ops_readByte, hhigh, hlow, Prog.pure_eq,
    Prog.ops_ret, List.mem_append]
  rintro access (hmem | hmem | hmem | hmem | hmem | hmem | hmem)
  · exact readLength_inside hmin access hmem
  · rw [List.mem_singleton.1 hmem, inside_read, msgIdOffset]
    omega
  · rw [List.mem_singleton.1 hmem, inside_read, flagOffset]
    omega
  · exact sumPayload_inside hcount (by omega) _ _ _ access hmem
  · rw [List.mem_singleton.1 hmem, inside_read]
    omega
  · rw [List.mem_singleton.1 hmem, inside_read]
    omega
  · cases hmem

private theorem validate_unterminated (hcount : count ≤ 255) (hmin : 2 < count)
    (h : ¬ Terminated buffer count) :
    ¬ Accepted buffer count ∧
      ∀ access ∈ Prog.ops (answers buffer) (vmcValidateScPacket (UInt32.ofNat count)),
        access.Inside count := by
  have hlast : (UInt32.ofNat count - 1).toNat = count - 1 :=
    toNat_length_sub hcount (by simp only [UInt32.reduceToNat]; omega)
  have hescape : (UInt32.ofNat count - 2).toNat = count - 2 :=
    toNat_length_sub hcount (by simp only [UInt32.reduceToNat]; omega)
  unfold Accepted vmcValidateScPacket
  rw [Prog.run_bind, Prog.ops_bind, run_readByte, ops_readByte, hlast]
  by_cases hetx : buffer (count - 1) = etx
  · rw [if_pos hetx, Prog.run_bind, Prog.ops_bind, run_readByte, ops_readByte, hescape]
    have hne : buffer (count - 2) ≠ escapeChar := fun heq => h ⟨heq, hetx⟩
    rw [if_neg hne]
    simp
    omega
  · rw [if_neg hetx]
    simp
    omega

private theorem validate_terminated (hcount : count ≤ 255) (hmin : 2 < count)
    (h : Terminated buffer count) :
    (Accepted buffer count ↔
      Prog.run (answers buffer) (validateChecksum (UInt32.ofNat count)) = true) ∧
    ((∀ access ∈ Prog.ops (answers buffer) (vmcValidateScPacket (UInt32.ofNat count)),
        access.Inside count) ↔
      ∀ access ∈ Prog.ops (answers buffer) (validateChecksum (UInt32.ofNat count)),
        access.Inside count) := by
  have hlast : (UInt32.ofNat count - 1).toNat = count - 1 :=
    toNat_length_sub hcount (by simp only [UInt32.reduceToNat]; omega)
  have hescape : (UInt32.ofNat count - 2).toNat = count - 2 :=
    toNat_length_sub hcount (by simp only [UInt32.reduceToNat]; omega)
  unfold Accepted vmcValidateScPacket
  rw [Prog.run_bind, Prog.ops_bind, run_readByte, ops_readByte, hlast, if_pos h.2,
    Prog.run_bind, Prog.ops_bind, run_readByte, ops_readByte, hescape, if_pos h.1]
  simp only [List.singleton_append, List.mem_cons, forall_eq_or_imp, inside_read]
  refine ⟨trivial, ?_⟩
  constructor
  · exact fun hall => hall.2.2
  · exact fun hrest => ⟨by omega, by omega, hrest⟩

private theorem validateChecksum_short (hmin : 2 < count) (hshort : count < 6)
    (h : Terminated buffer count) :
    ∃ access ∈ Prog.ops (answers buffer) (validateChecksum (UInt32.ofNat count)),
      ¬ access.Inside count := by
  have hlength : ∀ access ∈ Prog.ops (answers buffer) readLength,
      access ∈ Prog.ops (answers buffer) (validateChecksum (UInt32.ofNat count)) := by
    intro access hmem
    unfold validateChecksum
    rw [Prog.ops_bind]
    exact List.mem_append_left _ hmem
  rw [readLength_ops] at hlength
  have hflag := hlength (.read 3) (by simp)
  have hlong (hne : buffer 3 ≠ 0) := hlength (.read 5) (by simp [hne])
  obtain rfl | rfl | rfl : count = 3 ∨ count = 4 ∨ count = 5 := by omega
  · exact ⟨_, hflag, by rw [inside_read]; omega⟩
  · have hne : buffer 3 ≠ 0 := by
      have hend : buffer 3 = etx := h.2
      rw [hend]
      decide
    exact ⟨_, hlong hne, by rw [inside_read]; omega⟩
  · have hne : buffer 3 ≠ 0 := by
      have hend : buffer 3 = escapeChar := h.1
      rw [hend]
      decide
    exact ⟨_, hlong hne, by rw [inside_read]; omega⟩

end Validate

/-! ## Parsing -/

section Parse

variable {buffer : Memory} {count : Nat}

@[simp] theorem run_readPayload (index : Nat) :
    Prog.run (answers buffer) (readPayload index) = buffer (commsPayloadStartIndex + index) := rfl

@[simp] theorem ops_readPayload (index : Nat) :
    Prog.ops (answers buffer) (readPayload index) =
      [.read (commsPayloadStartIndex + index)] := rfl

def knownSize (size : UInt8) : Prop := size = 1 ∨ size = 2 ∨ size = 4

private theorem readValue_spec {i length : Nat} (hi : i < length) (hroom : length + 9 ≤ count)
    (size : UInt8) :
    ((∀ access ∈ Prog.ops (answers buffer) (readValue i size), access.Inside count) ↔
      (size = 4 → i + 10 < count)) ∧
    ((Prog.run (answers buffer) (readValue i size)).isSome = true ↔ knownSize size) := by
  unfold readValue knownSize
  by_cases h1 : size = 1
  · subst h1
    simp [commsPayloadStartIndex]
    omega
  · by_cases h2 : size = 2
    · subst h2
      simp [commsPayloadStartIndex]
      omega
    · by_cases h4 : size = 4
      · subst h4
        simp [commsPayloadStartIndex]
        omega
      · simp [h1, h2, h4]

private theorem vmcStoreSensorValue_inside (id : UInt8) (value : UInt32) :
    (∀ access ∈ Prog.ops (answers buffer) (vmcStoreSensorValue id value),
      access.Inside count) ↔ id.toNat < eScSensorIdMax := by
  unfold vmcStoreSensorValue
  split
  · rename_i hvccint
    subst hvccint
    simp [Access.Inside, eScVccintI, eScSensorIdMax]
  · simp [Access.Inside]

private theorem updateSensors_inside {length : UInt16} (hlength : length.toNat ≤ 255)
    (hroom : length.toNat + 9 ≤ count) (rounds : Nat) (i : UInt16) :
    (∀ access ∈ Prog.ops (answers buffer) (updateSensors length rounds i),
        access.Inside count) ↔
      ∀ entry ∈ sensorEntries buffer length.toNat rounds i.toNat, entry.InRange count := by
  induction rounds generalizing i with
  | zero => simp [updateSensors, sensorEntries]
  | succ rounds ih =>
      rw [updateSensors, sensorEntries]
      by_cases hi : i < length
      · have hlt : i.toNat < length.toNat := UInt16.lt_iff_toNat_lt.1 hi
        let size := buffer (commsPayloadStartIndex + (i.toNat + 1))
        obtain ⟨hvalue, hsome⟩ := @readValue_spec buffer count _ _ hlt hroom size
        have hsize : (i + 2 + size.toUInt16).toNat = i.toNat + 2 + size.toNat := by
          have := size.toNat_lt
          rw [UInt16.toNat_add, UInt16.toNat_add, UInt8.toNat_toUInt16]
          simp
          omega
        rw [if_pos hi, Prog.ops_bind, run_readPayload, ops_readPayload, List.singleton_append,
          List.forall_mem_cons, inside_read, Prog.ops_bind, List.forall_mem_append, hvalue]
        have hread : commsPayloadStartIndex + (i.toNat + 1) < count := by
          simp only [commsPayloadStartIndex]
          omega
        have hid : commsPayloadStartIndex + i.toNat < count := by
          simp only [commsPayloadStartIndex]
          omega
        by_cases hknown : knownSize size
        · obtain ⟨value, hrun⟩ := Option.isSome_iff_exists.1 (hsome.2 hknown)
          rw [if_pos ⟨hlt, hknown⟩, hrun, List.forall_mem_cons]
          simp only [Prog.ops_bind, run_readPayload, ops_readPayload, List.singleton_append,
            List.forall_mem_cons, List.forall_mem_append, inside_read,
            vmcStoreSensorValue_inside]
          rw [ih, hsize]
          constructor
          · rintro ⟨-, hfour, -, hrange, hrest⟩
            exact ⟨⟨hrange, hfour⟩, hrest⟩
          · rintro ⟨⟨hrange, hfour⟩, hrest⟩
            exact ⟨hread, hfour, hid, hrange, hrest⟩
        · have hnone : Prog.run (answers buffer) (readValue i.toNat size) = none := by
            rw [← Option.not_isSome_iff_eq_none, hsome]
            exact hknown
          have hfour : size = 4 → i.toNat + 10 < count := fun h => absurd (.inr (.inr h)) hknown
          rw [if_neg fun h => hknown h.2, hnone]
          simp only [Prog.pure_eq, Prog.ops_ret, List.not_mem_nil, false_implies, implies_true,
            and_true, iff_true]
          exact ⟨hread, hfour⟩
      · have hge : ¬ i.toNat < length.toNat := fun h => hi (UInt16.lt_iff_toNat_lt.2 h)
        rw [if_neg hi, if_neg (fun h => hge h.1)]
        simp

private theorem sensorEntries_congr {buffer' : Memory} {length : Nat} (hroom : length + 9 ≤ count)
    (hsame : ∀ index < count, buffer index = buffer' index) (rounds position : Nat) :
    sensorEntries buffer length rounds position = sensorEntries buffer' length rounds position := by
  induction rounds generalizing position with
  | zero => rfl
  | succ rounds ih =>
      rw [sensorEntries, sensorEntries]
      by_cases hposition : position < length
      · rw [hsame (commsPayloadStartIndex + (position + 1)) (by
            simp only [commsPayloadStartIndex]; omega),
          hsame (commsPayloadStartIndex + position) (by
            simp only [commsPayloadStartIndex]; omega)]
        simp only [ih]
      · rw [if_neg fun h => hposition h.1, if_neg fun h => hposition h.1]

private theorem updateVersionEntry_inside {i length : Nat} (hi : i < length)
    (hroom : length + 9 ≤ count)
    (kind : UInt8) :
    ∀ access ∈ Prog.ops (answers buffer) (updateVersionEntry i kind), access.Inside count := by
  unfold updateVersionEntry
  split
  · simp [commsPayloadStartIndex, Access.Inside]
    omega
  · split
    · simp [commsPayloadStartIndex, Access.Inside]
      omega
    · simp

private theorem updateVersionPowerMode_inside {length : UInt16} (hroom : length.toNat + 9 ≤ count)
    (rounds : Nat) (i : UInt16) :
    ∀ access ∈ Prog.ops (answers buffer) (updateVersionPowerMode length rounds i),
      access.Inside count := by
  induction rounds generalizing i with
  | zero => simp [updateVersionPowerMode]
  | succ rounds ih =>
      rw [updateVersionPowerMode]
      split
      · rename_i hi
        have hlt : i.toNat < length.toNat := UInt16.lt_iff_toNat_lt.1 hi
        rw [Prog.ops_bind, Prog.ops_bind, Prog.ops_bind, List.forall_mem_append,
          List.forall_mem_append, List.forall_mem_append]
        refine ⟨?_, updateVersionEntry_inside hlt hroom _, ?_, ih _⟩
        · simp [commsPayloadStartIndex]
          omega
        · simp [commsPayloadStartIndex]
          omega
      · simp

private theorem vmcUpdateSensorLength_inside (hroom : 9 ≤ count) :
    ∀ access ∈ Prog.ops (answers buffer) vmcUpdateSensorLength, access.Inside count := by
  unfold vmcUpdateSensorLength
  rw [Prog.ops_bind, List.forall_mem_append, run_readPayload]
  refine ⟨?_, ?_⟩
  · simp [commsPayloadStartIndex]
    omega
  · split
    · simp [commsPayloadStartIndex, Access.Inside]
      omega
    · split
      · simp [commsPayloadStartIndex, Access.Inside]
        omega
      · split
        · simp [commsPayloadStartIndex, Access.Inside]
          omega
        · simp

private theorem dispatchScData_inside (hroom : (buffer 4).toNat + 9 ≤ count) (messageId : UInt8) :
    (∀ access ∈ Prog.ops (answers buffer) (dispatchScData messageId), access.Inside count) ↔
      (isSensorResp messageId = true →
        ∀ entry ∈ sensorEntries buffer (buffer 4).toNat (buffer 4).toNat 0,
          entry.InRange count) := by
  have hlength : (buffer 4).toUInt16.toNat = (buffer 4).toNat := UInt8.toNat_toUInt16 _
  have hlt := (buffer 4).toNat_lt
  unfold dispatchScData
  by_cases hsensor : isSensorResp messageId = true
  · have hiff := @updateSensors_inside buffer count (buffer 4).toUInt16 (by omega) (by omega)
      (buffer 4).toNat 0
    rw [if_pos hsensor, Prog.ops_bind, List.forall_mem_append, vmcUpdateSensors]
    simp only [run_readByte, ops_readByte, CommsFieldParser.index, hsensor, true_implies]
    rw [hlength] at hiff ⊢
    rw [hiff]
    simp
    omega
  · rw [if_neg hsensor]
    refine iff_of_true ?_ fun h => absurd h hsensor
    split
    · rw [Prog.ops_bind, Prog.ops_bind, List.forall_mem_append, List.forall_mem_append]
      refine ⟨?_, updateVersionPowerMode_inside (by rw [run_readByte]; exact hroom) _ _, ?_⟩
      · simp [CommsFieldParser.index]
        omega
      · simp [Access.Inside]
    · split
      · exact vmcUpdateSensorLength_inside (by omega)
      · split
        · simp [Access.Inside]
        · split <;> simp [Access.Inside]

private theorem parseScData_inside (hroom : (buffer 4).toNat + 9 ≤ count) (expectedMsgid : UInt8) :
    (∀ access ∈ Prog.ops (answers buffer) (parseScData expectedMsgid), access.Inside count) ↔
      EntriesInRange buffer count expectedMsgid := by
  have h0 : 0 < count := by omega
  have h1 : 1 < count := by omega
  have h2 : 2 < count := by omega
  unfold parseScData EntriesInRange
  rw [Prog.ops_bind, Prog.ops_bind, List.forall_mem_append, List.forall_mem_append, run_readByte,
    run_readByte, ops_readByte, ops_readByte, List.forall_mem_singleton,
    List.forall_mem_singleton]
  change _ ∧ _ ∧ (∀ access ∈ Prog.ops _
    (if buffer 0 ≠ escapeChar ∨ buffer 1 ≠ stx then _ else _), Access.Inside count access) ↔ _
  by_cases hstart : buffer 0 = escapeChar ∧ buffer 1 = stx
  · have hpass : ¬ (buffer 0 ≠ escapeChar ∨ buffer 1 ≠ stx) := by
      rintro (h | h)
      · exact h hstart.1
      · exact h hstart.2
    rw [if_neg hpass, Prog.ops_bind, List.forall_mem_append, run_readByte, ops_readByte,
      List.forall_mem_singleton]
    change _ ∧ _ ∧ _ ∧ (∀ access ∈ Prog.ops _
      (if buffer 2 ≠ expectedMsgid then _ else _), Access.Inside count access) ↔ _
    by_cases hid : buffer 2 = expectedMsgid
    · rw [if_neg (not_not_intro hid), Prog.ops_bind, List.forall_mem_append,
        show buffer CommsFieldParser.rspMessageID.index = expectedMsgid from hid,
        dispatchScData_inside hroom]
      constructor
      · exact fun h hrest => h.2.2.2.1 hrest.2.2.2
      · exact fun h => ⟨h0, h1, h2, fun hresp => h ⟨hstart.1, hstart.2, hid, hresp⟩, by simp⟩
    · rw [if_pos hid]
      refine iff_of_true ⟨h0, h1, h2, by simp⟩ ?_
      rintro ⟨-, -, hsame, -⟩
      exact absurd hsame hid
  · have hfail : buffer 0 ≠ escapeChar ∨ buffer 1 ≠ stx := not_and_or.1 hstart
    rw [if_pos hfail]
    refine iff_of_true ⟨h0, h1, by simp⟩ ?_
    rintro ⟨hfirst, hsecond, -⟩
    exact absurd ⟨hfirst, hsecond⟩ hstart

end Parse

/-! ## Which packets are safely received -/

section Received

variable {buffer : Memory} {count : Nat} {expectedMsgid : UInt8}

private theorem low_length_room (h : payloadStart buffer + declaredLength buffer + 4 = count) :
    (buffer 4).toNat + 9 ≤ count := by
  unfold payloadStart declaredLength at h
  split at h
  · simp only [payloadLenLOffset] at h
    omega
  · simp only [payloadLenLOffset, payloadLenHOffset, toNat_le16] at h
    omega

private theorem entriesInRange_copied (hroom : (buffer 4).toNat + 9 ≤ count) :
    EntriesInRange (copied buffer count) count expectedMsgid ↔
      EntriesInRange buffer count expectedMsgid := by
  have hsame : ∀ index < count, copied buffer count index = buffer index := fun index h =>
    if_pos h
  unfold EntriesInRange
  rw [hsame 0 (by omega), hsame 1 (by omega), hsame 2 (by omega), hsame 4 (by omega),
    sensorEntries_congr hroom hsame]

/-- A buffer of `count` bytes is safely received exactly if it is receivable. -/
theorem safelyReceived_iff (hmin : 2 < count) (hmax : count ≤ maxVmcScUartBufSize) :
    SafelyReceived buffer count expectedMsgid ↔ Receivable buffer count expectedMsgid := by
  change count ≤ 255 at hmax
  by_cases hend : Terminated buffer count
  · obtain ⟨haccepted, hvalidate⟩ := validate_terminated hmax hmin hend
    constructor
    · intro h _
      have hlong : 6 ≤ count := by
        by_contra hshort
        obtain ⟨access, hmem, houtside⟩ := validateChecksum_short hmin (by omega) hend
        exact houtside (hvalidate.1 h.validate access hmem)
      refine ⟨hlong, fun hchecksum => ?_⟩
      have hvalid : Accepted buffer count :=
        haccepted.2 ((validateChecksum_run hmax hlong).2 hchecksum)
      have hexact := h.exact_length hvalid
      have hroom := low_length_room hexact
      have hcopied : copied buffer count 4 = buffer 4 := if_pos (by omega)
      refine ⟨hexact, (entriesInRange_copied hroom).1 ?_⟩
      exact (parseScData_inside (by rwa [hcopied]) expectedMsgid).1 (h.parse hvalid)
    · intro h
      obtain ⟨hlong, hpacket⟩ := h hend
      have hchecksum (hvalid : Accepted buffer count) : ChecksumMatches buffer count :=
        (validateChecksum_run hmax hlong).1 (haccepted.1 hvalid)
      refine ⟨hvalidate.2 (validateChecksum_inside hmax hlong),
        fun hvalid => (hpacket (hchecksum hvalid)).1, fun hvalid => ?_⟩
      obtain ⟨hexact, hentries⟩ := hpacket (hchecksum hvalid)
      have hroom := low_length_room hexact
      have hcopied : copied buffer count 4 = buffer 4 := if_pos (by omega)
      exact (parseScData_inside (by rwa [hcopied]) expectedMsgid).2
        ((entriesInRange_copied hroom).2 hentries)
  · obtain ⟨hrejected, hinside⟩ := validate_unterminated hmax hmin hend
    exact iff_of_true
      ⟨hinside, fun hvalid => absurd hvalid hrejected, fun hvalid => absurd hvalid hrejected⟩
      fun h => absurd h hend

end Received

def temperaturePacket (id : UInt8) : Memory := fun index =>
  [0x5C, 0x02, 0x88, 0x00, 0x07, 0x09, 0x02, 0x2A, 0x00, id, 0x01, 0x07,
    byteAt (0xCC + id.toNat) 0, byteAt (0xCC + id.toNat) 1, 0x5C, 0x03].getD index 0

theorem temperaturePacket_safelyReceived : SafelyReceived (temperaturePacket 10) 16 0x88 :=
  (safelyReceived_iff (by decide) (by decide)).2 (by decide +kernel)

/-- The second entry has the id 200; it is stored 186 entries behind the table. -/
theorem temperaturePacket_outside : ¬ SafelyReceived (temperaturePacket 200) 16 0x88 := by
  intro h
  have hvalid : Accepted (temperaturePacket 200) 16 := by
    unfold Accepted
    decide +kernel
  have hwrite : Access.write (.sensorValues 200) 7 ∈
      Prog.ops (answers (copied (temperaturePacket 200) 16)) (parseScData 0x88) := by
    decide +kernel
  exact absurd (h.parse hvalid _ hwrite) (by simp [Access.Inside, eScSensorIdMax])

end Vmr.Sc.Comms
