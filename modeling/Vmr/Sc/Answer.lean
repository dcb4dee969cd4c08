import Vmr.Sc.Exchange

/-!
# What is kept of an answer

The statics fall into four groups, and each response writes to one of them, or sets the
flag that it was received.  A packet that does not start like the awaited response
writes nothing.
-/

namespace Vmr.Sc.Session

open Vmr.Lib Vmr.Sc.Comms Vmr.Sc.Uart

/-! ## The statics -/

inductive Group
  | sensors | version | lengths | flags
  deriving DecidableEq, Repr

def group : Static → Group
  | .sensorValues _ | .vccintSensorValue => .sensors
  | .scVersion _ | .powerMode => .version
  | .voltSensorLength | .powerSensorLength | .tempSensorLength => .lengths
  | .isPowerModeActive | .isBoardInfoSentToSc | .isScActive => .flags

def confirms (expectedMsgid : UInt8) : Option Static :=
  if expectedMsgid = msp432CommsVmcVersionPowermodeResp then some .isPowerModeActive
  else if expectedMsgid = scCommsRxBoardInfoResp then some .isBoardInfoSentToSc
  else if expectedMsgid = Comms.msp432CommsMsgGood then some .isScActive
  else none

def Awaited (packet : Memory) (expectedMsgid : UInt8) : Prop :=
  packet 0 = Comms.escapeChar ∧ packet 1 = Comms.stx ∧ packet 2 = expectedMsgid

instance (packet : Memory) (expectedMsgid : UInt8) : Decidable (Awaited packet expectedMsgid) :=
  inferInstanceAs (Decidable (_ ∧ _))

def writesIn (written : Group) : Access → Bool
  | .read _ => true
  | .write place _ => group place = written

/-- Nothing is written but to places of the group. -/
abbrev WritesIn {α : Type} (written : Group) (p : PacketProg α) : Prop :=
  p.Only fun access => writesIn written access = true

section Parser

variable {packet : Memory} {expectedMsgid : UInt8}

private theorem only_readByte (written : Group) (index : Nat) : WritesIn written (readByte index) :=
  ⟨rfl, fun _ => trivial⟩

private theorem only_readPayload (written : Group) (index : Nat) :
    WritesIn written (readPayload index) :=
  ⟨rfl, fun _ => trivial⟩

private theorem only_write {place : Static} {written : Group} (hplace : group place = written)
    (value : UInt32) : WritesIn written (write place value) :=
  ⟨decide_eq_true hplace, fun _ => trivial⟩

private theorem only_updateVersionEntry (i : Nat) (kind : UInt8) :
    WritesIn .version (updateVersionEntry i kind) := by
  refine Prog.only_ite ?_ (Prog.only_ite ?_ (Prog.only_ret _))
  · refine (only_readPayload _ _).bind fun _ => ?_
    refine (only_write rfl _).bind fun _ => ?_
    refine (only_readPayload _ _).bind fun _ => ?_
    refine (only_write rfl _).bind fun _ => ?_
    exact (only_readPayload _ _).bind fun _ => only_write rfl _
  · exact (only_readPayload _ _).bind fun _ => only_write rfl _

private theorem only_updateVersionPowerMode (length : UInt16) (rounds : Nat) (i : UInt16) :
    WritesIn .version (updateVersionPowerMode length rounds i) := by
  induction rounds generalizing i with
  | zero => exact Prog.only_ret _
  | succ rounds ih =>
      refine Prog.only_ite ?_ (Prog.only_ret _)
      refine (only_readPayload _ _).bind fun _ => ?_
      refine (only_updateVersionEntry _ _).bind fun _ => ?_
      exact (only_readPayload _ _).bind fun _ => ih _

private theorem only_readValue (i : Nat) (size : UInt8) : WritesIn .sensors (readValue i size) := by
  refine Prog.only_ite ?_ (Prog.only_ite ?_ (Prog.only_ite ?_ (Prog.only_ret _)))
  · exact (only_readPayload _ _).bind fun _ => Prog.only_ret _
  · refine (only_readPayload _ _).bind fun _ => ?_
    exact (only_readPayload _ _).bind fun _ => Prog.only_ret _
  · refine (only_readPayload _ _).bind fun _ => ?_
    refine (only_readPayload _ _).bind fun _ => ?_
    refine (only_readPayload _ _).bind fun _ => ?_
    exact (only_readPayload _ _).bind fun _ => Prog.only_ret _

private theorem only_vmcStoreSensorValue (id : UInt8) (value : UInt32) :
    WritesIn .sensors (vmcStoreSensorValue id value) :=
  Prog.only_ite (only_write rfl _) (only_write rfl _)

private theorem only_updateSensors (length : UInt16) (rounds : Nat) (i : UInt16) :
    WritesIn .sensors (updateSensors length rounds i) := by
  induction rounds generalizing i with
  | zero => exact Prog.only_ret _
  | succ rounds ih =>
      refine Prog.only_ite ?_ (Prog.only_ret _)
      refine (only_readPayload _ _).bind fun _ => ?_
      refine (only_readValue _ _).bind fun value => ?_
      cases value with
      | none => exact Prog.only_ret _
      | some value =>
          refine (only_readPayload _ _).bind fun id => ?_
          exact (only_vmcStoreSensorValue id value).bind fun _ => ih _

private theorem only_vmcUpdateSensorLength : WritesIn .lengths vmcUpdateSensorLength := by
  refine (only_readPayload _ _).bind fun _ => ?_
  refine Prog.only_ite ?_ (Prog.only_ite ?_ (Prog.only_ite ?_ (Prog.only_ret _)))
  all_goals exact (only_readPayload _ _).bind fun _ => only_write rfl _

private theorem parsed_eq (statics : Static → UInt32) :
    parsed packet expectedMsgid statics =
      if Awaited packet expectedMsgid then
        staticsAfter packet statics (dispatchScData expectedMsgid)
      else statics := by
  unfold parsed parseScData staticsAfter
  rw [Prog.ops_bind, Prog.ops_bind, run_readByte, run_readByte, ops_readByte, ops_readByte]
  change updates statics (List.filterMap _ ([Access.read 0] ++ ([Access.read 1] ++ Prog.ops _
    (if packet 0 ≠ Comms.escapeChar ∨ packet 1 ≠ Comms.stx then _ else _)))) = _
  by_cases hstart : packet 0 = Comms.escapeChar ∧ packet 1 = Comms.stx
  · have hpass : ¬ (packet 0 ≠ Comms.escapeChar ∨ packet 1 ≠ Comms.stx) := by
      rintro (h | h)
      · exact h hstart.1
      · exact h hstart.2
    rw [if_neg hpass, Prog.ops_bind, run_readByte, ops_readByte]
    change updates statics (List.filterMap _ ([Access.read 0] ++ ([Access.read 1] ++
      ([Access.read 2] ++ Prog.ops _ (if packet 2 ≠ expectedMsgid then _ else _))))) = _
    by_cases hid : packet 2 = expectedMsgid
    · rw [if_neg (not_not_intro hid), if_pos ⟨hstart.1, hstart.2, hid⟩, Prog.ops_bind,
        show packet CommsFieldParser.rspMessageID.index = expectedMsgid from hid, Prog.pure_eq,
        Prog.ops_ret, List.append_nil]
      rfl
    · rw [if_pos hid, if_neg fun h => hid h.2.2]
      rfl
  · rw [if_pos (not_and_or.1 hstart), if_neg fun h => hstart ⟨h.1, h.2.1⟩]
    rfl

theorem WritesIn.updates {α : Type} {p : PacketProg α} {written : Group} (h : WritesIn written p)
    (statics : Static → UInt32) {place : Static} (hplace : group place ≠ written) :
    updates statics ((Prog.ops (answers packet) p).filterMap Access.stored) place =
      statics place := by
  have hnone : lastWrite place ((Prog.ops (answers packet) p).filterMap Access.stored) = none := by
    rw [lastWrite_eq_none_iff]
    intro stored hstored
    obtain ⟨access, hmem, hwrite⟩ := List.mem_filterMap.1 hstored
    have hgroup := h.mem_ops (answers packet) hmem
    cases access with
    | read index => cases hwrite
    | write other value =>
        cases hwrite
        rintro rfl
        exact hplace (of_decide_eq_true hgroup)
  rw [updates_apply, hnone]
  rfl

theorem parsed_flag (statics : Static → UInt32) {flag : Static} (hflag : group flag = .flags) :
    parsed packet expectedMsgid statics flag =
      if Awaited packet expectedMsgid ∧ confirms expectedMsgid = some flag then 1
      else statics flag := by
  rw [parsed_eq]
  by_cases hawaited : Awaited packet expectedMsgid
  swap
  · rw [if_neg hawaited, if_neg fun h => hawaited h.1]
  rw [if_pos hawaited]
  have hother : ∀ {written : Group} {p : PacketProg Unit}, WritesIn written p → written ≠ .flags →
      confirms expectedMsgid = none →
      staticsAfter packet statics p flag =
        if Awaited packet expectedMsgid ∧ confirms expectedMsgid = some flag then 1
        else statics flag := by
    intro written p hwrites hne hnone
    rw [if_neg fun h => absurd (hnone ▸ h.2) (Option.some_ne_none _).symm]
    exact hwrites.updates statics (hflag ▸ hne.symm)
  have hset : ∀ {place : Static}, confirms expectedMsgid = some place →
      ∀ {p : PacketProg Unit}, WritesIn .version p →
      staticsAfter packet statics (do p; write place 1) flag =
        if Awaited packet expectedMsgid ∧ confirms expectedMsgid = some flag then 1
        else statics flag := by
    intro place hplace p hwrites
    rw [staticsAfter, Prog.ops_bind, List.filterMap_append, updates_append, ops_write, hplace]
    change Function.update _ place 1 flag = _
    by_cases hsame : flag = place
    · subst hsame
      rw [Function.update_self, if_pos ⟨hawaited, rfl⟩]
    · rw [Function.update_of_ne hsame, if_neg fun h => hsame (Option.some.inj h.2).symm]
      exact hwrites.updates statics (hflag ▸ by decide)
  unfold dispatchScData
  split
  · next hsensor =>
    refine hother ((only_readByte _ _).bind fun _ => only_updateSensors _ _ _) (by decide) ?_
    obtain rfl | rfl | rfl := of_decide_eq_true hsensor <;> rfl
  split
  · next hversion =>
    have hassoc := Prog.bind_assoc' (readByte CommsFieldParser.payloadLength.index)
      (fun length => vmcUpdateVersionPowerMode length.toUInt16) fun _ => write .isPowerModeActive 1
    rw [← hassoc]
    refine hset (hversion ▸ rfl) ((only_readByte _ _).bind fun _ => ?_)
    exact only_updateVersionPowerMode _ _ _
  split
  · next hlength => exact hother only_vmcUpdateSensorLength (by decide) (hlength ▸ rfl)
  split
  · next hboard => exact hset (hboard ▸ rfl) (Prog.only_ret ())
  split
  · next hgood => exact hset (hgood ▸ rfl) (Prog.only_ret ())
  · next hsensor hversion hlength hboard hgood =>
    refine @hother .version _ (Prog.only_ret ()) (by decide) ?_
    rw [confirms, if_neg hversion, if_neg hboard, if_neg hgood]

private theorem staticsAfter_dispatch (statics : Static → UInt32) {place : Static}
    (hplace : group place ≠ .flags) :
    staticsAfter packet statics (dispatchScData expectedMsgid) place =
      if isSensorResp expectedMsgid = true then
        staticsAfter packet statics (vmcUpdateSensors (packet 4).toUInt16) place
      else if expectedMsgid = msp432CommsVmcVersionPowermodeResp then
        staticsAfter packet statics (vmcUpdateVersionPowerMode (packet 4).toUInt16) place
      else if expectedMsgid = msp432CommsVmcGetRespSizeResp then
        staticsAfter packet statics vmcUpdateSensorLength place
      else statics place := by
  have hset : ∀ {flag : Static} (writes : List (Static × UInt32)), group flag = .flags →
      updates statics (writes ++ [(flag, 1)]) place = updates statics writes place := by
    intro flag writes hflag
    rw [updates_append]
    exact Function.update_of_ne (fun hsame : place = flag => hplace (hsame ▸ hflag)) _ _
  unfold dispatchScData staticsAfter
  split
  · rfl
  split
  · rw [Prog.ops_bind, Prog.ops_bind, run_readByte, ops_write, List.filterMap_append,
      List.filterMap_append]
    exact hset _ rfl
  split
  · rfl
  split
  · exact hset [] rfl
  split
  · exact hset [] rfl
  · rfl

def lengthPlace (messageId : UInt8) : Option Static :=
  if messageId = scCommsRxVoltSnsr then some .voltSensorLength
  else if messageId = scCommsRxPowerSnsr then some .powerSensorLength
  else if messageId = scCommsRxTempSnsr then some .tempSensorLength
  else none

private theorem staticsAfter_updateSensorLength (statics : Static → UInt32) (place : Static) :
    staticsAfter packet statics vmcUpdateSensorLength place =
      if lengthPlace (packet 5) = some place then (packet 6 + rawPayloadLength).toUInt32
      else statics place := by
  have hset : ∀ (target : Static) (value : UInt32), Function.update statics target value place =
      if some target = some place then value else statics place := by
    intro target value
    by_cases hsame : target = place
    · subst hsame
      rw [Function.update_self, if_pos rfl]
    · rw [Function.update_of_ne (Ne.symm hsame), if_neg fun h => hsame (Option.some.inj h)]
  unfold staticsAfter vmcUpdateSensorLength lengthPlace
  rw [Prog.ops_bind, run_readPayload, show commsPayloadStartIndex + 0 = 5 from rfl]
  split
  · exact hset _ _
  split
  · exact hset _ _
  split
  · exact hset _ _
  · rfl

theorem parsed_length (statics : Static → UInt32) {place : Static}
    (hplace : group place = .lengths) :
    parsed packet expectedMsgid statics place =
      if Awaited packet expectedMsgid ∧ expectedMsgid = msp432CommsVmcGetRespSizeResp ∧
          lengthPlace (packet 5) = some place then (packet 6 + rawPayloadLength).toUInt32
      else statics place := by
  rw [parsed_eq]
  by_cases hawaited : Awaited packet expectedMsgid
  swap
  · rw [if_neg hawaited, if_neg fun h => hawaited h.1]
  rw [if_pos hawaited, staticsAfter_dispatch _ (hplace ▸ by decide)]
  by_cases hlength : expectedMsgid = msp432CommsVmcGetRespSizeResp
  · subst hlength
    rw [if_neg (by decide), if_neg (by decide), if_pos rfl, staticsAfter_updateSensorLength]
    simp [hawaited]
  · have hnone : ¬ (Awaited packet expectedMsgid ∧
        expectedMsgid = msp432CommsVmcGetRespSizeResp ∧ lengthPlace (packet 5) = some place) :=
      fun h => hlength h.2.1
    have hsensors : group place ≠ .sensors := hplace ▸ by decide
    have hversion : group place ≠ .version := hplace ▸ by decide
    rw [if_neg hnone]
    split
    · exact (only_updateSensors _ _ _).updates statics hsensors
    split
    · exact (only_updateVersionPowerMode _ _ _).updates statics hversion
    · rfl

theorem parsed_sensors (statics : Static → UInt32) {place : Static}
    (hplace : group place = .sensors) :
    parsed packet expectedMsgid statics place =
      if Awaited packet expectedMsgid ∧ isSensorResp expectedMsgid = true then
        staticsAfter packet statics (vmcUpdateSensors (packet 4).toUInt16) place
      else statics place := by
  rw [parsed_eq]
  by_cases hawaited : Awaited packet expectedMsgid
  swap
  · rw [if_neg hawaited, if_neg fun h => hawaited h.1]
  rw [if_pos hawaited, staticsAfter_dispatch _ (hplace ▸ by decide)]
  by_cases hsensor : isSensorResp expectedMsgid = true
  · rw [if_pos hsensor, if_pos ⟨hawaited, hsensor⟩]
  · have hnone : ¬ (Awaited packet expectedMsgid ∧ isSensorResp expectedMsgid = true) :=
      fun h => hsensor h.2
    have hversion : group place ≠ .version := hplace ▸ by decide
    have hlengths : group place ≠ .lengths := hplace ▸ by decide
    rw [if_neg hsensor, if_neg hnone]
    split
    · exact (only_updateVersionPowerMode _ _ _).updates statics hversion
    split
    · exact only_vmcUpdateSensorLength.updates statics hlengths
    · rfl

end Parser

end Vmr.Sc.Session
