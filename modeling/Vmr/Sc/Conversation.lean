import Vmr.Sc.Answer

/-!
# The conversation

What may be asked for depends on what the controller has answered since its firmware
was last updated.  The statics hold exactly what has to be known of the answers.
-/

namespace Vmr.Sc.Session

open Vmr.Lib Vmr.Sc.Comms Vmr.Sc.Uart

/-! ## What may be asked for -/

def sensorRequests : List (UInt8 × Static × UInt8) :=
  [(scCommsRxVoltSnsr, .voltSensorLength, scCommsRxVoltSnsrResp),
    (scCommsRxPowerSnsr, .powerSensorLength, scCommsRxPowerSnsrResp),
    (scCommsRxTempSnsr, .tempSensorLength, scCommsRxTempSnsrResp)]

def Lists (platform : Vmc.Platform) (messageId : UInt8) : Prop :=
  ∃ messageIds ∈ msgIdHandler platform, messageId ∈ messageIds

inductive MaySend (platform : Vmc.Platform) (s : ScState) : Request → Prop
  | active (hwired : platform ≠ .v80) (hoff : s.statics .isScActive = 0) :
      MaySend platform s
        (plain msp432CommsVmcActiveReq msp432CommsGeneralRespLen Comms.msp432CommsMsgGood)
  | versionPowermode (hon : s.statics .isScActive ≠ 0)
      (hunknown : s.statics .isPowerModeActive = 0) :
      MaySend platform s
        (plain msp432CommsVmcVersionPowermodeReq 18 msp432CommsVmcVersionPowermodeResp)
  | respSize (hon : s.statics .isScActive ≠ 0) (hpolled : hasScComms platform = true)
      (hunknown : s.getSensorRespLen = false) {messageId : UInt8}
      (hsensor : messageId ∈ sensorRequests.map Prod.fst) :
      MaySend platform s (lengthRequest messageId)
  | boardInfo (hon : s.statics .isScActive ≠ 0) (hunsent : s.statics .isBoardInfoSentToSc = 0)
      (payloadLength : UInt8) (payload : Memory) :
      MaySend platform s ⟨scCommsTxBoardInfo, payloadLength, payload, msp432CommsGeneralRespLen,
        scCommsRxBoardInfoResp⟩
  | sensors (hon : s.statics .isScActive ≠ 0) {messageId expectedMsgid : UInt8} {length : Static}
      (hlisted : Lists platform messageId)
      (hsensor : (messageId, length, expectedMsgid) ∈ sensorRequests) :
      MaySend platform s (plain messageId (s.statics length).toUInt8 expectedMsgid)
  | i2c (hon : s.statics .isScActive ≠ 0) (hlisted : Lists platform scCommsTxI2cSnsr)
      (payloadLength : UInt8) (payload : Memory) :
      MaySend platform s ⟨scCommsTxI2cSnsr, payloadLength, payload, msp432CommsGeneralRespLen,
        scCommsRxI2cSnsrResp⟩

inductive Event
  | exchanged (request : Request) (outcome : Outcome)
  | restarted

namespace ScState

def fresh : ScState := ⟨fun _ => 0, false⟩

/-- What `update_scfw` resets behind an update. -/
def restart (s : ScState) : ScState where
  statics := updates s.statics
    [(.isScActive, 0), (.isPowerModeActive, 0), (.isBoardInfoSentToSc, 0)]
  getSensorRespLen := false

def KnowsLengths (s : ScState) : Prop :=
  s.statics .voltSensorLength ≠ 0 ∧ s.statics .powerSensorLength ≠ 0 ∧
    s.statics .tempSensorLength ≠ 0

end ScState

def Event.wire : Event → List LineEvent
  | .exchanged request outcome => request.events outcome
  | .restarted => [.updated]

/-- The events, and the state they leave. -/
inductive Conversation (platform : Vmc.Platform) (s : ScState) : List Event → ScState → Prop
  | nil : Conversation platform s [] s
  | exchanged {events : List Event} {s' : ScState} (h : Conversation platform s events s')
      {request : Request} (hmay : MaySend platform s' request) (outcome : Outcome) :
      Conversation platform s (events ++ [.exchanged request outcome]) (request.after s' outcome)
  | learnt {events : List Event} {s' : ScState} (h : Conversation platform s events s')
      (hlengths : s'.KnowsLengths) :
      Conversation platform s events { s' with getSensorRespLen := true }
  | restarted {events : List Event} {s' : ScState} (h : Conversation platform s events s') :
      Conversation platform s (events ++ [.restarted]) s'.restart

/-! ## What was confirmed -/

/-- Since the last update of its firmware the controller has sent the response that sets
the flag. -/
def Confirmed (flag : Static) (events : List Event) : Prop :=
  ∃ before request reply after, events = before ++ .exchanged request (.answered reply) :: after ∧
    .restarted ∉ after ∧ Awaited reply.packet request.expectedMsgid ∧
      confirms request.expectedMsgid = some flag

def Event.Confirms (flag : Static) : Event → Prop
  | .exchanged request (.answered reply) =>
      Awaited reply.packet request.expectedMsgid ∧ confirms request.expectedMsgid = some flag
  | _ => False

section Confirmed

variable {platform : Vmc.Platform} {flag : Static} {events : List Event} {s s' : ScState}

private theorem confirmed_concat {event : Event} : Confirmed flag (events ++ [event]) ↔
    event.Confirms flag ∨ event ≠ .restarted ∧ Confirmed flag events := by
  constructor
  · rintro ⟨before, request, reply, after, hevents, hsince, hawaited, hconfirms⟩
    obtain rfl | ⟨after, last, rfl⟩ := List.eq_nil_or_concat after
    · obtain ⟨-, hlast⟩ := List.append_inj' hevents rfl
      obtain rfl := List.singleton_inj.1 hlast
      exact .inl ⟨hawaited, hconfirms⟩
    · rw [List.concat_eq_append] at hsince hevents
      rw [← List.cons_append, ← List.append_assoc] at hevents
      obtain ⟨rfl, hlast⟩ := List.append_inj' hevents rfl
      obtain rfl := List.singleton_inj.1 hlast
      rw [List.mem_append, not_or] at hsince
      refine .inr ⟨fun heq => hsince.2 (heq ▸ List.mem_singleton_self _), ?_⟩
      exact ⟨before, request, reply, after, rfl, hsince.1, hawaited, hconfirms⟩
  · rintro (hconfirms | ⟨hne, before, request, reply, after, rfl, hsince, hawaited, hconfirms⟩)
    · match event, hconfirms with
      | .exchanged request (.answered reply), ⟨hawaited, hconfirms⟩ =>
          exact ⟨events, request, reply, [], rfl, List.not_mem_nil, hawaited, hconfirms⟩
    · refine ⟨before, request, reply, after ++ [event], ?_, ?_, hawaited, hconfirms⟩
      · rw [List.append_assoc, List.cons_append]
      · rw [List.mem_append, not_or, List.mem_singleton]
        exact ⟨hsince, hne.symm⟩

private theorem ScState.restart_flag (hflag : group flag = .flags) :
    s.restart.statics flag = 0 := by
  cases flag with
  | isPowerModeActive | isBoardInfoSentToSc | isScActive => rfl
  | _ => cases hflag

private theorem ScState.restart_other {place : Static} (hplace : group place ≠ .flags) :
    s.restart.statics place = s.statics place := by
  cases place with
  | isPowerModeActive | isBoardInfoSentToSc | isScActive => exact absurd rfl hplace
  | _ => rfl

theorem Conversation.flag_ne_zero (h : Conversation platform .fresh events s)
    (hflag : group flag = .flags) : s.statics flag ≠ 0 ↔ Confirmed flag events := by
  induction h with
  | nil =>
      refine iff_of_false (not_not_intro rfl) ?_
      rintro ⟨before, request, reply, after, hevents, -⟩
      exact absurd hevents.symm (List.append_ne_nil_of_right_ne_nil _ (List.cons_ne_nil _ _))
  | exchanged h hmay outcome ih =>
      rw [confirmed_concat, ← ih]
      cases outcome with
      | busy | unsent | unanswered | flushed => simp [Event.Confirms, Request.after]
      | answered reply =>
          change parsed _ _ _ flag ≠ 0 ↔ _
          rw [parsed_flag _ hflag]
          change _ ↔ (_ ∧ _) ∨ _
          split
          · next hconfirms => exact iff_of_true (by decide) (.inl hconfirms)
          · next hother => simp [hother]
  | learnt h hlengths ih => exact ih
  | restarted h ih =>
      rw [confirmed_concat, ScState.restart_flag hflag]
      simp [Event.Confirms]

/-! ## What was announced -/

/-- A size response names a sensor request and the length of its payload. -/
def Event.announce (place : Static) (length : UInt8) : Event → UInt8
  | .exchanged request (.answered reply) =>
      if Awaited reply.packet request.expectedMsgid ∧
          request.expectedMsgid = msp432CommsVmcGetRespSizeResp ∧
          lengthPlace (reply.packet 5) = some place then reply.packet 6 + rawPayloadLength
      else length
  | _ => length

def announced (place : Static) (events : List Event) : UInt8 :=
  events.foldl (Event.announce place) 0

private theorem announced_concat {place : Static} {event : Event} :
    announced place (events ++ [event]) = event.announce place (announced place events) := by
  rw [announced, List.foldl_append]
  rfl

theorem Conversation.length (h : Conversation platform .fresh events s) {place : Static}
    (hplace : group place = .lengths) : s.statics place = (announced place events).toUInt32 := by
  induction h with
  | nil => rfl
  | exchanged h hmay outcome ih =>
      rw [announced_concat]
      cases outcome with
      | busy | unsent | unanswered | flushed => exact ih
      | answered reply =>
          change parsed _ _ _ place = _
          rw [parsed_length _ hplace, Event.announce, ih]
          split <;> rfl
  | learnt h hlengths ih => exact ih
  | restarted h ih =>
      rw [announced_concat, ScState.restart_other (hplace ▸ by decide)]
      exact ih

/-! ## What was read -/

section Readings

variable (readings : Reply → List SensorReading)

def Event.reported : Event → List SensorReading
  | .exchanged request (.answered reply) =>
      if Awaited reply.packet request.expectedMsgid ∧ isSensorResp request.expectedMsgid = true then
        readings reply
      else []
  | _ => []

def Carries (reply : Reply) : Prop :=
  reply.packet.slice commsPayloadStartIndex (reply.packet 4).toNat = payloadOf (readings reply)

private theorem lastReading_append (first second : List SensorReading) (id : UInt8) :
    lastReading (first ++ second) id = (lastReading second id).or (lastReading first id) := by
  rw [lastReading, List.map_append, lastWrite_append]
  rfl

private theorem group_slot (id : UInt8) : group (slot id) = .sensors := by
  unfold slot
  split <;> rfl

/-- A sensor's value is the last one of all packets, through updates too. -/
theorem Conversation.sensorValue (h : Conversation platform .fresh events s)
    (hcarries : ∀ request reply, Event.exchanged request (.answered reply) ∈ events →
      Awaited reply.packet request.expectedMsgid → isSensorResp request.expectedMsgid = true →
      Carries readings reply) (id : UInt8) :
    s.statics (slot id) =
      ((lastReading (events.flatMap (Event.reported readings)) id).map (kept id)).getD 0 := by
  induction h with
  | nil => rfl
  | exchanged h hmay outcome ih =>
      have hbefore := ih fun request reply hmem =>
        hcarries request reply (List.mem_append_left _ hmem)
      rw [List.flatMap_append, List.flatMap_singleton]
      cases outcome with
      | busy | unsent | unanswered | flushed =>
          change _ = ((lastReading (_ ++ []) id).map (kept id)).getD 0
          rw [List.append_nil]
          exact hbefore
      | answered reply =>
          change parsed _ _ _ (slot id) = _
          rw [parsed_sensors _ (group_slot id), Event.reported]
          split
          · next hawaited =>
            have hpayload := hcarries _ reply (List.mem_append_right _ (List.mem_singleton_self _))
              hawaited.1 hawaited.2
            rw [staticsAfter_updateSensors (readings reply) _ (by
              rw [UInt8.toNat_toUInt16]
              exact hpayload), updates_apply, lastWrite_kept, hbefore, lastReading_append]
            cases lastReading (readings reply) id <;> rfl
          · rw [List.append_nil]
            exact hbefore
  | learnt h hlengths ih => exact ih hcarries
  | restarted h ih =>
      have hother : group (slot id) ≠ .flags := group_slot id ▸ by decide
      rw [ScState.restart_other hother, List.flatMap_append, List.flatMap_singleton]
      change _ = ((lastReading (_ ++ []) id).map (kept id)).getD 0
      rw [List.append_nil]
      exact ih fun request reply hmem => hcarries request reply (List.mem_append_left _ hmem)

end Readings

/-! ## What is asked for -/

def responseTo (messageId : UInt8) : Option UInt8 :=
  if messageId = msp432CommsVmcActiveReq then some Comms.msp432CommsMsgGood
  else if messageId = msp432CommsVmcVersionPowermodeReq then
    some msp432CommsVmcVersionPowermodeResp
  else if messageId = msp432CommsVmcGetRespSizeReq then some msp432CommsVmcGetRespSizeResp
  else if messageId = scCommsTxBoardInfo then some scCommsRxBoardInfoResp
  else if messageId = scCommsTxI2cSnsr then some scCommsRxI2cSnsrResp
  else (sensorRequests.find? fun request => request.1 = messageId).map fun request => request.2.2

/-- A request that may be sent, told by the events before it alone. -/
structure Permitted (platform : Vmc.Platform) (before : List Event) (request : Request) : Prop where
  wired : platform ≠ .v80
  response : responseTo request.messageId = some request.expectedMsgid
  active : request.messageId = msp432CommsVmcActiveReq ↔ ¬ Confirmed .isScActive before
  version : request.messageId = msp432CommsVmcVersionPowermodeReq →
    ¬ Confirmed .isPowerModeActive before
  boardInfo : request.messageId = scCommsTxBoardInfo → ¬ Confirmed .isBoardInfoSentToSc before
  length : ∀ place expectedMsgid, (request.messageId, place, expectedMsgid) ∈ sensorRequests →
    request.expectedMsgLength = announced place before

theorem Conversation.v80 (h : Conversation .v80 .fresh events s) : s.statics .isScActive = 0 := by
  induction h with
  | nil => rfl
  | exchanged h hmay outcome ih =>
      cases hmay with
      | active hwired => exact absurd rfl hwired
      | versionPowermode hon | respSize hon | boardInfo hon | sensors hon | i2c hon =>
          exact absurd ih hon
  | learnt h hlengths ih => exact ih
  | restarted h ih => exact ScState.restart_flag rfl

theorem sensorRequests_cases {messageId expectedMsgid : UInt8} {place : Static}
    (h : (messageId, place, expectedMsgid) ∈ sensorRequests) :
    group place = .lengths ∧ responseTo messageId = some expectedMsgid ∧
      messageId ∉ [msp432CommsVmcActiveReq, msp432CommsVmcVersionPowermodeReq, scCommsTxBoardInfo] ∧
      lengthPlace messageId = some place := by
  simp only [sensorRequests, List.mem_cons, Prod.mk.injEq, List.not_mem_nil, or_false] at h
  obtain ⟨rfl, rfl, rfl⟩ | ⟨rfl, rfl, rfl⟩ | ⟨rfl, rfl, rfl⟩ := h <;> decide

private theorem not_sensorRequest {messageId expectedMsgid : UInt8} {place : Static} {p : Prop}
    (h : lengthPlace messageId = none)
    (hsensor : (messageId, place, expectedMsgid) ∈ sensorRequests) : p := by
  have hplace := (sensorRequests_cases hsensor).2.2.2
  rw [h] at hplace
  cases hplace

theorem MaySend.permitted {request : Request} (hmay : MaySend platform s request)
    (h : Conversation platform .fresh events s) : Permitted platform events request := by
  have hawake : s.statics .isScActive ≠ 0 →
      platform ≠ .v80 ∧ Confirmed .isScActive events := by
    intro hon
    refine ⟨?_, (h.flag_ne_zero rfl).1 hon⟩
    rintro rfl
    exact hon h.v80
  have hunset : ∀ {flag : Static}, group flag = .flags → s.statics flag = 0 →
      ¬ Confirmed flag events :=
    fun hflag hzero hconfirmed => (h.flag_ne_zero hflag).2 hconfirmed hzero
  have hother : ∀ {p : Prop} {first second : UInt8}, first ≠ second → first = second → p :=
    fun hne heq => absurd heq hne
  cases hmay with
  | active hwired hoff =>
      exact ⟨hwired, rfl, iff_of_true rfl (hunset rfl hoff), hother (by decide), hother (by decide),
        fun _ _ => not_sensorRequest rfl⟩
  | versionPowermode hon hunknown =>
      obtain ⟨hwired, hconfirmed⟩ := hawake hon
      exact ⟨hwired, rfl, iff_of_false (by decide) (not_not_intro hconfirmed),
        fun _ => hunset rfl hunknown, hother (by decide), fun _ _ => not_sensorRequest rfl⟩
  | respSize hon hpolled hunknown hsensor =>
      obtain ⟨hwired, hconfirmed⟩ := hawake hon
      have hne : msp432CommsVmcGetRespSizeReq ≠ msp432CommsVmcActiveReq ∧
          msp432CommsVmcGetRespSizeReq ≠ msp432CommsVmcVersionPowermodeReq ∧
          msp432CommsVmcGetRespSizeReq ≠ scCommsTxBoardInfo := by decide
      exact ⟨hwired, rfl, iff_of_false hne.1 (not_not_intro hconfirmed), hother hne.2.1,
        hother hne.2.2, fun _ _ => not_sensorRequest rfl⟩
  | boardInfo hon hunsent payloadLength payload =>
      obtain ⟨hwired, hconfirmed⟩ := hawake hon
      have hne : scCommsTxBoardInfo ≠ msp432CommsVmcActiveReq ∧
          scCommsTxBoardInfo ≠ msp432CommsVmcVersionPowermodeReq := by decide
      exact ⟨hwired, rfl, iff_of_false hne.1 (not_not_intro hconfirmed), hother hne.2,
        fun _ => hunset rfl hunsent, fun _ _ => not_sensorRequest rfl⟩
  | i2c hon hlisted payloadLength payload =>
      obtain ⟨hwired, hconfirmed⟩ := hawake hon
      have hne : scCommsTxI2cSnsr ≠ msp432CommsVmcActiveReq ∧
          scCommsTxI2cSnsr ≠ msp432CommsVmcVersionPowermodeReq ∧
          scCommsTxI2cSnsr ≠ scCommsTxBoardInfo := by decide
      exact ⟨hwired, rfl, iff_of_false hne.1 (not_not_intro hconfirmed), hother hne.2.1,
        hother hne.2.2, fun _ _ => not_sensorRequest rfl⟩
  | sensors hon hlisted hsensor =>
      obtain ⟨hwired, hconfirmed⟩ := hawake hon
      obtain ⟨hplace, hresponse, hothers, hlength⟩ := sensorRequests_cases hsensor
      simp only [List.mem_cons, List.not_mem_nil, or_false, not_or] at hothers
      refine ⟨hwired, hresponse, iff_of_false hothers.1 (not_not_intro hconfirmed),
        hother hothers.2.1, hother hothers.2.2, fun place _ hsame => ?_⟩
      have hlength' := (sensorRequests_cases hsame).2.2.2
      obtain rfl := Option.some.inj (hlength.symm.trans hlength')
      change UInt32.toUInt8 _ = _
      rw [h.length hplace]
      exact UInt8.toUInt8_toUInt32 _

theorem Conversation.permitted (h : Conversation platform .fresh events s)
    {before after : List Event} {request : Request} {outcome : Outcome}
    (hevents : events = before ++ .exchanged request outcome :: after) :
    Permitted platform before request := by
  induction h generalizing after with
  | nil => exact absurd hevents.symm (List.append_ne_nil_of_right_ne_nil _ (List.cons_ne_nil _ _))
  | exchanged h hmay last ih =>
      obtain rfl | ⟨after, event, rfl⟩ := List.eq_nil_or_concat after
      · obtain ⟨rfl, hlast⟩ := List.append_inj' hevents rfl
        cases hlast
        exact hmay.permitted h
      · rw [List.concat_eq_append, ← List.cons_append, ← List.append_assoc] at hevents
        exact ih (List.append_inj' hevents rfl).1
  | learnt h hlengths ih => exact ih hevents
  | restarted h ih =>
      obtain rfl | ⟨after, event, rfl⟩ := List.eq_nil_or_concat after
      · cases (List.append_inj' hevents rfl).2
      · rw [List.concat_eq_append, ← List.cons_append, ← List.append_assoc] at hevents
        exact ih (List.append_inj' hevents rfl).1

end Confirmed

end Vmr.Sc.Session
