import Vmr.Sc.Conversation

/-!
# The rounds of the task

Rounds and firmware updates follow each other in one task.  Between them the statics
are what the conversation so far has left, and in a round the line carries nothing
that does not continue it.
-/

namespace Vmr.Sc.Session

open Vmr.Lib Vmr.Sc.Comms Vmr.Sc.Uart

/-! ## A line -/

def boardInfoRequest (payloadLength : UInt8) (payload : Memory) : Request :=
  ⟨scCommsTxBoardInfo, payloadLength, payload, msp432CommsGeneralRespLen, scCommsRxBoardInfoResp⟩

/-- A line as the exchanges meet it; on a good one the controller answers what fits its buffer, and
the board's information does. -/
structure Line (txFifoThreshold : UInt32) (controller : List UInt8 → Reply)
    (step : ScWorld → (op : ScOp) → op.Answer → ScWorld → Prop) (good : Prop) : Prop where
  steps : OverLine step
  exchange : ∀ (P : List LineEvent → Prop) (w : ScWorld) (request : Request), w.Quiet →
    (∀ outcome, P (w.log ++ request.events outcome)) →
    Prog.Safe step (Guarded P good)
      (fun _ w' => ∃ outcome,
        (good → request.Fits → outcome = .answered (controller request.frame)) ∧
        Exchanged request w w' outcome) (exchange txFifoThreshold request) w
  boardInfo : ∀ w (answer : Int32 × Memory) w', step w .fetchBoardinfo answer w' → good →
    (boardInfoRequest answer.1.toInt8.toUInt8 answer.2).Fits

def goodReply : Reply where
  buffer := fun a =>
    [Comms.escapeChar, Comms.stx, Comms.msp432CommsMsgGood, 0, 2, 0, 0, 0, 1, Comms.escapeChar,
      etx].getD a 0
  count := 11
  long := by decide
  fits := by decide
  accepted := by decide +kernel

private theorem anyLine (txFifoThreshold : UInt32) (controller : List UInt8 → Reply) :
    Line txFifoThreshold controller scStep False where
  steps := fun _ _ _ _ => id
  exchange _ _ request hquiet hlog :=
    (safe_exchange txFifoThreshold request hquiet hlog).weaken
      fun _ _ ⟨outcome, _, hend⟩ => ⟨outcome, False.elim, hend⟩
  boardInfo _ _ _ _ := False.elim

/-- A controller that gives the awaited response to whatever may be asked, and for each sensor
request the length of its payload. -/
structure Responsive (platform : Vmc.Platform) (controller : List UInt8 → Reply) : Prop where
  awaited : ∀ s request, MaySend platform s request → request.Fits →
    Awaited (controller request.frame).packet request.expectedMsgid
  sized : ∀ messageId ∈ sensorRequests.map Prod.fst,
    (controller (lengthRequest messageId).frame).packet 5 = messageId ∧
      (controller (lengthRequest messageId).frame).packet 6 + rawPayloadLength ≠ 0

def Recorded (platform : Vmc.Platform) (log : List LineEvent) : Prop :=
  ∃ events s, Conversation platform .fresh events s ∧ log = events.flatMap Event.wire

structure Settled (platform : Vmc.Platform) (w : ScWorld) : Prop where
  conversation : ∃ events, Conversation platform .fresh events w.toScState ∧
    w.log = events.flatMap Event.wire
  quiet : w.Quiet

/-- Settled, and what was known before is known. -/
structure Continued (platform : Vmc.Platform) (w w' : ScWorld) : Prop
    extends Settled platform w' where
  flags : ∀ flag, group flag = .flags → w.statics flag ≠ 0 → w'.statics flag ≠ 0
  lengths : w.getSensorRespLen = true → w'.getSensorRespLen = true

section Rounds

variable {α : Type} {platform : Vmc.Platform} {txFifoThreshold : UInt32}
  {controller : List UInt8 → Reply}
  {step : ScWorld → (op : ScOp) → op.Answer → ScWorld → Prop} {good : Prop} {w w' w'' : ScWorld}
  {request : Request}

theorem Settled.recorded (h : Settled platform w) : Recorded platform w.log := by
  obtain ⟨events, hconversation, hlog⟩ := h.conversation
  exact ⟨events, _, hconversation, hlog⟩

theorem Settled.refl (h : Settled platform w) : Continued platform w w := ⟨h, fun _ _ => id, id⟩

theorem Continued.trans (h : Continued platform w w') (h' : Continued platform w' w'') :
    Continued platform w w'' :=
  ⟨h'.toSettled, fun flag hflag hset => h'.flags flag hflag (h.flags flag hflag hset),
    fun hknown => h'.lengths (h.lengths hknown)⟩

abbrev Talks (step : ScWorld → (op : ScOp) → op.Answer → ScWorld → Prop) (good : Prop)
    (platform : Vmc.Platform) (post : α → ScWorld → Prop) (p : ScProg α) (w : ScWorld) : Prop :=
  Prog.Safe step (Guarded (Recorded platform) good) post p w

private theorem after_flag {s : ScState} {flag : Static} (hflag : group flag = .flags)
    (h : s.statics flag ≠ 0) (outcome : Outcome) : (request.after s outcome).statics flag ≠ 0 := by
  cases outcome with
  | busy | unsent | unanswered | flushed => exact h
  | answered reply =>
      change parsed _ _ _ _ ≠ 0
      rw [parsed_flag _ hflag]
      split
      · decide
      · exact h

private theorem after_getSensorRespLen (s : ScState) (outcome : Outcome) :
    (request.after s outcome).getSensorRespLen = s.getSensorRespLen := by
  cases outcome <;> rfl

theorem Line.safe_exchange (hline : Line txFifoThreshold controller step good)
    (h : Settled platform w) (hmay : MaySend platform w.toScState request) :
    Talks step good platform
      (fun _ w' => Continued platform w w' ∧ w'.getSensorRespLen = w.getSensorRespLen ∧
        (good → request.Fits →
          w'.toScState = request.after w.toScState (.answered (controller request.frame))))
      (Session.exchange txFifoThreshold request) w := by
  obtain ⟨events, hconversation, hlog⟩ := h.conversation
  have hnext : ∀ outcome, w.log ++ request.events outcome =
      (events ++ [Event.exchanged request outcome]).flatMap Event.wire := by
    intro outcome
    rw [hlog, List.flatMap_append, List.flatMap_singleton]
    rfl
  have hafter := fun outcome => hconversation.exchanged hmay outcome
  refine (hline.exchange _ w request h.quiet fun outcome =>
    ⟨_, _, hafter outcome, hnext outcome⟩).weaken ?_
  rintro _ w' ⟨outcome, hgood, rxBuf, rfl⟩
  have hsame := @after_getSensorRespLen request w.toScState outcome
  refine ⟨⟨⟨⟨_, hafter outcome, hnext outcome⟩, ⟨h.quiet.pending, h.quiet.data⟩⟩, ?_, hsame.trans⟩,
    hsame, ?_⟩
  · exact fun flag hflag hset => after_flag hflag hset outcome
  · intro hline hfits
    rw [hgood hline hfits]

private theorem Responsive.confirmed (hresponsive : Responsive platform controller) {s : ScState}
    (hmay : MaySend platform s request) (hfits : request.Fits) {flag : Static}
    (hflag : group flag = .flags) (hconfirms : confirms request.expectedMsgid = some flag) :
    (request.after s (.answered (controller request.frame))).statics flag ≠ 0 := by
  change parsed _ _ _ _ ≠ 0
  rw [parsed_flag _ hflag, if_pos ⟨hresponsive.awaited _ _ hmay hfits, hconfirms⟩]
  decide

private theorem safe_isSet (hline : Line txFifoThreshold controller step good) {place : Static}
    {f : Bool → ScProg α} {post : α → ScWorld → Prop} (hlog : Recorded platform w.log)
    (hf : Talks step good platform post (f (decide (w.statics place ≠ 0))) w) :
    Talks step good platform post (isSet place >>= f) w :=
  @safe_read _ _ _ _ _ (.readStatic place) (w.statics place) _ _ (fun _ _ => hline.steps _ _ _ _)
    hlog trivial hf

/-! ## The requests -/

abbrev Awake (w : ScWorld) : Prop := w.statics .isScActive ≠ 0

private theorem Continued.awake (h : Continued platform w w') (hawake : Awake w) : Awake w' :=
  h.flags .isScActive rfl hawake

private theorem safe_sensorExchange (hline : Line txFifoThreshold controller step good)
    (h : Settled platform w) (hawake : Awake w) {messageId expectedMsgid : UInt8} {length : Static}
    (hlisted : Lists platform messageId)
    (hsensor : (messageId, length, expectedMsgid) ∈ sensorRequests) :
    Talks step good platform (fun _ => Continued platform w)
      (sensorExchange txFifoThreshold messageId length expectedMsgid) w := by
  refine @safe_read _ _ _ _ _ (.readStatic length) (w.statics length) _ _
    (fun _ _ => hline.steps _ _ _ _) h.recorded trivial ?_
  exact (hline.safe_exchange h (.sensors hawake hlisted hsensor)).weaken fun _ _ => And.left

private theorem safe_i2cExchange (hline : Line txFifoThreshold controller step good)
    (h : Settled platform w) (hawake : Awake w) (hlisted : Lists platform scCommsTxI2cSnsr) :
    Talks step good platform (fun _ => Continued platform w) (i2cExchange txFifoThreshold) w := by
  refine ⟨⟨h.recorded, fun _ => trivial⟩, fun (answer : UInt8 × Memory) w' hstep => ?_⟩
  obtain rfl : w' = w := hline.steps _ _ _ _ hstep
  exact (hline.safe_exchange h (.i2c hawake hlisted answer.1 answer.2)).weaken fun _ _ => And.left

private theorem safe_listed (hline : Line txFifoThreshold controller step good)
    (h : Settled platform w)
    (hawake : Awake w) {messageId : UInt8} (hlisted : Lists platform messageId) :
    Talks step good platform (fun _ => Continued platform w)
      (vmcScCommsTxRx txFifoThreshold messageId) w := by
  have hsensor : ∀ {length : Static} {expectedMsgid : UInt8},
      (messageId, length, expectedMsgid) ∈ sensorRequests →
      Talks step good platform (fun _ => Continued platform w)
        (sensorExchange txFifoThreshold messageId length expectedMsgid) w :=
    safe_sensorExchange hline h hawake hlisted
  have hi2c : messageId = scCommsTxI2cSnsr →
      Talks step good platform (fun _ => Continued platform w) (i2cExchange txFifoThreshold) w :=
    fun hid => safe_i2cExchange hline h hawake (hid ▸ hlisted)
  obtain ⟨messageIds, hids, hmem⟩ := hlisted
  cases platform with
  | vck5000 =>
      cases hids
      simp only [List.mem_cons, List.not_mem_nil, or_false] at hmem
      obtain rfl | rfl | rfl | rfl := hmem
      · exact hsensor (by simp [sensorRequests])
      · exact hsensor (by simp [sensorRequests])
      · exact hsensor (by simp [sensorRequests])
      · exact hi2c rfl
  | v70 =>
      cases hids
      obtain rfl := List.mem_singleton.1 hmem
      exact hi2c rfl
  | v80 => cases hids

private theorem safe_messages (hline : Line txFifoThreshold controller step good)
    (h : Settled platform w)
    (hawake : Awake w) {messageIds : List UInt8}
    (hlisted : ∀ messageId ∈ messageIds, Lists platform messageId) :
    Talks step good platform (fun _ => Continued platform w)
      (vmcScUartMessages txFifoThreshold messageIds) w := by
  induction messageIds generalizing w with
  | nil => exact h.refl
  | cons messageId messageIds ih =>
      obtain ⟨hfirst, hrest⟩ := List.forall_mem_cons.1 hlisted
      refine (safe_listed hline h hawake hfirst).bind fun _ w₁ h₁ => ?_
      refine @safe_set _ _ _ _ _ (.vTaskDelay 500) w₁ _ _ (fun _ _ => hline.steps _ _ _ _)
        h₁.recorded trivial fun _ => ?_
      exact (ih h₁.toSettled (h₁.awake hawake) hrest).weaken fun _ _ => h₁.trans

private theorem safe_messagesAll (hline : Line txFifoThreshold controller step good)
    (h : Settled platform w) (hawake : Awake w) :
    Talks step good platform (fun _ => Continued platform w)
      (vmcScUartMessagesAll txFifoThreshold platform) w := by
  unfold vmcScUartMessagesAll
  split
  · exact h.refl
  · next messageIds hids =>
      exact safe_messages hline h hawake fun messageId hmem => ⟨messageIds, hids, hmem⟩

private theorem safe_confirmed (hline : Line txFifoThreshold controller step good)
    (hresponsive : good → Responsive platform controller) (h : Settled platform w)
    (hmay : MaySend platform w.toScState request) (hfits : good → request.Fits)
    {flag : Static} (hflag : group flag = .flags)
    (hconfirms : confirms request.expectedMsgid = some flag) :
    Talks step good platform
      (fun _ w' => Continued platform w w' ∧ (good → w'.statics flag ≠ 0))
      (exchange txFifoThreshold request) w := by
  refine (hline.safe_exchange h hmay).weaken ?_
  rintro _ w' ⟨hcontinued, -, hanswered⟩
  refine ⟨hcontinued, fun hgood => ?_⟩
  rw [hanswered hgood (hfits hgood)]
  exact (hresponsive hgood).confirmed hmay (hfits hgood) hflag hconfirms

private theorem safe_untilSet (hline : Line txFifoThreshold controller step good)
    (h : Settled platform w)
    {flag : Static} {p : ScProg Unit}
    (hp : w.statics flag = 0 → Talks step good platform
      (fun _ w' => Continued platform w w' ∧ (good → w'.statics flag ≠ 0)) p w) :
    Talks step good platform
      (fun _ w' => Continued platform w w' ∧ (good → w'.statics flag ≠ 0))
      (do
        let isSet ← isSet flag
        if isSet = true then return () else p) w := by
  refine safe_isSet hline h.recorded ?_
  split
  · next hset => exact ⟨h.refl, fun _ => of_decide_eq_true hset⟩
  · next hunset => exact hp (of_not_not fun hne => hunset (decide_eq_true hne))

private theorem safe_versionPowerMode (hline : Line txFifoThreshold controller step good)
    (hresponsive : good → Responsive platform controller) (h : Settled platform w)
    (hawake : Awake w) :
    Talks step good platform
      (fun _ w' => Continued platform w w' ∧ (good → w'.statics .isPowerModeActive ≠ 0))
      (vmcGetScVersionPowerMode txFifoThreshold) w :=
  safe_untilSet hline h fun hunknown =>
    safe_confirmed hline hresponsive h (.versionPowermode hawake hunknown) (fun _ => by decide)
      rfl rfl

private theorem safe_boardInfo (hline : Line txFifoThreshold controller step good)
    (hresponsive : good → Responsive platform controller) (h : Settled platform w)
    (hawake : Awake w) :
    Talks step good platform
      (fun _ w' => Continued platform w w' ∧ (good → w'.statics .isBoardInfoSentToSc ≠ 0))
      (vmcSendBoardInfo txFifoThreshold) w := by
  refine safe_untilSet hline h fun hunsent => ?_
  refine ⟨⟨h.recorded, fun _ => trivial⟩, fun (answer : Int32 × Memory) w' hstep => ?_⟩
  have hfits := hline.boardInfo _ _ _ hstep
  obtain rfl : w' = w := hline.steps _ _ _ _ hstep
  exact safe_confirmed hline hresponsive h (.boardInfo hawake hunsent _ _) hfits rfl rfl

private theorem safe_sensorLength (hline : Line txFifoThreshold controller step good)
    (hresponsive : good → Responsive platform controller) (h : Settled platform w)
    (hawake : Awake w) (hpolled : hasScComms platform = true)
    (hunknown : w.getSensorRespLen = false)
    {messageId expectedMsgid : UInt8} {place : Static}
    (hsensor : (messageId, place, expectedMsgid) ∈ sensorRequests) :
    Talks step good platform
      (fun _ w' => Continued platform w w' ∧ w'.getSensorRespLen = false ∧
        (good → w'.statics place ≠ 0 ∧ ∀ other, group other = .lengths → w.statics other ≠ 0 →
          w'.statics other ≠ 0))
      (getSensorResponseLength txFifoThreshold messageId) w := by
  have hmem : messageId ∈ sensorRequests.map Prod.fst := List.mem_map_of_mem hsensor
  have hmay : MaySend platform w.toScState (lengthRequest messageId) :=
    .respSize hawake hpolled hunknown hmem
  refine (hline.safe_exchange h hmay).weaken ?_
  rintro _ w' ⟨hcontinued, hsame, hanswered⟩
  refine ⟨hcontinued, hsame.trans hunknown, fun hgood => ?_⟩
  obtain ⟨hplace, -, -, hlength⟩ := sensorRequests_cases hsensor
  obtain ⟨hnamed, hsized⟩ := (hresponsive hgood).sized messageId hmem
  have hfits : ∀ messageId ∈ sensorRequests.map Prod.fst, (lengthRequest messageId).Fits := by
    decide +kernel
  have hawaited := (hresponsive hgood).awaited _ _ hmay (hfits _ hmem)
  have hset : ((controller (lengthRequest messageId).frame).packet 6 +
      rawPayloadLength).toUInt32 ≠ 0 := fun hzero => hsized (UInt8.toUInt32_inj.1 hzero)
  rw [hanswered hgood (hfits _ hmem)]
  refine ⟨?_, fun other hother hbefore => ?_⟩
  · change parsed _ _ _ place ≠ 0
    rw [parsed_length _ hplace, if_pos ⟨hawaited, rfl, by rw [hnamed, hlength]⟩]
    exact hset
  · change parsed _ _ _ other ≠ 0
    rw [parsed_length _ hother]
    split
    · exact hset
    · exact hbefore

private theorem safe_respSize (hline : Line txFifoThreshold controller step good)
    (hresponsive : good → Responsive platform controller) (h : Settled platform w)
    (hawake : Awake w) (hpolled : hasScComms platform = true)
    (hunknown : w.getSensorRespLen = false) :
    Talks step good platform
      (fun _ w' => Continued platform w w' ∧ (good → w'.getSensorRespLen = true))
      (respSizeExchanges txFifoThreshold) w := by
  refine (safe_sensorLength hline hresponsive h hawake hpolled hunknown (.head _)).bind ?_
  rintro _ w₁ ⟨h₁, hunknown₁, hvolt⟩
  refine (safe_sensorLength hline hresponsive h₁.toSettled (h₁.awake hawake) hpolled hunknown₁
    (.tail _ (.head _))).bind ?_
  rintro _ w₂ ⟨h₂, hunknown₂, hpower⟩
  refine (safe_sensorLength hline hresponsive h₂.toSettled (h₂.awake (h₁.awake hawake)) hpolled
    hunknown₂ (.tail _ (.tail _ (.head _)))).bind ?_
  rintro _ w₃ ⟨h₃, hunknown₃, htemp⟩
  have hcontinued := (h₁.trans h₂).trans h₃
  refine safe_isSet hline h₃.recorded ?_
  refine safe_isSet hline h₃.recorded (safe_isSet hline h₃.recorded ?_)
  split
  · next hall =>
    refine ⟨⟨h₃.recorded, fun _ => trivial⟩, fun _ w₄ hstep => ?_⟩
    obtain rfl : w₄ = { w₃ with getSensorRespLen := true } := hline.steps _ _ _ _ hstep
    obtain ⟨hvolt, hpower, htemp⟩ := hall
    obtain ⟨events, hconversation, hlog⟩ := h₃.conversation
    have hlearnt := hconversation.learnt
      ⟨of_decide_eq_true hvolt, of_decide_eq_true hpower, of_decide_eq_true htemp⟩
    exact ⟨⟨⟨⟨events, hlearnt, hlog⟩, ⟨h₃.quiet.pending, h₃.quiet.data⟩⟩, hcontinued.flags,
      fun _ => rfl⟩, fun _ => rfl⟩
  · next hall =>
    refine ⟨hcontinued, fun hgood => absurd ?_ hall⟩
    have hvolt₂ := (hpower hgood).2 _ rfl (hvolt hgood).1
    exact ⟨decide_eq_true ((htemp hgood).2 _ rfl hvolt₂),
      decide_eq_true ((htemp hgood).2 _ rfl (hpower hgood).1), decide_eq_true (htemp hgood).1⟩

private theorem safe_poll (hline : Line txFifoThreshold controller step good)
    (hresponsive : good → Responsive platform controller) (h : Settled platform w)
    (hawake : Awake w) :
    Talks step good platform
      (fun _ w' => Continued platform w w' ∧
        (good → hasScComms platform = true → w'.getSensorRespLen = true))
      (vmcPollScSensors txFifoThreshold platform) w := by
  unfold vmcPollScSensors
  split
  · next hpolled =>
    refine @safe_read _ _ _ _ _ .snsrRespStatus w.getSensorRespLen _ _
      (fun _ _ => hline.steps _ _ _ _) h.recorded trivial ?_
    split
    · next hknown => exact ⟨h.refl, fun _ _ => hknown⟩
    · next hunknown =>
      refine (safe_respSize hline hresponsive h hawake hpolled
        (eq_false_of_ne_true hunknown)).weaken ?_
      exact fun _ _ hend => ⟨hend.1, fun hgood _ => hend.2 hgood⟩
  · next hnone => exact ⟨h.refl, fun _ hpolled => absurd hpolled hnone⟩

/-! ## The round -/

private theorem safe_active (hline : Line txFifoThreshold controller step good)
    (hresponsive : good → Responsive platform controller) (h : Settled platform w)
    (hwired : platform ≠ .v80) (retries : Nat) :
    Talks step good platform
      (fun _ w' => Continued platform w w' ∧ (good → 0 < retries → Awake w'))
      (scActiveRounds txFifoThreshold retries) w := by
  induction retries generalizing w with
  | zero => exact ⟨h.refl, fun _ hnone => absurd hnone (Nat.lt_irrefl 0)⟩
  | succ retries ih =>
      refine safe_isSet hline h.recorded ?_
      split
      · next hset => exact ⟨h.refl, fun _ _ => of_decide_eq_true hset⟩
      · next hunset =>
        have hoff := of_not_not fun hne => hunset (decide_eq_true hne)
        refine @safe_set _ _ _ _ _ (.vTaskDelay 1000) w _ _ (fun _ _ => hline.steps _ _ _ _)
          h.recorded trivial fun _ => ?_
        refine @safe_set _ _ _ _ _ (.setActiveRespLen _) _ _ _ (fun _ _ => hline.steps _ _ _ _)
          h.recorded trivial fun _ => ?_
        have hready : Settled platform { w with vmcActiveRespLen := msp432CommsGeneralRespLen } :=
          ⟨h.conversation, ⟨h.quiet.pending, h.quiet.data⟩⟩
        have hexchange := safe_confirmed hline hresponsive hready (.active hwired hoff)
          (fun _ => by decide) rfl rfl
        refine Prog.Safe.bind (@safe_read _ _ _ _ _ .activeRespLen msp432CommsGeneralRespLen _ _
          (fun _ _ => hline.steps _ _ _ _) hready.recorded trivial hexchange) ?_
        rintro _ w₁ ⟨h₁, hset⟩
        refine (ih h₁.toSettled).weaken ?_
        rintro _ w₂ ⟨h₂, -⟩
        exact ⟨⟨h₂.toSettled,
          fun flag hflag hbefore => h₂.flags flag hflag (h₁.flags flag hflag hbefore),
          fun hknown => h₂.lengths (h₁.lengths hknown)⟩, fun hgood _ => h₂.awake (hset hgood)⟩

private theorem safe_isReady (hline : Line txFifoThreshold controller step good)
    (hresponsive : good → Responsive platform controller) (h : Settled platform w) :
    Talks step good platform
      (fun ready w' => Continued platform w w' ∧ (ready = true → Awake w') ∧
        (good → platform ≠ .v80 → ready = true))
      (clVmcScIsReady txFifoThreshold platform) w := by
  have hactive : Talks step good platform
      (fun _ w' => Continued platform w w' ∧ (good → platform ≠ .v80 → Awake w'))
      (clVmcScActive txFifoThreshold platform) w := by
    unfold clVmcScActive
    split
    · next hnone => exact ⟨h.refl, fun _ hwired => absurd hnone hwired⟩
    · next hwired =>
      refine (safe_active hline hresponsive h hwired _).weaken ?_
      exact fun _ _ hend => ⟨hend.1, fun hgood _ => hend.2 hgood (by decide)⟩
  refine hactive.bind fun _ w' h' => ?_
  refine @safe_isSet _ _ _ _ _ _ _ hline .isScActive .ret _ h'.1.recorded ?_
  refine ⟨h'.1, fun hon => of_decide_eq_true hon, fun hgood hwired => ?_⟩
  exact decide_eq_true (show w'.statics .isScActive ≠ 0 from h'.2 hgood hwired)

/-- All that can be known is known. -/
structure Complete (platform : Vmc.Platform) (w : ScWorld) : Prop where
  flags : ∀ flag, group flag = .flags → w.statics flag ≠ 0
  lengths : hasScComms platform = true → w.getSensorRespLen = true

/-- A round continues the conversation; over a good line it leaves nothing open. -/
theorem safe_round (hline : Line txFifoThreshold controller step good)
    (hresponsive : good → Responsive platform controller) (h : Settled platform w) :
    Talks step good platform
      (fun _ w' => Continued platform w w' ∧ (good → platform ≠ .v80 → Complete platform w'))
      (clVmcScTxRxData txFifoThreshold platform) w := by
  refine (safe_isReady hline hresponsive h).bind ?_
  rintro ready w₁ ⟨h₁, hawake, hready⟩
  split
  · next hon =>
    have hawake₁ := hawake hon
    refine (safe_versionPowerMode hline hresponsive h₁.toSettled hawake₁).bind ?_
    rintro _ w₂ ⟨h₂, hversion⟩
    refine (safe_poll hline hresponsive h₂.toSettled (h₂.awake hawake₁)).bind ?_
    rintro _ w₃ ⟨h₃, hlengths⟩
    have hawake₃ := h₃.awake (h₂.awake hawake₁)
    refine (safe_boardInfo hline hresponsive h₃.toSettled hawake₃).bind ?_
    rintro _ w₄ ⟨h₄, hboard⟩
    refine (safe_messagesAll hline h₄.toSettled (h₄.awake hawake₃)).weaken ?_
    intro _ w₅ h₅
    refine ⟨h₁.trans (h₂.trans (h₃.trans (h₄.trans h₅))), fun hgood _ => ⟨fun flag hflag => ?_, ?_⟩⟩
    · cases flag with
      | isScActive => exact h₅.awake (h₄.awake hawake₃)
      | isPowerModeActive =>
          exact (h₃.trans (h₄.trans h₅)).flags _ hflag (hversion hgood)
      | isBoardInfoSentToSc => exact h₅.flags _ hflag (hboard hgood)
      | _ => cases hflag
    · exact fun hpolled => h₅.lengths (h₄.lengths (hlengths hgood hpolled))
  · next hoff => exact ⟨h₁, fun hgood hwired => absurd (hready hgood hwired) hoff⟩

end Rounds

/-! ## The task -/

inductive TaskStep
  | round
  | scfwUpdate

/-- `cl_vmc_sc_comms_func`: rounds, and updates of the firmware between them. -/
def commsTask (txFifoThreshold : UInt32) (platform : Vmc.Platform) :
    TransitionSystem ScWorld TaskStep where
  init w := w.toScState = .fresh ∧ w.Quiet ∧ w.log = []
  step w label w' :=
    match label with
    | .round => Prog.Returns scStep w (clVmcScTxRxData txFifoThreshold platform) () w'
    | .scfwUpdate => w' = { w with toScState := w.restart, log := w.log ++ [.updated] }

section Task

variable {platform : Vmc.Platform} {txFifoThreshold : UInt32} {w : ScWorld}

theorem safe_anyRound (h : Settled platform w) :
    Talks scStep False platform (fun _ => Continued platform w)
      (clVmcScTxRxData txFifoThreshold platform) w :=
  (safe_round (anyLine txFifoThreshold fun _ => goodReply) False.elim h).weaken fun _ _ => And.left

theorem settled_of_reachable (h : (commsTask txFifoThreshold platform).Reachable w) :
    Settled platform w := by
  refine h.invariant ⟨?_, ?_⟩
  · rintro w ⟨hfresh, hquiet, hlog⟩
    exact ⟨⟨[], hfresh ▸ .nil, hlog⟩, hquiet⟩
  · rintro w label w' hbefore hstep
    cases label with
    | round => exact ((safe_anyRound hbefore).returns hstep).toSettled
    | scfwUpdate =>
        obtain rfl : w' = { w with toScState := w.restart, log := w.log ++ [.updated] } := hstep
        obtain ⟨events, hconversation, hlog⟩ := hbefore.conversation
        refine ⟨⟨_, hconversation.restarted, ?_⟩, ⟨hbefore.quiet.pending, hbefore.quiet.data⟩⟩
        rw [List.flatMap_append, ← hlog]
        rfl

/-- Rounds and updates keep to the conversation, at every moment, and between them the statics are
what it has left and no packet is pending. -/
theorem conversation_of_reachable (h : (commsTask txFifoThreshold platform).Reachable w) :
    Settled platform w ∧
      ∀ w', Prog.Visits scStep w (clVmcScTxRxData txFifoThreshold platform) w' →
        Recorded platform w'.log := by
  have hsettled := settled_of_reachable h
  refine ⟨hsettled, fun w' hvisits => ?_⟩
  exact (safe_anyRound hsettled).visits (fun _ _ => And.left)
    (fun _ _ hend => hend.toSettled.recorded) hvisits

/-- The flags say what was confirmed since the last update and the lengths what was announced, and
everything was asked for that had to be known, in order, and only once. -/
theorem permitted_of_reachable (h : (commsTask txFifoThreshold platform).Reachable w) :
    ∃ events : List Event, w.log = events.flatMap Event.wire ∧
      (∀ flag, group flag = .flags → (w.statics flag ≠ 0 ↔ Confirmed flag events)) ∧
      (∀ place, group place = .lengths → w.statics place = (announced place events).toUInt32) ∧
      ∀ (before : List Event) request outcome after,
        events = before ++ .exchanged request outcome :: after →
        Permitted platform before request := by
  obtain ⟨events, hconversation, hlog⟩ := (settled_of_reachable h).conversation
  exact ⟨events, hlog, fun _ => hconversation.flag_ne_zero, fun _ => hconversation.length,
    fun _ _ _ _ => hconversation.permitted⟩

/-- What a sensor shows of a reading: all of its bits for the current of `VCCINT`, and sixteen for
every other id. -/
def shown (id : UInt8) (value : SensorBytes) : Nat :=
  if id = eScVccintI then value.number else value.number % 2 ^ 16

/-- Every sensor shows the reading it was last reported with. -/
theorem sensorValue_of_reachable (h : (commsTask txFifoThreshold platform).Reachable w)
    (readings : Reply → List SensorReading) :
    ∃ events : List Event, w.log = events.flatMap Event.wire ∧
      ((∀ request reply, Event.exchanged request (.answered reply) ∈ events →
        Awaited reply.packet request.expectedMsgid → isSensorResp request.expectedMsgid = true →
        Carries readings reply) → ∀ id, (w.statics (slot id)).toNat =
          ((lastReading (events.flatMap (Event.reported readings)) id).map (shown id)).getD 0) := by
  obtain ⟨events, hconversation, hlog⟩ := (settled_of_reachable h).conversation
  refine ⟨events, hlog, fun hcarries id => ?_⟩
  rw [hconversation.sensorValue readings hcarries id]
  cases lastReading (events.flatMap (Event.reported readings)) id with
  | none => rfl
  | some value => exact toNat_kept id value

end Task

/-! ## A run -/

def heard (controller : List UInt8 → Reply) (w : ScWorld) : Option Reply :=
  match w.log.getLast? with
  | some (.sent frame) => some (controller frame)
  | _ => none

section Answer

variable (controller : List UInt8 → Reply)

def lineAnswer (w : ScWorld) : (op : UartOp) → Option (op.Answer × ScWorld)
  | .xSemaphoreTake _ => some (true, w)
  | .xSemaphoreGive _ => some (true, w)
  | .xUartPsvRecv _ size => some ((0 : UInt32), { w with log := w.log ++ [.awaits size] })
  | .xUartPsvSend bytes size =>
      some ((), { w with log := w.log ++ [.sent (bytes.slice 0 size.toNat)] })
  | .txEvent => some (⟨true, false⟩, w)
  | .rxEvent _ =>
      some (⟨true, false⟩, { w with rxBuf := (heard controller w).elim w.rxBuf Reply.buffer })
  | .receivedBytes => some ((heard controller w).elim 0 Reply.count, w)
  | .rxByte index => some (w.rxBuf index, w)
  | .packetReceived size => some ((), w.take size)
  | .configAssert holds => if holds then some ((), w) else none
  | .uartEnableInterrupt => some ((), w)
  | .uartDisableInterrupt => some ((), w)
  | .secureMemset .rxBuf value size =>
      some ((), { w with rxBuf := fun a => if a < size.toNat then value else w.rxBuf a })
  | .secureMemset _ _ _ => some ((), w)

def scAnswer (w : ScWorld) : (op : ScOp) → Option (op.Answer × ScWorld)
  | .uart op => lineAnswer controller w op
  | .scData (.read index) => some (w.gScData index, w)
  | .scData (.write place value) =>
      some ((), { w with statics := Function.update w.statics place value })
  | .isPacketReceived => some (w.isPacketReceived, w)
  | .clearPacketReceived => some ((), { w with isPacketReceived := false })
  | .clearScData => some ((), { w with gScData := cleared w.gScData })
  | .readStatic place => some (w.statics place, w)
  | .snsrRespStatus => some (w.getSensorRespLen, w)
  | .setSnsrRespStatus => some ((), { w with getSensorRespLen := true })
  | .activeRespLen => some (w.vmcActiveRespLen, w)
  | .setActiveRespLen value => some ((), { w with vmcActiveRespLen := value })
  | .asdmSendI2cSensorsSc => some ((0, fun _ => 0), w)
  | .fetchBoardinfo => some ((0, fun _ => 0), w)
  | .vTaskDelay _ => some ((), w)

end Answer

theorem scStep_scAnswer (controller : List UInt8 → Reply) (w : ScWorld) (op : ScOp)
    (answer : op.Answer × ScWorld) (h : scAnswer controller w op = some answer) :
    scStep w op answer.1 answer.2 := by
  cases op with
  | uart op =>
      cases op with
      | configAssert holds =>
          change (if holds = true then some ((), w) else none) = some answer at h
          split at h
          · next hholds =>
            cases h
            exact ⟨hholds, rfl⟩
          · cases h
      | secureMemset buf value size =>
          cases buf with
          | rxBuf | rcvBufr | buff =>
              cases h
              exact rfl
      | xUartPsvRecv | rxEvent =>
          cases h
          exact ⟨_, rfl⟩
      | rxByte =>
          cases h
          exact ⟨rfl, rfl⟩
      | _ =>
          cases h
          exact rfl
  | scData access =>
      cases access with
      | read index =>
          cases h
          exact ⟨rfl, rfl⟩
      | write place value =>
          cases h
          exact rfl
  | isPacketReceived | readStatic | snsrRespStatus | activeRespLen =>
      cases h
      exact ⟨rfl, rfl⟩
  | _ =>
      cases h
      exact rfl

def startWorld : ScWorld := ⟨.fresh, msp432CommsGeneralRespLen, fun _ => 0, fun _ => 0, false, []⟩

theorem exists_awake {platform : Vmc.Platform} (hwired : platform ≠ .v80) :
    ∃ w, (commsTask 64 platform).Reachable w ∧ w.statics .isScActive = 1 ∧
      w.statics .isPowerModeActive = 0 := by
  have hrun : ((Prog.answers (scAnswer fun _ => goodReply) (clVmcScTxRxData 64 platform)
      startWorld).map fun result =>
      decide (result.2.statics .isScActive = 1 ∧ result.2.statics .isPowerModeActive = 0)) =
        some true := by
    cases platform with
    | vck5000 | v70 => decide +kernel
    | v80 => exact absurd rfl hwired
  obtain ⟨⟨⟨⟩, w⟩, hresult, hflags⟩ := Option.map_eq_some_iff.1 hrun
  obtain ⟨hon, hunknown⟩ := of_decide_eq_true hflags
  have hstart : (commsTask 64 platform).Reachable startWorld := .init ⟨rfl, ⟨rfl, rfl⟩, rfl⟩
  refine ⟨w, hstart.step (?_ : (commsTask 64 platform).step startWorld .round w), hon, hunknown⟩
  exact Prog.returns_answers (scStep_scAnswer _) hresult

theorem conversation_goodReply : ∃ w : ScWorld, w.statics .isScActive = 1 ∧ Settled .v70 w ∧
    ∀ w', Prog.Visits scStep w (clVmcScTxRxData 64 .v70) w' → Recorded .v70 w'.log := by
  obtain ⟨w, hreach, hon, -⟩ := @exists_awake .v70 (by decide)
  exact ⟨w, hon, conversation_of_reachable hreach⟩

theorem permitted_goodReply : ∃ w : ScWorld, w.statics .isScActive = 1 ∧
    ∃ events : List Event, w.log = events.flatMap Event.wire ∧
      (∀ flag, group flag = .flags → (w.statics flag ≠ 0 ↔ Confirmed flag events)) ∧
      (∀ place, group place = .lengths → w.statics place = (announced place events).toUInt32) ∧
      ∀ (before : List Event) request outcome after,
        events = before ++ .exchanged request outcome :: after → Permitted .v70 before request := by
  obtain ⟨w, hreach, hon, -⟩ := @exists_awake .v70 (by decide)
  exact ⟨w, hon, permitted_of_reachable hreach⟩

/-! ## A run with readings -/

def voltReadings : List SensorReading :=
  [⟨0, .four 0xE0 0x2E 1 0, by decide⟩, ⟨eScVccintI, .four 0x70 0x11 1 0, by decide⟩]

def voltPacket : List UInt8 :=
  [Comms.escapeChar, Comms.stx, scCommsRxVoltSnsrResp, 0, 12] ++ payloadOf voltReadings ++
    [0x30, 0x02, Comms.escapeChar, etx]

def voltReply : Reply where
  buffer := fun a => voltPacket.getD a 0
  count := 21
  long := by decide
  fits := by decide
  accepted := by decide +kernel

/-- The third byte of a frame tells what it asks for. -/
def voltController (frame : List UInt8) : Reply :=
  if frame.getD 2 0 = scCommsRxVoltSnsr then voltReply else goodReply

def LineEvent.packet : LineEvent → Option (List UInt8)
  | .received packet => some packet
  | _ => none

private theorem received_of_answered {events : List Event} {request : Request} {reply : Reply}
    (h : Event.exchanged request (.answered reply) ∈ events) :
    reply.buffer.slice 0 reply.count.toNat ∈
      (events.flatMap Event.wire).filterMap LineEvent.packet := by
  refine List.mem_filterMap.2 ⟨.received (reply.buffer.slice 0 reply.count.toNat), ?_, rfl⟩
  refine List.mem_flatMap.2 ⟨_, h, ?_⟩
  exact List.mem_cons_of_mem _ (List.mem_cons_of_mem _ (List.mem_singleton_self _))

private theorem Reply.packet_of_received {reply known : Reply}
    (h : reply.buffer.slice 0 reply.count.toNat = known.buffer.slice 0 known.count.toNat) :
    reply.packet = known.packet := by
  have hlength : reply.count.toNat = known.count.toNat := by
    have hboth := congrArg List.length h
    rwa [Memory.length_slice, Memory.length_slice] at hboth
  rw [hlength, Memory.slice_eq_slice_iff] at h
  funext index
  rw [Reply.packet, Reply.packet, copied, copied, hlength]
  split
  · next hinside =>
    have hbyte := h index hinside
    rwa [Nat.zero_add] at hbyte
  · rfl

private theorem exists_volts : ∃ w, (commsTask 64 .vck5000).Reachable w ∧
    w.statics (slot 0) = 12000 ∧ w.statics (slot eScVccintI) = 70000 ∧
    ∀ packet ∈ w.log.filterMap LineEvent.packet,
      packet = goodReply.buffer.slice 0 11 ∨ packet = voltReply.buffer.slice 0 21 := by
  have hrun : ((Prog.answers (scAnswer voltController) (clVmcScTxRxData 64 .vck5000)
      startWorld).map fun result =>
      decide (result.2.statics (slot 0) = 12000 ∧ result.2.statics (slot eScVccintI) = 70000 ∧
        ∀ packet ∈ result.2.log.filterMap LineEvent.packet,
          packet = goodReply.buffer.slice 0 11 ∨ packet = voltReply.buffer.slice 0 21)) =
        some true := by decide +kernel
  obtain ⟨⟨⟨⟩, w⟩, hresult, hshown⟩ := Option.map_eq_some_iff.1 hrun
  have hstart : (commsTask 64 .vck5000).Reachable startWorld := .init ⟨rfl, ⟨rfl, rfl⟩, rfl⟩
  refine ⟨w, hstart.step (?_ : (commsTask 64 .vck5000).step startWorld .round w),
    of_decide_eq_true hshown⟩
  exact Prog.returns_answers (scStep_scAnswer _) hresult

/-- Of 77536 the low sixteen bits are kept, and 70000 as a whole. -/
theorem sensorValue_voltReply : ∃ (w : ScWorld) (events : List Event),
    w.log = events.flatMap Event.wire ∧ w.statics (slot 0) = 12000 ∧
      w.statics (slot eScVccintI) = 70000 ∧
      (events.flatMap (Event.reported fun _ => voltReadings)) ≠ [] ∧
      ∀ id, (w.statics (slot id)).toNat =
        ((lastReading (events.flatMap (Event.reported fun _ => voltReadings)) id).map
          (shown id)).getD 0 := by
  obtain ⟨w, hreach, hvolts, hcurrent, hpackets⟩ := exists_volts
  obtain ⟨events, hlog, hshown⟩ := sensorValue_of_reachable hreach fun _ => voltReadings
  have hall := hshown fun request reply hmem hawaited hsensor => by
    have hreceived := hpackets _ (hlog ▸ received_of_answered hmem)
    rcases hreceived with hgood | hvolt
    · have hpacket := @Reply.packet_of_received reply goodReply hgood
      rw [← hawaited.2.2, hpacket] at hsensor
      exact absurd hsensor (by decide +kernel)
    · have hpacket := @Reply.packet_of_received reply voltReply hvolt
      rw [Carries, hpacket]
      decide +kernel
  refine ⟨w, events, hlog, hvolts, hcurrent, fun hnone => ?_, hall⟩
  have hzero := hall 0
  rw [hnone, hvolts] at hzero
  exact absurd hzero (by decide)

end Vmr.Sc.Session
