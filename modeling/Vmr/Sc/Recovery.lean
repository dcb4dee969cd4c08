import Mathlib.Logic.Relation
import Vmr.Sc.SessionRuns

/-!
# One good round

Whatever was lost before, a round over a line that works leaves nothing open: every
flag is set, the lengths are known, and no packet is pending.
-/

namespace Vmr.Sc.Session

open Vmr.Lib Vmr.Sc.Comms Vmr.Sc.Uart

/-! ## A good line -/

/-- The semaphores are free, and what is received is the controller's response to the frame. -/
def Attentive (controller : List UInt8 → Reply) (w : ScWorld) :
    (op : UartOp) → op.Answer → ScWorld → Prop
  | .xSemaphoreTake _, granted, _ => granted = true
  | .xSemaphoreGive _, given, _ => given = true
  | .txEvent, ev, _ => ev.complete = true
  | .rxEvent _, ev, w' => ev.complete = true ∧
      ∀ frame, w.log.getLast? = some (.sent frame) → w'.rxBuf = (controller frame).buffer
  | .receivedBytes, count, _ =>
      ∀ frame, w.log.getLast? = some (.sent frame) → count = (controller frame).count
  | _, _, _ => True

def goodLineStep (controller : List UInt8 → Reply) (w : ScWorld) (op : UartOp) (answer : op.Answer)
    (w' : ScWorld) : Prop :=
  lineStep w op answer w' ∧ Attentive controller w op answer w'

/-- A line on which the controller answers, and the board's information fits a frame. -/
def Attended (controller : List UInt8 → Reply) (w : ScWorld) :
    (op : ScOp) → op.Answer → ScWorld → Prop
  | .uart op, answer, w' => Attentive controller w op answer w'
  | .fetchBoardinfo, answer, _ => (boardInfoRequest answer.1.toInt8.toUInt8 answer.2).Fits
  | _, _, _ => True

def goodStep (controller : List UInt8 → Reply) (w : ScWorld) (op : ScOp) (answer : op.Answer)
    (w' : ScWorld) : Prop :=
  scStep w op answer w' ∧ Attended controller w op answer w'

section Good

variable {α : Type} {controller : List UInt8 → Reply} {P : List LineEvent → Prop} {w : ScWorld}
  {request : Request}

abbrev Served (controller : List UInt8 → Reply) (P : List LineEvent → Prop)
    (post : α → ScWorld → Prop) (p : UartProg α) (w : ScWorld) : Prop :=
  Prog.Safe (goodLineStep controller) (fun w op => P w.log ∧ (ScOp.uart op).Holds) post p w

private theorem overLine_goodStep : OverLine (goodStep controller) := fun _ _ _ _ => And.left

private theorem served_quiet {op : UartOp} (hop : isQuiet op = true) (hlog : P w.log)
    {f : op.Answer → UartProg α} {post : α → ScWorld → Prop}
    (hf : ∀ answer rxBuf, Attentive controller w op answer { w with rxBuf } →
      Served controller P post (f answer) { w with rxBuf })
    (hholds : (ScOp.uart op).Holds) : Served controller P post (Prog.perform op >>= f) w := by
  refine ⟨⟨hlog, hholds⟩, fun answer w' hstep => ?_⟩
  obtain ⟨hline, hanswer⟩ := hstep
  obtain ⟨rxBuf, rfl⟩ := lineStep_quiet hop hline
  exact hf answer rxBuf hanswer

private theorem served_take {sem : UartSem} (hlog : P w.log) {f : Bool → UartProg α}
    {post : α → ScWorld → Prop}
    (hf : Served controller P post (f true) w) :
    Served controller P post (uartShmAcquire sem >>= f) w := by
  refine ⟨⟨hlog, trivial⟩, fun (granted : Bool) w' hstep => ?_⟩
  obtain ⟨rfl, rfl⟩ : w' = w ∧ granted = true := hstep
  exact hf

private theorem served_give {sem : UartSem} (hlog : P w.log) {f : Bool → UartProg α}
    {post : α → ScWorld → Prop}
    (hf : Served controller P post (f true) w) :
    Served controller P post (uartShmRelease sem >>= f) w := by
  refine ⟨⟨hlog, trivial⟩, fun (given : Bool) w' hstep => ?_⟩
  obtain ⟨rfl, rfl⟩ : w' = w ∧ given = true := hstep
  exact hf

private theorem served_setBuffer (buf : RxBuffer) (size received : UInt32) (hlog : P w.log)
    (hawaits : P (w.log ++ [.awaits size])) :
    Served controller P
      (fun result w' => result.1 = .success ∧
        Received { w with log := w.log ++ [.awaits size] } w')
      (uartRtosReceiveSetBuffer (some buf) size received) w := by
  refine served_take hlog ?_
  rw [if_neg (by decide)]
  refine @served_quiet _ _ _ _ .uartDisableInterrupt rfl hlog _ _ (fun _ rx₁ _ => ?_) trivial
  refine ⟨⟨hlog, trivial⟩, fun (count : UInt32) w' hstep => ?_⟩
  obtain ⟨⟨rx₂, rfl⟩, -⟩ := hstep
  exact @served_quiet _ _ _ _ .uartEnableInterrupt rfl hawaits _ _
    (fun _ rx₃ _ => ⟨rfl, rx₃, rfl⟩) trivial

private theorem served_waitSent (txFifoThreshold size : UInt32) (hlog : P w.log) :
    Served controller P (fun status w' => status = .success ∧ w' = w)
      (waitSent txFifoThreshold size) w := by
  unfold waitSent
  split
  · refine (Prog.safe_perform_bind UartOp.txEvent).2 ⟨⟨hlog, trivial⟩, ?_⟩
    rintro (ev : EventBits) w' ⟨rfl, hcomplete : ev.complete = true⟩
    rw [if_pos hcomplete]
    exact ⟨rfl, rfl⟩
  · exact ⟨rfl, rfl⟩

private theorem served_send (txFifoThreshold : UInt32) (bytes : Memory) {size : UInt32}
    (hsize : size ≠ 0)
    {log : List LineEvent} (hbehind : w.log ++ [.sent (bytes.slice 0 size.toNat)] = log)
    (hlog : P w.log) (hsent : P log) :
    Served controller P (fun status w' => status = .success ∧ w' = { w with log })
      (uartRtosSend txFifoThreshold (some bytes) size) w := by
  change Served controller P _ (if size = 0 then _ else _) w
  rw [if_neg hsize]
  refine served_take hlog ?_
  rw [if_neg (by decide)]
  refine ⟨⟨hlog, trivial⟩, fun _ w₁ hstep => ?_⟩
  obtain ⟨rfl, -⟩ : w₁ = { w with log := w.log ++ [.sent (bytes.slice 0 size.toNat)] } ∧ True :=
    hstep
  rw [hbehind]
  refine (served_waitSent txFifoThreshold size hsent).bind ?_
  rintro status _ ⟨rfl, rfl⟩
  exact served_give hsent ⟨rfl, rfl⟩

private theorem served_receiveWait (received : UInt32) (timeout : Nat) {frame : List UInt8}
    (hlast : w.log.getLast? = some (.sent frame)) (hlog : P w.log) :
    Served controller P
      (fun result w' => result = (.success, (controller frame).count) ∧
        w' = { w with rxBuf := (controller frame).buffer })
      (uartRtosReceiveWait received timeout) w := by
  refine ⟨⟨hlog, trivial⟩, fun (ev : EventBits) w₁ hstep => ?_⟩
  obtain ⟨⟨rx₁, rfl⟩, hcomplete, hbuffer⟩ := hstep
  obtain rfl : rx₁ = (controller frame).buffer := hbuffer frame hlast
  refine ⟨⟨hlog, trivial⟩, fun _ w₂ hstep => ?_⟩
  obtain ⟨rfl, -⟩ : w₂ = { w with rxBuf := (controller frame).buffer } ∧ True := hstep
  rw [takeReceived, if_pos hcomplete]
  refine ⟨⟨hlog, trivial⟩, fun (count : UInt32) w₃ hstep => ?_⟩
  obtain ⟨rfl, hcount⟩ : w₃ = { w with rxBuf := (controller frame).buffer } ∧
    ∀ frame, w.log.getLast? = some (.sent frame) → count = (controller frame).count := hstep
  obtain rfl := hcount frame hlast
  refine @served_give _ _ _ { w with rxBuf := (controller frame).buffer } .rxSem hlog
    (fun released => if released = false then _ else _) _ ?_
  exact ⟨rfl, rfl⟩

private theorem served_readRxBuf (p : PacketProg α) (hlog : P w.log) :
    Served controller P (fun value w' => value = Prog.run (answers w.rxBuf) p ∧ w' = w)
      (p.interpret readRxBuf) w := by
  induction p with
  | ret value => exact ⟨rfl, rfl⟩
  | op access next ih =>
      cases access with
      | read index =>
          refine ⟨⟨hlog, trivial⟩, fun (byte : UInt8) w' hstep => ?_⟩
          obtain ⟨⟨rfl, rfl⟩, -⟩ : (byte = w.rxBuf index ∧ w' = w) ∧ True := hstep
          exact ih _
      | write place value => exact ih ()

private theorem served_takePacket (expectedMsgLength : UInt8) (reply : Reply) (hlog : P w.log)
    (hbuffer : w.rxBuf = reply.buffer)
    (htaken : P (w.log ++ [.received (reply.buffer.slice 0 reply.count.toNat)])) :
    Served controller P (fun _ w' => w' = w.take reply.count)
      (takePacket expectedMsgLength reply.count) w := by
  refine ⟨⟨hlog, decide_eq_true reply.fits⟩, fun _ w₁ hstep => ?_⟩
  obtain ⟨⟨-, rfl⟩, -⟩ := hstep
  change Served controller P _ (if minByteCntForScPktValidation < reply.count then _ else _) _
  rw [if_pos (show minByteCntForScPktValidation < reply.count from reply.long)]
  refine (served_readRxBuf _ hlog).bind ?_
  rintro valid _ ⟨rfl, rfl⟩
  rw [hbuffer, if_pos reply.accepted]
  refine ⟨⟨hlog, trivial⟩, fun _ w₂ hstep => ?_⟩
  exact hstep.1

private theorem frame_eq_nil : request.frame = [] ↔
    (vmcUartCmdTransactionFrame request.messageId msp432CommsNoFlag request.payloadLength
      request.payload).len.toUInt32 = 0 := by
  rw [← List.length_eq_zero_iff, ← UInt32.toNat_inj]
  exact iff_of_eq (congrArg (· = 0) (Memory.length_slice ..))

theorem Request.Fits.unframe (h : request.Fits) :
    ∃ message, Comms.unframe request.frame = some message ∧
      message.messageId = request.messageId ∧
      message.payload = request.payload.slice 0 request.payloadLength.toNat := by
  obtain ⟨tx, hstored, hframe⟩ :=
    frame_stored request.messageId msp432CommsNoFlag request.payloadLength request.payload
  let fields := frameFields request.messageId request.payloadLength request.payload
  have hsize : ([Comms.escapeChar, Comms.stx] ++ stuff Comms.escapeChar fields).length + 2 =
      frameSize request.messageId request.payloadLength request.payload := by
    simp only [List.length_append, length_stuff, List.length_cons, List.length_nil]
    simp only [frameSize, fields]
    omega
  obtain ⟨hlen, hslice⟩ := hstored.slice_putPair Comms.escapeChar etx (hsize ▸ h)
  have hbytes : request.frame = [Comms.escapeChar, Comms.stx] ++ stuff Comms.escapeChar fields ++
      [Comms.escapeChar, etx] := by
    rw [Request.frame, hframe, UInt8.toNat_toUInt32, hlen, hslice]
  rw [hbytes, unframe_frame, readFields_frameFields]
  exact ⟨_, rfl, rfl, rfl⟩

private theorem Request.Fits.frame_ne_nil (h : request.Fits) : request.frame ≠ [] := by
  obtain ⟨message, hmessage, -⟩ := h.unframe
  intro hnone
  rw [hnone] at hmessage
  cases hmessage

private theorem served_transaction (txFifoThreshold : UInt32) (request : Request) (hquiet : w.Quiet)
    (hlog : ∀ outcome, P (w.log ++ request.events outcome)) :
    Served controller P
      (fun _ w' => ∃ outcome,
        (True → request.Fits → outcome = .answered (controller request.frame)) ∧
          Handed request w w' outcome)
      (vmcUartCmdTransaction txFifoThreshold request.messageId msp432CommsNoFlag
        request.payloadLength request.payload request.expectedMsgLength) w := by
  have hbusy : P w.log := by
    have hnone := hlog .busy
    rwa [Request.events, List.append_nil] at hnone
  have hbehind : ∀ event, w.log ++ request.events .unanswered ++ [event] =
      w.log ++ [.awaits request.expectedMsgLength.toUInt32, .sent request.frame, event] := by
    intro event
    rw [List.append_assoc]
    rfl
  have hlast : (w.log ++ request.events .unanswered).getLast? = some (.sent request.frame) :=
    List.getLast?_append ..
  refine @served_quiet _ _ _ _ (.secureMemset _ _ _) rfl hbusy _ _ (fun _ rx₁ _ => ?_) trivial
  have hset := @served_setBuffer controller P { w with rxBuf := rx₁ } .rxBuf
    request.expectedMsgLength.toUInt32 0 hbusy (hlog .unsent)
  refine hset.bind ?_
  rintro ⟨status, received⟩ _ ⟨rfl, rx₂, rfl⟩
  dsimp only
  rw [if_neg (by decide)]
  by_cases hframe : request.frame = []
  · have hzero := frame_eq_nil.1 hframe
    rw [uartRtosSend, if_pos hzero]
    refine @served_quiet _ _ _ _ .uartDisableInterrupt rfl (hlog .unsent) _ _ (fun _ rx₃ _ => ?_)
      trivial
    refine served_give (hlog .unsent) ?_
    exact ⟨.unsent, fun _ hfits => absurd hframe hfits.frame_ne_nil, rx₃, rfl⟩
  have hsend := @served_send controller P { w with
    rxBuf := rx₂, log := w.log ++ [.awaits request.expectedMsgLength.toUInt32] } txFifoThreshold _ _
    (fun hzero => hframe (frame_eq_nil.2 hzero)) (w.log ++ request.events .unanswered)
    (List.append_assoc ..) (hlog .unsent) (hlog .unanswered)
  refine hsend.bind ?_
  rintro status _ ⟨rfl, rfl⟩
  rw [if_neg (by decide)]
  have hreceive := @served_receiveWait controller P { w with
    rxBuf := rx₂, log := w.log ++ request.events .unanswered } received 500 request.frame hlast
    (hlog .unanswered)
  refine hreceive.bind ?_
  rintro ⟨status, count⟩ _ ⟨heq, rfl⟩
  cases heq
  dsimp only
  rw [if_pos rfl]
  have htaken := @served_takePacket controller P { w with
    rxBuf := (controller request.frame).buffer, log := w.log ++ request.events .unanswered }
    request.expectedMsgLength (controller request.frame) (hlog .unanswered) rfl
    (hbehind _ ▸ hlog (.answered (controller request.frame)))
  refine htaken.weaken ?_
  rintro _ _ rfl
  refine ⟨.answered (controller request.frame), fun _ _ => rfl,
    (controller request.frame).buffer, ?_⟩
  simp only [ScWorld.take, hquiet.data, Request.events, List.append_assoc, List.cons_append,
    List.nil_append]
  rfl

end Good

/-! ## The rounds over it -/

private theorem goodLine (txFifoThreshold : UInt32) (controller : List UInt8 → Reply) :
    Line txFifoThreshold controller (goodStep controller) True where
  steps := overLine_goodStep
  exchange P _ request hquiet hlog := by
    refine safe_exchange_of overLine_goodStep hquiet hlog ?_
    refine @Prog.Safe.interpret _ _ _ _ _ (fun op => Prog.perform (ScOp.uart op)) _
      (goodLineStep controller) (goodStep controller) (fun w op => P w.log ∧ (ScOp.uart op).Holds)
      _ _ (fun op w hguard => ⟨⟨hguard.1, fun _ => hguard.2⟩, fun _ _ => id⟩) _ _ ?_
    exact served_transaction txFifoThreshold request hquiet hlog
  boardInfo _ _ _ hstep _ := hstep.2

def Round (step : ScWorld → (op : ScOp) → op.Answer → ScWorld → Prop) (txFifoThreshold : UInt32)
    (platform : Vmc.Platform) (w w' : ScWorld) : Prop :=
  Prog.Returns step w (clVmcScTxRxData txFifoThreshold platform) () w'

section Round

variable {platform : Vmc.Platform} {txFifoThreshold : UInt32} {controller : List UInt8 → Reply}
  {w : ScWorld}

private theorem goodStep_scAnswer (w : ScWorld) (op : ScOp) (answer : op.Answer × ScWorld)
    (h : scAnswer controller w op = some answer) : goodStep controller w op answer.1 answer.2 := by
  refine ⟨scStep_scAnswer controller w op answer h, ?_⟩
  cases op with
  | uart op =>
      cases op with
      | rxEvent timeout =>
          cases h
          refine ⟨rfl, fun frame hlast => ?_⟩
          change (heard controller w).elim w.rxBuf Reply.buffer = _
          rw [heard, hlast]
          rfl
      | receivedBytes =>
          cases h
          intro frame hlast
          change (heard controller w).elim 0 Reply.count = _
          rw [heard, hlast]
          rfl
      | xSemaphoreTake | xSemaphoreGive | txEvent =>
          cases h
          exact rfl
      | _ => trivial
  | fetchBoardinfo =>
      cases h
      change (boardInfoRequest (0 : Int32).toInt8.toUInt8 fun _ => 0).Fits
      decide
  | _ => trivial

private theorem exists_goodStep (w : ScWorld) (op : ScOp) (h : op.Holds) :
    ∃ answer w', goodStep controller w op answer w' := by
  have hanswer : ∃ answer, scAnswer controller w op = some answer := by
    cases op with
    | uart op =>
        cases op with
        | configAssert holds => exact ⟨((), w), if_pos h⟩
        | secureMemset buf value size => cases buf <;> exact ⟨_, rfl⟩
        | _ => exact ⟨_, rfl⟩
    | scData access => cases access <;> exact ⟨_, rfl⟩
    | _ => exact ⟨_, rfl⟩
  obtain ⟨answer, hanswer⟩ := hanswer
  exact ⟨answer.1, answer.2, goodStep_scAnswer w op answer hanswer⟩

private theorem complete_of_rounds {w' : ScWorld} (h : Settled platform w)
    (hcomplete : Complete platform w)
    (hrounds : Relation.ReflTransGen (Round scStep txFifoThreshold platform) w w') :
    Settled platform w' ∧ Complete platform w' := by
  induction hrounds with
  | refl => exact ⟨h, hcomplete⟩
  | tail _ hround ih =>
      have hcontinued := (safe_anyRound ih.1).returns hround
      exact ⟨hcontinued.toSettled,
        fun flag hflag => hcontinued.flags flag hflag (ih.2.flags flag hflag),
        fun hpolled => hcontinued.lengths (ih.2.lengths hpolled)⟩

/-- However much was lost, one round over a good line can be had to its end and leaves everything
known, and it stays known over any line, until the next update. -/
theorem complete_of_good_round (h : (commsTask txFifoThreshold platform).Reachable w)
    (hwired : platform ≠ .v80) (hresponsive : Responsive platform controller) :
    (∃ w', Round (goodStep controller) txFifoThreshold platform w w') ∧
    ∀ w' w'', Round (goodStep controller) txFifoThreshold platform w w' →
      Relation.ReflTransGen (Round scStep txFifoThreshold platform) w' w'' →
      Settled platform w'' ∧ Complete platform w'' := by
  have hsafe := safe_round (goodLine txFifoThreshold controller) (fun _ => hresponsive)
    (settled_of_reachable h)
  constructor
  · obtain ⟨⟨⟩, w', hreturns, -⟩ := hsafe.exists_returns fun w op hguard =>
      exists_goodStep w op (hguard.2 trivial)
    exact ⟨w', hreturns⟩
  · intro w' w'' hround hrounds
    obtain ⟨hcontinued, hcomplete⟩ := hsafe.returns hround
    exact complete_of_rounds hcontinued.toSettled (hcomplete trivial hwired) hrounds

end Round

/-! ## A controller -/

def replyBuffer (messageId first second : UInt8) : Memory := fun a =>
  let sum := messageId.toNat + 2 + first.toNat + second.toNat
  [Comms.escapeChar, Comms.stx, messageId, 0, 2, first, second, byteAt sum 0, byteAt sum 1,
    Comms.escapeChar, etx].getD a 0

def replyOf (messageId first second : UInt8) : Reply :=
  let buffer := replyBuffer messageId first second
  if h : Prog.run (answers buffer) (vmcValidateScPacket goodReply.count) = true then
    { goodReply with buffer, accepted := h }
  else goodReply

def someController (frame : List UInt8) : Reply :=
  match Comms.unframe frame with
  | none => goodReply
  | some message =>
      if message.messageId = msp432CommsVmcGetRespSizeReq then
        replyOf msp432CommsVmcGetRespSizeResp (message.payload.headD 0) 2
      else replyOf ((responseTo message.messageId).getD Comms.msp432CommsMsgGood) 0 0

private theorem someController_frame {request : Request} (hfits : request.Fits)
    (hid : request.messageId ≠ msp432CommsVmcGetRespSizeReq) :
    someController request.frame =
      replyOf ((responseTo request.messageId).getD Comms.msp432CommsMsgGood) 0 0 := by
  obtain ⟨message, hmessage, hsame, -⟩ := hfits.unframe
  rw [← hsame] at hid ⊢
  unfold someController
  rw [hmessage]
  exact if_neg hid

private theorem responsive_someController : Responsive .vck5000 someController where
  awaited s request hmay hfits := by
    have hother : ∀ {expectedMsgid : UInt8}, request.messageId ≠ msp432CommsVmcGetRespSizeReq →
        responseTo request.messageId = some expectedMsgid →
        Awaited (replyOf expectedMsgid 0 0).packet expectedMsgid →
        Awaited (someController request.frame).packet expectedMsgid := by
      intro expectedMsgid hid hresponse hawaited
      rw [someController_frame hfits hid, hresponse]
      exact hawaited
    cases hmay with
    | respSize hon hpolled hunknown hsensor =>
        have hlength : ∀ messageId ∈ sensorRequests.map Prod.fst,
            Awaited (someController (lengthRequest messageId).frame).packet
              msp432CommsVmcGetRespSizeResp := by decide +kernel
        exact hlength _ hsensor
    | active => exact hother (by decide) rfl (by decide +kernel)
    | versionPowermode => exact hother (by decide) rfl (by decide +kernel)
    | boardInfo =>
        have hawaited : Awaited (replyOf scCommsRxBoardInfoResp 0 0).packet
            scCommsRxBoardInfoResp := by decide +kernel
        exact hother (show scCommsTxBoardInfo ≠ _ by decide) rfl hawaited
    | i2c =>
        have hawaited : Awaited (replyOf scCommsRxI2cSnsrResp 0 0).packet
            scCommsRxI2cSnsrResp := by decide +kernel
        exact hother (show scCommsTxI2cSnsr ≠ _ by decide) rfl hawaited
    | sensors hon hlisted hsensor =>
        have hsensors : ∀ entry ∈ sensorRequests, entry.1 ≠ msp432CommsVmcGetRespSizeReq ∧
            responseTo entry.1 = some entry.2.2 ∧
            Awaited (replyOf entry.2.2 0 0).packet entry.2.2 := by decide +kernel
        obtain ⟨hid, hresponse, hawaited⟩ := hsensors _ hsensor
        exact hother hid hresponse hawaited
  sized := by decide +kernel

theorem complete_someController : ∃ w : ScWorld, w.statics .isScActive = 1 ∧
    (∃ w', Round (goodStep someController) 64 .vck5000 w w') ∧
    ∀ w' w'', Round (goodStep someController) 64 .vck5000 w w' →
      Relation.ReflTransGen (Round scStep 64 .vck5000) w' w'' →
      Settled .vck5000 w'' ∧ Complete .vck5000 w'' := by
  obtain ⟨w, hreach, hon, -⟩ := @exists_awake .vck5000 (by decide)
  exact ⟨w, hon, complete_of_good_round hreach (by decide) responsive_someController⟩

end Vmr.Sc.Session
