import Vmr.Sc.Session

/-!
# An exchange

Between the exchanges no packet is pending and `g_scData` is zero.  An exchange sends
at most one frame and takes at most one packet apart, one that passed the check
after the frame was sent.
-/

namespace Vmr.Sc.Session

open Vmr.Lib Vmr.Sc.Comms Vmr.Sc.Uart

/-! ## The world -/

structure Reply where
  buffer : Memory
  count : UInt32
  long : 2 < count
  fits : count.toNat ≤ maxVmcScUartBufSize
  accepted : Prog.run (answers buffer) (vmcValidateScPacket count) = true

/-- What the line sees; `updated` is an update of the controller's firmware. -/
inductive LineEvent
  | awaits (size : UInt32)
  | sent (frame : List UInt8)
  | received (packet : List UInt8)
  | updated

structure ScState where
  statics : Static → UInt32
  getSensorRespLen : Bool

structure ScWorld extends ScState where
  vmcActiveRespLen : UInt8
  rxBuf : Memory
  gScData : Memory
  isPacketReceived : Bool
  log : List LineEvent

def cleared (memory : Memory) : Memory := fun a => if a < maxVmcScUartBufSize then 0 else memory a

def ScWorld.take (w : ScWorld) (count : UInt32) : ScWorld :=
  { w with
    gScData := fun a => if a < count.toNat then w.rxBuf a else w.gScData a
    isPacketReceived := true
    log := w.log ++ [.received (w.rxBuf.slice 0 count.toNat)] }

/-- The line and the interrupt handler put anything into `rx_buf` while a reception is set up. -/
def lineStep (w : ScWorld) : (op : UartOp) → op.Answer → ScWorld → Prop
  | .xUartPsvRecv _ size, _, w' => ∃ rxBuf, w' = { w with rxBuf, log := w.log ++ [.awaits size] }
  | .rxEvent _, _, w' => ∃ rxBuf, w' = { w with rxBuf }
  | .rxByte index, byte, w' => byte = w.rxBuf index ∧ w' = w
  | .secureMemset .rxBuf value size, _, w' =>
      w' = { w with rxBuf := fun a => if a < size.toNat then value else w.rxBuf a }
  | .xUartPsvSend bytes size, _, w' =>
      w' = { w with log := w.log ++ [.sent (bytes.slice 0 size.toNat)] }
  | .packetReceived size, _, w' => w' = w.take size
  | .configAssert holds, _, w' => holds ∧ w' = w
  | _, _, w' => w' = w

def parseStep (w : ScWorld) : (access : Access) → access.Answer → ScWorld → Prop
  | .read index, byte, w' => byte = w.gScData index ∧ w' = w
  | .write place value, _, w' => w' = { w with statics := Function.update w.statics place value }

def scStep (w : ScWorld) : (op : ScOp) → op.Answer → ScWorld → Prop
  | .uart op, answer, w' => lineStep w op answer w'
  | .scData access, answer, w' => parseStep w access answer w'
  | .isPacketReceived, received, w' => received = w.isPacketReceived ∧ w' = w
  | .clearPacketReceived, _, w' => w' = { w with isPacketReceived := false }
  | .clearScData, _, w' => w' = { w with gScData := cleared w.gScData }
  | .readStatic place, value, w' => value = w.statics place ∧ w' = w
  | .snsrRespStatus, status, w' => status = w.getSensorRespLen ∧ w' = w
  | .setSnsrRespStatus, _, w' => w' = { w with getSensorRespLen := true }
  | .activeRespLen, length, w' => length = w.vmcActiveRespLen ∧ w' = w
  | .setActiveRespLen value, _, w' => w' = { w with vmcActiveRespLen := value }
  | .asdmSendI2cSensorsSc, _, w' => w' = w
  | .fetchBoardinfo, _, w' => w' = w
  | .vTaskDelay _, _, w' => w' = w

/-! ## What the exchange does to the state -/

def Reply.packet (reply : Reply) : Memory := copied reply.buffer reply.count.toNat

def parsed (packet : Memory) (expectedMsgid : UInt8) (statics : Static → UInt32) :
    Static → UInt32 :=
  updates statics
    ((Prog.ops (answers packet) (parseScData expectedMsgid)).filterMap Access.stored)

inductive Outcome
  | busy
  | unsent
  | unanswered
  /-- Something else was received, and the receiver was emptied. -/
  | flushed
  | answered (reply : Reply)

def Request.frame (request : Request) : List UInt8 :=
  let tx := vmcUartCmdTransactionFrame request.messageId msp432CommsNoFlag request.payloadLength
    request.payload
  tx.bytes.slice 0 tx.len.toUInt32.toNat

/-- The frame with its escapes fits the transmit buffer. -/
def Request.Fits (request : Request) : Prop :=
  frameSize request.messageId request.payloadLength request.payload ≤ maxVmcScUartBufSize

instance (request : Request) : Decidable request.Fits :=
  inferInstanceAs (Decidable (_ ≤ _))

def Request.events (request : Request) : Outcome → List LineEvent
  | .busy => []
  | .unsent => [.awaits request.expectedMsgLength.toUInt32]
  | .unanswered => [.awaits request.expectedMsgLength.toUInt32, .sent request.frame]
  | .flushed => [.awaits request.expectedMsgLength.toUInt32, .sent request.frame,
      .awaits (UInt32.ofNat maxVmcScUartBufSize)]
  | .answered reply => [.awaits request.expectedMsgLength.toUInt32, .sent request.frame,
      .received (reply.buffer.slice 0 reply.count.toNat)]

def Request.after (request : Request) (s : ScState) : Outcome → ScState
  | .answered reply => { s with statics := parsed reply.packet request.expectedMsgid s.statics }
  | _ => s

structure ScWorld.Quiet (w : ScWorld) : Prop where
  pending : w.isPacketReceived = false
  data : w.gScData = fun _ => 0

/-! ## The transaction -/

section Transaction

variable {α β : Type}

def isQuiet : UartOp → Bool
  | .xUartPsvRecv _ _ | .xUartPsvSend _ _ | .packetReceived _ => false
  | _ => true

abbrev Quietly (p : UartProg α) : Prop := p.Only fun op => isQuiet op = true

private theorem quietly_waitSent (txFifoThreshold size : UInt32) :
    Quietly (waitSent txFifoThreshold size) := by
  refine Prog.only_ite ?_ (Prog.only_ret _)
  exact Prog.Only.bind (Prog.only_perform rfl) fun _ =>
    Prog.only_ite (Prog.only_ret _) (Prog.only_ret _)

private theorem quietly_receiveWait (received : UInt32) (timeout : Nat) :
    Quietly (uartRtosReceiveWait received timeout) := by
  refine Prog.Only.bind (Prog.only_perform rfl) fun ev => ?_
  refine Prog.Only.bind (Prog.only_perform rfl) fun _ => ?_
  have htaken : Quietly (takeReceived ev received) := by
    refine Prog.only_ite ?_ (Prog.only_ite (Prog.only_ret _) (Prog.only_ret _))
    exact Prog.Only.bind (Prog.only_perform rfl) fun _ => Prog.only_ret _
  refine htaken.bind fun _ => ?_
  exact Prog.Only.bind (Prog.only_perform rfl) fun _ =>
    Prog.only_ite (Prog.only_ret _) (Prog.only_ret _)

variable {P : List LineEvent → Prop} {w : ScWorld}

abbrev Logged (P : List LineEvent → Prop) (w : ScWorld) (_ : UartOp) : Prop := P w.log

def Received (w w' : ScWorld) : Prop := ∃ rxBuf, w' = { w with rxBuf }

theorem Received.behind {w' : ScWorld} {rxBuf : Memory} (h : Received { w with rxBuf } w') :
    Received w w' := by
  obtain ⟨last, rfl⟩ := h
  exact ⟨last, rfl⟩

theorem lineStep_quiet {op : UartOp} (hop : isQuiet op = true) {answer : op.Answer} {w' : ScWorld}
    (h : lineStep w op answer w') : Received w w' := by
  cases op with
  | rxEvent => exact h
  | xUartPsvRecv | xUartPsvSend | packetReceived => cases hop
  | rxByte | configAssert => exact ⟨_, h.2⟩
  | secureMemset buf value size =>
      cases buf with
      | rxBuf => exact ⟨_, h⟩
      | rcvBufr | buff => exact ⟨_, h⟩
  | _ => exact ⟨_, h⟩

private theorem safe_quietly {p : UartProg α} (h : Quietly p) (hlog : P w.log) :
    Prog.Safe lineStep (Logged P) (fun _ w' => Received w w') p w := by
  induction p generalizing w with
  | ret value => exact ⟨_, rfl⟩
  | op o next ih =>
      obtain ⟨hop, hnext⟩ := h
      refine ⟨hlog, fun answer w' hstep => ?_⟩
      obtain ⟨rxBuf, rfl⟩ := lineStep_quiet hop hstep
      have hrest := ih answer (hnext answer)
        (show P ({ w with rxBuf } : ScWorld).log from hlog)
      exact hrest.weaken fun _ _ => Received.behind

private theorem safe_quietly_bind {p : UartProg α} {f : α → UartProg β} {post : β → ScWorld → Prop}
    (h : Quietly p) (hlog : P w.log)
    (hf : ∀ value rxBuf, Prog.Safe lineStep (Logged P) post (f value) { w with rxBuf }) :
    Prog.Safe lineStep (Logged P) post (p >>= f) w := by
  refine (safe_quietly h hlog).bind fun value w' hw' => ?_
  obtain ⟨rxBuf, rfl⟩ := hw'
  exact hf value rxBuf

theorem safe_setBuffer (buf : RxBuffer) (size received : UInt32) (hlog : P w.log)
    (hawaits : P (w.log ++ [.awaits size])) :
    Prog.Safe lineStep (Logged P)
      (fun result w' => result.1 ≠ .success ∧ Received w w' ∨
        result.1 = .success ∧ Received { w with log := w.log ++ [.awaits size] } w')
      (uartRtosReceiveSetBuffer (some buf) size received) w := by
  refine safe_quietly_bind (Prog.only_perform rfl) hlog fun acquired rx₁ => ?_
  split
  · exact .inl ⟨show UartStatus.errorSemaphore ≠ .success by decide, _, rfl⟩
  · refine safe_quietly_bind (Prog.only_perform rfl) hlog fun _ rx₂ => ?_
    refine (Prog.safe_perform_bind _).2 ⟨hlog, fun (count : UInt32) w' hstep => ?_⟩
    obtain ⟨rx₃, rfl⟩ : ∃ rxBuf, w' = { w with rxBuf, log := w.log ++ [.awaits size] } := hstep
    refine safe_quietly_bind (Prog.only_perform rfl) hawaits fun _ rx₄ => ?_
    exact .inr ⟨rfl, _, rfl⟩

theorem safe_vmcRecoverUart (buff : RxBuffer) (size : UInt32) (hlog : P w.log)
    (hawaits : P (w.log ++ [.awaits size])) :
    Prog.Safe lineStep (Logged P)
      (fun _ w' => Received w w' ∨ Received { w with log := w.log ++ [.awaits size] } w')
      (vmcRecoverUart (some buff) size) w := by
  refine (safe_setBuffer buff size 0 hlog hawaits).bind ?_
  rintro ⟨status, received⟩ w₁ hset
  dsimp only
  split
  · next hfail => exact .inl (hset.resolve_right fun h => hfail h.1).2
  · next hdone =>
    obtain ⟨-, rx₁, rfl⟩ := hset.resolve_left fun h => hdone h.1
    refine safe_quietly_bind (quietly_receiveWait _ _) hawaits fun _ rx₂ => ?_
    refine safe_quietly_bind (Prog.only_perform rfl) hawaits fun _ rx₃ => ?_
    exact .inr ⟨_, rfl⟩

private theorem safe_send (txFifoThreshold : UInt32) (bytes : Memory) (size : UInt32)
    {log : List LineEvent} (hbehind : w.log ++ [.sent (bytes.slice 0 size.toNat)] = log)
    (hlog : P w.log) (hsent : P log) :
    Prog.Safe lineStep (Logged P)
      (fun status w' => status ≠ .success ∧ Received w w' ∨ Received { w with log } w')
      (uartRtosSend txFifoThreshold (some bytes) size) w := by
  unfold uartRtosSend
  split
  · next heq => cases heq
  next found heq =>
    cases heq
    split
    · exact .inl ⟨by decide, _, rfl⟩
    · refine safe_quietly_bind (Prog.only_perform rfl) hlog fun acquired rxBuf => ?_
      split
      · exact .inl ⟨by decide, _, rfl⟩
      · refine ⟨hlog, fun _ w' hstep => ?_⟩
        obtain rfl : w' = { w with
          rxBuf, log := w.log ++ [.sent (bytes.slice 0 size.toNat)] } := hstep
        rw [hbehind]
        have hquiet : Quietly (do
            let retVal ← waitSent txFifoThreshold size
            let released ← uartShmRelease .txSem
            if released = false then return UartStatus.errorSemaphore else return retVal) :=
          (quietly_waitSent _ _).bind fun _ =>
            Prog.Only.bind (Prog.only_perform rfl) fun _ =>
              Prog.only_ite (Prog.only_ret _) (Prog.only_ret _)
        exact (safe_quietly hquiet hsent).weaken fun _ _ hend => .inr hend.behind

theorem safe_readRxBuf (p : PacketProg α) (hlog : P w.log) :
    Prog.Safe lineStep (Logged P)
      (fun value w' => value = Prog.run (answers w.rxBuf) p ∧ w' = w)
      (p.interpret readRxBuf) w := by
  induction p with
  | ret value => exact ⟨rfl, rfl⟩
  | op access next ih =>
      cases access with
      | read index =>
          refine ⟨hlog, fun (byte : UInt8) w' hstep => ?_⟩
          obtain ⟨rfl, rfl⟩ : byte = w.rxBuf index ∧ w' = w := hstep
          exact ih _
      | write place value => exact ih ()

/-- A packet was taken, or the receiver emptied, or only `rx_buf` has changed. -/
def Taken (w w' : ScWorld) : Prop :=
  Received w w' ∨
    Received { w with log := w.log ++ [.awaits (UInt32.ofNat maxVmcScUartBufSize)] } w' ∨
    ∃ reply : Reply, Received ({ w with rxBuf := reply.buffer }.take reply.count) w'

private theorem safe_packetTaken (expectedMsgLength : UInt8) (receivedCount : UInt32)
    (hlog : P w.log)
    (hawaits : P (w.log ++ [.awaits (UInt32.ofNat maxVmcScUartBufSize)]))
    (htaken : ∀ reply : Reply, P (w.log ++ [.received (reply.buffer.slice 0 reply.count.toNat)])) :
    Prog.Safe lineStep (Logged P) (fun _ w' => Taken w w')
      (takePacket expectedMsgLength receivedCount) w := by
  refine ⟨hlog, fun _ w' hstep => ?_⟩
  obtain ⟨hholds, rfl⟩ : decide (receivedCount.toNat ≤ maxVmcScUartBufSize) = true ∧ w' = w := hstep
  have hfits := of_decide_eq_true hholds
  change Prog.Safe _ _ _ (if minByteCntForScPktValidation < receivedCount then _ else _) _
  by_cases hlong : minByteCntForScPktValidation < receivedCount
  swap
  · rw [if_neg hlong]
    exact .inl ⟨_, rfl⟩
  rw [if_pos hlong]
  refine (safe_readRxBuf _ hlog).bind fun valid w₁ hvalid => ?_
  obtain ⟨hvalue, rfl⟩ := hvalid
  by_cases hvalid : valid = true
  · rw [if_pos hvalid]
    let reply : Reply := ⟨w₁.rxBuf, receivedCount, hlong, hfits, hvalue ▸ hvalid⟩
    refine ⟨hlog, fun _ w' hstep => ?_⟩
    obtain rfl : w' = w₁.take receivedCount := hstep
    exact .inr (.inr ⟨reply, _, rfl⟩)
  · rw [if_neg hvalid]
    exact (safe_vmcRecoverUart .rxBuf _ hlog hawaits).bind fun _ w₂ hend => hend.imp_right .inl

def Handed (request : Request) (w w' : ScWorld) : Outcome → Prop
  | .answered reply => Received { w with
      gScData := reply.packet, isPacketReceived := true
      log := w.log ++ request.events (.answered reply) } w'
  | outcome => Received { w with log := w.log ++ request.events outcome } w'

private theorem Taken.handed {request : Request} {w' w'' : ScWorld}
    (hsent : Received { w with log := w.log ++ request.events .unanswered } w') (h : Taken w' w'')
    (hquiet : w.Quiet) : ∃ outcome, Handed request w w'' outcome := by
  obtain ⟨rxBuf, rfl⟩ := hsent
  rcases h with hnothing | hflushed | ⟨reply, htaken⟩
  · exact ⟨.unanswered, hnothing.behind⟩
  · obtain ⟨last, rfl⟩ := hflushed
    refine ⟨.flushed, last, ?_⟩
    simp only [Request.events, List.append_assoc, List.cons_append, List.nil_append]
  · obtain ⟨last, rfl⟩ := htaken
    refine ⟨.answered reply, last, ?_⟩
    simp only [ScWorld.take, hquiet.data, Request.events, List.append_assoc, List.cons_append,
      List.nil_append]
    rfl

theorem safe_transaction (txFifoThreshold : UInt32) (request : Request) (hquiet : w.Quiet)
    (hlog : ∀ outcome, P (w.log ++ request.events outcome)) :
    Prog.Safe lineStep (Logged P) (fun _ w' => ∃ outcome, Handed request w w' outcome)
      (vmcUartCmdTransaction txFifoThreshold request.messageId msp432CommsNoFlag
        request.payloadLength request.payload request.expectedMsgLength) w := by
  have hbusy : P w.log := by
    have hnone := hlog .busy
    rwa [Request.events, List.append_nil] at hnone
  have hbehind : ∀ event, w.log ++ request.events .unanswered ++ [event] =
      w.log ++ [.awaits request.expectedMsgLength.toUInt32, .sent request.frame, event] := by
    intro event
    rw [List.append_assoc]
    rfl
  unfold vmcUartCmdTransaction
  refine safe_quietly_bind (Prog.only_perform rfl) hbusy fun _ rx₁ => ?_
  have hset := @safe_setBuffer P { w with rxBuf := rx₁ } .rxBuf request.expectedMsgLength.toUInt32 0
    hbusy (hlog .unsent)
  refine hset.bind ?_
  rintro ⟨status, received⟩ w₂ hset
  dsimp only
  split
  · next hfail =>
    refine ⟨.busy, ?_⟩
    change Received { w with log := w.log ++ [] } w₂
    rw [List.append_nil]
    exact (hset.resolve_right fun h => hfail h.1).2.behind
  next hdone =>
    obtain ⟨-, rx₂, rfl⟩ := hset.resolve_left fun h => hdone h.1
    have hframe := @safe_send P { w with
      rxBuf := rx₂, log := w.log ++ [.awaits request.expectedMsgLength.toUInt32] }
      txFifoThreshold _ _ (w.log ++ request.events .unanswered) (List.append_assoc ..)
      (hlog .unsent) (hlog .unanswered)
    refine hframe.bind fun status' w₃ hsend => ?_
    split
    · next hfail =>
      have hrest : Quietly (do
          uartDisableInterrupt
          let _ ← uartShmRelease .rxSem
          return false) :=
        Prog.Only.bind (Prog.only_perform rfl) fun _ =>
          Prog.Only.bind (Prog.only_perform rfl) fun _ => Prog.only_ret _
      rcases hsend with ⟨-, rx₃, rfl⟩ | ⟨rx₃, rfl⟩
      · refine Prog.Safe.weaken (safe_quietly hrest ?_) fun _ w' hend =>
          ⟨.unsent, hend.behind.behind⟩
        exact hlog .unsent
      · refine Prog.Safe.weaken (safe_quietly hrest ?_) fun _ w' hend => ⟨.unanswered, hend.behind⟩
        exact hlog .unanswered
    · next hdone =>
      obtain ⟨rx₃, rfl⟩ := hsend.resolve_left fun hnone => hdone hnone.1
      refine safe_quietly_bind (quietly_receiveWait _ _) (hlog .unanswered) fun result rx₄ => ?_
      obtain ⟨status'', count⟩ := result
      dsimp only
      split
      · have htaken := @safe_packetTaken P { w with
          rxBuf := rx₄, log := w.log ++ request.events .unanswered } request.expectedMsgLength count
          (hlog .unanswered) (hbehind _ ▸ hlog .flushed)
          fun reply => hbehind _ ▸ hlog (.answered reply)
        exact htaken.weaken fun _ w' hend => hend.handed ⟨rx₄, rfl⟩ hquiet
      · have hrest : Quietly (do
            uartDisableInterrupt
            if status'' = .errorGeneric then
              let _ ← uartShmRelease .rxSem
              return false
            else return false) :=
          Prog.Only.bind (Prog.only_perform rfl) fun _ => Prog.only_ite
            (Prog.Only.bind (Prog.only_perform rfl) fun _ => Prog.only_ret _) (Prog.only_ret _)
        refine Prog.Safe.weaken (safe_quietly hrest ?_) fun _ w' hend => ⟨.unanswered, hend.behind⟩
        exact hlog .unanswered

end Transaction

/-! ## The exchange -/

def ScOp.Holds : ScOp → Prop
  | .uart (.configAssert holds) => holds = true
  | _ => True

/-- What holds of the log whenever something is done; on a good line no assertion fails. -/
def Guarded (P : List LineEvent → Prop) (good : Prop) (w : ScWorld) (op : ScOp) : Prop :=
  P w.log ∧ (good → op.Holds)

def OverLine (step : ScWorld → (op : ScOp) → op.Answer → ScWorld → Prop) : Prop :=
  ∀ w op answer w', step w op answer w' → scStep w op answer w'

section Exchange

variable {α : Type} {P : List LineEvent → Prop} {good : Prop} {w : ScWorld}
  {step : ScWorld → (op : ScOp) → op.Answer → ScWorld → Prop}

theorem safe_read {op : ScOp} {value : op.Answer} {f : op.Answer → ScProg α}
    {post : α → ScWorld → Prop} (hop : ∀ answer w', step w op answer w' → answer = value ∧ w' = w)
    (hlog : P w.log) (hholds : op.Holds) (hf : Prog.Safe step (Guarded P good) post (f value) w) :
    Prog.Safe step (Guarded P good) post (Prog.perform op >>= f) w := by
  refine ⟨⟨hlog, fun _ => hholds⟩, fun answer w' hstep => ?_⟩
  obtain ⟨rfl, rfl⟩ := hop answer w' hstep
  exact hf

theorem safe_set {op : ScOp} {w' : ScWorld} {f : op.Answer → ScProg α} {post : α → ScWorld → Prop}
    (hop : ∀ answer w'', step w op answer w'' → w'' = w') (hlog : P w.log) (hholds : op.Holds)
    (hf : ∀ answer, Prog.Safe step (Guarded P good) post (f answer) w') :
    Prog.Safe step (Guarded P good) post (Prog.perform op >>= f) w := by
  refine ⟨⟨hlog, fun _ => hholds⟩, fun answer w'' hstep => ?_⟩
  obtain rfl := hop answer w'' hstep
  exact hf answer

private theorem safe_parse (hsteps : OverLine step) (p : PacketProg α) (hlog : P w.log) :
    Prog.Safe step (Guarded P good)
      (fun _ w' => w' = { w with
        statics := updates w.statics ((Prog.ops (answers w.gScData) p).filterMap Access.stored) })
      (p.interpret fun access => Prog.perform (ScOp.scData access)) w := by
  induction p generalizing w with
  | ret value => rfl
  | op access next ih =>
      cases access with
      | read index =>
          refine ⟨⟨hlog, fun _ => trivial⟩, fun (byte : UInt8) w' hstep => ?_⟩
          obtain ⟨rfl, rfl⟩ : byte = w.gScData index ∧ w' = w := hsteps _ _ _ _ hstep
          exact ih _ hlog
      | write place value =>
          refine ⟨⟨hlog, fun _ => trivial⟩, fun _ w' hstep => ?_⟩
          obtain rfl : w' = { w with statics := Function.update w.statics place value } :=
            hsteps _ _ _ _ hstep
          exact @ih () { w with statics := Function.update w.statics place value } hlog

/-- One exchange, whatever comes of it. -/
def Exchanged (request : Request) (w w' : ScWorld) (outcome : Outcome) : Prop :=
  ∃ rxBuf, w' = { w with
    toScState := request.after w.toScState outcome
    rxBuf
    log := w.log ++ request.events outcome }

private theorem cleared_copied (reply : Reply) : cleared reply.packet = fun _ => 0 := by
  funext a
  unfold cleared Reply.packet copied
  split
  · rfl
  · next hbehind =>
      exact if_neg fun hin => hbehind (Nat.lt_of_lt_of_le hin reply.fits)

theorem ScWorld.Quiet.cleared (h : w.Quiet) : cleared w.gScData = w.gScData := by
  rw [h.data]
  exact funext fun _ => ite_self _

theorem safe_exchange_of (hsteps : OverLine step) {txFifoThreshold : UInt32} {request : Request}
    {allowed : Outcome → Prop} (hquiet : w.Quiet)
    (hlog : ∀ outcome, P (w.log ++ request.events outcome))
    (htransaction : Prog.Safe step (Guarded P good)
      (fun _ w' => ∃ outcome, allowed outcome ∧ Handed request w w' outcome)
      (transaction txFifoThreshold request) w) :
    Prog.Safe step (Guarded P good)
      (fun _ w' => ∃ outcome, allowed outcome ∧ Exchanged request w w' outcome)
      (exchange txFifoThreshold request) w := by
  have hnothing : ∀ outcome w₁, allowed outcome →
      Received { w with log := w.log ++ request.events outcome } w₁ →
      request.after w.toScState outcome = w.toScState →
      Prog.Safe step (Guarded P good)
        (fun _ w' => ∃ outcome, allowed outcome ∧ Exchanged request w w' outcome)
        (do
          let received : Bool ← Prog.perform ScOp.isPacketReceived
          if received = true then
            let _ ← parse request.expectedMsgid
            Prog.perform ScOp.clearPacketReceived
            Prog.perform ScOp.clearScData
          else Prog.perform ScOp.clearScData) w₁ := by
    rintro outcome _ hallowed ⟨rxBuf, rfl⟩ hsame
    refine @safe_read _ _ _ _ _ .isPacketReceived w.isPacketReceived _ _
      (fun _ _ => hsteps _ _ _ _) (hlog outcome) trivial ?_
    rw [if_neg (by rw [hquiet.pending]; decide)]
    refine ⟨⟨hlog outcome, fun _ => trivial⟩, fun _ w₂ hstep => ⟨outcome, hallowed, rxBuf, ?_⟩⟩
    rw [hsame, ← hquiet.cleared]
    exact hsteps _ _ _ _ hstep
  refine htransaction.bind fun _ w₁ hend => ?_
  obtain ⟨outcome, hallowed, hend⟩ := hend
  cases outcome with
  | busy => exact hnothing .busy w₁ hallowed hend rfl
  | unsent => exact hnothing .unsent w₁ hallowed hend rfl
  | unanswered => exact hnothing .unanswered w₁ hallowed hend rfl
  | flushed => exact hnothing .flushed w₁ hallowed hend rfl
  | answered reply =>
      obtain ⟨rxBuf, rfl⟩ := hend
      have hanswered := hlog (.answered reply)
      refine @safe_read _ _ _ _ _ .isPacketReceived true _ _ (fun _ _ => hsteps _ _ _ _) hanswered
        trivial ?_
      rw [if_pos rfl]
      have hparse := @safe_parse _ P good { w with
        rxBuf := rxBuf, gScData := reply.packet, isPacketReceived := true
        log := w.log ++ request.events (.answered reply) } step hsteps
        (parseScData request.expectedMsgid) hanswered
      refine hparse.bind fun _ w₃ hparsed => ?_
      subst hparsed
      refine @safe_set _ _ _ _ _ .clearPacketReceived _ _ _ (fun _ _ => hsteps _ _ _ _) hanswered
        trivial fun _ => ?_
      refine ⟨⟨hanswered, fun _ => trivial⟩, fun _ w₄ hstep =>
        ⟨.answered reply, hallowed, rxBuf, ?_⟩⟩
      have hcleared := hsteps _ _ _ _ hstep
      change w₄ = _ at hcleared
      rw [hcleared, cleared_copied, ← hquiet.data, ← hquiet.pending]
      rfl

theorem safe_exchange (txFifoThreshold : UInt32) (request : Request) (hquiet : w.Quiet)
    (hlog : ∀ outcome, P (w.log ++ request.events outcome)) :
    Prog.Safe scStep (Guarded P False)
      (fun _ w' => ∃ outcome, True ∧ Exchanged request w w' outcome)
      (exchange txFifoThreshold request) w := by
  refine safe_exchange_of (fun _ _ _ _ => id) hquiet hlog ?_
  refine @Prog.Safe.interpret _ _ _ _ _ (fun op => Prog.perform (ScOp.uart op)) _ lineStep scStep
    (Logged P) _ _ (fun op w hguard => ⟨⟨hguard, False.elim⟩, fun _ _ => id⟩) _ _ ?_
  refine (safe_transaction txFifoThreshold request hquiet hlog).weaken ?_
  exact fun _ _ ⟨outcome, hend⟩ => ⟨outcome, trivial, hend⟩

end Exchange

end Vmr.Sc.Session
