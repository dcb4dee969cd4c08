import Vmr.Lib.Transition
import Vmr.Sc.Receive

/-!
# The locks of the satellite controller's UART

`rxSem` and `txSem` are mutexes, taken without waiting.  `UART_RTOS_Send` gives back
what it takes; `UART_RTOS_Receive_Set_Buffer` takes the receiver and leaves it to
`UART_RTOS_Receive_Wait`, or to its caller when nothing could be sent.  What the
driver, the line and the interrupt handler do is an answer.
-/

namespace Vmr.Sc.Uart

open Vmr.Lib Vmr.Sc.Comms

inductive UartStatus
  | success | errorInit | errorSemaphore | errorEvent | errorTimeout | invalidHandle
  | errorGeneric
  deriving DecidableEq, Repr

inductive UartSem
  | rxSem | txSem
  deriving DecidableEq, Repr

structure EventBits where
  complete : Bool
  rxError : Bool
  deriving DecidableEq, Repr

inductive RxBuffer
  | rxBuf | rcvBufr
  | buff (address : Nat)
  deriving DecidableEq, Repr

inductive UartOp
  | xSemaphoreTake (sem : UartSem)
  | xSemaphoreGive (sem : UartSem)
  | uartEnableInterrupt
  | uartDisableInterrupt
  | xUartPsvSend (bytes : Memory) (size : UInt32)
  | xUartPsvRecv (buf : RxBuffer) (size : UInt32)
  | txEvent
  | rxEvent (timeout : Nat)
  /-- `cb_msg.receivedBytes`, as the interrupt handler left it. -/
  | receivedBytes
  | rxByte (index : Nat)
  | secureMemset (buf : RxBuffer) (value : UInt8) (size : UInt32)
  /-- `rx_buf` is copied to `g_scData` and `isPacketReceived` is set. -/
  | packetReceived (size : UInt32)
  | configAssert (holds : Bool)

abbrev UartOp.Answer : UartOp → Type
  | .xSemaphoreTake _ | .xSemaphoreGive _ => Bool
  | .xUartPsvRecv _ _ | .receivedBytes => UInt32
  | .txEvent | .rxEvent _ => EventBits
  | .rxByte _ => UInt8
  | _ => Unit

abbrev UartProg := Prog UartOp UartOp.Answer

/-! ## The functions -/

def uartShmAcquire (sem : UartSem) : UartProg Bool := Prog.perform (UartOp.xSemaphoreTake sem)

def uartShmRelease (sem : UartSem) : UartProg Bool := Prog.perform (UartOp.xSemaphoreGive sem)

def uartEnableInterrupt : UartProg Unit := Prog.perform UartOp.uartEnableInterrupt

def uartDisableInterrupt : UartProg Unit := Prog.perform UartOp.uartDisableInterrupt

def minByteCntForScPktValidation : UInt32 := 2
def bslMaxRcvDataSize : UInt32 := 32

section Functions

-- `UART_TX_FIFO_THRESHOLD` is a constant of the driver's header.
variable (txFifoThreshold : UInt32)

def waitSent (size : UInt32) : UartProg UartStatus :=
  if txFifoThreshold + 2 ≤ size then do
    let ev : EventBits ← Prog.perform UartOp.txEvent
    if ev.complete = true then return .success else return .errorEvent
  else return .success

def uartRtosSend (buf : Option Memory) (size : UInt32) : UartProg UartStatus :=
  match buf with
  | none => return .errorGeneric
  | some bytes =>
      if size = 0 then return .errorGeneric
      else do
        let acquired ← uartShmAcquire .txSem
        if acquired = false then return .errorSemaphore
        else
          Prog.perform (UartOp.xUartPsvSend bytes size)
          let retVal ← waitSent txFifoThreshold size
          let released ← uartShmRelease .txSem
          if released = false then return .errorSemaphore else return retVal

def uartRtosReceiveSetBuffer (buf : Option RxBuffer) (size received : UInt32) :
    UartProg (UartStatus × UInt32) :=
  match buf with
  | none => return (.errorGeneric, received)
  | some buf => do
      let acquired ← uartShmAcquire .rxSem
      if acquired = false then return (.errorSemaphore, received)
      else
        uartDisableInterrupt
        let received : UInt32 ← Prog.perform (UartOp.xUartPsvRecv buf size)
        uartEnableInterrupt
        return (.success, received)

def takeReceived (ev : EventBits) (received : UInt32) : UartProg (UartStatus × UInt32) :=
  if ev.complete = true then do
    let received : UInt32 ← Prog.perform UartOp.receivedBytes
    return (.success, received)
  else if ev.rxError = true then return (.errorEvent, 0)
  else return (.errorTimeout, received)

def uartRtosReceiveWait (received : UInt32) (timeout : Nat) : UartProg (UartStatus × UInt32) := do
  let ev : EventBits ← Prog.perform (UartOp.rxEvent timeout)
  uartDisableInterrupt
  let (retVal, received) ← takeReceived ev received
  let released ← uartShmRelease .rxSem
  if released = false then return (.errorSemaphore, received) else return (retVal, received)

def vmcRecoverUart (buff : Option RxBuffer) (size : UInt32) : UartProg Bool := do
  let (uartRetVal, rcvdCnt) ← uartRtosReceiveSetBuffer buff size 0
  if uartRetVal ≠ .success then return false
  else
    let _ ← uartRtosReceiveWait rcvdCnt 2000
    match buff with
    | none => return true
    | some buff =>
        Prog.perform (UartOp.secureMemset buff 0 size)
        return true

/-- `VMC_Validate_SC_Packet` reads `rx_buf`. -/
def readRxBuf : (access : Access) → UartProg access.Answer
  | .read index => Prog.perform (UartOp.rxByte index)
  | .write _ _ => return ()

def takePacket (expectedMsgLength : UInt8) (receivedCount : UInt32) : UartProg Bool := do
  let retVal := decide (expectedMsgLength.toUInt32 = receivedCount)
  Prog.perform (UartOp.configAssert (receivedCount.toNat ≤ maxVmcScUartBufSize))
  if minByteCntForScPktValidation < receivedCount then
    let valid ← (vmcValidateScPacket receivedCount).interpret readRxBuf
    if valid = true then
      Prog.perform (UartOp.packetReceived receivedCount)
      return retVal
    else
      let _ ← vmcRecoverUart (some .rxBuf) (UInt32.ofNat maxVmcScUartBufSize)
      return retVal
  else return false

def vmcUartCmdTransaction (messageId flags payloadLength : UInt8) (payload : Memory)
    (expectedMsgLength : UInt8) : UartProg Bool := do
  Prog.perform (UartOp.secureMemset .rxBuf 0 (UInt32.ofNat maxVmcScUartBufSize))
  let (uartRetVal, receivedCount) ←
    uartRtosReceiveSetBuffer (some .rxBuf) expectedMsgLength.toUInt32 0
  if uartRetVal ≠ .success then return false
  else
    let tx := vmcUartCmdTransactionFrame messageId flags payloadLength payload
    let uartRetVal ← uartRtosSend txFifoThreshold (some tx.bytes) tx.len.toUInt32
    if uartRetVal ≠ .success then
      uartDisableInterrupt
      let _ ← uartShmRelease .rxSem
      return false
    else
      let (uartRetVal, receivedCount) ← uartRtosReceiveWait receivedCount 500
      if uartRetVal = .success then takePacket expectedMsgLength receivedCount
      else
        uartDisableInterrupt
        if uartRetVal = .errorGeneric then
          let _ ← uartShmRelease .rxSem
          return false
        else return false

def receiveResponse (bytesToRecv rcvdByteCount : UInt32) : UartProg Bool := do
  let (uartRetVal, rcvdByteCount) ← uartRtosReceiveWait rcvdByteCount 2000
  if uartRetVal = .success then return decide (bytesToRecv = rcvdByteCount)
  else if uartRetVal = .errorGeneric then
    let _ ← uartShmRelease .rxSem
    return false
  else return false

def sendRequest (sendBuf : Option Memory) (bytesToSend : UInt32) (recvResp : Bool)
    (bytesToRecv rcvdByteCount : UInt32) : UartProg Bool := do
  let uartRetVal ← uartRtosSend txFifoThreshold sendBuf bytesToSend
  if uartRetVal = .success then
    if recvResp = true then receiveResponse bytesToRecv rcvdByteCount
    else
      uartDisableInterrupt
      return true
  else if recvResp = true then
    let released ← uartShmRelease .rxSem
    if released = false then return false
    else
      uartDisableInterrupt
      return false
  else
    uartDisableInterrupt
    return false

def doUartTransaction (sendBuf : Option Memory) (bytesToSend : UInt32) (recvResp : Bool)
    (bytesToRecv : UInt32) : UartProg Bool := do
  Prog.perform (UartOp.secureMemset .rcvBufr 0xFF bslMaxRcvDataSize)
  if recvResp = true then
    let (uartRetVal, rcvdByteCount) ← uartRtosReceiveSetBuffer (some .rcvBufr) bytesToRecv 0
    if uartRetVal ≠ .success then return false
    else sendRequest txFifoThreshold sendBuf bytesToSend recvResp bytesToRecv rcvdByteCount
  else
    uartEnableInterrupt
    sendRequest txFifoThreshold sendBuf bytesToSend recvResp bytesToRecv 0

end Functions

/-! ## The semaphores -/

structure Semaphores where
  rxSem : Bool
  txSem : Bool
  deriving DecidableEq, Repr

namespace Semaphores

def free : Semaphores := ⟨false, false⟩

def held (s : Semaphores) : UartSem → Bool
  | .rxSem => s.rxSem
  | .txSem => s.txSem

def set (s : Semaphores) (value : Bool) : UartSem → Semaphores
  | .rxSem => { s with rxSem := value }
  | .txSem => { s with txSem := value }

@[simp] theorem held_set (s : Semaphores) (value : Bool) (sem : UartSem) :
    (s.set value sem).held sem = value := by
  cases sem <;> rfl

private theorem set_set {s : Semaphores} {sem : UartSem} {value value' : Bool}
    (h : s.held sem = value') : (s.set value sem).set value' sem = s := by
  subst h
  cases sem <;> rfl

end Semaphores

def UartOp.isSemaphore : UartOp → Bool
  | .xSemaphoreTake _ | .xSemaphoreGive _ => true
  | _ => false

/-- A mutex is taken when it is free and given when it is held; the rest is not up to them. -/
inductive UartStep : Semaphores → (op : UartOp) → op.Answer → Semaphores → Prop
  | taken {s sem} (hfree : s.held sem = false) :
      UartStep s (.xSemaphoreTake sem) true (s.set true sem)
  | busy {s sem} (hheld : s.held sem = true) : UartStep s (.xSemaphoreTake sem) false s
  | given {s sem} (hheld : s.held sem = true) :
      UartStep s (.xSemaphoreGive sem) true (s.set false sem)
  | notHeld {s sem} (hfree : s.held sem = false) : UartStep s (.xSemaphoreGive sem) false s
  | other {s} {op : UartOp} (hop : op.isSemaphore = false) (answer : op.Answer) :
      UartStep s op answer s

/-- A semaphore is given by who holds it, and not taken by who holds it. -/
def Disciplined (s : Semaphores) : UartOp → Prop
  | .xSemaphoreTake sem => s.held sem = false
  | .xSemaphoreGive sem => s.held sem = true
  | _ => True

/-! ## What each function does to them -/

section Specs

variable {α : Type} {s : Semaphores} {sem : UartSem} {post : α → Semaphores → Prop}

private theorem safe_other {op : UartOp} (hop : op.isSemaphore = false) {f : op.Answer → UartProg α}
    (h : ∀ answer, Prog.Safe UartStep Disciplined post (f answer) s) :
    Prog.Safe UartStep Disciplined post (Prog.perform op >>= f) s := by
  refine (Prog.safe_perform_bind op).2 ⟨?_, fun answer s' hstep => ?_⟩
  · cases op <;> trivial
  · cases hstep with
    | other => exact h answer
    | _ => cases hop

private theorem safe_acquire {f : Bool → UartProg α} (hfree : s.held sem = false)
    (h : Prog.Safe UartStep Disciplined post (f true) (s.set true sem)) :
    Prog.Safe UartStep Disciplined post (uartShmAcquire sem >>= f) s := by
  refine (Prog.safe_perform_bind (UartOp.xSemaphoreTake sem)).2 ⟨hfree, fun answer s' hstep => ?_⟩
  cases hstep with
  | taken => exact h
  | busy hheld => simp [hfree] at hheld
  | other hop => cases hop

private theorem safe_release {f : Bool → UartProg α} (hheld : s.held sem = true)
    (h : Prog.Safe UartStep Disciplined post (f true) (s.set false sem)) :
    Prog.Safe UartStep Disciplined post (uartShmRelease sem >>= f) s := by
  refine (Prog.safe_perform_bind (UartOp.xSemaphoreGive sem)).2 ⟨hheld, fun answer s' hstep => ?_⟩
  cases hstep with
  | given => exact h
  | notHeld hfree => simp [hheld] at hfree
  | other hop => cases hop

variable {txFifoThreshold : UInt32}

private theorem safe_waitSent (size : UInt32) :
    Prog.Safe UartStep Disciplined (fun _ s' => s' = s) (waitSent txFifoThreshold size) s := by
  unfold waitSent
  split
  · refine @safe_other _ _ _ .txEvent rfl _ fun ev => ?_
    split <;> rfl
  · rfl

private theorem safe_uartRtosSend (hfree : s.held .txSem = false) (buf : Option Memory)
    (size : UInt32) :
    Prog.Safe UartStep Disciplined (fun _ s' => s' = s)
      (uartRtosSend txFifoThreshold buf size) s := by
  unfold uartRtosSend
  cases buf with
  | none => rfl
  | some bytes =>
      dsimp only
      split
      · rfl
      · refine safe_acquire hfree ?_
        rw [if_neg (by decide)]
        refine @safe_other _ _ _ (.xUartPsvSend bytes size) rfl _ fun _ => ?_
        refine (safe_waitSent size).bind fun retVal s' hs' => ?_
        subst hs'
        refine safe_release (Semaphores.held_set _ _ _) ?_
        exact Semaphores.set_set hfree

theorem safe_setBuffer (hfree : s.held .rxSem = false) (buf : Option RxBuffer)
    (size received : UInt32) :
    Prog.Safe UartStep Disciplined
      (fun result s' => s' = if result.1 = .success then s.set true .rxSem else s)
      (uartRtosReceiveSetBuffer buf size received) s := by
  unfold uartRtosReceiveSetBuffer
  cases buf with
  | none => rfl
  | some buf =>
      refine safe_acquire hfree ?_
      rw [if_neg (by decide)]
      refine @safe_other _ _ _ .uartDisableInterrupt rfl _ fun _ => ?_
      refine @safe_other _ _ _ (.xUartPsvRecv buf size) rfl _ fun received => ?_
      exact @safe_other _ _ _ .uartEnableInterrupt rfl _ fun _ => rfl

private theorem safe_takeReceived (ev : EventBits) (received : UInt32) :
    Prog.Safe UartStep Disciplined (fun result s' => s' = s ∧ result.1 ≠ .errorGeneric)
      (takeReceived ev received) s := by
  unfold takeReceived
  split
  · exact @safe_other _ _ _ .receivedBytes rfl _ fun received => ⟨rfl, by simp⟩
  · split <;> exact ⟨rfl, by simp⟩

private theorem safe_receiveWait (hheld : s.held .rxSem = true) (received : UInt32)
    (timeout : Nat) :
    Prog.Safe UartStep Disciplined
      (fun result s' => s' = s.set false .rxSem ∧ result.1 ≠ .errorGeneric)
      (uartRtosReceiveWait received timeout) s := by
  unfold uartRtosReceiveWait
  refine @safe_other _ _ _ (.rxEvent timeout) rfl _ fun ev => ?_
  refine @safe_other _ _ _ .uartDisableInterrupt rfl _ fun _ => ?_
  refine (safe_takeReceived ev received).bind fun result s' hresult => ?_
  obtain ⟨rfl, hstatus⟩ := hresult
  exact safe_release hheld ⟨rfl, hstatus⟩

private theorem safe_setBuffer_bind {f : UartStatus × UInt32 → UartProg α} {buf : Option RxBuffer}
    {size received : UInt32} (hfree : s.held .rxSem = false)
    (hfailed : ∀ status received, status ≠ .success →
      Prog.Safe UartStep Disciplined post (f (status, received)) s)
    (hset : ∀ received,
      Prog.Safe UartStep Disciplined post (f (.success, received)) (s.set true .rxSem)) :
    Prog.Safe UartStep Disciplined post (uartRtosReceiveSetBuffer buf size received >>= f) s := by
  refine (safe_setBuffer hfree buf size received).bind ?_
  rintro ⟨status, received⟩ s' rfl
  by_cases hstatus : status = .success
  · subst hstatus
    exact hset received
  · rw [if_neg hstatus]
    exact hfailed status received hstatus

private theorem safe_receiveWait_bind {f : UartStatus × UInt32 → UartProg α} {received : UInt32}
    {timeout : Nat} (hheld : s.held .rxSem = true)
    (h : ∀ status received, status ≠ .errorGeneric →
      Prog.Safe UartStep Disciplined post (f (status, received)) (s.set false .rxSem)) :
    Prog.Safe UartStep Disciplined post (uartRtosReceiveWait received timeout >>= f) s := by
  refine (safe_receiveWait hheld received timeout).bind ?_
  rintro ⟨status, received⟩ s' ⟨rfl, hstatus⟩
  exact h status received hstatus

private theorem safe_giveBack (hheld : s.held .rxSem = true) :
    Prog.Safe UartStep Disciplined (fun _ s' => s' = s.set false .rxSem)
      (do let _ ← uartShmRelease .rxSem; return false : UartProg Bool) s :=
  safe_release hheld rfl

theorem safe_vmcRecoverUart (hfree : s.held .rxSem = false) (buff : Option RxBuffer)
    (size : UInt32) :
    Prog.Safe UartStep Disciplined (fun _ s' => s' = s) (vmcRecoverUart buff size) s := by
  unfold vmcRecoverUart
  apply safe_setBuffer_bind hfree
  · intro status received hstatus
    simp [hstatus]
  · intro received
    refine safe_receiveWait_bind (Semaphores.held_set _ _ _) fun status received _ => ?_
    rw [Semaphores.set_set hfree]
    cases buff with
    | none => rfl
    | some buff => exact @safe_other _ _ _ (.secureMemset buff 0 size) rfl _ fun _ => rfl

theorem safe_readRxBuf (access : Access) :
    Prog.Safe UartStep Disciplined (fun _ s' => s' = s) (readRxBuf access) s := by
  cases access with
  | read index =>
      exact ⟨trivial, fun _ _ hstep => by cases hstep; rfl⟩
  | write target value => rfl

private theorem safe_takePacket (hfree : s.held .rxSem = false) (expectedMsgLength : UInt8)
    (receivedCount : UInt32) :
    Prog.Safe UartStep Disciplined (fun _ s' => s' = s)
      (takePacket expectedMsgLength receivedCount) s := by
  unfold takePacket
  refine @safe_other _ _ _ (.configAssert _) rfl _ fun _ => ?_
  split
  · have hvalidate := @Prog.safe_interpret _ _ _ _ _ readRxBuf _ UartStep Disciplined (· = s)
      (fun access s' hs' => by subst hs'; exact safe_readRxBuf access)
      (vmcValidateScPacket receivedCount) s rfl
    refine hvalidate.bind fun valid s' hs' => ?_
    subst hs'
    split
    · exact @safe_other _ _ _ (.packetReceived receivedCount) rfl _ fun _ => rfl
    · refine (safe_vmcRecoverUart hfree _ _).bind fun _ s' hs' => ?_
      exact hs'
  · rfl

end Specs

/-! ## The calls -/

section Calls

variable {s : Semaphores} (txFifoThreshold : UInt32)

private theorem safe_vmcUartCmdTransaction (messageId flags payloadLength : UInt8)
    (payload : Memory)
    (expectedMsgLength : UInt8) :
    Prog.Safe UartStep Disciplined (fun _ s' => s' = .free)
      (vmcUartCmdTransaction txFifoThreshold messageId flags payloadLength payload
        expectedMsgLength) .free := by
  unfold vmcUartCmdTransaction
  refine @safe_other _ _ _ (.secureMemset _ _ _) rfl _ fun _ => ?_
  apply safe_setBuffer_bind rfl
  · intro status received hstatus
    simp [hstatus]
  · intro received
    refine (safe_uartRtosSend rfl _ _).bind fun status s' hs' => ?_
    subst hs'
    split
    · exact @safe_other _ _ _ .uartDisableInterrupt rfl _ fun _ => safe_giveBack rfl
    · refine safe_receiveWait_bind rfl fun status received hstatus => ?_
      dsimp only
      split
      · exact safe_takePacket rfl _ _
      · exact @safe_other _ _ _ .uartDisableInterrupt rfl _ fun _ => rfl

private theorem safe_sendRequest (sendBuf : Option Memory) (bytesToSend : UInt32) (recvResp : Bool)
    (bytesToRecv rcvdByteCount : UInt32) :
    Prog.Safe UartStep Disciplined (fun _ s' => s' = .free)
      (sendRequest txFifoThreshold sendBuf bytesToSend recvResp bytesToRecv rcvdByteCount)
      (Semaphores.free.set recvResp .rxSem) := by
  unfold sendRequest
  refine (safe_uartRtosSend rfl _ _).bind fun status s' hs' => ?_
  subst hs'
  cases recvResp with
  | false =>
      split <;> exact @safe_other _ _ _ .uartDisableInterrupt rfl _ fun _ => rfl
  | true =>
      split
      · refine safe_receiveWait_bind rfl fun status received hstatus => ?_
        dsimp only
        split <;> rfl
      · refine safe_release rfl ?_
        exact @safe_other _ _ _ .uartDisableInterrupt rfl _ fun _ => rfl

private theorem safe_doUartTransaction (sendBuf : Option Memory) (bytesToSend : UInt32)
    (recvResp : Bool) (bytesToRecv : UInt32) :
    Prog.Safe UartStep Disciplined (fun _ s' => s' = .free)
      (doUartTransaction txFifoThreshold sendBuf bytesToSend recvResp bytesToRecv) .free := by
  unfold doUartTransaction
  refine @safe_other _ _ _ (.secureMemset _ _ _) rfl _ fun _ => ?_
  cases recvResp with
  | false =>
      exact @safe_other _ _ _ .uartEnableInterrupt rfl _ fun _ =>
        safe_sendRequest txFifoThreshold sendBuf bytesToSend false bytesToRecv 0
  | true =>
      apply safe_setBuffer_bind rfl
      · intro status received hstatus
        simp [hstatus]
      · intro received
        exact safe_sendRequest txFifoThreshold sendBuf bytesToSend true bytesToRecv _

end Calls

inductive UartCall
  | vmcUartCmdTransaction (messageId flags payloadLength : UInt8) (payload : Memory)
      (expectedMsgLength : UInt8)
  | doUartTransaction (sendBuf : Option Memory) (bytesToSend : UInt32) (recvResp : Bool)
      (bytesToRecv : UInt32)
  | vmcRecoverUart (buff : Option RxBuffer) (size : UInt32)

def UartCall.body (txFifoThreshold : UInt32) : UartCall → UartProg Bool
  | .vmcUartCmdTransaction messageId flags payloadLength payload expectedMsgLength =>
      Uart.vmcUartCmdTransaction txFifoThreshold messageId flags payloadLength payload
        expectedMsgLength
  | .doUartTransaction sendBuf bytesToSend recvResp bytesToRecv =>
      Uart.doUartTransaction txFifoThreshold sendBuf bytesToSend recvResp bytesToRecv
  | .vmcRecoverUart buff size => Uart.vmcRecoverUart buff size

theorem safe_body (txFifoThreshold : UInt32) (call : UartCall) :
    Prog.Safe UartStep Disciplined (fun _ s' => s' = .free) (call.body txFifoThreshold) .free := by
  cases call with
  | vmcUartCmdTransaction => exact safe_vmcUartCmdTransaction ..
  | doUartTransaction => exact safe_doUartTransaction ..
  | vmcRecoverUart => exact safe_vmcRecoverUart rfl _ _

/-- One task's calls, one behind the other. -/
def uartTask (txFifoThreshold : UInt32) : TransitionSystem Semaphores UartCall where
  init s := s = .free
  step s call s' := ∃ ret, Prog.Returns UartStep s (call.body txFifoThreshold) ret s'

private theorem uartTask_free {txFifoThreshold : UInt32} {s : Semaphores}
    (h : (uartTask txFifoThreshold).Reachable s) : s = .free := by
  refine h.invariant ⟨fun _ hinit => hinit, fun s call s' hs hstep => ?_⟩
  obtain ⟨ret, hreturns⟩ := hstep
  subst hs
  exact (safe_body txFifoThreshold call).returns hreturns

/-- Both free between the calls, and given in a call only while held. -/
structure Balanced (txFifoThreshold : UInt32) : Prop where
  free : ∀ s, (uartTask txFifoThreshold).Reachable s → s = .free
  given : ∀ s (call : UartCall) s' sem, (uartTask txFifoThreshold).Reachable s →
    Prog.Issues UartStep s (call.body txFifoThreshold) s' (.xSemaphoreGive sem) →
      s'.held sem = true

theorem uartTask_balanced (txFifoThreshold : UInt32) : Balanced txFifoThreshold := by
  refine ⟨fun s h => uartTask_free h, fun s call s' sem h hissues => ?_⟩
  obtain rfl := uartTask_free h
  exact (safe_body txFifoThreshold call).issues hissues

/-! ## What follows from it -/

private theorem exists_uartStep (s : Semaphores) (op : UartOp) :
    ∃ answer s', UartStep s op answer s' := by
  cases op with
  | xSemaphoreTake sem =>
      cases hheld : s.held sem with
      | false => exact ⟨true, _, .taken hheld⟩
      | true => exact ⟨false, _, .busy hheld⟩
  | xSemaphoreGive sem =>
      cases hheld : s.held sem with
      | false => exact ⟨false, _, .notHeld hheld⟩
      | true => exact ⟨true, _, .given hheld⟩
  | xUartPsvRecv | receivedBytes => exact ⟨(0 : UInt32), s, .other rfl _⟩
  | txEvent | rxEvent => exact ⟨(⟨true, false⟩ : EventBits), s, .other rfl _⟩
  | rxByte => exact ⟨(0 : UInt8), s, .other rfl _⟩
  | _ => exact ⟨(), s, .other rfl _⟩

/-- No call of the task finds a semaphore taken, and each can return. -/
theorem uartTask_neverRefused {txFifoThreshold : UInt32} {s : Semaphores}
    (h : (uartTask txFifoThreshold).Reachable s) (call : UartCall) :
    (∃ s', (uartTask txFifoThreshold).step s call s') ∧
      ∀ s' sem, Prog.Issues UartStep s (call.body txFifoThreshold) s' (.xSemaphoreTake sem) →
        s'.held sem = false := by
  obtain rfl := uartTask_free h
  have hsafe := safe_body txFifoThreshold call
  refine ⟨?_, fun s' sem hissues => hsafe.issues hissues⟩
  obtain ⟨ret, s', hreturns, -⟩ := hsafe.exists_returns fun s op _ => exists_uartStep s op
  exact ⟨s', ret, hreturns⟩

end Vmr.Sc.Uart
