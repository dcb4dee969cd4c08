import Vmr.Sc.VersionQuery
import Vmr.Lib.Prog

/-!
# The SC firmware update

`update_scfw` drives a state machine over the line to the satellite controller.
Every state sends one request and looks at the reply; a state that failed five
times ends the update.  The statics of all states are one `UpdateState`: what
the source declares as a `static u8 retry_count` in each function is
`retryCount` of that function.

The line is an operation of the program: a transaction answers with the status
of the three driver calls it may make and with the bytes that came in.  `caller`
names the function that made it, and is there for the log only.
-/

namespace Vmr.Sc

open Vmr.Lib

def scUpdateMaxRetryCount : UInt8 := 5
def modeVerMaxRetryCount : UInt8 := 3

def escapeChar : UInt8 := 0x5C
def stx : UInt8 := 0x02
def msp432CommsMsgGood : UInt8 := 0xFE
def bslSyncReqChar : UInt8 := 0xFF
def bslSyncSuccess : UInt8 := 0x00
def bslRespCmdChar : UInt8 := 0x3B
def bslRespMsgChar : UInt8 := 0x00
def bslCrcSuccessResp : UInt8 := 0x3A
def bslLoadPcSuccessResp : UInt8 := 0x00
def cmdRxPassword : UInt8 := 0x21
def cmdMassErase : UInt8 := 0x15
def cmdRebootReset : UInt8 := 0x25
def cmdCrcCheck32 : UInt8 := 0x26
def cmdLoadPc32 : UInt8 := 0x27

def scBslSyncedRespSize : Nat := 0x0B
def bslUnknownMsgRespSize : Nat := 0x08
def bslSyncedRespSize : Nat := 0x01
def scEnableBslRespSize : Nat := 0x0B
def bslUnlockPasswordRespSize : Nat := 0x08
def bslMassEraseRespSize : Nat := 0x08
def bslDataTx32RespSize : Nat := 0x08
def bslCrcRespSize : Nat := 0x09
def bslLoadPcRespSize : Nat := 0x01

def bslMaxRcvDataSize : Nat := 32

/-! ## Transactions -/

inductive Caller where
  | syncScBsl | enableScBsl | syncVmcBsl | unlockBsl | massEraseBsl
  | sendDataToBsl | matchcrcPostwrite | loadpcBsl | rebootBsl
  deriving DecidableEq, Repr

structure Transaction where
  caller : Caller
  sendBuf : List UInt8
  /-- `bytes_to_recv`, or `none` where `recv_resp` is false. -/
  recv : Option Nat
  deriving DecidableEq, Repr

/--
Whether `UART_RTOS_Receive_Set_Buffer`, `UART_RTOS_Send` and
`UART_RTOS_Receive_Wait` succeed, the bytes received, and the memory that lies
behind the receive buffer by then.
-/
structure LineOutcome where
  setBuffer : Bool
  send : Bool
  wait : Bool
  reply : List UInt8
  behind : Memory

abbrev LineProg := Prog Transaction fun _ => LineOutcome

def transactionOk (transaction : Transaction) (outcome : LineOutcome) : Bool :=
  match transaction.recv with
  | none => outcome.send
  | some bytesToRecv =>
      outcome.setBuffer && outcome.send && outcome.wait && bytesToRecv == outcome.reply.length

def rcvBufrAfter (outcome : LineOutcome) : Memory := fun index =>
  if index < bslMaxRcvDataSize then outcome.reply.getD index 0xFF
  else outcome.behind (index - bslMaxRcvDataSize)

/-! ## Statics -/

inductive ScUpdateStatus where
  | success | failure | inProgress
  deriving DecidableEq, Repr

inductive ScUpdateState where
  | scStateIdle | scEnableBsl | bslSynced | bslUnlockPassword | bslMassErase
  | bslSectorErase | bslDataTx32 | bslCrcRx32 | bslLoadPc32 | mspGetStatus
  | bslRebootReset | txBslVersion | scBslSync
  deriving DecidableEq, Repr

inductive ScUpdateError where
  | noError | upToDateNoUpdateReq | scBslSyncFailed | enBslFailed | vmcBslSyncFailed
  | bslUnlockPasswordFailed | eraseFailed | invalidScSymbolFound | postCrcFailed
  | invalidBslResp | noValidFptScFound | failedToGetBslVersion | operationTimedout
  deriving DecidableEq, Repr

structure UpdateState where
  updateStatus : ScUpdateStatus
  updateState : ScUpdateState
  updateError : ScUpdateError
  image : ScImage
  rcvBufr : Memory
  /-- The statics of `sync_sc_bsl` beside its `retry_count`. -/
  modeRetryCnt : UInt8
  bytesToRcv : Nat
  retryCount : Caller → UInt8

namespace UpdateState

variable (st : UpdateState)

def withRetry (caller : Caller) (count : UInt8) : UpdateState :=
  { st with retryCount := Function.update st.retryCount caller count }

def countRetry (caller : Caller) : UpdateState :=
  st.withRetry caller (st.retryCount caller + 1)

def setProgress (progress : Progress) : UpdateState :=
  { st with image := { st.image with parser := { st.image.parser with progress } } }

def setUpdateProgress (value : Int32) : UpdateState :=
  st.setProgress { st.image.parser.progress with updateProgress := value }

def fail (error : ScUpdateError) : UpdateState :=
  { st with updateStatus := .failure, updateState := .scStateIdle, updateError := error }

/-- The end of a state: after five failures in a row the update is given up. -/
def giveUp (caller : Caller) (error : ScUpdateError) : UpdateState :=
  if scUpdateMaxRetryCount ≤ st.retryCount caller then
    (st.withRetry caller 0).fail error
  else st

end UpdateState

def doUartTransaction (caller : Caller) (sendBuf : List UInt8) (recv : Option Nat)
    (st : UpdateState) : LineProg (Bool × UpdateState) := do
  let transaction := { caller, sendBuf, recv }
  let outcome ← Prog.perform transaction
  return (transactionOk transaction outcome, { st with rcvBufr := rcvBufrAfter outcome })

/-! ## The states before the data -/

def syncedReply (st : UpdateState) : UpdateState :=
  let st := { st with modeRetryCnt := st.modeRetryCnt + 1 }
  if modeVerMaxRetryCount ≤ st.modeRetryCnt then
    { st.withRetry .syncScBsl 0 with
      modeRetryCnt := 0
      updateState := .bslUnlockPassword
      bytesToRcv := scBslSyncedRespSize }
  else st

def syncReply (st : UpdateState) : UpdateState :=
  if st.rcvBufr 0 = escapeChar ∧ st.rcvBufr 1 = stx then
    { st.withRetry .syncScBsl 0 with modeRetryCnt := 0, updateState := .scEnableBsl }
  else if st.bytesToRcv = bslUnknownMsgRespSize ∧
      vmcValidateBslResp st.rcvBufr st.bytesToRcv = true ∧
      st.modeRetryCnt ≤ modeVerMaxRetryCount then
    syncedReply st
  else if st.bytesToRcv = bslSyncedRespSize ∧ st.rcvBufr 0 = bslSyncSuccess ∧
      st.modeRetryCnt ≤ modeVerMaxRetryCount then
    syncedReply st
  else
    { st.countRetry .syncScBsl with modeRetryCnt := 0, updateState := .scBslSync }

/-- After five failures the next kind of reply is tried, and after the last one none. -/
def syncRetries (st : UpdateState) : UpdateState :=
  if scUpdateMaxRetryCount ≤ st.retryCount .syncScBsl then
    let spent := { st.withRetry .syncScBsl 0 with modeRetryCnt := 0 }
    if st.bytesToRcv = bslSyncedRespSize then
      { spent.fail .scBslSyncFailed with bytesToRcv := scBslSyncedRespSize }
    else if st.bytesToRcv = scBslSyncedRespSize then
      { spent with bytesToRcv := bslUnknownMsgRespSize }
    else if st.bytesToRcv = bslUnknownMsgRespSize then
      { spent with bytesToRcv := bslSyncedRespSize }
    else spent
  else st

def syncScBsl (st : UpdateState) : LineProg UpdateState := do
  let (ok, st) ← doUartTransaction .syncScBsl [bslSyncReqChar] (some st.bytesToRcv) st
  return syncRetries (if ok then syncReply st else st.countRetry .syncScBsl)

def enableReply (st : UpdateState) : UpdateState :=
  if st.rcvBufr 0 = escapeChar ∧ st.rcvBufr 2 = msp432CommsMsgGood then
    { st.withRetry .enableScBsl 0 with updateState := .bslSynced }
  else
    { st.countRetry .enableScBsl with updateState := .scEnableBsl }

def enableScBsl (st : UpdateState) : LineProg UpdateState := do
  let enBsl := [0x5C, 0x2, 0x1, 0x0, 0x0, 0x1, 0x0, 0x5C, 0x3]
  let (ok, st) ← doUartTransaction .enableScBsl enBsl (some scEnableBslRespSize) st
  let st := if ok then enableReply st else st.countRetry .enableScBsl
  return st.giveUp .enableScBsl .enBslFailed

def vmcSyncReply (st : UpdateState) : UpdateState :=
  if st.rcvBufr 0 = bslSyncSuccess then
    { (st.withRetry .syncVmcBsl 0).setUpdateProgress 1 with updateState := .bslUnlockPassword }
  else
    { st.countRetry .syncVmcBsl with updateState := .bslSynced }

def syncVmcBsl (isVck5000 : Bool) (st : UpdateState) : LineProg UpdateState := do
  let bytesToRcv :=
    if isVck5000 then bslSyncedRespSize else bslSyncedRespSize + bslUnknownMsgRespSize
  let (ok, st) ← doUartTransaction .syncVmcBsl [bslSyncReqChar] (some bytesToRcv) st
  let st := if ok then vmcSyncReply st else st.countRetry .syncVmcBsl
  return st.giveUp .syncVmcBsl .vmcBslSyncFailed

/--
`unlock_bsl` and `mass_erase_bsl`: a command whose reply must be the loader's
success message.  `self` is the state that sends it and `next` the one after.
-/
def bslCommand (caller : Caller) (request : List UInt8) (respSize : Nat)
    (self next : ScUpdateState) (error : ScUpdateError) (st : UpdateState) :
    LineProg UpdateState := do
  let (ok, st) ← doUartTransaction caller request (some respSize) st
  let st :=
    if ok then
      if vmcValidateBslResp st.rcvBufr respSize = true ∧
          st.rcvBufr bslRespCmdOffset = bslRespCmdChar ∧
          st.rcvBufr bslRespMsgOffset = bslRespMsgChar then
        { st.withRetry caller 0 with updateState := next }
      else
        { st.countRetry caller with updateState := self }
    else st.countRetry caller
  return st.giveUp caller error

def bslPwd : List UInt8 :=
  [bslMsgHeader, 0x39, 0x00,
    cmdRxPassword, 0x58, 0x41, 0x50, 0x3A, 0x20, 0x58, 0x69, 0x6C,
    0x69, 0x6E, 0x78, 0x20, 0x41, 0x6C, 0x6C, 0x20, 0x50, 0x72, 0x6F,
    0x67, 0x72, 0x61, 0x6D, 0x6D, 0x61, 0x62, 0x6C, 0x65, 0x2C, 0x20,
    0x58, 0x42, 0x42, 0x3A, 0x20, 0x58, 0x69, 0x6C, 0x69, 0x6E, 0x78,
    0x20, 0x42, 0x72, 0x61, 0x6E, 0x64, 0x65, 0x64, 0x20, 0x42, 0x6F,
    0x61, 0x72, 0x64, 0x73, 0x82, 0xE5]

def unlockBsl : UpdateState → LineProg UpdateState :=
  bslCommand .unlockBsl bslPwd bslUnlockPasswordRespSize .bslUnlockPassword .bslMassErase
    .bslUnlockPasswordFailed

def massEraseBsl : UpdateState → LineProg UpdateState :=
  bslCommand .massEraseBsl [bslMsgHeader, 0x01, 0x00, cmdMassErase, 0x64, 0xA3]
    bslMassEraseRespSize .bslMassErase .bslDataTx32 .eraseFailed

/-! ## The data -/

def crcPkt (address length : UInt32) : List UInt8 :=
  let core := [cmdCrcCheck32, byteAt address.toNat 0, byteAt address.toNat 1,
    byteAt address.toNat 2, byteAt address.toNat 3, byteAt length.toNat 0,
    byteAt length.toNat 1]
  let checksum := crc16 core
  [bslMsgHeader, 0x7, 0] ++ core ++ [byteAt checksum.toNat 0, byteAt checksum.toNat 1]

/-- True for `eStatus_Success`, also when the transaction failed or the reply is no frame. -/
def matchcrcPostwrite (writeAddr : UInt32) (st : UpdateState) :
    LineProg (Bool × UpdateState) := do
  let (ok, st) ← doUartTransaction .matchcrcPostwrite
    (crcPkt writeAddr st.image.parser.prevLength) (some bslCrcRespSize) st
  if ok ∧ vmcValidateBslResp st.rcvBufr bslCrcRespSize = true then
    if st.rcvBufr 4 = bslCrcSuccessResp then
      return (st.image.parser.dataCrc = le16 (st.rcvBufr 5) (st.rcvBufr 6), st)
    else
      return (false, st)
  else
    return (true, st)

def UpdateState.stop (st : UpdateState) (error : ScUpdateError) : UpdateState :=
  { st with updateStatus := .failure, updateError := error }

section Data

variable (flash : Flash) (fuel : Nat)

/-- `while (all_pkt_sent != true)`; a failed transaction goes on with the next packet. -/
def sendPackets : Nat → UpdateState → LineProg (Option UpdateState)
  | 0, _ => return none
  | rounds + 1, st =>
      if st.image.parser.allPktSent then
        return some st
      else
        match nextPacket flash st.image.fptScLoc.text fuel st.image.parser with
        | none => return none
        | some parser => do
            let st := { st with image := { st.image with parser } }
            let (ok, st) ← doUartTransaction .sendDataToBsl parser.packet
              (some bslDataTx32RespSize) st
            if ok then
              if vmcValidateBslResp st.rcvBufr bslDataTx32RespSize = true ∧
                  st.rcvBufr bslRespCmdOffset = bslRespCmdChar ∧
                  st.rcvBufr bslRespMsgOffset = bslRespMsgChar then
                let (matched, st) ← matchcrcPostwrite st.image.parser.parsedScFlashAddr st
                if matched then
                  sendPackets rounds st
                else
                  return some (st.stop .postCrcFailed)
              else
                return some (st.stop .invalidBslResp)
            else
              sendPackets rounds st

def afterData (isVck5000 : Bool) (st : UpdateState) : UpdateState :=
  let parser := { st.image.parser with addrFlag := false, dataPtr := 0 }
  let progress := { parser.progress with currProg := 0, maxDataSlot := 0 }
  let image := { st.image with parser := { parser with progress } }
  let st : UpdateState := { st with image }
  if st.updateStatus ≠ .failure then
    { st with updateState := .bslLoadPc32 }
  else if isVck5000 then
    { st with updateState := .bslRebootReset, updateStatus := .inProgress }
  else
    { st with updateState := .scStateIdle, updateStatus := .failure }

def sendDataToBsl (isVck5000 : Bool) (st : UpdateState) : LineProg (Option UpdateState) := do
  let size := st.image.fptScLoc.size
  let parser := { st.image.parser with dataPtr := 0, allPktSent := false }
  let progress := { parser.progress with maxDataSlot := size / 100 + size % 100 }
  let st := { st with image := { st.image with parser := { parser with progress } } }
  if flash st.image.fptScLoc.text ≠ sectionStart then
    return some (st.fail .invalidScSymbolFound)
  else
    let parser := { st.image.parser with addrFlag := true }
    let sent ← sendPackets flash fuel fuel { st with image := { st.image with parser } }
    return sent.map (afterData isVck5000)

end Data

/-! ## The states behind the data, and the loop -/

def loadpcBsl (st : UpdateState) : LineProg UpdateState := do
  let loadPc := [bslMsgHeader, 0x05, 0x00, cmdLoadPc32, 0x01, 0x02, 0x00, 0x00, 0xB8, 0x66]
  let (ok, st) ← doUartTransaction .loadpcBsl loadPc (some bslLoadPcRespSize) st
  if ok ∧ st.rcvBufr 0 = bslLoadPcSuccessResp then
    let progress := st.image.parser.progress.updateProgress + 1
    return { st.setUpdateProgress progress with
      updateStatus := .success, updateState := .scStateIdle }
  else
    return st

def rebootBsl (st : UpdateState) : LineProg UpdateState := do
  let rebootRst := [bslMsgHeader, 0x01, 0x00, cmdRebootReset, 0x37, 0x95]
  let (ok, st) ← doUartTransaction .rebootBsl rebootRst none st
  if ok then
    return { st with updateStatus := .success, updateState := .scStateIdle }
  else
    return st

section Loop

variable (flash : Flash) (isVck5000 : Bool) (fuel : Nat)

def updateRound (st : UpdateState) : LineProg (Option UpdateState) :=
  match st.updateState with
  | .scBslSync => some <$> syncScBsl st
  | .scEnableBsl => some <$> enableScBsl st
  | .bslSynced => some <$> syncVmcBsl isVck5000 st
  | .bslUnlockPassword => some <$> unlockBsl st
  | .bslMassErase => some <$> massEraseBsl st
  | .bslDataTx32 => sendDataToBsl flash fuel isVck5000 st
  | .bslLoadPc32 => some <$> loadpcBsl st
  | .bslRebootReset => some <$> rebootBsl st
  | _ => return some { st with updateStatus := .failure, updateState := .scStateIdle }

def updateLoop : Nat → UpdateState → LineProg (Option UpdateState)
  | 0, _ => return none
  | rounds + 1, st =>
      if st.updateStatus = .inProgress then do
        match ← updateRound flash isVck5000 fuel st with
        | none => return none
        | some st => updateLoop rounds st
      else
        return some st

def startUpdate (st : UpdateState) : UpdateState :=
  if st.updateState = .scStateIdle ∧
      (st.updateStatus = .success ∨ st.updateStatus = .failure) then
    { st with updateState := .scBslSync, updateStatus := .inProgress, updateError := .noError }
  else st

/-- The statics are cleaned up for the next update. -/
def endUpdate (st : UpdateState) : UpdateState :=
  { st.setProgress { updateProgress := 0, currProg := 0, maxDataSlot := 0 } with
    updateError := .noError
    rcvBufr := fun _ => 0 }

def updateScfw (st : UpdateState) : LineProg (Option (ScUpdateError × UpdateState)) := do
  match ← updateLoop flash isVck5000 fuel fuel (startUpdate st) with
  | none => return none
  | some st => return some (st.updateError, endUpdate st)

end Loop

end Vmr.Sc
