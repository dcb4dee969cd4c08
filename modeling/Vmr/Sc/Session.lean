import Vmr.Sc.SensorValues
import Vmr.Sc.UartLocks
import Vmr.Vmc.ClockScaling

/-!
# Talking to the satellite controller

`cl_vmc_sc_tx_rx_data` is one round of requests, each an exchange over the UART: the
request is sent, and what was received is taken apart if it is the answer that is
awaited.  What the line, the driver and the other modules do is an answer.
-/

namespace Vmr.Sc.Session

open Vmr.Lib Vmr.Sc.Comms Vmr.Sc.Uart

def msp432CommsVmcActiveReq : UInt8 := 0xF0
def msp432CommsVmcVersionPowermodeReq : UInt8 := 0xF1
def scCommsTxI2cSnsr : UInt8 := 0xF3
def scCommsRxI2cSnsrResp : UInt8 := 0xF4
def msp432CommsVmcGetRespSizeReq : UInt8 := 0xF5
def scCommsTxBoardInfo : UInt8 := 0xF7
def msp432CommsGeneralRespLen : UInt8 := 0x0B

def maxRetryToChkScActive : Nat := 10

/-! ## The platforms -/

def msgIdHandler : Vmc.Platform → Option (List UInt8)
  | .vck5000 => some [scCommsRxVoltSnsr, scCommsRxPowerSnsr, scCommsRxTempSnsr, scCommsTxI2cSnsr]
  | .v70 => some [scCommsTxI2cSnsr]
  | .v80 => none

def hasScComms (platform : Vmc.Platform) : Bool := platform = .vck5000

/-! ## The operations -/

inductive ScOp
  | uart (op : UartOp)
  /-- `Parse_SC_Data` reads `g_scData` and writes static data. -/
  | scData (access : Access)
  | isPacketReceived
  | clearPacketReceived
  | clearScData
  | readStatic (place : Static)
  | snsrRespStatus
  | setSnsrRespStatus
  | activeRespLen
  | setActiveRespLen (value : UInt8)
  /-- The length and the bytes it leaves in `scPayload`. -/
  | asdmSendI2cSensorsSc
  /-- `fetch_boardinfo_ptr`, which returns an `s32`. -/
  | fetchBoardinfo
  | vTaskDelay (milliseconds : Nat)

abbrev ScOp.Answer : ScOp → Type
  | .uart op => op.Answer
  | .scData access => access.Answer
  | .isPacketReceived | .snsrRespStatus => Bool
  | .readStatic _ => UInt32
  | .activeRespLen => UInt8
  | .asdmSendI2cSensorsSc => UInt8 × Memory
  | .fetchBoardinfo => Int32 × Memory
  | _ => Unit

abbrev ScProg := Prog ScOp ScOp.Answer

/-! ## The functions -/

def vTaskDelay (milliseconds : Nat) : ScProg Unit := Prog.perform (ScOp.vTaskDelay milliseconds)

/-- A static that is a flag. -/
def isSet (place : Static) : ScProg Bool := do
  let value : UInt32 ← Prog.perform (ScOp.readStatic place)
  return value ≠ 0

def readLength (place : Static) : ScProg UInt8 := do
  let value : UInt32 ← Prog.perform (ScOp.readStatic place)
  return value.toUInt8

def parse (expectedMsgid : UInt8) : ScProg Bool :=
  (parseScData expectedMsgid).interpret fun access => Prog.perform (ScOp.scData access)

structure Request where
  messageId : UInt8
  payloadLength : UInt8
  payload : Memory
  expectedMsgLength : UInt8
  expectedMsgid : UInt8

section Functions

variable (txFifoThreshold : UInt32) (platform : Vmc.Platform)

def transaction (request : Request) : ScProg Bool :=
  (vmcUartCmdTransaction txFifoThreshold request.messageId msp432CommsNoFlag request.payloadLength
    request.payload request.expectedMsgLength).interpret fun op => Prog.perform (ScOp.uart op)

/-- What every request of `VMC_SC_COMMS_Tx_Rx` does. -/
def exchange (request : Request) : ScProg Unit := do
  let _ ← transaction txFifoThreshold request
  let received : Bool ← Prog.perform ScOp.isPacketReceived
  if received = true then
    let _ ← parse request.expectedMsgid
    Prog.perform ScOp.clearPacketReceived
    Prog.perform ScOp.clearScData
  else Prog.perform ScOp.clearScData

def plain (messageId expectedMsgLength expectedMsgid : UInt8) : Request :=
  ⟨messageId, 0, fun _ => 0, expectedMsgLength, expectedMsgid⟩

def lengthRequest (data : UInt8) : Request :=
  ⟨msp432CommsVmcGetRespSizeReq, 1, fun a => if a = 0 then data else 0, 11,
    msp432CommsVmcGetRespSizeResp⟩

def getSensorResponseLength (data : UInt8) : ScProg Unit :=
  exchange txFifoThreshold (lengthRequest data)

def sensorExchange (messageId : UInt8) (length : Static) (expectedMsgid : UInt8) : ScProg Unit := do
  let expectedMsgLength ← readLength length
  exchange txFifoThreshold (plain messageId expectedMsgLength expectedMsgid)

def i2cExchange : ScProg Unit := do
  let (payloadLength, payload) : UInt8 × Memory ← Prog.perform ScOp.asdmSendI2cSensorsSc
  exchange txFifoThreshold ⟨scCommsTxI2cSnsr, payloadLength, payload, msp432CommsGeneralRespLen,
    scCommsRxI2cSnsrResp⟩

/-- The returned length is taken as a `u8`, so the check for a negative one never fails. -/
def boardInfoExchange : ScProg Unit := do
  let (payloadLength, payload) : Int32 × Memory ← Prog.perform ScOp.fetchBoardinfo
  exchange txFifoThreshold ⟨scCommsTxBoardInfo, payloadLength.toInt8.toUInt8, payload,
    msp432CommsGeneralRespLen, scCommsRxBoardInfoResp⟩

def activeExchange : ScProg Unit := do
  let expectedMsgLength : UInt8 ← Prog.perform ScOp.activeRespLen
  exchange txFifoThreshold (plain msp432CommsVmcActiveReq expectedMsgLength
    Comms.msp432CommsMsgGood)

def respSizeExchanges : ScProg Unit := do
  getSensorResponseLength txFifoThreshold scCommsRxVoltSnsr
  getSensorResponseLength txFifoThreshold scCommsRxPowerSnsr
  getSensorResponseLength txFifoThreshold scCommsRxTempSnsr
  let voltSensorLength ← isSet .voltSensorLength
  let powerSensorLength ← isSet .powerSensorLength
  let tempSensorLength ← isSet .tempSensorLength
  if voltSensorLength = true ∧ powerSensorLength = true ∧ tempSensorLength = true then
    Prog.perform ScOp.setSnsrRespStatus
  else return ()

def vmcScCommsTxRx (messageId : UInt8) : ScProg Unit :=
  if messageId = scCommsRxVoltSnsr then
    sensorExchange txFifoThreshold scCommsRxVoltSnsr .voltSensorLength scCommsRxVoltSnsrResp
  else if messageId = scCommsRxPowerSnsr then
    sensorExchange txFifoThreshold scCommsRxPowerSnsr .powerSensorLength scCommsRxPowerSnsrResp
  else if messageId = scCommsRxTempSnsr then
    sensorExchange txFifoThreshold scCommsRxTempSnsr .tempSensorLength scCommsRxTempSnsrResp
  else if messageId = scCommsTxI2cSnsr then i2cExchange txFifoThreshold
  else if messageId = scCommsTxBoardInfo then boardInfoExchange txFifoThreshold
  else if messageId = msp432CommsVmcVersionPowermodeReq then
    exchange txFifoThreshold (plain msp432CommsVmcVersionPowermodeReq 18
      msp432CommsVmcVersionPowermodeResp)
  else if messageId = msp432CommsVmcActiveReq then activeExchange txFifoThreshold
  else if messageId = msp432CommsVmcGetRespSizeReq then respSizeExchanges txFifoThreshold
  else return ()

def vmcScUartMessages : List UInt8 → ScProg Unit
  | [] => return ()
  | messageId :: messageIds => do
      vmcScCommsTxRx txFifoThreshold messageId
      vTaskDelay 500
      vmcScUartMessages messageIds

def vmcScUartMessagesAll : ScProg Unit :=
  match msgIdHandler platform with
  | none => return ()
  | some messageIds => vmcScUartMessages txFifoThreshold messageIds

/-- The loop of `cl_vmc_sc_active`; the argument is the number of retries left. -/
def scActiveRounds : Nat → ScProg Unit
  | 0 => return ()
  | retries + 1 => do
      let active ← isSet .isScActive
      if active = true then return ()
      else
        vTaskDelay 1000
        Prog.perform (ScOp.setActiveRespLen msp432CommsGeneralRespLen)
        vmcScCommsTxRx txFifoThreshold msp432CommsVmcActiveReq
        scActiveRounds retries

def clVmcScActive : ScProg Unit :=
  if platform = .v80 then return () else scActiveRounds txFifoThreshold maxRetryToChkScActive

def clVmcScIsReady : ScProg Bool := do
  clVmcScActive txFifoThreshold platform
  isSet .isScActive

def vmcGetScVersionPowerMode : ScProg Unit := do
  let known ← isSet .isPowerModeActive
  if known = true then return ()
  else vmcScCommsTxRx txFifoThreshold msp432CommsVmcVersionPowermodeReq

def vck5000VmcScComms : ScProg Unit := do
  let known : Bool ← Prog.perform ScOp.snsrRespStatus
  if known = true then return () else vmcScCommsTxRx txFifoThreshold msp432CommsVmcGetRespSizeReq

def vmcPollScSensors : ScProg Unit :=
  if hasScComms platform = true then vck5000VmcScComms txFifoThreshold else return ()

def vmcSendBoardInfo : ScProg Unit := do
  let sent ← isSet .isBoardInfoSentToSc
  if sent = true then return () else vmcScCommsTxRx txFifoThreshold scCommsTxBoardInfo

def clVmcScTxRxData : ScProg Unit := do
  let ready ← clVmcScIsReady txFifoThreshold platform
  if ready = true then
    vmcGetScVersionPowerMode txFifoThreshold
    vmcPollScSensors txFifoThreshold platform
    vmcSendBoardInfo txFifoThreshold
    vmcScUartMessagesAll txFifoThreshold platform
  else return ()

end Functions

end Vmr.Sc.Session
