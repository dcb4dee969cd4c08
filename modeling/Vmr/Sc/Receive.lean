import Vmr.Lib.Prog
import Vmr.Sc.Transmit

/-!
# Packets from the satellite controller

A received packet is checked by `VMC_Validate_SC_Packet`, copied, and taken
apart by `Parse_SC_Data`.  Every access to the received bytes is an operation of
the program, with the index the code computes, and so is every write to the
static data.
-/

namespace Vmr.Sc.Comms

open Vmr.Lib

def scCommsRxVoltSnsr : UInt8 := 0x06
def scCommsRxPowerSnsr : UInt8 := 0x07
def scCommsRxTempSnsr : UInt8 := 0x08
def scCommsRxVoltSnsrResp : UInt8 := 0x86
def scCommsRxPowerSnsrResp : UInt8 := 0x87
def scCommsRxTempSnsrResp : UInt8 := 0x88
def msp432CommsVmcVersionPowermodeResp : UInt8 := 0xF2
def msp432CommsVmcGetRespSizeResp : UInt8 := 0xF6
def scCommsRxBoardInfoResp : UInt8 := 0xF8
def msp432CommsMsgGood : UInt8 := 0xFE
def msp432CommsNoFlag : UInt8 := 0x00

def msgIdOffset : Nat := 2
def flagOffset : Nat := 3
def payloadLenLOffset : Nat := 4
def payloadLenHOffset : Nat := 5
def payloadStartOffsetNoFlag : UInt16 := 5
def payloadStartOffsetWFlag : UInt16 := 6
def checksumLOffset : UInt32 := 4
def checksumHOffset : UInt32 := 3
def totalFooterSize : UInt32 := 4
def commsPayloadStartIndex : Nat := 5
def rawPayloadLength : UInt8 := 9

def eScVccintI : UInt8 := 5
def eScBmcVersion : UInt8 := 11
def eScPowerMode : UInt8 := 12
def eScSensorIdMax : Nat := 14

/-- What the parsers write: the fields of `sc_vmc_data` and the status flags. -/
inductive Static where
  | sensorValues (id : Nat)
  | vccintSensorValue
  | scVersion (index : Nat)
  | powerMode
  | voltSensorLength | powerSensorLength | tempSensorLength
  | isPowerModeActive | isBoardInfoSentToSc | isScActive
  deriving DecidableEq, Repr

inductive Access where
  | read (index : Nat)
  | write (target : Static) (value : UInt32)
  deriving DecidableEq, Repr

abbrev Access.Answer : Access → Type
  | .read _ => UInt8
  | .write _ _ => Unit

abbrev PacketProg := Prog Access Access.Answer

def readByte (index : Nat) : PacketProg UInt8 := Prog.perform (Access.read index)

def write (target : Static) (value : UInt32) : PacketProg Unit :=
  Prog.perform (Access.write target value)

/-! ## Validation -/

def sumPayload (length : UInt32) : Nat → UInt16 → UInt16 → PacketProg UInt16
  | 0, _, calcCsum => return calcCsum
  | left + 1, payloadStartOffset, calcCsum =>
      if payloadStartOffset.toUInt32 < length - totalFooterSize then do
        let byte ← readByte payloadStartOffset.toNat
        sumPayload length left (payloadStartOffset + 1) (calcCsum + byte.toUInt16)
      else return calcCsum

def readLength : PacketProg (UInt16 × UInt16) := do
  let flag ← readByte flagOffset
  if flag = msp432CommsNoFlag then do
    let low ← readByte payloadLenLOffset
    return (low.toUInt16, payloadStartOffsetNoFlag)
  else do
    let high ← readByte payloadLenHOffset
    let low ← readByte payloadLenLOffset
    return (le16 low high, payloadStartOffsetWFlag)

def validateChecksum (length : UInt32) : PacketProg Bool := do
  let (payloadLen, payloadStartOffset) ← readLength
  let messageId ← readByte msgIdOffset
  let flag ← readByte flagOffset
  let calcCsum := messageId.toUInt16 + flag.toUInt16 + payloadLen
  let calcCsum ← sumPayload length payloadLen.toNat payloadStartOffset calcCsum
  let high ← readByte (length - checksumHOffset).toNat
  let low ← readByte (length - checksumLOffset).toNat
  return le16 low high = calcCsum

def vmcValidateScPacket (length : UInt32) : PacketProg Bool := do
  let last ← readByte (length - 1).toNat
  if last = etx then do
    let escape ← readByte (length - 2).toNat
    if escape = escapeChar then validateChecksum length else return false
  else return false

/-! ## Parsing

`payload` is `&Payload[COMMS_PAYLOAD_START_INDEX]`, so its bytes are read at
`commsPayloadStartIndex` and up. -/

def readPayload (index : Nat) : PacketProg UInt8 := readByte (commsPayloadStartIndex + index)

def vmcUpdateSensorLength : PacketProg Unit := do
  let kind ← readPayload 0
  if kind = scCommsRxVoltSnsr then do
    write .voltSensorLength ((← readPayload 1) + rawPayloadLength).toUInt32
  else if kind = scCommsRxPowerSnsr then do
    write .powerSensorLength ((← readPayload 1) + rawPayloadLength).toUInt32
  else if kind = scCommsRxTempSnsr then do
    write .tempSensorLength ((← readPayload 1) + rawPayloadLength).toUInt32
  else return ()

def updateVersionEntry (i : Nat) (kind : UInt8) : PacketProg Unit :=
  if kind = eScBmcVersion then do
    write (.scVersion 0) (← readPayload (i + 2)).toUInt32
    write (.scVersion 1) (← readPayload (i + 3)).toUInt32
    write (.scVersion 2) (← readPayload (i + 4)).toUInt32
  else if kind = eScPowerMode then do
    write .powerMode (← readPayload (i + 2)).toUInt32
  else return ()

def updateVersionPowerMode (length : UInt16) : Nat → UInt16 → PacketProg Unit
  | 0, _ => return ()
  | rounds + 1, i =>
      if i < length then do
        let kind ← readPayload i.toNat
        updateVersionEntry i.toNat kind
        let size ← readPayload (i.toNat + 1)
        updateVersionPowerMode length rounds (i + 2 + size.toUInt16)
      else return ()

def vmcUpdateVersionPowerMode (length : UInt16) : PacketProg Unit :=
  updateVersionPowerMode length length.toNat 0

/-- `sensor_values` has 16-bit entries. -/
def vmcStoreSensorValue (id : UInt8) (value : UInt32) : PacketProg Unit :=
  if id = eScVccintI then write .vccintSensorValue value
  else write (.sensorValues id.toNat) (value &&& 0xFFFF)

/-- The value of an entry of `size` bytes, or `none` where the size is unknown. -/
def readValue (i : Nat) (size : UInt8) : PacketProg (Option UInt32) :=
  if size = 1 then do
    return some (← readPayload (i + 2)).toUInt32
  else if size = 2 then do
    let b0 ← readPayload (i + 2)
    let b1 ← readPayload (i + 3)
    return some (le16 b0 b1).toUInt32
  else if size = 4 then do
    let b0 ← readPayload (i + 2)
    let b1 ← readPayload (i + 3)
    let b2 ← readPayload (i + 4)
    let b3 ← readPayload (i + 5)
    return some (le32 b0 b1 b2 b3)
  else return none

def updateSensors (length : UInt16) : Nat → UInt16 → PacketProg Unit
  | 0, _ => return ()
  | rounds + 1, i =>
      if i < length then do
        let size ← readPayload (i.toNat + 1)
        match ← readValue i.toNat size with
        | none => return ()
        | some value => do
            let id ← readPayload i.toNat
            vmcStoreSensorValue id value
            updateSensors length rounds (i + 2 + size.toUInt16)
      else return ()

def vmcUpdateSensors (length : UInt16) : PacketProg Unit :=
  updateSensors length length.toNat 0

def isSensorResp (messageId : UInt8) : Bool :=
  messageId = scCommsRxVoltSnsrResp ∨ messageId = scCommsRxPowerSnsrResp ∨
    messageId = scCommsRxTempSnsrResp

def dispatchScData (messageId : UInt8) : PacketProg Unit := do
  if isSensorResp messageId then do
    vmcUpdateSensors (← readByte CommsFieldParser.payloadLength.index).toUInt16
  else if messageId = msp432CommsVmcVersionPowermodeResp then do
    vmcUpdateVersionPowerMode (← readByte CommsFieldParser.payloadLength.index).toUInt16
    write .isPowerModeActive 1
  else if messageId = msp432CommsVmcGetRespSizeResp then
    vmcUpdateSensorLength
  else if messageId = scCommsRxBoardInfoResp then
    write .isBoardInfoSentToSc 1
  else if messageId = msp432CommsMsgGood then
    write .isScActive 1
  else return ()

def parseScData (expectedMsgid : UInt8) : PacketProg Bool := do
  let first ← readByte CommsFieldParser.sopEscapeChar.index
  let second ← readByte CommsFieldParser.sopEtx.index
  if first ≠ escapeChar ∨ second ≠ stx then return false
  else do
    let messageId ← readByte CommsFieldParser.rspMessageID.index
    if messageId ≠ expectedMsgid then return false
    else do
      dispatchScData messageId
      return true

end Vmr.Sc.Comms
