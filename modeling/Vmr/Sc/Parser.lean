import Vmr.Sc.Bsl

/-!
# Parsing the SC image into loader packets

`parse_fpt_sc` reads the image one byte at a time from `addr_location` on and
frames one packet a call.  Between calls it keeps its place in statics, which
`ParserState` collects; `progress` is what the update reports of itself on the
side.  A loop of the source is a recursion on `fuel`, and `none` says the fuel
ran out.
-/

namespace Vmr.Sc

open Vmr.Lib

abbrev Flash := UInt32 → UInt8

def sectionStart : UInt8 := 0x40
def fileTerminationChar : UInt8 := 0x71
def space : UInt8 := 0x20
def newLine : UInt8 := 0x0A

def bslMaxDataSize : Nat := 266
def bslDataPacketCrcSize : Nat := 2
def scTotHeaderSize : UInt32 := 16

def charToHexAddr (c : UInt8) : UInt8 :=
  let c := if 0x30 ≤ c ∧ c ≤ 0x39 then c - 0x30
    else if 0x61 ≤ c ∧ c ≤ 0x66 then c - 0x61 + 10 else c
  c &&& 0x0F

def charToHex (c : UInt8) : UInt8 :=
  let c := if 0x30 ≤ c ∧ c ≤ 0x39 then c - 0x30
    else if 0x41 ≤ c ∧ c ≤ 0x46 then c - 0x41 + 10 else c
  c &&& 0x0F

structure Progress where
  updateProgress : Int32
  currProg : UInt32
  maxDataSlot : UInt32
  deriving DecidableEq, Repr

def Progress.count (progress : Progress) : Progress :=
  let progress := { progress with currProg := progress.currProg + 1 }
  if progress.maxDataSlot ≤ progress.currProg then
    { progress with updateProgress := progress.updateProgress + 1, currProg := 0 }
  else progress

def putHeader (pkt : Memory) (core : Nat) : Memory :=
  pkt.putBytes 0 [bslMsgHeader, byteAt core 0, byteAt core 1, cmdRxDataBlock32]

structure ParserState where
  dataPtr : UInt32
  addrFlag : Bool
  parsedScFlashAddr : UInt32
  prevLength : UInt32
  totalLength : Nat
  dataCrc : UInt16
  allPktSent : Bool
  bslSendDataPkt : Memory
  progress : Progress

def bootParser : ParserState :=
  { dataPtr := 0, addrFlag := false, parsedScFlashAddr := 0, prevLength := 0,
    totalLength := 0, dataCrc := 0, allPktSent := false, bslSendDataPkt := fun _ => 0,
    progress := { updateProgress := 0, currProg := 0, maxDataSlot := 0 } }

namespace ParserState

variable (flash : Flash) (addrLocation : UInt32) (st : ParserState)

/-- `Msg = IO_SYNC_READ8(addr_location + data_ptr); data_ptr += BYTES_TO_READ;` -/
def read : UInt8 × ParserState :=
  (flash (addrLocation + st.dataPtr), { st with dataPtr := st.dataPtr + 1 })

def readCounted : UInt8 × ParserState :=
  let (msg, st) := st.read flash addrLocation
  (msg, { st with progress := st.progress.count })

def put (index : Nat) (byte : UInt8) : ParserState :=
  { st with bslSendDataPkt := Function.update st.bslSendDataPkt index byte }

def putAddress : ParserState :=
  let address := st.parsedScFlashAddr.toNat
  let bytes := [byteAt address 0, byteAt address 1, byteAt address 2, byteAt address 3]
  { st with bslSendDataPkt := st.bslSendDataPkt.putBytes 4 bytes }

def packet : List UInt8 := st.bslSendDataPkt.slice 0 st.totalLength

/-- `update_progress = 99; all_pkt_sent = true;` at the terminator. -/
def terminate : ParserState :=
  { st with allPktSent := true
            progress := { st.progress with updateProgress := 99 } }

/-- The byte the data loop stopped at says how the next call goes on. -/
def stopAt (msg : UInt8) : ParserState :=
  if msg = sectionStart then { st with addrFlag := true }
  else if msg = fileTerminationChar then st.terminate
  else st

def finish (msg : UInt8) (length : Nat) : ParserState :=
  let core := length - 3
  let pkt := putHeader st.bslSendDataPkt core
  let crcVal := crc16 (pkt.slice 3 core)
  let pkt := pkt.putBytes length [byteAt crcVal.toNat 0, byteAt crcVal.toNat 1]
  { st.stopAt msg with
    totalLength := length + 2
    prevLength := UInt32.ofNat (core - 5)
    dataCrc := crc16 (pkt.slice 8 (core - 5))
    bslSendDataPkt := pkt }

end ParserState

inductive ParseStates where
  | address | data
  deriving DecidableEq, Repr

/-- `while (Msg != NEW_LINE)` of the address branch; `next` is how a byte is read. -/
def parseAddress (next : ParserState → UInt8 × ParserState) :
    Nat → UInt8 → ParserState → Option ParserState
  | 0, _, _ => none
  | fuel + 1, msg, st =>
      if msg = newLine then
        some st
      else
        let st := { st with
          parsedScFlashAddr :=
            (st.parsedScFlashAddr <<< 4) ||| (charToHexAddr msg &&& 0x0F).toUInt32 }
        let (msg, st) := next st
        parseAddress next fuel msg st

section Parse

variable (flash : Flash) (addrLocation : UInt32)

/-- The data loop; it answers the byte it stopped at and the packet length so far. -/
def parseData : Nat → UInt8 → Nat → ParserState → Option (UInt8 × Nat × ParserState)
  | 0, _, _, _ => none
  | fuel + 1, msg, length, st =>
      if msg ≠ sectionStart ∧ length < bslMaxDataSize - bslDataPacketCrcSize ∧
          msg ≠ fileTerminationChar then
        let (length, st) :=
          if msg ≠ newLine ∧ msg ≠ space then
            let st := st.put length (charToHex msg &&& 0x0F)
            let (msg, st) := st.readCounted flash addrLocation
            (length + 1,
              st.put length ((st.bslSendDataPkt length <<< 4) ||| (charToHex msg &&& 0x0F)))
          else (length, st)
        let (msg, st) := st.readCounted flash addrLocation
        parseData fuel msg length st
      else
        some (msg, length, st)

def parseStates : Nat → ParseStates → Nat → ParserState → Option ParserState
  | 0, _, _, _ => none
  | fuel + 1, .address, length, st =>
      let (msg, st) := st.readCounted flash addrLocation
      if st.addrFlag ∧ msg ≠ sectionStart ∧ msg ≠ fileTerminationChar then
        (parseAddress (ParserState.readCounted flash addrLocation) fuel msg
          { st with addrFlag := false, parsedScFlashAddr := 0 }).bind fun st =>
            parseStates fuel .data (length + 8) st.putAddress
      else if msg = sectionStart then
        parseStates fuel .address length { st with addrFlag := true }
      else if msg = fileTerminationChar then
        some st.terminate
      else
        -- a section that was cut goes on behind the bytes of the last packet
        parseStates fuel .data (length + 8)
          { st with parsedScFlashAddr := st.parsedScFlashAddr + st.prevLength }.putAddress
  | fuel + 1, .data, length, st =>
      let (msg, st) := st.readCounted flash addrLocation
      (parseData flash addrLocation fuel msg length st).map fun (msg, length, st) =>
        st.finish msg length

def parseFptSc (fuel : Nat) (st : ParserState) : Option ParserState :=
  parseStates flash addrLocation fuel .address 0 st

/-- The buffer is cleared before every call. -/
def nextPacket (fuel : Nat) (st : ParserState) : Option ParserState :=
  parseFptSc flash addrLocation fuel { st with bslSendDataPkt := fun _ => 0 }

def packetsFrom (fuel : Nat) : Nat → ParserState → Option (List (List UInt8))
  | 0, _ => none
  | calls + 1, st =>
      if st.allPktSent then
        some []
      else do
        let st ← nextPacket flash addrLocation fuel st
        let packets ← packetsFrom fuel calls st
        return st.packet :: packets

def ParserState.rewind (st : ParserState) : ParserState :=
  { st with dataPtr := 0, allPktSent := false, addrFlag := true }

/-- The packets of a whole update; an image that does not start with `@` has none. -/
def scPackets (fuel : Nat) (st : ParserState) : Option (List (List UInt8)) :=
  if flash addrLocation = sectionStart then
    packetsFrom flash addrLocation fuel fuel st.rewind
  else
    some []

end Parse

end Vmr.Sc
