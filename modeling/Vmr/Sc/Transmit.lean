import Vmr.Lib.Memory
import Vmr.Lib.Stuffing
import Vmr.Lib.Word

/-!
# Packets to the satellite controller

`VMC_Uart_Frame_Tx_packet` frames a command into the transmit buffer of 255
bytes, with an index of eight bits.  The function takes no flags: its `Flags` is
the enumerator of that name, so the argument of `VMC_UART_CMD_Transaction` never
reaches the wire.
-/

namespace Vmr.Sc.Comms

open Vmr.Lib

def escapeChar : UInt8 := 0x5C
def stx : UInt8 := 0x02
def etx : UInt8 := 0x03

def maxVmcScUartBufSize : Nat := 255

inductive CommsFieldParser where
  | sopEscapeChar | sopEtx | rspMessageID | flags | payloadLength
  | eopEscapeChar | eopEtx
  deriving DecidableEq, Repr

def CommsFieldParser.index : CommsFieldParser → Nat
  | .sopEscapeChar => 0
  | .sopEtx => 1
  | .rspMessageID => 2
  | .flags => 3
  | .payloadLength => 4
  | .eopEscapeChar => 5
  | .eopEtx => 6

structure VmcScUartCmd where
  messageID : UInt8
  flags : UInt8
  payloadLength : UInt8
  payload : Memory

def VmcScUartCmd.payloadBytes (data : VmcScUartCmd) : List UInt8 :=
  data.payload.slice 0 data.payloadLength.toNat

def calculateChecksum (data : VmcScUartCmd) : UInt16 :=
  let checksum := data.messageID.toUInt16
  let checksum := checksum + data.flags.toUInt16
  let checksum := checksum + data.payloadLength.toUInt16
  data.payloadBytes.foldl (fun checksum byte => checksum + byte.toUInt16) checksum

/-! ## The transmit buffer -/

/-- `tx_buff` and `len`; `stores` are the indices stored to so far. -/
structure TxBuffer where
  bytes : Memory
  len : UInt8
  stores : List Nat

namespace TxBuffer

def cleared : TxBuffer := { bytes := fun _ => 0, len := 0, stores := [] }

def put (tx : TxBuffer) (byte : UInt8) : TxBuffer :=
  { bytes := Function.update tx.bytes tx.len.toNat byte
    len := tx.len + 1
    stores := tx.stores ++ [tx.len.toNat] }

/-- `if (byte == ESCAPE_CHAR) tx_buff[len++] = ESCAPE_CHAR; tx_buff[len++] = byte;` -/
def putEscaped (tx : TxBuffer) (byte : UInt8) : TxBuffer :=
  if byte = escapeChar then (tx.put escapeChar).put byte else tx.put byte

def putPair (tx : TxBuffer) (first second : UInt8) : TxBuffer :=
  { bytes := tx.bytes.putBytes tx.len.toNat [first, second]
    len := tx.len + 2
    stores := tx.stores ++ [tx.len.toNat, tx.len.toNat + 1] }

end TxBuffer

def vmcUartFrameTxPacket (msgId payloadLen : UInt8) (tx : TxBuffer) (payload : Memory) :
    TxBuffer :=
  let pktFraming : VmcScUartCmd :=
    { messageID := msgId
      flags := UInt8.ofNat CommsFieldParser.flags.index
      payloadLength := payloadLen
      payload := payload }
  let checksum := calculateChecksum pktFraming
  let tx := tx.putPair escapeChar stx
  let tx := tx.putEscaped pktFraming.messageID
  let tx := tx.putEscaped pktFraming.flags
  let tx := tx.putEscaped pktFraming.payloadLength
  let tx := pktFraming.payloadBytes.foldl TxBuffer.putEscaped tx
  let tx := [byteAt checksum.toNat 0, byteAt checksum.toNat 1].foldl TxBuffer.putEscaped tx
  tx.putPair escapeChar etx

/-- What `VMC_UART_CMD_Transaction` hands to the line; `_flags` is its argument. -/
def vmcUartCmdTransactionFrame (messageId _flags payloadLength : UInt8) (payload : Memory) :
    TxBuffer :=
  vmcUartFrameTxPacket messageId payloadLength .cleared payload

/-! ## What was stored -/

section Stored

/-- The bytes stored so far, in order, and where the wrapping index put them. -/
structure Stored (tx : TxBuffer) (bytes : List UInt8) : Prop where
  len_eq : tx.len = UInt8.ofNat bytes.length
  stores_eq : tx.stores = (List.range bytes.length).map (· % 256)
  bytes_eq : bytes.length ≤ 256 → tx.bytes.slice 0 bytes.length = bytes

theorem Stored.cleared : Stored .cleared [] :=
  ⟨rfl, rfl, fun _ => rfl⟩

theorem Stored.put {tx : TxBuffer} {bytes : List UInt8} (h : Stored tx bytes) (byte : UInt8) :
    Stored (tx.put byte) (bytes ++ [byte]) := by
  have hlen : tx.len.toNat = bytes.length % 256 := by
    rw [h.len_eq, UInt8.toNat_ofNat']
  refine ⟨?_, ?_, fun hfits => ?_⟩
  · change tx.len + 1 = _
    rw [h.len_eq, List.length_append, List.length_singleton, UInt8.ofNat_add]
    rfl
  · change tx.stores ++ [tx.len.toNat] = _
    rw [h.stores_eq, hlen, List.length_append, List.length_singleton, List.range_succ,
      List.map_append, List.map_singleton]
  · rw [List.length_append, List.length_singleton] at hfits ⊢
    rw [Memory.slice_add, Memory.slice_succ, Memory.slice_zero]
    have hkeep : (tx.put byte).bytes.slice 0 bytes.length = tx.bytes.slice 0 bytes.length := by
      apply Memory.slice_congr
      intro a _ ha
      exact Function.update_of_ne (by omega) _ _
    rw [hkeep, h.bytes_eq (by omega)]
    have hlast : (tx.put byte).bytes (0 + bytes.length) = byte := by
      change Function.update tx.bytes tx.len.toNat byte (0 + bytes.length) = byte
      rw [hlen, Nat.mod_eq_of_lt (by omega), Nat.zero_add, Function.update_self]
    rw [hlast]

private theorem Stored.putEscaped {tx : TxBuffer} {bytes : List UInt8} (h : Stored tx bytes)
    (byte : UInt8) : Stored (tx.putEscaped byte) (bytes ++ stuff escapeChar [byte]) := by
  unfold TxBuffer.putEscaped
  rw [stuff]
  split
  · rw [stuff, ← List.singleton_append, ← List.append_assoc]
    exact (h.put escapeChar).put byte
  · exact h.put byte

private theorem Stored.putAll {tx : TxBuffer} {bytes : List UInt8} (h : Stored tx bytes)
    (data : List UInt8) :
    Stored (data.foldl TxBuffer.putEscaped tx) (bytes ++ stuff escapeChar data) := by
  induction data generalizing tx bytes with
  | nil => simpa [stuff] using h
  | cons byte data ih =>
      rw [List.foldl_cons, ← List.singleton_append, stuff_append, ← List.append_assoc]
      exact ih (h.putEscaped byte)

theorem Stored.start : Stored (TxBuffer.cleared.putPair escapeChar stx) [escapeChar, stx] :=
  ⟨rfl, rfl, fun _ => rfl⟩

end Stored

/-! ## The frame -/

def frameFields (messageId payloadLength : UInt8) (payload : Memory) : List UInt8 :=
  let data : VmcScUartCmd := { messageID := messageId, flags := 3, payloadLength, payload }
  let checksum := calculateChecksum data
  [messageId, 3, payloadLength] ++ data.payloadBytes ++
    [byteAt checksum.toNat 0, byteAt checksum.toNat 1]

def frameSize (messageId payloadLength : UInt8) (payload : Memory) : Nat :=
  let fields := frameFields messageId payloadLength payload
  4 + fields.length + fields.count escapeChar

structure ScMessage where
  messageId : UInt8
  flags : UInt8
  payloadLength : UInt8
  payload : List UInt8
  checksum : UInt16
  deriving DecidableEq, Repr

def ScMessage.sum (message : ScMessage) : UInt16 :=
  message.payload.foldl (fun checksum byte => checksum + byte.toUInt16)
    (message.messageId.toUInt16 + message.flags.toUInt16 + message.payloadLength.toUInt16)

def readFields : List UInt8 → Option ScMessage
  | messageId :: flags :: payloadLength :: body =>
      match body.reverse with
      | high :: low :: payload =>
          some { messageId, flags, payloadLength, payload := payload.reverse
                 checksum := le16 low high }
      | _ => none
  | _ => none

def unframe : List UInt8 → Option ScMessage
  | first :: second :: symbols =>
      if first = escapeChar ∧ second = stx then
        match unstuff escapeChar etx symbols with
        | some (fields, []) => readFields fields
        | _ => none
      else none
  | _ => none

theorem readFields_frameFields (messageId payloadLength : UInt8) (payload : Memory) :
    readFields (frameFields messageId payloadLength payload) =
      some { messageId, flags := 3, payloadLength
             payload := payload.slice 0 payloadLength.toNat
             checksum := calculateChecksum
               { messageID := messageId, flags := 3, payloadLength, payload } } := by
  simp [frameFields, readFields, VmcScUartCmd.payloadBytes]

theorem unframe_frame (fields : List UInt8) :
    unframe ([escapeChar, stx] ++ stuff escapeChar fields ++ [escapeChar, etx]) =
      readFields fields := by
  have hdata := unstuff_stuff (show etx ≠ escapeChar by decide) fields []
  simp [unframe, hdata]

theorem frame_stored (messageId flags payloadLength : UInt8) (payload : Memory) :
    ∃ tx, Stored tx
        ([escapeChar, stx] ++ stuff escapeChar (frameFields messageId payloadLength payload)) ∧
      vmcUartCmdTransactionFrame messageId flags payloadLength payload =
        tx.putPair escapeChar etx := by
  refine ⟨_, ?_, rfl⟩
  have hhead := ((Stored.start.putEscaped messageId).putEscaped 3).putEscaped payloadLength
  have hbody := (hhead.putAll (payload.slice 0 payloadLength.toNat)).putAll
    (let checksum := calculateChecksum
      { messageID := messageId, flags := 3, payloadLength, payload }
     [byteAt checksum.toNat 0, byteAt checksum.toNat 1])
  simp only [List.append_assoc, ← stuff_append] at hbody
  exact hbody

/-- The frame of a command: in its buffer, of the reported length, and invertible. -/
structure Invertible (messageId flags payloadLength : UInt8) (payload : Memory)
    (tx : TxBuffer) : Prop where
  fits : ∀ index ∈ tx.stores, index < maxVmcScUartBufSize
  length : tx.len.toNat = tx.stores.length
  recovered : ∃ message, unframe (tx.bytes.slice 0 tx.len.toNat) = some message ∧
    message.messageId = messageId ∧ message.flags = flags ∧
    message.payloadLength = payloadLength ∧
    message.payload = payload.slice 0 payloadLength.toNat ∧
    message.checksum = message.sum

private theorem Stored.size_of_fits {tx : TxBuffer} {bytes : List UInt8} (h : Stored tx bytes)
    {first second : UInt8}
    (hfits : ∀ index ∈ (tx.putPair first second).stores, index < maxVmcScUartBufSize) :
    bytes.length + 2 ≤ maxVmcScUartBufSize := by
  have hbody : bytes.length ≤ 255 := by
    by_contra hlong
    have hmem : 255 ∈ tx.stores := by
      rw [h.stores_eq]
      exact List.mem_map.2 ⟨255, List.mem_range.2 (by omega), rfl⟩
    exact absurd (hfits 255 (List.mem_append_left _ hmem)) (by decide)
  have hlast := hfits (tx.len.toNat + 1) (List.mem_append_right _ (by simp))
  rw [h.len_eq, UInt8.toNat_ofNat', Nat.mod_eq_of_lt (by omega)] at hlast
  change bytes.length + 2 ≤ 255
  change bytes.length + 1 < 255 at hlast
  omega

private theorem Stored.fits_of_size {tx : TxBuffer} {bytes : List UInt8} (h : Stored tx bytes)
    {first second : UInt8} (hsize : bytes.length + 2 ≤ maxVmcScUartBufSize) :
    ∀ index ∈ (tx.putPair first second).stores, index < maxVmcScUartBufSize := by
  change bytes.length + 2 ≤ 255 at hsize
  have hlen : tx.len.toNat = bytes.length := by
    rw [h.len_eq, UInt8.toNat_ofNat', Nat.mod_eq_of_lt (by omega)]
  intro index hindex
  change index < 255
  rcases List.mem_append.1 hindex with hmem | hmem
  · rw [h.stores_eq] at hmem
    obtain ⟨position, hposition, rfl⟩ := List.mem_map.1 hmem
    have := List.mem_range.1 hposition
    omega
  · simp only [List.mem_cons, List.not_mem_nil, or_false] at hmem
    omega

theorem Stored.slice_putPair {tx : TxBuffer} {bytes : List UInt8} (h : Stored tx bytes)
    (first second : UInt8) (hfits : bytes.length + 2 ≤ maxVmcScUartBufSize) :
    (tx.putPair first second).len.toNat = bytes.length + 2 ∧
      (tx.putPair first second).bytes.slice 0 (bytes.length + 2) = bytes ++ [first, second] := by
  change bytes.length + 2 ≤ 255 at hfits
  have hlen : tx.len.toNat = bytes.length := by
    rw [h.len_eq, UInt8.toNat_ofNat', Nat.mod_eq_of_lt (by omega)]
  constructor
  · change (tx.len + 2).toNat = _
    rw [UInt8.toNat_add, hlen]
    exact Nat.mod_eq_of_lt (by simp; omega)
  · rw [Memory.slice_add]
    have hkeep : (tx.putPair first second).bytes.slice 0 bytes.length =
        tx.bytes.slice 0 bytes.length := by
      apply Memory.slice_congr
      intro a _ ha
      exact Memory.putBytes_outside _ _ (by omega)
    have hpair : (tx.putPair first second).bytes.slice (0 + bytes.length) 2 =
        [first, second] := by
      rw [Nat.zero_add, ← hlen]
      exact Memory.slice_putBytes tx.bytes tx.len.toNat [first, second]
    rw [hkeep, hpair, h.bytes_eq (by omega)]

/--
A frame is invertible exactly when the caller's flags are the number of the
enumerator and the frame with its escapes fits the buffer.
-/
theorem frame_invertible (messageId flags payloadLength : UInt8) (payload : Memory) :
    Invertible messageId flags payloadLength payload
        (vmcUartCmdTransactionFrame messageId flags payloadLength payload) ↔
      flags = 3 ∧ frameSize messageId payloadLength payload ≤ maxVmcScUartBufSize := by
  obtain ⟨tx, hstored, hframe⟩ := frame_stored messageId flags payloadLength payload
  rw [hframe]
  let fields := frameFields messageId payloadLength payload
  have hsize : ([escapeChar, stx] ++ stuff escapeChar fields).length + 2 =
      frameSize messageId payloadLength payload := by
    simp only [List.length_append, length_stuff, List.length_cons, List.length_nil]
    simp only [frameSize, fields]
    omega
  have hunframe (hfits : frameSize messageId payloadLength payload ≤ maxVmcScUartBufSize) :
      unframe ((tx.putPair escapeChar etx).bytes.slice 0 (tx.putPair escapeChar etx).len.toNat) =
        readFields fields := by
    obtain ⟨hlen, hslice⟩ := hstored.slice_putPair escapeChar etx (hsize ▸ hfits)
    rw [hlen, hslice, unframe_frame]
  constructor
  · intro h
    have hfits := hsize ▸ hstored.size_of_fits h.fits
    refine ⟨?_, hfits⟩
    obtain ⟨message, hmessage, -, hflags, -⟩ := h.recovered
    rw [hunframe hfits, readFields_frameFields] at hmessage
    cases hmessage
    exact hflags.symm
  · rintro ⟨rfl, hfits⟩
    have hroom : ([escapeChar, stx] ++ stuff escapeChar fields).length + 2 ≤ 255 := hsize ▸ hfits
    obtain ⟨hlen, -⟩ := hstored.slice_putPair escapeChar etx hroom
    refine ⟨hstored.fits_of_size hroom, ?_, ?_⟩
    · rw [hlen]
      change _ = (tx.stores ++ [tx.len.toNat, tx.len.toNat + 1]).length
      rw [hstored.stores_eq]
      simp
    · exact ⟨_, hunframe hfits ▸ readFields_frameFields messageId payloadLength payload,
        rfl, rfl, rfl, rfl, rfl⟩

/-- A command with its caller's flags, `MSP432_COMMS_NO_FLAG`. -/
theorem frame_loses_flags :
    ¬ Invertible 0xF1 0 0 (fun _ => 0) (vmcUartCmdTransactionFrame 0xF1 0 0 fun _ => 0) := by
  intro h
  obtain ⟨message, hmessage, -, hflags, -⟩ := h.recovered
  have hframe : (unframe ((vmcUartCmdTransactionFrame 0xF1 0 0 fun _ => 0).bytes.slice 0
      (vmcUartCmdTransactionFrame 0xF1 0 0 fun _ => 0).len.toNat)).map ScMessage.flags =
        some 3 := by
    decide
  rw [hmessage, Option.map_some, Option.some.injEq, hflags] at hframe
  exact absurd hframe (by decide)

end Vmr.Sc.Comms
