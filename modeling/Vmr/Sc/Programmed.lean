import Vmr.Sc.Interference
import Vmr.Sc.Update

/-!
# What a successful update has done

`send_data_to_bsl` goes on with the next packet when a transaction fails, and
`matchcrc_postwrite` reports success when the read-back fails or its reply is
no frame.  So an update can end without an error and still have skipped
packets; whether it did is decided by the transactions of its data phase.
-/

namespace Vmr.Sc

open Vmr.Lib

/-! ## What a call frames, whatever the image holds -/

section Framed

variable {flash : Flash} {base : UInt32}

def IsDataPacket (packet : List UInt8) : Prop := packet[3]? = some cmdRxDataBlock32

instance (packet : List UInt8) : Decidable (IsDataPacket packet) :=
  inferInstanceAs (Decidable (_ = _))

structure Framed (st : ParserState) (data : List UInt8) : Prop where
  packet_eq : st.packet = bslDataPacket st.parsedScFlashAddr data
  prevLength_eq : st.prevLength = UInt32.ofNat data.length
  dataCrc_eq : st.dataCrc = crc16 data

private theorem parseData_keeps {fuel : Nat} {msg msg' : UInt8} {length length' : Nat}
    {st st' : ParserState}
    (h : parseData flash base fuel msg length st = some (msg', length', st')) :
    length ≤ length' ∧ st'.parsedScFlashAddr = st.parsedScFlashAddr ∧
      ∀ index < length, st'.bslSendDataPkt index = st.bslSendDataPkt index := by
  induction fuel generalizing msg length st with
  | zero => cases h
  | succ fuel ih =>
      rw [parseData] at h
      split at h
      · by_cases hdigit : msg ≠ newLine ∧ msg ≠ space
        · rw [if_pos hdigit] at h
          obtain ⟨hle, hparsed, hkeep⟩ := ih h
          refine ⟨by omega, hparsed, fun index hindex => ?_⟩
          rw [hkeep index (by omega)]
          simp only [ParserState.put]
          rw [Function.update_of_ne (by omega), Function.update_of_ne (by omega)]
        · rw [if_neg hdigit] at h
          have hnext : parseData flash base fuel (st.readCounted flash base).1 length
              (st.readCounted flash base).2 = some (msg', length', st') := h
          obtain ⟨hle, hparsed, hkeep⟩ := ih hnext
          exact ⟨hle, hparsed, hkeep⟩
      · cases h
        exact ⟨Nat.le_refl _, rfl, fun _ _ => rfl⟩

private theorem finish_parsed (st : ParserState) (msg : UInt8) (length : Nat) :
    (st.finish msg length).parsedScFlashAddr = st.parsedScFlashAddr := by
  change (st.stopAt msg).parsedScFlashAddr = _
  unfold ParserState.stopAt
  split
  · rfl
  · split <;> rfl

private theorem parseStates_data_framed {fuel : Nat} {st st' : ParserState}
    (hfilled : Filled st st.parsedScFlashAddr [])
    (h : parseStates flash base fuel .data 8 st = some st') : ∃ data, Framed st' data := by
  cases fuel with
  | zero => cases h
  | succ fuel =>
      rw [parseStates, Option.map_eq_some_iff] at h
      obtain ⟨⟨msg, length, st₁⟩, hdata, rfl⟩ := h
      obtain ⟨hle, hparsed, hkeep⟩ := parseData_keeps hdata
      obtain ⟨size, rfl⟩ : ∃ n, length = 8 + n := ⟨length - 8, by omega⟩
      let data := st₁.bslSendDataPkt.slice 8 size
      have hlength : data.length = size := Memory.length_slice ..
      have hfilled₁ : Filled st₁ st₁.parsedScFlashAddr data := by
        refine ⟨?_, by rw [hlength]⟩
        rw [hparsed, Memory.slice_congr (fun a _ ha => hkeep a (by omega))]
        exact hfilled.address_eq
      refine ⟨data, ?_, ?_, ?_⟩
      · simp only
        rw [← hlength, finish_packet hfilled₁, finish_parsed]
      · change UInt32.ofNat (8 + size - 3 - 5) = _
        rw [hlength]
        congr 1
        omega
      · rw [← hlength, finish_dataCrc hfilled₁]

private theorem parseStates_address_framed {fuel : Nat} {st st' : ParserState}
    (hclear : st.bslSendDataPkt = fun _ => 0)
    (h : parseStates flash base fuel .address 0 st = some st') :
    (∃ data, Framed st' data) ∨ st'.allPktSent = true ∧ ¬ IsDataPacket st'.packet := by
  induction fuel generalizing st with
  | zero => cases h
  | succ fuel ih =>
      rw [parseStates] at h
      simp only at h
      split at h
      · obtain ⟨st₁, haddress, hdata⟩ := Option.bind_eq_some_iff.1 h
        exact .inl (parseStates_data_framed (putAddress_filled st₁) hdata)
      · split at h
        · exact ih (by exact hclear) h
        · split at h
          · cases h
            refine .inr ⟨rfl, ?_⟩
            have hpacket : (((st.readCounted flash base).2.terminate).packet)[3]? ≠
                some cmdRxDataBlock32 := by
              intro hcommand
              obtain ⟨hindex, hbyte⟩ := List.getElem?_eq_some_iff.1 hcommand
              have hzero : (st.readCounted flash base).2.terminate.packet[3] = 0 := by
                simp [ParserState.packet, Memory.slice, ParserState.terminate,
                  ParserState.readCounted, ParserState.read, hclear]
              rw [hzero] at hbyte
              exact absurd hbyte (by decide)
            exact hpacket
          · exact .inl (parseStates_data_framed (putAddress_filled _) h)

private theorem nextPacket_framed {fuel : Nat} {st st' : ParserState}
    (h : nextPacket flash base fuel st = some st') :
    (∃ data, Framed st' data) ∨ st'.allPktSent = true ∧ ¬ IsDataPacket st'.packet :=
  parseStates_address_framed rfl h

private theorem Framed.isDataPacket {st : ParserState} {data : List UInt8} (h : Framed st data) :
    IsDataPacket st.packet := by
  rw [h.packet_eq]
  rfl

end Framed

/-! ## The progress counters -/

section Progress

variable (flash : Flash) (base : UInt32)

def ParserState.withProgress (st : ParserState) (progress : Progress) : ParserState :=
  { st with progress }

private theorem parseAddress_progress (fuel : Nat) (msg : UInt8) (st : ParserState)
    (progress : Progress) :
    ∃ progress', parseAddress (ParserState.readCounted flash base) fuel msg
        (st.withProgress progress) =
      (parseAddress (ParserState.readCounted flash base) fuel msg st).map
        (·.withProgress progress') := by
  induction fuel generalizing msg st progress with
  | zero => exact ⟨progress, rfl⟩
  | succ fuel ih =>
      rw [parseAddress, parseAddress]
      split
      · exact ⟨progress, rfl⟩
      · let st₁ : ParserState :=
          { st with
            parsedScFlashAddr :=
              (st.parsedScFlashAddr <<< 4) ||| (charToHexAddr msg &&& 0x0F).toUInt32 }
        exact ih (st₁.readCounted flash base).1 (st₁.readCounted flash base).2 progress.count

private theorem parseData_progress (fuel : Nat) (msg : UInt8) (length : Nat) (st : ParserState)
    (progress : Progress) :
    ∃ progress', parseData flash base fuel msg length (st.withProgress progress) =
      (parseData flash base fuel msg length st).map fun (msg, length, st) =>
        (msg, length, st.withProgress progress') := by
  induction fuel generalizing msg length st progress with
  | zero => exact ⟨progress, rfl⟩
  | succ fuel ih =>
      rw [parseData, parseData]
      split
      · by_cases hdigit : msg ≠ newLine ∧ msg ≠ space
        · simp only [if_pos hdigit]
          let st₁ := ((st.put length (charToHex msg &&& 0x0F)).readCounted flash base).2
          let low := ((st.put length (charToHex msg &&& 0x0F)).readCounted flash base).1
          let st₂ := st₁.put length
            ((st₁.bslSendDataPkt length <<< 4) ||| (charToHex low &&& 0x0F))
          exact ih (st₂.readCounted flash base).1 (length + 1) (st₂.readCounted flash base).2
            progress.count.count
        · simp only [if_neg hdigit]
          exact ih (st.readCounted flash base).1 length (st.readCounted flash base).2
            progress.count
      · exact ⟨progress, rfl⟩

private theorem finish_progress (st : ParserState) (msg : UInt8) (length : Nat)
    (progress : Progress) :
    ∃ progress', (st.withProgress progress).finish msg length =
      (st.finish msg length).withProgress progress' := by
  unfold ParserState.finish ParserState.stopAt
  split
  · exact ⟨progress, rfl⟩
  · split
    · exact ⟨{ progress with updateProgress := 99 }, rfl⟩
    · exact ⟨progress, rfl⟩

private theorem parseStates_data_progress (fuel length : Nat) (st : ParserState)
    (progress : Progress) :
    ∃ progress', parseStates flash base fuel .data length (st.withProgress progress) =
      (parseStates flash base fuel .data length st).map (·.withProgress progress') := by
  cases fuel with
  | zero => exact ⟨progress, rfl⟩
  | succ fuel =>
      obtain ⟨progress₁, hdata⟩ := parseData_progress flash base fuel
        (st.readCounted flash base).1 length (st.readCounted flash base).2 progress.count
      rw [parseStates, parseStates]
      change ∃ progress', (parseData flash base fuel (st.readCounted flash base).1 length
          ((st.readCounted flash base).2.withProgress progress.count)).map _ =
        ((parseData flash base fuel (st.readCounted flash base).1 length
          (st.readCounted flash base).2).map _).map _
      rw [hdata]
      cases parseData flash base fuel (st.readCounted flash base).1 length
        (st.readCounted flash base).2 with
      | none => exact ⟨progress, rfl⟩
      | some result =>
          obtain ⟨progress₂, hfinish⟩ :=
            finish_progress result.2.2 result.1 result.2.1 progress₁
          exact ⟨progress₂, congrArg some hfinish⟩

private theorem parseStates_progress (fuel length : Nat) (st : ParserState) (progress : Progress) :
    ∃ progress', parseStates flash base fuel .address length (st.withProgress progress) =
      (parseStates flash base fuel .address length st).map (·.withProgress progress') := by
  induction fuel generalizing length st progress with
  | zero => exact ⟨progress, rfl⟩
  | succ fuel ih =>
      let st₁ := (st.readCounted flash base).2
      let msg := (st.readCounted flash base).1
      have hstep : ∀ p, parseStates flash base (fuel + 1) .address length (st.withProgress p) =
          if st₁.addrFlag ∧ msg ≠ sectionStart ∧ msg ≠ fileTerminationChar then
            (parseAddress (ParserState.readCounted flash base) fuel msg
              (ParserState.withProgress { st₁ with addrFlag := false, parsedScFlashAddr := 0 }
                p.count)).bind fun st =>
              parseStates flash base fuel .data (length + 8) st.putAddress
          else if msg = sectionStart then
            parseStates flash base fuel .address length
              (ParserState.withProgress { st₁ with addrFlag := true } p.count)
          else if msg = fileTerminationChar then
            some (st₁.withProgress p.count).terminate
          else
            parseStates flash base fuel .data (length + 8)
              (ParserState.withProgress (ParserState.putAddress { st₁ with
                parsedScFlashAddr := st₁.parsedScFlashAddr + st₁.prevLength }) p.count) :=
        fun _ => rfl
      rw [hstep progress, show parseStates flash base (fuel + 1) .address length st = _ from
        hstep st.progress]
      split
      · let st₂ : ParserState := { st₁ with addrFlag := false, parsedScFlashAddr := 0 }
        obtain ⟨progress₁, hparse⟩ :=
          parseAddress_progress flash base fuel msg
            (st₂.withProgress st.progress.count) progress.count
        change ∃ progress', (parseAddress (ParserState.readCounted flash base) fuel msg
            ((st₂.withProgress st.progress.count).withProgress progress.count)).bind _ =
          ((parseAddress (ParserState.readCounted flash base) fuel msg
            (st₂.withProgress st.progress.count)).bind _).map _
        rw [hparse]
        cases parseAddress (ParserState.readCounted flash base) fuel msg
            (st₂.withProgress st.progress.count) with
        | none => exact ⟨progress, rfl⟩
        | some st₃ =>
            exact parseStates_data_progress flash base fuel (length + 8) st₃.putAddress progress₁
      · split
        · exact ih length { st₁ with addrFlag := true } progress.count
        · split
          · exact ⟨{ progress.count with updateProgress := 99 }, rfl⟩
          · exact parseStates_data_progress flash base fuel (length + 8)
              (ParserState.putAddress { st₁ with
                parsedScFlashAddr := st₁.parsedScFlashAddr + st₁.prevLength }) progress.count

private theorem packetsFrom_progress (fuel calls : Nat) (st : ParserState) (progress : Progress) :
    packetsFrom flash base fuel calls (st.withProgress progress) =
      packetsFrom flash base fuel calls st := by
  induction calls generalizing st progress with
  | zero => rfl
  | succ calls ih =>
      obtain ⟨progress₁, hnext⟩ := parseStates_progress flash base fuel 0
        { st with bslSendDataPkt := fun _ => 0 } progress
      have hcall : nextPacket flash base fuel (st.withProgress progress) =
          (nextPacket flash base fuel st).map (·.withProgress progress₁) := hnext
      rw [packetsFrom, packetsFrom, hcall]
      simp only [Option.bind_eq_bind, Option.bind_map, Function.comp_def, ih]
      rfl

end Progress

/-! ## The transactions of a run -/

abbrev LineLog := List (Transaction × LineOutcome)

/-- The line may answer anything; what happened is logged. -/
def lineStep (log : LineLog) (transaction : Transaction) (outcome : LineOutcome)
    (log' : LineLog) : Prop :=
  log' = log ++ [(transaction, outcome)]

def inDataPhase (entry : Transaction × LineOutcome) : Bool :=
  entry.1.caller = .sendDataToBsl ∨ entry.1.caller = .matchcrcPostwrite

def Succeeded (entry : Transaction × LineOutcome) : Prop :=
  transactionOk entry.1 entry.2 = true

instance (entry : Transaction × LineOutcome) : Decidable (Succeeded entry) :=
  inferInstanceAs (Decidable (_ = true))

structure Acknowledged (packet : List UInt8) (entry : Transaction × LineOutcome) : Prop where
  sent : entry.1 = { caller := .sendDataToBsl, sendBuf := packet, recv := some 8 }
  succeeded : Succeeded entry
  reply : entry.2.reply = bslResponse [bslRespCmdChar, bslRespMsgChar]

structure ReadBack (address : UInt32) (data : List UInt8)
    (entry : Transaction × LineOutcome) : Prop where
  sent : entry.1 = { caller := .matchcrcPostwrite
                     sendBuf := crcPkt address (UInt32.ofNat data.length), recv := some 9 }
  succeeded : Succeeded entry
  reply : entry.2.reply = bslResponse (bslCrcSuccessResp :: crcBytes data)

def Programmed : List (List UInt8) → LineLog → Prop
  | [], _ => True
  | packet :: packets, sent :: read :: log =>
      (∃ address data, packet = bslDataPacket address data ∧ Acknowledged packet sent ∧
        ReadBack address data read) ∧ Programmed packets log
  | _ :: _, _ => False

/--
As long as packets are left, no transaction fails, the reply to a packet
declares the two bytes it carries, and the reply to a read-back is a frame.
-/
def Clean : List (List UInt8) → LineLog → Prop
  | [], _ => True
  | _ :: packets, sent :: read :: log =>
      (Succeeded sent ∧ (sent.2.reply.drop 2).take 2 = [2, 0]) ∧
        (Succeeded read ∧ ∃ core, read.2.reply = bslResponse core) ∧ Clean packets log
  | _ :: _, _ => False

theorem Succeeded.length {entry : Transaction × LineOutcome} {size : Nat}
    (h : Succeeded entry) (hrecv : entry.1.recv = some size) :
    entry.2.reply.length = size := by
  simp only [Succeeded, transactionOk, hrecv, Bool.and_eq_true, beq_iff_eq] at h
  exact h.2.symm

private theorem rcvBufrAfter_slice {outcome : LineOutcome} {start size : Nat}
    (h : start + size ≤ outcome.reply.length) (hfits : outcome.reply.length ≤ 32) :
    (rcvBufrAfter outcome).slice start size = (outcome.reply.drop start).take size := by
  apply List.ext_getElem
  · simp
    omega
  · intro index hindex _
    rw [Memory.length_slice] at hindex
    rw [List.getElem_take, List.getElem_drop]
    simp only [Memory.slice, List.getElem_map, List.getElem_range', Nat.one_mul, rcvBufrAfter]
    rw [if_pos (by simp only [bslMaxRcvDataSize]; omega), List.getD_eq_getElem?_getD,
      List.getElem?_eq_getElem (by omega), Option.getD_some]

private theorem rcvBufrAfter_reply (outcome : LineOutcome) (hfits : outcome.reply.length ≤ 32) :
    (rcvBufrAfter outcome).slice 0 outcome.reply.length = outcome.reply := by
  rw [rcvBufrAfter_slice (by omega) hfits, List.drop_zero, List.take_length]

private theorem acknowledged_iff {packet : List UInt8} {entry : Transaction × LineOutcome}
    (hsent : entry.1 = { caller := .sendDataToBsl, sendBuf := packet, recv := some 8 })
    (hok : Succeeded entry)
    (hvalid : vmcValidateBslResp (rcvBufrAfter entry.2) 8 = true)
    (hcmd : rcvBufrAfter entry.2 4 = bslRespCmdChar)
    (hmsg : rcvBufrAfter entry.2 5 = bslRespMsgChar) :
    Acknowledged packet entry ↔ (entry.2.reply.drop 2).take 2 = [2, 0] := by
  have hlength : entry.2.reply.length = 8 := hok.length (by rw [hsent])
  constructor
  · intro h
    rw [h.reply]
    rfl
  · intro hdeclares
    refine ⟨hsent, hok, ?_⟩
    have hslice : (rcvBufrAfter entry.2).slice 2 2 = [byteAt 2 0, byteAt 2 1] := by
      rw [rcvBufrAfter_slice (by omega) (by omega), hdeclares]
      rfl
    have hframe := eq_bslResponse (by omega : 2 < 2 ^ 16) hvalid hslice
    have hreply := rcvBufrAfter_reply entry.2 (by omega)
    rw [hlength] at hreply
    rw [← hreply, hframe]
    simp [Memory.slice_succ, hcmd, hmsg]

private theorem readBack_iff {address : UInt32} {data : List UInt8}
    {entry : Transaction × LineOutcome}
    (hsent : entry.1 = { caller := .matchcrcPostwrite
                         sendBuf := crcPkt address (UInt32.ofNat data.length), recv := some 9 })
    (hmatched : Succeeded entry → vmcValidateBslResp (rcvBufrAfter entry.2) 9 = true →
      rcvBufrAfter entry.2 4 = bslCrcSuccessResp ∧
        crc16 data = le16 (rcvBufrAfter entry.2 5) (rcvBufrAfter entry.2 6)) :
    ReadBack address data entry ↔
      Succeeded entry ∧ ∃ core, entry.2.reply = bslResponse core := by
  constructor
  · intro h
    exact ⟨h.succeeded, _, h.reply⟩
  · rintro ⟨hok, core, hcore⟩
    have hlength : entry.2.reply.length = 9 := hok.length (by rw [hsent])
    have hsize : core.length = 3 := by
      have hsum := length_bslResponse core
      rw [← hcore, hlength] at hsum
      omega
    have hreply := rcvBufrAfter_reply entry.2 (by omega)
    rw [hlength, hcore] at hreply
    have hvalid := vmcValidateBslResp_bslResponse (rcvBufrAfter entry.2) core (by omega)
      (by rw [hsize]; exact hreply)
    rw [hsize] at hvalid
    obtain ⟨hcmd, hcrc⟩ := hmatched hok hvalid
    have hslice : (rcvBufrAfter entry.2).slice 4 3 = core := by
      rw [rcvBufrAfter_slice (by omega) (by omega), hcore]
      exact List.take_left' hsize
    have hbytes : core = bslCrcSuccessResp :: crcBytes data := by
      rw [← hslice, crcBytes, ← crc16_eq_crcBitwise, hcrc, byteAt_le16_zero, byteAt_le16_one]
      simp [Memory.slice_succ, hcmd]
    exact ⟨hsent, hok, by rw [hcore, hbytes]⟩

/-! ## The data loop -/

section Runs

variable {flash : Flash} {fuel : Nat} {isVck5000 : Bool}

def anyState : LineLog → Transaction → Prop := fun _ _ => True

theorem guarded_transaction {α : Type} {guard : LineLog → Transaction → Prop}
    {post : α → LineLog → Prop} {caller : Caller} {sendBuf : List UInt8} {recv : Option Nat}
    {st : UpdateState} {log : LineLog} {f : Bool × UpdateState → LineProg α}
    (hguard : guard log ⟨caller, sendBuf, recv⟩)
    (h : ∀ outcome, Prog.Safe lineStep guard post
      (f (transactionOk ⟨caller, sendBuf, recv⟩ outcome,
        { st with rcvBufr := rcvBufrAfter outcome }))
      (log ++ [(⟨caller, sendBuf, recv⟩, outcome)])) :
    Prog.Safe lineStep guard post (doUartTransaction caller sendBuf recv st >>= f) log := by
  refine ⟨hguard, ?_⟩
  rintro outcome log' rfl
  exact h outcome

theorem safe_transaction {α : Type} {post : α → LineLog → Prop} {caller : Caller}
    {sendBuf : List UInt8} {recv : Option Nat} {st : UpdateState} {log : LineLog}
    {f : Bool × UpdateState → LineProg α}
    (h : ∀ outcome, Prog.Safe lineStep anyState post
      (f (transactionOk ⟨caller, sendBuf, recv⟩ outcome,
        { st with rcvBufr := rcvBufrAfter outcome }))
      (log ++ [(⟨caller, sendBuf, recv⟩, outcome)])) :
    Prog.Safe lineStep anyState post (doUartTransaction caller sendBuf recv st >>= f) log :=
  guarded_transaction trivial h

def dataPackets (packets : List (List UInt8)) : List (List UInt8) :=
  packets.filter fun packet => IsDataPacket packet

/-- In the data phase `tail`, the packets are programmed exactly if it is clean. -/
structure DataPhase (packets : List (List UInt8)) (tail : LineLog) : Prop where
  caller : ∀ entry ∈ tail, inDataPhase entry = true
  iff : Programmed (dataPackets packets) tail ↔ Clean (dataPackets packets) tail

/-- How a round can leave the statics: given up, or as before and further in the image. -/
def GivenUp (st : UpdateState) : Prop :=
  st.updateStatus = .failure ∧ st.updateError ≠ .noError

/-- The statics between two updates. -/
structure Quiet (st : UpdateState) : Prop where
  state : st.updateState = .scStateIdle
  status : st.updateStatus = .success ∨ st.updateStatus = .failure

theorem Quiet.startUpdate {st : UpdateState} (h : Quiet st) :
    startUpdate st = { st with
      updateState := .scBslSync, updateStatus := .inProgress, updateError := .noError } :=
  if_pos ⟨h.state, h.status⟩

structure Abandoned (st : UpdateState) : Prop where
  quiet : Quiet st
  error : st.updateError ≠ .noError

structure Going (st : UpdateState) : Prop where
  status : st.updateStatus = .inProgress
  error : st.updateError = .noError

private theorem matchcrcPostwrite_safe {st : UpdateState} {log : LineLog} (hgoing : Going st) :
    Prog.Safe lineStep anyState (fun result log' => ∃ entry, log' = log ++ [entry] ∧
        inDataPhase entry = true ∧
        (result.1 = true → Going result.2 ∧ result.2.image = st.image ∧
          ∀ data, Framed st.image.parser data →
            (ReadBack st.image.parser.parsedScFlashAddr data entry ↔
              Succeeded entry ∧ ∃ core, entry.2.reply = bslResponse core)))
      (matchcrcPostwrite st.image.parser.parsedScFlashAddr st) log := by
  apply safe_transaction
  intro outcome
  let entry : Transaction × LineOutcome :=
    (⟨.matchcrcPostwrite,
      crcPkt st.image.parser.parsedScFlashAddr st.image.parser.prevLength,
      some bslCrcRespSize⟩, outcome)
  have hsent : ∀ data, Framed st.image.parser data → entry.1 =
      ⟨.matchcrcPostwrite, crcPkt st.image.parser.parsedScFlashAddr (UInt32.ofNat data.length),
        some 9⟩ := by
    intro data hframed
    simp only [entry, hframed.prevLength_eq, bslCrcRespSize]
  simp only [Prog.pure_eq]
  split
  · split
    · rename_i hcmd
      rw [Prog.safe_ret]
      refine ⟨entry, rfl, rfl, fun hmatched => ⟨⟨hgoing.status, hgoing.error⟩, rfl, ?_⟩⟩
      intro data hframed
      refine readBack_iff (hsent data hframed) fun _ _ => ⟨hcmd, ?_⟩
      rw [← hframed.dataCrc_eq]
      simpa using hmatched
    · rw [Prog.safe_ret]
      refine ⟨entry, rfl, rfl, fun hmatched => ?_⟩
      cases hmatched
  · rename_i hrejected
    rw [Prog.safe_ret]
    refine ⟨entry, rfl, rfl, fun _ => ⟨⟨hgoing.status, hgoing.error⟩, rfl, ?_⟩⟩
    intro data hframed
    exact readBack_iff (hsent data hframed) fun hok hvalid => absurd ⟨hok, hvalid⟩ hrejected

structure DataSent (flash : Flash) (fuel rounds : Nat) (st st' : UpdateState)
    (log log' : LineLog) : Prop where
  going : Going st'
  loc : st'.image.fptScLoc = st.image.fptScLoc
  sent : ∃ packets tail,
    packetsFrom flash st.image.fptScLoc.text fuel rounds st.image.parser = some packets ∧
    log' = log ++ tail ∧ DataPhase packets tail

theorem DataSent.cons {rounds : Nat} {st st₁ st' : UpdateState} {parser : ParserState}
    {entries log log' : LineLog} (hsent : ¬ st.image.parser.allPktSent = true)
    (hparser : nextPacket flash st.image.fptScLoc.text fuel st.image.parser = some parser)
    (himage : st₁.image = { st.image with parser })
    (hcaller : ∀ entry ∈ entries, inDataPhase entry = true)
    (hround : ∀ data, Framed parser data → ∀ packets tail,
      (Programmed packets tail ↔ Clean packets tail) →
      (Programmed (parser.packet :: packets) (entries ++ tail) ↔
        Clean (parser.packet :: packets) (entries ++ tail)))
    (h : DataSent flash fuel rounds st₁ st' (log ++ entries) log') :
    DataSent flash fuel (rounds + 1) st st' log log' := by
  obtain ⟨hgoing, hloc, packets, tail, hpackets, rfl, hphase⟩ := h
  rw [himage] at hloc hpackets
  refine ⟨hgoing, hloc, parser.packet :: packets, entries ++ tail, ?_, by simp, ?_, ?_⟩
  · rw [packetsFrom, if_neg hsent, hparser]
    simp only [Option.bind_eq_bind, Option.bind_some, hpackets]
    rfl
  · intro entry hmem
    rcases List.mem_append.1 hmem with hmem | hmem
    · exact hcaller entry hmem
    · exact hphase.caller entry hmem
  · rcases nextPacket_framed hparser with ⟨data, hframed⟩ | ⟨hlast, hzeros⟩
    · have hdata : dataPackets (parser.packet :: packets) =
          parser.packet :: dataPackets packets := by
        simp [dataPackets, hframed.isDataPacket]
      rw [hdata]
      exact hround data hframed _ _ hphase.iff
    · have hnone : packets = [] := by
        cases rounds with
        | zero => cases hpackets
        | succ rounds =>
            rw [packetsFrom, if_pos hlast] at hpackets
            cases hpackets
            rfl
      simp [hnone, dataPackets, hzeros, Programmed, Clean]

private theorem failed_round {packet : List UInt8} (entry : Transaction × LineOutcome)
    (hfailed : ¬ Succeeded entry) (packets : List (List UInt8)) (tail : LineLog) :
    Programmed (packet :: packets) ([entry] ++ tail) ↔
      Clean (packet :: packets) ([entry] ++ tail) := by
  cases tail with
  | nil => exact Iff.rfl
  | cons next tail =>
      constructor
      · rintro ⟨⟨_, _, _, hacknowledged, _⟩, _⟩
        exact absurd hacknowledged.succeeded hfailed
      · rintro ⟨⟨hsucceeded, _⟩, _⟩
        exact absurd hsucceeded hfailed

private theorem matched_round {st : ParserState} {data : List UInt8} (hframed : Framed st data)
    (sent read : Transaction × LineOutcome) (hsucceeded : Succeeded sent)
    (hsent : Acknowledged st.packet sent ↔ (sent.2.reply.drop 2).take 2 = [2, 0])
    (hread : ReadBack st.parsedScFlashAddr data read ↔
      Succeeded read ∧ ∃ core, read.2.reply = bslResponse core)
    {packets : List (List UInt8)} {tail : LineLog}
    (htail : Programmed packets tail ↔ Clean packets tail) :
    Programmed (st.packet :: packets) ([sent, read] ++ tail) ↔
      Clean (st.packet :: packets) ([sent, read] ++ tail) := by
  constructor
  · rintro ⟨⟨_, _, _, hacknowledged, hback⟩, hrest⟩
    exact ⟨⟨hsucceeded, hsent.1 hacknowledged⟩, ⟨hback.succeeded, _, hback.reply⟩,
      htail.1 hrest⟩
  · rintro ⟨⟨_, hdeclares⟩, hframe, hrest⟩
    exact ⟨⟨_, _, hframed.packet_eq, hsent.2 hdeclares, hread.2 hframe⟩, htail.2 hrest⟩

private theorem sendPackets_safe (rounds : Nat) {st : UpdateState} {log : LineLog}
    (hgoing : Going st) :
    Prog.Safe lineStep anyState (fun result log' => ∀ st', result = some st' →
        GivenUp st' ∨ DataSent flash fuel rounds st st' log log')
      (sendPackets flash fuel rounds st) log := by
  induction rounds generalizing st log with
  | zero =>
      intro st' h
      cases h
  | succ rounds ih =>
      rw [sendPackets]
      split
      · rename_i hsent
        rintro st' ⟨⟩
        refine .inr ⟨hgoing, rfl, [], [], ?_, by simp, by simp, by simp [dataPackets, Programmed, Clean]⟩
        rw [packetsFrom, if_pos hsent]
      · rename_i hsent
        split
        · intro st' h
          cases h
        · rename_i parser hparser
          apply safe_transaction
          intro outcome
          let st₁ : UpdateState :=
            { st with image := { st.image with parser }, rcvBufr := rcvBufrAfter outcome }
          let entry : Transaction × LineOutcome :=
            (⟨.sendDataToBsl, parser.packet, some bslDataTx32RespSize⟩, outcome)
          have hgoing₁ : Going st₁ := ⟨hgoing.status, hgoing.error⟩
          simp only
          split
          · rename_i hok
            split
            · rename_i haccepted
              obtain ⟨hvalid, hcmd, hmsg⟩ := haccepted
              refine (matchcrcPostwrite_safe hgoing₁).bind ?_
              rintro ⟨matched, st₂⟩ log₂ ⟨read, rfl, hcaller, hmatched⟩
              simp only
              split
              · rename_i htrue
                obtain ⟨hgoing₂, himage, hback⟩ := hmatched htrue
                refine (ih hgoing₂).weaken fun result log' hpost st' hresult => ?_
                rcases hpost st' hresult with hgiven | hdata
                · exact .inl hgiven
                · rw [List.append_assoc, List.singleton_append] at hdata
                  refine .inr (hdata.cons hsent hparser himage ?_ ?_)
                  · intro e hmem
                    rcases List.mem_cons.1 hmem with rfl | hmem
                    · rfl
                    · rwa [List.mem_singleton.1 hmem]
                  · intro data hframed packets tail htail
                    exact matched_round hframed entry read hok
                      (acknowledged_iff rfl hok hvalid hcmd hmsg) (hback data hframed) htail
              · rintro st' ⟨⟩
                exact .inl ⟨rfl, by simp [UpdateState.stop]⟩
            · rintro st' ⟨⟩
              exact .inl ⟨rfl, by simp [UpdateState.stop]⟩
          · rename_i hfailed
            refine (ih hgoing₁).weaken fun result log' hpost st' hresult => ?_
            rcases hpost st' hresult with hgiven | hdata
            · exact .inl hgiven
            · refine .inr (hdata.cons hsent hparser rfl ?_ ?_)
              · simp [inDataPhase]
              · intro data hframed packets tail _
                exact failed_round entry hfailed packets tail

/-! ## The states before the data -/

def preData : List ScUpdateState :=
  [.scBslSync, .scEnableBsl, .bslSynced, .bslUnlockPassword, .bslMassErase, .bslDataTx32]

structure Preparing (st₀ st : UpdateState) : Prop where
  going : Going st
  state : st.updateState ∈ preData
  image : ∃ progress, st.image =
    { st₀.image with parser := { st₀.image.parser with progress } }

namespace Preparing

variable {st₀ st : UpdateState}

theorem retain (h : Preparing st₀ st) {st' : UpdateState}
    (hstatus : st'.updateStatus = st.updateStatus) (herror : st'.updateError = st.updateError)
    (himage : st'.image = st.image) (hstate : st'.updateState ∈ preData) :
    Preparing st₀ st' :=
  ⟨⟨hstatus.trans h.going.status, herror.trans h.going.error⟩, hstate, himage ▸ h.image⟩

theorem countRetry (h : Preparing st₀ st) (caller : Caller) :
    Preparing st₀ (st.countRetry caller) :=
  h.retain rfl rfl rfl h.state

theorem giveUp (h : Preparing st₀ st) {caller : Caller} {error : ScUpdateError}
    (herror : error ≠ .noError) :
    Preparing st₀ (st.giveUp caller error) ∨ Abandoned (st.giveUp caller error) := by
  unfold UpdateState.giveUp
  split
  · exact .inr ⟨⟨rfl, .inr rfl⟩, herror⟩
  · exact .inl h

theorem syncedReply (h : Preparing st₀ st) : Preparing st₀ (syncedReply st) := by
  unfold Sc.syncedReply
  simp only
  split
  · exact h.retain rfl rfl rfl (by simp [preData])
  · exact h.retain rfl rfl rfl h.state

theorem syncReply (h : Preparing st₀ st) : Preparing st₀ (syncReply st) := by
  unfold Sc.syncReply
  split
  · exact h.retain rfl rfl rfl (by simp [preData])
  · split
    · exact h.syncedReply
    · split
      · exact h.syncedReply
      · exact h.retain rfl rfl rfl (by simp [preData])

theorem syncRetries (h : Preparing st₀ st) :
    Preparing st₀ (syncRetries st) ∨ Abandoned (syncRetries st) := by
  unfold Sc.syncRetries
  split
  · simp only
    split
    · exact .inr ⟨⟨rfl, .inr rfl⟩, by simp [UpdateState.fail]⟩
    · split
      · exact .inl (h.retain rfl rfl rfl h.state)
      · split
        · exact .inl (h.retain rfl rfl rfl h.state)
        · exact .inl (h.retain rfl rfl rfl h.state)
  · exact .inl h

theorem enableReply (h : Preparing st₀ st) : Preparing st₀ (enableReply st) := by
  unfold Sc.enableReply
  split <;> exact h.retain rfl rfl rfl (by simp [preData])

theorem vmcSyncReply (h : Preparing st₀ st) : Preparing st₀ (vmcSyncReply st) := by
  unfold Sc.vmcSyncReply
  split
  · obtain ⟨progress, himage⟩ := h.image
    refine ⟨⟨h.going.status, h.going.error⟩, by simp [preData],
      { progress with updateProgress := 1 }, ?_⟩
    simp only [UpdateState.setUpdateProgress, UpdateState.setProgress, UpdateState.withRetry,
      himage]
  · exact h.retain rfl rfl rfl (by simp [preData])

end Preparing

def Prepared (st₀ : UpdateState) (log : LineLog) (st : UpdateState) (log' : LineLog) : Prop :=
  (∃ entry, log' = log ++ [entry] ∧ inDataPhase entry = false) ∧
    (Preparing st₀ st ∨ Abandoned st)

section Prepare

variable {st₀ st : UpdateState} {log : LineLog}

private theorem transaction_prepared (h : Preparing st₀ st) {caller : Caller}
    (hcaller : caller ≠ .sendDataToBsl ∧ caller ≠ .matchcrcPostwrite) {sendBuf : List UInt8}
    {recv : Option Nat} {f : Bool × UpdateState → UpdateState}
    (hf : ∀ ok received, Preparing st₀ received →
      Preparing st₀ (f (ok, received)) ∨ Abandoned (f (ok, received))) :
    Prog.Safe lineStep anyState (Prepared st₀ log)
      (doUartTransaction caller sendBuf recv st >>= fun result => pure (f result)) log := by
  apply safe_transaction
  intro outcome
  refine ⟨⟨_, rfl, by simp [inDataPhase, hcaller]⟩, hf _ _ ?_⟩
  exact h.retain rfl rfl rfl h.state

private theorem syncScBsl_safe (h : Preparing st₀ st) :
    Prog.Safe lineStep anyState (Prepared st₀ log) (syncScBsl st) log := by
  refine transaction_prepared h (by decide) fun ok received hline => ?_
  cases ok with
  | true => exact hline.syncReply.syncRetries
  | false => exact (hline.countRetry _).syncRetries

private theorem enableScBsl_safe (h : Preparing st₀ st) :
    Prog.Safe lineStep anyState (Prepared st₀ log) (enableScBsl st) log := by
  refine transaction_prepared h (by decide) fun ok received hline => ?_
  apply Preparing.giveUp _ (by decide)
  cases ok with
  | true => exact hline.enableReply
  | false => exact hline.countRetry _

private theorem syncVmcBsl_safe (h : Preparing st₀ st) :
    Prog.Safe lineStep anyState (Prepared st₀ log) (syncVmcBsl isVck5000 st) log := by
  refine transaction_prepared h (by decide) fun ok received hline => ?_
  apply Preparing.giveUp _ (by decide)
  cases ok with
  | true => exact hline.vmcSyncReply
  | false => exact hline.countRetry _

private theorem bslCommand_safe (h : Preparing st₀ st) {caller : Caller}
    (hcaller : caller ≠ .sendDataToBsl ∧ caller ≠ .matchcrcPostwrite) {request : List UInt8}
    {respSize : Nat} {self next : ScUpdateState} (hself : self ∈ preData)
    (hnext : next ∈ preData) {error : ScUpdateError} (herror : error ≠ .noError) :
    Prog.Safe lineStep anyState (Prepared st₀ log)
      (bslCommand caller request respSize self next error st) log := by
  refine transaction_prepared h hcaller fun ok received hline => ?_
  apply Preparing.giveUp _ herror
  cases ok with
  | true =>
      rw [if_pos rfl]
      split
      · exact hline.retain rfl rfl rfl hnext
      · exact hline.retain rfl rfl rfl hself
  | false => exact hline.countRetry _

end Prepare

/-! ## The whole update -/

def dataPhase (log : LineLog) : LineLog := log.filter inDataPhase

/--
The packets parsed in the update that started in `st₀` are programmed exactly
if the transactions of its data phase are clean.
-/
def Decided (flash : Flash) (fuel : Nat) (st₀ : UpdateState) (log : LineLog) : Prop :=
  ∃ packets,
    scPackets flash st₀.image.fptScLoc.text fuel st₀.image.parser = some packets ∧
    (Programmed (dataPackets packets) (dataPhase log) ↔
      Clean (dataPackets packets) (dataPhase log))

inductive Stage (flash : Flash) (fuel : Nat) (st₀ st : UpdateState) (log : LineLog) : Prop
  | before (h : Preparing st₀ st) (hlog : dataPhase log = [])
  | loading (hgoing : Going st) (hstate : st.updateState = .bslLoadPc32)
      (h : Decided flash fuel st₀ log)
  | rebooting (hstatus : st.updateStatus = .inProgress) (herror : st.updateError ≠ .noError)
      (hstate : st.updateState = .bslRebootReset)
  | finished (hquiet : Quiet st)
      (h : st.updateError = .noError → Decided flash fuel st₀ log)

private theorem Decided.snoc {st₀ : UpdateState} {log : LineLog} (h : Decided flash fuel st₀ log)
    {entry : Transaction × LineOutcome} (hentry : inDataPhase entry = false) :
    Decided flash fuel st₀ (log ++ [entry]) := by
  have hphase : dataPhase (log ++ [entry]) = dataPhase log := by
    simp [dataPhase, hentry]
  unfold Decided at h ⊢
  rwa [hphase]

private theorem Prepared.stage {st₀ st : UpdateState} {log log' : LineLog}
    (hlog : dataPhase log = [])
    (h : Prepared st₀ log st log') : Stage flash fuel st₀ st log' := by
  obtain ⟨⟨entry, rfl, hentry⟩, hpreparing | habandoned⟩ := h
  · refine .before hpreparing ?_
    simp only [dataPhase, List.filter_append] at hlog ⊢
    simp [hlog, hentry]
  · exact .finished habandoned.quiet fun herror => absurd herror habandoned.error

private theorem afterData_givenUp {st₀ st : UpdateState} {log : LineLog} (h : GivenUp st) :
    Stage flash fuel st₀ (afterData isVck5000 st) log := by
  obtain ⟨hstatus, herror⟩ := h
  cases isVck5000 with
  | true =>
      refine .rebooting ?_ ?_ ?_
      · simp [afterData, hstatus]
      · simpa [afterData, hstatus] using herror
      · simp [afterData, hstatus]
  | false =>
      refine .finished ⟨?_, .inr ?_⟩ fun hnone => absurd ?_ herror
      · simp [afterData, hstatus]
      · simp [afterData, hstatus]
      · simpa [afterData, hstatus] using hnone

private theorem afterData_loading {st₀ st : UpdateState} {log : LineLog} (hgoing : Going st)
    (h : Decided flash fuel st₀ log) : Stage flash fuel st₀ (afterData isVck5000 st) log := by
  obtain ⟨hstatus, herror⟩ := hgoing
  refine .loading ⟨?_, ?_⟩ ?_ h
  · simp [afterData, hstatus]
  · simp [afterData, hstatus, herror]
  · simp [afterData, hstatus]

private theorem sendDataToBsl_safe {st₀ st : UpdateState} {log : LineLog} (h : Preparing st₀ st)
    (hlog : dataPhase log = []) :
    Prog.Safe lineStep anyState (fun result log' => ∀ st', result = some st' →
        Stage flash fuel st₀ st' log')
      (sendDataToBsl flash fuel isVck5000 st) log := by
  obtain ⟨progress, himage⟩ := h.image
  have hgoing := h.going
  unfold sendDataToBsl
  simp only
  split
  · rintro st' ⟨⟩
    exact .finished ⟨rfl, .inr rfl⟩ fun herror => by cases herror
  · rename_i hstart
    refine Prog.Safe.bind (sendPackets_safe fuel ?_) ?_
    · exact ⟨hgoing.status, hgoing.error⟩
    rintro result log' hpost st' hresult
    obtain ⟨st₁, rfl, rfl⟩ := Option.map_eq_some_iff.1 hresult
    rcases hpost st₁ rfl with hgiven | ⟨hgoing₁, -, packets, tail, hpackets, rfl, hphase⟩
    · exact afterData_givenUp hgiven
    · have htail : dataPhase (log ++ tail) = tail := by
        simp only [dataPhase, List.filter_append] at hlog ⊢
        rw [hlog, List.nil_append, List.filter_eq_self.2 hphase.caller]
      refine afterData_loading hgoing₁ ⟨packets, ?_, ?_⟩
      · simp only [himage] at hpackets hstart
        rw [scPackets, if_pos (by simpa using hstart), ← hpackets]
        exact (packetsFrom_progress _ _ fuel fuel st₀.image.parser.rewind _).symm
      · rw [htail]
        exact hphase.iff

private theorem loadpcBsl_safe {st₀ st : UpdateState} {log : LineLog} (hgoing : Going st)
    (hstate : st.updateState = .bslLoadPc32) (h : Decided flash fuel st₀ log) :
    Prog.Safe lineStep anyState (Stage flash fuel st₀) (loadpcBsl st) log := by
  apply safe_transaction
  intro outcome
  simp only
  split
  · exact .finished ⟨rfl, .inl rfl⟩ fun _ => h.snoc rfl
  · exact .loading ⟨hgoing.status, hgoing.error⟩ hstate (h.snoc rfl)

private theorem rebootBsl_safe {st₀ st : UpdateState} {log : LineLog}
    (hstatus : st.updateStatus = .inProgress) (herror : st.updateError ≠ .noError) (hstate : st.updateState = .bslRebootReset) :
    Prog.Safe lineStep anyState (Stage flash fuel st₀) (rebootBsl st) log := by
  apply safe_transaction
  intro outcome
  simp only
  split
  · exact .finished ⟨rfl, .inl rfl⟩ fun hnone => absurd hnone herror
  · exact .rebooting hstatus herror hstate

theorem safe_some {α : Type} {guard : LineLog → Transaction → Prop}
    {post : Option α → LineLog → Prop} {p : LineProg α} {log : LineLog}
    (h : Prog.Safe lineStep guard (fun result => post (some result)) p log) :
    Prog.Safe lineStep guard post (some <$> p) log := by
  rw [map_eq_pure_bind]
  exact h.bind fun _ _ hpost => hpost

/-- A round takes a stage to a stage. -/
theorem updateRound_safe {st₀ st : UpdateState} {log : LineLog}
    (h : Stage flash fuel st₀ st log) (hstatus : st.updateStatus = .inProgress) :
    Prog.Safe lineStep anyState (fun result log' => ∀ st', result = some st' →
        Stage flash fuel st₀ st' log')
      (updateRound flash isVck5000 fuel st) log := by
  have keep : ∀ {p : LineProg UpdateState},
      Prog.Safe lineStep anyState (Stage flash fuel st₀) p log →
      Prog.Safe lineStep anyState (fun result log' => ∀ st', result = some st' →
        Stage flash fuel st₀ st' log') (some <$> p) log := fun hp =>
    safe_some (hp.weaken fun _ _ hstage _ heq => by cases heq; exact hstage)
  cases h with
  | before h hlog =>
      have prepared : ∀ {p : LineProg UpdateState},
          Prog.Safe lineStep anyState (Prepared st₀ log) p log →
          Prog.Safe lineStep anyState (Stage flash fuel st₀) p log := fun hp =>
        hp.weaken fun _ _ => Prepared.stage hlog
      have hstate := h.state
      simp only [preData, List.mem_cons, List.not_mem_nil, or_false] at hstate
      unfold updateRound
      rcases hstate with hstate | hstate | hstate | hstate | hstate | hstate <;>
        simp only [hstate]
      · exact keep (prepared (syncScBsl_safe h))
      · exact keep (prepared (enableScBsl_safe h))
      · exact keep (prepared (syncVmcBsl_safe h))
      · exact keep (prepared (bslCommand_safe h (by decide) (by simp [preData])
          (by simp [preData]) (by decide)))
      · exact keep (prepared (bslCommand_safe h (by decide) (by simp [preData])
          (by simp [preData]) (by decide)))
      · exact sendDataToBsl_safe h hlog
  | loading hgoing hstate h =>
      simp only [updateRound, hstate]
      exact keep (loadpcBsl_safe hgoing hstate h)
  | rebooting _ herror hstate =>
      simp only [updateRound, hstate]
      exact keep (rebootBsl_safe hstatus herror hstate)
  | finished hquiet h =>
      rcases hquiet.status with hover | hover <;> simp [hover] at hstatus

private theorem updateLoop_safe (rounds : Nat) {st₀ st : UpdateState} {log : LineLog}
    (h : Stage flash fuel st₀ st log) :
    Prog.Safe lineStep anyState (fun result log' => ∀ st', result = some st' →
        Stage flash fuel st₀ st' log' ∧ st'.updateStatus ≠ .inProgress)
      (updateLoop flash isVck5000 fuel rounds st) log := by
  induction rounds generalizing st log with
  | zero =>
      intro st' h
      cases h
  | succ rounds ih =>
      rw [updateLoop]
      split
      · rename_i hstatus
        refine (updateRound_safe h hstatus).bind ?_
        rintro (_ | st₁) log₁ hstage
        · intro st' h
          cases h
        · exact ih (hstage st₁ rfl)
      · rename_i hstatus
        rintro st' ⟨⟩
        exact ⟨h, hstatus⟩

theorem Stage.ended {st₀ st : UpdateState} {log : LineLog} (h : Stage flash fuel st₀ st log)
    (hstatus : st.updateStatus ≠ .inProgress) :
    Quiet st ∧ (st.updateError = .noError → Decided flash fuel st₀ log) := by
  cases h with
  | before h _ => exact absurd h.going.status hstatus
  | loading hgoing _ _ => exact absurd hgoing.status hstatus
  | rebooting hgoing _ _ => exact absurd hgoing hstatus
  | finished hquiet h => exact ⟨hquiet, h⟩

theorem startUpdate_stage {st : UpdateState} (hquiet : Quiet st) :
    Stage flash fuel st (startUpdate st) [] := by
  rw [hquiet.startUpdate]
  exact .before ⟨⟨rfl, rfl⟩, by simp [preData], st.image.parser.progress, rfl⟩ rfl

private theorem updateScfw_safe {st : UpdateState} (hquiet : Quiet st) :
    Prog.Safe lineStep anyState (fun result log => ∀ error st', result = some (error, st') →
        Quiet st' ∧ (error = .noError → Decided flash fuel st log))
      (updateScfw flash isVck5000 fuel st) [] := by
  refine (updateLoop_safe fuel (startUpdate_stage hquiet)).bind ?_
  rintro (_ | st₁) log h
  · intro error st' h
    cases h
  · obtain ⟨hstage, hstatus⟩ := h st₁ rfl
    obtain ⟨hquiet₁, hdecided⟩ := hstage.ended hstatus
    rintro error st' ⟨⟩
    exact ⟨⟨hquiet₁.state, hquiet₁.status⟩, hdecided⟩

end Runs

/-! ## Successive updates -/

def bootUpdate (image : ScImage) : UpdateState :=
  { updateStatus := .success, updateState := .scStateIdle, updateError := .noError, image,
    rcvBufr := fun _ => 0, modeRetryCnt := 0, bytesToRcv := scBslSyncedRespSize,
    retryCount := fun _ => 0 }

/-- The statics after any number of updates; between them the image may change. -/
inductive BetweenUpdates (isVck5000 : Bool) : UpdateState → Prop
  | boot (image : ScImage) : BetweenUpdates isVck5000 (bootUpdate image)
  | next {flash : Flash} {fuel : Nat} {st st' : UpdateState} {error : ScUpdateError}
      {log : LineLog} (h : BetweenUpdates isVck5000 st)
      (hrun : Prog.Returns lineStep [] (updateScfw flash isVck5000 fuel st)
        (some (error, st')) log)
      (image : ScImage) : BetweenUpdates isVck5000 { st' with image }

theorem BetweenUpdates.quiet {isVck5000 : Bool} {st : UpdateState}
    (h : BetweenUpdates isVck5000 st) : Quiet st := by
  induction h with
  | boot image => exact ⟨rfl, .inl rfl⟩
  | next _ hrun image ih =>
      have hquiet := ((updateScfw_safe ih).returns hrun _ _ rfl).1
      exact ⟨hquiet.state, hquiet.status⟩

/--
An update that reports no error has programmed all data packets of its image
exactly if the transactions of its data phase are clean.
-/
theorem updateScfw_programmed {flash : Flash} {isVck5000 : Bool} {fuel : Nat}
    {st st' : UpdateState} {log : LineLog} (h : BetweenUpdates isVck5000 st)
    (hrun : Prog.Returns lineStep [] (updateScfw flash isVck5000 fuel st)
      (some (.noError, st')) log) :
    ∃ packets, scPackets flash st.image.fptScLoc.text fuel st.image.parser = some packets ∧
      (Programmed (dataPackets packets) (dataPhase log) ↔
        Clean (dataPackets packets) (dataPhase log)) :=
  ((updateScfw_safe h.quiet).returns hrun _ _ rfl).2 rfl

section Controller

/-- A controller in its loader.  With `deaf` set it takes no data packets. -/
def controllerLine (deaf : Bool) (transaction : Transaction) : LineOutcome :=
  let reply := match transaction.caller with
    | .syncScBsl => [0x5C, 0x02] ++ List.replicate 9 0
    | .enableScBsl => [0x5C, 0x00, 0xFE] ++ List.replicate 8 0
    | .syncVmcBsl => List.replicate 9 0
    | .unlockBsl | .massEraseBsl | .sendDataToBsl => bslResponse [bslRespCmdChar, bslRespMsgChar]
    | .matchcrcPostwrite =>
        let data := if transaction.sendBuf[4]? = some 0x10 then [0x07, 0x07] else [0x38, 0x11]
        bslResponse (bslCrcSuccessResp :: crcBytes data)
    | .loadpcBsl => [0]
    | .rebootBsl => []
  { setBuffer := true, wait := true, reply, behind := fun _ => 0
    send := !(deaf && decide (transaction.caller = .sendDataToBsl)) }

variable {α : Type} (line : Transaction → LineOutcome)

def runLine (p : LineProg α) (log : LineLog) : α × LineLog :=
  Prog.simulate (fun log transaction =>
    (line transaction, log ++ [(transaction, line transaction)])) p log

theorem runLine_returns {line} {p : LineProg α} {log : LineLog} {value : α}
    (h : (runLine line p log).1 = value) :
    Prog.Returns lineStep log p value (runLine line p log).2 := by
  subst h
  exact Prog.returns_simulate (fun _ _ => rfl) p log

private theorem runLine_answer (p : LineProg α) {log : LineLog}
    (hlog : ∀ entry ∈ log, entry = (entry.1, line entry.1)) :
    ∀ entry ∈ (runLine line p log).2, entry = (entry.1, line entry.1) := by
  induction p generalizing log with
  | ret value => exact hlog
  | op transaction next ih =>
      refine ih (line transaction) fun entry hmem => ?_
      rcases List.mem_append.1 hmem with hmem | hmem
      · exact hlog entry hmem
      · rw [List.mem_singleton.1 hmem]

private theorem dataPhase_runLine (p : LineProg α) {transactions : List Transaction}
    (h : (dataPhase (runLine line p []).2).map Prod.fst = transactions) :
    dataPhase (runLine line p []).2 =
      transactions.map fun transaction => (transaction, line transaction) := by
  subst h
  rw [List.map_map]
  refine (List.map_id _).symm.trans (List.map_congr_left fun entry hmem => ?_)
  exact runLine_answer line p (by simp) entry (List.mem_filter.1 hmem).1

def seamUpdate (deaf : Bool) : Option (ScUpdateError × UpdateState) × LineLog :=
  runLine (controllerLine deaf)
    (updateScfw (partitionFlash seamSections) false 100 (bootUpdate (bootImage 12))) []

theorem seamUpdate_returns {deaf : Bool}
    (h : (seamUpdate deaf).1.map Prod.fst = some .noError) :
    ∃ st', Prog.Returns lineStep []
      (updateScfw (partitionFlash seamSections) false 100 (bootUpdate (bootImage 12)))
      (some (.noError, st')) (seamUpdate deaf).2 := by
  obtain ⟨⟨error, st'⟩, hresult, rfl⟩ := Option.map_eq_some_iff.1 h
  exact ⟨st', runLine_returns hresult⟩

private theorem dataPhase_seamUpdate {deaf : Bool} {transactions : List Transaction}
    (h : (dataPhase (seamUpdate deaf).2).map Prod.fst = transactions) :
    dataPhase (seamUpdate deaf).2 =
      transactions.map fun transaction => (transaction, controllerLine deaf transaction) :=
  dataPhase_runLine _ _ h

def seamPackets : List (List UInt8) :=
  [bslDataPacket 0x10 [0x07, 0x07], bslDataPacket 0x20 [0x38, 0x11]]

private theorem scPackets_seam :
    scPackets (partitionFlash seamSections) (bootImage 12).fptScLoc.text 100 bootParser =
      some seamPackets := by
  decide +kernel

private theorem dataPackets_seam : dataPackets seamPackets = seamPackets := by
  decide +kernel

end Controller

theorem updateScfw_programmed_controller :
    ∃ st', Prog.Returns lineStep []
        (updateScfw (partitionFlash seamSections) false 100 (bootUpdate (bootImage 12)))
        (some (.noError, st')) (seamUpdate false).2 ∧
      Programmed seamPackets (dataPhase (seamUpdate false).2) := by
  have hnoError : (seamUpdate false).1.map Prod.fst = some .noError := by decide +kernel
  obtain ⟨st', hrun⟩ := seamUpdate_returns hnoError
  refine ⟨st', hrun, ?_⟩
  have hboot : BetweenUpdates false (bootUpdate (bootImage 12)) := .boot _
  have hiff : Programmed seamPackets (dataPhase (seamUpdate false).2) ↔
      Clean seamPackets (dataPhase (seamUpdate false).2) := by
    refine (updateScfw_programmed hboot hrun).elim fun packets h => ?_
    have hseam : packets = seamPackets := Option.some.inj (h.1.symm.trans scPackets_seam)
    have hiff := h.2
    rwa [hseam, dataPackets_seam] at hiff
  have hlog : (dataPhase (seamUpdate false).2).map Prod.fst =
      [⟨.sendDataToBsl, bslDataPacket 0x10 [0x07, 0x07], some 8⟩,
        ⟨.matchcrcPostwrite, crcPkt 0x10 2, some 9⟩,
        ⟨.sendDataToBsl, bslDataPacket 0x20 [0x38, 0x11], some 8⟩,
        ⟨.matchcrcPostwrite, crcPkt 0x20 2, some 9⟩] := by
    decide +kernel
  rw [hiff, dataPhase_seamUpdate hlog]
  simp only [seamPackets, List.map_cons, List.map_nil, Clean]
  refine ⟨⟨?_, ?_⟩, ⟨?_, _, rfl⟩, ⟨?_, ?_⟩, ⟨?_, _, rfl⟩, trivial⟩
  all_goals decide +kernel

/-- Both packets fail to be sent; the update reports no error. -/
theorem updateScfw_not_programmed :
    ∃ st' log packets, Prog.Returns lineStep []
        (updateScfw (partitionFlash seamSections) false 100 (bootUpdate (bootImage 12)))
        (some (.noError, st')) log ∧
      scPackets (partitionFlash seamSections) (bootImage 12).fptScLoc.text 100 bootParser =
        some packets ∧
      ¬ Programmed (dataPackets packets) (dataPhase log) := by
  have hnoError : (seamUpdate true).1.map Prod.fst = some .noError := by decide +kernel
  obtain ⟨st', hrun⟩ := seamUpdate_returns hnoError
  refine ⟨st', _, _, hrun, scPackets_seam, ?_⟩
  have hlog : (dataPhase (seamUpdate true).2).map Prod.fst =
      [⟨.sendDataToBsl, bslDataPacket 0x10 [0x07, 0x07], some 8⟩,
        ⟨.sendDataToBsl, bslDataPacket 0x20 [0x38, 0x11], some 8⟩] := by
    decide +kernel
  rw [dataPackets_seam, dataPhase_seamUpdate hlog]
  rintro ⟨⟨_, _, _, hacknowledged, _⟩, _⟩
  cases hacknowledged.succeeded

end Vmr.Sc
