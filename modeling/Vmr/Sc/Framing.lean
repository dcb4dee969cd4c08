import Vmr.Sc.TiTxt

/-!
# The packets of an image

One call of `parse_fpt_sc` frames what is left of a section, or its next 256
bytes.  A section is cut exactly when 256 bytes or more are left of it, so one
whose length is a multiple of 256 ends with a packet that carries no data.
-/

namespace Vmr.Sc

open Vmr.Lib

def bslCore (address : UInt32) (data : List UInt8) : List UInt8 :=
  [cmdRxDataBlock32, byteAt address.toNat 0, byteAt address.toNat 1,
    byteAt address.toNat 2, byteAt address.toNat 3] ++ data

def bslDataPacket (address : UInt32) (data : List UInt8) : List UInt8 :=
  let core := bslCore address data
  let crc := crcBitwise ccittPoly 0xFFFF core
  [bslMsgHeader, byteAt core.length 0, byteAt core.length 1] ++ core ++
    [byteAt crc.toNat 0, byteAt crc.toNat 1]

private theorem length_bslDataPacket (address : UInt32) (data : List UInt8) :
    (bslDataPacket address data).length = data.length + 10 := by
  simp [bslDataPacket, bslCore]

/-! ## The end of a call -/

structure Filled (st : ParserState) (address : UInt32) (data : List UInt8) : Prop where
  address_eq : st.bslSendDataPkt.slice 4 4 = [byteAt address.toNat 0, byteAt address.toNat 1,
    byteAt address.toNat 2, byteAt address.toNat 3]
  data_eq : st.bslSendDataPkt.slice 8 data.length = data

theorem putAddress_filled (st : ParserState) : Filled st.putAddress st.parsedScFlashAddr [] :=
  ⟨Memory.slice_putBytes .., rfl⟩

theorem Filled.putBytes {st st' : ParserState} {address : UInt32} (h : Filled st address [])
    {data : List UInt8} (hpkt : st'.bslSendDataPkt = st.bslSendDataPkt.putBytes 8 data) :
    Filled st' address data := by
  refine ⟨?_, ?_⟩
  · rw [hpkt, ← h.address_eq]
    exact Memory.slice_congr fun a _ ha => Memory.putBytes_outside _ _ (.inl (by omega))
  · rw [hpkt, Memory.slice_putBytes]

private theorem putHeader_core {pkt : Memory} {address : UInt32} {data : List UInt8}
    (haddress : pkt.slice 4 4 = [byteAt address.toNat 0, byteAt address.toNat 1,
      byteAt address.toNat 2, byteAt address.toNat 3])
    (hdata : pkt.slice 8 data.length = data) (core : Nat) :
    (putHeader pkt core).slice 3 (5 + data.length) = bslCore address data := by
  have hbehind : ∀ start length, 4 ≤ start →
      (putHeader pkt core).slice start length = pkt.slice start length := by
    intro start length hle
    exact Memory.slice_congr fun a ha _ => Memory.putBytes_outside _ _
      (.inr (by simp only [List.length_cons, List.length_nil]; omega))
  rw [show 5 + data.length = 1 + (4 + data.length) by omega, Memory.slice_add,
    Memory.slice_add, hbehind (3 + 1) 4 (by omega), hbehind (3 + 1 + 4) _ (by omega),
    haddress, hdata]
  rfl

theorem finish_packet {st : ParserState} {address : UInt32} {data : List UInt8}
    (h : Filled st address data) (msg : UInt8) :
    (st.finish msg (8 + data.length)).packet = bslDataPacket address data := by
  let pkt := putHeader st.bslSendDataPkt (5 + data.length)
  let crc := crc16 (bslCore address data)
  have hcore : pkt.slice 3 (5 + data.length) = bslCore address data :=
    putHeader_core h.address_eq h.data_eq _
  have hbuffer : (st.finish msg (8 + data.length)).bslSendDataPkt =
      pkt.putBytes (8 + data.length) [byteAt crc.toNat 0, byteAt crc.toNat 1] := by
    simp only [ParserState.finish, show 8 + data.length - 3 = 5 + data.length by omega]
    rw [hcore]
  have hbefore : ∀ start length, start + length ≤ 8 + data.length →
      (pkt.putBytes (8 + data.length) [byteAt crc.toNat 0, byteAt crc.toNat 1]).slice
        start length = pkt.slice start length := by
    intro start length hle
    exact Memory.slice_congr fun a _ ha => Memory.putBytes_outside _ _ (.inl (by omega))
  have hcrc : (pkt.putBytes (8 + data.length) [byteAt crc.toNat 0, byteAt crc.toNat 1]).slice
      (8 + data.length) 2 = [byteAt crc.toNat 0, byteAt crc.toNat 1] :=
    Memory.slice_putBytes ..
  have htotal : (st.finish msg (8 + data.length)).totalLength = 3 + (5 + data.length) + 2 := by
    change 8 + data.length + 2 = _
    omega
  have hlength : (bslCore address data).length = 5 + data.length := by
    simp [bslCore]
    omega
  rw [ParserState.packet, htotal, hbuffer, Memory.slice_add, Memory.slice_add,
    hbefore _ _ (by omega), hbefore _ _ (by omega), Nat.zero_add, hcore,
    show 0 + (3 + (5 + data.length)) = 8 + data.length by omega, hcrc, bslDataPacket, hlength,
    ← crc16_eq_crcBitwise]
  rfl

theorem finish_dataCrc {st : ParserState} {address : UInt32} {data : List UInt8}
    (h : Filled st address data) (msg : UInt8) :
    (st.finish msg (8 + data.length)).dataCrc = crc16 data := by
  have hdata : ((putHeader st.bslSendDataPkt (5 + data.length)).putBytes (8 + data.length)
      [byteAt (crc16 (bslCore address data)).toNat 0,
        byteAt (crc16 (bslCore address data)).toNat 1]).slice 8 data.length = data := by
    rw [Memory.slice_congr (fun a _ ha => Memory.putBytes_outside _ _ (.inl (by omega))),
      putHeader, Memory.slice_congr (fun a ha _ => Memory.putBytes_outside _ _
        (.inr (by simp only [List.length_cons, List.length_nil]; omega))), h.data_eq]
  simp only [ParserState.finish, show 8 + data.length - 3 = 5 + data.length by omega,
    putHeader_core h.address_eq h.data_eq, show 5 + data.length - 5 = data.length by omega, hdata]

/-! ## One call -/

/--
The writes a section gives rise to: 256 bytes at a time as long as there are as
many, then what is left, which may be nothing.
-/
def sectionWrites (address : UInt32) (data : List UInt8) : List (UInt32 × List UInt8) :=
  if data.length < 256 then
    [(address, data)]
  else
    (address, data.take 256) :: sectionWrites (address + 256) (data.drop 256)
termination_by data.length

def imageWrites (image : List Section) : List (UInt32 × List UInt8) :=
  image.flatMap fun s => sectionWrites s.address s.data

section Calls

variable {flash : Flash} {base : UInt32} {text : List UInt8}

variable (text) in
/--
Between two calls: `data` is still to be written to `address`, then come the
sections of `rest`.  The `@` of the section is next, or it was just consumed, or
the section was cut and its newline is next.
-/
inductive Position : ParserState → UInt32 → List UInt8 → List Section → Prop
  | ahead {st : ParserState} {s : Section} {rest : List Section}
      (hsent : st.allPktSent = false)
      (hat : At text st.dataPtr (sectionStart :: (s.body ++ tiTxt rest))) :
      Position st s.address s.data rest
  | opened {st : ParserState} {s : Section} {rest : List Section}
      (hflag : st.addrFlag = true) (hsent : st.allPktSent = false)
      (hat : At text st.dataPtr (s.body ++ tiTxt rest)) :
      Position st s.address s.data rest
  | cut {st : ParserState} {address : UInt32} {data : List UInt8} {rest : List Section}
      {column : Nat} (hflag : st.addrFlag = false) (hsent : st.allPktSent = false)
      (haddress : st.parsedScFlashAddr + st.prevLength = address)
      (hcolumn : column % 16 = 0)
      (hat : At text st.dataPtr (newLine :: (dataText column data ++ tiTxt rest))) :
      Position st address data rest

variable (text) in
def Finished (st : ParserState) : List Section → Prop
  | [] => st.allPktSent = true
  | s :: rest => Position text st s.address s.data rest

variable (text) in
/-- What a call that starts with `data` left to write to `address` leads to. -/
def Frames (st : ParserState) (address : UInt32) (data : List UInt8) (rest : List Section) :
    Prop :=
  if data.length < 256 then
    st.packet = bslDataPacket address data ∧ Finished text st rest
  else
    st.packet = bslDataPacket address (data.take 256) ∧
      Position text st (address + 256) (data.drop 256) rest

private theorem tiTxt_stop (rest : List Section) : ∃ stop tail, tiTxt rest = stop :: tail ∧
    (stop = sectionStart ∨ stop = fileTerminationChar) := by
  cases rest with
  | nil => exact ⟨_, _, rfl, .inr rfl⟩
  | cons s rest => exact ⟨_, _, rfl, .inl rfl⟩

private theorem finish_finished {stop : UInt8} {tail : List UInt8} {rest : List Section}
    (htail : tiTxt rest = stop :: tail) {st : ParserState} (hsent : st.allPktSent = false)
    (hat : At text st.dataPtr tail) {length : Nat} :
    Finished text (st.finish stop length) rest := by
  cases rest with
  | nil =>
      obtain ⟨rfl, rfl⟩ := List.cons.inj htail
      rfl
  | cons s rest =>
      obtain ⟨rfl, rfl⟩ := List.cons.inj htail
      exact .opened rfl hsent hat

private theorem length_tiTxt_pos (rest : List Section) : 0 < (tiTxt rest).length := by
  cases rest <;> simp [tiTxt]

private theorem parseStates_data (hholds : Holds flash base text) (data : List UInt8)
    (rest : List Section) (column : Nat) (hcolumn : column % 16 = 0) (st : ParserState)
    (hflag : st.addrFlag = false) (hsent : st.allPktSent = false)
    (hfilled : Filled st st.parsedScFlashAddr [])
    (hat : At text st.dataPtr (dataText column data ++ tiTxt rest)) {fuel : Nat}
    (hfuel : 3 * data.length < fuel) :
    ∃ st', parseStates flash base (fuel + 1) .data 8 st = some st' ∧
      Frames text st' st.parsedScFlashAddr data rest := by
  obtain ⟨stop, tail, htail, hstop⟩ := tiTxt_stop rest
  obtain ⟨msg, more, hcons⟩ : ∃ msg more, dataText column data ++ tiTxt rest = msg :: more :=
    List.exists_cons_of_ne_nil (by simp [htail])
  have hat' := hat
  rw [hcons] at hat'
  obtain ⟨hread, hat'⟩ := readCounted_at st hholds hat'
  by_cases hshort : data.length < 256
  · rw [htail] at hcons
    obtain ⟨st₁, hrun, hat₁, heq⟩ := parseData_short hholds data hstop tail column 8 st.step
      hcons.symm (by omega) hfuel hat'
    refine ⟨st₁.finish stop (8 + data.length), ?_, ?_⟩
    · rw [parseStates, hread]
      simp only [hrun, Option.map_some]
    · rw [Frames, if_pos hshort]
      refine ⟨finish_packet (hfilled.putBytes ?_) stop, ?_⟩
      · rw [heq]
        rfl
      · exact finish_finished htail (heq ▸ hsent) hat₁
  · have hlong : (data.take 256).length = 256 := by
      rw [List.length_take]
      omega
    have hne : data.take 256 ≠ [] := by
      intro h
      simp [h] at hlong
    have hlt : 3 * (data.take 256).length < fuel := by omega
    rw [← List.take_append_drop 256 data] at hcons
    obtain ⟨st₁, hrun, hat₁, heq⟩ := parseData_full hholds (data.take 256)
      hne (data.drop 256) (tiTxt rest) column 8 st.step hcons.symm (by omega) hlt hat'
    refine ⟨st₁.finish space (8 + (data.take 256).length), ?_, ?_⟩
    · rw [parseStates, hread, hlong]
      simp only [hrun, Option.map_some]
    · rw [Frames, if_neg hshort]
      refine ⟨finish_packet (hfilled.putBytes ?_) space, ?_⟩
      · rw [heq]
        rfl
      · rw [hlong] at hat₁ ⊢
        rw [lineEnd, if_pos (.inl (by omega))] at hat₁
        refine .cut ?_ ?_ ?_ (by omega : (column + 256) % 16 = 0) hat₁
        · exact heq ▸ hflag
        · exact heq ▸ hsent
        · rw [heq]
          rfl

private theorem length_dataText (column : Nat) (data : List UInt8) :
    3 * data.length ≤ (dataText column data).length := by
  induction data generalizing column with
  | nil => simp
  | cons byte data ih =>
      have hrest := ih (column + 1)
      simp only [dataText, byteText, List.length_append, List.length_cons, List.length_nil]
      omega

private theorem parseStates_opened (hholds : Holds flash base text) (s : Section)
    (rest : List Section) {st : ParserState} (hflag : st.addrFlag = true)
    (hsent : st.allPktSent = false) (hat : At text st.dataPtr (s.body ++ tiTxt rest))
    {fuel : Nat} (hfuel : text.length ≤ fuel) :
    ∃ st', parseStates flash base (fuel + 1) .address 0 st = some st' ∧
      Frames text st' s.address s.data rest := by
  have hle := hat.1.length_le
  have hdata := length_dataText 0 s.data
  have hrest := length_tiTxt_pos rest
  simp only [Section.body, addressText, List.length_append, List.length_cons,
    List.length_map] at hle
  obtain ⟨digit, digits, hdigits⟩ := List.exists_cons_of_ne_nil s.digits_ne
  have hhead : s.body ++ tiTxt rest = lowerDigit digit.val ::
      (addressText digits ++ newLine :: (dataText 0 s.data ++ tiTxt rest)) := by
    simp [Section.body, addressText, hdigits]
  obtain ⟨hnewline, hstart, hend⟩ := lowerDigit_char digit.val digit.isLt
  rw [hhead] at hat
  obtain ⟨hread, hat'⟩ := readCounted_at st hholds hat
  let begun := { st.step with addrFlag := false, parsedScFlashAddr := 0 }
  obtain ⟨st₁, haddress, hat₁, heq⟩ := parseAddress_text (readsText_readCounted hholds) s.digits
    (dataText 0 s.data ++ tiTxt rest) begun
    (by simp [addressText, hdigits] : lowerDigit digit.val :: _ = _)
    (by omega : s.digits.length < fuel) hat'
  obtain ⟨fuel, rfl⟩ : ∃ n, fuel = n + 1 := ⟨fuel - 1, by omega⟩
  have hparsed : st₁.parsedScFlashAddr = s.address := by
    rw [heq]
    exact foldl_addDigit s.digits 0
  obtain ⟨st₂, hrun, hframes⟩ := parseStates_data hholds s.data rest 0 rfl
    st₁.putAddress (heq ▸ rfl) (heq ▸ hsent) (putAddress_filled _) hat₁
    (by omega : 3 * s.data.length < fuel)
  refine ⟨st₂, ?_, ?_⟩
  · rw [parseStates, hread]
    simp only
    rw [if_pos ⟨hflag, hstart, hend⟩, haddress]
    exact hrun
  · change Frames text st₂ st₁.parsedScFlashAddr s.data rest at hframes
    rwa [hparsed] at hframes

private theorem parseStates_cut (hholds : Holds flash base text) (data : List UInt8)
    (rest : List Section) {column : Nat} (hcolumn : column % 16 = 0) {st : ParserState}
    (hflag : st.addrFlag = false) (hsent : st.allPktSent = false)
    (hat : At text st.dataPtr (newLine :: (dataText column data ++ tiTxt rest)))
    {fuel : Nat} (hfuel : text.length ≤ fuel) :
    ∃ st', parseStates flash base (fuel + 1) .address 0 st = some st' ∧
      Frames text st' (st.parsedScFlashAddr + st.prevLength) data rest := by
  have hle := hat.1.length_le
  have hdata := length_dataText column data
  have hrest := length_tiTxt_pos rest
  rw [List.length_cons, List.length_append] at hle
  obtain ⟨hread, hat'⟩ := readCounted_at st hholds hat
  let moved := { st.step with parsedScFlashAddr := st.parsedScFlashAddr + st.prevLength }
  obtain ⟨fuel, rfl⟩ : ∃ n, fuel = n + 1 := ⟨fuel - 1, by omega⟩
  obtain ⟨st₁, hrun, hframes⟩ := parseStates_data hholds data rest column hcolumn
    moved.putAddress hflag hsent (putAddress_filled _) hat'
    (by omega : 3 * data.length < fuel)
  refine ⟨st₁, ?_, ?_⟩
  · have hflag' : ¬ (st.step.addrFlag = true ∧ newLine ≠ sectionStart ∧
        newLine ≠ fileTerminationChar) := fun hand => by simp [ParserState.step, hflag] at hand
    rw [parseStates, hread]
    simp only
    rw [if_neg hflag', if_neg (by decide), if_neg (by decide)]
    exact hrun
  · change Frames text st₁ (st.parsedScFlashAddr + st.prevLength) data rest at hframes
    exact hframes

private theorem parseStates_position (hholds : Holds flash base text) {st : ParserState}
    {address : UInt32} {data : List UInt8} {rest : List Section}
    (h : Position text st address data rest) {fuel : Nat} (hfuel : text.length + 2 ≤ fuel) :
    ∃ st', parseStates flash base fuel .address 0 st = some st' ∧
      Frames text st' address data rest := by
  obtain ⟨fuel, rfl⟩ : ∃ n, fuel = n + 2 := ⟨fuel - 2, by omega⟩
  cases h with
  | ahead hsent hat =>
      obtain ⟨hread, hat'⟩ := readCounted_at st hholds hat
      obtain ⟨st', hrun, hframes⟩ := parseStates_opened hholds _ _
        (rfl : ({ st.step with addrFlag := true } : ParserState).addrFlag = true) hsent hat'
        (by omega : text.length ≤ fuel)
      refine ⟨st', ?_, hframes⟩
      rw [parseStates, hread]
      simp only
      rw [if_neg (by simp), if_pos trivial]
      exact hrun
  | opened hflag hsent hat =>
      exact parseStates_opened hholds _ _ hflag hsent hat (by omega)
  | cut hflag hsent haddress hcolumn hat =>
      rw [← haddress]
      exact parseStates_cut hholds _ _ hcolumn hflag hsent hat (by omega)

theorem Position.notSent {st : ParserState} {address : UInt32} {data : List UInt8}
    {rest : List Section} (h : Position text st address data rest) :
    st.allPktSent = false := by
  cases h <;> assumption

def bslPackets (writes : List (UInt32 × List UInt8)) : List (List UInt8) :=
  writes.map fun write => bslDataPacket write.1 write.2

/-- One call and what the calls after it frame. -/
theorem packetsFrom_frames {fuel calls : Nat} {st st' : ParserState} {address : UInt32}
    {data : List UInt8} {rest : List Section}
    (hlater : ∀ address data rest, Position text st' address data rest →
      (sectionWrites address data ++ imageWrites rest).length < calls →
      packetsFrom flash base fuel calls st' =
        some (bslPackets (sectionWrites address data ++ imageWrites rest)))
    (hsent : st.allPktSent = false) (hcall : nextPacket flash base fuel st = some st')
    (hframes : Frames text st' address data rest)
    (hcalls : (sectionWrites address data ++ imageWrites rest).length < calls + 1) :
    packetsFrom flash base fuel (calls + 1) st =
      some (bslPackets (sectionWrites address data ++ imageWrites rest)) := by
  rw [packetsFrom, if_neg (by simp [hsent]), hcall]
  unfold Frames at hframes
  rw [sectionWrites] at hcalls ⊢
  split at hframes
  · rename_i hshort
    obtain ⟨hpacket, hfinished⟩ := hframes
    rw [if_pos hshort] at hcalls ⊢
    simp only [List.cons_append, List.nil_append, List.length_cons] at hcalls
    cases rest with
    | nil =>
        obtain ⟨calls, rfl⟩ : ∃ n, calls = n + 1 := ⟨calls - 1, by omega⟩
        have hdone : st'.allPktSent = true := hfinished
        simp [packetsFrom, hdone, hpacket, bslPackets, imageWrites]
    | cons s rest =>
        have htail := hlater _ _ _ hfinished (by simpa [imageWrites] using hcalls)
        simp [htail, hpacket, bslPackets, imageWrites]
  · rename_i hlong
    obtain ⟨hpacket, hposition⟩ := hframes
    rw [if_neg hlong] at hcalls ⊢
    simp only [List.cons_append, List.length_cons] at hcalls
    have htail := hlater _ _ _ hposition (by omega)
    simp [htail, hpacket, bslPackets]

theorem Position.clear {st : ParserState} {address : UInt32} {data : List UInt8}
    {rest : List Section} (h : Position text st address data rest) (pkt : Memory) :
    Position text { st with bslSendDataPkt := pkt } address data rest := by
  cases h with
  | ahead hsent hat => exact .ahead hsent hat
  | opened hflag hsent hat => exact .opened hflag hsent hat
  | cut hflag hsent haddress hcolumn hat => exact .cut hflag hsent haddress hcolumn hat

theorem nextPacket_position (hholds : Holds flash base text) {st : ParserState}
    {address : UInt32} {data : List UInt8} {rest : List Section}
    (h : Position text st address data rest) {fuel : Nat} (hfuel : text.length + 2 ≤ fuel) :
    ∃ st', nextPacket flash base fuel st = some st' ∧ Frames text st' address data rest :=
  parseStates_position hholds (h.clear _) hfuel

private theorem packetsFrom_position (hholds : Holds flash base text) {fuel : Nat}
    (hfuel : text.length + 2 ≤ fuel) {calls : Nat} {st : ParserState} {address : UInt32}
    {data : List UInt8} {rest : List Section} (h : Position text st address data rest)
    (hcalls : (sectionWrites address data ++ imageWrites rest).length < calls) :
    packetsFrom flash base fuel calls st =
      some (bslPackets (sectionWrites address data ++ imageWrites rest)) := by
  induction calls generalizing st address data rest with
  | zero => omega
  | succ calls ih =>
      obtain ⟨st', hrun, hframes⟩ := nextPacket_position hholds h hfuel
      exact packetsFrom_frames (fun _ _ _ hposition hlt => ih hposition hlt) h.notSent hrun
        hframes hcalls

end Calls

/-! ## A whole image -/

private theorem length_sectionWrites (address : UInt32) (data : List UInt8) :
    (sectionWrites address data).length ≤ data.length + 1 := by
  fun_induction sectionWrites address data with
  | case1 => simp
  | case2 address data hlong ih =>
      rw [List.length_drop] at ih
      rw [List.length_cons]
      omega

private theorem length_imageWrites (image : List Section) :
    (imageWrites image).length < (tiTxt image).length := by
  induction image with
  | nil => simp [imageWrites, tiTxt]
  | cons s image ih =>
      have hwrites := length_sectionWrites s.address s.data
      have hdata := length_dataText 0 s.data
      simp only [imageWrites] at ih
      simp only [imageWrites, tiTxt, Section.body, List.flatMap_cons, List.length_append,
        List.length_cons]
      omega

theorem scPackets_tiTxt {flash : Flash} {base : UInt32} {image : List Section}
    (hholds : Holds flash base (tiTxt image)) {fuel : Nat}
    (hfuel : (tiTxt image).length + 2 ≤ fuel) (st : ParserState) :
    scPackets flash base fuel st = some (bslPackets (imageWrites image)) := by
  cases image with
  | nil =>
      have hat : At (tiTxt []) 0 [fileTerminationChar] := At.start
      have hfirst : flash base = fileTerminationChar := by simpa using (hat.read hholds).1
      rw [scPackets, hfirst, if_neg (by decide)]
      rfl
  | cons s image =>
      have hat : At (tiTxt (s :: image)) 0 (sectionStart :: (s.body ++ tiTxt image)) := At.start
      have hfirst : flash base = sectionStart := by simpa using (hat.read hholds).1
      have hwrites : (sectionWrites s.address s.data ++ imageWrites image).length < fuel :=
        Nat.lt_of_lt_of_le (length_imageWrites (s :: image)) (by omega)
      have hstart : Position (tiTxt (s :: image)) st.rewind s.address s.data image :=
        .ahead rfl hat
      rw [scPackets, if_pos hfirst]
      exact packetsFrom_position hholds hfuel hstart hwrites

/-! ## Faithfulness -/

def addressed : UInt32 → List UInt8 → List (UInt32 × UInt8)
  | _, [] => []
  | address, byte :: bytes => (address, byte) :: addressed (address + 1) bytes

/-- What the image says: which byte goes to which address, in order. -/
def imageBytes (image : List Section) : List (UInt32 × UInt8) :=
  image.flatMap fun s => addressed s.address s.data

/--
The packets are data packets of the loader, none without data and none with
more than 256 bytes, and write exactly the bytes of the image.
-/
def Faithful (packets : List (List UInt8)) (image : List Section) : Prop :=
  ∃ writes : List (UInt32 × List UInt8), packets = bslPackets writes ∧
    (∀ write ∈ writes, 1 ≤ write.2.length ∧ write.2.length ≤ 256) ∧
    (writes.flatMap fun write => addressed write.1 write.2) = imageBytes image

private theorem addressed_append (address : UInt32) (bytes bytes' : List UInt8) :
    addressed address (bytes ++ bytes') =
      addressed address bytes ++ addressed (address + UInt32.ofNat bytes.length) bytes' := by
  induction bytes generalizing address with
  | nil => simp [addressed]
  | cons byte bytes ih =>
      have hnext : address + 1 + UInt32.ofNat bytes.length =
          address + UInt32.ofNat (bytes.length + 1) := by
        rw [UInt32.ofNat_add, UInt32.add_assoc, UInt32.add_comm (UInt32.ofNat bytes.length)]
        rfl
      rw [List.cons_append, addressed, ih, hnext]
      rfl

private theorem addressed_sectionWrites (address : UInt32) (data : List UInt8) :
    ((sectionWrites address data).flatMap fun write => addressed write.1 write.2) =
      addressed address data := by
  fun_induction sectionWrites address data with
  | case1 => simp
  | case2 address data hlong ih =>
      have htake : UInt32.ofNat (data.take 256).length = 256 := by
        rw [List.length_take, Nat.min_eq_left (by omega)]
        rfl
      rw [List.flatMap_cons, ih, ← htake, ← addressed_append, List.take_append_drop]

private theorem addressed_imageWrites (image : List Section) :
    ((imageWrites image).flatMap fun write => addressed write.1 write.2) = imageBytes image := by
  rw [imageWrites, List.flatMap_assoc]
  simp only [addressed_sectionWrites, imageBytes]

private theorem sectionWrites_length {address : UInt32} {data : List UInt8}
    (h : ¬ 256 ∣ data.length) :
    ∀ write ∈ sectionWrites address data, 1 ≤ write.2.length ∧ write.2.length ≤ 256 := by
  fun_induction sectionWrites address data with
  | case1 address data hshort =>
      intro write hmem
      rw [List.mem_singleton.1 hmem]
      exact ⟨Nat.one_le_iff_ne_zero.2 fun hzero => h (hzero ▸ Nat.dvd_zero _), by
        simpa using Nat.le_of_lt hshort⟩
  | case2 address data hlong ih =>
      rw [List.length_drop] at ih
      intro write hmem
      rcases List.mem_cons.1 hmem with rfl | hmem
      · rw [List.length_take]
        omega
      · exact ih (by omega) write hmem

private theorem sectionWrites_empty (address : UInt32) {data : List UInt8} (h : 256 ∣ data.length) :
    ∃ last, (last, []) ∈ sectionWrites address data := by
  fun_induction sectionWrites address data with
  | case1 address data hshort =>
      have hnil : data = [] := List.length_eq_zero_iff.1 (Nat.eq_zero_of_dvd_of_lt h hshort)
      exact ⟨address, by simp [hnil]⟩
  | case2 address data hlong ih =>
      rw [List.length_drop] at ih
      obtain ⟨last, hmem⟩ := ih (by omega)
      exact ⟨last, List.mem_cons_of_mem _ hmem⟩

private theorem faithful_imageWrites (image : List Section) :
    Faithful (bslPackets (imageWrites image)) image ↔
      ∀ s ∈ image, ¬ 256 ∣ s.data.length := by
  constructor
  · rintro ⟨writes, hpackets, hlength, -⟩ s hs hdvd
    obtain ⟨last, hmem⟩ := sectionWrites_empty s.address hdvd
    have hpacket : bslDataPacket last [] ∈ bslPackets (imageWrites image) :=
      List.mem_map.2 ⟨(last, []), List.mem_flatMap.2 ⟨s, hs, hmem⟩, rfl⟩
    rw [hpackets] at hpacket
    obtain ⟨write, hwrite, heq⟩ := List.mem_map.1 hpacket
    have hsize := congrArg List.length heq
    rw [length_bslDataPacket, length_bslDataPacket, List.length_nil] at hsize
    have := (hlength write hwrite).1
    omega
  · intro hdvd
    refine ⟨imageWrites image, rfl, ?_, addressed_imageWrites image⟩
    intro write hwrite
    obtain ⟨s, hs, hmem⟩ := List.mem_flatMap.1 hwrite
    exact sectionWrites_length (hdvd s hs) write hmem

/--
The packets of an image are faithful exactly when no section's length is a
multiple of 256.
-/
theorem packets_faithful {flash : Flash} {base : UInt32} {image : List Section}
    (hholds : Holds flash base (tiTxt image)) (st : ParserState) {fuel : Nat}
    (hfuel : (tiTxt image).length + 2 ≤ fuel) :
    ∃ packets, scPackets flash base fuel st = some packets ∧
      (Faithful packets image ↔ ∀ s ∈ image, ¬ 256 ∣ s.data.length) :=
  ⟨_, scPackets_tiTxt hholds hfuel st, faithful_imageWrites image⟩

def shortImage : List Section :=
  [.ofBytes (hexDigit 0) [hexDigit 2, hexDigit 0, hexDigit 0] 0xA5 (List.replicate 16 0xA5),
   .ofBytes (hexDigit 7) [hexDigit 15, hexDigit 0, hexDigit 0, hexDigit 0] 0x38 [0x11]]

theorem packets_faithful_shortImage :
    ∃ packets, scPackets (ofText 16 (tiTxt shortImage)) 16 ((tiTxt shortImage).length + 2)
        bootParser = some packets ∧ Faithful packets shortImage := by
  obtain ⟨packets, hrun, hiff⟩ := packets_faithful
    (holds_ofText 16 (tiTxt shortImage) (by decide)) bootParser (Nat.le_refl _)
  exact ⟨packets, hrun, hiff.2 (by decide)⟩

def fullImage : List Section :=
  [.ofBytes (hexDigit 0) [] 0 (List.replicate 255 0)]

/-- The newline behind a full last line starts a packet of its own. -/
theorem fullImage_not_faithful :
    ∃ packets, scPackets (ofText 16 (tiTxt fullImage)) 16 ((tiTxt fullImage).length + 2)
        bootParser = some packets ∧ ¬ Faithful packets fullImage := by
  refine ⟨_, scPackets_tiTxt (holds_ofText 16 (tiTxt fullImage) (by decide +kernel))
    (Nat.le_refl _) bootParser, fun hfaithful => ?_⟩
  exact (faithful_imageWrites fullImage).1 hfaithful _ (List.mem_singleton_self _)
    ⟨1, congrArg (· + 1) List.length_replicate⟩

end Vmr.Sc
