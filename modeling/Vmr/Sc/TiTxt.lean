import Vmr.Sc.Parser

/-!
# The TI-TXT text of an image

A section is `@`, its start address in lower-case hexadecimal digits and a
newline, then its data: each byte as two upper-case digits and a space, a
newline after every sixteenth byte and after the last.  `q` ends the image.

`At` says where in the text the parser stands; the lemmas below it say what the
two loops of `parse_fpt_sc` do there.
-/

namespace Vmr.Sc

open Vmr.Lib

structure Section where
  digits : List (Fin 16)
  data : List UInt8
  digits_ne : digits ≠ []
  data_ne : data ≠ []

def Section.ofBytes (digit : Fin 16) (digits : List (Fin 16)) (byte : UInt8)
    (bytes : List UInt8) : Section :=
  { digits := digit :: digits
    data := byte :: bytes
    digits_ne := List.cons_ne_nil digit digits
    data_ne := List.cons_ne_nil byte bytes }

private theorem mod_sixteen_lt (value : Nat) : value % 16 < 16 := Nat.mod_lt value (by decide)

def hexDigit (value : Nat) : Fin 16 := ⟨value % 16, mod_sixteen_lt value⟩

def Section.address (s : Section) : UInt32 :=
  UInt32.ofNat (s.digits.foldl (fun value digit => 16 * value + digit.val) 0)

def lowerDigit (digit : Nat) : UInt8 :=
  UInt8.ofNat (if digit < 10 then 0x30 + digit else 0x57 + digit)

def upperDigit (digit : Nat) : UInt8 :=
  UInt8.ofNat (if digit < 10 then 0x30 + digit else 0x37 + digit)

def byteText (byte : UInt8) : List UInt8 :=
  [upperDigit (byte.toNat / 16), upperDigit (byte.toNat % 16), space]

/-- What follows a byte in column `column` when `rest` is still to come. -/
def lineEnd (column : Nat) (rest : List UInt8) : List UInt8 :=
  if (column + 1) % 16 = 0 ∨ rest = [] then [newLine] else []

def dataText : Nat → List UInt8 → List UInt8
  | _, [] => []
  | column, byte :: rest => byteText byte ++ lineEnd column rest ++ dataText (column + 1) rest

def addressText (digits : List (Fin 16)) : List UInt8 :=
  digits.map fun digit => lowerDigit digit.val

def Section.body (s : Section) : List UInt8 :=
  addressText s.digits ++ newLine :: dataText 0 s.data

def tiTxt : List Section → List UInt8
  | [] => [fileTerminationChar]
  | s :: rest => sectionStart :: (s.body ++ tiTxt rest)

def Holds (flash : Flash) (base : UInt32) (text : List UInt8) : Prop :=
  ∀ index (h : index < text.length), flash (base + UInt32.ofNat index) = text[index]

def overlay (flash : Flash) (base : UInt32) (text : List UInt8) : Flash :=
  fun addr => text.getD (addr - base).toNat (flash addr)

def ofText (base : UInt32) (text : List UInt8) : Flash :=
  fun addr => text.getD (addr - base).toNat 0

theorem holds_overlay (flash : Flash) (base : UInt32) (text : List UInt8)
    (h : text.length ≤ 2 ^ 32) : Holds (overlay flash base text) base text := by
  intro index hindex
  have hcancel : base + UInt32.ofNat index - base = UInt32.ofNat index := by
    rw [UInt32.add_comm, UInt32.add_sub_cancel]
  rw [overlay, hcancel, UInt32.toNat_ofNat_of_lt' (by simpa using Nat.lt_of_lt_of_le hindex h),
    List.getD_eq_getElem?_getD, List.getElem?_eq_getElem hindex, Option.getD_some]

theorem holds_ofText (base : UInt32) (text : List UInt8) (h : text.length ≤ 2 ^ 32) :
    Holds (ofText base text) base text :=
  holds_overlay (fun _ => 0) base text h

/-! ## Digits -/

private theorem charToHexAddr_lowerDigit : ∀ digit < 16,
    (charToHexAddr (lowerDigit digit) &&& 0x0F).toUInt32 = UInt32.ofNat digit := by
  decide

theorem lowerDigit_char : ∀ digit < 16, lowerDigit digit ≠ newLine ∧
    lowerDigit digit ≠ sectionStart ∧ lowerDigit digit ≠ fileTerminationChar := by
  decide

theorem upperDigit_char : ∀ digit < 16, upperDigit digit ≠ newLine ∧
    upperDigit digit ≠ space ∧ upperDigit digit ≠ sectionStart ∧
    upperDigit digit ≠ fileTerminationChar := by
  decide

private theorem charToHex_pair : ∀ byte < 256,
    ((charToHex (upperDigit (byte / 16)) &&& 0x0F) <<< 4 |||
      (charToHex (upperDigit (byte % 16)) &&& 0x0F)) = UInt8.ofNat byte := by
  decide +kernel

private theorem shift_or_digit (value : Nat) {digit : Nat} (h : digit < 16) :
    (UInt32.ofNat value <<< 4) ||| UInt32.ofNat digit = UInt32.ofNat (16 * value + digit) := by
  have hor := Nat.two_pow_add_eq_or_of_lt (i := 4) (by omega) (value % 2 ^ 28)
  apply UInt32.toNat_inj.1
  rw [UInt32.toNat_or, UInt32.toNat_shiftLeft]
  simp only [UInt32.toNat_ofNat', UInt32.reduceToNat, Nat.shiftLeft_eq]
  have hshift : value % 2 ^ 32 * 2 ^ (4 % 32) % 2 ^ 32 = 2 ^ 4 * (value % 2 ^ 28) := by
    rw [show (2 : Nat) ^ (4 % 32) = 16 from rfl]
    omega
  rw [hshift, Nat.mod_eq_of_lt (a := digit) (by omega), ← hor]
  omega

def addDigit (address : UInt32) (digit : Fin 16) : UInt32 :=
  (address <<< 4) ||| UInt32.ofNat digit.val

theorem foldl_addDigit (digits : List (Fin 16)) (value : Nat) :
    digits.foldl addDigit (UInt32.ofNat value) =
      UInt32.ofNat (digits.foldl (fun value digit => 16 * value + digit.val) value) := by
  induction digits generalizing value with
  | nil => rfl
  | cons digit digits ih =>
      rw [List.foldl_cons, List.foldl_cons, addDigit, shift_or_digit value digit.isLt, ih]

/-! ## Where the parser stands -/

section Reading

variable {flash : Flash} {base : UInt32} {text : List UInt8}

variable (text) in
def At (ptr : UInt32) (rest : List UInt8) : Prop :=
  rest <:+ text ∧ ptr = UInt32.ofNat (text.length - rest.length)

theorem At.start : At text 0 text := ⟨List.suffix_rfl, by simp⟩

theorem At.read {ptr : UInt32} {msg : UInt8} {rest : List UInt8}
    (hholds : Holds flash base text) (h : At text ptr (msg :: rest)) :
    flash (base + ptr) = msg ∧ At text (ptr + 1) rest := by
  obtain ⟨⟨before, rfl⟩, rfl⟩ := h
  have hindex : (before ++ msg :: rest).length - (msg :: rest).length = before.length := by
    simp
  have hnext : (before ++ msg :: rest).length - rest.length = before.length + 1 := by
    simp
    omega
  refine ⟨?_, ⟨before ++ [msg], by simp⟩, ?_⟩
  · rw [hindex, hholds before.length (by simp)]
    simp
  · rw [hindex, hnext, UInt32.ofNat_add]
    rfl

def ParserState.step (st : ParserState) : ParserState :=
  { st with dataPtr := st.dataPtr + 1, progress := st.progress.count }

theorem readCounted_at (st : ParserState) {msg : UInt8} {rest : List UInt8}
    (hholds : Holds flash base text) (h : At text st.dataPtr (msg :: rest)) :
    st.readCounted flash base = (msg, st.step) ∧ At text st.step.dataPtr rest := by
  obtain ⟨hmsg, hrest⟩ := h.read hholds
  exact ⟨by simp [ParserState.readCounted, ParserState.read, ParserState.step, hmsg], hrest⟩

/-- `st'` is `st` further on in the text. -/
def Further (text : List UInt8) (st st' : ParserState) (rest : List UInt8) : Prop :=
  At text st'.dataPtr rest ∧
    st' = { st with dataPtr := st'.dataPtr, progress := st'.progress }

variable (text) in
def ReadsText (next : ParserState → UInt8 × ParserState) : Prop :=
  ∀ st msg rest, At text st.dataPtr (msg :: rest) →
    ∃ st', next st = (msg, st') ∧ Further text st st' rest

theorem readsText_readCounted (hholds : Holds flash base text) :
    ReadsText text (ParserState.readCounted flash base) := by
  intro st msg rest hat
  obtain ⟨hread, hat'⟩ := readCounted_at st hholds hat
  exact ⟨st.step, hread, hat', rfl⟩

/-! ## The two loops -/

theorem parseAddress_text {next : ParserState → UInt8 × ParserState}
    (hnext : ReadsText text next) (digits : List (Fin 16)) (tail : List UInt8)
    (st : ParserState) {fuel : Nat} {msg : UInt8} {rest : List UInt8}
    (htext : msg :: rest = addressText digits ++ newLine :: tail)
    (hfuel : digits.length < fuel) (hat : At text st.dataPtr rest) :
    ∃ st', parseAddress next fuel msg st = some st' ∧
      Further text
        { st with parsedScFlashAddr := digits.foldl addDigit st.parsedScFlashAddr }
        st' tail := by
  induction digits generalizing fuel msg rest st with
  | nil =>
      obtain ⟨fuel, rfl⟩ : ∃ n, fuel = n + 1 := ⟨fuel - 1, by omega⟩
      obtain ⟨rfl, rfl⟩ := List.cons.inj htext
      exact ⟨st, by simp [parseAddress], hat, rfl⟩
  | cons digit digits ih =>
      obtain ⟨fuel, rfl⟩ : ∃ n, fuel = n + 1 := ⟨fuel - 1, by omega⟩
      obtain ⟨rfl, rfl⟩ := List.cons.inj htext
      obtain ⟨hne, -, -⟩ := lowerDigit_char digit.val digit.isLt
      have hdigit := charToHexAddr_lowerDigit digit.val digit.isLt
      obtain ⟨msg, rest, hcons⟩ : ∃ msg rest,
          addressText digits ++ newLine :: tail = msg :: rest :=
        List.exists_cons_of_ne_nil (by simp)
      have hlt : digits.length < fuel := Nat.lt_of_succ_lt_succ hfuel
      change At text st.dataPtr (addressText digits ++ newLine :: tail) at hat
      rw [hcons] at hat
      let folded := { st with parsedScFlashAddr := addDigit st.parsedScFlashAddr digit }
      obtain ⟨st₁, hread, hat₁, heq₁⟩ := hnext folded msg rest hat
      obtain ⟨st₂, hrun, hfurther, heq₂⟩ := ih st₁ hcons.symm hlt hat₁
      refine ⟨st₂, ?_, hfurther, ?_⟩
      · rw [parseAddress, if_neg hne, hdigit]
        change parseAddress next fuel (next folded).1 (next folded).2 = some st₂
        rw [hread]
        exact hrun
      · rw [heq₂, heq₁]
        rfl

private theorem parseData_blank (hholds : Holds flash base text) {blank : UInt8}
    (hblank : blank = space ∨ blank = newLine) {length : Nat} (hlength : length < 264)
    (st : ParserState) {msg : UInt8} {rest : List UInt8}
    (hat : At text st.dataPtr (msg :: rest)) (fuel : Nat) :
    parseData flash base (fuel + 1) blank length st =
        parseData flash base fuel msg length st.step ∧
      At text st.step.dataPtr rest := by
  obtain ⟨hread, hat'⟩ := readCounted_at st hholds hat
  refine ⟨?_, hat'⟩
  have hgo : blank ≠ sectionStart ∧ blank ≠ fileTerminationChar ∧
      ¬ (blank ≠ newLine ∧ blank ≠ space) := by
    rcases hblank with rfl | rfl <;> decide
  rw [parseData, if_pos ⟨hgo.1, hlength, hgo.2.1⟩, if_neg hgo.2.2]
  simp only [hread]

private theorem parseData_byte (hholds : Holds flash base text) (byte : UInt8) {length : Nat}
    (hlength : length < 264) (st : ParserState) {rest : List UInt8}
    (hat : At text st.dataPtr
      (upperDigit (byte.toNat % 16) :: space :: rest)) (fuel : Nat) :
    ∃ st', parseData flash base (fuel + 1) (upperDigit (byte.toNat / 16)) length st =
        parseData flash base fuel space (length + 1) st' ∧
      Further text (st.put length byte) st' rest := by
  have hlt := byte.toNat_lt
  obtain ⟨hnewline, hspace, hstart, hend⟩ := upperDigit_char (byte.toNat / 16) (by omega)
  have hpair := charToHex_pair byte.toNat (by omega)
  rw [UInt8.ofNat_toNat] at hpair
  let high := st.put length (charToHex (upperDigit (byte.toNat / 16)) &&& 0x0F)
  obtain ⟨hread, hat'⟩ := readCounted_at high hholds hat
  let both := high.step.put length byte
  obtain ⟨hread', hat''⟩ := readCounted_at both hholds hat'
  refine ⟨both.step, ?_, hat'', ?_⟩
  · have hhigh : high.step.bslSendDataPkt length =
        charToHex (upperDigit (byte.toNat / 16)) &&& 0x0F :=
      Function.update_self ..
    rw [parseData, if_pos ⟨hstart, hlength, hend⟩, if_pos ⟨hnewline, hspace⟩]
    have hboth : (high.readCounted flash base).2.put length
        (((high.readCounted flash base).2.bslSendDataPkt length <<< 4) |||
          (charToHex (high.readCounted flash base).1 &&& 0x0F)) = both := by
      rw [hread]
      simp only [hhigh, hpair]
      rfl
    change parseData flash base fuel
      (((high.readCounted flash base).2.put length
        (((high.readCounted flash base).2.bslSendDataPkt length <<< 4) |||
          (charToHex (high.readCounted flash base).1 &&& 0x0F))).readCounted flash base).1
      (length + 1)
      (((high.readCounted flash base).2.put length
        (((high.readCounted flash base).2.bslSendDataPkt length <<< 4) |||
          (charToHex (high.readCounted flash base).1 &&& 0x0F))).readCounted flash base).2 = _
    rw [hboth, hread']
  · simp [both, high, ParserState.step, ParserState.put]

private theorem parseData_gap (hholds : Holds flash base text) (column : Nat) (data : List UInt8)
    {length : Nat} (hlength : length < 264) (st : ParserState) {msg : UInt8}
    {rest : List UInt8} (hat : At text st.dataPtr (lineEnd column data ++ msg :: rest))
    {fuel : Nat} (hfuel : 2 ≤ fuel) :
    ∃ fuel' st', fuel ≤ fuel' + 2 ∧
      parseData flash base fuel space length st =
        parseData flash base fuel' msg length st' ∧ Further text st st' rest := by
  obtain ⟨fuel, rfl⟩ : ∃ n, fuel = n + 2 := ⟨fuel - 2, by omega⟩
  by_cases hend : (column + 1) % 16 = 0 ∨ data = []
  · rw [lineEnd, if_pos hend] at hat
    obtain ⟨hstep, hat⟩ := parseData_blank hholds (.inl rfl) hlength st hat (fuel + 1)
    obtain ⟨hstep', hat⟩ := parseData_blank hholds (.inr rfl) hlength st.step hat fuel
    exact ⟨fuel, st.step.step, by omega, hstep.trans hstep', hat, rfl⟩
  · rw [lineEnd, if_neg hend] at hat
    obtain ⟨hstep, hat⟩ := parseData_blank hholds (.inl rfl) hlength st hat (fuel + 1)
    exact ⟨fuel + 1, st.step, by omega, hstep, hat, rfl⟩

theorem Further.put {st st' st'' : ParserState} {index : Nat} {byte : UInt8}
    {bytes rest rest' : List UInt8} (h : Further text (st.put index byte) st' rest)
    (h' : Further text
      { st' with bslSendDataPkt := st'.bslSendDataPkt.putBytes (index + 1) bytes } st'' rest') :
    Further text
      { st with bslSendDataPkt := st.bslSendDataPkt.putBytes index (byte :: bytes) }
      st'' rest' := by
  obtain ⟨-, heq⟩ := h
  obtain ⟨hat, heq'⟩ := h'
  refine ⟨hat, ?_⟩
  rw [heq', heq]
  rfl

theorem Further.trans {st st' st'' : ParserState} {rest rest' : List UInt8}
    (h : Further text st st' rest) (h' : Further text st' st'' rest') :
    Further text st st'' rest' := by
  obtain ⟨-, heq⟩ := h
  obtain ⟨hat, heq'⟩ := h'
  refine ⟨hat, ?_⟩
  rw [heq', heq]

private theorem dataText_cons (column : Nat) (byte : UInt8) (data tail : List UInt8) :
    dataText column (byte :: data) ++ tail =
      upperDigit (byte.toNat / 16) :: upperDigit (byte.toNat % 16) :: space ::
        (lineEnd column data ++ (dataText (column + 1) data ++ tail)) := by
  simp [dataText, byteText]

theorem parseData_short (hholds : Holds flash base text) (data : List UInt8)
    {stop : UInt8} (hstop : stop = sectionStart ∨ stop = fileTerminationChar)
    (tail : List UInt8) (column length : Nat) (st : ParserState) {fuel : Nat} {msg : UInt8}
    {rest : List UInt8} (htext : msg :: rest = dataText column data ++ stop :: tail)
    (hlength : length + data.length < 264) (hfuel : 3 * data.length < fuel)
    (hat : At text st.dataPtr rest) :
    ∃ st', parseData flash base fuel msg length st = some (stop, length + data.length, st') ∧
      Further text
        { st with bslSendDataPkt := st.bslSendDataPkt.putBytes length data } st' tail := by
  induction data generalizing column length st fuel msg rest with
  | nil =>
      obtain ⟨fuel, rfl⟩ : ∃ n, fuel = n + 1 := ⟨fuel - 1, by omega⟩
      obtain ⟨rfl, rfl⟩ := List.cons.inj htext
      refine ⟨st, ?_, hat, rfl⟩
      rw [parseData, if_neg]
      · rfl
      · rcases hstop with rfl | rfl <;> simp
  | cons byte data ih =>
      rw [List.length_cons] at hlength hfuel
      obtain ⟨fuel, rfl⟩ : ∃ n, fuel = n + 1 := ⟨fuel - 1, by omega⟩
      rw [dataText_cons] at htext
      obtain ⟨rfl, rfl⟩ := List.cons.inj htext
      obtain ⟨st₁, hbyte, hfurther⟩ :=
        parseData_byte hholds byte (by omega : length < 264) st hat fuel
      obtain ⟨msg, rest, hcons⟩ : ∃ msg rest,
          dataText (column + 1) data ++ stop :: tail = msg :: rest :=
        List.exists_cons_of_ne_nil (by simp)
      have hgapAt := hfurther.1
      rw [hcons] at hgapAt
      obtain ⟨fuel', st₂, hle, hgap, hfurther'⟩ := parseData_gap hholds column data
        (by omega : length + 1 < 264) st₁ hgapAt (by omega : 2 ≤ fuel)
      obtain ⟨st₃, hrun, hlast⟩ := ih (column + 1) (length + 1) st₂ hcons.symm (by omega)
        (by omega : 3 * data.length < fuel') hfurther'.1
      refine ⟨st₃, ?_, ?_⟩
      · rw [hbyte, hgap, hrun, List.length_cons]
        congr 3
        omega
      · exact (hfurther.trans hfurther').put hlast

theorem parseData_full (hholds : Holds flash base text) (chunk : List UInt8)
    (hchunk : chunk ≠ []) (more tail : List UInt8) (column length : Nat) (st : ParserState)
    {fuel : Nat} {msg : UInt8} {rest : List UInt8}
    (htext : msg :: rest = dataText column (chunk ++ more) ++ tail)
    (hlength : length + chunk.length = 264) (hfuel : 3 * chunk.length < fuel)
    (hat : At text st.dataPtr rest) :
    ∃ st', parseData flash base fuel msg length st = some (space, 264, st') ∧
      Further text
        { st with bslSendDataPkt := st.bslSendDataPkt.putBytes length chunk } st'
        (lineEnd (column + chunk.length - 1) more ++
          (dataText (column + chunk.length) more ++ tail)) := by
  induction chunk generalizing column length st fuel msg rest with
  | nil => exact absurd rfl hchunk
  | cons byte chunk ih =>
      rw [List.length_cons] at hlength hfuel
      obtain ⟨fuel, rfl⟩ : ∃ n, fuel = n + 1 := ⟨fuel - 1, by omega⟩
      rw [List.cons_append, dataText_cons] at htext
      obtain ⟨rfl, rfl⟩ := List.cons.inj htext
      obtain ⟨st₁, hbyte, hfurther⟩ :=
        parseData_byte hholds byte (by omega : length < 264) st hat fuel
      cases chunk with
      | nil =>
          obtain ⟨fuel, rfl⟩ : ∃ n, fuel = n + 1 := ⟨fuel - 1, by omega⟩
          obtain rfl : length = 263 := by simpa using hlength
          refine ⟨st₁, ?_, hfurther⟩
          rw [hbyte, parseData, if_neg (by simp [bslMaxDataSize, bslDataPacketCrcSize])]
      | cons next chunk =>
          have hcons : dataText (column + 1) (next :: chunk ++ more) ++ tail =
              upperDigit (next.toNat / 16) :: upperDigit (next.toNat % 16) :: space ::
                (lineEnd (column + 1) (chunk ++ more) ++
                  (dataText (column + 1 + 1) (chunk ++ more) ++ tail)) :=
            dataText_cons ..
          have hgapAt := hfurther.1
          rw [hcons] at hgapAt
          rw [List.length_cons] at hlength hfuel
          obtain ⟨fuel', st₂, hle, hgap, hfurther'⟩ := parseData_gap hholds column
            (next :: chunk ++ more) (by omega : length + 1 < 264) st₁ hgapAt
            (by omega : 2 ≤ fuel)
          obtain ⟨st₃, hrun, hlast⟩ := ih (by simp) (column + 1) (length + 1) st₂ hcons.symm
            (by rw [List.length_cons]; omega)
            (by rw [List.length_cons]; omega : 3 * (next :: chunk).length < fuel')
            hfurther'.1
          have hcolumn : column + (byte :: next :: chunk).length - 1 =
              column + 1 + (next :: chunk).length - 1 := by
            simp only [List.length_cons]
            omega
          have hcolumn' : column + (byte :: next :: chunk).length =
              column + 1 + (next :: chunk).length := by
            simp only [List.length_cons]
            omega
          refine ⟨st₃, ?_, ?_⟩
          · rw [hbyte, hgap, hrun]
          · rw [hcolumn, hcolumn']
            exact (hfurther.trans hfurther').put hlast

end Reading

end Vmr.Sc
