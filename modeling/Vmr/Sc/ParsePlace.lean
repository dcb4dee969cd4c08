import Vmr.Lib.Scanner
import Vmr.Sc.VersionQuery

/-!
# Where the two parsers stop reading

Neither loop has a length limit: each reads on until it meets the `q`, and only
where it looks for one.  `parsePlace` and `versionPlace` say what the next byte
is to the update and to the version scan, and which byte is the last one.  The
leftover of a text says all there is to say of the bytes that are read: with one,
the loop reads the text up to there and nothing else, whatever is in the rest of
the memory, and without one the bytes behind the text decide.
-/

namespace Vmr.Sc

open Vmr.Lib

/-! ## What the next byte is -/

/-- What the next byte is to `parse_fpt_sc`; `length` is that of the packet so far. -/
inductive ParsePlace where
  | atAddress (addrFlag : Bool)
  | inAddress
  | atData (length : Nat)
  | inByte (length : Nat)
  deriving DecidableEq, Repr

def parsePlace : ParsePlace → UInt8 → Option ParsePlace
  | .atAddress addrFlag, msg =>
      if msg = sectionStart then some (.atAddress true)
      else if msg = fileTerminationChar then none
      else if addrFlag = true ∧ msg ≠ newLine then some .inAddress
      else some (.atData 8)
  | .inAddress, msg => some (if msg = newLine then .atData 8 else .inAddress)
  | .atData length, msg =>
      if msg = sectionStart then some (.atAddress true)
      else if msg = fileTerminationChar then none
      -- the packet is full: this byte is dropped, and so is the next one
      else if bslMaxDataSize - bslDataPacketCrcSize ≤ length then some (.atAddress false)
      else if msg = newLine ∨ msg = space then some (.atData length)
      else some (.inByte length)
  | .inByte length, _ => some (.atData (length + 1))

inductive VersionPlace where
  | atAddress (addrFlag : Bool)
  | inAddress
  | atData
  | inByte
  deriving DecidableEq, Repr

def versionPlace : VersionPlace → UInt8 → Option VersionPlace
  | .atAddress addrFlag, msg =>
      if msg = sectionStart then some (.atAddress true)
      else if msg = fileTerminationChar then none
      else if addrFlag = true ∧ msg ≠ newLine then some .inAddress
      else some .atData
  | .inAddress, msg => some (if msg = newLine then .atData else .inAddress)
  | .atData, msg =>
      if msg = sectionStart then some (.atAddress true)
      else if msg = fileTerminationChar then none
      else if msg = newLine ∨ msg = space then some .atData
      else if charToHex msg = newLine then some (.atAddress true)
      else some .inByte
  | .inByte, _ => some .atData

private theorem parsePlace_full {length : Nat} {msg : UInt8}
    (h : ¬ (msg ≠ sectionStart ∧ length < bslMaxDataSize - bslDataPacketCrcSize ∧
      msg ≠ fileTerminationChar)) :
    parsePlace (.atData 264) msg = parsePlace (.atData length) msg := by
  by_cases hstart : msg = sectionStart
  · simp [parsePlace, hstart]
  · by_cases hend : msg = fileTerminationChar
    · simp [parsePlace, hend]
    · have hfull : 264 ≤ length :=
        Nat.not_lt.1 fun hroom => h ⟨hstart, hroom, hend⟩
      simp [parsePlace, hstart, hend, hfull, bslMaxDataSize, bslDataPacketCrcSize]

theorem parsePlace_stops (place : ParsePlace) :
    leftover parsePlace place [newLine, fileTerminationChar] = some [] ∧
      leftover parsePlace place [newLine, newLine, fileTerminationChar] = some [] := by
  have hlines : newLine ≠ sectionStart ∧ newLine ≠ fileTerminationChar ∧
      fileTerminationChar ≠ sectionStart := by decide
  cases place with
  | atAddress addrFlag => simp [leftover, parsePlace, hlines, bslMaxDataSize, bslDataPacketCrcSize]
  | inAddress => simp [leftover, parsePlace, hlines, bslMaxDataSize, bslDataPacketCrcSize]
  | atData length =>
      by_cases hfull : bslMaxDataSize - bslDataPacketCrcSize ≤ length <;>
        simp [leftover, parsePlace, hlines, hfull]
  | inByte length =>
      by_cases hfull : bslMaxDataSize - bslDataPacketCrcSize ≤ length + 1 <;>
        simp [leftover, parsePlace, hlines, hfull]

theorem versionPlace_stops (place : VersionPlace) :
    leftover versionPlace place [newLine, fileTerminationChar] = some [] ∧
      leftover versionPlace place [newLine, newLine, fileTerminationChar] = some [] := by
  have hlines : newLine ≠ sectionStart ∧ newLine ≠ fileTerminationChar ∧
      fileTerminationChar ≠ sectionStart := by decide
  cases place <;> simp [leftover, versionPlace, hlines]

/-! ## The loops over a text with a leftover -/

section Loops

variable {base : UInt32} {text left : List UInt8}

variable (base text) in
/-- In every flash with the text, `next` reads the byte ahead and goes to `after`. -/
structure ReadsAhead (next : Flash → ParserState → UInt8 × ParserState)
    (after : ParserState → ParserState) : Prop where
  read : ∀ flash, Holds flash base text → ∀ st msg rest, At text st.dataPtr (msg :: rest) →
    next flash st = (msg, after st)
  moves : ∀ st msg rest, At text st.dataPtr (msg :: rest) → At text (after st).dataPtr rest
  addrFlag : ∀ st, (after st).addrFlag = st.addrFlag
  allPktSent : ∀ st, (after st).allPktSent = st.allPktSent

theorem At.next {ptr : UInt32} {msg : UInt8} {rest : List UInt8}
    (h : At text ptr (msg :: rest)) : At text (ptr + 1) rest := by
  obtain ⟨⟨before, rfl⟩, rfl⟩ := h
  have hnext : (before ++ msg :: rest).length - rest.length =
      (before ++ msg :: rest).length - (msg :: rest).length + 1 := by
    simp
    omega
  refine ⟨⟨before ++ [msg], by simp⟩, ?_⟩
  rw [hnext, UInt32.ofNat_add]
  rfl

variable (base) in
private theorem readsAhead_readCounted :
    ReadsAhead base text (fun flash => ParserState.readCounted flash base)
      ParserState.step where
  read _ hholds st _ _ hat := (readCounted_at st hholds hat).1
  moves _ _ _ hat := hat.next
  addrFlag _ := rfl
  allPktSent _ := rfl

variable (base) in
private theorem readsAhead_read :
    ReadsAhead base text (fun flash => ParserState.read flash base)
      (fun st => { st with dataPtr := st.dataPtr + 1 }) where
  read _ hholds _ _ _ hat := by rw [ParserState.read, (hat.read hholds).1]
  moves _ _ _ hat := hat.next
  addrFlag _ := rfl
  allPktSent _ := rfl

variable (text) in
/-- How far a loop of the update has come: not back, and with the flags as before. -/
structure ReadOn (before : ParserState) (ahead : Nat) (st : ParserState)
    (rest : List UInt8) : Prop where
  at_rest : At text st.dataPtr rest
  le : rest.length ≤ ahead
  addrFlag : st.addrFlag = before.addrFlag
  allPktSent : st.allPktSent = before.allPktSent

theorem ReadOn.refl {st : ParserState} {rest : List UInt8} (hat : At text st.dataPtr rest) :
    ReadOn text st rest.length st rest :=
  ⟨hat, Nat.le_refl _, rfl, rfl⟩

theorem ReadOn.from {before before' st : ParserState} {ahead ahead' : Nat} {rest : List UInt8}
    (h : ReadOn text before' ahead' st rest) (hle : ahead' ≤ ahead)
    (hflag : before'.addrFlag = before.addrFlag)
    (hsent : before'.allPktSent = before.allPktSent) : ReadOn text before ahead st rest :=
  ⟨h.at_rest, Nat.le_trans h.le hle, h.addrFlag.trans hflag, h.allPktSent.trans hsent⟩

private theorem parseAddress_leftover {σ : Type} {step : σ → UInt8 → Option σ}
    {inAddress atData : σ}
    (hstep : ∀ msg, step inAddress msg = some (if msg = newLine then atData else inAddress))
    {next : Flash → ParserState → UInt8 × ParserState} {after : ParserState → ParserState}
    (hnext : ReadsAhead base text next after) (msg : UInt8) (rest : List UInt8)
    (st : ParserState)
    (hleft : leftover step (if msg = newLine then atData else inAddress) rest = some left)
    (hat : At text st.dataPtr rest) :
    Settled (fun flash => Holds flash base text) rest.length
      (fun flash fuel => parseAddress (next flash) fuel msg st)
      (fun st' => ∃ rest', ReadOn text st rest.length st' rest' ∧
        leftover step atData rest' = some left) := by
  induction rest generalizing msg st with
  | nil => simp at hleft
  | cons msg' rest ih =>
      by_cases hnewline : msg = newLine
      · rw [if_pos hnewline] at hleft
        refine .last st ⟨msg' :: rest, .refl hat, hleft⟩ fun flash _ fuel => ?_
        rw [parseAddress, if_pos hnewline]
      · rw [if_neg hnewline, leftover_cons (hstep msg')] at hleft
        let folded := { st with parsedScFlashAddr :=
          (st.parsedScFlashAddr <<< 4) ||| (charToHexAddr msg &&& 0x0F).toUInt32 }
        have hloop := ih msg' (after folded) hleft (hnext.moves folded msg' rest hat)
        refine hloop.round (by simp) ?_ fun flash hholds fuel => ?_
        · rintro st' ⟨rest', hread, hleft'⟩
          exact ⟨rest', hread.from (by simp) (hnext.addrFlag folded) (hnext.allPktSent folded),
            hleft'⟩
        · rw [parseAddress, if_neg hnewline]
          change parseAddress (next flash) fuel (next flash folded).1 (next flash folded).2 = _
          rw [hnext.read flash hholds folded msg' rest hat]

variable (base) in
private theorem parseData_leftover (length : Nat) (msg : UInt8) (rest : List UInt8)
    (st : ParserState)
    (hleft : leftover parsePlace (.atData length) (msg :: rest) = some left)
    (hat : At text st.dataPtr rest) :
    Settled (fun flash => Holds flash base text) rest.length
      (fun flash fuel => parseData flash base fuel msg length st)
      (fun out => ∃ rest', ReadOn text st rest.length out.2.2 rest' ∧
        leftover parsePlace (.atData 264) (out.1 :: rest') = some left) := by
  induction hn : rest.length using Nat.strong_induction_on generalizing length msg rest st with
  | h n ih =>
      subst hn
      by_cases hgo : msg ≠ sectionStart ∧ length < bslMaxDataSize - bslDataPacketCrcSize ∧
          msg ≠ fileTerminationChar
      · obtain ⟨hstart, hroom, hend⟩ := hgo
        have hfull : ¬ bslMaxDataSize - bslDataPacketCrcSize ≤ length := Nat.not_le.2 hroom
        by_cases hblank : msg = newLine ∨ msg = space
        · have hplace : parsePlace (.atData length) msg = some (.atData length) := by
            rw [parsePlace, if_neg hstart, if_neg hend, if_neg hfull, if_pos hblank]
          rw [leftover_cons hplace] at hleft
          obtain ⟨msg₁, rest, rfl⟩ := List.exists_cons_of_ne_nil (leftover_ne_nil hleft)
          have hlt : rest.length < (msg₁ :: rest).length := Nat.lt_succ_self _
          have hloop := ih rest.length hlt length msg₁ rest st.step hleft hat.next rfl
          refine hloop.round hlt ?_ fun flash hholds fuel => ?_
          · rintro out ⟨rest', hread, hleft'⟩
            exact ⟨rest', hread.from hlt.le rfl rfl, hleft'⟩
          · rw [parseData, if_pos ⟨hstart, hroom, hend⟩, if_neg (by tauto)]
            simp only [(readCounted_at st hholds hat).1]
        · have hplace : parsePlace (.atData length) msg = some (.inByte length) := by
            rw [parsePlace, if_neg hstart, if_neg hend, if_neg hfull, if_neg hblank]
          rw [leftover_cons hplace] at hleft
          obtain ⟨low, rest, rfl⟩ := List.exists_cons_of_ne_nil (leftover_ne_nil hleft)
          rw [leftover_cons (by rfl : parsePlace (.inByte length) low = some (.atData (length + 1)))]
            at hleft
          obtain ⟨msg₁, rest, rfl⟩ := List.exists_cons_of_ne_nil (leftover_ne_nil hleft)
          let high := st.put length (charToHex msg &&& 0x0F)
          let both := high.step.put length
            ((high.step.bslSendDataPkt length <<< 4) ||| (charToHex low &&& 0x0F))
          have hathigh : At text high.dataPtr (low :: msg₁ :: rest) := hat
          have hatboth : At text both.dataPtr (msg₁ :: rest) := hathigh.next
          have hlt : rest.length < (low :: msg₁ :: rest).length := by
            simp only [List.length_cons]
            omega
          have hloop := ih rest.length hlt (length + 1) msg₁ rest both.step hleft hatboth.next rfl
          refine hloop.round hlt ?_ fun flash hholds fuel => ?_
          · rintro out ⟨rest', hread, hleft'⟩
            exact ⟨rest', hread.from hlt.le rfl rfl, hleft'⟩
          · rw [parseData, if_pos ⟨hstart, hroom, hend⟩, if_pos (by tauto)]
            have hlow := (readCounted_at high hholds hathigh).1
            have hnext := (readCounted_at both hholds hatboth).1
            simp only [high, both] at hlow hnext
            simp only [hlow, hnext, high, both]
      · refine .last (msg, length, st) ⟨rest, .refl hat, ?_⟩ fun flash _ fuel => by
          rw [parseData, if_neg hgo]
        rw [leftover, parsePlace_full hgo]
        exact hleft

variable (text left) in
/-- Where a call leaves the parser: behind the last byte, or before the next packet. -/
structure Resumes (st : ParserState) (rest : List UInt8) : Prop where
  at_rest : At text st.dataPtr rest
  done : st.allPktSent = true → rest = left
  more : st.allPktSent = false → leftover parsePlace (.atAddress st.addrFlag) rest = some left

theorem Resumes.stopAt {st : ParserState} {msg : UInt8} {rest : List UInt8}
    (hat : At text st.dataPtr rest) (hflag : st.addrFlag = false)
    (hsent : st.allPktSent = false)
    (hleft : leftover parsePlace (.atData 264) (msg :: rest) = some left) :
    Resumes text left (st.stopAt msg) rest := by
  by_cases hstart : msg = sectionStart
  · have hplace : parsePlace (.atData 264) msg = some (.atAddress true) := by
      simp [parsePlace, hstart]
    rw [leftover_cons hplace] at hleft
    rw [ParserState.stopAt, if_pos hstart]
    exact ⟨hat, fun hdone => by simp [hsent] at hdone, fun _ => hleft⟩
  · by_cases hend : msg = fileTerminationChar
    · have hplace : parsePlace (.atData 264) msg = none := by
        rw [parsePlace, if_neg hstart, if_pos hend]
      rw [leftover_last hplace] at hleft
      rw [ParserState.stopAt, if_neg hstart, if_pos hend]
      exact ⟨hat, fun _ => Option.some.inj hleft, fun hmore => by
        simp [ParserState.terminate] at hmore⟩
    · have hplace : parsePlace (.atData 264) msg = some (.atAddress false) := by
        simp [parsePlace, hstart, hend, bslMaxDataSize, bslDataPacketCrcSize]
      rw [leftover_cons hplace, ← hflag] at hleft
      rw [ParserState.stopAt, if_neg hstart, if_neg hend]
      exact ⟨hat, fun hdone => by simp [hsent] at hdone, fun _ => hleft⟩

theorem Resumes.finish {st : ParserState} {msg : UInt8} {rest : List UInt8}
    (h : Resumes text left (st.stopAt msg) rest) (length : Nat) :
    Resumes text left (st.finish msg length) rest :=
  ⟨h.at_rest, h.done, h.more⟩

variable (base) in
private theorem parseStates_data_leftover (length : Nat) (rest : List UInt8) (st : ParserState)
    (hat : At text st.dataPtr rest) (hflag : st.addrFlag = false)
    (hsent : st.allPktSent = false)
    (hleft : leftover parsePlace (.atData length) rest = some left) :
    Settled (fun flash => Holds flash base text) rest.length
      (fun flash fuel => parseStates flash base fuel .data length st)
      (fun st' => ∃ rest', Resumes text left st' rest' ∧ rest'.length < rest.length) := by
  obtain ⟨msg, rest, rfl⟩ := List.exists_cons_of_ne_nil (leftover_ne_nil hleft)
  have hlt : rest.length < (msg :: rest).length := Nat.lt_succ_self _
  have hdata := parseData_leftover base length msg rest st.step hleft hat.next
  refine (hdata.map (fun out => out.2.2.finish out.1 out.2.1) ?_).round hlt
    (fun _ hresult => hresult) fun flash hholds fuel => ?_
  · rintro out ⟨rest', hread, hleft'⟩
    have hstop : Resumes text left (out.2.2.stopAt out.1) rest' :=
      .stopAt hread.at_rest (hread.addrFlag.trans hflag) (hread.allPktSent.trans hsent) hleft'
    exact ⟨rest', hstop.finish out.2.1, Nat.lt_of_le_of_lt hread.le hlt⟩
  · rw [parseStates, (readCounted_at st hholds hat).1]

section Address

variable {msg : UInt8} {rest : List UInt8} {st : ParserState}

variable (base) in
private theorem parseStates_line_leftover (hat : At text st.dataPtr (msg :: rest))
    (hsent : st.allPktSent = false) (hflag : st.addrFlag = true) (hstart : msg ≠ sectionStart)
    (hend : msg ≠ fileTerminationChar)
    (hleft : leftover parsePlace (.atAddress st.addrFlag) (msg :: rest) = some left) :
    Settled (fun flash => Holds flash base text) (msg :: rest).length
      (fun flash fuel => parseStates flash base fuel .address 0 st)
      (fun st' => ∃ rest', Resumes text left st' rest' ∧
        rest'.length < (msg :: rest).length) := by
  have hplace : parsePlace (.atAddress st.addrFlag) msg =
      some (if msg = newLine then .atData 8 else .inAddress) := by
    rw [parsePlace, if_neg hstart, if_neg hend]
    by_cases hnewline : msg = newLine
    · rw [if_neg (fun hline => hline.2 hnewline), if_pos hnewline]
    · rw [if_pos ⟨hflag, hnewline⟩, if_neg hnewline]
  rw [leftover_cons hplace] at hleft
  have hlt : rest.length < (msg :: rest).length := Nat.lt_succ_self _
  let begun := { st.step with addrFlag := false, parsedScFlashAddr := 0 }
  have hline := parseAddress_leftover (fun msg => rfl) (readsAhead_readCounted base) msg rest begun
    hleft hat.next
  refine (hline.bind (fun flash fuel st₁ => parseStates flash base fuel .data 8 st₁.putAddress)
    ?_).round hlt (fun _ hresult => hresult) fun flash hholds fuel => ?_
  · rintro st₁ ⟨rest₁, hread, hleft₁⟩
    obtain ⟨st', ⟨rest', hresumes, hless⟩, hrun⟩ :=
      (parseStates_data_leftover base 8 rest₁ st₁.putAddress hread.at_rest hread.addrFlag
        (hread.allPktSent.trans hsent) hleft₁).mono hread.le
    exact ⟨st', ⟨rest', hresumes, Nat.lt_of_lt_of_le hless (Nat.le_succ_of_le hread.le)⟩, hrun⟩
  · rw [parseStates, (readCounted_at st hholds hat).1]
    simp only
    rw [if_pos ⟨hflag, hstart, hend⟩]

variable (base) in
private theorem parseStates_cut_leftover (hat : At text st.dataPtr (msg :: rest))
    (hsent : st.allPktSent = false) (hflag : st.addrFlag = false) (hstart : msg ≠ sectionStart)
    (hend : msg ≠ fileTerminationChar)
    (hleft : leftover parsePlace (.atAddress st.addrFlag) (msg :: rest) = some left) :
    Settled (fun flash => Holds flash base text) (msg :: rest).length
      (fun flash fuel => parseStates flash base fuel .address 0 st)
      (fun st' => ∃ rest', Resumes text left st' rest' ∧
        rest'.length < (msg :: rest).length) := by
  have hplace : parsePlace (.atAddress st.addrFlag) msg = some (.atData 8) := by
    simp [parsePlace, hstart, hend, hflag]
  rw [leftover_cons hplace] at hleft
  have hlt : rest.length < (msg :: rest).length := Nat.lt_succ_self _
  let cut := { st.step with
    parsedScFlashAddr := st.step.parsedScFlashAddr + st.step.prevLength }
  have hdata := parseStates_data_leftover base 8 rest cut.putAddress hat.next hflag hsent hleft
  refine hdata.round hlt ?_ fun flash hholds fuel => ?_
  · rintro st' ⟨rest', hresumes, hless⟩
    exact ⟨rest', hresumes, Nat.lt_trans hless hlt⟩
  · rw [parseStates, (readCounted_at st hholds hat).1]
    simp only
    rw [if_neg (by simp [ParserState.step, hflag]), if_neg hstart, if_neg hend]

end Address

variable (base) in
private theorem parseStates_address_leftover (rest : List UInt8) (st : ParserState)
    (hat : At text st.dataPtr rest) (hsent : st.allPktSent = false)
    (hleft : leftover parsePlace (.atAddress st.addrFlag) rest = some left) :
    Settled (fun flash => Holds flash base text) rest.length
      (fun flash fuel => parseStates flash base fuel .address 0 st)
      (fun st' => ∃ rest', Resumes text left st' rest' ∧ rest'.length < rest.length) := by
  induction rest generalizing st with
  | nil => simp at hleft
  | cons msg rest ih =>
      have hlt : rest.length < (msg :: rest).length := Nat.lt_succ_self _
      by_cases hstart : msg = sectionStart
      · have hplace : parsePlace (.atAddress st.addrFlag) msg = some (.atAddress true) := by
          rw [parsePlace, if_pos hstart]
        rw [leftover_cons hplace] at hleft
        have hnext := ih { st.step with addrFlag := true } hat.next hsent hleft
        refine hnext.round hlt ?_ fun flash hholds fuel => ?_
        · rintro st' ⟨rest', hresumes, hless⟩
          exact ⟨rest', hresumes, Nat.lt_trans hless hlt⟩
        · rw [parseStates, (readCounted_at st hholds hat).1]
          simp only [hstart, ne_eq, not_true_eq_false, false_and, and_false, if_false, if_true]
      by_cases hend : msg = fileTerminationChar
      · have hplace : parsePlace (.atAddress st.addrFlag) msg = none := by
          rw [parsePlace, if_neg hstart, if_pos hend]
        rw [leftover_last hplace] at hleft
        have hdone : Resumes text left st.step.terminate rest :=
          ⟨hat.next, fun _ => Option.some.inj hleft, fun hmore => by
            simp [ParserState.terminate] at hmore⟩
        refine .last st.step.terminate ⟨rest, hdone, hlt⟩ fun flash hholds fuel => ?_
        rw [parseStates, (readCounted_at st hholds hat).1]
        simp only
        rw [if_neg (by simp [hend]), if_neg hstart, if_pos hend]
      cases hflag : st.addrFlag with
      | true => exact parseStates_line_leftover base hat hsent hflag hstart hend hleft
      | false => exact parseStates_cut_leftover base hat hsent hflag hstart hend hleft

variable (base) in
/-- One call reads at least one byte, and what is left of the text is left for the next ones. -/
theorem nextPacket_leftover (rest : List UInt8) (st : ParserState)
    (hat : At text st.dataPtr rest) (hsent : st.allPktSent = false)
    (hleft : leftover parsePlace (.atAddress st.addrFlag) rest = some left) :
    Settled (fun flash => Holds flash base text) rest.length
      (fun flash fuel => nextPacket flash base fuel st)
      (fun st' => ∃ rest', Resumes text left st' rest' ∧ rest'.length < rest.length) :=
  parseStates_address_leftover base rest { st with bslSendDataPkt := fun _ => 0 } hat hsent hleft

/-- `while (all_pkt_sent != true)` of `send_data_to_bsl`, with the parser alone. -/
def parseCalls (flash : Flash) (addrLocation : UInt32) (fuel : Nat) :
    Nat → ParserState → Option ParserState
  | 0, _ => none
  | calls + 1, st =>
      if st.allPktSent then some st
      else (nextPacket flash addrLocation fuel st).bind (parseCalls flash addrLocation fuel calls)

variable (base) in
theorem parseCalls_leftover (rest : List UInt8) (st : ParserState)
    (hat : At text st.dataPtr rest) (hsent : st.allPktSent = false)
    (hleft : leftover parsePlace (.atAddress st.addrFlag) rest = some left) :
    ∃ st', At text st'.dataPtr left ∧ ∀ flash, Holds flash base text →
      ∀ fuel > rest.length, ∀ calls > rest.length,
        parseCalls flash base fuel calls st = some st' := by
  induction hn : rest.length using Nat.strong_induction_on generalizing rest st with
  | h n ih =>
      subst hn
      obtain ⟨st₁, ⟨rest₁, hresumes, hlt⟩, hcall⟩ :=
        nextPacket_leftover base rest st hat hsent hleft
      cases hsent₁ : st₁.allPktSent with
      | true =>
          refine ⟨st₁, hresumes.done hsent₁ ▸ hresumes.at_rest,
            fun flash hholds fuel hfuel calls hcalls => ?_⟩
          obtain ⟨calls, rfl⟩ : ∃ n, calls = n + 2 := ⟨calls - 2, by omega⟩
          have hnext : nextPacket flash base fuel st = some st₁ := hcall flash hholds fuel hfuel
          rw [parseCalls, if_neg (by simp [hsent]), hnext, Option.bind_some, parseCalls,
            if_pos hsent₁]
      | false =>
          obtain ⟨st', hat', hrun⟩ := ih rest₁.length hlt rest₁ st₁ hresumes.at_rest hsent₁
            (hresumes.more hsent₁) rfl
          refine ⟨st', hat', fun flash hholds fuel hfuel calls hcalls => ?_⟩
          obtain ⟨calls, rfl⟩ : ∃ n, calls = n + 1 := ⟨calls - 1, by omega⟩
          have hnext : nextPacket flash base fuel st = some st₁ := hcall flash hholds fuel hfuel
          rw [parseCalls, if_neg (by simp [hsent]), hnext, Option.bind_some]
          exact hrun flash hholds fuel (by omega) calls (by omega)

/-! ## The version scan -/

private theorem VersionScan.versionPtr_putHigh (scan : VersionScan) (nibble : UInt8) :
    (scan.putHigh nibble).versionPtr = scan.versionPtr := by
  rw [VersionScan.putHigh]
  split <;> rfl

private theorem VersionScan.versionPtr_putLow {scan : VersionScan}
    (h : scan.versionPtr < fptScVersionSize) (nibble : UInt8) :
    (scan.putLow nibble).versionPtr < fptScVersionSize := by
  rw [VersionScan.putLow]
  split
  · rename_i hput
    have hroom := hput.2
    simp only [maxScVersionSize, fptScVersionSize] at hroom ⊢
    omega
  · exact h

private theorem charToHex_blank (msg : UInt8) :
    (charToHex msg = newLine ∨ charToHex msg = space ∨ charToHex msg = sectionStart) ↔
      charToHex msg = newLine := by
  have hle := charToHex_le msg
  constructor
  · rintro (h | h | h)
    · exact h
    · simp [h, space] at hle
    · simp [h, sectionStart] at hle
  · exact .inl

variable (text left) in
structure VersionStop (msg : UInt8) (state : ParseStates) (scan : VersionScan)
    (st : ParserState) (rest : List UInt8) : Prop where
  at_rest : At text st.dataPtr rest
  room : scan.versionPtr < fptScVersionSize
  done : msg = fileTerminationChar → rest = left
  more : msg ≠ fileTerminationChar → leftover versionPlace (.atAddress true) rest = some left ∧
    (msg = sectionStart ∨ state = .address ∧ st.addrFlag = true)

variable (base) in
private theorem versionData_leftover (scan : VersionScan)
    (hptr : scan.versionPtr < fptScVersionSize)
    (msg : UInt8) (rest : List UInt8) (st : ParserState)
    (hleft : leftover versionPlace .atData (msg :: rest) = some left)
    (hat : At text st.dataPtr rest) :
    Settled (fun flash => Holds flash base text) rest.length
      (fun flash fuel => versionData flash base fuel msg scan st)
      (fun out => ∃ rest', VersionStop text left out.1 out.2.1 out.2.2.1 out.2.2.2 rest' ∧
        rest'.length ≤ rest.length) := by
  induction hn : rest.length using Nat.strong_induction_on generalizing scan msg rest st with
  | h n ih =>
      subst hn
      by_cases hstart : msg = sectionStart
      · have hplace : versionPlace .atData msg = some (.atAddress true) := by
          rw [versionPlace, if_pos hstart]
        rw [leftover_cons hplace] at hleft
        have hstop : VersionStop text left msg .data scan st rest :=
          ⟨hat, hptr, fun hend => by simp [hstart, sectionStart, fileTerminationChar] at hend,
            fun _ => ⟨hleft, .inl hstart⟩⟩
        refine .last (msg, .data, scan, st) ⟨rest, hstop, Nat.le_refl _⟩ fun flash _ fuel => ?_
        rw [versionData, if_neg (by simp [hstart])]
      by_cases hend : msg = fileTerminationChar
      · have hplace : versionPlace .atData msg = none := by
          rw [versionPlace, if_neg hstart, if_pos hend]
        rw [leftover_last hplace] at hleft
        have hstop : VersionStop text left msg .data scan st rest :=
          ⟨hat, hptr, fun _ => Option.some.inj hleft, fun hmore => absurd hend hmore⟩
        refine .last (msg, .data, scan, st) ⟨rest, hstop, Nat.le_refl _⟩ fun flash _ fuel => ?_
        rw [versionData, if_neg (by simp [hend])]
      have hroom : ¬ fptScVersionSize ≤ scan.versionPtr := Nat.not_le.2 hptr
      by_cases hblank : msg = newLine ∨ msg = space
      · have hplace : versionPlace .atData msg = some .atData := by
          rw [versionPlace, if_neg hstart, if_neg hend, if_pos hblank]
        rw [leftover_cons hplace] at hleft
        obtain ⟨msg₁, rest, rfl⟩ := List.exists_cons_of_ne_nil (leftover_ne_nil hleft)
        have hlt : rest.length < (msg₁ :: rest).length := Nat.lt_succ_self _
        have hloop := ih rest.length hlt scan hptr msg₁ rest { st with dataPtr := st.dataPtr + 1 }
          hleft hat.next rfl
        refine hloop.round hlt ?_ fun flash hholds fuel => ?_
        · rintro out ⟨rest', hstop, hle⟩
          exact ⟨rest', hstop, Nat.le_trans hle hlt.le⟩
        · rw [versionData, if_pos ⟨hstart, hend⟩, if_neg hroom, if_neg (by tauto)]
          simp only [(readsAhead_read base).read flash hholds st msg₁ rest hat]
      by_cases hquirk : charToHex msg = newLine
      · have hplace : versionPlace .atData msg = some (.atAddress true) := by
          rw [versionPlace, if_neg hstart, if_neg hend, if_neg hblank, if_pos hquirk]
        rw [leftover_cons hplace] at hleft
        have hstop : VersionStop text left (charToHex msg) .address
            { scan.putHigh (charToHex msg) with versionFlag := false }
            { st with addrFlag := true } rest :=
          ⟨hat, by rw [VersionScan.versionPtr_putHigh]; exact hptr,
            fun hend => absurd hend (charToHex_ne_end msg), fun _ => ⟨hleft, .inr ⟨rfl, rfl⟩⟩⟩
        refine .last (charToHex msg, .address, { scan.putHigh (charToHex msg) with
          versionFlag := false }, { st with addrFlag := true }) ⟨rest, hstop, Nat.le_refl _⟩
          fun flash _ fuel => ?_
        rw [versionData, if_pos ⟨hstart, hend⟩, if_neg hroom, if_pos (by tauto)]
        simp only [(charToHex_blank msg).2 hquirk, if_true]
      · have hplace : versionPlace .atData msg = some .inByte := by
          rw [versionPlace, if_neg hstart, if_neg hend, if_neg hblank, if_neg hquirk]
        rw [leftover_cons hplace] at hleft
        obtain ⟨low, rest, rfl⟩ := List.exists_cons_of_ne_nil (leftover_ne_nil hleft)
        rw [leftover_cons (by rfl : versionPlace .inByte low = some .atData)] at hleft
        obtain ⟨msg₁, rest, rfl⟩ := List.exists_cons_of_ne_nil (leftover_ne_nil hleft)
        let high := scan.putHigh (charToHex msg)
        have hhigh : high.versionPtr < fptScVersionSize := by
          rw [VersionScan.versionPtr_putHigh]
          exact hptr
        let st₁ := { st with dataPtr := st.dataPtr + 1 }
        have hat₁ : At text st₁.dataPtr (msg₁ :: rest) := hat.next
        have hlt : rest.length < (low :: msg₁ :: rest).length := by
          simp only [List.length_cons]
          omega
        have hloop := ih rest.length hlt (high.putLow (charToHex low))
          (VersionScan.versionPtr_putLow hhigh _) msg₁ rest
          { st₁ with dataPtr := st₁.dataPtr + 1 } hleft hat₁.next rfl
        refine hloop.round hlt ?_ fun flash hholds fuel => ?_
        · rintro out ⟨rest', hstop, hle⟩
          exact ⟨rest', hstop, Nat.le_trans hle hlt.le⟩
        · have hlow := (readsAhead_read base).read flash hholds st low _ hat
          have hnext := (readsAhead_read base).read flash hholds st₁ msg₁ rest hat₁
          rw [versionData, if_pos ⟨hstart, hend⟩, if_neg hroom, if_pos (by tauto)]
          simp only
          rw [if_neg (fun hcut => hquirk ((charToHex_blank msg).1 hcut))]
          simp only [st₁] at hnext
          simp only [hlow, hnext, high, st₁]

def ParseStates.place (st : ParserState) : ParseStates → VersionPlace
  | .address => .atAddress st.addrFlag
  | .data => .atData

variable (base text left) in
/-- The scan ends at the leftover, from here on. -/
def VersionSettled (state : ParseStates) (scan : VersionScan) (rest : List UInt8)
    (st : ParserState) : Prop :=
  Settled (fun flash => Holds flash base text) rest.length
    (fun flash fuel => versionStates flash base fuel state scan st)
    (fun out => At text out.2.dataPtr left)

variable (base text left) in
/-- The scan ends at the leftover wherever less than `ahead` is ahead of it. -/
def SettledBelow (ahead : Nat) : Prop :=
  ∀ (state : ParseStates) (scan : VersionScan) (rest : List UInt8) (st : ParserState),
    rest.length < ahead → scan.versionPtr < fptScVersionSize →
    leftover versionPlace (state.place st) rest = some left → At text st.dataPtr rest →
    VersionSettled base text left state scan rest st

section VersionRound

variable {scan : VersionScan} {msg : UInt8} {rest : List UInt8} {st : ParserState}

private theorem versionSettled_data (ih : SettledBelow base text left (msg :: rest).length)
    (hptr : scan.versionPtr < fptScVersionSize)
    (hleft : leftover versionPlace .atData (msg :: rest) = some left)
    (hat : At text st.dataPtr (msg :: rest)) :
    VersionSettled base text left .data scan (msg :: rest) st := by
  have hlt : rest.length < (msg :: rest).length := Nat.lt_succ_self _
  have hdata := versionData_leftover base scan hptr msg rest { st with dataPtr := st.dataPtr + 1 }
    hleft hat.next
  refine (hdata.bind (fun flash fuel out =>
    if out.1 = sectionStart then
      versionStates flash base fuel .address { out.2.2.1 with versionFlag := false }
        { out.2.2.2 with addrFlag := true }
    else if out.1 = fileTerminationChar then some (out.2.2.1, out.2.2.2)
    else versionStates flash base fuel out.2.1 out.2.2.1 out.2.2.2) ?_).round hlt
    (fun _ hresult => hresult) fun flash hholds fuel => ?_
  · rintro ⟨msg', state, scan₁, st₂⟩ ⟨rest₂, hstop, hle⟩
    by_cases hstart : msg' = sectionStart
    · have hgo : msg' ≠ fileTerminationChar := by
        rw [hstart]
        decide
      have hmore := (hstop.more hgo).1
      simp only [hstart, if_true]
      exact (ih .address { scan₁ with versionFlag := false } rest₂ { st₂ with addrFlag := true }
        (Nat.lt_of_le_of_lt hle hlt) hstop.room hmore hstop.at_rest).mono hle
    by_cases hend : msg' = fileTerminationChar
    · have hother : fileTerminationChar ≠ sectionStart := by decide
      simp only [hend, hother, if_false, if_true]
      exact ⟨_, hstop.done hend ▸ hstop.at_rest, fun _ _ _ _ => rfl⟩
    · obtain ⟨hmore, hnext⟩ := hstop.more hend
      obtain ⟨rfl, hflag⟩ := hnext.resolve_left hstart
      simp only [hstart, hend, if_false]
      exact (ih .address scan₁ rest₂ st₂ (Nat.lt_of_le_of_lt hle hlt) hstop.room
        (by rw [ParseStates.place, hflag]; exact hmore) hstop.at_rest).mono hle
  · rw [versionStates, (readsAhead_read base).read flash hholds st msg rest hat]

private theorem versionSettled_line (ih : SettledBelow base text left (msg :: rest).length)
    (hptr : scan.versionPtr < fptScVersionSize) (hflag : st.addrFlag = true)
    (hstart : msg ≠ sectionStart) (hend : msg ≠ fileTerminationChar)
    (hleft : leftover versionPlace (.atAddress st.addrFlag) (msg :: rest) = some left)
    (hat : At text st.dataPtr (msg :: rest)) :
    VersionSettled base text left .address scan (msg :: rest) st := by
  have hplace : versionPlace (.atAddress st.addrFlag) msg =
      some (if msg = newLine then .atData else .inAddress) := by
    rw [versionPlace, if_neg hstart, if_neg hend]
    by_cases hnewline : msg = newLine
    · rw [if_neg (fun hline => hline.2 hnewline), if_pos hnewline]
    · rw [if_pos ⟨hflag, hnewline⟩, if_neg hnewline]
  rw [leftover_cons hplace] at hleft
  have hlt : rest.length < (msg :: rest).length := Nat.lt_succ_self _
  let begun := { st with
    dataPtr := st.dataPtr + 1, addrFlag := false, parsedScFlashAddr := 0 }
  have hline := parseAddress_leftover (fun msg => rfl) (readsAhead_read base) msg rest begun
    hleft hat.next
  refine (hline.bind (fun flash fuel st₁ =>
    versionStates flash base fuel .data (scan.atAddress st₁.parsedScFlashAddr) st₁) ?_).round hlt
    (fun _ hresult => hresult) fun flash hholds fuel => ?_
  · rintro st₁ ⟨rest₁, hread, hleft₁⟩
    have hptr₁ : (scan.atAddress st₁.parsedScFlashAddr).versionPtr < fptScVersionSize := by
      rw [VersionScan.atAddress]
      split <;> exact hptr
    exact (ih .data (scan.atAddress st₁.parsedScFlashAddr) rest₁ st₁
      (Nat.lt_of_le_of_lt hread.le hlt) hptr₁ hleft₁ hread.at_rest).mono hread.le
  · rw [versionStates, (readsAhead_read base).read flash hholds st msg rest hat]
    simp only
    rw [if_pos ⟨hflag, hstart, hend⟩]

private theorem versionSettled_address (ih : SettledBelow base text left (msg :: rest).length)
    (hptr : scan.versionPtr < fptScVersionSize)
    (hleft : leftover versionPlace (.atAddress st.addrFlag) (msg :: rest) = some left)
    (hat : At text st.dataPtr (msg :: rest)) :
    VersionSettled base text left .address scan (msg :: rest) st := by
  have hlt : rest.length < (msg :: rest).length := Nat.lt_succ_self _
  let st₁ := { st with dataPtr := st.dataPtr + 1 }
  have hat₁ : At text st₁.dataPtr rest := hat.next
  by_cases hstart : msg = sectionStart
  · have hplace : versionPlace (.atAddress st.addrFlag) msg = some (.atAddress true) := by
      rw [versionPlace, if_pos hstart]
    rw [leftover_cons hplace] at hleft
    have hnext := ih .address scan rest { st₁ with addrFlag := true } hlt hptr hleft hat₁
    refine hnext.round hlt (fun _ hresult => hresult) fun flash hholds fuel => ?_
    rw [versionStates, (readsAhead_read base).read flash hholds st msg rest hat]
    simp only
    rw [if_neg (by simp [hstart]), if_pos hstart]
  by_cases hend : msg = fileTerminationChar
  · have hplace : versionPlace (.atAddress st.addrFlag) msg = none := by
      rw [versionPlace, if_neg hstart, if_pos hend]
    rw [leftover_last hplace] at hleft
    have hdone : At text st₁.dataPtr left := Option.some.inj hleft ▸ hat₁
    refine .last (scan, st₁) hdone fun flash hholds fuel => ?_
    rw [versionStates, (readsAhead_read base).read flash hholds st msg rest hat]
    simp only
    rw [if_neg (by simp [hend]), if_neg hstart, if_pos hend]
  cases hflag : st.addrFlag with
  | true => exact versionSettled_line ih hptr hflag hstart hend hleft hat
  | false =>
      have hplace : versionPlace (.atAddress st.addrFlag) msg = some .atData := by
        simp [versionPlace, hstart, hend, hflag]
      rw [leftover_cons hplace] at hleft
      have hnext := ih .data scan rest st₁ hlt hptr hleft hat₁
      refine hnext.round hlt (fun _ hresult => hresult) fun flash hholds fuel => ?_
      rw [versionStates, (readsAhead_read base).read flash hholds st msg rest hat]
      simp only
      rw [if_neg (by simp [hflag]), if_neg hstart, if_neg hend]

end VersionRound

variable (base) in
theorem versionStates_leftover (state : ParseStates) (scan : VersionScan)
    (hptr : scan.versionPtr < fptScVersionSize) (rest : List UInt8) (st : ParserState)
    (hleft : leftover versionPlace (state.place st) rest = some left)
    (hat : At text st.dataPtr rest) : VersionSettled base text left state scan rest st := by
  induction hn : rest.length using Nat.strong_induction_on generalizing state scan rest st with
  | h n ih =>
      subst hn
      have hbelow : SettledBelow base text left rest.length :=
        fun state scan rest st hlt hptr hleft hat => ih _ hlt state scan hptr rest st hleft hat rfl
      obtain ⟨msg, rest, rfl⟩ := List.exists_cons_of_ne_nil (leftover_ne_nil hleft)
      cases state with
      | data => exact versionSettled_data hbelow hptr hleft hat
      | address => exact versionSettled_address hbelow hptr hleft hat

end Loops

end Vmr.Sc
