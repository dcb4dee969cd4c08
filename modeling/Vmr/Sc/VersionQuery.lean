import Vmr.Sc.Framing
import Vmr.Lib.Transition

/-!
# The packaged-version query

`get_fpt_sc_version` looks for the version bytes near the end of the image.  It
shares `data_ptr`, `addr_flag` and `parsed_sc_flash_addr` with the update: it
starts them over and leaves them wherever its scan ends.

`updateSystem` is a running update with queries between its `parse_fpt_sc`
calls.  In a TI-TXT image the scan always ends behind the final `q`, so the
update goes on from one fixed offset, and is undisturbed only if a section
happened to start there and was next anyway.
-/

namespace Vmr.Sc

open Vmr.Lib

def scVerAddrWChksum : UInt32 := 0x195
def scVerMajStartAddr : UInt32 := 0x7E000
def scVerMinStartAddr : UInt32 := 0x7E002
def scVerRevStartAddr : UInt32 := 0x7E004
def maxScVersionSize : Nat := 3

def fptScVersionSize : Nat := 4

def scHeaderMsg : List UInt8 :=
  [0x56, 0x45, 0x52, 0x53, 0x41, 0x4C, 0x5F, 0x53, 0x43, 0x46, 0x57]

structure EfptSc where
  startAddress : UInt32
  size : UInt32
  deriving DecidableEq, Repr

def EfptSc.text (fpt : EfptSc) : UInt32 := fpt.startAddress + scTotHeaderSize

/-- The locals of the version scan and the buffer it fills. -/
structure VersionScan where
  versionPtr : Nat
  versionFlag : Bool
  versionBuff : Memory

namespace VersionScan

variable (scan : VersionScan)

def putHigh (nibble : UInt8) : VersionScan :=
  if scan.versionFlag ∧ scan.versionPtr ≤ maxScVersionSize - 1 then
    { scan with
      versionBuff := Function.update scan.versionBuff scan.versionPtr (nibble &&& 0x0F) }
  else scan

def putLow (nibble : UInt8) : VersionScan :=
  if scan.versionFlag ∧ scan.versionPtr ≤ maxScVersionSize - 1 then
    let high := scan.versionBuff scan.versionPtr
    { scan with
      versionPtr := scan.versionPtr + 1
      versionBuff := Function.update scan.versionBuff scan.versionPtr
        ((high <<< 4) ||| (nibble &&& 0x0F)) }
  else scan

def atAddress (address : UInt32) : VersionScan :=
  if address = scVerMajStartAddr ∨ address = scVerMinStartAddr ∨
      address = scVerRevStartAddr then
    { scan with versionFlag := true }
  else scan

end VersionScan

section Scan

variable (flash : Flash) (addrLocation : UInt32)

/--
The data loop of the scan: the byte it stopped at and the state it goes on in.
A high digit `A` has the value of a newline and sends the scan to the address
branch in the middle of a byte.
-/
def versionData : Nat → UInt8 → VersionScan → ParserState →
    Option (UInt8 × ParseStates × VersionScan × ParserState)
  | 0, _, _, _ => none
  | fuel + 1, msg, scan, st =>
      if msg ≠ sectionStart ∧ msg ≠ fileTerminationChar then
        if fptScVersionSize ≤ scan.versionPtr then
          some (msg, .data, scan, st)
        else if msg ≠ newLine ∧ msg ≠ space then
          let msg := charToHex msg
          let scan := scan.putHigh msg
          if msg = newLine ∨ msg = space ∨ msg = sectionStart then
            some (msg, .address, { scan with versionFlag := false },
              { st with addrFlag := true })
          else
            let (msg, st) := st.read flash addrLocation
            let scan := scan.putLow (charToHex msg)
            let (msg, st) := st.read flash addrLocation
            versionData fuel msg scan st
        else
          let (msg, st) := st.read flash addrLocation
          versionData fuel msg scan st
      else
        some (msg, .data, scan, st)

def versionStates : Nat → ParseStates → VersionScan → ParserState →
    Option (VersionScan × ParserState)
  | 0, _, _, _ => none
  | fuel + 1, .address, scan, st =>
      let (msg, st) := st.read flash addrLocation
      if st.addrFlag ∧ msg ≠ sectionStart ∧ msg ≠ fileTerminationChar then
        (parseAddress (ParserState.read flash addrLocation) fuel msg
          { st with addrFlag := false, parsedScFlashAddr := 0 }).bind fun st =>
            versionStates fuel .data (scan.atAddress st.parsedScFlashAddr) st
      else if msg = sectionStart then
        versionStates fuel .address scan { st with addrFlag := true }
      else if msg = fileTerminationChar then
        some (scan, st)
      else
        versionStates fuel .data scan st
  | fuel + 1, .data, scan, st =>
      let (msg, st) := st.read flash addrLocation
      (versionData flash addrLocation fuel msg scan st).bind fun (msg, state, scan, st) =>
        if msg = sectionStart then
          versionStates fuel .address { scan with versionFlag := false }
            { st with addrFlag := true }
        else if msg = fileTerminationChar then
          some (scan, st)
        else
          versionStates fuel state scan st

def parseFptScVersion (fuel : Nat) (versionBuff : Memory) (st : ParserState) :
    Option (Memory × ParserState) :=
  (versionStates flash addrLocation fuel .address
    { versionPtr := 0, versionFlag := false, versionBuff } st).map fun (scan, st) =>
      (scan.versionBuff, st)

end Scan

def checkReceivedScHeader : List UInt8 → List UInt8 → UInt8
  | byte :: bytes, byte' :: bytes' =>
      if byte ≠ byte' then byte - byte' else checkReceivedScHeader bytes bytes'
  | _, _ => 0

structure ScImage where
  parser : ParserState
  fptScLoc : EfptSc
  fptScValid : Bool

/--
`fpt` is what `cl_rmgmt_fpt_query` reports.  The first component is `ret == 0`,
the second the version that was found.
-/
def getFptScVersion (flash : Flash) (fpt : EfptSc) (fuel : Nat) (sc : ScImage) :
    Option (Bool × Memory × ScImage) :=
  let version : Memory := fun _ => 0
  let st := { sc.parser with dataPtr := 0 }
  let readBuffer := (List.range 16).map fun index =>
    flash (fpt.startAddress + UInt32.ofNat index)
  if checkReceivedScHeader (readBuffer.take 11) scHeaderMsg = 0 then
    let fptScfwEndAddr := fpt.startAddress + scTotHeaderSize + fpt.size
    (parseFptScVersion flash (fptScfwEndAddr - scVerAddrWChksum) fuel version st).map
      fun (version, st) =>
        (true, version, { parser := st, fptScLoc := fpt, fptScValid := true })
  else
    some (false, version, { parser := st, fptScLoc := fpt, fptScValid := false })

/-! ## Where the scan ends -/

def Closed (rest : List UInt8) : Prop :=
  ∃ body, rest = body ++ [fileTerminationChar] ∧ fileTerminationChar ∉ body ∧
    (body = [] ∨ body.getLast? = some newLine)

private theorem Closed.ne_nil {rest : List UInt8} (h : Closed rest) : rest ≠ [] := by
  obtain ⟨body, rfl, -, -⟩ := h
  simp

private theorem Closed.nil_of_end {rest : List UInt8} (h : Closed (fileTerminationChar :: rest)) :
    rest = [] := by
  obtain ⟨body, heq, hnot, -⟩ := h
  cases body with
  | nil => simpa using heq
  | cons c body =>
      obtain ⟨rfl, -⟩ := List.cons.inj heq
      simp at hnot

theorem Closed.tail {c : UInt8} {rest : List UInt8} (h : Closed (c :: rest))
    (hc : c ≠ fileTerminationChar) : Closed rest := by
  obtain ⟨body, heq, hnot, hlast⟩ := h
  cases body with
  | nil => exact absurd (List.cons.inj heq).1 hc
  | cons c' body =>
      obtain ⟨rfl, rfl⟩ := List.cons.inj heq
      refine ⟨body, rfl, fun hmem => hnot (List.mem_cons_of_mem _ hmem), ?_⟩
      cases body with
      | nil => exact .inl rfl
      | cons c' body => exact .inr (by simpa [List.getLast?_cons] using hlast)

theorem Closed.next {c : UInt8} {rest : List UInt8} (h : Closed (c :: rest))
    (hc : c ≠ fileTerminationChar) (hnewline : c ≠ newLine) :
    ∃ d rest', rest = d :: rest' ∧ d ≠ fileTerminationChar := by
  obtain ⟨body, heq, hnot, hlast⟩ := h
  cases body with
  | nil => exact absurd (List.cons.inj heq).1 hc
  | cons c' body =>
      obtain ⟨rfl, rfl⟩ := List.cons.inj heq
      cases body with
      | nil => simp [hnewline] at hlast
      | cons d body => exact ⟨d, _, rfl, fun hd => hnot (by simp [hd])⟩

theorem Closed.suffix {rest text : List UInt8} (h : Closed text) (hsuffix : rest <:+ text)
    (hne : rest ≠ []) : Closed rest := by
  obtain ⟨before, rfl⟩ := hsuffix
  induction before with
  | nil => exact h
  | cons c before ih =>
      refine ih (h.tail ?_)
      rintro rfl
      have hnil := h.nil_of_end
      simp [hne] at hnil

section Ends

variable {flash : Flash} {base : UInt32} {text : List UInt8}

/-- A scan moves only what the two parsers share. -/
def Scanned (st st' : ParserState) : Prop :=
  st' = { st with dataPtr := st'.dataPtr, addrFlag := st'.addrFlag,
                  parsedScFlashAddr := st'.parsedScFlashAddr }

theorem Scanned.refl (st : ParserState) : Scanned st st := rfl

theorem Scanned.trans {st st' st'' : ParserState} (h : Scanned st st')
    (h' : Scanned st' st'') : Scanned st st'' := by
  unfold Scanned at h h' ⊢
  rw [h', h]

private theorem read_at (st : ParserState) {msg : UInt8} {rest : List UInt8}
    (hholds : Holds flash base text) (h : At text st.dataPtr (msg :: rest)) :
    ∃ st', st.read flash base = (msg, st') ∧ Scanned st st' ∧ At text st'.dataPtr rest := by
  obtain ⟨hmsg, hrest⟩ := h.read hholds
  exact ⟨{ st with dataPtr := st.dataPtr + 1 }, by rw [ParserState.read, hmsg], rfl, hrest⟩

private theorem parseAddress_closed (hholds : Holds flash base text) (st : ParserState)
    {fuel : Nat} {msg : UInt8} {rest : List UInt8} (hclosed : Closed (msg :: rest))
    (hmsg : msg ≠ fileTerminationChar) (hfuel : rest.length < fuel)
    (hat : At text st.dataPtr rest) :
    ∃ st' rest', parseAddress (ParserState.read flash base) fuel msg st = some st' ∧
      Scanned st st' ∧ At text st'.dataPtr rest' ∧ Closed rest' ∧
      rest'.length ≤ rest.length := by
  induction fuel generalizing st msg rest with
  | zero => omega
  | succ fuel ih =>
      rw [parseAddress]
      by_cases hnewline : msg = newLine
      · exact ⟨st, rest, by rw [if_pos hnewline], .refl st, hat, hclosed.tail hmsg,
          Nat.le_refl _⟩
      · obtain ⟨d, rest, rfl, hd⟩ := hclosed.next hmsg hnewline
        rw [if_neg hnewline]
        let folded := { st with parsedScFlashAddr :=
          (st.parsedScFlashAddr <<< 4) ||| (charToHexAddr msg &&& 0x0F).toUInt32 }
        have hfolded : Scanned st folded := rfl
        obtain ⟨st₁, hread, hmoved, hat₁⟩ := read_at folded hholds hat
        rw [List.length_cons] at hfuel
        obtain ⟨st', rest', hrun, hscanned, hat', hclosed', hle⟩ :=
          ih st₁ (hclosed.tail hmsg) hd (by omega : rest.length < fuel) hat₁
        refine ⟨st', rest', ?_, hfolded.trans (hmoved.trans hscanned), hat', hclosed', ?_⟩
        · change (match folded.read flash base with
            | (msg, st) => parseAddress (ParserState.read flash base) fuel msg st) = some st'
          rw [hread]
          exact hrun
        · rw [List.length_cons]
          omega

theorem charToHex_le (c : UInt8) : (charToHex c).toNat ≤ 15 := by
  rw [charToHex, UInt8.toNat_and]
  exact Nat.and_le_right

theorem charToHex_ne_end (c : UInt8) : charToHex c ≠ fileTerminationChar := by
  intro h
  have hle := charToHex_le c
  rw [h] at hle
  exact absurd hle (by decide)

/-- Where the data loop leaves the scan: behind the `q`, or before it with less text ahead. -/
def Stopped (text : List UInt8) (msg : UInt8) (st : ParserState) (ahead : Nat) : Prop :=
  if msg = fileTerminationChar then At text st.dataPtr []
  else ∃ rest, At text st.dataPtr rest ∧ Closed rest ∧ rest.length ≤ ahead

theorem Stopped.mono {msg : UInt8} {st : ParserState} {ahead ahead' : Nat}
    (h : Stopped text msg st ahead) (hle : ahead ≤ ahead') : Stopped text msg st ahead' := by
  unfold Stopped at h ⊢
  split at h
  · rename_i hend
    rwa [if_pos hend]
  · rename_i hend
    obtain ⟨rest, hat, hclosed, hlength⟩ := h
    rw [if_neg hend]
    exact ⟨rest, hat, hclosed, Nat.le_trans hlength hle⟩

private theorem versionData_closed (hholds : Holds flash base text) (scan : VersionScan)
    (st : ParserState) {fuel : Nat} {msg : UInt8} {rest : List UInt8}
    (hclosed : Closed (msg :: rest)) (hfuel : rest.length < fuel)
    (hat : At text st.dataPtr rest) :
    ∃ msg' state scan' st', versionData flash base fuel msg scan st =
        some (msg', state, scan', st') ∧ Scanned st st' ∧
      Stopped text msg' st' rest.length := by
  induction fuel generalizing scan st msg rest with
  | zero => omega
  | succ fuel ih =>
      rw [versionData]
      by_cases hend : msg = fileTerminationChar
      · obtain rfl := (hend ▸ hclosed).nil_of_end
        exact ⟨msg, .data, scan, st, by rw [if_neg (by simp [hend])], .refl st, by
          rwa [Stopped, if_pos hend]⟩
      have hstay : Stopped text msg st rest.length := by
        rw [Stopped, if_neg hend]
        exact ⟨rest, hat, hclosed.tail hend, Nat.le_refl _⟩
      by_cases hstart : msg = sectionStart
      · exact ⟨msg, .data, scan, st, by rw [if_neg (by simp [hstart])], .refl st, hstay⟩
      rw [if_pos ⟨hstart, hend⟩]
      by_cases hfull : fptScVersionSize ≤ scan.versionPtr
      · exact ⟨msg, .data, scan, st, by rw [if_pos hfull], .refl st, hstay⟩
      rw [if_neg hfull]
      by_cases hblank : msg ≠ newLine ∧ msg ≠ space
      · rw [if_pos hblank]
        obtain ⟨d, rest, rfl, hd⟩ := hclosed.next hend hblank.1
        by_cases hquirk : charToHex msg = newLine ∨ charToHex msg = space ∨
            charToHex msg = sectionStart
        · refine ⟨charToHex msg, .address, _, { st with addrFlag := true },
            by rw [if_pos hquirk], rfl, ?_⟩
          rw [Stopped, if_neg (charToHex_ne_end msg)]
          exact ⟨_, hat, hclosed.tail hend, Nat.le_refl _⟩
        · obtain ⟨st₁, hread, hmoved, hat₁⟩ := read_at st hholds hat
          have hclosed' := (hclosed.tail hend).tail hd
          obtain ⟨e, rest, rfl⟩ := List.exists_cons_of_ne_nil hclosed'.ne_nil
          obtain ⟨st₂, hread', hmoved', hat₂⟩ := read_at st₁ hholds hat₁
          rw [List.length_cons, List.length_cons] at hfuel
          obtain ⟨msg', state, scan', st', hrun, hscanned, hstopped⟩ :=
            ih ((scan.putHigh (charToHex msg)).putLow (charToHex d)) st₂ hclosed'
              (by omega : rest.length < fuel) hat₂
          refine ⟨msg', state, scan', st', ?_, hmoved.trans (hmoved'.trans hscanned),
            hstopped.mono (by simp; omega)⟩
          simp only [if_neg hquirk, hread, hread']
          exact hrun
      · rw [if_neg hblank]
        have hclosed' := hclosed.tail hend
        obtain ⟨e, rest, rfl⟩ := List.exists_cons_of_ne_nil hclosed'.ne_nil
        obtain ⟨st₁, hread, hmoved, hat₁⟩ := read_at st hholds hat
        rw [List.length_cons] at hfuel
        obtain ⟨msg', state, scan', st', hrun, hscanned, hstopped⟩ :=
          ih scan st₁ hclosed' (by omega : rest.length < fuel) hat₁
        refine ⟨msg', state, scan', st', ?_, hmoved.trans hscanned,
          hstopped.mono (by simp)⟩
        simp only [hread]
        exact hrun

/-- From anywhere in the text the scan ends behind the final `q`. -/
theorem versionStates_closed (hholds : Holds flash base text) (state : ParseStates)
    (scan : VersionScan) (st : ParserState) {fuel : Nat} {rest : List UInt8}
    (hclosed : Closed rest) (hfuel : rest.length < fuel) (hat : At text st.dataPtr rest) :
    ∃ scan' st', versionStates flash base fuel state scan st = some (scan', st') ∧
      Scanned st st' ∧ At text st'.dataPtr [] := by
  induction fuel generalizing state scan st rest with
  | zero => omega
  | succ fuel ih =>
      obtain ⟨msg, rest, rfl⟩ := List.exists_cons_of_ne_nil hclosed.ne_nil
      obtain ⟨st₁, hread, hmoved, hat₁⟩ := read_at st hholds hat
      rw [List.length_cons] at hfuel
      have hlt : rest.length < fuel := by omega
      cases state with
      | address =>
          rw [versionStates, hread]
          simp only
          split
          · rename_i hopen
            obtain ⟨-, -, hend⟩ := hopen
            have hbegun : Scanned st₁ { st₁ with addrFlag := false, parsedScFlashAddr := 0 } := rfl
            obtain ⟨st₂, rest', haddress, hmoved', hat₂, hclosed', hle⟩ :=
              parseAddress_closed hholds { st₁ with addrFlag := false, parsedScFlashAddr := 0 }
                hclosed hend hlt hat₁
            obtain ⟨scan', st', hrun, hscanned, hdone⟩ := ih .data
              (scan.atAddress st₂.parsedScFlashAddr) st₂ hclosed' (by omega) hat₂
            refine ⟨scan', st', ?_,
              hmoved.trans (hbegun.trans (hmoved'.trans hscanned)), hdone⟩
            rw [haddress]
            exact hrun
          · split
            · rename_i hstart
              have hclosed' := hclosed.tail (by rw [hstart]; decide)
              have hflagged : Scanned st₁ { st₁ with addrFlag := true } := rfl
              obtain ⟨scan', st', hrun, hscanned, hdone⟩ :=
                ih .address scan { st₁ with addrFlag := true } hclosed' hlt hat₁
              exact ⟨scan', st', hrun, hmoved.trans (hflagged.trans hscanned), hdone⟩
            · split
              · rename_i hend
                obtain rfl := (hend ▸ hclosed).nil_of_end
                exact ⟨scan, st₁, rfl, hmoved, hat₁⟩
              · rename_i hend
                obtain ⟨scan', st', hrun, hscanned, hdone⟩ :=
                  ih .data scan st₁ (hclosed.tail hend) hlt hat₁
                exact ⟨scan', st', hrun, hmoved.trans hscanned, hdone⟩
      | data =>
          obtain ⟨msg', state, scan₁, st₂, hdata, hmoved', hstopped⟩ :=
            versionData_closed hholds scan st₁ hclosed hlt hat₁
          rw [versionStates, hread]
          simp only [hdata, Option.bind_some]
          unfold Stopped at hstopped
          split
          · rename_i hstart
            rw [if_neg (by rw [hstart]; decide)] at hstopped
            obtain ⟨rest', hat₂, hclosed', hle⟩ := hstopped
            have hflagged : Scanned st₂ { st₂ with addrFlag := true } := rfl
            obtain ⟨scan', st', hrun, hscanned, hdone⟩ :=
              ih .address { scan₁ with versionFlag := false } { st₂ with addrFlag := true }
                hclosed' (by omega) hat₂
            exact ⟨scan', st', hrun,
              hmoved.trans (hmoved'.trans (hflagged.trans hscanned)), hdone⟩
          · split
            · rename_i hend
              rw [if_pos hend] at hstopped
              exact ⟨scan₁, st₂, rfl, hmoved.trans hmoved', hstopped⟩
            · rename_i hend
              rw [if_neg hend] at hstopped
              obtain ⟨rest', hat₂, hclosed', hle⟩ := hstopped
              obtain ⟨scan', st', hrun, hscanned, hdone⟩ :=
                ih state scan₁ st₂ hclosed' (by omega) hat₂
              exact ⟨scan', st', hrun, hmoved.trans (hmoved'.trans hscanned), hdone⟩

end Ends

end Vmr.Sc
