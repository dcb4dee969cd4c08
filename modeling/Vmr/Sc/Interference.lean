import Vmr.Sc.VersionQuery

/-!
# Queries during an update

`updateSystem` is a running update: `parse` is its next `parse_fpt_sc` call,
`query` a packaged-version query between two calls.  The scan of a query always
ends behind the final `q`, so whatever the update had parsed, it goes on from
`seam`.  Only where a section starts there and is next does that change nothing.
-/

namespace Vmr.Sc

open Vmr.Lib

/-! ## The text of an image is closed -/

private theorem not_mem_body (s : Section) {c : UInt8}
    (hc : c = sectionStart ∨ c = fileTerminationChar) : c ∉ s.body := by
  have haddress : c ∉ addressText s.digits := by
    intro hmem
    obtain ⟨digit, -, heq⟩ := List.mem_map.1 hmem
    obtain ⟨-, hstart, hend⟩ := lowerDigit_char digit.val digit.isLt
    rcases hc with rfl | rfl
    · exact hstart heq
    · exact hend heq
  have hdata : ∀ column, c ∉ dataText column s.data := by
    intro column
    induction s.data generalizing column with
    | nil => simp [dataText]
    | cons byte data ih =>
        have hlt := byte.toNat_lt
        obtain ⟨-, -, hstart, hend⟩ := upperDigit_char (byte.toNat / 16) (by omega)
        obtain ⟨-, -, hstart', hend'⟩ := upperDigit_char (byte.toNat % 16) (by omega)
        have hline : c ∉ lineEnd column data := by
          unfold lineEnd
          split
          · rcases hc with rfl | rfl <;> decide
          · simp
        simp only [dataText, byteText, List.mem_append, List.mem_cons, List.not_mem_nil,
          or_false, not_or]
        refine ⟨⟨⟨?_, ?_, ?_⟩, hline⟩, ih (column + 1)⟩
        · rcases hc with rfl | rfl
          · exact hstart.symm
          · exact hend.symm
        · rcases hc with rfl | rfl
          · exact hstart'.symm
          · exact hend'.symm
        · rcases hc with rfl | rfl <;> decide
  have hnewline : c ≠ newLine := by
    rcases hc with rfl | rfl <;> decide
  simp only [Section.body, List.mem_append, List.mem_cons, not_or]
  exact ⟨haddress, hnewline, hdata 0⟩

private theorem getLast_dataText (column : Nat) {data : List UInt8} (h : data ≠ []) :
    (dataText column data).getLast? = some newLine := by
  induction data generalizing column with
  | nil => exact absurd rfl h
  | cons byte data ih =>
      rw [dataText, List.getLast?_append]
      cases data with
      | nil => simp [dataText, lineEnd]
      | cons next data => rw [ih (column + 1) (by simp), Option.some_or]

private theorem tiTxt_closed (image : List Section) : Closed (tiTxt image) := by
  induction image with
  | nil => exact ⟨[], rfl, by simp, .inl rfl⟩
  | cons s image ih =>
      obtain ⟨body, heq, hnot, hlast⟩ := ih
      refine ⟨sectionStart :: (s.body ++ body), by simp [tiTxt, heq], ?_, .inr ?_⟩
      · simp only [List.mem_cons, List.mem_append, not_or]
        exact ⟨by decide, not_mem_body s (.inr rfl), hnot⟩
      · have hbody : s.body.getLast? = some newLine := by
          rw [Section.body, List.getLast?_append, List.getLast?_cons,
            getLast_dataText 0 s.data_ne]
          rfl
        rw [← List.cons_append, List.getLast?_append]
        rcases hlast with rfl | hlast
        · simp [List.getLast?_cons, hbody]
        · rw [hlast, Option.some_or]

private theorem tiTxt_start_start (image : List Section) (rest : List UInt8) :
    ¬ sectionStart :: sectionStart :: rest <:+ tiTxt image := by
  induction image with
  | nil =>
      intro h
      simpa [tiTxt] using h.length_le
  | cons s image ih =>
      intro h
      rcases List.suffix_cons_iff.1 h with heq | hsuffix
      · have hne : s.body ≠ [] := by simp [Section.body]
        obtain ⟨c, body, hbody⟩ := List.exists_cons_of_ne_nil hne
        rw [hbody] at heq
        obtain ⟨-, heq⟩ := List.cons.inj heq
        obtain ⟨hc, -⟩ := List.cons.inj heq
        exact not_mem_body s (.inl rfl) (by simp [hbody, hc])
      · rcases List.suffix_or_suffix_of_suffix hsuffix (List.suffix_append _ _) with h | h
        · exact ih h
        · obtain ⟨between, heq⟩ := h
          cases between with
          | nil => exact ih (heq ▸ List.suffix_rfl)
          | cons c between =>
              obtain ⟨rfl, -⟩ := List.cons.inj heq
              obtain ⟨before, hbefore⟩ := hsuffix
              rw [← heq, ← List.append_assoc] at hbefore
              have hbody := List.append_cancel_right hbefore
              exact not_mem_body s (.inl rfl) (by simp [← hbody])

/-! ## The running update -/

inductive UpdateAction where
  | parse | query
  deriving DecidableEq, Repr

structure RunningUpdate where
  image : ScImage
  packets : List (List UInt8)

section System

variable (flash : Flash) (fpt : EfptSc) (fuel : Nat)

def RunningUpdate.step (update : RunningUpdate) : UpdateAction → Option RunningUpdate
  | .parse =>
      if update.image.parser.allPktSent then
        none
      else
        (nextPacket flash update.image.fptScLoc.text fuel update.image.parser).map fun st =>
          { image := { update.image with parser := st }
            packets := update.packets ++ [st.packet] }
  | .query =>
      (getFptScVersion flash fpt fuel update.image).map fun (_, _, image) =>
        { update with image }

/-- An update that starts from `image`; every query finds the same partition. -/
def updateSystem (image : ScImage) : TransitionSystem RunningUpdate UpdateAction where
  init update :=
    flash image.fptScLoc.text = sectionStart ∧
      update = { image := { image with parser := image.parser.rewind }, packets := [] }
  step update action update' := update.step flash fpt fuel action = some update'

/-- The offset in the text at which a scan of `sections` leaves `data_ptr`. -/
def seam (sections : List Section) : UInt32 :=
  UInt32.ofNat (tiTxt sections).length - (fpt.size - scVerAddrWChksum)

/--
A query disturbs nothing when all packets are framed, or when a section starts
at the seam and is what the update parses next.
-/
def Undisturbed (sections : List Section) (update : RunningUpdate) : UpdateAction → Prop
  | .parse => True
  | .query =>
      let st := update.image.parser
      st.allPktSent = true ∨
        flash (fpt.text + seam fpt sections) = sectionStart ∧
          (st.dataPtr = seam fpt sections ∨
            st.addrFlag = true ∧ st.dataPtr = seam fpt sections + 1)

instance (sections : List Section) (update : RunningUpdate) (action : UpdateAction) :
    Decidable (Undisturbed flash fpt sections update action) := by
  cases action <;> simp only [Undisturbed] <;> infer_instance

end System

/-- The partition: header and text, with a size that lets a scan start inside the text. -/
structure Stored (flash : Flash) (fpt : EfptSc) (sections : List Section) (offset : Nat) :
    Prop where
  header : Holds flash fpt.startAddress scHeaderMsg
  text : Holds flash fpt.text (tiTxt sections)
  fits : (tiTxt sections).length + 1 < 2 ^ 32
  offset_eq : fpt.size - scVerAddrWChksum = UInt32.ofNat offset
  offset_lt : offset < (tiTxt sections).length

section Runs

variable {flash : Flash} {fpt : EfptSc} {sections : List Section} {offset fuel : Nat}

theorem Holds.drop {base : UInt32} {text : List UInt8} (h : Holds flash base text)
    (count : Nat) : Holds flash (base + UInt32.ofNat count) (text.drop count) := by
  intro index hindex
  rw [List.length_drop] at hindex
  rw [UInt32.add_assoc, ← UInt32.ofNat_add, h (count + index) (by omega), List.getElem_drop]

private theorem Stored.seam_eq (h : Stored flash fpt sections offset) :
    seam fpt sections = UInt32.ofNat ((tiTxt sections).length - offset) := by
  rw [seam, h.offset_eq, UInt32.ofNat_sub (Nat.le_of_lt h.offset_lt)]

private theorem Stored.check (h : Stored flash fpt sections offset) :
    checkReceivedScHeader (((List.range 16).map fun index =>
      flash (fpt.startAddress + UInt32.ofNat index)).take 11) scHeaderMsg = 0 := by
  have hread : ((List.range 16).map fun index =>
      flash (fpt.startAddress + UInt32.ofNat index)).take 11 = scHeaderMsg := by
    apply List.ext_getElem
    · rfl
    · intro index _ hindex
      rw [List.getElem_take, List.getElem_map, List.getElem_range, h.header index hindex]
  rw [hread]
  rfl

private theorem getFptScVersion_seam (h : Stored flash fpt sections offset)
    (hfuel : (tiTxt sections).length < fuel) (image : ScImage) :
    ∃ version image', getFptScVersion flash fpt fuel image = some (true, version, image') ∧
      image'.fptScLoc = fpt ∧ Scanned image.parser image'.parser ∧
      image'.parser.dataPtr = seam fpt sections := by
  have hbase : fpt.startAddress + scTotHeaderSize + fpt.size - scVerAddrWChksum =
      fpt.text + UInt32.ofNat offset := by
    rw [← h.offset_eq, EfptSc.text]
    grind
  have hne : (tiTxt sections).drop offset ≠ [] := by
    have hlt := h.offset_lt
    simp only [ne_eq, List.drop_eq_nil_iff]
    omega
  have hclosed := (tiTxt_closed sections).suffix (List.drop_suffix offset _) hne
  obtain ⟨scan, st, hrun, hscanned, hdone⟩ := versionStates_closed (h.text.drop offset)
    .address { versionPtr := 0, versionFlag := false, versionBuff := fun _ => 0 }
    { image.parser with dataPtr := 0 } hclosed
    (by rw [List.length_drop]; omega : _ < fuel) At.start
  have hreset : Scanned image.parser { image.parser with dataPtr := 0 } := rfl
  refine ⟨scan.versionBuff, { parser := st, fptScLoc := fpt, fptScValid := true }, ?_, rfl,
    hreset.trans hscanned, ?_⟩
  · rw [getFptScVersion]
    simp only
    rw [if_pos h.check, parseFptScVersion, hbase, hrun]
    rfl
  · rw [h.seam_eq]
    have hptr := hdone.2
    rwa [List.length_nil, Nat.sub_zero, List.length_drop] at hptr

theorem Stored.back (h : Stored flash fpt sections offset) {rest : List UInt8}
    (hat : At (tiTxt sections) (seam fpt sections + 1) rest)
    (hstart : flash (fpt.text + seam fpt sections) = sectionStart) :
    At (tiTxt sections) (seam fpt sections) (sectionStart :: rest) := by
  have hfits := h.fits
  have hoffset := h.offset_lt
  rw [h.seam_eq] at hat hstart ⊢
  obtain ⟨hsuffix, hptr⟩ := hat
  have hle := hsuffix.length_le
  have hlength : rest.length + 1 = offset := by
    have hnat := congrArg UInt32.toNat hptr
    rw [UInt32.toNat_add] at hnat
    simp only [UInt32.toNat_ofNat', UInt32.toNat_one] at hnat
    omega
  obtain ⟨before, heq⟩ := hsuffix
  have hbefore : before.length = (tiTxt sections).length - offset + 1 := by
    have htotal := congrArg List.length heq
    rw [List.length_append] at htotal
    omega
  obtain ⟨before, c, rfl⟩ := List.eq_nil_or_concat before |>.resolve_left (by
    rintro rfl
    simp at hbefore)
  rw [List.concat_eq_append, List.append_assoc, List.singleton_append] at heq
  simp only [List.length_concat, Nat.add_right_cancel_iff] at hbefore
  have hc : c = sectionStart := by
    have hread := h.text before.length (by rw [← heq]; simp)
    rw [← hbefore] at hstart
    rw [hstart] at hread
    simp only [← heq] at hread
    simpa using hread.symm
  subst hc
  exact ⟨⟨before, heq⟩, by rw [List.length_cons, hlength]⟩

private theorem Position.atSeam (h : Stored flash fpt sections offset) {st st' : ParserState}
    {address : UInt32} {data : List UInt8} {rest : List Section}
    (hpos : Position (tiTxt sections) st address data rest)
    (hstart : flash (fpt.text + seam fpt sections) = sectionStart)
    (hptr : st.dataPtr = seam fpt sections ∨
      st.addrFlag = true ∧ st.dataPtr = seam fpt sections + 1)
    (hscanned : Scanned st st') (hptr' : st'.dataPtr = seam fpt sections) :
    Position (tiTxt sections) st' address data rest := by
  have hsent : st'.allPktSent = false := by
    rw [hscanned]
    exact hpos.notSent
  cases hpos with
  | ahead _ hat =>
      rcases hptr with hptr | ⟨-, hptr⟩
      · rw [hptr] at hat
        exact .ahead hsent (hptr' ▸ hat)
      · rw [hptr] at hat
        exact absurd (h.back hat hstart).1 (tiTxt_start_start sections _)
  | @opened s _ _ _ hat =>
      rcases hptr with hptr | ⟨-, hptr⟩
      · have hne : s.body ≠ [] := by simp [Section.body]
        obtain ⟨c, body, hbody⟩ := List.exists_cons_of_ne_nil hne
        rw [hptr, hbody] at hat
        have hc := (hat.read h.text).1
        exact absurd (by simp [hbody, ← hc, hstart]) (not_mem_body s (.inl rfl))
      · rw [hptr] at hat
        exact .ahead hsent (hptr' ▸ h.back hat hstart)
  | cut hflag _ _ _ hat =>
      rcases hptr with hptr | ⟨hflag', -⟩
      · rw [hptr] at hat
        have hc := (hat.read h.text).1
        rw [hstart] at hc
        exact absurd hc (by decide)
      · rw [hflag] at hflag'
        cases hflag'

structure Along (fpt : EfptSc) (sections : List Section) (update : RunningUpdate) : Prop where
  loc : update.image.fptScLoc = fpt
  packets :
    (update.image.parser.allPktSent = true ∧
      update.packets = bslPackets (imageWrites sections)) ∨
    ∃ address data rest, Position (tiTxt sections) update.image.parser address data rest ∧
      update.packets ++ bslPackets (sectionWrites address data ++ imageWrites rest) =
        bslPackets (imageWrites sections)

private theorem Frames.along {st : ParserState} {address : UInt32} {data : List UInt8}
    {rest : List Section} (h : Frames (tiTxt sections) st address data rest)
    {update : RunningUpdate} (hparser : update.image.parser = st)
    (hloc : update.image.fptScLoc = fpt) {before : List (List UInt8)}
    (hpackets : update.packets = before ++ [st.packet])
    (hleft : before ++ bslPackets (sectionWrites address data ++ imageWrites rest) =
      bslPackets (imageWrites sections)) : Along fpt sections update := by
  refine ⟨hloc, ?_⟩
  unfold Frames at h
  rw [sectionWrites] at hleft
  rw [hparser, hpackets]
  split at h
  · rename_i hshort
    obtain ⟨hpacket, hfinished⟩ := h
    rw [if_pos hshort] at hleft
    cases rest with
    | nil =>
        refine .inl ⟨hfinished, ?_⟩
        simpa [hpacket, bslPackets, imageWrites] using hleft
    | cons s rest =>
        refine .inr ⟨_, _, rest, hfinished, ?_⟩
        simpa [hpacket, bslPackets, imageWrites] using hleft
  · rename_i hlong
    obtain ⟨hpacket, hposition⟩ := h
    rw [if_neg hlong] at hleft
    refine .inr ⟨_, _, rest, hposition, ?_⟩
    simpa [hpacket, bslPackets] using hleft

/-- As long as packets are left, the next `parse_fpt_sc` call returns. -/
theorem Along.parse (h : Stored flash fpt sections offset)
    (hfuel : (tiTxt sections).length + 2 ≤ fuel) {update : RunningUpdate}
    (halong : Along fpt sections update) (hsent : update.image.parser.allPktSent = false) :
    ∃ update', update.step flash fpt fuel .parse = some update' ∧
      Along fpt sections update' := by
  obtain ⟨hloc, ⟨hdone, -⟩ | ⟨address, data, rest, hposition, hleft⟩⟩ := halong
  · rw [hsent] at hdone
    cases hdone
  · obtain ⟨st, hrun, hframes⟩ := nextPacket_position h.text hposition hfuel
    let update' : RunningUpdate :=
      { image := { update.image with parser := st }, packets := update.packets ++ [st.packet] }
    refine ⟨update', ?_, hframes.along rfl hloc rfl hleft⟩
    rw [RunningUpdate.step, if_neg (by simp [hsent]), hloc, hrun]
    rfl

theorem Along.query (h : Stored flash fpt sections offset)
    (hfuel : (tiTxt sections).length + 2 ≤ fuel) {update update' : RunningUpdate}
    (halong : Along fpt sections update) (hallowed : Undisturbed flash fpt sections update .query)
    (hstep : update.step flash fpt fuel .query = some update') : Along fpt sections update' := by
  obtain ⟨version, image, hquery, hloc, hscanned, hptr⟩ :=
    getFptScVersion_seam h (by omega : _ < fuel) update.image
  rw [RunningUpdate.step, hquery, Option.map_some, Option.some.injEq] at hstep
  subst hstep
  refine ⟨hloc, ?_⟩
  rcases halong.packets with ⟨hdone, hpackets⟩ | ⟨address, data, rest, hposition, hleft⟩
  · refine .inl ⟨?_, hpackets⟩
    rw [hscanned]
    exact hdone
  · rcases hallowed with hdone | ⟨hstart, hstands⟩
    · rw [hposition.notSent] at hdone
      cases hdone
    · exact .inr ⟨address, data, rest, hposition.atSeam h hstart hstands hscanned hptr, hleft⟩

private theorem along_invariant (h : Stored flash fpt sections offset)
    (hfuel : (tiTxt sections).length + 2 ≤ fuel) {image : ScImage}
    (hloc : image.fptScLoc = fpt) :
    ((updateSystem flash fpt fuel image).restrict
      (Undisturbed flash fpt sections)).Invariant (Along fpt sections) where
  init := by
    rintro update ⟨hstart, rfl⟩
    refine ⟨hloc, ?_⟩
    cases sections with
    | nil =>
        have hat : At (tiTxt []) 0 [fileTerminationChar] := At.start
        have hfirst := (hat.read h.text).1
        rw [hloc] at hstart
        simp only [UInt32.add_zero, hstart] at hfirst
        exact absurd hfirst (by decide)
    | cons s rest => exact .inr ⟨_, _, rest, .ahead rfl At.start, rfl⟩
  step := by
    rintro update action update' halong ⟨hallowed, hstep⟩
    cases action with
    | parse =>
        by_cases hsent : update.image.parser.allPktSent = true
        · simp [updateSystem, RunningUpdate.step, hsent] at hstep
        · obtain ⟨next, hnext, hnext'⟩ := halong.parse h hfuel (by simpa using hsent)
          have hstep' : update.step flash fpt fuel .parse = some update' := hstep
          rw [hnext, Option.some.injEq] at hstep'
          exact hstep' ▸ hnext'
    | query => exact halong.query h hfuel hallowed hstep

/--
In every run whose queries all come when they disturb nothing, the packets are
those of the update without queries: so far, and all of them once it is done,
and until then the next packet is framed.
-/
theorem packets_undisturbed (h : Stored flash fpt sections offset)
    (hfuel : (tiTxt sections).length + 2 ≤ fuel) {image : ScImage}
    (hloc : image.fptScLoc = fpt) {update : RunningUpdate}
    (hreach : ((updateSystem flash fpt fuel image).restrict
      (Undisturbed flash fpt sections)).Reachable update) :
    ∃ packets, scPackets flash fpt.text fuel image.parser = some packets ∧
      update.packets <+: packets ∧
      (update.image.parser.allPktSent = true → update.packets = packets) ∧
      (update.image.parser.allPktSent = false →
        ∃ update', (updateSystem flash fpt fuel image).step update .parse update') := by
  have halong := hreach.invariant (along_invariant h hfuel hloc)
  refine ⟨_, scPackets_tiTxt h.text hfuel image.parser, ?_, ?_, ?_⟩
  · rcases halong.packets with ⟨-, hpackets⟩ | ⟨_, _, _, -, hleft⟩
    · exact hpackets ▸ List.prefix_rfl
    · exact ⟨_, hleft⟩
  · intro hsent
    rcases halong.packets with ⟨-, hpackets⟩ | ⟨_, _, _, hposition, -⟩
    · exact hpackets
    · rw [hposition.notSent] at hsent
      cases hsent
  · intro hsent
    obtain ⟨update', hstep, -⟩ := halong.parse h hfuel hsent
    exact ⟨update', hstep⟩

end Runs

/-! ## Two partitions -/

def partitionFlash (sections : List Section) : Flash :=
  ofText 0 (scHeaderMsg ++ List.replicate 5 0 ++ tiTxt sections)

def partitionFpt (offset : Nat) : EfptSc :=
  { startAddress := 0, size := UInt32.ofNat offset + scVerAddrWChksum }

private theorem partition_stored {sections : List Section} {offset : Nat}
    (hoffset : offset < (tiTxt sections).length)
    (hfits : (tiTxt sections).length + 17 < 2 ^ 32) :
    Stored (partitionFlash sections) (partitionFpt offset) sections offset where
  header := by
    intro index hindex
    have hholds := holds_ofText 0 (scHeaderMsg ++ List.replicate 5 0 ++ tiTxt sections)
      (by simp [scHeaderMsg]; omega) index
      (by rw [List.append_assoc, List.length_append]; omega)
    rw [partitionFlash, partitionFpt, hholds]
    simp [List.append_assoc, List.getElem_append_left hindex]
  text := by
    have hholds := (holds_ofText 0 (scHeaderMsg ++ List.replicate 5 0 ++ tiTxt sections)
      (by simp [scHeaderMsg]; omega)).drop 16
    rwa [List.drop_left' (by rfl)] at hholds
  fits := by omega
  offset_eq := UInt32.add_sub_cancel ..
  offset_lt := hoffset

section Partition

variable (sections : List Section) (offset : Nat)

def bootImage : ScImage :=
  { parser := bootParser, fptScLoc := partitionFpt offset, fptScValid := true }

def freshUpdate : RunningUpdate :=
  { image := { bootImage offset with parser := bootParser.rewind }, packets := [] }

def partitionSystem : TransitionSystem RunningUpdate UpdateAction :=
  updateSystem (partitionFlash sections) (partitionFpt offset) ((tiTxt sections).length + 2)
    (bootImage offset)

def partitionStep (update : RunningUpdate) (action : UpdateAction) : Option RunningUpdate :=
  update.step (partitionFlash sections) (partitionFpt offset) ((tiTxt sections).length + 2)
    action

/-- A step that is taken only where the condition allows it. -/
def carefulStep (update : RunningUpdate) (action : UpdateAction) : Option RunningUpdate :=
  if Undisturbed (partitionFlash sections) (partitionFpt offset) sections update action then
    partitionStep sections offset update action
  else none

private theorem carefulStep_step {update update' : RunningUpdate} {action : UpdateAction}
    (h : carefulStep sections offset update action = some update') :
    ((partitionSystem sections offset).restrict (Undisturbed (partitionFlash sections)
      (partitionFpt offset) sections)).step update action update' := by
  unfold carefulStep at h
  split at h
  · exact ⟨by assumption, h⟩
  · cases h

def summary (update : RunningUpdate) : Bool × List Nat :=
  (update.image.parser.allPktSent, update.packets.map List.length)

end Partition

/-- Two sections of two bytes; the second is 12 bytes of text with the `q`. -/
def seamSections : List Section :=
  [.ofBytes (hexDigit 1) [hexDigit 0] 0x07 [0x07],
   .ofBytes (hexDigit 2) [hexDigit 0] 0x38 [0x11]]

/-- With a scan from offset 12 on, the second section starts at the seam. -/
theorem packets_undisturbed_seam :
    ∃ update, (partitionSystem seamSections 12).Reachable update ∧
      (summary update).1 = true ∧
      scPackets (partitionFlash seamSections) (partitionFpt 12).text
        ((tiTxt seamSections).length + 2) bootParser = some update.packets := by
  have hrun : (TransitionSystem.runLabels (carefulStep seamSections 12)
      [.parse, .query, .parse] (freshUpdate 12)).map summary = some (true, [12, 12]) := by
    decide +kernel
  obtain ⟨update, hrun, hsummary⟩ := Option.map_eq_some_iff.1 hrun
  have hreach : ((partitionSystem seamSections 12).restrict
      (Undisturbed (partitionFlash seamSections) (partitionFpt 12) seamSections)).Reachable
        update :=
    .runLabels (fun _ _ _ _ hstep => ⟨carefulStep_step seamSections 12 hstep, trivial⟩)
      (.init ⟨by decide +kernel, rfl⟩) trivial hrun
  obtain ⟨packets, hpackets, -, hdone, -⟩ := packets_undisturbed
    (partition_stored (by decide +kernel) (by decide +kernel)) (Nat.le_refl _)
    (rfl : (bootImage 12).fptScLoc = partitionFpt 12) hreach
  have hsent : update.image.parser.allPktSent = true := congrArg Prod.fst hsummary
  exact ⟨update, hreach.of_restrict, hsent, hdone hsent ▸ hpackets⟩

/-- A section of one byte and one of 130; the text is `0x195 + 8` bytes long. -/
def earlySections : List Section :=
  [.ofBytes (hexDigit 1) [hexDigit 0] 0x07 [],
   .ofBytes (hexDigit 2) [hexDigit 0, hexDigit 0] 0x11 (List.replicate 129 0x11)]

/--
The size of the partition is that of the text.  A query after the first packet
costs the second section all but its last line.
-/
theorem query_disturbs :
    (partitionFpt 8).size = UInt32.ofNat (tiTxt earlySections).length ∧
    ∃ update, (partitionSystem earlySections 8).Reachable update ∧
      (summary update).1 = true ∧
      scPackets (partitionFlash earlySections) (partitionFpt 8).text
        ((tiTxt earlySections).length + 2) bootParser ≠ some update.packets := by
  have hrun : (TransitionSystem.runLabels (partitionStep earlySections 8)
      [.parse, .query, .parse] (freshUpdate 8)).map summary = some (true, [11, 12]) := by
    decide +kernel
  obtain ⟨update, hrun, hsummary⟩ := Option.map_eq_some_iff.1 hrun
  have hreach : (partitionSystem earlySections 8).Reachable update :=
    .runLabels (fun _ _ _ _ hstep => ⟨hstep, trivial⟩) (.init ⟨by decide +kernel, rfl⟩)
      trivial hrun
  refine ⟨by decide +kernel, update, hreach, congrArg Prod.fst hsummary, fun heq => ?_⟩
  have hstored : Stored _ (partitionFpt 8) earlySections 8 :=
    partition_stored (by decide +kernel) (by decide +kernel)
  rw [scPackets_tiTxt hstored.text (Nat.le_refl _), Option.some.injEq] at heq
  have hlengths := congrArg Prod.snd hsummary
  simp only [summary, ← heq] at hlengths
  revert hlengths
  decide +kernel

end Vmr.Sc
