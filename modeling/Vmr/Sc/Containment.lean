import Mathlib.Data.List.GetD
import Vmr.Sc.ParsePlace
import Vmr.Sc.Update

/-!
# What the parsers read of the flash

A run is contained in the partition if it returns, and returns the same whatever
the memory outside of the partition holds.  Both parsers are contained exactly
when the leftovers of `parsePlace` and `versionPlace` say that they meet their
last byte inside.  The other direction needs three bytes outside: a text that is
over too early is continued there in two ways, and the two runs end at different
bytes.
-/

namespace Vmr.Sc

open Vmr.Lib

/-- Inside `[scfw_offset, scfw_offset + SC_TOT_HEADER_SIZE + scfw_size)`. -/
def EfptSc.Inside (fpt : EfptSc) (addr : UInt32) : Prop :=
  (addr - fpt.startAddress).toNat < scTotHeaderSize.toNat + fpt.size.toNat

def EfptSc.SamePartition (fpt : EfptSc) (flash flash' : Flash) : Prop :=
  ∀ addr, fpt.Inside addr → flash' addr = flash addr

/-- `run` returns, and the memory outside of the partition has no part in it. -/
def Contained {α : Type} (fpt : EfptSc) (flash : Flash) (run : Flash → Nat → Option α) : Prop :=
  ∃ enough result, ∀ fuel ≥ enough, ∀ flash', fpt.SamePartition flash flash' →
    run flash' fuel = some result

def parseImage (flash : Flash) (fpt : EfptSc) (fuel : Nat) (st : ParserState) :
    Option ParserState :=
  let maxDataSlot := fpt.size / 100 + fpt.size % 100
  let st := { st with
    dataPtr := 0, allPktSent := false, progress := { st.progress with maxDataSlot } }
  if flash fpt.text ≠ sectionStart then
    some st
  else
    parseCalls flash fpt.text fuel fuel { st with addrFlag := true }

/-- Both parsers, from whatever the statics hold. -/
structure ImageContained (fpt : EfptSc) (flash : Flash) (sc : ScImage) : Prop where
  update : Contained fpt flash fun flash fuel => parseImage flash fpt fuel sc.parser
  version : Contained fpt flash fun flash fuel => getFptScVersion flash fpt fuel sc

def bytesAt (flash : Flash) (base : UInt32) (count : Nat) : List UInt8 :=
  (List.range count).map fun index => flash (base + UInt32.ofNat index)

def EfptSc.image (fpt : EfptSc) (flash : Flash) : List UInt8 :=
  bytesAt flash fpt.text fpt.size.toNat

def EfptSc.versionText (fpt : EfptSc) : UInt32 :=
  fpt.startAddress + scTotHeaderSize + fpt.size - scVerAddrWChksum

def EfptSc.HasHeader (fpt : EfptSc) (flash : Flash) : Prop :=
  checkReceivedScHeader ((bytesAt flash fpt.startAddress 16).take 11) scHeaderMsg = 0

/-- The last byte of either parser is one of the image. -/
structure ImageEnds (fpt : EfptSc) (flash : Flash) (addrFlag : Bool) : Prop where
  size_pos : 0 < fpt.size.toNat
  update : flash fpt.text = sectionStart →
    leftover parsePlace (.atAddress true) (fpt.image flash) ≠ none
  long : fpt.HasHeader flash → 405 ≤ scTotHeaderSize.toNat + fpt.size.toNat
  version : fpt.HasHeader flash →
    leftover versionPlace (.atAddress addrFlag) (bytesAt flash fpt.versionText 405) ≠ none

/-! ## Memory around the partition -/

section Memory

variable {fpt : EfptSc} {flash flash' : Flash}

@[simp] theorem length_bytesAt (base : UInt32) (count : Nat) :
    (bytesAt flash base count).length = count := by
  simp [bytesAt]

private theorem bytesAt_getD (base addr : UInt32) (count : Nat) (h : (addr - base).toNat < count)
    (byte : UInt8) : (bytesAt flash base count).getD (addr - base).toNat byte = flash addr := by
  have hget : (bytesAt flash base count)[(addr - base).toNat]? =
      some (flash (base + UInt32.ofNat (addr - base).toNat)) := by
    simp [bytesAt, h]
  rw [List.getD_eq_getElem?_getD, hget, UInt32.ofNat_toNat, UInt32.add_comm,
    UInt32.sub_add_cancel, Option.getD_some]

private theorem bytesAt_succ (flash : Flash) (base : UInt32) (count : Nat) :
    bytesAt flash base (count + 1) = flash base ::
      (List.range count).map fun index => flash (base + UInt32.ofNat (index + 1)) := by
  rw [bytesAt, List.range_succ_eq_map, List.map_cons, List.map_map]
  simp [Function.comp_def]

theorem EfptSc.SamePartition.trans {flash'' : Flash} (h : fpt.SamePartition flash flash')
    (h' : fpt.SamePartition flash' flash'') : fpt.SamePartition flash flash'' :=
  fun addr hin => (h' addr hin).trans (h addr hin)

private theorem holds_bytesAt {base : UInt32} {count : Nat}
    (hin : ∀ index < count, fpt.Inside (base + UInt32.ofNat index))
    (hsame : fpt.SamePartition flash flash') :
    Holds flash' base (bytesAt flash base count) := by
  intro index hindex
  rw [length_bytesAt] at hindex
  rw [hsame _ (hin index hindex)]
  simp [bytesAt]

private theorem samePartition_overlay {base : UInt32} {count : Nat} {more : List UInt8}
    (hin : ∀ addr, fpt.Inside addr →
      (addr - base).toNat < count ∨ count + more.length ≤ (addr - base).toNat) :
    fpt.SamePartition flash (overlay flash base (bytesAt flash base count ++ more)) := by
  intro addr haddr
  rw [overlay]
  rcases hin addr haddr with hbefore | hbehind
  · rw [List.getD_append _ _ _ _ (by simpa using hbefore), bytesAt_getD base addr count hbefore]
  · rw [List.getD_eq_default _ _ (by simpa using hbehind)]

/-- A contained run returns one thing. -/
theorem Contained.agree {α : Type} {run : Flash → Nat → Option α}
    (h : Contained fpt flash run) {flash₁ flash₂ : Flash} {enough₁ enough₂ : Nat}
    {result₁ result₂ : α} (hsame₁ : fpt.SamePartition flash flash₁)
    (hrun₁ : ∀ fuel ≥ enough₁, run flash₁ fuel = some result₁)
    (hsame₂ : fpt.SamePartition flash flash₂)
    (hrun₂ : ∀ fuel ≥ enough₂, run flash₂ fuel = some result₂) : result₁ = result₂ := by
  obtain ⟨enough, result, hrun⟩ := h
  let fuel := enough + enough₁ + enough₂
  have h₁ := hrun₁ fuel (by omega)
  rw [hrun fuel (by omega) flash₁ hsame₁] at h₁
  have h₂ := hrun₂ fuel (by omega)
  rw [hrun fuel (by omega) flash₂ hsame₂] at h₂
  exact (Option.some.inj h₁).symm.trans (Option.some.inj h₂)

/-! ## The update -/

private theorem inside_text {index : Nat} (hroom : 16 + fpt.size.toNat ≤ 2 ^ 32)
    (h : index < fpt.size.toNat) : fpt.Inside (fpt.text + UInt32.ofNat index) := by
  have hoffset : fpt.text + UInt32.ofNat index - fpt.startAddress =
      scTotHeaderSize + UInt32.ofNat index := by
    rw [EfptSc.text]
    grind
  have hheader : scTotHeaderSize.toNat = 16 := rfl
  rw [EfptSc.Inside, hoffset, UInt32.toNat_add, UInt32.toNat_ofNat_of_lt' (by rw [UInt32.size]; omega),
    hheader, Nat.mod_eq_of_lt (by omega)]
  omega

private theorem outside_text {addr : UInt32} (h : fpt.Inside addr) :
    (addr - fpt.text).toNat < fpt.size.toNat ∨ 2 ^ 32 - 16 ≤ (addr - fpt.text).toNat := by
  have hoffset : addr - fpt.startAddress = addr - fpt.text + scTotHeaderSize := by
    rw [EfptSc.text]
    grind
  have hheader : scTotHeaderSize.toNat = 16 := rfl
  have hlt := (addr - fpt.text).toNat_lt
  rw [EfptSc.Inside, hoffset, UInt32.toNat_add, hheader] at h
  omega

private theorem samePartition_image (hroom : 16 + fpt.size.toNat + 3 ≤ 2 ^ 32) {more : List UInt8}
    (hmore : more.length ≤ 3) :
    fpt.SamePartition flash (overlay flash fpt.text (fpt.image flash ++ more)) :=
  samePartition_overlay fun addr hin => by
    rcases outside_text hin with hbefore | hbehind
    · exact .inl hbefore
    · exact .inr (by omega)

variable (fpt) in
private theorem parseImage_leftover {text left : List UInt8} (st : ParserState)
    (hstart : text.head? = some sectionStart)
    (hleft : leftover parsePlace (.atAddress true) text = some left) :
    ∃ st', st'.dataPtr = UInt32.ofNat (text.length - left.length) ∧
      ∀ flash, Holds flash fpt.text text → ∀ fuel ≥ text.length + 1,
        parseImage flash fpt fuel st = some st' := by
  let rewound := { st with
    dataPtr := 0, allPktSent := false, addrFlag := true,
    progress := { st.progress with maxDataSlot := fpt.size / 100 + fpt.size % 100 } }
  obtain ⟨st', ⟨-, hptr⟩, hrun⟩ :=
    parseCalls_leftover fpt.text text rewound .start rfl hleft
  refine ⟨st', hptr, fun flash hholds fuel hfuel => ?_⟩
  have hfirst : flash fpt.text = sectionStart := by
    obtain ⟨rest, rfl⟩ := List.head?_eq_some_iff.1 hstart
    have hbyte := hholds 0 (by simp)
    rw [List.getElem_cons_zero] at hbyte
    simpa using hbyte
  simp only [parseImage, ne_eq, hfirst, not_true_eq_false, if_false]
  exact hrun flash hholds fuel (by omega) fuel (by omega)

private theorem contained_parseImage (hroom : 16 + fpt.size.toNat ≤ 2 ^ 32) (st : ParserState)
    (hsize : 0 < fpt.size.toNat)
    (hends : flash fpt.text = sectionStart →
      leftover parsePlace (.atAddress true) (fpt.image flash) ≠ none) :
    Contained fpt flash fun flash fuel => parseImage flash fpt fuel st := by
  by_cases hstart : flash fpt.text = sectionStart
  · obtain ⟨left, hleft⟩ := Option.ne_none_iff_exists'.1 (hends hstart)
    have hhead : (fpt.image flash).head? = some sectionStart := by
      simp [EfptSc.image, bytesAt, List.head?_range, hsize.ne', hstart]
    obtain ⟨st', -, hrun⟩ := parseImage_leftover fpt st hhead hleft
    exact ⟨_, st', fun fuel hfuel flash' hsame =>
      hrun flash' (holds_bytesAt (fun index hindex => inside_text hroom hindex) hsame) fuel hfuel⟩
  · refine ⟨0, { st with
      dataPtr := 0, allPktSent := false,
      progress := { st.progress with maxDataSlot := fpt.size / 100 + fpt.size % 100 } },
      fun fuel _ flash' hsame => ?_⟩
    have hfirst : flash' fpt.text = flash fpt.text := by
      simpa using hsame _ (inside_text hroom hsize)
    simp only [parseImage, hfirst, ne_eq, hstart, not_false_eq_true, if_true]

private theorem ofNat_succ_ne (count : Nat) : UInt32.ofNat (count + 1) ≠ UInt32.ofNat count := by
  intro h
  rw [UInt32.ofNat_add] at h
  grind

private theorem size_pos_of_contained (hroom : 16 + fpt.size.toNat + 3 ≤ 2 ^ 32) (st : ParserState)
    (h : Contained fpt flash fun flash fuel => parseImage flash fpt fuel st) :
    0 < fpt.size.toNat := by
  by_contra hsize
  have himage : fpt.image flash = [] := by
    simp [EfptSc.image, bytesAt, Nat.eq_zero_of_not_pos hsize]
  let texts (more : List UInt8) : Flash := overlay flash fpt.text (fpt.image flash ++ more)
  have hholds (more : List UInt8) (hmore : more.length ≤ 3) :
      Holds (texts more) fpt.text more := by
    simp only [texts, himage, List.nil_append]
    exact holds_overlay flash fpt.text more (by omega)
  have hends : leftover parsePlace (.atAddress true) [sectionStart, fileTerminationChar] =
      some [] := by decide
  have hends' : leftover parsePlace (.atAddress true)
      [sectionStart, newLine, fileTerminationChar] = some [] := by decide
  obtain ⟨st₁, hptr₁, hrun₁⟩ := parseImage_leftover fpt st rfl hends
  obtain ⟨st₂, hptr₂, hrun₂⟩ := parseImage_leftover fpt st rfl hends'
  have heq := h.agree (samePartition_image hroom (by simp))
    (hrun₁ (texts _) (hholds _ (by simp))) (samePartition_image hroom (by simp))
    (hrun₂ (texts _) (hholds _ (by simp)))
  rw [heq, hptr₂] at hptr₁
  exact ofNat_succ_ne 2 hptr₁

private theorem ends_of_contained (hroom : 16 + fpt.size.toNat + 3 ≤ 2 ^ 32) (st : ParserState)
    (hsize : 0 < fpt.size.toNat)
    (h : Contained fpt flash fun flash fuel => parseImage flash fpt fuel st)
    (hstart : flash fpt.text = sectionStart) :
    leftover parsePlace (.atAddress true) (fpt.image flash) ≠ none := by
  intro hleft
  obtain ⟨place, hmore⟩ := exists_leftover_append hleft
  obtain ⟨hstop, hstop'⟩ := parsePlace_stops place
  rw [← hmore] at hstop hstop'
  have hhead (more : List UInt8) :
      (fpt.image flash ++ more).head? = some sectionStart := by
    simp [EfptSc.image, bytesAt, List.head?_range, hsize.ne', hstart]
  have hlength (more : List UInt8) :
      (fpt.image flash ++ more).length = fpt.size.toNat + more.length := by
    simp [EfptSc.image]
  let texts (more : List UInt8) : Flash := overlay flash fpt.text (fpt.image flash ++ more)
  have hholds (more : List UInt8) (hmore : more.length ≤ 3) :
      Holds (texts more) fpt.text (fpt.image flash ++ more) :=
    holds_overlay flash fpt.text _ (by rw [hlength]; omega)
  obtain ⟨st₁, hptr₁, hrun₁⟩ := parseImage_leftover fpt st (hhead _) hstop
  obtain ⟨st₂, hptr₂, hrun₂⟩ := parseImage_leftover fpt st (hhead _) hstop'
  have heq := h.agree (samePartition_image hroom (by simp))
    (hrun₁ (texts _) (hholds _ (by simp))) (samePartition_image hroom (by simp))
    (hrun₂ (texts _) (hholds _ (by simp)))
  rw [heq, hptr₂, hlength, hlength] at hptr₁
  exact ofNat_succ_ne (fpt.size.toNat + 2) hptr₁

/-! ## The version scan -/

private theorem bytesAt_header (hsame : fpt.SamePartition flash flash') :
    bytesAt flash' fpt.startAddress 16 = bytesAt flash fpt.startAddress 16 := by
  rw [bytesAt, bytesAt, List.map_inj_left]
  intro index hindex
  rw [List.mem_range] at hindex
  apply hsame
  have hoffset : fpt.startAddress + UInt32.ofNat index - fpt.startAddress =
      UInt32.ofNat index := by
    rw [UInt32.add_comm, UInt32.add_sub_cancel]
  have hheader : scTotHeaderSize.toNat = 16 := rfl
  rw [EfptSc.Inside, hoffset, UInt32.toNat_ofNat_of_lt' (by rw [UInt32.size]; omega), hheader]
  omega

private theorem EfptSc.SamePartition.hasHeader (hsame : fpt.SamePartition flash flash') :
    fpt.HasHeader flash' ↔ fpt.HasHeader flash := by
  rw [EfptSc.HasHeader, EfptSc.HasHeader, bytesAt_header hsame]

private theorem versionText_offset (hroom : 16 + fpt.size.toNat ≤ 2 ^ 32) (addr : UInt32) :
    (addr - fpt.startAddress).toNat =
      ((addr - fpt.versionText).toNat + (2 ^ 32 + 16 + fpt.size.toNat - 405)) % 2 ^ 32 := by
  have hoffset : addr - fpt.startAddress =
      addr - fpt.versionText + (scTotHeaderSize + fpt.size - scVerAddrWChksum) := by
    rw [EfptSc.versionText]
    grind
  have hheader : scTotHeaderSize.toNat = 16 := rfl
  have hback : scVerAddrWChksum.toNat = 405 := rfl
  have hdistance : (scTotHeaderSize + fpt.size - scVerAddrWChksum).toNat =
      (2 ^ 32 + 16 + fpt.size.toNat - 405) % 2 ^ 32 := by
    rw [UInt32.toNat_sub, UInt32.toNat_add, hheader, hback]
    omega
  rw [hoffset, UInt32.toNat_add, hdistance]
  omega

private theorem inside_versionText {index : Nat} (hroom : 16 + fpt.size.toNat + 3 ≤ 2 ^ 32)
    (hlong : 405 ≤ scTotHeaderSize.toNat + fpt.size.toNat) (h : index < 405) :
    fpt.Inside (fpt.versionText + UInt32.ofNat index) := by
  have hoffset : fpt.versionText + UInt32.ofNat index - fpt.versionText =
      UInt32.ofNat index := by
    rw [UInt32.add_comm, UInt32.add_sub_cancel]
  have hheader : scTotHeaderSize.toNat = 16 := rfl
  rw [EfptSc.Inside, versionText_offset (by omega), hoffset,
    UInt32.toNat_ofNat_of_lt' (by rw [UInt32.size]; omega), hheader]
  rw [hheader] at hlong
  omega

private theorem outside_versionText (hroom : 16 + fpt.size.toNat + 3 ≤ 2 ^ 32) {addr : UInt32}
    (h : fpt.Inside addr) :
    ((addr - fpt.versionText).toNat < 405 ∨ 408 ≤ (addr - fpt.versionText).toNat) ∧
      (scTotHeaderSize.toNat + fpt.size.toNat < 405 → 0 < (addr - fpt.versionText).toNat) := by
  have hheader : scTotHeaderSize.toNat = 16 := rfl
  have hlt := (addr - fpt.versionText).toNat_lt
  rw [EfptSc.Inside, versionText_offset (by omega), hheader] at h
  rw [hheader]
  omega

private theorem getFptScVersion_leftover {text left : List UInt8} (sc : ScImage)
    (hheader : fpt.HasHeader flash)
    (hleft : leftover versionPlace (.atAddress sc.parser.addrFlag) text = some left) :
    ∃ result : Bool × Memory × ScImage,
      result.2.2.parser.dataPtr = UInt32.ofNat (text.length - left.length) ∧
      ∀ flash', fpt.SamePartition flash flash' → Holds flash' fpt.versionText text →
        ∀ fuel ≥ text.length + 1, getFptScVersion flash' fpt fuel sc = some result := by
  obtain ⟨⟨scan', st'⟩, ⟨-, hptr⟩, hrun⟩ := versionStates_leftover fpt.versionText
    .address { versionPtr := 0, versionFlag := false, versionBuff := fun _ => 0 } (by decide)
    text { sc.parser with dataPtr := 0 } hleft .start
  refine ⟨(true, scan'.versionBuff, { parser := st', fptScLoc := fpt, fptScValid := true }),
    hptr, fun flash' hsame hholds fuel hfuel => ?_⟩
  have hheader' := hsame.hasHeader.2 hheader
  simp only [EfptSc.HasHeader, bytesAt] at hheader'
  simp only [getFptScVersion, hheader', if_true]
  rw [parseFptScVersion]
  have hscan := hrun flash' hholds fuel (by omega)
  simp only [EfptSc.versionText] at hscan
  rw [hscan]
  rfl

private theorem contained_getFptScVersion (hroom : 16 + fpt.size.toNat + 3 ≤ 2 ^ 32) (sc : ScImage)
    (hlong : fpt.HasHeader flash → 405 ≤ scTotHeaderSize.toNat + fpt.size.toNat)
    (hends : fpt.HasHeader flash → leftover versionPlace (.atAddress sc.parser.addrFlag)
      (bytesAt flash fpt.versionText 405) ≠ none) :
    Contained fpt flash fun flash fuel => getFptScVersion flash fpt fuel sc := by
  by_cases hheader : fpt.HasHeader flash
  · obtain ⟨left, hleft⟩ := Option.ne_none_iff_exists'.1 (hends hheader)
    obtain ⟨result, -, hrun⟩ := getFptScVersion_leftover sc hheader hleft
    exact ⟨_, result, fun fuel hfuel flash' hsame => hrun flash' hsame (holds_bytesAt
      (fun index hindex => inside_versionText hroom (hlong hheader) hindex) hsame) fuel hfuel⟩
  · let rewound : ScImage :=
      { parser := { sc.parser with dataPtr := 0 }, fptScLoc := fpt, fptScValid := false }
    refine ⟨0, ⟨false, fun _ => 0, rewound⟩, fun fuel _ flash' hsame => ?_⟩
    have hheader' := mt hsame.hasHeader.1 hheader
    simp only [EfptSc.HasHeader, bytesAt] at hheader'
    simp only [getFptScVersion, hheader', if_false, rewound]

private theorem versionEnds_of_contained (hroom : 16 + fpt.size.toNat + 3 ≤ 2 ^ 32) (sc : ScImage)
    (h : Contained fpt flash fun flash fuel => getFptScVersion flash fpt fuel sc)
    (hheader : fpt.HasHeader flash) :
    leftover versionPlace (.atAddress sc.parser.addrFlag)
      (bytesAt flash fpt.versionText 405) ≠ none := by
  intro hleft
  obtain ⟨place, hmore⟩ := exists_leftover_append hleft
  obtain ⟨hstop, hstop'⟩ := versionPlace_stops place
  rw [← hmore] at hstop hstop'
  let texts (more : List UInt8) : Flash :=
    overlay flash fpt.versionText (bytesAt flash fpt.versionText 405 ++ more)
  have hsame (more : List UInt8) (hlength : more.length ≤ 3) :
      fpt.SamePartition flash (texts more) :=
    samePartition_overlay fun addr hin => by
      rcases (outside_versionText hroom hin).1 with hbefore | hbehind
      · exact .inl hbefore
      · exact .inr (by omega)
  have hholds (more : List UInt8) (hlength : more.length ≤ 3) :
      Holds (texts more) fpt.versionText (bytesAt flash fpt.versionText 405 ++ more) :=
    holds_overlay flash fpt.versionText _ (by simp; omega)
  obtain ⟨result₁, hptr₁, hrun₁⟩ := getFptScVersion_leftover sc hheader hstop
  obtain ⟨result₂, hptr₂, hrun₂⟩ := getFptScVersion_leftover sc hheader hstop'
  have heq := h.agree (hsame _ (by simp))
    (hrun₁ (texts _) (hsame _ (by simp)) (hholds _ (by simp))) (hsame _ (by simp))
    (hrun₂ (texts _) (hsame _ (by simp)) (hholds _ (by simp)))
  rw [heq, hptr₂] at hptr₁
  simp only [List.length_append, length_bytesAt, List.length_cons, List.length_nil] at hptr₁
  exact ofNat_succ_ne 407 hptr₁

private theorem long_of_contained (hroom : 16 + fpt.size.toNat + 3 ≤ 2 ^ 32) (sc : ScImage)
    (h : Contained fpt flash fun flash fuel => getFptScVersion flash fpt fuel sc)
    (hheader : fpt.HasHeader flash) :
    405 ≤ scTotHeaderSize.toNat + fpt.size.toNat := by
  by_contra hlong
  have hbefore (addr : UInt32) (hin : fpt.Inside addr) :
      0 < (addr - fpt.versionText).toNat :=
    (outside_versionText hroom hin).2 (Nat.not_le.1 hlong)
  have hfirst (byte : UInt8) : fpt.SamePartition flash (overlay flash fpt.versionText [byte]) :=
    @samePartition_overlay fpt flash fpt.versionText 0 [byte] fun addr hin =>
      .inr (hbefore addr hin)
  -- one memory ends the scan at that byte, the other one does not
  have hends : leftover versionPlace (.atAddress sc.parser.addrFlag)
      [fileTerminationChar] = some [] := by
    simp [leftover, versionPlace, fileTerminationChar, sectionStart]
  obtain ⟨result₁, hptr₁, hrun₁⟩ := getFptScVersion_leftover sc hheader hends
  let lined := overlay flash fpt.versionText [newLine]
  have hlined : lined fpt.versionText = newLine := by simp [lined, overlay]
  obtain ⟨rest, hrest⟩ : ∃ rest, bytesAt lined fpt.versionText 405 = newLine :: rest :=
    ⟨_, (bytesAt_succ lined fpt.versionText 404).trans (by rw [hlined])⟩
  have hlength : rest.length = 404 := by
    have htotal := congrArg List.length hrest
    simp at htotal
    omega
  obtain ⟨left, hleft⟩ := exists_leftover (fun place => by
    rw [(versionPlace_stops place).1]
    exact Option.some_ne_none []) VersionPlace.atData rest
  have hplace : versionPlace (.atAddress sc.parser.addrFlag) newLine = some .atData := by
    simp [versionPlace, newLine, sectionStart, fileTerminationChar]
  have hlt := leftover_length_lt hleft
  rw [← leftover_cons hplace, ← List.cons_append, ← hrest] at hleft
  obtain ⟨result₂, hptr₂, hrun₂⟩ := getFptScVersion_leftover sc hheader hleft
  let scanned := overlay lined fpt.versionText
    (bytesAt lined fpt.versionText 405 ++ [newLine, fileTerminationChar])
  have hscanned : fpt.SamePartition flash scanned :=
    (hfirst newLine).trans (samePartition_overlay fun addr hin => by
      rcases (outside_versionText hroom hin).1 with hin | hbehind
      · exact .inl hin
      · exact .inr (by simp; omega))
  have heq := h.agree (hfirst _)
    (hrun₁ _ (hfirst _) (holds_overlay flash fpt.versionText _ (by simp))) hscanned
    (hrun₂ scanned hscanned (holds_overlay lined fpt.versionText _ (by simp)))
  rw [heq, hptr₂] at hptr₁
  have hptr := congrArg UInt32.toNat hptr₁
  simp [hlength] at hptr hlt
  omega

end Memory

def sampleFlash (last : UInt8) : Flash := fun addr =>
  (scHeaderMsg ++ [0, 0, 0, 0, 0, sectionStart, 0x30, newLine, 0x30, 0x30, space]).getD
    addr.toNat (if addr = 420 then last else newLine)

def sampleFpt : EfptSc := { startAddress := 0, size := 405 }

def sampleScImage : ScImage :=
  { parser := bootParser, fptScLoc := sampleFpt, fptScValid := true }

/-- Without a `q` the update reads on behind the partition. -/
theorem truncated_not_imageContained :
    ¬ ImageContained sampleFpt (sampleFlash newLine) sampleScImage := by
  intro h
  exact ends_of_contained (by decide) sampleScImage.parser (by decide) h.update (by decide)
    (by decide +kernel)

/-- The parsers stay inside the partition exactly when each meets its last byte there. -/
theorem imageContained_iff (fpt : EfptSc) (flash : Flash) (sc : ScImage)
    (hroom : 16 + fpt.size.toNat + 3 ≤ 2 ^ 32) :
    ImageContained fpt flash sc ↔ ImageEnds fpt flash sc.parser.addrFlag := by
  constructor
  · rintro ⟨hupdate, hversion⟩
    have hsize := size_pos_of_contained hroom sc.parser hupdate
    exact ⟨hsize, ends_of_contained hroom sc.parser hsize hupdate,
      long_of_contained hroom sc hversion, versionEnds_of_contained hroom sc hversion⟩
  · rintro ⟨hsize, hupdate, hlong, hversion⟩
    exact ⟨contained_parseImage (by omega) sc.parser hsize hupdate,
      contained_getFptScVersion hroom sc hlong hversion⟩

theorem sample_imageContained :
    ImageContained sampleFpt (sampleFlash fileTerminationChar) sampleScImage :=
  (imageContained_iff sampleFpt (sampleFlash fileTerminationChar) sampleScImage (by decide)).2
    ⟨by decide, fun _ => by decide +kernel, fun _ => by decide, fun _ => by decide +kernel⟩

end Vmr.Sc
