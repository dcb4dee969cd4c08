import Vmr.Rmgmt.Fpt
import Vmr.Xclbin.Lookup
import Vmr.Xclbin.Trim

/-!
# Downloading an xclbin

`rmgmt_fpga_download` hands the two PDIs of an xclbin to the FPGA manager, each with
the clock topology, trims them, and passes the rest on to the APU.  The pointer to
the topology is taken before the first PDI is trimmed.
-/

namespace Vmr.Rmgmt

open Vmr.Lib Vmr.Xclbin

def clockFreqTopology : UInt32 := 11
def bitstreamPartialPdi : UInt32 := 19

inductive DownloadOp
  | validateUuid (xclbin : Memory)
  /-- `pdi_download` of a section of the kind: the bytes of the PDI and of the topology. -/
  | pdiDownload (kind : UInt32) (pdi : List UInt8) (clock : Option (List UInt8))
  | apuDownload (xclbin : Memory) (size : UInt32)

abbrev DownloadProg := Prog DownloadOp fun _ => Int

structure DownloadResult where
  ret : Int
  xclbin : Memory
  rhDataSize : UInt32

def sectionPointer (xclbin : Memory) (kind : UInt32) : Option (UInt32 × UInt32) :=
  match rmgmtXclbinSectionInfo xclbin kind with
  | none => none
  | some (offset, size) => if size = 0 then none else some (offset.toUInt32, size.toUInt32)

def bytesAt (xclbin : Memory) (pointer : UInt32 × UInt32) : List UInt8 :=
  xclbin.slice pointer.1.toNat pointer.2.toNat

def pdiDownload (xclbin : Memory) (kind : UInt32) (pdi : UInt32 × UInt32)
    (topo : Option (UInt32 × UInt32)) : DownloadProg Int :=
  Prog.perform (.pdiDownload kind (bytesAt xclbin pdi) (topo.map (bytesAt xclbin)))

def downloadSection (xclbin : Memory) (kind : UInt32) (topo : Option (UInt32 × UInt32)) :
    DownloadProg (Int × Memory) :=
  match sectionPointer xclbin kind with
  | none => return (0, xclbin)
  | some pdi => do
      let ret ← pdiDownload xclbin kind pdi topo
      if ret ≠ 0 then return (ret, xclbin)
      else return (0, rmgmtXclbinSectionRemove xclbin kind)

/-- Without an APU the download is skipped. -/
def apuDownload (xclbin : Memory) : DownloadProg DownloadResult := do
  let size := (mLength xclbin).toUInt32
  let ret : Int ← Prog.perform (.apuDownload xclbin size)
  return ⟨if ret = -enodev then 0 else ret, xclbin, size⟩

def rmgmtFpgaDownload (xclbin : Memory) (rhDataSize : UInt32) : DownloadProg DownloadResult := do
  let ret : Int ← Prog.perform (.validateUuid xclbin)
  if ret ≠ 0 then return ⟨ret, xclbin, rhDataSize⟩
  else
    let topo := sectionPointer xclbin clockFreqTopology
    let trimmed ← downloadSection xclbin bitstreamPartialPdi topo
    if trimmed.1 ≠ 0 then return ⟨trimmed.1, trimmed.2, rhDataSize⟩
    else
      let trimmed ← downloadSection trimmed.2 axlfPdi topo
      if trimmed.1 ≠ 0 then return ⟨trimmed.1, trimmed.2, rhDataSize⟩
      else apuDownload trimmed.2

/-! ## What is handed out -/

section Promise

variable (xclbin : Memory)

/-- The section is downloaded, unless something before it fails. -/
def Downloaded (kind : UInt32) : Prop := ∃ data, sectionData xclbin kind = some data ∧ data ≠ []

def topologyOf : Option (List UInt8) :=
  (sectionData xclbin clockFreqTopology).filter fun data => data ≠ []

open Classical in
noncomputable def withoutDownloaded (kind : UInt32) (found : List Section) : List Section :=
  if Downloaded xclbin kind then withoutFirst kind found else found

/-- What the consumer is handed is what the file has. -/
def Original : DownloadOp → Prop
  | .validateUuid _ => True
  | .pdiDownload kind pdi clock => sectionData xclbin kind = some pdi ∧ clock = topologyOf xclbin
  | .apuDownload image size => WellFormed image ∧ size.toNat = (mLength image).toNat ∧
      sections image = withoutDownloaded xclbin axlfPdi
        (withoutDownloaded xclbin bitstreamPartialPdi (sections xclbin))

/-- Whatever the consumers answer. -/
def HandsOriginal (rhDataSize : UInt32) : Prop :=
  ∀ s' op, Prog.Issues (fun _ _ _ _ => True) () (rmgmtFpgaDownload xclbin rhDataSize) s' op →
    Original xclbin op

/-- What the download takes for granted when it hands the sections out. -/
structure KeepsOriginal : Prop where
  partialPdi : Downloaded xclbin bitstreamPartialPdi →
    TrimsOne bitstreamPartialPdi (sections xclbin)
  pdi : Downloaded xclbin axlfPdi →
    TrimsOne axlfPdi (withoutDownloaded xclbin bitstreamPartialPdi (sections xclbin))
  -- the pointer to the topology is older than the removal of the first PDI
  topology : Downloaded xclbin bitstreamPartialPdi → Downloaded xclbin axlfPdi →
    ∀ pointer index, sectionPointer xclbin clockFreqTopology = some pointer →
      rmgmtXclbinGetSectionHdr xclbin bitstreamPartialPdi = some index →
        ∀ offset < pointer.2.toNat, xclbin (movedFrom xclbin index (pointer.1.toNat + offset)) =
          xclbin (pointer.1.toNat + offset)

end Promise

/-! ## Pointers -/

section Pointers

variable {xclbin : Memory} {kind : UInt32}

private theorem sectionPointer_some (h : WellFormed xclbin)
    (hshort : (mLength xclbin).toNat < 2 ^ 32)
    {pointer : UInt32 × UInt32} (hpointer : sectionPointer xclbin kind = some pointer) :
    sectionData xclbin kind = some (bytesAt xclbin pointer) ∧ pointer.2.toNat ≠ 0 ∧
      ∃ index, rmgmtXclbinGetSectionHdr xclbin kind = some index ∧
        pointer.1.toNat = (mSectionOffset xclbin index).toNat ∧
        pointer.2.toNat = (mSectionSize xclbin index).toNat := by
  rw [sectionPointer] at hpointer
  rw [sectionData]
  cases hinfo : rmgmtXclbinSectionInfo xclbin kind with
  | none =>
      rw [hinfo] at hpointer
      cases hpointer
  | some info =>
      obtain ⟨offset, size⟩ := info
      rw [hinfo] at hpointer
      dsimp only at hpointer
      split at hpointer
      · cases hpointer
      · rename_i hsize
        cases hpointer
        cases hfound : rmgmtXclbinGetSectionHdr xclbin kind with
        | none =>
            rw [rmgmtXclbinSectionInfo, hfound] at hinfo
            cases hinfo
        | some index =>
            obtain ⟨-, rfl, rfl⟩ := (rmgmtXclbinSectionInfo_of_hdr hfound).1 hinfo
            have hinside := h.inside index (getSectionHdr_some hfound).1
            have hoffset : (mSectionOffset xclbin index).toUInt32.toNat =
                (mSectionOffset xclbin index).toNat := by
              rw [UInt64.toNat_toUInt32]
              omega
            have hlength : (mSectionSize xclbin index).toUInt32.toNat =
                (mSectionSize xclbin index).toNat := by
              rw [UInt64.toNat_toUInt32]
              omega
            refine ⟨?_, ?_, index, rfl, hoffset, hlength⟩
            · rw [bytesAt, hoffset, hlength]
              rfl
            · rw [hlength]
              exact fun hzero => hsize (UInt64.toNat_inj.1 hzero)

private theorem bytesAt_ne_nil {pointer : UInt32 × UInt32} (h : pointer.2.toNat ≠ 0) :
    bytesAt xclbin pointer ≠ [] := by
  intro hnil
  have hlength := xclbin.length_slice pointer.1.toNat pointer.2.toNat
  rw [← bytesAt, hnil] at hlength
  exact h hlength.symm

private theorem sectionPointer_none (hpointer : sectionPointer xclbin kind = none) :
    ¬ Downloaded xclbin kind := by
  rintro ⟨data, hdata, hsome⟩
  rw [sectionPointer] at hpointer
  rw [sectionData] at hdata
  obtain ⟨⟨offset, size⟩, hinfo, rfl⟩ := Option.map_eq_some_iff.1 hdata
  rw [hinfo] at hpointer
  dsimp only at hpointer
  split at hpointer
  · rename_i hsize
    subst hsize
    exact hsome rfl
  · cases hpointer

private theorem downloaded_iff (h : WellFormed xclbin) (hshort : (mLength xclbin).toNat < 2 ^ 32) :
    Downloaded xclbin kind ↔ sectionPointer xclbin kind ≠ none := by
  constructor
  · exact fun hdownloaded hnone => sectionPointer_none hnone hdownloaded
  · intro hsome
    obtain ⟨pointer, hpointer⟩ := Option.ne_none_iff_exists'.1 hsome
    obtain ⟨hdata, hsize, -⟩ := sectionPointer_some h hshort hpointer
    exact ⟨_, hdata, bytesAt_ne_nil hsize⟩

private theorem topologyOf_eq (h : WellFormed xclbin) (hshort : (mLength xclbin).toNat < 2 ^ 32) :
    topologyOf xclbin = (sectionPointer xclbin clockFreqTopology).map (bytesAt xclbin) := by
  cases hpointer : sectionPointer xclbin clockFreqTopology with
  | none =>
      rw [topologyOf, Option.map_none, Option.filter_eq_none_iff]
      intro data hdata hsome
      exact sectionPointer_none hpointer ⟨data, hdata, by simpa using hsome⟩
  | some pointer =>
      obtain ⟨hdata, hsize, -⟩ := sectionPointer_some h hshort hpointer
      rw [topologyOf, hdata, Option.map_some, Option.filter_some_pos]
      simpa using bytesAt_ne_nil hsize

end Pointers

/-! ## What is handed out -/

def afterSection (image : Memory) (kind : UInt32) : Memory :=
  match sectionPointer image kind with
  | none => image
  | some _ => rmgmtXclbinSectionRemove image kind

def anyAnswer : Unit → (op : DownloadOp) → Int → Unit → Prop := fun _ _ _ _ => True

section Hands

variable {xclbin : Memory}

private theorem safe_downloadSection {guard : Unit → DownloadOp → Prop} {image : Memory}
    {kind : UInt32}
    {topo : Option (UInt32 × UInt32)} {failed : Int × Memory → DownloadResult}
    {rest : Memory → DownloadProg DownloadResult} :
    Prog.Safe anyAnswer guard (fun _ _ => True)
        (downloadSection image kind topo >>= fun trimmed =>
          if trimmed.1 ≠ 0 then return failed trimmed else rest trimmed.2) () ↔
      (∀ pdi, sectionPointer image kind = some pdi →
        guard () (.pdiDownload kind (bytesAt image pdi) (topo.map (bytesAt image)))) ∧
      Prog.Safe anyAnswer guard (fun _ _ => True) (rest (afterSection image kind)) () := by
  rw [downloadSection, afterSection]
  cases sectionPointer image kind with
  | none => simp
  | some pdi =>
      dsimp only
      rw [Prog.safe_bind, Prog.safe_bind, pdiDownload, Prog.safe_perform]
      constructor
      · rintro ⟨hguard, hnext⟩
        have hrest := hnext (0 : Int) () trivial
        refine ⟨fun _ hsame => ?_, hrest⟩
        cases hsame
        exact hguard
      · rintro ⟨hguard, hrest⟩
        refine ⟨hguard pdi rfl, fun ret _ _ => ?_⟩
        by_cases hfailed : ret ≠ 0
        · rw [if_pos hfailed, Prog.pure_eq, Prog.safe_ret]
          dsimp only
          rw [if_pos hfailed]
          trivial
        · rw [if_neg hfailed]
          exact hrest

private theorem handsOriginal_eq (rhDataSize : UInt32) :
    let topo := sectionPointer xclbin clockFreqTopology
    let first := afterSection xclbin bitstreamPartialPdi
    let second := afterSection first axlfPdi
    HandsOriginal xclbin rhDataSize ↔
      (∀ pdi, sectionPointer xclbin bitstreamPartialPdi = some pdi →
        Original xclbin (.pdiDownload bitstreamPartialPdi (bytesAt xclbin pdi)
          (topo.map (bytesAt xclbin)))) ∧
      (∀ pdi, sectionPointer first axlfPdi = some pdi →
        Original xclbin (.pdiDownload axlfPdi (bytesAt first pdi) (topo.map (bytesAt first)))) ∧
      Original xclbin (.apuDownload second (mLength second).toUInt32) := by
  intro topo first second
  have hapu : Prog.Safe anyAnswer (fun _ op => Original xclbin op) (fun _ _ => True)
      (apuDownload second) () ↔
        Original xclbin (.apuDownload second (mLength second).toUInt32) := by
    rw [apuDownload]
    exact and_iff_left fun _ _ _ => trivial
  let failed : Int × Memory → DownloadResult := fun trimmed => ⟨trimmed.1, trimmed.2, rhDataSize⟩
  let rest : Memory → DownloadProg DownloadResult := fun image =>
    downloadSection image axlfPdi topo >>= fun trimmed =>
      if trimmed.1 ≠ 0 then return failed trimmed else apuDownload trimmed.2
  have hrest := @safe_downloadSection (fun _ op => Original xclbin op) first axlfPdi topo failed
    apuDownload
  have hsections := @safe_downloadSection (fun _ op => Original xclbin op) xclbin
    bitstreamPartialPdi topo failed rest
  rw [hapu] at hrest
  refine Iff.trans (Prog.safe_iff_issues.symm.trans ?_)
    (hsections.trans (and_congr_right fun _ => hrest))
  rw [rmgmtFpgaDownload, Prog.safe_bind, Prog.safe_perform]
  constructor
  · rintro ⟨-, hnext⟩
    exact hnext (0 : Int) () trivial
  · intro hnext
    refine ⟨trivial, fun ret _ _ => ?_⟩
    by_cases hinvalid : ret ≠ 0
    · rw [if_pos hinvalid]
      trivial
    · rw [if_neg hinvalid]
      exact hnext

end Hands

/-! ## What arrives -/

section Arrives

variable {xclbin : Memory} {kind : UInt32}

private theorem afterSection_of_not (hnot : ¬ Downloaded xclbin kind) (h : WellFormed xclbin)
    (hshort : (mLength xclbin).toNat < 2 ^ 32) : afterSection xclbin kind = xclbin := by
  rw [downloaded_iff h hshort, not_not] at hnot
  rw [afterSection, hnot]

private theorem afterSection_of_downloaded (hdownloaded : Downloaded xclbin kind)
    (h : WellFormed xclbin)
    (hshort : (mLength xclbin).toNat < 2 ^ 32) :
    afterSection xclbin kind = rmgmtXclbinSectionRemove xclbin kind := by
  rw [downloaded_iff h hshort] at hdownloaded
  obtain ⟨pointer, hpointer⟩ := Option.ne_none_iff_exists'.1 hdownloaded
  rw [afterSection, hpointer]

private theorem not_many_of_downloaded (hdownloaded : Downloaded xclbin kind)
    (h : WellFormed xclbin) :
    ¬ mNumSections xclbin > xclbinMaxNumSection := by
  intro hmany
  obtain ⟨data, hdata, -⟩ := hdownloaded
  rw [sectionData_eq h, if_pos hmany] at hdata
  cases hdata

private theorem find?_of_downloaded (hdownloaded : Downloaded xclbin kind) (h : WellFormed xclbin) :
    ((sections xclbin).find? fun entry => entry.kind == kind) ≠ none := by
  have hfew := not_many_of_downloaded hdownloaded h
  obtain ⟨data, hdata, -⟩ := hdownloaded
  rw [sectionData_eq h, if_neg hfew] at hdata
  intro hnone
  rw [hnone] at hdata
  cases hdata

theorem afterSection_spec (h : WellFormed xclbin) (hshort : (mLength xclbin).toNat < 2 ^ 32) :
    WellFormed (afterSection xclbin kind) ∧
      (mLength (afterSection xclbin kind)).toNat < 2 ^ 32 ∧
      ∀ other, other ≠ kind → sectionData (afterSection xclbin kind) other =
        sectionData xclbin other := by
  by_cases hdownloaded : Downloaded xclbin kind
  · rw [afterSection_of_downloaded hdownloaded h hshort]
    obtain ⟨hwell, hsections⟩ := sections_sectionRemove h kind
    have hlength : (mLength (rmgmtXclbinSectionRemove xclbin kind)).toNat ≤
        (mLength xclbin).toNat := mLength_removeFrom_le kind _ h
    refine ⟨hwell, by omega, fun other hother => ?_⟩
    have hfew := not_many_of_downloaded hdownloaded h
    have hfewer := (removeSkipping_sublist kind (sections xclbin)).length_le
    rw [← hsections, length_sections, length_sections] at hfewer
    have hfew' : ¬ mNumSections (rmgmtXclbinSectionRemove xclbin kind) > xclbinMaxNumSection := by
      rw [gt_iff_lt, UInt32.lt_iff_toNat_lt] at hfew ⊢
      omega
    rw [sectionData_eq hwell, if_neg hfew', sectionData_eq h, if_neg hfew, hsections,
      find?_removeSkipping hother]
  · rw [afterSection_of_not hdownloaded h hshort]
    exact ⟨h, hshort, fun _ _ => rfl⟩

private theorem downloaded_afterSection {other : UInt32} (h : WellFormed xclbin)
    (hshort : (mLength xclbin).toNat < 2 ^ 32) (hother : other ≠ kind) :
    Downloaded (afterSection xclbin kind) other ↔ Downloaded xclbin other := by
  rw [Downloaded, (afterSection_spec h hshort).2.2 other hother]
  rfl

private theorem sections_afterSection (h : WellFormed xclbin)
    (hshort : (mLength xclbin).toNat < 2 ^ 32) :
    (Downloaded xclbin kind →
      sections (afterSection xclbin kind) = removeSkipping kind (sections xclbin)) ∧
      (¬ Downloaded xclbin kind → sections (afterSection xclbin kind) = sections xclbin) := by
  constructor
  · intro hdownloaded
    rw [afterSection_of_downloaded hdownloaded h hshort]
    exact (sections_sectionRemove h kind).2
  · intro hnot
    rw [afterSection_of_not hnot h hshort]

private theorem sections_afterSection_iff (h : WellFormed xclbin)
    (hshort : (mLength xclbin).toNat < 2 ^ 32) {second : UInt32} (hsecond : second ≠ kind) :
    sections (afterSection (afterSection xclbin kind) second) =
        withoutDownloaded xclbin second (withoutDownloaded xclbin kind (sections xclbin)) ↔
      (Downloaded xclbin kind → TrimsOne kind (sections xclbin)) ∧
      (Downloaded xclbin second →
        TrimsOne second (withoutDownloaded xclbin kind (sections xclbin))) := by
  obtain ⟨hwell, hshort', -⟩ := @afterSection_spec _ kind h hshort
  have hsame := downloaded_afterSection h hshort hsecond
  obtain ⟨hfirst, hfirst'⟩ := @sections_afterSection _ kind h hshort
  obtain ⟨hnext, hnext'⟩ := @sections_afterSection _ second hwell hshort'
  rw [hsame] at hnext hnext'
  have hone (downloaded : UInt32) (hdownloaded : Downloaded xclbin downloaded)
      (found : List Section) : withoutDownloaded xclbin downloaded found =
        withoutFirst downloaded found := if_pos hdownloaded
  have hall (downloaded : UInt32) (hnot : ¬ Downloaded xclbin downloaded)
      (found : List Section) : withoutDownloaded xclbin downloaded found = found := if_neg hnot
  by_cases hboth : Downloaded xclbin second
  · rw [hnext hboth, hone second hboth]
    by_cases hdownloaded : Downloaded xclbin kind
    · rw [hfirst hdownloaded, hone kind hdownloaded]
      constructor
      · intro hrest
        -- a first removal that takes out more leaves too little
        have hfound : ((withoutFirst kind (sections xclbin)).find? fun entry =>
            entry.kind == second) ≠ none := by
          rw [find?_withoutFirst hsecond]
          exact find?_of_downloaded hboth h
        have hfound' : ((removeSkipping kind (sections xclbin)).find? fun entry =>
            entry.kind == second) ≠ none := by
          rw [find?_removeSkipping hsecond]
          exact find?_of_downloaded hboth h
        have hlength := length_withoutFirst hfound
        have hlength' := length_withoutFirst hfound'
        have hshorter := (removeSkipping_sublist_withoutFirst second
          (removeSkipping kind (sections xclbin))).length_le
        rw [hrest] at hshorter
        have htrimmed := (removeSkipping_sublist_withoutFirst kind
          (sections xclbin)).eq_of_length_le (by omega)
        rw [htrimmed] at hrest
        exact ⟨fun _ => (removeSkipping_eq_withoutFirst_iff _ _).1 htrimmed,
          fun _ => (removeSkipping_eq_withoutFirst_iff _ _).1 hrest⟩
      · rintro ⟨hkind, hother⟩
        rw [(removeSkipping_eq_withoutFirst_iff _ _).2 (hkind hdownloaded),
          (removeSkipping_eq_withoutFirst_iff _ _).2 (hother hboth)]
    · rw [hfirst' hdownloaded, hall kind hdownloaded, removeSkipping_eq_withoutFirst_iff]
      exact ⟨fun hrest => ⟨fun hkind => absurd hkind hdownloaded, fun _ => hrest⟩,
        fun hrest => hrest.2 hboth⟩
  · rw [hnext' hboth, hall second hboth]
    by_cases hdownloaded : Downloaded xclbin kind
    · rw [hfirst hdownloaded, hone kind hdownloaded, removeSkipping_eq_withoutFirst_iff]
      exact ⟨fun hrest => ⟨fun _ => hrest, fun hother => absurd hother hboth⟩,
        fun hrest => hrest.1 hdownloaded⟩
    · rw [hfirst' hdownloaded, hall kind hdownloaded]
      exact iff_of_true rfl ⟨fun hkind => absurd hkind hdownloaded,
        fun hother => absurd hother hboth⟩

/-! ## The topology -/

private theorem bytesAt_eq_iff {image : Memory} {pointer : UInt32 × UInt32} :
    bytesAt image pointer = bytesAt xclbin pointer ↔
      ∀ offset < pointer.2.toNat,
        image (pointer.1.toNat + offset) = xclbin (pointer.1.toNat + offset) := by
  rw [bytesAt, bytesAt, Memory.slice, Memory.slice, List.map_inj_left]
  constructor
  · intro hsame offset hoffset
    exact hsame _ (List.mem_range'_1.2 ⟨Nat.le_add_right _ _, by omega⟩)
  · intro hsame address haddress
    obtain ⟨hlow, hhigh⟩ := List.mem_range'_1.1 haddress
    obtain ⟨offset, rfl⟩ := Nat.exists_eq_add_of_le hlow
    exact hsame offset (by omega)

private theorem bytesAt_afterSection (h : WellFormed xclbin)
    (hshort : (mLength xclbin).toNat < 2 ^ 32)
    (hdownloaded : Downloaded xclbin kind) (hone : TrimsOne kind (sections xclbin))
    {index : Nat} (hindex : rmgmtXclbinGetSectionHdr xclbin kind = some index) {other : UInt32}
    (hother : other ≠ kind) {pointer : UInt32 × UInt32}
    (hpointer : sectionPointer xclbin other = some pointer) :
    bytesAt (afterSection xclbin kind) pointer = bytesAt xclbin pointer ↔
      ∀ offset < pointer.2.toNat, xclbin (movedFrom xclbin index (pointer.1.toNat + offset)) =
        xclbin (pointer.1.toNat + offset) := by
  obtain ⟨hlt, hkind, -, -⟩ := getSectionHdr_some hindex
  obtain ⟨-, -, position, hposition, hstart, -⟩ := sectionPointer_some h hshort hpointer
  obtain ⟨hlt', hkind', -, -⟩ := getSectionHdr_some hposition
  have hbehind := h.behind position hlt'
  have hmany : (mNumSections xclbin).toNat ≠ 1 := by
    intro hsingle
    obtain rfl : position = index := by omega
    exact hother (hkind'.symm.trans hkind)
  rw [bytesAt_eq_iff, afterSection_of_downloaded hdownloaded h hshort,
    sectionRemove_one h hindex hone]
  refine forall_congr' fun offset => imp_congr_right fun _ => ?_
  rw [removeSection_apply h hlt hmany (by omega)]

end Arrives

def onePdi : Memory := fun address =>
  if address = 536 then 0x50 else if address = 537 then 0x54
  else containerOf 538 [⟨axlfPdi, 536, 1⟩, ⟨clockFreqTopology, 537, 1⟩] address

def twoPdis : Memory := fun address =>
  if address = 576 then 0x54 else if address = 577 then 0x50
  else if 578 ≤ address ∧ address < 678 then 0x51
  else containerOf 678 [⟨clockFreqTopology, 576, 1⟩, ⟨bitstreamPartialPdi, 577, 1⟩,
    ⟨axlfPdi, 578, 100⟩] address

end Vmr.Rmgmt
