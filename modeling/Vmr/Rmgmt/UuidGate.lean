import Vmr.Rmgmt.FdtReads
import Vmr.Rmgmt.LogWindow
import Vmr.Rmgmt.XclbinDownload

/-!
# The check of the interface UUID

Before anything of an xclbin is loaded, its interface UUID is compared with that of
the shell.  A file with no UUID is taken for one without a bitstream and passes;
nothing looks at its sections.
-/

namespace Vmr.Rmgmt

open Vmr.Lib Vmr.Xclbin

def sameText : Nat → List UInt8 → List UInt8 → Bool
  | n + 1, char :: text, char' :: text' =>
      if char ≠ char' then false else if char = 0 then true else sameText n text text'
  | _, _, _ => true

section Gate

variable (memory : Memory) (logLevelGl : UInt8) (preloadFpt : UInt32)

def uuidBuffer (found : Int × Option (List UInt8)) : List UInt8 :=
  found.2.getD (List.replicate uuidBytesLen 0)

def rmgmtValidateUuid (xclbin : UInt32) : Int :=
  let found := (rmgmtFdtGetUuids memory logLevelGl xclbin uuidBytesLen).value
  if found.1 ≠ 0 then
    -- a file with no UUID is assumed to be a PS kernel
    if found.1 = -enoent then 0 else found.1
  else match (rmgmtFptGetXsabin memory preloadFpt noPartitions).2 with
    | none => -einval
    | some (fdtdata, _) =>
        let shell := (rmgmtFdtGetUuids memory logLevelGl fdtdata uuidBytesLen).value
        if shell.1 ≠ 0 then -einval
        else if ¬ sameText uuidBytesLen (uuidBuffer found) (uuidBuffer shell) then -einval
        else 0

/-- The check answers for the container at `base`; the other operations may go either way. -/
def gateStep (base : UInt32) : Unit → DownloadOp → Int → Unit → Prop
  | _, .validateUuid _, answer, _ => answer = rmgmtValidateUuid memory logLevelGl preloadFpt base
  | _, .pdiDownload _ _ _, _, _ | _, .apuDownload _ _, _, _ => True

/-- The download of the container at `base` comes to the loading of a section. -/
def Loads (base rhDataSize kind : UInt32) : Prop :=
  ∃ s' pdi clock, Prog.Issues (gateStep memory logLevelGl preloadFpt base) ()
    (rmgmtFpgaDownload (xclbinAt memory base) rhDataSize) s' (.pdiDownload kind pdi clock)

def UuidsMatch (base : UInt32) : Prop :=
  ∃ fdtdata size uuid,
    (rmgmtFptGetXsabin memory preloadFpt noPartitions).2 = some (fdtdata, size) ∧
    (rmgmtFdtGetUuids memory logLevelGl base uuidBytesLen).value = (0, some uuid) ∧
    (rmgmtFdtGetUuids memory logLevelGl fdtdata uuidBytesLen).value = (0, some uuid)

inductive NoneTaken (header : FdtHeader) : UInt32 → Prop
  | ended {p : UInt32} (hend : cellAt memory p = fdtEnd) : NoneTaken header p
  | next {p : UInt32} (htag : cellAt memory p ≠ fdtEnd) (hother : ¬ IsTaken memory header p)
      (hrest : NoneTaken header (nextPlace memory header p)) : NoneTaken header p

/-- So many tokens are neither taken nor the end, and neither is the one behind them the end. -/
def GoesOn (header : FdtHeader) : Nat → UInt32 → Prop
  | 0, p => cellAt memory p ≠ fdtEnd
  | left + 1, p => cellAt memory p ≠ fdtEnd ∧ ¬ IsTaken memory header p ∧
      GoesOn header left (nextPlace memory header p)

def metadataAt (base : UInt32) : Option UInt32 :=
  match rmgmtXclbinSectionInfo (xclbinAt memory base) partitionMetadata with
  | none => none
  | some (offset, size) => if size = 0 then none else some (base + offset.toUInt32)

def LacksUuid (base : UInt32) : Prop :=
  ∀ bph, metadataAt memory base = some bph →
    NoneTaken memory (headerAt memory bph) (headerAt memory bph).pStruct

/-- A file whose first 1001 tokens show no UUID, and are not all of them. -/
def CutOff (base : UInt32) : Prop :=
  ∃ bph, metadataAt memory base = some bph ∧
    GoesOn memory (headerAt memory bph) (retry + 1) (headerAt memory bph).pStruct

/-- Unless its tree is longer than the walk, the file has no UUID or that of the shell. -/
def UuidChecked (base : UInt32) : Prop :=
  ¬ CutOff memory base → LacksUuid memory base ∨ UuidsMatch memory logLevelGl preloadFpt base

end Gate

/-! ## What the lookup writes -/

def Padded (n : Nat) (buffer : List UInt8) : Prop := ∃ text, buffer = padded n text ∧ 0 ∉ text

private theorem padded_strncpy (memory : Memory) (s : UInt32) (n : Nat) :
    Padded n (strncpy memory s n).value := by
  induction n generalizing s with
  | zero => exact ⟨[], rfl, List.not_mem_nil⟩
  | succ n ih =>
      rw [strncpy, Reading.value_bind, value_read8]
      by_cases hend : memory s.toNat = 0
      · rw [if_pos hend]
        exact ⟨[], rfl, List.not_mem_nil⟩
      · rw [if_neg hend, Reading.value_bind]
        obtain ⟨text, htext, hnot⟩ := ih (s + 1)
        refine ⟨memory s.toNat :: text, ?_, ?_⟩
        · rw [Reading.value_pure, htext]
          simp [padded]
        · rw [List.mem_cons, not_or]
          exact ⟨Ne.symm hend, hnot⟩

private theorem sameText_self (n : Nat) (buffer : List UInt8) :
    sameText n buffer buffer = true := by
  induction n generalizing buffer with
  | zero => simp [sameText]
  | succ n ih =>
      cases buffer with
      | nil => rfl
      | cons char text => simp [sameText, ih]

private theorem eq_of_sameText {n : Nat} {buffer buffer' : List UInt8} (h : Padded n buffer)
    (h' : Padded n buffer') (hsame : sameText n buffer buffer' = true) : buffer = buffer' := by
  obtain ⟨text, rfl, htext⟩ := h
  obtain ⟨text', rfl, htext'⟩ := h'
  induction n generalizing text text' with
  | zero => simp [padded]
  | succ n ih =>
      cases text with
      | nil =>
          cases text' with
          | nil => rfl
          | cons char' text' =>
              rw [List.mem_cons, not_or] at htext'
              simp [padded, List.replicate_succ, sameText, htext'.1] at hsame
      | cons char text =>
          rw [List.mem_cons, not_or] at htext
          have hchar : char ≠ 0 := Ne.symm htext.1
          cases text' with
          | nil => simp [padded, List.replicate_succ, sameText, hchar] at hsame
          | cons char' text' =>
              rw [List.mem_cons, not_or] at htext'
              have hcons (first : UInt8) (rest : List UInt8) :
                  padded (n + 1) (first :: rest) = first :: padded n rest := by simp [padded]
              rw [hcons, hcons, sameText] at hsame
              by_cases hdiffer : char ≠ char'
              · rw [if_pos hdiffer] at hsame
                cases hsame
              · rw [if_neg hdiffer, if_neg hchar] at hsame
                rw [hcons, hcons, not_not.1 hdiffer, ih text htext.2 text' htext'.2 hsame]

private theorem padded_fdtToken {memory : Memory} {logLevelGl : UInt8} {header : FdtHeader}
    {uuidSize : Nat} {tag p : UInt32}
    {intUuid : List UInt8}
    (h : (fdtToken memory logLevelGl header uuidSize tag p).value = .found intUuid) :
    Padded uuidSize intUuid := by
  rw [fdtToken] at h
  split at h
  · cases h
  · split at h
    · cases h
    · rw [fdtProperty] at h
      simp only [Reading.value_bind] at h
      split at h
      · cases h
        exact padded_strncpy _ _ _
      · cases h

private theorem padded_fdtWalk {memory : Memory} {logLevelGl : UInt8} {header : FdtHeader}
    {uuidSize left : Nat} {p : UInt32} {intUuid : List UInt8} (h : (fdtWalk memory logLevelGl header uuidSize left p).value = some intUuid) :
    Padded uuidSize intUuid := by
  induction left generalizing p with
  | zero => cases h
  | succ left ih =>
      rw [fdtWalk, Reading.value_bind] at h
      split at h
      · cases h
      · rw [Reading.value_bind] at h
        cases hstep : (fdtToken memory logLevelGl header uuidSize (getCell memory p).value (p + 4)).value with
        | found found =>
            rw [hstep] at h
            cases h
            exact padded_fdtToken hstep
        | next p' =>
            rw [hstep] at h
            exact ih h

private theorem fdtGetUuids_zero {memory : Memory} {logLevelGl : UInt8} {fdtAddr : UInt32}
    {uuidSize : Nat}
    (h : (rmgmtFdtGetUuids memory logLevelGl fdtAddr uuidSize).value.1 = 0) :
    ∃ uuid, (rmgmtFdtGetUuids memory logLevelGl fdtAddr uuidSize).value = (0, some uuid) ∧
      Padded uuidSize uuid := by
  rw [rmgmtFdtGetUuids] at h ⊢
  by_cases hvalid : rmgmtXclbinValidate (xclbinAt memory fdtAddr) ≠ 0
  · rw [if_pos hvalid] at h
    exact absurd h hvalid
  · rw [if_neg hvalid] at h ⊢
    cases hinfo : rmgmtXclbinSectionInfo (xclbinAt memory fdtAddr) partitionMetadata with
    | none =>
        rw [hinfo] at h
        exact absurd h (show -enoent ≠ 0 by decide)
    | some info =>
        obtain ⟨offset, size⟩ := info
        rw [hinfo] at h
        dsimp only at h ⊢
        by_cases hsize : size = 0
        · rw [if_pos hsize] at h
          exact absurd h (show -enoent ≠ 0 by decide)
        · rw [if_neg hsize, Reading.value_bind, Reading.value_bind] at h ⊢
          cases hwalk : (fdtWalk memory logLevelGl (fdtHeader memory (fdtAddr + offset.toUInt32)).value uuidSize
            (retry + 1) (fdtHeader memory (fdtAddr + offset.toUInt32)).value.pStruct).value with
          | none =>
              rw [hwalk] at h
              exact absurd h (show -enoent ≠ 0 by decide)
          | some uuid => exact ⟨uuid, rfl, padded_fdtWalk hwalk⟩

/-! ## What the lookup misses -/

section Missed

variable {memory : Memory} {logLevelGl : UInt8} {header : FdtHeader} {base : UInt32}

private theorem fdtWalk_none {uuidSize left : Nat} {p : UInt32}
    (h : (fdtWalk memory logLevelGl header uuidSize left p).value = none) :
    NoneTaken memory header p ∨ GoesOn memory header left p := by
  induction left generalizing p with
  | zero =>
      by_cases hend : cellAt memory p = fdtEnd
      · exact .inl (.ended hend)
      · exact .inr hend
  | succ left ih =>
      rw [fdtWalk, Reading.value_bind, value_getCell] at h
      by_cases hend : cellAt memory p = fdtEnd
      · exact .inl (.ended hend)
      rw [if_neg hend, Reading.value_bind, value_fdtToken] at h
      by_cases htaken : IsTaken memory header p
      · rw [if_pos htaken] at h
        cases h
      · rw [if_neg htaken] at h
        rcases ih h with hnone | hlong
        · exact .inl (.next hend htaken hnone)
        · exact .inr ⟨hend, htaken, hlong⟩

private theorem fdtGetUuids_none
    (h : (rmgmtFdtGetUuids memory logLevelGl base uuidBytesLen).value.1 = -enoent) :
    LacksUuid memory base ∨ CutOff memory base := by
  have hne : (0 : Int) ≠ -enoent := by decide
  by_cases hvalid : rmgmtXclbinValidate (xclbinAt memory base) = 0
  swap
  · rw [rmgmtFdtGetUuids, if_pos hvalid] at h
    rw [rmgmtXclbinValidate] at hvalid h
    split at h
    · exact absurd h (show -einval ≠ -enoent by decide)
    · exact absurd h hne
  cases hmetadata : metadataAt memory base with
  | none =>
      refine .inl fun bph hbph => ?_
      rw [hmetadata] at hbph
      cases hbph
  | some bph =>
      rw [metadataAt] at hmetadata
      rw [rmgmtFdtGetUuids, if_neg (not_not.2 hvalid)] at h
      cases hinfo : rmgmtXclbinSectionInfo (xclbinAt memory base) partitionMetadata with
      | none =>
          rw [hinfo] at hmetadata
          cases hmetadata
      | some info =>
          obtain ⟨offset, size⟩ := info
          rw [hinfo] at hmetadata h
          dsimp only at hmetadata h
          have hsome : metadataAt memory base = some bph := by
            rw [metadataAt, hinfo]
            exact hmetadata
          by_cases hsize : size = 0
          · rw [if_pos hsize] at hmetadata
            cases hmetadata
          rw [if_neg hsize] at hmetadata h
          obtain rfl := Option.some.inj hmetadata
          rw [Reading.value_bind, Reading.value_bind, value_fdtHeader] at h
          cases hwalk : (fdtWalk memory logLevelGl (headerAt memory (base + offset.toUInt32))
            uuidBytesLen (retry + 1)
            (headerAt memory (base + offset.toUInt32)).pStruct).value with
          | some uuid =>
              rw [hwalk] at h
              exact absurd h hne
          | none =>
              rcases fdtWalk_none hwalk with hnone | hlong
              · refine .inl fun bph' hbph' => ?_
                rw [hsome] at hbph'
                cases hbph'
                exact hnone
              · exact .inr ⟨_, hsome, hlong⟩

end Missed

/-! ## The gate -/

section Gate

variable {memory : Memory} {logLevelGl : UInt8} {preloadFpt base : UInt32}

/-- The check passes exactly when nothing was found in the file, or the same text twice. -/
theorem validateUuid_eq_zero :
    rmgmtValidateUuid memory logLevelGl preloadFpt base = 0 ↔
      (rmgmtFdtGetUuids memory logLevelGl base uuidBytesLen).value.1 = -enoent ∨
        UuidsMatch memory logLevelGl preloadFpt base := by
  constructor
  · intro hzero
    rw [rmgmtValidateUuid] at hzero
    dsimp only at hzero
    by_cases hfound : (rmgmtFdtGetUuids memory logLevelGl base uuidBytesLen).value.1 = 0
    · obtain ⟨uuid, hvalue, hpadded⟩ := fdtGetUuids_zero hfound
      rw [if_neg (not_not.2 hfound)] at hzero
      cases hxsabin : (rmgmtFptGetXsabin memory preloadFpt noPartitions).2 with
      | none =>
          rw [hxsabin] at hzero
          exact absurd hzero (show -einval ≠ 0 by decide)
      | some fdt =>
          obtain ⟨fdtdata, size⟩ := fdt
          rw [hxsabin] at hzero
          dsimp only at hzero
          by_cases hshell : (rmgmtFdtGetUuids memory logLevelGl fdtdata uuidBytesLen).value.1 = 0
          · obtain ⟨uuid', hvalue', hpadded'⟩ := fdtGetUuids_zero hshell
            rw [if_neg (not_not.2 hshell), hvalue, hvalue'] at hzero
            by_cases hsame : sameText uuidBytesLen (uuidBuffer (0, some uuid))
                (uuidBuffer (0, some uuid')) = true
            · cases eq_of_sameText hpadded hpadded' hsame
              exact .inr ⟨fdtdata, size, uuid, hxsabin, hvalue, hvalue'⟩
            · rw [if_pos hsame] at hzero
              exact absurd hzero (show -einval ≠ 0 by decide)
          · rw [if_pos hshell] at hzero
            exact absurd hzero (show -einval ≠ 0 by decide)
    · rw [if_pos hfound] at hzero
      by_cases hnone : (rmgmtFdtGetUuids memory logLevelGl base uuidBytesLen).value.1 = -enoent
      · exact .inl hnone
      · rw [if_neg hnone] at hzero
        exact absurd hzero hfound
  · rintro (hnone | ⟨fdtdata, size, uuid, hxsabin, hvalue, hvalue'⟩)
    · have hnot : -enoent ≠ 0 := by decide
      rw [rmgmtValidateUuid]
      dsimp only
      rw [hnone, if_pos hnot, if_pos rfl]
    · rw [rmgmtValidateUuid]
      dsimp only
      rw [hvalue, if_neg (not_not.2 rfl), hxsabin]
      dsimp only
      rw [hvalue', if_neg (not_not.2 rfl), sameText_self, if_neg (not_not.2 rfl)]

private theorem validated_of_loads {rhDataSize kind : UInt32}
    (h : Loads memory logLevelGl preloadFpt base rhDataSize kind) :
    rmgmtValidateUuid memory logLevelGl preloadFpt base = 0 := by
  obtain ⟨s', pdi, clock, next, run⟩ := h
  by_contra hinvalid
  cases run with
  | op hstep rest =>
      cases hstep
      dsimp only at rest
      rw [Prog.bind, if_pos hinvalid] at rest
      cases rest

private theorem loads_of_validated (rhDataSize : UInt32)
    (hvalid : rmgmtValidateUuid memory logLevelGl preloadFpt base = 0) {pdi : UInt32 × UInt32}
    (hpdi : sectionPointer (xclbinAt memory base) bitstreamPartialPdi = some pdi) :
    Loads memory logLevelGl preloadFpt base rhDataSize bitstreamPartialPdi := by
  refine ⟨(), bytesAt (xclbinAt memory base) pdi, (sectionPointer (xclbinAt memory base)
    clockFreqTopology).map (bytesAt (xclbinAt memory base)), ?next, ?run⟩
  case run =>
    refine Prog.Exec.op (show gateStep memory logLevelGl preloadFpt base () _ 0 () from hvalid.symm) ?_
    change Prog.Exec _ _ (downloadSection (xclbinAt memory base) bitstreamPartialPdi _ >>= _) _ _
    rw [downloadSection, hpdi]
    exact .refl _ _

section Trees

open DeviceTree

def firstUuid (items : List Item) : Option (List UInt8) :=
  ((properties items).find? fun property => property.1 = interfaceUuid).map Prod.snd

def earlyUuid (items : List Item) : Option (List UInt8) :=
  ((((tokens items).take 1001).filterMap Token.property).find? fun property =>
    property.1 = interfaceUuid).map Prod.snd

/-- No property has a longer name that begins with that of the UUID. -/
def NamesClear (items : List Item) : Prop :=
  ∀ property ∈ properties items, startsUuid property → property.1 = interfaceUuid

/-- Values that the buffers of the check hold as the same text. -/
def SameUuid (value value' : List UInt8) : Prop :=
  padded uuidBytesLen (cText value) = padded uuidBytesLen (cText value')

/-- A tree with its first UUID, if it has one, among the first 1001 tokens has none, or there is a
shell and its tree has the same one. -/
def TreesAgree (memory : Memory) (preloadFpt base : UInt32) : Prop :=
  ∀ version items offset size, HoldsTree memory base version items offset size →
    NamesClear items → earlyUuid items = firstUuid items →
      firstUuid items = none ∨ ∃ value fdtdata fdtSize, firstUuid items = some value ∧
        (rmgmtFptGetXsabin memory preloadFpt noPartitions).2 = some (fdtdata, fdtSize) ∧
        ∀ version' items' offset' size', HoldsTree memory fdtdata version' items' offset' size' →
          NamesClear items' → ∃ value', firstUuid items' = some value' ∧ SameUuid value value'

private theorem firstUuid_of_early {items : List Item} {value : List UInt8}
    (h : earlyUuid items = some value) : firstUuid items = some value := by
  rw [earlyUuid] at h
  rw [firstUuid, ← filterMap_tokens, ← List.take_append_drop 1001 (tokens items),
    List.filterMap_append, List.find?_append, Option.map_or, h]
  rfl

private theorem firstTaken_of_clear {items : List Item} (hnames : NamesClear items) :
    firstTaken (retry + 1) (tokens items) =
      (((tokens items).take 1001).filterMap Token.property).find? fun property =>
        property.1 = interfaceUuid := by
  refine find?_congr_of_mem fun property hproperty => ?_
  have hmem : property ∈ properties items := by
    rw [← filterMap_tokens]
    exact ((List.take_sublist 1001 _).filterMap _).subset hproperty
  rw [Bool.eq_iff_iff, decide_eq_true_iff]
  exact ⟨hnames property hmem, fun hname => by simp [hname, startsUuid]⟩

private theorem value_of_clear {version : Nat} {items : List Item} {offset size : UInt64}
    (h : HoldsTree memory base version items offset size) (hnames : NamesClear items) :
    (rmgmtFdtGetUuids memory logLevelGl base uuidBytesLen).value =
      match earlyUuid items with
      | some value => (0, some (padded uuidBytesLen (cText value)))
      | none => (-enoent, none) := by
  rw [value_fdtGetUuids h, firstTaken_of_clear hnames, earlyUuid]
  cases (((tokens items).take 1001).filterMap Token.property).find? fun property =>
    property.1 = interfaceUuid with
  | none => rfl
  | some property => rfl

private theorem treesAgree_of_validated
    (h : rmgmtValidateUuid memory logLevelGl preloadFpt base = 0) :
    TreesAgree memory preloadFpt base := by
  intro version items offset size hholds hnames hearly
  have hfile := @value_of_clear _ logLevelGl _ _ _ _ _ hholds hnames
  rcases validateUuid_eq_zero.1 h with hnone | ⟨fdtdata, fdtSize, uuid, hxsabin, hvalue, hvalue'⟩
  · left
    rw [← hearly]
    cases hshown : earlyUuid items with
    | none => rfl
    | some value =>
        rw [hfile, hshown] at hnone
        exact absurd hnone (show (0 : Int) ≠ -enoent by decide)
  · right
    cases hshown : earlyUuid items with
    | none =>
        rw [hfile, hshown] at hvalue
        cases hvalue
    | some value =>
        refine ⟨value, fdtdata, fdtSize, hearly ▸ hshown, hxsabin, ?_⟩
        intro version' items' offset' size' hholds' hnames'
        have hshell := @value_of_clear _ logLevelGl _ _ _ _ _ hholds' hnames'
        rw [hfile, hshown] at hvalue
        rw [hshell] at hvalue'
        cases hshown' : earlyUuid items' with
        | none =>
            rw [hshown'] at hvalue'
            cases hvalue'
        | some value' =>
            rw [hshown'] at hvalue'
            refine ⟨value', firstUuid_of_early hshown', ?_⟩
            exact Option.some.inj (Prod.mk.inj (hvalue.trans hvalue'.symm)).2

end Trees

/-- Nothing is loaded unless the file has no UUID or that of the shell. -/
theorem checked_of_loads (memory : Memory) (logLevelGl : UInt8)
    (preloadFpt base rhDataSize kind : UInt32)
    (h : Loads memory logLevelGl preloadFpt base rhDataSize kind) :
    UuidChecked memory logLevelGl preloadFpt base ∧ TreesAgree memory preloadFpt base := by
  have hvalid := validated_of_loads h
  refine ⟨fun hwhole => ?_, treesAgree_of_validated hvalid⟩
  rcases validateUuid_eq_zero.1 hvalid with hnone | hmatch
  · exact .inl ((fdtGetUuids_none hnone).resolve_right hwhole)
  · exact .inr hmatch

end Gate

/-! ## A file and a shell -/

def shellTable : Memory := fun offset =>
  match offset with
  | 0 => 0x63 | 1 => 0xC5 | 2 => 0x0B | 3 => 0x3A
  | 6 => 0x80 | 7 => 1
  | 0x80 => 0x02 | 0x81 => 0x0E
  | 0x8E => 0x01
  | 0x91 => 0x10
  | _ => 0

def loadedContainer : Memory := fun address =>
  if address < vmrXclbinV2.length then vmrXclbinV2.getD address 0
  else if address = 624 then 0x50
  else if 536 ≤ address then smallTree 0 (address - 536)
  else containerOf 625 [⟨partitionMetadata, 536, 87⟩, ⟨bitstreamPartialPdi, 624, 1⟩] address

def fileAndShell : Memory := fun address =>
  if address < 0x10000 then loadedContainer address
  else if address < 0x20000 then treeContainer (smallTree 3) 99 (address - 0x10000)
  else if address < 0x7FBF0000 then 0
  else shellTable (address - 0x7FBF0000)

def smallItems (nops : Nat) : List DeviceTree.Item :=
  [.node [] (List.replicate nops .nop ++ [.prop interfaceUuid [0x61, 0x62, 0]])]

private theorem holdsTree_file : HoldsTree fileAndShell 0 17 (smallItems 0) 536 87 :=
  ⟨by decide +kernel, by decide +kernel, by decide, by decide,
    ⟨by decide, by decide +kernel, by decide +kernel⟩⟩

private theorem holdsTree_shell : HoldsTree fileAndShell 0x10000 17 (smallItems 3) 496 99 :=
  ⟨by decide +kernel, by decide +kernel, by decide, by decide,
    ⟨by decide, by decide +kernel, by decide +kernel⟩⟩

private theorem xsabin_fileAndShell : (rmgmtFptGetXsabin fileAndShell 0x7FBF0000 noPartitions).2 =
    some (0x10000, 0x1000) := by
  decide +kernel

private theorem namesClear_file : NamesClear (smallItems 0) := by
  intro property hproperty _
  rw [List.mem_singleton.1 hproperty]

private theorem namesClear_shell : NamesClear (smallItems 3) := by
  intro property hproperty _
  rw [List.mem_singleton.1 hproperty]

private theorem loads_fileAndShell : Loads fileAndShell 1 0x7FBF0000 0 625 bitstreamPartialPdi := by
  have hfile := @value_of_clear _ 1 _ _ _ _ _ holdsTree_file namesClear_file
  have hshell := @value_of_clear _ 1 _ _ _ _ _ holdsTree_shell namesClear_shell
  have hmatch : UuidsMatch fileAndShell 1 0x7FBF0000 0 :=
    ⟨_, _, _, xsabin_fileAndShell, hfile, hshell⟩
  exact loads_of_validated 625 (validateUuid_eq_zero.2 (.inr hmatch))
    (show sectionPointer _ bitstreamPartialPdi = some (624, 1) by decide +kernel)

/-- The UUID of the file is `ab`, and the shell has one that is the same. -/
theorem checked_fileAndShell :
    firstUuid (smallItems 0) = some [0x61, 0x62, 0] ∧
      ∃ value', firstUuid (smallItems 3) = some value' ∧ SameUuid [0x61, 0x62, 0] value' := by
  have hfirst : firstUuid (smallItems 0) = some [0x61, 0x62, 0] := by decide +kernel
  have hagree := (checked_of_loads fileAndShell 1 0x7FBF0000 0 625 bitstreamPartialPdi
    loads_fileAndShell).2 17 (smallItems 0) 536 87 holdsTree_file namesClear_file (by decide +kernel)
  rw [hfirst, xsabin_fileAndShell] at hagree
  rcases hagree with hnone | ⟨value, fdtdata, fdtSize, hvalue, hxsabin, hshell⟩
  · cases hnone
  · cases hvalue
    cases hxsabin
    exact ⟨hfirst, hshell 17 (smallItems 3) 496 99 holdsTree_shell namesClear_shell⟩

/-! ## A file without a UUID -/

def UuidsAgree (memory : Memory) (base fdtdata : UInt32) : Prop :=
  ∃ version items offset size version' items' offset' size' value,
    HoldsTree memory base version items offset size ∧
    HoldsTree memory fdtdata version' items' offset' size' ∧
    ((DeviceTree.properties items).find? fun property => property.1 = interfaceUuid) =
      some (interfaceUuid, value) ∧
    ((DeviceTree.properties items').find? fun property => property.1 = interfaceUuid) =
      some (interfaceUuid, value)

def bareContainer : Memory := fun address =>
  if address < vmrXclbinV2.length then vmrXclbinV2.getD address 0
  else if address = 496 then 0x50
  else containerOf 497 [⟨bitstreamPartialPdi, 496, 1⟩] address

private theorem info_bareContainer :
    rmgmtXclbinSectionInfo (xclbinAt bareContainer 0) partitionMetadata = none := by
  decide +kernel

private theorem loads_bareContainer :
    Loads bareContainer 1 0x7FBF0000 0 497 bitstreamPartialPdi := by
  have hnone : (rmgmtFdtGetUuids bareContainer 1 0 uuidBytesLen).value.1 = -enoent := by
    rw [rmgmtFdtGetUuids, if_neg (by decide +kernel), info_bareContainer]
    rfl
  exact loads_of_validated 497 (validateUuid_eq_zero.2 (.inl hnone))
    (show sectionPointer _ bitstreamPartialPdi = some (496, 1) by decide +kernel)

/-- It has a PDI that is loaded, and agrees with no shell. -/
theorem not_uuidsAgree_bareContainer :
    Loads bareContainer 1 0x7FBF0000 0 497 bitstreamPartialPdi ∧
      ∀ fdtdata, ¬ UuidsAgree bareContainer 0 fdtdata := by
  refine ⟨loads_bareContainer, ?_⟩
  rintro fdtdata ⟨version, items, offset, size, _, _, _, _, _, hholds, -, -, -⟩
  have hlocated := hholds.located
  rw [info_bareContainer] at hlocated
  cases hlocated

end Vmr.Rmgmt
