import Vmr.Rmgmt.Fdt

/-!
# What is read of a device tree

The walk over a device tree goes wherever the offsets, the lengths and the names in
it lead.  It stays in the section exactly when the header fits into it and each token
on the way does, with the name and the value that belong to it; with the log at its
debug level the whole texts have to fit.  A well-formed tree fits.
-/

namespace Vmr.Rmgmt

open Vmr.Lib Vmr.Xclbin

/-! ## The parts of a tree -/

section Format

variable (memory : Memory)

def cellAt (p : UInt32) : UInt32 :=
  be32 (memory p.toNat) (memory (p + 1).toNat) (memory (p + 2).toNat) (memory (p + 3).toNat)

def headerAt (bph : UInt32) : FdtHeader :=
  ⟨cellAt memory (bph + 20), bph + cellAt memory (bph + 8), bph + cellAt memory (bph + 12)⟩

-- the parts of a property count from behind its tag
def namePlace (header : FdtHeader) (p : UInt32) : UInt32 :=
  header.pStrings + cellAt memory (p + 4)

def valuePlace (header : FdtHeader) (p : UInt32) : UInt32 :=
  if header.version < 16 ∧ signed32 (cellAt memory p) ≥ 8 then palign (p + 8) 8 else p + 8

def HasName (header : FdtHeader) (text : List UInt8) (p : UInt32) : Prop :=
  bytesFrom memory (namePlace memory header p) text.length = text

def IsTaken (header : FdtHeader) (p : UInt32) : Prop :=
  cellAt memory p = fdtProp ∧ HasName memory header interfaceUuid (p + 4)

instance (header : FdtHeader) (text : List UInt8) (p : UInt32) :
    Decidable (HasName memory header text p) :=
  inferInstanceAs (Decidable (_ = _))

instance (header : FdtHeader) (p : UInt32) : Decidable (IsTaken memory header p) :=
  inferInstanceAs (Decidable (_ ∧ _))

def nextPlace (header : FdtHeader) (p : UInt32) : UInt32 :=
  if cellAt memory p = fdtBeginNode then
    palign (p + 4 + UInt32.ofNat (textLength memory (2 ^ 32) (p + 4)) + 1) 4
  else if cellAt memory p ≠ fdtProp then p + 4
  else palign (valuePlace memory header (p + 4) + cellAt memory (p + 4)) 4

end Format

/-! ## What fits -/

section Section

variable (bph : UInt32) (size : Nat)

def InSection (address : UInt32) : Prop := Covers bph size address.toNat

/-- So many bytes lie in the section, which may be longer than the address space. -/
def Room (p : UInt32) (length : Nat) : Prop :=
  length = 0 ∨ 2 ^ 32 ≤ size ∨ (p - bph).toNat + length ≤ size

variable (memory : Memory) (logLevelGl : UInt8) (header : FdtHeader) (uuidSize : Nat)

structure PrintedFits (p : UInt32) : Prop where
  name : Room bph size (namePlace memory header p)
    (textSize memory (2 ^ 32) (namePlace memory header p))
  behind : Room bph size (p + 8) (textSize memory (2 ^ 32) (p + 8))
  value : HasName memory header logicUuid p ∨ HasName memory header interfaceUuid p →
    Room bph size (valuePlace memory header p)
      (textSize memory (2 ^ 32) (valuePlace memory header p))

structure PropertyFits (p : UInt32) : Prop where
  cells : Room bph size p 8
  name : Room bph size (namePlace memory header p)
    (max (comparedSize memory (namePlace memory header p) logicUuid)
      (comparedSize memory (namePlace memory header p) interfaceUuid))
  value : HasName memory header interfaceUuid p → Room bph size (valuePlace memory header p)
    (textSize memory uuidSize (valuePlace memory header p))
  printed : clLogLevelDbg ≤ logLevelGl → PrintedFits bph size memory header p

structure TokenFits (p : UInt32) : Prop where
  tag : Room bph size p 4
  node : cellAt memory p = fdtBeginNode →
    Room bph size (p + 4) (textSize memory (2 ^ 32) (p + 4))
  property : cellAt memory p = fdtProp →
    PropertyFits bph size memory logLevelGl header uuidSize (p + 4)

/-- The tokens up to the end or the taken one, as many as may still be looked at. -/
def TokensFit : Nat → UInt32 → Prop
  | 0, p => Room bph size p 4
  | left + 1, p => TokenFits bph size memory logLevelGl header uuidSize p ∧
      (cellAt memory p ≠ fdtEnd → ¬ IsTaken memory header p →
        TokensFit left (nextPlace memory header p))

end Section

section Room

variable {bph : UInt32} {size : Nat} {p : UInt32}

private theorem inSection_iff {address : UInt32} :
    InSection bph size address ↔ (address - bph).toNat < size ∨ 2 ^ 32 ≤ size := by
  have hlt := bph.toNat_lt
  have hlt' := address.toNat_lt
  rw [InSection, UInt32.toNat_sub]
  constructor
  · rintro ⟨offset, hoffset, hsame⟩
    omega
  · rintro (hinside | hlong)
    · exact ⟨_, hinside, by omega⟩
    · exact ⟨(2 ^ 32 - bph.toNat + address.toNat) % 2 ^ 32, by omega, by omega⟩

private theorem room_iff {length : Nat} :
    Room bph size p length ↔ ∀ offset < length, InSection bph size (p + UInt32.ofNat offset) := by
  have hplace : ∀ offset, (p + UInt32.ofNat offset - bph).toNat =
      ((p - bph).toNat + offset) % 2 ^ 32 := by
    intro offset
    rw [UInt32.toNat_sub, UInt32.toNat_sub, toNat_add_ofNat]
    omega
  have hlt := (p - bph).toNat_lt
  simp only [inSection_iff, hplace]
  constructor
  · intro hroom offset hoffset
    rw [Room] at hroom
    omega
  · intro hall
    by_contra hnone
    rw [Room, not_or, not_or] at hnone
    obtain ⟨hpos, hshort, hlong⟩ := hnone
    rcases Nat.lt_or_ge (p - bph).toNat size with hinside | houtside
    · have hbehind := hall (size - (p - bph).toNat) (by omega)
      omega
    · have hfirst := hall 0 (by omega)
      omega

private theorem room_add {first second : Nat} : Room bph size p (first + second) ↔
    Room bph size p first ∧ Room bph size (p + UInt32.ofNat first) second := by
  simp only [room_iff]
  constructor
  · intro hall
    refine ⟨fun offset hoffset => hall offset (by omega), fun offset hoffset => ?_⟩
    rw [UInt32.add_assoc, ← UInt32.ofNat_add]
    exact hall (first + offset) (by omega)
  · rintro ⟨hfirst, hsecond⟩ offset hoffset
    rcases Nat.lt_or_ge offset first with hlt | hge
    · exact hfirst offset hlt
    · have hrest := hsecond (offset - first) (by omega)
      rwa [UInt32.add_assoc, ← UInt32.ofNat_add, Nat.add_sub_cancel' hge] at hrest

private theorem room_max {first second : Nat} : Room bph size p (max first second) ↔
    Room bph size p first ∧ Room bph size p second := by
  simp only [Room]
  omega

theorem Room.mono {length length' : Nat} (h : Room bph size p length) (hle : length' ≤ length) :
    Room bph size p length' := by
  rw [Room] at h ⊢
  omega

end Room

/-! ## What is read -/

section Reads

variable {memory : Memory} {logLevelGl : UInt8} {bph : UInt32} {size : Nat} {header : FdtHeader}
  {uuidSize : Nat}

theorem value_getCell (memory : Memory) (p : UInt32) :
    (getCell memory p).value = cellAt memory p := by
  rw [getCell, Reading.value_bind, Reading.value_pure, cellAt, ← clBswap32_le32]
  rfl

private theorem within_getCell {p : UInt32} :
    (getCell memory p).Within (InSection bph size) ↔ Room bph size p 4 := by
  rw [getCell, Reading.within_bind, within_read32, room_iff]
  exact and_iff_left (Reading.within_pure _)

private theorem within_fdtNode {p : UInt32} :
    (fdtNode memory p).Within (InSection bph size) ↔
      Room bph size p (textSize memory (2 ^ 32) p) := by
  rw [fdtNode, Reading.within_bind, within_strlen, room_iff]
  exact and_iff_left (Reading.within_pure _)

private theorem within_vmrDbg {s p : UInt32} :
    (vmrDbg memory logLevelGl s p).Within (InSection bph size) ↔
      (clLogLevelDbg ≤ logLevelGl → Room bph size s (textSize memory (2 ^ 32) s) ∧
        Room bph size p (textSize memory (2 ^ 32) p)) := by
  rw [vmrDbg]
  split
  · next hquiet =>
    exact iff_of_true (Reading.within_pure _) fun hdebug => absurd hquiet (UInt8.not_lt.2 hdebug)
  · next hdebug =>
    simp only [Reading.within_bind, within_strlen, Reading.within_pure, and_true, room_iff]
    exact ⟨fun htexts _ => htexts, fun htexts => htexts (UInt8.not_lt.1 hdebug)⟩

private theorem within_fdtProperty {p : UInt32} :
    (fdtProperty memory logLevelGl header uuidSize p).Within (InSection bph size) ↔
      PropertyFits bph size memory logLevelGl header uuidSize p := by
  have hcells : Room bph size p 8 ↔ Room bph size p 4 ∧ Room bph size (p + 4) 4 :=
    @room_add _ _ _ 4 4
  have hlogic : (strncmp memory (namePlace memory header p) logicUuid).value = true ↔
      HasName memory header logicUuid p := value_strncmp
  have hfound : (strncmp memory (namePlace memory header p) interfaceUuid).value = true ↔
      HasName memory header interfaceUuid p := value_strncmp
  rw [fdtProperty]
  simp only [Reading.within_bind, within_getCell, within_strncmp, within_vmrDbg, value_getCell,
    ← room_iff]
  rw [← namePlace, ← valuePlace]
  constructor
  · rintro ⟨hsz, hnameoff, hfirst, hcompared, hsecond, hcompared', hrest⟩
    refine ⟨hcells.2 ⟨hsz, hnameoff⟩, room_max.2 ⟨hcompared, hcompared'⟩, fun hname => ?_,
      fun hdebug => ⟨(hfirst hdebug).1, (hfirst hdebug).2, ?_⟩⟩
    · rw [if_pos (hfound.2 hname)] at hrest
      simp only [Reading.within_bind, within_strncpy, ← room_iff] at hrest
      exact hrest.2.1
    · rintro (hname | hname)
      · rw [if_pos (hlogic.2 hname), within_vmrDbg] at hsecond
        exact (hsecond hdebug).2
      · rw [if_pos (hfound.2 hname)] at hrest
        simp only [Reading.within_bind, within_vmrDbg] at hrest
        exact (hrest.1 hdebug).2
  · rintro ⟨hsizes, hname, hvalue, hprinted⟩
    have hshown : HasName memory header logicUuid p ∨ HasName memory header interfaceUuid p →
        (vmrDbg memory logLevelGl (namePlace memory header p)
          (valuePlace memory header p)).Within (InSection bph size) := by
      intro hnamed
      rw [within_vmrDbg]
      exact fun hdebug => ⟨(hprinted hdebug).name, (hprinted hdebug).value hnamed⟩
    refine ⟨(hcells.1 hsizes).1, (hcells.1 hsizes).2,
      fun hdebug => ⟨(hprinted hdebug).name, (hprinted hdebug).behind⟩, (room_max.1 hname).1, ?_,
      (room_max.1 hname).2, ?_⟩
    · split
      next htrue => exact hshown (.inl (hlogic.1 htrue))
      next => exact Reading.within_pure _
    · split
      next htrue =>
        simp only [Reading.within_bind, within_strncpy, ← room_iff]
        exact ⟨hshown (.inr (hfound.1 htrue)), hvalue (hfound.1 htrue), Reading.within_pure _⟩
      next => exact Reading.within_pure _

private theorem within_fdtToken {p : UInt32} (htag : Room bph size p 4) :
    (fdtToken memory logLevelGl header uuidSize (cellAt memory p) (p + 4)).Within
        (InSection bph size) ↔
      TokenFits bph size memory logLevelGl header uuidSize p := by
  rw [fdtToken]
  by_cases hnode : cellAt memory p = fdtBeginNode
  · rw [if_pos hnode, within_fdtNode]
    constructor
    · refine fun hname => ⟨htag, fun _ => hname, fun hprop => ?_⟩
      rw [hnode] at hprop
      exact absurd hprop (by decide)
    · exact fun htoken => htoken.node hnode
  · rw [if_neg hnode]
    by_cases hprop : cellAt memory p ≠ fdtProp
    · rw [if_pos hprop]
      exact iff_of_true (Reading.within_pure _)
        ⟨htag, fun hbegin => absurd hbegin hnode, fun hsame => absurd hsame hprop⟩
    · rw [if_neg hprop, within_fdtProperty]
      constructor
      · exact fun hproperty => ⟨htag, fun hbegin => absurd hbegin hnode, fun _ => hproperty⟩
      · exact fun htoken => htoken.property (not_not.1 hprop)

/-- The walk ends at the property that is taken, and otherwise comes to the next token. -/
theorem value_fdtToken (memory : Memory) (logLevelGl : UInt8) (header : FdtHeader)
    (uuidSize : Nat) (p : UInt32) :
    (fdtToken memory logLevelGl header uuidSize (cellAt memory p) (p + 4)).value =
      if IsTaken memory header p then
        .found (strncpy memory (valuePlace memory header (p + 4)) uuidSize).value
      else .next (nextPlace memory header p) := by
  rw [fdtToken, nextPlace]
  by_cases hnode : cellAt memory p = fdtBeginNode
  · have hprop : cellAt memory p ≠ fdtProp := by
      rw [hnode]
      decide
    rw [if_pos hnode, if_pos hnode, if_neg fun h => hprop h.1, fdtNode, Reading.value_bind,
      value_strlen_eq]
    rfl
  rw [if_neg hnode, if_neg hnode]
  by_cases hprop : cellAt memory p ≠ fdtProp
  · rw [if_pos hprop, if_pos hprop, if_neg fun h => hprop h.1]
    rfl
  rw [if_neg hprop, if_neg hprop, fdtProperty]
  simp only [Reading.value_bind, value_getCell]
  rw [← namePlace, ← valuePlace]
  by_cases hname : HasName memory header interfaceUuid (p + 4)
  · have htaken : IsTaken memory header p := ⟨not_not.1 hprop, hname⟩
    rw [if_pos (value_strncmp.2 hname), if_pos htaken]
    rfl
  · have hother : ¬ IsTaken memory header p := fun htaken => hname htaken.2
    rw [if_neg fun htrue => hname (value_strncmp.1 htrue), if_neg hother]
    rfl

private theorem within_fdtWalk {left : Nat} {p : UInt32} :
    (fdtWalk memory logLevelGl header uuidSize left p).Within (InSection bph size) ↔
      TokensFit bph size memory logLevelGl header uuidSize left p := by
  induction left generalizing p with
  | zero =>
      rw [fdtWalk, Reading.within_bind, within_getCell, TokensFit]
      exact and_iff_left (Reading.within_pure _)
  | succ left ih =>
      rw [fdtWalk, Reading.within_bind, within_getCell, value_getCell, TokensFit]
      by_cases hend : cellAt memory p = fdtEnd
      · rw [if_pos hend]
        have hnode : cellAt memory p ≠ fdtBeginNode := hend ▸ by decide
        have hprop : cellAt memory p ≠ fdtProp := hend ▸ by decide
        constructor
        · rintro ⟨htag, -⟩
          exact ⟨⟨htag, fun hsame => absurd hsame hnode, fun hsame => absurd hsame hprop⟩,
            fun hne => absurd hend hne⟩
        · exact fun htokens => ⟨htokens.1.tag, Reading.within_pure _⟩
      · rw [if_neg hend, Reading.within_bind, value_fdtToken]
        by_cases htaken : IsTaken memory header p
        · rw [if_pos htaken]
          constructor
          · rintro ⟨htag, htoken, -⟩
            exact ⟨(within_fdtToken htag).1 htoken, fun _ hother => absurd htaken hother⟩
          · exact fun htokens => ⟨htokens.1.tag, (within_fdtToken htokens.1.tag).2 htokens.1,
              Reading.within_pure _⟩
        · rw [if_neg htaken]
          constructor
          · rintro ⟨htag, htoken, hrest⟩
            exact ⟨(within_fdtToken htag).1 htoken, fun _ _ => ih.1 hrest⟩
          · exact fun htokens => ⟨htokens.1.tag, (within_fdtToken htokens.1.tag).2 htokens.1,
              ih.2 (htokens.2 hend htaken)⟩

/-! ## The header -/

private theorem room_header {offset : Nat} (hoffset : offset ≤ 20) :
    Room bph size (bph + UInt32.ofNat offset) 4 ↔ offset + 4 ≤ size := by
  have hlt := bph.toNat_lt
  have hplace : (bph + UInt32.ofNat offset - bph).toNat = offset := by
    rw [UInt32.toNat_sub, toNat_add_ofNat]
    omega
  rw [Room, hplace]
  omega

theorem value_fdtHeader (memory : Memory) (bph : UInt32) :
    (fdtHeader memory bph).value = headerAt memory bph := by
  rw [fdtHeader, headerAt]
  simp only [Reading.value_bind, value_getCell]
  rfl

private theorem within_fdtHeader :
    (fdtHeader memory bph).Within (InSection bph size) ↔ 24 ≤ size := by
  have hcell (offset : Nat) (hoffset : offset ≤ 20) :
      (∀ next < 4, InSection bph size (bph + UInt32.ofNat offset + UInt32.ofNat next)) ↔
        offset + 4 ≤ size :=
    room_iff.symm.trans (room_header hoffset)
  have hfirst : (∀ next < 4, InSection bph size (bph + UInt32.ofNat next)) ↔ 4 ≤ size := by
    have hzero := hcell 0 (by decide)
    rwa [show bph + UInt32.ofNat 0 = bph from UInt32.add_zero bph] at hzero
  rw [fdtHeader]
  simp only [Reading.within_bind, within_getCell, within_read32, room_iff]
  constructor
  · exact fun hheader => (hcell 20 (by decide)).1 hheader.1
  · intro hroom
    exact ⟨(hcell 20 (by decide)).2 (by omega), (hcell 8 (by decide)).2 (by omega),
      hfirst.2 (by omega), (hcell 4 (by decide)).2 (by omega), (hcell 8 (by decide)).2 (by omega),
      (hcell 12 (by decide)).2 (by omega), (hcell 12 (by decide)).2 (by omega),
      Reading.within_pure _⟩

end Reads

/-! ## The whole walk -/

section Tree

variable (memory : Memory) (logLevelGl : UInt8) (fdtAddr : UInt32) (uuidSize : Nat)

/-- All reads on the device tree lie in its section. -/
def ReadsInside : Prop :=
  ∀ offset size, rmgmtXclbinSectionInfo (xclbinAt memory fdtAddr) partitionMetadata =
    some (offset, size) → (rmgmtFdtGetUuids memory logLevelGl fdtAddr uuidSize).Within
      (InSection (fdtAddr + offset.toUInt32) size.toNat)

/-- In a valid container, the section has a header and the tokens on the way of the walk. -/
def TreeFits : Prop :=
  rmgmtXclbinValidate (xclbinAt memory fdtAddr) = 0 →
    ∀ offset size, rmgmtXclbinSectionInfo (xclbinAt memory fdtAddr) partitionMetadata =
      some (offset, size) → size ≠ 0 →
        let bph := fdtAddr + offset.toUInt32
        let header := headerAt memory bph
        24 ≤ size.toNat ∧ TokensFit bph size.toNat memory logLevelGl header uuidSize (retry + 1)
          header.pStruct

variable {memory fdtAddr}

private theorem within_section {offset size : UInt64}
    (hvalid : rmgmtXclbinValidate (xclbinAt memory fdtAddr) = 0)
    (hinfo : rmgmtXclbinSectionInfo (xclbinAt memory fdtAddr) partitionMetadata =
      some (offset, size)) (hsize : size ≠ 0) :
    let bph := fdtAddr + offset.toUInt32
    let header := headerAt memory bph
    (rmgmtFdtGetUuids memory logLevelGl fdtAddr uuidSize).Within (InSection bph size.toNat) ↔
      24 ≤ size.toNat ∧ TokensFit bph size.toNat memory logLevelGl header uuidSize (retry + 1)
        header.pStruct := by
  intro bph header
  rw [rmgmtFdtGetUuids, if_neg (not_not.2 hvalid), hinfo]
  dsimp only
  rw [if_neg hsize, Reading.within_bind, Reading.within_bind, within_fdtHeader, within_fdtWalk,
    value_fdtHeader]
  refine and_congr_right fun _ => and_iff_left ?_
  split <;> exact Reading.within_pure _

end Tree

theorem readsInside_iff (memory : Memory) (logLevelGl : UInt8) (fdtAddr : UInt32)
    (uuidSize : Nat) :
    ReadsInside memory logLevelGl fdtAddr uuidSize ↔
      TreeFits memory logLevelGl fdtAddr uuidSize := by
  constructor
  · intro hreads hvalid offset size hinfo hsize
    exact (within_section logLevelGl uuidSize hvalid hinfo hsize).1 (hreads offset size hinfo)
  · intro htree offset size hinfo
    by_cases hvalid : rmgmtXclbinValidate (xclbinAt memory fdtAddr) = 0
    · by_cases hsize : size = 0
      · rw [rmgmtFdtGetUuids, if_neg (not_not.2 hvalid), hinfo]
        dsimp only
        rw [if_pos hsize]
        exact Reading.within_pure _
      · exact (within_section logLevelGl uuidSize hvalid hinfo hsize).2
          (htree hvalid offset size hinfo hsize)
    · rw [rmgmtFdtGetUuids, if_pos hvalid]
      exact Reading.within_pure _

/-! ## Well-formed trees -/

section WellFormed

open DeviceTree

variable {memory tree : Memory} {logLevelGl : UInt8} {bph : UInt32} {size : Nat}
  {header : FdtHeader} {strings address next : Nat} {p : UInt32}

theorem TreeIn.cellAt (h : TreeIn memory tree bph size) (hp : p.toNat = bph.toNat + address)
    (hroom : address + 4 ≤ size) : cellAt memory p = cell tree address :=
  (value_getCell memory p).symm.trans (h.getCell hp hroom)

private theorem room_of_cursor (hp : p.toNat = bph.toNat + address) {length : Nat}
    (hroom : address + length ≤ size) : Room bph size p length := by
  have hlt := p.toNat_lt
  have hplace : (p - bph).toNat = address := by
    rw [UInt32.toNat_sub]
    omega
  rw [Room, hplace]
  exact .inr (.inr hroom)

theorem TreeIn.zero (h : TreeIn memory tree bph size) (hp : p.toNat = bph.toNat + address)
    {n : Nat} (hzero : tree (address + n) = 0) (hinside : address + n < size) :
    memory (p + UInt32.ofNat n).toNat = 0 := by
  have hfits := h.room
  rw [toNat_cursor hp (by omega), h.tree_eq _ hinside, hzero]

private theorem TreeIn.room_text (h : TreeIn memory tree bph size)
    (hp : p.toNat = bph.toNat + address)
    {n : Nat} (hzero : tree (address + n) = 0) (hinside : address + n < size) (limit : Nat) :
    Room bph size p (textSize memory limit p) :=
  (room_of_cursor hp hinside).mono (textSize_le (h.zero hp hzero hinside))

private theorem TreeIn.room_compared (h : TreeIn memory tree bph size)
    (hp : p.toNat = bph.toNat + address) {n : Nat} (hzero : tree (address + n) = 0)
    (hinside : address + n < size) {text : List UInt8} (htext : 0 ∉ text) :
    Room bph size p (comparedSize memory p text) :=
  (room_of_cursor hp hinside).mono (comparedSize_le htext (h.zero hp hzero hinside))

private theorem propertyFits_of_tokenAt (h : TreeBase memory tree bph size header.version)
    (uuidSize : Nat) (hstrings : strings < size → header.pStrings.toNat = bph.toNat + strings)
    (hp : p.toNat = bph.toNat + address) {name value : List UInt8} {tokens : List Token}
    (htoken : TokenAt tree header.version.toNat strings size address next (.prop name value))
    (htokens : TokensAt tree header.version.toNat strings size tokens next) :
    PropertyFits bph size memory logLevelGl header uuidSize (p + 4) := by
  have hfits := h.room
  have hroom := htokens.room
  have hproperty : PropertyAt tree strings size address
    (valueStart header.version.toNat (address + 12) value) next name value := htoken
  have hstart := le_valueStart header.version.toNat (address + 12) value
  have hpadding := le_alignUp (valueStart header.version.toNat (address + 12) value + value.length)
    (show 0 < 4 by decide)
  rw [← hproperty.follows] at hpadding
  have hp4 : (p + 4).toNat = bph.toNat + (address + 4) := @toNat_cursor _ _ _ hp 4 (by omega)
  have hp8 : (p + 4 + 4).toNat = bph.toNat + (address + 8) :=
    @toNat_cursor _ _ _ hp4 4 (by omega)
  have hp12 : (p + 4 + 8).toNat = bph.toNat + (address + 12) :=
    @toNat_cursor _ _ _ hp4 8 (by omega)
  have hsz : (Rmgmt.cellAt memory (p + 4)).toNat = value.length := by
    rw [h.cellAt hp4 (by omega)]
    exact hproperty.length
  have hplace := hproperty.inside
  have hname : (namePlace memory header (p + 4)).toNat =
      bph.toNat + (strings + (cell tree (address + 8)).toNat) := by
    rw [namePlace, h.cellAt hp8 (by omega), UInt32.toNat_add, hstrings (by omega)]
    omega
  have hvalue : (valuePlace memory header (p + 4)).toNat =
      bph.toNat + valueStart header.version.toNat (address + 12) value :=
    toNat_valueStart h hp4 hsz hproperty.short (show _ < _ by
      rw [show address + 4 + 8 = address + 12 from rfl]
      omega)
  have hnamed := hproperty.named.zero_end
  have hended := hproperty.zero_end htokens
  have hlogic := h.room_compared hname hnamed hplace (show 0 ∉ logicUuid by decide)
  have hfound := h.room_compared hname hnamed hplace not_mem_interfaceUuid
  have hrest : address + 12 + (valueStart header.version.toNat (address + 12) value -
      (address + 12) + value.length) =
        valueStart header.version.toNat (address + 12) value + value.length := by omega
  refine ⟨room_of_cursor hp4 (by omega), room_max.2 ⟨hlogic, hfound⟩,
    fun _ => h.room_text hvalue hended (by omega) uuidSize, fun _ => ?_⟩
  exact ⟨h.room_text hname hnamed hplace _,
    h.room_text hp12 (hrest ▸ hended) (by omega) _, fun _ => h.room_text hvalue hended (by omega) _⟩

private theorem tokenFits_of_tokenAt (h : TreeBase memory tree bph size header.version)
    (uuidSize : Nat) (hstrings : strings < size → header.pStrings.toNat = bph.toNat + strings)
    (hp : p.toNat = bph.toNat + address) {token : Token} {tokens : List Token}
    (htoken : TokenAt tree header.version.toNat strings size address next token)
    (htokens : TokensAt tree header.version.toNat strings size tokens next) :
    TokenFits bph size memory logLevelGl header uuidSize p := by
  have hroom := htokens.room
  have hnext := htoken.le_next
  have htag := h.cellAt hp (by omega)
  refine ⟨room_of_cursor hp (by omega), fun hnode => ?_, fun hprop => ?_⟩
  · rw [htag] at hnode
    cases token with
    | beginNode name =>
        obtain ⟨-, hname, rfl⟩ := htoken
        have hfits := h.room
        have hpadding := le_alignUp (address + 4 + name.length + 1) (show 0 < 4 by decide)
        have hp4 : (p + 4).toNat = bph.toNat + (address + 4) := @toNat_cursor _ _ _ hp 4 (by omega)
        exact h.room_text hp4 hname.zero_end (by omega) _
    | endNode | nop =>
        rw [htoken.1] at hnode
        exact absurd hnode (by decide)
    | prop name value =>
        rw [PropertyAt.tag htoken] at hnode
        exact absurd hnode (by decide)
  · rw [htag] at hprop
    cases token with
    | prop name value => exact propertyFits_of_tokenAt h uuidSize hstrings hp htoken htokens
    | beginNode name | endNode | nop =>
        rw [htoken.1] at hprop
        exact absurd hprop (by decide)

private theorem tokensFit_of_tokensAt (h : TreeBase memory tree bph size header.version)
    (uuidSize left : Nat) (hstrings : strings < size → header.pStrings.toNat = bph.toNat + strings)
    {tokens : List Token} (hp : p.toNat = bph.toNat + address)
    (htokens : TokensAt tree header.version.toNat strings size tokens address) :
    TokensFit bph size memory logLevelGl header uuidSize left p := by
  induction left generalizing tokens address p with
  | zero => exact room_of_cursor hp htokens.room
  | succ left ih =>
      have htag := h.cellAt hp htokens.room
      cases tokens with
      | nil =>
          have hend : Rmgmt.cellAt memory p = fdtEnd := htag.trans htokens.1
          refine ⟨⟨room_of_cursor hp htokens.2, fun hnode => ?_, fun hprop => ?_⟩,
            fun hne => absurd hend hne⟩
          · exact absurd (hend.symm.trans hnode) (by decide)
          · exact absurd (hend.symm.trans hprop) (by decide)
      | cons token tokens =>
          obtain ⟨next, htoken, hrest⟩ := htokens
          refine ⟨tokenFits_of_tokenAt h uuidSize hstrings hp htoken hrest, fun _ hother => ?_⟩
          have hstep := (@stepped_token _ _ _ _ _ logLevelGl _ _ _ _ h uuidSize hstrings hp _ _
            htoken hrest).2
          rw [← htag, value_fdtToken, if_neg hother] at hstep
          cases hstep with
          | next _ hnext => exact ih hnext hrest

theorem treeFits_of_holdsTree {fdtAddr : UInt32} {version : Nat} {items : List Item}
    {offset size : UInt64} (h : HoldsTree memory fdtAddr version items offset size)
    (logLevelGl : UInt8) (uuidSize : Nat) : TreeFits memory logLevelGl fdtAddr uuidSize := by
  intro _ offset' size' hinfo hsize bph header
  obtain ⟨rfl, rfl⟩ : offset = offset' ∧ size = size' := by
    rw [h.located] at hinfo
    cases hinfo
    exact ⟨rfl, rfl⟩
  have hroom := h.tree.header
  have htokens := h.tree.tokens
  have hinside := htokens.room
  have hfits := h.room
  obtain ⟨hbase, hversion, hstruct, hstrings, hbph⟩ := h.base
  rw [value_fdtHeader] at hbase hversion hstruct hstrings
  rw [← hversion] at htokens
  refine ⟨hroom, tokensFit_of_tokensAt hbase uuidSize (retry + 1) ?_ ?_ htokens⟩
  · intro hless
    rw [hstrings, toNat_add_of_lt (by omega)]
  · rw [hstruct, toNat_add_of_lt (by omega)]

end WellFormed

/-- The structure of this tree is behind the section, which has the header only. -/
def headerOnly : Memory := fun address =>
  ([0xD00DFEED, 24, 24, 24, 24, 17].flatMap cellBytes).getD address 0

theorem not_readsInside_headerOnly : ¬ ReadsInside (treeContainer headerOnly 24) 1 0 33 := by
  intro hreads
  have hinfo : rmgmtXclbinSectionInfo (xclbinAt (treeContainer headerOnly 24) 0)
      partitionMetadata = some (496, 24) := by
    decide +kernel
  have hinside := (within_section 1 33 (by decide +kernel) hinfo (by decide)).1
    (hreads 496 24 hinfo)
  have hroom := hinside.2.1.tag
  revert hroom
  rw [show (headerAt (treeContainer headerOnly 24) (0 + UInt64.toUInt32 496)).pStruct = 520 by
    decide +kernel]
  simp only [Room]
  decide

end Vmr.Rmgmt
