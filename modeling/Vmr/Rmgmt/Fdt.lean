import Vmr.Lib.DeviceTree
import Vmr.Rmgmt.LogSources
import Vmr.Xclbin.Remove

/-!
# The device tree of an xclbin

`rmgmt_fdt_get_uuids` walks over the tokens of the device tree in the
`PARTITION_METADATA` section of an xclbin until it comes to an interface UUID.
-/

namespace Vmr.Rmgmt

open Vmr.Lib Vmr.Xclbin

def partitionMetadata : UInt32 := 20

def fdtBeginNode : UInt32 := 0x00000001
def fdtProp : UInt32 := 0x00000003
def fdtEnd : UInt32 := 0x00000009

def logicUuid : List UInt8 := ascii "logic_uuid"
def interfaceUuid : List UInt8 := ascii "interface_uuid"

def vmrXclbinV2 : List UInt8 := ascii "xclbin2" ++ [0]

def rmgmtXclbinValidate (xclbin : Memory) : Int :=
  if xclbin.slice 0 vmrXclbinV2.length ≠ vmrXclbinV2 then -einval else 0

def clBswap32 (x : UInt32) : UInt32 :=
  x >>> (24 : UInt32) ||| x >>> (8 : UInt32) &&& (0xff00 : UInt32) |||
    x <<< (8 : UInt32) &&& (0xff0000 : UInt32) ||| x <<< (24 : UInt32)

def palign (p a : UInt32) : UInt32 := p + (a - 1) &&& ~~~(a - 1)

def clLogLevelDbg : UInt8 := 2

section Walk

variable (memory : Memory) (logLevelGl : UInt8)

def getCell (p : UInt32) : Reading UInt32 := do
  let cell ← read32 memory p
  return clBswap32 cell

structure FdtHeader where
  version : UInt32
  pStruct : UInt32
  pStrings : UInt32

/-- The first four cells are read once more for a message, whether it is printed or not. -/
def fdtHeader (bph : UInt32) : Reading FdtHeader := do
  let version ← getCell memory (bph + 20)
  let offDt ← getCell memory (bph + 8)
  let _ ← read32 memory bph
  let _ ← read32 memory (bph + 4)
  let _ ← read32 memory (bph + 8)
  let _ ← read32 memory (bph + 12)
  let offStr ← getCell memory (bph + 12)
  return ⟨version, bph + offDt, bph + offStr⟩

inductive FdtStep
  | found (intUuid : List UInt8)
  | next (p : UInt32)
  deriving DecidableEq, Repr

def fdtNode (p : UInt32) : Reading FdtStep := do
  let length ← strlen memory (2 ^ 32) p
  return .next (palign (p + UInt32.ofNat length + 1) 4)

def vmrDbg (s p : UInt32) : Reading Unit :=
  if clLogLevelDbg > logLevelGl then return ()
  else do
    let _ ← strlen memory (2 ^ 32) s
    let _ ← strlen memory (2 ^ 32) p
    return ()

def fdtProperty (header : FdtHeader) (uuidSize : Nat) (p : UInt32) : Reading FdtStep := do
  let sz ← getCell memory p
  let nameoff ← getCell memory (p + 4)
  let s := header.pStrings + nameoff
  let _ ← vmrDbg memory logLevelGl s (p + 8)
  let p := if header.version < 16 ∧ signed32 sz ≥ 8 then palign (p + 8) 8 else p + 8
  let logic ← strncmp memory s logicUuid
  let _ ← (if logic then vmrDbg memory logLevelGl s p else pure () : Reading Unit)
  let found ← strncmp memory s interfaceUuid
  if found then
    let _ ← vmrDbg memory logLevelGl s p
    let intUuid ← strncpy memory p uuidSize
    return .found intUuid
  else return .next (palign (p + sz) 4)

def fdtToken (header : FdtHeader) (uuidSize : Nat) (tag p : UInt32) : Reading FdtStep :=
  if tag = fdtBeginNode then fdtNode memory p
  else if tag ≠ fdtProp then return .next p
  else fdtProperty memory logLevelGl header uuidSize p

/-- The loop, for as many tokens as may still be looked at. -/
def fdtWalk (header : FdtHeader) (uuidSize : Nat) : Nat → UInt32 → Reading (Option (List UInt8))
  | 0, p => do
      let _ ← getCell memory p
      return none
  | left + 1, p => do
      let tag ← getCell memory p
      if tag = fdtEnd then return none
      else
        let step ← fdtToken memory logLevelGl header uuidSize tag (p + 4)
        match step with
        | .found intUuid => return some intUuid
        | .next p => fdtWalk header uuidSize left p

def retry : Nat := 1000

def xclbinAt (address : UInt32) : Memory := fun offset => memory ((address.toNat + offset) % 2 ^ 32)

def rmgmtFdtGetUuids (fdtAddr : UInt32) (uuidSize : Nat) : Reading (Int × Option (List UInt8)) :=
  let axlf := xclbinAt memory fdtAddr
  let ret := rmgmtXclbinValidate axlf
  if ret ≠ 0 then return (ret, none)
  else match rmgmtXclbinSectionInfo axlf partitionMetadata with
    | none => return (-enoent, none)
    | some (offset, size) =>
        if size = 0 then return (-enoent, none)
        else do
          let header ← fdtHeader memory (fdtAddr + offset.toUInt32)
          -- the loop looks at one token more than it may be tried again
          let found ← fdtWalk memory logLevelGl header uuidSize (retry + 1) header.pStruct
          match found with
          | some intUuid => return (0, some intUuid)
          | none => return (-enoent, none)

end Walk

/-! ## Reading well-formed trees -/

theorem clBswap32_le32 (b0 b1 b2 b3 : UInt8) : clBswap32 (le32 b0 b1 b2 b3) = be32 b0 b1 b2 b3 := by
  have h0 := b0.toNat_lt
  have h1 := b1.toNat_lt
  have h2 := b2.toNat_lt
  have h3 := b3.toNat_lt
  have hfirst : (le32 b0 b1 b2 b3 >>> (24 : UInt32)).toNat = b3.toNat := by
    rw [UInt32.toNat_shiftRight, toNat_le32, Nat.shiftRight_eq_div_pow]
    simp only [UInt32.reduceToNat, Nat.reduceMod]
    omega
  have hsecond : (le32 b0 b1 b2 b3 >>> (8 : UInt32) &&& (0xff00 : UInt32)).toNat =
      b2.toNat * 2 ^ 8 := by
    rw [UInt32.toNat_and, show (0xff00 : UInt32).toNat = (2 ^ 8 - 1) * 2 ^ 8 from rfl, and_field,
      UInt32.toNat_shiftRight, toNat_le32, Nat.shiftRight_eq_div_pow]
    simp only [UInt32.reduceToNat, Nat.reduceMod]
    omega
  have hthird : (le32 b0 b1 b2 b3 <<< (8 : UInt32) &&& (0xff0000 : UInt32)).toNat =
      b1.toNat * 2 ^ 16 := by
    rw [UInt32.toNat_and, show (0xff0000 : UInt32).toNat = (2 ^ 8 - 1) * 2 ^ 16 from rfl, and_field,
      UInt32.toNat_shiftLeft, toNat_le32, Nat.shiftLeft_eq]
    simp only [UInt32.reduceToNat, Nat.reduceMod]
    omega
  have hfourth : (le32 b0 b1 b2 b3 <<< (24 : UInt32)).toNat = b0.toNat * 2 ^ 24 := by
    rw [UInt32.toNat_shiftLeft, toNat_le32, Nat.shiftLeft_eq]
    simp only [UInt32.reduceToNat, Nat.reduceMod]
    omega
  have hlow : b3.toNat ||| b2.toNat * 2 ^ 8 = b3.toNat + b2.toNat * 2 ^ 8 := or_field _ h3
  have hmiddle : b3.toNat + b2.toNat * 2 ^ 8 ||| b1.toNat * 2 ^ 16 =
      b3.toNat + b2.toNat * 2 ^ 8 + b1.toNat * 2 ^ 16 := or_field _ (by omega)
  have hhigh : b3.toNat + b2.toNat * 2 ^ 8 + b1.toNat * 2 ^ 16 ||| b0.toNat * 2 ^ 24 =
      b3.toNat + b2.toNat * 2 ^ 8 + b1.toNat * 2 ^ 16 + b0.toNat * 2 ^ 24 := or_field _ (by omega)
  apply UInt32.toNat_inj.1
  rw [clBswap32, UInt32.toNat_or, UInt32.toNat_or, UInt32.toNat_or, hfirst, hsecond, hthird,
    hfourth, hlow, hmiddle, hhigh, be32, toNat_le32]
  omega

private theorem toNat_palign {p a : UInt32} {bits : Nat} (ha : a.toNat = 2 ^ bits)
    (h : DeviceTree.alignUp p.toNat a.toNat < 2 ^ 32) :
    (palign p a).toNat = DeviceTree.alignUp p.toNat a.toNat := by
  have hlt := a.toNat_lt
  have hpos := Nat.two_pow_pos bits
  have hbits : bits < 32 := by
    rw [ha] at hlt
    exact (Nat.pow_lt_pow_iff_right (by decide)).1 hlt
  have hsplit : 2 ^ 32 = 2 ^ (32 - bits) * 2 ^ bits := by
    rw [← Nat.pow_add, Nat.sub_add_cancel (Nat.le_of_lt hbits)]
  have hless : (a - 1).toNat = 2 ^ bits - 1 := by
    rw [UInt32.toNat_sub, ha, UInt32.toNat_one]
    omega
  have hmask : (~~~(a - 1)).toNat = (2 ^ (32 - bits) - 1) * 2 ^ bits := by
    rw [UInt32.toNat_not, hless, Nat.sub_mul, ← hsplit, Nat.one_mul]
    simp only [UInt32.size]
    omega
  rw [DeviceTree.alignUp, ha] at h ⊢
  have hle : p.toNat + (2 ^ bits - 1) < 2 ^ 32 := by
    have hdiv := Nat.div_add_mod (p.toNat + (2 ^ bits - 1)) (2 ^ bits)
    have hmod := Nat.mod_lt (p.toNat + (2 ^ bits - 1)) hpos
    rw [Nat.mul_comm] at hdiv
    have hquotient : (p.toNat + (2 ^ bits - 1)) / 2 ^ bits < 2 ^ (32 - bits) := by
      rw [hsplit] at h
      exact Nat.lt_of_mul_lt_mul_right h
    have hroom : ((p.toNat + (2 ^ bits - 1)) / 2 ^ bits + 1) * 2 ^ bits ≤ 2 ^ 32 := by
      rw [hsplit]
      exact Nat.mul_le_mul_right _ hquotient
    rw [Nat.add_mul] at hroom
    omega
  have hadd : (p + (a - 1)).toNat = p.toNat + (2 ^ bits - 1) := by
    rw [UInt32.toNat_add, hless, Nat.mod_eq_of_lt hle]
  rw [palign, UInt32.toNat_and, hmask, and_field, hadd, Nat.mod_eq_of_lt]
  rw [Nat.div_lt_iff_lt_mul hpos, ← hsplit]
  exact hle

structure TreeIn (memory : Memory) (tree : Memory) (bph : UInt32) (size : Nat) : Prop where
  tree_eq : ∀ offset < size, memory (bph.toNat + offset) = tree offset
  room : bph.toNat + size ≤ 2 ^ 32

/-- It lies where its cells, and its values, are aligned. -/
structure TreeBase (memory : Memory) (tree : Memory) (bph : UInt32) (size : Nat)
    (version : UInt32) : Prop extends TreeIn memory tree bph size where
  four : 4 ∣ bph.toNat
  eight : version < 16 → 8 ∣ bph.toNat

section Tree

open DeviceTree

variable {memory tree : Memory} {bph : UInt32} {size : Nat} {header : FdtHeader}
  {logLevelGl : UInt8} {strings address next : Nat} {p : UInt32}

theorem TreeIn.slice (h : TreeIn memory tree bph size)
    (hp : p.toNat = bph.toNat + address) {length : Nat} (hroom : address + length ≤ size) :
    bytesFrom memory p length = tree.slice address length := by
  have hfits := h.room
  rw [bytesFrom_eq_slice (by omega), hp]
  exact Memory.slice_shift fun offset hoffset => by
    rw [Nat.add_assoc]
    exact h.tree_eq _ (by omega)

theorem TreeIn.getCell (h : TreeIn memory tree bph size)
    (hp : p.toNat = bph.toNat + address) (hroom : address + 4 ≤ size) :
    (getCell memory p).value = cell tree address := by
  have hfits := h.room
  rw [Rmgmt.getCell, Reading.value_bind, Reading.value_pure, value_read32 (by omega), clBswap32_le32, hp, cell]
  simp only [Nat.add_assoc]
  rw [h.tree_eq _ (by omega), h.tree_eq _ (by omega), h.tree_eq _ (by omega), h.tree_eq _ (by omega)]

theorem toNat_add_of_lt {a b : UInt32} (h : a.toNat + b.toNat < 2 ^ 32) :
    (a + b).toNat = a.toNat + b.toNat := by
  rw [UInt32.toNat_add, Nat.mod_eq_of_lt h]

theorem toNat_cursor (hp : p.toNat = bph.toNat + address) {offset : Nat}
    (hroom : bph.toNat + (address + offset) < 2 ^ 32) :
    (p + UInt32.ofNat offset).toNat = bph.toNat + (address + offset) := by
  rw [toNat_add_lt (by omega)]
  omega

/-- Properties whose name begins with that of the interface UUID are taken for it. -/
def startsUuid (property : Property) : Bool := interfaceUuid.isPrefixOf property.1

inductive Stepped (base next uuidSize : Nat) (token : Token) : FdtStep → Prop
  | found (property : Property) (htoken : token.property = some property)
      (hname : startsUuid property = true) :
      Stepped base next uuidSize token (.found (padded uuidSize (cText property.2)))
  | next (p : UInt32) (hp : p.toNat = base + next)
      (hother : ∀ property, token.property = some property → startsUuid property = false) :
      Stepped base next uuidSize token (.next p)

private theorem stepped_node (h : TreeBase memory tree bph size header.version) (uuidSize : Nat)
    (hp : p.toNat = bph.toNat + address) {name : List UInt8}
    (htoken : TokenAt tree header.version.toNat strings size address next (.beginNode name))
    (hroom : next + 4 ≤ size) :
    Stepped bph.toNat next uuidSize (.beginNode name) (fdtNode memory (p + 4)).value := by
  have hfits := h.room
  obtain ⟨-, ⟨htext, hname⟩, hnext⟩ := htoken
  have hpadding := le_alignUp (address + 4 + name.length + 1) (show 0 < 4 by decide)
  rw [← hnext] at hpadding
  have hstart : (p + 4).toNat = bph.toNat + (address + 4) := @toNat_cursor _ _ _ hp 4 (by omega)
  have hlength : (strlen memory (2 ^ 32) (p + 4)).value = name.length := by
    refine value_strlen ?_ htext (by omega)
    rw [h.slice hstart (by omega), hname]
  have hend : (p + 4 + UInt32.ofNat name.length + 1).toNat =
      bph.toNat + (address + 4 + name.length + 1) := by
    have hone : UInt32.ofNat name.length + 1 = UInt32.ofNat (name.length + 1) :=
      (UInt32.ofNat_add name.length 1).symm
    rw [UInt32.add_assoc (p + 4), hone, Nat.add_assoc (address + 4)]
    exact toNat_cursor hstart (by omega)
  have haligned := alignUp_add (address + 4 + name.length + 1) (show 0 < 4 by decide) h.four
  rw [← hend, ← hnext] at haligned
  rw [fdtNode, Reading.value_bind, Reading.value_pure, hlength]
  refine .next _ ?_ fun property hproperty => by cases hproperty
  have hshort : alignUp (p + 4 + UInt32.ofNat name.length + 1).toNat 4 < 2 ^ 32 := by omega
  exact (@toNat_palign _ 4 2 rfl hshort).trans haligned

theorem not_mem_interfaceUuid : 0 ∉ interfaceUuid := by decide

theorem toNat_valueStart (h : TreeBase memory tree bph size header.version) {sz : UInt32}
    {value : List UInt8} (hp : p.toNat = bph.toNat + address) (hsz : sz.toNat = value.length)
    (hshort : value.length < 2 ^ 31)
    (hroom : bph.toNat + valueStart header.version.toNat (address + 8) value < 2 ^ 32) :
    (if header.version < 16 ∧ signed32 sz ≥ 8 then palign (p + 8) 8 else p + 8).toNat =
      bph.toNat + valueStart header.version.toNat (address + 8) value := by
  have hstart := le_valueStart header.version.toNat (address + 8) value
  have hvalue : (p + 8).toNat = bph.toNat + (address + 8) := @toNat_cursor _ _ _ hp 8 (by omega)
  have hsigned : signed32 sz = value.length := by
    rw [signed32, BitVec.toInt_eq_toNat_of_lt]
    · exact congrArg Nat.cast hsz
    · change 2 * sz.toNat < 2 ^ 32
      omega
  have hold : header.version < 16 ↔ header.version.toNat < 16 := UInt32.lt_iff_toNat_lt
  rw [valueStart] at hroom ⊢
  by_cases hcase : header.version.toNat < 16 ∧ 8 ≤ value.length
  · rw [if_pos hcase] at hroom ⊢
    have height := alignUp_add (address + 8) (show 0 < 8 by decide) (h.eight (hold.2 hcase.1))
    rw [← hvalue] at height
    rw [if_pos ⟨hold.2 hcase.1, by omega⟩]
    have hwrap : alignUp (p + 8).toNat 8 < 2 ^ 32 := by omega
    exact (@toNat_palign _ 8 3 rfl hwrap).trans height
  · rw [if_neg hcase, if_neg fun hboth => hcase ⟨hold.1 hboth.1, by omega⟩]
    exact hvalue

private theorem stepped_property (h : TreeBase memory tree bph size header.version) (uuidSize : Nat)
    (hstrings : strings < size → header.pStrings.toNat = bph.toNat + strings)
    (hp : p.toNat = bph.toNat + address) {name value : List UInt8} {tokens : List Token}
    (htoken : TokenAt tree header.version.toNat strings size address next (.prop name value))
    (htokens : TokensAt tree header.version.toNat strings size tokens next) :
    Stepped bph.toNat next uuidSize (.prop name value)
      (fdtProperty memory logLevelGl header uuidSize (p + 4)).value := by
  have hfits := h.room
  have hroom := htokens.room
  have hproperty : PropertyAt tree strings size address
    (valueStart header.version.toNat (address + 12) value) next name value := htoken
  have hstart := le_valueStart header.version.toNat (address + 12) value
  have hpadding := le_alignUp (valueStart header.version.toNat (address + 12) value + value.length)
    (show 0 < 4 by decide)
  rw [← hproperty.follows] at hpadding
  have hp4 : (p + 4).toNat = bph.toNat + (address + 4) := @toNat_cursor _ _ _ hp 4 (by omega)
  have hp8 : (p + 4 + 4).toNat = bph.toNat + (address + 8) :=
    @toNat_cursor _ _ _ hp4 4 (by omega)
  have hsz := h.getCell hp4 (by omega)
  have hnameoff := h.getCell hp8 (by omega)
  have hlength : (getCell memory (p + 4)).value.toNat = value.length := by
    rw [hsz]
    exact hproperty.length
  have hvalue := toNat_valueStart h hp4 hlength hproperty.short (by
    rw [show address + 4 + 8 = address + 12 from rfl]
    omega)
  rw [show address + 4 + 8 = address + 12 from rfl] at hvalue
  have hplace := hproperty.inside
  have hs : (header.pStrings + (getCell memory (p + 4 + 4)).value).toNat =
      bph.toNat + (strings + (cell tree (address + 8)).toNat) := by
    rw [hnameoff, UInt32.toNat_add, hstrings (by omega)]
    omega
  have hname := h.slice hs (show _ + (name.length + 1) ≤ size by omega)
  rw [hproperty.named.2] at hname
  have hfound := value_strncmp_prefix hname not_mem_interfaceUuid
  rw [fdtProperty]
  simp only [Reading.value_bind]
  generalize hp' : (if header.version < 16 ∧ signed32 (getCell memory (p + 4)).value ≥ 8
    then palign (p + 4 + 8) 8 else p + 4 + 8) = p' at hvalue ⊢
  by_cases hprefix : interfaceUuid <+: name
  · have hcopied := h.slice hvalue (show _ + (value.length + 1) ≤ size by omega)
    rw [hproperty.value_end htokens] at hcopied
    rw [if_pos (hfound.2 hprefix), Reading.value_bind, Reading.value_bind, value_strncpy hcopied]
    exact .found (name, value) rfl (List.isPrefixOf_iff_prefix.2 hprefix)
  · rw [if_neg fun htrue => hprefix (hfound.1 htrue)]
    have hbehind : (p' + (getCell memory (p + 4)).value).toNat =
        bph.toNat + (valueStart header.version.toNat (address + 12) value + value.length) := by
      rw [UInt32.toNat_add, hvalue, hlength]
      omega
    have haligned := alignUp_add (valueStart header.version.toNat (address + 12) value +
      value.length) (show 0 < 4 by decide) h.four
    rw [← hbehind, ← hproperty.follows] at haligned
    have hshort : alignUp (p' + (getCell memory (p + 4)).value).toNat 4 < 2 ^ 32 := by omega
    refine .next _ ((@toNat_palign _ 4 2 rfl hshort).trans haligned) ?_
    rintro property hsame
    cases hsame
    rw [startsUuid, Bool.eq_false_iff, Ne, List.isPrefixOf_iff_prefix]
    exact hprefix

theorem stepped_token (h : TreeBase memory tree bph size header.version) (uuidSize : Nat)
    (hstrings : strings < size → header.pStrings.toNat = bph.toNat + strings)
    (hp : p.toNat = bph.toNat + address) {token : Token} {tokens : List Token}
    (htoken : TokenAt tree header.version.toNat strings size address next token)
    (htokens : TokensAt tree header.version.toNat strings size tokens next) :
    cell tree address ≠ fdtEnd ∧ Stepped bph.toNat next uuidSize token
      (fdtToken memory logLevelGl header uuidSize (cell tree address) (p + 4)).value := by
  have hfits := h.room
  have hroom := htokens.room
  rw [fdtToken]
  cases token with
  | beginNode name =>
      rw [htoken.1, if_pos (by decide)]
      exact ⟨by decide, stepped_node h uuidSize hp htoken hroom⟩
  | endNode =>
      obtain ⟨htag, rfl⟩ := htoken
      rw [htag, if_neg (by decide), if_pos (by decide)]
      refine ⟨by decide, .next _ (@toNat_cursor _ _ _ hp 4 (by omega)) ?_⟩
      rintro property hproperty
      cases hproperty
  | nop =>
      obtain ⟨htag, rfl⟩ := htoken
      rw [htag, if_neg (by decide), if_pos (by decide)]
      refine ⟨by decide, .next _ (@toNat_cursor _ _ _ hp 4 (by omega)) ?_⟩
      rintro property hproperty
      cases hproperty
  | prop name value =>
      rw [PropertyAt.tag htoken, if_neg (by decide), if_neg (by decide)]
      exact ⟨by decide, stepped_property h uuidSize hstrings hp htoken htokens⟩

def firstTaken (left : Nat) (tokens : List Token) : Option Property :=
  ((tokens.take left).filterMap Token.property).find? startsUuid

private theorem value_fdtWalk (h : TreeBase memory tree bph size header.version)
    (uuidSize left : Nat)
    (hstrings : strings < size → header.pStrings.toNat = bph.toNat + strings)
    {tokens : List Token}
    (hp : p.toNat = bph.toNat + address)
    (htokens : TokensAt tree header.version.toNat strings size tokens address) :
    (fdtWalk memory logLevelGl header uuidSize left p).value =
      (firstTaken left tokens).map fun property => padded uuidSize (cText property.2) := by
  induction left generalizing tokens address p with
  | zero => rfl
  | succ left ih =>
      have hroom := htokens.room
      rw [fdtWalk, Reading.value_bind, h.getCell hp hroom]
      cases tokens with
      | nil =>
          rw [if_pos (show cell tree address = fdtEnd from htokens.1)]
          rfl
      | cons token tokens =>
          obtain ⟨next, htoken, hrest⟩ := htokens
          obtain ⟨htag, hstep⟩ := stepped_token h uuidSize hstrings hp htoken hrest
          rw [if_neg htag, Reading.value_bind, firstTaken, List.take_succ_cons, List.filterMap_cons]
          generalize (fdtToken memory logLevelGl header uuidSize (cell tree address) (p + 4)).value = step
            at hstep
          cases hstep with
          | found property hproperty hname =>
              rw [hproperty]
              simp [hname]
          | next p' hp' hother =>
              simp only
              rw [ih hp' hrest, firstTaken]
              cases hproperty : token.property with
              | none => rfl
              | some property => simp [hother property hproperty]

/-! ## What is promised -/

/-- Zero and the value, as far as it goes, of the first property with the name; otherwise there
is none. -/
def FindsUuid (properties : List Property) (uuidSize : Nat) (result : Int × Option (List UInt8)) :
    Prop :=
  match properties.find? fun property => property.1 = interfaceUuid with
  | some property => result = (0, some (padded uuidSize property.2))
  | none => result.1 = -enoent

/-- The tokens that are looked at have a property that is taken for the interface UUID exactly
when the tree has one, and as a text of C its value is the same. -/
def UuidTaken (items : List Item) (uuidSize : Nat) : Prop :=
  match (properties items).find? fun property => property.1 = interfaceUuid with
  | some property => ∃ taken, firstTaken (retry + 1) (tokens items) = some taken ∧
      padded uuidSize (cText taken.2) = padded uuidSize property.2
  | none => firstTaken (retry + 1) (tokens items) = none

structure HoldsTree (memory : Memory) (fdtAddr : UInt32) (version : Nat) (items : List Item)
    (offset size : UInt64) : Prop where
  valid : rmgmtXclbinValidate (xclbinAt memory fdtAddr) = 0
  located : rmgmtXclbinSectionInfo (xclbinAt memory fdtAddr) partitionMetadata = some (offset, size)
  room : fdtAddr.toNat + offset.toNat + size.toNat ≤ 2 ^ 32
  -- a tree lies at a multiple of four, one with aligned values at a multiple of eight
  aligned : (if version < 16 then 8 else 4) ∣ fdtAddr.toNat + offset.toNat
  tree : TreeAt (fun address => memory (fdtAddr.toNat + offset.toNat + address)) size.toNat version
    items

end Tree

/-! ## The result -/

section Result

open DeviceTree

variable {memory : Memory} {logLevelGl : UInt8} {fdtAddr : UInt32} {version : Nat}
  {items : List Item} {offset size : UInt64}

theorem HoldsTree.base (h : HoldsTree memory fdtAddr version items offset size) :
    let tree : Memory := fun address => memory (fdtAddr.toNat + offset.toNat + address)
    let bph := fdtAddr + offset.toUInt32
    let header := (fdtHeader memory bph).value
    TreeBase memory tree bph size.toNat header.version ∧ header.version.toNat = version ∧
      header.pStruct = bph + cell tree 8 ∧ header.pStrings = bph + cell tree 12 ∧
      bph.toNat = fdtAddr.toNat + offset.toNat := by
  intro tree bph header
  have hheader := h.tree.header
  have hroom := h.room
  have hbph : bph.toNat = fdtAddr.toNat + offset.toNat := by
    rw [UInt32.toNat_add, UInt64.toNat_toUInt32]
    omega
  have hin : TreeIn memory tree bph size.toNat := by
    refine ⟨fun address _ => ?_, by omega⟩
    rw [hbph]
  have hversion : header.version.toNat = version := by
    rw [← h.tree.format]
    exact congrArg UInt32.toNat (hin.getCell (@toNat_cursor _ _ _ rfl 20 (by omega)) (by omega))
  refine ⟨⟨hin, ?_, fun hold => ?_⟩, hversion, ?_, ?_, hbph⟩
  · have haligned := h.aligned
    rw [hbph]
    split at haligned <;> omega
  · have haligned := h.aligned
    rw [UInt32.lt_iff_toNat_lt, hversion] at hold
    rw [if_pos (show version < 16 from hold)] at haligned
    rw [hbph]
    exact haligned
  · rw [← hin.getCell (@toNat_cursor _ _ _ rfl 8 (by omega)) (by omega)]
    rfl
  · rw [← hin.getCell (@toNat_cursor _ _ _ rfl 12 (by omega)) (by omega)]
    rfl

theorem value_fdtGetUuids (h : HoldsTree memory fdtAddr version items offset size)
    (uuidSize : Nat) :
    (rmgmtFdtGetUuids memory logLevelGl fdtAddr uuidSize).value =
      match firstTaken (retry + 1) (tokens items) with
      | some taken => (0, some (padded uuidSize (cText taken.2)))
      | none => (-enoent, none) := by
  have hheader := h.tree.header
  have hroom := h.room
  have hsize : size ≠ 0 := by
    rintro rfl
    exact absurd hheader (by decide)
  obtain ⟨hbase, hversion, hstruct, hstrings, hbph⟩ := h.base
  rw [rmgmtFdtGetUuids, if_neg (not_not.2 h.valid), h.located]
  dsimp only
  rw [if_neg hsize, Reading.value_bind, Reading.value_bind]
  generalize (fdtHeader memory (fdtAddr + offset.toUInt32)).value = header
    at hbase hversion hstruct hstrings
  have htokens := h.tree.tokens
  have hstart := htokens.room
  rw [← hversion] at htokens
  have hp := toNat_add_of_lt (show (fdtAddr + offset.toUInt32).toNat +
    (cell (fun address => memory (fdtAddr.toNat + offset.toNat + address)) 8).toNat < 2 ^ 32 by
      omega)
  rw [← hstruct] at hp
  rw [value_fdtWalk hbase uuidSize (retry + 1) ?_ hp htokens]
  · cases firstTaken (retry + 1) (tokens items) <;> rfl
  · intro hless
    rw [hstrings, toNat_add_of_lt (by omega)]

theorem findsUuid_iff (h : HoldsTree memory fdtAddr version items offset size) (uuidSize : Nat) :
    FindsUuid (properties items) uuidSize (rmgmtFdtGetUuids memory logLevelGl fdtAddr uuidSize).value ↔
      UuidTaken items uuidSize := by
  rw [value_fdtGetUuids h, FindsUuid, UuidTaken]
  cases (properties items).find? fun property => property.1 = interfaceUuid with
  | none =>
      dsimp only
      cases firstTaken (retry + 1) (tokens items) with
      | none => simp
      | some taken => simp [enoent]
  | some property =>
      dsimp only
      cases firstTaken (retry + 1) (tokens items) with
      | none => simp [enoent]
      | some taken => simp

theorem find?_congr_of_mem {test test' : Property → Bool} {found : List Property}
    (h : ∀ property ∈ found, test property = test' property) :
    found.find? test = found.find? test' := by
  induction found with
  | nil => rfl
  | cons property found ih =>
      rw [List.forall_mem_cons] at h
      rw [List.find?_cons, List.find?_cons, h.1, ih h.2]

/-- Among names of which none is longer, the first 1001 tokens are searched for the property, and
what is found is a text of C. -/
theorem value_fdtGetUuids_of_names (h : HoldsTree memory fdtAddr version items offset size)
    (hnames : ∀ property ∈ properties items, startsUuid property → property.1 = interfaceUuid)
    (uuidSize : Nat) :
    (rmgmtFdtGetUuids memory logLevelGl fdtAddr uuidSize).value =
      match (((tokens items).take 1001).filterMap Token.property).find? fun property =>
        property.1 = interfaceUuid with
      | some property => (0, some (padded uuidSize (cText property.2)))
      | none => (-enoent, none) := by
  have hsame : firstTaken (retry + 1) (tokens items) =
      (((tokens items).take 1001).filterMap Token.property).find? fun property =>
        property.1 = interfaceUuid := by
    refine find?_congr_of_mem fun property hproperty => ?_
    have hmem : property ∈ properties items := by
      rw [← filterMap_tokens]
      exact ((List.take_sublist 1001 _).filterMap _).subset hproperty
    by_cases hname : property.1 = interfaceUuid
    · simp [hname, startsUuid]
    · have hshort : startsUuid property = false := by
        rw [Bool.eq_false_iff]
        exact fun hstarts => hname (hnames property hmem hstarts)
      simp [hname, hshort]
  rw [value_fdtGetUuids h, hsame]

/-! ## Small trees -/

def cellBytes (value : Nat) : List UInt8 := ((List.range 4).map (byteAt value)).reverse

def treeAddr : Nat := 496

def treeContainer (tree : Memory) (size : Nat) : Memory := fun address =>
  if address < vmrXclbinV2.length then vmrXclbinV2.getD address 0
  else if treeAddr ≤ address then tree (address - treeAddr)
  else containerOf (UInt64.ofNat (treeAddr + size))
    [⟨partitionMetadata, UInt64.ofNat treeAddr, UInt64.ofNat size⟩] address

/-- A root node with one property, whose value is `ab` with its end, behind so many tokens that
say nothing. -/
def smallTree (nops : Nat) : Memory := fun address =>
  let front := [0xD00DFEED, 87 + 4 * nops, 40, 72 + 4 * nops, 40, 17, 16, 0, 15, 32 + 4 * nops,
    1, 0].flatMap cellBytes
  let back := [3, 3, 0, 0x61620000, 2, 9].flatMap cellBytes ++ interfaceUuid ++ [0]
  if address < 48 then front.getD address 0
  else if address < 48 + 4 * nops then (if address % 4 = 3 then 4 else 0)
  else back.getD (address - (48 + 4 * nops)) 0

theorem findsUuid_small :
    (rmgmtFdtGetUuids (treeContainer (smallTree 0) 87) 1 0 4).value = (0, some [0x61, 0x62, 0, 0]) := by
  have hholds : HoldsTree (treeContainer (smallTree 0) 87) 0 17
      [.node [] [.prop interfaceUuid [0x61, 0x62, 0]]] 496 87 :=
    ⟨by decide +kernel, by decide +kernel, by decide, by decide,
      ⟨by decide, by decide +kernel, by decide +kernel⟩⟩
  have hfound := @value_fdtGetUuids_of_names _ 1 _ _ _ _ _ hholds (by
    intro property hproperty _
    rw [List.mem_singleton.1 hproperty]) 4
  exact hfound

/-- Behind a root node and a thousand tokens the property is not found. -/
theorem not_findsUuid_behind :
    let items : List Item :=
      [.node [] (List.replicate 1000 .nop ++ [.prop interfaceUuid [0x61, 0x62, 0]])]
    HoldsTree (treeContainer (smallTree 1000) 4087) 0 17 items 496 4087 ∧
      ¬ FindsUuid (properties items) 4
        (rmgmtFdtGetUuids (treeContainer (smallTree 1000) 4087) 1 0 4).value := by
  intro items
  have hholds : HoldsTree (treeContainer (smallTree 1000) 4087) 0 17 items 496 4087 :=
    ⟨by decide +kernel, by decide +kernel, by decide, by decide,
      ⟨by decide, by decide +kernel, by decide +kernel⟩⟩
  have hnone : firstTaken (retry + 1) (tokens items) = none := by decide +kernel
  have hfirst : ((properties items).find? fun property => property.1 = interfaceUuid) =
      some (interfaceUuid, [0x61, 0x62, 0]) := by
    decide +kernel
  refine ⟨hholds, ?_⟩
  rw [FindsUuid, hfirst, value_fdtGetUuids hholds, hnone]
  decide

end Result

end Vmr.Rmgmt
