import Vmr.Lib.Reading

/-!
# Flattened device trees

A device tree has nodes with properties and further nodes.  Flattened, it is a list
of tokens, which lies in memory as big-endian cells: the name of a node behind the
token that begins it, a length, the place of a name in a block of strings, and a
value behind the token of a property.  Texts and values are followed by zeros up to
the next cell.
-/

namespace Vmr.Lib.DeviceTree

inductive Item
  | nop
  | prop (name value : List UInt8)
  | node (name : List UInt8) (items : List Item)

inductive Token
  | beginNode (name : List UInt8)
  | endNode
  | prop (name value : List UInt8)
  | nop
  deriving DecidableEq, Repr

abbrev Property := List UInt8 × List UInt8

mutual

def Item.tokens : Item → List Token
  | .nop => [.nop]
  | .prop name value => [.prop name value]
  | .node name items => .beginNode name :: (tokens items ++ [.endNode])

def tokens : List Item → List Token
  | [] => []
  | item :: items => item.tokens ++ tokens items

end

mutual

def Item.properties : Item → List Property
  | .nop => []
  | .prop name value => [(name, value)]
  | .node _ items => properties items

def properties : List Item → List Property
  | [] => []
  | item :: items => item.properties ++ properties items

end

def Token.property : Token → Option Property
  | .prop name value => some (name, value)
  | .beginNode _ | .endNode | .nop => none

mutual

theorem Item.filterMap_tokens (item : Item) :
    item.tokens.filterMap Token.property = item.properties := by
  cases item with
  | nop => rfl
  | prop name value => rfl
  | node name items =>
      rw [Item.tokens, Item.properties, List.filterMap_cons, Token.property, List.filterMap_append,
        filterMap_tokens items]
      exact List.append_nil _

theorem filterMap_tokens (items : List Item) :
    (tokens items).filterMap Token.property = properties items := by
  cases items with
  | nil => rfl
  | cons item items =>
      rw [tokens, properties, List.filterMap_append, item.filterMap_tokens, filterMap_tokens items]

end

/-! ## In memory -/

def beginNodeTag : UInt32 := 1
def endNodeTag : UInt32 := 2
def propTag : UInt32 := 3
def nopTag : UInt32 := 4
def endTag : UInt32 := 9

section Layout

def alignUp (address multiple : Nat) : Nat := (address + (multiple - 1)) / multiple * multiple

-- addresses count from the start of the tree
variable (tree : Memory)

def cell (address : Nat) : UInt32 :=
  be32 (tree address) (tree (address + 1)) (tree (address + 2)) (tree (address + 3))

def StringAt (address : Nat) (text : List UInt8) : Prop :=
  0 ∉ text ∧ tree.slice address (text.length + 1) = text ++ [0]

instance (address : Nat) (text : List UInt8) : Decidable (StringAt tree address text) :=
  inferInstanceAs (Decidable (_ ∧ _))

def ZerosTo (address next : Nat) : Prop := ∀ a, address ≤ a → a < next → tree a = 0

instance (address next : Nat) : Decidable (ZerosTo tree address next) :=
  inferInstanceAs (Decidable (∀ a, address ≤ a → a < next → _))

/-- Before version 16, values of eight bytes and more start at a multiple of eight. -/
def valueStart (version address : Nat) (value : List UInt8) : Nat :=
  if version < 16 ∧ 8 ≤ value.length then alignUp address 8 else address

structure PropertyAt (strings limit address start next : Nat) (name value : List UInt8) :
    Prop where
  tag : cell tree address = propTag
  length : (cell tree (address + 4)).toNat = value.length
  -- the length is that of a C object
  short : value.length < 2 ^ 31
  named : StringAt tree (strings + (cell tree (address + 8)).toNat) name
  inside : strings + (cell tree (address + 8)).toNat + name.length < limit
  holds : tree.slice start value.length = value
  follows : next = alignUp (start + value.length) 4
  zeros : ZerosTo tree (start + value.length) next

def TokenAt (version strings limit address next : Nat) : Token → Prop
  | .beginNode name =>
      cell tree address = beginNodeTag ∧ StringAt tree (address + 4) name ∧
        next = alignUp (address + 4 + name.length + 1) 4
  | .endNode => cell tree address = endNodeTag ∧ next = address + 4
  | .nop => cell tree address = nopTag ∧ next = address + 4
  | .prop name value =>
      PropertyAt tree strings limit address (valueStart version (address + 12) value) next name
        value

def TokensAt (version strings limit : Nat) : List Token → Nat → Prop
  | [], address => cell tree address = endTag ∧ address + 4 ≤ limit
  | token :: tokens, address => ∃ next, TokenAt tree version strings limit address next token ∧
      TokensAt version strings limit tokens next

/-- The header, as far as it says where the rest is. -/
structure TreeAt (size version : Nat) (items : List Item) : Prop where
  header : 24 ≤ size
  format : (cell tree 20).toNat = version
  tokens : TokensAt tree version (cell tree 12).toNat size (tokens items) (cell tree 8).toNat

end Layout

section Order

variable {tree : Memory} {version strings limit address next : Nat}

theorem le_alignUp (address : Nat) {multiple : Nat} (h : 0 < multiple) :
    address ≤ alignUp address multiple := by
  have hdiv := Nat.div_add_mod (address + (multiple - 1)) multiple
  have hmod := Nat.mod_lt (address + (multiple - 1)) h
  rw [Nat.mul_comm] at hdiv
  rw [alignUp]
  omega

theorem alignUp_add {base multiple : Nat} (address : Nat) (h : 0 < multiple)
    (hbase : multiple ∣ base) : alignUp (base + address) multiple = base + alignUp address multiple := by
  obtain ⟨count, rfl⟩ := hbase
  rw [alignUp, alignUp, Nat.add_assoc, Nat.mul_add_div h, Nat.add_mul, Nat.mul_comm count]

theorem le_valueStart (version address : Nat) (value : List UInt8) :
    address ≤ valueStart version address value := by
  rw [valueStart]
  split
  · exact le_alignUp address (by decide)
  · exact Nat.le_refl _

theorem TokenAt.le_next {token : Token}
    (h : TokenAt tree version strings limit address next token) : address + 4 ≤ next := by
  cases token with
  | beginNode name =>
      have hnext := le_alignUp (address + 4 + name.length + 1) (show 0 < 4 by decide)
      obtain ⟨-, -, rfl⟩ := h
      omega
  | endNode => exact Nat.le_of_eq h.2.symm
  | nop => exact Nat.le_of_eq h.2.symm
  | prop name value =>
      have hstart := le_valueStart version (address + 12) value
      have hnext := le_alignUp (valueStart version (address + 12) value + value.length)
        (show 0 < 4 by decide)
      rw [← PropertyAt.follows h] at hnext
      omega

theorem TokensAt.room {tokens : List Token}
    (h : TokensAt tree version strings limit tokens address) : address + 4 ≤ limit := by
  induction tokens generalizing address with
  | nil => exact h.2
  | cons token tokens ih =>
      obtain ⟨next, htoken, htokens⟩ := h
      have hnext := htoken.le_next
      have hroom := ih htokens
      omega

private theorem first_byte_of_cell (h : (cell tree address).toNat < 2 ^ 24) : tree address = 0 := by
  rw [cell, be32, toNat_le32] at h
  apply UInt8.toNat_inj.1
  rw [UInt8.toNat_zero]
  omega

private theorem TokensAt.first_byte {tokens : List Token}
    (h : TokensAt tree version strings limit tokens address) : tree address = 0 := by
  apply first_byte_of_cell
  cases tokens with
  | nil =>
      rw [h.1]
      decide
  | cons token tokens =>
      obtain ⟨next, htoken, -⟩ := h
      cases token with
      | beginNode name =>
          rw [htoken.1]
          decide
      | endNode =>
          rw [htoken.1]
          decide
      | nop =>
          rw [htoken.1]
          decide
      | prop name value =>
          rw [PropertyAt.tag htoken]
          decide

theorem PropertyAt.zero_end {start : Nat} {name value : List UInt8} {tokens : List Token}
    (h : PropertyAt tree strings limit address start next name value)
    (hnext : TokensAt tree version strings limit tokens next) :
    tree (start + value.length) = 0 := by
  have hpadding := le_alignUp (start + value.length) (show 0 < 4 by decide)
  rw [← h.follows] at hpadding
  rcases Nat.lt_or_ge (start + value.length) next with hlt | hge
  · exact h.zeros _ (Nat.le_refl _) hlt
  · rw [Nat.le_antisymm hpadding hge]
    exact hnext.first_byte

theorem PropertyAt.value_end {start : Nat} {name value : List UInt8} {tokens : List Token}
    (h : PropertyAt tree strings limit address start next name value)
    (hnext : TokensAt tree version strings limit tokens next) :
    tree.slice start (value.length + 1) = value ++ [0] := by
  rw [Memory.slice_add, h.holds, Memory.slice_succ, h.zero_end hnext, Memory.slice_zero]

theorem StringAt.zero_end {text : List UInt8} (h : StringAt tree address text) :
    tree (address + text.length) = 0 := by
  have hbytes := h.2
  rw [Memory.slice_add, Memory.slice_succ, Memory.slice_zero] at hbytes
  exact List.singleton_inj.1 (List.append_inj hbytes (Memory.length_slice _ _ _)).2

end Order

/-! ## Checking a tree -/

section Check

variable {tree : Memory} {version strings limit address next : Nat}

def Token.nextAddress (version address : Nat) : Token → Nat
  | .beginNode name => alignUp (address + 4 + name.length + 1) 4
  | .endNode | .nop => address + 4
  | .prop _ value => alignUp (valueStart version (address + 12) value + value.length) 4

private theorem TokenAt.next_eq {token : Token}
    (h : TokenAt tree version strings limit address next token) :
    next = token.nextAddress version address := by
  cases token with
  | beginNode name => exact h.2.2
  | endNode => exact h.2
  | nop => exact h.2
  | prop name value => exact PropertyAt.follows h

private theorem propertyAt_iff {start : Nat} {name value : List UInt8} :
    PropertyAt tree strings limit address start next name value ↔
      (cell tree address = propTag ∧ (cell tree (address + 4)).toNat = value.length ∧
        value.length < 2 ^ 31 ∧ StringAt tree (strings + (cell tree (address + 8)).toNat) name) ∧
      strings + (cell tree (address + 8)).toNat + name.length < limit ∧
        tree.slice start value.length = value ∧ next = alignUp (start + value.length) 4 ∧
        ZerosTo tree (start + value.length) next := by
  constructor
  · intro h
    exact ⟨⟨h.tag, h.length, h.short, h.named⟩, h.inside, h.holds, h.follows, h.zeros⟩
  · rintro ⟨⟨tag, length, short, named⟩, inside, holds, follows, zeros⟩
    exact ⟨tag, length, short, named, inside, holds, follows, zeros⟩

instance decidableTokenAt (token : Token) :
    Decidable (TokenAt tree version strings limit address next token) :=
  match token with
  | .beginNode _ => inferInstanceAs (Decidable (_ ∧ _ ∧ _))
  | .endNode | .nop => inferInstanceAs (Decidable (_ ∧ _))
  | .prop _ _ => decidable_of_iff _ propertyAt_iff.symm

private theorem tokensAt_cons {token : Token} {tokens : List Token} :
    TokensAt tree version strings limit (token :: tokens) address ↔
      TokenAt tree version strings limit address (token.nextAddress version address) token ∧
        TokensAt tree version strings limit tokens (token.nextAddress version address) := by
  constructor
  · rintro ⟨next, htoken, htokens⟩
    cases htoken.next_eq
    exact ⟨htoken, htokens⟩
  · exact fun h => ⟨_, h⟩

instance decidableTokensAt : ∀ (tokens : List Token) (address : Nat),
    Decidable (TokensAt tree version strings limit tokens address)
  | [], _ => inferInstanceAs (Decidable (_ ∧ _))
  | token :: tokens, address =>
      have := decidableTokensAt tokens (token.nextAddress version address)
      decidable_of_iff _ tokensAt_cons.symm

end Check

end Vmr.Lib.DeviceTree
