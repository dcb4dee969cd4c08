import Mathlib.Control.Monad.Basic
import Mathlib.Data.List.Basic

/-!
# Decoders of byte strings

A decoder takes its bytes off the front of the input.  It reads a value from an
encoding if it does so with any rest behind the encoding, so what is read one
after another is encoded one after another.
-/

namespace Vmr.Lib

abbrev Decoder := StateT (List UInt8) Option

namespace Decoder

def byte : Decoder UInt8 := fun
  | [] => none
  | value :: rest => some (value, rest)

def bytes (size : Nat) : Decoder (List UInt8) := fun input =>
  if size ≤ input.length then some (input.take size, input.drop size) else none

def optional {α : Type} (present : Bool) (decoder : Decoder α) : Decoder (Option α) :=
  if present then some <$> decoder else pure none

def times {α : Type} (decoder : Decoder α) : Nat → Decoder (List α)
  | 0 => pure []
  | count + 1 => do
      let first ← decoder
      let rest ← times decoder count
      return first :: rest

end Decoder

/-- The decoder takes the encoding off any input that starts with it, and gives the value. -/
def Reads {α : Type} (decoder : Decoder α) (encoding : List UInt8) (a : α) : Prop :=
  ∀ rest, decoder (encoding ++ rest) = some (a, rest)

namespace Reads

variable {α β : Type}

theorem pure (a : α) : Reads (Pure.pure a) [] a := fun _ => rfl

theorem bind {decoder : Decoder α} {next : α → Decoder β} {first second : List UInt8} {a : α}
    {b : β} (h : Reads decoder first a) (hnext : Reads (next a) second b) :
    Reads (decoder >>= next) (first ++ second) b := by
  intro rest
  rw [List.append_assoc]
  change (decoder (first ++ (second ++ rest)) >>= fun read => next read.1 read.2) = _
  rw [h]
  exact hnext rest

theorem map {decoder : Decoder α} {encoding : List UInt8} {a : α} (f : α → β)
    (h : Reads decoder encoding a) : Reads (f <$> decoder) encoding (f a) := by
  intro rest
  change (decoder (encoding ++ rest) >>= fun read => some (f read.1, read.2)) = _
  rw [h]
  rfl

theorem byte (value : UInt8) : Reads Decoder.byte [value] value := fun _ => rfl

theorem bytes (encoding : List UInt8) :
    Reads (Decoder.bytes encoding.length) encoding encoding := by
  intro rest
  simp [Decoder.bytes]

theorem optional_some {decoder : Decoder α} {encoding : List UInt8} {a : α}
    (h : Reads decoder encoding a) : Reads (Decoder.optional true decoder) encoding (some a) :=
  h.map some

theorem optional_none (decoder : Decoder α) : Reads (Decoder.optional false decoder) [] none :=
  pure none

theorem mapM {decoder : α → Decoder β} {encoding : α → List UInt8} {value : α → β}
    (h : ∀ a, Reads (decoder a) (encoding a) (value a)) (list : List α) :
    Reads (list.mapM decoder) (list.flatMap encoding) (list.map value) := by
  induction list with
  | nil => exact pure []
  | cons a list ih =>
      rw [List.mapM_cons, List.flatMap_cons, List.map_cons]
      rw [← List.append_nil (list.flatMap encoding)]
      exact (h a).bind (ih.bind (pure _))

theorem times {decoder : Decoder β} {encoding : α → List UInt8} {value : α → β}
    {list : List α} (h : ∀ a ∈ list, Reads decoder (encoding a) (value a)) :
    Reads (decoder.times list.length) (list.flatMap encoding) (list.map value) := by
  induction list with
  | nil => exact pure []
  | cons a list ih =>
      rw [List.forall_mem_cons] at h
      rw [List.flatMap_cons, List.map_cons]
      rw [← List.append_nil (list.flatMap encoding)]
      exact h.1.bind ((ih h.2).bind (pure _))

end Reads

end Vmr.Lib
