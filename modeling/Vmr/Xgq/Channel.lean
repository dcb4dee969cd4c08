import Vmr.Xgq.Ring

/-!
# One ring between its two sides

A `Channel` is one ring as both sides see it: the producing side's and the
consuming side's `XgqRing`, the two shared counters, the slot addresses the
callers have been handed, and a history of what was filled in and read back.
On the submission ring the client produces and the server consumes, on the
completion ring it is the other way round, which is all that `XGQ_SERVER`
selects.

Each action performs at most one access to the shared counters, so taking it as
one step loses no interleaving.
-/

namespace Vmr.Xgq

open Vmr.Lib

abbrev Entry := Nat → UInt8

structure Channel where
  producer : XgqRing
  consumer : XgqRing
  produced : UInt32
  consumed : UInt32
  granted : Nat
  published : Nat
  taken : Nat
  released : Nat
  grantAddr : Nat → UInt64
  takeAddr : Nat → UInt64
  filled : Nat → Option Entry
  got : Nat → Option Entry

inductive RingAction where
  | produce
  | fill (index : Nat) (entry : Entry)
  | notifyProduced
  | consume
  | read (index : Nat)
  | notifyConsumed

namespace Channel

def produce (channel : Channel) : Channel :=
  match xgqProduce channel.consumed channel.producer with
  | (none, ring) => { channel with producer := ring }
  | (some addr, ring) =>
      { channel with
        producer := ring
        granted := channel.granted + 1
        grantAddr := Function.update channel.grantAddr channel.granted addr }

def consume (channel : Channel) : Channel :=
  match xgqConsume channel.produced channel.consumer with
  | (none, ring) => { channel with consumer := ring }
  | (some addr, ring) =>
      { channel with
        consumer := ring
        taken := channel.taken + 1
        takeAddr := Function.update channel.takeAddr channel.taken addr }

def notifyProduced (channel : Channel) : Channel :=
  { channel with
    produced := channel.producer.produced
    published := channel.granted }

def notifyConsumed (channel : Channel) : Channel :=
  { channel with
    consumed := channel.consumer.consumed
    released := channel.taken }

/--
A slot may be filled, also repeatedly, from the moment it is granted until it
is published.  A slot may be read from the moment it is taken until it is given
back.
-/
def apply (memory : Memory) (channel : Channel) :
    RingAction → Option (Memory × Channel)
  | .produce => some (memory, channel.produce)
  | .fill index entry =>
      if channel.published ≤ index ∧ index < channel.granted then
        some (memory.store (channel.grantAddr index).toNat
            channel.producer.slotSz.toNat entry,
          { channel with
            filled := Function.update channel.filled index (some entry) })
      else none
  | .notifyProduced => some (memory, channel.notifyProduced)
  | .consume => some (memory, channel.consume)
  | .read index =>
      if channel.released ≤ index ∧ index < channel.taken then
        some (memory,
          { channel with
            got := Function.update channel.got index
              (some fun offset => memory ((channel.takeAddr index).toNat + offset)) })
      else none
  | .notifyConsumed => some (memory, channel.notifyConsumed)

def init (layout : RingLayout) (base : UInt32) : Channel where
  producer := layout.ring base base
  consumer := layout.ring base base
  produced := base
  consumed := base
  granted := 0
  published := 0
  taken := 0
  released := 0
  grantAddr := fun _ => 0
  takeAddr := fun _ => 0
  filled := fun _ => none
  got := fun _ => none

/-! ## Counters -/

/--
The words are the true counts, wrapped.  Each side's cached copy of the peer's
counter lags behind, and the producer is never more than a ring length ahead of
its cached copy.
-/
structure Counts (layout : RingLayout) (base : UInt32) (channel : Channel)
    (seenConsumed seenProduced : Nat) : Prop where
  producer_eq : channel.producer =
    layout.ring (wrapped base channel.granted) (wrapped base seenConsumed)
  consumer_eq : channel.consumer =
    layout.ring (wrapped base seenProduced) (wrapped base channel.taken)
  produced_eq : channel.produced = wrapped base channel.published
  consumed_eq : channel.consumed = wrapped base channel.released
  seenConsumed_le : seenConsumed ≤ channel.released
  released_le : channel.released ≤ channel.taken
  taken_le : channel.taken ≤ seenProduced
  seenProduced_le : seenProduced ≤ channel.published
  published_le : channel.published ≤ channel.granted
  granted_le : channel.granted ≤ seenConsumed + 2 ^ layout.bits
  grantAddr_eq : ∀ i < channel.granted, channel.grantAddr i = layout.slotPtr base i
  takeAddr_eq : ∀ i < channel.taken, channel.takeAddr i = layout.slotPtr base i

def Counted (layout : RingLayout) (base : UInt32) (channel : Channel) : Prop :=
  ∃ seenConsumed seenProduced, channel.Counts layout base seenConsumed seenProduced

variable {layout : RingLayout} {base : UInt32} {channel : Channel}

private theorem full_ring {granted seenConsumed : Nat} (hle : seenConsumed ≤ granted)
    (hroom : granted ≤ seenConsumed + 2 ^ layout.bits) :
    xgqRingFull (layout.ring (wrapped base granted) (wrapped base seenConsumed)) =
      decide (granted = seenConsumed + 2 ^ layout.bits) := by
  have hpow := layout.pow_bits_le
  have hsub := toNat_wrapped_sub base hle (by omega)
  simp only [xgqRingFull, RingLayout.ring, UInt32.le_iff_toNat_le, hsub,
    layout.slotNum_eq, decide_eq_decide]
  omega

private theorem empty_ring {seenProduced taken : Nat} (hle : taken ≤ seenProduced)
    (hroom : seenProduced ≤ taken + 2 ^ layout.bits) :
    xgqRingEmpty (layout.ring (wrapped base seenProduced) (wrapped base taken)) =
      decide (seenProduced = taken) := by
  have hpow := layout.pow_bits_le
  rw [Bool.eq_iff_iff]
  simp only [xgqRingEmpty, RingLayout.ring, beq_iff_eq, decide_eq_true_eq]
  exact wrapped_eq_iff base hle (by omega)

theorem Counted.init : (Channel.init layout base).Counted layout base :=
  ⟨0, 0, by constructor <;> simp [Channel.init]⟩

theorem Counts.slotSz_eq {seenConsumed seenProduced : Nat}
    (h : channel.Counts layout base seenConsumed seenProduced) :
    channel.producer.slotSz = layout.slotSz := by
  rw [h.producer_eq]
  rfl

theorem Counts.granted_bound {seenConsumed seenProduced : Nat}
    (h : channel.Counts layout base seenConsumed seenProduced) :
    channel.released ≤ channel.granted ∧
      channel.granted ≤ channel.released + 2 ^ layout.bits := by
  obtain ⟨-, -, -, -, h1, h2, h3, h4, h5, h6, -, -⟩ := h
  omega

theorem Counts.taken_bound {seenConsumed seenProduced : Nat}
    (h : channel.Counts layout base seenConsumed seenProduced) :
    channel.taken ≤ channel.published ∧
      channel.published ≤ channel.taken + 2 ^ layout.bits := by
  obtain ⟨-, -, -, -, h1, h2, h3, h4, h5, h6, -, -⟩ := h
  omega

private theorem xgqProduce_ring (word granted seen : UInt32) :
    xgqProduce word (layout.ring granted seen) =
      if xgqRingFull (layout.ring granted seen) then
        if xgqRingFull (layout.ring granted word) then
          (none, layout.ring granted word)
        else
          (some (xgqRingSlotPtr (layout.ring 0 0) granted),
            layout.ring (granted + 1) word)
      else
        (some (xgqRingSlotPtr (layout.ring 0 0) granted),
          layout.ring (granted + 1) seen) := by
  have hread : xgqRingReadConsumed word (layout.ring granted seen) =
      layout.ring granted word := rfl
  simp only [xgqProduce, xgqCanProduce, hread]
  cases xgqRingFull (layout.ring granted seen) <;>
    cases xgqRingFull (layout.ring granted word) <;>
    rfl

private theorem xgqConsume_ring (word seen taken : UInt32) :
    xgqConsume word (layout.ring seen taken) =
      if xgqRingEmpty (layout.ring seen taken) then
        if xgqRingEmpty (layout.ring word taken) then
          (none, layout.ring word taken)
        else
          (some (xgqRingSlotPtr (layout.ring 0 0) taken),
            layout.ring word (taken + 1))
      else
        (some (xgqRingSlotPtr (layout.ring 0 0) taken),
          layout.ring seen (taken + 1)) := by
  have hread : xgqRingReadProduced word (layout.ring seen taken) =
      layout.ring word taken := rfl
  simp only [xgqConsume, xgqCanConsume, hread]
  cases xgqRingEmpty (layout.ring seen taken) <;>
    cases xgqRingEmpty (layout.ring word taken) <;>
    rfl

theorem Counts.xgqProduce_full {seenConsumed seenProduced : Nat}
    (h : channel.Counts layout base seenConsumed seenProduced)
    (hfull : channel.granted = channel.released + 2 ^ layout.bits) :
    xgqProduce channel.consumed channel.producer =
      (none, layout.ring (wrapped base channel.granted)
        (wrapped base channel.released)) := by
  have hbound := h.granted_bound
  have hseen : seenConsumed = channel.released := by
    have hle := h.seenConsumed_le
    have hgranted := h.granted_le
    omega
  rw [h.producer_eq, h.consumed_eq, hseen, xgqProduce_ring,
    full_ring hbound.1 hbound.2]
  simp [hfull]

theorem Counts.xgqProduce_room {seenConsumed seenProduced : Nat}
    (h : channel.Counts layout base seenConsumed seenProduced)
    (hroom : channel.granted < channel.released + 2 ^ layout.bits) :
    ∃ seen, seen ≤ channel.released ∧ channel.granted < seen + 2 ^ layout.bits ∧
      xgqProduce channel.consumed channel.producer =
        (some (layout.slotPtr base channel.granted),
          layout.ring (wrapped base (channel.granted + 1)) (wrapped base seen)) := by
  have hbound := h.granted_bound
  have hle := h.seenConsumed_le
  have hgranted := h.granted_le
  rw [h.producer_eq, h.consumed_eq, xgqProduce_ring, full_ring (by omega) hgranted,
    full_ring hbound.1 hbound.2, wrapped_succ]
  by_cases hfull : channel.granted = seenConsumed + 2 ^ layout.bits
  · -- the cached copy says full, the shared word does not
    refine ⟨channel.released, Nat.le_refl _, hroom, ?_⟩
    rw [if_pos (decide_eq_true hfull), if_neg (by simp; omega)]
    rfl
  · refine ⟨seenConsumed, hle, by omega, ?_⟩
    rw [if_neg (by simp [hfull])]
    rfl

theorem Counts.xgqConsume_empty {seenConsumed seenProduced : Nat}
    (h : channel.Counts layout base seenConsumed seenProduced)
    (hempty : channel.published = channel.taken) :
    xgqConsume channel.produced channel.consumer =
      (none, layout.ring (wrapped base channel.published)
        (wrapped base channel.taken)) := by
  have hbound := h.taken_bound
  have hseen : seenProduced = channel.published := by
    have htaken := h.taken_le
    have hle := h.seenProduced_le
    omega
  rw [h.consumer_eq, h.produced_eq, hseen, xgqConsume_ring,
    empty_ring hbound.1 hbound.2]
  simp [hempty]

theorem Counts.xgqConsume_some {seenConsumed seenProduced : Nat}
    (h : channel.Counts layout base seenConsumed seenProduced)
    (hsome : channel.taken < channel.published) :
    ∃ seen, channel.taken < seen ∧ seen ≤ channel.published ∧
      xgqConsume channel.produced channel.consumer =
        (some (layout.slotPtr base channel.taken),
          layout.ring (wrapped base seen) (wrapped base (channel.taken + 1))) := by
  have hbound := h.taken_bound
  have htaken := h.taken_le
  have hle := h.seenProduced_le
  rw [h.consumer_eq, h.produced_eq, xgqConsume_ring, empty_ring htaken (by omega),
    empty_ring hbound.1 hbound.2, wrapped_succ]
  by_cases hempty : seenProduced = channel.taken
  · refine ⟨channel.published, hsome, Nat.le_refl _, ?_⟩
    rw [if_pos (decide_eq_true hempty), if_neg (by simp; omega)]
    rfl
  · refine ⟨seenProduced, by omega, hle, ?_⟩
    rw [if_neg (by simp [hempty])]
    rfl

/-! ## What the calls do to a channel -/

theorem Counted.produce_full (h : channel.Counted layout base)
    (hfull : channel.granted = channel.released + 2 ^ layout.bits) :
    ∃ ring, channel.produce = { channel with producer := ring } ∧
      channel.produce.Counted layout base := by
  obtain ⟨seenConsumed, seenProduced, h⟩ := h
  have heq : channel.produce = { channel with
      producer := layout.ring (wrapped base channel.granted)
        (wrapped base channel.released) } := by
    rw [produce, h.xgqProduce_full hfull]
  refine ⟨_, heq, channel.released, seenProduced, ?_⟩
  rw [heq]
  exact { h with
    producer_eq := rfl
    seenConsumed_le := Nat.le_refl _
    granted_le := h.granted_bound.2 }

private theorem slotPtr_update {addr : Nat → UInt64} {count : Nat}
    (h : ∀ i < count, addr i = layout.slotPtr base i) :
    ∀ i < count + 1, Function.update addr count (layout.slotPtr base count) i =
      layout.slotPtr base i := by
  intro i hi
  rcases Nat.lt_or_eq_of_le (Nat.le_of_lt_succ hi) with hlt | rfl
  · rw [Function.update_of_ne (Nat.ne_of_lt hlt)]
    exact h i hlt
  · rw [Function.update_self]

theorem Counted.produce_room (h : channel.Counted layout base)
    (hroom : channel.granted < channel.released + 2 ^ layout.bits) :
    ∃ ring, channel.produce = { channel with
        producer := ring
        granted := channel.granted + 1
        grantAddr := Function.update channel.grantAddr channel.granted
          (layout.slotPtr base channel.granted) } ∧
      channel.produce.Counted layout base := by
  obtain ⟨seenConsumed, seenProduced, h⟩ := h
  obtain ⟨seen, hseen, hlt, hcall⟩ := h.xgqProduce_room hroom
  have heq : channel.produce = { channel with
      producer := layout.ring (wrapped base (channel.granted + 1)) (wrapped base seen)
      granted := channel.granted + 1
      grantAddr := Function.update channel.grantAddr channel.granted
        (layout.slotPtr base channel.granted) } := by
    rw [produce, hcall]
  refine ⟨_, heq, seen, seenProduced, ?_⟩
  rw [heq]
  exact { h with
    producer_eq := rfl
    seenConsumed_le := hseen
    published_le := Nat.le_succ_of_le h.published_le
    granted_le := hlt
    grantAddr_eq := slotPtr_update h.grantAddr_eq }

theorem Counted.consume_empty (h : channel.Counted layout base)
    (hempty : channel.published = channel.taken) :
    ∃ ring, channel.consume = { channel with consumer := ring } ∧
      channel.consume.Counted layout base := by
  obtain ⟨seenConsumed, seenProduced, h⟩ := h
  have heq : channel.consume = { channel with
      consumer := layout.ring (wrapped base channel.published)
        (wrapped base channel.taken) } := by
    rw [consume, h.xgqConsume_empty hempty]
  refine ⟨_, heq, seenConsumed, channel.published, ?_⟩
  rw [heq]
  exact { h with
    consumer_eq := rfl
    taken_le := h.taken_bound.1
    seenProduced_le := Nat.le_refl _ }

theorem Counted.consume_some (h : channel.Counted layout base)
    (hsome : channel.taken < channel.published) :
    ∃ ring, channel.consume = { channel with
        consumer := ring
        taken := channel.taken + 1
        takeAddr := Function.update channel.takeAddr channel.taken
          (layout.slotPtr base channel.taken) } ∧
      channel.consume.Counted layout base := by
  obtain ⟨seenConsumed, seenProduced, h⟩ := h
  obtain ⟨seen, hlt, hseen, hcall⟩ := h.xgqConsume_some hsome
  have heq : channel.consume = { channel with
      consumer := layout.ring (wrapped base seen) (wrapped base (channel.taken + 1))
      taken := channel.taken + 1
      takeAddr := Function.update channel.takeAddr channel.taken
        (layout.slotPtr base channel.taken) } := by
    rw [consume, hcall]
  refine ⟨_, heq, seenConsumed, seen, ?_⟩
  rw [heq]
  exact { h with
    consumer_eq := rfl
    released_le := Nat.le_succ_of_le h.released_le
    taken_le := hlt
    seenProduced_le := hseen
    takeAddr_eq := slotPtr_update h.takeAddr_eq }

theorem Counted.notifyProduced (h : channel.Counted layout base) :
    channel.notifyProduced.Counted layout base := by
  obtain ⟨seenConsumed, seenProduced, h⟩ := h
  refine ⟨seenConsumed, seenProduced, ?_⟩
  exact { h with
    produced_eq := by simp [Channel.notifyProduced, h.producer_eq, RingLayout.ring]
    seenProduced_le := Nat.le_trans h.seenProduced_le h.published_le
    published_le := Nat.le_refl _ }

theorem Counted.notifyConsumed (h : channel.Counted layout base) :
    channel.notifyConsumed.Counted layout base := by
  obtain ⟨seenConsumed, seenProduced, h⟩ := h
  refine ⟨seenConsumed, seenProduced, ?_⟩
  exact { h with
    consumed_eq := by simp [Channel.notifyConsumed, h.consumer_eq, RingLayout.ring]
    seenConsumed_le := Nat.le_trans h.seenConsumed_le h.released_le
    released_le := Nat.le_refl _ }

theorem Counted.fill (h : channel.Counted layout base)
    (filled : Nat → Option Entry) :
    { channel with filled }.Counted layout base := by
  obtain ⟨seenConsumed, seenProduced, h⟩ := h
  exact ⟨seenConsumed, seenProduced, { h with }⟩

theorem Counted.read (h : channel.Counted layout base) (got : Nat → Option Entry) :
    { channel with got }.Counted layout base := by
  obtain ⟨seenConsumed, seenProduced, h⟩ := h
  exact ⟨seenConsumed, seenProduced, { h with }⟩

theorem Counted.apply (h : channel.Counted layout base) {memory memory' : Memory}
    {channel' : Channel} {action : RingAction}
    (hstep : channel.apply memory action = some (memory', channel')) :
    channel'.Counted layout base := by
  have hbound : channel.released ≤ channel.granted ∧
      channel.granted ≤ channel.released + 2 ^ layout.bits ∧
      channel.taken ≤ channel.published := by
    obtain ⟨_, _, h⟩ := h
    exact ⟨h.granted_bound.1, h.granted_bound.2, h.taken_bound.1⟩
  cases action with
  | produce =>
      obtain ⟨-, rfl⟩ : memory = memory' ∧ channel.produce = channel' := by
        simpa [Channel.apply] using hstep
      rcases Nat.lt_or_eq_of_le hbound.2.1 with hroom | hfull
      · exact (h.produce_room hroom).choose_spec.2
      · exact (h.produce_full hfull).choose_spec.2
  | fill index entry =>
      simp only [Channel.apply] at hstep
      split at hstep
      · cases hstep
        exact h.fill _
      · contradiction
  | notifyProduced =>
      cases hstep
      exact h.notifyProduced
  | consume =>
      obtain ⟨-, rfl⟩ : memory = memory' ∧ channel.consume = channel' := by
        simpa [Channel.apply] using hstep
      rcases Nat.lt_or_eq_of_le hbound.2.2 with hsome | hempty
      · exact (h.consume_some hsome).choose_spec.2
      · exact (h.consume_empty hempty.symm).choose_spec.2
  | read index =>
      simp only [Channel.apply] at hstep
      split at hstep
      · cases hstep
        exact h.read _
      · contradiction
  | notifyConsumed =>
      cases hstep
      exact h.notifyConsumed

/-! ## Contents -/

/-- What is in memory for the entries not yet given back, and what was read. -/
structure Contents (layout : RingLayout) (base : UInt32) (memory : Memory)
    (channel : Channel) : Prop where
  filled_lt : ∀ i entry, channel.filled i = some entry → i < channel.granted
  stored : ∀ i entry, channel.released ≤ i → channel.filled i = some entry →
    ∀ offset < layout.slotSz.toNat,
      memory ((layout.slotPtr base i).toNat + offset) = entry offset
  got_lt : ∀ i entry, channel.got i = some entry → i < channel.taken
  got_eq : ∀ i entry filled, channel.got i = some entry →
    channel.filled i = some filled →
    ∀ offset < layout.slotSz.toNat, entry offset = filled offset

theorem Contents.init (memory : Memory) :
    (Channel.init layout base).Contents layout base memory := by
  constructor <;> simp [Channel.init]

theorem Contents.frame {memory memory' : Memory} (hfits : layout.Fits)
    (h : channel.Contents layout base memory)
    (hframe : ∀ a, layout.slotAddr.toNat ≤ a →
      a < layout.slotAddr.toNat + layout.size → memory' a = memory a) :
    channel.Contents layout base memory' := by
  refine { h with stored := ?_ }
  intro i entry hlive hfilled offset hoffset
  have hinside := RingLayout.slotPtr_inside hfits base i
  rw [hframe _ (by omega) (by omega)]
  exact h.stored i entry hlive hfilled offset hoffset

theorem Contents.fill {memory : Memory} (hfits : layout.Fits)
    (hcount : channel.Counted layout base)
    (h : channel.Contents layout base memory) {index : Nat} (entry : Entry)
    (hlo : channel.published ≤ index) (hhi : index < channel.granted) :
    { channel with
      filled := Function.update channel.filled index (some entry) }.Contents layout base
      (memory.store (layout.slotPtr base index).toNat layout.slotSz.toNat entry) := by
  obtain ⟨seenConsumed, seenProduced, hcount⟩ := hcount
  have hbound := hcount.granted_bound
  have htaken := hcount.taken_bound
  have hreleased := hcount.released_le
  refine ⟨?_, ?_, h.got_lt, ?_⟩
  · intro i stored hi
    by_cases heq : i = index
    · rw [heq]
      exact hhi
    · exact h.filled_lt i stored (by simpa [heq] using hi)
  · intro i stored hlive hi offset hoffset
    by_cases heq : i = index
    · obtain rfl : entry = stored := by simpa [heq] using hi
      rw [heq, Memory.store_inside _ _ hoffset]
    · have hold : channel.filled i = some stored := by simpa [heq] using hi
      have hlt := h.filled_lt i stored hold
      have happart : Apart (layout.slotPtr base index).toNat layout.slotSz.toNat
          (layout.slotPtr base i).toNat layout.slotSz.toNat := by
        simp only at hlive
        rcases Nat.lt_or_gt_of_ne heq with hbefore | hafter
        · exact (RingLayout.slotPtr_apart hfits base hbefore (by omega)).symm
        · exact RingLayout.slotPtr_apart hfits base hafter (by omega)
      rw [Memory.store_apart _ _ happart hoffset]
      exact h.stored i stored hlive hold offset hoffset
  · intro i read filled hgot hi
    have hlt := h.got_lt i read hgot
    have hne : i ≠ index := by omega
    exact h.got_eq i read filled hgot (by simpa [hne] using hi)

theorem Contents.read {memory : Memory} (hcount : channel.Counted layout base)
    (h : channel.Contents layout base memory) {index : Nat}
    (hlo : channel.released ≤ index) (hhi : index < channel.taken) :
    { channel with
      got := Function.update channel.got index
        (some fun offset => memory ((channel.takeAddr index).toNat + offset))
      }.Contents layout base memory := by
  obtain ⟨seenConsumed, seenProduced, hcount⟩ := hcount
  refine ⟨h.filled_lt, h.stored, ?_, ?_⟩
  · intro i entry hi
    by_cases heq : i = index
    · rw [heq]
      exact hhi
    · exact h.got_lt i entry (by simpa [heq] using hi)
  · intro i entry filled hi hfilled offset hoffset
    by_cases heq : i = index
    · subst heq
      obtain rfl : (fun offset => memory ((channel.takeAddr i).toNat + offset)) =
          entry := by simpa using hi
      rw [hcount.takeAddr_eq i hhi]
      exact h.stored i filled hlo hfilled offset hoffset
    · exact h.got_eq i entry filled (by simpa [heq] using hi) hfilled offset hoffset

theorem Contents.apply {memory memory' : Memory} (hfits : layout.Fits)
    (hcount : channel.Counted layout base)
    (h : channel.Contents layout base memory) {channel' : Channel}
    {action : RingAction}
    (hstep : channel.apply memory action = some (memory', channel')) :
    channel'.Contents layout base memory' := by
  have hbound : channel.released ≤ channel.granted ∧
      channel.granted ≤ channel.released + 2 ^ layout.bits ∧
      channel.taken ≤ channel.published ∧ channel.released ≤ channel.taken := by
    obtain ⟨_, _, hcount⟩ := hcount
    exact ⟨hcount.granted_bound.1, hcount.granted_bound.2, hcount.taken_bound.1,
      hcount.released_le⟩
  cases action with
  | produce =>
      obtain ⟨rfl, rfl⟩ : memory = memory' ∧ channel.produce = channel' := by
        simpa [Channel.apply] using hstep
      rcases Nat.lt_or_eq_of_le hbound.2.1 with hroom | hfull
      · obtain ⟨ring, heq, -⟩ := hcount.produce_room hroom
        rw [heq]
        exact { h with
          filled_lt := fun i entry hi => Nat.lt_succ_of_lt (h.filled_lt i entry hi) }
      · obtain ⟨ring, heq, -⟩ := hcount.produce_full hfull
        rw [heq]
        exact { h with }
  | fill index entry =>
      simp only [Channel.apply] at hstep
      split at hstep
      · rename_i hrange
        cases hstep
        obtain ⟨_, _, hc⟩ := hcount
        rw [hc.grantAddr_eq index hrange.2, hc.slotSz_eq]
        exact h.fill hfits ⟨_, _, hc⟩ entry hrange.1 hrange.2
      · contradiction
  | notifyProduced =>
      cases hstep
      exact { h with }
  | consume =>
      obtain ⟨rfl, rfl⟩ : memory = memory' ∧ channel.consume = channel' := by
        simpa [Channel.apply] using hstep
      rcases Nat.lt_or_eq_of_le hbound.2.2.1 with hsome | hempty
      · obtain ⟨ring, heq, -⟩ := hcount.consume_some hsome
        rw [heq]
        exact { h with
          got_lt := fun i entry hi => Nat.lt_succ_of_lt (h.got_lt i entry hi) }
      · obtain ⟨ring, heq, -⟩ := hcount.consume_empty hempty.symm
        rw [heq]
        exact { h with }
  | read index =>
      simp only [Channel.apply] at hstep
      split at hstep
      · rename_i hrange
        cases hstep
        exact h.read hcount hrange.1 hrange.2
      · contradiction
  | notifyConsumed =>
      cases hstep
      exact { h with
        stored := fun i entry hlive => h.stored i entry
          (Nat.le_trans hbound.2.2.2 hlive) }

theorem Counted.apply_frame {memory memory' : Memory} (hfits : layout.Fits)
    (h : channel.Counted layout base) {channel' : Channel} {action : RingAction}
    (hstep : channel.apply memory action = some (memory', channel')) {a : Nat}
    (ha : a < layout.slotAddr.toNat ∨ layout.slotAddr.toNat + layout.size ≤ a) :
    memory' a = memory a := by
  obtain ⟨_, _, h⟩ := h
  cases action with
  | fill index entry =>
      simp only [Channel.apply] at hstep
      split at hstep
      · rename_i hrange
        cases hstep
        have hinside := RingLayout.slotPtr_inside hfits base index
        rw [h.grantAddr_eq index hrange.2, h.slotSz_eq]
        exact Memory.store_outside _ _ (by omega)
      · contradiction
  | read index =>
      simp only [Channel.apply] at hstep
      split at hstep
      · cases hstep
        rfl
      · contradiction
  | _ =>
      cases hstep
      rfl

end Channel

end Vmr.Xgq
