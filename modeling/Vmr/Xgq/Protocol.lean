import Vmr.Lib.Transition
import Vmr.Xgq.Channel

/-!
# The submission and completion rings together

One client and one server share a submission ring and a completion ring that
lie in one memory.  Every interleaving of their calls is a run of `xgqSystem`.
`Delivered` says what either ring guarantees to its consumer: entries are taken
once each, in the order they were granted, with the bytes that were filled in,
and a slot is not handed out again while its entry is live.

The guarantee needs slot offsets that fit 32 bits.  The source multiplies slot
size and slot number in 32 bits and notes that this does not overflow in
practice; `wideLayout` is a ring for which it does.
-/

namespace Vmr.Xgq

open Vmr.Lib

structure XgqLayout where
  sq : RingLayout
  cq : RingLayout
  slotNum_eq : sq.slotNum = cq.slotNum
  cqSlotSz_eq : cq.slotSz = 16
  apart : Apart sq.slotAddr.toNat sq.size cq.slotAddr.toNat cq.size

structure RingPair where
  memory : Memory
  sq : Channel
  cq : Channel

inductive XgqAction where
  | sq (action : RingAction)
  | cq (action : RingAction)

namespace RingPair

def apply (xgq : RingPair) : XgqAction → Option RingPair
  | .sq action => do
      let (memory, sq) ← xgq.sq.apply xgq.memory action
      return { xgq with memory, sq }
  | .cq action => do
      let (memory, cq) ← xgq.cq.apply xgq.memory action
      return { xgq with memory, cq }

def init (layout : XgqLayout) (memory : Memory) (sqBase cqBase : UInt32) :
    RingPair where
  memory := memory
  sq := .init layout.sq sqBase
  cq := .init layout.cq cqBase

end RingPair

def xgqSystem (layout : XgqLayout) (sqBase cqBase : UInt32) :
    TransitionSystem RingPair XgqAction where
  init xgq := ∃ memory, xgq = .init layout memory sqBase cqBase
  step xgq action xgq' := xgq.apply action = some xgq'

theorem RingPair.apply_sq {xgq xgq' : RingPair} {action : RingAction}
    (h : xgq.apply (.sq action) = some xgq') :
    xgq.sq.apply xgq.memory action = some (xgq'.memory, xgq'.sq) ∧
      xgq'.cq = xgq.cq := by
  cases hring : xgq.sq.apply xgq.memory action with
  | none => simp [apply, hring] at h
  | some result =>
      simp only [apply, hring] at h
      cases h
      exact ⟨rfl, rfl⟩

theorem RingPair.apply_cq {xgq xgq' : RingPair} {action : RingAction}
    (h : xgq.apply (.cq action) = some xgq') :
    xgq.cq.apply xgq.memory action = some (xgq'.memory, xgq'.cq) ∧
      xgq'.sq = xgq.sq := by
  cases hring : xgq.cq.apply xgq.memory action with
  | none => simp [apply, hring] at h
  | some result =>
      simp only [apply, hring] at h
      cases h
      exact ⟨rfl, rfl⟩

/-! ## Invariants of every run -/

def RingPair.Counted (layout : XgqLayout) (sqBase cqBase : UInt32)
    (xgq : RingPair) : Prop :=
  xgq.sq.Counted layout.sq sqBase ∧ xgq.cq.Counted layout.cq cqBase

def RingPair.Contents (layout : XgqLayout) (sqBase cqBase : UInt32)
    (xgq : RingPair) : Prop :=
  xgq.sq.Contents layout.sq sqBase xgq.memory ∧
    xgq.cq.Contents layout.cq cqBase xgq.memory

variable {layout : XgqLayout} {sqBase cqBase : UInt32} {xgq : RingPair}

theorem xgqSystem_counted :
    (xgqSystem layout sqBase cqBase).Invariant (RingPair.Counted layout sqBase cqBase) where
  init := by
    rintro _ ⟨memory, rfl⟩
    exact ⟨.init, .init⟩
  step := by
    rintro xgq (action | action) xgq' ⟨hsq, hcq⟩ hstep
    · obtain ⟨hring, hother⟩ := RingPair.apply_sq hstep
      exact ⟨hsq.apply hring, hother ▸ hcq⟩
    · obtain ⟨hring, hother⟩ := RingPair.apply_cq hstep
      exact ⟨hother ▸ hsq, hcq.apply hring⟩

theorem xgqSystem_contents (hsqFits : layout.sq.Fits) (hcqFits : layout.cq.Fits) :
    (xgqSystem layout sqBase cqBase).Invariant fun xgq =>
      xgq.Counted layout sqBase cqBase ∧ xgq.Contents layout sqBase cqBase where
  init := by
    rintro _ ⟨memory, rfl⟩
    exact ⟨⟨.init, .init⟩, .init _, .init _⟩
  step := by
    rintro xgq action xgq' ⟨hcount, hcontents⟩ hstep
    refine ⟨xgqSystem_counted.step _ _ _ hcount hstep, ?_⟩
    cases action with
    | sq action =>
        obtain ⟨hring, hother⟩ := RingPair.apply_sq hstep
        refine ⟨hcontents.1.apply hsqFits hcount.1 hring, ?_⟩
        rw [hother]
        refine hcontents.2.frame hcqFits fun a hlo hhi => ?_
        refine hcount.1.apply_frame hsqFits hring ?_
        rcases layout.apart with h | h <;> omega
    | cq action =>
        obtain ⟨hring, hother⟩ := RingPair.apply_cq hstep
        refine ⟨?_, hcontents.2.apply hcqFits hcount.2 hring⟩
        rw [hother]
        refine hcontents.1.frame hsqFits fun a hlo hhi => ?_
        refine hcount.2.apply_frame hcqFits hring ?_
        rcases layout.apart with h | h <;> omega

/-! ## Delivery -/

/--
What a ring guarantees.  `in_order` and `contents` are about the entry with the
same number on both sides, so no entry is lost, repeated or reordered; a
consumer is refused only when it has taken everything published.
-/
structure Channel.Delivered (layout : RingLayout) (channel : Channel) : Prop where
  in_order : ∀ i < channel.taken,
    i < channel.published ∧ channel.takeAddr i = channel.grantAddr i
  contents : ∀ i entry filled, channel.got i = some entry →
    channel.filled i = some filled →
    i < channel.taken ∧ ∀ offset < layout.slotSz.toNat, entry offset = filled offset
  not_regranted : ∀ i j, channel.released ≤ i → i < j → j < channel.granted →
    Apart (channel.grantAddr i).toNat layout.slotSz.toNat
      (channel.grantAddr j).toNat layout.slotSz.toNat
  consume_iff : (xgqConsume channel.produced channel.consumer).1.isSome ↔
    channel.taken < channel.published
  produce_iff : (xgqProduce channel.consumed channel.producer).1.isSome ↔
    channel.granted < channel.released + layout.slotNum.toNat

theorem Channel.delivered {layout : RingLayout} {base : UInt32} {memory : Memory}
    {channel : Channel} (hfits : layout.Fits) (hcount : channel.Counted layout base)
    (hcontents : channel.Contents layout base memory) : channel.Delivered layout := by
  obtain ⟨seenConsumed, seenProduced, h⟩ := hcount
  have hgranted := h.granted_bound
  have htaken := h.taken_bound
  have hpublished := h.published_le
  refine ⟨?_, ?_, ?_, ?_, ?_⟩
  · intro i hi
    rw [h.takeAddr_eq i hi, h.grantAddr_eq i (by omega)]
    exact ⟨by omega, rfl⟩
  · intro i entry filled hgot hfilled
    exact ⟨hcontents.got_lt i entry hgot, hcontents.got_eq i entry filled hgot hfilled⟩
  · intro i j hlive hlt hj
    rw [h.grantAddr_eq i (by omega), h.grantAddr_eq j hj]
    exact RingLayout.slotPtr_apart hfits base hlt (by omega)
  · rcases Nat.lt_or_eq_of_le htaken.1 with hsome | hempty
    · obtain ⟨seen, -, -, hcall⟩ := h.xgqConsume_some hsome
      simp [hcall, hsome]
    · simp [h.xgqConsume_empty hempty.symm, hempty]
  · rw [layout.slotNum_eq]
    rcases Nat.lt_or_eq_of_le hgranted.2 with hroom | hfull
    · obtain ⟨seen, -, -, hcall⟩ := h.xgqProduce_room hroom
      simp [hcall, hroom]
    · simp [h.xgqProduce_full hfull, hfull]

/-- Both rings deliver, in every state of every interleaving. -/
theorem xgq_delivered (layout : XgqLayout) (hsqFits : layout.sq.Fits)
    (hcqFits : layout.cq.Fits) (sqBase cqBase : UInt32) (xgq : RingPair)
    (h : (xgqSystem layout sqBase cqBase).Reachable xgq) :
    xgq.sq.Delivered layout.sq ∧ xgq.cq.Delivered layout.cq := by
  obtain ⟨hcount, hcontents⟩ := h.invariant (xgqSystem_contents hsqFits hcqFits)
  exact ⟨Channel.delivered hsqFits hcount.1 hcontents.1,
    Channel.delivered hcqFits hcount.2 hcontents.2⟩

/-! ## A ring within its bounds, and one beyond them -/

private theorem rpuSlotSz_pos : 0 < (512 : UInt32).toNat ∧ 0 < (16 : UInt32).toNat := by decide

private theorem rpuSq_inside {ringAddr : UInt64} (h : ringAddr.toNat < 2 ^ 32) :
    (ringAddr + 44).toNat + (512 : UInt32).toNat * 2 ^ 2 ≤ 2 ^ 64 := by
  rw [UInt64.toNat_add]
  simp only [UInt64.reduceToNat, UInt32.reduceToNat]
  omega

private theorem rpuCq_inside {ringAddr : UInt64} (h : ringAddr.toNat < 2 ^ 32) :
    (ringAddr + 44 + 4 * 512).toNat + (16 : UInt32).toNat * 2 ^ 2 ≤ 2 ^ 64 := by
  rw [UInt64.toNat_add, UInt64.toNat_add]
  simp only [UInt64.reduceMul, UInt64.reduceToNat, UInt32.reduceToNat]
  omega

private theorem rpuRings_apart {ringAddr : UInt64} (h : ringAddr.toNat < 2 ^ 32) :
    Apart (ringAddr + 44).toNat ((512 : UInt32).toNat * 2 ^ 2) (ringAddr + 44 + 4 * 512).toNat
      ((16 : UInt32).toNat * 2 ^ 2) := by
  refine .inl ?_
  simp only [UInt64.toNat_add, UInt64.reduceMul, UInt64.reduceToNat, UInt32.reduceToNat]
  omega

def rpuLayout (ringAddr : UInt64) (h : ringAddr.toNat < 2 ^ 32) : XgqLayout where
  sq :=
    { slotNum := 4, slotSz := 512, slotAddr := ringAddr + 44, bits := 2
      slotNum_eq := rfl
      slotSz_pos := rpuSlotSz_pos.1
      inside := rpuSq_inside h }
  cq :=
    { slotNum := 4, slotSz := 16, slotAddr := ringAddr + 44 + 4 * 512, bits := 2
      slotNum_eq := rfl
      slotSz_pos := rpuSlotSz_pos.2
      inside := rpuCq_inside h }
  slotNum_eq := rfl
  cqSlotSz_eq := rfl
  apart := rpuRings_apart h

def rpuRun : Option RingPair :=
  TransitionSystem.runLabels RingPair.apply
    [.sq .produce, .sq (.fill 0 fun _ => 7), .sq .notifyProduced,
      .sq .consume, .sq (.read 0), .sq .notifyConsumed]
    (.init (rpuLayout 0x100000 (by decide)) (fun _ => 0) 0xFFFFFFFF 0)

theorem xgq_delivered_rpu :
    rpuRun.map (fun xgq => (xgq.sq.released, xgq.sq.consumed)) = some (1, 0) ∧
      ∀ xgq, rpuRun = some xgq →
        xgq.sq.Delivered (rpuLayout 0x100000 (by decide)).sq ∧
        xgq.cq.Delivered (rpuLayout 0x100000 (by decide)).cq := by
  refine ⟨by decide, fun xgq h => ?_⟩
  exact xgq_delivered (rpuLayout 0x100000 (by decide)) (by decide) (by decide)
    0xFFFFFFFF 0 xgq (.runLabels (fun _ _ _ _ hstep => ⟨hstep, trivial⟩)
      (.init ⟨fun _ => 0, rfl⟩) trivial h)

/-- `2 ^ 30` slots: the completion slots span `2 ^ 34` bytes. -/
def wideLayout : XgqLayout where
  sq :=
    { slotNum := 0x40000000, slotSz := 4, slotAddr := 0x100000000, bits := 30
      slotNum_eq := by decide
      slotSz_pos := by decide
      inside := by decide }
  cq :=
    { slotNum := 0x40000000, slotSz := 16, slotAddr := 0x200000000, bits := 30
      slotNum_eq := by decide
      slotSz_pos := by decide
      inside := by decide }
  slotNum_eq := rfl
  cqSlotSz_eq := rfl
  apart := .inl (by decide)

private theorem wideLayout_grants (count : Nat) (hcount : count ≤ 2 ^ 30) :
    ∃ xgq, (xgqSystem wideLayout 0 0).Reachable xgq ∧
      xgq.cq.granted = count ∧ xgq.cq.released = 0 := by
  induction count with
  | zero => exact ⟨.init wideLayout (fun _ => 0) 0 0, .init ⟨_, rfl⟩, rfl, rfl⟩
  | succ count ih =>
      obtain ⟨xgq, hreach, hgranted, hreleased⟩ := ih (by omega)
      have hcounted := (hreach.invariant xgqSystem_counted).2
      have hroom : xgq.cq.granted < xgq.cq.released + 2 ^ wideLayout.cq.bits := by
        have hsize : 2 ^ wideLayout.cq.bits = 2 ^ 30 := rfl
        omega
      obtain ⟨ring, heq, -⟩ := hcounted.produce_room hroom
      have hstep : (xgqSystem wideLayout 0 0).step xgq (.cq .produce)
          { xgq with cq := xgq.cq.produce } := rfl
      refine ⟨_, .step hreach hstep, ?_⟩
      simp [heq, hgranted, hreleased]

/--
Entry `2 ^ 28` of the wide completion ring is granted the slot of entry `0`,
which nobody has consumed.
-/
theorem wide_ring_not_delivered :
    ¬ ∀ (layout : XgqLayout) (sqBase cqBase : UInt32) (xgq : RingPair),
      (xgqSystem layout sqBase cqBase).Reachable xgq →
        xgq.sq.Delivered layout.sq ∧ xgq.cq.Delivered layout.cq := by
  intro hall
  obtain ⟨xgq, hreach, hgranted, hreleased⟩ :=
    wideLayout_grants (2 ^ 28 + 1) (by decide)
  obtain ⟨_, _, hcount⟩ := (hreach.invariant xgqSystem_counted).2
  have hfresh := (hall _ _ _ _ hreach).2.not_regranted 0 (2 ^ 28)
    (by omega) (by decide) (by omega)
  rw [hcount.grantAddr_eq 0 (by omega), hcount.grantAddr_eq (2 ^ 28) (by omega)] at hfresh
  have halias : wideLayout.cq.slotPtr 0 0 = wideLayout.cq.slotPtr 0 (2 ^ 28) := by
    decide
  rw [halias] at hfresh
  have hpos := wideLayout.cq.slotSz_pos
  rcases hfresh with h | h <;> omega

end Vmr.Xgq
