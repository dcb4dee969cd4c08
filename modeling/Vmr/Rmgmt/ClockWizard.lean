import Vmr.Lib.BitField
import Vmr.Lib.Errno
import Vmr.Lib.Prog
import Vmr.Lib.Updates

/-!
# Scaling the clocks

A request carries the frequencies of up to four clocks.  For every clock that has to
change, the two dividers of its clock wizard are computed and written to the registers,
half of a divider in a field of eight bits with one more bit for an odd one.  The wizard
registers are at a base that only the first two clocks have.
-/

namespace Vmr.Rmgmt

open Vmr.Lib

namespace Clock

def clClockWizard : UInt32 := 1
def clClockCounter : UInt32 := 2
def clClockScale : UInt32 := 3
def clClockScaleInternal : UInt32 := 4

def oclMaxId : UInt32 := 3
def oclMaxNum : UInt32 := 4

structure ClockPayload where
  oclRegion : UInt32
  oclReqType : UInt32
  oclReqId : UInt32
  oclReqNum : UInt32
  oclReqFreq : Fin 4 → UInt32

def ClockPayload.freq (payload : ClockPayload) (i : Nat) : UInt32 :=
  if h : i < 4 then payload.oclReqFreq ⟨i, h⟩ else 0

def validateClockPayload (plIsReady : Bool) (payload : ClockPayload) : Int :=
  if plIsReady = false then -eio
  else if payload.oclRegion ≠ 0 then -einval
  else if payload.oclReqType > clClockScaleInternal then -einval
  else if payload.oclReqId > oclMaxId then -einval
  else if payload.oclReqNum > oclMaxNum then -einval
  else 0

/-! ## Registers -/

inductive RegOp
  | read32 (address : UInt32)
  | write32 (value : BitVec 32) (address : UInt32)
  | mdelay (ms : Nat)

abbrev RegOp.Answer : RegOp → Type
  | .read32 _ => BitVec 32
  | .write32 _ _ | .mdelay _ => Unit

abbrev RegProg := Prog RegOp RegOp.Answer

def ioSyncRead32 (address : UInt32) : RegProg (BitVec 32) := Prog.perform (RegOp.read32 address)

def ioSyncWrite32 (value : BitVec 32) (address : UInt32) : RegProg Unit :=
  Prog.perform (RegOp.write32 value address)

def mdelay (ms : Nat) : RegProg Unit := Prog.perform (RegOp.mdelay ms)

def oclClkwizStatusOffset : UInt32 := 0x4
def oclClkwizInitConfig : UInt32 := 0x14
def oclClkwizDivclk : UInt32 := 0x380
def oclClkwizDivclkTs : UInt32 := 0x384
def oclClkwizClkfbout : UInt32 := 0x330
def oclClkwizClkfboutTs : UInt32 := 0x334
def oclClkwizClkfboutFract : UInt32 := 0x3fc
def oclClkwizClkout0 : UInt32 := 0x338
def oclClkwizClkout0Ts : UInt32 := 0x33c

def divclkEdge : BitField := ⟨10, 1⟩
def divclkLt : BitField := ⟨0, 8⟩
def divclkHt : BitField := ⟨8, 8⟩
def clkfboutFractEn : BitField := ⟨1, 1⟩
def clkfboutEdge : BitField := ⟨8, 1⟩
def clkfboutEn : BitField := ⟨9, 1⟩
def clkfboutMx : BitField := ⟨10, 2⟩
def clkfboutPrediv2 : BitField := ⟨12, 1⟩
def clkfboutLt : BitField := ⟨0, 8⟩
def clkfboutHt : BitField := ⟨8, 8⟩
def clkout0Edge : BitField := ⟨8, 1⟩
def clkout0Mx : BitField := ⟨9, 2⟩
def clkout0Prediv2 : BitField := ⟨11, 1⟩
def clkout0Used : BitField := ⟨12, 1⟩
def clkout0P5en : BitField := ⟨13, 1⟩
def clkout0Lt : BitField := ⟨0, 8⟩
def clkout0Ht : BitField := ⟨8, 8⟩

/-- The addresses of the board; 0 for what it does not have. -/
structure ClockBases where
  aclkKernel0 : UInt32
  aclkKernel1 : UInt32
  aclkFreqKernel0 : UInt32
  aclkFreqKernel1 : UInt32
  prIsolation : UInt32

namespace ClockBases

variable (board : ClockBases)

def clockWizBases : Nat → UInt32
  | 0 => board.aclkKernel0
  | 1 => board.aclkKernel1
  | _ => 0

def clockCounterBases : Nat → UInt32
  | 0 => board.aclkFreqKernel0
  | 1 => board.aclkFreqKernel1
  | _ => 0

end ClockBases

/-! ## Dividers -/

def clkAcapMaxValueForO : Int := 4320
def clkAcapInputFreqX1000 : UInt32 := 33333

def floorAcapO (freq : Int) : UInt32 := UInt32.ofInt (clkAcapMaxValueForO.tdiv freq)

def floorAcapM (freq : Int) : UInt32 :=
  floorAcapO freq * UInt32.ofInt freq * 1000 / clkAcapInputFreqX1000

def asInt (freq : UInt32) : Int := freq.toInt32.toInt

/-! ## The wizard of a clock -/

section Wizard

variable (base : UInt32)

/-- Polls the status until it is 1, `cycle` times more at most. -/
def pollStatus (interval : Nat) : Nat → BitVec 32 → RegProg Int
  | 0, val => return if val ≠ 1 then -1 else 0
  | cycle + 1, val => do
      if val = 1 then return 0
      else
        mdelay interval
        let val ← ioSyncRead32 (base + oclClkwizStatusOffset)
        pollStatus interval cycle val

def clockWizBusy (cycle interval : Nat) : RegProg Int := do
  let val ← ioSyncRead32 (base + oclClkwizStatusOffset)
  pollStatus base interval cycle val

def clkfboutValue (M : UInt32) (val : BitVec 32) : BitVec 32 :=
  let val := clkfboutEdge.set val (if M % 2 ≠ 0 then 1 else 0)
  let val := clkfboutEn.set val 1
  let val := clkfboutMx.set val 1
  clkfboutPrediv2.set val 1

def clkout0Value (O : UInt32) (val : BitVec 32) : BitVec 32 :=
  let val := clkout0Edge.set val (if O % 2 ≠ 0 then 1 else 0)
  let val := clkout0Mx.set val 1
  let val := clkout0Used.set val 1
  let val := clkout0Prediv2.set val 0
  clkout0P5en.set val 0

def half (divider : UInt32) : UInt32 := (divider - divider % 2) / 2

def programClock (freq : UInt32) : RegProg Unit := do
  let val ← ioSyncRead32 (base + oclClkwizDivclk)
  ioSyncWrite32 (divclkEdge.set val 0) (base + oclClkwizDivclk)
  let val ← ioSyncRead32 (base + oclClkwizDivclkTs)
  ioSyncWrite32 (divclkHt.set (divclkLt.set val 0) 0) (base + oclClkwizDivclkTs)
  let val ← ioSyncRead32 (base + oclClkwizClkfboutFract)
  ioSyncWrite32 (clkfboutFractEn.set val 0) (base + oclClkwizClkfboutFract)
  let O := floorAcapO (asInt freq)
  let M := floorAcapM (asInt freq)
  let val ← ioSyncRead32 (base + oclClkwizClkfbout)
  ioSyncWrite32 (clkfboutValue M val) (base + oclClkwizClkfbout)
  ioSyncWrite32 (clkfboutHt.set (clkfboutLt.set 0 (half M).toBitVec) (half M).toBitVec)
    (base + oclClkwizClkfboutTs)
  let val ← ioSyncRead32 (base + oclClkwizClkout0)
  ioSyncWrite32 (clkout0Value O val) (base + oclClkwizClkout0)
  ioSyncWrite32 (clkout0Ht.set (clkout0Lt.set 0 (half O).toBitVec) (half O).toBitVec)
    (base + oclClkwizClkout0Ts)
  ioSyncWrite32 0x3 (base + oclClkwizInitConfig)

end Wizard

/-! ## The counter of a clock -/

def measureDone (status : BitVec 32) : Bool := status &&& 0xffff == 0x2

def awaitMeasure (base : UInt32) (_ : Nat) : RegProg (Option (BitVec 32)) := do
  let status ← ioSyncRead32 base
  if measureDone status = true then return some status
  else
    mdelay 30
    return none

def rmgmtClockGetFreq (base : UInt32) : RegProg UInt32 := do
  if base = 0 then return 0
  else
    ioSyncWrite32 0x1 base
    let measured ← Prog.forUntil (awaitMeasure base) 0 10
    match measured with
    | none => return 0
    | some status =>
        let freq ← ioSyncRead32
          (base + (if status &&& 0x10000 ≠ 0 then 0x10 else 0x8))
        return UInt32.ofBitVec freq

/-! ## A request -/

inductive ScalingOp
  | clockWizBusy (i cycle interval : Nat)
  | rmgmtClockGetFreq (i : Nat)
  | programClock (i : Nat) (freq : UInt32)
  | axigateFreeze
  | axigateFree

abbrev ScalingOp.Answer : ScalingOp → Type
  | .clockWizBusy _ _ _ => Int
  | .rmgmtClockGetFreq _ => UInt32
  | .programClock _ _ | .axigateFreeze | .axigateFree => Unit

abbrev ScalingProg := Prog ScalingOp ScalingOp.Answer

/-- The accesses a step makes. -/
def ScalingOp.body (board : ClockBases) : (op : ScalingOp) → RegProg op.Answer
  | .clockWizBusy i cycle interval => Clock.clockWizBusy (board.clockWizBases i) cycle interval
  | .rmgmtClockGetFreq i => Clock.rmgmtClockGetFreq (board.clockCounterBases i)
  | .programClock i freq => Clock.programClock (board.clockWizBases i) freq
  | .axigateFreeze => ioSyncWrite32 0x0 board.prIsolation
  | .axigateFree => ioSyncWrite32 0x3 board.prIsolation

def setClock (i : Nat) (freq : UInt32) : ScalingProg (Option Int) := do
  let err : Int ← Prog.perform (ScalingOp.clockWizBusy i 20 50)
  if err ≠ 0 then return some err
  else
    Prog.perform (ScalingOp.programClock i freq)
    let err : Int ← Prog.perform (ScalingOp.clockWizBusy i 100 100)
    if err ≠ 0 then return some err else return none

def scaleClock (payload : ClockPayload) (force : Bool) (i : Nat) : ScalingProg (Option Int) := do
  let freq := payload.freq i
  if freq = 0 then return none
  else if force = true then setClock i freq
  else
    let curFreq : UInt32 ← Prog.perform (ScalingOp.rmgmtClockGetFreq i)
    if curFreq = freq then return none else setClock i freq

def rmgmtClockFreqScalingImpl (payload : ClockPayload) (force : Bool) : ScalingProg Int := do
  let err ← Prog.forUntil (scaleClock payload force) 0 payload.oclReqNum.toNat
  return err.getD 0

def rmgmtClockFreqScaling (payload : ClockPayload) : ScalingProg Int := do
  if payload.oclReqType ≠ clClockScaleInternal then
    Prog.perform ScalingOp.axigateFreeze
    let ret ← rmgmtClockFreqScalingImpl payload false
    Prog.perform ScalingOp.axigateFree
    return ret
  else rmgmtClockFreqScalingImpl payload true

/-- For a version of the counter the host asks the frequency of one clock only. -/
def clRmgmtClock (plIsReady : Bool) (payload : ClockPayload) : ScalingProg (Int × ClockPayload) := do
  let ret := validateClockPayload plIsReady payload
  if ret ≠ 0 then return (ret, payload)
  else if payload.oclReqType = clClockScale ∨ payload.oclReqType = clClockScaleInternal then
    let ret ← rmgmtClockFreqScaling payload
    return (ret, payload)
  else if payload.oclReqType = clClockWizard ∨ payload.oclReqType = clClockCounter then
    let freq : UInt32 ← Prog.perform (ScalingOp.rmgmtClockGetFreq payload.oclReqId.toNat)
    return (0, { payload with oclReqFreq := Function.update payload.oclReqFreq 0 freq })
  else return (-einval, payload)

/-! ## Which clocks are programmed -/

section Programmed

variable {payload : ClockPayload}

def Requested (payload : ClockPayload) : ScalingOp → Prop
  | .programClock i freq => i < payload.oclReqNum.toNat ∧ payload.freq i = freq ∧ freq ≠ 0
  | _ => True

abbrev AnyAnswer (_ : Unit) (op : ScalingOp) (_ : op.Answer) (_ : Unit) : Prop := True

private theorem safe_setClock {i : Nat} {freq : UInt32}
    (h : Requested payload (.programClock i freq)) :
    Prog.Safe AnyAnswer (fun _ => Requested payload) (fun _ _ => True) (setClock i freq) () := by
  refine (Prog.safe_perform_bind (ScalingOp.clockWizBusy i 20 50)).2 ⟨trivial, fun err _ _ => ?_⟩
  split
  · trivial
  · refine (Prog.safe_perform_bind (ScalingOp.programClock i freq)).2 ⟨h, fun _ _ _ => ?_⟩
    refine (Prog.safe_perform_bind (ScalingOp.clockWizBusy i 100 100)).2 ⟨trivial, fun err _ _ => ?_⟩
    split <;> trivial

private theorem safe_scaleClock (force : Bool) {i : Nat} (hi : i < payload.oclReqNum.toNat) :
    Prog.Safe AnyAnswer (fun _ => Requested payload) (fun _ _ => True)
      (scaleClock payload force i) () := by
  by_cases hzero : payload.freq i = 0
  · simp [scaleClock, hzero]
  · have hset := @safe_setClock payload i (payload.freq i) ⟨hi, rfl, hzero⟩
    cases force with
    | true => simpa [scaleClock, hzero] using hset
    | false =>
        rw [scaleClock, if_neg hzero, if_neg (by decide)]
        refine (Prog.safe_perform_bind (ScalingOp.rmgmtClockGetFreq i)).2 ⟨trivial, fun curFreq _ _ => ?_⟩
        split
        · trivial
        · exact hset

private theorem safe_rmgmtClockFreqScalingImpl (force : Bool) :
    Prog.Safe AnyAnswer (fun _ => Requested payload) (fun _ _ => True)
      (rmgmtClockFreqScalingImpl payload force) () := by
  have hloop := @Prog.Safe.forUntil _ _ _ _ AnyAnswer (fun _ => Requested payload)
    (scaleClock payload force) (fun _ _ => True) (fun _ _ => True) 0 payload.oclReqNum.toNat ()
    trivial fun i _ _ hlt _ =>
      (safe_scaleClock force (by omega)).weaken fun err _ _ => by cases err <;> trivial
  exact hloop.bind fun _ _ _ => trivial

private theorem safe_rmgmtClockFreqScaling (payload : ClockPayload) :
    Prog.Safe AnyAnswer (fun _ => Requested payload) (fun _ _ => True)
      (rmgmtClockFreqScaling payload) () := by
  unfold rmgmtClockFreqScaling
  split
  · refine (Prog.safe_perform_bind ScalingOp.axigateFreeze).2 ⟨trivial, fun _ _ _ => ?_⟩
    refine (safe_rmgmtClockFreqScalingImpl false).bind fun ret _ _ => ?_
    exact (Prog.safe_perform_bind ScalingOp.axigateFree).2 ⟨trivial, fun _ _ _ => trivial⟩
  · exact safe_rmgmtClockFreqScalingImpl true

private theorem safe_clRmgmtClock (plIsReady : Bool) (payload : ClockPayload) :
    Prog.Safe AnyAnswer (fun _ => Requested payload) (fun _ _ => True)
      (clRmgmtClock plIsReady payload) () := by
  by_cases hvalid : validateClockPayload plIsReady payload = 0
  · simp only [clRmgmtClock, hvalid, ne_eq, not_true_eq_false, if_false]
    split
    · exact (safe_rmgmtClockFreqScaling payload).bind fun _ _ _ => trivial
    · split
      · exact (Prog.safe_perform_bind (ScalingOp.rmgmtClockGetFreq _)).2
          ⟨trivial, fun _ _ _ => trivial⟩
      · trivial
  · simp [clRmgmtClock, hvalid]

end Programmed

/-! ## What a wizard is left with -/

def dividerO (freq : UInt32) : Nat := 4320 / freq.toNat

def dividerM (freq : UInt32) : Nat := dividerO freq * freq.toNat * 1000 / 33333

def RegOp.write : RegOp → Option (UInt32 × BitVec 32)
  | .write32 value address => some (address, value)
  | .read32 _ | .mdelay _ => none

def held (contents : UInt32 → BitVec 32) : (op : RegOp) → op.Answer
  | .read32 address => contents address
  | .write32 _ _ | .mdelay _ => ()

section Realises

variable (base freq : UInt32) (contents : UInt32 → BitVec 32)

def wizardWrites : List (UInt32 × BitVec 32) :=
  (Prog.ops (held contents) (programClock base freq)).filterMap RegOp.write

def programmed (offset : UInt32) : BitVec 32 :=
  updates contents (wizardWrites base freq contents) (base + offset)

/-- The registers that are read before they are written, with the fields that are meant. -/
def modifiedFields : List (UInt32 × List BitField) :=
  [(oclClkwizDivclk, [divclkEdge]), (oclClkwizDivclkTs, [divclkLt, divclkHt]),
    (oclClkwizClkfboutFract, [clkfboutFractEn]),
    (oclClkwizClkfbout, [clkfboutEdge, clkfboutEn, clkfboutMx, clkfboutPrediv2]),
    (oclClkwizClkout0, [clkout0Edge, clkout0Mx, clkout0Used, clkout0Prediv2, clkout0P5en])]

def wizardOffsets : List UInt32 :=
  [oclClkwizDivclk, oclClkwizDivclkTs, oclClkwizClkfboutFract, oclClkwizClkfbout,
    oclClkwizClkfboutTs, oclClkwizClkout0, oclClkwizClkout0Ts, oclClkwizInitConfig]

/-- The wizard makes the frequency of its input one that is close to the request. -/
structure Realises : Prop where
  configured : base ≠ 0
  offsets : ∀ write ∈ wizardWrites base freq contents, ∃ offset ∈ wizardOffsets,
    write.1 = base + offset
  divides : 1 ≤ dividerO freq
  decodedO : clkout0Lt.get (programmed base freq contents oclClkwizClkout0Ts) +
      clkout0Ht.get (programmed base freq contents oclClkwizClkout0Ts) +
      clkout0Edge.get (programmed base freq contents oclClkwizClkout0) = dividerO freq
  decodedM : clkfboutLt.get (programmed base freq contents oclClkwizClkfboutTs) +
      clkfboutHt.get (programmed base freq contents oclClkwizClkfboutTs) +
      clkfboutEdge.get (programmed base freq contents oclClkwizClkfbout) = dividerM freq
  fitsO : (half (floorAcapO (asInt freq))).toNat < 2 ^ clkout0Lt.width
  fitsM : (half (floorAcapM (asInt freq))).toNat < 2 ^ clkfboutLt.width
  frame : ∀ register ∈ modifiedFields, ∀ k, (∀ field ∈ register.2, ¬ field.Covers k) →
    (programmed base freq contents register.1).getLsbD k =
      (contents (base + register.1)).getLsbD k

end Realises

section Values

variable {base freq : UInt32} {contents : UInt32 → BitVec 32}

private theorem wizardWrites_eq (base freq : UInt32) (contents : UInt32 → BitVec 32) :
    wizardWrites base freq contents =
      [(base + oclClkwizDivclk, divclkEdge.set (contents (base + oclClkwizDivclk)) 0),
        (base + oclClkwizDivclkTs,
          divclkHt.set (divclkLt.set (contents (base + oclClkwizDivclkTs)) 0) 0),
        (base + oclClkwizClkfboutFract,
          clkfboutFractEn.set (contents (base + oclClkwizClkfboutFract)) 0),
        (base + oclClkwizClkfbout,
          clkfboutValue (floorAcapM (asInt freq)) (contents (base + oclClkwizClkfbout))),
        (base + oclClkwizClkfboutTs,
          clkfboutHt.set (clkfboutLt.set 0 (half (floorAcapM (asInt freq))).toBitVec)
            (half (floorAcapM (asInt freq))).toBitVec),
        (base + oclClkwizClkout0,
          clkout0Value (floorAcapO (asInt freq)) (contents (base + oclClkwizClkout0))),
        (base + oclClkwizClkout0Ts,
          clkout0Ht.set (clkout0Lt.set 0 (half (floorAcapO (asInt freq))).toBitVec)
            (half (floorAcapO (asInt freq))).toBitVec),
        (base + oclClkwizInitConfig, 0x3)] := rfl

private theorem programmed_eq (base freq : UInt32) (contents : UInt32 → BitVec 32) :
    programmed base freq contents oclClkwizDivclk =
        divclkEdge.set (contents (base + oclClkwizDivclk)) 0 ∧
      programmed base freq contents oclClkwizDivclkTs =
        divclkHt.set (divclkLt.set (contents (base + oclClkwizDivclkTs)) 0) 0 ∧
      programmed base freq contents oclClkwizClkfboutFract =
        clkfboutFractEn.set (contents (base + oclClkwizClkfboutFract)) 0 ∧
      programmed base freq contents oclClkwizClkfbout =
        clkfboutValue (floorAcapM (asInt freq)) (contents (base + oclClkwizClkfbout)) ∧
      programmed base freq contents oclClkwizClkfboutTs =
        clkfboutHt.set (clkfboutLt.set 0 (half (floorAcapM (asInt freq))).toBitVec)
          (half (floorAcapM (asInt freq))).toBitVec ∧
      programmed base freq contents oclClkwizClkout0 =
        clkout0Value (floorAcapO (asInt freq)) (contents (base + oclClkwizClkout0)) ∧
      programmed base freq contents oclClkwizClkout0Ts =
        clkout0Ht.set (clkout0Lt.set 0 (half (floorAcapO (asInt freq))).toBitVec)
          (half (floorAcapO (asInt freq))).toBitVec := by
  simp only [programmed, updates_apply, wizardWrites_eq, lastWrite, UInt32.add_right_inj]
  refine ⟨rfl, rfl, rfl, rfl, rfl, rfl, rfl⟩

private theorem toNat_half (divider : UInt32) : (half divider).toNat = divider.toNat / 2 := by
  have hmod : divider.toNat % 2 ≤ divider.toNat := Nat.mod_le _ _
  have hlt := divider.toNat_lt
  rw [half, UInt32.toNat_div, UInt32.toNat_sub, UInt32.toNat_mod]
  simp only [UInt32.reduceToNat]
  omega

private theorem get_halves (divider : UInt32) :
    clkout0Lt.get (clkout0Ht.set (clkout0Lt.set 0 (half divider).toBitVec)
        (half divider).toBitVec) = divider.toNat / 2 % 256 ∧
      clkout0Ht.get (clkout0Ht.set (clkout0Lt.set 0 (half divider).toBitVec)
        (half divider).toBitVec) = divider.toNat / 2 % 256 := by
  have hhalf : (half divider).toBitVec.toNat = divider.toNat / 2 := toNat_half divider
  have hapart : clkout0Lt.Apart clkout0Ht := by decide
  constructor
  · rw [BitField.get_set_of_apart hapart _ _ (by decide), BitField.get_set _ _ _ (by decide), hhalf]
    rfl
  · rw [BitField.get_set _ _ _ (by decide), hhalf]
    rfl

private theorem toNat_odd (divider : UInt32) :
    (if divider % 2 ≠ 0 then (1 : BitVec 32) else 0).toNat % 2 ^ 1 = divider.toNat % 2 := by
  have hmod : divider % 2 = 0 ↔ divider.toNat % 2 = 0 := by
    rw [← UInt32.toNat_inj, UInt32.toNat_mod]
    rfl
  by_cases hodd : divider.toNat % 2 = 0
  · simp [hmod, hodd]
  · have hone : divider.toNat % 2 = 1 := by omega
    simp [hmod, hone]

private theorem get_clkfboutEdge (M : UInt32) (val : BitVec 32) :
    clkfboutEdge.get (clkfboutValue M val) = M.toNat % 2 := by
  unfold clkfboutValue
  rw [BitField.get_set_of_apart (by decide) _ _ (by decide),
    BitField.get_set_of_apart (by decide) _ _ (by decide),
    BitField.get_set_of_apart (by decide) _ _ (by decide), BitField.get_set _ _ _ (by decide)]
  exact toNat_odd M

private theorem get_clkout0Edge (O : UInt32) (val : BitVec 32) :
    clkout0Edge.get (clkout0Value O val) = O.toNat % 2 := by
  unfold clkout0Value
  rw [BitField.get_set_of_apart (by decide) _ _ (by decide),
    BitField.get_set_of_apart (by decide) _ _ (by decide),
    BitField.get_set_of_apart (by decide) _ _ (by decide),
    BitField.get_set_of_apart (by decide) _ _ (by decide), BitField.get_set _ _ _ (by decide)]
  exact toNat_odd O

private theorem programmed_frame {register : UInt32 × List BitField}
    (hregister : register ∈ modifiedFields)
    {k : Nat} (hk : ∀ field ∈ register.2, ¬ field.Covers k) :
    (programmed base freq contents register.1).getLsbD k =
      (contents (base + register.1)).getLsbD k := by
  obtain ⟨hdivclk, hdivclkTs, hfract, hclkfbout, -, hclkout0, -⟩ :=
    programmed_eq base freq contents
  simp only [modifiedFields, List.mem_cons, List.not_mem_nil, or_false] at hregister
  rcases hregister with rfl | rfl | rfl | rfl | rfl
  all_goals
    simp only [List.forall_mem_cons] at hk
    simp only [hdivclk, hdivclkTs, hfract, hclkfbout, hclkout0, clkfboutValue, clkout0Value,
      BitField.getLsbD_set_of_not_covers, hk, not_false_eq_true]

/-! ## Dividers of a frequency -/

theorem asInt_of_lt {freq : UInt32} (h : freq.toNat < 2 ^ 31) : asInt freq = freq.toNat := by
  have hlt : 2 * freq.toBitVec.toNat < 2 ^ 32 := by
    rw [UInt32.toNat_toBitVec]
    omega
  exact BitVec.toInt_eq_toNat_of_lt hlt

private theorem toNat_ofInt_natCast {n : Nat} (h : n < 2 ^ 32) : (UInt32.ofInt n).toNat = n := by
  have hmod : ((n : Int) % 2 ^ 32).toNat = n := by omega
  rw [UInt32.ofInt, hmod, UInt32.toNat_ofNat', Nat.mod_eq_of_lt h]

private theorem toNat_floorAcapO (h : freq.toNat < 2 ^ 31) :
    (floorAcapO (asInt freq)).toNat = dividerO freq := by
  have hle : 4320 / freq.toNat ≤ 4320 := Nat.div_le_self _ _
  rw [asInt_of_lt h, floorAcapO, clkAcapMaxValueForO, dividerO]
  exact toNat_ofInt_natCast (Nat.lt_of_le_of_lt hle (by decide))

private theorem dividerO_mul_le (freq : UInt32) : dividerO freq * freq.toNat ≤ 4320 :=
  Nat.div_mul_le_self 4320 freq.toNat

private theorem toNat_floorAcapM (h : freq.toNat < 2 ^ 31) :
    (floorAcapM (asInt freq)).toNat = dividerM freq := by
  have hle := dividerO_mul_le freq
  have hfreq : (UInt32.ofInt (asInt freq)).toNat = freq.toNat := by
    rw [asInt_of_lt h]
    exact toNat_ofInt_natCast (by omega)
  have hthousand : (1000 : UInt32).toNat = 1000 := rfl
  rw [floorAcapM, UInt32.toNat_div, UInt32.toNat_mul, UInt32.toNat_mul, toNat_floorAcapO h, hfreq,
    hthousand, Nat.mod_eq_of_lt (by omega), Nat.mod_eq_of_lt (by omega)]
  rfl

private theorem dividerO_half_lt_iff (hpos : 1 ≤ dividerO freq) :
    dividerO freq / 2 < 256 ↔ 9 ≤ freq.toNat := by
  have hzero : freq.toNat ≠ 0 := by
    intro h
    simp [dividerO, h] at hpos
  constructor
  · intro hlt
    by_contra hsmall
    have hlarge : 4320 / 8 ≤ dividerO freq :=
      Nat.div_le_div_left (by omega) (by omega)
    omega
  · intro hnine
    have hsmall : dividerO freq ≤ 4320 / 9 := Nat.div_le_div_left hnine (by decide)
    omega

private theorem dividerO_pos_iff (hfreq : freq ≠ 0) : 1 ≤ dividerO freq ↔ freq.toNat ≤ 4320 := by
  have hpos : 0 < freq.toNat := by
    have := (UInt32.toNat_inj (b := 0)).not.2 hfreq
    rw [UInt32.toNat_zero] at this
    omega
  rw [dividerO, Nat.le_div_iff_mul_le hpos, Nat.one_mul]

private theorem realises_iff (base : UInt32) (contents : UInt32 → BitVec 32) (hfreq : freq ≠ 0) :
    Realises base freq contents ↔ base ≠ 0 ∧ 9 ≤ freq.toNat ∧ freq.toNat ≤ 4320 := by
  constructor
  · intro h
    have hhigh := (dividerO_pos_iff hfreq).1 h.divides
    have hfits := h.fitsO
    rw [toNat_half, toNat_floorAcapO (by omega)] at hfits
    exact ⟨h.configured, (dividerO_half_lt_iff h.divides).1 hfits, hhigh⟩
  · rintro ⟨hbase, hlow, hhigh⟩
    have hO := @toNat_floorAcapO freq (by omega)
    have hM := @toNat_floorAcapM freq (by omega)
    have hpos := (dividerO_pos_iff hfreq).2 hhigh
    have hhalfO := (dividerO_half_lt_iff hpos).2 hlow
    have hhalfM : dividerM freq / 2 < 256 := by
      have hle := dividerO_mul_le freq
      have hsmall : dividerM freq ≤ 4320 * 1000 / 33333 :=
        Nat.div_le_div_right (Nat.mul_le_mul_right 1000 hle)
      omega
    obtain ⟨-, -, -, hclkfbout, hclkfboutTs, hclkout0, hclkout0Ts⟩ :=
      programmed_eq base freq contents
    exact {
      configured := hbase
      offsets := by
        rw [wizardWrites_eq]
        simp [wizardOffsets]
      divides := hpos
      decodedO := by
        rw [hclkout0Ts, hclkout0, (get_halves _).1, (get_halves _).2, get_clkout0Edge, hO]
        omega
      decodedM := by
        rw [hclkfboutTs, hclkfbout]
        refine (congrArg₂ _ (congrArg₂ _ (get_halves _).1 (get_halves _).2)
          (get_clkfboutEdge _ _)).trans ?_
        rw [hM]
        omega
      fitsO := by
        rw [toNat_half, hO]
        exact hhalfO
      fitsM := by
        rw [toNat_half, hM]
        exact hhalfM
      frame := fun register hregister k hk => programmed_frame hregister hk }

end Values

/-! ## All accesses of a request -/

section Accesses

variable (board : ClockBases) {σ : Type} {step : σ → (op : RegOp) → op.Answer → σ → Prop}

/-- A step of the scaling writes to these places only. -/
def WritesOf (board : ClockBases) (op : ScalingOp) (value : BitVec 32) (address : UInt32) : Prop :=
  match op with
  | .clockWizBusy _ _ _ => False
  | .rmgmtClockGetFreq i => address = board.clockCounterBases i ∧ address ≠ 0 ∧ value = 0x1
  | .programClock i _ => ∃ offset ∈ wizardOffsets, address = board.clockWizBases i + offset
  | .axigateFreeze => address = board.prIsolation ∧ value = 0x0
  | .axigateFree => address = board.prIsolation ∧ value = 0x3

def GuardsWrites (board : ClockBases) (op : ScalingOp) : RegOp → Prop
  | .write32 value address => WritesOf board op value address
  | .read32 _ | .mdelay _ => True

private theorem safe_pollStatus (base : UInt32) (op : ScalingOp) (interval cycle : Nat)
    (val : BitVec 32)
    (s : σ) :
    Prog.Safe step (fun _ => GuardsWrites board op) (fun _ _ => True)
      (pollStatus base interval cycle val) s := by
  induction cycle generalizing val s with
  | zero => trivial
  | succ cycle ih =>
      rw [pollStatus]
      split
      · trivial
      · exact ⟨trivial, fun _ s₁ _ => ⟨trivial, fun val s₂ _ => ih val s₂⟩⟩

private theorem safe_measure (base : UInt32) (op : ScalingOp) (s : σ) :
    Prog.Safe step (fun _ => GuardsWrites board op) (fun _ _ => True)
      (Prog.forUntil (awaitMeasure base) 0 10) s := by
  refine (@Prog.Safe.forUntil _ _ _ _ step _ _ (fun _ _ => True) (fun _ _ => True) _ _ s trivial
    fun i s₁ _ _ _ => ?_).weaken fun _ _ _ => trivial
  refine (Prog.safe_perform_bind (RegOp.read32 base)).2 ⟨trivial, fun status s₂ _ => ?_⟩
  split
  · trivial
  · exact ⟨trivial, fun _ _ _ => trivial⟩

theorem safe_body (op : ScalingOp) (s : σ) :
    Prog.Safe step (fun _ => GuardsWrites board op) (fun _ _ => True) (op.body board) s := by
  cases op with
  | clockWizBusy i cycle interval =>
      exact ⟨trivial, fun val s₁ _ => safe_pollStatus board _ _ interval cycle val s₁⟩
  | rmgmtClockGetFreq i =>
      unfold ScalingOp.body rmgmtClockGetFreq
      by_cases hbase : board.clockCounterBases i = 0
      · simp [hbase]
      · simp only [hbase, if_false]
        refine ⟨⟨rfl, hbase, rfl⟩, fun _ s₁ _ => ?_⟩
        refine (safe_measure board _ _ s₁).bind fun measured s₂ _ => ?_
        cases measured with
        | none => trivial
        | some status => exact ⟨trivial, fun _ _ _ => trivial⟩
  | programClock i freq =>
      have hoffset (offset : UInt32) (h : offset ∈ wizardOffsets) (value : BitVec 32) :
          GuardsWrites board (.programClock i freq)
            (.write32 value (board.clockWizBases i + offset)) := ⟨offset, h, rfl⟩
      refine ⟨trivial, fun _ _ _ => ⟨hoffset _ (by decide) _, fun _ _ _ => ?_⟩⟩
      refine ⟨trivial, fun _ _ _ => ⟨hoffset _ (by decide) _, fun _ _ _ => ?_⟩⟩
      refine ⟨trivial, fun _ _ _ => ⟨hoffset _ (by decide) _, fun _ _ _ => ?_⟩⟩
      refine ⟨trivial, fun _ _ _ => ⟨hoffset _ (by decide) _, fun _ _ _ => ?_⟩⟩
      refine ⟨hoffset _ (by decide) _, fun _ _ _ => ?_⟩
      refine ⟨trivial, fun _ _ _ => ⟨hoffset _ (by decide) _, fun _ _ _ => ?_⟩⟩
      refine ⟨hoffset _ (by decide) _, fun _ _ _ => ?_⟩
      exact ⟨hoffset _ (by decide) _, fun _ _ _ => trivial⟩
  | axigateFreeze => exact ⟨⟨rfl, rfl⟩, fun _ _ _ => trivial⟩
  | axigateFree => exact ⟨⟨rfl, rfl⟩, fun _ _ _ => trivial⟩

theorem issues_write32_of_request {plIsReady : Bool} {payload : ClockPayload} {s s' : σ}
    {value : BitVec 32} {address : UInt32}
    (h : Prog.Issues step s ((clRmgmtClock plIsReady payload).interpret (ScalingOp.body board)) s'
      (.write32 value address)) :
    ∃ op, Requested payload op ∧ WritesOf board op value address := by
  obtain ⟨op, s₁, hissues, hbody⟩ := Prog.issues_interpret _ h
  exact ⟨op, (safe_clRmgmtClock plIsReady payload).issues hissues,
    (safe_body board op s₁).issues hbody⟩

end Accesses

/-- What is programmed for a request, at any clock that is. -/
theorem clRmgmtClock_realises_iff (board : ClockBases) {plIsReady : Bool} {payload : ClockPayload}
    {i : Nat} {freq : UInt32}
    (h : Prog.Issues AnyAnswer () (clRmgmtClock plIsReady payload) () (.programClock i freq))
    (contents : UInt32 → BitVec 32) :
    (i < payload.oclReqNum.toNat ∧ payload.freq i = freq ∧ freq ≠ 0) ∧
      (Realises (board.clockWizBases i) freq contents ↔
        board.clockWizBases i ≠ 0 ∧ 9 ≤ freq.toNat ∧ freq.toNat ≤ 4320) := by
  have hrequested : Requested payload (.programClock i freq) :=
    (safe_clRmgmtClock plIsReady payload).issues h
  exact ⟨hrequested, realises_iff _ contents hrequested.2.2⟩

def ClockPayload.one (i : Fin 4) (freq : UInt32) : ClockPayload where
  oclRegion := 0
  oclReqType := clClockScaleInternal
  oclReqId := 0
  oclReqNum := 4
  oclReqFreq j := if j = i then freq else 0

def ClockBases.board : ClockBases := ⟨0x80010000, 0x80020000, 0x80030000, 0x80040000, 0x80050000⟩

private theorem issues_second {p : ScalingProg (Int × ClockPayload)} {op op' : ScalingOp}
    {next : op.Answer → ScalingProg (Int × ClockPayload)}
    {next' : op'.Answer → ScalingProg (Int × ClockPayload)} (answer : op.Answer)
    (hfirst : p = .op op next) (hsecond : next answer = .op op' next') :
    Prog.Issues AnyAnswer () p () op' := by
  have hrun : Prog.Exec AnyAnswer () (next answer) () (.op op' next') := hsecond ▸ .refl _ _
  exact hfirst ▸ ⟨next', .op trivial hrun⟩

theorem realises_300 : Realises (ClockBases.board.clockWizBases 1) 300 (fun _ => 0) :=
  (clRmgmtClock_realises_iff .board
    (@issues_second (clRmgmtClock true (.one 1 300)) (.clockWizBusy 1 20 50)
      (.programClock 1 300) _ _ (0 : Int) rfl rfl) fun _ => 0).2.2 (by decide)

/-- The output divider of 8 MHz does not fit, and the third clock has no wizard. -/
theorem not_realises_small_third :
    (Prog.Issues AnyAnswer () (clRmgmtClock true (.one 0 8)) () (.programClock 0 8) ∧
      ¬ Realises (ClockBases.board.clockWizBases 0) 8 (fun _ => 0)) ∧
    (Prog.Issues AnyAnswer () (clRmgmtClock true (.one 2 100)) () (.programClock 2 100) ∧
      ¬ Realises (ClockBases.board.clockWizBases 2) 100 (fun _ => 0)) := by
  refine ⟨⟨?_, ?_⟩, ⟨?_, ?_⟩⟩
  · exact @issues_second _ (.clockWizBusy 0 20 50) _ _ _ (0 : Int) rfl rfl
  · exact mt (realises_iff _ _ (by decide)).1 (by decide)
  · exact @issues_second _ (.clockWizBusy 2 20 50) _ _ _ (0 : Int) rfl rfl
  · exact mt (realises_iff _ _ (by decide)).1 (by decide)

end Clock

end Vmr.Rmgmt
