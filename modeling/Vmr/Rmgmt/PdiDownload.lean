import Vmr.Lib.Prog

/-!
# Downloading a PDI

With the PL, `fpga_pdi_download` takes the shell out of use while the bitstream is
loaded: the kernel clock is no longer throttled, the AXI gate is frozen and the user
clocks are stopped.  Afterwards everything is put back, but only the result of the
load is returned.
-/

namespace Vmr.Rmgmt

open Vmr.Lib

inductive ShellRegister
  | prIsolation | ucsShutdown
  deriving DecidableEq, Repr

structure ClockAnswer where
  vmcReady : Bool
  sendToQueue : Int
  recvFromQueue : Int
  deriving DecidableEq, Repr

inductive PdiOp
  | xFpgaInitialize
  /-- The sensor task is asked to throttle the clocks, or not to. -/
  | kernelClock (enabled : Bool)
  | syncWrite32 (value : UInt32) (register : ShellRegister)
  | bitstreamLoad
  | reconfigClock
  | mdelay (ms : Nat)

abbrev PdiOp.Answer : PdiOp → Type
  | .xFpgaInitialize | .bitstreamLoad | .reconfigClock => Int
  | .kernelClock _ => ClockAnswer
  | .syncWrite32 _ _ | .mdelay _ => Unit

abbrev PdiProg := Prog PdiOp PdiOp.Answer

/-! ## The functions -/

def ClockAnswer.ret (answer : ClockAnswer) : Int :=
  if answer.vmcReady = false then 0
  else if answer.sendToQueue ≠ 0 then answer.sendToQueue
  else answer.recvFromQueue

def disableKernelClock : PdiProg Int := do
  let answer : ClockAnswer ← Prog.perform (PdiOp.kernelClock false)
  return answer.ret

def enableKernelClock : PdiProg Int := do
  let answer : ClockAnswer ← Prog.perform (PdiOp.kernelClock true)
  return answer.ret

def axigateFreeze : PdiProg Unit := Prog.perform (PdiOp.syncWrite32 0 .prIsolation)
def axigateFree : PdiProg Unit := Prog.perform (PdiOp.syncWrite32 3 .prIsolation)
def ucsStop : PdiProg Unit := Prog.perform (PdiOp.syncWrite32 0 .ucsShutdown)
def ucsStart : PdiProg Unit := Prog.perform (PdiOp.syncWrite32 1 .ucsShutdown)

def loadBitstream (hasPl : Bool) : PdiProg Int := do
  let ret : Int ← Prog.perform PdiOp.bitstreamLoad
  if hasPl = true then
    let _ : Int ← Prog.perform PdiOp.reconfigClock
    ucsStart
    Prog.perform (PdiOp.mdelay 10)
    axigateFree
    let _ ← enableKernelClock
    return ret
  else return ret

def fpgaPdiDownload (hasPl : Bool) : PdiProg Int := do
  let ret : Int ← Prog.perform PdiOp.xFpgaInitialize
  if ret ≠ 0 then return ret
  else if hasPl = true then
    let ret ← disableKernelClock
    if ret ≠ 0 then return ret
    else
      axigateFreeze
      ucsStop
      loadBitstream hasPl
  else loadBitstream hasPl

/-! ## The shell -/

structure Shell where
  prIsolation : UInt32
  ucsShutdown : UInt32
  clkThrottlingEnabled : Bool
  /-- The gate has been frozen. -/
  frozen : Bool
  deriving DecidableEq, Repr

def Shell.write (s : Shell) (value : UInt32) : ShellRegister → Shell
  | .prIsolation => { s with prIsolation := value, frozen := s.frozen || value == 0 }
  | .ucsShutdown => { s with ucsShutdown := value }

structure Outcomes where
  xFpgaInitialize : Int
  disable : ClockAnswer
  bitstreamLoad : Int
  reconfigClock : Int
  enable : ClockAnswer
  deriving DecidableEq, Repr

def Outcomes.kernelClock (outcomes : Outcomes) (enabled : Bool) : ClockAnswer :=
  if enabled = true then outcomes.enable else outcomes.disable

/--
A request that was answered has been carried out, one that was not sent has not; one
whose answer is late is carried out before or after the return.
-/
inductive ShellStep (outcomes : Outcomes) : Shell → (op : PdiOp) → op.Answer → Shell → Prop
  | xFpgaInitialize (s) : ShellStep outcomes s .xFpgaInitialize outcomes.xFpgaInitialize s
  | carriedOut (s) {enabled : Bool}
      (h : (outcomes.kernelClock enabled).vmcReady = false ∨
        (outcomes.kernelClock enabled).sendToQueue = 0) :
      ShellStep outcomes s (.kernelClock enabled) (outcomes.kernelClock enabled)
        { s with clkThrottlingEnabled := enabled }
  | failed (s) {enabled : Bool} (h : (outcomes.kernelClock enabled).ret ≠ 0) :
      ShellStep outcomes s (.kernelClock enabled) (outcomes.kernelClock enabled) s
  | syncWrite32 (s value register) :
      ShellStep outcomes s (.syncWrite32 value register) () (s.write value register)
  | bitstreamLoad (s) : ShellStep outcomes s .bitstreamLoad outcomes.bitstreamLoad s
  | reconfigClock (s) : ShellStep outcomes s .reconfigClock outcomes.reconfigClock s
  | mdelay (s ms) : ShellStep outcomes s (.mdelay ms) () s

structure Shell.InUse (s : Shell) : Prop where
  free : s.prIsolation = 3
  started : s.ucsShutdown = 1
  throttling : s.clkThrottlingEnabled = true

/-- What a return says and leaves. -/
structure Restored (outcomes : Outcomes) (ret : Int) (s : Shell) : Prop where
  inUse : s.frozen = true → s.InUse
  honest : ret = 0 → outcomes.bitstreamLoad = 0 ∧ outcomes.reconfigClock = 0

/-- However long the sensor task takes. -/
def RestoresShell (outcomes : Outcomes) : Prop :=
  ∀ s ret s', s.frozen = false →
    Prog.Returns (ShellStep outcomes) s (fpgaPdiDownload true) ret s' → Restored outcomes ret s'

/-! ## Every run -/

section Runs

variable {outcomes : Outcomes} {s s' : Shell} {ret : Int}

private theorem returns_kernelClock {enabled : Bool} {p : PdiProg Int}
    (hp : p = (do
      let answer : ClockAnswer ← Prog.perform (PdiOp.kernelClock enabled)
      return answer.ret))
    (h : Prog.Returns (ShellStep outcomes) s p ret s') :
    ret = (outcomes.kernelClock enabled).ret ∧ s'.frozen = s.frozen ∧
      s'.prIsolation = s.prIsolation ∧ s'.ucsShutdown = s.ucsShutdown ∧
      (ret = 0 → s'.clkThrottlingEnabled = enabled) := by
  subst hp
  obtain ⟨answer, s₁, hstep, hret⟩ := Prog.returns_bind.1 h
  obtain ⟨rfl, rfl⟩ := Prog.returns_ret.1 hret
  cases Prog.returns_perform.1 hstep with
  | carriedOut => exact ⟨rfl, rfl, rfl, rfl, fun _ => rfl⟩
  | failed hfailed => exact ⟨rfl, rfl, rfl, rfl, fun hzero => absurd hzero hfailed⟩

/-- The gate and the user clocks are back on every return. -/
structure PutBack (outcomes : Outcomes) (ret : Int) (s : Shell) : Prop where
  ret : ret = outcomes.bitstreamLoad
  free : s.prIsolation = 3
  started : s.ucsShutdown = 1
  throttling : outcomes.enable.ret = 0 → s.clkThrottlingEnabled = true

private theorem putBack_of_returns
    (h : Prog.Returns (ShellStep outcomes) s (loadBitstream true) ret s') :
    PutBack outcomes ret s' := by
  obtain ⟨load, s₁, hload, h⟩ := Prog.returns_bind.1 h
  obtain ⟨reconfig, s₂, hreconfig, h⟩ := Prog.returns_bind.1 h
  obtain ⟨_, s₃, hstart, h⟩ := Prog.returns_bind.1 h
  obtain ⟨_, s₄, hdelay, h⟩ := Prog.returns_bind.1 h
  obtain ⟨_, s₅, hfree, h⟩ := Prog.returns_bind.1 h
  obtain ⟨enable, s₆, henable, h⟩ := Prog.returns_bind.1 h
  obtain ⟨rfl, rfl⟩ := Prog.returns_ret.1 h
  cases Prog.returns_perform.1 hload
  cases Prog.returns_perform.1 hreconfig
  cases Prog.returns_perform.1 hstart
  cases Prog.returns_perform.1 hdelay
  cases Prog.returns_perform.1 hfree
  obtain ⟨rfl, -, hisolation, hucs, hthrottling⟩ := returns_kernelClock rfl henable
  exact ⟨rfl, hisolation, hucs, hthrottling⟩

private theorem fpgaPdiDownload_returns
    (h : Prog.Returns (ShellStep outcomes) s (fpgaPdiDownload true) ret s') :
    (ret ≠ 0 ∧ s'.frozen = s.frozen) ∨
      (outcomes.xFpgaInitialize = 0 ∧ outcomes.disable.ret = 0 ∧ PutBack outcomes ret s') := by
  obtain ⟨init, s₁, hstep, h⟩ := Prog.returns_bind.1 h
  cases Prog.returns_perform.1 hstep
  by_cases hinit : outcomes.xFpgaInitialize = 0
  · rw [if_neg (not_not.2 hinit), if_pos rfl] at h
    obtain ⟨disable, s₂, hdisable, h⟩ := Prog.returns_bind.1 h
    obtain ⟨hanswer, hfrozen, -⟩ := returns_kernelClock rfl hdisable
    by_cases hzero : disable = 0
    · rw [if_neg (not_not.2 hzero)] at h
      obtain ⟨_, s₃, -, h⟩ := Prog.returns_bind.1 h
      obtain ⟨_, s₄, -, h⟩ := Prog.returns_bind.1 h
      exact .inr ⟨hinit, hanswer.symm.trans hzero, putBack_of_returns h⟩
    · rw [if_pos hzero] at h
      obtain ⟨rfl, rfl⟩ := Prog.returns_ret.1 h
      exact .inl ⟨hzero, hfrozen⟩
  · rw [if_pos hinit] at h
    obtain ⟨rfl, rfl⟩ := Prog.returns_ret.1 h
    exact .inl ⟨hinit, rfl⟩

end Runs

/-! ## A run -/

def Outcomes.respond (outcomes : Outcomes) (s : Shell) : (op : PdiOp) → op.Answer × Shell
  | .xFpgaInitialize => (outcomes.xFpgaInitialize, s)
  | .kernelClock enabled =>
      (outcomes.kernelClock enabled,
        if (outcomes.kernelClock enabled).ret = 0 then { s with clkThrottlingEnabled := enabled }
        else s)
  | .syncWrite32 value register => ((), s.write value register)
  | .bitstreamLoad => (outcomes.bitstreamLoad, s)
  | .reconfigClock => (outcomes.reconfigClock, s)
  | .mdelay _ => ((), s)

private theorem shellStep_respond (outcomes : Outcomes) (s : Shell) (op : PdiOp) :
    ShellStep outcomes s op (outcomes.respond s op).1 (outcomes.respond s op).2 := by
  cases op with
  | xFpgaInitialize => exact .xFpgaInitialize s
  | kernelClock enabled =>
      by_cases hret : (outcomes.kernelClock enabled).ret = 0
      · have hsent : (outcomes.kernelClock enabled).vmcReady = false ∨
            (outcomes.kernelClock enabled).sendToQueue = 0 := by
          unfold ClockAnswer.ret at hret
          split at hret
          · exact .inl ‹_›
          · split at hret
            · exact absurd hret ‹_›
            · exact .inr (not_not.1 ‹_›)
        simpa [Outcomes.respond, hret] using ShellStep.carriedOut s hsent
      · simpa [Outcomes.respond, hret] using ShellStep.failed s hret
  | syncWrite32 value register => exact .syncWrite32 s value register
  | bitstreamLoad => exact .bitstreamLoad s
  | reconfigClock => exact .reconfigClock s
  | mdelay ms => exact .mdelay s ms

def Shell.before : Shell := ⟨3, 1, true, false⟩

private theorem simulate_fpgaPdiDownload {outcomes : Outcomes}
    (hinit : outcomes.xFpgaInitialize = 0)
    (hdisable : outcomes.disable.ret = 0) :
    Prog.simulate outcomes.respond (fpgaPdiDownload true) .before =
      (outcomes.bitstreamLoad, ⟨3, 1, decide (outcomes.enable.ret = 0), true⟩) := by
  have hdisable' : (outcomes.kernelClock false).ret = 0 := hdisable
  have henable : outcomes.kernelClock true = outcomes.enable := rfl
  by_cases hlate : outcomes.enable.ret = 0 <;>
    simp [fpgaPdiDownload, loadBitstream, disableKernelClock, enableKernelClock, axigateFreeze,
      axigateFree, ucsStop, ucsStart, Prog.simulate, Prog.perform,
      Outcomes.respond, Shell.write, Shell.before, hinit, hdisable', henable, hlate]

/-! ## When the shell is restored -/

theorem fpgaPdiDownload_restores_iff (outcomes : Outcomes) :
    RestoresShell outcomes ↔
      outcomes.xFpgaInitialize ≠ 0 ∨ outcomes.disable.ret ≠ 0 ∨
        ((outcomes.bitstreamLoad ≠ 0 ∨ outcomes.reconfigClock = 0) ∧
          outcomes.enable.ret = 0) := by
  constructor
  · intro h
    by_contra hnot
    obtain ⟨hinit, hdisable, hlate⟩ : outcomes.xFpgaInitialize = 0 ∧ outcomes.disable.ret = 0 ∧
        ¬ ((outcomes.bitstreamLoad ≠ 0 ∨ outcomes.reconfigClock = 0) ∧
          outcomes.enable.ret = 0) := by
      simpa only [not_or, ne_eq, not_not] using hnot
    have hrun := Prog.returns_simulate (shellStep_respond outcomes) (fpgaPdiDownload true) .before
    rw [simulate_fpgaPdiDownload hinit hdisable] at hrun
    have hrestored := h .before _ _ rfl hrun
    have hthrottling := (hrestored.inUse rfl).throttling
    refine hlate ⟨?_, of_decide_eq_true hthrottling⟩
    by_cases hload : outcomes.bitstreamLoad = 0
    · exact .inr (hrestored.honest hload).2
    · exact .inl hload
  · intro h s ret s' hfrozen hrun
    rcases fpgaPdiDownload_returns hrun with ⟨hret, hsame⟩ | ⟨hinit, hdisable, hback⟩
    · exact ⟨fun hs' => by simp [hsame, hfrozen] at hs', fun hzero => absurd hzero hret⟩
    · obtain ⟨hhonest, henable⟩ : (outcomes.bitstreamLoad ≠ 0 ∨ outcomes.reconfigClock = 0) ∧
          outcomes.enable.ret = 0 := by
        simpa [hinit, hdisable] using h
      refine ⟨fun _ => ⟨hback.free, hback.started, hback.throttling henable⟩, fun hzero => ?_⟩
      have hload : outcomes.bitstreamLoad = 0 := hback.ret ▸ hzero
      exact ⟨hload, hhonest.resolve_left (not_not.2 hload)⟩

def Outcomes.notConfigured : Outcomes := ⟨0, ⟨true, 0, 0⟩, 0, -22, ⟨true, 0, 0⟩⟩

theorem not_restores_notConfigured : ¬ RestoresShell .notConfigured := by
  intro h
  have hrun := Prog.returns_simulate (shellStep_respond .notConfigured) (fpgaPdiDownload true)
    .before
  rw [simulate_fpgaPdiDownload rfl rfl] at hrun
  exact absurd ((h .before _ _ rfl hrun).honest rfl).2 (by decide)

end Vmr.Rmgmt
