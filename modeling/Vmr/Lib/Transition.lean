import Mathlib.Logic.Basic
import Mathlib.Tactic.Common

/-!
# Labelled transition systems

States, labelled steps and the states a run can reach.  `Invariant` packages
what has to be shown once per system, `Reachable.induction` turns it into a
fact about every run, and `restrict` keeps only the runs whose every step meets
a condition on the state before it.
-/

namespace Vmr.Lib

structure TransitionSystem (σ α : Type) where
  init : σ → Prop
  step : σ → α → σ → Prop

namespace TransitionSystem

variable {σ α : Type} (system : TransitionSystem σ α)

inductive Reachable : σ → Prop
  | init {s} (h : system.init s) : Reachable s
  | step {s label s'} (h : Reachable s) (hstep : system.step s label s') :
      Reachable s'

structure Invariant (inv : σ → Prop) : Prop where
  init : ∀ s, system.init s → inv s
  step : ∀ s label s', inv s → system.step s label s' → inv s'

variable {system}

theorem Reachable.invariant {inv : σ → Prop} (h : system.Invariant inv)
    {s : σ} (hs : system.Reachable s) : inv s := by
  induction hs with
  | init hinit => exact h.init _ hinit
  | step _ hstep ih => exact h.step _ _ _ ih hstep

variable (system) in
/-- The runs of `system` whose steps are all `allowed` where they are taken. -/
def restrict (allowed : σ → α → Prop) : TransitionSystem σ α where
  init := system.init
  step s label s' := allowed s label ∧ system.step s label s'

theorem Reachable.of_restrict {allowed : σ → α → Prop} {s : σ}
    (h : (system.restrict allowed).Reachable s) : system.Reachable s := by
  induction h with
  | init hinit => exact .init hinit
  | step _ hstep ih => exact .step ih hstep.2

def runLabels (apply : σ → α → Option σ) : List α → σ → Option σ
  | [], s => some s
  | label :: labels, s => (apply s label).bind (runLabels apply labels)

/--
A concrete run reaches a reachable state.  `inv` carries what is known along the
run and may be needed to see that a step is one of the system's.
-/
theorem Reachable.runLabels {apply : σ → α → Option σ} {inv : σ → Prop}
    (hstep : ∀ s label s', inv s → apply s label = some s' →
      system.step s label s' ∧ inv s')
    {labels : List α} {s s' : σ} (hfrom : system.Reachable s) (hinv : inv s)
    (hrun : TransitionSystem.runLabels apply labels s = some s') :
    system.Reachable s' := by
  induction labels generalizing s with
  | nil =>
      cases hrun
      exact hfrom
  | cons label labels ih =>
      cases happly : apply s label with
      | none => simp [TransitionSystem.runLabels, happly] at hrun
      | some next =>
          rw [TransitionSystem.runLabels, happly] at hrun
          obtain ⟨hnext, hinv'⟩ := hstep s label next hinv happly
          exact ih (.step hfrom hnext) hinv' hrun

end TransitionSystem

end Vmr.Lib
