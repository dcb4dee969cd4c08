import Mathlib.Logic.Basic
import Mathlib.Tactic.Common

/-!
# Programs over an interface of operations

A `Prog` either returns or issues one operation and continues with the answer
to it.  Code that talks to a device, a line or a peer is written as such a
program once; what an operation may answer, and what it does to the world, is
a relation `step` chosen afterwards.  A failing transfer, a timeout and a torn
write are then just more answers.

`Exec` is the run relation.  `Safe` is the proof rule: every operation that is
issued meets a guard in the state where it is issued, and every return meets a
postcondition.  `Safe.exec` carries it along runs.
-/

namespace Vmr.Lib

inductive Prog (Op : Type) (Ans : Op → Type) (α : Type) where
  | ret (value : α)
  | op (o : Op) (next : Ans o → Prog Op Ans α)

namespace Prog

variable {Op : Type} {Ans : Op → Type} {α β γ : Type}

def bind : Prog Op Ans α → (α → Prog Op Ans β) → Prog Op Ans β
  | .ret value, f => f value
  | .op o next, f => .op o fun answer => (next answer).bind f

instance : Monad (Prog Op Ans) where
  pure := .ret
  bind := bind

def perform (o : Op) : Prog Op Ans (Ans o) := .op o .ret

@[simp] theorem pure_eq (value : α) :
    (pure value : Prog Op Ans α) = .ret value := rfl

@[simp] theorem ret_bind (value : α) (f : α → Prog Op Ans β) :
    ((.ret value : Prog Op Ans α) >>= f) = f value := rfl

@[simp] theorem op_bind (o : Op) (next : Ans o → Prog Op Ans α)
    (f : α → Prog Op Ans β) :
    ((.op o next : Prog Op Ans α) >>= f) =
      .op o fun answer => next answer >>= f := rfl

theorem bind_assoc' (p : Prog Op Ans α) (f : α → Prog Op Ans β)
    (g : β → Prog Op Ans γ) :
    p >>= f >>= g = p >>= fun value => f value >>= g := by
  induction p with
  | ret value => rfl
  | op o next ih =>
      simp only [op_bind]
      congr 1
      funext answer
      exact ih answer

theorem bind_pure' (p : Prog Op Ans α) : p.bind .ret = p := by
  induction p with
  | ret value => rfl
  | op o next ih =>
      rw [bind]
      congr 1
      funext answer
      exact ih answer

instance : LawfulMonad (Prog Op Ans) :=
  LawfulMonad.mk' (Prog Op Ans) bind_pure' (fun _ _ => rfl) bind_assoc'

/--
Run `body first`, `body (first + 1)`, … for `count` rounds, stopping at the
first round that answers `some`.  This is a `for` loop with an early return.
-/
def forUntil (body : Nat → Prog Op Ans (Option α)) :
    Nat → Nat → Prog Op Ans (Option α)
  | _, 0 => .ret none
  | first, count + 1 => do
      match ← body first with
      | some value => return some value
      | none => forUntil body (first + 1) count

/-! ## Runs -/

section Runs

variable {σ : Type} (step : σ → (o : Op) → Ans o → σ → Prop)

/-- `Exec s p s' q`: from state `s`, program `p` can get to `q` in state `s'`. -/
inductive Exec : σ → Prog Op Ans α → σ → Prog Op Ans α → Prop
  | refl (s p) : Exec s p s p
  | op {s s' s'' : σ} {o : Op} {next : Ans o → Prog Op Ans α} {answer : Ans o}
      {q : Prog Op Ans α} (hstep : step s o answer s')
      (rest : Exec s' (next answer) s'' q) : Exec s (.op o next) s'' q

def Returns (s : σ) (p : Prog Op Ans α) (value : α) (s' : σ) : Prop :=
  Exec step s p s' (.ret value)

def Visits (s : σ) (p : Prog Op Ans α) (s' : σ) : Prop :=
  ∃ q, Exec step s p s' q

def Issues (s : σ) (p : Prog Op Ans α) (s' : σ) (o : Op) : Prop :=
  ∃ next, Exec step s p s' (.op o next)

variable {step}

theorem Exec.trans {s s' s'' : σ} {p q r : Prog Op Ans α}
    (first : Exec step s p s' q) (second : Exec step s' q s'' r) :
    Exec step s p s'' r := by
  induction first with
  | refl => exact second
  | op hstep _ ih => exact .op hstep (ih second)

theorem Exec.bind {s s' : σ} {p q : Prog Op Ans α} (h : Exec step s p s' q)
    (f : α → Prog Op Ans β) : Exec step s (p >>= f) s' (q >>= f) := by
  induction h with
  | refl => exact .refl _ _
  | op hstep _ ih => exact .op hstep ih

theorem Exec.mono {step' : σ → (o : Op) → Ans o → σ → Prop}
    (hstep : ∀ s o answer s', step s o answer s' → step' s o answer s') {s s' : σ}
    {p q : Prog Op Ans α} (run : Exec step s p s' q) : Exec step' s p s' q := by
  induction run with
  | refl => exact .refl _ _
  | op h _ ih => exact .op (hstep _ _ _ _ h) ih

theorem Exec.simulated {τ : Type} {step' : τ → (o : Op) → Ans o → τ → Prop} {R : σ → τ → Prop}
    (hstep : ∀ s t o answer s', R s t → step s o answer s' → ∃ t', step' t o answer t' ∧ R s' t')
    {s s' : σ} {t : τ} {p q : Prog Op Ans α} (run : Exec step s p s' q) (hrel : R s t) :
    ∃ t', Exec step' t p t' q ∧ R s' t' := by
  induction run generalizing t with
  | refl => exact ⟨t, .refl _ _, hrel⟩
  | op h _ ih =>
      obtain ⟨t₁, hfirst, hrel₁⟩ := hstep _ _ _ _ _ hrel h
      obtain ⟨t', rest, hrel'⟩ := ih hrel₁
      exact ⟨t', .op hfirst rest, hrel'⟩

theorem exec_bind {s s' : σ} {p : Prog Op Ans α} {f : α → Prog Op Ans β} {q : Prog Op Ans β}
    (h : Exec step s (p >>= f) s' q) :
    (∃ r, Exec step s p s' r ∧ q = r >>= f) ∨
      ∃ value s₁, Returns step s p value s₁ ∧ Exec step s₁ (f value) s' q := by
  induction p generalizing s with
  | ret value => exact .inr ⟨value, s, .refl _ _, h⟩
  | op o next ih =>
      cases h with
      | refl => exact .inl ⟨_, .refl _ _, rfl⟩
      | op hstep rest =>
          rcases ih _ rest with ⟨r, first, rfl⟩ | ⟨value, s₁, first, second⟩
          · exact .inl ⟨r, .op hstep first, rfl⟩
          · exact .inr ⟨value, s₁, .op hstep first, second⟩

theorem visits_bind {s s' : σ} {p : Prog Op Ans α} {f : α → Prog Op Ans β}
    (h : Visits step s (p >>= f) s') :
    Visits step s p s' ∨ ∃ value s₁, Returns step s p value s₁ ∧ Visits step s₁ (f value) s' := by
  obtain ⟨q, run⟩ := h
  rcases exec_bind run with ⟨r, first, -⟩ | ⟨value, s₁, first, second⟩
  · exact .inl ⟨r, first⟩
  · exact .inr ⟨value, s₁, first, q, second⟩

theorem issues_bind {s s' : σ} {p : Prog Op Ans α} {f : α → Prog Op Ans β} {o : Op}
    (h : Issues step s (p >>= f) s' o) :
    Issues step s p s' o ∨ ∃ value s₁, Returns step s p value s₁ ∧ Issues step s₁ (f value) s' o := by
  obtain ⟨next, run⟩ := h
  rcases exec_bind run with ⟨r, first, heq⟩ | ⟨value, s₁, first, second⟩
  · cases r with
    | ret value => exact .inr ⟨value, s', first, next, heq ▸ .refl _ _⟩
    | op o' next' =>
        cases heq
        exact .inl ⟨next', first⟩
  · exact .inr ⟨value, s₁, first, next, second⟩

theorem Returns.bind {s s' s'' : σ} {p : Prog Op Ans α} {value : α}
    {f : α → Prog Op Ans β} {result : β} (h : Returns step s p value s')
    (rest : Returns step s' (f value) result s'') :
    Returns step s (p >>= f) result s'' :=
  Exec.trans (Exec.bind h f) rest

theorem returns_bind {s s' : σ} {p : Prog Op Ans α} {f : α → Prog Op Ans β} {result : β} :
    Returns step s (p >>= f) result s' ↔
      ∃ value s₁, Returns step s p value s₁ ∧ Returns step s₁ (f value) result s' := by
  constructor
  · intro h
    rcases exec_bind h with ⟨r, first, heq⟩ | hbehind
    · cases r with
      | ret value =>
          have hresult : ret result = f value := heq
          exact ⟨value, s', first, hresult ▸ .refl _ _⟩
      | op o next => cases heq
    · exact hbehind
  · rintro ⟨value, s₁, first, second⟩
    exact first.bind second

theorem returns_ret {s s' : σ} {value result : α} :
    Returns step s (.ret value : Prog Op Ans α) result s' ↔ result = value ∧ s' = s := by
  constructor
  · intro h
    cases h
    exact ⟨rfl, rfl⟩
  · rintro ⟨rfl, rfl⟩
    exact .refl _ _

theorem returns_perform {s s' : σ} {o : Op} {answer : Ans o} :
    Returns step s (perform o : Prog Op Ans (Ans o)) answer s' ↔ step s o answer s' := by
  constructor
  · intro h
    cases h with
    | op hstep rest =>
        cases rest
        exact hstep
  · exact fun hstep => .op hstep (.refl _ _)

end Runs

/-! ## The proof rule -/

section Safe

variable {σ : Type} (step : σ → (o : Op) → Ans o → σ → Prop)

def Safe (guard : σ → Op → Prop) (post : α → σ → Prop) :
    Prog Op Ans α → σ → Prop
  | .ret value, s => post value s
  | .op o next, s =>
      guard s o ∧ ∀ answer s', step s o answer s' →
        Safe guard post (next answer) s'

variable {step} {guard guard' : σ → Op → Prop} {post post' : α → σ → Prop}

@[simp] theorem safe_ret (value : α) (s : σ) :
    Safe step guard post (.ret value : Prog Op Ans α) s ↔ post value s :=
  Iff.rfl

theorem safe_op (o : Op) (next : Ans o → Prog Op Ans α) (s : σ) :
    Safe step guard post (.op o next) s ↔
      guard s o ∧ ∀ answer s', step s o answer s' →
        Safe step guard post (next answer) s' := Iff.rfl

theorem safe_perform {o : Op} {post : Ans o → σ → Prop} (s : σ) :
    Safe step guard post (perform o : Prog Op Ans (Ans o)) s ↔
      guard s o ∧ ∀ answer s', step s o answer s' → post answer s' := Iff.rfl

theorem safe_perform_bind (o : Op) {f : Ans o → Prog Op Ans α} {s : σ} :
    Safe step guard post (perform o >>= f) s ↔
      guard s o ∧ ∀ answer s', step s o answer s' → Safe step guard post (f answer) s' := Iff.rfl

theorem Safe.mono {p : Prog Op Ans α} {s : σ}
    (h : Safe step guard post p s)
    (hguard : ∀ s o, guard s o → guard' s o)
    (hpost : ∀ value s, post value s → post' value s) :
    Safe step guard' post' p s := by
  induction p generalizing s with
  | ret value => exact hpost _ _ h
  | op o next ih =>
      exact ⟨hguard _ _ h.1, fun answer s' hstep => ih answer (h.2 _ _ hstep)⟩

theorem Safe.weaken {p : Prog Op Ans α} {s : σ}
    (h : Safe step guard post p s)
    (hpost : ∀ value s, post value s → post' value s) :
    Safe step guard post' p s :=
  h.mono (fun _ _ hg => hg) hpost

theorem safe_bind {p : Prog Op Ans α} {f : α → Prog Op Ans β}
    {post : β → σ → Prop} {s : σ} :
    Safe step guard post (p >>= f) s ↔
      Safe step guard (fun value s' => Safe step guard post (f value) s') p s := by
  induction p generalizing s with
  | ret value => rfl
  | op o next ih =>
      simp only [op_bind, safe_op]
      exact and_congr_right fun _ => forall_congr' fun answer =>
        forall_congr' fun s' => imp_congr_right fun _ => ih answer

theorem Safe.bind {p : Prog Op Ans α} {f : α → Prog Op Ans β}
    {mid : α → σ → Prop} {post : β → σ → Prop} {s : σ}
    (hp : Safe step guard mid p s)
    (hf : ∀ value s', mid value s' → Safe step guard post (f value) s') :
    Safe step guard post (p >>= f) s :=
  safe_bind.2 (hp.weaken hf)

theorem Safe.and {p : Prog Op Ans α} {s : σ} (h : Safe step guard post p s)
    (h' : Safe step guard' post' p s) :
    Safe step (fun s o => guard s o ∧ guard' s o)
      (fun value s => post value s ∧ post' value s) p s := by
  induction p generalizing s with
  | ret value => exact ⟨h, h'⟩
  | op o next ih =>
      exact ⟨⟨h.1, h'.1⟩, fun answer s' hstep =>
        ih answer (h.2 _ _ hstep) (h'.2 _ _ hstep)⟩

theorem Safe.simulated {τ : Type} {step' : τ → (o : Op) → Ans o → τ → Prop} {R : σ → τ → Prop}
    (hstep : ∀ s t o answer t', R s t → step' t o answer t' → ∃ s', step s o answer s' ∧ R s' t')
    {p : Prog Op Ans α} {s : σ} {t : τ} (h : Safe step guard post p s) (hrel : R s t) :
    Safe step' (fun t o => ∃ s, R s t ∧ guard s o) (fun value t => ∃ s, R s t ∧ post value s) p t := by
  induction p generalizing s t with
  | ret value => exact ⟨s, hrel, h⟩
  | op o next ih =>
      refine ⟨⟨s, hrel, h.1⟩, fun answer t' hanswer => ?_⟩
      obtain ⟨s', hstep', hrel'⟩ := hstep _ _ _ _ _ hrel hanswer
      exact ih answer (h.2 _ _ hstep') hrel'

/--
The loop rule.  `inv i` holds before round `i`; a round either keeps going and
establishes `inv (i + 1)`, or stops the loop with the postcondition.
-/
theorem Safe.forUntil {body : Nat → Prog Op Ans (Option α)}
    {inv : Nat → σ → Prop} {stop : α → σ → Prop} {first count : Nat} {s : σ}
    (h0 : inv first s)
    (hbody : ∀ i s, first ≤ i → i < first + count → inv i s →
      Safe step guard (fun r s' => match r with
        | none => inv (i + 1) s'
        | some value => stop value s') (body i) s) :
    Safe step guard (fun r s' => match r with
        | none => inv (first + count) s'
        | some value => stop value s') (forUntil body first count) s := by
  induction count generalizing first s with
  | zero => simpa [Prog.forUntil] using h0
  | succ count ih =>
      rw [Prog.forUntil]
      refine (hbody first s (Nat.le_refl _) (by omega) h0).bind ?_
      rintro (_ | value) s' h
      · have tail := @ih (first + 1) s' h fun i s hle hlt hi =>
          hbody i s (by omega) (by omega) hi
        rw [show first + (count + 1) = first + 1 + count by omega]
        exact tail
      · exact h

/-! ## What the rule gives about runs -/

theorem Safe.exec {s s' : σ} {p q : Prog Op Ans α}
    (h : Safe step guard post p s) (run : Exec step s p s' q) :
    Safe step guard post q s' := by
  induction run with
  | refl => exact h
  | op hstep _ ih => exact ih (h.2 _ _ hstep)

theorem Safe.returns {s s' : σ} {p : Prog Op Ans α} {value : α}
    (h : Safe step guard post p s) (run : Returns step s p value s') :
    post value s' :=
  h.exec run

theorem Safe.issues {s s' : σ} {p : Prog Op Ans α} {o : Op}
    (h : Safe step guard post p s) (run : Issues step s p s' o) :
    guard s' o := by
  obtain ⟨next, run⟩ := run
  exact (h.exec run).1

theorem Safe.visits {inv : σ → Prop} {s s' : σ} {p : Prog Op Ans α}
    (h : Safe step guard post p s) (hguard : ∀ s o, guard s o → inv s)
    (hpost : ∀ value s, post value s → inv s)
    (run : Visits step s p s') : inv s' := by
  obtain ⟨q, run⟩ := run
  have hq := h.exec run
  cases q with
  | ret value => exact hpost _ _ hq
  | op o next => exact hguard _ _ hq.1

theorem safe_iff_issues {p : Prog Op Ans α} {s : σ} :
    Safe step guard (fun _ _ => True) p s ↔ ∀ s' o, Issues step s p s' o → guard s' o := by
  constructor
  · exact fun h _ _ run => h.issues run
  · intro h
    induction p generalizing s with
    | ret value => trivial
    | op o next ih =>
        refine ⟨h s o ⟨next, .refl _ _⟩, fun answer s' hstep => ih answer fun s'' o' run => ?_⟩
        obtain ⟨next', run⟩ := run
        exact h s'' o' ⟨next', .op hstep run⟩

theorem Safe.exists_exec {s : σ} {p : Prog Op Ans α} {stuck : σ → Op → Prop}
    (h : Safe step guard post p s)
    (progress : ∀ s o, guard s o → (∃ answer s', step s o answer s') ∨ stuck s o) :
    (∃ value s', Returns step s p value s' ∧ post value s') ∨
      ∃ s' o, Issues step s p s' o ∧ stuck s' o := by
  induction p generalizing s with
  | ret value => exact .inl ⟨value, s, .refl _ _, h⟩
  | op o next ih =>
      rcases progress _ _ h.1 with ⟨answer, s', hstep⟩ | hstuck
      · rcases ih answer (h.2 _ _ hstep) with ⟨value, s'', run, hpost⟩ | ⟨s'', o', run, hstuck⟩
        · exact .inl ⟨value, s'', .op hstep run, hpost⟩
        · obtain ⟨next', run⟩ := run
          exact .inr ⟨s'', o', ⟨next', .op hstep run⟩, hstuck⟩
      · exact .inr ⟨s, o, ⟨next, .refl _ _⟩, hstuck⟩

theorem Safe.exists_returns {s : σ} {p : Prog Op Ans α}
    (h : Safe step guard post p s)
    (progress : ∀ s o, guard s o → ∃ answer s', step s o answer s') :
    ∃ value s', Returns step s p value s' ∧ post value s' := by
  rcases @Safe.exists_exec _ _ _ _ _ _ _ s p (fun _ _ => False) h
    fun s o hguard => .inl (progress s o hguard) with hreturns | ⟨_, _, _, hfalse⟩
  · exact hreturns
  · exact hfalse.elim

end Safe

/-! ## Runs that can be computed -/

section Simulate

variable {σ : Type} (respond : σ → (o : Op) → Ans o × σ)

/-- The run in an environment whose answers are a function. -/
def simulate : Prog Op Ans α → σ → α × σ
  | .ret value, s => (value, s)
  | .op o next, s => (next (respond s o).1).simulate (respond s o).2

theorem simulate_bind (p : Prog Op Ans α) (f : α → Prog Op Ans β) (s : σ) :
    simulate respond (p >>= f) s =
      simulate respond (f (simulate respond p s).1) (simulate respond p s).2 := by
  induction p generalizing s with
  | ret value => rfl
  | op o next ih => exact ih _ _

variable {respond} {step : σ → (o : Op) → Ans o → σ → Prop}

theorem returns_simulate (h : ∀ s o, step s o (respond s o).1 (respond s o).2)
    (p : Prog Op Ans α) (s : σ) :
    Returns step s p (simulate respond p s).1 (simulate respond p s).2 := by
  induction p generalizing s with
  | ret value => exact .refl _ _
  | op o next ih => exact .op (h s o) (ih _ _)

end Simulate

section Answers

variable {σ : Type} (respond : σ → (o : Op) → Option (Ans o × σ))

/-- The run in an environment that answers some operations, when it needs no other ones. -/
def answers : Prog Op Ans α → σ → Option (α × σ)
  | .ret value, s => some (value, s)
  | .op o next, s => (respond s o).bind fun answer => (next answer.1).answers answer.2

@[simp] theorem answers_ret (value : α) (s : σ) :
    answers respond (.ret value : Prog Op Ans α) s = some (value, s) := rfl

theorem answers_bind (p : Prog Op Ans α) (f : α → Prog Op Ans β) (s : σ) :
    answers respond (p >>= f) s =
      (answers respond p s).bind fun result => answers respond (f result.1) result.2 := by
  induction p generalizing s with
  | ret value => rfl
  | op o next ih =>
      rw [op_bind, answers, answers, Option.bind_assoc]
      congr 1
      funext answer
      exact ih _ _

theorem answers_bind_eq_some {p : Prog Op Ans α} {f : α → Prog Op Ans β} {s : σ}
    {result : β × σ} :
    answers respond (p >>= f) s = some result ↔
      ∃ value s', answers respond p s = some (value, s') ∧
        answers respond (f value) s' = some result := by
  rw [answers_bind, Option.bind_eq_some_iff]
  exact Prod.exists

variable {respond} {step : σ → (o : Op) → Ans o → σ → Prop}

theorem returns_answers
    (h : ∀ s o answer, respond s o = some answer → step s o answer.1 answer.2)
    {p : Prog Op Ans α} {s : σ} {value : α} {s' : σ} (hrun : answers respond p s = some (value, s')) :
    Returns step s p value s' := by
  induction p generalizing s with
  | ret result =>
      obtain ⟨rfl, rfl⟩ := Prod.mk.inj (Option.some.inj hrun)
      exact .refl _ _
  | op o next ih =>
      obtain ⟨answer, hanswer, hrest⟩ := Option.bind_eq_some_iff.1 hrun
      exact .op (h s o answer hanswer) (ih _ hrest)

end Answers

/-! ## Runs whose answers depend on the operation alone -/

section Answered

variable (answer : (o : Op) → Ans o)

def run : Prog Op Ans α → α
  | .ret value => value
  | .op o next => (next (answer o)).run

def ops : Prog Op Ans α → List Op
  | .ret _ => []
  | .op o next => o :: (next (answer o)).ops

@[simp] theorem run_ret (value : α) : run answer (.ret value : Prog Op Ans α) = value := rfl

@[simp] theorem ops_ret (value : α) : ops answer (.ret value : Prog Op Ans α) = [] := rfl

@[simp] theorem run_perform (o : Op) :
    run answer (perform o : Prog Op Ans (Ans o)) = answer o := rfl

@[simp] theorem ops_perform (o : Op) :
    ops answer (perform o : Prog Op Ans (Ans o)) = [o] := rfl

@[simp] theorem run_bind (p : Prog Op Ans α) (f : α → Prog Op Ans β) :
    run answer (p >>= f) = run answer (f (run answer p)) := by
  induction p with
  | ret value => rfl
  | op o next ih => exact ih _

@[simp] theorem ops_bind (p : Prog Op Ans α) (f : α → Prog Op Ans β) :
    ops answer (p >>= f) = ops answer p ++ ops answer (f (run answer p)) := by
  induction p with
  | ret value => rfl
  | op o next ih =>
      rw [op_bind, ops, ops, ih]
      rfl

end Answered

/-! ## Operations that are never issued -/

section Only

variable {allowed : Op → Prop}

def Only (allowed : Op → Prop) : Prog Op Ans α → Prop
  | .ret _ => True
  | .op o next => allowed o ∧ ∀ answer, (next answer).Only allowed

theorem only_ret (value : α) : (.ret value : Prog Op Ans α).Only allowed := trivial

theorem only_perform {o : Op} (h : allowed o) : (perform o : Prog Op Ans (Ans o)).Only allowed :=
  ⟨h, fun _ => trivial⟩

theorem Only.bind {p : Prog Op Ans α} {f : α → Prog Op Ans β} (hp : p.Only allowed)
    (hf : ∀ value, (f value).Only allowed) : (p >>= f).Only allowed := by
  induction p with
  | ret value => exact hf value
  | op o next ih => exact ⟨hp.1, fun answer => ih answer (hp.2 answer)⟩

theorem only_ite {c : Prop} [Decidable c] {p q : Prog Op Ans α} (hp : p.Only allowed)
    (hq : q.Only allowed) : (if c then p else q).Only allowed := by
  split
  · exact hp
  · exact hq

theorem Only.mem_ops {p : Prog Op Ans α} (h : p.Only allowed) (answer : (o : Op) → Ans o) {o : Op}
    (hmem : o ∈ ops answer p) : allowed o := by
  induction p with
  | ret value => cases hmem
  | op o' next ih =>
      rcases List.mem_cons.1 hmem with rfl | hrest
      · exact h.1
      · exact ih _ (h.2 _) hrest

end Only

/-! ## Operations that are programs themselves -/

section Interpret

variable {Op' : Type} {Ans' : Op' → Type} (body : (o : Op) → Prog Op' Ans' (Ans o))

def interpret : Prog Op Ans α → Prog Op' Ans' α
  | .ret value => .ret value
  | .op o next => (body o).bind fun answer => (next answer).interpret

theorem issues_interpret {σ : Type} {step : σ → (o : Op') → Ans' o → σ → Prop} {s s' : σ}
    {p : Prog Op Ans α} {o' : Op'} (h : Issues step s (p.interpret body) s' o') :
    ∃ o s₁, Issues (fun _ _ _ _ => True) () p () o ∧ Issues step s₁ (body o) s' o' := by
  induction p generalizing s with
  | ret value =>
      obtain ⟨next, run⟩ := h
      cases run
  | op o next ih =>
      rcases issues_bind h with hbody | ⟨answer, s₁, -, hnext⟩
      · exact ⟨o, s, ⟨next, .refl _ _⟩, hbody⟩
      · obtain ⟨o₁, s₂, ⟨next₁, run⟩, hissues⟩ := ih answer hnext
        exact ⟨o₁, s₂, ⟨next₁, .op trivial run⟩, hissues⟩

theorem safe_interpret {σ : Type} {step : σ → (o : Op') → Ans' o → σ → Prop}
    {guard : σ → Op' → Prop} {inv : σ → Prop}
    (hbody : ∀ o s, inv s → Safe step guard (fun _ s' => inv s') (body o) s)
    {p : Prog Op Ans α} {s : σ} (h : inv s) :
    Safe step guard (fun _ s' => inv s') (p.interpret body) s := by
  induction p generalizing s with
  | ret value => exact h
  | op o next ih => exact Safe.bind (hbody o s h) fun answer s' hinv => ih answer hinv

theorem Safe.interpret {σ : Type} {step : σ → (o : Op) → Ans o → σ → Prop}
    {step' : σ → (o : Op') → Ans' o → σ → Prop} {guard : σ → Op → Prop} {guard' : σ → Op' → Prop}
    {post : α → σ → Prop}
    (hbody : ∀ o s, guard s o → Safe step' guard' (fun answer s' => step s o answer s') (body o) s)
    {p : Prog Op Ans α} {s : σ} (h : Safe step guard post p s) :
    Safe step' guard' post (p.interpret body) s := by
  induction p generalizing s with
  | ret value => exact h
  | op o next ih =>
      exact Safe.bind (hbody o s h.1) fun answer s' hstep => ih answer (h.2 answer s' hstep)

end Interpret

end Prog

end Vmr.Lib
