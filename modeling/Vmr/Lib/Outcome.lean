import Vmr.Lib.Prog

/-!
# What a program was answered

An `Outcome` is a run of a program together with the answers it was given, in
order, and what it returned.  Every answer is possible; what is known about a
peer is a condition on the events.
-/

namespace Vmr.Lib.Prog

variable {Op : Type} {Ans : Op → Type} {α β : Type}

abbrev Event (Op : Type) (Ans : Op → Type) := (o : Op) × Ans o

inductive Outcome : Prog Op Ans α → List (Event Op Ans) → α → Prop
  | ret (value : α) : Outcome (.ret value) [] value
  | op {o : Op} {next : Ans o → Prog Op Ans α} {answer : Ans o}
      {events : List (Event Op Ans)} {value : α}
      (rest : Outcome (next answer) events value) :
      Outcome (.op o next) (⟨o, answer⟩ :: events) value

theorem outcome_ret {value result : α} {events : List (Event Op Ans)} :
    Outcome (.ret value : Prog Op Ans α) events result ↔ events = [] ∧ result = value := by
  constructor
  · intro run
    cases run
    exact ⟨rfl, rfl⟩
  · rintro ⟨rfl, rfl⟩
    exact .ret _

private theorem outcome_op {o : Op} {next : Ans o → Prog Op Ans α} {events : List (Event Op Ans)}
    {result : α} :
    Outcome (.op o next) events result ↔
      ∃ answer rest, events = ⟨o, answer⟩ :: rest ∧ Outcome (next answer) rest result := by
  constructor
  · intro run
    cases run with
    | op rest => exact ⟨_, _, rfl, rest⟩
  · rintro ⟨answer, rest, rfl, run⟩
    exact .op run

theorem outcome_bind {p : Prog Op Ans α} {f : α → Prog Op Ans β} {events : List (Event Op Ans)}
    {result : β} :
    Outcome (p >>= f) events result ↔
      ∃ value first rest, events = first ++ rest ∧ Outcome p first value ∧
        Outcome (f value) rest result := by
  induction p generalizing events with
  | ret value =>
      rw [ret_bind]
      constructor
      · exact fun run => ⟨value, [], events, rfl, .ret _, run⟩
      · rintro ⟨other, first, rest, rfl, hfirst, hrest⟩
        obtain ⟨rfl, rfl⟩ := outcome_ret.1 hfirst
        exact hrest
  | op o next ih =>
      rw [op_bind, outcome_op]
      constructor
      · rintro ⟨answer, tail, rfl, run⟩
        obtain ⟨value, first, rest, rfl, hfirst, hrest⟩ := (ih answer).1 run
        exact ⟨value, ⟨o, answer⟩ :: first, rest, rfl, .op hfirst, hrest⟩
      · rintro ⟨value, first, rest, rfl, hfirst, hrest⟩
        obtain ⟨answer, tail, rfl, htail⟩ := outcome_op.1 hfirst
        exact ⟨answer, tail ++ rest, rfl, (ih answer).2 ⟨value, tail, rest, rfl, htail, hrest⟩⟩

theorem outcome_perform_bind {o : Op} {f : Ans o → Prog Op Ans β} {events : List (Event Op Ans)}
    {result : β} :
    Outcome (perform o >>= f) events result ↔
      ∃ answer rest, events = ⟨o, answer⟩ :: rest ∧ Outcome (f answer) rest result :=
  outcome_op

/-- The outcome with a peer whose answers are a function. -/
def record {σ : Type} (respond : σ → (o : Op) → Ans o × σ) :
    Prog Op Ans α → σ → List (Event Op Ans) × α
  | .ret value, _ => ([], value)
  | .op o next, s =>
      let recorded := (next (respond s o).1).record respond (respond s o).2
      (⟨o, (respond s o).1⟩ :: recorded.1, recorded.2)

theorem outcome_record {σ : Type} (respond : σ → (o : Op) → Ans o × σ) (p : Prog Op Ans α)
    (s : σ) : Outcome p (record respond p s).1 (record respond p s).2 := by
  induction p generalizing s with
  | ret value => exact .ret _
  | op o next ih => exact .op (ih _ _)

end Vmr.Lib.Prog
