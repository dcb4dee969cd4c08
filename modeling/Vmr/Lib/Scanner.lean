import Mathlib.Data.List.Basic

/-!
# Readers that find their own end

A reader takes a text symbol by symbol and knows by itself where to stop: its
`step` answers `none` at the last symbol it reads.  `leftover` is what it leaves
of a text, and `none` if the text is over before the reader is done.  A reader
that is a loop with fuel settles on one result in every environment in which it
sees the same text.
-/

namespace Vmr.Lib

section Leftover

variable {σ α : Type*} (step : σ → α → Option σ)

def leftover : σ → List α → Option (List α)
  | _, [] => none
  | s, symbol :: rest =>
      match step s symbol with
      | none => some rest
      | some s' => leftover s' rest

variable {step} {s s' : σ} {symbol : α} {text left : List α}

@[simp] theorem leftover_nil : leftover step s [] = none := rfl

theorem leftover_last (h : step s symbol = none) (rest : List α) :
    leftover step s (symbol :: rest) = some rest := by
  simp [leftover, h]

theorem leftover_cons (h : step s symbol = some s') (rest : List α) :
    leftover step s (symbol :: rest) = leftover step s' rest := by
  simp [leftover, h]

theorem leftover_ne_nil (h : leftover step s text = some left) : text ≠ [] := by
  rintro rfl
  simp at h

theorem leftover_length_lt (h : leftover step s text = some left) :
    left.length < text.length := by
  induction text generalizing s with
  | nil => simp at h
  | cons symbol rest ih =>
      cases hstep : step s symbol with
      | none =>
          rw [leftover_last hstep] at h
          simp [Option.some.inj h]
      | some s' =>
          rw [leftover_cons hstep] at h
          have hlt := ih h
          simp
          omega

private theorem leftover_append (h : leftover step s text = some left) (more : List α) :
    leftover step s (text ++ more) = some (left ++ more) := by
  induction text generalizing s with
  | nil => simp at h
  | cons symbol rest ih =>
      rw [List.cons_append]
      cases hstep : step s symbol with
      | none =>
          rw [leftover_last hstep] at h ⊢
          simp [Option.some.inj h]
      | some s' =>
          rw [leftover_cons hstep] at h ⊢
          exact ih h

theorem exists_leftover_append (h : leftover step s text = none) :
    ∃ s', ∀ more, leftover step s (text ++ more) = leftover step s' more := by
  induction text generalizing s with
  | nil => exact ⟨s, fun more => rfl⟩
  | cons symbol rest ih =>
      cases hstep : step s symbol with
      | none => simp [leftover_last hstep] at h
      | some s' =>
          rw [leftover_cons hstep] at h
          obtain ⟨s'', hmore⟩ := ih h
          exact ⟨s'', fun more => by rw [List.cons_append, leftover_cons hstep, hmore]⟩

theorem exists_leftover {more : List α} (h : ∀ s, leftover step s more ≠ none) (s : σ)
    (text : List α) : ∃ left, leftover step s (text ++ more) = some left := by
  cases htext : leftover step s text with
  | none =>
      obtain ⟨s', hmore⟩ := exists_leftover_append htext
      rw [hmore]
      exact Option.ne_none_iff_exists'.1 (h s')
  | some left => exact ⟨left ++ more, leftover_append htext more⟩

end Leftover

/-! ## Loops with fuel -/

section Settled

variable {ε β γ : Type*}

/-- Any fuel beyond `size` gives one and the same result, in every environment of the kind. -/
def Settled (env : ε → Prop) (size : Nat) (run : ε → Nat → Option β) (post : β → Prop) : Prop :=
  ∃ result, post result ∧ ∀ e, env e → ∀ fuel > size, run e fuel = some result

variable {env : ε → Prop} {size size' : Nat} {run run' : ε → Nat → Option β}
  {post post' : β → Prop}

theorem Settled.last (result : β) (hpost : post result)
    (hrun : ∀ e, env e → ∀ fuel, run e (fuel + 1) = some result) : Settled env size run post := by
  refine ⟨result, hpost, fun e he fuel hfuel => ?_⟩
  obtain ⟨fuel, rfl⟩ : ∃ n, fuel = n + 1 := ⟨fuel - 1, by omega⟩
  exact hrun e he fuel

/-- One round, after which there is less ahead. -/
theorem Settled.round (h : Settled env size' run' post') (hlt : size' < size)
    (hpost : ∀ result, post' result → post result)
    (hrun : ∀ e, env e → ∀ fuel, run e (fuel + 1) = run' e fuel) : Settled env size run post := by
  obtain ⟨result, hresult, hsettled⟩ := h
  refine ⟨result, hpost result hresult, fun e he fuel hfuel => ?_⟩
  obtain ⟨fuel, rfl⟩ : ∃ n, fuel = n + 1 := ⟨fuel - 1, by omega⟩
  rw [hrun e he]
  exact hsettled e he fuel (by omega)

theorem Settled.mono (h : Settled env size' run post) (hle : size' ≤ size) :
    Settled env size run post := by
  obtain ⟨result, hresult, hsettled⟩ := h
  exact ⟨result, hresult, fun e he fuel hfuel => hsettled e he fuel (by omega)⟩

theorem Settled.map (f : β → γ) {mapped : γ → Prop} (h : Settled env size run post)
    (hpost : ∀ result, post result → mapped (f result)) :
    Settled env size (fun e fuel => (run e fuel).map f) mapped := by
  obtain ⟨result, hresult, hsettled⟩ := h
  refine ⟨f result, hpost result hresult, fun e he fuel hfuel => ?_⟩
  simp only [hsettled e he fuel hfuel, Option.map_some]

theorem Settled.bind (next : ε → Nat → β → Option γ) {after : γ → Prop}
    (h : Settled env size run post)
    (hnext : ∀ result, post result →
      Settled env size (fun e fuel => next e fuel result) after) :
    Settled env size (fun e fuel => (run e fuel).bind (next e fuel)) after := by
  obtain ⟨result, hresult, hsettled⟩ := h
  obtain ⟨result', hresult', hsettled'⟩ := hnext result hresult
  refine ⟨result', hresult', fun e he fuel hfuel => ?_⟩
  simp only [hsettled e he fuel hfuel, Option.bind_some, hsettled' e he fuel hfuel]

end Settled

end Vmr.Lib
