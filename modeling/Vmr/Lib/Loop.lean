import Mathlib.Data.List.Basic

/-!
# Loops that may stop

A loop over a list that carries a state and may stop with an error comes to its end
where every round keeps an invariant of the rounds so far.
-/

namespace Vmr.Lib

section Loop

variable {ε σ α : Type} {s : σ}

theorem foldlM_ok {f : σ → α → Except ε σ} {inv : List α → σ → Prop} (list : List α)
    (hstart : inv [] s)
    (hstep : ∀ taken item rest s, list = taken ++ item :: rest → inv taken s →
      ∃ s', f s item = .ok s' ∧ inv (taken ++ [item]) s') :
    ∃ s', list.foldlM f s = .ok s' ∧ inv list s' := by
  suffices hall : ∀ (rest taken : List α) (s : σ), list = taken ++ rest → inv taken s →
      ∃ s', rest.foldlM f s = .ok s' ∧ inv (taken ++ rest) s' from
    hall list [] s rfl hstart
  intro rest
  induction rest with
  | nil =>
      intro taken s _ hinv
      exact ⟨s, rfl, by rwa [List.append_nil]⟩
  | cons item rest ih =>
      intro taken s hlist hinv
      obtain ⟨next, hnext, hkept⟩ := hstep taken item rest s hlist hinv
      obtain ⟨s', hrun, hend⟩ := ih (taken ++ [item]) next (by rw [hlist, List.append_cons]) hkept
      refine ⟨s', ?_, ?_⟩
      · rw [List.foldlM_cons, hnext]
        exact hrun
      · rwa [← List.append_cons] at hend

theorem foldlM_range_ok {f : σ → Nat → Except ε σ} {inv : Nat → σ → Prop} {count : Nat}
    (hstart : inv 0 s)
    (hstep : ∀ i s, i < count → inv i s → ∃ s', f s i = .ok s' ∧ inv (i + 1) s') :
    ∃ s', (List.range count).foldlM f s = .ok s' ∧ inv count s' := by
  induction count with
  | zero => exact ⟨s, rfl, hstart⟩
  | succ count ih =>
      obtain ⟨mid, hrun, hmid⟩ := ih fun i s hi => hstep i s (Nat.lt_succ_of_lt hi)
      obtain ⟨last, hlast, hend⟩ := hstep count mid (Nat.lt_succ_self count) hmid
      refine ⟨last, ?_, hend⟩
      rw [List.range_succ, List.foldlM_append, hrun]
      change List.foldlM f mid [count] = _
      rw [List.foldlM_cons, hlast]
      rfl

end Loop

end Vmr.Lib
