import Mathlib.Data.List.Infix
import Mathlib.Tactic.Common

/-!
# Runs of a condition, counted down to every `n`-th

A condition is sampled again and again.  A counter is to fire whenever the
condition has held for a multiple of `n` samples in a row.  Histories are lists
with the latest sample first.
-/

namespace Vmr.Lib

def runLength : List Bool → Nat
  | true :: earlier => runLength earlier + 1
  | _ => 0

def Completes (n count : Nat) : Prop := 0 < count ∧ n ∣ count

instance (n count : Nat) : Decidable (Completes n count) :=
  inferInstanceAs (Decidable (_ ∧ _))

@[simp] theorem runLength_true (earlier : List Bool) :
    runLength (true :: earlier) = runLength earlier + 1 := rfl

@[simp] theorem runLength_false (earlier : List Bool) : runLength (false :: earlier) = 0 := rfl

private theorem runLength_replicate_append (n : Nat) (earlier : List Bool) :
    runLength (List.replicate n true ++ false :: earlier) = n := by
  induction n with
  | zero => rfl
  | succ n ih => simp [List.replicate_succ, ih]

private theorem exists_run_append {history : List Bool} (h : false ∈ history) :
    ∃ earlier, history = List.replicate (runLength history) true ++ false :: earlier := by
  induction history with
  | nil => simp at h
  | cons held earlier ih =>
      cases held with
      | false => exact ⟨earlier, by simp⟩
      | true =>
          have hmem : false ∈ earlier := by simpa using h
          obtain ⟨before, hbefore⟩ := ih hmem
          refine ⟨before, ?_⟩
          calc true :: earlier
              = true :: (List.replicate (runLength earlier) true ++ false :: before) := by
                rw [← hbefore]
            _ = List.replicate (runLength (true :: earlier)) true ++ false :: before := by
                simp [List.replicate_succ]

private theorem infix_of_le_runLength {n : Nat} {history : List Bool} (hmem : false ∈ history)
    (hle : n ≤ runLength history) : List.replicate n true ++ [false] <:+: history := by
  obtain ⟨earlier, hearlier⟩ := exists_run_append hmem
  refine ⟨List.replicate (runLength history - n) true, earlier, ?_⟩
  calc List.replicate (runLength history - n) true ++ (List.replicate n true ++ [false]) ++
        earlier
      = List.replicate (runLength history - n + n) true ++ false :: earlier := by
        rw [← List.append_assoc, List.replicate_append_replicate, List.append_assoc,
          List.singleton_append]
    _ = history := by rw [Nat.sub_add_cancel hle, ← hearlier]

/-! ## A counter that starts at one and is put back to zero -/

def countStep (n : Nat) (held : Bool) (count : Nat) : Bool × Nat :=
  if held = true then
    if count = n then (true, 1) else (false, count + 1)
  else (false, 0)

def counter (n : Nat) : List Bool → Nat
  | [] => 1
  | held :: earlier => (countStep n held (counter n earlier)).2

def fires (n : Nat) : List Bool → Bool
  | [] => false
  | held :: earlier => (countStep n held (counter n earlier)).1

/-- The length of the run as the counter sees it: it was one ahead at the start only. -/
def counted (history : List Bool) : Nat :=
  if false ∈ history then runLength history - 1 else runLength history

private theorem counted_le (history : List Bool) : counted history ≤ runLength history := by
  unfold counted
  split <;> omega

private theorem counted_cons_true {earlier : List Bool} (h : earlier.head? ≠ some false) :
    counted (true :: earlier) = counted earlier + 1 := by
  cases earlier with
  | nil => simp [counted, runLength]
  | cons held before =>
      obtain rfl : held = true := by simpa using h
      simp only [counted, runLength_true, List.mem_cons, Bool.false_eq_true, false_or]
      split <;> omega

private theorem not_completes_of_lt {n count : Nat} (h : count < n) : ¬ Completes n count := by
  rintro ⟨hpos, hdvd⟩
  exact absurd (Nat.le_of_dvd hpos hdvd) (by omega)

private theorem counter_le {n : Nat} (hn : 0 < n) (history : List Bool) :
    counter n history ≤ n := by
  induction history with
  | nil => exact hn
  | cons held earlier ih =>
      simp only [counter, countStep]
      split
      · split
        · exact hn
        · simp only
          omega
      · exact Nat.zero_le n

private theorem counter_laps {n : Nat} (hn : 0 < n) {history : List Bool}
    (hheld : history.head? ≠ some false) :
    0 < counter n history ∧
      ∃ laps, counted history + 1 = laps * n + counter n history := by
  induction history with
  | nil => exact ⟨Nat.one_pos, 0, by simp [counted, runLength, counter]⟩
  | cons held earlier ih =>
      obtain rfl : held = true := by simpa using hheld
      by_cases hdip : earlier.head? = some false
      · -- the sample behind a dip only brings the counter back to one
        obtain ⟨before, rfl⟩ : ∃ before, earlier = false :: before := by
          cases earlier <;> simp_all
        refine ⟨by simp [counter, countStep, hn.ne], 0, ?_⟩
        simp [counted, counter, countStep, hn.ne]
      · obtain ⟨hpos, laps, hlaps⟩ := ih hdip
        have hcounted : counted (true :: earlier) = counted earlier + 1 :=
          counted_cons_true hdip
        by_cases hfull : counter n earlier = n
        · refine ⟨by simp [counter, countStep, hfull], laps + 1, ?_⟩
          rw [hcounted, hlaps, hfull, Nat.add_one_mul]
          simp [counter, countStep, hfull]
        · refine ⟨by simp [counter, countStep, hfull], laps, ?_⟩
          rw [hcounted, hlaps]
          simp only [counter, countStep, hfull, if_true, if_false]
          omega

/-- The counter fires where the run it has counted is complete. -/
theorem fires_iff {n : Nat} (hn : 0 < n) (earlier : List Bool) :
    fires n (true :: earlier) = true ↔ Completes n (counted (true :: earlier)) := by
  have hfires : fires n (true :: earlier) = true ↔ counter n earlier = n := by
    simp only [fires, countStep, if_true]
    split <;> simp_all
  rw [hfires]
  by_cases hdip : earlier.head? = some false
  · obtain ⟨before, rfl⟩ : ∃ before, earlier = false :: before := by
      cases earlier <;> simp_all
    simp [counter, countStep, counted, Completes, hn.ne]
  · obtain ⟨hpos, laps, hlaps⟩ := counter_laps hn hdip
    have hle := counter_le hn earlier
    rw [counted_cons_true hdip, hlaps, Completes,
      Nat.dvd_add_right (Nat.dvd_mul_left n laps)]
    constructor
    · intro hfull
      rw [hfull]
      exact ⟨by omega, Nat.dvd_refl n⟩
    · rintro ⟨-, hdvd⟩
      exact Nat.le_antisymm hle (Nat.le_of_dvd hpos hdvd)

/-! ## Machines with such a counter -/

section Machine

variable {σ α β : Type}

def stateAfter (step : σ → α → β × σ) (init : σ) : List α → σ
  | [] => init
  | sample :: earlier => (step (stateAfter step init earlier) sample).2

def outputAt (step : σ → α → β × σ) (init : σ) (sample : α) (earlier : List α) : β :=
  (step (stateAfter step init earlier) sample).1

structure Counts (n : Nat) (step : σ → α → β × σ) (chosen held : α → Bool) (count : σ → Nat)
    (output : β → Bool) : Prop where
  takes : ∀ s sample, count s ≤ n → chosen sample = true →
    output (step s sample).1 = (countStep n (held sample) (count s)).1 ∧
      count (step s sample).2 = (countStep n (held sample) (count s)).2
  rests : ∀ s sample, chosen sample = false → count (step s sample).2 = count s

variable {n : Nat} {step : σ → α → β × σ} {chosen held : α → Bool} {count : σ → Nat}
  {output : β → Bool}

private theorem Counts.count_stateAfter (h : Counts n step chosen held count output) (hn : 0 < n)
    {init : σ} (hinit : count init = 1) (history : List α) :
    count (stateAfter step init history) = counter n ((history.filter chosen).map held) := by
  induction history with
  | nil => exact hinit
  | cons sample earlier ih =>
      have hle := counter_le hn ((earlier.filter chosen).map held)
      rw [stateAfter]
      cases hchosen : chosen sample with
      | false => rw [h.rests _ _ hchosen, ih, List.filter_cons_of_neg (by simp [hchosen])]
      | true =>
          rw [(h.takes _ _ (ih ▸ hle) hchosen).2, ih, List.filter_cons_of_pos hchosen]
          rfl

theorem Counts.output_outputAt (h : Counts n step chosen held count output) (hn : 0 < n)
    {init : σ} (hinit : count init = 1) {sample : α} (hchosen : chosen sample = true)
    (earlier : List α) :
    output (outputAt step init sample earlier) =
      fires n (((sample :: earlier).filter chosen).map held) := by
  have hcount := h.count_stateAfter hn hinit earlier
  have hle := counter_le hn ((earlier.filter chosen).map held)
  rw [outputAt, (h.takes _ _ (hcount ▸ hle) hchosen).1, hcount, List.filter_cons_of_pos hchosen]
  rfl

end Machine

/-! ## When the counter sees the runs as they are -/

section Samples

variable {α : Type} (n : Nat) (held : α → Bool)

/-- At every sample of the history `fires` is true exactly where a run is completed. -/
def Debounced (fires : α → List α → Bool) (history : List α) : Prop :=
  ∀ sample earlier, sample :: earlier <:+ history →
    (fires sample earlier = true ↔ Completes n (runLength ((sample :: earlier).map held)))

/-- Some run is completed a first time, and the sample before it was without the condition. -/
def CompletesBehindDip (history : List α) : Prop :=
  List.replicate n true ++ [false] <:+: history.map held

instance (history : List α) : Decidable (CompletesBehindDip n held history) :=
  inferInstanceAs (Decidable (_ <:+: _))

variable {n held}

private theorem exists_suffix_of_completesBehindDip {history : List α}
    (h : CompletesBehindDip (n + 1) held history) :
    ∃ sample earlier before, sample :: earlier <:+ history ∧
      (sample :: earlier).map held = List.replicate (n + 1) true ++ false :: before := by
  obtain ⟨later, before, hhistory⟩ := h
  rw [List.append_assoc, List.append_assoc, eq_comm, List.map_eq_append_iff] at hhistory
  obtain ⟨front, back, hsplit, -, hback⟩ := hhistory
  cases back with
  | nil => simp [List.replicate_succ] at hback
  | cons sample earlier => exact ⟨sample, earlier, before, ⟨front, hsplit.symm⟩, by simpa using hback⟩

theorem debounced_iff (hn : 1 < n) {fires : α → List α → Bool} {history : List α}
    (hfires : ∀ sample earlier, sample :: earlier <:+ history →
      fires sample earlier = Vmr.Lib.fires n ((sample :: earlier).map held)) :
    Debounced n held fires history ↔ ¬ CompletesBehindDip n held history := by
  constructor
  · intro h hdip
    obtain ⟨k, rfl⟩ : ∃ k, n = k + 1 := ⟨n - 1, by omega⟩
    obtain ⟨sample, earlier, before, hsuffix, hmap⟩ := exists_suffix_of_completesBehindDip hdip
    have hrun : runLength ((sample :: earlier).map held) = k + 1 := by
      rw [hmap, runLength_replicate_append]
    have hfired := (h sample earlier hsuffix).2
      (by rw [hrun]; exact ⟨Nat.succ_pos k, Nat.dvd_refl _⟩)
    -- the counter is one behind, and `k` is short of a lap
    have hcounted : counted (true :: (List.replicate k true ++ false :: before)) = k := by
      simp [counted, runLength_replicate_append]
    rw [hfires _ _ hsuffix, hmap, List.replicate_succ, List.cons_append, fires_iff (by omega),
      hcounted] at hfired
    exact not_completes_of_lt (Nat.lt_succ_self k) hfired
  · intro h sample earlier hsuffix
    rw [hfires _ _ hsuffix]
    cases hheld : held sample with
    | false => simp [hheld, Vmr.Lib.fires, countStep, Completes]
    | true =>
        rw [List.map_cons, hheld, fires_iff (by omega)]
        by_cases hdip : false ∈ true :: earlier.map held
        · have hshort : runLength (true :: earlier.map held) < n := by
            by_contra hlong
            refine h ((infix_of_le_runLength hdip (Nat.le_of_not_lt hlong)).trans ?_)
            simpa [hheld] using (hsuffix.map held).isInfix
          have hle := counted_le (true :: earlier.map held)
          exact iff_of_false (not_completes_of_lt (Nat.lt_of_le_of_lt hle hshort))
            (not_completes_of_lt hshort)
        · rw [counted, if_neg hdip]

/-! ## A condition that is one of several -/

/-- No sample with the condition is behind one that only has another of them. -/
def Leads (held whole : α → Bool) (history : List α) : Prop :=
  ∀ sample previous earlier, sample :: previous :: earlier <:+ history → held sample = true →
    whole previous = true → held previous = true

private theorem Leads.runLength_eq {whole : α → Bool} {history : List α}
    (h : Leads held whole history)
    (hwhole : ∀ sample, held sample = true → whole sample = true) {sample : α} {earlier : List α}
    (hsuffix : sample :: earlier <:+ history) (hheld : held sample = true) :
    runLength ((sample :: earlier).map held) = runLength ((sample :: earlier).map whole) := by
  induction earlier generalizing sample with
  | nil => simp [hheld, hwhole sample hheld]
  | cons previous earlier ih =>
      have hprevious : previous :: earlier <:+ history := (List.suffix_cons _ _).trans hsuffix
      have hfirst : runLength ((sample :: previous :: earlier).map held) =
          runLength ((previous :: earlier).map held) + 1 := by rw [List.map_cons, hheld, runLength_true]
      have hfirst' : runLength ((sample :: previous :: earlier).map whole) =
          runLength ((previous :: earlier).map whole) + 1 := by
        rw [List.map_cons, hwhole sample hheld, runLength_true]
      rw [hfirst, hfirst']
      cases hboth : held previous with
      | true => rw [ih hprevious hboth]
      | false =>
          have hnone : whole previous = false := by
            rw [Bool.eq_false_iff]
            exact fun hother =>
              Bool.false_ne_true (hboth.symm.trans (h sample previous earlier hsuffix hheld hother))
          simp [hboth, hnone]

theorem Debounced.of_leads {whole : α → Bool} {fires : α → List α → Bool} {history : List α}
    (h : Debounced n whole fires history) (hleads : Leads held whole history)
    (hwhole : ∀ sample, held sample = true → whole sample = true) :
    Debounced n held (fun sample earlier => held sample && fires sample earlier) history := by
  intro sample earlier hsuffix
  cases hheld : held sample with
  | false => simp [hheld, Completes]
  | true =>
      rw [hleads.runLength_eq hwhole hsuffix hheld]
      simpa [hheld] using h sample earlier hsuffix

end Samples

/-! ## Counters that take turns -/

section Turns

variable {σ α β ι : Type} (n : Nat) (step : σ → α → β × σ) (init : σ) (mode : α → ι)
  (count : ι → σ → Nat) (held : α → Bool)

def standing (sample : α) (earlier : List α) : Nat :=
  count (mode sample) (stateAfter step init earlier)

structure Starts (first : α) (earlier : List α) : Prop where
  holds : held first = true
  fresh : earlier.head?.map held ≠ some true

/-- The counters keep step with the runs. -/
structure InStep (history : List α) : Prop where
  /-- A run starts with its counter at one, or at zero and then it ends before the counter fires. -/
  starts : ∀ run first earlier, run ++ first :: earlier <:+ history →
    (∀ sample ∈ run, held sample = true) → Starts held first earlier →
      standing step init mode count first earlier = 1 ∨
        standing step init mode count first earlier = 0 ∧ run.length + 1 < n
  /-- Within a run the next counter stands where the one before it stands. -/
  changes : ∀ sample previous earlier, sample :: previous :: earlier <:+ history →
    held sample = true → held previous = true →
      standing step init mode count sample (previous :: earlier) =
        standing step init mode count previous (previous :: earlier)

inductive Standing (sample : α) (earlier : List α) (stands : Nat) : Prop
  | laps (laps : Nat) (hlaps : runLength (earlier.map held) + 1 = laps * n + stands)
      (hpos : 0 < stands)
  | behind (run : List α) (first : α) (before : List α)
      (hsplit : sample :: earlier = run ++ first :: before)
      (hrun : ∀ other ∈ run, held other = true) (hfirst : Starts held first before)
      (hzero : standing step init mode count first before = 0)
      (hlength : runLength (earlier.map held) = run.length) (hstands : stands = run.length)

variable {n step init mode count held} {history earlier : List α} {sample previous : α}

private theorem Starts.runLength_eq_zero (h : Starts held sample earlier) :
    runLength (earlier.map held) = 0 := by
  cases earlier with
  | nil => rfl
  | cons previous earlier =>
      have hprevious : held previous = false := by simpa using h.fresh
      rw [List.map_cons, hprevious, runLength_false]

theorem InStep.first (h : InStep n step init mode count held history)
    (hsuffix : sample :: earlier <:+ history) (hfirst : Starts held sample earlier) :
    Standing n step init mode count held sample earlier
      (standing step init mode count sample earlier) := by
  have hnone : ∀ other ∈ ([] : List α), held other = true := fun _ hmem => absurd hmem List.not_mem_nil
  rcases h.starts [] sample earlier hsuffix hnone hfirst with hone | ⟨hzero, -⟩
  · exact .laps 0 (by rw [hfirst.runLength_eq_zero, hone, Nat.zero_mul]) (by omega)
  · exact .behind [] sample earlier rfl hnone hfirst hzero hfirst.runLength_eq_zero hzero

theorem InStep.next (h : InStep n step init mode count held history)
    (hsuffix : previous :: earlier <:+ history) (hprevious : held previous = true)
    (hheld : held sample = true) {stands : Nat}
    (hstanding : Standing n step init mode count held previous earlier stands) :
    Standing n step init mode count held sample (previous :: earlier) (countStep n true stands).2 := by
  have hrunLength : runLength ((previous :: earlier).map held) =
      runLength (earlier.map held) + 1 := by
    rw [List.map_cons, hprevious, runLength_true]
  cases hstanding with
  | laps laps hlaps hpos =>
      by_cases hfull : stands = n
      · refine .laps (laps + 1) ?_ ?_
        · simp only [countStep, hfull, if_true]
          rw [hrunLength, hlaps, hfull, Nat.add_one_mul]
        · simp [countStep, hfull]
      · refine .laps laps ?_ ?_
        · simp only [countStep, hfull, if_true, if_false]
          omega
        · simp [countStep, hfull]
  | behind run first before hsplit hrun hfirst hzero hlength hstands =>
      have hshort : run.length + 1 < n := by
        rcases h.starts run first before (hsplit ▸ hsuffix) hrun hfirst with hone | ⟨-, hshort⟩
        · omega
        · exact hshort
      have hnot : stands ≠ n := by omega
      refine .behind (sample :: run) first before (by rw [hsplit, List.cons_append]) ?_ hfirst hzero
        (by rw [hrunLength, hlength, List.length_cons])
        (by rw [countStep, if_pos rfl, if_neg hnot, hstands, List.length_cons])
      exact List.forall_mem_cons.2 ⟨hheld, hrun⟩

section Counters

variable [DecidableEq ι] {valid : α → Bool} {output : β → Bool}
  (hcounts : ∀ i, Counts n step (fun sample => valid sample && mode sample == i) held (count i) output)
  (hn : 0 < n) (hinit : ∀ i, count i init = 1)

include hcounts hn hinit

private theorem standing_le (sample : α) (earlier : List α) :
    standing step init mode count sample earlier ≤ n := by
  rw [standing, (hcounts _).count_stateAfter hn (hinit _)]
  exact counter_le hn _

private theorem InStep.standing_of_held (h : InStep n step init mode count held history)
    (hvalid : ∀ sample ∈ history, valid sample = true) (hsuffix : sample :: earlier <:+ history)
    (hheld : held sample = true) :
    Standing n step init mode count held sample earlier
      (standing step init mode count sample earlier) := by
  induction earlier generalizing sample with
  | nil => exact h.first hsuffix ⟨hheld, by simp⟩
  | cons previous earlier ih =>
      cases hprevious : held previous with
      | false => exact h.first hsuffix ⟨hheld, by simp [hprevious]⟩
      | true =>
          have hsuffix' : previous :: earlier <:+ history := (List.suffix_cons _ _).trans hsuffix
          have hmem : previous ∈ history := hsuffix'.subset List.mem_cons_self
          have htaken := ((hcounts (mode previous)).takes _ previous
            (standing_le hcounts hn hinit previous earlier) (by simp [hvalid previous hmem])).2
          have hnext : standing step init mode count sample (previous :: earlier) =
              (countStep n true (standing step init mode count previous earlier)).2 := by
            rw [h.changes sample previous earlier hsuffix hheld hprevious, standing, stateAfter, htaken,
              hprevious]
            rfl
          rw [hnext]
          exact h.next hsuffix' hprevious hheld (ih hsuffix' hprevious)

/-- Counters that keep step with the runs fire where a run is complete. -/
theorem InStep.debounced (h : InStep n step init mode count held history)
    (hvalid : ∀ sample ∈ history, valid sample = true) :
    Debounced n held (fun sample earlier => output (outputAt step init sample earlier)) history := by
  intro sample earlier hsuffix
  have hmem : sample ∈ history := hsuffix.subset List.mem_cons_self
  have hle := standing_le hcounts hn hinit sample earlier
  have hout : output (outputAt step init sample earlier) =
      (countStep n (held sample) (standing step init mode count sample earlier)).1 :=
    ((hcounts (mode sample)).takes _ sample hle (by simp [hvalid sample hmem])).1
  dsimp only
  rw [hout]
  cases hheld : held sample with
  | false => simp [countStep, hheld, Completes]
  | true =>
      rw [List.map_cons, hheld, runLength_true]
      have hfires : (countStep n true (standing step init mode count sample earlier)).1 = true ↔
          standing step init mode count sample earlier = n := by
        simp only [countStep, if_true]
        split <;> simp_all
      rw [hfires]
      cases h.standing_of_held hcounts hn hinit hvalid hsuffix hheld with
      | laps laps hlaps hpos =>
          rw [hlaps, Completes, Nat.dvd_add_right (Nat.dvd_mul_left n laps)]
          constructor
          · intro hfull
            rw [hfull]
            exact ⟨by omega, Nat.dvd_refl n⟩
          · rintro ⟨-, hdvd⟩
            exact Nat.le_antisymm hle (Nat.le_of_dvd hpos hdvd)
      | behind run first before hsplit hrun hfirst hzero hlength hstands =>
          have hshort : run.length + 1 < n := by
            rcases h.starts run first before (hsplit ▸ hsuffix) hrun hfirst with hone | ⟨-, hshort⟩
            · omega
            · exact hshort
          refine iff_of_false (by omega) (not_completes_of_lt ?_)
          rw [hlength]
          exact hshort

end Counters

end Turns

end Vmr.Lib
