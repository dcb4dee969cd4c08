import Vmr.Apu.Client
import Vmr.Rmgmt.LogWindow

/-!
# The length of a log page of the APU

One variable carries the errors of the ring and the length of the page.  After a
timeout it still has the error of the last attempt to consume a completion.
-/

namespace Vmr.Apu

open Vmr.Lib Vmr.Xgq Vmr.Rmgmt

/-! ## How a request went -/

def produces (events : List ApuEvent) : List Int :=
  events.filterMap fun event => match event with
    | ⟨.produce, answer⟩ => some (show Int × UInt64 from answer).1
    | _ => none

def consumes (events : List ApuEvent) : List Int :=
  events.filterMap fun event => match event with
    | ⟨.consume, answer⟩ => some (show Int × UInt64 from answer).1
    | _ => none

private theorem produces_append (first second : List ApuEvent) :
    produces (first ++ second) = produces first ++ produces second :=
  List.filterMap_append

private theorem consumes_append (first second : List ApuEvent) :
    consumes (first ++ second) = consumes first ++ consumes second :=
  List.filterMap_append

/-- The request is in the ring, and no attempt to consume a completion succeeds. -/
def TimesOut (events : List ApuEvent) : Prop := 0 ∈ produces events ∧ 0 ∉ consumes events

def Overlong (client : ApuClient) (reqSize : UInt32) (events : List ApuEvent) : Prop :=
  ∃ cq ∈ completions events, cqCmdCompleteCheck cq = 0 ∧
    2 ^ 31 ≤ (min (cqCount cq) (min reqSize (dataSize client))).toNat

def Failed (events : List ApuEvent) : Prop := ∀ cq ∈ completions events, cqCmdCompleteCheck cq ≠ 0

/-- What the two pages with data of the APU report, when a request of theirs goes like this. -/
structure PagesBounded (result : Int × List UInt8) (sources : LogSources) (state : LogState) :
    Prop where
  apuLog : Rmgmt.rmgmtApuLogPage (sources.apuLog state.payload.offset state.payload.size)
    state.payload.size = result →
      (rmgmtLoadApuLog sources state).2.payload.size ≤ state.payload.size
  info : (vmrVerboseInfo sources state).2.payload.size ≤ state.payload.size

structure LengthBounded (reqSize : UInt32) (events : List ApuEvent) (result : Int × List UInt8) :
    Prop where
  nonneg : 0 ≤ result.1
  requested : result.1 ≤ reqSize.toNat
  written : result.1 = result.2.length
  failed : Failed events → result.1 = 0
  pages : ∀ sources state, state.payload.size = reqSize → PagesBounded result sources state

/-! ## The bound -/

section Bound

variable {client : ApuClient} {off reqSize : UInt32} {pid : UInt16} {events : List ApuEvent}
  {result : Int × List UInt8}

private theorem Waited.consumes {events : List ApuEvent} (h : Waited events) :
    0 ∉ consumes events ∧ produces events = [] := by
  induction h with
  | nil => exact ⟨List.not_mem_nil, rfl⟩
  | attempt hrval _ ih =>
      refine ⟨fun hzero => ?_, ih.2⟩
      rcases List.mem_cons.1 hzero with hfirst | hrest
      · exact hrval hfirst.symm
      · exact ih.1 hrest

/-- The three ways in which a request for a log page ends. -/
inductive LogPageEnd (client : ApuClient) (reqSize : UInt32) (events : List ApuEvent) :
    Int × List UInt8 → Prop
  | unsent (hproduces : 0 ∉ produces events) (hcompletions : completions events = []) :
      LogPageEnd client reqSize events (0, [])
  | failed {cq : Entry} (hconsumes : 0 ∈ consumes events) (hcompletions : completions events = [cq])
      (hcheck : cqCmdCompleteCheck cq ≠ 0) : LogPageEnd client reqSize events (0, [])
  | delivered {cq : Entry} (hconsumes : 0 ∈ consumes events)
      (hcompletions : completions events = [cq]) (hcheck : cqCmdCompleteCheck cq = 0)
      {returnSize : UInt32} (hsize : returnSize = min (cqCount cq) (min reqSize (dataSize client)))
      {bytes : List UInt8} (hbytes : bytes.length = returnSize.toNat) :
      LogPageEnd client reqSize events (signed32 returnSize, bytes)
  | timedOut (htimed : TimesOut events) (hcompletions : completions events = []) {last : Int}
      (hlast : last ≠ 0) : LogPageEnd client reqSize events (last, [])

private theorem LogPageEnd.around {before after : List ApuEvent}
    (h : LogPageEnd client reqSize events result) (hproduces : produces before = [])
    (hconsumes : consumes before = []) (hcompletions : completions before = [])
    (hproduces' : produces after = []) (hconsumes' : consumes after = [])
    (hcompletions' : completions after = []) :
    LogPageEnd client reqSize (before ++ events ++ after) result := by
  have hsameProduces : produces (before ++ events ++ after) = produces events := by
    rw [produces_append, produces_append, hproduces, hproduces', List.nil_append, List.append_nil]
  have hsameConsumes : consumes (before ++ events ++ after) = consumes events := by
    rw [consumes_append, consumes_append, hconsumes, hconsumes', List.nil_append, List.append_nil]
  have hsame : completions (before ++ events ++ after) = completions events := by
    rw [completions_append, completions_append, hcompletions, hcompletions', List.nil_append,
      List.append_nil]
  cases h with
  | unsent hp hc => exact .unsent (hsameProduces ▸ hp) (hsame ▸ hc)
  | failed hs hc hcheck => exact .failed (hsameConsumes ▸ hs) (hsame ▸ hc) hcheck
  | delivered hs hc hcheck hsize hbytes =>
      exact .delivered (hsameConsumes ▸ hs) (hsame ▸ hc) hcheck hsize hbytes
  | timedOut ht hc hlast =>
      exact .timedOut ⟨hsameProduces ▸ ht.1, hsameConsumes ▸ ht.2⟩ (hsame ▸ hc) hlast

private theorem outcome_requestLogPage {address : UInt32}
    (run : Prog.Outcome (requestLogPage address (min reqSize (dataSize client)) off pid)
      events result) : LogPageEnd client reqSize events result := by
  rcases outcome_request (fun _ => return (0, [])) id run with ⟨rval, slot, rest, hspace, rfl, hunsent⟩ |
    ⟨slot, answer, waiting, rest, rfl, hwait, hanswer⟩
  · obtain ⟨rfl, rfl⟩ := Prog.outcome_ret.1 hunsent
    exact .unsent (fun hzero => hspace (List.mem_singleton.1 hzero).symm) rfl
  · rcases outcome_awaitCompletion hwait with
      ⟨waited, slot', cq, completing, value, hwaited, rfl, rfl, hcomplete⟩ |
        ⟨last, hwaited, rfl, -, hlast⟩
    · obtain ⟨rfl, rfl⟩ := Prog.outcome_ret.1 hanswer
      rw [List.append_nil]
      have hconsume : 0 ∈ consumes (waited ++ answered slot' cq completing) := by
        rw [consumes_append]
        exact List.mem_append_right _ List.mem_cons_self
      have hread : completions (waited ++ answered slot' cq completing) =
          cq :: completions completing := by
        rw [completions_append, hwaited.completions, answered]
        change cq :: completions (completing ++ [⟨.notifyConsumed, ()⟩]) = _
        rw [completions_append]
        exact congrArg _ (List.append_nil _)
      rw [logPageCmdComplete] at hcomplete
      by_cases hcheck : cqCmdCompleteCheck cq = 0
      · rw [if_neg (not_not.2 hcheck)] at hcomplete
        obtain ⟨(shared : Memory), rest, rfl, hcopied⟩ := Prog.outcome_perform_bind.1 hcomplete
        obtain ⟨rfl, rfl⟩ := Prog.outcome_ret.1 hcopied
        refine .delivered ?_ ?_ hcheck rfl (Memory.length_slice _ _ _)
        · exact hconsume
        · exact hread
      · rw [if_pos hcheck] at hcomplete
        obtain ⟨rfl, rfl⟩ := Prog.outcome_ret.1 hcomplete
        refine .failed ?_ ?_ hcheck
        · exact hconsume
        · exact hread
    · obtain ⟨rfl, rfl⟩ := Prog.outcome_ret.1 hanswer
      rw [List.append_nil]
      refine .timedOut ⟨?_, ?_⟩ ?_ (hlast (by decide))
      · exact List.mem_cons_self
      · exact hwaited.consumes.1
      · exact hwaited.completions

private theorem outcome_logPage
    (run : Prog.Outcome (rmgmtApuLogPage client off reqSize pid) events result) :
    LogPageEnd client reqSize events result := by
  rw [rmgmtApuLogPage] at run
  by_cases hready : clRmgmtApuIsReady client = false
  · rw [if_pos hready] at run
    obtain ⟨rfl, rfl⟩ := Prog.outcome_ret.1 run
    exact .unsent List.not_mem_nil rfl
  · rw [if_neg hready] at run
    obtain ⟨area, acquire, rest, rfl, hacquire, hrest⟩ := Prog.outcome_bind.1 run
    obtain ⟨(taken : Bool), tail, rfl, htaken⟩ := Prog.outcome_perform_bind.1 hacquire
    cases taken with
    | false =>
        obtain ⟨rfl, rfl⟩ := Prog.outcome_ret.1 htaken
        obtain ⟨rfl, rfl⟩ := Prog.outcome_ret.1 hrest
        exact .unsent List.not_mem_nil rfl
    | true =>
        obtain ⟨rfl, rfl⟩ := Prog.outcome_ret.1 htaken
        obtain ⟨result', request, rest, rfl, hrequest, hrelease⟩ := Prog.outcome_bind.1 hrest
        obtain ⟨given, tail, rfl, hgiven⟩ := Prog.outcome_perform_bind.1 hrelease
        obtain ⟨rfl, rfl⟩ := Prog.outcome_ret.1 hgiven
        rw [← List.append_assoc]
        exact (outcome_requestLogPage hrequest).around rfl rfl rfl rfl rfl rfl

/-! ## The pages -/

private theorem verboseInfo_size (sources : LogSources) (state : LogState) :
    (vmrVerboseInfo sources state).2.payload.size ≤ state.payload.size := by
  rcases (wrote_verboseInfo sources state).reported with hsame | hless
  · rw [hsame]
    exact UInt32.le_refl _
  · rw [UInt32.le_iff_toNat_le]
    exact Nat.le_trans hless (fitting_le _ _)

private theorem loadApuLog_size {sources : LogSources} {state : LogState}
    (hresult : Rmgmt.rmgmtApuLogPage (sources.apuLog state.payload.offset state.payload.size)
      state.payload.size = result)
    (hnonneg : 0 ≤ result.1) (hrequested : result.1 ≤ state.payload.size.toNat) :
    (rmgmtLoadApuLog sources state).2.payload.size ≤ state.payload.size := by
  rw [rmgmtLoadApuLog]
  by_cases hinvalid : validateLogPayload state.payload state.payload.size ≠ 0
  · simp only [if_pos hinvalid]
    exact UInt32.le_refl _
  · simp only [if_neg hinvalid, hresult, LogState.setSize]
    obtain ⟨count, hcount⟩ := Int.eq_ofNat_of_zero_le hnonneg
    have hofNat : (UInt32.ofInt count).toNat ≤ count := by
      have hreduced : ((count : Int) % 2 ^ 32).toNat ≤ count := by omega
      exact Nat.le_trans (toNat_ofNat_le _) hreduced
    rw [hcount, UInt32.le_iff_toNat_le]
    omega

private theorem signed32_eq {word : UInt32} (h : word.toNat < 2 ^ 31) :
    signed32 word = word.toNat := by
  rw [signed32, BitVec.toInt_eq_toNat_of_lt]
  · rfl
  · exact Nat.mul_lt_mul_of_pos_left h (by decide)

private theorem signed32_neg {word : UInt32} (h : 2 ^ 31 ≤ word.toNat) : signed32 word < 0 := by
  rw [signed32, BitVec.toInt_neg_iff]
  exact Nat.mul_le_mul_left 2 h

/-- The length is bounded unless the request times out, or delivers more than an `int` can hold. -/
theorem lengthBounded_iff
    (run : Prog.Outcome (rmgmtApuLogPage client off reqSize pid) events result) :
    LengthBounded reqSize events result ↔
      ¬ (TimesOut events ∨ Overlong client reqSize events) := by
  have hpages (n : Int) (bytes : List UInt8) (hnonneg : 0 ≤ n) (hrequested : n ≤ reqSize.toNat)
      (sources : LogSources) (state : LogState) (hsize : state.payload.size = reqSize) :
      PagesBounded (n, bytes) sources state :=
    ⟨fun hresult => loadApuLog_size hresult hnonneg (hsize ▸ hrequested),
      verboseInfo_size sources state⟩
  have hempty : LengthBounded reqSize events (0, []) :=
    ⟨Int.le_refl 0, Int.natCast_nonneg _, rfl, fun _ => rfl,
      hpages 0 [] (Int.le_refl 0) (Int.natCast_nonneg _)⟩
  cases outcome_logPage run with
  | unsent hproduces hcompletions =>
      refine iff_of_true hempty ?_
      rintro (htimed | ⟨cq, hcq, -⟩)
      · exact hproduces htimed.1
      · exact absurd (hcompletions ▸ hcq) List.not_mem_nil
  | @failed cq hconsumes hcompletions hcheck =>
      refine iff_of_true hempty ?_
      rintro (htimed | ⟨other, hother, hok, -⟩)
      · exact htimed.2 hconsumes
      · rw [hcompletions] at hother
        exact hcheck (List.mem_singleton.1 hother ▸ hok)
  | @delivered cq hconsumes hcompletions hcheck returnSize hsize bytes hbytes =>
      have hlost : ¬ (TimesOut events ∨ Overlong client reqSize events) ↔
          returnSize.toNat < 2 ^ 31 := by
        rw [← Nat.not_le, not_iff_not, hsize]
        constructor
        · rintro (htimed | ⟨other, hother, -, hlarge⟩)
          · exact absurd hconsumes htimed.2
          · rw [hcompletions] at hother
            exact List.mem_singleton.1 hother ▸ hlarge
        · exact fun hlarge => .inr ⟨cq, hcompletions ▸ List.mem_cons_self, hcheck, hlarge⟩
      rw [hlost]
      constructor
      · intro hbounded
        by_contra hlarge
        exact absurd hbounded.nonneg (Int.not_le.2 (signed32_neg (Nat.not_lt.1 hlarge)))
      · intro hsmall
        have hsigned := signed32_eq hsmall
        have hle : returnSize.toNat ≤ reqSize.toNat := by
          rw [hsize, toNat_min, toNat_min]
          omega
        rw [hsigned]
        refine ⟨Int.natCast_nonneg _, Int.ofNat_le.2 hle, congrArg _ hbytes.symm, ?_,
          hpages _ bytes (Int.natCast_nonneg _) (Int.ofNat_le.2 hle)⟩
        intro hfailed
        exact absurd hcheck (hfailed cq (hcompletions ▸ List.mem_cons_self))
  | @timedOut htimed hcompletions last hlast =>
      refine iff_of_false (fun hbounded => hlast ?_) (not_not.2 (.inl htimed))
      exact hbounded.written

end Bound

/-! ## With and without an answer -/

def readyClient : ApuClient := ⟨⟨1, 4⟩, some 1, true⟩

def request (completion : Option Entry) : List ApuEvent × Int × List UInt8 :=
  Prog.record (apuAnswering completion) (rmgmtApuLogPage readyClient 0 100 0x9) ()

/-- Three bytes are delivered. -/
theorem lengthBounded_of_answer :
    LengthBounded 100 (request (some (countCq 3))).1 (request (some (countCq 3))).2 :=
  (lengthBounded_iff (Prog.outcome_record _ _ _)).2 (by
    rintro (⟨-, hnone⟩ | ⟨cq, hcq, -, hlarge⟩)
    · exact hnone List.mem_cons_self
    · obtain rfl : cq = countCq 3 := List.mem_singleton.1 hcq
      exact absurd hlarge (by decide))

/-- After fifteen seconds without an answer the length is -2. -/
theorem not_lengthBounded_after_timeout :
    ¬ ∀ events result, Prog.Outcome (rmgmtApuLogPage readyClient 0 100 0x9) events result →
      LengthBounded 100 events result := by
  intro h
  have hbounded := h (request none).1 (request none).2 (Prog.outcome_record _ _ _)
  exact absurd hbounded.nonneg (by decide +kernel)

end Vmr.Apu
