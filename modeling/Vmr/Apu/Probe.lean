import Vmr.Apu.Client
import Vmr.Lib.Transition

/-!
# Probing the APU channel

A probe accepts a peer when the major version is 1 or the minor version is 0, so
what is ready is not always version 1.0.  The lock of the data area exists just
as long as the channel is ready.
-/

namespace Vmr.Apu

open Vmr.Lib Vmr.Xgq Vmr.Rmgmt

/-! ## What a probe was answered -/

def attaches (events : List ApuEvent) : List Int :=
  events.filterMap fun event => match event with
    | ⟨.attach _, ret⟩ => some (show Int from ret)
    | _ => none

def mutexesAfter (live : List Semaphore) (event : ApuEvent) : List Semaphore :=
  match event with
  | ⟨.createMutex, answer⟩ => (show Option Semaphore from answer).toList ++ live
  | ⟨.deleteMutex semaphore, _⟩ => live.filter fun other => some other ≠ semaphore
  | _ => live

def Established (events : List ApuEvent) : Prop :=
  0 ∈ attaches events ∧
    ∃ cq ∈ completions events, cqCmdCompleteCheck cq = 0 ∧ cqIdentify cq = ⟨1, 0⟩

/-- No answer is 1.x, or x.0, without being 1.0. -/
def VersionTold (events : List ApuEvent) : Prop :=
  ∀ cq ∈ completions events, cqCmdCompleteCheck cq = 0 →
    ((cqIdentify cq).major = 1 ↔ (cqIdentify cq).minor = 0)

def AcceptedBy (found : List Entry) : Prop :=
  ∃ cq ∈ found, cqCmdCompleteCheck cq = 0 ∧
    ¬ ((cqIdentify cq).major ≠ 1 ∧ (cqIdentify cq).minor ≠ 0)

def Accepted (events : List ApuEvent) : Prop :=
  0 ∈ attaches events ∧ AcceptedBy (completions events)

theorem accepted_iff {events : List ApuEvent} (htold : VersionTold events) :
    Accepted events ↔ Established events := by
  refine and_congr_right fun _ => exists_congr fun cq => and_congr_right fun hcq =>
    and_congr_right fun hcheck => ?_
  have hversion := htold cq hcq hcheck
  constructor
  · intro haccepted
    have hmajor : (cqIdentify cq).major = 1 := by
      by_contra hmajor
      exact haccepted ⟨hmajor, fun hminor => hmajor (hversion.2 hminor)⟩
    exact congrArg₂ VmrCmdIdentify.mk hmajor (hversion.1 hmajor)
  · intro hidentify hwrong
    exact hwrong.1 (congrArg VmrCmdIdentify.major hidentify)

/-! ## Events that leave ring and lock alone -/

structure Silent (events : List ApuEvent) : Prop where
  attaches : attaches events = []
  mutexes : ∀ live, events.foldl mutexesAfter live = live

private theorem attaches_append (first second : List ApuEvent) :
    attaches (first ++ second) = attaches first ++ attaches second :=
  List.filterMap_append

theorem Silent.append {first second : List ApuEvent} (hfirst : Silent first)
    (hsecond : Silent second) : Silent (first ++ second) where
  attaches := by rw [attaches_append, hfirst.attaches, hsecond.attaches, List.append_nil]
  mutexes live := by rw [List.foldl_append, hfirst.mutexes, hsecond.mutexes]

private theorem Waited.silent {events : List ApuEvent} (h : Waited events) : Silent events := by
  induction h with
  | nil => exact ⟨rfl, fun _ => rfl⟩
  | attempt _ _ ih => exact ⟨ih.attaches, ih.mutexes⟩

private theorem silent_answered (slot : UInt64) (cq : Entry) : Silent (answered slot cq []) :=
  ⟨rfl, fun _ => rfl⟩

/-! ## One probe -/

section Probe

variable {client client' : ApuClient} {events : List ApuEvent} {ret : Int}

def IdentifiedBy (found : List Entry) (ret : Int) (got : VmrCmdIdentify) : Prop :=
  (ret = 0 ∧ ∃ cq, found = [cq] ∧ cqCmdCompleteCheck cq = 0 ∧ got = cqIdentify cq) ∨
    ret ≠ 0 ∧ ∀ cq ∈ found, cqCmdCompleteCheck cq ≠ 0

private theorem identifiedBy_complete (cq : Entry) (idCmd : VmrCmdIdentify) :
    IdentifiedBy [cq] (identifyCmdComplete cq idCmd).1 (identifyCmdComplete cq idCmd).2 := by
  rw [identifyCmdComplete]
  by_cases hcheck : cqCmdCompleteCheck cq = 0
  · rw [if_neg (not_not.2 hcheck)]
    exact .inl ⟨rfl, cq, rfl, hcheck, rfl⟩
  · rw [if_pos hcheck]
    exact .inr ⟨hcheck, fun other hother => List.mem_singleton.1 hother ▸ hcheck⟩

private theorem outcome_identify {idCmd got : VmrCmdIdentify} (hready : client.xgqApuReady = true)
    (run : Prog.Outcome (rmgmtApuIdentify client idCmd) events (ret, got)) :
    Silent events ∧ IdentifiedBy (completions events) ret got := by
  rw [rmgmtApuIdentify, clRmgmtApuIsReady, hready, if_neg (by decide)] at run
  rcases outcome_request (fun rval => return (rval, idCmd)) (fun _ => 0) run with ⟨rval, slot, rest, hspace, rfl, hunsent⟩ |
    ⟨slot, answer, waiting, rest, rfl, hwait, hanswer⟩
  · obtain ⟨rfl, hresult⟩ := Prog.outcome_ret.1 hunsent
    obtain ⟨rfl, rfl⟩ := Prod.mk.inj hresult
    exact ⟨⟨rfl, fun _ => rfl⟩, .inr ⟨hspace, fun cq hcq => absurd hcq List.not_mem_nil⟩⟩
  · rcases outcome_awaitCompletion hwait with
      ⟨waited, slot', cq, completing, value, hwaited, rfl, rfl, hcomplete⟩ |
        ⟨last, hwaited, rfl, -, -⟩
    · obtain ⟨rfl, rfl⟩ := Prog.outcome_ret.1 hcomplete
      obtain ⟨rfl, hresult⟩ := Prog.outcome_ret.1 hanswer
      have hrest := hwaited.silent.append (silent_answered slot' cq)
      have hcompletions : completions (waited ++ answered slot' cq []) = [cq] := by
        rw [completions_append, hwaited.completions]
        rfl
      have hby := identifiedBy_complete cq idCmd
      rw [← hresult, ← hcompletions] at hby
      rw [List.append_nil]
      exact ⟨⟨hrest.attaches, hrest.mutexes⟩, hby⟩
    · obtain ⟨rfl, hresult⟩ := Prog.outcome_ret.1 hanswer
      obtain ⟨rfl, rfl⟩ := Prod.mk.inj hresult
      rw [List.append_nil]
      refine ⟨⟨hwaited.silent.attaches, hwaited.silent.mutexes⟩, .inr ⟨by decide, fun cq hcq => ?_⟩⟩
      exact absurd (hwaited.completions ▸ hcq) List.not_mem_nil

structure Kept (h : Semaphore) (events : List ApuEvent) (client' : ApuClient) : Prop where
  semaData : client'.semaData = some h
  mutexes : events.foldl mutexesAfter [h] = if client'.xgqApuReady then [h] else []

private theorem outcome_probeFailure
    (run : Prog.Outcome (probeFailure client) events (ret, client')) :
    events = [⟨.deleteMutex client.semaData, ()⟩] ∧
      client' = { client with xgqApuReady := false } := by
  obtain ⟨_, rest, rfl, hdeleted⟩ := Prog.outcome_perform_bind.1 run
  obtain ⟨rfl, hresult⟩ := Prog.outcome_ret.1 hdeleted
  exact ⟨rfl, (Prod.mk.inj hresult).2⟩

private theorem kept_probeFailure {h : Semaphore} (hsema : client.semaData = some h)
    {before : List ApuEvent} (hsilent : Silent before)
    (run : Prog.Outcome (probeFailure client) events (ret, client')) :
    Kept h (before ++ events) client' ∧ client'.xgqApuReady = false ∧
      attaches (before ++ events) = [] ∧ completions (before ++ events) = completions before := by
  obtain ⟨rfl, rfl⟩ := outcome_probeFailure run
  refine ⟨⟨hsema, ?_⟩, rfl, ?_, ?_⟩
  · rw [List.foldl_append, hsilent.mutexes]
    simp [mutexesAfter, hsema]
  · rw [attaches_append, hsilent.attaches]
    rfl
  · rw [completions_append]
    exact List.append_nil _

private theorem outcome_probeIdentify {h : Semaphore} (hsema : client.semaData = some h)
    (hready : client.xgqApuReady = true)
    (run : Prog.Outcome (probeIdentify client) events (ret, client')) :
    Kept h events client' ∧ attaches events = [] ∧
      (client'.xgqApuReady = true ↔ AcceptedBy (completions events)) := by
  obtain ⟨⟨rval, idCmd⟩, identify, rest, rfl, hidentify, hrest⟩ := Prog.outcome_bind.1 run
  obtain ⟨hsilent, hby⟩ := outcome_identify hready hidentify
  dsimp only at hrest
  by_cases hrval : rval = 0
  · obtain ⟨cq, hcompletions, hcheck, rfl⟩ : ∃ cq, completions identify = [cq] ∧
        cqCmdCompleteCheck cq = 0 ∧ idCmd = cqIdentify cq := by
      rcases hby with ⟨-, hfound⟩ | ⟨hwrong, -⟩
      · exact hfound
      · exact absurd hrval hwrong
    have haccepted : AcceptedBy [cq] ↔
        ¬ ((cqIdentify cq).major ≠ 1 ∧ (cqIdentify cq).minor ≠ 0) := by
      simp [AcceptedBy, hcheck]
    rw [if_neg (not_not.2 hrval)] at hrest
    by_cases hversion : (cqIdentify cq).major ≠ 1 ∧ (cqIdentify cq).minor ≠ 0
    · rw [if_pos hversion] at hrest
      obtain ⟨hkept, hready', hattaches, hsame⟩ := kept_probeFailure hsema hsilent hrest
      refine ⟨hkept, hattaches, ?_⟩
      rw [hready', hsame, hcompletions, haccepted]
      exact iff_of_false Bool.false_ne_true (not_not.2 hversion)
    · rw [if_neg hversion] at hrest
      obtain ⟨rfl, hresult⟩ := Prog.outcome_ret.1 hrest
      obtain ⟨-, rfl⟩ := Prod.mk.inj hresult
      rw [List.append_nil, hcompletions, haccepted]
      refine ⟨⟨hsema, ?_⟩, hsilent.attaches, iff_of_true hready hversion⟩
      rw [hsilent.mutexes, hready, if_pos rfl]
  · rw [if_pos hrval] at hrest
    obtain ⟨hkept, hready', hattaches, hsame⟩ := kept_probeFailure hsema hsilent hrest
    refine ⟨hkept, hattaches, ?_⟩
    rw [hready', hsame]
    refine iff_of_false Bool.false_ne_true ?_
    rintro ⟨cq, hcq, hcheck, -⟩
    rcases hby with ⟨hzero, -⟩ | ⟨-, hfailed⟩
    · exact hrval hzero
    · exact hfailed cq hcq hcheck

private theorem outcome_probeAttach {h : Semaphore} (hsema : client.semaData = some h)
    (run : Prog.Outcome (probeAttach client) events (ret, client')) :
    Kept h events client' ∧ (client'.xgqApuReady = true ↔ Accepted events) := by
  obtain ⟨(attached : Int), rest, rfl, hrest⟩ := Prog.outcome_perform_bind.1 run
  by_cases hattached : attached = 0
  · subst hattached
    rw [if_neg (not_not.2 rfl)] at hrest
    obtain ⟨hkept, -, hready'⟩ := @outcome_probeIdentify { client with xgqApuReady := true }
      client' rest ret h hsema rfl hrest
    refine ⟨⟨hkept.semaData, hkept.mutexes⟩, hready'.trans ⟨?_, ?_⟩⟩
    · exact fun haccepted => ⟨List.mem_cons_self, haccepted⟩
    · exact fun haccepted => haccepted.2
  · rw [if_pos hattached] at hrest
    obtain ⟨rfl, rfl⟩ := outcome_probeFailure hrest
    refine ⟨⟨hsema, by simp [mutexesAfter, hsema]⟩, iff_of_false Bool.false_ne_true ?_⟩
    rintro ⟨hzero, -⟩
    exact hattached (List.mem_singleton.1 hzero).symm

/-- The mutexes that exist are the lock of a channel that is ready. -/
def Locked (client : ApuClient) (live : List Semaphore) : Prop :=
  live = (if client.xgqApuReady then client.semaData.toList else []) ∧
    (client.xgqApuReady = true → client.semaData ≠ none)

private theorem outcome_probeChannel (hready : client.xgqApuReady = false)
    (run : Prog.Outcome (probeChannel client) events (ret, client')) :
    Locked client' (events.foldl mutexesAfter []) ∧
      (client'.xgqApuReady = true ↔ Accepted events) := by
  have hunready {client : ApuClient} (h : client.xgqApuReady = false) : Locked client [] :=
    ⟨by rw [h]; rfl, fun hready => absurd hready (by rw [h]; decide)⟩
  rw [probeChannel] at run
  by_cases hchannel : client.mem.apuChannelReady = 0
  · rw [if_pos hchannel] at run
    obtain ⟨rfl, hresult⟩ := Prog.outcome_ret.1 run
    obtain ⟨-, rfl⟩ := Prod.mk.inj hresult
    refine ⟨hunready hready, iff_of_false (by rw [hready]; decide) ?_⟩
    exact fun haccepted => absurd haccepted.1 List.not_mem_nil
  · rw [if_neg hchannel] at run
    obtain ⟨(semaData : Option Semaphore), rest, rfl, hrest⟩ := Prog.outcome_perform_bind.1 run
    cases semaData with
    | none =>
        obtain ⟨rfl, hresult⟩ := Prog.outcome_ret.1 hrest
        obtain ⟨-, rfl⟩ := Prod.mk.inj hresult
        refine ⟨hunready hready, iff_of_false ?_ ?_⟩
        · exact fun htrue => absurd (hready.symm.trans htrue) Bool.false_ne_true
        · exact fun haccepted => absurd haccepted.1 List.not_mem_nil
    | some h =>
        obtain ⟨hkept, hready'⟩ := @outcome_probeAttach { client with semaData := some h }
          client' rest ret h rfl hrest
        refine ⟨⟨?_, fun _ => ?_⟩, hready'⟩
        · rw [hkept.semaData]
          exact hkept.mutexes
        · rw [hkept.semaData]
          exact Option.some_ne_none h

private theorem outcome_probe (hready : client.xgqApuReady = false)
    (run : Prog.Outcome (clRmgmtApuChannelProbe client) events (ret, client')) :
    Locked client' (events.foldl mutexesAfter []) ∧
      (client'.xgqApuReady = true ↔ Accepted events) := by
  have hskip : ¬ clRmgmtApuIsReady client = true := by
    rw [clRmgmtApuIsReady, hready]
    decide
  rw [clRmgmtApuChannelProbe, if_neg hskip] at run
  obtain ⟨(read : Option SharedMem), rest, rfl, hrest⟩ := Prog.outcome_perform_bind.1 run
  cases read with
  | none =>
      obtain ⟨rfl, hresult⟩ := Prog.outcome_ret.1 hrest
      obtain ⟨-, rfl⟩ := Prod.mk.inj hresult
      refine ⟨⟨by rw [hready]; rfl, fun htrue => ?_⟩, iff_of_false (by rw [hready]; decide) ?_⟩
      · exact absurd (hready.symm.trans htrue) Bool.false_ne_true
      · exact fun haccepted => absurd haccepted.1 List.not_mem_nil
  | some mem => exact @outcome_probeChannel { client with mem } client' rest ret hready hrest

end Probe

/-! ## Sequences of probes -/

structure ProbeState where
  client : ApuClient
  /-- The mutexes that exist. -/
  live : List Semaphore
  /-- The last probe that was not skipped. -/
  last : Option (List ApuEvent)

def probeSystem : TransitionSystem ProbeState (List ApuEvent) where
  init s := s = ⟨.init, [], none⟩
  step s events s' :=
    (∃ ret, Prog.Outcome (clRmgmtApuChannelProbe s.client) events (ret, s'.client)) ∧
      s'.live = events.foldl mutexesAfter s.live ∧
      s'.last = if clRmgmtApuIsReady s.client then s.last else some events

def DataLockExists (s : ProbeState) : Prop := ∃ h ∈ s.live, s.client.semaData = some h

/-- Ready is what has established itself as version 1.0, and that has the lock. -/
def Truthful (s : ProbeState) : Prop :=
  (clRmgmtApuIsReady s.client = true ↔ ∃ events, s.last = some events ∧ Established events) ∧
    (DataLockExists s ↔ clRmgmtApuIsReady s.client = true)

structure ProbeInv (accepted : List ApuEvent → Prop) (s : ProbeState) : Prop where
  locked : Locked s.client s.live
  ready : s.client.xgqApuReady = true ↔ ∃ events, s.last = some events ∧ accepted events

private theorem probeInv_init (accepted : List ApuEvent → Prop) :
    ProbeInv accepted ⟨.init, [], none⟩ where
  locked := ⟨rfl, fun hready => absurd hready Bool.false_ne_true⟩
  ready := iff_of_false Bool.false_ne_true fun ⟨_, hlast, _⟩ => Option.some_ne_none _ hlast.symm

private theorem probeInv_step {accepted : List ApuEvent → Prop} {s s' : ProbeState}
    {events : List ApuEvent} (haccepted : Accepted events ↔ accepted events)
    (hinv : ProbeInv accepted s) (hstep : probeSystem.step s events s') :
    ProbeInv accepted s' := by
  obtain ⟨⟨ret, run⟩, hlive, hlast⟩ := hstep
  cases hready : s.client.xgqApuReady with
  | true =>
      rw [clRmgmtApuChannelProbe, clRmgmtApuIsReady, hready, if_pos rfl] at run
      obtain ⟨rfl, hresult⟩ := Prog.outcome_ret.1 run
      have hclient : s'.client = s.client := (Prod.mk.inj hresult).2
      rw [clRmgmtApuIsReady, hready, if_pos rfl] at hlast
      have hsame : s'.live = s.live := hlive
      exact ⟨by rw [hclient, hsame]; exact hinv.locked, by rw [hclient, hlast]; exact hinv.ready⟩
  | false =>
      have hnone : s.live = [] := by rw [hinv.locked.1, hready]; rfl
      rw [hnone] at hlive
      rw [clRmgmtApuIsReady, hready, if_neg Bool.false_ne_true] at hlast
      obtain ⟨hlocked, hready'⟩ := outcome_probe hready run
      refine ⟨hlive ▸ hlocked, hready'.trans (haccepted.trans ?_)⟩
      rw [hlast]
      constructor
      · exact fun h => ⟨events, rfl, h⟩
      · rintro ⟨other, hother, h⟩
        exact Option.some.inj hother ▸ h

private theorem dataLockExists_iff {accepted : List ApuEvent → Prop} {s : ProbeState}
    (hinv : ProbeInv accepted s) : DataLockExists s ↔ s.client.xgqApuReady = true := by
  obtain ⟨hlive, hsome⟩ := hinv.locked
  rw [DataLockExists, hlive]
  cases hready : s.client.xgqApuReady with
  | false => simp
  | true =>
      obtain ⟨h, hsema⟩ := Option.ne_none_iff_exists'.1 (hsome hready)
      simp [hsema]

/-- As long as no answer to identify is 1.x or x.0 without being 1.0. -/
theorem truthful_of_versionTold {s : ProbeState}
    (h : (probeSystem.restrict fun _ events => VersionTold events).Reachable s) : Truthful s := by
  have hinvariant : (probeSystem.restrict fun _ events => VersionTold events).Invariant
      (ProbeInv Established) := by
    constructor
    · rintro _ rfl
      exact probeInv_init _
    · rintro s events s' hinv ⟨htold, hstep⟩
      exact probeInv_step (accepted_iff htold) hinv hstep
  have hinv := h.invariant hinvariant
  exact ⟨hinv.ready, dataLockExists_iff hinv⟩

/-! ## Two versions -/

def identifyCq (version : VmrCmdIdentify) : Entry := fun offset =>
  if offset < 2 then byteAt apuMagicId.toNat offset
  else if offset < 4 then 0
  else if offset < 6 then byteAt version.minor.toNat (offset - 4)
  else if offset < 8 then byteAt version.major.toNat (offset - 6)
  else 0

def probed (events : List ApuEvent) (result : Int × ApuClient) : ProbeState :=
  ⟨result.2, events.foldl mutexesAfter [], some events⟩

private theorem step_probed {events : List ApuEvent} {result : Int × ApuClient}
    (run : Prog.Outcome (clRmgmtApuChannelProbe .init) events result) :
    probeSystem.step ⟨.init, [], none⟩ events (probed events result) :=
  ⟨⟨result.1, run⟩, rfl, rfl⟩

def probe (version : VmrCmdIdentify) : List ApuEvent × Int × ApuClient :=
  Prog.record (apuAnswering (some (identifyCq version))) (clRmgmtApuChannelProbe .init) ()

private theorem outcome_record_probe (version : VmrCmdIdentify) :
    Prog.Outcome (clRmgmtApuChannelProbe .init) (probe version).1 (probe version).2 :=
  Prog.outcome_record _ _ _

/-- Version 1.0 is ready. -/
theorem truthful_of_version_1_0 : ∃ s, s.client.xgqApuReady = true ∧ Truthful s :=
  ⟨probed (probe ⟨1, 0⟩).1 (probe ⟨1, 0⟩).2, by decide +kernel, truthful_of_versionTold <|
    .step (.init rfl) ⟨fun cq hcq _ => by
      obtain rfl : cq = identifyCq ⟨1, 0⟩ := List.mem_singleton.1 hcq
      decide, step_probed (outcome_record_probe ⟨1, 0⟩)⟩⟩

/-- Version 1.1 is ready as well. -/
theorem not_truthful_of_version_1_1 :
    ¬ ∀ s, probeSystem.Reachable s → Truthful s := by
  intro h
  have htruthful := h _ (.step (.init rfl) (step_probed (outcome_record_probe ⟨1, 1⟩)))
  obtain ⟨events, hlast, -, cq, hcq, -, hversion⟩ := htruthful.1.1 (by decide +kernel)
  obtain rfl := Option.some.inj hlast
  obtain rfl : cq = identifyCq ⟨1, 1⟩ := List.mem_singleton.1 hcq
  exact absurd hversion (by decide)

end Vmr.Apu
