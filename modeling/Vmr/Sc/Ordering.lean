import Vmr.Sc.Programmed

/-!
# The order of an update

The update erases after the loader took the password, sends data after the
erase was acknowledged, and starts the new program behind the data.  When it is
over the statics of its states are as after a reset, save for the expected size
of the sync reply, which a reply of the running firmware leaves as it is.
-/

namespace Vmr.Sc

open Vmr.Lib

/-! ## The transactions of a run -/

structure AcknowledgedCommand (caller : Caller) (entry : Transaction × LineOutcome) : Prop where
  sent : entry.1.caller = caller
  succeeded : Succeeded entry
  valid : vmcValidateBslResp (rcvBufrAfter entry.2) 8 = true
  command : rcvBufrAfter entry.2 bslRespCmdOffset = bslRespCmdChar
  message : rcvBufrAfter entry.2 bslRespMsgOffset = bslRespMsgChar

def AcknowledgedIn (caller : Caller) (log : LineLog) : Prop :=
  ∃ entry ∈ log, AcknowledgedCommand caller entry

def SyncSized (entry : Transaction × LineOutcome) : Prop :=
  entry.1.caller = .syncScBsl → Succeeded entry →
    rcvBufrAfter entry.2 0 = escapeChar → rcvBufrAfter entry.2 1 = stx →
      entry.1.recv = some scBslSyncedRespSize

/-- What a transaction may find behind it. -/
structure Orderly (flash : Flash) (fuel : Nat) (st₀ : UpdateState) (log : LineLog)
    (transaction : Transaction) : Prop where
  data : transaction.caller = .sendDataToBsl → AcknowledgedIn .massEraseBsl log
  erase : transaction.caller = .massEraseBsl → AcknowledgedIn .unlockBsl log
  loadpc : transaction.caller = .loadpcBsl → Decided flash fuel st₀ log

/-! ## The statics of the states -/

def callerOf : ScUpdateState → Option Caller
  | .scBslSync => some .syncScBsl
  | .scEnableBsl => some .enableScBsl
  | .bslSynced => some .syncVmcBsl
  | .bslUnlockPassword => some .unlockBsl
  | .bslMassErase => some .massEraseBsl
  | _ => none

/-- Only the statics of the present state are in use. -/
structure Steady (st : UpdateState) : Prop where
  retry : ∀ caller, callerOf st.updateState ≠ some caller → st.retryCount caller = 0
  sync : st.updateState ≠ .scBslSync →
    st.modeRetryCnt = 0 ∧ st.bytesToRcv = scBslSyncedRespSize

namespace Steady

variable {st : UpdateState}

theorem retain (h : Steady st) {st' : UpdateState} (hstate : st'.updateState = st.updateState)
    (hretry : st'.retryCount = st.retryCount) (hmode : st'.modeRetryCnt = st.modeRetryCnt)
    (hbytes : st'.bytesToRcv = st.bytesToRcv) : Steady st' := by
  refine ⟨fun caller hcaller => ?_, fun hsync => ?_⟩
  · rw [hretry]
    exact h.retry caller (hstate ▸ hcaller)
  · rw [hmode, hbytes]
    exact h.sync (hstate ▸ hsync)

theorem countRetry (h : Steady st) {caller : Caller}
    (hcaller : callerOf st.updateState = some caller) : Steady (st.countRetry caller) := by
  refine ⟨fun other hother => ?_, h.sync⟩
  have hne : other ≠ caller := fun heq => hother (heq ▸ hcaller)
  change Function.update st.retryCount caller _ other = 0
  rw [Function.update_of_ne hne]
  exact h.retry other hother

theorem reset (h : Steady st) {caller : Caller}
    (hcaller : callerOf st.updateState = some caller) (other : Caller) :
    (st.withRetry caller 0).retryCount other = 0 := by
  change Function.update st.retryCount caller 0 other = 0
  by_cases hother : other = caller
  · rw [hother, Function.update_self]
  · rw [Function.update_of_ne hother]
    exact h.retry other fun heq => hother (Option.some.inj (heq.symm.trans hcaller))

private theorem of_reset {st' : UpdateState} (hretry : ∀ caller, st'.retryCount caller = 0)
    (hmode : st'.modeRetryCnt = 0) (hbytes : st'.bytesToRcv = scBslSyncedRespSize) :
    Steady st' :=
  ⟨fun caller _ => hretry caller, fun _ => ⟨hmode, hbytes⟩⟩

theorem advance (h : Steady st) {caller : Caller}
    (hcaller : callerOf st.updateState = some caller) (hsync : st.updateState ≠ .scBslSync)
    {st' : UpdateState} (hretry : st'.retryCount = (st.withRetry caller 0).retryCount)
    (hmode : st'.modeRetryCnt = st.modeRetryCnt) (hbytes : st'.bytesToRcv = st.bytesToRcv) :
    Steady st' := by
  obtain ⟨hmode₀, hbytes₀⟩ := h.sync hsync
  refine of_reset (fun other => ?_) (hmode.trans hmode₀) (hbytes.trans hbytes₀)
  rw [hretry]
  exact h.reset hcaller other

theorem giveUp (h : Steady st) (hsync : st.updateState ≠ .scBslSync) (caller : Caller)
    (error : ScUpdateError) : Steady (st.giveUp caller error) := by
  unfold UpdateState.giveUp
  split
  · rename_i hmax
    have hcaller : callerOf st.updateState = some caller := by
      by_contra hne
      rw [h.retry caller hne] at hmax
      exact absurd hmax (by decide)
    exact h.advance hcaller hsync rfl rfl rfl
  · exact h

theorem syncedReply (h : Steady st) (hstate : st.updateState = .scBslSync) :
    Steady (syncedReply st) := by
  unfold Sc.syncedReply
  simp only
  split
  · exact of_reset (fun other => h.reset (hstate ▸ rfl) other) rfl rfl
  · exact ⟨h.retry, fun hsync => absurd hstate hsync⟩

theorem syncReply (h : Steady st) (hstate : st.updateState = .scBslSync)
    (hsized : st.rcvBufr 0 = escapeChar → st.rcvBufr 1 = stx →
      st.bytesToRcv = scBslSyncedRespSize) : Steady (syncReply st) := by
  unfold Sc.syncReply
  split
  · rename_i hsc
    exact of_reset (fun other => h.reset (hstate ▸ rfl) other) rfl (hsized hsc.1 hsc.2)
  · split
    · exact h.syncedReply hstate
    · split
      · exact h.syncedReply hstate
      · have hcount : Steady (st.countRetry .syncScBsl) := h.countRetry (hstate ▸ rfl)
        refine ⟨fun other hother => hcount.retry other ?_, fun hsync => absurd rfl hsync⟩
        change callerOf st.updateState ≠ some other
        rwa [hstate]

theorem syncRetries (h : Steady st) : Steady (syncRetries st) := by
  unfold Sc.syncRetries
  split
  · rename_i hmax
    have hcaller : callerOf st.updateState = some .syncScBsl := by
      by_contra hne
      rw [h.retry _ hne] at hmax
      exact absurd hmax (by decide)
    have hreset := h.reset hcaller
    have hstate : st.updateState = .scBslSync := by
      revert hcaller
      cases st.updateState <;> simp [callerOf]
    simp only
    split
    · exact of_reset hreset rfl rfl
    · split
      · exact ⟨fun other _ => hreset other, fun hsync => absurd hstate hsync⟩
      · split
        · exact ⟨fun other _ => hreset other, fun hsync => absurd hstate hsync⟩
        · exact ⟨fun other _ => hreset other, fun hsync => absurd hstate hsync⟩
  · exact h

end Steady

/-! ## Every state keeps the order -/

section Ordered

variable {flash : Flash} {fuel : Nat} {isVck5000 : Bool} {st₀ st : UpdateState} {log : LineLog}
  {start : Prop}

/-- `start` says that the statics were as after a reset when the run began. -/
structure Sized (start : Prop) (log : LineLog) : Prop where
  start : start
  sync : ∀ entry ∈ log, SyncSized entry

structure Ordered (start : Prop) (st : UpdateState) (log : LineLog) : Prop where
  erase : st.updateState = .bslMassErase → AcknowledgedIn .unlockBsl log
  data : st.updateState = .bslDataTx32 → AcknowledgedIn .massEraseBsl log
  steady : Sized start log → Steady st

def Ungated (state : ScUpdateState) : Prop :=
  state ≠ .bslMassErase ∧ state ≠ .bslDataTx32

private theorem Ordered.of_ungated (hstate : Ungated st.updateState)
    (hsteady : Sized start log → Steady st) : Ordered start st log :=
  ⟨fun h => absurd h hstate.1, fun h => absurd h hstate.2, hsteady⟩

theorem AcknowledgedIn.mono {caller : Caller} (h : AcknowledgedIn caller log)
    (tail : LineLog) : AcknowledgedIn caller (log ++ tail) := by
  obtain ⟨entry, hmem, hentry⟩ := h
  exact ⟨entry, List.mem_append_left _ hmem, hentry⟩

theorem Sized.init {tail : LineLog} (h : Sized start (log ++ tail)) : Sized start log :=
  ⟨h.start, fun entry hmem => h.sync entry (List.mem_append_left _ hmem)⟩

private theorem orderly_of_caller {transaction : Transaction}
    (hdata : transaction.caller ≠ .sendDataToBsl) (herase : transaction.caller ≠ .massEraseBsl)
    (hload : transaction.caller ≠ .loadpcBsl) : Orderly flash fuel st₀ log transaction :=
  ⟨fun h => absurd h hdata, fun h => absurd h herase, fun h => absurd h hload⟩

private theorem syncedReply_ungated (h : st.updateState = .scBslSync) :
    Ungated (syncedReply st).updateState := by
  unfold syncedReply
  simp only
  split <;> simp [Ungated, h]

private theorem syncReply_ungated (h : st.updateState = .scBslSync) :
    Ungated (syncReply st).updateState := by
  unfold syncReply
  split
  · simp [Ungated]
  · split
    · exact syncedReply_ungated h
    · split
      · exact syncedReply_ungated h
      · simp [Ungated]

private theorem syncRetries_ungated (h : Ungated st.updateState) :
    Ungated (syncRetries st).updateState := by
  unfold syncRetries
  simp only
  split
  · split
    · simp [Ungated, UpdateState.fail]
    · split
      · exact h
      · split <;> exact h
  · exact h

private theorem syncScBsl_ordered (h : Ordered start st log)
    (hstate : st.updateState = .scBslSync) :
    Prog.Safe lineStep (Orderly flash fuel st₀) (Ordered start) (syncScBsl st) log := by
  apply guarded_transaction
  · exact orderly_of_caller (by simp) (by simp) (by simp)
  · intro outcome
    let st₁ : UpdateState := { st with rcvBufr := rcvBufrAfter outcome }
    have hline : Sized start log → Steady st₁ := fun hsized =>
      (h.steady hsized).retain rfl rfl rfl rfl
    have hungated : Ungated st₁.updateState := by simp [st₁, Ungated, hstate]
    refine .of_ungated (syncRetries_ungated ?_) fun hsized => Steady.syncRetries ?_
    · split
      · exact syncReply_ungated hstate
      · exact hungated
    · split
      · rename_i hok
        refine (hline hsized.init).syncReply hstate fun hescape hstx => ?_
        have hentry := hsized.sync _ (List.mem_append_right _ (List.mem_singleton_self _))
        exact Option.some.inj (hentry rfl hok hescape hstx)
      · exact (hline hsized.init).countRetry (by simp [st₁, hstate, callerOf])

inductive Replied (caller : Caller) (self next : ScUpdateState) (st st' : UpdateState) : Prop
  | accepted (hstate : st'.updateState = next)
      (hretry : st'.retryCount = (st.withRetry caller 0).retryCount)
      (hmode : st'.modeRetryCnt = st.modeRetryCnt) (hbytes : st'.bytesToRcv = st.bytesToRcv)
  | rejected (hstate : st'.updateState = self)
      (hretry : st'.retryCount = (st.countRetry caller).retryCount)
      (hmode : st'.modeRetryCnt = st.modeRetryCnt) (hbytes : st'.bytesToRcv = st.bytesToRcv)

namespace Replied

variable {caller : Caller} {self next : ScUpdateState} {st' : UpdateState}

private theorem steady (h : Replied caller self next st st') (hstate : st.updateState = self)
    (hcaller : callerOf self = some caller) (hself : self ≠ .scBslSync)
    (hnext : next ≠ .scBslSync) (error : ScUpdateError) (hsteady : Steady st) :
    Steady (st'.giveUp caller error) := by
  subst hstate
  cases h with
  | accepted hstate' hretry hmode hbytes =>
      exact (hsteady.advance hcaller hself hretry hmode hbytes).giveUp (hstate' ▸ hnext) _ _
  | rejected hstate' hretry hmode hbytes =>
      have hcount : Steady st' :=
        (hsteady.countRetry hcaller).retain hstate' hretry hmode hbytes
      exact hcount.giveUp (hstate' ▸ hself) _ _

theorem state (h : Replied caller self next st st') (error : ScUpdateError) :
    (st'.giveUp caller error).updateState = self ∨
      (st'.giveUp caller error).updateState = .scStateIdle ∨
      (st'.giveUp caller error).updateState = next ∧ st'.updateState = next := by
  unfold UpdateState.giveUp
  split
  · exact .inr (.inl rfl)
  · cases h with
    | accepted hstate => exact .inr (.inr ⟨hstate, hstate⟩)
    | rejected hstate => exact .inl hstate

theorem ordered (h : Replied caller self next st st') {tail : LineLog} (hordered : Ordered start st log)
    (hstate : st.updateState = self) (hcaller : callerOf self = some caller)
    (hself : Ungated self ∧ self ≠ .scBslSync) (hnext : Ungated next ∧ next ≠ .scBslSync)
    (error : ScUpdateError) : Ordered start (st'.giveUp caller error) (log ++ tail) := by
  refine .of_ungated ?_ fun hsized => ?_
  · rcases h.state error with heq | heq | ⟨heq, -⟩ <;> rw [heq]
    · exact hself.1
    · exact ⟨by simp, by simp⟩
    · exact hnext.1
  · exact h.steady hstate hcaller hself.2 hnext.2 error (hordered.steady hsized.init)

end Replied

theorem enableReply_replied (st : UpdateState) (h : st.updateState = .scEnableBsl) (ok : Bool) :
    Replied .enableScBsl .scEnableBsl .bslSynced st
      (if ok = true then enableReply st else st.countRetry .enableScBsl) := by
  unfold enableReply
  split
  · split
    · exact .accepted rfl rfl rfl rfl
    · exact .rejected rfl rfl rfl rfl
  · exact .rejected h rfl rfl rfl

theorem vmcSyncReply_replied (st : UpdateState) (h : st.updateState = .bslSynced) (ok : Bool) :
    Replied .syncVmcBsl .bslSynced .bslUnlockPassword st
      (if ok = true then vmcSyncReply st else st.countRetry .syncVmcBsl) := by
  unfold vmcSyncReply
  split
  · split
    · exact .accepted rfl rfl rfl rfl
    · exact .rejected rfl rfl rfl rfl
  · exact .rejected h rfl rfl rfl

private theorem replied_ordered (h : Ordered start st log) {self next : ScUpdateState}
    {caller : Caller}
    (hstate : st.updateState = self) {sendBuf : List UInt8} {recv : Option Nat}
    {reply : Bool → UpdateState → UpdateState}
    (hreplied : ∀ received : UpdateState, received.updateState = self → ∀ ok,
      Replied caller self next received (reply ok received))
    (hfree : caller ≠ .sendDataToBsl ∧ caller ≠ .massEraseBsl ∧ caller ≠ .loadpcBsl)
    (hcaller : callerOf self = some caller) (hself : Ungated self ∧ self ≠ .scBslSync)
    (hnext : Ungated next ∧ next ≠ .scBslSync) (error : ScUpdateError) :
    Prog.Safe lineStep (Orderly flash fuel st₀) (Ordered start)
      (doUartTransaction caller sendBuf recv st >>= fun result =>
        pure ((reply result.1 result.2).giveUp caller error)) log := by
  apply guarded_transaction
  · exact orderly_of_caller hfree.1 hfree.2.1 hfree.2.2
  · intro outcome
    let received : UpdateState := { st with rcvBufr := rcvBufrAfter outcome }
    have hline : Ordered start received log :=
      ⟨h.erase, h.data, fun hsized => (h.steady hsized).retain rfl rfl rfl rfl⟩
    exact (hreplied received hstate _).ordered hline hstate hcaller hself hnext error

private theorem enableScBsl_ordered (h : Ordered start st log)
    (hstate : st.updateState = .scEnableBsl) :
    Prog.Safe lineStep (Orderly flash fuel st₀) (Ordered start) (enableScBsl st) log :=
  replied_ordered h hstate enableReply_replied (by decide) rfl (by simp [Ungated])
    (by simp [Ungated]) _

private theorem syncVmcBsl_ordered (h : Ordered start st log)
    (hstate : st.updateState = .bslSynced) :
    Prog.Safe lineStep (Orderly flash fuel st₀) (Ordered start) (syncVmcBsl isVck5000 st) log :=
  replied_ordered h hstate vmcSyncReply_replied (by decide) rfl (by simp [Ungated])
    (by simp [Ungated]) _

private theorem bslCommand_replied {caller : Caller} {request : List UInt8}
    {self next : ScUpdateState}
    {error : ScUpdateError} (hstate : st.updateState = self) (hne : self ≠ next)
    (hguard : Orderly flash fuel st₀ log ⟨caller, request, some 8⟩) :
    Prog.Safe lineStep (Orderly flash fuel st₀)
      (fun st' log' => ∃ entry st₁, log' = log ++ [entry] ∧
        Replied caller self next st st₁ ∧ st' = st₁.giveUp caller error ∧
        (st₁.updateState = next → AcknowledgedCommand caller entry))
      (bslCommand caller request 8 self next error st) log := by
  apply guarded_transaction hguard
  intro outcome
  refine ⟨_, _, rfl, ?_, rfl, ?_⟩
  · split
    · split
      · exact .accepted rfl rfl rfl rfl
      · exact .rejected rfl rfl rfl rfl
    · exact .rejected hstate rfl rfl rfl
  · intro hnext
    split at hnext
    · rename_i hok
      split at hnext
      · rename_i hreply
        exact ⟨rfl, hok, hreply.1, hreply.2.1, hreply.2.2⟩
      · exact absurd hnext hne
    · exact absurd (hstate.symm.trans hnext) hne

private theorem unlockBsl_ordered (h : Ordered start st log)
    (hstate : st.updateState = .bslUnlockPassword) :
    Prog.Safe lineStep (Orderly flash fuel st₀) (Ordered start) (unlockBsl st) log := by
  refine (bslCommand_replied hstate (by decide)
    (orderly_of_caller (by simp) (by simp) (by simp))).weaken ?_
  rintro _ _ ⟨entry, st₁, rfl, hreplied, rfl, hacknowledged⟩
  refine ⟨fun hgated => ?_, fun hgated => ?_, fun hsized => ?_⟩
  · rcases hreplied.state _ with heq | heq | ⟨heq, hnext⟩ <;> rw [heq] at hgated
    · cases hgated
    · cases hgated
    · exact ⟨entry, by simp, hacknowledged hnext⟩
  · rcases hreplied.state _ with heq | heq | ⟨heq, hnext⟩ <;> rw [heq] at hgated <;> cases hgated
  · exact hreplied.steady hstate rfl (by decide) (by decide) _ (h.steady hsized.init)

private theorem massEraseBsl_ordered (h : Ordered start st log)
    (hstate : st.updateState = .bslMassErase) :
    Prog.Safe lineStep (Orderly flash fuel st₀) (Ordered start) (massEraseBsl st) log := by
  refine (bslCommand_replied hstate (by decide)
    ⟨by simp, fun _ => h.erase hstate, by simp⟩).weaken ?_
  rintro _ _ ⟨entry, st₁, rfl, hreplied, rfl, hacknowledged⟩
  refine ⟨fun _ => (h.erase hstate).mono _, fun hgated => ?_, fun hsized => ?_⟩
  · rcases hreplied.state _ with heq | heq | ⟨heq, hnext⟩ <;> rw [heq] at hgated
    · cases hgated
    · cases hgated
    · exact ⟨entry, by simp, hacknowledged hnext⟩
  · exact hreplied.steady hstate rfl (by decide) (by decide) _ (h.steady hsized.init)

structure SameStatics (st st' : UpdateState) : Prop where
  retry : st'.retryCount = st.retryCount
  mode : st'.modeRetryCnt = st.modeRetryCnt
  bytes : st'.bytesToRcv = st.bytesToRcv

private theorem matchcrcPostwrite_ordered (st : UpdateState) (writeAddr : UInt32) :
    Prog.Safe lineStep (Orderly flash fuel st₀)
      (fun result log' => SameStatics st result.2 ∧ ∃ tail, log' = log ++ tail)
      (matchcrcPostwrite writeAddr st) log := by
  apply guarded_transaction
  · exact orderly_of_caller (by simp) (by simp) (by simp)
  · intro outcome
    simp only [Prog.pure_eq]
    split
    · split <;> exact ⟨⟨rfl, rfl, rfl⟩, _, rfl⟩
    · exact ⟨⟨rfl, rfl, rfl⟩, _, rfl⟩

private theorem sendPackets_ordered (rounds : Nat) {st : UpdateState} {log : LineLog}
    (herased : AcknowledgedIn .massEraseBsl log) :
    Prog.Safe lineStep (Orderly flash fuel st₀)
      (fun result log' => ∀ st', result = some st' →
        SameStatics st st' ∧ ∃ tail, log' = log ++ tail)
      (sendPackets flash fuel rounds st) log := by
  induction rounds generalizing st log with
  | zero =>
      intro st' h
      cases h
  | succ rounds ih =>
      have further : ∀ {st₁ : UpdateState} {entries : LineLog}, SameStatics st st₁ →
          Prog.Safe lineStep (Orderly flash fuel st₀)
            (fun result log' => ∀ st', result = some st' →
              SameStatics st st' ∧ ∃ tail, log' = log ++ tail)
            (sendPackets flash fuel rounds st₁) (log ++ entries) := by
        intro st₁ entries hsame
        refine (ih (herased.mono entries)).weaken fun result log' hpost st' hresult => ?_
        obtain ⟨hsame', tail, rfl⟩ := hpost st' hresult
        exact ⟨⟨hsame'.retry.trans hsame.retry, hsame'.mode.trans hsame.mode,
          hsame'.bytes.trans hsame.bytes⟩, entries ++ tail, by simp⟩
      rw [sendPackets]
      split
      · rintro st' ⟨⟩
        exact ⟨⟨rfl, rfl, rfl⟩, [], by simp⟩
      · split
        · intro st' h
          cases h
        · apply guarded_transaction
          · exact ⟨fun _ => herased, by simp, by simp⟩
          · intro outcome
            simp only
            split
            · split
              · refine (matchcrcPostwrite_ordered _ _).bind ?_
                rintro ⟨matched, st₂⟩ _ ⟨hsame, tail, rfl⟩
                have hsame₂ : SameStatics st st₂ := ⟨hsame.retry, hsame.mode, hsame.bytes⟩
                simp only
                split
                · rw [List.append_assoc]
                  exact further hsame₂
                · rintro st' ⟨⟩
                  exact ⟨⟨hsame₂.retry, hsame₂.mode, hsame₂.bytes⟩, _, List.append_assoc ..⟩
              · rintro st' ⟨⟩
                exact ⟨⟨rfl, rfl, rfl⟩, _, rfl⟩
            · exact further ⟨rfl, rfl, rfl⟩

private theorem afterData_ungated (st : UpdateState) :
    Ungated (afterData isVck5000 st).updateState := by
  unfold afterData
  simp only
  split
  · simp [Ungated]
  · split <;> simp [Ungated]

private theorem sendDataToBsl_ordered (h : Ordered start st log)
    (hstate : st.updateState = .bslDataTx32) :
    Prog.Safe lineStep (Orderly flash fuel st₀)
      (fun result log' => ∀ st', result = some st' → Ordered start st' log')
      (sendDataToBsl flash fuel isVck5000 st) log := by
  have hreset {st' : UpdateState} (hsame : SameStatics st st') (hsteady : Steady st) :
      Steady st' := by
    obtain ⟨hmode, hbytes⟩ := hsteady.sync (by simp [hstate])
    refine .of_reset (fun caller => ?_) (hsame.mode.trans hmode) (hsame.bytes.trans hbytes)
    rw [hsame.retry]
    exact hsteady.retry caller (by simp [hstate, callerOf])
  unfold sendDataToBsl
  simp only
  split
  · rintro st' ⟨⟩
    exact .of_ungated (by simp [Ungated, UpdateState.fail]) fun hsized =>
      hreset ⟨rfl, rfl, rfl⟩ (h.steady hsized)
  · refine Prog.Safe.bind (sendPackets_ordered fuel (h.data hstate)) ?_
    rintro result log' hpost st' hresult
    obtain ⟨st₁, rfl, rfl⟩ := Option.map_eq_some_iff.1 hresult
    obtain ⟨hsame, tail, rfl⟩ := hpost st₁ rfl
    refine .of_ungated (afterData_ungated st₁) fun hsized =>
      hreset ?_ (h.steady hsized.init)
    unfold afterData
    simp only
    split
    · exact ⟨hsame.retry, hsame.mode, hsame.bytes⟩
    · split <;> exact ⟨hsame.retry, hsame.mode, hsame.bytes⟩

private theorem loadpcBsl_ordered (h : Ordered start st log)
    (hstate : st.updateState = .bslLoadPc32)
    (hdecided : Decided flash fuel st₀ log) :
    Prog.Safe lineStep (Orderly flash fuel st₀) (Ordered start) (loadpcBsl st) log := by
  apply guarded_transaction
  · exact ⟨by simp, by simp, fun _ => hdecided⟩
  · intro outcome
    have hsteady (hsized : Sized start log) (hstate' : ScUpdateState) :
        Steady { st with updateState := hstate' } := by
      have hlast := h.steady hsized
      obtain ⟨hmode, hbytes⟩ := hlast.sync (by simp [hstate])
      exact .of_reset (fun caller => hlast.retry caller (by simp [hstate, callerOf])) hmode hbytes
    simp only
    split
    · exact .of_ungated (by simp [Ungated]) fun hsized =>
        (hsteady hsized.init .scStateIdle).retain rfl rfl rfl rfl
    · exact .of_ungated (by simp [Ungated, hstate]) fun hsized =>
        (h.steady hsized.init).retain rfl rfl rfl rfl

private theorem rebootBsl_ordered (h : Ordered start st log)
    (hstate : st.updateState = .bslRebootReset) :
    Prog.Safe lineStep (Orderly flash fuel st₀) (Ordered start) (rebootBsl st) log := by
  apply guarded_transaction
  · exact orderly_of_caller (by simp) (by simp) (by simp)
  · intro outcome
    simp only
    split
    · refine .of_ungated (by simp [Ungated]) fun hsized => ?_
      have hlast := h.steady hsized.init
      obtain ⟨hmode, hbytes⟩ := hlast.sync (by simp [hstate])
      exact .of_reset (fun caller => hlast.retry caller (by simp [hstate, callerOf])) hmode hbytes
    · exact .of_ungated (by simp [Ungated, hstate]) fun hsized =>
        (h.steady hsized.init).retain rfl rfl rfl rfl

private theorem updateRound_ordered (hstage : Stage flash fuel st₀ st log)
    (h : Ordered start st log)
    (hstatus : st.updateStatus = .inProgress) :
    Prog.Safe lineStep (Orderly flash fuel st₀)
      (fun result log' => ∀ st', result = some st' → Ordered start st' log')
      (updateRound flash isVck5000 fuel st) log := by
  have keep : ∀ {p : LineProg UpdateState},
      Prog.Safe lineStep (Orderly flash fuel st₀) (Ordered start) p log →
      Prog.Safe lineStep (Orderly flash fuel st₀)
        (fun result log' => ∀ st', result = some st' → Ordered start st' log') (some <$> p) log :=
    fun hp => safe_some (hp.weaken fun _ _ hordered _ heq => by cases heq; exact hordered)
  unfold updateRound
  cases hstage with
  | before hpreparing _ =>
      have hstate := hpreparing.state
      simp only [preData, List.mem_cons, List.not_mem_nil, or_false] at hstate
      rcases hstate with hstate | hstate | hstate | hstate | hstate | hstate <;>
        simp only [hstate]
      · exact keep (syncScBsl_ordered h hstate)
      · exact keep (enableScBsl_ordered h hstate)
      · exact keep (syncVmcBsl_ordered h hstate)
      · exact keep (unlockBsl_ordered h hstate)
      · exact keep (massEraseBsl_ordered h hstate)
      · exact sendDataToBsl_ordered h hstate
  | loading _ hstate hdecided =>
      simp only [hstate]
      exact keep (loadpcBsl_ordered h hstate hdecided)
  | rebooting _ _ hstate =>
      simp only [hstate]
      exact keep (rebootBsl_ordered h hstate)
  | finished hquiet _ =>
      rcases hquiet.status with hover | hover <;> simp [hover] at hstatus

private theorem updateLoop_ordered (rounds : Nat) (hstage : Stage flash fuel st₀ st log)
    (h : Ordered start st log) :
    Prog.Safe lineStep (Orderly flash fuel st₀)
      (fun result log' => ∀ st', result = some st' → Quiet st' ∧ Ordered start st' log')
      (updateLoop flash isVck5000 fuel rounds st) log := by
  induction rounds generalizing st log with
  | zero =>
      intro st' h
      cases h
  | succ rounds ih =>
      rw [updateLoop]
      split
      · rename_i hstatus
        have hnext : Prog.Safe lineStep anyState
            (fun result log' => ∀ st', result = some st' → Stage flash fuel st₀ st' log')
            (updateRound flash isVck5000 fuel st) log := updateRound_safe hstage hstatus
        have hround := hnext.and (updateRound_ordered hstage h hstatus)
        refine (hround.mono (fun _ _ hguard => hguard.2) fun _ _ hpost => hpost).bind ?_
        rintro (_ | st₁) log₁ ⟨hstage₁, hordered₁⟩
        · intro st' h
          cases h
        · exact ih (hstage₁ st₁ rfl) (hordered₁ st₁ rfl)
      · rename_i hstatus
        rintro st' ⟨⟩
        exact ⟨(hstage.ended hstatus).1, h⟩

end Ordered

/-! ## Successive updates -/

/-- What steers an update is as after a reset. -/
structure Reset (st : UpdateState) : Prop where
  quiet : Quiet st
  retry : ∀ caller, st.retryCount caller = 0
  mode : st.modeRetryCnt = 0
  bytes : st.bytesToRcv = scBslSyncedRespSize
  buffer : st.rcvBufr = fun _ => 0

theorem Reset.start {st : UpdateState} (h : Reset st) :
    startUpdate st = startUpdate (bootUpdate st.image) := by
  have hretry : st.retryCount = fun _ => 0 := funext h.retry
  rw [h.quiet.startUpdate, hretry, h.mode, h.bytes, h.buffer]
  rfl

/-- From a reset state an update runs as the first one after a reset. -/
theorem Reset.updateScfw {st : UpdateState} (h : Reset st) (flash : Flash) (isVck5000 : Bool)
    (fuel : Nat) :
    updateScfw flash isVck5000 fuel st = updateScfw flash isVck5000 fuel (bootUpdate st.image) := by
  unfold Sc.updateScfw
  rw [h.start]

private theorem startUpdate_ordered {st : UpdateState} (hquiet : Quiet st) {log : LineLog} :
    Ordered (Reset st) (startUpdate st) log := by
  rw [hquiet.startUpdate]
  refine ⟨by simp, by simp, fun hsized => ⟨fun caller _ => hsized.start.retry caller, ?_⟩⟩
  exact fun hsync => absurd rfl hsync

private theorem updateScfw_steady {flash : Flash} {isVck5000 : Bool} {fuel : Nat} {st : UpdateState}
    (hquiet : Quiet st) :
    Prog.Safe lineStep (Orderly flash fuel st)
      (fun result log => ∀ error st', result = some (error, st') →
        Quiet st' ∧ (Sized (Reset st) log → Reset st'))
      (updateScfw flash isVck5000 fuel st) [] := by
  refine (updateLoop_ordered fuel (startUpdate_stage hquiet)
    (startUpdate_ordered hquiet)).bind ?_
  rintro (_ | st₁) log h
  · intro error st' h
    cases h
  · obtain ⟨hquiet₁, hordered⟩ := h st₁ rfl
    rintro error st' ⟨⟩
    have hquiet' : Quiet (endUpdate st₁) := ⟨hquiet₁.state, hquiet₁.status⟩
    refine ⟨hquiet', fun hsized => ?_⟩
    have hsteady := hordered.steady hsized
    obtain ⟨hmode, hbytes⟩ := hsteady.sync (by simp [hquiet₁.state])
    have hretry (caller : Caller) : st₁.retryCount caller = 0 :=
      hsteady.retry caller (by simp [hquiet₁.state, callerOf])
    exact ⟨hquiet', hretry, hmode, hbytes, rfl⟩

/-- Any number of updates and what went over the line in them; the image may change between. -/
inductive Updates (isVck5000 : Bool) : LineLog → UpdateState → Prop
  | boot (image : ScImage) : Updates isVck5000 [] (bootUpdate image)
  | next {flash : Flash} {fuel : Nat} {st st' : UpdateState} {error : ScUpdateError}
      {past log : LineLog} (h : Updates isVck5000 past st)
      (hrun : Prog.Returns lineStep [] (updateScfw flash isVck5000 fuel st)
        (some (error, st')) log)
      (image : ScImage) : Updates isVck5000 (past ++ log) { st' with image }

theorem Updates.reset {isVck5000 : Bool} {past : LineLog} {st : UpdateState}
    (h : Updates isVck5000 past st) :
    Quiet st ∧ ((∀ entry ∈ past, SyncSized entry) → Reset st) := by
  induction h with
  | boot image =>
      have hquiet : Quiet (bootUpdate image) := ⟨rfl, .inl rfl⟩
      exact ⟨hquiet, fun _ => ⟨hquiet, fun _ => rfl, rfl, rfl, rfl⟩⟩
  | next _ hrun image ih =>
      obtain ⟨hquiet, hreset⟩ := (updateScfw_steady ih.1).returns hrun _ _ rfl
      refine ⟨⟨hquiet.state, hquiet.status⟩, fun hsync => ?_⟩
      have hstart := ih.2 fun entry hmem => hsync entry (List.mem_append_left _ hmem)
      have hend := hreset ⟨hstart, fun entry hmem => hsync entry (List.mem_append_right _ hmem)⟩
      exact ⟨⟨hquiet.state, hquiet.status⟩, hend.retry, hend.mode, hend.bytes, hend.buffer⟩

/--
In every run the data follows an acknowledged erase, the erase an acknowledged
password, and load-PC a data phase that programmed the image exactly if it was
clean.  The run ends idle, and as long as all sync replies came where they were
awaited the next run is as the first one.
-/
theorem updateScfw_ordered {isVck5000 : Bool} {past : LineLog} {st : UpdateState}
    (h : Updates isVck5000 past st) (flash : Flash) (fuel : Nat) :
    (∀ log transaction,
      Prog.Issues lineStep [] (updateScfw flash isVck5000 fuel st) log transaction →
        Orderly flash fuel st log transaction) ∧
    ∀ error st' log,
      Prog.Returns lineStep [] (updateScfw flash isVck5000 fuel st) (some (error, st')) log →
        st'.updateState = .scStateIdle ∧
        ((∀ entry ∈ past ++ log, SyncSized entry) → Reset st' ∧
          ∀ flash' fuel', updateScfw flash' isVck5000 fuel' st' =
            updateScfw flash' isVck5000 fuel' (bootUpdate st'.image)) := by
  obtain ⟨hquiet, hreset⟩ := h.reset
  refine ⟨fun log transaction hissue => (updateScfw_steady hquiet).issues hissue, ?_⟩
  intro error st' log hrun
  obtain ⟨hquiet', hend⟩ := (updateScfw_steady hquiet).returns hrun _ _ rfl
  refine ⟨hquiet'.state, fun hsync => ?_⟩
  have hstart := hreset fun entry hmem => hsync entry (List.mem_append_left _ hmem)
  have hreset' := hend ⟨hstart, fun entry hmem => hsync entry (List.mem_append_right _ hmem)⟩
  exact ⟨hreset', fun flash' fuel' => hreset'.updateScfw flash' isVck5000 fuel'⟩

theorem updateScfw_ordered_controller :
    ∃ st', Prog.Returns lineStep []
        (updateScfw (partitionFlash seamSections) false 100 (bootUpdate (bootImage 12)))
        (some (.noError, st')) (seamUpdate false).2 ∧ Reset st' := by
  have hnoError : (seamUpdate false).1.map Prod.fst = some .noError := by decide +kernel
  obtain ⟨st', hrun⟩ := seamUpdate_returns hnoError
  refine ⟨st', hrun, ?_⟩
  have hboot : Updates false [] (bootUpdate (bootImage 12)) := .boot _
  have hsync : ∀ entry ∈ [] ++ (seamUpdate false).2, SyncSized entry := by
    rw [List.nil_append]
    have hrecv : ((seamUpdate false).2.map Prod.fst).all (fun transaction =>
        transaction.caller != .syncScBsl || transaction.recv == some scBslSyncedRespSize) =
          true := by
      decide +kernel
    intro entry hmem hcaller _ _ _
    have hentry := List.all_eq_true.1 hrecv entry.1 (List.mem_map_of_mem hmem)
    simpa [hcaller] using hentry
  have hordered := updateScfw_ordered hboot (partitionFlash seamSections) 100
  exact ((hordered.2 _ _ _ hrun).2 hsync).1

/-- Of the sync requests only the one for eight bytes is answered, and nothing else is. -/
def lateLine (transaction : Transaction) : LineOutcome :=
  let late := decide (transaction.recv = some bslUnknownMsgRespSize)
  { setBuffer := true, send := true, wait := late, behind := fun _ => 0
    reply := if late then [escapeChar, stx, 0, 0, 0, 0, 0, 0] else [] }

def lateUpdate : Option (ScUpdateError × UpdateState) × LineLog :=
  runLine lateLine
    (updateScfw (partitionFlash seamSections) false 100 (bootUpdate (bootImage 12))) []

/-- The update fails, and the next one starts with a request for eight bytes. -/
theorem updateScfw_not_reset :
    ∃ st', Prog.Returns lineStep []
        (updateScfw (partitionFlash seamSections) false 100 (bootUpdate (bootImage 12)))
        (some (.enBslFailed, st')) lateUpdate.2 ∧
      st'.bytesToRcv = bslUnknownMsgRespSize ∧ ¬ Reset st' := by
  have hlate : lateUpdate.1.map (fun result => (result.1, result.2.bytesToRcv)) =
      some (.enBslFailed, bslUnknownMsgRespSize) := by
    decide +kernel
  obtain ⟨⟨error, st'⟩, hresult, hend⟩ := Option.map_eq_some_iff.1 hlate
  obtain ⟨rfl, hbytes⟩ := Prod.mk.inj hend
  refine ⟨st', runLine_returns hresult, hbytes, fun hreset => ?_⟩
  have hsynced : bslUnknownMsgRespSize = scBslSyncedRespSize := hbytes.symm.trans hreset.bytes
  exact absurd hsynced (by decide)

end Vmr.Sc
