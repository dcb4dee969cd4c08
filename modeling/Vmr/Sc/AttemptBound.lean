import Vmr.Sc.Attempts

/-!
# The bound on an update

A run gets one outcome for each transaction, from any sequence.  It is over
within `attempts`, unless the load-PC or reboot requests fail more often than
the documented retries allow.  `quitLine` is a sequence on which it never ends:
the controller takes the erase and then goes silent.
-/

namespace Vmr.Sc

open Vmr.Lib

/-- "for each state we have 10 retries" -/
def documentedRetries : Nat := 10

/-! ## The bound -/

def runSequence {α : Type} (line : Nat → LineOutcome) (p : LineProg α) (log : LineLog) :
    α × LineLog :=
  Prog.simulate (fun log transaction =>
    (line log.length, log ++ [(transaction, line log.length)])) p log

private theorem runSequence_bind {α β : Type} (line : Nat → LineOutcome) (p : LineProg α)
    (f : α → LineProg β) (log : LineLog) :
    runSequence line (p >>= f) log =
      runSequence line (f (runSequence line p log).1) (runSequence line p log).2 :=
  Prog.simulate_bind ..

/-- The transactions an update needs at most, with the retries that are documented. -/
def attempts (size : Nat) : Nat := 3 * 18 + 4 * 5 + (2 * size + 2) + documentedRetries

def ReturnsWithin (bound : Nat) (line : Nat → LineOutcome) (flash : Flash) (isVck5000 : Bool)
    (st : UpdateState) : Prop :=
  ∃ enough, ∀ fuel ≥ enough,
    (runSequence line (updateScfw flash isVck5000 fuel st) []).1 ≠ none ∧
    (runSequence line (updateScfw flash isVck5000 fuel st) []).2.length ≤ bound

private theorem attemptsLeft_startUpdate {st : UpdateState} (hquiet : Quiet st) (size : Nat) :
    (startUpdate st).attemptsLeft size ≤ 3 * 18 + 4 * 5 + (2 * size + 2) := by
  have hle : (startUpdate st).attemptsLeft size ≤
      (startUpdate st).syncLeft + 20 + UpdateState.dataTries size := by
    rw [hquiet.startUpdate]
    exact attemptsLeft_le_of_sync size rfl
  have hkinds : (startUpdate st).kindsLeft ≤ 2 := by
    rw [UpdateState.kindsLeft]
    split
    · exact Nat.le_refl 2
    · split <;> omega
  have htries := @triesLeft_le (startUpdate st) .syncScBsl
  rw [UpdateState.syncLeft, UpdateState.dataTries] at hle
  omega

/-! ## A controller that goes silent -/

section Silent

variable {flash : Flash} {fuel : Nat} {st : UpdateState} {log : LineLog}

def quitReplies : List (List UInt8) :=
  [[0x5C, 0x02, 0, 0, 0, 0, 0, 0, 0, 0, 0], [0x5C, 0x00, 0xFE, 0, 0, 0, 0, 0, 0, 0, 0],
    List.replicate 9 0, bslResponse [bslRespCmdChar, bslRespMsgChar],
    bslResponse [bslRespCmdChar, bslRespMsgChar]]

def silence : LineOutcome :=
  { setBuffer := false, send := false, wait := false, reply := [], behind := fun _ => 0 }

def quitLine (index : Nat) : LineOutcome :=
  match quitReplies[index]? with
  | some reply => { setBuffer := true, send := true, wait := true, reply, behind := fun _ => 0 }
  | none => silence

private theorem quitLine_silence {index : Nat} (h : 5 ≤ index) : quitLine index = silence := by
  have hnone : quitReplies[index]? = none := List.getElem?_eq_none h
  rw [quitLine, hnone]

private theorem silence_fails (transaction : Transaction) :
    transactionOk transaction silence = false := by
  cases transaction with
  | mk caller sendBuf recv => cases recv <;> rfl

private theorem doUartTransaction_silence (caller : Caller) (sendBuf : List UInt8)
    (recv : Option Nat) (st : UpdateState) :
    (doUartTransaction caller sendBuf recv st).run (fun _ => silence) =
      (false, { st with rcvBufr := rcvBufrAfter silence }) := by
  simp [doUartTransaction, silence_fails]

private theorem runSequence_silent {α : Type} {line : Nat → LineOutcome} (p : LineProg α)
    (h : ∀ index ≥ log.length, line index = silence) :
    (runSequence line p log).1 = p.run fun _ => silence := by
  induction p generalizing log with
  | ret value => rfl
  | op transaction next ih =>
      have hnow := h log.length (Nat.le_refl _)
      change (runSequence line (next (line log.length))
        (log ++ [(transaction, line log.length)])).1 = (next silence).run fun _ => silence
      rw [hnow]
      exact ih silence fun index hindex => h index (by simp at hindex; omega)

private theorem loadpc_never_returns (isVck5000 : Bool) (rounds : Nat)
    (hstatus : st.updateStatus = .inProgress) (hstate : st.updateState = .bslLoadPc32) :
    (updateLoop flash isVck5000 fuel rounds st).run (fun _ => silence) = none := by
  induction rounds generalizing st with
  | zero => rfl
  | succ rounds ih =>
      have hround : (updateRound flash isVck5000 fuel st).run (fun _ => silence) =
          some { st with rcvBufr := rcvBufrAfter silence } := by
        simp [updateRound, hstate, map_eq_pure_bind, loadpcBsl, doUartTransaction_silence]
      rw [updateLoop, if_pos hstatus, Prog.run_bind, hround]
      exact ih hstatus hstate

private theorem sendPackets_silent_status (rounds : Nat) {st' : UpdateState}
    (h : (sendPackets flash fuel rounds st).run (fun _ => silence) = some st') :
    st'.updateStatus = st.updateStatus := by
  induction rounds generalizing st with
  | zero => cases h
  | succ rounds ih =>
      rw [sendPackets] at h
      split at h
      · cases h
        rfl
      · cases hnext : nextPacket flash st.image.fptScLoc.text fuel st.image.parser with
        | none => simp [hnext] at h
        | some parser =>
            simp only [hnext, Prog.run_bind, doUartTransaction_silence, Bool.false_eq_true,
              if_false] at h
            have hkept := ih h
            exact hkept

private theorem sendDataToBsl_never_returns (rounds : Nat) (hstatus : st.updateStatus = .inProgress)
    (hstate : st.updateState = .bslDataTx32)
    (hstart : flash st.image.fptScLoc.text = sectionStart) :
    (updateLoop flash false fuel rounds st).run (fun _ => silence) = none := by
  cases rounds with
  | zero => rfl
  | succ rounds =>
      rw [updateLoop, if_pos hstatus, Prog.run_bind]
      cases hround : (updateRound flash false fuel st).run (fun _ => silence) with
      | none => rfl
      | some st' =>
          simp only [updateRound, hstate, sendDataToBsl, hstart, ne_eq, not_true_eq_false,
            if_false, Prog.run_bind, Prog.pure_eq, Prog.run_ret, Option.map_eq_some_iff] at hround
          obtain ⟨st₁, hsent, rfl⟩ := hround
          have hstatus₁ : st₁.updateStatus = .inProgress :=
            (sendPackets_silent_status _ hsent).trans hstatus
          apply loadpc_never_returns
          · simp [afterData, hstatus₁]
          · simp [afterData, hstatus₁]

private theorem runSequence_updateLoop {line : Nat → LineOutcome} {isVck5000 : Bool}
    {st' : UpdateState} {log' : LineLog} (hstatus : st.updateStatus = .inProgress)
    (hround : runSequence line (updateRound flash isVck5000 fuel st) log = (some st', log'))
    (hrest : ∀ rounds,
      (runSequence line (updateLoop flash isVck5000 fuel rounds st') log').1 = none)
    (rounds : Nat) : (runSequence line (updateLoop flash isVck5000 fuel rounds st) log).1 = none := by
  cases rounds with
  | zero => rfl
  | succ rounds =>
      rw [updateLoop, if_pos hstatus, runSequence_bind, hround]
      exact hrest rounds

structure Onward (st st' : UpdateState) (next : ScUpdateState) : Prop where
  status : st'.updateStatus = .inProgress
  state : st'.updateState = next
  loc : st'.image.fptScLoc = st.image.fptScLoc

variable (flash fuel) in
/-- The round of `st`, with the reply the sequence has for it. -/
def GoesOn (st : UpdateState) (next : ScUpdateState) (index : Nat) : Prop :=
  ∀ log : LineLog, log.length = index → ∃ st' log', log'.length = index + 1 ∧
    runSequence quitLine (updateRound flash false fuel st) log = (some st', log') ∧
    Onward st st' next

private theorem GoesOn.of_reply {caller : Caller} {sendBuf : List UInt8} {bytesToRecv index : Nat}
    {next : ScUpdateState} {reply : Bool × UpdateState → UpdateState}
    (hround : updateRound flash false fuel st = some <$> (do
      let result ← doUartTransaction caller sendBuf (some bytesToRecv) st
      return reply result))
    (hok : transactionOk ⟨caller, sendBuf, some bytesToRecv⟩ (quitLine index) = true)
    (honward : Onward st (reply (true, { st with rcvBufr := rcvBufrAfter (quitLine index) })) next) :
    GoesOn flash fuel st next index := by
  intro log hlog
  refine ⟨_, log ++ [(⟨caller, sendBuf, some bytesToRecv⟩, quitLine index)], by simp [hlog], ?_,
    honward⟩
  rw [hround, ← hlog]
  rw [← hlog] at hok
  simp [map_eq_pure_bind, runSequence, doUartTransaction, Prog.perform, Prog.simulate, hok]

theorem GoesOn.sync (hstatus : st.updateStatus = .inProgress)
    (hstate : st.updateState = .scBslSync) (hbytes : st.bytesToRcv = scBslSyncedRespSize) :
    GoesOn flash fuel st .scEnableBsl 0 := by
  refine .of_reply (by rw [updateRound, hstate]; rfl) (by rw [hbytes]; decide) ?_
  simp only [if_true]
  rw [syncReply, if_pos ⟨rfl, rfl⟩, syncRetries_idle (by simp [UpdateState.withRetry])]
  exact ⟨hstatus, rfl, rfl⟩

theorem Onward.giveUp {st' : UpdateState} {next : ScUpdateState} {caller : Caller}
    (h : Onward st st' next) (hretry : st'.retryCount caller = 0) (error : ScUpdateError) :
    Onward st (st'.giveUp caller error) next := by
  rwa [UpdateState.giveUp, if_neg (by rw [hretry]; decide)]

theorem GoesOn.enable (hstatus : st.updateStatus = .inProgress)
    (hstate : st.updateState = .scEnableBsl) : GoesOn flash fuel st .bslSynced 1 := by
  refine .of_reply (by rw [updateRound, hstate]; rfl) (by decide) ?_
  simp only [if_true]
  rw [enableReply, if_pos ⟨rfl, rfl⟩]
  apply Onward.giveUp
  · exact ⟨hstatus, rfl, rfl⟩
  · simp [UpdateState.withRetry]

private theorem GoesOn.syncVmc (hstatus : st.updateStatus = .inProgress)
    (hstate : st.updateState = .bslSynced) : GoesOn flash fuel st .bslUnlockPassword 2 := by
  refine .of_reply (by rw [updateRound, hstate]; rfl) (by decide) ?_
  have hsuccess : rcvBufrAfter (quitLine 2) 0 = bslSyncSuccess := rfl
  simp only [if_true, vmcSyncReply, hsuccess]
  apply Onward.giveUp
  · exact ⟨hstatus, rfl, rfl⟩
  · simp [UpdateState.withRetry, UpdateState.setUpdateProgress, UpdateState.setProgress]

theorem GoesOn.command {caller : Caller} {request : List UInt8} {self next : ScUpdateState}
    {error : ScUpdateError} {index : Nat} (hstatus : st.updateStatus = .inProgress)
    (hround : updateRound flash false fuel st =
      some <$> bslCommand caller request 8 self next error st)
    (hreply : quitLine index =
      { setBuffer := true, send := true, wait := true,
        reply := bslResponse [bslRespCmdChar, bslRespMsgChar], behind := fun _ => 0 }) :
    GoesOn flash fuel st next index := by
  refine .of_reply (hround.trans rfl) (by rw [hreply]; rfl) ?_
  have hvalid : vmcValidateBslResp (rcvBufrAfter (quitLine index)) 8 = true ∧
      rcvBufrAfter (quitLine index) bslRespCmdOffset = bslRespCmdChar ∧
      rcvBufrAfter (quitLine index) bslRespMsgOffset = bslRespMsgChar := by
    rw [hreply]
    decide +kernel
  simp only [if_true]
  rw [if_pos hvalid]
  apply Onward.giveUp
  · exact ⟨hstatus, rfl, rfl⟩
  · simp [UpdateState.withRetry]

private theorem GoesOn.never_returns {next : ScUpdateState} {index : Nat} {log : LineLog}
    (h : GoesOn flash fuel st next index) (hstatus : st.updateStatus = .inProgress)
    (hlog : log.length = index)
    (hrest : ∀ st' log', log'.length = index + 1 → Onward st st' next → ∀ rounds,
      (runSequence quitLine (updateLoop flash false fuel rounds st') log').1 = none)
    (rounds : Nat) : (runSequence quitLine (updateLoop flash false fuel rounds st) log).1 = none := by
  obtain ⟨st', log', hlog', hround, honward⟩ := h log hlog
  exact runSequence_updateLoop hstatus hround (hrest st' log' hlog' honward) rounds

private theorem quitLine_never_returns (flash : Flash) (st : UpdateState) (hquiet : Quiet st)
    (hbytes : st.bytesToRcv = scBslSyncedRespSize)
    (hstart : flash st.image.fptScLoc.text = sectionStart) (fuel : Nat) :
    (runSequence quitLine (updateScfw flash false fuel st) []).1 = none := by
  let begun : UpdateState := { st with
    updateState := .scBslSync, updateStatus := .inProgress, updateError := .noError }
  have hbegin : startUpdate st = begun := hquiet.startUpdate
  have hsync : GoesOn flash fuel begun .scEnableBsl 0 := .sync rfl rfl hbytes
  have hloop : (runSequence quitLine (updateLoop flash false fuel fuel (startUpdate st)) []).1 =
      none := by
    rw [hbegin]
    refine hsync.never_returns rfl rfl ?_ fuel
    rintro st₁ log₁ hlog₁ ⟨hstatus₁, hstate₁, hloc₁⟩
    refine (GoesOn.enable hstatus₁ hstate₁).never_returns hstatus₁ hlog₁ ?_
    rintro st₂ log₂ hlog₂ ⟨hstatus₂, hstate₂, hloc₂⟩
    refine (GoesOn.syncVmc hstatus₂ hstate₂).never_returns hstatus₂ hlog₂ ?_
    rintro st₃ log₃ hlog₃ ⟨hstatus₃, hstate₃, hloc₃⟩
    refine (GoesOn.command hstatus₃ (by rw [updateRound, hstate₃]; rfl) rfl).never_returns
      hstatus₃ hlog₃ ?_
    rintro st₄ log₄ hlog₄ ⟨hstatus₄, hstate₄, hloc₄⟩
    refine (GoesOn.command hstatus₄ (by rw [updateRound, hstate₄]; rfl) rfl).never_returns
      hstatus₄ hlog₄ ?_
    rintro st₅ log₅ hlog₅ ⟨hstatus₅, hstate₅, hloc₅⟩ rounds
    rw [runSequence_silent _ fun index hindex => quitLine_silence (by omega)]
    apply sendDataToBsl_never_returns _ hstatus₅ hstate₅
    rw [hloc₅, hloc₄, hloc₃, hloc₂, hloc₁]
    exact hstart
  rw [updateScfw, runSequence_bind, hloop]
  rfl

end Silent

/-- A well-formed image and a controller that goes silent behind the erase. -/
theorem quitLine_not_returnsWithin :
    BetweenUpdates false (bootUpdate (bootImage 12)) ∧
    (bootImage 12).fptScLoc.Ended (partitionFlash seamSections) ∧
    ¬ ∃ bound, ReturnsWithin bound quitLine (partitionFlash seamSections) false
      (bootUpdate (bootImage 12)) := by
  refine ⟨.boot _, fun _ => by decide +kernel, ?_⟩
  rintro ⟨bound, enough, hreturns⟩
  exact (hreturns enough (Nat.le_refl _)).1
    (quitLine_never_returns _ _ ⟨rfl, .inl rfl⟩ rfl (by decide +kernel) enough)

/-! ## A controller that is late -/

/-- A load-PC request asks for one byte, and a reboot request for none. -/
structure LateAsks (transaction : Transaction) : Prop where
  loadpc : transaction.caller = .loadpcBsl → transaction.recv = some bslLoadPcRespSize
  reboot : transaction.caller = .rebootBsl → transaction.recv = none

private theorem only_transaction {α : Type} {caller : Caller} {sendBuf : List UInt8}
    {recv : Option Nat}
    {st : UpdateState} {f : Bool × UpdateState → LineProg α}
    (h : LateAsks ⟨caller, sendBuf, recv⟩) (hf : ∀ result, (f result).Only LateAsks) :
    (doUartTransaction caller sendBuf recv st >>= f).Only LateAsks :=
  Prog.Only.bind ⟨h, fun _ => trivial⟩ hf

private theorem lateAsks_of_caller {caller : Caller} (hloadpc : caller ≠ .loadpcBsl)
    (hreboot : caller ≠ .rebootBsl) (sendBuf : List UInt8) (recv : Option Nat) :
    LateAsks ⟨caller, sendBuf, recv⟩ :=
  ⟨fun h => absurd h hloadpc, fun h => absurd h hreboot⟩

private theorem only_bslCommand {caller : Caller} (hloadpc : caller ≠ .loadpcBsl)
    (hreboot : caller ≠ .rebootBsl) (request : List UInt8) (respSize : Nat)
    (self next : ScUpdateState) (error : ScUpdateError) (st : UpdateState) :
    (bslCommand caller request respSize self next error st).Only LateAsks :=
  only_transaction (lateAsks_of_caller hloadpc hreboot _ _) fun _ => trivial

private theorem only_sendPackets (flash : Flash) (fuel rounds : Nat) (st : UpdateState) :
    (sendPackets flash fuel rounds st).Only LateAsks := by
  induction rounds generalizing st with
  | zero => exact trivial
  | succ rounds ih =>
      rw [sendPackets]
      refine Prog.only_ite trivial ?_
      cases nextPacket flash st.image.fptScLoc.text fuel st.image.parser with
      | none => exact trivial
      | some parser =>
          refine only_transaction (lateAsks_of_caller (by decide) (by decide) _ _) fun result => ?_
          refine Prog.only_ite (Prog.only_ite (Prog.Only.bind ?_ fun matched => ?_) trivial) (ih _)
          · refine only_transaction (lateAsks_of_caller (by decide) (by decide) _ _) fun result => ?_
            exact Prog.only_ite (Prog.only_ite trivial trivial) trivial
          · exact Prog.only_ite (ih _) trivial

private theorem only_updateRound (flash : Flash) (isVck5000 : Bool) (fuel : Nat)
    (st : UpdateState) :
    (updateRound flash isVck5000 fuel st).Only LateAsks := by
  have keep {p : LineProg UpdateState} (h : p.Only LateAsks) :
      (some <$> p : LineProg (Option UpdateState)).Only LateAsks :=
    Prog.Only.bind h fun _ => trivial
  unfold updateRound
  cases st.updateState with
  | scBslSync | scEnableBsl | bslSynced =>
      exact keep (only_transaction (lateAsks_of_caller (by decide) (by decide) _ _) fun _ => trivial)
  | bslUnlockPassword | bslMassErase => exact keep (only_bslCommand (by decide) (by decide) ..)
  | bslDataTx32 =>
      exact Prog.only_ite trivial (Prog.Only.bind (only_sendPackets ..) fun _ => trivial)
  | bslLoadPc32 =>
      exact keep (only_transaction ⟨fun _ => rfl, by simp⟩ fun _ => Prog.only_ite trivial trivial)
  | bslRebootReset =>
      exact keep (only_transaction ⟨by simp, fun _ => rfl⟩ fun _ => Prog.only_ite trivial trivial)
  | _ => exact trivial

private theorem only_updateLoop (flash : Flash) (isVck5000 : Bool) (fuel rounds : Nat)
    (st : UpdateState) :
    (updateLoop flash isVck5000 fuel rounds st).Only LateAsks := by
  induction rounds generalizing st with
  | zero => exact trivial
  | succ rounds ih =>
      refine Prog.only_ite (Prog.Only.bind (only_updateRound ..) fun result => ?_) trivial
      cases result with
      | none => exact trivial
      | some st' => exact ih st'

private theorem only_updateScfw (flash : Flash) (isVck5000 : Bool) (fuel : Nat) (st : UpdateState) :
    (updateScfw flash isVck5000 fuel st).Only LateAsks := by
  refine Prog.Only.bind (only_updateLoop ..) fun result => ?_
  cases result <;> exact trivial

private theorem uncounted_runSequence_le {α : Type} {line : Nat → LineOutcome} {count : Nat}
    {p : LineProg α} (hp : p.Only LateAsks)
    (hline : ∀ index ≥ count, ∀ transaction, LateAsks transaction →
      Uncounted (transaction, line index) = false) (log : LineLog) :
    uncounted (runSequence line p log).2 ≤ uncounted log + (count - log.length) := by
  induction p generalizing log with
  | ret value => exact Nat.le_add_right _ _
  | op transaction next ih =>
      have hrest := ih (line log.length) (hp.2 _) (log ++ [(transaction, line log.length)])
      rw [uncounted_append, List.length_append, List.length_singleton] at hrest
      refine Nat.le_trans hrest ?_
      by_cases hlate : count ≤ log.length
      · have hgood : uncounted [(transaction, line log.length)] = 0 := by
          simp [uncounted, hline _ hlate transaction hp.1]
        omega
      · have hone : uncounted [(transaction, line log.length)] ≤ 1 := List.countP_le_length
        omega

/-- As `quitLine`, but from the eleventh transaction on one zero byte comes in. -/
def slowLine (index : Nat) : LineOutcome :=
  if index < 10 then quitLine index
  else { setBuffer := true, send := true, wait := true, reply := [0], behind := fun _ => 0 }

private theorem not_uncounted_slowLine {index : Nat} (hindex : 10 ≤ index)
    {transaction : Transaction}
    (h : LateAsks transaction) : Uncounted (transaction, slowLine index) = false := by
  rw [slowLine, if_neg (Nat.not_lt.2 hindex)]
  obtain ⟨caller, sendBuf, recv⟩ := transaction
  cases caller with
  | loadpcBsl =>
      obtain rfl : recv = some bslLoadPcRespSize := h.loadpc rfl
      rfl
  | rebootBsl =>
      obtain rfl : recv = none := h.reboot rfl
      rfl
  | _ => rfl

/-- Without the failures that are not counted an update makes boundedly many attempts. -/
theorem updateScfw_returnsWithin {isVck5000 : Bool} {st : UpdateState}
    (h : BetweenUpdates isVck5000 st) (flash : Flash) (hended : st.image.fptScLoc.Ended flash)
    (line : Nat → LineOutcome)
    (hretries : ∀ fuel, uncounted (runSequence line (updateScfw flash isVck5000 fuel st) []).2 ≤
      documentedRetries) :
    ReturnsWithin (attempts st.image.fptScLoc.size.toNat) line flash isVck5000 st := by
  refine ⟨attempts st.image.fptScLoc.size.toNat + 1, fun fuel hfuel => ?_⟩
  have hrun : Prog.Returns lineStep [] (updateScfw flash isVck5000 fuel st)
      (runSequence line (updateScfw flash isVck5000 fuel st) []).1
      (runSequence line (updateScfw flash isVck5000 fuel st) []).2 :=
    Prog.returns_simulate (fun _ _ => rfl) _ _
  have hleft := attemptsLeft_startUpdate h.quiet st.image.fptScLoc.size.toNat
  have hretries := hretries fuel
  rw [attempts] at hfuel ⊢
  obtain ⟨hsome, hle⟩ := ((updateScfw_spent h.counting h.quiet).returns hrun).2 hended
    (by omega) (by omega)
  exact ⟨hsome, by omega⟩

/-- Load-PC fails three times before it is answered. -/
theorem slowLine_returnsWithin :
    ReturnsWithin (attempts 417) slowLine (partitionFlash seamSections) false
      (bootUpdate (bootImage 12)) ∧
    uncounted (runSequence slowLine (updateScfw (partitionFlash seamSections) false 600
      (bootUpdate (bootImage 12))) []).2 = 3 := by
  refine ⟨?_, by decide +kernel⟩
  have hended : (bootImage 12).fptScLoc.Ended (partitionFlash seamSections) :=
    fun _ => by decide +kernel
  exact updateScfw_returnsWithin (.boot (bootImage 12)) (partitionFlash seamSections) hended
    slowLine fun fuel => uncounted_runSequence_le (only_updateScfw ..)
      (fun _ hindex _ hasks => not_uncounted_slowLine hindex hasks) []

end Vmr.Sc
