import Vmr.Sc.Containment
import Vmr.Sc.Ordering

/-!
# How often an update tries

A state that failed five times ends the update, and the sync state does so with
each of its three kinds of reply.  `attemptsLeft` is what the states still ahead
can take in the worst case; every transaction takes one off.  The two states
behind the data are left out of this: a load-PC or reboot request that fails is
not counted and changes nothing, so it is made again for ever.  `uncounted` is
the number of these.
-/

namespace Vmr.Sc

open Vmr.Lib

/-- A failure that neither `loadpc_bsl` nor `reboot_bsl` counts. -/
def Uncounted (entry : Transaction × LineOutcome) : Bool :=
  match entry.1.caller with
  | .loadpcBsl =>
      !(transactionOk entry.1 entry.2 && rcvBufrAfter entry.2 0 == bslLoadPcSuccessResp)
  | .rebootBsl => !transactionOk entry.1 entry.2
  | _ => false

def uncounted (log : LineLog) : Nat := log.countP Uncounted

theorem uncounted_append (log tail : LineLog) :
    uncounted (log ++ tail) = uncounted log + uncounted tail :=
  List.countP_append

namespace UpdateState

variable (st : UpdateState)

def triesLeft (caller : Caller) : Nat := 5 - (st.retryCount caller).toNat

def kindsLeft : Nat :=
  if st.bytesToRcv = scBslSyncedRespSize then 2
  else if st.bytesToRcv = bslUnknownMsgRespSize then 1
  else 0

/-- Two good replies may come before each failure. -/
def syncLeft : Nat :=
  18 * st.kindsLeft + 3 * st.triesLeft .syncScBsl + (3 - st.modeRetryCnt.toNat)

/-- Two transactions for each packet, and a packet takes a byte of the image. -/
def dataTries (size : Nat) : Nat := 2 * size + 2

/-- The tries of the present state and of those ahead. -/
def statesLeft (size : Nat) : Nat :=
  match st.updateState with
  | .scBslSync => st.syncLeft + 20 + dataTries size
  | .scEnableBsl => st.triesLeft .enableScBsl + 15 + dataTries size
  | .bslSynced => st.triesLeft .syncVmcBsl + 10 + dataTries size
  | .bslUnlockPassword => st.triesLeft .unlockBsl + 5 + dataTries size
  | .bslMassErase => st.triesLeft .massEraseBsl + dataTries size
  | .bslDataTx32 => dataTries size
  | _ => 1

def attemptsLeft (size : Nat) : Nat :=
  if st.updateStatus = .inProgress then st.statesLeft size else 0

end UpdateState

/-- The counts are below their limits between two transactions. -/
structure Counting (st : UpdateState) : Prop where
  retry : ∀ caller, (st.retryCount caller).toNat < 5
  mode : st.modeRetryCnt.toNat < 3
  bytes : st.bytesToRcv = scBslSyncedRespSize ∨ st.bytesToRcv = bslUnknownMsgRespSize ∨
    st.bytesToRcv = bslSyncedRespSize

/-- A round from `st` to `st'` with `tail` on the line is paid for. -/
structure Spent (size : Nat) (st st' : UpdateState) (tail : LineLog) : Prop where
  counting : Counting st'
  loc : st'.image.fptScLoc = st.image.fptScLoc
  cost : st'.attemptsLeft size + max 1 tail.length ≤ st.attemptsLeft size + uncounted tail

structure TrySpent (size : Nat) (st st' : UpdateState) : Prop where
  counting : Counting st'
  loc : st'.image.fptScLoc = st.image.fptScLoc
  left : st'.attemptsLeft size + 1 ≤ st.attemptsLeft size

/-! ## The states before the data -/

section Counts

variable {st st' : UpdateState} {size : Nat}

theorem Counting.retain (h : Counting st) (hretry : st'.retryCount = st.retryCount)
    (hmode : st'.modeRetryCnt = st.modeRetryCnt) (hbytes : st'.bytesToRcv = st.bytesToRcv) :
    Counting st' :=
  ⟨hretry ▸ h.retry, hmode ▸ h.mode, hbytes ▸ h.bytes⟩

theorem TrySpent.spent {buffer : Memory} (h : TrySpent size { st with rcvBufr := buffer } st')
    (entry : Transaction × LineOutcome) : Spent size st st' [entry] := by
  have hleft : st'.attemptsLeft size + 1 ≤ st.attemptsLeft size := h.left
  exact ⟨h.counting, h.loc, Nat.le_trans hleft (Nat.le_add_right _ _)⟩

theorem Counting.withRetry (h : Counting st) (caller : Caller) {count : UInt8}
    (hcount : count.toNat < 5) : Counting (st.withRetry caller count) := by
  refine ⟨fun other => ?_, h.mode, h.bytes⟩
  by_cases hother : other = caller
  · simpa [UpdateState.withRetry, hother] using hcount
  · simpa [UpdateState.withRetry, hother] using h.retry other

private theorem Counting.toNat_succ (h : Counting st) (caller : Caller) :
    (st.retryCount caller + 1).toNat = (st.retryCount caller).toNat + 1 := by
  have hlt := h.retry caller
  rw [UInt8.toNat_add]
  simp
  omega

private theorem retry_lt_iff (count : UInt8) :
    count.toNat < 5 ↔ ¬ scUpdateMaxRetryCount ≤ count := by
  rw [UInt8.le_iff_toNat_le, Nat.not_le]
  rfl

private theorem attemptsLeft_over (h : st.updateStatus ≠ .inProgress) : st.attemptsLeft size = 0 :=
  if_neg h

variable (size) in
private theorem attemptsLeft_le (st : UpdateState) : st.attemptsLeft size ≤ st.statesLeft size := by
  rw [UpdateState.attemptsLeft]
  split
  · exact Nat.le_refl _
  · exact Nat.zero_le _

variable (size) in
private theorem attemptsLeft_le_of (state : ScUpdateState) (hstate : st.updateState = state) :
    st.attemptsLeft size ≤ UpdateState.statesLeft { st with updateState := state } size := by
  subst hstate
  exact attemptsLeft_le size st

variable (size) in
private theorem attemptsLeft_of (state : ScUpdateState) (hstate : st.updateState = state)
    (hstatus : st.updateStatus = .inProgress) :
    st.attemptsLeft size = UpdateState.statesLeft { st with updateState := state } size := by
  subst hstate
  exact if_pos hstatus

theorem triesLeft_le (caller : Caller) : st.triesLeft caller ≤ 5 := Nat.sub_le _ _

theorem Counting.giveUp {caller : Caller}
    (hothers : ∀ other, other ≠ caller → (st.retryCount other).toNat < 5)
    (hmode : st.modeRetryCnt.toNat < 3)
    (hbytes : st.bytesToRcv = scBslSyncedRespSize ∨ st.bytesToRcv = bslUnknownMsgRespSize ∨
      st.bytesToRcv = bslSyncedRespSize) (error : ScUpdateError) :
    Counting (st.giveUp caller error) := by
  unfold UpdateState.giveUp
  split
  · refine ⟨fun other => ?_, hmode, hbytes⟩
    by_cases hother : other = caller
    · simp [UpdateState.fail, UpdateState.withRetry, hother]
    · simpa [UpdateState.fail, UpdateState.withRetry, hother] using hothers other hother
  · rename_i hcount
    refine ⟨fun other => ?_, hmode, hbytes⟩
    by_cases hother : other = caller
    · exact hother ▸ (retry_lt_iff _).2 hcount
    · exact hothers other hother

namespace Replied

variable {caller : Caller} {self next : ScUpdateState}

theorem counting (h : Replied caller self next st st') (hst : Counting st)
    (error : ScUpdateError) : Counting (st'.giveUp caller error) := by
  cases h with
  | accepted hstate hretry hmode hbytes =>
      refine .giveUp (fun other hother => ?_) (hmode ▸ hst.mode) (hbytes ▸ hst.bytes) error
      rw [hretry]
      simpa [UpdateState.withRetry, hother] using hst.retry other
  | rejected hstate hretry hmode hbytes =>
      refine .giveUp (fun other hother => ?_) (hmode ▸ hst.mode) (hbytes ▸ hst.bytes) error
      rw [hretry]
      simpa [UpdateState.countRetry, UpdateState.withRetry, hother] using hst.retry other

theorem attemptsLeft (h : Replied caller self next st st') (hst : Counting st) {rest : Nat}
    (hself : ∀ st : UpdateState, st.updateState = self →
      st.attemptsLeft size ≤ st.triesLeft caller + rest)
    (hleft : st.attemptsLeft size = st.triesLeft caller + rest)
    (hnext : ∀ st : UpdateState, st.updateState = next → st.attemptsLeft size ≤ rest)
    (error : ScUpdateError) :
    (st'.giveUp caller error).attemptsLeft size + 1 ≤ st.attemptsLeft size := by
  have htries : 1 ≤ st.triesLeft caller := by
    have hlt := hst.retry caller
    rw [UpdateState.triesLeft]
    omega
  unfold UpdateState.giveUp
  split
  · rw [attemptsLeft_over (by simp [UpdateState.fail])]
    omega
  · rename_i hcount
    cases h with
    | accepted hstate hretry hmode hbytes =>
        have hle := hnext st' hstate
        omega
    | rejected hstate hretry hmode hbytes =>
        have hle := hself st' hstate
        have hone : st'.retryCount caller = st.retryCount caller + 1 := by
          rw [hretry]
          simp [UpdateState.countRetry, UpdateState.withRetry]
        have hlt := (retry_lt_iff _).2 hcount
        rw [UpdateState.triesLeft, hone, hst.toNat_succ caller] at hle
        rw [hone, hst.toNat_succ caller] at hlt
        rw [hleft, UpdateState.triesLeft]
        omega

private theorem trySpent (h : Replied caller self next st st') (hst : Counting st)
    (hloc : st'.image.fptScLoc = st.image.fptScLoc) (rest : Nat)
    (hself : ∀ st : UpdateState, st.updateState = self →
      st.attemptsLeft size ≤ st.triesLeft caller + rest)
    (hleft : st.attemptsLeft size = st.triesLeft caller + rest)
    (hnext : ∀ st : UpdateState, st.updateState = next → st.attemptsLeft size ≤ rest)
    (error : ScUpdateError) : TrySpent size st (st'.giveUp caller error) := by
  refine ⟨h.counting hst error, ?_, h.attemptsLeft hst hself hleft hnext error⟩
  unfold UpdateState.giveUp
  split <;> exact hloc

end Replied

/-! ### The sync state -/

variable (size) in
theorem attemptsLeft_le_of_sync (hstate : st.updateState = .scBslSync) :
    st.attemptsLeft size ≤ st.syncLeft + 20 + UpdateState.dataTries size := by
  have hle := attemptsLeft_le size st
  rwa [UpdateState.statesLeft, hstate] at hle

variable (size) in
private theorem syncRetries_spent {count : Nat} (hstate : st.updateState = .scBslSync)
    (hretry : ∀ caller, caller ≠ .syncScBsl → (st.retryCount caller).toNat < 5)
    (hcount : (st.retryCount .syncScBsl).toNat = count + 1) (hlt : count < 5)
    (hmode : st.modeRetryCnt.toNat < 3)
    (hbytes : st.bytesToRcv = scBslSyncedRespSize ∨ st.bytesToRcv = bslUnknownMsgRespSize ∨
      st.bytesToRcv = bslSyncedRespSize) :
    Counting (syncRetries st) ∧ (syncRetries st).image = st.image ∧
      (syncRetries st).attemptsLeft size ≤
        18 * st.kindsLeft + 3 * (4 - count) + (3 - st.modeRetryCnt.toNat) + 20 +
          UpdateState.dataTries size := by
  have hreset (st' : UpdateState)
      (heq : st'.retryCount = (st.withRetry .syncScBsl 0).retryCount) (caller : Caller) :
      (st'.retryCount caller).toNat < 5 := by
    rw [heq]
    by_cases hcaller : caller = .syncScBsl
    · simp [UpdateState.withRetry, hcaller]
    · simpa [UpdateState.withRetry, hcaller] using hretry caller hcaller
  by_cases hmax : scUpdateMaxRetryCount ≤ st.retryCount .syncScBsl
  · have hfive : count = 4 := by
      have hge := mt (retry_lt_iff _).1 (not_not.2 hmax)
      omega
    have hspent (bytes : Nat) (hkind : bytes = bslUnknownMsgRespSize ∧ st.kindsLeft = 2 ∨
        bytes = bslSyncedRespSize ∧ st.kindsLeft = 1) :
        let spent := { st.withRetry .syncScBsl 0 with modeRetryCnt := 0, bytesToRcv := bytes }
        spent.attemptsLeft size ≤ 18 * st.kindsLeft + 20 + UpdateState.dataTries size := by
      intro spent
      have hle : spent.attemptsLeft size ≤ spent.syncLeft + 20 + UpdateState.dataTries size :=
        attemptsLeft_le_of_sync size hstate
      have hsync : spent.syncLeft = 18 * spent.kindsLeft + 18 := by
        simp [UpdateState.syncLeft, UpdateState.triesLeft, UpdateState.withRetry, spent]
      rcases hkind with ⟨rfl, hkinds⟩ | ⟨rfl, hkinds⟩
      · have hone : spent.kindsLeft = 1 := rfl
        omega
      · have hzero : spent.kindsLeft = 0 := rfl
        omega
    rcases hbytes with hbytes | hbytes | hbytes
    · have hkinds : st.kindsLeft = 2 := by rw [UpdateState.kindsLeft, if_pos hbytes]
      have hle := hspent bslUnknownMsgRespSize (.inl ⟨rfl, hkinds⟩)
      have hother : st.bytesToRcv ≠ bslSyncedRespSize := by rw [hbytes]; decide
      rw [syncRetries, if_pos hmax]
      simp only
      rw [if_neg hother, if_pos hbytes]
      exact ⟨⟨hreset _ rfl, Nat.zero_lt_succ _, .inr (.inl rfl)⟩, rfl,
        Nat.le_trans hle (by omega)⟩
    · have hother : st.bytesToRcv ≠ bslSyncedRespSize ∧
          st.bytesToRcv ≠ scBslSyncedRespSize := by rw [hbytes]; decide
      have hkinds : st.kindsLeft = 1 := by
        rw [UpdateState.kindsLeft, if_neg hother.2, if_pos hbytes]
      have hle := hspent bslSyncedRespSize (.inr ⟨rfl, hkinds⟩)
      rw [syncRetries, if_pos hmax]
      simp only
      rw [if_neg hother.1, if_neg hother.2, if_pos hbytes]
      exact ⟨⟨hreset _ rfl, Nat.zero_lt_succ _, .inr (.inr rfl)⟩, rfl,
        Nat.le_trans hle (by omega)⟩
    · rw [syncRetries, if_pos hmax]
      simp only
      rw [if_pos hbytes]
      refine ⟨⟨hreset _ rfl, Nat.zero_lt_succ _, .inl rfl⟩, rfl, ?_⟩
      rw [attemptsLeft_over (by simp [UpdateState.fail])]
      exact Nat.zero_le _
  · rw [syncRetries, if_neg hmax]
    refine ⟨⟨fun caller => ?_, hmode, hbytes⟩, rfl, ?_⟩
    · by_cases hcaller : caller = .syncScBsl
      · exact hcaller ▸ (retry_lt_iff _).2 hmax
      · exact hretry caller hcaller
    · have hle := attemptsLeft_le_of_sync size hstate
      rw [UpdateState.syncLeft, UpdateState.triesLeft, hcount] at hle
      omega

theorem syncRetries_idle (h : (st.retryCount .syncScBsl).toNat < 5) : syncRetries st = st := by
  rw [syncRetries, if_neg ((retry_lt_iff _).1 h)]

variable (size) in
private theorem attemptsLeft_sync (hstatus : st.updateStatus = .inProgress)
    (hstate : st.updateState = .scBslSync) :
    st.attemptsLeft size = st.syncLeft + 20 + UpdateState.dataTries size := by
  rw [UpdateState.attemptsLeft, if_pos hstatus, UpdateState.statesLeft, hstate]

private theorem syncCounted_spent (h : Counting st) (hstatus : st.updateStatus = .inProgress)
    (hstate : st.updateState = .scBslSync) {mode : UInt8}
    (hmode : mode = st.modeRetryCnt ∨ mode = 0) {counted : UpdateState}
    (hcounted : counted = { st.countRetry .syncScBsl with modeRetryCnt := mode }) :
    TrySpent size st (syncRetries counted) := by
  have hretry := h.retry .syncScBsl
  have hlt := h.mode
  have hmode' : mode.toNat < 3 := by
    rcases hmode with rfl | rfl
    · exact hlt
    · decide
  have hcount : (counted.retryCount .syncScBsl).toNat = (st.retryCount .syncScBsl).toNat + 1 := by
    rw [hcounted, ← h.toNat_succ]
    simp [UpdateState.countRetry, UpdateState.withRetry]
  have hothers (caller : Caller) (hcaller : caller ≠ .syncScBsl) :
      (counted.retryCount caller).toNat < 5 := by
    rw [hcounted]
    simpa [UpdateState.countRetry, UpdateState.withRetry, hcaller] using h.retry caller
  obtain ⟨hcounting, himage, hle⟩ := syncRetries_spent size (hcounted ▸ hstate) hothers
    hcount hretry (hcounted ▸ hmode') (hcounted ▸ h.bytes)
  have hkinds : counted.kindsLeft = st.kindsLeft := by rw [hcounted]; rfl
  have hmodes : counted.modeRetryCnt = mode := by rw [hcounted]
  refine ⟨hcounting, by rw [himage, hcounted]; rfl, ?_⟩
  rw [attemptsLeft_sync size hstatus hstate, UpdateState.syncLeft, UpdateState.triesLeft]
  rw [hkinds, hmodes] at hle
  omega

private theorem syncedReply_spent (h : Counting st) (hstatus : st.updateStatus = .inProgress)
    (hstate : st.updateState = .scBslSync) : TrySpent size st (syncRetries (syncedReply st)) := by
  have hretry := h.retry .syncScBsl
  have hlt := h.mode
  have hmode : (st.modeRetryCnt + 1).toNat = st.modeRetryCnt.toNat + 1 := by
    rw [UInt8.toNat_add]
    simp
    omega
  have hleft := attemptsLeft_sync size hstatus hstate
  rw [UpdateState.syncLeft, UpdateState.triesLeft] at hleft
  unfold syncedReply
  simp only
  split
  · let synced : UpdateState := { st.withRetry .syncScBsl 0 with
      modeRetryCnt := 0, updateState := .bslUnlockPassword, bytesToRcv := scBslSyncedRespSize }
    have hidle : syncRetries synced = synced :=
      syncRetries_idle (by simp [synced, UpdateState.withRetry])
    have hnext : synced.attemptsLeft size ≤ 10 + UpdateState.dataTries size := by
      have hle : synced.attemptsLeft size ≤
          synced.triesLeft .unlockBsl + 5 + UpdateState.dataTries size :=
        attemptsLeft_le size synced
      have htries := @triesLeft_le synced .unlockBsl
      omega
    change TrySpent size st (syncRetries synced)
    rw [hidle]
    refine ⟨⟨(h.withRetry .syncScBsl (by decide)).retry, Nat.zero_lt_succ _, .inl rfl⟩, rfl, ?_⟩
    omega
  · rename_i hmore
    have hmore' : st.modeRetryCnt.toNat + 1 < 3 := by
      rw [UInt8.le_iff_toNat_le, Nat.not_le, hmode] at hmore
      exact hmore
    let more := { st with modeRetryCnt := st.modeRetryCnt + 1 }
    have hidle : syncRetries more = more := syncRetries_idle hretry
    change TrySpent size st (syncRetries more)
    rw [hidle]
    refine ⟨⟨h.retry, by rw [hmode]; exact hmore', h.bytes⟩, rfl, ?_⟩
    have hle : more.attemptsLeft size ≤ more.syncLeft + 20 + UpdateState.dataTries size :=
      attemptsLeft_le_of_sync size hstate
    have hsync : more.syncLeft = 18 * st.kindsLeft +
        3 * (5 - (st.retryCount .syncScBsl).toNat) + (3 - (st.modeRetryCnt + 1).toNat) := rfl
    rw [hmode] at hsync
    omega

variable (size) in
private theorem sync_spent (h : Counting st) (hstatus : st.updateStatus = .inProgress)
    (hstate : st.updateState = .scBslSync) (ok : Bool) :
    TrySpent size st
      (syncRetries (if ok = true then syncReply st else st.countRetry .syncScBsl)) := by
  cases ok with
  | false => exact syncCounted_spent h hstatus hstate (.inl rfl) rfl
  | true =>
      rw [if_pos rfl]
      unfold syncReply
      split
      · let running : UpdateState := { st.withRetry .syncScBsl 0 with
          modeRetryCnt := 0, updateState := .scEnableBsl }
        have hidle : syncRetries running = running :=
          syncRetries_idle (by simp [running, UpdateState.withRetry])
        have hle : running.attemptsLeft size ≤
            running.triesLeft .enableScBsl + 15 + UpdateState.dataTries size :=
          attemptsLeft_le size running
        have htries := @triesLeft_le running .enableScBsl
        have hretry := h.retry .syncScBsl
        have hleft := attemptsLeft_sync size hstatus hstate
        rw [UpdateState.syncLeft, UpdateState.triesLeft] at hleft
        change TrySpent size st (syncRetries running)
        rw [hidle]
        refine ⟨⟨(h.withRetry .syncScBsl (by decide)).retry, Nat.zero_lt_succ _, h.bytes⟩, rfl, ?_⟩
        omega
      · split
        · exact syncedReply_spent h hstatus hstate
        · split
          · exact syncedReply_spent h hstatus hstate
          · refine syncCounted_spent h hstatus hstate (.inr rfl) ?_
            rw [← hstate]
            rfl

end Counts

/-! ## The rounds -/

section Rounds

variable {flash : Flash} {fuel : Nat} {isVck5000 : Bool} {st : UpdateState} {log : LineLog}
  {size : Nat}

variable (size) in
def OneSpent (st : UpdateState) (log : LineLog) (st' : UpdateState) (log' : LineLog) : Prop :=
  ∃ entry, log' = log ++ [entry] ∧ Spent size st st' [entry]

private theorem syncScBsl_spent (h : Counting st) (hstatus : st.updateStatus = .inProgress)
    (hstate : st.updateState = .scBslSync) :
    Prog.Safe lineStep anyState (OneSpent size st log) (syncScBsl st) log := by
  apply safe_transaction
  intro outcome
  let received : UpdateState := { st with rcvBufr := rcvBufrAfter outcome }
  have hreceived : Counting received := h.retain rfl rfl rfl
  exact ⟨_, rfl, (sync_spent size hreceived hstatus hstate _).spent _⟩

private theorem replied_spent (h : Counting st) {caller : Caller} {self next : ScUpdateState}
    (hstate : st.updateState = self) (rest : Nat)
    (hself : ∀ st : UpdateState, st.updateState = self →
      st.attemptsLeft size ≤ st.triesLeft caller + rest)
    (hleft : st.attemptsLeft size = st.triesLeft caller + rest)
    (hnext : ∀ st : UpdateState, st.updateState = next → st.attemptsLeft size ≤ rest)
    {sendBuf : List UInt8} {recv : Option Nat} {reply : Bool → UpdateState → UpdateState}
    (hreplied : ∀ received : UpdateState, received.updateState = self → ∀ ok,
      Replied caller self next received (reply ok received))
    (hloc : ∀ received ok, (reply ok received).image.fptScLoc = received.image.fptScLoc)
    (error : ScUpdateError) :
    Prog.Safe lineStep anyState (OneSpent size st log)
      (doUartTransaction caller sendBuf recv st >>= fun result =>
        pure ((reply result.1 result.2).giveUp caller error)) log := by
  apply safe_transaction
  intro outcome
  let received : UpdateState := { st with rcvBufr := rcvBufrAfter outcome }
  have hreceived : Counting received := h.retain rfl rfl rfl
  exact ⟨_, rfl, ((hreplied received hstate _).trySpent hreceived (hloc received _) rest hself
    hleft hnext error).spent _⟩

private theorem enableScBsl_spent (h : Counting st) (hstatus : st.updateStatus = .inProgress)
    (hstate : st.updateState = .scEnableBsl) :
    Prog.Safe lineStep anyState (OneSpent size st log) (enableScBsl st) log := by
  refine replied_spent h hstate (15 + UpdateState.dataTries size) ?_ ?_ ?_ enableReply_replied ?_ _
  · intro st hstate
    exact (attemptsLeft_le_of size _ hstate).trans_eq (Nat.add_assoc _ _ _)
  · exact (attemptsLeft_of size _ hstate hstatus).trans (Nat.add_assoc _ _ _)
  · intro st hstate
    have hle : st.attemptsLeft size ≤
        st.triesLeft .syncVmcBsl + 10 + UpdateState.dataTries size :=
      attemptsLeft_le_of size _ hstate
    have htries := @triesLeft_le st .syncVmcBsl
    omega
  · intro received ok
    unfold enableReply
    split
    · split <;> rfl
    · rfl

private theorem syncVmcBsl_spent (h : Counting st) (hstatus : st.updateStatus = .inProgress)
    (hstate : st.updateState = .bslSynced) :
    Prog.Safe lineStep anyState (OneSpent size st log) (syncVmcBsl isVck5000 st) log := by
  refine replied_spent h hstate (10 + UpdateState.dataTries size) ?_ ?_ ?_ vmcSyncReply_replied ?_ _
  · intro st hstate
    exact (attemptsLeft_le_of size _ hstate).trans_eq (Nat.add_assoc _ _ _)
  · exact (attemptsLeft_of size _ hstate hstatus).trans (Nat.add_assoc _ _ _)
  · intro st hstate
    have hle : st.attemptsLeft size ≤
        st.triesLeft .unlockBsl + 5 + UpdateState.dataTries size :=
      attemptsLeft_le_of size _ hstate
    have htries := @triesLeft_le st .unlockBsl
    omega
  · intro received ok
    unfold vmcSyncReply
    split
    · split <;> rfl
    · rfl

private theorem bslReply_replied (caller : Caller) (self next : ScUpdateState) (respSize : Nat)
    (st : UpdateState) (h : st.updateState = self) (ok : Bool) :
    Replied caller self next st
      (if ok = true then
        if vmcValidateBslResp st.rcvBufr respSize = true ∧
            st.rcvBufr bslRespCmdOffset = bslRespCmdChar ∧
            st.rcvBufr bslRespMsgOffset = bslRespMsgChar then
          { st.withRetry caller 0 with updateState := next }
        else { st.countRetry caller with updateState := self }
      else st.countRetry caller) := by
  split
  · split
    · exact .accepted rfl rfl rfl rfl
    · exact .rejected rfl rfl rfl rfl
  · exact .rejected h rfl rfl rfl

private theorem bslCommand_spent (h : Counting st) {caller : Caller} {self next : ScUpdateState}
    (hstate : st.updateState = self) (rest : Nat)
    (hself : ∀ st : UpdateState, st.updateState = self →
      st.attemptsLeft size ≤ st.triesLeft caller + rest)
    (hleft : st.attemptsLeft size = st.triesLeft caller + rest)
    (hnext : ∀ st : UpdateState, st.updateState = next → st.attemptsLeft size ≤ rest)
    (request : List UInt8) (respSize : Nat) (error : ScUpdateError) :
    Prog.Safe lineStep anyState (OneSpent size st log)
      (bslCommand caller request respSize self next error st) log := by
  refine replied_spent h hstate rest hself hleft hnext
    (bslReply_replied caller self next respSize) ?_ error
  intro received ok
  dsimp only
  split
  · split <;> rfl
  · rfl

private theorem unlockBsl_spent (h : Counting st) (hstatus : st.updateStatus = .inProgress)
    (hstate : st.updateState = .bslUnlockPassword) :
    Prog.Safe lineStep anyState (OneSpent size st log) (unlockBsl st) log := by
  refine bslCommand_spent h hstate (5 + UpdateState.dataTries size) ?_ ?_ ?_ _ _ _
  · intro st hstate
    exact (attemptsLeft_le_of size _ hstate).trans_eq (Nat.add_assoc _ _ _)
  · exact (attemptsLeft_of size _ hstate hstatus).trans (Nat.add_assoc _ _ _)
  · intro st hstate
    have hle : st.attemptsLeft size ≤
        st.triesLeft .massEraseBsl + UpdateState.dataTries size :=
      attemptsLeft_le_of size _ hstate
    have htries := @triesLeft_le st .massEraseBsl
    omega

private theorem massEraseBsl_spent (h : Counting st) (hstatus : st.updateStatus = .inProgress)
    (hstate : st.updateState = .bslMassErase) :
    Prog.Safe lineStep anyState (OneSpent size st log) (massEraseBsl st) log :=
  bslCommand_spent h hstate (UpdateState.dataTries size)
    (fun _ hstate => attemptsLeft_le_of size _ hstate) (attemptsLeft_of size _ hstate hstatus)
    (fun _ hstate => attemptsLeft_le_of size .bslDataTx32 hstate) _ _ _

/-! ### The data -/

structure DataKept (st st' : UpdateState) : Prop where
  statics : SameStatics st st'
  loc : st'.image.fptScLoc = st.image.fptScLoc

theorem DataKept.trans {st' st'' : UpdateState} (h : DataKept st st') (h' : DataKept st' st'') :
    DataKept st st'' :=
  ⟨⟨h'.statics.retry.trans h.statics.retry, h'.statics.mode.trans h.statics.mode,
    h'.statics.bytes.trans h.statics.bytes⟩, h'.loc.trans h.loc⟩

private theorem matchcrcPostwrite_spent (writeAddr : UInt32) (st : UpdateState) (log : LineLog) :
    Prog.Safe lineStep anyState
      (fun result log' => (SameStatics st result.2 ∧ result.2.image = st.image) ∧
        ∃ entry, log' = log ++ [entry] ∧ uncounted [entry] = 0)
      (matchcrcPostwrite writeAddr st) log := by
  apply safe_transaction
  intro outcome
  simp only [Prog.pure_eq]
  split
  · split <;> exact ⟨⟨⟨rfl, rfl, rfl⟩, rfl⟩, _, rfl, rfl⟩
  · exact ⟨⟨⟨rfl, rfl, rfl⟩, rfl⟩, _, rfl, rfl⟩

/-- What the rounds of the data loop leave; `text` is only needed for their number. -/
structure PacketsSpent (text left : List UInt8) (fuel rounds : Nat) (st : UpdateState)
    (result : Option UpdateState) (tail : LineLog) : Prop where
  counted : uncounted tail = 0
  kept : ∀ st', result = some st' → DataKept st st'
  bounded : ∀ rest, Resumes text left st.image.parser rest → rest.length < fuel →
    rest.length < rounds → result ≠ none ∧ tail.length ≤ 2 * rest.length

theorem PacketsSpent.cons {text left : List UInt8} {rounds : Nat} {st' : UpdateState}
    {parser : ParserState} {result : Option UpdateState} {entries tail : LineLog}
    (h : PacketsSpent text left fuel rounds st' result tail)
    (hholds : Holds flash st.image.fptScLoc.text text)
    (hsent : st.image.parser.allPktSent = false)
    (hnext : nextPacket flash st.image.fptScLoc.text fuel st.image.parser = some parser)
    (hparser : st'.image.parser = parser) (hkept : DataKept st st')
    (hcounted : uncounted entries = 0) (hlength : entries.length ≤ 2) :
    PacketsSpent text left fuel (rounds + 1) st result (entries ++ tail) := by
  refine ⟨?_, fun st'' hresult => hkept.trans (h.kept st'' hresult), ?_⟩
  · rw [uncounted_append, hcounted, h.counted]
  · intro rest hrest hfuel hrounds
    obtain ⟨st₁, ⟨rest', hrest', hlt⟩, hrun⟩ := nextPacket_leftover st.image.fptScLoc.text rest
      st.image.parser hrest.at_rest hsent (hrest.more hsent)
    obtain rfl : parser = st₁ :=
      Option.some.inj (hnext.symm.trans (hrun flash hholds fuel hfuel))
    obtain ⟨hsome, hle⟩ := h.bounded rest' (hparser ▸ hrest') (by omega) (by omega)
    exact ⟨hsome, by rw [List.length_append]; omega⟩

theorem PacketsSpent.last {text left : List UInt8} {rounds : Nat} {st' : UpdateState}
    {tail : LineLog} (hsent : st.image.parser.allPktSent = false) (hkept : DataKept st st')
    (hcounted : uncounted tail = 0) (hlength : tail.length ≤ 2) :
    PacketsSpent text left fuel rounds st (some st') tail := by
  refine ⟨hcounted, fun st'' hresult => Option.some.inj hresult ▸ hkept, ?_⟩
  intro rest hrest _ _
  have hne := leftover_ne_nil (hrest.more hsent)
  have hpos := List.length_pos_iff.2 hne
  exact ⟨Option.some_ne_none _, by omega⟩

private theorem sendPackets_spent (text left : List UInt8) (rounds : Nat) (st : UpdateState)
    (log : LineLog) (hholds : Holds flash st.image.fptScLoc.text text) :
    Prog.Safe lineStep anyState
      (fun result log' => ∃ tail, log' = log ++ tail ∧
        PacketsSpent text left fuel rounds st result tail)
      (sendPackets flash fuel rounds st) log := by
  induction rounds generalizing st log with
  | zero =>
      exact ⟨[], by simp, rfl, by simp, fun rest _ _ hrounds => absurd hrounds (Nat.not_lt_zero _)⟩
  | succ rounds ih =>
      rw [sendPackets]
      by_cases hsent : st.image.parser.allPktSent = true
      · rw [if_pos hsent]
        exact ⟨[], by simp, rfl, fun st' hresult => Option.some.inj hresult ▸
          ⟨⟨rfl, rfl, rfl⟩, rfl⟩, fun _ _ _ _ => ⟨Option.some_ne_none _, Nat.zero_le _⟩⟩
      · rw [if_neg hsent]
        have hmore : st.image.parser.allPktSent = false := by simpa using hsent
        cases hnext : nextPacket flash st.image.fptScLoc.text fuel st.image.parser with
        | none =>
            refine ⟨[], by simp, rfl, by simp, fun rest hrest hfuel _ => ?_⟩
            obtain ⟨st', -, hrun⟩ := nextPacket_leftover st.image.fptScLoc.text rest
              st.image.parser hrest.at_rest hmore (hrest.more hmore)
            have hparsed : nextPacket flash st.image.fptScLoc.text fuel st.image.parser = some st' :=
              hrun flash hholds fuel hfuel
            simp [hparsed] at hnext
        | some parser =>
            have further (st' : UpdateState) (entries : LineLog) (hparser : st'.image.parser = parser)
                (hkept : DataKept st st') (hcounted : uncounted entries = 0)
                (hlength : entries.length ≤ 2) :
                Prog.Safe lineStep anyState (fun result log' => ∃ tail, log' = log ++ tail ∧
                    PacketsSpent text left fuel (rounds + 1) st result tail)
                  (sendPackets flash fuel rounds st') (log ++ entries) := by
              refine (ih st' (log ++ entries) (hkept.loc ▸ hholds)).weaken ?_
              rintro result _ ⟨tail, rfl, hspent⟩
              exact ⟨entries ++ tail, List.append_assoc .., hspent.cons hholds hmore hnext hparser
                hkept hcounted hlength⟩
            apply safe_transaction
            intro outcome
            simp only
            split
            · split
              · refine (matchcrcPostwrite_spent _ _ _).bind ?_
                rintro ⟨matched, st₂⟩ _ ⟨⟨hsame, himage⟩, entry, rfl, hcounted⟩
                have himage' : st₂.image = { st.image with parser } := himage
                have hkept : DataKept st st₂ :=
                  ⟨⟨hsame.retry, hsame.mode, hsame.bytes⟩, by rw [himage']⟩
                have hparser : st₂.image.parser = parser := by rw [himage']
                rw [List.append_assoc]
                simp only
                split
                · exact further st₂ _ hparser hkept (by rw [uncounted_append, hcounted]; rfl)
                    (by simp)
                · exact ⟨_, rfl, .last hmore
                    ⟨⟨hsame.retry, hsame.mode, hsame.bytes⟩, hkept.loc⟩
                    (by rw [uncounted_append, hcounted]; rfl) (by simp)⟩
              · exact ⟨_, rfl, .last hmore ⟨⟨rfl, rfl, rfl⟩, rfl⟩ rfl (by simp)⟩
            · exact further _ _ rfl ⟨⟨rfl, rfl, rfl⟩, rfl⟩ rfl (by simp)

private theorem afterData_kept (isVck5000 : Bool) (st : UpdateState) :
    DataKept st (afterData isVck5000 st) := by
  unfold afterData
  simp only
  split
  · exact ⟨⟨rfl, rfl, rfl⟩, rfl⟩
  · split <;> exact ⟨⟨rfl, rfl, rfl⟩, rfl⟩

private theorem afterData_left (isVck5000 : Bool) (st : UpdateState) :
    (afterData isVck5000 st).attemptsLeft size ≤ 1 := by
  refine Nat.le_trans (attemptsLeft_le size _) (Nat.le_of_eq ?_)
  unfold afterData
  simp only
  split
  · rfl
  · split <;> rfl

/-- If the image starts with a section, the parser meets its last byte inside. -/
def EfptSc.Ended (fpt : EfptSc) (flash : Flash) : Prop :=
  flash fpt.text = sectionStart → leftover parsePlace (.atAddress true) (fpt.image flash) ≠ none

structure RoundSpent (flash : Flash) (fuel : Nat) (st : UpdateState)
    (result : Option UpdateState) (tail : LineLog) : Prop where
  kept : ∀ st', result = some st' → Counting st' ∧ st'.image.fptScLoc = st.image.fptScLoc
  bounded : st.image.fptScLoc.Ended flash → st.image.fptScLoc.size.toNat < fuel →
    ∃ st', result = some st' ∧ Spent st.image.fptScLoc.size.toNat st st' tail

theorem Spent.round {st' : UpdateState} {tail : LineLog}
    (h : Spent st.image.fptScLoc.size.toNat st st' tail) :
    RoundSpent flash fuel st (some st') tail :=
  ⟨fun _ hresult => Option.some.inj hresult ▸ ⟨h.counting, h.loc⟩, fun _ _ => ⟨st', rfl, h⟩⟩

private theorem sendDataToBsl_spent (h : Counting st) (hstatus : st.updateStatus = .inProgress)
    (hstate : st.updateState = .bslDataTx32) :
    Prog.Safe lineStep anyState
      (fun result log' => ∃ tail, log' = log ++ tail ∧ RoundSpent flash fuel st result tail)
      (sendDataToBsl flash fuel isVck5000 st) log := by
  have hleft : st.attemptsLeft st.image.fptScLoc.size.toNat =
      2 * st.image.fptScLoc.size.toNat + 2 := attemptsLeft_of _ _ hstate hstatus
  rw [sendDataToBsl]
  simp only
  split
  · refine ⟨[], by simp, Spent.round ⟨h.retain rfl rfl rfl, rfl, ?_⟩⟩
    rw [attemptsLeft_over (by simp [UpdateState.fail]), hleft]
    simp
    omega
  · rename_i hstart
    rw [ne_eq, not_not] at hstart
    let text := st.image.fptScLoc.image flash
    have hholds : Holds flash st.image.fptScLoc.text text := by
      intro index hindex
      simp [text, EfptSc.image, bytesAt]
    refine Prog.Safe.bind (sendPackets_spent text
      ((leftover parsePlace (.atAddress true) text).getD []) fuel _ log hholds) ?_
    rintro result _ ⟨tail, rfl, hspent⟩
    refine ⟨tail, rfl, fun st' hresult => ?_, fun hended hfuel => ?_⟩
    · obtain ⟨st₁, rfl, rfl⟩ := Option.map_eq_some_iff.1 hresult
      have hkept := (hspent.kept st₁ rfl).trans (afterData_kept isVck5000 st₁)
      exact ⟨h.retain hkept.statics.retry hkept.statics.mode hkept.statics.bytes, hkept.loc⟩
    · obtain ⟨left, hends⟩ := Option.ne_none_iff_exists'.1 (hended hstart)
      have hlength : text.length = st.image.fptScLoc.size.toNat := by simp [text, EfptSc.image]
      obtain ⟨hsome, hle⟩ := hspent.bounded text
        ⟨.start, fun hdone => by simp at hdone, fun _ => by simp [text, hends]⟩
        (by omega) (by omega)
      obtain ⟨st₁, rfl⟩ := Option.ne_none_iff_exists'.1 hsome
      have hkept := (hspent.kept st₁ rfl).trans (afterData_kept isVck5000 st₁)
      have hafter := @afterData_left st.image.fptScLoc.size.toNat isVck5000 st₁
      refine ⟨_, rfl, h.retain hkept.statics.retry hkept.statics.mode hkept.statics.bytes,
        hkept.loc, ?_⟩
      rw [hleft]
      omega

/-! ### Behind the data -/

theorem OneSpent.done {st' : UpdateState} {entry : Transaction × LineOutcome}
    (hleft : st.attemptsLeft size = 1) (hcounting : Counting st')
    (hloc : st'.image.fptScLoc = st.image.fptScLoc) (hover : st'.updateStatus ≠ .inProgress) :
    OneSpent size st log st' (log ++ [entry]) := by
  refine ⟨entry, rfl, hcounting, hloc, ?_⟩
  rw [attemptsLeft_over hover, hleft]
  exact Nat.le_add_right _ _

private theorem OneSpent.again {st' : UpdateState} {entry : Transaction × LineOutcome}
    (hcounting : Counting st') (hloc : st'.image.fptScLoc = st.image.fptScLoc)
    (hleft : st'.attemptsLeft size = st.attemptsLeft size) (hfailed : Uncounted entry = true) :
    OneSpent size st log st' (log ++ [entry]) := by
  have hone : uncounted [entry] = 1 := by
    rw [uncounted, List.countP_singleton, if_pos hfailed]
  refine ⟨entry, rfl, hcounting, hloc, ?_⟩
  rw [hleft, hone]
  exact Nat.le_refl _

private theorem loadpcBsl_spent (h : Counting st) (hstatus : st.updateStatus = .inProgress)
    (hstate : st.updateState = .bslLoadPc32) :
    Prog.Safe lineStep anyState (OneSpent size st log) (loadpcBsl st) log := by
  have hleft : st.attemptsLeft size = 1 := attemptsLeft_of size _ hstate hstatus
  apply safe_transaction
  intro outcome
  simp only
  split
  · exact .done hleft (h.retain rfl rfl rfl) rfl (by simp)
  · rename_i hfailed
    exact .again (h.retain rfl rfl rfl) rfl rfl
      (by simpa [Uncounted, imp_iff_not_or] using hfailed)

private theorem rebootBsl_spent (h : Counting st) (hstatus : st.updateStatus = .inProgress)
    (hstate : st.updateState = .bslRebootReset) :
    Prog.Safe lineStep anyState (OneSpent size st log) (rebootBsl st) log := by
  have hleft : st.attemptsLeft size = 1 := attemptsLeft_of size _ hstate hstatus
  apply safe_transaction
  intro outcome
  simp only
  split
  · exact .done hleft (h.retain rfl rfl rfl) rfl (by simp)
  · rename_i hfailed
    exact .again (h.retain rfl rfl rfl) rfl rfl (by simpa [Uncounted] using hfailed)

/-! ### Any round -/

theorem OneSpent.round {p : LineProg UpdateState}
    (h : Prog.Safe lineStep anyState (OneSpent st.image.fptScLoc.size.toNat st log) p log) :
    Prog.Safe lineStep anyState
      (fun result log' => ∃ tail, log' = log ++ tail ∧ RoundSpent flash fuel st result tail)
      (some <$> p) log :=
  safe_some (h.weaken fun _ _ ⟨entry, hlog, hspent⟩ => ⟨[entry], hlog, hspent.round⟩)

private theorem updateRound_spent (h : Counting st) (hstatus : st.updateStatus = .inProgress) :
    Prog.Safe lineStep anyState
      (fun result log' => ∃ tail, log' = log ++ tail ∧ RoundSpent flash fuel st result tail)
      (updateRound flash isVck5000 fuel st) log := by
  cases hstate : st.updateState <;> simp only [updateRound, hstate]
  case scBslSync => exact OneSpent.round (syncScBsl_spent h hstatus hstate)
  case scEnableBsl => exact OneSpent.round (enableScBsl_spent h hstatus hstate)
  case bslSynced => exact OneSpent.round (syncVmcBsl_spent h hstatus hstate)
  case bslUnlockPassword => exact OneSpent.round (unlockBsl_spent h hstatus hstate)
  case bslMassErase => exact OneSpent.round (massEraseBsl_spent h hstatus hstate)
  case bslDataTx32 => exact sendDataToBsl_spent h hstatus hstate
  case bslLoadPc32 => exact OneSpent.round (loadpcBsl_spent h hstatus hstate)
  case bslRebootReset => exact OneSpent.round (rebootBsl_spent h hstatus hstate)
  all_goals
    refine ⟨[], by simp, Spent.round ⟨h.retain rfl rfl rfl, rfl, ?_⟩⟩
    rw [attemptsLeft_over (by simp), attemptsLeft_of _ _ hstate hstatus]
    exact Nat.le_refl 1

structure LoopSpent (flash : Flash) (fuel rounds : Nat) (st : UpdateState)
    (result : Option UpdateState) (tail : LineLog) : Prop where
  kept : ∀ st', result = some st' → Counting st' ∧ st'.image.fptScLoc = st.image.fptScLoc
  bounded : st.image.fptScLoc.Ended flash → st.image.fptScLoc.size.toNat < fuel →
    st.attemptsLeft st.image.fptScLoc.size.toNat + uncounted tail < rounds →
    result ≠ none ∧
      tail.length ≤ st.attemptsLeft st.image.fptScLoc.size.toNat + uncounted tail

private theorem updateLoop_spent (rounds : Nat) (h : Counting st) :
    Prog.Safe lineStep anyState
      (fun result log' => ∃ tail, log' = log ++ tail ∧ LoopSpent flash fuel rounds st result tail)
      (updateLoop flash isVck5000 fuel rounds st) log := by
  induction rounds generalizing st log with
  | zero => exact ⟨[], by simp, by simp, fun _ _ hrounds => absurd hrounds (Nat.not_lt_zero _)⟩
  | succ rounds ih =>
      rw [updateLoop]
      split
      · rename_i hstatus
        refine (updateRound_spent h hstatus).bind ?_
        rintro (_ | st₁) _ ⟨tail, rfl, hkept, hbounded⟩
        · refine ⟨tail, rfl, by simp, fun hended hfuel _ => ?_⟩
          obtain ⟨st', hresult, -⟩ := hbounded hended hfuel
          cases hresult
        · obtain ⟨hcounting, hloc⟩ := hkept st₁ rfl
          refine (ih hcounting).weaken ?_
          rintro result _ ⟨tail', rfl, hkept', hbounded'⟩
          refine ⟨tail ++ tail', List.append_assoc .., fun st' hresult => ?_, ?_⟩
          · obtain ⟨hcounting', hloc'⟩ := hkept' st' hresult
            exact ⟨hcounting', hloc'.trans hloc⟩
          · intro hended hfuel hrounds
            obtain ⟨st', hresult, hspent⟩ := hbounded hended hfuel
            obtain rfl := Option.some.inj hresult
            have hcost := hspent.cost
            rw [uncounted_append] at hrounds
            rw [hloc] at hbounded'
            obtain ⟨hsome, hle⟩ := hbounded' hended hfuel (by omega)
            refine ⟨hsome, ?_⟩
            rw [uncounted_append, List.length_append]
            omega
      · refine ⟨[], by simp, fun st' hresult => Option.some.inj hresult ▸ ⟨h, rfl⟩, fun _ _ _ => ?_⟩
        exact ⟨Option.some_ne_none _, Nat.zero_le _⟩

/-- What is left of one update, and of those before it the counts. -/
theorem updateScfw_spent (h : Counting st) (hquiet : Quiet st) :
    Prog.Safe lineStep anyState
      (fun result log => (∀ error st', result = some (error, st') → Counting st') ∧
        (st.image.fptScLoc.Ended flash → st.image.fptScLoc.size.toNat < fuel →
          (startUpdate st).attemptsLeft st.image.fptScLoc.size.toNat + uncounted log < fuel →
          result ≠ none ∧ log.length ≤
            (startUpdate st).attemptsLeft st.image.fptScLoc.size.toNat + uncounted log))
      (updateScfw flash isVck5000 fuel st) [] := by
  have hcounting : Counting (startUpdate st) := by
    rw [hquiet.startUpdate]
    exact h.retain rfl rfl rfl
  have hloc : (startUpdate st).image.fptScLoc = st.image.fptScLoc := by
    rw [hquiet.startUpdate]
  refine (updateLoop_spent fuel hcounting).bind ?_
  rintro (_ | st₁) _ ⟨tail, rfl, hkept, hbounded⟩
  · refine ⟨by simp, fun hended hfuel hrounds => ?_⟩
    rw [hloc] at hbounded
    exact absurd rfl (hbounded hended hfuel hrounds).1
  · refine ⟨?_, fun hended hfuel hrounds => ⟨Option.some_ne_none _, ?_⟩⟩
    · rintro error st' ⟨⟩
      exact (hkept st₁ rfl).1.retain rfl rfl rfl
    · rw [hloc] at hbounded
      exact (hbounded hended hfuel hrounds).2

end Rounds

theorem BetweenUpdates.counting {isVck5000 : Bool} {st : UpdateState}
    (h : BetweenUpdates isVck5000 st) : Counting st := by
  induction h with
  | boot image =>
      exact ⟨fun _ => Nat.zero_lt_succ _, Nat.zero_lt_succ _, .inl rfl⟩
  | next hbefore hrun image ih =>
      have hcounting := ((updateScfw_spent ih hbefore.quiet).returns hrun).1 _ _ rfl
      exact hcounting.retain rfl rfl rfl

end Vmr.Sc
