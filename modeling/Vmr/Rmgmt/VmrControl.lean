import Vmr.Flash.Copy
import Vmr.Rmgmt.Fpt

/-!
# The status query

A control request is decoded into a message, the operation of its type works on
the message, and the completion is taken from it.  The query finds out from which
partition VMR was booted; the bit of the backup partition is a bit of the request
before.
-/

namespace Vmr.Rmgmt

open Vmr.Lib Vmr.Flash

/-! ## From the request to the completion -/

structure VmrControlSq where
  reqType : UInt8
  debugLevel : BitVec 3
  debugType : BitVec 5
  eemiBootFromBackup : Bool
  rsvd : BitVec 15
  deriving DecidableEq, Repr

def clVmrQuery : UInt32 := 0x0
def clMultibootDefault : UInt32 := 0x1
def clMultibootBackup : UInt32 := 0x2
def clProgramSc : UInt32 := 0x3
def clVmrDebug : UInt32 := 0x4
def clVmrEemiSrst : UInt32 := 0x5

def xgqCmdVmrQuery : UInt8 := 0x0

def xgqCmdVmrControlMap : List (UInt8 × UInt32) :=
  [(0x1, clMultibootDefault), (0x2, clMultibootBackup), (0x3, clProgramSc), (0x4, clVmrDebug),
    (xgqCmdVmrQuery, clVmrQuery), (0x5, clVmrEemiSrst)]

def xgqCmdVmrDebugMap : List (BitVec 5 × UInt8) := [(1, 1), (2, 2), (0, clDbgClear)]

def convertClType {α β : Type} [BEq α] (map : List (α × β)) (xgqType : α) : Option β :=
  (map.find? fun entry => entry.1 == xgqType).map fun entry => entry.2

/-- The bit of the request goes where the query reports its result. -/
def VmrControlSq.toPayload (sq : VmrControlSq) (reqType : UInt32) (vmrDebugType : UInt8) :
    BootPayload :=
  { BootPayload.zero with
    reqType := reqType
    vmrDebugType := vmrDebugType
    bootOnBackup := sq.eemiBootFromBackup }

def vmrControlHandle (sq : VmrControlSq) : Option BootPayload :=
  match convertClType xgqCmdVmrControlMap sq.reqType with
  | none => none
  | some reqType =>
      match convertClType xgqCmdVmrDebugMap sq.debugType with
      | none => none
      | some vmrDebugType => some (sq.toPayload reqType vmrDebugType)

structure ResetOps where
  rmgmtEnableBootDefault : BootPayload → OspiProg (Int × BootPayload)
  rmgmtEnableBootBackup : BootPayload → OspiProg (Int × BootPayload)
  rmgmtEemiPmReset : BootPayload → OspiProg (Int × BootPayload)

structure VmrEnv extends BootEnv where
  info : FlashInfo
  resetOps : ResetOps
  psIsReady : Bool
  plIsReady : Bool
  scIsReady : Bool
  flashProgress : BitVec 7

def clRmgmtVmrControl (env : VmrEnv) (payload : BootPayload) : OspiProg (Int × BootPayload) :=
  if payload.reqType = clMultibootDefault then env.resetOps.rmgmtEnableBootDefault payload
  else if payload.reqType = clMultibootBackup then env.resetOps.rmgmtEnableBootBackup payload
  else if payload.reqType = clVmrQuery then do
    let payload ← rmgmtFptQuery env.toBootEnv payload
    return (0, payload)
  else if payload.reqType = clVmrDebug then rmgmtFptSetDebugType env.info env.toBootEnv payload
  else if payload.reqType = clProgramSc then return (0, payload)
  else if payload.reqType = clVmrEemiSrst then env.resetOps.rmgmtEemiPmReset payload
  else return (-einval, payload)

/-- A reset through EEMI is answered before it is carried out. -/
def processProgramMsg (env : VmrEnv) (payload : BootPayload) : OspiProg (Int × BootPayload) := do
  if payload.reqType = clVmrEemiSrst then
    let _ ← clRmgmtVmrControl env payload
    return (0, payload)
  else clRmgmtVmrControl env payload

structure CqVmrPayload where
  hasFpt : Bool
  hasFptRecovery : Bool
  bootOnDefault : Bool
  bootOnBackup : Bool
  bootOnRecovery : Bool
  hasExtfpt : Bool
  hasExtXsabin : Bool
  hasExtScfw : Bool
  hasExtSysdtb : Bool
  psIsReady : Bool
  plIsReady : Bool
  scIsReady : Bool
  currentMultiBootOffset : UInt16
  debugLevel : BitVec 3
  programProgress : BitVec 7
  bootOnOffset : UInt16

def vmrControlComplete (env : VmrEnv) (debugLevel : BitVec 3) (payload : BootPayload) :
    CqVmrPayload where
  hasFpt := payload.hasFpt
  hasFptRecovery := payload.hasFptRecovery
  bootOnDefault := payload.bootOnDefault
  bootOnBackup := payload.bootOnBackup
  bootOnRecovery := payload.bootOnRecovery
  hasExtfpt := payload.hasExtfpt
  hasExtXsabin := payload.hasExtXsabin
  hasExtScfw := payload.hasExtScfw
  hasExtSysdtb := payload.hasExtSysdtb
  psIsReady := env.psIsReady
  plIsReady := env.plIsReady
  scIsReady := env.scIsReady
  currentMultiBootOffset := payload.currentMultiBootOffset
  debugLevel := debugLevel
  programProgress := env.flashProgress
  bootOnOffset := payload.bootOnOffset

/-- A request that cannot be decoded is aborted, and its completion has no payload. -/
def handleVmrControl (env : VmrEnv) (sq : VmrControlSq) : OspiProg (Option CqVmrPayload) :=
  match vmrControlHandle sq with
  | none => return none
  | some payload => do
      let done ← processProgramMsg env payload
      -- the request has set the log level
      return some (vmrControlComplete env sq.debugLevel done.2)

/-! ## Where VMR was booted from -/

section Reads

variable {σ : Type} (outcome : σ → UInt32 → Nat → Option Memory × σ)

def respondRead (s : σ) : (op : OspiOp) → Option (OspiAns op × σ)
  | .read address count => some (outcome s address count)
  | _ => none

/-- The run of a program that only reads the flash. -/
def reading {α : Type} (p : OspiProg α) (s : σ) : Option (α × σ) :=
  p.answers (respondRead outcome) s

def readEntries (fptEntrySize : UInt8) : List Nat → σ → Option (List FptEntry) × σ
  | [], s => (some [], s)
  | index :: indices, s =>
      match outcome s (UInt32.ofNat (fptEntrySize.toNat * index)) FptEntry.size with
      | (none, s) => (none, s)
      | (some bytes, s) =>
          let rest := readEntries fptEntrySize indices s
          (rest.1.map (FptEntry.ofBytes bytes :: ·), rest.2)

def readTable (s : σ) : Option (List FptEntry) × σ :=
  match outcome s fptDefaultOffset FptHdr.size with
  | (none, s) => (none, s)
  | (some bytes, s) =>
      let hdr := FptHdr.ofBytes bytes
      if (hdr.fptMagic == fptMagic) = false then (none, s)
      else readEntries outcome hdr.fptEntrySize (List.range' 1 hdr.fptNumEntries.toNat) s

def readTables (s : σ) : Option (List FptEntry) :=
  match readTable outcome s with
  | (none, _) => none
  | (some entries, s) => (outcome s fptBackupOffset FptHdr.size).1.map fun _ => entries

def partitionBase (entries : List FptEntry) (fptType : UInt32) : Option UInt32 :=
  entries.foldl (fun found entry =>
    if entry.partitionType = fptType then some entry.partitionBaseAddr else found) none

variable (s : σ)

def BootedFrom (env : BootEnv) (fptType : UInt32) : Prop :=
  ∃ entries base, (readTable outcome s).1 = some entries ∧
    partitionBase entries fptType = some base ∧ env.rhBootOnOffset = multibootOff base

/-- Both tables can be read, and VMR was booted from the partition, where a partition that is
missing has the offset 0. -/
def Reported (env : BootEnv) (fptType : UInt32) : Prop :=
  ∃ entries, readTables outcome s = some entries ∧
    env.rhBootOnOffset = multibootOff ((partitionBase entries fptType).getD 0)

def Completes (env : VmrEnv) (sq : VmrControlSq) (cq : CqVmrPayload) : Prop :=
  ∃ s', reading outcome (handleVmrControl env sq) s = some (some cq, s')

/-- The boot source is reported right, and not as the request has it. -/
structure SourceReported (env : VmrEnv) (sq sq' : VmrControlSq) : Prop where
  same : ∀ cq cq', Completes outcome s env sq cq → Completes outcome s env sq' cq' →
    cq.bootOnDefault = cq'.bootOnDefault ∧ cq.bootOnBackup = cq'.bootOnBackup
  default : ∀ cq, Completes outcome s env sq cq ∨ Completes outcome s env sq' cq →
    cq.bootOnDefault = true → BootedFrom outcome s env.toBootEnv fptTypeBoot
  backup : ∀ cq, Completes outcome s env sq cq ∨ Completes outcome s env sq' cq →
    cq.bootOnBackup = true → BootedFrom outcome s env.toBootEnv fptTypeBootBackup

/-! ## The query reads the tables -/

structure SameBits (payload payload' : BootPayload) : Prop where
  default : payload'.bootOnDefault = payload.bootOnDefault
  backup : payload'.bootOnBackup = payload.bootOnBackup

theorem SameBits.trans {payload payload' payload'' : BootPayload} (h : SameBits payload payload')
    (h' : SameBits payload' payload'') : SameBits payload payload'' :=
  ⟨h'.default.trans h.default, h'.backup.trans h.backup⟩

private theorem sameBits_noteEntry (payload : BootPayload) (entry : FptEntry) :
    SameBits payload (payload.noteEntry entry) := by
  unfold BootPayload.noteEntry
  split_ifs <;> exact ⟨rfl, rfl⟩

private theorem sameBits_foldl (entries : List FptEntry) (payload : BootPayload) :
    SameBits payload (entries.foldl BootPayload.noteEntry payload) := by
  induction entries generalizing payload with
  | nil => exact ⟨rfl, rfl⟩
  | cons entry entries ih => exact (sameBits_noteEntry payload entry).trans (ih _)

/-- How a query that starts with `payload` ends, by what is found in the table. -/
structure Follows (payload : BootPayload) (found : Option (List FptEntry))
    (result : BootPayload × Bool) : Prop where
  none : found = none → ∃ payload', SameBits payload payload' ∧ result = (payload', false)
  some : ∀ entries, found = some entries →
    result = (entries.foldl BootPayload.noteEntry payload, true)

variable {outcome s}

theorem reading_bind {α β : Type} (p : OspiProg α) (f : α → OspiProg β) :
    reading outcome (p >>= f) s =
      (reading outcome p s).bind fun result => reading outcome (f result.1) result.2 :=
  Prog.answers_bind _ p f s

theorem reading_read (offset : UInt32) (len : Nat) :
    reading outcome (ospiFlashRead .clFlashBoot offset len) s = some (outcome s offset len) := by
  change some (outcome s (0 + offset) len) = _
  rw [UInt32.zero_add]

private theorem reading_queryEntries (fptEntrySize : UInt8) (indices : List Nat)
    (payload : BootPayload) :
    ∃ result, reading outcome (queryEntries fptEntrySize indices payload) s =
        some (result, (readEntries outcome fptEntrySize indices s).2) ∧
      Follows payload (readEntries outcome fptEntrySize indices s).1 result := by
  induction indices generalizing payload s with
  | nil =>
      refine ⟨(payload, true), rfl, ⟨fun hnone => ?_, fun entries hentries => ?_⟩⟩
      · exact absurd hnone (Option.some_ne_none _)
      · rw [← Option.some.inj hentries]
        rfl
  | cons index indices ih =>
      rw [queryEntries, readEntries, reading_bind, reading_read]
      rcases outcome s (UInt32.ofNat (fptEntrySize.toNat * index)) FptEntry.size with
        ⟨_ | bytes, s'⟩
      · exact ⟨(payload, false), rfl, ⟨fun _ => ⟨payload, ⟨rfl, rfl⟩, rfl⟩,
          fun entries hentries => absurd hentries.symm (Option.some_ne_none _)⟩⟩
      · obtain ⟨result, hrun, hfollows⟩ := @ih s' (payload.noteEntry (FptEntry.ofBytes bytes))
        refine ⟨result, hrun, ⟨fun hnone => ?_, fun entries hentries => ?_⟩⟩
        · obtain ⟨payload', hbits, heq⟩ := hfollows.none (Option.map_eq_none_iff.1 hnone)
          exact ⟨payload', (sameBits_noteEntry payload _).trans hbits, heq⟩
        · obtain ⟨rest, hrest, rfl⟩ := Option.map_eq_some_iff.1 hentries
          exact hfollows.some rest hrest

theorem reading_queryTable (payload : BootPayload) :
    ∃ result, reading outcome (queryTable payload) s = some (result, (readTable outcome s).2) ∧
      Follows { payload with hasFpt := true } (readTable outcome s).1 result := by
  rw [queryTable, readTable, reading_bind, reading_read]
  rcases outcome s fptDefaultOffset FptHdr.size with ⟨_ | bytes, s'⟩
  · exact ⟨(payload, false), rfl, ⟨fun _ => ⟨payload, ⟨rfl, rfl⟩, rfl⟩,
      fun entries hentries => absurd hentries.symm (Option.some_ne_none _)⟩⟩
  · rw [Option.bind_some]
    dsimp only
    cases hmagic : (FptHdr.ofBytes bytes).fptMagic == fptMagic with
    | false =>
        exact ⟨({ payload with hasFpt := false }, false), rfl,
          ⟨fun _ => ⟨{ payload with hasFpt := false }, ⟨rfl, rfl⟩, rfl⟩,
            fun entries hentries => absurd hentries.symm (Option.some_ne_none _)⟩⟩
    | true =>
        rw [if_neg (by decide), if_neg (by decide)]
        exact reading_queryEntries _ _ _

private theorem reading_rmgmtFptPdiMetaGet (payload : BootPayload) (fptType : UInt32) :
    ∃ found s', reading outcome (rmgmtFptPdiMetaGet payload fptType) s = some (found, s') := by
  unfold rmgmtFptPdiMetaGet
  dsimp only
  split
  · exact ⟨_, _, rfl⟩
  · rw [reading_bind, reading_read]
    rcases outcome s (rmgmtFptPdiGetBase payload fptType) ospiVersalPagesize with ⟨_ | buf, s'⟩
    · exact ⟨_, _, rfl⟩
    · exact ⟨_, _, rfl⟩

theorem reading_queryMeta (payload : BootPayload) :
    ∃ size backupSize s', reading outcome (queryMeta payload) s =
      some ({ payload with pdimetaSize := size, pdimetaBackupSize := backupSize }, s') := by
  rw [queryMeta, reading_bind]
  obtain ⟨found, s', hrun⟩ := @reading_rmgmtFptPdiMetaGet _ outcome s payload fptTypePdimeta
  rw [hrun, Option.bind_some]
  cases found with
  | error ret => exact ⟨payload.pdimetaSize, payload.pdimetaBackupSize, _, rfl⟩
  | ok pdiMeta =>
      dsimp only
      obtain ⟨size, hsize⟩ := noteMeta_eq payload pdiMeta
      obtain ⟨found, s', hrun⟩ := @reading_rmgmtFptPdiMetaGet _ outcome s'
        (payload.noteMeta pdiMeta) fptTypePdimetaBackup
      rw [reading_bind, hrun, Option.bind_some]
      cases found with
      | error ret =>
          rw [hsize]
          exact ⟨size, payload.pdimetaBackupSize, _, rfl⟩
      | ok pdiMeta =>
          obtain ⟨backupSize, hbackup⟩ := noteMetaBackup_eq (payload.noteMeta _) pdiMeta
          dsimp only
          rw [hbackup, hsize]
          exact ⟨size, backupSize, _, rfl⟩

private theorem offset_foldl {offset : BootPayload → UInt32} {fptType : UInt32}
    (hnote : ∀ payload entry, offset (payload.noteEntry entry) =
      if entry.partitionType = fptType then entry.partitionBaseAddr else offset payload)
    (entries : List FptEntry) (payload : BootPayload) (found : Option UInt32) {stale : UInt32}
    (hfound : offset payload = found.getD stale) :
    offset (entries.foldl BootPayload.noteEntry payload) =
      (entries.foldl (fun found entry =>
        if entry.partitionType = fptType then some entry.partitionBaseAddr else found)
          found).getD stale := by
  induction entries generalizing payload found with
  | nil => exact hfound
  | cons entry entries ih =>
      refine ih _ _ ?_
      rw [hnote]
      dsimp only
      by_cases htype : entry.partitionType = fptType
      · rw [if_pos htype, if_pos htype]
        rfl
      · rw [if_neg htype, if_neg htype]
        exact hfound

theorem defaultPartitionOffset_foldl (entries : List FptEntry) (payload : BootPayload) :
    (entries.foldl BootPayload.noteEntry payload).defaultPartitionOffset =
      (partitionBase entries fptTypeBoot).getD payload.defaultPartitionOffset := by
  refine @offset_foldl (fun payload => payload.defaultPartitionOffset) fptTypeBoot ?_ entries
    payload none _ rfl
  intro payload entry
  unfold BootPayload.noteEntry
  split_ifs <;> rfl

theorem backupPartitionOffset_foldl (entries : List FptEntry) (payload : BootPayload) :
    (entries.foldl BootPayload.noteEntry payload).backupPartitionOffset =
      (partitionBase entries fptTypeBootBackup).getD payload.backupPartitionOffset := by
  refine @offset_foldl (fun payload => payload.backupPartitionOffset) fptTypeBootBackup ?_ entries
    payload none _ rfl
  intro payload entry
  unfold BootPayload.noteEntry
  split_ifs with hboot hbackup <;> first | rfl | exact absurd (hboot.symm.trans ‹_›) (by decide)

private theorem reading_rmgmtBootFptQuery (env : BootEnv) {payload : BootPayload}
    (hdefault : payload.defaultPartitionOffset = 0) (hbackup : payload.backupPartitionOffset = 0) :
    ∃ payload' s', reading outcome (rmgmtBootFptQuery env payload) s = some (payload', s') ∧
      (payload'.bootOnDefault = true ↔
        payload.bootOnDefault = true ∨ Reported outcome s env fptTypeBoot) ∧
      (payload'.bootOnBackup = true ↔
        payload.bootOnBackup = true ∨ Reported outcome s env fptTypeBootBackup) := by
  obtain ⟨result, hrun, hfollows⟩ := @reading_queryTable _ outcome s payload
  unfold Reported
  rw [rmgmtBootFptQuery, readTables, reading_bind, hrun, Option.bind_some]
  rcases hfound : readTable outcome s with ⟨_ | entries, s'⟩
  · rw [hfound] at hfollows
    obtain ⟨payload', hbits, rfl⟩ := hfollows.none rfl
    exact ⟨payload', _, rfl, by simp [hbits.default], by simp [hbits.backup]⟩
  · rw [hfound] at hfollows
    obtain rfl := hfollows.some entries rfl
    dsimp only
    rw [reading_bind, reading_read, Option.bind_some]
    have hnoted := sameBits_foldl entries { payload with hasFpt := true }
    have hdefault' := defaultPartitionOffset_foldl entries { payload with hasFpt := true }
    have hbackup' := backupPartitionOffset_foldl entries { payload with hasFpt := true }
    rcases outcome s' fptBackupOffset FptHdr.size with ⟨_ | bytes, s''⟩
    · exact ⟨_, _, rfl, by simp [hnoted.default], by simp [hnoted.backup]⟩
    · dsimp only
      obtain ⟨size, backupSize, after, hrun'⟩ := @reading_queryMeta _ outcome s''
        ((entries.foldl BootPayload.noteEntry { payload with hasFpt := true }).reportBoot env
          (FptHdr.ofBytes bytes))
      refine ⟨_, after, hrun', ?_⟩
      simp only [BootPayload.reportBoot, hnoted.default, hnoted.backup, hdefault', hbackup',
        hdefault, hbackup]
      constructor
      · simp
      · simp

private theorem readTable_of_readTables {entries : List FptEntry}
    (h : readTables outcome s = some entries) :
    (readTable outcome s).1 = some entries := by
  unfold readTables at h
  rcases hfound : readTable outcome s with ⟨_ | found, s'⟩
  · rw [hfound] at h
    exact absurd h.symm (Option.some_ne_none _)
  · rw [hfound] at h
    obtain ⟨_, _, heq⟩ := Option.map_eq_some_iff.1 h
    rw [heq]

/-! ## Requests of the query -/

variable (outcome s) in
/-- The tables can be read and have no partition of the type, and the boot offset is 0. -/
def MissingAtZero (env : BootEnv) (fptType : UInt32) : Prop :=
  ∃ entries, readTables outcome s = some entries ∧
    partitionBase entries fptType = none ∧ env.rhBootOnOffset = 0

private theorem not_missingAtZero_iff {env : BootEnv} {fptType : UInt32} :
    ¬ MissingAtZero outcome s env fptType ↔
      (Reported outcome s env fptType → BootedFrom outcome s env fptType) := by
  constructor
  · rintro hpresent ⟨entries, hread, hoffset⟩
    cases hbase : partitionBase entries fptType with
    | none =>
        rw [hbase] at hoffset
        exact absurd ⟨entries, hread, hbase, hoffset⟩ hpresent
    | some base =>
        rw [hbase] at hoffset
        exact ⟨entries, base, readTable_of_readTables hread, hbase, hoffset⟩
  · rintro hbooted ⟨entries, hread, hbase, hzero⟩
    have hreported : Reported outcome s env fptType := by
      refine ⟨entries, hread, ?_⟩
      rw [hbase, hzero]
      rfl
    obtain ⟨entries', base, hread', hbase', _⟩ := hbooted hreported
    rw [readTable_of_readTables hread] at hread'
    rw [← Option.some.inj hread', hbase] at hbase'
    exact absurd hbase'.symm (Option.some_ne_none _)

def VmrControlSq.Decoded (sq : VmrControlSq) : Prop :=
  (convertClType xgqCmdVmrDebugMap sq.debugType).isSome = true

private theorem vmrControlHandle_query {sq : VmrControlSq} (hquery : sq.reqType = xgqCmdVmrQuery) :
    vmrControlHandle sq =
      (convertClType xgqCmdVmrDebugMap sq.debugType).map (sq.toPayload clVmrQuery) := by
  have htype : convertClType xgqCmdVmrControlMap sq.reqType = some clVmrQuery := by
    rw [hquery]
    rfl
  unfold vmrControlHandle
  rw [htype]
  dsimp only
  split <;> simp_all

private theorem processProgramMsg_query (env : VmrEnv) {payload : BootPayload}
    (hquery : payload.reqType = clVmrQuery) :
    processProgramMsg env payload = do
      let payload ← rmgmtFptQuery env.toBootEnv payload
      return (0, payload) := by
  unfold processProgramMsg clRmgmtVmrControl
  rw [hquery, if_neg (by decide), if_neg (by decide), if_neg (by decide), if_pos rfl]

private theorem completes_query {env : VmrEnv} {sq : VmrControlSq}
    (hquery : sq.reqType = xgqCmdVmrQuery)
    (hdecoded : sq.Decoded) :
    ∃ cq, (∀ cq', Completes outcome s env sq cq' ↔ cq' = cq) ∧
      (cq.bootOnDefault = true ↔ Reported outcome s env.toBootEnv fptTypeBoot) ∧
      (cq.bootOnBackup = true ↔
        sq.eemiBootFromBackup = true ∨ Reported outcome s env.toBootEnv fptTypeBootBackup) := by
  obtain ⟨vmrDebugType, hdebug⟩ := Option.isSome_iff_exists.1 hdecoded
  have hboot := sameBoot_rmgmtExtensionFptQuery env.memory env.vmrEpRpuPreloadFpt
    (sq.toPayload clVmrQuery vmrDebugType).toMultibootPayload
  obtain ⟨payload', s', hrun, hdefault, hbackup⟩ :=
    @reading_rmgmtBootFptQuery _ outcome s env.toBootEnv
      { sq.toPayload clVmrQuery vmrDebugType with
        toMultibootPayload := rmgmtExtensionFptQuery env.memory env.vmrEpRpuPreloadFpt
          (sq.toPayload clVmrQuery vmrDebugType).toMultibootPayload }
      hboot.defaultOffset hboot.backupOffset
  refine ⟨vmrControlComplete env sq.debugLevel payload', fun cq' => ?_, hdefault.trans ?_, hbackup⟩
  · unfold Completes handleVmrControl
    rw [vmrControlHandle_query hquery, hdebug, Option.map_some]
    dsimp only
    rw [reading_bind, processProgramMsg_query env rfl, reading_bind, rmgmtFptQuery, hrun]
    constructor
    · rintro ⟨_, heq⟩
      exact (Option.some.inj (Prod.mk.inj (Option.some.inj heq)).1).symm
    · rintro rfl
      exact ⟨s', rfl⟩
  · simp [VmrControlSq.toPayload, BootPayload.zero]

private theorem decoded_of_completes {env : VmrEnv} {sq : VmrControlSq} {cq : CqVmrPayload}
    (hquery : sq.reqType = xgqCmdVmrQuery) (h : Completes outcome s env sq cq) : sq.Decoded := by
  obtain ⟨s', hrun⟩ := h
  unfold handleVmrControl at hrun
  rw [vmrControlHandle_query hquery] at hrun
  unfold VmrControlSq.Decoded
  cases hdebug : convertClType xgqCmdVmrDebugMap sq.debugType with
  | none =>
      rw [hdebug] at hrun
      have hnone := (Prod.mk.inj (Option.some.inj hrun)).1
      exact absurd hnone.symm (Option.some_ne_none _)
  | some vmrDebugType => rfl

private theorem bits_of_completes {env : VmrEnv} {sq : VmrControlSq} {cq : CqVmrPayload}
    (hquery : sq.reqType = xgqCmdVmrQuery) (h : Completes outcome s env sq cq) :
    (cq.bootOnDefault = true ↔ Reported outcome s env.toBootEnv fptTypeBoot) ∧
      (cq.bootOnBackup = true ↔
        sq.eemiBootFromBackup = true ∨ Reported outcome s env.toBootEnv fptTypeBootBackup) := by
  obtain ⟨cq', honly, hbits⟩ := @completes_query _ outcome s _ _ hquery
    (decoded_of_completes hquery h)
  rw [(honly cq).1 h]
  exact hbits

variable (outcome s) in
/-- The bit of the request is set only if VMR runs from the backup, and no partition is missing. -/
structure Harmless (env : BootEnv) (sq : VmrControlSq) : Prop where
  bit : sq.eemiBootFromBackup = true → BootedFrom outcome s env fptTypeBootBackup
  default : ¬ MissingAtZero outcome s env fptTypeBoot
  backup : ¬ MissingAtZero outcome s env fptTypeBootBackup

variable (outcome s) in
/-- The requests that are decoded are harmless, and their bits are equal or the query itself finds
the backup. -/
structure HarmlessPair (env : BootEnv) (sq sq' : VmrControlSq) : Prop where
  first : sq.Decoded → Harmless outcome s env sq
  second : sq'.Decoded → Harmless outcome s env sq'
  same : sq.Decoded → sq'.Decoded → sq.eemiBootFromBackup = sq'.eemiBootFromBackup ∨
    Reported outcome s env fptTypeBootBackup

private theorem harmless_iff {env : VmrEnv} {sq : VmrControlSq} {cq : CqVmrPayload}
    (hquery : sq.reqType = xgqCmdVmrQuery) (hcq : Completes outcome s env sq cq) :
    Harmless outcome s env.toBootEnv sq ↔
      (cq.bootOnDefault = true → BootedFrom outcome s env.toBootEnv fptTypeBoot) ∧
        (cq.bootOnBackup = true → BootedFrom outcome s env.toBootEnv fptTypeBootBackup) := by
  obtain ⟨hdefault, hbackup⟩ := bits_of_completes hquery hcq
  rw [hdefault, hbackup]
  constructor
  · intro h
    refine ⟨not_missingAtZero_iff.1 h.default, fun hset => ?_⟩
    rcases hset with hbit | hreported
    · exact h.bit hbit
    · exact not_missingAtZero_iff.1 h.backup hreported
  · rintro ⟨hdefault', hbackup'⟩
    exact ⟨fun hbit => hbackup' (.inl hbit), not_missingAtZero_iff.2 hdefault',
      not_missingAtZero_iff.2 fun hreported => hbackup' (.inr hreported)⟩

/-- The bits are those of the boot source exactly when the requests set none of their own. -/
theorem sourceReported_iff (env : VmrEnv) {sq sq' : VmrControlSq}
    (hquery : sq.reqType = xgqCmdVmrQuery) (hquery' : sq'.reqType = xgqCmdVmrQuery) :
    SourceReported outcome s env sq sq' ↔ HarmlessPair outcome s env.toBootEnv sq sq' := by
  constructor
  · intro h
    refine ⟨fun hdecoded => ?_, fun hdecoded => ?_, fun hdecoded hdecoded' => ?_⟩
    · obtain ⟨cq, honly, -⟩ := @completes_query _ outcome s env _ hquery hdecoded
      have hcq := (honly cq).2 rfl
      exact (harmless_iff hquery hcq).2 ⟨h.default cq (.inl hcq), h.backup cq (.inl hcq)⟩
    · obtain ⟨cq, honly, -⟩ := @completes_query _ outcome s env _ hquery' hdecoded
      have hcq := (honly cq).2 rfl
      exact (harmless_iff hquery' hcq).2 ⟨h.default cq (.inr hcq), h.backup cq (.inr hcq)⟩
    · obtain ⟨cq, honly, -, hbackup⟩ := @completes_query _ outcome s env _ hquery hdecoded
      obtain ⟨cq', honly', -, hbackup'⟩ := @completes_query _ outcome s env _ hquery' hdecoded'
      have hsame := Bool.eq_iff_iff.1 (h.same cq cq' ((honly cq).2 rfl) ((honly' cq').2 rfl)).2
      rw [hbackup, hbackup'] at hsame
      by_cases hreported : Reported outcome s env.toBootEnv fptTypeBootBackup
      · exact .inr hreported
      · rw [or_iff_left hreported, or_iff_left hreported] at hsame
        exact .inl (Bool.eq_iff_iff.2 hsame)
  · intro h
    have hfirst : ∀ cq, Completes outcome s env sq cq → Harmless outcome s env.toBootEnv sq :=
      fun cq hcq => h.first (decoded_of_completes hquery hcq)
    have hsecond : ∀ cq, Completes outcome s env sq' cq → Harmless outcome s env.toBootEnv sq' :=
      fun cq hcq => h.second (decoded_of_completes hquery' hcq)
    refine ⟨fun cq cq' hcq hcq' => ?_, fun cq hcq => ?_, fun cq hcq => ?_⟩
    · obtain ⟨hdefault, hbackup⟩ := bits_of_completes hquery hcq
      obtain ⟨hdefault', hbackup'⟩ := bits_of_completes hquery' hcq'
      refine ⟨Bool.eq_iff_iff.2 (hdefault.trans hdefault'.symm), Bool.eq_iff_iff.2 ?_⟩
      rw [hbackup, hbackup']
      rcases h.same (decoded_of_completes hquery hcq) (decoded_of_completes hquery' hcq') with
        hbit | hreported
      · rw [hbit]
      · exact iff_of_true (.inr hreported) (.inr hreported)
    · rcases hcq with hcq | hcq
      · exact ((harmless_iff hquery hcq).1 (hfirst cq hcq)).1
      · exact ((harmless_iff hquery' hcq).1 (hsecond cq hcq)).1
    · rcases hcq with hcq | hcq
      · exact ((harmless_iff hquery hcq).1 (hfirst cq hcq)).2
      · exact ((harmless_iff hquery' hcq).1 (hsecond cq hcq)).2

end Reads

/-! ## A flash with a table -/

def readsOf (flash : Memory) (_ : Unit) (address : UInt32) (_ : Nat) : Option Memory × Unit :=
  (some fun offset => flash (address.toNat + offset), ())

def tableFlash : Memory :=
  let table (flash : Memory) (base : Nat) : Memory :=
    let flash := flash.store32 base fptMagic
    let flash := flash.store (base + 6) 1 fun _ => 0x20
    flash.store (base + 7) 1 fun _ => 2
  let entry (flash : Memory) (base : Nat) (fptType addr : UInt32) : Memory :=
    (flash.store32 base fptType).store32 (base + 12) addr
  let flash := table (table (fun _ => 0) fptDefaultOffset.toNat) fptBackupOffset.toNat
  entry (entry flash 0x20 fptTypeBoot 0x100000) 0x40 fptTypeBootBackup 0x2000000

private theorem readTables_tableFlash : readTables (readsOf tableFlash) () =
    some [⟨fptTypeBoot, 0x100000, 0⟩, ⟨fptTypeBootBackup, 0x2000000, 0⟩] := by
  decide

def queryRequest (eemiBootFromBackup : Bool) : VmrControlSq where
  reqType := xgqCmdVmrQuery
  debugLevel := 0
  debugType := 0
  eemiBootFromBackup := eemiBootFromBackup
  rsvd := 0

def bootedDefault : VmrEnv where
  rhBootOnOffset := 32
  plmMultiboot := 32
  vmrEpRpuPreloadFpt := 0x7FBF0000
  memory := fun _ => 0
  info := gigadeviceInfo
  resetOps := ⟨fun payload => .ret (0, payload), fun payload => .ret (0, payload),
    fun payload => .ret (0, payload)⟩
  psIsReady := true
  plIsReady := true
  scIsReady := true
  flashProgress := 0

private theorem not_reported_tableFlash :
    ¬ Reported (readsOf tableFlash) () bootedDefault.toBootEnv fptTypeBootBackup := by
  rintro ⟨entries, hread, hoffset⟩
  rw [readTables_tableFlash] at hread
  rw [← Option.some.inj hread] at hoffset
  exact absurd hoffset (by decide)

def bootedBackup : VmrEnv :=
  { bootedDefault with
    rhBootOnOffset := 1024
    plmMultiboot := 1024 }

private theorem reported_tableFlash :
    Reported (readsOf tableFlash) () bootedBackup.toBootEnv fptTypeBootBackup :=
  ⟨_, readTables_tableFlash, by decide⟩

private theorem not_missingAtZero_tableFlash (fptType : UInt32) :
    ¬ MissingAtZero (readsOf tableFlash) () bootedBackup.toBootEnv fptType := by
  rintro ⟨_, _, _, hzero⟩
  exact absurd hzero (by decide)

/-- Two requests that differ in the bit and in the debug fields. -/
theorem sourceReported_bootedBackup : SourceReported (readsOf tableFlash) () bootedBackup
    { queryRequest true with debugLevel := 3, debugType := 2 } (queryRequest false) := by
  have hharmless (sq : VmrControlSq) :
      Harmless (readsOf tableFlash) () bootedBackup.toBootEnv sq :=
    ⟨fun _ => not_missingAtZero_iff.1 (not_missingAtZero_tableFlash _) reported_tableFlash,
      not_missingAtZero_tableFlash _, not_missingAtZero_tableFlash _⟩
  exact (sourceReported_iff bootedBackup rfl rfl).2
    ⟨fun _ => hharmless _, fun _ => hharmless _, fun _ _ => .inr reported_tableFlash⟩

/-- The same boot, with the bit and without it. -/
theorem not_sourceReported_bit : (queryRequest true).reqType = xgqCmdVmrQuery ∧
    (queryRequest false).reqType = xgqCmdVmrQuery ∧
    ¬ SourceReported (readsOf tableFlash) () bootedDefault (queryRequest true)
      (queryRequest false) := by
  refine ⟨rfl, rfl, fun h => not_reported_tableFlash ?_⟩
  obtain ⟨cq, honly, -, hbackup⟩ := @completes_query _ (readsOf tableFlash) () bootedDefault
    (queryRequest true) rfl rfl
  obtain ⟨cq', honly', -, hbackup'⟩ := @completes_query _ (readsOf tableFlash) () bootedDefault
    (queryRequest false) rfl rfl
  have hsame := (h.same cq cq' ((honly cq).2 rfl) ((honly' cq').2 rfl)).2
  have hset : cq'.bootOnBackup = true := hsame ▸ hbackup.2 (.inl rfl)
  exact (hbackup'.1 hset).resolve_left Bool.false_ne_true

end Vmr.Rmgmt
