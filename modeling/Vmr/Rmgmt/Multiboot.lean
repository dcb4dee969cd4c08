import Vmr.Rmgmt.VmrControl

/-!
# The multiboot register

The operations that reset the card, and the initialisation of the management,
look for a boot partition in the table and write the register with what the message
has for its offset afterwards, also when the table could not be read or has no such
partition.
-/

namespace Vmr.Rmgmt

open Vmr.Lib Vmr.Flash

structure ResetEnv extends BootEnv where
  rmgmtEnablePlReset : Int
  clXgqReceiveFini : Int
  clXgqClientFini : Int
  xPmSystemShutdown : Int
  ospiFlashInit : Int
  rmgmtInitHandler : Int
  rmgmtPmInit : Int

structure ResetResult where
  /-- None when the operation waits for the reset for ever. -/
  ret : Option Int
  payload : BootPayload
  /-- The values that were written to the multiboot register. -/
  multiboot : List UInt32

def FptType.partitionType : FptType → UInt32
  | .default => fptTypeBoot
  | .backup => fptTypeBootBackup

def FptType.partitionOffset (type : FptType) (payload : BootPayload) : UInt32 :=
  match type with
  | .default => payload.defaultPartitionOffset
  | .backup => payload.backupPartitionOffset

/-! ## The operations -/

section Operations

variable (env : ResetEnv) (payload : BootPayload)

/-- `rmgmt_enable_boot_default` and `rmgmt_enable_boot_backup`. -/
def enableBoot (type : FptType) : OspiProg ResetResult := do
  let payload ← rmgmtBootFptQuery env.toBootEnv payload
  let ret := env.rmgmtEnablePlReset
  return ⟨if ret ≠ 0 ∧ ret ≠ -enodev then some (-1) else some 0, payload,
    [multibootOff (type.partitionOffset payload)]⟩

def rmgmtEnableBootDefault : OspiProg ResetResult := enableBoot env payload .default

def rmgmtEnableBootBackup : OspiProg ResetResult := enableBoot env payload .backup

def rmgmtSubsystemFini : Int :=
  if env.clXgqReceiveFini ≠ 0 then -einval
  else if env.clXgqClientFini ≠ 0 then -einval
  else 0

/-- The bit is that of the request: the table is read later. -/
def eemiTarget : FptType := if payload.bootOnBackup then .backup else .default

def rmgmtEemiPmReset : OspiProg ResetResult :=
  let status := rmgmtSubsystemFini env
  if status ≠ 0 then return ⟨some status, payload, []⟩
  else do
    let result ← if payload.bootOnBackup then rmgmtEnableBootBackup env payload
      else rmgmtEnableBootDefault env payload
    let status := env.xPmSystemShutdown
    return { result with ret := if status ≠ 0 then some status else none }

/-- Up to the next boot, whose result is not looked at; the register is not written after it. -/
def clRmgmtInit : OspiProg ResetResult :=
  if env.ospiFlashInit ≠ 0 then return ⟨some (-eio), .zero, []⟩
  else if env.rmgmtInitHandler ≠ 0 then return ⟨some (-enomem), .zero, []⟩
  else if env.rmgmtPmInit ≠ 0 then return ⟨some (-enodev), .zero, []⟩
  else do
    let result ← rmgmtEnableBootDefault { env with rhBootOnOffset := env.plmMultiboot } .zero
    return { result with ret := some 0 }

end Operations

/-! ## What is promised -/

inductive BootOp
  | enableBootDefault | enableBootBackup | eemiPmReset | init
  deriving DecidableEq, Repr

def BootOp.run (op : BootOp) (env : ResetEnv) (payload : BootPayload) : OspiProg ResetResult :=
  match op with
  | .enableBootDefault => rmgmtEnableBootDefault env payload
  | .enableBootBackup => rmgmtEnableBootBackup env payload
  | .eemiPmReset => rmgmtEemiPmReset env payload
  | .init => clRmgmtInit env

def BootOp.target (op : BootOp) (payload : BootPayload) : FptType :=
  match op with
  | .enableBootDefault | .init => .default
  | .enableBootBackup => .backup
  | .eemiPmReset => eemiTarget payload

def BootOp.Refused (env : ResetEnv) : BootOp → Prop
  | .enableBootDefault | .enableBootBackup => False
  | .eemiPmReset => rmgmtSubsystemFini env ≠ 0
  | .init => env.ospiFlashInit ≠ 0 ∨ env.rmgmtInitHandler ≠ 0 ∨ env.rmgmtPmInit ≠ 0

section Promise

variable {σ : Type} (outcome : σ → UInt32 → Nat → Option Memory × σ) (s : σ)

/-- The table is valid and can be read, and has the partition at this offset. -/
def PartitionAt (type : FptType) (base : UInt32) : Prop :=
  ∃ entries, (readTable outcome s).1 = some entries ∧
    partitionBase entries type.partitionType = some base

/-- The register is written with the offset of the partition, or else not at all. -/
structure Targets (type : FptType) (result : ResetResult) : Prop where
  written : ∀ value ∈ result.multiboot, ∃ base, PartitionAt outcome s type base ∧
    value = multibootOff base
  unknown : (∀ base, ¬ PartitionAt outcome s type base) →
    result.multiboot = [] ∧ ∃ error, result.ret = some error ∧ error ≠ 0

/-- However the reads of the flash go. -/
def TargetKnown (op : BootOp) (env : ResetEnv) (payload : BootPayload) : Prop :=
  ∃ result s', reading outcome (op.run env payload) s = some (result, s') ∧
    Targets outcome s (op.target payload) result

variable {outcome s}

private theorem reading_bootFptQuery (env : BootEnv) (payload : BootPayload) :
    ∃ payload' s', reading outcome (rmgmtBootFptQuery env payload) s = some (payload', s') ∧
      ∀ type base, PartitionAt outcome s type base → type.partitionOffset payload' = base := by
  obtain ⟨result, hrun, hfollows⟩ := @reading_queryTable _ outcome s payload
  rw [rmgmtBootFptQuery, reading_bind, hrun, Option.bind_some]
  unfold PartitionAt
  rcases hfound : readTable outcome s with ⟨_ | entries, s'⟩
  · rw [hfound] at hfollows
    obtain ⟨payload', -, rfl⟩ := hfollows.none rfl
    refine ⟨payload', _, rfl, fun type base => ?_⟩
    rintro ⟨entries, hnone, -⟩
    exact absurd hnone.symm (Option.some_ne_none _)
  · rw [hfound] at hfollows
    obtain rfl := hfollows.some entries rfl
    have hoffset (type : FptType) (base : UInt32)
        (hbase : partitionBase entries type.partitionType = some base) :
        type.partitionOffset (entries.foldl BootPayload.noteEntry { payload with hasFpt := true }) =
          base := by
      cases type with
      | default =>
          refine (defaultPartitionOffset_foldl entries _).trans ?_
          rw [show partitionBase entries fptTypeBoot = some base from hbase, Option.getD_some]
      | backup =>
          refine (backupPartitionOffset_foldl entries _).trans ?_
          rw [show partitionBase entries fptTypeBootBackup = some base from hbase, Option.getD_some]
    dsimp only
    rw [reading_bind, reading_read, Option.bind_some]
    rcases outcome s' fptBackupOffset FptHdr.size with ⟨_ | bytes, s''⟩
    · refine ⟨_, _, rfl, fun type base => ?_⟩
      rintro ⟨found, hsome, hbase⟩
      exact hoffset type base (Option.some.inj hsome ▸ hbase)
    · dsimp only
      obtain ⟨size, backupSize, after, hrun'⟩ := @reading_queryMeta _ outcome s''
        ((entries.foldl BootPayload.noteEntry { payload with hasFpt := true }).reportBoot env
          (FptHdr.ofBytes bytes))
      refine ⟨_, after, hrun', fun type base => ?_⟩
      rintro ⟨found, hsome, hbase⟩
      have hsame := hoffset type base (Option.some.inj hsome ▸ hbase)
      cases type with
      | default => exact hsame
      | backup => exact hsame

private theorem reading_enableBoot (env : ResetEnv) (payload : BootPayload) (type : FptType) :
    ∃ ret payload' value s', reading outcome (enableBoot env payload type) s =
        some (⟨ret, payload', [value]⟩, s') ∧
      ∀ base, PartitionAt outcome s type base → value = multibootOff base := by
  obtain ⟨payload', s', hrun, hknown⟩ := @reading_bootFptQuery _ outcome s env.toBootEnv payload
  rw [enableBoot, reading_bind, hrun, Option.bind_some]
  exact ⟨_, payload', _, s', rfl, fun base hbase => congrArg multibootOff (hknown type base hbase)⟩

private theorem targets_iff {type : FptType} {ret : Option Int} {payload : BootPayload}
    {value : UInt32}
    (hvalue : ∀ base, PartitionAt outcome s type base → value = multibootOff base) :
    Targets outcome s type ⟨ret, payload, [value]⟩ ↔ ∃ base, PartitionAt outcome s type base := by
  constructor
  · intro htargets
    obtain ⟨base, hbase, -⟩ := htargets.written value List.mem_cons_self
    exact ⟨base, hbase⟩
  · rintro ⟨base, hbase⟩
    refine ⟨fun other hother => ?_, fun hnone => absurd hbase (hnone base)⟩
    exact ⟨base, hbase, (List.mem_singleton.1 hother).trans (hvalue base hbase)⟩

private theorem reading_refused {op : BootOp} {env : ResetEnv} (h : op.Refused env)
    (payload : BootPayload) :
    ∃ error payload', error ≠ 0 ∧
      reading outcome (op.run env payload) s = some (⟨some error, payload', []⟩, s) := by
  cases op with
  | enableBootDefault | enableBootBackup => exact h.elim
  | eemiPmReset =>
      refine ⟨rmgmtSubsystemFini env, payload, h, ?_⟩
      rw [BootOp.run, rmgmtEemiPmReset]
      dsimp only
      rw [if_pos (show rmgmtSubsystemFini env ≠ 0 from h)]
      rfl
  | init =>
      rw [BootOp.run, clRmgmtInit]
      by_cases hflash : env.ospiFlashInit = 0
      · by_cases hhandler : env.rmgmtInitHandler = 0
        · have hpm : env.rmgmtPmInit ≠ 0 :=
            (h.resolve_left fun hne => hne hflash).resolve_left fun hne => hne hhandler
          rw [if_neg (not_not.2 hflash), if_neg (not_not.2 hhandler), if_pos hpm]
          exact ⟨-enodev, .zero, by decide, rfl⟩
        · rw [if_neg (not_not.2 hflash), if_pos hhandler]
          exact ⟨-enomem, .zero, by decide, rfl⟩
      · rw [if_pos hflash]
        exact ⟨-eio, .zero, by decide, rfl⟩

private theorem reading_written {op : BootOp} {env : ResetEnv} (h : ¬ op.Refused env)
    (payload : BootPayload) :
    ∃ ret payload' value s', reading outcome (op.run env payload) s =
        some (⟨ret, payload', [value]⟩, s') ∧
      ∀ base, PartitionAt outcome s (op.target payload) base → value = multibootOff base := by
  cases op with
  | enableBootDefault => exact reading_enableBoot env payload .default
  | enableBootBackup => exact reading_enableBoot env payload .backup
  | eemiPmReset =>
      obtain ⟨ret, payload', value, s', hrun, hvalue⟩ :=
        @reading_enableBoot _ outcome s env payload (eemiTarget payload)
      refine ⟨if env.xPmSystemShutdown ≠ 0 then some env.xPmSystemShutdown else none, payload',
        value, s', ?_, hvalue⟩
      rw [BootOp.run, rmgmtEemiPmReset]
      dsimp only
      rw [if_neg (show ¬ rmgmtSubsystemFini env ≠ 0 from h)]
      cases hbit : payload.bootOnBackup with
      | true =>
          rw [show eemiTarget payload = .backup by rw [eemiTarget, hbit]; rfl] at hrun
          rw [if_pos rfl, rmgmtEnableBootBackup, reading_bind, hrun, Option.bind_some]
          rfl
      | false =>
          rw [show eemiTarget payload = .default by rw [eemiTarget, hbit]; rfl] at hrun
          rw [if_neg Bool.false_ne_true, rmgmtEnableBootDefault, reading_bind, hrun,
            Option.bind_some]
          rfl
  | init =>
      obtain ⟨ret, payload', value, s', hrun, hvalue⟩ := @reading_enableBoot _ outcome s
        { env with rhBootOnOffset := env.plmMultiboot } .zero .default
      refine ⟨some 0, payload', value, s', ?_, hvalue⟩
      obtain ⟨hflash, hrest⟩ := not_or.1 h
      obtain ⟨hhandler, hpm⟩ := not_or.1 hrest
      rw [BootOp.run, clRmgmtInit, if_neg hflash, if_neg hhandler, if_neg hpm,
        rmgmtEnableBootDefault, reading_bind, hrun, Option.bind_some]
      rfl

end Promise

/-- Exactly when the partition is found, or the operation returns before. -/
theorem targetKnown_iff {σ : Type} (outcome : σ → UInt32 → Nat → Option Memory × σ) (s : σ)
    (op : BootOp) (env : ResetEnv) (payload : BootPayload) :
    TargetKnown outcome s op env payload ↔
      (∃ base, PartitionAt outcome s (op.target payload) base) ∨ op.Refused env := by
  unfold TargetKnown
  by_cases hrefused : op.Refused env
  · obtain ⟨error, payload', herror, hrun⟩ := @reading_refused _ outcome s op env hrefused payload
    refine iff_of_true ⟨_, s, hrun, ?_⟩ (.inr hrefused)
    exact ⟨fun value hvalue => absurd hvalue List.not_mem_nil, fun _ => ⟨rfl, _, rfl, herror⟩⟩
  · obtain ⟨ret, payload', value, s', hrun, hvalue⟩ :=
      @reading_written _ outcome s op env hrefused payload
    rw [or_iff_left hrefused, ← @targets_iff _ outcome s _ ret payload' value hvalue]
    constructor
    · rintro ⟨result, after, hother, htargets⟩
      rw [hrun] at hother
      obtain ⟨rfl, -⟩ := Prod.mk.inj (Option.some.inj hother)
      exact htargets
    · exact fun htargets => ⟨_, s', hrun, htargets⟩

/-- The header cannot be read: the register is written with 0, and no error is reported. -/
theorem not_targetKnown_unread :
    ¬ ∀ env payload, TargetKnown (fun s : Unit => fun _ _ => (none, s)) () .enableBootDefault
      env payload := by
  intro h
  obtain ⟨result, s', hrun, htargets⟩ :=
    h ⟨⟨0, 0, 0, fun _ => 0⟩, 0, 0, 0, 0, 0, 0, 0⟩ .zero
  have hresult := congrArg (Option.map fun found => found.1.multiboot) hrun
  obtain ⟨hnone, -⟩ := htargets.unknown fun base ⟨entries, hentries, _⟩ =>
    absurd hentries.symm (Option.some_ne_none _)
  rw [Option.map_some, hnone] at hresult
  exact absurd hresult (by decide)

end Vmr.Rmgmt
