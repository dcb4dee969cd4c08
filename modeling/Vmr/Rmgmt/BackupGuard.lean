import Mathlib.Data.Set.Lattice
import Mathlib.Order.CompletePartialOrder
import Vmr.Rmgmt.BootLayout
import Vmr.Rmgmt.BootTag

/-!
# The backup partition when VMR runs from it

The bit that guards the backup is set late in the query of the table.  When an
entry or the header of the backup table cannot be read, the query ends before and
reports no error, and the default image is copied over the backup.
-/

namespace Vmr.Rmgmt

open Vmr.Lib Vmr.Flash

/-! ## Cells of the table -/

section Cells

variable (content : Memory)

def backupCells : Set Nat :=
  {a | (partitions content).backupPartitionOffset.toNat ≤ a ∧
    a < (partitions content).backupPartitionOffset.toNat +
      (partitions content).backupPartitionSize.toNat}

structure BootedFromBackup (env : BootEnv) : Prop where
  backup : env.rhBootOnOffset = multibootOff (partitions content).backupPartitionOffset
  notDefault : env.rhBootOnOffset ≠ multibootOff (partitions content).defaultPartitionOffset

def metaCells (info : FlashInfo) (base : UInt32) : Set Nat :=
  {a | (FptPdiMeta.ofBytes (dataAt content base)).fptPdiMagic ≠ fptPdimetaMagic ∧
      a ∈ eraseCells info.toSectorGeometry base (UInt32.ofNat ospiVersalPagesize)} ∪
    {a | base &&& UInt32.ofNat ospiVersalPagesize = 0 ∧
      a ∈ safeWriteCells info.toSectorGeometry base (UInt32.ofNat ospiVersalPagesize)}

def flashCells (info : FlashInfo) (payload : BootPayload) (len : UInt32) : Set Nat :=
  {a | (len ≤ payload.defaultPartitionSize ∧ payload.defaultPartitionOffset ≠ 0 ∧
      payload.pdimetaOffset ≠ 0) ∧
    (a ∈ eraseCells info.toSectorGeometry payload.defaultPartitionOffset len ∨
      a ∈ writeCells payload.defaultPartitionOffset len ∨
      a ∈ writeCells payload.defaultPartitionOffset (UInt32.ofNat ospiVersalPagesize) ∨
      a ∈ metaCells content info payload.pdimetaOffset)}

end Cells

/-- Any transfer may fail, but with a backup the table can be read. -/
def queryStep (info : FlashInfo) (request : FlashRequest) (chip : Chip) (op : OspiOp)
    (answer : OspiAns op) (chip' : Chip) : Prop :=
  norStep info.toSectorGeometry chip op answer chip' ∧
    (request.flashNoBackup = false → TableRead op → Succeeds op answer)

private theorem transfers_queryStep (info : FlashInfo) (request : FlashRequest) :
    Transfers info.toSectorGeometry True (queryStep info request) :=
  fun _ _ _ _ hstep => ⟨hstep.1, .inl trivial⟩

private theorem hears_queryStep (info : FlashInfo) (request : FlashRequest) :
    Hears (request.flashNoBackup = false) (queryStep info request) :=
  fun _ _ _ _ hstep => hstep.2

/-! ## What is written -/

section Write

variable {info : FlashInfo} {request : FlashRequest} {content : Memory} {chip : Chip}
  {payload : BootPayload} {len : UInt32}

private theorem flashCells_of_layout {payload' : BootPayload} (h : payload.layout = payload'.layout)
    (content : Memory) (info : FlashInfo) (len : UInt32) :
    flashCells content info payload len = flashCells content info payload' len := by
  simp only [BootPayload.layout, BootLayout.mk.injEq, Partition.mk.injEq] at h
  obtain ⟨⟨hoffset, hsize⟩, -, hmeta, -⟩ := h
  rw [flashCells, flashCells, hoffset, hsize, hmeta]

def Accepted (payload : BootPayload) (len : UInt32) : Prop :=
  len ≤ payload.defaultPartitionSize ∧ payload.defaultPartitionOffset ≠ 0 ∧
    payload.pdimetaOffset ≠ 0

private theorem safe_prepareDefault (hchip : chip.content = content) :
    Prog.Safe (queryStep info request)
      (fun _ op => changed info.toSectorGeometry op ⊆ flashCells content info payload len)
      (fun found _ => ∀ pdiMeta, found = .ok pdiMeta → Accepted payload len)
      (prepareDefault info payload len) chip := by
  rw [prepareDefault]
  split
  · exact fun pdiMeta hfound => by cases hfound
  next hfits =>
    split
    · exact fun pdiMeta hfound => by cases hfound
    next hoffset =>
      refine Prog.Safe.bind ((safe_metaFound (transfers_queryStep info request) hchip payload
        fptTypePdimeta).mono (fun _ _ hop => hop.changed_subset _ _) fun _ _ => id) ?_
      rintro (ret | pdiMeta) chip' hfound
      · exact fun pdiMeta hfound => by cases hfound
      · obtain ⟨hbase, hlike⟩ := hfound.like pdiMeta rfl
        have hmagic := hlike.magic
        have haccepted : Accepted payload len := ⟨UInt32.not_lt.1 hfits, hoffset, hbase⟩
        dsimp only
        split
        next hinvalid =>
          rw [rmgmtFptPdiMetaErase, if_neg hbase, ospiFlashErase, boot_add]
          refine Prog.Safe.bind (((reaches_flashErase _ _).mono fun a ha =>
            ⟨haccepted, .inr (.inr (.inr (.inl ⟨hmagic ▸ hinvalid, ha⟩)))⟩)) ?_
          intro ret chip'' _
          split
          · exact fun pdiMeta hfound => by cases hfound
          · exact fun _ _ => haccepted
        · exact fun _ _ => haccepted

private theorem reaches_metaSet {σ : Type} {step : σ → (op : OspiOp) → OspiAns op → σ → Prop}
    {s : σ}
    (content : Memory) (info : FlashInfo) (payload : BootPayload) (pdiMeta : FptPdiMeta) :
    Reaches info.toSectorGeometry (metaCells content info payload.pdimetaOffset) step
      (rmgmtFptPdiMetaSet info payload fptTypePdimeta pdiMeta) s := by
  rw [rmgmtFptPdiMetaSet]
  split
  · exact reaches_ret _ _
  · exact (reaches_ospiFlashSafeWrite info _ _ _ _).mono fun a ha => .inr ha

theorem reaches_writeDefault {σ : Type} {step : σ → (op : OspiOp) → OspiAns op → σ → Prop} {s : σ}
    (haccepted : Accepted payload len) (memory : Memory) (pdiData : UInt32)
    (pdiMeta : FptPdiMeta) :
    Reaches info.toSectorGeometry (flashCells content info payload len) step
      (writeDefault info payload memory pdiData len pdiMeta) s := by
  have herase : eraseCells info.toSectorGeometry payload.defaultPartitionOffset len ⊆
      flashCells content info payload len := fun a ha => ⟨haccepted, .inl ha⟩
  have himage : writeCells payload.defaultPartitionOffset len ⊆
      flashCells content info payload len := fun a ha => ⟨haccepted, .inr (.inl ha)⟩
  have hpage : writeCells payload.defaultPartitionOffset (UInt32.ofNat ospiVersalPagesize) ⊆
      flashCells content info payload len := fun a ha => ⟨haccepted, .inr (.inr (.inl ha))⟩
  have hmeta : metaCells content info payload.pdimetaOffset ⊆
      flashCells content info payload len := fun a ha => ⟨haccepted, .inr (.inr (.inr ha))⟩
  rw [writeDefault, ospiFlashErase, boot_add]
  refine ((reaches_flashErase _ _).mono herase).bind fun ret s => ?_
  split
  · exact reaches_ret _ _
  rw [programDefault]
  refine ((reaches_ospiFlashWrite (boot_add _) _ _).mono himage).bind fun ret s => ?_
  dsimp only
  split
  · exact reaches_ret _ _
  refine ((reaches_ospiFlashWrite (boot_add _) _ _).mono hpage).bind fun ret s => ?_
  split
  · exact reaches_ret _ _
  exact ((reaches_metaSet content info payload _).mono hmeta).bind fun ret s => reaches_ret _ _

end Write

/-! ## The backup partition -/

/-- Wherever the table can end, nothing of the backup partition is among the cells that an image
of the length changes. -/
def FlashesApart (call : FlashCall) (content : Memory) : Prop :=
  ∀ pdiData len count, call.pdi = some (pdiData, len) →
    count = (tableEntries content).length ∨ call.request.flashNoBackup = true →
      Disjoint (backupCells content)
        (flashCells content call.info (notedPartitions content count) len)

/-- Nothing that is erased or programmed is in the backup partition. -/
def SparesBackup (call : FlashCall) (chip : Chip)
    (step : Chip → (op : OspiOp) → OspiAns op → Chip → Prop) : Prop :=
  ∀ chip' op, Prog.Issues step chip call.prog chip' op →
    Disjoint (backupCells chip.content) (changed call.info.toSectorGeometry op)

section Run

variable {info : FlashInfo} {request : FlashRequest} {env : BootEnv} {chip : Chip} {len : UInt32}
  {cells : Set Nat}

def Prepared (request : FlashRequest) (content : Memory) (len : UInt32) (payload : BootPayload) :
    Prop :=
  Accepted payload len ∧ ∃ count,
    (count = (tableEntries content).length ∨ request.flashNoBackup = true) ∧
    payload.layout = (notedPartitions content count).layout

private theorem safe_prepareFlash (hbooted : BootedFromBackup chip.content env)
    (hcells : ∀ count, count = (tableEntries chip.content).length ∨ request.flashNoBackup = true →
      flashCells chip.content info (notedPartitions chip.content count) len ⊆ cells) :
    Prog.Safe (queryStep info request) (fun _ op => changed info.toSectorGeometry op ⊆ cells)
      (fun result _ => ∀ prepared, result = .ok prepared →
        Prepared request chip.content len prepared.1)
      (prepareFlash info request env .zero len) chip := by
  rw [prepareFlash]
  refine Prog.Safe.bind ((safe_queryFound (transfers_queryStep info request)
    (hears_queryStep info request) rfl env).mono (fun _ _ hop => hop.changed_subset _ _)
      fun _ _ => id) ?_
  intro payload chip₁ hend
  split
  · exact fun prepared hok => by cases hok
  next hfpt =>
    have hsome : payload.hasFpt = true := (Bool.not_eq_false _).mp hfpt
    obtain ⟨count, -, hall, hsame⟩ := hend.noted hsome
    have hcount : count = (tableEntries chip.content).length ∨ request.flashNoBackup = true := by
      cases hbackup : request.flashNoBackup with
      | false => exact .inl (hall hbackup)
      | true => exact .inr rfl
    have hskip : ¬ (request.flashNoBackup = false ∧ payload.bootOnBackup = false) := by
      rintro ⟨hbackup, hnot⟩
      exact Bool.false_ne_true (hnot.symm.trans (hend.guarded hbackup hsome hbooted.backup))
    rw [backupDefault, if_neg hskip]
    change Prog.Safe _ _ _ (prepareDefault info payload len >>= _) chip₁
    refine Prog.Safe.bind ((safe_prepareDefault hend.kept).mono (fun _ _ hop => ?_)
      fun _ _ => id) ?_
    · refine Set.Subset.trans hop ?_
      rw [flashCells_of_layout hsame]
      exact hcells count hcount
    · rintro (ret | pdiMeta) chip₂ haccepted prepared hok
      · cases hok
      · cases hok
        exact ⟨haccepted pdiMeta rfl, count, hcount, hsame⟩

private theorem safe_flashDefault (hbooted : BootedFromBackup chip.content env)
    (hcells : ∀ count, count = (tableEntries chip.content).length ∨ request.flashNoBackup = true →
      flashCells chip.content info (notedPartitions chip.content count) len ⊆ cells)
    (pdiData : UInt32) :
    Reaches info.toSectorGeometry cells (queryStep info request)
      (flashDefault info request env .zero pdiData len) chip := by
  rw [flashDefault]
  refine (safe_prepareFlash hbooted hcells).bind ?_
  rintro (ret | ⟨payload, pdiMeta⟩) chip₁ hprepared
  · exact reaches_ret _ _
  · obtain ⟨haccepted, count, hcount, hsame⟩ := hprepared _ rfl
    have hflash := hcells count hcount
    rw [← flashCells_of_layout hsame] at hflash
    exact (reaches_writeDefault haccepted env.memory pdiData pdiMeta).mono hflash

end Run

/-- When VMR runs from the backup, every run in which the tables can be read spares it. -/
theorem sparesBackup_of_reads (call : FlashCall) (chip : Chip) (hmessage : call.payload = .zero)
    (hpartitioned : call.request.flashToLegacy = false)
    (hbooted : BootedFromBackup chip.content call.env)
    (hapart : FlashesApart call chip.content) :
    SparesBackup call chip (queryStep call.info call.request) := by
  have hsafe : Reaches call.info.toSectorGeometry {a | a ∉ backupCells chip.content}
      (queryStep call.info call.request) call.prog chip := by
    unfold FlashCall.prog rmgmtFlashRpuPdi
    rw [hmessage]
    split
    · exact reaches_ret _ _
    split
    · exact reaches_ret _ _
    next pdiOffset pdiSize hinfo =>
      have hpdi : call.pdi = some (call.rh.rhDataBase + pdiOffset.toUInt32, pdiSize.toUInt32) := by
        unfold FlashCall.pdi FlashCall.xclbin
        rw [hinfo]
        rfl
      dsimp only
      rw [if_neg (by simp [hpartitioned])]
      have hcells : ∀ count, count = (tableEntries chip.content).length ∨
          call.request.flashNoBackup = true → flashCells chip.content call.info
            (notedPartitions chip.content count) pdiSize.toUInt32 ⊆
              {a | a ∉ backupCells chip.content} :=
        fun count hcount a ha hbackup =>
          Set.disjoint_left.1 (hapart _ _ count hpdi hcount) hbackup ha
      exact safe_flashDefault hbooted hcells _
  intro chip' op hissues
  exact Set.disjoint_right.2 fun a hchanged => hsafe.issues hissues hchanged

/-! ## A table that is read in part -/

private theorem issued_of_journal {info : SectorGeometry} {α : Type} {chip chip' : Chip}
    {p q : OspiProg α} (run : Prog.Exec (norStep info) chip p chip' q) {op : OspiOp}
    (h : op ∈ chip'.journal) :
    op ∈ chip.journal ∨ ∃ chip'', Prog.Issues (norStep info) chip p chip'' op := by
  induction run with
  | refl => exact .inl h
  | @op chip chip₁ _ sent next answer _ hstep rest ih =>
      rcases ih h with hjournal | ⟨chip₂, next', hrun⟩
      · have hsent : chip₁.journal = sent :: chip.journal := by
          cases sent with
          | program | sectorErase | chipErase =>
              rcases hstep with rfl | ⟨-, rfl⟩
              · rfl
              · rfl
          | read => rw [hstep.1]; rfl
          | progress | moduloByZero | malloc => rw [hstep]; rfl
          | endless => exact hstep.elim
        rw [hsent] at hjournal
        rcases List.mem_cons.1 hjournal with rfl | hold
        · exact .inr ⟨chip, next, .refl _ _⟩
        · exact .inl hold
      · exact .inr ⟨chip₂, next', .op hstep hrun⟩

def abFlash : Memory :=
  let flash : Memory := fun _ => 0
  let flash := flash.store32 0 fptMagic
  let flash := (flash.store 6 1 fun _ => 0x20).store 7 1 fun _ => 4
  let flash := ((flash.store32 0x20 fptTypeBoot).store32 0x2C 0x100000).store32 0x30 0x100000
  let flash := ((flash.store32 0x40 fptTypeBootBackup).store32 0x4C 0x200000).store32 0x50 0x100000
  let flash := (flash.store32 0x60 fptTypePdimeta).store32 0x6C 0x80000
  let flash := (flash.store32 0x80 fptTypePdimetaBackup).store32 0x8C 0x90000
  let flash := (flash.store32 0x80000 fptPdimetaMagic).store32 0x80008 0x1000
  flash.store32 0x90000 fptPdimetaMagic

def backupCall : FlashCall where
  info := gigadeviceInfo
  rh := ⟨0x1000, false⟩
  request := ⟨false, false⟩
  env := ⟨64, 64, 0x7FBF0000, pdiMemory⟩
  payload := BootPayload.zero

def heard (chip : Chip) (address : UInt32) : Option Memory :=
  if address = fptBackupOffset then none
  else some fun offset => chip.content (address.toNat + offset)

def deaf (chip : Chip) : (op : OspiOp) → Option (OspiAns op × Chip)
  | .read address count => some (heard chip address, chip.issue (.read address count))
  | .sectorErase address => some (false, chip.issue (.sectorErase address))
  | _ => none

private theorem norStep_deaf {info : SectorGeometry} (chip : Chip) (op : OspiOp)
    (answer : OspiAns op × Chip) (h : deaf chip op = some answer) :
    norStep info chip op answer.1 answer.2 := by
  cases op with
  | read address count =>
      obtain rfl := Option.some.inj h
      refine ⟨rfl, fun buf hbuf offset _ => ?_⟩
      replace hbuf : heard chip address = some buf := hbuf
      rw [heard] at hbuf
      split at hbuf
      · cases hbuf
      · rw [← Option.some.inj hbuf]
  | sectorErase address =>
      obtain rfl := Option.some.inj h
      exact .inr ⟨rfl, rfl⟩
  | progress | program | malloc | moduloByZero | chipErase | endless => cases h

def lastErased (chip : Chip) : Option UInt32 :=
  match chip.journal with
  | .sectorErase address :: _ => some address
  | _ => none

private theorem abFlash_partitions :
    (partitions abFlash).defaultPartitionOffset = 0x100000 ∧
      (partitions abFlash).backupPartitionOffset = 0x200000 ∧
      (partitions abFlash).backupPartitionSize = 0x100000 ∧
      (partitions abFlash).pdimetaOffset = 0x80000 := by decide +kernel

private theorem bootedFromBackup_abFlash : BootedFromBackup abFlash backupCall.env := by
  obtain ⟨hdefault, hbackup, -, -⟩ := abFlash_partitions
  constructor
  · rw [hbackup]
    decide
  · rw [hdefault]
    decide

private theorem flashesApart_abFlash : FlashesApart backupCall abFlash := by
  obtain ⟨hdefault, hbackup, -, hmeta⟩ := abFlash_partitions
  intro pdiData len count hpdi hcount
  have hall : count = (tableEntries abFlash).length := hcount.resolve_right (by decide)
  have hfound : backupCall.pdi = some (0x11F0, 256) := by decide +kernel
  rw [hfound] at hpdi
  cases hpdi
  rw [hall]
  refine Set.disjoint_left.2 fun a hin hflash => ?_
  change a ∈ flashCells abFlash gigadeviceInfo (partitions abFlash) 256 at hflash
  rw [flashCells, hdefault, hmeta] at hflash
  rw [backupCells, hbackup] at hin
  have hlow : 0x200000 ≤ a := hin.1
  obtain ⟨-, herase | hwrite | hpage | ⟨-, hreset⟩ | ⟨-, hupdate⟩⟩ := hflash
  · have hhigh := (@mem_eraseCells gigadeviceInfo _ _ (by decide) _ herase).2
    have hend : eraseEnd gigadeviceInfo.toSectorGeometry (0x100000 : UInt32).toNat
        (256 : UInt32).toNat = 0x110000 := by decide
    omega
  · have hhigh := (mem_writeCells (by decide) hwrite).2
    have hend : (0x100000 : UInt32).toNat + roundUp 256 = 0x100100 := by decide
    omega
  · have hhigh := (mem_writeCells (by decide) hpage).2
    have hend : (0x100000 : UInt32).toNat + roundUp (UInt32.ofNat ospiVersalPagesize) = 0x100100 := by
      decide
    omega
  · have hhigh := (@mem_eraseCells gigadeviceInfo _ _ (by decide) _ hreset).2
    have hend : eraseEnd gigadeviceInfo.toSectorGeometry (0x80000 : UInt32).toNat
        (UInt32.ofNat ospiVersalPagesize).toNat = 0x90000 := by decide
    omega
  · have hhigh := (@mem_safeWriteCells gigadeviceInfo _ _ (by decide) (by decide) _
      hupdate).2
    have hend : eraseEnd gigadeviceInfo.toSectorGeometry (0x80000 : UInt32).toNat
        (UInt32.ofNat ospiVersalPagesize).toNat = 0x90000 := by decide
    have hkept : keptEnd gigadeviceInfo 0x80000 (UInt32.ofNat ospiVersalPagesize) = 0x90000 := by
      decide
    omega

theorem sparesBackup_abFlash :
    SparesBackup backupCall ⟨abFlash, []⟩ (queryStep backupCall.info backupCall.request) :=
  sparesBackup_of_reads backupCall ⟨abFlash, []⟩ rfl rfl bootedFromBackup_abFlash
    flashesApart_abFlash

private theorem backupCall_erases : (backupCall.prog.answers deaf ⟨abFlash, []⟩).map
    (fun result => lastErased result.2) = some (some 0x200000) := by
  decide +kernel

/-- Only the read of the backup table fails, and the backup partition is erased. -/
theorem not_sparesBackup_deaf :
    BootedFromBackup abFlash backupCall.env ∧
      ¬ SparesBackup backupCall ⟨abFlash, []⟩ (norStep backupCall.info.toSectorGeometry) := by
  refine ⟨bootedFromBackup_abFlash, fun hspares => ?_⟩
  obtain ⟨⟨result, chip'⟩, hrun, hlast⟩ := Option.map_eq_some_iff.1 backupCall_erases
  have herased : .sectorErase 0x200000 ∈ chip'.journal := by
    rw [lastErased] at hlast
    split at hlast
    next address rest hjournal =>
      obtain rfl := Option.some.inj hlast
      rw [hjournal]
      exact List.mem_cons_self
    · cases hlast
  rcases issued_of_journal (Prog.returns_answers norStep_deaf hrun) herased with hold | ⟨_, hissues⟩
  · cases hold
  · obtain ⟨-, hbackup, hsize, -⟩ := abFlash_partitions
    refine Set.disjoint_left.1 (hspares _ _ hissues) (show 0x200000 ∈ backupCells abFlash from ?_) rfl
    rw [backupCells, hbackup, hsize]
    exact ⟨by decide, by decide⟩

end Vmr.Rmgmt
