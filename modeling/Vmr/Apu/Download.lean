import Vmr.Apu.Client

/-!
# Downloading an xclbin in trunks

The size of a trunk is what lies between the offset that the APU has published and
the end of the shared memory, by unsigned subtraction.  Up to the end the download
terminates and is complete; one byte behind it the trunks are empty, and further
behind they are written outside of the memory that is shared.
-/

namespace Vmr.Apu

open Vmr.Lib Vmr.Xgq Vmr.Rmgmt

/-! ## The trunks of a download -/

def copies (events : List ApuEvent) : List (UInt32 × List UInt8) :=
  events.filterMap fun event => match event with
    | ⟨.copyTo addr data, _⟩ => some (addr, data)
    | _ => none

def copied (events : List ApuEvent) : List UInt8 := (copies events).flatMap Prod.snd

def acknowledged (events : List ApuEvent) : List UInt32 :=
  (completions events).map xclbinCmdComplete

/-- Each command tells how many bytes are still to come behind what has been copied so far. -/
def Announced (left : Nat) : List ApuEvent → Prop
  | [] => True
  | ⟨.copyTo _ data, _⟩ :: events => Announced (left - data.length) events
  | ⟨.writeCommand _ (.trunk _ _ remainSize _), _⟩ :: events =>
      remainSize.toNat = left ∧ Announced left events
  | _ :: events => Announced left events

def Inside (client : ApuClient) (chunk : UInt32 × List UInt8) : Prop :=
  vmrEpApuSharedMemoryStart ≤ chunk.1 ∧
    (apuSharedMemoryAddr client.mem.apuXgqRingBuffer).toNat + apuRingBufferSize.toNat ≤
      chunk.1.toNat ∧
    chunk.1.toNat + chunk.2.length ≤ vmrEpApuSharedMemoryEnd.toNat + 1

/-- The download terminates and is complete, whatever the APU answers. -/
structure Delivers (client : ApuClient) (data : Option Memory) (size : UInt32) (priv : UInt64) :
    Prop where
  terminates : ∃ rounds, ∀ events result,
    Prog.Outcome (rmgmtApuDownloadXclbin client rounds data size priv) events result →
      result ≠ none
  inside : ∀ rounds events result,
    Prog.Outcome (rmgmtApuDownloadXclbin client rounds data size priv) events result →
      ∀ chunk ∈ copies events, Inside client chunk
  announced : ∀ rounds events result,
    Prog.Outcome (rmgmtApuDownloadXclbin client rounds data size priv) events result →
      Announced size.toNat events
  complete : ∀ rounds events,
    Prog.Outcome (rmgmtApuDownloadXclbin client rounds data size priv) events (some 0) →
      ∃ memory, data = some memory ∧ copied events = memory.slice 0 size.toNat ∧
        (acknowledged events).map UInt32.toNat = (copies events).map fun chunk => chunk.2.length

private theorem copies_append (first second : List ApuEvent) :
    copies (first ++ second) = copies first ++ copies second :=
  List.filterMap_append

private theorem copied_append (first second : List ApuEvent) :
    copied (first ++ second) = copied first ++ copied second := by
  rw [copied, copies_append, List.flatMap_append]
  rfl

private theorem acknowledged_append (first second : List ApuEvent) :
    acknowledged (first ++ second) = acknowledged first ++ acknowledged second := by
  rw [acknowledged, completions_append, List.map_append]
  rfl

private theorem announced_append {left : Nat} (first second : List ApuEvent) :
    Announced left (first ++ second) ↔
      Announced left first ∧ Announced (left - (copied first).length) second := by
  fun_induction Announced left first with
  | case1 left => exact (and_iff_right trivial).symm
  | case2 left addr data answer events ih =>
      have hcopied : (copied (⟨.copyTo addr data, answer⟩ :: events)).length =
          data.length + (copied events).length := List.length_append
      rw [List.cons_append, Announced, ih, hcopied, Nat.sub_sub]
  | case3 left slot address size remainSize priv answer events ih =>
      rw [List.cons_append, Announced, ih, and_assoc]
      rfl
  | case4 left event events hcopy hcommand ih =>
      have hcopied : copied (event :: events) = copied events := by
        obtain ⟨o, answer⟩ := event
        cases o with
        | copyTo addr data => exact absurd rfl (hcopy addr data answer)
        | _ => rfl
      rw [List.cons_append, Announced, ih, hcopied]
      · exact hcopy
      · exact hcommand

theorem Waited.copies {events : List ApuEvent} (h : Waited events) : copies events = [] := by
  induction h with
  | nil => rfl
  | attempt _ _ ih => exact ih

theorem Waited.announced {events : List ApuEvent} (h : Waited events) (left : Nat) :
    Announced left events := by
  induction h with
  | nil => trivial
  | attempt _ _ ih => exact ih

/-! ## One trunk -/

section Trunk

variable {client : ApuClient} {priv : UInt64} {events : List ApuEvent}

structure Sent (addr : UInt32) (bytes : List UInt8) (remainSize count : UInt32)
    (events : List ApuEvent) : Prop where
  copies : copies events = [(addr, bytes)]
  announced : ∀ left, left - bytes.length = remainSize.toNat → Announced left events
  acknowledged : count ≠ 0 → acknowledged events = [count]

private theorem outcome_trunk {bytes : List UInt8} {trunkSize remainSize baseOff count : UInt32}
    (hready : client.xgqApuReady = true)
    (run : Prog.Outcome (clXgqApuDownloadTrunk client bytes trunkSize remainSize baseOff priv)
      events count) : Sent (apuSharedMemoryAddr baseOff) bytes remainSize count events := by
  have hskip : ¬ clRmgmtApuIsReady client = false := by
    rw [clRmgmtApuIsReady, hready]
    decide
  rw [clXgqApuDownloadTrunk, if_neg hskip] at run
  obtain ⟨_, rest, rfl, hcopied⟩ := Prog.outcome_perform_bind.1 run
  rcases outcome_request (fun _ => return 0) (fun _ => 0) hcopied with ⟨rval, slot, rest, -, rfl, hunsent⟩ |
    ⟨slot, answer, waiting, rest, rfl, hwait, hanswer⟩
  · obtain ⟨rfl, rfl⟩ := Prog.outcome_ret.1 hunsent
    exact ⟨rfl, fun _ _ => trivial, fun h => absurd rfl h⟩
  · rcases outcome_awaitCompletion hwait with
      ⟨waited, slot', cq, completing, value, hwaited, rfl, rfl, hcomplete⟩ |
        ⟨last, hwaited, rfl, -, -⟩
    · obtain ⟨rfl, rfl⟩ := Prog.outcome_ret.1 hcomplete
      obtain ⟨rfl, rfl⟩ := Prog.outcome_ret.1 hanswer
      rw [List.append_nil]
      have hnone : Apu.copies (waited ++ answered slot' cq []) = [] := by
        rw [copies_append, hwaited.copies]
        rfl
      have hread : Apu.acknowledged (waited ++ answered slot' cq []) = [xclbinCmdComplete cq] := by
        rw [acknowledged_append, Apu.acknowledged, hwaited.completions]
        rfl
      refine ⟨?_, fun left hleft => ⟨hleft.symm, ?_⟩, fun _ => ?_⟩
      · exact congrArg (List.cons _) hnone
      · exact (announced_append _ _).2 ⟨hwaited.announced _, trivial⟩
      · exact hread
    · obtain ⟨rfl, rfl⟩ := Prog.outcome_ret.1 hanswer
      rw [List.append_nil]
      refine ⟨?_, fun left hleft => ⟨hleft.symm, ?_⟩, fun h => absurd rfl h⟩
      · exact congrArg (List.cons _) hwaited.copies
      · exact hwaited.announced _

end Trunk

/-! ## The loop -/

section Loop

variable {client : ApuClient} {data : Memory} {priv : UInt64} {baseOff dataSize : UInt32}
  {events : List ApuEvent} {result : Option Int}

def trunkSize (dataSize remainSize : UInt32) : UInt32 :=
  if remainSize > dataSize then dataSize else remainSize

private theorem trunkSize_le (dataSize remainSize : UInt32) :
    (trunkSize dataSize remainSize).toNat ≤ remainSize.toNat ∧
      (trunkSize dataSize remainSize).toNat ≤ dataSize.toNat := by
  rw [trunkSize]
  by_cases hmore : remainSize > dataSize
  · rw [if_pos hmore]
    exact ⟨Nat.le_of_lt (UInt32.lt_iff_toNat_lt.1 hmore), Nat.le_refl _⟩
  · rw [if_neg hmore]
    exact ⟨Nat.le_refl _, UInt32.le_iff_toNat_le.1 (UInt32.not_lt.1 hmore)⟩

private theorem trunkSize_ne_zero {dataSize remainSize : UInt32} (hdata : dataSize ≠ 0)
    (hremain : remainSize ≠ 0) : trunkSize dataSize remainSize ≠ 0 := by
  rw [trunkSize]
  by_cases hmore : remainSize > dataSize
  · rwa [if_pos hmore]
  · rwa [if_neg hmore]

structure Looped (data : Memory) (baseOff dataSize : UInt32) (offset remain rounds : Nat)
    (events : List ApuEvent) (result : Option Int) : Prop where
  terminates : remain < rounds → result ≠ none
  copies : ∀ chunk ∈ copies events, chunk.1 = apuSharedMemoryAddr baseOff ∧
    chunk.2.length ≤ dataSize.toNat
  announced : Announced remain events
  complete : result = some 0 → copied events = data.slice offset remain ∧
    (acknowledged events).map UInt32.toNat = (Apu.copies events).map fun chunk => chunk.2.length

structure Trunk (data : Memory) (baseOff dataSize : UInt32) (offset remain : Nat)
    (trunk count : UInt32) (events : List ApuEvent) : Prop where
  pos : trunk.toNat ≠ 0
  le : trunk.toNat ≤ remain
  limit : trunk.toNat ≤ dataSize.toNat
  copies : copies events = [(apuSharedMemoryAddr baseOff, data.slice offset trunk.toNat)]
  announced : Announced remain events
  acknowledged : count ≠ 0 → acknowledged events = [count]

section Steps

variable {offset remain rounds : Nat} {trunk count : UInt32} {first rest : List ApuEvent}

theorem Trunk.inside (h : Trunk data baseOff dataSize offset remain trunk count first) :
    ∀ chunk ∈ Apu.copies first, chunk.1 = apuSharedMemoryAddr baseOff ∧
      chunk.2.length ≤ dataSize.toNat := by
  intro chunk hchunk
  rw [h.copies] at hchunk
  obtain rfl := List.mem_singleton.1 hchunk
  exact ⟨rfl, Nat.le_trans (Nat.le_of_eq (Memory.length_slice _ _ _)) h.limit⟩

theorem Trunk.stop (h : Trunk data baseOff dataSize offset remain trunk count first) :
    Looped data baseOff dataSize offset remain rounds first (some (-eio)) :=
  ⟨fun _ => Option.some_ne_none _, h.inside, h.announced, fun hzero => absurd hzero (by decide)⟩

theorem Trunk.next (h : Trunk data baseOff dataSize offset remain trunk trunk first)
    (hrest : Looped data baseOff dataSize (offset + trunk.toNat) (remain - trunk.toNat) rounds
      rest result) :
    Looped data baseOff dataSize offset remain (rounds + 1) (first ++ rest) result := by
  have hlength := Memory.length_slice data offset trunk.toNat
  have hcopied : copied first = data.slice offset trunk.toNat := by
    rw [copied, h.copies]
    exact List.append_nil _
  constructor
  · have hpos := h.pos
    have hle := h.le
    exact fun hrounds => hrest.terminates (by omega)
  · intro chunk hchunk
    rw [copies_append] at hchunk
    rcases List.mem_append.1 hchunk with hchunk | hchunk
    · exact h.inside chunk hchunk
    · exact hrest.copies chunk hchunk
  · rw [announced_append, hcopied, hlength]
    exact ⟨h.announced, hrest.announced⟩
  · intro hzero
    obtain ⟨hbytes, hsizes⟩ := hrest.complete hzero
    constructor
    · rw [copied_append, hcopied, hbytes, ← Memory.slice_add, Nat.add_sub_cancel' h.le]
    · rw [acknowledged_append, copies_append, List.map_append, List.map_append, hsizes,
        h.acknowledged fun hnone => h.pos (hnone ▸ rfl), h.copies]
      exact congrArg (· ++ _) (congrArg (fun n => [n]) hlength.symm)

end Steps

private theorem trunk_of_sent {remainSize offset count : UInt32} (hdata : dataSize ≠ 0)
    (hremain : remainSize ≠ 0)
    (hsent : Sent (apuSharedMemoryAddr baseOff)
      (data.slice offset.toNat (trunkSize dataSize remainSize).toNat)
      (remainSize - trunkSize dataSize remainSize) count events) :
    Trunk data baseOff dataSize offset.toNat remainSize.toNat (trunkSize dataSize remainSize)
      count events := by
  obtain ⟨hle, hlimit⟩ := trunkSize_le dataSize remainSize
  refine ⟨fun hzero => trunkSize_ne_zero hdata hremain (UInt32.toNat_inj.1 hzero), hle, hlimit,
    hsent.copies, hsent.announced _ ?_, hsent.acknowledged⟩
  rw [Memory.length_slice, UInt32.toNat_sub_of_le _ _ (UInt32.le_iff_toNat_le.2 hle)]

private theorem outcome_downloadTrunks (hready : client.xgqApuReady = true) (hdata : dataSize ≠ 0)
    {rounds : Nat} {remainSize offset : UInt32} (hfits : offset.toNat + remainSize.toNat < 2 ^ 32)
    (run : Prog.Outcome
      (downloadTrunks client data priv baseOff dataSize rounds remainSize offset) events result) :
    Looped data baseOff dataSize offset.toNat remainSize.toNat rounds events result := by
  induction rounds generalizing remainSize offset events with
  | zero =>
      obtain ⟨rfl, rfl⟩ := Prog.outcome_ret.1 run
      refine ⟨fun hrounds => absurd hrounds (Nat.not_lt_zero _), fun chunk hchunk => ?_, trivial,
        fun hzero => absurd hzero (Option.some_ne_none 0).symm⟩
      exact absurd hchunk List.not_mem_nil
  | succ rounds ih =>
      rw [downloadTrunks] at run
      by_cases hend : remainSize = 0
      · rw [if_pos hend] at run
        obtain ⟨rfl, rfl⟩ := Prog.outcome_ret.1 run
        subst hend
        refine ⟨fun _ => Option.some_ne_none 0, fun chunk hchunk => ?_, trivial,
          fun _ => ⟨rfl, rfl⟩⟩
        exact absurd hchunk List.not_mem_nil
      · rw [if_neg hend] at run
        obtain ⟨count, first, rest, rfl, htrunk, hrest⟩ := Prog.outcome_bind.1 run
        have hfirst := trunk_of_sent hdata hend (outcome_trunk hready htrunk)
        change Prog.Outcome (if count ≠ trunkSize dataSize remainSize then _ else
          downloadTrunks client data priv baseOff dataSize rounds
            (remainSize - trunkSize dataSize remainSize)
            (offset + trunkSize dataSize remainSize)) rest result at hrest
        generalize trunkSize dataSize remainSize = trunk at hfirst hrest
        have hle := hfirst.le
        by_cases hcount : count = trunk
        · subst hcount
          rw [if_neg (not_not.2 rfl)] at hrest
          have hleft : (remainSize - count).toNat = remainSize.toNat - count.toNat :=
            UInt32.toNat_sub_of_le _ _ (UInt32.le_iff_toNat_le.2 hle)
          have hnext : (offset + count).toNat = offset.toNat + count.toNat := by
            rw [UInt32.toNat_add, Nat.mod_eq_of_lt (by omega)]
          have hlooped := ih (by rw [hnext, hleft]; omega) hrest
          rw [hnext, hleft] at hlooped
          exact hfirst.next hlooped
        · rw [if_pos hcount] at hrest
          obtain ⟨rfl, rfl⟩ := Prog.outcome_ret.1 hrest
          rw [List.append_nil]
          exact hfirst.stop

private theorem exists_trunk_refused (hready : client.xgqApuReady = true) (bytes : List UInt8)
    (trunk remainSize : UInt32) :
    ∃ events, Prog.Outcome (clXgqApuDownloadTrunk client bytes trunk remainSize baseOff priv)
      events 0 ∧ copies events = [(apuSharedMemoryAddr baseOff, bytes)] := by
  have hskip : ¬ clRmgmtApuIsReady client = false := by
    rw [clRmgmtApuIsReady, hready]
    decide
  rw [clXgqApuDownloadTrunk, if_neg hskip]
  refine ⟨[⟨.copyTo (apuSharedMemoryAddr baseOff) bytes, ()⟩, ⟨.produce, ((-28 : Int), 0)⟩],
    Prog.outcome_perform_bind.2 ⟨(), _, rfl, ?_⟩, rfl⟩
  exact Prog.outcome_perform_bind.2 ⟨((-28 : Int), 0), [], rfl, .ret 0⟩

private theorem exists_endless (hready : client.xgqApuReady = true) (data : Memory) (rounds : Nat)
    {remainSize : UInt32} (hremain : remainSize ≠ 0) (offset : UInt32) :
    ∃ events, Prog.Outcome
      (downloadTrunks client data priv baseOff 0 rounds remainSize offset) events none := by
  induction rounds generalizing offset with
  | zero => exact ⟨[], .ret none⟩
  | succ rounds ih =>
      have hempty : (if remainSize > 0 then 0 else remainSize) = 0 :=
        if_pos (UInt32.pos_iff_ne_zero.2 hremain)
      obtain ⟨first, htrunk, -⟩ := @exists_trunk_refused client priv baseOff hready
        (data.slice offset.toNat 0) 0 (remainSize - 0)
      obtain ⟨rest, hrest⟩ := ih (offset + 0)
      refine ⟨first ++ rest, ?_⟩
      rw [UInt32.sub_zero] at htrunk
      rw [downloadTrunks, if_neg hremain, hempty]
      dsimp only
      rw [UInt32.sub_zero]
      exact Prog.outcome_bind.2 ⟨0, first, rest, rfl, htrunk, hrest⟩

private theorem exists_first_trunk (hready : client.xgqApuReady = true) (data : Memory)
    (hdata : dataSize ≠ 0) {remainSize : UInt32} (hremain : remainSize ≠ 0) :
    ∃ events, Prog.Outcome
      (downloadTrunks client data priv baseOff dataSize 1 remainSize 0) events (some (-eio)) ∧
      copies events = [(apuSharedMemoryAddr baseOff,
        data.slice 0 (trunkSize dataSize remainSize).toNat)] := by
  obtain ⟨first, htrunk, hcopies⟩ := @exists_trunk_refused client priv baseOff hready
    (data.slice 0 (trunkSize dataSize remainSize).toNat) (trunkSize dataSize remainSize)
    (remainSize - trunkSize dataSize remainSize)
  refine ⟨first, ?_, hcopies⟩
  rw [downloadTrunks, if_neg hremain]
  refine Prog.outcome_bind.2 ⟨0, first, [], (List.append_nil _).symm, htrunk, ?_⟩
  rw [if_pos]
  · exact .ret _
  · exact (trunkSize_ne_zero hdata hremain).symm

end Loop

/-! ## The download -/

section Whole

variable {client : ApuClient} {data : Option Memory} {memory : Memory} {size : UInt32}
  {priv : UInt64} {rounds : Nat} {events : List ApuEvent} {result : Option Int}

private theorem outcome_refused
    (hrefused : clRmgmtApuIsReady client = false ∨ data = none ∨ size = 0)
    (run : Prog.Outcome (rmgmtApuDownloadXclbin client rounds data size priv) events result) :
    events = [] ∧ ∃ error, result = some error ∧ error ≠ 0 := by
  unfold rmgmtApuDownloadXclbin at run
  by_cases hready : clRmgmtApuIsReady client = false
  · rw [if_pos hready] at run
    obtain ⟨rfl, rfl⟩ := Prog.outcome_ret.1 run
    exact ⟨rfl, _, rfl, by decide⟩
  · rw [if_neg hready] at run
    cases data with
    | none =>
        obtain ⟨rfl, rfl⟩ := Prog.outcome_ret.1 run
        exact ⟨rfl, _, rfl, by decide⟩
    | some memory =>
        have hsize : size = 0 := by
          rcases hrefused with hfalse | hnone | hsize
          · exact absurd hfalse hready
          · exact absurd hnone (Option.some_ne_none _)
          · exact hsize
        dsimp only at run
        rw [if_pos hsize] at run
        obtain ⟨rfl, rfl⟩ := Prog.outcome_ret.1 run
        exact ⟨rfl, _, rfl, by decide⟩

private theorem delivers_of_refused
    (hrefused : clRmgmtApuIsReady client = false ∨ data = none ∨ size = 0) :
    Delivers client data size priv := by
  refine ⟨⟨0, fun events result run => ?_⟩, fun rounds events result run => ?_,
    fun rounds events result run => ?_, fun rounds events run => ?_⟩
  · obtain ⟨-, error, rfl, -⟩ := outcome_refused hrefused run
    exact Option.some_ne_none error
  · obtain ⟨rfl, -⟩ := outcome_refused hrefused run
    exact fun chunk hchunk => absurd hchunk List.not_mem_nil
  · obtain ⟨rfl, -⟩ := outcome_refused hrefused run
    trivial
  · obtain ⟨-, error, herror, hnonzero⟩ := outcome_refused hrefused run
    exact absurd (Option.some.inj herror).symm hnonzero

private theorem download_eq (hready : client.xgqApuReady = true) (hsize : size ≠ 0) :
    rmgmtApuDownloadXclbin client rounds (some memory) size priv =
      downloadLocked client rounds memory size priv := by
  have hskip : ¬ clRmgmtApuIsReady client = false := by
    rw [clRmgmtApuIsReady, hready]
    decide
  rw [rmgmtApuDownloadXclbin, if_neg hskip, if_neg hsize]

private theorem outcome_downloadLocked
    (run : Prog.Outcome (downloadLocked client rounds memory size priv) events result) :
    (events = [⟨.takeMutex client.semaData, false⟩] ∧ result = some (-ebusy)) ∨
    ∃ looped after, events = ⟨.takeMutex client.semaData, true⟩ :: (looped ++ after) ∧
      copies after = [] ∧ completions after = [] ∧ (∀ left, Announced left after) ∧
      Prog.Outcome (downloadTrunks client memory priv (dataOff client) (dataSize client) rounds
        size 0) looped result := by
  obtain ⟨area, acquire, rest, rfl, hacquire, hrest⟩ := Prog.outcome_bind.1 run
  obtain ⟨(taken : Bool), tail, rfl, htaken⟩ := Prog.outcome_perform_bind.1 hacquire
  cases taken with
  | false =>
      obtain ⟨rfl, rfl⟩ := Prog.outcome_ret.1 htaken
      obtain ⟨rfl, rfl⟩ := Prog.outcome_ret.1 hrest
      exact .inl ⟨rfl, rfl⟩
  | true =>
      obtain ⟨rfl, rfl⟩ := Prog.outcome_ret.1 htaken
      obtain ⟨ret, looped, after, rfl, hloop, hafter⟩ := Prog.outcome_bind.1 hrest
      cases ret with
      | none =>
          obtain ⟨rfl, rfl⟩ := Prog.outcome_ret.1 hafter
          exact .inr ⟨looped, [], rfl, rfl, rfl, fun _ => trivial, hloop⟩
      | some ret =>
          obtain ⟨given, tail, rfl, hgiven⟩ := Prog.outcome_perform_bind.1 hafter
          obtain ⟨rfl, rfl⟩ := Prog.outcome_ret.1 hgiven
          exact .inr ⟨looped, _, rfl, rfl, rfl, fun _ => trivial, hloop⟩

private theorem exists_download {looped : List ApuEvent}
    (run : Prog.Outcome (downloadTrunks client memory priv (dataOff client) (dataSize client) rounds
      size 0) looped result) :
    ∃ events, Prog.Outcome (downloadLocked client rounds memory size priv) events result ∧
      copies events = copies looped := by
  have hacquire : Prog.Outcome (shmAcquireData client) [⟨.takeMutex client.semaData, true⟩]
      (some (dataOff client, dataSize client)) :=
    Prog.outcome_perform_bind.2 ⟨true, [], rfl, .ret _⟩
  cases result with
  | none =>
      refine ⟨[⟨.takeMutex client.semaData, true⟩] ++ (looped ++ []),
        Prog.outcome_bind.2 ⟨_, _, _, rfl, hacquire, Prog.outcome_bind.2 ⟨_, _, _, rfl, run, ?_⟩⟩, ?_⟩
      · exact .ret none
      · rw [List.append_nil]
        rfl
  | some ret =>
      refine ⟨[⟨.takeMutex client.semaData, true⟩] ++
        (looped ++ [⟨.giveMutex client.semaData, true⟩]),
        Prog.outcome_bind.2 ⟨_, _, _, rfl, hacquire, Prog.outcome_bind.2 ⟨_, _, _, rfl, run, ?_⟩⟩, ?_⟩
      · exact Prog.outcome_perform_bind.2 ⟨true, [], rfl, .ret _⟩
      · rw [copies_append, copies_append]
        exact List.append_nil _

private theorem toNat_apuSharedMemoryAddr (offset : UInt32) :
    (apuSharedMemoryAddr offset).toNat = (0x37000000 + offset.toNat) % 2 ^ 32 :=
  UInt32.toNat_add _ _

private theorem toNat_dataSize (client : ApuClient) :
    (dataSize client).toNat = (2 ^ 32 + 0xFF0001 - (dataOff client).toNat) % 2 ^ 32 := by
  have hlt := (dataOff client).toNat_lt
  rw [dataSize, UInt32.toNat_add, UInt32.toNat_sub, toNat_apuSharedMemoryAddr,
    show UInt32.toNat 1 = 1 from rfl, show vmrEpApuSharedMemoryEnd.toNat = 0x37FF0000 from rfl]
  omega

theorem inside_of_le (hoff : dataOff client ≤ 0xFF0000) {chunk : UInt32 × List UInt8}
    (haddr : chunk.1 = apuSharedMemoryAddr (dataOff client))
    (hlength : chunk.2.length ≤ (dataSize client).toNat) : Inside client chunk := by
  have hring := client.mem.apuXgqRingBuffer.toNat_lt
  have hoffset : (dataOff client).toNat = (client.mem.apuXgqRingBuffer.toNat + 0x1000) % 2 ^ 32 :=
    UInt32.toNat_add _ _
  have hle : (dataOff client).toNat ≤ 0xFF0000 := UInt32.le_iff_toNat_le.1 hoff
  rw [toNat_dataSize] at hlength
  rw [Inside, haddr, UInt32.le_iff_toNat_le, toNat_apuSharedMemoryAddr, toNat_apuSharedMemoryAddr,
    show vmrEpApuSharedMemoryStart.toNat = 0x37000000 from rfl,
    show vmrEpApuSharedMemoryEnd.toNat = 0x37FF0000 from rfl,
    show apuRingBufferSize.toNat = 0x1000 from rfl]
  omega

private theorem not_inside_of_lt (hoff : 0xFF0000 < dataOff client) {bytes : List UInt8}
    (hbytes : bytes.length ≠ 0) :
    ¬ Inside client (apuSharedMemoryAddr (dataOff client), bytes) := by
  rintro ⟨hstart, -, hend⟩
  have hlt : 0xFF0000 < (dataOff client).toNat := UInt32.lt_iff_toNat_lt.1 hoff
  have hmax := (dataOff client).toNat_lt
  rw [UInt32.le_iff_toNat_le, toNat_apuSharedMemoryAddr,
    show vmrEpApuSharedMemoryStart.toNat = 0x37000000 from rfl] at hstart
  rw [toNat_apuSharedMemoryAddr, show vmrEpApuSharedMemoryEnd.toNat = 0x37FF0000 from rfl] at hend
  simp only at hend
  omega

private theorem delivers_of_le (hready : client.xgqApuReady = true) (hsize : size ≠ 0)
    (hoff : dataOff client ≤ 0xFF0000) : Delivers client (some memory) size priv := by
  have hdata : dataSize client ≠ 0 := by
    have hle : (dataOff client).toNat ≤ 0xFF0000 := UInt32.le_iff_toNat_le.1 hoff
    have htoNat := toNat_dataSize client
    intro hzero
    rw [hzero, UInt32.toNat_zero] at htoNat
    omega
  have hfits : (0 : UInt32).toNat + size.toNat < 2 ^ 32 := by
    rw [UInt32.toNat_zero, Nat.zero_add]
    exact size.toNat_lt
  have hlooped {rounds : Nat} {looped : List ApuEvent} {result : Option Int}
      (run : Prog.Outcome (downloadTrunks client memory priv (dataOff client) (dataSize client)
        rounds size 0) looped result) := outcome_downloadTrunks hready hdata hfits run
  constructor
  · refine ⟨size.toNat + 1, fun events result run => ?_⟩
    rw [download_eq hready hsize] at run
    rcases outcome_downloadLocked run with ⟨-, rfl⟩ | ⟨looped, after, -, -, -, -, hloop⟩
    · exact Option.some_ne_none _
    · exact (hlooped hloop).terminates (Nat.lt_succ_self _)
  · intro rounds events result run chunk hchunk
    rw [download_eq hready hsize] at run
    rcases outcome_downloadLocked run with ⟨rfl, -⟩ | ⟨looped, after, rfl, hnone, -, -, hloop⟩
    · exact absurd hchunk List.not_mem_nil
    · have hcopies : copies (looped ++ after) = copies looped := by
        rw [copies_append, hnone, List.append_nil]
      obtain ⟨haddr, hlength⟩ := (hlooped hloop).copies chunk (hcopies ▸ hchunk)
      exact inside_of_le hoff haddr hlength
  · intro rounds events result run
    rw [download_eq hready hsize] at run
    rcases outcome_downloadLocked run with ⟨rfl, -⟩ | ⟨looped, after, rfl, -, -, hafter, hloop⟩
    · trivial
    · exact (announced_append _ _).2 ⟨(hlooped hloop).announced, hafter _⟩
  · intro rounds events run
    rw [download_eq hready hsize] at run
    rcases outcome_downloadLocked run with ⟨-, hbusy⟩ | ⟨looped, after, rfl, hnone, hread, -, hloop⟩
    · exact absurd hbusy (by decide)
    · obtain ⟨hbytes, hsizes⟩ := (hlooped hloop).complete rfl
      have hcopies : copies (⟨.takeMutex client.semaData, true⟩ :: (looped ++ after)) =
          copies looped := by
        change copies (looped ++ after) = _
        rw [copies_append, hnone, List.append_nil]
      have hacknowledged : acknowledged (⟨.takeMutex client.semaData, true⟩ :: (looped ++ after)) =
          acknowledged looped := by
        change acknowledged (looped ++ after) = _
        rw [acknowledged_append, acknowledged, acknowledged, hread]
        exact List.append_nil _
      refine ⟨memory, rfl, ?_, ?_⟩
      · rw [copied, hcopies]
        exact hbytes
      · rw [hacknowledged, hcopies]
        exact hsizes

private theorem not_delivers_of_lt (hready : client.xgqApuReady = true) (hsize : size ≠ 0)
    (hoff : 0xFF0000 < dataOff client) : ¬ Delivers client (some memory) size priv := by
  intro hdelivers
  by_cases hdata : dataSize client = 0
  · obtain ⟨rounds, hterminates⟩ := hdelivers.terminates
    obtain ⟨looped, hlooped⟩ := @exists_endless client priv (dataOff client) hready memory rounds
      size hsize 0
    have hloop : Prog.Outcome (downloadTrunks client memory priv (dataOff client) (dataSize client)
        rounds size 0) looped none := by
      rw [hdata]
      exact hlooped
    obtain ⟨events, run, -⟩ := exists_download hloop
    rw [← download_eq hready hsize] at run
    exact hterminates events none run rfl
  · obtain ⟨looped, hlooped, hfirst⟩ := @exists_first_trunk client priv (dataOff client)
      (dataSize client) hready memory hdata size hsize
    obtain ⟨events, run, hcopies⟩ := exists_download hlooped
    have hinside := hdelivers.inside 1 events (some (-eio))
    rw [download_eq hready hsize] at hinside
    rw [hfirst] at hcopies
    refine not_inside_of_lt hoff ?_ (hinside run _ (hcopies ▸ List.mem_cons_self))
    rw [Memory.length_slice]
    exact fun hzero => trunkSize_ne_zero hdata hsize (UInt32.toNat_inj.1 hzero)

end Whole

/-- Exactly up to the end of the shared memory, unless nothing is sent at all. -/
theorem delivers_iff (client : ApuClient) (data : Option Memory) (size : UInt32) (priv : UInt64) :
    Delivers client data size priv ↔
      clRmgmtApuIsReady client = false ∨ data = none ∨ size = 0 ∨ dataOff client ≤ 0xFF0000 := by
  by_cases hrefused : clRmgmtApuIsReady client = false ∨ data = none ∨ size = 0
  · refine iff_of_true (delivers_of_refused hrefused) ?_
    rcases hrefused with hready | hnone | hsize
    · exact .inl hready
    · exact .inr (.inl hnone)
    · exact .inr (.inr (.inl hsize))
  · obtain ⟨hready, hsome, hsize⟩ := not_or.1 hrefused |>.imp id not_or.1
    obtain ⟨memory, rfl⟩ := Option.ne_none_iff_exists'.1 hsome
    have hready : client.xgqApuReady = true := Bool.not_eq_false _ |>.mp hready
    constructor
    · intro hdelivers
      refine .inr (.inr (.inr (UInt32.not_lt.1 fun hoff => ?_)))
      exact not_delivers_of_lt hready hsize hoff hdelivers
    · rintro (hfalse | hnone | hzero | hoff)
      · exact absurd (hready.symm.trans hfalse) Bool.noConfusion
      · exact absurd hnone (Option.some_ne_none _)
      · exact absurd hzero hsize
      · exact delivers_of_le hready hsize hoff

/-- With a ring at the end of the shared memory the first trunk is written behind it; with a ring
one page before, no trunk has a byte. -/
theorem not_delivers_at_end :
    ¬ Delivers ⟨⟨1, 0xFF0000⟩, some 1, true⟩ (some fun _ => 0) 1 0 ∧
      ¬ Delivers ⟨⟨1, 0xFEF001⟩, some 1, true⟩ (some fun _ => 0) 1 0 :=
  ⟨not_delivers_of_lt rfl (by decide) (by decide), not_delivers_of_lt rfl (by decide) (by decide)⟩

end Vmr.Apu
