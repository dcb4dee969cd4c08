import Vmr.Flash.ReadBack

/-!
# What a write does to the flash

On a NOR flash the chunks that have been sent are a programmed prefix of the
range.  When the write returns 0 the whole range is programmed, and no page that
is surely read back was found to differ.
-/

namespace Vmr.Flash

open Vmr.Lib

inductive WriteOp (baseAddress len : UInt32) (buf : Nat → UInt8) : OspiOp → Prop
  | progress {page : Nat} (hpage : page < (pageCount len).toNat) :
      WriteOp baseAddress len buf (.progress (UInt32.ofNat page) (pageCount len))
  | program {chunk : Nat} (hchunk : chunk < 32 * (pageCount len).toNat) :
      WriteOp baseAddress len buf (programChunk baseAddress buf chunk)
  | read {page : Nat} (hpage : page < (pageCount len).toNat) :
      WriteOp baseAddress len buf (readPage baseAddress page)
  | modulo {page : Nat} (hpage : page < (pageCount len).toNat) :
      WriteOp baseAddress len buf (.moduloByZero (UInt32.ofNat (256 * page)))

theorem WriteOp.ne_endless {baseAddress len : UInt32} {buf : Nat → UInt8} {op : OspiOp}
    (h : WriteOp baseAddress len buf op) : op ≠ .endless := by
  cases h <;> nofun

structure Sent (baseAddress len : UInt32) (buf : Nat → UInt8) (chip chip' : Chip)
    (chunks : Nat) : Prop where
  content : chip'.content = chip.content.program baseAddress.toNat (8 * chunks) buf
  journal : ∀ op ∈ chip'.journal, op ∈ chip.journal ∨ WriteOp baseAddress len buf op
  kept : ∀ op ∈ chip.journal, op ∈ chip'.journal
  chunks : ∀ chunk < chunks, programChunk baseAddress buf chunk ∈ chip'.journal

section Sent

variable {baseAddress len : UInt32} {buf : Nat → UInt8} {chip chip' : Chip}

private theorem sent_zero : Sent baseAddress len buf chip chip 0 where
  content := by rw [Nat.mul_zero, Memory.program_zero]
  journal _ hop := .inl hop
  kept _ hop := hop
  chunks chunk hchunk := absurd hchunk (Nat.not_lt_zero chunk)

theorem Sent.issue {chunks : Nat} (h : Sent baseAddress len buf chip chip' chunks) {op : OspiOp}
    (hop : WriteOp baseAddress len buf op) :
    Sent baseAddress len buf chip (chip'.issue op) chunks where
  content := h.content
  journal op' hmem := by
    rcases List.mem_cons.1 hmem with rfl | hmem
    · exact .inr hop
    · exact h.journal op' hmem
  kept op' hmem := List.mem_cons_of_mem _ (h.kept op' hmem)
  chunks chunk hchunk := List.mem_cons_of_mem _ (h.chunks chunk hchunk)

theorem Sent.next {chunks : Nat} (h : Sent baseAddress len buf chip chip' chunks)
    (hinside : baseAddress.toNat + 256 * (pageCount len).toNat ≤ 2 ^ 32)
    (hchunk : chunks < 32 * (pageCount len).toNat) :
    Sent baseAddress len buf chip (chip'.update (programChunk baseAddress buf chunks)
      (chip'.content.program (baseAddress + UInt32.ofNat (8 * chunks)).toNat 8
        fun offset => buf (8 * chunks + offset))) (chunks + 1) where
  content := by
    simp only [Chip.update]
    rw [h.content, toNat_chunkAddress hinside (by omega), Nat.mul_succ, Memory.program_add]
  journal op' hmem := by
    rcases List.mem_cons.1 hmem with rfl | hmem
    · exact .inr (.program hchunk)
    · exact h.journal op' hmem
  kept op' hmem := List.mem_cons_of_mem _ (h.kept op' hmem)
  chunks chunk hlt := by
    rcases Nat.lt_succ_iff_lt_or_eq.1 hlt with hlt | rfl
    · exact List.mem_cons_of_mem _ (h.chunks chunk hlt)
    · exact List.mem_cons_self

end Sent

def WriteGuard (baseAddress len : UInt32) (buf : Nat → UInt8) (chip chip' : Chip) (op : OspiOp) :
    Prop :=
  WriteOp baseAddress len buf op ∧
    ∃ chunks ≤ 32 * (pageCount len).toNat, Sent baseAddress len buf chip chip' chunks

section Write

variable {info : SectorGeometry} {mayFail : Prop}
  {step : Chip → (op : OspiOp) → OspiAns op → Chip → Prop} {baseAddress len : UInt32}
  {buf : Nat → UInt8}

private theorem safe_writeChunks (htransfers : Transfers info mayFail step)
    (hinside : baseAddress.toNat + 256 * (pageCount len).toNat ≤ 2 ^ 32) (chip : Chip) :
    Prog.Safe step (WriteGuard baseAddress len buf chip)
      (AfterLoop
        (fun chip' => Sent baseAddress len buf chip chip' (32 * (pageCount len).toNat))
        fun chip' => mayFail ∧ ∃ chunks ≤ 32 * (pageCount len).toNat,
          Sent baseAddress len buf chip chip' chunks)
      (Prog.forUntil (writePage baseAddress len buf) 0 (pageCount len).toNat) chip := by
  refine @safe_writePages _ step _ baseAddress len buf _ (fun chunks chip' =>
    Sent baseAddress len buf chip chip' chunks) _ chip sent_zero ?_ ?_
  · intro page chip' hpage hsent
    refine ⟨⟨.progress hpage, 32 * page, by omega, hsent⟩, fun _ chip'' hstep => ?_⟩
    obtain ⟨hnor, -⟩ := htransfers _ _ _ _ hstep
    obtain rfl : chip'' = chip'.issue (.progress (UInt32.ofNat page) (pageCount len)) := hnor
    exact hsent.issue (.progress hpage)
  · intro chunk chip' hchunk hsent
    refine ⟨⟨.program hchunk, chunk, Nat.le_of_lt hchunk, hsent⟩, fun (ok : Bool) chip'' hstep => ?_⟩
    obtain ⟨hnor, hsucceeds⟩ := htransfers _ _ _ _ hstep
    have hnext := hsent.next hinside hchunk
    cases ok with
    | true =>
        rcases hnor with rfl | ⟨hfailed, -⟩
        · exact hnext
        · cases hfailed
    | false =>
        refine ⟨hsucceeds.resolve_right nofun, ?_⟩
        rcases hnor with rfl | ⟨-, rfl⟩
        · exact ⟨chunk + 1, hchunk, hnext⟩
        · exact ⟨chunk, Nat.le_of_lt hchunk, hsent.issue (.program hchunk)⟩

def written (content : Memory) (baseAddress len : UInt32) (buf : Nat → UInt8) : Memory :=
  content.program baseAddress.toNat (256 * (pageCount len).toNat) buf

theorem Sent.content_eq {chip chip' : Chip}
    (h : Sent baseAddress len buf chip chip' (32 * (pageCount len).toNat)) :
    chip'.content = written chip.content baseAddress len buf := by
  rw [h.content, written, ← Nat.mul_assoc]

/-- So many pages have been looked at, and no one that is surely read back differs. -/
structure Checked (baseAddress len : UInt32) (buf : Nat → UInt8) (chip chip' : Chip)
    (pages : Nat) : Prop where
  sent : Sent baseAddress len buf chip chip' (32 * (pageCount len).toNat)
  sure : ∀ page < pages, SurelySampled len page →
    ¬ Differs (written chip.content baseAddress len buf) baseAddress len buf page true

def Sampled (step : Chip → (op : OspiOp) → OspiAns op → Chip → Prop) (len : UInt32)
    (page : Nat) : Prop :=
  SurelySampled len page ∨
    ∃ chip chip', step chip (.moduloByZero (UInt32.ofNat (256 * page))) (0 : UInt32) chip'

structure Refused (mayFail : Prop) (step : Chip → (op : OspiOp) → OspiAns op → Chip → Prop)
    (baseAddress len : UInt32) (buf : Nat → UInt8) (chip chip' : Chip) : Prop where
  sent : Sent baseAddress len buf chip chip' (32 * (pageCount len).toNat)
  differs : mayFail ∨ ∃ page < (pageCount len).toNat, Sampled step len page ∧
    Differs (written chip.content baseAddress len buf) baseAddress len buf page true

section Check

variable {chip chip' : Chip}

theorem Checked.skip {page : Nat} (h : Checked baseAddress len buf chip chip' page)
    (hskip : ¬ SurelySampled len page) : Checked baseAddress len buf chip chip' (page + 1) where
  sent := h.sent
  sure page' hpage' hsure := by
    rcases Nat.lt_succ_iff_lt_or_eq.1 hpage' with hlt | rfl
    · exact h.sure page' hlt hsure
    · exact absurd hsure hskip

theorem Checked.issue {pages : Nat} (h : Checked baseAddress len buf chip chip' pages) {op : OspiOp}
    (hop : WriteOp baseAddress len buf op) :
    Checked baseAddress len buf chip (chip'.issue op) pages where
  sent := h.sent.issue hop
  sure := h.sure

theorem Checked.next {page : Nat} (h : Checked baseAddress len buf chip chip' page)
    (hpass : ¬ Differs (written chip.content baseAddress len buf) baseAddress len buf page true) :
    Checked baseAddress len buf chip chip' (page + 1) where
  sent := h.sent
  sure page' hpage' hsure := by
    rcases Nat.lt_succ_iff_lt_or_eq.1 hpage' with hlt | rfl
    · exact h.sure page' hlt hsure
    · exact hpass

private theorem readsBack_checked (htransfers : Transfers info mayFail step) {page : Nat}
    (hpage : page < (pageCount len).toNat) (hsample : Sampled step len page)
    (h : Checked baseAddress len buf chip chip' page) :
    ReadsBack step (WriteGuard baseAddress len buf chip) baseAddress len buf page
      (fun chip'' => Checked baseAddress len buf chip chip'' (page + 1))
      (Refused mayFail step baseAddress len buf chip) chip' := by
  refine ⟨⟨.read hpage, _, Nat.le_refl _, h.sent⟩, fun (found : Option Memory) chip'' hstep => ?_⟩
  obtain ⟨⟨rfl, hfound⟩, hsucceeds⟩ := htransfers _ _ _ _ hstep
  have hissue := h.issue (.read hpage)
  cases found with
  | none => exact ⟨hissue.sent, .inl (hsucceeds.resolve_right nofun)⟩
  | some readBuffer =>
      have hsame : ∀ i < 256, readBuffer i =
          pageAt (written chip.content baseAddress len buf) baseAddress page i := by
        rw [← h.sent.content_eq]
        exact hfound readBuffer rfl
      dsimp only
      rw [misMatch_congr hsame]
      by_cases hmis :
          Differs (written chip.content baseAddress len buf) baseAddress len buf page true
      · rw [if_pos (misMatch_iff.2 hmis)]
        exact ⟨hissue.sent, .inr ⟨page, hpage, hsample, hmis⟩⟩
      · rw [if_neg fun hfails => hmis (misMatch_iff.1 hfails)]
        exact hissue.next hmis

private theorem safe_checkPages (htransfers : Transfers info mayFail step)
    (hsent : Sent baseAddress len buf chip chip' (32 * (pageCount len).toNat)) :
    Prog.Safe step (WriteGuard baseAddress len buf chip)
      (AfterLoop (fun chip'' => Checked baseAddress len buf chip chip'' (pageCount len).toNat)
        (Refused mayFail step baseAddress len buf chip))
      (Prog.forUntil (verifyPage baseAddress len buf) 0 (pageCount len).toNat) chip' := by
  refine @safe_verifyPages _ step _ baseAddress len buf
    (fun pages chip'' => Checked baseAddress len buf chip chip'' pages) _ chip'
    ⟨hsent, fun page hpage => absurd hpage (Nat.not_lt_zero page)⟩ ?_ ?_ ?_
  · exact fun page chip'' hpage hsample hinv =>
      readsBack_checked htransfers hpage (.inl hsample) hinv
  · exact fun page chip'' _ hskip hinv => hinv.skip fun hsure => hskip hsure.maybe
  · intro page chip'' hpage hfirst hstride hinv
    refine ⟨⟨.modulo hpage, _, Nat.le_refl _, hinv.sent⟩, fun (rest : UInt32) after hstep => ?_⟩
    obtain ⟨hnor, -⟩ := htransfers _ _ _ _ hstep
    obtain rfl : after = chip''.issue (.moduloByZero (UInt32.ofNat (256 * page))) := hnor
    have hissue := hinv.issue (.modulo hpage)
    by_cases hrest : rest = 0
    · rw [if_pos hrest]
      exact readsBack_checked htransfers hpage (.inr ⟨_, _, hrest ▸ hstep⟩) hissue
    · rw [if_neg hrest]
      refine hissue.skip ?_
      rintro (hpage0 | ⟨hnone, -⟩)
      · exact hfirst hpage0
      · exact hnone hstride

end Check

inductive WriteEnd (mayFail : Prop) (step : Chip → (op : OspiOp) → OspiAns op → Chip → Prop)
    (baseAddress len : UInt32) (buf : Nat → UInt8) (chip : Chip) : Int → Chip → Prop
  | done {chip' : Chip} (h : Checked baseAddress len buf chip chip' (pageCount len).toNat) :
      WriteEnd mayFail step baseAddress len buf chip 0 chip'
  | stopped {chip' : Chip} {chunks : Nat} (hfail : mayFail)
      (hchunks : chunks ≤ 32 * (pageCount len).toNat)
      (h : Sent baseAddress len buf chip chip' chunks) :
      WriteEnd mayFail step baseAddress len buf chip xstFailure chip'
  | refused {chip' : Chip} (h : Refused mayFail step baseAddress len buf chip chip') :
      WriteEnd mayFail step baseAddress len buf chip xstFailure chip'

theorem safe_write (htransfers : Transfers info mayFail step) {area : FlashArea} {offset : UInt32}
    (hbase : getBaseAddress area + offset = baseAddress) (hlen : len.toNat ≤ 2 ^ 32 - 256)
    (hinside : baseAddress.toNat + 256 * (pageCount len).toNat ≤ 2 ^ 32) (chip : Chip) :
    Prog.Safe step (WriteGuard baseAddress len buf chip)
      (WriteEnd mayFail step baseAddress len buf chip) (ospiFlashWrite area buf offset len) chip := by
  refine (@safe_ospiFlashWrite _ step _ baseAddress len buf area offset
    (fun chip' => Sent baseAddress len buf chip chip' (32 * (pageCount len).toNat))
    (fun chip' => Checked baseAddress len buf chip chip' (pageCount len).toNat)
    (WriteEnd mayFail step baseAddress len buf chip xstFailure) chip hbase ?_ ?_
    fun hlarge => absurd hlen (Nat.not_le_of_lt hlarge)).weaken ?_
  · refine (safe_writeChunks htransfers hinside chip).weaken ?_
    rintro (_ | status) chip' hloop
    · exact hloop
    · obtain ⟨rfl, hfail, chunks, hchunks, hsent⟩ := hloop
      exact ⟨rfl, .stopped hfail hchunks hsent⟩
  · intro chip' hsent
    refine (safe_checkPages htransfers hsent).weaken ?_
    rintro (_ | status) chip'' hloop
    · exact hloop
    · exact ⟨hloop.1, .refused hloop.2⟩
  · rintro ret chip' (⟨rfl, -, hchecked⟩ | ⟨rfl, hend⟩)
    · exact .done hchecked
    · exact hend

end Write

end Vmr.Flash
