import Vmr.Flash.Write

/-!
# Arithmetic and accesses of the write

Whole pages are sent, so the buffer is read behind its end unless the length is
a multiple of the page size.  A tenth of the page count is a divisor, which is
zero for less than ten pages; a single page does not get to the division.
-/

namespace Vmr.Flash

open Vmr.Lib

def InOrder (len : UInt32) : OspiOp → Prop
  | .moduloByZero _ => False
  | .progress done total =>
      total ≠ 0 ∧ done.toNat * 100 < 2 ^ 31 ∧ done.toNat * 100 / total.toNat ≤ 100
  | .program _ source count _ => source + count ≤ len.toNat
  | _ => True

/-- Whatever the transfers answer, every operation is in order. -/
def WritesInOrder (area : FlashArea) (buf : Nat → UInt8) (offset len : UInt32) : Prop :=
  ∀ journal, Prog.Visits anyStep [] (ospiFlashWrite area buf offset len) journal →
    ∀ op ∈ journal, InOrder len op

section InOrder

variable {len : UInt32}

private theorem inOrder_progress {page : Nat} (hpage : page < (pageCount len).toNat) :
    InOrder len (.progress (UInt32.ofNat page) (pageCount len)) := by
  have hwhole := pageCount_le len
  have hvalue : (UInt32.ofNat page).toNat = page :=
    UInt32.toNat_ofNat_of_lt' (show page < 2 ^ 32 by omega)
  refine ⟨?_, ?_, ?_⟩
  · rw [ne_eq, ← UInt32.toNat_inj, UInt32.toNat_zero]
    omega
  · rw [hvalue]
    omega
  · rw [hvalue, Nat.mul_comm]
    exact Nat.le_of_lt (Nat.div_lt_of_lt_mul (by rw [Nat.mul_comm]; omega))

private theorem inOrder_programChunk {baseAddress : UInt32} {buf : Nat → UInt8} {chunk : Nat}
    (hpages : 256 ∣ len.toNat) (hchunk : chunk < 32 * (pageCount len).toNat) :
    InOrder len (programChunk baseAddress buf chunk) := by
  change 8 * chunk + 8 ≤ len.toNat
  rw [toNat_pageCount] at hchunk
  omega

private theorem stride_eq_zero_iff (hpages : 256 ∣ len.toNat) :
    stride len = 0 ↔ len.toNat < 2560 := by
  rw [stride, toNat_pageCount]
  omega

end InOrder

section Orderly

variable {area : FlashArea} {buf : Nat → UInt8} {offset len : UInt32}

private theorem safe_orderly (hpages : 256 ∣ len.toNat)
    (hcount : len.toNat ≤ 256 ∨ 2560 ≤ len.toNat) :
    Prog.Safe anyStep (fun journal _ => ∀ op ∈ journal, InOrder len op)
      (fun _ journal => ∀ op ∈ journal, InOrder len op) (ospiFlashWrite area buf offset len) [] := by
  have hrecord : ∀ {journal : List OspiOp} {op : OspiOp}, (∀ op ∈ journal, InOrder len op) →
      InOrder len op → ∀ op' ∈ op :: journal, InOrder len op' := by
    intro journal op hold hop op' hmem
    rcases List.mem_cons.1 hmem with rfl | hmem
    · exact hop
    · exact hold op' hmem
  refine (@safe_ospiFlashWrite _ anyStep (fun journal _ => ∀ op ∈ journal, InOrder len op)
    (getBaseAddress area + offset) len buf area offset (fun journal => ∀ op ∈ journal, InOrder len op)
    (fun journal => ∀ op ∈ journal, InOrder len op) (fun journal => ∀ op ∈ journal, InOrder len op)
    [] rfl ?_ ?_ fun _ _ hinv => hinv).weaken ?_
  · refine @safe_writePages _ anyStep _ _ len buf _
      (fun _ journal => ∀ op ∈ journal, InOrder len op) _ [] (fun _ hmem => nomatch hmem) ?_ ?_
    · rintro page journal hpage hinv
      exact ⟨hinv, fun _ _ hstep => hstep ▸ hrecord hinv (inOrder_progress hpage)⟩
    · rintro chunk journal hchunk hinv
      refine ⟨hinv, fun ok _ hstep => ?_⟩
      rw [hstep, ite_self]
      exact hrecord hinv (inOrder_programChunk hpages hchunk)
  · intro journal hwritten
    have hread : ∀ page journal, (∀ op ∈ journal, InOrder len op) →
        ReadsBack anyStep (fun journal _ => ∀ op ∈ journal, InOrder len op)
          (getBaseAddress area + offset) len buf page (fun journal => ∀ op ∈ journal, InOrder len op)
          (fun journal => ∀ op ∈ journal, InOrder len op) journal := by
      intro page journal hinv
      refine ⟨hinv, fun found _ hstep => ?_⟩
      have hkept := hrecord hinv (show InOrder len (readPage (getBaseAddress area + offset) page) from
        trivial)
      rw [hstep]
      cases found with
      | none => exact hkept
      | some readBuffer =>
          dsimp only
          rw [ite_self]
          exact hkept
    refine @safe_verifyPages _ anyStep _ _ len buf
      (fun _ journal => ∀ op ∈ journal, InOrder len op) _ journal hwritten
      (fun page journal _ _ hinv => hread page journal hinv) (fun _ _ _ _ hinv => hinv) ?_
    intro page journal hpage hfirst hstride
    rw [stride_eq_zero_iff hpages] at hstride
    rw [page_lt_iff] at hpage
    omega
  · rintro ret journal (⟨-, -, hinv⟩ | ⟨-, hinv⟩)
    · exact hinv
    · exact hinv

/-! ## A run that meets every operation -/

/-- All chunks have been sent, and every page after the first one got to the division. -/
structure MeetsAll (baseAddress len : UInt32) (buf : Nat → UInt8) (pages : Nat)
    (journal : List OspiOp) : Prop where
  chunks : ∀ chunk < 32 * (pageCount len).toNat, programChunk baseAddress buf chunk ∈ journal
  divisions : stride len = 0 → ∀ page < pages, page ≠ 0 →
    .moduloByZero (UInt32.ofNat (256 * page)) ∈ journal

theorem MeetsAll.record {baseAddress : UInt32} {pages : Nat} {journal : List OspiOp}
    (h : MeetsAll baseAddress len buf pages journal) (op : OspiOp) :
    MeetsAll baseAddress len buf pages (op :: journal) where
  chunks chunk hchunk := List.mem_cons_of_mem _ (h.chunks chunk hchunk)
  divisions hstride page hpage hfirst :=
    List.mem_cons_of_mem _ (h.divisions hstride page hpage hfirst)

private theorem misMatch_of_firstWord {len count : Nat} {page buf : Nat → UInt8}
    (h : firstWordErased page = false) : misMatch len count page buf = false := by
  rw [misMatch, List.any_eq_false]
  intro i _
  simp [h]

private theorem safe_meetsAll :
    Prog.Safe (replyStep (fun _ => 0) fun _ => 0)
      (fun journal op => op = .endless →
        MeetsAll (getBaseAddress area + offset) len buf (pageCount len).toNat journal)
      (fun _ journal =>
        MeetsAll (getBaseAddress area + offset) len buf (pageCount len).toNat journal)
      (ospiFlashWrite area buf offset len) [] := by
  refine (@safe_ospiFlashWrite _ _ _ (getBaseAddress area + offset) len buf area offset
    (fun journal => ∀ chunk < 32 * (pageCount len).toNat,
      programChunk (getBaseAddress area + offset) buf chunk ∈ journal)
    (MeetsAll (getBaseAddress area + offset) len buf (pageCount len).toNat) (fun _ => False)
    [] rfl ?_ ?_ fun _ _ hinv _ => hinv).weaken ?_
  · refine @safe_writePages _ _ _ _ len buf _
      (fun sent journal => ∀ chunk < sent,
        programChunk (getBaseAddress area + offset) buf chunk ∈ journal) (fun _ => False) []
      (fun chunk hchunk => absurd hchunk (Nat.not_lt_zero chunk)) ?_ ?_
    · rintro page journal hpage hinv
      exact ⟨nofun, fun _ _ hstep chunk hchunk =>
        hstep ▸ List.mem_cons_of_mem _ (hinv chunk hchunk)⟩
    · rintro sent journal hsent hinv
      refine ⟨nofun, fun (ok : Bool) journal' hstep => ?_⟩
      obtain ⟨rfl, rfl⟩ := hstep
      intro chunk hchunk
      rcases Nat.lt_succ_iff_lt_or_eq.1 hchunk with hlt | rfl
      · exact List.mem_cons_of_mem _ (hinv chunk hlt)
      · exact List.mem_cons_self
  · intro journal hwritten
    have hread : ∀ page journal,
        MeetsAll (getBaseAddress area + offset) len buf (page + 1) journal →
        ReadsBack (replyStep (fun _ => 0) fun _ => 0)
          (fun journal op => op = .endless →
            MeetsAll (getBaseAddress area + offset) len buf (pageCount len).toNat journal)
          (getBaseAddress area + offset) len buf page
          (MeetsAll (getBaseAddress area + offset) len buf (page + 1)) (fun _ => False) journal := by
      intro page journal hinv
      refine ⟨nofun, fun (found : Option Memory) journal' hstep => ?_⟩
      obtain ⟨rfl, rfl⟩ := hstep
      have hsame : misMatch len.toNat (256 * page) (fun _ => 0) buf = false :=
        misMatch_of_firstWord rfl
      dsimp only
      rw [hsame, if_neg Bool.false_ne_true]
      exact hinv.record _
    have hnext : ∀ {page journal}, page = 0 ∨ stride len ≠ 0 →
        MeetsAll (getBaseAddress area + offset) len buf page journal →
        MeetsAll (getBaseAddress area + offset) len buf (page + 1) journal := by
      intro page journal hpage hinv
      refine ⟨hinv.chunks, fun hstride page' hlt hfirst => ?_⟩
      rcases hpage with rfl | hnone
      · omega
      · exact absurd hstride hnone
    refine @safe_verifyPages _ _ _ _ len buf
      (MeetsAll (getBaseAddress area + offset) len buf) (fun _ => False) journal
      ⟨hwritten, fun _ page hpage => absurd hpage (Nat.not_lt_zero page)⟩ ?_ ?_ ?_
    · intro page journal _ hsample hinv
      exact hread page journal (hnext (hsample.imp_right And.left) hinv)
    · intro page journal _ hskip hinv
      exact hnext (.inr fun hstride => hskip (.inr (.inl hstride))) hinv
    · intro page journal _ _ _ hinv
      refine ⟨nofun, fun (rest : UInt32) journal' hstep => ?_⟩
      obtain ⟨rfl, rfl⟩ := hstep
      rw [if_pos rfl]
      refine hread page _ ⟨(hinv.record _).chunks, fun hstride page' hlt hfirst => ?_⟩
      rcases Nat.lt_succ_iff_lt_or_eq.1 hlt with hlt | rfl
      · exact (hinv.record _).divisions hstride page' hlt hfirst
      · exact List.mem_cons_self
  · rintro ret journal (⟨-, -, hinv⟩ | ⟨-, hfalse⟩)
    · exact hinv
    · exact hfalse.elim

private theorem replyStep_any {content : Memory} {rest : UInt32 → UInt32}
    {journal journal' : List OspiOp}
    {op : OspiOp} {answer : OspiAns op} (h : replyStep content rest journal op answer journal') :
    anyStep journal op answer journal' := by
  cases op with
  | program | read | moduloByZero => exact h.2
  | _ => exact h

private theorem exists_meetsAll (area : FlashArea) (buf : Nat → UInt8) (offset len : UInt32) :
    ∃ journal, Prog.Visits anyStep [] (ospiFlashWrite area buf offset len) journal ∧
      MeetsAll (getBaseAddress area + offset) len buf (pageCount len).toNat journal := by
  have hexec := @Prog.Safe.exists_exec _ _ _ _ _ _ _ [] (ospiFlashWrite area buf offset len)
    (fun journal _ => MeetsAll (getBaseAddress area + offset) len buf (pageCount len).toNat journal)
    safe_meetsAll fun journal op hguard => by
      by_cases hendless : op = .endless
      · exact .inr (hguard hendless)
      · exact .inl (replyStep_progress _ _ journal hendless)
  rcases hexec with ⟨ret, journal, hrun, hmeets⟩ | ⟨journal, op, ⟨next, hrun⟩, hmeets⟩
  · exact ⟨journal, ⟨_, hrun.mono fun _ _ _ _ => replyStep_any⟩, hmeets⟩
  · exact ⟨journal, ⟨_, hrun.mono fun _ _ _ _ => replyStep_any⟩, hmeets⟩

/-- The write is in order for whole pages, and not for two to nine of them. -/
theorem writesInOrder_iff :
    WritesInOrder area buf offset len ↔
      256 ∣ len.toNat ∧ (len.toNat ≤ 256 ∨ 2560 ≤ len.toNat) := by
  constructor
  · intro horder
    obtain ⟨journal, hvisits, hmeets⟩ := exists_meetsAll area buf offset len
    have hpages : 256 ∣ len.toNat := by
      by_contra hrest
      have hcount := toNat_pageCount len
      have hlast := hmeets.chunks (32 * (pageCount len).toNat - 1) (by omega)
      have hbound : 8 * (32 * (pageCount len).toNat - 1) + 8 ≤ len.toNat :=
        horder journal hvisits _ hlast
      omega
    refine ⟨hpages, ?_⟩
    by_contra hfew
    have hsecond := hmeets.divisions ((stride_eq_zero_iff hpages).2 (by omega)) 1
      ((page_lt_iff len 1).2 (by omega)) Nat.one_ne_zero
    exact horder journal hvisits _ hsecond
  · rintro ⟨hpages, hcount⟩ journal hvisits
    exact (safe_orderly hpages hcount).visits (fun _ _ hinv => hinv) (fun _ _ hinv => hinv) hvisits

end Orderly

/-- With two pages there is a remainder by zero. -/
theorem not_writesInOrder_twoPages : ¬ WritesInOrder .clFlashBoot (fun _ => 0) 0 512 := by
  intro horder
  obtain ⟨journal, hvisits, hmeets⟩ := exists_meetsAll .clFlashBoot (fun _ => 0) 0 512
  exact horder journal hvisits _ (hmeets.divisions (by decide) 1 (by decide) (by decide))

end Vmr.Flash
