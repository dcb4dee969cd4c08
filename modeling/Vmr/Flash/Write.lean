import Vmr.Flash.Ospi

/-!
# The write and read-back loops

Rules for the two loops of `ospi_flash_write`.  The write loop sends its buffer
in chunks of 8 bytes, the page loop around it only sets the progress.  The
read-back loop reads the pages that the stride selects; with less than ten pages
the stride is zero, and a remainder by zero decides.
-/

namespace Vmr.Flash

open Vmr.Lib

/-! ## Pages -/

theorem toNat_pageCount (len : UInt32) : (pageCount len).toNat = (len.toNat + 255) / 256 := by
  have hlen := len.toNat_lt
  have hquotient : (len / 256).toNat = len.toNat / 256 := UInt32.toNat_div _ _
  have hrest : (len % 256).toNat = len.toNat % 256 := UInt32.toNat_mod _ _
  rw [pageCount]
  by_cases h : len % 256 = 0
  · rw [if_neg (by simpa using h), hquotient]
    rw [← UInt32.toNat_inj, hrest, UInt32.toNat_zero] at h
    omega
  · rw [if_pos h, UInt32.toNat_add, hquotient, UInt32.toNat_one]
    rw [← UInt32.toNat_inj, hrest, UInt32.toNat_zero] at h
    omega

theorem pageCount_le (len : UInt32) : (pageCount len).toNat ≤ 2 ^ 24 := by
  have hlen := len.toNat_lt
  rw [toNat_pageCount]
  omega

theorem page_lt_iff (len : UInt32) (page : Nat) :
    page < (pageCount len).toNat ↔ 256 * page < len.toNat := by
  rw [toNat_pageCount]
  omega

def stride (len : UInt32) : Nat := (pageCount len).toNat / 10

private theorem toNat_stride (len : UInt32) : (pageCount len / 10).toNat = stride len :=
  UInt32.toNat_div _ _

def SurelySampled (len : UInt32) (page : Nat) : Prop :=
  page = 0 ∨ stride len ≠ 0 ∧ 256 * page % stride len = 0

def MaybeSampled (len : UInt32) (page : Nat) : Prop :=
  page = 0 ∨ stride len = 0 ∨ 256 * page % stride len = 0

instance (len : UInt32) (page : Nat) : Decidable (SurelySampled len page) :=
  inferInstanceAs (Decidable (_ ∨ _))

instance (len : UInt32) (page : Nat) : Decidable (MaybeSampled len page) :=
  inferInstanceAs (Decidable (_ ∨ _))

theorem SurelySampled.maybe {len : UInt32} {page : Nat} (h : SurelySampled len page) :
    MaybeSampled len page :=
  h.imp_right fun hstride => .inr hstride.2

/-! ## The transfers of the loops -/

def programChunk (baseAddress : UInt32) (buf : Nat → UInt8) (chunk : Nat) : OspiOp :=
  .program (baseAddress + UInt32.ofNat (8 * chunk)) (8 * chunk) 8 fun offset =>
    buf (8 * chunk + offset)

def readPage (baseAddress : UInt32) (page : Nat) : OspiOp :=
  .read (baseAddress + UInt32.ofNat (256 * page)) 256

theorem toNat_chunkAddress {baseAddress : UInt32} {offset size : Nat}
    (hinside : baseAddress.toNat + size ≤ 2 ^ 32) (hoffset : offset < size) :
    (baseAddress + UInt32.ofNat offset).toNat = baseAddress.toNat + offset := by
  rw [UInt32.toNat_add, UInt32.toNat_ofNat_of_lt' (show offset < 2 ^ 32 by omega)]
  omega

section Rules

variable {σ : Type} {step : σ → (op : OspiOp) → OspiAns op → σ → Prop}
  {guard : σ → OspiOp → Prop} {baseAddress len : UInt32} {buf : Nat → UInt8}

def AfterLoop (finished failed : σ → Prop) : Option Int → σ → Prop
  | none, s => finished s
  | some status, s => status = xstFailure ∧ failed s

theorem safe_loop {body : Nat → OspiProg (Option Int)} {inv : Nat → σ → Prop} {failed : σ → Prop}
    {count : Nat} {s : σ} (hzero : inv 0 s)
    (hbody : ∀ index s, index < count → inv index s →
      Prog.Safe step guard (AfterLoop (inv (index + 1)) failed) (body index) s) :
    Prog.Safe step guard (AfterLoop (inv count) failed) (Prog.forUntil body 0 count) s := by
  refine (@Prog.Safe.forUntil _ _ _ _ step guard _ inv
    (fun status s' => status = xstFailure ∧ failed s') 0 count s hzero ?_).weaken ?_
  · intro index s _ hindex hinv
    refine (hbody index s (by omega) hinv).weaken ?_
    rintro (_ | status) s' hround
    · exact hround
    · exact hround
  · rintro (_ | status) s' hloop
    · rw [Nat.zero_add] at hloop
      exact hloop
    · exact hloop

private theorem safe_flashIoWrite {page : Nat} {inv : Nat → σ → Prop} {failed : σ → Prop} {s : σ}
    (hzero : inv (32 * page) s)
    (hprogram : ∀ chunk s, chunk < 32 * (page + 1) → inv chunk s →
      guard s (programChunk baseAddress buf chunk) ∧
      ∀ (ok : Bool) s', step s (programChunk baseAddress buf chunk) ok s' →
        if ok then inv (chunk + 1) s' else failed s') :
    Prog.Safe step guard (AfterLoop (inv (32 * (page + 1))) failed)
      (flashIoWrite (baseAddress + UInt32.ofNat (256 * page)) (256 * page) 256 buf) s := by
  rw [flashIoWrite]
  refine @safe_loop σ step guard _ (fun index => inv (32 * page + index)) failed 32 s hzero ?_
  intro index s hindex hinv
  have hsource : 256 * page + 8 * index = 8 * (32 * page + index) := by omega
  have hcount : min 8 (256 - 8 * index) = 8 := by omega
  obtain ⟨hguard, hnext⟩ := hprogram (32 * page + index) s (by omega) hinv
  unfold programChunk at hguard hnext
  rw [← hsource] at hguard hnext
  rw [hcount, UInt32.add_assoc, ← UInt32.ofNat_add]
  refine ⟨hguard, fun (ok : Bool) s' hstep => ?_⟩
  have hresult := hnext ok s' hstep
  cases ok with
  | true => exact hresult
  | false => exact ⟨rfl, hresult⟩

theorem safe_writePages {pages : Nat} {inv : Nat → σ → Prop} {failed : σ → Prop} {s : σ}
    (hzero : inv 0 s)
    (hprogress : ∀ page s, page < pages → inv (32 * page) s →
      guard s (.progress (UInt32.ofNat page) (pageCount len)) ∧
      ∀ answer s', step s (.progress (UInt32.ofNat page) (pageCount len)) answer s' →
        inv (32 * page) s')
    (hprogram : ∀ chunk s, chunk < 32 * pages → inv chunk s →
      guard s (programChunk baseAddress buf chunk) ∧
      ∀ (ok : Bool) s', step s (programChunk baseAddress buf chunk) ok s' →
        if ok then inv (chunk + 1) s' else failed s') :
    Prog.Safe step guard (AfterLoop (inv (32 * pages)) failed)
      (Prog.forUntil (writePage baseAddress len buf) 0 pages) s := by
  refine @safe_loop σ step guard _ (fun page => inv (32 * page)) failed pages s hzero ?_
  intro page s hpage hinv
  have hcount : page * ospiVersalPagesize = 256 * page := Nat.mul_comm _ _
  rw [writePage, hcount]
  refine ⟨(hprogress page s hpage hinv).1, fun answer s' hstep => ?_⟩
  exact safe_flashIoWrite ((hprogress page s hpage hinv).2 answer s' hstep)
    fun chunk s hchunk => hprogram chunk s (by omega)

def ReadsBack (step : σ → (op : OspiOp) → OspiAns op → σ → Prop) (guard : σ → OspiOp → Prop)
    (baseAddress len : UInt32) (buf : Nat → UInt8) (page : Nat) (kept failed : σ → Prop)
    (s : σ) : Prop :=
  guard s (readPage baseAddress page) ∧
  ∀ (found : Option Memory) s', step s (readPage baseAddress page) found s' →
    match found with
    | none => failed s'
    | some readBuffer =>
        if misMatch len.toNat (256 * page) readBuffer buf then failed s' else kept s'

private theorem safe_readBack {page : Nat} {kept failed : σ → Prop} {s : σ}
    (h : ReadsBack step guard baseAddress len buf page kept failed s) :
    Prog.Safe step guard (AfterLoop kept failed) (readBack baseAddress len buf (256 * page)) s := by
  refine ⟨h.1, fun (found : Option Memory) s' hstep => ?_⟩
  have hresult := h.2 found s' hstep
  cases found with
  | none => exact ⟨rfl, hresult⟩
  | some readBuffer =>
      dsimp only at hresult
      change AfterLoop kept failed
        (if misMatch len.toNat (256 * page) readBuffer buf then some xstFailure else none) s'
      by_cases hmis : misMatch len.toNat (256 * page) readBuffer buf = true
      · rw [if_pos hmis] at hresult ⊢
        exact ⟨rfl, hresult⟩
      · rw [if_neg hmis] at hresult ⊢
        exact hresult

private theorem remainder_zero {value divisor : UInt32} (h : divisor = 0) :
    remainder value divisor = perform (.moduloByZero value) :=
  if_pos h

private theorem remainder_pos {value divisor : UInt32} (h : divisor ≠ 0) :
    remainder value divisor = .ret (value % divisor) :=
  if_neg h

theorem safe_verifyPages {inv : Nat → σ → Prop} {failed : σ → Prop} {s : σ} (hzero : inv 0 s)
    (hsample : ∀ page s, page < (pageCount len).toNat → SurelySampled len page → inv page s →
      ReadsBack step guard baseAddress len buf page (inv (page + 1)) failed s)
    (hskip : ∀ page s, page < (pageCount len).toNat → ¬ MaybeSampled len page → inv page s →
      inv (page + 1) s)
    (hmodulo : ∀ page s, page < (pageCount len).toNat → page ≠ 0 → stride len = 0 → inv page s →
      guard s (.moduloByZero (UInt32.ofNat (256 * page))) ∧
      ∀ (rest : UInt32) s', step s (.moduloByZero (UInt32.ofNat (256 * page))) rest s' →
        if rest = 0 then
          ReadsBack step guard baseAddress len buf page (inv (page + 1)) failed s'
        else inv (page + 1) s') :
    Prog.Safe step guard (AfterLoop (inv (pageCount len).toNat) failed)
      (Prog.forUntil (verifyPage baseAddress len buf) 0 (pageCount len).toNat) s := by
  refine safe_loop hzero fun page s hpage hinv => ?_
  have hwhole := pageCount_le len
  have hcount : page * ospiVersalPagesize = 256 * page := Nat.mul_comm _ _
  rw [verifyPage, hcount]
  by_cases hfirst : page = 0
  · subst hfirst
    exact safe_readBack (hsample 0 s hpage (.inl rfl) hinv)
  rw [if_pos (show 256 * page ≠ 0 by omega)]
  by_cases hstride : stride len = 0
  · have hdivisor : pageCount len / 10 = 0 := by
      rw [← UInt32.toNat_inj, toNat_stride, hstride, UInt32.toNat_zero]
    obtain ⟨hguard, hrest⟩ := hmodulo page s hpage hfirst hstride hinv
    rw [remainder_zero hdivisor]
    refine ⟨hguard, fun (rest : UInt32) s' hstep => ?_⟩
    have hresult := hrest rest s' hstep
    change Prog.Safe step guard _ (if rest ≠ 0 then .ret none else
      readBack baseAddress len buf (256 * page)) s'
    by_cases hzero : rest = 0
    · rw [if_pos hzero] at hresult
      rw [if_neg (not_not_intro hzero)]
      exact safe_readBack hresult
    · rw [if_neg hzero] at hresult
      rw [if_pos hzero]
      exact hresult
  · have hdivisor : pageCount len / 10 ≠ 0 := by
      rw [ne_eq, ← UInt32.toNat_inj, toNat_stride, UInt32.toNat_zero]
      exact hstride
    have hrest : (UInt32.ofNat (256 * page) % (pageCount len / 10)).toNat =
        256 * page % stride len := by
      rw [UInt32.toNat_mod, toNat_stride,
        UInt32.toNat_ofNat_of_lt' (show 256 * page < 2 ^ 32 by omega)]
    rw [remainder_pos hdivisor]
    change Prog.Safe step guard _ (if UInt32.ofNat (256 * page) % (pageCount len / 10) ≠ 0 then
      .ret none else readBack baseAddress len buf (256 * page)) s
    by_cases hzero : 256 * page % stride len = 0
    · have hno : UInt32.ofNat (256 * page) % (pageCount len / 10) = 0 := by
        rw [← UInt32.toNat_inj, hrest, hzero, UInt32.toNat_zero]
      rw [if_neg (not_not_intro hno)]
      exact safe_readBack (hsample page s hpage (.inr ⟨hstride, hzero⟩) hinv)
    · have hsome : UInt32.ofNat (256 * page) % (pageCount len / 10) ≠ 0 := by
        rw [ne_eq, ← UInt32.toNat_inj, hrest, UInt32.toNat_zero]
        exact hzero
      rw [if_pos hsome]
      refine hskip page s hpage ?_ hinv
      rintro (hpage0 | hnone | hmod)
      · exact hfirst hpage0
      · exact hstride hnone
      · exact hzero hmod

/-- The two loops one after the other.  The read-back of almost 4 GiB never ends. -/
theorem safe_ospiFlashWrite {area : FlashArea} {offset : UInt32} {written verified failed : σ → Prop}
    {s : σ} (hbase : getBaseAddress area + offset = baseAddress)
    (hwrite : Prog.Safe step guard (AfterLoop written failed)
      (Prog.forUntil (writePage baseAddress len buf) 0 (pageCount len).toNat) s)
    (hverify : ∀ s, written s → Prog.Safe step guard (AfterLoop verified failed)
      (Prog.forUntil (verifyPage baseAddress len buf) 0 (pageCount len).toNat) s)
    (hendless : 2 ^ 32 - 256 < len.toNat → ∀ s, verified s → guard s .endless) :
    Prog.Safe step guard (fun ret s' =>
        ret = 0 ∧ len.toNat ≤ 2 ^ 32 - 256 ∧ verified s' ∨ ret = xstFailure ∧ failed s')
      (ospiFlashWrite area buf offset len) s := by
  have hlen := len.toNat_lt
  rw [ospiFlashWrite, hbase]
  refine hwrite.bind ?_
  rintro (_ | status) s hloop
  · refine (hverify s hloop).bind ?_
    rintro (_ | status) s hloop
    · by_cases hnever : (pageCount len).toNat * ospiVersalPagesize % 2 ^ 32 < len.toNat
      · have hlarge : 2 ^ 32 - 256 < len.toNat := by
          rw [toNat_pageCount, ospiVersalPagesize] at hnever
          omega
        simp only [if_pos hnever]
        exact ⟨hendless hlarge s hloop, fun answer => nomatch answer⟩
      · have hsmall : len.toNat ≤ 2 ^ 32 - 256 := by
          rw [toNat_pageCount, ospiVersalPagesize] at hnever
          omega
        simp only [if_neg hnever]
        exact .inl ⟨rfl, hsmall, hloop⟩
    · exact .inr hloop
  · exact .inr hloop

end Rules

/-! ## Replies -/

def anyStep (journal : List OspiOp) (op : OspiOp) (_ : OspiAns op) (journal' : List OspiOp) :
    Prop :=
  journal' = op :: journal

/-- Every transfer succeeds; these are the contents read back and the remainders by zero. -/
def replyStep (content : Memory) (rest : UInt32 → UInt32) (journal : List OspiOp) :
    (op : OspiOp) → OspiAns op → List OspiOp → Prop
  | .program address source count data, (ok : Bool), journal' =>
      ok = true ∧ journal' = .program address source count data :: journal
  | .read address count, (found : Option Memory), journal' =>
      found = some (fun offset => content (address.toNat + offset)) ∧
        journal' = .read address count :: journal
  | .moduloByZero value, (answer : UInt32), journal' =>
      answer = rest value ∧ journal' = .moduloByZero value :: journal
  | op, _, journal' => journal' = op :: journal

theorem replyStep_progress (content : Memory) (rest : UInt32 → UInt32) (journal : List OspiOp)
    {op : OspiOp} (h : op ≠ .endless) :
    ∃ answer journal', replyStep content rest journal op answer journal' := by
  cases op with
  | progress done total => exact ⟨(), _, rfl⟩
  | moduloByZero value => exact ⟨rest value, _, rfl, rfl⟩
  | malloc size => exact ⟨true, _, rfl⟩
  | read address count =>
      exact ⟨some (fun offset => content (address.toNat + offset) : Memory), _, rfl, rfl⟩
  | program address source count data => exact ⟨true, _, rfl, rfl⟩
  | sectorErase address => exact ⟨true, _, rfl⟩
  | chipErase => exact ⟨true, _, rfl⟩
  | endless => exact absurd rfl h

end Vmr.Flash
