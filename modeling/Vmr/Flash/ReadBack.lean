import Vmr.Flash.Write

/-!
# What the read-back finds

A page that was read back is compared with the buffer only when its first word
is all ones.  A page with any other first word passes, whatever it holds.
-/

namespace Vmr.Flash

open Vmr.Lib

/-! ## The comparison of a page -/

def pageAt (content : Memory) (baseAddress : UInt32) (page : Nat) : Nat → UInt8 :=
  fun i => content ((baseAddress + UInt32.ofNat (256 * page)).toNat + i)

def PageMatches (content : Memory) (baseAddress len : UInt32) (buf : Nat → UInt8) (page : Nat) :
    Prop :=
  ∀ i < 256, 256 * page + i < len.toNat → pageAt content baseAddress page i = buf (256 * page + i)

theorem firstWordErased_iff {page : Nat → UInt8} :
    firstWordErased page = true ↔ ∀ i < 4, page i = 0xFF := by
  rw [firstWordErased, decide_eq_true_iff]
  constructor
  · rintro ⟨h0, h1, h2, h3⟩ i hi
    obtain rfl | rfl | rfl | rfl : i = 0 ∨ i = 1 ∨ i = 2 ∨ i = 3 := by omega
    · exact h0
    · exact h1
    · exact h2
    · exact h3
  · exact fun hall => ⟨hall 0 (by decide), hall 1 (by decide), hall 2 (by decide), hall 3 (by decide)⟩

theorem misMatch_eq_false_iff {len count : Nat} {page buf : Nat → UInt8} :
    misMatch len count page buf = false ↔
      firstWordErased page = false ∨ ∀ i < 256, count + i < len → page i = buf (count + i) := by
  rw [misMatch, List.any_eq_false]
  constructor
  · intro hall
    cases hfirst : firstWordErased page with
    | false => exact .inl rfl
    | true =>
        refine .inr fun i hi hbelow => ?_
        have hround := hall i (List.mem_range.2 hi)
        simp only [hfirst, decide_not, Bool.not_eq_true', decide_eq_false_iff_not, not_not] at hround
        rcases hround with hno | hbehind | hsame
        · cases hno
        · omega
        · exact hsame
  · intro hsame i hi
    have hi := List.mem_range.1 hi
    simp only [decide_not, Bool.not_eq_true', decide_eq_false_iff_not, not_not]
    rcases hsame with hfirst | hsame
    · exact .inl hfirst
    · rcases Nat.lt_or_ge (count + i) len with hbelow | hbehind
      · exact .inr (.inr (hsame i hi hbelow))
      · exact .inr (.inl hbehind)

theorem misMatch_congr {len count : Nat} {page page' buf : Nat → UInt8}
    (h : ∀ i < 256, page i = page' i) : misMatch len count page buf = misMatch len count page' buf := by
  have hfirst : firstWordErased page = firstWordErased page' := by
    simp only [firstWordErased, h 0 (by omega), h 1 (by omega), h 2 (by omega), h 3 (by omega)]
  rw [Bool.eq_iff_iff, ← not_iff_not, Bool.not_eq_true, Bool.not_eq_true, misMatch_eq_false_iff,
    misMatch_eq_false_iff, hfirst]
  refine or_congr_right (forall_congr' fun i => forall_congr' fun hi => ?_)
  rw [h i hi]

theorem misMatch_congr_buf {len count : Nat} {page buf buf' : Nat → UInt8}
    (h : ∀ i < 256, buf (count + i) = buf' (count + i)) :
    misMatch len count page buf = misMatch len count page buf' := by
  rw [Bool.eq_iff_iff, ← not_iff_not, Bool.not_eq_true, Bool.not_eq_true, misMatch_eq_false_iff,
    misMatch_eq_false_iff]
  refine or_congr_right (forall_congr' fun i => forall_congr' fun hi => ?_)
  rw [h i hi]

theorem pageAt_zero (content : Memory) (baseAddress : UInt32) :
    pageAt content baseAddress 0 = fun i => content (baseAddress.toNat + i) := by
  funext i
  rw [pageAt, Nat.mul_zero, show UInt32.ofNat 0 = 0 from rfl, UInt32.add_zero]

/-- The page is not the one of the buffer; its first word tells whether that is noticed. -/
def Differs (content : Memory) (baseAddress len : UInt32) (buf : Nat → UInt8) (page : Nat)
    (erased : Bool) : Prop :=
  firstWordErased (pageAt content baseAddress page) = erased ∧
    ¬ PageMatches content baseAddress len buf page

theorem misMatch_iff {content : Memory} {baseAddress len : UInt32} {buf : Nat → UInt8}
    {page : Nat} :
    misMatch len.toNat (256 * page) (pageAt content baseAddress page) buf = true ↔
      Differs content baseAddress len buf page true := by
  rw [← not_iff_not, Bool.not_eq_true, misMatch_eq_false_iff, Differs, not_and_or, not_not,
    Bool.not_eq_true]
  rfl

/-! ## Runs with given contents -/

/-- These contents are read back, if reading does not fail; whether a program transfer fails and
what a remainder by zero is are left open. -/
def readStep (content : Memory) (journal : List OspiOp) :
    (op : OspiOp) → OspiAns op → List OspiOp → Prop
  | .read address count, (found : Option Memory), journal' =>
      journal' = .read address count :: journal ∧
      ∀ buf, found = some buf → ∀ offset < count,
        buf offset = content (address.toNat + offset)
  | op, _, journal' => journal' = op :: journal

/-- Whenever the write returns 0, the pages that were read back are those of the buffer. -/
def VerifiesPages (content : Memory) (area : FlashArea) (buf : Nat → UInt8)
    (offset len : UInt32) : Prop :=
  ∀ journal, Prog.Returns (readStep content) [] (ospiFlashWrite area buf offset len) 0 journal →
    ∀ page, 256 * page < len.toNat → readPage (getBaseAddress area + offset) page ∈ journal →
      PageMatches content (getBaseAddress area + offset) len buf page

private theorem readPage_inj {baseAddress : UInt32} {page page' : Nat} (hpage : 256 * page < 2 ^ 32)
    (hpage' : 256 * page' < 2 ^ 32) (h : readPage baseAddress page = readPage baseAddress page') :
    page = page' := by
  injection h with haddress
  have hoffset := (UInt32.add_right_inj baseAddress).1 haddress
  have hvalue := congrArg UInt32.toNat hoffset
  rw [UInt32.toNat_ofNat_of_lt' hpage, UInt32.toNat_ofNat_of_lt' hpage'] at hvalue
  omega

def NoRead (journal : List OspiOp) : Prop :=
  ∀ op ∈ journal, ∀ address count, op ≠ .read address count

theorem NoRead.record {journal : List OspiOp} (h : NoRead journal) {op : OspiOp}
    (hop : ∀ address count, op ≠ .read address count) : NoRead (op :: journal) := by
  intro op' hmem
  rcases List.mem_cons.1 hmem with rfl | hmem
  · exact hop
  · exact h op' hmem

section Passed

variable {content : Memory} {baseAddress len : UInt32} {buf : Nat → UInt8}

structure Passed (content : Memory) (baseAddress len : UInt32) (buf : Nat → UInt8) (pages : Nat)
    (journal : List OspiOp) : Prop where
  read : ∀ page, 256 * page < len.toNat → readPage baseAddress page ∈ journal →
    MaybeSampled len page ∧ ¬ Differs content baseAddress len buf page true
  sure : ∀ page < pages, SurelySampled len page → ¬ Differs content baseAddress len buf page true

theorem Passed.skip {page : Nat} {journal : List OspiOp}
    (h : Passed content baseAddress len buf page journal) (hskip : ¬ SurelySampled len page) :
    Passed content baseAddress len buf (page + 1) journal where
  read := h.read
  sure page' hpage' hsure := by
    rcases Nat.lt_succ_iff_lt_or_eq.1 hpage' with hlt | rfl
    · exact h.sure page' hlt hsure
    · exact absurd hsure hskip

theorem Passed.next {page : Nat} {journal : List OspiOp}
    (h : Passed content baseAddress len buf page journal) (hpage : 256 * page < len.toNat)
    (hsample : MaybeSampled len page) (hpass : ¬ Differs content baseAddress len buf page true) :
    Passed content baseAddress len buf (page + 1) (readPage baseAddress page :: journal) where
  read page' hpage' hmem := by
    have hlen := len.toNat_lt
    rcases List.mem_cons.1 hmem with hsame | hmem
    · obtain rfl := readPage_inj (by omega) (by omega) hsame
      exact ⟨hsample, hpass⟩
    · exact h.read page' hpage' hmem
  sure page' hpage' hsure := by
    rcases Nat.lt_succ_iff_lt_or_eq.1 hpage' with hlt | rfl
    · exact h.sure page' hlt hsure
    · exact hpass

theorem Passed.record {page : Nat} {journal : List OspiOp}
    (h : Passed content baseAddress len buf page journal) {op : OspiOp}
    (hop : ∀ address count, op ≠ .read address count) :
    Passed content baseAddress len buf page (op :: journal) where
  read page' hpage' hmem := by
    rcases List.mem_cons.1 hmem with hsame | hmem
    · exact absurd hsame.symm (hop _ _)
    · exact h.read page' hpage' hmem
  sure := h.sure

end Passed

section Write

variable {content : Memory} {area : FlashArea} {buf : Nat → UInt8} {offset len : UInt32}

private theorem safe_passed :
    Prog.Safe (readStep content) (fun _ _ => True)
      (fun ret journal => ret = 0 → len.toNat ≤ 2 ^ 32 - 256 ∧
        Passed content (getBaseAddress area + offset) len buf (pageCount len).toNat journal)
      (ospiFlashWrite area buf offset len) [] := by
  refine (@safe_ospiFlashWrite _ _ _ (getBaseAddress area + offset) len buf area offset NoRead
    (Passed content (getBaseAddress area + offset) len buf (pageCount len).toNat) (fun _ => True)
    [] rfl ?_ ?_ fun _ _ _ => trivial).weaken ?_
  · refine @safe_writePages _ _ _ _ len buf _ (fun _ => NoRead) _ [] (fun _ hmem => nomatch hmem)
      ?_ ?_
    · exact fun page journal _ hinv => ⟨trivial, fun _ _ hstep => hstep ▸ hinv.record nofun⟩
    · rintro chunk journal _ hinv
      refine ⟨trivial, fun (ok : Bool) journal' hstep => ?_⟩
      cases ok with
      | true => exact hstep ▸ hinv.record nofun
      | false => trivial
  · intro journal hwritten
    have hread : ∀ page journal, 256 * page < len.toNat → MaybeSampled len page →
        Passed content (getBaseAddress area + offset) len buf page journal →
        ReadsBack (readStep content) (fun _ _ => True) (getBaseAddress area + offset) len buf page
          (Passed content (getBaseAddress area + offset) len buf (page + 1)) (fun _ => True)
          journal := by
      intro page journal hpage hsample hinv
      refine ⟨trivial, fun (found : Option Memory) journal' hstep => ?_⟩
      obtain ⟨rfl, hfound⟩ := hstep
      cases found with
      | none => trivial
      | some readBuffer =>
          have hsame : ∀ i < 256,
              readBuffer i = pageAt content (getBaseAddress area + offset) page i :=
            hfound readBuffer rfl
          dsimp only
          rw [misMatch_congr hsame]
          by_cases hmis : Differs content (getBaseAddress area + offset) len buf page true
          · rw [if_pos (misMatch_iff.2 hmis)]
            trivial
          · rw [if_neg fun hfails => hmis (misMatch_iff.1 hfails)]
            exact hinv.next hpage hsample hmis
    refine @safe_verifyPages _ _ _ _ len buf
      (Passed content (getBaseAddress area + offset) len buf) (fun _ => True) journal ?_ ?_ ?_ ?_
    · exact ⟨fun page _ hmem => absurd rfl (hwritten _ hmem _ _),
        fun page hpage => absurd hpage (Nat.not_lt_zero page)⟩
    · exact fun page journal hpage hsample hinv =>
        hread page journal ((page_lt_iff len page).1 hpage) hsample.maybe hinv
    · exact fun page journal _ hskip hinv => hinv.skip fun hsure => hskip hsure.maybe
    · intro page journal hpage hfirst hstride hinv
      refine ⟨trivial, fun (rest : UInt32) journal' hstep => ?_⟩
      obtain rfl := hstep
      have hkept : Passed content (getBaseAddress area + offset) len buf page
          (.moduloByZero (UInt32.ofNat (256 * page)) :: journal) := hinv.record nofun
      by_cases hrest : rest = 0
      · rw [if_pos hrest]
        exact hread page _ ((page_lt_iff len page).1 hpage) (.inr (.inl hstride)) hkept
      · rw [if_neg hrest]
        refine hkept.skip ?_
        rintro (hpage0 | ⟨hnone, -⟩)
        · exact hfirst hpage0
        · exact hnone hstride
  · rintro ret journal (⟨-, hlen, hinv⟩ | ⟨rfl, -⟩) hret
    · exact ⟨hlen, hinv⟩
    · cases hret

/-! ## A run that reads a chosen page -/

def choose (page : Nat) : UInt32 → UInt32 :=
  fun value => if value = UInt32.ofNat (256 * page) then 0 else 1

private theorem safe_chosen {chosen : Nat} (hlen : len.toNat ≤ 2 ^ 32 - 256)
    (hchosen : 256 * chosen < len.toNat) (hsample : MaybeSampled len chosen)
    (hpass : ¬ Differs content (getBaseAddress area + offset) len buf chosen true)
    (hsure : ∀ page, 256 * page < len.toNat → SurelySampled len page →
      ¬ Differs content (getBaseAddress area + offset) len buf page true) :
    Prog.Safe (replyStep content (choose chosen)) (fun _ op => op ≠ .endless)
      (fun ret journal => ret = 0 ∧ readPage (getBaseAddress area + offset) chosen ∈ journal)
      (ospiFlashWrite area buf offset len) [] := by
  refine (@safe_ospiFlashWrite _ _ _ (getBaseAddress area + offset) len buf area offset
    (fun _ => True) (fun journal => readPage (getBaseAddress area + offset) chosen ∈ journal)
    (fun _ => False) [] rfl ?_ ?_ fun hlarge => absurd hlen (Nat.not_le_of_lt hlarge)).weaken ?_
  · refine @safe_writePages _ _ _ _ len buf _ (fun _ _ => True) (fun _ => False) [] trivial ?_ ?_
    · exact fun page journal _ _ => ⟨nofun, fun _ _ _ => trivial⟩
    · rintro chunk journal _ _
      refine ⟨nofun, fun (ok : Bool) journal' hstep => ?_⟩
      obtain ⟨rfl, -⟩ := hstep
      trivial
  · intro journal _
    have hread : ∀ page journal,
        ¬ Differs content (getBaseAddress area + offset) len buf page true →
        (chosen < page → readPage (getBaseAddress area + offset) chosen ∈ journal) →
        ReadsBack (replyStep content (choose chosen)) (fun _ op => op ≠ .endless)
          (getBaseAddress area + offset) len buf page (fun journal' => chosen < page + 1 →
            readPage (getBaseAddress area + offset) chosen ∈ journal') (fun _ => False) journal := by
      intro page journal hno hinv
      refine ⟨nofun, fun (found : Option Memory) journal' hstep => ?_⟩
      obtain ⟨rfl, rfl⟩ := hstep
      change if misMatch len.toNat (256 * page) (pageAt content _ page) buf = true then _ else _
      rw [if_neg fun hfails => hno (misMatch_iff.1 hfails)]
      intro hlt
      rcases Nat.lt_succ_iff_lt_or_eq.1 hlt with hlt | rfl
      · exact List.mem_cons_of_mem _ (hinv hlt)
      · exact List.mem_cons_self
    refine (@safe_verifyPages _ _ _ _ len buf
      (fun page journal => chosen < page →
        readPage (getBaseAddress area + offset) chosen ∈ journal) (fun _ => False) journal
      (fun hlt => absurd hlt (Nat.not_lt_zero chosen)) ?_ ?_ ?_).weaken ?_
    · exact fun page journal hpage hsure' hinv =>
        hread page journal (hsure page ((page_lt_iff len page).1 hpage) hsure') hinv
    · intro page journal _ hskip hinv hlt
      rcases Nat.lt_succ_iff_lt_or_eq.1 hlt with hlt | rfl
      · exact hinv hlt
      · exact absurd hsample hskip
    · intro page journal hpage hfirst _ hinv
      refine ⟨nofun, fun (rest : UInt32) journal' hstep => ?_⟩
      obtain ⟨rfl, rfl⟩ := hstep
      have hbelow := (page_lt_iff len page).1 hpage
      have hbits := len.toNat_lt
      by_cases hpage' : page = chosen
      · subst hpage'
        rw [choose, if_pos rfl, if_pos rfl]
        exact hread page _ hpass fun hlt => absurd hlt (Nat.lt_irrefl page)
      · have hother : UInt32.ofNat (256 * page) ≠ UInt32.ofNat (256 * chosen) := by
          intro hsame
          have hvalue := congrArg UInt32.toNat hsame
          rw [UInt32.toNat_ofNat_of_lt' (show 256 * page < 2 ^ 32 by omega),
            UInt32.toNat_ofNat_of_lt' (show 256 * chosen < 2 ^ 32 by omega)] at hvalue
          omega
        rw [choose, if_neg hother, if_neg (by decide)]
        exact fun hlt => List.mem_cons_of_mem _ (hinv (by omega))
    · rintro (_ | status) journal hloop
      · exact hloop ((page_lt_iff len chosen).2 hchosen)
      · exact hloop
  · rintro ret journal (⟨hret, -, hread⟩ | ⟨-, hfalse⟩)
    · exact ⟨hret, hread⟩
    · exact hfalse.elim

private theorem replyStep_read {rest : UInt32 → UInt32} {journal journal' : List OspiOp}
    {op : OspiOp}
    {answer : OspiAns op} (h : replyStep content rest journal op answer journal') :
    readStep content journal op answer journal' := by
  cases op with
  | read address count =>
      obtain ⟨rfl, rfl⟩ := h
      refine ⟨rfl, fun buf hbuf offset _ => ?_⟩
      rw [← Option.some.inj hbuf]
  | program | moduloByZero => exact h.2
  | _ => exact h

/-- A page that differs passes unless its first word is all ones. -/
theorem verifiesPages_iff :
    VerifiesPages content area buf offset len ↔
      2 ^ 32 - 256 < len.toNat ∨
      (∃ page, 256 * page < len.toNat ∧ SurelySampled len page ∧
        Differs content (getBaseAddress area + offset) len buf page true) ∨
      ¬ ∃ page, 256 * page < len.toNat ∧ MaybeSampled len page ∧
        Differs content (getBaseAddress area + offset) len buf page false := by
  constructor
  · intro hverifies
    by_contra hcondition
    rw [not_or, not_or, not_not, Nat.not_lt] at hcondition
    obtain ⟨hlen, hnone, chosen, hchosen, hsample, hfirst, hdiffers⟩ := hcondition
    have hpass : ¬ Differs content (getBaseAddress area + offset) len buf chosen true := by
      rintro ⟨hones, -⟩
      rw [hfirst] at hones
      cases hones
    obtain ⟨ret, journal, hrun, rfl, hread⟩ := (safe_chosen hlen hchosen hsample hpass
      fun page hpage hsure hreported => hnone ⟨page, hpage, hsure, hreported⟩).exists_returns
        fun journal op hop => replyStep_progress _ _ journal hop
    exact hdiffers (hverifies journal (hrun.mono fun _ _ _ _ => replyStep_read) chosen hchosen hread)
  · intro hcondition journal hrun page hpage hread
    obtain ⟨hlen, hpassed⟩ := safe_passed.returns hrun rfl
    rcases hcondition with hlarge | ⟨page', hpage', hsure, hreported⟩ | hnone
    · omega
    · exact absurd hreported (hpassed.sure page' ((page_lt_iff len page').2 hpage') hsure)
    · obtain ⟨hsample, hpass⟩ := hpassed.read page hpage hread
      by_contra hdiffers
      cases hfirst : firstWordErased (pageAt content (getBaseAddress area + offset) page) with
      | true => exact hpass ⟨hfirst, hdiffers⟩
      | false => exact hnone ⟨page, hpage, hsample, hfirst, hdiffers⟩

end Write

/-- A flash that reads as zeros passes for any data. -/
theorem not_verifiesPages_zeros :
    ¬ VerifiesPages (fun _ => 0) .clFlashBoot (fun _ => 0x55) 0 256 := by
  intro hverifies
  have hzeros : ∀ page,
      ¬ Differs (fun _ => 0) (getBaseAddress .clFlashBoot + 0) 256 (fun _ => 0x55) page true := by
    rintro page ⟨hones, -⟩
    cases hones
  obtain ⟨ret, journal, hrun, rfl, hread⟩ := (@safe_chosen (fun _ => 0) .clFlashBoot (fun _ => 0x55)
    0 256 0 (by decide) (by decide) (.inl rfl) (hzeros 0) fun page _ _ => hzeros page).exists_returns
      fun journal op hop => replyStep_progress _ _ journal hop
  have hmatches := hverifies journal (hrun.mono fun _ _ _ _ => replyStep_read) 0 (by decide) hread
  exact absurd (hmatches 0 (by decide) (by decide)) (by decide)

end Vmr.Flash
