import Vmr.Rmgmt.LogWindow

/-!
# Chains of texts in the log buffer

The calls of `snprintf` that print a page one text behind the other.  Most of the
chains stop at the end of the buffer; that the first text about a firewall does not
fit is only logged, and the next one is printed behind the end.
-/

namespace Vmr.Rmgmt

open Vmr.Lib Vmr.Shm

/-- Every call is inside the buffer, and so is what is copied out of it. -/
structure Chained (size : UInt32) (prints : List PrintCall × UInt32) : Prop where
  calls : ∀ call ∈ prints.1, call.Inside size
  copied : prints.2 ≤ size

/-- A first text whose length is not looked at, and the texts behind it until the buffer is full;
the calls and how much of the buffer is copied. -/
def printHeaded (size : UInt32) (header : List UInt8) (texts : List (List UInt8)) :
    List PrintCall × UInt32 :=
  let rest := printChain size (fun count => size ≤ count) id texts (UInt32.ofNat header.length)
  (⟨0, size, header⟩ :: rest.1, min rest.2 size)

def printQuery (size : UInt32) (texts : List (List UInt8)) : List PrintCall × UInt32 :=
  printChain size (fun count => size < count) (fun _ => size) texts 0

section Handlers

variable (sources : LogSources) (state : LogState)

def rmgmtCheckFirewallPrints : List PrintCall × UInt32 :=
  let afs := vmrAfs sources.vmrEpFirewallUserBase
  let val := checkFirewall (sources.registers 1) afs
  if val ≠ 0 then
    printHeaded (UInt32.ofNat state.safeSize) (firewallText val)
      (afs.flatMap (firewallTexts (sources.registers 2)))
  else ([], 0)

def vmrRtosTaskStatsPrints : List PrintCall × UInt32 :=
  match sources.taskStatus with
  | none => ([], 0)
  | some tasks =>
      printHeaded (UInt32.ofNat rhLogMaxSize) taskStatsHeader
        (taskStatsTexts tasks sources.totalruntime)

def rmgmtEndpointsQueryPrints (size : UInt32) : List PrintCall × UInt32 :=
  printQuery size (sources.vmrEps.map endpointText)

def rmgmtFptStatusQueryPrints (size : UInt32) : List PrintCall × UInt32 :=
  printQuery size (fptStatusTexts sources.fptQuery sources.scfwVersion sources.ospiVersion)

end Handlers

/-! ## The pages are what the calls leave -/

private theorem safeSize_lt (state : LogState) : state.safeSize < 2 ^ 32 := by
  have hmax : rhLogMaxSize = 0x1000 := rfl
  rw [LogState.safeSize]
  split <;> omega

private theorem printUntilFull_eq_printHeaded {size : Nat} {header : List UInt8}
    {texts : List (List UInt8)} (buf : Memory) (hsize : size < 2 ^ 32)
    (h : totalLength (header :: texts) < 2 ^ 32) :
    let printed := printUntilFull size texts (snprintf buf 0 size header).1 header.length
    let prints := printHeaded (UInt32.ofNat size) header texts
    printed.1 = replay buf prints.1 ∧ min printed.2 size = prints.2.toNat := by
  rw [totalLength_cons] at h
  have hvalue : (UInt32.ofNat size).toNat = size := UInt32.toNat_ofNat_of_lt' hsize
  have hchain := printUntilFull_eq (snprintf buf 0 size header).1 hsize h
  simp only [hchain, printHeaded, toNat_min, replay_cons, hvalue]
  exact ⟨rfl, trivial⟩

section Handlers

variable {sources : LogSources} {state : LogState}

theorem rmgmtCheckFirewall_eq (h : totalLength (firewallReport sources) < 2 ^ 32) :
    (rmgmtCheckFirewall sources state).2 =
      if firewallStatus sources ≠ 0 then
        let prints := rmgmtCheckFirewallPrints sources state
        ({ state with rhLog := replay state.rhLog prints.1 }.copyLog state.dstAddr
          prints.2.toNat).setSize prints.2
      else state := by
  rw [rmgmtCheckFirewall, rmgmtCheckFirewallPrints, ← firewallStatus]
  by_cases htripped : firewallStatus sources ≠ 0
  · obtain ⟨hbuf, hcount⟩ := printUntilFull_eq_printHeaded state.rhLog (safeSize_lt state) h
    simp only [if_pos htripped, snprintf_count, hbuf, hcount, UInt32.ofNat_toNat]
  · simp only [if_neg htripped]

theorem vmrRtosTaskStats_eq {tasks : List TaskStatus} (htasks : sources.taskStatus = some tasks)
    (h : totalLength (taskStatsHeader :: taskStatsTexts tasks sources.totalruntime) < 2 ^ 32) :
    (vmrRtosTaskStats sources state).2 =
      let prints := vmrRtosTaskStatsPrints sources
      ({ state with rhLog := replay state.rhLog prints.1 }.copyLog state.dstAddr
        prints.2.toNat).setSize prints.2 := by
  obtain ⟨hbuf, hcount⟩ := printUntilFull_eq_printHeaded state.rhLog
    (show rhLogMaxSize < 2 ^ 32 by decide) h
  rw [vmrRtosTaskStats, vmrRtosTaskStatsPrints, htasks]
  simp only [snprintf_count, hbuf, hcount, UInt32.ofNat_toNat]

private theorem printed_printAll {texts : List (List UInt8)} (h : totalLength texts < 2 ^ 32)
    (size : UInt32) :
    state.printed (printAll size.toNat texts state.rhLog 0) =
      state.printed (replay state.rhLog (printQuery size texts).1,
        (printQuery size texts).2.toNat) := by
  have hchain := printAll_eq state.rhLog size.toNat_lt (Nat.zero_le _)
    (show 0 + totalLength texts < 2 ^ 32 by rwa [Nat.zero_add])
  rw [hchain, UInt32.ofNat_toNat]
  rfl

theorem rmgmtEndpointsQuery_eq (size : UInt32)
    (h : totalLength (sources.vmrEps.map endpointText) < 2 ^ 32) :
    rmgmtEndpointsQuery sources state size.toNat =
      let prints := rmgmtEndpointsQueryPrints sources size
      state.printed (replay state.rhLog prints.1, prints.2.toNat) :=
  printed_printAll h size

theorem rmgmtFptStatusQuery_eq (size : UInt32)
    (h : totalLength (fptStatusTexts sources.fptQuery sources.scfwVersion sources.ospiVersion) <
      2 ^ 32) :
    rmgmtFptStatusQuery sources state size.toNat =
      let prints := rmgmtFptStatusQueryPrints sources size
      { state with multiboot := sources.fptQuery }.printed
        (replay state.rhLog prints.1, prints.2.toNat) :=
  @printed_printAll { state with multiboot := sources.fptQuery } _ h size

end Handlers

/-! ## Where the calls are -/

section Chains

variable {size : UInt32} {header : List UInt8} {texts : List (List UInt8)}

private theorem chained_printQuery : Chained size (printQuery size texts) := by
  have hfull : ∀ count : UInt32, decide (size < count) = false → count ≤ size := fun count h =>
    UInt32.not_lt.1 (of_decide_eq_false h)
  exact ⟨inside_printChain hfull (UInt32.zero_le), printChain_count_le hfull
    (fun _ => UInt32.le_refl size) (UInt32.zero_le)⟩

private theorem chained_printHeaded (h : header.length ≤ size.toNat) :
    Chained size (printHeaded size header texts) := by
  have hlt := size.toNat_lt
  have hle : UInt32.ofNat header.length ≤ size := by
    rwa [UInt32.le_iff_toNat_le, UInt32.toNat_ofNat_of_lt' (show header.length < 2 ^ 32 by omega)]
  have hfull : ∀ count : UInt32, decide (size ≤ count) = false → count ≤ size := fun count h =>
    UInt32.le_of_lt (UInt32.not_le.1 (of_decide_eq_false h))
  constructor
  · intro call hcall
    rcases List.mem_cons.1 hcall with rfl | hrest
    · exact ⟨UInt32.zero_le, Nat.zero_add _⟩
    · exact inside_printChain hfull hle call hrest
  · rw [UInt32.le_iff_toNat_le, printHeaded, toNat_min]
    exact Nat.min_le_right _ _

private theorem chained_printHeaded_iff (htexts : texts ≠ []) (hlong : header.length < 2 ^ 32) :
    Chained size (printHeaded size header texts) ↔ header.length ≤ size.toNat := by
  refine ⟨fun h => ?_, chained_printHeaded⟩
  obtain ⟨text, texts, rfl⟩ := List.exists_cons_of_ne_nil htexts
  have hsecond := h.calls ⟨UInt32.ofNat header.length, size - UInt32.ofNat header.length, text⟩ (by
    rw [printHeaded, printChain]
    split <;> simp)
  have hle := UInt32.le_iff_toNat_le.1 hsecond.offset_le
  rwa [UInt32.toNat_ofNat_of_lt' hlong] at hle

end Chains

private theorem length_firewallText_le (val : UInt32) : (firewallText val).length ≤ 50 := by
  have hdigits : (hexadecimal val.toNat).length ≤ 8 := by
    rw [hexadecimal, List.length_map]
    exact (Nat.length_toDigits_le_iff (by decide) (by decide)).2 val.toNat_lt
  have hfront : (ascii "AXI Firewall User is tripped, status: 0x").length = 40 := by decide
  have hback : (ascii ". ").length = 2 := by decide
  simp only [firewallText, List.length_append]
  omega

private theorem firewallTexts_ne_nil (registers : Registers) (af : VmrEndpoint) :
    firewallTexts registers af ≠ [] := List.cons_ne_nil _ _

section Handlers

variable (sources : LogSources) (state : LogState)

private theorem chained_taskStats :
    Chained (UInt32.ofNat rhLogMaxSize) (vmrRtosTaskStatsPrints sources) := by
  rw [vmrRtosTaskStatsPrints]
  cases sources.taskStatus with
  | none => exact ⟨by simp, UInt32.zero_le⟩
  | some tasks => exact chained_printHeaded (by decide)

private theorem chained_checkFirewall_iff :
    Chained (UInt32.ofNat state.safeSize) (rmgmtCheckFirewallPrints sources state) ↔
      firewallStatus sources = 0 ∨
        (firewallText (firewallStatus sources)).length ≤ state.payload.size.toNat := by
  have hshort := length_firewallText_le (firewallStatus sources)
  have hsafe : (UInt32.ofNat state.safeSize).toNat = state.safeSize :=
    UInt32.toNat_ofNat_of_lt' (safeSize_lt state)
  have hmax : rhLogMaxSize = 0x1000 := rfl
  rw [rmgmtCheckFirewallPrints, ← firewallStatus]
  by_cases htripped : firewallStatus sources ≠ 0
  · have hreport : (vmrAfs sources.vmrEpFirewallUserBase).flatMap
        (firewallTexts (sources.registers 2)) ≠ [] := by
      rw [vmrAfs, List.flatMap_singleton]
      exact firewallTexts_ne_nil _ _
    simp only [if_pos htripped]
    rw [chained_printHeaded_iff hreport (by omega), hsafe, or_iff_right htripped,
      LogState.safeSize]
    split <;> omega
  · simp only [if_neg htripped]
    exact iff_of_true ⟨by simp, UInt32.zero_le⟩ (.inl (not_not.1 htripped))

end Handlers

/-- Only the report about the firewall may leave its buffer. -/
theorem chained_iff (sources : LogSources) (state : LogState) (size : UInt32) :
    (Chained (UInt32.ofNat state.safeSize) (rmgmtCheckFirewallPrints sources state) ∧
      Chained (UInt32.ofNat rhLogMaxSize) (vmrRtosTaskStatsPrints sources) ∧
      Chained size (rmgmtEndpointsQueryPrints sources size) ∧
      Chained size (rmgmtFptStatusQueryPrints sources size)) ↔
    firewallStatus sources = 0 ∨
      (firewallText (firewallStatus sources)).length ≤ state.payload.size.toNat := by
  rw [chained_checkFirewall_iff]
  exact and_iff_left ⟨chained_taskStats sources, chained_printQuery, chained_printQuery⟩

/-- All registers are 2; eight bytes are requested. -/
theorem not_chained_short :
    let request : LogPayload := { address := 0, size := 8, offset := 0, pid := 0x1 }
    ¬ Chained 8 (rmgmtCheckFirewallPrints { idleSources with registers := fun _ _ => 2 }
      (received request noPartitions (fun _ => 0) fun _ => 0)) := by
  intro request h
  have hsecond := (h.calls ⟨43, 8 - 43, _⟩ (List.mem_cons_of_mem _ List.mem_cons_self)).offset_le
  exact absurd hsecond (by decide)

end Vmr.Rmgmt
