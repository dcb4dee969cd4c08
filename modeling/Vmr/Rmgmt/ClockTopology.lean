import Vmr.Lib.Reading
import Vmr.Rmgmt.ClockWizard

/-!
# The clock topology of an xclbin

A section of the file lists the clocks of a design: a signed count of 16 bits, and
entries of 136 bytes with a frequency and a type.  `reconfig_clock` counts the types in
a first pass and collects the frequencies in a second one.  The count is compared with
the number of clocks, but not with the size of the section.
-/

namespace Vmr.Rmgmt.Clock

open Vmr.Lib

def ctData : UInt8 := 1
def ctKernel : UInt8 := 2
def ctSystem : UInt8 := 3

def clkTypeData : Nat := 0
def clkTypeKernel : Nat := 1
def clkTypeSystem : Nat := 2
def clkTypeMax : Nat := 4

/-! ## The section -/

section Layout

variable (topo : Memory)

def mCount : Reading Int := do
  let b0 ← read8 topo 0
  let b1 ← read8 topo 1
  return (le16 b0 b1).toInt16.toInt

def mClockFreq (i : Nat) : UInt32 := UInt32.ofNat (2 + 136 * i)

def mFreqMhz (i : Nat) : Reading UInt16 := do
  let b0 ← read8 topo (mClockFreq i)
  let b1 ← read8 topo (mClockFreq i + 1)
  return le16 b0 b1

def mType (i : Nat) : Reading UInt8 := read8 topo (mClockFreq i + 2)

end Layout

/-! ## The two passes -/

structure ClockCounts where
  dataClkCount : Nat
  kernelClkCount : Nat
  systemClkCount : Nat
  deriving DecidableEq, Repr

def ClockCounts.count (counts : ClockCounts) (type : UInt8) : ClockCounts where
  dataClkCount := if type = ctData then counts.dataClkCount + 1 else counts.dataClkCount
  kernelClkCount := if type = ctKernel then counts.kernelClkCount + 1 else counts.kernelClkCount
  systemClkCount := if type = ctSystem then counts.systemClkCount + 1 else counts.systemClkCount

structure Targets where
  clockTypeCount : Nat
  writes : List (Nat × UInt16)
  deriving DecidableEq, Repr

def Targets.write (targets : Targets) (index : Nat) (freq : UInt16) : Targets :=
  { targets with writes := (index, freq) :: targets.writes }

def Targets.store (targets : Targets) (type : UInt8) (freq : UInt16) : Targets :=
  if type = ctData then targets.write clkTypeData freq
  else if type = ctKernel then targets.write clkTypeKernel freq
  else
    { targets.write targets.clockTypeCount freq with
      clockTypeCount := targets.clockTypeCount + 1 }

def KnownType (type : UInt8) : Prop := type = ctData ∨ type = ctKernel ∨ type = ctSystem

instance (type : UInt8) : Decidable (KnownType type) := inferInstanceAs (Decidable (_ ∨ _))

inductive Reconfigured
  | skipped
  /-- The writes before the error was found. -/
  | failed (targets : Targets)
  | requested (targets : Targets) (payload : ClockPayload)

section Passes

variable (topo : Memory)

def countTypes : Nat → Nat → ClockCounts → Reading ClockCounts
  | 0, _, counts => return counts
  | n + 1, i, counts => do
      let type ← mType topo i
      countTypes n (i + 1) (counts.count type)

/-- An unknown type is an error. -/
def collectFreqs : Nat → Nat → Targets → Reading (Bool × Targets)
  | 0, _, targets => return (true, targets)
  | n + 1, i, targets => do
      let type ← mType topo i
      if KnownType type then
        let freq ← mFreqMhz topo i
        collectFreqs n (i + 1) (targets.store type freq)
      else return (false, targets)

end Passes

def Targets.freq (targets : Targets) (index : Nat) : UInt16 :=
  (targets.writes.lookup index).getD 0

def freqScalingInternal (targets : Targets) : ClockPayload where
  oclRegion := 0
  oclReqType := clClockScaleInternal
  oclReqId := 0
  oclReqNum := 4
  oclReqFreq i := (targets.freq i).toUInt32

def reconfigClock (clock : Option Memory) (clockSize : Nat) : Reading Reconfigured :=
  match clock with
  | none => return .skipped
  | some topo =>
      if clockSize = 0 then return .skipped
      else do
        let count ← mCount topo
        if count > clkTypeMax then return .failed ⟨clkTypeSystem, []⟩
        else
          let counts ← countTypes topo count.toNat 0 ⟨0, 0, 0⟩
          if counts.dataClkCount ≠ 1 ∨ counts.kernelClkCount ≠ 1 ∨ counts.systemClkCount > 2 then
            return .failed ⟨clkTypeSystem, []⟩
          else
            let collected ← collectFreqs topo count.toNat 0 ⟨clkTypeSystem, []⟩
            if collected.1 = true then
              return .requested collected.2 (freqScalingInternal collected.2)
            else return .failed collected.2

/-! ## The list of the section -/

structure ClockFreq where
  mFreqMhz : UInt16
  mType : UInt8
  deriving DecidableEq, Repr

def clockFreq (topo : Memory) (i : Nat) : ClockFreq :=
  ⟨(mFreqMhz topo i).value, (mType topo i).value⟩

def clockFreqs (topo : Memory) (clockSize : Nat) : List ClockFreq :=
  if clockSize = 0 then []
  else (List.range (mCount topo).value.toNat).map (clockFreq topo)

def freqsOf (type : UInt8) (list : List ClockFreq) : List UInt16 :=
  (list.filter fun clock => clock.mType = type).map ClockFreq.mFreqMhz

/-- One data clock, one kernel clock, up to two system clocks and nothing else. -/
structure Regular (list : List ClockFreq) : Prop where
  data : (freqsOf ctData list).length = 1
  kernel : (freqsOf ctKernel list).length = 1
  system : (freqsOf ctSystem list).length ≤ 2
  known : ∀ clock ∈ list, KnownType clock.mType

def Reconfigured.writes : Reconfigured → List (Nat × UInt16)
  | .skipped => []
  | .failed targets | .requested targets _ => targets.writes

/-- The topology is decoded without a look behind the section. -/
structure Decodes (topo : Memory) (clockSize : Nat) : Prop where
  within : (reconfigClock (some topo) clockSize).Within fun address => address.toNat < clockSize
  indices : ∀ write ∈ (reconfigClock (some topo) clockSize).value.writes, write.1 < clkTypeMax
  requested : (∃ targets payload,
      (reconfigClock (some topo) clockSize).value = .requested targets payload) ↔
    Regular (clockFreqs topo clockSize)
  frequencies : ∀ targets payload,
    (reconfigClock (some topo) clockSize).value = .requested targets payload →
      payload.oclReqNum = 4 ∧ ∀ i : Fin 4, payload.oclReqFreq i =
        ((freqsOf ctData (clockFreqs topo clockSize) ++
          freqsOf ctKernel (clockFreqs topo clockSize) ++
          freqsOf ctSystem (clockFreqs topo clockSize)).getD i 0).toUInt32

/-! ## The values of the passes -/

section Values

variable {topo : Memory}

private theorem freqsOf_append (type : UInt8) (list list' : List ClockFreq) :
    freqsOf type (list ++ list') = freqsOf type list ++ freqsOf type list' := by
  simp [freqsOf]

private theorem value_countTypes (n i : Nat) (counts : ClockCounts) :
    (countTypes topo n i counts).value =
      ((List.range' i n).map (clockFreq topo)).foldl
        (fun counts clock => counts.count clock.mType) counts := by
  induction n generalizing i counts with
  | zero => rfl
  | succ n ih => simp only [countTypes, Reading.value_bind, ih, List.range'_succ, List.map_cons,
      List.foldl_cons, clockFreq]

private theorem foldl_count (list : List ClockFreq) (counts : ClockCounts) :
    list.foldl (fun counts clock => counts.count clock.mType) counts =
      ⟨counts.dataClkCount + (freqsOf ctData list).length,
        counts.kernelClkCount + (freqsOf ctKernel list).length,
        counts.systemClkCount + (freqsOf ctSystem list).length⟩ := by
  induction list generalizing counts with
  | nil => rfl
  | cons clock list ih =>
      have hcons (type : UInt8) : (freqsOf type (clock :: list)).length =
          (if clock.mType = type then 1 else 0) + (freqsOf type list).length := by
        by_cases htype : clock.mType = type <;> simp [freqsOf, htype, Nat.add_comm]
      rw [List.foldl_cons, ih, ClockCounts.count]
      simp only [hcons]
      congr 1 <;> split <;> omega

def collect : List ClockFreq → Targets → Bool × Targets
  | [], targets => (true, targets)
  | clock :: list, targets =>
      if KnownType clock.mType then collect list (targets.store clock.mType clock.mFreqMhz)
      else (false, targets)

private theorem value_collectFreqs (n i : Nat) (targets : Targets) :
    (collectFreqs topo n i targets).value =
      collect ((List.range' i n).map (clockFreq topo)) targets := by
  induction n generalizing i targets with
  | zero => rfl
  | succ n ih =>
      simp only [collectFreqs, Reading.value_bind, List.range'_succ, List.map_cons, collect,
        clockFreq]
      split
      · simp only [Reading.value_bind, ih]
      · rfl

end Values

/-! ## What is collected -/

section Collected

@[simp] theorem Targets.freq_write (targets : Targets) (index : Nat) (freq : UInt16) (k : Nat) :
    (targets.write index freq).freq k = if k = index then freq else targets.freq k := by
  by_cases hk : k = index
  · simp [Targets.freq, Targets.write, hk]
  · simp [Targets.freq, Targets.write, List.lookup_cons, hk, beq_eq_false_iff_ne.2 hk]

def Targets.place (targets : Targets) (type : UInt8) : Nat :=
  if type = ctData then clkTypeData
  else if type = ctKernel then clkTypeKernel
  else targets.clockTypeCount

private theorem Targets.writes_store (targets : Targets) (type : UInt8) (freq : UInt16) :
    (targets.store type freq).writes = (targets.place type, freq) :: targets.writes := by
  unfold Targets.store Targets.place
  split
  · rfl
  · split <;> rfl

private theorem Targets.freq_store (targets : Targets) (type : UInt8) (freq : UInt16) (k : Nat) :
    (targets.store type freq).freq k =
      if k = targets.place type then freq else targets.freq k := by
  rw [← Targets.freq_write]
  simp only [Targets.freq, Targets.writes_store, Targets.write]

private theorem Targets.clockTypeCount_store (targets : Targets) {type : UInt8}
    (hknown : KnownType type)
    (freq : UInt16) :
    (targets.store type freq).clockTypeCount =
      targets.clockTypeCount + if type = ctSystem then 1 else 0 := by
  rcases hknown with rfl | rfl | rfl <;> rfl

private theorem freqsOf_singleton (type : UInt8) (clock : ClockFreq) :
    freqsOf type [clock] = if clock.mType = type then [clock.mFreqMhz] else [] := by
  by_cases htype : clock.mType = type <;> simp [freqsOf, htype]

private theorem freqsOf_concat (type : UInt8) (list : List ClockFreq) (clock : ClockFreq) :
    freqsOf type (list ++ [clock]) =
      freqsOf type list ++ if clock.mType = type then [clock.mFreqMhz] else [] := by
  rw [freqsOf_append, freqsOf_singleton]

structure Collected (read : List ClockFreq) (targets : Targets) : Prop where
  clockTypeCount : targets.clockTypeCount = 2 + (freqsOf ctSystem read).length
  data : targets.freq clkTypeData = (freqsOf ctData read).getLastD 0
  kernel : targets.freq clkTypeKernel = (freqsOf ctKernel read).getLastD 0
  system : ∀ j, targets.freq (2 + j) = (freqsOf ctSystem read).getD j 0
  indices : ∀ write ∈ targets.writes, write.1 < targets.clockTypeCount

theorem Collected.empty : Collected [] ⟨clkTypeSystem, []⟩ where
  clockTypeCount := rfl
  data := rfl
  kernel := rfl
  system _ := rfl
  indices _ hwrite := absurd hwrite List.not_mem_nil

/-- A clock of each type goes to a place of its own, system clocks behind each other. -/
structure Placed (read : List ClockFreq) (type : UInt8) (place : Nat) : Prop where
  data : clkTypeData = place ↔ type = ctData
  kernel : clkTypeKernel = place ↔ type = ctKernel
  system : ∀ j, 2 + j = place ↔ type = ctSystem ∧ j = (freqsOf ctSystem read).length

theorem Collected.placed {read : List ClockFreq} {targets : Targets} (h : Collected read targets)
    {type : UInt8} (hknown : KnownType type) : Placed read type (targets.place type) := by
  have hcount := h.clockTypeCount
  rcases hknown with rfl | rfl | rfl
  · have hplace : targets.place ctData = 0 := rfl
    rw [hplace]
    refine ⟨by decide, by decide, fun j => ⟨fun hj => by omega, fun hsystem => ?_⟩⟩
    exact absurd hsystem.1 (by decide)
  · have hplace : targets.place ctKernel = 1 := rfl
    rw [hplace]
    refine ⟨by decide, by decide, fun j => ⟨fun hj => by omega, fun hsystem => ?_⟩⟩
    exact absurd hsystem.1 (by decide)
  · have hplace : targets.place ctSystem = targets.clockTypeCount := rfl
    rw [hplace, hcount]
    refine ⟨⟨fun hdata => ?_, fun htype => absurd htype (by decide)⟩,
      ⟨fun hkernel => ?_, fun htype => absurd htype (by decide)⟩, fun j => by simp⟩
    · rw [clkTypeData] at hdata
      omega
    · rw [clkTypeKernel] at hkernel
      omega

theorem Collected.store {read : List ClockFreq} {targets : Targets} (h : Collected read targets)
    {clock : ClockFreq} (hknown : KnownType clock.mType) :
    Collected (read ++ [clock]) (targets.store clock.mType clock.mFreqMhz) := by
  have hcount := h.clockTypeCount
  have hplaced := h.placed hknown
  have hstored := targets.clockTypeCount_store hknown clock.mFreqMhz
  refine ⟨?_, ?_, ?_, fun j => ?_, ?_⟩
  · rw [hstored, freqsOf_concat, hcount]
    split <;> simp [Nat.add_assoc]
  · simp only [Targets.freq_store, hplaced.data, freqsOf_concat, h.data]
    split <;> simp
  · simp only [Targets.freq_store, hplaced.kernel, freqsOf_concat, h.kernel]
    split <;> simp
  · simp only [Targets.freq_store, hplaced.system, freqsOf_concat, h.system]
    by_cases htype : clock.mType = ctSystem
    · rcases Nat.lt_trichotomy j (freqsOf ctSystem read).length with hj | hj | hj
      · simp [htype, List.getElem?_append_left hj, hj.ne]
      · simp [htype, hj]
      · rw [if_neg (fun hsystem => hj.ne' hsystem.2), if_pos htype,
          List.getD_eq_default _ _ hj.le, List.getD_eq_default _ _ (by rw [List.length_append]; exact hj)]
    · simp [htype]
  · rw [Targets.writes_store, hstored]
    refine List.forall_mem_cons.2 ⟨?_, fun write hwrite => ?_⟩
    · unfold Targets.place clkTypeData clkTypeKernel
      grind [KnownType]
    · exact Nat.lt_of_lt_of_le (h.indices write hwrite) (Nat.le_add_right _ _)

private theorem collect_spec {read : List ClockFreq} {targets : Targets}
    (h : Collected read targets)
    (list : List ClockFreq) :
    ((collect list targets).1 = true ↔ ∀ clock ∈ list, KnownType clock.mType) ∧
      ∃ taken, taken <+: list ∧ Collected (read ++ taken) (collect list targets).2 ∧
        ((collect list targets).1 = true → taken = list) := by
  induction list generalizing read targets with
  | nil => exact ⟨by simp [collect], [], List.prefix_refl _, by simpa [collect] using h, fun _ => rfl⟩
  | cons clock list ih =>
      by_cases hknown : KnownType clock.mType
      · obtain ⟨hall, taken, hprefix, hcollected, hwhole⟩ := ih (h.store hknown)
        rw [collect, if_pos hknown]
        refine ⟨by simp [hall, hknown], clock :: taken, ?_, ?_, fun hsome => ?_⟩
        · exact List.cons_prefix_cons.2 ⟨rfl, hprefix⟩
        · simpa using hcollected
        · rw [hwhole hsome]
      · rw [collect, if_neg hknown]
        exact ⟨by simp [hknown], [], List.nil_prefix, by simpa using h, by simp⟩

end Collected

/-! ## The addresses that are read -/

section Within

variable {topo : Memory} {allowed : UInt32 → Prop}

private theorem within_mCount :
    (mCount topo).Within allowed ↔ allowed 0 ∧ allowed 1 := by
  simp [mCount, Reading.within_bind]

private theorem within_countTypes {n i : Nat} {counts : ClockCounts} :
    (countTypes topo n i counts).Within allowed ↔
      ∀ k, i ≤ k → k < i + n → allowed (mClockFreq k + 2) := by
  induction n generalizing i counts with
  | zero => simp only [countTypes, Reading.within_pure, true_iff]; omega
  | succ n ih =>
      simp only [countTypes, Reading.within_bind, mType, within_read8, ih]
      constructor
      · rintro ⟨hfirst, hrest⟩ k hle hlt
        rcases Nat.eq_or_lt_of_le hle with rfl | hlt'
        · exact hfirst
        · exact hrest k hlt' (by omega)
      · intro h
        exact ⟨h i (Nat.le_refl i) (by omega), fun k hle hlt => h k (by omega) (by omega)⟩

private theorem within_collectFreqs {n i : Nat} {targets : Targets}
    (h : ∀ k, i ≤ k → k < i + n →
      allowed (mClockFreq k) ∧ allowed (mClockFreq k + 1) ∧ allowed (mClockFreq k + 2)) :
    (collectFreqs topo n i targets).Within allowed := by
  induction n generalizing i targets with
  | zero => exact Reading.within_pure _
  | succ n ih =>
      obtain ⟨h0, h1, h2⟩ := h i (Nat.le_refl i) (by omega)
      simp only [collectFreqs, Reading.within_bind, mType, within_read8, h2, true_and]
      split
      · rw [Reading.within_bind]
        refine ⟨by simp [mFreqMhz, Reading.within_bind, h0, h1], ih fun k hle hlt => ?_⟩
        exact h k (by omega) (by omega)
      · exact Reading.within_pure _

private theorem toNat_mClockFreq {i offset : Nat} (hi : i < clkTypeMax) (hoffset : offset < 136) :
    (mClockFreq i + UInt32.ofNat offset).toNat = 2 + 136 * i + offset := by
  rw [clkTypeMax] at hi
  have hbase : (mClockFreq i).toNat = 2 + 136 * i := by
    rw [mClockFreq, UInt32.toNat_ofNat', Nat.mod_eq_of_lt (by omega)]
  rw [toNat_add_lt (by omega), hbase]

def InSection (topo : Memory) (clockSize : Nat) : Prop :=
  2 ≤ clockSize ∧ ((mCount topo).value ≤ clkTypeMax →
    ∀ i < (mCount topo).value.toNat, 136 * i + 5 ≤ clockSize)

private theorem within_reconfigClock {clockSize : Nat} (hsize : clockSize ≠ 0) :
    (reconfigClock (some topo) clockSize).Within (fun address => address.toNat < clockSize) ↔
      InSection topo clockSize := by
  have hcount : (mCount topo).Within (fun address => address.toNat < clockSize) ↔
      2 ≤ clockSize := by
    rw [within_mCount]
    simp only [UInt32.toNat_zero, UInt32.toNat_one]
    omega
  simp only [reconfigClock, if_neg hsize, Reading.within_bind, hcount, InSection]
  refine and_congr_right fun hle => ?_
  by_cases hmany : (mCount topo).value > clkTypeMax
  · simp only [hmany, if_true, Reading.within_pure, true_iff]
    omega
  · have hfew : (mCount topo).value.toNat ≤ clkTypeMax := by omega
    have haddress (k offset : Nat) (hk : k < (mCount topo).value.toNat) (hoffset : offset < 136) :
        (mClockFreq k + UInt32.ofNat offset).toNat = 2 + 136 * k + offset :=
      toNat_mClockFreq (Nat.lt_of_lt_of_le hk hfew) hoffset
    simp only [hmany, if_false, Reading.within_bind, within_countTypes]
    constructor
    · rintro ⟨htypes, -⟩ - k hk
      have hin := htypes k (Nat.zero_le k) (by omega)
      rw [show (2 : UInt32) = UInt32.ofNat 2 from rfl, haddress k 2 hk (by decide)] at hin
      omega
    · intro h
      have hentry (k : Nat) (hk : k < (mCount topo).value.toNat) (offset : Nat)
          (hoffset : offset < 3) :
          (mClockFreq k + UInt32.ofNat offset).toNat < clockSize := by
        have hin := h (by omega) k hk
        rw [haddress k offset hk (by omega)]
        omega
      refine ⟨fun k _ hk => hentry k (by omega) 2 (by decide), ?_⟩
      split
      · exact Reading.within_pure _
      · rw [Reading.within_bind]
        refine ⟨within_collectFreqs fun k _ hk => ⟨?_, ?_, ?_⟩, ?_⟩
        · simpa using hentry k (by omega) 0 (by decide)
        · exact hentry k (by omega) 1 (by decide)
        · exact hentry k (by omega) 2 (by decide)
        · split <;> exact Reading.within_pure _

end Within

/-! ## What is requested -/

section Requested

variable {topo : Memory} {clockSize : Nat}

private theorem value_reconfigClock (hsize : clockSize ≠ 0)
    (hfew : (mCount topo).value ≤ clkTypeMax) :
    (reconfigClock (some topo) clockSize).value =
      if (freqsOf ctData (clockFreqs topo clockSize)).length = 1 ∧
          (freqsOf ctKernel (clockFreqs topo clockSize)).length = 1 ∧
          (freqsOf ctSystem (clockFreqs topo clockSize)).length ≤ 2 then
        if (collect (clockFreqs topo clockSize) ⟨clkTypeSystem, []⟩).1 = true then
          .requested (collect (clockFreqs topo clockSize) ⟨clkTypeSystem, []⟩).2
            (freqScalingInternal (collect (clockFreqs topo clockSize) ⟨clkTypeSystem, []⟩).2)
        else .failed (collect (clockFreqs topo clockSize) ⟨clkTypeSystem, []⟩).2
      else .failed ⟨clkTypeSystem, []⟩ := by
  have hlist : (List.range' 0 (mCount topo).value.toNat).map (clockFreq topo) =
      clockFreqs topo clockSize := by
    rw [clockFreqs, if_neg hsize, List.range_eq_range']
  have hmany : ¬ (mCount topo).value > clkTypeMax := by omega
  simp only [reconfigClock, if_neg hsize, Reading.value_bind, if_neg hmany, value_countTypes,
    foldl_count, hlist, Nat.zero_add]
  by_cases hregular : (freqsOf ctData (clockFreqs topo clockSize)).length = 1 ∧
      (freqsOf ctKernel (clockFreqs topo clockSize)).length = 1 ∧
      (freqsOf ctSystem (clockFreqs topo clockSize)).length ≤ 2
  · rw [if_pos hregular, if_neg (by omega)]
    simp only [Reading.value_bind, value_collectFreqs, hlist]
    split <;> rfl
  · rw [if_neg hregular, if_pos (by omega)]
    rfl

private theorem length_of_known {list : List ClockFreq}
    (h : ∀ clock ∈ list, KnownType clock.mType) :
    list.length = (freqsOf ctData list).length + (freqsOf ctKernel list).length +
      (freqsOf ctSystem list).length := by
  induction list with
  | nil => rfl
  | cons clock list ih =>
      obtain ⟨hknown, hrest⟩ := List.forall_mem_cons.1 h
      have hcons (type : UInt8) : freqsOf type (clock :: list) =
          freqsOf type [clock] ++ freqsOf type list := freqsOf_append type [clock] list
      rw [List.length_cons, ih hrest]
      simp only [hcons, freqsOf_singleton, List.length_append]
      rcases hknown with htype | htype | htype
      · simp only [htype, show ¬ ctData = ctKernel by decide, show ¬ ctData = ctSystem by decide,
          if_true, if_false, List.length_cons, List.length_nil]
        omega
      · simp only [htype, show ¬ ctKernel = ctData by decide, show ¬ ctKernel = ctSystem by decide,
          if_true, if_false, List.length_cons, List.length_nil]
        omega
      · simp only [htype, show ¬ ctSystem = ctData by decide, show ¬ ctSystem = ctKernel by decide,
          if_true, if_false, List.length_cons, List.length_nil]
        omega

private theorem Regular.count_le (h : Regular (clockFreqs topo clockSize)) :
    clockSize ≠ 0 ∧ (mCount topo).value ≤ clkTypeMax := by
  have hlength := length_of_known h.known
  rw [h.data, h.kernel] at hlength
  have hsystem := h.system
  by_cases hsize : clockSize = 0
  · rw [clockFreqs, if_pos hsize, List.length_nil] at hlength
    omega
  · refine ⟨hsize, ?_⟩
    rw [clockFreqs, if_neg hsize, List.length_map, List.length_range] at hlength
    simp only [clockFreqs, if_neg hsize] at hsystem
    rw [clkTypeMax]
    omega

private theorem requested_iff :
    (∃ targets payload,
      (reconfigClock (some topo) clockSize).value = .requested targets payload) ↔
    Regular (clockFreqs topo clockSize) := by
  obtain ⟨hall, -⟩ := collect_spec .empty (clockFreqs topo clockSize)
  constructor
  · rintro ⟨targets, payload, hvalue⟩
    by_cases hsize : clockSize = 0
    · simp [reconfigClock, hsize] at hvalue
    · by_cases hfew : (mCount topo).value ≤ clkTypeMax
      · rw [value_reconfigClock hsize hfew] at hvalue
        split at hvalue
        · rename_i hcounts
          split at hvalue
          · exact ⟨hcounts.1, hcounts.2.1, hcounts.2.2, hall.1 ‹_›⟩
          · cases hvalue
        · cases hvalue
      · simp [reconfigClock, hsize, Int.not_le.1 hfew] at hvalue
  · intro h
    obtain ⟨hsize, hfew⟩ := h.count_le
    rw [value_reconfigClock hsize hfew, if_pos ⟨h.data, h.kernel, h.system⟩,
      if_pos (hall.2 h.known)]
    exact ⟨_, _, rfl⟩

private theorem writes_lt (write : Nat × UInt16)
    (hwrite : write ∈ (reconfigClock (some topo) clockSize).value.writes) :
    write.1 < clkTypeMax := by
  by_cases hsize : clockSize = 0
  · simp [reconfigClock, hsize, Reconfigured.writes] at hwrite
  · by_cases hfew : (mCount topo).value ≤ clkTypeMax
    · rw [value_reconfigClock hsize hfew] at hwrite
      obtain ⟨-, taken, hprefix, hcollected, -⟩ :=
        collect_spec .empty (clockFreqs topo clockSize)
      split at hwrite
      · rename_i hcounts
        have hmem : write ∈ (collect (clockFreqs topo clockSize) ⟨clkTypeSystem, []⟩).2.writes := by
          split at hwrite <;> exact hwrite
        have hlt := hcollected.indices write hmem
        have hsystem : (freqsOf ctSystem taken).length ≤
            (freqsOf ctSystem (clockFreqs topo clockSize)).length := by
          obtain ⟨rest, hrest⟩ := hprefix
          rw [← hrest, freqsOf_append, List.length_append]
          exact Nat.le_add_right _ _
        rw [hcollected.clockTypeCount, List.nil_append] at hlt
        rw [clkTypeMax]
        omega
      · exact absurd hwrite List.not_mem_nil
    · simp [reconfigClock, hsize, Int.not_le.1 hfew, Reconfigured.writes] at hwrite

private theorem frequencies_of_requested {targets : Targets} {payload : ClockPayload}
    (h : (reconfigClock (some topo) clockSize).value = .requested targets payload) :
    payload.oclReqNum = 4 ∧ ∀ i : Fin 4, payload.oclReqFreq i =
      ((freqsOf ctData (clockFreqs topo clockSize) ++
        freqsOf ctKernel (clockFreqs topo clockSize) ++
        freqsOf ctSystem (clockFreqs topo clockSize)).getD i 0).toUInt32 := by
  have hregular := requested_iff.1 ⟨targets, payload, h⟩
  obtain ⟨hsize, hfew⟩ := hregular.count_le
  obtain ⟨hall, taken, -, hcollected, hwhole⟩ := collect_spec .empty (clockFreqs topo clockSize)
  have hdone := hall.2 hregular.known
  rw [hwhole hdone, List.nil_append] at hcollected
  rw [value_reconfigClock hsize hfew, if_pos ⟨hregular.data, hregular.kernel, hregular.system⟩,
    if_pos hdone] at h
  cases h
  obtain ⟨data, hdata⟩ := List.length_eq_one_iff.1 hregular.data
  obtain ⟨kernel, hkernel⟩ := List.length_eq_one_iff.1 hregular.kernel
  refine ⟨rfl, fun i => congrArg UInt16.toUInt32 ?_⟩
  rw [hdata, hkernel]
  match i with
  | 0 => rw [show ((0 : Fin 4) : Nat) = clkTypeData from rfl, hcollected.data, hdata]; rfl
  | 1 => rw [show ((1 : Fin 4) : Nat) = clkTypeKernel from rfl, hcollected.kernel, hkernel]; rfl
  | 2 => exact hcollected.system 0
  | 3 => exact hcollected.system 1

/-- A topology is decoded without a look behind its section where the entries lie in it. -/
theorem decodes_iff (topo : Memory) (clockSize : Nat) :
    Decodes topo clockSize ↔ clockSize = 0 ∨ InSection topo clockSize := by
  constructor
  · intro h
    by_cases hsize : clockSize = 0
    · exact .inl hsize
    · exact .inr ((within_reconfigClock hsize).1 h.within)
  · intro h
    refine ⟨?_, writes_lt, requested_iff, fun _ _ => frequencies_of_requested⟩
    by_cases hsize : clockSize = 0
    · simp [reconfigClock, hsize]
    · exact (within_reconfigClock hsize).2 (h.resolve_left hsize)

/-- Ten bytes with the count of two clocks. -/
theorem not_decodes_short :
    ¬ Decodes (fun address => if address = 0 then 2 else 0) 10 := by
  intro h
  have hin := ((within_reconfigClock (by decide)).1 h.within).2 (by decide) 1 (by decide)
  exact absurd hin (by decide)

end Requested

end Vmr.Rmgmt.Clock
