import Vmr.Lib.Prog

/-!
# QSFP modules behind I2C muxes

Four modules have the same addresses; two muxes connect one of them to the bus.
A read selects the IO expander of the module and then the module itself.  It
does not set the mux selection to none again.
-/

namespace Vmr.Vmc

open Vmr.Lib

def xstSuccess : UInt8 := 0
def xstFailure : UInt8 := 1
def xstDeviceNotFound : UInt8 := 2

def qsfpSlaveAddress : UInt8 := 0x50
def qsfpIoExpanderAddress : UInt8 := 0x20
def qsfpMux0Address : UInt8 := 0x70
def qsfpMux1Address : UInt8 := 0x71

def qsfpIoExpanderInputReg : UInt8 := 0
def qsfpModpresLBit : UInt8 := 0x8
def qsfpMsbTemperatureReg : UInt8 := 22
def qsfpLsbTemperatureReg : UInt8 := 23

/-! ## A read of the temperature -/

inductive I2cOp
  | send (address data : UInt8)
  /-- A register is written, and a byte is read after a repeated start. -/
  | sendRsRecv (address register : UInt8)
  deriving DecidableEq, Repr

def I2cAns : I2cOp → Type
  | .send .. => Bool
  | .sendRsRecv .. => Option UInt8

abbrev I2cProg := Prog I2cOp I2cAns

def i2cTransfer (op : I2cOp) : I2cProg (I2cAns op) := Prog.perform op

def i2cSend (address data : UInt8) : I2cProg Bool := i2cTransfer (.send address data)

def i2cSendRsRecv (address register : UInt8) : I2cProg (Option UInt8) :=
  i2cTransfer (.sendRsRecv address register)

structure MuxSelection where
  muxAddress : UInt8
  muxControlRegisterIOExpander : UInt8
  muxControlRegisterQSFP : UInt8

def muxSelection (ucSensorInstance : UInt8) : Option MuxSelection :=
  if ucSensorInstance = 0 then some ⟨qsfpMux0Address, (1 : UInt8) <<< 0, (1 : UInt8) <<< 1⟩
  else if ucSensorInstance = 1 then some ⟨qsfpMux0Address, (1 : UInt8) <<< 2, (1 : UInt8) <<< 3⟩
  else if ucSensorInstance = 2 then some ⟨qsfpMux1Address, (1 : UInt8) <<< 0, (1 : UInt8) <<< 1⟩
  else if ucSensorInstance = 3 then some ⟨qsfpMux1Address, (1 : UInt8) <<< 2, (1 : UInt8) <<< 3⟩
  else none

/-- In units of 1/256 °C; the sign bit is left out of a negative temperature. -/
def temperatureValue (lsb msb : UInt8) : Int :=
  let usTemperatureHexValue := msb.toNat * 256 + lsb.toNat
  if usTemperatureHexValue ≤ 0x7FFF then usTemperatureHexValue
  else -((0x8000 - usTemperatureHexValue % 0x8000 : Nat) : Int)

def readQsfpTemperature : I2cProg (UInt8 × Option Int) := do
  match ← i2cSendRsRecv qsfpSlaveAddress qsfpLsbTemperatureReg with
  | none => return (xstFailure, none)
  | some lsb =>
      match ← i2cSendRsRecv qsfpSlaveAddress qsfpMsbTemperatureReg with
      | none => return (xstFailure, none)
      | some msb => return (xstSuccess, some (temperatureValue lsb msb))

def readSelected (mux : MuxSelection) : I2cProg (UInt8 × Option Int) := do
  match ← i2cSendRsRecv qsfpIoExpanderAddress qsfpIoExpanderInputReg with
  | none => return (xstFailure, none)
  | some ucQSFPControlInput =>
      -- the module is present if the line is low
      if ucQSFPControlInput &&& qsfpModpresLBit = 0 then do
        let selected ← i2cSend mux.muxAddress mux.muxControlRegisterQSFP
        if selected = false then return (xstFailure, none)
        else readQsfpTemperature
      else return (xstDeviceNotFound, none)

def ucQSFPI2CMuxReadTemperature (hasValue : Bool) (ucSensorInstance : UInt8) :
    I2cProg (UInt8 × Option Int) :=
  if hasValue = false then return (xstFailure, none)
  else match muxSelection ucSensorInstance with
    | none => return (xstFailure, none)
    | some mux => do
        let selected ← i2cSend mux.muxAddress mux.muxControlRegisterIOExpander
        if selected = false then return (xstFailure, none)
        else readSelected mux

/-! ## The bus -/

structure Muxes where
  mux0 : UInt8
  mux1 : UInt8
  deriving DecidableEq, Repr

namespace Muxes

def write (muxes : Muxes) (address data : UInt8) : Muxes :=
  if address = qsfpMux0Address then { muxes with mux0 := data }
  else if address = qsfpMux1Address then { muxes with mux1 := data }
  else muxes

def Deselected (muxes : Muxes) : Prop := muxes.mux0 = 0 ∧ muxes.mux1 = 0

def connected (muxes : Muxes) (index : Nat) : Bool :=
  (if index < 2 then muxes.mux0 else muxes.mux1) &&&
    (if index % 2 = 0 then 0x03 else 0x0C) ≠ 0

end Muxes

/-- A transfer, the muxes when it was started, and whether it has written a mux. -/
structure Access where
  op : I2cOp
  muxes : Muxes
  reached : Bool
  deriving DecidableEq

structure I2cBus where
  muxes : Muxes
  /-- The last one first. -/
  accesses : List Access

def I2cBus.record (bus : I2cBus) (op : I2cOp) (reached : Bool) (muxes : Muxes) : I2cBus where
  muxes := muxes
  accesses := ⟨op, bus.muxes, reached⟩ :: bus.accesses

/-- A write that fails may have reached the mux all the same. -/
def busStep (bus : I2cBus) : (op : I2cOp) → I2cAns op → I2cBus → Prop
  | .send address data, (ok : Bool), bus' =>
      bus' = bus.record (.send address data) true (bus.muxes.write address data) ∨
      ok = false ∧ bus' = bus.record (.send address data) false bus.muxes
  | .sendRsRecv address register, _, bus' =>
      bus' = bus.record (.sendRsRecv address register) false bus.muxes

/-! ## Exclusive access -/

structure Reading where
  hasValue : Bool
  ucSensorInstance : UInt8
  before : Muxes
  result : UInt8 × Option Int
  after : Muxes
  accesses : List Access

inductive Readings : Muxes → List Reading → Prop
  | nil (muxes : Muxes) : Readings muxes []
  | cons {reading : Reading} {readings : List Reading}
      (hread : Prog.Returns busStep ⟨reading.before, []⟩
        (ucQSFPI2CMuxReadTemperature reading.hasValue reading.ucSensorInstance) reading.result
        ⟨reading.after, reading.accesses⟩)
      (hrest : Readings reading.after readings) : Readings reading.before (reading :: readings)

def I2cOp.Shared : I2cOp → Prop
  | .send address _ | .sendRsRecv address _ =>
      address = qsfpSlaveAddress ∨ address = qsfpIoExpanderAddress

/-- At a shared address the module of the instance is connected and no other one is, and in the
end all channels are deselected. -/
structure Exclusive (reading : Reading) : Prop where
  access : ∀ access ∈ reading.accesses, access.op.Shared →
    ∀ index < 4, access.muxes.connected index ↔ index = reading.ucSensorInstance.toNat
  after : reading.after.Deselected

def Unselected (accesses : List Access) : Prop :=
  ∀ access ∈ accesses, access.reached = false

/-! ## What a read leaves behind -/

private theorem muxSelection_spec {ucSensorInstance : UInt8} {mux : MuxSelection}
    (h : muxSelection ucSensorInstance = some mux) :
    (mux.muxAddress = qsfpMux0Address ∨ mux.muxAddress = qsfpMux1Address) ∧
      mux.muxControlRegisterIOExpander ≠ 0 ∧ mux.muxControlRegisterQSFP ≠ 0 := by
  rw [muxSelection] at h
  split at h
  · cases h
    decide
  split at h
  · cases h
    decide
  split at h
  · cases h
    decide
  split at h
  · cases h
    decide
  · cases h

private theorem write_not_deselected {muxes : Muxes} {address data : UInt8}
    (haddress : address = qsfpMux0Address ∨ address = qsfpMux1Address) (hdata : data ≠ 0) :
    ¬ (muxes.write address data).Deselected := by
  rcases haddress with rfl | rfl
  · exact fun hnone => hdata hnone.1
  · exact fun hnone => hdata hnone.2

structure Selected (bus : I2cBus) : Prop where
  reached : ∃ access ∈ bus.accesses, access.reached = true
  muxes : ¬ bus.muxes.Deselected

theorem Selected.record {bus : I2cBus} (h : Selected bus) (op : I2cOp) (reached : Bool)
    {muxes : Muxes} (hmuxes : ¬ muxes.Deselected) : Selected (bus.record op reached muxes) where
  reached := by
    obtain ⟨access, hmem, hreached⟩ := h.reached
    exact ⟨access, List.mem_cons_of_mem _ hmem, hreached⟩
  muxes := hmuxes

private theorem safe_readQsfpTemperature {bus : I2cBus} (h : Selected bus) :
    Prog.Safe busStep (fun _ _ => True) (fun _ bus' => Selected bus') readQsfpTemperature bus := by
  refine ⟨trivial, fun (lsb : Option UInt8) bus' hstep => ?_⟩
  obtain rfl := hstep
  have hselected := h.record (.sendRsRecv qsfpSlaveAddress qsfpLsbTemperatureReg) false h.muxes
  cases lsb with
  | none => exact hselected
  | some lsb =>
      refine ⟨trivial, fun (msb : Option UInt8) bus' hstep => ?_⟩
      obtain rfl := hstep
      have hselected' := hselected.record (.sendRsRecv qsfpSlaveAddress qsfpMsbTemperatureReg) false
        hselected.muxes
      cases msb with
      | none => exact hselected'
      | some msb => exact hselected'

private theorem safe_behindSelect {bus : I2cBus} (h : Selected bus) {mux : MuxSelection}
    (haddress : mux.muxAddress = qsfpMux0Address ∨ mux.muxAddress = qsfpMux1Address)
    (hqsfp : mux.muxControlRegisterQSFP ≠ 0) :
    Prog.Safe busStep (fun _ _ => True) (fun _ bus' => Selected bus') (readSelected mux) bus := by
  refine ⟨trivial, fun (found : Option UInt8) bus' hstep => ?_⟩
  obtain rfl := hstep
  have hexpander := h.record (.sendRsRecv qsfpIoExpanderAddress qsfpIoExpanderInputReg) false h.muxes
  cases found with
  | none => exact hexpander
  | some ucQSFPControlInput =>
      change Prog.Safe busStep _ _ (ite (ucQSFPControlInput &&& qsfpModpresLBit = 0) _ _) _
      split
      · refine ⟨trivial, fun (ok : Bool) bus' hstep => ?_⟩
        have hselected : Selected bus' := by
          rcases hstep with rfl | ⟨-, rfl⟩
          · exact hexpander.record _ true (write_not_deselected haddress hqsfp)
          · exact hexpander.record _ false hexpander.muxes
        cases ok with
        | false => exact hselected
        | true => exact safe_readQsfpTemperature hselected
      · exact hexpander

/-- Either nothing but a failed select has been sent, or a channel stays selected. -/
def ReadEnd (muxes : Muxes) (bus : I2cBus) : Prop :=
  (bus.muxes = muxes ∧ Unselected bus.accesses ∧ ∀ access ∈ bus.accesses, ¬ access.op.Shared) ∨
    Selected bus

theorem safe_read (hasValue : Bool) (ucSensorInstance : UInt8) (muxes : Muxes) :
    Prog.Safe busStep (fun _ _ => True) (fun _ bus' => ReadEnd muxes bus')
      (ucQSFPI2CMuxReadTemperature hasValue ucSensorInstance) ⟨muxes, []⟩ := by
  have hnothing : ReadEnd muxes ⟨muxes, []⟩ := .inl ⟨rfl, nofun, nofun⟩
  rw [ucQSFPI2CMuxReadTemperature]
  cases hasValue with
  | false => exact hnothing
  | true =>
      rw [if_neg (by decide)]
      cases hmux : muxSelection ucSensorInstance with
      | none => exact hnothing
      | some mux =>
          obtain ⟨haddress, hexpander, hqsfp⟩ := muxSelection_spec hmux
          have hprivate : ∀ data, ¬ (I2cOp.send mux.muxAddress data).Shared := by
            intro data
            rcases haddress with haddress | haddress
            · rw [haddress]
              exact (by decide : ¬ (qsfpMux0Address = qsfpSlaveAddress ∨
                qsfpMux0Address = qsfpIoExpanderAddress))
            · rw [haddress]
              exact (by decide : ¬ (qsfpMux1Address = qsfpSlaveAddress ∨
                qsfpMux1Address = qsfpIoExpanderAddress))
          refine ⟨trivial, fun (ok : Bool) bus hstep => ?_⟩
          rcases hstep with rfl | ⟨rfl, rfl⟩
          · have hselected : Selected (I2cBus.record ⟨muxes, []⟩
                (.send mux.muxAddress mux.muxControlRegisterIOExpander) true
                (muxes.write mux.muxAddress mux.muxControlRegisterIOExpander)) :=
              ⟨⟨_, List.mem_cons_self, rfl⟩, write_not_deselected haddress hexpander⟩
            cases ok with
            | false => exact .inr hselected
            | true =>
                exact (safe_behindSelect hselected haddress hqsfp).weaken fun _ _ => .inr
          · refine .inl ⟨rfl, ?_, ?_⟩
            · intro access hmem
              obtain rfl := List.mem_singleton.1 hmem
              rfl
            · intro access hmem
              obtain rfl := List.mem_singleton.1 hmem
              exact hprivate _

/-! ## Runs -/

/-- The reads of a run are exclusive exactly when none of them selects anything. -/
theorem exclusive_iff {muxes : Muxes} {readings : List Reading} (hstart : muxes.Deselected)
    (hrun : Readings muxes readings) :
    (∀ reading ∈ readings, Exclusive reading) ↔
      ∀ reading ∈ readings, Unselected reading.accesses := by
  induction hrun with
  | nil => exact ⟨nofun, nofun⟩
  | @cons reading readings hread _ ih =>
      have hend := (safe_read reading.hasValue reading.ucSensorInstance reading.before).returns hread
      rw [List.forall_mem_cons, List.forall_mem_cons]
      rcases hend with ⟨hsame, hunselected, hprivate⟩ | hselected
      · have hafter : reading.after.Deselected := by
          rw [show reading.after = reading.before from hsame]
          exact hstart
        refine and_congr ⟨fun _ => hunselected, fun _ => ⟨fun access hmem hshared => ?_, hafter⟩⟩
          (ih hafter)
        exact absurd hshared (hprivate access hmem)
      · obtain ⟨access, hmem, hreached⟩ := hselected.reached
        constructor
        · exact fun hexclusive => absurd hexclusive.1.after hselected.muxes
        · intro hnone
          have hno := hnone.1 access hmem
          rw [hreached] at hno
          cases hno

/-! ## Runs on fixed answers -/

def respond (reached : Bool) (bus : I2cBus) : (op : I2cOp) → I2cAns op × I2cBus
  | .send address data =>
      (reached, bus.record (.send address data) reached
        (if reached then bus.muxes.write address data else bus.muxes))
  | .sendRsRecv address register =>
      (some 0, bus.record (.sendRsRecv address register) false bus.muxes)

private theorem busStep_respond (reached : Bool) (bus : I2cBus) (op : I2cOp) :
    busStep bus op (respond reached bus op).1 (respond reached bus op).2 := by
  cases op with
  | send address data =>
      cases reached with
      | true => exact .inl rfl
      | false => exact .inr ⟨rfl, rfl⟩
  | sendRsRecv address register => rfl

def answered (reached : Bool) (ucSensorInstance : UInt8) (before : Muxes) : Reading :=
  let run := Prog.simulate (respond reached)
    (ucQSFPI2CMuxReadTemperature true ucSensorInstance) ⟨before, []⟩
  ⟨true, ucSensorInstance, before, run.1, run.2.muxes, run.2.accesses⟩

private theorem answered_returns (reached : Bool) (ucSensorInstance : UInt8) (before : Muxes) :
    Prog.Returns busStep ⟨before, []⟩ (ucQSFPI2CMuxReadTemperature true ucSensorInstance)
      (answered reached ucSensorInstance before).result
      ⟨(answered reached ucSensorInstance before).after,
        (answered reached ucSensorInstance before).accesses⟩ :=
  Prog.returns_simulate (busStep_respond reached) _ _

private theorem readings_cons (reached : Bool) (ucSensorInstance : UInt8) {before : Muxes}
    {readings : List Reading}
    (hrest : Readings (answered reached ucSensorInstance before).after readings) :
    Readings before (answered reached ucSensorInstance before :: readings) :=
  @Readings.cons (answered reached ucSensorInstance before) readings
    (answered_returns reached ucSensorInstance before) hrest

/-- A read whose select fails. -/
theorem exclusive_failedSelect : Exclusive (answered false 2 ⟨0, 0⟩) := by
  have hnone : ∀ access ∈ (answered false 2 ⟨0, 0⟩).accesses, access.reached = false := by
    decide
  have hunselected : ∀ reading ∈ [answered false 2 ⟨0, 0⟩], Unselected reading.accesses := by
    intro reading hmem
    rw [List.mem_singleton.1 hmem]
    exact hnone
  exact (exclusive_iff ⟨rfl, rfl⟩ (readings_cons false 2 (.nil _))).2 hunselected _
    List.mem_cons_self

/-- Module 0 is read and then module 2; both are connected when the IO expander of the latter is
read. -/
theorem not_exclusive_twoReads :
    ¬ ∀ muxes readings, muxes.Deselected → Readings muxes readings →
      ∀ reading ∈ readings, Exclusive reading := by
  intro hall
  have hrun := @readings_cons true 0 ⟨0, 0⟩ _ (readings_cons true 2 (.nil _))
  have hexclusive := hall _ _ ⟨rfl, rfl⟩ hrun _ (List.mem_cons_of_mem _ List.mem_cons_self)
  have hboth := hexclusive.access ⟨.sendRsRecv qsfpIoExpanderAddress qsfpIoExpanderInputReg,
    ⟨2, 1⟩, false⟩ (by decide) (.inr rfl) 0 (by decide)
  exact absurd hboth (by decide)

end Vmr.Vmc
