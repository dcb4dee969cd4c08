import Vmr.Asdm.Construction
import Mathlib.Data.List.TakeWhile

/-!
# The sensors of VCK5000, V70 and V80

A platform sets the record counts of the headers and lists its sensors; the
metadata of a sensor comes from the table of `getSDRMetaData`.
-/

namespace Vmr.Asdm

open Vmr.Lib

inductive SensorPdr where
  | productName | serialNumber | partNumber | revision | mfgDate | uuid | mac0 | mac1
  | fpgaFan1 | activeScVer | targetScVer | oemId
  | tempBoard | tempSysmonFpga | tempVccint | tempGroupSensors | tempQsfp
  | voltageGroupSensors | currentGroupSensors | powerTotal
  deriving DecidableEq, Repr

def qsfpMaxNum : UInt8 := 4
def snsrUpperThresholds : UInt8 := 0x07
def snsrMaxAvg : UInt8 := sensorMaxValSupport ||| sensorAvgValSupport

structure Platform where
  asdmHeaderInfo : List (RepositoryType × UInt8)
  supportedSensors : List SensorPdr
  temperatureNames : List String
  qsfpNames : List String
  voltageNames : List String
  currentNames : List String
  /-- `ucGetTemperatureSensorNum`, `getVoltageSensorNum` and `getCurrentSensorNum`. -/
  temperatureInstances : UInt8
  voltageInstances : UInt8
  currentInstances : UInt8

namespace Platform

variable (platform : Platform)

/-- Behind a platform's table of names there is nothing: an empty name. -/
def nameOf (names : List String) (sensorInstance : Nat) : Name :=
  ((names[sensorInstance]?).map text).getD []

def boardInfoMetaData (name : String) (type : UInt8) (content : List UInt8) : SensorMetaData :=
  { repoType := .boardInfoSdr
    sensorName := text name
    snsrValTypeLength := type ||| UInt8.ofNat content.length
    defaultValue := some content
    snsrUnitModifier := 0
    supportedThreshold := 0
    sensorInstance := 0
    getSensorName := fun _ => []
    sampleCount := 0 }

def dynamicMetaData (repoType : RepositoryType) (name : String) (size modifier : UInt8)
    (thresholds sensorInstance : UInt8) (names : List String) : SensorMetaData :=
  { repoType
    sensorName := text name
    snsrValTypeLength := sensorTypeNum ||| size
    defaultValue := none
    snsrUnitModifier := modifier
    supportedThreshold := snsrMaxAvg ||| thresholds
    sensorInstance
    getSensorName := nameOf names
    sampleCount := 1 }

def metaDataOf : SensorPdr → SensorMetaData
  | .productName => boardInfoMetaData "Product Name" sensorTypeAscii (List.replicate 25 0)
  | .serialNumber => boardInfoMetaData "Serial Num" sensorTypeAscii (List.replicate 15 0)
  | .partNumber => boardInfoMetaData "Part Num" sensorTypeAscii (List.replicate 25 0)
  | .revision => boardInfoMetaData "Revision" sensorTypeAscii (List.replicate 9 0)
  | .mfgDate => boardInfoMetaData "MFG Date" sensorTypeNum (List.replicate 4 0)
  | .uuid => boardInfoMetaData "UUID" sensorTypeNum (List.replicate 17 0)
  | .mac0 => boardInfoMetaData "MAC 0" sensorTypeNum (List.replicate 7 0)
  | .mac1 => boardInfoMetaData "MAC 1" sensorTypeNum (List.replicate 7 0)
  | .fpgaFan1 => boardInfoMetaData "fpga_fan_1" sensorTypeAscii (List.replicate 2 0)
  | .activeScVer => boardInfoMetaData "Active SC Ver" sensorTypeNum (List.replicate 4 0)
  | .targetScVer => boardInfoMetaData "Target SC Ver" sensorTypeNum (List.replicate 3 0)
  | .oemId => boardInfoMetaData "OEM ID" sensorTypeNum (List.replicate 5 0)
  | .tempBoard => dynamicMetaData .temperatureSdr "PCB" 2 0 snsrUpperThresholds 0 []
  | .tempSysmonFpga => dynamicMetaData .temperatureSdr "device" 2 0 snsrUpperThresholds 0 []
  | .tempVccint => dynamicMetaData .temperatureSdr "vccint" 2 0 snsrUpperThresholds 0 []
  | .tempGroupSensors =>
      dynamicMetaData .temperatureSdr "" 2 0 snsrUpperThresholds platform.temperatureInstances
        platform.temperatureNames
  | .tempQsfp =>
      dynamicMetaData .temperatureSdr "" 2 0 snsrUpperThresholds qsfpMaxNum platform.qsfpNames
  | .voltageGroupSensors =>
      dynamicMetaData .voltageSdr "" 2 0xFD 0 platform.voltageInstances platform.voltageNames
  | .currentGroupSensors =>
      dynamicMetaData .currentSdr "" 4 0xFD 0 platform.currentInstances platform.currentNames
  | .powerTotal => dynamicMetaData .powerSdr "Total Power" 2 0 0 0 []

def metaData : List SensorMetaData := platform.supportedSensors.map platform.metaDataOf

def headers : List AsdmHeader :=
  asdmUpdateRecordCount Asdm.asdmHeaderInfo platform.asdmHeaderInfo

def init : Checked (List Sdr × List RecordWrite) :=
  initAsdm (fun _ => true) (fun _ => 0) platform.headers platform.metaData
    fun _ => platform.metaDataOf .powerTotal

end Platform

def vck5000 : Platform where
  asdmHeaderInfo := [(.boardInfoSdr, 12), (.temperatureSdr, 5), (.voltageSdr, 5 + 1),
    (.currentSdr, 4), (.powerSdr, 1)]
  supportedSensors := [.productName, .serialNumber, .partNumber, .revision, .mfgDate, .uuid,
    .mac0, .mac1, .fpgaFan1, .activeScVer, .targetScVer, .oemId, .tempBoard, .tempSysmonFpga,
    .tempVccint, .tempQsfp, .voltageGroupSensors, .currentGroupSensors, .powerTotal]
  temperatureNames := []
  qsfpNames := ["cage_temp_0", "cage_temp_1"]
  voltageNames := ["12v_pex", "3v3_pex", "3v3_aux", "12v_aux_0", "12v_aux_1"]
  currentNames := ["12v_pex", "12v_aux_0", "12v_aux_1"]
  temperatureInstances := 0
  voltageInstances := 5
  currentInstances := 3

def v70 : Platform where
  asdmHeaderInfo := [(.boardInfoSdr, 11), (.temperatureSdr, 3), (.voltageSdr, 3),
    (.currentSdr, 3), (.powerSdr, 1)]
  supportedSensors := [.productName, .serialNumber, .partNumber, .revision, .mfgDate, .uuid,
    .mac0, .fpgaFan1, .activeScVer, .targetScVer, .oemId, .tempBoard, .tempSysmonFpga,
    .tempVccint, .voltageGroupSensors, .currentGroupSensors, .powerTotal]
  temperatureNames := []
  qsfpNames := []
  voltageNames := ["12v_pex", "3v3_pex", "vccint"]
  currentNames := ["12v_pex", "3v3_pex", "vccint"]
  temperatureInstances := 0
  voltageInstances := 3
  currentInstances := 3

def v80 : Platform where
  asdmHeaderInfo := [(.boardInfoSdr, 11), (.temperatureSdr, 9), (.voltageSdr, 10),
    (.currentSdr, 10), (.powerSdr, 1)]
  supportedSensors := [.productName, .serialNumber, .partNumber, .revision, .mfgDate, .uuid,
    .mac0, .fpgaFan1, .activeScVer, .targetScVer, .oemId, .tempBoard, .tempVccint,
    .tempGroupSensors, .tempQsfp, .voltageGroupSensors, .currentGroupSensors, .powerTotal]
  temperatureNames := ["VCCHBM", "1V2VCCODIMM", "1V2GTXAVTT"]
  qsfpNames := ["cage_temp_0", "cage_temp_1", "cage_temp_2", "cage_temp_3"]
  voltageNames := ["12v_pex", "3v3_pex", "vccint", "1V5_VCC_AUX", "3V3QSFP", "12VAUX0", "12VAUX1",
    "VCC_HBM", "1V2_VCCO_DIMM", "1V2_GTXAVTT"]
  currentNames := ["12v_pex", "3v3_pex", "vccint", "1V5_VCC_AUX", "3V3QSFP", "12VAUX0", "12VAUX1",
    "VCC_HBM", "1V2_VCCO_DIMM", "1V2_GTXAVTT"]
  temperatureInstances := 3
  voltageInstances := 10
  currentInstances := 10

/-! ## Which of them fit -/

def fittingCheck : List AsdmHeader → List SensorMetaData → Bool
  | [], metaData => metaData.isEmpty
  | header :: headers, metaData =>
      let isType (entry : SensorMetaData) : Bool := entry.repoType = header.repositoryType
      ((metaData.takeWhile isType).map SensorMetaData.totalSensorInstances).sum =
          header.noOfRecords.toNat ∧
        fittingCheck headers (metaData.dropWhile isType)

private theorem fitting_of_check {headers : List AsdmHeader} {metaData : List SensorMetaData}
    (h : fittingCheck headers metaData = true) : Fitting headers metaData := by
  induction headers generalizing metaData with
  | nil =>
      cases metaData with
      | nil => exact .nil
      | cons _ _ => cases h
  | cons header headers ih =>
      simp only [fittingCheck, decide_eq_true_eq] at h
      rw [← List.takeWhile_append_dropWhile (p := fun entry : SensorMetaData =>
        decide (entry.repoType = header.repositoryType)) (l := metaData)]
      refine .cons (fun entry hentry => ?_) h.1 (ih h.2)
      simpa using List.mem_takeWhile_imp hentry

private theorem v80_fitting :
    Fitting v80.headers v80.metaData := fitting_of_check (by decide +kernel)

theorem v80_constructed :
    ∃ sdrs writes, v80.init = .ok (sdrs, writes) ∧
      Constructed v80.headers v80.metaData writes := by
  have hok : v80.init.isOk = true := by decide +kernel
  match hinit : v80.init with
  | .error stop => simp [hinit, Except.isOk, Except.toBool] at hok
  | .ok (sdrs, writes) =>
      exact ⟨sdrs, writes, rfl, (initAsdm_constructed hinit).2 v80_fitting⟩

/-- Three temperatures and four cages are written to a repository of five records. -/
theorem vck5000_not_constructed :
    ∃ sdrs writes, vck5000.init = .ok (sdrs, writes) ∧
      ¬ Constructed vck5000.headers vck5000.metaData writes := by
  have hrun : vck5000.init.toOption.map (fun built =>
      built.2.any fun write => decide (write.repo = 1 ∧ write.idx = 5)) = some true := by
    decide +kernel
  match hinit : vck5000.init with
  | .error stop => simp [hinit, Except.toOption] at hrun
  | .ok (sdrs, writes) =>
      refine ⟨sdrs, writes, rfl, fun hconstructed => ?_⟩
      rw [hinit] at hrun
      obtain ⟨write, hmem, hwrite⟩ := List.any_eq_true.1 (Option.some.inj hrun)
      obtain ⟨hrepo, hidx⟩ := of_decide_eq_true hwrite
      obtain ⟨header, entry, hheader, -, hbounded, -⟩ := hconstructed.placed write hmem
      rw [hrepo] at hheader
      have hcount : header.noOfRecords = 5 := by
        have htemperature : vck5000.headers[1]?.map AsdmHeader.noOfRecords = some 5 := by
          decide +kernel
        rw [hheader] at htemperature
        exact Option.some.inj htemperature
      rw [hidx, hcount] at hbounded
      exact absurd hbounded (by decide)

end Vmr.Asdm
