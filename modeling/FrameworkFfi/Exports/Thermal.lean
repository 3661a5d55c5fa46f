import FrameworkFfi.Exports.Shape
import FrameworkFfi.Host.Ownership
import FrameworkFfi.Thermal
import Mathlib.Data.Fin.VecNotation

/-!
# Exported functions: temperatures, fans and power
-/

namespace FrameworkFfi

open Effect

abbrev FrameworkEcPowerSnapshotResult := FrameworkResult FrameworkPowerSnapshot

/-- The battery of a power snapshot. Four texts are handed over. -/
def batterySnapshot (battery : BatteryInformation) : Ffi FrameworkBatterySnapshot := do
  let manufacturer ← FrameworkByteBuffer.fromVec battery.manufacturer.intoBytes
  let modelNumber ← FrameworkByteBuffer.fromVec battery.modelNumber.intoBytes
  let serialNumber ← FrameworkByteBuffer.fromVec battery.serialNumber.intoBytes
  let batteryType ← FrameworkByteBuffer.fromVec battery.batteryType.intoBytes
  pure
    { batteryState := batteryState battery.levelCritical battery.discharging battery.charging
      presentVoltage := battery.presentVoltage
      presentRate := battery.presentRate
      remainingCapacity := battery.remainingCapacity
      designCapacity := battery.designCapacity
      designVoltage := battery.designVoltage
      lastFullChargeCapacity := battery.lastFullChargeCapacity
      cycleCount := battery.cycleCount
      chargePercentage := battery.chargePercentage
      manufacturer, modelNumber, serialNumber, batteryType }

/-- The snapshot of what `power_info` reports. -/
def powerSnapshot (powerInfo : PowerInfo) : Ffi FrameworkPowerSnapshot :=
  let snapshot :=
    { defaultPowerSnapshot with
      powerSourceState := powerSourceState powerInfo.acPresent powerInfo.battery.isSome }
  match powerInfo.battery with
  | none => pure snapshot
  | some battery => do
      let battery0 ← batterySnapshot battery
      pure { snapshot with batteryCount := battery.batteryCount, battery0 }

/-- `framework_ec_get_power_snapshot`. -/
def frameworkEcGetPowerSnapshot (handle : HandlePtr) : Ffi FrameworkEcPowerSnapshotResult :=
  exported handle defaultPowerSnapshot fun _ => someReply (ask .powerInfo) powerSnapshot

abbrev FrameworkEcFanCapabilitiesResult := FrameworkResult FrameworkFanCapabilities

/-- `framework_ec_get_fan_capabilities`. -/
def frameworkEcGetFanCapabilities (handle : HandlePtr) :
    Ffi FrameworkEcFanCapabilitiesResult :=
  exported handle defaultFanCapabilities fun _ => buildFanCapabilities

abbrev FrameworkEcThermalSnapshotResult := FrameworkResult FrameworkThermalSnapshot

/-- `framework_ec_get_thermal_snapshot`. -/
def frameworkEcGetThermalSnapshot (handle : HandlePtr) :
    Ffi FrameworkEcThermalSnapshotResult :=
  exported handle defaultThermalSnapshot fun _ => someReply buildThermalSnapshot pure

/-- `FrameworkEcSetFanRpmResult` without its status. -/
structure FanRpm where
  fanIndex : Int32
  rpm : UInt32

abbrev FrameworkEcSetFanRpmResult := FrameworkResult FanRpm

/-- `framework_ec_set_fan_rpm`. -/
def frameworkEcSetFanRpm (handle : HandlePtr) (fanIndex : Int32) (rpm : UInt32) :
    Ffi FrameworkEcSetFanRpmResult :=
  exported handle ⟨fanIndex, rpm⟩ fun _ =>
    andThen (pure (parseOptionalFanIndex fanIndex)) fun fan =>
      ecReply (ask (.fanSetRpm fan rpm)) fun () => pure ⟨fanIndex, rpm⟩

/-- `FrameworkEcSetFanDutyResult` without its status. -/
structure FanDuty where
  fanIndex : Int32
  percent : UInt32

abbrev FrameworkEcSetFanDutyResult := FrameworkResult FanDuty

/-- `framework_ec_set_fan_duty`. -/
def frameworkEcSetFanDuty (handle : HandlePtr) (fanIndex : Int32) (percent : UInt32) :
    Ffi FrameworkEcSetFanDutyResult :=
  exported handle ⟨fanIndex, percent⟩ fun _ =>
    andThen (pure (parseOptionalFanIndex fanIndex)) fun fan =>
      ecReply (ask (.fanSetDuty fan percent)) fun () => pure ⟨fanIndex, percent⟩

/-- `FrameworkEcRestoreAutoFanControlResult` without its status. -/
structure AutoFan where
  fanIndex : Int32

abbrev FrameworkEcRestoreAutoFanControlResult := FrameworkResult AutoFan

/-- `framework_ec_restore_auto_fan_control`. -/
def frameworkEcRestoreAutoFanControl (handle : HandlePtr) (fanIndex : Int32) :
    Ffi FrameworkEcRestoreAutoFanControlResult :=
  exported handle ⟨fanIndex⟩ fun _ =>
    andThen (pure (parseOptionalFanIndexU8 fanIndex)) fun fan =>
      ecReply (ask (.autofanctrl fan)) fun () => pure ⟨fanIndex⟩

inductive FrameworkBatteryCutoffState where
  | unknown
  | notCutOff
  | cutOff
  deriving DecidableEq

abbrev FrameworkEcBatteryCutoffResult := FrameworkResult FrameworkBatteryCutoffState

/-- `framework_ec_get_battery_cutoff_status`. -/
def frameworkEcGetBatteryCutoffStatus (handle : HandlePtr) :
    Ffi FrameworkEcBatteryCutoffResult :=
  exported handle .unknown fun _ => someReply getCutoffStatus fun cutOff =>
    pure (if cutOff then .cutOff else .notCutOff)

/-- `FrameworkEcApThrottleResult` without its status. -/
structure ApThrottleFlags where
  softThrottled : UInt8
  hardThrottled : UInt8

abbrev FrameworkEcApThrottleResult := FrameworkResult ApThrottleFlags

/-- `framework_ec_get_ap_throttle_status`. -/
def frameworkEcGetApThrottleStatus (handle : HandlePtr) : Ffi FrameworkEcApThrottleResult :=
  exported handle ⟨0, 0⟩ fun _ => ecReply getApThrottle fun throttle =>
    pure ⟨byteOfBool throttle.soft, byteOfBool throttle.hard⟩

/-- `FrameworkEcThermalThresholdsResult` without its status. -/
structure SensorThresholds where
  sensorIndex : UInt32
  thresholds : FrameworkThermalThresholds

abbrev FrameworkEcThermalThresholdsResult := FrameworkResult SensorThresholds

def emptyThresholds : FrameworkThermalThresholds :=
  { enabledMask := 0
    warnCelsius := 0
    highCelsius := 0
    haltCelsius := 0
    warnReleaseCelsius := 0
    highReleaseCelsius := 0
    haltReleaseCelsius := 0
    fanOffCelsius := 0
    fanMaxCelsius := 0 }

/-- `framework_ec_get_thermal_thresholds`. -/
def frameworkEcGetThermalThresholds (handle : HandlePtr) (sensorIndex : UInt32) :
    Ffi FrameworkEcThermalThresholdsResult :=
  exported handle ⟨sensorIndex, emptyThresholds⟩ fun _ =>
    ecReply (getThermalThresholds sensorIndex) fun thresholds => pure ⟨sensorIndex, thresholds⟩

/-- `framework_ec_set_thermal_thresholds`. -/
def frameworkEcSetThermalThresholds (handle : HandlePtr) (sensorIndex : UInt32)
    (warnCelsius highCelsius haltCelsius fanOffCelsius fanMaxCelsius : Int32) :
    Ffi FrameworkStatus :=
  exportedStatus handle fun _ =>
    ecReply (setThermalThresholds sensorIndex
      ![warnCelsius, highCelsius, haltCelsius, fanOffCelsius, fanMaxCelsius]) pure

/-- `FrameworkEcTempSensorNameResult` without its status. -/
structure TempSensorName where
  sensorIndex : UInt32
  mappedName : FrameworkSensorName
  sensorType : UInt8
  name : FrameworkByteBuffer

abbrev FrameworkEcTempSensorNameResult := FrameworkResult TempSensorName

/-- `framework_ec_get_temp_sensor_name`. -/
def frameworkEcGetTempSensorName (handle : HandlePtr) (sensorIndex : UInt8) :
    Ffi FrameworkEcTempSensorNameResult :=
  exported handle ⟨sensorIndex.toUInt32, .unknown, 0, .default⟩ fun _ =>
    ecReply (getTempSensorInfo sensorIndex) fun info => do
      let name ← FrameworkByteBuffer.fromVec info.name.intoBytes
      pure
        { sensorIndex := sensorIndex.toUInt32
          mappedName := mapSensorName info.name.text
          sensorType := info.sensorType
          name }

/-- `u8::try_from(count).unwrap_or(u8::MAX)`. -/
def byteOfCount (count : ℕ) : UInt8 := if count < 256 then UInt8.ofNat count else 255

abbrev FrameworkEcFanCountResult := FrameworkResult UInt8

/-- `framework_ec_get_fan_count`. -/
def frameworkEcGetFanCount (handle : HandlePtr) : Ffi FrameworkEcFanCountResult :=
  exported handle 0 fun _ => ecReply getFanCount fun count => pure (byteOfCount count)

/-- `FrameworkEcStandaloneModeResult` without its status. -/
structure StandaloneMode where
  isStandalone : UInt8
  standaloneMode : UInt8

abbrev FrameworkEcStandaloneModeResult := FrameworkResult StandaloneMode

/-- `framework_ec_get_standalone_mode`. -/
def frameworkEcGetStandaloneMode (handle : HandlePtr) : Ffi FrameworkEcStandaloneModeResult :=
  exported handle ⟨0, 0⟩ fun _ => do
    let (isStandalone, standaloneMode) ← standaloneState
    pure (.ok ⟨byteOfBool isStandalone, byteOfBool standaloneMode⟩)

end FrameworkFfi
