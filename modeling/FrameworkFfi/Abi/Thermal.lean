import FrameworkFfi.Abi.Buffer
import FrameworkFfi.Upstream.Ec

/-!
# Temperatures, fans and power

The numbered fields of a snapshot are arrays here.
-/

namespace FrameworkFfi

inductive FrameworkTemperatureState where
  | ok
  | notPresent
  | error
  | notPowered
  | notCalibrated
  deriving DecidableEq

inductive FrameworkSensorName where
  | unknown
  | generic
  | f75303Local
  | f75303Cpu
  | f75303Ddr
  | battery
  | peci
  | f57397VccGt
  | f75303Skin
  | chargerIc
  | apu
  | dgpuVr
  | dgpuVram
  | dgpuAmb
  | dgpuTemp
  | f75303Apu
  | f75303Amb
  | virtual
  deriving DecidableEq

structure FrameworkTemperatureReading where
  state : FrameworkTemperatureState
  celsius : Int16
  name : FrameworkSensorName
  deriving DecidableEq

inductive FrameworkFanState where
  | ok
  | notPresent
  | stalled
  deriving DecidableEq

inductive FrameworkFanName where
  | unknown
  | generic
  | apuFan
  | leftFan
  | rightFan
  | frontFan
  | thirdFan
  deriving DecidableEq

inductive FrameworkFanFeaturesState where
  | none
  | fanControl
  | thermalReporting
  | all
  deriving DecidableEq

structure FrameworkFanReading where
  state : FrameworkFanState
  rpm : UInt16
  name : FrameworkFanName
  deriving DecidableEq

structure FrameworkThermalSnapshot where
  fanCount : UInt8
  temperature : FixedArray 8 FrameworkTemperatureReading
  fan : FixedArray 4 FrameworkFanReading

structure FrameworkFanCapabilities where
  fanCount : UInt8
  features : FrameworkFanFeaturesState
  deriving DecidableEq

inductive FrameworkPowerSourceState where
  | none
  | acOnly
  | batteryOnly
  | acAndBattery
  deriving DecidableEq

inductive FrameworkBatteryState where
  | notPresent
  | idle
  | charging
  | discharging
  | chargingAndDischarging
  | critical
  deriving DecidableEq

structure FrameworkBatterySnapshot where
  batteryState : FrameworkBatteryState
  presentVoltage : UInt32
  presentRate : UInt32
  remainingCapacity : UInt32
  designCapacity : UInt32
  designVoltage : UInt32
  lastFullChargeCapacity : UInt32
  cycleCount : UInt32
  chargePercentage : UInt32
  manufacturer : FrameworkByteBuffer
  modelNumber : FrameworkByteBuffer
  serialNumber : FrameworkByteBuffer
  batteryType : FrameworkByteBuffer
  deriving DecidableEq

structure FrameworkPowerSnapshot where
  powerSourceState : FrameworkPowerSourceState
  batteryCount : UInt8
  battery0 : FrameworkBatterySnapshot
  deriving DecidableEq

inductive FrameworkThermalThresholdFlag where
  | warn
  | high
  | halt
  | warnRelease
  | highRelease
  | haltRelease
  | fanOff
  | fanMax
  deriving DecidableEq

/-- `flag as u32`. -/
def FrameworkThermalThresholdFlag.toUInt32 : FrameworkThermalThresholdFlag → UInt32
  | .warn => 0x01
  | .high => 0x02
  | .halt => 0x04
  | .warnRelease => 0x08
  | .highRelease => 0x10
  | .haltRelease => 0x20
  | .fanOff => 0x40
  | .fanMax => 0x80

structure FrameworkThermalThresholds where
  enabledMask : UInt32
  warnCelsius : Int32
  highCelsius : Int32
  haltCelsius : Int32
  warnReleaseCelsius : Int32
  highReleaseCelsius : Int32
  haltReleaseCelsius : Int32
  fanOffCelsius : Int32
  fanMaxCelsius : Int32
  deriving DecidableEq

end FrameworkFfi
