import FrameworkFfi.Upstream.Owned
import FrameworkFfi.Abi.Inventory

/-!
# Answers of the embedded controller

The types of `framework_lib` that cross into this crate from the EC side: the
errors, the enumerations and the fields of the replies that are read here.
-/

namespace FrameworkFfi

inductive EcResponseStatus where
  | success
  | invalidCommand
  | error
  | invalidParameter
  | accessDenied
  | invalidResponse
  | invalidVersion
  | invalidChecksum
  | inProgress
  | unavailable
  | timeout
  | overflow
  | invalidHeader
  | requestTruncated
  | responseTooBig
  | busError
  | busy
  deriving DecidableEq

inductive EcError where
  | response (status : EcResponseStatus)
  | unknownResponseCode (code : UInt32)
  | deviceError (message : String)
  deriving DecidableEq

abbrev EcResult (α : Type) := Except EcError α

inductive Platform where
  | framework12IntelGen13
  | intelGen11
  | intelGen12
  | intelGen13
  | intelCoreUltra1
  | intelCoreUltra3
  | framework13Amd7080
  | framework13AmdAi300
  | framework16Amd7080
  | framework16AmdAi300
  | frameworkDesktopAmdAiMax300
  | genericFramework
  | unknownSystem
  deriving DecidableEq

inductive PlatformFamily where
  | framework12
  | framework13
  | framework16
  | frameworkDesktop
  deriving DecidableEq

inductive CrosEcDriverType where
  | portio
  | crosEc
  | windows
  deriving DecidableEq

inductive EcCurrentImage where
  | unknown
  | ro
  | rw
  deriving DecidableEq

/-- The feature bits this crate asks for. -/
inductive EcFeatureCode where
  | pwmFan
  | pwmKeyboardBacklight
  | motionSense
  | keyboard
  | thermal
  | fingerprint
  | touchpad
  deriving DecidableEq

inductive FpLedBrightnessLevel where
  | high
  | medium
  | low
  | ultraLow
  | custom
  | auto
  deriving DecidableEq

inductive BoardIdType where
  | touchpad
  deriving DecidableEq

inductive DeckStateMode where
  | readOnly
  | required
  | forceOn
  | forceOff
  deriving DecidableEq

inductive ExpansionBayBoard where
  | dualInterposer
  | singleInterposer
  | umaFans
  deriving DecidableEq

inductive ExpansionBayIssue where
  | noModule
  | badConnection
  deriving DecidableEq

inductive GpuVendor where
  | initializing
  | fanOnly
  | gpuAmdR23M
  | ssdHolder
  | pcieAccessory
  | nvidiaGn22
  deriving DecidableEq

inductive GpuPcieConfig where
  | pcie8x1
  | pcie4x1
  | pcie4x2
  deriving DecidableEq

inductive InputModuleType where
  | short
  | reserved1
  | reserved2
  | reserved3
  | reserved4
  | reserved5
  | fullWidth
  | genericA
  | genericB
  | genericC
  | keyboardA
  | keyboardB
  | hubBoard
  | touchpad
  | reserved15
  | disconnected
  deriving DecidableEq

/-- The reply to `EcRequestGetPdPortState`. -/
structure EcResponseGetPdPortState where
  cState : UInt8
  powerRole : UInt8
  dataRole : UInt8
  ccPolarity : UInt8
  voltage : UInt16
  current : UInt16
  pdState : UInt8
  vconn : UInt8
  eprActive : UInt8
  eprSupport : UInt8
  activePort : UInt8
  pdAltModeStatus : UInt8

/-- What the methods of the reply to `EcRequestExpansionBayStatus` say. -/
structure EcResponseExpansionBayStatus where
  expansionBayBoard : Except ExpansionBayIssue ExpansionBayBoard
  moduleEnabled : Bool
  moduleFault : Bool
  hatchSwitchClosed : Bool

structure EcResponseGetGpuPcie where
  gpuVendor : UInt8
  gpuPcieConfig : UInt8

/-- The reply to `EcRequestGetGpuSerial`. The serial is a fixed array inside one
EC packet, whose size is a 16-bit number. -/
structure EcResponseGetGpuSerial where
  valid : UInt8
  serial : List UInt8
  serial_length_lt : serial.length < 2 ^ 16

structure InputDeckStatus where
  topRowToArray : FixedArray 5 InputModuleType
  touchpadPresent : Bool
  touchpadId : UInt8

/-- The header of a GPU descriptor, with the fields of the ABI record. -/
structure GpuCfgDescriptor where
  magic : FixedArray 4 UInt8
  length : UInt32
  descVerMajor : UInt16
  descVerMinor : UInt16
  hardwareVersion : UInt16
  hardwareRevision : UInt16
  serial : FixedArray 20 UInt8
  descriptorLength : UInt32
  descriptorCrc32 : UInt32
  crc32 : UInt32

structure BatteryInformation where
  presentVoltage : UInt32
  presentRate : UInt32
  remainingCapacity : UInt32
  batteryCount : UInt8
  designCapacity : UInt32
  designVoltage : UInt32
  lastFullChargeCapacity : UInt32
  cycleCount : UInt32
  chargePercentage : UInt32
  manufacturer : OwnedString
  modelNumber : OwnedString
  serialNumber : OwnedString
  batteryType : OwnedString
  discharging : Bool
  charging : Bool
  levelCritical : Bool

structure PowerInfo where
  acPresent : Bool
  battery : Option BatteryInformation

structure IntrusionStatus where
  currentlyOpen : Bool
  coinCellEverRemoved : Bool
  everOpened : Bool
  totalOpened : UInt8
  vtrOpenCount : UInt8

inductive MotionSenseType where
  | accel
  | gyro
  | mag
  | prox
  | light
  | activity
  | baro
  | sync
  | lightRgb
  deriving DecidableEq

inductive MotionSenseLocation where
  | base
  | lid
  | camera
  deriving DecidableEq

inductive MotionSenseChip where
  | kxcj9
  | lsm6ds0
  | bmi160
  | si1141
  | si1142
  | si1143
  | kx022
  | l3gd20h
  | bma255
  | bmp280
  | opt3001
  | bh1730
  | gpio
  | lis2dh
  | lsm6dsm
  | lis2de
  | lis2mdl
  | lsm6ds3
  | lsm6dso
  | lng2dm
  | tcs3400
  | lis2dw12
  | lis2dwl
  | lis2ds
  | bmi260
  | icm426xx
  | icm42607
  | bma422
  | bmi323
  | bmi220
  | cm32183
  | veml3328
  deriving DecidableEq

structure MotionSenseInfo where
  sensorType : MotionSenseType
  location : MotionSenseLocation
  chip : MotionSenseChip

structure EcResponseGetUptimeInfo where
  timeSinceEcBoot : UInt32
  apResetsSinceEcBoot : UInt32
  ecResetFlags : UInt32

structure EcResponseGetProtocolInfo where
  protocolVersions : UInt32
  maxRequestPacketSize : UInt16
  maxResponsePacketSize : UInt16
  flags : UInt32

structure EcResponseSysinfo where
  resetFlags : UInt32
  currentImage : UInt32
  flags : UInt32

/-- The reply to the `GetInfo` subcommand of `EcRequestPort80Read`. -/
structure EcResponsePort80Info where
  writes : UInt32
  historySize : UInt32

structure EcResponseApThrottleStatus where
  softApThrottle : UInt8
  hardApThrottle : UInt8

/-- The thermal configuration of one sensor, eight Kelvin words. -/
@[ext] structure EcThermalConfig where
  tempHost : FixedArray 3 UInt32
  tempHostRelease : FixedArray 3 UInt32
  tempFanOff : UInt32
  tempFanMax : UInt32

structure EcResponseTempSensorGetInfo where
  sensorName : List UInt8
  sensorType : UInt8

structure EcResponseGpioGetV1Info where
  val : UInt8
  name : List UInt8
  flags : UInt32

inductive UsbPowerRoles where
  | disconnected
  | source
  | sink
  | sinkNotCharging
  deriving DecidableEq

inductive UsbChargingType where
  | none
  | pd
  | typeC
  | proprietary
  | bc12Dcp
  | bc12Cdp
  | bc12Sdp
  | other
  | vBus
  | unknown
  deriving DecidableEq

structure UsbChargeMeasures where
  voltageMax : UInt16
  voltageNow : UInt16
  currentMax : UInt16
  currentLim : UInt16

structure UsbPdPowerInfo where
  role : UsbPowerRoles
  chargingType : UsbChargingType
  dualrole : Bool
  meas : UsbChargeMeasures
  maxPower : UInt32

/-- One key's colour. -/
structure RgbS where
  r : UInt8
  g : UInt8
  b : UInt8
  deriving DecidableEq

end FrameworkFfi
