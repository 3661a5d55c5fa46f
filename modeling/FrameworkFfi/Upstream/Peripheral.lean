import FrameworkFfi.Upstream.Ec

/-!
# PD controllers, batteries and bus devices

What the PD controllers, the smart battery, the USB and HID buses and the NVMe
driver report.
-/

namespace FrameworkFfi

inductive FwMode where
  | bootLoader
  | backupFw
  | mainFw
  deriving DecidableEq

inductive Application where
  | notebook
  | monitor
  | aa
  | invalid
  deriving DecidableEq

structure BaseVersion where
  major : UInt8
  minor : UInt8
  patch : UInt8
  buildNumber : UInt16

structure AppVersion where
  application : Application
  major : UInt8
  minor : UInt8
  circuit : UInt8

structure ControllerVersion where
  base : BaseVersion
  app : AppVersion

structure ControllerFirmwares where
  activeFw : FwMode
  bootloader : ControllerVersion
  backupFw : ControllerVersion
  mainFw : ControllerVersion

inductive PdVersions where
  | single (one : ControllerFirmwares)
  | rightLeft (right left : ControllerFirmwares)
  | many (controllers : List ControllerFirmwares)

/-- The data set `SmartBattery::collect_data` returns. -/
structure BatteryData where
  mode : UInt16
  serialNum : UInt16
  manufactureDate : UInt16
  temperature : UInt16
  voltage : UInt16
  cellVoltage1 : UInt16
  cellVoltage2 : UInt16
  cellVoltage3 : UInt16
  cellVoltage4 : UInt16
  cycleCount : UInt16
  current : UInt16
  avgCurrent : UInt16
  relStateOfCharge : UInt16
  absStateOfCharge : UInt16
  remainingCapacity : UInt16
  fullChargeCapacity : UInt16
  chargingCurrent : UInt16
  chargingVoltage : UInt16
  batteryStatus : UInt16
  designCapacity : UInt16
  designVoltage : UInt16
  operationStatus : UInt32
  safetyAlert : UInt32
  safetyStatus : UInt32
  pfAlert : UInt32
  pfStatus : UInt32
  deviceName : OwnedString
  manufacturerName : OwnedString
  deviceChemistry : OwnedString
  stateOfHealth : ByteVec
  firmwareVersion : ByteVec
  lifetime1 : ByteVec
  lifetime2 : ByteVec
  lifetime3 : ByteVec
  lifetime4 : ByteVec
  lifetime5 : ByteVec

/-- The fields of a USB device descriptor. -/
structure UsbDeviceDescriptor where
  vendorId : UInt16
  productId : UInt16
  versionMajor : UInt8
  versionMinor : UInt8
  versionSubMinor : UInt8
  productStringIndex : Option UInt8
  deriving DecidableEq

/-- One entry of a USB enumeration. The descriptor and the port path are read
from the device and either read can fail. -/
structure UsbDevice where
  address : ℕ
  deviceDescriptor : Option UsbDeviceDescriptor
  portNumbers : Option (List UInt8)
  deriving DecidableEq

/-- One interface of a USB configuration with the class codes of its
descriptors. -/
structure UsbInterface where
  number : UInt8
  classCodes : List UInt8
  deriving DecidableEq

structure HidDevice where
  vendorId : UInt16
  productId : UInt16
  usagePage : UInt16
  deriving DecidableEq

inductive ClickForce where
  | low
  | medium
  | high
  deriving DecidableEq

structure NvmeInfo where
  modelNumber : OwnedString
  firmwareVersion : OwnedString

/-- An `f32`, kept as its bits. -/
structure F32 where
  bits : UInt32
  deriving DecidableEq

/-- `x < 0.0`: the sign is set and `x` is neither a zero nor a NaN. -/
def F32.isNegative (x : F32) : Bool :=
  let magnitude := x.bits &&& 0x7FFFFFFF
  x.bits &&& 0x80000000 ≠ 0 ∧ magnitude ≠ 0 ∧ magnitude ≤ 0x7F800000

end FrameworkFfi
