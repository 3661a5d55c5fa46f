import FrameworkFfi.Abi.Buffer
import FrameworkFfi.Upstream.Ec

/-!
# Versions, batteries and chargers
-/

namespace FrameworkFfi

inductive FrameworkUsbPowerRole where
  | disconnected
  | source
  | sink
  | sinkNotCharging
  deriving DecidableEq

inductive FrameworkUsbChargingType where
  | none
  | pd
  | typeC
  | proprietary
  | bc12Dcp
  | bc12Cdp
  | bc12Sdp
  | other
  | vBus
  | unknown
  deriving DecidableEq

inductive FrameworkPdFwMode where
  | unknown
  | bootLoader
  | backupFw
  | mainFw
  deriving DecidableEq

inductive FrameworkPdApplication where
  | notebook
  | monitor
  | aa
  | invalid
  deriving DecidableEq

structure FrameworkPdBaseVersion where
  major : UInt8
  minor : UInt8
  patch : UInt8
  buildNumber : UInt16
  deriving DecidableEq

structure FrameworkPdAppVersion where
  application : FrameworkPdApplication
  major : UInt8
  minor : UInt8
  circuit : UInt8
  deriving DecidableEq

structure FrameworkPdControllerVersion where
  base : FrameworkPdBaseVersion
  app : FrameworkPdAppVersion
  deriving DecidableEq

structure FrameworkPdControllerFirmwares where
  present : UInt8
  activeFw : FrameworkPdFwMode
  bootloader : FrameworkPdControllerVersion
  backupFw : FrameworkPdControllerVersion
  mainFw : FrameworkPdControllerVersion
  deriving DecidableEq

structure FrameworkPeripheralVersion where
  present : UInt8
  versionMajor : UInt8
  versionMinor : UInt8
  versionSubMinor : UInt8
  vendorId : UInt16
  productId : UInt16
  productName : FrameworkByteBuffer
  deriving DecidableEq

structure FrameworkSmartBatteryData where
  mode : UInt16
  serialNumber : UInt16
  manufactureDateRaw : UInt16
  manufactureYear : UInt16
  manufactureMonth : UInt8
  manufactureDay : UInt8
  temperatureDecikelvin : UInt16
  voltageMv : UInt16
  cellVoltage1Mv : UInt16
  cellVoltage2Mv : UInt16
  cellVoltage3Mv : UInt16
  cellVoltage4Mv : UInt16
  cycleCount : UInt16
  currentMa : Int16
  avgCurrentMa : Int16
  relStateOfCharge : UInt16
  absStateOfCharge : UInt16
  remainingCapacity : UInt16
  fullChargeCapacity : UInt16
  chargingCurrentMa : Int16
  chargingVoltageMv : UInt16
  batteryStatus : UInt16
  designCapacity : UInt16
  designVoltageMv : UInt16
  operationStatus : UInt32
  safetyAlert : UInt32
  safetyStatus : UInt32
  pfAlert : UInt32
  pfStatus : UInt32
  unsealed : UInt8
  deviceName : FrameworkByteBuffer
  manufacturerName : FrameworkByteBuffer
  deviceChemistry : FrameworkByteBuffer
  stateOfHealth : FrameworkByteBuffer
  firmwareVersion : FrameworkByteBuffer
  lifetime1 : FrameworkByteBuffer
  lifetime2 : FrameworkByteBuffer
  lifetime3 : FrameworkByteBuffer
  lifetime4 : FrameworkByteBuffer
  lifetime5 : FrameworkByteBuffer
  deriving DecidableEq

end FrameworkFfi
