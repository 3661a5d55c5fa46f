import FrameworkFfi.Exports.Controls
import FrameworkFfi.Exports.Diagnostics
import FrameworkFfi.Exports.Inventory
import FrameworkFfi.Exports.System
import FrameworkFfi.Exports.Thermal
import FrameworkFfi.Exports.Versions

/-!
# The exported functions as one system

What holds of every exported function is stated over `Operation`, a call with its
arguments. An `Outcome` keeps the two parts of a result these statements need:
the status, when the function reports one, and the buffers of the record.
-/

namespace FrameworkFfi

open Effect

structure Outcome where
  status : Option FrameworkStatus
  buffers : List FrameworkByteBuffer

section Outcomes

variable {α : Type}

def reporting (buffers : α → List FrameworkByteBuffer) (call : Ffi (FrameworkResult α)) :
    Ffi Outcome := do
  let result ← call
  pure ⟨some result.status, buffers result.value⟩

def statusOnly (call : Ffi FrameworkStatus) : Ffi Outcome := do
  let status ← call
  pure ⟨some status, []⟩

/-- A call that returns no status. -/
def unreported (call : Ffi α) : Ffi Outcome := do
  let _ ← call
  pure ⟨none, []⟩

end Outcomes

/-! ### The buffers of the records -/

def noBuffers {α : Type} (_ : α) : List FrameworkByteBuffer := []

def FrameworkEcFlashVersions.buffers (versions : FrameworkEcFlashVersions) :
    List FrameworkByteBuffer := [versions.roVersion, versions.rwVersion]

def FrameworkPowerSnapshot.buffers (snapshot : FrameworkPowerSnapshot) :
    List FrameworkByteBuffer :=
  [snapshot.battery0.manufacturer, snapshot.battery0.modelNumber,
    snapshot.battery0.serialNumber, snapshot.battery0.batteryType]

def TempSensorName.buffers (sensor : TempSensorName) : List FrameworkByteBuffer := [sensor.name]

def GpioRecord.buffers (gpio : GpioRecord) : List FrameworkByteBuffer := [gpio.name]

def FrameworkEcExpansionBayStatus.buffers (bay : FrameworkEcExpansionBayStatus) :
    List FrameworkByteBuffer := [bay.serialNumber]

def PanicRecord.buffers (record : PanicRecord) : List FrameworkByteBuffer := [record.data]

def Port80Record.buffers (record : Port80Record) : List FrameworkByteBuffer := [record.codes]

def RetimerVersion.buffers (retimer : RetimerVersion) : List FrameworkByteBuffer :=
  [retimer.version]

def PeripheralVersions.buffers (versions : PeripheralVersions) : List FrameworkByteBuffer :=
  (List.finRange 8).map fun i => (versions.peripheral i).productName

def NvmeRecord.buffers (record : NvmeRecord) : List FrameworkByteBuffer :=
  [record.modelNumber, record.firmwareVersion]

/-! ### The calls -/

/-- Drivers, statuses and the system. -/
inductive SystemOperation where
  | ecDriverIsSupported (driver : FrameworkEcDriver)
  | statusGetDeviceErrorMessage (status : FrameworkStatus)
  | statusGetDescription (status : FrameworkStatus)
  | ecOpenDefault
  | ecOpenWithDriver (driver : FrameworkEcDriver)
  | ecClose (handle : HandlePtr)
  | ecGetActiveDriver (handle : HandlePtr)
  | getPlatform
  | getPlatformFamily
  | getProductName
  | ecGetBuildInfo (handle : HandlePtr)
  | ecGetFlashVersions (handle : HandlePtr)

/-- Temperatures, fans and power. -/
inductive ThermalOperation where
  | ecGetPowerSnapshot (handle : HandlePtr)
  | ecGetFanCapabilities (handle : HandlePtr)
  | ecGetThermalSnapshot (handle : HandlePtr)
  | ecSetFanRpm (handle : HandlePtr) (fanIndex : Int32) (rpm : UInt32)
  | ecSetFanDuty (handle : HandlePtr) (fanIndex : Int32) (percent : UInt32)
  | ecRestoreAutoFanControl (handle : HandlePtr) (fanIndex : Int32)
  | ecGetBatteryCutoffStatus (handle : HandlePtr)
  | ecGetApThrottleStatus (handle : HandlePtr)
  | ecGetThermalThresholds (handle : HandlePtr) (sensorIndex : UInt32)
  | ecSetThermalThresholds (handle : HandlePtr) (sensorIndex : UInt32)
      (warnCelsius highCelsius haltCelsius fanOffCelsius fanMaxCelsius : Int32)
  | ecGetTempSensorName (handle : HandlePtr) (sensorIndex : UInt8)
  | ecGetFanCount (handle : HandlePtr)
  | ecGetStandaloneMode (handle : HandlePtr)

/-- Settings, sensors, charging and input devices. -/
inductive ControlsOperation where
  | ecGetKeyboardBacklight (handle : HandlePtr)
  | ecGetFingerprintLed (handle : HandlePtr)
  | ecSetKeyboardBacklight (handle : HandlePtr) (percent : UInt8)
  | ecSetFingerprintLed (handle : HandlePtr) (level : FrameworkFingerprintLedLevel)
  | ecGetPrivacySwitches (handle : HandlePtr)
  | ecGetChargeLimits (handle : HandlePtr)
  | ecSetChargeLimits (handle : HandlePtr) (minPercent maxPercent : UInt8)
  | ecReadBoardId (handle : HandlePtr) (boardIdType : FrameworkBoardIdType)
  | ecGetActiveCharge (handle : HandlePtr)
  | ecGetSensorInfo (handle : HandlePtr)
  | ecGetAccelData (handle : HandlePtr)
  | ecGetAlsReading (handle : HandlePtr)
  | ecGetChassisIntrusion (handle : HandlePtr)
  | ecSetChargeCurrentLimit (handle : HandlePtr) (currentMa : UInt32) (batterySoc : Int32)
  | ecGetUptime (handle : HandlePtr)
  | ecGetS0ixCounter (handle : HandlePtr)
  | ecResetS0ixCounter (handle : HandlePtr)
  | ecSetTabletMode (handle : HandlePtr) (mode : FrameworkTabletModeOverride)
  | ecSetInputDeckMode (handle : HandlePtr) (mode : FrameworkDeckStateMode)
  | ecSetChargeRateLimit (handle : HandlePtr) (rateAmps batterySocPercent : F32)
  | ecGetHibernateDelay (handle : HandlePtr)
  | ecSetHibernateDelay (handle : HandlePtr) (seconds : UInt32)
  | ecSetFingerprintLedPercentage (handle : HandlePtr) (percentage : UInt8)
  | ecAdcRead (handle : HandlePtr) (channel : UInt8)
  | ecCommandVersionSupported (handle : HandlePtr) (command : UInt32) (version : UInt8)
  | ecGetPdPowerInfo (handle : HandlePtr) (port : UInt8)
  | ecIsCharging (handle : HandlePtr)
  | getStylusBattery
  | touchscreenEnable (enable : Bool)
  | touchpadSetHapticIntensity (intensity : UInt8)
  | touchpadSetClickForce (force : FrameworkClickForce)
  | ecSetRgbKeyboardColors (handle : HandlePtr) (startKey : UInt8) (colors : BytePtr)
      (colorCount : Int32)
  | ecRemapKey (handle : HandlePtr) (row col : UInt8) (scanset : UInt16)
  | ecRemapCapsToCtrl (handle : HandlePtr)
  | ecPs2EmulationEnable (handle : HandlePtr) (enable : Bool)
  | ecGetGpio (handle : HandlePtr) (name : BytePtr) (nameLength : Int32)
  | ecSetGpio (handle : HandlePtr) (name : BytePtr) (nameLength : Int32) (value : Bool)
  | ecGetGpioCount (handle : HandlePtr)
  | ecGetGpioInfo (handle : HandlePtr) (index : UInt8)

/-- Modules and the expansion bay. -/
inductive InventoryOperation where
  | ecGetFeatureFlags (handle : HandlePtr)
  | ecGetExpansionBayStatus (handle : HandlePtr)
  | ecGetGpuDescriptorHeader (handle : HandlePtr)
  | ecReadGpuDescriptor (handle : HandlePtr)
  | ecValidateGpuDescriptor (handle : HandlePtr) (expectedDescriptorPtr : BytePtr)
      (expectedDescriptorLength : UInt32)
  | ecGetModuleInventory (handle : HandlePtr)
  | ecGetGpuSerial (handle : HandlePtr)

/-- Diagnostics and the smart battery. -/
inductive DiagnosticsOperation where
  | ecGetSwitches (handle : HandlePtr)
  | ecHello (handle : HandlePtr) (inData : UInt32)
  | ecCheckHello (handle : HandlePtr)
  | ecGetProtocolInfo (handle : HandlePtr)
  | ecGetSysinfo (handle : HandlePtr)
  | ecGetPanicInfo (handle : HandlePtr)
  | ecGetPort80History (handle : HandlePtr)
  | ecAuthenticateBattery (handle : HandlePtr) (authKey : BytePtr)
  | ecGetSmartBatteryData (handle : HandlePtr) (useUnsealKey : UInt8) (unsealKey : UInt32)

/-- Firmware versions. -/
inductive VersionsOperation where
  | ecGetPdControllerVersions (handle : HandlePtr)
  | ecGetRetimerVersion (handle : HandlePtr)
  | getCameraVersions
  | getInputModuleVersions
  | getUsbHubVersions
  | getAudioCardVersion
  | getNvmeVersion (devicePath : BytePtr) (pathLength : Int32)

/-- The functions that take buffers back. -/
inductive ReleaseOperation where
  | byteBufferFree (buffer : FrameworkByteBuffer)
  | peripheralVersionsFree (result : Option PeripheralVersions)
  | smartBatteryDataFree (data : Option FrameworkSmartBatteryData)

/-- A call of an exported function. -/
inductive Operation where
  | system (operation : SystemOperation)
  | thermal (operation : ThermalOperation)
  | controls (operation : ControlsOperation)
  | inventory (operation : InventoryOperation)
  | diagnostics (operation : DiagnosticsOperation)
  | versions (operation : VersionsOperation)
  | release (operation : ReleaseOperation)

def SystemOperation.run : SystemOperation → Ffi Outcome
  | .ecDriverIsSupported driver => unreported (frameworkEcDriverIsSupported driver)
  | .statusGetDeviceErrorMessage status =>
      reporting List.singleton (frameworkStatusGetDeviceErrorMessage status)
  | .statusGetDescription status =>
      reporting List.singleton (frameworkStatusGetDescription status)
  | .ecOpenDefault => reporting noBuffers frameworkEcOpenDefault
  | .ecOpenWithDriver driver => reporting noBuffers (frameworkEcOpenWithDriver driver)
  | .ecClose handle => unreported (frameworkEcClose handle)
  | .ecGetActiveDriver handle => reporting noBuffers (frameworkEcGetActiveDriver handle)
  | .getPlatform => reporting noBuffers frameworkGetPlatform
  | .getPlatformFamily => reporting noBuffers frameworkGetPlatformFamily
  | .getProductName => reporting List.singleton frameworkGetProductName
  | .ecGetBuildInfo handle => reporting List.singleton (frameworkEcGetBuildInfo handle)
  | .ecGetFlashVersions handle =>
      reporting FrameworkEcFlashVersions.buffers (frameworkEcGetFlashVersions handle)

def ThermalOperation.run : ThermalOperation → Ffi Outcome
  | .ecGetPowerSnapshot handle =>
      reporting FrameworkPowerSnapshot.buffers (frameworkEcGetPowerSnapshot handle)
  | .ecGetFanCapabilities handle => reporting noBuffers (frameworkEcGetFanCapabilities handle)
  | .ecGetThermalSnapshot handle => reporting noBuffers (frameworkEcGetThermalSnapshot handle)
  | .ecSetFanRpm handle fanIndex rpm =>
      reporting noBuffers (frameworkEcSetFanRpm handle fanIndex rpm)
  | .ecSetFanDuty handle fanIndex percent =>
      reporting noBuffers (frameworkEcSetFanDuty handle fanIndex percent)
  | .ecRestoreAutoFanControl handle fanIndex =>
      reporting noBuffers (frameworkEcRestoreAutoFanControl handle fanIndex)
  | .ecGetBatteryCutoffStatus handle =>
      reporting noBuffers (frameworkEcGetBatteryCutoffStatus handle)
  | .ecGetApThrottleStatus handle => reporting noBuffers (frameworkEcGetApThrottleStatus handle)
  | .ecGetThermalThresholds handle sensorIndex =>
      reporting noBuffers (frameworkEcGetThermalThresholds handle sensorIndex)
  | .ecSetThermalThresholds handle sensorIndex warnCelsius highCelsius haltCelsius
      fanOffCelsius fanMaxCelsius =>
      statusOnly
        (frameworkEcSetThermalThresholds handle sensorIndex warnCelsius highCelsius haltCelsius
          fanOffCelsius fanMaxCelsius)
  | .ecGetTempSensorName handle sensorIndex =>
      reporting TempSensorName.buffers (frameworkEcGetTempSensorName handle sensorIndex)
  | .ecGetFanCount handle => reporting noBuffers (frameworkEcGetFanCount handle)
  | .ecGetStandaloneMode handle => reporting noBuffers (frameworkEcGetStandaloneMode handle)

def ControlsOperation.run : ControlsOperation → Ffi Outcome
  | .ecGetKeyboardBacklight handle => reporting noBuffers (frameworkEcGetKeyboardBacklight handle)
  | .ecGetFingerprintLed handle => reporting noBuffers (frameworkEcGetFingerprintLed handle)
  | .ecSetKeyboardBacklight handle percent =>
      statusOnly (frameworkEcSetKeyboardBacklight handle percent)
  | .ecSetFingerprintLed handle level => statusOnly (frameworkEcSetFingerprintLed handle level)
  | .ecGetPrivacySwitches handle => reporting noBuffers (frameworkEcGetPrivacySwitches handle)
  | .ecGetChargeLimits handle => reporting noBuffers (frameworkEcGetChargeLimits handle)
  | .ecSetChargeLimits handle minPercent maxPercent =>
      statusOnly (frameworkEcSetChargeLimits handle minPercent maxPercent)
  | .ecReadBoardId handle boardIdType =>
      reporting noBuffers (frameworkEcReadBoardId handle boardIdType)
  | .ecGetActiveCharge handle => reporting noBuffers (frameworkEcGetActiveCharge handle)
  | .ecGetSensorInfo handle => reporting noBuffers (frameworkEcGetSensorInfo handle)
  | .ecGetAccelData handle => reporting noBuffers (frameworkEcGetAccelData handle)
  | .ecGetAlsReading handle => reporting noBuffers (frameworkEcGetAlsReading handle)
  | .ecGetChassisIntrusion handle => reporting noBuffers (frameworkEcGetChassisIntrusion handle)
  | .ecSetChargeCurrentLimit handle currentMa batterySoc =>
      statusOnly (frameworkEcSetChargeCurrentLimit handle currentMa batterySoc)
  | .ecGetUptime handle => reporting noBuffers (frameworkEcGetUptime handle)
  | .ecGetS0ixCounter handle => reporting noBuffers (frameworkEcGetS0ixCounter handle)
  | .ecResetS0ixCounter handle => statusOnly (frameworkEcResetS0ixCounter handle)
  | .ecSetTabletMode handle mode => statusOnly (frameworkEcSetTabletMode handle mode)
  | .ecSetInputDeckMode handle mode => statusOnly (frameworkEcSetInputDeckMode handle mode)
  | .ecSetChargeRateLimit handle rateAmps batterySocPercent =>
      statusOnly (frameworkEcSetChargeRateLimit handle rateAmps batterySocPercent)
  | .ecGetHibernateDelay handle => reporting noBuffers (frameworkEcGetHibernateDelay handle)
  | .ecSetHibernateDelay handle seconds =>
      statusOnly (frameworkEcSetHibernateDelay handle seconds)
  | .ecSetFingerprintLedPercentage handle percentage =>
      statusOnly (frameworkEcSetFingerprintLedPercentage handle percentage)
  | .ecAdcRead handle channel => reporting noBuffers (frameworkEcAdcRead handle channel)
  | .ecCommandVersionSupported handle command version =>
      reporting noBuffers (frameworkEcCommandVersionSupported handle command version)
  | .ecGetPdPowerInfo handle port => reporting noBuffers (frameworkEcGetPdPowerInfo handle port)
  | .ecIsCharging handle => reporting noBuffers (frameworkEcIsCharging handle)
  | .getStylusBattery => reporting noBuffers frameworkGetStylusBattery
  | .touchscreenEnable enable => statusOnly (frameworkTouchscreenEnable enable)
  | .touchpadSetHapticIntensity intensity =>
      statusOnly (frameworkTouchpadSetHapticIntensity intensity)
  | .touchpadSetClickForce force => statusOnly (frameworkTouchpadSetClickForce force)
  | .ecSetRgbKeyboardColors handle startKey colors colorCount =>
      statusOnly (frameworkEcSetRgbKeyboardColors handle startKey colors colorCount)
  | .ecRemapKey handle row col scanset => statusOnly (frameworkEcRemapKey handle row col scanset)
  | .ecRemapCapsToCtrl handle => statusOnly (frameworkEcRemapCapsToCtrl handle)
  | .ecPs2EmulationEnable handle enable =>
      statusOnly (frameworkEcPs2EmulationEnable handle enable)
  | .ecGetGpio handle name nameLength =>
      reporting noBuffers (frameworkEcGetGpio handle name nameLength)
  | .ecSetGpio handle name nameLength value =>
      statusOnly (frameworkEcSetGpio handle name nameLength value)
  | .ecGetGpioCount handle => reporting noBuffers (frameworkEcGetGpioCount handle)
  | .ecGetGpioInfo handle index =>
      reporting GpioRecord.buffers (frameworkEcGetGpioInfo handle index)

def InventoryOperation.run : InventoryOperation → Ffi Outcome
  | .ecGetFeatureFlags handle => reporting noBuffers (frameworkEcGetFeatureFlags handle)
  | .ecGetExpansionBayStatus handle =>
      reporting FrameworkEcExpansionBayStatus.buffers (frameworkEcGetExpansionBayStatus handle)
  | .ecGetGpuDescriptorHeader handle =>
      reporting noBuffers (frameworkEcGetGpuDescriptorHeader handle)
  | .ecReadGpuDescriptor handle => reporting List.singleton (frameworkEcReadGpuDescriptor handle)
  | .ecValidateGpuDescriptor handle expectedDescriptorPtr expectedDescriptorLength =>
      reporting noBuffers
        (frameworkEcValidateGpuDescriptor handle expectedDescriptorPtr expectedDescriptorLength)
  | .ecGetModuleInventory handle => reporting noBuffers (frameworkEcGetModuleInventory handle)
  | .ecGetGpuSerial handle => reporting List.singleton (frameworkEcGetGpuSerial handle)

def DiagnosticsOperation.run : DiagnosticsOperation → Ffi Outcome
  | .ecGetSwitches handle => reporting noBuffers (frameworkEcGetSwitches handle)
  | .ecHello handle inData => reporting noBuffers (frameworkEcHello handle inData)
  | .ecCheckHello handle => reporting noBuffers (frameworkEcCheckHello handle)
  | .ecGetProtocolInfo handle => reporting noBuffers (frameworkEcGetProtocolInfo handle)
  | .ecGetSysinfo handle => reporting noBuffers (frameworkEcGetSysinfo handle)
  | .ecGetPanicInfo handle => reporting PanicRecord.buffers (frameworkEcGetPanicInfo handle)
  | .ecGetPort80History handle =>
      reporting Port80Record.buffers (frameworkEcGetPort80History handle)
  | .ecAuthenticateBattery handle authKey =>
      reporting noBuffers (frameworkEcAuthenticateBattery handle authKey)
  | .ecGetSmartBatteryData handle useUnsealKey unsealKey =>
      reporting FrameworkSmartBatteryData.buffers
        (frameworkEcGetSmartBatteryData handle useUnsealKey unsealKey)

def VersionsOperation.run : VersionsOperation → Ffi Outcome
  | .ecGetPdControllerVersions handle =>
      reporting noBuffers (frameworkEcGetPdControllerVersions handle)
  | .ecGetRetimerVersion handle =>
      reporting RetimerVersion.buffers (frameworkEcGetRetimerVersion handle)
  | .getCameraVersions => reporting PeripheralVersions.buffers frameworkGetCameraVersions
  | .getInputModuleVersions =>
      reporting PeripheralVersions.buffers frameworkGetInputModuleVersions
  | .getUsbHubVersions => reporting PeripheralVersions.buffers frameworkGetUsbHubVersions
  | .getAudioCardVersion => reporting PeripheralVersions.buffers frameworkGetAudioCardVersion
  | .getNvmeVersion devicePath pathLength =>
      reporting NvmeRecord.buffers (frameworkGetNvmeVersion devicePath pathLength)

def ReleaseOperation.run : ReleaseOperation → Ffi Outcome
  | .byteBufferFree buffer => unreported (frameworkByteBufferFree buffer)
  | .peripheralVersionsFree result => unreported (frameworkPeripheralVersionsFree result)
  | .smartBatteryDataFree data => unreported (frameworkSmartBatteryDataFree data)

def Operation.run : Operation → Ffi Outcome
  | .system operation => operation.run
  | .thermal operation => operation.run
  | .controls operation => operation.run
  | .inventory operation => operation.run
  | .diagnostics operation => operation.run
  | .versions operation => operation.run
  | .release operation => operation.run

end FrameworkFfi
