import FrameworkFfi.Upstream.Peripheral

/-!
# Requests to the machine

Everything this crate asks of the outside, one constructor per call: EC
commands and `framework_lib` helpers that send them, HID and USB enumerations,
USB control transfers, the driver probes and the remaining device calls.
`HostRequest.Reply` is what a call can answer. The helpers of `framework_lib`
are opaque here, so their answers are unconstrained.
-/

namespace FrameworkFfi

inductive HostRequest where
  -- drivers and system identity
  | crosEcWith (driver : CrosEcDriverType)
  | crosEcDevPathExists
  | checkMemMagic
  | getProductName
  -- EC queries
  | versionInfo
  | flashVersion
  | powerInfo
  | getFeatures
  | readMemory (offset length : UInt16)
  | getKeyboardBacklight
  | setKeyboardBacklight (percent : UInt8)
  | getFpLedLevel
  | setFpLedLevel (level : FpLedBrightnessLevel)
  | setFpLedPercentage (percentage : UInt8)
  | getPrivacyInfo
  | getChargeLimit
  | setChargeLimit (min max : UInt8)
  | setChargeCurrentLimit (current : UInt32) (batterySoc : Option UInt32)
  | setChargeRateLimit (rate : F32) (batterySoc : Option F32)
  | readBoardId (boardIdType : UInt8)
  | readBoardIdHc (boardIdType : BoardIdType)
  | getPdPortState (port : UInt8)
  | getPdInfo (ports : UInt8)
  | isCharging
  | motionsenseSensorInfo
  | getIntrusionStatus
  | getUptimeInfo
  | getS0ixCounter
  | resetS0ixCounter
  | setTabletMode (mode : UInt8)
  | setInputDeckMode (mode : DeckStateMode)
  | getInputDeckStatus
  | expansionBayStatus
  | getGpuPcie
  | getGpuSerial (idx : UInt8)
  | readGpuDescHeader
  | readGpuDescriptor
  | validateGpuDescriptor (expected : List UInt8)
  | fanSetRpm (fan : Option UInt32) (rpm : UInt32)
  | fanSetDuty (fan : Option UInt32) (percent : UInt32)
  | autofanctrl (fan : Option UInt8)
  | hello (inData : UInt32)
  | getProtocolInfo
  | sysinfo
  | getPanicInfo
  | port80GetInfo
  | port80ReadBuffer (offset numEntries : UInt32)
  | getCutoffStatus
  | getApThrottleStatus
  | getThermalThreshold (sensor : UInt32)
  | setThermalThresholds (sensor : UInt32) (warn high halt fanOff fanMax : Int32)
  | tempSensorGetInfo (id : UInt8)
  | collectSmartBattery (unsealKey : Option UInt32)
  | authenticateBattery (authKey : List UInt8)
  | getFanNum
  | isStandalone
  | standaloneMode
  | getEcHibDelay
  | setEcHibDelay (seconds : UInt32)
  | adcRead (channel : UInt8)
  | cmdVersionSupported (command : UInt32) (version : UInt8)
  | getPdControllerVersions
  | getRetimerVersion
  | rgbkbdSetColor (startKey : UInt8) (colors : List RgbS)
  | remapKey (row col : UInt8) (scanset : UInt16)
  | remapCapsToCtrl
  | ps2EmulationEnable (enable : Bool)
  | getGpio (name : String)
  | setGpio (name : String) (value : Bool)
  | gpioGetCount
  | gpioGetInfo (index : UInt8)
  -- HID devices
  | findExpansionCardDevices
  | hidDeviceList
  | enableTouch (enable : Bool)
  | getStylusBatteryLevel
  | setHapticIntensity (value : UInt8)
  | setClickForce (force : ClickForce)
  -- USB devices
  | usbDevices
  | usbOpen (device : ℕ)
  | usbReadStringDescriptor (device : ℕ) (index : UInt8)
  | usbActiveConfig (device : ℕ)
  | usbClaimInterface (device : ℕ) (interface : UInt8)
  | usbWriteControl (device : ℕ) (interface : UInt8) (report : List UInt8)
  | usbReadControl (device : ℕ) (interface : UInt8) (length : ℕ)
  | usbReleaseInterface (device : ℕ) (interface : UInt8)
  -- NVMe
  | getNvmeFirmwareVersion (path : String)
  deriving DecidableEq

/-- What a request can answer. A call that reports a failure without saying
which one answers an `Option` or a `Bool`. -/
@[reducible] def HostRequest.Reply : HostRequest → Type
  | .crosEcWith _ => Bool
  | .crosEcDevPathExists => Bool
  | .checkMemMagic => EcResult Unit
  | .getProductName => Option OwnedString
  | .versionInfo => EcResult OwnedString
  | .flashVersion => Option (OwnedString × OwnedString × EcCurrentImage)
  | .powerInfo => Option PowerInfo
  | .getFeatures => EcResult (FixedArray 2 UInt32)
  | .readMemory _ _ => Option (List UInt8)
  | .getKeyboardBacklight => EcResult UInt8
  | .setKeyboardBacklight _ => Unit
  | .getFpLedLevel => EcResult (UInt8 × Option FpLedBrightnessLevel)
  | .setFpLedLevel _ => EcResult Unit
  | .setFpLedPercentage _ => EcResult Unit
  | .getPrivacyInfo => EcResult (Bool × Bool)
  | .getChargeLimit => EcResult (UInt8 × UInt8)
  | .setChargeLimit _ _ => EcResult Unit
  | .setChargeCurrentLimit _ _ => EcResult Unit
  | .setChargeRateLimit _ _ => EcResult Unit
  | .readBoardId _ => EcResult Int8
  | .readBoardIdHc _ => EcResult (Option UInt8)
  | .getPdPortState _ => EcResult EcResponseGetPdPortState
  | .getPdInfo _ => List (EcResult UsbPdPowerInfo)
  | .isCharging => EcResult (Bool × Bool)
  | .motionsenseSensorInfo => EcResult (List MotionSenseInfo)
  | .getIntrusionStatus => EcResult IntrusionStatus
  | .getUptimeInfo => EcResult EcResponseGetUptimeInfo
  | .getS0ixCounter => EcResult UInt32
  | .resetS0ixCounter => EcResult Unit
  | .setTabletMode _ => EcResult Unit
  | .setInputDeckMode _ => EcResult Unit
  | .getInputDeckStatus => EcResult InputDeckStatus
  | .expansionBayStatus => EcResult EcResponseExpansionBayStatus
  | .getGpuPcie => EcResult EcResponseGetGpuPcie
  | .getGpuSerial _ => EcResult EcResponseGetGpuSerial
  | .readGpuDescHeader => EcResult GpuCfgDescriptor
  | .readGpuDescriptor => EcResult ByteVec
  | .validateGpuDescriptor _ => EcResult Bool
  | .fanSetRpm _ _ => EcResult Unit
  | .fanSetDuty _ _ => EcResult Unit
  | .autofanctrl _ => EcResult Unit
  | .hello _ => EcResult UInt32
  | .getProtocolInfo => EcResult EcResponseGetProtocolInfo
  | .sysinfo => EcResult EcResponseSysinfo
  | .getPanicInfo => EcResult ByteVec
  | .port80GetInfo => EcResult EcResponsePort80Info
  | .port80ReadBuffer _ _ => EcResult (List UInt8)
  | .getCutoffStatus => Option Bool
  | .getApThrottleStatus => EcResult EcResponseApThrottleStatus
  | .getThermalThreshold _ => EcResult EcThermalConfig
  | .setThermalThresholds _ _ _ _ _ _ => EcResult Unit
  | .tempSensorGetInfo _ => EcResult EcResponseTempSensorGetInfo
  | .collectSmartBattery _ => EcResult BatteryData
  | .authenticateBattery _ => EcResult Bool
  | .getFanNum => EcResult ℕ
  | .isStandalone => Bool
  | .standaloneMode => Bool
  | .getEcHibDelay => EcResult UInt32
  | .setEcHibDelay _ => EcResult Unit
  | .adcRead _ => EcResult Int32
  | .cmdVersionSupported _ _ => EcResult Bool
  | .getPdControllerVersions => EcResult PdVersions
  | .getRetimerVersion => EcResult (Option ByteVec)
  | .rgbkbdSetColor _ _ => EcResult Unit
  | .remapKey _ _ _ => EcResult Unit
  | .remapCapsToCtrl => EcResult Unit
  | .ps2EmulationEnable _ => EcResult Unit
  | .getGpio _ => EcResult Bool
  | .setGpio _ _ => EcResult Unit
  | .gpioGetCount => EcResult UInt8
  | .gpioGetInfo _ => EcResult EcResponseGpioGetV1Info
  | .findExpansionCardDevices => Option (List HidDevice)
  | .hidDeviceList => Option (List HidDevice)
  | .enableTouch _ => Option Unit
  | .getStylusBatteryLevel => Option UInt8
  | .setHapticIntensity _ => Bool
  | .setClickForce _ => Bool
  | .usbDevices => Option (List UsbDevice)
  | .usbOpen _ => Bool
  | .usbReadStringDescriptor _ _ => Option OwnedString
  | .usbActiveConfig _ => Option (List UsbInterface)
  | .usbClaimInterface _ _ => Bool
  | .usbWriteControl _ _ _ => Bool
  | .usbReadControl _ _ _ => Option (List UInt8)
  | .usbReleaseInterface _ _ => Bool
  | .getNvmeFirmwareVersion _ => Option NvmeInfo

/-- The answers of a machine on which nothing is connected and every query
fails. -/
def HostRequest.silence : (request : HostRequest) → request.Reply
  | .crosEcWith _ => false
  | .crosEcDevPathExists => false
  | .checkMemMagic => .error (.response .unavailable)
  | .getProductName => none
  | .versionInfo => .error (.response .unavailable)
  | .flashVersion => none
  | .powerInfo => none
  | .getFeatures => .error (.response .unavailable)
  | .readMemory _ _ => none
  | .getKeyboardBacklight => .error (.response .unavailable)
  | .setKeyboardBacklight _ => ()
  | .getFpLedLevel => .error (.response .unavailable)
  | .setFpLedLevel _ => .error (.response .unavailable)
  | .setFpLedPercentage _ => .error (.response .unavailable)
  | .getPrivacyInfo => .error (.response .unavailable)
  | .getChargeLimit => .error (.response .unavailable)
  | .setChargeLimit _ _ => .error (.response .unavailable)
  | .setChargeCurrentLimit _ _ => .error (.response .unavailable)
  | .setChargeRateLimit _ _ => .error (.response .unavailable)
  | .readBoardId _ => .error (.response .unavailable)
  | .readBoardIdHc _ => .error (.response .unavailable)
  | .getPdPortState _ => .error (.response .unavailable)
  | .getPdInfo _ => []
  | .isCharging => .error (.response .unavailable)
  | .motionsenseSensorInfo => .error (.response .unavailable)
  | .getIntrusionStatus => .error (.response .unavailable)
  | .getUptimeInfo => .error (.response .unavailable)
  | .getS0ixCounter => .error (.response .unavailable)
  | .resetS0ixCounter => .error (.response .unavailable)
  | .setTabletMode _ => .error (.response .unavailable)
  | .setInputDeckMode _ => .error (.response .unavailable)
  | .getInputDeckStatus => .error (.response .unavailable)
  | .expansionBayStatus => .error (.response .unavailable)
  | .getGpuPcie => .error (.response .unavailable)
  | .getGpuSerial _ => .error (.response .unavailable)
  | .readGpuDescHeader => .error (.response .unavailable)
  | .readGpuDescriptor => .error (.response .unavailable)
  | .validateGpuDescriptor _ => .error (.response .unavailable)
  | .fanSetRpm _ _ => .error (.response .unavailable)
  | .fanSetDuty _ _ => .error (.response .unavailable)
  | .autofanctrl _ => .error (.response .unavailable)
  | .hello _ => .error (.response .unavailable)
  | .getProtocolInfo => .error (.response .unavailable)
  | .sysinfo => .error (.response .unavailable)
  | .getPanicInfo => .error (.response .unavailable)
  | .port80GetInfo => .error (.response .unavailable)
  | .port80ReadBuffer _ _ => .error (.response .unavailable)
  | .getCutoffStatus => none
  | .getApThrottleStatus => .error (.response .unavailable)
  | .getThermalThreshold _ => .error (.response .unavailable)
  | .setThermalThresholds _ _ _ _ _ _ => .error (.response .unavailable)
  | .tempSensorGetInfo _ => .error (.response .unavailable)
  | .collectSmartBattery _ => .error (.response .unavailable)
  | .authenticateBattery _ => .error (.response .unavailable)
  | .getFanNum => .error (.response .unavailable)
  | .isStandalone => false
  | .standaloneMode => false
  | .getEcHibDelay => .error (.response .unavailable)
  | .setEcHibDelay _ => .error (.response .unavailable)
  | .adcRead _ => .error (.response .unavailable)
  | .cmdVersionSupported _ _ => .error (.response .unavailable)
  | .getPdControllerVersions => .error (.response .unavailable)
  | .getRetimerVersion => .error (.response .unavailable)
  | .rgbkbdSetColor _ _ => .error (.response .unavailable)
  | .remapKey _ _ _ => .error (.response .unavailable)
  | .remapCapsToCtrl => .error (.response .unavailable)
  | .ps2EmulationEnable _ => .error (.response .unavailable)
  | .getGpio _ => .error (.response .unavailable)
  | .setGpio _ _ => .error (.response .unavailable)
  | .gpioGetCount => .error (.response .unavailable)
  | .gpioGetInfo _ => .error (.response .unavailable)
  | .findExpansionCardDevices => none
  | .hidDeviceList => none
  | .enableTouch _ => none
  | .getStylusBatteryLevel => none
  | .setHapticIntensity _ => false
  | .setClickForce _ => false
  | .usbDevices => none
  | .usbOpen _ => false
  | .usbReadStringDescriptor _ _ => none
  | .usbActiveConfig _ => none
  | .usbClaimInterface _ _ => false
  | .usbWriteControl _ _ _ => false
  | .usbReadControl _ _ _ => none
  | .usbReleaseInterface _ _ => false
  | .getNvmeFirmwareVersion _ => none

end FrameworkFfi
