import FrameworkFfi.Controls
import FrameworkFfi.Abi.Versions
import FrameworkFfi.Exports.Shape
import FrameworkFfi.Host.Ownership
import FrameworkFfi.Host.Pointer
import FrameworkFfi.Inventory.Conversions
import FrameworkFfi.Pd

/-!
# Exported functions: settings, sensors, charging and input devices
-/

namespace FrameworkFfi

open Effect

/-! ### Backlight, switches and settings -/

/-- The result holds `brightness_percent`. -/
abbrev FrameworkEcKeyboardBacklightResult := FrameworkResult UInt8

/-- `framework_ec_get_keyboard_backlight`. -/
def frameworkEcGetKeyboardBacklight (handle : HandlePtr) :
    Ffi FrameworkEcKeyboardBacklightResult :=
  exported handle 0 fun _ => ecReply (ask .getKeyboardBacklight) pure

/-- The part of `framework_ec_set_keyboard_backlight` that needs its handle. The
command has no answer. -/
def setKeyboardBacklight (percent : UInt8) : Ffi (StatusResult Unit) :=
  if 100 < percent then pure (.error (.withCode .invalidArgument 0))
  else do
    ask (.setKeyboardBacklight percent)
    pure (.ok ())

/-- `framework_ec_set_keyboard_backlight`. -/
def frameworkEcSetKeyboardBacklight (handle : HandlePtr) (percent : UInt8) :
    Ffi FrameworkStatus :=
  exportedStatus handle fun _ => setKeyboardBacklight percent

structure FrameworkEcFingerprintLedState where
  rawLevel : UInt8
  level : FrameworkFingerprintLedLevel

abbrev FrameworkEcFingerprintLedResult := FrameworkResult FrameworkEcFingerprintLedState

/-- `framework_ec_get_fingerprint_led`. -/
def frameworkEcGetFingerprintLed (handle : HandlePtr) : Ffi FrameworkEcFingerprintLedResult :=
  exported handle ⟨0, .unknown⟩ fun _ => ecReply (ask .getFpLedLevel) fun (rawLevel, level) =>
    pure ⟨rawLevel, fingerprintLedLevel level⟩

/-- The level of a set command, when it is one that can be set. -/
def requireLedLevel (level : FrameworkFingerprintLedLevel) : StatusResult FpLedBrightnessLevel :=
  match fpLedBrightnessLevel level with
  | some ledLevel => .ok ledLevel
  | none => .error (.withCode .invalidArgument 0)

/-- `framework_ec_set_fingerprint_led`. -/
def frameworkEcSetFingerprintLed (handle : HandlePtr) (level : FrameworkFingerprintLedLevel) :
    Ffi FrameworkStatus :=
  exportedStatus handle fun _ => andThen (pure (requireLedLevel level)) fun ledLevel =>
    ecReply (ask (.setFpLedLevel ledLevel)) pure

/-- `framework_ec_set_fingerprint_led_percentage`. -/
def frameworkEcSetFingerprintLedPercentage (handle : HandlePtr) (percentage : UInt8) :
    Ffi FrameworkStatus :=
  exportedStatus handle fun _ => ecReply (ask (.setFpLedPercentage percentage)) pure

/-- `FrameworkPrivacySwitchesResult` without its status. -/
structure PrivacySwitches where
  microphoneEnabled : UInt8
  cameraEnabled : UInt8

abbrev FrameworkPrivacySwitchesResult := FrameworkResult PrivacySwitches

/-- `framework_ec_get_privacy_switches`. -/
def frameworkEcGetPrivacySwitches (handle : HandlePtr) : Ffi FrameworkPrivacySwitchesResult :=
  exported handle ⟨0, 0⟩ fun _ => ecReply (ask .getPrivacyInfo) fun (mic, cam) =>
    pure ⟨byteOfBool mic, byteOfBool cam⟩

/-- `FrameworkChargeLimitsResult` without its status. -/
structure ChargeLimits where
  minPercent : UInt8
  maxPercent : UInt8

abbrev FrameworkChargeLimitsResult := FrameworkResult ChargeLimits

/-- `framework_ec_get_charge_limits`. -/
def frameworkEcGetChargeLimits (handle : HandlePtr) : Ffi FrameworkChargeLimitsResult :=
  exported handle ⟨0, 0⟩ fun _ => ecReply (ask .getChargeLimit) fun (min, max) =>
    pure ⟨min, max⟩

/-- `framework_ec_set_charge_limits`. -/
def frameworkEcSetChargeLimits (handle : HandlePtr) (minPercent maxPercent : UInt8) :
    Ffi FrameworkStatus :=
  exportedStatus handle fun _ => ecReply (ask (.setChargeLimit minPercent maxPercent)) pure

/-- `framework_ec_set_charge_current_limit`. -/
def frameworkEcSetChargeCurrentLimit (handle : HandlePtr) (currentMa : UInt32)
    (batterySoc : Int32) : Ffi FrameworkStatus :=
  let soc := if batterySoc < 0 then none else some batterySoc.toUInt32
  exportedStatus handle fun _ => ecReply (ask (.setChargeCurrentLimit currentMa soc)) pure

/-- `framework_ec_set_charge_rate_limit`. -/
def frameworkEcSetChargeRateLimit (handle : HandlePtr) (rateAmps batterySocPercent : F32) :
    Ffi FrameworkStatus :=
  let soc := if batterySocPercent.isNegative then none else some batterySocPercent
  exportedStatus handle fun _ => ecReply (ask (.setChargeRateLimit rateAmps soc)) pure

/-- `FrameworkBoardIdResult` without its status. -/
structure BoardId where
  boardIdType : FrameworkBoardIdType
  boardId : Int8

abbrev FrameworkBoardIdResult := FrameworkResult BoardId

/-- `framework_ec_read_board_id`. -/
def frameworkEcReadBoardId (handle : HandlePtr) (boardIdType : FrameworkBoardIdType) :
    Ffi FrameworkBoardIdResult :=
  exported handle ⟨boardIdType, -1⟩ fun _ =>
    ecReply (ask (.readBoardId boardIdType.toUInt8)) fun boardId => pure ⟨boardIdType, boardId⟩

/-- `FrameworkChassisIntrusionResult` without its status. -/
structure ChassisIntrusion where
  currentlyOpen : UInt8
  coinCellEverRemoved : UInt8
  everOpened : UInt8
  totalOpened : UInt8
  vtrOpenCount : UInt8

abbrev FrameworkChassisIntrusionResult := FrameworkResult ChassisIntrusion

/-- `framework_ec_get_chassis_intrusion`. -/
def frameworkEcGetChassisIntrusion (handle : HandlePtr) : Ffi FrameworkChassisIntrusionResult :=
  exported handle ⟨0, 0, 0, 0, 0⟩ fun _ => ecReply (ask .getIntrusionStatus) fun s =>
    pure
      { currentlyOpen := byteOfBool s.currentlyOpen
        coinCellEverRemoved := byteOfBool s.coinCellEverRemoved
        everOpened := byteOfBool s.everOpened
        totalOpened := s.totalOpened
        vtrOpenCount := s.vtrOpenCount }

/-- `FrameworkEcUptimeResult` without its status. -/
structure Uptime where
  timeSinceEcBootMs : UInt32
  apResetsSinceEcBoot : UInt32
  ecResetFlags : UInt32

abbrev FrameworkEcUptimeResult := FrameworkResult Uptime

/-- `framework_ec_get_uptime`. -/
def frameworkEcGetUptime (handle : HandlePtr) : Ffi FrameworkEcUptimeResult :=
  exported handle ⟨0, 0, 0⟩ fun _ => ecReply (ask .getUptimeInfo) fun info =>
    pure ⟨info.timeSinceEcBoot, info.apResetsSinceEcBoot, info.ecResetFlags⟩

/-- The result holds `s0ix_count`. -/
abbrev FrameworkS0ixCounterResult := FrameworkResult UInt32

/-- `framework_ec_get_s0ix_counter`. -/
def frameworkEcGetS0ixCounter (handle : HandlePtr) : Ffi FrameworkS0ixCounterResult :=
  exported handle 0 fun _ => ecReply (ask .getS0ixCounter) pure

/-- `framework_ec_reset_s0ix_counter`. -/
def frameworkEcResetS0ixCounter (handle : HandlePtr) : Ffi FrameworkStatus :=
  exportedStatus handle fun _ => ecReply (ask .resetS0ixCounter) pure

/-- `framework_ec_set_tablet_mode`. -/
def frameworkEcSetTabletMode (handle : HandlePtr) (mode : FrameworkTabletModeOverride) :
    Ffi FrameworkStatus :=
  exportedStatus handle fun _ => ecReply (setTabletMode mode) pure

/-- `framework_ec_set_input_deck_mode`. -/
def frameworkEcSetInputDeckMode (handle : HandlePtr) (mode : FrameworkDeckStateMode) :
    Ffi FrameworkStatus :=
  exportedStatus handle fun _ => ecReply (ask (.setInputDeckMode (intoDeckStateMode mode))) pure

/-- The result holds `seconds`. -/
abbrev FrameworkEcHibernateDelayResult := FrameworkResult UInt32

/-- `framework_ec_get_hibernate_delay`. -/
def frameworkEcGetHibernateDelay (handle : HandlePtr) : Ffi FrameworkEcHibernateDelayResult :=
  exported handle 0 fun _ => ecReply (ask .getEcHibDelay) pure

/-- `framework_ec_set_hibernate_delay`. -/
def frameworkEcSetHibernateDelay (handle : HandlePtr) (seconds : UInt32) :
    Ffi FrameworkStatus :=
  exportedStatus handle fun _ => ecReply (ask (.setEcHibDelay seconds)) pure

/-- `FrameworkEcAdcResult` without its status. -/
structure AdcReading where
  channel : UInt8
  value : Int32

abbrev FrameworkEcAdcResult := FrameworkResult AdcReading

/-- `framework_ec_adc_read`. -/
def frameworkEcAdcRead (handle : HandlePtr) (channel : UInt8) : Ffi FrameworkEcAdcResult :=
  exported handle ⟨channel, 0⟩ fun _ => ecReply (ask (.adcRead channel)) fun value =>
    pure ⟨channel, value⟩

/-- `FrameworkEcCommandSupportResult` without its status. -/
structure CommandSupport where
  command : UInt32
  version : UInt8
  supported : UInt8

abbrev FrameworkEcCommandSupportResult := FrameworkResult CommandSupport

/-- `framework_ec_command_version_supported`. -/
def frameworkEcCommandVersionSupported (handle : HandlePtr) (command : UInt32)
    (version : UInt8) : Ffi FrameworkEcCommandSupportResult :=
  exported handle ⟨command, version, 0⟩ fun _ =>
    ecReply (ask (.cmdVersionSupported command version)) fun supported =>
      pure ⟨command, version, byteOfBool supported⟩

/-! ### Sensors -/

/-- `FrameworkSensorInfoSnapshot` without its status. -/
structure SensorInfo where
  sensorCount : UInt8
  sensor : FixedArray 8 FrameworkSensorDescriptor

abbrev FrameworkSensorInfoSnapshot := FrameworkResult SensorInfo

def unknownSensor : FrameworkSensorDescriptor := ⟨.unknown, .unknown, .unknown, .unknown⟩

/-- The sensors of the machine. A controller without the command has none. -/
def motionSensors : Ffi (StatusResult (List MotionSenseInfo)) := do
  match ← ask .motionsenseSensorInfo with
  | .error (.response .invalidCommand) => pure (.ok [])
  | response => orStatus response

def sensorInfo (sensors : List MotionSenseInfo) : SensorInfo :=
  { sensorCount := UInt8.ofNat (min sensors.length 8)
    sensor := fun i => (sensors[i.val]?.map intoSensorDescriptor).getD unknownSensor }

/-- `framework_ec_get_sensor_info`. -/
def frameworkEcGetSensorInfo (handle : HandlePtr) : Ffi FrameworkSensorInfoSnapshot :=
  exported handle ⟨0, fun _ => unknownSensor⟩ fun _ =>
    andThen motionSensors fun sensors => pure (.ok (sensorInfo sensors))

abbrev FrameworkAccelDataResult := FrameworkResult AccelData

/-- `framework_ec_get_accel_data`. -/
def frameworkEcGetAccelData (handle : HandlePtr) : Ffi FrameworkAccelDataResult :=
  exported handle ⟨-1, 0, 0, 0, 0, 0, 0⟩ fun _ => someReply getAccelData pure

/-- `FrameworkAlsResult` without its status. -/
structure AlsReading where
  lux0 : UInt32
  lux1 : UInt32

abbrev FrameworkAlsResult := FrameworkResult AlsReading

/-- `framework_ec_get_als_reading`. -/
def frameworkEcGetAlsReading (handle : HandlePtr) : Ffi FrameworkAlsResult :=
  exported handle ⟨0, 0⟩ fun _ => someReply getAls fun (lux0, lux1) => pure ⟨lux0, lux1⟩

/-! ### Charging -/

/-- `FrameworkActiveChargeResult` without its status. -/
structure ActiveCharge where
  activePortIndex : Int8
  pd : FrameworkEcPdPortState

abbrev FrameworkActiveChargeResult := FrameworkResult ActiveCharge

def noActiveCharge : ActiveCharge := ⟨-1, defaultPdPortState⟩

/-- The scan of `framework_ec_get_active_charge`: the first port that is active. -/
def firstActivePort : List UInt8 → Ffi ActiveCharge
  | [] => pure noActiveCharge
  | port :: ports => do
      let state ← queryPdPortState port
      if state.activePort ≠ 0 then pure ⟨port.toInt8, state⟩ else firstActivePort ports

/-- `framework_ec_get_active_charge`. -/
def frameworkEcGetActiveCharge (handle : HandlePtr) : Ffi FrameworkActiveChargeResult :=
  exported handle noActiveCharge fun _ => do
    let charge ← firstActivePort [0, 1, 2, 3, 4, 5]
    pure (.ok charge)

/-- `FrameworkEcPdPowerInfoResult` without its status. -/
structure PortPowerInfo where
  port : UInt8
  dualrole : UInt8
  role : FrameworkUsbPowerRole
  chargingType : FrameworkUsbChargingType
  voltageMaxMv : UInt16
  voltageNowMv : UInt16
  currentMaxMa : UInt16
  currentLimMa : UInt16
  maxPowerUw : UInt32

abbrev FrameworkEcPdPowerInfoResult := FrameworkResult PortPowerInfo

def usbPowerRole (role : UInt8) : FrameworkUsbPowerRole :=
  if role = 1 then .source
  else if role = 2 then .sink
  else if role = 3 then .sinkNotCharging
  else .disconnected

def usbChargingType (chargingType : UInt8) : FrameworkUsbChargingType :=
  if chargingType = 1 then .pd
  else if chargingType = 2 then .typeC
  else if chargingType = 3 then .proprietary
  else if chargingType = 4 then .bc12Dcp
  else if chargingType = 5 then .bc12Cdp
  else if chargingType = 6 then .bc12Sdp
  else if chargingType = 7 then .other
  else if chargingType = 8 then .vBus
  else if chargingType = 9 then .unknown
  else .none

def emptyPowerInfo (port : UInt8) : PortPowerInfo :=
  { port
    dualrole := 0
    role := .disconnected
    chargingType := .none
    voltageMaxMv := 0
    voltageNowMv := 0
    currentMaxMa := 0
    currentLimMa := 0
    maxPowerUw := 0 }

/-- `framework_ec_get_pd_power_info`. -/
def frameworkEcGetPdPowerInfo (handle : HandlePtr) (port : UInt8) :
    Ffi FrameworkEcPdPowerInfoResult :=
  exported handle (emptyPowerInfo port) fun _ => ecReply (queryPdPowerInfo port) fun info =>
    pure
      { port
        dualrole := byteOfBool info.dualrole
        role := usbPowerRole info.role
        chargingType := usbChargingType info.chargingType
        voltageMaxMv := info.voltageMaxMv
        voltageNowMv := info.voltageNowMv
        currentMaxMa := info.currentMaxMa
        currentLimMa := info.currentLimMa
        maxPowerUw := info.maxPowerUw }

/-- `FrameworkEcChargingStateResult` without its status. -/
structure ChargingState where
  isCharging : UInt8
  acPresent : UInt8

abbrev FrameworkEcChargingStateResult := FrameworkResult ChargingState

/-- `framework_ec_is_charging`. -/
def frameworkEcIsCharging (handle : HandlePtr) : Ffi FrameworkEcChargingStateResult :=
  exported handle ⟨0, 0⟩ fun _ => ecReply (ask .isCharging) fun (acPresent, charging) =>
    pure ⟨byteOfBool charging, byteOfBool acPresent⟩

/-! ### Touchscreen, touchpad and keyboard -/

/-- `FrameworkStylusBatteryResult` without its status. -/
structure StylusBattery where
  levelPercent : UInt8
  present : UInt8

abbrev FrameworkStylusBatteryResult := FrameworkResult StylusBattery

/-- The battery of a stylus, empty when none is paired. -/
def stylusBattery (level : Option UInt8) : StylusBattery :=
  match level with
  | some level => ⟨level, 1⟩
  | none => ⟨0, 0⟩

/-- `framework_get_stylus_battery`. It always succeeds. -/
def frameworkGetStylusBattery : Ffi FrameworkStylusBatteryResult :=
  exportedQuery ⟨0, 0⟩ do
    let level ← ask .getStylusBatteryLevel
    pure (.ok (stylusBattery level))

/-- `if done { success } else { DataUnavailable }`. -/
def doneStatus (command : Ffi Bool) : Ffi FrameworkStatus := do
  let done ← command
  pure (if done then .success else .withCode .dataUnavailable 0)

/-- `framework_touchscreen_enable`. -/
def frameworkTouchscreenEnable (enable : Bool) : Ffi FrameworkStatus :=
  doneStatus (enableTouchscreen enable)

/-- `framework_touchpad_set_haptic_intensity`. -/
def frameworkTouchpadSetHapticIntensity (intensity : UInt8) : Ffi FrameworkStatus :=
  doneStatus (ask (.setHapticIntensity intensity))

/-- `framework_touchpad_set_click_force`. -/
def frameworkTouchpadSetClickForce (force : FrameworkClickForce) : Ffi FrameworkStatus :=
  doneStatus (ask (.setClickForce (intoClickForce force)))

/-- `chunks_exact(3)`, read as colours. -/
def rgbOfBytes : List UInt8 → List RgbS
  | r :: g :: b :: rest => ⟨r, g, b⟩ :: rgbOfBytes rest
  | _ => []

def requireColors (colors : BytePtr) (colorCount : Int32) : StatusResult (List RgbS) :=
  match colors with
  | none => .error (.withCode .nullPointer 0)
  | some memory =>
      if colorCount < 0 then .error (.withCode .invalidArgument colorCount)
      else .ok (rgbOfBytes (sliceFromRawParts memory (colorCount.toNatClampNeg * 3)))

/-- `framework_ec_set_rgb_keyboard_colors`. -/
def frameworkEcSetRgbKeyboardColors (handle : HandlePtr) (startKey : UInt8)
    (colors : BytePtr) (colorCount : Int32) : Ffi FrameworkStatus :=
  exportedStatus handle fun _ => andThen (pure (requireColors colors colorCount)) fun parsed =>
    ecReply (ask (.rgbkbdSetColor startKey parsed)) pure

/-- `framework_ec_remap_key`. -/
def frameworkEcRemapKey (handle : HandlePtr) (row col : UInt8) (scanset : UInt16) :
    Ffi FrameworkStatus :=
  exportedStatus handle fun _ => ecReply (ask (.remapKey row col scanset)) pure

/-- `framework_ec_remap_caps_to_ctrl`. -/
def frameworkEcRemapCapsToCtrl (handle : HandlePtr) : Ffi FrameworkStatus :=
  exportedStatus handle fun _ => ecReply (ask .remapCapsToCtrl) pure

/-- `framework_ec_ps2_emulation_enable`. -/
def frameworkEcPs2EmulationEnable (handle : HandlePtr) (enable : Bool) : Ffi FrameworkStatus :=
  exportedStatus handle fun _ => ecReply (ask (.ps2EmulationEnable enable)) pure

/-! ### GPIOs -/

/-- The result holds `value`. -/
abbrev FrameworkEcGpioValueResult := FrameworkResult UInt8

/-- `framework_ec_get_gpio`. -/
def frameworkEcGetGpio (handle : HandlePtr) (name : BytePtr) (nameLength : Int32) :
    Ffi FrameworkEcGpioValueResult :=
  exported handle 0 fun _ => andThen (pure (borrowUtf8 name nameLength)) fun name =>
    ecReply (ask (.getGpio name)) fun value => pure (byteOfBool value)

/-- `framework_ec_set_gpio`. -/
def frameworkEcSetGpio (handle : HandlePtr) (name : BytePtr) (nameLength : Int32)
    (value : Bool) : Ffi FrameworkStatus :=
  exportedStatus handle fun _ => andThen (pure (borrowUtf8 name nameLength)) fun name =>
    ecReply (ask (.setGpio name value)) pure

/-- The result holds `count`. -/
abbrev FrameworkEcGpioCountResult := FrameworkResult UInt8

/-- `framework_ec_get_gpio_count`. -/
def frameworkEcGetGpioCount (handle : HandlePtr) : Ffi FrameworkEcGpioCountResult :=
  exported handle 0 fun _ => ecReply (ask .gpioGetCount) pure

/-- `FrameworkEcGpioInfoResult` without its status. -/
structure GpioRecord where
  index : UInt8
  value : UInt8
  flags : UInt32
  name : FrameworkByteBuffer

abbrev FrameworkEcGpioInfoResult := FrameworkResult GpioRecord

/-- The record of a GPIO. Its name is handed over. -/
def gpioRecord (index : UInt8) (info : GpioInfo) : Ffi GpioRecord := do
  let name ← FrameworkByteBuffer.fromVec info.name.intoBytes
  pure { index, value := byteOfBool info.value, flags := info.flags, name }

/-- `framework_ec_get_gpio_info`. -/
def frameworkEcGetGpioInfo (handle : HandlePtr) (index : UInt8) :
    Ffi FrameworkEcGpioInfoResult :=
  exported handle ⟨index, 0, 0, .default⟩ fun _ => ecReply (gpioInfoAt index) (gpioRecord index)

end FrameworkFfi
