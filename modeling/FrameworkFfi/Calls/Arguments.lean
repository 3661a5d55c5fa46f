import FrameworkFfi.Exports.Operation

/-!
# What the arguments of a call decide

Two things about a call are known from its arguments alone: whether it is refused
and with which status, and which command it sends to the machine when it is not.
`Operation.refusal` and `Operation.command` say so for each exported function.
They are the specification that the runs of the functions are compared with.
-/

namespace FrameworkFfi

/-- The codes of a status that blames the caller. -/
def FrameworkStatus.blamesCaller (status : FrameworkStatus) : Bool :=
  status.code = .nullPointer ∨ status.code = .invalidArgument ∨ status.code = .notSupported

def failureOf {α : Type} : StatusResult α → Option FrameworkStatus
  | .ok _ => none
  | .error status => some status

/-- Why a call on a handle is refused, whose arguments are checked. -/
def refusalOf {α : Type} (handle : HandlePtr) (check : StatusResult α) :
    Option FrameworkStatus :=
  match handle with
  | none => some (.withCode .nullPointer 0)
  | some _ => failureOf check

/-- The command of a call on a handle, whose arguments are checked. -/
def commandOf {α : Type} (handle : HandlePtr) (check : StatusResult α)
    (command : α → HostRequest) : Option HostRequest :=
  match handle, check with
  | some _, .ok a => some (command a)
  | _, _ => none

def unchecked : StatusResult Unit := .ok ()

/-- The check of `framework_ec_set_keyboard_backlight`. -/
def requirePercent (percent : UInt8) : StatusResult UInt8 :=
  if 100 < percent then .error (.withCode .invalidArgument 0) else .ok percent

/-! ### Refusals -/

def SystemOperation.refusal : SystemOperation → Option FrameworkStatus
  | .ecGetActiveDriver handle | .ecGetBuildInfo handle | .ecGetFlashVersions handle =>
      refusalOf handle unchecked
  | .ecDriverIsSupported _ | .statusGetDeviceErrorMessage _ | .statusGetDescription _
  | .ecOpenDefault | .ecOpenWithDriver _ | .ecClose _ | .getPlatform | .getPlatformFamily
  | .getProductName => none

def ThermalOperation.refusal : ThermalOperation → Option FrameworkStatus
  | .ecSetFanRpm handle fanIndex _ | .ecSetFanDuty handle fanIndex _ =>
      refusalOf handle (parseOptionalFanIndex fanIndex)
  | .ecRestoreAutoFanControl handle fanIndex =>
      refusalOf handle (parseOptionalFanIndexU8 fanIndex)
  | .ecGetPowerSnapshot handle | .ecGetFanCapabilities handle | .ecGetThermalSnapshot handle
  | .ecGetBatteryCutoffStatus handle | .ecGetApThrottleStatus handle
  | .ecGetThermalThresholds handle _ | .ecSetThermalThresholds handle _ _ _ _ _ _
  | .ecGetTempSensorName handle _ | .ecGetFanCount handle | .ecGetStandaloneMode handle =>
      refusalOf handle unchecked

def ControlsOperation.refusal : ControlsOperation → Option FrameworkStatus
  | .ecSetKeyboardBacklight handle percent => refusalOf handle (requirePercent percent)
  | .ecSetFingerprintLed handle level => refusalOf handle (requireLedLevel level)
  | .ecSetRgbKeyboardColors handle _ colors colorCount =>
      refusalOf handle (requireColors colors colorCount)
  | .ecGetGpio handle name nameLength | .ecSetGpio handle name nameLength _ =>
      refusalOf handle (borrowUtf8 name nameLength)
  | .getStylusBattery | .touchscreenEnable _ | .touchpadSetHapticIntensity _
  | .touchpadSetClickForce _ => none
  | .ecGetKeyboardBacklight handle | .ecGetFingerprintLed handle | .ecGetPrivacySwitches handle
  | .ecGetChargeLimits handle | .ecSetChargeLimits handle _ _ | .ecReadBoardId handle _
  | .ecGetActiveCharge handle | .ecGetSensorInfo handle | .ecGetAccelData handle
  | .ecGetAlsReading handle | .ecGetChassisIntrusion handle | .ecSetChargeCurrentLimit handle _ _
  | .ecGetUptime handle | .ecGetS0ixCounter handle | .ecResetS0ixCounter handle
  | .ecSetTabletMode handle _ | .ecSetInputDeckMode handle _ | .ecSetChargeRateLimit handle _ _
  | .ecGetHibernateDelay handle | .ecSetHibernateDelay handle _
  | .ecSetFingerprintLedPercentage handle _ | .ecAdcRead handle _
  | .ecCommandVersionSupported handle _ _ | .ecGetPdPowerInfo handle _ | .ecIsCharging handle
  | .ecRemapKey handle _ _ _ | .ecRemapCapsToCtrl handle | .ecPs2EmulationEnable handle _
  | .ecGetGpioCount handle | .ecGetGpioInfo handle _ => refusalOf handle unchecked

def InventoryOperation.refusal : InventoryOperation → Option FrameworkStatus
  | .ecValidateGpuDescriptor handle expectedDescriptorPtr expectedDescriptorLength =>
      refusalOf handle (validateExpectedBytes expectedDescriptorPtr expectedDescriptorLength)
  | .ecGetFeatureFlags handle | .ecGetExpansionBayStatus handle
  | .ecGetGpuDescriptorHeader handle | .ecReadGpuDescriptor handle | .ecGetModuleInventory handle
  | .ecGetGpuSerial handle => refusalOf handle unchecked

def DiagnosticsOperation.refusal : DiagnosticsOperation → Option FrameworkStatus
  | .ecAuthenticateBattery handle authKey => refusalOf handle (requireAuthKey authKey)
  | .ecGetSwitches handle | .ecHello handle _ | .ecCheckHello handle | .ecGetProtocolInfo handle
  | .ecGetSysinfo handle | .ecGetPanicInfo handle | .ecGetPort80History handle
  | .ecGetSmartBatteryData handle _ _ => refusalOf handle unchecked

/-- The path of a drive is looked at on a system with drives only. -/
def VersionsOperation.refusal (m : Machine) : VersionsOperation → Option FrameworkStatus
  | .ecGetPdControllerVersions handle | .ecGetRetimerVersion handle => refusalOf handle unchecked
  | .getCameraVersions | .getInputModuleVersions | .getUsbHubVersions | .getAudioCardVersion =>
      none
  | .getNvmeVersion devicePath pathLength =>
      if nvmeSupported m then failureOf (borrowUtf8 devicePath pathLength)
      else some (.withCode .notSupported 0)

def Operation.refusal (m : Machine) : Operation → Option FrameworkStatus
  | .system operation => operation.refusal
  | .thermal operation => operation.refusal
  | .controls operation => operation.refusal
  | .inventory operation => operation.refusal
  | .diagnostics operation => operation.refusal
  | .versions operation => operation.refusal m
  | .release _ => none

/-! ### Commands -/

def ThermalOperation.command : ThermalOperation → Option HostRequest
  | .ecSetFanRpm handle fanIndex rpm =>
      commandOf handle (parseOptionalFanIndex fanIndex) fun fan => .fanSetRpm fan rpm
  | .ecSetFanDuty handle fanIndex percent =>
      commandOf handle (parseOptionalFanIndex fanIndex) fun fan => .fanSetDuty fan percent
  | .ecRestoreAutoFanControl handle fanIndex =>
      commandOf handle (parseOptionalFanIndexU8 fanIndex) .autofanctrl
  | .ecSetThermalThresholds handle sensorIndex warnCelsius highCelsius haltCelsius
      fanOffCelsius fanMaxCelsius =>
      commandOf handle unchecked fun () => .setThermalThresholds sensorIndex warnCelsius
        highCelsius haltCelsius fanOffCelsius fanMaxCelsius
  | _ => none

def ControlsOperation.command : ControlsOperation → Option HostRequest
  | .ecSetKeyboardBacklight handle percent =>
      commandOf handle (requirePercent percent) .setKeyboardBacklight
  | .ecSetFingerprintLed handle level => commandOf handle (requireLedLevel level) .setFpLedLevel
  | .ecSetChargeLimits handle minPercent maxPercent =>
      commandOf handle unchecked fun () => .setChargeLimit minPercent maxPercent
  | .ecSetChargeCurrentLimit handle currentMa batterySoc =>
      commandOf handle unchecked fun () => .setChargeCurrentLimit currentMa
        (if batterySoc < 0 then none else some batterySoc.toUInt32)
  | .ecResetS0ixCounter handle => commandOf handle unchecked fun () => .resetS0ixCounter
  | .ecSetTabletMode handle mode =>
      commandOf handle unchecked fun () => .setTabletMode mode.toUInt8
  | .ecSetInputDeckMode handle mode =>
      commandOf handle unchecked fun () => .setInputDeckMode (intoDeckStateMode mode)
  | .ecSetChargeRateLimit handle rateAmps batterySocPercent =>
      commandOf handle unchecked fun () => .setChargeRateLimit rateAmps
        (if batterySocPercent.isNegative then none else some batterySocPercent)
  | .ecSetHibernateDelay handle seconds =>
      commandOf handle unchecked fun () => .setEcHibDelay seconds
  | .ecSetFingerprintLedPercentage handle percentage =>
      commandOf handle unchecked fun () => .setFpLedPercentage percentage
  | .touchscreenEnable enable => some (.enableTouch enable)
  | .touchpadSetHapticIntensity intensity => some (.setHapticIntensity intensity)
  | .touchpadSetClickForce force => some (.setClickForce (intoClickForce force))
  | .ecSetRgbKeyboardColors handle startKey colors colorCount =>
      commandOf handle (requireColors colors colorCount) (.rgbkbdSetColor startKey)
  | .ecRemapKey handle row col scanset =>
      commandOf handle unchecked fun () => .remapKey row col scanset
  | .ecRemapCapsToCtrl handle => commandOf handle unchecked fun () => .remapCapsToCtrl
  | .ecPs2EmulationEnable handle enable =>
      commandOf handle unchecked fun () => .ps2EmulationEnable enable
  | .ecSetGpio handle name nameLength value =>
      commandOf handle (borrowUtf8 name nameLength) fun name => .setGpio name value
  | _ => none

/-- The command of a call, if it is one that changes a setting. -/
def Operation.command : Operation → Option HostRequest
  | .thermal operation => operation.command
  | .controls operation => operation.command
  | _ => none

/-- The command has an answer. That to the keyboard backlight is dropped upstream. -/
def HostRequest.isAnswered : HostRequest → Bool
  | .setKeyboardBacklight _ => false
  | _ => true

/-- The machine has answered that it did what a command asks for. -/
def HostRequest.acknowledged : (request : HostRequest) → request.Reply → Bool
  | .setFpLedLevel _, reply | .setFpLedPercentage _, reply | .setChargeLimit _ _, reply
  | .setChargeCurrentLimit _ _, reply | .setChargeRateLimit _ _, reply
  | .resetS0ixCounter, reply | .setTabletMode _, reply | .setInputDeckMode _, reply
  | .fanSetRpm _ _, reply | .fanSetDuty _ _, reply | .autofanctrl _, reply
  | .setThermalThresholds _ _ _ _ _ _, reply | .setEcHibDelay _, reply
  | .rgbkbdSetColor _ _, reply | .remapKey _ _ _, reply | .remapCapsToCtrl, reply
  | .ps2EmulationEnable _, reply | .setGpio _ _, reply => reply.isOk
  | .enableTouch _, reply => reply.isSome
  | .setHapticIntensity _, reply | .setClickForce _, reply => reply
  | _, _ => false

end FrameworkFfi
