import FrameworkFfi.Accounting.Outcomes
import FrameworkFfi.Accounting.HandedOver
import FrameworkFfi.Accounting.Quiet

/-!
# The exported functions, one by one

Each family of exported functions is accounted for, case by case with the rule
of the function's shape. The functions on the expansion bay are treated
separately.
-/

namespace FrameworkFfi

open Effect

/-! ### Checks of the arguments -/

theorem refused_parseOptionalFanIndex {fanIndex : Int32} {status : FrameworkStatus}
    (h : parseOptionalFanIndex fanIndex = .error status) : status.Refusal := by
  unfold parseOptionalFanIndex at h
  split_ifs at h
  exact refused_withCode h (by decide)

theorem refused_parseOptionalFanIndexU8 {fanIndex : Int32} {status : FrameworkStatus}
    (h : parseOptionalFanIndexU8 fanIndex = .error status) : status.Refusal := by
  unfold parseOptionalFanIndexU8 at h
  split_ifs at h
  exact refused_withCode h (by decide)

theorem refused_requireLedLevel {level : FrameworkFingerprintLedLevel} {status : FrameworkStatus}
    (h : requireLedLevel level = .error status) : status.Refusal := by
  unfold requireLedLevel at h
  cases hlevel : fpLedBrightnessLevel level with
  | some ledLevel =>
      rw [hlevel] at h
      cases h
  | none =>
      rw [hlevel] at h
      exact refused_withCode h (by decide)

theorem refused_requireColors {colors : BytePtr} {colorCount : Int32} {status : FrameworkStatus}
    (h : requireColors colors colorCount = .error status) : status.Refusal := by
  cases colors with
  | none =>
      exact refused_withCode h (by decide)
  | some memory =>
      unfold requireColors at h
      dsimp only at h
      split_ifs at h
      exact refused_withCode h (by decide)

theorem refused_requireAuthKey {authKey : BytePtr} {status : FrameworkStatus}
    (h : requireAuthKey authKey = .error status) : status.Refusal := by
  cases authKey with
  | none =>
      exact refused_withCode h (by decide)
  | some memory => cases h

theorem refused_borrowUtf8 {ptr : BytePtr} {length : Int32} {status : FrameworkStatus}
    (h : borrowUtf8 ptr length = .error status) : status.Refusal := by
  cases ptr with
  | none =>
      exact refused_withCode h (by decide)
  | some memory =>
      unfold borrowUtf8 at h
      dsimp only at h
      split_ifs at h
      · exact refused_withCode h (by decide)
      · cases htext : fromUtf8 (sliceFromRawParts memory length.toNatClampNeg) with
        | ok text =>
            rw [htext] at h
            cases h
        | error error =>
            rw [htext] at h
            exact refused_withCode h (by decide)

theorem refused_validateExpectedBytes {ptr : BytePtr} {length : UInt32} {status : FrameworkStatus}
    (h : validateExpectedBytes ptr length = .error status) : status.Refusal := by
  unfold validateExpectedBytes at h
  split_ifs at h
  cases ptr with
  | none =>
      exact refused_withCode h (by decide)
  | some memory => cases h

/-! ### Rules without buffers -/

section Rules

variable {α β : Type}

theorem accounts_plainReply {query : Ffi (EcResult β)} (hquery : Quiet query) (record : β → α) :
    Accounts (ecReply query fun b => pure (record b)) noBuffers :=
  accounts_ecReply hquery fun _ => handsOver_pure rfl

theorem accounts_plainSome {query : Ffi (Option β)} (hquery : Quiet query) (record : β → α) :
    Accounts (someReply query fun b => pure (record b)) noBuffers :=
  accounts_someReply hquery fun _ => handsOver_pure rfl

theorem accounts_checkedReply {γ : Type} {result : StatusResult γ} {query : γ → Ffi (EcResult β)}
    (h : ∀ status, result = .error status → status.Refusal) (hquery : ∀ c, Quiet (query c))
    (record : β → α) : Accounts (andThen (pure result) fun c => ecReply (query c) fun b =>
      pure (record b)) noBuffers :=
  (accounts_checked h).andThen fun c => accounts_plainReply (hquery c) record

theorem accounted_plainReply {empty : α} {query : Ffi (EcResult β)} (h : Quiet query)
    (record : β → α) (handle : HandlePtr) : Accounted (reporting noBuffers
      (exported handle empty fun _ => ecReply query fun b => pure (record b))) :=
  accounted_exported rfl (fun _ => accounts_plainReply h record) handle

theorem accounted_plainSome {empty : α} {query : Ffi (Option β)} (h : Quiet query)
    (record : β → α) (handle : HandlePtr) : Accounted (reporting noBuffers
      (exported handle empty fun _ => someReply query fun b => pure (record b))) :=
  accounted_exported rfl (fun _ => accounts_plainSome h record) handle

theorem accounted_command {command : Ffi (EcResult Unit)} (h : Quiet command)
    (handle : HandlePtr) :
    Accounted (statusOnly (exportedStatus handle fun _ => ecReply command pure)) :=
  accounted_exportedStatus (fun _ => accounts_plainReply h id) handle

end Rules

/-! ### The families -/

theorem accounts_checkedHandle (handle : FrameworkEcHandle) :
    Accounts (checkedHandle handle) noBuffers :=
  (accounts_query (quiet_ask _)).andThen fun () => accounts_ok rfl

theorem accounts_openDefaultEc : Accounts openDefaultEc noBuffers := by
  refine Accounts.afterQuiet quiet_defaultEcHandle fun handle => ?_
  cases handle with
  | none => exact accounts_refusal (refusal_withCode 0 (by decide))
  | some handle => exact accounts_checkedHandle handle

theorem accounts_openWithDriverEc (driver : FrameworkEcDriver) :
    Accounts (openWithDriverEc driver) noBuffers := by
  unfold openWithDriverEc
  cases CrosEcDriverType.tryFrom driver with
  | none => exact accounts_refusal (refusal_withCode 0 (by decide))
  | some driverType =>
      refine Accounts.afterQuiet (quiet_openDriver driverType driver) fun handle => ?_
      cases handle with
      | none => exact accounts_refusal (refusal_withCode 0 (by decide))
      | some handle => exact accounts_checkedHandle handle

theorem accounted_systemOperation (operation : SystemOperation) : Accounted operation.run := by
  cases operation with
  | ecDriverIsSupported driver => exact accounted_unreported (quiet_driverIsSupported driver)
  | statusGetDeviceErrorMessage status =>
      exact (accounts_someReply (quiet_deviceErrorMessageOf status)
        fun message => handsOver_buffer message.intoBytes).accounted rfl
  | statusGetDescription status =>
      have hdescription : Accounts (do
          let description ← statusDescription status
          let buffer ← FrameworkByteBuffer.fromVec description.intoBytes
          pure (.ok buffer)) List.singleton :=
        Accounts.afterQuiet (keeps_statusDescription _ status)
          fun description => (handsOver_buffer description.intoBytes).accounts
      exact hdescription.accounted rfl
  | ecOpenDefault => exact accounts_openDefaultEc.accounted rfl
  | ecOpenWithDriver driver => exact (accounts_openWithDriverEc driver).accounted rfl
  | ecClose handle => exact accounted_unreported (keeps_pure _)
  | ecGetActiveDriver handle => exact accounted_exported rfl (fun _ => accounts_ok rfl) handle
  | getPlatform => exact (accounts_plainSome (keeps_view _) _).accounted rfl
  | getPlatformFamily => exact (accounts_plainSome (keeps_view _) _).accounted rfl
  | getProductName =>
      exact (accounts_someReply (quiet_ask .getProductName)
        fun productName => handsOver_buffer productName.intoBytes).accounted rfl
  | ecGetBuildInfo handle =>
      exact accounted_exported rfl (fun _ => accounts_ecReply (quiet_ask .versionInfo)
        fun buildInfo => handsOver_buffer buildInfo.intoBytes) handle
  | ecGetFlashVersions handle =>
      exact accounted_exported rfl (fun _ => accounts_someReply (quiet_ask .flashVersion)
        handsOver_flashVersions) handle

theorem accounts_featureEnabled (feature : EcFeatureCode) :
    Accounts (featureEnabled feature) noBuffers :=
  (accounts_query (quiet_ask .getFeatures)).andThen fun _ =>
    Accounts.afterQuiet (keeps_view _) fun _ => accounts_ok rfl

theorem accounts_buildFanCapabilities : Accounts buildFanCapabilities noBuffers :=
  (accounts_featureEnabled _).andThen fun _ => (accounts_featureEnabled _).andThen fun _ =>
    Accounts.afterQuiet quiet_thermalSnapshot fun _ => accounts_ok rfl

theorem accounted_thermalOperation (operation : ThermalOperation) : Accounted operation.run := by
  cases operation with
  | ecGetPowerSnapshot handle =>
      exact accounted_exported rfl (fun _ => accounts_someReply (quiet_ask .powerInfo)
        handsOver_powerSnapshot) handle
  | ecGetFanCapabilities handle =>
      exact accounted_exported rfl (fun _ => accounts_buildFanCapabilities) handle
  | ecGetThermalSnapshot handle =>
      exact accounted_plainSome quiet_buildThermalSnapshot id handle
  | ecSetFanRpm handle fanIndex rpm =>
      exact accounted_exported rfl (fun _ => accounts_checkedReply
        (fun _ => refused_parseOptionalFanIndex) (fun _ => quiet_ask _) _) handle
  | ecSetFanDuty handle fanIndex percent =>
      exact accounted_exported rfl (fun _ => accounts_checkedReply
        (fun _ => refused_parseOptionalFanIndex) (fun _ => quiet_ask _) _) handle
  | ecRestoreAutoFanControl handle fanIndex =>
      exact accounted_exported rfl (fun _ => accounts_checkedReply
        (fun _ => refused_parseOptionalFanIndexU8) (fun _ => quiet_ask _) _) handle
  | ecGetBatteryCutoffStatus handle =>
      exact accounted_plainSome (quiet_ask .getCutoffStatus) _ handle
  | ecGetApThrottleStatus handle =>
      exact accounted_plainReply quiet_getApThrottle _ handle
  | ecGetThermalThresholds handle sensorIndex =>
      exact accounted_plainReply (quiet_getThermalThresholds sensorIndex) _ handle
  | ecSetThermalThresholds handle sensorIndex warnCelsius highCelsius haltCelsius
      fanOffCelsius fanMaxCelsius => exact accounted_command (quiet_ask _) handle
  | ecGetTempSensorName handle sensorIndex =>
      exact accounted_exported rfl (fun _ => accounts_ecReply
        (quiet_getTempSensorInfo sensorIndex)
        fun info => handsOver_single info.name.intoBytes fun _ => rfl) handle
  | ecGetFanCount handle => exact accounted_plainReply (quiet_ask .getFanNum) _ handle
  | ecGetStandaloneMode handle =>
      refine accounted_exported rfl (fun _ => ?_) handle
      exact Accounts.afterQuiet quiet_standaloneState fun _ => accounts_ok rfl

theorem accounts_setKeyboardBacklight (percent : UInt8) :
    Accounts (setKeyboardBacklight percent) noBuffers := by
  unfold setKeyboardBacklight
  split_ifs
  · exact accounts_refusal (refusal_withCode 0 (by decide))
  · exact Accounts.afterQuiet (quiet_ask _) fun _ => accounts_ok rfl

theorem accounts_motionSensors : Accounts motionSensors noBuffers := by
  refine Accounts.afterQuiet (quiet_ask .motionsenseSensorInfo) fun response => ?_
  split
  · exact accounts_ok rfl
  · exact accounts_orStatus _

theorem accounted_controlsOperation (operation : ControlsOperation) :
    Accounted operation.run := by
  cases operation with
  | ecGetKeyboardBacklight handle =>
      exact accounted_plainReply (quiet_ask .getKeyboardBacklight) id handle
  | ecGetFingerprintLed handle =>
      exact accounted_plainReply (quiet_ask .getFpLedLevel) _ handle
  | ecSetKeyboardBacklight handle percent =>
      exact accounted_exportedStatus (fun _ => accounts_setKeyboardBacklight percent) handle
  | ecSetFingerprintLed handle level =>
      exact accounted_exportedStatus (fun _ => accounts_checkedReply
        (fun _ => refused_requireLedLevel) (fun _ => quiet_ask (.setFpLedLevel _)) id) handle
  | ecGetPrivacySwitches handle =>
      exact accounted_plainReply (quiet_ask .getPrivacyInfo) _ handle
  | ecGetChargeLimits handle => exact accounted_plainReply (quiet_ask .getChargeLimit) _ handle
  | ecSetChargeLimits handle minPercent maxPercent => exact accounted_command (quiet_ask _) handle
  | ecReadBoardId handle boardIdType =>
      exact accounted_plainReply (quiet_ask (.readBoardId _)) _ handle
  | ecGetActiveCharge handle =>
      exact accounted_exported rfl (fun _ => Accounts.afterQuiet
        (quiet_firstActivePort [0, 1, 2, 3, 4, 5]) fun _ => accounts_ok rfl) handle
  | ecGetSensorInfo handle =>
      exact accounted_exported rfl
        (fun _ => accounts_motionSensors.andThen fun _ => accounts_ok rfl) handle
  | ecGetAccelData handle => exact accounted_plainSome quiet_getAccelData id handle
  | ecGetAlsReading handle => exact accounted_plainSome quiet_getAls _ handle
  | ecGetChassisIntrusion handle =>
      exact accounted_plainReply (quiet_ask .getIntrusionStatus) _ handle
  | ecSetChargeCurrentLimit handle currentMa batterySoc =>
      exact accounted_command (quiet_ask _) handle
  | ecGetUptime handle => exact accounted_plainReply (quiet_ask .getUptimeInfo) _ handle
  | ecGetS0ixCounter handle => exact accounted_plainReply (quiet_ask .getS0ixCounter) id handle
  | ecResetS0ixCounter handle => exact accounted_command (quiet_ask _) handle
  | ecSetTabletMode handle mode => exact accounted_command (quiet_ask _) handle
  | ecSetInputDeckMode handle mode => exact accounted_command (quiet_ask _) handle
  | ecSetChargeRateLimit handle rateAmps batterySocPercent =>
      exact accounted_command (quiet_ask _) handle
  | ecGetHibernateDelay handle => exact accounted_plainReply (quiet_ask .getEcHibDelay) id handle
  | ecSetHibernateDelay handle seconds => exact accounted_command (quiet_ask _) handle
  | ecSetFingerprintLedPercentage handle percentage =>
      exact accounted_command (quiet_ask _) handle
  | ecAdcRead handle channel => exact accounted_plainReply (quiet_ask (.adcRead channel)) _ handle
  | ecCommandVersionSupported handle command version =>
      exact accounted_plainReply (quiet_ask (.cmdVersionSupported command version)) _ handle
  | ecGetPdPowerInfo handle port =>
      exact accounted_plainReply (quiet_converted _ _ : Quiet (queryPdPowerInfo port)) _ handle
  | ecIsCharging handle => exact accounted_plainReply (quiet_ask .isCharging) _ handle
  | getStylusBattery =>
      have hbattery : Accounts (do
          let level ← ask .getStylusBatteryLevel
          pure (.ok (stylusBattery level))) noBuffers :=
        Accounts.afterQuiet (quiet_ask .getStylusBatteryLevel) fun _ => accounts_ok rfl
      exact hbattery.accounted rfl
  | touchscreenEnable enable =>
      exact accounted_doneStatus (quiet_converted (.enableTouch enable) _)
  | touchpadSetHapticIntensity intensity =>
      exact accounted_doneStatus (quiet_ask (.setHapticIntensity intensity))
  | touchpadSetClickForce force =>
      exact accounted_doneStatus (quiet_ask (.setClickForce (intoClickForce force)))
  | ecSetRgbKeyboardColors handle startKey colors colorCount =>
      exact accounted_exportedStatus (fun _ => accounts_checkedReply
        (fun _ => refused_requireColors) (fun _ => quiet_ask (.rgbkbdSetColor startKey _)) id)
        handle
  | ecRemapKey handle row col scanset => exact accounted_command (quiet_ask _) handle
  | ecRemapCapsToCtrl handle => exact accounted_command (quiet_ask _) handle
  | ecPs2EmulationEnable handle enable => exact accounted_command (quiet_ask _) handle
  | ecGetGpio handle name nameLength =>
      exact accounted_exported rfl (fun _ => accounts_checkedReply
        (fun _ => refused_borrowUtf8) (fun name => quiet_ask (.getGpio name)) _) handle
  | ecSetGpio handle name nameLength value =>
      exact accounted_exportedStatus (fun _ => accounts_checkedReply
        (fun _ => refused_borrowUtf8) (fun name => quiet_ask (.setGpio name value)) id) handle
  | ecGetGpioCount handle => exact accounted_plainReply (quiet_ask .gpioGetCount) id handle
  | ecGetGpioInfo handle index =>
      have hinfo : Quiet (gpioInfoAt index) := quiet_converted (.gpioGetInfo index) _
      exact accounted_exported rfl (fun _ => accounts_ecReply hinfo
        fun info => handsOver_single info.name.intoBytes fun _ => rfl) handle

theorem accounted_diagnosticsOperation (operation : DiagnosticsOperation) :
    Accounted operation.run := by
  cases operation with
  | ecGetSwitches handle =>
      exact accounted_plainSome (quiet_converted (.readMemory _ _) _) _ handle
  | ecHello handle inData => exact accounted_plainReply (quiet_ask (.hello inData)) _ handle
  | ecCheckHello handle => exact accounted_plainReply (quiet_ask (.hello _)) _ handle
  | ecGetProtocolInfo handle => exact accounted_plainReply (quiet_ask .getProtocolInfo) _ handle
  | ecGetSysinfo handle => exact accounted_plainReply (quiet_ask .sysinfo) _ handle
  | ecGetPanicInfo handle =>
      exact accounted_exported rfl (fun _ => accounts_ecReply quiet_getPanicInfo
        fun info => handsOver_single info.data fun _ => rfl) handle
  | ecGetPort80History handle =>
      exact accounted_exported rfl (fun _ => accounts_ecReply quiet_port80Read
        fun history => handsOver_single history.codes fun _ => rfl) handle
  | ecAuthenticateBattery handle authKey =>
      exact accounted_exported rfl (fun _ => accounts_checkedReply
        (fun _ => refused_requireAuthKey) (fun key => quiet_ask (.authenticateBattery key)) _)
        handle
  | ecGetSmartBatteryData handle useUnsealKey unsealKey =>
      exact accounted_exported rfl (fun _ => accounts_ecReply
        (quiet_ask (.collectSmartBattery _)) handsOver_intoFfi) handle

theorem accounted_peripheralVersions {detected : Ffi (List PeripheralVersion)}
    (h : Quiet detected) :
    Accounted (reporting PeripheralVersions.buffers (peripheralVersionsResult detected)) := by
  have hresult : Accounts (do
      let found ← detected
      let versions ← peripheralSlots found
      pure (.ok versions)) PeripheralVersions.buffers :=
    Accounts.afterQuiet h fun found => (handsOver_peripheralSlots found).accounts
  exact hresult.accounted rfl

theorem accounts_requireNvmePath (devicePath : BytePtr) (pathLength : Int32) :
    Accounts (requireNvmePath devicePath pathLength) noBuffers := by
  refine Accounts.afterQuiet (keeps_view nvmeSupported) fun supported => ?_
  cases supported with
  | true => exact accounts_checked fun _ => refused_borrowUtf8
  | false => exact accounts_refusal (refusal_withCode 0 (by decide))

theorem accounted_versionsOperation (operation : VersionsOperation) :
    Accounted operation.run := by
  cases operation with
  | ecGetPdControllerVersions handle =>
      have hversions : Quiet pdControllerVersions := quiet_converted .getPdControllerVersions _
      exact accounted_plainReply hversions _ handle
  | ecGetRetimerVersion handle =>
      exact accounted_exported rfl (fun _ => accounts_ecReply (quiet_ask .getRetimerVersion)
        handsOver_retimerRecord) handle
  | getCameraVersions => exact accounted_peripheralVersions (quiet_collectUsbVersions _)
  | getInputModuleVersions => exact accounted_peripheralVersions (quiet_collectUsbVersions _)
  | getUsbHubVersions => exact accounted_peripheralVersions (quiet_collectUsbVersions _)
  | getAudioCardVersion => exact accounted_peripheralVersions quiet_audioCardVersions
  | getNvmeVersion devicePath pathLength =>
      have hversion : Accounts (andThen (requireNvmePath devicePath pathLength) fun path =>
          someReply (nvmeVersion path) nvmeRecord) NvmeRecord.buffers :=
        (accounts_requireNvmePath devicePath pathLength).andThen fun path =>
          accounts_someReply (quiet_ask (.getNvmeFirmwareVersion path)) handsOver_nvmeRecord
      exact hversion.accounted rfl

end FrameworkFfi
