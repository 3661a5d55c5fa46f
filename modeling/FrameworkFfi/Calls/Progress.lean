import FrameworkFfi.Calls.Allocations
import FrameworkFfi.Calls.Returning

/-!
# Calls on a regular machine

On a regular machine no call that reads or commands panics: every exported function
that takes no buffer back is fine with every argument.
-/

namespace FrameworkFfi

open Effect

section Families

variable {m : Machine}

theorem fine_plainOption {α β : Type} {query : Ffi (Option α)} {record : α → β}
    (h : Fine m query) : Fine m (someReply query fun a => pure (record a)) :=
  fine_someReply (P := fun _ => True) (h.mono fun _ _ _ _ => trivial) fun _ _ => fine_pure _

theorem fine_plainReply {α β : Type} {buffers : β → List FrameworkByteBuffer} {empty : β}
    {query : Ffi (EcResult α)} {record : α → β} (h : Yields m query (Answered fun _ => True))
    (handle : HandlePtr) :
    Fine m (reporting buffers (exported handle empty fun _ =>
      ecReply query fun a => pure (record a))) :=
  fine_exported (fun _ => fine_ecReply h fun _ _ => fine_pure _) handle

theorem fine_sent {query : Ffi (EcResult Unit)} (h : Yields m query (Answered fun _ => True))
    (handle : HandlePtr) :
    Fine m (statusOnly (exportedStatus handle fun _ => ecReply query pure)) :=
  fine_exportedStatus (fun _ => fine_ecReply h fun _ _ => fine_pure _) handle

theorem fine_checkedSent {α : Type} {check : StatusResult α} {query : α → Ffi (EcResult Unit)}
    (h : ∀ a, Yields m (query a) (Answered fun _ => True)) (handle : HandlePtr) :
    Fine m (statusOnly (exportedStatus handle fun _ =>
      andThen (pure check) fun a => ecReply (query a) pure)) :=
  fine_exportedStatus (fun _ => fine_checked fun a _ =>
    fine_ecReply (h a) fun _ _ => fine_pure _) handle

theorem fine_checkedReply {α β γ : Type} {buffers : γ → List FrameworkByteBuffer} {empty : γ}
    {check : StatusResult α} {query : α → Ffi (EcResult β)} {record : α → β → γ}
    (h : ∀ a, Yields m (query a) (Answered fun _ => True)) (handle : HandlePtr) :
    Fine m (reporting buffers (exported handle empty fun _ =>
      andThen (pure check) fun a => ecReply (query a) fun b => pure (record a b))) :=
  fine_exported (fun _ => fine_checked fun a _ =>
    fine_ecReply (h a) fun _ _ => fine_pure _) handle

theorem fine_systemOperation (hm : m.Regular) (operation : SystemOperation) :
    Fine m operation.run := by
  cases operation with
  | ecDriverIsSupported driver => exact fine_unreported (fine_driverIsSupported driver)
  | statusGetDeviceErrorMessage status =>
      exact fine_reporting (fine_someReply (yields_deviceErrorMessageOf status)
        fun _ h => fine_fromVec h)
  | statusGetDescription status =>
      exact fine_reporting ((yields_statusDescription hm status).bind fun _ h =>
        fine_bind (fine_fromVec h) fun _ => fine_pure _)
  | ecOpenDefault => exact fine_reporting (fine_openDefaultEc hm)
  | ecOpenWithDriver driver => exact fine_reporting (fine_openWithDriverEc hm driver)
  | ecClose handle => exact fine_unreported (fine_pure _)
  | ecGetActiveDriver handle => exact fine_exported (fun _ => fine_pure _) handle
  | getPlatform => exact fine_reporting (fine_plainOption (fine_view _))
  | getPlatformFamily => exact fine_reporting (fine_plainOption (fine_view _))
  | getProductName =>
      exact fine_reporting (fine_someReply (yields_ask hm .getProductName)
        fun _ h => fine_fromVec h)
  | ecGetBuildInfo handle =>
      exact fine_exported (fun _ => fine_ecReply (yields_ask hm .versionInfo)
        fun _ h => fine_fromVec h) handle
  | ecGetFlashVersions handle =>
      exact fine_exported (fun _ => fine_someReply (yields_ask hm .flashVersion)
        fun _ h => fine_flashVersions h) handle

theorem fine_thermalOperation (hm : m.Regular) (operation : ThermalOperation) :
    Fine m operation.run := by
  cases operation with
  | ecGetPowerSnapshot handle =>
      exact fine_exported (fun _ => fine_someReply (yields_ask hm .powerInfo)
        fun _ h => fine_powerSnapshot h) handle
  | ecGetFanCapabilities handle =>
      exact fine_exported (fun _ => fine_buildFanCapabilities hm) handle
  | ecGetThermalSnapshot handle =>
      exact fine_exported (fun _ =>
        fine_plainOption (fine_of_yields (yields_buildThermalSnapshot hm))) handle
  | ecSetFanRpm handle fanIndex rpm =>
      exact fine_checkedReply (fun fan => yields_ask hm (.fanSetRpm fan rpm)) handle
  | ecSetFanDuty handle fanIndex percent =>
      exact fine_checkedReply (fun fan => yields_ask hm (.fanSetDuty fan percent)) handle
  | ecRestoreAutoFanControl handle fanIndex =>
      exact fine_checkedReply (fun fan => yields_ask hm (.autofanctrl fan)) handle
  | ecGetBatteryCutoffStatus handle =>
      exact fine_exported (fun _ => fine_plainOption (fine_ask .getCutoffStatus)) handle
  | ecGetApThrottleStatus handle => exact fine_plainReply (yields_getApThrottle hm) handle
  | ecGetThermalThresholds handle sensorIndex =>
      exact fine_plainReply (yields_getThermalThresholds hm sensorIndex) handle
  | ecSetThermalThresholds handle sensorIndex warnCelsius highCelsius haltCelsius
      fanOffCelsius fanMaxCelsius => exact fine_sent (yields_ask hm _) handle
  | ecGetTempSensorName handle sensorIndex =>
      exact fine_exported (fun _ => fine_ecReply (yields_getTempSensorInfo hm sensorIndex)
        fun _ h => fine_bind (fine_fromVec h) fun _ => fine_pure _) handle
  | ecGetFanCount handle => exact fine_plainReply (yields_ask hm .getFanNum) handle
  | ecGetStandaloneMode handle =>
      exact fine_exported (fun _ => fine_bind fine_standaloneState fun _ => fine_pure _) handle

theorem fine_controlsOperation (hm : m.Regular) (operation : ControlsOperation) :
    Fine m operation.run := by
  cases operation with
  | ecGetKeyboardBacklight handle =>
      exact fine_plainReply (yields_ask hm .getKeyboardBacklight) handle
  | ecGetFingerprintLed handle => exact fine_plainReply (yields_ask hm .getFpLedLevel) handle
  | ecSetKeyboardBacklight handle percent =>
      refine fine_exportedStatus (fun _ => ?_) handle
      unfold setKeyboardBacklight
      split_ifs
      · exact fine_pure _
      · exact fine_bind (fine_ask (.setKeyboardBacklight percent)) fun _ => fine_pure _
  | ecSetFingerprintLed handle level =>
      exact fine_checkedSent (fun level => yields_ask hm (.setFpLedLevel level)) handle
  | ecGetPrivacySwitches handle => exact fine_plainReply (yields_ask hm .getPrivacyInfo) handle
  | ecGetChargeLimits handle => exact fine_plainReply (yields_ask hm .getChargeLimit) handle
  | ecSetChargeLimits handle minPercent maxPercent =>
      exact fine_sent (yields_ask hm (.setChargeLimit minPercent maxPercent)) handle
  | ecReadBoardId handle boardIdType =>
      exact fine_plainReply (yields_ask hm (.readBoardId boardIdType.toUInt8)) handle
  | ecGetActiveCharge handle =>
      exact fine_exported (fun _ =>
        fine_bind (fine_firstActivePort [0, 1, 2, 3, 4, 5]) fun _ => fine_pure _) handle
  | ecGetSensorInfo handle =>
      exact fine_exported (fun _ => fine_andThen (yields_motionSensors hm)
        fun _ _ => fine_pure _) handle
  | ecGetAccelData handle =>
      exact fine_exported (fun _ =>
        fine_plainOption (fine_of_yields (yields_getAccelData hm))) handle
  | ecGetAlsReading handle =>
      exact fine_exported (fun _ => fine_plainOption (fine_of_yields (yields_getAls hm))) handle
  | ecGetChassisIntrusion handle =>
      exact fine_plainReply (yields_ask hm .getIntrusionStatus) handle
  | ecSetChargeCurrentLimit handle currentMa batterySoc =>
      exact fine_sent (yields_ask hm (.setChargeCurrentLimit currentMa _)) handle
  | ecGetUptime handle => exact fine_plainReply (yields_ask hm .getUptimeInfo) handle
  | ecGetS0ixCounter handle => exact fine_plainReply (yields_ask hm .getS0ixCounter) handle
  | ecResetS0ixCounter handle => exact fine_sent (yields_ask hm .resetS0ixCounter) handle
  | ecSetTabletMode handle mode =>
      exact fine_sent (yields_ask hm (.setTabletMode mode.toUInt8)) handle
  | ecSetInputDeckMode handle mode =>
      exact fine_sent (yields_ask hm (.setInputDeckMode (intoDeckStateMode mode))) handle
  | ecSetChargeRateLimit handle rateAmps batterySocPercent =>
      exact fine_sent (yields_ask hm (.setChargeRateLimit rateAmps _)) handle
  | ecGetHibernateDelay handle => exact fine_plainReply (yields_ask hm .getEcHibDelay) handle
  | ecSetHibernateDelay handle seconds =>
      exact fine_sent (yields_ask hm (.setEcHibDelay seconds)) handle
  | ecSetFingerprintLedPercentage handle percentage =>
      exact fine_sent (yields_ask hm (.setFpLedPercentage percentage)) handle
  | ecAdcRead handle channel => exact fine_plainReply (yields_ask hm (.adcRead channel)) handle
  | ecCommandVersionSupported handle command version =>
      exact fine_plainReply (yields_ask hm (.cmdVersionSupported command version)) handle
  | ecGetPdPowerInfo handle port => exact fine_plainReply (yields_queryPdPowerInfo hm port) handle
  | ecIsCharging handle => exact fine_plainReply (yields_ask hm .isCharging) handle
  | getStylusBattery =>
      exact fine_reporting (fine_bind (fine_ask .getStylusBatteryLevel) fun _ => fine_pure _)
  | touchscreenEnable enable =>
      exact fine_doneStatus (fine_bind (fine_ask (.enableTouch enable)) fun _ => fine_pure _)
  | touchpadSetHapticIntensity intensity =>
      exact fine_doneStatus (fine_ask (.setHapticIntensity intensity))
  | touchpadSetClickForce force =>
      exact fine_doneStatus (fine_ask (.setClickForce (intoClickForce force)))
  | ecSetRgbKeyboardColors handle startKey colors colorCount =>
      exact fine_checkedSent (fun parsed => yields_ask hm (.rgbkbdSetColor startKey parsed)) handle
  | ecRemapKey handle row col scanset =>
      exact fine_sent (yields_ask hm (.remapKey row col scanset)) handle
  | ecRemapCapsToCtrl handle => exact fine_sent (yields_ask hm .remapCapsToCtrl) handle
  | ecPs2EmulationEnable handle enable =>
      exact fine_sent (yields_ask hm (.ps2EmulationEnable enable)) handle
  | ecGetGpio handle name nameLength =>
      exact fine_checkedReply (fun name => yields_ask hm (.getGpio name)) handle
  | ecSetGpio handle name nameLength value =>
      exact fine_checkedSent (fun name => yields_ask hm (.setGpio name value)) handle
  | ecGetGpioCount handle => exact fine_plainReply (yields_ask hm .gpioGetCount) handle
  | ecGetGpioInfo handle index =>
      exact fine_exported (fun _ => fine_ecReply (yields_gpioInfoAt hm index)
        fun _ h => fine_bind (fine_fromVec h) fun _ => fine_pure _) handle

theorem fine_inventoryOperation (hm : m.Regular) (operation : InventoryOperation) :
    Fine m operation.run := by
  cases operation with
  | ecGetFeatureFlags handle => exact fine_exported (fun _ => fine_featureFlags hm) handle
  | ecGetExpansionBayStatus handle =>
      exact fine_exported (fun _ => fine_of_yields (yields_expansionBayStatus hm)) handle
  | ecGetGpuDescriptorHeader handle => exact fine_exported (fun _ => fine_readHeader hm) handle
  | ecReadGpuDescriptor handle => exact fine_exported (fun _ => fine_readRawDescriptor hm) handle
  | ecValidateGpuDescriptor handle expectedDescriptorPtr expectedDescriptorLength =>
      exact fine_exported (fun _ => fine_checked fun expectedDescriptor _ =>
        fine_andThen (yields_validate hm expectedDescriptor) fun _ _ => fine_pure _) handle
  | ecGetModuleInventory handle =>
      exact fine_exported (fun _ =>
        fine_bind (fine_buildModuleInventory hm) fun _ => fine_pure _) handle
  | ecGetGpuSerial handle =>
      exact fine_exported (fun _ => fine_ecReply (yields_getGpuSerial hm)
        fun _ h => fine_fromVec h) handle

theorem fine_diagnosticsOperation (hm : m.Regular) (operation : DiagnosticsOperation) :
    Fine m operation.run := by
  cases operation with
  | ecGetSwitches handle =>
      exact fine_exported (fun _ => fine_plainOption
        (fine_bind (fine_ask (.readMemory ecMemmapSwitches 1)) fun _ => fine_pure _)) handle
  | ecHello handle inData => exact fine_plainReply (yields_ask hm (.hello inData)) handle
  | ecCheckHello handle =>
      exact fine_plainReply (yields_ask hm (.hello helloDefaultInData)) handle
  | ecGetProtocolInfo handle => exact fine_plainReply (yields_ask hm .getProtocolInfo) handle
  | ecGetSysinfo handle => exact fine_plainReply (yields_ask hm .sysinfo) handle
  | ecGetPanicInfo handle =>
      exact fine_exported (fun _ => fine_ecReply (yields_getPanicInfo hm)
        fun _ h => fine_bind (fine_fromVec h) fun _ => fine_pure _) handle
  | ecGetPort80History handle =>
      exact fine_exported (fun _ => fine_ecReply (yields_port80Read hm)
        fun _ h => fine_bind (fine_fromVec h) fun _ => fine_pure _) handle
  | ecAuthenticateBattery handle authKey =>
      exact fine_checkedReply (fun key => yields_ask hm (.authenticateBattery key)) handle
  | ecGetSmartBatteryData handle useUnsealKey unsealKey =>
      exact fine_exported (fun _ => fine_ecReply (yields_ask hm (.collectSmartBattery _))
        fun _ h => fine_intoFfi h) handle

theorem fine_peripheralVersions {detected : Ffi (List PeripheralVersion)}
    (h : Yields m detected fun found => ∀ version ∈ found, version.Fits) :
    Fine m (reporting PeripheralVersions.buffers (peripheralVersionsResult detected)) :=
  fine_reporting (h.bind fun _ hfound =>
    fine_bind (fine_peripheralSlots hfound) fun _ => fine_pure _)

theorem fine_versionsOperation (hm : m.Regular) (operation : VersionsOperation) :
    Fine m operation.run := by
  cases operation with
  | ecGetPdControllerVersions handle =>
      refine fine_plainReply ?_ handle
      exact (yields_ask hm .getPdControllerVersions).bind fun _ hreply =>
        succeeds_pure (hreply.map fun _ _ => trivial)
  | ecGetRetimerVersion handle =>
      exact fine_exported (fun _ => fine_ecReply (yields_ask hm .getRetimerVersion)
        fun _ h => fine_retimerRecord h) handle
  | getCameraVersions => exact fine_peripheralVersions (yields_collectUsbVersions hm _)
  | getInputModuleVersions => exact fine_peripheralVersions (yields_collectUsbVersions hm _)
  | getUsbHubVersions => exact fine_peripheralVersions (yields_collectUsbVersions hm _)
  | getAudioCardVersion => exact fine_peripheralVersions (yields_audioCardVersions hm)
  | getNvmeVersion devicePath pathLength =>
      refine fine_reporting (fine_bind (fine_bind (fine_view _) fun _ => fine_pure _) ?_)
      rintro (status | path)
      · exact fine_pure _
      · exact fine_someReply (yields_ask hm (.getNvmeFirmwareVersion path))
          fun _ h => fine_nvmeRecord h

theorem fine_operation (hm : m.Regular) {operation : Operation} (h : ¬ operation.Releases) :
    Fine m operation.run := by
  cases operation with
  | system operation => exact fine_systemOperation hm operation
  | thermal operation => exact fine_thermalOperation hm operation
  | controls operation => exact fine_controlsOperation hm operation
  | inventory operation => exact fine_inventoryOperation hm operation
  | diagnostics operation => exact fine_diagnosticsOperation hm operation
  | versions operation => exact fine_versionsOperation hm operation
  | release operation => exact (h trivial).elim

end Families

end FrameworkFfi
