import FrameworkFfi.Calls.Handling

/-!
# The exported functions and their arguments

Each family of exported functions handles its arguments as `Arguments` says, case
by case with the rule of the function's shape.
-/

namespace FrameworkFfi

open Effect

/-! ### Records -/

theorem reads_flashVersions (reply : OwnedString × OwnedString × EcCurrentImage) :
    Reads (flashVersions reply) :=
  (reads_fromVec _).bind fun _ => (reads_fromVec _).bind fun _ => reads_pure _

theorem reads_powerSnapshot (powerInfo : PowerInfo) : Reads (powerSnapshot powerInfo) := by
  have hbattery : ∀ battery, Reads (batterySnapshot battery) := by
    intro battery
    iterate 4 refine (reads_fromVec _).bind fun _ => ?_
    exact reads_pure _
  unfold powerSnapshot
  cases powerInfo.battery with
  | none => exact reads_pure _
  | some battery => exact (hbattery battery).bind fun _ => reads_pure _

theorem reads_intoFfi (data : BatteryData) : Reads (FrameworkSmartBatteryData.intoFfi data) := by
  iterate 10 refine (reads_fromVec _).bind fun _ => ?_
  exact reads_pure _

theorem reads_peripheralSlots (found : List PeripheralVersion) : Reads (peripheralSlots found) :=
  Reads.foldlM (fun _ _ => (reads_fromVec _).bind fun _ => reads_pure _) _ _

theorem reads_retimerRecord (version : Option ByteVec) : Reads (retimerRecord version) := by
  cases version with
  | none => exact reads_pure _
  | some version => exact (reads_fromVec _).bind fun _ => reads_pure _

theorem reads_nvmeRecord (info : NvmeInfo) : Reads (nvmeRecord info) :=
  (reads_fromVec _).bind fun _ => (reads_fromVec _).bind fun _ => reads_pure _

/-! ### Queries of more than one reply -/

section Answers

variable {command : Option HostRequest}

theorem answers_checkedHandle (handle : FrameworkEcHandle) :
    Answers command (checkedHandle handle) :=
  (answers_query (reads_ask rfl command)).andThen fun () => answers_ok _

theorem answers_openDefaultEc : Answers command openDefaultEc := by
  refine Answers.after (reads_defaultEcHandle command) ?_
  rintro (_ | handle)
  · exact answers_error (by decide)
  · exact answers_checkedHandle handle

theorem answers_openWithDriverEc (driver : FrameworkEcDriver) :
    Answers command (openWithDriverEc driver) := by
  unfold openWithDriverEc
  cases CrosEcDriverType.tryFrom driver with
  | none => exact answers_error (by decide)
  | some driverType =>
      refine Answers.after (reads_openDriver driverType driver command) ?_
      rintro (_ | handle)
      · exact answers_error (by decide)
      · exact answers_checkedHandle handle

theorem answers_featureEnabled (feature : EcFeatureCode) :
    Answers command (featureEnabled feature) :=
  (answers_query (reads_ask rfl command)).andThen fun _ =>
    Answers.after (reads_view _ command) fun _ => answers_ok _

theorem answers_addFeatureFlag (feature : EcFeatureCode) (flag : FrameworkEcFeatureFlag)
    (flags : UInt64) : Answers command (addFeatureFlag feature flag flags) :=
  (answers_featureEnabled feature).andThen fun _ => answers_ok _

theorem answers_featureFlags : Answers command featureFlags := by
  iterate 5 refine (answers_addFeatureFlag _ _ _).andThen fun _ => ?_
  exact answers_addFeatureFlag _ _ _

theorem answers_buildFanCapabilities : Answers command buildFanCapabilities :=
  (answers_featureEnabled _).andThen fun _ => (answers_featureEnabled _).andThen fun _ =>
    Answers.after (reads_thermalSnapshot command) fun _ => answers_ok _

theorem answers_motionSensors : Answers command motionSensors := by
  refine Answers.after (reads_ask rfl command) fun response => ?_
  split
  · exact answers_ok _
  · exact answers_orStatus _

theorem answers_expansionBayStatus : Answers command expansionBayStatus :=
  (answers_query (reads_ask rfl command)).andThen fun info =>
    (answers_query (reads_ask rfl command)).andThen fun gpu =>
      answers_done (reads_bayOfReplies info gpu command)

theorem answers_ensureDescriptorPresent : Answers command ensureDescriptorPresent := by
  refine answers_expansionBayStatus.andThen fun bay => ?_
  split_ifs
  · exact answers_error (by decide)
  · exact answers_ok _

theorem answers_readHeader : Answers command readHeader :=
  answers_ensureDescriptorPresent.andThen fun () =>
    (answers_query (reads_ask rfl command)).andThen fun _ => answers_ok _

theorem answers_readRawDescriptor : Answers command readRawDescriptor := by
  refine answers_ensureDescriptorPresent.andThen fun () =>
    (answers_query (reads_ask rfl command)).andThen fun descriptor => ?_
  unfold descriptorBuffer
  split_ifs
  · exact answers_error (by decide)
  · exact answers_done (reads_fromVec descriptor command)

theorem answers_validate (expectedDescriptor : List UInt8) :
    Answers command (validate expectedDescriptor) :=
  answers_ensureDescriptorPresent.andThen fun () => answers_query (reads_ask rfl command)

end Answers

/-! ### The families -/

section Families

variable {m : Machine}

theorem handles_systemOperation (operation : SystemOperation) :
    Handles none operation.refusal m operation.run := by
  cases operation with
  | ecDriverIsSupported driver => exact handles_unreported (reads_driverIsSupported driver)
  | statusGetDeviceErrorMessage status =>
      exact (answers_someReply (reads_deviceErrorMessageOf status none)
        fun _ => reads_fromVec _).handles
  | statusGetDescription status =>
      have hdescription : Answers none (do
          let description ← statusDescription status
          let buffer ← FrameworkByteBuffer.fromVec description.intoBytes
          pure (.ok buffer)) :=
        Answers.after (reads_statusDescription status none) fun _ =>
          answers_done (reads_fromVec _ none)
      exact hdescription.handles
  | ecOpenDefault => exact answers_openDefaultEc.handles
  | ecOpenWithDriver driver => exact (answers_openWithDriverEc driver).handles
  | ecClose handle => exact handles_unreported (reads_pure _)
  | ecGetActiveDriver handle => exact handles_exported rfl (fun _ => answers_ok _) handle
  | getPlatform =>
      exact (answers_someReply (reads_view _ none) fun _ => reads_pure _).handles
  | getPlatformFamily =>
      exact (answers_someReply (reads_view _ none) fun _ => reads_pure _).handles
  | getProductName =>
      exact (answers_someReply (reads_ask rfl none) fun _ => reads_fromVec _).handles
  | ecGetBuildInfo handle =>
      exact handles_ecReply rfl (reads_ask rfl) (fun _ => reads_fromVec _) handle
  | ecGetFlashVersions handle =>
      exact handles_someReply rfl (reads_ask rfl) reads_flashVersions handle

theorem handles_thermalOperation (operation : ThermalOperation) :
    Handles operation.command operation.refusal m operation.run := by
  cases operation with
  | ecGetPowerSnapshot handle =>
      exact handles_someReply rfl (reads_ask rfl) reads_powerSnapshot handle
  | ecGetFanCapabilities handle =>
      exact handles_exported rfl (fun _ => answers_buildFanCapabilities) handle
  | ecGetThermalSnapshot handle =>
      exact handles_someReply rfl reads_buildThermalSnapshot (fun _ => reads_pure _) handle
  | ecSetFanRpm handle fanIndex rpm =>
      exact handles_setting (fun _ => rfl) rfl (fun _ _ =>
        answers_ecReply (sends_ask fun _ => rfl) fun _ => reads_pure _) handle
  | ecSetFanDuty handle fanIndex percent =>
      exact handles_setting (fun _ => rfl) rfl (fun _ _ =>
        answers_ecReply (sends_ask fun _ => rfl) fun _ => reads_pure _) handle
  | ecRestoreAutoFanControl handle fanIndex =>
      exact handles_setting (fun _ => rfl) rfl (fun _ _ =>
        answers_ecReply (sends_ask fun _ => rfl) fun _ => reads_pure _) handle
  | ecGetBatteryCutoffStatus handle =>
      exact handles_someReply rfl (reads_ask rfl) (fun _ => reads_pure _) handle
  | ecGetApThrottleStatus handle =>
      exact handles_ecReply rfl reads_getApThrottle (fun _ => reads_pure _) handle
  | ecGetThermalThresholds handle sensorIndex =>
      exact handles_ecReply rfl (reads_getThermalThresholds sensorIndex)
        (fun _ => reads_pure _) handle
  | ecSetThermalThresholds handle sensorIndex warnCelsius highCelsius haltCelsius
      fanOffCelsius fanMaxCelsius =>
      exact handles_command (sends_ask fun _ => rfl) handle
  | ecGetTempSensorName handle sensorIndex =>
      exact handles_ecReply rfl (reads_getTempSensorInfo sensorIndex)
        (fun _ => (reads_fromVec _).bind fun _ => reads_pure _) handle
  | ecGetFanCount handle =>
      exact handles_ecReply rfl (reads_ask rfl) (fun _ => reads_pure _) handle
  | ecGetStandaloneMode handle =>
      refine handles_exported rfl (fun _ => ?_) handle
      exact Answers.after (reads_standaloneState none) fun _ => answers_ok _

/-- The check of the percentage stands in the branch that sends the command. -/
theorem setKeyboardBacklight_eq (percent : UInt8) :
    setKeyboardBacklight percent = andThen (pure (requirePercent percent)) fun percent => (do
      ask (.setKeyboardBacklight percent)
      pure (.ok ())) := by
  unfold setKeyboardBacklight requirePercent
  split_ifs
  · rfl
  · rfl

theorem handles_controlsOperation (operation : ControlsOperation) :
    Handles operation.command operation.refusal m operation.run := by
  cases operation with
  | ecGetKeyboardBacklight handle =>
      exact handles_ecReply rfl (reads_ask rfl) (fun _ => reads_pure _) handle
  | ecGetFingerprintLed handle =>
      exact handles_ecReply rfl (reads_ask rfl) (fun _ => reads_pure _) handle
  | ecSetKeyboardBacklight handle percent =>
      simp only [ControlsOperation.run, frameworkEcSetKeyboardBacklight,
        statusOnly_exportedStatus]
      exact handles_setting (fun _ => setKeyboardBacklight_eq percent) rfl
        (fun _ _ => answers_done (sends_ask fun _ => rfl)) handle
  | ecSetFingerprintLed handle level =>
      exact handles_checkedCommand (fun _ => sends_ask fun _ => rfl) handle
  | ecGetPrivacySwitches handle =>
      exact handles_ecReply rfl (reads_ask rfl) (fun _ => reads_pure _) handle
  | ecGetChargeLimits handle =>
      exact handles_ecReply rfl (reads_ask rfl) (fun _ => reads_pure _) handle
  | ecSetChargeLimits handle minPercent maxPercent =>
      exact handles_command (sends_ask fun _ => rfl) handle
  | ecReadBoardId handle boardIdType =>
      exact handles_ecReply rfl (reads_ask rfl) (fun _ => reads_pure _) handle
  | ecGetActiveCharge handle =>
      exact handles_exported rfl (fun _ => answers_done
        (reads_firstActivePort [0, 1, 2, 3, 4, 5] none)) handle
  | ecGetSensorInfo handle =>
      exact handles_exported rfl
        (fun _ => answers_motionSensors.andThen fun _ => answers_ok _) handle
  | ecGetAccelData handle =>
      exact handles_someReply rfl reads_getAccelData (fun _ => reads_pure _) handle
  | ecGetAlsReading handle =>
      exact handles_someReply rfl reads_getAls (fun _ => reads_pure _) handle
  | ecGetChassisIntrusion handle =>
      exact handles_ecReply rfl (reads_ask rfl) (fun _ => reads_pure _) handle
  | ecSetChargeCurrentLimit handle currentMa batterySoc =>
      exact handles_command (sends_ask fun _ => rfl) handle
  | ecGetUptime handle =>
      exact handles_ecReply rfl (reads_ask rfl) (fun _ => reads_pure _) handle
  | ecGetS0ixCounter handle =>
      exact handles_ecReply rfl (reads_ask rfl) (fun _ => reads_pure _) handle
  | ecResetS0ixCounter handle => exact handles_command (sends_ask fun _ => rfl) handle
  | ecSetTabletMode handle mode => exact handles_command (sends_ask fun _ => rfl) handle
  | ecSetInputDeckMode handle mode => exact handles_command (sends_ask fun _ => rfl) handle
  | ecSetChargeRateLimit handle rateAmps batterySocPercent =>
      exact handles_command (sends_ask fun _ => rfl) handle
  | ecGetHibernateDelay handle =>
      exact handles_ecReply rfl (reads_ask rfl) (fun _ => reads_pure _) handle
  | ecSetHibernateDelay handle seconds => exact handles_command (sends_ask fun _ => rfl) handle
  | ecSetFingerprintLedPercentage handle percentage =>
      exact handles_command (sends_ask fun _ => rfl) handle
  | ecAdcRead handle channel =>
      exact handles_ecReply rfl (reads_ask rfl) (fun _ => reads_pure _) handle
  | ecCommandVersionSupported handle command version =>
      exact handles_ecReply rfl (reads_ask rfl) (fun _ => reads_pure _) handle
  | ecGetPdPowerInfo handle port =>
      exact handles_ecReply rfl (reads_converted rfl _ : Reads (queryPdPowerInfo port))
        (fun _ => reads_pure _) handle
  | ecIsCharging handle =>
      exact handles_ecReply rfl (reads_ask rfl) (fun _ => reads_pure _) handle
  | getStylusBattery =>
      have hbattery : Answers none (do
          let level ← ask .getStylusBatteryLevel
          pure (.ok (stylusBattery level))) :=
        Answers.after (reads_ask rfl none) fun _ => answers_ok _
      exact hbattery.handles
  | touchscreenEnable enable =>
      exact handles_doneStatus ((sends_ask fun _ => rfl).bind fun _ => reads_pure _ _)
  | touchpadSetHapticIntensity intensity =>
      exact handles_doneStatus (sends_ask fun _ => rfl)
  | touchpadSetClickForce force => exact handles_doneStatus (sends_ask fun _ => rfl)
  | ecSetRgbKeyboardColors handle startKey colors colorCount =>
      exact handles_checkedCommand (fun _ => sends_ask fun _ => rfl) handle
  | ecRemapKey handle row col scanset => exact handles_command (sends_ask fun _ => rfl) handle
  | ecRemapCapsToCtrl handle => exact handles_command (sends_ask fun _ => rfl) handle
  | ecPs2EmulationEnable handle enable => exact handles_command (sends_ask fun _ => rfl) handle
  | ecGetGpio handle name nameLength =>
      exact handles_checkedReply rfl (fun _ => reads_ask rfl) (fun _ _ => reads_pure _) handle
  | ecSetGpio handle name nameLength value =>
      exact handles_checkedCommand (fun _ => sends_ask fun _ => rfl) handle
  | ecGetGpioCount handle =>
      exact handles_ecReply rfl (reads_ask rfl) (fun _ => reads_pure _) handle
  | ecGetGpioInfo handle index =>
      exact handles_ecReply rfl (reads_converted rfl _ : Reads (gpioInfoAt index))
        (fun _ => (reads_fromVec _).bind fun _ => reads_pure _) handle

theorem handles_inventoryOperation (operation : InventoryOperation) :
    Handles none operation.refusal m operation.run := by
  cases operation with
  | ecGetFeatureFlags handle => exact handles_exported rfl (fun _ => answers_featureFlags) handle
  | ecGetExpansionBayStatus handle =>
      exact handles_exported rfl (fun _ => answers_expansionBayStatus) handle
  | ecGetGpuDescriptorHeader handle =>
      exact handles_exported rfl (fun _ => answers_readHeader) handle
  | ecReadGpuDescriptor handle =>
      exact handles_exported rfl (fun _ => answers_readRawDescriptor) handle
  | ecValidateGpuDescriptor handle expectedDescriptorPtr expectedDescriptorLength =>
      exact handles_checked (fun _ => rfl) rfl fun _ expectedDescriptor _ _ =>
        (answers_validate expectedDescriptor).andThen fun _ => answers_ok _
  | ecGetModuleInventory handle =>
      exact handles_exported rfl (fun _ => answers_done (reads_buildModuleInventory none)) handle
  | ecGetGpuSerial handle =>
      exact handles_ecReply rfl (reads_converted rfl _ : Reads getGpuSerial)
        (fun _ => reads_fromVec _) handle

theorem handles_diagnosticsOperation (operation : DiagnosticsOperation) :
    Handles none operation.refusal m operation.run := by
  cases operation with
  | ecGetSwitches handle =>
      exact handles_someReply rfl (reads_converted rfl _ : Reads getSwitches)
        (fun _ => reads_pure _) handle
  | ecHello handle inData =>
      exact handles_ecReply rfl (reads_ask rfl) (fun _ => reads_pure _) handle
  | ecCheckHello handle =>
      exact handles_ecReply rfl (reads_ask rfl) (fun _ => reads_pure _) handle
  | ecGetProtocolInfo handle =>
      exact handles_ecReply rfl (reads_ask rfl) (fun _ => reads_pure _) handle
  | ecGetSysinfo handle =>
      exact handles_ecReply rfl (reads_ask rfl) (fun _ => reads_pure _) handle
  | ecGetPanicInfo handle =>
      exact handles_ecReply rfl reads_getPanicInfo
        (fun _ => (reads_fromVec _).bind fun _ => reads_pure _) handle
  | ecGetPort80History handle =>
      exact handles_ecReply rfl reads_port80Read
        (fun _ => (reads_fromVec _).bind fun _ => reads_pure _) handle
  | ecAuthenticateBattery handle authKey =>
      exact handles_checkedReply rfl (fun _ => reads_ask rfl) (fun _ _ => reads_pure _) handle
  | ecGetSmartBatteryData handle useUnsealKey unsealKey =>
      exact handles_ecReply rfl (reads_ask rfl) reads_intoFfi handle

theorem handles_peripheralVersions {detected : Ffi (List PeripheralVersion)}
    (h : Reads detected) : Handles none none m
      (reporting PeripheralVersions.buffers (peripheralVersionsResult detected)) := by
  have hresult : Answers none (do
      let found ← detected
      let versions ← peripheralSlots found
      pure (.ok versions)) :=
    Answers.after (h none) fun found => answers_done (reads_peripheralSlots found none)
  exact hresult.handles

theorem handles_getNvmeVersion (devicePath : BytePtr) (pathLength : Int32) :
    Handles none ((VersionsOperation.getNvmeVersion devicePath pathLength).refusal m) m
      (VersionsOperation.getNvmeVersion devicePath pathLength).run := by
  have hrefusal : (VersionsOperation.getNvmeVersion devicePath pathLength).refusal m =
      failureOf (if nvmeSupported m then borrowUtf8 devicePath pathLength
        else .error (.withCode .notSupported 0)) := by
    unfold VersionsOperation.refusal
    split_ifs
    · rfl
    · rfl
  have hguard : Reads (requireNvmePath devicePath pathLength) :=
    (reads_view _).bind fun _ => reads_pure _
  rw [hrefusal]
  exact handles_guarded hguard (fun _ => rfl) rfl fun path =>
    answers_someReply (reads_ask rfl none) reads_nvmeRecord

theorem handles_versionsOperation (operation : VersionsOperation) :
    Handles none (operation.refusal m) m operation.run := by
  cases operation with
  | ecGetPdControllerVersions handle =>
      exact handles_ecReply rfl (reads_converted rfl _ : Reads pdControllerVersions)
        (fun _ => reads_pure _) handle
  | ecGetRetimerVersion handle =>
      exact handles_ecReply rfl (reads_ask rfl) reads_retimerRecord handle
  | getCameraVersions => exact handles_peripheralVersions (reads_collectUsbVersions _)
  | getInputModuleVersions => exact handles_peripheralVersions (reads_collectUsbVersions _)
  | getUsbHubVersions => exact handles_peripheralVersions (reads_collectUsbVersions _)
  | getAudioCardVersion => exact handles_peripheralVersions reads_audioCardVersions
  | getNvmeVersion devicePath pathLength => exact handles_getNvmeVersion devicePath pathLength

end Families

end FrameworkFfi
