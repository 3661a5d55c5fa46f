import FrameworkFfi.Calls.Events
import FrameworkFfi.Exports.Controls
import FrameworkFfi.Exports.Diagnostics
import FrameworkFfi.Exports.Inventory
import FrameworkFfi.Exports.System
import FrameworkFfi.Exports.Thermal
import FrameworkFfi.Exports.Versions

/-!
# The queries behind the exported functions

None of the helpers and detectors sends a command.
-/

namespace FrameworkFfi

open Effect

/-! ### Drivers, statuses and features -/

theorem reads_openDriver (driverType : CrosEcDriverType) (driver : FrameworkEcDriver) :
    Reads (openDriver driverType driver) :=
  reads_converted rfl _

theorem reads_orElseHandle {first rest : Ffi (Option FrameworkEcHandle)} (hfirst : Reads first)
    (hrest : Reads rest) : Reads (orElseHandle first rest) := by
  refine hfirst.bind ?_
  rintro (_ | handle)
  · exact hrest
  · exact reads_pure _

theorem reads_defaultEcHandle : Reads defaultEcHandle := by
  refine reads_orElseHandle ?_ (reads_orElseHandle ?_ ?_)
  · refine (reads_view _).bind fun targetOs => ?_
    split_ifs
    · exact reads_openDriver _ _
    · exact reads_pure _
  · refine (reads_view _).bind fun targetOs => ?_
    split_ifs
    · refine (reads_ask rfl).bind ?_
      rintro (_ | _)
      · exact reads_pure _
      · exact reads_openDriver _ _
    · exact reads_pure _
  · refine (reads_view _).bind fun targetOs => (reads_view _).bind fun x86_64 => ?_
    split_ifs
    · exact reads_openDriver _ _
    · exact reads_pure _

theorem reads_driverIsSupported (driver : FrameworkEcDriver) :
    Reads (driverIsSupported driver) := by
  unfold driverIsSupported
  cases CrosEcDriverType.tryFrom driver with
  | none => exact reads_pure _
  | some driverType => exact reads_ask rfl

theorem reads_getDeviceErrorMessage (token : Int32) : Reads (getDeviceErrorMessage token) := by
  intro command m w message w' h
  obtain ⟨-, rfl⟩ := returns_act.mp h
  exact ⟨[], List.forall_mem_nil _, rfl⟩

theorem reads_deviceErrorMessageOf (status : FrameworkStatus) :
    Reads (deviceErrorMessageOf status) := by
  unfold deviceErrorMessageOf
  cases status.deviceErrorMessageToken with
  | none => exact reads_pure _
  | some token => exact (reads_getDeviceErrorMessage token).bind fun _ => reads_pure _

theorem reads_statusDescription (status : FrameworkStatus) : Reads (statusDescription status) := by
  unfold statusDescription
  cases status.code with
  | deviceError =>
      cases status.deviceErrorMessageToken with
      | none => exact reads_pure _
      | some token =>
          refine (reads_getDeviceErrorMessage token).bind ?_
          rintro (_ | message)
          · exact reads_pure _
          · exact reads_view _
  | success | nullPointer | noDriverAvailable | unsupportedDriver | notSupported
  | dataUnavailable => exact reads_pure _
  | invalidArgument | ecResponse | unknownResponseCode => exact reads_view _

theorem reads_featureEnabled (feature : EcFeatureCode) : Reads (featureEnabled feature) :=
  reads_andThen (reads_query (reads_ask rfl)) fun _ =>
    (reads_view _).bind fun _ => reads_pure _

/-! ### Temperatures, fans and sensors -/

theorem reads_thermalSnapshot : Reads thermalSnapshot := by
  refine reads_andThenSome (reads_ask rfl) fun temps => ?_
  refine reads_andThenSome (reads_ask rfl) fun fans => Reads.bind ?_ fun _ => reads_pure _
  exact Reads.foldlM (fun _ _ => (reads_byteAt _ _).bind fun _ =>
    (reads_byteAt _ _).bind fun _ => reads_pure _) _ _

theorem reads_buildThermalSnapshot : Reads buildThermalSnapshot :=
  reads_andThenSome reads_thermalSnapshot fun _ => reads_view _

theorem reads_getThermalThresholds (sensorIndex : UInt32) :
    Reads (getThermalThresholds sensorIndex) := by
  have hcelsius : ∀ kelvin, Reads (thresholdCelsius kelvin) := fun kelvin =>
    (reads_checkArithmetic _).bind fun _ => reads_pure _
  refine reads_andThen (reads_ask rfl) fun cfg => Reads.bind ?_ fun _ => reads_pure _
  iterate 8 refine (hcelsius _).bind fun _ => ?_
  exact reads_pure _

theorem reads_getApThrottle : Reads getApThrottle :=
  reads_andThen (reads_ask rfl) fun _ => reads_pure _

theorem reads_getTempSensorInfo (index : UInt8) : Reads (getTempSensorInfo index) :=
  reads_andThen (reads_ask rfl) fun _ => reads_pure _

theorem reads_standaloneState : Reads standaloneState :=
  (reads_ask rfl).bind fun _ => reads_converted rfl _

theorem reads_u16At (data : List UInt8) (offset : ℕ) : Reads (u16At data offset) :=
  (reads_byteAt _ _).bind fun _ => (reads_byteAt _ _).bind fun _ => reads_pure _

theorem reads_getAccelData : Reads getAccelData := by
  have hword : ∀ data offset, Reads (i16At data offset) := fun data offset =>
    (reads_u16At data offset).bind fun _ => reads_pure _
  refine reads_andThenSome (reads_ask rfl) fun lidRaw => ?_
  refine reads_andThenSome (reads_ask rfl) fun baseRaw => ?_
  refine reads_andThenSome (reads_ask rfl) fun lidAccelRaw => Reads.bind ?_ fun _ => reads_pure _
  refine (reads_u16At _ _).bind fun _ => ?_
  iterate 6 refine (hword _ _).bind fun _ => ?_
  exact reads_pure _

theorem reads_getAls : Reads getAls :=
  reads_andThenSome (reads_ask rfl) fun _ => (reads_u16At _ _).bind fun _ =>
    (reads_u16At _ _).bind fun _ => reads_pure _

theorem reads_queryPdPortState (port : UInt8) : Reads (queryPdPortState port) :=
  reads_converted rfl _

theorem reads_firstActivePort (ports : List UInt8) : Reads (firstActivePort ports) := by
  induction ports with
  | nil => exact reads_pure _
  | cons port ports ih =>
      refine (reads_queryPdPortState port).bind fun state => ?_
      split_ifs
      · exact reads_pure _
      · exact ih

/-! ### Diagnostics -/

theorem reads_getPanicInfo : Reads getPanicInfo := by
  have hword : ∀ data offset, Reads (u32At data offset) := fun data offset =>
    (reads_byteAt _ _).bind fun _ => (reads_byteAt _ _).bind fun _ =>
      (reads_byteAt _ _).bind fun _ => (reads_byteAt _ _).bind fun _ => reads_pure _
  refine reads_andThen (reads_ask rfl) fun data => ?_
  split_ifs
  · exact reads_pure _
  · refine Reads.bind ?_ fun _ => reads_pure _
    exact (reads_view _).bind fun _ => (hword _ _).bind fun _ => (hword _ _).bind fun _ =>
      (reads_byteAt _ _).bind fun _ => (reads_byteAt _ _).bind fun _ =>
        (reads_byteAt _ _).bind fun _ => reads_pure _

/-- The rounds of the loop, by induction on the entries that are left. -/
theorem reads_port80Loop (historySize offset : UInt32) (codes : ByteVec) :
    Reads (port80Loop historySize offset codes) := by
  induction offset, codes using port80Loop.induct historySize with
  | case1 offset codes hlt ih =>
      rw [port80Loop, dif_pos hlt]
      refine (reads_view _).bind fun upstream => ?_
      refine reads_andThen (reads_converted rfl _) fun entries => ?_
      refine (reads_view _).bind fun codes => (reads_checkArithmetic _).bind fun _ => ?_
      exact ih upstream codes
  | case2 offset codes hle =>
      rw [port80Loop, dif_neg hle]
      exact reads_pure _

theorem reads_port80Read : Reads port80Read :=
  reads_andThen (reads_ask rfl) fun _ => (reads_view _).bind fun _ =>
    reads_andThen (reads_port80Loop _ _ _) fun _ => reads_pure _

/-! ### Versions -/

theorem reads_readProductName (device : UsbDevice) (descriptor : UsbDeviceDescriptor) :
    Reads (readProductName device descriptor) := by
  unfold readProductName
  cases descriptor.productStringIndex with
  | none => exact reads_pure _
  | some index => exact reads_converted rfl _

theorem reads_productName (device : UsbDevice) (descriptor : UsbDeviceDescriptor) :
    Reads (productName device descriptor) := by
  refine (reads_ask rfl).bind ?_
  rintro (_ | _)
  · exact reads_pure _
  · exact reads_readProductName device descriptor

theorem reads_collectUsbVersion (isMatch : UsbMatch) (found : List PeripheralVersion)
    (device : UsbDevice) : Reads (collectUsbVersion isMatch found device) := by
  unfold collectUsbVersion
  cases device.deviceDescriptor with
  | none => exact reads_pure _
  | some descriptor =>
      dsimp only
      split_ifs
      · exact (reads_productName device descriptor).bind fun _ => reads_pure _
      · exact reads_pure _

theorem reads_collectUsbVersions (isMatch : UsbMatch) : Reads (collectUsbVersions isMatch) := by
  refine (reads_ask rfl).bind ?_
  rintro (_ | devices)
  · exact reads_pure _
  · exact Reads.foldlM (reads_collectUsbVersion isMatch) devices []

theorem reads_capePoll (device : UsbDevice) (interface : UInt8) (polls : ℕ)
    (response : List UInt8) : Reads (capePoll device interface polls response) := by
  induction polls generalizing response with
  | zero => exact reads_pure _
  | succ polls ih =>
      refine (reads_ask rfl).bind ?_
      rintro (_ | _)
      · exact reads_pure _
      · refine (reads_ask rfl).bind ?_
        rintro (_ | bytes)
        · exact reads_pure _
        · dsimp only
          split_ifs
          · exact reads_pure _
          · exact ih _

theorem reads_claimedExchange (device : UsbDevice) (interface : UInt8) :
    Reads (claimedExchange device interface) := by
  refine (reads_ask rfl).bind ?_
  rintro (_ | _)
  · exact reads_pure _
  · exact (reads_capePoll _ _ _ _).bind fun _ => reads_converted rfl _

theorem reads_audioCardVersionOf (device : UsbDevice) : Reads (audioCardVersionOf device) := by
  have hresponse : Reads (audioCardResponse device) := by
    refine (reads_ask rfl).bind ?_
    rintro (_ | _)
    · exact reads_pure _
    · exact reads_andThenSome (reads_converted rfl _) (reads_claimedExchange device)
  unfold audioCardVersionOf
  cases device.deviceDescriptor with
  | none => exact reads_pure _
  | some descriptor =>
      dsimp only
      split_ifs
      · exact reads_pure _
      · exact reads_andThenSome hresponse fun _ =>
          (reads_readProductName device descriptor).bind fun _ => reads_pure _

theorem reads_firstAudioCard (devices : List UsbDevice) : Reads (firstAudioCard devices) := by
  induction devices with
  | nil => exact reads_pure _
  | cons device devices ih =>
      refine (reads_audioCardVersionOf device).bind ?_
      rintro (_ | version)
      · exact ih
      · exact reads_pure _

theorem reads_audioCardVersions : Reads audioCardVersions :=
  (reads_andThenSome (reads_ask rfl) reads_firstAudioCard).bind fun _ => reads_pure _

/-! ### The expansion bay and the inventory -/

theorem reads_crosEcGetGpuSerial : Reads crosEcGetGpuSerial := by
  refine (reads_ask rfl).bind fun reply => (reads_view _).bind fun upstream => ?_
  cases upstream.getGpuSerial reply with
  | none => exact fun _ => performs_abort _
  | some result => exact reads_pure _

theorem reads_bayOfReplies (info : EcResponseExpansionBayStatus) (gpu : EcResponseGetGpuPcie) :
    Reads (bayOfReplies info gpu) := by
  have hserial : ∀ serial, Reads (serialBuffer serial) := by
    rintro (error | text)
    · exact reads_pure _
    · exact reads_fromVec _
  have hpd : ∀ hasUsbCPort, Reads (bayPdPortState hasUsbCPort) := by
    intro hasUsbCPort
    unfold bayPdPortState
    split_ifs
    · exact reads_queryPdPortState 4
    · exact reads_pure _
  exact reads_crosEcGetGpuSerial.bind fun serial => (hserial serial).bind fun _ =>
    (hpd _).bind fun _ => reads_pure _

theorem reads_expansionBayStatus : Reads expansionBayStatus :=
  reads_andThen (reads_query (reads_ask rfl)) fun info =>
    reads_andThen (reads_query (reads_ask rfl)) fun gpu =>
      (reads_bayOfReplies info gpu).bind fun _ => reads_pure _

theorem reads_checkIndex (n index : ℕ) : Reads (checkIndex n index) := by
  unfold checkIndex
  split_ifs
  · exact reads_pure _
  · exact fun _ => performs_abort _

theorem reads_populateUsbSlots (usbCSlotCount : UInt8) (platform : FrameworkPlatform)
    (table : UsbSlotTable) : Reads (populateUsbSlots usbCSlotCount platform table) := by
  have hports : ∀ usbSlots, Reads (readPorts usbCSlotCount usbSlots) := fun usbSlots =>
    Reads.foldlM (fun _ _ => (reads_queryPdPortState _).bind fun _ =>
      (reads_checkIndex _ _).bind fun _ => reads_pure _) _ _
  have husb : ∀ isMatch, Reads (detectUsbLocal isMatch) := fun isMatch => reads_converted rfl _
  refine (reads_view _).bind fun upstream => (hports _).bind fun _ => ?_
  refine (reads_converted rfl _ : Reads detectExpansionCardsLocal).bind fun _ => ?_
  refine ((reads_view _).bind fun _ => husb _ : Reads detectAudioCardsLocal).bind fun _ => ?_
  iterate 5 refine (husb _).bind fun _ => ?_
  exact reads_pure _

theorem reads_detectHidLocal (isMatch : Upstream → HidDevice → Bool) :
    Reads (do
      let upstream ← view Machine.upstream
      let devices ← ask .hidDeviceList
      pure (hidObservations (isMatch upstream) devices) : Ffi _) :=
  (reads_view _).bind fun _ => reads_converted rfl _

theorem reads_detectInputDeck : Reads detectInputDeck := by
  have hmodules : Reads detectInputModulesLocal :=
    (reads_view _).bind fun _ => reads_converted rfl _
  have hplace : ∀ upstream topRow module, Reads (placeInputModule upstream topRow module) := by
    intro upstream topRow module
    unfold placeInputModule
    split_ifs
    · exact reads_pure _
    · exact (reads_checkIndex _ _).bind fun _ => reads_pure _
  exact (reads_view _).bind fun upstream => (reads_ask rfl).bind fun _ =>
    hmodules.bind fun modules => (Reads.foldlM (hplace upstream) modules _).bind fun _ =>
      reads_pure _

theorem reads_detectDeckOrKeyboard (family : Option PlatformFamily) :
    Reads (detectDeckOrKeyboard family) := by
  unfold detectDeckOrKeyboard
  split_ifs
  · exact reads_detectInputDeck.bind fun _ => reads_pure _
  · refine Reads.bind ?_ fun _ => reads_pure _
    exact (reads_featureEnabled _).bind fun _ => reads_pure _

theorem reads_detectTouchpad (family : Option PlatformFamily)
    (touchpadDevices : List HidModuleObservation) (inputTouchpad : FrameworkModuleDescriptor) :
    Reads (detectTouchpad family touchpadDevices inputTouchpad) := by
  unfold detectTouchpad
  split_ifs
  · exact reads_pure _
  · refine Reads.bind ?_ fun _ => reads_pure _
    exact (reads_featureEnabled _).bind fun _ => reads_converted rfl _

theorem reads_fpLedAnswers : Reads fpLedAnswers := by
  refine (reads_ask rfl).bind ?_
  rintro (error | level)
  · exact reads_pure _
  · exact reads_pure _

theorem reads_detectFingerprintReader : Reads detectFingerprintReader := by
  refine Reads.bind ?_ fun present => ?_
  · refine (reads_featureEnabled _).bind fun enabled => ?_
    split_ifs
    · exact reads_pure _
    · exact reads_fpLedAnswers
  · split_ifs
    · exact reads_fpLedAnswers.bind fun _ => reads_pure _
    · exact reads_pure _

theorem reads_detectInternalModules (family : Option PlatformFamily) :
    Reads (detectInternalModules family) := by
  refine (reads_detectDeckOrKeyboard family).bind fun deck => ?_
  refine (reads_detectHidLocal touchpadMatch).bind fun touchpadDevices => ?_
  refine (reads_detectTouchpad family touchpadDevices _).bind fun touchpads => ?_
  refine reads_detectFingerprintReader.bind fun fingerprintReader => ?_
  refine Reads.bind ((reads_detectHidLocal touchscreenMatch).bind fun _ => reads_pure _)
    fun touchscreen => ?_
  refine Reads.bind ?_ fun webcam => reads_pure _
  refine Reads.bind ?_ fun _ => reads_pure _
  exact (reads_view _).bind fun _ => reads_converted rfl _

theorem reads_buildModuleInventory : Reads buildModuleInventory := by
  have hbay : Reads buildExpansionBayModule := by
    refine reads_expansionBayStatus.bind ?_
    rintro (status | bay)
    · exact reads_pure _
    · exact reads_pure _
  exact (reads_view _).bind fun _ => (reads_view _).bind fun _ =>
    (reads_populateUsbSlots _ _ _).bind fun _ => (reads_detectInternalModules _).bind fun _ =>
      hbay.bind fun _ => reads_pure _

end FrameworkFfi
