import FrameworkFfi.Accounting.LostSerial
import FrameworkFfi.Calls.Fits

/-!
# Queries that return

On a regular machine every query of the exported functions returns, with what its
callers rely on.
-/

namespace FrameworkFfi

open Effect

section Queries

variable {m : Machine}

/-! ### Drivers, statuses and features -/

theorem fine_openDriver (driverType : CrosEcDriverType) (driver : FrameworkEcDriver) :
    Fine m (openDriver driverType driver) :=
  fine_bind (fine_ask _) fun _ => fine_pure _

theorem fine_orElseHandle {first rest : Ffi (Option FrameworkEcHandle)} (hfirst : Fine m first)
    (hrest : Fine m rest) : Fine m (orElseHandle first rest) := by
  refine fine_bind hfirst ?_
  rintro (_ | handle)
  · exact hrest
  · exact fine_pure _

theorem fine_defaultEcHandle : Fine m defaultEcHandle := by
  refine fine_orElseHandle ?_ (fine_orElseHandle ?_ ?_)
  · refine fine_bind (fine_view _) fun targetOs => ?_
    split_ifs
    · exact fine_openDriver _ _
    · exact fine_pure _
  · refine fine_bind (fine_view _) fun targetOs => ?_
    split_ifs
    · refine fine_bind (fine_ask .crosEcDevPathExists) ?_
      rintro (_ | _)
      · exact fine_pure _
      · exact fine_openDriver _ _
    · exact fine_pure _
  · refine fine_bind (fine_view _) fun targetOs => fine_bind (fine_view _) fun x86_64 => ?_
    split_ifs
    · exact fine_openDriver _ _
    · exact fine_pure _

theorem fine_driverIsSupported (driver : FrameworkEcDriver) :
    Fine m (driverIsSupported driver) := by
  unfold driverIsSupported
  cases CrosEcDriverType.tryFrom driver with
  | none => exact fine_pure _
  | some driverType => exact fine_ask _

theorem fine_checkedHandle (hm : m.Regular) (handle : FrameworkEcHandle) :
    Fine m (checkedHandle handle) :=
  fine_andThen (yields_query (yields_ask hm .checkMemMagic)) fun _ _ => fine_pure _

theorem fine_openDefaultEc (hm : m.Regular) : Fine m openDefaultEc := by
  refine fine_bind fine_defaultEcHandle ?_
  rintro (_ | handle)
  · exact fine_pure _
  · exact fine_checkedHandle hm handle

theorem fine_openWithDriverEc (hm : m.Regular) (driver : FrameworkEcDriver) :
    Fine m (openWithDriverEc driver) := by
  unfold openWithDriverEc
  cases CrosEcDriverType.tryFrom driver with
  | none => exact fine_pure _
  | some driverType =>
      refine fine_bind (fine_openDriver driverType driver) ?_
      rintro (_ | handle)
      · exact fine_pure _
      · exact fine_checkedHandle hm handle

theorem capacity_exact_lt {text : String} (h : Short text) :
    (OwnedString.exact text).capacity < 2 ^ 31 :=
  Nat.lt_trans h (by decide)

theorem yields_getDeviceErrorMessage (token : Int32) :
    Yields m (getDeviceErrorMessage token) fun found => ∀ message ∈ found, Short message := by
  refine succeeds_act fun w hw => ⟨hw, ?_⟩
  intro message hmessage
  unfold DeviceErrorStore.getDeviceErrorMessage at hmessage
  split_ifs at hmessage
  · cases hmessage
  · exact hw _ (BoundedQueue.mem_of_lookup hmessage)

theorem yields_deviceErrorMessageOf (status : FrameworkStatus) :
    Yields m (deviceErrorMessageOf status) fun found =>
      ∀ message ∈ found, message.capacity < 2 ^ 31 := by
  unfold deviceErrorMessageOf
  cases status.deviceErrorMessageToken with
  | none => exact succeeds_pure (by simp)
  | some token =>
      refine (yields_getDeviceErrorMessage token).bind fun found hfound => succeeds_pure ?_
      intro message hmessage
      obtain ⟨text, htext, rfl⟩ := Option.map_eq_some_iff.mp hmessage
      exact capacity_exact_lt (hfound text htext)

theorem yields_format (hm : m.Regular) {text : String} (h : (utf8Bytes text).length < 2 ^ 30) :
    Yields m (format text) fun formatted => formatted.capacity < 2 ^ 31 :=
  succeeds_view (hm.allocate_lt _ h)

/-- The name of a response is short, and so is its number. -/
theorem short_ecResponseDescription (detail : FrameworkEcResponseDetail) :
    Short s!"EC response: {ecResponseDetailName detail} ({detail.toInt32})" := by
  have hname : (toString (ecResponseDetailName detail)).length ≤ 16 := by
    cases detail <;> decide
  have hnumber := length_toString_int32 detail.toInt32
  have hopen : (toString "EC response: ").length = 13 := by decide
  have hparen : (toString " (").length = 2 := by decide
  have hclose : (toString ")").length = 1 := by decide
  refine short_of_length ?_
  simp only [String.length_append]
  omega

theorem short_numbered (label : String) (n : Int32) (h : label.length < 2 ^ 17) :
    Short (toString label ++ toString n) := by
  have hnumber := length_toString_int32 n
  have hlabel : (toString label).length < 2 ^ 17 := h
  refine short_of_length ?_
  simp only [String.length_append]
  omega

theorem yields_statusDescription (hm : m.Regular) (status : FrameworkStatus) :
    Yields m (statusDescription status) fun description => description.capacity < 2 ^ 31 := by
  have hformat : ∀ text, Short text →
      Yields m (format text) fun formatted => formatted.capacity < 2 ^ 31 :=
    fun text h => yields_format hm (Nat.lt_trans h (by decide))
  unfold statusDescription
  cases status.code with
  | deviceError =>
      cases status.deviceErrorMessageToken with
      | none => exact succeeds_pure (by decide)
      | some token =>
          refine (yields_getDeviceErrorMessage token).bind ?_
          rintro (_ | message) hfound
          · exact succeeds_pure (by decide)
          · refine yields_format hm ?_
            have hmessage : (utf8Bytes message).length < 2 ^ 20 := hfound message rfl
            have hopen : (utf8Bytes (toString "Device error: ")).length = 14 := by decide
            have hsame : (utf8Bytes (toString message)).length < 2 ^ 20 := hmessage
            rw [utf8Bytes_append, List.length_append]
            omega
  | success | nullPointer | noDriverAvailable | unsupportedDriver | notSupported
  | dataUnavailable => exact succeeds_pure (by decide)
  | invalidArgument => exact hformat _ (short_numbered "Invalid fan index: " _ (by decide))
  | unknownResponseCode =>
      exact hformat _ (short_numbered "Unknown EC response code: " _ (by decide))
  | ecResponse => exact hformat _ (short_ecResponseDescription _)

theorem yields_featureEnabled (hm : m.Regular) (feature : EcFeatureCode) :
    Yields m (featureEnabled feature) (Ends (fun _ => True) fun _ => True) :=
  yields_andThen (yields_query (yields_ask hm .getFeatures)) fun _ _ =>
    (fine_view _).bind fun _ _ => succeeds_pure trivial

/-! ### Temperatures, fans and sensors -/

/-- A block of the EC memory has as many bytes as were asked for. -/
theorem yields_readMemory (hm : m.Regular) (offset length : UInt16) :
    Yields m (ask (.readMemory offset length)) fun memory =>
      ∀ bytes ∈ memory, length.toNat ≤ bytes.length :=
  yields_ask hm (.readMemory offset length)

theorem fine_readFans {fans : List UInt8} (h : 8 ≤ fans.length) : Fine m (readFans fans) := by
  refine Succeeds.foldlM (J := fun _ => True) (fun state i _ _ => ?_) trivial
  have hi := i.isLt
  exact fine_bind (fine_byteAt (by omega)) fun _ =>
    fine_bind (fine_byteAt (by omega)) fun _ => fine_pure _

theorem yields_thermalSnapshot (hm : m.Regular) :
    Yields m thermalSnapshot fun snapshot => ∀ s ∈ snapshot, True := by
  refine yields_andThenSome (yields_readMemory hm _ _) fun temps _ => ?_
  refine yields_andThenSome (yields_readMemory hm _ _) fun fans hfans => ?_
  exact (fine_readFans hfans).bind fun _ _ => succeeds_pure fun _ _ => trivial

theorem yields_buildThermalSnapshot (hm : m.Regular) :
    Yields m buildThermalSnapshot fun snapshot => ∀ s ∈ snapshot, True :=
  yields_andThenSome (yields_thermalSnapshot hm) fun _ _ =>
    (fine_view _).mono fun _ _ _ _ => trivial

theorem fine_buildFanCapabilities (hm : m.Regular) : Fine m buildFanCapabilities :=
  fine_andThen (yields_featureEnabled hm _) fun _ _ =>
    fine_andThen (yields_featureEnabled hm _) fun _ _ =>
      fine_bind (fine_of_yields (yields_thermalSnapshot hm)) fun _ => fine_pure _

theorem yields_getThermalThresholds (hm : m.Regular) (sensorIndex : UInt32) :
    Yields m (getThermalThresholds sensorIndex) (Answered fun _ => True) := by
  have hcelsius : ∀ kelvin, thresholdFits kelvin = true → Fine m (thresholdCelsius kelvin) :=
    fun kelvin h => fine_bind (fine_checkArithmetic h) fun _ => fine_pure _
  refine yields_andThen (yields_ask hm (.getThermalThreshold sensorIndex)) fun cfg hcfg => ?_
  obtain ⟨htemps, hreleases, hoff, hmax⟩ := hcfg
  have hthresholds : Fine m (thresholdsOfConfig cfg) := by
    iterate 3 refine fine_bind (hcelsius _ (htemps _)) fun _ => ?_
    iterate 3 refine fine_bind (hcelsius _ (hreleases _)) fun _ => ?_
    exact fine_bind (hcelsius _ hoff) fun _ => fine_bind (hcelsius _ hmax) fun _ => fine_pure _
  exact hthresholds.bind fun _ _ => succeeds_pure trivial

theorem yields_getApThrottle (hm : m.Regular) :
    Yields m getApThrottle (Answered fun _ => True) :=
  yields_andThen (yields_ask hm .getApThrottleStatus) fun _ _ => succeeds_pure trivial

theorem yields_getTempSensorInfo (hm : m.Regular) (index : UInt8) :
    Yields m (getTempSensorInfo index) (Answered fun info => info.name.capacity < 2 ^ 31) := by
  refine yields_andThen (yields_ask hm (.tempSensorGetInfo index)) fun res hres => succeeds_pure ?_
  exact (answered_sensorNameOfReply hres).map fun _ h => h

theorem fine_standaloneState : Fine m standaloneState :=
  fine_bind (fine_ask .isStandalone) fun _ => fine_bind (fine_ask .standaloneMode) fun _ =>
    fine_pure _

theorem fine_u16At {data : List UInt8} {offset : ℕ} (h : offset + 1 < data.length) :
    Fine m (u16At data offset) :=
  fine_bind (fine_byteAt (by omega)) fun _ => fine_bind (fine_byteAt h) fun _ => fine_pure _

theorem fine_i16At {data : List UInt8} {offset : ℕ} (h : offset + 1 < data.length) :
    Fine m (i16At data offset) :=
  fine_bind (fine_u16At h) fun _ => fine_pure _

theorem yields_getAccelData (hm : m.Regular) :
    Yields m getAccelData fun data => ∀ d ∈ data, True := by
  refine yields_andThenSome (yields_readMemory hm _ _) fun lidRaw hlidRaw => ?_
  refine yields_andThenSome (yields_readMemory hm _ _) fun baseRaw hbaseRaw => ?_
  refine yields_andThenSome (yields_readMemory hm _ _) fun lidAccelRaw hlidAccelRaw => ?_
  have hlid : 2 ≤ lidRaw.length := hlidRaw
  have hbase : 6 ≤ baseRaw.length := hbaseRaw
  have hlidAccel : 6 ≤ lidAccelRaw.length := hlidAccelRaw
  have hdata : Fine m (accelDataOfMemory lidRaw baseRaw lidAccelRaw) := by
    refine fine_bind (fine_u16At (by omega)) fun _ => ?_
    iterate 6 refine fine_bind (fine_i16At (by omega)) fun _ => ?_
    exact fine_pure _
  exact hdata.bind fun _ _ => succeeds_pure fun _ _ => trivial

theorem yields_getAls (hm : m.Regular) : Yields m getAls fun lux => ∀ l ∈ lux, True := by
  refine yields_andThenSome (yields_readMemory hm _ _) fun als hals => ?_
  have hlength : 4 ≤ als.length := hals
  exact (fine_u16At (by omega)).bind fun _ _ => (fine_u16At (by omega)).bind fun _ _ =>
    succeeds_pure fun _ _ => trivial

theorem yields_motionSensors (hm : m.Regular) :
    Yields m motionSensors (Ends (fun _ => True) fun _ => True) := by
  refine (yields_ask hm .motionsenseSensorInfo).bind fun response hresponse => ?_
  split
  · exact succeeds_pure trivial
  · exact yields_orStatus hresponse

theorem fine_queryPdPortState (port : UInt8) : Fine m (queryPdPortState port) :=
  fine_bind (fine_ask (.getPdPortState port)) fun _ => fine_pure _

theorem fine_firstActivePort (ports : List UInt8) : Fine m (firstActivePort ports) := by
  induction ports with
  | nil => exact fine_pure _
  | cons port ports ih =>
      refine fine_bind (fine_queryPdPortState port) fun state => ?_
      split_ifs
      · exact fine_pure _
      · exact ih

theorem yields_queryPdPowerInfo (hm : m.Regular) (port : UInt8) :
    Yields m (queryPdPowerInfo port) (Answered fun _ => True) := by
  refine (yields_ask hm (.getPdInfo (saturatingSucc port))).bind fun infos hinfos =>
    succeeds_pure ?_
  exact (answered_lastPdInfo hinfos).map fun _ _ => trivial

theorem yields_gpioInfoAt (hm : m.Regular) (index : UInt8) :
    Yields m (gpioInfoAt index) (Answered fun info => info.name.capacity < 2 ^ 31) := by
  refine (yields_ask hm (.gpioGetInfo index)).bind fun reply hreply => succeeds_pure ?_
  refine hreply.map fun info hinfo => ?_
  have htext : (utf8Bytes (textOrEmpty info.name)).length ≤ info.name.length := by
    unfold textOrEmpty
    cases hname : fromUtf8 info.name with
    | ok text =>
        have hnuls := length_trimEndNuls_le text
        rwa [utf8Bytes_of_fromUtf8 hname] at hnuls
    | error error => exact (length_trimEndNuls_le "").trans (Nat.zero_le _)
  exact Nat.lt_of_le_of_lt htext hinfo

theorem yields_getGpuSerial (hm : m.Regular) :
    Yields m getGpuSerial (Answered fun serial => serial.capacity < 2 ^ 31) :=
  (yields_ask hm (.getGpuSerial 0)).bind fun _ hreply =>
    succeeds_pure (hreply.bind fun response _ => answered_gpuSerialOfReply response)

/-! ### Diagnostics -/

theorem fine_u32At {data : List UInt8} {offset : ℕ} (h : offset + 3 < data.length) :
    Fine m (u32At data offset) :=
  fine_bind (fine_byteAt (by omega)) fun _ => fine_bind (fine_byteAt (by omega)) fun _ =>
    fine_bind (fine_byteAt (by omega)) fun _ => fine_bind (fine_byteAt h) fun _ => fine_pure _

theorem yields_parsePanicInfo {data : ByteVec} (hlength : 12 ≤ data.length) {P : ByteVec → Prop}
    (hdata : P data) : Yields m (parsePanicInfo data) fun info => P info.data := by
  have hbytes : 12 ≤ data.bytes.length := hlength
  have hsame : data.length = data.bytes.length := rfl
  refine (fine_view _).bind fun _ _ => ?_
  iterate 2 refine (fine_u32At (by omega)).bind fun _ _ => ?_
  iterate 3 refine (fine_byteAt (by omega)).bind fun _ _ => ?_
  exact succeeds_pure hdata

theorem yields_getPanicInfo (hm : m.Regular) :
    Yields m getPanicInfo (Answered fun info => info.data.capacity < 2 ^ 31) := by
  refine yields_andThen (yields_ask hm .getPanicInfo) fun data hdata => ?_
  split_ifs with hshort
  · exact succeeds_pure hdata
  · have hlength : 12 ≤ data.length := Nat.le_of_not_lt hshort
    exact (yields_parsePanicInfo (P := fun data => data.capacity < 2 ^ 31) hlength hdata).bind
      fun _ hinfo => succeeds_pure hinfo

theorem extendFromSlice_of_room {codes : ByteVec} {entries : List UInt8}
    (hroom : codes.length + entries.length ≤ codes.capacity) :
    (m.extendFromSlice codes entries).capacity = codes.capacity ∧
      (m.extendFromSlice codes entries).length = codes.length + entries.length := by
  have hfits : (codes.bytes ++ entries).length ≤ codes.capacity := by
    rw [List.length_append]
    exact hroom
  constructor
  · rw [Machine.extendFromSlice, dif_pos hfits]
  · rw [ByteVec.length, Machine.bytes_extendFromSlice, List.length_append, ByteVec.length]

theorem yields_port80ReadEntries (hm : m.Regular) (offset numEntries : UInt32) :
    Yields m (port80ReadEntries offset numEntries)
      (Answered fun entries => entries.length = 2 * numEntries.toNat) :=
  (yields_ask hm (.port80ReadBuffer offset numEntries)).bind fun _ hreply =>
    succeeds_pure (hreply.bind fun _ _ => answered_port80Entries)

/-- The allocation holds the codes that are read and those that are left, so it
never grows. By induction on the entries that are left. -/
theorem yields_port80Loop (hm : m.Regular) {historySize offset : UInt32} {codes : ByteVec}
    (hfits : codes.capacity < 2 ^ 31)
    (hroom : codes.length + 2 * (historySize.toNat - offset.toNat) ≤ codes.capacity) :
    Yields m (port80Loop historySize offset codes)
      (Answered fun codes => codes.capacity < 2 ^ 31) := by
  induction offset, codes using port80Loop.induct historySize with
  | case1 offset codes hlt ih =>
      rw [port80Loop, dif_pos hlt]
      refine (fine_view _).bind fun upstream _ => ?_
      refine yields_andThen (yields_port80ReadEntries hm _ _) fun entries hentries => ?_
      have hnext := toNat_nextOffset upstream.ecPort80SizeMax hlt
      have hcount := toNat_numEntries upstream.ecPort80SizeMax hlt
      have hmax := historySize.toNat_lt
      have hbelow : offset.toNat < historySize.toNat := hlt
      rw [hcount] at hentries
      have hgrown : codes.length + entries.length ≤ codes.capacity := by omega
      obtain ⟨hcapacity, hlength⟩ := extendFromSlice_of_room (m := m) hgrown
      refine (succeeds_view rfl :
        Yields m (view fun m => m.extendFromSlice codes entries) (· = _)).bind ?_
      rintro grown rfl
      refine (fine_checkArithmetic (decide_eq_true ?_)).bind fun _ _ => ih upstream _ ?_ ?_
      · omega
      · rwa [hcapacity]
      · rw [hcapacity, hlength, hnext]
        omega
  | case2 offset codes hle =>
      rw [port80Loop, dif_neg hle]
      exact succeeds_pure hfits

theorem yields_port80Read (hm : m.Regular) :
    Yields m port80Read (Answered fun history => history.codes.capacity < 2 ^ 31) := by
  refine yields_andThen (yields_ask hm .port80GetInfo) fun info hinfo => ?_
  refine (succeeds_view rfl : Yields m (view fun m => m.vecWithCapacity
    (info.historySize.toNat * 2)) (· = _)).bind ?_
  rintro codes rfl
  have hallocate := hm.allocate_lt (info.historySize.toNat * 2) (by omega)
  have henough := m.le_allocate (info.historySize.toNat * 2)
  have hloop : Yields m (port80Loop info.historySize 0
      (m.vecWithCapacity (info.historySize.toNat * 2)))
      (Answered fun codes => codes.capacity < 2 ^ 31) := by
    refine yields_port80Loop hm hallocate ?_
    show 0 + 2 * (info.historySize.toNat - 0) ≤ m.allocate (info.historySize.toNat * 2)
    omega
  exact yields_andThen hloop fun _ hcodes => succeeds_pure hcodes

theorem fine_intoFfi {data : BatteryData} (h : data.Fits) :
    Fine m (FrameworkSmartBatteryData.intoFfi data) := by
  obtain ⟨htexts, hblocks⟩ := h
  simp only [List.forall_mem_cons] at htexts hblocks
  obtain ⟨hname, hmanufacturer, hchemistry, -⟩ := htexts
  obtain ⟨hhealth, hfirmware, h₁, h₂, h₃, h₄, h₅, -⟩ := hblocks
  refine fine_bind (fine_fromVec hname) fun _ => fine_bind (fine_fromVec hmanufacturer) fun _ => ?_
  refine fine_bind (fine_fromVec hchemistry) fun _ => fine_bind (fine_fromVec hhealth) fun _ => ?_
  refine fine_bind (fine_fromVec hfirmware) fun _ => fine_bind (fine_fromVec h₁) fun _ => ?_
  refine fine_bind (fine_fromVec h₂) fun _ => fine_bind (fine_fromVec h₃) fun _ => ?_
  exact fine_bind (fine_fromVec h₄) fun _ => fine_bind (fine_fromVec h₅) fun _ => fine_pure _

/-! ### Versions -/

def PeripheralVersion.Fits (version : PeripheralVersion) : Prop :=
  version.productName.capacity < 2 ^ 31

theorem yields_readProductName (hm : m.Regular) (device : UsbDevice)
    (descriptor : UsbDeviceDescriptor) :
    Yields m (readProductName device descriptor) fun name => name.capacity < 2 ^ 31 := by
  have hempty : (OwnedString.exact "").capacity < 2 ^ 31 := by decide
  unfold readProductName
  cases descriptor.productStringIndex with
  | none => exact succeeds_pure hempty
  | some index =>
      refine (yields_ask hm (.usbReadStringDescriptor device.address index)).bind ?_
      rintro (_ | text) htext
      · exact succeeds_pure hempty
      · exact succeeds_pure (htext text rfl)

theorem yields_productName (hm : m.Regular) (device : UsbDevice)
    (descriptor : UsbDeviceDescriptor) :
    Yields m (productName device descriptor) fun name => name.capacity < 2 ^ 31 := by
  refine (fine_ask (.usbOpen device.address)).bind ?_
  rintro (_ | _) -
  · exact succeeds_pure (by decide)
  · exact yields_readProductName hm device descriptor

theorem yields_collectUsbVersion (hm : m.Regular) (isMatch : UsbMatch)
    {found : List PeripheralVersion} (hfound : ∀ version ∈ found, version.Fits)
    (device : UsbDevice) :
    Yields m (collectUsbVersion isMatch found device) fun found =>
      ∀ version ∈ found, version.Fits := by
  unfold collectUsbVersion
  cases device.deviceDescriptor with
  | none => exact succeeds_pure hfound
  | some descriptor =>
      dsimp only
      split_ifs
      · refine (yields_productName hm device descriptor).bind fun name hname => succeeds_pure ?_
        exact List.forall_mem_append.mpr ⟨hfound, List.forall_mem_singleton.mpr hname⟩
      · exact succeeds_pure hfound

theorem yields_collectUsbVersions (hm : m.Regular) (isMatch : UsbMatch) :
    Yields m (collectUsbVersions isMatch) fun found => ∀ version ∈ found, version.Fits := by
  refine (fine_ask .usbDevices).bind ?_
  rintro (_ | devices) -
  · exact succeeds_pure (List.forall_mem_nil _)
  · exact Succeeds.foldlM (fun _ device _ h => yields_collectUsbVersion hm isMatch h device)
      (List.forall_mem_nil _)

theorem fine_capePoll (device : UsbDevice) (interface : UInt8) (polls : ℕ)
    (response : List UInt8) : Fine m (capePoll device interface polls response) := by
  induction polls generalizing response with
  | zero => exact fine_pure _
  | succ polls ih =>
      refine fine_bind (fine_ask (.usbWriteControl _ _ _)) ?_
      rintro (_ | _)
      · exact fine_pure _
      · refine fine_bind (fine_ask (.usbReadControl _ _ _)) ?_
        rintro (_ | bytes)
        · exact fine_pure _
        · dsimp only
          split_ifs
          · exact fine_pure _
          · exact ih _

theorem fine_claimedExchange (device : UsbDevice) (interface : UInt8) :
    Fine m (claimedExchange device interface) := by
  refine fine_bind (fine_ask (.usbClaimInterface _ _)) ?_
  rintro (_ | _)
  · exact fine_pure _
  · exact fine_bind (fine_capePoll _ _ _ _) fun _ =>
      fine_bind (fine_ask (.usbReleaseInterface _ _)) fun _ => fine_pure _

theorem fine_audioCardResponse (device : UsbDevice) : Fine m (audioCardResponse device) := by
  refine fine_bind (fine_ask (.usbOpen _)) ?_
  rintro (_ | _)
  · exact fine_pure _
  · refine fine_bind (fine_bind (fine_ask (.usbActiveConfig _)) fun _ => fine_pure _) ?_
    rintro (_ | interface)
    · exact fine_pure _
    · exact fine_claimedExchange device interface

theorem yields_audioCardVersionOf (hm : m.Regular) (device : UsbDevice) :
    Yields m (audioCardVersionOf device) fun found => ∀ version ∈ found, version.Fits := by
  unfold audioCardVersionOf
  cases device.deviceDescriptor with
  | none => exact succeeds_pure (by simp)
  | some descriptor =>
      dsimp only
      split_ifs
      · exact succeeds_pure (by simp)
      · refine (fine_audioCardResponse device).bind ?_
        rintro (_ | response) -
        · exact succeeds_pure (by simp)
        · refine (yields_readProductName hm device descriptor).bind fun name hname =>
            succeeds_pure ?_
          rintro version ⟨⟩
          exact hname

theorem yields_firstAudioCard (hm : m.Regular) (devices : List UsbDevice) :
    Yields m (firstAudioCard devices) fun found => ∀ version ∈ found, version.Fits := by
  induction devices with
  | nil => exact succeeds_pure (by simp)
  | cons device devices ih =>
      refine (yields_audioCardVersionOf hm device).bind ?_
      rintro (_ | version) hversion
      · exact ih
      · exact succeeds_pure hversion

theorem yields_audioCardVersions (hm : m.Regular) :
    Yields m audioCardVersions fun found => ∀ version ∈ found, version.Fits := by
  have hcard : Yields m audioCardVersion fun found => ∀ version ∈ found, version.Fits :=
    yields_andThenSome (P := fun _ => True) ((fine_ask .usbDevices).mono fun _ _ _ _ => trivial)
      fun devices _ => yields_firstAudioCard hm devices
  exact hcard.bind fun found hfound => succeeds_pure (by simpa using hfound)

theorem fine_peripheralSlots {found : List PeripheralVersion}
    (h : ∀ version ∈ found, version.Fits) : Fine m (peripheralSlots found) := by
  refine Succeeds.foldlM (J := fun _ => True) (fun versions round hround _ => ?_) trivial
  have hfits : round.2.Fits := h _ (List.of_mem_zip hround).2
  exact fine_bind (fine_fromVec hfits) fun _ => fine_pure _

/-! ### Records -/

theorem fine_flashVersions {reply : OwnedString × OwnedString × EcCurrentImage}
    (h : reply.1.capacity < 2 ^ 31 ∧ reply.2.1.capacity < 2 ^ 31) : Fine m (flashVersions reply) :=
  fine_bind (fine_fromVec h.1) fun _ => fine_bind (fine_fromVec h.2) fun _ => fine_pure _

theorem fine_powerSnapshot {powerInfo : PowerInfo}
    (h : ∀ battery ∈ powerInfo.battery, battery.Fits) : Fine m (powerSnapshot powerInfo) := by
  unfold powerSnapshot
  cases hbattery : powerInfo.battery with
  | none => exact fine_pure _
  | some battery =>
      obtain ⟨hmanufacturer, hmodel, hserial, htype⟩ := h battery hbattery
      refine fine_bind ?_ fun _ => fine_pure _
      exact fine_bind (fine_fromVec hmanufacturer) fun _ => fine_bind (fine_fromVec hmodel) fun _ =>
        fine_bind (fine_fromVec hserial) fun _ => fine_bind (fine_fromVec htype) fun _ =>
          fine_pure _

theorem fine_retimerRecord {version : Option ByteVec}
    (h : ∀ bytes ∈ version, bytes.capacity < 2 ^ 31) : Fine m (retimerRecord version) := by
  cases version with
  | none => exact fine_pure _
  | some version => exact fine_bind (fine_fromVec (h version rfl)) fun _ => fine_pure _

theorem fine_nvmeRecord {info : NvmeInfo}
    (h : info.modelNumber.capacity < 2 ^ 31 ∧ info.firmwareVersion.capacity < 2 ^ 31) :
    Fine m (nvmeRecord info) :=
  fine_bind (fine_fromVec h.1) fun _ => fine_bind (fine_fromVec h.2) fun _ => fine_pure _

/-! ### The expansion bay and the inventory -/

/-- The upstream helper does not panic on a serial number that is a text. -/
theorem yields_crosEcGetGpuSerial (hm : m.Regular) :
    Yields m crosEcGetGpuSerial fun serial =>
      ∀ text, serial = .ok text → text.capacity < 2 ^ 31 := by
  refine (yields_ask hm (.getGpuSerial 0)).bind fun reply hreply => ?_
  refine (succeeds_view rfl : Yields m (view Machine.upstream) (· = m.upstream)).bind ?_
  rintro upstream rfl
  cases hserial : m.upstream.getGpuSerial reply with
  | some serial =>
      refine succeeds_pure fun text htext => ?_
      rw [htext] at hserial
      exact hm.unwrapsSerial.capacity_lt reply text hserial
  | none =>
      obtain ⟨response, error, hresponse, hgarbled⟩ :=
        (hm.unwrapsSerial.eq_none_iff reply).mp hserial
      rw [hresponse] at hreply
      obtain ⟨text, htext⟩ := hreply
      rw [htext] at hgarbled
      cases hgarbled

theorem fine_bayOfReplies (hm : m.Regular) (info : EcResponseExpansionBayStatus)
    (gpu : EcResponseGetGpuPcie) : Fine m (bayOfReplies info gpu) := by
  have hserial : ∀ serial : EcResult OwnedString,
      (∀ text, serial = .ok text → text.capacity < 2 ^ 31) → Fine m (serialBuffer serial) := by
    rintro (error | text) h
    · exact fine_pure _
    · exact fine_fromVec (h text rfl)
  have hpd : ∀ hasUsbCPort, Fine m (bayPdPortState hasUsbCPort) := by
    intro hasUsbCPort
    unfold bayPdPortState
    split_ifs
    · exact fine_queryPdPortState 4
    · exact fine_pure _
  exact (yields_crosEcGetGpuSerial hm).bind fun serial h =>
    fine_bind (hserial serial h) fun _ => fine_bind (hpd _) fun _ => fine_pure _

theorem yields_expansionBayStatus (hm : m.Regular) :
    Yields m expansionBayStatus (Ends (fun _ => True) fun _ => True) :=
  yields_andThen (yields_query (yields_ask hm .expansionBayStatus)) fun info _ =>
    yields_andThen (yields_query (yields_ask hm .getGpuPcie)) fun gpu _ =>
      (fine_bayOfReplies hm info gpu).bind fun _ _ => succeeds_pure trivial

theorem yields_ensureDescriptorPresent (hm : m.Regular) :
    Yields m ensureDescriptorPresent (Ends (fun _ => True) fun _ => True) := by
  refine yields_andThen (yields_expansionBayStatus hm) fun bay _ => ?_
  split_ifs
  · exact succeeds_pure trivial
  · exact succeeds_pure trivial

theorem fine_readHeader (hm : m.Regular) : Fine m readHeader :=
  fine_andThen (yields_ensureDescriptorPresent hm) fun _ _ =>
    fine_andThen (yields_query (yields_ask hm .readGpuDescHeader)) fun _ _ => fine_pure _

theorem fine_readRawDescriptor (hm : m.Regular) : Fine m readRawDescriptor := by
  refine fine_andThen (yields_ensureDescriptorPresent hm) fun _ _ => ?_
  refine fine_andThen (yields_query (yields_ask hm .readGpuDescriptor)) fun descriptor hfits => ?_
  unfold descriptorBuffer
  split_ifs
  · exact fine_pure _
  · exact fine_bind (fine_fromVec hfits) fun _ => fine_pure _

theorem yields_validate (hm : m.Regular) (expectedDescriptor : List UInt8) :
    Yields m (validate expectedDescriptor) (Ends (fun _ => True) fun _ => True) :=
  yields_andThen (yields_ensureDescriptorPresent hm) fun _ _ =>
    yields_query (yields_ask hm (.validateGpuDescriptor expectedDescriptor))

theorem yields_addFeatureFlag (hm : m.Regular) (feature : EcFeatureCode)
    (flag : FrameworkEcFeatureFlag) (flags : UInt64) :
    Yields m (addFeatureFlag feature flag flags) (Ends (fun _ => True) fun _ => True) :=
  yields_andThen (yields_featureEnabled hm feature) fun _ _ => succeeds_pure trivial

theorem fine_featureFlags (hm : m.Regular) : Fine m featureFlags := by
  iterate 5 refine fine_andThen (yields_addFeatureFlag hm _ _ _) fun _ _ => ?_
  exact fine_of_yields (yields_addFeatureFlag hm _ _ _)

theorem short_replyMessages {α : Type} {P : α → Prop} {reply : EcResult α}
    (h : Answered P reply) : ∀ message ∈ replyMessages reply, Short message := by
  cases reply with
  | ok a => exact List.forall_mem_nil _
  | error error => exact h

theorem short_swallowedMessages (hm : m.Regular) (w : World) :
    ∀ message ∈ m.swallowedMessages w, Short message := by
  have hfeatures : ∀ message ∈ m.featureMessages w (inventoryPolls m.family), Short message := by
    intro message hmessage
    obtain ⟨k, -, hreply⟩ := List.mem_flatMap.mp hmessage
    exact short_replyMessages (hm.fits .getFeatures _) message hreply
  have hbay : Answered (fun _ => True) (m.bayReplies w) :=
    (hm.fits .expansionBayStatus _).bind fun _ _ => (hm.fits .getGpuPcie _).map fun _ _ => trivial
  exact List.forall_mem_append.mpr ⟨hfeatures, short_replyMessages hbay⟩

theorem fine_buildModuleInventory (hm : m.Regular) : Fine m buildModuleInventory := by
  intro w hw
  have hserial : m.SerialValid w := by
    intro response hresponse
    have hfits := hm.fits (.getGpuSerial 0) (w.asked (.getGpuSerial 0))
    rw [show m.answer (.getGpuSerial 0) (w.asked (.getGpuSerial 0)) = .ok response from
      hresponse] at hfits
    exact hfits
  obtain ⟨inventory, w', hr⟩ :=
    (completes_buildModuleInventory hm.unwrapsSerial).mpr fun _ => hserial
  obtain ⟨-, -, -, herrors⟩ := returns_buildModuleInventory_lasting hr
  refine ⟨inventory, w', hr, ?_, trivial⟩
  unfold World.Fits
  rw [herrors]
  exact fits_storeAll hw (short_swallowedMessages hm w)

end Queries

end FrameworkFfi
