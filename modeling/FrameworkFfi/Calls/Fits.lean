import FrameworkFfi.Calls.Handling
import FrameworkFfi.Calls.Texts
import FrameworkFfi.Library.Program.Succeeds

/-!
# Machines whose answers fit

What the exported functions rely on and do not check: sizes that the buffer
records can hold, memory reads that answer as many bytes as were asked for, and
words that stay in the range of their type. A machine is regular when all its
answers are like this. On a regular machine a program is `Fine` when it returns
from every world whose stored messages are short, and keeps them short.
-/

namespace FrameworkFfi

open Effect

/-! ### Answers -/

/-- Every word of the configuration can be reported in degrees Celsius. -/
def EcThermalConfig.Fits (cfg : EcThermalConfig) : Prop :=
  (∀ i, thresholdFits (cfg.tempHost i) = true) ∧
    (∀ i, thresholdFits (cfg.tempHostRelease i) = true) ∧
      thresholdFits cfg.tempFanOff = true ∧ thresholdFits cfg.tempFanMax = true

def BatteryInformation.Fits (battery : BatteryInformation) : Prop :=
  battery.manufacturer.capacity < 2 ^ 31 ∧ battery.modelNumber.capacity < 2 ^ 31 ∧
    battery.serialNumber.capacity < 2 ^ 31 ∧ battery.batteryType.capacity < 2 ^ 31

def BatteryData.Fits (data : BatteryData) : Prop :=
  (∀ text ∈ [data.deviceName, data.manufacturerName, data.deviceChemistry],
    text.capacity < 2 ^ 31) ∧
  ∀ block ∈ [data.stateOfHealth, data.firmwareVersion, data.lifetime1, data.lifetime2,
    data.lifetime3, data.lifetime4, data.lifetime5], block.capacity < 2 ^ 31

def HostRequest.Fits : (request : HostRequest) → request.Reply → Prop
  | .getProductName, reply => ∀ name ∈ reply, name.capacity < 2 ^ 31
  | .versionInfo, reply => Answered (fun info => info.capacity < 2 ^ 31) reply
  | .flashVersion, reply =>
      ∀ versions ∈ reply, versions.1.capacity < 2 ^ 31 ∧ versions.2.1.capacity < 2 ^ 31
  | .powerInfo, reply => ∀ info ∈ reply, ∀ battery ∈ info.battery, battery.Fits
  | .readMemory _ length, reply => ∀ memory ∈ reply, length.toNat ≤ memory.length
  | .getPdInfo _, reply => ∀ info ∈ reply, Answered (fun _ => True) info
  | .getGpuSerial _, reply =>
      Answered (fun response => ∃ text, fromUtf8 response.serial = .ok text) reply
  | .readGpuDescriptor, reply => Answered (fun descriptor => descriptor.capacity < 2 ^ 31) reply
  | .getPanicInfo, reply => Answered (fun data => data.capacity < 2 ^ 31) reply
  | .port80GetInfo, reply => Answered (fun info => info.historySize.toNat < 2 ^ 29) reply
  | .getThermalThreshold _, reply => Answered EcThermalConfig.Fits reply
  | .tempSensorGetInfo _, reply => Answered (fun info => info.sensorName.length < 2 ^ 31) reply
  | .collectSmartBattery _, reply => Answered BatteryData.Fits reply
  | .getRetimerVersion, reply =>
      Answered (fun version => ∀ bytes ∈ version, bytes.capacity < 2 ^ 31) reply
  | .gpioGetInfo _, reply => Answered (fun info => info.name.length < 2 ^ 31) reply
  | .usbReadStringDescriptor _ _, reply => ∀ text ∈ reply, text.capacity < 2 ^ 31
  | .getNvmeFirmwareVersion _, reply =>
      ∀ info ∈ reply, info.modelNumber.capacity < 2 ^ 31 ∧ info.firmwareVersion.capacity < 2 ^ 31
  | .checkMemMagic, reply | .getFeatures, reply | .getKeyboardBacklight, reply
  | .getFpLedLevel, reply | .setFpLedLevel _, reply | .setFpLedPercentage _, reply
  | .getPrivacyInfo, reply | .getChargeLimit, reply | .setChargeLimit _ _, reply
  | .setChargeCurrentLimit _ _, reply | .setChargeRateLimit _ _, reply | .readBoardId _, reply
  | .readBoardIdHc _, reply | .getPdPortState _, reply | .isCharging, reply
  | .motionsenseSensorInfo, reply | .getIntrusionStatus, reply | .getUptimeInfo, reply
  | .getS0ixCounter, reply | .resetS0ixCounter, reply | .setTabletMode _, reply
  | .setInputDeckMode _, reply | .getInputDeckStatus, reply | .expansionBayStatus, reply
  | .getGpuPcie, reply | .readGpuDescHeader, reply | .validateGpuDescriptor _, reply
  | .fanSetRpm _ _, reply | .fanSetDuty _ _, reply | .autofanctrl _, reply | .hello _, reply
  | .getProtocolInfo, reply | .sysinfo, reply | .port80ReadBuffer _ _, reply
  | .getApThrottleStatus, reply | .setThermalThresholds _ _ _ _ _ _, reply
  | .authenticateBattery _, reply | .getFanNum, reply | .getEcHibDelay, reply
  | .setEcHibDelay _, reply | .adcRead _, reply | .cmdVersionSupported _ _, reply
  | .getPdControllerVersions, reply | .rgbkbdSetColor _ _, reply | .remapKey _ _ _, reply
  | .remapCapsToCtrl, reply | .ps2EmulationEnable _, reply | .getGpio _, reply
  | .setGpio _ _, reply | .gpioGetCount, reply => Answered (fun _ => True) reply
  | .crosEcWith _, _ | .crosEcDevPathExists, _ | .setKeyboardBacklight _, _
  | .getCutoffStatus, _ | .isStandalone, _ | .standaloneMode, _ | .findExpansionCardDevices, _
  | .hidDeviceList, _ | .enableTouch _, _ | .getStylusBatteryLevel, _
  | .setHapticIntensity _, _ | .setClickForce _, _ | .usbDevices, _ | .usbOpen _, _
  | .usbActiveConfig _, _ | .usbClaimInterface _ _, _ | .usbWriteControl _ _ _, _
  | .usbReadControl _ _ _, _ | .usbReleaseInterface _ _, _ => True

/-- A machine whose allocations and answers fit the records of this crate, and whose
`framework_lib` panics on a garbled serial number only. -/
structure Machine.Regular (m : Machine) : Prop where
  allocate_lt : ∀ size, size < 2 ^ 30 → m.allocate size < 2 ^ 31
  unwrapsSerial : m.upstream.UnwrapsSerial
  fits : ∀ (request : HostRequest) (asked : ℕ), request.Fits (m.answer request asked)

/-- Replacing the answers to one request leaves the others as they are. -/
theorem Machine.Regular.answering {m : Machine} (hm : m.Regular) {request : HostRequest}
    {reply : request.Reply} (h : request.Fits reply) : (m.answering request reply).Regular where
  allocate_lt := hm.allocate_lt
  unwrapsSerial := hm.unwrapsSerial
  fits other asked := by
    by_cases hother : request = other
    · subst hother
      rw [Machine.answer_answering_self]
      exact h
    · have hanswer : (m.answering request reply).answer other asked = m.answer other asked :=
        dif_neg hother
      rw [hanswer]
      exact hm.fits other asked

/-- Every stored message is short. -/
def World.Fits (w : World) : Prop := ∀ entry ∈ w.errors.deviceErrorMessages, Short entry.2

theorem fits_fresh : World.fresh.Fits := List.forall_mem_nil _

theorem fits_storeAll {store : DeviceErrorStore} {messages : List String}
    (hstore : ∀ entry ∈ store.deviceErrorMessages, Short entry.2)
    (hmessages : ∀ message ∈ messages, Short message) :
    ∀ entry ∈ (store.storeAll messages).deviceErrorMessages, Short entry.2 := by
  induction messages generalizing store with
  | nil => exact hstore
  | cons message messages ih =>
      rw [List.forall_mem_cons] at hmessages
      refine ih ?_ hmessages.2
      intro entry hentry
      rw [DeviceErrorStore.deviceErrorMessages_storeDeviceErrorMessage] at hentry
      rcases BoundedQueue.mem_of_mem_push hentry with hold | rfl
      · exact hstore entry hold
      · exact hmessages.1

/-! ### Programs on a regular machine -/

/-- The program returns a value with this property and keeps the messages short. -/
abbrev Yields (m : Machine) {α : Type} (p : Ffi α) (P : α → Prop) : Prop :=
  Succeeds m World.Fits p P

/-- The program returns and keeps the messages short. -/
abbrev Fine (m : Machine) {α : Type} (p : Ffi α) : Prop := Yields m p fun _ => True

section Rules

variable {m : Machine} {α β ε : Type} {P : α → Prop}

theorem fine_of_yields {p : Ffi α} (h : Yields m p P) : Fine m p := h.mono fun _ _ => trivial

theorem fine_pure (a : α) : Fine m (pure a) := succeeds_pure trivial

theorem fine_bind {p : Ffi α} {k : α → Ffi β} (hp : Fine m p) (hk : ∀ a, Fine m (k a)) :
    Fine m (p >>= k) :=
  hp.bind fun a _ => hk a

theorem fine_view (f : Machine → α) : Fine m (view f) := succeeds_view trivial

theorem yields_ask (hm : m.Regular) (request : HostRequest) :
    Yields m (ask request) request.Fits :=
  succeeds_act fun w hw => ⟨hw, hm.fits request (w.asked request)⟩

theorem fine_ask (request : HostRequest) : Fine m (ask request) :=
  succeeds_act fun _ hw => ⟨hw, trivial⟩

theorem fine_statusFromError {error : EcError} (h : error.Short) :
    Fine m (statusFromError error) := by
  intro w hw
  obtain ⟨status, w', hr⟩ := (safe_statusFromError error).returns m w
  refine ⟨status, w', hr, ?_, trivial⟩
  obtain ⟨hworld, -, -⟩ := returns_statusFromError hr
  unfold World.Fits
  rw [hworld]
  exact fits_storeAll hw h

theorem yields_orStatus {result : EcResult α} (h : Answered P result) :
    Yields m (orStatus result) (Ends (fun _ => True) P) := by
  cases result with
  | ok a => exact succeeds_pure h
  | error error =>
      exact (fine_statusFromError h).bind fun status _ => succeeds_pure trivial

theorem yields_andThen {first : Ffi (Except ε α)} {rest : α → Ffi (Except ε β)} {E : ε → Prop}
    {Q : β → Prop} (hfirst : Yields m first (Ends E P))
    (hrest : ∀ a, P a → Yields m (rest a) (Ends E Q)) :
    Yields m (andThen first rest) (Ends E Q) := by
  refine hfirst.bind ?_
  rintro (error | a) h
  · exact succeeds_pure h
  · exact hrest a h

theorem fine_andThen {first : Ffi (Except ε α)} {rest : α → Ffi (Except ε β)} {E : ε → Prop}
    (hfirst : Yields m first (Ends E P)) (hrest : ∀ a, P a → Fine m (rest a)) :
    Fine m (andThen first rest) := by
  refine hfirst.bind ?_
  rintro (error | a) h
  · exact fine_pure _
  · exact hrest a h

theorem yields_query {query : Ffi (EcResult α)} (h : Yields m query (Answered P)) :
    Yields m (do orStatus (← query)) (Ends (fun _ => True) P) :=
  h.bind fun _ hreply => yields_orStatus hreply

theorem yields_andThenSome {first : Ffi (Option α)} {rest : α → Ffi (Option β)} {Q : β → Prop}
    (hfirst : Yields m first fun found => ∀ a ∈ found, P a)
    (hrest : ∀ a, P a → Yields m (rest a) fun found => ∀ b ∈ found, Q b) :
    Yields m (andThenSome first rest) fun found => ∀ b ∈ found, Q b := by
  refine hfirst.bind ?_
  rintro (_ | a) h
  · exact succeeds_pure (by simp)
  · exact hrest a (h a rfl)

theorem fine_ecReply {query : Ffi (EcResult α)} {record : α → Ffi β}
    (hquery : Yields m query (Answered P)) (hrecord : ∀ a, P a → Fine m (record a)) :
    Fine m (ecReply query record) := by
  refine hquery.bind fun reply hreply => ?_
  exact fine_andThen (yields_orStatus hreply) fun a ha =>
    fine_bind (hrecord a ha) fun _ => fine_pure _

theorem fine_someReply {query : Ffi (Option α)} {record : α → Ffi β}
    (hquery : Yields m query fun found => ∀ a ∈ found, P a)
    (hrecord : ∀ a, P a → Fine m (record a)) : Fine m (someReply query record) := by
  refine hquery.bind ?_
  rintro (_ | a) h
  · exact fine_pure _
  · exact fine_bind (hrecord a (h a rfl)) fun _ => fine_pure _

theorem fine_reporting {buffers : α → List FrameworkByteBuffer} {empty : α}
    {query : Ffi (StatusResult α)} (h : Fine m query) :
    Fine m (reporting buffers (exportedQuery empty query)) :=
  fine_bind (fine_bind h fun _ => fine_pure _) fun _ => fine_pure _

/-- A call on a handle needs no more than a query that is fine. -/
theorem fine_exported {buffers : α → List FrameworkByteBuffer} {empty : α}
    {query : FrameworkEcHandle → Ffi (StatusResult α)} (h : ∀ opened, Fine m (query opened))
    (handle : HandlePtr) : Fine m (reporting buffers (exported handle empty query)) := by
  refine fine_reporting ?_
  cases handle with
  | none => exact fine_pure _
  | some opened => exact h opened

theorem fine_exportedStatus {command : FrameworkEcHandle → Ffi (StatusResult Unit)}
    (h : ∀ opened, Fine m (command opened)) (handle : HandlePtr) :
    Fine m (statusOnly (exportedStatus handle command)) := by
  rw [statusOnly_exportedStatus]
  exact fine_exported h handle

theorem fine_checked {check : StatusResult α} {rest : α → Ffi (StatusResult β)}
    (h : ∀ a, check = .ok a → Fine m (rest a)) : Fine m (andThen (pure check) rest) := by
  cases check with
  | ok a => exact h a rfl
  | error status => exact fine_pure _

theorem fine_unreported {p : Ffi α} (h : Fine m p) : Fine m (unreported p) :=
  fine_bind h fun _ => fine_pure _

theorem fine_doneStatus {p : Ffi Bool} (h : Fine m p) : Fine m (statusOnly (doneStatus p)) :=
  fine_bind (fine_bind h fun _ => fine_pure _) fun _ => fine_pure _

/-! ### Sizes and bytes -/

theorem fine_fromVec {bytes : ByteVec} (h : bytes.capacity < 2 ^ 31) :
    Fine m (FrameworkByteBuffer.fromVec bytes) := fun _ hw =>
  ⟨_, _, FrameworkByteBuffer.returns_fromVec.mpr ⟨h, rfl, rfl⟩, hw, trivial⟩

theorem fine_byteAt {data : List UInt8} {index : ℕ} (h : index < data.length) :
    Fine m (byteAt data index) := by
  have hbyte : byteAt data index = pure data[index] := by
    rw [byteAt, List.getElem?_eq_getElem h]
  rw [hbyte]
  exact fine_pure _

theorem fine_checkArithmetic {fits : Bool} (h : fits = true) : Fine m (checkArithmetic fits) :=
  fun w hw => ⟨(), w, returns_checkArithmetic.mpr ⟨rfl, fun _ => h⟩, hw, trivial⟩

end Rules

end FrameworkFfi
