import FrameworkFfi.Accounting.Accounts
import FrameworkFfi.Exports.System
import FrameworkFfi.Exports.Controls
import FrameworkFfi.Exports.Diagnostics
import FrameworkFfi.Exports.Thermal
import FrameworkFfi.Exports.Versions
import FrameworkFfi.Port80

/-!
# Queries without a lasting effect

The queries and detectors behind the exported functions only make requests.
-/

namespace FrameworkFfi

open Effect

section Rules

variable {ε α β : Type}

theorem quiet_checkArithmetic (fits : Bool) : Quiet (checkArithmetic fits) := by
  refine (keeps_view _).bind fun overflowChecks => ?_
  split_ifs
  · exact keeps_abort _
  · exact keeps_pure _

theorem quiet_byteAt (data : List UInt8) (index : ℕ) : Quiet (byteAt data index) := by
  unfold byteAt
  cases data[index]? with
  | none => exact keeps_abort _
  | some byte => exact keeps_pure byte

theorem quiet_andThenSome {first : Ffi (Option α)} {rest : α → Ffi (Option β)}
    (hfirst : Quiet first) (hrest : ∀ a, Quiet (rest a)) : Quiet (andThenSome first rest) := by
  refine hfirst.bind fun a => ?_
  cases a with
  | none => exact keeps_pure _
  | some a => exact hrest a

theorem quiet_converted (request : HostRequest) (convert : request.Reply → β) :
    Quiet (do let reply ← ask request; pure (convert reply)) :=
  (quiet_ask request).bind fun _ => keeps_pure _

end Rules

/-! ### Drivers and statuses -/

theorem quiet_openDriver (driverType : CrosEcDriverType) (driver : FrameworkEcDriver) :
    Quiet (openDriver driverType driver) :=
  quiet_converted _ _

theorem quiet_orElseHandle {first rest : Ffi (Option FrameworkEcHandle)} (hfirst : Quiet first)
    (hrest : Quiet rest) : Quiet (orElseHandle first rest) := by
  refine hfirst.bind fun handle => ?_
  cases handle with
  | none => exact hrest
  | some handle => exact keeps_pure _

theorem quiet_defaultEcHandle : Quiet defaultEcHandle := by
  refine quiet_orElseHandle ?_ (quiet_orElseHandle ?_ ?_)
  · refine (keeps_view _).bind fun targetOs => ?_
    split_ifs
    · exact quiet_openDriver _ _
    · exact keeps_pure _
  · refine (keeps_view _).bind fun targetOs => ?_
    split_ifs
    · refine (quiet_ask _).bind fun pathExists => ?_
      cases pathExists with
      | true => exact quiet_openDriver _ _
      | false => exact keeps_pure _
    · exact keeps_pure _
  · refine (keeps_view _).bind fun targetOs => (keeps_view _).bind fun x86_64 => ?_
    split_ifs
    · exact quiet_openDriver _ _
    · exact keeps_pure _

theorem quiet_driverIsSupported (driver : FrameworkEcDriver) :
    Quiet (driverIsSupported driver) := by
  unfold driverIsSupported
  cases CrosEcDriverType.tryFrom driver with
  | none => exact keeps_pure _
  | some driverType => exact quiet_ask _

theorem quiet_deviceErrorMessageOf (status : FrameworkStatus) :
    Quiet (deviceErrorMessageOf status) := by
  unfold deviceErrorMessageOf
  cases status.deviceErrorMessageToken with
  | none => exact keeps_pure _
  | some token => exact (keeps_act fun _ _ => rfl).bind fun _ => keeps_pure _

/-! ### Temperatures, fans and sensors -/

theorem quiet_readFans (fans : List UInt8) : Quiet (readFans fans) :=
  Keeps.foldlM (fun _ _ => (quiet_byteAt _ _).bind fun _ => (quiet_byteAt _ _).bind fun _ =>
    keeps_pure _) _ _

theorem quiet_thermalSnapshot : Quiet thermalSnapshot :=
  quiet_andThenSome (quiet_ask _) fun _ => quiet_andThenSome (quiet_ask _) fun fans =>
    (quiet_readFans fans).bind fun _ => keeps_pure _

theorem quiet_buildThermalSnapshot : Quiet buildThermalSnapshot :=
  quiet_andThenSome quiet_thermalSnapshot fun _ => keeps_view _

theorem quiet_thresholdCelsius (kelvin : UInt32) : Quiet (thresholdCelsius kelvin) :=
  (quiet_checkArithmetic _).bind fun _ => keeps_pure _

theorem quiet_getThermalThresholds (sensorIndex : UInt32) :
    Quiet (getThermalThresholds sensorIndex) := by
  refine keeps_andThen (quiet_ask _) fun cfg => Keeps.bind ?_ fun _ => keeps_pure _
  iterate 8 refine (quiet_thresholdCelsius _).bind fun _ => ?_
  exact keeps_pure _

theorem quiet_getApThrottle : Quiet getApThrottle :=
  keeps_andThen (quiet_ask .getApThrottleStatus) fun _ => keeps_pure _

theorem quiet_getTempSensorInfo (index : UInt8) : Quiet (getTempSensorInfo index) :=
  keeps_andThen (quiet_ask (.tempSensorGetInfo index)) fun _ => keeps_pure _

theorem quiet_standaloneState : Quiet standaloneState :=
  (quiet_ask .isStandalone).bind fun _ => quiet_converted _ _

theorem quiet_u16At (data : List UInt8) (offset : ℕ) : Quiet (u16At data offset) :=
  (quiet_byteAt _ _).bind fun _ => (quiet_byteAt _ _).bind fun _ => keeps_pure _

theorem quiet_i16At (data : List UInt8) (offset : ℕ) : Quiet (i16At data offset) :=
  (quiet_u16At _ _).bind fun _ => keeps_pure _

theorem quiet_getAccelData : Quiet getAccelData := by
  refine quiet_andThenSome (quiet_ask _) fun lidRaw => ?_
  refine quiet_andThenSome (quiet_ask _) fun baseRaw => ?_
  refine quiet_andThenSome (quiet_ask _) fun lidAccelRaw => Keeps.bind ?_ fun _ => keeps_pure _
  refine (quiet_u16At _ _).bind fun _ => ?_
  iterate 6 refine (quiet_i16At _ _).bind fun _ => ?_
  exact keeps_pure _

theorem quiet_getAls : Quiet getAls :=
  quiet_andThenSome (quiet_ask _) fun _ => (quiet_u16At _ _).bind fun _ =>
    (quiet_u16At _ _).bind fun _ => keeps_pure _

theorem quiet_firstActivePort (ports : List UInt8) : Quiet (firstActivePort ports) := by
  induction ports with
  | nil => exact keeps_pure _
  | cons port ports ih =>
      refine (quiet_converted _ _ : Quiet (queryPdPortState port)).bind fun state => ?_
      split_ifs
      · exact keeps_pure _
      · exact ih

/-! ### Diagnostics -/

theorem quiet_u32At (data : List UInt8) (offset : ℕ) : Quiet (u32At data offset) :=
  (quiet_byteAt _ _).bind fun _ => (quiet_byteAt _ _).bind fun _ =>
    (quiet_byteAt _ _).bind fun _ => (quiet_byteAt _ _).bind fun _ => keeps_pure _

theorem quiet_parsePanicInfo (data : ByteVec) : Quiet (parsePanicInfo data) :=
  (keeps_view _).bind fun _ => (quiet_u32At _ _).bind fun _ => (quiet_u32At _ _).bind fun _ =>
    (quiet_byteAt _ _).bind fun _ => (quiet_byteAt _ _).bind fun _ =>
      (quiet_byteAt _ _).bind fun _ => keeps_pure _

theorem quiet_getPanicInfo : Quiet getPanicInfo := by
  refine keeps_andThen (quiet_ask _) fun data => ?_
  split_ifs
  · exact keeps_pure _
  · exact (quiet_parsePanicInfo data).bind fun _ => keeps_pure _

theorem lasting_recordAll (w : World) (requests : List HostRequest) :
    (w.recordAll requests).lasting = w.lasting := by
  induction requests generalizing w with
  | nil => rfl
  | cons request requests ih => exact ih (w.record request)

/-- The loop only makes requests: that is what its run lemma says. -/
theorem quiet_port80Loop (historySize offset : UInt32) (codes : ByteVec) :
    Quiet (port80Loop historySize offset codes) := by
  intro m w result w' h
  have hparts : ∀ c ∈ m.port80Chunks offset historySize,
      m.port80Part w c = m.port80Part w c := fun _ _ => rfl
  obtain ⟨-, rfl⟩ := h.unique (returns_port80Loop offset codes w (m.port80Part w) hparts)
  exact lasting_recordAll w _

theorem quiet_port80Read : Quiet port80Read :=
  keeps_andThen (quiet_ask _) fun _ => (keeps_view _).bind fun _ =>
    keeps_andThen (quiet_port80Loop _ _ _) fun _ => keeps_pure _

/-! ### Versions -/

theorem quiet_readProductName (device : UsbDevice) (descriptor : UsbDeviceDescriptor) :
    Quiet (readProductName device descriptor) := by
  unfold readProductName
  cases descriptor.productStringIndex with
  | none => exact keeps_pure _
  | some index => exact quiet_converted _ _

theorem quiet_collectUsbVersion (isMatch : UsbMatch) (found : List PeripheralVersion)
    (device : UsbDevice) : Quiet (collectUsbVersion isMatch found device) := by
  unfold collectUsbVersion
  cases device.deviceDescriptor with
  | none => exact keeps_pure _
  | some descriptor =>
      dsimp only
      split_ifs
      · refine Keeps.bind ((quiet_ask _).bind fun opened => ?_) fun _ => keeps_pure _
        cases opened with
        | true => exact quiet_readProductName device descriptor
        | false => exact keeps_pure _
      · exact keeps_pure _

theorem quiet_collectUsbVersions (isMatch : UsbMatch) : Quiet (collectUsbVersions isMatch) := by
  refine (quiet_ask _).bind fun devices => ?_
  cases devices with
  | none => exact keeps_pure _
  | some devices => exact Keeps.foldlM (quiet_collectUsbVersion isMatch) devices []

theorem quiet_capePoll (device : UsbDevice) (interface : UInt8) (polls : ℕ)
    (response : List UInt8) : Quiet (capePoll device interface polls response) := by
  induction polls generalizing response with
  | zero => exact keeps_pure _
  | succ polls ih =>
      refine (quiet_ask _).bind fun wrote => ?_
      cases wrote with
      | false => exact keeps_pure _
      | true =>
          refine (quiet_ask _).bind fun bytes => ?_
          cases bytes with
          | none => exact keeps_pure _
          | some bytes =>
              dsimp only
              split_ifs
              · exact keeps_pure _
              · exact ih _

theorem quiet_claimedExchange (device : UsbDevice) (interface : UInt8) :
    Quiet (claimedExchange device interface) := by
  refine (quiet_ask _).bind fun claimed => ?_
  cases claimed with
  | false => exact keeps_pure _
  | true => exact (quiet_capePoll _ _ _ _).bind fun _ => quiet_converted _ _

theorem quiet_audioCardResponse (device : UsbDevice) : Quiet (audioCardResponse device) := by
  refine (quiet_ask _).bind fun opened => ?_
  cases opened with
  | false => exact keeps_pure _
  | true => exact quiet_andThenSome (quiet_converted _ _) (quiet_claimedExchange device)

theorem quiet_audioCardVersionOf (device : UsbDevice) : Quiet (audioCardVersionOf device) := by
  unfold audioCardVersionOf
  cases device.deviceDescriptor with
  | none => exact keeps_pure _
  | some descriptor =>
      dsimp only
      split_ifs
      · exact keeps_pure _
      · exact quiet_andThenSome (quiet_audioCardResponse device) fun _ =>
          (quiet_readProductName device descriptor).bind fun _ => keeps_pure _

theorem quiet_firstAudioCard (devices : List UsbDevice) : Quiet (firstAudioCard devices) := by
  induction devices with
  | nil => exact keeps_pure _
  | cons device devices ih =>
      refine (quiet_audioCardVersionOf device).bind fun version => ?_
      cases version with
      | none => exact ih
      | some version => exact keeps_pure _

theorem quiet_audioCardVersions : Quiet audioCardVersions :=
  (quiet_andThenSome (quiet_ask _) quiet_firstAudioCard).bind fun _ => keeps_pure _

end FrameworkFfi
