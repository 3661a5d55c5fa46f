import FrameworkFfi.Exports.Shape
import FrameworkFfi.Host.Ownership
import FrameworkFfi.Host.Pointer
import FrameworkFfi.Versions

/-!
# Exported functions: firmware versions
-/

namespace FrameworkFfi

open Effect

/-! ### PD controllers and the retimer -/

/-- `default_pd_controller_version`. -/
def defaultPdControllerVersion : FrameworkPdControllerVersion :=
  ⟨⟨0, 0, 0, 0⟩, ⟨.invalid, 0, 0, 0⟩⟩

/-- `default_pd_controller_firmwares`. -/
def defaultPdControllerFirmwares : FrameworkPdControllerFirmwares :=
  { present := 0
    activeFw := .unknown
    bootloader := defaultPdControllerVersion
    backupFw := defaultPdControllerVersion
    mainFw := defaultPdControllerVersion }

def pdApplication (application : Int32) : FrameworkPdApplication :=
  if application = 0 then .notebook
  else if application = 1 then .monitor
  else if application = 2 then .aa
  else .invalid

/-- `into_pd_controller_version`. -/
def intoPdControllerVersion (version : ControllerVersion) : FrameworkPdControllerVersion :=
  { base := ⟨version.base.major, version.base.minor, version.base.patch,
      version.base.buildNumber⟩
    app := ⟨pdApplication (applicationNumber version.app.application), version.app.major,
      version.app.minor, version.app.circuit⟩ }

def pdFwMode : FwMode → FrameworkPdFwMode
  | .bootLoader => .bootLoader
  | .backupFw => .backupFw
  | .mainFw => .mainFw

def pdControllerFirmwares (firmware : ControllerFirmwares) : FrameworkPdControllerFirmwares :=
  { present := 1
    activeFw := pdFwMode firmware.activeFw
    bootloader := intoPdControllerVersion firmware.bootloader
    backupFw := intoPdControllerVersion firmware.backupFw
    mainFw := intoPdControllerVersion firmware.mainFw }

/-- `FrameworkEcPdControllerVersionsResult` without its status. -/
structure PdControllerVersions where
  controllerCount : UInt8
  controller : FixedArray 3 FrameworkPdControllerFirmwares

abbrev FrameworkEcPdControllerVersionsResult := FrameworkResult PdControllerVersions

/-- The record of the controllers, each in its own slot. -/
def pdControllerRecord (set : FixedArray 3 (Option ControllerFirmwares)) :
    PdControllerVersions :=
  { controllerCount := UInt8.ofNat ((List.finRange 3).countP fun i => (set i).isSome)
    controller := fun i => ((set i).map pdControllerFirmwares).getD defaultPdControllerFirmwares }

/-- `framework_ec_get_pd_controller_versions`. -/
def frameworkEcGetPdControllerVersions (handle : HandlePtr) :
    Ffi FrameworkEcPdControllerVersionsResult :=
  exported handle ⟨0, fun _ => defaultPdControllerFirmwares⟩ fun _ =>
    ecReply pdControllerVersions fun set => pure (pdControllerRecord set)

/-- `FrameworkEcRetimerVersionResult` without its status. -/
structure RetimerVersion where
  present : UInt8
  version : FrameworkByteBuffer

abbrev FrameworkEcRetimerVersionResult := FrameworkResult RetimerVersion

def retimerRecord (version : Option ByteVec) : Ffi RetimerVersion :=
  match version with
  | some version => do
      let version ← FrameworkByteBuffer.fromVec version
      pure ⟨1, version⟩
  | none => pure ⟨0, .default⟩

/-- `framework_ec_get_retimer_version`. -/
def frameworkEcGetRetimerVersion (handle : HandlePtr) : Ffi FrameworkEcRetimerVersionResult :=
  exported handle ⟨0, .default⟩ fun _ => ecReply (ask .getRetimerVersion) retimerRecord

/-! ### USB peripherals -/

/-- `default_peripheral_version`. -/
def defaultPeripheralVersion : FrameworkPeripheralVersion := ⟨0, 0, 0, 0, 0, 0, .default⟩

/-- `FrameworkPeripheralVersionsResult` without its status. -/
@[ext] structure PeripheralVersions where
  count : UInt8
  peripheral : FixedArray 8 FrameworkPeripheralVersion

abbrev FrameworkPeripheralVersionsResult := FrameworkResult PeripheralVersions

def emptyPeripheralVersions : PeripheralVersions := ⟨0, fun _ => defaultPeripheralVersion⟩

/-- One round of `peripheral_versions_result`. -/
def fillPeripheralSlot (versions : PeripheralVersions) (round : Fin 8 × PeripheralVersion) :
    Ffi PeripheralVersions := do
  let productName ← FrameworkByteBuffer.fromVec round.2.productName.intoBytes
  pure
    { count := versions.count + 1
      peripheral := Function.update versions.peripheral round.1
        { present := 1
          versionMajor := round.2.version.major
          versionMinor := round.2.version.minor
          versionSubMinor := round.2.version.subMinor
          vendorId := round.2.vendorId
          productId := round.2.productId
          productName } }

/-- The slots of `peripheral_versions_result`. What does not fit is dropped. -/
def peripheralSlots (found : List PeripheralVersion) : Ffi PeripheralVersions :=
  ((List.finRange 8).zip found).foldlM fillPeripheralSlot emptyPeripheralVersions

/-- `peripheral_versions_result` on what a detector finds. -/
def peripheralVersionsResult (detected : Ffi (List PeripheralVersion)) :
    Ffi FrameworkPeripheralVersionsResult :=
  exportedQuery emptyPeripheralVersions do
    let found ← detected
    let versions ← peripheralSlots found
    pure (.ok versions)

/-- `framework_get_camera_versions`. -/
def frameworkGetCameraVersions : Ffi FrameworkPeripheralVersionsResult :=
  peripheralVersionsResult cameraVersions

/-- `framework_get_input_module_versions`. -/
def frameworkGetInputModuleVersions : Ffi FrameworkPeripheralVersionsResult :=
  peripheralVersionsResult inputModuleVersions

/-- `framework_get_usb_hub_versions`. -/
def frameworkGetUsbHubVersions : Ffi FrameworkPeripheralVersionsResult :=
  peripheralVersionsResult usbHubVersions

/-- `audio_card_version().into_iter().collect()`. -/
def audioCardVersions : Ffi (List PeripheralVersion) := do
  let version ← audioCardVersion
  pure version.toList

/-- `framework_get_audio_card_version`. -/
def frameworkGetAudioCardVersion : Ffi FrameworkPeripheralVersionsResult :=
  peripheralVersionsResult audioCardVersions

/-- One round of `framework_peripheral_versions_free`. -/
def freePeripheralSlot (versions : PeripheralVersions) (i : Fin 8) : Ffi PeripheralVersions := do
  let owned := (versions.peripheral i).productName
  owned.destroy
  pure
    { versions with
      peripheral := Function.update versions.peripheral i
        { versions.peripheral i with productName := .default } }

/-- `framework_peripheral_versions_free`. It returns what it leaves of the record. -/
def frameworkPeripheralVersionsFree (result : Option PeripheralVersions) :
    Ffi (Option PeripheralVersions) :=
  match result with
  | none => pure none
  | some versions => do
      let versions ← (List.finRange 8).foldlM freePeripheralSlot versions
      pure (some versions)

/-! ### NVMe -/

/-- `FrameworkNvmeVersionResult` without its status. -/
structure NvmeRecord where
  modelNumber : FrameworkByteBuffer
  firmwareVersion : FrameworkByteBuffer

abbrev FrameworkNvmeVersionResult := FrameworkResult NvmeRecord

def nvmeRecord (info : NvmeInfo) : Ffi NvmeRecord := do
  let modelNumber ← FrameworkByteBuffer.fromVec info.modelNumber.intoBytes
  let firmwareVersion ← FrameworkByteBuffer.fromVec info.firmwareVersion.intoBytes
  pure { modelNumber, firmwareVersion }

/-- `NVME_SUPPORTED`. -/
def nvmeSupported (m : Machine) : Bool := m.targetOs = .linux

/-- The path of a request for a version, on a system that supports it. -/
def requireNvmePath (devicePath : BytePtr) (pathLength : Int32) : Ffi (StatusResult String) := do
  let supported ← view nvmeSupported
  pure (if supported then borrowUtf8 devicePath pathLength
    else .error (.withCode .notSupported 0))

/-- `framework_get_nvme_version`. -/
def frameworkGetNvmeVersion (devicePath : BytePtr) (pathLength : Int32) :
    Ffi FrameworkNvmeVersionResult :=
  exportedQuery ⟨.default, .default⟩ <|
    andThen (requireNvmePath devicePath pathLength) fun path =>
      someReply (nvmeVersion path) nvmeRecord

end FrameworkFfi
