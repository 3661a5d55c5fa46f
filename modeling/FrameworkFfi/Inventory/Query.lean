import FrameworkFfi.Host.Ownership
import FrameworkFfi.Inventory.Conversions
import FrameworkFfi.Inventory.Defaults
import FrameworkFfi.Runtime

/-!
# The expansion bay and the feature flags
-/

namespace FrameworkFfi

open Effect

/-- The `gpu_vendor` byte of the PCIe reply. -/
def gpuVendorOfByte (v : UInt8) : Option GpuVendor :=
  if v = 0x00 then some .initializing
  else if v = 0x01 then some .fanOnly
  else if v = 0x02 then some .gpuAmdR23M
  else if v = 0x03 then some .ssdHolder
  else if v = 0x04 then some .pcieAccessory
  else if v = 0x05 then some .nvidiaGn22
  else none

/-- The `gpu_pcie_config` byte of the PCIe reply. -/
def gpuPcieConfigOfByte (v : UInt8) : Option GpuPcieConfig :=
  if v = 0 then some .pcie8x1
  else if v = 1 then some .pcie4x1
  else if v = 2 then some .pcie4x2
  else none

/-- Whether `expansion_bay_status` reports the bay as present. -/
def bayPresent (board : FrameworkExpansionBayBoard) (vendor : FrameworkExpansionBayVendor) :
    Bool :=
  ¬ (board = .noModule ∨ board = .unknown) ∨
    (vendor = .fanOnly ∨ vendor = .ssdHolder ∨ vendor = .pcieAccessory ∨ vendor = .amdGpu ∨
      vendor = .nvidiaGpu)

/-- Whether the bay holds a graphics module, which has a USB-C port. -/
def bayHasUsbCPort (vendor : FrameworkExpansionBayVendor) : Bool :=
  vendor = .amdGpu ∨ vendor = .nvidiaGpu

/-- `CrosEc::get_gpu_serial` of `framework_lib`. -/
def crosEcGetGpuSerial : Ffi (EcResult OwnedString) := do
  let reply ← ask (.getGpuSerial 0)
  let upstream ← view Machine.upstream
  match upstream.getGpuSerial reply with
  | some result => pure result
  | none => abort .unwrap

/-- `.map(|serial| FrameworkByteBuffer::from_vec(..)).unwrap_or_default()`. -/
def serialBuffer (serial : EcResult OwnedString) : Ffi FrameworkByteBuffer :=
  match serial with
  | .ok serial => FrameworkByteBuffer.fromVec serial.intoBytes
  | .error _ => pure .default

def bayPdPortState (hasUsbCPort : Bool) : Ffi FrameworkEcPdPortState :=
  if hasUsbCPort then queryPdPortState 4 else pure defaultPdPortState

/-- The part of `expansion_bay_status` after its two queries. -/
def bayOfReplies (info : EcResponseExpansionBayStatus) (gpu : EcResponseGetGpuPcie) :
    Ffi FrameworkEcExpansionBayStatus := do
  let board := expansionBayBoard info.expansionBayBoard
  let vendor := expansionBayVendor (gpuVendorOfByte gpu.gpuVendor)
  let config := gpuPcieConfig (gpuPcieConfigOfByte gpu.gpuPcieConfig)
  let present := bayPresent board vendor
  let serial ← crosEcGetGpuSerial
  let serialNumber ← serialBuffer serial
  let hasUsbCPort := bayHasUsbCPort vendor
  let capability :=
    if hasUsbCPort then gpuModuleCapability vendor else unknownCapability
  let pd ← bayPdPortState hasUsbCPort
  pure
    { present := byteOfBool present
      enabled := byteOfBool info.moduleEnabled
      fault := byteOfBool info.moduleFault
      doorClosed := byteOfBool info.hatchSwitchClosed
      hasUsbCPort := byteOfBool hasUsbCPort
      board, vendor, config, pd, capability, serialNumber }

/-- `expansion_bay_status`. -/
def expansionBayStatus : Ffi (StatusResult FrameworkEcExpansionBayStatus) :=
  andThen (do orStatus (← ask .expansionBayStatus)) fun info =>
    andThen (do orStatus (← ask .getGpuPcie)) fun gpu => do
      let bay ← bayOfReplies info gpu
      pure (.ok bay)

inductive FrameworkEcFeatureFlag where
  | none
  | keyboard
  | keyboardBacklight
  | touchpad
  | fingerprint
  | ambientLight
  | tabletMode
  deriving DecidableEq

/-- `framework_feature_flag`. -/
def frameworkFeatureFlag : FrameworkEcFeatureFlag → UInt64
  | .none => 0
  | .keyboard => 1
  | .keyboardBacklight => 2
  | .touchpad => 4
  | .fingerprint => 8
  | .ambientLight => 16
  | .tabletMode => 32

/-- One `if crate::feature_enabled(ec, feature)? { flags |= flag }`. -/
def addFeatureFlag (feature : EcFeatureCode) (flag : FrameworkEcFeatureFlag)
    (flags : UInt64) : Ffi (StatusResult UInt64) :=
  andThen (featureEnabled feature) fun enabled =>
    pure (.ok (if enabled then flags ||| frameworkFeatureFlag flag else flags))

/-- `feature_flags`. The motion sensor is asked for twice. -/
def featureFlags : Ffi (StatusResult UInt64) :=
  andThen (addFeatureFlag .keyboard .keyboard 0) fun flags =>
    andThen (addFeatureFlag .pwmKeyboardBacklight .keyboardBacklight flags) fun flags =>
      andThen (addFeatureFlag .touchpad .touchpad flags) fun flags =>
        andThen (addFeatureFlag .fingerprint .fingerprint flags) fun flags =>
          andThen (addFeatureFlag .motionSense .ambientLight flags) fun flags =>
            addFeatureFlag .motionSense .tabletMode flags

end FrameworkFfi
