import FrameworkFfi.Controls
import FrameworkFfi.Exports.Shape
import FrameworkFfi.GpuDescriptor
import FrameworkFfi.Inventory.Builder

/-!
# Exported functions: modules and the expansion bay
-/

namespace FrameworkFfi

open Effect

abbrev FrameworkEcFeatureFlagsResult := FrameworkResult UInt64

/-- `framework_ec_get_feature_flags`. -/
def frameworkEcGetFeatureFlags (handle : HandlePtr) : Ffi FrameworkEcFeatureFlagsResult :=
  exported handle 0 fun _ => featureFlags

abbrev FrameworkEcExpansionBayStatusResult := FrameworkResult FrameworkEcExpansionBayStatus

/-- `framework_ec_get_expansion_bay_status`. -/
def frameworkEcGetExpansionBayStatus (handle : HandlePtr) :
    Ffi FrameworkEcExpansionBayStatusResult :=
  exported handle defaultExpansionBayStatus fun _ => expansionBayStatus

abbrev FrameworkEcGpuDescriptorHeaderResult := FrameworkResult FrameworkGpuDescriptorHeader

/-- `framework_ec_get_gpu_descriptor_header`. -/
def frameworkEcGetGpuDescriptorHeader (handle : HandlePtr) :
    Ffi FrameworkEcGpuDescriptorHeaderResult :=
  exported handle defaultHeader fun _ => readHeader

abbrev FrameworkEcGpuDescriptorReadResult := FrameworkResult FrameworkByteBuffer

/-- `framework_ec_read_gpu_descriptor`. -/
def frameworkEcReadGpuDescriptor (handle : HandlePtr) :
    Ffi FrameworkEcGpuDescriptorReadResult :=
  exported handle .default fun _ => readRawDescriptor

/-- The result holds `is_match`. -/
abbrev FrameworkEcGpuDescriptorValidationResult := FrameworkResult UInt8

/-- `framework_ec_validate_gpu_descriptor`. -/
def frameworkEcValidateGpuDescriptor (handle : HandlePtr) (expectedDescriptorPtr : BytePtr)
    (expectedDescriptorLength : UInt32) : Ffi FrameworkEcGpuDescriptorValidationResult :=
  exported handle 0 fun _ =>
    andThen (pure (validateExpectedBytes expectedDescriptorPtr expectedDescriptorLength))
      fun expectedDescriptor =>
        andThen (validate expectedDescriptor) fun isMatch => pure (.ok (byteOfBool isMatch))

abbrev FrameworkEcModuleInventoryResult := FrameworkResult FrameworkModuleInventory

/-- `framework_ec_get_module_inventory`. -/
def frameworkEcGetModuleInventory (handle : HandlePtr) :
    Ffi FrameworkEcModuleInventoryResult :=
  exported handle defaultModuleInventory fun _ => do
    let inventory ← buildModuleInventory
    pure (.ok inventory)

theorem returns_frameworkEcGetModuleInventory {handle : FrameworkEcHandle} {m : Machine}
    {w w' : World} {result : FrameworkEcModuleInventoryResult}
    (h : Returns (frameworkEcGetModuleInventory (some handle)) m w result w') :
    ∃ inventory, Returns buildModuleInventory m w inventory w' ∧
      result = ⟨.success, inventory⟩ := by
  obtain ⟨outcome, hbuild, rfl⟩ := returns_exported h
  obtain ⟨inventory, w₁, hbuilt, hpure⟩ := returns_bind.mp hbuild
  obtain ⟨rfl, rfl⟩ := returns_pure.mp hpure
  exact ⟨inventory, hbuilt, rfl⟩

abbrev FrameworkEcGpuSerialResult := FrameworkResult FrameworkByteBuffer

/-- `framework_ec_get_gpu_serial`. -/
def frameworkEcGetGpuSerial (handle : HandlePtr) : Ffi FrameworkEcGpuSerialResult :=
  exported handle .default fun _ =>
    ecReply getGpuSerial fun serial => FrameworkByteBuffer.fromVec serial.intoBytes

end FrameworkFfi
