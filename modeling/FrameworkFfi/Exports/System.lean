import FrameworkFfi.Exports.Shape
import FrameworkFfi.Host.Ownership

/-!
# Exported functions: drivers, statuses and the system
-/

namespace FrameworkFfi

open Effect

/-- `framework_ec_driver_is_supported`. -/
def frameworkEcDriverIsSupported (driver : FrameworkEcDriver) : Ffi Bool :=
  driverIsSupported driver

def deviceErrorMessageOf (status : FrameworkStatus) : Ffi (Option OwnedString) :=
  match status.deviceErrorMessageToken with
  | none => pure none
  | some token => do
      let message ← getDeviceErrorMessage token
      pure (message.map .exact)

abbrev FrameworkStatusDeviceErrorMessageResult := FrameworkResult FrameworkByteBuffer

/-- `framework_status_get_device_error_message`. -/
def frameworkStatusGetDeviceErrorMessage (status : FrameworkStatus) :
    Ffi FrameworkStatusDeviceErrorMessageResult :=
  exportedQuery .default (someReply (deviceErrorMessageOf status) fun message =>
    FrameworkByteBuffer.fromVec message.intoBytes)

abbrev FrameworkStatusDescriptionResult := FrameworkResult FrameworkByteBuffer

/-- `framework_status_get_description`. -/
def frameworkStatusGetDescription (status : FrameworkStatus) :
    Ffi FrameworkStatusDescriptionResult :=
  exportedQuery .default do
    let description ← statusDescription status
    let buffer ← FrameworkByteBuffer.fromVec description.intoBytes
    pure (.ok buffer)

abbrev FrameworkEcHandleResult := FrameworkResult HandlePtr

/-- `framework_ec_open_default`. -/
def frameworkEcOpenDefault : Ffi FrameworkEcHandleResult :=
  exportedQuery none openDefaultEc

/-- `framework_ec_open_with_driver`. -/
def frameworkEcOpenWithDriver (driver : FrameworkEcDriver) : Ffi FrameworkEcHandleResult :=
  exportedQuery none (openWithDriverEc driver)

/-- `framework_ec_close`. Dropping the handle asks the controller nothing; which handles
are open is kept by the sessions of a caller. -/
def frameworkEcClose (_handle : HandlePtr) : Ffi Unit := pure ()

abbrev FrameworkEcActiveDriverResult := FrameworkResult FrameworkEcDriver

/-- `framework_ec_get_active_driver`. -/
def frameworkEcGetActiveDriver (handle : HandlePtr) : Ffi FrameworkEcActiveDriverResult :=
  exported handle .unknown fun handle => pure (.ok handle.driver)

abbrev FrameworkPlatformResult := FrameworkResult FrameworkPlatform

/-- `framework_get_platform`. -/
def frameworkGetPlatform : Ffi FrameworkPlatformResult :=
  exportedQuery .unknownSystem (someReply (view Machine.platform) fun platform =>
    pure (.ofPlatform platform))

abbrev FrameworkPlatformFamilyResult := FrameworkResult FrameworkPlatformFamily

/-- `framework_get_platform_family`. -/
def frameworkGetPlatformFamily : Ffi FrameworkPlatformFamilyResult :=
  exportedQuery .unknown (someReply (view Machine.family) fun family =>
    pure (.ofFamily family))

abbrev FrameworkProductNameResult := FrameworkResult FrameworkByteBuffer

/-- `framework_get_product_name`. -/
def frameworkGetProductName : Ffi FrameworkProductNameResult :=
  exportedQuery .default (someReply (ask .getProductName) fun productName =>
    FrameworkByteBuffer.fromVec productName.intoBytes)

abbrev FrameworkEcBuildInfoResult := FrameworkResult FrameworkByteBuffer

/-- `framework_ec_get_build_info`. -/
def frameworkEcGetBuildInfo (handle : HandlePtr) : Ffi FrameworkEcBuildInfoResult :=
  exported handle .default fun _ => ecReply (ask .versionInfo) fun buildInfo =>
    FrameworkByteBuffer.fromVec buildInfo.intoBytes

structure FrameworkEcFlashVersions where
  currentImage : FrameworkEcCurrentImage
  roVersion : FrameworkByteBuffer
  rwVersion : FrameworkByteBuffer

/-- `default_ec_flash_versions`. -/
def defaultEcFlashVersions : FrameworkEcFlashVersions := ⟨.unknown, .default, .default⟩

/-- The versions of a reply. Two texts are handed over. -/
def flashVersions (reply : OwnedString × OwnedString × EcCurrentImage) :
    Ffi FrameworkEcFlashVersions := do
  let roVersion ← FrameworkByteBuffer.fromVec reply.1.intoBytes
  let rwVersion ← FrameworkByteBuffer.fromVec reply.2.1.intoBytes
  pure { currentImage := .ofImage reply.2.2, roVersion, rwVersion }

abbrev FrameworkEcFlashVersionsResult := FrameworkResult FrameworkEcFlashVersions

/-- `framework_ec_get_flash_versions`. -/
def frameworkEcGetFlashVersions (handle : HandlePtr) : Ffi FrameworkEcFlashVersionsResult :=
  exported handle defaultEcFlashVersions fun _ => someReply (ask .flashVersion) flashVersions

/-- `framework_byte_buffer_free`. -/
def frameworkByteBufferFree (buffer : FrameworkByteBuffer) : Ffi Unit := buffer.destroy

end FrameworkFfi
