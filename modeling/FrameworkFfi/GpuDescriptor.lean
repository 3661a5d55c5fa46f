import FrameworkFfi.Host.Pointer
import FrameworkFfi.Inventory.Query

/-!
# The GPU descriptor

The descriptor of the module in the expansion bay is read and compared only
after the bay was asked whether there is a module, which reads the module's
serial number as well.
-/

namespace FrameworkFfi

open Effect

structure FrameworkGpuDescriptorHeader where
  magic : FixedArray 4 UInt8
  length : UInt32
  descVerMajor : UInt16
  descVerMinor : UInt16
  hardwareVersion : UInt16
  hardwareRevision : UInt16
  serial : FixedArray 20 UInt8
  descriptorLength : UInt32
  descriptorCrc32 : UInt32
  crc32 : UInt32

/-- `default_header`. -/
def defaultHeader : FrameworkGpuDescriptorHeader :=
  { magic := fun _ => 0
    length := 0
    descVerMajor := 0
    descVerMinor := 0
    hardwareVersion := 0
    hardwareRevision := 0
    serial := fun _ => 0
    descriptorLength := 0
    descriptorCrc32 := 0
    crc32 := 0 }

/-- `from_upstream_header`. -/
def fromUpstreamHeader (header : GpuCfgDescriptor) : FrameworkGpuDescriptorHeader :=
  { magic := header.magic
    length := header.length
    descVerMajor := header.descVerMajor
    descVerMinor := header.descVerMinor
    hardwareVersion := header.hardwareVersion
    hardwareRevision := header.hardwareRevision
    serial := header.serial
    descriptorLength := header.descriptorLength
    descriptorCrc32 := header.descriptorCrc32
    crc32 := header.crc32 }

/-- `ensure_descriptor_present`. -/
def ensureDescriptorPresent : Ffi (StatusResult Unit) :=
  andThen expansionBayStatus fun bay =>
    if bay.present = 0 then pure (.error (.withCode .dataUnavailable 0)) else pure (.ok ())

/-- `read_header`. -/
def readHeader : Ffi (StatusResult FrameworkGpuDescriptorHeader) :=
  andThen ensureDescriptorPresent fun () =>
    andThen (do orStatus (← ask .readGpuDescHeader)) fun header =>
      pure (.ok (fromUpstreamHeader header))

def descriptorBuffer (descriptor : ByteVec) : Ffi (StatusResult FrameworkByteBuffer) :=
  if descriptor.bytes.isEmpty then pure (.error (.withCode .dataUnavailable 0))
  else do
    let buffer ← FrameworkByteBuffer.fromVec descriptor
    pure (.ok buffer)

/-- `read_raw_descriptor`. -/
def readRawDescriptor : Ffi (StatusResult FrameworkByteBuffer) :=
  andThen ensureDescriptorPresent fun () =>
    andThen (do orStatus (← ask .readGpuDescriptor)) descriptorBuffer

/-- `validate_expected_bytes`. -/
def validateExpectedBytes (expectedDescriptorPtr : BytePtr)
    (expectedDescriptorLength : UInt32) : StatusResult (List UInt8) :=
  if expectedDescriptorLength = 0 then .ok []
  else match expectedDescriptorPtr with
    | none => .error (.withCode .nullPointer 0)
    | some memory => .ok (sliceFromRawParts memory expectedDescriptorLength.toNat)

/-- `validate`. -/
def validate (expectedDescriptor : List UInt8) : Ffi (StatusResult Bool) :=
  andThen ensureDescriptorPresent fun () => do
    orStatus (← ask (.validateGpuDescriptor expectedDescriptor))

theorem validateExpectedBytes_ok {ptr : BytePtr} {length : UInt32} {expected : List UInt8}
    (h : validateExpectedBytes ptr length = .ok expected) : length = 0 ∨ ptr.isSome := by
  unfold validateExpectedBytes at h
  split_ifs at h with hlength
  · exact .inl hlength
  · cases ptr with
    | none => cases h
    | some memory => exact .inr rfl

theorem validateExpectedBytes_error {ptr : BytePtr} {length : UInt32} {status : FrameworkStatus}
    (h : validateExpectedBytes ptr length = .error status) : ¬ (length = 0 ∨ ptr.isSome) := by
  unfold validateExpectedBytes at h
  split_ifs at h with hlength
  cases ptr with
  | none => simp [hlength]
  | some memory => cases h

end FrameworkFfi
