import FrameworkFfi.Host.Machine
import FrameworkFfi.Inventory.Defaults
import Mathlib.Logic.Function.Basic

/-!
# Detection on the USB and HID buses

Every detector enumerates a bus and keeps the entries it recognises, in the
order of the enumeration. A bus that cannot be enumerated yields no entry. The
USB detectors differ in the vendor and product ids they accept; the detector of
the input modules also places its entries by their port path.
-/

namespace FrameworkFfi

open Effect

structure HidModuleObservation where
  vendorId : UInt16
  productId : UInt16
  deriving DecidableEq

structure UsbModuleObservation where
  vendorId : UInt16
  productId : UInt16
  slotIndex : Int32
  deriving DecidableEq

/-- The ids a USB detector accepts. -/
abbrev UsbMatch := UInt16 → UInt16 → Bool

/-- What a USB detector makes of one device. A device whose descriptor cannot be
read is skipped. -/
def usbObservation (isMatch : UsbMatch) (slotIndex : UsbDevice → Int32)
    (device : UsbDevice) : Option UsbModuleObservation :=
  match device.deviceDescriptor with
  | none => none
  | some descriptor =>
      if isMatch descriptor.vendorId descriptor.productId then
        some ⟨descriptor.vendorId, descriptor.productId, slotIndex device⟩
      else none

def usbObservations (isMatch : UsbMatch) (slotIndex : UsbDevice → Int32)
    (devices : Option (List UsbDevice)) : List UsbModuleObservation :=
  match devices with
  | none => []
  | some devices => devices.filterMap (usbObservation isMatch slotIndex)

/-- The slot index of the detectors that do not place their entries. -/
def unplaced : UsbDevice → Int32 := fun _ => -1

/-! ### The ids -/

def ssdCardMatch : UsbMatch := fun vid pid => vid = 0x32AC && pid = 0x0005

def usbACardMatch : UsbMatch := fun vid pid =>
  (vid = 0x0BDA && (pid = 0x5432 || pid = 0x5424)) || (vid = 0x05E3 && pid = 0x0625)

def ethernetCardMatch : UsbMatch := fun vid pid => vid = 0x0BDA && pid = 0x8156

def sdCardMatch : UsbMatch := fun vid pid => vid = 0x05E3 && pid = 0x0749

def microSdCardMatch : UsbMatch := fun vid pid => vid = 0x05E3 && pid = 0x0751

def audioCardMatch (upstream : Upstream) : UsbMatch := fun vid pid =>
  vid = upstream.audioCardFrameworkVid && pid = upstream.audioCardPid

def inputModuleMatch (upstream : Upstream) : UsbMatch := fun vid pid =>
  vid = upstream.inputModuleFrameworkVid && pid ∈ upstream.framework16InputModulePids

def cameraMatch (upstream : Upstream) : UsbMatch := fun vid pid =>
  vid = upstream.cameraFrameworkVid &&
    (pid = upstream.framework13And16SecondGenPid || pid = upstream.framework12Pid)

/-! ### The detectors -/

/-- The entries of the HID bus a detector accepts. -/
def hidObservations (isMatch : HidDevice → Bool) (devices : Option (List HidDevice)) :
    List HidModuleObservation :=
  match devices with
  | none => []
  | some devices =>
      (devices.filter isMatch).map fun device => ⟨device.vendorId, device.productId⟩

/-- `detect_expansion_cards_local`. The devices are filtered on the other side. -/
def detectExpansionCardsLocal : Ffi (List HidModuleObservation) := do
  let devices ← ask .findExpansionCardDevices
  pure (hidObservations (fun _ => true) devices)

/-- A detector that reads the ids only. -/
def detectUsbLocal (isMatch : UsbMatch) : Ffi (List UsbModuleObservation) := do
  let devices ← ask .usbDevices
  pure (usbObservations isMatch unplaced devices)

/-- `detect_ssd_cards_local`. -/
def detectSsdCardsLocal : Ffi (List UsbModuleObservation) := detectUsbLocal ssdCardMatch

/-- `detect_usb_a_cards_local`. -/
def detectUsbACardsLocal : Ffi (List UsbModuleObservation) := detectUsbLocal usbACardMatch

/-- `detect_ethernet_cards_local`. -/
def detectEthernetCardsLocal : Ffi (List UsbModuleObservation) :=
  detectUsbLocal ethernetCardMatch

/-- `detect_sd_cards_local`. -/
def detectSdCardsLocal : Ffi (List UsbModuleObservation) := detectUsbLocal sdCardMatch

/-- `detect_microsd_cards_local`. -/
def detectMicroSdCardsLocal : Ffi (List UsbModuleObservation) :=
  detectUsbLocal microSdCardMatch

/-- `detect_audio_cards_local`. -/
def detectAudioCardsLocal : Ffi (List UsbModuleObservation) := do
  let upstream ← view Machine.upstream
  detectUsbLocal (audioCardMatch upstream)

/-- `map_framework16_input_slot`. -/
def mapFramework16InputSlot (portNumbers : List UInt8) : Int32 :=
  if portNumbers = [4, 2] then 0
  else if portNumbers = [4, 3] then 1
  else if portNumbers = [3, 1] then 2
  else if portNumbers = [3, 2] then 3
  else if portNumbers = [3, 3] then 4
  else -1

/-- The slot of an input module, `-1` when its port path cannot be read. -/
def inputModuleSlot (device : UsbDevice) : Int32 :=
  (device.portNumbers.map mapFramework16InputSlot).getD (-1)

/-- `detect_input_modules_local`. -/
def detectInputModulesLocal : Ffi (List UsbModuleObservation) := do
  let upstream ← view Machine.upstream
  let devices ← ask .usbDevices
  pure (usbObservations (inputModuleMatch upstream) inputModuleSlot devices)

/-- `detect_cameras_local`. -/
def detectCamerasLocal : Ffi (List UsbModuleObservation) := do
  let upstream ← view Machine.upstream
  detectUsbLocal (cameraMatch upstream)

def touchpadMatch (upstream : Upstream) (device : HidDevice) : Bool :=
  device.vendorId = upstream.pixVid &&
    (device.productId ∈ [0x0274, 0x0239, 0x0360, 0x0343]) && device.usagePage = 0xFF00

/-- `detect_touchpads_local`. -/
def detectTouchpadsLocal : Ffi (List HidModuleObservation) := do
  let upstream ← view Machine.upstream
  let devices ← ask .hidDeviceList
  pure (hidObservations (touchpadMatch upstream) devices)

def touchscreenMatch (upstream : Upstream) (device : HidDevice) : Bool :=
  let isIli := device.vendorId = upstream.iliVid ∧ device.productId = upstream.iliPid ∧
    device.usagePage = 0xFF00
  let isHx := device.vendorId = upstream.hxVid ∧ device.productId = upstream.hxPid
  isIli ∨ isHx

/-- `detect_touchscreens_local`. -/
def detectTouchscreensLocal : Ffi (List HidModuleObservation) := do
  let upstream ← view Machine.upstream
  let devices ← ask .hidDeviceList
  pure (hidObservations (touchscreenMatch upstream) devices)

/-! ### Detached modules -/

/-- The `detached` array with its `detached_count`. -/
@[ext] structure DetachedModules where
  detached : FixedArray 4 FrameworkModuleDescriptor
  detachedCount : UInt8

/-- `push_detached_module`. -/
def pushDetachedModule (modules : DetachedModules)
    (descriptor : FrameworkModuleDescriptor) : DetachedModules :=
  if h : modules.detachedCount.toNat < 4 then
    { detached := Function.update modules.detached ⟨modules.detachedCount.toNat, h⟩ descriptor
      detachedCount := modules.detachedCount + 1 }
  else modules

end FrameworkFfi
