import FrameworkFfi.Abi.Versions
import FrameworkFfi.Inventory.Detect
import FrameworkFfi.Thermal
import Mathlib.Data.Fin.VecNotation

/-!
# Firmware versions

The versions of USB peripherals, of the audio card, of the PD controllers and of
NVMe drives. A USB device that cannot be opened still has a version; only its
name stays empty.
-/

namespace FrameworkFfi

open Effect

structure UsbVersion where
  major : UInt8
  minor : UInt8
  subMinor : UInt8

structure PeripheralVersion where
  vendorId : UInt16
  productId : UInt16
  version : UsbVersion
  productName : OwnedString

/-- `usb_version` on the version of a device descriptor. -/
def usbVersion (descriptor : UsbDeviceDescriptor) : UsbVersion :=
  ⟨descriptor.versionMajor, descriptor.versionMinor, descriptor.versionSubMinor⟩

/-- The product string of an open device, empty when there is none. -/
def readProductName (device : UsbDevice) (descriptor : UsbDeviceDescriptor) :
    Ffi OwnedString :=
  match descriptor.productStringIndex with
  | none => pure (.exact "")
  | some index => do
      let text ← ask (.usbReadStringDescriptor device.address index)
      pure (text.getD (.exact ""))

/-- The product string of a device, empty when it cannot be opened. -/
def productName (device : UsbDevice) (descriptor : UsbDeviceDescriptor) : Ffi OwnedString := do
  let opened ← ask (.usbOpen device.address)
  if opened then readProductName device descriptor else pure (.exact "")

/-- One round of `collect_usb_versions`. -/
def collectUsbVersion (isMatch : UsbMatch) (found : List PeripheralVersion)
    (device : UsbDevice) : Ffi (List PeripheralVersion) :=
  match device.deviceDescriptor with
  | none => pure found
  | some descriptor =>
      if isMatch descriptor.vendorId descriptor.productId then do
        let productName ← productName device descriptor
        pure (found ++ [{ vendorId := descriptor.vendorId
                          productId := descriptor.productId
                          version := usbVersion descriptor
                          productName }])
      else pure found

/-- `collect_usb_versions`. -/
def collectUsbVersions (isMatch : UsbMatch) : Ffi (List PeripheralVersion) := do
  match ← ask .usbDevices with
  | none => pure []
  | some devices => devices.foldlM (collectUsbVersion isMatch) []

/-- `FRAMEWORK_VID`. -/
def frameworkVid : UInt16 := 0x32AC

/-- `AUDIO_CARD_PID`. -/
def audioCardPid : UInt16 := 0x0010

/-- `CAMERA_PIDS`. -/
def cameraPids : List UInt16 := [0x001C, 0x001D]

/-- `REALTEK_VID`. -/
def realtekVid : UInt16 := 0x0BDA

/-- `REALTEK_HUB_PIDS`. -/
def realtekHubPids : List UInt16 := [0x5432, 0x5424]

/-- `GENESYS_VID`. -/
def genesysVid : UInt16 := 0x05E3

/-- `GENESYS_HUB_PIDS`. -/
def genesysHubPids : List UInt16 := [0x0625]

/-- `LEDMATRIX_PID`. -/
def ledmatrixPid : UInt16 := 0x0020

/-- `INPUT_MODULE_PIDS`. -/
def inputModulePids : List UInt16 :=
  [0x0012, 0x0013, 0x0014, 0x0018, 0x0019, 0x0030, ledmatrixPid]

/-- `camera_versions`. -/
def cameraVersions : Ffi (List PeripheralVersion) :=
  collectUsbVersions fun vid pid => vid = frameworkVid && pid ∈ cameraPids

/-- `input_module_versions`. -/
def inputModuleVersions : Ffi (List PeripheralVersion) :=
  collectUsbVersions fun vid pid => vid = frameworkVid && pid ∈ inputModulePids

/-- `usb_hub_versions`. -/
def usbHubVersions : Ffi (List PeripheralVersion) :=
  collectUsbVersions fun vid pid =>
    (vid = realtekVid && pid ∈ realtekHubPids) || (vid = genesysVid && pid ∈ genesysHubPids)

/-! ### The audio card -/

/-- `CAPE_MAX_POLLS`. -/
def capeMaxPolls : ℕ := 32

/-- `CAPE_GET_VERSION_REPLY`. -/
def capeGetVersionReply : UInt16 := 0x8103

/-- The bytes of the request: report id, length, command, module and no data. -/
def capeRequest : List UInt8 :=
  [0x01, 0x00, 0x0D, 0x00, 0x03, 0x01, 0x00, 0x23, 0x2D, 0xB3] ++ List.replicate 52 0

/-- A response buffer after a read that delivered `bytes`. -/
def overwritten (response bytes : List UInt8) : List UInt8 :=
  bytes.take response.length ++ response.drop bytes.length

def capeCommandId (message : List UInt8) : UInt16 :=
  u16FromLeBytes (message.getD 4 0) (message.getD 5 0)

/-- The low byte of a data word of a message. -/
def capeDataByte (message : List UInt8) (word : ℕ) : UInt8 := message.getD (10 + 4 * word) 0

/-- `find_hid_interface`. -/
def findHidInterface (device : UsbDevice) : Ffi (Option UInt8) := do
  let interfaces ← ask (.usbActiveConfig device.address)
  pure ((interfaces.bind fun interfaces =>
    interfaces.find? fun interface => 0x03 ∈ interface.classCodes).map UsbInterface.number)

/-- The polls that are left, each a write and a read, until the response is ready. -/
def capePoll (device : UsbDevice) (interface : UInt8) (polls : ℕ) (response : List UInt8) :
    Ffi (Option (List UInt8)) :=
  match polls with
  | 0 => pure none
  | polls + 1 => do
      let wrote ← ask (.usbWriteControl device.address interface capeRequest)
      if wrote then
        match ← ask (.usbReadControl device.address interface capeRequest.length) with
        | none => pure none
        | some bytes =>
            let response := overwritten response bytes
            if capeCommandId response = capeGetVersionReply then pure (some response)
            else capePoll device interface polls response
      else pure none

def capeVersion (response : List UInt8) : UsbVersion :=
  ⟨capeDataByte response 0, capeDataByte response 1, capeDataByte response 2⟩

/-- The exchange on a claimed interface, which is released in any case. -/
def capeExchange (device : UsbDevice) (interface : UInt8) : Ffi (Option (List UInt8)) := do
  let response ← capePoll device interface capeMaxPolls capeRequest
  let _ ← ask (.usbReleaseInterface device.address interface)
  pure response

/-- The exchange with a card whose interface is known. -/
def claimedExchange (device : UsbDevice) (interface : UInt8) :
    Ffi (Option (List UInt8)) := do
  let claimed ← ask (.usbClaimInterface device.address interface)
  if claimed then capeExchange device interface else pure none

/-- The response of an audio card, when it can be opened and answers. -/
def audioCardResponse (device : UsbDevice) : Ffi (Option (List UInt8)) := do
  let opened ← ask (.usbOpen device.address)
  if opened then andThenSome (findHidInterface device) (claimedExchange device) else pure none

/-- One round of `audio_card_version`. -/
def audioCardVersionOf (device : UsbDevice) : Ffi (Option PeripheralVersion) :=
  match device.deviceDescriptor with
  | none => pure none
  | some descriptor =>
      if descriptor.vendorId ≠ frameworkVid ∨ descriptor.productId ≠ audioCardPid then pure none
      else andThenSome (audioCardResponse device) fun response => do
        let productName ← readProductName device descriptor
        pure (some
          { vendorId := frameworkVid
            productId := audioCardPid
            version := capeVersion response
            productName })

def firstAudioCard : List UsbDevice → Ffi (Option PeripheralVersion)
  | [] => pure none
  | device :: devices => do
      match ← audioCardVersionOf device with
      | some version => pure (some version)
      | none => firstAudioCard devices

/-- `audio_card_version`. -/
def audioCardVersion : Ffi (Option PeripheralVersion) :=
  andThenSome (ask .usbDevices) firstAudioCard

/-! ### PD controllers -/

/-- The three slots `pd_controller_versions` fills. -/
def pdControllerSet : PdVersions → FixedArray 3 (Option ControllerFirmwares)
  | .single one => ![some one, none, none]
  | .rightLeft right left => ![some right, some left, none]
  | .many controllers => fun i => controllers[i.val]?

/-- `pd_controller_versions`. -/
def pdControllerVersions : Ffi (EcResult (FixedArray 3 (Option ControllerFirmwares))) := do
  let versions ← ask .getPdControllerVersions
  pure (versions.map pdControllerSet)

/-- The number `app_version_parts` gives an application. -/
def applicationNumber : Application → Int32
  | .notebook => 0
  | .monitor => 1
  | .aa => 2
  | .invalid => 3

/-- `nvme_version`. -/
def nvmeVersion (devicePath : String) : Ffi (Option NvmeInfo) :=
  ask (.getNvmeFirmwareVersion devicePath)

end FrameworkFfi
