import FrameworkFfi.Abi.Buffer

/-!
# Records of the module inventory

The enumerations and records that the inventory, the expansion bay and the PD
port queries fill. Fixed arrays of the source are functions on `Fin n`; the
padding fields of the records are left out.
-/

namespace FrameworkFfi

/-- A Rust array `[α; n]`. -/
abbrev FixedArray (n : ℕ) (α : Type) := Fin n → α

/-! The places of arrays of three and of five are written as numbers. -/

@[instance] theorem neZeroThree : @NeZero ℕ Zero.ofOfNat0 3 := ⟨by decide⟩

@[instance] theorem neZeroFive : @NeZero ℕ Zero.ofOfNat0 5 := ⟨by decide⟩

inductive FrameworkExpansionBayBoard where
  | unknown
  | dualInterposer
  | singleInterposer
  | umaFans
  | noModule
  | badConnection
  deriving DecidableEq

inductive FrameworkExpansionBayVendor where
  | unknown
  | initializing
  | fanOnly
  | ssdHolder
  | pcieAccessory
  | amdGpu
  | nvidiaGpu
  deriving DecidableEq

inductive FrameworkGpuPcieConfig where
  | unknown
  | pcie4x1
  | pcie4x2
  | pcie4x4
  | pcie5x4
  deriving DecidableEq

inductive FrameworkModuleIdentity where
  | none
  | unknownUsbCOccupant
  | dpExpansionCard
  | hdmiExpansionCard
  | audioExpansionCard
  | framework16KeyboardModule
  | framework16LedMatrix
  | framework16TouchpadModule
  | internalKeyboard
  | internalTouchpad
  | fingerprintReader
  | touchscreen
  | webcam
  | expansionBay
  | expansionBayDualInterposer
  | expansionBaySingleInterposer
  | expansionBayUmaFans
  | expansionBaySsdHolder
  | expansionBayPcieAccessory
  | expansionBayAmdGpu
  | expansionBayNvidiaGpu
  | expansionBayFanOnly
  | usbAExpansionCard
  | usbCExpansionCard
  | ethernetExpansionCard
  | ethernet10GExpansionCard
  | microSdExpansionCard
  | sdExpansionCard
  | ssdExpansionCard
  deriving DecidableEq

inductive FrameworkModuleBus where
  | unknown
  | ec
  | usb
  | hid
  | composite
  deriving DecidableEq

inductive FrameworkModuleSlotKind where
  | none
  | usbCPort
  | inputDeckTopRow
  | inputDeckTouchpad
  | expansionBay
  | internalFixed
  | detached
  | usbCExpansionCardSlot
  deriving DecidableEq

inductive FrameworkModuleConfidence where
  | unknown
  | derivedWeak
  | derivedStrong
  | direct
  deriving DecidableEq

inductive FrameworkModuleFlag where
  | builtIn
  | active
  | connected
  | fault
  | ambiguous
  | hasPdContract
  | displayAltMode
  | doorClosed
  | enabled
  deriving DecidableEq

/-- `flag as u32`. -/
def FrameworkModuleFlag.toUInt32 : FrameworkModuleFlag → UInt32
  | .builtIn => 1
  | .active => 2
  | .connected => 4
  | .fault => 8
  | .ambiguous => 16
  | .hasPdContract => 32
  | .displayAltMode => 64
  | .doorClosed => 128
  | .enabled => 256

inductive FrameworkExpansionCardType where
  | unknown
  | displayPort
  | hdmi
  | audio
  | usbA
  | usbC
  | ethernet
  | ethernet10G
  | microSd
  | sd
  | ssd
  deriving DecidableEq

inductive FrameworkUsbCDataLane where
  | unknown
  | usb2
  | usb32
  | usb32Gen2x1
  | usb32Gen2x2
  | usb4
  | thunderbolt4
  deriving DecidableEq

inductive FrameworkDisplayPortCapability where
  | none
  | dp14Hbr3
  | dp20
  | dp20Uhbr10
  | dp20Uhbr20
  | dp21
  | dp21Uhbr10
  | dp21Uhbr20
  | supported
  deriving DecidableEq

inductive FrameworkUsbCPortPosition where
  | unknown
  | rightBack
  | rightMiddle
  | rightFront
  | leftMiddle
  | leftFront
  | leftBack
  | graphicsModule
  deriving DecidableEq

structure FrameworkUsbCPortCapability where
  known : UInt8
  supportsPd : UInt8
  usbAHighPower : UInt8
  position : FrameworkUsbCPortPosition
  dataLane : FrameworkUsbCDataLane
  displayport : FrameworkDisplayPortCapability
  maxChargeWatts : UInt16
  deriving DecidableEq

inductive FrameworkPdTypeCState where
  | nothing
  | sink
  | source
  | debug
  | audio
  | poweredAccessory
  | unsupported
  | invalid
  deriving DecidableEq

inductive FrameworkPdPowerRole where
  | sink
  | source
  | unknown
  deriving DecidableEq

inductive FrameworkPdDataRole where
  | ufp
  | dfp
  | disconnected
  | unknown
  deriving DecidableEq

inductive FrameworkPdCcPolarity where
  | unknown
  | cc1
  | cc2
  | cc1Debug
  | cc2Debug
  deriving DecidableEq

structure FrameworkEcPdPortState where
  cState : FrameworkPdTypeCState
  powerRole : FrameworkPdPowerRole
  dataRole : FrameworkPdDataRole
  ccPolarity : FrameworkPdCcPolarity
  voltageMv : UInt16
  currentMa : UInt16
  hasPdContract : UInt8
  vconnActive : UInt8
  eprActive : UInt8
  eprSupport : UInt8
  activePort : UInt8
  altModeFlags : UInt8
  deriving DecidableEq

inductive FrameworkInputModulePosition where
  | unknown
  | topRow0
  | topRow1
  | topRow2
  | topRow3
  | topRow4
  | touchpad
  | hubBoard
  deriving DecidableEq

structure FrameworkModuleDescriptor where
  identity : FrameworkModuleIdentity
  bus : FrameworkModuleBus
  slotKind : FrameworkModuleSlotKind
  confidence : FrameworkModuleConfidence
  present : UInt8
  slotIndex : Int32
  flags : UInt32
  vendorId : UInt32
  productId : UInt32
  boardId : Int32
  position : FrameworkInputModulePosition
  deriving DecidableEq

structure FrameworkExpansionCardModuleDescriptor where
  identity : FrameworkModuleIdentity
  bus : FrameworkModuleBus
  slotKind : FrameworkModuleSlotKind
  confidence : FrameworkModuleConfidence
  present : UInt8
  slotIndex : Int32
  flags : UInt32
  vendorId : UInt32
  productId : UInt32
  boardId : Int32
  pd : FrameworkEcPdPortState
  cardType : FrameworkExpansionCardType
  cardConfidence : FrameworkModuleConfidence
  capability : FrameworkUsbCPortCapability
  deriving DecidableEq

structure FrameworkEcExpansionBayStatus where
  present : UInt8
  enabled : UInt8
  fault : UInt8
  doorClosed : UInt8
  hasUsbCPort : UInt8
  board : FrameworkExpansionBayBoard
  vendor : FrameworkExpansionBayVendor
  config : FrameworkGpuPcieConfig
  pd : FrameworkEcPdPortState
  capability : FrameworkUsbCPortCapability
  serialNumber : FrameworkByteBuffer
  deriving DecidableEq

/-- The inventory. The numbered fields of one kind (`usb_c_slot_0` to
`usb_c_slot_5` and so on) are kept as the array they are copied from. -/
structure FrameworkModuleInventory where
  usbCSlotCount : UInt8
  inputTopRowCount : UInt8
  detachedCount : UInt8
  usbCSlot : FixedArray 6 FrameworkExpansionCardModuleDescriptor
  inputTopRow : FixedArray 5 FrameworkModuleDescriptor
  inputTouchpad : FrameworkModuleDescriptor
  internalKeyboard : FrameworkModuleDescriptor
  internalTouchpad : FrameworkModuleDescriptor
  fingerprintReader : FrameworkModuleDescriptor
  touchscreen : FrameworkModuleDescriptor
  webcam : FrameworkModuleDescriptor
  expansionBay : FrameworkModuleDescriptor
  detached : FixedArray 4 FrameworkModuleDescriptor

end FrameworkFfi
