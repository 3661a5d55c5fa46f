import FrameworkFfi.Abi.Controls
import FrameworkFfi.Abi.Inventory
import FrameworkFfi.Abi.Result
import FrameworkFfi.Host.Machine

/-!
# Identities and descriptors

The tables that translate what the controller and the buses report into the
enumerations of the inventory, and `moduleDescriptor`, through which every
descriptor of a present module is built. The constants of `framework_lib` the
tables compare with are read from an `Upstream`.
-/

namespace FrameworkFfi

/-- `module_flag`. -/
def moduleFlag (flag : FrameworkModuleFlag) : UInt32 := flag.toUInt32

def flagIf (condition : Bool) (flag : FrameworkModuleFlag) : UInt32 :=
  if condition then moduleFlag flag else 0

def HasFlag (flags : UInt32) (flag : FrameworkModuleFlag) : Prop :=
  flags &&& moduleFlag flag ≠ 0

instance (flags : UInt32) (flag : FrameworkModuleFlag) : Decidable (HasFlag flags flag) :=
  inferInstanceAs (Decidable (flags &&& moduleFlag flag ≠ 0))

theorem or_and_right (a b c : UInt32) : (a ||| b) &&& c = (a &&& c) ||| (b &&& c) := by
  apply UInt32.toBitVec_inj.mp
  ext i
  simp [Bool.and_or_distrib_right]

@[simp] theorem hasFlag_or (a b : UInt32) (flag : FrameworkModuleFlag) :
    HasFlag (a ||| b) flag ↔ HasFlag a flag ∨ HasFlag b flag := by
  unfold HasFlag
  rw [or_and_right, Ne, UInt32.or_eq_zero_iff, Ne, Ne, ← not_and_or]

@[simp] theorem hasFlag_zero (flag : FrameworkModuleFlag) : ¬ HasFlag 0 flag := by
  simp [HasFlag]

@[simp] theorem hasFlag_moduleFlag (flag flag' : FrameworkModuleFlag) :
    HasFlag (moduleFlag flag) flag' ↔ flag = flag' := by
  cases flag <;> cases flag' <;> decide

@[simp] theorem hasFlag_flagIf (condition : Bool) (flag flag' : FrameworkModuleFlag) :
    HasFlag (flagIf condition flag) flag' ↔ condition = true ∧ flag = flag' := by
  cases condition <;> simp [flagIf]

/-- `fingerprint_led_level`. -/
def fingerprintLedLevel : Option FpLedBrightnessLevel → FrameworkFingerprintLedLevel
  | some .high => .high
  | some .medium => .medium
  | some .low => .low
  | some .ultraLow => .ultraLow
  | some .custom => .custom
  | some .auto => .auto
  | none => .unknown

/-- `fp_led_brightness_level`. A custom level can be read and not be set. -/
def fpLedBrightnessLevel : FrameworkFingerprintLedLevel → Option FpLedBrightnessLevel
  | .high => some .high
  | .medium => some .medium
  | .low => some .low
  | .ultraLow => some .ultraLow
  | .auto => some .auto
  | .custom | .unknown => none

/-- `expansion_bay_board`. -/
def expansionBayBoard (board : Except ExpansionBayIssue ExpansionBayBoard) :
    FrameworkExpansionBayBoard :=
  match board with
  | .ok .dualInterposer => .dualInterposer
  | .ok .singleInterposer => .singleInterposer
  | .ok .umaFans => .umaFans
  | .error .noModule => .noModule
  | .error .badConnection => .badConnection

/-- `expansion_bay_vendor`. -/
def expansionBayVendor (vendor : Option GpuVendor) : FrameworkExpansionBayVendor :=
  match vendor with
  | some .initializing => .initializing
  | some .fanOnly => .fanOnly
  | some .gpuAmdR23M => .amdGpu
  | some .ssdHolder => .ssdHolder
  | some .pcieAccessory => .pcieAccessory
  | some .nvidiaGn22 => .nvidiaGpu
  | none => .unknown

/-- `gpu_pcie_config`. -/
def gpuPcieConfig (config : Option GpuPcieConfig) : FrameworkGpuPcieConfig :=
  match config with
  | some .pcie8x1 => .unknown
  | some .pcie4x1 => .pcie4x1
  | some .pcie4x2 => .pcie4x2
  | none => .unknown

/-- `module_descriptor`. -/
def moduleDescriptor (identity : FrameworkModuleIdentity) (bus : FrameworkModuleBus)
    (slotKind : FrameworkModuleSlotKind) (confidence : FrameworkModuleConfidence)
    (present : Bool) (slotIndex : Int32) (flags vendorId productId : UInt32)
    (boardId : Int32) : FrameworkModuleDescriptor :=
  { identity, bus, slotKind, confidence
    present := byteOfBool present
    slotIndex, flags, vendorId, productId, boardId
    position := .unknown }

/-- `expansion_card_identity`. -/
def expansionCardIdentity (upstream : Upstream) (productId : UInt16) :
    FrameworkModuleIdentity :=
  if productId = upstream.dpCardPid then .dpExpansionCard
  else if productId = upstream.hdmiCardPid then .hdmiExpansionCard
  else .unknownUsbCOccupant

/-- `expansion_card_type`. -/
def expansionCardType (identity : FrameworkModuleIdentity) : FrameworkExpansionCardType :=
  match identity with
  | .dpExpansionCard => .displayPort
  | .hdmiExpansionCard => .hdmi
  | .audioExpansionCard => .audio
  | .usbAExpansionCard => .usbA
  | .usbCExpansionCard => .usbC
  | .ethernetExpansionCard => .ethernet
  | .ethernet10GExpansionCard => .ethernet10G
  | .microSdExpansionCard => .microSd
  | .sdExpansionCard => .sd
  | .ssdExpansionCard => .ssd
  | _ => .unknown

/-- `framework16_top_row_identity`. -/
def framework16TopRowIdentity (upstream : Upstream) (productId : UInt16) :
    FrameworkModuleIdentity :=
  if productId = upstream.ledMatrixPid then .framework16LedMatrix
  else .framework16KeyboardModule

/-- `input_deck_module_identity`. -/
def inputDeckModuleIdentity (moduleType : InputModuleType) : FrameworkModuleIdentity :=
  match moduleType with
  | .keyboardA | .keyboardB | .fullWidth | .genericA | .genericB | .genericC | .short
  | .reserved1 | .reserved2 | .reserved3 | .reserved4 | .reserved5 | .reserved15 =>
      .framework16KeyboardModule
  | .hubBoard | .touchpad | .disconnected => .framework16KeyboardModule

/-- `expansion_bay_identity`. -/
def expansionBayIdentity (board : FrameworkExpansionBayBoard)
    (vendor : FrameworkExpansionBayVendor) : FrameworkModuleIdentity :=
  match vendor with
  | .fanOnly => .expansionBayFanOnly
  | .ssdHolder => .expansionBaySsdHolder
  | .pcieAccessory => .expansionBayPcieAccessory
  | .amdGpu => .expansionBayAmdGpu
  | .nvidiaGpu => .expansionBayNvidiaGpu
  | .unknown | .initializing =>
    match board with
    | .dualInterposer => .expansionBayDualInterposer
    | .singleInterposer => .expansionBaySingleInterposer
    | .umaFans => .expansionBayUmaFans
    | _ => .expansionBay

end FrameworkFfi
