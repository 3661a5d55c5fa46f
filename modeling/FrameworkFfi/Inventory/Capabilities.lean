import FrameworkFfi.Abi.Inventory
import FrameworkFfi.Abi.Platform

/-!
# Static capabilities of the USB-C slots

The per-platform tables of board-design facts that the controller does not
report. A table is in documented port order, so slot `0` is the first entry.
-/

namespace FrameworkFfi

/-- `cap`. -/
def cap (dataLane : FrameworkUsbCDataLane) (displayport : FrameworkDisplayPortCapability)
    (supportsPd : Bool) (maxChargeWatts : UInt16) (usbAHighPower : Bool) :
    FrameworkUsbCPortCapability :=
  { known := 1
    supportsPd := if supportsPd then 1 else 0
    usbAHighPower := if usbAHighPower then 1 else 0
    position := .unknown
    dataLane, displayport, maxChargeWatts }

/-- `unknown_capability`. -/
def unknownCapability : FrameworkUsbCPortCapability :=
  { known := 0
    supportsPd := 0
    usbAHighPower := 0
    position := .unknown
    dataLane := .unknown
    displayport := .none
    maxChargeWatts := 0 }

/-- The platforms `port_position` names as Framework Laptop 16. -/
def isFramework16 (platform : FrameworkPlatform) : Bool :=
  platform = .framework16Amd7080 ∨ platform = .framework16AmdAi300

/-- The other laptops `port_position` names. -/
def isOtherLaptop (platform : FrameworkPlatform) : Bool :=
  platform = .framework12IntelGen13 ∨ platform = .framework13Amd7080 ∨
    platform = .framework13AmdAi300 ∨ platform = .intelGen11 ∨ platform = .intelGen12 ∨
    platform = .intelGen13 ∨ platform = .intelCoreUltra1 ∨ platform = .intelCoreUltra3

/-- `port_position`. -/
def portPosition (platform : FrameworkPlatform) (index : ℕ) : FrameworkUsbCPortPosition :=
  let fl16 := isFramework16 platform
  let isLaptop := fl16 || isOtherLaptop platform
  if !isLaptop then .unknown
  else match index with
    | 0 => .rightBack
    | 1 => if fl16 then .rightMiddle else .rightFront
    | 2 => if fl16 then .leftMiddle else .leftFront
    | 3 => .leftBack
    | _ => .unknown

/-- The table of a platform, `none` where no matrix is documented. -/
def slotCapabilityTable (platform : FrameworkPlatform) :
    Option (List FrameworkUsbCPortCapability) :=
  match platform with
  | .framework16AmdAi300 => some [
      cap .usb4 .dp21Uhbr10 true 240 true,
      cap .usb32 .dp14Hbr3 true 240 false,
      cap .usb32 .dp21Uhbr10 true 240 false,
      cap .usb4 .dp21Uhbr10 true 240 true]
  | .framework16Amd7080 => some [
      cap .usb4 .supported true 240 true,
      cap .usb32 .none true 240 false,
      cap .usb32 .supported true 240 false,
      cap .usb4 .supported true 240 true]
  | .framework13AmdAi300 => some [
      cap .usb4 .dp20Uhbr20 true 100 true,
      cap .usb32Gen2x1 .dp20Uhbr10 true 100 false,
      cap .usb4 .dp20Uhbr20 true 100 true,
      cap .usb32Gen2x1 .dp14Hbr3 true 100 false]
  | .framework13Amd7080 => some [
      cap .usb4 .dp14Hbr3 true 100 true,
      cap .usb32Gen2x1 .none true 100 false,
      cap .usb4 .dp14Hbr3 true 100 true,
      cap .usb32Gen2x1 .dp14Hbr3 true 100 false]
  | .intelGen11 | .intelGen12 | .intelGen13 => some [
      cap .thunderbolt4 .dp14Hbr3 true 100 false,
      cap .thunderbolt4 .dp14Hbr3 true 100 false,
      cap .thunderbolt4 .dp14Hbr3 true 100 false,
      cap .thunderbolt4 .dp14Hbr3 true 100 false]
  | .intelCoreUltra1 => some [
      cap .thunderbolt4 .dp20 true 100 false,
      cap .thunderbolt4 .dp20 true 100 false,
      cap .thunderbolt4 .dp20 true 100 false,
      cap .thunderbolt4 .dp20 true 100 false]
  | .intelCoreUltra3 => some [
      cap .thunderbolt4 .dp21Uhbr20 true 140 false,
      cap .thunderbolt4 .dp21Uhbr20 true 140 false,
      cap .thunderbolt4 .dp21Uhbr20 true 140 false,
      cap .thunderbolt4 .dp21Uhbr20 true 140 false]
  | .framework12IntelGen13 => some [
      cap .usb32Gen2x1 .dp14Hbr3 true 64 false,
      cap .usb32Gen2x1 .dp14Hbr3 true 64 false,
      cap .usb32Gen2x2 .dp14Hbr3 true 64 false,
      cap .usb32Gen2x2 .dp14Hbr3 true 64 false]
  | .frameworkDesktopAmdAiMax300 => some [
      cap .usb32 .none false 0 false,
      cap .usb32 .none false 0 false]
  | .genericFramework | .unknownSystem => none

/-- `slot_capability`. -/
def slotCapability (platform : FrameworkPlatform) (slotIndex : ℕ) :
    FrameworkUsbCPortCapability :=
  match slotCapabilityTable platform with
  | none => unknownCapability
  | some table =>
      { table.getD slotIndex unknownCapability with
        position := portPosition platform slotIndex }

/-- `gpu_module_capability`. -/
def gpuModuleCapability (vendor : FrameworkExpansionBayVendor) :
    FrameworkUsbCPortCapability :=
  match vendor with
  | .nvidiaGpu => { cap .usb2 .dp21 true 240 false with position := .graphicsModule }
  | .amdGpu => { cap .usb2 .dp21 false 0 false with position := .graphicsModule }
  | _ => unknownCapability

/-- The slots a board documents as not wired for PD. -/
def notWiredForPd (platform : FrameworkPlatform) (slotIndex : ℕ) : Bool :=
  (slotCapability platform slotIndex).known ≠ 0 ∧
    (slotCapability platform slotIndex).supportsPd = 0

/-- Only the two front slots of the Desktop are documented without PD. -/
theorem notWiredForPd_iff (platform : FrameworkPlatform) (slotIndex : ℕ) :
    notWiredForPd platform slotIndex ↔
      platform = .frameworkDesktopAmdAiMax300 ∧ slotIndex < 2 := by
  unfold notWiredForPd slotCapability
  rcases slotIndex with _ | _ | _ | _ | slotIndex <;> cases platform <;>
    simp [slotCapabilityTable, cap, unknownCapability]

end FrameworkFfi
