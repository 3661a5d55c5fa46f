import FrameworkFfi.AbiImpls
import FrameworkFfi.Inventory.Internals
import FrameworkFfi.Inventory.Query
import FrameworkFfi.Inventory.UsbSlots

/-!
# The module inventory
-/

namespace FrameworkFfi

open Effect

/-- The descriptor of a bay that is reported as `bay`. -/
def expansionBayModule (bay : FrameworkEcExpansionBayStatus) : FrameworkModuleDescriptor :=
  if bay.present ≠ 0 then
    moduleDescriptor (expansionBayIdentity bay.board bay.vendor) .ec .expansionBay .direct true
      0 (flagIf (bay.enabled ≠ 0) .enabled ||| flagIf (bay.fault ≠ 0) .fault |||
        flagIf (bay.doorClosed ≠ 0) .doorClosed ||| moduleFlag .connected) 0 0 (-1)
  else defaultModuleDescriptor

/-- `build_expansion_bay_module`. -/
def buildExpansionBayModule : Ffi FrameworkModuleDescriptor := do
  match ← expansionBayStatus with
  | .ok bay => pure (expansionBayModule bay)
  | .error _ => pure defaultModuleDescriptor

/-- `mainboard_pd_port_count`. -/
def mainboardPdPortCount (family : Option PlatformFamily) : UInt8 :=
  match family with
  | some .frameworkDesktop => 2
  | _ => 4

/-- The table `build_module_inventory` starts `populate_usb_slots` on. -/
def emptyUsbSlotTable : UsbSlotTable :=
  { usbSlots := fun _ => defaultExpansionCardModuleDescriptor
    detachedModules := { detached := fun _ => defaultModuleDescriptor, detachedCount := 0 } }

/-- `smbios::get_platform().map(Into::into).unwrap_or(UnknownSystem)`. -/
def Machine.frameworkPlatform (m : Machine) : FrameworkPlatform :=
  (m.platform.map FrameworkPlatform.ofPlatform).getD .unknownSystem

def moduleInventory (usbCSlotCount : UInt8) (table : UsbSlotTable)
    (internals : InternalModules) (expansionBay : FrameworkModuleDescriptor) :
    FrameworkModuleInventory :=
  { usbCSlotCount
    inputTopRowCount := internals.inputTopRowCount
    detachedCount := table.detachedModules.detachedCount
    usbCSlot := table.usbSlots
    inputTopRow := internals.topRow
    inputTouchpad := internals.inputTouchpad
    internalKeyboard := internals.internalKeyboard
    internalTouchpad := internals.internalTouchpad
    fingerprintReader := internals.fingerprintReader
    touchscreen := internals.touchscreen
    webcam := internals.webcam
    expansionBay
    detached := table.detachedModules.detached }

/-- `build_module_inventory`. -/
def buildModuleInventory : Ffi FrameworkModuleInventory := do
  let family ← view Machine.family
  let platform ← view Machine.frameworkPlatform
  let usbCSlotCount := mainboardPdPortCount family
  let table ← populateUsbSlots usbCSlotCount platform emptyUsbSlotTable
  let internals ← detectInternalModules family
  let expansionBay ← buildExpansionBayModule
  pure (moduleInventory usbCSlotCount table internals expansionBay)

end FrameworkFfi
