import FrameworkFfi.Inventory.Capabilities
import FrameworkFfi.Pd

/-!
# Default descriptors
-/

namespace FrameworkFfi

/-- `default_expansion_bay_status`. -/
def defaultExpansionBayStatus : FrameworkEcExpansionBayStatus :=
  { present := 0
    enabled := 0
    fault := 0
    doorClosed := 0
    hasUsbCPort := 0
    board := .unknown
    vendor := .unknown
    config := .unknown
    pd := defaultPdPortState
    capability := unknownCapability
    serialNumber := .default }

/-- `default_module_descriptor`. -/
def defaultModuleDescriptor : FrameworkModuleDescriptor :=
  { identity := .none
    bus := .unknown
    slotKind := .none
    confidence := .unknown
    present := 0
    slotIndex := -1
    flags := 0
    vendorId := 0
    productId := 0
    boardId := -1
    position := .unknown }

/-- `default_expansion_card_module_descriptor`. -/
def defaultExpansionCardModuleDescriptor : FrameworkExpansionCardModuleDescriptor :=
  let d := defaultModuleDescriptor
  { identity := d.identity
    bus := d.bus
    slotKind := d.slotKind
    confidence := d.confidence
    present := d.present
    slotIndex := d.slotIndex
    flags := d.flags
    vendorId := d.vendorId
    productId := d.productId
    boardId := d.boardId
    pd := defaultPdPortState
    cardType := .unknown
    cardConfidence := .unknown
    capability := unknownCapability }

/-- `default_module_inventory`. -/
def defaultModuleInventory : FrameworkModuleInventory :=
  { usbCSlotCount := 0
    inputTopRowCount := 0
    detachedCount := 0
    usbCSlot := fun _ => defaultExpansionCardModuleDescriptor
    inputTopRow := fun _ => defaultModuleDescriptor
    inputTouchpad := defaultModuleDescriptor
    internalKeyboard := defaultModuleDescriptor
    internalTouchpad := defaultModuleDescriptor
    fingerprintReader := defaultModuleDescriptor
    touchscreen := defaultModuleDescriptor
    webcam := defaultModuleDescriptor
    expansionBay := defaultModuleDescriptor
    detached := fun _ => defaultModuleDescriptor }

end FrameworkFfi
