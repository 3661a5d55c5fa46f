import FrameworkFfi.Inventory.Ports
import FrameworkFfi.Library.Correlation

/-!
# The card passes as one correlation

The seven passes over the slots are two runs of the correlation by elimination:
one of the DP/HDMI cards with the ports in display mode, and one of the six
kinds of USB cards with the connected ports that are not. `oneShot` is the net
effect of both, without passes, and `populateUsbSlots` returns it.
-/

namespace FrameworkFfi

open Effect

/-- The kinds of cards that are found on USB. -/
inductive UsbCardKind where
  | audio
  | ssd
  | usbA
  | ethernet
  | sd
  | microSd
  deriving DecidableEq

namespace UsbCardKind

def passOrder : List UsbCardKind := [.audio, .ssd, .usbA, .ethernet, .sd, .microSd]

def identity : UsbCardKind → FrameworkModuleIdentity
  | .audio => .audioExpansionCard
  | .ssd => .ssdExpansionCard
  | .usbA => .usbAExpansionCard
  | .ethernet => .ethernetExpansionCard
  | .sd => .sdExpansionCard
  | .microSd => .microSdExpansionCard

def slotBus : UsbCardKind → FrameworkModuleBus
  | .audio => .composite
  | .ssd | .usbA | .ethernet | .sd | .microSd => .usb

def slotConfidence : UsbCardKind → FrameworkModuleConfidence
  | .ssd => .direct
  | .audio | .usbA | .ethernet | .sd | .microSd => .derivedWeak

def cardConfidence : UsbCardKind → FrameworkModuleConfidence
  | .audio | .ssd => .direct
  | .usbA | .ethernet | .sd | .microSd => .derivedWeak

def isMatch (upstream : Upstream) : UsbCardKind → UsbMatch
  | .audio => audioCardMatch upstream
  | .ssd => ssdCardMatch
  | .usbA => usbACardMatch
  | .ethernet => ethernetCardMatch
  | .sd => sdCardMatch
  | .microSd => microSdCardMatch

theorem identity_ne (kind : UsbCardKind) : kind.identity ≠ .unknownUsbCOccupant := by
  cases kind <;> simp [identity]

theorem mem_passOrder (kind : UsbCardKind) : kind ∈ passOrder := by
  cases kind <;> decide

end UsbCardKind

/-- The cards the seven detectors found. -/
structure DetectedCards where
  hid : List HidModuleObservation
  usb : UsbCardKind → List UsbModuleObservation

/-- A card of either bus. -/
inductive EnumeratedCard where
  | hid (card : HidModuleObservation)
  | usb (kind : UsbCardKind) (card : UsbModuleObservation)
  deriving DecidableEq

namespace EnumeratedCard

/-- The descriptor of a card in slot `i`. -/
def place (upstream : Upstream) (card : EnumeratedCard)
    (slot : FrameworkExpansionCardModuleDescriptor) (i : Fin 6) :
    FrameworkExpansionCardModuleDescriptor :=
  match card with
  | .hid card => placedCard slot i (expansionCardIdentity upstream card.productId) .composite
      .direct .direct card.vendorId card.productId
  | .usb kind card => placedCard slot i kind.identity kind.slotBus kind.slotConfidence
      kind.cardConfidence card.vendorId card.productId

def detach (upstream : Upstream) (card : EnumeratedCard) : FrameworkModuleDescriptor :=
  match card with
  | .hid card => detachedCard (expansionCardIdentity upstream card.productId) .hid .direct
      card.vendorId card.productId
  | .usb kind card => detachedCard kind.identity .usb kind.cardConfidence card.vendorId
      card.productId

end EnumeratedCard

/-! ### The specification -/

/-- The ports below `n` in display mode. -/
def displayPorts (n : ℕ) (pd : FixedArray 6 FrameworkEcPdPortState) : List (Fin 6) :=
  (List.finRange 6).filter fun i => i.val < n && pdDpAltMode (pd i)

/-- The ports below `n` that are connected and not in display mode. -/
def plainPorts (n : ℕ) (pd : FixedArray 6 FrameworkEcPdPortState) : List (Fin 6) :=
  (List.finRange 6).filter fun i => i.val < n && pdConnected (pd i) && !pdDpAltMode (pd i)

namespace DetectedCards

def hidGroups (cards : DetectedCards) : List (List EnumeratedCard) :=
  [cards.hid.map .hid]

def usbGroups (cards : DetectedCards) : List (List EnumeratedCard) :=
  UsbCardKind.passOrder.map fun kind => (cards.usb kind).map (.usb kind)

end DetectedCards

section OneShot

variable (n : ℕ) (pd : FixedArray 6 FrameworkEcPdPortState) (cards : DetectedCards)

/-- The DP/HDMI card that has a slot: the only one, when one port is in display
mode. -/
def hidPlacement : Option (Fin 6 × EnumeratedCard) :=
  Correlation.placement (displayPorts n pd) cards.hidGroups

/-- The USB card that has a slot: the card of the first kind with exactly one,
when one port is left. -/
def usbPlacement : Option (Fin 6 × EnumeratedCard) :=
  Correlation.placement (plainPorts n pd) cards.usbGroups

/-- The cards without a slot, in pass order. -/
def unassignedCards : List EnumeratedCard :=
  Correlation.leftover (displayPorts n pd) cards.hidGroups ++
    Correlation.leftover (plainPorts n pd) cards.usbGroups

/-- A slot array with the card of a pair put in its place. -/
def placeIn (upstream : Upstream) (pair : Option (Fin 6 × EnumeratedCard))
    (usbSlots : UsbSlots) : UsbSlots :=
  match pair with
  | none => usbSlots
  | some (i, card) => Function.update usbSlots i (card.place upstream (usbSlots i) i)

/-- The slots before the last loop. -/
def assignedSlots (upstream : Upstream) (usbSlots : UsbSlots) : UsbSlots :=
  placeIn upstream (usbPlacement n pd cards)
    (placeIn upstream (hidPlacement n pd cards) (portSlots n pd usbSlots))

/-- The card a pair puts into slot `i`. -/
def cardOn {κ : Type} (i : Fin 6) (pair : Option (Fin 6 × κ)) : Option κ :=
  pair.bind fun p => if p.1 = i then some p.2 else none

/-- The card in slot `i`. -/
def cardAt (i : Fin 6) : Option EnumeratedCard :=
  (cardOn i (hidPlacement n pd cards)).or (cardOn i (usbPlacement n pd cards))

/-- The first four of a list of modules, over what stood there before. -/
def firstDetached (modules : List FrameworkModuleDescriptor)
    (before : FixedArray 4 FrameworkModuleDescriptor) : DetachedModules :=
  { detached := fun k => modules[k.val]?.getD (before k)
    detachedCount := UInt8.ofNat (min 4 modules.length) }

/-- The one-shot specification of `populate_usb_slots`. -/
def oneShot (upstream : Upstream) (platform : FrameworkPlatform) (usbCSlotCount : UInt8)
    (pd : FixedArray 6 FrameworkEcPdPortState) (cards : DetectedCards)
    (table : UsbSlotTable) : UsbSlotTable :=
  { usbSlots := applyCapabilities usbCSlotCount platform
      (assignedSlots usbCSlotCount.toNat pd cards upstream table.usbSlots)
    detachedModules := firstDetached
      ((unassignedCards usbCSlotCount.toNat pd cards).map (EnumeratedCard.detach upstream))
      table.detachedModules.detached }

end OneShot

end FrameworkFfi
