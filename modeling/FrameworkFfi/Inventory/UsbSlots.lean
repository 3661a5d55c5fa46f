import FrameworkFfi.Inventory.Conversions
import FrameworkFfi.Inventory.Detect

/-!
# The USB-C slots

`populateUsbSlots` reads the PD state of every port, then runs one pass per kind
of expansion card. A pass puts a card into a slot when there is exactly one card
of its kind and exactly one slot left that could hold it, and detaches all of
its cards otherwise. A last loop writes the static capabilities and clears the
PD state of the slots the board does not wire for PD.
-/

namespace FrameworkFfi

open Effect

/-- `MAX_USB_C_SLOT_COUNT` is 6. -/
abbrev UsbSlots := FixedArray 6 FrameworkExpansionCardModuleDescriptor

abbrev PdStates := FixedArray 6 (Option FrameworkEcPdPortState)

/-- What `populate_usb_slots` writes: the slots and the detached modules. -/
@[ext] structure UsbSlotTable where
  usbSlots : UsbSlots
  detachedModules : DetachedModules

/-- `make_expansion_card`. -/
def makeExpansionCard (base : FrameworkModuleDescriptor) (pdState : FrameworkEcPdPortState)
    (cardType : FrameworkExpansionCardType) (cardConfidence : FrameworkModuleConfidence) :
    FrameworkExpansionCardModuleDescriptor :=
  { identity := base.identity
    bus := base.bus
    slotKind := base.slotKind
    confidence := base.confidence
    present := base.present
    slotIndex := base.slotIndex
    flags := base.flags
    vendorId := base.vendorId
    productId := base.productId
    boardId := base.boardId
    pd := pdState
    cardType, cardConfidence
    capability := unknownCapability }

/-- `!matches!(pd.c_state, Nothing)`. -/
def pdConnected (pd : FrameworkEcPdPortState) : Bool := pd.cState ≠ .nothing

/-- `pd.alt_mode_flags & 0x03 != 0`. -/
def pdDpAltMode (pd : FrameworkEcPdPortState) : Bool := pd.altModeFlags &&& 0x03 ≠ 0

/-- `pd_flags`. -/
def pdFlags (pd : FrameworkEcPdPortState) : UInt32 :=
  let connected := pdConnected pd
  let dpAltMode := pdDpAltMode pd
  let active := pd.activePort ≠ 0 || dpAltMode
  flagIf connected .connected ||| flagIf (pd.hasPdContract ≠ 0) .hasPdContract |||
    flagIf dpAltMode .displayAltMode ||| flagIf active .active

/-- The slot a port with this PD state starts as. -/
def portSlot (index : ℕ) (pd : FrameworkEcPdPortState)
    (slot : FrameworkExpansionCardModuleDescriptor) :
    FrameworkExpansionCardModuleDescriptor :=
  if pdConnected pd then
    makeExpansionCard
      (moduleDescriptor .unknownUsbCOccupant .ec .usbCExpansionCardSlot
        (if pdDpAltMode pd then .derivedStrong else .derivedWeak) true (Int32.ofNat index)
        (pdFlags pd) 0 0 (-1))
      pd .unknown .unknown
  else
    { slot with
      slotIndex := Int32.ofNat index
      slotKind := .usbCExpansionCardSlot
      pd := pd }

/-- One round of the first loop of `populate_usb_slots`. -/
def readPort (state : UsbSlots × PdStates) (index : ℕ) : Ffi (UsbSlots × PdStates) := do
  let pd ← queryPdPortState (UInt8.ofNat index)
  let i ← checkIndex 6 index
  pure (Function.update state.1 i (portSlot index pd (state.1 i)),
    Function.update state.2 i (some pd))

/-- The first loop of `populate_usb_slots`. -/
def readPorts (usbCSlotCount : UInt8) (usbSlots : UsbSlots) : Ffi (UsbSlots × PdStates) :=
  (List.range usbCSlotCount.toNat).foldlM readPort (usbSlots, fun _ => none)

/-- `dp_slots`. -/
def dpSlots (pdStates : PdStates) : List (Fin 6) :=
  (List.finRange 6).filter fun i => (pdStates i).any pdDpAltMode

/-- `unassigned_non_dp`, and `candidates` of `assign_card_pass`. -/
def candidates (pdStates : PdStates) (usbSlots : UsbSlots) : List (Fin 6) :=
  (List.finRange 6).filter fun i => (pdStates i).any fun p =>
    pdConnected p && !pdDpAltMode p && (usbSlots i).identity = .unknownUsbCOccupant

/-- The card a pass puts into a slot. -/
def placedCard (slot : FrameworkExpansionCardModuleDescriptor) (i : Fin 6)
    (identity : FrameworkModuleIdentity) (bus : FrameworkModuleBus)
    (slotConfidence cardConfidence : FrameworkModuleConfidence)
    (vendorId productId : UInt16) : FrameworkExpansionCardModuleDescriptor :=
  makeExpansionCard
    (moduleDescriptor identity bus .usbCExpansionCardSlot slotConfidence true
      (Int32.ofNat i) (slot.flags ||| moduleFlag .connected) vendorId.toUInt32
      productId.toUInt32 (-1))
    slot.pd (expansionCardType identity) cardConfidence

/-- The entry of a card that a pass could not put into a slot. -/
def detachedCard (identity : FrameworkModuleIdentity) (bus : FrameworkModuleBus)
    (confidence : FrameworkModuleConfidence) (vendorId productId : UInt16) :
    FrameworkModuleDescriptor :=
  moduleDescriptor identity bus .detached confidence true (-1) (moduleFlag .connected)
    vendorId.toUInt32 productId.toUInt32 (-1)

/-- What a pass does: place its one card on its one target, or detach its cards. -/
def correlate {κ : Type} (targets : List (Fin 6)) (cards : List κ)
    (place : FrameworkExpansionCardModuleDescriptor → Fin 6 → κ →
      FrameworkExpansionCardModuleDescriptor)
    (detach : κ → FrameworkModuleDescriptor) (table : UsbSlotTable) : UsbSlotTable :=
  match cards, targets with
  | [card], [i] =>
      { table with
        usbSlots := Function.update table.usbSlots i (place (table.usbSlots i) i card) }
  | _, _ =>
      { table with
        detachedModules := (cards.map detach).foldl pushDetachedModule table.detachedModules }

def assignExpansionCards (upstream : Upstream) (pdStates : PdStates)
    (cards : List HidModuleObservation) (table : UsbSlotTable) : UsbSlotTable :=
  correlate (dpSlots pdStates) cards
    (fun slot i card => placedCard slot i (expansionCardIdentity upstream card.productId)
      .composite .direct .direct card.vendorId card.productId)
    (fun card => detachedCard (expansionCardIdentity upstream card.productId) .hid .direct
      card.vendorId card.productId)
    table

/-- The audio pass. A placed card is on both buses, a detached one on USB. -/
def assignAudioCards (pdStates : PdStates) (cards : List UsbModuleObservation)
    (table : UsbSlotTable) : UsbSlotTable :=
  correlate (candidates pdStates table.usbSlots) cards
    (fun slot i card => placedCard slot i .audioExpansionCard .composite .derivedWeak .direct
      card.vendorId card.productId)
    (fun card => detachedCard .audioExpansionCard .usb .direct card.vendorId card.productId)
    table

/-- `assign_card_pass`. -/
def assignCardPass (pdStates : PdStates) (cards : List UsbModuleObservation)
    (identity : FrameworkModuleIdentity) (bus : FrameworkModuleBus)
    (slotConfidence cardConfidence : FrameworkModuleConfidence) (table : UsbSlotTable) :
    UsbSlotTable :=
  correlate (candidates pdStates table.usbSlots) cards
    (fun slot i card => placedCard slot i identity bus slotConfidence cardConfidence
      card.vendorId card.productId)
    (fun card => detachedCard identity bus cardConfidence card.vendorId card.productId)
    table

/-- The last loop of `populate_usb_slots`, on one slot. -/
def applyCapability (platform : FrameworkPlatform) (index : ℕ)
    (slot : FrameworkExpansionCardModuleDescriptor) :
    FrameworkExpansionCardModuleDescriptor :=
  let capability := slotCapability platform index
  { slot with
    capability
    pd := if notWiredForPd platform index then defaultPdPortState else slot.pd }

/-- The last loop of `populate_usb_slots`. -/
def applyCapabilities (usbCSlotCount : UInt8) (platform : FrameworkPlatform)
    (usbSlots : UsbSlots) : UsbSlots :=
  fun i => if i.val < usbCSlotCount.toNat then applyCapability platform i (usbSlots i)
    else usbSlots i

/-- `populate_usb_slots`. -/
def populateUsbSlots (usbCSlotCount : UInt8) (platform : FrameworkPlatform)
    (table : UsbSlotTable) : Ffi UsbSlotTable := do
  let upstream ← view Machine.upstream
  let (usbSlots, pdStates) ← readPorts usbCSlotCount table.usbSlots
  let table := { table with usbSlots }
  let table := assignExpansionCards upstream pdStates (← detectExpansionCardsLocal) table
  let table := assignAudioCards pdStates (← detectAudioCardsLocal) table
  let table := assignCardPass pdStates (← detectSsdCardsLocal)
    .ssdExpansionCard .usb .direct .direct table
  let table := assignCardPass pdStates (← detectUsbACardsLocal)
    .usbAExpansionCard .usb .derivedWeak .derivedWeak table
  let table := assignCardPass pdStates (← detectEthernetCardsLocal)
    .ethernetExpansionCard .usb .derivedWeak .derivedWeak table
  let table := assignCardPass pdStates (← detectSdCardsLocal)
    .sdExpansionCard .usb .derivedWeak .derivedWeak table
  let table := assignCardPass pdStates (← detectMicroSdCardsLocal)
    .microSdExpansionCard .usb .derivedWeak .derivedWeak table
  pure { table with usbSlots := applyCapabilities usbCSlotCount platform table.usbSlots }

end FrameworkFfi
