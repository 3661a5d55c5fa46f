import FrameworkFfi.Inventory.WellFormedRun
import Mathlib.Data.Option.Basic

/-!
# The order of the enumerations

A bus can list its devices in any order. A card gets a slot only when it is the
only one of its kind, so the slots do not depend on the order, and the order of
the detached cards is all that can change.
-/

namespace FrameworkFfi

open Effect

/-! ### Cards in another order -/

/-- The same cards of every kind, in another order. -/
structure DetectedCards.Reorders (cards cards' : DetectedCards) : Prop where
  hid : cards.hid.Perm cards'.hid
  usb : ∀ kind, (cards.usb kind).Perm (cards'.usb kind)

section Cards

variable {cards cards' : DetectedCards}

theorem DetectedCards.Reorders.hidGroups (h : cards.Reorders cards') :
    List.Forall₂ List.Perm cards.hidGroups cards'.hidGroups :=
  .cons (h.hid.map _) .nil

theorem DetectedCards.Reorders.usbGroups (h : cards.Reorders cards') :
    List.Forall₂ List.Perm cards.usbGroups cards'.usbGroups := by
  rw [DetectedCards.usbGroups, DetectedCards.usbGroups, List.forall₂_map_left_iff,
    List.forall₂_map_right_iff, List.forall₂_same]
  exact fun kind _ => (h.usb kind).map _

variable (n : ℕ) (pd : FixedArray 6 FrameworkEcPdPortState)

theorem assignedSlots_reordered (h : cards.Reorders cards') (upstream : Upstream)
    (usbSlots : UsbSlots) :
    assignedSlots n pd cards' upstream usbSlots = assignedSlots n pd cards upstream usbSlots := by
  have hhid : hidPlacement n pd cards' = hidPlacement n pd cards :=
    Correlation.placement_reordered _ h.hidGroups
  have husb : usbPlacement n pd cards' = usbPlacement n pd cards :=
    Correlation.placement_reordered _ h.usbGroups
  rw [assignedSlots, assignedSlots, hhid, husb]

theorem unassignedCards_reordered (h : cards.Reorders cards') :
    (unassignedCards n pd cards).Perm (unassignedCards n pd cards') :=
  (Correlation.leftover_reordered _ h.hidGroups).append
    (Correlation.leftover_reordered _ h.usbGroups)

end Cards

/-! ### The detached cards -/

section Detached

variable {modules modules' : List FrameworkModuleDescriptor}

theorem ofFn_firstDetached (h : modules.length ≤ 4) (empty : FrameworkModuleDescriptor) :
    List.ofFn (firstDetached modules fun _ => empty).detached =
      modules ++ List.replicate (4 - modules.length) empty := by
  refine List.ext_getElem ?_ fun k hk hk' => ?_
  · rw [List.length_ofFn, List.length_append, List.length_replicate]
    omega
  · rw [List.getElem_ofFn]
    show modules[k]?.getD empty = _
    by_cases hlt : k < modules.length
    · rw [List.getElem_append_left hlt, List.getElem?_eq_getElem hlt, Option.getD_some]
    · rw [List.getElem_append_right (Nat.le_of_not_lt hlt), List.getElem_replicate,
        List.getElem?_eq_none (Nat.le_of_not_lt hlt), Option.getD_none]

theorem detachedCount_reordered (h : modules.Perm modules')
    (before : FixedArray 4 FrameworkModuleDescriptor) :
    (firstDetached modules' before).detachedCount =
      (firstDetached modules before).detachedCount := by
  rw [firstDetached, firstDetached, h.length_eq]

theorem detached_reordered (h : modules.Perm modules') (empty : FrameworkModuleDescriptor)
    (hfew : (firstDetached modules fun _ => empty).detachedCount < 4) :
    (List.ofFn (firstDetached modules fun _ => empty).detached).Perm
      (List.ofFn (firstDetached modules' fun _ => empty).detached) := by
  have hlength : modules.length ≤ 4 := by
    by_contra hmany
    have hfour : (firstDetached modules fun _ => empty).detachedCount = 4 := by
      rw [firstDetached, Nat.min_eq_left (by omega)]
      rfl
    rw [hfour] at hfew
    exact absurd hfew (by decide)
  rw [ofFn_firstDetached hlength, ofFn_firstDetached (h.length_eq ▸ hlength), h.length_eq]
  exact h.append_right _

end Detached

/-! ### Machines that list their devices in another order -/

/-- The machines differ in the order in which USB and HID devices are listed, and in
what has nothing to do with the slots. -/
structure Machine.Reorders (m m' : Machine) : Prop where
  family : m'.family = m.family
  platform : m'.platform = m.platform
  upstream : m'.upstream = m.upstream
  pdPortState : ∀ port k, m'.answer (.getPdPortState port) k = m.answer (.getPdPortState port) k
  usbDevices : ∀ k, Option.Rel List.Perm (m.answer .usbDevices k) (m'.answer .usbDevices k)
  expansionCards : ∀ k, Option.Rel List.Perm (m.answer .findExpansionCardDevices k)
    (m'.answer .findExpansionCardDevices k)

section Machines

variable {m m' : Machine} {w w₁ w₁' : World}

theorem detectedCards_reordered (h : m.Reorders m') :
    (m.detectedCards w).Reorders (m'.detectedCards w) where
  hid := by
    have hdevices := h.expansionCards (w.asked .findExpansionCardDevices)
    unfold Machine.detectedCards
    dsimp only
    generalize m.answer .findExpansionCardDevices _ = devices at hdevices
    generalize m'.answer .findExpansionCardDevices _ = devices' at hdevices
    cases hdevices with
    | none => exact .refl _
    | some hperm => exact (hperm.filter _).map _
  usb kind := by
    have hdevices := h.usbDevices (w.asked .usbDevices + kind.passIndex)
    unfold Machine.detectedCards Machine.usbEnumeration
    rw [h.upstream]
    dsimp only
    generalize m.answer .usbDevices _ = devices at hdevices
    generalize m'.answer .usbDevices _ = devices' at hdevices
    cases hdevices with
    | none => exact .refl _
    | some hperm => exact hperm.filterMap _

/-- The inventory of a machine that lists its devices in another order has the same
slots and as many detached cards, the same ones as long as they all fit. -/
theorem buildModuleInventory_reordered (h : m.Reorders m') {inventory inventory'}
    (hr : Returns buildModuleInventory m w inventory w₁)
    (hr' : Returns buildModuleInventory m' w inventory' w₁') :
    inventory'.usbCSlotCount = inventory.usbCSlotCount ∧
      inventory'.usbCSlot = inventory.usbCSlot ∧
      inventory'.detachedCount = inventory.detachedCount ∧
      (inventory.detachedCount < 4 →
        (List.ofFn inventory.detached).Perm (List.ofFn inventory'.detached)) := by
  obtain ⟨internals, _, bay, -, -, rfl⟩ := returns_buildModuleInventory.mp hr
  obtain ⟨internals', _, bay', -, -, rfl⟩ := returns_buildModuleInventory.mp hr'
  have hcards := detectedCards_reordered (w := w) h
  have hplatform : m'.frameworkPlatform = m.frameworkPlatform := by
    rw [Machine.frameworkPlatform, Machine.frameworkPlatform, h.platform]
  have hpd : m'.pdPortStates w = m.pdPortStates w := by
    funext i
    exact congrArg pdPortStateOfReply (h.pdPortState _ _)
  have hmodules := (unassignedCards_reordered (mainboardPdPortCount m.family).toNat
    (m.pdPortStates w) hcards).map (EnumeratedCard.detach m.upstream)
  rw [h.family, h.upstream, hplatform, hpd]
  refine ⟨rfl, ?_, detachedCount_reordered hmodules fun _ => defaultModuleDescriptor,
    detached_reordered hmodules defaultModuleDescriptor⟩
  show applyCapabilities _ _ _ = applyCapabilities _ _ _
  rw [assignedSlots_reordered _ _ hcards]

end Machines

def storageDevice : UsbDevice := ⟨1, some ⟨0x32AC, 0x0005, 1, 0, 0, none⟩, none⟩

def ethernetDevice : UsbDevice := ⟨2, some ⟨0x0BDA, 0x8156, 3, 1, 0, none⟩, none⟩

/-- One port is connected, and the USB bus lists these devices. -/
def listingMachine (devices : List UsbDevice) : Machine :=
  (Machine.silent.answering (.getPdPortState 0) (.ok attachedSource)).answering .usbDevices
    (some devices)

/-- The SSD has the slot in either order. -/
theorem buildModuleInventory_reordered_two :
    ∃ inventory w₁ inventory' w₁',
      Returns buildModuleInventory (listingMachine [storageDevice, ethernetDevice]) .fresh
        inventory w₁ ∧
      Returns buildModuleInventory (listingMachine [ethernetDevice, storageDevice]) .fresh
        inventory' w₁' ∧
      inventory'.usbCSlot = inventory.usbCSlot ∧
      (inventory.usbCSlot 0).identity = .ssdExpansionCard ∧ inventory'.detachedCount = 1 := by
  obtain ⟨inventory, w₁, hr, hslot, hcount⟩ : ∃ inventory w₁,
      Returns buildModuleInventory (listingMachine [storageDevice, ethernetDevice]) .fresh
        inventory w₁ ∧ (inventory.usbCSlot 0).identity = .ssdExpansionCard ∧
        inventory.detachedCount = 1 := ⟨_, _, rfl, rfl, rfl⟩
  obtain ⟨inventory', w₁', hr'⟩ : Completes buildModuleInventory
      (listingMachine [ethernetDevice, storageDevice]) .fresh := ⟨_, _, rfl⟩
  have hreorders : (listingMachine [storageDevice, ethernetDevice]).Reorders
      (listingMachine [ethernetDevice, storageDevice]) :=
    { family := rfl
      platform := rfl
      upstream := rfl
      pdPortState := fun _ _ => rfl
      usbDevices := fun _ => .some (.swap _ _ _)
      expansionCards := fun _ => .none }
  obtain ⟨-, hslots, hcounts, -⟩ := buildModuleInventory_reordered hreorders hr hr'
  exact ⟨inventory, w₁, inventory', w₁', hr, hr', hslots, hslot, hcounts.trans hcount⟩

end FrameworkFfi
