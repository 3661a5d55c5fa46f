import FrameworkFfi.Inventory.SlotState
import Mathlib.Data.List.FinRange

/-!
# The entries behind the descriptors

The inventory is computed from observations that do not say which entry of a bus
they come from. Here the passes are repeated on the entries themselves, named by
their position in the enumeration, and the observations are read off at the end.
The result tells for every descriptor the entry it reports.
-/

namespace FrameworkFfi

open Effect

/-! ### The detectors are disjoint -/

/-- The detectors that read the USB enumeration. -/
inductive UsbDetector where
  | card (kind : UsbCardKind)
  | inputModules
  | cameras
  deriving DecidableEq

def UsbDetector.isMatch (upstream : Upstream) : UsbDetector → UsbMatch
  | .card kind => kind.isMatch upstream
  | .inputModules => inputModuleMatch upstream
  | .cameras => cameraMatch upstream

def UsbDetector.recognises (upstream : Upstream) (detector : UsbDetector)
    (device : UsbDevice) : Bool :=
  (usbObservation (detector.isMatch upstream) unplaced device).isSome

/-- The detector of each id, by the table of the notes. -/
def tabulatedDetector (vid pid : UInt16) : Option UsbDetector :=
  if vid = 0x32AC then
    if pid = 0x0010 then some (.card .audio)
    else if pid = 0x0005 then some (.card .ssd)
    else if pid = 0x001C ∨ pid = 0x001D then some .cameras
    else some .inputModules
  else if vid = 0x0BDA then
    if pid = 0x8156 then some (.card .ethernet) else some (.card .usbA)
  else
    if pid = 0x0749 then some (.card .sd)
    else if pid = 0x0751 then some (.card .microSd)
    else some (.card .usbA)

section Tabulated

variable {upstream : Upstream} {vid pid : UInt16}

theorem tabulatedDetector_of_cardMatch (h : upstream.Tabulated) {kind : UsbCardKind}
    (hmatch : kind.isMatch upstream vid pid = true) :
    tabulatedDetector vid pid = some (.card kind) := by
  cases kind with
  | audio =>
      simp only [UsbCardKind.isMatch, audioCardMatch, h.audioCardFrameworkVid, h.audioCardPid,
        Bool.and_eq_true, decide_eq_true_eq] at hmatch
      obtain ⟨rfl, rfl⟩ := hmatch
      rfl
  | ssd =>
      simp only [UsbCardKind.isMatch, ssdCardMatch, Bool.and_eq_true, decide_eq_true_eq]
        at hmatch
      obtain ⟨rfl, rfl⟩ := hmatch
      rfl
  | usbA =>
      simp only [UsbCardKind.isMatch, usbACardMatch, Bool.and_eq_true, Bool.or_eq_true,
        decide_eq_true_eq] at hmatch
      rcases hmatch with ⟨rfl, rfl | rfl⟩ | ⟨rfl, rfl⟩ <;> rfl
  | ethernet =>
      simp only [UsbCardKind.isMatch, ethernetCardMatch, Bool.and_eq_true, decide_eq_true_eq]
        at hmatch
      obtain ⟨rfl, rfl⟩ := hmatch
      rfl
  | sd =>
      simp only [UsbCardKind.isMatch, sdCardMatch, Bool.and_eq_true, decide_eq_true_eq]
        at hmatch
      obtain ⟨rfl, rfl⟩ := hmatch
      rfl
  | microSd =>
      simp only [UsbCardKind.isMatch, microSdCardMatch, Bool.and_eq_true, decide_eq_true_eq]
        at hmatch
      obtain ⟨rfl, rfl⟩ := hmatch
      rfl

theorem tabulatedDetector_of_inputModule (hvid : vid = 0x32AC)
    (hpid : (0x0012 ≤ pid ∧ pid ≤ 0x0019) ∨ pid = 0x0030 ∨ pid = 0x0020) :
    tabulatedDetector vid pid = some .inputModules := by
  subst hvid
  have hne : ∀ other : UInt16, (other < 0x0012 ∨ other = 0x001C ∨ other = 0x001D) →
      pid ≠ other := by
    rintro other hother rfl
    simp only [UInt16.le_iff_toNat_le, UInt16.lt_iff_toNat_lt, ← UInt16.toNat_inj,
      UInt16.reduceToNat] at hpid hother
    omega
  rw [tabulatedDetector, if_pos rfl, if_neg (hne _ (.inl (by decide))),
    if_neg (hne _ (.inl (by decide))), if_neg]
  rintro (hpid | hpid)
  · exact hne _ (.inr (.inl rfl)) hpid
  · exact hne _ (.inr (.inr rfl)) hpid

theorem tabulatedDetector_of_isMatch (h : upstream.Tabulated) {detector : UsbDetector}
    (hmatch : detector.isMatch upstream vid pid = true) :
    tabulatedDetector vid pid = some detector := by
  cases detector with
  | card kind => exact tabulatedDetector_of_cardMatch h hmatch
  | inputModules =>
      simp only [UsbDetector.isMatch, inputModuleMatch, h.inputModuleFrameworkVid,
        Bool.and_eq_true, decide_eq_true_eq] at hmatch
      exact tabulatedDetector_of_inputModule hmatch.1
        (h.framework16InputModulePids pid hmatch.2)
  | cameras =>
      simp only [UsbDetector.isMatch, cameraMatch, h.cameraFrameworkVid,
        h.framework13And16SecondGenPid, h.framework12Pid, Bool.and_eq_true, Bool.or_eq_true,
        decide_eq_true_eq] at hmatch
      rcases hmatch with ⟨rfl, rfl | rfl⟩ <;> rfl

theorem UsbDetector.isMatch_of_recognises {detector : UsbDetector} {device : UsbDevice}
    (h : detector.recognises upstream device = true) :
    ∃ descriptor, device.deviceDescriptor = some descriptor ∧
      detector.isMatch upstream descriptor.vendorId descriptor.productId = true := by
  unfold recognises usbObservation at h
  cases hdescriptor : device.deviceDescriptor with
  | none => simp [hdescriptor] at h
  | some descriptor =>
      rw [hdescriptor] at h
      refine ⟨descriptor, rfl, ?_⟩
      by_contra hmatch
      simp [hmatch] at h

theorem UsbDetector.recognises_unique (h : upstream.Tabulated) {device : UsbDevice}
    {detector other : UsbDetector} (hdetector : detector.recognises upstream device = true)
    (hother : other.recognises upstream device = true) : detector = other := by
  obtain ⟨descriptor, hdescriptor, hmatch⟩ := isMatch_of_recognises hdetector
  obtain ⟨descriptor', hdescriptor', hmatch'⟩ := isMatch_of_recognises hother
  obtain rfl : descriptor = descriptor' := Option.some.inj (hdescriptor.symm.trans hdescriptor')
  exact Option.some.inj ((tabulatedDetector_of_isMatch h hmatch).symm.trans
    (tabulatedDetector_of_isMatch h hmatch'))

end Tabulated

/-! ### The entries of the two buses -/

/-- The two enumerations the cards are found on. -/
structure Enumerations where
  hid : List HidDevice
  usb : List UsbDevice

/-- An entry of an enumeration, by its position. -/
inductive BusEntry (buses : Enumerations) where
  | hid (k : Fin buses.hid.length)
  | usb (k : Fin buses.usb.length)
  deriving DecidableEq

/-- An entry that was detected as a card. -/
inductive CardOrigin (buses : Enumerations) where
  | hid (k : Fin buses.hid.length)
  | usb (kind : UsbCardKind) (k : Fin buses.usb.length)
  deriving DecidableEq

/-- The vendor id of a device, zero when its descriptor cannot be read. -/
def UsbDevice.vendorId (device : UsbDevice) : UInt16 :=
  (device.deviceDescriptor.map UsbDeviceDescriptor.vendorId).getD 0

def UsbDevice.productId (device : UsbDevice) : UInt16 :=
  (device.deviceDescriptor.map UsbDeviceDescriptor.productId).getD 0

def UsbDevice.observation (slotIndex : UsbDevice → Int32) (device : UsbDevice) :
    UsbModuleObservation := ⟨device.vendorId, device.productId, slotIndex device⟩

namespace BusEntry

variable {buses : Enumerations}

def vendorId : BusEntry buses → UInt16
  | .hid k => (buses.hid.get k).vendorId
  | .usb k => (buses.usb.get k).vendorId

def productId : BusEntry buses → UInt16
  | .hid k => (buses.hid.get k).productId
  | .usb k => (buses.usb.get k).productId

end BusEntry

namespace CardOrigin

variable {buses : Enumerations}

def entry : CardOrigin buses → BusEntry buses
  | .hid k => .hid k
  | .usb _ k => .usb k

def card : CardOrigin buses → EnumeratedCard
  | .hid k => .hid ⟨(buses.hid.get k).vendorId, (buses.hid.get k).productId⟩
  | .usb kind k => .usb kind ((buses.usb.get k).observation unplaced)

end CardOrigin

namespace Enumerations

variable (buses : Enumerations) (upstream : Upstream)

def recognised (detector : UsbDetector) : List (Fin buses.usb.length) :=
  (List.finRange buses.usb.length).filter fun k =>
    detector.recognises upstream (buses.usb.get k)

def hidGroups : List (List (CardOrigin buses)) :=
  [(List.finRange buses.hid.length).map .hid]

def usbGroups : List (List (CardOrigin buses)) :=
  UsbCardKind.passOrder.map fun kind => (buses.recognised upstream (.card kind)).map (.usb kind)

/-- All detected cards in pass order. -/
def matchedCards : List (CardOrigin buses) :=
  buses.hidGroups.flatten ++ (buses.usbGroups upstream).flatten

section Placed

variable (n : ℕ) (pd : FixedArray 6 FrameworkEcPdPortState)

def hidPlaced : Option (Fin 6 × CardOrigin buses) :=
  Correlation.placement (displayPorts n pd) buses.hidGroups

def usbPlaced : Option (Fin 6 × CardOrigin buses) :=
  Correlation.placement (plainPorts n pd) (buses.usbGroups upstream)

def unassigned : List (CardOrigin buses) :=
  Correlation.leftover (displayPorts n pd) buses.hidGroups ++
    Correlation.leftover (plainPorts n pd) (buses.usbGroups upstream)

/-- The card in slot `i`. -/
def slotOrigin (i : Fin 6) : Option (CardOrigin buses) :=
  (cardOn i (buses.hidPlaced n pd)).or (cardOn i (buses.usbPlaced upstream n pd))

end Placed

end Enumerations

/-! ### The observations are those of the entries -/

theorem usbObservation_eq (upstream : Upstream) (detector : UsbDetector)
    (slotIndex : UsbDevice → Int32) (device : UsbDevice) :
    usbObservation (detector.isMatch upstream) slotIndex device =
      (Option.guard (detector.recognises upstream) device).map
        (UsbDevice.observation slotIndex) := by
  unfold UsbDetector.recognises usbObservation UsbDevice.observation UsbDevice.vendorId
    UsbDevice.productId
  cases hdescriptor : device.deviceDescriptor with
  | none => simp [Option.guard, hdescriptor]
  | some descriptor =>
      by_cases hmatch : detector.isMatch upstream descriptor.vendorId descriptor.productId = true
      · simp [Option.guard, hdescriptor, hmatch]
      · simp [Option.guard, hdescriptor, hmatch]

theorem usbObservations_eq (upstream : Upstream) (buses : Enumerations)
    (detector : UsbDetector) (slotIndex : UsbDevice → Int32) :
    usbObservations (detector.isMatch upstream) slotIndex (some buses.usb) =
      (buses.recognised upstream detector).map fun k =>
        (buses.usb.get k).observation slotIndex := by
  have husb : buses.usb = (List.finRange buses.usb.length).map buses.usb.get :=
    (List.map_get_finRange buses.usb).symm
  have hfilter := List.filterMap_map (f := buses.usb.get)
    (g := usbObservation (detector.isMatch upstream) slotIndex)
    (l := List.finRange buses.usb.length)
  rw [← husb] at hfilter
  rw [Enumerations.recognised, ← List.filterMap_eq_filter, List.map_filterMap]
  refine hfilter.trans (List.filterMap_congr fun k _ => ?_)
  rw [Function.comp_apply, usbObservation_eq]
  simp [Option.guard]

/-! ### The passes on entries are the passes on cards -/

def Enumerations.cards (buses : Enumerations) (upstream : Upstream) : DetectedCards :=
  { hid := hidObservations (fun _ => true) (some buses.hid)
    usb := fun kind => usbObservations (kind.isMatch upstream) unplaced (some buses.usb) }

namespace Enumerations

section Cards

variable {buses : Enumerations} {upstream : Upstream}

theorem hidGroups_cards :
    (buses.cards upstream).hidGroups = buses.hidGroups.map (List.map CardOrigin.card) := by
  have hhid : (List.finRange buses.hid.length).map buses.hid.get = buses.hid :=
    List.map_get_finRange buses.hid
  simp only [DetectedCards.hidGroups, hidGroups, cards, hidObservations, List.filter_true,
    List.map_cons, List.map_nil, List.map_map]
  conv_lhs => rw [← hhid, List.map_map]
  rfl

theorem usbGroups_cards : (buses.cards upstream).usbGroups =
    (buses.usbGroups upstream).map (List.map CardOrigin.card) := by
  rw [DetectedCards.usbGroups, usbGroups, List.map_map]
  refine List.map_congr_left fun kind _ => ?_
  have hobservations : (buses.cards upstream).usb kind =
      (buses.recognised upstream (.card kind)).map fun k =>
        (buses.usb.get k).observation unplaced :=
      usbObservations_eq upstream buses (.card kind) unplaced
  rw [hobservations, Function.comp_apply, List.map_map, List.map_map]
  rfl

variable (n : ℕ) (pd : FixedArray 6 FrameworkEcPdPortState)

theorem hidPlacement_cards :
    hidPlacement n pd (buses.cards upstream) =
      (buses.hidPlaced n pd).map fun p => (p.1, p.2.card) := by
  rw [hidPlacement, hidGroups_cards, Correlation.placement_map, hidPlaced]

theorem usbPlacement_cards :
    usbPlacement n pd (buses.cards upstream) =
      (buses.usbPlaced upstream n pd).map fun p => (p.1, p.2.card) := by
  rw [usbPlacement, usbGroups_cards, Correlation.placement_map, usbPlaced]

theorem unassignedCards_cards :
    unassignedCards n pd (buses.cards upstream) =
      (buses.unassigned upstream n pd).map CardOrigin.card := by
  rw [unassignedCards, hidGroups_cards, usbGroups_cards, Correlation.leftover_map,
    Correlation.leftover_map, unassigned, List.map_append]

theorem cardOn_map {κ γ : Type} (f : κ → γ) (i : Fin 6) (pair : Option (Fin 6 × κ)) :
    cardOn i (pair.map fun p => (p.1, f p.2)) = (cardOn i pair).map f := by
  rcases pair with _ | ⟨j, card⟩
  · rfl
  · by_cases hj : j = i
    · simp [cardOn, hj]
    · simp [cardOn, hj]

theorem cardAt_cards (i : Fin 6) :
    cardAt n pd (buses.cards upstream) i =
      (buses.slotOrigin upstream n pd i).map CardOrigin.card := by
  rw [cardAt, hidPlacement_cards, usbPlacement_cards, cardOn_map, cardOn_map, slotOrigin]
  cases cardOn i (buses.hidPlaced n pd) <;> rfl

end Cards

end Enumerations

end FrameworkFfi
