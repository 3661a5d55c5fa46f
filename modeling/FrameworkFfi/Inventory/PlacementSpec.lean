import FrameworkFfi.Host.Silent
import FrameworkFfi.Inventory.Builder
import FrameworkFfi.Inventory.SlotFields

/-!
# `populateUsbSlots` is its one-shot specification
-/

namespace FrameworkFfi

open Effect

/-- How many USB passes run before the pass of a kind. -/
def UsbCardKind.passIndex : UsbCardKind → ℕ
  | .audio => 0
  | .ssd => 1
  | .usbA => 2
  | .ethernet => 3
  | .sd => 4
  | .microSd => 5

/-- The enumeration the USB detector would see that runs after `k` others. -/
def Machine.usbEnumeration (m : Machine) (w : World) (k : ℕ) : Option (List UsbDevice) :=
  m.answer .usbDevices (w.asked .usbDevices + k)

/-- The cards the seven detectors would find now. Each of them enumerates its
bus anew. -/
def Machine.detectedCards (m : Machine) (w : World) : DetectedCards :=
  { hid := hidObservations (fun _ => true)
      (m.answer .findExpansionCardDevices (w.asked .findExpansionCardDevices))
    usb := fun kind => usbObservations (kind.isMatch m.upstream) unplaced
      (m.usbEnumeration w kind.passIndex) }

/-- The requests of `populate_usb_slots`. -/
def slotRequests (n : ℕ) : List HostRequest :=
  portRequests n ++ .findExpansionCardDevices :: List.replicate 6 .usbDevices

/-- The last loop on a whole table. -/
def withCapabilities (usbCSlotCount : UInt8) (platform : FrameworkPlatform)
    (table : UsbSlotTable) : UsbSlotTable :=
  { table with usbSlots := applyCapabilities usbCSlotCount platform table.usbSlots }

theorem returns_detectUsbLocal (isMatch : UsbMatch) (m : Machine) (w : World) :
    Returns (detectUsbLocal isMatch) m w
      (usbObservations isMatch unplaced (m.usbEnumeration w 0)) (w.record .usbDevices) :=
  returns_bind.mpr ⟨_, _, returns_ask_self, returns_pure_self⟩

theorem usbEnumeration_record_usbDevices (m : Machine) (w : World) (k : ℕ) :
    m.usbEnumeration (w.record .usbDevices) k = m.usbEnumeration w (k + 1) := by
  rw [Machine.usbEnumeration, Machine.usbEnumeration, World.asked_record_self, Nat.add_assoc,
    Nat.add_comm 1 k]

theorem notMem_portRequests {request : HostRequest}
    (h : ∀ port, request ≠ .getPdPortState port) (n : ℕ) : request ∉ portRequests n := by
  intro hmem
  obtain ⟨i, -, heq⟩ := List.mem_map.mp hmem
  exact h _ heq.symm

theorem usbEnumeration_ports (m : Machine) (w : World) (n k : ℕ) :
    m.usbEnumeration ((w.recordAll (portRequests n)).record .findExpansionCardDevices) k =
      m.usbEnumeration w k := by
  rw [Machine.usbEnumeration, World.asked_record_of_ne _ (by decide),
    World.asked_recordAll_of_notMem w (notMem_portRequests (by simp) n)]
  rfl

/-- `populate_usb_slots` is its seven passes on the cards the detectors find,
between the two loops over the ports. -/
theorem returns_populateUsbSlots_cardPasses {usbCSlotCount : UInt8}
    (hn : usbCSlotCount.toNat ≤ 6) (platform : FrameworkPlatform) (table : UsbSlotTable)
    (m : Machine) (w : World) :
    Returns (populateUsbSlots usbCSlotCount platform table) m w
      (withCapabilities usbCSlotCount platform
        (cardPasses m.upstream (portStates usbCSlotCount.toNat (m.pdPortStates w))
          (m.detectedCards w)
          { table with
            usbSlots := portSlots usbCSlotCount.toNat (m.pdPortStates w) table.usbSlots }))
      (w.recordAll (slotRequests usbCSlotCount.toNat)) := by
  have hports := returns_readPorts hn table.usbSlots m w
  have hhid : Returns detectExpansionCardsLocal m
      (w.recordAll (portRequests usbCSlotCount.toNat)) (m.detectedCards w).hid
      ((w.recordAll (portRequests usbCSlotCount.toNat)).record .findExpansionCardDevices) := by
    refine returns_bind.mpr ⟨_, _, returns_ask_self, returns_pure.mpr ⟨?_, rfl⟩⟩
    rw [World.asked_recordAll_of_notMem w (notMem_portRequests (by simp) _)]
    rfl
  refine returns_bind.mpr ⟨_, _, returns_view_self, ?_⟩
  refine returns_bind.mpr ⟨_, _, hports, ?_⟩
  refine returns_bind.mpr ⟨_, _, hhid, ?_⟩
  refine returns_bind.mpr ⟨_, _, returns_bind.mpr
    ⟨_, _, returns_view_self, returns_detectUsbLocal _ _ _⟩, ?_⟩
  refine returns_bind.mpr ⟨_, _, returns_detectUsbLocal _ _ _, ?_⟩
  refine returns_bind.mpr ⟨_, _, returns_detectUsbLocal _ _ _, ?_⟩
  refine returns_bind.mpr ⟨_, _, returns_detectUsbLocal _ _ _, ?_⟩
  refine returns_bind.mpr ⟨_, _, returns_detectUsbLocal _ _ _, ?_⟩
  refine returns_bind.mpr ⟨_, _, returns_detectUsbLocal _ _ _, ?_⟩
  simp only [usbEnumeration_record_usbDevices, usbEnumeration_ports]
  rw [returns_pure]
  refine ⟨rfl, ?_⟩
  rw [slotRequests, World.recordAll, World.recordAll, List.foldl_append]
  rfl

/-- `populate_usb_slots` returns its one-shot specification, for every number of
ports up to the size of the slot array, every platform and every machine. -/
theorem returns_populateUsbSlots {usbCSlotCount : UInt8} (hn : usbCSlotCount.toNat ≤ 6)
    (platform : FrameworkPlatform) {table : UsbSlotTable}
    (htable : table.detachedModules.detachedCount = 0) (m : Machine) (w : World) :
    Returns (populateUsbSlots usbCSlotCount platform table) m w
      (oneShot m.upstream platform usbCSlotCount (m.pdPortStates w) (m.detectedCards w) table)
      (w.recordAll (slotRequests usbCSlotCount.toNat)) := by
  have hpasses := returns_populateUsbSlots_cardPasses hn platform table m w
  rw [cardPasses_portSlots, foldl_pushDetachedModule_of_empty _ htable] at hpasses
  exact hpasses

/-! ### The clauses of the specification -/

section Clauses

variable (n : ℕ) (pd : FixedArray 6 FrameworkEcPdPortState) (cards : DetectedCards)

theorem hidPlacement_eq_some_iff (i : Fin 6) (card : EnumeratedCard) :
    hidPlacement n pd cards = some (i, card) ↔
      displayPorts n pd = [i] ∧ ∃ c, cards.hid = [c] ∧ card = .hid c := by
  have hwinner : Correlation.winner cards.hidGroups =
      (Correlation.only cards.hid).map .hid := by
    rw [DetectedCards.hidGroups, Correlation.winner, List.findSome?_cons, Correlation.only_map]
    cases Correlation.only cards.hid <;> rfl
  rw [hidPlacement, Correlation.placement_eq_some_iff, hwinner, Option.map_eq_some_iff]
  simp only [Correlation.only_eq_some_iff, eq_comm (a := card)]

theorem usbPlacement_eq_some_iff (i : Fin 6) (card : EnumeratedCard) :
    usbPlacement n pd cards = some (i, card) ↔
      plainPorts n pd = [i] ∧ ∃ before kind after,
        UsbCardKind.passOrder = before ++ kind :: after ∧
          (∀ earlier ∈ before, (cards.usb earlier).length ≠ 1) ∧
            ∃ c, cards.usb kind = [c] ∧ card = .usb kind c := by
  rw [usbPlacement, Correlation.placement_eq_some_iff, DetectedCards.usbGroups,
    Correlation.winner_map_eq_some_iff]
  simp only [List.length_map, List.map_eq_singleton_iff, eq_comm (a := card)]

def placedKind : Option UsbCardKind :=
  if (plainPorts n pd).length = 1 then
    UsbCardKind.passOrder.find? fun kind => (cards.usb kind).length = 1
  else none

/-- The cards that have no slot, in the order of the passes. -/
def slotless : List EnumeratedCard :=
  (if cards.hid.length = 1 ∧ (displayPorts n pd).length = 1 then [] else cards.hid.map .hid) ++
    UsbCardKind.passOrder.flatMap fun kind =>
      if placedKind n pd cards = some kind then [] else (cards.usb kind).map (.usb kind)

theorem unassignedCards_eq : unassignedCards n pd cards = slotless n pd cards := by
  rw [unassignedCards, slotless]
  congr 1
  · simp only [Correlation.leftover, DetectedCards.hidGroups, Correlation.losers,
      Correlation.only_isSome_iff, List.length_map]
    by_cases hports : (displayPorts n pd).length = 1
    · by_cases hcards : cards.hid.length = 1 <;> simp [hports, hcards]
    · simp [hports]
  · simp only [Correlation.leftover, DetectedCards.usbGroups, Correlation.only_isSome_iff,
      placedKind]
    by_cases hports : (plainPorts n pd).length = 1
    · rw [if_pos hports, Correlation.losers_map_eq_flatMap _ (by decide)]
      simp only [Correlation.winningTag, List.length_map, if_pos hports]
    · rw [if_neg hports, List.flatten_eq_flatMap, List.flatMap_map]
      simp [hports]

end Clauses

/-! ### The specification, field by field -/

/-- Slot `i` is for this card: it is the only DP/HDMI card and the port is the only one
in display mode, or it is the only one of its kind, the first kind with one card, and
the port is the only other one with something attached. -/
def HasSlot (n : ℕ) (pd : FixedArray 6 FrameworkEcPdPortState) (cards : DetectedCards)
    (i : Fin 6) (card : EnumeratedCard) : Prop :=
  (displayPorts n pd = [i] ∧ ∃ c, cards.hid = [c] ∧ card = .hid c) ∨
    plainPorts n pd = [i] ∧ ∃ before kind after,
      UsbCardKind.passOrder = before ++ kind :: after ∧
        (∀ earlier ∈ before, (cards.usb earlier).length ≠ 1) ∧
          ∃ c, cards.usb kind = [c] ∧ card = .usb kind c

theorem cardAt_eq_some_iff_hasSlot {n : ℕ} {pd : FixedArray 6 FrameworkEcPdPortState}
    {cards : DetectedCards} {i : Fin 6} {card : EnumeratedCard} :
    cardAt n pd cards i = some card ↔ HasSlot n pd cards i card := by
  rw [cardAt_eq_some_iff, hidPlacement_eq_some_iff, usbPlacement_eq_some_iff]
  rfl

/-- What `populate_usb_slots` makes of a table, on the ports below `n` and the cards that
are found. -/
structure OneShot (upstream : Upstream) (platform : FrameworkPlatform) (n : ℕ)
    (pd : FixedArray 6 FrameworkEcPdPortState) (cards : DetectedCards)
    (before after : UsbSlotTable) : Prop where
  /-- A card that a slot is for is in it, with the flags of the port. -/
  card : ∀ i card, HasSlot n pd cards i card →
    OccupiedBy (after.usbSlots i) i (card.fields upstream)
      ((if (pd i).cState = .nothing then (before.usbSlots i).flags else attachedFlags (pd i)) ||| 4)
  /-- A port without a card has an unknown occupant when something is attached. -/
  occupant : ∀ i : Fin 6, i.val < n → (∀ card, ¬ HasSlot n pd cards i card) →
    (pd i).cState ≠ .nothing →
      OccupiedBy (after.usbSlots i) i (unknownOccupant (pd i)) (attachedFlags (pd i))
  /-- Otherwise the slot is numbered, and as it was. -/
  empty : ∀ i : Fin 6, i.val < n → (∀ card, ¬ HasSlot n pd cards i card) →
    (pd i).cState = .nothing →
      after.usbSlots i =
        { before.usbSlots i with
          slotIndex := Int32.ofNat i
          slotKind := .usbCExpansionCardSlot
          pd := (after.usbSlots i).pd
          capability := (after.usbSlots i).capability }
  /-- The last loop writes the capability and may clear the state of the port. -/
  capability : ∀ i : Fin 6, i.val < n →
    (after.usbSlots i).capability = slotCapability platform i
  reportedPd : ∀ i : Fin 6, i.val < n → (after.usbSlots i).pd =
    if (slotCapability platform i).known ≠ 0 ∧ (slotCapability platform i).supportsPd = 0 then
      defaultPdPortState
    else pd i
  beyond : ∀ i : Fin 6, n ≤ i.val → after.usbSlots i = before.usbSlots i
  /-- The first four cards without a slot are the detached entries. -/
  detached : DetachedInOrder upstream (slotless n pd cards) before.detachedModules
    after.detachedModules

section Fields

variable {upstream : Upstream} {platform : FrameworkPlatform} {n : ℕ}
  {pd : FixedArray 6 FrameworkEcPdPortState} {cards : DetectedCards} {before : UsbSlotTable}
  {usbCSlotCount : UInt8} {i : Fin 6}

theorem OccupiedBy.applyCapability {slot : FrameworkExpansionCardModuleDescriptor}
    {card : CardFields} {flags : UInt32} (h : OccupiedBy slot i card flags) (index : ℕ) :
    OccupiedBy (applyCapability platform index slot) i card flags :=
  ⟨h.identity, h.cardType, h.bus, h.confidence, h.cardConfidence, h.vendorId, h.productId,
    h.present, h.slotIndex, h.slotKind, h.boardId, h.flags⟩

theorem pd_portSlot (index : ℕ) (p : FrameworkEcPdPortState)
    (slot : FrameworkExpansionCardModuleDescriptor) : (portSlot index p slot).pd = p := by
  unfold portSlot
  split_ifs <;> rfl

theorem pd_place (card : EnumeratedCard) (slot : FrameworkExpansionCardModuleDescriptor)
    (i : Fin 6) : (card.place upstream slot i).pd = slot.pd := by
  cases card <;> rfl

theorem flags_portSlot (i : Fin 6) (p : FrameworkEcPdPortState)
    (slot : FrameworkExpansionCardModuleDescriptor) : (portSlot i p slot).flags =
      if p.cState = .nothing then slot.flags else attachedFlags p := by
  by_cases h : p.cState = .nothing
  · have hconnected : pdConnected p = false := decide_eq_false fun hne => hne h
    rw [portSlot, if_neg (by simp [hconnected]), if_pos h]
  · rw [(occupiedBy_portSlot h slot).flags, if_neg h]

theorem usbSlots_oneShot_of_card {card : EnumeratedCard}
    (hcard : cardAt usbCSlotCount.toNat pd cards i = some card) :
    (oneShot upstream platform usbCSlotCount pd cards before).usbSlots i =
      applyCapability platform i
        (card.place upstream (portSlot i (pd i) (before.usbSlots i)) i) := by
  have hi := lt_of_cardAt hcard
  have hport : portSlots usbCSlotCount.toNat pd before.usbSlots i =
      portSlot i (pd i) (before.usbSlots i) := if_pos hi
  have hslot : assignedSlots usbCSlotCount.toNat pd cards upstream before.usbSlots i =
      card.place upstream (portSlot i (pd i) (before.usbSlots i)) i := by
    rw [assignedSlots_apply, hcard, ← hport]
  rw [← hslot]
  exact if_pos hi

theorem usbSlots_oneShot_of_no_card (hi : i.val < usbCSlotCount.toNat)
    (hcard : cardAt usbCSlotCount.toNat pd cards i = none) :
    (oneShot upstream platform usbCSlotCount pd cards before).usbSlots i =
      applyCapability platform i (portSlot i (pd i) (before.usbSlots i)) := by
  have hport : portSlots usbCSlotCount.toNat pd before.usbSlots i =
      portSlot i (pd i) (before.usbSlots i) := if_pos hi
  have hslot : assignedSlots usbCSlotCount.toNat pd cards upstream before.usbSlots i =
      portSlot i (pd i) (before.usbSlots i) := by
    rw [assignedSlots_apply, hcard, ← hport]
  rw [← hslot]
  exact if_pos hi

theorem cardAt_eq_none_of_not_hasSlot (h : ∀ card, ¬ HasSlot n pd cards i card) :
    cardAt n pd cards i = none :=
  Option.eq_none_iff_forall_ne_some.mpr fun card hcard =>
    h card (cardAt_eq_some_iff_hasSlot.mp hcard)

theorem pd_applyCapability (index : ℕ) (slot : FrameworkExpansionCardModuleDescriptor) :
    (applyCapability platform index slot).pd =
      if (slotCapability platform index).known ≠ 0 ∧
          (slotCapability platform index).supportsPd = 0 then defaultPdPortState
      else slot.pd := by
  simp [applyCapability, notWiredForPd]

theorem oneShot_spec (hbefore : before.detachedModules.detachedCount = 0) :
    OneShot upstream platform usbCSlotCount.toNat pd cards before
      (oneShot upstream platform usbCSlotCount pd cards before) where
  card := by
    intro i card hslot
    rw [usbSlots_oneShot_of_card (cardAt_eq_some_iff_hasSlot.mpr hslot), ← flags_portSlot]
    exact (occupiedBy_place card _).applyCapability i
  occupant := by
    intro i hi hnone hattached
    rw [usbSlots_oneShot_of_no_card hi (cardAt_eq_none_of_not_hasSlot hnone)]
    exact (occupiedBy_portSlot hattached _).applyCapability i
  empty := by
    intro i hi hnone hnothing
    have hconnected : pdConnected (pd i) = false := decide_eq_false fun hne => hne hnothing
    rw [usbSlots_oneShot_of_no_card hi (cardAt_eq_none_of_not_hasSlot hnone), portSlot,
      if_neg (by simp [hconnected])]
    rfl
  capability := by
    intro i hi
    cases hcard : cardAt usbCSlotCount.toNat pd cards i with
    | none => rw [usbSlots_oneShot_of_no_card hi hcard, applyCapability]
    | some card => rw [usbSlots_oneShot_of_card hcard, applyCapability]
  reportedPd := by
    intro i hi
    cases hcard : cardAt usbCSlotCount.toNat pd cards i with
    | none => rw [usbSlots_oneShot_of_no_card hi hcard, pd_applyCapability, pd_portSlot]
    | some card =>
        rw [usbSlots_oneShot_of_card hcard, pd_applyCapability, pd_place, pd_portSlot]
  beyond := by
    intro i hi
    have hcard : cardAt usbCSlotCount.toNat pd cards i = none :=
      Option.eq_none_iff_forall_ne_some.mpr fun card hcard =>
        Nat.not_lt.mpr hi (lt_of_cardAt hcard)
    have hslot : (oneShot upstream platform usbCSlotCount pd cards before).usbSlots i =
        assignedSlots usbCSlotCount.toNat pd cards upstream before.usbSlots i :=
      if_neg (Nat.not_lt.mpr hi)
    rw [hslot, assignedSlots_apply, hcard]
    exact if_neg (Nat.not_lt.mpr hi)
  detached := by
    rw [← unassignedCards_eq]
    have hfirst := foldl_pushDetachedModule_of_empty
      ((unassignedCards usbCSlotCount.toNat pd cards).map (EnumeratedCard.detach upstream)) hbefore
    show DetachedInOrder upstream _ _ (firstDetached _ _)
    rw [← hfirst]
    exact detachedInOrder_foldl upstream _ _

end Fields

/-- The passes over the slots are the one-shot specification. The DP/HDMI card has the
slot of the port in display mode when there is one of each. The first kind of USB card
with one card has the slot of the other port with something attached when there is one.
All other cards have no slot, and the first four of them in pass order are the detached
ones. -/
theorem populateUsbSlots_oneShot {usbCSlotCount : UInt8} (hn : usbCSlotCount.toNat ≤ 6)
    (platform : FrameworkPlatform) {table : UsbSlotTable}
    (htable : table.detachedModules.detachedCount = 0) (m : Machine) (w : World) :
    let n := usbCSlotCount.toNat
    let pd := m.pdPortStates w
    let cards := m.detectedCards w
    ∃ after, Returns (populateUsbSlots usbCSlotCount platform table) m w after
        (w.recordAll (slotRequests n)) ∧
      OneShot m.upstream platform n pd cards table after :=
  ⟨_, returns_populateUsbSlots hn platform htable m w, oneShot_spec htable⟩

/-- A laptop with an HDMI card in its only port in display mode, one other port with
something attached, and two storage cards, a USB-A card, two network cards and an SD
card on the bus. -/
def crowdedLaptop : Machine :=
  let listed address vendorId productId : UsbDevice :=
    { address
      deviceDescriptor := some ⟨vendorId, productId, 1, 0, 0, none⟩
      portNumbers := none }
  (((Machine.silent.answering (.getPdPortState 0)
    (.ok { attachedSource with pdAltModeStatus := 1 })).answering
    (.getPdPortState 1) (.ok attachedSource)).answering
    .findExpansionCardDevices (some [⟨0x32AC, 0x0002, 0⟩])).answering
    .usbDevices (some [listed 1 0x32AC 0x0005, listed 2 0x32AC 0x0005, listed 3 0x0BDA 0x5432,
      listed 4 0x0BDA 0x8156, listed 5 0x0BDA 0x8156, listed 6 0x05E3 0x0749])

/-- The HDMI card and the USB-A card have the two ports, and of the five others the
first four are detached. -/
theorem populateUsbSlots_oneShot_crowded :
    ∃ after w', Returns (populateUsbSlots 4 .intelGen12 emptyUsbSlotTable) crowdedLaptop .fresh
        after w' ∧
      (after.usbSlots 0).identity = .hdmiExpansionCard ∧ (after.usbSlots 0).flags = 70 ∧
      (after.usbSlots 1).identity = .usbAExpansionCard ∧ (after.usbSlots 1).flags = 4 ∧
      (after.usbSlots 2).present = 0 ∧ (after.usbSlots 2).slotIndex = 2 ∧
      after.detachedModules.detachedCount.toNat = 4 ∧
      (after.detachedModules.detached 1).identity = .ssdExpansionCard ∧
      (after.detachedModules.detached 3).identity = .ethernetExpansionCard := by
  obtain ⟨after, hr, h⟩ := populateUsbSlots_oneShot (by decide : (4 : UInt8).toNat ≤ 6)
    .intelGen12 (rfl : emptyUsbSlotTable.detachedModules.detachedCount = 0) crowdedLaptop .fresh
  have hhdmi := h.card 0 (.hid ⟨0x32AC, 0x0002⟩) (.inl ⟨by decide, _, rfl, rfl⟩)
  have husbA := h.card 1 (.usb .usbA ⟨0x0BDA, 0x5432, -1⟩)
    (.inr ⟨by decide, [.audio, .ssd], .usbA, [.ethernet, .sd, .microSd], rfl, by decide, _, rfl,
      rfl⟩)
  have hfree : ∀ card, ¬ HasSlot 4 (crowdedLaptop.pdPortStates .fresh)
      (crowdedLaptop.detectedCards .fresh) 2 card := by
    rintro card (⟨hports, -⟩ | ⟨hports, -⟩)
    · exact absurd hports (by decide)
    · exact absurd hports (by decide)
  have hempty := h.empty 2 (by decide) hfree rfl
  have hssd := h.detached.card 1 1 (.usb .ssd ⟨0x32AC, 0x0005, -1⟩) rfl rfl
  have hethernet := h.detached.card 3 3 (.usb .ethernet ⟨0x0BDA, 0x8156, -1⟩) rfl rfl
  refine ⟨after, _, hr, hhdmi.identity, hhdmi.flags, husbA.identity, husbA.flags, ?_, ?_,
    h.detached.count, hssd.identity, hethernet.identity⟩
  · rw [hempty]
    rfl
  · rw [hempty]
    rfl

end FrameworkFfi
