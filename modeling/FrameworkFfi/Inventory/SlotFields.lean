import FrameworkFfi.Inventory.PlacementRun

/-!
# Cards by their fields

What an inventory says of a card, written out: the slot it is in, or the detached
entry it has, field by field. Neither mentions how `populate_usb_slots` builds a
descriptor.
-/

namespace FrameworkFfi

/-- What an inventory says of a card itself. -/
structure CardFields where
  identity : FrameworkModuleIdentity
  cardType : FrameworkExpansionCardType
  /-- The bus and the confidence of the card in a slot. -/
  slotBus : FrameworkModuleBus
  slotConfidence : FrameworkModuleConfidence
  /-- The bus of the card when it is detached. -/
  bus : FrameworkModuleBus
  cardConfidence : FrameworkModuleConfidence
  vendorId : UInt32
  productId : UInt32

/-- The fields of a card by its bus, its kind and its ids. -/
def EnumeratedCard.fields (upstream : Upstream) : EnumeratedCard → CardFields
  | .hid card =>
      { identity :=
          if card.productId = upstream.dpCardPid then .dpExpansionCard
          else if card.productId = upstream.hdmiCardPid then .hdmiExpansionCard
          else .unknownUsbCOccupant
        cardType :=
          if card.productId = upstream.dpCardPid then .displayPort
          else if card.productId = upstream.hdmiCardPid then .hdmi
          else .unknown
        slotBus := .composite
        slotConfidence := .direct
        bus := .hid
        cardConfidence := .direct
        vendorId := card.vendorId.toUInt32
        productId := card.productId.toUInt32 }
  | .usb .audio card =>
      ⟨.audioExpansionCard, .audio, .composite, .derivedWeak, .usb, .direct,
        card.vendorId.toUInt32, card.productId.toUInt32⟩
  | .usb .ssd card =>
      ⟨.ssdExpansionCard, .ssd, .usb, .direct, .usb, .direct,
        card.vendorId.toUInt32, card.productId.toUInt32⟩
  | .usb .usbA card =>
      ⟨.usbAExpansionCard, .usbA, .usb, .derivedWeak, .usb, .derivedWeak,
        card.vendorId.toUInt32, card.productId.toUInt32⟩
  | .usb .ethernet card =>
      ⟨.ethernetExpansionCard, .ethernet, .usb, .derivedWeak, .usb, .derivedWeak,
        card.vendorId.toUInt32, card.productId.toUInt32⟩
  | .usb .sd card =>
      ⟨.sdExpansionCard, .sd, .usb, .derivedWeak, .usb, .derivedWeak,
        card.vendorId.toUInt32, card.productId.toUInt32⟩
  | .usb .microSd card =>
      ⟨.microSdExpansionCard, .microSd, .usb, .derivedWeak, .usb, .derivedWeak,
        card.vendorId.toUInt32, card.productId.toUInt32⟩

/-- What is said of an occupant that no card explains. -/
def unknownOccupant (pd : FrameworkEcPdPortState) : CardFields :=
  { identity := .unknownUsbCOccupant
    cardType := .unknown
    slotBus := .ec
    slotConfidence := if pd.altModeFlags &&& 3 ≠ 0 then .derivedStrong else .derivedWeak
    bus := .ec
    cardConfidence := .unknown
    vendorId := 0
    productId := 0 }

/-- The flag word of a port that something is attached to: connected, with a
contract, in display mode and active. -/
def attachedFlags (pd : FrameworkEcPdPortState) : UInt32 :=
  4 ||| (if pd.hasPdContract ≠ 0 then 32 else 0) |||
    (if pd.altModeFlags &&& 3 ≠ 0 then 64 else 0) |||
    (if pd.activePort ≠ 0 ∨ pd.altModeFlags &&& 3 ≠ 0 then 2 else 0)

/-- Slot `i` has an occupant with these fields. -/
structure OccupiedBy (slot : FrameworkExpansionCardModuleDescriptor) (i : Fin 6)
    (card : CardFields) (flags : UInt32) : Prop where
  identity : slot.identity = card.identity
  cardType : slot.cardType = card.cardType
  bus : slot.bus = card.slotBus
  confidence : slot.confidence = card.slotConfidence
  cardConfidence : slot.cardConfidence = card.cardConfidence
  vendorId : slot.vendorId = card.vendorId
  productId : slot.productId = card.productId
  present : slot.present = 1
  slotIndex : slot.slotIndex = Int32.ofNat i
  slotKind : slot.slotKind = .usbCExpansionCardSlot
  boardId : slot.boardId = -1
  flags : slot.flags = flags

/-- A detached entry is a card with these fields. -/
structure DetachedAs (entry : FrameworkModuleDescriptor) (card : CardFields) : Prop where
  identity : entry.identity = card.identity
  bus : entry.bus = card.bus
  confidence : entry.confidence = card.cardConfidence
  vendorId : entry.vendorId = card.vendorId
  productId : entry.productId = card.productId
  present : entry.present = 1
  slotIndex : entry.slotIndex = -1
  slotKind : entry.slotKind = .detached
  boardId : entry.boardId = -1
  flags : entry.flags = 4
  position : entry.position = .unknown

/-- Some cards stand behind the detached entries there were, in order, while there
is room. -/
structure DetachedInOrder (upstream : Upstream) (cards : List EnumeratedCard)
    (before after : DetachedModules) : Prop where
  count : after.detachedCount.toNat =
    max before.detachedCount.toNat (min 4 (before.detachedCount.toNat + cards.length))
  card : ∀ (k : Fin 4) (j : ℕ) (card : EnumeratedCard),
    k.val = before.detachedCount.toNat + j → cards[j]? = some card →
      DetachedAs (after.detached k) (card.fields upstream)
  /-- The other entries are as they were. -/
  other : ∀ k : Fin 4, k.val < before.detachedCount.toNat ∨
    before.detachedCount.toNat + cards.length ≤ k.val → after.detached k = before.detached k

/-! ### The descriptors that are built -/

theorem pdFlags_eq_attachedFlags {pd : FrameworkEcPdPortState} (h : pd.cState ≠ .nothing) :
    pdFlags pd = attachedFlags pd := by
  have hconnected : pdConnected pd = true := decide_eq_true h
  unfold pdFlags attachedFlags
  rw [hconnected]
  by_cases hcontract : pd.hasPdContract = 0 <;> by_cases hactive : pd.activePort = 0 <;>
    by_cases hdisplay : pd.altModeFlags &&& 3 = 0 <;>
      simp [flagIf, moduleFlag, FrameworkModuleFlag.toUInt32, pdDpAltMode, hcontract, hactive,
        hdisplay]

section Built

variable {upstream : Upstream} {i : Fin 6} {pd : FrameworkEcPdPortState}

/-- A placed card keeps the flags of its slot and is connected. -/
theorem occupiedBy_place (card : EnumeratedCard)
    (slot : FrameworkExpansionCardModuleDescriptor) :
    OccupiedBy (card.place upstream slot i) i (card.fields upstream) (slot.flags ||| 4) := by
  rcases card with card | ⟨kind, card⟩
  · refine ⟨rfl, ?_, rfl, rfl, rfl, rfl, rfl, rfl, rfl, rfl, rfl, rfl⟩
    show expansionCardType (expansionCardIdentity upstream card.productId) = _
    unfold expansionCardIdentity EnumeratedCard.fields
    dsimp only
    split_ifs <;> rfl
  · cases kind <;> exact ⟨rfl, rfl, rfl, rfl, rfl, rfl, rfl, rfl, rfl, rfl, rfl, rfl⟩

theorem detachedAs_detach (card : EnumeratedCard) :
    DetachedAs (card.detach upstream) (card.fields upstream) := by
  rcases card with card | ⟨kind, card⟩
  · exact ⟨rfl, rfl, rfl, rfl, rfl, rfl, rfl, rfl, rfl, rfl, rfl⟩
  · cases kind <;> exact ⟨rfl, rfl, rfl, rfl, rfl, rfl, rfl, rfl, rfl, rfl, rfl⟩

theorem occupiedBy_portSlot (h : pd.cState ≠ .nothing)
    (slot : FrameworkExpansionCardModuleDescriptor) :
    OccupiedBy (portSlot i pd slot) i (unknownOccupant pd) (attachedFlags pd) := by
  have hconnected : pdConnected pd = true := decide_eq_true h
  rw [portSlot, if_pos hconnected]
  refine ⟨rfl, rfl, rfl, ?_, rfl, rfl, rfl, rfl, rfl, rfl, rfl, pdFlags_eq_attachedFlags h⟩
  show (if pdDpAltMode pd = true then FrameworkModuleConfidence.derivedStrong
    else FrameworkModuleConfidence.derivedWeak) = _
  simp [unknownOccupant, pdDpAltMode]

theorem detachedInOrder_foldl (upstream : Upstream) (cards : List EnumeratedCard)
    (before : DetachedModules) :
    DetachedInOrder upstream cards before
      ((cards.map (EnumeratedCard.detach upstream)).foldl pushDetachedModule before) := by
  by_cases hbefore : before.detachedCount.toNat ≤ 4
  · rw [foldl_pushDetachedModule _ _ hbefore]
    refine ⟨?_, ?_, ?_⟩
    · have hlt : min 4 (before.detachedCount.toNat + cards.length) < 2 ^ 8 := by omega
      show (UInt8.ofNat _).toNat = _
      rw [List.length_map, UInt8.toNat_ofNat_of_lt' hlt]
      omega
    · intro k j card hk hcard
      have hindex : k.val - before.detachedCount.toNat = j := by omega
      dsimp only
      rw [if_neg (by omega), hindex, List.getElem?_map, hcard]
      exact detachedAs_detach card
    · intro k hk
      dsimp only
      split_ifs with hlt
      · rfl
      · have hnone : cards.length ≤ k.val - before.detachedCount.toNat := by omega
        rw [List.getElem?_map, List.getElem?_eq_none hnone]
        rfl
  · have hfull : ∀ modules : List FrameworkModuleDescriptor,
        modules.foldl pushDetachedModule before = before := by
      intro modules
      induction modules with
      | nil => rfl
      | cons descriptor modules ih =>
          rw [List.foldl_cons, pushDetachedModule_of_le (by omega), ih]
    rw [hfull]
    exact ⟨by omega, fun k j card hk => by omega, fun k _ => rfl⟩

end Built

end FrameworkFfi
