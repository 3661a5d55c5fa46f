import FrameworkFfi.Inventory.WellFormed

/-!
# Slots and their PD state

A slot is derived from the PD state of its port before the passes, and the last
loop may clear that state afterwards. `SlotAgrees` is what the reported slot
should still say about the reported state. It holds of every slot whose state is
not cleared, and of a cleared one only when nothing was derived from the state.
-/

namespace FrameworkFfi

open Effect

/-- A slot holds an enumerated card: only these give a slot a bus with ids. -/
def HoldsCard (slot : FrameworkExpansionCardModuleDescriptor) : Prop := slot.bus.HasIds

instance : DecidablePred HoldsCard := fun slot =>
  inferInstanceAs (Decidable (slot.bus = .usb ∨ slot.bus = .hid ∨ slot.bus = .composite))

/-- The flags and the occupancy of a slot follow from its own PD state. -/
structure SlotAgrees (slot : FrameworkExpansionCardModuleDescriptor) : Prop where
  hasPdContract : HasFlag slot.flags .hasPdContract → slot.pd.hasPdContract ≠ 0
  displayAltMode : HasFlag slot.flags .displayAltMode → pdDpAltMode slot.pd = true
  active : HasFlag slot.flags .active → slot.pd.activePort ≠ 0 ∨ pdDpAltMode slot.pd = true
  absent : slot.pd.cState = .nothing → ¬ HoldsCard slot →
    slot.present = 0 ∧ slot.flags = 0 ∧ slot.identity = .none

theorem pdConnected_eq_false_iff {pd : FrameworkEcPdPortState} :
    pdConnected pd = false ↔ pd.cState = .nothing := by
  simp [pdConnected]

/-! ### The flags of a port -/

theorem hasFlag_pdFlags_hasPdContract (pd : FrameworkEcPdPortState) :
    HasFlag (pdFlags pd) .hasPdContract ↔ pd.hasPdContract ≠ 0 := by
  simp [pdFlags]

theorem hasFlag_pdFlags_displayAltMode (pd : FrameworkEcPdPortState) :
    HasFlag (pdFlags pd) .displayAltMode ↔ pdDpAltMode pd = true := by
  simp [pdFlags]

theorem hasFlag_pdFlags_active (pd : FrameworkEcPdPortState) :
    HasFlag (pdFlags pd) .active ↔ pd.activePort ≠ 0 ∨ pdDpAltMode pd = true := by
  simp [pdFlags]

/-! ### The slots before the last loop -/

/-- The slot of a port as the first loop leaves it. -/
def freshSlot (i : Fin 6) (pd : FrameworkEcPdPortState) :
    FrameworkExpansionCardModuleDescriptor :=
  portSlot i pd defaultExpansionCardModuleDescriptor

section FreshSlot

variable {i : Fin 6} {pd : FrameworkEcPdPortState}

theorem pd_freshSlot : (freshSlot i pd).pd = pd :=
  pd_portSlot i pd defaultExpansionCardModuleDescriptor

theorem flags_freshSlot :
    (freshSlot i pd).flags = if pdConnected pd then pdFlags pd else 0 := by
  unfold freshSlot portSlot
  split_ifs <;> rfl

theorem not_holdsCard_freshSlot : ¬ HoldsCard (freshSlot i pd) := by
  unfold freshSlot portSlot
  split_ifs <;>
    simp [HoldsCard, FrameworkModuleBus.HasIds, makeExpansionCard, moduleDescriptor,
      defaultExpansionCardModuleDescriptor, defaultModuleDescriptor]

theorem freshSlot_absent (h : pdConnected pd = false) :
    (freshSlot i pd).present = 0 ∧ (freshSlot i pd).flags = 0 ∧
      (freshSlot i pd).identity = .none := by
  unfold freshSlot portSlot
  simp [h, defaultExpansionCardModuleDescriptor, defaultModuleDescriptor]

theorem freshSlot_present (h : pdConnected pd = true) : (freshSlot i pd).present = 1 := by
  unfold freshSlot portSlot
  simp [h, makeExpansionCard, moduleDescriptor]

end FreshSlot

section Place

variable {upstream : Upstream} {card : EnumeratedCard} {i : Fin 6}
  {slot : FrameworkExpansionCardModuleDescriptor}

theorem flags_place :
    (card.place upstream slot i).flags = slot.flags ||| moduleFlag .connected := by
  cases card <;> rfl

theorem holdsCard_place : HoldsCard (card.place upstream slot i) := by
  cases card with
  | hid card => exact .inr (.inr rfl)
  | usb kind card => exact kind.hasIds_slotBus

end Place

section Assigned

variable {n : ℕ} {pd : FixedArray 6 FrameworkEcPdPortState} {cards : DetectedCards}
  {upstream : Upstream} {i : Fin 6}

/-- A slot in use before the last loop, in an inventory that starts empty. -/
theorem assignedSlots_of_lt (h : i.val < n) :
    assignedSlots n pd cards upstream emptyUsbSlotTable.usbSlots i =
      match cardAt n pd cards i with
      | none => freshSlot i (pd i)
      | some card => card.place upstream (freshSlot i (pd i)) i := by
  have hport : portSlots n pd emptyUsbSlotTable.usbSlots i = freshSlot i (pd i) := if_pos h
  cases hcard : cardAt n pd cards i with
  | none =>
      rw [assignedSlots_apply, hcard]
      exact hport
  | some card =>
      rw [assignedSlots_apply, hcard]
      exact congrArg (card.place upstream · i) hport

/-- The slots that hold a card are the ones the correlation gave one. -/
theorem holdsCard_assignedSlots_iff (h : i.val < n) :
    HoldsCard (assignedSlots n pd cards upstream emptyUsbSlotTable.usbSlots i) ↔
      (cardAt n pd cards i).isSome := by
  rw [assignedSlots_of_lt h]
  cases cardAt n pd cards i with
  | none => simpa using not_holdsCard_freshSlot
  | some card => simpa using holdsCard_place

theorem pd_assignedSlots (h : i.val < n) :
    (assignedSlots n pd cards upstream emptyUsbSlotTable.usbSlots i).pd = pd i := by
  rw [assignedSlots_of_lt h]
  cases cardAt n pd cards i with
  | none => exact pd_freshSlot
  | some card => exact (pd_place card _ i).trans pd_freshSlot

/-- A card adds the connected flag to the flags of its port, and no other. -/
theorem hasFlag_assignedSlots_iff (h : i.val < n) {flag : FrameworkModuleFlag}
    (hflag : flag ≠ .connected) :
    HasFlag (assignedSlots n pd cards upstream emptyUsbSlotTable.usbSlots i).flags flag ↔
      pdConnected (pd i) = true ∧ HasFlag (pdFlags (pd i)) flag := by
  have hport : HasFlag (freshSlot i (pd i)).flags flag ↔
      pdConnected (pd i) = true ∧ HasFlag (pdFlags (pd i)) flag := by
    rw [flags_freshSlot]
    split_ifs with hconnected
    · simp [hconnected]
    · simp [hconnected]
  rw [assignedSlots_of_lt h]
  cases cardAt n pd cards i with
  | none => exact hport
  | some card =>
      rw [flags_place, hasFlag_or, hasFlag_moduleFlag, hport]
      constructor
      · rintro (hpd | hother)
        · exact hpd
        · exact absurd hother.symm hflag
      · exact .inl

/-- Before the last loop every slot in use agrees with its state. -/
theorem slotAgrees_assignedSlots (h : i.val < n) :
    SlotAgrees (assignedSlots n pd cards upstream emptyUsbSlotTable.usbSlots i) where
  hasPdContract := by
    rw [hasFlag_assignedSlots_iff h (by simp), pd_assignedSlots h]
    exact fun hflag => (hasFlag_pdFlags_hasPdContract _).mp hflag.2
  displayAltMode := by
    rw [hasFlag_assignedSlots_iff h (by simp), pd_assignedSlots h]
    exact fun hflag => (hasFlag_pdFlags_displayAltMode _).mp hflag.2
  active := by
    rw [hasFlag_assignedSlots_iff h (by simp), pd_assignedSlots h]
    exact fun hflag => (hasFlag_pdFlags_active _).mp hflag.2
  absent := by
    rw [pd_assignedSlots h, holdsCard_assignedSlots_iff h, assignedSlots_of_lt h]
    intro hnothing hcard
    rw [Option.not_isSome_iff_eq_none.mp hcard]
    exact freshSlot_absent (pdConnected_eq_false_iff.mpr hnothing)

/-! ### The clearing loop -/

/-- A slot whose PD state is cleared agrees with the cleared state exactly when
no flag was derived from the old one and an empty slot reads as absent. -/
theorem slotAgrees_cleared_iff {slot : FrameworkExpansionCardModuleDescriptor} :
    SlotAgrees { slot with pd := defaultPdPortState } ↔
      ¬ HasFlag slot.flags .hasPdContract ∧ ¬ HasFlag slot.flags .displayAltMode ∧
        ¬ HasFlag slot.flags .active ∧
        (¬ HoldsCard slot → slot.present = 0 ∧ slot.flags = 0 ∧ slot.identity = .none) := by
  constructor
  · intro h
    refine ⟨fun hflag => h.hasPdContract hflag rfl, fun hflag => ?_, fun hflag => ?_,
      h.absent rfl⟩
    · have hdisplay : pdDpAltMode defaultPdPortState = true := h.displayAltMode hflag
      exact absurd hdisplay (by decide)
    · have hactive : defaultPdPortState.activePort ≠ 0 ∨
          pdDpAltMode defaultPdPortState = true := h.active hflag
      exact absurd hactive (by decide)
  · rintro ⟨hcontract, hdisplay, hactive, habsent⟩
    exact ⟨fun hflag => absurd hflag hcontract, fun hflag => absurd hflag hdisplay,
      fun hflag => absurd hflag hactive, fun _ => habsent⟩

theorem slotAgrees_applyCapability_iff {platform : FrameworkPlatform} {index : ℕ}
    {slot : FrameworkExpansionCardModuleDescriptor} :
    SlotAgrees (applyCapability platform index slot) ↔
      SlotAgrees { slot with
        pd := if notWiredForPd platform index then defaultPdPortState else slot.pd } := by
  constructor
  · intro h
    exact ⟨h.hasPdContract, h.displayAltMode, h.active, h.absent⟩
  · intro h
    exact ⟨h.hasPdContract, h.displayAltMode, h.active, h.absent⟩

/-- Clearing the state of port `i` does no harm: nothing was attached, or the
port holds the one USB card there is a place for, without a contract and
without an active port. -/
def ClearsCleanly (n : ℕ) (pd : FixedArray 6 FrameworkEcPdPortState) (cards : DetectedCards)
    (i : Fin 6) : Prop :=
  (pd i).cState = .nothing ∨
    plainPorts n pd = [i] ∧ (∃ kind, (cards.usb kind).length = 1) ∧
      (pd i).hasPdContract = 0 ∧ (pd i).activePort = 0

/-- One plain port and a kind with one card: some card is placed on the port. -/
theorem exists_usbPlacement_iff :
    (∃ card, usbPlacement n pd cards = some (i, card)) ↔
      plainPorts n pd = [i] ∧ ∃ kind, (cards.usb kind).length = 1 := by
  simp only [usbPlacement, Correlation.placement_eq_some_iff, exists_and_left]
  refine and_congr_right fun _ => ?_
  rw [← Option.isSome_iff_exists, Correlation.winner, DetectedCards.usbGroups,
    List.findSome?_isSome_iff]
  constructor
  · rintro ⟨group, hgroup, honly⟩
    obtain ⟨kind, -, rfl⟩ := List.mem_map.mp hgroup
    rw [Correlation.only_isSome_iff, List.length_map] at honly
    exact ⟨kind, honly⟩
  · rintro ⟨kind, hkind⟩
    refine ⟨_, List.mem_map.mpr ⟨kind, kind.mem_passOrder, rfl⟩, ?_⟩
    rw [Correlation.only_isSome_iff, List.length_map]
    exact hkind

/-- The exact condition for a cleared slot. -/
theorem slotAgrees_cleared_assignedSlots_iff (h : i.val < n) :
    SlotAgrees { assignedSlots n pd cards upstream emptyUsbSlotTable.usbSlots i with
        pd := defaultPdPortState } ↔ ClearsCleanly n pd cards i := by
  rw [slotAgrees_cleared_iff, hasFlag_assignedSlots_iff h (by simp),
    hasFlag_assignedSlots_iff h (by simp), hasFlag_assignedSlots_iff h (by simp),
    holdsCard_assignedSlots_iff h, hasFlag_pdFlags_hasPdContract,
    hasFlag_pdFlags_displayAltMode, hasFlag_pdFlags_active]
  cases hconnected : pdConnected (pd i) with
  | false =>
      have hnothing := pdConnected_eq_false_iff.mp hconnected
      refine iff_of_true ⟨by simp, by simp, by simp, fun hcard => ?_⟩ (.inl hnothing)
      rw [assignedSlots_of_lt h, Option.not_isSome_iff_eq_none.mp hcard]
      exact freshSlot_absent hconnected
  | true =>
      have hsomething : (pd i).cState ≠ .nothing := fun hnothing => by
        rw [pdConnected_eq_false_iff.mpr hnothing] at hconnected
        cases hconnected
      constructor
      · rintro ⟨hcontract, hdisplay, hactive, habsent⟩
        simp only [true_and, not_or, not_not] at hcontract hdisplay hactive
        -- an occupant that no card explains is what the old state left behind
        have hcard : (cardAt n pd cards i).isSome := by
          by_contra hnone
          have hpresent := (habsent hnone).1
          rw [assignedSlots_of_lt h, Option.not_isSome_iff_eq_none.mp hnone] at hpresent
          have hone := freshSlot_present (i := i) hconnected
          rw [hpresent] at hone
          cases hone
        obtain ⟨card, hcard⟩ := Option.isSome_iff_exists.mp hcard
        rcases cardAt_eq_some_iff.mp hcard with hhid | husb
        · exact absurd (mem_displayPorts.mp (mem_displayPorts_of_hidPlacement hhid)).2 hdisplay
        · obtain ⟨hports, hkind⟩ := exists_usbPlacement_iff.mp ⟨card, husb⟩
          exact .inr ⟨hports, hkind, hcontract, hactive.1⟩
      · rintro (hnothing | ⟨hports, hkind, hcontract, hactive⟩)
        · exact absurd hnothing hsomething
        · obtain ⟨card, husb⟩ := exists_usbPlacement_iff.mpr ⟨hports, hkind⟩
          have hplain := (mem_plainPorts.mp (mem_plainPorts_of_usbPlacement husb)).2.2
          have hcard : (cardAt n pd cards i).isSome := by
            rw [cardAt_eq_some_iff.mpr (.inr husb)]
            rfl
          refine ⟨?_, ?_, ?_, fun hnone => absurd hcard hnone⟩
          · simp [hcontract]
          · simp [hplain]
          · simp [hactive, hplain]

end Assigned

/-! ### The reported slots -/

/-- Every slot that `populate_usb_slots` reports agrees with its own PD state if
and only if the clearing loop does no harm on the ports it clears, the two of
the Desktop. On the other platforms the slots always agree. -/
theorem populateUsbSlots_slotAgrees_iff {usbCSlotCount : UInt8}
    (hn : usbCSlotCount.toNat ≤ 6) (platform : FrameworkPlatform) (m : Machine) (w : World) :
    ∃ table w', Returns (populateUsbSlots usbCSlotCount platform emptyUsbSlotTable) m w
        table w' ∧
      ((∀ i : Fin 6, i.val < usbCSlotCount.toNat → SlotAgrees (table.usbSlots i)) ↔
        (platform = .frameworkDesktopAmdAiMax300 →
          ∀ i : Fin 6, i.val < usbCSlotCount.toNat → i.val < 2 →
            ClearsCleanly usbCSlotCount.toNat (m.pdPortStates w) (m.detectedCards w) i)) := by
  refine ⟨_, _, returns_populateUsbSlots hn platform rfl m w, ?_⟩
  have hslot : ∀ i : Fin 6, i.val < usbCSlotCount.toNat →
      (SlotAgrees ((oneShot m.upstream platform usbCSlotCount (m.pdPortStates w)
          (m.detectedCards w) emptyUsbSlotTable).usbSlots i) ↔
        (platform = .frameworkDesktopAmdAiMax300 ∧ i.val < 2 →
          ClearsCleanly usbCSlotCount.toNat (m.pdPortStates w) (m.detectedCards w) i)) := by
    intro i hi
    have heq : (oneShot m.upstream platform usbCSlotCount (m.pdPortStates w)
        (m.detectedCards w) emptyUsbSlotTable).usbSlots i =
          applyCapability platform i (assignedSlots usbCSlotCount.toNat (m.pdPortStates w)
            (m.detectedCards w) m.upstream emptyUsbSlotTable.usbSlots i) := if_pos hi
    rw [heq, slotAgrees_applyCapability_iff, ← notWiredForPd_iff]
    cases notWiredForPd platform i with
    | true => simpa using slotAgrees_cleared_assignedSlots_iff hi
    | false => simpa using slotAgrees_assignedSlots hi
  constructor
  · intro h hplatform i hi hlt
    exact (hslot i hi).mp (h i hi) ⟨hplatform, hlt⟩
  · intro h i hi
    exact (hslot i hi).mpr fun hcleared => h hcleared.1 i hi hcleared.2

/-- On a laptop the two cards in its attached ports leave every slot in agreement. -/
theorem populateUsbSlots_slotAgrees_iff_laptop :
    ∃ table w', Returns (populateUsbSlots 4 .intelGen12 emptyUsbSlotTable) crowdedLaptop .fresh
        table w' ∧
      (table.usbSlots 0).identity = .hdmiExpansionCard ∧
      (table.usbSlots 1).identity = .usbAExpansionCard ∧
      ∀ i : Fin 6, i.val < 4 → SlotAgrees (table.usbSlots i) := by
  obtain ⟨table, w', hr, hhdmi, husbA⟩ : ∃ table w',
      Returns (populateUsbSlots 4 .intelGen12 emptyUsbSlotTable) crowdedLaptop .fresh table w' ∧
        (table.usbSlots 0).identity = .hdmiExpansionCard ∧
        (table.usbSlots 1).identity = .usbAExpansionCard := ⟨_, _, rfl, rfl, rfl⟩
  obtain ⟨table', w₁, hr', hagrees⟩ := populateUsbSlots_slotAgrees_iff
    (by decide : (4 : UInt8).toNat ≤ 6) .intelGen12 crowdedLaptop .fresh
  obtain ⟨rfl, -⟩ := hr'.unique hr
  exact ⟨_, w', hr, hhdmi, husbA, hagrees.mpr nofun⟩

/-- On a Desktop with something attached to the first port, slot `0` says that
nothing is attached and yet has an occupant. -/
theorem populateUsbSlots_desktop_occupant :
    ∃ table w', Returns
        (populateUsbSlots 2 .frameworkDesktopAmdAiMax300 emptyUsbSlotTable)
        (Machine.silent.answering (.getPdPortState 0) (.ok attachedSource)) .fresh table w' ∧
      (table.usbSlots 0).pd.cState = .nothing ∧ ¬ HoldsCard (table.usbSlots 0) ∧
        (table.usbSlots 0).present = 1 ∧ ¬ SlotAgrees (table.usbSlots 0) := by
  refine ⟨_, _, rfl, rfl, ?_, rfl, ?_⟩
  · rintro (h | h | h) <;> cases h
  · intro h
    have habsent := h.absent rfl (by rintro (h | h | h) <;> cases h)
    cases habsent.1

end FrameworkFfi
