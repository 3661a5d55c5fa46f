import FrameworkFfi.Inventory.Origins
import FrameworkFfi.Inventory.WellFormedRun

/-!
# No entry is reported twice and none is invented

Every descriptor of a slot, a detached entry, the top row or the webcam that has
ids reports one entry of the enumerations, and no two of them report the same:
the detectors are disjoint, and a pass either places or detaches a card.
-/

namespace FrameworkFfi

open Effect

/-! ### The locations and the entries behind them -/

/-- The places of an inventory that report entries of the USB enumeration and
expansion cards of the HID enumeration. -/
inductive Location where
  | usbCSlot (i : Fin 6)
  | detached (k : Fin 4)
  | topRow (i : Fin 5)
  | webcam
  deriving DecidableEq

def FrameworkModuleInventory.descriptorAt (inventory : FrameworkModuleInventory) :
    Location → FrameworkModuleDescriptor
  | .usbCSlot i => (inventory.usbCSlot i).base
  | .detached k => inventory.detached k
  | .topRow i => inventory.inputTopRow i
  | .webcam => inventory.webcam

namespace Enumerations

variable (buses : Enumerations) (upstream : Upstream)

/-- The input module in slot `i` of the top row: the last one with its path. Only
a Framework 16 has a top row. -/
def topRowOrigin (family : Option PlatformFamily) (i : Fin 5) : Option (Fin buses.usb.length) :=
  if family = some .framework16 then
    (buses.recognised upstream .inputModules).reverse.find? fun k =>
      inputModuleSlot (buses.usb.get k) = Int32.ofNat i
  else none

def webcamOrigin : Option (Fin buses.usb.length) := (buses.recognised upstream .cameras).head?

/-- The card at a location of expansion cards. -/
def cardOrigin (n : ℕ) (pd : FixedArray 6 FrameworkEcPdPortState) :
    Location → Option (CardOrigin buses)
  | .usbCSlot i => buses.slotOrigin upstream n pd i
  | .detached k => (buses.unassigned upstream n pd)[k.val]?
  | .topRow _ | .webcam => none

/-- The USB entry at a location of an internal module. -/
def moduleOrigin (family : Option PlatformFamily) : Location → Option (Fin buses.usb.length)
  | .topRow i => buses.topRowOrigin upstream family i
  | .webcam => buses.webcamOrigin upstream
  | .usbCSlot _ | .detached _ => none

def origin (family : Option PlatformFamily) (n : ℕ) (pd : FixedArray 6 FrameworkEcPdPortState)
    (location : Location) : Option (BusEntry buses) :=
  ((buses.cardOrigin upstream n pd location).map CardOrigin.entry).or
    ((buses.moduleOrigin upstream family location).map .usb)

/-! ### Cards and their entries -/

section Cards

variable {buses : Enumerations} {upstream : Upstream}

theorem mem_recognised {detector : UsbDetector} {k : Fin buses.usb.length} :
    k ∈ buses.recognised upstream detector ↔
      detector.recognises upstream (buses.usb.get k) = true := by
  rw [recognised, List.mem_filter]
  simp

theorem nodup_recognised (detector : UsbDetector) :
    (buses.recognised upstream detector).Nodup :=
  (List.nodup_finRange _).filter _

theorem usb_notMem_hidGroups (kind : UsbCardKind) (k : Fin buses.usb.length) :
    CardOrigin.usb kind k ∉ buses.hidGroups.flatten := by
  simp [hidGroups]

/-- No card comes from both buses. -/
theorem notMem_usbGroups_of_mem_hidGroups {card : CardOrigin buses}
    (h : card ∈ buses.hidGroups.flatten) : card ∉ (buses.usbGroups upstream).flatten := by
  rcases card with k | ⟨kind, k⟩
  · simp [usbGroups]
  · exact absurd h (usb_notMem_hidGroups kind k)

theorem usb_mem_usbGroups {kind : UsbCardKind} {k : Fin buses.usb.length} :
    CardOrigin.usb kind k ∈ (buses.usbGroups upstream).flatten ↔
      (UsbDetector.card kind).recognises upstream (buses.usb.get k) = true := by
  rw [← mem_recognised]
  simp [usbGroups, UsbCardKind.mem_passOrder]

theorem nodup_hidGroups : buses.hidGroups.flatten.Nodup := by
  rw [hidGroups, List.flatten_cons, List.flatten_nil, List.append_nil]
  refine (List.nodup_finRange _).map fun k k' h => ?_
  exact CardOrigin.hid.inj h

theorem nodup_usbGroups : (buses.usbGroups upstream).flatten.Nodup := by
  rw [usbGroups, ← List.flatMap_def, List.nodup_flatMap]
  constructor
  · intro kind _
    exact (nodup_recognised _).map fun k k' h => (CardOrigin.usb.inj h).2
  · have hkinds : UsbCardKind.passOrder.Nodup := by decide
    refine hkinds.imp fun hne card hcard hcard' => ?_
    obtain ⟨k, -, rfl⟩ := List.mem_map.mp hcard
    obtain ⟨k', -, h⟩ := List.mem_map.mp hcard'
    exact hne (CardOrigin.usb.inj h).1.symm

theorem nodup_matchedCards : (buses.matchedCards upstream).Nodup := by
  rw [matchedCards, List.nodup_append]
  refine ⟨nodup_hidGroups, nodup_usbGroups, ?_⟩
  rintro card hhid other husb rfl
  exact notMem_usbGroups_of_mem_hidGroups hhid husb

theorem recognises_of_mem_matchedCards {kind : UsbCardKind} {k : Fin buses.usb.length}
    (h : CardOrigin.usb kind k ∈ buses.matchedCards upstream) :
    (UsbDetector.card kind).recognises upstream (buses.usb.get k) = true := by
  rcases List.mem_append.mp h with hhid | husb
  · exact absurd hhid (usb_notMem_hidGroups kind k)
  · exact usb_mem_usbGroups.mp husb

theorem eq_of_entry_eq (hupstream : upstream.Tabulated) {card other : CardOrigin buses}
    (hcard : card ∈ buses.matchedCards upstream)
    (hother : other ∈ buses.matchedCards upstream) (h : card.entry = other.entry) :
    card = other := by
  rcases card with k | ⟨kind, k⟩ <;> rcases other with k' | ⟨kind', k'⟩
  · rw [BusEntry.hid.inj h]
  · cases h
  · cases h
  · obtain rfl := BusEntry.usb.inj h
    have hkind := UsbDetector.recognises_unique hupstream
      (recognises_of_mem_matchedCards hcard) (recognises_of_mem_matchedCards hother)
    rw [UsbDetector.card.inj hkind]

variable {n : ℕ} {pd : FixedArray 6 FrameworkEcPdPortState}

theorem unassigned_sublist :
    (buses.unassigned upstream n pd).Sublist (buses.matchedCards upstream) :=
  (Correlation.leftover_sublist _ _).append (Correlation.leftover_sublist _ _)

theorem nodup_unassigned : (buses.unassigned upstream n pd).Nodup :=
  nodup_matchedCards.sublist unassigned_sublist

/-- A card in a slot is the DP/HDMI card or the USB card. -/
theorem slotOrigin_eq_some_iff {i : Fin 6} {card : CardOrigin buses} :
    buses.slotOrigin upstream n pd i = some card ↔
      buses.hidPlaced n pd = some (i, card) ∨ buses.usbPlaced upstream n pd = some (i, card) := by
  rw [slotOrigin, Option.or_eq_some_iff, cardOn_eq_some_iff, cardOn_eq_some_iff]
  constructor
  · rintro (hhid | ⟨-, husb⟩)
    · exact .inl hhid
    · exact .inr husb
  · rintro (hhid | husb)
    · exact .inl hhid
    · refine .inr ⟨?_, husb⟩
      have husbCard : usbPlacement n pd (buses.cards upstream) = some (i, card.card) := by
        rw [usbPlacement_cards, husb]
        rfl
      have hnone := cardOn_hidPlacement_eq_none husbCard
      rw [hidPlacement_cards, cardOn_map, Option.map_eq_none_iff] at hnone
      exact hnone

theorem mem_matchedCards_of_slotOrigin {i : Fin 6} {card : CardOrigin buses}
    (h : buses.slotOrigin upstream n pd i = some card) :
    card ∈ buses.matchedCards upstream := by
  rcases slotOrigin_eq_some_iff.mp h with hhid | husb
  · exact List.mem_append_left _ (Correlation.mem_placement_or_leftover.mpr (.inl ⟨i, hhid⟩))
  · exact List.mem_append_right _ (Correlation.mem_placement_or_leftover.mpr (.inl ⟨i, husb⟩))

theorem mem_matchedCards_iff {card : CardOrigin buses} :
    card ∈ buses.matchedCards upstream ↔
      (∃ i, buses.slotOrigin upstream n pd i = some card) ∨
        card ∈ buses.unassigned upstream n pd := by
  have hhid : card ∈ buses.hidGroups.flatten ↔ (∃ i, buses.hidPlaced n pd = some (i, card)) ∨
      card ∈ Correlation.leftover (displayPorts n pd) buses.hidGroups :=
    Correlation.mem_placement_or_leftover
  have husb : card ∈ (buses.usbGroups upstream).flatten ↔
      (∃ i, buses.usbPlaced upstream n pd = some (i, card)) ∨
        card ∈ Correlation.leftover (plainPorts n pd) (buses.usbGroups upstream) :=
    Correlation.mem_placement_or_leftover
  simp only [matchedCards, unassigned, List.mem_append, slotOrigin_eq_some_iff, exists_or]
  rw [hhid, husb]
  exact or_or_or_comm

theorem mem_hidGroups_of_hidPlaced {i : Fin 6} {card : CardOrigin buses}
    (h : buses.hidPlaced n pd = some (i, card)) : card ∈ buses.hidGroups.flatten :=
  Correlation.mem_placement_or_leftover.mpr (.inl ⟨i, h⟩)

theorem mem_usbGroups_of_usbPlaced {i : Fin 6} {card : CardOrigin buses}
    (h : buses.usbPlaced upstream n pd = some (i, card)) :
    card ∈ (buses.usbGroups upstream).flatten :=
  Correlation.mem_placement_or_leftover.mpr (.inl ⟨i, h⟩)

theorem notMem_unassigned_of_slotOrigin {i : Fin 6} {card : CardOrigin buses}
    (h : buses.slotOrigin upstream n pd i = some card) :
    card ∉ buses.unassigned upstream n pd := by
  have hhidSub := (Correlation.leftover_sublist (displayPorts n pd) buses.hidGroups).subset
  have husbSub :=
    (Correlation.leftover_sublist (plainPorts n pd) (buses.usbGroups upstream)).subset
  rw [unassigned, List.mem_append, not_or]
  rcases slotOrigin_eq_some_iff.mp h with hhid | husb
  · refine ⟨Correlation.notMem_leftover_of_placement nodup_hidGroups hhid, fun hmem => ?_⟩
    exact notMem_usbGroups_of_mem_hidGroups (mem_hidGroups_of_hidPlaced hhid) (husbSub hmem)
  · refine ⟨fun hmem => ?_, Correlation.notMem_leftover_of_placement nodup_usbGroups husb⟩
    exact notMem_usbGroups_of_mem_hidGroups (hhidSub hmem) (mem_usbGroups_of_usbPlaced husb)

theorem slotOrigin_unique {i j : Fin 6} {card : CardOrigin buses}
    (hi : buses.slotOrigin upstream n pd i = some card)
    (hj : buses.slotOrigin upstream n pd j = some card) : i = j := by
  rcases slotOrigin_eq_some_iff.mp hi with hi | hi <;>
    rcases slotOrigin_eq_some_iff.mp hj with hj | hj
  · exact congrArg Prod.fst (Option.some.inj (hi.symm.trans hj))
  · exact absurd (mem_usbGroups_of_usbPlaced hj)
      (notMem_usbGroups_of_mem_hidGroups (mem_hidGroups_of_hidPlaced hi))
  · exact absurd (mem_usbGroups_of_usbPlaced hi)
      (notMem_usbGroups_of_mem_hidGroups (mem_hidGroups_of_hidPlaced hj))
  · exact congrArg Prod.fst (Option.some.inj (hi.symm.trans hj))

/-- The slots with a card hold the placed cards. -/
theorem length_filterMap_slotOrigin :
    ((List.finRange 6).filterMap (buses.slotOrigin upstream n pd)).length =
      (buses.hidPlaced n pd).toList.length + (buses.usbPlaced upstream n pd).toList.length := by
  have hslots : ((List.finRange 6).filterMap (buses.slotOrigin upstream n pd)).Nodup :=
    (List.nodup_finRange 6).filterMap fun i j card hi hj => slotOrigin_unique hi hj
  have hplaced : ((buses.hidPlaced n pd).toList.map Prod.snd ++
      (buses.usbPlaced upstream n pd).toList.map Prod.snd).Nodup := by
    cases hhid : buses.hidPlaced n pd with
    | none => cases buses.usbPlaced upstream n pd <;> simp
    | some hidPair =>
        cases husb : buses.usbPlaced upstream n pd with
        | none => simp
        | some usbPair =>
            have hne : hidPair.2 ≠ usbPair.2 := by
              intro heq
              have husbMem := mem_usbGroups_of_usbPlaced husb
              rw [← heq] at husbMem
              exact notMem_usbGroups_of_mem_hidGroups (mem_hidGroups_of_hidPlaced hhid) husbMem
            simp [hne]
  have hperm := (List.perm_ext_iff_of_nodup hslots hplaced).mpr fun card => by
    simp only [List.mem_filterMap, List.mem_finRange, true_and, slotOrigin_eq_some_iff,
      List.mem_append, List.mem_map, Option.mem_toList, Prod.exists,
      exists_eq_right, exists_or]
  rw [hperm.length_eq, List.length_append, List.length_map, List.length_map]

theorem length_slots_add_unassigned :
    ((List.finRange 6).filterMap (buses.slotOrigin upstream n pd)).length +
      (buses.unassigned upstream n pd).length = (buses.matchedCards upstream).length := by
  have hhid := Correlation.length_placement_add_leftover (displayPorts n pd) buses.hidGroups
  have husb := Correlation.length_placement_add_leftover (plainPorts n pd)
    (buses.usbGroups upstream)
  rw [length_filterMap_slotOrigin, unassigned, matchedCards, List.length_append,
    List.length_append, ← hhid, ← husb, hidPlaced, usbPlaced]
  omega

/-! ### The entries behind different locations differ -/

theorem mem_matchedCards_of_cardOrigin {location : Location} {card : CardOrigin buses}
    (h : buses.cardOrigin upstream n pd location = some card) :
    card ∈ buses.matchedCards upstream := by
  cases location with
  | usbCSlot i => exact mem_matchedCards_of_slotOrigin h
  | detached k => exact unassigned_sublist.subset (List.mem_of_getElem? h)
  | topRow i => cases h
  | webcam => cases h

theorem cardOrigin_unique {location other : Location} {card : CardOrigin buses}
    (h : buses.cardOrigin upstream n pd location = some card)
    (hother : buses.cardOrigin upstream n pd other = some card) : location = other := by
  cases location with
  | usbCSlot i =>
      cases other with
      | usbCSlot j => rw [slotOrigin_unique h hother]
      | detached k =>
          exact absurd (List.mem_of_getElem? hother) (notMem_unassigned_of_slotOrigin h)
      | topRow j => cases hother
      | webcam => cases hother
  | detached k =>
      cases other with
      | usbCSlot j =>
          exact absurd (List.mem_of_getElem? h) (notMem_unassigned_of_slotOrigin hother)
      | detached k' =>
          have hlt := (List.getElem?_eq_some_iff.mp h).1
          rw [Fin.ext ((List.getElem?_inj hlt nodup_unassigned).mp (h.trans hother.symm))]
      | topRow j => cases hother
      | webcam => cases hother
  | topRow i => cases h
  | webcam => cases h

/-- A card is reported unless four unassigned cards come before it. -/
theorem exists_cardOrigin_iff {card : CardOrigin buses}
    (hcard : card ∈ buses.matchedCards upstream) :
    (∃ location, buses.cardOrigin upstream n pd location = some card) ↔
      card ∉ (buses.unassigned upstream n pd).drop 4 := by
  constructor
  · rintro ⟨location, h⟩ hdropped
    obtain ⟨index, hindex⟩ := List.mem_iff_getElem?.mp hdropped
    rw [List.getElem?_drop] at hindex
    cases location with
    | usbCSlot i => exact notMem_unassigned_of_slotOrigin h (List.mem_of_getElem? hindex)
    | detached k =>
        have hlt := (List.getElem?_eq_some_iff.mp h).1
        have heq := (List.getElem?_inj hlt nodup_unassigned).mp (h.trans hindex.symm)
        have hk := k.isLt
        omega
    | topRow i => cases h
    | webcam => cases h
  · intro hkept
    rcases mem_matchedCards_iff.mp hcard with ⟨i, hslot⟩ | hunassigned
    · exact ⟨.usbCSlot i, hslot⟩
    · obtain ⟨index, hindex⟩ := List.mem_iff_getElem?.mp hunassigned
      have hlt : index < 4 := by
        by_contra hge
        refine hkept (List.mem_iff_getElem?.mpr ⟨index - 4, ?_⟩)
        rw [List.getElem?_drop, Nat.add_sub_cancel' (Nat.not_lt.mp hge)]
        exact hindex
      exact ⟨.detached ⟨index, hlt⟩, hindex⟩

theorem recognises_of_topRowOrigin {family : Option PlatformFamily} {i : Fin 5}
    {k : Fin buses.usb.length} (h : buses.topRowOrigin upstream family i = some k) :
    UsbDetector.inputModules.recognises upstream (buses.usb.get k) = true ∧
      inputModuleSlot (buses.usb.get k) = Int32.ofNat i := by
  unfold topRowOrigin at h
  split_ifs at h
  refine ⟨mem_recognised.mp (List.mem_reverse.mp (List.mem_of_find?_eq_some h)), ?_⟩
  have hslot := List.find?_some h
  exact of_decide_eq_true hslot

theorem recognises_of_webcamOrigin {k : Fin buses.usb.length}
    (h : buses.webcamOrigin upstream = some k) :
    UsbDetector.cameras.recognises upstream (buses.usb.get k) = true :=
  mem_recognised.mp (List.mem_of_head? h)

theorem recognises_of_moduleOrigin {family : Option PlatformFamily} {location : Location}
    {k : Fin buses.usb.length}
    (h : buses.moduleOrigin upstream family location = some k) :
    ∃ detector, detector.recognises upstream (buses.usb.get k) = true ∧
      ∀ kind, detector ≠ UsbDetector.card kind := by
  cases location with
  | topRow i => exact ⟨.inputModules, (recognises_of_topRowOrigin h).1, by simp⟩
  | webcam => exact ⟨.cameras, recognises_of_webcamOrigin h, by simp⟩
  | usbCSlot i => cases h
  | detached k => cases h

theorem topRowOrigin_ne_webcamOrigin (hupstream : upstream.Tabulated)
    {family : Option PlatformFamily} {i : Fin 5} {k : Fin buses.usb.length}
    (h : buses.topRowOrigin upstream family i = some k) :
    buses.webcamOrigin upstream ≠ some k := by
  intro hwebcam
  have hdetector := UsbDetector.recognises_unique hupstream (recognises_of_topRowOrigin h).1
    (recognises_of_webcamOrigin hwebcam)
  cases hdetector

theorem moduleOrigin_unique (hupstream : upstream.Tabulated) {family : Option PlatformFamily}
    {location other : Location} {k : Fin buses.usb.length}
    (h : buses.moduleOrigin upstream family location = some k)
    (hother : buses.moduleOrigin upstream family other = some k) : location = other := by
  cases location with
  | topRow i =>
      cases other with
      | topRow j =>
          have hslots := (recognises_of_topRowOrigin h).2.symm.trans
            (recognises_of_topRowOrigin hother).2
          have hij : ∀ i j : Fin 5, Int32.ofNat i = Int32.ofNat j → i = j := by decide
          rw [hij i j hslots]
      | webcam => exact absurd hother (topRowOrigin_ne_webcamOrigin hupstream h)
      | usbCSlot j => cases hother
      | detached j => cases hother
  | webcam =>
      cases other with
      | topRow j => exact absurd h (topRowOrigin_ne_webcamOrigin hupstream hother)
      | webcam => rfl
      | usbCSlot j => cases hother
      | detached j => cases hother
  | usbCSlot i => cases h
  | detached i => cases h

theorem origin_eq_some_iff {family : Option PlatformFamily} {location : Location}
    {entry : BusEntry buses} :
    buses.origin upstream family n pd location = some entry ↔
      (∃ card, buses.cardOrigin upstream n pd location = some card ∧ card.entry = entry) ∨
        ∃ k, buses.moduleOrigin upstream family location = some k ∧ .usb k = entry := by
  rw [origin, Option.or_eq_some_iff, Option.map_eq_some_iff, Option.map_eq_some_iff,
    Option.map_eq_none_iff]
  constructor
  · rintro (hcard | ⟨-, hmodule⟩)
    · exact .inl hcard
    · exact .inr hmodule
  · rintro (hcard | hmodule)
    · exact .inl hcard
    · refine .inr ⟨?_, hmodule⟩
      obtain ⟨k, hk, -⟩ := hmodule
      cases location with
      | usbCSlot i => cases hk
      | detached i => cases hk
      | topRow i => rfl
      | webcam => rfl

/-- The entry of a card is not the entry of an internal module. -/
theorem entry_ne_of_moduleOrigin (hupstream : upstream.Tabulated)
    {family : Option PlatformFamily} {location : Location} {k : Fin buses.usb.length}
    (h : buses.moduleOrigin upstream family location = some k) {card : CardOrigin buses}
    (hcard : card ∈ buses.matchedCards upstream) : card.entry ≠ .usb k := by
  rcases card with j | ⟨kind, j⟩
  · simp [CardOrigin.entry]
  · intro heq
    obtain rfl := BusEntry.usb.inj heq
    obtain ⟨detector, hdetector, hne⟩ := recognises_of_moduleOrigin h
    exact hne kind (UsbDetector.recognises_unique hupstream hdetector
      (recognises_of_mem_matchedCards hcard))

theorem origin_unique (hupstream : upstream.Tabulated) {family : Option PlatformFamily}
    {location other : Location} {entry : BusEntry buses}
    (h : buses.origin upstream family n pd location = some entry)
    (hother : buses.origin upstream family n pd other = some entry) : location = other := by
  rcases origin_eq_some_iff.mp h with ⟨card, hcard, rfl⟩ | ⟨k, hk, rfl⟩ <;>
    rcases origin_eq_some_iff.mp hother with ⟨card', hcard', heq⟩ | ⟨k', hk', heq⟩
  · obtain rfl := eq_of_entry_eq hupstream (mem_matchedCards_of_cardOrigin hcard')
      (mem_matchedCards_of_cardOrigin hcard) heq
    exact cardOrigin_unique hcard hcard'
  · exact absurd heq.symm
      (entry_ne_of_moduleOrigin hupstream hk' (mem_matchedCards_of_cardOrigin hcard))
  · exact absurd heq
      (entry_ne_of_moduleOrigin hupstream hk (mem_matchedCards_of_cardOrigin hcard'))
  · obtain rfl := BusEntry.usb.inj heq
    exact moduleOrigin_unique hupstream hk hk'

/-- The entry of a card is behind a location exactly when the card is. -/
theorem origin_eq_entry_iff (hupstream : upstream.Tabulated) {family : Option PlatformFamily}
    {location : Location} {card : CardOrigin buses}
    (hcard : card ∈ buses.matchedCards upstream) :
    buses.origin upstream family n pd location = some card.entry ↔
      buses.cardOrigin upstream n pd location = some card := by
  rw [origin_eq_some_iff]
  constructor
  · rintro (⟨card', hcard', heq⟩ | ⟨k, hk, heq⟩)
    · rw [hcard', eq_of_entry_eq hupstream (mem_matchedCards_of_cardOrigin hcard') hcard heq]
    · exact absurd heq.symm (entry_ne_of_moduleOrigin hupstream hk hcard)
  · exact fun h => .inl ⟨card, h, rfl⟩

end Cards

end Enumerations

end FrameworkFfi
